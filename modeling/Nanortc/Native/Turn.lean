import Nanortc.Native.Stun

/-!
# TURN client

Allocations, permissions, channels and the two framings of relayed data after `nano_turn.c`. The
permission and channel tables are lists whose length is the count. A builder returns the bytes it
wrote, none for `*out_len == 0`; the transaction id a call draws is `random`, `none` when the
provider fails.
-/

namespace Nanortc.Native

open Nanortc.ForStd

/-! ### Constants -/

/-- `TURN_DEFAULT_LIFETIME`. -/
def turnDefaultLifetime : UInt32 := 600

/-- `TURN_REFRESH_MARGIN_MS`. -/
def turnRefreshMarginMs : UInt32 := 60000

/-- `TURN_PERMISSION_INTERVAL_MS`. -/
def turnPermissionIntervalMs : UInt32 := 240000

/-- `TURN_CHANNEL_REFRESH_MS`. -/
def turnChannelRefreshMs : UInt32 := 540000

/-- `TURN_TRANSPORT_UDP`. -/
def turnTransportUdp : UInt8 := 17

/-- `TURN_RTO_MAX_MULTIPLIER`. -/
def turnRtoMaxMultiplier : UInt32 := 16

/-- `NANORTC_TURN_RTO_MS`. -/
def turnRtoMs : UInt32 := 500

/-- `NANORTC_TURN_MAX_TRANSMISSIONS`. -/
def turnMaxTransmissions : Nat := 7

/-- `NANORTC_TURN_MAX_PERMISSIONS`. -/
def turnMaxPermissions : Nat := 8

/-- `NANORTC_TURN_MAX_CHANNELS`. -/
def turnMaxChannels : Nat := 4

/-- `NANORTC_TURN_USERNAME_SIZE`, also the size of password and realm. -/
def turnTextSize : Nat := 64

/-- `NANORTC_TURN_NONCE_SIZE`. -/
def turnNonceSize : Nat := 128

/-- `NANORTC_TURN_HMAC_KEY_SIZE`. -/
def turnHmacKeySize : Nat := 16

/-- `NANORTC_TURN_MAX_REQUEST_SIZE`: header, CHANNEL-NUMBER, XOR-PEER-ADDRESS, USERNAME, REALM,
NONCE and MESSAGE-INTEGRITY at their largest. -/
def turnMaxRequestSize : Nat := 20 + 8 + 24 + 68 + 68 + 132 + 24

/-- Method and class of a TURN message. -/
inductive TurnMsgType where
  | allocateResponse
  | allocateError
  | refreshResponse
  | refreshError
  | permissionResponse
  | permissionError
  | channelBindResponse
  | channelBindError
  | other
deriving Repr, DecidableEq

/-- The message type of a wire type (`STUN_ALLOCATE_RESPONSE` and so on). -/
def TurnMsgType.ofType (t : UInt16) : TurnMsgType :=
  if t = 0x0103 then .allocateResponse
  else if t = 0x0113 then .allocateError
  else if t = 0x0104 then .refreshResponse
  else if t = 0x0114 then .refreshError
  else if t = 0x0108 then .permissionResponse
  else if t = 0x0118 then .permissionError
  else if t = 0x0109 then .channelBindResponse
  else if t = 0x0119 then .channelBindError
  else .other

/-! ### State -/

/-- `nano_turn_state_t`. -/
inductive TurnState where
  | idle
  | allocating
  | challenged
  | allocated
  | failed
deriving Repr, DecidableEq, Inhabited

/-- `nano_turn_txn_t`. -/
inductive TurnTxn where
  | none
  | allocate
  | refresh
deriving Repr, DecidableEq, Inhabited

/-- `nano_turn_request_state_t`. -/
inductive TurnRequest where
  | none
  | waiting
  | reauth
deriving Repr, DecidableEq, Inhabited

/-- `nano_turn_permission_t`. -/
structure TurnPermission where
  addr : List UInt8
  deadlineMs : UInt32 := 0
  txid : List UInt8
  port : UInt16
  family : UInt8
  active : Bool := false
  pending : TurnRequest := .none
  transmissions : Nat := 0
  terminal : Bool := false
deriving Repr, DecidableEq, Inhabited

/-- One entry of `channels`. -/
structure TurnChannel where
  addr : List UInt8
  deadlineMs : UInt32 := 0
  txid : List UInt8
  port : UInt16
  channel : UInt16
  family : UInt8
  bound : Bool := false
  pending : TurnRequest := .none
  transmissions : Nat := 0
deriving Repr, DecidableEq, Inhabited

/-- `nano_turn_t`. `auth` is the union of password and HMAC key. -/
structure NanoTurn where
  state : TurnState
  configured : Bool
  serverAddr : List UInt8
  serverPort : UInt16
  serverFamily : UInt8
  username : List UInt8
  auth : List UInt8
  passwordLen : Nat
  realm : List UInt8
  nonce : List UInt8
  hmacKeyValid : Bool
  relay : StunAddr
  transaction : TurnTxn
  transactionAuthenticated : Bool
  transactionTransmissions : Nat
  transactionReauth : Bool
  lifetimeS : UInt32
  refreshAtMs : UInt32
  transactionRetryAtMs : UInt32
  lastTxid : List UInt8
  nextChannel : UInt16
  permissions : List TurnPermission
  channels : List TurnChannel
deriving Repr, DecidableEq

/-- `turn_init`. -/
def turnInit : NanoTurn where
  state := .idle
  configured := false
  serverAddr := List.replicate addrSize 0
  serverPort := 0
  serverFamily := 0
  username := []
  auth := List.replicate turnTextSize 0
  passwordLen := 0
  realm := []
  nonce := []
  hmacKeyValid := false
  relay := .none
  transaction := .none
  transactionAuthenticated := false
  transactionTransmissions := 0
  transactionReauth := false
  lifetimeS := 0
  refreshAtMs := 0
  transactionRetryAtMs := 0
  lastTxid := List.replicate stunTxidSize 0
  nextChannel := 0x4000
  permissions := []
  channels := []

/-- `auth.hmac_key`. -/
def NanoTurn.hmacKey (turn : NanoTurn) : List UInt8 := turn.auth.take turnHmacKeySize

/-! ### Delays -/

/-- `turn_refresh_delay_ms`. -/
def turnRefreshDelayMs (lifetimeS : UInt32) : UInt32 :=
  let boundedS := min lifetimeS (0x7FFFFFFF / 1000)
  let lifetimeMs := boundedS * 1000
  let marginMs := if boundedS > 60 then turnRefreshMarginMs else lifetimeMs / 2
  let delayMs := lifetimeMs - marginMs
  if delayMs = 0 then 1 else delayMs

/-- `turn_retry_delay_ms`: the RTO doubled for every transmission after the first, capped. -/
def turnRetryDelayMs (transmissions : Nat) : UInt32 :=
  let maxDelayMs := turnRtoMs * turnRtoMaxMultiplier
  let rec double : Nat → UInt32 → UInt32
    | 0, delayMs => delayMs
    | n + 1, delayMs =>
      if delayMs ≥ maxDelayMs / 2 then maxDelayMs else double n (delayMs * 2)
  double (transmissions - 1) turnRtoMs

/-! ### Message builders -/

/-- `stun_encode_xor_addr`: every family but 4 is written as IPv6. -/
def turnXorAddr (type : UInt16) (peer : NanortcAddr) (txid : List UInt8) : List UInt8 :=
  let port := u16be (peer.port ^^^ (stunMagicCookie >>> 16).toUInt16)
  let val :=
    if peer.family = 4 then
      [0, stunFamilyIpv4] ++ port ++ u32be (readU32be peer.addr 0 ^^^ stunMagicCookie)
    else
      [0, stunFamilyIpv6] ++ port ++
        List.zipWith (· ^^^ ·) peer.addr (u32be stunMagicCookie ++ txid)
  stunAttr type val

/-- `stun_finalize_length`. -/
def stunFinalizeLength (buf : List UInt8) : List UInt8 :=
  writeAt buf 2 (u16be (UInt16.ofNat (buf.length - stunHeaderSize)))

/-- `stun_append_integrity`. -/
def stunAppendIntegrity (crypto : CryptoProvider) (buf key : List UInt8) : List UInt8 :=
  let buf := writeAt buf 2 (u16be (UInt16.ofNat (buf.length - stunHeaderSize + 24)))
  stunFinalizeLength (buf ++ stunAttr 0x0008 (crypto.hmacSha1 key buf))

/-- USERNAME, REALM and NONCE of the long-term credentials, then MESSAGE-INTEGRITY. -/
def turnSign (crypto : CryptoProvider) (turn : NanoTurn) (buf : List UInt8) : List UInt8 :=
  stunAppendIntegrity crypto
    (buf ++ stunAttr 0x0006 turn.username ++ stunAttr 0x0014 turn.realm ++
      stunAttr 0x0015 turn.nonce) turn.hmacKey

/-- `turn_build_allocate`. -/
def turnBuildAllocate (crypto : CryptoProvider) (turn : NanoTurn) (authenticated : Bool)
    (txid : List UInt8) (bufLen : Nat) : Except Rc (List UInt8) :=
  if bufLen < turnMaxRequestSize then .error .bufferTooSmall
  else
    let buf := stunHeader 0x0003 0 txid ++ stunAttr 0x0019 [turnTransportUdp, 0, 0, 0] ++
      stunAttr 0x000D (u32be turnDefaultLifetime)
    .ok (if authenticated then turnSign crypto turn buf else stunFinalizeLength buf)

/-- `turn_build_refresh`. -/
def turnBuildRefresh (crypto : CryptoProvider) (turn : NanoTurn) (lifetimeS : UInt32)
    (txid : List UInt8) (bufLen : Nat) : Except Rc (List UInt8) :=
  if bufLen < turnMaxRequestSize then .error .bufferTooSmall
  else .ok (turnSign crypto turn (stunHeader 0x0004 0 txid ++ stunAttr 0x000D (u32be lifetimeS)))

/-- `turn_build_permission`. -/
def turnBuildPermission (crypto : CryptoProvider) (turn : NanoTurn) (peer : NanortcAddr)
    (txid : List UInt8) (bufLen : Nat) : Except Rc (List UInt8) :=
  if bufLen < turnMaxRequestSize then .error .bufferTooSmall
  else .ok (turnSign crypto turn (stunHeader 0x0008 0 txid ++ turnXorAddr 0x0012 peer txid))

/-- `turn_build_channel_bind`. -/
def turnBuildChannelBind (crypto : CryptoProvider) (turn : NanoTurn) (c : TurnChannel)
    (txid : List UInt8) (bufLen : Nat) : Except Rc (List UInt8) :=
  if bufLen < turnMaxRequestSize then .error .bufferTooSmall
  else
    .ok (turnSign crypto turn (stunHeader 0x0009 0 txid ++
      stunAttr 0x000C (u16be c.channel ++ [0, 0]) ++
      turnXorAddr 0x0012 ⟨c.family, c.addr, c.port⟩ txid))

/-! ### Keys, nonces and transactions -/

/-- `turn_derive_key`: MD5 of `username:realm:password` takes the place of the password. -/
def turnDeriveKey (crypto : CryptoProvider) (turn : NanoTurn) : NanoTurn :=
  let input := turn.username ++ [0x3A] ++ turn.realm ++ [0x3A] ++ turn.auth.take turn.passwordLen
  { turn with auth := writeAt turn.auth 0 (crypto.md5 input), hmacKeyValid := true }

/-- A request that waits for its response needs a new transaction. -/
def TurnRequest.renew : TurnRequest → TurnRequest
  | .none => .none
  | _ => .reauth

/-- `turn_store_nonce`. -/
def turnStoreNonce (turn : NanoTurn) (nonce : List UInt8) : NanoTurn :=
  { turn with
    nonce := nonce.take (turnNonceSize - 1)
    transactionReauth :=
      turn.transactionReauth || (turn.transaction != .none && turn.transactionAuthenticated)
    permissions := turn.permissions.map fun p => { p with pending := p.pending.renew }
    channels := turn.channels.map fun c => { c with pending := c.pending.renew } }

/-- `turn_clear_transaction`. -/
def turnClearTransaction (turn : NanoTurn) : NanoTurn :=
  { turn with
    transaction := .none
    transactionAuthenticated := false
    transactionReauth := false
    transactionRetryAtMs := 0
    transactionTransmissions := 0 }

/-- `turn_start_transaction`. -/
def turnStartTransaction (turn : NanoTurn) (transaction : TurnTxn) (authenticated : Bool)
    (txid : List UInt8) : NanoTurn :=
  { turn with
    lastTxid := txid
    transaction := transaction
    transactionAuthenticated := authenticated
    transactionReauth := false
    transactionRetryAtMs := 0
    transactionTransmissions := 1 }

/-- `turn_reset_peer_state`. -/
def turnResetPeerState (turn : NanoTurn) : NanoTurn :=
  { turn with permissions := [], channels := [], nextChannel := 0x4000 }

/-! ### Configuration and allocation -/

/-- `turn_configure`. -/
def turnConfigure (turn : NanoTurn) (server : NanortcAddr) (username password : List UInt8) :
    NanoTurn × Rc :=
  if username.length ≥ turnTextSize ∨ password.length ≥ turnTextSize then (turn, .bufferTooSmall)
  else
    ({ turn with
      serverAddr := server.addr
      serverFamily := server.family
      serverPort := server.port
      username := username
      auth := writeAt turn.auth 0 (password ++ [0])
      passwordLen := password.length
      configured := true }, .ok)

/-- `turn_start_allocate`. -/
def turnStartAllocate (crypto : CryptoProvider) (turn : NanoTurn) (random : Option (List UInt8))
    (bufLen : Nat) : NanoTurn × Except Rc (List UInt8) :=
  if !turn.configured then (turn, .error .state)
  else if turn.transaction ≠ .none then (turn, .error .state)
  else
    match random with
    | none => (turn, .error .crypto)
    | some txid =>
      let authenticated := turn.state == .challenged && turn.hmacKeyValid
      match turnBuildAllocate crypto turn authenticated txid bufLen with
      | .error e => (turn, .error e)
      | .ok out =>
        ({ turnStartTransaction turn .allocate authenticated txid with state := .allocating },
          .ok out)

/-- `turn_generate_refresh`. -/
def turnGenerateRefresh (crypto : CryptoProvider) (turn : NanoTurn) (nowMs : UInt32)
    (random : Option (List UInt8)) (bufLen : Nat) : NanoTurn × Except Rc (List UInt8) :=
  if turn.state ≠ .allocated then (turn, .ok [])
  else if turn.transaction ≠ .none then (turn, .ok [])
  else if turn.refreshAtMs ≠ 0 ∧ !nanoTimeIsDue nowMs turn.refreshAtMs then (turn, .ok [])
  else
    match random with
    | none => (turn, .error .crypto)
    | some txid =>
      match turnBuildRefresh crypto turn turnDefaultLifetime txid bufLen with
      | .error e => (turn, .error e)
      | .ok out => (turnStartTransaction turn .refresh true txid, .ok out)

/-- `turn_deallocate`. -/
def turnDeallocate (crypto : CryptoProvider) (turn : NanoTurn) (random : Option (List UInt8))
    (bufLen : Nat) : NanoTurn × Except Rc (List UInt8) :=
  if turn.state ≠ .allocated ∨ !turn.hmacKeyValid then (turn, .error .state)
  else if bufLen < turnMaxRequestSize then (turn, .error .bufferTooSmall)
  else
    match random with
    | none => (turn, .error .crypto)
    | some txid =>
      match turnBuildRefresh crypto turn 0 txid bufLen with
      | .error e => (turn, .error e)
      | .ok out =>
        let turn := turnClearTransaction { turn with state := .idle }
        (turnResetPeerState { turn with
          lifetimeS := 0, relay := { turn.relay with family := 0 }, refreshAtMs := 0 }, .ok out)

/-! ### Responses -/

/-- A fatal answer: the client fails. -/
def turnFail (turn : NanoTurn) : NanoTurn × Rc := ({ turn with state := .failed }, .protocol)

/-- The `STUN_ALLOCATE_ERROR` branch of `turn_handle_response`. -/
def turnHandleAllocateError (crypto : CryptoProvider) (turn : NanoTurn) (msg : StunMsg) :
    NanoTurn × Rc :=
  if msg.errorCode = 401 ∧ turn.state = .allocating then
    if turn.transactionAuthenticated then turnFail (turnClearTransaction turn)
    else
      let turn := turnClearTransaction turn
      match msg.realm, msg.nonce with
      | some realm, some nonce =>
        let turn := turnStoreNonce { turn with realm := realm.take (turnTextSize - 1) } nonce
        ({ turnDeriveKey crypto turn with state := .challenged }, .ok)
      | _, _ => turnFail turn
  else turnFail (turnClearTransaction turn)

/-- A CreatePermission error: 403 and 443 end the peer's permission, 508 delays it, anything else
ends the allocation. -/
def turnHandlePermissionError (turn : NanoTurn) (nowMs : UInt32) (msg : StunMsg) (i : Nat)
    (p : TurnPermission) : NanoTurn × Rc :=
  let p := { p with pending := .none, deadlineMs := 0, active := false, transmissions := 0 }
  if msg.errorCode = 403 ∨ msg.errorCode = 443 then
    ({ turn with permissions := turn.permissions.set i { p with terminal := true } }, .ok)
  else if msg.errorCode = 508 then
    let deadlineMs := nanoTimeDeadline nowMs (turnRetryDelayMs turnMaxTransmissions)
    ({ turn with
      permissions := turn.permissions.set i
        { p with terminal := false, deadlineMs := deadlineMs } }, .ok)
  else
    turnFail { turn with permissions := turn.permissions.set i { p with terminal := false } }

/-- The dispatch of `turn_handle_response` on an accepted message; `perm` and `chan` are the
table entries it answers. -/
def turnDispatchResponse (crypto : CryptoProvider) (turn : NanoTurn) (nowMs : UInt32)
    (msg : StunMsg) (perm chan : Option Nat) : NanoTurn × Rc :=
  let lifetimeS := if msg.lifetime > 0 then msg.lifetime else turnDefaultLifetime
  let refreshAtMs := nanoTimeDeadline nowMs (turnRefreshDelayMs lifetimeS)
  match TurnMsgType.ofType msg.type with
  | .allocateResponse =>
    if msg.relayed.family = 0 then (turn, .protocol)
    else
      (turnClearTransaction { turn with
        relay := msg.relayed
        lifetimeS := lifetimeS
        refreshAtMs := refreshAtMs
        state := .allocated }, .ok)
  | .allocateError => turnHandleAllocateError crypto turn msg
  | .refreshResponse =>
    ({ turnClearTransaction turn with lifetimeS := lifetimeS, refreshAtMs := refreshAtMs }, .ok)
  | .refreshError => turnFail (turnClearTransaction turn)
  | .permissionResponse =>
    match perm with
    | none => (turn, .protocol)
    | some i =>
      let p := turn.permissions.getD i default
      let deadlineMs := nanoTimeDeadline nowMs turnPermissionIntervalMs
      ({ turn with
        permissions := turn.permissions.set i { p with
          pending := .none
          active := true
          terminal := false
          transmissions := 0
          deadlineMs := deadlineMs } }, .ok)
  | .permissionError =>
    match perm with
    | none => (turn, .protocol)
    | some i => turnHandlePermissionError turn nowMs msg i (turn.permissions.getD i default)
  | .channelBindResponse =>
    match chan with
    | none => (turn, .protocol)
    | some i =>
      let c := turn.channels.getD i default
      let deadlineMs := nanoTimeDeadline nowMs turnChannelRefreshMs
      ({ turn with
        channels := turn.channels.set i { c with
          pending := .none, bound := true, deadlineMs := deadlineMs } }, .ok)
  | .channelBindError =>
    match chan with
    | none => (turn, .protocol)
    | some i =>
      let c := turn.channels.getD i default
      ({ turn with channels := turn.channels.set i { c with pending := .none, deadlineMs := 0 } },
        .protocol)
  | .other => (turn, .protocol)

/-- The stale-nonce answer (438): the answered request is sent again at once under the new nonce,
unless it has used up its transmissions. -/
def turnHandleStaleNonce (turn : NanoTurn) (nowMs : UInt32) (msg : StunMsg)
    (txidMatch authenticated : Bool) (perm chan : Option Nat) : NanoTurn × Rc :=
  let transmissions :=
    if txidMatch then turn.transactionTransmissions
    else match perm with
      | some i => (turn.permissions.getD i default).transmissions
      | none => (turn.channels.getD (chan.getD 0) default).transmissions
  match msg.nonce with
  | none => turnFail (turnClearTransaction turn)
  | some nonce =>
    if !authenticated ∨ nonce.length = 0 ∨ transmissions ≥ turnMaxTransmissions then
      turnFail (turnClearTransaction turn)
    else
      let turn := turnStoreNonce turn nonce
      if txidMatch then ({ turn with transactionRetryAtMs := nowMs }, .ok)
      else
        match perm with
        | some i =>
          let p := turn.permissions.getD i default
          ({ turn with permissions := turn.permissions.set i { p with deadlineMs := nowMs } }, .ok)
        | none =>
          let i := chan.getD 0
          let c := turn.channels.getD i default
          ({ turn with channels := turn.channels.set i { c with deadlineMs := nowMs } }, .ok)

/-- The permission entry a message answers. -/
def turnAnsweredPermission (turn : NanoTurn) (msg : StunMsg) : Option Nat :=
  let type := TurnMsgType.ofType msg.type
  if type = .permissionResponse ∨ type = .permissionError then
    turn.permissions.findIdx? fun p => p.pending == .waiting && p.txid == msg.transactionId
  else none

/-- The channel entry a message answers. -/
def turnAnsweredChannel (turn : NanoTurn) (msg : StunMsg) : Option Nat :=
  let type := TurnMsgType.ofType msg.type
  if type = .channelBindResponse ∨ type = .channelBindError then
    turn.channels.findIdx? fun c => c.pending == .waiting && c.txid == msg.transactionId
  else none

/-- `turn_handle_response`. -/
def turnHandleResponse (crypto : CryptoProvider) (turn : NanoTurn) (nowMs : UInt32)
    (data : List UInt8) : NanoTurn × Rc :=
  match stunParse data with
  | .error e => (turn, e)
  | .ok msg =>
    let type := TurnMsgType.ofType msg.type
    let txidMatch := turn.transaction != .none && !turn.transactionReauth &&
      msg.transactionId == turn.lastTxid
    let allocation := type == .allocateResponse || type == .allocateError
    let refresh := type == .refreshResponse || type == .refreshError
    if txidMatch ∧ ((turn.transaction = .allocate ∧ !allocation) ∨
        (turn.transaction = .refresh ∧ !refresh)) then (turn, .protocol)
    else
      let perm := turnAnsweredPermission turn msg
      let chan := turnAnsweredChannel turn msg
      -- a foreign or late answer is ignored
      if !txidMatch ∧ perm = none ∧ chan = none then (turn, .ok)
      else if msg.hasFingerprint ∧ stunVerifyFingerprint data ≠ .ok then (turn, .ok)
      else
        let authenticated :=
          (txidMatch && turn.transactionAuthenticated) || perm.isSome || chan.isSome
        let error := type == .allocateError || type == .refreshError ||
          type == .channelBindError || type == .permissionError
        let challenge := error && (msg.errorCode == 401 || msg.errorCode == 438)
        if authenticated ∧ (msg.hasIntegrity ∨ !challenge) ∧
            stunVerifyIntegrity crypto data msg turn.hmacKey ≠ .ok then (turn, .ok)
        else if error ∧ msg.errorCode = 438 then
          turnHandleStaleNonce turn nowMs msg txidMatch authenticated perm chan
        else turnDispatchResponse crypto turn nowMs msg perm chan

/-! ### Permissions -/

/-- Bytes of an address that count for its family. -/
def addrLen (family : UInt8) : Nat := if family = 4 then 4 else 16

/-- `memcmp` of two addresses of a family. -/
def addrEq (family : UInt8) (a b : List UInt8) : Bool :=
  a.take (addrLen family) == b.take (addrLen family)

/-- `turn_find_permission`. -/
def turnFindPermission (turn : NanoTurn) (addr : List UInt8) (family : UInt8) : Option Nat :=
  turn.permissions.findIdx? fun p => p.family == family && addrEq family p.addr addr

/-- `turn_can_create_permission`. -/
def turnCanCreatePermission (turn : NanoTurn) (addr : List UInt8) (family : UInt8)
    (nowMs : UInt32) : Bool :=
  let relayFamily : UInt8 :=
    if turn.relay.family = stunFamilyIpv4 then 4
    else if turn.relay.family = stunFamilyIpv6 then 6
    else 0
  if !turn.configured ∨ turn.state ≠ .allocated ∨ family ≠ relayFamily then false
  else
    match turnFindPermission turn addr family with
    | none => turn.permissions.length < turnMaxPermissions
    | some i =>
      let p := turn.permissions.getD i default
      !p.active && p.pending == .none && !p.terminal &&
        (p.deadlineMs == 0 || nanoTimeIsDue nowMs p.deadlineMs)

/-- `turn_peer_is_ready`. -/
def turnPeerIsReady (turn : NanoTurn) (addr : List UInt8) (family : UInt8) : Bool :=
  match turnFindPermission turn addr family with
  | none => turn.permissions.length ≥ turnMaxPermissions
  | some i =>
    let p := turn.permissions.getD i default
    p.active || p.terminal

/-- `turn_create_permission`. -/
def turnCreatePermission (crypto : CryptoProvider) (turn : NanoTurn) (peer : NanortcAddr)
    (random : Option (List UInt8)) (bufLen : Nat) : NanoTurn × Except Rc (List UInt8) :=
  if turn.state ≠ .allocated ∨ !turn.hmacKeyValid then (turn, .error .state)
  else if bufLen < turnMaxRequestSize then (turn, .error .bufferTooSmall)
  else
    let found := turnFindPermission turn peer.addr peer.family
    let old := found.map fun i => turn.permissions.getD i default
    if found = none ∧ turn.permissions.length ≥ turnMaxPermissions then
      (turn, .error .bufferTooSmall)
    else if old.any fun p => p.pending ≠ .none || p.terminal then (turn, .ok [])
    else
      match random with
      | none => (turn, .error .crypto)
      | some txid =>
        match turnBuildPermission crypto turn peer txid bufLen with
        | .error e => (turn, .error e)
        | .ok out =>
          let p := old.getD { addr := peer.addr, family := peer.family, port := 0, txid := [] }
          let p := { p with
            port := peer.port
            txid := txid
            pending := .waiting
            terminal := false
            deadlineMs := 0
            transmissions := 1 }
          let permissions := match found with
            | none => turn.permissions ++ [p]
            | some i => turn.permissions.set i p
          ({ turn with permissions := permissions }, .ok out)

/-! ### Channels -/

/-- The entry is for the peer. -/
def TurnChannel.isFor (c : TurnChannel) (peer : NanortcAddr) : Bool :=
  c.family == peer.family && c.port == peer.port && addrEq peer.family c.addr peer.addr

/-- The peer an entry is for. -/
def TurnChannel.peer (c : TurnChannel) : NanortcAddr := ⟨c.family, c.addr, c.port⟩

/-- `turn_can_bind_channel`. -/
def turnCanBindChannel (turn : NanoTurn) (peer : NanortcAddr) : Bool :=
  if turn.state ≠ .allocated ∨ peer.family = 0 then false
  else
    match turnFindPermission turn peer.addr peer.family with
    | none => false
    | some i =>
      if !(turn.permissions.getD i default).active then false
      else
        match turn.channels.find? (·.isFor peer) with
        | some c => !c.bound && c.pending == .none
        | none => turn.channels.length < turnMaxChannels && turn.nextChannel ≤ 0x4FFE

/-- `turn_channel_bind`. -/
def turnChannelBind (crypto : CryptoProvider) (turn : NanoTurn) (peer : NanortcAddr)
    (random : Option (List UInt8)) (bufLen : Nat) : NanoTurn × Except Rc (List UInt8) :=
  if turn.state ≠ .allocated ∨ !turn.hmacKeyValid then (turn, .error .state)
  else if bufLen < turnMaxRequestSize then (turn, .error .bufferTooSmall)
  else
    match turn.channels.findIdx? (·.isFor peer) with
    | none =>
      -- a new entry takes the next channel number; a failed build takes it back
      if turn.channels.length ≥ turnMaxChannels then (turn, .error .bufferTooSmall)
      else if turn.nextChannel > 0x4FFE then (turn, .error .bufferTooSmall)
      else
        match random with
        | none => (turn, .error .crypto)
        | some txid =>
          let c : TurnChannel := {
            addr := peer.addr
            family := peer.family
            port := peer.port
            channel := turn.nextChannel
            txid := txid }
          match turnBuildChannelBind crypto turn c txid bufLen with
          | .error e => (turn, .error e)
          | .ok out =>
            ({ turn with
              channels := turn.channels ++
                [{ c with pending := .waiting, deadlineMs := 0, transmissions := 1 }]
              nextChannel := turn.nextChannel + 1 }, .ok out)
    | some i =>
      let c := turn.channels.getD i default
      if c.pending ≠ .none then (turn, .ok [])
      else
        match random with
        | none => (turn, .error .crypto)
        | some txid =>
          let c := { c with port := peer.port, txid := txid }
          match turnBuildChannelBind crypto turn c txid bufLen with
          | .error e => ({ turn with channels := turn.channels.set i c }, .error e)
          | .ok out =>
            let c := { c with pending := .waiting, deadlineMs := 0, transmissions := 1 }
            ({ turn with channels := turn.channels.set i c }, .ok out)

/-- `turn_find_channel_for_peer`. -/
def turnFindChannelForPeer (turn : NanoTurn) (peer : NanortcAddr) : Option UInt16 :=
  (turn.channels.find? fun c => c.bound && c.isFor peer).map (·.channel)

/-- `turn_find_peer_for_channel`. -/
def turnFindPeerForChannel (turn : NanoTurn) (channel : UInt16) : Option NanortcAddr :=
  (turn.channels.find? fun c => c.bound && c.channel == channel).map (·.peer)

/-! ### Relayed data -/

/-- `turn_wrap_send`. -/
def turnWrapSend (peer : NanortcAddr) (payload : List UInt8) (bufLen : Nat) :
    Except Rc (List UInt8) :=
  if bufLen < stunHeaderSize + 32 + 4 + attrPadded payload.length then .error .bufferTooSmall
  else
    let txid := List.replicate stunTxidSize 0
    -- the length goes through a `uint16_t`, and only that many bytes are copied
    .ok (stunFinalizeLength (stunHeader 0x0016 0 txid ++ turnXorAddr 0x0012 peer txid ++
      stunAttr 0x0013 (payload.take (payload.length % 65536))))

/-- `turn_unwrap_data`: the peer as the STUN attribute carries it, and the payload. -/
def turnUnwrapData (data : List UInt8) : Except Rc (StunAddr × List UInt8) :=
  match stunParse data with
  | .error e => .error e
  | .ok msg =>
    if msg.type ≠ stunDataIndication then .error .protocol
    else
      match msg.dataAttr with
      | none => .error .protocol
      | some payload =>
        if msg.peer.family = 0 ∨ payload.length = 0 then .error .protocol
        else .ok (msg.peer, payload)

/-- The out-parameters of `turn_unwrap_data`. -/
structure TurnDataOut where
  peer : StunAddr
  payload : List UInt8
deriving Repr, DecidableEq

/-- `turn_unwrap_data` with its out-parameters. -/
def turnUnwrapDataInto (out : TurnDataOut) (data : List UInt8) : TurnDataOut × Rc :=
  match stunParse data with
  | .error e => (out, e)
  | .ok msg =>
    if msg.type ≠ stunDataIndication then (out, .protocol)
    else
      match msg.dataAttr with
      | none => (out, .protocol)
      | some payload =>
        if msg.peer.family = 0 ∨ payload.length = 0 then (out, .protocol)
        else ({ peer := msg.peer, payload := payload }, .ok)

/-- `turn_is_from_server`. -/
def turnIsFromServer (turn : NanoTurn) (src : NanortcAddr) : Bool :=
  if !turn.configured then false
  else if src.family ≠ turn.serverFamily ∨ src.port ≠ turn.serverPort then false
  else addrEq src.family src.addr turn.serverAddr

/-- `nano_turn_wrap_channel_data`. -/
def nanoTurnWrapChannelData (channel : UInt16) (payload : List UInt8) (bufLen : Nat) :
    Except Rc (List UInt8) :=
  let padded := attrPadded payload.length
  if bufLen < 4 + padded then .error .bufferTooSmall
  else
    .ok (u16be channel ++ u16be (UInt16.ofNat payload.length) ++ payload ++
      List.replicate (padded - payload.length) 0)

/-- `turn_unwrap_channel_data`. -/
def turnUnwrapChannelData (data : List UInt8) : Except Rc (UInt16 × List UInt8) :=
  if data.length < 4 then .error .parse
  else
    let channel := readU16be data 0
    let plen := (readU16be data 2).toNat
    if channel < 0x4000 ∨ channel > 0x7FFF then .error .protocol
    else if 4 + plen > data.length then .error .parse
    else .ok (channel, (data.drop 4).take plen)

/-- The out-parameters of `turn_unwrap_channel_data`. -/
structure TurnChannelOut where
  channel : UInt16
  payload : List UInt8
deriving Repr, DecidableEq

/-- `turn_unwrap_channel_data` with its out-parameters; the number is stored before it is
checked. -/
def turnUnwrapChannelDataInto (out : TurnChannelOut) (data : List UInt8) : TurnChannelOut × Rc :=
  if data.length < 4 then (out, .parse)
  else
    let out := { out with channel := readU16be data 0 }
    let plen := (readU16be data 2).toNat
    if out.channel < 0x4000 ∨ out.channel > 0x7FFF then (out, .protocol)
    else if 4 + plen > data.length then (out, .parse)
    else ({ out with payload := (data.drop 4).take plen }, .ok)

/-- `turn_is_channel_data`. -/
def turnIsChannelData (data : List UInt8) : Bool :=
  decide (4 ≤ data.length) && byteAt data 0 ≥ 0x40 && byteAt data 0 ≤ 0x7F

/-! ### Timers -/

/-- What the timer does with one request of a table. -/
inductive TurnDue where
  | skip
  | arm
  | expire
  | send
deriving Repr, DecidableEq

/-- The checks at the head of the permission loop and of the channel loop in
`turn_generate_retransmit`. -/
def turnDue (nowMs : UInt32) (pending : TurnRequest) (deadlineMs : UInt32) (transmissions : Nat) :
    TurnDue :=
  if pending = .none then .skip
  else if deadlineMs = 0 ∧ pending ≠ .reauth then .arm
  else if !nanoTimeIsDue nowMs deadlineMs then .skip
  else if transmissions ≥ turnMaxTransmissions then .expire
  else .send

/-- The transaction id of a retransmission: the old one, or a fresh one under a new nonce. -/
def turnRetransmitTxid (pending : TurnRequest) (txid : List UInt8)
    (random : Option (List UInt8)) : Option (List UInt8) :=
  if pending = .reauth then random else some txid

/-- The permission loop of `turn_generate_retransmit`; it stops at the first request it sends or
fails to send. -/
def turnRetransmitPermissions (crypto : CryptoProvider) (turn : NanoTurn) (nowMs : UInt32)
    (random : Option (List UInt8)) (bufLen : Nat) :
    List TurnPermission → List TurnPermission × Option (Except Rc (List UInt8))
  | [] => ([], none)
  | p :: ps =>
    let next (p : TurnPermission) :=
      let (ps, out) := turnRetransmitPermissions crypto turn nowMs random bufLen ps
      (p :: ps, out)
    match turnDue nowMs p.pending p.deadlineMs p.transmissions with
    | .skip => next p
    | .arm =>
      next { p with deadlineMs := nanoTimeDeadline nowMs (turnRetryDelayMs p.transmissions) }
    | .expire =>
      next { p with
        pending := .none
        active := false
        terminal := false
        transmissions := 0
        deadlineMs := nanoTimeDeadline nowMs (turnRetryDelayMs turnMaxTransmissions) }
    | .send =>
      match turnRetransmitTxid p.pending p.txid random with
      | none => (p :: ps, some (.error .crypto))
      | some txid =>
        match turnBuildPermission crypto turn ⟨p.family, p.addr, p.port⟩ txid bufLen with
        | .error e => (p :: ps, some (.error e))
        | .ok out =>
          ({ p with
            txid := txid
            pending := .waiting
            transmissions := p.transmissions + 1
            deadlineMs := nanoTimeDeadline nowMs (turnRetryDelayMs (p.transmissions + 1)) } :: ps,
            some (.ok out))

/-- The channel loop of `turn_generate_retransmit`. -/
def turnRetransmitChannels (crypto : CryptoProvider) (turn : NanoTurn) (nowMs : UInt32)
    (random : Option (List UInt8)) (bufLen : Nat) :
    List TurnChannel → List TurnChannel × Option (Except Rc (List UInt8))
  | [] => ([], none)
  | c :: cs =>
    let next (c : TurnChannel) :=
      let (cs, out) := turnRetransmitChannels crypto turn nowMs random bufLen cs
      (c :: cs, out)
    match turnDue nowMs c.pending c.deadlineMs c.transmissions with
    | .skip => next c
    | .arm =>
      next { c with deadlineMs := nanoTimeDeadline nowMs (turnRetryDelayMs c.transmissions) }
    | .expire => next { c with pending := .none, deadlineMs := 0 }
    | .send =>
      match turnRetransmitTxid c.pending c.txid random with
      | none => (c :: cs, some (.error .crypto))
      | some txid =>
        match turnBuildChannelBind crypto turn c txid bufLen with
        | .error e => (c :: cs, some (.error e))
        | .ok out =>
          ({ c with
            txid := txid
            pending := .waiting
            transmissions := c.transmissions + 1
            deadlineMs := nanoTimeDeadline nowMs (turnRetryDelayMs (c.transmissions + 1)) } :: cs,
            some (.ok out))

/-- The permission and the channel loop of `turn_generate_retransmit`. -/
def turnRetransmitTables (crypto : CryptoProvider) (turn : NanoTurn) (nowMs : UInt32)
    (random : Option (List UInt8)) (bufLen : Nat) : NanoTurn × Except Rc (List UInt8) :=
  let (permissions, out) :=
    turnRetransmitPermissions crypto turn nowMs random bufLen turn.permissions
  let turn := { turn with permissions := permissions }
  match out with
  | some out => (turn, out)
  | none =>
    let (channels, out) := turnRetransmitChannels crypto turn nowMs random bufLen turn.channels
    ({ turn with channels := channels }, out.getD (.ok []))

/-- `turn_generate_retransmit`. -/
def turnGenerateRetransmit (crypto : CryptoProvider) (turn : NanoTurn) (nowMs : UInt32)
    (random : Option (List UInt8)) (bufLen : Nat) : NanoTurn × Except Rc (List UInt8) :=
  if turn.transaction = .none then turnRetransmitTables crypto turn nowMs random bufLen
  else if turn.transactionRetryAtMs = 0 ∧ !turn.transactionReauth then
    let retryAtMs := nanoTimeDeadline nowMs (turnRetryDelayMs turn.transactionTransmissions)
    turnRetransmitTables crypto { turn with transactionRetryAtMs := retryAtMs } nowMs random bufLen
  else if !nanoTimeIsDue nowMs turn.transactionRetryAtMs then
    turnRetransmitTables crypto turn nowMs random bufLen
  else if turn.transactionTransmissions ≥ turnMaxTransmissions then
    ({ turnClearTransaction turn with state := .failed }, .error .protocol)
  else
    match if turn.transactionReauth then random else some turn.lastTxid with
    | none => (turn, .error .crypto)
    | some txid =>
      let out :=
        if turn.transaction = .allocate then
          turnBuildAllocate crypto turn turn.transactionAuthenticated txid bufLen
        else turnBuildRefresh crypto turn turnDefaultLifetime txid bufLen
      match out with
      | .error e => (turn, .error e)
      | .ok out =>
        let transmissions := turn.transactionTransmissions + 1
        let retryAtMs := nanoTimeDeadline nowMs (turnRetryDelayMs transmissions)
        ({ turn with
          lastTxid := txid
          transactionReauth := false
          transactionTransmissions := transmissions
          transactionRetryAtMs := retryAtMs }, .ok out)

/-- `nano_turn_work_type_t`. -/
inductive TurnWorkType where
  | none
  | retransmit
  | allocate
  | refresh
  | permission
  | channel
deriving Repr, DecidableEq

/-- `nano_turn_work_t`. -/
structure TurnWork where
  type : TurnWorkType := .none
  delayMs : UInt32 := 0xFFFFFFFF
  index : Nat := 0
deriving Repr, DecidableEq

/-- `turn_consider_work`. -/
def turnConsiderWork (nowMs : UInt32) (work : TurnWork) (type : TurnWorkType) (index : Nat)
    (deadline : UInt32) : TurnWork :=
  let delay := if deadline = 0 then 0 else nanoTimeUntil nowMs deadline
  if delay < work.delayMs then ⟨type, delay, index⟩ else work

/-- One loop of `turn_next_work`: the entries that `cond` holds of are considered in order. -/
def turnConsiderTable {α : Type} (nowMs : UInt32) (type : TurnWorkType) (cond : α → Bool)
    (deadline : α → UInt32) (table : List α) (work : TurnWork) : TurnWork :=
  table.zipIdx.foldl
    (fun work (a, i) => if cond a then turnConsiderWork nowMs work type i (deadline a) else work)
    work

/-- `turn_next_work`. -/
def turnNextWork (turn : NanoTurn) (nowMs : UInt32) : TurnWork :=
  if !turn.configured ∨ turn.state = .failed then {}
  else
    let work : TurnWork :=
      if turn.transaction ≠ .none then
        turnConsiderWork nowMs {} .retransmit 0 turn.transactionRetryAtMs
      else if turn.state = .idle ∨ turn.state = .challenged then
        turnConsiderWork nowMs {} .allocate 0 0
      else {}
    if turn.state ≠ .allocated then work
    else
      let work := turnConsiderTable nowMs .retransmit (fun p : TurnPermission => p.pending != .none)
        (·.deadlineMs) turn.permissions work
      let work := turnConsiderTable nowMs .retransmit (fun c : TurnChannel => c.pending != .none)
        (·.deadlineMs) turn.channels work
      let work :=
        if turn.transaction = .none then turnConsiderWork nowMs work .refresh 0 turn.refreshAtMs
        else work
      let work := turnConsiderTable nowMs .permission
        (fun p : TurnPermission => p.pending == .none && !p.terminal) (·.deadlineMs)
        turn.permissions work
      turnConsiderTable nowMs .channel (fun c : TurnChannel => c.bound && c.pending == .none)
        (·.deadlineMs) turn.channels work

/-- `turn_next_timeout_ms`. -/
def turnNextTimeoutMs (turn : NanoTurn) (nowMs : UInt32) : UInt32 := (turnNextWork turn nowMs).delayMs

/-- The `switch` of `turn_poll_output`. -/
def turnDoWork (crypto : CryptoProvider) (turn : NanoTurn) (nowMs : UInt32) (work : TurnWork)
    (random : Option (List UInt8)) (bufLen : Nat) : NanoTurn × Except Rc (List UInt8) :=
  match work.type with
  | .allocate => turnStartAllocate crypto turn random bufLen
  | .refresh => turnGenerateRefresh crypto turn nowMs random bufLen
  | .permission =>
    let p := turn.permissions.getD work.index default
    turnCreatePermission crypto turn ⟨p.family, p.addr, p.port⟩ random bufLen
  | .channel =>
    turnChannelBind crypto turn (turn.channels.getD work.index default).peer random bufLen
  | _ => (turn, .ok [])

/-- `turn_poll_output`. -/
def turnPollOutput (crypto : CryptoProvider) (turn : NanoTurn) (nowMs : UInt32)
    (random : Option (List UInt8)) (bufLen : Nat) : NanoTurn × Except Rc (List UInt8) :=
  let work := turnNextWork turn nowMs
  if work.delayMs ≠ 0 then (turn, .ok [])
  else if work.type = .retransmit then
    match turnGenerateRetransmit crypto turn nowMs random bufLen with
    | (turn, .ok []) =>
      -- arming and expiry emit no packet; other work may be due
      let work := turnNextWork turn nowMs
      if work.delayMs ≠ 0 then (turn, .ok []) else turnDoWork crypto turn nowMs work random bufLen
    | r => r
  else turnDoWork crypto turn nowMs work random bufLen

end Nanortc.Native
