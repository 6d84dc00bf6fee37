import Nanortc.Native.Stun

/-!
# ICE agent

Connectivity checks, nomination and consent freshness after `nano_ice.c`, and the two pieces of
`rtc_process_timers` that drive them. Candidate arrays are lists whose length is the candidate
count; the credentials are lists whose length is the source's length field. The flag byte of a
pending slot is a record of its four bits and the retransmission count of its high nibble.
-/

namespace Nanortc.Native

open Nanortc.ForStd

/-- `NANORTC_MAX_ICE_CANDIDATES`. -/
def maxIceCandidates : Nat := 8

/-- `NANORTC_ICE_MAX_PENDING_CHECKS`. -/
def iceMaxPendingChecks : Nat := 4

/-- `NANORTC_ICE_MAX_CHECKS`. -/
def iceMaxChecks : Nat := 25

/-- `NANORTC_ICE_CHECK_INTERVAL_MS`. -/
def iceCheckIntervalMs : UInt32 := 50

/-- `NANORTC_ICE_RTO_MS`. -/
def iceRtoMs : Nat := 500

/-- `NANORTC_ICE_CHECK_TIMEOUT_MS`. -/
def iceCheckTimeoutMs : UInt32 := 5000

/-- `NANORTC_ICE_CONSENT_INTERVAL_MS`. -/
def iceConsentIntervalMs : UInt32 := 15000

/-- `NANORTC_ICE_UFRAG_SIZE`. -/
def iceUfragSize : Nat := 9

/-- `NANORTC_ICE_REMOTE_UFRAG_SIZE`. -/
def iceRemoteUfragSize : Nat := 32

/-- `NANORTC_ICE_LOCAL_IDX_UNKNOWN`. -/
def iceLocalIdxUnknown : Nat := 0xFF

/-- `nano_ice_state_t`. -/
inductive IceState where
  | new
  | checking
  | connected
  | disconnected
  | failed
deriving Repr, DecidableEq, Inhabited

/-- `nano_ice_cand_type_t`. -/
inductive IceCandType where
  | host
  | srflx
  | prflx
  | relay
deriving Repr, DecidableEq, Inhabited

/-- `nano_ice_candidate_t`. -/
structure IceCandidate where
  addr : List UInt8
  port : UInt16
  family : UInt8
  type : IceCandType
deriving Repr, DecidableEq, Inhabited

/-- The flag byte of a pending slot: `ICE_CHECK_QUEUED`, `VALID`, `NOMINATE`, `TRIGGERED` and the
four-bit retransmission count. -/
structure IceFlags where
  queued : Bool := false
  valid : Bool := false
  nominate : Bool := false
  triggered : Bool := false
  retries : Nat := 0
deriving Repr, DecidableEq, Inhabited

/-- `nano_ice_pending_t`. -/
structure IcePending where
  txid : List UInt8
  sentAtMs : UInt32
  localIdx : Nat
  remoteIdx : Nat
  inFlight : Bool
  flags : IceFlags
deriving Repr, DecidableEq, Inhabited

/-- A zeroed pending slot. -/
def IcePending.zero : IcePending := ⟨List.replicate stunTxidSize 0, 0, 0, 0, false, {}⟩

/-- The slot holds no transaction and no flag. -/
def IcePending.idle (p : IcePending) : Bool := !p.inFlight && p.flags == {}

/-- The nomination flag set if `nominate` is. -/
def IcePending.grant (p : IcePending) (nominate : Bool) : IcePending :=
  { p with flags := { p.flags with nominate := p.flags.nominate || nominate } }

/-- A transaction cancelled for a triggered check; only the nomination stays. -/
def IcePending.retrigger (p : IcePending) : IcePending :=
  { p with inFlight := false, flags := { nominate := p.flags.nominate, triggered := true } }

/-- The slot in the check queue at a position. -/
def IcePending.enqueue (p : IcePending) (position : UInt32) : IcePending :=
  { p with sentAtMs := position, flags := { p.flags with queued := true } }

/-- `nano_ice_t`. -/
structure NanoIce where
  state : IceState
  isControlling : Bool
  localUfrag : List UInt8
  localPwd : List UInt8
  remoteUfrag : List UInt8
  remotePwd : List UInt8
  selectedAddr : List UInt8
  selectedPort : UInt16
  selectedFamily : UInt8
  selectedType : IceCandType
  checkIntervalMs : UInt32
  nextCheckMs : UInt32
  tieBreaker : UInt64
  checkCount : Nat
  nominated : Bool
  srflxBaseIdx : Nat
  pending : List IcePending
  localCandidates : List IceCandidate
  selectedLocalAddr : List UInt8
  selectedLocalPort : UInt16
  selectedLocalFamily : UInt8
  selectedLocalIdx : Nat
  selectedLocalType : IceCandType
  remoteCandidates : List IceCandidate
  currentLocal : Nat
  currentRemote : Nat
  endOfCandidates : Bool
  generation : UInt8
  consentNextMs : UInt32
  consentExpiryMs : UInt32
  consentTxid : List UInt8
  consentPending : Bool
deriving Repr, DecidableEq

/-- `ice_init`. -/
def iceInit (isControlling : Bool) : NanoIce where
  state := .new
  isControlling := isControlling
  localUfrag := []
  localPwd := []
  remoteUfrag := []
  remotePwd := []
  selectedAddr := List.replicate addrSize 0
  selectedPort := 0
  selectedFamily := 0
  selectedType := .host
  checkIntervalMs := iceCheckIntervalMs
  nextCheckMs := 0
  tieBreaker := 0
  checkCount := 0
  nominated := false
  srflxBaseIdx := 0
  pending := List.replicate iceMaxPendingChecks .zero
  localCandidates := []
  selectedLocalAddr := List.replicate addrSize 0
  selectedLocalPort := 0
  selectedLocalFamily := 0
  selectedLocalIdx := 0
  selectedLocalType := .host
  remoteCandidates := []
  currentLocal := 0
  currentRemote := 0
  endOfCandidates := false
  generation := 0
  consentNextMs := 0
  consentExpiryMs := 0
  consentTxid := List.replicate stunTxidSize 0
  consentPending := false

/-- `ice_restart`: role, tie breaker, local candidates and their base survive. -/
def iceRestart (ice : NanoIce) : NanoIce :=
  { iceInit ice.isControlling with
    tieBreaker := ice.tieBreaker
    generation := ice.generation + 1
    srflxBaseIdx := ice.srflxBaseIdx
    localCandidates := ice.localCandidates }

/-! ### Helpers -/

/-- The agent with one pending slot written. -/
def NanoIce.setSlot (ice : NanoIce) (slot : Nat) (p : IcePending) : NanoIce :=
  { ice with pending := ice.pending.set slot p }

/-- `ice_verify_username`: USERNAME is `local:remote`. -/
def iceVerifyUsername (ice : NanoIce) (msg : StunMsg) : Bool :=
  match msg.username with
  | none => false
  | some username =>
    if ice.localUfrag.isEmpty || ice.localPwd.isEmpty || username.isEmpty then false
    else
      match username.findIdx? (· == 0x3A) with
      | none => false
      | some localLen =>
        let remote := username.drop (localLen + 1)
        localLen == ice.localUfrag.length && username.take localLen == ice.localUfrag &&
          !remote.isEmpty && (ice.remoteUfrag.isEmpty || remote == ice.remoteUfrag)

/-- `addr_to_stun_family`. -/
def addrToStunFamily (family : UInt8) : UInt8 :=
  if family = 4 then stunFamilyIpv4 else if family = 6 then stunFamilyIpv6 else 0

/-- `ice_queue_check`: behind the slots queued already. -/
def iceQueueCheck (ice : NanoIce) (slot : Nat) : NanoIce :=
  let position := (ice.pending.filter (·.flags.queued)).length
  ice.setSlot slot ((ice.pending.getD slot default).enqueue (UInt32.ofNat position))

/-- `ice_unqueue_check`: the slots queued behind move up. -/
def iceUnqueueCheck (ice : NanoIce) (slot : Nat) : NanoIce :=
  let p := ice.pending.getD slot default
  if p.flags.queued then
    let moved := ice.pending.map fun q =>
      if q.flags.queued ∧ q.sentAtMs > p.sentAtMs then { q with sentAtMs := q.sentAtMs - 1 }
      else q
    { ice with pending := moved }.setSlot slot { p with flags := { p.flags with queued := false } }
  else ice

/-- `ice_local_base_idx`: a reflexive candidate stands for its host socket. -/
def iceLocalBaseIdx (ice : NanoIce) (idx : Nat) : Nat :=
  if idx < ice.localCandidates.length ∧ (ice.localCandidates.getD idx default).type = .srflx then
    if ice.srflxBaseIdx < ice.localCandidates.length ∧
        (ice.localCandidates.getD ice.srflxBaseIdx default).type = .host then
      ice.srflxBaseIdx
    else iceLocalIdxUnknown
  else idx

/-- `ice_addr_matches`. -/
def iceAddrMatches (c : IceCandidate) (addr : NanortcAddr) : Bool :=
  c.family == addr.family && c.port == addr.port && c.addr == addr.addr

/-- `ice_select_pair`. -/
def iceSelectPair (ice : NanoIce) (lcl remote : Nat) : NanoIce :=
  let r := ice.remoteCandidates.getD remote default
  let base := iceLocalBaseIdx ice lcl
  let l := ice.localCandidates[base]?
  { ice with
    selectedAddr := r.addr
    selectedPort := r.port
    selectedFamily := r.family
    selectedType := r.type
    selectedLocalAddr := (l.map (·.addr)).getD (List.replicate addrSize 0)
    selectedLocalPort := (l.map (·.port)).getD 0
    selectedLocalFamily := (l.map (·.family)).getD 0
    selectedLocalIdx := lcl
    selectedLocalType := (ice.localCandidates.getD lcl default).type
    nominated := true
    state := .connected }

/-- The slot belongs to the pair of a local base and a remote candidate. -/
def iceSlotOfPair (ice : NanoIce) (lcl remote : Nat) (p : IcePending) : Bool :=
  p.remoteIdx == remote && iceLocalBaseIdx ice p.localIdx == iceLocalBaseIdx ice lcl

/-- The slot search of `ice_trigger_check`: the pair's own slot, else the first one that is neither
in flight nor queued. -/
def iceFindSlot (ice : NanoIce) (lcl remote : Nat) : Option Nat :=
  match ice.pending.findIdx? fun p => !p.idle && iceSlotOfPair ice lcl remote p with
  | some i => some i
  | none => ice.pending.findIdx? fun p => !p.inFlight && !p.flags.queued

/-- The slot as the pair claims it: its own slot as it is, any other one zeroed first. -/
def iceClaimSlot (ice : NanoIce) (lcl remote : Nat) (p : IcePending) : IcePending :=
  if p.idle || !iceSlotOfPair ice lcl remote p then
    { IcePending.zero with localIdx := lcl, remoteIdx := remote }
  else p

/-- The remote candidates with `src` learned as peer-reflexive if it is none of them. -/
def iceLearnRemote (ice : NanoIce) (src : NanortcAddr) : List IceCandidate :=
  if ice.remoteCandidates.findIdx (iceAddrMatches · src) = ice.remoteCandidates.length then
    ice.remoteCandidates ++ [⟨src.addr, src.port, src.family, .prflx⟩]
  else ice.remoteCandidates

/-- `ice_trigger_check`; `false` is a request that cannot be admitted. -/
def iceTriggerCheck (ice : NanoIce) (lcl : Nat) (src : NanortcAddr) (nominate : Bool) :
    NanoIce × Bool :=
  if ice.state = .connected ∨ ice.state = .failed ∨ ice.state = .disconnected then (ice, true)
  else if lcl ≥ ice.localCandidates.length ∨
      (ice.localCandidates.getD lcl default).family ≠ src.family then (ice, !nominate)
  else
    let remote := ice.remoteCandidates.findIdx (iceAddrMatches · src)
    match iceFindSlot ice lcl remote with
    | none => (ice, false)
    | some slot =>
      if remote ≥ maxIceCandidates then (ice, false)
      else
        let p := (iceClaimSlot ice lcl remote (ice.pending.getD slot default)).grant nominate
        let ice := { ice with remoteCandidates := iceLearnRemote ice src }
        if p.flags.valid then
          let ice := ice.setSlot slot p
          (if nominate then iceSelectPair ice p.localIdx remote else ice, true)
        else if !p.flags.triggered then
          -- cancel an ordinary transaction once (RFC 8445 §7.3.1.4)
          (iceQueueCheck (ice.setSlot slot p.retrigger) slot, true)
        else (ice.setSlot slot p, true)

/-- `ice_find_local_idx_by_family`. -/
def iceFindLocalIdxByFamily (ice : NanoIce) (family : UInt8) : Nat :=
  if family = 0 then iceLocalIdxUnknown
  else (ice.localCandidates.findIdx? (·.family == family)).getD iceLocalIdxUnknown

/-! ### Inbound messages -/

/-- FINGERPRINT is present and verifies, and MESSAGE-INTEGRITY is present and verifies under
`key`. -/
def stunAuthentic (crypto : CryptoProvider) (data : List UInt8) (msg : StunMsg)
    (key : List UInt8) : Bool :=
  msg.hasFingerprint && stunVerifyFingerprint data == .ok && msg.hasIntegrity &&
    stunVerifyIntegrity crypto data msg key == .ok

/-- Local candidate a request arrived on. -/
def iceResolveLocal (ice : NanoIce) (src : NanortcAddr) (localIdx : Nat) (viaTurn : Bool) : Nat :=
  if viaTurn then
    (ice.localCandidates.findIdx? fun c => c.type == .relay && c.family == src.family).getD
      iceLocalIdxUnknown
  else if localIdx ≥ ice.localCandidates.length then iceFindLocalIdxByFamily ice src.family
  else localIdx

/-- The Binding Request branch of `ice_handle_stun`. -/
def iceHandleRequest (crypto : CryptoProvider) (ice : NanoIce) (data : List UInt8) (msg : StunMsg)
    (src : NanortcAddr) (localIdx : Nat) (viaTurn : Bool) (respBufLen : Nat) :
    NanoIce × Rc × List UInt8 :=
  if !msg.hasFingerprint then (ice, .protocol, [])
  else if stunVerifyFingerprint data ≠ .ok then (ice, stunVerifyFingerprint data, [])
  else if !iceVerifyUsername ice msg then (ice, .protocol, [])
  else if !msg.hasIntegrity then (ice, .protocol, [])
  else if stunVerifyIntegrity crypto data msg ice.localPwd ≠ .ok then
    (ice, stunVerifyIntegrity crypto data msg ice.localPwd, [])
  else if addrToStunFamily src.family = 0 then (ice, .invalidParam, [])
  else
    match stunEncodeBindingResponse crypto msg ⟨src.addr, src.port, addrToStunFamily src.family⟩
        ice.localPwd respBufLen with
    | .error e => (ice, e, [])
    | .ok resp =>
      match iceTriggerCheck ice (iceResolveLocal ice src localIdx viaTurn) src
          (msg.useCandidate && !ice.isControlling) with
      | (ice, true) => (ice, .ok, resp)
      | (ice, false) => (ice, .wouldBlock, [])

/-- The pending slot a transaction id is in flight in. -/
def iceFindPending (ice : NanoIce) (txid : List UInt8) : Option Nat :=
  ice.pending.findIdx? fun p => p.inFlight && p.txid == txid

/-- The local index a successful check is recorded for: the reflexive candidate that
XOR-MAPPED-ADDRESS identifies on the same base, else the one the check was sent from. -/
def iceMappedLocal (ice : NanoIce) (msg : StunMsg) (lcl : Nat) : Nat :=
  ((List.range ice.localCandidates.length).find? fun i =>
    let c := ice.localCandidates.getD i default
    c.type == .srflx && c.port == msg.mapped.port &&
      addrToStunFamily c.family == msg.mapped.family && c.addr == msg.mapped.addr &&
      iceLocalBaseIdx ice i == iceLocalBaseIdx ice lcl).getD lcl

/-- The response did not travel the path of the check in slot `p` (RFC 8445 §7.2.5.2.1). -/
def iceAsymmetric (ice : NanoIce) (p : IcePending) (src : NanortcAddr) (localIdx : Nat)
    (viaTurn : Bool) : Bool :=
  p.localIdx ≥ ice.localCandidates.length || p.remoteIdx ≥ ice.remoteCandidates.length ||
    !iceAddrMatches (ice.remoteCandidates.getD p.remoteIdx default) src ||
    (localIdx < ice.localCandidates.length &&
      iceLocalBaseIdx ice localIdx != iceLocalBaseIdx ice p.localIdx && !viaTurn)

/-- A successful check: record it, and select the pair if it is nominated. -/
def iceCheckSucceeded (ice : NanoIce) (slot : Nat) (msg : StunMsg) : NanoIce :=
  let p := ice.pending.getD slot default
  let p := { p with inFlight := false, localIdx := iceMappedLocal ice msg p.localIdx }
  if ice.state ≠ .connected then
    if p.flags.nominate then
      (iceSelectPair ice p.localIdx p.remoteIdx).setSlot slot { p with flags := { valid := true } }
    else if ice.isControlling then
      iceQueueCheck (ice.setSlot slot { p with flags := { valid := true, nominate := true } }) slot
    else ice.setSlot slot { p with flags := { valid := true } }
  else ice.setSlot slot p

/-- The Binding Response branch of `ice_handle_stun`. -/
def iceHandleResponse (crypto : CryptoProvider) (ice : NanoIce) (data : List UInt8) (msg : StunMsg)
    (src : NanortcAddr) (localIdx : Nat) (viaTurn : Bool) : NanoIce × Rc :=
  if ice.consentPending ∧ msg.transactionId = ice.consentTxid then
    if !msg.hasFingerprint ∨ stunVerifyFingerprint data ≠ .ok then (ice, .protocol)
    else if !msg.hasIntegrity ∨ stunVerifyIntegrity crypto data msg ice.remotePwd ≠ .ok then
      (ice, .protocol)
    else ({ ice with consentPending := false }, .ok)
  else
    match iceFindPending ice msg.transactionId with
    | none => (ice, .protocol)
    | some slot =>
      if !msg.hasFingerprint then (ice, .protocol)
      else if stunVerifyFingerprint data ≠ .ok then (ice, stunVerifyFingerprint data)
      else if !msg.hasIntegrity then (ice, .protocol)
      else if stunVerifyIntegrity crypto data msg ice.remotePwd ≠ .ok then
        (ice, stunVerifyIntegrity crypto data msg ice.remotePwd)
      else if iceAsymmetric ice (ice.pending.getD slot default) src localIdx viaTurn then
        (ice, .protocol)
      else (iceCheckSucceeded ice slot msg, .ok)

/-- The Binding Error branch of `ice_handle_stun`. -/
def iceHandleError (crypto : CryptoProvider) (ice : NanoIce) (data : List UInt8) (msg : StunMsg) :
    NanoIce × Rc :=
  if stunAuthentic crypto data msg ice.remotePwd then
    match iceFindPending ice msg.transactionId with
    | none => (ice, .protocol)
    | some slot => (ice.setSlot slot .zero, .protocol)
  else (ice, .protocol)

/-- `ice_handle_stun`. -/
def iceHandleStun (crypto : CryptoProvider) (ice : NanoIce) (data : List UInt8) (src : NanortcAddr)
    (localIdx : Nat) (viaTurn : Bool) (respBufLen : Nat) : NanoIce × Rc × List UInt8 :=
  match stunParse data with
  | .error e => (ice, e, [])
  | .ok msg =>
    if msg.type = stunBindingRequest then
      iceHandleRequest crypto ice data msg src localIdx viaTurn respBufLen
    else if msg.type = stunBindingResponse then
      let (ice, rc) := iceHandleResponse crypto ice data msg src localIdx viaTurn
      (ice, rc, [])
    else if msg.type = stunBindingError then
      let (ice, rc) := iceHandleError crypto ice data msg
      (ice, rc, [])
    else (ice, .protocol, [])

/-! ### Checks -/

/-- `nano_ice_check_t`; `none` is slot `-1`. -/
structure IceCheck where
  slot : Option Nat
  localIdx : Nat
  remoteIdx : Nat
  retransmit : Bool
  expire : Bool
deriving Repr, DecidableEq

/-- `ice_retry_delay`. -/
def iceRetryDelay (p : IcePending) : UInt32 :=
  let delay := iceRtoMs * (2 ^ p.flags.retries - 1)
  if p.flags.retries ≥ 15 ∨ delay > iceCheckTimeoutMs.toNat then iceCheckTimeoutMs
  else UInt32.ofNat delay

/-- `ice_pair_ready`; `none` is a NULL `relay_ready`. -/
def icePairReady (ice : NanoIce) (lcl remote : Nat) (relayReady : Option (List Bool)) : Bool :=
  let l := ice.localCandidates.getD lcl default
  lcl < ice.localCandidates.length && remote < ice.remoteCandidates.length &&
    l.family == (ice.remoteCandidates.getD remote default).family &&
    match relayReady with
    | none => true
    | some ready => l.type != .relay || ready.getD remote false

/-- What the slot scan of `ice_get_check` has found so far. -/
structure IceScan where
  check : IceCheck
  best : UInt32
  freeSlot : Option Nat
  active : Bool
deriving Repr, DecidableEq

/-- The slot's check is given up: its transaction timed out, or it is queued without a valid pair
when the check budget is used up. -/
def iceCheckExpired (ice : NanoIce) (p : IcePending) (nowMs : UInt32) : Bool :=
  (p.inFlight && nanoTimeElapsed nowMs p.sentAtMs ≥ iceCheckTimeoutMs) ||
    (!p.inFlight && !p.flags.valid && ice.checkCount ≥ iceMaxChecks)

/-- The time until the slot's check is due; only an expiry ignores the pacing. -/
def iceCheckDelay (p : IcePending) (nowMs pace : UInt32) (expire : Bool) : UInt32 :=
  let age := nanoTimeElapsed nowMs p.sentAtMs
  let due := iceRetryDelay p
  let delay := if p.inFlight then (if age < due then due - age else 0) else 0
  if !expire ∧ delay < pace then pace else delay

/-- The slot's check goes before the one found so far: it is due earlier, or it is queued and due
at the same time as a retransmission or a check queued behind it. -/
def iceCheckBefore (ice : NanoIce) (scan : IceScan) (p : IcePending) (delay : UInt32) : Bool :=
  let behind : Bool := match scan.check.slot with
    | none => false
    | some s => decide (p.sentAtMs < (ice.pending.getD s default).sentAtMs)
  delay < scan.best || (delay == scan.best && !scan.check.expire && p.flags.queued &&
    (scan.check.retransmit || behind))

/-- One turn of the slot scan of `ice_get_check`. -/
def iceScanSlot (ice : NanoIce) (nowMs : UInt32) (relayReady : Option (List Bool)) (pace : UInt32)
    (scan : IceScan) (i : Nat) : IceScan :=
  let p := ice.pending.getD i default
  if !p.inFlight && !p.flags.queued then
    if p.flags == {} && scan.freeSlot.isNone then { scan with freeSlot := some i } else scan
  else
    let expire := iceCheckExpired ice p nowMs
    if !expire && !icePairReady ice p.localIdx p.remoteIdx relayReady then
      { scan with active := true }
    else
      let delay := iceCheckDelay p nowMs pace expire
      if iceCheckBefore ice scan p delay then
        { scan with
          check := ⟨some i, p.localIdx, p.remoteIdx, p.inFlight, expire⟩
          best := delay
          active := true }
      else { scan with active := true }

/-- The next untried pair of `ice_get_check`, in round-robin order. -/
def iceNextPair (ice : NanoIce) (relayReady : Option (List Bool)) : Option (Nat × Nat) :=
  let remotes := ice.remoteCandidates.length
  let total := ice.localCandidates.length * remotes
  let start := ice.currentLocal * remotes + ice.currentRemote
  ((List.range total).map fun n => ((start + n) % total / remotes, (start + n) % total % remotes)).find?
    fun pair => icePairReady ice pair.1 pair.2 relayReady &&
      !ice.pending.any fun p => !p.idle && p.localIdx == pair.1 && p.remoteIdx == pair.2

/-- The time the pacing of checks leaves until the next one. -/
def icePace (ice : NanoIce) (nowMs : UInt32) : UInt32 :=
  if ice.nextCheckMs ≠ 0 then nanoTimeUntil nowMs ice.nextCheckMs else 0

/-- `ice_get_check`: the time until the next check and the check. -/
def iceGetCheck (ice : NanoIce) (nowMs : UInt32) (relayReady : Option (List Bool)) :
    UInt32 × IceCheck :=
  let check : IceCheck := ⟨none, 0, 0, false, false⟩
  if ice.state ≠ .new ∧ ice.state ≠ .checking then (0xFFFFFFFF, check)
  else if ice.endOfCandidates ∧ ice.remoteCandidates.length = 0 then
    (0, { check with expire := true })
  else if ice.localUfrag.isEmpty ∨ ice.localPwd.isEmpty ∨ ice.remoteUfrag.isEmpty ∨
      ice.remotePwd.isEmpty ∨ ice.localCandidates.isEmpty ∨ ice.remoteCandidates.isEmpty then
    (0xFFFFFFFF, check)
  else
    let pace := icePace ice nowMs
    let scan := (List.range iceMaxPendingChecks).foldl (iceScanSlot ice nowMs relayReady pace)
      ⟨check, 0xFFFFFFFF, none, false⟩
    if scan.best = 0 then (0, scan.check)
    else if ice.checkCount ≥ iceMaxChecks then
      if !scan.active then (0, { scan.check with slot := none, expire := true })
      else (scan.best, scan.check)
    else
      match scan.freeSlot, iceNextPair ice relayReady with
      | some slot, some (lcl, remote) =>
        if pace < scan.best then (pace, ⟨some slot, lcl, remote, false, false⟩)
        else (scan.best, scan.check)
      | _, _ => (scan.best, scan.check)

/-- A check on the wire: its transaction, pair, destination and whether it carries USE-CANDIDATE. -/
structure SentCheck where
  txid : List UInt8
  localIdx : Nat
  remoteIdx : Nat
  useCandidate : Bool
  packet : List UInt8
deriving Repr, DecidableEq

/-- `ICE_PRFLX_PRIORITY`. -/
def icePrflxPriority (idx : Nat) : UInt32 :=
  ((110 : UInt32) <<< 24) ||| ((65535 - UInt32.ofNat idx) <<< 8) ||| 255

/-- The transaction a check is sent under: the slot's own for a retransmission, else a new one. -/
def iceCheckTransaction (p : IcePending) (check : IceCheck) (txid : List UInt8) (nowMs : UInt32) :
    IcePending :=
  if check.retransmit then p
  else { p with
    txid := txid, sentAtMs := nowMs, localIdx := check.localIdx, remoteIdx := check.remoteIdx
    flags := { p.flags with retries := 0 } }

/-- The slot of a check that went out. -/
def IcePending.launch (p : IcePending) : IcePending :=
  { p with
    inFlight := true
    flags := { p.flags with queued := false, retries := (p.flags.retries + 1) % 16 } }

/-- `ice_send_check`; `random` is what `random_bytes` delivers. -/
def iceSendCheck (crypto : CryptoProvider) (ice : NanoIce) (nowMs : UInt32) (check : IceCheck)
    (random : Option (List UInt8)) (bufLen : Nat) : NanoIce × Rc × Option SentCheck :=
  if check.expire then
    match check.slot with
    | none => ({ ice with state := .failed }, .ok, none)
    | some slot => ((iceUnqueueCheck ice slot).setSlot slot .zero, .ok, none)
  else
    match check.slot with
    | none => (ice, .invalidParam, none)
    | some slot =>
      if slot ≥ iceMaxPendingChecks then (ice, .invalidParam, none)
      else if !check.retransmit ∧ random = none then (ice, .crypto, none)
      else
        let pending :=
          iceCheckTransaction (ice.pending.getD slot default) check (random.getD []) nowMs
        if ice.remoteUfrag.length ≥ iceRemoteUfragSize ∨ ice.localUfrag.length ≥ iceUfragSize then
          (ice, .bufferTooSmall, none)
        else
          let useCandidate := ice.isControlling && pending.flags.nominate
          match stunEncodeBindingRequest crypto (ice.remoteUfrag ++ [0x3A] ++ ice.localUfrag)
              (icePrflxPriority check.localIdx) useCandidate ice.isControlling ice.tieBreaker
              pending.txid ice.remotePwd bufLen with
          | .error e => (ice, e, none)
          | .ok packet =>
            let currentRemote := (check.remoteIdx + 1) % 256
            let wrapped := currentRemote ≥ ice.remoteCandidates.length
            ({ (iceUnqueueCheck ice slot).setSlot slot pending.launch with
                checkCount := if !check.retransmit ∧ ice.checkCount < 255 then ice.checkCount + 1
                  else ice.checkCount
                nextCheckMs := nanoTimeDeadline nowMs ice.checkIntervalMs
                state := .checking
                currentRemote := if wrapped then 0 else currentRemote
                currentLocal := if wrapped then
                    (check.localIdx + 1) % ice.localCandidates.length % 256
                  else check.localIdx },
              .ok,
              some ⟨pending.txid, check.localIdx, check.remoteIdx, useCandidate, packet⟩)

/-- The connectivity-check part of `rtc_process_timers` (`ice_generate_check` with a NULL
`relay_ready`). -/
def iceProcessCheck (crypto : CryptoProvider) (ice : NanoIce) (nowMs : UInt32)
    (relayReady : Option (List Bool)) (random : Option (List UInt8)) (bufLen : Nat) :
    NanoIce × Rc × Option SentCheck :=
  let (wait, check) := iceGetCheck ice nowMs relayReady
  if wait = 0 then iceSendCheck crypto ice nowMs check random bufLen else (ice, .ok, none)

/-! ### Consent freshness -/

/-- `ice_generate_consent`. -/
def iceGenerateConsent (crypto : CryptoProvider) (ice : NanoIce) (nowMs : UInt32)
    (random : Option (List UInt8)) (bufLen : Nat) : NanoIce × Rc × List UInt8 :=
  if ice.state ≠ .connected then (ice, .ok, [])
  else if ice.consentNextMs ≠ 0 ∧ !nanoTimeIsDue nowMs ice.consentNextMs then (ice, .ok, [])
  else
    match random with
    | none => (ice, .crypto, [])
    | some txid =>
      if ice.remoteUfrag.length + 1 + ice.localUfrag.length ≥ 64 then (ice, .bufferTooSmall, [])
      else
        match stunEncodeBindingRequest crypto (ice.remoteUfrag ++ [0x3A] ++ ice.localUfrag)
            (icePrflxPriority ice.selectedLocalIdx) false ice.isControlling ice.tieBreaker txid
            ice.remotePwd bufLen with
        | .error e => (ice, e, [])
        | .ok packet =>
          ({ ice with
              consentTxid := txid
              consentPending := true
              consentNextMs := nanoTimeDeadline nowMs iceConsentIntervalMs }, .ok, packet)

/-- `ice_consent_expired`: an unarmed deadline counts as expired. -/
def iceConsentExpired (ice : NanoIce) (nowMs : UInt32) : Bool :=
  if ice.state ≠ .connected then false
  else if ice.consentExpiryMs = 0 then true
  else nanoTimeIsDue nowMs ice.consentExpiryMs

/-- The consent part of `rtc_process_timers`. -/
def iceProcessConsent (crypto : CryptoProvider) (ice : NanoIce) (nowMs : UInt32)
    (random : Option (List UInt8)) (bufLen : Nat) : NanoIce × Rc × List UInt8 :=
  if ice.state = .connected then
    if iceConsentExpired ice nowMs then ({ ice with state := .disconnected }, .ok, [])
    else if ice.consentNextMs = 0 ∨ nanoTimeIsDue nowMs ice.consentNextMs then
      iceGenerateConsent crypto ice nowMs random bufLen
    else (ice, .ok, [])
  else (ice, .ok, [])

end Nanortc.Native
