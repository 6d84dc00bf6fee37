import Nanortc.ForStd.Text
import Nanortc.Native.Types

/-!
# DTLS wrapper

The state machine of `nano_dtls.c` around the DTLS of the crypto provider. The provider reads and
writes records through two callbacks on the buffers of the wrapper; a call of it is a function of
its context, the unread input and the room left for output, with what it read and wrote as part of
the reply.
-/

namespace Nanortc.Native

open Nanortc.ForStd

/-- `NANORTC_DTLS_BUF_SIZE`. -/
def dtlsBufSize : Nat := 2048

/-- `NANORTC_DTLS_RECORD_HDR_PREFIX_SIZE`. -/
def dtlsRecordHdrPrefixSize : Nat := 11

/-- Outcome of a provider call: zero, positive or negative. -/
inductive DtlsRc where
  | done
  | wait
  | failed
deriving Repr, DecidableEq

/-- What a provider call leaves behind. -/
structure DtlsReply (Ctx : Type) where
  ctx : Ctx
  rc : DtlsRc
  read : Nat := 0
  sent : List UInt8 := []
  app : List UInt8 := []

/-- The DTLS members of `nanortc_crypto_provider_t`. `ctxNew` is none when the context cannot be
made or refuses the callbacks; a fingerprint is printable. -/
structure DtlsProvider (Ctx : Type) where
  ctxNew : (isServer : Bool) → Option Ctx
  setRole : Ctx → (isServer : Bool) → Ctx
  setTime : Ctx → (nowMs : UInt32) → Ctx
  nextTimeout : Ctx → UInt32
  handleTimeout : Ctx → (input : List UInt8) → (room : Nat) → DtlsReply Ctx
  handshake : Ctx → (input : List UInt8) → (room : Nat) → DtlsReply Ctx
  encrypt : Ctx → (plain : List UInt8) → (room : Nat) → DtlsReply Ctx
  decrypt : Ctx → (input : List UInt8) → (room : Nat) → DtlsReply Ctx
  closeNotify : Ctx → (room : Nat) → DtlsReply Ctx
  exportKeyingMaterial : Ctx → Option (List UInt8)
  getFingerprint : Ctx → LineText
  sent_handleTimeout : ∀ c i n, (handleTimeout c i n).sent.length ≤ n
  sent_handshake : ∀ c i n, (handshake c i n).sent.length ≤ n
  sent_encrypt : ∀ c p n, (encrypt c p n).sent.length ≤ n
  sent_decrypt : ∀ c i n, (decrypt c i n).sent.length ≤ n
  sent_closeNotify : ∀ c n, (closeNotify c n).sent.length ≤ n
  app_decrypt : ∀ c i n, (decrypt c i n).app.length ≤ dtlsBufSize

/-- A provider that computes: one flight completes the handshake, and a record is its type and the
plain text. -/
def DtlsProvider.plain : DtlsProvider Unit where
  ctxNew _ := some ()
  setRole _ _ := ()
  setTime _ _ := ()
  nextTimeout _ := 0xFFFFFFFF
  handleTimeout _ _ _ := { ctx := (), rc := .wait }
  handshake _ input _ := { ctx := (), rc := .done, read := input.length }
  encrypt _ plain room := { ctx := (), rc := .done, sent := (23 :: plain).take room }
  decrypt _ input _ :=
    { ctx := (), rc := .done, read := input.length, app := (input.drop 1).take dtlsBufSize }
  closeNotify _ room := { ctx := (), rc := .done, sent := [21].take room }
  exportKeyingMaterial _ := some (List.replicate 60 7)
  getFingerprint _ := .lit "41"
  sent_handleTimeout _ _ _ := Nat.zero_le _
  sent_handshake _ _ _ := Nat.zero_le _
  sent_encrypt _ _ _ := List.length_take_le _ _
  sent_decrypt _ _ _ := Nat.zero_le _
  sent_closeNotify _ _ := List.length_take_le _ _
  app_decrypt _ _ _ := List.length_take_le _ _

/-- `nano_dtls_state_t`. -/
inductive DtlsState where
  | init
  | handshaking
  | established
  | closed
  | error
deriving Repr, DecidableEq

/-- `nano_dtls_t`. Both byte queues are lists as long as the source's length field. -/
structure NanoDtls (Ctx : Type) where
  state : DtlsState
  nowMs : UInt32 := 0
  timeoutMs : UInt32
  timeoutObservedMs : UInt32 := 0
  outBuf : List UInt8 := []
  inBuf : List UInt8 := []
  inReadPos : Nat := 0
  cryptoCtx : Option Ctx
  isServer : Bool
  keyingMaterial : List UInt8 := []
  keyingMaterialReady : Bool := false
  appBuf : List UInt8 := List.replicate dtlsBufSize 0
  appLen : Nat := 0
  localFingerprint : LineText := .nil
  chloTotal : Nat := 0
  chloHave : Nat := 0
  chloMsgSeq : UInt16 := 0
  chloRecHdr : List UInt8 := List.replicate dtlsRecordHdrPrefixSize 0

variable {Ctx : Type} (crypto : DtlsProvider Ctx)

/-- A zeroed `nano_dtls_t`. -/
def NanoDtls.zero : NanoDtls Ctx where
  state := .init
  timeoutMs := 0
  cryptoCtx := none
  isServer := false

/-! ### Callbacks -/

/-- Bytes that wait for the provider. -/
def NanoDtls.input (d : NanoDtls Ctx) : List UInt8 := d.inBuf.drop d.inReadPos

/-- Room for records of the provider. -/
def NanoDtls.room (d : NanoDtls Ctx) : Nat := dtlsBufSize - d.outBuf.length

/-- `bio_send_cb` and `bio_recv_cb` over a whole provider call. -/
def NanoDtls.reply (d : NanoDtls Ctx) (r : DtlsReply Ctx) : NanoDtls Ctx :=
  let consumed := d.inReadPos + r.read ≥ d.inBuf.length
  { d with
    cryptoCtx := some r.ctx
    outBuf := d.outBuf ++ r.sent
    inBuf := if consumed then [] else d.inBuf
    inReadPos := if consumed then 0 else d.inReadPos + r.read }

/-! ### Handshake -/

/-- `dtls_set_time`. -/
def dtlsSetTime (d : NanoDtls Ctx) (nowMs : UInt32) : NanoDtls Ctx :=
  { d with nowMs := nowMs, cryptoCtx := d.cryptoCtx.map (crypto.setTime · nowMs) }

/-- `dtls_handshake_result` on the reply of the provider. -/
def dtlsHandshakeResult (d : NanoDtls Ctx) (r : DtlsReply Ctx) : NanoDtls Ctx × Rc :=
  let d := d.reply r
  match r.rc with
  | .failed => ({ d with state := .error }, .crypto)
  | .wait =>
    ({ d with timeoutMs := crypto.nextTimeout r.ctx, timeoutObservedMs := d.nowMs }, .ok)
  | .done =>
    let d := { d with
      state := .established, timeoutMs := 0xFFFFFFFF, timeoutObservedMs := d.nowMs }
    match crypto.exportKeyingMaterial r.ctx with
    | none => (d, .ok)
    | some material => ({ d with keyingMaterial := material, keyingMaterialReady := true }, .ok)

/-- `dtls_next_timeout_ms`. -/
def dtlsNextTimeoutMs (d : NanoDtls Ctx) (nowMs : UInt32) : UInt32 :=
  if d.state ≠ .handshaking ∨ d.timeoutMs = 0xFFFFFFFF then 0xFFFFFFFF
  else
    let elapsed := nowMs - d.timeoutObservedMs
    if elapsed ≥ d.timeoutMs then 0 else d.timeoutMs - elapsed

/-- `dtls_handle_timeout`. -/
def dtlsHandleTimeout (d : NanoDtls Ctx) (nowMs : UInt32) : NanoDtls Ctx × Rc :=
  let d := dtlsSetTime crypto d nowMs
  match d.cryptoCtx with
  | none => (d, .ok)
  | some ctx =>
    if d.state ≠ .handshaking then (d, .ok)
    else if dtlsNextTimeoutMs d nowMs ≠ 0 then (d, .ok)
    else dtlsHandshakeResult crypto d (crypto.handleTimeout ctx d.input d.room)

/-- `dtls_init`. -/
def dtlsInit (isServer : Bool) : NanoDtls Ctx × Rc :=
  match crypto.ctxNew isServer with
  | none =>
    ({ state := .error, timeoutMs := 0xFFFFFFFF, cryptoCtx := none, isServer := isServer }, .crypto)
  | some ctx =>
    ({ state := .init
       timeoutMs := 0xFFFFFFFF
       cryptoCtx := some ctx
       isServer := isServer
       localFingerprint := crypto.getFingerprint ctx }, .ok)

/-- `dtls_start`. -/
def dtlsStart (d : NanoDtls Ctx) : NanoDtls Ctx × Rc :=
  match d.cryptoCtx with
  | none => (d, .invalidParam)
  | some ctx =>
    if d.state ≠ .init then (d, .state)
    else
      let d := { d with state := .handshaking }
      dtlsHandshakeResult crypto d (crypto.handshake ctx d.input d.room)

/-! ### Receive -/

/-- A 24-bit big-endian word. -/
def readU24be (b : List UInt8) (i : Nat) : Nat :=
  (byteAt b i).toNat * 65536 + (readU16be b (i + 1)).toNat

/-- The bytes of a 24-bit word. -/
def u24be (n : Nat) : List UInt8 := [UInt8.ofNat (n / 65536)] ++ u16be (UInt16.ofNat n)

/-- What `dtls_try_reassemble_chlo` made of a datagram. -/
inductive ChloResult where
  | notFragment
  | buffered
  | dropped
deriving Repr, DecidableEq

/-- The datagram is a fragment of a ClientHello that the server has to put together. -/
def dtlsIsChloFragment (d : NanoDtls Ctx) (data : List UInt8) : Bool :=
  let recLen := (readU16be data 11).toNat
  d.isServer && (d.state == .init || d.state == .handshaking) && decide (25 ≤ data.length) &&
    byteAt data 0 == 0x16 && decide (recLen + 13 ≤ data.length ∧ 12 ≤ recLen) &&
    byteAt data 13 == 0x01 && !(readU24be data 19 == 0 && readU24be data 22 == readU24be data 14)

/-- `dtls_try_reassemble_chlo`; the body is parked in the application buffer. -/
def dtlsTryReassembleChlo (d : NanoDtls Ctx) (data : List UInt8) : NanoDtls Ctx × ChloResult :=
  if !dtlsIsChloFragment d data then (d, .notFragment)
  else
    let total := readU24be data 14
    let msgSeq := readU16be data 17
    let fragOff := readU24be data 19
    let fragLen := readU24be data 22
    if total > dtlsBufSize ∨ fragOff + fragLen > total ∨ 25 + fragLen > data.length then
      (d, .dropped)
    else
      let d :=
        if d.chloTotal = 0 ∨ d.chloTotal ≠ total ∨ d.chloMsgSeq ≠ msgSeq then
          { d with
            chloTotal := total
            chloHave := 0
            chloMsgSeq := msgSeq
            chloRecHdr := data.take dtlsRecordHdrPrefixSize }
        else d
      let d := { d with
        appBuf := writeAt d.appBuf fragOff ((data.drop 25).take fragLen)
        chloHave := max d.chloHave (fragOff + fragLen) }
      if d.chloHave < d.chloTotal then (d, .buffered)
      else if d.inBuf.length + 25 + d.chloTotal > dtlsBufSize then
        ({ d with chloTotal := 0, chloHave := 0 }, .dropped)
      else
        let record := d.chloRecHdr ++ u16be (UInt16.ofNat (12 + d.chloTotal)) ++ [0x01] ++
          u24be d.chloTotal ++ u16be d.chloMsgSeq ++ u24be 0 ++ u24be d.chloTotal ++
          d.appBuf.take d.chloTotal
        ({ d with inBuf := d.inBuf ++ record, chloTotal := 0, chloHave := 0 }, .buffered)

/-- The provider driven by what `dtls_handle_data` has put into the input buffer. -/
def dtlsDrive (d : NanoDtls Ctx) (ctx : Ctx) : NanoDtls Ctx × Rc :=
  match d.state with
  | .init | .handshaking =>
    let d := { d with state := .handshaking }
    dtlsHandshakeResult crypto d (crypto.handshake ctx d.input d.room)
  | .established =>
    let r := crypto.decrypt ctx d.input d.room
    let d := d.reply r
    match r.rc with
    | .failed => ({ d with appLen := 0 }, .crypto)
    | _ => ({ d with appBuf := writeAt d.appBuf 0 r.app, appLen := r.app.length }, .ok)
  | _ => (d, .state)

/-- `dtls_handle_data`. -/
def dtlsHandleData (d : NanoDtls Ctx) (data : List UInt8) : NanoDtls Ctx × Rc :=
  if data = [] then (d, .invalidParam)
  else
    match d.cryptoCtx with
    | none => (d, .state)
    | some ctx =>
      match dtlsTryReassembleChlo d data with
      | (d, .dropped) => (d, .protocol)
      | (d, .buffered) => dtlsDrive crypto d ctx
      | (d, .notFragment) =>
        if d.inBuf.length + data.length > dtlsBufSize then (d, .bufferTooSmall)
        else dtlsDrive crypto { d with inBuf := d.inBuf ++ data } ctx

/-- `dtls_poll_output`. -/
def dtlsPollOutput (d : NanoDtls Ctx) (bufLen : Nat) : NanoDtls Ctx × Except Rc (List UInt8) :=
  if d.outBuf = [] then (d, .error .noData)
  else if bufLen < d.outBuf.length then (d, .error .bufferTooSmall)
  else ({ d with outBuf := [] }, .ok d.outBuf)

/-- `dtls_encrypt`. -/
def dtlsEncrypt (d : NanoDtls Ctx) (plain : List UInt8) : NanoDtls Ctx × Rc :=
  if plain = [] then (d, .invalidParam)
  else if d.state ≠ .established then (d, .state)
  else
    match d.cryptoCtx with
    | none => (d, .state)
    | some ctx =>
      let r := crypto.encrypt ctx plain d.room
      (d.reply r, if r.rc = .failed then .crypto else .ok)

/-- `dtls_poll_app_data`. -/
def dtlsPollAppData (d : NanoDtls Ctx) : NanoDtls Ctx × Option (List UInt8) :=
  if d.appLen = 0 then (d, none) else ({ d with appLen := 0 }, some (d.appBuf.take d.appLen))

/-! ### Shutdown -/

/-- `dtls_close`. -/
def dtlsClose (d : NanoDtls Ctx) : NanoDtls Ctx :=
  match d.cryptoCtx, d.state with
  | some ctx, .established => { d.reply (crypto.closeNotify ctx d.room) with state := .closed }
  | _, _ => { d with state := .closed }

/-- `dtls_destroy`. -/
def dtlsDestroy (d : NanoDtls Ctx) : NanoDtls Ctx := { d with cryptoCtx := none, state := .closed }

end Nanortc.Native
