import Nanortc.ForStd.Overlay
import Nanortc.ForStd.Run
import Nanortc.Native.Dtls

/-!
# Fragments of a ClientHello

A server puts the handshake fragments of a ClientHello together in its application buffer and hands
the provider one record. It keeps one number, the highest offset a fragment of the message has
reached, and takes the message for whole when that number is its length. The runs here are calls on
the DTLS state machine, each datagram with a fragment marked with the message it was cut from.

## Key results

- `dtlsTryReassembleChlo_refused`, `dtlsTryReassembleChlo_takes`: what the function does with a
  datagram
- `assembling_step`: the buffer holds what was written last, as long as the handshake lasts
- `chlo_reassembled`: the record is that of the message when every offset in front of its last
  fragment was last written by it
-/

namespace Nanortc.Spec

open Nanortc.ForStd Nanortc.Native

variable {Ctx : Type} (crypto : DtlsProvider Ctx)

/-! ### Calls -/

/-- A call on the DTLS state machine, or the change of its role when an answer is accepted. -/
inductive DtlsOp where
  | start
  | setRole (isServer : Bool)
  | handleTimeout (nowMs : UInt32)
  | handleData (data : List UInt8)
  | pollOutput (bufLen : Nat)
  | encrypt (plain : List UInt8)
  | pollAppData
  | close
  | destroy
deriving Repr, DecidableEq

/-- The state after a call. -/
def dtlsStep (d : NanoDtls Ctx) : DtlsOp → NanoDtls Ctx
  | .start => (dtlsStart crypto d).1
  | .setRole isServer =>
    if d.cryptoCtx.isSome then
      { d with cryptoCtx := d.cryptoCtx.map (crypto.setRole · isServer), isServer := isServer }
    else d
  | .handleTimeout nowMs => (dtlsHandleTimeout crypto d nowMs).1
  | .handleData data => (dtlsHandleData crypto d data).1
  | .pollOutput bufLen => (dtlsPollOutput d bufLen).1
  | .encrypt plain => (dtlsEncrypt crypto d plain).1
  | .pollAppData => (dtlsPollAppData d).1
  | .close => dtlsClose crypto d
  | .destroy => dtlsDestroy d

/-! ### Fragments -/

/-- A ClientHello: its sequence number in the handshake and its body. -/
structure ClientHello where
  msgSeq : UInt16
  body : List UInt8
deriving Repr, DecidableEq

/-- `rec_len`. -/
def chloRecLen (data : List UInt8) : Nat := (readU16be data 11).toNat

/-- `total`. -/
def chloLength (data : List UInt8) : Nat := readU24be data 14

/-- `msg_seq`. -/
def chloSeq (data : List UInt8) : UInt16 := readU16be data 17

/-- `frag_off`. -/
def chloOff (data : List UInt8) : Nat := readU24be data 19

/-- `frag_len`. -/
def chloFragLen (data : List UInt8) : Nat := readU24be data 22

/-- The datagram begins with a record that holds a fragment of `m`, which is not the whole of it. -/
structure IsFragmentOf (m : ClientHello) (data : List UInt8) : Prop where
  content : byteAt data 0 = 0x16
  type : byteAt data 13 = 0x01
  record : chloRecLen data + 13 ≤ data.length
  inside : 12 + chloFragLen data ≤ chloRecLen data
  total : chloLength data = m.body.length
  msgSeq : chloSeq data = m.msgSeq
  fits : chloOff data + chloFragLen data ≤ m.body.length
  part : ¬(chloOff data = 0 ∧ chloFragLen data = m.body.length)
  bytes : slice data 25 (chloFragLen data) = slice m.body (chloOff data) (chloFragLen data)

/-- The part of the message that the datagram carries. -/
def chloPart (m : ClientHello) (data : List UInt8) : Patch ClientHello :=
  ⟨m, chloOff data, chloFragLen data⟩

/-- The function takes the datagram's bytes: it looks at it, the message fits the buffer and the
fragment fits the message and the datagram. -/
def ChloTakes (d : NanoDtls Ctx) (data : List UInt8) : Prop :=
  dtlsIsChloFragment d data = true ∧ chloLength data ≤ dtlsBufSize ∧
    chloOff data + chloFragLen data ≤ chloLength data ∧ 25 + chloFragLen data ≤ data.length

instance (d : NanoDtls Ctx) (data : List UInt8) : Decidable (ChloTakes d data) :=
  inferInstanceAs (Decidable (_ ∧ _))

/-- The assembly that the fragment continues, or a fresh one. -/
def chloAssembly (d : NanoDtls Ctx) (data : List UInt8) : NanoDtls Ctx :=
  if d.chloTotal = 0 ∨ d.chloTotal ≠ chloLength data ∨ d.chloMsgSeq ≠ chloSeq data then
    { d with
      chloTotal := chloLength data
      chloHave := 0
      chloMsgSeq := chloSeq data
      chloRecHdr := data.take dtlsRecordHdrPrefixSize }
  else d

/-- The assembly with the fragment in it. -/
def chloStored (d : NanoDtls Ctx) (data : List UInt8) : NanoDtls Ctx :=
  { chloAssembly d data with
    appBuf := writeAt (chloAssembly d data).appBuf (chloOff data) (slice data 25 (chloFragLen data))
    chloHave := max (chloAssembly d data).chloHave (chloOff data + chloFragLen data) }

/-- The record with a whole message in it, behind the first bytes of the record header. -/
def chloRecord (recHdr : List UInt8) (m : ClientHello) : List UInt8 :=
  recHdr ++ u16be (UInt16.ofNat (12 + m.body.length)) ++ [0x01] ++ u24be m.body.length ++
    u16be m.msgSeq ++ u24be 0 ++ u24be m.body.length ++ m.body

/-- Whether it continues an assembly or begins one, the fragment's message is the one assembled. -/
theorem chloAssembly_message (d : NanoDtls Ctx) (data : List UInt8) :
    (chloAssembly d data).chloTotal = chloLength data ∧
      (chloAssembly d data).chloMsgSeq = chloSeq data := by
  unfold chloAssembly
  split
  · exact ⟨rfl, rfl⟩
  · rename_i h
    simp only [not_or, ne_eq, not_not] at h
    exact h.2

/-- Beginning an assembly changes the assembly state only. -/
theorem chloAssembly_frame (d : NanoDtls Ctx) (data : List UInt8) :
    (chloAssembly d data).appBuf = d.appBuf ∧ (chloAssembly d data).inBuf = d.inBuf ∧
      (chloAssembly d data).state = d.state ∧ (chloAssembly d data).cryptoCtx = d.cryptoCtx := by
  unfold chloAssembly
  split <;> exact ⟨rfl, rfl, rfl, rfl⟩

/-- A fragment that is not taken changes nothing. -/
theorem dtlsTryReassembleChlo_refused {d : NanoDtls Ctx} {data : List UInt8}
    (h : ¬ChloTakes d data) : (dtlsTryReassembleChlo d data).1 = d := by
  unfold dtlsTryReassembleChlo
  cases hfrag : dtlsIsChloFragment d data
  · rfl
  · have hbad : readU24be data 14 > dtlsBufSize ∨
        readU24be data 19 + readU24be data 22 > readU24be data 14 ∨
        25 + readU24be data 22 > data.length := by
      by_contra hno
      simp only [not_or, not_lt, gt_iff_lt] at hno
      exact h ⟨hfrag, hno⟩
    simp only [Bool.not_true, Bool.false_eq_true, if_false]
    rw [if_pos hbad]

/-- **What the function does with a fragment it takes**: it waits for more, finds no room for the
record, or writes it. -/
theorem dtlsTryReassembleChlo_takes {d : NanoDtls Ctx} {data : List UInt8}
    (hsize : d.appBuf.length = dtlsBufSize) (h : ChloTakes d data) :
    dtlsTryReassembleChlo d data =
      if (chloStored d data).chloHave < chloLength data then (chloStored d data, .buffered)
      else if dtlsBufSize < d.inBuf.length + 25 + chloLength data then
        ({ chloStored d data with chloTotal := 0, chloHave := 0 }, .dropped)
      else
        ({ chloStored d data with
            inBuf := d.inBuf ++ chloRecord (chloAssembly d data).chloRecHdr
              ⟨chloSeq data, (chloStored d data).appBuf.take (chloLength data)⟩
            chloTotal := 0
            chloHave := 0 }, .buffered) := by
  obtain ⟨hfrag, htotal, hfits, hlen⟩ := h
  obtain ⟨hmsg, hseq⟩ := chloAssembly_message d data
  obtain ⟨happ, hin, -, -⟩ := chloAssembly_frame d data
  have hok : ¬(readU24be data 14 > dtlsBufSize ∨
      readU24be data 19 + readU24be data 22 > readU24be data 14 ∨
      25 + readU24be data 22 > data.length) := by
    simp only [not_or, not_lt, gt_iff_lt]
    exact ⟨htotal, hfits, hlen⟩
  have hbody : ((chloStored d data).appBuf.take (chloLength data)).length = chloLength data := by
    have hslice := length_slice hlen
    rw [List.length_take, chloStored, length_writeAt, happ, hsize]
    · omega
    · rw [happ, hsize, hslice]
      omega
  unfold dtlsTryReassembleChlo
  simp only [hfrag, Bool.not_true, Bool.false_eq_true, if_false]
  rw [if_neg hok]
  show (if (chloStored d data).chloHave < (chloAssembly d data).chloTotal then
      (chloStored d data, ChloResult.buffered)
    else if (chloAssembly d data).inBuf.length + 25 + (chloAssembly d data).chloTotal > dtlsBufSize
      then ({ chloStored d data with chloTotal := 0, chloHave := 0 }, .dropped)
    else ({ chloStored d data with
        inBuf := (chloAssembly d data).inBuf ++ ((chloAssembly d data).chloRecHdr ++
          u16be (UInt16.ofNat (12 + (chloAssembly d data).chloTotal)) ++ [0x01] ++
          u24be (chloAssembly d data).chloTotal ++ u16be (chloAssembly d data).chloMsgSeq ++
          u24be 0 ++ u24be (chloAssembly d data).chloTotal ++
          (chloStored d data).appBuf.take (chloAssembly d data).chloTotal)
        chloTotal := 0
        chloHave := 0 }, .buffered)) = _
  rw [hmsg, hseq, hin]
  simp only [chloRecord, hbody, gt_iff_lt]

/-! ### Calls that leave the assembly alone -/

/-- The handshake is not over. -/
def Handshaking (d : NanoDtls Ctx) : Prop := d.state = .init ∨ d.state = .handshaking

/-- If the handshake goes on in `d'` it went on in `d`, and the assembly is the same. -/
def SameAssembly (d d' : NanoDtls Ctx) : Prop :=
  Handshaking d' → Handshaking d ∧ d'.appBuf = d.appBuf ∧ d'.chloTotal = d.chloTotal ∧
    d'.chloHave = d.chloHave ∧ d'.chloRecHdr = d.chloRecHdr ∧
    (d.cryptoCtx.isSome → d'.cryptoCtx.isSome)

theorem SameAssembly.refl (d : NanoDtls Ctx) : SameAssembly d d :=
  fun h => ⟨h, rfl, rfl, rfl, rfl, id⟩

theorem SameAssembly.trans {d d' d'' : NanoDtls Ctx} (h : SameAssembly d d')
    (h' : SameAssembly d' d'') : SameAssembly d d'' := by
  intro hd
  obtain ⟨hd', happ', htotal', hhave', hhdr', hctx'⟩ := h' hd
  obtain ⟨hd, happ, htotal, hhave, hhdr, hctx⟩ := h hd'
  exact ⟨hd, happ'.trans happ, htotal'.trans htotal, hhave'.trans hhave, hhdr'.trans hhdr,
    fun hs => hctx' (hctx hs)⟩

/-- A state outside the handshake promises nothing. -/
theorem SameAssembly.over {d d' : NanoDtls Ctx} (h : ¬Handshaking d') : SameAssembly d d' :=
  fun hd => absurd hd h

theorem sameAssembly_reply (d : NanoDtls Ctx) (r : DtlsReply Ctx) : SameAssembly d (d.reply r) :=
  fun h => ⟨h, rfl, rfl, rfl, rfl, fun _ => rfl⟩

theorem sameAssembly_handshakeResult (d : NanoDtls Ctx) (r : DtlsReply Ctx) :
    SameAssembly d (dtlsHandshakeResult crypto d r).1 := by
  unfold dtlsHandshakeResult
  cases r.rc with
  | failed => exact .over (by simp [Handshaking])
  | wait => exact fun h => ⟨h, rfl, rfl, rfl, rfl, fun _ => rfl⟩
  | done =>
    cases crypto.exportKeyingMaterial r.ctx with
    | none => exact .over (by simp [Handshaking])
    | some material => exact .over (by simp [Handshaking])

theorem sameAssembly_drive (d : NanoDtls Ctx) (ctx : Ctx) :
    SameAssembly d (dtlsDrive crypto d ctx).1 := by
  have hdriven (h : Handshaking d) : SameAssembly d { d with state := .handshaking } :=
    fun _ => ⟨h, rfl, rfl, rfl, rfl, id⟩
  unfold dtlsDrive
  cases hs : d.state with
  | init => exact (hdriven (.inl hs)).trans (sameAssembly_handshakeResult crypto _ _)
  | handshaking => exact (hdriven (.inr hs)).trans (sameAssembly_handshakeResult crypto _ _)
  | established =>
    have hover (d' : NanoDtls Ctx) (h : d'.state = d.state) : SameAssembly d d' :=
      .over (by simp [Handshaking, h, hs])
    dsimp only
    cases (crypto.decrypt ctx d.input d.room).rc <;> exact hover _ rfl
  | closed => exact .refl d
  | error => exact .refl d

theorem sameAssembly_start (d : NanoDtls Ctx) : SameAssembly d (dtlsStart crypto d).1 := by
  unfold dtlsStart
  cases d.cryptoCtx with
  | none => exact .refl d
  | some ctx =>
    by_cases hs : d.state = .init
    · have hdriven : SameAssembly d { d with state := .handshaking } :=
        fun _ => ⟨.inl hs, rfl, rfl, rfl, rfl, id⟩
      simp only [hs, ne_eq, not_true_eq_false, if_false]
      exact hdriven.trans (sameAssembly_handshakeResult crypto _ _)
    · simp only [hs, ne_eq, not_false_eq_true, if_true]
      exact .refl d

theorem sameAssembly_handleTimeout (d : NanoDtls Ctx) (nowMs : UInt32) :
    SameAssembly d (dtlsHandleTimeout crypto d nowMs).1 := by
  have htime : SameAssembly d (dtlsSetTime crypto d nowMs) := by
    refine fun h => ⟨h, rfl, rfl, rfl, rfl, fun hc => ?_⟩
    simpa [dtlsSetTime] using hc
  unfold dtlsHandleTimeout
  generalize dtlsSetTime crypto d nowMs = d' at htime
  cases hc : d'.cryptoCtx with
  | none => simpa only [hc] using htime
  | some ctx =>
    simp only [hc]
    split
    · exact htime
    · split
      · exact htime
      · exact htime.trans (sameAssembly_handshakeResult crypto _ _)

/-- **Every call but the arrival of a datagram leaves the assembly alone.** -/
theorem sameAssembly_step (d : NanoDtls Ctx) {op : DtlsOp} (hop : ∀ data, op ≠ .handleData data) :
    SameAssembly d (dtlsStep crypto d op) := by
  cases op with
  | start => exact sameAssembly_start crypto d
  | setRole isServer =>
    show SameAssembly d (if d.cryptoCtx.isSome then _ else d)
    split
    · refine fun h => ⟨h, rfl, rfl, rfl, rfl, fun hc => ?_⟩
      simpa using hc
    · exact .refl d
  | handleTimeout nowMs => exact sameAssembly_handleTimeout crypto d nowMs
  | handleData data => exact absurd rfl (hop data)
  | pollOutput bufLen =>
    show SameAssembly d (dtlsPollOutput d bufLen).1
    unfold dtlsPollOutput
    split
    · exact .refl d
    · split
      · exact .refl d
      · exact fun h => ⟨h, rfl, rfl, rfl, rfl, id⟩
  | encrypt plain =>
    show SameAssembly d (dtlsEncrypt crypto d plain).1
    unfold dtlsEncrypt
    split
    · exact .refl d
    · split
      · exact .refl d
      · cases d.cryptoCtx with
        | none => exact .refl d
        | some ctx => exact sameAssembly_reply d _
  | pollAppData =>
    show SameAssembly d (dtlsPollAppData d).1
    unfold dtlsPollAppData
    split
    · exact .refl d
    · exact fun h => ⟨h, rfl, rfl, rfl, rfl, id⟩
  | close =>
    refine .over ?_
    show ¬Handshaking (dtlsClose crypto d)
    unfold dtlsClose
    split <;> simp [Handshaking]
  | destroy => exact .over (by simp [dtlsStep, dtlsDestroy, Handshaking])

/-- A datagram changes the assembly by the fragment in it only. -/
theorem sameAssembly_handleData {d : NanoDtls Ctx} {data : List UInt8} (hne : data ≠ [])
    (hctx : d.cryptoCtx.isSome) :
    SameAssembly (dtlsTryReassembleChlo d data).1 (dtlsHandleData crypto d data).1 := by
  obtain ⟨ctx, hc⟩ := Option.isSome_iff_exists.mp hctx
  unfold dtlsHandleData
  rw [if_neg hne, hc]
  dsimp only
  cases htry : dtlsTryReassembleChlo d data with
  | mk d' result =>
    cases result with
    | dropped => exact .refl d'
    | buffered => exact sameAssembly_drive crypto d' ctx
    | notFragment =>
      dsimp only
      split
      · exact .refl d'
      · have happend : SameAssembly d' { d' with inBuf := d'.inBuf ++ data } :=
          fun h => ⟨h, rfl, rfl, rfl, rfl, id⟩
        exact happend.trans (sameAssembly_drive crypto _ ctx)

/-! ### Runs -/

/-- A step of a run: a datagram with a fragment of a message, or another call. -/
inductive ChloEvent where
  | fragment (m : ClientHello) (data : List UInt8)
  | other (op : DtlsOp)
deriving Repr, DecidableEq

/-- The call of the step. -/
def ChloEvent.op : ChloEvent → DtlsOp
  | .fragment _ data => .handleData data
  | .other op => op

/-- The step is marked right: its datagram is cut from the message, or from none. -/
def ChloEvent.Valid : ChloEvent → Prop
  | .fragment m data => IsFragmentOf m data
  | .other (.handleData data) => ∀ m, ¬IsFragmentOf m data
  | .other _ => True

/-- A state and the parts of messages that have been stored on the way to it, the newest first. -/
structure ChloHistory (Ctx : Type) where
  dtls : NanoDtls Ctx
  received : List (Patch ClientHello) := []

/-- A step of a run and what it adds to the history. -/
def chloStep (h : ChloHistory Ctx) (e : ChloEvent) : ChloHistory Ctx where
  dtls := dtlsStep crypto h.dtls e.op
  received :=
    match e with
    | .fragment m data =>
      if ChloTakes h.dtls data then chloPart m data :: h.received else h.received
    | .other _ => h.received

/-- The invariant of the assembly while the handshake lasts. -/
structure Assembling (h : ChloHistory Ctx) : Prop where
  ctx : h.dtls.cryptoCtx.isSome
  size : h.dtls.appBuf.length = dtlsBufSize
  hdr : h.dtls.chloRecHdr.length = dtlsRecordHdrPrefixSize
  waits : h.dtls.chloTotal = 0 ∨ h.dtls.chloHave < h.dtls.chloTotal
  stored : Overlaid ClientHello.body h.dtls.appBuf h.received

/-- The condition on a step. The fragment with which a message ends finds every offset in front of
it written last by that message, or no room for the record; and no datagram announces a fragment
that runs past its record and not past the datagram. -/
def ChloOrderly (h : ChloHistory Ctx) : ChloEvent → Prop
  | .fragment m data =>
    ChloTakes h.dtls data → chloOff data + chloFragLen data = m.body.length →
      (∀ k < chloOff data, lastSource h.received k = some m) ∨
        dtlsBufSize < h.dtls.inBuf.length + 25 + m.body.length
  | .other (.handleData data) =>
    ChloTakes h.dtls data → 12 + chloFragLen data ≤ chloRecLen data
  | .other _ => True

/-- What the function promises for a step: it writes nothing, or all of the message has been
received and the record is that of the message; a datagram that is not a fragment of a message
changes nothing. -/
def ChloSound (h : ChloHistory Ctx) : ChloEvent → Prop
  | .fragment m data =>
    (dtlsTryReassembleChlo h.dtls data).1.inBuf = h.dtls.inBuf ∨
      ((∀ k < m.body.length, ∃ p ∈ chloPart m data :: h.received, p.source = m ∧ p.Covers k) ∧
        ∃ recHdr, recHdr.length = dtlsRecordHdrPrefixSize ∧
          (dtlsTryReassembleChlo h.dtls data).1.inBuf = h.dtls.inBuf ++ chloRecord recHdr m)
  | .other (.handleData data) => (dtlsTryReassembleChlo h.dtls data).1 = h.dtls
  | .other _ => True

/-! ### The assembly -/

variable {crypto} {h : ChloHistory Ctx} {m : ClientHello} {data : List UInt8}

theorem Assembling.same {d d' : NanoDtls Ctx} {received : List (Patch ClientHello)}
    (h : Assembling ⟨d, received⟩) (hsame : SameAssembly d d') (hd : Handshaking d') :
    Assembling ⟨d', received⟩ := by
  obtain ⟨-, happ, htotal, hhave, hhdr, hctx⟩ := hsame hd
  refine ⟨hctx h.ctx, ?_, ?_, ?_, ?_⟩
  · exact (congrArg List.length happ).trans h.size
  · exact (congrArg List.length hhdr).trans h.hdr
  · show d'.chloTotal = 0 ∨ d'.chloHave < d'.chloTotal
    rw [htotal, hhave]
    exact h.waits
  · show Overlaid ClientHello.body d'.appBuf received
    rw [happ]
    exact h.stored

theorem ChloTakes.handshaking {d : NanoDtls Ctx} (htakes : ChloTakes d data) : Handshaking d := by
  have hfrag := htakes.1
  simp only [dtlsIsChloFragment, Bool.and_eq_true, Bool.or_eq_true, beq_iff_eq] at hfrag
  exact hfrag.1.1.1.1.1.2

/-- What the function takes is a fragment of some message, unless it runs past its record. -/
theorem ChloTakes.exists_message {d : NanoDtls Ctx} (htakes : ChloTakes d data)
    (hinside : 12 + chloFragLen data ≤ chloRecLen data) : ∃ m, IsFragmentOf m data := by
  obtain ⟨hfrag, -, hfits, hlen⟩ := htakes
  simp only [dtlsIsChloFragment, Bool.and_eq_true, beq_iff_eq, decide_eq_true_eq,
    Bool.not_eq_true', Bool.and_eq_false_imp, beq_eq_false_iff_ne] at hfrag
  obtain ⟨⟨⟨⟨⟨-, -⟩, hcontent⟩, hrecord⟩, htype⟩, hpart⟩ := hfrag
  have hslice := length_slice hlen
  let body := List.replicate (chloOff data) 0 ++ (slice data 25 (chloFragLen data) ++
    List.replicate (chloLength data - (chloOff data + chloFragLen data)) 0)
  have hbody : body.length = chloLength data := by
    simp only [body, List.length_append, List.length_replicate, hslice]
    omega
  refine ⟨⟨chloSeq data, body⟩, hcontent, htype, hrecord.1, hinside, hbody.symm, rfl, ?_, ?_, ?_⟩
  · rw [hbody]
    exact hfits
  · rintro ⟨hoff, hall⟩
    rw [hbody] at hall
    exact hpart hoff hall
  · show _ = ((body.drop (chloOff data)).take (chloFragLen data))
    rw [List.drop_left' List.length_replicate, List.take_left' hslice]

theorem IsFragmentOf.length_data (hfrag : IsFragmentOf m data) :
    25 + chloFragLen data ≤ data.length := by
  have := hfrag.record
  have := hfrag.inside
  omega

theorem IsFragmentOf.ne_nil (hfrag : IsFragmentOf m data) : data ≠ [] := by
  rintro rfl
  exact absurd hfrag.length_data (by simp)

/-- Storing a fragment writes its bytes over those that were there. -/
theorem chloStored_overlaid (hasm : Assembling h) (hfrag : IsFragmentOf m data)
    (htakes : ChloTakes h.dtls data) :
    (chloStored h.dtls data).appBuf.length = dtlsBufSize ∧
      Overlaid ClientHello.body (chloStored h.dtls data).appBuf (chloPart m data :: h.received) := by
  have hroom : chloOff data + chloFragLen data ≤ h.dtls.appBuf.length := by
    rw [hasm.size]
    exact Nat.le_trans htakes.2.2.1 htakes.2.1
  unfold chloStored
  simp only [(chloAssembly_frame h.dtls data).1, hfrag.bytes]
  constructor
  · rw [length_writeAt _ _ _ (by rwa [length_slice hfrag.fits]), hasm.size]
  · exact hasm.stored.write (p := chloPart m data) hfrag.fits hroom

theorem chloStored_hdr (hasm : Assembling h) (hfrag : IsFragmentOf m data) :
    (chloAssembly h.dtls data).chloRecHdr.length = dtlsRecordHdrPrefixSize := by
  unfold chloAssembly
  split
  · rw [List.length_take]
    have := hfrag.length_data
    exact Nat.min_eq_left (by simp only [dtlsRecordHdrPrefixSize]; omega)
  · exact hasm.hdr

/-- **Storing a fragment keeps the invariant.** -/
theorem assembling_fragment (hasm : Assembling h) (hfrag : IsFragmentOf m data)
    (htakes : ChloTakes h.dtls data) :
    Assembling ⟨(dtlsTryReassembleChlo h.dtls data).1, chloPart m data :: h.received⟩ := by
  obtain ⟨hsize, hstored⟩ := chloStored_overlaid hasm hfrag htakes
  have hhdr := chloStored_hdr hasm hfrag
  have hctx : (chloStored h.dtls data).cryptoCtx.isSome := by
    show (chloAssembly h.dtls data).cryptoCtx.isSome
    rw [(chloAssembly_frame h.dtls data).2.2.2]
    exact hasm.ctx
  rw [dtlsTryReassembleChlo_takes hasm.size htakes]
  split
  · rename_i hwait
    refine ⟨hctx, hsize, hhdr, .inr ?_, hstored⟩
    show _ < (chloAssembly h.dtls data).chloTotal
    rw [(chloAssembly_message h.dtls data).1]
    exact hwait
  · split
    · exact ⟨hctx, hsize, hhdr, .inl rfl, hstored⟩
    · exact ⟨hctx, hsize, hhdr, .inl rfl, hstored⟩

/-- A message that is taken for whole ends with the fragment that arrived. -/
theorem chloStored_whole (hasm : Assembling h) (hfrag : IsFragmentOf m data)
    (hwhole : ¬(chloStored h.dtls data).chloHave < chloLength data) :
    chloOff data + chloFragLen data = m.body.length := by
  have hfits := hfrag.fits
  rw [← hfrag.total] at hfits ⊢
  have hwaits : (chloAssembly h.dtls data).chloHave < chloLength data := by
    have hpos : 0 < chloLength data := by
      rcases Nat.eq_zero_or_pos (chloLength data) with hzero | hpos
      · have := hfrag.part
        rw [← hfrag.total] at this
        exact absurd ⟨by omega, by omega⟩ this
      · exact hpos
    unfold chloAssembly
    split
    · exact hpos
    · rename_i hsame
      simp only [not_or, ne_eq, not_not] at hsame
      rw [← hsame.2.1]
      exact hasm.waits.resolve_left hsame.1
  have hmax : ¬max (chloAssembly h.dtls data).chloHave (chloOff data + chloFragLen data) <
      chloLength data := hwhole
  omega

/-- **A step that meets the condition is sound.** -/
theorem chloSound_of_orderly {e : ChloEvent} (hasm : Handshaking h.dtls → Assembling h)
    (hvalid : e.Valid) (hord : ChloOrderly h e) : ChloSound h e := by
  cases e with
  | fragment m data =>
    by_cases htakes : ChloTakes h.dtls data
    · have hasm := hasm htakes.handshaking
      have hfrag : IsFragmentOf m data := hvalid
      have hin : (chloStored h.dtls data).inBuf = h.dtls.inBuf :=
        (chloAssembly_frame h.dtls data).2.1
      show (dtlsTryReassembleChlo h.dtls data).1.inBuf = _ ∨ _
      rw [dtlsTryReassembleChlo_takes hasm.size htakes]
      split
      · exact .inl hin
      · rename_i hwhole
        split
        · exact .inl hin
        · rename_i hroom
          have hend := chloStored_whole hasm hfrag hwhole
          have hfront : ∀ k < chloOff data, lastSource h.received k = some m := by
            refine (hord htakes hend).resolve_right fun hfull => hroom ?_
            rwa [hfrag.total]
          -- what the last fragment does not cover lies in front of it
          have hall : ∀ k < m.body.length,
              lastSource (chloPart m data :: h.received) k = some m := by
            intro k hk
            rw [lastSource_cons]
            by_cases hcov : (chloPart m data).Covers k
            · rw [if_pos hcov]
              rfl
            · rw [if_neg hcov]
              refine hfront k (Nat.lt_of_not_le fun hge => hcov ⟨hge, ?_⟩)
              show k < chloOff data + chloFragLen data
              rwa [hend]
          have hbody := (chloStored_overlaid hasm hfrag htakes).2.take_eq hall
          refine .inr ⟨fun k hk => exists_part_of_lastSource (hall k hk), _,
            chloStored_hdr hasm hfrag, ?_⟩
          rw [hfrag.total, hbody, hfrag.msgSeq]
    · exact .inl (congrArg NanoDtls.inBuf (dtlsTryReassembleChlo_refused htakes))
  | other op =>
    cases op with
    | handleData data =>
      refine dtlsTryReassembleChlo_refused fun htakes => ?_
      obtain ⟨m, hm⟩ := htakes.exists_message (hord htakes)
      exact hvalid m hm
    | _ => trivial

theorem handshaking_of_handleData {d : NanoDtls Ctx}
    (h : Handshaking (dtlsHandleData crypto d data).1) : Handshaking d := by
  by_cases hne : data = []
  · rwa [dtlsHandleData, if_pos hne] at h
  · cases hc : d.cryptoCtx with
    | none =>
      rw [dtlsHandleData, if_neg hne, hc] at h
      exact h
    | some ctx =>
      by_cases htakes : ChloTakes d data
      · exact htakes.handshaking
      · have hsame := sameAssembly_handleData crypto hne (hc ▸ rfl : d.cryptoCtx.isSome)
        rw [dtlsTryReassembleChlo_refused htakes] at hsame
        exact (hsame h).1

/-- A datagram whose fragment is not taken leaves the assembly alone. -/
theorem sameAssembly_refused {d : NanoDtls Ctx} (hctx : d.cryptoCtx.isSome)
    (hrefused : ¬ChloTakes d data) : SameAssembly d (dtlsHandleData crypto d data).1 := by
  by_cases hne : data = []
  · rw [dtlsHandleData, if_pos hne]
    exact .refl d
  · have hsame := sameAssembly_handleData crypto hne hctx
    rwa [dtlsTryReassembleChlo_refused hrefused] at hsame

/-- **Every step that meets the condition keeps the invariant.** -/
theorem assembling_step {e : ChloEvent} (hasm : Handshaking h.dtls → Assembling h)
    (hvalid : e.Valid) (hord : ChloOrderly h e) (hafter : Handshaking (chloStep crypto h e).dtls) :
    Assembling (chloStep crypto h e) := by
  cases e with
  | fragment m data =>
    have hasm := hasm (handshaking_of_handleData hafter)
    have hfrag : IsFragmentOf m data := hvalid
    by_cases htakes : ChloTakes h.dtls data
    · have hstored := assembling_fragment hasm hfrag htakes
      have hsame := sameAssembly_handleData crypto hfrag.ne_nil hasm.ctx
      show Assembling ⟨(dtlsHandleData crypto h.dtls data).1,
        if ChloTakes h.dtls data then chloPart m data :: h.received else h.received⟩
      rw [if_pos htakes]
      exact hstored.same hsame hafter
    · show Assembling ⟨(dtlsHandleData crypto h.dtls data).1,
        if ChloTakes h.dtls data then chloPart m data :: h.received else h.received⟩
      rw [if_neg htakes]
      exact Assembling.same hasm (sameAssembly_refused hasm.ctx htakes) hafter
  | other op =>
    by_cases hdata : ∃ data, op = .handleData data
    · obtain ⟨data, rfl⟩ := hdata
      have hasm := hasm (handshaking_of_handleData hafter)
      have hrefused : ¬ChloTakes h.dtls data := fun htakes => by
        obtain ⟨m, hm⟩ := htakes.exists_message (hord htakes)
        exact hvalid m hm
      exact Assembling.same hasm (sameAssembly_refused hasm.ctx hrefused) hafter
    · have hsame := sameAssembly_step crypto h.dtls fun data hop => hdata ⟨data, hop⟩
      exact Assembling.same (hasm (hsame hafter).1) hsame hafter

/-- A context that was set up holds no assembly. -/
theorem assembling_init {isServer : Bool} {d : NanoDtls Ctx}
    (hinit : dtlsInit crypto isServer = (d, .ok)) : Assembling ⟨d, []⟩ := by
  unfold dtlsInit at hinit
  cases hctx : crypto.ctxNew isServer with
  | none =>
    rw [hctx] at hinit
    exact nomatch congrArg Prod.snd hinit
  | some ctx =>
    rw [hctx] at hinit
    obtain rfl := congrArg Prod.fst hinit
    exact ⟨rfl, List.length_replicate, List.length_replicate, .inl rfl, overlaid_nil _ _⟩

/-- **The record is that of the message.** In every run of calls from a fresh context, in which each
datagram is marked with the message it is a fragment of, and in which each message's last fragment
arrives when every offset in front of it was last written by that message and no fragment runs past
its record alone: the record is written only when every offset has been received, its body is that
of the message, and a datagram that is not a fragment changes nothing. -/
theorem chlo_reassembled {isServer : Bool} {d : NanoDtls Ctx}
    (hinit : dtlsInit crypto isServer = (d, .ok)) {events : List ChloEvent}
    (hvalid : ∀ e ∈ events, e.Valid)
    (hord : AllSteps (chloStep crypto) ⟨d, []⟩ ChloOrderly events) :
    AllSteps (chloStep crypto) ⟨d, []⟩ ChloSound events := by
  have hrun (h : ChloHistory Ctx) (hasm : Handshaking h.dtls → Assembling h) :
      AllSteps (chloStep crypto) h ChloOrderly events →
        AllSteps (chloStep crypto) h ChloSound events := by
    clear hord
    induction events generalizing h with
    | nil => exact id
    | cons e events ih =>
      intro hord
      have he := hvalid e List.mem_cons_self
      refine ⟨chloSound_of_orderly hasm he hord.1, ?_⟩
      exact ih (fun e' he' => hvalid e' (List.mem_cons_of_mem _ he')) _
        (fun hafter => assembling_step hasm he hord.1 hafter) hord.2
  exact hrun _ (fun _ => assembling_init hinit) hord

/-! ### Two orders of arrival -/

/-- A provider whose handshake waits until a record has come. -/
def demoPatient : DtlsProvider Unit :=
  { DtlsProvider.plain with
    handshake := fun _ input _ =>
      { ctx := (), rc := if input = [] then .wait else .done, read := input.length }
    sent_handshake := fun _ _ _ => Nat.zero_le _ }

/-- The server before any datagram. -/
def demoChloServer : NanoDtls Unit := (dtlsInit demoPatient true).1

/-- A ClientHello of three bytes. -/
def demoHello : ClientHello := ⟨0, [10, 20, 30]⟩

/-- A datagram with `len` bytes of the message from `off` on. -/
def demoHelloPart (off len : Nat) : List UInt8 :=
  [0x16] ++ List.replicate 10 0 ++ u16be (UInt16.ofNat (12 + len)) ++ [0x01] ++ u24be 3 ++ u16be 0 ++
    u24be off ++ u24be len ++ slice demoHello.body off len

/-- The first two bytes, then the last. -/
def demoHelloEvents : List ChloEvent :=
  [.fragment demoHello (demoHelloPart 0 2), .fragment demoHello (demoHelloPart 2 1)]

theorem demoHelloPart_valid :
    IsFragmentOf demoHello (demoHelloPart 0 2) ∧ IsFragmentOf demoHello (demoHelloPart 2 1) := by
  constructor
  · exact ⟨by decide, by decide, by decide, by decide, by decide, by decide, by decide, by decide,
      by decide⟩
  · exact ⟨by decide, by decide, by decide, by decide, by decide, by decide, by decide, by decide,
      by decide⟩

/-- In order, the second fragment completes the record. -/
theorem chlo_reassembled_in_order :
    AllSteps (chloStep demoPatient) ⟨demoChloServer, []⟩ ChloSound demoHelloEvents := by
  have hvalid : ∀ e ∈ demoHelloEvents, e.Valid := by
    intro e he
    rcases List.mem_cons.mp he with rfl | he
    · exact demoHelloPart_valid.1
    · obtain rfl := List.mem_singleton.mp he
      exact demoHelloPart_valid.2
  have htakes : ChloTakes demoChloServer (demoHelloPart 0 2) := by decide +kernel
  have hreceived : (chloStep demoPatient ⟨demoChloServer, []⟩
      (.fragment demoHello (demoHelloPart 0 2))).received = [⟨demoHello, 0, 2⟩] := by
    show (if ChloTakes demoChloServer (demoHelloPart 0 2) then
      [chloPart demoHello (demoHelloPart 0 2)] else []) = _
    rw [if_pos htakes]
    rfl
  have hoff : chloOff (demoHelloPart 2 1) = 2 := by decide
  refine chlo_reassembled rfl hvalid ⟨fun _ hend => ?_, fun _ _ => .inl fun k hk => ?_, trivial⟩
  · exact absurd hend (by decide)
  · rw [hreceived, lastSource_cons, if_pos ⟨Nat.zero_le k, hoff ▸ hk⟩]

/-- The last fragment alone makes the server write a record with a hole in front. -/
theorem chlo_written_with_hole :
    dtlsInit demoPatient true = (demoChloServer, .ok) ∧
      (ChloEvent.fragment demoHello (demoHelloPart 2 1)).Valid ∧
      ¬AllSteps (chloStep demoPatient) ⟨demoChloServer, []⟩ ChloSound
        [.fragment demoHello (demoHelloPart 2 1)] := by
  refine ⟨rfl, demoHelloPart_valid.2, ?_⟩
  rintro ⟨hsame | ⟨hall, -⟩, -⟩
  · revert hsame
    decide +kernel
  · obtain ⟨p, hp, -, hcov⟩ := hall 0 (by decide)
    obtain rfl := List.mem_singleton.mp hp
    revert hcov
    decide

end Nanortc.Spec
