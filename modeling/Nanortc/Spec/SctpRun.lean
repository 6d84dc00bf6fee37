import Nanortc.Spec.SctpFrame
import Nanortc.Spec.SctpTable

/-!
# Runs of an association

The calls on an association, and history variables along them. A history variable is told of every
call and of every chunk that a packet is processed for, with the state before and after it; it
never influences the association.

## Key results

- `sctpLogStep_fst`: the association of a logged run is that of the run
- `sctpLogStep_invariant`: the rule for an invariant of association and history
- `nsctpHandleDataChunk_cases`: what a DATA chunk does to the receive state
-/

namespace Nanortc.Spec

open Nanortc.ForStd Nanortc.Native

/-- Calls on an association. -/
inductive SctpInput where
  | start (random : Option AssociationSeed)
  | packet (random : Option AssociationSeed) (data : List UInt8)
  | pollDelivery
  | pollOutput (bufLen : Nat)
  | send (streamId : UInt16) (ppid : UInt32) (data : List UInt8) (unordered : Bool)
      (maxRetransmits : Int)
  | timeout (nowMs : UInt32) (random : Option (List UInt8))

/-- The association after one call. -/
def sctpStep (s : NanoSctp) : SctpInput → NanoSctp
  | .start random => (nsctpStart s random).1
  | .packet random data => (nsctpHandleData s random data).1
  | .pollDelivery => (nsctpPollDelivery s).1
  | .pollOutput bufLen => (nsctpPollOutput s bufLen).1
  | .send streamId ppid data unordered maxRetransmits =>
    (nsctpSendOptions s streamId ppid data unordered maxRetransmits).1
  | .timeout nowMs random => (nsctpHandleTimeout s nowMs random).1

/-- A history variable: what it becomes by a processed chunk, given the states before and after, and
by a call other than a packet. -/
structure History (γ : Type) where
  chunk : γ → NanoSctp → Option AssociationSeed → List UInt8 → NanoSctp → γ
  call : γ → NanoSctp → SctpInput → γ

variable {γ : Type}

/-- The loop turn of `nsctp_handle_data`, logged. -/
def sctpLogTurn (h : History γ) (random : Option AssociationSeed) (hdr : NsctpHeader)
    (w : NanoSctp × γ) (chunk : Option (List UInt8)) : (NanoSctp × γ) × Option Rc :=
  let r := nsctpChunkTurn random hdr w.1 chunk
  let log := match chunk with
    | none => w.2
    | some chunk =>
      if nsctpAnswered chunk ∧ nsctpOutFull w.1 then w.2 else h.chunk w.2 w.1 random chunk r.1
  ((r.1, log), r.2)

/-- `nsctp_handle_data`, logged. -/
def sctpLogPacket (h : History γ) (w : NanoSctp × γ) (random : Option AssociationSeed)
    (data : List UInt8) : NanoSctp × γ :=
  if data.length < sctpHeaderSize then w
  else if nsctpVerifyChecksum data ≠ .ok then w
  else
    match runUntil (sctpLogTurn h random (nsctpParseHeader data)) w
        (nsctpChunks data data.length sctpHeaderSize) with
    | (w, some _) => w
    | (w, none) => ((nsctpFinishPacket w.1).1, w.2)

/-- One call, logged. -/
def sctpLogStep (h : History γ) (w : NanoSctp × γ) : SctpInput → NanoSctp × γ
  | .packet random data => sctpLogPacket h w random data
  | i => (sctpStep w.1 i, h.call w.2 w.1 i)

/-- A call other than a packet. -/
theorem sctpLogStep_call (h : History γ) (w : NanoSctp × γ) {i : SctpInput}
    (hi : ∀ random data, i ≠ .packet random data) :
    sctpLogStep h w i = (sctpStep w.1 i, h.call w.2 w.1 i) := by
  unfold sctpLogStep
  split
  · exact absurd rfl (hi _ _)
  · rfl

theorem sctpLogPacket_fst (h : History γ) (w : NanoSctp × γ) (random : Option AssociationSeed)
    (data : List UInt8) :
    (sctpLogPacket h w random data).1 = (nsctpHandleData w.1 random data).1 := by
  unfold sctpLogPacket nsctpHandleData
  split
  · rfl
  split
  · rfl
  have hmap := runUntil_map (f := sctpLogTurn h random (nsctpParseHeader data))
    (g := nsctpChunkTurn random (nsctpParseHeader data)) (p := Prod.fst) (fun _ _ => rfl) w
    (nsctpChunks data data.length sctpHeaderSize)
  rw [hmap]
  cases runUntil (sctpLogTurn h random (nsctpParseHeader data)) w
      (nsctpChunks data data.length sctpHeaderSize) with
  | mk w' e => cases e <;> rfl

/-- **A history variable does not influence the association.** -/
theorem sctpLogStep_fst (h : History γ) (w : NanoSctp × γ) (i : SctpInput) :
    (sctpLogStep h w i).1 = sctpStep w.1 i := by
  by_cases hi : ∃ random data, i = .packet random data
  · obtain ⟨random, data, rfl⟩ := hi
    exact sctpLogPacket_fst h w random data
  · rw [sctpLogStep_call h w fun random data h => hi ⟨random, data, h⟩]

/-- Whatever the result code, a turn leaves the state that the chunk's handler leaves. -/
theorem nsctpChunkTurn_fst (random : Option AssociationSeed) (hdr : NsctpHeader) (s : NanoSctp)
    (chunk : List UInt8) :
    (nsctpChunkTurn random hdr s (some chunk)).1 =
      if nsctpAnswered chunk ∧ nsctpOutFull s then s else (nsctpHandleChunk s random hdr chunk).1 := by
  unfold nsctpChunkTurn
  dsimp only
  split
  · rfl
  · cases nsctpHandleChunk s random hdr chunk with
    | mk s' rc =>
      cases rc with
      | ok => rfl
      | _ =>
        dsimp only
        split <;> rfl

/-- The rule for a packet: every processed chunk keeps the invariant, and the SACK at the end does. -/
theorem sctpLogPacket_invariant {h : History γ} {P : NanoSctp → γ → Prop}
    (hchunk : ∀ s g random hdr chunk, P s g → P (nsctpHandleChunk s random hdr chunk).1
      (h.chunk g s random chunk (nsctpHandleChunk s random hdr chunk).1))
    (hfinish : ∀ s g, P s g → P (nsctpFinishPacket s).1 g)
    (w : NanoSctp × γ) (random : Option AssociationSeed) (data : List UInt8) (hw : P w.1 w.2) :
    P (sctpLogPacket h w random data).1 (sctpLogPacket h w random data).2 := by
  unfold sctpLogPacket
  split
  · exact hw
  split
  · exact hw
  have hloop := runUntil_invariant (f := sctpLogTurn h random (nsctpParseHeader data))
    (P := fun w => P w.1 w.2) (fun w c hw => by
      cases c with
      | none => exact hw
      | some chunk =>
        unfold sctpLogTurn
        dsimp only
        rw [nsctpChunkTurn_fst]
        split
        · exact hw
        · exact hchunk _ _ _ _ _ hw) hw (nsctpChunks data data.length sctpHeaderSize)
  split
  · rename_i heq
    rw [heq] at hloop
    exact hloop
  · rename_i heq
    rw [heq] at hloop
    exact hfinish _ _ hloop

/-- The rule for an invariant of association and history: every processed chunk keeps it, the SACK
at the end of a packet does, and every other call does. -/
theorem sctpLogStep_invariant {h : History γ} {P : NanoSctp → γ → Prop}
    (hchunk : ∀ s g random hdr chunk, P s g → P (nsctpHandleChunk s random hdr chunk).1
      (h.chunk g s random chunk (nsctpHandleChunk s random hdr chunk).1))
    (hfinish : ∀ s g, P s g → P (nsctpFinishPacket s).1 g)
    (hcall : ∀ s g i, (∀ random data, i ≠ .packet random data) → P s g →
      P (sctpStep s i) (h.call g s i))
    (w : NanoSctp × γ) (i : SctpInput) (hw : P w.1 w.2) :
    P (sctpLogStep h w i).1 (sctpLogStep h w i).2 := by
  by_cases hi : ∃ random data, i = .packet random data
  · obtain ⟨random, data, rfl⟩ := hi
    exact sctpLogPacket_invariant hchunk hfinish w random data hw
  · have hcall' : ∀ random data, i ≠ .packet random data := fun random data h => hi ⟨random, data, h⟩
    rw [sctpLogStep_call h w hcall']
    exact hcall _ _ _ hcall' hw

/-- The rule for an invariant of the association alone. -/
theorem sctpStep_invariant {P : NanoSctp → Prop}
    (hchunk : ∀ s random hdr chunk, P s → P (nsctpHandleChunk s random hdr chunk).1)
    (hfinish : ∀ s, P s → P (nsctpFinishPacket s).1)
    (hcall : ∀ s i, (∀ random data, i ≠ .packet random data) → P s → P (sctpStep s i))
    (s : NanoSctp) (i : SctpInput) (hs : P s) : P (sctpStep s i) := by
  have hlog := sctpLogStep_invariant (h := ⟨fun _ _ _ _ _ => (), fun _ _ _ => ()⟩)
    (P := fun s _ => P s) (fun s _ => hchunk s) (fun s _ => hfinish s) (fun s _ => hcall s)
    (s, ()) i hs
  rw [sctpLogStep_fst] at hlog
  exact hlog

/-! ### Sample packets -/

/-- A packet with one chunk, under the tag that the association draws. -/
def demoPacket (chunk : List UInt8) : SctpInput :=
  .packet (some ⟨0x0A0B0C0D, 500, List.replicate 16 7⟩)
    (nsctpFinalizeChecksum (nsctpEncodeHeader 5000 5000 0x0A0B0C0D ++ chunk))

def demoInit (initialTsn : UInt32) : SctpInput :=
  demoPacket (nsctpEncodeInit 1188 1 0x11223344 4096 16 16 initialTsn [])

def demoCookieEcho : SctpInput :=
  demoPacket (nsctpEncodeCookieEcho 1188 (nsctpCookie (List.replicate 16 7) 0x11223344))

def demoData (tsn : UInt32) (flags : UInt8) (payload : List UInt8) : SctpInput :=
  demoPacket (nsctpEncodeData 1188 ⟨tsn, 1, 0, 51, flags, payload⟩)

/-- The calls that establish an association whose peer starts with TSN 1000. -/
def demoHandshake : List SctpInput := [demoInit 1000, demoCookieEcho]

/-! ### What does not touch the receive table -/

/-- The peer parameters a handshake leaves behind. -/
structure SctpPeer where
  remoteVtag : UInt32
  peerInitialTsn : UInt32
  peerARwnd : UInt32
  peerForwardTsn : Bool
  peerNumIstreams : UInt16
  peerNumOstreams : UInt16
deriving Repr, DecidableEq

/-- The peer parameters of an association. -/
def peerOf (s : NanoSctp) : SctpPeer :=
  ⟨s.remoteVtag, s.peerInitialTsn, s.peerARwnd, s.peerForwardTsn, s.peerNumIstreams,
    s.peerNumOstreams⟩

/-- Nothing of the receive state changes but `sack_needed`, and no peer parameter changes. -/
structure SameReceive (s s' : NanoSctp) : Prop where
  recv : s'.recv = { s.recv with sackNeeded := s'.recv.sackNeeded }
  peer : peerOf s' = peerOf s

theorem SameReceive.refl (s : NanoSctp) : SameReceive s s := ⟨rfl, rfl⟩

theorem SameReceive.trans {s s' s'' : NanoSctp} (h : SameReceive s s') (h' : SameReceive s' s'') :
    SameReceive s s'' :=
  ⟨by rw [h'.recv, h.recv], h'.peer.trans h.peer⟩

/-- Sending touches neither the receive table nor the state. -/
theorem sameReceive_send : SendRule fun s s' => SameReceive s s' ∧ s'.state = s.state where
  refl s := ⟨.refl s, rfl⟩
  trans h h' := ⟨h.1.trans h'.1, h'.2.trans h.2⟩
  output _ _ := ⟨⟨rfl, rfl⟩, rfl⟩
  sack _ := ⟨⟨rfl, rfl⟩, rfl⟩
  sent _ _ _ _ _ := ⟨⟨rfl, rfl⟩, rfl⟩
  abandon _ _ := ⟨⟨rfl, rfl⟩, rfl⟩
  forward _ _ _ := ⟨⟨rfl, rfl⟩, rfl⟩

/-- The timeout handler touches the receive table as little, and can only close. -/
theorem sameReceive_timer :
    TimerRule fun s s' => SameReceive s s' ∧ (s'.state = s.state ∨ s'.state = .closed) where
  refl s := ⟨.refl s, .inl rfl⟩
  trans h h' := ⟨h.1.trans h'.1, h'.2.elim (fun heq => heq ▸ h.2) .inr⟩
  output _ _ := ⟨⟨rfl, rfl⟩, .inl rfl⟩
  sack _ := ⟨⟨rfl, rfl⟩, .inl rfl⟩
  sent _ _ _ _ _ := ⟨⟨rfl, rfl⟩, .inl rfl⟩
  abandon _ _ := ⟨⟨rfl, rfl⟩, .inl rfl⟩
  forward _ _ _ := ⟨⟨rfl, rfl⟩, .inl rfl⟩
  clock _ _ := ⟨⟨rfl, rfl⟩, .inl rfl⟩
  backoff _ := ⟨⟨rfl, rfl⟩, .inl rfl⟩
  fail _ := ⟨⟨rfl, rfl⟩, .inr rfl⟩
  heartbeat _ _ _ _ := ⟨⟨rfl, rfl⟩, .inl rfl⟩

theorem nsctpSendOptions_same (s : NanoSctp) (streamId : UInt16) (ppid : UInt32)
    (data : List UInt8) (unordered : Bool) (maxRetransmits : Int) :
    SameReceive s (nsctpSendOptions s streamId ppid data unordered maxRetransmits).1 ∧
      (nsctpSendOptions s streamId ppid data unordered maxRetransmits).1.state = s.state :=
  sameReceive_send.sendOptions (fun _ _ _ _ _ _ _ => ⟨⟨rfl, rfl⟩, rfl⟩) s streamId ppid data unordered
    maxRetransmits

theorem nsctpHandleSackChunk_same (s : NanoSctp) (chunk : List UInt8) :
    SameReceive s (nsctpHandleSackChunk s chunk).1 ∧
      (nsctpHandleSackChunk s chunk).1.state = s.state :=
  sameReceive_send.handleSack (fun _ _ _ => ⟨⟨rfl, rfl⟩, rfl⟩) s chunk

/-! ### What chunks do -/

/-- The DATA chunk the association stores, with the descriptor it gets. -/
def nsctpStored (s : NanoSctp) (chunk : List UInt8) : Option (RxSlot × NsctpData) :=
  if SctpChunkType.ofType (byteAt chunk 0) ≠ .data ∨ s.state ≠ .established then none
  else
    match nsctpParseData chunk with
    | none => none
    | some d =>
      if d.payload.length > sctpMaxMessageSize ∨ i32 (d.tsn - s.recv.cumulativeTsn) ≤ 0 then none
      else
        match (nsctpAdmit (nsctpRxReclaim { s.recv with sackNeeded := true }) s.streams d).2 with
        | .store slot => some (slot, d)
        | _ => none

/-- The receive state with a stored chunk, before fragments are merged. -/
def nsctpAfterStore (s : NanoSctp) (p : RxSlot × NsctpData) : SctpRecv :=
  nsctpGapDrain (nsctpStore (nsctpRxReclaim { s.recv with sackNeeded := true }) p.1 p.2)

/-- The TSN that a FORWARD TSN chunk moves the association to. -/
def nsctpForwards (s : NanoSctp) (chunk : List UInt8) : Option UInt32 :=
  if SctpChunkType.ofType (byteAt chunk 0) ≠ .forwardTsn ∨ chunk.length < 8 ∨
      (chunk.length - 8) % 4 ≠ 0 ∨ !s.peerForwardTsn ∨
      i32 (readU32be chunk 4 - s.recv.cumulativeTsn) ≤ 0 then none
  else some (readU32be chunk 4)

/-- The receive state that `nsctp_rx_merge` starts from, if the chunk gets that far. -/
def nsctpMergeStart (s : NanoSctp) (chunk : List UInt8) : Option SctpRecv :=
  match nsctpStored s chunk, nsctpForwards s chunk with
  | some p, _ => some (nsctpAfterStore s p)
  | none, some tsn => some { s.recv with sackNeeded := true, cumulativeTsn := tsn }
  | none, none => none

/-- The joins that a chunk brings about. -/
def nsctpChunkJoins (s : NanoSctp) (chunk : List UInt8) : List (SctpRecv × RxSlot × RxSlot) :=
  (nsctpMergeStart s chunk).elim [] (nsctpRxJoins sctpMaxRecvGap)

theorem nsctpChunkJoins_stored {s : NanoSctp} {chunk : List UInt8} {p : RxSlot × NsctpData}
    (h : nsctpStored s chunk = some p) :
    nsctpChunkJoins s chunk = nsctpRxJoins sctpMaxRecvGap (nsctpAfterStore s p) := by
  unfold nsctpChunkJoins nsctpMergeStart
  rw [h]
  dsimp only
  rw [Option.elim_some]

theorem nsctpChunkJoins_forward {s : NanoSctp} {chunk : List UInt8} {tsn : UInt32}
    (hstored : nsctpStored s chunk = none) (h : nsctpForwards s chunk = some tsn) :
    nsctpChunkJoins s chunk =
      nsctpRxJoins sctpMaxRecvGap { s.recv with sackNeeded := true, cumulativeTsn := tsn } := by
  unfold nsctpChunkJoins nsctpMergeStart
  rw [hstored, h]
  dsimp only
  rw [Option.elim_some]

theorem nsctpStored_some {s : NanoSctp} {chunk : List UInt8} {p : RxSlot × NsctpData}
    (h : nsctpStored s chunk = some p) :
    nsctpParseData chunk = some p.2 ∧ 0 < i32 (p.2.tsn - s.recv.cumulativeTsn) ∧
    p.2.payload.length ≤ sctpMaxMessageSize ∧
    (nsctpAdmit (nsctpRxReclaim { s.recv with sackNeeded := true }) s.streams p.2).2 =
      .store p.1 := by
  unfold nsctpStored at h
  split at h
  · exact nomatch h
  split at h
  · exact nomatch h
  rename_i d hparse
  split at h
  · exact nomatch h
  rename_i hlen
  split at h
  · rename_i slot hadmit
    obtain rfl := Option.some.inj h
    rw [not_or] at hlen
    exact ⟨hparse, Int.not_le.mp hlen.2, Nat.not_lt.mp hlen.1, hadmit⟩
  · exact nomatch h

/-- The receive state after a DATA chunk that is not stored: at most compacted. -/
def Unstored (r r' : SctpRecv) : Prop :=
  r' = r ∨ r' = { r with sackNeeded := true } ∨ r' = nsctpRxReclaim { r with sackNeeded := true }

theorem nsctpHandleDataChunk_frame (s : NanoSctp) (chunk : List UInt8) :
    peerOf (nsctpHandleDataChunk s chunk).1 = peerOf s ∧
      (nsctpHandleDataChunk s chunk).1.state = s.state :=
  nsctpHandleDataChunk_rule (R := fun s s' => peerOf s' = peerOf s ∧ s'.state = s.state)
    (fun _ _ _ => ⟨rfl, rfl⟩) s chunk

/-- **What a DATA chunk does to the receive state.** -/
theorem nsctpHandleDataChunk_cases (s : NanoSctp) {chunk : List UInt8}
    (htype : SctpChunkType.ofType (byteAt chunk 0) = .data) :
    (nsctpStored s chunk = none ∧ Unstored s.recv (nsctpHandleDataChunk s chunk).1.recv) ∨
    ∃ p, nsctpStored s chunk = some p ∧
      (nsctpHandleDataChunk s chunk).1.recv = (nsctpRxMerge (nsctpAfterStore s p)).1 := by
  unfold nsctpStored nsctpHandleDataChunk
  rw [htype]
  by_cases hstate : s.state = .established
  · rw [if_neg (by simp [hstate]), if_neg (by simp [hstate])]
    cases nsctpParseData chunk with
    | none => exact .inl ⟨rfl, .inl rfl⟩
    | some d =>
      dsimp only
      unfold nsctpHandleDataParsed
      by_cases hlen : d.payload.length > sctpMaxMessageSize
      · rw [if_pos (.inl hlen), if_pos hlen]
        exact .inl ⟨rfl, .inl rfl⟩
      · rw [if_neg hlen]
        dsimp only
        by_cases hold : i32 (d.tsn - s.recv.cumulativeTsn) ≤ 0
        · rw [if_pos (.inr hold), if_pos hold]
          exact .inl ⟨rfl, .inr (.inl rfl)⟩
        · rw [if_neg (by simp [hlen, hold]), if_neg hold]
          cases nsctpAdmit (nsctpRxReclaim { s.recv with sackNeeded := true }) s.streams d with
          | mk streams a =>
            cases a with
            | duplicate =>
              dsimp only
              exact .inl ⟨rfl, .inr (.inr rfl)⟩
            | refused rc =>
              dsimp only
              exact .inl ⟨rfl, .inr (.inr rfl)⟩
            | store slot =>
              dsimp only
              exact .inr ⟨(slot, d), rfl, rfl⟩
  · rw [if_pos (.inr hstate), if_pos hstate]
    exact .inl ⟨rfl, .inl rfl⟩

/-- The same TSNs in use under the same cumulative TSN. -/
structure SameTsns (r r' : SctpRecv) : Prop where
  tsn : ∀ j, (r'.rx j).tsn = (r.rx j).tsn
  valid : ∀ j, (r'.rx j).valid = (r.rx j).valid
  cumulativeTsn : r'.cumulativeTsn = r.cumulativeTsn

theorem SameTsns.refl (r : SctpRecv) : SameTsns r r := ⟨fun _ => rfl, fun _ => rfl, rfl⟩

theorem SameTsns.trans {r r' r'' : SctpRecv} (h : SameTsns r r') (h' : SameTsns r' r'') :
    SameTsns r r'' :=
  ⟨fun j => (h'.tsn j).trans (h.tsn j), fun j => (h'.valid j).trans (h.valid j),
    h'.cumulativeTsn.trans h.cumulativeTsn⟩

theorem SameTsns.mapRx (r : SctpRecv) {f : RxSlot → RxEntry → RxEntry}
    (hf : ∀ i e, (f i e).tsn = e.tsn ∧ (f i e).valid = e.valid) : SameTsns r (r.mapRx f) :=
  ⟨fun j => by rw [SctpRecv.rx_mapRx, (hf j _).1], fun j => by rw [SctpRecv.rx_mapRx, (hf j _).2],
    rfl⟩

theorem nsctpForwardStreams_same (chunk : List UInt8) (ks : List Nat) (recv : SctpRecv)
    (streams : List SctpStream) :
    SameTsns recv (nsctpForwardStreams chunk ks recv streams).1 := by
  induction ks generalizing recv streams with
  | nil => exact .refl recv
  | cons k ks ih =>
    unfold nsctpForwardStreams
    dsimp only
    split
    · exact .refl recv
    · split
      · exact ih recv _
      · refine .trans (.mapRx recv fun i e => ?_) (ih _ _)
        split <;> exact ⟨rfl, rfl⟩

/-- **What a FORWARD TSN chunk does to the receive state.** -/
theorem nsctpHandleForwardTsn_cases (s : NanoSctp) {chunk : List UInt8}
    (htype : SctpChunkType.ofType (byteAt chunk 0) = .forwardTsn) :
    (nsctpForwards s chunk = none ∧
      ((nsctpHandleForwardTsn s chunk).1.recv = s.recv ∨
        (nsctpHandleForwardTsn s chunk).1.recv = { s.recv with sackNeeded := true })) ∨
    ∃ tsn recv, nsctpForwards s chunk = some tsn ∧ 0 < i32 (tsn - s.recv.cumulativeTsn) ∧
      SameTsns (nsctpRxMerge { s.recv with sackNeeded := true, cumulativeTsn := tsn }).1 recv ∧
      ((nsctpHandleForwardTsn s chunk).1.recv = recv ∨
        (nsctpHandleForwardTsn s chunk).1.recv = nsctpGapDrain recv) := by
  unfold nsctpForwards nsctpHandleForwardTsn
  rw [htype]
  by_cases hlen : chunk.length < 8 ∨ (chunk.length - 8) % 4 ≠ 0
  · rw [if_pos hlen]
    refine .inl ⟨if_pos ?_, .inl rfl⟩
    exact .inr (hlen.elim .inl fun h => .inr (.inl h))
  rw [if_neg hlen]
  rw [not_or] at hlen
  cases hpeer : s.peerForwardTsn with
  | false =>
    refine .inl ⟨if_pos (.inr (.inr (.inr (.inl rfl)))), ?_⟩
    exact .inl rfl
  | true =>
    dsimp only
    rw [if_neg (by simp : ¬((!true) = true))]
    by_cases hold : i32 (readU32be chunk 4 - s.recv.cumulativeTsn) ≤ 0
    · rw [if_pos hold]
      exact .inl ⟨if_pos (.inr (.inr (.inr (.inr hold)))), .inr rfl⟩
    · rw [if_neg hold]
      refine .inr ?_
      have hforwards : (if SctpChunkType.forwardTsn ≠ .forwardTsn ∨ chunk.length < 8 ∨
          (chunk.length - 8) % 4 ≠ 0 ∨ (!true) = true ∨
          i32 (readU32be chunk 4 - s.recv.cumulativeTsn) ≤ 0 then none
          else some (readU32be chunk 4)) = some (readU32be chunk 4) := by
        apply if_neg
        simp only [ne_eq, not_true_eq_false, Bool.not_true, Bool.false_eq_true, false_or]
        exact fun h => h.elim hlen.1 fun h => h.elim hlen.2 hold
      have hmark (r : SctpRecv) : SameTsns r (nsctpRxDiscard r (readU32be chunk 4)) :=
        .mapRx r fun i e => by split <;> exact ⟨rfl, rfl⟩
      refine ⟨readU32be chunk 4, ?_⟩
      rw [hforwards]
      generalize nsctpRxMerge { s.recv with
        sackNeeded := true, cumulativeTsn := readU32be chunk 4 } = merged
      by_cases hrc : merged.2 ≠ .ok
      · rw [if_pos hrc]
        exact ⟨_, rfl, Int.not_le.mp hold, .refl _, .inl rfl⟩
      · rw [if_neg hrc]
        have hstreams := (hmark merged.1).trans (nsctpForwardStreams_same chunk
          (List.range ((chunk.length - 8) / 4)) (nsctpRxDiscard merged.1 (readU32be chunk 4))
          s.streams)
        revert hstreams
        generalize nsctpForwardStreams chunk (List.range ((chunk.length - 8) / 4))
          (nsctpRxDiscard merged.1 (readU32be chunk 4)) s.streams = r
        intro hstreams
        by_cases hrc' : r.2.2 ≠ .ok
        · rw [if_pos hrc']
          exact ⟨_, rfl, Int.not_le.mp hold, hstreams, .inl rfl⟩
        · rw [if_neg hrc']
          dsimp only
          exact ⟨r.1, rfl, Int.not_le.mp hold, hstreams, .inr rfl⟩

/-! ### What a poll does -/

/-- **What the turns of a poll do**: nothing, or the parts of one message are assembled. -/
theorem nsctpPollSlots_cases (r : SctpRecv) (streams : List SctpStream) (slots : List RxSlot) :
    ((nsctpPollSlots r streams slots).1 = r ∧ ∀ m, (nsctpPollSlots r streams slots).2.2 ≠ .ok m) ∨
    ∃ i ∈ slots, (r.rx i).valid = true ∧ (r.rx i).delivered = false ∧
      hasFlag (r.rx i).flags sctpDataFlagBegin = true ∧
      ∃ parts, nsctpGatherParts r sctpMaxRecvGap (r.rx i).tsn [] 0 = .ok (some parts) ∧
        (nsctpPollSlots r streams slots).1 = (nsctpAssemble r parts).1 ∧
        (nsctpPollSlots r streams slots).2.2 =
          .ok ⟨(nsctpAssemble r parts).1.recvGapBuf.take (nsctpAssemble r parts).2, (r.rx i).ppid,
            (r.rx i).streamId⟩ := by
  induction slots generalizing streams with
  | nil => exact .inl ⟨rfl, fun m h => nomatch h⟩
  | cons i slots ih =>
    have hlater (streams : List SctpStream) :
        ((nsctpPollSlots r streams slots).1 = r ∧
          ∀ m, (nsctpPollSlots r streams slots).2.2 ≠ .ok m) ∨
        ∃ k ∈ i :: slots, (r.rx k).valid = true ∧ (r.rx k).delivered = false ∧
          hasFlag (r.rx k).flags sctpDataFlagBegin = true ∧
          ∃ parts, nsctpGatherParts r sctpMaxRecvGap (r.rx k).tsn [] 0 = .ok (some parts) ∧
            (nsctpPollSlots r streams slots).1 = (nsctpAssemble r parts).1 ∧
            (nsctpPollSlots r streams slots).2.2 =
              .ok ⟨(nsctpAssemble r parts).1.recvGapBuf.take (nsctpAssemble r parts).2,
                (r.rx k).ppid, (r.rx k).streamId⟩ := by
      cases ih streams with
      | inl h => exact .inl h
      | inr h =>
        obtain ⟨k, hk, h⟩ := h
        exact .inr ⟨k, List.mem_cons_of_mem i hk, h⟩
    unfold nsctpPollSlots
    dsimp only
    split
    · exact hlater streams
    rename_i hbegin
    split
    · exact hlater _
    split
    · exact hlater _
    split
    · exact hlater _
    split
    · exact .inl ⟨rfl, fun m h => nomatch h⟩
    · exact hlater _
    · rename_i parts hparts
      have hflags : (r.rx i).valid = true ∧ (r.rx i).delivered = false ∧
          hasFlag (r.rx i).flags sctpDataFlagBegin = true := by
        simpa [and_assoc] using hbegin
      exact .inr ⟨i, List.mem_cons_self, hflags.1, hflags.2.1, hflags.2.2, parts, hparts, rfl, rfl⟩

/-- One part moved to its place and marked. -/
def nsctpAssemblePart (r : SctpRecv) (pos : Nat) (j : RxSlot) : SctpRecv :=
  (nsctpRxMove r j pos).setRx j { (nsctpRxMove r j pos).rx j with delivered := true }

theorem nsctpAssemblePart_same (r : SctpRecv) (pos : Nat) (j : RxSlot) :
    SameTsns r (nsctpAssemblePart r pos j) := by
  have hmove := nsctpRxMove_same r j pos
  refine ⟨fun k => ?_, fun k => ?_, hmove.cumulativeTsn⟩
  · unfold nsctpAssemblePart
    rw [SctpRecv.rx_setRx]
    split
    · rename_i heq
      subst heq
      show ((nsctpRxMove r j pos).rx j).tsn = (r.rx j).tsn
      exact RxEntry.core_tsn (hmove.core j)
    · exact RxEntry.core_tsn (hmove.core k)
  · unfold nsctpAssemblePart
    rw [SctpRecv.rx_setRx]
    split
    · rename_i heq
      subst heq
      exact hmove.valid j
    · exact hmove.valid k

theorem nsctpAssemble_same (r : SctpRecv) (parts : List RxSlot) :
    SameTsns r (nsctpAssemble r parts).1 := by
  have hfold (pos : Nat) : SameTsns r (parts.foldl (fun (w : SctpRecv × Nat) j =>
      (nsctpAssemblePart w.1 w.2 j,
        w.2 + ((nsctpRxMove w.1 j w.2).rx j).dataLen)) (r, pos)).1 := by
    induction parts generalizing r pos with
    | nil => exact .refl r
    | cons j parts ih => exact (nsctpAssemblePart_same r pos j).trans (ih _ _)
  exact hfold 0

theorem nsctpPollDelivery_frame (s : NanoSctp) :
    peerOf (nsctpPollDelivery s).1 = peerOf s ∧ (nsctpPollDelivery s).1.state = s.state :=
  nsctpPollDelivery_rule (R := fun s s' => peerOf s' = peerOf s ∧ s'.state = s.state)
    (fun _ _ _ => ⟨rfl, rfl⟩) s

theorem nsctpPollDelivery_same (s : NanoSctp) :
    SameTsns (nsctpRxReclaim s.recv) (nsctpPollDelivery s).1.recv := by
  have hrecv : (nsctpPollDelivery s).1.recv =
      (nsctpPollSlots (nsctpRxReclaim s.recv) s.streams (List.finRange sctpMaxRecvGap)).1 := by
    unfold nsctpPollDelivery
    dsimp only
  rw [hrecv]
  cases nsctpPollSlots_cases (nsctpRxReclaim s.recv) s.streams (List.finRange sctpMaxRecvGap) with
  | inl h =>
    rw [h.1]
    exact .refl _
  | inr h =>
    obtain ⟨i, -, -, -, -, parts, -, hparts, -⟩ := h
    rw [hparts]
    exact nsctpAssemble_same _ parts

end Nanortc.Spec
