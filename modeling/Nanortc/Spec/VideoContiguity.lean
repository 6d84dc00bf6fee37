import Nanortc.ForStd.Run
import Nanortc.Spec.H264Pieces

/-!
# Contiguous video frames

A receiver is fed packets of a sequence of NAL units in any order, with gaps and repetitions. A
frame whose event says `contiguous` should be one NAL unit of the sequence, and the one behind the
frame handed out before it. The packets that pass a sequence layer reach the depacketizer either
next in order or with the loss mark set; `Following` says what this keeps true. A trace carries
what the code does not keep: the unbounded number of the packet that its sequence number stands
for, and the packets fed so far.

## Key results

- `rtcVideoCompleteEvent_delivered`: a packet that is next in order, or marked, at the depacketizer
- `directStep_tracked`: the sequence number followed without the reorder buffer
- `reorderPop_near` / `reorderStep_held`: the packets the reorder buffer releases
- `rtcVideoProduce_turns`: the loop of a poll ends in the turns it has
- `contiguous_genuine`: a run of clean steps hands out genuine contiguous frames only
- `late_packet_contiguous`: a repeated packet gives a contiguous frame out of order
-/

namespace Nanortc.Spec

open Nanortc.ForStd Nanortc.Native

/-! ### What is sent -/

/-- A sequence of NAL units with the size of the packets and the sequence number of the first. -/
structure VideoStream where
  nals : List (List UInt8)
  mtu : Nat
  firstSeq : UInt16

namespace VideoStream

/-- The packets in sending order. -/
def packets (v : VideoStream) : List (Piece H264Fragment) :=
  pieces (fun nal => h264Packetize nal v.mtu) v.nals

/-- The sequence number of a packet. -/
def seq (v : VideoStream) (k : Nat) : UInt16 := UInt16.ofNat (v.firstSeq.toNat + k)

/-- The NAL unit a packet is of. -/
def nalOf (v : VideoStream) (k : Nat) : Nat := (v.packets[k]?.map (·.item)).getD 0

/-- Well-formed NAL units only. -/
def WellFormed (v : VideoStream) : Prop := ∀ nal ∈ v.nals, NalUnit nal

/-- Every NAL unit fits the buffer of the depacketizer. -/
def Fits (v : VideoStream) : Prop := ∀ nal ∈ v.nals, nal.length ≤ videoNalBufSize

/-- Sequence numbers are compared by the distance of their packets. -/
theorem i16_seq_sub (v : VideoStream) {a b : Nat} (hlo : b ≤ a + 2 ^ 15) (hhi : a < b + 2 ^ 15) :
    i16 (v.seq a - v.seq b) = (a : Int) - b := by
  rw [seq, seq, i16_ofNat_sub_ofNat _ _ (by omega) (by omega)]
  omega

theorem toNat_seq_sub (v : VideoStream) {a b : Nat} (hle : b ≤ a) (hlt : a < b + 2 ^ 16) :
    (v.seq a - v.seq b).toNat = a - b := by
  rw [seq, seq, UInt16.toNat_sub, UInt16.toNat_ofNat', UInt16.toNat_ofNat']
  omega

theorem seq_succ (v : VideoStream) (k : Nat) : v.seq k + 1 = v.seq (k + 1) := by
  rw [seq, seq, ← Nat.add_assoc, UInt16.ofNat_add _ 1]
  rfl

/-- A packet with its NAL unit. -/
theorem packet_nal {v : VideoStream} {k : Nat} {q : Piece H264Fragment}
    (h : v.packets[k]? = some q) :
    ∃ nal, v.nals[q.item]? = some nal ∧ (h264Packetize nal v.mtu)[q.part]? = some q.value :=
  pieces_getElem? h

theorem mtu_of_packet {v : VideoStream} {k : Nat} {q : Piece H264Fragment}
    (h : v.packets[k]? = some q) : h264FuaHeaderSize < v.mtu := by
  obtain ⟨nal, -, hq⟩ := packet_nal h
  by_contra hmtu
  rw [h264Packetize, if_pos (.inr (by omega))] at hq
  cases hq

end VideoStream

/-! ### What arrives -/

/-- The session at a packet of the stream, given by its number, or at a poll. -/
inductive VideoInput where
  | packet (rtc : MediaRtc) (ts : UInt32) (marker : Bool) (k : Nat)
  | produce (rtc : MediaRtc)

/-- A frame with the packet that completed it. -/
structure Emission where
  packet : Nat
  frame : VideoFrame
deriving Repr, DecidableEq

/-- The receive state of the track with what was fed and handed out: `position` is the packet that
the sequence number of the code stands for, the newest one or the head of the window. -/
structure VideoTrace where
  rx : VideoRx := {}
  position : Nat := 0
  fed : List Nat := []
  emitted : List Emission := []

/-- The code has seen a packet. -/
def seqStarted (reorder : Bool) (rx : VideoRx) : Bool :=
  if reorder then rx.reorder.inited else rx.recvSeqInited

/-- The sequence number the code follows. -/
def seqFollowed (reorder : Bool) (rx : VideoRx) : UInt16 :=
  if reorder then rx.reorder.nextSeq else rx.recvLastSeq

/-- The packet last fed with a sequence number. -/
def lastFed (v : VideoStream) (fed : List Nat) (seq : UInt16) : Nat :=
  (fed.find? fun k => v.seq k == seq).getD 0

variable (crypto : CryptoProvider) (i : Nat) (reorder : Bool) (v : VideoStream)

/-- One packet, or one poll in the build with the reorder buffer. -/
def videoStep (t : VideoTrace) : VideoInput → VideoTrace
  | .packet rtc ts marker k =>
    match v.packets[k]? with
    | none => t
    | some q =>
      let (_, rx, frame) :=
        rtcVideoPacket crypto i reorder rtc t.rx (v.seq k) ts marker q.value.payload
      { rx := rx
        position :=
          if seqStarted reorder t.rx then
            t.position + (seqFollowed reorder rx - seqFollowed reorder t.rx).toNat
          else k
        fed := k :: t.fed
        emitted := t.emitted ++ (frame.map (Emission.mk k)).toList }
  | .produce rtc =>
    if reorder then
      let (_, rx, out) := nanoRtcMediaReorderProduce crypto i rtc t.rx
      { rx := rx
        position := t.position + (seqFollowed reorder rx - seqFollowed reorder t.rx).toNat
        fed := t.fed
        emitted := t.emitted ++
          (out.map fun (seq, frame) => Emission.mk (lastFed v t.fed seq) frame).toList }
    else t

/-- Every frame marked contiguous is a NAL unit of the stream, the one behind the frame handed out
before. -/
def Genuine (emitted : List Emission) : Prop :=
  ∀ pre e post, emitted = pre ++ e :: post → e.frame.contiguous = true →
    v.nals[v.nalOf e.packet]? = some e.frame.data ∧
      ∀ e' ∈ pre.getLast?, v.nalOf e.packet = v.nalOf e'.packet + 1

/-! ### When the mark can be trusted -/

/-- The output queue takes the frame that the packet completes, behind the keyframe request that
goes out with it. -/
def videoRoom (rtc : MediaRtc) (t : VideoTrace) (k : Nat) (q : Piece H264Fragment) : Bool :=
  let completes := q.value.isLast && (!h264Continues q.value.payload || t.rx.depkt.inProgress)
  let lost := t.rx.recvSeqInited && decide (t.position + 1 < k)
  let out := (rtcVideoOnLost crypto i rtc t.rx lost).1
  !completes || rtcOutputHasSpace out.toNanoRtc

/-- A packet without the reorder buffer: it is ahead of all before it, or the depacketizer drops
it; and its frame finds room. -/
def DirectClean (rtc : MediaRtc) (t : VideoTrace) (k : Nat) (q : Piece H264Fragment) : Prop :=
  (t.rx.recvSeqInited = true →
    t.position < k ∧ k < t.position + 2 ^ 15 ∨
      k ≤ t.position ∧ t.position ≤ k + 2 ^ 15 ∧ t.rx.depkt.inProgress = false ∧
        h264Continues q.value.payload = true) ∧
    videoRoom crypto i rtc t k q = true

/-- A packet at the reorder buffer: it is near the window, and a buffered packet with its sequence
number is the same packet. -/
def PushClean (t : VideoTrace) (k : Nat) : Prop :=
  (t.rx.reorder.inited = true → t.position ≤ k + 2 ^ 15 ∧ k < t.position + 2 ^ 15) ∧
    ((t.rx.reorder.slot (v.seq k)).occupied = true →
      (t.rx.reorder.slot (v.seq k)).seq = v.seq k → lastFed v t.fed (v.seq k) = k)

/-- A poll of the reorder buffer: a buffered packet whose sequence number the poll can reach is not
one of an earlier cycle of sequence numbers. -/
def PopClean (t : VideoTrace) : Prop :=
  ∀ s ∈ t.rx.reorder.slots, s.occupied = true →
    (s.seq - t.rx.reorder.nextSeq).toNat < 2 * videoReorderSlots →
      lastFed v t.fed s.seq = t.position + (s.seq - t.rx.reorder.nextSeq).toNat

/-- The steps after which the mark still tells the truth. -/
def VideoClean (t : VideoTrace) : VideoInput → Prop
  | .packet rtc _ _ k =>
    ∀ q ∈ v.packets[k]?, if reorder then PushClean v t k else DirectClean crypto i rtc t k q
  | .produce _ => reorder = true → PopClean v t

instance (rtc : MediaRtc) (t : VideoTrace) (k : Nat) (q : Piece H264Fragment) :
    Decidable (DirectClean crypto i rtc t k q) := inferInstanceAs (Decidable (_ ∧ _))

instance (t : VideoTrace) (k : Nat) : Decidable (PushClean v t k) :=
  inferInstanceAs (Decidable (_ ∧ _))

instance (t : VideoTrace) : Decidable (PopClean v t) :=
  inferInstanceAs (Decidable (∀ s ∈ t.rx.reorder.slots, _))

instance (t : VideoTrace) : ∀ x, Decidable (VideoClean crypto i reorder v t x)
  | .packet rtc _ _ k => inferInstanceAs (Decidable (∀ q ∈ v.packets[k]?,
      if reorder then PushClean v t k else DirectClean crypto i rtc t k q))
  | .produce _ => inferInstanceAs (Decidable (reorder = true → PopClean v t))

/-! ### In order or marked -/

/-- What the depacketizer holds, unless a loss is marked, when packet `k` is next: the bytes of
the NAL unit up to it, and after a first frame the unit behind that one. -/
def Following (d : NanoH264Depkt) (pending : Bool) (last : Option Nat) (k : Nat) : Prop :=
  pending = false → ∀ q nal, v.packets[k]? = some q → v.nals[q.item]? = some nal →
    (q.part ≠ 0 → d.inProgress = true → d.buf = nalUpTo nal v.mtu q.part) ∧
      ∀ e, last = some e → q.item = e + 1 ∧ (q.part ≠ 0 → d.inProgress = true)

variable {crypto i v}

theorem genuine_nil : Genuine v [] := by
  intro pre e post h
  simp at h

/-- A frame more, which is genuine if it is marked contiguous. -/
theorem Genuine.snoc {es : List Emission} (h : Genuine v es) {e : Emission}
    (he : e.frame.contiguous = true → v.nals[v.nalOf e.packet]? = some e.frame.data ∧
      ∀ e' ∈ es.getLast?, v.nalOf e.packet = v.nalOf e'.packet + 1) : Genuine v (es ++ [e]) := by
  intro pre e₁ post hsplit hmark
  rcases List.eq_nil_or_concat' post with rfl | ⟨post, e₂, rfl⟩
  · obtain ⟨rfl, hlast⟩ := List.append_inj' hsplit rfl
    obtain rfl : e = e₁ := by simpa using hlast
    exact he hmark
  · rw [← List.cons_append, ← List.append_assoc] at hsplit
    obtain ⟨hes, -⟩ := List.append_inj' hsplit rfl
    exact h pre e₁ post hes hmark

theorem following_pending {d : NanoH264Depkt} {last : Option Nat} {k : Nat} :
    Following v d true last k := fun h => nomatch h

/-- Nothing was begun and no frame handed out. -/
theorem following_idle {d : NanoH264Depkt} (hd : d.inProgress = false) (pending : Bool) (k : Nat) :
    Following v d pending none k := by
  intro _ q nal _ _
  exact ⟨fun _ h => absurd h (by simp [hd]), fun e h => nomatch h⟩

variable (crypto i v)

/-- The loss mark and its keyframe request leave the rest of the receive state. -/
theorem rtcVideoOnLost_rx (rtc : MediaRtc) (rx : VideoRx) (lost : Bool) :
    (rtcVideoOnLost crypto i rtc rx lost).2.depkt = rx.depkt ∧
      (rtcVideoOnLost crypto i rtc rx lost).2.reorder = rx.reorder ∧
      (rtcVideoOnLost crypto i rtc rx lost).2.recvLastSeq = rx.recvLastSeq ∧
      (rtcVideoOnLost crypto i rtc rx lost).2.recvSeqInited = rx.recvSeqInited ∧
      (rtcVideoOnLost crypto i rtc rx lost).2.recvLostPending = (rx.recvLostPending || lost) := by
  cases lost with
  | false => simp [rtcVideoOnLost]
  | true =>
    rw [rtcVideoOnLost, if_pos rfl]
    dsimp only
    split
    · split <;> simp
    · simp

/-- What an event does to the receive state, whatever the depacketizer says. -/
theorem rtcVideoCompleteEvent_cases (m : MediaTrack) (rx : VideoRx) (payload : List UInt8)
    (ts : UInt32) :
    (rtcVideoCompleteEvent m rx payload ts =
      ({ rx with depkt := (h264DepktPush rx.depkt payload).1 }, none)) ∨
    ∃ d nal, h264DepktPush rx.depkt payload = (d, .ok, some nal) ∧
      rtcVideoCompleteEvent m rx payload ts =
        ({ rx with depkt := d, recvLostPending := false },
          some ⟨m.mid, m.rtp.payloadType, ts, nal, h264IsKeyframe nal, !rx.recvLostPending⟩) := by
  rw [rtcVideoCompleteEvent]
  cases hpush : h264DepktPush rx.depkt payload with
  | mk d r =>
    obtain ⟨rc, out⟩ := r
    cases out with
    | none => cases rc <;> exact .inl rfl
    | some nal =>
      cases rc with
      | ok =>
        dsimp only
        split
        · exact .inl rfl
        · exact .inr ⟨d, nal, rfl, rfl⟩
      | _ => exact .inl rfl

theorem rtcVideoCompleteEvent_some {m : MediaTrack} {rx : VideoRx} {payload : List UInt8}
    {ts : UInt32} {d : NanoH264Depkt} {nal : List UInt8} (hne : nal ≠ [])
    (h : h264DepktPush rx.depkt payload = (d, .ok, some nal)) :
    rtcVideoCompleteEvent m rx payload ts =
      ({ rx with depkt := d, recvLostPending := false },
        some ⟨m.mid, m.rtp.payloadType, ts, nal, h264IsKeyframe nal, !rx.recvLostPending⟩) := by
  rw [rtcVideoCompleteEvent, h]
  exact if_neg hne

variable {v}

/-- The packet behind a packet of a NAL unit. -/
theorem packets_next (hwf : v.WellFormed) {k : Nat} {q q' : Piece H264Fragment} {nal : List UInt8}
    (h : v.packets[k]? = some q) (h' : v.packets[k + 1]? = some q')
    (hnal : v.nals[q.item]? = some nal) :
    if q.part + 1 < (h264Packetize nal v.mtu).length then
      q'.item = q.item ∧ q'.part = q.part + 1
    else q'.item = q.item + 1 ∧ q'.part = 0 := by
  have hmtu := VideoStream.mtu_of_packet h
  refine pieces_next (fun nal hmem hnil => ?_) h h' hnal
  have h0 := h264Packetize_getElem? hmtu (hwf nal hmem).ne_nil 0
  rw [hnil] at h0
  by_cases hlen : nal.length ≤ v.mtu
  · rw [if_pos hlen, if_pos rfl] at h0
    exact nomatch h0
  · have hpos : 0 * (v.mtu - h264FuaHeaderSize) < nal.length - 1 := by
      unfold h264FuaHeaderSize at hmtu
      omega
    rw [if_neg hlen, if_pos hpos] at h0
    exact nomatch h0

/-- What a packet of NAL unit `item` does to the receive state and to the frames. -/
structure Delivered (v : VideoStream) (k item : Nat) (last : Option Nat) (rx rx' : VideoRx)
    (frame : Option VideoFrame) : Prop where
  reorder : rx'.reorder = rx.reorder
  lastSeq : rx'.recvLastSeq = rx.recvLastSeq
  seqInited : rx'.recvSeqInited = rx.recvSeqInited
  following : Following v rx'.depkt rx'.recvLostPending (if frame.isSome then some item else last)
    (k + 1)
  genuine : ∀ f, frame = some f → f.contiguous = true →
    v.nals[item]? = some f.data ∧ ∀ e, last = some e → item = e + 1

/-- A unit was just completed: the next packet begins the one behind it. -/
theorem following_completed (hwf : v.WellFormed) {k : Nat} {q : Piece H264Fragment}
    {nal : List UInt8} (h : v.packets[k]? = some q) (hnal : v.nals[q.item]? = some nal)
    (hlast : q.part + 1 = (h264Packetize nal v.mtu).length) (d : NanoH264Depkt) (pending : Bool) :
    Following v d pending (some q.item) (k + 1) := by
  intro _ q' nal' hq' _
  have hnext := packets_next hwf h hq' hnal
  rw [if_neg (by omega)] at hnext
  refine ⟨fun hpart => absurd hnext.2 hpart, fun e he => ⟨?_, fun hpart => absurd hnext.2 hpart⟩⟩
  obtain rfl := Option.some.inj he
  exact hnext.1

/-- A packet that is next in order, or one that comes with the loss mark. -/
theorem rtcVideoCompleteEvent_delivered (hwf : v.WellFormed) (hfits : v.Fits) {k : Nat}
    {q : Piece H264Fragment} (h : v.packets[k]? = some q) (m : MediaTrack) {rx : VideoRx}
    (ts : UInt32) {last : Option Nat}
    (hf : Following v rx.depkt rx.recvLostPending last k) :
    Delivered v k q.item last rx (rtcVideoCompleteEvent m rx q.value.payload ts).1
      (rtcVideoCompleteEvent m rx q.value.payload ts).2 := by
  obtain ⟨nal, hnal, hq⟩ := VideoStream.packet_nal h
  have hmem : nal ∈ v.nals := List.mem_of_getElem? hnal
  have hmtu := VideoStream.mtu_of_packet h
  obtain hev | ⟨d, out, hpush, hev⟩ := rtcVideoCompleteEvent_cases m rx q.value.payload ts
  · -- no frame
    rw [hev]
    refine ⟨rfl, rfl, rfl, ?_, nofun⟩
    intro hpending
    obtain ⟨hbuf, hlast⟩ := hf hpending q nal h hnal
    have hsent := h264DepktPush_sent (hwf nal hmem) (hfits nal hmem) hmtu hq hbuf
    split at hsent
    next hdrop =>
      -- the unit was not seen to begin, so no frame was handed out before
      have hnone : last = none := by
        cases last with
        | none => rfl
        | some e =>
          have hprog := (hlast e rfl).2 hdrop.1
          rw [hdrop.2] at hprog
          exact nomatch hprog
      rw [hsent, hnone]
      exact following_idle hdrop.2 _ _ hpending
    next hkeep =>
      split at hsent
      next hend =>
        -- the unit would be complete
        have hne : nal ≠ [] := (hwf nal hmem).ne_nil
        have hsome : rtcVideoCompleteEvent m rx q.value.payload ts = _ :=
          rtcVideoCompleteEvent_some hne hsent
        rw [hev] at hsome
        simp at hsome
      next hmore =>
        rw [hsent]
        intro q' nal' hq' hnal'
        have hlt : q.part + 1 < (h264Packetize nal v.mtu).length := by
          have := (List.getElem?_eq_some_iff.mp hq).1
          omega
        have hnext := packets_next hwf h hq' hnal
        rw [if_pos hlt] at hnext
        rw [hnext.1, hnal] at hnal'
        obtain rfl := Option.some.inj hnal'
        refine ⟨fun _ _ => by rw [hnext.2], fun e he => ⟨?_, fun _ => rfl⟩⟩
        rw [hnext.1]
        exact (hlast e he).1
  · -- a frame
    rw [hev]
    have hcomplete := h264DepktPush_completes (hwf nal hmem) hmtu hq hpush
    refine ⟨rfl, rfl, rfl, following_completed hwf h hnal hcomplete.1 _ _, ?_⟩
    rintro f hframe hmark
    obtain rfl := Option.some.inj hframe
    have hpending : rx.recvLostPending = false := by simpa using hmark
    obtain ⟨hbuf, hlast⟩ := hf hpending q nal h hnal
    have hsent := h264DepktPush_sent (hwf nal hmem) (hfits nal hmem) hmtu hq hbuf
    rw [hpush, if_pos hcomplete.1] at hsent
    split at hsent
    · simp at hsent
    · have hout : out = nal := by simpa using congrArg (·.2.2) hsent
      exact ⟨by rw [hnal, hout], fun e he => (hlast e he).1⟩

/-- The loss mark set where there was a loss, then the packet. -/
theorem rtcVideoOnLost_delivered (hwf : v.WellFormed) (hfits : v.Fits) {k : Nat}
    {q : Piece H264Fragment} (h : v.packets[k]? = some q) (rtc : MediaRtc) (m : MediaTrack)
    (rx : VideoRx) (ts : UInt32) (lost : Bool) {last : Option Nat}
    (hf : lost = false → Following v rx.depkt rx.recvLostPending last k) :
    let r := rtcVideoCompleteEvent m (rtcVideoOnLost crypto i rtc rx lost).2 q.value.payload ts
    Delivered v k q.item last rx r.1 r.2 := by
  obtain ⟨hdepkt, hreorder, hseq, hinited, hpending⟩ := rtcVideoOnLost_rx crypto i rtc rx lost
  have hf' : Following v (rtcVideoOnLost crypto i rtc rx lost).2.depkt
      (rtcVideoOnLost crypto i rtc rx lost).2.recvLostPending last k := by
    rw [hdepkt, hpending]
    cases lost with
    | false => simpa using hf rfl
    | true => simpa using following_pending
  have hdel := rtcVideoCompleteEvent_delivered hwf hfits h m ts hf'
  exact ⟨hdel.reorder.trans hreorder, hdel.lastSeq.trans hseq, hdel.seqInited.trans hinited,
    hdel.following, hdel.genuine⟩

/-- The NAL unit of the frame handed out last. -/
def lastNal (v : VideoStream) (emitted : List Emission) : Option Nat :=
  emitted.getLast?.map fun e => v.nalOf e.packet

theorem VideoStream.nalOf_eq {k : Nat} {q : Piece H264Fragment} (h : v.packets[k]? = some q) :
    v.nalOf k = q.item := by
  simp [nalOf, h]

/-- The frames with the one of a packet behind them. -/
theorem Delivered.emitted {k : Nat} {q : Piece H264Fragment} (h : v.packets[k]? = some q)
    {es : List Emission} (hes : Genuine v es) {rx rx' : VideoRx} {frame : Option VideoFrame}
    (hdel : Delivered v k q.item (lastNal v es) rx rx' frame) :
    Genuine v (es ++ (frame.map (Emission.mk k)).toList) ∧
      lastNal v (es ++ (frame.map (Emission.mk k)).toList) =
        if frame.isSome then some q.item else lastNal v es := by
  cases frame with
  | none => exact ⟨by simpa using hes, by simp⟩
  | some f =>
    refine ⟨hes.snoc fun hmark => ?_, by simp [lastNal, VideoStream.nalOf_eq h]⟩
    obtain ⟨hdata, hlast⟩ := hdel.genuine f rfl hmark
    show v.nals[v.nalOf k]? = some f.data ∧ ∀ e' ∈ es.getLast?, v.nalOf k = v.nalOf e'.packet + 1
    rw [VideoStream.nalOf_eq h]
    refine ⟨hdata, fun e' he' => hlast _ ?_⟩
    rw [lastNal, Option.mem_def.mp he']
    rfl

/-! ### Without the reorder buffer -/

/-- A sequence number ahead of the newest one is a loss unless it is the next. -/
theorem rtcVideoTrackSeq_ahead {rx : VideoRx} {p k : Nat}
    (hseq : rx.recvSeqInited = true → rx.recvLastSeq = v.seq p)
    (hk : rx.recvSeqInited = true → p < k ∧ k < p + 2 ^ 15) :
    rtcVideoTrackSeq rx (v.seq k) =
      ({ rx with recvSeqInited := true, recvLastSeq := v.seq k },
        rx.recvSeqInited && decide (p + 1 < k)) := by
  cases hinited : rx.recvSeqInited with
  | false => simp [rtcVideoTrackSeq, hinited]
  | true =>
    obtain ⟨hlt, hnear⟩ := hk hinited
    have hadv : i16 (v.seq k - rx.recvLastSeq) = (k : Int) - p := by
      rw [hseq hinited]
      exact v.i16_seq_sub (by omega) (by omega)
    have hrx : ({ rx with recvSeqInited := true, recvLastSeq := v.seq k } : VideoRx) =
        { rx with recvLastSeq := v.seq k } := by rw [← hinited]
    rw [rtcVideoTrackSeq, hinited, if_neg (by decide), hrx]
    dsimp only
    rw [hadv]
    by_cases hgap : p + 1 < k
    · rw [if_pos (by omega), decide_eq_true hgap]
      rfl
    · rw [if_neg (by omega), if_pos (by omega), decide_eq_false hgap]
      rfl

/-- A sequence number that is not ahead moves nothing. -/
theorem rtcVideoTrackSeq_late {rx : VideoRx} {p k : Nat} (hinited : rx.recvSeqInited = true)
    (hseq : rx.recvLastSeq = v.seq p) (hle : k ≤ p) (hnear : p ≤ k + 2 ^ 15) :
    rtcVideoTrackSeq rx (v.seq k) = (rx, false) := by
  have hadv : i16 (v.seq k - rx.recvLastSeq) = (k : Int) - p := by
    rw [hseq]
    exact v.i16_seq_sub (by omega) (by omega)
  rw [rtcVideoTrackSeq, hinited, if_neg (by decide)]
  dsimp only
  rw [hadv, if_neg (by omega), if_neg (by omega)]

/-- What the loss mark does to the session depends on the last keyframe request only. -/
theorem rtcVideoOnLost_rtc (rtc : MediaRtc) (rx rx' : VideoRx) (lost : Bool)
    (hvalid : rx'.recvLastPliValid = rx.recvLastPliValid)
    (hms : rx'.recvLastPliMs = rx.recvLastPliMs) :
    (rtcVideoOnLost crypto i rtc rx' lost).1 = (rtcVideoOnLost crypto i rtc rx lost).1 := by
  cases lost with
  | false => simp [rtcVideoOnLost]
  | true =>
    simp only [rtcVideoOnLost, if_true, hvalid, hms]
    split
    · split <;> rfl
    · rfl

/-- With room for the frame, delivery hands it out. -/
theorem rtcVideoDeliver_room (rtc : MediaRtc) (rx : VideoRx) (payload : List UInt8) (ts : UInt32)
    (lost : Bool)
    (hroom : (rtcVideoCompleteEvent ((rtcVideoOnLost crypto i rtc rx lost).1.track i)
      (rtcVideoOnLost crypto i rtc rx lost).2 payload ts).2.isSome = true →
        rtcOutputHasSpace (rtcVideoOnLost crypto i rtc rx lost).1.toNanoRtc = true) :
    (rtcVideoDeliver crypto i rtc rx payload ts lost).2 =
      rtcVideoCompleteEvent ((rtcVideoOnLost crypto i rtc rx lost).1.track i)
        (rtcVideoOnLost crypto i rtc rx lost).2 payload ts := by
  rw [rtcVideoDeliver]
  dsimp only
  cases hev : rtcVideoCompleteEvent ((rtcVideoOnLost crypto i rtc rx lost).1.track i)
      (rtcVideoOnLost crypto i rtc rx lost).2 payload ts with
  | mk rx' frame =>
    cases frame with
    | none => rfl
    | some f =>
      have hspace := hroom (by rw [hev]; rfl)
      rw [rtcOutputHasSpace, decide_eq_true_eq] at hspace
      dsimp only
      rw [rtcEnqueueOutput, if_neg (by omega)]

/-- The state of a trace without the reorder buffer. -/
structure Tracked (v : VideoStream) (t : VideoTrace) : Prop where
  genuine : Genuine v t.emitted
  idle : t.rx.recvSeqInited = false → t.rx.depkt.inProgress = false ∧ t.emitted = []
  seq : t.rx.recvSeqInited = true → t.rx.recvLastSeq = v.seq t.position
  following : t.rx.recvSeqInited = true →
    Following v t.rx.depkt t.rx.recvLostPending (lastNal v t.emitted) (t.position + 1)

/-- Only the last packet of a unit that the depacketizer takes completes a frame. -/
theorem rtcVideoCompleteEvent_isSome (hwf : v.WellFormed) {k : Nat} {q : Piece H264Fragment}
    (h : v.packets[k]? = some q) {m : MediaTrack} {rx : VideoRx} {ts : UInt32}
    (hsome : (rtcVideoCompleteEvent m rx q.value.payload ts).2.isSome = true) :
    (q.value.isLast && (!h264Continues q.value.payload || rx.depkt.inProgress)) = true := by
  obtain ⟨nal, hnal, hq⟩ := VideoStream.packet_nal h
  obtain hev | ⟨d, out, hpush, -⟩ := rtcVideoCompleteEvent_cases m rx q.value.payload ts
  · rw [hev] at hsome
    exact nomatch hsome
  · have hlast := (h264DepktPush_completes (hwf nal (List.mem_of_getElem? hnal))
      (VideoStream.mtu_of_packet h) hq hpush).2.1
    rw [hlast, Bool.true_and, Bool.or_eq_true, Bool.not_eq_true']
    cases hcont : h264Continues q.value.payload with
    | false => exact .inl rfl
    | true =>
      refine .inr ?_
      by_contra hidle
      obtain ⟨rc, hnone⟩ := h264DepktPush_continues hcont (Bool.eq_false_iff.mpr hidle)
      rw [hnone] at hpush
      simp at hpush

/-- A packet ahead of all before it. -/
theorem videoStep_ahead (hwf : v.WellFormed) (hfits : v.Fits) {t : VideoTrace} (ht : Tracked v t)
    {rtc : MediaRtc} {ts : UInt32} {marker : Bool} {k : Nat} {q : Piece H264Fragment}
    (h : v.packets[k]? = some q)
    (hk : t.rx.recvSeqInited = true → t.position < k ∧ k < t.position + 2 ^ 15)
    (hroom : videoRoom crypto i rtc t k q = true) :
    Tracked v (videoStep crypto i false v t (.packet rtc ts marker k)) := by
  have htrack := rtcVideoTrackSeq_ahead (v := v) ht.seq hk
  have hpacket : rtcVideoPacket crypto i false rtc t.rx (v.seq k) ts marker q.value.payload =
      rtcVideoDeliver crypto i rtc { t.rx with recvSeqInited := true, recvLastSeq := v.seq k }
        q.value.payload ts (t.rx.recvSeqInited && decide (t.position + 1 < k)) := by
    rw [rtcVideoPacket, if_neg (by decide), htrack]
  generalize hrx : ({ t.rx with recvSeqInited := true, recvLastSeq := v.seq k } : VideoRx) = rx
    at hpacket
  generalize hlost : (t.rx.recvSeqInited && decide (t.position + 1 < k)) = lost at hpacket
  -- the frame finds room behind the keyframe request
  have hdeliver := rtcVideoDeliver_room crypto i rtc rx q.value.payload ts lost fun hsome => by
      have hcompletes := rtcVideoCompleteEvent_isSome hwf h hsome
      rw [(rtcVideoOnLost_rx crypto i rtc rx lost).1, ← hrx] at hcompletes
      rw [videoRoom, hlost, hcompletes] at hroom
      rw [rtcVideoOnLost_rtc crypto i rtc t.rx rx lost (by rw [← hrx]) (by rw [← hrx])]
      simpa using hroom
  -- the packet is next in order or marked
  have hnext : lost = false → Following v rx.depkt rx.recvLostPending (lastNal v t.emitted) k := by
    intro hno
    rw [← hrx]
    cases hinited : t.rx.recvSeqInited with
    | false =>
      obtain ⟨hidle, hnone⟩ := ht.idle hinited
      rw [hnone]
      exact following_idle hidle _ k
    | true =>
      rw [← hlost, hinited, Bool.true_and, decide_eq_false_iff_not] at hno
      obtain ⟨hlt, -⟩ := hk hinited
      obtain rfl : k = t.position + 1 := by omega
      exact ht.following hinited
  have hdel := rtcVideoOnLost_delivered crypto i hwf hfits h rtc
    ((rtcVideoOnLost crypto i rtc rx lost).1.track i) rx ts lost hnext
  rw [← hdeliver] at hdel
  have hemitted := hdel.emitted h ht.genuine
  have hseq : (rtcVideoDeliver crypto i rtc rx q.value.payload ts lost).2.1.recvLastSeq = v.seq k := by
    rw [hdel.lastSeq, ← hrx]
  have hposition : (if seqStarted false t.rx then
      t.position + (v.seq k - seqFollowed false t.rx).toNat else k) = k := by
    show (if t.rx.recvSeqInited = true then t.position + (v.seq k - t.rx.recvLastSeq).toNat else k) = k
    split
    next hinited =>
      obtain ⟨hlt, hnear⟩ := hk hinited
      rw [ht.seq hinited, v.toNat_seq_sub (by omega) (by omega)]
      omega
    · rfl
  have hstep : videoStep crypto i false v t (.packet rtc ts marker k) =
      { rx := (rtcVideoDeliver crypto i rtc rx q.value.payload ts lost).2.1
        position := k
        fed := k :: t.fed
        emitted := t.emitted ++
          ((rtcVideoDeliver crypto i rtc rx q.value.payload ts lost).2.2.map
            (Emission.mk k)).toList } := by
    rw [videoStep]
    simp only [h, hpacket]
    congr 1
    refine Eq.trans ?_ hposition
    rw [← hseq]
    rfl
  rw [hstep]
  refine ⟨hemitted.1, fun hinited => ?_, fun _ => hseq, fun _ => ?_⟩
  · rw [hdel.seqInited, ← hrx] at hinited
    exact nomatch hinited
  · show Following v _ _ (lastNal v _) (k + 1)
    rw [hemitted.2]
    exact hdel.following

/-- A packet that the depacketizer drops changes nothing but the packets fed. -/
theorem videoStep_late {t : VideoTrace} (ht : Tracked v t) {rtc : MediaRtc} {ts : UInt32}
    {marker : Bool} {k : Nat} {q : Piece H264Fragment} (h : v.packets[k]? = some q)
    (hinited : t.rx.recvSeqInited = true) (hle : k ≤ t.position) (hnear : t.position ≤ k + 2 ^ 15)
    (hidle : t.rx.depkt.inProgress = false) (hcont : h264Continues q.value.payload = true) :
    videoStep crypto i false v t (.packet rtc ts marker k) = { t with fed := k :: t.fed } := by
  obtain ⟨rc, hpush⟩ := h264DepktPush_continues hcont hidle
  have hev : rtcVideoCompleteEvent (rtc.track i) t.rx q.value.payload ts = (t.rx, none) := by
    obtain hev | ⟨d, out, hpush', -⟩ :=
      rtcVideoCompleteEvent_cases (rtc.track i) t.rx q.value.payload ts
    · rw [hev, hpush]
    · rw [hpush] at hpush'
      simp at hpush'
  have hpacket : rtcVideoPacket crypto i false rtc t.rx (v.seq k) ts marker q.value.payload =
      (rtc, t.rx, none) := by
    rw [rtcVideoPacket, if_neg (by decide),
      rtcVideoTrackSeq_late hinited (ht.seq hinited) hle hnear]
    show rtcVideoDeliver crypto i rtc t.rx q.value.payload ts false = _
    have hlost : rtcVideoOnLost crypto i rtc t.rx false = (rtc, t.rx) := rfl
    rw [rtcVideoDeliver, hlost]
    dsimp only
    rw [hev]
  rw [videoStep]
  simp only [h, hpacket]
  simp [seqStarted, hinited]

/-- Without the reorder buffer every clean step keeps what the trace says. -/
theorem directStep_tracked (hwf : v.WellFormed) (hfits : v.Fits) (t : VideoTrace) (x : VideoInput)
    (hclean : VideoClean crypto i false v t x) (ht : Tracked v t) :
    Tracked v (videoStep crypto i false v t x) := by
  cases x with
  | produce rtc => exact ht
  | packet rtc ts marker k =>
    cases h : v.packets[k]? with
    | none =>
      rw [videoStep, h]
      exact ht
    | some q =>
      obtain ⟨hk, hroom⟩ : DirectClean crypto i rtc t k q := hclean q h
      by_cases hlate : t.rx.recvSeqInited = true ∧ k ≤ t.position
      · obtain ⟨hlt, -⟩ | ⟨hle, hnear, hidle, hcont⟩ := hk hlate.1
        · omega
        · rw [videoStep_late crypto i ht h hlate.1 hle hnear hidle hcont]
          exact ⟨ht.genuine, ht.idle, ht.seq, ht.following⟩
      · refine videoStep_ahead crypto i hwf hfits ht h (fun hinited => ?_) hroom
        obtain hahead | ⟨hle, -⟩ := hk hinited
        · exact hahead
        · exact absurd ⟨hinited, hle⟩ hlate

/-! ### With the reorder buffer -/

theorem slot_getElem? {r : NanoReorder} (hlen : r.slots.length = videoReorderSlots) (seq : UInt16) :
    r.slots[reorderSlotIdx seq]? = some (r.slot seq) := by
  have hlt : reorderSlotIdx seq < r.slots.length := by
    rw [hlen]
    exact Nat.mod_lt _ (by decide)
  rw [NanoReorder.slot, List.getD_eq_getElem?_getD, List.getElem?_eq_getElem hlt, Option.getD_some]

/-- Every buffered packet of the second buffer is one of the first. -/
structure SlotsKept (r r' : NanoReorder) : Prop where
  length : r'.slots.length = r.slots.length
  inited : r'.inited = r.inited
  slot : ∀ (j : Nat) (s : ReorderSlot), r'.slots[j]? = some s → s.occupied = true → r.slots[j]? = some s

theorem SlotsKept.refl (r : NanoReorder) : SlotsKept r r := ⟨rfl, rfl, fun _ _ h _ => h⟩

theorem SlotsKept.trans {r r' r'' : NanoReorder} (h : SlotsKept r r') (h' : SlotsKept r' r'') :
    SlotsKept r r'' :=
  ⟨h'.length.trans h.length, h'.inited.trans h.inited,
    fun j s hs hocc => h.slot j s (h'.slot j s hs hocc) hocc⟩

/-- The window of a buffer during a poll: its head is packet `p`, and every buffered packet whose
sequence number the poll can reach is the one that `look` says, ahead of the head and below
`top`. -/
structure Near (v : VideoStream) (look : UInt16 → Nat) (top : Nat) (r : NanoReorder) (p : Nat) :
    Prop where
  length : r.slots.length = videoReorderSlots
  next : r.nextSeq = v.seq p
  le : p ≤ top
  within : top ≤ p + videoReorderSlots
  slot : ∀ s ∈ r.slots, s.occupied = true →
    (s.seq - r.nextSeq).toNat < top - p + videoReorderSlots →
      look s.seq = p + (s.seq - r.nextSeq).toNat ∧ look s.seq < top
  packet : ∀ s ∈ r.slots, s.occupied = true →
    ∃ q, v.packets[look s.seq]? = some q ∧ s.data = q.value.payload

variable {look : UInt16 → Nat} {top p : Nat} {r r' : NanoReorder}

/-- The head of the window moves on by one below `top`. -/
theorem Near.succ (h : Near v look top r p) (hlt : p < top) (hkept : SlotsKept r r')
    (hnext : r'.nextSeq = r.nextSeq + 1) : Near v look top r' (p + 1) := by
  have hmem : ∀ s ∈ r'.slots, s.occupied = true → s ∈ r.slots := by
    intro s hs hocc
    obtain ⟨j, hj⟩ := List.mem_iff_getElem?.mp hs
    exact List.mem_of_getElem? (hkept.slot j s hj hocc)
  have htop := h.within
  refine ⟨hkept.length.trans h.length, ?_, hlt, by omega, fun s hs hocc hnear => ?_,
    fun s hs hocc => h.packet s (hmem s hs hocc) hocc⟩
  · rw [hnext, h.next, v.seq_succ]
  · -- one step further on from the old head
    have hslots : videoReorderSlots = 8 := rfl
    have hoff : (s.seq - r.nextSeq).toNat = (s.seq - r'.nextSeq).toNat + 1 := by
      have h1 := s.seq.toNat_lt
      have h2 := r.nextSeq.toNat_lt
      have hone : (1 : UInt16).toNat = 1 := rfl
      simp only [hnext, UInt16.toNat_sub, UInt16.toNat_add, hone] at hnear ⊢
      omega
    obtain ⟨hlook, hbelow⟩ := h.slot s (hmem s hs hocc) hocc (by omega)
    exact ⟨by omega, hbelow⟩

/-- A skip happens only for a buffered packet ahead of the head. -/
theorem Near.skip (h : Near v look top r p) {nowMs : UInt32}
    (hskip : reorderShouldSkip r nowMs = true) :
    Near v look top { r with nextSeq := r.nextSeq + 1, pendingLost := true } (p + 1) := by
  obtain ⟨s, hs, hwaits⟩ := List.any_eq_true.mp hskip
  simp only [Bool.and_eq_true, decide_eq_true_eq] at hwaits
  obtain ⟨⟨⟨hocc, hpos⟩, hlt⟩, -⟩ := hwaits
  have hslots : (videoReorderSlots : Int) = 8 := rfl
  have hslots' : videoReorderSlots = 8 := rfl
  have hoff : 0 < (s.seq - r.nextSeq).toNat ∧ (s.seq - r.nextSeq).toNat < 8 := by
    rw [i16_eq] at hpos hlt
    have := (s.seq - r.nextSeq).toNat_lt
    split at hpos <;> split at hlt <;> omega
  obtain ⟨hlook, hbelow⟩ := h.slot s hs hocc (by omega)
  exact h.succ (by omega) ⟨rfl, rfl, fun _ _ hs _ => hs⟩ rfl

theorem slotsKept_takeHead (r : NanoReorder) : SlotsKept r r.takeHead := by
  refine ⟨by simp [NanoReorder.takeHead], rfl, fun j s hs hocc => ?_⟩
  rw [NanoReorder.takeHead, List.getElem?_set] at hs
  split at hs
  · split at hs
    · obtain rfl := Option.some.inj hs
      exact nomatch hocc
    · exact nomatch hs
  · exact hs

/-- The head of the window is packet `p`. -/
theorem Near.takeHead (h : Near v look top r p) (hready : r.headReady = true) :
    look (r.slot r.nextSeq).seq = p ∧
      (∃ q, v.packets[p]? = some q ∧ (r.slot r.nextSeq).data = q.value.payload) ∧
      Near v look top r.takeHead (p + 1) := by
  obtain ⟨hocc, hseq⟩ : (r.slot r.nextSeq).occupied = true ∧ (r.slot r.nextSeq).seq = r.nextSeq := by
    simpa [NanoReorder.headReady] using hready
  have hmem : r.slot r.nextSeq ∈ r.slots := List.mem_of_getElem? (slot_getElem? h.length r.nextSeq)
  have hoff : ((r.slot r.nextSeq).seq - r.nextSeq).toNat = 0 := by
    rw [hseq]
    simp
  have hslots : videoReorderSlots = 8 := rfl
  obtain ⟨hlook, hbelow⟩ := h.slot _ hmem hocc (by omega)
  have hlook' : look (r.slot r.nextSeq).seq = p := by omega
  refine ⟨hlook', ?_, h.succ (by omega) (slotsKept_takeHead r) rfl⟩
  obtain ⟨q, hq, hdata⟩ := h.packet _ hmem hocc
  exact ⟨q, hlook' ▸ hq, hdata⟩

/-- What a poll of the buffer releases: packet `k`, which is the head of the window unless the
buffer says that some were lost. -/
structure Released (v : VideoStream) (look : UInt16 → Nat) (top : Nat) (r : NanoReorder) (p : Nat)
    (s : ReorderSlot) (lost : Bool) (k : Nat) (r' : NanoReorder) : Prop where
  number : look s.seq = k
  packet : ∃ q, v.packets[k]? = some q ∧ s.data = q.value.payload
  near : Near v look top r' (k + 1)
  le : p ≤ k
  pending : r'.pendingLost = false
  inOrder : lost = false → k = p ∧ r.pendingLost = false

/-- A poll that releases nothing leaves the window near, and in place unless it marks a loss. -/
structure Waits (v : VideoStream) (look : UInt16 → Nat) (top : Nat) (r : NanoReorder) (p : Nat)
    (p' : Nat) (r' : NanoReorder) : Prop where
  near : Near v look top r' p'
  le : p ≤ p'
  inOrder : r'.pendingLost = false → p' = p ∧ r.pendingLost = false

theorem reorderPopLoop_near (nowMs : UInt32) (turns : Nat) (r : NanoReorder) (p : Nat)
    (h : Near v look top r p) :
    SlotsKept r (reorderPopLoop nowMs turns r).1 ∧
      match reorderPopLoop nowMs turns r with
      | (r', none) => ∃ p', Waits v look top r p p' r'
      | (r', some (s, lost)) => ∃ k, Released v look top r p s lost k r' := by
  induction turns generalizing r p with
  | zero => exact ⟨.refl r, p, h, le_rfl, fun hno => ⟨rfl, hno⟩⟩
  | succ turns ih =>
    rw [reorderPopLoop]
    by_cases hready : r.headReady = true
    · rw [if_pos hready]
      obtain ⟨hlook, hpacket, hnear⟩ := h.takeHead hready
      exact ⟨slotsKept_takeHead r, p, hlook, hpacket, hnear, le_rfl, rfl, fun hno => ⟨rfl, hno⟩⟩
    · rw [if_neg hready]
      by_cases hskip : reorderShouldSkip r nowMs = true
      · rw [if_pos hskip]
        obtain ⟨hkept, hloop⟩ := ih _ (p + 1) (h.skip hskip)
        refine ⟨⟨hkept.length, hkept.inited, hkept.slot⟩, ?_⟩
        split at hloop
        · obtain ⟨p', hwaits⟩ := hloop
          have hle := hwaits.le
          exact ⟨p', hwaits.near, by omega, fun hno => nomatch (hwaits.inOrder hno).2⟩
        · obtain ⟨k, hrel⟩ := hloop
          have hle := hrel.le
          exact ⟨k, hrel.number, hrel.packet, hrel.near, by omega, hrel.pending,
            fun hno => nomatch (hrel.inOrder hno).2⟩
      · rw [if_neg hskip]
        exact ⟨.refl r, p, h, le_rfl, fun hno => ⟨rfl, hno⟩⟩

/-- A poll of the buffer. -/
theorem reorderPop_near (nowMs : UInt32) (hinited : r.inited = true) (h : Near v look top r p) :
    SlotsKept r (reorderPop r nowMs).1 ∧
      match reorderPop r nowMs with
      | (r', none) => ∃ p', Waits v look top r p p' r'
      | (r', some (s, lost)) => ∃ k, Released v look top r p s lost k r' := by
  rw [reorderPop, if_pos hinited]
  exact reorderPopLoop_near nowMs videoReorderSlots r p h

/-- What a poll of the track does: `p` is the head of the window before it and `p'` after it. -/
structure Produced (v : VideoStream) (look : UInt16 → Nat) (top : Nat) (last : Option Nat)
    (rx : VideoRx) (p : Nat) (rx' : VideoRx) (out : Option (UInt16 × VideoFrame)) (p' : Nat) :
    Prop where
  kept : SlotsKept rx.reorder rx'.reorder
  near : Near v look top rx'.reorder p'
  le : p ≤ p'
  following : Following v rx'.depkt (rx'.recvLostPending || rx'.reorder.pendingLost)
    (match out with
    | none => last
    | some (seq, _) => some (v.nalOf (look seq))) p'
  genuine : ∀ seq frame, out = some (seq, frame) → frame.contiguous = true →
    v.nals[v.nalOf (look seq)]? = some frame.data ∧
      ∀ e, last = some e → v.nalOf (look seq) = e + 1

theorem rtcVideoProduce_near (hwf : v.WellFormed) (hfits : v.Fits) {last : Option Nat}
    (turns : Nat) (rtc : MediaRtc) (rx : VideoRx) (p : Nat) (hinited : rx.reorder.inited = true)
    (h : Near v look top rx.reorder p)
    (hf : Following v rx.depkt (rx.recvLostPending || rx.reorder.pendingLost) last p) :
    ∃ p', Produced v look top last rx p (rtcVideoProduce crypto i turns rtc rx).2.1
      (rtcVideoProduce crypto i turns rtc rx).2.2 p' := by
  induction turns generalizing rtc rx p with
  | zero => exact ⟨p, .refl _, h, le_rfl, hf, nofun⟩
  | succ turns ih =>
    obtain ⟨hkept, hpop⟩ := reorderPop_near rtc.nowMs hinited h
    rw [rtcVideoProduce]
    cases hr : reorderPop rx.reorder rtc.nowMs with
    | mk r out =>
      rw [hr] at hkept hpop
      cases out with
      | none =>
        obtain ⟨p', hwaits⟩ := hpop
        refine ⟨p', hkept, hwaits.near, hwaits.le, ?_, nofun⟩
        show Following v rx.depkt (rx.recvLostPending || r.pendingLost) last p'
        cases hlost : r.pendingLost with
        | true =>
          rw [Bool.or_true]
          exact following_pending
        | false =>
          obtain ⟨rfl, hno⟩ := hwaits.inOrder hlost
          rw [hno] at hf
          exact hf
      | some out =>
        obtain ⟨s, lost⟩ := out
        obtain ⟨k, hrel⟩ := hpop
        obtain ⟨q, hq, hdata⟩ := hrel.packet
        have hle := hrel.le
        have hnext : lost = false → Following v rx.depkt rx.recvLostPending last k := by
          intro hno
          obtain ⟨rfl, hpending⟩ := hrel.inOrder hno
          rw [hpending, Bool.or_false] at hf
          exact hf
        have hdel := rtcVideoOnLost_delivered crypto i hwf hfits hq rtc
          ((rtcVideoOnLost crypto i rtc { rx with reorder := r } lost).1.track i)
          { rx with reorder := r } s.ts lost hnext
        rw [← hdata] at hdel
        dsimp only at hdel ⊢
        cases hev : rtcVideoCompleteEvent
            ((rtcVideoOnLost crypto i rtc { rx with reorder := r } lost).1.track i)
            (rtcVideoOnLost crypto i rtc { rx with reorder := r } lost).2 s.data s.ts with
        | mk rx' frame =>
          rw [hev] at hdel
          have hreorder : rx'.reorder = r := hdel.reorder
          have hfollow := hdel.following
          have hpending : (rx'.recvLostPending || rx'.reorder.pendingLost) = rx'.recvLostPending := by
            rw [hreorder, hrel.pending, Bool.or_false]
          cases frame with
          | none =>
            -- the packet completes nothing: the next one
            have hinited' : rx'.reorder.inited = true := by rw [hreorder, hkept.inited, hinited]
            obtain ⟨p', hprod⟩ := ih (rtcVideoOnLost crypto i rtc { rx with reorder := r } lost).1
              rx' (k + 1) hinited' (hreorder ▸ hrel.near) (by rw [hpending]; exact hfollow)
            have hle' := hprod.le
            exact ⟨p', hkept.trans (hreorder ▸ hprod.kept), hprod.near, by omega, hprod.following,
              hprod.genuine⟩
          | some f =>
            refine ⟨k + 1, hreorder ▸ hkept, hreorder ▸ hrel.near, by omega, ?_, ?_⟩
            · show Following v rx'.depkt (rx'.recvLostPending || rx'.reorder.pendingLost)
                (some (v.nalOf (look s.seq))) (k + 1)
              rw [hpending, hrel.number, VideoStream.nalOf_eq hq]
              exact hfollow
            · rintro seq frame hout hmark
              obtain ⟨rfl, rfl⟩ : s.seq = seq ∧ f = frame := by simpa using hout
              rw [hrel.number, VideoStream.nalOf_eq hq]
              exact hdel.genuine f rfl hmark

/-- The state of a trace with the reorder buffer. -/
structure Held (v : VideoStream) (t : VideoTrace) : Prop where
  genuine : Genuine v t.emitted
  length : t.rx.reorder.slots.length = videoReorderSlots
  idle : t.rx.reorder.inited = false → (∀ s ∈ t.rx.reorder.slots, s.occupied = false) ∧
    t.rx.depkt.inProgress = false ∧ t.emitted = []
  next : t.rx.reorder.inited = true → t.rx.reorder.nextSeq = v.seq t.position
  placed : ∀ j s, t.rx.reorder.slots[j]? = some s → s.occupied = true → reorderSlotIdx s.seq = j
  packet : ∀ s ∈ t.rx.reorder.slots, s.occupied = true →
    ∃ q, v.packets[lastFed v t.fed s.seq]? = some q ∧ s.data = q.value.payload
  below : ∀ s ∈ t.rx.reorder.slots, s.occupied = true →
    lastFed v t.fed s.seq < t.position + videoReorderSlots
  following : t.rx.reorder.inited = true →
    Following v t.rx.depkt (t.rx.recvLostPending || t.rx.reorder.pendingLost)
      (lastNal v t.emitted) t.position

/-- The window at the start of a poll. -/
theorem Held.near {t : VideoTrace} (h : Held v t) (hinited : t.rx.reorder.inited = true)
    (hclean : PopClean v t) :
    Near v (lastFed v t.fed) (t.position + videoReorderSlots) t.rx.reorder t.position := by
  refine ⟨h.length, h.next hinited, by omega, le_rfl, fun s hs hocc hnear => ?_, h.packet⟩
  exact ⟨hclean s hs hocc (by omega), h.below s hs hocc⟩

/-- A poll keeps what the trace says. -/
theorem produceStep_held (hwf : v.WellFormed) (hfits : v.Fits) {t : VideoTrace} (h : Held v t)
    (hclean : PopClean v t) (rtc : MediaRtc) :
    Held v (videoStep crypto i true v t (.produce rtc)) := by
  rw [videoStep, if_pos rfl]
  dsimp only [seqFollowed]
  rw [if_pos rfl, if_pos rfl]
  cases hinited : t.rx.reorder.inited with
  | false =>
    have hpop : nanoRtcMediaReorderProduce crypto i rtc t.rx = (rtc, t.rx, none) := by
      rw [nanoRtcMediaReorderProduce, rtcVideoProduce, reorderPop, if_neg (by simp [hinited])]
    rw [hpop]
    simpa using h
  | true =>
    have hprod := rtcVideoProduce_near crypto i hwf hfits (videoReorderSlots + 1) rtc t.rx t.position
      hinited (h.near hinited hclean) (h.following hinited)
    rw [nanoRtcMediaReorderProduce]
    generalize rtcVideoProduce crypto i (videoReorderSlots + 1) rtc t.rx = r at hprod
    obtain ⟨rtc', rx', out⟩ := r
    obtain ⟨p', hprod⟩ := hprod
    have hnear := hprod.near
    have hle := hprod.le
    have hposition : t.position + (rx'.reorder.nextSeq - t.rx.reorder.nextSeq).toNat = p' := by
      have htop := hnear.le
      have hslots : videoReorderSlots = 8 := rfl
      rw [hnear.next, h.next hinited, v.toNat_seq_sub hle (by omega)]
      omega
    have hinited' : rx'.reorder.inited = true := hprod.kept.inited.trans hinited
    have hmem : ∀ s ∈ rx'.reorder.slots, s.occupied = true → s ∈ t.rx.reorder.slots := by
      intro s hs hocc
      obtain ⟨j, hj⟩ := List.mem_iff_getElem?.mp hs
      exact List.mem_of_getElem? (hprod.kept.slot j s hj hocc)
    dsimp only
    rw [hposition]
    refine ⟨?_, hnear.length, fun hno => ?_, fun _ => hnear.next,
      fun j s hs hocc => h.placed j s (hprod.kept.slot j s hs hocc) hocc,
      fun s hs hocc => h.packet s (hmem s hs hocc) hocc, fun s hs hocc => ?_, fun _ => ?_⟩
    · cases out with
      | none => simpa using h.genuine
      | some out =>
        refine h.genuine.snoc fun hmark => ?_
        obtain ⟨hdata, hlast⟩ := hprod.genuine out.1 out.2 rfl hmark
        refine ⟨hdata, fun e' he' => hlast _ ?_⟩
        rw [lastNal, Option.mem_def.mp he']
        rfl
    · rw [hinited'] at hno
      exact nomatch hno
    · have hold := h.below s (hmem s hs hocc) hocc
      show lastFed v t.fed s.seq < p' + videoReorderSlots
      omega
    · have hfollow := hprod.following
      cases out with
      | none => simpa using hfollow
      | some out => simpa [lastNal] using hfollow

/-! ### A packet at the reorder buffer -/

theorem lastFed_cons (k : Nat) (fed : List Nat) (seq : UInt16) :
    lastFed v (k :: fed) seq = if v.seq k = seq then k else lastFed v fed seq := by
  rw [lastFed, List.find?_cons]
  by_cases h : v.seq k = seq
  · simp [h]
  · rw [if_neg h, beq_eq_false_iff_ne.mpr h]
    rfl

/-- A packet is fed; nothing in the buffer changes its number. -/
theorem Held.feed {t : VideoTrace} (h : Held v t) {k : Nat}
    (hsame : (t.rx.reorder.slot (v.seq k)).occupied = true →
      (t.rx.reorder.slot (v.seq k)).seq = v.seq k → lastFed v t.fed (v.seq k) = k) :
    Held v { t with fed := k :: t.fed } := by
  have hkept : ∀ s ∈ t.rx.reorder.slots, s.occupied = true →
      lastFed v (k :: t.fed) s.seq = lastFed v t.fed s.seq := by
    intro s hs hocc
    rw [lastFed_cons]
    split
    next heq =>
      obtain ⟨j, hj⟩ := List.mem_iff_getElem?.mp hs
      have hidx := h.placed j s hj hocc
      -- the slot of the sequence number is this one
      have hslot : t.rx.reorder.slot (v.seq k) = s := by
        have hget := slot_getElem? h.length (v.seq k)
        rw [heq, hidx, hj] at hget
        rw [heq]
        exact (Option.some.inj hget).symm
      rw [hslot] at hsame
      rw [← heq, hsame hocc heq.symm]
    · rfl
  refine ⟨h.genuine, h.length, h.idle, h.next, h.placed, fun s hs hocc => ?_, fun s hs hocc => ?_,
    h.following⟩
  · show ∃ q, v.packets[lastFed v (k :: t.fed) s.seq]? = some q ∧ _
    rw [hkept s hs hocc]
    exact h.packet s hs hocc
  · show lastFed v (k :: t.fed) s.seq < _
    rw [hkept s hs hocc]
    exact h.below s hs hocc

/-- The trace with another buffer and window. -/
def VideoTrace.withReorder (t : VideoTrace) (r : NanoReorder) (p : Nat) : VideoTrace :=
  { t with rx := { t.rx with reorder := r }, position := p }

/-- The first packet puts the head of the window. -/
theorem Held.start {t : VideoTrace} (h : Held v t) (hinited : t.rx.reorder.inited = false)
    (k : Nat) :
    Held v (t.withReorder { t.rx.reorder with inited := true, nextSeq := v.seq k } k) := by
  obtain ⟨hempty, hidle, hnone⟩ := h.idle hinited
  refine ⟨h.genuine, h.length, nofun, fun _ => rfl, h.placed, h.packet, fun s hs hocc => ?_,
    fun _ => ?_⟩
  · rw [hempty s hs] at hocc
    exact nomatch hocc
  · show Following v t.rx.depkt _ (lastNal v t.emitted) k
    rw [hnone]
    exact following_idle hidle _ k

/-- Before the first packet the position says nothing. -/
theorem Held.moved {t : VideoTrace} (h : Held v t) (hinited : t.rx.reorder.inited = false)
    (k : Nat) : Held v { t with position := k } := by
  refine ⟨h.genuine, h.length, h.idle, fun hno => ?_, h.placed, h.packet, fun s hs hocc => ?_,
    fun hno => ?_⟩
  · exact absurd hno (by simp [hinited])
  · rw [(h.idle hinited).1 s hs] at hocc
    exact nomatch hocc
  · exact absurd hno (by simp [hinited])

/-- The window moves on, which marks a loss. -/
theorem Held.advance {t : VideoTrace} (h : Held v t) {p : Nat} (hle : t.position ≤ p) :
    Held v (t.withReorder { t.rx.reorder with nextSeq := v.seq p, pendingLost := true } p) := by
  refine ⟨h.genuine, h.length, h.idle, fun _ => rfl, h.placed, h.packet, fun s hs hocc => ?_,
    fun _ => ?_⟩
  · have := h.below s hs hocc
    show lastFed v t.fed s.seq < p + videoReorderSlots
    omega
  · show Following v t.rx.depkt (t.rx.recvLostPending || true) _ p
    rw [Bool.or_true]
    exact following_pending

/-- The packet that was fed is put in its slot. -/
theorem Held.store {t : VideoTrace} (h : Held v t) {k : Nat} {q : Piece H264Fragment}
    (hq : v.packets[k]? = some q) (hinited : t.rx.reorder.inited = true)
    (hfed : lastFed v t.fed (v.seq k) = k) (hlt : k < t.position + videoReorderSlots)
    {s : ReorderSlot} (hseq : s.seq = v.seq k) (hdata : s.data = q.value.payload) :
    Held v (t.withReorder { t.rx.reorder with
      slots := t.rx.reorder.slots.set (reorderSlotIdx (v.seq k)) s } t.position) := by
  have hmem : ∀ s' ∈ t.rx.reorder.slots.set (reorderSlotIdx (v.seq k)) s,
      s' = s ∨ s' ∈ t.rx.reorder.slots := fun s' hs' => (List.mem_or_eq_of_mem_set hs').symm
  refine ⟨h.genuine, (List.length_set).trans h.length, fun hno => ?_, h.next,
    fun j s' hs' hocc => ?_, fun s' hs' hocc => ?_, fun s' hs' hocc => ?_, h.following⟩
  · have : t.rx.reorder.inited = false := hno
    rw [hinited] at this
    exact nomatch this
  · replace hs' : (t.rx.reorder.slots.set (reorderSlotIdx (v.seq k)) s)[j]? = some s' := hs'
    rw [List.getElem?_set] at hs'
    split at hs'
    next hj =>
      split at hs'
      · obtain rfl := Option.some.inj hs'
        rw [hseq, hj]
      · exact nomatch hs'
    · exact h.placed j s' hs' hocc
  · obtain rfl | hold := hmem s' hs'
    · refine ⟨q, ?_, hdata⟩
      show v.packets[lastFed v t.fed s'.seq]? = some q
      rw [hseq, hfed]
      exact hq
    · exact h.packet s' hold hocc
  · obtain rfl | hold := hmem s' hs'
    · show lastFed v t.fed s'.seq < _
      rw [hseq, hfed]
      exact hlt
    · exact h.below s' hold hocc

theorem seq_window (v : VideoStream) {k : Nat} (hle : 7 ≤ k) :
    v.seq k - UInt16.ofNat videoReorderSlots + 1 = v.seq (k - 7) := by
  obtain ⟨n, rfl⟩ : ∃ n, k = n + 7 := ⟨k - 7, by omega⟩
  have hone : (1 : UInt16).toNat = 1 := rfl
  have hslots : videoReorderSlots = 8 := rfl
  rw [← UInt16.toNat_inj, VideoStream.seq, VideoStream.seq]
  simp only [UInt16.toNat_add, UInt16.toNat_sub, UInt16.toNat_ofNat', hone, hslots]
  omega

/-- The packet last fed at a buffer that runs: the window moves at most up to it. -/
theorem reorderPush_started {t : VideoTrace} (h : Held v t) {k : Nat} {q : Piece H264Fragment}
    (hq : v.packets[k]? = some q) (hinited : t.rx.reorder.inited = true)
    (hfed : lastFed v t.fed (v.seq k) = k) (hlo : t.position ≤ k + 2 ^ 15)
    (hhi : k < t.position + 2 ^ 15) (ts nowMs : UInt32) (marker : Bool) :
    ∃ p, t.position ≤ p ∧ p ≤ max t.position k ∧
      Held v (t.withReorder
        (reorderPush t.rx.reorder (v.seq k) ts marker q.value.payload nowMs).1 p) := by
  have hslots : (videoReorderSlots : Int) = 8 := rfl
  have hslots' : videoReorderSlots = 8 := rfl
  have hdiff : i16 (v.seq k - t.rx.reorder.nextSeq) = (k : Int) - t.position := by
    rw [h.next hinited]
    exact v.i16_seq_sub (by omega) hhi
  rw [reorderPush]
  split
  · exact ⟨t.position, le_rfl, le_max_left _ _, h⟩
  · dsimp only
    split
    next => exact ⟨t.position, le_rfl, le_max_left _ _, h⟩
    next hahead =>
      -- the window moves on so that the packet is its last one, or stays
      obtain ⟨p, hle, hmax, hlt, hadv⟩ : ∃ p, t.position ≤ p ∧ p ≤ max t.position k ∧
          k < p + videoReorderSlots ∧
          Held v (t.withReorder (reorderAdvance t.rx.reorder (v.seq k)) p) := by
        rw [reorderAdvance]
        by_cases hfar : i16 (v.seq k - t.rx.reorder.nextSeq) ≥ videoReorderSlots
        · have hge : t.position ≤ k - 7 ∧ 7 ≤ k := by omega
          rw [if_pos hfar, seq_window v hge.2]
          exact ⟨k - 7, hge.1, by omega, by omega, h.advance hge.1⟩
        · rw [if_neg hfar]
          exact ⟨t.position, le_rfl, le_max_left _ _, by omega, h⟩
      refine ⟨p, hle, hmax, ?_⟩
      have hinited' : (reorderAdvance t.rx.reorder (v.seq k)).inited = true := by
        rw [reorderAdvance]
        split <;> exact hinited
      generalize reorderAdvance t.rx.reorder (v.seq k) = r at hadv hinited'
      split
      · exact hadv
      · exact hadv.store hq hinited' hfed hlt (s := ⟨q.value.payload, ts, nowMs, v.seq k, marker, true⟩)
          rfl rfl

theorem reorderPush_inited (r : NanoReorder) (hinited : r.inited = true) (seq : UInt16)
    (ts : UInt32) (marker : Bool) (data : List UInt8) (nowMs : UInt32) :
    (reorderPush r seq ts marker data nowMs).1.inited = true := by
  have hadv : (reorderAdvance r seq).inited = true := by
    rw [reorderAdvance]
    split <;> exact hinited
  rw [reorderPush]
  split
  · exact hinited
  · dsimp only
    split
    · exact hinited
    · split <;> exact hadv

/-- A packet keeps what the trace says. -/
theorem pushStep_held {t : VideoTrace} (h : Held v t) {k : Nat} {q : Piece H264Fragment}
    (hq : v.packets[k]? = some q) (hclean : PushClean v t k) (rtc : MediaRtc) (ts : UInt32)
    (marker : Bool) : Held v (videoStep crypto i true v t (.packet rtc ts marker k)) := by
  have hfeed := h.feed hclean.2
  have hfed : lastFed v (k :: t.fed) (v.seq k) = k := by rw [lastFed_cons, if_pos rfl]
  have hstep : videoStep crypto i true v t (.packet rtc ts marker k) =
      { t with fed := k :: t.fed }.withReorder
        (reorderPush t.rx.reorder (v.seq k) ts marker q.value.payload rtc.nowMs).1
        (if t.rx.reorder.inited = true then
          t.position + ((reorderPush t.rx.reorder (v.seq k) ts marker q.value.payload
            rtc.nowMs).1.nextSeq - t.rx.reorder.nextSeq).toNat
        else k) := by
    rw [videoStep]
    simp [hq, rtcVideoPacket, seqStarted, seqFollowed, VideoTrace.withReorder]
  rw [hstep]
  cases hinited : t.rx.reorder.inited with
  | true =>
    obtain ⟨hlo, hhi⟩ := hclean.1 hinited
    obtain ⟨p, hle, hmax, hheld⟩ :=
      reorderPush_started hfeed hq hinited hfed hlo hhi ts rtc.nowMs marker
    have hinited' := reorderPush_inited t.rx.reorder hinited (v.seq k) ts marker q.value.payload
      rtc.nowMs
    have hposition : t.position + ((reorderPush t.rx.reorder (v.seq k) ts marker q.value.payload
        rtc.nowMs).1.nextSeq - t.rx.reorder.nextSeq).toNat = p := by
      have hnext : (reorderPush t.rx.reorder (v.seq k) ts marker q.value.payload
          rtc.nowMs).1.nextSeq = v.seq p := hheld.next hinited'
      replace hle : t.position ≤ p := hle
      replace hmax : p ≤ max t.position k := hmax
      rw [hnext, h.next hinited, v.toNat_seq_sub hle (by omega)]
      omega
    rw [if_pos rfl, hposition]
    exact hheld
  | false =>
    rw [if_neg (by decide)]
    by_cases hreject : q.value.payload = [] ∨ q.value.payload.length > mediaBufSize
    · rw [reorderPush, if_pos hreject]
      exact hfeed.moved hinited k
    · obtain ⟨p, hle, hmax, hheld⟩ := reorderPush_started (hfeed.start hinited k) hq rfl hfed
        (show k ≤ k + 2 ^ 15 by omega) (show k < k + 2 ^ 15 by omega) ts rtc.nowMs marker
      obtain rfl : p = k := by
        have hk : p ≤ max k k := hmax
        have hk' : k ≤ p := hle
        omega
      have hfirst : reorderPush { t.rx.reorder with inited := true, nextSeq := v.seq p } (v.seq p) ts
          marker q.value.payload rtc.nowMs =
          reorderPush t.rx.reorder (v.seq p) ts marker q.value.payload rtc.nowMs := by
        rw [reorderPush, reorderPush, if_neg hreject, if_neg hreject, hinited]
        rfl
      rw [← hfirst]
      exact hheld

/-- With the reorder buffer every clean step keeps what the trace says. -/
theorem reorderStep_held (hwf : v.WellFormed) (hfits : v.Fits) (t : VideoTrace) (x : VideoInput)
    (hclean : VideoClean crypto i true v t x) (h : Held v t) :
    Held v (videoStep crypto i true v t x) := by
  cases x with
  | produce rtc => exact produceStep_held crypto i hwf hfits h (hclean rfl) rtc
  | packet rtc ts marker k =>
    cases hq : v.packets[k]? with
    | none =>
      rw [videoStep, hq]
      exact h
    | some q => exact pushStep_held crypto i h hq (hclean q hq) rtc ts marker

/-! ### The loop of a poll ends -/

/-- The packets in the buffer. -/
def occupiedSlots (r : NanoReorder) : Nat := r.slots.countP (·.occupied)

theorem occupiedSlots_takeHead {r : NanoReorder} (h : r.headReady = true) :
    occupiedSlots r.takeHead < occupiedSlots r := by
  obtain ⟨hocc, -⟩ : (r.slot r.nextSeq).occupied = true ∧ (r.slot r.nextSeq).seq = r.nextSeq := by
    simpa [NanoReorder.headReady] using h
  have hlt : reorderSlotIdx r.nextSeq < r.slots.length := by
    by_contra hge
    rw [NanoReorder.slot, List.getD_eq_getElem?_getD, List.getElem?_eq_none (by omega)] at hocc
    exact nomatch hocc
  have hget : r.slots[reorderSlotIdx r.nextSeq] = r.slot r.nextSeq := by
    rw [NanoReorder.slot, List.getD_eq_getElem?_getD, List.getElem?_eq_getElem hlt, Option.getD_some]
  have hpos : 0 < r.slots.countP (·.occupied) :=
    List.countP_pos_iff.mpr ⟨_, List.getElem_mem hlt, by rw [hget]; exact hocc⟩
  rw [occupiedSlots, occupiedSlots, NanoReorder.takeHead, List.countP_set hlt, hget, hocc]
  simp only [if_true, Bool.false_eq_true, if_false]
  omega

/-- A packet that is released leaves the buffer. -/
theorem occupiedSlots_popLoop (nowMs : UInt32) (turns : Nat) (r : NanoReorder) {r' : NanoReorder}
    {out : ReorderSlot × Bool} (hout : reorderPopLoop nowMs turns r = (r', some out)) :
    occupiedSlots r' < occupiedSlots r := by
  induction turns generalizing r with
  | zero => simp [reorderPopLoop] at hout
  | succ turns ih =>
    rw [reorderPopLoop] at hout
    split at hout
    next hready =>
      obtain ⟨rfl, -⟩ : r.takeHead = r' ∧ _ := by simpa using hout
      exact occupiedSlots_takeHead hready
    · split at hout
      · have hloop := ih _ hout
        exact hloop
      · simp at hout

/-- More turns than packets in the buffer change nothing. -/
theorem rtcVideoProduce_turns (turns : Nat) (rtc : MediaRtc) (rx : VideoRx)
    (h : occupiedSlots rx.reorder < turns) :
    rtcVideoProduce crypto i (turns + 1) rtc rx = rtcVideoProduce crypto i turns rtc rx := by
  induction turns generalizing rtc rx with
  | zero => exact absurd h (Nat.not_lt_zero _)
  | succ turns ih =>
    rw [rtcVideoProduce, rtcVideoProduce]
    cases hpop : reorderPop rx.reorder rtc.nowMs with
    | mk r out =>
      cases out with
      | none => rfl
      | some out =>
        obtain ⟨s, lost⟩ := out
        dsimp only
        have hfewer : occupiedSlots r < occupiedSlots rx.reorder := by
          rw [reorderPop] at hpop
          split at hpop
          · exact occupiedSlots_popLoop _ _ _ hpop
          · simp at hpop
        cases hev : rtcVideoCompleteEvent
            ((rtcVideoOnLost crypto i rtc { rx with reorder := r } lost).1.track i)
            (rtcVideoOnLost crypto i rtc { rx with reorder := r } lost).2 s.data s.ts with
        | mk rx' frame =>
          cases frame with
          | some f => rfl
          | none =>
            have hreorder : rx'.reorder = r := by
              have hrx := (rtcVideoOnLost_rx crypto i rtc { rx with reorder := r } lost).2.1
              obtain hcase | ⟨d, nal, -, hcase⟩ := rtcVideoCompleteEvent_cases
                ((rtcVideoOnLost crypto i rtc { rx with reorder := r } lost).1.track i)
                (rtcVideoOnLost crypto i rtc { rx with reorder := r } lost).2 s.data s.ts
              · obtain ⟨rfl, -⟩ := Prod.mk.inj (hev.symm.trans hcase)
                exact hrx
              · simp [hev] at hcase
            exact ih _ _ (by rw [hreorder]; omega)

/-! ### Runs -/

/-- A receiver whose every step is clean marks a frame contiguous only when it is a NAL unit of the
stream, the one behind the frame before. -/
theorem contiguous_genuine (crypto : CryptoProvider) (i : Nat) (reorder : Bool) (v : VideoStream)
    (hwf : v.WellFormed) (hfits : v.Fits) (xs : List VideoInput)
    (hclean : AllSteps (videoStep crypto i reorder v) {} (VideoClean crypto i reorder v) xs) :
    Genuine v (run (videoStep crypto i reorder v) {} xs).emitted := by
  cases reorder with
  | false =>
    have h0 : Tracked v {} := ⟨genuine_nil, fun _ => ⟨rfl, rfl⟩, nofun, nofun⟩
    exact (run_allSteps (P := Tracked v) (directStep_tracked crypto i hwf hfits) hclean h0).genuine
  | true =>
    have hempty : ∀ s ∈ reorderInit.slots, s.occupied = false := by decide
    have hplaced : ∀ (j : Nat) (s : ReorderSlot), reorderInit.slots[j]? = some s →
        s.occupied = true → reorderSlotIdx s.seq = j := by
      intro j s hs hocc
      rw [hempty s (List.mem_of_getElem? hs)] at hocc
      exact nomatch hocc
    have h0 : Held v {} := by
      refine ⟨genuine_nil, rfl, fun _ => ⟨hempty, rfl, rfl⟩, nofun, hplaced, fun s hs hocc => ?_,
        fun s hs hocc => ?_, nofun⟩
      · rw [hempty s hs] at hocc
        exact nomatch hocc
      · rw [hempty s hs] at hocc
        exact nomatch hocc
    exact (run_allSteps (P := Held v) (reorderStep_held crypto i hwf hfits) hclean h0).genuine

/-! ### Examples -/

/-- Two NAL units of one packet each. -/
def demoStream : VideoStream := ⟨[[0x65, 1], [0x41, 2]], 1200, 65535⟩

/-- A session with room in its queue. -/
def demoMediaRtc (nowMs : UInt32) : MediaRtc where
  toNanoRtc := { nanortcInit false maxSsrcMap with nowMs := nowMs }
  state := .connected
  media := [trackInit 0 .video .recvonly 90000]
  ssrcMap := []
  lastRtcpSendMs := 0
  lastRtcpSendValid := false
  srCursor := 0

/-- The packets of the stream, the first one again behind the second. -/
def demoRepeated : List VideoInput :=
  [.packet (demoMediaRtc 1) 0 true 0, .packet (demoMediaRtc 2) 0 true 1,
    .packet (demoMediaRtc 3) 0 true 0]

/-- Packets and polls in turn, the packets in the wrong order. -/
def demoReordered : List VideoInput :=
  [.packet (demoMediaRtc 1) 0 true 1, .packet (demoMediaRtc 2) 0 true 0,
    .produce (demoMediaRtc 3), .produce (demoMediaRtc 40)]

/-- The packets once and in order, and the reorder buffer with two packets in the wrong order. -/
theorem contiguous_genuine_demo :
    Genuine demoStream
      (run (videoStep .checksum 0 false demoStream) {} (demoRepeated.take 2)).emitted ∧
    Genuine demoStream (run (videoStep .checksum 0 true demoStream) {} demoReordered).emitted := by
  have hwf : demoStream.WellFormed := by
    intro nal hnal
    simp only [demoStream, List.mem_cons, List.not_mem_nil, or_false] at hnal
    obtain rfl | rfl := hnal
    · exact ⟨by decide, by decide⟩
    · exact ⟨by decide, by decide⟩
  have hfits : demoStream.Fits := by
    show ∀ nal ∈ demoStream.nals, nal.length ≤ videoNalBufSize
    decide
  exact ⟨contiguous_genuine .checksum 0 false demoStream hwf hfits _ (by decide +kernel),
    contiguous_genuine .checksum 0 true demoStream hwf hfits _ (by decide +kernel)⟩

/-- A packet that comes again is a frame marked contiguous, which is not the one behind the frame
before. -/
theorem late_packet_contiguous :
    ¬ Genuine demoStream (run (videoStep .checksum 0 false demoStream) {} demoRepeated).emitted := by
  intro h
  have hrun : (run (videoStep .checksum 0 false demoStream) {} demoRepeated).emitted =
      [⟨0, ⟨0, 0, 0, [0x65, 1], true, true⟩⟩, ⟨1, ⟨0, 0, 0, [0x41, 2], false, true⟩⟩] ++
        ⟨0, ⟨0, 0, 0, [0x65, 1], true, true⟩⟩ :: [] := by
    decide +kernel
  obtain ⟨-, hlast⟩ := h _ _ _ hrun rfl
  exact absurd (hlast _ rfl) (by decide)

end Nanortc.Spec
