import Nanortc.Native.VideoPackets
import Nanortc.Spec.H264Pieces

/-!
# H.264 packets round trip

The payloads `h264_packetize` hands to its callback are the fragments of the NAL unit, each in an
RTP payload, and pushing them into a depacketizer returns the unit, whatever the depacketizer held
before.

## Key results

- `h264PacketizeAll_eq`: the iterator yields the fragments
- `h264DepktRun_drop`: the fragments from one on, pushed
- `h264_round_trip`: the identity
-/

namespace Nanortc.Spec

open Nanortc.ForStd Nanortc.Native

/-! ### The iterator -/

/-- The payload of a fragment and its marker. -/
def fragmentPayload (f : H264Fragment) : VideoPayload := ⟨f.payload, f.isLast⟩

/-- A fragmenting iterator in front of the bytes from `data` on. -/
structure IterAt (nalu : List UInt8) (mtu data : Nat) (it : H264FragmentIter) : Prop where
  nalu_eq : it.nalu = nalu
  fuIndicator : it.fuIndicator = (byteAt nalu 0 &&& 0x60) ||| 28
  nalType : it.nalType = byteAt nalu 0 &&& 0x1F
  data_eq : it.data = data
  remaining : it.remaining = nalu.length - data
  maxFrag : it.maxFrag = mtu - h264FuaHeaderSize
  fragments : it.singleNal = false
  done : it.done = decide (nalu.length ≤ data)

variable {nalu : List UInt8} {mtu data scratchLen : Nat} {it : H264FragmentIter}

theorem IterAt.hasNext (h : IterAt nalu mtu data it) :
    h264FragmentIterHasNext it = decide (data < nalu.length) := by
  unfold h264FragmentIterHasNext
  rw [h.done, h.fragments, h.remaining]
  by_cases hlt : data < nalu.length
  · simp [hlt]
  · simp [hlt, Nat.not_lt.mp hlt]

/-- The start and end bits that the iterator sets one after the other. -/
theorem fuHeader_bits (t : UInt8) (first last : Prop) [Decidable first] [Decidable last] :
    (if last then (if first then t ||| 0x80 else t) ||| 0x40
      else if first then t ||| 0x80 else t) =
      t ||| (if first then 0x80 else 0) ||| if last then 0x40 else 0 := by
  by_cases hfirst : first <;> by_cases hlast : last <;> simp [hfirst, hlast]

/-- A call of the iterator yields the fragment at its place and moves behind it. -/
theorem IterAt.next (h : IterAt nalu mtu data it) (hmtu : h264FuaHeaderSize < mtu)
    (hscratch : mtu ≤ scratchLen) (hdata : data < nalu.length) :
    ∃ it', h264FragmentIterNext it scratchLen = (it', .ok (fragmentPayload
      (fuaFragment (byteAt nalu 0) (mtu - h264FuaHeaderSize) (data == 1) (nalu.drop data)))) ∧
    IterAt nalu mtu (data + min (nalu.length - data) (mtu - h264FuaHeaderSize)) it' := by
  have hdone : it.done = false := by
    rw [h.done, decide_eq_false_iff_not]
    omega
  have hrem : it.remaining ≠ 0 := by
    rw [h.remaining]
    omega
  have hfrag : (if it.remaining < it.maxFrag then it.remaining else it.maxFrag) =
      min (nalu.length - data) (mtu - h264FuaHeaderSize) := by
    rw [h.remaining, h.maxFrag]
    split <;> omega
  have hroom : ¬ scratchLen < h264FuaHeaderSize +
      min (nalu.length - data) (mtu - h264FuaHeaderSize) := by
    simp only [h264FuaHeaderSize] at hmtu ⊢
    omega
  unfold h264FragmentIterNext
  rw [if_neg (by simp [hdone]), if_neg (by simp [h.fragments]), if_neg hrem]
  simp only [hfrag, if_neg hroom]
  -- the fragment is the last one when it takes all that is left
  have hlast : it.remaining = min (nalu.length - data) (mtu - h264FuaHeaderSize) ↔
      (nalu.drop data).length ≤ mtu - h264FuaHeaderSize := by
    rw [h.remaining, List.length_drop]
    omega
  have htake : (nalu.drop data).take (min (nalu.length - data) (mtu - h264FuaHeaderSize)) =
      (nalu.drop data).take (mtu - h264FuaHeaderSize) := by
    rw [← List.length_drop, Nat.min_comm, ← List.take_eq_take_min]
  refine ⟨_, Prod.ext rfl ?_, ?_⟩
  · simp only [fragmentPayload, fuaFragment, h.fuIndicator, h.nalType, h.data_eq, h.nalu_eq, hlast,
      htake, decide_eq_true_eq, beq_iff_eq, fuHeader_bits]
  · refine ⟨h.nalu_eq, h.fuIndicator, h.nalType, ?_, ?_, h.maxFrag, h.fragments, ?_⟩
    · dsimp only
      rw [h.data_eq]
    · dsimp only
      rw [h.remaining]
      omega
    · dsimp only
      rw [decide_eq_decide, hlast, List.length_drop]
      omega

/-- The loop of `h264_packetize` yields the fragments of what is left. -/
theorem h264PacketizeLoop_eq (hmtu : h264FuaHeaderSize < mtu) (hscratch : mtu ≤ scratchLen)
    {turns turns' : Nat} (h : IterAt nalu mtu data it) (hpos : 1 ≤ data)
    (hturns : nalu.length - data < turns) (hturns' : nalu.length - data ≤ turns') :
    h264PacketizeLoop scratchLen turns it =
      ((h264FuaFragments (byteAt nalu 0) (mtu - h264FuaHeaderSize) turns' (data == 1)
        (nalu.drop data)).map fragmentPayload, .ok) := by
  induction turns generalizing it data turns' with
  | zero => omega
  | succ turns ih =>
    rw [h264PacketizeLoop, h.hasNext]
    by_cases hdata : data < nalu.length
    · obtain ⟨it', hnext, hat⟩ := h.next hmtu hscratch hdata
      cases turns' with
      | zero => omega
      | succ turns' =>
        have hne : nalu.drop data ≠ [] := by
          rw [ne_eq, List.drop_eq_nil_iff]
          omega
        have hrest := @ih _ _ turns' hat (by omega) (by omega) (by omega)
        rw [if_pos (decide_eq_true hdata), hnext]
        dsimp only
        rw [hrest, h264FuaFragments, if_neg hne, List.map_cons]
        have hdrop : nalu.drop (data + min (nalu.length - data) (mtu - h264FuaHeaderSize)) =
            (nalu.drop data).drop (mtu - h264FuaHeaderSize) := by
          rw [List.drop_drop, List.drop_eq_drop_iff]
          omega
        have hlater : (data + min (nalu.length - data) (mtu - h264FuaHeaderSize) == 1) = false := by
          rw [beq_eq_false_iff_ne]
          omega
        rw [hdrop, hlater]
        simp only [fuaFragment, decide_eq_true_eq]
    · have hnil : nalu.drop data = [] := List.drop_eq_nil_iff.mpr (by omega)
      rw [if_neg (by simp [hdata]), hnil]
      cases turns' <;> simp [h264FuaFragments]

/-- **The iterator yields the fragments** of the NAL unit. -/
theorem h264PacketizeAll_eq (hne : nalu ≠ []) (hmtu : h264FuaHeaderSize < mtu)
    (hscratch : mtu ≤ scratchLen) :
    h264PacketizeAll nalu mtu scratchLen =
      ((h264Packetize nalu mtu).map fragmentPayload, .ok) := by
  have hpos : 0 < nalu.length := List.length_pos_iff.mpr hne
  have hparam : ¬ (nalu.length = 0 ∨ mtu < h264FuaHeaderSize + 1) := by omega
  have hparam' : ¬ (nalu = [] ∨ mtu < h264FuaHeaderSize + 1) := fun h =>
    h.elim hne fun h => hparam (.inr h)
  rw [h264PacketizeAll, h264FragmentIterInit, if_neg hparam, h264Packetize, if_neg hparam',
    h264Fragments]
  by_cases hlen : nalu.length ≤ mtu
  · rw [if_pos hlen, if_pos hlen]
    obtain ⟨n, hn⟩ : ∃ n, nalu.length = n + 1 := ⟨nalu.length - 1, by omega⟩
    dsimp only
    rw [hn]
    simp [h264PacketizeLoop, h264FragmentIterHasNext, h264FragmentIterNext, fragmentPayload]
  · rw [if_neg hlen, if_neg hlen]
    refine h264PacketizeLoop_eq hmtu hscratch (?_ : IterAt nalu mtu 1 _) (Nat.le_refl 1) (by omega)
      (by omega)
    refine ⟨rfl, rfl, rfl, rfl, rfl, rfl, rfl, ?_⟩
    simp only [h264FuaHeaderSize] at hmtu
    exact (decide_eq_false (by omega)).symm

/-! ### Payloads pushed one after the other -/

section Unit

variable {nal : List UInt8} (hnal : NalUnit nal) (hfits : nal.length ≤ videoNalBufSize)
  (hmtu : h264FuaHeaderSize < mtu)

include hnal hmtu

theorem h264Packetize_pos : 0 < (h264Packetize nal mtu).length := by
  have hget := h264Packetize_getElem? hmtu hnal.ne_nil 0
  by_contra hzero
  rw [List.getElem?_eq_none (by omega)] at hget
  by_cases hlong : nal.length ≤ mtu
  · rw [if_pos hlong, if_pos rfl] at hget
    exact nomatch hget
  · rw [if_neg hlong, if_pos (by omega)] at hget
    exact nomatch hget

include hfits

/-- The fragments from `k` on, pushed into a depacketizer that took those before: only the last one
returns anything, and that is the unit. -/
theorem h264DepktRun_drop {k n : Nat} (hn : n + 1 + k = (h264Packetize nal mtu).length)
    {d : NanoH264Depkt} (hd : k ≠ 0 → d.inProgress = true ∧ d.buf = nalUpTo nal mtu k) :
    h264DepktRun d (((h264Packetize nal mtu).drop k).map H264Fragment.payload) =
      (⟨nal, false⟩, List.replicate n (.ok, none) ++ [(.ok, some nal)]) := by
  induction n generalizing k d with
  | zero =>
    have hk : k < (h264Packetize nal mtu).length := by omega
    have hsent := h264DepktPush_sent hnal hfits hmtu (List.getElem?_eq_getElem hk)
      (d := d) fun h0 _ => (hd h0).2
    rw [if_neg (fun h => by rw [(hd h.1).1] at h; exact nomatch h.2), if_pos (by omega)] at hsent
    rw [List.drop_eq_getElem_cons hk, List.drop_eq_nil_of_le (by omega)]
    simp [h264DepktRun, hsent]
  | succ n ih =>
    have hk : k < (h264Packetize nal mtu).length := by omega
    have hsent := h264DepktPush_sent hnal hfits hmtu (List.getElem?_eq_getElem hk)
      (d := d) fun h0 _ => (hd h0).2
    rw [if_neg (fun h => by rw [(hd h.1).1] at h; exact nomatch h.2), if_neg (by omega)] at hsent
    have hrest := ih (k := k + 1) (d := ⟨nalUpTo nal mtu (k + 1), true⟩) (by omega)
      fun _ => ⟨rfl, rfl⟩
    rw [List.drop_eq_getElem_cons hk, List.map_cons, h264DepktRun, hsent]
    dsimp only
    rw [hrest, List.replicate_succ]
    rfl

end Unit

/-- A payload is the FU-A fragment with number `part` out of `n` of a NAL unit: its headers carry the
unit's own, the start bit is that of the first and the end bit that of the last one. -/
structure FuaPart (nal : List UInt8) (part n : Nat) (payload : List UInt8) : Prop where
  type : h264NalType payload = 28
  refIdc : byteAt payload 0 &&& 0xE0 = byteAt nal 0 &&& 0x60
  unitType : byteAt payload 1 &&& 0x1F = h264NalType nal
  start : byteAt payload 1 &&& 0x80 ≠ 0 ↔ part = 0
  stop : byteAt payload 1 &&& 0x40 ≠ 0 ↔ part + 1 = n

theorem fuIndicator_refIdc (header : UInt8) :
    ((header &&& 0x60) ||| 28) &&& 0xE0 = header &&& 0x60 := by
  revert header
  decide +kernel

theorem fuHeader_type (header : UInt8) (first last : Bool) :
    ((header &&& 0x1F) ||| (if first then 0x80 else 0) ||| if last then 0x40 else 0) &&& 0x1F =
      header &&& 0x1F := by
  revert header
  cases first <;> cases last <;> decide +kernel

/-- The fragments of a unit that is larger than a packet. -/
theorem h264Packetize_fua {nal : List UInt8} (hne : nal ≠ []) (hmtu : h264FuaHeaderSize < mtu)
    (hlong : mtu < nal.length) {part : Nat} {f : H264Fragment}
    (hf : (h264Packetize nal mtu)[part]? = some f) :
    f.payload.length ≤ mtu ∧ (f.isLast = true ↔ part + 1 = (h264Packetize nal mtu).length) ∧
    FuaPart nal part (h264Packetize nal mtu).length f.payload := by
  have hget := h264Packetize_getElem? hmtu hne part
  rw [hf, if_neg (by omega)] at hget
  split at hget
  · rename_i hin
    obtain rfl := Option.some.inj hget
    have hlast := h264Packetize_last hmtu hne (by omega) hin
    have hrest : ((nal.drop 1).drop (part * (mtu - h264FuaHeaderSize))).length ≤
        mtu - h264FuaHeaderSize ↔ part + 1 = (h264Packetize nal mtu).length := by
      rw [hlast, List.length_drop, List.length_drop, Nat.succ_mul]
      omega
    generalize (nal.drop 1).drop (part * (mtu - h264FuaHeaderSize)) = data at hrest
    have hstart := fuHeader_start (byteAt nal 0) (part == 0)
      (decide (data.length ≤ mtu - h264FuaHeaderSize))
    have hend := fuHeader_end (byteAt nal 0) (part == 0)
      (decide (data.length ≤ mtu - h264FuaHeaderSize))
    have htype := fuHeader_type (byteAt nal 0) (part == 0)
      (decide (data.length ≤ mtu - h264FuaHeaderSize))
    simp only [decide_eq_true_eq, beq_iff_eq] at hstart hend htype
    refine ⟨?_, ?_, fuIndicator_type _, fuIndicator_refIdc _, ?_, ?_, ?_⟩
    · simp only [fuaFragment, List.length_append, List.length_cons, List.length_nil,
        List.length_take, h264FuaHeaderSize] at hmtu ⊢
      omega
    · simp only [fuaFragment, decide_eq_true_eq]
      exact hrest
    · simpa [fuaFragment, byteAt, h264NalType] using htype
    · simpa [fuaFragment, byteAt] using hstart
    · simpa [fuaFragment, byteAt, hrest] using hend
  · cases hget

/-- **Packetizing and depacketizing is the identity.** Every payload of a NAL unit fits the MTU, the
marker is on the last one only, a unit that is larger than the MTU is sent in fragments with the
right header bits, and a depacketizer in any state gets the unit back with the last payload and
nothing before it. -/
theorem h264_round_trip {nal : List UInt8} (hnal : NalUnit nal)
    (hfits : nal.length ≤ videoNalBufSize) (hmtu : 3 ≤ mtu) (hscratch : mtu ≤ scratchLen)
    (d : NanoH264Depkt) :
    let out := h264PacketizeAll nal mtu scratchLen
    out.2 = .ok ∧ 0 < out.1.length ∧ (∀ p ∈ out.1, p.bytes.length ≤ mtu) ∧
    (∀ part p, out.1[part]? = some p → (p.marker = true ↔ part + 1 = out.1.length)) ∧
    (nal.length ≤ mtu → out.1 = [⟨nal, true⟩]) ∧
    (mtu < nal.length → ∀ part p, out.1[part]? = some p →
      FuaPart nal part out.1.length p.bytes) ∧
    h264DepktRun d (out.1.map VideoPayload.bytes) =
      (⟨nal, false⟩, List.replicate (out.1.length - 1) (.ok, none) ++ [(.ok, some nal)]) := by
  have hmtu' : h264FuaHeaderSize < mtu := hmtu
  have hne := hnal.ne_nil
  intro out
  have hout : out = ((h264Packetize nal mtu).map fragmentPayload, .ok) :=
    h264PacketizeAll_eq hne hmtu' hscratch
  clear_value out
  subst hout
  have hpos := h264Packetize_pos hnal hmtu'
  have hsmall (hlen : nal.length ≤ mtu) : h264Packetize nal mtu = [⟨nal, true, false⟩] := by
    rw [h264Packetize, if_neg (fun h => h.elim hne fun h => by omega), h264Fragments, if_pos hlen]
  have hpart (part : Nat) (p : VideoPayload)
      (hp : ((h264Packetize nal mtu).map fragmentPayload)[part]? = some p) :
      ∃ f, (h264Packetize nal mtu)[part]? = some f ∧ fragmentPayload f = p := by
    rw [List.getElem?_map, Option.map_eq_some_iff] at hp
    exact hp
  refine ⟨rfl, by simpa using hpos, fun p hp => ?_, fun part p hp => ?_, fun hlen => ?_,
    fun hlong part p hp => ?_, ?_⟩
  · obtain ⟨part, hp⟩ := List.getElem?_of_mem hp
    obtain ⟨f, hf, rfl⟩ := hpart part p hp
    by_cases hlen : nal.length ≤ mtu
    · rw [hsmall hlen] at hf
      obtain rfl := List.mem_singleton.mp (List.mem_of_getElem? hf)
      exact hlen
    · exact (h264Packetize_fua hne hmtu' (by omega) hf).1
  · obtain ⟨f, hf, rfl⟩ := hpart part p hp
    rw [List.length_map]
    by_cases hlen : nal.length ≤ mtu
    · rw [hsmall hlen] at hf ⊢
      cases part with
      | zero =>
        obtain rfl := Option.some.inj hf
        simp [fragmentPayload]
      | succ part => simp at hf
    · exact (h264Packetize_fua hne hmtu' (by omega) hf).2.1
  · rw [hsmall hlen]
    rfl
  · obtain ⟨f, hf, rfl⟩ := hpart part p hp
    rw [List.length_map]
    exact (h264Packetize_fua hne hmtu' hlong hf).2.2
  · have hrun := h264DepktRun_drop hnal hfits hmtu' (k := 0)
      (n := (h264Packetize nal mtu).length - 1) (by omega) (d := d) (fun h => absurd rfl h)
    rw [List.map_map, List.length_map]
    exact hrun

/-- A unit of two bytes behind its header in packets of three bytes. -/
theorem h264_round_trip_demo :
    (h264PacketizeAll [0x65, 1, 2, 3] 3 3).2 = .ok ∧
      h264DepktRun ⟨[9], true⟩ ((h264PacketizeAll [0x65, 1, 2, 3] 3 3).1.map VideoPayload.bytes) =
        (⟨[0x65, 1, 2, 3], false⟩, [(.ok, none), (.ok, none), (.ok, some [0x65, 1, 2, 3])]) := by
  have h := @h264_round_trip 3 3 [0x65, 1, 2, 3] ⟨by decide, by decide, by decide⟩ (by decide)
    (Nat.le_refl 3) (Nat.le_refl 3) ⟨[9], true⟩
  exact ⟨h.1, h.2.2.2.2.2.2⟩

end Nanortc.Spec
