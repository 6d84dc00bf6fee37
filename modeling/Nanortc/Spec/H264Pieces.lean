import Mathlib
import Nanortc.ForStd.Pieces
import Nanortc.Native.VideoReceive

/-!
# H.264 packets and their NAL unit

What `h264_depkt_push` does with the packets `h264_packetize` makes of a NAL unit: the bytes
behind a fragment are those of the unit up to there, and the last packet gives the unit back.

## Key results

- `h264Packetize_getElem?`: the packets of a NAL unit
- `h264DepktPush_sent`: a packet of a unit whose packets before it were all taken
- `h264DepktPush_completes`: only the last packet of a unit completes one
- `h264DepktPush_continues`: a fragment inside a unit does nothing to a depacketizer without one
-/

namespace Nanortc.Spec

open Nanortc.ForStd Nanortc.Native

/-! ### Fragments -/

/-- The FU-A packet at the front of the rest of a NAL unit. -/
def fuaFragment (header : UInt8) (maxFrag : Nat) (first : Bool) (data : List UInt8) :
    H264Fragment where
  payload := [(header &&& 0x60) ||| 28, (header &&& 0x1F) ||| (if first then 0x80 else 0) |||
    if data.length ≤ maxFrag then 0x40 else 0] ++ data.take maxFrag
  isLast := data.length ≤ maxFrag
  fua := true

theorem h264FuaFragments_getElem? (header : UInt8) {m : Nat} (hm : 0 < m) (turns : Nat)
    (first : Bool) (data : List UInt8) (h : data.length ≤ turns) (t : Nat) :
    (h264FuaFragments header m turns first data)[t]? =
      if t * m < data.length then some (fuaFragment header m (first && t == 0) (data.drop (t * m)))
      else none := by
  induction turns generalizing first data t with
  | zero =>
    rw [if_neg (by omega)]
    rfl
  | succ turns ih =>
    by_cases hdata : data = []
    · subst hdata
      simp [h264FuaFragments]
    · have hpos : 0 < data.length := List.length_pos_iff.mpr hdata
      rw [h264FuaFragments, if_neg hdata]
      cases t with
      | zero =>
        rw [List.getElem?_cons_zero, Nat.zero_mul, if_pos hpos]
        simp [fuaFragment]
      | succ t =>
        rw [List.getElem?_cons_succ, ih false (data.drop m) (by simp; omega), List.drop_drop,
          List.length_drop, Nat.succ_mul, Nat.add_comm (t * m) m]
        have hiff : t * m < data.length - m ↔ m + t * m < data.length := by omega
        simp [hiff]

/-! ### Bits of the headers -/

section Bits

variable (header : UInt8)

/-- The bits of the two bytes in front of a fragment. -/
theorem fuBytes_bits : ∀ (header : UInt8) (first last : Bool),
    ((header &&& 0x60) ||| 28) &&& 0x1F = 28 ∧
    (((header &&& 0x1F) ||| (if first then 0x80 else 0) ||| if last then 0x40 else 0) &&& 0x80 ≠ 0 ↔
      first = true) ∧
    (((header &&& 0x1F) ||| (if first then 0x80 else 0) ||| if last then 0x40 else 0) &&& 0x40 ≠ 0 ↔
      last = true) ∧
    (header &&& 0x80 = 0 → (((header &&& 0x60) ||| 28) &&& 0x60) |||
      (((header &&& 0x1F) ||| (if first then 0x80 else 0) ||| if last then 0x40 else 0) &&& 0x1F) =
        header) := by
  decide +kernel

theorem fuIndicator_type : ((header &&& 0x60) ||| 28) &&& 0x1F = 28 :=
  (fuBytes_bits header true true).1

theorem fuHeader_start (first last : Bool) :
    ((header &&& 0x1F) ||| (if first then 0x80 else 0) ||| if last then 0x40 else 0) &&& 0x80 ≠ 0 ↔
      first = true :=
  (fuBytes_bits header first last).2.1

theorem fuHeader_end (first last : Bool) :
    ((header &&& 0x1F) ||| (if first then 0x80 else 0) ||| if last then 0x40 else 0) &&& 0x40 ≠ 0 ↔
      last = true :=
  (fuBytes_bits header first last).2.2.1

/-- The header of a NAL unit comes back from those of a fragment. -/
theorem fuHeader_rebuilt (h : header &&& 0x80 = 0) (first last : Bool) :
    (((header &&& 0x60) ||| 28) &&& 0x60) |||
      (((header &&& 0x1F) ||| (if first then 0x80 else 0) ||| if last then 0x40 else 0) &&& 0x1F) =
        header :=
  (fuBytes_bits header first last).2.2.2 h

end Bits

/-! ### A packet and the depacketizer -/

/-- A NAL unit that can be sent: `forbidden_zero_bit` is zero and the type is its own. -/
structure NalUnit (nal : List UInt8) : Prop where
  zeroBit : byteAt nal 0 &&& 0x80 = 0
  single : 1 ≤ h264NalType nal ∧ h264NalType nal ≤ 23

theorem NalUnit.ne_nil {nal : List UInt8} (h : NalUnit nal) : nal ≠ [] := by
  rintro rfl
  exact absurd h.single.1 (by decide)

/-- The bytes of a NAL unit up to the fragment with a number. -/
def nalUpTo (nal : List UInt8) (mtu part : Nat) : List UInt8 :=
  byteAt nal 0 :: (nal.drop 1).take (part * (mtu - h264FuaHeaderSize))

/-- A fragment that does not start a NAL unit. -/
def h264Continues (payload : List UInt8) : Bool :=
  h264NalType payload == 28 && byteAt payload 1 &&& 0x80 == 0

/-- The packets of a NAL unit: itself, or its fragments. -/
theorem h264Packetize_getElem? {nal : List UInt8} {mtu : Nat} (hmtu : h264FuaHeaderSize < mtu)
    (hne : nal ≠ []) (part : Nat) :
    (h264Packetize nal mtu)[part]? =
      if nal.length ≤ mtu then if part = 0 then some ⟨nal, true, false⟩ else none
      else if part * (mtu - h264FuaHeaderSize) < nal.length - 1 then
        some (fuaFragment (byteAt nal 0) (mtu - h264FuaHeaderSize) (part == 0)
          ((nal.drop 1).drop (part * (mtu - h264FuaHeaderSize))))
      else none := by
  have hparam : ¬ (nal = [] ∨ mtu < h264FuaHeaderSize + 1) := by
    rintro (h | h)
    · exact hne h
    · omega
  rw [h264Packetize, if_neg hparam, h264Fragments]
  by_cases hlen : nal.length ≤ mtu
  · rw [if_pos hlen, if_pos hlen]
    cases part <;> simp
  · rw [if_neg hlen, if_neg hlen, h264FuaFragments_getElem? _ (by omega) _ _ _ (by simp)]
    simp

/-- The number of packets: the last one reaches the end of the unit. -/
theorem h264Packetize_last {nal : List UInt8} {mtu part : Nat} (hmtu : h264FuaHeaderSize < mtu)
    (hne : nal ≠ []) (hlong : ¬ nal.length ≤ mtu)
    (hpart : part * (mtu - h264FuaHeaderSize) < nal.length - 1) :
    part + 1 = (h264Packetize nal mtu).length ↔
      nal.length - 1 ≤ (part + 1) * (mtu - h264FuaHeaderSize) := by
  have hhere := h264Packetize_getElem? hmtu hne part
  have hnext := h264Packetize_getElem? hmtu hne (part + 1)
  rw [if_neg hlong, if_pos hpart] at hhere
  rw [if_neg hlong] at hnext
  obtain ⟨hlt, -⟩ := List.getElem?_eq_some_iff.mp hhere
  constructor
  · intro hlast
    by_contra hmore
    rw [if_pos (by omega), List.getElem?_eq_none (by omega)] at hnext
    exact nomatch hnext
  · intro hend
    rw [if_neg (by omega), List.getElem?_eq_none_iff] at hnext
    omega

theorem h264DepktPush_fua (d : NanoH264Depkt) {payload : List UInt8}
    (h : h264NalType payload = 28) : h264DepktPush d payload = h264DepktFua d payload := by
  have hne : payload ≠ [] := by
    rintro rfl
    exact absurd h (by decide)
  rw [h264DepktPush, if_neg hne, h, if_neg (by decide), if_neg (by decide), if_pos rfl]

/-- A fragment at the depacketizer: dropped inside a unit that was not begun, else put behind what
is there. -/
theorem h264DepktFua_fragment (d : NanoH264Depkt) {header : UInt8} (h : header &&& 0x80 = 0)
    (m : Nat) (first : Bool) (data : List UInt8) :
    h264DepktFua d (fuaFragment header m first data).payload =
      if !first && !d.inProgress then (d, .ok, none)
      else
        let buf := (if first then [header] else d.buf) ++ data.take m
        if buf.length > videoNalBufSize then ({}, .bufferTooSmall, none)
        else if data.length ≤ m then (⟨buf, false⟩, .ok, some buf)
        else (⟨buf, true⟩, .ok, none) := by
  have hstart := fuHeader_start header first (decide (data.length ≤ m))
  have hend := fuHeader_end header first (decide (data.length ≤ m))
  have hbuilt := fuHeader_rebuilt header h first (decide (data.length ≤ m))
  simp only [decide_eq_true_eq] at hstart hend hbuilt
  have hlen : ¬ (fuaFragment header m first data).payload.length < h264FuaHeaderSize := by
    simp [fuaFragment, h264FuaHeaderSize]
  have hbyte0 : byteAt (fuaFragment header m first data).payload 0 = (header &&& 0x60) ||| 28 := rfl
  have hbyte1 : byteAt (fuaFragment header m first data).payload 1 =
      (header &&& 0x1F) ||| (if first then 0x80 else 0) |||
        if data.length ≤ m then 0x40 else 0 := rfl
  have hdrop : (fuaFragment header m first data).payload.drop h264FuaHeaderSize = data.take m := rfl
  rw [h264DepktFua, if_neg hlen]
  simp only [hbyte0, hbyte1, hdrop, hstart, hend, hbuilt]
  cases first <;> simp

/-- A fragment that completes a unit is its last one, and none is in progress behind it. -/
theorem h264DepktFua_completes {d d' : NanoH264Depkt} {header : UInt8} (h : header &&& 0x80 = 0)
    {m : Nat} {first : Bool} {data : List UInt8} {rc : Rc} {out : List UInt8}
    (hout : h264DepktFua d (fuaFragment header m first data).payload = (d', rc, some out)) :
    data.length ≤ m ∧ d'.inProgress = false := by
  rw [h264DepktFua_fragment d h] at hout
  generalize (if first = true then [header] else d.buf) ++ data.take m = buf at hout
  by_cases hdrop : (!first && !d.inProgress) = true
  · rw [if_pos hdrop] at hout
    simp at hout
  · rw [if_neg hdrop] at hout
    dsimp only at hout
    split at hout
    · simp at hout
    · split at hout
      next hlast =>
        cases hout
        exact ⟨hlast, rfl⟩
      · simp at hout

theorem h264DepktPush_single (d : NanoH264Depkt) {nal : List UInt8} (h : NalUnit nal)
    (hfits : nal.length ≤ videoNalBufSize) :
    h264DepktPush d nal = (⟨nal, false⟩, .ok, some nal) := by
  rw [h264DepktPush, if_neg h.ne_nil, if_pos h.single, if_neg (by omega)]

theorem nalUpTo_zero (nal : List UInt8) (mtu : Nat) : nalUpTo nal mtu 0 = [byteAt nal 0] := by
  simp [nalUpTo]

/-- A fragment put behind the bytes up to it. -/
theorem nalUpTo_append (nal : List UInt8) (mtu part : Nat) :
    nalUpTo nal mtu part ++ ((nal.drop 1).drop (part * (mtu - h264FuaHeaderSize))).take
      (mtu - h264FuaHeaderSize) = nalUpTo nal mtu (part + 1) := by
  rw [nalUpTo, nalUpTo, List.cons_append, ← List.take_add, Nat.succ_mul]

theorem nalUpTo_length_le {nal : List UInt8} (hne : nal ≠ []) (mtu part : Nat) :
    (nalUpTo nal mtu part).length ≤ nal.length := by
  have hpos : 0 < nal.length := List.length_pos_iff.mpr hne
  simp only [nalUpTo, List.length_cons, List.length_take, List.length_drop]
  omega

theorem nalUpTo_all {nal : List UInt8} (hne : nal ≠ []) {mtu part : Nat}
    (h : nal.length - 1 ≤ part * (mtu - h264FuaHeaderSize)) : nalUpTo nal mtu part = nal := by
  rw [nalUpTo, List.take_of_length_le (by simpa using h)]
  cases nal with
  | nil => exact absurd rfl hne
  | cons b bs => rfl

/-- A packet of a NAL unit all of whose packets before it the depacketizer took: the last one
gives the unit, one in between its bytes up to there. A depacketizer that did not see the unit
begin drops the packet. -/
theorem h264DepktPush_sent {nal : List UInt8} {mtu part : Nat} {f : H264Fragment}
    (hnal : NalUnit nal) (hfits : nal.length ≤ videoNalBufSize) (hmtu : h264FuaHeaderSize < mtu)
    (hf : (h264Packetize nal mtu)[part]? = some f) {d : NanoH264Depkt}
    (hd : part ≠ 0 → d.inProgress = true → d.buf = nalUpTo nal mtu part) :
    h264DepktPush d f.payload =
      if part ≠ 0 ∧ d.inProgress = false then (d, .ok, none)
      else if part + 1 = (h264Packetize nal mtu).length then (⟨nal, false⟩, .ok, some nal)
      else (⟨nalUpTo nal mtu (part + 1), true⟩, .ok, none) := by
  have hget := h264Packetize_getElem? hmtu hnal.ne_nil part
  rw [hf] at hget
  by_cases hlong : nal.length ≤ mtu
  · rw [if_pos hlong] at hget
    split at hget
    · obtain rfl := Option.some.inj hget
      rename_i hpart
      have hlast : part + 1 = (h264Packetize nal mtu).length := by
        rw [h264Packetize, if_neg (not_or.mpr ⟨hnal.ne_nil, by omega⟩), h264Fragments,
          if_pos hlong, hpart]
        rfl
      rw [if_neg (fun h => h.1 hpart), if_pos hlast]
      exact h264DepktPush_single d hnal hfits
    · exact nomatch hget
  · rw [if_neg hlong] at hget
    split at hget
    next hin =>
      obtain rfl := Option.some.inj hget
      rw [h264DepktPush_fua d (fuIndicator_type _), h264DepktFua_fragment d hnal.zeroBit]
      by_cases hdrop : part ≠ 0 ∧ d.inProgress = false
      · rw [if_pos hdrop, if_pos (by simp [hdrop])]
      · rw [if_neg hdrop, if_neg (by simp only [Bool.and_eq_true]; simpa using hdrop)]
        -- the bytes up to here, whether the fragment is the first or one behind it
        have hbuf : (if (part == 0) = true then [byteAt nal 0] else d.buf) =
            nalUpTo nal mtu part := by
          by_cases hpart : part = 0
          · rw [hpart, nalUpTo_zero]
            rfl
          · have hprog : d.inProgress = true := by
              by_contra hno
              exact hdrop ⟨hpart, Bool.eq_false_iff.mpr hno⟩
            rw [if_neg (by simpa using hpart)]
            exact hd hpart hprog
        simp only [hbuf, nalUpTo_append]
        have hle := nalUpTo_length_le hnal.ne_nil mtu (part + 1)
        rw [if_neg (by omega)]
        have hlast := h264Packetize_last hmtu hnal.ne_nil hlong hin
        have hrest : ((nal.drop 1).drop (part * (mtu - h264FuaHeaderSize))).length ≤
            mtu - h264FuaHeaderSize ↔ nal.length - 1 ≤ (part + 1) * (mtu - h264FuaHeaderSize) := by
          rw [List.length_drop, List.length_drop, Nat.succ_mul]
          omega
        by_cases hend : nal.length - 1 ≤ (part + 1) * (mtu - h264FuaHeaderSize)
        · rw [if_pos (hrest.mpr hend), if_pos (hlast.mpr hend), nalUpTo_all hnal.ne_nil hend]
        · rw [if_neg (mt hrest.mp hend), if_neg (mt hlast.mp hend)]
    · exact nomatch hget

/-- Whatever the depacketizer holds, only the last packet of a unit completes one, and nothing is
left in progress then. -/
theorem h264DepktPush_completes {nal : List UInt8} {mtu part : Nat} {f : H264Fragment}
    (hnal : NalUnit nal) (hmtu : h264FuaHeaderSize < mtu)
    (hf : (h264Packetize nal mtu)[part]? = some f) {d d' : NanoH264Depkt} {rc : Rc}
    {out : List UInt8} (h : h264DepktPush d f.payload = (d', rc, some out)) :
    part + 1 = (h264Packetize nal mtu).length ∧ f.isLast = true ∧ d'.inProgress = false := by
  have hget := h264Packetize_getElem? hmtu hnal.ne_nil part
  rw [hf] at hget
  by_cases hlong : nal.length ≤ mtu
  · rw [if_pos hlong] at hget
    split at hget
    next hpart =>
      obtain rfl := Option.some.inj hget
      refine ⟨?_, rfl, ?_⟩
      · rw [h264Packetize, if_neg (not_or.mpr ⟨hnal.ne_nil, by omega⟩), h264Fragments,
          if_pos hlong, hpart]
        rfl
      · rw [h264DepktPush, if_neg hnal.ne_nil, if_pos hnal.single] at h
        split at h
        · simp at h
        · obtain ⟨rfl, -, -⟩ := by simpa using h
          rfl
    · exact nomatch hget
  · rw [if_neg hlong] at hget
    split at hget
    next hin =>
      obtain rfl := Option.some.inj hget
      rw [h264DepktPush_fua d (fuIndicator_type _)] at h
      obtain ⟨hend, hidle⟩ := h264DepktFua_completes hnal.zeroBit h
      refine ⟨(h264Packetize_last hmtu hnal.ne_nil hlong hin).mpr ?_, decide_eq_true hend, hidle⟩
      rw [List.length_drop, List.length_drop] at hend
      rw [Nat.succ_mul]
      omega
    · exact nomatch hget

/-- A fragment inside a unit that the depacketizer did not see begin changes nothing. -/
theorem h264DepktPush_continues {payload : List UInt8} (h : h264Continues payload = true)
    {d : NanoH264Depkt} (hd : d.inProgress = false) :
    ∃ rc, h264DepktPush d payload = (d, rc, none) := by
  obtain ⟨htype, hstart⟩ : h264NalType payload = 28 ∧ byteAt payload 1 &&& 0x80 = 0 := by
    simpa [h264Continues] using h
  rw [h264DepktPush_fua d htype, h264DepktFua]
  split
  · exact ⟨_, rfl⟩
  · exact ⟨.ok, by simp [hstart, hd]⟩

end Nanortc.Spec
