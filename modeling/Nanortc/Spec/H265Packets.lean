import Mathlib
import Nanortc.Native.VideoPackets

/-!
# H.265 packets

The packets `h265_packetize_au` makes of an access unit conform to RFC 7798: each is a NAL unit of its
own, an aggregation packet of at least two, or a fragment, and a receiver written after the RFC
reads the list of NAL units back. `Carries` says what it is for a list of payloads to carry a list of
NAL units; the packetizer is one way to produce such a list.

## Key results

- `h265EmitFu_run`: the fragments of a NAL unit
- `h265EmitAp_packet`: an aggregation packet
- `h265PacketizeAu_carries`: the packetizer's payloads carry the access unit
- `Carries.received`: the receiver reads the list back
- `h265_round_trip`: conformance and round trip
-/

namespace Nanortc.Spec

open Nanortc.ForStd Nanortc.Native

/-! ### Payloads that carry NAL units -/

/-- A payload is the fragment with number `part` out of `n` of a NAL unit. -/
structure FuPart (nal : List UInt8) (part n : Nat) (payload : List UInt8) : Prop where
  header : byteAt payload 0 = (byteAt nal 0 &&& 0x81) ||| 0x62 ∧ byteAt payload 1 = byteAt nal 1
  type : h265NalType payload = 49
  unitType : byteAt payload 2 &&& 0x3F = h265NalType nal
  start : byteAt payload 2 &&& 0x80 ≠ 0 ↔ part = 0
  stop : byteAt payload 2 &&& 0x40 ≠ 0 ↔ part + 1 = n
  filled : h265FuHeaderSize < payload.length

/-- The payloads are the fragments of a NAL unit, in order, the marker on the last one of the last
unit only. -/
structure FuRun (nal : List UInt8) (mtu : Nat) (last : Bool) (fs : List VideoPayload) : Prop where
  several : 2 ≤ fs.length
  part : ∀ k p, fs[k]? = some p → FuPart nal k fs.length p.bytes ∧ p.bytes.length ≤ mtu ∧
    p.marker = (last && decide (k + 1 = fs.length))
  data : fs.flatMap (fun p => p.bytes.drop h265FuHeaderSize) = nal.drop h265NalHeaderSize

/-- The payload is an aggregation packet of the NAL units `group`: behind a header with the least
layer and temporal id of the group stand the units, each behind its length. -/
structure ApPacket (group : List (List UInt8)) (pkt : List UInt8) : Prop where
  several : 2 ≤ group.length
  type : h265NalType pkt = 48
  fBit : byteAt pkt 0 &&& 0x80 ≠ 0 ↔ ∃ n ∈ group, byteAt n 0 &&& 0x80 ≠ 0
  layerLe : ∀ n ∈ group, h265NalLayerId pkt ≤ h265NalLayerId n
  layerMem : ∃ n ∈ group, h265NalLayerId pkt = h265NalLayerId n
  tidLe : (∀ n ∈ group, h265NalTid n ≠ 0) → ∀ n ∈ group, h265NalTid pkt ≤ h265NalTid n
  tidMem : (∀ n ∈ group, h265NalTid n ≠ 0) → ∃ n ∈ group, h265NalTid pkt = h265NalTid n
  sizes : ∀ n ∈ group, 2 ≤ n.length ∧ n.length < 2 ^ 16
  body : pkt.drop h265ApPayloadHdrSize =
    group.flatMap fun n => u16be (UInt16.ofNat n.length) ++ n
  header : h265ApPayloadHdrSize ≤ pkt.length

/-- The payloads carry the NAL units, in order, in packets of at most `mtu` bytes; the marker is on
the last one. -/
inductive Carries (mtu : Nat) : List (List UInt8) → List VideoPayload → Prop
  | nil : Carries mtu [] []
  | single {n nals ps} : 2 ≤ n.length → n.length ≤ mtu → Carries mtu nals ps →
    Carries mtu (n :: nals) (⟨n, nals.isEmpty⟩ :: ps)
  | aggregate {group nals ps pkt} : ApPacket group pkt → pkt.length ≤ mtu → Carries mtu nals ps →
    Carries mtu (group ++ nals) (⟨pkt, nals.isEmpty⟩ :: ps)
  | fragments {n nals fs ps} : mtu < n.length → FuRun n mtu nals.isEmpty fs → Carries mtu nals ps →
    Carries mtu (n :: nals) (fs ++ ps)

/-! ### A receiver after RFC 7798 -/

/-- The aggregation units of an aggregation packet. -/
def rfc7798Units : (turns : Nat) → List UInt8 → Option (List (List UInt8))
  | _, [] => some []
  | 0, _ :: _ => none
  | turns + 1, b :: bs =>
    let size := (readU16be (b :: bs) 0).toNat
    if (b :: bs).length < 2 + size then none
    else
      (rfc7798Units turns ((b :: bs).drop (2 + size))).map ((((b :: bs).drop 2).take size) :: ·)

/-- A payload received: the NAL unit that is put together from fragments afterwards, and the NAL units
that are complete. There is none for a payload that does not conform. -/
def rfc7798Push (unfinished : Option (List UInt8)) (payload : List UInt8) :
    Option (Option (List UInt8) × List (List UInt8)) :=
  if payload.length < 2 then none
  else if h265NalType payload < 48 then
    if unfinished.isSome then none else some (none, [payload])
  else if h265NalType payload = 48 then
    if unfinished.isSome then none
    else
      match rfc7798Units payload.length (payload.drop 2) with
      | none => none
      | some units => if units.length < 2 then none else some (none, units)
  else if h265NalType payload = 49 then
    if payload.length ≤ 3 then none
    else
      let type : UInt8 := (byteAt payload 2 &&& 0x3F) <<< 1
      let header := [(byteAt payload 0 &&& 0x81) ||| type, byteAt payload 1]
      let start : Bool := byteAt payload 2 &&& 0x80 ≠ 0
      let stop : Bool := byteAt payload 2 &&& 0x40 ≠ 0
      match unfinished, start with
      | none, true => if stop then none else some (some (header ++ payload.drop 3), [])
      | some unit, false =>
        if stop then some (none, [unit ++ payload.drop 3])
        else some (some (unit ++ payload.drop 3), [])
      | _, _ => none
  else none

/-- The NAL units in a list of payloads that ends with a complete one. -/
def rfc7798Receive (unfinished : Option (List UInt8)) :
    List (List UInt8) → Option (List (List UInt8))
  | [] => if unfinished.isSome then none else some []
  | p :: ps =>
    match rfc7798Push unfinished p with
    | none => none
    | some (unfinished, units) => (rfc7798Receive unfinished ps).map (units ++ ·)

/-! ### Bits of the headers -/

section Bits

variable (nal : List UInt8)

/-- The bits of the bytes in front of a fragment: those that stand for the first byte `b` of the NAL
unit, and those of the fragment's own header for a type `t`. -/
theorem fuFront_bits :
    (∀ b : UInt8, h265NalType [(b &&& 0x81) ||| 0x62] = 49 ∧
      (((b &&& 0x81) ||| 0x62) &&& (0x81 : UInt8)) ||| (h265NalType [b] <<< (1 : UInt8)) = b) ∧
    ∀ (t : Fin 64) (first last : Bool),
      let type : UInt8 := .ofNat t
      (type ||| (if first then 0x80 else 0) ||| if last then 0x40 else 0) &&& 0x3F = type ∧
      ((type ||| (if first then 0x80 else 0) ||| if last then 0x40 else 0) &&& 0x80 ≠ 0 ↔
        first = true) ∧
      ((type ||| (if first then 0x80 else 0) ||| if last then 0x40 else 0) &&& 0x40 ≠ 0 ↔
        last = true) := by
  decide +kernel

theorem fuHeaderByte_ofType (first last : Bool) :
    let type := h265NalType nal
    (type ||| (if first then 0x80 else 0) ||| if last then 0x40 else 0) &&& 0x3F = type ∧
    ((type ||| (if first then 0x80 else 0) ||| if last then 0x40 else 0) &&& 0x80 ≠ 0 ↔
      first = true) ∧
    ((type ||| (if first then 0x80 else 0) ||| if last then 0x40 else 0) &&& 0x40 ≠ 0 ↔
      last = true) := by
  have hlt : (h265NalType nal).toNat < 64 := by
    unfold h265NalType
    rw [UInt8.toNat_and]
    exact Nat.lt_succ_of_le Nat.and_le_right
  have h := fuFront_bits.2 ⟨(h265NalType nal).toNat, hlt⟩ first last
  rw [UInt8.ofNat_toNat] at h
  exact h

theorem fuPayloadHdr_type (bs : List UInt8) :
    h265NalType (((byteAt nal 0 &&& 0x81) ||| 0x62) :: bs) = 49 :=
  (fuFront_bits.1 (byteAt nal 0)).1

theorem fuHeaderByte_type (first last : Bool) :
    (h265NalType nal ||| (if first then 0x80 else 0) ||| if last then 0x40 else 0) &&& 0x3F =
      h265NalType nal :=
  (fuHeaderByte_ofType nal first last).1

theorem fuHeaderByte_start (first last : Bool) :
    (h265NalType nal ||| (if first then 0x80 else 0) ||| if last then 0x40 else 0) &&& 0x80 ≠ 0 ↔
      first = true :=
  (fuHeaderByte_ofType nal first last).2.1

theorem fuHeaderByte_stop (first last : Bool) :
    (h265NalType nal ||| (if first then 0x80 else 0) ||| if last then 0x40 else 0) &&& 0x40 ≠ 0 ↔
      last = true :=
  (fuHeaderByte_ofType nal first last).2.2

/-- The first byte of a NAL unit comes back from those of a fragment. -/
theorem fuNalHdr_rebuilt {type : UInt8} (h : type = h265NalType nal <<< 1) :
    (((byteAt nal 0 &&& 0x81) ||| 0x62) &&& 0x81) ||| type = byteAt nal 0 := by
  subst h
  exact (fuFront_bits.1 (byteAt nal 0)).2

end Bits

/-! ### Fragments -/

/-- The fragment at the front of the rest of a NAL unit. -/
def fuPayload (nal : List UInt8) (maxFrag : Nat) (last first : Bool) (data : List UInt8) :
    VideoPayload where
  bytes := [(byteAt nal 0 &&& 0x81) ||| 0x62, byteAt nal 1,
    h265NalType nal ||| (if first then 0x80 else 0) |||
      if data.length ≤ maxFrag then 0x40 else 0] ++ data.take maxFrag
  marker := decide (data.length ≤ maxFrag) && last

variable {nal : List UInt8} {m mtu : Nat} {last : Bool}

theorem h265FuPayloads_cons (turns : Nat) (first : Bool) {data : List UInt8} (hdata : data ≠ []) :
    h265FuPayloads nal m last (turns + 1) first data =
      fuPayload nal m last first data :: h265FuPayloads nal m last turns false (data.drop m) := by
  rw [h265FuPayloads, if_neg hdata]
  simp [fuPayload]

theorem h265FuPayloads_nil (turns : Nat) (first : Bool) :
    h265FuPayloads nal m last turns first [] = [] := by
  cases turns <;> simp [h265FuPayloads]

theorem h265FuPayloads_getElem? (nal : List UInt8) (last : Bool) (hm : 0 < m) (turns : Nat) (first : Bool) (data : List UInt8)
    (h : data.length ≤ turns) (k : Nat) :
    (h265FuPayloads nal m last turns first data)[k]? =
      if k * m < data.length then some (fuPayload nal m last (first && k == 0) (data.drop (k * m)))
      else none := by
  induction turns generalizing first data k with
  | zero =>
    rw [if_neg (by omega)]
    rfl
  | succ turns ih =>
    by_cases hdata : data = []
    · subst hdata
      simp [h265FuPayloads]
    · have hpos : 0 < data.length := List.length_pos_iff.mpr hdata
      rw [h265FuPayloads_cons _ _ hdata]
      cases k with
      | zero =>
        rw [List.getElem?_cons_zero, Nat.zero_mul, if_pos hpos]
        simp
      | succ k =>
        rw [List.getElem?_cons_succ, ih false (data.drop m) (by simp; omega), List.drop_drop,
          List.length_drop, Nat.succ_mul, Nat.add_comm (k * m) m]
        have hiff : k * m < data.length - m ↔ m + k * m < data.length := by omega
        simp [hiff]

/-- A fragment takes the last bytes exactly when no further one is made. -/
theorem h265FuPayloads_last (nal : List UInt8) (last first : Bool) (hm : 0 < m) {turns : Nat} {data : List UInt8}
    (h : data.length ≤ turns) {k : Nat} (hk : k * m < data.length) :
    (data.drop (k * m)).length ≤ m ↔
      k + 1 = (h265FuPayloads nal m last turns first data).length := by
  have hhere := h265FuPayloads_getElem? nal last hm turns first data h k
  have hnext := h265FuPayloads_getElem? nal last hm turns first data h (k + 1)
  rw [if_pos hk] at hhere
  obtain ⟨hlt, -⟩ := List.getElem?_eq_some_iff.mp hhere
  rw [List.length_drop]
  have hmul := Nat.add_one_mul k m
  constructor
  · intro hend
    rw [if_neg (by omega), List.getElem?_eq_none_iff] at hnext
    omega
  · intro hlast
    by_contra hmore
    rw [if_pos (by omega), List.getElem?_eq_none (by omega)] at hnext
    exact nomatch hnext

theorem h265FuPayloads_data (hm : 0 < m) (turns : Nat) (first : Bool) (data : List UInt8)
    (h : data.length ≤ turns) :
    (h265FuPayloads nal m last turns first data).flatMap
      (fun p => p.bytes.drop h265FuHeaderSize) = data := by
  induction turns generalizing first data with
  | zero => simp [h265FuPayloads, List.length_eq_zero_iff.mp (Nat.le_zero.mp h)]
  | succ turns ih =>
    by_cases hdata : data = []
    · rw [hdata, h265FuPayloads_nil]
      rfl
    · have hpos : 0 < data.length := List.length_pos_iff.mpr hdata
      rw [h265FuPayloads_cons _ _ hdata, List.flatMap_cons,
        ih false (data.drop m) (by simp; omega)]
      exact List.take_append_drop m data

/-- A NAL unit that is larger than a packet is cut into fragments. -/
theorem h265EmitFu_run (hmtu : h265FuHeaderSize < mtu) (hvideo : mtu ≤ videoMtu)
    (hlong : mtu < nal.length) (last : Bool) :
    (h265EmitFu nal mtu last).2 = .ok ∧ FuRun nal mtu last (h265EmitFu nal mtu last).1 := by
  simp only [h265FuHeaderSize] at hmtu
  have hdata : (nal.drop h265NalHeaderSize).length ≤ nal.length := by simp
  have hm : 0 < mtu - h265FuHeaderSize := by
    simp only [h265FuHeaderSize]
    omega
  have hfu : h265EmitFu nal mtu last = (h265FuPayloads nal (mtu - h265FuHeaderSize) last nal.length
      true (nal.drop h265NalHeaderSize), .ok) := by
    rw [h265EmitFu, if_neg (by simp only [h265NalHeaderSize]; omega),
      if_neg (by simp only [h265FuHeaderSize]; omega), if_neg (by omega)]
  rw [hfu]
  refine ⟨rfl, ?_, fun k p hp => ?_, h265FuPayloads_data hm _ _ _ hdata⟩
  · -- the bytes behind the header do not fit the first fragment
    have hsecond := h265FuPayloads_getElem? nal last hm _ true _ hdata 1
    rw [if_pos (by simp only [h265FuHeaderSize, h265NalHeaderSize, List.length_drop]; omega)]
      at hsecond
    exact (List.getElem?_eq_some_iff.mp hsecond).1
  · have hget := h265FuPayloads_getElem? nal last hm _ true _ hdata k
    rw [hp] at hget
    split at hget
    · rename_i hk
      obtain rfl := Option.some.inj hget
      have hend := h265FuPayloads_last nal last true hm hdata hk
      have hne : 0 < ((nal.drop h265NalHeaderSize).drop (k * (mtu - h265FuHeaderSize))).length := by
        rw [List.length_drop]
        omega
      generalize (nal.drop h265NalHeaderSize).drop (k * (mtu - h265FuHeaderSize)) = data at hend hne
      have htype := fuHeaderByte_type nal (k == 0)
        (decide (data.length ≤ mtu - h265FuHeaderSize))
      have hstart := fuHeaderByte_start nal (k == 0)
        (decide (data.length ≤ mtu - h265FuHeaderSize))
      have hstop := fuHeaderByte_stop nal (k == 0)
        (decide (data.length ≤ mtu - h265FuHeaderSize))
      simp only [decide_eq_true_eq, beq_iff_eq] at htype hstart hstop
      refine ⟨⟨⟨rfl, rfl⟩, fuPayloadHdr_type nal _, ?_, ?_, ?_, ?_⟩, ?_, ?_⟩
      · simpa [fuPayload, byteAt, h265NalType] using htype
      · simpa [fuPayload, byteAt, h265NalType] using hstart
      · simpa [fuPayload, byteAt, h265NalType, hend] using hstop
      · simp only [fuPayload, h265FuHeaderSize, List.length_append, List.length_cons,
          List.length_nil, List.length_take]
        omega
      · simp only [fuPayload, h265FuHeaderSize, List.length_append, List.length_cons,
          List.length_nil, List.length_take]
        omega
      · simp only [fuPayload, hend]
        exact Bool.and_comm _ _
    · cases hget

/-! ### Aggregation packets -/

/-- The units of an aggregation packet, each behind its length. -/
def apBody (group : List (List UInt8)) : List UInt8 :=
  group.flatMap fun n => u16be (UInt16.ofNat n.length) ++ n

theorem apBody_length (group : List (List UInt8)) :
    (apBody group).length = (group.map fun n => h265ApNaluLenSize + n.length).sum := by
  induction group with
  | nil => rfl
  | cons n group ih =>
    rw [apBody, List.flatMap_cons, ← apBody, List.length_append, List.length_append, ih,
      List.map_cons, List.sum_cons]
    rfl

theorem h265ApCopy_eq {pkt : List UInt8} {group : List (List UInt8)}
    (h : pkt.length + (apBody group).length ≤ videoMtu) :
    h265ApCopy pkt group = some (pkt ++ apBody group) := by
  induction group generalizing pkt with
  | nil => simp [h265ApCopy, apBody]
  | cons n group ih =>
    rw [apBody, List.flatMap_cons, ← apBody, List.length_append, List.length_append] at h
    have hlen : (u16be (UInt16.ofNat n.length)).length = h265ApNaluLenSize := rfl
    rw [hlen] at h
    rw [h265ApCopy, if_neg (by omega), ih]
    · rw [apBody, apBody, List.flatMap_cons]
      simp
    · rw [List.length_append, List.length_append, hlen]
      omega

/-- The least value of a function on a list, as the source looks for it. -/
theorem foldl_least {α : Type*} (f : α → UInt8) (xs : List α) (init : UInt8) :
    xs.foldl (fun m x => if f x < m then f x else m) init ≤ init ∧
    (∀ x ∈ xs, xs.foldl (fun m x => if f x < m then f x else m) init ≤ f x) ∧
    (xs.foldl (fun m x => if f x < m then f x else m) init = init ∨
      ∃ x ∈ xs, xs.foldl (fun m x => if f x < m then f x else m) init = f x) := by
  induction xs generalizing init with
  | nil => exact ⟨UInt8.le_refl _, fun x hx => absurd hx List.not_mem_nil, .inl rfl⟩
  | cons y ys ih =>
    rw [List.foldl_cons]
    obtain ⟨hinit, hall, hmem⟩ := ih (if f y < init then f y else init)
    have hstart : (if f y < init then f y else init) ≤ init ∧
        (if f y < init then f y else init) ≤ f y := by
      split
      · rename_i hlt
        exact ⟨UInt8.le_of_lt hlt, UInt8.le_refl _⟩
      · rename_i hge
        exact ⟨UInt8.le_refl _, UInt8.not_lt.mp hge⟩
    refine ⟨UInt8.le_trans hinit hstart.1, fun x hx => ?_, ?_⟩
    · rcases List.mem_cons.mp hx with rfl | hx
      · exact UInt8.le_trans hinit hstart.2
      · exact hall x hx
    · rcases hmem with hmem | ⟨x, hx, hmem⟩
      · rw [hmem]
        split
        · exact .inr ⟨y, List.mem_cons_self, rfl⟩
        · exact .inl rfl
      · exact .inr ⟨x, List.mem_cons_of_mem y hx, hmem⟩

/-- A least value that starts from an upper bound is the value at a member. -/
theorem foldl_least_mem {α : Type*} {f : α → UInt8} {xs : List α} {init : UInt8} (hne : xs ≠ [])
    (hbound : ∀ x, f x ≤ init) :
    ∃ x ∈ xs, xs.foldl (fun m x => if f x < m then f x else m) init = f x := by
  obtain ⟨-, hall, hinit | hmem⟩ := foldl_least f xs init
  · cases xs with
    | nil => exact absurd rfl hne
    | cons x xs =>
      refine ⟨x, List.mem_cons_self, UInt8.le_antisymm (hall x List.mem_cons_self) ?_⟩
      rw [hinit]
      exact hbound x
  · exact hmem

/-- The bits that the fields of a header are read from. -/
theorem headerFields_bits : ∀ b : UInt8,
    ((b &&& 0x01) <<< (5 : UInt8) = 0 ∨ (b &&& 0x01) <<< (5 : UInt8) = 32) ∧
    (0 ||| ((b >>> (3 : UInt8)) &&& 0x1F) : UInt8) ≤ 63 ∧
    (32 ||| ((b >>> (3 : UInt8)) &&& 0x1F) : UInt8) ≤ 63 ∧ b &&& 0x07 ≤ 7 := by
  decide +kernel

theorem h265NalLayerId_le (nal : List UInt8) : h265NalLayerId nal ≤ 63 := by
  obtain ⟨-, hlow, hhigh, -⟩ := headerFields_bits (byteAt nal 1)
  unfold h265NalLayerId
  rcases (headerFields_bits (byteAt nal 0)).1 with h | h <;> rw [h]
  · exact hlow
  · exact hhigh

theorem h265NalTid_le (nal : List UInt8) : h265NalTid nal ≤ 7 :=
  (headerFields_bits (byteAt nal 1)).2.2.2

/-- The two bytes of a payload header with the given fields. -/
def apHeaderBytes (f : Bool) (layer tid : UInt8) : List UInt8 :=
  let fBit : UInt8 := if f then 0x80 else 0
  let layerMsb : UInt8 := layer >>> 5
  let layerLsb : UInt8 := (layer &&& 0x1F) <<< 3
  [fBit ||| 0x60 ||| (layerMsb &&& 0x01), layerLsb ||| (tid &&& 0x07)]

/-- The bits of the two bytes, each for the fields that it has a part of. -/
theorem apHeaderBytes_bits :
    (∀ (f : Bool) (l : Fin 64),
      let b : UInt8 := byteAt (apHeaderBytes f (.ofNat l) 0) 0
      h265NalType [b] = 48 ∧ (b &&& 0x80 ≠ 0 ↔ f = true) ∧
        (b &&& 0x01) <<< (5 : UInt8) = .ofNat l &&& 0x20) ∧
    (∀ (l : Fin 64) (t : Fin 8),
      let b : UInt8 := byteAt (apHeaderBytes false (.ofNat l) (.ofNat t)) 1
      (b >>> (3 : UInt8)) &&& 0x1F = .ofNat l &&& 0x1F ∧ b &&& 0x07 = .ofNat t) ∧
    ∀ l : Fin 64, (UInt8.ofNat l &&& 0x20) ||| (UInt8.ofNat l &&& 0x1F) = .ofNat l := by
  decide +kernel

/-- The fields come back from the two bytes. -/
theorem apHeaderBytes_fields (f : Bool) {layer tid : UInt8} (hlayer : layer ≤ 63) (htid : tid ≤ 7)
    (bs : List UInt8) :
    h265NalType (apHeaderBytes f layer tid ++ bs) = 48 ∧
    (byteAt (apHeaderBytes f layer tid ++ bs) 0 &&& 0x80 ≠ 0 ↔ f = true) ∧
    h265NalLayerId (apHeaderBytes f layer tid ++ bs) = layer ∧
    h265NalTid (apHeaderBytes f layer tid ++ bs) = tid := by
  obtain ⟨hfront, hback, hwhole⟩ := apHeaderBytes_bits
  have hfront := hfront f ⟨layer.toNat, Nat.lt_succ_of_le hlayer⟩
  have hback := hback ⟨layer.toNat, Nat.lt_succ_of_le hlayer⟩ ⟨tid.toNat, Nat.lt_succ_of_le htid⟩
  have hwhole := hwhole ⟨layer.toNat, Nat.lt_succ_of_le hlayer⟩
  simp only [UInt8.ofNat_toNat] at hfront hback hwhole
  refine ⟨hfront.1, hfront.2.1, ?_, hback.2⟩
  calc h265NalLayerId (apHeaderBytes f layer tid ++ bs)
    _ = (layer &&& 0x20) ||| (layer &&& 0x1F) := congrArg₂ (· ||| ·) hfront.2.2 hback.1
    _ = layer := hwhole

/-- **An aggregation packet**: a group of units that fits, in one packet. -/
theorem h265EmitAp_packet {group : List (List UInt8)} (hseveral : 2 ≤ group.length)
    (hsizes : ∀ n ∈ group, 2 ≤ n.length ∧ n.length < 2 ^ 16)
    (hfits : h265ApPayloadHdrSize + (apBody group).length ≤ videoMtu) (marker : Bool) :
    ∃ pkt, h265EmitAp group marker = ([⟨pkt, marker⟩], .ok) ∧ ApPacket group pkt ∧
      pkt.length = h265ApPayloadHdrSize + (apBody group).length := by
  have hne : group ≠ [] := by
    rintro rfl
    exact absurd hseveral (by decide)
  obtain ⟨-, hlayerLe, -⟩ := foldl_least h265NalLayerId group 63
  obtain ⟨htidInit, htidLe, -⟩ := foldl_least h265NalTid group 7
  have hlayerMem := foldl_least_mem hne h265NalLayerId_le
  have htidMem := foldl_least_mem hne h265NalTid_le
  have hheader : h265ApHeader group = apHeaderBytes
      (group.any fun n => byteAt n 0 &&& 0x80 ≠ 0)
      (group.foldl (fun m n => if h265NalLayerId n < m then h265NalLayerId n else m) 63)
      (if group.foldl (fun m n => if h265NalTid n < m then h265NalTid n else m) 7 = 0 then 1
        else group.foldl (fun m n => if h265NalTid n < m then h265NalTid n else m) 7) := rfl
  generalize group.foldl (fun m n => if h265NalLayerId n < m then h265NalLayerId n else m) 63 =
    layer at hheader hlayerLe hlayerMem
  generalize group.foldl (fun m n => if h265NalTid n < m then h265NalTid n else m) 7 =
    tid at hheader htidInit htidLe htidMem
  have hlayer : layer ≤ 63 := by
    obtain ⟨n, -, hn⟩ := hlayerMem
    exact hn ▸ h265NalLayerId_le n
  have htid : (if tid = 0 then 1 else tid) ≤ 7 := by
    split
    · decide
    · exact htidInit
  obtain ⟨htype, hf, hlayerEq, htidEq⟩ := apHeaderBytes_fields
    (group.any fun n => byteAt n 0 &&& 0x80 ≠ 0) hlayer htid (apBody group)
  rw [← hheader] at htype hf hlayerEq htidEq
  -- no unit carries the temporal id that does not exist
  have hnonzero (hvalid : ∀ n ∈ group, h265NalTid n ≠ 0) : tid ≠ 0 := by
    obtain ⟨n, hn, heq⟩ := htidMem
    exact heq ▸ hvalid n hn
  have hlen : (h265ApHeader group).length = h265ApPayloadHdrSize := rfl
  refine ⟨h265ApHeader group ++ apBody group, ?_, ⟨hseveral, htype, ?_, ?_, ?_, ?_, ?_, hsizes, ?_,
    ?_⟩, by rw [List.length_append, hlen]⟩
  · have hshort : (group.any fun n => decide (n.length < h265NalHeaderSize)) = false := by
      rw [List.any_eq_false]
      intro n hn hlt
      have hlength := (hsizes n hn).1
      have hlt' : n.length < h265NalHeaderSize := of_decide_eq_true hlt
      simp only [h265NalHeaderSize] at hlt'
      omega
    rw [h265EmitAp, if_neg (by omega), hshort, if_neg Bool.false_ne_true,
      h265ApCopy_eq (hlen ▸ hfits)]
  · rw [hf]
    simp
  · rw [hlayerEq]
    exact hlayerLe
  · rw [hlayerEq]
    exact hlayerMem
  · intro hvalid
    rw [htidEq, if_neg (hnonzero hvalid)]
    exact htidLe
  · intro hvalid
    rw [htidEq, if_neg (hnonzero hvalid)]
    exact htidMem
  · rw [← hlen]
    exact List.drop_left
  · rw [List.length_append, hlen]
    exact Nat.le_add_right _ _

/-! ### The packetizer -/

/-- The units that are aggregated with the current one fit one packet with it. -/
theorem h265ApRun_fits {mtu : Nat} {nals : List (List UInt8)} {apBytes : Nat}
    (h : apBytes ≤ mtu) :
    h265ApRun mtu apBytes nals ≤ nals.length ∧
    apBytes + (apBody (nals.take (h265ApRun mtu apBytes nals))).length ≤ mtu := by
  induction nals generalizing apBytes with
  | nil => exact ⟨Nat.le_refl _, by simpa [h265ApRun, apBody] using h⟩
  | cons next nals ih =>
    rw [h265ApRun]
    split_ifs with hshort hlong hfull
    · exact ⟨Nat.zero_le _, by simpa [apBody] using h⟩
    · exact ⟨Nat.zero_le _, by simpa [apBody] using h⟩
    · exact ⟨Nat.zero_le _, by simpa [apBody] using h⟩
    · obtain ⟨hle, hfits⟩ := ih (Nat.le_of_not_gt hfull)
      refine ⟨by rw [List.length_cons]; omega, ?_⟩
      rw [List.take_succ_cons, apBody, List.flatMap_cons, ← apBody, List.length_append,
        List.length_append]
      have hlen : (u16be (UInt16.ofNat next.length)).length = h265ApNaluLenSize := rfl
      rw [hlen]
      omega

theorem h265ApRun_pos {mtu : Nat} {nals : List (List UInt8)} {apBytes : Nat}
    (h : 0 < h265ApRun mtu apBytes nals) : apBytes ≤ mtu := by
  cases nals with
  | nil => exact absurd h (Nat.lt_irrefl 0)
  | cons next nals =>
    rw [h265ApRun] at h
    split_ifs at h with hshort hlong hfull
    all_goals omega

theorem length_le_apBody {group : List (List UInt8)} {n : List UInt8} (hn : n ∈ group) :
    n.length ≤ (apBody group).length := by
  induction group with
  | nil => exact absurd hn List.not_mem_nil
  | cons m group ih =>
    rw [apBody_length, List.map_cons, List.sum_cons, ← apBody_length]
    rcases List.mem_cons.mp hn with rfl | hn
    · omega
    · have hle := ih hn
      omega

theorem h265Then_ok {emitted rest : List VideoPayload × Rc} (h : emitted.2 = .ok) :
    h265Then emitted rest = (emitted.1 ++ rest.1, rest.2) := by
  rw [h265Then, h]

/-- The loop of the packetizer carries the units that are left. -/
theorem h265PacketizeLoop_carries (hmtu : h265FuHeaderSize < mtu) (hvideo : mtu ≤ videoMtu)
    {turns : Nat} {nals : List (List UInt8)} (hturns : nals.length ≤ turns)
    (hnals : ∀ n ∈ nals, 2 ≤ n.length) :
    (h265PacketizeLoop mtu turns nals).2 = .ok ∧
      Carries mtu nals (h265PacketizeLoop mtu turns nals).1 := by
  induction turns generalizing nals with
  | zero =>
    obtain rfl := List.length_eq_zero_iff.mp (Nat.le_zero.mp hturns)
    exact ⟨rfl, .nil⟩
  | succ turns ih =>
    cases nals with
    | nil => exact ⟨rfl, .nil⟩
    | cons n nals =>
      have hn := hnals n List.mem_cons_self
      have hrest : ∀ x ∈ nals, 2 ≤ x.length := fun x hx => hnals x (List.mem_cons_of_mem n hx)
      rw [List.length_cons] at hturns
      rw [h265PacketizeLoop, if_neg (by simp only [h265NalHeaderSize]; omega)]
      by_cases hlong : n.length > mtu
      · obtain ⟨hok, hrun⟩ := h265EmitFu_run hmtu hvideo hlong nals.isEmpty
        obtain ⟨hrc, hcarries⟩ := ih (by omega) hrest
        rw [if_pos hlong, h265Then_ok hok]
        exact ⟨hrc, .fragments hlong hrun hcarries⟩
      · rw [if_neg hlong]
        dsimp only
        by_cases hrun : h265ApRun mtu (h265ApPayloadHdrSize + h265ApNaluLenSize + n.length) nals > 0
        · -- a run is taken only if the current unit fits an aggregation packet
          obtain ⟨hle, hfits⟩ := @h265ApRun_fits _ nals _ (h265ApRun_pos hrun)
          generalize h265ApRun mtu (h265ApPayloadHdrSize + h265ApNaluLenSize + n.length) nals =
            run at hrun hle hfits
          have hbody : (apBody (n :: nals.take run)).length =
              h265ApNaluLenSize + n.length + (apBody (nals.take run)).length := by
            rw [apBody_length, apBody_length, List.map_cons, List.sum_cons]
          have hvideo' : mtu < 2 ^ 16 := Nat.lt_of_le_of_lt hvideo (by decide)
          have hsizes : ∀ x ∈ n :: nals.take run, 2 ≤ x.length ∧ x.length < 2 ^ 16 := by
            intro x hx
            have hxle := length_le_apBody hx
            refine ⟨?_, by omega⟩
            rcases List.mem_cons.mp hx with rfl | hx
            · exact hn
            · exact hrest x (List.mem_of_mem_take hx)
          obtain ⟨pkt, hemit, hpacket, hlen⟩ := @h265EmitAp_packet (n :: nals.take run)
            (by rw [List.length_cons, List.length_take]; omega) hsizes (by omega)
            (nals.drop run).isEmpty
          obtain ⟨hrc, hcarries⟩ := @ih (nals.drop run)
            (by rw [List.length_drop]; omega) fun x hx => hrest x (List.mem_of_mem_drop hx)
          have hall : n :: nals = (n :: nals.take run) ++ nals.drop run := by
            rw [List.cons_append, List.take_append_drop]
          rw [if_pos hrun, hemit, h265Then_ok rfl, hall]
          exact ⟨hrc, .aggregate hpacket (by omega) hcarries⟩
        · obtain ⟨hrc, hcarries⟩ := ih (by omega) hrest
          rw [if_neg hrun, h265Then_ok rfl]
          exact ⟨hrc, .single hn (Nat.le_of_not_gt hlong) hcarries⟩

/-- **The packetizer's payloads carry the access unit.** -/
theorem h265PacketizeAu_carries (hmtu : h265FuHeaderSize < mtu) (hvideo : mtu ≤ videoMtu)
    {nals : List (List UInt8)} (hnals : ∀ n ∈ nals, 2 ≤ n.length) :
    (nals ≠ [] → (h265PacketizeAu nals mtu).2 = .ok) ∧
      Carries mtu nals (h265PacketizeAu nals mtu).1 := by
  rw [h265PacketizeAu]
  by_cases hempty : nals.length = 0
  · rw [if_pos (.inl hempty), List.length_eq_zero_iff.mp hempty]
    exact ⟨fun h => absurd rfl h, .nil⟩
  · rw [if_neg (by omega)]
    obtain ⟨hok, hcarries⟩ := h265PacketizeLoop_carries hmtu hvideo (Nat.le_refl _) hnals
    exact ⟨fun _ => hok, hcarries⟩

/-! ### What carrying means for each payload -/

variable {nals : List (List UInt8)} {ps : List VideoPayload}

theorem Carries.isEmpty_iff (h : Carries mtu nals ps) : nals = [] ↔ ps = [] := by
  cases h with
  | nil => simp
  | single => simp
  | aggregate hpacket =>
    have hne := hpacket.several
    rename_i group _ _ _ _ _
    cases group with
    | nil => exact absurd hne (by decide)
    | cons n group => simp
  | fragments hlong hrun =>
    have hne := hrun.several
    rename_i fs _ _
    cases fs with
    | nil => exact absurd hne (by decide)
    | cons f fs => simp

theorem Carries.length_le (h : Carries mtu nals ps) : ∀ p ∈ ps, p.bytes.length ≤ mtu := by
  induction h with
  | nil => exact fun p hp => absurd hp List.not_mem_nil
  | single _ hle _ ih =>
    intro p hp
    rcases List.mem_cons.mp hp with rfl | hp
    · exact hle
    · exact ih p hp
  | aggregate _ hle _ ih =>
    intro p hp
    rcases List.mem_cons.mp hp with rfl | hp
    · exact hle
    · exact ih p hp
  | fragments _ hrun _ ih =>
    intro p hp
    rcases List.mem_append.mp hp with hp | hp
    · obtain ⟨k, hk⟩ := List.getElem?_of_mem hp
      exact (hrun.part k p hk).2.1
    · exact ih p hp

/-- A payload is a NAL unit of its own, an aggregation packet of some of the units, or a fragment. -/
def PacketOf (nals : List (List UInt8)) (mtu : Nat) (payload : List UInt8) : Prop :=
  payload ∈ nals ∨ (∃ group, ApPacket group payload ∧ group <:+: nals) ∨
    ∃ n ∈ nals, mtu < n.length ∧ ∃ part count, part < count ∧ 2 ≤ count ∧
      FuPart n part count payload

theorem PacketOf.mono {nals nals' : List (List UInt8)} {payload : List UInt8}
    (h : PacketOf nals mtu payload) (hsub : nals <:+: nals') : PacketOf nals' mtu payload := by
  rcases h with h | ⟨group, hpacket, hgroup⟩ | ⟨n, hn, hlong, hpart⟩
  · exact .inl (hsub.subset h)
  · exact .inr (.inl ⟨group, hpacket, hgroup.trans hsub⟩)
  · exact .inr (.inr ⟨n, hsub.subset hn, hlong, hpart⟩)

theorem Carries.packets (h : Carries mtu nals ps) : ∀ p ∈ ps, PacketOf nals mtu p.bytes := by
  induction h with
  | nil => exact fun p hp => absurd hp List.not_mem_nil
  | @single n nals ps _ _ _ ih =>
    intro p hp
    rcases List.mem_cons.mp hp with rfl | hp
    · exact .inl List.mem_cons_self
    · exact (ih p hp).mono (List.suffix_cons n nals).isInfix
  | @aggregate group nals ps pkt hpacket _ _ ih =>
    intro p hp
    rcases List.mem_cons.mp hp with rfl | hp
    · exact .inr (.inl ⟨group, hpacket, (List.prefix_append group nals).isInfix⟩)
    · exact (ih p hp).mono (List.suffix_append group nals).isInfix
  | @fragments n nals fs ps hlong hrun _ ih =>
    intro p hp
    rcases List.mem_append.mp hp with hp | hp
    · obtain ⟨k, hk⟩ := List.getElem?_of_mem hp
      obtain ⟨hlt, -⟩ := List.getElem?_eq_some_iff.mp hk
      exact .inr (.inr ⟨n, List.mem_cons_self, hlong, k, fs.length, hlt, hrun.several,
        (hrun.part k p hk).1⟩)
    · exact (ih p hp).mono (List.suffix_cons n nals).isInfix

/-- The marker is on the last payload only. -/
theorem Carries.marker (h : Carries mtu nals ps) {k : Nat} {p : VideoPayload}
    (hp : ps[k]? = some p) : p.marker = true ↔ k + 1 = ps.length := by
  have hfirst {nals : List (List UInt8)} {ps : List VideoPayload} {bytes : List UInt8}
      (hrest : Carries mtu nals ps)
      (ih : ∀ {k : Nat} {p : VideoPayload}, ps[k]? = some p → (p.marker = true ↔ k + 1 = ps.length))
      {k : Nat} {p : VideoPayload} (hp : (⟨bytes, nals.isEmpty⟩ :: ps)[k]? = some p) :
      p.marker = true ↔ k + 1 = ps.length + 1 := by
    cases k with
    | zero =>
      obtain rfl := Option.some.inj hp
      rw [List.isEmpty_iff, hrest.isEmpty_iff]
      constructor
      · rintro rfl
        rfl
      · intro hlen
        exact List.length_eq_zero_iff.mp (by omega)
    | succ k => exact (ih hp).trans ⟨fun h => by omega, fun h => by omega⟩
  induction h generalizing k p with
  | nil => simp at hp
  | single _ _ hrest ih => exact hfirst hrest ih hp
  | aggregate _ _ hrest ih => exact hfirst hrest ih hp
  | @fragments n nals fs ps _ hrun hrest ih =>
    rw [List.getElem?_append] at hp
    rw [List.length_append]
    split at hp
    · rw [(hrun.part k p hp).2.2, Bool.and_eq_true, decide_eq_true_eq, List.isEmpty_iff,
        hrest.isEmpty_iff]
      constructor
      · rintro ⟨rfl, hk⟩
        exact hk
      · intro hk
        have hzero : ps.length = 0 := by omega
        exact ⟨List.length_eq_zero_iff.mp hzero, by omega⟩
    · exact (ih hp).trans ⟨fun h => by omega, fun h => by omega⟩

/-! ### The receiver reads the units back -/

theorem rfc7798Units_apBody {group : List (List UInt8)} (hsizes : ∀ n ∈ group, n.length < 2 ^ 16)
    {turns : Nat} (hturns : group.length ≤ turns) :
    rfc7798Units turns (apBody group) = some group := by
  induction group generalizing turns with
  | nil => cases turns <;> rfl
  | cons n group ih =>
    cases turns with
    | zero => exact absurd hturns (by simp)
    | succ turns =>
      have hbody : apBody (n :: group) = u16be (UInt16.ofNat n.length) ++ (n ++ apBody group) := by
        rw [apBody, List.flatMap_cons, ← apBody, List.append_assoc]
      have hsize : (readU16be (apBody (n :: group)) 0).toNat = n.length := by
        rw [hbody, readU16be_u16be]
        exact UInt16.toNat_ofNat_of_lt' (hsizes n List.mem_cons_self)
      have hlen : (u16be (UInt16.ofNat n.length)).length = 2 := rfl
      have hfits : ¬ (apBody (n :: group)).length < 2 + n.length := by
        rw [hbody, List.length_append, List.length_append, hlen]
        omega
      have hrest : (apBody (n :: group)).drop (2 + n.length) = apBody group := by
        rw [hbody, ← List.append_assoc]
        exact List.drop_left' (by rw [List.length_append, hlen])
      have hfirst : ((apBody (n :: group)).drop 2).take n.length = n := by
        rw [hbody, List.drop_left' hlen, List.take_left' rfl]
      have hih := ih (fun x hx => hsizes x (List.mem_cons_of_mem n hx))
        (Nat.le_of_succ_le_succ hturns)
      cases hcons : apBody (n :: group) with
      | nil =>
        rw [hbody] at hcons
        exact absurd hcons (by simp [u16be])
      | cons b bs =>
        rw [rfc7798Units, ← hcons, hsize, if_neg hfits, hrest, hfirst, hih]
        rfl

/-- An aggregation packet received. -/
theorem ApPacket.received {group : List (List UInt8)} {pkt : List UInt8} (h : ApPacket group pkt) :
    rfc7798Push none pkt = some (none, group) := by
  have hbody : pkt.drop 2 = apBody group := h.body
  have hcount : group.length ≤ pkt.length := by
    have hdrop := congrArg List.length hbody
    rw [List.length_drop, apBody_length] at hdrop
    have hsum : group.length ≤ (group.map fun n => h265ApNaluLenSize + n.length).sum := by
      clear h hbody hdrop
      induction group with
      | nil => exact Nat.zero_le _
      | cons n group ih =>
        rw [List.map_cons, List.sum_cons, List.length_cons]
        simp only [h265ApNaluLenSize] at ih ⊢
        omega
    omega
  have hunits := rfc7798Units_apBody (fun n hn => (h.sizes n hn).2) hcount
  have hheader := h.header
  have hseveral := h.several
  simp only [h265ApPayloadHdrSize] at hheader
  rw [rfc7798Push, if_neg (by omega), h.type, if_neg (by decide), if_pos rfl, hbody, hunits]
  simp only [Option.isSome_none, Bool.false_eq_true, if_false]
  rw [if_neg (by omega)]

/-- The two bytes of a NAL unit's header. -/
def nalHeader (nal : List UInt8) : List UInt8 := [byteAt nal 0, byteAt nal 1]

theorem nalHeader_append {nal : List UInt8} (h : 2 ≤ nal.length) :
    nalHeader nal ++ nal.drop h265NalHeaderSize = nal := by
  match nal, h with
  | b :: c :: bs, _ => rfl

variable {part n : Nat} {payload : List UInt8}

/-- The header of the unit put together from a fragment's. -/
theorem FuPart.rebuilt (h : FuPart nal part n payload) {type : UInt8}
    (htype : type = (byteAt payload 2 &&& 0x3F) <<< 1) :
    [(byteAt payload 0 &&& 0x81) ||| type, byteAt payload 1] = nalHeader nal := by
  rw [h.unitType] at htype
  rw [h.header.1, h.header.2, fuNalHdr_rebuilt nal htype]
  rfl

/-- A fragment received behind those before it. -/
theorem FuPart.received (h : FuPart nal part n payload) (hseveral : 2 ≤ n)
    {unfinished : Option (List UInt8)} (hun : unfinished = none ↔ part = 0) :
    rfc7798Push unfinished payload =
      if part + 1 = n then
        some (none, [unfinished.getD (nalHeader nal) ++ payload.drop h265FuHeaderSize])
      else
        some (some (unfinished.getD (nalHeader nal) ++ payload.drop h265FuHeaderSize), []) := by
  have hfilled := h.filled
  simp only [h265FuHeaderSize] at hfilled
  rw [rfc7798Push, if_neg (by omega), h.type, if_neg (by decide), if_neg (by decide), if_pos rfl,
    if_neg (by omega)]
  dsimp only
  rw [h.rebuilt rfl]
  cases unfinished with
  | none =>
    have hpart := hun.mp rfl
    rw [decide_eq_true (h.start.mpr hpart)]
    have hstop : ¬ (byteAt payload 2 &&& 0x40 ≠ 0) := fun hs => by
      have hlast := h.stop.mp hs
      omega
    simp only [hstop, decide_false, Bool.false_eq_true, if_false]
    rw [if_neg (by omega)]
    rfl
  | some unit =>
    have hpart : part ≠ 0 := fun h0 => nomatch hun.mpr h0
    rw [decide_eq_false (fun hs => hpart (h.start.mp hs))]
    dsimp only
    simp only [h.stop, decide_eq_true_eq, Option.getD_some]
    rfl

/-- The fragments of a unit received one after the other. -/
theorem FuRun.received {fs : List VideoPayload} (h : FuRun nal mtu last fs) (hlen : 2 ≤ nal.length)
    (rest : List (List UInt8)) :
    rfc7798Receive none (fs.map VideoPayload.bytes ++ rest) =
      (rfc7798Receive none rest).map ([nal] ++ ·) := by
  -- by induction on the fragments that are left, behind those that were received
  have key (post pre : List VideoPayload) (hfs : pre ++ post = fs) (hne : post ≠ [])
      (unfinished : Option (List UInt8)) (hun : unfinished = none ↔ pre = [])
      (hunit : unfinished.getD (nalHeader nal) =
        nalHeader nal ++ pre.flatMap fun p => p.bytes.drop h265FuHeaderSize) :
      rfc7798Receive unfinished (post.map VideoPayload.bytes ++ rest) =
        (rfc7798Receive none rest).map ([nal] ++ ·) := by
    induction post generalizing pre unfinished with
    | nil => exact absurd rfl hne
    | cons p post ih =>
      have hp : fs[pre.length]? = some p := by
        rw [← hfs, List.getElem?_append_right (Nat.le_refl _), Nat.sub_self]
        rfl
      have hcount : fs.length = pre.length + (post.length + 1) := by
        rw [← hfs, List.length_append, List.length_cons]
      have hpush := @FuPart.received _ _ _ _ (h.part pre.length p hp).1 h.several unfinished
        (hun.trans List.length_eq_zero_iff.symm)
      rw [hunit, List.append_assoc] at hpush
      have hdata : (pre.flatMap fun p => p.bytes.drop h265FuHeaderSize) ++
          p.bytes.drop h265FuHeaderSize =
            (pre ++ [p]).flatMap fun p => p.bytes.drop h265FuHeaderSize := by
        rw [List.flatMap_append, List.flatMap_singleton]
      rw [hdata] at hpush
      rw [List.map_cons, List.cons_append, rfc7798Receive, hpush]
      cases post with
      | nil =>
        have hall : (pre ++ [p]).flatMap (fun p => p.bytes.drop h265FuHeaderSize) =
            nal.drop h265NalHeaderSize := hfs ▸ h.data
        rw [if_pos (by rw [hcount]; rfl), hall, nalHeader_append hlen]
        rfl
      | cons q post =>
        rw [if_neg (by rw [hcount, List.length_cons]; omega)]
        dsimp only
        rw [ih (pre ++ [p]) (by rw [List.append_assoc]; exact hfs) (List.cons_ne_nil _ _) _
          (by simp) rfl]
        cases rfc7798Receive none rest <;> rfl
  have hne : fs ≠ [] := by
    rintro rfl
    exact absurd h.several (by decide)
  exact key fs [] rfl hne none (by simp) (by simp)

/-- **The receiver reads the list back**, if no unit of its own has the type of a payload header. -/
theorem Carries.received (h : Carries mtu nals ps)
    (htypes : ∀ n ∈ nals, n.length ≤ mtu → h265NalType n < 48) (hmtu : 2 ≤ mtu) :
    rfc7798Receive none (ps.map VideoPayload.bytes) = some nals := by
  induction h with
  | nil => rfl
  | @single n nals ps hn hle _ ih =>
    have hpush : rfc7798Push none n = some (none, [n]) := by
      rw [rfc7798Push, if_neg (by omega), if_pos (htypes n List.mem_cons_self hle)]
      rfl
    rw [List.map_cons, rfc7798Receive, hpush]
    dsimp only
    rw [ih fun x hx => htypes x (List.mem_cons_of_mem n hx)]
    rfl
  | @aggregate group nals ps pkt hpacket _ _ ih =>
    rw [List.map_cons, rfc7798Receive, hpacket.received]
    dsimp only
    rw [ih fun x hx => htypes x (List.mem_append_right group hx)]
    rfl
  | @fragments n nals fs ps hlong hrun _ ih =>
    rw [List.map_append, hrun.received (by omega), ih fun x hx => htypes x (List.mem_cons_of_mem n hx)]
    rfl

/-! ### The depacketizer -/

/-- A NAL unit of its own at the depacketizer. -/
theorem h265DepktPush_single (d : NanoH265Depkt) {nal : List UInt8} (hlen : 2 ≤ nal.length)
    (htype : h265NalType nal < 48) (hfits : nal.length ≤ videoNalBufSize) :
    h265DepktPush d nal = (⟨nal, false⟩, .ok, some nal) := by
  rw [h265DepktPush, if_neg (by simp only [h265NalHeaderSize]; omega), if_pos htype,
    if_neg (by omega)]

/-- A fragment at the depacketizer that took those before it. -/
theorem FuPart.pushed (h : FuPart nal part n payload) {d : NanoH265Depkt}
    (hd : part ≠ 0 → d.inProgress = true) {buf : List UInt8}
    (hbuf : (if part = 0 then nalHeader nal else d.buf) ++ payload.drop h265FuHeaderSize = buf)
    (hfits : buf.length ≤ videoNalBufSize) :
    h265DepktPush d payload =
      if part + 1 = n then (⟨buf, false⟩, .ok, some buf) else (⟨buf, true⟩, .ok, none) := by
  have hfilled := h.filled
  simp only [h265FuHeaderSize] at hfilled
  rw [h265DepktPush, if_neg (by simp only [h265NalHeaderSize]; omega), h.type,
    if_neg (by decide), if_neg (by decide), if_pos rfl, h265DepktFu,
    if_neg (by simp only [h265FuHeaderSize]; omega)]
  dsimp only
  rw [h.rebuilt rfl]
  by_cases hpart : part = 0
  · rw [if_pos hpart] at hbuf
    rw [decide_eq_true (h.start.mpr hpart), Bool.not_true, Bool.false_and,
      if_neg Bool.false_ne_true, if_pos rfl, hbuf, if_neg (by omega)]
    simp only [h.stop]
  · rw [if_neg hpart] at hbuf
    rw [decide_eq_false (fun hs => hpart (h.start.mp hs)), hd hpart, Bool.not_true, Bool.and_false,
      if_neg Bool.false_ne_true, if_neg Bool.false_ne_true, hbuf, if_neg (by omega)]
    simp only [h.stop]

/-- The fragments of a unit pushed into a depacketizer in any state: the last one returns it. -/
theorem FuRun.pushed {fs : List VideoPayload} (h : FuRun nal mtu last fs) (hlen : 2 ≤ nal.length)
    (hfits : nal.length ≤ videoNalBufSize) (d : NanoH265Depkt) :
    h265DepktRun d (fs.map VideoPayload.bytes) =
      (⟨nal, false⟩, List.replicate (fs.length - 1) (.ok, none) ++ [(.ok, some nal)]) := by
  have key (post pre : List VideoPayload) (hfs : pre ++ post = fs) (hne : post ≠ [])
      (d : NanoH265Depkt) (hd : pre ≠ [] → d = ⟨nalHeader nal ++
        pre.flatMap fun p => p.bytes.drop h265FuHeaderSize, true⟩) :
      h265DepktRun d (post.map VideoPayload.bytes) =
        (⟨nal, false⟩, List.replicate (post.length - 1) (.ok, none) ++ [(.ok, some nal)]) := by
    induction post generalizing pre d with
    | nil => exact absurd rfl hne
    | cons p post ih =>
      have hp : fs[pre.length]? = some p := by
        rw [← hfs, List.getElem?_append_right (Nat.le_refl _), Nat.sub_self]
        rfl
      have hcount : fs.length = pre.length + (post.length + 1) := by
        rw [← hfs, List.length_append, List.length_cons]
      have hbuf : (if pre.length = 0 then nalHeader nal else d.buf) ++
          p.bytes.drop h265FuHeaderSize =
            nalHeader nal ++ (pre ++ [p]).flatMap fun p => p.bytes.drop h265FuHeaderSize := by
        rw [List.flatMap_append, List.flatMap_singleton, ← List.append_assoc]
        by_cases hpre : pre = []
        · rw [hpre]
          simp
        · rw [if_neg (fun h0 => hpre (List.length_eq_zero_iff.mp h0)), hd hpre]
      have hroom : (nalHeader nal ++
          (pre ++ [p]).flatMap fun p => p.bytes.drop h265FuHeaderSize).length ≤
            videoNalBufSize := by
        have hall := congrArg List.length h.data
        rw [← hfs, List.append_cons, List.flatMap_append, List.length_append,
          List.length_drop] at hall
        rw [List.length_append]
        simp only [nalHeader, h265NalHeaderSize, List.length_cons, List.length_nil] at hall ⊢
        omega
      have hpush := (h.part pre.length p hp).1.pushed (d := d)
        (fun h0 => by rw [hd (fun hpre => h0 (by rw [hpre]; rfl))]) hbuf hroom
      rw [List.map_cons, h265DepktRun, hpush]
      cases post with
      | nil =>
        have hall : (pre ++ [p]).flatMap (fun p => p.bytes.drop h265FuHeaderSize) =
            nal.drop h265NalHeaderSize := hfs ▸ h.data
        rw [if_pos (by rw [hcount]; rfl), hall, nalHeader_append hlen]
        rfl
      | cons q post =>
        rw [if_neg (by rw [hcount, List.length_cons]; omega)]
        dsimp only
        rw [ih (pre ++ [p]) (by rw [List.append_assoc]; exact hfs) (List.cons_ne_nil _ _) _
          fun _ => rfl]
        simp [List.replicate_succ]
  have hne : fs ≠ [] := by
    rintro rfl
    exact absurd h.several (by decide)
  exact key fs [] rfl hne d fun h => absurd rfl h

/-! ### Conformance and round trip -/

/-- **Conformance and round trip.** For NAL units of at least two bytes whose types are not those of
payload headers, every payload fits the MTU and is a unit of its own, an aggregation packet of at
least two or a fragment, the marker is on the last one only, and the receiver of RFC 7798 reads the
list back; the depacketizer returns every unit that is sent alone or in fragments and fits it. -/
theorem h265_round_trip {mtu : Nat} (hmtu : 4 ≤ mtu) (hvideo : mtu ≤ videoMtu)
    {nals : List (List UInt8)} (hnals : ∀ n ∈ nals, 2 ≤ n.length ∧ h265NalType n < 48) :
    let out := h265PacketizeAu nals mtu
    (nals ≠ [] → out.2 = .ok) ∧ Carries mtu nals out.1 ∧
    (∀ p ∈ out.1, p.bytes.length ≤ mtu ∧ PacketOf nals mtu p.bytes) ∧
    (∀ k p, out.1[k]? = some p → (p.marker = true ↔ k + 1 = out.1.length)) ∧
    rfc7798Receive none (out.1.map VideoPayload.bytes) = some nals ∧
    ∀ n ∈ nals, n.length ≤ videoNalBufSize → ∀ d,
      (n.length ≤ mtu → h265DepktPush d n = (⟨n, false⟩, .ok, some n)) ∧
      ∀ last fs, FuRun n mtu last fs → mtu < n.length →
        h265DepktRun d (fs.map VideoPayload.bytes) =
          (⟨n, false⟩, List.replicate (fs.length - 1) (.ok, none) ++ [(.ok, some n)]) := by
  intro out
  obtain ⟨hok, hcarries⟩ := h265PacketizeAu_carries hmtu hvideo fun n hn => (hnals n hn).1
  refine ⟨hok, hcarries, fun p hp => ⟨hcarries.length_le p hp, hcarries.packets p hp⟩,
    fun k p hp => hcarries.marker hp,
    hcarries.received (fun n hn _ => (hnals n hn).2) (by omega), fun n hn hfits d => ⟨fun _ => ?_,
      fun last fs hrun _ => hrun.pushed (hnals n hn).1 hfits d⟩⟩
  exact h265DepktPush_single d (hnals n hn).1 (hnals n hn).2 hfits

/-- Two small units and one of eight bytes, in packets of eleven and of six bytes. -/
theorem h265_round_trip_demo :
    rfc7798Receive none ((h265PacketizeAu [[0x40, 1], [0x42, 1, 7], [0x26, 1, 2, 3, 4, 5, 6, 7]]
      11).1.map VideoPayload.bytes) =
        some [[0x40, 1], [0x42, 1, 7], [0x26, 1, 2, 3, 4, 5, 6, 7]] ∧
      rfc7798Receive none ((h265PacketizeAu [[0x26, 1, 2, 3, 4, 5, 6, 7]] 6).1.map
        VideoPayload.bytes) = some [[0x26, 1, 2, 3, 4, 5, 6, 7]] :=
  ⟨(h265_round_trip (by decide) (by decide) (by decide)).2.2.2.2.1,
    (h265_round_trip (by decide) (by decide) (by decide)).2.2.2.2.1⟩

theorem h265ApUnits_length_le {payload : List UInt8} {turns offset : Nat} {first out : List UInt8}
    (hfirst : first.length ≤ videoNalBufSize)
    (h : h265ApUnits payload turns offset first = .ok out) : out.length ≤ videoNalBufSize := by
  induction turns generalizing offset first with
  | zero =>
    obtain rfl := Except.ok.inj h
    exact hfirst
  | succ turns ih =>
    rw [h265ApUnits] at h
    dsimp only at h
    split_ifs at h with hin hlong hzero hempty hbig
    · obtain rfl := Except.ok.inj h
      exact hfirst
    · refine ih ?_ h
      rw [List.length_take]
      omega
    · exact ih hfirst h
    · obtain rfl := Except.ok.inj h
      exact hfirst

/-- What a fragment completes is no larger than the buffer. -/
theorem h265DepktFu_length_le {d : NanoH265Depkt} {payload out : List UInt8}
    (h : (h265DepktFu d payload).2.2 = some out) : out.length ≤ videoNalBufSize := by
  unfold h265DepktFu at h
  dsimp only at h
  split at h
  · exact nomatch h
  split at h
  · exact nomatch h
  generalize (if decide (byteAt payload 2 &&& 0x80 ≠ 0) = true then _ else _ : List UInt8) = buf at h
  split at h
  · exact nomatch h
  rename_i hroom
  split at h
  · obtain rfl := Option.some.inj h
    exact Nat.le_of_not_gt hroom
  · exact nomatch h

/-- Nothing that the depacketizer returns is larger than its buffer. -/
theorem h265DepktPush_length_le {d : NanoH265Depkt} {payload out : List UInt8}
    (h : (h265DepktPush d payload).2.2 = some out) : out.length ≤ videoNalBufSize := by
  unfold h265DepktPush at h
  dsimp only at h
  split at h
  · exact nomatch h
  split at h
  · split at h
    · exact nomatch h
    · obtain rfl := Option.some.inj h
      omega
  split at h
  · split at h
    · exact nomatch h
    · exact nomatch h
    · rename_i first _ heq
      obtain rfl := Option.some.inj h
      exact h265ApUnits_length_le (Nat.zero_le _) heq
  split at h
  · exact h265DepktFu_length_le h
  · exact nomatch h

/-- A unit whose type is that of an aggregation packet, sent on its own, and a unit that is larger
than the depacketizer's buffer. -/
theorem h265_round_trip_limits :
    h265PacketizeAu [[0x60, 1]] 100 = ([⟨[0x60, 1], true⟩], .ok) ∧
    rfc7798Receive none [[0x60, 1]] = none ∧
    (h265DepktPush {} [0x60, 1]).2 = (.ok, none) ∧
    ∀ d payload, (h265DepktPush d payload).2.2 ≠ some (List.replicate 16385 0x02) := by
  refine ⟨by decide, by decide, by decide, fun d payload h => ?_⟩
  have hle := h265DepktPush_length_le h
  rw [List.length_replicate] at hle
  exact absurd hle (by decide)

end Nanortc.Spec
