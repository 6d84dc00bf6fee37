import Mathlib
import Nanortc.Native.Media

/-!
# Annex B framing

A byte string is cut at its start codes `00 00 01` and `00 00 00 01`, the leftmost first and none
inside another. The scanner visits the ranges between them, without the zero bytes at their end.
A start code with nothing behind it begins no range.

Without a start code the scanner stops two bytes before the end of the string and takes what is left
for a NAL unit.

## Key results

- `annexBSeek_codes`: where a scan stops
- `annexBIterate_units`: the visits from a start code on are the ranges
- `annexBIterate_exact_iff`: the strings whose visits are the ranges
-/

namespace Nanortc.Spec

open Nanortc.ForStd Nanortc.Native

/-- Length of the start code in front of a byte string. -/
def codeLength (bs : List UInt8) : Option Nat :=
  if [0, 0, 1] <+: bs then some 3
  else if [0, 0, 0, 1] <+: bs then some 4
  else none

/-- The start codes behind the first `skip` bytes, each with its offset and its length; the string
itself is at offset `i`. -/
def startCodes : (skip i : Nat) → List UInt8 → List (Nat × Nat)
  | _, _, [] => []
  | skip + 1, i, _ :: bs => startCodes skip (i + 1) bs
  | 0, i, b :: bs =>
    match codeLength (b :: bs) with
    | some n => (i, n) :: startCodes (n - 1) (i + 1) bs
    | none => startCodes 0 (i + 1) bs

/-- The ranges between start codes, the last one up to the end. -/
def codeRanges (size : Nat) : List (Nat × Nat) → List (Nat × Nat)
  | [] => []
  | [(i, n)] => if i + n < size then [(i + n, size)] else []
  | (i, n) :: (i', n') :: codes => (i + n, i') :: codeRanges size ((i', n') :: codes)

/-- The bytes of a range without the zero bytes at its end, with the end of the range. -/
def rangeUnit (data : List UInt8) (range : Nat × Nat) : List UInt8 × Nat :=
  ((((data.drop range.1).take (range.2 - range.1)).reverse.dropWhile (· = 0)).reverse, range.2)

/-- The NAL units of a byte string. -/
def annexBUnits (data : List UInt8) : List (List UInt8 × Nat) :=
  (codeRanges data.length (startCodes 0 0 data)).map (rangeUnit data)

/-- The visits of the scanner from an offset on, until it finds no NAL unit; nothing if that takes
more than `turns` calls. -/
def annexBIterate (data : List UInt8) : (turns offset : Nat) → Option (List (List UInt8 × Nat))
  | 0, _ => none
  | turns + 1, offset =>
    match nanoAnnexBFindNal data offset with
    | none => some []
    | some (nal, next) => (annexBIterate data turns next).map ((nal, next) :: ·)

/-! ### Start codes -/

theorem codeLength_pos {bs : List UInt8} {n : Nat} (h : codeLength bs = some n) :
    1 ≤ n ∧ n ≤ bs.length := by
  unfold codeLength at h
  split at h
  · rename_i hcode
    cases h
    exact ⟨by decide, hcode.length_le⟩
  split at h
  · rename_i hcode
    cases h
    exact ⟨by decide, hcode.length_le⟩
  · exact nomatch h

theorem startCodes_skip (n i : Nat) (bs : List UInt8) :
    startCodes n i bs = startCodes 0 (i + n) (bs.drop n) := by
  induction n generalizing i bs with
  | zero => rfl
  | succ n ih =>
    cases bs with
    | nil => rfl
    | cons b bs =>
      show startCodes n (i + 1) bs = startCodes 0 (i + (n + 1)) (bs.drop n)
      rw [ih, Nat.add_right_comm, Nat.add_assoc]

/-- A string has start codes if `00 00 01` occurs in it. -/
theorem startCodes_eq_nil_iff (i : Nat) (bs : List UInt8) :
    startCodes 0 i bs = [] ↔ ¬[0, 0, 1] <:+: bs := by
  induction bs generalizing i with
  | nil => exact iff_of_true rfl (by decide)
  | cons b bs ih =>
    rw [List.infix_cons_iff, not_or, ← ih (i + 1)]
    show (match codeLength (b :: bs) with
      | some n => (i, n) :: startCodes (n - 1) (i + 1) bs
      | none => startCodes 0 (i + 1) bs) = [] ↔ _
    unfold codeLength
    by_cases h3 : [0, 0, 1] <+: b :: bs
    · rw [if_pos h3]
      exact iff_of_false nofun fun h => h.1 h3
    rw [if_neg h3]
    by_cases h4 : [0, 0, 0, 1] <+: b :: bs
    · rw [if_pos h4]
      -- the three bytes behind the first one are a start code of their own
      have hinside : [0, 0, 1] <:+: bs := (List.cons_prefix_cons.mp h4).2.isInfix
      refine iff_of_false nofun fun h => ?_
      exact (ih (i + 1)).mp h.2 hinside
    · rw [if_neg h4]
      exact (and_iff_right h3).symm

/-! ### The scan -/

/-- The test of the scanner is that for a start code in front of the rest. -/
theorem annexBStartCode_eq {data : List UInt8} {i : Nat} (h : i + 2 < data.length) :
    annexBStartCode data i = codeLength (data.drop i) := by
  have hrest : data.drop i = byteAt data i :: byteAt data (i + 1) :: byteAt data (i + 2) ::
      data.drop (i + 3) := by
    rw [drop_eq_byteAt_cons (by omega), drop_eq_byteAt_cons (by omega : i + 1 < data.length),
      drop_eq_byteAt_cons h]
  have hfourth : [1] <+: data.drop (i + 3) ↔ i + 3 < data.length ∧ byteAt data (i + 3) = 1 := by
    by_cases hlt : i + 3 < data.length
    · rw [drop_eq_byteAt_cons hlt, List.cons_prefix_cons, and_iff_left List.nil_prefix,
        and_iff_right hlt, eq_comm]
    · rw [List.drop_eq_nil_of_le (Nat.not_lt.mp hlt)]
      exact iff_of_false (by decide) fun h => hlt h.1
  unfold annexBStartCode codeLength
  simp only [hrest, List.cons_prefix_cons, List.nil_prefix, and_true, hfourth]
  generalize byteAt data i = a, byteAt data (i + 1) = b, byteAt data (i + 2) = c
  by_cases ha : a = 0
  · by_cases hb : b = 0
    · subst ha hb
      have hzeros : ¬((0 : UInt8) ≠ 0 ∨ (0 : UInt8) ≠ 0) := by decide
      rw [if_neg hzeros]
      by_cases hc : c = 1
      · rw [if_pos hc, if_pos ⟨rfl, rfl, hc.symm⟩]
      · have hthree : ¬((0 : UInt8) = 0 ∧ (0 : UInt8) = 0 ∧ 1 = c) := fun h => hc h.2.2.symm
        rw [if_neg hc, if_neg hthree]
        refine if_congr ?_ rfl rfl
        constructor
        · exact fun ⟨hlt, hc, hd⟩ => ⟨rfl, rfl, hc.symm, hlt, hd⟩
        · exact fun ⟨_, _, hc, hlt, hd⟩ => ⟨hlt, hc.symm, hd⟩
    · rw [if_pos (.inr hb), if_neg fun h => hb h.2.1.symm, if_neg fun h => hb h.2.1.symm]
  · rw [if_pos (.inl ha), if_neg fun h => ha h.1.symm, if_neg fun h => ha h.1.symm]

/-- The start codes from an offset on. -/
def codesFrom (data : List UInt8) (i : Nat) : List (Nat × Nat) := startCodes 0 i (data.drop i)

section

variable {data : List UInt8} {i n : Nat}

theorem codesFrom_some (h : i + 2 < data.length) (hcode : annexBStartCode data i = some n) :
    codesFrom data i = (i, n) :: codesFrom data (i + n) := by
  rw [annexBStartCode_eq h] at hcode
  have hpos := (codeLength_pos hcode).1
  unfold codesFrom
  rw [drop_eq_byteAt_cons (by omega)] at hcode ⊢
  show (match codeLength (byteAt data i :: data.drop (i + 1)) with
    | some n => (i, n) :: startCodes (n - 1) (i + 1) (data.drop (i + 1))
    | none => startCodes 0 (i + 1) (data.drop (i + 1))) = _
  have hnext : i + 1 + (n - 1) = i + n := by omega
  rw [hcode]
  dsimp only
  rw [startCodes_skip, List.drop_drop, hnext]

theorem codesFrom_none (h : i + 2 < data.length) (hcode : annexBStartCode data i = none) :
    codesFrom data i = codesFrom data (i + 1) := by
  rw [annexBStartCode_eq h] at hcode
  unfold codesFrom
  conv_lhs => rw [drop_eq_byteAt_cons (by omega)]
  rw [drop_eq_byteAt_cons (by omega)] at hcode
  show (match codeLength (byteAt data i :: data.drop (i + 1)) with
    | some n => (i, n) :: startCodes (n - 1) (i + 1) (data.drop (i + 1))
    | none => startCodes 0 (i + 1) (data.drop (i + 1))) = _
  rw [hcode]

/-- Two bytes hold no start code. -/
theorem codesFrom_end (h : data.length ≤ i + 2) : codesFrom data i = [] := by
  rw [codesFrom, startCodes_eq_nil_iff]
  intro hcon
  have hlen := hcon.length_le
  rw [List.length_drop] at hlen
  exact absurd hlen (by show ¬3 ≤ _; omega)

end

/-- **A scan stops at the first start code**, or two bytes before the end. -/
theorem annexBSeek_codes (data : List UInt8) (turns i : Nat) (h : data.length ≤ i + turns + 2) :
    i ≤ annexBSeek data turns i ∧
      codesFrom data i = codesFrom data (annexBSeek data turns i) ∧
      (annexBSeek data turns i + 2 < data.length →
        ∃ n, annexBStartCode data (annexBSeek data turns i) = some n) ∧
      (i < data.length → annexBSeek data turns i < data.length) := by
  induction turns generalizing i with
  | zero => exact ⟨Nat.le_refl i, rfl, fun hlt => absurd hlt (Nat.not_lt.mpr h), id⟩
  | succ turns ih =>
    unfold annexBSeek
    by_cases hlt : i + 2 < data.length
    · rw [if_pos hlt]
      cases hcode : annexBStartCode data i with
      | some n => exact ⟨Nat.le_refl i, rfl, fun _ => ⟨n, hcode⟩, id⟩
      | none =>
        obtain ⟨hle, hcodes, hfound, hinside⟩ := ih (i + 1) (by omega)
        exact ⟨Nat.le_trans (Nat.le_succ i) hle, (codesFrom_none hlt hcode).trans hcodes, hfound,
          fun _ => hinside (by omega)⟩
    · rw [if_neg hlt]
      exact ⟨Nat.le_refl i, rfl, fun hlt' => absurd hlt' hlt, id⟩

section

variable {data : List UInt8} {i j n : Nat} {codes : List (Nat × Nat)}
  (h : codesFrom data i = (j, n) :: codes)
include h

/-- The first start code lies where the scan stops. -/
theorem codesFrom_head : i ≤ j ∧ j + 2 < data.length ∧ annexBStartCode data j = some n ∧
    codes = codesFrom data (j + n) := by
  obtain ⟨hle, hcodes, hfound, -⟩ := annexBSeek_codes data data.length i (by omega)
  have hlt : annexBSeek data data.length i + 2 < data.length := by
    by_contra hge
    rw [hcodes, codesFrom_end (Nat.not_lt.mp hge)] at h
    exact nomatch h
  obtain ⟨m, hm⟩ := hfound hlt
  rw [hcodes, codesFrom_some hlt hm] at h
  cases h
  exact ⟨hle, hlt, hm, rfl⟩

/-- The start codes are the same from the first one on. -/
theorem codesFrom_code : codesFrom data j = (j, n) :: codes := by
  obtain ⟨-, hlt, hcode, hrest⟩ := codesFrom_head h
  rw [codesFrom_some hlt hcode, hrest]

theorem codesFrom_bounds : 1 ≤ n ∧ j + n ≤ data.length := by
  obtain ⟨-, hlt, hcode, -⟩ := codesFrom_head h
  rw [annexBStartCode_eq hlt] at hcode
  obtain ⟨hpos, hlen⟩ := codeLength_pos hcode
  rw [List.length_drop] at hlen
  omega

end

/-! ### One call -/

/-- A call returns the range behind a start code. -/
theorem findNal_code {data : List UInt8} {i j n : Nat} {codes : List (Nat × Nat)}
    (h : codesFrom data i = (j, n) :: codes) : nanoAnnexBFindNal data i =
      if j + n < data.length then
        some (rangeUnit data (j + n, (codes.head?.map (·.1)).getD data.length))
      else none := by
  obtain ⟨-, hlt, hcode, hrest⟩ := codesFrom_head h
  have hseek : annexBSeek data data.length i = j := by
    obtain ⟨-, hcodes, hfound, -⟩ := annexBSeek_codes data data.length i (by omega)
    by_cases hin : annexBSeek data data.length i + 2 < data.length
    · obtain ⟨m, hm⟩ := hfound hin
      rw [hcodes, codesFrom_some hin hm] at h
      cases h
      rfl
    · rw [hcodes, codesFrom_end (Nat.not_lt.mp hin)] at h
      exact nomatch h
  unfold nanoAnnexBFindNal
  dsimp only
  rw [hseek, if_pos hlt, hcode, Option.getD_some]
  by_cases hge : j + n ≥ data.length
  · rw [if_pos hge, if_neg (Nat.not_lt.mpr hge)]
  rw [if_neg hge, if_pos (Nat.not_le.mp hge)]
  -- the end of the range
  obtain ⟨-, hcodes', hfound', -⟩ := annexBSeek_codes data data.length (j + n) (by omega)
  revert hcodes' hfound'
  generalize annexBSeek data data.length (j + n) = e
  intro hcodes' hfound'
  rw [hrest, hcodes']
  by_cases he : e + 2 < data.length
  · obtain ⟨m', hm'⟩ := hfound' he
    rw [if_neg (Nat.not_le.mpr he), codesFrom_some he hm']
    rfl
  · rw [if_pos (Nat.not_lt.mp he), codesFrom_end (Nat.not_lt.mp he)]
    rfl

/-- A call without a start code to come returns what the scan left over. -/
theorem findNal_leftover {data : List UInt8} {i : Nat} (h : codesFrom data i = [])
    (hlt : i < data.length) : ∃ nal, nanoAnnexBFindNal data i = some (nal, data.length) := by
  obtain ⟨-, hcodes, hfound, hinside⟩ := annexBSeek_codes data data.length i (by omega)
  have hinside := hinside hlt
  unfold nanoAnnexBFindNal
  dsimp only
  revert hcodes hfound hinside
  generalize annexBSeek data data.length i = k
  intro hcodes hfound hinside
  have hge : ¬k + 2 < data.length := by
    intro hlt
    obtain ⟨m, hm⟩ := hfound hlt
    rw [hcodes, codesFrom_some hlt hm] at h
    exact nomatch h
  rw [if_neg hge, if_neg (Nat.not_le.mpr hinside)]
  obtain ⟨hle, -, -, -⟩ := annexBSeek_codes data data.length k (by omega)
  rw [if_pos (by omega)]
  exact ⟨_, rfl⟩

theorem findNal_end (data : List UInt8) : nanoAnnexBFindNal data data.length = none := by
  obtain ⟨hle, -, -, -⟩ := annexBSeek_codes data data.length data.length (by omega)
  unfold nanoAnnexBFindNal
  dsimp only
  revert hle
  generalize annexBSeek data data.length data.length = k
  intro hle
  rw [if_neg (by omega : ¬k + 2 < data.length), if_pos hle]

/-! ### All calls -/

/-- **From a start code on** the visits are the ranges. -/
theorem annexBIterate_units (data : List UInt8) (turns i : Nat) (hturns : data.length < i + turns)
    (h : i = data.length ∨ codesFrom data i ≠ []) : annexBIterate data turns i =
      some ((codeRanges data.length (codesFrom data i)).map (rangeUnit data)) := by
  induction turns generalizing i with
  | zero =>
    rcases h with rfl | h
    · omega
    · exact absurd (codesFrom_end (by omega)) h
  | succ turns ih =>
    unfold annexBIterate
    rcases h with rfl | h
    · rw [findNal_end, codesFrom_end (by omega)]
      rfl
    obtain ⟨⟨j, n⟩, codes, hcodes⟩ := List.exists_cons_of_ne_nil h
    obtain ⟨hle, -, -, hrest⟩ := codesFrom_head hcodes
    have hbounds := codesFrom_bounds hcodes
    rw [findNal_code hcodes, hcodes]
    by_cases hlt : j + n < data.length
    · rw [if_pos hlt]
      dsimp only
      cases codes with
      | nil =>
        -- the last range ends the string, and the next call finds nothing
        show (annexBIterate data turns data.length).map _ = _
        rw [ih data.length (by omega) (.inl rfl), codesFrom_end (Nat.le_add_right _ 2)]
        show some _ = some (List.map _ (if j + n < data.length then _ else []))
        rw [if_pos hlt]
        rfl
      | cons code codes =>
        obtain ⟨j', n'⟩ := code
        have hnext : codesFrom data j' = (j', n') :: codes := codesFrom_code hrest.symm
        have hle' := (codesFrom_head hrest.symm).1
        show (annexBIterate data turns j').map _ = _
        rw [ih j' (by omega) (.inr (hnext ▸ List.cons_ne_nil _ _)), hnext]
        rfl
    · rw [if_neg hlt, hrest, codesFrom_end (by omega)]
      show some [] = some (List.map _ (if j + n < data.length then _ else []))
      rw [if_neg hlt]
      rfl

/-- A call moves the offset on, to the end of the string at most. -/
theorem findNal_advances {data nal : List UInt8} {i next : Nat}
    (h : nanoAnnexBFindNal data i = some (nal, next)) (hi : i ≤ data.length) :
    i < next ∧ next ≤ data.length := by
  rcases Nat.lt_or_eq_of_le hi with hlt | rfl
  · cases hcodes : codesFrom data i with
    | nil =>
      obtain ⟨nal', hfind⟩ := findNal_leftover hcodes hlt
      rw [hfind] at h
      cases h
      exact ⟨hlt, Nat.le_refl _⟩
    | cons code codes =>
      obtain ⟨j, n⟩ := code
      obtain ⟨hle, -, -, hrest⟩ := codesFrom_head hcodes
      have hbounds := codesFrom_bounds hcodes
      rw [findNal_code hcodes] at h
      split at h
      · cases h
        show i < (codes.head?.map (·.1)).getD data.length ∧
          (codes.head?.map (·.1)).getD data.length ≤ data.length
        cases codes with
        | nil => exact ⟨hlt, Nat.le_refl _⟩
        | cons code' codes' =>
          have hle' := (codesFrom_head hrest.symm).1
          have hbounds' := codesFrom_bounds hrest.symm
          show i < code'.1 ∧ code'.1 ≤ data.length
          omega
      · exact nomatch h
  · rw [findNal_end] at h
    exact nomatch h

/-- **The visits end.** -/
theorem annexBIterate_terminates (data : List UInt8) (turns i : Nat) (hi : i ≤ data.length)
    (hturns : data.length < i + turns) : (annexBIterate data turns i).isSome := by
  induction turns generalizing i with
  | zero => omega
  | succ turns ih =>
    unfold annexBIterate
    cases hfind : nanoAnnexBFindNal data i with
    | none => rfl
    | some found =>
      obtain ⟨nal, next⟩ := found
      obtain ⟨hlt, hle⟩ := findNal_advances hfind hi
      dsimp only
      rw [Option.isSome_map]
      exact ih next hle (by omega)

theorem codesFrom_zero_eq_nil_iff (data : List UInt8) :
    codesFrom data 0 = [] ↔ ¬[0, 0, 1] <:+: data := startCodes_eq_nil_iff 0 data

/-- **The scanner is exact** on the strings with a start code and on the empty one: there, and
nowhere else, its visits are the ranges between start codes. They end for every string. -/
theorem annexBIterate_exact_iff (data : List UInt8) :
    (∃ units, annexBIterate data (data.length + 1) 0 = some units) ∧
      (annexBIterate data (data.length + 1) 0 = some (annexBUnits data) ↔
        data = [] ∨ [0, 0, 1] <:+: data) := by
  refine ⟨Option.isSome_iff_exists.mp
    (annexBIterate_terminates data _ 0 (Nat.zero_le _) (by omega)), ?_, ?_⟩
  · intro h
    by_contra hnot
    rw [not_or] at hnot
    have hnone := (codesFrom_zero_eq_nil_iff data).mpr hnot.2
    obtain ⟨nal, hfind⟩ := findNal_leftover hnone (List.length_pos_of_ne_nil hnot.1)
    have hunits : annexBUnits data = [] := by
      show (codeRanges data.length (codesFrom data 0)).map (rangeUnit data) = []
      rw [hnone]
      rfl
    rw [hunits] at h
    unfold annexBIterate at h
    rw [hfind] at h
    exact (Option.map_eq_some_iff.mp h).elim fun _ hcon => nomatch hcon.2
  · intro h
    refine annexBIterate_units data _ 0 (by omega) ?_
    rcases h with rfl | h
    · exact .inl rfl
    · exact .inr fun hnone => (codesFrom_zero_eq_nil_iff data).mp hnone h

/-- Bytes without a start code: the last two of them are taken for a NAL unit. -/
theorem annexBIterate_leftover : annexBUnits [0xAA, 0xBB, 0xCC] = [] ∧
    annexBIterate [0xAA, 0xBB, 0xCC] 4 0 = some [([0xBB, 0xCC], 3)] := by
  decide +kernel

end Nanortc.Spec
