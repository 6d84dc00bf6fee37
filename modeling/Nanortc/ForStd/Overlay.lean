import Nanortc.ForStd.Pool

/-!
# Patches written over each other

Patches of several texts arrive in any order, twice or overlapping, and each is written into one buffer
at the offset it was cut from. A cell holds the text of the part that covered it last.

## Key results

- `Overlaid.write`: a further part keeps the relation between the buffer and the parts
- `Overlaid.take_eq`: a text that was the last to cover each of its cells stands in the buffer
-/

namespace Nanortc.ForStd

variable {α ι : Type*}

/-- `len` cells of a text from `off` on. -/
structure Patch (ι : Type*) where
  source : ι
  off : Nat
  len : Nat
deriving Repr, DecidableEq

/-- The part has cell `k`. -/
def Patch.Covers (p : Patch ι) (k : Nat) : Prop := p.off ≤ k ∧ k < p.off + p.len

instance (p : Patch ι) (k : Nat) : Decidable (p.Covers k) := inferInstanceAs (Decidable (_ ∧ _))

/-- The text whose part covered cell `k` last; the newest part stands first. -/
def lastSource (ps : List (Patch ι)) (k : Nat) : Option ι :=
  (ps.find? fun p => p.Covers k).map Patch.source

theorem lastSource_cons (p : Patch ι) (ps : List (Patch ι)) (k : Nat) :
    lastSource (p :: ps) k = if p.Covers k then some p.source else lastSource ps k := by
  unfold lastSource
  rw [List.find?_cons]
  by_cases h : p.Covers k
  · simp [h]
  · simp [h]

/-- A cell that was covered last by a text was covered by a part of it. -/
theorem exists_part_of_lastSource {ps : List (Patch ι)} {k : Nat} {i : ι}
    (h : lastSource ps k = some i) : ∃ p ∈ ps, p.source = i ∧ p.Covers k := by
  obtain ⟨p, hp, hi⟩ := Option.map_eq_some_iff.mp h
  have hcov := List.find?_some (p := fun p : Patch ι => decide (p.Covers k)) hp
  exact ⟨p, List.mem_of_find?_eq_some hp, hi, of_decide_eq_true hcov⟩

/-- Each covered cell of the buffer holds the cell of the text that covered it last. -/
def Overlaid (text : ι → List α) (b : List α) (ps : List (Patch ι)) : Prop :=
  ∀ k i, lastSource ps k = some i → b[k]? = (text i)[k]?

theorem overlaid_nil (text : ι → List α) (b : List α) : Overlaid text b [] := by
  intro k i h
  exact nomatch h

/-- **A further part is written over the others.** -/
theorem Overlaid.write {text : ι → List α} {b : List α} {ps : List (Patch ι)}
    (h : Overlaid text b ps) {p : Patch ι} (hcut : p.off + p.len ≤ (text p.source).length)
    (hroom : p.off + p.len ≤ b.length) :
    Overlaid text (writeAt b p.off (slice (text p.source) p.off p.len)) (p :: ps) := by
  have hlen := length_slice hcut
  intro k i hk
  rw [lastSource_cons] at hk
  rw [getElem?_writeAt b _ p.off k (by omega), hlen]
  by_cases hcov : p.Covers k
  · rw [if_pos hcov] at hk
    obtain rfl := Option.some.inj hk
    obtain ⟨hlo, hhi⟩ := hcov
    rw [if_pos ⟨hlo, hhi⟩, getElem?_slice, if_pos (by omega), Nat.add_sub_cancel' hlo]
  · rw [if_neg hcov] at hk
    exact (if_neg hcov).trans (h k i hk)

/-- **A whole text stands in the buffer** when it was the last to cover each of its cells. -/
theorem Overlaid.take_eq {text : ι → List α} {b : List α} {ps : List (Patch ι)}
    (h : Overlaid text b ps) {i : ι} (hall : ∀ k < (text i).length, lastSource ps k = some i) :
    b.take (text i).length = text i := by
  apply List.ext_getElem?
  intro k
  rw [List.getElem?_take]
  by_cases hk : k < (text i).length
  · rw [if_pos hk]
    exact h k i (hall k hk)
  · rw [if_neg hk, List.getElem?_eq_none (by omega)]

end Nanortc.ForStd
