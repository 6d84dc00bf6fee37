import Mathlib

/-!
# Parity

A parity collects elements with an operation that does not care about their order and that an
element undoes by being collected again, as exclusive or does. The parity of a group and all of its
members but one give that one back.
-/

namespace Nanortc.ForStd

variable {α β : Type*} {f : β → α → β}

/-- Collecting an element first or last makes no difference. -/
theorem foldl_collect (hcomm : ∀ s a b, f (f s a) b = f (f s b) a) (l : List α) (s : β) (a : α) :
    l.foldl f (f s a) = f (l.foldl f s) a := by
  induction l generalizing s with
  | nil => rfl
  | cons b l ih => rw [List.foldl_cons, List.foldl_cons, hcomm, ih]

/-- Elements collected twice leave no trace. -/
theorem foldl_twice (hcomm : ∀ s a b, f (f s a) b = f (f s b) a) (htwice : ∀ s a, f (f s a) a = s)
    (l : List α) (s : β) : l.foldl f (l.foldl f s) = s := by
  induction l generalizing s with
  | nil => rfl
  | cons a l ih =>
    rw [List.foldl_cons, List.foldl_cons, foldl_collect hcomm l s a, htwice, ih]

/-- **The parity of a group and its other members** give the missing one. -/
theorem foldl_missing (hcomm : ∀ s a b, f (f s a) b = f (f s b) a)
    (htwice : ∀ s a, f (f s a) a = s) {group rest : List α} {a : α}
    (h : group.Perm (a :: rest)) (s : β) : rest.foldl f (group.foldl f s) = f s a := by
  have hgroup : group.foldl f s = rest.foldl f (f s a) :=
    h.foldl_eq' (fun x _ y _ z => hcomm z x y) s
  rw [hgroup, foldl_twice hcomm htwice]

/-- The order of the members makes no difference. -/
theorem foldl_perm (hcomm : ∀ s a b, f (f s a) b = f (f s b) a) {l l' : List α} (h : l.Perm l')
    (s : β) : l.foldl f s = l'.foldl f s :=
  h.foldl_eq' (fun x _ y _ z => hcomm z x y) s

end Nanortc.ForStd
