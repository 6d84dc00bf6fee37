import Mathlib

/-!
# Reordered lists

A list is reordered where some of its elements, those that `moves` picks, change places among each
other while all others stay where they are. The elements that `keeps` picks keep their order.

## Key results

- `Reordered.filter_eq`: a kind of element that occurs once at most is left as it was
- `exists_reordered`: every order of the elements that move can be had
-/

namespace Nanortc.ForStd

variable {α β : Type}

/-- A list whose moving elements have changed places. -/
structure Reordered (moves keeps : α → Bool) (xs ys : List α) : Prop where
  perm : ys.Perm xs
  stays : ∀ (i : Nat) (x : α), xs[i]? = some x → moves x = false → ys[i]? = some x
  order : ys.filter keeps = xs.filter keeps

theorem eq_of_perm_of_length_le_one {xs ys : List α} (h : ys.Perm xs) (hlength : xs.length ≤ 1) :
    ys = xs := by
  match xs with
  | [] => exact h.eq_nil
  | [x] => exact List.perm_singleton.mp h
  | _ :: _ :: _ => simp at hlength

/-- A kind of element that occurs once at most is left as it was. -/
theorem Reordered.filter_eq {moves keeps : α → Bool} {xs ys : List α}
    (h : Reordered moves keeps xs ys) {p : α → Bool} (hp : (xs.filter p).length ≤ 1) :
    ys.filter p = xs.filter p :=
  eq_of_perm_of_length_le_one (h.perm.filter p) hp

/-- A kind of element that keeps its order is left as it was. -/
theorem Reordered.filterMap_eq {moves keeps : α → Bool} {xs ys : List α}
    (h : Reordered moves keeps xs ys) {f : α → Option β} (hf : ∀ x, (f x).isSome → keeps x = true) :
    ys.filterMap f = xs.filterMap f := by
  have hkept (zs : List α) : (zs.filter keeps).filterMap f = zs.filterMap f := by
    rw [List.filterMap_filter]
    refine List.filterMap_congr fun z _ => ?_
    cases hz : f z with
    | none => exact ite_self none
    | some b => rw [hf z (by rw [hz]; rfl), if_pos rfl]
  rw [← hkept, h.order, hkept]

/-- Where every element moves, any order is one. -/
theorem reordered_of_all {moves keeps : α → Bool} {xs ys : List α}
    (hall : ∀ x ∈ xs, moves x = true) (hperm : ys.Perm xs)
    (horder : ys.filter keeps = xs.filter keeps) : Reordered moves keeps xs ys := by
  refine ⟨hperm, fun i x hi hx => ?_, horder⟩
  rw [hall x (List.mem_of_getElem? hi)] at hx
  exact nomatch hx

/-! ### Folds -/

/-- A fold passes over elements that do nothing. -/
theorem foldl_filter_of_idle {f : β → α → β} {p : α → Bool} (h : ∀ b a, p a = false → f b a = b)
    (b : β) (xs : List α) : (xs.filter p).foldl f b = xs.foldl f b := by
  induction xs generalizing b with
  | nil => rfl
  | cons x xs ih =>
    cases hx : p x with
    | true =>
      rw [List.filter_cons_of_pos hx]
      exact ih (f b x)
    | false =>
      rw [List.filter_cons_of_neg (by simp [hx]), ih, List.foldl_cons, h b x hx]

/-- A fold in which every element replaces the value or leaves it: the last value given. -/
theorem foldl_getD {f : α → Option β} (b : β) (xs : List α) :
    xs.foldl (fun b a => (f a).getD b) b = ((xs.filterMap f).getLast?).getD b := by
  induction xs generalizing b with
  | nil => rfl
  | cons x xs ih =>
    rw [List.foldl_cons, ih]
    cases hx : f x with
    | none =>
      rw [List.filterMap_cons_none hx]
      rfl
    | some c =>
      rw [List.filterMap_cons_some hx, List.getLast?_cons]
      cases (xs.filterMap f).getLast? <;> rfl

/-! ### Every order -/

/-- A list with other elements in the places of those that move. -/
def refill (moves : α → Bool) : List α → List α → List α
  | [], _ => []
  | x :: xs, as =>
    if moves x then
      match as with
      | a :: as => a :: refill moves xs as
      | [] => x :: refill moves xs []
    else x :: refill moves xs as

variable {moves keeps : α → Bool}

theorem filter_refill {xs as : List α} (hlength : as.length = (xs.filter moves).length)
    (has : ∀ a ∈ as, moves a = true) : (refill moves xs as).filter moves = as := by
  induction xs generalizing as with
  | nil =>
    rw [List.length_eq_zero_iff.mp hlength]
    rfl
  | cons x xs ih =>
    unfold refill
    by_cases hx : moves x = true
    · rw [List.filter_cons_of_pos hx, List.length_cons] at hlength
      match as with
      | a :: as =>
        have hrest := ih (Nat.succ.inj hlength) fun b hb => has b (List.mem_cons_of_mem a hb)
        rw [if_pos hx]
        dsimp only
        rw [List.filter_cons_of_pos (has a List.mem_cons_self), hrest]
    · rw [List.filter_cons_of_neg hx] at hlength
      rw [if_neg hx, List.filter_cons_of_neg hx, ih hlength has]

theorem filter_not_refill {xs as : List α} (hlength : as.length = (xs.filter moves).length)
    (has : ∀ a ∈ as, moves a = true) :
    (refill moves xs as).filter (!moves ·) = xs.filter (!moves ·) := by
  induction xs generalizing as with
  | nil => rfl
  | cons x xs ih =>
    unfold refill
    by_cases hx : moves x = true
    · rw [List.filter_cons_of_pos hx, List.length_cons] at hlength
      match as with
      | a :: as =>
        have hrest := ih (Nat.succ.inj hlength) fun b hb => has b (List.mem_cons_of_mem a hb)
        rw [if_pos hx]
        dsimp only
        rw [List.filter_cons_of_neg (by simp [has a List.mem_cons_self]), hrest,
          List.filter_cons_of_neg (by simp [hx])]
    · have hpos : (!moves x) = true := by simp [hx]
      rw [List.filter_cons_of_neg hx] at hlength
      rw [if_neg hx]
      simp only [List.filter_cons, hpos, if_true, ih hlength has]

theorem refill_stays {xs as : List α} {i : Nat} {x : α} (h : xs[i]? = some x)
    (hx : moves x = false) : (refill moves xs as)[i]? = some x := by
  induction xs generalizing as i with
  | nil => exact nomatch h
  | cons y xs ih =>
    unfold refill
    cases i with
    | zero =>
      obtain rfl : y = x := Option.some.inj h
      rw [if_neg (by simp [hx])]
      rfl
    | succ i =>
      split
      · split
        · exact ih h
        · exact ih h
      · exact ih h

/-- Every order of the elements that move can be had in which those that keep their order do so. -/
theorem exists_reordered {xs as : List α} (hkeeps : ∀ x, keeps x = true → moves x = true)
    (hperm : as.Perm (xs.filter moves)) (horder : as.filter keeps = xs.filter keeps) :
    ∃ ys, Reordered moves keeps xs ys ∧ ys.filter moves = as := by
  have has : ∀ a ∈ as, moves a = true := fun a ha =>
    (List.mem_filter.mp (hperm.mem_iff.mp ha)).2
  have hmoved := filter_refill hperm.length_eq has
  refine ⟨refill moves xs as, ⟨?_, fun i x hi hx => refill_stays hi hx, ?_⟩, hmoved⟩
  · have hsplit := List.filter_append_perm moves (refill moves xs as)
    rw [hmoved, filter_not_refill hperm.length_eq has] at hsplit
    exact hsplit.symm.trans ((hperm.append_right _).trans (List.filter_append_perm moves xs))
  · have hkept (zs : List α) : (zs.filter moves).filter keeps = zs.filter keeps := by
      rw [List.filter_filter]
      refine List.filter_congr fun z _ => ?_
      cases hz : keeps z with
      | false => rfl
      | true => rw [hkeeps z hz]; rfl
    rw [← hkept, hmoved, horder]

end Nanortc.ForStd
