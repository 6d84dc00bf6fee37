import Mathlib

/-!
# Rings of the latest items

A ring that is written at the number of items so far, modulo its size, holds the latest of them.

## Key results

- `getD_set`: reading a cell after one was written
- `Recent.push`: writing the next item
- `Recent.perm`: the part of the ring in use is a permutation of the latest items
-/

namespace Nanortc.ForStd

variable {α : Type*}

/-- The cell that was written, and the others. -/
theorem getD_set {l : List α} {i : Nat} (hi : i < l.length) (x d : α) (j : Nat) :
    (l.set i x).getD j d = if j = i then x else l.getD j d := by
  rw [List.getD_eq_getElem?_getD, List.getD_eq_getElem?_getD]
  by_cases hij : j = i
  · rw [hij, List.getElem?_set_self hi, if_pos rfl]
    rfl
  · rw [List.getElem?_set_ne (Ne.symm hij), if_neg hij]

/-- The ring holds the latest `size` items of `xs`, each at its index modulo the size. -/
structure Recent (size : Nat) (ring xs : List α) : Prop where
  length : ring.length = size
  item : ∀ i < xs.length, xs.length ≤ i + size → ring[i % size]? = xs[i]?

variable {size : Nat} {ring xs : List α}

/-- Any ring holds no items. -/
theorem Recent.nil (h : ring.length = size) : Recent size ring ([] : List α) :=
  ⟨h, nofun⟩

/-- Items that are less than the size apart have cells of their own. -/
theorem mod_ne_of_lt {size i j : Nat} (hij : i < j) (hj : j < i + size) : i % size ≠ j % size := by
  intro hmod
  have hdvd : size ∣ j - i := (Nat.modEq_iff_dvd' (Nat.le_of_lt hij)).mp hmod
  have hle := Nat.le_of_dvd (by omega) hdvd
  omega

/-- The next item takes the place of the oldest one. -/
theorem Recent.push (h : Recent size ring xs) (hsize : 0 < size) (x : α) :
    Recent size (ring.set (xs.length % size) x) (xs ++ [x]) := by
  refine ⟨by rw [List.length_set, h.length], fun i hi hrecent => ?_⟩
  rw [List.length_append, List.length_singleton] at hi hrecent
  rcases Nat.lt_or_eq_of_le (Nat.le_of_lt_succ hi) with hlt | rfl
  · rw [List.getElem?_set_ne (mod_ne_of_lt hlt (by omega)).symm, h.item i hlt (by omega),
      List.getElem?_append_left hlt]
  · rw [List.getElem?_set_self (by rw [h.length]; exact Nat.mod_lt _ hsize),
      List.getElem?_concat_length]

theorem range'_mod_perm (a size : Nat) :
    ((List.range' a size).map (· % size)).Perm (List.range size) := by
  have h := Nat.multiset_Ico_map_mod a size
  have hico : Multiset.Ico a (a + size) = (List.range' a size : Multiset Nat) := by
    show (List.range' a (a + size - a) : Multiset Nat) = _
    rw [Nat.add_sub_cancel_left]
  rw [hico, Multiset.map_coe] at h
  exact Multiset.coe_eq_coe.mp h

/-- **The part of the ring in use** is a permutation of the latest items. -/
theorem Recent.perm (h : Recent size ring xs) :
    (ring.take (min xs.length size)).Perm (xs.drop (xs.length - size)) := by
  rcases Nat.le_total xs.length size with hle | hle
  · rw [Nat.min_eq_left hle, Nat.sub_eq_zero_of_le hle, List.drop_zero]
    have heq : ring.take xs.length = xs := by
      refine List.ext_getElem? fun i => ?_
      rw [List.getElem?_take]
      split
      · rename_i hi
        have hitem := h.item i hi (by omega)
        rwa [Nat.mod_eq_of_lt (by omega)] at hitem
      · rename_i hi
        exact (List.getElem?_eq_none (Nat.not_lt.mp hi)).symm
    rw [heq]
  · rw [Nat.min_eq_right hle, List.take_of_length_le h.length.le]
    refine (List.map_perm_map_iff (Option.some_injective α)).mp ?_
    have hring : ring.map some = (List.range size).map (ring[·]?) := by
      refine List.ext_getElem (by simp only [List.length_map, List.length_range, h.length])
        fun i hi _ => ?_
      rw [List.length_map] at hi
      rw [List.getElem_map, List.getElem_map, List.getElem_range, List.getElem?_eq_getElem hi]
    have hlatest : (xs.drop (xs.length - size)).map some =
        ((List.range' (xs.length - size) size).map (· % size)).map (ring[·]?) := by
      refine List.ext_getElem ?_ fun i hi _ => ?_
      · simp only [List.length_map, List.length_drop, List.length_range']
        omega
      · rw [List.length_map, List.length_drop] at hi
        have hlt : xs.length - size + i < xs.length := by omega
        simp only [List.getElem_map, List.getElem_drop, List.getElem_range', Nat.one_mul]
        rw [h.item _ hlt (by omega), List.getElem?_eq_getElem hlt]
    rw [hring, hlatest]
    exact ((range'_mod_perm (xs.length - size) size).map _).symm

end Nanortc.ForStd
