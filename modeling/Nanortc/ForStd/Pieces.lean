import Mathlib

/-!
# Items cut into pieces

A list of items is cut into pieces that travel one by one. Each piece carries the number of its
item and its own number within the item. The pieces of an item stand together, so a piece is
followed by the next one of its item, and the last one by the first piece of the next item.

## Key results

- `pieces_getElem?`: what a piece says about its item
- `pieces_next`: the piece behind a piece
-/

namespace Nanortc.ForStd

variable {α β : Type*}

/-- A piece with the numbers that place it. -/
structure Piece (β : Type*) where
  item : Nat
  part : Nat
  value : β
deriving Repr, DecidableEq

/-- The pieces of a list of items whose first one has the number `k`. -/
def piecesFrom (cut : α → List β) : (k : Nat) → List α → List (Piece β)
  | _, [] => []
  | k, x :: xs => (cut x).mapIdx (fun j y => ⟨k, j, y⟩) ++ piecesFrom cut (k + 1) xs

/-- The pieces of a list of items. -/
def pieces (cut : α → List β) (xs : List α) : List (Piece β) := piecesFrom cut 0 xs

variable {cut : α → List β}

/-- A piece of the first item, or one of the items behind it. -/
theorem piecesFrom_cons_getElem? (k : Nat) (x : α) (xs : List α) (p : Nat) :
    (piecesFrom cut k (x :: xs))[p]? =
      if p < (cut x).length then (cut x)[p]?.map fun y => ⟨k, p, y⟩
      else (piecesFrom cut (k + 1) xs)[p - (cut x).length]? := by
  rw [piecesFrom, List.getElem?_append, List.length_mapIdx, List.getElem?_mapIdx]

theorem piecesFrom_getElem? {k : Nat} {xs : List α} {p : Nat} {q : Piece β}
    (h : (piecesFrom cut k xs)[p]? = some q) :
    ∃ n x, q.item = k + n ∧ xs[n]? = some x ∧ (cut x)[q.part]? = some q.value := by
  induction xs generalizing k p with
  | nil => simp [piecesFrom] at h
  | cons x xs ih =>
    rw [piecesFrom_cons_getElem?] at h
    split at h
    · obtain ⟨y, hy, rfl⟩ := Option.map_eq_some_iff.mp h
      exact ⟨0, x, rfl, rfl, hy⟩
    · obtain ⟨n, y, hitem, hx, hpart⟩ := ih h
      exact ⟨n + 1, y, by omega, hx, hpart⟩

/-- The first piece of all is the first one of the first item. -/
theorem piecesFrom_zero {k : Nat} {xs : List α} (hne : ∀ x ∈ xs, cut x ≠ []) {q : Piece β}
    (h : (piecesFrom cut k xs)[0]? = some q) : q.item = k ∧ q.part = 0 := by
  cases xs with
  | nil => simp [piecesFrom] at h
  | cons x xs =>
    have hlen : 0 < (cut x).length := List.length_pos_iff.mpr (hne x List.mem_cons_self)
    rw [piecesFrom_cons_getElem?, if_pos hlen] at h
    obtain ⟨y, -, rfl⟩ := Option.map_eq_some_iff.mp h
    exact ⟨rfl, rfl⟩

theorem piecesFrom_next {k : Nat} {xs : List α} (hne : ∀ x ∈ xs, cut x ≠ []) {p : Nat}
    {q q' : Piece β} (h : (piecesFrom cut k xs)[p]? = some q)
    (h' : (piecesFrom cut k xs)[p + 1]? = some q') {n : Nat} {x : α} (hitem : q.item = k + n)
    (hx : xs[n]? = some x) :
    if q.part + 1 < (cut x).length then q'.item = q.item ∧ q'.part = q.part + 1
    else q'.item = q.item + 1 ∧ q'.part = 0 := by
  induction xs generalizing k p n with
  | nil => simp at hx
  | cons y ys ih =>
    have hne' : ∀ x ∈ ys, cut x ≠ [] := fun x hx => hne x (List.mem_cons_of_mem y hx)
    rw [piecesFrom_cons_getElem?] at h h'
    by_cases hp : p < (cut y).length
    · -- the piece is one of the first item
      rw [if_pos hp] at h
      obtain ⟨v, -, rfl⟩ := Option.map_eq_some_iff.mp h
      obtain rfl : n = 0 := by simpa using hitem
      obtain rfl : y = x := by simpa using hx
      show if p + 1 < (cut y).length then _ else _
      split at h'
      next hlt =>
        rw [if_pos hlt]
        obtain ⟨w, -, rfl⟩ := Option.map_eq_some_iff.mp h'
        exact ⟨rfl, rfl⟩
      next hge =>
        rw [if_neg hge]
        have hp' : p + 1 - (cut y).length = 0 := by omega
        rw [hp'] at h'
        exact piecesFrom_zero hne' h'
    · rw [if_neg hp] at h
      rw [if_neg (by omega), show p + 1 - (cut y).length = p - (cut y).length + 1 by omega] at h'
      obtain ⟨m, z, hm, -, -⟩ := piecesFrom_getElem? h
      obtain rfl : n = m + 1 := by omega
      exact ih hne' h h' (by omega) hx

/-- A piece is a part of the item it names. -/
theorem pieces_getElem? {xs : List α} {p : Nat} {q : Piece β} (h : (pieces cut xs)[p]? = some q) :
    ∃ x, xs[q.item]? = some x ∧ (cut x)[q.part]? = some q.value := by
  obtain ⟨n, x, hitem, hx, hpart⟩ := piecesFrom_getElem? h
  rw [Nat.zero_add] at hitem
  exact ⟨x, hitem ▸ hx, hpart⟩

/-- The piece behind a piece: the next one of the same item, or behind the last one the first of
the next item. -/
theorem pieces_next {xs : List α} (hne : ∀ x ∈ xs, cut x ≠ []) {p : Nat} {q q' : Piece β}
    (h : (pieces cut xs)[p]? = some q) (h' : (pieces cut xs)[p + 1]? = some q') {x : α}
    (hx : xs[q.item]? = some x) :
    if q.part + 1 < (cut x).length then q'.item = q.item ∧ q'.part = q.part + 1
    else q'.item = q.item + 1 ∧ q'.part = 0 :=
  piecesFrom_next hne h h' (Nat.zero_add _).symm hx

end Nanortc.ForStd
