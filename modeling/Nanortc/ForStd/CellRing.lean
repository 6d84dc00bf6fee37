import Mathlib

/-!
# Rings and loops with 8-bit cursors

A ring of cells whose two cursors are free-running 8-bit counters, masked when a cell is accessed,
and the loops that such code runs: upwards over an 8-bit counter until a bound or a cursor is
reached, and backwards until a cell satisfies a test. A ring whose size is a power of two below 256
holds a list, from head to tail.

## Key results

- `CellRing.Holds.push`, `CellRing.Holds.pop`, `CellRing.Holds.modify`: the operations on the list that is held
- `forLoop_counters`: a loop that reaches its end visits every number up to it
- `forLoop_diverges`: a loop without an end
- `backLoop_counters`: a loop backwards from a cell of the ring
-/

namespace Nanortc.ForStd

/-! ### Loops -/

/-- What the body of a loop does next: another turn, or leave the loop. -/
inductive LoopFlow (σ : Type*) where
  | next (s : σ)
  | leave (s : σ)

section

variable {σ : Type*}

/-- `for (; more(i); i++) body` over an 8-bit counter, for at most `turns` evaluations of the
condition; `none` is a loop that has not ended by then. -/
def forLoop (more : UInt8 → Bool) (body : UInt8 → σ → LoopFlow σ) : (turns : Nat) → UInt8 → σ → Option σ
  | 0, _, _ => none
  | turns + 1, i, s =>
    if more i then
      match body i s with
      | .next s => forLoop more body turns (i + 1) s
      | .leave s => some s
    else some s

/-- The body applied to a list of counters, until it leaves. -/
def visit (body : UInt8 → σ → LoopFlow σ) : List UInt8 → σ → σ
  | [], s => s
  | i :: is, s =>
    match body i s with
    | .next s => visit body is s
    | .leave s => s

/-- A body that never leaves is a fold. -/
theorem visit_next (f : UInt8 → σ → σ) (is : List UInt8) (s : σ) :
    visit (fun i s => .next (f i s)) is s = is.foldl (fun s i => f i s) s := by
  induction is generalizing s with
  | nil => rfl
  | cons i is ih => exact ih (f i s)

/-- `n` consecutive counters from `i` on. -/
def counters : UInt8 → (n : Nat) → List UInt8
  | _, 0 => []
  | i, n + 1 => i :: counters (i + 1) n

@[simp] theorem length_counters (i : UInt8) (n : Nat) : (counters i n).length = n := by
  induction n generalizing i with
  | zero => rfl
  | succ n ih => rw [counters, List.length_cons, ih]

theorem ofNat_succ (i : UInt8) (k : Nat) : i + 1 + UInt8.ofNat k = i + UInt8.ofNat (k + 1) := by
  apply UInt8.toNat_inj.mp
  simp only [UInt8.toNat_add, UInt8.toNat_ofNat']
  show (_ % 256 + _ % 256) % 256 = _
  have h1 : (1 : UInt8).toNat = 1 := rfl
  omega

/-- **A loop that reaches its end** visits every counter up to it. -/
theorem forLoop_counters {more : UInt8 → Bool} {n turns : Nat} {i : UInt8} (hturns : n < turns)
    (hmore : ∀ k < n, more (i + UInt8.ofNat k) = true) (hend : more (i + UInt8.ofNat n) = false)
    (body : UInt8 → σ → LoopFlow σ) (s : σ) :
    forLoop more body turns i s = some (visit body (counters i n) s) := by
  induction n generalizing turns i s with
  | zero =>
    have h0 : more i = false := by simpa using hend
    obtain ⟨turns, rfl⟩ := Nat.exists_eq_add_one.mpr hturns
    rw [forLoop, h0]
    rfl
  | succ n ih =>
    have h0 : more i = true := by simpa using hmore 0 (Nat.succ_pos n)
    obtain ⟨turns, rfl⟩ := Nat.exists_eq_add_one.mpr (Nat.zero_lt_of_lt hturns)
    rw [forLoop, h0, counters, visit]
    cases body i s with
    | leave s => rfl
    | next s =>
      exact ih (by omega) (fun k hk => by rw [ofNat_succ]; exact hmore (k + 1) (by omega))
        (by rw [ofNat_succ]; exact hend) s

/-- A loop whose condition never fails and whose body never leaves does not end. -/
theorem forLoop_diverges {more : UInt8 → Bool} (hmore : ∀ i, more i = true)
    {body : UInt8 → σ → LoopFlow σ} (hbody : ∀ i s, ∃ s', body i s = .next s') (turns : Nat)
    (i : UInt8) (s : σ) : forLoop more body turns i s = none := by
  induction turns generalizing i s with
  | zero => rfl
  | succ turns ih =>
    obtain ⟨s', hs'⟩ := hbody i s
    rw [forLoop, hmore, hs']
    exact ih (i + 1) s'

end

/-- `while (i != head && !stop(i)) i--`, for at most `turns` evaluations of the condition. -/
def backLoop (stop : UInt8 → Bool) (head : UInt8) : (turns : Nat) → UInt8 → Option UInt8
  | 0, _ => none
  | turns + 1, i => if i ≠ head ∧ !stop i then backLoop stop head turns (i - 1) else some i

/-- A loop backwards from a cell of the ring ends at a cell at or in front of it. -/
theorem backLoop_counters (stop : UInt8 → Bool) (head : UInt8) (k : Nat) (hk : k < 256) :
    ∃ j ≤ k, backLoop stop head (k + 1) (head + UInt8.ofNat k) = some (head + UInt8.ofNat j) ∧
      (j = 0 ∨ stop (head + UInt8.ofNat j) = true) := by
  induction k with
  | zero =>
    refine ⟨0, le_refl 0, ?_, .inl rfl⟩
    rw [backLoop, if_neg (by simp)]
  | succ k ih =>
    rw [backLoop]
    by_cases hstop : stop (head + UInt8.ofNat (k + 1)) = true
    · rw [if_neg fun hc => by rw [hstop] at hc; exact nomatch hc.2]
      exact ⟨k + 1, le_refl _, rfl, .inr hstop⟩
    · have hne : head + UInt8.ofNat (k + 1) ≠ head := by
        intro h
        have := congrArg UInt8.toNat h
        rw [UInt8.toNat_add, UInt8.toNat_ofNat'] at this
        have := head.toNat_lt
        omega
      have hback : head + UInt8.ofNat (k + 1) - 1 = head + UInt8.ofNat k := by
        apply UInt8.toNat_inj.mp
        simp only [UInt8.toNat_sub, UInt8.toNat_add, UInt8.toNat_ofNat']
        have h1 : (1 : UInt8).toNat = 1 := rfl
        have := head.toNat_lt
        omega
      obtain ⟨j, hj, hloop, hat⟩ := ih (by omega)
      rw [if_pos ⟨hne, by rw [eq_false_of_ne_true hstop]; rfl⟩, hback]
      exact ⟨j, by omega, hloop, hat⟩

/-! ### Rings -/

/-- A ring of cells. -/
structure CellRing (α : Type*) where
  cells : Nat → α
  head : UInt8
  tail : UInt8

/-- The cell of a cursor: `i & (size - 1)`. -/
def ringCell (size : Nat) (i : UInt8) : Nat := i.toNat &&& (size - 1)

namespace CellRing

variable {α : Type*}

/-- The 8-bit distance of the cursors. -/
def count (r : CellRing α) : UInt8 := r.tail - r.head

/-- The cell at a cursor. -/
def get (size : Nat) (r : CellRing α) (i : UInt8) : α := r.cells (ringCell size i)

/-- The cell at the tail is written and the tail moves on. -/
def push (size : Nat) (r : CellRing α) (x : α) : CellRing α :=
  { r with cells := Function.update r.cells (ringCell size r.tail) x, tail := r.tail + 1 }

/-- The head moves on. -/
def pop (r : CellRing α) : CellRing α := { r with head := r.head + 1 }

/-- A cell changed in place. -/
def modify (size : Nat) (r : CellRing α) (i : UInt8) (f : α → α) : CellRing α :=
  { r with cells := Function.update r.cells (ringCell size i) (f (r.get size i)) }

/-- The ring holds a list, from head to tail. -/
structure Holds (size : Nat) (r : CellRing α) (l : List α) : Prop where
  count : r.count.toNat = l.length
  room : l.length ≤ size
  cells : ∀ {k x}, l[k]? = some x → r.get size (r.head + UInt8.ofNat k) = x

/-- A size that 8-bit cursors can address: a power of two below 256. -/
structure Addressable (size : Nat) : Prop where
  pow2 : size.isPowerOfTwo
  small : size < 256

end CellRing

/-! ### Addressing -/

section

variable {size : Nat}

theorem CellRing.Addressable.dvd (h : CellRing.Addressable size) : size ∣ 256 := by
  obtain ⟨n, rfl⟩ := h.pow2
  have hn : n < 8 := (Nat.pow_lt_pow_iff_right (by decide)).mp h.small
  exact Nat.pow_dvd_pow 2 (show n ≤ 8 by omega)

theorem CellRing.Addressable.pos (h : CellRing.Addressable size) : 0 < size := by
  obtain ⟨n, rfl⟩ := h.pow2
  exact Nat.two_pow_pos n

theorem ringCell_lt (hpos : 0 < size) (i : UInt8) : ringCell size i < size := by
  have := Nat.and_le_right (n := i.toNat) (m := size - 1)
  rw [ringCell]
  omega

theorem ringCell_add (h : CellRing.Addressable size) (i : UInt8) (k : Nat) :
    ringCell size (i + UInt8.ofNat k) = (i.toNat + k) % size := by
  have hmask (j : Nat) : j &&& (size - 1) = j % size := by
    obtain ⟨n, rfl⟩ := h.pow2
    exact Nat.and_two_pow_sub_one_eq_mod j n
  rw [ringCell, hmask, UInt8.toNat_add, UInt8.toNat_ofNat', Nat.mod_mod_of_dvd _ h.dvd, Nat.add_mod,
    Nat.mod_mod_of_dvd _ h.dvd, ← Nat.add_mod]

/-- Cursors less than a turn apart have different cells. -/
theorem ringCell_inj (h : CellRing.Addressable size) {i : UInt8} {k j : Nat} (hk : k < size)
    (hj : j < size) (heq : ringCell size (i + UInt8.ofNat k) = ringCell size (i + UInt8.ofNat j)) :
    k = j := by
  rw [ringCell_add h, ringCell_add h] at heq
  have hmod : k ≡ j [MOD size] := Nat.ModEq.add_left_cancel' i.toNat heq
  exact hmod.eq_of_lt_of_lt hk hj

end

namespace CellRing

variable {α : Type*} {size : Nat} {r : CellRing α} {l : List α}

/-- The tail is as far from the head as the list is long. -/
theorem Holds.tail (h : Holds size r l) : r.tail = r.head + UInt8.ofNat l.length := by
  rw [← h.count, UInt8.ofNat_toNat, CellRing.count, UInt8.add_comm, UInt8.sub_add_cancel]

/-- An empty ring. -/
theorem holds_empty (x : α) (i : UInt8) : Holds size ⟨fun _ => x, i, i⟩ [] where
  count := by rw [CellRing.count, UInt8.sub_self]; rfl
  room := Nat.zero_le _
  cells h := nomatch h

theorem Holds.push (hsize : Addressable size) (h : Holds size r l) (hroom : l.length < size)
    (x : α) : Holds size (r.push size x) (l ++ [x]) where
  count := by
    have hsmall := hsize.small
    rw [CellRing.count, CellRing.push, h.tail, List.length_append, List.length_singleton]
    dsimp only
    simp only [UInt8.toNat_sub, UInt8.toNat_add, UInt8.toNat_ofNat']
    have h1 : (1 : UInt8).toNat = 1 := rfl
    have := r.head.toNat_lt
    omega
  room := by
    rw [List.length_append, List.length_singleton]
    omega
  cells {k y} hk := by
    rw [CellRing.get, CellRing.push, h.tail]
    dsimp only
    by_cases hlast : k = l.length
    · subst hlast
      rw [List.getElem?_concat_length] at hk
      rw [Function.update_self]
      exact Option.some.inj hk
    · have hlt : k < l.length := by
        have := (List.getElem?_eq_some_iff.mp hk).1
        rw [List.length_append, List.length_singleton] at this
        omega
      rw [List.getElem?_append_left hlt] at hk
      rw [Function.update_of_ne fun heq => hlast (ringCell_inj hsize (by omega) hroom heq)]
      exact h.cells hk

theorem Holds.pop {x : α} (h : Holds size r (x :: l)) : Holds size r.pop l where
  count := by
    have hcount := h.count
    have hlt := r.count.toNat_lt
    rw [List.length_cons] at hcount
    have hpop : r.pop.count = r.count - 1 := by
      rw [CellRing.count, CellRing.pop, CellRing.count]
      show r.tail - (r.head + 1) = r.tail - r.head - 1
      apply UInt8.toNat_inj.mp
      simp only [UInt8.toNat_sub, UInt8.toNat_add]
      have h1 : (1 : UInt8).toNat = 1 := rfl
      have := r.head.toNat_lt
      have := r.tail.toNat_lt
      omega
    rw [hpop, UInt8.toNat_sub]
    have h1 : (1 : UInt8).toNat = 1 := rfl
    omega
  room := Nat.le_of_succ_le h.room
  cells {k y} hk := by
    show r.get size (r.head + 1 + UInt8.ofNat k) = y
    rw [ofNat_succ]
    exact h.cells (k := k + 1) hk

theorem Holds.modify (hsize : Addressable size) (h : Holds size r l) {k : Nat} (hk : k < l.length)
    (f : α → α) : Holds size (r.modify size (r.head + UInt8.ofNat k) f) (l.modify k f) where
  count := by rw [List.length_modify]; exact h.count
  room := by rw [List.length_modify]; exact h.room
  cells {j y} hj := by
    have hroom := h.room
    have hlt : j < l.length := by
      simpa using (List.getElem?_eq_some_iff.mp hj).1
    have hcell := h.cells (List.getElem?_eq_getElem hlt)
    rw [CellRing.get, CellRing.modify]
    dsimp only
    rw [List.getElem?_modify, List.getElem?_eq_getElem hlt] at hj
    by_cases heq : k = j
    · subst heq
      rw [Function.update_self, hcell]
      simpa using hj
    · rw [Function.update_of_ne fun hc => heq (ringCell_inj hsize (by omega) (by omega) hc.symm)]
      simp only [heq] at hj
      exact hcell.trans (by simpa using hj)

/-- The cursors meet exactly when the ring is empty. -/
theorem Holds.empty_iff (h : Holds size r l) : r.head = r.tail ↔ l = [] := by
  constructor
  · intro heq
    apply List.length_eq_zero_iff.mp
    rw [← h.count, CellRing.count, heq, UInt8.sub_self]
    rfl
  · intro hl
    subst hl
    simpa using h.tail.symm

/-- The loop from head to tail visits the cells of the list. -/
theorem Holds.forLoop {σ : Type*} (h : Holds size r l) (body : UInt8 → σ → LoopFlow σ) (s : σ) :
    forLoop (· != r.tail) body (l.length + 1) r.head s =
      some (visit body (counters r.head l.length) s) := by
  have hlt := r.count.toNat_lt
  rw [h.count] at hlt
  apply forLoop_counters (Nat.lt_succ_self _)
  · intro k hk
    rw [h.tail, bne_iff_ne]
    intro heq
    have := congrArg UInt8.toNat heq
    simp only [UInt8.toNat_add, UInt8.toNat_ofNat'] at this
    have := r.head.toNat_lt
    omega
  · rw [h.tail, bne_self_eq_false]

end CellRing

end Nanortc.ForStd
