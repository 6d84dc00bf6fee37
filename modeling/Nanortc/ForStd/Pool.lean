import Mathlib
import Nanortc.ForStd.BigEndian

/-!
# Segments of a pool

A pool is a list of which a prefix is divided into segments, each with an offset and a length.
`Tiles` says that the live segments divide the prefix exactly: no two overlap and no cell is left
out. Segments are appended, removed with a move of what is behind them, rotated to an earlier place,
and joined with their neighbour; each operation keeps the tiling and what the segments hold.

## Key results

- `Tiles.append`, `Tiles.remove`, `Tiles.rotate`, `Tiles.join`: the operations keep the tiling
- `Tiles.slice_remove`, `Tiles.slice_rotate`: and the contents of the segments
- `Tiles.sum_len_le`: the segments are no longer than the prefix
- `getElem?_rotate`: three reversals rotate
-/

namespace Nanortc.ForStd

variable {α ι : Type*}

/-! ### Slices -/

/-- `n` cells from `off` on. -/
def slice (b : List α) (off n : Nat) : List α := (b.drop off).take n

@[simp] theorem slice_zero (b : List α) (off : Nat) : slice b off 0 = [] := List.take_zero

theorem slice_front (b : List α) (n : Nat) : slice b 0 n = b.take n := rfl

theorem slice_add (b : List α) (off m n : Nat) :
    slice b off (m + n) = slice b off m ++ slice b (off + m) n := by
  unfold slice
  rw [List.take_add, List.drop_drop]

theorem getElem?_slice (b : List α) (off n k : Nat) :
    (slice b off n)[k]? = if k < n then b[off + k]? else none := by
  unfold slice
  rw [List.getElem?_take, List.getElem?_drop]

/-- Slices with the same cells are the same. -/
theorem slice_ext {b b' : List α} {off off' n : Nat} (h : ∀ k < n, b'[off' + k]? = b[off + k]?) :
    slice b' off' n = slice b off n := by
  apply List.ext_getElem?
  intro k
  rw [getElem?_slice, getElem?_slice]
  split
  · rename_i hk
    exact h k hk
  · rfl

theorem length_slice {b : List α} {off n : Nat} (h : off + n ≤ b.length) :
    (slice b off n).length = n := by
  unfold slice
  rw [List.length_take, List.length_drop]
  omega

theorem slice_writeAt (b v : List α) (i : Nat) (h : i + v.length ≤ b.length) :
    slice (writeAt b i v) i v.length = v := by
  apply List.ext_getElem?
  intro k
  rw [getElem?_slice]
  split
  · rename_i hk
    rw [getElem?_writeAt b v i (i + k) h, if_pos (by omega), Nat.add_sub_cancel_left]
  · rename_i hk
    rw [List.getElem?_eq_none (by omega)]

/-- A write leaves what is in front of it. -/
theorem slice_writeAt_before (b v : List α) {i off n : Nat} (h : i + v.length ≤ b.length)
    (hn : off + n ≤ i) : slice (writeAt b i v) off n = slice b off n := by
  apply slice_ext
  intro k hk
  rw [getElem?_writeAt b v i (off + k) h, if_neg (by omega)]

/-! ### Moves within a list -/

/-- What a copy within a list changes. -/
theorem getElem?_copyWithin (b : List α) (dst src n k : Nat) (hsrc : src + n ≤ b.length)
    (hdst : dst + n ≤ b.length) :
    (writeAt b dst (slice b src n))[k]? =
      if dst ≤ k ∧ k < dst + n then b[src + (k - dst)]? else b[k]? := by
  have hlen := length_slice hsrc
  rw [getElem?_writeAt b _ dst k (by omega), hlen]
  split
  · rename_i hk
    rw [getElem?_slice, if_pos (by omega)]
  · rfl

/-- What a reversal within a list changes. -/
theorem getElem?_reverseWithin (b : List α) (pos n k : Nat) (h : pos + n ≤ b.length) :
    (writeAt b pos (slice b pos n).reverse)[k]? =
      if pos ≤ k ∧ k < pos + n then b[pos + (n - 1 - (k - pos))]? else b[k]? := by
  have hlen := length_slice h
  have hrev : (slice b pos n).reverse.length = n := by rw [List.length_reverse, hlen]
  rw [getElem?_writeAt b _ pos k (by omega), hrev]
  split
  · rename_i hk
    rw [List.getElem?_reverse (by omega), hlen, getElem?_slice, if_pos (by omega)]
  · rfl

/-- A reversal within the list. -/
def reverseWithin (b : List α) (pos n : Nat) : List α := writeAt b pos (slice b pos n).reverse

theorem length_reverseWithin {b : List α} {pos n : Nat} (h : pos + n ≤ b.length) :
    (reverseWithin b pos n).length = b.length := by
  apply length_writeAt
  rw [List.length_reverse, length_slice h]
  exact h

/-- **Three reversals rotate**: `n` cells at `off` come to `pos`, and those between move up. -/
theorem getElem?_rotate (b : List α) {pos off n : Nat} (hpos : pos ≤ off)
    (h : off + n ≤ b.length) (k : Nat) :
    (reverseWithin (reverseWithin (reverseWithin b pos (off - pos)) off n) pos
        (off - pos + n))[k]? =
      if pos ≤ k ∧ k < pos + n then b[off + (k - pos)]?
      else if pos + n ≤ k ∧ k < off + n then b[k - n]?
      else b[k]? := by
  have h1 : (reverseWithin b pos (off - pos)).length = b.length :=
    length_reverseWithin (by omega)
  have h2 : (reverseWithin (reverseWithin b pos (off - pos)) off n).length = b.length := by
    rw [length_reverseWithin (by omega), h1]
  have e1 (m : Nat) := getElem?_reverseWithin b pos (off - pos) m (by omega)
  have e2 (m : Nat) := getElem?_reverseWithin (reverseWithin b pos (off - pos)) off n m (by omega)
  have e3 := getElem?_reverseWithin (reverseWithin (reverseWithin b pos (off - pos)) off n) pos
    (off - pos + n) k (by omega)
  change (writeAt _ pos _)[k]? = _
  rw [e3]
  change ∀ m, (reverseWithin _ off n)[m]? = _ at e2
  change ∀ m, (reverseWithin b pos _)[m]? = _ at e1
  by_cases hin : pos ≤ k ∧ k < pos + (off - pos + n)
  · rw [if_pos hin, e2]
    by_cases hfront : k < pos + n
    · -- a cell of the rotated segment is reversed twice in its own place
      rw [if_pos (by omega), if_pos (by omega), e1, if_neg (by omega)]
      congr 1
      omega
    · rw [if_neg (by omega), if_neg (by omega), e1, if_pos (by omega), if_pos (by omega)]
      congr 1
      omega
  · rw [if_neg hin, e2, if_neg (by omega), e1, if_neg (by omega), if_neg (by omega),
      if_neg (by omega)]

/-! ### Tilings -/

/-- The live segments divide the first `used` cells. -/
structure Tiles (live : ι → Prop) (off len : ι → Nat) (used : Nat) : Prop where
  pos : ∀ i, live i → 0 < len i
  bounded : ∀ i, live i → off i + len i ≤ used
  apart : ∀ i j, live i → live j → i ≠ j → off i + len i ≤ off j ∨ off j + len j ≤ off i
  cover : ∀ p < used, ∃ i, live i ∧ off i ≤ p ∧ p < off i + len i

namespace Tiles

variable {live live' : ι → Prop} {off off' len len' : ι → Nat} {used : Nat}

/-- Without live segments there is nothing to divide. -/
theorem empty (h : ∀ i, ¬live i) : Tiles live off len 0 :=
  ⟨fun i hi => absurd hi (h i), fun i hi => absurd hi (h i), fun i _ hi => absurd hi (h i),
    fun p hp => absurd hp (Nat.not_lt_zero p)⟩

/-- The places of the other segments do not matter. -/
theorem congr (h : Tiles live off len used) (hlive : ∀ i, live' i ↔ live i)
    (hsame : ∀ i, live i → off' i = off i ∧ len' i = len i) : Tiles live' off' len' used := by
  constructor
  · intro i hi
    have hi := (hlive i).mp hi
    rw [(hsame i hi).2]
    exact h.pos i hi
  · intro i hi
    have hi := (hlive i).mp hi
    rw [(hsame i hi).1, (hsame i hi).2]
    exact h.bounded i hi
  · intro i j hi hj hij
    have hi := (hlive i).mp hi
    have hj := (hlive j).mp hj
    rw [(hsame i hi).1, (hsame i hi).2, (hsame j hj).1, (hsame j hj).2]
    exact h.apart i j hi hj hij
  · intro p hp
    obtain ⟨i, hi, hcover⟩ := h.cover p hp
    refine ⟨i, (hlive i).mpr hi, ?_⟩
    rw [(hsame i hi).1, (hsame i hi).2]
    exact hcover

/-- Of two segments the one that starts first ends first. -/
theorem before (h : Tiles live off len used) {i j : ι} (hi : live i) (hj : live j)
    (hlt : off i < off j) : off i + len i ≤ off j := by
  have hij : i ≠ j := by
    intro heq
    rw [heq] at hlt
    exact Nat.lt_irrefl _ hlt
  have := h.apart i j hi hj hij
  have := h.pos i hi
  have := h.pos j hj
  omega

theorem off_ne (h : Tiles live off len used) {i j : ι} (hi : live i) (hj : live j) (hij : i ≠ j) :
    off i ≠ off j := by
  have := h.apart i j hi hj hij
  have := h.pos i hi
  have := h.pos j hj
  omega

/-- A segment appended behind the others. -/
theorem append (h : Tiles live off len used) {k : ι} (hk : live' k) (hoff : off' k = used)
    (hlen : 0 < len' k)
    (hother : ∀ i, i ≠ k → (live' i ↔ live i) ∧ (live i → off' i = off i ∧ len' i = len i))
    (hdead : ¬live k) : Tiles live' off' len' (used + len' k) := by
  have hold (i : ι) (hi : live' i) (hik : i ≠ k) : live i ∧ off' i = off i ∧ len' i = len i := by
    have hi := ((hother i hik).1).mp hi
    exact ⟨hi, (hother i hik).2 hi⟩
  constructor
  · intro i hi
    by_cases hik : i = k
    · rw [hik]
      exact hlen
    · obtain ⟨hi, -, heq⟩ := hold i hi hik
      rw [heq]
      exact h.pos i hi
  · intro i hi
    by_cases hik : i = k
    · rw [hik, hoff]
    · obtain ⟨hi, heq, heq'⟩ := hold i hi hik
      have := h.bounded i hi
      omega
  · intro i j hi hj hij
    by_cases hik : i = k
    · obtain ⟨hj, heq, heq'⟩ := hold j hj fun hjk => hij (hik.trans hjk.symm)
      have := h.bounded j hj
      rw [hik]
      omega
    · obtain ⟨hi, heq, heq'⟩ := hold i hi hik
      by_cases hjk : j = k
      · have := h.bounded i hi
        rw [hjk]
        omega
      · obtain ⟨hj, hjeq, hjeq'⟩ := hold j hj hjk
        rw [heq, heq', hjeq, hjeq']
        exact h.apart i j hi hj hij
  · intro p hp
    by_cases hlt : p < used
    · obtain ⟨i, hi, hcover⟩ := h.cover p hlt
      have hik : i ≠ k := fun heq => hdead (heq ▸ hi)
      obtain ⟨heq, heq'⟩ := (hother i hik).2 hi
      refine ⟨i, ((hother i hik).1).mpr hi, ?_⟩
      rw [heq, heq']
      exact hcover
    · exact ⟨k, hk, by omega, by omega⟩

/-- A segment removed; the segments behind it move up. -/
theorem remove (h : Tiles live off len used) {k : ι} (hk : live k)
    (hlive : ∀ i, live' i ↔ i ≠ k ∧ live i)
    (hother : ∀ i, i ≠ k → live i → len' i = len i ∧
      off' i = if off k < off i then off i - len k else off i) :
    Tiles live' off' len' (used - len k) := by
  constructor
  · intro i hi
    obtain ⟨hik, hi⟩ := (hlive i).mp hi
    rw [(hother i hik hi).1]
    exact h.pos i hi
  · intro i hi
    obtain ⟨hik, hi⟩ := (hlive i).mp hi
    obtain ⟨heq, heq'⟩ := hother i hik hi
    rw [heq, heq']
    have := h.bounded i hi
    have := h.bounded k hk
    have := h.off_ne hi hk hik
    split
    · have := h.before hk hi (by assumption)
      omega
    · have := h.before hi hk (by omega)
      omega
  · intro i j hi hj hij
    obtain ⟨hik, hi⟩ := (hlive i).mp hi
    obtain ⟨hjk, hj⟩ := (hlive j).mp hj
    rw [(hother i hik hi).1, (hother i hik hi).2, (hother j hjk hj).1, (hother j hjk hj).2]
    have := h.apart i j hi hj hij
    have := h.apart i k hi hk hik
    have := h.apart j k hj hk hjk
    split <;> split <;> omega
  · intro p hp
    by_cases hlt : p < off k
    · obtain ⟨i, hi, hle, hcover⟩ := h.cover p (by omega)
      have hik : i ≠ k := by
        intro heq
        rw [heq] at hle
        omega
      refine ⟨i, (hlive i).mpr ⟨hik, hi⟩, ?_⟩
      rw [(hother i hik hi).1, (hother i hik hi).2, if_neg (by omega)]
      exact ⟨hle, hcover⟩
    · -- the cell was covered further behind
      obtain ⟨i, hi, hle, hcover⟩ := h.cover (p + len k) (by omega)
      have hik : i ≠ k := by
        intro heq
        rw [heq] at hcover
        omega
      have := h.apart i k hi hk hik
      have := h.pos k hk
      refine ⟨i, (hlive i).mpr ⟨hik, hi⟩, ?_⟩
      rw [(hother i hik hi).1, (hother i hik hi).2, if_pos (by omega)]
      omega

/-- A segment rotated to an earlier place between two segments. -/
theorem rotate (h : Tiles live off len used) {k : ι} (hk : live k) {pos : Nat} (hpos : pos ≤ off k)
    (hbetween : ∀ i, i ≠ k → live i → off i + len i ≤ pos ∨ pos ≤ off i)
    (hlive : ∀ i, live' i ↔ live i) (hlen : ∀ i, live i → len' i = len i) (hplace : off' k = pos)
    (hother : ∀ i, i ≠ k → live i →
      off' i = if pos ≤ off i ∧ off i < off k then off i + len k else off i) :
    Tiles live' off' len' used := by
  constructor
  · intro i hi
    have hi := (hlive i).mp hi
    rw [hlen i hi]
    exact h.pos i hi
  · intro i hi
    have hi := (hlive i).mp hi
    have := h.bounded i hi
    have := h.bounded k hk
    rw [hlen i hi]
    by_cases hik : i = k
    · subst hik
      omega
    · rw [hother i hik hi]
      split
      · have := h.before hi hk (by omega)
        omega
      · omega
  · intro i j hi hj hij
    have hi := (hlive i).mp hi
    have hj := (hlive j).mp hj
    rw [hlen i hi, hlen j hj]
    have := h.apart i j hi hj hij
    by_cases hik : i = k
    · have hjk : j ≠ k := fun heq => hij (hik.trans heq.symm)
      have := hbetween j hjk hj
      have := h.off_ne hj hk hjk
      have := h.pos j hj
      have := h.apart j k hj hk hjk
      rw [hik, hplace, hother j hjk hj]
      split <;> omega
    · by_cases hjk : j = k
      · have := hbetween i hik hi
        have := h.off_ne hi hk hik
        have := h.pos i hi
        have := h.apart i k hi hk hik
        rw [hjk, hplace, hother i hik hi]
        split <;> omega
      · have := h.apart i k hi hk hik
        have := h.apart j k hj hk hjk
        have := hbetween i hik hi
        have := hbetween j hjk hj
        have := h.pos i hi
        have := h.pos j hj
        rw [hother i hik hi, hother j hjk hj]
        split <;> split <;> omega
  · intro p hp
    by_cases hfront : pos ≤ p ∧ p < pos + len k
    · refine ⟨k, (hlive k).mpr hk, ?_⟩
      rw [hplace, hlen k hk]
      exact hfront
    by_cases hmoved : pos + len k ≤ p ∧ p < off k + len k
    · -- a cell that was moved up
      obtain ⟨i, hi, hle, hcover⟩ := h.cover (p - len k) (by omega)
      have hik : i ≠ k := by
        intro heq
        rw [heq] at hle
        omega
      have := hbetween i hik hi
      refine ⟨i, (hlive i).mpr hi, ?_⟩
      rw [hlen i hi, hother i hik hi, if_pos (by omega)]
      omega
    · obtain ⟨i, hi, hle, hcover⟩ := h.cover p hp
      have hik : i ≠ k := by
        intro heq
        rw [heq] at hle hcover
        omega
      have := h.apart i k hi hk hik
      refine ⟨i, (hlive i).mpr hi, ?_⟩
      rw [hlen i hi, hother i hik hi, if_neg (by omega)]
      exact ⟨hle, hcover⟩

/-- A segment that takes over its neighbour. -/
theorem join (h : Tiles live off len used) {a b : ι} (hab : a ≠ b) (ha : live a) (hb : live b)
    (hnext : off b = off a + len a) (hlive : ∀ i, live' i ↔ i ≠ b ∧ live i)
    (hlen : len' a = len a + len b)
    (hother : ∀ i, i ≠ a → live i → len' i = len i) (hoff : ∀ i, live i → off' i = off i) :
    Tiles live' off' len' used := by
  -- a segment is where it was, and only the first one has grown
  have hgrow (i : ι) (hi : live i) :
      len' i = len i ∧ i ≠ a ∨ i = a ∧ len' i = len a + len b := by
    by_cases hia : i = a
    · exact .inr ⟨hia, by rw [hia, hlen]⟩
    · exact .inl ⟨hother i hia hi, hia⟩
  constructor
  · intro i hi
    obtain ⟨-, hi⟩ := (hlive i).mp hi
    have := h.pos i hi
    have := h.pos a ha
    cases hgrow i hi with
    | inl hg => omega
    | inr hg => omega
  · intro i hi
    obtain ⟨-, hi⟩ := (hlive i).mp hi
    have := h.bounded i hi
    have := h.bounded b hb
    rw [hoff i hi]
    cases hgrow i hi with
    | inl hg => omega
    | inr hg =>
      rw [hg.2, hg.1]
      omega
  · intro i j hi hj hij
    obtain ⟨hib, hi⟩ := (hlive i).mp hi
    obtain ⟨hjb, hj⟩ := (hlive j).mp hj
    have := h.apart i j hi hj hij
    have := h.apart i b hi hb hib
    have := h.apart j b hj hb hjb
    have := h.pos b hb
    have := h.pos i hi
    have := h.pos j hj
    rw [hoff i hi, hoff j hj]
    cases hgrow i hi with
    | inl hgi =>
      cases hgrow j hj with
      | inl hgj => omega
      | inr hgj =>
        obtain ⟨rfl, hgj⟩ := hgj
        omega
    | inr hgi =>
      obtain ⟨rfl, hgi⟩ := hgi
      rw [hother j hij.symm hj]
      omega
  · intro p hp
    obtain ⟨i, hi, hle, hcover⟩ := h.cover p hp
    by_cases hib : i = b
    · subst hib
      refine ⟨a, (hlive a).mpr ⟨hab, ha⟩, ?_⟩
      rw [hoff a ha]
      omega
    · refine ⟨i, (hlive i).mpr ⟨hib, hi⟩, ?_⟩
      rw [hoff i hi]
      cases hgrow i hi with
      | inl hg => omega
      | inr hg =>
        obtain ⟨rfl, hg⟩ := hg
        omega

/-! ### How much the segments hold -/

/-- **Together the segments are no longer than the prefix they divide.** -/
theorem sum_len_le (h : Tiles live off len used) {s : Finset ι} (hs : ∀ i ∈ s, live i) :
    ∑ i ∈ s, len i ≤ used := by
  classical
  -- the cells of different segments are different
  have hdisj : (s : Set ι).PairwiseDisjoint fun i => Finset.Ico (off i) (off i + len i) := by
    intro i hi j hj hij
    rw [Function.onFun, Finset.disjoint_left]
    intro p hp hp'
    have := h.apart i j (hs i hi) (hs j hj) hij
    simp only [Finset.mem_Ico] at hp hp'
    omega
  have hsub : s.biUnion (fun i => Finset.Ico (off i) (off i + len i)) ⊆ Finset.range used := by
    intro p hp
    obtain ⟨i, hi, hp⟩ := Finset.mem_biUnion.mp hp
    have := h.bounded i (hs i hi)
    simp only [Finset.mem_Ico, Finset.mem_range] at hp ⊢
    omega
  have hcard := Finset.card_le_card hsub
  rw [Finset.card_biUnion hdisj, Finset.card_range] at hcard
  simp only [Nat.card_Ico, Nat.add_sub_cancel_left] at hcard
  exact hcard

/-! ### What the segments hold -/

/-- A removal keeps what the other segments hold. -/
theorem slice_remove (h : Tiles live off len used) {b : List α} (hb : used ≤ b.length) {k i : ι}
    (hk : live k) (hi : live i) (hik : i ≠ k) :
    slice (writeAt b (off k) (slice b (off k + len k) (used - off k - len k)))
        (if off k < off i then off i - len k else off i) (len i) = slice b (off i) (len i) := by
  apply slice_ext
  intro m hm
  have := h.bounded k hk
  have := h.bounded i hi
  have := h.apart i k hi hk hik
  have := h.pos k hk
  rw [getElem?_copyWithin _ _ _ _ _ (by omega) (by omega)]
  by_cases hlt : off k < off i
  · rw [if_pos hlt, if_pos (by omega)]
    congr 1
    omega
  · rw [if_neg hlt, if_neg (by omega)]

/-- A rotation keeps what every segment holds. -/
theorem slice_rotate (h : Tiles live off len used) {b : List α} (hb : used ≤ b.length) {k : ι}
    (hk : live k) {pos : Nat} (hpos : pos ≤ off k)
    (hbetween : ∀ i, i ≠ k → live i → off i + len i ≤ pos ∨ pos ≤ off i) {i : ι} (hi : live i)
    {place : Nat} (hplace : i = k → place = pos)
    (hother : i ≠ k → place = if pos ≤ off i ∧ off i < off k then off i + len k else off i) :
    slice (reverseWithin (reverseWithin (reverseWithin b pos (off k - pos)) (off k) (len k)) pos
        (off k - pos + len k)) place (len i) = slice b (off i) (len i) := by
  apply slice_ext
  intro m hm
  have := h.bounded k hk
  rw [getElem?_rotate b hpos (by omega)]
  by_cases hik : i = k
  · subst hik
    rw [hplace rfl, if_pos (by omega)]
    congr 1
    omega
  · have := h.apart i k hi hk hik
    have := hbetween i hik hi
    rw [hother hik]
    by_cases hmoved : pos ≤ off i ∧ off i < off k
    · rw [if_pos hmoved, if_neg (by omega), if_pos (by omega)]
      congr 1
      omega
    · rw [if_neg hmoved, if_neg (by omega), if_neg (by omega)]

end Tiles

end Nanortc.ForStd
