import Mathlib

/-!
# Big-endian words in byte lists

Reading 16- and 32-bit words at an offset of a byte list, writing them as byte lists, and
overwriting a range of a list in place. A read past the end of the list yields zero bytes.

## Key results

- `readU16be_u16be`, `readU32be_u32be`: a written word is read back
- `getElem?_writeAt`: what a range write changes
- `readU16be_of_take_eq`, `readU32be_of_take_eq`: a word lies in the front that two strings share
-/

namespace Nanortc.ForStd

/-- The byte at offset `i`. -/
def byteAt (b : List UInt8) (i : Nat) : UInt8 := b.getD i 0

/-- The 16-bit word at offset `i`. -/
def readU16be (b : List UInt8) (i : Nat) : UInt16 :=
  (byteAt b i).toUInt16 <<< 8 ||| (byteAt b (i + 1)).toUInt16

/-- The 32-bit word at offset `i`. -/
def readU32be (b : List UInt8) (i : Nat) : UInt32 :=
  (byteAt b i).toUInt32 <<< 24 ||| (byteAt b (i + 1)).toUInt32 <<< 16 |||
    (byteAt b (i + 2)).toUInt32 <<< 8 ||| (byteAt b (i + 3)).toUInt32

/-- The bytes of a 16-bit word. -/
def u16be (x : UInt16) : List UInt8 := [(x >>> 8).toUInt8, x.toUInt8]

/-- The bytes of a 32-bit word. -/
def u32be (x : UInt32) : List UInt8 :=
  [(x >>> 24).toUInt8, (x >>> 16).toUInt8, (x >>> 8).toUInt8, x.toUInt8]

/-- `b` with the bytes from offset `i` overwritten by `v`. -/
def writeAt {α : Type*} (b : List α) (i : Nat) (v : List α) : List α :=
  b.take i ++ v ++ b.drop (i + v.length)

@[simp] theorem length_u16be (x : UInt16) : (u16be x).length = 2 := rfl

@[simp] theorem length_u32be (x : UInt32) : (u32be x).length = 4 := rfl

/-- Writing inside the list keeps its length. -/
theorem length_writeAt {α : Type*} (b v : List α) (i : Nat) (h : i + v.length ≤ b.length) :
    (writeAt b i v).length = b.length := by
  simp only [writeAt, List.length_append, List.length_take, List.length_drop]
  omega

/-- A range write changes the bytes of its range and no others. -/
theorem getElem?_writeAt {α : Type*} (b v : List α) (i k : Nat) (h : i + v.length ≤ b.length) :
    (writeAt b i v)[k]? = if i ≤ k ∧ k < i + v.length then v[k - i]? else b[k]? := by
  have hlen : (b.take i).length = i := by rw [List.length_take]; omega
  simp only [writeAt, List.append_assoc]
  by_cases hk : k < i
  · rw [List.getElem?_append_left (by omega), if_neg (by omega), List.getElem?_take_of_lt hk]
  · rw [List.getElem?_append_right (by omega), hlen]
    by_cases hv : k < i + v.length
    · rw [List.getElem?_append_left (by omega), if_pos ⟨by omega, hv⟩]
    · rw [List.getElem?_append_right (by omega), if_neg (by omega), List.getElem?_drop]
      congr 1; omega

private theorem shiftLeft_or (a b k : Nat) (hb : b < 2 ^ k) : a <<< k ||| b = a * 2 ^ k + b := by
  rw [← Nat.shiftLeft_add_eq_or_of_lt hb, Nat.shiftLeft_eq]

/-- A two-byte word is the sum of its shifted bytes. -/
theorem toNat_readU16be (b : List UInt8) (i : Nat) :
    (readU16be b i).toNat = (byteAt b i).toNat * 2 ^ 8 + (byteAt b (i + 1)).toNat := by
  have h0 := (byteAt b i).toNat_lt
  have h1 := (byteAt b (i + 1)).toNat_lt
  have hs : (byteAt b i).toNat <<< 8 % 2 ^ 16 = (byteAt b i).toNat <<< 8 := by
    rw [Nat.shiftLeft_eq]; omega
  simp only [readU16be, UInt16.toNat_or, UInt16.toNat_shiftLeft, UInt8.toNat_toUInt16,
    UInt16.reduceToNat, Nat.reduceMod, hs]
  exact shiftLeft_or _ _ _ h1

/-- A four-byte word is the sum of its shifted bytes. -/
theorem toNat_readU32be (b : List UInt8) (i : Nat) :
    (readU32be b i).toNat = (byteAt b i).toNat * 2 ^ 24 + (byteAt b (i + 1)).toNat * 2 ^ 16 +
      (byteAt b (i + 2)).toNat * 2 ^ 8 + (byteAt b (i + 3)).toNat := by
  have h0 := (byteAt b i).toNat_lt
  have h1 := (byteAt b (i + 1)).toNat_lt
  have h2 := (byteAt b (i + 2)).toNat_lt
  have h3 := (byteAt b (i + 3)).toNat_lt
  have s0 : (byteAt b i).toNat <<< 24 % 2 ^ 32 = (byteAt b i).toNat <<< 24 := by
    rw [Nat.shiftLeft_eq]; omega
  have s1 : (byteAt b (i + 1)).toNat <<< 16 % 2 ^ 32 = (byteAt b (i + 1)).toNat <<< 16 := by
    rw [Nat.shiftLeft_eq]; omega
  have s2 : (byteAt b (i + 2)).toNat <<< 8 % 2 ^ 32 = (byteAt b (i + 2)).toNat <<< 8 := by
    rw [Nat.shiftLeft_eq]; omega
  simp only [readU32be, UInt32.toNat_or, UInt32.toNat_shiftLeft, UInt8.toNat_toUInt32,
    UInt32.reduceToNat, Nat.reduceMod, s0, s1, s2]
  rw [Nat.or_assoc, Nat.or_assoc, shiftLeft_or (byteAt b (i + 2)).toNat _ _ h3,
    shiftLeft_or (byteAt b (i + 1)).toNat _ _ (by omega), shiftLeft_or _ _ _ (by omega)]
  omega

/-- A written 16-bit word is read back. -/
theorem readU16be_u16be (x : UInt16) (rest : List UInt8) : readU16be (u16be x ++ rest) 0 = x := by
  apply UInt16.toNat_inj.mp
  have hx := x.toNat_lt
  rw [toNat_readU16be]
  simp only [u16be, byteAt, List.cons_append, List.nil_append, List.getD_cons_zero,
    List.getD_cons_succ, UInt16.toNat_toUInt8, UInt16.toNat_shiftRight, UInt16.reduceToNat,
    Nat.reduceMod, Nat.shiftRight_eq_div_pow]
  omega

/-- A written 32-bit word is read back. -/
theorem readU32be_u32be (x : UInt32) (rest : List UInt8) : readU32be (u32be x ++ rest) 0 = x := by
  apply UInt32.toNat_inj.mp
  have hx := x.toNat_lt
  rw [toNat_readU32be]
  simp only [u32be, byteAt, List.cons_append, List.nil_append, List.getD_cons_zero,
    List.getD_cons_succ, UInt32.toNat_toUInt8, UInt32.toNat_shiftRight, UInt32.reduceToNat,
    Nat.reduceMod, Nat.shiftRight_eq_div_pow]
  omega

/-- The bytes of a word that was read. -/
theorem u32be_readU32be (b : List UInt8) (i : Nat) :
    u32be (readU32be b i) = [byteAt b i, byteAt b (i + 1), byteAt b (i + 2), byteAt b (i + 3)] := by
  have h0 := (byteAt b i).toNat_lt
  have h1 := (byteAt b (i + 1)).toNat_lt
  have h2 := (byteAt b (i + 2)).toNat_lt
  have h3 := (byteAt b (i + 3)).toNat_lt
  simp only [u32be, List.cons.injEq, and_true]
  refine ⟨?_, ?_, ?_, ?_⟩ <;> apply UInt8.toNat_inj.mp <;>
    simp only [UInt32.toNat_toUInt8, UInt32.toNat_shiftRight, toNat_readU32be, UInt32.reduceToNat,
      Nat.reduceMod, Nat.shiftRight_eq_div_pow] <;> omega

theorem u16be_readU16be (b : List UInt8) (i : Nat) :
    u16be (readU16be b i) = [byteAt b i, byteAt b (i + 1)] := by
  have h0 := (byteAt b i).toNat_lt
  have h1 := (byteAt b (i + 1)).toNat_lt
  simp only [u16be, List.cons.injEq, and_true]
  refine ⟨?_, ?_⟩ <;> apply UInt8.toNat_inj.mp <;>
    simp only [UInt16.toNat_toUInt8, UInt16.toNat_shiftRight, toNat_readU16be, UInt16.reduceToNat,
      Nat.reduceMod, Nat.shiftRight_eq_div_pow] <;> omega

private theorem toUInt8_shiftRight_xor (x y k : UInt32) :
    ((x ^^^ y) >>> k).toUInt8 = (x >>> k).toUInt8 ^^^ (y >>> k).toUInt8 := by
  apply UInt8.toBitVec_inj.mp
  simp [BitVec.ushiftRight_xor_distrib]

/-- The bytes of an exclusive or. -/
theorem u32be_xor (x y : UInt32) :
    u32be (x ^^^ y) = List.zipWith (· ^^^ ·) (u32be x) (u32be y) := by
  simp only [u32be, toUInt8_shiftRight_xor, UInt32.toUInt8_xor, List.zipWith_cons_cons,
    List.zipWith_nil_left]

/-- Reading a word after a prefix. -/
theorem readU16be_append {p : List UInt8} {i : Nat} (hp : p.length = i) (b : List UInt8) (j : Nat) :
    readU16be (p ++ b) (i + j) = readU16be b j := by
  subst hp
  simp only [readU16be, byteAt, List.getD_eq_getElem?_getD, Nat.add_assoc]
  rw [List.getElem?_append_right (by omega), List.getElem?_append_right (by omega)]
  simp only [Nat.add_sub_cancel_left]

/-- Reading a word after a prefix. -/
theorem readU32be_append {p : List UInt8} {i : Nat} (hp : p.length = i) (b : List UInt8) (j : Nat) :
    readU32be (p ++ b) (i + j) = readU32be b j := by
  subst hp
  simp only [readU32be, byteAt, List.getD_eq_getElem?_getD, Nat.add_assoc]
  rw [List.getElem?_append_right (by omega), List.getElem?_append_right (by omega),
    List.getElem?_append_right (by omega), List.getElem?_append_right (by omega)]
  simp only [Nat.add_sub_cancel_left]

/-- The word written right behind a prefix. -/
theorem readU16be_append_u16be {p : List UInt8} {i : Nat} (hp : p.length = i) (x : UInt16)
    (b : List UInt8) : readU16be (p ++ (u16be x ++ b)) i = x :=
  (readU16be_append hp (u16be x ++ b) 0).trans (readU16be_u16be x b)

/-- The word written right behind a prefix. -/
theorem readU32be_append_u32be {p : List UInt8} {i : Nat} (hp : p.length = i) (x : UInt32)
    (b : List UInt8) : readU32be (p ++ (u32be x ++ b)) i = x :=
  (readU32be_append hp (u32be x ++ b) 0).trans (readU32be_u32be x b)

/-- A byte of the front of a list. -/
theorem byteAt_take {b : List UInt8} {n i : Nat} (h : i < n) :
    byteAt (b.take n) i = byteAt b i := by
  simp only [byteAt, List.getD_eq_getElem?_getD, List.getElem?_take_of_lt h]

/-- Byte strings that agree up to `n` have the same bytes there. -/
theorem byteAt_of_take_eq {p q : List UInt8} {n i : Nat} (h : q.take n = p.take n) (hi : i < n) :
    byteAt q i = byteAt p i := by
  rw [← byteAt_take hi, h, byteAt_take hi]

theorem readU16be_of_take_eq {p q : List UInt8} {n i : Nat} (h : q.take n = p.take n)
    (hi : i + 1 < n) : readU16be q i = readU16be p i := by
  rw [readU16be, readU16be, byteAt_of_take_eq h (by omega), byteAt_of_take_eq h hi]

theorem readU32be_of_take_eq {p q : List UInt8} {n i : Nat} (h : q.take n = p.take n)
    (hi : i + 3 < n) : readU32be q i = readU32be p i := by
  rw [readU32be, readU32be, byteAt_of_take_eq h (by omega), byteAt_of_take_eq h (by omega),
    byteAt_of_take_eq h (by omega), byteAt_of_take_eq h hi]

/-- Four bytes of a list that has them. -/
theorem take_four_drop {b : List UInt8} {i : Nat} (h : i + 4 ≤ b.length) :
    (b.drop i).take 4 = [byteAt b i, byteAt b (i + 1), byteAt b (i + 2), byteAt b (i + 3)] := by
  apply List.ext_getElem
  · simp only [List.length_take, List.length_drop, List.length_cons, List.length_nil]
    omega
  · intro k h1 h2
    have hk : k < 4 := h2
    simp only [List.getElem_take, List.getElem_drop, byteAt]
    rcases k with _ | _ | _ | _ | k
    · exact (List.getD_eq_getElem ..).symm
    · exact (List.getD_eq_getElem ..).symm
    · exact (List.getD_eq_getElem ..).symm
    · exact (List.getD_eq_getElem ..).symm
    · omega

theorem drop_eq_byteAt_cons {b : List UInt8} {i : Nat} (h : i < b.length) :
    b.drop i = byteAt b i :: b.drop (i + 1) := by
  rw [List.drop_eq_getElem_cons h, byteAt, List.getD_eq_getElem b 0 h]

/-- A byte behind an offset. -/
theorem byteAt_drop (b : List UInt8) (n i : Nat) : byteAt (b.drop n) i = byteAt b (n + i) := by
  simp only [byteAt, List.getD_eq_getElem?_getD, List.getElem?_drop]

theorem readU16be_drop (b : List UInt8) (n i : Nat) :
    readU16be (b.drop n) i = readU16be b (n + i) := by
  simp only [readU16be, byteAt_drop, Nat.add_assoc]

theorem readU32be_drop (b : List UInt8) (n i : Nat) :
    readU32be (b.drop n) i = readU32be b (n + i) := by
  simp only [readU32be, byteAt_drop, Nat.add_assoc]

/-- A byte that is overwritten elsewhere. -/
theorem byteAt_set_of_ne {b : List UInt8} {i j : Nat} (h : i ≠ j) (x : UInt8) :
    byteAt (b.set i x) j = byteAt b j := by
  simp only [byteAt, List.getD_eq_getElem?_getD, List.getElem?_set_ne h]

/-- A byte outside the range that is written stays as it is. -/
theorem writeAt_set {b v : List UInt8} {i j : Nat} (hv : i + v.length ≤ b.length)
    (hj : j < i ∨ i + v.length ≤ j) (x : UInt8) :
    writeAt (b.set j x) i v = (writeAt b i v).set j x := by
  apply List.ext_getElem?
  intro k
  rw [List.getElem?_set, getElem?_writeAt _ _ _ _ (by rwa [List.length_set]),
    getElem?_writeAt _ _ _ _ hv, List.getElem?_set, length_writeAt _ _ _ hv]
  by_cases hk : j = k
  · subst hk
    rw [if_neg (by omega), if_pos rfl, if_pos rfl]
  · rw [if_neg hk, if_neg hk]

end Nanortc.ForStd
