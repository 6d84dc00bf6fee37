import Mathlib

/-!
# Table-driven checksums

A checksum that folds a step over the bytes notices a changed byte when the step is injective in
the byte and in the state. The step of a table-driven CRC is, as soon as no two words of its table
share their top octet. A table that holds the remainders of all octets has this property, and its
CRC is the division bit by bit.

## Key results

- `foldl_set_ne`: a fold with an injective step notices a changed element
- `crcStep_injective`, `crcStep_byte_injective`: the step of a CRC
- `crcFold_set_ne`: a CRC notices a changed byte
- `foldl_crcStep`: a table of remainders divides as the single bits do
- `crcTable_of_remainders`: the words of such a table differ in their top octets
-/

namespace Nanortc.ForStd

/-! ### Folds -/

section

variable {σ α : Type*} {f : σ → α → σ}

/-- A step that is injective in the state keeps different states different. -/
theorem foldl_injective (hf : ∀ a, Function.Injective (f · a)) (l : List α) :
    Function.Injective (l.foldl f) := by
  induction l with
  | nil => exact fun _ _ h => h
  | cons a l ih =>
    intro s t h
    exact hf a (ih h)

/-- Two lists that differ at one place have different folds: the states differ behind that place
and stay different. -/
theorem foldl_set_ne (hf : ∀ a, Function.Injective (f · a)) (hg : ∀ s, Function.Injective (f s))
    {l : List α} {i : Nat} {a b : α} (hi : l[i]? = some a) (hb : b ≠ a) (s : σ) :
    (l.set i b).foldl f s ≠ l.foldl f s := by
  induction l generalizing i s with
  | nil => exact nomatch hi
  | cons x l ih =>
    cases i with
    | zero =>
      obtain rfl : x = a := Option.some.inj hi
      intro h
      exact hb (hg s (foldl_injective hf l h))
    | succ i => exact ih hi (f s x)

end

/-! ### CRC -/

/-- The table word that a state and a byte select. -/
def crcIndex (crc : UInt32) (b : UInt8) : Nat := ((crc ^^^ b.toUInt32) &&& 0xFF).toNat

/-- One byte of a reflected CRC-32. -/
def crcStep (table : List UInt32) (crc : UInt32) (b : UInt8) : UInt32 :=
  (crc >>> 8) ^^^ table.getD (crcIndex crc b) 0

/-- The top octet of a word. -/
def topOctet (w : UInt32) : UInt32 := w >>> 24

/-- A table of 256 words with 256 different top octets. -/
structure CrcTable (table : List UInt32) : Prop where
  length : table.length = 256
  tops : (table.map topOctet).Nodup

theorem crcIndex_eq (crc : UInt32) (b : UInt8) : crcIndex crc b = (crc.toNat ^^^ b.toNat) % 256 := by
  simp only [crcIndex, UInt32.toNat_and, UInt32.toNat_xor, UInt8.toNat_toUInt32]
  exact Nat.and_two_pow_sub_one_eq_mod _ 8

theorem crcIndex_lt (crc : UInt32) (b : UInt8) : crcIndex crc b < 256 := by
  rw [crcIndex_eq]
  omega

/-- The top octet of the new state is that of the table's word. -/
theorem crcStep_top (table : List UInt32) (crc : UInt32) (b : UInt8) :
    topOctet (crcStep table crc b) = topOctet (table.getD (crcIndex crc b) 0) := by
  apply UInt32.toNat_inj.mp
  have hc := crc.toNat_lt
  have hlow : (crc.toNat >>> 8) >>> 24 = 0 := by
    rw [← Nat.shiftRight_add, Nat.shiftRight_eq_div_pow]
    omega
  simp only [topOctet, crcStep, UInt32.toNat_shiftRight, UInt32.toNat_xor, UInt32.reduceToNat, Nat.reduceMod,
    Nat.shiftRight_xor_distrib, hlow, Nat.zero_xor]

/-- Exclusive or with the same number can be undone octet by octet. -/
theorem xor_mod_cancel {x y k : Nat} (h : (x ^^^ k) % 256 = (y ^^^ k) % 256) :
    x % 256 = y % 256 := by
  rw [show 256 = 2 ^ 8 from rfl, Nat.xor_mod_two_pow, Nat.xor_mod_two_pow] at h
  have := congrArg (· ^^^ k % 2 ^ 8) h
  simpa only [Nat.xor_assoc, Nat.xor_self, Nat.xor_zero] using this

section

variable {table : List UInt32}

/-- Equal states select equal words, so the step can be undone. -/
theorem CrcTable.index_eq (h : CrcTable table) {c c' : UInt32} {b b' : UInt8}
    (heq : crcStep table c b = crcStep table c' b') : crcIndex c b = crcIndex c' b' := by
  have htop := congrArg topOctet heq
  simp only [crcStep_top] at htop
  have hi : crcIndex c b < (table.map topOctet).length := by
    rw [List.length_map, h.length]
    exact crcIndex_lt c b
  have hi' : crcIndex c' b' < (table.map topOctet).length := by
    rw [List.length_map, h.length]
    exact crcIndex_lt c' b'
  apply (@List.Nodup.getElem_inj_iff _ _ h.tops _ hi _ hi').mp
  simp only [List.getElem_map]
  rwa [List.getD_eq_getElem _ _ (by simpa using hi), List.getD_eq_getElem _ _ (by simpa using hi')]
    at htop

/-- Different states stay different. -/
theorem crcStep_injective (h : CrcTable table) (b : UInt8) :
    Function.Injective (crcStep table · b) := by
  intro c c' heq
  have hindex := h.index_eq heq
  -- the words are equal, so the upper octets of the states are
  have hhigh : c >>> 8 = c' >>> 8 := by
    simp only [crcStep, hindex] at heq
    exact (UInt32.xor_left_inj _).mp heq
  -- and the byte has selected the same word, so the low octets are equal too
  have hlow : c.toNat % 256 = c'.toNat % 256 := by
    rw [crcIndex_eq, crcIndex_eq] at hindex
    exact xor_mod_cancel hindex
  have hnat := congrArg UInt32.toNat hhigh
  simp only [UInt32.toNat_shiftRight, UInt32.reduceToNat, Nat.reduceMod,
    Nat.shiftRight_eq_div_pow] at hnat
  apply UInt32.toNat_inj.mp
  omega

/-- Different bytes lead to different states. -/
theorem crcStep_byte_injective (h : CrcTable table) (c : UInt32) :
    Function.Injective (crcStep table c) := by
  intro b b' heq
  have hindex := h.index_eq heq
  rw [crcIndex_eq, crcIndex_eq, Nat.xor_comm, Nat.xor_comm c.toNat] at hindex
  have hb := b.toNat_lt
  have hb' := b'.toNat_lt
  have hmod := xor_mod_cancel hindex
  apply UInt8.toNat_inj.mp
  omega

/-- **A CRC notices a changed byte.** -/
theorem crcFold_set_ne (h : CrcTable table) {data : List UInt8} {i : Nat} {a b : UInt8}
    (hi : data[i]? = some a) (hb : b ≠ a) (init : UInt32) :
    (data.set i b).foldl (crcStep table) init ≠ data.foldl (crcStep table) init :=
  foldl_set_ne (crcStep_injective h) (crcStep_byte_injective h) hi hb init

end

/-! ### Division bit by bit -/

/-- One step of the reflected division: the state moves down by one bit, and the polynomial is
subtracted if the bit that leaves is set. -/
def crcBit (poly c : UInt32) : UInt32 :=
  if c.toNat.testBit 0 then (c >>> 1) ^^^ poly else c >>> 1

/-- One bit of a message. -/
def crcShift (poly c : UInt32) (bit : Bool) : UInt32 := crcBit poly (c ^^^ if bit then 1 else 0)

/-- The bits of a byte, the least significant one first. -/
def byteBits (b : UInt8) : List Bool := (List.range 8).map b.toNat.testBit

/-- The table of the remainders of all octets. -/
def crcRemainders (poly : UInt32) : List UInt32 :=
  (List.range 256).map fun i => (crcBit poly)^[8] (UInt32.ofNat i)

section

variable {poly : UInt32}

/-- The division is linear. -/
theorem crcBit_xor (x y : UInt32) : crcBit poly (x ^^^ y) = crcBit poly x ^^^ crcBit poly y := by
  unfold crcBit
  rw [UInt32.toNat_xor, Nat.testBit_xor, UInt32.shiftRight_xor]
  cases x.toNat.testBit 0 with
  | false =>
    cases y.toNat.testBit 0 with
    | false => rfl
    | true => exact UInt32.xor_assoc ..
  | true =>
    cases y.toNat.testBit 0 with
    | false =>
      show x >>> 1 ^^^ y >>> 1 ^^^ poly = x >>> 1 ^^^ poly ^^^ y >>> 1
      rw [UInt32.xor_assoc, UInt32.xor_comm (y >>> 1), UInt32.xor_assoc]
    | true =>
      show x >>> 1 ^^^ y >>> 1 = x >>> 1 ^^^ poly ^^^ (y >>> 1 ^^^ poly)
      rw [UInt32.xor_comm (y >>> 1) poly, UInt32.xor_assoc, ← UInt32.xor_assoc poly, UInt32.xor_self,
        UInt32.zero_xor]

theorem crcBits_xor (n : Nat) (x y : UInt32) :
    (crcBit poly)^[n] (x ^^^ y) = (crcBit poly)^[n] x ^^^ (crcBit poly)^[n] y := by
  induction n generalizing x y with
  | zero => rfl
  | succ n ih => rw [Function.iterate_succ_apply, Function.iterate_succ_apply,
      Function.iterate_succ_apply, crcBit_xor, ih]

theorem toNat_crcBit_even {c : UInt32} (h : c.toNat % 2 = 0) :
    (crcBit poly c).toNat = c.toNat / 2 := by
  have hbit : ¬ c.toNat.testBit 0 = true := by
    rw [Nat.testBit_zero, decide_eq_true_eq]
    omega
  unfold crcBit
  rw [if_neg hbit, UInt32.toNat_shiftRight, Nat.shiftRight_eq_div_pow]
  rfl

/-- A state whose low bits are clear only moves down. -/
theorem toNat_crcBits_clear {n : Nat} {c : UInt32} (h : c.toNat % 2 ^ n = 0) :
    ((crcBit poly)^[n] c).toNat = c.toNat / 2 ^ n := by
  induction n generalizing c with
  | zero => rw [Nat.pow_zero, Nat.div_one]; rfl
  | succ n ih =>
    have hdvd : 2 ^ (n + 1) ∣ c.toNat := Nat.dvd_of_mod_eq_zero h
    have heven : c.toNat % 2 = 0 :=
      Nat.mod_eq_zero_of_dvd ((Dvd.intro_left (2 ^ n) (Nat.pow_succ ..).symm).trans hdvd)
    have hhalf : (crcBit poly c).toNat = c.toNat / 2 := toNat_crcBit_even heven
    rw [Function.iterate_succ_apply, ih, hhalf, Nat.div_div_eq_div_mul, ← Nat.pow_succ']
    rw [hhalf]
    obtain ⟨k, hk⟩ := hdvd
    rw [hk, Nat.pow_succ, Nat.mul_right_comm, Nat.mul_div_cancel _ (by decide), Nat.mul_mod_right]

/-- The low bits of a number and the rest of it. -/
theorem xor_low_high (c n : Nat) : c % 2 ^ n ^^^ c >>> n <<< n = c := by
  refine Nat.eq_of_testBit_eq fun i => ?_
  rw [Nat.testBit_xor, Nat.testBit_mod_two_pow, Nat.testBit_shiftLeft, Nat.testBit_shiftRight]
  by_cases hi : i < n
  · rw [decide_eq_true hi, decide_eq_false (by omega), Bool.true_and, Bool.false_and, Bool.xor_false]
  · rw [decide_eq_false hi, decide_eq_true (by omega), Bool.false_and, Bool.true_and, Bool.false_xor,
      Nat.add_sub_cancel' (Nat.not_lt.mp hi)]

/-- Only the low bits of a state are divided, the others move down. -/
theorem crcBits_split (n : Nat) (c : UInt32) :
    (crcBit poly)^[n] c = (crcBit poly)^[n] (UInt32.ofNat (c.toNat % 2 ^ n)) ^^^
      UInt32.ofNat (c.toNat / 2 ^ n) := by
  have hc := c.toNat_lt
  have hle : c.toNat >>> n <<< n ≤ c.toNat := by
    rw [Nat.shiftRight_eq_div_pow, Nat.shiftLeft_eq]
    exact Nat.div_mul_le_self ..
  have hhigh : (UInt32.ofNat (c.toNat >>> n <<< n)).toNat = c.toNat >>> n <<< n := by
    rw [UInt32.toNat_ofNat', Nat.mod_eq_of_lt (Nat.lt_of_le_of_lt hle hc)]
  have hlow : (UInt32.ofNat (c.toNat % 2 ^ n)).toNat = c.toNat % 2 ^ n := by
    rw [UInt32.toNat_ofNat', Nat.mod_eq_of_lt (Nat.lt_of_le_of_lt (Nat.mod_le ..) hc)]
  have hsplit : c = UInt32.ofNat (c.toNat % 2 ^ n) ^^^ UInt32.ofNat (c.toNat >>> n <<< n) := by
    apply UInt32.toNat_inj.mp
    rw [UInt32.toNat_xor, hlow, hhigh, xor_low_high]
  have hdown : (crcBit poly)^[n] (UInt32.ofNat (c.toNat >>> n <<< n)) =
      UInt32.ofNat (c.toNat / 2 ^ n) := by
    have hmul : c.toNat >>> n <<< n = c.toNat / 2 ^ n * 2 ^ n := by
      rw [Nat.shiftRight_eq_div_pow, Nat.shiftLeft_eq]
    apply UInt32.toNat_inj.mp
    rw [toNat_crcBits_clear (by rw [hhigh, hmul]; exact Nat.mul_mod_left ..), hhigh, hmul,
      Nat.mul_div_cancel _ (Nat.two_pow_pos n), UInt32.toNat_ofNat',
      Nat.mod_eq_of_lt (Nat.lt_of_le_of_lt (Nat.div_le_self ..) hc)]
  conv_lhs => rw [hsplit]
  rw [crcBits_xor, hdown]

/-- Dividing the low bits of a number one by one. -/
theorem foldl_crcShift (c : UInt32) {v n : Nat} (hv : v < 2 ^ 32) :
    ((List.range n).map v.testBit).foldl (crcShift poly) c =
      (crcBit poly)^[n] (c ^^^ UInt32.ofNat (v % 2 ^ n)) := by
  induction n with
  | zero => rw [Nat.pow_zero, Nat.mod_one]; exact (UInt32.xor_zero).symm
  | succ n ih =>
    have hnat (k : Nat) : (UInt32.ofNat (v % k)).toNat = v % k := by
      rw [UInt32.toNat_ofNat', Nat.mod_eq_of_lt (Nat.lt_of_le_of_lt (Nat.mod_le ..) hv)]
    have hnext := @crcBits_split poly n (UInt32.ofNat (v % 2 ^ (n + 1)))
    have hlow : v % 2 ^ (n + 1) % 2 ^ n = v % 2 ^ n :=
      Nat.mod_mod_of_dvd v (Nat.pow_dvd_pow 2 (Nat.le_succ n))
    have hbit : v % 2 ^ (n + 1) / 2 ^ n = if v.testBit n then 1 else 0 := by
      rw [Nat.pow_succ, Nat.mod_mul_right_div_self, Nat.testBit_eq_decide_div_mod_eq]
      rcases Nat.mod_two_eq_zero_or_one (v / 2 ^ n) with h | h <;> rw [h] <;> rfl
    rw [hnat, hlow, hbit] at hnext
    rw [List.range_succ, List.map_append, List.foldl_append, ih]
    show crcBit poly ((crcBit poly)^[n] (c ^^^ UInt32.ofNat (v % 2 ^ n)) ^^^
      if v.testBit n then 1 else 0) = _
    rw [Function.iterate_succ_apply', crcBits_xor, crcBits_xor, hnext, UInt32.xor_assoc]
    cases v.testBit n <;> rfl

/-- **A table of remainders divides as the single bits do.** -/
theorem crcStep_remainders (c : UInt32) (b : UInt8) :
    crcStep (crcRemainders poly) c b = (byteBits b).foldl (crcShift poly) c := by
  have hb := b.toNat_lt
  have hsplit := @crcBits_split poly 8 (c ^^^ b.toUInt32)
  have hindex : (c ^^^ b.toUInt32).toNat % 2 ^ 8 = crcIndex c b := by
    rw [UInt32.toNat_xor, UInt8.toNat_toUInt32]
    exact (crcIndex_eq c b).symm
  have hrest : UInt32.ofNat ((c ^^^ b.toUInt32).toNat / 2 ^ 8) = c >>> 8 := by
    apply UInt32.toNat_inj.mp
    have hc := c.toNat_lt
    rw [UInt32.toNat_ofNat', UInt32.toNat_xor, UInt8.toNat_toUInt32, ← Nat.shiftRight_eq_div_pow,
      Nat.shiftRight_xor_distrib, Nat.shiftRight_eq_div_pow b.toNat, Nat.div_eq_of_lt hb, Nat.xor_zero,
      UInt32.toNat_shiftRight]
    exact Nat.mod_eq_of_lt (Nat.lt_of_le_of_lt (Nat.shiftRight_le ..) hc)
  have hbyte : UInt32.ofNat b.toNat = b.toUInt32 := by
    apply UInt32.toNat_inj.mp
    rw [UInt32.toNat_ofNat', UInt8.toNat_toUInt32, Nat.mod_eq_of_lt (by omega)]
  unfold byteBits
  rw [foldl_crcShift c (by omega), Nat.mod_eq_of_lt hb, hbyte, hsplit, hindex, hrest, UInt32.xor_comm]
  unfold crcStep crcRemainders
  have hlt := crcIndex_lt c b
  rw [List.getD_eq_getElem _ _ (by rw [List.length_map, List.length_range]; exact hlt),
    List.getElem_map, List.getElem_range]

/-- The whole checksum, without the initial value and the final complement. -/
theorem foldl_crcStep (data : List UInt8) (c : UInt32) :
    data.foldl (crcStep (crcRemainders poly)) c = (data.flatMap byteBits).foldl (crcShift poly) c := by
  induction data generalizing c with
  | nil => rfl
  | cons b data ih => rw [List.foldl_cons, ih, crcStep_remainders, List.flatMap_cons, List.foldl_append]

/-- The low octet of a state can be told from the top octet eight bits later: each bit that leaves
is seen in the top bit, where the polynomial puts it. -/
theorem crcBits_eq_zero (hpoly : 2 ^ 31 ≤ poly.toNat) {n : Nat} {c : UInt32} (hn : n ≤ 32)
    (hc : c.toNat < 2 ^ n) (htop : ((crcBit poly)^[n] c).toNat < 2 ^ (32 - n)) : c = 0 := by
  induction n generalizing c with
  | zero =>
    apply UInt32.toNat_inj.mp
    show c.toNat = 0
    omega
  | succ n ih =>
    rw [Function.iterate_succ_apply'] at htop
    generalize hr : (crcBit poly)^[n] c = r at htop
    have hle : 2 ^ (32 - (n + 1)) ≤ 2 ^ 31 := Nat.pow_le_pow_right (by decide) (by omega)
    -- an odd state would have shown in the top bit
    have heven : r.toNat % 2 = 0 := by
      by_contra hodd
      have hbit : r.toNat.testBit 0 = true := by
        rw [Nat.testBit_zero, decide_eq_true_eq]
        omega
      have hhalf : (r.toNat >>> 1).testBit 31 = false := by
        refine Nat.testBit_lt_two_pow ?_
        have hrlt := r.toNat_lt
        rw [Nat.shiftRight_eq_div_pow]
        omega
      have hpolybit : poly.toNat.testBit 31 = true := by
        have hlt := poly.toNat_lt
        rw [Nat.testBit_eq_decide_div_mod_eq, decide_eq_true_eq]
        omega
      have hset : (crcBit poly r).toNat.testBit 31 = true := by
        unfold crcBit
        rw [if_pos hbit, UInt32.toNat_xor, UInt32.toNat_shiftRight, Nat.testBit_xor, hpolybit]
        show ((r.toNat >>> 1).testBit 31 ^^ true) = true
        rw [hhalf]
        rfl
      have hge := Nat.ge_two_pow_of_testBit hset
      omega
    rw [toNat_crcBit_even heven] at htop
    have hrlt : r.toNat < 2 ^ (32 - n) := by
      have hpow : 2 ^ (32 - n) = 2 ^ (32 - (n + 1)) * 2 := by
        rw [← Nat.pow_succ]
        congr 1
        omega
      omega
    have hq : c.toNat / 2 ^ n < 2 := by
      rw [Nat.div_lt_iff_lt_mul (Nat.two_pow_pos n), ← Nat.pow_succ']
      exact hc
    have hqnat : (UInt32.ofNat (c.toNat / 2 ^ n)).toNat = c.toNat / 2 ^ n := by
      rw [UInt32.toNat_ofNat', Nat.mod_eq_of_lt (by omega)]
    have hlownat : (UInt32.ofNat (c.toNat % 2 ^ n)).toNat = c.toNat % 2 ^ n := by
      rw [UInt32.toNat_ofNat', Nat.mod_eq_of_lt (Nat.lt_of_le_of_lt (Nat.mod_le ..) c.toNat_lt)]
    have hsplit := @crcBits_split poly n c
    rw [hr] at hsplit
    have hlow : UInt32.ofNat (c.toNat % 2 ^ n) = 0 := by
      refine ih (by omega) (by rw [hlownat]; exact Nat.mod_lt _ (Nat.two_pow_pos n)) ?_
      have hxor : (crcBit poly)^[n] (UInt32.ofNat (c.toNat % 2 ^ n)) =
          r ^^^ UInt32.ofNat (c.toNat / 2 ^ n) := by
        rw [hsplit, UInt32.xor_assoc, UInt32.xor_self, UInt32.xor_zero]
      rw [hxor, UInt32.toNat_xor, hqnat]
      refine Nat.xor_lt_two_pow hrlt (Nat.lt_of_lt_of_le hq ?_)
      exact Nat.pow_le_pow_right (n := 2) (i := 1) (by decide) (by omega)
    have hrq : r.toNat = c.toNat / 2 ^ n := by
      have hzero : ((crcBit poly)^[n] (0 : UInt32)).toNat = 0 := by
        rw [toNat_crcBits_clear (Nat.zero_mod _)]
        exact Nat.zero_div _
      rw [hsplit, hlow, UInt32.toNat_xor, hzero, Nat.zero_xor, hqnat]
    apply UInt32.toNat_inj.mp
    have hlow := congrArg UInt32.toNat hlow
    rw [hlownat] at hlow
    have hdiv := Nat.div_add_mod c.toNat (2 ^ n)
    have hq0 : c.toNat / 2 ^ n = 0 := by omega
    rw [hq0, Nat.mul_zero, hlow] at hdiv
    exact hdiv.symm

/-- **The words of a table of remainders differ in their top octets.** -/
theorem crcTable_of_remainders (hpoly : 2 ^ 31 ≤ poly.toNat) : CrcTable (crcRemainders poly) where
  length := by
    unfold crcRemainders
    rw [List.length_map, List.length_range]
  tops := by
    unfold crcRemainders
    rw [List.map_map]
    refine List.Nodup.map_on (fun i hi j hj h => ?_) List.nodup_range
    have hi := List.mem_range.mp hi
    have hj := List.mem_range.mp hj
    have hnat (k : Nat) (hk : k < 256) : (UInt32.ofNat k).toNat = k := by
      rw [UInt32.toNat_ofNat', Nat.mod_eq_of_lt (by omega)]
    have hzero : UInt32.ofNat i ^^^ UInt32.ofNat j = 0 := by
      refine crcBits_eq_zero hpoly (n := 8) (by decide) ?_ ?_
      · rw [UInt32.toNat_xor, hnat i hi, hnat j hj]
        exact Nat.xor_lt_two_pow hi hj
      · have h : ((crcBit poly)^[8] (UInt32.ofNat i)) >>> 24 =
            ((crcBit poly)^[8] (UInt32.ofNat j)) >>> 24 := h
        have hshift : ((crcBit poly)^[8] (UInt32.ofNat i ^^^ UInt32.ofNat j)) >>> 24 = 0 := by
          rw [crcBits_xor, UInt32.shiftRight_xor, h, UInt32.xor_self]
        have hnat := congrArg UInt32.toNat hshift
        rw [UInt32.toNat_shiftRight, Nat.shiftRight_eq_div_pow] at hnat
        have hnat : ((crcBit poly)^[8] (UInt32.ofNat i ^^^ UInt32.ofNat j)).toNat / 2 ^ 24 = 0 := hnat
        omega
    have heq := congrArg UInt32.toNat ((UInt32.xor_eq_zero_iff).mp hzero)
    rwa [hnat i hi, hnat j hj] at heq

end

end Nanortc.ForStd
