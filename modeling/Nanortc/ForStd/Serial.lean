import Mathlib

/-!
# Serial numbers

Sequence numbers that wrap are compared through the sign of their difference, read as a
two's complement number. A serial number stands for every unbounded position it is the
remainder of; the signed difference is the true distance as long as the two positions are
less than half the number space apart.

## Key results

- `i16_ofNat_sub_ofNat`, `i32_ofNat_sub_ofNat`: the signed difference of two positions
-/

namespace Nanortc.ForStd

/-- A 16-bit word as a two's complement number. -/
def i16 (x : UInt16) : Int := x.toInt16.toInt

/-- A 32-bit word as a two's complement number. -/
def i32 (x : UInt32) : Int := x.toInt32.toInt

theorem i16_eq (x : UInt16) :
    i16 x = if x.toNat < 2 ^ 15 then (x.toNat : Int) else x.toNat - 2 ^ 16 := by
  simp only [i16, Int16.toInt, UInt16.toBitVec_toInt16, BitVec.toInt_eq_toNat_cond,
    UInt16.toNat_toBitVec]
  split <;> split <;> omega

theorem i32_eq (x : UInt32) :
    i32 x = if x.toNat < 2 ^ 31 then (x.toNat : Int) else x.toNat - 2 ^ 32 := by
  simp only [i32, Int32.toInt, UInt32.toBitVec_toInt32, BitVec.toInt_eq_toNat_cond,
    UInt32.toNat_toBitVec]
  split <;> split <;> omega

/-- The signed difference of two 16-bit serial numbers is the distance of the positions they
stand for, when these are less than half the number space apart. -/
theorem i16_ofNat_sub_ofNat (a b : Nat) (hlo : (b : Int) - 2 ^ 15 ≤ a) (hhi : (a : Int) < b + 2 ^ 15) :
    i16 (UInt16.ofNat a - UInt16.ofNat b) = (a : Int) - b := by
  rw [i16_eq, UInt16.toNat_sub, UInt16.toNat_ofNat', UInt16.toNat_ofNat']
  split <;> omega

/-- The signed difference of two 32-bit serial numbers is the distance of the positions they
stand for, when these are less than half the number space apart. -/
theorem i32_ofNat_sub_ofNat (a b : Nat) (hlo : (b : Int) - 2 ^ 31 ≤ a) (hhi : (a : Int) < b + 2 ^ 31) :
    i32 (UInt32.ofNat a - UInt32.ofNat b) = (a : Int) - b := by
  rw [i32_eq, UInt32.toNat_sub, UInt32.toNat_ofNat', UInt32.toNat_ofNat']
  split <;> omega

end Nanortc.ForStd
