import Nanortc.ForStd.Crc
import Nanortc.Native.SctpCodec
import Nanortc.Native.Stun

/-!
# The two checksums

The tables of `nano_crc32.c` and `nano_crc32c.c` hold the remainders of all octets, so the checksums
are those of the division bit by bit, and they can be computed in segments.

## Key results

- `nanoCrc32_divides`, `nanoCrc32c_divides`: the checksums are remainders
- `nanoCrc32cUpdate_flatten`: segments one after the other
-/

namespace Nanortc.Spec

open Nanortc.ForStd Nanortc.Native

/-- The polynomial of CRC-32, reflected. -/
def crc32Poly : UInt32 := 0xEDB88320

/-- The Castagnoli polynomial, reflected. -/
def crc32cPoly : UInt32 := 0x82F63B78

/-- A checksum by division of the message bit by bit, with all ones for the initial value and a final
complement. -/
def crcDivision (poly : UInt32) (data : List UInt8) : UInt32 :=
  (data.flatMap byteBits).foldl (crcShift poly) 0xFFFFFFFF ^^^ 0xFFFFFFFF

theorem crc32Table_remainders : crc32Table = crcRemainders crc32Poly := by decide +kernel

theorem crc32cTable_remainders : crc32cTable = crcRemainders crc32cPoly := by decide +kernel

theorem crcTable_crc32 : CrcTable crc32Table :=
  crc32Table_remainders ▸ crcTable_of_remainders (by decide)

theorem nanoCrc32_eq (data : List UInt8) :
    nanoCrc32 data = data.foldl (crcStep crc32Table) 0xFFFFFFFF ^^^ 0xFFFFFFFF := rfl

theorem nanoCrc32cUpdate_eq (crc : UInt32) (data : List UInt8) :
    nanoCrc32cUpdate crc data = data.foldl (crcStep crc32cTable) crc := rfl

theorem nanoCrc32c_eq (data : List UInt8) :
    nanoCrc32c data = nanoCrc32cFinal (nanoCrc32cUpdate nanoCrc32cInit data) := rfl

/-- **CRC-32 is the remainder of the division.** -/
theorem nanoCrc32_divides (data : List UInt8) : nanoCrc32 data = crcDivision crc32Poly data := by
  rw [nanoCrc32_eq, crc32Table_remainders, foldl_crcStep]
  rfl

/-- **So is CRC-32c.** -/
theorem nanoCrc32c_divides (data : List UInt8) : nanoCrc32c data = crcDivision crc32cPoly data := by
  rw [nanoCrc32c_eq, nanoCrc32cUpdate_eq, crc32cTable_remainders, foldl_crcStep]
  rfl

theorem nanoCrc32cUpdate_append (crc : UInt32) (a b : List UInt8) :
    nanoCrc32cUpdate (nanoCrc32cUpdate crc a) b = nanoCrc32cUpdate crc (a ++ b) :=
  List.foldl_append.symm

/-- **Segments** one after the other are the whole. -/
theorem nanoCrc32cUpdate_flatten (crc : UInt32) (segments : List (List UInt8)) :
    segments.foldl nanoCrc32cUpdate crc = nanoCrc32cUpdate crc segments.flatten := by
  induction segments generalizing crc with
  | nil => rfl
  | cons a segments ih => rw [List.foldl_cons, ih, nanoCrc32cUpdate_append, List.flatten_cons]

/-- **The table-driven checksums** are those of the division bit by bit, in one piece or in any
segments. -/
theorem checksums_divide (data : List UInt8) (segments : List (List UInt8)) :
    nanoCrc32 data = crcDivision crc32Poly data ∧
    nanoCrc32c data = crcDivision crc32cPoly data ∧
    nanoCrc32cFinal (segments.foldl nanoCrc32cUpdate nanoCrc32cInit) = nanoCrc32c segments.flatten := by
  refine ⟨nanoCrc32_divides data, nanoCrc32c_divides data, ?_⟩
  rw [nanoCrc32cUpdate_flatten, nanoCrc32c_eq]

end Nanortc.Spec
