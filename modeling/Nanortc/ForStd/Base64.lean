import Mathlib

/-!
# Base64

The decoder of RFC 4648 section 4: four characters of the alphabet are three octets, the last four
may be padded, and the bits the padding stands for are zero.

## Key results

- `base64Decode_full`, `base64Decode_pad_one`, `base64Decode_pad_two`: what four characters add
-/

namespace Nanortc.ForStd

/-- The value of a character of the standard alphabet. -/
def base64Value (c : UInt8) : Option Nat :=
  if 0x41 ≤ c ∧ c ≤ 0x5A then some (c.toNat - 0x41)
  else if 0x61 ≤ c ∧ c ≤ 0x7A then some (c.toNat - 0x61 + 26)
  else if 0x30 ≤ c ∧ c ≤ 0x39 then some (c.toNat - 0x30 + 52)
  else if c = 0x2B then some 62
  else if c = 0x2F then some 63
  else none

/-- The octets of four characters; only the last four may be padded. -/
def base64Quantum (last : Bool) (a b c d : UInt8) : Option (List UInt8) := do
  let p ← base64Value a
  let q ← base64Value b
  let first := UInt8.ofNat (p * 4 + q / 16)
  if last ∧ c = 0x3D ∧ d = 0x3D then
    if q % 16 = 0 then some [first] else none
  else
    let r ← base64Value c
    let second := UInt8.ofNat (q % 16 * 16 + r / 4)
    if last ∧ d = 0x3D then
      if r % 4 = 0 then some [first, second] else none
    else
      let s ← base64Value d
      some [first, second, UInt8.ofNat (r % 4 * 64 + s)]

/-- The octets of a text. -/
def base64Decode : List UInt8 → Option (List UInt8)
  | [] => some []
  | a :: b :: c :: d :: rest => do
    let octets ← base64Quantum rest.isEmpty a b c d
    let tail ← base64Decode rest
    some (octets ++ tail)
  | _ => none

/-- The padding has no value. -/
theorem ne_pad_of_base64Value {c : UInt8} {v : Nat} (h : base64Value c = some v) : c ≠ 0x3D := by
  rintro rfl
  exact nomatch h

theorem base64Decode_cons {a b c d : UInt8} {rest octets : List UInt8}
    (h : base64Quantum rest.isEmpty a b c d = some octets) :
    base64Decode (a :: b :: c :: d :: rest) = (base64Decode rest).map (octets ++ ·) := by
  show (base64Quantum rest.isEmpty a b c d).bind _ = _
  rw [h]
  show (base64Decode rest).bind _ = _
  cases base64Decode rest with
  | none => rfl
  | some tail => rfl

section Quanta

variable {a b c d : UInt8} {p q r s : Nat}

/-- Four characters of the alphabet are three octets. -/
theorem base64Decode_full (ha : base64Value a = some p) (hb : base64Value b = some q)
    (hc : base64Value c = some r) (hd : base64Value d = some s) (rest : List UInt8) :
    base64Decode (a :: b :: c :: d :: rest) = (base64Decode rest).map
      ([UInt8.ofNat (p * 4 + q / 16), UInt8.ofNat (q % 16 * 16 + r / 4),
        UInt8.ofNat (r % 4 * 64 + s)] ++ ·) := by
  have hcp := ne_pad_of_base64Value hc
  have hdp := ne_pad_of_base64Value hd
  refine base64Decode_cons ?_
  simp only [base64Quantum, ha, hb, hc, hd, hcp, hdp, Option.bind_eq_bind, Option.bind_some,
    false_and, and_false, if_false]

/-- Two of them and the padding are one octet. -/
theorem base64Decode_pad_two (ha : base64Value a = some p) (hb : base64Value b = some q)
    (hq : q % 16 = 0) :
    base64Decode [a, b, 0x3D, 0x3D] = some [UInt8.ofNat (p * 4 + q / 16)] := by
  rw [@base64Decode_cons a b 0x3D 0x3D [] [UInt8.ofNat (p * 4 + q / 16)]]
  · rfl
  · simp only [base64Quantum, ha, hb, hq, Option.bind_eq_bind, Option.bind_some, List.isEmpty_nil,
      and_self, if_true]

/-- Three of them and the padding are two octets. -/
theorem base64Decode_pad_one (ha : base64Value a = some p) (hb : base64Value b = some q)
    (hc : base64Value c = some r) (hr : r % 4 = 0) :
    base64Decode [a, b, c, 0x3D] =
      some [UInt8.ofNat (p * 4 + q / 16), UInt8.ofNat (q % 16 * 16 + r / 4)] := by
  have hcp := ne_pad_of_base64Value hc
  rw [@base64Decode_cons a b c 0x3D [] [UInt8.ofNat (p * 4 + q / 16),
    UInt8.ofNat (q % 16 * 16 + r / 4)]]
  · rfl
  · simp only [base64Quantum, ha, hb, hc, hr, hcp, Option.bind_eq_bind, Option.bind_some,
      List.isEmpty_nil, false_and, and_false, and_self, if_false, if_true]

end Quanta

end Nanortc.ForStd
