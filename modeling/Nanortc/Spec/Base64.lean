import Mathlib
import Nanortc.ForStd.Base64
import Nanortc.Native.Base64

/-!
# Base64 is exact

What `nano_base64_encode` writes is read back by the decoder of RFC 4648, in four characters for
every three octets begun.

## Key results

- `kBase64Char_value`: the alphabet is that of the standard
- `nanoBase64Groups_decode`: the groups are read back
- `nanoBase64Encode_exact`: capacity, length and round trip
-/

namespace Nanortc.Spec

open Nanortc.ForStd Nanortc.Native

/-- The alphabet is that of the standard. -/
theorem kBase64Alphabet_value : ∀ k < 64, base64Value (kBase64Alphabet.getD k 0) = some k := by
  decide +kernel

/-! ### Triples as numbers -/

/-- Three octets side by side. -/
theorem toNat_triple (a b c : UInt8) :
    (a.toUInt32 <<< 16 ||| b.toUInt32 <<< 8 ||| c.toUInt32).toNat =
      a.toNat * 65536 + b.toNat * 256 + c.toNat := by
  have ha := a.toNat_lt
  have hb := b.toNat_lt
  have hc := c.toNat_lt
  have hshift (x : UInt8) (k : Nat) (n : UInt32) (hn : n.toNat % 32 = k) (hk : k ≤ 16) :
      (x.toUInt32 <<< n).toNat = x.toNat * 2 ^ k := by
    have hpow : x.toNat * 2 ^ k < 2 ^ 8 * 2 ^ 16 :=
      Nat.mul_lt_mul_of_lt_of_le x.toNat_lt (Nat.pow_le_pow_right (by decide) hk) (by decide)
    rw [UInt32.toNat_shiftLeft, UInt8.toNat_toUInt32, hn, Nat.shiftLeft_eq, Nat.mod_eq_of_lt]
    omega
  rw [UInt32.toNat_or, UInt32.toNat_or, hshift a 16 16 rfl (by decide), hshift b 8 8 rfl (by decide),
    UInt8.toNat_toUInt32]
  have hab : a.toNat * 2 ^ 16 ||| b.toNat * 2 ^ 8 = a.toNat * 2 ^ 16 + b.toNat * 2 ^ 8 := by
    rw [← Nat.shiftLeft_eq, Nat.shiftLeft_add_eq_or_of_lt (by omega)]
  have habc : a.toNat * 2 ^ 16 + b.toNat * 2 ^ 8 ||| c.toNat =
      a.toNat * 2 ^ 16 + b.toNat * 2 ^ 8 + c.toNat := by
    have hsplit : a.toNat * 2 ^ 16 + b.toNat * 2 ^ 8 = (a.toNat * 2 ^ 8 + b.toNat) <<< 8 := by
      rw [Nat.shiftLeft_eq]
      omega
    rw [hsplit, Nat.shiftLeft_add_eq_or_of_lt (by omega)]
  rw [hab, habc]
  rfl

/-- Six bits of a triple are read back. -/
theorem kBase64Char_value (t shift : UInt32) :
    base64Value (kBase64Char t shift) = some (t.toNat / 2 ^ (shift.toNat % 32) % 64) := by
  have hbits : (t >>> shift &&& 0x3F).toNat = t.toNat / 2 ^ (shift.toNat % 32) % 64 := by
    rw [UInt32.toNat_and, UInt32.toNat_shiftRight, Nat.shiftRight_eq_div_pow]
    exact Nat.and_two_pow_sub_one_eq_mod _ 6
  unfold kBase64Char
  rw [hbits]
  exact kBase64Alphabet_value _ (Nat.mod_lt _ (by decide))

/-! ### Groups -/

/-- The octets that six bits at a time come from. -/
theorem octets_of_triple {a b c t : Nat} (ha : a < 256) (hb : b < 256) (hc : c < 256)
    (ht : t = a * 65536 + b * 256 + c) :
    t / 2 ^ 18 % 64 * 4 + t / 2 ^ 12 % 64 / 16 = a ∧
      t / 2 ^ 12 % 64 % 16 * 16 + t / 2 ^ 6 % 64 / 4 = b ∧
      t / 2 ^ 6 % 64 % 4 * 64 + t / 2 ^ 0 % 64 = c := by
  omega

/-- **The groups are read back**, after what stood before them. -/
theorem nanoBase64Groups_decode (src dst : List UInt8) :
    ∃ text, nanoBase64Groups src dst = dst ++ text ∧ base64Decode text = some src ∧
      text.length = (src.length + 2) / 3 * 4 := by
  fun_induction nanoBase64Groups src dst with
  | case1 dst => exact ⟨[], (List.append_nil dst).symm, rfl, rfl⟩
  | case2 a dst triple =>
    have htriple : triple.toNat = a.toNat * 65536 + 0 * 256 + 0 := by
      refine Eq.trans ?_ (toNat_triple a 0 0)
      show triple.toNat = (triple ||| 0 ||| 0).toNat
      rw [UInt32.or_zero, UInt32.or_zero]
    obtain ⟨hfirst, -, -⟩ := octets_of_triple a.toNat_lt (by decide) (by decide) htriple
    refine ⟨_, rfl, ?_, by show 4 = (1 + 2) / 3 * 4; rfl⟩
    rw [base64Decode_pad_two (kBase64Char_value triple 18) (kBase64Char_value triple 12) ?_]
    · show some [UInt8.ofNat (triple.toNat / 2 ^ 18 % 64 * 4 + triple.toNat / 2 ^ 12 % 64 / 16)] = _
      rw [hfirst, UInt8.ofNat_toNat]
    · show triple.toNat / 2 ^ 12 % 64 % 16 = 0
      omega
  | case3 a b dst triple =>
    have htriple : triple.toNat = a.toNat * 65536 + b.toNat * 256 + 0 := by
      refine Eq.trans ?_ (toNat_triple a b 0)
      show triple.toNat = (triple ||| 0).toNat
      rw [UInt32.or_zero]
    obtain ⟨hfirst, hsecond, -⟩ :=
      octets_of_triple a.toNat_lt b.toNat_lt (by decide) htriple
    refine ⟨_, rfl, ?_, by show 4 = (2 + 2) / 3 * 4; rfl⟩
    rw [base64Decode_pad_one (kBase64Char_value triple 18) (kBase64Char_value triple 12)
      (kBase64Char_value triple 6) ?_]
    · show some [UInt8.ofNat (triple.toNat / 2 ^ 18 % 64 * 4 + triple.toNat / 2 ^ 12 % 64 / 16),
        UInt8.ofNat (triple.toNat / 2 ^ 12 % 64 % 16 * 16 + triple.toNat / 2 ^ 6 % 64 / 4)] = _
      rw [hfirst, hsecond, UInt8.ofNat_toNat, UInt8.ofNat_toNat]
    · show triple.toNat / 2 ^ 6 % 64 % 4 = 0
      omega
  | case4 a b c src dst triple ih =>
    obtain ⟨text, htext, hdecode, hlen⟩ := ih
    obtain ⟨hfirst, hsecond, hthird⟩ :=
      octets_of_triple a.toNat_lt b.toNat_lt c.toNat_lt (toNat_triple a b c)
    refine ⟨_, by rw [htext, List.append_assoc], ?_, ?_⟩
    · show base64Decode (kBase64Char triple 18 :: kBase64Char triple 12 :: kBase64Char triple 6 ::
        kBase64Char triple 0 :: text) = _
      rw [base64Decode_full (kBase64Char_value triple 18) (kBase64Char_value triple 12)
        (kBase64Char_value triple 6) (kBase64Char_value triple 0), hdecode]
      show some ([UInt8.ofNat (triple.toNat / 2 ^ 18 % 64 * 4 + triple.toNat / 2 ^ 12 % 64 / 16),
        UInt8.ofNat (triple.toNat / 2 ^ 12 % 64 % 16 * 16 + triple.toNat / 2 ^ 6 % 64 / 4),
        UInt8.ofNat (triple.toNat / 2 ^ 6 % 64 % 4 * 64 + triple.toNat / 2 ^ 0 % 64)] ++ src) = _
      rw [hfirst, hsecond, hthird, UInt8.ofNat_toNat, UInt8.ofNat_toNat, UInt8.ofNat_toNat]
      rfl
    · simp only [List.length_append, List.length_cons, List.length_nil]
      omega

/-- **The encoder is exact.** It succeeds where the buffer holds four characters for every three
octets begun and the terminator; it reports their number, writes nothing behind the terminator, and
its text is read back. -/
theorem nanoBase64Encode_exact (src dst : List UInt8) :
    ((nanoBase64Encode src dst).isOk ↔ 4 * (src.length ⌈/⌉ 3) + 1 ≤ dst.length) ∧
      ∀ buf len, nanoBase64Encode src dst = .ok (buf, len) →
        len = 4 * (src.length ⌈/⌉ 3) ∧ base64Decode (buf.take len) = some src ∧
          buf.drop len = 0 :: dst.drop (len + 1) := by
  have hceil : (src.length + 2) / 3 * 4 = 4 * (src.length ⌈/⌉ 3) := by
    rw [Nat.ceilDiv_eq_add_pred_div, Nat.mul_comm]
    rfl
  obtain ⟨text, htext, hdecode, hlength⟩ := nanoBase64Groups_decode src []
  rw [List.nil_append] at htext
  unfold nanoBase64Encode
  dsimp only
  rw [htext, hlength, hceil]
  by_cases hfit : dst.length < 4 * (src.length ⌈/⌉ 3) + 1
  · rw [if_pos hfit]
    exact ⟨⟨nofun, fun h => absurd hfit (Nat.not_lt.mpr h)⟩, fun buf len h => nomatch h⟩
  · rw [if_neg hfit]
    refine ⟨⟨fun _ => Nat.not_lt.mp hfit, fun _ => rfl⟩, fun buf len h => ?_⟩
    obtain ⟨rfl, rfl⟩ := Prod.mk.inj (Except.ok.inj h)
    rw [hceil] at hlength
    have hbuf : writeAt dst 0 (text ++ [0]) = text ++ 0 :: dst.drop (text.length + 1) := by
      unfold writeAt
      rw [List.take_zero, List.nil_append, List.append_assoc, List.length_append, Nat.zero_add]
      rfl
    rw [hbuf, ← hlength, List.take_left, List.drop_left]
    exact ⟨rfl, hdecode, rfl⟩

end Nanortc.Spec
