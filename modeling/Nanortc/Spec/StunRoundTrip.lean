import Nanortc.Spec.Checksums
import Nanortc.Spec.StunAuth

/-!
# STUN messages read back

A Binding Request or Response that the encoders build is parsed back to the values it was built
from. Its FINGERPRINT and MESSAGE-INTEGRITY are accepted as long as what they cover fits the copies
the verifiers make, and FINGERPRINT notices every changed byte outside the length field, which the
verifier sets itself.

## Key results

- `nanoCrc32_set_ne`: the checksum notices a changed byte
- `stunVerifyFingerprint_set`: so does FINGERPRINT
- `stunWalk_attr`, `Reads.append`: an encoded attribute, and a row of them, is read back
- `stunParse_signed`: a signed message is parsed to what its attributes say
- `stun_round_trip`: requests and responses
-/

namespace Nanortc.Spec

open Nanortc.ForStd Nanortc.Native

/-! ### The checksum -/

/-- **The checksum notices a changed byte.** -/
theorem nanoCrc32_set_ne {data : List UInt8} {i : Nat} {b : UInt8} (hi : i < data.length)
    (hb : b ≠ byteAt data i) : nanoCrc32 (data.set i b) ≠ nanoCrc32 data := by
  intro h
  rw [nanoCrc32_eq, nanoCrc32_eq, UInt32.xor_left_inj] at h
  have hget : data[i]? = some (byteAt data i) := by
    rw [byteAt, List.getD_eq_getElem _ _ hi]
    exact List.getElem?_eq_getElem hi
  exact crcFold_set_ne crcTable_crc32 hget hb _ h

/-- The copy that FINGERPRINT is computed over. -/
def fingerprinted (data : List UInt8) : List UInt8 :=
  writeAt (data.take (data.length - 8)) 2 (u16be (UInt16.ofNat (data.length - stunHeaderSize)))

/-- What an accepted FINGERPRINT says. -/
theorem stunVerifyFingerprint_ok_iff (data : List UInt8) :
    stunVerifyFingerprint data = .ok ↔
      stunHeaderSize + 8 ≤ data.length ∧ readU16be data (data.length - 8) = 0x8028 ∧
      readU16be data (data.length - 8 + 2) = 4 ∧ data.length - 8 ≤ 548 ∧
      nanoCrc32 (fingerprinted data) ^^^ stunFingerprintXor =
        readU32be data (data.length - 8 + 4) := by
  have hguard {c : Prop} [Decidable c] {a b : Rc} (ha : a ≠ .ok) :
      (if c then a else b) = .ok ↔ ¬ c ∧ b = .ok := by
    split
    · rename_i hc
      exact ⟨fun h => absurd h ha, fun h => absurd hc h.1⟩
    · rename_i hc
      exact ⟨fun h => ⟨hc, h⟩, fun h => h.2⟩
  simp only [stunVerifyFingerprint, fingerprinted, hguard (show Rc.invalidParam ≠ .ok by decide),
    hguard (show Rc.protocol ≠ .ok by decide), not_or, not_not, and_true, Nat.not_lt,
    gt_iff_lt, and_assoc]

/-- **FINGERPRINT notices a changed byte**, but for the length field: the verifier writes that
one itself. -/
theorem stunVerifyFingerprint_set {data : List UInt8} (h : stunVerifyFingerprint data = .ok)
    {i : Nat} {b : UInt8} (hi : i < data.length - 8) (h2 : i ≠ 2) (h3 : i ≠ 3)
    (hb : b ≠ byteAt data i) : stunVerifyFingerprint (data.set i b) ≠ .ok := by
  intro hset
  obtain ⟨hlong, -, -, -, hcrc⟩ := (stunVerifyFingerprint_ok_iff data).mp h
  simp only [stunHeaderSize] at hlong
  obtain ⟨-, -, -, -, hcrc'⟩ := (stunVerifyFingerprint_ok_iff _).mp hset
  have hroom : 2 + (u16be (UInt16.ofNat (data.length - stunHeaderSize))).length ≤
      (data.take (data.length - 8)).length := by
    rw [length_u16be, List.length_take]
    omega
  -- the copy changes in the same place
  have hcopy : fingerprinted (data.set i b) = (fingerprinted data).set i b := by
    simp only [fingerprinted, List.length_set, List.take_set]
    exact writeAt_set hroom (by rw [length_u16be]; omega) b
  have hbyte : byteAt (fingerprinted data) i = byteAt data i := by
    have hget := getElem?_writeAt (data.take (data.length - 8))
      (u16be (UInt16.ofNat (data.length - stunHeaderSize))) 2 i hroom
    rw [if_neg (by rw [length_u16be]; omega), List.getElem?_take_of_lt hi] at hget
    simp only [byteAt, List.getD_eq_getElem?_getD, fingerprinted, hget]
  have hlen : (fingerprinted data).length = data.length - 8 := by
    rw [fingerprinted, length_writeAt _ _ _ hroom, List.length_take]
    omega
  have hword (j : Nat) (hj : i < j) : byteAt (data.set i b) j = byteAt data j :=
    byteAt_set_of_ne (by omega) b
  rw [hcopy, List.length_set, readU32be, hword _ (by omega), hword _ (by omega),
    hword _ (by omega), hword _ (by omega), ← readU32be, ← hcrc, UInt32.xor_left_inj] at hcrc'
  exact nanoCrc32_set_ne (by omega) (by rwa [hbyte]) hcrc'

/-! ### Attributes -/

@[simp] theorem length_stunAttr (type : UInt16) (val : List UInt8) :
    (stunAttr type val).length = 4 + attrPadded val.length := by
  simp only [stunAttr, attrPadded, List.length_append, length_u16be, List.length_replicate]
  omega

/-- The type of an encoded attribute. -/
theorem stunAttr_type (type : UInt16) (val rest : List UInt8) :
    readU16be (stunAttr type val ++ rest) 0 = type := by
  simp only [stunAttr, List.append_assoc]
  exact readU16be_u16be _ _

/-- The length field of an encoded attribute. -/
theorem stunAttr_length (type : UInt16) (val rest : List UInt8) :
    readU16be (stunAttr type val ++ rest) 2 = UInt16.ofNat val.length := by
  simp only [stunAttr, List.append_assoc]
  exact readU16be_append_u16be rfl _ _

/-- The value of an encoded attribute. -/
theorem stunAttr_value (type : UInt16) (val rest : List UInt8) :
    (stunAttr type val ++ rest).drop 4 =
      val ++ (List.replicate (attrPadded val.length - val.length) 0 ++ rest) := by
  simp only [stunAttr, List.append_assoc]
  rfl

@[simp] theorem length_stunHeader (type length : UInt16) (txid : List UInt8) :
    (stunHeader type length txid).length = 8 + txid.length := by
  simp only [stunHeader, List.length_append, length_u16be, length_u32be]

/-- Setting the length field of a header. -/
theorem writeAt_stunHeader (type length length' : UInt16) (txid rest : List UInt8) :
    writeAt (stunHeader type length txid ++ rest) 2 (u16be length') =
      stunHeader type length' txid ++ rest := rfl

/-- **An encoded attribute is read back**: one turn of the walk over it. -/
theorem stunWalk_attr {data rest val : List UInt8} {type : UInt16} {turns pos : Nat} {mi : Bool}
    {msg msg1 : StunMsg} (hdata : data.drop pos = stunAttr type val ++ rest)
    (hval : val.length < 65536) (hskip : mi = true → StunAttr.ofType type = .fingerprint)
    (hread : ∀ tail, stunParseAttr msg (StunAttr.ofType type) val.length pos (val ++ tail) =
      .ok msg1) :
    stunWalk data (turns + 1) pos mi false msg =
      stunWalk data turns (pos + (stunAttr type val).length)
        (mi || StunAttr.ofType type == .messageIntegrity) (StunAttr.ofType type == .fingerprint)
        msg1 := by
  have hlen := congrArg List.length hdata
  rw [List.length_drop, List.length_append, length_stunAttr] at hlen
  have hpad : (UInt16.ofNat val.length).toNat = val.length := by
    rw [UInt16.toNat_ofNat']
    omega
  have htype : readU16be data pos = type := by
    rw [← Nat.add_zero pos, ← readU16be_drop, hdata, stunAttr_type]
  have hattrLen : readU16be data (pos + 2) = UInt16.ofNat val.length := by
    rw [← readU16be_drop, hdata, stunAttr_length]
  have hvalue : data.drop (pos + 4) =
      val ++ (List.replicate (attrPadded val.length - val.length) 0 ++ rest) := by
    rw [← List.drop_drop, hdata, stunAttr_value]
  rw [stunWalk, if_pos (by omega), htype, hattrLen, hpad]
  dsimp only
  rw [if_neg (by omega), if_neg Bool.false_ne_true, if_neg fun h => h.2 (hskip h.1), hvalue, hread,
    length_stunAttr, Bool.false_or]

/-- The walk reads `n` attributes in the bytes and comes out with `msg'`. -/
def Reads (body : List UInt8) (n : Nat) (msg msg' : StunMsg) : Prop :=
  ∀ ⦃data rest pos turns⦄, data.drop pos = body ++ rest →
    stunWalk data (turns + n) pos false false msg =
      stunWalk data turns (pos + body.length) false false msg'

theorem Reads.nil (msg : StunMsg) : Reads [] 0 msg msg := fun _ _ _ _ _ => rfl

/-- One attribute other than those that end a message. -/
theorem Reads.attr {type : UInt16} {val : List UInt8} {msg msg' : StunMsg}
    (hval : val.length < 65536) (hmi : StunAttr.ofType type ≠ .messageIntegrity)
    (hfp : StunAttr.ofType type ≠ .fingerprint)
    (hread : ∀ pos tail, stunParseAttr msg (StunAttr.ofType type) val.length pos (val ++ tail) =
      .ok msg') : Reads (stunAttr type val) 1 msg msg' := by
  intro data rest pos turns hdata
  rw [stunWalk_attr hdata hval (fun h => absurd h Bool.false_ne_true) (hread pos), Bool.false_or,
    beq_eq_false_iff_ne.mpr hmi, beq_eq_false_iff_ne.mpr hfp]

theorem Reads.append {b c : List UInt8} {n k : Nat} {msg msg' msg'' : StunMsg}
    (h : Reads b n msg msg') (h' : Reads c k msg' msg'') :
    Reads (b ++ c) (k + n) msg msg'' := by
  intro data rest pos turns hdata
  rw [List.append_assoc] at hdata
  have hrest : data.drop (pos + b.length) = c ++ rest := by
    rw [← List.drop_drop, hdata, List.drop_left]
  rw [← Nat.add_assoc, h hdata, h' hrest, List.length_append, Nat.add_assoc]

/-- The end of the walk. -/
theorem stunWalk_end {data : List UInt8} {pos : Nat} (h : data.length < pos + 4) (turns : Nat)
    (mi fp : Bool) (msg : StunMsg) : stunWalk data turns pos mi fp msg = .ok msg := by
  cases turns with
  | zero => rfl
  | succ turns => rw [stunWalk, if_neg (by omega)]

/-- The attributes that end a message. -/
theorem stunWalk_seals {data digest : List UInt8} {crc : UInt32} {pos : Nat}
    (hdata : data.drop pos = stunAttr 0x0008 digest ++ stunAttr 0x8028 (u32be crc))
    (h20 : digest.length = 20) (turns : Nat) (msg : StunMsg) :
    stunWalk data (turns + 2) pos false false msg = .ok { msg with
      hasIntegrity := true, integrityOffset := UInt16.ofNat pos
      hasFingerprint := true, fingerprintValue := crc } := by
  have hlen := congrArg List.length hdata
  rw [List.length_drop, List.length_append, length_stunAttr, length_stunAttr, h20] at hlen
  have hfp : data.drop (pos + (stunAttr 0x0008 digest).length) =
      stunAttr 0x8028 (u32be crc) ++ [] := by
    rw [← List.drop_drop, hdata, List.drop_left, List.append_nil]
  have hmi : StunAttr.ofType 0x0008 = .messageIntegrity := rfl
  have hmark : StunAttr.ofType 0x8028 = .fingerprint := rfl
  have hdone : data.length <
      pos + (stunAttr 0x0008 digest).length + (stunAttr 0x8028 (u32be crc)).length + 4 := by
    rw [length_stunAttr, length_stunAttr, h20]
    omega
  let msg1 : StunMsg := { msg with hasIntegrity := true, integrityOffset := UInt16.ofNat pos }
  let msg2 : StunMsg := { msg1 with hasFingerprint := true, fingerprintValue := crc }
  have hread (tail : List UInt8) : stunParseAttr msg (StunAttr.ofType 0x0008) digest.length pos
      (digest ++ tail) = .ok msg1 := by
    rw [hmi, stunParseAttr, if_neg (by omega)]
  have hread' (at' : Nat) (tail : List UInt8) : stunParseAttr msg1 (StunAttr.ofType 0x8028)
      (u32be crc).length at' (u32be crc ++ tail) = .ok msg2 := by
    rw [hmark, stunParseAttr, if_neg (by rw [length_u32be]; omega), readU32be_u32be]
  calc stunWalk data (turns + 2) pos false false msg
      = stunWalk data (turns + 1) (pos + (stunAttr 0x0008 digest).length) true false msg1 :=
        stunWalk_attr hdata (by omega) (fun h => absurd h Bool.false_ne_true) hread
    _ = stunWalk data turns (pos + (stunAttr 0x0008 digest).length +
          (stunAttr 0x8028 (u32be crc)).length) true true msg2 :=
        stunWalk_attr hfp (by rw [length_u32be]; omega) (fun _ => hmark) (hread' _)
    _ = .ok msg2 := stunWalk_end hdone turns true true msg2

/-! ### Signed messages -/

section

variable (crypto : CryptoProvider) (type : UInt16) (txid body key : List UInt8)

/-- The part of a message that MESSAGE-INTEGRITY covers, as it was when it was signed. -/
def coveredPart : List UInt8 := stunHeader type (UInt16.ofNat (body.length + 24)) txid ++ body

/-- The message in front of FINGERPRINT. -/
def sealedPart : List UInt8 :=
  stunHeader type (UInt16.ofNat (body.length + 32)) txid ++ (body ++
    stunAttr 0x0008 (crypto.hmacSha1 key (coveredPart type txid body)))

/-- The message: header, attributes, MESSAGE-INTEGRITY and FINGERPRINT. -/
def signedMessage : List UInt8 :=
  sealedPart crypto type txid body key ++
    stunAttr 0x8028 (u32be (nanoCrc32 (sealedPart crypto type txid body key) ^^^
      stunFingerprintXor))

theorem length_sealedPart (htxid : txid.length = stunTxidSize) :
    (sealedPart crypto type txid body key).length = body.length + 44 := by
  simp only [sealedPart, List.length_append, length_stunHeader, length_stunAttr,
    crypto.length_hmacSha1, htxid, stunTxidSize, attrPadded]
  omega

theorem length_signedMessage (htxid : txid.length = stunTxidSize) :
    (signedMessage crypto type txid body key).length = body.length + 52 := by
  rw [signedMessage, List.length_append, length_sealedPart _ _ _ _ _ htxid, length_stunAttr,
    length_u32be]
  rfl

/-- What `append_integrity_fingerprint` makes of a header and its attributes. -/
theorem appendIntegrityFingerprint_eq (htxid : txid.length = stunTxidSize) {bufLen : Nat}
    (hfit : body.length + 52 ≤ bufLen) :
    appendIntegrityFingerprint crypto (stunHeader type 0 txid ++ body) bufLen key =
      .ok (signedMessage crypto type txid body key) := by
  have hlen : (stunHeader type 0 txid ++ body).length = body.length + 20 := by
    rw [List.length_append, length_stunHeader, htxid, stunTxidSize]
    omega
  have hlen' (x : List UInt8) (hx : x.length = 24) (l : UInt16) :
      ((stunHeader type l txid ++ body) ++ x).length = body.length + 44 := by
    rw [List.length_append, List.length_append, length_stunHeader, htxid, hx, stunTxidSize]
    omega
  have h24 : body.length + 20 - stunHeaderSize + 24 = body.length + 24 := by
    rw [stunHeaderSize]; omega
  have h32 : body.length + 44 - stunHeaderSize + 8 = body.length + 32 := by
    rw [stunHeaderSize]; omega
  rw [appendIntegrityFingerprint, if_neg (by omega)]
  dsimp only
  rw [hlen, h24, writeAt_stunHeader, hlen' _ (by rw [length_stunAttr, crypto.length_hmacSha1]; rfl),
    h32, List.append_assoc, writeAt_stunHeader]
  rfl

end

/-! ### What is read back -/

section

variable {crypto : CryptoProvider} {type : UInt16} {txid body key : List UInt8}

theorem drop_signedMessage (htxid : txid.length = stunTxidSize) :
    (signedMessage crypto type txid body key).drop stunHeaderSize =
      body ++ (stunAttr 0x0008 (crypto.hmacSha1 key (coveredPart type txid body)) ++
        stunAttr 0x8028 (u32be (nanoCrc32 (sealedPart crypto type txid body key) ^^^
          stunFingerprintXor))) := by
  have hhead (l : UInt16) : (stunHeader type l txid).length = stunHeaderSize := by
    rw [length_stunHeader, htxid]
    rfl
  rw [signedMessage, sealedPart, List.append_assoc, ← hhead (UInt16.ofNat (body.length + 32)),
    List.drop_left, List.append_assoc]

/-- FINGERPRINT stands at the end. -/
theorem drop_signedMessage_sealed (htxid : txid.length = stunTxidSize) :
    (signedMessage crypto type txid body key).drop (body.length + 44) =
      stunAttr 0x8028 (u32be (nanoCrc32 (sealedPart crypto type txid body key) ^^^
        stunFingerprintXor)) ++ [] := by
  rw [signedMessage, ← length_sealedPart crypto type txid body key htxid, List.drop_left,
    List.append_nil]

/-- The value of FINGERPRINT. -/
theorem readU32be_signedMessage (htxid : txid.length = stunTxidSize) :
    readU32be (signedMessage crypto type txid body key) (body.length + 48) =
      nanoCrc32 (sealedPart crypto type txid body key) ^^^ stunFingerprintXor := by
  rw [show body.length + 48 = body.length + 44 + 4 + 0 by omega, ← readU32be_drop,
    ← List.drop_drop, drop_signedMessage_sealed htxid, stunAttr_value, readU32be_u32be]

/-- The header of a message: its type, the length of what follows it and the transaction id are
read back, and the walk starts behind it. -/
theorem stunParse_stunHeader {rest : List UInt8} (htxid : txid.length = stunTxidSize)
    (htype : (type >>> 8).toUInt8 &&& 0xC0 = 0) (hlen : rest.length < 65536)
    (hmult : rest.length % 4 = 0) :
    stunParse (stunHeader type (UInt16.ofNat rest.length) txid ++ rest) =
      stunWalk (stunHeader type (UInt16.ofNat rest.length) txid ++ rest)
        (rest.length + stunHeaderSize) stunHeaderSize false false
        { type := type, length := UInt16.ofNat rest.length, transactionId := txid } := by
  generalize hdata : stunHeader type (UInt16.ofNat rest.length) txid ++ rest = data
  have hsize : data.length = rest.length + stunHeaderSize := by
    rw [← hdata, List.length_append, length_stunHeader, htxid, stunTxidSize, stunHeaderSize]
    omega
  have hhead : data = u16be type ++ (u16be (UInt16.ofNat rest.length) ++
      (u32be stunMagicCookie ++ (txid ++ rest))) := by
    rw [← hdata]
    simp only [stunHeader, List.append_assoc]
  have h0 : byteAt data 0 = (type >>> 8).toUInt8 := by
    rw [hhead]
    rfl
  have hword : readU16be data 0 = type := by
    rw [hhead]
    exact readU16be_u16be _ _
  have hfield : readU16be data 2 = UInt16.ofNat rest.length := by
    rw [hhead]
    exact readU16be_append_u16be rfl _ _
  have hcookie : readU32be data 4 = stunMagicCookie := by
    rw [hhead, ← List.append_assoc]
    exact readU32be_append_u32be rfl _ _
  have hid : (data.drop 8).take stunTxidSize = txid := by
    rw [hhead, ← htxid]
    exact List.take_left
  have hnat : (UInt16.ofNat rest.length).toNat = rest.length := by
    rw [UInt16.toNat_ofNat']
    omega
  have hquad : UInt16.ofNat rest.length &&& 3 = 0 := by
    apply UInt16.toNat_inj.mp
    rw [UInt16.toNat_and, hnat]
    exact (Nat.and_two_pow_sub_one_eq_mod _ 2).trans (show _ = 0 by omega)
  rw [stunParse, if_neg (by rw [hsize]; omega), h0, if_neg (not_not.mpr htype), hcookie,
    if_neg (not_not.mpr rfl), hfield]
  dsimp only
  rw [hnat, if_neg (not_not.mpr hsize.symm), hquad, if_neg (not_not.mpr rfl), hword, hid, hsize]

/-- **A signed message is parsed** to what its attributes say. -/
theorem stunParse_signed {n : Nat} {msg : StunMsg} (htxid : txid.length = stunTxidSize)
    (htype : (type >>> 8).toUInt8 &&& 0xC0 = 0) (hlen : body.length + 32 < 65536)
    (hmult : body.length % 4 = 0) (hn : n ≤ body.length)
    (hreads : Reads body n
      { type := type, length := UInt16.ofNat (body.length + 32), transactionId := txid } msg) :
    stunParse (signedMessage crypto type txid body key) = .ok { msg with
      hasIntegrity := true, integrityOffset := UInt16.ofNat (stunHeaderSize + body.length)
      hasFingerprint := true
      fingerprintValue :=
        nanoCrc32 (sealedPart crypto type txid body key) ^^^ stunFingerprintXor } := by
  have hdrop := @drop_signedMessage crypto type txid body key htxid
  have hsize := length_signedMessage crypto type txid body key htxid
  have hrest : ((signedMessage crypto type txid body key).drop stunHeaderSize).length =
      body.length + 32 := by
    rw [List.length_drop, hsize, stunHeaderSize]
    omega
  have hhead : signedMessage crypto type txid body key =
      stunHeader type (UInt16.ofNat (body.length + 32)) txid ++
        (signedMessage crypto type txid body key).drop stunHeaderSize := by
    rw [hdrop]
    simp only [signedMessage, sealedPart, List.append_assoc]
  have hparse := @stunParse_stunHeader type txid
    ((signedMessage crypto type txid body key).drop stunHeaderSize) htxid htype (by omega)
    (by omega)
  rw [hrest, ← hhead] at hparse
  rw [hparse]
  -- the attributes, then MESSAGE-INTEGRITY and FINGERPRINT
  obtain ⟨k, hk⟩ : ∃ k, body.length + 32 + stunHeaderSize = k + 2 + n :=
    ⟨body.length + 50 - n, by rw [stunHeaderSize]; omega⟩
  have hseals : (signedMessage crypto type txid body key).drop (stunHeaderSize + body.length) =
      stunAttr 0x0008 (crypto.hmacSha1 key (coveredPart type txid body)) ++
        stunAttr 0x8028 (u32be (nanoCrc32 (sealedPart crypto type txid body key) ^^^
          stunFingerprintXor)) := by
    rw [← List.drop_drop, hdrop, List.drop_left]
  rw [hk, hreads hdrop]
  exact stunWalk_seals hseals (crypto.length_hmacSha1 _ _) k msg

/-- FINGERPRINT of a signed message is accepted when what it covers fits the verifier's copy. -/
theorem stunVerifyFingerprint_signed (htxid : txid.length = stunTxidSize) :
    stunVerifyFingerprint (signedMessage crypto type txid body key) = .ok ↔
      body.length + 44 ≤ 548 := by
  have hsize := length_signedMessage crypto type txid body key htxid
  have hsealed := length_sealedPart crypto type txid body key htxid
  have htake : (signedMessage crypto type txid body key).take (body.length + 44) =
      sealedPart crypto type txid body key := by
    rw [signedMessage, ← hsealed, List.take_left]
  have hcopy : fingerprinted (signedMessage crypto type txid body key) =
      sealedPart crypto type txid body key := by
    rw [fingerprinted, hsize, show body.length + 52 - 8 = body.length + 44 by omega, htake,
      show body.length + 52 - stunHeaderSize = body.length + 32 by rw [stunHeaderSize]; omega]
    rfl
  have htype : readU16be (signedMessage crypto type txid body key) (body.length + 44) = 0x8028 := by
    rw [← Nat.add_zero (body.length + 44), ← readU16be_drop,
      drop_signedMessage_sealed htxid, stunAttr_type]
  have hfour : readU16be (signedMessage crypto type txid body key) (body.length + 44 + 2) = 4 := by
    rw [← readU16be_drop, drop_signedMessage_sealed htxid, stunAttr_length]
    rfl
  rw [stunVerifyFingerprint_ok_iff, hcopy, hsize,
    show body.length + 52 - 8 = body.length + 44 by omega, htype, hfour,
    show body.length + 44 + 4 = body.length + 48 by omega, readU32be_signedMessage htxid]
  exact ⟨fun h => h.2.2.2.1, fun h => ⟨by rw [stunHeaderSize]; omega, rfl, rfl, h, rfl⟩⟩

/-- MESSAGE-INTEGRITY of a signed message is accepted when what it covers fits the verifier's
copy. -/
theorem stunVerifyIntegrity_signed (htxid : txid.length = stunTxidSize)
    (hlen : body.length + 32 < 65536) {msg : StunMsg} (hmi : msg.hasIntegrity = true)
    (hoff : msg.integrityOffset = UInt16.ofNat (stunHeaderSize + body.length)) :
    stunVerifyIntegrity crypto (signedMessage crypto type txid body key) msg key = .ok ↔
      stunHeaderSize + body.length ≤ 548 := by
  have hsize := length_signedMessage crypto type txid body key htxid
  have hnat : msg.integrityOffset.toNat = stunHeaderSize + body.length := by
    rw [hoff, UInt16.toNat_ofNat', stunHeaderSize]
    omega
  have hhead (l : UInt16) : (stunHeader type l txid ++ body).length =
      stunHeaderSize + body.length := by
    rw [List.length_append, length_stunHeader, htxid]
    rfl
  have hinput : writeAt ((signedMessage crypto type txid body key).take
      (stunHeaderSize + body.length)) 2 (u16be (UInt16.ofNat
        (stunHeaderSize + body.length - stunHeaderSize + 24))) = coveredPart type txid body := by
    rw [signedMessage, sealedPart, ← List.append_assoc, List.append_assoc,
      ← hhead (UInt16.ofNat (body.length + 32)), List.take_left, writeAt_stunHeader, hhead,
      Nat.add_sub_cancel_left]
    rfl
  have hdigest : ((signedMessage crypto type txid body key).drop
      (stunHeaderSize + body.length + 4)).take 20 =
      crypto.hmacSha1 key (coveredPart type txid body) := by
    rw [← List.drop_drop, ← List.drop_drop, drop_signedMessage htxid, List.drop_left,
      stunAttr_value, ← crypto.length_hmacSha1 key (coveredPart type txid body), List.take_left]
  simp only [stunVerifyIntegrity, hmi, hnat, hinput, hdigest, hsize]
  rw [if_neg (by decide), if_neg (by rw [stunHeaderSize]; omega)]
  split
  · exact ⟨fun h => (by cases h), fun h => by omega⟩
  · rw [if_neg (not_not.mpr rfl)]
    exact ⟨fun _ => by omega, fun _ => rfl⟩

end

/-! ### Requests and responses -/

/-- A message as the parser reports it once it is signed: the values it was built from, the length
of the datagram and the two attributes at its end. -/
def signedMsg (msg : StunMsg) (data : List UInt8) : StunMsg :=
  { msg with
    length := UInt16.ofNat (data.length - stunHeaderSize)
    hasIntegrity := true, integrityOffset := UInt16.ofNat (data.length - 32)
    hasFingerprint := true, fingerprintValue := readU32be data (data.length - 4) }

/-- The encoder's message of `size` bytes is read back as `msg` and verifies, as long as what the
two attributes cover fits 548 bytes; FINGERPRINT then covers every byte but the length field. -/
def RoundTrips (crypto : CryptoProvider) (key : List UInt8) (encoded : Except Rc (List UInt8))
    (size : Nat) (msg : StunMsg) : Prop :=
  ∃ data, encoded = .ok data ∧ data.length = size ∧
    stunParse data = .ok (signedMsg msg data) ∧
    (stunVerifyFingerprint data = .ok ↔ size - 8 ≤ 548) ∧
    (stunVerifyIntegrity crypto data (signedMsg msg data) key = .ok ↔ size - 32 ≤ 548) ∧
    ∀ i b, i < data.length - 8 → i ≠ 2 → i ≠ 3 → b ≠ byteAt data i →
      stunVerifyFingerprint (data.set i b) ≠ .ok

/-- Every message that the encoders sign is read back. -/
theorem roundTrips_signed {crypto : CryptoProvider} {type : UInt16} {txid body key : List UInt8}
    {n bufLen : Nat} {msg : StunMsg} (htxid : txid.length = stunTxidSize)
    (htype : (type >>> 8).toUInt8 &&& 0xC0 = 0) (hlen : body.length + 32 < 65536)
    (hmult : body.length % 4 = 0) (hn : n ≤ body.length) (hfit : body.length + 52 ≤ bufLen)
    (hreads : ∀ l, Reads body n { type := type, length := l, transactionId := txid }
      { msg with length := l }) :
    RoundTrips crypto key
      (appendIntegrityFingerprint crypto (stunHeader type 0 txid ++ body) bufLen key)
      (body.length + 52) msg := by
  have hsize := length_signedMessage crypto type txid body key htxid
  have hsigned : signedMsg msg (signedMessage crypto type txid body key) = { msg with
      length := UInt16.ofNat (body.length + 32)
      hasIntegrity := true, integrityOffset := UInt16.ofNat (stunHeaderSize + body.length)
      hasFingerprint := true
      fingerprintValue :=
        nanoCrc32 (sealedPart crypto type txid body key) ^^^ stunFingerprintXor } := by
    rw [signedMsg, hsize, show body.length + 52 - 4 = body.length + 48 by omega,
      readU32be_signedMessage htxid,
      show body.length + 52 - stunHeaderSize = body.length + 32 by rw [stunHeaderSize]; omega,
      show body.length + 52 - 32 = stunHeaderSize + body.length by rw [stunHeaderSize]; omega]
  have hverify := @stunVerifyFingerprint_signed crypto type txid body key htxid
  refine ⟨signedMessage crypto type txid body key,
    appendIntegrityFingerprint_eq crypto type txid body key htxid hfit, hsize, ?_, ?_, ?_, ?_⟩
  · rw [hsigned]
    exact stunParse_signed htxid htype hlen hmult hn (hreads _)
  · rw [hverify]
    omega
  · rw [stunVerifyIntegrity_signed htxid hlen rfl (by rw [hsigned]), stunHeaderSize]
    omega
  · intro i b hi h2 h3 hb hset
    -- a message too long for the copy is refused either way
    by_cases hok : stunVerifyFingerprint (signedMessage crypto type txid body key) = .ok
    · exact stunVerifyFingerprint_set hok hi h2 h3 hb hset
    · have := ((stunVerifyFingerprint_ok_iff _).mp hset).2.2.2.1
      rw [List.length_set, hsize] at this
      exact hok (hverify.mpr (by omega))

/-- What the parser reports of a Binding Request's own attributes. -/
def requestMsg (username txid : List UInt8) (priority : UInt32)
    (useCandidate isControlling : Bool) (tieBreaker : UInt64) : StunMsg :=
  { type := stunBindingRequest, length := 0, transactionId := txid
    username := some username, priority := priority, useCandidate := useCandidate
    iceControlling := if isControlling then some tieBreaker else none
    iceControlled := if isControlling then none else some tieBreaker }

/-- The bytes of a Binding Request. -/
def requestSize (usernameLen : Nat) (useCandidate : Bool) : Nat :=
  stunHeaderSize + (4 + attrPadded usernameLen) + 8 + 12 + (if useCandidate then 4 else 0) + 24 + 8

/-- Two words of a 64-bit value are read back as the value. -/
theorem readU64be_u32be (x : UInt64) (tail : List UInt8) :
    readU64be (u32be (x >>> 32).toUInt32 ++ u32be x.toUInt32 ++ tail) 0 = x := by
  have hx := x.toNat_lt
  rw [readU64be, List.append_assoc, readU32be_u32be, Nat.zero_add,
    readU32be_append_u32be (length_u32be _)]
  apply UInt64.toNat_inj.mp
  simp only [UInt64.toNat_or, UInt64.toNat_shiftLeft, UInt32.toNat_toUInt64, UInt64.toNat_toUInt32,
    UInt64.toNat_shiftRight, UInt64.reduceToNat, Nat.reduceMod]
  have hhigh : (x.toNat >>> 32 % 2 ^ 32) <<< 32 % 2 ^ 64 = (x.toNat / 2 ^ 32) <<< 32 := by
    rw [Nat.shiftRight_eq_div_pow, Nat.shiftLeft_eq, Nat.shiftLeft_eq]
    omega
  rw [hhigh, ← Nat.shiftLeft_add_eq_or_of_lt (by omega), Nat.shiftLeft_eq]
  omega

/-- The attributes of a Binding Request in front of MESSAGE-INTEGRITY. -/
def requestBody (username : List UInt8) (priority : UInt32) (useCandidate isControlling : Bool)
    (tieBreaker : UInt64) : List UInt8 :=
  stunAttr 0x0006 username ++ (stunAttr 0x0024 (u32be priority) ++
    (stunAttr (if isControlling then 0x802A else 0x8029)
      (u32be (tieBreaker >>> 32).toUInt32 ++ u32be tieBreaker.toUInt32) ++
      (if useCandidate then stunAttr 0x0025 [] else [])))

theorem length_requestBody (username : List UInt8) (priority : UInt32)
    (useCandidate isControlling : Bool) (tieBreaker : UInt64) :
    (requestBody username priority useCandidate isControlling tieBreaker).length + 52 =
      requestSize username.length useCandidate := by
  have huse : (if useCandidate then stunAttr 0x0025 [] else []).length =
      if useCandidate then 4 else 0 := by
    cases useCandidate <;> rfl
  simp only [requestBody, requestSize, List.length_append, length_stunAttr, length_u32be, huse,
    stunHeaderSize, attrPadded]
  omega

/-- The attributes of a Binding Request are read back. -/
theorem reads_request (username txid : List UInt8) (priority : UInt32)
    (useCandidate isControlling : Bool) (tieBreaker : UInt64) (hval : username.length < 65536)
    (l : UInt16) :
    Reads (requestBody username priority useCandidate isControlling tieBreaker)
      (if useCandidate then 4 else 3)
      { type := stunBindingRequest, length := l, transactionId := txid }
      { requestMsg username txid priority useCandidate isControlling tieBreaker with
        length := l } := by
  let msg0 : StunMsg := { type := stunBindingRequest, length := l, transactionId := txid }
  let msg1 : StunMsg := { msg0 with username := some username }
  let msg2 : StunMsg := { msg1 with priority := priority }
  let msg3 : StunMsg := { msg2 with
    iceControlling := if isControlling then some tieBreaker else none
    iceControlled := if isControlling then none else some tieBreaker }
  have h1 : Reads (stunAttr 0x0006 username) 1 msg0 msg1 :=
    Reads.attr hval (by decide) (by decide) fun pos tail => by
      show Except.ok _ = Except.ok _
      rw [List.take_left]
  have h2 : Reads (stunAttr 0x0024 (u32be priority)) 1 msg1 msg2 :=
    Reads.attr (by rw [length_u32be]; omega) (by decide) (by decide) fun pos tail => by
      show Except.ok _ = Except.ok _
      rw [readU32be_u32be]
  have h3 : Reads (stunAttr (if isControlling then 0x802A else 0x8029)
      (u32be (tieBreaker >>> 32).toUInt32 ++ u32be tieBreaker.toUInt32)) 1 msg2 msg3 := by
    cases isControlling with
    | true =>
      exact Reads.attr (by simp) (by decide) (by decide) fun pos tail => by
        show Except.ok _ = Except.ok _
        rw [readU64be_u32be]
        rfl
    | false =>
      exact Reads.attr (by simp) (by decide) (by decide) fun pos tail => by
        show Except.ok _ = Except.ok _
        rw [readU64be_u32be]
        rfl
  cases useCandidate with
  | true =>
    have h4 : Reads (stunAttr 0x0025 []) 1 msg3 { msg3 with useCandidate := true } :=
      Reads.attr (by simp) (by decide) (by decide) fun pos tail => rfl
    exact h1.append (h2.append (h3.append h4))
  | false => exact h1.append (h2.append (h3.append (Reads.nil msg3)))

/-- An exclusive or is undone by the same mask. -/
theorem zipWith_xor_cancel {a m : List UInt8} (h : a.length = m.length) :
    List.zipWith (· ^^^ ·) (List.zipWith (· ^^^ ·) a m) m = a := by
  induction a generalizing m with
  | nil => rfl
  | cons x a ih =>
    cases m with
    | nil => exact nomatch h
    | cons y m =>
      rw [List.zipWith_cons_cons, List.zipWith_cons_cons, ih (Nat.succ.inj h), UInt8.xor_assoc,
        UInt8.xor_self, UInt8.xor_zero]

/-- The address as the parser reports it: an IPv4 address fills the first four bytes. -/
def plainAddr (a : StunAddr) : StunAddr :=
  { a with addr := if a.family = stunFamilyIpv4 then a.addr.take 4 ++ List.replicate 12 0 else a.addr }

/-- The masked port is read and unmasked. -/
theorem xorAddr_port (fam : UInt8) (port : UInt16) (rest : List UInt8) :
    readU16be ([0, fam] ++ (u16be (port ^^^ (stunMagicCookie >>> 16).toUInt16) ++ rest)) 2 ^^^
      (stunMagicCookie >>> 16).toUInt16 = port := by
  rw [readU16be_append_u16be (show [0, fam].length = 2 from rfl), UInt16.xor_assoc, UInt16.xor_self, UInt16.xor_zero]

/-- An XOR-encoded address is decoded to the address. -/
theorem stunDecodeXorAddr_xorAddr {a : StunAddr} {txid val : List UInt8}
    (htxid : txid.length = stunTxidSize) (haddr : a.addr.length = addrSize)
    (h : stunXorAddr a txid = some val) (tail : List UInt8) :
    stunDecodeXorAddr (val ++ tail) val.length txid .none = some (plainAddr a) := by
  simp only [stunXorAddr] at h
  split at h
  · -- IPv4
    rename_i hfam
    obtain rfl := Option.some.inj h
    have hbytes : u32be (readU32be a.addr 0) = a.addr.take 4 := by
      rw [u32be_readU32be, ← take_four_drop (by rw [haddr, addrSize]; omega), List.drop_zero]
    have hword (p : List UInt8) (hp : p.length = 4) : readU32be (p ++
        (u32be (readU32be a.addr 0 ^^^ stunMagicCookie) ++ tail)) 4 ^^^ stunMagicCookie =
        readU32be a.addr 0 := by
      rw [readU32be_append_u32be hp, UInt32.xor_assoc, UInt32.xor_self, UInt32.xor_zero]
    have hport := xorAddr_port stunFamilyIpv4 a.port
      (u32be (readU32be a.addr 0 ^^^ stunMagicCookie) ++ tail)
    have hlen (p : UInt16) (w : UInt32) :
        ¬ ([0, stunFamilyIpv4] ++ u16be p ++ u32be w).length < 8 := by
      simp
    rw [stunDecodeXorAddr, if_neg (hlen _ _)]
    dsimp only
    rw [if_pos (show byteAt _ 1 = stunFamilyIpv4 from rfl), List.append_assoc,
      hword _ (by simp), hbytes, List.append_assoc, hport]
    -- the four bytes go over zeroed memory
    have hput : writeAt (List.replicate addrSize 0) 0 (a.addr.take 4) =
        a.addr.take 4 ++ List.replicate 12 0 := by
      rw [writeAt, List.length_take, haddr]
      rfl
    have hplain : plainAddr a = ⟨a.addr.take 4 ++ List.replicate 12 0, a.port, stunFamilyIpv4⟩ := by
      rw [plainAddr, if_pos hfam, ← hfam]
    rw [hplain, ← hput]
    rfl
  split at h
  · -- IPv6
    rename_i hne hfam
    obtain rfl := Option.some.inj h
    have hmask : (u32be stunMagicCookie ++ txid).length = a.addr.length := by
      rw [List.length_append, htxid, haddr]
      rfl
    have hmasked : (List.zipWith (· ^^^ ·) a.addr (u32be stunMagicCookie ++ txid)).length = 16 := by
      rw [List.length_zipWith, hmask, Nat.min_self, haddr]
      rfl
    have hport := xorAddr_port stunFamilyIpv6 a.port
      (List.zipWith (· ^^^ ·) a.addr (u32be stunMagicCookie ++ txid) ++ tail)
    have hlen (p : UInt16) : ([0, stunFamilyIpv6] ++ u16be p ++
        List.zipWith (· ^^^ ·) a.addr (u32be stunMagicCookie ++ txid)).length = 20 := by
      rw [List.length_append, hmasked]
      rfl
    have hbytes (p : List UInt8) (hp : p.length = 4) : ((p ++
        (List.zipWith (· ^^^ ·) a.addr (u32be stunMagicCookie ++ txid) ++ tail)).drop 4).take 16 =
        List.zipWith (· ^^^ ·) a.addr (u32be stunMagicCookie ++ txid) := by
      rw [← hp, List.drop_left, ← hmasked, List.take_left]
    rw [stunDecodeXorAddr, hlen, if_neg (by omega)]
    dsimp only
    have hfam6 (p : UInt16) (x : List UInt8) :
        byteAt ([0, stunFamilyIpv6] ++ u16be p ++ x ++ tail) 1 = stunFamilyIpv6 := rfl
    rw [hfam6, if_neg (by decide), if_pos rfl, if_neg (by omega), List.append_assoc, hbytes _ (by simp), zipWith_xor_cancel hmask.symm, List.append_assoc, hport,
      plainAddr, if_neg hne, ← hfam]
  · cases h

/-- The encoded address of either family. -/
theorem stunXorAddr_some {a : StunAddr} {txid : List UInt8} (htxid : txid.length = stunTxidSize)
    (haddr : a.addr.length = addrSize)
    (hfam : a.family = stunFamilyIpv4 ∨ a.family = stunFamilyIpv6) :
    ∃ val, stunXorAddr a txid = some val ∧
      val.length = if a.family = stunFamilyIpv4 then 8 else 20 := by
  rw [stunXorAddr]
  by_cases hv4 : a.family = stunFamilyIpv4
  · rw [if_pos hv4, if_pos hv4]
    exact ⟨_, rfl, by simp⟩
  · rw [if_neg hv4, if_neg hv4, if_pos (hfam.resolve_left hv4)]
    refine ⟨_, rfl, ?_⟩
    simp only [List.length_append, List.length_zipWith, List.length_cons, List.length_nil,
      length_u16be, length_u32be, htxid, haddr, stunTxidSize, addrSize]
    omega

section

variable (crypto : CryptoProvider) (key : List UInt8) {txid : List UInt8}

/-- A Binding Request is read back. -/
theorem roundTrips_request (htxid : txid.length = stunTxidSize) (username : List UInt8)
    (priority : UInt32) (useCandidate isControlling : Bool) (tieBreaker : UInt64) {bufLen : Nat}
    (hfit : requestSize username.length useCandidate ≤ bufLen)
    (hlong : requestSize username.length useCandidate ≤ stunHeaderSize + 65535) :
    RoundTrips crypto key
      (stunEncodeBindingRequest crypto username priority useCandidate isControlling tieBreaker
        txid key bufLen)
      (requestSize username.length useCandidate)
      (requestMsg username txid priority useCandidate isControlling tieBreaker) := by
  have hbody := length_requestBody username priority useCandidate isControlling tieBreaker
  have hpad : requestSize username.length useCandidate % 4 = 0 := by
    simp only [requestSize, attrPadded, stunHeaderSize]
    split <;> omega
  have hroom : 60 ≤ requestSize username.length useCandidate := by
    simp only [requestSize, stunHeaderSize]
    omega
  have hval : username.length < 65536 := by
    simp only [requestSize, attrPadded, stunHeaderSize] at hlong
    omega
  have hsigned : RoundTrips crypto key (appendIntegrityFingerprint crypto
      (stunHeader stunBindingRequest 0 txid ++
        requestBody username priority useCandidate isControlling tieBreaker) bufLen key) _ _ :=
    roundTrips_signed htxid (by decide) (by rw [stunHeaderSize] at hlong; omega) (by omega)
    (show (if useCandidate then 4 else 3) ≤ _ by split <;> omega) (by omega)
    (reads_request username txid priority useCandidate isControlling tieBreaker hval)
  rw [hbody] at hsigned
  rw [stunEncodeBindingRequest, if_neg (by show ¬ bufLen < requestSize _ _; omega)]
  simpa only [requestBody, List.append_assoc] using hsigned

/-- A Binding Response is read back. -/
theorem roundTrips_response (htxid : txid.length = stunTxidSize) {req : StunMsg} {src : StunAddr}
    {bufLen : Nat} (hreq : req.transactionId = txid) (haddr : src.addr.length = addrSize)
    (hfit : 76 ≤ bufLen) (hfam : src.family = stunFamilyIpv4 ∨ src.family = stunFamilyIpv6) :
    RoundTrips crypto key (stunEncodeBindingResponse crypto req src key bufLen)
      (if src.family = stunFamilyIpv4 then 64 else 76)
      { type := stunBindingResponse, length := 0, transactionId := txid
        mapped := plainAddr src } := by
  obtain ⟨val, hval, hlen⟩ := stunXorAddr_some htxid haddr hfam
  let msg : StunMsg :=
    { type := stunBindingResponse, length := 0, transactionId := txid, mapped := plainAddr src }
  have hshort : val.length < 65536 := by
    rw [hlen]
    split <;> omega
  have hreads (l : UInt16) : Reads (stunAttr 0x0020 val) 1
      { type := stunBindingResponse, length := l, transactionId := txid }
      { msg with length := l } :=
    Reads.attr hshort (by decide) (by decide) fun pos tail => by
      rw [show StunAttr.ofType 0x0020 = .xorMappedAddress from rfl, stunParseAttr,
        stunDecodeXorAddr_xorAddr htxid haddr hval]
  have hbody : (stunAttr 0x0020 val).length + 52 =
      if src.family = stunFamilyIpv4 then 64 else 76 := by
    rw [length_stunAttr, hlen]
    split <;> rfl
  have hsize : (stunAttr 0x0020 val).length = if src.family = stunFamilyIpv4 then 12 else 24 := by
    split at hbody <;> split <;> first | omega | contradiction
  have hsigned : RoundTrips crypto key (appendIntegrityFingerprint crypto
      (stunHeader stunBindingResponse 0 txid ++ stunAttr 0x0020 val) bufLen key) _ _ :=
    roundTrips_signed htxid (by decide) (by rw [hsize]; split <;> omega)
      (by rw [hsize]; split <;> omega) (by rw [hsize]; split <;> omega)
      (by rw [hsize]; split <;> omega) hreads
  rw [hbody] at hsigned
  rw [stunEncodeBindingResponse, if_neg (by omega), hreq, hval]
  exact hsigned

end

/-- **A message is read back.** Requests for every username whose message fits a 16-bit length,
and responses for every IPv4 and IPv6 address. -/
theorem stun_round_trip (crypto : CryptoProvider) (key txid : List UInt8)
    (htxid : txid.length = stunTxidSize) :
    (∀ username priority useCandidate isControlling tieBreaker bufLen,
      requestSize username.length useCandidate ≤ bufLen →
      requestSize username.length useCandidate ≤ stunHeaderSize + 65535 →
      RoundTrips crypto key
        (stunEncodeBindingRequest crypto username priority useCandidate isControlling tieBreaker
          txid key bufLen)
        (requestSize username.length useCandidate)
        (requestMsg username txid priority useCandidate isControlling tieBreaker)) ∧
    (∀ (req : StunMsg) (src : StunAddr) bufLen, req.transactionId = txid →
      src.addr.length = addrSize → 76 ≤ bufLen →
      (src.family = stunFamilyIpv4 ∨ src.family = stunFamilyIpv6) →
      RoundTrips crypto key (stunEncodeBindingResponse crypto req src key bufLen)
        (if src.family = stunFamilyIpv4 then 64 else 76)
        { type := stunBindingResponse, length := 0, transactionId := txid
          mapped := plainAddr src }) :=
  ⟨fun username priority useCandidate isControlling tieBreaker _ hfit hlong =>
    roundTrips_request crypto key htxid username priority useCandidate isControlling tieBreaker hfit
      hlong,
  fun _ _ _ hreq haddr hfit hfam =>
    roundTrips_response crypto key htxid hreq haddr hfit hfam⟩

/-- The round trip of a request of 80 bytes. -/
theorem stun_round_trip_demo :
    RoundTrips .checksum [0x6B]
      (stunEncodeBindingRequest .checksum [0x61, 0x3A, 0x62] 5 false true 9
        (List.replicate stunTxidSize 3) [0x6B] 200) 80
      (requestMsg [0x61, 0x3A, 0x62] (List.replicate stunTxidSize 3) 5 false true 9) :=
  (stun_round_trip .checksum [0x6B] (List.replicate stunTxidSize 3) rfl).1 _ 5 false true 9 200
    (by decide) (by decide)

/-- The limits: FINGERPRINT of a request with a username of 600 bytes is refused, and a changed
length byte goes unnoticed. -/
theorem stun_round_trip_limits :
    (∃ data, stunEncodeBindingRequest .checksum (List.replicate 600 0x61) 5 false true 9
        (List.replicate stunTxidSize 3) [0x6B] 1232 = .ok data ∧
      stunVerifyFingerprint data ≠ .ok) ∧
    ∃ data, stunEncodeBindingRequest .checksum [0x61, 0x3A, 0x62] 5 false true 9
        (List.replicate stunTxidSize 3) [0x6B] 200 = .ok data ∧
      byteAt data 3 ≠ 0 ∧ stunVerifyFingerprint (data.set 3 0) = .ok := by
  constructor
  · have hsize : requestSize (List.replicate 600 (0x61 : UInt8)).length false = 676 := by
      rw [List.length_replicate]
      rfl
    have htxid : (List.replicate stunTxidSize (3 : UInt8)).length = stunTxidSize := rfl
    have hfit : requestSize (List.replicate 600 (0x61 : UInt8)).length false ≤ 1232 := by
      rw [hsize]
      decide
    have hlong : requestSize (List.replicate 600 (0x61 : UInt8)).length false ≤
        stunHeaderSize + 65535 := by
      rw [hsize]
      decide
    obtain ⟨data, hdata, -, -, hfp, -⟩ :=
      roundTrips_request .checksum [0x6B] htxid _ 5 false true 9 hfit hlong
    rw [hsize] at hfp
    exact ⟨data, hdata, fun hok => absurd (hfp.mp hok) (by decide)⟩
  · exact ⟨demoSigned, by decide +kernel, by decide +kernel, by decide +kernel⟩

end Nanortc.Spec
