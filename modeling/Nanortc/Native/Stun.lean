import Nanortc.Native.Types

/-!
# STUN

The STUN codec of `nano_stun.c` and the CRC-32 of its FINGERPRINT attribute. Pointers into the
packet become the bytes they point at; a pointer that may be NULL is an `Option`.
-/

namespace Nanortc.Native

open Nanortc.ForStd

/-! ### CRC-32 -/

/-- `crc32_table`. -/
def crc32Table : List UInt32 := [
    0x00000000, 0x77073096, 0xEE0E612C, 0x990951BA, 0x076DC419, 0x706AF48F, 0xE963A535, 0x9E6495A3,
    0x0EDB8832, 0x79DCB8A4, 0xE0D5E91E, 0x97D2D988, 0x09B64C2B, 0x7EB17CBD, 0xE7B82D07, 0x90BF1D91,
    0x1DB71064, 0x6AB020F2, 0xF3B97148, 0x84BE41DE, 0x1ADAD47D, 0x6DDDE4EB, 0xF4D4B551, 0x83D385C7,
    0x136C9856, 0x646BA8C0, 0xFD62F97A, 0x8A65C9EC, 0x14015C4F, 0x63066CD9, 0xFA0F3D63, 0x8D080DF5,
    0x3B6E20C8, 0x4C69105E, 0xD56041E4, 0xA2677172, 0x3C03E4D1, 0x4B04D447, 0xD20D85FD, 0xA50AB56B,
    0x35B5A8FA, 0x42B2986C, 0xDBBBC9D6, 0xACBCF940, 0x32D86CE3, 0x45DF5C75, 0xDCD60DCF, 0xABD13D59,
    0x26D930AC, 0x51DE003A, 0xC8D75180, 0xBFD06116, 0x21B4F4B5, 0x56B3C423, 0xCFBA9599, 0xB8BDA50F,
    0x2802B89E, 0x5F058808, 0xC60CD9B2, 0xB10BE924, 0x2F6F7C87, 0x58684C11, 0xC1611DAB, 0xB6662D3D,
    0x76DC4190, 0x01DB7106, 0x98D220BC, 0xEFD5102A, 0x71B18589, 0x06B6B51F, 0x9FBFE4A5, 0xE8B8D433,
    0x7807C9A2, 0x0F00F934, 0x9609A88E, 0xE10E9818, 0x7F6A0DBB, 0x086D3D2D, 0x91646C97, 0xE6635C01,
    0x6B6B51F4, 0x1C6C6162, 0x856530D8, 0xF262004E, 0x6C0695ED, 0x1B01A57B, 0x8208F4C1, 0xF50FC457,
    0x65B0D9C6, 0x12B7E950, 0x8BBEB8EA, 0xFCB9887C, 0x62DD1DDF, 0x15DA2D49, 0x8CD37CF3, 0xFBD44C65,
    0x4DB26158, 0x3AB551CE, 0xA3BC0074, 0xD4BB30E2, 0x4ADFA541, 0x3DD895D7, 0xA4D1C46D, 0xD3D6F4FB,
    0x4369E96A, 0x346ED9FC, 0xAD678846, 0xDA60B8D0, 0x44042D73, 0x33031DE5, 0xAA0A4C5F, 0xDD0D7CC9,
    0x5005713C, 0x270241AA, 0xBE0B1010, 0xC90C2086, 0x5768B525, 0x206F85B3, 0xB966D409, 0xCE61E49F,
    0x5EDEF90E, 0x29D9C998, 0xB0D09822, 0xC7D7A8B4, 0x59B33D17, 0x2EB40D81, 0xB7BD5C3B, 0xC0BA6CAD,
    0xEDB88320, 0x9ABFB3B6, 0x03B6E20C, 0x74B1D29A, 0xEAD54739, 0x9DD277AF, 0x04DB2615, 0x73DC1683,
    0xE3630B12, 0x94643B84, 0x0D6D6A3E, 0x7A6A5AA8, 0xE40ECF0B, 0x9309FF9D, 0x0A00AE27, 0x7D079EB1,
    0xF00F9344, 0x8708A3D2, 0x1E01F268, 0x6906C2FE, 0xF762575D, 0x806567CB, 0x196C3671, 0x6E6B06E7,
    0xFED41B76, 0x89D32BE0, 0x10DA7A5A, 0x67DD4ACC, 0xF9B9DF6F, 0x8EBEEFF9, 0x17B7BE43, 0x60B08ED5,
    0xD6D6A3E8, 0xA1D1937E, 0x38D8C2C4, 0x4FDFF252, 0xD1BB67F1, 0xA6BC5767, 0x3FB506DD, 0x48B2364B,
    0xD80D2BDA, 0xAF0A1B4C, 0x36034AF6, 0x41047A60, 0xDF60EFC3, 0xA867DF55, 0x316E8EEF, 0x4669BE79,
    0xCB61B38C, 0xBC66831A, 0x256FD2A0, 0x5268E236, 0xCC0C7795, 0xBB0B4703, 0x220216B9, 0x5505262F,
    0xC5BA3BBE, 0xB2BD0B28, 0x2BB45A92, 0x5CB36A04, 0xC2D7FFA7, 0xB5D0CF31, 0x2CD99E8B, 0x5BDEAE1D,
    0x9B64C2B0, 0xEC63F226, 0x756AA39C, 0x026D930A, 0x9C0906A9, 0xEB0E363F, 0x72076785, 0x05005713,
    0x95BF4A82, 0xE2B87A14, 0x7BB12BAE, 0x0CB61B38, 0x92D28E9B, 0xE5D5BE0D, 0x7CDCEFB7, 0x0BDBDF21,
    0x86D3D2D4, 0xF1D4E242, 0x68DDB3F8, 0x1FDA836E, 0x81BE16CD, 0xF6B9265B, 0x6FB077E1, 0x18B74777,
    0x88085AE6, 0xFF0F6A70, 0x66063BCA, 0x11010B5C, 0x8F659EFF, 0xF862AE69, 0x616BFFD3, 0x166CCF45,
    0xA00AE278, 0xD70DD2EE, 0x4E048354, 0x3903B3C2, 0xA7672661, 0xD06016F7, 0x4969474D, 0x3E6E77DB,
    0xAED16A4A, 0xD9D65ADC, 0x40DF0B66, 0x37D83BF0, 0xA9BCAE53, 0xDEBB9EC5, 0x47B2CF7F, 0x30B5FFE9,
    0xBDBDF21C, 0xCABAC28A, 0x53B39330, 0x24B4A3A6, 0xBAD03605, 0xCDD70693, 0x54DE5729, 0x23D967BF,
    0xB3667A2E, 0xC4614AB8, 0x5D681B02, 0x2A6F2B94, 0xB40BBE37, 0xC30C8EA1, 0x5A05DF1B, 0x2D02EF8D]

/-- `nano_crc32`. -/
def nanoCrc32 (data : List UInt8) : UInt32 :=
  let crc := data.foldl (fun (crc : UInt32) (b : UInt8) =>
    (crc >>> 8) ^^^ crc32Table.getD ((crc ^^^ b.toUInt32) &&& 0xFF).toNat 0) 0xFFFFFFFF
  crc ^^^ 0xFFFFFFFF

/-! ### Constants -/

/-- `NANORTC_ADDR_SIZE`. -/
def addrSize : Nat := 16

/-- `STUN_HEADER_SIZE`. -/
def stunHeaderSize : Nat := 20

/-- `STUN_TXID_SIZE`. -/
def stunTxidSize : Nat := 12

/-- `STUN_MAGIC_COOKIE`. -/
def stunMagicCookie : UInt32 := 0x2112A442

/-- `STUN_FINGERPRINT_XOR`. -/
def stunFingerprintXor : UInt32 := 0x5354554E

/-- `STUN_BINDING_REQUEST`. -/
def stunBindingRequest : UInt16 := 0x0001

/-- `STUN_BINDING_RESPONSE`. -/
def stunBindingResponse : UInt16 := 0x0101

/-- `STUN_BINDING_ERROR`. -/
def stunBindingError : UInt16 := 0x0111

/-- `STUN_DATA_INDICATION`. -/
def stunDataIndication : UInt16 := 0x0017

/-- `STUN_FAMILY_IPV4`. -/
def stunFamilyIpv4 : UInt8 := 0x01

/-- `STUN_FAMILY_IPV6`. -/
def stunFamilyIpv6 : UInt8 := 0x02

/-- Attributes the parser looks at; every other type is skipped. -/
inductive StunAttr where
  | username
  | messageIntegrity
  | errorCode
  | channelNumber
  | lifetime
  | xorPeerAddress
  | data
  | realm
  | nonce
  | xorRelayedAddress
  | xorMappedAddress
  | priority
  | useCandidate
  | fingerprint
  | iceControlled
  | iceControlling
  | other
deriving Repr, DecidableEq

/-- The attribute of a wire type (`STUN_ATTR_*`). -/
def StunAttr.ofType (t : UInt16) : StunAttr :=
  if t = 0x0006 then .username
  else if t = 0x0008 then .messageIntegrity
  else if t = 0x0009 then .errorCode
  else if t = 0x000C then .channelNumber
  else if t = 0x000D then .lifetime
  else if t = 0x0012 then .xorPeerAddress
  else if t = 0x0013 then .data
  else if t = 0x0014 then .realm
  else if t = 0x0015 then .nonce
  else if t = 0x0016 then .xorRelayedAddress
  else if t = 0x0020 then .xorMappedAddress
  else if t = 0x0024 then .priority
  else if t = 0x0025 then .useCandidate
  else if t = 0x8028 then .fingerprint
  else if t = 0x8029 then .iceControlled
  else if t = 0x802A then .iceControlling
  else .other

/-! ### Messages -/

/-- An address as the XOR attributes carry it: STUN family code, port and 16 address bytes. -/
structure StunAddr where
  addr : List UInt8
  port : UInt16
  family : UInt8
deriving Repr, DecidableEq

/-- No address: zeroed memory, family 0. -/
def StunAddr.none : StunAddr := ⟨List.replicate addrSize 0, 0, 0⟩

/-- `stun_msg_t`. -/
structure StunMsg where
  type : UInt16
  length : UInt16
  transactionId : List UInt8
  username : Option (List UInt8) := Option.none
  priority : UInt32 := 0
  useCandidate : Bool := false
  hasFingerprint : Bool := false
  hasIntegrity : Bool := false
  integrityOffset : UInt16 := 0
  fingerprintValue : UInt32 := 0
  mapped : StunAddr := .none
  iceControlling : Option UInt64 := Option.none
  iceControlled : Option UInt64 := Option.none
  errorCode : UInt16 := 0
  lifetime : UInt32 := 0
  relayed : StunAddr := .none
  dataAttr : Option (List UInt8) := Option.none
  realm : Option (List UInt8) := Option.none
  nonce : Option (List UInt8) := Option.none
  peer : StunAddr := .none
  channelNumber : UInt16 := 0
deriving Repr, DecidableEq

/-- `attr_padded`. -/
def attrPadded (len : Nat) : Nat := (len + 3) / 4 * 4

/-- `read_u64`. -/
def readU64be (b : List UInt8) (i : Nat) : UInt64 :=
  (readU32be b i).toUInt64 <<< 32 ||| (readU32be b (i + 4)).toUInt64

/-- `stun_decode_xor_addr`. An IPv4 address overwrites the first four bytes of `out` and leaves
the others. -/
def stunDecodeXorAddr (val : List UInt8) (attrLen : Nat) (txid : List UInt8) (out : StunAddr) :
    Option StunAddr :=
  if attrLen < 8 then none
  else
    let family := byteAt val 1
    let port := readU16be val 2 ^^^ (stunMagicCookie >>> 16).toUInt16
    if family = stunFamilyIpv4 then
      some ⟨writeAt out.addr 0 (u32be (readU32be val 4 ^^^ stunMagicCookie)), port, family⟩
    else if family = stunFamilyIpv6 then
      if attrLen < 20 then none
      else
        let mask := u32be stunMagicCookie ++ txid
        some ⟨List.zipWith (· ^^^ ·) ((val.drop 4).take 16) mask, port, family⟩
    else none

/-- One attribute of the `switch` in `stun_parse`. -/
def stunParseAttr (msg : StunMsg) (attr : StunAttr) (attrLen pos : Nat) (val : List UInt8) :
    Except Rc StunMsg :=
  match attr with
  | .username => .ok { msg with username := some (val.take attrLen) }
  | .priority =>
    if attrLen ≠ 4 then .error .parse else .ok { msg with priority := readU32be val 0 }
  | .useCandidate => .ok { msg with useCandidate := true }
  | .xorMappedAddress =>
    match stunDecodeXorAddr val attrLen msg.transactionId msg.mapped with
    | none => .error .parse
    | some a => .ok { msg with mapped := a }
  | .xorRelayedAddress =>
    match stunDecodeXorAddr val attrLen msg.transactionId msg.relayed with
    | none => .error .parse
    | some a => .ok { msg with relayed := a }
  | .xorPeerAddress =>
    match stunDecodeXorAddr val attrLen msg.transactionId msg.peer with
    | none => .error .parse
    | some a => .ok { msg with peer := a }
  | .lifetime =>
    if attrLen ≠ 4 then .error .parse else .ok { msg with lifetime := readU32be val 0 }
  | .data => .ok { msg with dataAttr := some (val.take attrLen) }
  | .realm => .ok { msg with realm := some (val.take attrLen) }
  | .nonce => .ok { msg with nonce := some (val.take attrLen) }
  | .messageIntegrity =>
    if attrLen ≠ 20 then .error .parse
    else .ok { msg with hasIntegrity := true, integrityOffset := UInt16.ofNat pos }
  | .fingerprint =>
    if attrLen ≠ 4 then .error .parse
    else .ok { msg with hasFingerprint := true, fingerprintValue := readU32be val 0 }
  | .errorCode =>
    if attrLen < 4 then .error .parse
    else .ok { msg with
      errorCode := (byteAt val 2 &&& 0x07).toUInt16 * 100 + (byteAt val 3).toUInt16 }
  | .iceControlling =>
    if attrLen ≠ 8 then .error .parse
    else .ok { msg with iceControlling := some (readU64be val 0) }
  | .iceControlled =>
    if attrLen ≠ 8 then .error .parse
    else .ok { msg with iceControlled := some (readU64be val 0) }
  | .channelNumber =>
    if attrLen ≠ 4 then .error .parse else .ok { msg with channelNumber := readU16be val 0 }
  | .other => .ok msg

/-- The attribute walk of `stun_parse` from offset `pos`. Every turn advances by at least four
bytes, so `data.length` turns are enough. Nothing may follow FINGERPRINT, and behind
MESSAGE-INTEGRITY everything else is skipped. -/
def stunWalk (data : List UInt8) : (turns pos : Nat) → (afterIntegrity afterFingerprint : Bool) →
    StunMsg → Except Rc StunMsg
  | 0, _, _, _, msg => .ok msg
  | turns + 1, pos, afterIntegrity, afterFingerprint, msg =>
    if pos + 4 ≤ data.length then
      let attr := StunAttr.ofType (readU16be data pos)
      let attrLen := (readU16be data (pos + 2)).toNat
      let padded := attrPadded attrLen
      if pos + 4 + padded > data.length then .error .parse
      else if afterFingerprint then .error .parse
      else if afterIntegrity ∧ attr ≠ .fingerprint then
        stunWalk data turns (pos + (4 + padded)) afterIntegrity afterFingerprint msg
      else
        match stunParseAttr msg attr attrLen pos (data.drop (pos + 4)) with
        | .error e => .error e
        | .ok msg =>
          stunWalk data turns (pos + (4 + padded)) (afterIntegrity || attr == .messageIntegrity)
            (afterFingerprint || attr == .fingerprint) msg
    else .ok msg

/-- `stun_parse`. -/
def stunParse (data : List UInt8) : Except Rc StunMsg :=
  if data.length < stunHeaderSize then .error .parse
  else if byteAt data 0 &&& 0xC0 ≠ 0 then .error .parse
  else if readU32be data 4 ≠ stunMagicCookie then .error .parse
  else
    let length := readU16be data 2
    if length.toNat + stunHeaderSize ≠ data.length then .error .parse
    else if length &&& 3 ≠ 0 then .error .parse
    else
      stunWalk data data.length stunHeaderSize false false
        { type := readU16be data 0, length := length
          transactionId := (data.drop 8).take stunTxidSize }

/-! ### Verification -/

/-- `stun_verify_fingerprint`. -/
def stunVerifyFingerprint (data : List UInt8) : Rc :=
  if data.length < stunHeaderSize + 8 then .invalidParam
  else
    let fpOffset := data.length - 8
    if readU16be data fpOffset ≠ 0x8028 ∨ readU16be data (fpOffset + 2) ≠ 4 then .protocol
    else if fpOffset > 548 then .protocol
    else
      let fpValue := readU32be data (fpOffset + 4)
      let msgCopy := writeAt (data.take fpOffset) 2
        (u16be (UInt16.ofNat (data.length - stunHeaderSize)))
      if nanoCrc32 msgCopy ^^^ stunFingerprintXor ≠ fpValue then .protocol else .ok

/-- `stun_verify_integrity`. -/
def stunVerifyIntegrity (crypto : CryptoProvider) (data : List UInt8) (msg : StunMsg)
    (key : List UInt8) : Rc :=
  let offset := msg.integrityOffset.toNat
  if !msg.hasIntegrity then .protocol
  else if offset + 24 > data.length then .parse
  else if offset > 548 then .protocol
  else
    let adjustedLen := UInt16.ofNat (offset - stunHeaderSize + 24)
    let hmacInput := writeAt (data.take offset) 2 (u16be adjustedLen)
    if crypto.hmacSha1 key hmacInput ≠ (data.drop (offset + 4)).take 20 then .protocol else .ok

/-! ### Encoding -/

/-- `write_attr_hdr` and the padded value. -/
def stunAttr (type : UInt16) (val : List UInt8) : List UInt8 :=
  u16be type ++ u16be (UInt16.ofNat val.length) ++ val ++
    List.replicate (attrPadded val.length - val.length) 0

/-- `write_stun_header`. -/
def stunHeader (type length : UInt16) (txid : List UInt8) : List UInt8 :=
  u16be type ++ u16be length ++ u32be stunMagicCookie ++ txid

/-- `append_integrity_fingerprint`: sign the message so far, then fingerprint it, the header
length set for each. -/
def appendIntegrityFingerprint (crypto : CryptoProvider) (buf : List UInt8) (bufLen : Nat)
    (key : List UInt8) : Except Rc (List UInt8) :=
  if buf.length + 24 + 8 > bufLen then .error .bufferTooSmall
  else
    let buf := writeAt buf 2 (u16be (UInt16.ofNat (buf.length - stunHeaderSize + 24)))
    let buf := buf ++ stunAttr 0x0008 (crypto.hmacSha1 key buf)
    let buf := writeAt buf 2 (u16be (UInt16.ofNat (buf.length - stunHeaderSize + 8)))
    .ok (buf ++ stunAttr 0x8028 (u32be (nanoCrc32 buf ^^^ stunFingerprintXor)))

/-- The value of an XOR-encoded address attribute (RFC 8489 §14.2). -/
def stunXorAddr (a : StunAddr) (txid : List UInt8) : Option (List UInt8) :=
  let port := u16be (a.port ^^^ (stunMagicCookie >>> 16).toUInt16)
  if a.family = stunFamilyIpv4 then
    some ([0, stunFamilyIpv4] ++ port ++ u32be (readU32be a.addr 0 ^^^ stunMagicCookie))
  else if a.family = stunFamilyIpv6 then
    some ([0, stunFamilyIpv6] ++ port ++
      List.zipWith (· ^^^ ·) a.addr (u32be stunMagicCookie ++ txid))
  else none

/-- `stun_encode_binding_response`. -/
def stunEncodeBindingResponse (crypto : CryptoProvider) (req : StunMsg) (src : StunAddr)
    (key : List UInt8) (bufLen : Nat) : Except Rc (List UInt8) :=
  if bufLen < 76 then .error .bufferTooSmall
  else
    match stunXorAddr src req.transactionId with
    | none => .error .invalidParam
    | some val =>
      appendIntegrityFingerprint crypto
        (stunHeader stunBindingResponse 0 req.transactionId ++ stunAttr 0x0020 val) bufLen key

/-- `stun_encode_binding_request`. -/
def stunEncodeBindingRequest (crypto : CryptoProvider) (username : List UInt8) (priority : UInt32)
    (useCandidate isControlling : Bool) (tieBreaker : UInt64) (txid key : List UInt8)
    (bufLen : Nat) : Except Rc (List UInt8) :=
  let needed := stunHeaderSize + (4 + attrPadded username.length) + 8 + 12 +
    (if useCandidate then 4 else 0) + 24 + 8
  if bufLen < needed then .error .bufferTooSmall
  else
    let tie := u32be (tieBreaker >>> 32).toUInt32 ++ u32be tieBreaker.toUInt32
    appendIntegrityFingerprint crypto
      (stunHeader stunBindingRequest 0 txid ++ stunAttr 0x0006 username ++
        stunAttr 0x0024 (u32be priority) ++
        stunAttr (if isControlling then 0x802A else 0x8029) tie ++
        (if useCandidate then stunAttr 0x0025 [] else [])) bufLen key

end Nanortc.Native
