import Nanortc.Native.Types

/-!
# SCTP codec

Parsing and building of SCTP packets after the codec sections of `nano_sctp.c`, with the CRC-32c of
`nano_crc32c.c`. A builder returns the bytes it wrote, none where the source returns a size of
zero. The checksum is stored as the bytes of a word in memory, so the host is little-endian.
-/

namespace Nanortc.Native

open Nanortc.ForStd

/-! ### CRC-32c -/

/-- `crc32c_table`. -/
def crc32cTable : List UInt32 := [
    0x00000000, 0xF26B8303, 0xE13B70F7, 0x1350F3F4, 0xC79A971F, 0x35F1141C, 0x26A1E7E8, 0xD4CA64EB,
    0x8AD958CF, 0x78B2DBCC, 0x6BE22838, 0x9989AB3B, 0x4D43CFD0, 0xBF284CD3, 0xAC78BF27, 0x5E133C24,
    0x105EC76F, 0xE235446C, 0xF165B798, 0x030E349B, 0xD7C45070, 0x25AFD373, 0x36FF2087, 0xC494A384,
    0x9A879FA0, 0x68EC1CA3, 0x7BBCEF57, 0x89D76C54, 0x5D1D08BF, 0xAF768BBC, 0xBC267848, 0x4E4DFB4B,
    0x20BD8EDE, 0xD2D60DDD, 0xC186FE29, 0x33ED7D2A, 0xE72719C1, 0x154C9AC2, 0x061C6936, 0xF477EA35,
    0xAA64D611, 0x580F5512, 0x4B5FA6E6, 0xB93425E5, 0x6DFE410E, 0x9F95C20D, 0x8CC531F9, 0x7EAEB2FA,
    0x30E349B1, 0xC288CAB2, 0xD1D83946, 0x23B3BA45, 0xF779DEAE, 0x05125DAD, 0x1642AE59, 0xE4292D5A,
    0xBA3A117E, 0x4851927D, 0x5B016189, 0xA96AE28A, 0x7DA08661, 0x8FCB0562, 0x9C9BF696, 0x6EF07595,
    0x417B1DBC, 0xB3109EBF, 0xA0406D4B, 0x522BEE48, 0x86E18AA3, 0x748A09A0, 0x67DAFA54, 0x95B17957,
    0xCBA24573, 0x39C9C670, 0x2A993584, 0xD8F2B687, 0x0C38D26C, 0xFE53516F, 0xED03A29B, 0x1F682198,
    0x5125DAD3, 0xA34E59D0, 0xB01EAA24, 0x42752927, 0x96BF4DCC, 0x64D4CECF, 0x77843D3B, 0x85EFBE38,
    0xDBFC821C, 0x2997011F, 0x3AC7F2EB, 0xC8AC71E8, 0x1C661503, 0xEE0D9600, 0xFD5D65F4, 0x0F36E6F7,
    0x61C69362, 0x93AD1061, 0x80FDE395, 0x72966096, 0xA65C047D, 0x5437877E, 0x4767748A, 0xB50CF789,
    0xEB1FCBAD, 0x197448AE, 0x0A24BB5A, 0xF84F3859, 0x2C855CB2, 0xDEEEDFB1, 0xCDBE2C45, 0x3FD5AF46,
    0x7198540D, 0x83F3D70E, 0x90A324FA, 0x62C8A7F9, 0xB602C312, 0x44694011, 0x5739B3E5, 0xA55230E6,
    0xFB410CC2, 0x092A8FC1, 0x1A7A7C35, 0xE811FF36, 0x3CDB9BDD, 0xCEB018DE, 0xDDE0EB2A, 0x2F8B6829,
    0x82F63B78, 0x709DB87B, 0x63CD4B8F, 0x91A6C88C, 0x456CAC67, 0xB7072F64, 0xA457DC90, 0x563C5F93,
    0x082F63B7, 0xFA44E0B4, 0xE9141340, 0x1B7F9043, 0xCFB5F4A8, 0x3DDE77AB, 0x2E8E845F, 0xDCE5075C,
    0x92A8FC17, 0x60C37F14, 0x73938CE0, 0x81F80FE3, 0x55326B08, 0xA759E80B, 0xB4091BFF, 0x466298FC,
    0x1871A4D8, 0xEA1A27DB, 0xF94AD42F, 0x0B21572C, 0xDFEB33C7, 0x2D80B0C4, 0x3ED04330, 0xCCBBC033,
    0xA24BB5A6, 0x502036A5, 0x4370C551, 0xB11B4652, 0x65D122B9, 0x97BAA1BA, 0x84EA524E, 0x7681D14D,
    0x2892ED69, 0xDAF96E6A, 0xC9A99D9E, 0x3BC21E9D, 0xEF087A76, 0x1D63F975, 0x0E330A81, 0xFC588982,
    0xB21572C9, 0x407EF1CA, 0x532E023E, 0xA145813D, 0x758FE5D6, 0x87E466D5, 0x94B49521, 0x66DF1622,
    0x38CC2A06, 0xCAA7A905, 0xD9F75AF1, 0x2B9CD9F2, 0xFF56BD19, 0x0D3D3E1A, 0x1E6DCDEE, 0xEC064EED,
    0xC38D26C4, 0x31E6A5C7, 0x22B65633, 0xD0DDD530, 0x0417B1DB, 0xF67C32D8, 0xE52CC12C, 0x1747422F,
    0x49547E0B, 0xBB3FFD08, 0xA86F0EFC, 0x5A048DFF, 0x8ECEE914, 0x7CA56A17, 0x6FF599E3, 0x9D9E1AE0,
    0xD3D3E1AB, 0x21B862A8, 0x32E8915C, 0xC083125F, 0x144976B4, 0xE622F5B7, 0xF5720643, 0x07198540,
    0x590AB964, 0xAB613A67, 0xB831C993, 0x4A5A4A90, 0x9E902E7B, 0x6CFBAD78, 0x7FAB5E8C, 0x8DC0DD8F,
    0xE330A81A, 0x115B2B19, 0x020BD8ED, 0xF0605BEE, 0x24AA3F05, 0xD6C1BC06, 0xC5914FF2, 0x37FACCF1,
    0x69E9F0D5, 0x9B8273D6, 0x88D28022, 0x7AB90321, 0xAE7367CA, 0x5C18E4C9, 0x4F48173D, 0xBD23943E,
    0xF36E6F75, 0x0105EC76, 0x12551F82, 0xE03E9C81, 0x34F4F86A, 0xC69F7B69, 0xD5CF889D, 0x27A40B9E,
    0x79B737BA, 0x8BDCB4B9, 0x988C474D, 0x6AE7C44E, 0xBE2DA0A5, 0x4C4623A6, 0x5F16D052, 0xAD7D5351]

/-- `nano_crc32c`. -/
def nanoCrc32c (data : List UInt8) : UInt32 :=
  let crc := data.foldl (fun (crc : UInt32) (b : UInt8) =>
    (crc >>> 8) ^^^ crc32cTable.getD ((crc ^^^ b.toUInt32) &&& 0xFF).toNat 0) 0xFFFFFFFF
  crc ^^^ 0xFFFFFFFF

/-- `nano_crc32c_init`. -/
def nanoCrc32cInit : UInt32 := 0xFFFFFFFF

/-- `nano_crc32c_update`. -/
def nanoCrc32cUpdate (crc : UInt32) (data : List UInt8) : UInt32 :=
  data.foldl (fun (crc : UInt32) (b : UInt8) =>
    (crc >>> 8) ^^^ crc32cTable.getD ((crc ^^^ b.toUInt32) &&& 0xFF).toNat 0) crc

/-- `nano_crc32c_final`. -/
def nanoCrc32cFinal (crc : UInt32) : UInt32 := crc ^^^ 0xFFFFFFFF

/-! ### Constants -/

/-- `SCTP_HEADER_SIZE`. -/
def sctpHeaderSize : Nat := 12

/-- `SCTP_CHUNK_HDR_SIZE`. -/
def sctpChunkHdrSize : Nat := 4

/-- `SCTP_INIT_BODY_SIZE`. -/
def sctpInitBodySize : Nat := 16

/-- `SCTP_DATA_HDR_SIZE`. -/
def sctpDataHdrSize : Nat := 12

/-- `SCTP_SACK_MIN_SIZE`. -/
def sctpSackMinSize : Nat := 12

/-- `NANORTC_SCTP_MTU`. -/
def sctpMtu : Nat := 1200

/-- `NANORTC_SCTP_MAX_GAP_BLOCKS`. -/
def sctpMaxGapBlocks : Nat := 4

/-- `SCTP_PAD4`. -/
def sctpPad4 (n : Nat) : Nat := (n + 3) / 4 * 4

/-- Chunk types (`SCTP_CHUNK_*`) that `nsctp_handle_data` tells apart. -/
inductive SctpChunkType where
  | data
  | init
  | initAck
  | sack
  | heartbeat
  | heartbeatAck
  | abort
  | shutdown
  | cookieEcho
  | cookieAck
  | forwardTsn
  | other
deriving Repr, DecidableEq

/-- The type of a chunk's first byte. -/
def SctpChunkType.ofType (t : UInt8) : SctpChunkType :=
  if t = 0 then .data
  else if t = 1 then .init
  else if t = 2 then .initAck
  else if t = 3 then .sack
  else if t = 4 then .heartbeat
  else if t = 5 then .heartbeatAck
  else if t = 6 then .abort
  else if t = 7 then .shutdown
  else if t = 10 then .cookieEcho
  else if t = 11 then .cookieAck
  else if t = 192 then .forwardTsn
  else .other

/-- `SCTP_DATA_FLAG_END`. -/
def sctpDataFlagEnd : UInt8 := 1

/-- `SCTP_DATA_FLAG_BEGIN`. -/
def sctpDataFlagBegin : UInt8 := 2

/-- `SCTP_DATA_FLAG_UNORDERED`. -/
def sctpDataFlagUnordered : UInt8 := 4

/-- A flag bit is set. -/
def hasFlag (flags bit : UInt8) : Bool := flags &&& bit != 0

/-! ### Parser -/

/-- `nsctp_header_t`. -/
structure NsctpHeader where
  srcPort : UInt16
  dstPort : UInt16
  vtag : UInt32
deriving Repr, DecidableEq

/-- `nsctp_parse_header`, on at least `SCTP_HEADER_SIZE` bytes. -/
def nsctpParseHeader (data : List UInt8) : NsctpHeader :=
  ⟨readU16be data 0, readU16be data 2, readU32be data 4⟩

/-- A word as it lies in memory. -/
def u32le (x : UInt32) : List UInt8 := (u32be x).reverse

/-- The checksum as `nsctp_verify_checksum` computes it, in three segments. -/
def nsctpSegmentedChecksum (data : List UInt8) : UInt32 :=
  let crc := nanoCrc32cUpdate nanoCrc32cInit (data.take 8)
  let crc := nanoCrc32cUpdate crc [0, 0, 0, 0]
  let crc := nanoCrc32cUpdate crc (data.drop 12)
  nanoCrc32cFinal crc

/-- `nsctp_verify_checksum`. -/
def nsctpVerifyChecksum (data : List UInt8) : Rc :=
  if data.length < sctpHeaderSize then .parse
  else if u32le (nsctpSegmentedChecksum data) ≠ (data.drop 8).take 4 then .protocol
  else .ok

/-- `nsctp_init_t`; a cookie of length zero is a NULL one for every caller. -/
structure NsctpInit where
  initiateTag : UInt32
  aRwnd : UInt32
  numOstreams : UInt16
  numIstreams : UInt16
  initialTsn : UInt32
  cookie : List UInt8 := []
  forwardTsnSupported : Bool := false
deriving Repr, DecidableEq

/-- The parameter scan of `nsctp_parse_init` from offset `pos`. Every turn advances by at least four
bytes, so as many turns as the chunk has bytes are enough. -/
def nsctpScanParams (chunk : List UInt8) : (turns pos : Nat) → NsctpInit → NsctpInit
  | 0, _, out => out
  | turns + 1, pos, out =>
    if pos + 4 ≤ (readU16be chunk 2).toNat ∧ pos + 4 ≤ chunk.length then
      let ptype := readU16be chunk pos
      let plen := (readU16be chunk (pos + 2)).toNat
      if plen < 4 then out
      else
        let out := { out with
          forwardTsnSupported := out.forwardTsnSupported || (ptype == 0xC000 && plen == 4) }
        let out :=
          if ptype = 7 ∧ pos + plen ≤ chunk.length then
            { out with cookie := (chunk.drop (pos + 4)).take (plen - 4) }
          else out
        nsctpScanParams chunk turns (pos + sctpPad4 plen) out
    else out

/-- `nsctp_parse_init`. -/
def nsctpParseInit (chunk : List UInt8) : Option NsctpInit :=
  if chunk.length < sctpChunkHdrSize + sctpInitBodySize then none
  else
    some (nsctpScanParams chunk chunk.length (sctpChunkHdrSize + sctpInitBodySize)
      { initiateTag := readU32be chunk 4
        aRwnd := readU32be chunk 8
        numOstreams := readU16be chunk 12
        numIstreams := readU16be chunk 14
        initialTsn := readU32be chunk 16 })

/-- `nsctp_data_t`. -/
structure NsctpData where
  tsn : UInt32
  streamId : UInt16
  ssn : UInt16
  ppid : UInt32
  flags : UInt8
  payload : List UInt8
deriving Repr, DecidableEq, Inhabited

/-- `nsctp_parse_data`. -/
def nsctpParseData (chunk : List UInt8) : Option NsctpData :=
  if chunk.length < sctpChunkHdrSize + sctpDataHdrSize then none
  else
    let clen := (readU16be chunk 2).toNat
    if clen < 16 ∨ clen > chunk.length then none
    else
      some {
        tsn := readU32be chunk 4
        streamId := readU16be chunk 8
        ssn := readU16be chunk 10
        ppid := readU32be chunk 12
        flags := byteAt chunk 1
        payload := (chunk.drop 16).take (clen - 16) }

/-- `nsctp_sack_t`. -/
structure NsctpSack where
  cumulativeTsn : UInt32
  aRwnd : UInt32
  numGapBlocks : UInt16
  numDupTsns : UInt16
deriving Repr, DecidableEq

/-- `nsctp_parse_sack`. -/
def nsctpParseSack (chunk : List UInt8) : Option NsctpSack :=
  if chunk.length < sctpChunkHdrSize + sctpSackMinSize then none
  else some ⟨readU32be chunk 4, readU32be chunk 8, readU16be chunk 12, readU16be chunk 14⟩

/-! ### Encoder -/

/-- `nsctp_encode_header`. -/
def nsctpEncodeHeader (srcPort dstPort : UInt16) (vtag : UInt32) : List UInt8 :=
  u16be srcPort ++ u16be dstPort ++ u32be vtag ++ u32be 0

/-- `nsctp_finalize_checksum`. -/
def nsctpFinalizeChecksum (packet : List UInt8) : List UInt8 :=
  let packet := writeAt packet 8 (u32be 0)
  writeAt packet 8 (u32le (nanoCrc32c packet))

/-- Chunk header of type, flags and unpadded length. -/
def sctpChunkHdr (type flags : UInt8) (clen : Nat) : List UInt8 :=
  [type, flags] ++ u16be (UInt16.ofNat clen)

/-- The bytes filled up with zeros to the next multiple of four. -/
def sctpPadded (b : List UInt8) : List UInt8 :=
  b ++ List.replicate (sctpPad4 b.length - b.length) 0

/-- `nsctp_encode_init`; an empty cookie is a NULL one. -/
def nsctpEncodeInit (bufLen : Nat) (type : UInt8) (initiateTag aRwnd : UInt32)
    (numOstreams numIstreams : UInt16) (initialTsn : UInt32) (cookie : List UInt8) : List UInt8 :=
  let need := 24 + if cookie.length ≠ 0 then sctpPad4 (4 + cookie.length) else 0
  if need > bufLen ∨ need > 65535 then []
  else
    let params :=
      if cookie.length ≠ 0 then
        sctpPadded (u16be 7 ++ u16be (UInt16.ofNat (4 + cookie.length)) ++ cookie)
      else []
    sctpChunkHdr type 0 need ++ u32be initiateTag ++ u32be aRwnd ++ u16be numOstreams ++
      u16be numIstreams ++ u32be initialTsn ++ params ++ u16be 0xC000 ++ u16be 4

/-- `nsctp_encode_cookie_echo`. -/
def nsctpEncodeCookieEcho (bufLen : Nat) (cookie : List UInt8) : List UInt8 :=
  if cookie.length > 65531 ∨ sctpPad4 (4 + cookie.length) > bufLen then []
  else sctpPadded (sctpChunkHdr 10 0 (sctpChunkHdrSize + cookie.length) ++ cookie)

/-- `nsctp_encode_cookie_ack`. -/
def nsctpEncodeCookieAck : List UInt8 := sctpChunkHdr 11 0 sctpChunkHdrSize

/-- `nsctp_encode_data`. -/
def nsctpEncodeData (bufLen : Nat) (d : NsctpData) : List UInt8 :=
  if d.payload.length > 65519 ∨ sctpPad4 (16 + d.payload.length) > bufLen then []
  else
    sctpPadded (sctpChunkHdr 0 d.flags (sctpChunkHdrSize + sctpDataHdrSize + d.payload.length) ++
      u32be d.tsn ++ u16be d.streamId ++ u16be d.ssn ++ u32be d.ppid ++ d.payload)

/-- The gap blocks of a SACK, as offsets behind the cumulative TSN; the list is newest first. -/
def sctpGapBlocks (cumulativeTsn : UInt32) : List UInt32 → List (Nat × Nat) → List (Nat × Nat)
  | [], blocks => blocks
  | tsn :: tsns, blocks =>
    if blocks.length ≥ sctpMaxGapBlocks then blocks
    else
      let offset := (tsn - cumulativeTsn).toUInt16.toNat
      match blocks with
      | [] => sctpGapBlocks cumulativeTsn tsns [(offset, offset)]
      | (start, stop) :: rest =>
        if offset = stop + 1 then sctpGapBlocks cumulativeTsn tsns ((start, offset) :: rest)
        else sctpGapBlocks cumulativeTsn tsns ((offset, offset) :: blocks)

/-- The insertion of `nsctp_encode_sack_with_gaps` into the sorted TSNs, last one first. -/
def sctpInsertTsn (key : UInt32) : List UInt32 → List UInt32
  | [] => [key]
  | tsn :: tsns => if i32 (tsn - key) > 0 then tsn :: sctpInsertTsn key tsns else key :: tsn :: tsns

/-- `nsctp_encode_sack_with_gaps` for the TSNs in the receive table that lie ahead. -/
def nsctpEncodeSackWithGaps (bufLen : Nat) (cumulativeTsn aRwnd : UInt32) (gapTsns : List UInt32) :
    List UInt8 :=
  let sorted := (gapTsns.foldl (fun sorted key => sctpInsertTsn key sorted) []).reverse
  let blocks := (sctpGapBlocks cumulativeTsn sorted []).reverse
  let clen := sctpChunkHdrSize + sctpSackMinSize + blocks.length * 4
  if bufLen < 16 ∨ clen > bufLen then []
  else
    sctpChunkHdr 3 0 clen ++ u32be cumulativeTsn ++ u32be aRwnd ++
      u16be (UInt16.ofNat blocks.length) ++ u16be 0 ++
      blocks.flatMap fun b => u16be (UInt16.ofNat b.1) ++ u16be (UInt16.ofNat b.2)

/-- `nsctp_encode_heartbeat`. -/
def nsctpEncodeHeartbeat (type : UInt8) (bufLen : Nat) (info : List UInt8) : List UInt8 :=
  if info.length > 65527 ∨ sctpPad4 (8 + info.length) > bufLen then []
  else
    sctpPadded (sctpChunkHdr type 0 (sctpChunkHdrSize + (4 + info.length)) ++ u16be 1 ++
      u16be (UInt16.ofNat (4 + info.length)) ++ info)

/-- `nsctp_encode_forward_tsn` with the stream list that `nsctp_forward_output` appends. -/
def nsctpEncodeForwardTsn (newCumulativeTsn : UInt32) (streams : List (UInt16 × UInt16)) :
    List UInt8 :=
  sctpChunkHdr 192 0 (sctpChunkHdrSize + 4 + 4 * streams.length) ++ u32be newCumulativeTsn ++
    streams.flatMap fun s => u16be s.1 ++ u16be s.2

end Nanortc.Native
