import Nanortc.ForStd.Run
import Nanortc.Native.Candidate
import Nanortc.Native.Media
import Nanortc.Native.Sctp

/-!
# Session descriptions

The parser and the generator of `nano_sdp.c`. The parser goes through the lines of a text and writes
what it finds into the negotiation state, an unfinished text included; the generator writes the
sections of the state in the order of their MIDs. Texts are byte lists; what the library itself puts
into a description is printable.
-/

namespace Nanortc.Native

open Nanortc.ForStd

/-- `NANORTC_SDP_MAX_CANDIDATES`. -/
def sdpMaxCandidates : Nat := 12

/-- `NANORTC_ICE_REMOTE_PWD_SIZE`. -/
def iceRemotePwdSize : Nat := 48

/-- `NANORTC_SDP_FINGERPRINT_SIZE`. -/
def sdpFingerprintSize : Nat := 104

/-- `NANORTC_SDP_MIN_BUF_SIZE`. -/
def sdpMinBufSize : Nat := 256

/-- `NANORTC_TWCC_EXT_ID`. -/
def defaultTwccExtId : UInt8 := 3

/-- `NANORTC_TWCC_EXT_URI`. -/
def twccExtUri : LineText :=
  .lit "http://www.ietf.org/id/draft-holmer-rmcat-transport-wide-cc-extensions-01"

/-- `nano_sdp_setup_t`. -/
inductive SdpSetup where
  | actpass
  | active
  | passive
deriving Repr, DecidableEq, Inhabited

/-- `nano_sdp_mline_t`; the codec is read in builds with H.265 only. -/
structure SdpMline where
  kind : TrackKind
  mid : UInt8
  pt : UInt8
  remotePt : UInt8 := 0
  sampleRate : UInt32
  channels : UInt8 := 0
  direction : Direction
  remoteDirection : Direction := .sendrecv
  active : Bool := true
  h264RtpmapPt : UInt8 := 0
  twccExtId : UInt8 := 0
deriving Repr, DecidableEq, Inhabited

/-- `nano_sdp_candidate_t`, with a literal of the library or a text of the peer. -/
structure SdpCandidate (Text : Type) where
  addr : Text
  port : UInt16
deriving Repr, DecidableEq, Inhabited

/-- `nano_sdp_t`. Arrays with a count are lists as long as the count. -/
structure NanoSdp where
  remoteUfrag : List UInt8 := []
  remotePwd : List UInt8 := []
  remoteFingerprint : List UInt8 := []
  remoteMaxMessageSize : Nat := 0
  remoteSctpPort : UInt16 := 0
  remoteSetup : SdpSetup := .actpass
  remoteCandidates : List (SdpCandidate (List UInt8)) := []
  localUfrag : LineText := .nil
  localPwd : LineText := .nil
  localFingerprint : LineText := .nil
  localSctpPort : UInt16 := 5000
  localSetup : SdpSetup := .passive
  localCandidates : List (SdpCandidate LineText) := []
  srflxCandidate : SdpCandidate LineText := ⟨.nil, 0⟩
  hasSrflxCandidate : Bool := false
  relayCandidate : SdpCandidate LineText := ⟨.nil, 0⟩
  hasRelayCandidate : Bool := false
  endOfCandidates : Bool := false
  mlines : List SdpMline := []
  hasDatachannel : Bool := false
  dcMid : UInt8 := 0
  midCount : UInt8 := 0
deriving Repr, DecidableEq

/-- `sdp_find_mline`. -/
def sdpFindMline (sdp : NanoSdp) (mid : UInt8) : Option SdpMline :=
  sdp.mlines.find? fun ml => ml.active && ml.mid == mid

/-! ### Fields of a line -/

/-- `line_starts_with`. -/
def lineStartsWith (line : List UInt8) (literal : String) : Bool :=
  (ascii literal).isPrefixOf line

/-- `parse_u32`: the number, reduced to 32 bits, and what follows its digits. -/
def parseU32 : (s : List UInt8) → (val : UInt32) → UInt32 × List UInt8
  | [], val => (val, [])
  | c :: s, val =>
    if isDigit c then parseU32 s (val * 10 + (c - 0x30).toUInt32) else (val, c :: s)

/-- A space or a tab. -/
def isBlank (c : UInt8) : Bool := c == 0x20 || c == 0x09

/-- The end of a line. -/
def isEol (c : UInt8) : Bool := c == 0x0D || c == 0x0A

/-- A text without the characters at its end. -/
def stripEnd (p : UInt8 → Bool) (s : List UInt8) : List UInt8 := (s.reverse.dropWhile p).reverse

/-- `extract_value`. -/
def extractValue (line : List UInt8) (literal : String) (dstSize : Nat) : List UInt8 :=
  let val := (line.drop (ascii literal).length).takeWhile fun c => !isEol c
  (stripEnd isBlank val).take (dstSize - 1)

/-- The text after a number of fields and the spaces behind them. -/
def skipFields : (n : Nat) → List UInt8 → List UInt8
  | 0, s => s
  | n + 1, s => skipFields n ((s.dropWhile (· ≠ 0x20)).dropWhile (· = 0x20))

/-- The literal stands somewhere in the text. -/
def hasText (literal : List UInt8) : List UInt8 → Bool
  | [] => literal.isPrefixOf []
  | c :: s => literal.isPrefixOf (c :: s) || hasText literal s

/-- `parse_mline_first_pt`. -/
def parseMlineFirstPt (line : List UInt8) (skip : Nat) : UInt8 :=
  (parseU32 (skipFields 2 (line.drop skip)) 0).1.toUInt8

/-- `parse_rtpmap`; audio lines are looked at and passed over. -/
def parseRtpmap (ml : SdpMline) (line : List UInt8) : SdpMline :=
  let s := line.drop 9
  let (pt, next) := parseU32 s 0
  if next.length = s.length ∨ next.head? ≠ some 0x20 then ml
  else
    match ml.kind with
    | .audio => ml
    | .video =>
      if (ascii "H264").isPrefixOf (next.drop 1) then { ml with h264RtpmapPt := pt.toUInt8 } else ml

/-- The video "a=fmtp:" branch of `sdp_parse`: a payload type of H.264 in packetization mode 1, the
preferred profile before others. -/
def parseFmtp (ml : SdpMline) (line : List UInt8) : SdpMline :=
  let (pt, next) := parseU32 (line.drop 7) 0
  let hasMode1 := hasText (ascii "packetization-mode=1") next
  let hasPreferredProfile := hasText (ascii "profile-level-id=42e01f") next
  let isValidH264 := hasMode1 ∧ (ml.h264RtpmapPt = 0 ∨ ml.h264RtpmapPt = pt.toUInt8)
  if isValidH264 ∧ (hasPreferredProfile ∨ ml.pt = 0) then { ml with pt := pt.toUInt8 } else ml

/-- The "a=extmap:" branch of `sdp_parse`. -/
def parseExtmap (ml : SdpMline) (line : List UInt8) : SdpMline :=
  let (extId, next) := parseU32 (line.drop 9) 0
  if 1 ≤ extId ∧ extId ≤ 14 then
    let next := if next.head? = some 0x2F then (next.drop 1).dropWhile (!isBlank ·) else next
    let next := next.dropWhile isBlank
    let after := next.drop twccExtUri.bytes.length
    if twccExtUri.bytes.isPrefixOf next ∧ after.head?.all (fun c => isBlank c || isEol c) then
      { ml with twccExtId := extId.toUInt8 }
    else ml
  else ml

/-- The direction that a line states. -/
def parseDirection (line : List UInt8) : Option Direction :=
  if lineStartsWith line "a=sendonly" then some .sendonly
  else if lineStartsWith line "a=recvonly" then some .recvonly
  else if lineStartsWith line "a=inactive" then some .inactive
  else if lineStartsWith line "a=sendrecv" then some .sendrecv
  else none

/-- The "a=max-message-size:" branch of `sdp_parse`. -/
def parseMaxMessageSize (line : List UInt8) : Option Nat :=
  let v := stripEnd (fun c => isBlank c || isEol c) (line.drop 19)
  if v = [] then none else checkedU32 v

/-- The "a=setup:" branch of `sdp_parse`. -/
def parseSetup (line : List UInt8) : SdpSetup :=
  let setup := extractValue line "a=setup:" 16
  if (ascii "active").isPrefixOf setup then .active
  else if (ascii "passive").isPrefixOf setup then .passive
  else .actpass

/-- The "a=candidate:" branch of `sdp_parse`. -/
def parseCandidate (line : List UInt8) : Option (SdpCandidate (List UInt8)) :=
  let s := skipFields 4 (line.drop 12)
  let addr := s.takeWhile (· ≠ 0x20)
  let port := (parseU32 ((s.dropWhile (· ≠ 0x20)).dropWhile (· = 0x20)) 0).1.toUInt16
  if addr ≠ [] ∧ addr.length < ipv6StrSize ∧ port > 0 then some ⟨addr, port⟩ else none

/-! ### Parser -/

/-- The locals of `sdp_parse` that last from line to line: the state it writes and the media section
that the line is in. -/
structure SdpParser where
  sdp : NanoSdp
  current : Option Nat
deriving Repr, DecidableEq

/-- The section the line is in, changed. -/
def SdpParser.modifyMline (s : SdpParser) (i : Nat) (f : SdpMline → SdpMline) : SdpParser :=
  { s with sdp := { s.sdp with mlines := s.sdp.mlines.modify i f } }

/-- An "m=" line of `sdp_parse`. Every section counts; sections of other kinds and media sections
beyond the table have no entry. -/
def sdpParseSection (s : SdpParser) (line : List UInt8) : SdpParser :=
  let sdp := { s.sdp with midCount := s.sdp.midCount + 1 }
  if lineStartsWith line "m=application " then
    { sdp := { sdp with hasDatachannel := true, dcMid := s.sdp.midCount }, current := none }
  else if lineStartsWith line "m=audio " || lineStartsWith line "m=video " then
    if sdp.mlines.length < maxMediaTracks then
      let ml : SdpMline :=
        { kind := if lineStartsWith line "m=video " then .video else .audio
          mid := s.sdp.midCount
          pt := 0
          remotePt := parseMlineFirstPt line 8
          sampleRate := 0
          direction := .sendrecv }
      { sdp := { sdp with mlines := sdp.mlines ++ [ml] }, current := some sdp.mlines.length }
    else { sdp := sdp, current := none }
  else { sdp := sdp, current := none }

/-- The lines of `sdp_parse` that belong to a media section; none where the line is none of these. -/
def sdpParseMedia (s : SdpParser) (line : List UInt8) : Option SdpParser := do
  let i ← s.current
  if lineStartsWith line "a=rtpmap:" then some (s.modifyMline i (parseRtpmap · line))
  else if (s.sdp.mlines[i]?.map (·.kind)) = some .video ∧ lineStartsWith line "a=fmtp:" then
    some (s.modifyMline i (parseFmtp · line))
  else if lineStartsWith line "a=extmap:" then some (s.modifyMline i (parseExtmap · line))
  else
    (parseDirection line).map fun dir =>
      s.modifyMline i fun ml => { ml with remoteDirection := dir }

/-- The lines of `sdp_parse` that may stand anywhere. -/
def sdpParseSession (sdp : NanoSdp) (line : List UInt8) : NanoSdp × Option Rc :=
  if lineStartsWith line "a=ice-ufrag:" then
    ({ sdp with remoteUfrag := extractValue line "a=ice-ufrag:" iceRemoteUfragSize }, none)
  else if lineStartsWith line "a=ice-pwd:" then
    ({ sdp with remotePwd := extractValue line "a=ice-pwd:" iceRemotePwdSize }, none)
  else if lineStartsWith line "a=fingerprint:" then
    ({ sdp with remoteFingerprint := extractValue line "a=fingerprint:" sdpFingerprintSize }, none)
  else if lineStartsWith line "a=max-message-size:" then
    match parseMaxMessageSize line with
    | none => (sdp, some .parse)
    | some limit => ({ sdp with remoteMaxMessageSize := limit }, none)
  else if lineStartsWith line "a=sctp-port:" then
    ({ sdp with remoteSctpPort := (parseU32 (line.drop 12) 0).1.toUInt16 }, none)
  else if lineStartsWith line "a=setup:" then ({ sdp with remoteSetup := parseSetup line }, none)
  else if lineStartsWith line "a=candidate:" then
    if sdp.remoteCandidates.length < sdpMaxCandidates then
      match parseCandidate line with
      | none => (sdp, none)
      | some c => ({ sdp with remoteCandidates := sdp.remoteCandidates ++ [c] }, none)
    else (sdp, none)
  else if lineStartsWith line "a=end-of-candidates" then
    ({ sdp with endOfCandidates := true }, none)
  else (sdp, none)

/-- One turn of the loop of `sdp_parse`. -/
def sdpParseLine (s : SdpParser) (line : List UInt8) : SdpParser × Option Rc :=
  if lineStartsWith line "m=" then (sdpParseSection s line, none)
  else
    match sdpParseMedia s line with
    | some s => (s, none)
    | none =>
      let r := sdpParseSession s.sdp line
      ({ s with sdp := r.1 }, r.2)

/-- `sdp_parse`. What was written stays when an error is reported. -/
def sdpParse (sdp : NanoSdp) (text : List UInt8) : NanoSdp × Rc :=
  if text = [] then (sdp, .invalidParam)
  else
    let sdp := { sdp with
      midCount := 0, hasDatachannel := false, mlines := [], remoteMaxMessageSize := 65536 }
    let r := runUntil sdpParseLine ⟨sdp, none⟩ (lines text)
    match r.2 with
    | some rc => (r.1.sdp, rc)
    | none =>
      if r.1.sdp.remoteUfrag = [] ∨ r.1.sdp.remotePwd = [] then (r.1.sdp, .parse)
      else (r.1.sdp, .ok)

/-! ### Generator -/

/-- The memory that starts with the buffer of a description, and the position in the buffer. -/
structure SdpBuffer where
  mem : List UInt8
  pos : Nat
deriving Repr, DecidableEq

/-- `sdp_append`: the text and a zero byte behind it, where both fit into the buffer. -/
def sdpAppend (bufLen : Nat) (b : SdpBuffer) (str : List UInt8) : SdpBuffer × Option Rc :=
  if b.pos + str.length ≥ bufLen then (b, some .bufferTooSmall)
  else (⟨writeAt b.mem b.pos (str ++ [0]), b.pos + str.length⟩, none)

/-- `sdp_append_transport_attrs`. -/
def sdpTransportAttrs (sdp : NanoSdp) : List LineText :=
  [.lit "a=ice-ufrag:" ++ sdp.localUfrag, .lit "a=ice-pwd:" ++ sdp.localPwd] ++
    (if sdp.localFingerprint ≠ .nil then [.lit "a=fingerprint:" ++ sdp.localFingerprint] else []) ++
    [match sdp.localSetup with
      | .passive => .lit "a=setup:passive"
      | .active => .lit "a=setup:active"
      | .actpass => .lit "a=setup:actpass"]

/-- `ICE_HOST_PRIORITY`, `ICE_SRFLX_PRIORITY` and `ICE_RELAY_PRIORITY` by their type preference. -/
def icePriority (typePref : UInt32) (idx : Nat) : UInt32 :=
  typePref <<< 24 ||| (65535 - UInt32.ofNat idx) <<< 8 ||| 255

/-- The common part of a candidate line. -/
def sdpCandidateLine (foundation : Nat) (priority : UInt32) (c : SdpCandidate LineText)
    (type : LineText) : LineText :=
  .lit "a=candidate:" ++ decimal foundation ++ .lit " 1 UDP " ++ decimal priority.toNat ++
    .lit " " ++ c.addr ++ .lit " " ++ decimal c.port.toNat ++ .lit " typ " ++ type

/-- `sdp_append_host_candidates`. -/
def sdpHostCandidates (sdp : NanoSdp) : List LineText :=
  sdp.localCandidates.zipIdx.filterMap fun (c, i) =>
    if c.addr = .nil then none
    else some (sdpCandidateLine (i + 1) (icePriority 126 i) c (.lit "host"))

/-- `sdp_append_related_address`. -/
def sdpRelatedAddress (addr : LineText) : LineText :=
  if addr.bytes.contains 0x3A then .lit " raddr :: rport 9" else .lit " raddr 0.0.0.0 rport 9"

/-- `sdp_append_srflx_candidate`. -/
def sdpSrflxCandidate (sdp : NanoSdp) : List LineText :=
  let c := sdp.srflxCandidate
  if !sdp.hasSrflxCandidate ∨ c.addr = .nil then []
  else
    [sdpCandidateLine 3 (icePriority 100 sdp.localCandidates.length) c (.lit "srflx") ++
      sdpRelatedAddress c.addr]

/-- `sdp_append_relay_candidate`. -/
def sdpRelayCandidate (sdp : NanoSdp) : List LineText :=
  let c := sdp.relayCandidate
  let idx := sdp.localCandidates.length + if sdp.hasSrflxCandidate then 1 else 0
  if !sdp.hasRelayCandidate ∨ c.addr = .nil then []
  else
    [sdpCandidateLine 2 (icePriority 0 idx) c (.lit "relay") ++ sdpRelatedAddress c.addr]

/-- `sdp_local_is_ipv6`. -/
def sdpLocalIsIpv6 (sdp : NanoSdp) : Bool :=
  sdp.localCandidates.head?.any fun c => c.addr.bytes.contains 0x3A

/-- `sdp_connection_line`. -/
def sdpConnectionLine (sdp : NanoSdp) : LineText :=
  if sdpLocalIsIpv6 sdp then .lit "c=IN IP6 ::" else .lit "c=IN IP4 0.0.0.0"

/-- `sdp_origin_line`. -/
def sdpOriginLine (sdp : NanoSdp) : LineText :=
  if sdpLocalIsIpv6 sdp then .lit "o=- 1 1 IN IP6 ::" else .lit "o=- 1 1 IN IP4 0.0.0.0"

/-- The "a=mid:" line. -/
def sdpMidLine (mid : UInt8) : LineText := .lit "a=mid:" ++ decimal mid.toNat

/-- `sdp_append_datachannel_mline`. -/
def sdpDatachannelMline (sdp : NanoSdp) (mid : UInt8) : List LineText :=
  [.lit "m=application 9 UDP/DTLS/SCTP webrtc-datachannel", sdpConnectionLine sdp, sdpMidLine mid,
    .lit "a=sendrecv", .lit "a=ice-options:trickle"] ++
  sdpTransportAttrs sdp ++
  [.lit "a=sctp-port:" ++ decimal sdp.localSctpPort.toNat,
    .lit "a=max-message-size:" ++ decimal sctpMaxMessageSize]

/-- `sdp_append_direction`. -/
def sdpDirectionLine : Direction → LineText
  | .sendrecv => .lit "a=sendrecv"
  | .sendonly => .lit "a=sendonly"
  | .recvonly => .lit "a=recvonly"
  | .inactive => .lit "a=inactive"

/-- What audio and video sections have in common, up to the codec. -/
def sdpMediaMline (sdp : NanoSdp) (ml : SdpMline) (kind : LineText) (mid : UInt8) : List LineText :=
  [kind ++ .lit " 9 UDP/TLS/RTP/SAVPF " ++ decimal ml.pt.toNat, sdpConnectionLine sdp,
    sdpMidLine mid, sdpDirectionLine ml.direction] ++
  sdpTransportAttrs sdp ++ [.lit "a=rtcp-mux"]

/-- The codec that the audio generator names for a payload type. -/
def sdpAudioCodec (pt : UInt8) : LineText :=
  if pt = 0 then .lit "PCMU/8000" else if pt = 8 then .lit "PCMA/8000" else .lit "opus/48000/2"

/-- An "a=rtpmap:" line. -/
def sdpRtpmapLine (pt : UInt8) (codec : LineText) : LineText :=
  .lit "a=rtpmap:" ++ decimal pt.toNat ++ .lit " " ++ codec

/-- `sdp_append_audio_mline`. -/
def sdpAudioMline (sdp : NanoSdp) (ml : SdpMline) (mid : UInt8) : List LineText :=
  sdpMediaMline sdp ml (.lit "m=audio") mid ++ [sdpRtpmapLine ml.pt (sdpAudioCodec ml.pt)] ++
    if ml.sampleRate = 48000 then
      [.lit "a=fmtp:" ++ decimal ml.pt.toNat ++
          (if ml.channels ≥ 2 then .lit " minptime=10;useinbandfec=1;stereo=1"
            else .lit " minptime=10;useinbandfec=1;stereo=0"),
        .lit "a=ptime:20"]
    else []

/-- The id of the transport-wide-cc extension that a video section is written with. -/
def sdpTwccId (ml : SdpMline) : UInt8 := if ml.twccExtId ≠ 0 then ml.twccExtId else defaultTwccExtId

/-- `sdp_append_video_mline`. -/
def sdpVideoMline (sdp : NanoSdp) (ml : SdpMline) (mid : UInt8) : List LineText :=
  let pt := decimal ml.pt.toNat
  sdpMediaMline sdp ml (.lit "m=video") mid ++
    [sdpRtpmapLine ml.pt (.lit "H264/90000"),
      .lit "a=fmtp:" ++ pt ++
        .lit " level-asymmetry-allowed=1;packetization-mode=1;profile-level-id=42e01f",
      .lit "a=rtcp-fb:" ++ pt ++ .lit " nack pli",
      .lit "a=rtcp-fb:" ++ pt ++ .lit " transport-cc"] ++
    if 1 ≤ sdpTwccId ml ∧ sdpTwccId ml ≤ 14 then
      [.lit "a=extmap:" ++ decimal (sdpTwccId ml).toNat ++ .lit " " ++ twccExtUri]
    else []

/-- An entry of the table of `sdp_generate_answer`: an m-line with its index, or the data channel. -/
structure SdpEntry where
  mline : Option Nat
  mid : UInt8
deriving Repr, DecidableEq, Inhabited

/-- The entries before they are sorted. -/
def sdpEntries (sdp : NanoSdp) : List SdpEntry :=
  (sdp.mlines.zipIdx.filterMap fun (ml, i) => if ml.active then some ⟨some i, ml.mid⟩ else none) ++
    if sdp.hasDatachannel then [⟨none, sdp.dcMid⟩] else []

/-- The inner loop of the sort: the entry that ends up in front, and the entries behind it. -/
def sdpSortInner : (e : SdpEntry) → List SdpEntry → SdpEntry × List SdpEntry
  | e, [] => (e, [])
  | e, d :: ds =>
    if d.mid < e.mid then
      let r := sdpSortInner d ds
      (r.1, e :: r.2)
    else
      let r := sdpSortInner e ds
      (r.1, d :: r.2)

/-- The sort of the entries by MID. -/
def sdpSort : (n : Nat) → List SdpEntry → List SdpEntry
  | n + 1, e :: es =>
    let r := sdpSortInner e es
    r.1 :: sdpSort n r.2
  | _, es => es

/-- The table of `sdp_generate_answer`. -/
def sdpTable (sdp : NanoSdp) : List SdpEntry := sdpSort (sdpEntries sdp).length (sdpEntries sdp)

/-- The lines in front of the sections. -/
def sdpSessionLines (sdp : NanoSdp) : List LineText :=
  [.lit "v=0", sdpOriginLine sdp, .lit "s=-", .lit "t=0 0",
    (sdpTable sdp).foldl (fun group e => group ++ .lit " " ++ decimal e.mid.toNat)
      (.lit "a=group:BUNDLE")]

/-- The lines of one section. -/
def sdpSectionLines (sdp : NanoSdp) (e : SdpEntry) : List LineText :=
  match e.mline with
  | none => sdpDatachannelMline sdp e.mid
  | some i =>
    let ml := sdp.mlines.getD i default
    match ml.kind with
    | .audio => sdpAudioMline sdp ml e.mid
    | .video => sdpVideoMline sdp ml e.mid

/-- The candidates behind the first section. -/
def sdpCandidateLines (sdp : NanoSdp) : List LineText :=
  sdpHostCandidates sdp ++ sdpSrflxCandidate sdp ++ sdpRelayCandidate sdp

/-- A video section keeps the extension id it is written with. -/
def sdpKeepTwcc (sdp : NanoSdp) (e : SdpEntry) : NanoSdp :=
  match e.mline with
  | none => sdp
  | some i =>
    { sdp with mlines := sdp.mlines.modify i fun ml =>
        if ml.kind = .video ∧ 1 ≤ sdpTwccId ml ∧ sdpTwccId ml ≤ 14 then
          { ml with twccExtId := sdpTwccId ml }
        else ml }

/-- The state and the buffer of `sdp_generate_answer`. -/
structure SdpWriter where
  sdp : NanoSdp
  buf : List UInt8
deriving Repr, DecidableEq

/-- One turn of the loop of `sdp_generate_answer`. An append fails where the text and its terminator
do not fit; what follows it is not written. -/
def sdpWriteSection (bufLen : Nat) (w : SdpWriter) (x : SdpEntry × Nat) : SdpWriter × Option Rc :=
  let buf := w.buf ++ writeLines (sdpSectionLines w.sdp x.1)
  if buf.length ≥ bufLen then (w, some .bufferTooSmall)
  else
    let sdp := sdpKeepTwcc w.sdp x.1
    let buf := buf ++ if x.2 = 0 then writeLines (sdpCandidateLines sdp) else []
    if buf.length ≥ bufLen then ({ w with sdp := sdp }, some .bufferTooSmall)
    else (⟨sdp, buf⟩, none)

/-- `sdp_generate_answer`. -/
def sdpGenerateAnswer (sdp : NanoSdp) (bufLen : Nat) : NanoSdp × Except Rc (List UInt8) :=
  if bufLen < sdpMinBufSize then (sdp, .error .invalidParam)
  else
    let buf := writeLines (sdpSessionLines sdp)
    if buf.length ≥ bufLen then (sdp, .error .bufferTooSmall)
    else
      let r := runUntil (sdpWriteSection bufLen) ⟨sdp, buf⟩ (sdpTable sdp).zipIdx
      match r.2 with
      | some rc => (r.1.sdp, .error rc)
      | none => (r.1.sdp, .ok r.1.buf)

end Nanortc.Native
