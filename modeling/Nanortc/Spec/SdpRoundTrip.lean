import Nanortc.Spec.SdpLines
import Nanortc.Spec.SdpRearranged
import Nanortc.Spec.TrickledCandidates

/-!
# Descriptions, written and read

The text of `sdp_generate_answer` is accepted by `sdp_parse`, which reads the values that it was
written with. A buffer that the text does not fit into is an error, and nothing is written behind it.

## Key results

- `ReadBack`, `readBack_description`: what is read from a description that was written
- `sdpGenerateAnswer_result`: the buffers that a description fits into
- `sdpHeld_credentials`: what a connection describes once its credentials are drawn
- `sdpAppend_run`: what the appends leave in the memory
- `description_round_trip`: the three together
-/

namespace Nanortc.Spec

open Nanortc.ForStd Nanortc.Native

/-! ### Descriptions that the library holds -/

/-- `NANORTC_ICE_PWD_SIZE`. -/
def icePwdSize : Nat := 24

/-- The values of a description: each fits into its array. The credentials, the fingerprint and the
addresses are texts of the library, without blanks at the end. -/
structure SdpHeld (sdp : NanoSdp) : Prop where
  ufrag : FieldText iceUfragSize sdp.localUfrag
  pwd : FieldText icePwdSize sdp.localPwd
  fingerprint : FieldText sdpFingerprintSize sdp.localFingerprint
  mlines : sdp.mlines.length ≤ maxMediaTracks
  room : sdp.localCandidates.length ≤ maxLocalCandidates
  hosts : ∀ c ∈ sdp.localCandidates, IsAddress c.addr
  srflx : sdp.hasSrflxCandidate = true → IsAddress sdp.srflxCandidate.addr
  relay : sdp.hasRelayCandidate = true → IsAddress sdp.relayCandidate.addr

/-- The text of random bytes, digit by digit. -/
theorem bytes_hexText (b : List UInt8) : (hexText b).bytes =
    hexDigits (b.flatMap fun x => [x.toNat / 16, x.toNat % 16]) := by
  have hfold : ∀ t : LineText,
      (b.foldl (fun t x => t ++ hexChar (x.toNat / 16) ++ hexChar (x.toNat % 16)) t).bytes =
        t.bytes ++ hexDigits (b.flatMap fun x => [x.toNat / 16, x.toNat % 16]) := by
    induction b with
    | nil => exact fun t => (List.append_nil _).symm
    | cons x b ih =>
      intro t
      refine (ih (t ++ hexChar (x.toNat / 16) ++ hexChar (x.toNat % 16))).trans ?_
      rw [LineText.bytes_append, LineText.bytes_append, List.flatMap_cons, List.cons_append,
        List.cons_append, List.nil_append, hexDigits_cons, hexDigits_cons, List.append_assoc,
        List.append_assoc]
  exact hfold .nil

theorem length_digits (b : List UInt8) :
    (b.flatMap fun x => [x.toNat / 16, x.toNat % 16]).length = 2 * b.length := by
  induction b with
  | nil => rfl
  | cons x b ih =>
    rw [List.flatMap_cons, List.length_append, ih, List.length_cons, List.length_cons, List.length_cons,
      List.length_nil]
    omega

/-- Random bytes in hexadecimal digits fit into an array of more than twice their number. -/
theorem fieldText_hexText {b : List UInt8} {size : Nat} (h : 2 * b.length < size) :
    FieldText size (hexText b) where
  room := by
    rw [bytes_hexText, length_hexDigits, length_digits]
    exact h
  stripped := by
    refine stripEnd_of_none fun c hc => ?_
    rw [bytes_hexText] at hc
    obtain ⟨d, hd, hc⟩ := List.mem_flatMap.mp hc
    obtain ⟨x, -, hx⟩ := List.mem_flatMap.mp hd
    have hdigit : d < 16 := by
      have hlt := x.toNat_lt
      rcases List.mem_cons.mp hx with rfl | hx
      · omega
      · rw [List.mem_singleton.mp hx]
        omega
    obtain ⟨c', hchar, hmem, -⟩ := hexChar_spec hdigit
    rw [hchar, List.mem_singleton] at hc
    have hblank : hexChars.any isBlank = false := by decide
    simpa using List.any_eq_false.mp hblank c (hc ▸ hmem)

/-- What a connection describes once its credentials are drawn. -/
theorem sdpHeld_credentials {Ctx Rx : Type} {rtc : Rtc Ctx Rx} (h : Announceable (announced rtc))
    (hmlines : rtc.sdp.mlines.length ≤ maxMediaTracks)
    (hfingerprint : FieldText sdpFingerprintSize rtc.sdp.localFingerprint) (ufrag pwd : List UInt8) :
    SdpHeld (rtcSetCredentials rtc ufrag pwd).sdp where
  ufrag := fieldText_hexText (by
    rw [List.length_take]
    show 2 * min 4 _ < 9
    omega)
  pwd := fieldText_hexText (by
    rw [List.length_take]
    show 2 * min 11 _ < 24
    omega)
  fingerprint := hfingerprint
  mlines := hmlines
  room := h.room
  hosts := h.hosts
  srflx := h.srflx
  relay := h.relay

/-- The candidates that a description is written with. -/
def writtenCandidates (sdp : NanoSdp) : List (SdpCandidate LineText) :=
  sdp.localCandidates ++ (if sdp.hasSrflxCandidate then [sdp.srflxCandidate] else []) ++
    if sdp.hasRelayCandidate then [sdp.relayCandidate] else []

/-- What is read of a candidate: nothing, where it has no port. -/
def readableCandidate (c : SdpCandidate LineText) : Option (SdpCandidate (List UInt8)) :=
  if c.port = 0 then none else some ⟨c.addr.bytes, c.port⟩

/-- The candidates that are read again. -/
def readableCandidates (sdp : NanoSdp) : List (SdpCandidate (List UInt8)) :=
  (writtenCandidates sdp).filterMap readableCandidate

/-- The media sections in the order in which they are written. -/
def writtenMlines (sdp : NanoSdp) : List SdpMline :=
  (sdpTable sdp).filterMap fun e => e.mline.map fun i => sdp.mlines.getD i default

/-- What is read of a description that was written: the remote values are the local ones, and a value
that is not written stays. -/
structure ReadBack (sdp peer read : NanoSdp) : Prop where
  ufrag : read.remoteUfrag = sdp.localUfrag.bytes
  pwd : read.remotePwd = sdp.localPwd.bytes
  fingerprint : read.remoteFingerprint =
    if sdp.localFingerprint ≠ .nil then sdp.localFingerprint.bytes else peer.remoteFingerprint
  setup : read.remoteSetup = sdp.localSetup
  sctpPort : read.remoteSctpPort =
    if sdp.hasDatachannel then sdp.localSctpPort else peer.remoteSctpPort
  maxMessageSize : read.remoteMaxMessageSize = if sdp.hasDatachannel then sctpMaxMessageSize else 65536
  mlines : read.mlines.map (fun ml => (ml.kind, ml.remotePt, ml.remoteDirection)) =
    (writtenMlines sdp).map fun ml => (ml.kind, ml.pt, ml.direction)
  datachannel : read.hasDatachannel = sdp.hasDatachannel
  sections : read.midCount = UInt8.ofNat (sdpTable sdp).length
  candidates : read.remoteCandidates = peer.remoteCandidates ++
    (readableCandidates sdp).take (sdpMaxCandidates - peer.remoteCandidates.length)

/-! ### Fields -/

/-- A field that every line of it states alike. -/
theorem SdpField.stated_const {α : Type} (f : SdpField α) {v : α} {ls : List (List UInt8)}
    (h : ∀ l ∈ ls, lineStartsWith l f.literal = true → ∀ a, f.read l a = v) (a : α) :
    f.stated a ls = if ls.any (lineStartsWith · f.literal) then v else a := by
  induction ls generalizing a with
  | nil => rfl
  | cons l ls ih =>
    rw [List.forall_mem_cons] at h
    show f.stated (if lineStartsWith l f.literal then f.read l a else a) ls = _
    rw [ih h.2, List.any_cons]
    cases hl : lineStartsWith l f.literal with
    | false => rfl
    | true =>
      rw [h.1 hl a]
      exact ite_self v

/-- The attributes that fields of a description are read from. -/
inductive SdpAttr where
  | ufrag
  | pwd
  | fingerprint
  | setup
  | sctpPort
  | maxMessageSize
deriving DecidableEq

/-- What the lines of an attribute start with. -/
def SdpAttr.literal : SdpAttr → String
  | .ufrag => "a=ice-ufrag:"
  | .pwd => "a=ice-pwd:"
  | .fingerprint => "a=fingerprint:"
  | .setup => "a=setup:"
  | .sctpPort => "a=sctp-port:"
  | .maxMessageSize => "a=max-message-size:"

/-- The line of an attribute. -/
def SdpAttr.line (sdp : NanoSdp) : SdpAttr → LineText
  | .ufrag => .lit "a=ice-ufrag:" ++ sdp.localUfrag
  | .pwd => .lit "a=ice-pwd:" ++ sdp.localPwd
  | .fingerprint => .lit "a=fingerprint:" ++ sdp.localFingerprint
  | .setup => sdpSetupLine sdp.localSetup
  | .sctpPort => .lit "a=sctp-port:" ++ decimal sdp.localSctpPort.toNat
  | .maxMessageSize => .lit "a=max-message-size:" ++ decimal sctpMaxMessageSize

theorem SdpAttr.line_start (sdp : NanoSdp) (a : SdpAttr) :
    lineStartsWith (crlf (a.line sdp)) a.literal = true := by
  cases a with
  | setup => show lineStartsWith (crlf (sdpSetupLine _)) _ = true; cases sdp.localSetup <;> rfl
  | _ => rfl

theorem SdpAttr.apart {a b : SdpAttr} (h : a ≠ b) : Unlike a.literal b.literal := by
  cases a <;> cases b <;> first
    | exact absurd rfl h
    | decide

theorem SdpAttr.not_plain (a : SdpAttr) : ∀ tag ∈ plainTags, Unlike tag a.literal := by
  cases a <;> decide

theorem SdpAttr.not_candidate (a : SdpAttr) : Unlike "a=candidate:" a.literal := by
  cases a <;> decide

theorem mem_transport {sdp : NanoSdp} {l : LineText} : l ∈ sdpTransportAttrs sdp ↔
    l = SdpAttr.ufrag.line sdp ∨ l = SdpAttr.pwd.line sdp ∨
      (sdp.localFingerprint ≠ .nil ∧ l = SdpAttr.fingerprint.line sdp) ∨
      l = SdpAttr.setup.line sdp := by
  have hlines : sdpTransportAttrs sdp = [SdpAttr.ufrag.line sdp, SdpAttr.pwd.line sdp] ++
      (if sdp.localFingerprint ≠ .nil then [SdpAttr.fingerprint.line sdp] else []) ++
        [SdpAttr.setup.line sdp] := by
    unfold sdpTransportAttrs SdpAttr.line
    cases sdp.localSetup <;> rfl
  rw [hlines]
  by_cases hfp : sdp.localFingerprint = .nil
  · simp [hfp]
  · simp [hfp]

theorem mem_application {sdp : NanoSdp} {l : LineText} : l ∈ applicationLines sdp ↔
    l = SdpAttr.sctpPort.line sdp ∨ l = SdpAttr.maxMessageSize.line sdp := by
  unfold applicationLines SdpAttr.line
  simp

/-- The attributes that are written: those of the transport, and those of the data channel where there
is one. -/
def SdpAttr.Written (sdp : NanoSdp) : SdpAttr → Prop
  | .fingerprint => sdp.localFingerprint ≠ .nil
  | .sctpPort | .maxMessageSize => sdp.hasDatachannel = true
  | _ => True

/-- A line that starts like an attribute is the line of the attribute. -/
theorem SdpAttr.of_start {sdp : NanoSdp} {a : SdpAttr} {l : LineText} (hl : l ∈ sdpDescription sdp)
    (hstart : lineStartsWith (crlf l) a.literal = true) : l = a.line sdp ∧ a.Written sdp := by
  have hsame (b : SdpAttr) (hb : l = b.line sdp) (hwritten : b.Written sdp) :
      l = a.line sdp ∧ a.Written sdp := by
    by_cases hab : b = a
    · exact hab ▸ ⟨hb, hwritten⟩
    · rw [hb, (SdpAttr.apart hab).not_start (b.line_start sdp)] at hstart
      exact nomatch hstart
  rcases description_line sdp hl with hl | ⟨hdc, hl⟩ | hl | ⟨tag, htag, hl⟩
  · rcases mem_transport.mp hl with hl | hl | ⟨hfp, hl⟩ | hl
    · exact hsame .ufrag hl trivial
    · exact hsame .pwd hl trivial
    · exact hsame .fingerprint hl hfp
    · exact hsame .setup hl trivial
  · rcases mem_application.mp hl with hl | hl
    · exact hsame .sctpPort hl hdc
    · exact hsame .maxMessageSize hl hdc
  · rw [a.not_candidate.not_start (candidateLine_start sdp hl)] at hstart
    exact nomatch hstart
  · rw [(a.not_plain tag htag).not_start hl] at hstart
    exact nomatch hstart

/-- The lines of the transport stand in every section. -/
theorem transport_subset (sdp : NanoSdp) (e : SdpEntry) :
    ∀ l ∈ sdpTransportAttrs sdp, l ∈ sdpSectionLines sdp e := by
  intro l hl
  have hmedia (ml : SdpMline) (kind : LineText) : l ∈ sdpMediaMline sdp ml kind e.mid :=
    List.mem_append_left _ (List.mem_append_right _ hl)
  unfold sdpSectionLines
  cases e.mline with
  | none => exact List.mem_append_left _ (List.mem_append_right _ hl)
  | some i =>
    dsimp only
    cases (sdp.mlines.getD i default).kind with
    | audio => exact List.mem_append_left _ (List.mem_append_left _ (hmedia _ _))
    | video => exact List.mem_append_left _ (List.mem_append_left _ (hmedia _ _))

theorem section_subset {sdp : NanoSdp} {e : SdpEntry} (he : e ∈ sdpTable sdp) :
    ∀ l ∈ sdpSectionLines sdp e, l ∈ sdpDescription sdp := by
  intro l hl
  obtain ⟨i, hi⟩ := List.mem_iff_getElem?.mp he
  refine List.mem_append_right _ (List.mem_flatMap.mpr ⟨(e, i), ?_, List.mem_append_left _ hl⟩)
  exact List.mk_mem_zipIdx_iff_getElem?.mpr hi

/-- Every attribute that is written stands in a description with a section. -/
theorem SdpAttr.mem_description {sdp : NanoSdp} (hsections : sdpEntries sdp ≠ []) (a : SdpAttr) :
    a.line sdp ∈ sdpDescription sdp ↔ a.Written sdp := by
  refine ⟨fun h => (SdpAttr.of_start h (a.line_start sdp)).2, fun hwritten => ?_⟩
  have htransport (h : a.line sdp ∈ sdpTransportAttrs sdp) : a.line sdp ∈ sdpDescription sdp := by
    obtain ⟨e, he⟩ := List.exists_mem_of_ne_nil _ hsections
    exact section_subset ((sdpTable_perm sdp).mem_iff.mpr he) _ (transport_subset sdp e _ h)
  have happlication (hdc : sdp.hasDatachannel = true) (h : a.line sdp ∈ applicationLines sdp) :
      a.line sdp ∈ sdpDescription sdp := by
    have hentry : (⟨none, sdp.dcMid⟩ : SdpEntry) ∈ sdpTable sdp := by
      rw [(sdpTable_perm sdp).mem_iff]
      unfold sdpEntries
      rw [if_pos hdc]
      exact List.mem_append_right _ List.mem_cons_self
    refine section_subset hentry _ ?_
    unfold sdpSectionLines sdpDatachannelMline
    exact List.mem_append_right _ h
  cases a with
  | ufrag => exact htransport (mem_transport.mpr (.inl rfl))
  | pwd => exact htransport (mem_transport.mpr (.inr (.inl rfl)))
  | fingerprint => exact htransport (mem_transport.mpr (.inr (.inr (.inl ⟨hwritten, rfl⟩))))
  | setup => exact htransport (mem_transport.mpr (.inr (.inr (.inr rfl))))
  | sctpPort => exact happlication hwritten (mem_application.mpr (.inl rfl))
  | maxMessageSize => exact happlication hwritten (mem_application.mpr (.inr rfl))

/-- The field of an attribute after a description that was written. -/
theorem SdpField.stated_description {α : Type} (f : SdpField α) {sdp : NanoSdp}
    (hsections : sdpEntries sdp ≠ []) {a : SdpAttr} (ha : f.literal = a.literal) {v : α}
    (hread : ∀ x, f.read (crlf (a.line sdp)) x = v) (x : α) :
    (a.Written sdp → f.stated x (lines (writeLines (sdpDescription sdp))) = v) ∧
      (¬ a.Written sdp → f.stated x (lines (writeLines (sdpDescription sdp))) = x) := by
  have honly {l : LineText} (hl : l ∈ sdpDescription sdp)
      (hstart : lineStartsWith (crlf l) f.literal = true) : l = a.line sdp ∧ a.Written sdp :=
    SdpAttr.of_start hl (ha ▸ hstart)
  have hstated := @SdpField.stated_const _ f v (lines (writeLines (sdpDescription sdp))) (by
    rw [lines_description]
    intro k hk hstart
    obtain ⟨l, hl, rfl⟩ := List.mem_map.mp hk
    rw [(honly hl hstart).1]
    exact hread) x
  rw [hstated, lines_description, List.any_map]
  refine ⟨fun hwritten => if_pos ?_, fun hnot => if_neg fun hany => ?_⟩
  · rw [List.any_eq_true]
    exact ⟨a.line sdp, (a.mem_description hsections).mpr hwritten, ha ▸ a.line_start sdp⟩
  · obtain ⟨l, hl, hstart⟩ := List.any_eq_true.mp hany
    exact hnot (honly hl hstart).2

theorem parse_sctpPort (port : UInt16) :
    (parseU32 ((crlf (.lit "a=sctp-port:" ++ decimal port.toNat)).drop 12) 0).1.toUInt16 = port := by
  have hline : crlf (.lit "a=sctp-port:" ++ decimal port.toNat) =
      ascii "a=sctp-port:" ++ ((decimal port.toNat).bytes ++ [0x0D, 0x0A]) := List.append_assoc ..
  rw [hline, List.drop_left' (by decide), parseU32_decimal port.toNat fun d hd => by
    obtain rfl := Option.some.inj hd
    rfl]
  apply UInt16.toNat_inj.mp
  have hlt := port.toNat_lt
  rw [UInt32.toNat_toUInt16, UInt32.toNat_ofNat']
  omega

theorem parse_maxMessageSize :
    parseMaxMessageSize (crlf (.lit "a=max-message-size:" ++ decimal sctpMaxMessageSize)) =
      some sctpMaxMessageSize := by decide

/-! ### Media sections -/

/-- The media lines that are read are those that were written. -/
theorem mediaMlines_written (sdp : NanoSdp) (n : Nat) (xs : List (SdpEntry × Nat)) :
    (mediaMlines n (xs.map (writtenSection sdp))).map
        (fun ml => (ml.kind, ml.remotePt, ml.remoteDirection)) =
      (xs.filterMap fun x => x.1.mline.map fun i => sdp.mlines.getD i default).map
        fun ml => (ml.kind, ml.pt, ml.direction) := by
  induction xs generalizing n with
  | nil => rfl
  | cons x xs ih =>
    have hhead : (writtenSection sdp x).head = crlf (sectionHead sdp x.1) := by
      obtain ⟨body, hlines, -⟩ := sdpEntryLines_cons sdp x
      unfold writtenSection
      rw [hlines]
      rfl
    rw [List.map_cons, mediaMlines_cons, List.map_append, ih, hhead, mediaKind_head]
    cases hmline : x.1.mline with
    | none =>
      rw [List.filterMap_cons_none (by rw [hmline]; rfl)]
      rfl
    | some i =>
      obtain ⟨hkind, -, hpt, hdir⟩ := sectionMline_written sdp x hmline (UInt8.ofNat n)
        (sdp.mlines.getD i default).kind
      rw [List.filterMap_cons_some (by rw [hmline]; rfl), List.map_cons, ← hkind, ← hpt, ← hdir]
      rfl

/-- The table of the parser has room for the media sections. -/
theorem length_writtenMlines_le (sdp : NanoSdp) :
    (writtenMlines sdp).length ≤ sdp.mlines.length := by
  have hperm : (writtenMlines sdp).Perm ((sdpEntries sdp).filterMap fun e =>
      e.mline.map fun i => sdp.mlines.getD i default) := (sdpTable_perm sdp).filterMap _
  rw [hperm.length_eq]
  unfold sdpEntries
  rw [List.filterMap_append, List.length_append]
  have hdc : ((if sdp.hasDatachannel then [⟨none, sdp.dcMid⟩] else [] : List SdpEntry).filterMap
      fun e => e.mline.map fun i => sdp.mlines.getD i default) = [] := by
    split <;> rfl
  rw [hdc]
  refine Nat.le_trans (Nat.le_trans (List.length_filterMap_le _ _)
    (List.length_filterMap_le _ _)) ?_
  rw [List.length_zipIdx]

/-! ### Candidates -/

/-- The line of a candidate is read as the candidate. -/
theorem lineCandidates_line (foundation : Nat) (priority : UInt32) {c : SdpCandidate LineText}
    (hc : IsAddress c.addr) (type related : LineText) :
    lineCandidates [crlf (sdpCandidateLine foundation priority c type ++ related)] =
      [c].filterMap readableCandidate := by
  obtain ⟨hlen, r, hr⟩ := hc
  have hstart : lineStartsWith (crlf (sdpCandidateLine foundation priority c type ++ related))
      "a=candidate:" = true := rfl
  have hread := parseCandidate_written foundation priority (token_of_addrParseAuto hr) hlen type
    related
  unfold lineCandidates
  rw [List.filterMap_cons, List.filterMap_cons, if_pos hstart, hread]
  rfl

theorem IsAddress.ne_nil {t : LineText} (h : IsAddress t) : t ≠ .nil := by
  rintro rfl
  obtain ⟨-, r, hr⟩ := h
  exact (token_of_addrParseAuto hr).ne rfl

theorem lineCandidates_hosts {cs : List (SdpCandidate LineText)}
    (hcs : ∀ c ∈ cs, IsAddress c.addr) (n : Nat) :
    lineCandidates (((cs.zipIdx n).filterMap fun (c, i) =>
        if c.addr = .nil then none
        else some (sdpCandidateLine (i + 1) (icePriority 126 i) c (.lit "host"))).map crlf) =
      cs.filterMap readableCandidate := by
  induction cs generalizing n with
  | nil => rfl
  | cons c cs ih =>
    rw [List.forall_mem_cons] at hcs
    have hline := lineCandidates_line (n + 1) (icePriority 126 n) hcs.1 (.lit "host") .nil
    have hsame : crlf (sdpCandidateLine (n + 1) (icePriority 126 n) c (.lit "host") ++ .nil) =
        crlf (sdpCandidateLine (n + 1) (icePriority 126 n) c (.lit "host")) := by
      unfold crlf
      rw [LineText.bytes_append]
      exact congrArg (· ++ _) (List.append_nil _)
    rw [hsame] at hline
    rw [List.zipIdx_cons, List.filterMap_cons]
    simp only [if_neg hcs.1.ne_nil]
    rw [List.map_cons, ← List.singleton_append, lineCandidates_append, hline, ih hcs.2,
      ← List.filterMap_append]
    rfl

/-- The candidates of the lines of a description are those that have a port. -/
theorem lineCandidates_candidateLines {sdp : NanoSdp} (h : SdpHeld sdp) :
    lineCandidates ((sdpCandidateLines sdp).map crlf) = readableCandidates sdp := by
  have hsrflx : lineCandidates ((sdpSrflxCandidate sdp).map crlf) =
      (if sdp.hasSrflxCandidate then [sdp.srflxCandidate] else []).filterMap readableCandidate := by
    unfold sdpSrflxCandidate
    cases hhas : sdp.hasSrflxCandidate with
    | false => rfl
    | true =>
      dsimp only
      rw [if_neg (by simp [(h.srflx hhas).ne_nil])]
      exact lineCandidates_line _ _ (h.srflx hhas) _ _
  have hrelay : lineCandidates ((sdpRelayCandidate sdp).map crlf) =
      (if sdp.hasRelayCandidate then [sdp.relayCandidate] else []).filterMap readableCandidate := by
    unfold sdpRelayCandidate
    cases hhas : sdp.hasRelayCandidate with
    | false => rfl
    | true =>
      dsimp only
      rw [if_neg (by simp [(h.relay hhas).ne_nil])]
      exact lineCandidates_line _ _ (h.relay hhas) _ _
  unfold sdpCandidateLines readableCandidates writtenCandidates
  rw [List.map_append, List.map_append, lineCandidates_append, lineCandidates_append, hsrflx, hrelay,
    List.filterMap_append, List.filterMap_append]
  exact congrArg (· ++ _ ++ _) (lineCandidates_hosts h.hosts 0)

/-- A description names the candidates behind its first section, and no others. -/
theorem lineCandidates_description {sdp : NanoSdp} (h : SdpHeld sdp)
    (hsections : sdpEntries sdp ≠ []) :
    lineCandidates (lines (writeLines (sdpDescription sdp))) = readableCandidates sdp := by
  have hnone {ls : List LineText}
      (hls : ∀ l ∈ ls, lineStartsWith (crlf l) "a=candidate:" = false) :
      lineCandidates (ls.map crlf) = [] := by
    unfold lineCandidates
    rw [List.filterMap_eq_nil_iff]
    intro k hk
    obtain ⟨l, hl, rfl⟩ := List.mem_map.mp hk
    rw [hls l hl]
    rfl
  have hplain {l : LineText} (hl : Plain l) : lineStartsWith (crlf l) "a=candidate:" = false := by
    obtain ⟨tag, htag, hstart⟩ := hl
    have hunlike : ∀ tag ∈ plainTags, Unlike tag "a=candidate:" := by decide
    exact (hunlike tag htag).not_start hstart
  have hattr (a : SdpAttr) : lineStartsWith (crlf (a.line sdp)) "a=candidate:" = false :=
    Unlike.not_start ⟨a.not_candidate.2, a.not_candidate.1⟩ (a.line_start sdp)
  have hsection (e : SdpEntry) : lineCandidates ((sdpSectionLines sdp e).map crlf) = [] := by
    refine hnone fun l hl => ?_
    rcases sectionLine sdp e hl with hl | ⟨-, hl⟩ | hl
    · rcases mem_transport.mp hl with rfl | rfl | ⟨-, rfl⟩ | rfl <;> exact hattr _
    · rcases mem_application.mp hl with rfl | rfl <;> exact hattr _
    · exact hplain hl
  have hentries (xs : List (SdpEntry × Nat)) (hxs : ∀ x ∈ xs, x.2 ≠ 0) :
      lineCandidates ((sdpTableLines sdp xs).map crlf) = [] := by
    refine hnone fun l hl => ?_
    obtain ⟨x, hx, hl⟩ := List.mem_flatMap.mp hl
    rw [if_neg (hxs x hx), List.append_nil] at hl
    rcases sectionLine sdp x.1 hl with hl | ⟨-, hl⟩ | hl
    · rcases mem_transport.mp hl with rfl | rfl | ⟨-, rfl⟩ | rfl <;> exact hattr _
    · rcases mem_application.mp hl with rfl | rfl <;> exact hattr _
    · exact hplain hl
  have htable : sdpTable sdp ≠ [] := fun hnil => hsections (by
    have hperm := sdpTable_perm sdp
    rw [hnil] at hperm
    exact hperm.symm.eq_nil)
  obtain ⟨e, es, htable⟩ := List.exists_cons_of_ne_nil htable
  have hfirst : sdpTableLines sdp ((e, 0) :: es.zipIdx 1) =
      sdpSectionLines sdp e ++ sdpCandidateLines sdp ++ sdpTableLines sdp (es.zipIdx 1) := rfl
  rw [lines_description]
  unfold sdpDescription
  rw [htable, List.zipIdx_cons, hfirst, List.map_append, List.map_append, List.map_append,
    lineCandidates_append, lineCandidates_append, lineCandidates_append,
    hnone fun l hl => hplain (sessionLine sdp hl), hsection, lineCandidates_candidateLines h,
    hentries _ fun x hx => Nat.ne_of_gt (List.le_snd_of_mem_zipIdx hx), List.append_nil]
  rfl

theorem length_readableCandidates_le {sdp : NanoSdp} (h : SdpHeld sdp) :
    (readableCandidates sdp).length ≤ 6 := by
  have hroom : sdp.localCandidates.length ≤ 4 := h.room
  unfold readableCandidates
  refine Nat.le_trans (List.length_filterMap_le _ _) ?_
  unfold writtenCandidates
  rw [List.length_append, List.length_append]
  split <;> split <;> simp only [List.length_cons, List.length_nil] <;> omega

/-! ### Reading a description -/

/-- A description that was written is accepted. -/
theorem sdpParse_description {sdp : NanoSdp} (h : SdpHeld sdp) (hufrag : sdp.localUfrag ≠ .nil)
    (hpwd : sdp.localPwd ≠ .nil) (hsections : sdpEntries sdp ≠ []) (peer : NanoSdp) :
    (sdpParse peer (writeLines (sdpDescription sdp))).2 = .ok := by
  have hbytes {t : LineText} (ht : t ≠ .nil) : t.bytes ≠ [] := by
    intro hnil
    obtain ⟨bytes, hprint⟩ := t
    obtain rfl : bytes = [] := hnil
    exact ht rfl
  have hne : lines (writeLines (sdpDescription sdp)) ≠ [] := by
    rw [lines_description]
    exact List.cons_ne_nil _ _
  have hstatedUfrag := (ufragField.stated_description hsections (a := .ufrag) rfl
    (fun _ => extractValue_crlf rfl h.ufrag (by decide)) peer.remoteUfrag).1 trivial
  have hstatedPwd := (pwdField.stated_description hsections (a := .pwd) rfl
    (fun _ => extractValue_crlf rfl h.pwd (by decide)) peer.remotePwd).1 trivial
  refine (sdpParse_ok_iff _ _).mpr ⟨fun hnil => hne (by rw [hnil]; rfl), ?_, ?_, ?_⟩
  · intro k hk hbad
    rw [lines_description] at hk
    obtain ⟨l, hl, rfl⟩ := List.mem_map.mp hk
    obtain ⟨hstart, hparse⟩ := hbad
    rw [(SdpAttr.of_start (a := .maxMessageSize) hl hstart).1] at hparse
    exact nomatch hparse.symm.trans parse_maxMessageSize
  · rw [hstatedUfrag]
    exact hbytes hufrag
  · rw [hstatedPwd]
    exact hbytes hpwd

theorem isApplication_head (sdp : NanoSdp) (e : SdpEntry) :
    isApplication (crlf (sectionHead sdp e)) = e.mline.isNone := by
  unfold sectionHead
  cases e.mline with
  | none => rfl
  | some i =>
    dsimp only
    cases (sdp.mlines.getD i default).kind <;> rfl

/-- The table has the data channel where there is one. -/
theorem any_application (sdp : NanoSdp) :
    (sdpTable sdp).any (·.mline.isNone) = sdp.hasDatachannel := by
  rw [any_perm (sdpTable_perm sdp)]
  unfold sdpEntries
  rw [List.any_append]
  have hmedia {f : SdpMline × Nat → Option SdpEntry}
      (hf : ∀ x e, f x = some e → ¬ e.mline.isNone = true) :
      (sdp.mlines.zipIdx.filterMap f).any (·.mline.isNone) = false := by
    rw [List.any_eq_false]
    intro e he
    obtain ⟨x, -, hx⟩ := List.mem_filterMap.mp he
    exact hf x e hx
  rw [hmedia]
  · cases sdp.hasDatachannel <;> rfl
  · rintro ⟨ml, i⟩ e hml
    dsimp only at hml
    split at hml
    · rw [← Option.some.inj hml]
      intro h
      cases h
    · cases hml

/-- What is read of a description is what it was written with. -/
theorem readBack_description {sdp : NanoSdp} (h : SdpHeld sdp) (hufrag : sdp.localUfrag ≠ .nil)
    (hpwd : sdp.localPwd ≠ .nil) (hsections : sdpEntries sdp ≠ []) (peer : NanoSdp) :
    ReadBack sdp peer (sdpParse peer (writeLines (sdpDescription sdp))).1 := by
  have hok := sdpParse_description h hufrag hpwd hsections peer
  obtain ⟨hdc, -, hcount⟩ := sdpParse_datachannel hok
  rw [sdpSections_description] at hdc hcount
  constructor
  · exact (ufragField.parsed hok rfl).trans ((ufragField.stated_description hsections (a := .ufrag)
      rfl (fun _ => extractValue_crlf rfl h.ufrag (by decide)) _).1 trivial)
  · exact (pwdField.parsed hok rfl).trans ((pwdField.stated_description hsections (a := .pwd)
      rfl (fun _ => extractValue_crlf rfl h.pwd (by decide)) _).1 trivial)
  · have hfield := fingerprintField.stated_description hsections (a := .fingerprint) rfl
      (fun _ => extractValue_crlf rfl h.fingerprint (by decide)) peer.remoteFingerprint
    refine (fingerprintField.parsed hok rfl).trans ?_
    split
    · rename_i hwritten
      exact hfield.1 hwritten
    · rename_i hnot
      exact hfield.2 hnot
  · exact (setupField.parsed hok rfl).trans ((setupField.stated_description hsections (a := .setup)
      rfl (fun _ => parseSetup_setupLine sdp.localSetup) _).1 trivial)
  · have hfield := sctpPortField.stated_description hsections (a := .sctpPort) rfl
      (fun _ => parse_sctpPort sdp.localSctpPort) peer.remoteSctpPort
    refine (sctpPortField.parsed hok rfl).trans ?_
    split
    · rename_i hwritten
      exact hfield.1 hwritten
    · rename_i hnot
      exact hfield.2 hnot
  · have hfield := maxMessageSizeField.stated_description hsections (a := .maxMessageSize) rfl
      (fun x => congrArg (Option.getD · x) parse_maxMessageSize) 65536
    refine (sdpParse_maxMessageSize hok).trans ?_
    split
    · rename_i hwritten
      exact hfield.1 hwritten
    · rename_i hnot
      exact hfield.2 hnot
  · have hwritten := mediaMlines_written sdp 0 (sdpTable sdp).zipIdx
    have hsame : (sdpTable sdp).zipIdx.filterMap
        (fun x => x.1.mline.map fun i => sdp.mlines.getD i default) = writtenMlines sdp := by
      unfold writtenMlines
      conv_rhs => rw [← List.zipIdx_map_fst 0 (sdpTable sdp)]
      rw [List.filterMap_map]
      rfl
    have hlength := congrArg List.length hwritten
    rw [List.length_map, List.length_map, hsame] at hlength
    have hle := length_writtenMlines_le sdp
    have hroom := h.mlines
    rw [sdpParse_mlines hok, sdpSections_description, List.take_of_length_le (by omega), hwritten,
      hsame]
  · rw [hdc, List.any_map]
    have hhead (x : SdpEntry × Nat) :
        isApplication (writtenSection sdp x).head = x.1.mline.isNone := by
      obtain ⟨body, hlines, -⟩ := sdpEntryLines_cons sdp x
      have hline : (writtenSection sdp x).head = crlf (sectionHead sdp x.1) := by
        unfold writtenSection
        rw [hlines]
        rfl
      rw [hline, isApplication_head]
    rw [← any_application]
    conv_rhs => rw [← List.zipIdx_map_fst 0 (sdpTable sdp), List.any_map]
    exact congrArg (List.any _) (funext hhead)
  · rw [hcount, List.length_map, List.length_zipIdx]
  · rw [sdpParse_candidates hok, lineCandidates_description h hsections]

/-! ### Buffers -/

theorem length_tableLines_cons (sdp : NanoSdp) (x : SdpEntry × Nat) (xs : List (SdpEntry × Nat)) :
    (writeLines (sdpTableLines sdp (x :: xs))).length = (writeLines (sdpSectionLines sdp x.1)).length +
      (if x.2 = 0 then writeLines (sdpCandidateLines sdp) else []).length +
        (writeLines (sdpTableLines sdp xs)).length := by
  have hsplit : sdpTableLines sdp (x :: xs) = sdpSectionLines sdp x.1 ++
      (if x.2 = 0 then sdpCandidateLines sdp else []) ++ sdpTableLines sdp xs := List.flatMap_cons
  rw [hsplit, writeLines_append, writeLines_append, List.length_append, List.length_append]
  split <;> rfl

/-- The loop over the sections fails where the whole does not fit. -/
theorem runUntil_writeSection_result {bufLen : Nat} {w : SdpWriter} (hroom : w.buf.length < bufLen)
    (xs : List (SdpEntry × Nat)) :
    (runUntil (sdpWriteSection bufLen) w xs).2 =
      if bufLen ≤ w.buf.length + (writeLines (sdpTableLines w.sdp xs)).length then
        some .bufferTooSmall
      else none := by
  induction xs generalizing w with
  | nil => exact (if_neg (Nat.not_le.mpr hroom)).symm
  | cons x xs ih =>
    rw [length_tableLines_cons]
    have hstep : sdpWriteSection bufLen w x =
        if (w.buf ++ writeLines (sdpSectionLines w.sdp x.1)).length ≥ bufLen then
          (w, some .bufferTooSmall)
        else if (w.buf ++ writeLines (sdpSectionLines w.sdp x.1) ++ if x.2 = 0 then
            writeLines (sdpCandidateLines (sdpKeepTwcc w.sdp x.1)) else []).length ≥ bufLen then
          ({ w with sdp := sdpKeepTwcc w.sdp x.1 }, some .bufferTooSmall)
        else (⟨sdpKeepTwcc w.sdp x.1, w.buf ++ writeLines (sdpSectionLines w.sdp x.1) ++
          if x.2 = 0 then writeLines (sdpCandidateLines (sdpKeepTwcc w.sdp x.1)) else []⟩, none) := rfl
    unfold runUntil
    rw [hstep, sdpCandidateLines_keep, List.length_append]
    generalize hsection : (writeLines (sdpSectionLines w.sdp x.1)).length = written
    by_cases hfull : w.buf.length + written ≥ bufLen
    · rw [if_pos hfull, if_pos (by omega)]
    rw [if_neg hfull, List.length_append, List.length_append, hsection]
    generalize hcandidates : (if x.2 = 0 then writeLines (sdpCandidateLines w.sdp) else []) =
      candidates
    by_cases hfull' : w.buf.length + written + candidates.length ≥ bufLen
    · rw [if_pos hfull', if_pos (by omega)]
    rw [if_neg hfull']
    dsimp only
    have hbuf : (w.buf ++ writeLines (sdpSectionLines w.sdp x.1) ++ candidates).length =
        w.buf.length + written + candidates.length := by
      rw [List.length_append, List.length_append, hsection]
    have hrest := @ih ⟨sdpKeepTwcc w.sdp x.1, w.buf ++ writeLines (sdpSectionLines w.sdp x.1) ++
      candidates⟩ (by dsimp only; omega)
    rw [hrest, sdpTableLines_keep, hbuf]
    refine if_congr ?_ rfl rfl
    rw [← Nat.add_assoc, ← Nat.add_assoc]

/-- What `sdp_generate_answer` reports: a buffer is too small by its least size, or for the text and
its terminator. -/
theorem sdpGenerateAnswer_result (sdp : NanoSdp) (bufLen : Nat) :
    (sdpGenerateAnswer sdp bufLen).2 =
      if bufLen < sdpMinBufSize then .error .invalidParam
      else if bufLen ≤ (writeLines (sdpDescription sdp)).length then .error .bufferTooSmall
      else .ok (writeLines (sdpDescription sdp)) := by
  have hlength : (writeLines (sdpDescription sdp)).length = (writeLines (sdpSessionLines sdp)).length +
      (writeLines (sdpTableLines sdp (sdpTable sdp).zipIdx)).length := by
    unfold sdpDescription
    rw [writeLines_append, List.length_append]
  cases hgen : sdpGenerateAnswer sdp bufLen with
  | mk sdp' r =>
    unfold sdpGenerateAnswer at hgen
    split at hgen
    · rename_i hmin
      rw [if_pos hmin]
      exact (congrArg Prod.snd hgen).symm
    rename_i hmin
    rw [if_neg hmin]
    dsimp only at hgen
    split at hgen
    · rename_i hfull
      rw [if_pos (by omega)]
      exact (congrArg Prod.snd hgen).symm
    rename_i hroom
    have hresult := runUntil_writeSection_result (w := ⟨sdp, writeLines (sdpSessionLines sdp)⟩)
      (Nat.not_le.mp hroom) (sdpTable sdp).zipIdx
    rw [← hlength] at hresult
    by_cases hfull : bufLen ≤ (writeLines (sdpDescription sdp)).length
    · rw [if_pos hfull] at hresult ⊢
      rw [hresult] at hgen
      exact (congrArg Prod.snd hgen).symm
    · rw [if_neg hfull] at hresult ⊢
      rw [hresult, runUntil_writeSection hresult] at hgen
      obtain ⟨-, rfl⟩ := Prod.mk.inj hgen
      exact congrArg Except.ok (writeLines_append ..).symm

/-- Writing leaves what stands behind it. -/
theorem drop_writeAt {α : Type} {b v : List α} {i n : Nat} (h : i + v.length ≤ b.length)
    (hn : i + v.length ≤ n) : (writeAt b i v).drop n = b.drop n := by
  refine List.ext_getElem? fun k => ?_
  rw [List.getElem?_drop, List.getElem?_drop, getElem?_writeAt b v i (n + k) h, if_neg (by omega)]

/-- What was written stands in front of the last element written. -/
theorem take_writeAt_left {α : Type} {b v : List α} {a : α} {i : Nat}
    (h : i + (v ++ [a]).length ≤ b.length) :
    (writeAt b i (v ++ [a])).take (i + v.length) = b.take i ++ v := by
  have hlength : (b.take i ++ v).length = i + v.length := by
    rw [List.length_append, List.length_take, Nat.min_eq_left (by omega)]
  have hsplit : writeAt b i (v ++ [a]) =
      (b.take i ++ v) ++ ([a] ++ b.drop (i + (v ++ [a]).length)) := by
    unfold writeAt
    simp only [List.append_assoc]
  rw [hsplit, List.take_left' hlength]

/-- The appends write inside the buffer alone. They succeed where all texts and the terminator fit
into it, and leave the texts in it one behind the other. -/
theorem sdpAppend_run {bufLen : Nat} (pieces : List (List UInt8)) {b : SdpBuffer}
    (hmem : bufLen ≤ b.mem.length) (hpos : b.pos < bufLen) :
    let r := runUntil (sdpAppend bufLen) b pieces
    r.1.mem.length = b.mem.length ∧ r.1.mem.drop bufLen = b.mem.drop bufLen ∧
      r.2 = (if bufLen ≤ b.pos + pieces.flatten.length then some .bufferTooSmall else none) ∧
      (r.2 = none → r.1.pos = b.pos + pieces.flatten.length ∧
        r.1.mem.take r.1.pos = b.mem.take b.pos ++ pieces.flatten) := by
  induction pieces generalizing b with
  | nil =>
    refine ⟨rfl, rfl, (if_neg (Nat.not_le.mpr hpos)).symm, fun _ => ⟨rfl, ?_⟩⟩
    exact (List.append_nil _).symm
  | cons str pieces ih =>
    have hstep : sdpAppend bufLen b str =
        if b.pos + str.length ≥ bufLen then (b, some .bufferTooSmall)
        else (⟨writeAt b.mem b.pos (str ++ [0]), b.pos + str.length⟩, none) := rfl
    dsimp only
    unfold runUntil
    rw [hstep, List.flatten_cons, List.length_append]
    by_cases hfull : b.pos + str.length ≥ bufLen
    · rw [if_pos hfull, if_pos (by omega)]
      exact ⟨rfl, rfl, rfl, fun h => by cases h⟩
    rw [if_neg hfull]
    dsimp only
    have hinside : b.pos + (str ++ [0]).length ≤ b.mem.length := by
      rw [List.length_append, List.length_singleton]
      omega
    have hlength := length_writeAt b.mem (str ++ [0]) b.pos hinside
    obtain ⟨hlen, hdrop, hresult, hok⟩ := @ih
      ⟨writeAt b.mem b.pos (str ++ [0]), b.pos + str.length⟩ (hlength.symm ▸ hmem)
      (Nat.not_le.mp hfull)
    refine ⟨hlen.trans hlength, hdrop.trans (drop_writeAt hinside ?_), ?_, fun hnone => ?_⟩
    · rw [List.length_append, List.length_singleton]
      omega
    · rw [hresult, Nat.add_assoc]
    · obtain ⟨hpos', htake⟩ := hok hnone
      refine ⟨hpos'.trans (Nat.add_assoc ..), htake.trans ?_⟩
      rw [take_writeAt_left hinside, List.append_assoc]

/-! ### Round trip -/

/-- A description is written where it fits into the buffer, and an error otherwise; whatever the texts
that it is appended in, no byte behind the buffer is written. Read by any peer, it is accepted and
gives the values that it was written with, up to the candidates without a port. -/
theorem description_round_trip {sdp : NanoSdp} (h : SdpHeld sdp) (hufrag : sdp.localUfrag ≠ .nil)
    (hpwd : sdp.localPwd ≠ .nil) (hsections : sdpEntries sdp ≠ []) :
    let text := writeLines (sdpDescription sdp)
    (∀ peer, (sdpParse peer text).2 = .ok ∧ ReadBack sdp peer (sdpParse peer text).1) ∧
      (readableCandidates sdp).length ≤ sdpMaxCandidates ∧
      (∀ bufLen, (sdpGenerateAnswer sdp bufLen).2 =
        if bufLen < sdpMinBufSize then .error .invalidParam
        else if bufLen ≤ text.length then .error .bufferTooSmall
        else .ok text) ∧
      ∀ pieces, pieces.flatten = text → ∀ bufLen mem, 0 < bufLen → bufLen ≤ mem.length →
        let r := runUntil (sdpAppend bufLen) ⟨mem, 0⟩ pieces
        r.1.mem.length = mem.length ∧ r.1.mem.drop bufLen = mem.drop bufLen ∧
          r.2 = (if bufLen ≤ text.length then some .bufferTooSmall else none) ∧
          (r.2 = none → r.1.pos = text.length ∧ r.1.mem.take text.length = text) := by
  refine ⟨fun peer => ⟨sdpParse_description h hufrag hpwd hsections peer,
    readBack_description h hufrag hpwd hsections peer⟩, ?_, sdpGenerateAnswer_result sdp, ?_⟩
  · exact Nat.le_trans (length_readableCandidates_le h) (by decide)
  · intro pieces hpieces bufLen mem hpos hmem
    obtain ⟨hlength, hdrop, hresult, hok⟩ := @sdpAppend_run bufLen pieces ⟨mem, 0⟩ hmem hpos
    rw [hpieces] at hresult hok
    dsimp only at hlength hdrop hresult hok ⊢
    rw [Nat.zero_add] at hresult hok
    refine ⟨hlength, hdrop, hresult, fun hnone => ⟨(hok hnone).1, ?_⟩⟩
    have htake := (hok hnone).2
    rw [(hok hnone).1] at htake
    exact htake

/-- The calls that are described: an audio track, a data channel and a candidate. -/
def demoDescribed (port : UInt16) : List RtcCall :=
  [.addTrack .audio .sendrecv 111 48000 2, .createDatachannel (ascii "chat") {},
    .addLocalCandidate (ascii "10.0.0.1") port]

/-- A candidate without a port is written, and not read again. -/
theorem candidate_unread :
    let sdp := (demoSession (demoDescribed 0 ++
      [.createOffer { credentials := some demoCredentials } 2048])).sdp
    let text := writeLines (sdpDescription sdp)
    (sdpGenerateAnswer sdp 2048).2 = .ok text ∧ sdp.localUfrag ≠ .nil ∧ sdp.localPwd ≠ .nil ∧
      (writtenCandidates sdp).map (fun c => (c.addr.bytes, c.port)) = [(ascii "10.0.0.1", 0)] ∧
      (sdpParse {} text).2 = .ok ∧ (sdpParse {} text).1.remoteCandidates = [] := by
  decide +kernel

theorem description_round_trip_demo :
    let sdp := (rtcSetCredentials (demoSession (demoDescribed 5001)) [0x11, 0x22, 0x33, 0x44]
      (List.replicate 11 0x55)).sdp
    let text := writeLines (sdpDescription sdp)
    (sdpParse {} text).2 = .ok ∧ ReadBack sdp {} (sdpParse {} text).1 ∧
      readableCandidates sdp = [⟨ascii "10.0.0.1", 5001⟩] ∧ (writtenMlines sdp).length = 1 := by
  have hheld := sdpHeld_credentials (announceable_run .plain false 3 () [] (demoDescribed 5001))
    (by decide +kernel) ⟨by decide +kernel, by decide +kernel⟩ [0x11, 0x22, 0x33, 0x44]
    (List.replicate 11 0x55)
  obtain ⟨hok, hread⟩ := (description_round_trip hheld (by decide +kernel) (by decide +kernel)
    (by decide +kernel)).1 {}
  exact ⟨hok, hread, by decide +kernel, by decide +kernel⟩

end Nanortc.Spec
