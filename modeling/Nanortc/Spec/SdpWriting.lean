import Nanortc.Spec.SdpSections

/-!
# Sections that the library writes

A description is its session lines and one section for each entry of the table, which is sorted by
MID. A section states its mid and its setup once, and a media section its codec once.

## Key results

- `sdpEntryLines_cons`: what stands below the "m=" line of a section
- `sdpSections_description`: the sections of a description that was written
- `sdpTable_perm`: the table has the entries of the media lines and the data channel
-/

namespace Nanortc.Spec

open Nanortc.ForStd Nanortc.Native

/-! ### Attributes -/

/-- A line with its end. -/
def crlf (l : LineText) : List UInt8 := l.bytes ++ [0x0D, 0x0A]

/-- The lines that state an attribute. -/
def attrLines (literal : String) (ls : List (List UInt8)) : List (List UInt8) :=
  ls.filter (lineStartsWith · literal)

/-- The lines of a section with the candidates that follow the first one. -/
def sdpEntryLines (sdp : NanoSdp) (x : SdpEntry × Nat) : List LineText :=
  sdpSectionLines sdp x.1 ++ if x.2 = 0 then sdpCandidateLines sdp else []

/-- The section that an entry of the table is written as. -/
def writtenSection (sdp : NanoSdp) (x : SdpEntry × Nat) : SdpSection :=
  ⟨crlf (sdpEntryLines sdp x).headI, (sdpEntryLines sdp x).tail.map crlf⟩

/-- Every line starts with one of the literals. -/
def TaggedIn (tags : List String) (ls : List LineText) : Prop :=
  ∀ l ∈ ls, ∃ tag ∈ tags, lineStartsWith (crlf l) tag = true

theorem taggedIn_nil {tags : List String} : TaggedIn tags [] := fun _ h => nomatch h

theorem TaggedIn.cons {tags : List String} {l : LineText} {ls : List LineText} (tag : String)
    (htag : tag ∈ tags) (hl : lineStartsWith (crlf l) tag = true) (h : TaggedIn tags ls) :
    TaggedIn tags (l :: ls) := by
  intro k hk
  rcases List.mem_cons.mp hk with rfl | hk
  · exact ⟨tag, htag, hl⟩
  · exact h k hk

theorem TaggedIn.append {tags : List String} {ks ls : List LineText} (hk : TaggedIn tags ks)
    (hl : TaggedIn tags ls) : TaggedIn tags (ks ++ ls) := fun l h =>
  (List.mem_append.mp h).elim (hk l) (hl l)

/-- No line that starts with one of the literals states the attribute. -/
theorem TaggedIn.attrLines_eq_nil {tags : List String} {ls : List LineText} (h : TaggedIn tags ls)
    {literal : String}
    (hne : ∀ tag ∈ tags, (ascii tag).isPrefixOf (ascii literal) = false ∧
      (ascii literal).isPrefixOf (ascii tag) = false) :
    attrLines literal (ls.map crlf) = [] := by
  unfold attrLines
  rw [List.filter_eq_nil_iff]
  intro line hline
  obtain ⟨l, hl, rfl⟩ := List.mem_map.mp hline
  obtain ⟨tag, htag, hstart⟩ := h l hl
  rw [not_lineStartsWith hstart (hne tag htag).1 (hne tag htag).2]
  decide

theorem attrLines_append (literal : String) (ks ls : List (List UInt8)) :
    attrLines literal (ks ++ ls) = attrLines literal ks ++ attrLines literal ls :=
  List.filter_append ..

theorem attrLines_cons_of_neg {literal : String} {l : List UInt8}
    (h : lineStartsWith l literal = false) (ls : List (List UInt8)) :
    attrLines literal (l :: ls) = attrLines literal ls :=
  List.filter_cons_of_neg (by rw [h]; decide)

/-- The attributes of a section that mid, setup and codec are told apart from. -/
def attrTags : List String :=
  ["c=", "a=ice-", "a=fingerprint:", "a=sendrecv", "a=sendonly", "a=recvonly", "a=inactive",
    "a=rtcp-", "a=fmtp:", "a=ptime:", "a=extmap:", "a=sctp-port:", "a=max-message-size:",
    "a=candidate:"]

theorem candidateLine_start (sdp : NanoSdp) {l : LineText} (h : l ∈ sdpCandidateLines sdp) :
    lineStartsWith (crlf l) "a=candidate:" = true := by
  unfold sdpCandidateLines sdpHostCandidates sdpSrflxCandidate sdpRelayCandidate at h
  simp only [List.mem_append, List.mem_filterMap] at h
  rcases h with (⟨⟨c, i⟩, -, h⟩ | h) | h
  · dsimp only at h
    split at h
    · exact nomatch h
    · rw [← Option.some.inj h]
      rfl
  · split at h
    · exact nomatch h
    · rw [List.mem_singleton.mp h]
      rfl
  · split at h
    · exact nomatch h
    · rw [List.mem_singleton.mp h]
      rfl

theorem taggedIn_candidates (sdp : NanoSdp) : TaggedIn attrTags (sdpCandidateLines sdp) :=
  fun _ h => ⟨"a=candidate:", by decide, candidateLine_start sdp h⟩

/-- The line of a setup. -/
def sdpSetupLine : SdpSetup → LineText
  | .passive => .lit "a=setup:passive"
  | .active => .lit "a=setup:active"
  | .actpass => .lit "a=setup:actpass"

theorem sdpTransportAttrs_shape (sdp : NanoSdp) :
    ∃ before, sdpTransportAttrs sdp = before ++ [sdpSetupLine sdp.localSetup] ∧
      TaggedIn attrTags before := by
  unfold sdpTransportAttrs
  refine ⟨_, by cases sdp.localSetup <;> rfl, ?_⟩
  refine TaggedIn.append (.cons "a=ice-" (by decide) rfl
    (.cons "a=ice-" (by decide) rfl taggedIn_nil)) ?_
  split
  · exact .cons "a=fingerprint:" (by decide) rfl taggedIn_nil
  · exact taggedIn_nil

theorem taggedIn_direction (dir : Direction) : TaggedIn attrTags [sdpDirectionLine dir] := by
  cases dir with
  | sendrecv => exact .cons "a=sendrecv" (by decide) rfl taggedIn_nil
  | sendonly => exact .cons "a=sendonly" (by decide) rfl taggedIn_nil
  | recvonly => exact .cons "a=recvonly" (by decide) rfl taggedIn_nil
  | inactive => exact .cons "a=inactive" (by decide) rfl taggedIn_nil

theorem taggedIn_connection (sdp : NanoSdp) : TaggedIn attrTags [sdpConnectionLine sdp] := by
  unfold sdpConnectionLine
  split
  · exact .cons "c=" (by decide) rfl taggedIn_nil
  · exact .cons "c=" (by decide) rfl taggedIn_nil

/-- The "m=" line of an entry. -/
def sectionHead (sdp : NanoSdp) (e : SdpEntry) : LineText :=
  match e.mline with
  | none => .lit "m=application 9 UDP/DTLS/SCTP webrtc-datachannel"
  | some i =>
    let ml := sdp.mlines.getD i default
    (match ml.kind with
      | .audio => .lit "m=audio"
      | .video => .lit "m=video") ++ .lit " 9 UDP/TLS/RTP/SAVPF " ++ decimal ml.pt.toNat

/-- The codec lines of an entry. -/
def sectionRtpmap (sdp : NanoSdp) (e : SdpEntry) : List LineText :=
  match e.mline with
  | none => []
  | some i =>
    let ml := sdp.mlines.getD i default
    [sdpRtpmapLine ml.pt (match ml.kind with
      | .audio => sdpAudioCodec ml.pt
      | .video => .lit "H264/90000")]

theorem sdpMediaMline_shape (sdp : NanoSdp) (ml : SdpMline) (kind : LineText) (mid : UInt8) :
    ∃ middle back, sdpMediaMline sdp ml kind mid =
        (kind ++ .lit " 9 UDP/TLS/RTP/SAVPF " ++ decimal ml.pt.toNat) ::
          ([sdpConnectionLine sdp] ++ [sdpMidLine mid] ++ middle ++ [sdpSetupLine sdp.localSetup] ++
            back) ∧
      TaggedIn attrTags middle ∧ TaggedIn attrTags back := by
  obtain ⟨before, htransport, hbefore⟩ := sdpTransportAttrs_shape sdp
  refine ⟨[sdpDirectionLine ml.direction] ++ before, [.lit "a=rtcp-mux"], ?_,
    (taggedIn_direction _).append hbefore,
    .cons "a=rtcp-" (by decide) rfl taggedIn_nil⟩
  unfold sdpMediaMline
  rw [htransport]
  simp only [List.append_assoc, List.cons_append, List.nil_append]

theorem sdpAudioMline_shape (sdp : NanoSdp) (ml : SdpMline) (mid : UInt8) :
    ∃ tail, sdpAudioMline sdp ml mid = sdpMediaMline sdp ml (.lit "m=audio") mid ++
        [sdpRtpmapLine ml.pt (sdpAudioCodec ml.pt)] ++ tail ∧
      TaggedIn attrTags tail := by
  unfold sdpAudioMline
  refine ⟨_, rfl, ?_⟩
  split
  · exact .cons "a=fmtp:" (by decide) rfl
      (.cons "a=ptime:" (by decide) rfl taggedIn_nil)
  · exact taggedIn_nil

theorem sdpVideoMline_shape (sdp : NanoSdp) (ml : SdpMline) (mid : UInt8) :
    ∃ tail, sdpVideoMline sdp ml mid = sdpMediaMline sdp ml (.lit "m=video") mid ++
        [sdpRtpmapLine ml.pt (.lit "H264/90000")] ++ tail ∧
      TaggedIn attrTags tail := by
  unfold sdpVideoMline
  rw [List.append_assoc]
  refine ⟨_, (List.append_assoc (sdpMediaMline sdp ml (.lit "m=video") mid) [_] _).symm, ?_⟩
  refine .append (.cons "a=fmtp:" (by decide) rfl
    (.cons "a=rtcp-" (by decide) rfl
      (.cons "a=rtcp-" (by decide) rfl taggedIn_nil))) ?_
  split
  · exact .cons "a=extmap:" (by decide) rfl taggedIn_nil
  · exact taggedIn_nil

/-- The lines of a section: its mid, setup and codec among other attributes. -/
theorem sdpSectionLines_shape (sdp : NanoSdp) (e : SdpEntry) :
    ∃ middle back tail, sdpSectionLines sdp e = sectionHead sdp e :: ([sdpConnectionLine sdp] ++
        [sdpMidLine e.mid] ++ middle ++ [sdpSetupLine sdp.localSetup] ++ back ++
        sectionRtpmap sdp e ++ tail) ∧
      TaggedIn attrTags middle ∧ TaggedIn attrTags back ∧ TaggedIn attrTags tail := by
  unfold sdpSectionLines sectionHead sectionRtpmap
  cases e.mline with
  | none =>
    obtain ⟨before, htransport, hbefore⟩ := sdpTransportAttrs_shape sdp
    refine ⟨[.lit "a=sendrecv", .lit "a=ice-options:trickle"] ++ before,
      [.lit "a=sctp-port:" ++ decimal sdp.localSctpPort.toNat,
        .lit "a=max-message-size:" ++ decimal sctpMaxMessageSize], [], ?_, ?_, ?_, taggedIn_nil⟩
    · unfold sdpDatachannelMline
      rw [htransport]
      simp only [List.append_assoc, List.cons_append, List.nil_append, List.append_nil]
    · exact .cons "a=sendrecv" (by decide) rfl
        (.cons "a=ice-" (by decide) rfl hbefore)
    · exact .cons "a=sctp-port:" (by decide) rfl
        (.cons "a=max-message-size:" (by decide) rfl taggedIn_nil)
  | some i =>
    dsimp only
    generalize sdp.mlines.getD i default = ml
    cases ml.kind with
    | audio =>
      obtain ⟨middle, back, hmedia, hmiddle, hback⟩ :=
        sdpMediaMline_shape sdp ml (.lit "m=audio") e.mid
      obtain ⟨tail, haudio, htail⟩ := sdpAudioMline_shape sdp ml e.mid
      refine ⟨middle, back, tail, ?_, hmiddle, hback, htail⟩
      show sdpAudioMline sdp ml e.mid = _
      rw [haudio, hmedia]
      rfl
    | video =>
      obtain ⟨middle, back, hmedia, hmiddle, hback⟩ :=
        sdpMediaMline_shape sdp ml (.lit "m=video") e.mid
      obtain ⟨tail, hvideo, htail⟩ := sdpVideoMline_shape sdp ml e.mid
      refine ⟨middle, back, tail, ?_, hmiddle, hback, htail⟩
      show sdpVideoMline sdp ml e.mid = _
      rw [hvideo, hmedia]
      rfl

/-- What stands in a section below its "m=" line, by attribute. -/
structure SectionAttrs (sdp : NanoSdp) (e : SdpEntry) (body : List (List UInt8)) : Prop where
  header : attrLines "m=" body = []
  mid : attrLines "a=mid:" body = [crlf (sdpMidLine e.mid)]
  setup : attrLines "a=setup:" body = [crlf (sdpSetupLine sdp.localSetup)]
  rtpmap : attrLines "a=rtpmap:" body = (sectionRtpmap sdp e).map crlf

/-- A section as it is written. -/
theorem sdpEntryLines_cons (sdp : NanoSdp) (x : SdpEntry × Nat) :
    ∃ body, sdpEntryLines sdp x = sectionHead sdp x.1 :: body ∧
      SectionAttrs sdp x.1 (body.map crlf) := by
  obtain ⟨middle, back, tail, hlines, hmiddle, hback, htail⟩ := sdpSectionLines_shape sdp x.1
  have hcandidates : TaggedIn attrTags (if x.2 = 0 then sdpCandidateLines sdp else []) := by
    split
    · exact taggedIn_candidates sdp
    · exact taggedIn_nil
  have hend := htail.append hcandidates
  have hconn := taggedIn_connection sdp
  unfold sdpEntryLines
  rw [hlines, List.cons_append]
  refine ⟨_, rfl, ?_⟩
  rw [List.append_assoc _ tail]
  generalize tail ++ (if x.2 = 0 then sdpCandidateLines sdp else []) = tail at hend
  have hne (literal : String) (hne : ∀ tag ∈ attrTags, (ascii tag).isPrefixOf (ascii literal) = false ∧
      (ascii literal).isPrefixOf (ascii tag) = false) :
      attrLines literal (([sdpConnectionLine sdp] ++ [sdpMidLine x.1.mid] ++ middle ++
        [sdpSetupLine sdp.localSetup] ++ back ++ sectionRtpmap sdp x.1 ++ tail).map crlf) =
      attrLines literal [crlf (sdpMidLine x.1.mid)] ++
        (attrLines literal [crlf (sdpSetupLine sdp.localSetup)] ++
          attrLines literal ((sectionRtpmap sdp x.1).map crlf)) := by
    simp only [List.map_append, attrLines_append, hconn.attrLines_eq_nil hne,
      hmiddle.attrLines_eq_nil hne, hback.attrLines_eq_nil hne, hend.attrLines_eq_nil hne,
      List.append_nil, List.nil_append, List.append_assoc]
    rfl
  have hrtpmap (literal : String)
      (h : ∀ (pt : UInt8) (codec : LineText),
        lineStartsWith (crlf (sdpRtpmapLine pt codec)) literal = false) :
      attrLines literal ((sectionRtpmap sdp x.1).map crlf) = [] := by
    unfold sectionRtpmap
    cases x.1.mline with
    | none => rfl
    | some i => exact attrLines_cons_of_neg (h ..) []
  constructor
  · rw [hne "m=" (by decide), hrtpmap "m=" fun _ _ => rfl]
    cases sdp.localSetup <;> rfl
  · rw [hne "a=mid:" (by decide), hrtpmap "a=mid:" fun _ _ => rfl]
    cases sdp.localSetup <;> rfl
  · rw [hne "a=setup:" (by decide), hrtpmap "a=setup:" fun _ _ => rfl]
    cases sdp.localSetup <;> rfl
  · rw [hne "a=rtpmap:" (by decide)]
    unfold sectionRtpmap
    cases x.1.mline with
    | none => cases sdp.localSetup <;> rfl
    | some i => cases sdp.localSetup <;> rfl

theorem lines_description (sdp : NanoSdp) :
    lines (writeLines (sdpDescription sdp)) = (sdpDescription sdp).map crlf := lines_writeLines _

theorem isSectionLine_head (sdp : NanoSdp) (e : SdpEntry) :
    isSectionLine (crlf (sectionHead sdp e)) = true := by
  unfold sectionHead
  cases e.mline with
  | none => rfl
  | some i =>
    dsimp only
    cases (sdp.mlines.getD i default).kind <;> rfl

/-- What the lines in front of the sections start with. -/
def sessionTags : List String := ["v=", "o=", "s=", "t=", "a=group:"]

theorem taggedIn_session (sdp : NanoSdp) : TaggedIn sessionTags (sdpSessionLines sdp) := by
  have hgroup (group : LineText) (h : ascii "a=group:" <+: group.bytes) (es : List SdpEntry) :
      ascii "a=group:" <+:
        (es.foldl (fun group e => group ++ .lit " " ++ decimal e.mid.toNat) group).bytes := by
    induction es generalizing group with
    | nil => exact h
    | cons e es ih =>
      refine ih _ ?_
      rw [LineText.bytes_append, LineText.bytes_append, List.append_assoc]
      exact h.trans (List.prefix_append ..)
  have hbundle : lineStartsWith (crlf ((sdpTable sdp).foldl
      (fun group e => group ++ .lit " " ++ decimal e.mid.toNat) (.lit "a=group:BUNDLE")))
      "a=group:" = true := by
    have h := hgroup (.lit "a=group:BUNDLE") (by decide) (sdpTable sdp)
    exact List.isPrefixOf_iff_prefix.mpr (h.trans (List.prefix_append ..))
  unfold sdpSessionLines
  refine .cons "v=" (by decide) rfl ?_
  refine .cons "o=" (by decide) ?_ ?_
  · unfold sdpOriginLine
    split <;> rfl
  · exact .cons "s=" (by decide) rfl
      (.cons "t=" (by decide) rfl
        (.cons "a=group:" (by decide) hbundle taggedIn_nil))

/-- No line in front of the sections states an attribute of theirs. -/
theorem attrLines_session (sdp : NanoSdp) (literal : String)
    (hne : ∀ tag ∈ sessionTags, (ascii tag).isPrefixOf (ascii literal) = false ∧
      (ascii literal).isPrefixOf (ascii tag) = false) :
    attrLines literal ((sdpSessionLines sdp).map crlf) = [] :=
  (taggedIn_session sdp).attrLines_eq_nil hne

/-- The sections of a description that was written: one for each entry of the table. -/
theorem sdpSections_description (sdp : NanoSdp) :
    sdpSections (writeLines (sdpDescription sdp)) =
      (sdpTable sdp).zipIdx.map (writtenSection sdp) := by
  have hsession : ∀ l ∈ (sdpSessionLines sdp).map crlf, ¬ isSectionLine l = true := by
    have h := attrLines_session sdp "m=" (by decide)
    exact List.filter_eq_nil_iff.mp h
  have htable : (sdpTableLines sdp (sdpTable sdp).zipIdx).map crlf =
      ((sdpTable sdp).zipIdx.map (writtenSection sdp)).flatMap fun s => s.head :: s.body := by
    unfold sdpTableLines
    rw [List.map_flatMap, List.flatMap_map]
    refine List.flatMap_congr fun x _ => ?_
    obtain ⟨body, hlines, -⟩ := sdpEntryLines_cons sdp x
    show (sdpEntryLines sdp x).map crlf = _
    unfold writtenSection
    rw [hlines]
    rfl
  unfold sdpSections sectionsOf
  rw [lines_description]
  unfold sdpDescription
  rw [List.map_append, headed_append hsession, htable]
  refine headed_flatMap ?_ ?_
  · intro s hs
    obtain ⟨x, -, rfl⟩ := List.mem_map.mp hs
    obtain ⟨body, hlines, -⟩ := sdpEntryLines_cons sdp x
    unfold writtenSection
    rw [hlines]
    exact isSectionLine_head sdp x.1
  · intro s hs
    obtain ⟨x, -, rfl⟩ := List.mem_map.mp hs
    obtain ⟨body, hlines, hattrs⟩ := sdpEntryLines_cons sdp x
    unfold writtenSection
    rw [hlines]
    exact List.filter_eq_nil_iff.mp hattrs.header

/-! ### Setup -/

theorem parseSetup_setupLine (setup : SdpSetup) : parseSetup (crlf (sdpSetupLine setup)) = setup := by
  cases setup <;> decide

/-! ### The table -/

theorem sdpSortInner_perm (e : SdpEntry) (es : List SdpEntry) :
    ((sdpSortInner e es).1 :: (sdpSortInner e es).2).Perm (e :: es) := by
  induction es generalizing e with
  | nil => exact .refl _
  | cons d es ih =>
    unfold sdpSortInner
    split
    · exact (List.Perm.swap ..).trans ((ih d).cons e)
    · exact (List.Perm.swap ..).trans (((ih e).cons d).trans (List.Perm.swap ..))

theorem sdpSort_perm (n : Nat) (es : List SdpEntry) : (sdpSort n es).Perm es := by
  induction n generalizing es with
  | zero => exact .refl _
  | succ n ih =>
    cases es with
    | nil => exact .refl _
    | cons e es => exact ((ih _).cons _).trans (sdpSortInner_perm e es)

/-- The table has the entries of the media lines and the data channel. -/
theorem sdpTable_perm (sdp : NanoSdp) : (sdpTable sdp).Perm (sdpEntries sdp) := sdpSort_perm _ _

end Nanortc.Spec
