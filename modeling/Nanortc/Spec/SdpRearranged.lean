import Nanortc.Spec.SdpOrder
import Nanortc.Spec.SdpWriting

/-!
# Descriptions with their attributes in another order

The attribute lines of one section change places while its "a=rtpmap:" lines keep their order. What
the parser makes of the text stays the same, but for the payload type of a video section whose lines
do not settle on one.

## Key results

- `sdpParse_rearranged_ok`: the order never decides whether a text is accepted
- `sdpParse_rearranged`: what stays where all video sections settle
- `attributes_rearranged`: where it stays, they do
-/

namespace Nanortc.Spec

open Nanortc.ForStd Nanortc.Native

/-! ### Rearranged texts -/

/-- An attribute line. -/
def isAttribute (line : List UInt8) : Bool := lineStartsWith line "a="

/-- An "a=rtpmap:" line. -/
def isRtpmap (line : List UInt8) : Bool := lineStartsWith line "a=rtpmap:"

/-- The text with the attribute lines of one section in another order, its "a=rtpmap:" lines in the
order that they had. -/
def Rearranged (text text' : List UInt8) : Prop :=
  ∃ pre m body body' post,
    lines text = pre ++ m :: (body ++ post) ∧ lines text' = pre ++ m :: (body' ++ post) ∧
    isSectionLine m = true ∧ (∀ l ∈ body, ¬ isSectionLine l = true) ∧
    (∀ l, post.head? = some l → isSectionLine l = true) ∧ Reordered isAttribute isRtpmap body body'

/-- The attributes that a section states once. -/
def singleTags : List String :=
  ["a=ice-ufrag:", "a=ice-pwd:", "a=fingerprint:", "a=max-message-size:", "a=sctp-port:", "a=setup:"]

/-- A section that states no more than one value for each attribute that has one. -/
structure SingleValued (body : List (List UInt8)) : Prop where
  tags : ∀ tag ∈ singleTags, (body.filter (lineStartsWith · tag)).length ≤ 1
  direction : (body.filterMap parseDirection).length ≤ 1
  twcc : (body.filterMap twccExtmap).length ≤ 1

instance (body : List (List UInt8)) : Decidable (SingleValued body) :=
  decidable_of_iff ((∀ tag ∈ singleTags, (body.filter (lineStartsWith · tag)).length ≤ 1) ∧
    (body.filterMap parseDirection).length ≤ 1 ∧ (body.filterMap twccExtmap).length ≤ 1)
    ⟨fun ⟨ht, hd, hx⟩ => ⟨ht, hd, hx⟩, fun h => ⟨h.1, h.2, h.3⟩⟩

/-- The same was read from two descriptions, but for the order of the candidates. -/
structure SameExtract (a b : NanoSdp) : Prop where
  mlines : a.mlines = b.mlines
  ufrag : a.remoteUfrag = b.remoteUfrag
  pwd : a.remotePwd = b.remotePwd
  fingerprint : a.remoteFingerprint = b.remoteFingerprint
  maxMessageSize : a.remoteMaxMessageSize = b.remoteMaxMessageSize
  sctpPort : a.remoteSctpPort = b.remoteSctpPort
  setup : a.remoteSetup = b.remoteSetup
  candidates : a.remoteCandidates.Perm b.remoteCandidates
  endOfCandidates : a.endOfCandidates = b.endOfCandidates
  hasDatachannel : a.hasDatachannel = b.hasDatachannel
  dcMid : a.dcMid = b.dcMid
  midCount : a.midCount = b.midCount

/-- A section of audio or video. -/
def isMediaSection (s : SdpSection) : Bool := (mediaKind s.head).isSome

/-- The media sections that the table has room for. -/
def tableSections (text : List UInt8) : List SdpSection :=
  ((sdpSections text).filter isMediaSection).take maxMediaTracks

/-- The lines of every video section of the table settle on a payload type. -/
def VideosSettled (text : List UInt8) : Prop :=
  ∀ s ∈ tableSections text, mediaKind s.head = some .video → CodecSettled s.body

/-! ### Attributes outside the sections -/

theorem perm_middle_right {α : Type} {body body' : List α} (h : body'.Perm body) (pre : List α)
    (m : α) (post : List α) : (pre ++ m :: (body' ++ post)).Perm (pre ++ m :: (body ++ post)) :=
  ((h.append_right post).cons m).append_left pre

theorem Rearranged.perm {text text' : List UInt8} (h : Rearranged text text') :
    (lines text').Perm (lines text) := by
  obtain ⟨pre, m, body, body', post, htext, htext', -, -, -, hreordered⟩ := h
  rw [htext, htext']
  exact perm_middle_right hreordered.perm pre m post

theorem Rearranged.sections {text text' : List UInt8} (h : Rearranged text text') :
    ∃ ks ls m body body', sdpSections text = ks ++ ⟨m, body⟩ :: ls ∧
      sdpSections text' = ks ++ ⟨m, body'⟩ :: ls ∧ Reordered isAttribute isRtpmap body body' := by
  obtain ⟨pre, m, body, body', post, htext, htext', hm, hbody, hpost, hreordered⟩ := h
  have hbody' : ∀ l ∈ body', ¬ isSectionLine l = true := fun l hl =>
    hbody l (hreordered.perm.mem_iff.mp hl)
  refine ⟨sectionsOf pre, sectionsOf post, m, body, body', ?_, ?_, hreordered⟩
  · unfold sdpSections
    rw [htext]
    exact headed_section hm hbody pre hpost
  · unfold sdpSections
    rw [htext']
    exact headed_section hm hbody' pre hpost

/-- A field whose attribute stands in a section once. -/
theorem SdpField.stated_rearranged {α : Type} (f : SdpField α) {text text' : List UInt8}
    (h : Rearranged text text')
    (hone : ∀ s ∈ sdpSections text, (s.body.filter (lineStartsWith · f.literal)).length ≤ 1) (a : α) :
    f.stated a (lines text') = f.stated a (lines text) := by
  obtain ⟨pre, m, body, body', post, htext, htext', hm, hbody, hpost, hreordered⟩ := h
  have hmem : (⟨m, body⟩ : SdpSection) ∈ sdpSections text := by
    unfold sdpSections sectionsOf
    rw [htext, headed_section hm hbody pre hpost]
    exact List.mem_append_right _ List.mem_cons_self
  have hfilter := hreordered.filter_eq (hone _ hmem)
  have hstated (b : α) (ls : List (List UInt8)) :
      f.stated b ls = (ls.filter (lineStartsWith · f.literal)).foldl (fun a l => f.read l a) b := by
    rw [List.foldl_filter]
    rfl
  rw [htext, htext', hstated, hstated]
  simp only [List.filter_append, List.filter_cons, hfilter]

/-- The peer has no more candidates where a line says so. -/
theorem endOfCandidatesField_stated (b : Bool) (ls : List (List UInt8)) :
    endOfCandidatesField.stated b ls = (b || ls.any (lineStartsWith · "a=end-of-candidates")) := by
  induction ls generalizing b with
  | nil => exact (Bool.or_false b).symm
  | cons l ls ih =>
    show endOfCandidatesField.stated (if lineStartsWith l "a=end-of-candidates" then true else b) ls = _
    rw [ih, List.any_cons]
    cases lineStartsWith l "a=end-of-candidates" with
    | true => exact (Bool.or_true b).symm
    | false => rfl

theorem any_perm {α : Type} {ks ls : List α} (h : ks.Perm ls) (p : α → Bool) :
    ks.any p = ls.any p := by
  rw [Bool.eq_iff_iff, List.any_eq_true, List.any_eq_true]
  exact exists_congr fun a => and_congr_left fun _ => h.mem_iff

/-- The order of attributes never decides whether a text is accepted. -/
theorem sdpParse_rearranged_ok {sdp : NanoSdp} {text text' : List UInt8}
    (h : Rearranged text text') (hsingle : ∀ s ∈ sdpSections text, SingleValued s.body) :
    (sdpParse sdp text').2 = .ok ↔ (sdpParse sdp text).2 = .ok := by
  have hufrag := ufragField.stated_rearranged h
    (fun s hs => (hsingle s hs).tags _ (by decide)) sdp.remoteUfrag
  have hpwd := pwdField.stated_rearranged h
    (fun s hs => (hsingle s hs).tags _ (by decide)) sdp.remotePwd
  have hempty (t : List UInt8) : t = [] ↔ lines t = [] := by
    constructor
    · rintro rfl
      rfl
    · intro ht
      rw [← flatten_lines t, ht]
      rfl
  have hnil : text' = [] ↔ text = [] := by
    rw [hempty, hempty, ← List.length_eq_zero_iff, ← List.length_eq_zero_iff, h.perm.length_eq]
  have hlines : (∀ l ∈ lines text', ¬ BadLine l) ↔ ∀ l ∈ lines text, ¬ BadLine l :=
    forall_congr' fun l => imp_congr_left h.perm.mem_iff
  rw [sdpParse_ok_iff, sdpParse_ok_iff, hufrag, hpwd, hlines]
  exact and_congr_left fun _ => not_congr hnil

/-! ### Sections -/

theorem mediaMlines_append (n : Nat) (ks ls : List SdpSection) :
    mediaMlines n (ks ++ ls) = mediaMlines n ks ++ mediaMlines (n + ks.length) ls := by
  unfold mediaMlines
  rw [List.zipIdx_append, List.filterMap_append, Nat.add_comm]

theorem length_mediaMlines (n : Nat) (ss : List SdpSection) :
    (mediaMlines n ss).length = (ss.filter isMediaSection).length := by
  induction ss generalizing n with
  | nil => rfl
  | cons s ss ih =>
    rw [mediaMlines_cons, List.length_append, ih, List.filter_cons]
    unfold isMediaSection
    cases mediaKind s.head with
    | none => exact Nat.zero_add _
    | some kind => exact Nat.add_comm ..

/-- The media lines of a table, cut at a section. -/
theorem take_mediaMlines_section (ks : List SdpSection) (s : SdpSection) (ls : List SdpSection) :
    (mediaMlines 0 (ks ++ s :: ls)).take maxMediaTracks =
      (mediaMlines 0 ks).take maxMediaTracks ++
        (((mediaKind s.head).map (sectionMline (UInt8.ofNat ks.length) s)).toList ++
          mediaMlines (ks.length + 1) ls).take (maxMediaTracks - (mediaMlines 0 ks).length) := by
  rw [mediaMlines_append, List.take_append, mediaMlines_cons, Nat.zero_add]

/-- A media section of which fewer than fit stand in front is one of the table. -/
theorem mem_tableSections {text : List UInt8} {ks ls : List SdpSection} {s : SdpSection}
    (h : sdpSections text = ks ++ s :: ls) (hkind : isMediaSection s = true)
    (hroom : (mediaMlines 0 ks).length < maxMediaTracks) : s ∈ tableSections text := by
  rw [length_mediaMlines] at hroom
  unfold tableSections
  rw [h, List.filter_append, List.filter_cons_of_pos hkind, List.take_append]
  obtain ⟨k, hk⟩ : ∃ k, maxMediaTracks -
      (ks.filter isMediaSection).length = k + 1 :=
    ⟨_, (Nat.succ_pred (Nat.sub_ne_zero_of_lt hroom)).symm⟩
  rw [hk]
  exact List.mem_append_right _ List.mem_cons_self

/-- Sections of the table have room in it. -/
theorem exists_of_mem_tableSections {text : List UInt8} {s : SdpSection}
    (h : s ∈ tableSections text) : ∃ ks ls, sdpSections text = ks ++ s :: ls ∧
      (mediaMlines 0 ks).length < maxMediaTracks := by
  unfold tableSections at h
  generalize sdpSections text = ss at h ⊢
  generalize maxMediaTracks = n at h ⊢
  simp only [length_mediaMlines]
  induction ss generalizing n with
  | nil =>
    rw [List.filter_nil, List.take_nil] at h
    exact absurd h List.not_mem_nil
  | cons t ss ih =>
    cases ht : isMediaSection t with
    | false =>
      rw [List.filter_cons_of_neg (by simp [ht])] at h
      obtain ⟨ks, ls, hss, hroom⟩ := ih n h
      refine ⟨t :: ks, ls, congrArg (t :: ·) hss, ?_⟩
      rw [List.filter_cons_of_neg (by simp [ht])]
      exact hroom
    | true =>
      rw [List.filter_cons_of_pos ht] at h
      cases n with
      | zero => exact absurd h List.not_mem_nil
      | succ n =>
        rw [List.take_succ_cons] at h
        rcases List.mem_cons.mp h with rfl | h
        · exact ⟨[], ss, rfl, Nat.succ_pos n⟩
        · obtain ⟨ks, ls, hss, hroom⟩ := ih n h
          refine ⟨t :: ks, ls, congrArg (t :: ·) hss, ?_⟩
          rw [List.filter_cons_of_pos ht, List.length_cons]
          exact Nat.succ_lt_succ hroom

theorem isRtpmap_of_h264Rtpmap {line : List UInt8} (h : (h264Rtpmap line).isSome) :
    isRtpmap line = true := by
  unfold h264Rtpmap at h
  split at h
  · assumption
  · exact nomatch h

/-- What the last "a=rtpmap:" line of H.264 says. -/
theorem codecRun_fst (ls : List (List UInt8)) (c : UInt8 × UInt8) :
    (ls.foldl codecStep c).1 = ((ls.filterMap h264Rtpmap).getLast?).getD c.1 := by
  rw [← foldl_getD]
  induction ls generalizing c with
  | nil => rfl
  | cons l ls ih => exact ih (codecStep c l)

/-- A section whose attributes stand in another order makes the same media line, where a video
section settles on a payload type. -/
theorem sectionMline_reordered {body body' : List (List UInt8)}
    (h : Reordered isAttribute isRtpmap body body') (hsingle : SingleValued body) (pos : UInt8)
    (m : List UInt8) {kind : TrackKind} (hsettled : kind = .video → CodecSettled body) :
    sectionMline pos ⟨m, body'⟩ kind = sectionMline pos ⟨m, body⟩ kind := by
  unfold sectionMline
  have hcodec : codecRun kind body' (0, 0) = codecRun kind body (0, 0) := by
    cases kind with
    | audio => rfl
    | video =>
      refine Prod.ext ?_ (codecRun_settled (hsettled rfl) h.perm)
      show (body'.foldl codecStep (0, 0)).1 = (body.foldl codecStep (0, 0)).1
      rw [codecRun_fst, codecRun_fst, h.filterMap_eq fun l hl => isRtpmap_of_h264Rtpmap hl]
  have htwcc := eq_of_perm_of_length_le_one (h.perm.filterMap twccExtmap) hsingle.twcc
  have hdir := eq_of_perm_of_length_le_one (h.perm.filterMap parseDirection) hsingle.direction
  rw [foldl_parseAttr, foldl_parseAttr, htwcc, hdir]
  exact congrArg (withReadings (openMline pos m kind) · _ _) hcodec

/-- The media lines of a rearranged text. -/
theorem mediaMlines_rearranged {text text' : List UInt8} (h : Rearranged text text')
    (hsingle : ∀ s ∈ sdpSections text, SingleValued s.body) (hsettled : VideosSettled text) :
    (mediaMlines 0 (sdpSections text')).take maxMediaTracks =
      (mediaMlines 0 (sdpSections text)).take maxMediaTracks := by
  obtain ⟨ks, ls, m, body, body', hsections, hsections', hreordered⟩ := h.sections
  have hbody := hsingle ⟨m, body⟩ (by
    rw [hsections]
    exact List.mem_append_right _ List.mem_cons_self)
  rw [hsections, hsections', take_mediaMlines_section, take_mediaMlines_section]
  dsimp only
  cases hkind : mediaKind m with
  | none => rfl
  | some kind =>
    by_cases hroom : (mediaMlines 0 ks).length < maxMediaTracks
    · have hmem := mem_tableSections hsections (congrArg Option.isSome hkind) hroom
      have hvideo (h : kind = .video) := hsettled _ hmem (hkind.trans (congrArg some h))
      have hmline := sectionMline_reordered hreordered hbody (UInt8.ofNat ks.length) m hvideo
      rw [Option.map_some, Option.map_some, hmline]
    · rw [Nat.sub_eq_zero_of_le (Nat.not_lt.mp hroom), List.take_zero, List.take_zero]

theorem applicationMid_heads (mid : UInt8) (n : Nat) (ks ls : List SdpSection) (m : List UInt8)
    (body body' : List (List UInt8)) :
    applicationMid mid n (ks ++ ⟨m, body'⟩ :: ls) = applicationMid mid n (ks ++ ⟨m, body⟩ :: ls) := by
  induction ks generalizing mid n with
  | nil =>
    rw [List.nil_append, List.nil_append, applicationMid_cons, applicationMid_cons]
  | cons k ks ih =>
    rw [List.cons_append, List.cons_append, applicationMid_cons, applicationMid_cons]
    exact ih _ _

/-- The order of attributes changes nothing that is read where all video sections settle. -/
theorem sdpParse_rearranged {sdp : NanoSdp} {text text' : List UInt8}
    (h : Rearranged text text') (hsingle : ∀ s ∈ sdpSections text, SingleValued s.body)
    (hroom : sdp.remoteCandidates.length + (lineCandidates (lines text)).length ≤ sdpMaxCandidates)
    (hok : (sdpParse sdp text).2 = .ok) (hsettled : VideosSettled text) :
    SameExtract (sdpParse sdp text').1 (sdpParse sdp text).1 := by
  have hok' := (sdpParse_rearranged_ok h hsingle).mpr hok
  have hone (tag : String) (htag : tag ∈ singleTags) (s : SdpSection) (hs : s ∈ sdpSections text) :
      (s.body.filter (lineStartsWith · tag)).length ≤ 1 := (hsingle s hs).tags tag htag
  have hcandidates : (lineCandidates (lines text')).Perm (lineCandidates (lines text)) :=
    h.perm.filterMap _
  have hlength := hcandidates.length_eq
  have hdc := sdpParse_datachannel hok
  have hdc' := sdpParse_datachannel hok'
  obtain ⟨ks, ls, m, body, body', hsections, hsections', -⟩ := h.sections
  rw [hsections] at hdc
  rw [hsections'] at hdc'
  constructor
  · rw [sdpParse_mlines hok, sdpParse_mlines hok', mediaMlines_rearranged h hsingle hsettled]
  · have hfield := ufragField.stated_rearranged h (hone _ (by decide)) sdp.remoteUfrag
    exact (ufragField.parsed hok' rfl).trans (hfield.trans (ufragField.parsed hok rfl).symm)
  · have hfield := pwdField.stated_rearranged h (hone _ (by decide)) sdp.remotePwd
    exact (pwdField.parsed hok' rfl).trans (hfield.trans (pwdField.parsed hok rfl).symm)
  · have hfield := fingerprintField.stated_rearranged h (hone _ (by decide))
      sdp.remoteFingerprint
    exact (fingerprintField.parsed hok' rfl).trans
      (hfield.trans (fingerprintField.parsed hok rfl).symm)
  · rw [sdpParse_maxMessageSize hok, sdpParse_maxMessageSize hok',
      maxMessageSizeField.stated_rearranged h (hone _ (by decide))]
  · have hfield := sctpPortField.stated_rearranged h (hone _ (by decide)) sdp.remoteSctpPort
    exact (sctpPortField.parsed hok' rfl).trans (hfield.trans (sctpPortField.parsed hok rfl).symm)
  · have hfield := setupField.stated_rearranged h (hone _ (by decide)) sdp.remoteSetup
    exact (setupField.parsed hok' rfl).trans (hfield.trans (setupField.parsed hok rfl).symm)
  · rw [sdpParse_candidates hok, sdpParse_candidates hok', List.take_of_length_le (by omega),
      List.take_of_length_le (by omega)]
    exact hcandidates.append_left _
  · have hfield : endOfCandidatesField.stated sdp.endOfCandidates (lines text') =
        endOfCandidatesField.stated sdp.endOfCandidates (lines text) := by
      rw [endOfCandidatesField_stated, endOfCandidatesField_stated, any_perm h.perm]
    exact (endOfCandidatesField.parsed hok' rfl).trans
      (hfield.trans (endOfCandidatesField.parsed hok rfl).symm)
  · rw [hdc.1, hdc'.1, List.any_append, List.any_append]
    rfl
  · rw [hdc.2.1, hdc'.2.1, applicationMid_heads _ _ ks ls m body body']
  · rw [hdc.2.2, hdc'.2.2, List.length_append, List.length_append]
    rfl

/-! ### Where the order matters -/

/-- A line starts with what begins the literal that it starts with. -/
theorem lineStartsWith_shorter {line : List UInt8} {a b : String} (h : lineStartsWith line b = true)
    (hab : (ascii a).isPrefixOf (ascii b) = true) : lineStartsWith line a = true := by
  unfold lineStartsWith at h ⊢
  rw [List.isPrefixOf_iff_prefix] at h hab ⊢
  exact hab.trans h

theorem isAttribute_of_isRtpmap {line : List UInt8} (h : isRtpmap line = true) :
    isAttribute line = true := lineStartsWith_shorter h (by decide)

theorem isMode1_fmtp {line : List UInt8} (h : isMode1 line = true) :
    lineStartsWith line "a=fmtp:" = true := (Bool.and_eq_true _ _ ▸ h).1

theorem isAttribute_of_isMode1 {line : List UInt8} (h : isMode1 line = true) :
    isAttribute line = true := lineStartsWith_shorter (isMode1_fmtp h) (by decide)

theorem not_isRtpmap_of_isMode1 {line : List UInt8} (h : isMode1 line = true) :
    isRtpmap line = false :=
  not_lineStartsWith (isMode1_fmtp h) (by decide) (by decide)

/-- Lines that are no attributes say nothing about payload types. -/
theorem codecStep_idle (c : UInt8 × UInt8) {line : List UInt8} (h : isAttribute line = false) :
    codecStep c line = c := by
  have hmode : isMode1 line = false := by
    rw [Bool.eq_false_iff]
    intro hmode
    rw [isAttribute_of_isMode1 hmode] at h
    exact nomatch h
  have hnone : h264Rtpmap line = none := by
    rw [← Option.not_isSome_iff_eq_none]
    intro hsome
    rw [isAttribute_of_isRtpmap (isRtpmap_of_h264Rtpmap hsome)] at h
    exact nomatch h
  rw [codecStep_other hmode, hnone]
  rfl

/-- Lines of which none is in packetization mode 1 leave the payload type. -/
theorem codecRun_others {ls : List (List UInt8)} (h : ∀ l ∈ ls, isMode1 l = false)
    (c : UInt8 × UInt8) : (ls.foldl codecStep c).2 = c.2 := by
  induction ls generalizing c with
  | nil => rfl
  | cons l ls ih =>
    rw [List.forall_mem_cons] at h
    rw [List.foldl_cons, ih h.2, codecStep_other h.1]

/-- Any payload type of H.264 can be the last one that is mapped. -/
theorem exists_split_rtpmaps {body : List (List UInt8)} {r : UInt8}
    (h : r = 0 ∨ r ∈ h264Rtpmaps body) :
    ∃ ks ls, body.filter isRtpmap = ks ++ ls ∧ ks.foldl codecStep (0, 0) = (r, 0) := by
  obtain rfl | h := h
  · exact ⟨[], _, rfl, rfl⟩
  obtain ⟨l, hl, hr⟩ := List.mem_filterMap.mp h
  have hrtpmap : isRtpmap l = true := isRtpmap_of_h264Rtpmap (by rw [hr]; rfl)
  obtain ⟨ks, ls, hsplit⟩ := List.append_of_mem (List.mem_filter.mpr ⟨hl, hrtpmap⟩)
  have hothers : ∀ k ∈ ks ++ [l], isMode1 k = false := by
    intro k hk
    have hk' : k ∈ body.filter isRtpmap := by
      rw [hsplit]
      rcases List.mem_append.mp hk with hk | hk
      · exact List.mem_append_left _ hk
      · rw [List.mem_singleton.mp hk]
        exact List.mem_append_right _ List.mem_cons_self
    rw [Bool.eq_false_iff]
    intro hmode
    have hnot := not_isRtpmap_of_isMode1 hmode
    rw [(List.mem_filter.mp hk').2] at hnot
    exact nomatch hnot
  refine ⟨ks ++ [l], ls, ?_, Prod.ext ?_ (codecRun_others hothers _)⟩
  · rw [hsplit, List.append_assoc]
    rfl
  · rw [codecRun_fst, List.filterMap_append, List.filterMap_cons_some hr, List.filterMap_nil,
      List.getLast?_concat]
    rfl

/-- The "a=fmtp:" lines in packetization mode 1 can stand in any order behind any "a=rtpmap:" line,
or in front of all. -/
theorem exists_reordered_mode1 {body fs : List (List UInt8)} (hfs : fs.Perm (mode1Lines body))
    {r : UInt8} (hr : r = 0 ∨ r ∈ h264Rtpmaps body) :
    ∃ body', Reordered isAttribute isRtpmap body body' ∧
      (body'.foldl codecStep (0, 0)).2 = (fs.foldl codecStep (r, 0)).2 := by
  obtain ⟨ks, ls, hsplit, hfold⟩ := exists_split_rtpmaps hr
  have hkeep (p q : List UInt8 → Bool) (hpq : ∀ l, q l = true → p l = true)
      (xs : List (List UInt8)) : (xs.filter p).filter q = xs.filter q := by
    rw [List.filter_filter]
    refine List.filter_congr fun l _ => ?_
    cases hq : q l with
    | false => rfl
    | true => rw [hpq l hq]; rfl
  -- the attributes are the "a=rtpmap:" lines, those in packetization mode 1, and the others
  let rest := (body.filter isAttribute).filter (!isRtpmap ·)
  let others := rest.filter (!isMode1 ·)
  have hrtpmaps : (body.filter isAttribute).filter isRtpmap = ks ++ ls :=
    (hkeep _ _ (fun _ => isAttribute_of_isRtpmap) body).trans hsplit
  have hmode : rest.filter isMode1 = mode1Lines body :=
    (hkeep _ _ (fun l hl => by rw [not_isRtpmap_of_isMode1 hl]; rfl) _).trans
      (hkeep _ _ (fun _ => isAttribute_of_isMode1) body)
  have hperm : (ks ++ (fs ++ (ls ++ others))).Perm (body.filter isAttribute) := by
    have hparts := List.filter_append_perm isRtpmap (body.filter isAttribute)
    have hrest := List.filter_append_perm isMode1 rest
    rw [hrtpmaps] at hparts
    rw [hmode] at hrest
    refine List.Perm.trans ?_ hparts
    rw [List.append_assoc]
    refine List.Perm.append_left ks ?_
    refine List.Perm.trans ?_ (hrest.append_left ls)
    rw [← List.append_assoc, ← List.append_assoc]
    refine List.Perm.append_right _ ?_
    exact (hfs.append_right ls).trans List.perm_append_comm
  have hfsmode : ∀ l ∈ fs, isMode1 l = true := fun l hl =>
    (List.mem_filter.mp (hfs.mem_iff.mp hl)).2
  have hothers : ∀ l ∈ others, isMode1 l = false ∧ isRtpmap l = false := by
    intro l hl
    obtain ⟨hl, hnotmode⟩ := List.mem_filter.mp hl
    have hnotrtpmap := (List.mem_filter.mp hl).2
    simp only [Bool.not_eq_true'] at hnotmode hnotrtpmap
    exact ⟨hnotmode, hnotrtpmap⟩
  have hall : ∀ l ∈ ks ++ ls, isRtpmap l = true := fun l hl => by
    rw [← hsplit] at hl
    exact (List.mem_filter.mp hl).2
  have horder : (ks ++ (fs ++ (ls ++ others))).filter isRtpmap = body.filter isRtpmap := by
    have hks : ks.filter isRtpmap = ks :=
      List.filter_eq_self.mpr fun l hl => hall l (List.mem_append_left _ hl)
    have hls : ls.filter isRtpmap = ls :=
      List.filter_eq_self.mpr fun l hl => hall l (List.mem_append_right _ hl)
    have hfsnil : fs.filter isRtpmap = [] := List.filter_eq_nil_iff.mpr fun l hl => by
      rw [not_isRtpmap_of_isMode1 (hfsmode l hl)]
      exact nofun
    have hnil : others.filter isRtpmap = [] := List.filter_eq_nil_iff.mpr fun l hl => by
      rw [(hothers l hl).2]
      exact nofun
    rw [List.filter_append, List.filter_append, List.filter_append, hks, hls, hfsnil, hnil, hsplit,
      List.append_nil]
    rfl
  obtain ⟨body', hreordered, hattributes⟩ :=
    exists_reordered (fun _ => isAttribute_of_isRtpmap) hperm horder
  refine ⟨body', hreordered, ?_⟩
  have hend : ∀ l ∈ ls ++ others, isMode1 l = false := by
    intro l hl
    rcases List.mem_append.mp hl with hl | hl
    · rw [Bool.eq_false_iff]
      intro hmode
      have hnot := not_isRtpmap_of_isMode1 hmode
      rw [hall l (List.mem_append_right _ hl)] at hnot
      exact nomatch hnot
    · exact (hothers l hl).1
  have hidle := @foldl_filter_of_idle _ _ codecStep isAttribute
    (fun c _ hl => codecStep_idle c hl) (0, 0) body'
  rw [← hidle, hattributes, List.foldl_append, hfold, List.foldl_append, codecRun_others hend]

/-- The text ends with a line end. -/
def EndsLine (text : List UInt8) : Prop := ∃ t, text = t ++ [0x0A]

/-- A section of a text with its attributes in another order, where no line is left without its
end. -/
theorem exists_rearranged {text : List UInt8} (hend : EndsLine text) {ks ls : List SdpSection}
    {s : SdpSection} (h : sdpSections text = ks ++ s :: ls) {body : List (List UInt8)}
    (hreordered : Reordered isAttribute isRtpmap s.body body) :
    ∃ text', Rearranged text text' ∧ sdpSections text' = ks ++ ⟨s.head, body⟩ :: ls := by
  obtain ⟨t, rfl⟩ := hend
  obtain ⟨pre, post, hlines, hm, hbody, hpost, hpre, hrest⟩ := exists_of_headed h
  let new := pre ++ s.head :: (body ++ post)
  have hperm : new.Perm (lines (t ++ [0x0A])) := by
    rw [hlines]
    exact perm_middle_right hreordered.perm pre s.head post
  have hnew : lines new.flatten = new := lines_flatten fun l hl =>
    endedLine_of_mem_lines (hperm.mem_iff.mp hl)
  have hbody' : ∀ l ∈ body, ¬ isSectionLine l = true := fun l hl =>
    hbody l (hreordered.perm.mem_iff.mp hl)
  refine ⟨new.flatten, ⟨pre, s.head, s.body, body, post, hlines, hnew, hm, hbody, hpost,
    hreordered⟩, ?_⟩
  unfold sdpSections
  rw [hnew, ← hpre, ← hrest]
  exact headed_section hm hbody' pre hpost

/-- Where the order of attributes changes nothing that is read, all video sections settle. -/
theorem videosSettled_of_same {sdp : NanoSdp} {text : List UInt8} (hend : EndsLine text)
    (hsingle : ∀ s ∈ sdpSections text, SingleValued s.body) (hok : (sdpParse sdp text).2 = .ok)
    (h : ∀ text', Rearranged text text' →
      (sdpParse sdp text').1.mlines = (sdpParse sdp text).1.mlines) : VideosSettled text := by
  intro s hs hvideo
  obtain ⟨ks, ls, hsections, hroom⟩ := exists_of_mem_tableSections hs
  refine @codecSettled_of_same _ (s.body.foldl codecStep (0, 0)).2 fun fs hfs r hr => ?_
  obtain ⟨body, hreordered, hrun⟩ := exists_reordered_mode1 hfs hr
  obtain ⟨text', hrearranged, hsections'⟩ := exists_rearranged hend hsections hreordered
  have hsame := h text' hrearranged
  rw [sdpParse_mlines ((sdpParse_rearranged_ok hrearranged hsingle).mpr hok), sdpParse_mlines hok,
    hsections, hsections', take_mediaMlines_section, take_mediaMlines_section] at hsame
  dsimp only at hsame
  -- the media lines of this section are the first ones behind those in front of it
  obtain ⟨k, hk⟩ : ∃ k, maxMediaTracks - (mediaMlines 0 ks).length = k + 1 :=
    ⟨_, (Nat.succ_pred (Nat.sub_ne_zero_of_lt hroom)).symm⟩
  have htail := List.append_cancel_left hsame
  rw [hvideo, hk] at htail
  have hmline : sectionMline (UInt8.ofNat ks.length) ⟨s.head, body⟩ .video =
      sectionMline (UInt8.ofNat ks.length) s .video := (List.cons.inj htail).1
  unfold sectionMline at hmline
  rw [foldl_parseAttr, foldl_parseAttr] at hmline
  rw [← hrun]
  exact congrArg SdpMline.pt hmline

/-- The order of attributes never decides whether a text is accepted. It changes nothing that is read
where all video sections settle, and only there: where it changes nothing, they do. -/
theorem attributes_rearranged (sdp : NanoSdp) (text : List UInt8)
    (hsingle : ∀ s ∈ sdpSections text, SingleValued s.body)
    (hroom : sdp.remoteCandidates.length + (lineCandidates (lines text)).length ≤
      sdpMaxCandidates) :
    (∀ text', Rearranged text text' →
        ((sdpParse sdp text').2 = .ok ↔ (sdpParse sdp text).2 = .ok)) ∧
      ((sdpParse sdp text).2 = .ok →
        (VideosSettled text → ∀ text', Rearranged text text' →
          SameExtract (sdpParse sdp text').1 (sdpParse sdp text).1) ∧
        (EndsLine text → (∀ text', Rearranged text text' →
          SameExtract (sdpParse sdp text').1 (sdpParse sdp text).1) → VideosSettled text)) := by
  refine ⟨fun text' h => sdpParse_rearranged_ok h hsingle, fun hok => ⟨?_, ?_⟩⟩
  · intro hsettled text' h
    exact sdpParse_rearranged h hsingle hroom hok hsettled
  · intro hend h
    exact videosSettled_of_same hend hsingle hok fun text' hrearranged =>
      (h text' hrearranged).mlines

/-- A description with one video section. -/
def videoText (attributes : List LineText) : List UInt8 :=
  writeLines (.lit "m=video 9 UDP/TLS/RTP/SAVPF 96 98" :: attributes)

/-- Two payload types of H.264, each with its parameters below it, the first one of the preferred
profile. -/
def typesInTurn : List LineText :=
  [.lit "a=ice-ufrag:uf", .lit "a=ice-pwd:pw",
    .lit "a=rtpmap:96 H264/90000",
    .lit "a=fmtp:96 packetization-mode=1;profile-level-id=42e01f",
    .lit "a=rtpmap:98 H264/90000",
    .lit "a=fmtp:98 packetization-mode=1;profile-level-id=640c1f"]

/-- The same with all parameters at the end. -/
def parametersLast : List LineText :=
  [.lit "a=ice-ufrag:uf", .lit "a=ice-pwd:pw",
    .lit "a=rtpmap:96 H264/90000",
    .lit "a=rtpmap:98 H264/90000",
    .lit "a=fmtp:96 packetization-mode=1;profile-level-id=42e01f",
    .lit "a=fmtp:98 packetization-mode=1;profile-level-id=640c1f"]

/-- Attributes of the one section in another order. -/
theorem rearranged_videoText {ks ls : List LineText}
    (hattributes : ∀ l ∈ ks.map crlf, isAttribute l = true) (hperm : ls.Perm ks)
    (horder : (ls.map crlf).filter isRtpmap = (ks.map crlf).filter isRtpmap) :
    Rearranged (videoText ks) (videoText ls) := by
  have hlines (as : List LineText) : lines (videoText as) =
      [] ++ crlf (.lit "m=video 9 UDP/TLS/RTP/SAVPF 96 98") :: (as.map crlf ++ []) := by
    unfold videoText
    rw [lines_writeLines, List.append_nil]
    rfl
  have hsections : ∀ l ∈ ks.map crlf, ¬ isSectionLine l = true := by
    intro l hl hsection
    have hnot := not_lineStartsWith (b := "m=") (hattributes l hl) (by decide)
      (by decide)
    exact nomatch hnot.symm.trans hsection
  exact ⟨[], _, ks.map crlf, ls.map crlf, [], hlines ks, hlines ls, by decide, hsections,
    nofun, reordered_of_all hattributes (hperm.map crlf) horder⟩

/-- The order of attributes does matter: the preferred profile is chosen where its parameters stand
below its payload type, and the other one where they stand below the other payload type. -/
theorem attributes_order_matters : ∃ text text', (∀ s ∈ sdpSections text, SingleValued s.body) ∧
    (∀ s ∈ sdpSections text, (h264Rtpmaps s.body).Nodup ∧ ((mode1Lines s.body).map fmtpPt).Nodup) ∧
    (lineCandidates (lines text)).length ≤ sdpMaxCandidates ∧ Rearranged text text' ∧
    (sdpParse {} text).2 = .ok ∧ (sdpParse {} text').2 = .ok ∧
    (sdpParse {} text).1.mlines.map (·.pt) = [96] ∧
    (sdpParse {} text').1.mlines.map (·.pt) = [98] :=
  ⟨videoText typesInTurn, videoText parametersLast, by decide +kernel, by decide +kernel,
    by decide +kernel,
    rearranged_videoText (by decide +kernel) (by decide +kernel) (by decide +kernel),
    by decide +kernel, by decide +kernel, by decide +kernel, by decide +kernel⟩

/-- One payload type of H.264. -/
def oneType : List LineText :=
  [.lit "a=ice-ufrag:uf", .lit "a=ice-pwd:pw",
    .lit "a=rtpmap:96 H264/90000",
    .lit "a=fmtp:96 packetization-mode=1;profile-level-id=42e01f",
    .lit "a=candidate:1 1 UDP 1 10.0.0.1 4000 typ host", .lit "a=sendonly"]

theorem attributes_rearranged_demo :
    SameExtract (sdpParse {} (videoText oneType.reverse)).1 (sdpParse {} (videoText oneType)).1 := by
  have hsettled : ∀ s ∈ tableSections (videoText oneType), Winner 96 s.body := by decide +kernel
  have h := attributes_rearranged {} (videoText oneType) (by decide +kernel) (by decide +kernel)
  exact (h.2 (by decide +kernel)).1 (fun s hs _ => .inr ⟨96, hsettled s hs⟩) _
    (rearranged_videoText (by decide +kernel) (by decide +kernel) (by decide +kernel))

end Nanortc.Spec
