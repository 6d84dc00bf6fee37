import Nanortc.Spec.SdpText

/-!
# Sections of descriptions

A description is cut at its "m=" lines. The parser makes one media line of every audio or video
section while its table has room, from the line that opens the section and the attributes below it,
and remembers the last application section.

## Key results

- `runUntil_parse_sections`: the media lines and the data channel that a text leaves
- `sdpParse_mlines`, `sdpParse_datachannel`: the same for a text that is accepted
-/

namespace Nanortc.Spec

open Nanortc.ForStd Nanortc.Native

/-! ### Sections -/

/-- A section: the "m=" line and the lines below it. -/
abbrev SdpSection := Headed (List UInt8)

/-- The line opens a section. -/
def isSectionLine (line : List UInt8) : Bool := lineStartsWith line "m="

/-- The sections of lines. -/
def sectionsOf (ls : List (List UInt8)) : List SdpSection := headed isSectionLine ls

/-- The sections of a text. -/
def sdpSections (text : List UInt8) : List SdpSection := sectionsOf (lines text)

/-- The media kind that an "m=" line names. -/
def mediaKind (line : List UInt8) : Option TrackKind :=
  if lineStartsWith line "m=audio " then some .audio
  else if lineStartsWith line "m=video " then some .video
  else none

/-- An "m=" line of a data channel section. -/
def isApplication (line : List UInt8) : Bool := lineStartsWith line "m=application "

theorem mediaKind_application {line : List UInt8} (h : isApplication line = true) :
    mediaKind line = none := by
  unfold mediaKind
  rw [not_lineStartsWith h (by decide) (by decide),
    not_lineStartsWith h (by decide) (by decide)]
  rfl

/-- An attribute line of a media section. -/
def parseAttr (ml : SdpMline) (line : List UInt8) : SdpMline :=
  if lineStartsWith line "a=rtpmap:" then parseRtpmap ml line
  else if ml.kind = .video ∧ lineStartsWith line "a=fmtp:" then parseFmtp ml line
  else if lineStartsWith line "a=extmap:" then parseExtmap ml line
  else
    match parseDirection line with
    | some dir => { ml with remoteDirection := dir }
    | none => ml

/-- The media line of an "m=" line at a position. -/
def openMline (pos : UInt8) (line : List UInt8) (kind : TrackKind) : SdpMline :=
  { kind := kind
    mid := pos
    pt := 0
    remotePt := parseMlineFirstPt line 8
    sampleRate := 0
    direction := .sendrecv }

/-- The media line of a section at a position. -/
def sectionMline (pos : UInt8) (s : SdpSection) (kind : TrackKind) : SdpMline :=
  s.body.foldl parseAttr (openMline pos s.head kind)

/-- The media lines of the sections from position `n` on. -/
def mediaMlines (n : Nat) (ss : List SdpSection) : List SdpMline :=
  (ss.zipIdx n).filterMap fun x => (mediaKind x.1.head).map (sectionMline (UInt8.ofNat x.2) x.1)

/-- The position of the last application section, from position `n` on. -/
def applicationMid (mid : UInt8) (n : Nat) (ss : List SdpSection) : UInt8 :=
  (ss.zipIdx n).foldl
    (fun mid x => if isApplication x.1.head then UInt8.ofNat x.2 else mid) mid

/-! ### What the parser makes of them -/

/-- The media lines after an attribute line. -/
def attrMlines (s : SdpParser) (line : List UInt8) : List SdpMline :=
  match s.current with
  | none => s.sdp.mlines
  | some i => s.sdp.mlines.modify i (parseAttr · line)

/-- Two changes of an element that agree on it. -/
theorem modify_congr {α : Type} {xs : List α} {i : Nat} {f g : α → α}
    (h : ∀ x, xs[i]? = some x → f x = g x) : xs.modify i f = xs.modify i g := by
  refine List.ext_getElem? fun j => ?_
  rw [List.getElem?_modify, List.getElem?_modify]
  by_cases hij : i = j
  · subst hij
    cases hx : xs[i]? with
    | none => rfl
    | some x => simp [h x hx]
  · simp [hij]

theorem modify_id {α : Type} {xs : List α} {i : Nat} {f : α → α}
    (h : ∀ x, xs[i]? = some x → f x = x) : xs.modify i f = xs := by
  rw [modify_congr h]
  exact List.modify_id i xs

theorem sdpParseMedia_mk (sdp : NanoSdp) (i : Nat) (line : List UInt8) :
    sdpParseMedia ⟨sdp, some i⟩ line =
      if lineStartsWith line "a=rtpmap:" then
        some (SdpParser.modifyMline ⟨sdp, some i⟩ i (parseRtpmap · line))
      else if (sdp.mlines[i]?.map (·.kind)) = some .video ∧ lineStartsWith line "a=fmtp:" then
        some (SdpParser.modifyMline ⟨sdp, some i⟩ i (parseFmtp · line))
      else if lineStartsWith line "a=extmap:" then
        some (SdpParser.modifyMline ⟨sdp, some i⟩ i (parseExtmap · line))
      else (parseDirection line).map fun dir =>
        SdpParser.modifyMline ⟨sdp, some i⟩ i fun ml => { ml with remoteDirection := dir } := rfl

/-- A line of a media section changes the line of its section as an attribute line does. -/
theorem sdpParseMedia_some {s r : SdpParser} {line : List UInt8} (h : sdpParseMedia s line = some r) :
    r = { s with sdp := { s.sdp with mlines := attrMlines s line } } := by
  obtain ⟨sdp, current⟩ := s
  cases current with
  | none => exact nomatch h
  | some i =>
    have hchange (f : SdpMline → SdpMline)
        (hf : ∀ ml, sdp.mlines[i]? = some ml → f ml = parseAttr ml line)
        (hr : some (SdpParser.modifyMline ⟨sdp, some i⟩ i f) = some r) :
        r = ⟨{ sdp with mlines := sdp.mlines.modify i (parseAttr · line) }, some i⟩ := by
      rw [← Option.some.inj hr]
      unfold SdpParser.modifyMline
      rw [modify_congr hf]
    rw [sdpParseMedia_mk] at h
    split at h
    · rename_i hrtpmap
      refine hchange _ (fun ml _ => ?_) h
      unfold parseAttr
      rw [if_pos hrtpmap]
    rename_i hrtpmap
    split at h
    · rename_i hfmtp
      refine hchange _ (fun ml hml => ?_) h
      rw [hml] at hfmtp
      unfold parseAttr
      rw [if_neg hrtpmap, if_pos ⟨Option.some.inj hfmtp.1, hfmtp.2⟩]
    rename_i hfmtp
    have hkind (ml : SdpMline) (hml : sdp.mlines[i]? = some ml) :
        ¬ (ml.kind = .video ∧ lineStartsWith line "a=fmtp:" = true) := by
      rintro ⟨hvideo, hstart⟩
      exact hfmtp ⟨by rw [hml, Option.map_some, hvideo], hstart⟩
    split at h
    · rename_i hextmap
      refine hchange _ (fun ml hml => ?_) h
      unfold parseAttr
      rw [if_neg hrtpmap, if_neg (hkind ml hml), if_pos hextmap]
    · rename_i hextmap
      obtain ⟨dir, hdir, h⟩ := Option.map_eq_some_iff.mp h
      refine hchange _ (fun ml hml => ?_) (congrArg some h)
      unfold parseAttr
      rw [if_neg hrtpmap, if_neg (hkind ml hml), if_neg hextmap, hdir]

/-- A line that is no line of a media section leaves all of them as they are. -/
theorem attrMlines_of_none {s : SdpParser} {line : List UInt8} (h : sdpParseMedia s line = none) :
    attrMlines s line = s.sdp.mlines := by
  obtain ⟨sdp, current⟩ := s
  cases current with
  | none => rfl
  | some i =>
    rw [sdpParseMedia_mk] at h
    split at h
    · exact nomatch h
    rename_i hrtpmap
    split at h
    · exact nomatch h
    rename_i hfmtp
    split at h
    · exact nomatch h
    rename_i hextmap
    refine modify_id fun ml hml => ?_
    have hkind : ¬ (ml.kind = .video ∧ lineStartsWith line "a=fmtp:" = true) := by
      rintro ⟨hvideo, hstart⟩
      exact hfmtp ⟨by rw [hml, Option.map_some, hvideo], hstart⟩
    unfold parseAttr
    rw [if_neg hrtpmap, if_neg hkind, if_neg hextmap, Option.map_eq_none_iff.mp h]

theorem sdpParseSession_sections (sdp : NanoSdp) (line : List UInt8) :
    (sdpParseSession sdp line).1.mlines = sdp.mlines ∧
      (sdpParseSession sdp line).1.hasDatachannel = sdp.hasDatachannel ∧
      (sdpParseSession sdp line).1.dcMid = sdp.dcMid ∧
      (sdpParseSession sdp line).1.midCount = sdp.midCount := by
  unfold sdpParseSession
  split
  · exact ⟨rfl, rfl, rfl, rfl⟩
  split
  · exact ⟨rfl, rfl, rfl, rfl⟩
  split
  · exact ⟨rfl, rfl, rfl, rfl⟩
  split
  · cases parseMaxMessageSize line <;> exact ⟨rfl, rfl, rfl, rfl⟩
  split
  · exact ⟨rfl, rfl, rfl, rfl⟩
  split
  · exact ⟨rfl, rfl, rfl, rfl⟩
  split
  · split
    · cases parseCandidate line <;> exact ⟨rfl, rfl, rfl, rfl⟩
    · exact ⟨rfl, rfl, rfl, rfl⟩
  split
  · exact ⟨rfl, rfl, rfl, rfl⟩
  · exact ⟨rfl, rfl, rfl, rfl⟩

/-- A line below the one that opens a section. -/
theorem sdpParseLine_attr (s : SdpParser) {line : List UInt8} (h : ¬ isSectionLine line = true) :
    (sdpParseLine s line).1.current = s.current ∧
      (sdpParseLine s line).1.sdp.mlines = attrMlines s line ∧
      (sdpParseLine s line).1.sdp.hasDatachannel = s.sdp.hasDatachannel ∧
      (sdpParseLine s line).1.sdp.dcMid = s.sdp.dcMid ∧
      (sdpParseLine s line).1.sdp.midCount = s.sdp.midCount := by
  have hstart : ¬ lineStartsWith line "m=" = true := h
  unfold sdpParseLine
  rw [if_neg hstart]
  cases hmedia : sdpParseMedia s line with
  | some r =>
    rw [sdpParseMedia_some hmedia]
    exact ⟨rfl, rfl, rfl, rfl, rfl⟩
  | none =>
    obtain ⟨hmlines, hdc, hmid, hcount⟩ := sdpParseSession_sections s.sdp line
    exact ⟨rfl, hmlines.trans (attrMlines_of_none hmedia).symm, hdc, hmid, hcount⟩

/-- Media lines with the attributes below the section they stand in. -/
def bodyMlines (current : Option Nat) (mlines : List SdpMline) (ls : List (List UInt8)) :
    List SdpMline :=
  match current with
  | none => mlines
  | some i => mlines.modify i ((ls.takeWhile (!isSectionLine ·)).foldl parseAttr)

theorem bodyMlines_section (current : Option Nat) (mlines : List SdpMline) {line : List UInt8}
    (h : isSectionLine line = true) (ls : List (List UInt8)) :
    bodyMlines current mlines (line :: ls) = mlines := by
  cases current with
  | none => rfl
  | some i =>
    unfold bodyMlines
    rw [List.takeWhile_cons, h]
    exact List.modify_id i mlines

theorem bodyMlines_attr (s : SdpParser) {line : List UInt8} (h : ¬ isSectionLine line = true)
    (ls : List (List UInt8)) :
    bodyMlines s.current (attrMlines s line) ls = bodyMlines s.current s.sdp.mlines (line :: ls) := by
  unfold bodyMlines attrMlines
  cases s.current with
  | none => rfl
  | some i =>
    dsimp only
    rw [List.modify_modify_eq, List.takeWhile_cons, Bool.not_eq_true] at *
    rw [h]
    rfl

theorem length_bodyMlines (current : Option Nat) (mlines : List SdpMline) (ls : List (List UInt8)) :
    (bodyMlines current mlines ls).length = mlines.length := by
  cases current with
  | none => rfl
  | some i => exact List.length_modify ..

theorem modify_append_length {α : Type} (xs : List α) (x : α) (f : α → α) :
    (xs ++ [x]).modify xs.length f = xs ++ [f x] := by
  induction xs with
  | nil => rfl
  | cons y xs ih => exact congrArg (y :: ·) ih

theorem mediaMlines_cons (n : Nat) (s : SdpSection) (ss : List SdpSection) :
    mediaMlines n (s :: ss) =
      ((mediaKind s.head).map (sectionMline (UInt8.ofNat n) s)).toList ++
        mediaMlines (n + 1) ss := by
  unfold mediaMlines
  rw [List.zipIdx_cons, List.filterMap_cons]
  cases mediaKind s.head <;> rfl

theorem sdpParseSection_media (s : SdpParser) {line : List UInt8} {kind : TrackKind}
    (h : mediaKind line = some kind) :
    sdpParseSection s line =
      if s.sdp.mlines.length < maxMediaTracks then
        ⟨{ s.sdp with
          midCount := s.sdp.midCount + 1
          mlines := s.sdp.mlines ++ [openMline s.sdp.midCount line kind] },
          some s.sdp.mlines.length⟩
      else ⟨{ s.sdp with midCount := s.sdp.midCount + 1 }, none⟩ := by
  have happ : lineStartsWith line "m=application " = false := by
    rw [Bool.eq_false_iff]
    intro happ
    rw [mediaKind_application happ] at h
    exact nomatch h
  unfold mediaKind at h
  unfold sdpParseSection
  rw [happ]
  by_cases haudio : lineStartsWith line "m=audio " = true
  · rw [if_pos haudio] at h
    obtain rfl := Option.some.inj h
    have hvideo : lineStartsWith line "m=video " = false :=
      not_lineStartsWith haudio (by decide) (by decide)
    rw [haudio, hvideo]
    rfl
  · rw [if_neg haudio] at h
    split at h
    · rename_i hvideo
      obtain rfl := Option.some.inj h
      rw [hvideo, Bool.or_true]
      rfl
    · exact nomatch h

theorem sdpParseSection_other (s : SdpParser) {line : List UInt8} (h : mediaKind line = none) :
    sdpParseSection s line =
      ⟨{ s.sdp with
        midCount := s.sdp.midCount + 1
        hasDatachannel := s.sdp.hasDatachannel || isApplication line
        dcMid := if isApplication line then s.sdp.midCount else s.sdp.dcMid }, none⟩ := by
  unfold mediaKind at h
  unfold sdpParseSection isApplication
  cases happ : lineStartsWith line "m=application " with
  | true =>
    rw [Bool.or_true]
    rfl
  | false =>
    rw [Bool.or_false]
    split at h
    · exact nomatch h
    rename_i haudio
    split at h
    · exact nomatch h
    rename_i hvideo
    rw [Bool.not_eq_true] at haudio hvideo
    rw [haudio, hvideo]
    rfl

theorem ofNat_succ (n : Nat) : UInt8.ofNat n + 1 = UInt8.ofNat (n + 1) := by
  rw [UInt8.ofNat_add]
  rfl

/-- The media lines that sections leave in a table: those of the first media sections that it has
room for. -/
theorem runUntil_parse_sections {s : SdpParser} {n : Nat} {ls : List (List UInt8)}
    (h : (runUntil sdpParseLine s ls).2 = none) (hcount : s.sdp.midCount = UInt8.ofNat n) :
    (runUntil sdpParseLine s ls).1.sdp.mlines =
      bodyMlines s.current s.sdp.mlines ls ++
        (mediaMlines n (sectionsOf ls)).take (maxMediaTracks - s.sdp.mlines.length) := by
  induction ls generalizing s n with
  | nil =>
    show s.sdp.mlines = bodyMlines s.current s.sdp.mlines [] ++ List.take _ []
    rw [List.take_nil, List.append_nil]
    cases s.current with
    | none => rfl
    | some i => exact (List.modify_id i s.sdp.mlines).symm
  | cons line ls ih =>
    by_cases hsection : isSectionLine line = true
    · have hstep : sdpParseLine s line = (sdpParseSection s line, none) := if_pos hsection
      have hcut : sectionsOf (line :: ls) =
          ⟨line, ls.takeWhile (!isSectionLine ·)⟩ :: sectionsOf ls := headed_cons_header hsection ls
      unfold runUntil at h ⊢
      rw [hstep] at h ⊢
      dsimp only at h ⊢
      rw [hcut, bodyMlines_section _ _ hsection, mediaMlines_cons]
      cases hkind : mediaKind line with
      | none =>
        rw [sdpParseSection_other s hkind] at h ⊢
        rw [ih h (by rw [← ofNat_succ, hcount])]
        rfl
      | some kind =>
        rw [sdpParseSection_media s hkind] at h ⊢
        split at h
        · rename_i hroom
          rw [if_pos hroom, ih h (by rw [← ofNat_succ, hcount])]
          unfold bodyMlines
          dsimp only
          rw [modify_append_length, List.append_assoc, hcount, List.length_append]
          obtain ⟨k, hk⟩ : ∃ k, maxMediaTracks - s.sdp.mlines.length = k + 1 :=
            ⟨maxMediaTracks - s.sdp.mlines.length - 1, by omega⟩
          have hk' : maxMediaTracks - (s.sdp.mlines.length + [openMline (UInt8.ofNat n) line
              kind].length) = k := by
            show maxMediaTracks - (s.sdp.mlines.length + 1) = k
            omega
          rw [hk, hk']
          rfl
        · rename_i hfull
          have hzero : maxMediaTracks - s.sdp.mlines.length = 0 := by omega
          rw [if_neg hfull, ih h (by rw [← ofNat_succ, hcount])]
          show s.sdp.mlines ++ List.take (maxMediaTracks - s.sdp.mlines.length) _ = _
          rw [hzero, List.take_zero, List.take_zero]
    · obtain ⟨hcurrent, hmlines, -, -, hmid⟩ := sdpParseLine_attr s hsection
      have hcut : sectionsOf (line :: ls) = sectionsOf ls := headed_cons_other hsection ls
      unfold runUntil at h ⊢
      cases hstep : sdpParseLine s line with
      | mk t rc =>
        rw [hstep] at h hcurrent hmlines hmid
        cases rc with
        | some rc => cases h
        | none =>
          dsimp only at h hcurrent hmlines hmid ⊢
          have hlength := congrArg List.length (bodyMlines_attr s hsection ls)
          rw [length_bodyMlines, length_bodyMlines] at hlength
          rw [ih h (hmid.trans hcount), hcurrent, hmlines, bodyMlines_attr s hsection, hcut, hlength]

theorem applicationMid_cons (mid : UInt8) (n : Nat) (s : SdpSection) (ss : List SdpSection) :
    applicationMid mid n (s :: ss) =
      applicationMid (if isApplication s.head then UInt8.ofNat n else mid) (n + 1) ss := by
  unfold applicationMid
  rw [List.zipIdx_cons, List.foldl_cons]

/-- The data channel that sections leave: that of the last application section. -/
theorem runUntil_parse_datachannel {s : SdpParser} {n : Nat} {ls : List (List UInt8)}
    (h : (runUntil sdpParseLine s ls).2 = none) (hcount : s.sdp.midCount = UInt8.ofNat n) :
    (runUntil sdpParseLine s ls).1.sdp.hasDatachannel =
        (s.sdp.hasDatachannel || (sectionsOf ls).any fun x => isApplication x.head) ∧
      (runUntil sdpParseLine s ls).1.sdp.dcMid = applicationMid s.sdp.dcMid n (sectionsOf ls) ∧
      (runUntil sdpParseLine s ls).1.sdp.midCount = UInt8.ofNat (n + (sectionsOf ls).length) := by
  induction ls generalizing s n with
  | nil => exact ⟨(Bool.or_false _).symm, rfl, hcount⟩
  | cons line ls ih =>
    by_cases hsection : isSectionLine line = true
    · have hstep : sdpParseLine s line = (sdpParseSection s line, none) := if_pos hsection
      have hcut : sectionsOf (line :: ls) =
          ⟨line, ls.takeWhile (!isSectionLine ·)⟩ :: sectionsOf ls := headed_cons_header hsection ls
      unfold runUntil at h ⊢
      rw [hstep] at h ⊢
      dsimp only at h ⊢
      rw [hcut, List.any_cons, applicationMid_cons, List.length_cons, ← Nat.add_assoc,
        Nat.add_right_comm]
      cases hkind : mediaKind line with
      | none =>
        rw [sdpParseSection_other s hkind] at h ⊢
        obtain ⟨hdc, hmid, hend⟩ := ih h (by rw [← ofNat_succ, hcount])
        rw [hdc, hmid, hend]
        refine ⟨Bool.or_assoc .., ?_, rfl⟩
        dsimp only
        rw [hcount]
      | some kind =>
        have happ : isApplication line = false := by
          rw [Bool.eq_false_iff]
          intro happ
          rw [mediaKind_application happ] at hkind
          cases hkind
        rw [sdpParseSection_media s hkind] at h ⊢
        dsimp only
        rw [happ, Bool.false_or]
        split at h
        · rename_i hroom
          rw [if_pos hroom]
          exact ih h (by rw [← ofNat_succ, hcount])
        · rename_i hfull
          rw [if_neg hfull]
          exact ih h (by rw [← ofNat_succ, hcount])
    · obtain ⟨-, -, hdc, hdcMid, hmid⟩ := sdpParseLine_attr s hsection
      have hcut : sectionsOf (line :: ls) = sectionsOf ls := headed_cons_other hsection ls
      unfold runUntil at h ⊢
      cases hstep : sdpParseLine s line with
      | mk t rc =>
        rw [hstep] at h hdc hdcMid hmid
        cases rc with
        | some rc => cases h
        | none =>
          dsimp only at h hdc hdcMid hmid ⊢
          rw [hcut, ← hdc, ← hdcMid]
          exact ih h (hmid.trans hcount)

/-- The media lines of a text that is accepted. -/
theorem sdpParse_mlines {sdp : NanoSdp} {text : List UInt8} (h : (sdpParse sdp text).2 = .ok) :
    (sdpParse sdp text).1.mlines = (mediaMlines 0 (sdpSections text)).take maxMediaTracks := by
  obtain ⟨s, hrun, hsdp, -, -⟩ := sdpParse_ok h
  have hmlines := runUntil_parse_sections (congrArg Prod.snd hrun) (n := 0) rfl
  rw [hrun] at hmlines
  rw [hsdp, hmlines]
  rfl

/-- The data channel of a text that is accepted, and the number of its sections. -/
theorem sdpParse_datachannel {sdp : NanoSdp} {text : List UInt8}
    (h : (sdpParse sdp text).2 = .ok) :
    (sdpParse sdp text).1.hasDatachannel =
        ((sdpSections text).any fun x => isApplication x.head) ∧
      (sdpParse sdp text).1.dcMid = applicationMid sdp.dcMid 0 (sdpSections text) ∧
      (sdpParse sdp text).1.midCount = UInt8.ofNat (sdpSections text).length := by
  obtain ⟨s, hrun, hsdp, -, -⟩ := sdpParse_ok h
  have hdc := runUntil_parse_datachannel (congrArg Prod.snd hrun) (n := 0) rfl
  rw [hrun] at hdc
  rw [hsdp]
  obtain ⟨hhas, hmid, hcount⟩ := hdc
  refine ⟨hhas.trans (Bool.false_or _), hmid, ?_⟩
  rw [hcount, Nat.zero_add]
  rfl

end Nanortc.Spec
