import Nanortc.ForStd.Reorder
import Nanortc.Spec.SdpFields

/-!
# The order of attributes

A media section reads four things from the attribute lines below it: the payload type of H.264 that
it was last told of, the payload type it settles on, the extension id and the direction. Only the
second one depends on the order of the lines: an "a=fmtp:" line counts where the "a=rtpmap:" line of
its payload type is the last one above it.

## Key results

- `foldl_parseAttr`: the four readings, each by itself
- `codecRun_settled`: where the payload type does not depend on the order
- `codecSettled_of_same`: where it does not, these are all cases
- `sdpParse_rearranged`: the same for a text
-/

namespace Nanortc.Spec

open Nanortc.ForStd Nanortc.Native

/-! ### What a section reads from a line -/

/-- The payload type that an "a=rtpmap:" line maps to H.264. -/
def h264Rtpmap (line : List UInt8) : Option UInt8 :=
  if lineStartsWith line "a=rtpmap:" then
    let r := parseU32 (line.drop 9) 0
    if r.2.length = (line.drop 9).length ∨ r.2.head? ≠ some 0x20 then none
    else if (ascii "H264").isPrefixOf (r.2.drop 1) then some r.1.toUInt8 else none
  else none

/-- An "a=fmtp:" line in packetization mode 1. -/
def isMode1 (line : List UInt8) : Bool :=
  lineStartsWith line "a=fmtp:" &&
    hasText (ascii "packetization-mode=1") (parseU32 (line.drop 7) 0).2

/-- The payload type of an "a=fmtp:" line. -/
def fmtpPt (line : List UInt8) : UInt8 := (parseU32 (line.drop 7) 0).1.toUInt8

/-- An "a=fmtp:" line of the preferred profile. -/
def isPreferred (line : List UInt8) : Bool :=
  hasText (ascii "profile-level-id=42e01f") (parseU32 (line.drop 7) 0).2

/-- The id that an "a=extmap:" line gives the transport-wide-cc extension. -/
def twccExtmap (line : List UInt8) : Option UInt8 :=
  if lineStartsWith line "a=extmap:" then
    let id := (parseExtmap default line).twccExtId
    if id = 0 then none else some id
  else none

/-- The payload types of the last "a=rtpmap:" line of H.264 and of the section, behind a line. -/
def codecStep (c : UInt8 × UInt8) (line : List UInt8) : UInt8 × UInt8 :=
  ((h264Rtpmap line).getD c.1,
    if isMode1 line ∧ (c.1 = 0 ∨ c.1 = fmtpPt line) ∧ (isPreferred line ∨ c.2 = 0) then fmtpPt line
    else c.2)

/-- The same behind the lines of a section. -/
def codecRun (kind : TrackKind) (ls : List (List UInt8)) (c : UInt8 × UInt8) : UInt8 × UInt8 :=
  match kind with
  | .audio => c
  | .video => ls.foldl codecStep c

/-- A media line with other readings. -/
def withReadings (ml : SdpMline) (c : UInt8 × UInt8) (twcc : UInt8) (dir : Direction) : SdpMline :=
  { ml with h264RtpmapPt := c.1, pt := c.2, twccExtId := twcc, remoteDirection := dir }

theorem parseRtpmap_audio {ml : SdpMline} (h : ml.kind = .audio) (line : List UInt8) :
    parseRtpmap ml line = ml := by
  unfold parseRtpmap
  rw [h]
  exact ite_self ml

theorem parseRtpmap_video {ml : SdpMline} (h : ml.kind = .video) {line : List UInt8}
    (hline : lineStartsWith line "a=rtpmap:" = true) :
    parseRtpmap ml line = { ml with h264RtpmapPt := (h264Rtpmap line).getD ml.h264RtpmapPt } := by
  obtain ⟨kind, mid, pt⟩ := ml
  obtain rfl : kind = .video := h
  unfold parseRtpmap h264Rtpmap
  rw [if_pos hline]
  dsimp only
  split
  · rfl
  · split <;> rfl

/-- An id of an extension is none that stands for no extension. -/
theorem extmapId_ne_zero {id : UInt32} (h : 1 ≤ id ∧ id ≤ 14) : id.toUInt8 ≠ 0 := by
  obtain ⟨h1, h14⟩ := h
  rw [UInt32.le_iff_toNat_le] at h1 h14
  intro h0
  have h0' := congrArg UInt8.toNat h0
  rw [UInt32.toNat_toUInt8] at h0'
  have hone : (1 : UInt32).toNat = 1 := rfl
  have hfourteen : (14 : UInt32).toNat = 14 := rfl
  have hzero : (0 : UInt8).toNat = 0 := rfl
  omega

theorem parseExtmap_eq (ml : SdpMline) {line : List UInt8}
    (h : lineStartsWith line "a=extmap:" = true) :
    parseExtmap ml line = { ml with twccExtId := (twccExtmap line).getD ml.twccExtId } := by
  unfold twccExtmap parseExtmap
  rw [if_pos h]
  dsimp only
  generalize (if (parseU32 (line.drop 9) 0).2.head? = some 0x2F then
    ((parseU32 (line.drop 9) 0).2.drop 1).dropWhile (!isBlank ·)
    else (parseU32 (line.drop 9) 0).2) = next
  by_cases hid : 1 ≤ (parseU32 (line.drop 9) 0).1 ∧ (parseU32 (line.drop 9) 0).1 ≤ 14
  · simp only [if_pos hid]
    split
    · rw [if_neg (extmapId_ne_zero hid)]
      rfl
    · rfl
  · simp only [if_neg hid]
    rfl

/-- An attribute line changes each of the readings by itself. -/
theorem parseAttr_eq (ml : SdpMline) (line : List UInt8) :
    parseAttr ml line = withReadings ml (codecRun ml.kind [line] (ml.h264RtpmapPt, ml.pt))
      ((twccExtmap line).getD ml.twccExtId) ((parseDirection line).getD ml.remoteDirection) := by
  have hother {a : String} (h : lineStartsWith line a = true) (b : String) (hab : Unlike a b) :
      lineStartsWith line b = false := hab.not_start h
  unfold parseAttr
  by_cases hrtpmap : lineStartsWith line "a=rtpmap:" = true
  · have hmode : isMode1 line = false := by
      unfold isMode1
      rw [hother hrtpmap "a=fmtp:" (by decide)]
      rfl
    have htwcc : twccExtmap line = none := by
      unfold twccExtmap
      rw [hother hrtpmap "a=extmap:" (by decide)]
      rfl
    have hdir : parseDirection line = none := by
      unfold parseDirection
      rw [hother hrtpmap "a=sendonly" (by decide),
        hother hrtpmap "a=recvonly" (by decide),
        hother hrtpmap "a=inactive" (by decide),
        hother hrtpmap "a=sendrecv" (by decide)]
      rfl
    rw [if_pos hrtpmap, htwcc, hdir]
    cases hkind : ml.kind with
    | audio =>
      rw [parseRtpmap_audio hkind]
      rfl
    | video =>
      rw [parseRtpmap_video hkind hrtpmap]
      show _ = withReadings ml (codecStep _ line) _ _
      unfold codecStep
      rw [hmode, if_neg (fun h => nomatch h.1)]
      rfl
  have hnone : h264Rtpmap line = none := if_neg hrtpmap
  rw [if_neg hrtpmap]
  by_cases hfmtp : lineStartsWith line "a=fmtp:" = true
  · have htwcc : twccExtmap line = none := by
      unfold twccExtmap
      rw [hother hfmtp "a=extmap:" (by decide)]
      rfl
    have hdir : parseDirection line = none := by
      unfold parseDirection
      rw [hother hfmtp "a=sendonly" (by decide),
        hother hfmtp "a=recvonly" (by decide),
        hother hfmtp "a=inactive" (by decide),
        hother hfmtp "a=sendrecv" (by decide)]
      rfl
    rw [htwcc, hdir]
    cases hkind : ml.kind with
    | audio =>
      rw [if_neg (fun h => nomatch h.1), if_neg (by rw [hother hfmtp "a=extmap:" (by decide)]; exact nofun)]
      rfl
    | video =>
      rw [if_pos ⟨rfl, hfmtp⟩]
      show _ = withReadings ml (codecStep _ line) _ _
      unfold codecStep parseFmtp isMode1 fmtpPt isPreferred
      rw [hnone, hfmtp]
      dsimp only [Bool.true_and]
      split
      · rename_i hvalid
        rw [if_pos ⟨hvalid.1.1, hvalid.1.2, hvalid.2⟩]
        rfl
      · rename_i hvalid
        rw [if_neg fun h => hvalid ⟨⟨h.1, h.2.1⟩, h.2.2⟩]
        rfl
  have hmode : isMode1 line = false := by
    unfold isMode1
    rw [Bool.eq_false_iff.mpr hfmtp]
    rfl
  have hcodec (c : UInt8 × UInt8) : codecRun ml.kind [line] c = c := by
    cases ml.kind with
    | audio => rfl
    | video =>
      show codecStep c line = c
      unfold codecStep
      rw [hnone, hmode, if_neg (fun h => nomatch h.1)]
      rfl
  rw [if_neg fun h => hfmtp h.2, hcodec]
  by_cases hextmap : lineStartsWith line "a=extmap:" = true
  · have hdir : parseDirection line = none := by
      unfold parseDirection
      rw [hother hextmap "a=sendonly" (by decide),
        hother hextmap "a=recvonly" (by decide),
        hother hextmap "a=inactive" (by decide),
        hother hextmap "a=sendrecv" (by decide)]
      rfl
    rw [if_pos hextmap, parseExtmap_eq ml hextmap, hdir]
    rfl
  · have htwcc : twccExtmap line = none := if_neg hextmap
    rw [if_neg hextmap, htwcc]
    cases parseDirection line <;> rfl

/-! ### What a section reads from its lines -/

theorem codecRun_cons (kind : TrackKind) (l : List UInt8) (ls : List (List UInt8))
    (c : UInt8 × UInt8) : codecRun kind (l :: ls) c = codecRun kind ls (codecRun kind [l] c) := by
  cases kind <;> rfl

/-- The four readings of a section, each by itself. -/
theorem foldl_parseAttr (ml : SdpMline) (ls : List (List UInt8)) :
    ls.foldl parseAttr ml = withReadings ml (codecRun ml.kind ls (ml.h264RtpmapPt, ml.pt))
      (((ls.filterMap twccExtmap).getLast?).getD ml.twccExtId)
      (((ls.filterMap parseDirection).getLast?).getD ml.remoteDirection) := by
  rw [← foldl_getD, ← foldl_getD]
  induction ls generalizing ml with
  | nil =>
    cases h : ml.kind <;> rfl
  | cons l ls ih =>
    rw [List.foldl_cons, ih, parseAttr_eq, codecRun_cons ml.kind l ls]
    rfl

/-- The payload types that the "a=rtpmap:" lines map to H.264. -/
def h264Rtpmaps (ls : List (List UInt8)) : List UInt8 := ls.filterMap h264Rtpmap

/-- The "a=fmtp:" lines in packetization mode 1. -/
def mode1Lines (ls : List (List UInt8)) : List (List UInt8) := ls.filter isMode1

/-- One payload type wins in any order: no other one is mapped to H.264, none of another payload
type is of the preferred profile, and where no line is of that profile all name this one. A payload
type of zero stands for none. -/
structure Winner (q : UInt8) (ls : List (List UInt8)) : Prop where
  ne_zero : q ≠ 0
  rtpmaps : ∀ x ∈ h264Rtpmaps ls, x = 0 ∨ x = q
  preferred : ∀ f ∈ mode1Lines ls, isPreferred f = true → fmtpPt f = q
  stands : ∃ f ∈ mode1Lines ls, fmtpPt f = q ∧ (isPreferred f = true ∨
    ∀ g ∈ mode1Lines ls, isPreferred g = false ∧ (fmtpPt g = 0 ∨ fmtpPt g = q))

instance (q : UInt8) (ls : List (List UInt8)) : Decidable (Winner q ls) :=
  decidable_of_iff (q ≠ 0 ∧ (∀ x ∈ h264Rtpmaps ls, x = 0 ∨ x = q) ∧
    (∀ f ∈ mode1Lines ls, isPreferred f = true → fmtpPt f = q) ∧
    ∃ f ∈ mode1Lines ls, fmtpPt f = q ∧ (isPreferred f = true ∨
      ∀ g ∈ mode1Lines ls, isPreferred g = false ∧ (fmtpPt g = 0 ∨ fmtpPt g = q)))
    ⟨fun ⟨hq, hr, hp, hs⟩ => ⟨hq, hr, hp, hs⟩, fun h => ⟨h.1, h.2, h.3, h.4⟩⟩

/-- The lines of a video section settle on a payload type in any order: there is one that wins, or
none is named at all. -/
def CodecSettled (ls : List (List UInt8)) : Prop :=
  (∀ f ∈ mode1Lines ls, fmtpPt f = 0) ∨ ∃ q, Winner q ls

theorem isMode1_h264Rtpmap {line : List UInt8} (h : isMode1 line = true) :
    h264Rtpmap line = none := by
  have hfmtp : lineStartsWith line "a=fmtp:" = true := (Bool.and_eq_true _ _ ▸ h).1
  unfold h264Rtpmap
  rw [not_lineStartsWith hfmtp (by decide) (by decide)]
  rfl

/-- A line in packetization mode 1. -/
theorem codecStep_mode1 {line : List UInt8} (h : isMode1 line = true) (r pt : UInt8) :
    codecStep (r, pt) line = (r,
      if (r = 0 ∨ r = fmtpPt line) ∧ (isPreferred line = true ∨ pt = 0) then fmtpPt line
      else pt) := by
  unfold codecStep
  rw [isMode1_h264Rtpmap h]
  refine Prod.ext rfl (if_congr ?_ rfl rfl)
  exact ⟨fun h => h.2, fun h' => ⟨h, h'⟩⟩

/-- Any other line leaves the payload type of the section. -/
theorem codecStep_other {line : List UInt8} (h : isMode1 line = false) (c : UInt8 × UInt8) :
    codecStep c line = ((h264Rtpmap line).getD c.1, c.2) := by
  unfold codecStep
  rw [h, if_neg fun h => nomatch h.1]

/-! ### Where the order does not matter -/

/-- No line names a payload type. -/
theorem codecRun_zero {ls : List (List UInt8)} (h : ∀ f ∈ mode1Lines ls, fmtpPt f = 0) (r : UInt8) :
    (ls.foldl codecStep (r, 0)).2 = 0 := by
  induction ls generalizing r with
  | nil => rfl
  | cons l ls ih =>
    rw [List.foldl_cons]
    cases hl : isMode1 l with
    | true =>
      have hcons : mode1Lines (l :: ls) = l :: mode1Lines ls := List.filter_cons_of_pos hl
      rw [hcons, List.forall_mem_cons] at h
      rw [codecStep_mode1 hl, h.1, ite_self]
      exact ih h.2 r
    | false =>
      have hcons : mode1Lines (l :: ls) = mode1Lines ls := List.filter_cons_of_neg (by simp [hl])
      rw [hcons] at h
      rw [codecStep_other hl]
      exact ih h _

/-- The payload type that wins is reached, or the line that decides for it is still to come. -/
theorem codecRun_decided {q : UInt8} (hq : q ≠ 0) {ls : List (List UInt8)}
    (hrtpmaps : ∀ x ∈ h264Rtpmaps ls, x = 0 ∨ x = q)
    (hpreferred : ∀ f ∈ mode1Lines ls, isPreferred f = true → fmtpPt f = q)
    {c : UInt8 × UInt8} (hr : c.1 = 0 ∨ c.1 = q)
    (hdecided : c.2 = q ∨ ∃ f ∈ mode1Lines ls, fmtpPt f = q ∧ (isPreferred f = true ∨
      (c.2 = 0 ∨ c.2 = q) ∧ ∀ g ∈ mode1Lines ls, isPreferred g = false ∧
        (fmtpPt g = 0 ∨ fmtpPt g = q))) :
    (ls.foldl codecStep c).2 = q := by
  induction ls generalizing c with
  | nil =>
    obtain h | ⟨f, hf, -⟩ := hdecided
    · exact h
    · exact absurd hf List.not_mem_nil
  | cons l ls ih =>
    obtain ⟨r, pt⟩ := c
    rw [List.foldl_cons]
    dsimp only at hr hdecided
    cases hl : isMode1 l with
    | false =>
      -- the line may only change which payload type counts, to one of the two that do no harm
      have hcons : mode1Lines (l :: ls) = mode1Lines ls := List.filter_cons_of_neg (by simp [hl])
      rw [hcons] at hpreferred hdecided
      rw [codecStep_other hl]
      cases hmap : h264Rtpmap l with
      | none =>
        have htail : h264Rtpmaps (l :: ls) = h264Rtpmaps ls := List.filterMap_cons_none hmap
        rw [htail] at hrtpmaps
        exact ih hrtpmaps hpreferred hr hdecided
      | some x =>
        have htail : h264Rtpmaps (l :: ls) = x :: h264Rtpmaps ls := List.filterMap_cons_some hmap
        rw [htail, List.forall_mem_cons] at hrtpmaps
        exact ih hrtpmaps.2 hpreferred hrtpmaps.1 hdecided
    | true =>
      have hcons : mode1Lines (l :: ls) = l :: mode1Lines ls := List.filter_cons_of_pos hl
      have htail : h264Rtpmaps (l :: ls) = h264Rtpmaps ls :=
        List.filterMap_cons_none (isMode1_h264Rtpmap hl)
      rw [htail] at hrtpmaps
      rw [hcons, List.forall_mem_cons] at hpreferred
      rw [hcons] at hdecided
      rw [codecStep_mode1 hl]
      refine ih hrtpmaps hpreferred.2 hr ?_
      dsimp only
      obtain rfl | ⟨f, hf, hfq, hdecides⟩ := hdecided
      · -- it is reached, and only a preferred line could change it, which names it again
        left
        split
        · rename_i hvalid
          exact hpreferred.1 (hvalid.2.resolve_right hq)
        · rfl
      rcases List.mem_cons.mp hf with rfl | hf
      · -- this is the line that decides
        have hr' : r = 0 ∨ r = fmtpPt f := hr.imp_right (·.trans hfq.symm)
        left
        obtain hpref | ⟨hpt, -⟩ := hdecides
        · rw [if_pos ⟨hr', .inl hpref⟩, hfq]
        · obtain rfl | rfl := hpt
          · rw [if_pos ⟨hr', .inr rfl⟩, hfq]
          · rw [hfq, ite_self]
      · right
        refine ⟨f, hf, hfq, hdecides.imp_right ?_⟩
        rintro ⟨hpt, hall⟩
        rw [List.forall_mem_cons] at hall
        refine ⟨?_, hall.2⟩
        split
        · exact hall.1.2
        · exact hpt

theorem Winner.codecRun {q : UInt8} {ls : List (List UInt8)} (h : Winner q ls) :
    (ls.foldl codecStep (0, 0)).2 = q := by
  refine codecRun_decided h.ne_zero h.rtpmaps h.preferred (.inl rfl) (.inr ?_)
  obtain ⟨f, hf, hfq, hdecides⟩ := h.stands
  exact ⟨f, hf, hfq, hdecides.imp_right fun hall => ⟨.inl rfl, hall⟩⟩

theorem Winner.perm {q : UInt8} {ks ls : List (List UInt8)} (h : Winner q ls) (hperm : ks.Perm ls) :
    Winner q ks := by
  have hmode {f : List UInt8} : f ∈ mode1Lines ks ↔ f ∈ mode1Lines ls :=
    (hperm.filter isMode1).mem_iff
  obtain ⟨f, hf, hfq, hdecides⟩ := h.stands
  exact ⟨h.ne_zero, fun x hx => h.rtpmaps x ((hperm.filterMap h264Rtpmap).mem_iff.mp hx),
    fun g hg => h.preferred g (hmode.mp hg), f, hmode.mpr hf, hfq,
    hdecides.imp_right fun hall g hg => hall g (hmode.mp hg)⟩

/-- Lines that settle on a payload type do so in any order. -/
theorem codecRun_settled {ks ls : List (List UInt8)} (h : CodecSettled ls) (hperm : ks.Perm ls) :
    (ks.foldl codecStep (0, 0)).2 = (ls.foldl codecStep (0, 0)).2 := by
  obtain hzero | ⟨q, hq⟩ := h
  · rw [codecRun_zero hzero, codecRun_zero fun f hf =>
      hzero f ((hperm.filter isMode1).mem_iff.mp hf)]
  · rw [hq.codecRun, (hq.perm hperm).codecRun]

/-! ### Where it does -/

/-- Only lines of the payload type that counts can be settled on. -/
theorem codecRun_counts {ls : List (List UInt8)} (hls : ∀ f ∈ ls, isMode1 f = true) {r pt : UInt8}
    (hr : r ≠ 0) (hpt : pt = 0 ∨ pt = r) :
    (ls.foldl codecStep (r, pt)).2 = 0 ∨ (ls.foldl codecStep (r, pt)).2 = r := by
  induction ls generalizing pt with
  | nil => exact hpt
  | cons l ls ih =>
    rw [List.forall_mem_cons] at hls
    rw [List.foldl_cons, codecStep_mode1 hls.1]
    refine ih hls.2 ?_
    split
    · rename_i hvalid
      exact .inr (hvalid.1.resolve_left hr).symm
    · exact hpt

/-- Without lines of the preferred profile the payload type stays. -/
theorem codecRun_stays {ls : List (List UInt8)} (hls : ∀ f ∈ ls, isMode1 f = true)
    (hnone : ∀ f ∈ ls, isPreferred f = false) {r pt : UInt8} (hpt : pt ≠ 0) :
    (ls.foldl codecStep (r, pt)).2 = pt := by
  induction ls with
  | nil => rfl
  | cons l ls ih =>
    rw [List.forall_mem_cons] at hls hnone
    rw [List.foldl_cons, codecStep_mode1 hls.1, if_neg]
    · exact ih hls.2 hnone.2
    · rintro ⟨-, hpref | hzero⟩
      · rw [hnone.1] at hpref
        exact nomatch hpref
      · exact hpt hzero

/-- The first component is what the last "a=rtpmap:" line of H.264 maps. -/
theorem codecRun_rtpmap {ls : List (List UInt8)} (hls : ∀ f ∈ ls, isMode1 f = true)
    (c : UInt8 × UInt8) : (ls.foldl codecStep c).1 = c.1 := by
  induction ls generalizing c with
  | nil => rfl
  | cons l ls ih =>
    rw [List.forall_mem_cons] at hls
    rw [List.foldl_cons, ih hls.2, codecStep_mode1 hls.1]

/-- Lines that lead to one payload type in every order of the "a=fmtp:" lines, and wherever these
stand between the "a=rtpmap:" lines, settle on it. -/
theorem codecSettled_of_same {ls : List (List UInt8)} {v : UInt8}
    (h : ∀ fs : List (List UInt8), fs.Perm (mode1Lines ls) → ∀ r, r = 0 ∨ r ∈ h264Rtpmaps ls →
      (fs.foldl codecStep (r, 0)).2 = v) : CodecSettled ls := by
  have hmode : ∀ f ∈ mode1Lines ls, isMode1 f = true := fun f hf => (List.mem_filter.mp hf).2
  by_cases hzero : ∀ f ∈ mode1Lines ls, fmtpPt f = 0
  · exact .inl hzero
  right
  obtain ⟨g, hg, hgpt⟩ : ∃ g ∈ mode1Lines ls, fmtpPt g ≠ 0 := by
    by_contra hall
    exact hzero fun f hf => by_contra fun hne => hall ⟨f, hf, hne⟩
  -- a line may be the last one, or the first one
  have hlast (f : List UInt8) (hf : f ∈ mode1Lines ls) :
      (codecStep (((mode1Lines ls).erase f).foldl codecStep (0, 0)) f).2 = v := by
    have hperm : ((mode1Lines ls).erase f ++ [f]).Perm (mode1Lines ls) :=
      (List.perm_append_singleton f _).trans (List.perm_cons_erase hf).symm
    have hrun := h _ hperm 0 (.inl rfl)
    rw [List.foldl_append] at hrun
    exact hrun
  have herase (f : List UInt8) : ∀ k ∈ (mode1Lines ls).erase f, isMode1 k = true := fun k hk =>
    hmode k (List.mem_of_mem_erase hk)
  have hstate (f : List UInt8) : ((mode1Lines ls).erase f).foldl codecStep (0, 0) =
      (0, (((mode1Lines ls).erase f).foldl codecStep (0, 0)).2) :=
    Prod.ext (codecRun_rtpmap (herase f) (0, 0)) rfl
  have hpreferred (f : List UInt8) (hf : f ∈ mode1Lines ls) (hpref : isPreferred f = true) :
      fmtpPt f = v := by
    have hrun := hlast f hf
    rw [hstate, codecStep_mode1 (hmode f hf), if_pos ⟨.inl rfl, .inl hpref⟩] at hrun
    exact hrun
  have hne : v ≠ 0 := by
    intro hv
    have hrun := hlast g hg
    rw [hstate, codecStep_mode1 (hmode g hg), hv] at hrun
    dsimp only at hrun
    split at hrun
    · exact hgpt hrun
    · rename_i hvalid
      exact hvalid ⟨.inl rfl, .inr hrun⟩
  have hrtpmaps (x : UInt8) (hx : x ∈ h264Rtpmaps ls) : x = 0 ∨ x = v := by
    by_cases hx0 : x = 0
    · exact .inl hx0
    · have hcounts := codecRun_counts hmode hx0 (.inl rfl)
      rw [h _ (List.Perm.refl _) x (.inr hx)] at hcounts
      exact .inr (hcounts.resolve_left hne).symm
  refine ⟨v, hne, hrtpmaps, hpreferred, ?_⟩
  by_cases hpref : ∃ f ∈ mode1Lines ls, isPreferred f = true
  · obtain ⟨f, hf, hpref⟩ := hpref
    exact ⟨f, hf, hpreferred f hf hpref, .inl hpref⟩
  · have hnone : ∀ f ∈ mode1Lines ls, isPreferred f = false := fun f hf =>
      Bool.eq_false_iff.mpr fun htrue => hpref ⟨f, hf, htrue⟩
    have hfirst (f : List UInt8) (hf : f ∈ mode1Lines ls) (hpt : fmtpPt f ≠ 0) : fmtpPt f = v := by
      have hrun := h (f :: (mode1Lines ls).erase f) (List.perm_cons_erase hf).symm 0 (.inl rfl)
      rw [List.foldl_cons, codecStep_mode1 (hmode f hf), if_pos ⟨.inl rfl, .inr rfl⟩] at hrun
      rw [codecRun_stays (herase f) (fun k hk => hnone k (List.mem_of_mem_erase hk)) hpt] at hrun
      exact hrun
    refine ⟨g, hg, hfirst g hg hgpt, .inr fun f hf => ⟨hnone f hf, ?_⟩⟩
    by_cases hpt : fmtpPt f = 0
    · exact .inl hpt
    · exact .inr (hfirst f hf hpt)

end Nanortc.Spec
