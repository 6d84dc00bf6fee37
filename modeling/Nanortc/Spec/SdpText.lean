import Nanortc.Native.Sdp

/-!
# Descriptions that the library writes

`sdp_generate_answer` writes lines, and `sdp_parse` reads them one by one.

## Key results

- `sdpParse_local`: the local part survives a text
- `not_lineStartsWith`: a line starts with one of two literals that differ
-/

namespace Nanortc.Spec

open Nanortc.ForStd Nanortc.Native

/-! ### The lines of a description -/

/-- The lines of the sections from the `n`-th of the table on. -/
def sdpTableLines (sdp : NanoSdp) (table : List (SdpEntry × Nat)) : List LineText :=
  table.flatMap fun x =>
    sdpSectionLines sdp x.1 ++ if x.2 = 0 then sdpCandidateLines sdp else []

/-- The lines of a description. -/
def sdpDescription (sdp : NanoSdp) : List LineText :=
  sdpSessionLines sdp ++ sdpTableLines sdp (sdpTable sdp).zipIdx

theorem sdpKeepTwcc_getD (sdp : NanoSdp) (e : SdpEntry) (i : Nat) :
    ∃ id, (sdpKeepTwcc sdp e).mlines.getD i default =
        { sdp.mlines.getD i default with twccExtId := id } ∧
      sdpTwccId { sdp.mlines.getD i default with twccExtId := id } =
        sdpTwccId (sdp.mlines.getD i default) := by
  have hsame : sdp.mlines.getD i default = { sdp.mlines.getD i default with
      twccExtId := (sdp.mlines.getD i default).twccExtId } := rfl
  unfold sdpKeepTwcc
  cases e.mline with
  | none => exact ⟨_, hsame, rfl⟩
  | some j =>
    dsimp only
    rw [List.getD_eq_getElem?_getD, List.getElem?_modify, List.getD_eq_getElem?_getD]
    rw [List.getD_eq_getElem?_getD] at hsame
    cases hi : sdp.mlines[i]? with
    | none => exact ⟨_, rfl, rfl⟩
    | some ml =>
      rw [Option.map_eq_map, Option.map_some, Option.getD_some, Option.getD_some]
      by_cases hij : j = i
      · rw [if_pos hij]
        split
        · rename_i hid
          refine ⟨_, rfl, ?_⟩
          show (if sdpTwccId ml ≠ 0 then sdpTwccId ml else defaultTwccExtId) = sdpTwccId ml
          rw [if_pos]
          intro hzero
          rw [hzero] at hid
          exact absurd hid.2.1 (by decide)
        · exact ⟨_, rfl, rfl⟩
      · rw [if_neg hij]
        exact ⟨_, rfl, rfl⟩

/-- A section is written as before once another one has kept its extension id. -/
theorem sdpSectionLines_keep (sdp : NanoSdp) (e d : SdpEntry) :
    sdpSectionLines (sdpKeepTwcc sdp d) e = sdpSectionLines sdp e := by
  obtain ⟨mlines, hkeep⟩ : ∃ mlines, sdpKeepTwcc sdp d = { sdp with mlines := mlines } := by
    unfold sdpKeepTwcc
    cases d.mline with
    | none => exact ⟨sdp.mlines, rfl⟩
    | some j => exact ⟨_, rfl⟩
  unfold sdpSectionLines
  cases e.mline with
  | none =>
    rw [hkeep]
    rfl
  | some i =>
    obtain ⟨id, hget, hid⟩ := sdpKeepTwcc_getD sdp d i
    dsimp only
    rw [hget, hkeep]
    generalize sdp.mlines.getD i default = ml at hid
    cases ml.kind with
    | audio => rfl
    | video =>
      dsimp only
      unfold sdpVideoMline
      rw [hid]
      rfl

theorem sdpCandidateLines_keep (sdp : NanoSdp) (d : SdpEntry) :
    sdpCandidateLines (sdpKeepTwcc sdp d) = sdpCandidateLines sdp := by
  unfold sdpKeepTwcc
  cases d.mline <;> rfl

theorem sdpTableLines_keep (sdp : NanoSdp) (d : SdpEntry) (table : List (SdpEntry × Nat)) :
    sdpTableLines (sdpKeepTwcc sdp d) table = sdpTableLines sdp table := by
  unfold sdpTableLines
  simp only [sdpSectionLines_keep, sdpCandidateLines_keep]

/-- The loop writes the lines of the sections. -/
theorem runUntil_writeSection {bufLen : Nat} {w : SdpWriter} {table : List (SdpEntry × Nat)}
    (h : (runUntil (sdpWriteSection bufLen) w table).2 = none) :
    (runUntil (sdpWriteSection bufLen) w table).1 =
      ⟨table.foldl (fun sdp x => sdpKeepTwcc sdp x.1) w.sdp,
        w.buf ++ writeLines (sdpTableLines w.sdp table)⟩ := by
  induction table generalizing w with
  | nil =>
    show w = ⟨w.sdp, w.buf ++ []⟩
    rw [List.append_nil]
  | cons x table ih =>
    unfold runUntil at h ⊢
    cases hstep : sdpWriteSection bufLen w x with
    | mk w' rc =>
      rw [hstep] at h
      cases rc with
      | some rc => cases h
      | none =>
        have hw : w' = ⟨sdpKeepTwcc w.sdp x.1, w.buf ++ writeLines (sdpSectionLines w.sdp x.1) ++
            if x.2 = 0 then writeLines (sdpCandidateLines (sdpKeepTwcc w.sdp x.1)) else []⟩ := by
          unfold sdpWriteSection at hstep
          dsimp only at hstep
          generalize (if x.2 = 0 then writeLines (sdpCandidateLines (sdpKeepTwcc w.sdp x.1)) else [])
            = tail at hstep ⊢
          split at hstep
          · cases hstep
          split at hstep
          · cases hstep
          · exact (congrArg Prod.fst hstep).symm
        have hrest := ih h
        dsimp only at hrest ⊢
        rw [hrest, hw, List.foldl_cons, sdpTableLines_keep, sdpCandidateLines_keep]
        congr 1
        unfold sdpTableLines
        rw [List.flatMap_cons, writeLines_append, writeLines_append]
        split
        · simp only [List.append_assoc]
        · simp only [List.append_assoc, List.nil_append]
          rfl

/-- The media line without its extension id. -/
def SdpMline.core (ml : SdpMline) : SdpMline := { ml with twccExtId := 0 }

/-- The descriptions differ at most in the extension ids of their media lines. -/
def SameButTwcc (sdp sdp' : NanoSdp) : Prop :=
  sdp' = { sdp with mlines := sdp'.mlines } ∧
    sdp'.mlines.map SdpMline.core = sdp.mlines.map SdpMline.core

theorem SameButTwcc.refl (sdp : NanoSdp) : SameButTwcc sdp sdp := ⟨rfl, rfl⟩

theorem SameButTwcc.trans {a b c : NanoSdp} (h : SameButTwcc a b) (h' : SameButTwcc b c) :
    SameButTwcc a c := by
  refine ⟨?_, h'.2.trans h.2⟩
  rw [h'.1, h.1]

theorem sameButTwcc_keep (sdp : NanoSdp) (e : SdpEntry) : SameButTwcc sdp (sdpKeepTwcc sdp e) := by
  unfold sdpKeepTwcc
  cases e.mline with
  | none => exact .refl sdp
  | some i =>
    refine ⟨rfl, ?_⟩
    refine List.ext_getElem? fun j => ?_
    dsimp only
    rw [List.getElem?_map, List.getElem?_map, List.getElem?_modify]
    cases sdp.mlines[j]? with
    | none => rfl
    | some ml =>
      rw [Option.map_eq_map, Option.map_some, Option.map_some, Option.map_some]
      split
      · split <;> rfl
      · rfl

/-- The generator changes at most extension ids, whether it succeeds or not. -/
theorem sdpGenerateAnswer_same (sdp : NanoSdp) (bufLen : Nat) :
    SameButTwcc sdp (sdpGenerateAnswer sdp bufLen).1 := by
  have hloop : SameButTwcc sdp (runUntil (sdpWriteSection bufLen)
      ⟨sdp, writeLines (sdpSessionLines sdp)⟩ (sdpTable sdp).zipIdx).1.sdp := by
    refine runUntil_invariant (P := fun w : SdpWriter => SameButTwcc sdp w.sdp)
      (fun w x hw => ?_) (.refl sdp) _
    unfold sdpWriteSection
    dsimp only
    split
    · exact hw
    generalize (if x.2 = 0 then writeLines (sdpCandidateLines (sdpKeepTwcc w.sdp x.1)) else []) =
      tail
    split
    · exact hw.trans (sameButTwcc_keep w.sdp x.1)
    · exact hw.trans (sameButTwcc_keep w.sdp x.1)
  unfold sdpGenerateAnswer
  split
  · exact .refl sdp
  dsimp only
  split
  · exact .refl sdp
  split
  · exact hloop
  · exact hloop

/-! ### Remote and local part -/

/-- The remote part of a description with the local part of another one. -/
def withLocalOf (s t : NanoSdp) : NanoSdp :=
  { s with
    localUfrag := t.localUfrag
    localPwd := t.localPwd
    localFingerprint := t.localFingerprint
    localSctpPort := t.localSctpPort
    localSetup := t.localSetup
    localCandidates := t.localCandidates
    srflxCandidate := t.srflxCandidate
    hasSrflxCandidate := t.hasSrflxCandidate
    relayCandidate := t.relayCandidate
    hasRelayCandidate := t.hasRelayCandidate }

theorem sdpParseSection_withLocalOf (t : NanoSdp) (s : SdpParser) (line : List UInt8) :
    sdpParseSection ⟨withLocalOf s.sdp t, s.current⟩ line =
      ⟨withLocalOf (sdpParseSection s line).sdp t, (sdpParseSection s line).current⟩ := by
  unfold sdpParseSection
  dsimp only
  split
  · rfl
  split
  · split
    · rename_i hroom
      have hroom' : s.sdp.mlines.length < maxMediaTracks := hroom
      rw [if_pos hroom']
      rfl
    · rename_i hfull
      have hfull' : ¬ s.sdp.mlines.length < maxMediaTracks := hfull
      rw [if_neg hfull']
      rfl
  · rfl

theorem sdpParseMedia_withLocalOf (t : NanoSdp) (s : SdpParser) (line : List UInt8) :
    sdpParseMedia ⟨withLocalOf s.sdp t, s.current⟩ line =
      (sdpParseMedia s line).map fun r => ⟨withLocalOf r.sdp t, r.current⟩ := by
  unfold sdpParseMedia
  obtain ⟨sdp, current⟩ := s
  cases current with
  | none => rfl
  | some i =>
    show (if _ then _ else if _ then _ else if _ then _ else _) =
      (if _ then _ else if _ then _ else if _ then _ else _ : Option SdpParser).map _
    split
    · rfl
    split
    · rename_i hfmtp
      have hfmtp' : (sdp.mlines[i]?.map (·.kind)) = some .video ∧ lineStartsWith line "a=fmtp:" :=
        hfmtp
      rw [if_pos hfmtp']
      rfl
    · rename_i hfmtp
      have hfmtp' : ¬ ((sdp.mlines[i]?.map (·.kind)) = some .video ∧
          lineStartsWith line "a=fmtp:") := hfmtp
      rw [if_neg hfmtp']
      split
      · rfl
      · cases parseDirection line <;> rfl

theorem sdpParseSession_withLocalOf (t sdp : NanoSdp) (line : List UInt8) :
    sdpParseSession (withLocalOf sdp t) line =
      (withLocalOf (sdpParseSession sdp line).1 t, (sdpParseSession sdp line).2) := by
  unfold sdpParseSession
  split
  · rfl
  split
  · rfl
  split
  · rfl
  split
  · cases parseMaxMessageSize line <;> rfl
  split
  · rfl
  split
  · rfl
  split
  · split
    · rename_i hroom
      have hroom' : sdp.remoteCandidates.length < sdpMaxCandidates := hroom
      rw [if_pos hroom']
      cases parseCandidate line <;> rfl
    · rename_i hfull
      have hfull' : ¬ sdp.remoteCandidates.length < sdpMaxCandidates := hfull
      rw [if_neg hfull']
  split
  · rfl
  · rfl

theorem sdpParseLine_withLocalOf (t : NanoSdp) (s : SdpParser) (line : List UInt8) :
    sdpParseLine ⟨withLocalOf s.sdp t, s.current⟩ line =
      (⟨withLocalOf (sdpParseLine s line).1.sdp t, (sdpParseLine s line).1.current⟩,
        (sdpParseLine s line).2) := by
  unfold sdpParseLine
  split
  · rw [sdpParseSection_withLocalOf]
  · rw [sdpParseMedia_withLocalOf]
    cases sdpParseMedia s line with
    | some r => rfl
    | none =>
      show (_, _) = _
      dsimp only [Option.map_none]
      rw [sdpParseSession_withLocalOf]

/-- The parser neither reads nor writes the local part. -/
theorem sdpParse_withLocalOf (t sdp : NanoSdp) (text : List UInt8) :
    sdpParse (withLocalOf sdp t) text =
      (withLocalOf (sdpParse sdp text).1 t, (sdpParse sdp text).2) := by
  have hrun (s : SdpParser) := runUntil_map (f := sdpParseLine) (g := sdpParseLine)
    (p := fun s : SdpParser => ⟨withLocalOf s.sdp t, s.current⟩)
    (fun s l => sdpParseLine_withLocalOf t s l) s (lines text)
  unfold sdpParse
  by_cases htext : text = []
  · rw [if_pos htext, if_pos htext]
  rw [if_neg htext, if_neg htext]
  have h := hrun ⟨{ sdp with
    midCount := 0, hasDatachannel := false, mlines := [], remoteMaxMessageSize := 65536 }, none⟩
  dsimp only at h ⊢
  rw [show runUntil sdpParseLine ⟨{ withLocalOf sdp t with
      midCount := 0, hasDatachannel := false, mlines := [], remoteMaxMessageSize := 65536 }, none⟩
      (lines text) = _ from h]
  generalize runUntil sdpParseLine ⟨_, none⟩ (lines text) = r
  obtain ⟨r, rc⟩ := r
  cases rc with
  | some rc => rfl
  | none =>
    dsimp only
    by_cases hmissing : r.sdp.remoteUfrag = [] ∨ r.sdp.remotePwd = []
    · rw [if_pos hmissing]
      exact if_pos hmissing
    · rw [if_neg hmissing]
      exact if_neg hmissing

/-- The local part survives a text. -/
theorem sdpParse_local (sdp : NanoSdp) (text : List UInt8) :
    withLocalOf (sdpParse sdp text).1 sdp = (sdpParse sdp text).1 :=
  (congrArg Prod.fst (sdpParse_withLocalOf sdp sdp text)).symm

/-! ### Setup -/

/-- A line starts with one of two literals that differ within both of them. -/
theorem not_lineStartsWith {line : List UInt8} {a b : String} (h : lineStartsWith line a = true)
    (hab : (ascii a).isPrefixOf (ascii b) = false) (hba : (ascii b).isPrefixOf (ascii a) = false) :
    lineStartsWith line b = false := by
  rw [Bool.eq_false_iff]
  intro hb
  have h := List.isPrefixOf_iff_prefix.mp h
  have hb := List.isPrefixOf_iff_prefix.mp hb
  rcases List.prefix_or_prefix_of_prefix h hb with h | h
  · rw [List.isPrefixOf_iff_prefix.mpr h] at hab
    exact nomatch hab
  · rw [List.isPrefixOf_iff_prefix.mpr h] at hba
    exact nomatch hba

/-- A line is refused as a text that cannot be parsed. -/
theorem sdpParseLine_error (s : SdpParser) (line : List UInt8) :
    (sdpParseLine s line).2 = none ∨ (sdpParseLine s line).2 = some .parse := by
  unfold sdpParseLine
  split
  · exact .inl rfl
  · cases sdpParseMedia s line with
    | some r => exact .inl rfl
    | none =>
      show (sdpParseSession s.sdp line).2 = none ∨ (sdpParseSession s.sdp line).2 = some .parse
      unfold sdpParseSession
      split
      · exact .inl rfl
      split
      · exact .inl rfl
      split
      · exact .inl rfl
      split
      · cases parseMaxMessageSize line with
        | none => exact .inr rfl
        | some limit => exact .inl rfl
      split
      · exact .inl rfl
      split
      · exact .inl rfl
      split
      · split
        · cases parseCandidate line <;> exact .inl rfl
        · exact .inl rfl
      split
      · exact .inl rfl
      · exact .inl rfl

/-- A text that is accepted has been read to its end and has left credentials. -/
theorem sdpParse_ok {sdp : NanoSdp} {text : List UInt8} (h : (sdpParse sdp text).2 = .ok) :
    ∃ s, runUntil sdpParseLine ⟨{ sdp with
        midCount := 0, hasDatachannel := false, mlines := [], remoteMaxMessageSize := 65536 }, none⟩
        (lines text) = (s, none) ∧
      (sdpParse sdp text).1 = s.sdp ∧ s.sdp.remoteUfrag ≠ [] ∧ s.sdp.remotePwd ≠ [] := by
  unfold sdpParse at h ⊢
  split at h
  · exact nomatch h
  rename_i htext
  rw [if_neg htext]
  have herror := @runUntil_error _ _ _ sdpParseLine ⟨{ sdp with
    midCount := 0, hasDatachannel := false, mlines := [], remoteMaxMessageSize := 65536 }, none⟩
    (lines text)
  dsimp only at h herror ⊢
  generalize runUntil sdpParseLine ⟨_, none⟩ (lines text) = r at h herror ⊢
  obtain ⟨s, rc⟩ := r
  cases rc with
  | some rc =>
    obtain rfl : rc = .ok := h
    obtain ⟨t, l, -, hrc⟩ := herror rfl
    rcases sdpParseLine_error t l with hnone | hparse
    · rw [hnone] at hrc
      exact nomatch hrc
    · rw [hparse] at hrc
      exact nomatch hrc
  | none =>
    dsimp only at h ⊢
    split at h
    · exact nomatch h
    · rename_i hcreds
      rw [if_neg hcreds]
      exact ⟨s, rfl, rfl, fun hnil => hcreds (.inl hnil), fun hnil => hcreds (.inr hnil)⟩

end Nanortc.Spec
