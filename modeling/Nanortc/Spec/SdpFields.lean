import Nanortc.Spec.SdpSections

/-!
# Fields of descriptions

What stands outside the sections is a field of the state with an attribute of its own: lines of the
attribute change it, and no other line does.

## Key results

- `SdpField.run`: a field after the lines of a text
- `runUntil_parse_iff`, `sdpParse_ok_iff`: the texts that are accepted
- `sdpParse_candidates`: the candidates that a text leaves
-/

namespace Nanortc.Spec

open Nanortc.ForStd Nanortc.Native

/-- The attributes of sections, and the line that opens one. -/
def sectionTags : List String :=
  ["m=", "a=rtpmap:", "a=fmtp:", "a=extmap:", "a=sendonly", "a=recvonly", "a=inactive",
    "a=sendrecv"]

/-- No line starts with both literals. -/
def Unlike (a b : String) : Prop :=
  (ascii a).isPrefixOf (ascii b) = false ∧ (ascii b).isPrefixOf (ascii a) = false

instance (a b : String) : Decidable (Unlike a b) := inferInstanceAs (Decidable (_ ∧ _))

theorem Unlike.not_start {a b : String} (h : Unlike a b) {line : List UInt8}
    (ha : lineStartsWith line a = true) : lineStartsWith line b = false :=
  not_lineStartsWith ha h.1 h.2

/-- The sections of a description replaced. -/
def withSections (sdp : NanoSdp) (midCount : UInt8) (hasDatachannel : Bool) (dcMid : UInt8)
    (mlines : List SdpMline) : NanoSdp :=
  { sdp with midCount := midCount, hasDatachannel := hasDatachannel, dcMid := dcMid, mlines := mlines }

/-- A field of the state and the attribute that it is read from. -/
structure SdpField (α : Type) where
  literal : String
  get : NanoSdp → α
  read : List UInt8 → α → α
  apart : ∀ tag ∈ sectionTags, Unlike literal tag
  frame : ∀ sdp midCount hasDatachannel dcMid mlines,
    get (withSections sdp midCount hasDatachannel dcMid mlines) = get sdp
  session : ∀ sdp line, get (sdpParseSession sdp line).1 =
    if lineStartsWith line literal then read line (get sdp) else get sdp

variable {α : Type}

/-- What lines make of a field. -/
def SdpField.stated (f : SdpField α) (a : α) (ls : List (List UInt8)) : α :=
  ls.foldl (fun a l => if lineStartsWith l f.literal then f.read l a else a) a

/-- A line that starts like a field's attribute is no line of a section. -/
theorem sdpParseMedia_apart (s : SdpParser) {literal : String}
    (hapart : ∀ tag ∈ sectionTags, Unlike literal tag) {line : List UInt8}
    (h : lineStartsWith line literal = true) : sdpParseMedia s line = none := by
  have hother (tag : String) (htag : tag ∈ sectionTags) : lineStartsWith line tag = false :=
    (hapart tag htag).not_start h
  obtain ⟨sdp, current⟩ := s
  cases current with
  | none => rfl
  | some i =>
    rw [sdpParseMedia_mk]
    unfold parseDirection
    rw [hother "a=rtpmap:" (by decide), hother "a=fmtp:" (by decide),
      hother "a=extmap:" (by decide), hother "a=sendonly" (by decide),
      hother "a=recvonly" (by decide), hother "a=inactive" (by decide),
      hother "a=sendrecv" (by decide)]
    simp

/-- The line that opens a section changes nothing else. -/
theorem sdpParseSection_eq (s : SdpParser) (line : List UInt8) :
    ∃ midCount hasDatachannel dcMid mlines, (sdpParseSection s line).sdp =
      withSections s.sdp midCount hasDatachannel dcMid mlines := by
  unfold sdpParseSection
  dsimp only
  split
  · exact ⟨_, _, _, _, rfl⟩
  split
  · split <;> exact ⟨_, _, _, _, rfl⟩
  · exact ⟨_, _, _, _, rfl⟩

/-- What a line makes of a field. -/
theorem SdpField.line (f : SdpField α) (s : SdpParser) (line : List UInt8) :
    f.get (sdpParseLine s line).1.sdp =
      if lineStartsWith line f.literal then f.read line (f.get s.sdp) else f.get s.sdp := by
  unfold sdpParseLine
  split
  · rename_i hsection
    have hnot : ¬ lineStartsWith line f.literal = true := by
      intro h
      rw [(f.apart "m=" (by decide)).not_start h] at hsection
      exact nomatch hsection
    obtain ⟨midCount, hasDatachannel, dcMid, mlines, hsdp⟩ := sdpParseSection_eq s line
    rw [if_neg hnot]
    show f.get (sdpParseSection s line).sdp = _
    rw [hsdp, f.frame]
  · cases hmedia : sdpParseMedia s line with
    | none => exact f.session s.sdp line
    | some r =>
      have hnot : ¬ lineStartsWith line f.literal = true := by
        intro h
        rw [sdpParseMedia_apart s f.apart h] at hmedia
        exact nomatch hmedia
      rw [if_neg hnot]
      show f.get r.sdp = _
      rw [sdpParseMedia_some hmedia]
      exact f.frame s.sdp _ _ _ _

/-- A field after lines that are all accepted. -/
theorem SdpField.run (f : SdpField α) {s : SdpParser} {ls : List (List UInt8)}
    (h : (runUntil sdpParseLine s ls).2 = none) :
    f.get (runUntil sdpParseLine s ls).1.sdp = f.stated (f.get s.sdp) ls := by
  induction ls generalizing s with
  | nil => rfl
  | cons l ls ih =>
    have hline := f.line s l
    unfold runUntil at h ⊢
    cases hstep : sdpParseLine s l with
    | mk s' rc =>
      rw [hstep] at h hline
      cases rc with
      | some rc => cases h
      | none =>
        rw [ih h, hline]
        rfl

/-! ### The fields -/

/-- A table of candidates with the candidate of a line, where there is room for it. -/
def readCandidate (line : List UInt8) (cs : List (SdpCandidate (List UInt8))) :
    List (SdpCandidate (List UInt8)) :=
  if cs.length < sdpMaxCandidates then cs ++ (parseCandidate line).toList else cs

/-- A line changes the field whose attribute it starts like. -/
theorem sdpParseSession_fields (sdp : NanoSdp) (line : List UInt8) :
    (sdpParseSession sdp line).1 = { sdp with
      remoteUfrag := if lineStartsWith line "a=ice-ufrag:" then
        extractValue line "a=ice-ufrag:" iceRemoteUfragSize else sdp.remoteUfrag
      remotePwd := if lineStartsWith line "a=ice-pwd:" then
        extractValue line "a=ice-pwd:" iceRemotePwdSize else sdp.remotePwd
      remoteFingerprint := if lineStartsWith line "a=fingerprint:" then
        extractValue line "a=fingerprint:" sdpFingerprintSize else sdp.remoteFingerprint
      remoteMaxMessageSize := if lineStartsWith line "a=max-message-size:" then
        (parseMaxMessageSize line).getD sdp.remoteMaxMessageSize else sdp.remoteMaxMessageSize
      remoteSctpPort := if lineStartsWith line "a=sctp-port:" then
        (parseU32 (line.drop 12) 0).1.toUInt16 else sdp.remoteSctpPort
      remoteSetup := if lineStartsWith line "a=setup:" then parseSetup line else sdp.remoteSetup
      remoteCandidates := if lineStartsWith line "a=candidate:" then
        readCandidate line sdp.remoteCandidates else sdp.remoteCandidates
      endOfCandidates := if lineStartsWith line "a=end-of-candidates" then true
        else sdp.endOfCandidates } := by
  have hother {a : String} (h : lineStartsWith line a = true) (b : String) (hab : Unlike a b) :
      lineStartsWith line b = false := hab.not_start h
  unfold sdpParseSession
  by_cases hufrag : lineStartsWith line "a=ice-ufrag:" = true
  · simp (disch := decide) only [hufrag, hother hufrag, if_true, if_false, Bool.false_eq_true]
  by_cases hpwd : lineStartsWith line "a=ice-pwd:" = true
  · simp (disch := decide) only [hpwd, hother hpwd, if_true, if_false, Bool.false_eq_true]
  by_cases hfingerprint : lineStartsWith line "a=fingerprint:" = true
  · simp (disch := decide) only [hfingerprint, hother hfingerprint, if_true, if_false,
      Bool.false_eq_true]
  by_cases hsize : lineStartsWith line "a=max-message-size:" = true
  · simp (disch := decide) only [hsize, hother hsize, if_true, if_false, Bool.false_eq_true]
    cases parseMaxMessageSize line <;> rfl
  by_cases hport : lineStartsWith line "a=sctp-port:" = true
  · simp (disch := decide) only [hport, hother hport, if_true, if_false, Bool.false_eq_true]
  by_cases hsetup : lineStartsWith line "a=setup:" = true
  · simp (disch := decide) only [hsetup, hother hsetup, if_true, if_false, Bool.false_eq_true]
  by_cases hcandidate : lineStartsWith line "a=candidate:" = true
  · simp (disch := decide) only [hcandidate, hother hcandidate, if_true, if_false,
      Bool.false_eq_true]
    unfold readCandidate
    split
    · cases parseCandidate line with
      | none => rw [Option.toList_none, List.append_nil]
      | some c => rfl
    · rfl
  · simp only [hufrag, hpwd, hfingerprint, hsize, hport, hsetup, hcandidate, if_false,
      Bool.false_eq_true]
    split <;> rfl

/-- The user fragment of the peer. -/
def ufragField : SdpField (List UInt8) where
  literal := "a=ice-ufrag:"
  get := NanoSdp.remoteUfrag
  read line _ := extractValue line "a=ice-ufrag:" iceRemoteUfragSize
  apart := by decide
  frame _ _ _ _ _ := rfl
  session sdp line := by rw [sdpParseSession_fields]

/-- The password of the peer. -/
def pwdField : SdpField (List UInt8) where
  literal := "a=ice-pwd:"
  get := NanoSdp.remotePwd
  read line _ := extractValue line "a=ice-pwd:" iceRemotePwdSize
  apart := by decide
  frame _ _ _ _ _ := rfl
  session sdp line := by rw [sdpParseSession_fields]

/-- The fingerprint of the peer. -/
def fingerprintField : SdpField (List UInt8) where
  literal := "a=fingerprint:"
  get := NanoSdp.remoteFingerprint
  read line _ := extractValue line "a=fingerprint:" sdpFingerprintSize
  apart := by decide
  frame _ _ _ _ _ := rfl
  session sdp line := by rw [sdpParseSession_fields]

/-- The greatest message that the peer takes. -/
def maxMessageSizeField : SdpField Nat where
  literal := "a=max-message-size:"
  get := NanoSdp.remoteMaxMessageSize
  read line size := (parseMaxMessageSize line).getD size
  apart := by decide
  frame _ _ _ _ _ := rfl
  session sdp line := by rw [sdpParseSession_fields]

/-- The SCTP port of the peer. -/
def sctpPortField : SdpField UInt16 where
  literal := "a=sctp-port:"
  get := NanoSdp.remoteSctpPort
  read line _ := (parseU32 (line.drop 12) 0).1.toUInt16
  apart := by decide
  frame _ _ _ _ _ := rfl
  session sdp line := by rw [sdpParseSession_fields]

/-- The setup of the peer. -/
def setupField : SdpField SdpSetup where
  literal := "a=setup:"
  get := NanoSdp.remoteSetup
  read line _ := parseSetup line
  apart := by decide
  frame _ _ _ _ _ := rfl
  session sdp line := by rw [sdpParseSession_fields]

/-- The candidates of the peer. -/
def candidatesField : SdpField (List (SdpCandidate (List UInt8))) where
  literal := "a=candidate:"
  get := NanoSdp.remoteCandidates
  read := readCandidate
  apart := by decide
  frame _ _ _ _ _ := rfl
  session sdp line := by rw [sdpParseSession_fields]

/-- The peer has no more candidates. -/
def endOfCandidatesField : SdpField Bool where
  literal := "a=end-of-candidates"
  get := NanoSdp.endOfCandidates
  read _ _ := true
  apart := by decide
  frame _ _ _ _ _ := rfl
  session sdp line := by rw [sdpParseSession_fields]

/-! ### Texts that are accepted -/

/-- The line is refused. -/
def BadLine (line : List UInt8) : Prop :=
  lineStartsWith line "a=max-message-size:" = true ∧ parseMaxMessageSize line = none

/-- A line is refused for what it says, whatever the state. -/
theorem sdpParseLine_refused (s : SdpParser) (line : List UInt8) :
    (sdpParseLine s line).2 = none ↔ ¬ BadLine line := by
  unfold BadLine
  by_cases h : lineStartsWith line "a=max-message-size:" = true
  · have hother (tag : String) (hunlike : Unlike "a=max-message-size:" tag) := hunlike.not_start h
    have hmedia := sdpParseMedia_apart s maxMessageSizeField.apart h
    unfold sdpParseLine
    rw [hother "m=" (by decide), hmedia]
    show (sdpParseSession s.sdp line).2 = none ↔ _
    unfold sdpParseSession
    rw [hother "a=ice-ufrag:" (by decide), hother "a=ice-pwd:" (by decide),
      hother "a=fingerprint:" (by decide), h]
    cases parseMaxMessageSize line with
    | none => exact ⟨nofun, fun h => absurd ⟨rfl, rfl⟩ h⟩
    | some limit => exact ⟨fun _ => nofun, fun _ => rfl⟩
  · refine ⟨fun _ hbad => h hbad.1, fun _ => ?_⟩
    unfold sdpParseLine
    split
    · rfl
    · cases sdpParseMedia s line with
      | some r => rfl
      | none =>
        show (sdpParseSession s.sdp line).2 = none
        unfold sdpParseSession
        rw [if_neg h]
        repeat' split
        all_goals rfl

/-- Lines are read to their end if none is refused. -/
theorem runUntil_parse_iff (s : SdpParser) (ls : List (List UInt8)) :
    (runUntil sdpParseLine s ls).2 = none ↔ ∀ l ∈ ls, ¬ BadLine l := by
  induction ls generalizing s with
  | nil => exact ⟨fun _ l h => absurd h List.not_mem_nil, fun _ => rfl⟩
  | cons l ls ih =>
    have hline := sdpParseLine_refused s l
    rw [List.forall_mem_cons, ← hline]
    unfold runUntil
    cases sdpParseLine s l with
    | mk s' rc =>
      cases rc with
      | some rc => exact ⟨fun h => (by cases h), fun h => by cases h.1⟩
      | none => exact (ih s').trans ⟨fun h => ⟨rfl, h⟩, fun h => h.2⟩

/-- A text is accepted if no line of it is refused and it leaves credentials. -/
theorem sdpParse_ok_iff (sdp : NanoSdp) (text : List UInt8) :
    (sdpParse sdp text).2 = .ok ↔ text ≠ [] ∧ (∀ l ∈ lines text, ¬ BadLine l) ∧
      ufragField.stated sdp.remoteUfrag (lines text) ≠ [] ∧
      pwdField.stated sdp.remotePwd (lines text) ≠ [] := by
  have hiff := runUntil_parse_iff ⟨{ sdp with
    midCount := 0, hasDatachannel := false, mlines := [], remoteMaxMessageSize := 65536 }, none⟩
    (lines text)
  constructor
  · intro h
    have htext : text ≠ [] := by
      rintro rfl
      exact nomatch h
    obtain ⟨s, hrun, -, hufrag, hpwd⟩ := sdpParse_ok h
    have hnone := congrArg Prod.snd hrun
    have hstate := congrArg (fun r => r.1.sdp) hrun
    refine ⟨htext, hiff.mp hnone, ?_, ?_⟩
    · rw [← hstate] at hufrag
      exact (ufragField.run hnone) ▸ hufrag
    · rw [← hstate] at hpwd
      exact (pwdField.run hnone) ▸ hpwd
  · rintro ⟨htext, hlines, hufrag, hpwd⟩
    have hnone := hiff.mpr hlines
    have hu := ufragField.run hnone
    have hp := pwdField.run hnone
    unfold sdpParse
    rw [if_neg htext]
    dsimp only at hnone hu hp ⊢
    generalize runUntil sdpParseLine ⟨_, none⟩ (lines text) = r at hnone hu hp ⊢
    obtain ⟨s, rc⟩ := r
    obtain rfl : rc = none := hnone
    dsimp only at hu hp ⊢
    rw [if_neg]
    rintro (h | h)
    · exact hufrag (hu.symm.trans h)
    · exact hpwd (hp.symm.trans h)

/-- A field that the parser does not reset, after a text that is accepted. -/
theorem SdpField.parsed (f : SdpField α) {sdp : NanoSdp} {text : List UInt8}
    (h : (sdpParse sdp text).2 = .ok)
    (hstart : f.get { sdp with
      midCount := 0, hasDatachannel := false, mlines := [], remoteMaxMessageSize := 65536 } =
        f.get sdp) :
    f.get (sdpParse sdp text).1 = f.stated (f.get sdp) (lines text) := by
  obtain ⟨s, hrun, hsdp, -, -⟩ := sdpParse_ok h
  have hfield := f.run (congrArg Prod.snd hrun)
  rw [hrun] at hfield
  rw [hsdp, hfield, hstart]

/-- The message size after a text that is accepted. -/
theorem sdpParse_maxMessageSize {sdp : NanoSdp} {text : List UInt8}
    (h : (sdpParse sdp text).2 = .ok) :
    (sdpParse sdp text).1.remoteMaxMessageSize = maxMessageSizeField.stated 65536 (lines text) := by
  obtain ⟨s, hrun, hsdp, -, -⟩ := sdpParse_ok h
  have hfield := maxMessageSizeField.run (congrArg Prod.snd hrun)
  rw [hrun] at hfield
  rw [hsdp]
  exact hfield

/-! ### Candidates -/

/-- The candidates that lines name. -/
def lineCandidates (ls : List (List UInt8)) : List (SdpCandidate (List UInt8)) :=
  ls.filterMap fun l => if lineStartsWith l "a=candidate:" then parseCandidate l else none

theorem lineCandidates_append (ks ls : List (List UInt8)) :
    lineCandidates (ks ++ ls) = lineCandidates ks ++ lineCandidates ls := List.filterMap_append

/-- The table takes the candidates of lines while it has room. -/
theorem candidatesField_stated (cs : List (SdpCandidate (List UInt8))) (ls : List (List UInt8)) :
    candidatesField.stated cs ls = cs ++ (lineCandidates ls).take (sdpMaxCandidates - cs.length) := by
  induction ls generalizing cs with
  | nil =>
    show cs = cs ++ List.take _ []
    rw [List.take_nil, List.append_nil]
  | cons l ls ih =>
    show candidatesField.stated (if lineStartsWith l "a=candidate:" then readCandidate l cs else cs) ls = _
    have hcons : lineCandidates (l :: ls) =
        (if lineStartsWith l "a=candidate:" then parseCandidate l else none).toList ++
          lineCandidates ls := by
      unfold lineCandidates
      rw [List.filterMap_cons]
      split
      · rename_i hnone
        rw [hnone]
        rfl
      · rename_i c hsome
        rw [hsome]
        rfl
    rw [ih, hcons]
    split
    · unfold readCandidate
      split
      · rename_i hroom
        cases parseCandidate l with
        | none =>
          show cs ++ [] ++ List.take (_ - (cs ++ []).length) _ = _
          rw [List.append_nil]
          rfl
        | some c =>
          obtain ⟨k, hk⟩ : ∃ k, sdpMaxCandidates - cs.length = k + 1 :=
            ⟨sdpMaxCandidates - cs.length - 1, by omega⟩
          have hk' : sdpMaxCandidates - (cs ++ [c]).length = k := by
            rw [List.length_append, List.length_singleton]
            omega
          show cs ++ [c] ++ List.take (_ - (cs ++ [c]).length) _ = _
          rw [hk, hk', List.append_assoc]
          rfl
      · rename_i hfull
        have hzero : sdpMaxCandidates - cs.length = 0 := by omega
        rw [hzero, List.take_zero, List.take_zero]
    · rfl

/-- The candidates that a text leaves: those of the table, and those of the text's lines while there
is room for them. -/
theorem sdpParse_candidates {sdp : NanoSdp} {text : List UInt8} (h : (sdpParse sdp text).2 = .ok) :
    (sdpParse sdp text).1.remoteCandidates = sdp.remoteCandidates ++
      (lineCandidates (lines text)).take (sdpMaxCandidates - sdp.remoteCandidates.length) :=
  (candidatesField.parsed h rfl).trans (candidatesField_stated _ _)

end Nanortc.Spec
