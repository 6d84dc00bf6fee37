import Nanortc.Spec.IpFormatting
import Nanortc.Spec.SdpOrder
import Nanortc.Spec.SdpWriting
import Nanortc.Spec.CandidateTexts

/-!
# Lines of descriptions, written and read

Every line of a description that was written either states a field, or starts like none of them. Each
line that states a field is read as the value it was written with.

## Key results

- `description_line`: the lines of a description
- `extractValue_crlf`, `parseMlineFirstPt_head`, `parseCandidate_written`: what is read from them
- `filterMap_parseDirection`: the direction of a media section
-/

namespace Nanortc.Spec

open Nanortc.ForStd Nanortc.Native

/-! ### Values -/

/-- A value that fits into an array of `size` bytes and does not end with a blank. -/
structure FieldText (size : Nat) (t : LineText) : Prop where
  room : t.bytes.length < size
  stripped : stripEnd isBlank t.bytes = t.bytes

/-- Nothing is stripped where no byte is one of those stripped. -/
theorem stripEnd_of_none {p : UInt8 → Bool} {s : List UInt8} (h : ∀ c ∈ s, p c = false) :
    stripEnd p s = s := by
  unfold stripEnd
  have hstop : s.reverse.dropWhile p = s.reverse := by
    cases hs : s.reverse with
    | nil => rfl
    | cons c cs =>
      have hc : c ∈ s := by
        rw [← List.mem_reverse, hs]
        exact List.mem_cons_self
      exact List.dropWhile_cons_of_neg (ne_true_of_eq_false (h c hc))
  rw [hstop, List.reverse_reverse]

theorem isEol_of_isPrintable {c : UInt8} (h : isPrintable c = true) : isEol c = false := by
  rw [Bool.eq_false_iff]
  intro heol
  unfold isEol at heol
  rw [Bool.or_eq_true, beq_iff_eq, beq_iff_eq] at heol
  rcases heol with rfl | rfl <;> exact absurd h (by decide)

theorem lineText_not_eol (t : LineText) : ∀ c ∈ t.bytes, (!isEol c) = true := fun c hc => by
  rw [isEol_of_isPrintable (List.all_eq_true.mp t.printable c hc)]
  rfl

/-- A value is read as it was written. -/
theorem extractValue_crlf {literal : String} {tag : LineText} (htag : tag.bytes = ascii literal)
    {size m : Nat} {t : LineText} (h : FieldText m t) (hsize : m ≤ size) :
    extractValue (crlf (tag ++ t)) literal size = t.bytes := by
  have hroom := h.room
  have hval : ((crlf (tag ++ t)).drop (ascii literal).length).takeWhile (fun c => !isEol c) =
      t.bytes := by
    unfold crlf
    rw [LineText.bytes_append, htag, List.append_assoc, List.drop_left,
      List.takeWhile_append_of_pos (lineText_not_eol t)]
    exact List.append_nil _
  unfold extractValue
  dsimp only
  rw [hval, h.stripped, List.take_of_length_le (by omega)]

/-- A number is read as it was written. -/
theorem parseU32_decimal (n : Nat) {rest : List UInt8} (hrest : ∀ c ∈ rest.head?, isDigit c = false) :
    parseU32 ((decimal n).bytes ++ rest) 0 = (UInt32.ofNat n, rest) := by
  have h := parseU32_digits (all_isDigit_decimalDigits (n + 1) n) hrest 0
  rw [show decimalFrom 0 (decimalDigits (n + 1) n) = n from decimalFrom_decimalDigits (Nat.lt_succ_self n)] at h
  exact h

/-! ### The lines of a description -/

/-- What lines start with that state no field of the description. -/
def plainTags : List String :=
  ["v=", "o=", "s=", "t=", "a=group:", "m=", "c=", "a=mid:", "a=sendrecv", "a=sendonly",
    "a=recvonly", "a=inactive", "a=ice-options:", "a=rtcp-", "a=rtpmap:", "a=fmtp:", "a=ptime:",
    "a=extmap:"]

/-- The line starts with one of the literals. -/
def Plain (l : LineText) : Prop := ∃ tag ∈ plainTags, lineStartsWith (crlf l) tag = true

/-- The lines of the data channel. -/
def applicationLines (sdp : NanoSdp) : List LineText :=
  [.lit "a=sctp-port:" ++ decimal sdp.localSctpPort.toNat,
    .lit "a=max-message-size:" ++ decimal sctpMaxMessageSize]

/-- The lines of a section are those of the transport, of the data channel, and plain ones. -/
theorem sectionLine (sdp : NanoSdp) (e : SdpEntry) {l : LineText} (h : l ∈ sdpSectionLines sdp e) :
    l ∈ sdpTransportAttrs sdp ∨ (e.mline = none ∧ l ∈ applicationLines sdp) ∨ Plain l := by
  have hconnection : Plain (sdpConnectionLine sdp) := by
    refine ⟨"c=", by decide, ?_⟩
    unfold sdpConnectionLine
    split <;> rfl
  have hmedia {ml : SdpMline} {kind : LineText} (hkind : ∀ t u, Plain (kind ++ t ++ u)) {mid : UInt8}
      (h : l ∈ sdpMediaMline sdp ml kind mid) : l ∈ sdpTransportAttrs sdp ∨ Plain l := by
    unfold sdpMediaMline at h
    simp only [List.mem_append, List.mem_cons, List.not_mem_nil, or_false] at h
    rcases h with ((rfl | rfl | rfl | rfl) | h) | rfl
    · exact .inr (hkind _ _)
    · exact .inr hconnection
    · exact .inr ⟨"a=mid:", by decide, rfl⟩
    · refine .inr ?_
      cases ml.direction with
      | sendrecv => exact ⟨"a=sendrecv", by decide, rfl⟩
      | sendonly => exact ⟨"a=sendonly", by decide, rfl⟩
      | recvonly => exact ⟨"a=recvonly", by decide, rfl⟩
      | inactive => exact ⟨"a=inactive", by decide, rfl⟩
    · exact .inl h
    · exact .inr ⟨"a=rtcp-", by decide, rfl⟩
  unfold sdpSectionLines at h
  cases hmline : e.mline with
  | none =>
    rw [hmline] at h
    unfold sdpDatachannelMline at h
    simp only [List.mem_append, List.mem_cons, List.not_mem_nil, or_false] at h
    rcases h with ((rfl | rfl | rfl | rfl | rfl) | h) | h
    · exact .inr (.inr ⟨"m=", by decide, rfl⟩)
    · exact .inr (.inr hconnection)
    · exact .inr (.inr ⟨"a=mid:", by decide, rfl⟩)
    · exact .inr (.inr ⟨"a=sendrecv", by decide, rfl⟩)
    · exact .inr (.inr ⟨"a=ice-options:", by decide, rfl⟩)
    · exact .inl h
    · refine .inr (.inl ⟨rfl, ?_⟩)
      unfold applicationLines
      simpa using h
  | some i =>
    rw [hmline] at h
    dsimp only at h
    refine (?_ : l ∈ sdpTransportAttrs sdp ∨ Plain l).imp_right .inr
    cases hkind : (sdp.mlines.getD i default).kind with
    | audio =>
      rw [hkind] at h
      unfold sdpAudioMline at h
      simp only [List.mem_append, List.mem_cons, List.not_mem_nil, or_false] at h
      rcases h with (h | rfl) | h
      · exact hmedia (fun _ _ => ⟨"m=", by decide, rfl⟩) h
      · exact .inr ⟨"a=rtpmap:", by decide, rfl⟩
      · split at h
        · simp only [List.mem_cons, List.not_mem_nil, or_false] at h
          rcases h with rfl | rfl
          · exact .inr ⟨"a=fmtp:", by decide, rfl⟩
          · exact .inr ⟨"a=ptime:", by decide, rfl⟩
        · exact absurd h List.not_mem_nil
    | video =>
      rw [hkind] at h
      unfold sdpVideoMline at h
      simp only [List.mem_append, List.mem_cons, List.not_mem_nil, or_false] at h
      rcases h with (h | rfl | rfl | rfl | rfl) | h
      · exact hmedia (fun _ _ => ⟨"m=", by decide, rfl⟩) h
      · exact .inr ⟨"a=rtpmap:", by decide, rfl⟩
      · exact .inr ⟨"a=fmtp:", by decide, rfl⟩
      · exact .inr ⟨"a=rtcp-", by decide, rfl⟩
      · exact .inr ⟨"a=rtcp-", by decide, rfl⟩
      · split at h
        · rw [List.mem_singleton.mp h]
          exact .inr ⟨"a=extmap:", by decide, rfl⟩
        · exact absurd h List.not_mem_nil

/-- The lines in front of the sections are plain. -/
theorem sessionLine (sdp : NanoSdp) {l : LineText} (h : l ∈ sdpSessionLines sdp) : Plain l := by
  obtain ⟨tag, htag, hl⟩ := taggedIn_session sdp l h
  have hplain : ∀ tag ∈ sessionTags, tag ∈ plainTags := by decide
  exact ⟨tag, hplain tag htag, hl⟩

/-- The lines of a description: those of the transport, of the data channel, the candidates, and
plain ones. -/
theorem description_line (sdp : NanoSdp) {l : LineText} (h : l ∈ sdpDescription sdp) :
    l ∈ sdpTransportAttrs sdp ∨ (sdp.hasDatachannel = true ∧ l ∈ applicationLines sdp) ∨
      l ∈ sdpCandidateLines sdp ∨ Plain l := by
  rcases List.mem_append.mp h with h | h
  · exact .inr (.inr (.inr (sessionLine sdp h)))
  obtain ⟨x, hx, hl⟩ := List.mem_flatMap.mp h
  rcases List.mem_append.mp hl with hl | hl
  · rcases sectionLine sdp x.1 hl with hl | ⟨hnone, hl⟩ | hl
    · exact .inl hl
    · -- only the entry of the data channel has no media line
      have hentry : x.1 ∈ sdpEntries sdp :=
        (sdpTable_perm sdp).mem_iff.mp (List.fst_mem_of_mem_zipIdx hx)
      refine .inr (.inl ⟨?_, hl⟩)
      rcases List.mem_append.mp hentry with hentry | hentry
      · obtain ⟨⟨ml, i⟩, -, hml⟩ := List.mem_filterMap.mp hentry
        dsimp only at hml
        split at hml
        · rw [← Option.some.inj hml] at hnone
          exact nomatch hnone
        · exact nomatch hml
      · split at hentry
        · assumption
        · exact absurd hentry List.not_mem_nil
    · exact .inr (.inr (.inr hl))
  · split at hl
    · exact .inr (.inr (.inl hl))
    · exact absurd hl List.not_mem_nil

/-! ### Candidates -/

/-- A field and the space behind it are skipped. -/
theorem skipFields_token {t : List UInt8} (ht : ∀ c ∈ t, c ≠ 0x20) (n : Nat) {rest : List UInt8}
    (hrest : rest.head? ≠ some 0x20) : skipFields (n + 1) (t ++ 0x20 :: rest) = skipFields n rest := by
  have hfield : (t ++ 0x20 :: rest).dropWhile (· ≠ 0x20) = 0x20 :: rest := by
    rw [List.dropWhile_append_of_pos fun c hc => by simpa using ht c hc]
    rfl
  have hspaces : (0x20 :: rest).dropWhile (· = 0x20) = rest := by
    rw [List.dropWhile_cons_of_pos (by decide)]
    cases rest with
    | nil => rfl
    | cons c rest =>
      refine List.dropWhile_cons_of_neg ?_
      intro hc
      exact hrest (congrArg some (of_decide_eq_true hc))
  show skipFields n (((t ++ 0x20 :: rest).dropWhile (· ≠ 0x20)).dropWhile (· = 0x20)) = _
  rw [hfield, hspaces]

theorem decimal_not_space (n : Nat) : ∀ c ∈ (decimal n).bytes, c ≠ 0x20 := by
  intro c hc hspace
  have hdigit := List.all_eq_true.mp (all_isDigit_decimalDigits (n + 1) n) c hc
  rw [hspace] at hdigit
  exact absurd hdigit (by decide)

theorem Token.not_space {t : List UInt8} (h : Token t) : ∀ c ∈ t, c ≠ 0x20 := by
  rintro c hc rfl
  exact absurd (h.plain _ hc) (by decide)

theorem Token.head?_append {t : List UInt8} (h : Token t) (rest : List UInt8) :
    (t ++ rest).head? ≠ some 0x20 := by
  cases ht : t with
  | nil => exact absurd ht h.ne
  | cons c s =>
    intro hc
    exact h.not_space c (by rw [ht]; exact List.mem_cons_self) (Option.some.inj hc)

/-- A candidate is read as the address and the port that it was written with, unless that is zero. -/
theorem parseCandidate_written (foundation : Nat) (priority : UInt32) {c : SdpCandidate LineText}
    (haddr : Token c.addr.bytes) (hlen : c.addr.bytes.length < ipv6StrSize) (type related : LineText) :
    parseCandidate (crlf (sdpCandidateLine foundation priority c type ++ related)) =
      if c.port = 0 then none else some ⟨c.addr.bytes, c.port⟩ := by
  have hcomponent : (LineText.lit " 1 UDP ").bytes =
      0x20 :: (ascii "1" ++ 0x20 :: (ascii "UDP" ++ [0x20])) := by decide
  have hgap : (LineText.lit " ").bytes = [0x20] := by decide
  have htyp : (LineText.lit " typ ").bytes = 0x20 :: ascii "typ " := by decide
  have hone : Token (ascii "1") := token_of_any (by decide) (by decide)
  have hudp : Token (ascii "UDP") := token_of_any (by decide) (by decide)
  generalize htail : ascii "typ " ++ (type.bytes ++ (related.bytes ++ [0x0D, 0x0A])) = tail
  have hline : crlf (sdpCandidateLine foundation priority c type ++ related) =
      ascii "a=candidate:" ++ ((decimal foundation).bytes ++ 0x20 :: (ascii "1" ++ 0x20 ::
        (ascii "UDP" ++ 0x20 :: ((decimal priority.toNat).bytes ++ 0x20 :: (c.addr.bytes ++ 0x20 ::
          ((decimal c.port.toNat).bytes ++ 0x20 :: tail)))))) := by
    unfold crlf sdpCandidateLine
    rw [← htail]
    simp only [LineText.bytes_append, hcomponent, hgap, htyp, List.append_assoc, List.cons_append,
      List.nil_append]
    rfl
  have hskip : skipFields 4 ((crlf (sdpCandidateLine foundation priority c type ++ related)).drop 12) =
      c.addr.bytes ++ 0x20 :: ((decimal c.port.toNat).bytes ++ 0x20 :: tail) := by
    rw [hline, List.drop_left' (by decide),
      skipFields_token (decimal_not_space foundation) 3 (hone.head?_append _),
      skipFields_token hone.not_space 2 (hudp.head?_append _),
      skipFields_token hudp.not_space 1 ((token_decimal _).head?_append _),
      skipFields_token (decimal_not_space _) 0 (haddr.head?_append _)]
    rfl
  have htake : (c.addr.bytes ++ 0x20 :: ((decimal c.port.toNat).bytes ++ 0x20 :: tail)).takeWhile
      (· ≠ 0x20) = c.addr.bytes := by
    rw [List.takeWhile_append_of_pos fun c hc => by simpa using haddr.not_space c hc]
    exact List.append_nil _
  have hdrop : ((c.addr.bytes ++ 0x20 :: ((decimal c.port.toNat).bytes ++ 0x20 :: tail)).dropWhile
      (· ≠ 0x20)).dropWhile (· = 0x20) = (decimal c.port.toNat).bytes ++ 0x20 :: tail :=
    skipFields_token haddr.not_space 0 ((token_decimal _).head?_append _)
  have hport : (parseU32 ((decimal c.port.toNat).bytes ++ 0x20 :: tail) 0).1.toUInt16 = c.port := by
    rw [parseU32_decimal c.port.toNat fun d hd => by
      obtain rfl := Option.some.inj hd
      rfl]
    apply UInt16.toNat_inj.mp
    have hlt := c.port.toNat_lt
    rw [UInt32.toNat_toUInt16, UInt32.toNat_ofNat']
    omega
  unfold parseCandidate
  dsimp only
  rw [hskip, htake, hdrop, hport]
  by_cases hzero : c.port = 0
  · rw [if_pos hzero, if_neg]
    rintro ⟨-, -, hpos⟩
    rw [hzero] at hpos
    exact absurd hpos (by decide)
  · have hpos : c.port > 0 := by
      rw [gt_iff_lt, UInt16.lt_iff_toNat_lt]
      have hne : c.port.toNat ≠ 0 := fun h => hzero (UInt16.toNat_inj.mp h)
      exact Nat.pos_of_ne_zero hne
    rw [if_neg hzero, if_pos ⟨haddr.ne, hlen, hpos⟩]

/-! ### Media sections -/

/-- The payload type behind the "m=" line of a media section. -/
theorem parseMlineFirstPt_head {kind : LineText} (hkind : kind.bytes.length = 7) (pt : UInt8) :
    parseMlineFirstPt (crlf (kind ++ .lit " 9 UDP/TLS/RTP/SAVPF " ++ decimal pt.toNat)) 8 = pt := by
  have hlit : (LineText.lit " 9 UDP/TLS/RTP/SAVPF ").bytes =
      0x20 :: (ascii "9" ++ 0x20 :: (ascii "UDP/TLS/RTP/SAVPF" ++ [0x20])) := by decide
  have hnine : Token (ascii "9") := token_of_any (by decide) (by decide)
  have hprofile : Token (ascii "UDP/TLS/RTP/SAVPF") := token_of_any (by decide) (by decide)
  have hline : crlf (kind ++ .lit " 9 UDP/TLS/RTP/SAVPF " ++ decimal pt.toNat) =
      (kind.bytes ++ [0x20]) ++ (ascii "9" ++ 0x20 :: (ascii "UDP/TLS/RTP/SAVPF" ++ 0x20 ::
        ((decimal pt.toNat).bytes ++ [0x0D, 0x0A]))) := by
    unfold crlf
    simp only [LineText.bytes_append, hlit, List.append_assoc, List.cons_append, List.nil_append]
  unfold parseMlineFirstPt
  rw [hline, List.drop_left' (by rw [List.length_append, hkind]; rfl),
    skipFields_token hnine.not_space 1 (hprofile.head?_append _),
    skipFields_token hprofile.not_space 0 ((token_decimal _).head?_append _)]
  show (parseU32 ((decimal pt.toNat).bytes ++ [0x0D, 0x0A]) 0).1.toUInt8 = pt
  rw [parseU32_decimal pt.toNat fun d hd => by
    obtain rfl := Option.some.inj hd
    rfl]
  apply UInt8.toNat_inj.mp
  have hlt := pt.toNat_lt
  rw [UInt32.toNat_toUInt8, UInt32.toNat_ofNat']
  omega

/-- What the lines of a media section start with that state no direction. -/
def quietTags : List String :=
  ["c=", "a=mid:", "a=ice-", "a=fingerprint:", "a=setup:", "a=rtcp-", "a=rtpmap:", "a=fmtp:",
    "a=ptime:", "a=extmap:", "a=candidate:"]

theorem TaggedIn.no_direction {ls : List LineText} (h : TaggedIn quietTags ls) :
    (ls.map crlf).filterMap parseDirection = [] := by
  rw [List.filterMap_eq_nil_iff]
  intro line hline
  obtain ⟨l, hl, rfl⟩ := List.mem_map.mp hline
  obtain ⟨tag, htag, hstart⟩ := h l hl
  have hunlike : ∀ tag ∈ quietTags, Unlike tag "a=sendonly" ∧ Unlike tag "a=recvonly" ∧
      Unlike tag "a=inactive" ∧ Unlike tag "a=sendrecv" := by decide
  obtain ⟨hsendonly, hrecvonly, hinactive, hsendrecv⟩ := hunlike tag htag
  unfold parseDirection
  rw [hsendonly.not_start hstart, hrecvonly.not_start hstart, hinactive.not_start hstart,
    hsendrecv.not_start hstart]
  rfl

theorem taggedIn_transport (sdp : NanoSdp) : TaggedIn quietTags (sdpTransportAttrs sdp) := by
  unfold sdpTransportAttrs
  refine ((TaggedIn.cons "a=ice-" (by decide) rfl
    (.cons "a=ice-" (by decide) rfl taggedIn_nil)).append ?_).append ?_
  · split
    · exact .cons "a=fingerprint:" (by decide) rfl taggedIn_nil
    · exact taggedIn_nil
  · cases sdp.localSetup with
    | passive => exact .cons "a=setup:" (by decide) rfl taggedIn_nil
    | active => exact .cons "a=setup:" (by decide) rfl taggedIn_nil
    | actpass => exact .cons "a=setup:" (by decide) rfl taggedIn_nil

/-- The lines of a media section: one of them states its direction. -/
theorem sectionLines_direction (sdp : NanoSdp) {e : SdpEntry} {i : Nat} (h : e.mline = some i) :
    ∃ back, sdpSectionLines sdp e = sectionHead sdp e :: ([sdpConnectionLine sdp, sdpMidLine e.mid,
        sdpDirectionLine (sdp.mlines.getD i default).direction] ++ back) ∧
      TaggedIn quietTags back := by
  have hmedia (ml : SdpMline) (kind : LineText) {codec : List LineText}
      (hcodec : TaggedIn quietTags codec) :
      ∃ back, sdpMediaMline sdp ml kind e.mid ++ codec =
          (kind ++ .lit " 9 UDP/TLS/RTP/SAVPF " ++ decimal ml.pt.toNat) ::
            ([sdpConnectionLine sdp, sdpMidLine e.mid, sdpDirectionLine ml.direction] ++ back) ∧
        TaggedIn quietTags back := by
    refine ⟨sdpTransportAttrs sdp ++ ([.lit "a=rtcp-mux"] ++ codec), ?_, ?_⟩
    · unfold sdpMediaMline
      simp only [List.append_assoc, List.cons_append, List.nil_append]
    · exact (taggedIn_transport sdp).append
        ((TaggedIn.cons "a=rtcp-" (by decide) rfl taggedIn_nil).append hcodec)
  unfold sdpSectionLines sectionHead
  rw [h]
  dsimp only
  generalize sdp.mlines.getD i default = ml
  cases ml.kind with
  | audio =>
    unfold sdpAudioMline
    dsimp only
    rw [List.append_assoc]
    refine hmedia ml (.lit "m=audio")
      (.append (.cons "a=rtpmap:" (by decide) rfl taggedIn_nil) ?_)
    split
    · exact .cons "a=fmtp:" (by decide) rfl
        (.cons "a=ptime:" (by decide) rfl taggedIn_nil)
    · exact taggedIn_nil
  | video =>
    unfold sdpVideoMline
    dsimp only
    rw [List.append_assoc]
    refine hmedia ml (.lit "m=video") (.append
      (.cons "a=rtpmap:" (by decide) rfl (.cons "a=fmtp:" (by decide) rfl
        (.cons "a=rtcp-" (by decide) rfl
          (.cons "a=rtcp-" (by decide) rfl taggedIn_nil)))) ?_)
    split
    · exact .cons "a=extmap:" (by decide) rfl taggedIn_nil
    · exact taggedIn_nil

theorem parseDirection_line (dir : Direction) :
    parseDirection (crlf (sdpDirectionLine dir)) = some dir := by
  cases dir <;> decide

/-- A media section states the direction that it was written with, and no other. -/
theorem filterMap_parseDirection (sdp : NanoSdp) (x : SdpEntry × Nat) {i : Nat}
    (h : x.1.mline = some i) :
    (writtenSection sdp x).body.filterMap parseDirection =
      [(sdp.mlines.getD i default).direction] := by
  obtain ⟨back, hlines, hback⟩ := sectionLines_direction sdp h
  have hfront : TaggedIn quietTags [sdpConnectionLine sdp, sdpMidLine x.1.mid] := by
    refine .cons "c=" (by decide) ?_ (.cons "a=mid:" (by decide) rfl taggedIn_nil)
    unfold sdpConnectionLine
    split <;> rfl
  have hcandidates : TaggedIn quietTags (if x.2 = 0 then sdpCandidateLines sdp else []) := by
    split
    · exact fun l hl => ⟨"a=candidate:", by decide, candidateLine_start sdp hl⟩
    · exact taggedIn_nil
  have hbody : (writtenSection sdp x).body =
      [sdpConnectionLine sdp, sdpMidLine x.1.mid].map crlf ++
        (crlf (sdpDirectionLine (sdp.mlines.getD i default).direction) ::
          (back ++ if x.2 = 0 then sdpCandidateLines sdp else []).map crlf) := by
    unfold writtenSection sdpEntryLines
    rw [hlines]
    simp only [List.map_append, List.cons_append, List.tail_cons, List.map_cons, List.nil_append,
      List.map_nil]
  rw [hbody, List.filterMap_append, hfront.no_direction,
    List.filterMap_cons_some (parseDirection_line _), (hback.append hcandidates).no_direction]
  rfl

theorem mediaKind_head (sdp : NanoSdp) (e : SdpEntry) :
    mediaKind (crlf (sectionHead sdp e)) =
      e.mline.map fun i => (sdp.mlines.getD i default).kind := by
  unfold sectionHead
  cases e.mline with
  | none => rfl
  | some i =>
    show _ = some (sdp.mlines.getD i default).kind
    dsimp only
    cases (sdp.mlines.getD i default).kind <;> rfl

/-- The media line that is read from a media section. -/
theorem sectionMline_written (sdp : NanoSdp) (x : SdpEntry × Nat) {i : Nat} (h : x.1.mline = some i)
    (pos : UInt8) (kind : TrackKind) :
    (sectionMline pos (writtenSection sdp x) kind).kind = kind ∧
      (sectionMline pos (writtenSection sdp x) kind).mid = pos ∧
      (sectionMline pos (writtenSection sdp x) kind).remotePt = (sdp.mlines.getD i default).pt ∧
      (sectionMline pos (writtenSection sdp x) kind).remoteDirection =
        (sdp.mlines.getD i default).direction := by
  have hhead : (writtenSection sdp x).head = crlf (sectionHead sdp x.1) := by
    obtain ⟨back, hlines, -⟩ := sectionLines_direction sdp h
    unfold writtenSection sdpEntryLines
    rw [hlines]
    rfl
  have hpt : parseMlineFirstPt (crlf (sectionHead sdp x.1)) 8 = (sdp.mlines.getD i default).pt := by
    unfold sectionHead
    rw [h]
    dsimp only
    cases (sdp.mlines.getD i default).kind with
    | audio => exact parseMlineFirstPt_head (by decide) _
    | video => exact parseMlineFirstPt_head (by decide) _
  unfold sectionMline
  rw [foldl_parseAttr, filterMap_parseDirection sdp x h, hhead]
  exact ⟨rfl, rfl, hpt, rfl⟩

end Nanortc.Spec
