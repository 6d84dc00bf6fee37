import Mathlib
import Nanortc.ForStd.Serial
import Nanortc.Native.Twcc

/-!
# Transport-wide feedback is decoded exactly

The grammar of a feedback packet: chunks until every packet has a status, a delta for each packet
that was received, and padding to a whole word. The parser accepts what the grammar derives and
calls the callback once for each packet. A packet that reports on none is accepted for its header.

The deltas are read as the callback is called, so that a packet that ends in the middle of its
deltas, or goes on behind them, has been reported in part when it is rejected.

## Key results

- `parseChunks_sound`, `parseChunks_complete`: the statuses are those of the grammar
- `twccDeltas_sound`, `twccDeltas_complete`: so are the deltas
- `twccParseFeedback_exact`: what a call returns and what it has reported
-/

namespace Nanortc.Spec

open Nanortc.ForStd Nanortc.Native

/-! ### The grammar -/

/-- The symbols of a chunk: a run of one of them, 14 of one bit or 7 of two bits. -/
def chunkSymbols (chunk : UInt16) : List TwccStatus :=
  if chunk &&& 0x8000 = 0 then
    List.replicate (chunk &&& 0x1FFF).toNat (.ofBits ((chunk >>> 13) &&& 3))
  else if chunk &&& 0x4000 = 0 then
    (List.range 14).map fun i => .ofBits ((chunk >>> UInt16.ofNat (13 - i)) &&& 1)
  else
    (List.range 7).map fun i => .ofBits ((chunk >>> UInt16.ofNat (12 - 2 * i)) &&& 3)

/-- The chunks of `n` packets in front of a byte string, with their statuses and what follows. -/
inductive Chunks : Nat → List UInt8 → List TwccStatus → List UInt8 → Prop
  | done (bs : List UInt8) : Chunks 0 bs [] bs
  | chunk {n : Nat} {bs rest : List UInt8} {statuses : List TwccStatus} (chunk : UInt16)
    (some : chunkSymbols chunk ≠ []) (known : .reserved ∉ (chunkSymbols chunk).take (n + 1))
    (more : Chunks (n + 1 - (chunkSymbols chunk).length) bs statuses rest) :
    Chunks (n + 1) (u16be chunk ++ bs) ((chunkSymbols chunk).take (n + 1) ++ statuses) rest

/-- The deltas of packets in front of a byte string, in microseconds, with what follows. -/
inductive Deltas : List TwccStatus → List UInt8 → List Int → List UInt8 → Prop
  | nil (bs : List UInt8) : Deltas [] bs [] bs
  | lost {statuses : List TwccStatus} {bs rest : List UInt8} {deltas : List Int}
    (more : Deltas statuses bs deltas rest) :
    Deltas (.notReceived :: statuses) bs (0 :: deltas) rest
  | small {statuses : List TwccStatus} {bs rest : List UInt8} {deltas : List Int} (b : UInt8)
    (more : Deltas statuses bs deltas rest) :
    Deltas (.smallDelta :: statuses) (b :: bs) (b.toNat * 250 :: deltas) rest
  | large {statuses : List TwccStatus} {bs rest : List UInt8} {deltas : List Int} (w : UInt16)
    (more : Deltas statuses bs deltas rest) :
    Deltas (.largeDelta :: statuses) (u16be w ++ bs) (i16 w * 250 :: deltas) rest

/-- Size of a feedback packet. -/
def feedbackSize (data : List UInt8) : Nat := ((readU16be data 2).toNat + 1) * 4

/-- Number of packets it reports on. -/
def feedbackCount (data : List UInt8) : Nat := (readU16be data 14).toNat

/-- What follows its header. -/
def feedbackBody (data : List UInt8) : List UInt8 := (data.take (feedbackSize data)).drop 20

/-- The header of a feedback packet. -/
structure FeedbackHeader (data : List UInt8) : Prop where
  version : byteAt data 0 >>> 6 = 2
  format : byteAt data 0 &&& 0x1F = twccFmt
  type : byteAt data 1 = rtcpRtpfb
  size : 20 ≤ feedbackSize data ∧ feedbackSize data ≤ data.length
  count : feedbackCount data ≤ twccMaxPacketsPerFb

/-- A feedback packet with the statuses and deltas it reports. -/
structure Feedback (data : List UInt8) (statuses : List TwccStatus) (deltas : List Int) : Prop where
  header : FeedbackHeader data
  body : ∃ rest pad, Chunks (feedbackCount data) (feedbackBody data) statuses rest ∧
    Deltas statuses rest deltas pad ∧ (feedbackCount data = 0 ∨ pad.length ≤ 3)

/-- The summary of a feedback packet. -/
def feedbackSummary (data : List UInt8) (statuses : List TwccStatus) : TwccSummary where
  senderSsrc := readU32be data 4
  mediaSsrc := readU32be data 8
  baseSeq := readU16be data 12
  packetStatusCount := readU16be data 14
  referenceTimeUs := twccRefRaw data * twccRefTimeUnitUs
  fbPktCount := byteAt data 19
  receivedCount := statuses.countP (· ≠ TwccStatus.notReceived)

/-- The calls that report packets from a sequence number on. -/
def feedbackCalls : UInt16 → List TwccStatus → List Int → List TwccCall
  | seq, status :: statuses, delta :: deltas =>
    ⟨seq, status, delta⟩ :: feedbackCalls (seq + 1) statuses deltas
  | _, _, _ => []

/-! ### Chunks -/

theorem and_one_cases (x : UInt16) : x &&& 1 = 0 ∨ x &&& 1 = 1 := by
  have hbit : (x &&& 1).toNat = x.toNat % 2 := by
    rw [UInt16.toNat_and]
    exact Nat.and_one_is_mod x.toNat
  rcases Nat.mod_two_eq_zero_or_one x.toNat with h | h
  · exact .inl (UInt16.toNat_inj.mp (hbit.trans h))
  · exact .inr (UInt16.toNat_inj.mp (hbit.trans h))

/-- The parser takes as many of the symbols of a chunk as it has packets left. -/
theorem twccChunk_eq (chunk : UInt16) (n : Nat) : twccChunk chunk (n + 1) =
    if chunkSymbols chunk = [] ∨ .reserved ∈ (chunkSymbols chunk).take (n + 1) then .error .parse
    else .ok ((chunkSymbols chunk).take (n + 1)) := by
  unfold twccChunk chunkSymbols
  by_cases hrun : chunk &&& 0x8000 = 0
  · simp only [if_pos hrun, List.replicate_eq_nil_iff, List.take_replicate]
    by_cases hzero : (chunk &&& 0x1FFF).toNat = 0
    · rw [if_pos hzero, if_pos (.inl hzero)]
    rw [if_neg hzero, Nat.min_comm]
    refine if_congr ?_ rfl rfl
    rw [or_iff_right hzero, List.mem_replicate, and_iff_right (by omega), eq_comm]
  simp only [if_neg hrun]
  by_cases hbits : chunk &&& 0x4000 = 0
  · simp only [if_pos hbits, ← List.map_take, List.take_range]
    have hsymbol (i : Nat) :
        TwccStatus.ofBits ((chunk >>> UInt16.ofNat (13 - i)) &&& 1) =
          if (chunk >>> UInt16.ofNat (13 - i)) &&& 0x1 ≠ 0 then .smallDelta else .notReceived := by
      rcases and_one_cases (chunk >>> UInt16.ofNat (13 - i)) with h | h <;> rw [h] <;> rfl
    simp only [hsymbol, Nat.min_comm (n + 1) 14]
    rw [if_neg]
    rintro (hcon | hcon)
    · exact nomatch hcon
    · obtain ⟨i, -, hcon⟩ := List.mem_map.mp hcon
      split at hcon <;> exact nomatch hcon
  · have hshift (i : Nat) : 12 - 2 * i = (6 - i) * 2 := by omega
    simp only [if_neg hbits, ← List.map_take, List.take_range, hshift, Nat.min_comm (n + 1) 7]
    refine if_congr (or_iff_right ?_).symm rfl rfl
    nofun

section

variable {data : List UInt8} {size off : Nat} (hsize : size ≤ data.length)
include hsize

theorem drop_take_one (h : off + 1 ≤ size) :
    (data.take size).drop off = byteAt data off :: (data.take size).drop (off + 1) := by
  rw [drop_eq_byteAt_cons (by rw [List.length_take]; omega), byteAt_take (by omega)]

theorem drop_take_two (h : off + 2 ≤ size) : (data.take size).drop off =
    u16be (readU16be data off) ++ (data.take size).drop (off + 2) := by
  rw [drop_take_one hsize (by omega), drop_take_one hsize h, u16be_readU16be]
  rfl

theorem le_of_drop_take {bs : List UInt8} (hoff : off ≤ size)
    (h : (data.take size).drop off = bs) : off + bs.length = size := by
  have hlen := congrArg List.length h
  rw [List.length_drop, List.length_take] at hlen
  omega

/-- A word in front of the rest is the one that is read. -/
theorem drop_take_word {w : UInt16} {bs : List UInt8} (hoff : off ≤ size)
    (h : (data.take size).drop off = u16be w ++ bs) : off + 2 ≤ size ∧
      readU16be data off = w ∧ (data.take size).drop (off + 2) = bs := by
  have hlen := le_of_drop_take hsize hoff h
  rw [List.length_append] at hlen
  have htwo : (u16be w).length = 2 := rfl
  have hle : off + 2 ≤ size := by omega
  rw [drop_take_two hsize hle] at h
  obtain ⟨hword, hrest⟩ := List.append_inj h rfl
  refine ⟨hle, ?_, hrest⟩
  rw [← readU16be_u16be (readU16be data off) [], hword, readU16be_u16be]

/-- **What the parser reads is in the grammar.** -/
theorem parseChunks_sound {turns n off' : Nat} {statuses : List TwccStatus} (hn : n ≤ turns)
    (hoff : off ≤ size) (h : parseChunks data size turns n off = .ok (statuses, off')) :
    off' ≤ size ∧
      Chunks n ((data.take size).drop off) statuses ((data.take size).drop off') := by
  induction turns generalizing n off statuses with
  | zero =>
    cases h
    obtain rfl : n = 0 := by omega
    exact ⟨hoff, .done _⟩
  | succ turns ih =>
    unfold parseChunks at h
    cases n with
    | zero =>
      cases h
      exact ⟨hoff, .done _⟩
    | succ n =>
      rw [if_neg (Nat.succ_ne_zero n)] at h
      split at h
      · exact nomatch h
      rename_i hroom
      have hroom : off + 2 ≤ size := Nat.not_lt.mp hroom
      rw [twccChunk_eq] at h
      split at h
      · exact nomatch h
      rename_i hok
      rw [not_or] at hok
      obtain ⟨hsome, hknown⟩ := hok
      have hlen := List.length_pos_of_ne_nil hsome
      have hleft : n + 1 - ((chunkSymbols (readU16be data off)).take (n + 1)).length =
          n + 1 - (chunkSymbols (readU16be data off)).length := by
        rw [List.length_take]
        omega
      dsimp only [bind, Except.bind] at h
      rw [hleft] at h
      cases hmore : parseChunks data size turns
          (n + 1 - (chunkSymbols (readU16be data off)).length) (off + 2) with
      | error rc =>
        rw [hmore] at h
        exact nomatch h
      | ok more =>
        rw [hmore] at h
        cases h
        obtain ⟨hle, hchunks⟩ := ih (by omega) hroom hmore
        refine ⟨hle, ?_⟩
        rw [drop_take_two hsize hroom]
        exact .chunk _ hsome hknown hchunks

/-- **What is in the grammar is read.** -/
theorem parseChunks_complete {turns n : Nat} {bs rest : List UInt8} {statuses : List TwccStatus}
    (h : Chunks n bs statuses rest) (hn : n ≤ turns) (hoff : off ≤ size)
    (hbs : (data.take size).drop off = bs) : ∃ off' ≤ size,
      parseChunks data size turns n off = .ok (statuses, off') ∧
        (data.take size).drop off' = rest := by
  induction h generalizing turns off with
  | done bs =>
    refine ⟨off, hoff, ?_, hbs⟩
    cases turns <;> rfl
  | @chunk n bs rest statuses chunk hsome hknown more ih =>
    obtain ⟨hroom, hword, hnext⟩ := drop_take_word hsize hoff hbs
    have hlen := List.length_pos_of_ne_nil hsome
    have hleft : n + 1 - ((chunkSymbols chunk).take (n + 1)).length =
        n + 1 - (chunkSymbols chunk).length := by
      rw [List.length_take]
      omega
    cases turns with
    | zero => omega
    | succ turns =>
      obtain ⟨off', hle, hmore, hrest⟩ := @ih _ turns (by omega) hroom hnext
      refine ⟨off', hle, ?_, hrest⟩
      unfold parseChunks
      rw [if_neg (Nat.succ_ne_zero n), if_neg (Nat.not_lt.mpr hroom), hword, twccChunk_eq,
        if_neg (not_or.mpr ⟨hsome, hknown⟩)]
      dsimp only [bind, Except.bind]
      rw [hleft, hmore]

end

theorem Chunks.known {n : Nat} {bs rest : List UInt8} {statuses : List TwccStatus}
    (h : Chunks n bs statuses rest) : .reserved ∉ statuses := by
  induction h with
  | done => nofun
  | chunk chunk some known more ih =>
    rw [List.mem_append, not_or]
    exact ⟨known, ih⟩

/-! ### Deltas -/

theorem signed_eq (w : UInt16) :
    (if w &&& 0x8000 ≠ 0 then (w.toNat : Int) - 0x10000 else w.toNat) = i16 w := by
  have hlt := w.toNat_lt
  have hbit : (w &&& 0x8000).toNat = w.toNat / 2 ^ 15 % 2 * 2 ^ 15 := by
    rw [UInt16.toNat_and]
    show w.toNat &&& 2 ^ 15 = _
    rw [Nat.and_two_pow, Nat.toNat_testBit]
  have hsign : w &&& 0x8000 ≠ 0 ↔ 2 ^ 15 ≤ w.toNat := by
    rw [ne_eq, ← UInt16.toNat_inj, hbit]
    show ¬w.toNat / 2 ^ 15 % 2 * 2 ^ 15 = 0 ↔ _
    omega
  rw [i16_eq]
  by_cases hneg : 2 ^ 15 ≤ w.toNat
  · rw [if_pos (hsign.mpr hneg), if_neg (Nat.not_lt.mpr hneg)]
    rfl
  · rw [if_neg (mt hsign.mp hneg), if_pos (Nat.not_le.mp hneg)]

section

variable {data : List UInt8} {size : Nat} (hsize : size ≤ data.length)
include hsize

/-- One delta. -/
theorem twccDelta_some {off : Nat} {status : TwccStatus} (hknown : status ≠ .reserved)
    (hoff : off ≤ size) {delta : Int} {off' : Nat}
    (h : twccDelta data size off status = some (delta, off')) :
    off' ≤ size ∧ ∀ {statuses deltas rest},
      Deltas statuses ((data.take size).drop off') deltas rest →
      Deltas (status :: statuses) ((data.take size).drop off) (delta :: deltas) rest := by
  cases status with
  | notReceived =>
    cases h
    exact ⟨hoff, .lost⟩
  | smallDelta =>
    unfold twccDelta at h
    dsimp only at h
    split at h
    · exact nomatch h
    · rename_i hroom
      cases h
      have hroom : off + 1 ≤ size := Nat.not_lt.mp hroom
      refine ⟨hroom, fun hmore => ?_⟩
      rw [drop_take_one hsize hroom]
      exact .small _ hmore
  | largeDelta =>
    unfold twccDelta at h
    dsimp only at h
    split at h
    · exact nomatch h
    · rename_i hroom
      cases h
      have hroom : off + 2 ≤ size := Nat.not_lt.mp hroom
      refine ⟨hroom, fun hmore => ?_⟩
      rw [drop_take_two hsize hroom, signed_eq]
      exact .large _ hmore
  | reserved => exact absurd rfl hknown

/-- **The deltas that were read are in the grammar**: all of them, or those in front of the first
one that is not there. -/
theorem twccDeltas_sound {statuses : List TwccStatus} (hknown : .reserved ∉ statuses)
    (seq : UInt16) {off : Nat} (hoff : off ≤ size) : ∃ k deltas, ∃ off' ≤ size,
      Deltas (statuses.take k) ((data.take size).drop off) deltas ((data.take size).drop off') ∧
      (twccDeltas data size statuses seq off).1 = feedbackCalls seq (statuses.take k) deltas ∧
      ((twccDeltas data size statuses seq off).2 = none ∨
        (twccDeltas data size statuses seq off).2 = some off' ∧ statuses.length ≤ k) := by
  induction statuses generalizing seq off with
  | nil => exact ⟨0, [], off, hoff, .nil _, rfl, .inr ⟨rfl, Nat.le_refl 0⟩⟩
  | cons status statuses ih =>
    rw [List.mem_cons, not_or] at hknown
    unfold twccDeltas
    cases hdelta : twccDelta data size off status with
    | none => exact ⟨0, [], off, hoff, .nil _, rfl, .inl rfl⟩
    | some found =>
      obtain ⟨delta, off₁⟩ := found
      obtain ⟨hle, hstep⟩ := twccDelta_some hsize (Ne.symm hknown.1) hoff hdelta
      obtain ⟨k, deltas, off', hle', hdeltas, hcalls, hend⟩ := ih hknown.2 (seq + 1) hle
      refine ⟨k + 1, delta :: deltas, off', hle', hstep hdeltas, ?_, ?_⟩
      · show _ :: _ = _ :: _
        rw [hcalls]
      · exact hend.imp_right fun ⟨hsome, hlen⟩ => ⟨hsome, Nat.succ_le_succ hlen⟩

/-- **Deltas in the grammar are read.** -/
theorem twccDeltas_complete {statuses : List TwccStatus} {bs rest : List UInt8} {deltas : List Int}
    (h : Deltas statuses bs deltas rest) (seq : UInt16) {off : Nat} (hoff : off ≤ size)
    (hbs : (data.take size).drop off = bs) : ∃ off' ≤ size,
      twccDeltas data size statuses seq off = (feedbackCalls seq statuses deltas, some off') ∧
        (data.take size).drop off' = rest := by
  induction h generalizing seq off with
  | nil bs => exact ⟨off, hoff, rfl, hbs⟩
  | lost more ih =>
    obtain ⟨off', hle, hmore, hrest⟩ := ih (seq + 1) hoff hbs
    refine ⟨off', hle, ?_, hrest⟩
    unfold twccDeltas
    show (_ :: (twccDeltas data size _ (seq + 1) off).1, (twccDeltas data size _ (seq + 1) off).2) = _
    rw [hmore]
    rfl
  | small b more ih =>
    have hlen := le_of_drop_take hsize hoff hbs
    rw [List.length_cons] at hlen
    have hroom : off + 1 ≤ size := by omega
    rw [drop_take_one hsize hroom] at hbs
    injection hbs with hbyte hnext
    obtain ⟨off', hle, hmore, hrest⟩ := ih (seq + 1) hroom hnext
    refine ⟨off', hle, ?_, hrest⟩
    unfold twccDeltas twccDelta
    rw [if_neg (Nat.not_lt.mpr hroom), hbyte]
    show (_ :: (twccDeltas data size _ (seq + 1) _).1, (twccDeltas data size _ (seq + 1) _).2) = _
    rw [hmore]
    rfl
  | large w more ih =>
    obtain ⟨hroom, hword, hnext⟩ := drop_take_word hsize hoff hbs
    obtain ⟨off', hle, hmore, hrest⟩ := ih (seq + 1) hroom hnext
    refine ⟨off', hle, ?_, hrest⟩
    unfold twccDeltas twccDelta
    dsimp only
    rw [if_neg (Nat.not_lt.mpr hroom), hword, signed_eq]
    show (_ :: (twccDeltas data size _ (seq + 1) _).1, (twccDeltas data size _ (seq + 1) _).2) = _
    rw [hmore]
    rfl

end

/-! ### The packet -/

/-- The calls that were made before a packet was rejected: none, or those of the packets in front of
the first delta that is not there, or of all packets. -/
def FiredBefore (data : List UInt8) (calls : List TwccCall) : Prop :=
  calls = [] ∨ ∃ statuses rest k deltas pad, FeedbackHeader data ∧
    Chunks (feedbackCount data) (feedbackBody data) statuses rest ∧
    Deltas (statuses.take k) rest deltas pad ∧
    calls = feedbackCalls (readU16be data 12) (statuses.take k) deltas

/-- The checks of the header. -/
theorem twccParseFeedback_header (data : List UInt8) :
    (∃ rc, twccParseFeedback data = ([], .error rc)) ∧ ¬FeedbackHeader data ∨
    FeedbackHeader data ∧ twccParseFeedback data =
      if feedbackCount data = 0 then ([], .ok (feedbackSummary data []))
      else
        match parseChunks data (feedbackSize data) (feedbackCount data) (feedbackCount data) 20 with
        | .error rc => ([], .error rc)
        | .ok (statuses, off) =>
          match twccDeltas data (feedbackSize data) statuses (readU16be data 12) off with
          | (calls, none) => (calls, .error .parse)
          | (calls, some off) =>
            if feedbackSize data - off > 3 then (calls, .error .parse)
            else (calls, .ok (feedbackSummary data statuses)) := by
  unfold twccParseFeedback
  by_cases hlen : data.length < 20
  · rw [if_pos hlen]
    refine .inl ⟨⟨_, rfl⟩, fun h => ?_⟩
    have hsize := h.size
    omega
  rw [if_neg hlen]
  by_cases hversion : byteAt data 0 >>> 6 ≠ 2
  · rw [if_pos hversion]
    exact .inl ⟨⟨_, rfl⟩, fun h => hversion h.version⟩
  rw [if_neg hversion]
  by_cases hformat : byteAt data 0 &&& 0x1F ≠ twccFmt
  · rw [if_pos hformat]
    exact .inl ⟨⟨_, rfl⟩, fun h => hformat h.format⟩
  rw [if_neg hformat]
  by_cases htype : byteAt data 1 ≠ rtcpRtpfb
  · rw [if_pos htype]
    exact .inl ⟨⟨_, rfl⟩, fun h => htype h.type⟩
  rw [if_neg htype]
  have hsizeEq : ((readU16be data 2).toNat + 1) * 4 = feedbackSize data := rfl
  have hcountEq : (readU16be data 14).toNat = feedbackCount data := rfl
  simp only [hsizeEq, hcountEq]
  by_cases hsize : feedbackSize data > data.length ∨ feedbackSize data < 20
  · rw [if_pos hsize]
    refine .inl ⟨⟨_, rfl⟩, fun h => ?_⟩
    have hsize' := h.size
    omega
  rw [if_neg hsize]
  by_cases hzero : feedbackCount data = 0
  · rw [if_pos hzero]
    refine .inr ⟨⟨not_not.mp hversion, not_not.mp hformat, not_not.mp htype, by omega, ?_⟩, ?_⟩
    · rw [hzero]
      exact Nat.zero_le _
    · rw [if_pos hzero]
      rfl
  rw [if_neg hzero]
  by_cases hcount : feedbackCount data > twccMaxPacketsPerFb
  · rw [if_pos hcount]
    exact .inl ⟨⟨_, rfl⟩, fun h => Nat.not_le.mpr hcount h.count⟩
  rw [if_neg hcount]
  refine .inr ⟨⟨not_not.mp hversion, not_not.mp hformat, not_not.mp htype, by omega,
    Nat.not_lt.mp hcount⟩, ?_⟩
  rw [if_neg hzero]
  rfl

theorem drop_size_length {data : List UInt8} {off : Nat} (h : FeedbackHeader data) :
    ((data.take (feedbackSize data)).drop off).length = feedbackSize data - off := by
  rw [List.length_drop, List.length_take, Nat.min_eq_left h.size.2]

/-- A packet of the grammar is accepted. -/
theorem twccParseFeedback_complete {data : List UInt8} {statuses : List TwccStatus}
    {deltas : List Int} (h : Feedback data statuses deltas) : twccParseFeedback data =
      (feedbackCalls (readU16be data 12) statuses deltas, .ok (feedbackSummary data statuses)) := by
  obtain ⟨rest, pad, hchunks, hdeltas, hpad⟩ := h.body
  obtain ⟨-, hnot⟩ | ⟨-, heq⟩ := twccParseFeedback_header data
  · exact absurd h.header hnot
  rw [heq]
  by_cases hzero : feedbackCount data = 0
  · rw [hzero] at hchunks
    cases hchunks
    cases hdeltas
    rw [if_pos hzero]
    rfl
  rw [if_neg hzero]
  have hsize := h.header.size
  obtain ⟨off, hoff, hparse, hrest⟩ :=
    parseChunks_complete hsize.2 hchunks (Nat.le_refl _) hsize.1 rfl
  obtain ⟨off', hoff', hread, hlast⟩ :=
    twccDeltas_complete hsize.2 hdeltas (readU16be data 12) hoff hrest
  have hlen : pad.length = feedbackSize data - off' := by
    rw [← hlast, drop_size_length h.header]
  rw [hparse]
  dsimp only
  rw [hread]
  dsimp only
  rw [if_neg (by omega)]

/-- An accepted packet is in the grammar, and a rejected one has been reported in part. -/
theorem twccParseFeedback_sound (data : List UInt8) :
    (∃ statuses deltas, Feedback data statuses deltas) ∨
      ∃ rc, (twccParseFeedback data).2 = .error rc ∧
        FiredBefore data (twccParseFeedback data).1 := by
  obtain ⟨⟨rc, heq⟩, -⟩ | ⟨hheader, heq⟩ := twccParseFeedback_header data
  · rw [heq]
    exact .inr ⟨rc, rfl, .inl rfl⟩
  have hsize := hheader.size
  by_cases hzero : feedbackCount data = 0
  · refine .inl ⟨[], [], hheader, feedbackBody data, feedbackBody data, ?_, .nil _, .inl hzero⟩
    rw [hzero]
    exact .done _
  rw [if_neg hzero] at heq
  cases hparse : parseChunks data (feedbackSize data) (feedbackCount data) (feedbackCount data)
      20 with
  | error rc =>
    rw [hparse] at heq
    rw [heq]
    exact .inr ⟨rc, rfl, .inl rfl⟩
  | ok read =>
    obtain ⟨statuses, off⟩ := read
    obtain ⟨hoff, hchunks⟩ := parseChunks_sound hsize.2 (Nat.le_refl _) hsize.1 hparse
    obtain ⟨k, deltas, off', hoff', hdeltas, hcalls, hend⟩ :=
      twccDeltas_sound hsize.2 hchunks.known (readU16be data 12) hoff
    have hfired : FiredBefore data
        (twccDeltas data (feedbackSize data) statuses (readU16be data 12) off).1 :=
      .inr ⟨statuses, _, k, deltas, _, hheader, hchunks, hdeltas, hcalls⟩
    rw [hparse] at heq
    dsimp only at heq
    revert heq hfired hend
    generalize twccDeltas data (feedbackSize data) statuses (readU16be data 12) off = r
    obtain ⟨calls, final⟩ := r
    intro heq hend hfired
    obtain hnone | ⟨hsome, hall⟩ := hend
    · cases hnone
      rw [heq]
      exact .inr ⟨_, rfl, hfired⟩
    · cases hsome
      dsimp only at heq
      by_cases htrail : feedbackSize data - off' > 3
      · rw [if_pos htrail] at heq
        rw [heq]
        exact .inr ⟨_, rfl, hfired⟩
      · rw [List.take_of_length_le hall] at hdeltas
        refine .inl ⟨statuses, deltas, hheader, _, _, hchunks, hdeltas, .inr ?_⟩
        rw [drop_size_length hheader]
        exact Nat.not_lt.mp htrail

/-- **Feedback is decoded exactly**: a packet of the grammar is accepted with its summary and has
been reported packet by packet; any other is rejected, and no packet behind the first missing delta
has been reported. -/
theorem twccParseFeedback_exact (data : List UInt8) :
    (∀ statuses deltas, Feedback data statuses deltas → twccParseFeedback data =
      (feedbackCalls (readU16be data 12) statuses deltas, .ok (feedbackSummary data statuses))) ∧
    ((∀ statuses deltas, ¬Feedback data statuses deltas) →
      ∃ rc, (twccParseFeedback data).2 = .error rc ∧
        FiredBefore data (twccParseFeedback data).1) := by
  refine ⟨fun _ _ => twccParseFeedback_complete, fun hnone => ?_⟩
  obtain ⟨statuses, deltas, h⟩ | hrejected := twccParseFeedback_sound data
  · exact absurd h (hnone statuses deltas)
  · exact hrejected

/-- Two packets with one delta of one byte each, and a word too many behind them. -/
def demoTrailing : List UInt8 :=
  [0x8F, 205, 0, 6, 0, 0, 0, 1, 0, 0, 0, 2, 0, 7, 0, 2, 0, 0, 1, 0, 0x20, 2, 4, 8, 0, 0, 0, 0]

/-- The callback has been called for a packet that is rejected. -/
theorem demoTrailing_fired : twccParseFeedback demoTrailing =
    ([⟨7, .smallDelta, 1000⟩, ⟨8, .smallDelta, 2000⟩], .error .parse) := by
  decide +kernel

end Nanortc.Spec
