import Nanortc.Spec.Checksums
import Nanortc.Spec.SctpSack

/-!
# SCTP chunks are read back

What the encoders of INIT, DATA and SACK write is read back by the parsers, also when other chunks
follow; the chunks are padded with zeros and fit the buffer. The checksum in three segments is that
of the whole packet with its checksum field zeroed.

## Key results

- `nsctpScanParams_tlv`: one turn of the parameter scan
- `nsctpParseInit_bytes`, `nsctpParseData_encode`, `nsctpParseSack_append`: the round trips
- `nsctpSegmentedChecksum_eq`: the segments are the packet with the field zeroed
- `nsctpCodec_exact`: all of it
-/

namespace Nanortc.Spec

open Nanortc.ForStd Nanortc.Native

/-! ### Padding -/

/-- Whole words, with zeros behind the declared length. -/
structure ZeroPadded (chunk : List UInt8) : Prop where
  aligned : chunk.length % 4 = 0
  declared : (readU16be chunk 2).toNat ≤ chunk.length
  close : chunk.length < (readU16be chunk 2).toNat + 4
  zeros : ∀ b ∈ chunk.drop (readU16be chunk 2).toNat, b = 0

theorem length_sctpPadded (b : List UInt8) : (sctpPadded b).length = sctpPad4 b.length := by
  unfold sctpPadded sctpPad4
  rw [List.length_append, List.length_replicate]
  omega

/-- A chunk that is filled up after its declared length. -/
theorem zeroPadded_sctpPadded {type flags : UInt8} {n : Nat} {body : List UInt8}
    (hn : 4 + body.length = n) (hmax : n ≤ 65535) :
    ZeroPadded (sctpPadded (sctpChunkHdr type flags n ++ body)) := by
  have hlen : (sctpChunkHdr type flags n ++ body).length = n := by
    rw [List.length_append, ← hn]
    rfl
  have hdeclared : (readU16be (sctpPadded (sctpChunkHdr type flags n ++ body)) 2).toNat = n := by
    have hread := @readU16be_append_u16be [type, flags] 2 rfl (UInt16.ofNat n)
      (body ++ List.replicate (sctpPad4 n - n) 0)
    unfold sctpPadded
    rw [hlen]
    unfold sctpChunkHdr
    rw [List.append_assoc, List.append_assoc, hread, UInt16.toNat_ofNat', Nat.mod_eq_of_lt (by omega)]
  have htotal := length_sctpPadded (sctpChunkHdr type flags n ++ body)
  rw [hlen] at htotal
  have hpad : n ≤ sctpPad4 n ∧ sctpPad4 n < n + 4 ∧ sctpPad4 n % 4 = 0 := by
    unfold sctpPad4
    omega
  refine ⟨by omega, by omega, by omega, fun b hb => ?_⟩
  rw [hdeclared] at hb
  unfold sctpPadded at hb
  rw [List.drop_append_of_le_length (by omega), List.drop_of_length_le (by omega)] at hb
  exact List.eq_of_mem_replicate hb

/-! ### DATA -/

/-- A DATA chunk is written when its length fits 16 bits and its words fit the buffer. -/
theorem nsctpEncodeData_eq {bufLen : Nat} {d : NsctpData}
    (h : d.payload.length ≤ 65519 ∧ sctpPad4 (16 + d.payload.length) ≤ bufLen) :
    nsctpEncodeData bufLen d = sctpPadded (sctpChunkHdr 0 d.flags (16 + d.payload.length) ++
      (u32be d.tsn ++ u16be d.streamId ++ u16be d.ssn ++ u32be d.ppid ++ d.payload)) := by
  unfold nsctpEncodeData
  rw [if_neg (by omega)]
  simp only [List.append_assoc]
  rfl

theorem nsctpEncodeData_nil {bufLen : Nat} {d : NsctpData}
    (h : ¬(d.payload.length ≤ 65519 ∧ sctpPad4 (16 + d.payload.length) ≤ bufLen)) :
    nsctpEncodeData bufLen d = [] := by
  unfold nsctpEncodeData
  rw [if_pos (by omega)]

/-- **A DATA chunk is read back.** -/
theorem nsctpParseData_encode {bufLen : Nat} {d : NsctpData}
    (h : d.payload.length ≤ 65519 ∧ sctpPad4 (16 + d.payload.length) ≤ bufLen) (rest : List UInt8) :
    nsctpParseData (nsctpEncodeData bufLen d ++ rest) = some d := by
  rw [nsctpEncodeData_eq h]
  unfold sctpPadded sctpChunkHdr
  generalize List.replicate _ (0 : UInt8) = pad
  simp only [List.append_assoc]
  have hclen := @readU16be_append_u16be [0, d.flags] 2 rfl (UInt16.ofNat (16 + d.payload.length))
    (u32be d.tsn ++ (u16be d.streamId ++ (u16be d.ssn ++ (u32be d.ppid ++
      (d.payload ++ (pad ++ rest))))))
  have htsn := @readU32be_append_u32be
    ([0, d.flags] ++ u16be (UInt16.ofNat (16 + d.payload.length))) 4 rfl d.tsn
    (u16be d.streamId ++ (u16be d.ssn ++ (u32be d.ppid ++ (d.payload ++ (pad ++ rest)))))
  have hsid := @readU16be_append_u16be
    ([0, d.flags] ++ u16be (UInt16.ofNat (16 + d.payload.length)) ++ u32be d.tsn) 8 rfl d.streamId
    (u16be d.ssn ++ (u32be d.ppid ++ (d.payload ++ (pad ++ rest))))
  have hssn := @readU16be_append_u16be
    ([0, d.flags] ++ u16be (UInt16.ofNat (16 + d.payload.length)) ++ u32be d.tsn ++
      u16be d.streamId) 10 rfl d.ssn (u32be d.ppid ++ (d.payload ++ (pad ++ rest)))
  have hppid := @readU32be_append_u32be
    ([0, d.flags] ++ u16be (UInt16.ofNat (16 + d.payload.length)) ++ u32be d.tsn ++
      u16be d.streamId ++ u16be d.ssn) 12 rfl d.ppid (d.payload ++ (pad ++ rest))
  have hpayload : List.drop 16 ([0, d.flags] ++ (u16be (UInt16.ofNat (16 + d.payload.length)) ++
      (u32be d.tsn ++ (u16be d.streamId ++ (u16be d.ssn ++ (u32be d.ppid ++
        (d.payload ++ (pad ++ rest)))))))) = d.payload ++ (pad ++ rest) := rfl
  have hlen : ([0, d.flags] ++ (u16be (UInt16.ofNat (16 + d.payload.length)) ++
      (u32be d.tsn ++ (u16be d.streamId ++ (u16be d.ssn ++ (u32be d.ppid ++
        (d.payload ++ (pad ++ rest)))))))).length = 16 + (d.payload.length + (pad ++ rest).length) := by
    simp only [List.length_append, List.length_cons, List.length_nil, length_u16be, length_u32be]
    omega
  have hflags : byteAt ([0, d.flags] ++ (u16be (UInt16.ofNat (16 + d.payload.length)) ++
      (u32be d.tsn ++ (u16be d.streamId ++ (u16be d.ssn ++ (u32be d.ppid ++
        (d.payload ++ (pad ++ rest)))))))) 1 = d.flags := rfl
  simp only [List.append_assoc] at htsn hsid hssn hppid
  generalize [0, d.flags] ++ (u16be (UInt16.ofNat (16 + d.payload.length)) ++ _) = chunk at *
  have hword : (UInt16.ofNat (16 + d.payload.length)).toNat = 16 + d.payload.length := by
    rw [UInt16.toNat_ofNat', Nat.mod_eq_of_lt (by omega)]
  unfold nsctpParseData
  rw [if_neg (by rw [hlen]; show ¬_ < 16; omega)]
  dsimp only
  rw [hclen, hword, if_neg (by omega), htsn, hsid, hssn, hppid, hflags, hpayload, Nat.add_sub_cancel_left,
    List.take_left]

/-! ### INIT and INIT-ACK -/

/-- A parameter of an INIT. -/
def initParam (type : UInt16) (value : List UInt8) : List UInt8 :=
  sctpPadded (u16be type ++ u16be (UInt16.ofNat (4 + value.length)) ++ value)

/-- What a parameter says. -/
def withParam (out : NsctpInit) (type : UInt16) (value : List UInt8) : NsctpInit :=
  { out with
    forwardTsnSupported := out.forwardTsnSupported || (type == 0xC000 && value.length == 0)
    cookie := if type = 7 then value else out.cookie }

theorem withParam_forwardTsn (out : NsctpInit) :
    withParam out 0xC000 [] = { out with forwardTsnSupported := true } := by
  show ({ out with
    forwardTsnSupported := out.forwardTsnSupported || true, cookie := out.cookie } : NsctpInit) = _
  rw [Bool.or_true]

theorem length_initParam (type : UInt16) (value : List UInt8) :
    (initParam type value).length = sctpPad4 (4 + value.length) := by
  unfold initParam
  rw [length_sctpPadded]
  simp only [List.length_append, length_u16be]

/-- **One turn of the parameter scan** reads the parameter at its place. -/
theorem nsctpScanParams_tlv {front value rest : List UInt8} {type : UInt16} {turns : Nat}
    {out : NsctpInit} (hvalue : 4 + value.length ≤ 65535)
    (hdeclared : front.length + 4 ≤ (readU16be (front ++ (initParam type value ++ rest)) 2).toNat) :
    nsctpScanParams (front ++ (initParam type value ++ rest)) (turns + 1) front.length out =
      nsctpScanParams (front ++ (initParam type value ++ rest)) turns
        (front.length + (initParam type value).length) (withParam out type value) := by
  have htype : readU16be (front ++ (initParam type value ++ rest)) front.length = type := by
    rw [← Nat.add_zero front.length, readU16be_append rfl]
    unfold initParam sctpPadded
    simp only [List.append_assoc]
    exact readU16be_u16be type _
  have hlength : (readU16be (front ++ (initParam type value ++ rest)) (front.length + 2)).toNat =
      4 + value.length := by
    rw [readU16be_append rfl]
    unfold initParam sctpPadded
    simp only [List.append_assoc]
    rw [@readU16be_append_u16be (u16be type) 2 rfl, UInt16.toNat_ofNat', Nat.mod_eq_of_lt (by omega)]
  have hbytes : (front ++ (initParam type value ++ rest)).drop (front.length + 4) =
      value ++ (List.replicate (sctpPad4 (4 + value.length) - (4 + value.length)) 0 ++ rest) := by
    rw [List.drop_length_add_append]
    unfold initParam sctpPadded
    simp only [List.append_assoc, List.length_append, length_u16be]
    have h4 : 2 + (2 + value.length) = 4 + value.length := by omega
    rw [h4]
    rfl
  have hroom : front.length + (4 + value.length) ≤ (front ++ (initParam type value ++ rest)).length := by
    rw [List.length_append, List.length_append, length_initParam]
    unfold sctpPad4
    omega
  rw [length_initParam]
  generalize front ++ (initParam type value ++ rest) = chunk at *
  conv_lhs => unfold nsctpScanParams
  rw [if_pos ⟨hdeclared, by omega⟩]
  dsimp only
  rw [htype, hlength, if_neg (by omega), hbytes, Nat.add_sub_cancel_left, List.take_left]
  congr 1
  unfold withParam
  have hfts : (4 + value.length == 4) = (value.length == 0) := by
    rw [Bool.eq_iff_iff, beq_iff_eq, beq_iff_eq]
    omega
  rw [hfts]
  by_cases h7 : type = 7
  · rw [if_pos ⟨h7, hroom⟩, if_pos h7]
  · rw [if_neg (fun h => h7 h.1), if_neg h7]

/-- The scan ends at the declared length. -/
theorem nsctpScanParams_done {chunk : List UInt8} {turns pos : Nat} {out : NsctpInit}
    (h : (readU16be chunk 2).toNat ≤ pos) : nsctpScanParams chunk turns pos out = out := by
  cases turns with
  | zero => rfl
  | succ turns =>
    unfold nsctpScanParams
    rw [if_neg (by omega)]

/-- The length of an INIT chunk. -/
def initNeed (cookie : List UInt8) : Nat :=
  24 + if cookie.length ≠ 0 then sctpPad4 (4 + cookie.length) else 0

/-- The bytes of an INIT chunk. -/
def initBytes (type : UInt8) (i : NsctpInit) : List UInt8 :=
  sctpChunkHdr type 0 (initNeed i.cookie) ++ (u32be i.initiateTag ++ (u32be i.aRwnd ++
    (u16be i.numOstreams ++ (u16be i.numIstreams ++ (u32be i.initialTsn ++
      ((if i.cookie.length ≠ 0 then initParam 7 i.cookie else []) ++ initParam 0xC000 []))))))

theorem length_initBytes (type : UInt8) (i : NsctpInit) :
    (initBytes type i).length = initNeed i.cookie := by
  have hlast : (initParam 0xC000 []).length = 4 := rfl
  unfold initBytes initNeed
  simp only [List.length_append, length_u16be, length_u32be, hlast]
  split
  · rw [length_initParam]
    show 4 + _ = _
    omega
  · rfl

theorem readU16be_initBytes {type : UInt8} {i : NsctpInit} (hmax : initNeed i.cookie ≤ 65535)
    (rest : List UInt8) : (readU16be (initBytes type i ++ rest) 2).toNat = initNeed i.cookie := by
  unfold initBytes sctpChunkHdr
  rw [List.append_assoc, List.append_assoc, @readU16be_append_u16be [type, 0] 2 rfl,
    UInt16.toNat_ofNat', Nat.mod_eq_of_lt (by omega)]

theorem nsctpEncodeInit_eq {bufLen : Nat} {type : UInt8} {i : NsctpInit}
    (h : initNeed i.cookie ≤ bufLen ∧ initNeed i.cookie ≤ 65535) :
    nsctpEncodeInit bufLen type i.initiateTag i.aRwnd i.numOstreams i.numIstreams i.initialTsn
      i.cookie = initBytes type i := by
  obtain ⟨hbuf, hmax⟩ := h
  unfold initNeed at hbuf hmax
  unfold nsctpEncodeInit
  dsimp only
  rw [if_neg (by omega)]
  simp only [List.append_assoc]
  rfl

theorem nsctpEncodeInit_nil {bufLen : Nat} {type : UInt8} {i : NsctpInit}
    (h : ¬(initNeed i.cookie ≤ bufLen ∧ initNeed i.cookie ≤ 65535)) :
    nsctpEncodeInit bufLen type i.initiateTag i.aRwnd i.numOstreams i.numIstreams i.initialTsn
      i.cookie = [] := by
  unfold initNeed at h
  unfold nsctpEncodeInit
  dsimp only
  rw [if_pos (by omega)]

/-- **An INIT is read back**, its cookie with it. -/
theorem nsctpParseInit_bytes {type : UInt8} {i : NsctpInit} (hmax : initNeed i.cookie ≤ 65535)
    (rest : List UInt8) :
    nsctpParseInit (initBytes type i ++ rest) = some { i with forwardTsnSupported := true } := by
  have hdeclared := @readU16be_initBytes type i hmax rest
  have hlen := length_initBytes type i
  have hbig : 24 ≤ initNeed i.cookie := by
    unfold initNeed
    omega
  -- the fixed part
  have htag : readU32be (initBytes type i ++ rest) 4 = i.initiateTag := by
    unfold initBytes
    simp only [List.append_assoc]
    exact readU32be_append_u32be rfl _ _
  have hrwnd : readU32be (initBytes type i ++ rest) 8 = i.aRwnd := by
    have h := @readU32be_append_u32be (sctpChunkHdr type 0 (initNeed i.cookie) ++
      u32be i.initiateTag) 8 rfl i.aRwnd
    unfold initBytes
    simp only [List.append_assoc] at h ⊢
    exact h _
  have hostreams : readU16be (initBytes type i ++ rest) 12 = i.numOstreams := by
    have h := @readU16be_append_u16be (sctpChunkHdr type 0 (initNeed i.cookie) ++
      u32be i.initiateTag ++ u32be i.aRwnd) 12 rfl i.numOstreams
    unfold initBytes
    simp only [List.append_assoc] at h ⊢
    exact h _
  have histreams : readU16be (initBytes type i ++ rest) 14 = i.numIstreams := by
    have h := @readU16be_append_u16be (sctpChunkHdr type 0 (initNeed i.cookie) ++
      u32be i.initiateTag ++ u32be i.aRwnd ++ u16be i.numOstreams) 14 rfl i.numIstreams
    unfold initBytes
    simp only [List.append_assoc] at h ⊢
    exact h _
  have htsn : readU32be (initBytes type i ++ rest) 16 = i.initialTsn := by
    have h := @readU32be_append_u32be (sctpChunkHdr type 0 (initNeed i.cookie) ++
      u32be i.initiateTag ++ u32be i.aRwnd ++ u16be i.numOstreams ++ u16be i.numIstreams) 16 rfl
      i.initialTsn
    unfold initBytes
    simp only [List.append_assoc] at h ⊢
    exact h _
  -- the parameters
  have hfront : ∃ front, front.length = 20 ∧ initBytes type i ++ rest =
      front ++ ((if i.cookie.length ≠ 0 then initParam 7 i.cookie else []) ++
        (initParam 0xC000 [] ++ rest)) := by
    refine ⟨sctpChunkHdr type 0 (initNeed i.cookie) ++ u32be i.initiateTag ++ u32be i.aRwnd ++
      u16be i.numOstreams ++ u16be i.numIstreams ++ u32be i.initialTsn, rfl, ?_⟩
    unfold initBytes
    simp only [List.append_assoc]
  have hscan (turns : Nat) (out : NsctpInit) (hcookie : out.cookie = []) :
      nsctpScanParams (initBytes type i ++ rest) (turns + 2) 20 out =
        { out with forwardTsnSupported := true, cookie := i.cookie } := by
    obtain ⟨front, hfront, heq⟩ := hfront
    rw [heq] at hdeclared ⊢
    by_cases hc : i.cookie.length = 0
    · -- only the one for FORWARD-TSN
      have hneed : initNeed i.cookie = 24 := by
        unfold initNeed
        rw [if_neg (not_not.mpr hc)]
      rw [if_neg (not_not.mpr hc), List.nil_append] at hdeclared ⊢
      have h := @nsctpScanParams_tlv front [] rest 0xC000 (turns + 1) out (by decide) (by omega)
      rw [hfront] at h
      rw [h, nsctpScanParams_done]
      · rw [withParam_forwardTsn, List.eq_nil_of_length_eq_zero hc, ← hcookie]
      · rw [hdeclared, hneed]
        rfl
    · -- the cookie before it
      have hneed : initNeed i.cookie = 24 + (initParam 7 i.cookie).length := by
        unfold initNeed
        rw [if_pos hc, length_initParam]
      have hpad : 4 + i.cookie.length ≤ (initParam 7 i.cookie).length := by
        rw [length_initParam]
        unfold sctpPad4
        omega
      rw [if_pos hc] at hdeclared ⊢
      have h := @nsctpScanParams_tlv front i.cookie (initParam 0xC000 [] ++ rest) 7 (turns + 1) out
        (by omega) (by omega)
      have h' := @nsctpScanParams_tlv (front ++ initParam 7 i.cookie) [] rest 0xC000 turns
        (withParam out 7 i.cookie) (by decide)
        (by rw [List.append_assoc, hdeclared, List.length_append]; omega)
      rw [List.append_assoc, List.length_append] at h'
      rw [hfront] at h h'
      rw [h, h', nsctpScanParams_done]
      · rw [withParam_forwardTsn]
        rfl
      · have hlast : (initParam 0xC000 []).length = 4 := rfl
        rw [hdeclared, hneed, hlast]
        omega
  unfold nsctpParseInit
  rw [if_neg (by rw [List.length_append, hlen]; show ¬_ < 20; omega), htag, hrwnd, hostreams, histreams,
    htsn]
  obtain ⟨turns, hturns⟩ : ∃ turns, (initBytes type i ++ rest).length = turns + 2 :=
    ⟨(initBytes type i ++ rest).length - 2, by rw [List.length_append, hlen]; omega⟩
  have h20 : sctpChunkHdrSize + sctpInitBodySize = 20 := rfl
  rw [hturns, h20, hscan turns _ rfl]

theorem zeroPadded_initBytes {type : UInt8} {i : NsctpInit} (hmax : initNeed i.cookie ≤ 65535) :
    ZeroPadded (initBytes type i) := by
  have hdeclared := @readU16be_initBytes type i hmax []
  have hlen := length_initBytes type i
  rw [List.append_nil] at hdeclared
  have hwords : initNeed i.cookie % 4 = 0 := by
    unfold initNeed sctpPad4
    split <;> omega
  refine ⟨by omega, by omega, by omega, fun b hb => ?_⟩
  rw [hdeclared, List.drop_of_length_le (by omega)] at hb
  exact absurd hb List.not_mem_nil

/-- The padding of the cookie is zero as well. -/
theorem initBytes_cookiePadding {type : UInt8} {i : NsctpInit} :
    ∀ b ∈ ((initBytes type i).drop (24 + i.cookie.length)).take
      (initNeed i.cookie - 28 - i.cookie.length), b = 0 := by
  intro b hb
  by_cases hc : i.cookie.length = 0
  · have hnone : initNeed i.cookie - 28 - i.cookie.length = 0 := by
      unfold initNeed
      rw [if_neg (not_not.mpr hc)]
      omega
    rw [hnone] at hb
    exact absurd hb List.not_mem_nil
  · have hpad : initNeed i.cookie - 28 - i.cookie.length =
        sctpPad4 (4 + i.cookie.length) - (4 + i.cookie.length) := by
      unfold initNeed
      rw [if_pos hc]
      omega
    have hdrop : (initBytes type i).drop (24 + i.cookie.length) =
        List.replicate (sctpPad4 (4 + i.cookie.length) - (4 + i.cookie.length)) 0 ++
          initParam 0xC000 [] := by
      unfold initBytes
      rw [if_pos hc, ← List.drop_drop]
      unfold initParam sctpPadded
      simp only [List.append_assoc, List.length_append, length_u16be]
      have h4 : 2 + (2 + i.cookie.length) = 4 + i.cookie.length := by omega
      rw [h4]
      exact List.drop_left
    rw [hpad, hdrop, List.take_left' List.length_replicate] at hb
    exact List.eq_of_mem_replicate hb

/-! ### SACK -/

/-- The gap blocks of a SACK for the TSNs that lie ahead. -/
def gapBlocksFor (cumulativeTsn : UInt32) (gapTsns : List UInt32) : List (Nat × Nat) :=
  (sctpGapBlocks cumulativeTsn
    (gapTsns.foldl (fun sorted key => sctpInsertTsn key sorted) []).reverse []).reverse

/-- There are no more blocks than there is room for, and their ends are 16-bit offsets. -/
theorem sctpGapBlocks_bounds {c : UInt32} {tsns : List UInt32} {blocks : List (Nat × Nat)}
    (hlen : blocks.length ≤ sctpMaxGapBlocks) (hreach : ∀ b ∈ blocks, b.1 ≤ 65535 ∧ b.2 ≤ 65535) :
    (sctpGapBlocks c tsns blocks).length ≤ sctpMaxGapBlocks ∧
      ∀ b ∈ sctpGapBlocks c tsns blocks, b.1 ≤ 65535 ∧ b.2 ≤ 65535 := by
  induction tsns generalizing blocks with
  | nil => exact ⟨hlen, hreach⟩
  | cons tsn tsns ih =>
    have hoffset := (tsn - c).toUInt16.toNat_lt
    unfold sctpGapBlocks
    split
    · exact ⟨hlen, hreach⟩
    rename_i hroom
    dsimp only
    split
    · refine ih (by show 1 ≤ 4; decide) fun b hb => ?_
      rw [List.mem_singleton.mp hb]
      exact ⟨by omega, by omega⟩
    · rename_i start stop rest
      have hhead := hreach (start, stop) List.mem_cons_self
      split
      · refine ih hlen fun b hb => ?_
        rcases List.mem_cons.mp hb with rfl | hb
        · exact ⟨hhead.1, by omega⟩
        · exact hreach b (List.mem_cons_of_mem _ hb)
      · refine ih (by rw [List.length_cons]; omega) fun b hb => ?_
        rcases List.mem_cons.mp hb with rfl | hb
        · exact ⟨by omega, by omega⟩
        · exact hreach b hb

theorem gapBlocksFor_bounds (c : UInt32) (gapTsns : List UInt32) :
    (gapBlocksFor c gapTsns).length ≤ sctpMaxGapBlocks ∧
      ∀ b ∈ gapBlocksFor c gapTsns, b.1 ≤ 65535 ∧ b.2 ≤ 65535 := by
  obtain ⟨hlen, hreach⟩ := @sctpGapBlocks_bounds c
    (gapTsns.foldl (fun sorted key => sctpInsertTsn key sorted) []).reverse [] (by decide) nofun
  unfold gapBlocksFor
  exact ⟨by rw [List.length_reverse]; exact hlen, fun b hb => hreach b (List.mem_reverse.mp hb)⟩

theorem nsctpEncodeSackWithGaps_eq (bufLen : Nat) (cumulativeTsn aRwnd : UInt32)
    (gapTsns : List UInt32) :
    nsctpEncodeSackWithGaps bufLen cumulativeTsn aRwnd gapTsns =
      if 16 + 4 * (gapBlocksFor cumulativeTsn gapTsns).length ≤ bufLen then
        sackBytes cumulativeTsn aRwnd (gapBlocksFor cumulativeTsn gapTsns)
      else [] := by
  show (if bufLen < 16 ∨ 16 + (gapBlocksFor cumulativeTsn gapTsns).length * 4 > bufLen then []
    else sackBytes cumulativeTsn aRwnd (gapBlocksFor cumulativeTsn gapTsns)) = _
  by_cases h : 16 + 4 * (gapBlocksFor cumulativeTsn gapTsns).length ≤ bufLen
  · rw [if_pos h, if_neg (by omega)]
  · rw [if_neg h, if_pos (by omega)]

theorem zeroPadded_sackBytes (cumulativeTsn aRwnd : UInt32) {blocks : List (Nat × Nat)}
    (hlen : blocks.length ≤ sctpMaxGapBlocks) : ZeroPadded (sackBytes cumulativeTsn aRwnd blocks) := by
  have h4 : sctpMaxGapBlocks = 4 := rfl
  have h16 : sctpChunkHdrSize + sctpSackMinSize = 16 := rfl
  have hsize := length_sackBytes cumulativeTsn aRwnd blocks
  have hdeclared : (readU16be (sackBytes cumulativeTsn aRwnd blocks) 2).toNat =
      16 + 4 * blocks.length := by
    unfold sackBytes sctpChunkHdr
    simp only [List.append_assoc]
    rw [@readU16be_append_u16be [3, 0] 2 rfl, UInt16.toNat_ofNat', Nat.mod_eq_of_lt (by omega)]
    omega
  refine ⟨by omega, by omega, by omega, fun b hb => ?_⟩
  rw [hdeclared, List.drop_of_length_le (by omega)] at hb
  exact absurd hb List.not_mem_nil

/-- A SACK is read back, also when other chunks follow it. -/
theorem nsctpParseSack_append {chunk : List UInt8} (h : 16 ≤ chunk.length) (rest : List UInt8) :
    nsctpParseSack (chunk ++ rest) = nsctpParseSack chunk := by
  have htake : (chunk ++ rest).take 16 = chunk.take 16 := List.take_append_of_le_length h
  have hlen : (chunk ++ rest).length = chunk.length + rest.length := List.length_append
  unfold nsctpParseSack
  rw [if_neg (by rw [hlen]; show ¬_ < 16; omega), if_neg (by show ¬_ < 16; omega),
    readU32be_of_take_eq htake (by decide), readU32be_of_take_eq htake (by decide),
    readU16be_of_take_eq htake (by decide), readU16be_of_take_eq htake (by decide)]

/-! ### The checksum -/

/-- **The segments are the packet with its checksum field zeroed.** -/
theorem nsctpSegmentedChecksum_eq (packet : List UInt8) :
    nsctpSegmentedChecksum packet = nanoCrc32c (writeAt packet 8 (u32be 0)) := by
  unfold nsctpSegmentedChecksum
  dsimp only
  rw [nanoCrc32cUpdate_append, nanoCrc32cUpdate_append, ← nanoCrc32c_eq, ← List.append_assoc]
  rfl

/-- The field that `nsctp_finalize_checksum` writes. -/
theorem nsctpFinalizeChecksum_field {packet : List UInt8} (h : 12 ≤ packet.length) :
    ((nsctpFinalizeChecksum packet).drop 8).take 4 =
      u32le (nanoCrc32c (writeAt packet 8 (u32be 0))) := by
  have hlen : (writeAt packet 8 (u32be 0)).length = packet.length := length_writeAt _ _ _ h
  unfold nsctpFinalizeChecksum
  dsimp only
  generalize writeAt packet 8 (u32be 0) = zeroed at *
  have hfront : (zeroed.take 8).length = 8 := by
    rw [List.length_take]
    omega
  unfold writeAt
  rw [List.append_assoc, List.drop_left' hfront]
  exact List.take_left' rfl

/-- **A packet is accepted when its field is the one that would be written.** -/
theorem nsctpVerifyChecksum_iff (packet : List UInt8) :
    nsctpVerifyChecksum packet = .ok ↔ 12 ≤ packet.length ∧
      (packet.drop 8).take 4 = ((nsctpFinalizeChecksum packet).drop 8).take 4 := by
  unfold nsctpVerifyChecksum
  by_cases hlen : packet.length < sctpHeaderSize
  · rw [if_pos hlen]
    exact ⟨nofun, fun h => absurd hlen (Nat.not_lt.mpr h.1)⟩
  · have h12 : 12 ≤ packet.length := Nat.not_lt.mp hlen
    rw [if_neg hlen, nsctpFinalizeChecksum_field h12, nsctpSegmentedChecksum_eq]
    by_cases hfield : (packet.drop 8).take 4 = u32le (nanoCrc32c (writeAt packet 8 (u32be 0)))
    · rw [if_neg (not_not.mpr hfield.symm)]
      exact ⟨fun _ => ⟨h12, hfield⟩, fun _ => rfl⟩
    · rw [if_pos (Ne.symm hfield)]
      exact ⟨nofun, fun h => absurd h.2 hfield⟩

/-! ### All of it -/

/-- **The codecs are exact.** An INIT or INIT-ACK, a DATA and a SACK chunk is written where its words
fit the buffer and its length 16 bits; it is then padded with zeros and read back, whatever follows
it. A packet is accepted when its checksum field is the one that would be written over it. -/
theorem nsctpCodec_exact :
    (∀ (bufLen : Nat) (type : UInt8) (i : NsctpInit) (rest : List UInt8),
      let chunk := nsctpEncodeInit bufLen type i.initiateTag i.aRwnd i.numOstreams i.numIstreams
        i.initialTsn i.cookie
      if initNeed i.cookie ≤ bufLen ∧ initNeed i.cookie ≤ 65535 then
        nsctpParseInit (chunk ++ rest) = some { i with forwardTsnSupported := true } ∧
          ZeroPadded chunk ∧ chunk.length ≤ bufLen ∧
          ∀ b ∈ (chunk.drop (24 + i.cookie.length)).take (chunk.length - 28 - i.cookie.length), b = 0
      else chunk = []) ∧
    (∀ (bufLen : Nat) (cookie : List UInt8),
      let chunk := nsctpEncodeCookieEcho bufLen cookie
      if cookie.length ≤ 65531 ∧ sctpPad4 (4 + cookie.length) ≤ bufLen then
        (chunk.drop 4).take ((readU16be chunk 2).toNat - 4) = cookie ∧ ZeroPadded chunk ∧
          chunk.length ≤ bufLen
      else chunk = []) ∧
    (∀ (bufLen : Nat) (d : NsctpData) (rest : List UInt8),
      let chunk := nsctpEncodeData bufLen d
      if d.payload.length ≤ 65519 ∧ sctpPad4 (16 + d.payload.length) ≤ bufLen then
        nsctpParseData (chunk ++ rest) = some d ∧ ZeroPadded chunk ∧ chunk.length ≤ bufLen
      else chunk = []) ∧
    (∀ (bufLen : Nat) (cumulativeTsn aRwnd : UInt32) (gapTsns : List UInt32) (rest : List UInt8),
      let chunk := nsctpEncodeSackWithGaps bufLen cumulativeTsn aRwnd gapTsns
      let blocks := gapBlocksFor cumulativeTsn gapTsns
      let sack : NsctpSack := ⟨cumulativeTsn, aRwnd, UInt16.ofNat blocks.length, 0⟩
      if 16 + 4 * blocks.length ≤ bufLen then
        nsctpParseSack (chunk ++ rest) = some sack ∧ sackBlocks chunk sack = blocks ∧
          ZeroPadded chunk ∧ chunk.length ≤ bufLen
      else chunk = []) ∧
    ∀ packet : List UInt8,
      nsctpSegmentedChecksum packet = nanoCrc32c (writeAt packet 8 (u32be 0)) ∧
        (nsctpVerifyChecksum packet = .ok ↔ 12 ≤ packet.length ∧
          (packet.drop 8).take 4 = ((nsctpFinalizeChecksum packet).drop 8).take 4) := by
  refine ⟨fun bufLen type i rest => ?_, fun bufLen cookie => ?_, fun bufLen d rest => ?_,
    fun bufLen cumulativeTsn aRwnd gapTsns rest => ?_,
    fun packet => ⟨nsctpSegmentedChecksum_eq packet, nsctpVerifyChecksum_iff packet⟩⟩
  · -- INIT
    dsimp only
    split
    · rename_i h
      rw [nsctpEncodeInit_eq h, length_initBytes]
      exact ⟨nsctpParseInit_bytes h.2 rest, zeroPadded_initBytes h.2, h.1, initBytes_cookiePadding⟩
    · rename_i h
      exact nsctpEncodeInit_nil h
  · -- COOKIE ECHO
    dsimp only
    split
    · rename_i h
      have heq : nsctpEncodeCookieEcho bufLen cookie =
          sctpPadded (sctpChunkHdr 10 0 (4 + cookie.length) ++ cookie) := by
        unfold nsctpEncodeCookieEcho
        rw [if_neg (by omega)]
        rfl
      have hlen : (sctpChunkHdr 10 0 (4 + cookie.length) ++ cookie).length = 4 + cookie.length :=
        List.length_append
      have hread := @readU16be_append_u16be [10, 0] 2 rfl (UInt16.ofNat (4 + cookie.length))
        (cookie ++ List.replicate (sctpPad4 (4 + cookie.length) - (4 + cookie.length)) 0)
      rw [heq]
      refine ⟨?_, zeroPadded_sctpPadded rfl (by omega), by rw [length_sctpPadded, hlen]; exact h.2⟩
      unfold sctpPadded
      rw [hlen]
      unfold sctpChunkHdr
      rw [List.append_assoc, List.append_assoc, hread, UInt16.toNat_ofNat', Nat.mod_eq_of_lt (by omega),
        Nat.add_sub_cancel_left]
      exact List.take_left
    · rename_i h
      unfold nsctpEncodeCookieEcho
      rw [if_pos (by omega)]
  · -- DATA
    dsimp only
    split
    · rename_i h
      refine ⟨nsctpParseData_encode h rest, ?_, ?_⟩
      · rw [nsctpEncodeData_eq h]
        refine zeroPadded_sctpPadded ?_ (by omega)
        simp only [List.length_append, length_u16be, length_u32be]
        omega
      · rw [nsctpEncodeData_eq h, length_sctpPadded]
        have hlen : (sctpChunkHdr 0 d.flags (16 + d.payload.length) ++
            (u32be d.tsn ++ u16be d.streamId ++ u16be d.ssn ++ u32be d.ppid ++ d.payload)).length =
              16 + d.payload.length := by
          simp only [List.length_append, length_u16be, length_u32be]
          show 4 + _ = _
          omega
        rw [hlen]
        exact h.2
    · rename_i h
      exact nsctpEncodeData_nil h
  · -- SACK
    obtain ⟨hblocks, hreach⟩ := gapBlocksFor_bounds cumulativeTsn gapTsns
    have hlen := length_sackBytes cumulativeTsn aRwnd (gapBlocksFor cumulativeTsn gapTsns)
    dsimp only
    rw [nsctpEncodeSackWithGaps_eq]
    split
    · rename_i h
      refine ⟨?_, sackBlocks_bytes _ _ hblocks hreach, zeroPadded_sackBytes _ _ hblocks, by omega⟩
      rw [nsctpParseSack_append (by omega), nsctpParseSack_bytes]
    · rfl

end Nanortc.Spec
