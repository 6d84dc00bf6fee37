import Mathlib
import Nanortc.ForStd.Runs
import Nanortc.Spec.SctpAck

/-!
# What a SACK reports

`nsctp_queue_sack` reports the cumulative TSN and, as gap blocks, the TSNs in the receive table that
lie ahead of it. The table is unordered: the TSNs are sorted, their distances from the cumulative TSN
are gathered into blocks, and the blocks are written as 16-bit offsets. There is room for
`NANORTC_SCTP_MAX_GAP_BLOCKS` blocks, so TSNs before which as many runs begin are not reported.

## Key results

- `TsnsDistinct.step`: no TSN is twice in the receive table
- `sctpSorted_sound`: the insertion sort orders TSNs by their distance, across the wrap
- `sack_reports`: in every reachable state, what the SACK acknowledges
-/

namespace Nanortc.Spec

open Nanortc.ForStd Nanortc.Native

/-! ### No TSN is twice in the table -/

/-- The valid descriptors hold different TSNs. -/
def TsnsDistinct (r : SctpRecv) : Prop :=
  ∀ i j, (r.rx i).valid = true → (r.rx j).valid = true → (r.rx i).tsn = (r.rx j).tsn → i = j

/-- A table with no further valid descriptors and the same TSNs in them. -/
theorem TsnsDistinct.mono {r r' : SctpRecv} (h : TsnsDistinct r)
    (hsub : ∀ j, (r'.rx j).valid = true → (r.rx j).valid = true ∧ (r'.rx j).tsn = (r.rx j).tsn) :
    TsnsDistinct r' := by
  intro i j hi hj htsn
  obtain ⟨hi', hti⟩ := hsub i hi
  obtain ⟨hj', htj⟩ := hsub j hj
  exact h i j hi' hj' (by rw [← hti, ← htj, htsn])

theorem TsnsDistinct.same {r r' : SctpRecv} (h : TsnsDistinct r) (hsame : SameTsns r r') :
    TsnsDistinct r' :=
  h.mono fun j hj => ⟨(hsame.valid j).symm.trans hj, hsame.tsn j⟩

theorem TsnsDistinct.reclaim {r : SctpRecv} (h : TsnsDistinct r) :
    TsnsDistinct (nsctpRxReclaim r) :=
  h.mono fun j hj => ⟨by
    rw [nsctpRxReclaim_valid] at hj
    simp only [Bool.and_eq_true] at hj
    exact hj.1, RxEntry.core_tsn (nsctpRxReclaim_core r j)⟩

theorem TsnsDistinct.drain {r : SctpRecv} (h : TsnsDistinct r) : TsnsDistinct (nsctpGapDrain r) :=
  h.mono fun j hj => ⟨by
    rw [nsctpGapDrain_valid] at hj
    simp only [Bool.and_eq_true] at hj
    exact hj.1, RxEntry.core_tsn (nsctpGapDrain_core r j)⟩

/-- A join frees the descriptor whose TSN the other one takes. -/
theorem TsnsDistinct.join {r : SctpRecv} (h : TsnsDistinct r) {i j : RxSlot}
    (hjoin : nsctpRxJoinable r.cumulativeTsn (r.rx i) (r.rx j) = true) :
    TsnsDistinct (nsctpRxJoin r i j) := by
  have hij := nsctpRxJoinable_ne hjoin
  have hvj := ((nsctpRxJoinable_iff ..).mp hjoin).2.2.1
  obtain ⟨hcore, hother, hvalid⟩ := nsctpRxJoin_core r hij
  -- the descriptor that holds a TSN after the join held it, or is the one that took it over
  have htsn (k : RxSlot) (hk : ((nsctpRxJoin r i j).rx k).valid = true) :
      ∃ l, (r.rx l).valid = true ∧ ((nsctpRxJoin r i j).rx k).tsn = (r.rx l).tsn ∧
        (if k = i then l = j else l = k) := by
    rw [hvalid, Bool.and_eq_true] at hk
    by_cases hki : k = i
    · subst hki
      have heq := congrArg RxEntry.tsn hcore
      exact ⟨j, hvj, heq, by rw [if_pos rfl]⟩
    · exact ⟨k, hk.1, RxEntry.core_tsn (hother k hki), by rw [if_neg hki]⟩
  have hne (k : RxSlot) (hk : ((nsctpRxJoin r i j).rx k).valid = true) : k ≠ j := by
    rw [hvalid, Bool.and_eq_true] at hk
    rintro rfl
    simp at hk
  intro k l hk hl heq
  obtain ⟨k', hk', htk, hck⟩ := htsn k hk
  obtain ⟨l', hl', htl, hcl⟩ := htsn l hl
  have hsame := h k' l' hk' hl' (by rw [← htk, ← htl, heq])
  by_cases hki : k = i
  · by_cases hli : l = i
    · rw [hki, hli]
    · rw [if_pos hki] at hck
      rw [if_neg hli] at hcl
      exact absurd (hcl.symm.trans (hsame.symm.trans hck)) (hne l hl)
  · by_cases hli : l = i
    · rw [if_neg hki] at hck
      rw [if_pos hli] at hcl
      exact absurd (hck.symm.trans (hsame.trans hcl)) (hne k hk)
    · rw [if_neg hki] at hck
      rw [if_neg hli] at hcl
      rw [← hck, ← hcl, hsame]

theorem TsnsDistinct.merge {r : SctpRecv} (h : TsnsDistinct r) : TsnsDistinct (nsctpRxMerge r).1 :=
  nsctpRxMergeLoop_induction h fun _ _ _ _ h hjoin => h.join hjoin

/-- A chunk is stored under a TSN that no valid descriptor holds. -/
theorem TsnsDistinct.store {r : SctpRecv} (h : TsnsDistinct r) {slot : RxSlot} {d : NsctpData}
    (hnew : ∀ i, (r.rx i).valid = true → (r.rx i).tsn ≠ d.tsn) :
    TsnsDistinct (nsctpStore r slot d) := by
  intro i j hi hj htsn
  rw [nsctpStore_rx] at hi hj htsn
  rw [nsctpStore_rx] at htsn
  by_cases hsi : slot = i
  · by_cases hsj : slot = j
    · rw [← hsi, ← hsj]
    · rw [if_pos hsi, if_neg hsj] at htsn
      rw [if_neg hsj] at hj
      exact absurd htsn.symm (hnew j hj)
  · by_cases hsj : slot = j
    · rw [if_neg hsi, if_pos hsj] at htsn
      rw [if_neg hsi] at hi
      exact absurd htsn (hnew i hi)
    · rw [if_neg hsi, if_neg hsj] at htsn
      rw [if_neg hsi] at hi
      rw [if_neg hsj] at hj
      exact h i j hi hj htsn

/-- A receive state that differs in its marks only. -/
theorem TsnsDistinct.marks {r q : SctpRecv} (h : TsnsDistinct r) (hgap : q.recvGap = r.recvGap) :
    TsnsDistinct q :=
  h.mono fun j hj => by
    unfold SctpRecv.rx at hj ⊢
    rw [hgap] at hj ⊢
    exact ⟨hj, rfl⟩

theorem TsnsDistinct.receive {s s' : NanoSctp} (h : TsnsDistinct s.recv) (hsame : SameReceive s s') :
    TsnsDistinct s'.recv :=
  h.marks (by rw [hsame.recv])

/-- **Every chunk keeps the TSNs of the table distinct.** -/
theorem nsctpHandleChunk_distinct {s : NanoSctp} (h : TsnsDistinct s.recv)
    (random : Option AssociationSeed) (hdr : NsctpHeader) (chunk : List UInt8) :
    TsnsDistinct (nsctpHandleChunk s random hdr chunk).1.recv := by
  unfold nsctpHandleChunk
  split
  · unfold nsctpHandleInit
    split
    · exact h
    · dsimp only
      split
      · exact h
      · obtain ⟨packets, heq⟩ := nsctpQueueOutput_eq _ _ _
        rw [heq]
        exact h.marks rfl
  · unfold nsctpHandleInitAck
    split
    · exact h
    split
    · exact h
    split
    · exact h
    · obtain ⟨packets, heq⟩ := nsctpQueueOutput_eq _ _ _
      dsimp only
      rw [heq]
      exact h.marks rfl
  · unfold nsctpHandleCookieEcho
    dsimp only
    split
    · exact h
    · obtain ⟨packets, heq⟩ := nsctpQueueOutput_eq s s.remoteVtag nsctpEncodeCookieAck
      rw [heq]
      exact h
  · unfold nsctpHandleCookieAck
    split <;> exact h
  · rename_i htype
    cases nsctpHandleDataChunk_cases s htype with
    | inl hunstored =>
      rcases hunstored.2 with heq | heq | heq <;> rw [heq]
      · exact h
      · exact h.marks rfl
      · exact (h.marks (q := { s.recv with sackNeeded := true }) rfl).reclaim
    | inr hstored =>
      obtain ⟨p, hp, heq⟩ := hstored
      rw [heq]
      have hreclaim := (h.marks (q := { s.recv with sackNeeded := true }) rfl).reclaim
      obtain ⟨-, -, -, hadmit⟩ := nsctpStored_some hp
      exact ((hreclaim.store (nsctpAdmit_store (Prod.ext rfl hadmit)).2.2).drain).merge
  · exact h.receive (nsctpHandleSackChunk_same s chunk).1
  · exact h.receive (sameReceive_send.handleHeartbeat s chunk).1
  · exact h
  · rename_i htype
    rcases nsctpHandleForwardTsn_cases s htype with ⟨-, heq | heq⟩ | ⟨tsn, recv, -, -, hsame, heq | heq⟩
      <;> rw [heq]
    · exact h
    · exact h.marks rfl
    · exact (h.marks (q := { s.recv with sackNeeded := true, cumulativeTsn := tsn }) rfl).merge.same
        hsame
    · exact ((h.marks (q := { s.recv with sackNeeded := true, cumulativeTsn := tsn }) rfl).merge.same
        hsame).drain
  · exact h
  · exact h
  · exact h

theorem TsnsDistinct.call {s : NanoSctp} (h : TsnsDistinct s.recv) (i : SctpInput)
    (hi : ∀ random data, i ≠ .packet random data) : TsnsDistinct (sctpStep s i).recv := by
  cases i with
  | packet random data => exact absurd rfl (hi random data)
  | start random =>
    show TsnsDistinct (nsctpStart s random).1.recv
    unfold nsctpStart
    split
    · exact h
    split
    · exact h
    split
    · exact h
    · obtain ⟨packets, heq⟩ := nsctpQueueOutput_eq _ _ _
      dsimp only
      rw [heq]
      exact h
  | pollDelivery =>
    have hpoll := h.reclaim.same (nsctpPollDelivery_same s)
    unfold sctpStep
    exact hpoll
  | pollOutput bufLen => exact h.receive (sameReceive_send.pollOutput s bufLen).1
  | send streamId ppid data unordered maxRetransmits =>
    exact h.receive (nsctpSendOptions_same s streamId ppid data unordered maxRetransmits).1
  | timeout nowMs random => exact h.receive (sameReceive_timer.handleTimeout s nowMs random).1

/-- **No TSN is twice in the receive table of a reachable state.** -/
theorem tsnsDistinct_run (is : List SctpInput) : TsnsDistinct (run sctpStep nsctpInit is).recv := by
  have hstep (s : NanoSctp) (i : SctpInput) (hs : TsnsDistinct s.recv) :
      TsnsDistinct (sctpStep s i).recv :=
    sctpStep_invariant (P := fun s => TsnsDistinct s.recv)
      (fun s random hdr chunk h => nsctpHandleChunk_distinct h random hdr chunk)
      (fun s h => TsnsDistinct.receive h (sameReceive_send.finishPacket s).1)
      (fun s i hi h => TsnsDistinct.call h i hi) s i hs
  refine run_invariant (P := fun s : NanoSctp => TsnsDistinct s.recv) hstep ?_ is
  intro i j hi
  simp [nsctpInit, SctpRecv.rx] at hi

/-! ### Distances from the cumulative TSN -/

/-- How far a TSN lies ahead of the cumulative one. -/
def gapOffset (cumulativeTsn tsn : UInt32) : Nat := (tsn - cumulativeTsn).toNat

/-- A TSN ahead is less than half the number space ahead. -/
theorem i32_pos_iff (c t : UInt32) :
    0 < i32 (t - c) ↔ 1 ≤ gapOffset c t ∧ gapOffset c t < 2 ^ 31 := by
  unfold gapOffset
  rw [i32_eq]
  have := (t - c).toNat_lt
  split <;> omega

theorem i32_of_pos {c t : UInt32} (h : 0 < i32 (t - c)) : i32 (t - c) = gapOffset c t := by
  have hlt := ((i32_pos_iff c t).mp h).2
  unfold gapOffset at hlt ⊢
  rw [i32_eq, if_pos hlt]

/-- **TSNs ahead of a common one compare by their distances from it**, across the wrap. -/
theorem i32_sub_pos_iff {c t u : UInt32} (ht : 0 < i32 (t - c)) (hu : 0 < i32 (u - c)) :
    0 < i32 (t - u) ↔ gapOffset c u < gapOffset c t := by
  have ht' := ((i32_pos_iff c t).mp ht).2
  have hu' := ((i32_pos_iff c u).mp hu).2
  have hsub : t - u = UInt32.ofNat (gapOffset c t) - UInt32.ofNat (gapOffset c u) := by
    unfold gapOffset
    rw [UInt32.ofNat_toNat, UInt32.ofNat_toNat, ← UInt32.toNat_inj]
    simp only [UInt32.toNat_sub]
    have := t.toNat_lt
    have := u.toNat_lt
    have := c.toNat_lt
    omega
  rw [hsub, i32_ofNat_sub_ofNat _ _ (by omega) (by omega)]
  omega

theorem gapOffset_inj {c t u : UInt32} (h : gapOffset c t = gapOffset c u) : t = u := by
  unfold gapOffset at h
  have hsub := UInt32.toNat_inj.mp h
  rw [← UInt32.sub_add_cancel t c, hsub, UInt32.sub_add_cancel]

/-! ### The insertion sort -/

theorem sctpInsertTsn_perm (key : UInt32) (ts : List UInt32) :
    (sctpInsertTsn key ts).Perm (key :: ts) := by
  induction ts with
  | nil => exact .refl _
  | cons t ts ih =>
    unfold sctpInsertTsn
    split
    · exact (ih.cons t).trans (.swap key t ts)
    · exact .refl _

/-- The key comes behind the TSNs that are farther ahead. -/
theorem sctpInsertTsn_sorted {c key : UInt32} {ts : List UInt32} (hkey : 0 < i32 (key - c))
    (hts : ∀ t ∈ ts, 0 < i32 (t - c)) (hnew : key ∉ ts)
    (hsorted : ts.Pairwise fun t u => gapOffset c u < gapOffset c t) :
    (sctpInsertTsn key ts).Pairwise fun t u => gapOffset c u < gapOffset c t := by
  induction ts with
  | nil => exact List.pairwise_singleton _ _
  | cons t ts ih =>
    obtain ⟨hfirst, hrest⟩ := List.pairwise_cons.mp hsorted
    have ht := hts t List.mem_cons_self
    have hcompare := i32_sub_pos_iff ht hkey
    unfold sctpInsertTsn
    split
    · rename_i hgt
      refine List.pairwise_cons.mpr ⟨fun u hu => ?_, ih (fun u hu => hts u (List.mem_cons_of_mem t hu))
        (fun hmem => hnew (List.mem_cons_of_mem t hmem)) hrest⟩
      cases List.mem_cons.mp ((sctpInsertTsn_perm key ts).mem_iff.mp hu) with
      | inl heq => exact heq ▸ hcompare.mp hgt
      | inr hmem => exact hfirst u hmem
    · rename_i hle
      have hne : gapOffset c t ≠ gapOffset c key := fun heq =>
        hnew (gapOffset_inj heq ▸ List.mem_cons_self)
      have hlt : gapOffset c t < gapOffset c key := by
        have : ¬gapOffset c key < gapOffset c t := fun h => hle (hcompare.mpr h)
        omega
      refine List.pairwise_cons.mpr ⟨fun u hu => ?_, hsorted⟩
      cases List.mem_cons.mp hu with
      | inl heq => exact heq ▸ hlt
      | inr hmem => exact Nat.lt_trans (hfirst u hmem) hlt

/-- **The sorted TSNs are the given ones, nearest first.** -/
theorem sctpSorted_sound {c : UInt32} {ts : List UInt32} (hts : ∀ t ∈ ts, 0 < i32 (t - c))
    (hnodup : ts.Nodup) :
    let sorted := (ts.foldl (fun sorted key => sctpInsertTsn key sorted) []).reverse
    sorted.Perm ts ∧ sorted.Pairwise fun t u => gapOffset c t < gapOffset c u := by
  have hloop (rest done : List UInt32) (hpos : ∀ t ∈ done ++ rest, 0 < i32 (t - c))
      (hnew : (done ++ rest).Nodup) (hdone : done.Pairwise fun t u => gapOffset c u < gapOffset c t) :
      (rest.foldl (fun sorted key => sctpInsertTsn key sorted) done).Perm (done ++ rest) ∧
        (rest.foldl (fun sorted key => sctpInsertTsn key sorted) done).Pairwise fun t u =>
          gapOffset c u < gapOffset c t := by
    induction rest generalizing done with
    | nil =>
      rw [List.append_nil]
      exact ⟨.refl _, hdone⟩
    | cons key rest ih =>
      rw [List.foldl_cons]
      have hinsert := sctpInsertTsn_perm key done
      have hmove : (sctpInsertTsn key done ++ rest).Perm (done ++ key :: rest) :=
        (hinsert.append_right rest).trans List.perm_middle.symm
      have hkey : key ∉ done := by
        intro hmem
        have hparts := List.nodup_append.mp hnew
        exact hparts.2.2 key hmem key List.mem_cons_self rfl
      obtain ⟨hperm, hsorted⟩ := ih (sctpInsertTsn key done)
        (fun t ht => hpos t (hmove.mem_iff.mp ht)) (hmove.nodup_iff.mpr hnew)
        (sctpInsertTsn_sorted (hpos key (by simp)) (fun t ht => hpos t (List.mem_append_left _ ht))
          hkey hdone)
      exact ⟨hperm.trans hmove, hsorted⟩
  obtain ⟨hperm, hsorted⟩ := hloop ts [] hts hnodup .nil
  exact ⟨(List.reverse_perm _).trans hperm, List.pairwise_reverse.mpr hsorted⟩

/-- The blocks of a SACK gather the distances of TSNs that a 16-bit offset reaches. -/
theorem sctpGapBlocks_eq {c : UInt32} (ts : List UInt32) (blocks : List (Nat × Nat))
    (hts : ∀ t ∈ ts, gapOffset c t ≤ 65535) :
    sctpGapBlocks c ts blocks = gatherRuns sctpMaxGapBlocks (ts.map (gapOffset c)) blocks := by
  induction ts generalizing blocks with
  | nil => rfl
  | cons t ts ih =>
    have hoffset : (t - c).toUInt16.toNat = gapOffset c t := by
      have := hts t List.mem_cons_self
      unfold gapOffset at this ⊢
      rw [UInt32.toNat_toUInt16]
      omega
    have hrest (blocks : List (Nat × Nat)) :=
      ih blocks fun u hu => hts u (List.mem_cons_of_mem t hu)
    rw [List.map_cons]
    show sctpGapBlocks c (t :: ts) blocks = if blocks.length ≥ sctpMaxGapBlocks then blocks
      else gatherRuns sctpMaxGapBlocks (ts.map (gapOffset c)) (addToRuns (gapOffset c t) blocks)
    rw [← hrest, ← hoffset]
    cases blocks with
    | nil => rfl
    | cons b rest =>
      obtain ⟨start, stop⟩ := b
      rw [addToRuns_cons]
      show (if (_ : List (Nat × Nat)).length ≥ sctpMaxGapBlocks then _ else
        if _ then sctpGapBlocks c ts _ else sctpGapBlocks c ts _) = _
      split
      · rfl
      · split <;> rfl

/-! ### The chunk -/

/-- The gap blocks of a SACK chunk. -/
def sackBlocks (chunk : List UInt8) (sack : NsctpSack) : List (Nat × Nat) :=
  (List.range sack.numGapBlocks.toNat).map (sackGapBlock chunk)

/-- The bytes of a gap block. -/
def gapBlockBytes (b : Nat × Nat) : List UInt8 :=
  u16be (UInt16.ofNat b.1) ++ u16be (UInt16.ofNat b.2)

/-- The bytes of a SACK chunk. -/
def sackBytes (cumulativeTsn aRwnd : UInt32) (blocks : List (Nat × Nat)) : List UInt8 :=
  sctpChunkHdr 3 0 (sctpChunkHdrSize + sctpSackMinSize + blocks.length * 4) ++ u32be cumulativeTsn ++
    u32be aRwnd ++ u16be (UInt16.ofNat blocks.length) ++ u16be 0 ++ blocks.flatMap gapBlockBytes

theorem length_flatMap_gapBlockBytes (blocks : List (Nat × Nat)) :
    (blocks.flatMap gapBlockBytes).length = 4 * blocks.length := by
  induction blocks with
  | nil => rfl
  | cons b blocks ih =>
    rw [List.flatMap_cons, List.length_append, ih]
    show 4 + 4 * blocks.length = 4 * (blocks.length + 1)
    omega

theorem length_sackBytes (cumulativeTsn aRwnd : UInt32) (blocks : List (Nat × Nat)) :
    (sackBytes cumulativeTsn aRwnd blocks).length = 16 + 4 * blocks.length := by
  unfold sackBytes
  rw [List.length_append, length_flatMap_gapBlockBytes]
  rfl

/-- The words of a gap block among the others. -/
theorem readU16be_flatMap {blocks : List (Nat × Nat)} {i : Nat} (hi : i < blocks.length) :
    readU16be (blocks.flatMap gapBlockBytes) (4 * i) = UInt16.ofNat blocks[i].1 ∧
      readU16be (blocks.flatMap gapBlockBytes) (4 * i + 2) = UInt16.ofNat blocks[i].2 := by
  induction blocks generalizing i with
  | nil => nomatch hi
  | cons b blocks ih =>
    rw [List.flatMap_cons]
    cases i with
    | zero =>
      unfold gapBlockBytes
      rw [List.append_assoc]
      exact ⟨readU16be_u16be _ _, readU16be_append_u16be (p := u16be (UInt16.ofNat b.1)) rfl _ _⟩
    | succ i =>
      obtain ⟨hstart, hstop⟩ := ih (Nat.lt_of_succ_lt_succ hi)
      have hlen : (gapBlockBytes b).length = 4 := rfl
      refine ⟨?_, ?_⟩
      · rw [show 4 * (i + 1) = 4 + 4 * i by omega, readU16be_append hlen, hstart]
        rfl
      · rw [show 4 * (i + 1) + 2 = 4 + (4 * i + 2) by omega, readU16be_append hlen, hstop]
        rfl

/-- **A written SACK is read back.** -/
theorem nsctpParseSack_bytes (cumulativeTsn aRwnd : UInt32) (blocks : List (Nat × Nat)) :
    nsctpParseSack (sackBytes cumulativeTsn aRwnd blocks) =
      some ⟨cumulativeTsn, aRwnd, UInt16.ofNat blocks.length, 0⟩ := by
  unfold nsctpParseSack
  rw [if_neg (by rw [length_sackBytes]; show ¬_ < 16; omega)]
  unfold sackBytes
  simp only [List.append_assoc]
  have hhdr : (sctpChunkHdr 3 0 (sctpChunkHdrSize + sctpSackMinSize + blocks.length * 4)).length = 4 :=
    rfl
  generalize sctpChunkHdr 3 0 (sctpChunkHdrSize + sctpSackMinSize + blocks.length * 4) = hdr at hhdr
  have hcum := readU32be_append_u32be hhdr cumulativeTsn
    (u32be aRwnd ++ (u16be (UInt16.ofNat blocks.length) ++ (u16be 0 ++ blocks.flatMap gapBlockBytes)))
  have hrwnd := readU32be_append_u32be (p := hdr ++ u32be cumulativeTsn) (i := 8)
    (by rw [List.length_append, hhdr]; rfl) aRwnd
    (u16be (UInt16.ofNat blocks.length) ++ (u16be 0 ++ blocks.flatMap gapBlockBytes))
  have hgaps := readU16be_append_u16be (p := hdr ++ u32be cumulativeTsn ++ u32be aRwnd) (i := 12)
    (by rw [List.length_append, List.length_append, hhdr]; rfl) (UInt16.ofNat blocks.length)
    (u16be 0 ++ blocks.flatMap gapBlockBytes)
  have hdups := readU16be_append_u16be
    (p := hdr ++ u32be cumulativeTsn ++ u32be aRwnd ++ u16be (UInt16.ofNat blocks.length)) (i := 14)
    (by simp only [List.length_append, hhdr]; rfl) 0 (blocks.flatMap gapBlockBytes)
  simp only [List.append_assoc] at hrwnd hgaps hdups
  rw [hcum, hrwnd, hgaps, hdups]

theorem sackBlocks_bytes (cumulativeTsn aRwnd : UInt32) {blocks : List (Nat × Nat)}
    (hlen : blocks.length ≤ sctpMaxGapBlocks) (hreach : ∀ b ∈ blocks, b.1 ≤ 65535 ∧ b.2 ≤ 65535) :
    sackBlocks (sackBytes cumulativeTsn aRwnd blocks)
      ⟨cumulativeTsn, aRwnd, UInt16.ofNat blocks.length, 0⟩ = blocks := by
  have hcount : (UInt16.ofNat blocks.length).toNat = blocks.length := by
    rw [UInt16.toNat_ofNat']
    have : sctpMaxGapBlocks = 4 := rfl
    omega
  unfold sackBlocks
  rw [hcount]
  apply List.ext_getElem
  · rw [List.length_map, List.length_range]
  · intro i hi hi'
    rw [List.getElem_map, List.getElem_range]
    obtain ⟨hstart, hstop⟩ := readU16be_flatMap hi'
    obtain ⟨hlo, hhi⟩ := hreach _ (List.getElem_mem hi')
    have hpre : (sctpChunkHdr 3 0 (sctpChunkHdrSize + sctpSackMinSize + blocks.length * 4) ++
      u32be cumulativeTsn ++ u32be aRwnd ++ u16be (UInt16.ofNat blocks.length) ++ u16be 0).length =
        16 := rfl
    unfold sackGapBlock sackBytes
    rw [readU16be_append hpre, show 18 + 4 * i = 16 + (4 * i + 2) by omega, readU16be_append hpre,
      hstart, hstop, UInt16.toNat_ofNat', UInt16.toNat_ofNat', Nat.mod_eq_of_lt (by omega),
      Nat.mod_eq_of_lt (by omega)]

/-- Blocks that ascend and do not touch are accepted. -/
theorem sackGapsValid_of_apart {chunk : List UInt8} {is : List Nat} {previousEnd : Nat}
    (hfirst : ∀ b ∈ is.map (sackGapBlock chunk), previousEnd < b.1)
    (hfilled : ∀ b ∈ is.map (sackGapBlock chunk), b.1 ≤ b.2)
    (hapart : (is.map (sackGapBlock chunk)).Pairwise fun a b => a.2 + 1 < b.1) :
    sackGapsValid chunk is previousEnd = true := by
  induction is generalizing previousEnd with
  | nil => rfl
  | cons i is ih =>
    rw [List.map_cons] at hfirst hfilled hapart
    obtain ⟨hnext, hrest⟩ := List.pairwise_cons.mp hapart
    have hlo := hfirst _ List.mem_cons_self
    have hhi := hfilled _ List.mem_cons_self
    have hvalid := @ih (sackGapBlock chunk i).2
      (fun b hb => Nat.lt_of_succ_lt (hnext b hb))
      (fun b hb => hfilled b (List.mem_cons_of_mem _ hb)) hrest
    unfold sackGapsValid
    simp only [hlo, hhi, hvalid, decide_true, Bool.and_self]

/-- The TSN lies in a gap block. -/
theorem nsctpGapAcked_iff (chunk : List UInt8) (sack : NsctpSack) (offset : Int) :
    nsctpGapAcked chunk sack.numGapBlocks.toNat offset = true ↔
      (0 < offset ∧ offset ≤ 65535) ∧
        ∃ b ∈ sackBlocks chunk sack, (b.1 : Int) ≤ offset ∧ offset ≤ (b.2 : Int) := by
  unfold nsctpGapAcked sackBlocks
  simp only [Bool.and_eq_true, decide_eq_true_eq, List.any_eq_true, List.mem_range, List.mem_map,
    exists_exists_and_eq_and]

/-! ### What is reported -/

/-- The TSNs in the receive table that lie ahead of the cumulative one. -/
def heldTsns (r : SctpRecv) : List UInt32 :=
  ((List.finRange sctpMaxRecvGap).filter fun i =>
    (r.rx i).valid && i32 ((r.rx i).tsn - r.cumulativeTsn) > 0).map fun i => (r.rx i).tsn

/-- The SACK chunk for a receive state. -/
def nsctpSackChunk (r : SctpRecv) : List UInt8 :=
  nsctpEncodeSackWithGaps nsctpMaxSackSize r.cumulativeTsn
    (UInt32.ofNat (sctpRecvGapBufSize - r.recvGapBufUsed)) (heldTsns r)

/-- The blocks that the held TSNs are gathered into. -/
def heldBlocks (r : SctpRecv) : List (Nat × Nat) :=
  (sctpGapBlocks r.cumulativeTsn
    ((heldTsns r).foldl (fun sorted key => sctpInsertTsn key sorted) []).reverse []).reverse

theorem mem_heldTsns {r : SctpRecv} {t : UInt32} (h : t ∈ heldTsns r) :
    0 < i32 (t - r.cumulativeTsn) := by
  obtain ⟨i, hi, rfl⟩ := List.mem_map.mp h
  have hkeep := (List.mem_filter.mp hi).2
  simp only [Bool.and_eq_true, decide_eq_true_eq] at hkeep
  exact hkeep.2

theorem TsnsDistinct.nodup {r : SctpRecv} (h : TsnsDistinct r) : (heldTsns r).Nodup := by
  unfold heldTsns
  refine List.Nodup.map_on (fun i hi j hj htsn => ?_) ((List.nodup_finRange _).filter _)
  have hi := (List.mem_filter.mp hi).2
  have hj := (List.mem_filter.mp hj).2
  simp only [Bool.and_eq_true] at hi hj
  exact h i j hi.1 hj.1 htsn

/-- **The blocks gather the held TSNs**, as far as a 16-bit offset reaches. -/
theorem heldBlocks_sound {r : SctpRecv} (h : TsnsDistinct r)
    (hreach : ∀ t ∈ heldTsns r, gapOffset r.cumulativeTsn t ≤ 65535) :
    (heldBlocks r).Pairwise (fun a b => a.2 + 1 < b.1) ∧ (∀ b ∈ heldBlocks r, b.1 ≤ b.2) ∧
      (heldBlocks r).length ≤ sctpMaxGapBlocks ∧
      ∀ n, (∃ b ∈ heldBlocks r, b.1 ≤ n ∧ n ≤ b.2) ↔
        n ∈ (heldTsns r).map (gapOffset r.cumulativeTsn) ∧
          runsBefore ((heldTsns r).map (gapOffset r.cumulativeTsn)) n < sctpMaxGapBlocks := by
  obtain ⟨hperm, hsorted⟩ := sctpSorted_sound (fun t ht => mem_heldTsns ht) h.nodup
  unfold heldBlocks
  generalize ((heldTsns r).foldl (fun sorted key => sctpInsertTsn key sorted) []).reverse = sorted
    at hperm hsorted
  rw [sctpGapBlocks_eq sorted [] fun t ht => hreach t (hperm.mem_iff.mp ht)]
  have hoffsets := hperm.map (gapOffset r.cumulativeTsn)
  obtain ⟨hapart, hfilled, hlen, hmem⟩ := @gatherRuns_sound sctpMaxGapBlocks
    (sorted.map (gapOffset r.cumulativeTsn)) (List.pairwise_map.mpr hsorted) (by
      intro n hn
      obtain ⟨t, ht, rfl⟩ := List.mem_map.mp hn
      exact ((i32_pos_iff _ t).mp (mem_heldTsns (hperm.mem_iff.mp ht))).1)
  refine ⟨List.pairwise_reverse.mpr hapart, fun b hb => hfilled b (List.mem_reverse.mp hb), ?_,
    fun n => ?_⟩
  · rw [List.length_reverse]
    exact hlen
  · rw [← runsBefore_perm hoffsets, ← hoffsets.mem_iff, ← hmem]
    simp only [List.mem_reverse]

/-- What a SACK chunk acknowledges of a receive state. -/
structure SackReports (r : SctpRecv) (chunk : List UInt8) (sack : NsctpSack) : Prop where
  apart : (sackBlocks chunk sack).Pairwise fun a b => a.2 + 1 < b.1
  filled : ∀ b ∈ sackBlocks chunk sack, b.1 ≤ b.2
  starts : ∀ b ∈ sackBlocks chunk sack, 2 ≤ b.1 ∨ b.1 = 1 ∧ r.cumulativeTsn + 1 ∈ heldTsns r
  cumulative : sack.cumulativeTsn = r.cumulativeTsn
  acknowledges : ∀ t, SackCovers chunk sack t ↔ i32 (t - r.cumulativeTsn) ≤ 0 ∨
    t ∈ heldTsns r ∧
      runsBefore ((heldTsns r).map (gapOffset r.cumulativeTsn)) (gapOffset r.cumulativeTsn t) <
        sctpMaxGapBlocks

theorem nsctpSackChunk_bytes {r : SctpRecv} (hlen : (heldBlocks r).length ≤ sctpMaxGapBlocks) :
    nsctpSackChunk r = sackBytes r.cumulativeTsn
      (UInt32.ofNat (sctpRecvGapBufSize - r.recvGapBufUsed)) (heldBlocks r) := by
  have hfits : ¬(nsctpMaxSackSize < 16 ∨
      sctpChunkHdrSize + sctpSackMinSize + (heldBlocks r).length * 4 > nsctpMaxSackSize) := by
    have h1 : nsctpMaxSackSize = 32 := rfl
    have h2 : sctpChunkHdrSize + sctpSackMinSize = 16 := rfl
    have h3 : sctpMaxGapBlocks = 4 := rfl
    omega
  unfold nsctpSackChunk nsctpEncodeSackWithGaps
  exact if_neg hfits

/-- **What the SACK for a receive state acknowledges.** -/
theorem nsctpSackChunk_reports {r : SctpRecv} (h : TsnsDistinct r)
    (hreach : ∀ t ∈ heldTsns r, gapOffset r.cumulativeTsn t ≤ 65535) :
    ∃ sack, nsctpSackOf (nsctpSackChunk r) = some sack ∧ SackReports r (nsctpSackChunk r) sack := by
  obtain ⟨hapart, hfilled, hlen, hmem⟩ := heldBlocks_sound h hreach
  rw [nsctpSackChunk_bytes hlen]
  generalize UInt32.ofNat (sctpRecvGapBufSize - r.recvGapBufUsed) = rwnd
  have hoffset (n : Nat) (hn : n ∈ (heldTsns r).map (gapOffset r.cumulativeTsn)) :
      1 ≤ n ∧ n ≤ 65535 := by
    obtain ⟨t, ht, rfl⟩ := List.mem_map.mp hn
    exact ⟨((i32_pos_iff _ t).mp (mem_heldTsns ht)).1, hreach t ht⟩
  -- both ends of a block are distances of held TSNs
  have hends (b : Nat × Nat) (hb : b ∈ heldBlocks r) :
      b.1 ∈ (heldTsns r).map (gapOffset r.cumulativeTsn) ∧
        b.2 ∈ (heldTsns r).map (gapOffset r.cumulativeTsn) :=
    ⟨((hmem b.1).mp ⟨b, hb, Nat.le_refl _, hfilled b hb⟩).1,
      ((hmem b.2).mp ⟨b, hb, hfilled b hb, Nat.le_refl _⟩).1⟩
  have hblocks := sackBlocks_bytes r.cumulativeTsn rwnd hlen fun b hb =>
    ⟨(hoffset _ (hends b hb).1).2, (hoffset _ (hends b hb).2).2⟩
  have hparse := nsctpParseSack_bytes r.cumulativeTsn rwnd (heldBlocks r)
  have hsize := length_sackBytes r.cumulativeTsn rwnd (heldBlocks r)
  have hcount : (UInt16.ofNat (heldBlocks r).length).toNat = (heldBlocks r).length := by
    rw [UInt16.toNat_ofNat']
    have : sctpMaxGapBlocks = 4 := rfl
    omega
  generalize sackBytes r.cumulativeTsn rwnd (heldBlocks r) = chunk at hblocks hparse hsize
  refine ⟨_, ?_, hblocks.symm ▸ hapart, hblocks.symm ▸ hfilled, fun b hb => ?_, rfl, fun t => ?_⟩
  · -- the checks of the receiver
    unfold nsctpSackOf
    rw [hparse]
    dsimp only
    rw [hcount, hsize, if_neg (by
      have : sctpChunkHdrSize = 4 := rfl
      have : sctpSackMinSize = 12 := rfl
      show ¬(_ ∨ 0 > _)
      omega)]
    have hrange : (List.range (heldBlocks r).length).map (sackGapBlock chunk) = heldBlocks r := by
      rw [← hcount]
      exact hblocks
    rw [sackGapsValid_of_apart (fun b hb => ?_) (hrange.symm ▸ hfilled) (hrange.symm ▸ hapart)]
    · rfl
    · rw [hrange] at hb
      exact (hoffset _ (hends b hb).1).1
  · rw [hblocks] at hb
    have hstart := (hends b hb).1
    by_cases hone : b.1 = 1
    · refine .inr ⟨hone, ?_⟩
      obtain ⟨t, ht, heq⟩ := List.mem_map.mp hstart
      have hnext : r.cumulativeTsn + 1 = t := by
        apply gapOffset_inj (c := r.cumulativeTsn)
        rw [heq, hone]
        unfold gapOffset
        rw [UInt32.add_comm, UInt32.add_sub_cancel]
        rfl
      rw [hnext]
      exact ht
    · have := (hoffset _ hstart).1
      exact .inl (by omega)
  · unfold SackCovers
    rw [nsctpGapAcked_iff, hblocks]
    dsimp only
    by_cases hpos : 0 < i32 (t - r.cumulativeTsn)
    · have hdist := i32_of_pos hpos
      have hheld : gapOffset r.cumulativeTsn t ∈ (heldTsns r).map (gapOffset r.cumulativeTsn) ↔
          t ∈ heldTsns r := by
        refine ⟨fun h => ?_, fun h => List.mem_map_of_mem h⟩
        obtain ⟨u, hu, heq⟩ := List.mem_map.mp h
        exact gapOffset_inj heq ▸ hu
      rw [← hheld, ← hmem, hdist]
      refine or_congr_right ⟨fun h => ?_, fun h => ?_⟩
      · obtain ⟨-, b, hb, hlo, hhi⟩ := h
        exact ⟨b, hb, by omega, by omega⟩
      · obtain ⟨b, hb, hlo, hhi⟩ := h
        have hend := (hoffset _ (hends b hb).2).2
        exact ⟨⟨by omega, by omega⟩, b, hb, by omega, by omega⟩
    · exact ⟨fun _ => .inl (Int.not_lt.mp hpos), fun _ => .inl (Int.not_lt.mp hpos)⟩

/-- The packet that `nsctp_queue_sack` queues holds that chunk. -/
theorem nsctpQueueSack_ok {s : NanoSctp} {cap : Nat} (h : (nsctpQueueSack s cap).2 = .ok) :
    (nsctpQueueSack s cap).1.outQueue = (nsctpQueueOutput s s.remoteVtag (nsctpSackChunk s.recv)).outQueue := by
  unfold nsctpQueueSack at h ⊢
  split at h
  · nomatch h
  · rename_i hfull
    rw [if_neg hfull]
    dsimp only at h ⊢
    split at h
    · nomatch h
    · rename_i hfits
      rw [if_neg hfits]
      rfl

/-- **SACK soundness.** In every state that a run reaches whose held TSNs lie at most 65535 ahead of
the cumulative one, the SACK that is queued has ascending gap blocks that do not touch, none of which
starts before 2 unless the next TSN itself is held, passes the checks of a receiver, and acknowledges
what the cumulative TSN covers and the held TSNs before which fewer than four runs of held TSNs
begin. -/
theorem sack_reports (is : List SctpInput) :
    let s := run sctpStep nsctpInit is
    (∀ t ∈ heldTsns s.recv, gapOffset s.recv.cumulativeTsn t ≤ 65535) →
      (∃ sack, nsctpSackOf (nsctpSackChunk s.recv) = some sack ∧
        SackReports s.recv (nsctpSackChunk s.recv) sack) ∧
      ∀ cap, (nsctpQueueSack s cap).2 = .ok → (nsctpQueueSack s cap).1.outQueue =
        (nsctpQueueOutput s s.remoteVtag (nsctpSackChunk s.recv)).outQueue := by
  intro s hreach
  exact ⟨nsctpSackChunk_reports (tsnsDistinct_run is) hreach, fun cap h => nsctpQueueSack_ok h⟩

/-- Three TSNs in two runs, the second across the wrap of the number space. -/
def demoGaps : List SctpInput :=
  [demoInit 0xFFFFFFFB, demoCookieEcho, demoData 0xFFFFFFFD 3 [65], demoData 0xFFFFFFFF 3 [66],
    demoData 0 3 [67]]

theorem sack_reports_gaps :
    let s := run sctpStep nsctpInit demoGaps
    heldTsns s.recv = [0, 0xFFFFFFFF, 0xFFFFFFFD] ∧
      ∃ sack, nsctpSackOf (nsctpSackChunk s.recv) = some sack ∧
        SackReports s.recv (nsctpSackChunk s.recv) sack := by
  have hheld : heldTsns (run sctpStep nsctpInit demoGaps).recv = [0, 0xFFFFFFFF, 0xFFFFFFFD] := by
    decide +kernel
  have hcum : (run sctpStep nsctpInit demoGaps).recv.cumulativeTsn = 0xFFFFFFFA := by
    decide +kernel
  have hnear : ∀ t ∈ heldTsns (run sctpStep nsctpInit demoGaps).recv,
      gapOffset (run sctpStep nsctpInit demoGaps).recv.cumulativeTsn t ≤ 65535 := by
    rw [hheld, hcum]
    simp only [List.forall_mem_cons]
    exact ⟨by decide, by decide, by decide, nofun⟩
  exact ⟨hheld, (sack_reports demoGaps hnear).1⟩

/-- Five TSNs that do not touch: the fifth is held and not acknowledged. -/
theorem sack_omits_held :
    let s := run sctpStep nsctpInit (demoHandshake ++ [demoData 1002 3 [65], demoData 1004 3 [66],
      demoData 1006 3 [67], demoData 1008 3 [68], demoData 1010 3 [69]])
    ∃ sack, nsctpSackOf (nsctpSackChunk s.recv) = some sack ∧ 1010 ∈ heldTsns s.recv ∧
      ¬SackCovers (nsctpSackChunk s.recv) sack 1010 := by
  intro s
  have hsack : nsctpSackOf (nsctpSackChunk s.recv) = some ⟨999, 4091, 4, 0⟩ := by decide +kernel
  refine ⟨_, hsack, by decide +kernel, ?_⟩
  unfold SackCovers
  decide +kernel

end Nanortc.Spec
