import Mathlib
import Nanortc.Spec.SctpMessages

/-!
# Joins that strand nothing

A join gives the first descriptor the TSN of the second one, so only a row that begins at the first
stored fragment can still be appended to what comes before it. `nsctp_rx_merge` takes the pairs in
the order of the table: a fragment that stands before the ones it continues is joined too early, and
its message is never found again. `HeadsFirst` says that this does not happen. Together with
neighbours that fit it keeps every received message within reach of `nsctp_poll_delivery`.

## Key results

- `HeadsFirst.join`: the order of the table is kept by a join
- `Orderly.store`, `Orderly.drain`, `Orderly.merge`, `Orderly.assemble`: what keeps messages whole
-/

namespace Nanortc.Spec

open Nanortc.ForStd Nanortc.Native

variable {r : SctpRecv} {held : Holding}

/-! ### The order of the table -/

/-- The descriptor `b` waits behind `a` with the next fragment of its message. -/
def NextOf (r : SctpRecv) (a b : RxSlot) : Prop :=
  Waiting r a ∧ Waiting r b ∧ nsctpFragmentsFollow (r.rx a) (r.rx b) = true

instance (r : SctpRecv) (a b : RxSlot) : Decidable (NextOf r a b) :=
  inferInstanceAs (Decidable (_ ∧ _ ∧ _))

/-- The descriptor `b` is further back in the run of `a`. -/
def Behind (r : SctpRecv) : RxSlot → RxSlot → Prop := Relation.TransGen (NextOf r)

/-- No descriptor that waits is continued by this one. -/
def FirstStored (r : SctpRecv) (h : RxSlot) : Prop := ∀ p, ¬NextOf r p h

/-- Of the fragments of a run that can be joined to their successors, the first stands before the
others in the table. -/
def HeadsFirst (r : SctpRecv) : Prop :=
  ∀ h j k, nsctpRxJoinable r.cumulativeTsn (r.rx j) (r.rx k) = true → Behind r h j →
    FirstStored r h → h < j

theorem nextOf_of_joinable {j k : RxSlot}
    (h : nsctpRxJoinable r.cumulativeTsn (r.rx j) (r.rx k) = true) :
    NextOf r j k ∧ aheadOf r k ≤ 0 := by
  obtain ⟨hvj, hdj, hvk, hdk, hold, hfollow⟩ := (nsctpRxJoinable_iff ..).mp h
  exact ⟨⟨⟨hvj, hdj⟩, ⟨hvk, hdk⟩, hfollow⟩, hold⟩

theorem joinable_of_nextOf {j k : RxSlot} (h : NextOf r j k) (hold : aheadOf r k ≤ 0) :
    nsctpRxJoinable r.cumulativeTsn (r.rx j) (r.rx k) = true :=
  (nsctpRxJoinable_iff ..).mpr ⟨h.1.1, h.1.2, h.2.1.1, h.2.1.2, hold, h.2.2⟩

theorem NextOf.tsn {a b : RxSlot} (h : NextOf r a b) : (r.rx b).tsn = (r.rx a).tsn + 1 :=
  ((nsctpFragmentsFollow_iff _ _).mp h.2.2).1

/-- A TSN lies as much further back as it precedes another one. -/
theorem i32_back {x c : UInt32} {k : Nat} (hk : k ≤ 2 ^ 12)
    (hlo : (k : Int) - 2 ^ 31 ≤ i32 (x + UInt32.ofNat k - c)) :
    i32 (x - c) = i32 (x + UInt32.ofNat k - c) - k := by
  have hx := x.toNat_lt
  have hc := c.toNat_lt
  rw [i32_eq, UInt32.toNat_sub, UInt32.toNat_add, UInt32.toNat_ofNat'] at hlo
  rw [i32_eq, i32_eq, UInt32.toNat_sub, UInt32.toNat_sub, UInt32.toNat_add, UInt32.toNat_ofNat']
  split at hlo <;> split <;> omega

/-- A fragment lies right behind the one that it continues. -/
theorem NextOf.aheadOf_eq {margin : Int} (hrecent : RecentBy margin r) (hmargin : 1 ≤ margin)
    {a b : RxSlot} (h : NextOf r a b) : aheadOf r a = aheadOf r b - 1 := by
  have hlo := hrecent b h.2.1
  unfold aheadOf at hlo ⊢
  rw [h.tsn] at hlo ⊢
  exact i32_back (k := 1) (by omega) (by
    push_cast
    exact (Int.sub_le_sub_right hmargin _).trans hlo)

/-- What is behind in a run is further ahead. -/
theorem Behind.aheadOf_lt {margin : Int} (hrecent : RecentBy margin r) (hmargin : 1 ≤ margin)
    {a b : RxSlot} (h : Behind r a b) : aheadOf r a < aheadOf r b := by
  induction h with
  | single hab =>
    have := hab.aheadOf_eq hrecent hmargin
    omega
  | tail _ hbc ih =>
    have := hbc.aheadOf_eq hrecent hmargin
    omega

/-- A run goes on from the descriptor to the next one, which is not further ahead than the end. -/
theorem Behind.next {margin : Int} (hrecent : RecentBy margin r) (hmargin : 1 ≤ margin)
    {a b : RxSlot} (h : Behind r a b) : ∃ n, NextOf r a n ∧ aheadOf r n ≤ aheadOf r b := by
  obtain ⟨n, han, hnb⟩ := Relation.TransGen.head'_iff.mp h
  refine ⟨n, han, ?_⟩
  cases Relation.reflTransGen_iff_eq_or_transGen.mp hnb with
  | inl heq => rw [heq]
  | inr hnb => exact Int.le_of_lt (Behind.aheadOf_lt hrecent hmargin hnb)

/-- Every descriptor that continues another one has the first of its run before it. -/
theorem exists_firstStored {margin : Int} (hrecent : RecentBy margin r) (hmargin : 1 ≤ margin)
    {n : Nat} {p j : RxSlot} (hn : (aheadOf r j + 2 ^ 31).toNat ≤ n) (hpj : NextOf r p j) :
    ∃ h, Behind r h j ∧ FirstStored r h := by
  induction n generalizing p j with
  | zero =>
    have := hpj.aheadOf_eq hrecent hmargin
    have := hrecent p hpj.1
    omega
  | succ n ih =>
    have hback := hpj.aheadOf_eq hrecent hmargin
    by_cases hfirst : FirstStored r p
    · exact ⟨p, .single hpj, hfirst⟩
    · unfold FirstStored at hfirst
      push Not at hfirst
      obtain ⟨q, hqp⟩ := hfirst
      have hlo := hrecent p hpj.1
      obtain ⟨h, hbehind, hh⟩ := ih (by omega) hqp
      exact ⟨h, hbehind.tail hpj, hh⟩

/-! ### The pair that is joined -/

/-- The pair of descriptors that is joined has the least first one. -/
theorem nsctpRxFindJoin_first {i j : RxSlot} (h : nsctpRxFindJoin r = some (i, j)) {k l : RxSlot}
    (hjoin : nsctpRxJoinable r.cumulativeTsn (r.rx k) (r.rx l) = true) : i ≤ k := by
  unfold nsctpRxFindJoin at h
  obtain ⟨front, i', back, hsplit, hi', hfront⟩ := List.findSome?_eq_some_iff.mp h
  obtain ⟨j', -, heq⟩ := Option.map_eq_some_iff.mp hi'
  obtain ⟨rfl, rfl⟩ := Prod.mk.inj heq
  by_contra hlt
  -- what stands before the pair in the table has no partner
  have hk : k ∈ front := by
    have hsorted := List.pairwise_lt_finRange sctpMaxRecvGap
    have hmem := List.mem_finRange k
    rw [hsplit] at hsorted hmem
    rw [List.mem_append, List.mem_cons] at hmem
    rcases hmem with hmem | rfl | hmem
    · exact hmem
    · exact absurd (le_refl k) hlt
    · have := (List.pairwise_cons.mp (List.pairwise_append.mp hsorted).2.1).1 k hmem
      exact absurd this.le hlt
  have hnone := hfront k hk
  rw [Option.map_eq_none_iff, List.find?_eq_none] at hnone
  exact hnone l (List.mem_finRange l) hjoin

/-- **The pair that is joined begins at the first stored fragment of its run.** -/
theorem HeadsFirst.firstStored {margin : Int} (h : HeadsFirst r) (hrecent : RecentBy margin r)
    (hmargin : 1 ≤ margin) {i j : RxSlot} (hfind : nsctpRxFindJoin r = some (i, j)) :
    FirstStored r i := by
  have hjoin := nsctpRxFindJoin_some hfind
  intro p hpi
  obtain ⟨hnext, hold⟩ := nextOf_of_joinable hjoin
  obtain ⟨f, hbehind, hf⟩ := exists_firstStored hrecent hmargin (Nat.le_refl _) hpi
  have hlt := h f i j hjoin hbehind hf
  -- the first fragment has a successor as well, and was passed over
  obtain ⟨n, hfn, hn⟩ := hbehind.next hrecent hmargin
  have := hnext.aheadOf_eq hrecent hmargin
  have hle := nsctpRxFindJoin_first hfind (joinable_of_nextOf hfn (by omega))
  exact absurd (hlt.trans_le hle) (lt_irrefl f)

/-- What continues what after a join: the first descriptor is continued by what continued the
second, and itself continues nothing. -/
theorem nextOf_join (hdistinct : TsnsDistinct r) {i j : RxSlot}
    (hjoin : nsctpRxJoinable r.cumulativeTsn (r.rx i) (r.rx j) = true) {a b : RxSlot} :
    NextOf (nsctpRxJoin r i j) a b ↔
      a ≠ j ∧ b ≠ j ∧ b ≠ i ∧ (if a = i then NextOf r j b else NextOf r a b) := by
  have hij := nsctpRxJoinable_ne hjoin
  obtain ⟨⟨hwi, hwj, hfollow⟩, -⟩ := nextOf_of_joinable hjoin
  obtain ⟨htsn, hsid, hssn, hppid, hunordered, hunfinished, -⟩ :=
    (nsctpFragmentsFollow_iff _ _).mp hfollow
  rw [hasFlag_xor_unordered] at hunordered
  have hself := nsctpRxJoin_first r hij
  have hsame {k : RxSlot} (hk : k ≠ i) : SameMessage (r.rx k) ((nsctpRxJoin r i j).rx k) :=
    .of_core ((nsctpRxJoin_core r hij).2.1 k hk)
  obtain ⟨hend, -, hu⟩ := hasFlag_join (r.rx i).flags (r.rx j).flags
  rw [hunfinished, Bool.false_or] at hend
  -- with the TSN of the second descriptor, the first one continues nothing
  have hnone (hb : NextOf (nsctpRxJoin r i j) a i) : False := by
    have hnext := hb.tsn
    rw [hself.tsn] at hnext
    dsimp only at hnext
    rw [htsn] at hnext
    by_cases hai : a = i
    · subst hai
      rw [hself.tsn] at hnext
      dsimp only at hnext
      rw [htsn] at hnext
      exact absurd hnext (by simp)
    · rw [(hsame hai).tsn] at hnext
      have hwa := (waiting_join hij a).mp hb.1
      exact hai (hdistinct a i hwa.2.1 hwi.1 ((UInt32.add_left_inj 1).mp hnext).symm)
  have hfirst {b : RxSlot} (hbi : b ≠ i) :
      nsctpFragmentsFollow ((nsctpRxJoin r i j).rx i) ((nsctpRxJoin r i j).rx b) =
        nsctpFragmentsFollow (r.rx j) (r.rx b) := by
    rw [Bool.eq_iff_iff, nsctpFragmentsFollow_iff, nsctpFragmentsFollow_iff, hasFlag_xor_unordered,
      hasFlag_xor_unordered, hself.tsn, hself.streamId, hself.ssn, hself.ppid, hself.flags,
      (hsame hbi).tsn, (hsame hbi).streamId, (hsame hbi).ssn, (hsame hbi).ppid, (hsame hbi).flags]
    dsimp only
    rw [hend, hu, hunordered, hsid, hssn, hppid]
  constructor
  · intro h
    have hwa := (waiting_join hij a).mp h.1
    have hwb := (waiting_join hij b).mp h.2.1
    have hbi : b ≠ i := by
      rintro rfl
      exact hnone h
    refine ⟨hwa.1, hwb.1, hbi, ?_⟩
    split
    · rename_i hai
      subst hai
      exact ⟨hwj, hwb.2, by rw [← hfirst hbi]; exact h.2.2⟩
    · rename_i hai
      exact ⟨hwa.2, hwb.2, by rw [← fragmentsFollow_congr (hsame hai) (hsame hbi)]; exact h.2.2⟩
  · rintro ⟨haj, hbj, hbi, h⟩
    split at h
    · rename_i hai
      subst hai
      exact ⟨(waiting_join hij a).mpr ⟨haj, hwi⟩, (waiting_join hij b).mpr ⟨hbj, h.2.1⟩, by
        rw [hfirst hbi]
        exact h.2.2⟩
    · rename_i hai
      exact ⟨(waiting_join hij a).mpr ⟨haj, h.1⟩, (waiting_join hij b).mpr ⟨hbj, h.2.1⟩, by
        rw [fragmentsFollow_congr (hsame hai) (hsame hbi)]
        exact h.2.2⟩

/-- **The order of the table is kept by a join.** -/
theorem HeadsFirst.join (h : HeadsFirst r) (hdistinct : TsnsDistinct r) {i j : RxSlot}
    (hjoin : nsctpRxJoinable r.cumulativeTsn (r.rx i) (r.rx j) = true)
    (hfirst : FirstStored r i) : HeadsFirst (nsctpRxJoin r i j) := by
  have hij := nsctpRxJoinable_ne hjoin
  obtain ⟨hnext, hold⟩ := nextOf_of_joinable hjoin
  -- a step of a run after the join is one step or two before it
  have hstep {a b : RxSlot} (hab : NextOf (nsctpRxJoin r i j) a b) : Behind r a b := by
    obtain ⟨-, -, -, hab'⟩ := (nextOf_join hdistinct hjoin).mp hab
    split at hab'
    · rename_i hai
      subst hai
      exact .head hnext (.single hab')
    · exact .single hab'
  have hrun {a b : RxSlot} (hab : Behind (nsctpRxJoin r i j) a b) : Behind r a b := by
    induction hab with
    | single h => exact hstep h
    | tail _ h ih => exact ih.trans (hstep h)
  intro f a k hjoin' hbehind hf
  obtain ⟨hak, hk⟩ := nextOf_of_joinable hjoin'
  obtain ⟨haj, hkj, hki, hak'⟩ := (nextOf_join hdistinct hjoin).mp hak
  have hcum := (nsctpRxJoin_frame r i j).1
  have hkold : aheadOf r k ≤ 0 := by
    unfold aheadOf at hk ⊢
    rw [hcum, RxEntry.core_tsn ((nsctpRxJoin_core r hij).2.1 k hki)] at hk
    exact hk
  have hwf : Waiting (nsctpRxJoin r i j) f := by
    obtain ⟨n, hfn, -⟩ := Relation.TransGen.head'_iff.mp hbehind
    exact hfn.1
  have hfj : f ≠ j := ((waiting_join hij f).mp hwf).1
  -- the first fragment of a run was the first one before
  have hf' : FirstStored r f := by
    intro p hp
    by_cases hfi : f = i
    · subst hfi
      exact hfirst p hp
    by_cases hpj : p = j
    · subst hpj
      exact hf i ((nextOf_join hdistinct hjoin).mpr ⟨hij, hfj, hfi, by rwa [if_pos rfl]⟩)
    by_cases hpi : p = i
    · subst hpi
      have htsn := hp.tsn.trans hnext.tsn.symm
      exact hfj (hdistinct f j hp.2.1.1 hnext.2.1.1 htsn)
    · exact hf p ((nextOf_join hdistinct hjoin).mpr ⟨hpj, hfj, hfi, by rwa [if_neg hpi]⟩)
  split at hak'
  · rename_i hai
    subst hai
    exact h f a j hjoin (hrun hbehind) hf'
  · exact h f a k (joinable_of_nextOf hak' hkold) (hrun hbehind) hf'

/-! ### Tables that keep messages whole -/

/-- Whatever is received stays within reach: the rows have different TSNs, a row that continues
another one can still be appended, and neighbours fit. -/
structure Orderly (held : Holding) (r : SctpRecv) : Prop where
  holds : Holds held r
  apart : RowsApart held r
  linked : Linked held r
  consistent : Consistent r

/-- The rule for what takes descriptors away and moves bytes. -/
theorem Orderly.keeps {r' : SctpRecv} (h : Orderly held r) (hkeeps : KeepsWaiting r r')
    (hholds : Holds held r') : Orderly held r' := by
  constructor
  · exact hholds
  · exact fun i j hi hj => h.apart i j (hkeeps.sub i hi) (hkeeps.sub j hj)
  · exact fun i j hi hj => h.linked i j (hkeeps.sub i hi) (hkeeps.sub j hj)
  · intro i j hi hj htsn hend
    rw [(hkeeps.same i hi).tsn, (hkeeps.same j hj).tsn] at htsn
    rw [(hkeeps.same i hi).flags] at hend
    rw [fragmentsFollow_congr (hkeeps.same i hi) (hkeeps.same j hj)]
    exact h.consistent i j (hkeeps.sub i hi) (hkeeps.sub j hj) htsn hend

theorem Orderly.reclaim (h : Orderly held r) : Orderly held (nsctpRxReclaim r) :=
  h.keeps (keepsWaiting_reclaim h.holds.pooled) h.holds.reclaim

theorem Orderly.drain (h : Orderly held r) (hrecent : Recent r) :
    Orderly held (nsctpGapDrain r) :=
  h.keeps (keepsWaiting_drain h.holds.pooled) (h.holds.drain hrecent)

theorem Orderly.assemble (h : Orderly held r) {parts : List RxSlot} (hnodup : parts.Nodup)
    (hwaiting : ∀ j ∈ parts, Waiting r j) : Orderly held (nsctpAssemble r parts).1 := by
  obtain ⟨-, -, hbytes⟩ :=
    nsctpAssemble_data h.holds.pooled hnodup fun j hj => (hwaiting j hj).1
  exact h.keeps ⟨fun k hk => ((waiting_assemble k).mp hk).2, fun k _ => (nsctpAssemble_rx r parts k).1,
    fun k hk => hbytes k ((waiting_assemble k).mp hk).2.1⟩ (h.holds.assemble hnodup hwaiting)

/-- The chunks of a row other than the last one lie behind the cumulative TSN. -/
theorem Holds.behind (h : Holds held r) (hrecent : Recent r) {i : RxSlot} (hi : Waiting r i)
    {x : NsctpData} (hx : x ∈ held i) : x.tsn = (r.rx i).tsn ∨
      i32 (x.tsn - r.cumulativeTsn) < 0 ∧ 2 ^ 12 - 2 ^ 31 ≤ i32 (x.tsn - r.cumulativeTsn) := by
  have hstands := h.stands i hi
  have hlen := h.length_le hi
  have hsettled := h.settled i hi
  have hsize : sctpRecvGapBufSize = 4096 := rfl
  obtain ⟨d, ds, hrow⟩ := List.exists_cons_of_ne_nil hstands.nonempty
  rw [hrow] at hx hlen hsettled hstands
  obtain ⟨k, hk, rfl⟩ := List.getElem_of_mem hx
  have hlast : (d :: ds)[(d :: ds).length - 1] ∈ (d :: ds).getLast? := by
    rw [List.getLast?_eq_getElem?]
    exact List.getElem?_eq_getElem (by simp)
  have htsn := (hstands.last _ hlast).1
  by_cases hkl : k = (d :: ds).length - 1
  · left
    rw [htsn]
    simp only [hkl]
  · right
    have hle := hsettled (by omega)
    have hlo := hrecent i hi
    unfold aheadOf at hle hlo
    -- the TSN of the row is that of the chunk and as many steps
    have hsteps : (r.rx i).tsn =
        ((d :: ds)[k]).tsn + UInt32.ofNat ((d :: ds).length - 1 - k) := by
      rw [htsn, hstands.row_tsn k hk, hstands.row_tsn _ (by omega), UInt32.add_assoc,
        ← UInt32.ofNat_add]
      congr 2
      omega
    rw [hsteps] at hle hlo
    rw [i32_back (k := (d :: ds).length - 1 - k) (by omega) (by omega)]
    omega

/-- **A stored chunk that fits its neighbours keeps messages whole.** -/
theorem Orderly.store (h : Orderly held r) (hrecent : Recent r) {slot : RxSlot} {d : NsctpData}
    (hfree : (r.rx slot).valid = false)
    (hfit : r.recvGapBufUsed + d.payload.length ≤ sctpRecvGapBufSize)
    (hnew : ∀ i, (r.rx i).valid = true → (r.rx i).tsn ≠ d.tsn)
    (hahead : 0 < i32 (d.tsn - r.cumulativeTsn))
    (hsolid : hasFlag d.flags sctpDataFlagEnd = false → d.payload ≠ [])
    (hbefore : ∀ i, Waiting r i → d.tsn = (r.rx i).tsn + 1 →
      hasFlag (r.rx i).flags sctpDataFlagEnd = false →
      nsctpFragmentsFollow (r.rx i) (nsctpIncoming d) = true)
    (hbehind : ∀ j, Waiting r j → (r.rx j).tsn = d.tsn + 1 →
      hasFlag d.flags sctpDataFlagEnd = false →
      nsctpFragmentsFollow (nsctpIncoming d) (r.rx j) = true) :
    Orderly (Function.update held slot [d]) (nsctpStore r slot d) := by
  have hsame : SameMessage (nsctpIncoming d) ((nsctpStore r slot d).rx slot) := by
    rw [nsctpStore_self]
    exact ⟨rfl, rfl, rfl, rfl, rfl⟩
  have hold {i : RxSlot} (hi : Waiting (nsctpStore r slot d) i) (hne : i ≠ slot) : Waiting r i :=
    ((waiting_store d i).mp hi).resolve_left hne
  -- no chunk of another row has the TSN of the new one
  have hother {j : RxSlot} (hj : Waiting r j) {y : NsctpData} (hy : y ∈ held j) :
      d.tsn ≠ y.tsn := by
    intro heq
    cases h.holds.behind hrecent hj hy with
    | inl htsn => exact hnew j hj.1 (htsn.symm.trans heq.symm)
    | inr hlt =>
      rw [heq] at hahead
      omega
  constructor
  · exact h.holds.store hrecent hfree hfit hnew hahead hsolid
  · intro i j hi hj x hx y hy hxy
    by_cases his : i = slot
    · by_cases hjs : j = slot
      · rw [his, hjs]
      · rw [his, Function.update_self, List.mem_singleton] at hx
        rw [Function.update_of_ne hjs] at hy
        exact absurd (hx ▸ hxy) (hother (hold hj hjs) hy)
    · rw [Function.update_of_ne his] at hx
      by_cases hjs : j = slot
      · rw [hjs, Function.update_self, List.mem_singleton] at hy
        exact absurd (hy ▸ hxy).symm (hother (hold hi his) hx)
      · rw [Function.update_of_ne hjs] at hy
        exact h.apart i j (hold hi his) (hold hj hjs) x hx y hy hxy
  · intro i j hi hj x hx y hy hxy
    by_cases hjs : j = slot
    · rw [hjs, Function.update_self, List.length_singleton]
    rw [Function.update_of_ne hjs] at hy ⊢
    by_cases his : i = slot
    · rw [his, Function.update_self] at hx
      have hdx : d = x := by simpa using hx
      rw [← hdx] at hxy
      -- what continues the new chunk lies ahead, so it was not joined
      by_contra hlen
      have hwj := hold hj hjs
      have hrow := h.holds.stands j hwj
      have hpos := List.length_pos_iff.mpr hrow.nonempty
      have hle := h.holds.settled j hwj (by omega)
      have hlo := hrecent j hwj
      have hyj : y ∈ held j := List.mem_of_mem_head? hy
      have heq : y.tsn - r.cumulativeTsn = d.tsn - r.cumulativeTsn + 1 := by
        rw [hxy.tsn, UInt32.sub_eq_add_neg, UInt32.sub_eq_add_neg, UInt32.add_assoc,
          UInt32.add_assoc, UInt32.add_comm 1]
      have hsucc := i32_succ_of_pos hahead
      rw [← heq] at hsucc
      unfold aheadOf at hle hlo
      cases h.holds.behind hrecent hwj hyj with
      | inl htsn =>
        rw [htsn] at hsucc
        omega
      | inr hlt => omega
    · rw [Function.update_of_ne his] at hx
      exact h.linked i j (hold hi his) (hold hj hjs) x hx y hy hxy
  · intro i j hi hj htsn hend
    by_cases his : i = slot
    · rw [his, hsame.flags, (hasFlag_incoming d).1] at hend
      rw [his, hsame.tsn] at htsn
      by_cases hjs : j = slot
      · rw [hjs, hsame.tsn] at htsn
        exact absurd htsn (by simp)
      · rw [nsctpStore_other r d hjs] at htsn
        rw [his, fragmentsFollow_congr hsame (.refl _), nsctpStore_other r d hjs]
        exact hbehind j (hold hj hjs) htsn hend
    · rw [nsctpStore_other r d his] at htsn hend ⊢
      by_cases hjs : j = slot
      · rw [hjs, hsame.tsn] at htsn
        rw [hjs, fragmentsFollow_congr (.refl _) hsame]
        exact hbefore i (hold hi his) htsn hend
      · rw [nsctpStore_other r d hjs] at htsn ⊢
        exact h.consistent i j (hold hi his) (hold hj hjs) htsn hend

/-- **A join that begins at the first stored fragment keeps messages whole.** -/
theorem Orderly.join (h : Orderly held r) {i j : RxSlot}
    (hjoin : nsctpRxJoinable r.cumulativeTsn (r.rx i) (r.rx j) = true)
    (hfirst : FirstStored r i) : Orderly (heldJoin held i j) (nsctpRxJoin r i j) := by
  have hij := nsctpRxJoinable_ne hjoin
  obtain ⟨hnext, -⟩ := nextOf_of_joinable hjoin
  obtain ⟨hwi, hwj, hfollow⟩ := hnext
  have hback {k : RxSlot} (hk : Waiting (nsctpRxJoin r i j) k) := (waiting_join hij k).mp hk
  have hsame {k : RxSlot} (hk : k ≠ i) : SameMessage (r.rx k) ((nsctpRxJoin r i j).rx k) :=
    .of_core ((nsctpRxJoin_core r hij).2.1 k hk)
  -- a chunk of a row after the join was in that row, or in the row that was appended
  have hrow {k : RxSlot} {x : NsctpData} (hk : Waiting (nsctpRxJoin r i j) k)
      (hx : x ∈ heldJoin held i j k) :
      ∃ l, Waiting r l ∧ x ∈ held l ∧ (l = k ∨ k = i ∧ l = j) := by
    unfold heldJoin at hx
    by_cases hki : k = i
    · subst hki
      rw [Function.update_self, List.mem_append] at hx
      exact hx.elim (fun hx => ⟨k, hwi, hx, .inl rfl⟩) fun hx => ⟨j, hwj, hx, .inr ⟨rfl, rfl⟩⟩
    · rw [Function.update_of_ne hki] at hx
      exact ⟨k, (hback hk).2, hx, .inl rfl⟩
  have hlen := h.holds.solo i j hwi hwj hfollow
  obtain ⟨d, hd⟩ := List.length_eq_one_iff.mp hlen
  constructor
  · exact h.holds.join hjoin
  · intro k l hk hl x hx y hy hxy
    obtain ⟨k', hwk', hx', hk'⟩ := hrow hk hx
    obtain ⟨l', hwl', hy', hl'⟩ := hrow hl hy
    have heq := h.apart k' l' hwk' hwl' x hx' y hy' hxy
    have hkj := (hback hk).1
    have hlj := (hback hl).1
    grind
  · intro k l hk hl x hx y hy hxy
    have hli : l ≠ i := by
      rintro rfl
      -- the row continued nothing before the join, and begins as it did
      have hy' : y ∈ (held l).head? := by
        unfold heldJoin at hy
        rw [Function.update_self] at hy
        obtain ⟨z, zs, hz⟩ := List.exists_cons_of_ne_nil (h.holds.stands l hwi).nonempty
        rw [hz] at hy ⊢
        exact hy
      have hxl : ∃ k', Waiting r k' ∧ x ∈ (held k').getLast? := by
        unfold heldJoin at hx
        by_cases hkl : k = l
        · subst hkl
          rw [Function.update_self, hd, List.getLast?_append] at hx
          exact ⟨j, hwj, by rw [hd]; simpa using hx⟩
        · rw [Function.update_of_ne hkl] at hx
          exact ⟨k, (hback hk).2, hx⟩
      obtain ⟨k', hwk', hxk'⟩ := hxl
      have hone := h.linked k' l hwk' hwi x hxk' y hy' hxy
      obtain ⟨z, hz⟩ := List.length_eq_one_iff.mp hone
      obtain rfl : z = y := by simpa [hz] using hy'
      exact hfirst k' ⟨hwk', hwi, (h.holds.stands k' hwk').fragmentsFollow
        (hz ▸ h.holds.stands l hwi) hxk' hxy⟩
    unfold heldJoin at hx hy ⊢
    rw [Function.update_of_ne hli] at hy ⊢
    by_cases hki : k = i
    · subst hki
      rw [Function.update_self, hd, List.getLast?_append] at hx
      exact h.linked j l hwj (hback hl).2 x (by rw [hd]; simpa using hx) y hy hxy
    · rw [Function.update_of_ne hki] at hx
      exact h.linked k l (hback hk).2 (hback hl).2 x hx y hy hxy
  · intro k l hk hl htsn hend
    have hself := nsctpRxJoin_first r hij
    obtain ⟨hjtsn, -, -, -, -, hunfinished, -⟩ := (nsctpFragmentsFollow_iff _ _).mp hfollow
    have hli : l ≠ i := by
      rintro rfl
      rw [hself.tsn] at htsn
      dsimp only at htsn
      rw [hjtsn] at htsn
      by_cases hkl : k = l
      · subst hkl
        rw [hself.tsn] at htsn
        dsimp only at htsn
        rw [hjtsn] at htsn
        exact absurd htsn (by simp)
      · rw [(hsame hkl).tsn] at htsn
        exact hkl (h.holds.distinct k l (hback hk).2.1 hwi.1 ((UInt32.add_left_inj 1).mp htsn).symm)
    rw [(hsame hli).tsn] at htsn
    have hnext : NextOf (nsctpRxJoin r i j) k l := by
      refine (nextOf_join h.holds.distinct hjoin).mpr ⟨(hback hk).1, (hback hl).1, hli, ?_⟩
      split
      · rename_i hki
        subst hki
        rw [hself.tsn] at htsn
        rw [hself.flags] at hend
        dsimp only at htsn hend
        rw [(hasFlag_join _ _).1, hunfinished, Bool.false_or] at hend
        exact ⟨hwj, (hback hl).2, h.consistent j l hwj (hback hl).2 htsn hend⟩
      · rename_i hki
        rw [(hsame hki).tsn] at htsn
        rw [(hsame hki).flags] at hend
        exact ⟨(hback hk).2, (hback hl).2, h.consistent k l (hback hk).2 (hback hl).2 htsn hend⟩
    exact hnext.2.2

/-! ### Merging -/

/-- The pairs that are joined are those that the search finds. -/
theorem mem_nsctpRxJoins {turns : Nat} {t : SctpRecv} {i j : RxSlot}
    (h : (t, i, j) ∈ nsctpRxJoins turns r) : nsctpRxFindJoin t = some (i, j) := by
  induction turns generalizing r with
  | zero => exact absurd h List.not_mem_nil
  | succ turns ih =>
    unfold nsctpRxJoins at h
    cases hfind : nsctpRxFindJoin r with
    | none =>
      rw [hfind] at h
      exact absurd h List.not_mem_nil
    | some p =>
      obtain ⟨k, l⟩ := p
      rw [hfind] at h
      dsimp only at h
      split at h
      · exact absurd h List.not_mem_nil
      · cases List.mem_cons.mp h with
        | inl heq =>
          obtain ⟨rfl, hkl⟩ := Prod.mk.inj heq
          obtain ⟨rfl, rfl⟩ := Prod.mk.inj hkl
          exact hfind
        | inr hmem => exact ih hmem

/-- A join leaves what is recent. -/
theorem RecentBy.join {margin : Int} (h : RecentBy margin r) {i j : RxSlot}
    (hjoin : nsctpRxJoinable r.cumulativeTsn (r.rx i) (r.rx j) = true) :
    RecentBy margin (nsctpRxJoin r i j) := by
  have hij := nsctpRxJoinable_ne hjoin
  obtain ⟨⟨-, hwj, -⟩, -⟩ := nextOf_of_joinable hjoin
  intro k hk
  have hlo := h k ((waiting_join hij k).mp hk).2
  unfold aheadOf at hlo ⊢
  rw [(nsctpRxJoin_frame r i j).1]
  by_cases hki : k = i
  · subst hki
    rw [(nsctpRxJoin_first r hij).tsn]
    exact h j hwj
  · rw [RxEntry.core_tsn ((nsctpRxJoin_core r hij).2.1 k hki)]
    exact hlo

/-- **Merging keeps messages whole**, when the first fragment of each run stands before the
others. -/
theorem Orderly.merge (h : Orderly held r) (hheads : HeadsFirst r) {margin : Int}
    (hrecent : RecentBy margin r) (hmargin : 1 ≤ margin) :
    ∃ held', Orderly held' (nsctpRxMerge r).1 ∧ inbox held' (nsctpRxMerge r).1 = inbox held r := by
  obtain ⟨held', hmerged, hinbox, -, -⟩ := nsctpRxMergeLoop_induction
    (P := fun t => ∃ held', Orderly held' t ∧ inbox held' t = inbox held r ∧ HeadsFirst t ∧
      RecentBy margin t) ⟨held, h, rfl, hheads, hrecent⟩
    fun t i j hmem ht hjoin => by
      obtain ⟨held', htable, hinbox, hheads, hrecent⟩ := ht
      have hfirst := hheads.firstStored hrecent hmargin (mem_nsctpRxJoins hmem)
      exact ⟨heldJoin held' i j, htable.join hjoin hfirst, (inbox_join hjoin).trans hinbox,
        hheads.join htable.holds.distinct hjoin hfirst, hrecent.join hjoin⟩
  exact ⟨held', hmerged, hinbox⟩

end Nanortc.Spec
