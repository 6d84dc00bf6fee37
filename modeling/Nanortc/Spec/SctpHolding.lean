import Mathlib
import Nanortc.Spec.SctpPool
import Nanortc.Spec.SctpSack

/-!
# What the receive table stands for

Every descriptor that waits for delivery stands for a row of received DATA chunks, the fragments of
one message that were joined. A history keeps the row of each descriptor beside the table: storing a
chunk starts a row, a join appends one row to another, and a delivery takes the rows of its parts
away. Whatever the peer sends, a descriptor holds the payloads of its row in order, and a fragment
that is joined to another is a single chunk.

## Key results

- `StandsFor.join`: joined fragments stand for both rows
- `Holds.drain`, `Holds.store`, `Holds.join`, `Holds.assemble`: the table keeps holding what it
  stands for
- `inbox_store`, `inbox_join`, `inbox_assemble`: the chunks that wait, as one collection
-/

namespace Nanortc.Spec

open Nanortc.ForStd Nanortc.Native

/-! ### Flags -/

theorem hasFlag_end (f : UInt8) : hasFlag f sctpDataFlagEnd = f.toBitVec.getLsbD 0 := by
  have h : ∀ i : Fin 256, hasFlag (UInt8.ofNat i.1) sctpDataFlagEnd =
      (UInt8.ofNat i.1).toBitVec.getLsbD 0 := by decide +kernel
  have := h ⟨f.toNat, f.toNat_lt⟩
  rwa [UInt8.ofNat_toNat] at this

theorem hasFlag_begin (f : UInt8) : hasFlag f sctpDataFlagBegin = f.toBitVec.getLsbD 1 := by
  have h : ∀ i : Fin 256, hasFlag (UInt8.ofNat i.1) sctpDataFlagBegin =
      (UInt8.ofNat i.1).toBitVec.getLsbD 1 := by decide +kernel
  have := h ⟨f.toNat, f.toNat_lt⟩
  rwa [UInt8.ofNat_toNat] at this

theorem hasFlag_unordered (f : UInt8) :
    hasFlag f sctpDataFlagUnordered = f.toBitVec.getLsbD 2 := by
  have h : ∀ i : Fin 256, hasFlag (UInt8.ofNat i.1) sctpDataFlagUnordered =
      (UInt8.ofNat i.1).toBitVec.getLsbD 2 := by decide +kernel
  have := h ⟨f.toNat, f.toNat_lt⟩
  rwa [UInt8.ofNat_toNat] at this

/-- The flags of joined fragments: those of the first, and whether the second is the last. -/
theorem hasFlag_join (f g : UInt8) :
    hasFlag (f ||| (g &&& sctpDataFlagEnd)) sctpDataFlagEnd =
      (hasFlag f sctpDataFlagEnd || hasFlag g sctpDataFlagEnd) ∧
    hasFlag (f ||| (g &&& sctpDataFlagEnd)) sctpDataFlagBegin = hasFlag f sctpDataFlagBegin ∧
    hasFlag (f ||| (g &&& sctpDataFlagEnd)) sctpDataFlagUnordered =
      hasFlag f sctpDataFlagUnordered := by
  simp only [hasFlag_end, hasFlag_begin, hasFlag_unordered]
  simp [sctpDataFlagEnd]

/-- The flags that `nsctp_handle_data_chunk` keeps. -/
theorem hasFlag_incoming (d : NsctpData) :
    hasFlag (nsctpIncoming d).flags sctpDataFlagEnd = hasFlag d.flags sctpDataFlagEnd ∧
    hasFlag (nsctpIncoming d).flags sctpDataFlagBegin = hasFlag d.flags sctpDataFlagBegin ∧
    hasFlag (nsctpIncoming d).flags sctpDataFlagUnordered =
      hasFlag d.flags sctpDataFlagUnordered := by
  simp only [hasFlag_end, hasFlag_begin, hasFlag_unordered]
  simp [nsctpIncoming, sctpDataFlagEnd, sctpDataFlagBegin, sctpDataFlagUnordered]

theorem hasFlag_xor_unordered (f g : UInt8) :
    hasFlag (f ^^^ g) sctpDataFlagUnordered = false ↔
      hasFlag f sctpDataFlagUnordered = hasFlag g sctpDataFlagUnordered := by
  simp [hasFlag_unordered]

/-! ### Rows of fragments -/

/-- `b` is the next fragment of the message of `a`. -/
structure Follows (a b : NsctpData) : Prop where
  tsn : b.tsn = a.tsn + 1
  streamId : a.streamId = b.streamId
  ssn : a.ssn = b.ssn
  ppid : a.ppid = b.ppid
  unordered : hasFlag a.flags sctpDataFlagUnordered = hasFlag b.flags sctpDataFlagUnordered
  unfinished : hasFlag a.flags sctpDataFlagEnd = false
  continues : hasFlag b.flags sctpDataFlagBegin = false

/-- The descriptor stands for a row of fragments. -/
structure StandsFor (e : RxEntry) (ds : List NsctpData) : Prop where
  nonempty : ds ≠ []
  chain : ds.IsChain Follows
  last : ∀ d ∈ ds.getLast?, e.tsn = d.tsn ∧
    hasFlag e.flags sctpDataFlagEnd = hasFlag d.flags sctpDataFlagEnd
  first : ∀ d ∈ ds.head?, hasFlag e.flags sctpDataFlagBegin = hasFlag d.flags sctpDataFlagBegin
  same : ∀ d ∈ ds, d.streamId = e.streamId ∧ d.ssn = e.ssn ∧ d.ppid = e.ppid ∧
    hasFlag d.flags sctpDataFlagUnordered = hasFlag e.flags sctpDataFlagUnordered

/-- The descriptors name the same fragments. -/
structure SameMessage (e e' : RxEntry) : Prop where
  tsn : e'.tsn = e.tsn
  flags : e'.flags = e.flags
  streamId : e'.streamId = e.streamId
  ssn : e'.ssn = e.ssn
  ppid : e'.ppid = e.ppid

theorem SameMessage.refl (e : RxEntry) : SameMessage e e := ⟨rfl, rfl, rfl, rfl, rfl⟩

theorem SameMessage.of_core {e e' : RxEntry} (h : e'.core = e.core) : SameMessage e e' :=
  ⟨RxEntry.core_tsn h, RxEntry.core_flags h, RxEntry.core_streamId h, RxEntry.core_ssn h,
    RxEntry.core_ppid h⟩

theorem StandsFor.congr {e e' : RxEntry} {ds : List NsctpData} (h : StandsFor e ds)
    (hsame : SameMessage e e') : StandsFor e' ds := by
  obtain ⟨htsn, hflags, hsid, hssn, hppid⟩ := hsame
  constructor
  · exact h.nonempty
  · exact h.chain
  · rw [htsn, hflags]
    exact h.last
  · rw [hflags]
    exact h.first
  · rw [hsid, hssn, hppid, hflags]
    exact h.same

theorem fragmentsFollow_congr {a a' b b' : RxEntry} (ha : SameMessage a a')
    (hb : SameMessage b b') : nsctpFragmentsFollow a' b' = nsctpFragmentsFollow a b := by
  unfold nsctpFragmentsFollow
  rw [ha.tsn, ha.flags, ha.streamId, ha.ssn, ha.ppid, hb.tsn, hb.flags, hb.streamId, hb.ssn,
    hb.ppid]

/-- A stored chunk stands for itself. -/
theorem StandsFor.incoming (d : NsctpData) : StandsFor (nsctpIncoming d) [d] := by
  obtain ⟨hend, hbegin, hunordered⟩ := hasFlag_incoming d
  constructor
  · exact List.cons_ne_nil _ _
  · exact List.isChain_singleton d
  · intro d' hd'
    obtain rfl : d = d' := by simpa using hd'
    exact ⟨rfl, hend⟩
  · intro d' hd'
    obtain rfl : d = d' := by simpa using hd'
    exact hbegin
  · intro d' hd'
    obtain rfl := List.mem_singleton.mp hd'
    exact ⟨rfl, rfl, rfl, hunordered.symm⟩

/-- The last fragment of one row and the first of another, when the descriptors follow each other
and the second stands for one chunk. -/
theorem StandsFor.follows {a b : RxEntry} {ds : List NsctpData} {x d : NsctpData}
    (ha : StandsFor a ds) (hb : StandsFor b [d]) (hfollow : nsctpFragmentsFollow a b = true)
    (hx : x ∈ ds.getLast?) : Follows x d := by
  obtain ⟨htsn, hsid, hssn, hppid, hunordered, hunfinished, hcontinues⟩ :=
    (nsctpFragmentsFollow_iff a b).mp hfollow
  obtain ⟨hxtsn, hxend⟩ := ha.last x hx
  obtain ⟨hxsid, hxssn, hxppid, hxu⟩ := ha.same x (List.mem_of_getLast? hx)
  obtain ⟨hdtsn, -⟩ := hb.last d rfl
  obtain ⟨hdsid, hdssn, hdppid, hdu⟩ := hb.same d List.mem_cons_self
  constructor
  · rw [← hdtsn, htsn, hxtsn]
  · rw [hxsid, hsid, hdsid]
  · rw [hxssn, hssn, hdssn]
  · rw [hxppid, hppid, hdppid]
  · rw [hxu, hdu]
    exact (hasFlag_xor_unordered _ _).mp hunordered
  · rw [← hxend]
    exact hunfinished
  · rw [← hb.first d rfl]
    exact hcontinues

/-- **Joined fragments stand for both rows.** -/
theorem StandsFor.join {a b e : RxEntry} {ds : List NsctpData} {d : NsctpData}
    (ha : StandsFor a ds) (hb : StandsFor b [d]) (hfollow : nsctpFragmentsFollow a b = true)
    (he : SameMessage { a with tsn := b.tsn, flags := a.flags ||| (b.flags &&& sctpDataFlagEnd) } e) :
    StandsFor e (ds ++ [d]) := by
  obtain ⟨-, hsid, hssn, hppid, hunordered, hunfinished, -⟩ :=
    (nsctpFragmentsFollow_iff a b).mp hfollow
  obtain ⟨hend, hbegin, hu⟩ := hasFlag_join a.flags b.flags
  rw [hunfinished, Bool.false_or] at hend
  apply StandsFor.congr _ he
  constructor
  · exact List.append_ne_nil_of_right_ne_nil _ (List.cons_ne_nil _ _)
  · apply ha.chain.append (List.isChain_singleton d)
    intro x hx y hy
    obtain rfl : d = y := by simpa using hy
    exact ha.follows hb hfollow hx
  · intro d' hd'
    obtain rfl : d = d' := by simpa using hd'
    rw [hend]
    exact hb.last d rfl
  · intro d' hd'
    rw [hbegin]
    obtain ⟨x, xs, rfl⟩ := List.exists_cons_of_ne_nil ha.nonempty
    exact ha.first d' hd'
  · intro d' hd'
    rw [hu]
    rw [List.mem_append, List.mem_singleton] at hd'
    cases hd' with
    | inl hmem => exact ha.same d' hmem
    | inr heq =>
      subst heq
      obtain ⟨hdsid, hdssn, hdppid, hdu⟩ := hb.same d' List.mem_cons_self
      refine ⟨hdsid.trans hsid.symm, hdssn.trans hssn.symm, hdppid.trans hppid.symm, ?_⟩
      rw [hdu]
      exact ((hasFlag_xor_unordered _ _).mp hunordered).symm

/-! ### Rows beside the table -/

/-- The row of chunks kept for each descriptor. -/
abbrev Holding := RxSlot → List NsctpData

/-- The descriptor waits for delivery. -/
def Waiting (r : SctpRecv) (i : RxSlot) : Prop :=
  (r.rx i).valid = true ∧ (r.rx i).delivered = false

instance (r : SctpRecv) (i : RxSlot) : Decidable (Waiting r i) :=
  inferInstanceAs (Decidable (_ ∧ _))

/-- How far a descriptor is ahead of the cumulative TSN. -/
def aheadOf (r : SctpRecv) (i : RxSlot) : Int := i32 ((r.rx i).tsn - r.cumulativeTsn)

/-- The descriptors that wait stand for their rows and hold their payloads. -/
structure Holds (held : Holding) (r : SctpRecv) : Prop where
  pooled : Pooled r
  distinct : TsnsDistinct r
  stands : ∀ i, Waiting r i → StandsFor (r.rx i) (held i)
  bytes : ∀ i, Waiting r i → rxBytes r i = (held i).flatMap NsctpData.payload
  solid : ∀ i, Waiting r i → ∀ d ∈ held i, hasFlag d.flags sctpDataFlagEnd = false →
    d.payload ≠ []
  settled : ∀ i, Waiting r i → 1 < (held i).length → aheadOf r i ≤ 0
  solo : ∀ i j, Waiting r i → Waiting r j → nsctpFragmentsFollow (r.rx i) (r.rx j) = true →
    (held j).length = 1

/-- What the descriptors say that still wait is what it was. -/
structure KeepsWaiting (r r' : SctpRecv) : Prop where
  sub : ∀ i, Waiting r' i → Waiting r i
  same : ∀ i, Waiting r' i → SameMessage (r.rx i) (r'.rx i)
  bytes : ∀ i, Waiting r' i → rxBytes r' i = rxBytes r i

/-- The rule for what takes descriptors away and moves bytes. -/
theorem Holds.keeps {held : Holding} {r r' : SctpRecv} (h : Holds held r)
    (hkeeps : KeepsWaiting r r') (hpool : Pooled r') (hdistinct : TsnsDistinct r')
    (hsettled : ∀ i, Waiting r' i → aheadOf r i ≤ 0 → aheadOf r' i ≤ 0) : Holds held r' := by
  constructor
  · exact hpool
  · exact hdistinct
  · exact fun i hi => (h.stands i (hkeeps.sub i hi)).congr (hkeeps.same i hi)
  · intro i hi
    rw [hkeeps.bytes i hi]
    exact h.bytes i (hkeeps.sub i hi)
  · exact fun i hi => h.solid i (hkeeps.sub i hi)
  · exact fun i hi hlen => hsettled i hi (h.settled i (hkeeps.sub i hi) hlen)
  · intro i j hi hj hfollow
    rw [fragmentsFollow_congr (hkeeps.same i hi) (hkeeps.same j hj)] at hfollow
    exact h.solo i j (hkeeps.sub i hi) (hkeeps.sub j hj) hfollow

/-- A descriptor that is not finished has bytes. -/
theorem Holds.filled {held : Holding} {r : SctpRecv} (h : Holds held r) {i : RxSlot}
    (hi : Waiting r i) (hend : hasFlag (r.rx i).flags sctpDataFlagEnd = false) : Filled r i := by
  refine ⟨hi.1, fun hn => ?_⟩
  obtain ⟨d, hd⟩ : ∃ d, d ∈ (held i).getLast? :=
    Option.isSome_iff_exists.mp (List.getLast?_isSome.mpr (h.stands i hi).nonempty)
  have hmem := List.mem_of_getLast? hd
  have hempty : rxBytes r i = [] := by
    unfold rxBytes
    rw [hn, slice_zero]
  rw [h.bytes i hi, List.flatMap_eq_nil_iff] at hempty
  rw [((h.stands i hi).last d hd).2] at hend
  exact h.solid i hi d hmem hend (hempty d hmem)

/-! ### Compaction and drain -/

theorem waiting_reclaim {r : SctpRecv} (i : RxSlot) : Waiting (nsctpRxReclaim r) i ↔ Waiting r i := by
  unfold Waiting
  rw [nsctpRxReclaim_valid, RxEntry.core_delivered (nsctpRxReclaim_core r i)]
  constructor
  · rintro ⟨hv, hd⟩
    rw [Bool.and_eq_true] at hv
    exact ⟨hv.1, hd⟩
  · rintro ⟨hv, hd⟩
    refine ⟨?_, hd⟩
    rw [hv]
    simp [Spent, hd]

theorem keepsWaiting_reclaim {r : SctpRecv} (h : Pooled r) : KeepsWaiting r (nsctpRxReclaim r) where
  sub i hi := (waiting_reclaim i).mp hi
  same i _ := .of_core (nsctpRxReclaim_core r i)
  bytes i hi := by
    obtain ⟨hv, hd⟩ := (waiting_reclaim i).mp hi
    exact rxBytes_reclaim h hv hd

theorem aheadOf_reclaim (r : SctpRecv) (i : RxSlot) :
    aheadOf (nsctpRxReclaim r) i = aheadOf r i := by
  unfold aheadOf
  rw [nsctpRxReclaim_cumulativeTsn, RxEntry.core_tsn (nsctpRxReclaim_core r i)]

theorem Holds.reclaim {held : Holding} {r : SctpRecv} (h : Holds held r) :
    Holds held (nsctpRxReclaim r) :=
  h.keeps (keepsWaiting_reclaim h.pooled) h.pooled.reclaim h.distinct.reclaim fun i _ hle => by
    rw [aheadOf_reclaim]
    exact hle

/-- A receive state that differs in its marks only. -/
theorem Holds.marks {held : Holding} {r r' : SctpRecv} (h : Holds held r) (hsame : SamePool r r')
    (hcum : r'.cumulativeTsn = r.cumulativeTsn) : Holds held r' := by
  have hwait (i : RxSlot) : Waiting r' i ↔ Waiting r i := by
    unfold Waiting
    rw [hsame.rx]
  apply h.keeps _ (h.pooled.same hsame) (h.distinct.marks hsame.recvGap)
  · intro i _ hle
    unfold aheadOf at hle ⊢
    rw [hsame.rx, hcum]
    exact hle
  · exact ⟨fun i => (hwait i).mp, fun i _ => by rw [hsame.rx]; exact .refl _,
      fun i _ => rxBytes_same hsame i⟩

/-- Every descriptor that waits is less than half of the TSN space behind, by a margin. -/
def RecentBy (margin : Int) (r : SctpRecv) : Prop :=
  ∀ i, Waiting r i → margin - 2 ^ 31 ≤ aheadOf r i

/-- No descriptor has waited while almost half of the TSN space was acknowledged. -/
def Recent (r : SctpRecv) : Prop := RecentBy (2 ^ 13) r

/-- Acknowledged TSNs bring what was far enough ahead as much nearer. -/
theorem i32_sub_add {x c : UInt32} {k : Nat} (hk : k ≤ 2 ^ 12)
    (hlo : (k : Int) - 2 ^ 31 ≤ i32 (x - c)) : i32 (x - (c + UInt32.ofNat k)) = i32 (x - c) - k := by
  have hx := x.toNat_lt
  have hc := c.toNat_lt
  rw [i32_eq, UInt32.toNat_sub] at hlo ⊢
  rw [i32_eq, UInt32.toNat_sub, UInt32.toNat_add, UInt32.toNat_ofNat']
  split at hlo <;> split <;> omega

theorem waiting_drain {r : SctpRecv} (i : RxSlot) : Waiting (nsctpGapDrain r) i ↔ Waiting r i := by
  unfold nsctpGapDrain
  rw [waiting_reclaim]
  unfold Waiting
  rw [(nsctpGapDrainLoop_pool r).rx]

theorem keepsWaiting_drain {r : SctpRecv} (h : Pooled r) : KeepsWaiting r (nsctpGapDrain r) where
  sub i hi := (waiting_drain i).mp hi
  same i _ := .of_core (nsctpGapDrain_core r i)
  bytes i hi := by
    obtain ⟨hv, hd⟩ := (waiting_drain i).mp hi
    exact rxBytes_drain h hv hd

/-- What is recent comes a few TSNs nearer in the drain. -/
theorem aheadOf_drain {r : SctpRecv} {i : RxSlot} (hlo : (sctpMaxRecvGap : Int) - 2 ^ 31 ≤ aheadOf r i) :
    ∃ k ≤ sctpMaxRecvGap, aheadOf (nsctpGapDrain r) i = aheadOf r i - k := by
  obtain ⟨k, hk, heq, -⟩ := nsctpGapDrainLoop_eq sctpMaxRecvGap r
  have h8 : sctpMaxRecvGap = 8 := rfl
  have hcum : (nsctpGapDrain r).cumulativeTsn = r.cumulativeTsn + UInt32.ofNat k := by
    unfold nsctpGapDrain
    rw [nsctpRxReclaim_cumulativeTsn, heq]
  refine ⟨k, hk, ?_⟩
  unfold aheadOf at hlo ⊢
  rw [hcum, RxEntry.core_tsn (nsctpGapDrain_core r i), i32_sub_add (by omega) (by omega)]

/-- **The drain keeps what the descriptors stand for.** -/
theorem Holds.drain {held : Holding} {r : SctpRecv} (h : Holds held r) (hrecent : Recent r) :
    Holds held (nsctpGapDrain r) := by
  apply h.keeps (keepsWaiting_drain h.pooled) h.pooled.drain h.distinct.drain
  intro i hi hle
  have hlo := hrecent i ((waiting_drain i).mp hi)
  have h8 : sctpMaxRecvGap = 8 := rfl
  obtain ⟨k, -, hk⟩ := aheadOf_drain (r := r) (i := i) (by omega)
  omega

/-! ### Storing -/

theorem waiting_store {r : SctpRecv} {slot : RxSlot} (d : NsctpData) (i : RxSlot) :
    Waiting (nsctpStore r slot d) i ↔ i = slot ∨ Waiting r i := by
  by_cases hi : i = slot
  · subst hi
    unfold Waiting
    rw [nsctpStore_self]
    simp [nsctpIncoming]
  · unfold Waiting
    rw [nsctpStore_other r d hi]
    simp [hi]

/-- The TSN behind one that is ahead is ahead as well, or on the other side of the number space. -/
theorem i32_succ_of_pos {x : UInt32} (h : 0 < i32 x) : 0 < i32 (x + 1) ∨ i32 (x + 1) = -2 ^ 31 := by
  have hx := x.toNat_lt
  rw [i32_eq] at h
  rw [i32_eq, UInt32.toNat_add, show (1 : UInt32).toNat = 1 from rfl]
  split at h <;> split <;> omega

/-- **A stored chunk starts a row of its own.** -/
theorem Holds.store {held : Holding} {r : SctpRecv} (h : Holds held r) (hrecent : Recent r)
    {slot : RxSlot} {d : NsctpData} (hfree : (r.rx slot).valid = false)
    (hfit : r.recvGapBufUsed + d.payload.length ≤ sctpRecvGapBufSize)
    (hnew : ∀ i, (r.rx i).valid = true → (r.rx i).tsn ≠ d.tsn)
    (hahead : 0 < i32 (d.tsn - r.cumulativeTsn))
    (hsolid : hasFlag d.flags sctpDataFlagEnd = false → d.payload ≠ []) :
    Holds (Function.update held slot [d]) (nsctpStore r slot d) := by
  obtain ⟨hbytes, hothers⟩ := rxBytes_store h.pooled hfree hfit
  have hsame : SameMessage (nsctpIncoming d) ((nsctpStore r slot d).rx slot) := by
    rw [nsctpStore_self]
    exact ⟨rfl, rfl, rfl, rfl, rfl⟩
  have hold {i : RxSlot} (hi : Waiting (nsctpStore r slot d) i) (hne : i ≠ slot) : Waiting r i :=
    ((waiting_store d i).mp hi).resolve_left hne
  constructor
  · exact h.pooled.store hfree hfit
  · exact h.distinct.store hnew
  · intro i hi
    by_cases hne : i = slot
    · subst hne
      rw [Function.update_self]
      exact (StandsFor.incoming d).congr hsame
    · rw [Function.update_of_ne hne, nsctpStore_other r d hne]
      exact h.stands i (hold hi hne)
  · intro i hi
    by_cases hne : i = slot
    · subst hne
      rw [Function.update_self, hbytes, List.flatMap_singleton]
    · rw [Function.update_of_ne hne, hothers i (hold hi hne).1]
      exact h.bytes i (hold hi hne)
  · intro i hi
    by_cases hne : i = slot
    · subst hne
      rw [Function.update_self]
      intro d' hd'
      obtain rfl := List.mem_singleton.mp hd'
      exact hsolid
    · rw [Function.update_of_ne hne]
      exact h.solid i (hold hi hne)
  · intro i hi hlen
    by_cases hne : i = slot
    · subst hne
      rw [Function.update_self, List.length_singleton] at hlen
      exact absurd hlen (Nat.lt_irrefl 1)
    · rw [Function.update_of_ne hne] at hlen
      unfold aheadOf
      rw [nsctpStore_other r d hne]
      exact h.settled i (hold hi hne) hlen
  · intro i j hi hj hfollow
    by_cases hjs : j = slot
    · subst hjs
      rw [Function.update_self, List.length_singleton]
    rw [Function.update_of_ne hjs]
    have hwj := hold hj hjs
    rw [nsctpStore_other r d hjs] at hfollow
    by_cases his : i = slot
    · subst his
      -- a joined row lies behind the cumulative TSN, the new chunk ahead of it
      by_contra hlen
      have hpos := List.length_pos_iff.mpr (h.stands j hwj).nonempty
      have hle := h.settled j hwj (by omega)
      have hlo := hrecent j hwj
      have htsn := ((nsctpFragmentsFollow_iff _ _).mp hfollow).1
      rw [hsame.tsn] at htsn
      unfold aheadOf at hle hlo
      have heq : (r.rx j).tsn - r.cumulativeTsn = d.tsn - r.cumulativeTsn + 1 := by
        rw [htsn, UInt32.sub_eq_add_neg, UInt32.sub_eq_add_neg, UInt32.add_assoc, UInt32.add_assoc,
          UInt32.add_comm 1]
        rfl
      rw [heq] at hle hlo
      cases i32_succ_of_pos hahead with
      | inl hpos => omega
      | inr hfar => omega
    · rw [nsctpStore_other r d his] at hfollow
      exact h.solo i j (hold hi his) hwj hfollow

/-! ### Joins -/

/-- The row of the second descriptor appended to that of the first. -/
def heldJoin (held : Holding) (i j : RxSlot) : Holding := Function.update held i (held i ++ held j)

theorem waiting_join {r : SctpRecv} {i j : RxSlot} (hij : i ≠ j) (k : RxSlot) :
    Waiting (nsctpRxJoin r i j) k ↔ k ≠ j ∧ Waiting r k := by
  obtain ⟨hcore, hother, hvalid⟩ := nsctpRxJoin_core r hij
  have hdelivered : ((nsctpRxJoin r i j).rx k).delivered = (r.rx k).delivered := by
    by_cases hki : k = i
    · subst hki
      have hd := congrArg RxEntry.delivered hcore
      generalize (nsctpRxJoin r k j).rx k = e at hd ⊢
      exact hd
    · exact RxEntry.core_delivered (hother k hki)
  unfold Waiting
  rw [hvalid, hdelivered, Bool.and_eq_true]
  simp only [Bool.not_eq_true', decide_eq_false_iff_not, ne_eq, eq_comm (a := j)]
  constructor
  · rintro ⟨⟨hv, hne⟩, hd⟩
    exact ⟨hne, hv, hd⟩
  · rintro ⟨hne, hv, hd⟩
    exact ⟨⟨hv, hne⟩, hd⟩

/-- What the first descriptor of a join says afterwards. -/
theorem nsctpRxJoin_first (r : SctpRecv) {i j : RxSlot} (hij : i ≠ j) :
    SameMessage { r.rx i with
      tsn := (r.rx j).tsn, flags := (r.rx i).flags ||| ((r.rx j).flags &&& sctpDataFlagEnd) }
      ((nsctpRxJoin r i j).rx i) := by
  have hcore := (nsctpRxJoin_core r hij).1
  have htsn := congrArg RxEntry.tsn hcore
  have hflags := congrArg RxEntry.flags hcore
  have hsid := congrArg RxEntry.streamId hcore
  have hssn := congrArg RxEntry.ssn hcore
  have hppid := congrArg RxEntry.ppid hcore
  generalize (nsctpRxJoin r i j).rx i = e at htsn hflags hsid hssn hppid ⊢
  exact ⟨htsn, hflags, hsid, hssn, hppid⟩

/-- **A join appends a single chunk to a row.** -/
theorem Holds.join {held : Holding} {r : SctpRecv} (h : Holds held r) {i j : RxSlot}
    (hjoin : nsctpRxJoinable r.cumulativeTsn (r.rx i) (r.rx j) = true) :
    Holds (heldJoin held i j) (nsctpRxJoin r i j) := by
  have hij := nsctpRxJoinable_ne hjoin
  obtain ⟨hvi, hdi, hvj, hdj, hold, hfollow⟩ := (nsctpRxJoinable_iff ..).mp hjoin
  have hwi : Waiting r i := ⟨hvi, hdi⟩
  have hwj : Waiting r j := ⟨hvj, hdj⟩
  obtain ⟨htsn, hsid, hssn, hppid, hunordered, hunfinished, -⟩ :=
    (nsctpFragmentsFollow_iff _ _).mp hfollow
  obtain ⟨d, hd⟩ := List.length_eq_one_iff.mp (h.solo i j hwi hwj hfollow)
  obtain ⟨hpool, hbytes, hothers⟩ := h.pooled.join hij (h.filled hwi hunfinished) hvj
  have hother := (nsctpRxJoin_core r hij).2.1
  have hcum := (nsctpRxJoin_frame r i j).1
  have hback {k : RxSlot} (hk : Waiting (nsctpRxJoin r i j) k) := (waiting_join hij k).mp hk
  have hself := nsctpRxJoin_first r hij
  have hsame {k : RxSlot} (hk : k ≠ i) : SameMessage (r.rx k) ((nsctpRxJoin r i j).rx k) :=
    .of_core (hother k hk)
  unfold heldJoin
  constructor
  · exact hpool
  · exact h.distinct.join hjoin
  · intro k hk
    by_cases hki : k = i
    · subst hki
      rw [Function.update_self, hd]
      exact (h.stands k hwi).join (hd ▸ h.stands j hwj) hfollow hself
    · rw [Function.update_of_ne hki]
      exact (h.stands k (hback hk).2).congr (hsame hki)
  · intro k hk
    by_cases hki : k = i
    · subst hki
      rw [Function.update_self, hbytes, h.bytes k hwi, h.bytes j hwj, List.flatMap_append]
    · rw [Function.update_of_ne hki, hothers k hki (hback hk).1 (hback hk).2.1]
      exact h.bytes k (hback hk).2
  · intro k hk
    by_cases hki : k = i
    · subst hki
      rw [Function.update_self]
      intro d' hd'
      exact (List.mem_append.mp hd').elim (h.solid k hwi d') (h.solid j hwj d')
    · rw [Function.update_of_ne hki]
      exact h.solid k (hback hk).2
  · intro k hk hlen
    unfold aheadOf
    by_cases hki : k = i
    · subst hki
      rw [hcum, hself.tsn]
      exact hold
    · rw [Function.update_of_ne hki] at hlen
      rw [hcum, (hsame hki).tsn]
      exact h.settled k (hback hk).2 hlen
  · intro k l hk hl hfollow'
    obtain ⟨htsn', hsid', hssn', hppid', hunordered', hunfinished', hcontinues'⟩ :=
      (nsctpFragmentsFollow_iff _ _).mp hfollow'
    by_cases hli : l = i
    · -- what precedes the joined TSN was the first descriptor itself
      subst hli
      rw [hself.tsn] at htsn'
      dsimp only at htsn'
      rw [htsn] at htsn'
      by_cases hkl : k = l
      · subst hkl
        rw [hself.tsn] at htsn'
        dsimp only at htsn'
        rw [htsn] at htsn'
        exact absurd htsn' (by simp)
      · rw [(hsame hkl).tsn] at htsn'
        have heq := h.distinct k l (hback hk).2.1 hvi ((UInt32.add_left_inj 1).mp htsn').symm
        exact absurd heq hkl
    · rw [Function.update_of_ne hli]
      by_cases hki : k = i
      · subst hki
        apply h.solo j l hwj (hback hl).2
        rw [nsctpFragmentsFollow_iff]
        rw [(hsame hli).tsn, hself.tsn] at htsn'
        rw [(hsame hli).streamId, hself.streamId] at hsid'
        rw [(hsame hli).ssn, hself.ssn] at hssn'
        rw [(hsame hli).ppid, hself.ppid] at hppid'
        rw [hasFlag_xor_unordered, (hsame hli).flags, hself.flags] at hunordered'
        rw [hself.flags] at hunfinished'
        rw [(hsame hli).flags] at hcontinues'
        dsimp only at htsn' hsid' hssn' hppid' hunordered' hunfinished'
        obtain ⟨hend, -, hu⟩ := hasFlag_join (r.rx k).flags (r.rx j).flags
        rw [hend, hunfinished, Bool.false_or] at hunfinished'
        rw [hu, (hasFlag_xor_unordered _ _).mp hunordered] at hunordered'
        exact ⟨htsn', hsid.symm.trans hsid', hssn.symm.trans hssn', hppid.symm.trans hppid',
          (hasFlag_xor_unordered _ _).mpr hunordered', hunfinished', hcontinues'⟩
      · rw [fragmentsFollow_congr (hsame hki) (hsame hli)] at hfollow'
        exact h.solo k l (hback hk).2 (hback hl).2 hfollow'

/-! ### Delivery -/

/-- What the assembly of a message leaves of each descriptor. -/
theorem nsctpAssemble_rx (r : SctpRecv) (parts : List RxSlot) (k : RxSlot) :
    SameMessage (r.rx k) ((nsctpAssemble r parts).1.rx k) ∧
    ((nsctpAssemble r parts).1.rx k).valid = (r.rx k).valid ∧
    ((nsctpAssemble r parts).1.rx k).delivered = ((r.rx k).delivered || decide (k ∈ parts)) ∧
    ((nsctpAssemble r parts).1.rx k).forwarded = (r.rx k).forwarded ∧
    (nsctpAssemble r parts).1.cumulativeTsn = r.cumulativeTsn := by
  rw [nsctpAssemble_eq]
  suffices h : ∀ p : SctpRecv × Nat,
      SameMessage (p.1.rx k) ((parts.foldl nsctpAssembleStep p).1.rx k) ∧
      ((parts.foldl nsctpAssembleStep p).1.rx k).valid = (p.1.rx k).valid ∧
      ((parts.foldl nsctpAssembleStep p).1.rx k).delivered =
        ((p.1.rx k).delivered || decide (k ∈ parts)) ∧
      ((parts.foldl nsctpAssembleStep p).1.rx k).forwarded = (p.1.rx k).forwarded ∧
      (parts.foldl nsctpAssembleStep p).1.cumulativeTsn = p.1.cumulativeTsn from h (r, 0)
  induction parts with
  | nil => simp [SameMessage.refl]
  | cons j parts ih =>
    intro p
    have hrx : (nsctpAssembleStep p j).1.rx k = { (nsctpRxMove p.1 j p.2).rx k with
        delivered := ((nsctpRxMove p.1 j p.2).rx k).delivered || decide (j = k) } :=
      rxDeliver_rx _ j k
    obtain ⟨hsame, hvalid, hdelivered, hforwarded, hcum⟩ := ih (nsctpAssembleStep p j)
    have hmove := nsctpRxMove_same p.1 j p.2
    rw [List.foldl_cons]
    refine ⟨?_, ?_, ?_, ?_, ?_⟩
    · obtain ⟨htsn, hflags, hsid, hssn, hppid⟩ := hsame
      rw [hrx] at htsn hflags hsid hssn hppid
      obtain ⟨htsn', hflags', hsid', hssn', hppid'⟩ := SameMessage.of_core (hmove.core k)
      exact ⟨htsn.trans htsn', hflags.trans hflags', hsid.trans hsid', hssn.trans hssn',
        hppid.trans hppid'⟩
    · rw [hvalid, hrx]
      exact hmove.valid k
    · rw [hdelivered, hrx]
      dsimp only
      rw [RxEntry.core_delivered (hmove.core k), Bool.or_assoc]
      congr 1
      simp [eq_comm (a := j)]
    · have hmoved := RxEntry.core_forwarded (hmove.core k)
      rw [hforwarded, hrx]
      exact hmoved
    · rw [hcum]
      exact hmove.cumulativeTsn

theorem waiting_assemble {r : SctpRecv} {parts : List RxSlot} (k : RxSlot) :
    Waiting (nsctpAssemble r parts).1 k ↔ k ∉ parts ∧ Waiting r k := by
  obtain ⟨-, hvalid, hdelivered, -⟩ := nsctpAssemble_rx r parts k
  unfold Waiting
  rw [hvalid, hdelivered]
  simp only [Bool.or_eq_false_iff, decide_eq_false_iff_not]
  constructor
  · rintro ⟨hv, hd, hk⟩
    exact ⟨hk, hv, hd⟩
  · rintro ⟨hk, hv, hd⟩
    exact ⟨hv, hd, hk⟩

/-- **A delivery leaves what the other descriptors stand for.** -/
theorem Holds.assemble {held : Holding} {r : SctpRecv} (h : Holds held r) {parts : List RxSlot}
    (hnodup : parts.Nodup) (hwaiting : ∀ j ∈ parts, Waiting r j) :
    Holds held (nsctpAssemble r parts).1 := by
  obtain ⟨-, hpool, hbytes⟩ := nsctpAssemble_data h.pooled hnodup fun j hj => (hwaiting j hj).1
  have hback {k : RxSlot} (hk : Waiting (nsctpAssemble r parts).1 k) :=
    ((waiting_assemble k).mp hk).2
  apply h.keeps _ hpool
  · apply h.distinct.mono
    intro k hk
    obtain ⟨hsame, hvalid, -⟩ := nsctpAssemble_rx r parts k
    exact ⟨hvalid.symm.trans hk, hsame.tsn⟩
  · intro k hk hle
    obtain ⟨hsame, -, -, -, hcum⟩ := nsctpAssemble_rx r parts k
    unfold aheadOf at hle ⊢
    rw [hsame.tsn, hcum]
    exact hle
  · exact ⟨fun k hk => hback hk, fun k _ => (nsctpAssemble_rx r parts k).1,
      fun k hk => hbytes k (hback hk).1⟩

/-! ### The chunks that wait -/

/-- The chunks that the table has received and not delivered. -/
def inbox (held : Holding) (r : SctpRecv) : Multiset NsctpData :=
  ∑ i : RxSlot, if Waiting r i then (held i : Multiset NsctpData) else 0

theorem inbox_congr {held : Holding} {r r' : SctpRecv} (h : ∀ i, Waiting r' i ↔ Waiting r i) :
    inbox held r' = inbox held r := by
  unfold inbox
  simp only [h]

/-- One summand changed. -/
theorem sum_change {ι M : Type*} [Fintype ι] [DecidableEq ι] [AddCommMonoid M] {f g : ι → M}
    (i : ι) (hother : ∀ k, k ≠ i → g k = f k) : ∑ k, g k + f i = g i + ∑ k, f k := by
  rw [← Finset.add_sum_erase _ g (Finset.mem_univ i), ← Finset.add_sum_erase _ f (Finset.mem_univ i)]
  have hrest : ∑ k ∈ Finset.univ.erase i, g k = ∑ k ∈ Finset.univ.erase i, f k :=
    Finset.sum_congr rfl fun k hk => hother k (Finset.ne_of_mem_erase hk)
  rw [hrest, add_assoc, add_comm _ (f i)]

/-- **A stored chunk waits.** -/
theorem inbox_store {held : Holding} {r : SctpRecv} {slot : RxSlot} {d : NsctpData}
    (hfree : (r.rx slot).valid = false) :
    inbox (Function.update held slot [d]) (nsctpStore r slot d) = {d} + inbox held r := by
  have hno : ¬Waiting r slot := fun hw => by rw [hw.1] at hfree; exact nomatch hfree
  have hsum := sum_change (f := fun i => if Waiting r i then (held i : Multiset NsctpData) else 0)
    (g := fun i => if Waiting (nsctpStore r slot d) i then
      ((Function.update held slot [d] i : List NsctpData) : Multiset NsctpData) else 0) slot
    fun k hk => by
      rw [Function.update_of_ne hk]
      simp only [waiting_store, hk, false_or]
  have hself : Waiting (nsctpStore r slot d) slot := (waiting_store d slot).mpr (.inl rfl)
  simp only [if_neg hno, if_pos hself, Function.update_self, add_zero,
    Multiset.coe_singleton] at hsum
  exact hsum

/-- **A join loses no chunk.** -/
theorem inbox_join {held : Holding} {r : SctpRecv} {i j : RxSlot}
    (hjoin : nsctpRxJoinable r.cumulativeTsn (r.rx i) (r.rx j) = true) :
    inbox (heldJoin held i j) (nsctpRxJoin r i j) = inbox held r := by
  have hij := nsctpRxJoinable_ne hjoin
  obtain ⟨hvi, hdi, hvj, hdj, -⟩ := (nsctpRxJoinable_iff ..).mp hjoin
  have hwi : Waiting r i := ⟨hvi, hdi⟩
  have hwj : Waiting r j := ⟨hvj, hdj⟩
  -- first the second descriptor loses its row, then the first one gains it
  have h1 := sum_change (f := fun k => if Waiting r k then (held k : Multiset NsctpData) else 0)
    (g := fun k => if Waiting (nsctpRxJoin r i j) k then (held k : Multiset NsctpData) else 0) j
    fun k hk => by simp only [waiting_join hij, hk, ne_eq, not_false_eq_true, true_and]
  have h2 := sum_change
    (f := fun k => if Waiting (nsctpRxJoin r i j) k then (held k : Multiset NsctpData) else 0)
    (g := fun k => if Waiting (nsctpRxJoin r i j) k then
      ((heldJoin held i j k : List NsctpData) : Multiset NsctpData) else 0) i
    fun k hk => by
      unfold heldJoin
      rw [Function.update_of_ne hk]
  have hnj : ¬Waiting (nsctpRxJoin r i j) j := fun h => ((waiting_join hij j).mp h).1 rfl
  have hi : Waiting (nsctpRxJoin r i j) i := (waiting_join hij i).mpr ⟨hij, hwi⟩
  have hrow : ((heldJoin held i j i : List NsctpData) : Multiset NsctpData) =
      (held i : Multiset NsctpData) + (held j : Multiset NsctpData) := by
    unfold heldJoin
    rw [Function.update_self, Multiset.coe_add]
  simp only [if_neg hnj, if_pos hwj, zero_add] at h1
  simp only [if_pos hi, hrow] at h2
  unfold inbox
  rw [← h1]
  apply add_right_cancel (b := (held i : Multiset NsctpData))
  rw [h2]
  ac_rfl

/-- **A delivered message leaves the inbox, chunk by chunk.** -/
theorem inbox_assemble {held : Holding} {r : SctpRecv} {parts : List RxSlot} (hnodup : parts.Nodup)
    (hwaiting : ∀ j ∈ parts, Waiting r j) :
    inbox held (nsctpAssemble r parts).1 + (parts.flatMap held : List NsctpData) =
      inbox held r := by
  have hrest : inbox held (nsctpAssemble r parts).1 = ∑ i : RxSlot,
      if i ∉ parts ∧ Waiting r i then (held i : Multiset NsctpData) else 0 := by
    unfold inbox
    simp only [waiting_assemble]
  rw [hrest]
  clear hrest
  induction parts with
  | nil => simp [inbox]
  | cons j parts ih =>
    obtain ⟨hj, hnodup⟩ := List.nodup_cons.mp hnodup
    have hwj := hwaiting j List.mem_cons_self
    rw [← ih hnodup fun k hk => hwaiting k (List.mem_cons_of_mem _ hk)]
    have hsum := sum_change
      (f := fun i => if i ∉ parts ∧ Waiting r i then (held i : Multiset NsctpData) else 0)
      (g := fun i => if i ∉ j :: parts ∧ Waiting r i then (held i : Multiset NsctpData) else 0) j
      fun k hk => by simp only [List.mem_cons, hk, false_or]
    have hno : ¬(j ∉ j :: parts ∧ Waiting r j) := fun h => h.1 List.mem_cons_self
    simp only [if_neg hno, if_pos (And.intro hj hwj), zero_add] at hsum
    rw [← hsum, List.flatMap_cons, ← Multiset.coe_add, add_assoc]

end Nanortc.Spec
