import Mathlib
import Nanortc.Spec.SctpHolding

/-!
# Messages in the receive table

A message is a row of fragments from one that begins it to one that ends it. `nsctp_poll_delivery`
gathers descriptors whose fragments follow each other; what it hands out is always a message, its
payloads in TSN order. Whether it finds every message that was received depends on two things that
`nsctp_handle_data_chunk` and `nsctp_rx_merge` leave open: stored neighbours must fit each other, and
a join must not begin in the middle of a row.

## Key results

- `nsctpGatherParts_message`: gathered descriptors stand for a message
- `nsctpGatherParts_quiet`: with neighbours that fit, gathering ends without an error
- `Linked.merge`: joins that begin at the first fragment of a row strand nothing
- `nsctpGatherParts_finds`: then every message that was received is gathered
-/

namespace Nanortc.Spec

open Nanortc.ForStd Nanortc.Native

/-- The fragments of one message, all of them. -/
structure Complete (ds : List NsctpData) : Prop where
  nonempty : ds ≠ []
  chain : ds.IsChain Follows
  begins : ∀ d ∈ ds.head?, hasFlag d.flags sctpDataFlagBegin = true
  ends : ∀ d ∈ ds.getLast?, hasFlag d.flags sctpDataFlagEnd = true

/-- What `nsctp_poll_delivery` returns for a message. -/
def messageOf (ds : List NsctpData) : SctpMessage :=
  ⟨ds.flatMap NsctpData.payload, (ds.headD default).ppid, (ds.headD default).streamId⟩

/-! ### Runs of descriptors -/

/-- Descriptors that wait, each with the next fragment behind it. -/
structure SlotRun (r : SctpRecv) (ps : List RxSlot) : Prop where
  waiting : ∀ j ∈ ps, Waiting r j
  chain : ps.IsChain fun p j => nsctpFragmentsFollow (r.rx p) (r.rx j) = true

variable {r : SctpRecv} {held : Holding}

theorem SlotRun.tail {p : RxSlot} {ps : List RxSlot} (h : SlotRun r (p :: ps)) : SlotRun r ps :=
  ⟨fun j hj => h.waiting j (List.mem_cons_of_mem p hj), h.chain.tail⟩

/-- The TSNs of a chain count up. -/
theorem isChain_tsn {α : Type*} {f : α → UInt32} {a : α} {l : List α}
    (h : (a :: l).IsChain fun x y => f y = f x + 1) (k : Nat) (hk : k < (a :: l).length) :
    f (a :: l)[k] = f a + UInt32.ofNat k := by
  induction k generalizing a l with
  | zero => simp
  | succ k ih =>
    cases l with
    | nil =>
      simp only [List.length_cons, List.length_nil] at hk
      omega
    | cons b l =>
      have hnext := (List.isChain_cons_cons.mp h).1
      have hrest := ih h.tail (by simpa using hk)
      rw [List.getElem_cons_succ, hrest, hnext, UInt32.add_assoc, UInt32.ofNat_add,
        UInt32.add_comm 1]
      rfl

theorem SlotRun.tsn {p : RxSlot} {ps : List RxSlot} (h : SlotRun r (p :: ps)) (k : Nat)
    (hk : k < (p :: ps).length) :
    (r.rx (p :: ps)[k]).tsn = (r.rx p).tsn + UInt32.ofNat k :=
  isChain_tsn (f := fun j => (r.rx j).tsn)
    (h.chain.imp fun _ _ hf => ((nsctpFragmentsFollow_iff _ _).mp hf).1) k hk

/-- A short run has no descriptor twice. -/
theorem SlotRun.nodup_of_lt {ps : List RxSlot} (h : SlotRun r ps) (hlen : ps.length < 2 ^ 32) :
    ps.Nodup := by
  cases ps with
  | nil => exact List.nodup_nil
  | cons p ps =>
    rw [List.nodup_iff_injective_getElem]
    intro k l hkl
    have htsn := congrArg (fun j => (r.rx j).tsn) hkl
    dsimp only at htsn
    rw [h.tsn k.1 k.2, h.tsn l.1 l.2] at htsn
    exact Fin.ext (tsn_add_inj (by omega) (by omega) htsn)

/-- No run is longer than the table. -/
theorem SlotRun.length_le {ps : List RxSlot} (h : SlotRun r ps) : ps.length ≤ sctpMaxRecvGap := by
  by_contra hlong
  have h8 : sctpMaxRecvGap = 8 := rfl
  -- one descriptor more than there are would be among the first of them
  have hfront : SlotRun r (ps.take 9) :=
    ⟨fun j hj => h.waiting j (List.mem_of_mem_take hj), h.chain.take 9⟩
  have hlen : (ps.take 9).length = 9 := by
    rw [List.length_take]
    omega
  have hcard := (hfront.nodup_of_lt (by omega)).length_le_card
  rw [Fintype.card_fin] at hcard
  omega

theorem SlotRun.nodup {ps : List RxSlot} (h : SlotRun r ps) : ps.Nodup := by
  have hlen := h.length_le
  have h8 : sctpMaxRecvGap = 8 := rfl
  exact h.nodup_of_lt (by omega)

/-- **The rows of a run follow each other.** -/
theorem SlotRun.row (h : Holds held r) {ps : List RxSlot} (hrun : SlotRun r ps) :
    (ps.flatMap held).IsChain Follows := by
  induction ps with
  | nil => exact List.isChain_nil
  | cons p ps ih =>
    rw [List.flatMap_cons]
    have hp := h.stands p (hrun.waiting p List.mem_cons_self)
    apply hp.chain.append (ih hrun.tail)
    intro x hx y hy
    cases ps with
    | nil => exact absurd hy (by simp)
    | cons q ps =>
      have hfollow := (List.isChain_cons_cons.mp hrun.chain).1
      have hq := hrun.waiting q (by simp)
      obtain ⟨d, hd⟩ := List.length_eq_one_iff.mp
        (h.solo p q (hrun.waiting p List.mem_cons_self) hq hfollow)
      -- a descriptor that follows another one stands for a single chunk
      have hdy : d = y := by simpa [hd] using hy
      rw [← hdy]
      exact hp.follows (hd ▸ h.stands q hq) hfollow hx

/-- Together the descriptors hold no more than the pool. -/
theorem Pooled.sum_dataLen (h : Pooled r) {ps : List RxSlot} (hnodup : ps.Nodup)
    (hwaiting : ∀ j ∈ ps, Waiting r j) :
    (ps.map fun j => (r.rx j).dataLen).sum ≤ sctpRecvGapBufSize := by
  have hsum := h.tiles.sum_len_le (s := ps.toFinset.filter fun j => (r.rx j).dataLen ≠ 0)
    fun j hj => by
      simp only [Finset.mem_filter, List.mem_toFinset] at hj
      exact ⟨(hwaiting j hj.1).1, hj.2⟩
  have heq : ∑ j ∈ ps.toFinset with (r.rx j).dataLen ≠ 0, (r.rx j).dataLen =
      (ps.map fun j => (r.rx j).dataLen).sum := by
    rw [Finset.sum_filter_ne_zero, List.sum_toFinset _ hnodup]
  rw [← heq]
  exact hsum.trans h.used

/-! ### Gathering -/

/-- What a gathered list of descriptors is. -/
theorem nsctpGatherParts_run {turns : Nat} {tsn : UInt32} {parts out : List RxSlot} {total : Nat}
    (hg : nsctpGatherParts r turns tsn parts total = .ok (some out))
    (hrun : SlotRun r parts.reverse) :
    SlotRun r out ∧ (∀ j ∈ out.getLast?, hasFlag (r.rx j).flags sctpDataFlagEnd = true) ∧
    parts.reverse <+: out ∧
    (parts = [] → ∀ j ∈ out.head?, (r.rx j).tsn = tsn) := by
  induction turns generalizing tsn parts total with
  | zero => exact nomatch hg
  | succ turns ih =>
    unfold nsctpGatherParts at hg
    cases hfind : r.find fun e => e.valid && !e.delivered && e.tsn == tsn with
    | none =>
      rw [hfind] at hg
      exact nomatch hg
    | some j =>
      rw [hfind] at hg
      have hj := find_eq_some hfind
      simp only [Bool.and_eq_true, Bool.not_eq_true', beq_iff_eq] at hj
      dsimp only at hg
      split at hg
      · exact nomatch hg
      rename_i hfollow
      split at hg
      · exact nomatch hg
      have hnext : SlotRun r (j :: parts).reverse := by
        rw [List.reverse_cons]
        constructor
        · intro k hk
          rw [List.mem_append, List.mem_singleton] at hk
          cases hk with
          | inl hk => exact hrun.waiting k hk
          | inr hk =>
            subst hk
            exact hj.1
        · apply hrun.chain.append (List.isChain_singleton j)
          intro p hp k hk
          obtain rfl : j = k := by simpa using hk
          rw [List.getLast?_reverse] at hp
          rw [Option.mem_def] at hp
          rw [hp] at hfollow
          simpa using hfollow
      have hhead : parts = [] → (j :: parts).reverse = [j] := by
        rintro rfl
        rfl
      split at hg
      · rename_i hend
        obtain rfl : (j :: parts).reverse = out := by simpa using hg
        refine ⟨hnext, ?_, ?_, ?_⟩
        · intro k hk
          obtain rfl : j = k := by simpa using hk
          exact hend
        · rw [List.reverse_cons]
          exact List.prefix_append _ _
        · intro hnil k hk
          rw [hhead hnil] at hk
          obtain rfl : j = k := by simpa using hk
          exact hj.2
      · obtain ⟨hout, hlast, hprefix, -⟩ := ih hg hnext
        refine ⟨hout, hlast, ?_, ?_⟩
        · rw [List.reverse_cons] at hprefix
          exact (List.prefix_append _ _).trans hprefix
        · intro hnil k hk
          rw [hhead hnil] at hprefix
          obtain ⟨rest, rfl⟩ := hprefix
          obtain rfl : j = k := by simpa using hk
          exact hj.2

/-- A message is gathered with its last fragment. -/
theorem nsctpGatherParts_ne_nil {turns : Nat} {tsn : UInt32} {parts : List RxSlot} {total : Nat} :
    nsctpGatherParts r turns tsn parts total ≠ .ok (some []) := by
  induction turns generalizing tsn parts total with
  | zero => exact fun hg => nomatch hg
  | succ turns ih =>
    intro hg
    unfold nsctpGatherParts at hg
    split at hg
    · exact nomatch hg
    split at hg
    · exact nomatch hg
    split at hg
    · exact nomatch hg
    split at hg
    · simp at hg
    · exact ih hg

/-- **Gathered descriptors stand for a message**, which begins at the descriptor it was gathered
from. -/
theorem nsctpGatherParts_message (h : Holds held r) {i : RxSlot} (hi : Waiting r i)
    (hbegin : hasFlag (r.rx i).flags sctpDataFlagBegin = true) {parts : List RxSlot}
    (hg : nsctpGatherParts r sctpMaxRecvGap (r.rx i).tsn [] 0 = .ok (some parts)) :
    parts.Nodup ∧ (∀ j ∈ parts, Waiting r j) ∧ Complete (parts.flatMap held) ∧
    (∃ rest, parts = i :: rest) := by
  obtain ⟨hrun, hlast, -, hfirst⟩ :=
    nsctpGatherParts_run hg ⟨fun j hj => absurd hj (by simp), by simp⟩
  have hne : parts ≠ [] := by
    rintro rfl
    exact nsctpGatherParts_ne_nil hg
  obtain ⟨p, rest, rfl⟩ := List.exists_cons_of_ne_nil hne
  have hp := hrun.waiting p List.mem_cons_self
  obtain rfl : p = i := h.distinct p i hp.1 hi.1 (hfirst rfl p rfl)
  refine ⟨hrun.nodup, hrun.waiting, ⟨?_, ?_, ?_, ?_⟩, rest, rfl⟩
  · rw [List.flatMap_cons]
    exact List.append_ne_nil_of_left_ne_nil (h.stands p hp).nonempty _
  · exact hrun.row h
  · intro d hd
    obtain ⟨x, xs, hx⟩ := List.exists_cons_of_ne_nil (h.stands p hp).nonempty
    have hxd : x = d := by simpa [hx] using hd
    rw [← hxd, ← (h.stands p hp).first x (by rw [hx]; rfl)]
    exact hbegin
  · intro d hd
    obtain ⟨front, l, hl⟩ := (List.eq_nil_or_concat (p :: rest)).resolve_left (List.cons_ne_nil _ _)
    rw [List.concat_eq_append] at hl
    have hwl := hrun.waiting l (by rw [hl]; simp)
    have hflat : ((p :: rest).flatMap held).getLast? = (held l).getLast? := by
      rw [hl, List.flatMap_append, List.flatMap_singleton, List.getLast?_append]
      obtain ⟨x, hx⟩ := Option.isSome_iff_exists.mp
        (List.getLast?_isSome.mpr (h.stands l hwl).nonempty)
      rw [hx]
      rfl
    rw [hflat] at hd
    rw [← ((h.stands l hwl).last d hd).2]
    exact hlast l (by rw [hl]; simp)

/-! ### Neighbours that fit -/

/-- Where a descriptor is not finished, the one behind it continues it. -/
def Consistent (r : SctpRecv) : Prop :=
  ∀ i j, Waiting r i → Waiting r j → (r.rx j).tsn = (r.rx i).tsn + 1 →
    hasFlag (r.rx i).flags sctpDataFlagEnd = false → nsctpFragmentsFollow (r.rx i) (r.rx j) = true

/-- **With neighbours that fit, gathering ends without an error.** -/
theorem nsctpGatherParts_quiet (h : Pooled r) (hc : Consistent r) {turns : Nat} {tsn : UInt32}
    {parts : List RxSlot} {total : Nat} (hrun : SlotRun r parts.reverse)
    (htotal : total = (parts.map fun j => (r.rx j).dataLen).sum)
    (hhead : ∀ p ∈ parts.head?, tsn = (r.rx p).tsn + 1 ∧
      hasFlag (r.rx p).flags sctpDataFlagEnd = false) (rc : Rc) :
    nsctpGatherParts r turns tsn parts total ≠ .error rc := by
  induction turns generalizing tsn parts total with
  | zero => exact fun hg => nomatch hg
  | succ turns ih =>
    unfold nsctpGatherParts
    cases hfind : r.find fun e => e.valid && !e.delivered && e.tsn == tsn with
    | none => exact fun hg => nomatch hg
    | some j =>
      have hj := find_eq_some hfind
      simp only [Bool.and_eq_true, Bool.not_eq_true', beq_iff_eq] at hj
      have hfollow (p : RxSlot) (hp : p ∈ parts.head?) :
          nsctpFragmentsFollow (r.rx p) (r.rx j) = true := by
        have hwp := hrun.waiting p (List.mem_reverse.mpr (List.mem_of_mem_head? hp))
        exact hc p j hwp hj.1 (by rw [hj.2, (hhead p hp).1]) (hhead p hp).2
      have hnext : SlotRun r (j :: parts).reverse := by
        rw [List.reverse_cons]
        constructor
        · intro k hk
          rw [List.mem_append, List.mem_singleton] at hk
          cases hk with
          | inl hk => exact hrun.waiting k hk
          | inr hk =>
            subst hk
            exact hj.1
        · apply hrun.chain.append (List.isChain_singleton j)
          intro p hp k hk
          obtain rfl : j = k := by simpa using hk
          rw [List.getLast?_reverse] at hp
          exact hfollow p hp
      have hnodup : (j :: parts).Nodup := List.nodup_reverse.mp hnext.nodup
      have hfit := h.sum_dataLen hnodup fun k hk => hnext.waiting k (List.mem_reverse.mpr hk)
      rw [List.map_cons, List.sum_cons, ← htotal] at hfit
      dsimp only
      rw [if_neg]
      · rw [if_neg (by
          have hsize : sctpRecvGapBufSize = sctpMaxMessageSize := rfl
          omega)]
        split
        · exact fun hg => nomatch hg
        · rename_i hend
          apply ih hnext
          · rw [List.map_cons, List.sum_cons, htotal, Nat.add_comm]
          · intro p hp
            obtain rfl : j = p := by simpa using hp
            exact ⟨by rw [hj.2], Bool.eq_false_iff.mpr hend⟩
      · rw [Option.any_eq_true]
        rintro ⟨p, hp, hno⟩
        rw [hfollow p hp] at hno
        exact nomatch hno

/-- What stands before a descriptor of a run. -/
theorem SlotRun.before {parts : List RxSlot} (p : RxSlot) (ps : List RxSlot)
    (h : SlotRun r (parts.reverse ++ p :: ps)) :
    ∀ q ∈ parts.head?, nsctpFragmentsFollow (r.rx q) (r.rx p) = true := by
  intro q hq
  cases parts with
  | nil => exact absurd hq (by simp)
  | cons q' parts =>
    obtain rfl : q' = q := by simpa using hq
    have hchain := h.chain
    rw [List.reverse_cons, List.append_assoc] at hchain
    exact (List.isChain_cons_cons.mp hchain.right_of_append).1

/-- The next part of a run has room in a message. -/
theorem SlotRun.fits (h : Pooled r) {parts : List RxSlot} (p : RxSlot) (ps : List RxSlot)
    (hrun : SlotRun r (parts.reverse ++ p :: ps)) {total : Nat}
    (htotal : total = (parts.map fun j => (r.rx j).dataLen).sum) :
    (r.rx p).dataLen ≤ sctpMaxMessageSize - total := by
  have hsum := h.sum_dataLen hrun.nodup hrun.waiting
  have hsize : sctpRecvGapBufSize = sctpMaxMessageSize := rfl
  rw [List.map_append, List.sum_append, List.map_reverse, List.sum_reverse, List.map_cons,
    List.sum_cons, ← htotal] at hsum
  omega

/-- One turn of the gathering, where the next descriptor fits. -/
theorem nsctpGatherParts_step (hdistinct : TsnsDistinct r) (turns : Nat) {p : RxSlot}
    {parts : List RxSlot} {total : Nat} (hp : Waiting r p)
    (hfollow : ∀ q ∈ parts.head?, nsctpFragmentsFollow (r.rx q) (r.rx p) = true)
    (hfit : (r.rx p).dataLen ≤ sctpMaxMessageSize - total) :
    nsctpGatherParts r (turns + 1) (r.rx p).tsn parts total =
      if hasFlag (r.rx p).flags sctpDataFlagEnd then .ok (some (p :: parts).reverse)
      else nsctpGatherParts r turns ((r.rx p).tsn + 1) (p :: parts)
        (total + (r.rx p).dataLen) := by
  -- no other descriptor holds the TSN
  have hfind : r.find (fun e => e.valid && !e.delivered && e.tsn == (r.rx p).tsn) = some p := by
    cases hf : r.find fun e => e.valid && !e.delivered && e.tsn == (r.rx p).tsn with
    | none =>
      have hno := find_eq_none.mp hf p
      rw [hp.1, hp.2] at hno
      simp at hno
    | some j =>
      have hj := find_eq_some hf
      simp only [Bool.and_eq_true, Bool.not_eq_true', beq_iff_eq] at hj
      rw [hdistinct j p hj.1.1 hp.1 hj.2]
  rw [nsctpGatherParts, hfind]
  dsimp only
  rw [if_neg, if_neg (by omega)]
  rw [Option.any_eq_true]
  rintro ⟨q, hq, hno⟩
  rw [hfollow q hq] at hno
  exact nomatch hno

/-- A run that ends a message is gathered. -/
theorem nsctpGatherParts_complete (h : Pooled r) (hdistinct : TsnsDistinct r) {turns : Nat}
    {parts : List RxSlot} {p : RxSlot} {ps : List RxSlot} {total : Nat}
    (hrun : SlotRun r (parts.reverse ++ p :: ps)) (hturns : (p :: ps).length ≤ turns)
    (htotal : total = (parts.map fun j => (r.rx j).dataLen).sum)
    (hend : ∀ j ∈ (p :: ps).getLast?, hasFlag (r.rx j).flags sctpDataFlagEnd = true) :
    nsctpGatherParts r turns (r.rx p).tsn parts total =
      .ok (some (parts.reverse ++ p :: ps)) := by
  induction ps generalizing turns p parts total with
  | nil =>
    cases turns with
    | zero => simp at hturns
    | succ turns =>
      rw [nsctpGatherParts_step hdistinct turns (hrun.waiting p (by simp)) (hrun.before p [])
        (hrun.fits h p [] htotal)]
      rw [if_pos (hend p rfl), List.reverse_cons]
  | cons q ps ih =>
    cases turns with
    | zero => simp at hturns
    | succ turns =>
      have hnext : nsctpFragmentsFollow (r.rx p) (r.rx q) = true := by
        have hchain := hrun.chain.right_of_append
        exact (List.isChain_cons_cons.mp hchain).1
      obtain ⟨htsn, -, -, -, -, hopen, -⟩ := (nsctpFragmentsFollow_iff _ _).mp hnext
      rw [nsctpGatherParts_step hdistinct turns (hrun.waiting p (by simp)) (hrun.before p (q :: ps))
        (hrun.fits h p (q :: ps) htotal)]
      rw [if_neg (by rw [hopen]; nofun), ← htsn]
      have happend : parts.reverse ++ p :: q :: ps = (p :: parts).reverse ++ q :: ps := by simp
      rw [happend] at hrun ⊢
      apply ih hrun
      · simpa using hturns
      · rw [List.map_cons, List.sum_cons, htotal, Nat.add_comm]
      · simpa using hend

/-! ### Rows -/

/-- A row is no longer than the payloads of a message, which all but the last fragment have. -/
theorem Holds.length_le (h : Holds held r) {i : RxSlot} (hi : Waiting r i) :
    (held i).length ≤ sctpRecvGapBufSize + 1 := by
  have key (ds : List NsctpData) (hchain : ds.IsChain Follows)
      (hsolid : ∀ d ∈ ds, hasFlag d.flags sctpDataFlagEnd = false → d.payload ≠ []) :
      ds.length ≤ (ds.flatMap NsctpData.payload).length + 1 := by
    induction ds with
    | nil => simp
    | cons d ds ih =>
      cases ds with
      | nil => simp
      | cons e ds =>
        have hopen := (List.isChain_cons_cons.mp hchain).1.unfinished
        have hpos := List.length_pos_iff.mpr (hsolid d List.mem_cons_self hopen)
        have hrest := ih hchain.tail fun d hd => hsolid d (List.mem_cons_of_mem _ hd)
        rw [List.flatMap_cons, List.length_append, List.length_cons]
        omega
  have hrow := key (held i) (h.stands i hi).chain (h.solid i hi)
  have hbytes : ((held i).flatMap NsctpData.payload).length ≤ (r.rx i).dataLen := by
    rw [← h.bytes i hi]
    unfold rxBytes slice
    rw [List.length_take]
    exact Nat.min_le_left _ _
  have hsum := h.pooled.sum_dataLen (List.nodup_singleton i) (by simpa using hi)
  simp only [List.map_cons, List.map_nil, List.sum_cons, List.sum_nil, Nat.add_zero] at hsum
  omega

/-- The TSNs of a row count up. -/
theorem StandsFor.row_tsn {e : RxEntry} {d : NsctpData} {ds : List NsctpData}
    (h : StandsFor e (d :: ds)) (k : Nat) (hk : k < (d :: ds).length) :
    ((d :: ds)[k]).tsn = d.tsn + UInt32.ofNat k :=
  isChain_tsn (f := NsctpData.tsn) (h.chain.imp fun _ _ hf => hf.tsn) k hk

/-- A TSN is only once in a row. -/
theorem Holds.row_inj (h : Holds held r) {i : RxSlot} (hi : Waiting r i) {x y : NsctpData}
    (hx : x ∈ held i) (hy : y ∈ held i) (htsn : x.tsn = y.tsn) : x = y := by
  have hlen := h.length_le hi
  have hsize : sctpRecvGapBufSize = 4096 := rfl
  have hstands := h.stands i hi
  obtain ⟨k, hk, rfl⟩ := List.getElem_of_mem hx
  obtain ⟨l, hl, rfl⟩ := List.getElem_of_mem hy
  obtain ⟨d, ds, hrow⟩ := List.exists_cons_of_ne_nil hstands.nonempty
  simp only [hrow] at hk hl hlen hstands htsn ⊢
  rw [hstands.row_tsn k hk, hstands.row_tsn l hl] at htsn
  have := tsn_add_inj (by omega) (by omega) htsn
  simp only [this]

/-- The rows of different descriptors have different TSNs. -/
def RowsApart (held : Holding) (r : SctpRecv) : Prop :=
  ∀ i j, Waiting r i → Waiting r j → ∀ x ∈ held i, ∀ y ∈ held j, x.tsn = y.tsn → i = j

/-- A row that continues another one is a single chunk, so that it can still be appended. -/
def Linked (held : Holding) (r : SctpRecv) : Prop :=
  ∀ i j, Waiting r i → Waiting r j → ∀ x ∈ (held i).getLast?, ∀ y ∈ (held j).head?, Follows x y →
    (held j).length = 1

/-- Fragments that follow each other make descriptors follow each other. -/
theorem StandsFor.fragmentsFollow {a b : RxEntry} {ds : List NsctpData} {x d : NsctpData}
    (ha : StandsFor a ds) (hb : StandsFor b [d]) (hx : x ∈ ds.getLast?) (hf : Follows x d) :
    nsctpFragmentsFollow a b = true := by
  obtain ⟨hxtsn, hxend⟩ := ha.last x hx
  obtain ⟨hxsid, hxssn, hxppid, hxu⟩ := ha.same x (List.mem_of_getLast? hx)
  obtain ⟨hdtsn, -⟩ := hb.last d rfl
  obtain ⟨hdsid, hdssn, hdppid, hdu⟩ := hb.same d List.mem_cons_self
  rw [nsctpFragmentsFollow_iff, hasFlag_xor_unordered]
  refine ⟨?_, ?_, ?_, ?_, ?_, ?_, ?_⟩
  · rw [hdtsn, hxtsn, hf.tsn]
  · rw [← hxsid, ← hdsid, hf.streamId]
  · rw [← hxssn, ← hdssn, hf.ssn]
  · rw [← hxppid, ← hdppid, hf.ppid]
  · rw [← hxu, ← hdu, hf.unordered]
  · rw [hxend, hf.unfinished]
  · rw [hb.first d rfl, hf.continues]

/-- The row of the descriptor that a message continues in is what comes next of the message. -/
theorem Holds.row_isPrefix (h : Holds held r) (hapart : RowsApart held r) {i : RxSlot}
    (hi : Waiting r i) {e : NsctpData} {es xs : List NsctpData} (hchain : (e :: es).IsChain Follows)
    (hends : ∀ d ∈ (e :: es).getLast?, hasFlag d.flags sctpDataFlagEnd = true)
    (hmem : ∀ d ∈ e :: es, ∃ j, Waiting r j ∧ d ∈ held j) (hrow : (e :: xs).IsChain Follows)
    (hsub : ∀ d ∈ e :: xs, d ∈ held i) : e :: xs <+: e :: es := by
  induction xs generalizing e es with
  | nil => exact (List.cons_prefix_cons).mpr ⟨rfl, List.nil_prefix⟩
  | cons x xs ih =>
    have hfollow := (List.isChain_cons_cons.mp hrow).1
    cases es with
    | nil =>
      -- the message is over here, the row is not
      have hend := hends e rfl
      rw [hfollow.unfinished] at hend
      exact nomatch hend
    | cons y ys =>
      have hfollow' := (List.isChain_cons_cons.mp hchain).1
      have htsn : x.tsn = y.tsn := hfollow.tsn.trans hfollow'.tsn.symm
      obtain ⟨j, hj, hyj⟩ := hmem y (by simp)
      have hxi := hsub x (by simp)
      obtain rfl := hapart i j hi hj x hxi y hyj htsn
      obtain rfl := h.row_inj hi hxi hyj htsn
      rw [List.cons_prefix_cons]
      exact ⟨rfl, ih hchain.tail (by simpa using hends) (fun d hd => hmem d (List.mem_cons_of_mem _ hd))
        hrow.tail fun d hd => hsub d (List.mem_cons_of_mem _ hd)⟩

/-- The descriptors of a message from a fragment on with which a row begins. -/
theorem Holds.finds_from (h : Holds held r) (hapart : RowsApart held r) (hlinked : Linked held r)
    {n : Nat} {e : NsctpData} {es : List NsctpData} (hn : (e :: es).length ≤ n)
    (hchain : (e :: es).IsChain Follows)
    (hends : ∀ d ∈ (e :: es).getLast?, hasFlag d.flags sctpDataFlagEnd = true)
    (hmem : ∀ d ∈ e :: es, ∃ j, Waiting r j ∧ d ∈ held j) {i : RxSlot} (hi : Waiting r i)
    (hhead : e ∈ (held i).head?) :
    ∃ rest, SlotRun r (i :: rest) ∧ (i :: rest).flatMap held = e :: es ∧
      ∀ j ∈ (i :: rest).getLast?, hasFlag (r.rx j).flags sctpDataFlagEnd = true := by
  induction n generalizing e es i with
  | zero => simp at hn
  | succ n ih =>
    have hstands := h.stands i hi
    obtain ⟨x, xs, hrow⟩ := List.exists_cons_of_ne_nil hstands.nonempty
    obtain rfl : x = e := by simpa [hrow] using hhead
    have hsub (d : NsctpData) (hd : d ∈ x :: xs) : d ∈ held i := by rwa [hrow]
    have hrowchain : (x :: xs).IsChain Follows := hrow ▸ hstands.chain
    obtain ⟨tail, htail⟩ := h.row_isPrefix hapart hi hchain hends hmem hrowchain hsub
    cases tail with
    | nil =>
      -- the row ends the message
      rw [List.append_nil] at htail
      refine ⟨[], ⟨by simpa using hi, List.isChain_singleton i⟩, ?_, ?_⟩
      · rw [List.flatMap_singleton, hrow, htail]
      · intro j hj
        obtain rfl : i = j := by simpa using hj
        obtain ⟨l, hl⟩ := Option.isSome_iff_exists.mp
          (List.getLast?_isSome.mpr (List.cons_ne_nil x xs))
        rw [(hstands.last l (by rw [hrow]; exact hl)).2]
        exact hends l (by rw [← htail]; exact hl)
    | cons f fs =>
      obtain ⟨l, hl⟩ := Option.isSome_iff_exists.mp
        (List.getLast?_isSome.mpr (List.cons_ne_nil x xs))
      have hli : l ∈ held i := hsub l (List.mem_of_getLast? hl)
      have hlast : l ∈ (held i).getLast? := by
        rw [hrow]
        exact hl
      have hsplit : ((x :: xs) ++ f :: fs).IsChain Follows := htail ▸ hchain
      have hlf : Follows l f := (List.isChain_append.mp hsplit).2.2 l hl f rfl
      obtain ⟨j, hj, hfj⟩ := hmem f (by rw [← htail]; simp)
      -- the next fragment is not in the row that ended, whose TSNs lie before it
      have hij : i ≠ j := by
        rintro rfl
        have hlen := h.length_le hi
        have hsize : sctpRecvGapBufSize = 4096 := rfl
        obtain ⟨k, hk, hkf⟩ := List.getElem_of_mem hfj
        have hlast' := hl
        rw [List.getLast?_eq_getElem?, List.getElem?_eq_some_iff] at hlast'
        obtain ⟨hm, hlm⟩ := hlast'
        simp only [hrow] at hk hkf hlen hstands
        have h1 := hstands.row_tsn k hk
        have h2 := hstands.row_tsn _ hm
        rw [hkf] at h1
        rw [hlm] at h2
        have htsn := hlf.tsn
        rw [h1, h2, UInt32.add_assoc] at htsn
        have hsucc : UInt32.ofNat ((x :: xs).length - 1) + 1 = UInt32.ofNat (x :: xs).length := by
          conv_rhs => rw [← Nat.sub_add_cancel (show 1 ≤ (x :: xs).length by simp)]
          rw [UInt32.ofNat_add]
          rfl
        rw [hsucc] at htsn
        have := tsn_add_inj (by omega) (by omega) htsn
        omega
      -- nor is it inside another row, whose fragment before it would be in two rows
      have hfirst : f ∈ (held j).head? := by
        obtain ⟨front, back, hsplit'⟩ := List.append_of_mem hfj
        cases hfront : front.getLast? with
        | none =>
          rw [List.getLast?_eq_none_iff] at hfront
          rw [hsplit', hfront]
          rfl
        | some z =>
          have hzf : Follows z f := by
            have hj' := (h.stands j hj).chain
            rw [hsplit'] at hj'
            exact (List.isChain_append.mp hj').2.2 z hfront f rfl
          have hzj : z ∈ held j := by
            rw [hsplit']
            exact List.mem_append_left _ (List.mem_of_getLast? hfront)
          have htsn : z.tsn = l.tsn :=
            (UInt32.add_left_inj 1).mp (hzf.tsn.symm.trans hlf.tsn)
          exact absurd (hapart j i hj hi z hzj l hli htsn) fun heq => hij heq.symm
      obtain ⟨d, hd⟩ := List.length_eq_one_iff.mp (hlinked i j hi hj l hlast f hfirst hlf)
      obtain rfl : d = f := by simpa [hd] using hfirst
      have hfollow := hstands.fragmentsFollow (hd ▸ h.stands j hj) hlast hlf
      have hrest : (d :: fs).IsChain Follows := hsplit.right_of_append
      have hshort : (d :: fs).length ≤ n := by
        rw [← htail] at hn
        simp only [List.length_append, List.length_cons] at hn ⊢
        omega
      obtain ⟨rest, hrun, hflat, hend⟩ := ih hshort hrest
        (fun z hz => hends z (by
          rw [← htail, List.getLast?_append]
          rw [Option.mem_def] at hz ⊢
          rw [hz]
          rfl))
        (fun z hz => hmem z (by
          rw [← htail]
          exact List.mem_append_right _ hz))
        hj hfirst
      refine ⟨j :: rest, ⟨?_, ?_⟩, ?_, ?_⟩
      · intro k hk
        rcases List.mem_cons.mp hk with rfl | hk
        · exact hi
        · exact hrun.waiting k hk
      · exact List.isChain_cons_cons.mpr ⟨hfollow, hrun.chain⟩
      · rw [List.flatMap_cons, hflat, hrow, htail]
      · intro k hk
        rw [List.getLast?_cons_cons] at hk
        exact hend k hk

/-- **Every message that was received is gathered.** -/
theorem nsctpGatherParts_finds (h : Holds held r) (hapart : RowsApart held r)
    (hlinked : Linked held r) {ds : List NsctpData} (hds : Complete ds)
    (hmem : ∀ d ∈ ds, ∃ j, Waiting r j ∧ d ∈ held j) :
    ∃ i parts, Waiting r i ∧ hasFlag (r.rx i).flags sctpDataFlagBegin = true ∧
      nsctpGatherParts r sctpMaxRecvGap (r.rx i).tsn [] 0 = .ok (some (i :: parts)) ∧
      (i :: parts).flatMap held = ds := by
  obtain ⟨d, ds, rfl⟩ := List.exists_cons_of_ne_nil hds.nonempty
  obtain ⟨i, hi, hdi⟩ := hmem d List.mem_cons_self
  have hbegin := hds.begins d rfl
  -- a fragment that begins a message begins its row
  have hhead : d ∈ (held i).head? := by
    obtain ⟨front, back, hsplit⟩ := List.append_of_mem hdi
    cases hfront : front.getLast? with
    | none =>
      rw [List.getLast?_eq_none_iff] at hfront
      rw [hsplit, hfront]
      rfl
    | some z =>
      have hzd : Follows z d := by
        have hi' := (h.stands i hi).chain
        rw [hsplit] at hi'
        exact (List.isChain_append.mp hi').2.2 z hfront d rfl
      rw [hzd.continues] at hbegin
      exact nomatch hbegin
  obtain ⟨rest, hrun, hflat, hend⟩ :=
    h.finds_from hapart hlinked (Nat.le_refl _) hds.chain hds.ends hmem hi hhead
  have hgather := @nsctpGatherParts_complete _ h.pooled h.distinct _ [] _ _ 0 hrun
    hrun.length_le rfl hend
  exact ⟨i, rest, hi, by rw [(h.stands i hi).first d hhead]; exact hbegin, hgather, hflat⟩

end Nanortc.Spec
