import Mathlib
import Nanortc.Spec.SctpRun

/-!
# Late handshake chunks

An established association has agreed with its peer on tags, windows and a first TSN, and counts
what it has received from there. INIT-ACK and COOKIE-ACK chunks are refused by their state check,
but `nsctp_handle_init` has none: an INIT that arrives late overwrites the peer parameters and sets
the cumulative TSN back, after which TSNs that were delivered are accepted again.

## Key results

- `covers_merge`, `covers_store`: an accepted TSN stays in the table until it is acknowledged
- `association_undisturbed_iff`: which INIT chunks leave an established association alone
-/

namespace Nanortc.Spec

open Nanortc.ForStd Nanortc.Native

/-! ### Accepted TSNs -/

/-- The cumulative TSN stands for position `p`, and each accepted position is acknowledged or in the
table, less than half the number space ahead. -/
structure Covers (r : SctpRecv) (p : Nat) (accepted : List Nat) : Prop where
  position : r.cumulativeTsn = UInt32.ofNat p
  near : ∀ t ∈ accepted, t < p + 2 ^ 31
  held : ∀ t ∈ accepted, p < t → ∃ i, (r.rx i).valid = true ∧ (r.rx i).tsn = UInt32.ofNat t

/-- A position ahead has a TSN ahead. -/
theorem tsn_ahead {p t : Nat} (hlo : p < t) (hhi : t < p + 2 ^ 31) :
    ¬i32 (UInt32.ofNat t - UInt32.ofNat p) ≤ 0 := by
  rw [i32_ofNat_sub_ofNat t p (by omega) (by omega)]
  omega

/-- A number is the position before it plus the distance. -/
theorem ofNat_add_distance {c tsn : UInt32} {p : Nat} (hc : c = UInt32.ofNat p) :
    tsn = UInt32.ofNat (p + (tsn - c).toNat) := by
  rw [UInt32.ofNat_add, UInt32.ofNat_toNat, ← hc, UInt32.add_comm, UInt32.sub_add_cancel]

/-- A TSN ahead is that of a position ahead. -/
theorem position_of_tsn {c tsn : UInt32} {p : Nat} (hc : c = UInt32.ofNat p)
    (h : 0 < i32 (tsn - c)) :
    tsn = UInt32.ofNat (p + (tsn - c).toNat) ∧ p < p + (tsn - c).toNat ∧
      (tsn - c).toNat < 2 ^ 31 := by
  have hlt : 0 < (tsn - c).toNat ∧ (tsn - c).toNat < 2 ^ 31 := by
    rw [i32_eq] at h
    have := (tsn - c).toNat_lt
    split at h <;> omega
  exact ⟨ofNat_add_distance hc, by omega, hlt.2⟩

/-- What is not acknowledged needs a descriptor with its TSN. -/
theorem Covers.of_table {r r' : SctpRecv} {p : Nat} {accepted : List Nat} (h : Covers r p accepted)
    (hcum : r'.cumulativeTsn = r.cumulativeTsn)
    (htable : ∀ i, (r.rx i).valid = true → i32 ((r.rx i).tsn - r.cumulativeTsn) ≤ 0 ∨
      ∃ j, (r'.rx j).valid = true ∧ (r'.rx j).tsn = (r.rx i).tsn) : Covers r' p accepted := by
  refine ⟨hcum.trans h.position, h.near, fun t ht hpt => ?_⟩
  obtain ⟨i, hv, htsn⟩ := h.held t ht hpt
  cases htable i hv with
  | inl hback =>
    rw [htsn, h.position] at hback
    exact absurd hback (tsn_ahead hpt (h.near t ht))
  | inr hj =>
    obtain ⟨j, hvj, htsnj⟩ := hj
    exact ⟨j, hvj, htsnj.trans htsn⟩

theorem Covers.of_same {r r' : SctpRecv} {p : Nat} {accepted : List Nat} (h : Covers r p accepted)
    (hsame : SameTsns r r') : Covers r' p accepted :=
  h.of_table hsame.cumulativeTsn fun i hv => .inr ⟨i, (hsame.valid i).trans hv, hsame.tsn i⟩

theorem Covers.advance {r : SctpRecv} {p k : Nat} {accepted : List Nat} (h : Covers r p accepted) :
    Covers { r with cumulativeTsn := UInt32.ofNat (p + k) } (p + k) accepted := by
  refine ⟨rfl, fun t ht => ?_, fun t ht hpt => h.held t ht (by omega)⟩
  have := h.near t ht
  omega

theorem Covers.reclaim {r : SctpRecv} {p : Nat} {accepted : List Nat} (h : Covers r p accepted) :
    Covers (nsctpRxReclaim r) p accepted := by
  apply h.of_table (nsctpRxReclaim_cumulativeTsn r)
  intro i hv
  by_cases hspent : Spent r i
  · exact .inl hspent.2
  · right
    refine ⟨i, ?_, RxEntry.core_tsn (nsctpRxReclaim_core r i)⟩
    rw [nsctpRxReclaim_valid, hv]
    simp [hspent]

theorem Covers.unstored {r r' : SctpRecv} {p : Nat} {accepted : List Nat} (h : Covers r p accepted)
    (hr : Unstored r r') : Covers r' p accepted := by
  have hneeded : Covers { r with sackNeeded := true } p accepted :=
    ⟨h.position, h.near, h.held⟩
  unfold Unstored at hr
  cases hr with
  | inl hr => exact hr ▸ h
  | inr hr =>
    cases hr with
    | inl hr => exact hr ▸ hneeded
    | inr hr => exact hr ▸ hneeded.reclaim

/-- The distance of a number a few steps on. -/
theorem tsn_distance {c : UInt32} {k : Nat} (hk : k < 2 ^ 31) :
    (c + UInt32.ofNat k - c).toNat = k ∧ 0 ≤ i32 (c + UInt32.ofNat k - c) := by
  have hnat : (c + UInt32.ofNat k - c).toNat = k := by
    rw [UInt32.add_comm, UInt32.add_sub_cancel, UInt32.toNat_ofNat']
    omega
  refine ⟨hnat, ?_⟩
  rw [i32_eq, hnat]
  split <;> omega

/-- The drain passes at most one TSN for each descriptor. -/
theorem covers_drain (r : SctpRecv) :
    ∃ k ≤ sctpMaxRecvGap, (nsctpGapDrain r).cumulativeTsn = r.cumulativeTsn + UInt32.ofNat k ∧
      ∀ p accepted, Covers r p accepted → Covers (nsctpGapDrain r) (p + k) accepted := by
  obtain ⟨k, hk, heq, -⟩ := nsctpGapDrainLoop_eq sctpMaxRecvGap r
  refine ⟨k, hk, ?_, fun p accepted h => ?_⟩
  · unfold nsctpGapDrain
    rw [nsctpRxReclaim_cumulativeTsn, heq]
  · unfold nsctpGapDrain
    rw [heq, h.position, ← UInt32.ofNat_add]
    exact h.advance.reclaim

/-- No join finds its continuation exactly half the number space behind. -/
def JoinsNear (joins : List (SctpRecv × RxSlot × RxSlot)) : Prop :=
  ∀ t i j, (t, i, j) ∈ joins → (t.rx j).tsn - t.cumulativeTsn ≠ 0x80000000

/-- The TSN before one that is not ahead is not ahead, unless it is half the number space behind. -/
theorem pred_not_ahead {a b c : UInt32} (hb : b = a + 1) (hback : i32 (b - c) ≤ 0)
    (hne : b - c ≠ 0x80000000) : i32 (a - c) ≤ 0 := by
  have hsub : a - c + 1 = b - c := by
    rw [hb, UInt32.sub_eq_add_neg, UInt32.sub_eq_add_neg, UInt32.add_assoc, UInt32.add_assoc,
      UInt32.add_comm 1]
  have hnat := congrArg UInt32.toNat hsub
  have hne' : (b - c).toNat ≠ 2 ^ 31 := fun h => hne (UInt32.toNat_inj.mp h)
  rw [UInt32.toNat_add, show (1 : UInt32).toNat = 1 from rfl] at hnat
  have h1 := (a - c).toNat_lt
  have h2 := (b - c).toNat_lt
  rw [i32_eq] at hback ⊢
  split at hback <;> split <;> omega

/-- **Merging keeps every accepted TSN that is not acknowledged in the table.** -/
theorem covers_merge {r : SctpRecv} {p : Nat} {accepted : List Nat} (h : Covers r p accepted)
    (hnear : JoinsNear (nsctpRxJoins sctpMaxRecvGap r)) : Covers (nsctpRxMerge r).1 p accepted := by
  apply nsctpRxMergeLoop_induction (P := fun t => Covers t p accepted) h
  intro t i j hmem ht hjoin
  have hij := nsctpRxJoinable_ne hjoin
  obtain ⟨-, -, -, -, hback, hfollow⟩ := (nsctpRxJoinable_iff ..).mp hjoin
  have hnext := ((nsctpFragmentsFollow_iff ..).mp hfollow).1
  obtain ⟨-, hcore, hvalid⟩ := nsctpRxJoin_core t hij
  apply ht.of_table (nsctpRxJoin_frame t i j).1
  intro k hv
  by_cases hkj : j = k
  · -- the continuation is acknowledged
    subst hkj
    exact .inl hback
  by_cases hki : k = i
  · -- and so is the fragment it continues
    subst hki
    exact .inl (pred_not_ahead hnext hback (hnear t k j hmem))
  · right
    refine ⟨k, ?_, RxEntry.core_tsn (hcore k hki)⟩
    rw [hvalid, hv]
    simp [hkj]

/-- **A stored TSN is in the table.** -/
theorem covers_store {r : SctpRecv} {p t : Nat} {accepted : List Nat} (h : Covers r p accepted)
    {slot : RxSlot} {d : NsctpData} (hfree : (r.rx slot).valid = false)
    (htsn : d.tsn = UInt32.ofNat t) (hnear : t < p + 2 ^ 31) :
    Covers (nsctpStore r slot d) p (accepted ++ [t]) := by
  have hslot : (nsctpStore r slot d).rx slot =
      { nsctpIncoming d with dataOffset := r.recvGapBufUsed } := by
    rw [nsctpStore_rx, if_pos rfl]
  refine ⟨h.position, fun u hu => ?_, fun u hu hpu => ?_⟩
  · cases List.mem_append.mp hu with
    | inl hu => exact h.near u hu
    | inr hu => exact List.mem_singleton.mp hu ▸ hnear
  · cases List.mem_append.mp hu with
    | inl hu =>
      obtain ⟨i, hv, hi⟩ := h.held u hu hpu
      refine ⟨i, ?_⟩
      rw [nsctpStore_rx, if_neg fun heq => by rw [heq, hv] at hfree; exact nomatch hfree]
      exact ⟨hv, hi⟩
    | inr hu =>
      refine ⟨slot, ?_⟩
      rw [hslot, List.mem_singleton.mp hu]
      exact ⟨rfl, htsn⟩

/-! ### The history of an association -/

/-- An INIT chunk leaves an established association alone: it cannot be answered, or it repeats the
peer parameters and does not set the cumulative TSN back. -/
def nsctpInitRepeats (s : NanoSctp) (random : Option AssociationSeed) (chunk : List UInt8) : Bool :=
  match SctpChunkType.ofType (byteAt chunk 0), nsctpParseInit chunk with
  | .init, some init =>
    (s.localVtag == 0 && random.isNone) ||
      (peerOf s == ⟨init.initiateTag, init.initialTsn, init.aRwnd, init.forwardTsnSupported,
          init.numIstreams, init.numOstreams⟩ &&
        decide (0 ≤ i32 (init.initialTsn - 1 - s.recv.cumulativeTsn)))
  | _, _ => true

/-- What is logged of an association from the moment it is established: the peer parameters and
cumulative TSNs it goes through, the position that the cumulative TSN stands for and those of the
DATA chunks stored, whether every INIT chunk left it alone, and whether no join found its
continuation half the number space behind. -/
structure HandshakeLog where
  trail : List (SctpPeer × UInt32) := []
  position : Nat := 0
  accepted : List Nat := []
  initsRepeat : Bool := true
  joinsNear : Bool := true
deriving DecidableEq

/-- The log of an association; a new association of the application starts a new one. -/
def handshakeHistory : History HandshakeLog where
  chunk g s random chunk s' :=
    if g.trail = [] then
      if s'.state = .established then
        { trail := [(peerOf s', s'.recv.cumulativeTsn)], position := s'.recv.cumulativeTsn.toNat }
      else g
    else
      { trail := g.trail ++ ((nsctpForwards s chunk).toList.map fun tsn => (peerOf s', tsn)) ++
          [(peerOf s', s'.recv.cumulativeTsn)]
        position := g.position + (s'.recv.cumulativeTsn - s.recv.cumulativeTsn).toNat
        accepted := g.accepted ++ (nsctpStored s chunk).toList.map fun p =>
          g.position + (p.2.tsn - s.recv.cumulativeTsn).toNat
        initsRepeat := g.initsRepeat && nsctpInitRepeats s random chunk
        joinsNear := g.joinsNear && (nsctpChunkJoins s chunk).all fun t =>
          (t.1.rx t.2.2).tsn - t.1.cumulativeTsn != 0x80000000 }
  call g s i := match i with
    | .start random => if (nsctpStart s random).2 = .ok then {} else g
    | _ => g

/-- The peer parameters stay, and the cumulative TSN does not move backwards. -/
def Onward (a b : SctpPeer × UInt32) : Prop := b.1 = a.1 ∧ 0 ≤ i32 (b.2 - a.2)

instance : DecidableRel Onward := fun _ _ => inferInstanceAs (Decidable (_ ∧ _))

/-- The log of an established association is true. -/
structure Undisturbed (s : NanoSctp) (g : HandshakeLog) : Prop where
  state : s.state = .established ∨ s.state = .closed
  last : g.trail.getLast? = some (peerOf s, s.recv.cumulativeTsn)
  trail : g.trail.IsChain Onward ↔ g.initsRepeat = true
  accepted : g.initsRepeat = true → g.joinsNear = true →
    Covers s.recv g.position g.accepted ∧ g.accepted.Nodup

/-- A call that leaves the receive state and the peer parameters leaves the log true. -/
theorem Undisturbed.of_same {s s' : NanoSctp} {g : HandshakeLog} (h : Undisturbed s g)
    (hsame : SameReceive s s') (hstate : s'.state = .established ∨ s'.state = .closed) :
    Undisturbed s' g := by
  have hcum : s'.recv.cumulativeTsn = s.recv.cumulativeTsn := by rw [hsame.recv]
  refine ⟨hstate, by rw [h.last, hsame.peer, hcum], h.trail, fun hinit hjoin => ?_⟩
  obtain ⟨hcov, hnodup⟩ := h.accepted hinit hjoin
  refine ⟨hcov.of_same ⟨fun j => ?_, fun j => ?_, hcum⟩, hnodup⟩
  · rw [hsame.recv]
    rfl
  · rw [hsame.recv]
    rfl

/-- What a chunk adds to a true log. -/
theorem Undisturbed.chunk {s s' : NanoSctp} {g : HandshakeLog} (h : Undisturbed s g)
    {random : Option AssociationSeed} {chunk : List UInt8}
    (hstate : s'.state = .established ∨ s'.state = .closed)
    (htrail : ((peerOf s, s.recv.cumulativeTsn) ::
        (((nsctpForwards s chunk).toList.map fun tsn => (peerOf s', tsn)) ++
          [(peerOf s', s'.recv.cumulativeTsn)])).IsChain Onward ↔
      nsctpInitRepeats s random chunk = true)
    (hcov : nsctpInitRepeats s random chunk = true → JoinsNear (nsctpChunkJoins s chunk) →
      ∀ p accepted, Covers s.recv p accepted →
        Covers s'.recv (p + (s'.recv.cumulativeTsn - s.recv.cumulativeTsn).toNat)
          (accepted ++ (nsctpStored s chunk).toList.map fun q =>
            p + (q.2.tsn - s.recv.cumulativeTsn).toNat)) :
    Undisturbed s' (handshakeHistory.chunk g s random chunk s') := by
  have hne : g.trail ≠ [] := by
    intro hnil
    have := h.last
    rw [hnil] at this
    exact nomatch this
  unfold handshakeHistory
  dsimp only
  rw [if_neg hne]
  refine ⟨hstate, by simp, ?_, fun hinit hjoin => ?_⟩
  · obtain ⟨pre, hpre⟩ : ∃ pre, g.trail = pre ++ [(peerOf s, s.recv.cumulativeTsn)] :=
      List.getLast?_eq_some_iff.mp h.last
    have hsplit := h.trail
    rw [hpre] at hsplit ⊢
    rw [Bool.and_eq_true, ← hsplit, ← htrail, List.append_assoc, List.append_assoc,
      List.singleton_append, List.isChain_split]
  · simp only [Bool.and_eq_true] at hinit hjoin
    obtain ⟨hc, hnodup⟩ := h.accepted hinit.1 hjoin.1
    have hnear : JoinsNear (nsctpChunkJoins s chunk) := by
      intro t i j hmem
      have := List.all_eq_true.mp hjoin.2 _ hmem
      simpa using this
    refine ⟨hcov hinit.2 hnear _ _ hc, ?_⟩
    cases hstored : nsctpStored s chunk with
    | none => simpa using hnodup
    | some q =>
      -- a stored TSN was neither acknowledged nor in the table
      obtain ⟨-, hahead, -, hadmit⟩ := nsctpStored_some hstored
      obtain ⟨htsn, hlt, -⟩ := position_of_tsn hc.position hahead
      rw [Option.toList_some, List.map_singleton, List.nodup_append]
      refine ⟨hnodup, List.nodup_singleton _, fun t ht u hu heq => ?_⟩
      obtain rfl := List.mem_singleton.mp hu
      subst heq
      have hr : Covers (nsctpRxReclaim { s.recv with sackNeeded := true }) g.position g.accepted :=
        Covers.reclaim (hc.of_same ⟨fun _ => rfl, fun _ => rfl, rfl⟩)
      obtain ⟨i, hv, hi⟩ := hr.held _ ht hlt
      exact (nsctpAdmit_store (Prod.ext rfl hadmit)).2.2 i hv (hi.trans htsn.symm)

/-! ### The chunk handlers -/

/-- What an INIT chunk does: nothing, if it cannot be answered, and else it overwrites the peer
parameters and the cumulative TSN. -/
theorem nsctpHandleInit_cases (s : NanoSctp) (random : Option AssociationSeed)
    (chunk : List UInt8) (hdr : NsctpHeader) :
    (nsctpHandleInit s random chunk hdr).1.state = s.state ∧
    match nsctpParseInit chunk with
    | none => (nsctpHandleInit s random chunk hdr).1 = s
    | some init =>
      if s.localVtag = 0 ∧ random = none then (nsctpHandleInit s random chunk hdr).1 = s
      else
        peerOf (nsctpHandleInit s random chunk hdr).1 = ⟨init.initiateTag, init.initialTsn,
          init.aRwnd, init.forwardTsnSupported, init.numIstreams, init.numOstreams⟩ ∧
        (nsctpHandleInit s random chunk hdr).1.recv =
          { s.recv with cumulativeTsn := init.initialTsn - 1 } := by
  unfold nsctpHandleInit
  cases nsctpParseInit chunk with
  | none => exact ⟨rfl, rfl⟩
  | some init =>
    dsimp only
    have hown : (if s.localVtag = 0 then nsctpGenerateAssociationSeed random
        else .ok ⟨s.localVtag, s.nextTsn, s.cookieSecret⟩) =
          .error .crypto ∧ (s.localVtag = 0 ∧ random = none) ∨
        ∃ own, (if s.localVtag = 0 then nsctpGenerateAssociationSeed random
          else .ok ⟨s.localVtag, s.nextTsn, s.cookieSecret⟩) = .ok own ∧
          ¬(s.localVtag = 0 ∧ random = none) := by
      by_cases hv : s.localVtag = 0
      · rw [if_pos hv]
        cases random with
        | none => exact .inl ⟨rfl, hv, rfl⟩
        | some seed => exact .inr ⟨_, rfl, fun h => nomatch h.2⟩
      · rw [if_neg hv]
        exact .inr ⟨_, rfl, fun h => hv h.1⟩
    cases hown with
    | inl h =>
      rw [h.1, if_pos h.2]
      exact ⟨rfl, rfl⟩
    | inr h =>
      obtain ⟨own, hown, hno⟩ := h
      rw [hown, if_neg hno]
      dsimp only
      have hq (t : NanoSctp) (v : UInt32) (c : List UInt8) :
          peerOf (nsctpQueueOutput t v c) = peerOf t ∧ (nsctpQueueOutput t v c).recv = t.recv ∧
            (nsctpQueueOutput t v c).state = t.state := by
        unfold nsctpQueueOutput
        dsimp only
        split <;> exact ⟨rfl, rfl, rfl⟩
      exact ⟨(hq _ _ _).2.2, (hq _ _ _).1, (hq _ _ _).2.1⟩

theorem nsctpStored_of_type {s : NanoSctp} {chunk : List UInt8}
    (h : SctpChunkType.ofType (byteAt chunk 0) ≠ .data) : nsctpStored s chunk = none := by
  unfold nsctpStored
  exact if_pos (.inl h)

theorem nsctpForwards_of_type {s : NanoSctp} {chunk : List UInt8}
    (h : SctpChunkType.ofType (byteAt chunk 0) ≠ .forwardTsn) : nsctpForwards s chunk = none := by
  unfold nsctpForwards
  exact if_pos (.inl h)

theorem nsctpInitRepeats_of_type {s : NanoSctp} {random : Option AssociationSeed}
    {chunk : List UInt8} (h : SctpChunkType.ofType (byteAt chunk 0) ≠ .init) :
    nsctpInitRepeats s random chunk = true := by
  unfold nsctpInitRepeats
  split
  · rename_i heq _
    exact absurd heq h
  · rfl

/-- The trail of a chunk that keeps the peer parameters and moves the cumulative TSN on. -/
theorem trail_onward {s s' : NanoSctp} (mids : List UInt32) (hpeer : peerOf s' = peerOf s)
    (hmids : (s.recv.cumulativeTsn :: (mids ++ [s'.recv.cumulativeTsn])).IsChain
      fun a b => 0 ≤ i32 (b - a)) :
    ((peerOf s, s.recv.cumulativeTsn) ::
      ((mids.map fun tsn => (peerOf s', tsn)) ++ [(peerOf s', s'.recv.cumulativeTsn)])).IsChain
        Onward := by
  have hmap : (peerOf s, s.recv.cumulativeTsn) ::
      ((mids.map fun tsn => (peerOf s', tsn)) ++ [(peerOf s', s'.recv.cumulativeTsn)]) =
      (s.recv.cumulativeTsn :: (mids ++ [s'.recv.cumulativeTsn])).map fun c => (peerOf s, c) := by
    rw [hpeer, List.map_cons, List.map_append, List.map_singleton]
  rw [hmap, List.isChain_map]
  exact hmids.imp fun _ _ h => ⟨rfl, h⟩

/-- A chunk that leaves the receive state and the peer parameters leaves the log true. -/
theorem Undisturbed.chunk_same {s s' : NanoSctp} {g : HandshakeLog} (h : Undisturbed s g)
    {random : Option AssociationSeed} {chunk : List UInt8} (hsame : SameReceive s s')
    (hstate : s'.state = .established ∨ s'.state = .closed)
    (hstored : nsctpStored s chunk = none) (hfwd : nsctpForwards s chunk = none)
    (hinit : nsctpInitRepeats s random chunk = true) :
    Undisturbed s' (handshakeHistory.chunk g s random chunk s') := by
  have hcum : s'.recv.cumulativeTsn = s.recv.cumulativeTsn := by rw [hsame.recv]
  apply h.chunk hstate
  · rw [hfwd, hinit]
    refine iff_of_true (trail_onward [] hsame.peer ?_) rfl
    rw [hcum, List.nil_append, List.isChain_pair, UInt32.sub_self]
    decide
  · intro _ _ p accepted hc
    rw [hstored, hcum, UInt32.sub_self]
    rw [show accepted ++ List.map _ (Option.toList none) = accepted by simp]
    refine hc.of_same ⟨fun j => ?_, fun j => ?_, hcum⟩
    · rw [hsame.recv]
      rfl
    · rw [hsame.recv]
      rfl

/-- A DATA chunk keeps the log true. -/
theorem Undisturbed.data {s : NanoSctp} {g : HandshakeLog} (h : Undisturbed s g)
    {random : Option AssociationSeed} {chunk : List UInt8}
    (htype : SctpChunkType.ofType (byteAt chunk 0) = .data) :
    Undisturbed (nsctpHandleDataChunk s chunk).1
      (handshakeHistory.chunk g s random chunk (nsctpHandleDataChunk s chunk).1) := by
  have hframe := nsctpHandleDataChunk_frame s chunk
  have hfwd : nsctpForwards s chunk = none := nsctpForwards_of_type (by rw [htype]; decide)
  have hinit : nsctpInitRepeats s random chunk = true :=
    nsctpInitRepeats_of_type (by rw [htype]; decide)
  cases nsctpHandleDataChunk_cases s htype with
  | inl hun =>
    obtain ⟨hstored, hrecv⟩ := hun
    have hcum : (nsctpHandleDataChunk s chunk).1.recv.cumulativeTsn = s.recv.cumulativeTsn := by
      rcases hrecv with hr | hr | hr
      · rw [hr]
      · rw [hr]
      · rw [hr, nsctpRxReclaim_cumulativeTsn]
    apply h.chunk (hframe.2 ▸ h.state)
    · rw [hfwd, hinit]
      refine iff_of_true (trail_onward [] hframe.1 ?_) rfl
      rw [hcum, List.nil_append, List.isChain_pair, UInt32.sub_self]
      decide
    · intro _ _ p accepted hc
      rw [hstored, hcum, UInt32.sub_self]
      rw [show accepted ++ List.map _ (Option.toList none) = accepted by simp]
      exact hc.unstored hrecv
  | inr hst =>
    obtain ⟨q, hstored, hrecv⟩ := hst
    obtain ⟨-, hahead, -, hadmit⟩ := nsctpStored_some hstored
    obtain ⟨k, hk, hdrain, hcovers⟩ := covers_drain
      (nsctpStore (nsctpRxReclaim { s.recv with sackNeeded := true }) q.1 q.2)
    have hcum : (nsctpHandleDataChunk s chunk).1.recv.cumulativeTsn =
        s.recv.cumulativeTsn + UInt32.ofNat k := by
      rw [hrecv, nsctpRxMerge_cumulativeTsn]
      unfold nsctpAfterStore
      rw [hdrain, nsctpStore_cumulativeTsn, nsctpRxReclaim_cumulativeTsn]
    have hk' : k < 2 ^ 31 := Nat.lt_of_le_of_lt hk (by decide)
    apply h.chunk (hframe.2 ▸ h.state)
    · rw [hfwd, hinit]
      refine iff_of_true (trail_onward [] hframe.1 ?_) rfl
      rw [hcum, List.nil_append, List.isChain_pair]
      exact (tsn_distance hk').2
    · intro _ hnear p accepted hc
      obtain ⟨htsn, hlt, hfar⟩ := position_of_tsn hc.position hahead
      rw [hstored, hcum, (tsn_distance hk').1, hrecv]
      rw [nsctpChunkJoins_stored hstored] at hnear
      unfold nsctpAfterStore at hnear ⊢
      refine covers_merge (hcovers p _ ?_) hnear
      have hneeded : Covers { s.recv with sackNeeded := true } p accepted :=
        ⟨hc.position, hc.near, hc.held⟩
      exact covers_store hneeded.reclaim (nsctpAdmit_store (Prod.ext rfl hadmit)).1 htsn
        (Nat.add_lt_add_left hfar p)

/-- A FORWARD TSN chunk keeps the log true. -/
theorem Undisturbed.forward {s : NanoSctp} {g : HandshakeLog} (h : Undisturbed s g)
    {random : Option AssociationSeed} {chunk : List UInt8}
    (htype : SctpChunkType.ofType (byteAt chunk 0) = .forwardTsn) :
    Undisturbed (nsctpHandleForwardTsn s chunk).1
      (handshakeHistory.chunk g s random chunk (nsctpHandleForwardTsn s chunk).1) := by
  have hframe : peerOf (nsctpHandleForwardTsn s chunk).1 = peerOf s ∧
      (nsctpHandleForwardTsn s chunk).1.state = s.state := by
    unfold nsctpHandleForwardTsn
    dsimp only
    iterate 3
      split
      · exact ⟨rfl, rfl⟩
    split
    · exact ⟨rfl, rfl⟩
    · split <;> exact ⟨rfl, rfl⟩
  have hstored : nsctpStored s chunk = none := nsctpStored_of_type (by rw [htype]; decide)
  have hinit : nsctpInitRepeats s random chunk = true :=
    nsctpInitRepeats_of_type (by rw [htype]; decide)
  cases nsctpHandleForwardTsn_cases s htype with
  | inl hno =>
    obtain ⟨hfwd, hrecv⟩ := hno
    refine h.chunk_same ⟨?_, hframe.1⟩ (hframe.2 ▸ h.state) hstored hfwd hinit
    rcases hrecv with hr | hr
    · rw [hr]
    · rw [hr]
  | inr hyes =>
    obtain ⟨tsn, recv, hfwd, hahead, hsame, hrecv⟩ := hyes
    obtain ⟨k, hk, hdrain, hcovers⟩ := covers_drain recv
    have hmerged : recv.cumulativeTsn = tsn := by
      rw [hsame.cumulativeTsn, nsctpRxMerge_cumulativeTsn]
    have hk' : k < 2 ^ 31 := Nat.lt_of_le_of_lt hk (by decide)
    -- the association stops at the new TSN or is drained from there
    obtain ⟨m, hm, hcum, hcov⟩ : ∃ m ≤ k,
        (nsctpHandleForwardTsn s chunk).1.recv.cumulativeTsn = tsn + UInt32.ofNat m ∧
        ∀ p accepted, Covers recv p accepted →
          Covers (nsctpHandleForwardTsn s chunk).1.recv (p + m) accepted := by
      cases hrecv with
      | inl hr =>
        refine ⟨0, Nat.zero_le k, ?_, fun p accepted hc => ?_⟩
        · rw [hr, hmerged]
          exact (UInt32.add_zero tsn).symm
        · rw [hr]
          exact hc
      | inr hr =>
        refine ⟨k, Nat.le_refl k, ?_, fun p accepted hc => ?_⟩
        · rw [hr, hdrain, hmerged]
        · rw [hr]
          exact hcovers p accepted hc
    apply h.chunk (hframe.2 ▸ h.state)
    · rw [hfwd, hinit]
      refine iff_of_true (trail_onward [tsn] hframe.1 ?_) rfl
      rw [List.singleton_append, List.isChain_cons_cons, List.isChain_pair, hcum]
      exact ⟨Int.le_of_lt hahead, (tsn_distance (by omega)).2⟩
    · intro _ hnear p accepted hc
      obtain ⟨htsn, -, hfar⟩ := position_of_tsn hc.position hahead
      have hm' : m ≤ 8 := Nat.le_trans hm hk
      have hdist : ((nsctpHandleForwardTsn s chunk).1.recv.cumulativeTsn -
          s.recv.cumulativeTsn).toNat = (tsn - s.recv.cumulativeTsn).toNat + m := by
        rw [hcum, UInt32.sub_eq_add_neg, UInt32.add_assoc, UInt32.add_comm (UInt32.ofNat m),
          ← UInt32.add_assoc, ← UInt32.sub_eq_add_neg, UInt32.toNat_add, UInt32.toNat_ofNat']
        omega
      rw [hstored, hdist, ← Nat.add_assoc]
      rw [show accepted ++ List.map _ (Option.toList none) = accepted by simp]
      apply hcov
      refine Covers.of_same ?_ hsame
      rw [nsctpChunkJoins_forward hstored hfwd] at hnear
      refine covers_merge ?_ hnear
      have hadv := hc.advance (k := (tsn - s.recv.cumulativeTsn).toNat)
      exact ⟨htsn, hadv.near, hadv.held⟩

/-- An INIT chunk keeps the log true; it is the one chunk that can disturb the association. -/
theorem Undisturbed.init {s : NanoSctp} {g : HandshakeLog} (h : Undisturbed s g)
    {random : Option AssociationSeed} {hdr : NsctpHeader} {chunk : List UInt8}
    (htype : SctpChunkType.ofType (byteAt chunk 0) = .init) :
    Undisturbed (nsctpHandleInit s random chunk hdr).1
      (handshakeHistory.chunk g s random chunk (nsctpHandleInit s random chunk hdr).1) := by
  have hstored : nsctpStored s chunk = none := nsctpStored_of_type (by rw [htype]; decide)
  have hfwd : nsctpForwards s chunk = none := nsctpForwards_of_type (by rw [htype]; decide)
  obtain ⟨hstate, hcase⟩ := nsctpHandleInit_cases s random chunk hdr
  have hstate' : (nsctpHandleInit s random chunk hdr).1.state = .established ∨
      (nsctpHandleInit s random chunk hdr).1.state = .closed := hstate ▸ h.state
  cases hparse : nsctpParseInit chunk with
  | none =>
    rw [hparse] at hcase
    have hrepeat : nsctpInitRepeats s random chunk = true := by
      unfold nsctpInitRepeats
      rw [htype, hparse]
    rw [hcase] at hstate' ⊢
    exact h.chunk_same (.refl s) hstate' hstored hfwd hrepeat
  | some init =>
    rw [hparse] at hcase
    dsimp only at hcase
    by_cases hmute : s.localVtag = 0 ∧ random = none
    · rw [if_pos hmute] at hcase
      have hrepeat : nsctpInitRepeats s random chunk = true := by
        unfold nsctpInitRepeats
        rw [htype, hparse]
        simp [hmute.1, hmute.2]
      rw [hcase] at hstate' ⊢
      exact h.chunk_same (.refl s) hstate' hstored hfwd hrepeat
    · rw [if_neg hmute] at hcase
      obtain ⟨hpeer, hrecv⟩ := hcase
      apply h.chunk hstate'
      · rw [hfwd, Option.toList_none, List.map_nil, List.nil_append, List.isChain_pair, hpeer, hrecv]
        unfold nsctpInitRepeats Onward
        rw [htype, hparse]
        have hanswers : (s.localVtag == 0 && random.isNone) = false := by
          rw [Bool.eq_false_iff]
          intro hm
          rw [Bool.and_eq_true, beq_iff_eq, Option.isNone_iff_eq_none] at hm
          exact hmute hm
        dsimp only
        rw [hanswers, Bool.false_or, Bool.and_eq_true, beq_iff_eq, decide_eq_true_iff, eq_comm]
      · intro _ _ p accepted hc
        rw [hstored, hrecv]
        rw [show accepted ++ List.map _ (Option.toList none) = accepted by simp]
        have hadv := hc.advance (k := (init.initialTsn - 1 - s.recv.cumulativeTsn).toNat)
        exact ⟨ofNat_add_distance hc.position, hadv.near, hadv.held⟩

/-- **Every chunk keeps the log true.** -/
theorem Undisturbed.handle {s : NanoSctp} {g : HandshakeLog} (h : Undisturbed s g)
    (random : Option AssociationSeed) (hdr : NsctpHeader) (chunk : List UInt8) :
    Undisturbed (nsctpHandleChunk s random hdr chunk).1
      (handshakeHistory.chunk g s random chunk (nsctpHandleChunk s random hdr chunk).1) := by
  have hnot : s.state ≠ .cookieWait ∧ s.state ≠ .cookieEchoed := by
    cases h.state with
    | inl he => rw [he]; decide
    | inr hc => rw [hc]; decide
  -- what the other chunks leave alone
  have hother (htype : SctpChunkType.ofType (byteAt chunk 0) ≠ .data ∧
      SctpChunkType.ofType (byteAt chunk 0) ≠ .forwardTsn ∧
      SctpChunkType.ofType (byteAt chunk 0) ≠ .init) {s' : NanoSctp} (hsame : SameReceive s s')
      (hstate : s'.state = .established ∨ s'.state = .closed) :
      Undisturbed s' (handshakeHistory.chunk g s random chunk s') :=
    h.chunk_same hsame hstate (nsctpStored_of_type htype.1) (nsctpForwards_of_type htype.2.1)
      (nsctpInitRepeats_of_type htype.2.2)
  unfold nsctpHandleChunk
  cases htype : SctpChunkType.ofType (byteAt chunk 0) with
  | init => exact h.init htype
  | data => exact h.data htype
  | forwardTsn => exact h.forward htype
  | initAck =>
    apply hother (by rw [htype]; decide)
    · unfold nsctpHandleInitAck
      rw [if_pos hnot.1]
      exact .refl s
    · unfold nsctpHandleInitAck
      rw [if_pos hnot.1]
      exact h.state
  | cookieEcho =>
    dsimp only
    unfold nsctpHandleCookieEcho
    dsimp only
    split
    · exact hother (by rw [htype]; decide) (.refl s) h.state
    · obtain ⟨hq, -⟩ := sameReceive_send.queueOutput s s.remoteVtag nsctpEncodeCookieAck
      exact hother (by rw [htype]; decide) ⟨hq.recv, hq.peer⟩ (.inl rfl)
  | cookieAck =>
    apply hother (by rw [htype]; decide)
    · unfold nsctpHandleCookieAck
      rw [if_pos hnot.2]
      exact .refl s
    · unfold nsctpHandleCookieAck
      rw [if_pos hnot.2]
      exact h.state
  | sack =>
    obtain ⟨hsame, hstate⟩ := nsctpHandleSackChunk_same s chunk
    exact hother (by rw [htype]; decide) hsame (hstate ▸ h.state)
  | heartbeat =>
    obtain ⟨hsame, hstate⟩ := sameReceive_send.handleHeartbeat s chunk
    exact hother (by rw [htype]; decide) hsame (hstate ▸ h.state)
  | heartbeatAck => exact hother (by rw [htype]; decide) ⟨rfl, rfl⟩ h.state
  | abort => exact hother (by rw [htype]; decide) ⟨rfl, rfl⟩ (.inr rfl)
  | shutdown => exact hother (by rw [htype]; decide) (.refl s) h.state
  | other => exact hother (by rw [htype]; decide) (.refl s) h.state

/-! ### Runs -/

/-- The invariant: nothing is logged before the association is established, and then the log is
true. -/
def HandshakeInv (s : NanoSctp) (g : HandshakeLog) : Prop :=
  (g = {} ∧ s.state ≠ .established) ∨ Undisturbed s g

theorem HandshakeInv.handle {s : NanoSctp} {g : HandshakeLog} (h : HandshakeInv s g)
    (random : Option AssociationSeed) (hdr : NsctpHeader) (chunk : List UInt8) :
    HandshakeInv (nsctpHandleChunk s random hdr chunk).1
      (handshakeHistory.chunk g s random chunk (nsctpHandleChunk s random hdr chunk).1) := by
  cases h with
  | inr h => exact .inr (h.handle random hdr chunk)
  | inl h =>
    obtain ⟨rfl, -⟩ := h
    generalize (nsctpHandleChunk s random hdr chunk).1 = s'
    unfold handshakeHistory
    dsimp only
    rw [if_pos rfl]
    split
    · -- the handshake is over
      rename_i hstate
      refine .inr ⟨.inl hstate, rfl, ?_, fun _ _ => ⟨⟨?_, ?_, ?_⟩, List.nodup_nil⟩⟩
      · exact iff_of_true (List.isChain_singleton _) rfl
      · exact UInt32.ofNat_toNat.symm
      · exact fun t ht => nomatch ht
      · exact fun t ht => nomatch ht
    · rename_i hstate
      exact .inl ⟨rfl, hstate⟩

theorem HandshakeInv.of_same {s s' : NanoSctp} {g : HandshakeLog} (h : HandshakeInv s g)
    (hsame : SameReceive s s') (hstate : s'.state = s.state ∨ s'.state = .closed) :
    HandshakeInv s' g := by
  cases h with
  | inl h =>
    refine .inl ⟨h.1, ?_⟩
    cases hstate with
    | inl heq => exact heq ▸ h.2
    | inr heq =>
      rw [heq]
      decide
  | inr h =>
    refine .inr (h.of_same hsame ?_)
    cases hstate with
    | inl heq => exact heq ▸ h.state
    | inr heq => exact .inr heq

theorem HandshakeInv.of_tsns {s s' : NanoSctp} {g : HandshakeLog} (h : HandshakeInv s g)
    (hpeer : peerOf s' = peerOf s) (hstate : s'.state = s.state)
    (hsame : SameTsns (nsctpRxReclaim s.recv) s'.recv) : HandshakeInv s' g := by
  cases h with
  | inl h => exact .inl ⟨h.1, hstate ▸ h.2⟩
  | inr h =>
    have hcum : s'.recv.cumulativeTsn = s.recv.cumulativeTsn := by
      rw [hsame.cumulativeTsn, nsctpRxReclaim_cumulativeTsn]
    refine .inr ⟨hstate ▸ h.state, by rw [h.last, hpeer, hcum], h.trail, fun hinit hjoin => ?_⟩
    obtain ⟨hc, hnodup⟩ := h.accepted hinit hjoin
    exact ⟨hc.reclaim.of_same hsame, hnodup⟩

theorem nsctpStart_cases (s : NanoSctp) (random : Option AssociationSeed) :
    ((nsctpStart s random).2 ≠ .ok ∧ (nsctpStart s random).1 = s) ∨
      ((nsctpStart s random).2 = .ok ∧ (nsctpStart s random).1.state = .cookieWait) := by
  unfold nsctpStart
  split
  · exact .inl ⟨nofun, rfl⟩
  split
  · exact .inl ⟨nofun, rfl⟩
  cases random with
  | none => exact .inl ⟨nofun, rfl⟩
  | some seed => exact .inr ⟨rfl, rfl⟩

theorem HandshakeInv.call {s : NanoSctp} {g : HandshakeLog} (h : HandshakeInv s g) (i : SctpInput)
    (hi : ∀ random data, i ≠ .packet random data) :
    HandshakeInv (sctpStep s i) (handshakeHistory.call g s i) := by
  cases i with
  | packet random data => exact absurd rfl (hi random data)
  | start random =>
    show HandshakeInv (nsctpStart s random).1 (if (nsctpStart s random).2 = .ok then {} else g)
    cases nsctpStart_cases s random with
    | inl hno =>
      rw [if_neg hno.1, hno.2]
      exact h
    | inr hyes =>
      rw [if_pos hyes.1]
      refine .inl ⟨rfl, ?_⟩
      rw [hyes.2]
      decide
  | pollDelivery =>
    obtain ⟨hpeer, hstate⟩ := nsctpPollDelivery_frame s
    have hpoll := h.of_tsns hpeer hstate (nsctpPollDelivery_same s)
    unfold sctpStep
    exact hpoll
  | pollOutput bufLen =>
    obtain ⟨hsame, hstate⟩ := sameReceive_send.pollOutput s bufLen
    exact h.of_same hsame (.inl hstate)
  | send streamId ppid data unordered maxRetransmits =>
    obtain ⟨hsame, hstate⟩ := nsctpSendOptions_same s streamId ppid data unordered maxRetransmits
    exact h.of_same hsame (.inl hstate)
  | timeout nowMs random =>
    obtain ⟨hsame, hstate⟩ := sameReceive_timer.handleTimeout s nowMs random
    exact h.of_same hsame hstate

theorem handshake_invariant (is : List SctpInput) :
    HandshakeInv (run (sctpLogStep handshakeHistory) (nsctpInit, {}) is).1
      (run (sctpLogStep handshakeHistory) (nsctpInit, {}) is).2 := by
  have hstep (w : NanoSctp × HandshakeLog) (i : SctpInput) (hw : HandshakeInv w.1 w.2) :
      HandshakeInv (sctpLogStep handshakeHistory w i).1 (sctpLogStep handshakeHistory w i).2 :=
    sctpLogStep_invariant (fun s g random hdr chunk h => h.handle random hdr chunk)
      (fun s g h => h.of_same (sameReceive_send.finishPacket s).1
        (.inl (sameReceive_send.finishPacket s).2))
      (fun s g i hi h => h.call i hi) w i hw
  have hstart : HandshakeInv nsctpInit {} := .inl ⟨rfl, nofun⟩
  exact run_invariant (P := fun w => HandshakeInv w.1 w.2) hstep (s := (nsctpInit, {})) hstart is

/-- **An established association is left alone exactly by INIT chunks that repeat the handshake.**
In every run, the peer parameters stay and the cumulative TSN does not move backwards if and only if
every INIT chunk that met the association repeated the peer parameters and did not set the cumulative
TSN back; and no TSN is then accepted twice. -/
theorem association_undisturbed_iff (is : List SctpInput) :
    let w := run (sctpLogStep handshakeHistory) (nsctpInit, {}) is
    (w.1.state = .established →
      w.2.trail.getLast? = some (peerOf w.1, w.1.recv.cumulativeTsn)) ∧
    (w.2.trail.IsChain Onward ↔ w.2.initsRepeat = true) ∧
    (w.2.initsRepeat = true → w.2.joinsNear = true → w.2.accepted.Nodup) := by
  dsimp only
  cases handshake_invariant is with
  | inl h =>
    rw [h.1]
    exact ⟨fun hstate => absurd hstate h.2, iff_of_true List.isChain_nil rfl,
      fun _ _ => List.nodup_nil⟩
  | inr h => exact ⟨fun _ => h.last, h.trail, fun hinit hjoin => (h.accepted hinit hjoin).2⟩

/-- INIT and COOKIE-ECHO repeated at once: the message is accepted one time. -/
theorem association_undisturbed_repeat :
    (run (sctpLogStep handshakeHistory) (nsctpInit, {}) (demoHandshake ++ demoHandshake ++
      [demoData 1000 3 [1, 2, 3], .pollDelivery, demoData 1000 3 [1, 2, 3]])).2.accepted.Nodup := by
  apply (association_undisturbed_iff _).2.2
  · decide +kernel
  · decide +kernel

/-- The INIT repeated after the message was delivered: the message is accepted again. -/
theorem association_disturbed :
    let w := run (sctpLogStep handshakeHistory) (nsctpInit, {}) (demoHandshake ++
      [demoData 1000 3 [1, 2, 3], .pollDelivery, .pollDelivery, demoInit 1000,
        demoData 1000 3 [1, 2, 3]])
    w.1.state = .established ∧ ¬w.2.trail.IsChain Onward ∧
      ¬(w.2.accepted.map UInt32.ofNat).Nodup := by
  decide +kernel

end Nanortc.Spec
