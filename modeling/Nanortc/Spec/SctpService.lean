import Nanortc.ForStd.Run
import Nanortc.Native.Rtc
import Nanortc.Spec.SctpPolling

/-!
# Every stream is served

The receive side of an association under DATA chunks and polls. The abstract model is a collection of
chunks: an accepted chunk joins it, a poll takes out the chunks of one message. The receive table
refines it as long as the accepted chunks fit their stored neighbours and no fragment is joined
before the one it continues; then a poll never fails, and a message whose turn it is on its stream is
handed out within as many polls as the table has descriptors, whatever waits on other streams.

## Key results

- `Serving.data`, `Serving.poll`: the table refines the collection
- `Serving.served`: a message whose turn it is is handed out
- `streams_served`: over every run of DATA chunks and polls
- `stream_blocked`: a fragment run that does not fit blocks a complete message for ever
-/

namespace Nanortc.Spec

open Nanortc.ForStd Nanortc.Native

/-! ### Chunks and polls -/

/-- A DATA chunk of a packet. -/
structure DataChunk where
  bytes : List UInt8
  isData : SctpChunkType.ofType (byteAt bytes 0) = .data

/-- What the receive side of an association is given. -/
inductive RxInput where
  | data (chunk : DataChunk)
  | poll

/-- The association after a DATA chunk or a poll. -/
def rxStep (s : NanoSctp) : RxInput → NanoSctp
  | .data chunk => (nsctpHandleDataChunk s chunk.bytes).1
  | .poll => (nsctpPollDelivery s).1

@[simp] theorem rxStep_poll (s : NanoSctp) : rxStep s .poll = (nsctpPollDelivery s).1 := rfl

/-- What is accepted of a chunk: the chunk if it is stored, else nothing. -/
def acceptedChunks (s : NanoSctp) (chunk : DataChunk) : Multiset NsctpData :=
  match nsctpStored s chunk.bytes with
  | some p => {p.2}
  | none => 0

/-- What a poll leaves of the collection `w`: a message that it returns is made of chunks that are in
the collection, which leave it. -/
def Polled (out : Except Rc SctpMessage) (w : Multiset NsctpData)
    (next : Multiset NsctpData → Prop) : Prop :=
  match out with
  | .ok m => ∃ ds rest, Complete ds ∧ m = messageOf ds ∧ rest + ↑ds = w ∧ next rest
  | .error _ => next w

/-- The collection of accepted chunks along a run, from `w` to `w'`: every message that a poll
returns is made of chunks that were accepted and not handed out before. -/
def Accounts (s : NanoSctp) : List RxInput → Multiset NsctpData → Multiset NsctpData → Prop
  | [], w, w' => w' = w
  | .data chunk :: is, w, w' => Accounts (rxStep s (.data chunk)) is (acceptedChunks s chunk + w) w'
  | .poll :: is, w, w' =>
    Polled (nsctpPollDelivery s).2 w fun rest => Accounts (rxStep s .poll) is rest w'

theorem accounts_poll {s : NanoSctp} {is : List RxInput} {w w' : Multiset NsctpData} :
    Accounts s (.poll :: is) w w' =
      Polled (nsctpPollDelivery s).2 w fun rest => Accounts (rxStep s .poll) is rest w' := by
  rw [Accounts]

/-- The stored chunk fits: a fragment before the last one carries bytes, the stored neighbours
continue each other through it, every run that is joined has its first fragment before the others in
the table, and nothing has waited for half of the TSN space. -/
structure Fits (s : NanoSctp) (p : RxSlot × NsctpData) : Prop where
  filled : hasFlag p.2.flags sctpDataFlagEnd = false → p.2.payload ≠ []
  begins : ∀ i, Waiting s.recv i → p.2.tsn = (s.recv.rx i).tsn + 1 →
    hasFlag (s.recv.rx i).flags sctpDataFlagEnd = false →
    hasFlag p.2.flags sctpDataFlagBegin = false
  continued : ∀ i, Waiting s.recv i → (s.recv.rx i).tsn = p.2.tsn + 1 →
    hasFlag p.2.flags sctpDataFlagEnd = false →
    nsctpFragmentsFollow (nsctpIncoming p.2) (s.recv.rx i) = true
  ordered : HeadsFirst (nsctpAfterStore s p)
  recent : Recent s.recv

/-- Whatever the chunk stores fits. -/
def FittingStep (s : NanoSctp) : RxInput → Prop
  | .data chunk => ∀ p, nsctpStored s chunk.bytes = some p → Fits s p
  | .poll => True

/-- An empty receive table. -/
structure EmptyTable (r : SctpRecv) : Prop where
  free : ∀ i, (r.rx i).valid = false
  used : r.recvGapBufUsed = 0
  count : r.recvGapCount = 0
  room : r.recvGapBuf.length = sctpRecvGapBufSize

/-- It is the message's turn: an unordered message always has it, an ordered one carries the SSN
that its stream expects, and no other message that waits claims the same turn. -/
structure ItsTurn (s : NanoSctp) (w : Multiset NsctpData) (ds : List NsctpData) : Prop where
  expected : hasFlag (ds.headD default).flags sctpDataFlagUnordered = false →
    expectedSsn s.streams (ds.headD default).streamId = some (ds.headD default).ssn
  sole : ∀ es, Complete es → (es : Multiset NsctpData) ≤ w →
    hasFlag (es.headD default).flags sctpDataFlagUnordered = false →
    hasFlag (ds.headD default).flags sctpDataFlagUnordered = false →
    (es.headD default).streamId = (ds.headD default).streamId →
    (es.headD default).ssn = (ds.headD default).ssn → es = ds

/-! ### The table and the collection -/

/-- The association serves the collection of chunks `w`. -/
structure Serving (s : NanoSctp) (held : Holding) (w : Multiset NsctpData) : Prop where
  established : s.state = .established
  table : Orderly held s.recv
  inbox : inbox held s.recv = w
  unskipped : ∀ i, Waiting s.recv i → (s.recv.rx i).forwarded = false
  known : ∀ i, Waiting s.recv i → (streamIndex s.streams (s.recv.rx i).streamId).isSome

variable {s : NanoSctp} {held : Holding} {w : Multiset NsctpData}

/-- An empty table serves nothing yet. -/
theorem Serving.empty (hstate : s.state = .established) (h : EmptyTable s.recv) :
    Serving s (fun _ => []) 0 := by
  have hno (i : RxSlot) : ¬Waiting s.recv i := by
    intro hi
    have hvalid := hi.1
    rw [h.free i] at hvalid
    exact nomatch hvalid
  have hpool : Pooled s.recv := by
    constructor
    · rw [h.used]
      apply Tiles.empty
      intro i hi
      rw [Filled, h.free i] at hi
      exact nomatch hi.1
    · rw [h.used]
      exact Nat.zero_le _
    · exact h.room
    · rw [h.count]
      unfold rxInUse
      simp [h.free]
  refine ⟨hstate, ⟨⟨hpool, ?_, ?_, ?_, ?_, ?_, ?_⟩, ?_, ?_, ?_⟩, ?_, ?_, ?_⟩
  · intro i j hi
    rw [h.free i] at hi
    exact nomatch hi
  · exact fun i hi => absurd hi (hno i)
  · exact fun i hi => absurd hi (hno i)
  · exact fun i hi => absurd hi (hno i)
  · exact fun i hi => absurd hi (hno i)
  · exact fun i _ hi => absurd hi (hno i)
  · exact fun i _ hi => absurd hi (hno i)
  · exact fun i _ hi => absurd hi (hno i)
  · exact fun i _ hi => absurd hi (hno i)
  · unfold Spec.inbox
    simp [hno]
  · exact fun i hi => absurd hi (hno i)
  · exact fun i hi => absurd hi (hno i)

/-- What every descriptor that waits says about its stream. -/
def Entries (q : RxEntry → Prop) (r : SctpRecv) : Prop := ∀ i, Waiting r i → q (r.rx i)

/-- The property speaks about what a join and the pool leave alone. -/
def OfStream (q : RxEntry → Prop) : Prop :=
  ∀ e e', e'.streamId = e.streamId → e'.forwarded = e.forwarded → q e → q e'

theorem Entries.reclaim {q : RxEntry → Prop} (hq : OfStream q) {r : SctpRecv} (h : Entries q r) :
    Entries q (nsctpRxReclaim r) := fun i hi =>
  hq _ _ (RxEntry.core_streamId (nsctpRxReclaim_core r i))
    (RxEntry.core_forwarded (nsctpRxReclaim_core r i)) (h i ((waiting_reclaim i).mp hi))

theorem Entries.drain {q : RxEntry → Prop} (hq : OfStream q) {r : SctpRecv} (h : Entries q r) :
    Entries q (nsctpGapDrain r) := fun i hi =>
  hq _ _ (RxEntry.core_streamId (nsctpGapDrain_core r i))
    (RxEntry.core_forwarded (nsctpGapDrain_core r i)) (h i ((waiting_drain i).mp hi))

theorem Entries.store {q : RxEntry → Prop} (hq : OfStream q) {r : SctpRecv} (h : Entries q r)
    {slot : RxSlot} {d : NsctpData} (hd : q (nsctpIncoming d)) : Entries q (nsctpStore r slot d) := by
  intro i hi
  by_cases his : i = slot
  · rw [his, nsctpStore_self]
    exact hq (nsctpIncoming d) _ rfl rfl hd
  · rw [nsctpStore_other r d his]
    exact h i (((waiting_store d i).mp hi).resolve_left his)

theorem Entries.merge {q : RxEntry → Prop} (hq : OfStream q)
    (hforwarded : ∀ e, q e → e.forwarded = false) {r : SctpRecv} (h : Entries q r) :
    Entries q (nsctpRxMerge r).1 :=
  nsctpRxMergeLoop_induction h fun t i j _ ht hjoin k hk => by
    have hij := nsctpRxJoinable_ne hjoin
    obtain ⟨⟨hwi, hwj, -⟩, -⟩ := nextOf_of_joinable hjoin
    have hwk := ((waiting_join hij k).mp hk).2
    by_cases hki : k = i
    · subst hki
      have hcore := (nsctpRxJoin_core t hij).1
      apply hq (t.rx k) _ (nsctpRxJoin_first t hij).streamId _ (ht k hwk)
      have hf := congrArg RxEntry.forwarded hcore
      generalize (nsctpRxJoin t k j).rx k = e at hf ⊢
      dsimp only at hf
      rw [hforwarded _ (ht k hwi), hforwarded _ (ht j hwj)] at hf
      rw [hforwarded _ (ht k hwk)]
      exact hf
    · have hcore := (nsctpRxJoin_core t hij).2.1 k hki
      exact hq _ _ (RxEntry.core_streamId hcore) (RxEntry.core_forwarded hcore) (ht k hwk)

/-! ### A chunk -/

/-- A descriptor is given to a chunk that continues every unfinished fragment right before it, or
that begins a message. -/
theorem nsctpCheckFragment_ok {r : SctpRecv} {e : RxEntry} (h : nsctpCheckFragment r e = .ok)
    (hbegin : hasFlag e.flags sctpDataFlagBegin = false) {i : RxSlot} (hi : Waiting r i)
    (hend : hasFlag (r.rx i).flags sctpDataFlagEnd = false) (htsn : e.tsn = (r.rx i).tsn + 1) :
    nsctpFragmentsFollow (r.rx i) e = true := by
  unfold nsctpCheckFragment at h
  rw [hbegin] at h
  simp only [Bool.false_eq_true, if_false] at h
  split at h
  · rename_i hnone
    have hfalse := find_eq_none.mp hnone i
    by_contra hfollow
    simp [hi.1, hi.2, hend, htsn, hfollow] at hfalse
  · split at h <;> exact nomatch h

/-- What holds of a chunk that is given a descriptor. -/
theorem nsctpAdmit_checked {r : SctpRecv} {streams : List SctpStream} {d : NsctpData}
    {slot : RxSlot} (h : (nsctpAdmit r streams d).2 = .store slot) :
    nsctpCheckFragment r (nsctpIncoming d) = .ok := by
  unfold nsctpAdmit at h
  split at h
  · exact nomatch h
  · split at h
    · assumption
    · exact nomatch h

/-- A chunk that is given a descriptor fits into the pool. -/
theorem nsctpRxFull_fits {r : SctpRecv} (h : Pooled r) {d : NsctpData}
    (hfull : nsctpRxFull r d = false) :
    r.recvGapBufUsed + d.payload.length ≤ sctpRecvGapBufSize := by
  have hused := h.used
  simp only [nsctpRxFull, Bool.or_eq_false_iff, decide_eq_false_iff_not] at hfull
  have hlen := hfull.2
  omega

/-- A chunk leaves the streams in the table; a chunk that is stored belongs to one of them. -/
theorem nsctpHandleDataChunk_streams (s : NanoSctp) (chunk : List UInt8) :
    StreamsGrow s.streams (nsctpHandleDataChunk s chunk).1.streams ∧
    ∀ p, nsctpStored s chunk = some p →
      (streamIndex (nsctpHandleDataChunk s chunk).1.streams p.2.streamId).isSome := by
  unfold nsctpStored nsctpHandleDataChunk
  by_cases hstate : s.state = .established
  case neg => simp [hstate, StreamsGrow.refl]
  cases hparse : nsctpParseData chunk with
  | none => simp [hstate, StreamsGrow.refl]
  | some d =>
    have hgrow := nsctpAdmit_streams (nsctpRxReclaim { s.recv with sackNeeded := true }) s.streams d
    simp only [hstate, ne_eq, not_true_eq_false, if_false, or_false, nsctpHandleDataParsed]
    by_cases hlen : d.payload.length > sctpMaxMessageSize
    · simp [hlen, StreamsGrow.refl]
    by_cases hold : i32 (d.tsn - s.recv.cumulativeTsn) ≤ 0
    · simp [hlen, hold, StreamsGrow.refl]
    simp only [hlen, hold, or_self, if_false]
    cases hstores : nsctpAdmit (nsctpRxReclaim { s.recv with sackNeeded := true }) s.streams d with
    | mk streams admission =>
      rw [hstores] at hgrow
      cases admission with
      | duplicate => exact ⟨hgrow.1, by simp⟩
      | refused rc => exact ⟨hgrow.1, by simp⟩
      | store slot =>
        refine ⟨hgrow.1, fun p hp => ?_⟩
        split at hp
        · exact nomatch hp
        · obtain rfl := Option.some.inj hp
          exact hgrow.2 slot rfl

theorem samePool_sackNeeded (r : SctpRecv) : SamePool r { r with sackNeeded := true } :=
  ⟨rfl, rfl, rfl, rfl⟩

/-- A chunk marks that a SACK is due. -/
theorem Orderly.sackNeeded {r : SctpRecv} (h : Orderly held r) :
    Orderly held { r with sackNeeded := true } :=
  h.keeps ⟨fun _ hi => hi, fun _ _ => .refl _, fun _ _ => rfl⟩
    (h.holds.marks (samePool_sackNeeded r) rfl)

/-- What the descriptors that wait say about their streams when the stream table is `streams`. -/
def Served (streams : List SctpStream) (e : RxEntry) : Prop :=
  e.forwarded = false ∧ (streamIndex streams e.streamId).isSome

theorem Served.ofStream (streams : List SctpStream) : OfStream (Served streams) := by
  intro e e' hsid hforwarded he
  exact ⟨hforwarded.trans he.1, hsid ▸ he.2⟩

theorem Serving.entries (h : Serving s held w) {streams : List SctpStream}
    (hgrow : StreamsGrow s.streams streams) : Entries (Served streams) s.recv := fun i hi =>
  ⟨h.unskipped i hi, hgrow.known (h.known i hi)⟩

/-- The table before the chunk's bytes are stored refines the same collection. -/
theorem Serving.compacted (h : Serving s held w) :
    Orderly held (nsctpRxReclaim { s.recv with sackNeeded := true }) ∧
    Spec.inbox held (nsctpRxReclaim { s.recv with sackNeeded := true }) = w := by
  refine ⟨h.table.sackNeeded.reclaim, ?_⟩
  rw [← h.inbox]
  exact inbox_congr fun i => waiting_reclaim i

/-- A chunk that is not stored changes nothing that waits. -/
theorem Serving.unstored (h : Serving s held w) {s' : NanoSctp} (hstate : s'.state = s.state)
    (hgrow : StreamsGrow s.streams s'.streams) (hrecv : Unstored s.recv s'.recv) :
    Serving s' held w := by
  have hentries := h.entries hgrow
  have hmarked : Entries (Served s'.streams) { s.recv with sackNeeded := true } := hentries
  suffices hs : Orderly held s'.recv ∧ Spec.inbox held s'.recv = w ∧
      Entries (Served s'.streams) s'.recv from
    ⟨hstate.trans h.established, hs.1, hs.2.1, fun i hi => (hs.2.2 i hi).1,
      fun i hi => (hs.2.2 i hi).2⟩
  rcases hrecv with hrecv | hrecv | hrecv
  · rw [hrecv]
    exact ⟨h.table, h.inbox, hentries⟩
  · rw [hrecv]
    exact ⟨h.table.sackNeeded, h.inbox, hmarked⟩
  · rw [hrecv]
    exact ⟨h.compacted.1, h.compacted.2, hmarked.reclaim (Served.ofStream _)⟩

/-- A chunk that is given a descriptor of a compacted table, and that fits, joins the collection. -/
theorem Orderly.admit {r : SctpRecv} (h : Orderly held r) (hrecent : Recent r)
    {streams : List SctpStream} {slot : RxSlot} {d : NsctpData}
    (hstores : (nsctpAdmit r streams d).2 = .store slot) (hahead : 0 < i32 (d.tsn - r.cumulativeTsn))
    (hfilled : hasFlag d.flags sctpDataFlagEnd = false → d.payload ≠ [])
    (hbegins : ∀ i, Waiting r i → d.tsn = (r.rx i).tsn + 1 →
      hasFlag (r.rx i).flags sctpDataFlagEnd = false → hasFlag d.flags sctpDataFlagBegin = false)
    (hcontinued : ∀ i, Waiting r i → (r.rx i).tsn = d.tsn + 1 →
      hasFlag d.flags sctpDataFlagEnd = false →
      nsctpFragmentsFollow (nsctpIncoming d) (r.rx i) = true) :
    Orderly (Function.update held slot [d]) (nsctpGapDrain (nsctpStore r slot d)) ∧
    Spec.inbox (Function.update held slot [d]) (nsctpGapDrain (nsctpStore r slot d)) =
      {d} + Spec.inbox held r ∧
    RecentBy (2 ^ 12) (nsctpGapDrain (nsctpStore r slot d)) := by
  obtain ⟨hfree, hfull, hnew⟩ := nsctpAdmit_store (Prod.ext rfl hstores)
  have hcheck := nsctpAdmit_checked hstores
  -- What is right before the chunk is checked unless the chunk begins a message.
  have hbefore (i : RxSlot) (hi : Waiting r i) (htsn : d.tsn = (r.rx i).tsn + 1)
      (hend : hasFlag (r.rx i).flags sctpDataFlagEnd = false) :
      nsctpFragmentsFollow (r.rx i) (nsctpIncoming d) = true := by
    refine nsctpCheckFragment_ok hcheck ?_ hi hend htsn
    rw [(hasFlag_incoming d).2.1]
    exact hbegins i hi htsn hend
  have hstore := h.store hrecent hfree (nsctpRxFull_fits h.holds.pooled hfull) hnew hahead hfilled
    hbefore hcontinued
  have hrecent' : Recent (nsctpStore r slot d) := by
    intro i hi
    rw [aheadOf, nsctpStore_cumulativeTsn]
    by_cases his : i = slot
    · rw [his, nsctpStore_self]
      show _ ≤ i32 (d.tsn - r.cumulativeTsn)
      omega
    · rw [nsctpStore_other _ _ his]
      exact hrecent i (((waiting_store d i).mp hi).resolve_left his)
  refine ⟨hstore.drain hrecent', ?_, ?_⟩
  · rw [inbox_congr fun i => waiting_drain i, inbox_store hfree]
  · intro i hi
    have hlo := hrecent' i ((waiting_drain i).mp hi)
    obtain ⟨k, hk, heq⟩ := aheadOf_drain (r := nsctpStore r slot d) (i := i)
      (by simp only [sctpMaxRecvGap]; omega)
    simp only [sctpMaxRecvGap] at hk
    rw [heq]
    omega

/-- The table with the chunk stored refines the collection with the chunk. -/
theorem Serving.stored (h : Serving s held w) {chunk : List UInt8} {p : RxSlot × NsctpData}
    (hp : nsctpStored s chunk = some p) (hfits : Fits s p) :
    Orderly (Function.update held p.1 [p.2]) (nsctpAfterStore s p) ∧
    Spec.inbox (Function.update held p.1 [p.2]) (nsctpAfterStore s p) = {p.2} + w ∧
    RecentBy (2 ^ 12) (nsctpAfterStore s p) := by
  obtain ⟨-, hahead, -, hstores⟩ := nsctpStored_some hp
  obtain ⟨htable, hinbox⟩ := h.compacted
  have hwaiting := waiting_reclaim (r := { s.recv with sackNeeded := true })
  have hcore := nsctpRxReclaim_core { s.recv with sackNeeded := true }
  have hcum := nsctpRxReclaim_cumulativeTsn { s.recv with sackNeeded := true }
  have hrecent : Recent (nsctpRxReclaim { s.recv with sackNeeded := true }) := by
    intro i hi
    rw [aheadOf_reclaim]
    exact hfits.recent i ((hwaiting i).mp hi)
  unfold nsctpAfterStore
  generalize nsctpRxReclaim { s.recv with sackNeeded := true } = r at *
  rw [← hinbox]
  refine htable.admit hrecent hstores (hcum ▸ hahead) hfits.filled ?_ ?_
  · intro i hi htsn hend
    apply hfits.begins i ((hwaiting i).mp hi)
    · rw [htsn, RxEntry.core_tsn (hcore i)]
      rfl
    · rw [RxEntry.core_flags (hcore i)] at hend
      exact hend
  · intro i hi htsn hend
    rw [fragmentsFollow_congr (SameMessage.refl (nsctpIncoming p.2)) (SameMessage.of_core (hcore i))]
    exact hfits.continued i ((hwaiting i).mp hi) ((RxEntry.core_tsn (hcore i)).symm.trans htsn) hend

/-- A chunk that fits joins the collection if it is stored. -/
theorem Serving.data (h : Serving s held w) {c : DataChunk} (hfit : FittingStep s (.data c)) :
    ∃ held', Serving (rxStep s (.data c)) held' (acceptedChunks s c + w) := by
  obtain ⟨hgrow, hknown⟩ := nsctpHandleDataChunk_streams s c.bytes
  have hstate := (nsctpHandleDataChunk_frame s c.bytes).2
  rcases nsctpHandleDataChunk_cases s c.isData with ⟨hnone, hrecv⟩ | ⟨p, hp, hrecv⟩
  · refine ⟨held, ?_⟩
    rw [acceptedChunks, hnone, zero_add]
    exact h.unstored hstate hgrow hrecv
  · obtain ⟨htable, hinbox, hrecent⟩ := h.stored hp (hfit p hp)
    obtain ⟨held', horderly, hmerged⟩ := htable.merge (hfit p hp).ordered hrecent (by norm_num)
    have hmarked : Entries (Served (nsctpHandleDataChunk s c.bytes).1.streams)
        { s.recv with sackNeeded := true } := h.entries hgrow
    have hstored : Entries (Served (nsctpHandleDataChunk s c.bytes).1.streams)
        (nsctpAfterStore s p) :=
      ((hmarked.reclaim (Served.ofStream _)).store (Served.ofStream _)
        (⟨rfl, hknown p hp⟩ : Served _ (nsctpIncoming p.2))).drain (Served.ofStream _)
    have hentries := hstored.merge (Served.ofStream _) fun _ he => he.1
    rw [← hrecv] at horderly hmerged hentries
    refine ⟨held', hstate.trans h.established, horderly, ?_, fun i hi => (hentries i hi).1,
      fun i hi => (hentries i hi).2⟩
    rw [acceptedChunks, hp]
    exact hmerged.trans hinbox

/-! ### A poll -/

/-- The number of descriptors that wait. -/
@[irreducible] def waitingCount (r : SctpRecv) : Nat := (Finset.univ.filter (Waiting r)).card

theorem waitingCount_le (r : SctpRecv) : waitingCount r ≤ sctpMaxRecvGap := by
  unfold waitingCount
  exact (Finset.card_filter_le _ _).trans (by simp)

theorem waitingCount_reclaim (r : SctpRecv) :
    waitingCount (nsctpRxReclaim r) = waitingCount r := by
  unfold waitingCount
  exact congrArg Finset.card (Finset.filter_congr fun i _ => waiting_reclaim i)

/-- Handing out a message frees the descriptors that it waited in. -/
theorem waitingCount_assemble {r : SctpRecv} {i : RxSlot} (hi : Waiting r i) (rest : List RxSlot) :
    waitingCount (nsctpAssemble r (i :: rest)).1 < waitingCount r := by
  unfold waitingCount
  refine Finset.card_lt_card (Finset.ssubset_iff_of_subset ?_ |>.mpr ⟨i, by simp [hi], ?_⟩)
  · intro k hk
    simp only [Finset.mem_filter, Finset.mem_univ, true_and] at hk ⊢
    exact ((waiting_assemble k).mp hk).2
  · simp only [Finset.mem_filter, Finset.mem_univ, true_and]
    exact fun h => ((waiting_assemble i).mp h).1 List.mem_cons_self

/-- The first chunk behind a run of descriptors, and what its descriptor says about it. -/
theorem Holds.headD {r : SctpRecv} (h : Holds held r) {i : RxSlot} (hi : Waiting r i)
    (rest : List RxSlot) :
    ((i :: rest).flatMap held).headD default ∈ held i ∧
    (((i :: rest).flatMap held).headD default).streamId = (r.rx i).streamId ∧
    (((i :: rest).flatMap held).headD default).ssn = (r.rx i).ssn ∧
    (((i :: rest).flatMap held).headD default).ppid = (r.rx i).ppid ∧
    hasFlag (((i :: rest).flatMap held).headD default).flags sctpDataFlagUnordered =
      hasFlag (r.rx i).flags sctpDataFlagUnordered := by
  have hstands := h.stands i hi
  cases hrow : held i with
  | nil => exact absurd hrow hstands.nonempty
  | cons d ds =>
    have hd : d ∈ held i := by simp [hrow]
    rw [List.flatMap_cons, hrow]
    exact ⟨List.mem_cons_self, hstands.same d hd⟩

/-- The message handed out is the one made of the chunks behind its descriptors. -/
theorem Holds.handedOut_message {r : SctpRecv} (h : Holds held r) (streams : List SctpStream)
    {i : RxSlot} {rest : List RxSlot} (hnodup : (i :: rest).Nodup)
    (hwaiting : ∀ j ∈ i :: rest, Waiting r j) :
    (handedOut r streams i (i :: rest)).2.2 = .ok (messageOf ((i :: rest).flatMap held)) := by
  have hdata := (nsctpAssemble_data h.pooled hnodup fun j hj => (hwaiting j hj).1).1
  obtain ⟨-, hsid, -, hppid, -⟩ := h.headD (hwaiting i List.mem_cons_self) rest
  have hbytes : ((i :: rest).flatMap held).flatMap NsctpData.payload =
      (i :: rest).flatMap (rxBytes r) := by
    rw [List.flatMap_assoc]
    exact List.flatMap_congr fun j hj => (h.bytes j (hwaiting j hj)).symm
  unfold handedOut messageOf
  rw [hdata, hsid, hppid, hbytes]

/-- Gathering the parts of a message ends without an error. -/
theorem Orderly.quiet {r : SctpRecv} (h : Orderly held r) (tsn : UInt32) (rc : Rc) :
    nsctpGatherParts r sctpMaxRecvGap tsn [] 0 ≠ .error rc :=
  nsctpGatherParts_quiet h.holds.pooled h.consistent ⟨fun _ hj => absurd hj List.not_mem_nil, .nil⟩
    rfl (fun p hp => absurd hp (by simp)) rc

/-- What is left of the table and the streams after the message in `parts` was handed out. -/
theorem Orderly.handedOut {r : SctpRecv} (h : Orderly held r) {streams : List SctpStream}
    (hentries : Entries (Served streams) r) {i : RxSlot} {parts : List RxSlot}
    (hdel : Deliverable r streams i parts) :
    (handedOut r streams i parts).2.2 = .ok (messageOf (parts.flatMap held)) ∧
    Complete (parts.flatMap held) ∧ Orderly held (handedOut r streams i parts).1 ∧
    Spec.inbox held (handedOut r streams i parts).1 + ↑(parts.flatMap held) =
      Spec.inbox held r ∧
    Entries (Served (handedOut r streams i parts).2.1) (handedOut r streams i parts).1 ∧
    waitingCount (handedOut r streams i parts).1 < waitingCount r := by
  obtain ⟨hnodup, hwaiting, hcomplete, rest, rfl⟩ :=
    nsctpGatherParts_message h.holds hdel.waiting hdel.begins hdel.gathered
  refine ⟨h.holds.handedOut_message streams hnodup hwaiting, hcomplete,
    h.assemble hnodup hwaiting, inbox_assemble hnodup hwaiting, fun k hk => ?_,
    waitingCount_assemble hdel.waiting rest⟩
  have hwk : Waiting r k := ((waiting_assemble k).mp hk).2
  obtain ⟨hsame, -, -, hforwarded, -⟩ := nsctpAssemble_rx r (i :: rest) k
  have hserved : Served (deliveredStreams streams (r.rx i)) (r.rx k) := by
    refine ⟨(hentries k hwk).1, ?_⟩
    rw [deliveredStreams_index]
    exact (hentries k hwk).2
  exact Served.ofStream _ _ _ hsame.streamId hforwarded hserved

theorem nsctpPollDelivery_eq (s : NanoSctp) :
    nsctpPollDelivery s =
      ({ s with
          recv := (nsctpPollSlots (nsctpRxReclaim s.recv) s.streams
            (List.finRange sctpMaxRecvGap)).1
          streams := (nsctpPollSlots (nsctpRxReclaim s.recv) s.streams
            (List.finRange sctpMaxRecvGap)).2.1 },
        (nsctpPollSlots (nsctpRxReclaim s.recv) s.streams
          (List.finRange sctpMaxRecvGap)).2.2) := by
  unfold nsctpPollDelivery
  generalize nsctpPollSlots (nsctpRxReclaim s.recv) s.streams (List.finRange sctpMaxRecvGap) = p
  obtain ⟨recv, streams, out⟩ := p
  rfl

/-- **What a poll does**: there is nothing that can be handed out and nothing changes, or the chunks
of one message leave the collection and its stream advances. -/
theorem Serving.poll (h : Serving s held w) :
    ((nsctpPollDelivery s).2 = .error .wouldBlock ∧ Serving (rxStep s .poll) held w ∧
      waitingCount (rxStep s .poll).recv = waitingCount s.recv ∧
      ∀ i parts, ¬Deliverable (nsctpRxReclaim s.recv) s.streams i parts) ∨
    ∃ i parts rest, Deliverable (nsctpRxReclaim s.recv) s.streams i parts ∧
      (nsctpPollDelivery s).2 = .ok (messageOf (parts.flatMap held)) ∧
      Complete (parts.flatMap held) ∧ rest + ↑(parts.flatMap held) = w ∧
      Serving (rxStep s .poll) held rest ∧
      waitingCount (rxStep s .poll).recv < waitingCount s.recv ∧
      (rxStep s .poll).streams = deliveredStreams s.streams ((nsctpRxReclaim s.recv).rx i) := by
  have htable := h.table.reclaim
  have hinbox : Spec.inbox held (nsctpRxReclaim s.recv) = w :=
    (inbox_congr fun i => waiting_reclaim i).trans h.inbox
  have hentries : Entries (Served s.streams) (nsctpRxReclaim s.recv) :=
    (h.entries (.refl s.streams)).reclaim (Served.ofStream _)
  have hstep : rxStep s .poll = (nsctpPollDelivery s).1 := rfl
  rw [hstep, nsctpPollDelivery_eq]
  rcases nsctpPollSlots_spec (fun i hi => (hentries i hi).2) (fun i _ _ => htable.quiet _)
    (List.finRange sctpMaxRecvGap) with ⟨heq, hno⟩ | ⟨i, -, parts, hdel, heq⟩
  · have hcount := waitingCount_reclaim s.recv
    rw [heq]
    generalize nsctpRxReclaim s.recv = r at *
    exact .inl ⟨rfl, ⟨h.established, htable, hinbox, fun i hi => (hentries i hi).1,
      fun i hi => (hentries i hi).2⟩, hcount, fun i => hno i (List.mem_finRange i)⟩
  · obtain ⟨hmessage, hcomplete, horderly, hout, hleft, hcount⟩ := htable.handedOut hentries hdel
    rw [waitingCount_reclaim] at hcount
    have hstreams : (handedOut (nsctpRxReclaim s.recv) s.streams i parts).2.1 =
        deliveredStreams s.streams ((nsctpRxReclaim s.recv).rx i) := rfl
    rw [heq]
    generalize handedOut (nsctpRxReclaim s.recv) s.streams i parts = p at *
    exact .inr ⟨i, parts, _, hdel, hmessage, hcomplete, hout.trans hinbox,
      ⟨h.established, horderly, rfl, fun k hk => (hleft k hk).1, fun k hk => (hleft k hk).2⟩,
      hcount, hstreams⟩

/-! ### Progress -/

/-- A complete message whose turn it is can be handed out. -/
theorem Serving.deliverable (h : Serving s held w) {ds : List NsctpData} (hds : Complete ds)
    (hle : (ds : Multiset NsctpData) ≤ w) (hturn : ItsTurn s w ds) :
    ∃ i parts, Deliverable (nsctpRxReclaim s.recv) s.streams i parts := by
  have htable := h.table.reclaim
  have hinbox : Spec.inbox held (nsctpRxReclaim s.recv) = w :=
    (inbox_congr fun i => waiting_reclaim i).trans h.inbox
  have hentries : Entries (Served s.streams) (nsctpRxReclaim s.recv) :=
    (h.entries (.refl s.streams)).reclaim (Served.ofStream _)
  generalize nsctpRxReclaim s.recv = r at *
  have hmem (d : NsctpData) (hd : d ∈ ds) : ∃ j, Waiting r j ∧ d ∈ held j := by
    rw [← mem_inbox, hinbox]
    exact Multiset.mem_of_le hle hd
  obtain ⟨i, rest, hi, hbegin, hg, hflat⟩ :=
    nsctpGatherParts_finds htable.holds htable.apart htable.linked hds hmem
  obtain ⟨-, hsid, hssn, -, hunordered⟩ := htable.holds.headD hi rest
  rw [hflat] at hsid hssn hunordered
  refine ⟨i, i :: rest, hi, hbegin, fun ho => ?_, ?_, hg⟩
  · have hordered : hasFlag (r.rx i).flags sctpDataFlagUnordered = false := by
      simpa [RxEntry.inOrder, (hentries i hi).1] using ho
    rw [← hsid, ← hssn]
    exact hturn.expected (hunordered.trans hordered)
  · -- no message on the stream was skipped
    unfold nsctpRxEarlier
    rw [Bool.and_eq_false_iff, List.any_eq_false]
    refine .inr fun j _ hj => ?_
    simp only [Bool.and_eq_true, Bool.not_eq_true'] at hj
    have hforwarded := (hentries j ⟨hj.1.1.1.1, hj.1.1.1.2⟩).1
    rw [hj.1.2] at hforwarded
    exact nomatch hforwarded

/-- A message keeps its turn while others are handed out. -/
theorem Serving.turn_kept (h : Serving s held w) {ds : List NsctpData} (hds : Complete ds)
    (hle : (ds : Multiset NsctpData) ≤ w) (hturn : ItsTurn s w ds) {i : RxSlot}
    {parts : List RxSlot} {rest : Multiset NsctpData}
    (hdel : Deliverable (nsctpRxReclaim s.recv) s.streams i parts)
    (hcomplete : Complete (parts.flatMap held)) (hrest : rest + ↑(parts.flatMap held) = w)
    (hstreams : (rxStep s .poll).streams =
      deliveredStreams s.streams ((nsctpRxReclaim s.recv).rx i))
    (hne : parts.flatMap held ≠ ds) :
    (ds : Multiset NsctpData) ≤ rest ∧ ItsTurn (rxStep s .poll) rest ds := by
  have hout : (↑(parts.flatMap held) : Multiset NsctpData) ≤ w := hrest ▸ Multiset.le_add_left _ _
  have hin (d : NsctpData) (hd : d ∈ w) : d ∈ Spec.inbox held s.recv := h.inbox ▸ hd
  -- messages that share a chunk are the same
  have hapart (d : NsctpData) (hd : d ∈ ds) (hd' : d ∈ parts.flatMap held) : False :=
    hne (Complete.eq_of_mem (U := fun d => d ∈ w)
      (fun x y hx hy => h.table.unique (hin x hx) (hin y hy)) hcomplete hds
      (fun _ hd => Multiset.mem_of_le hout hd) (fun _ hd => Multiset.mem_of_le hle hd) hd' hd)
  refine ⟨?_, fun hordered => ?_, fun es hes hesle => ?_⟩
  · rw [Multiset.le_iff_count]
    intro d
    by_cases hd : d ∈ ds
    · have hcount := Multiset.le_iff_count.mp hle d
      have hzero : Multiset.count d (↑(parts.flatMap held) : Multiset NsctpData) = 0 :=
        Multiset.count_eq_zero.mpr fun hd' => hapart d hd hd'
      rwa [← hrest, Multiset.count_add, hzero, Nat.add_zero] at hcount
    · rw [Multiset.count_eq_zero.mpr hd]
      exact Nat.zero_le _
  · rw [hstreams, deliveredStreams_expected]
    · exact hturn.expected hordered
    · intro ho hsid
      have hexpected := hdel.turn ho
      obtain ⟨-, -, -, prest, rfl⟩ := nsctpGatherParts_message h.table.reclaim.holds hdel.waiting
        hdel.begins hdel.gathered
      obtain ⟨-, hsid', hssn', -, hunordered'⟩ := h.table.reclaim.holds.headD hdel.waiting prest
      have hboth := hturn.expected hordered
      rw [hsid, hexpected] at hboth
      apply hne
      refine hturn.sole _ hcomplete hout ?_ hordered (hsid'.trans hsid.symm)
        (hssn'.trans (Option.some.inj hboth))
      rw [hunordered']
      simp only [RxEntry.inOrder, Bool.and_eq_true, Bool.not_eq_true'] at ho
      exact ho.1
  · exact hturn.sole es hes (hesle.trans (hrest ▸ Multiset.le_add_right _ _))

/-- **A complete message whose turn it is, is handed out** within as many polls as there are
descriptors that wait. -/
theorem Serving.served (h : Serving s held w) {ds : List NsctpData} (hds : Complete ds)
    (hle : (ds : Multiset NsctpData) ≤ w) (hturn : ItsTurn s w ds) :
    ∃ n < waitingCount s.recv,
      (nsctpPollDelivery (run rxStep s (List.replicate n .poll))).2 = .ok (messageOf ds) := by
  induction hk : waitingCount s.recv using Nat.strong_induction_on generalizing s w with
  | h k ih =>
    subst hk
    rcases h.poll with ⟨-, -, -, hno⟩ |
      ⟨i, parts, rest, hdel, hmessage, hcomplete, hrest, hnext, hcount, hstreams⟩
    · obtain ⟨i, parts, hdel⟩ := h.deliverable hds hle hturn
      exact absurd hdel (hno i parts)
    · by_cases hsame : parts.flatMap held = ds
      · refine ⟨0, Nat.zero_lt_of_lt hcount, ?_⟩
        rw [List.replicate_zero, run_nil, ← hsame]
        exact hmessage
      · obtain ⟨hle', hturn'⟩ := h.turn_kept hds hle hturn hdel hcomplete hrest hstreams hsame
        obtain ⟨n, hn, hserved⟩ := ih _ hcount hnext hle' hturn' rfl
        have hlt : n + 1 < waitingCount s.recv := (Nat.succ_le_of_lt hn).trans_lt hcount
        refine ⟨n + 1, hlt, ?_⟩
        rw [List.replicate_succ, run_cons]
        exact hserved

/-! ### The delivery loop -/

/-- A poll that returns a message frees a descriptor that waited. -/
theorem nsctpPollDelivery_frees {s : NanoSctp} {m : SctpMessage}
    (h : (nsctpPollDelivery s).2 = .ok m) :
    waitingCount (nsctpPollDelivery s).1.recv < waitingCount s.recv := by
  rw [nsctpPollDelivery_eq] at h ⊢
  dsimp only at h ⊢
  rw [← waitingCount_reclaim s.recv]
  rcases nsctpPollSlots_cases (nsctpRxReclaim s.recv) s.streams (List.finRange sctpMaxRecvGap) with
    ⟨-, hno⟩ | ⟨i, -, -, -, -, parts, hg, hrecv, -⟩
  · exact absurd h (hno m)
  · rw [hrecv]
    have hrun := nsctpGatherParts_run hg ⟨fun _ hj => absurd hj List.not_mem_nil, .nil⟩
    cases parts with
    | nil => exact absurd hg nsctpGatherParts_ne_nil
    | cons j rest => exact waitingCount_assemble (hrun.1.waiting j List.mem_cons_self) rest

section Rtc

variable {Ctx Rx : Type}

/-- A turn of the delivery loop polls once; one that goes on has taken a message. -/
theorem rtcPollDeliveryTurn_sctp (rtc : Rtc Ctx Rx) :
    (rtcPollDeliveryTurn rtc).1.sctp = (nsctpPollDelivery rtc.sctp).1 ∧
    ((nsctpPollDelivery rtc.sctp).2 = .error .wouldBlock →
      (rtcPollDeliveryTurn rtc).2 = some (.ok none)) ∧
    ((rtcPollDeliveryTurn rtc).2 = none → ∃ m, (nsctpPollDelivery rtc.sctp).2 = .ok m) := by
  unfold rtcPollDeliveryTurn
  cases hpoll : nsctpPollDelivery rtc.sctp with
  | mk sctp out =>
    cases out with
    | error rc =>
      refine ⟨rfl, fun h => ?_, nofun⟩
      simp [Except.error.inj h]
    | ok m =>
      refine ⟨?_, nofun, fun _ => ⟨m, rfl⟩⟩
      dsimp only
      split <;> rfl

/-- **The delivery loop ends** before the bound of its model: more turns change nothing. -/
theorem rtcPollDelivery_enough (rtc : Rtc Ctx Rx) {turns : Nat} (h : sctpMaxRecvGap < turns) :
    rtcPollDelivery turns rtc = rtcPollDelivery (sctpMaxRecvGap + 1) rtc := by
  have hle := waitingCount_le rtc.sctp.recv
  refine turnsUntil_enough (fun rtc => waitingCount rtc.sctp.recv) (fun rtc hnone => ?_)
    (hle.trans_lt h) (Nat.lt_succ_of_le hle)
  obtain ⟨hsctp, -, hmessage⟩ := rtcPollDeliveryTurn_sctp rtc
  obtain ⟨m, hm⟩ := hmessage hnone
  rw [hsctp]
  exact nsctpPollDelivery_frees hm

/-- A call of the delivery loop has nothing to hand out, or fewer descriptors wait after it. -/
theorem Serving.delivery {rtc : Rtc Ctx Rx} (h : Serving rtc.sctp held w) (turns : Nat) :
    ∃ w', Serving (rtcPollDelivery turns rtc).1.sctp held w' ∧
      waitingCount (rtcPollDelivery turns rtc).1.sctp.recv ≤ waitingCount rtc.sctp.recv ∧
      ((rtcPollDelivery turns rtc).2 = .ok none ∨
        waitingCount (rtcPollDelivery turns rtc).1.sctp.recv < waitingCount rtc.sctp.recv) := by
  induction turns generalizing rtc w with
  | zero => exact ⟨w, h, Nat.le_refl _, .inl rfl⟩
  | succ turns ih =>
    obtain ⟨hsctp, hblocked, -⟩ := rtcPollDeliveryTurn_sctp rtc
    unfold rtcPollDelivery turnsUntil
    have hpoll := h.poll
    rw [rxStep_poll, ← hsctp] at hpoll
    rcases hpoll with ⟨herr, hnext, hcount, -⟩ | ⟨-, -, rest, -, -, -, -, hnext, hcount, -⟩
    · have hended := hblocked herr
      generalize rtcPollDeliveryTurn rtc = p at hnext hcount hended
      obtain ⟨rtc', ended⟩ := p
      dsimp only at hnext hcount hended
      rw [hended]
      exact ⟨w, hnext, hcount.le, .inl rfl⟩
    · generalize rtcPollDeliveryTurn rtc = p at hnext hcount
      obtain ⟨rtc', ended⟩ := p
      cases ended with
      | none =>
        obtain ⟨w', hw', hle, -⟩ := ih hnext
        exact ⟨w', hw', hle.trans hcount.le, .inr (hle.trans_lt hcount)⟩
      | some out => exact ⟨rest, hnext, hcount.le, .inr hcount⟩

/-- The delivery loop of one call of `nanortc_poll_output`. -/
def rtcDelivered (rtc : Rtc Ctx Rx) : Rtc Ctx Rx :=
  (rtcPollDelivery (sctpMaxRecvGap + 1) rtc).1

/-- After a few calls the delivery loop has nothing to hand out, and the call goes on to the media
events. -/
theorem Serving.reaches_media {rtc : Rtc Ctx Rx} (h : Serving rtc.sctp held w) :
    ∃ n ≤ waitingCount rtc.sctp.recv,
      (rtcPollDelivery (sctpMaxRecvGap + 1) (rtcDelivered^[n] rtc)).2 = .ok none := by
  induction hk : waitingCount rtc.sctp.recv using Nat.strong_induction_on generalizing rtc w with
  | h k ih =>
    subst hk
    obtain ⟨w', hw', -, hnone | hcount⟩ := h.delivery (sctpMaxRecvGap + 1)
    · exact ⟨0, Nat.zero_le _, hnone⟩
    · obtain ⟨n, hn, hmedia⟩ := ih _ hcount hw' rfl
      refine ⟨n + 1, (Nat.succ_le_succ hn).trans hcount, ?_⟩
      rw [Function.iterate_succ_apply]
      exact hmedia

end Rtc

/-! ### Runs -/

/-- A run of chunks that fit and polls refines the collection of the accepted chunks. -/
theorem Serving.run (h : Serving s held w) {inputs : List RxInput}
    (hfit : AllSteps rxStep s FittingStep inputs) :
    ∃ held' w', Serving (ForStd.run rxStep s inputs) held' w' ∧ Accounts s inputs w w' := by
  induction inputs generalizing s held w with
  | nil => exact ⟨held, w, h, rfl⟩
  | cons i inputs ih =>
    cases i with
    | data c =>
      obtain ⟨held', hnext⟩ := h.data hfit.1
      exact ih hnext hfit.2
    | poll =>
      have hrest : AllSteps rxStep (rxStep s .poll) FittingStep inputs := hfit.2
      have hpoll := h.poll
      rw [run_cons]
      simp only [accounts_poll]
      generalize rxStep s .poll = t at hrest hpoll ⊢
      rcases hpoll with ⟨herr, hnext, -⟩ |
        ⟨_, parts, rest, -, hmessage, hcomplete, hout, hnext, -⟩
      · obtain ⟨held', w', hrun, haccounts⟩ := ih hnext hrest
        refine ⟨held', w', hrun, ?_⟩
        rw [herr]
        exact haccounts
      · obtain ⟨held', w', hrun, haccounts⟩ := ih hnext hrest
        refine ⟨held', w', hrun, ?_⟩
        rw [hmessage]
        exact ⟨parts.flatMap held, rest, hcomplete, rfl, hout, haccounts⟩

/-- **Every stream is served.** In every run of DATA chunks that fit and polls on an association with
an empty table, the messages handed out are made of accepted chunks, each handed out once; no poll
fails; every complete message whose turn it is, is handed out within eight polls; and after at most
eight calls of the delivery loop a call goes on to the media events. -/
theorem streams_served {s : NanoSctp} (hstate : s.state = .established)
    (hempty : EmptyTable s.recv) {inputs : List RxInput}
    (hfit : AllSteps rxStep s FittingStep inputs) :
    ∃ w, Accounts s inputs 0 w ∧
      (∀ rc, (nsctpPollDelivery (run rxStep s inputs)).2 = .error rc → rc = .wouldBlock) ∧
      (∀ ds, Complete ds → (ds : Multiset NsctpData) ≤ w → ItsTurn (run rxStep s inputs) w ds →
        ∃ n < sctpMaxRecvGap,
          (nsctpPollDelivery (run rxStep s (inputs ++ List.replicate n .poll))).2 =
            .ok (messageOf ds)) ∧
      ∀ {Ctx Rx : Type} (rtc : Rtc Ctx Rx), rtc.sctp = run rxStep s inputs →
        ∃ n ≤ sctpMaxRecvGap,
          (rtcPollDelivery (sctpMaxRecvGap + 1) (rtcDelivered^[n] rtc)).2 = .ok none := by
  obtain ⟨held, w, hserving, haccounts⟩ := (Serving.empty hstate hempty).run hfit
  have hle := waitingCount_le (ForStd.run rxStep s inputs).recv
  refine ⟨w, haccounts, fun rc hrc => ?_, fun ds hds hin hturn => ?_, fun rtc hrtc => ?_⟩
  · have hpoll := hserving.poll
    rw [hrc] at hpoll
    rcases hpoll with ⟨herr, -⟩ | ⟨_, _, _, _, hmessage, -⟩
    · exact Except.error.inj herr
    · exact nomatch hmessage
  · obtain ⟨n, hn, hserved⟩ := hserving.served hds hin hturn
    refine ⟨n, hn.trans_le hle, ?_⟩
    rw [run_append]
    exact hserved
  · rw [← hrtc] at hserving hle
    obtain ⟨n, hn, hmedia⟩ := hserving.reaches_media
    exact ⟨n, hn.trans hle, hmedia⟩

/-- A DATA chunk with PPID 51. -/
def demoChunk (tsn : UInt32) (streamId ssn : UInt16) (flags : UInt8) (payload : List UInt8) :
    DataChunk where
  bytes := nsctpEncodeData 1188 ⟨tsn, streamId, ssn, 51, flags, payload⟩
  isData := by unfold nsctpEncodeData; split <;> rfl

theorem HeadsFirst.of_heads {r : SctpRecv}
    (h : ∀ j k, nsctpRxJoinable r.cumulativeTsn (r.rx j) (r.rx k) = true → ∀ p, ¬NextOf r p j) :
    HeadsFirst r := by
  intro a j k hjoin hbehind _
  obtain ⟨p, -, hnext⟩ := Relation.TransGen.tail'_iff.mp hbehind
  exact absurd hnext (h j k hjoin p)

/-- A message in two fragments, and a poll. -/
def demoServed : List RxInput :=
  [.data (demoChunk 1000 1 0 2 [1]), .data (demoChunk 1001 1 0 1 [2]), .poll]

theorem fits_demo {s : NanoSctp} {c : DataChunk} {p : RxSlot × NsctpData}
    (h : nsctpStored s c.bytes = some p) (hfits : Fits s p) : FittingStep s (.data c) := by
  intro q hq
  rw [h] at hq
  exact Option.some.inj hq ▸ hfits

instance (margin : Int) (r : SctpRecv) : Decidable (RecentBy margin r) :=
  inferInstanceAs (Decidable (∀ i, Waiting r i → margin - 2 ^ 31 ≤ aheadOf r i))

theorem demoServed_first :
    FittingStep (run sctpStep nsctpInit demoHandshake) (.data (demoChunk 1000 1 0 2 [1])) := by
  have h : nsctpStored (run sctpStep nsctpInit demoHandshake) (demoChunk 1000 1 0 2 [1]).bytes =
      some (⟨7, by decide⟩, ⟨1000, 1, 0, 51, 2, [1]⟩) := by
    decide +kernel
  have hrecent : RecentBy (2 ^ 13) (run sctpStep nsctpInit demoHandshake).recv := by
    decide +kernel
  exact fits_demo h ⟨by decide, by decide +kernel, by decide +kernel, .of_heads (by decide +kernel),
    hrecent⟩

theorem demoServed_second :
    FittingStep (rxStep (run sctpStep nsctpInit demoHandshake)
      (.data (demoChunk 1000 1 0 2 [1]))) (.data (demoChunk 1001 1 0 1 [2])) := by
  have h : nsctpStored (rxStep (run sctpStep nsctpInit demoHandshake)
      (.data (demoChunk 1000 1 0 2 [1]))) (demoChunk 1001 1 0 1 [2]).bytes =
        some (⟨6, by decide⟩, ⟨1001, 1, 0, 51, 1, [2]⟩) := by
    decide +kernel
  have hrecent : RecentBy (2 ^ 13) (rxStep (run sctpStep nsctpInit demoHandshake)
      (.data (demoChunk 1000 1 0 2 [1]))).recv := by
    decide +kernel
  exact fits_demo h ⟨by decide, by decide +kernel, by decide +kernel, .of_heads (by decide +kernel),
    hrecent⟩

theorem streams_served_fragments :
    ∃ w, Accounts (run sctpStep nsctpInit demoHandshake) demoServed 0 w := by
  have hstate : (run sctpStep nsctpInit demoHandshake).state = .established := by decide +kernel
  have htable : EmptyTable (run sctpStep nsctpInit demoHandshake).recv :=
    ⟨by decide +kernel, by decide +kernel, by decide +kernel, by decide +kernel⟩
  have hfirst := demoServed_first
  have hsecond := demoServed_second
  generalize run sctpStep nsctpInit demoHandshake = s at hstate htable hfirst hsecond ⊢
  have hfit : AllSteps rxStep s FittingStep demoServed := ⟨hfirst, hsecond, trivial, trivial⟩
  generalize demoServed = inputs at hfit ⊢
  obtain ⟨w, haccounts, -⟩ := streams_served hstate htable hfit
  exact ⟨w, haccounts⟩

/-! ### A run that does not fit -/

/-- A poll that fails leaves a table in which nothing was handed out as it is, so every later poll
fails as well. -/
theorem nsctpPollDelivery_stuck {s : NanoSctp} {rc : Rc}
    (hfresh : nsctpRxReclaim s.recv = s.recv)
    (hknown : ∀ i, Waiting s.recv i → (streamIndex s.streams (s.recv.rx i).streamId).isSome)
    (h : (nsctpPollDelivery s).2 = .error rc) : (nsctpPollDelivery s).1 = s := by
  have key (slots : List RxSlot) (rc : Rc)
      (h : (nsctpPollSlots s.recv s.streams slots).2.2 = .error rc) :
      nsctpPollSlots s.recv s.streams slots = (s.recv, s.streams, .error rc) := by
    induction slots with
    | nil => exact Prod.ext rfl (Prod.ext rfl h)
    | cons i slots ih =>
      unfold nsctpPollSlots at h ⊢
      dsimp only at h ⊢
      by_cases hskip : (!(s.recv.rx i).valid || (s.recv.rx i).delivered ||
          !hasFlag (s.recv.rx i).flags sctpDataFlagBegin) = true
      · rw [if_pos hskip] at h ⊢
        exact ih h
      rw [if_neg hskip] at h ⊢
      have hi : Waiting s.recv i := by
        simp only [Bool.or_eq_true, Bool.not_eq_true', not_or] at hskip
        exact ⟨by simpa using hskip.1.1, by simpa using hskip.1.2⟩
      obtain ⟨k, hk⟩ := Option.isSome_iff_exists.mp (hknown i hi)
      rw [nsctpStream_known hk] at h ⊢
      dsimp only at h ⊢
      cases hg : nsctpGatherParts s.recv sctpMaxRecvGap (s.recv.rx i).tsn [] 0 with
      | error rc' =>
        rw [hg] at h
        split_ifs at h ⊢
        · exact ih h
        · exact ih h
        all_goals exact Prod.ext rfl (Prod.ext rfl h)
      | ok found =>
        rw [hg] at h
        cases found with
        | none =>
          split_ifs at h ⊢ <;> exact ih h
        | some parts =>
          split_ifs at h ⊢
          · exact ih h
          · exact ih h
  rw [nsctpPollDelivery_eq, hfresh] at h ⊢
  dsimp only at h ⊢
  rw [key _ rc h]

/-- A table in which nothing was handed out has nothing to compact. -/
theorem nsctpRxReclaim_fresh {r : SctpRecv}
    (h : ∀ i, (r.rx i).valid = true → (r.rx i).delivered = false) : nsctpRxReclaim r = r := by
  unfold nsctpRxReclaim
  induction List.finRange sctpMaxRecvGap with
  | nil => rfl
  | cons i is ih =>
    have hslot : nsctpRxReclaimSlot r i = r := by
      unfold nsctpRxReclaimSlot
      by_cases hv : (r.rx i).valid = true
      · simp [hv, h i hv]
      · simp [hv]
    rw [List.foldl_cons, hslot]
    exact ih

/-- Where a poll fails and changes nothing, every later poll fails, and every call of the delivery
loop. -/
theorem stuck_for_ever {t : NanoSctp} {rc : Rc} (hrc : rc ≠ .wouldBlock)
    (hstuck : (nsctpPollDelivery t).1 = t) (hpoll : (nsctpPollDelivery t).2 = .error rc) :
    (∀ n, (nsctpPollDelivery (run rxStep t (List.replicate n .poll))).2 = .error rc) ∧
    ∀ {Ctx Rx : Type} (rtc : Rtc Ctx Rx), rtc.sctp = t → ∀ n,
      (rtcPollDelivery (sctpMaxRecvGap + 1) (rtcDelivered^[n] rtc)).2 = .error rc := by
  refine ⟨fun n => ?_, fun rtc hrtc n => ?_⟩
  · have hrun : run rxStep t (List.replicate n .poll) = t := by
      induction n with
      | zero => rfl
      | succ n ih =>
        rw [List.replicate_succ, run_cons, rxStep_poll, hstuck]
        exact ih
    rw [hrun]
    exact hpoll
  · have hboth : nsctpPollDelivery rtc.sctp = (rtc.sctp, .error rc) := by
      rw [hrtc]
      exact Prod.ext hstuck hpoll
    have hturn : rtcPollDeliveryTurn rtc = (rtc, some (.error rc)) := by
      unfold rtcPollDeliveryTurn
      rw [hboth]
      simp [hrc]
    have hcall : rtcPollDelivery (sctpMaxRecvGap + 1) rtc = (rtc, .error rc) := by
      unfold rtcPollDelivery turnsUntil
      rw [hturn]
    have hcalls : rtcDelivered^[n] rtc = rtc := by
      apply Function.iterate_fixed
      unfold rtcDelivered
      rw [hcall]
    rw [hcalls, hcall]

/-- Two messages are handed out behind the first fragment of a third; then the message after the
fragment begins, and a message on a stream of its own arrives. -/
def demoBlocked : List RxInput :=
  [.data (demoChunk 1000 3 0 3 [1]), .data (demoChunk 1001 4 0 3 [2]),
    .data (demoChunk 1002 1 0 2 [3]), .poll, .poll, .data (demoChunk 1003 1 1 3 [4])]

/-- The message on stream 2 is acknowledged, complete and the first of its stream, but every poll
fails for ever, and no call goes on to the media events. -/
theorem stream_blocked :
    let s := run sctpStep nsctpInit demoHandshake
    let m : NsctpData := ⟨1004, 2, 0, 51, 3, [5]⟩
    let slot : RxSlot := ⟨6, by decide⟩
    let c := demoChunk 1004 2 0 3 [5]
    let t := run rxStep s (demoBlocked ++ [.data c])
    s.state = .established ∧ EmptyTable s.recv ∧
    nsctpStored (run rxStep s demoBlocked) c.bytes = some (slot, m) ∧
    i32 (m.tsn - t.recv.cumulativeTsn) ≤ 0 ∧ Complete [m] ∧
    expectedSsn t.streams m.streamId = some m.ssn ∧
    (∀ i, Waiting t.recv i → (t.recv.rx i).streamId = m.streamId → i = slot) ∧
    (∀ n, (nsctpPollDelivery (run rxStep t (List.replicate n .poll))).2 = .error .protocol) ∧
    ∀ {Ctx Rx : Type} (rtc : Rtc Ctx Rx), rtc.sctp = t → ∀ n,
      (rtcPollDelivery (sctpMaxRecvGap + 1) (rtcDelivered^[n] rtc)).2 = .error .protocol := by
  intro s m slot c t
  have hpoll : (nsctpPollDelivery t).2 = .error .protocol := by decide +kernel
  have hstuck : (nsctpPollDelivery t).1 = t := by
    refine nsctpPollDelivery_stuck (nsctpRxReclaim_fresh ?_) ?_ hpoll
    · decide +kernel
    · decide +kernel
  refine ⟨by decide +kernel,
    ⟨by decide +kernel, by decide +kernel, by decide +kernel, by decide +kernel⟩,
    by decide +kernel, by decide +kernel, ⟨by decide, .singleton _, by decide, by decide⟩,
    by decide +kernel, by decide +kernel, ?_⟩
  exact stuck_for_ever (by decide) hstuck hpoll

end Nanortc.Spec
