import Nanortc.ForStd.SlotQueue
import Nanortc.Spec.LocalCandidates

/-!
# The table of checks

A slot of the table holds a transaction in flight, a place in the queue of checks, or what is known
of its pair. The places of the queued slots are consecutive, a queued slot has no transaction, and a
slot goes to another pair only when its own one has nothing to lose.

## Key results

- `CheckTable`: the invariant of the table
- `Keeps`: a step keeps it, and gives slots away only as it should
- `keeps_handleStun`, `keeps_processCheck`: the steps
- `iceGetCheck_fifo`: queued checks are taken in the order of the queue
- `checkTable_stays_iff`: the runs that keep the table
-/

namespace Nanortc.Spec

open Nanortc.ForStd Nanortc.Native

/-! ### The invariant -/

/-- No slot is both queued and in flight, the places of the queue are consecutive, and the indices
of every slot in use are indices of candidates. -/
structure TableSound (ice : NanoIce) : Prop where
  alone : ∀ p ∈ ice.pending, p.flags.queued = true → p.inFlight = false
  order : InLine (·.flags.queued) (·.sentAtMs.toNat) ice.pending
  pairs : ∀ p ∈ ice.pending, p.idle = false →
    p.localIdx < ice.localCandidates.length ∧ p.remoteIdx < ice.remoteCandidates.length

/-- The invariant of the table: a queued slot is one that was triggered or that waits to be
nominated. -/
structure CheckTable (ice : NanoIce) : Prop extends TableSound ice where
  size : ice.pending.length = iceMaxPendingChecks
  marked : ∀ p ∈ ice.pending, p.flags.queued = true → p.flags.triggered = true ∨
    p.flags.valid = true

/-- Two slots are for the same pair, as the agent compares them. -/
def SamePair (ice : NanoIce) (p q : IcePending) : Prop :=
  q.remoteIdx = p.remoteIdx ∧ iceLocalBaseIdx ice q.localIdx = iceLocalBaseIdx ice p.localIdx

instance (ice : NanoIce) (p q : IcePending) : Decidable (SamePair ice p q) :=
  inferInstanceAs (Decidable (_ ∧ _))

/-- What may become of a slot: it is emptied, stays with its pair, or goes to another one. That takes
no transaction from the first pair, and its success only if no slot is empty. -/
def SlotMove (ice : NanoIce) (p q : IcePending) : Prop :=
  q.idle = true ∨ SamePair ice p q ∨
    (p.inFlight = false ∧ (p.flags.valid = true → ∀ r ∈ ice.pending, r.idle = false))

instance (ice : NanoIce) (p q : IcePending) : Decidable (SlotMove ice p q) :=
  inferInstanceAs (Decidable (_ ∨ _ ∨ _ ∧ _))

/-- What a step does to the slots. -/
def TableMove (ice ice' : NanoIce) : Prop :=
  ∀ (i : Nat) (p q : IcePending), ice.pending[i]? = some p → ice'.pending[i]? = some q →
    SlotMove ice p q

/-- A step that keeps the invariant. -/
structure Keeps (ice ice' : NanoIce) : Prop where
  table : CheckTable ice'
  move : TableMove ice ice'

theorem SamePair.refl (ice : NanoIce) (p : IcePending) : SamePair ice p p := ⟨rfl, rfl⟩

theorem TableMove.same {ice ice' : NanoIce} (h : ice'.pending = ice.pending) :
    TableMove ice ice' := by
  intro i p q hp hq
  rw [h, hp] at hq
  obtain rfl := Option.some.inj hq
  exact .inr (.inl (.refl ice p))

/-- The slots are as they were, under no fewer candidates. -/
theorem CheckTable.same {ice ice' : NanoIce} (h : CheckTable ice) (hset : ice'.pending = ice.pending)
    (hlocal : ice.localCandidates.length ≤ ice'.localCandidates.length)
    (hremote : ice.remoteCandidates.length ≤ ice'.remoteCandidates.length) : CheckTable ice' where
  alone := hset ▸ h.alone
  order := hset ▸ h.order
  pairs p hp hidle := by
    rw [hset] at hp
    obtain ⟨hl, hr⟩ := h.pairs p hp hidle
    exact ⟨Nat.lt_of_lt_of_le hl hlocal, Nat.lt_of_lt_of_le hr hremote⟩
  size := hset ▸ h.size
  marked := hset ▸ h.marked

theorem Keeps.refl {ice : NanoIce} (h : CheckTable ice) : Keeps ice ice := ⟨h, .same rfl⟩

theorem CheckTable.start (isControlling : Bool) : CheckTable (iceInit isControlling) where
  alone p hp := by
    obtain rfl := List.eq_of_mem_replicate hp
    exact fun h => rfl
  order := inLine_idle fun p hp => by
    obtain rfl := List.eq_of_mem_replicate hp
    rfl
  pairs p hp hidle := by
    obtain rfl := List.eq_of_mem_replicate hp
    exact nomatch hidle
  size := List.length_replicate
  marked p hp := by
    obtain rfl := List.eq_of_mem_replicate hp
    exact nofun

/-! ### Operations on a slot -/

section

variable {ice ice' : NanoIce} (h : CheckTable ice) {slot : Nat} (hlt : slot < ice.pending.length)
  {q : IcePending}

theorem getD_eq_getElem {α : Type} {l : List α} {i : Nat} (hi : i < l.length) (d : α) :
    l.getD i d = l[i] := List.getD_eq_getElem l d hi

/-- A slot of the table and what may become of it. -/
theorem TableMove.set (hset : ice'.pending = ice.pending.set slot q)
    (hmove : SlotMove ice (ice.pending.getD slot default) q) : TableMove ice ice' := by
  intro i p r hp hr
  rw [hset] at hr
  by_cases hi : slot = i
  · subst hi
    have hlt := (List.getElem?_eq_some_iff.mp hp).1
    rw [List.getElem?_set_self hlt] at hr
    obtain rfl := Option.some.inj hr
    rw [List.getD_eq_getElem?_getD, hp] at hmove
    exact hmove
  · rw [List.getElem?_set_ne hi, hp] at hr
    obtain rfl := Option.some.inj hr
    exact .inr (.inl (.refl ice p))

include h hlt

/-- A slot is written, in the queue at its old place or outside it. -/
theorem CheckTable.write (hset : ice'.pending = ice.pending.set slot q)
    (hqueued : q.flags.queued = (ice.pending.getD slot default).flags.queued)
    (hplace : q.flags.queued = true → q.sentAtMs = (ice.pending.getD slot default).sentAtMs ∧
      q.inFlight = false ∧ (q.flags.triggered = true ∨ q.flags.valid = true))
    (hpair : q.idle = false → q.localIdx < ice'.localCandidates.length ∧
      q.remoteIdx < ice'.remoteCandidates.length)
    (hlocal : ice.localCandidates.length ≤ ice'.localCandidates.length)
    (hremote : ice.remoteCandidates.length ≤ ice'.remoteCandidates.length) : CheckTable ice' where
  alone p hp := by
    rw [hset] at hp
    rcases mem_set_cases hp with ⟨rfl, -⟩ | hp
    · exact fun hq => (hplace hq).2.1
    · exact h.alone p hp
  order := by
    rw [hset]
    rw [getD_eq_getElem hlt] at hqueued hplace
    exact InLine.keep hlt h.order hqueued fun hq => congrArg UInt32.toNat (hplace hq).1
  pairs p hp hidle := by
    rw [hset] at hp
    rcases mem_set_cases hp with ⟨rfl, -⟩ | hp
    · exact hpair hidle
    · obtain ⟨hl, hr⟩ := h.pairs p hp hidle
      exact ⟨Nat.lt_of_lt_of_le hl hlocal, Nat.lt_of_lt_of_le hr hremote⟩
  size := by
    rw [hset, List.length_set]
    exact h.size
  marked p hp := by
    rw [hset] at hp
    rcases mem_set_cases hp with ⟨rfl, -⟩ | hp
    · exact fun hq => (hplace hq).2.2
    · exact h.marked p hp

/-- A slot outside the queue joins it. -/
theorem CheckTable.queueCheck (hidle : (ice.pending.getD slot default).flags.queued = false)
    (hflight : (ice.pending.getD slot default).inFlight = false)
    (hmarked : (ice.pending.getD slot default).flags.triggered = true ∨
      (ice.pending.getD slot default).flags.valid = true) :
    CheckTable (iceQueueCheck ice slot) := by
  have hp := getD_mem (d := (default : IcePending)) hlt
  have hused : (ice.pending.getD slot default).idle = false := by
    unfold IcePending.idle
    rw [hflight]
    cases hf : (ice.pending.getD slot default).flags == {} with
    | false => rfl
    | true =>
      rw [beq_iff_eq.mp hf] at hmarked
      cases hmarked with
      | inl ht => exact nomatch ht
      | inr hv => exact nomatch hv
  have hpair := h.pairs _ hp hused
  have hcount : (ice.pending.filter (·.flags.queued)).length ≤ iceMaxPendingChecks :=
    h.size ▸ List.length_filter_le _ _
  exact {
    alone := fun q hq hqueued => by
      rcases mem_set_cases hq with ⟨rfl, -⟩ | hq
      · exact hflight
      · exact h.alone q hq hqueued
    order := by
      rw [getD_eq_getElem hlt] at hidle
      refine InLine.join hlt h.order hidle rfl ?_
      show (UInt32.ofNat _).toNat = _
      rw [UInt32.toNat_ofNat']
      exact Nat.mod_eq_of_lt (Nat.lt_of_le_of_lt hcount (by decide))
    pairs := fun q hq hused => by
      rcases mem_set_cases hq with ⟨rfl, -⟩ | hq
      · exact hpair
      · exact h.pairs q hq hused
    size := (List.length_set).trans h.size
    marked := fun q hq hqueued => by
      rcases mem_set_cases hq with ⟨rfl, -⟩ | hq
      · exact hmarked
      · exact h.marked q hq hqueued }

end

section

variable {ice : NanoIce} (slot : Nat)

/-- What the slots behind a place do when it becomes free. -/
def movedUp (place : UInt32) (q : IcePending) : IcePending :=
  if q.flags.queued ∧ q.sentAtMs > place then { q with sentAtMs := q.sentAtMs - 1 } else q

/-- The table when a slot has left the queue and is written. -/
theorem iceUnqueueCheck_set (ice : NanoIce) (slot : Nat) (q : IcePending) :
    (iceUnqueueCheck ice slot).pending.set slot q =
      if (ice.pending.getD slot default).flags.queued then
        (ice.pending.map (movedUp (ice.pending.getD slot default).sentAtMs)).set slot q
      else ice.pending.set slot q := by
  unfold iceUnqueueCheck
  dsimp only
  split
  · exact List.set_set ..
  · rfl

theorem movedUp_place {m : UInt32} {q : IcePending} (h : q.flags.queued = true) :
    (movedUp m q).sentAtMs.toNat = moveUp m.toNat q.sentAtMs.toNat := by
  unfold movedUp moveUp
  by_cases hlt : m < q.sentAtMs
  · have hpos : 1 ≤ q.sentAtMs := by
      rw [UInt32.le_iff_toNat_le]
      have := UInt32.lt_iff_toNat_lt.mp hlt
      show 1 ≤ q.sentAtMs.toNat
      omega
    rw [if_pos ⟨h, hlt⟩, if_pos (UInt32.lt_iff_toNat_lt.mp hlt)]
    exact UInt32.toNat_sub_of_le _ _ hpos
  · rw [if_neg fun hcon => hlt hcon.2, if_neg fun hcon => hlt (UInt32.lt_iff_toNat_lt.mpr hcon)]

theorem movedUp_same (m : UInt32) (q : IcePending) : SameSlot q (movedUp m q) ∧
    (movedUp m q).flags = q.flags := by
  unfold movedUp
  split
  · exact ⟨⟨rfl, rfl, rfl, rfl, rfl, rfl⟩, rfl⟩
  · exact ⟨⟨rfl, rfl, rfl, rfl, rfl, rfl⟩, rfl⟩

theorem movedUp_idle (m : UInt32) (q : IcePending) : (movedUp m q).idle = q.idle := by
  unfold IcePending.idle
  rw [(movedUp_same m q).1.inFlight, (movedUp_same m q).2]

/-- A slot leaves the queue, if it is in it, and is written. -/
theorem CheckTable.release (h : CheckTable ice) {ice' : NanoIce} {q : IcePending}
    (hset : ice'.pending = (iceUnqueueCheck ice slot).pending.set slot q)
    (hlocal : ice'.localCandidates = ice.localCandidates)
    (hremote : ice'.remoteCandidates = ice.remoteCandidates) (hq : q.flags.queued = false)
    (hpair : q.idle = false → q.localIdx < ice.localCandidates.length ∧
      q.remoteIdx < ice.remoteCandidates.length) : CheckTable ice' := by
  rw [iceUnqueueCheck_set] at hset
  rcases Nat.lt_or_ge slot ice.pending.length with hlt | hge
  · split at hset
    · rename_i hqueued
      rw [getD_eq_getElem hlt] at hqueued
      rw [getD_eq_getElem hlt] at hset
      exact {
        alone := fun p hp => by
          rw [hset] at hp
          rcases mem_set_cases hp with ⟨rfl, -⟩ | hp
          · exact fun hcon => nomatch hq.symm.trans hcon
          · obtain ⟨r, hr, rfl⟩ := List.mem_map.mp hp
            rw [(movedUp_same _ r).2, (movedUp_same _ r).1.inFlight]
            exact h.alone r hr
        order := by
          rw [hset]
          exact InLine.leave hlt h.order hqueued hq
            (fun b => congrArg IceFlags.queued (movedUp_same _ b).2) fun b hb => movedUp_place hb
        pairs := fun p hp hused => by
          rw [hset] at hp
          rw [hlocal, hremote]
          rcases mem_set_cases hp with ⟨rfl, -⟩ | hp
          · exact hpair hused
          · obtain ⟨r, hr, rfl⟩ := List.mem_map.mp hp
            rw [movedUp_idle] at hused
            rw [(movedUp_same _ r).1.localIdx, (movedUp_same _ r).1.remoteIdx]
            exact h.pairs r hr hused
        size := by
          rw [hset, List.length_set, List.length_map]
          exact h.size
        marked := fun p hp => by
          rw [hset] at hp
          rcases mem_set_cases hp with ⟨rfl, -⟩ | hp
          · exact fun hcon => nomatch hq.symm.trans hcon
          · obtain ⟨r, hr, rfl⟩ := List.mem_map.mp hp
            rw [(movedUp_same _ r).2]
            exact h.marked r hr }
    · rename_i hqueued
      rw [Bool.not_eq_true] at hqueued
      refine h.write hlt hset (hq.trans hqueued.symm) (fun hcon => nomatch hq.symm.trans hcon)
        (fun hused => ?_) (by rw [hlocal]) (by rw [hremote])
      rw [hlocal, hremote]
      exact hpair hused
  · have hdefault : (ice.pending.getD slot default).flags.queued = false := by
      rw [List.getD_eq_default _ _ hge]
      rfl
    rw [hdefault, if_neg nofun, List.set_eq_of_length_le hge] at hset
    exact h.same hset (by rw [hlocal]) (by rw [hremote])

theorem TableMove.release {ice' : NanoIce} {q : IcePending}
    (hset : ice'.pending = (iceUnqueueCheck ice slot).pending.set slot q)
    (hmove : SlotMove ice (ice.pending.getD slot default) q) : TableMove ice ice' := by
  rw [iceUnqueueCheck_set] at hset
  split at hset
  · intro i p r hp hr
    rw [hset] at hr
    by_cases hi : slot = i
    · subst hi
      have hlt := (List.getElem?_eq_some_iff.mp hp).1
      rw [List.getElem?_set_self (by rwa [List.length_map])] at hr
      obtain rfl := Option.some.inj hr
      rw [List.getD_eq_getElem?_getD, hp] at hmove
      exact hmove
    · rw [List.getElem?_set_ne hi, List.getElem?_map, hp] at hr
      obtain rfl := Option.some.inj hr
      refine .inr (.inl ⟨(movedUp_same _ p).1.remoteIdx, ?_⟩)
      rw [(movedUp_same _ p).1.localIdx]
  · exact .set hset hmove

end

/-! ### Triggered checks -/

/-- The slot a pair finds: its own, or one that is neither in flight nor queued. -/
theorem iceFindSlot_spec {ice : NanoIce} {lcl remote slot : Nat}
    (h : iceFindSlot ice lcl remote = some slot) :
    slot < ice.pending.length ∧
    (((ice.pending.getD slot default).idle = false ∧
        iceSlotOfPair ice lcl remote (ice.pending.getD slot default) = true) ∨
      ((ice.pending.getD slot default).inFlight = false ∧
        (ice.pending.getD slot default).flags.queued = false)) := by
  simp only [iceFindSlot] at h
  split at h
  · rename_i i hi
    obtain rfl := Option.some.inj h
    obtain ⟨hlt, hown, -⟩ := List.findIdx?_eq_some_iff_getElem.mp hi
    rw [getD_eq_getElem hlt]
    simp only [Bool.and_eq_true, Bool.not_eq_true'] at hown
    exact ⟨hlt, .inl hown⟩
  · obtain ⟨hlt, hfree, -⟩ := List.findIdx?_eq_some_iff_getElem.mp h
    rw [getD_eq_getElem hlt]
    simp only [Bool.and_eq_true, Bool.not_eq_true'] at hfree
    exact ⟨hlt, .inr hfree⟩

/-- The remote candidate of a source, known or learned. -/
def iceRemoteOf (ice : NanoIce) (src : NanortcAddr) : Nat :=
  ice.remoteCandidates.findIdx (iceAddrMatches · src)

theorem iceRemoteOf_lt (ice : NanoIce) (src : NanortcAddr) :
    iceRemoteOf ice src < (iceLearnRemote ice src).length := by
  obtain ⟨c, hc, -⟩ := iceLearnRemote_isRemote ice src
  exact (List.getElem?_eq_some_iff.mp hc).1

/-- A request takes the slot of a successful pair for another one although a slot is empty. -/
def HandsOver (ice : NanoIce) (lcl : Nat) (src : NanortcAddr) : Prop :=
  ¬ (ice.state = .connected ∨ ice.state = .failed ∨ ice.state = .disconnected) ∧
  lcl < ice.localCandidates.length ∧ (ice.localCandidates.getD lcl default).family = src.family ∧
  iceRemoteOf ice src < maxIceCandidates ∧
  ∃ slot ∈ iceFindSlot ice lcl (iceRemoteOf ice src),
    (ice.pending.getD slot default).flags.valid = true ∧
    iceSlotOfPair ice lcl (iceRemoteOf ice src) (ice.pending.getD slot default) = false ∧
    ∃ r ∈ ice.pending, r.idle = true

instance (ice : NanoIce) (lcl : Nat) (src : NanortcAddr) : Decidable (HandsOver ice lcl src) :=
  inferInstanceAs (Decidable (_ ∧ _ ∧ _ ∧ _ ∧ ∃ slot ∈ iceFindSlot ice lcl (iceRemoteOf ice src), _))

theorem iceClaimSlot_own {ice : NanoIce} {lcl remote : Nat} {p : IcePending}
    (hused : p.idle = false) (hown : iceSlotOfPair ice lcl remote p = true) :
    iceClaimSlot ice lcl remote p = p := by
  unfold iceClaimSlot
  rw [hused, hown]
  rfl

theorem iceClaimSlot_other {ice : NanoIce} {lcl remote : Nat} {p : IcePending}
    (h : p.idle = true ∨ iceSlotOfPair ice lcl remote p = false) :
    iceClaimSlot ice lcl remote p =
      { IcePending.zero with localIdx := lcl, remoteIdx := remote } := by
  unfold iceClaimSlot
  refine if_pos ?_
  rcases h with h | h
  · rw [h]
    rfl
  · rw [h, Bool.not_false, Bool.or_true]

/-- A slot outside the queue is written and joins it. -/
theorem keeps_requeue {ice : NanoIce} (ice1 : NanoIce) (h : CheckTable ice) {slot : Nat}
    (hlt : slot < ice.pending.length) {q : IcePending} (hset : ice1.pending = ice.pending)
    (hlocal : ice1.localCandidates = ice.localCandidates)
    (hremote : ice.remoteCandidates.length ≤ ice1.remoteCandidates.length)
    (hold : (ice.pending.getD slot default).flags.queued = false)
    (hq : q.flags.queued = false ∧ q.inFlight = false ∧
      (q.flags.triggered = true ∨ q.flags.valid = true))
    (hpair : q.localIdx < ice.localCandidates.length ∧
      q.remoteIdx < ice1.remoteCandidates.length)
    (hmove : ∀ n, SlotMove ice (ice.pending.getD slot default) (q.enqueue n)) :
    Keeps ice (iceQueueCheck (ice1.setSlot slot q) slot) := by
  have hwritten : CheckTable (ice1.setSlot slot q) := by
    refine h.write (q := q) hlt ?_ (hq.1.trans hold.symm) (fun hcon => nomatch hq.1.symm.trans hcon)
      (fun _ => ?_) ?_ hremote
    · show ice1.pending.set slot q = _
      rw [hset]
    · show q.localIdx < ice1.localCandidates.length ∧ _
      rw [hlocal]
      exact hpair
    · show ice.localCandidates.length ≤ ice1.localCandidates.length
      rw [hlocal]
  have hget : (ice1.setSlot slot q).pending.getD slot default = q := by
    show (ice1.pending.set slot q).getD slot default = q
    rw [hset, List.getD_eq_getElem?_getD, List.getElem?_set_self hlt, Option.getD_some]
  constructor
  · refine hwritten.queueCheck ?_ ?_ ?_ ?_
    · show slot < (ice1.pending.set slot q).length
      rw [List.length_set, hset]
      exact hlt
    · rw [hget]
      exact hq.1
    · rw [hget]
      exact hq.2.1
    · rw [hget]
      exact hq.2.2
  · obtain ⟨n, hn⟩ := iceQueueCheck_setSlot ice1 q
      (show slot < ice1.pending.length by rw [hset]; exact hlt)
    rw [hn]
    refine .set (q := q.enqueue n) ?_ (hmove n)
    show ice1.pending.set slot (q.enqueue n) = _
    rw [hset]

/-- A slot keeps its pair, its transaction and its place. -/
theorem keeps_regrant {ice ice' : NanoIce} (h : CheckTable ice) {slot : Nat}
    (hlt : slot < ice.pending.length) (nominate : Bool)
    (hused : (ice.pending.getD slot default).idle = false)
    (hset : ice'.pending = ice.pending.set slot ((ice.pending.getD slot default).grant nominate))
    (hlocal : ice'.localCandidates = ice.localCandidates)
    (hremote : ice.remoteCandidates.length ≤ ice'.remoteCandidates.length) : Keeps ice ice' := by
  have hmem := getD_mem (d := (default : IcePending)) hlt
  obtain ⟨hl, hr⟩ := h.pairs _ hmem hused
  have hqueue := And.intro (h.alone _ hmem) (h.marked _ hmem)
  refine ⟨h.write hlt hset rfl (fun hq => ⟨rfl, hqueue.1 hq, hqueue.2 hq⟩)
    (fun _ => ⟨?_, Nat.lt_of_lt_of_le hr hremote⟩) (by rw [hlocal]) hremote,
    .set hset (.inr (.inl ⟨rfl, rfl⟩))⟩
  rw [hlocal]
  exact hl

/-- **A triggered check** keeps the table, unless it hands a slot over. -/
theorem keeps_triggerCheck {ice : NanoIce} (h : CheckTable ice) {lcl : Nat} {src : NanortcAddr}
    (hspare : ¬ HandsOver ice lcl src) (nominate : Bool) :
    Keeps ice (iceTriggerCheck ice lcl src nominate).1 := by
  unfold iceTriggerCheck
  split
  · exact .refl h
  rename_i hstate
  split
  · exact .refl h
  rename_i hlocal
  rw [not_or, Nat.not_le, ne_eq, Decidable.not_not] at hlocal
  dsimp only
  have hlearned := iceRemoteOf_lt ice src
  have hlonger := iceLearnRemote_prefix ice src
  have hgrow := hlonger.length_le
  split
  · exact .refl h
  rename_i slot hslot
  split
  · exact .refl h
  rename_i hroom
  obtain ⟨hlt, hfound⟩ := iceFindSlot_spec hslot
  have hmem := getD_mem (d := (default : IcePending)) hlt
  by_cases hown : (ice.pending.getD slot default).idle = false ∧
      iceSlotOfPair ice lcl (iceRemoteOf ice src) (ice.pending.getD slot default) = true
  · -- the pair's own slot
    obtain ⟨hused, hpair⟩ := hown
    obtain ⟨hl, hr⟩ := h.pairs _ hmem hused
    unfold iceRemoteOf at hpair
    rw [iceClaimSlot_own hused hpair]
    split
    · split
      · exact keeps_regrant h hlt nominate hused rfl rfl hgrow
      · exact keeps_regrant h hlt nominate hused rfl rfl hgrow
    · rename_i hvalid
      split
      · rename_i htriggered
        -- neither triggered nor valid, so it is not queued
        have hidle : (ice.pending.getD slot default).flags.queued = false := by
          by_contra hcon
          rw [Bool.not_eq_false] at hcon
          rw [Bool.not_eq_true'] at htriggered
          rcases h.marked _ hmem hcon with ht | hv
          · exact nomatch htriggered.symm.trans ht
          · exact hvalid hv
        exact keeps_requeue { ice with remoteCandidates := iceLearnRemote ice src } h hlt
          rfl rfl hgrow hidle ⟨rfl, rfl, .inl rfl⟩ ⟨hl, Nat.lt_of_lt_of_le hr hgrow⟩
          fun n => .inr (.inl ⟨rfl, rfl⟩)
      · exact keeps_regrant h hlt nominate hused rfl rfl hgrow
  · -- a slot that is free, or the slot of a successful pair
    have hfree : (ice.pending.getD slot default).inFlight = false ∧
        (ice.pending.getD slot default).flags.queued = false :=
      hfound.resolve_left hown
    have hother : (ice.pending.getD slot default).idle = true ∨
        iceSlotOfPair ice lcl (iceRemoteOf ice src) (ice.pending.getD slot default) = false := by
      rw [not_and_or, Bool.not_eq_false, Bool.not_eq_true] at hown
      exact hown
    have hfull (hvalid : (ice.pending.getD slot default).flags.valid = true) :
        ∀ r ∈ ice.pending, r.idle = false := by
      intro r hr
      by_contra hcon
      rw [Bool.not_eq_false] at hcon
      refine hspare ⟨hstate, hlocal.1, hlocal.2, Nat.not_le.mp hroom, slot, hslot, hvalid, ?_, r, hr,
        hcon⟩
      rcases hother with hidle | hother
      · unfold IcePending.idle at hidle
        rw [Bool.and_eq_true] at hidle
        rw [beq_iff_eq.mp hidle.2] at hvalid
        exact nomatch hvalid
      · exact hother
    unfold iceRemoteOf at hother
    rw [iceClaimSlot_other hother]
    exact keeps_requeue { ice with remoteCandidates := iceLearnRemote ice src } h hlt
      rfl rfl hgrow hfree.2 ⟨rfl, rfl, .inl rfl⟩ ⟨hlocal.1, hlearned⟩
      fun n => .inr (.inr ⟨hfree.1, hfull⟩)

/-! ### Answers -/

/-- A slot in flight is not queued. -/
theorem CheckTable.inFlight {ice : NanoIce} (h : CheckTable ice) {p : IcePending}
    (hp : p ∈ ice.pending) (hflight : p.inFlight = true) :
    p.flags.queued = false ∧ p.idle = false := by
  constructor
  · by_contra hcon
    rw [Bool.not_eq_false] at hcon
    exact nomatch hflight.symm.trans (h.alone p hp hcon)
  · unfold IcePending.idle
    rw [hflight]
    rfl

theorem keeps_checkSucceeded {ice : NanoIce} (h : CheckTable ice) {slot : Nat} (msg : StunMsg)
    (hlt : slot < ice.pending.length) (hflight : (ice.pending.getD slot default).inFlight = true) :
    Keeps ice (iceCheckSucceeded ice slot msg) := by
  have hmem := getD_mem (d := (default : IcePending)) hlt
  obtain ⟨hidle, hused⟩ := h.inFlight hmem hflight
  obtain ⟨hl, hr⟩ := h.pairs _ hmem hused
  have hmapped := iceMappedLocal_lt msg hl
  have hbase := iceMappedLocal_base ice msg (ice.pending.getD slot default).localIdx
  have hwrite {ice' : NanoIce} {q : IcePending} (hset : ice'.pending = ice.pending.set slot q)
      (hq : q.flags.queued = false)
      (hidx : q.localIdx = iceMappedLocal ice msg (ice.pending.getD slot default).localIdx ∧
        q.remoteIdx = (ice.pending.getD slot default).remoteIdx)
      (hlocal : ice'.localCandidates = ice.localCandidates)
      (hremote : ice'.remoteCandidates = ice.remoteCandidates) : Keeps ice ice' := by
    refine ⟨h.write hlt hset (hq.trans hidle.symm) (fun hcon => nomatch hq.symm.trans hcon)
      (fun _ => ?_) (by rw [hlocal]) (by rw [hremote]), .set hset (.inr (.inl ⟨hidx.2, ?_⟩))⟩
    · rw [hlocal, hremote, hidx.1, hidx.2]
      exact ⟨hmapped, hr⟩
    · rw [hidx.1]
      exact hbase
  unfold iceCheckSucceeded
  dsimp only
  split
  · split
    · exact hwrite rfl rfl ⟨rfl, rfl⟩ rfl rfl
    split
    · exact keeps_requeue ice h hlt rfl rfl (Nat.le_refl _) hidle ⟨rfl, rfl, .inr rfl⟩
        ⟨hmapped, hr⟩ fun n => .inr (.inl ⟨rfl, hbase⟩)
    · exact hwrite rfl rfl ⟨rfl, rfl⟩ rfl rfl
  · exact hwrite rfl hidle ⟨rfl, rfl⟩ rfl rfl

/-- A slot whose transaction failed is emptied. -/
theorem keeps_clear {ice : NanoIce} (h : CheckTable ice) {slot : Nat}
    (hlt : slot < ice.pending.length) (hflight : (ice.pending.getD slot default).inFlight = true) :
    Keeps ice (ice.setSlot slot .zero) := by
  obtain ⟨hidle, -⟩ := h.inFlight (getD_mem (d := (default : IcePending)) hlt) hflight
  exact ⟨h.write (q := .zero) hlt rfl (by rw [hidle]; rfl) nofun nofun (Nat.le_refl _)
    (Nat.le_refl _), .set rfl (.inl rfl)⟩

/-! ### Inbound messages -/

/-- A request that is answered takes the slot of a successful pair for another one although a slot
is empty. -/
def RequestHandsOver (crypto : CryptoProvider) (ice : NanoIce) (data : List UInt8)
    (src : NanortcAddr) (localIdx : Nat) (viaTurn : Bool) (respBufLen : Nat) : Prop :=
  match stunParse data with
  | .error _ => False
  | .ok msg => msg.type = stunBindingRequest ∧ stunAuthentic crypto data msg ice.localPwd = true ∧
    iceVerifyUsername ice msg = true ∧ addrToStunFamily src.family ≠ 0 ∧
    (stunEncodeBindingResponse crypto msg ⟨src.addr, src.port, addrToStunFamily src.family⟩
      ice.localPwd respBufLen).isOk = true ∧
    HandsOver ice (iceResolveLocal ice src localIdx viaTurn) src

instance (crypto : CryptoProvider) (ice : NanoIce) (data : List UInt8) (src : NanortcAddr)
    (localIdx : Nat) (viaTurn : Bool) (respBufLen : Nat) :
    Decidable (RequestHandsOver crypto ice data src localIdx viaTurn respBufLen) :=
  match h : stunParse data with
  | .error _ => .isFalse (by unfold RequestHandsOver; rw [h]; exact id)
  | .ok msg => decidable_of_iff (msg.type = stunBindingRequest ∧
      stunAuthentic crypto data msg ice.localPwd = true ∧
      iceVerifyUsername ice msg = true ∧ addrToStunFamily src.family ≠ 0 ∧
      (stunEncodeBindingResponse crypto msg ⟨src.addr, src.port, addrToStunFamily src.family⟩
        ice.localPwd respBufLen).isOk = true ∧
      HandsOver ice (iceResolveLocal ice src localIdx viaTurn) src)
      (by unfold RequestHandsOver; rw [h])

/-- A request that changes the agent is authentic, is answered and reaches the table. -/
theorem iceHandleRequest_effect (crypto : CryptoProvider) (ice : NanoIce) (data : List UInt8)
    (msg : StunMsg) (src : NanortcAddr) (localIdx : Nat) (viaTurn : Bool) (respBufLen : Nat) :
    (iceHandleRequest crypto ice data msg src localIdx viaTurn respBufLen).1 = ice ∨
      (stunAuthentic crypto data msg ice.localPwd = true ∧ iceVerifyUsername ice msg = true ∧
        addrToStunFamily src.family ≠ 0 ∧
        (stunEncodeBindingResponse crypto msg ⟨src.addr, src.port, addrToStunFamily src.family⟩
          ice.localPwd respBufLen).isOk = true ∧
        (iceHandleRequest crypto ice data msg src localIdx viaTurn respBufLen).1 =
          (iceTriggerCheck ice (iceResolveLocal ice src localIdx viaTurn) src
            (msg.useCandidate && !ice.isControlling)).1) := by
  rcases iceHandleRequest_cases crypto ice data msg src localIdx viaTurn respBufLen with
    hsame | ⟨hauth, huser, hstep⟩
  · exact .inl hsame
  by_cases hfamily : addrToStunFamily src.family = 0
  · left
    simp only [iceHandleRequest, hfamily, if_true]
    split
    · rfl
    split
    · rfl
    split
    · rfl
    split
    · rfl
    split <;> rfl
  cases hanswer : stunEncodeBindingResponse crypto msg
      ⟨src.addr, src.port, addrToStunFamily src.family⟩ ice.localPwd respBufLen with
  | ok resp => exact .inr ⟨hauth, huser, hfamily, rfl, hstep⟩
  | error e =>
    left
    simp only [iceHandleRequest, if_neg hfamily, hanswer]
    split
    · rfl
    split
    · rfl
    split
    · rfl
    split
    · rfl
    split <;> rfl

/-- A request that is authentic and can be answered reaches the table. -/
theorem iceHandleRequest_answered {crypto : CryptoProvider} {ice : NanoIce} {data : List UInt8}
    {msg : StunMsg} {src : NanortcAddr} {respBufLen : Nat} (localIdx : Nat) (viaTurn : Bool)
    (hauth : stunAuthentic crypto data msg ice.localPwd = true)
    (huser : iceVerifyUsername ice msg = true) (hfamily : addrToStunFamily src.family ≠ 0)
    (hanswer : (stunEncodeBindingResponse crypto msg
      ⟨src.addr, src.port, addrToStunFamily src.family⟩ ice.localPwd respBufLen).isOk = true) :
    (iceHandleRequest crypto ice data msg src localIdx viaTurn respBufLen).1 =
      (iceTriggerCheck ice (iceResolveLocal ice src localIdx viaTurn) src
        (msg.useCandidate && !ice.isControlling)).1 := by
  unfold stunAuthentic at hauth
  simp only [Bool.and_eq_true, beq_iff_eq] at hauth
  obtain ⟨⟨⟨hfp, hfpv⟩, hmi⟩, hmiv⟩ := hauth
  unfold iceHandleRequest
  rw [hfp, hfpv, huser, hmi, hmiv]
  rw [if_neg nofun, if_neg (fun h => h rfl), if_neg nofun, if_neg nofun, if_neg (fun h => h rfl),
    if_neg hfamily]
  split
  · rename_i hencode
    rw [hencode] at hanswer
    exact nomatch hanswer
  · split <;> rename_i h <;> rw [h]

/-- **A request that hands a slot over** takes the success of its pair away. -/
theorem HandsOver.breaks {ice : NanoIce} {lcl : Nat} {src : NanortcAddr} (h : HandsOver ice lcl src)
    (nominate : Bool) : ¬ TableMove ice (iceTriggerCheck ice lcl src nominate).1 := by
  obtain ⟨hstate, hlt, hfamily, hroom, slot, hslot, hvalid, hother, r, hr, hidle⟩ := h
  have hslot : iceFindSlot ice lcl (iceRemoteOf ice src) = some slot := hslot
  obtain ⟨hslotlt, -⟩ := iceFindSlot_spec hslot
  have hclaim : iceClaimSlot ice lcl (iceRemoteOf ice src) (ice.pending.getD slot default) =
      { IcePending.zero with localIdx := lcl, remoteIdx := iceRemoteOf ice src } :=
    iceClaimSlot_other (.inr hother)
  obtain ⟨n, hqueue⟩ := iceQueueCheck_setSlot
    { ice with remoteCandidates := iceLearnRemote ice src }
    ((({ IcePending.zero with localIdx := lcl, remoteIdx := iceRemoteOf ice src } :
      IcePending).grant nominate).retrigger) hslotlt
  have hstep : (iceTriggerCheck ice lcl src nominate).1 =
      { ice with remoteCandidates := iceLearnRemote ice src }.setSlot slot
        (((({ IcePending.zero with localIdx := lcl, remoteIdx := iceRemoteOf ice src } :
          IcePending).grant nominate).retrigger).enqueue n) := by
    unfold iceTriggerCheck
    rw [if_neg hstate, if_neg (not_or.mpr ⟨Nat.not_le.mpr hlt, fun hne => hne hfamily⟩)]
    dsimp only
    unfold iceRemoteOf at hslot hclaim hroom hqueue
    rw [hslot]
    dsimp only
    rw [if_neg (Nat.not_le.mpr hroom), hclaim]
    exact hqueue
  intro hmove
  rw [hstep] at hmove
  have hold : ice.pending[slot]? = some (ice.pending.getD slot default) := by
    rw [List.getElem?_eq_getElem hslotlt, List.getD_eq_getElem _ _ hslotlt]
  rcases hmove slot _ _ hold (List.getElem?_set_self hslotlt) with hcon | hcon | hcon
  · exact nomatch hcon
  · -- the slot belongs to another pair now
    have hremote : iceRemoteOf ice src = (ice.pending.getD slot default).remoteIdx := hcon.1
    have hbase : iceLocalBaseIdx ice lcl =
      iceLocalBaseIdx ice (ice.pending.getD slot default).localIdx := hcon.2
    unfold iceSlotOfPair at hother
    rw [hremote, hbase, beq_self_eq_true, beq_self_eq_true] at hother
    exact nomatch hother
  · exact nomatch (hcon.2 hvalid r hr).symm.trans hidle

/-- **An inbound message** keeps the table, unless it hands a slot over. -/
theorem keeps_handleStun (crypto : CryptoProvider) {ice : NanoIce} (h : CheckTable ice)
    {data : List UInt8} {src : NanortcAddr} {localIdx : Nat} {viaTurn : Bool} {respBufLen : Nat}
    (hspare : ¬ RequestHandsOver crypto ice data src localIdx viaTurn respBufLen) :
    Keeps ice (iceHandleStun crypto ice data src localIdx viaTurn respBufLen).1 := by
  unfold RequestHandsOver at hspare
  unfold iceHandleStun
  split
  · exact .refl h
  rename_i msg hparse
  rw [hparse] at hspare
  dsimp only at hspare
  split
  · rename_i hrequest
    rcases iceHandleRequest_effect crypto ice data msg src localIdx viaTurn respBufLen with
      hsame | ⟨hauth, huser, hfamily, hanswer, hstep⟩
    · rw [hsame]
      exact .refl h
    · rw [hstep]
      exact keeps_triggerCheck h (fun hcon => hspare ⟨hrequest, hauth, huser, hfamily, hanswer, hcon⟩) _
  split
  · rcases iceHandleResponse_cases crypto ice data msg src localIdx viaTurn with
      hsame | ⟨-, ⟨-, -, hsame⟩ | ⟨slot, hslot, -, hstep⟩⟩
    · show Keeps ice (iceHandleResponse crypto ice data msg src localIdx viaTurn).1
      rw [hsame]
      exact .refl h
    · show Keeps ice (iceHandleResponse crypto ice data msg src localIdx viaTurn).1
      rw [hsame]
      exact ⟨h.same rfl (Nat.le_refl _) (Nat.le_refl _), .same rfl⟩
    · show Keeps ice (iceHandleResponse crypto ice data msg src localIdx viaTurn).1
      rw [hstep]
      obtain ⟨hlt, hflight, -⟩ := iceFindPending_spec hslot
      exact keeps_checkSucceeded h msg hlt hflight
  split
  · show Keeps ice (iceHandleError crypto ice data msg).1
    unfold iceHandleError
    split
    · split
      · exact .refl h
      · rename_i slot hslot
        obtain ⟨hlt, hflight, -⟩ := iceFindPending_spec hslot
        exact keeps_clear h hlt hflight
    · exact .refl h
  · exact .refl h

/-! ### Checks -/

theorem iceUnqueueCheck_candidates (ice : NanoIce) (slot : Nat) :
    (iceUnqueueCheck ice slot).localCandidates = ice.localCandidates ∧
      (iceUnqueueCheck ice slot).remoteCandidates = ice.remoteCandidates := by
  unfold iceUnqueueCheck
  dsimp only
  split <;> exact ⟨rfl, rfl⟩

/-- A slot leaves the queue, if it is in it, and is written. -/
theorem keeps_release {ice ice' : NanoIce} (h : CheckTable ice) {slot : Nat} {q : IcePending}
    (hset : ice'.pending = (iceUnqueueCheck ice slot).pending.set slot q)
    (hlocal : ice'.localCandidates = (iceUnqueueCheck ice slot).localCandidates)
    (hremote : ice'.remoteCandidates = (iceUnqueueCheck ice slot).remoteCandidates)
    (hq : q.flags.queued = false)
    (hpair : q.idle = false → q.localIdx < ice.localCandidates.length ∧
      q.remoteIdx < ice.remoteCandidates.length)
    (hmove : SlotMove ice (ice.pending.getD slot default) q) : Keeps ice ice' :=
  ⟨h.release slot hset (hlocal.trans (iceUnqueueCheck_candidates ice slot).1)
    (hremote.trans (iceUnqueueCheck_candidates ice slot).2) hq hpair, .release slot hset hmove⟩

/-- The slot of a check that goes out had the pair of the check, or nothing to lose. -/
theorem CheckOfSlot.move {ice : NanoIce} {check : IceCheck} {slot : Nat}
    (h : CheckOfSlot ice check slot) (txid : List UInt8) (nowMs : UInt32) :
    SlotMove ice (ice.pending.getD slot default)
      (iceCheckTransaction (ice.pending.getD slot default) check txid nowMs).launch := by
  obtain ⟨hl, hr, -, -⟩ := iceCheckTransaction_pair h txid nowMs
  rcases h.pair with ⟨hlocal, hremote, -⟩ | ⟨hidle, -⟩
  · refine .inr (.inl ⟨hr.trans hremote.symm, ?_⟩)
    show iceLocalBaseIdx ice (iceCheckTransaction _ check txid nowMs).localIdx = _
    rw [hl, hlocal]
  · unfold IcePending.idle at hidle
    rw [Bool.and_eq_true, beq_iff_eq, Bool.not_eq_true'] at hidle
    refine .inr (.inr ⟨hidle.1, fun hvalid => ?_⟩)
    rw [hidle.2] at hvalid
    exact nomatch hvalid

/-- **A check sent or given up** keeps the table. -/
theorem keeps_processCheck (crypto : CryptoProvider) {ice : NanoIce} (h : CheckTable ice)
    (nowMs : UInt32) (ready : Option (List Bool)) (random : Option (List UInt8)) (bufLen : Nat) :
    Keeps ice (iceProcessCheck crypto ice nowMs ready random bufLen).1 := by
  have hok := iceGetCheck_ok ice nowMs ready
  have hready := iceGetCheck_ready ice nowMs ready
  simp only [iceProcessCheck]
  revert hok hready
  generalize (iceGetCheck ice nowMs ready).1 = wait
  generalize (iceGetCheck ice nowMs ready).2 = check
  intro hok hready
  split
  · simp only [iceSendCheck]
    split
    · split
      · exact ⟨h.same rfl (Nat.le_refl _) (Nat.le_refl _), .same rfl⟩
      · exact keeps_release (q := .zero) h rfl rfl rfl rfl (fun h => by cases h) (.inl rfl)
    rename_i hexpire
    split
    · exact .refl h
    rename_i slot hslot
    split
    · exact .refl h
    split
    · exact .refl h
    split
    · exact .refl h
    split
    · exact .refl h
    · have hpair := hready (by rw [hslot]; rfl) (by simpa using hexpire)
      obtain ⟨hl, hr, -, -⟩ := iceCheckTransaction_pair (hok slot hslot) (random.getD []) nowMs
      refine keeps_release h rfl rfl rfl rfl (fun _ => ?_) ((hok slot hslot).move _ nowMs)
      show (iceCheckTransaction _ check _ nowMs).localIdx < _ ∧
        (iceCheckTransaction _ check _ nowMs).remoteIdx < _
      rw [hl, hr]
      exact ⟨icePairReady_local hpair, icePairReady_remote hpair⟩
  · exact .refl h

/-! ### The order of the queue -/

/-- The slot waits in the queue and its check can go out. -/
def Takeable (ice : NanoIce) (nowMs : UInt32) (ready : Option (List Bool)) (p : IcePending) : Prop :=
  p.flags.queued = true ∧ iceCheckExpired ice p nowMs = false ∧
    icePairReady ice p.localIdx p.remoteIdx ready = true

/-- While a queued check can go out, the check handed out is the first of the queue, unless one is
given up. -/
def TakesInOrder (ice : NanoIce) : Prop :=
  ∀ (nowMs : UInt32) (ready : Option (List Bool)) (slot : Nat),
    (iceGetCheck ice nowMs ready).2.slot = some slot →
    (iceGetCheck ice nowMs ready).2.expire = false →
    ∀ p ∈ ice.pending, Takeable ice nowMs ready p →
      (ice.pending.getD slot default).flags.queued = true ∧
        (ice.pending.getD slot default).sentAtMs ≤ p.sentAtMs

/-- What the scan has found is no later than the queued checks it has passed. -/
structure ScanFirst (ice : NanoIce) (nowMs : UInt32) (ready : Option (List Bool)) (pace : UInt32)
    (passed : List Nat) (scan : IceScan) : Prop where
  given : scan.check.expire = true → scan.best = 0
  paced : scan.check.expire = false → pace ≤ scan.best
  slot : ∀ s, scan.check.slot = some s → scan.check.retransmit = false →
    (ice.pending.getD s default).flags.queued = true
  none : scan.check.slot = none → scan.check.retransmit = false ∧ scan.best = 0xFFFFFFFF
  first : ∀ j ∈ passed, Takeable ice nowMs ready (ice.pending.getD j default) →
    scan.check.expire = true ∨ ∃ s, scan.check.slot = some s ∧ scan.best = pace ∧
      scan.check.retransmit = false ∧
      (ice.pending.getD s default).sentAtMs ≤ (ice.pending.getD j default).sentAtMs

/-- What is given up is given up at once. -/
theorem iceCheckDelay_expired {ice : NanoIce} {p : IcePending} {nowMs : UInt32} (pace : UInt32)
    (h : iceCheckExpired ice p nowMs = true) : iceCheckDelay p nowMs pace true = 0 := by
  unfold iceCheckDelay
  dsimp only
  rw [if_neg (fun hcon => nomatch hcon.1)]
  unfold iceCheckExpired at h
  cases hflight : p.inFlight with
  | false => rfl
  | true =>
    rw [hflight] at h
    simp only [Bool.true_and, Bool.not_true, Bool.false_and, Bool.or_false, decide_eq_true_eq] at h
    rw [if_pos rfl, if_neg]
    have hdue : iceRetryDelay p ≤ iceCheckTimeoutMs := by
      unfold iceRetryDelay
      dsimp only
      split
      · exact UInt32.le_refl _
      · rename_i hretry
        rw [not_or, Nat.not_lt] at hretry
        rw [UInt32.le_iff_toNat_le, UInt32.toNat_ofNat']
        exact Nat.le_trans (Nat.mod_le _ _) hretry.2
    rw [UInt32.not_lt]
    exact UInt32.le_trans hdue h

/-- Only an expiry ignores the pacing. -/
theorem iceCheckDelay_paced (p : IcePending) (nowMs pace : UInt32) :
    pace ≤ iceCheckDelay p nowMs pace false := by
  unfold iceCheckDelay
  dsimp only
  generalize (if p.inFlight = true then _ else 0 : UInt32) = delay
  by_cases hearly : delay < pace
  · rw [if_pos ⟨rfl, hearly⟩]
    exact UInt32.le_refl _
  · rw [if_neg fun hcon => hearly hcon.2]
    exact UInt32.not_lt.mp hearly

/-- A queued check waits for the pacing only. -/
theorem iceCheckDelay_queued {p : IcePending} (nowMs pace : UInt32) (h : p.inFlight = false) :
    iceCheckDelay p nowMs pace false = pace := by
  unfold iceCheckDelay
  dsimp only
  rw [h, if_neg (c := false = true) nofun]
  by_cases hearly : 0 < pace
  · rw [if_pos ⟨rfl, hearly⟩]
  · rw [if_neg fun hcon => hearly hcon.2]
    exact (UInt32.le_zero_iff.mp (UInt32.not_lt.mp hearly)).symm

theorem icePace_lt (ice : NanoIce) (nowMs : UInt32) : icePace ice nowMs < 0xFFFFFFFF := by
  unfold icePace
  split
  · unfold nanoTimeUntil
    split
    · decide
    · rename_i hdue
      unfold nanoTimeIsDue nanoTimeElapsed at hdue
      rw [decide_eq_true_eq, UInt32.le_iff_toNat_le, UInt32.toNat_sub] at hdue
      rw [UInt32.lt_iff_toNat_lt, UInt32.toNat_sub]
      have hnow := nowMs.toNat_lt
      have hnext := ice.nextCheckMs.toNat_lt
      have hlimit : (0x7FFFFFFF : UInt32).toNat = 0x7FFFFFFF := rfl
      have hmax : (0xFFFFFFFF : UInt32).toNat = 0xFFFFFFFF := rfl
      omega
  · decide

/-- **One turn of the scan** keeps the order of the queue. -/
theorem ScanFirst.turn {ice : NanoIce} (halone : ∀ p ∈ ice.pending, p.flags.queued = true →
      p.inFlight = false) {nowMs : UInt32} {ready : Option (List Bool)} {pace : UInt32}
    (hpace : pace < 0xFFFFFFFF) {passed : List Nat} {scan : IceScan}
    (h : ScanFirst ice nowMs ready pace passed scan) {i : Nat} (hi : i < ice.pending.length) :
    ScanFirst ice nowMs ready pace (passed ++ [i]) (iceScanSlot ice nowMs ready pace scan i) := by
  have hmem := getD_mem (d := (default : IcePending)) hi
  unfold iceScanSlot
  dsimp only
  generalize hp : ice.pending.getD i default = p at *
  -- the check found so far stays, and the slot has nothing to send
  have hskip {scan' : IceScan} (hcheck : scan'.check = scan.check) (hbest : scan'.best = scan.best)
      (hlast : Takeable ice nowMs ready p → scan.check.expire = true ∨ ∃ s,
        scan.check.slot = some s ∧ scan.best = pace ∧ scan.check.retransmit = false ∧
        (ice.pending.getD s default).sentAtMs ≤ p.sentAtMs) :
      ScanFirst ice nowMs ready pace (passed ++ [i]) scan' := by
    refine ⟨by rw [hcheck, hbest]; exact h.given, by rw [hcheck, hbest]; exact h.paced,
      by rw [hcheck]; exact h.slot, by rw [hcheck, hbest]; exact h.none, fun j hj htake => ?_⟩
    rw [hcheck, hbest]
    rcases List.mem_append.mp hj with hj | hj
    · exact h.first j hj htake
    · obtain rfl := List.mem_singleton.mp hj
      rw [hp] at htake ⊢
      exact hlast htake
  split
  · rename_i hidle
    rw [Bool.and_eq_true, Bool.not_eq_true', Bool.not_eq_true'] at hidle
    have hnone (htake : Takeable ice nowMs ready p) : False := nomatch hidle.2.symm.trans htake.1
    split
    · exact hskip rfl rfl fun htake => (hnone htake).elim
    · exact hskip rfl rfl fun htake => (hnone htake).elim
  rename_i hbusy
  split
  · rename_i hunready
    rw [Bool.and_eq_true, Bool.not_eq_true', Bool.not_eq_true'] at hunready
    exact hskip rfl rfl fun htake => nomatch hunready.2.symm.trans htake.2.2
  split
  · rename_i hbefore
    unfold iceCheckBefore at hbefore
    simp only [Bool.or_eq_true, Bool.and_eq_true, beq_iff_eq, decide_eq_true_eq,
      Bool.not_eq_true'] at hbefore
    have hdelay : iceCheckExpired ice p nowMs = false →
        pace ≤ iceCheckDelay p nowMs pace (iceCheckExpired ice p nowMs) := by
      intro hexpire
      rw [hexpire]
      exact iceCheckDelay_paced p nowMs pace
    refine ⟨fun hexpire => ?_, hdelay, fun s hs hagain => ?_, nofun, fun j hj htake => ?_⟩
    · dsimp only at hexpire ⊢
      rw [hexpire]
      exact iceCheckDelay_expired pace hexpire
    · obtain rfl := Option.some.inj hs
      rw [hp]
      have hagain : p.inFlight = false := hagain
      rw [hagain, Bool.not_false, Bool.true_and, Bool.not_eq_true', Bool.not_eq_false] at hbusy
      exact hbusy
    · dsimp only
      rcases Bool.eq_false_or_eq_true (iceCheckExpired ice p nowMs) with hexpire | hexpire
      · exact .inl hexpire
      right
      have hdelay := hdelay hexpire
      rw [hexpire] at hbefore hdelay ⊢
      refine ⟨i, rfl, ?_⟩
      rw [hp]
      rcases List.mem_append.mp hj with hj | hj
      · -- the slot goes before the first of those passed
        rcases h.first j hj htake with hgiven | ⟨s, hs, hbest, hagain, hplace⟩
        · rw [h.given hgiven, hgiven] at hbefore
          rcases hbefore with hlt | ⟨⟨⟨-, hcon⟩, -⟩, -⟩
          · exact absurd hlt (UInt32.not_lt.mpr UInt32.zero_le)
          · exact nomatch hcon
        · rw [hbest, hagain, hs] at hbefore
          rcases hbefore with hlt | ⟨⟨⟨hsame, -⟩, hqueued⟩, hbehind⟩
          · exact absurd hlt (UInt32.not_lt.mpr hdelay)
          · rcases hbehind with hcon | hlt
            · exact nomatch hcon
            · have hlt : p.sentAtMs < (ice.pending.getD s default).sentAtMs := by simpa using hlt
              exact ⟨hsame, halone p hmem hqueued, UInt32.le_trans (UInt32.le_of_lt hlt) hplace⟩
      · obtain rfl := List.mem_singleton.mp hj
        rw [hp] at htake ⊢
        have hflight := halone p hmem htake.1
        exact ⟨iceCheckDelay_queued nowMs pace hflight, hflight, UInt32.le_refl _⟩
  · rename_i hafter
    refine hskip rfl rfl fun htake => ?_
    rcases Bool.eq_false_or_eq_true scan.check.expire with hgiven | hgiven
    · exact .inl hgiven
    right
    obtain ⟨hqueued, hexpire, -⟩ := htake
    unfold iceCheckBefore at hafter
    rw [hexpire, iceCheckDelay_queued nowMs pace (halone p hmem hqueued), hgiven, hqueued] at hafter
    simp only [Bool.not_false, Bool.and_true, Bool.or_eq_true, Bool.and_eq_true, beq_iff_eq,
      decide_eq_true_eq, not_or, not_and] at hafter
    obtain ⟨hlate, hbehind⟩ := hafter
    have hbest : scan.best = pace :=
      UInt32.le_antisymm (UInt32.not_lt.mp hlate) (h.paced hgiven)
    obtain ⟨hagain, hbehind⟩ := hbehind hbest.symm
    rw [Bool.not_eq_true] at hagain
    cases hs : scan.check.slot with
    | none =>
      have hnone := (h.none hs).2
      rw [hbest] at hnone
      rw [hnone] at hpace
      exact absurd hpace (by decide)
    | some s =>
      rw [hs] at hbehind
      refine ⟨s, rfl, hbest, hagain, ?_⟩
      have hbehind : ¬ p.sentAtMs < (ice.pending.getD s default).sentAtMs := by simpa using hbehind
      exact UInt32.not_lt.mp hbehind

theorem ScanFirst.fold {ice : NanoIce} (halone : ∀ p ∈ ice.pending, p.flags.queued = true →
      p.inFlight = false) {nowMs : UInt32} {ready : Option (List Bool)} {pace : UInt32}
    (hpace : pace < 0xFFFFFFFF) {passed : List Nat} {scan : IceScan}
    (h : ScanFirst ice nowMs ready pace passed scan) (slots : List Nat)
    (hlt : ∀ i ∈ slots, i < ice.pending.length) :
    ScanFirst ice nowMs ready pace (passed ++ slots)
      (slots.foldl (iceScanSlot ice nowMs ready pace) scan) := by
  induction slots generalizing passed scan with
  | nil => rwa [List.append_nil]
  | cons i slots ih =>
    have hturn := h.turn halone hpace (hlt i List.mem_cons_self)
    have hrest := ih hturn fun j hj => hlt j (List.mem_cons_of_mem i hj)
    rwa [List.append_assoc] at hrest

/-- **Queued checks are taken in the order of the queue.** -/
theorem iceGetCheck_fifo {ice : NanoIce} (h : CheckTable ice) : TakesInOrder ice := by
  intro nowMs ready slot hslot hgiven p hp htake
  have hscan : ScanFirst ice nowMs ready (icePace ice nowMs) [] ⟨⟨none, 0, 0, false, false⟩,
      0xFFFFFFFF, none, false⟩ :=
    ⟨nofun, fun _ => UInt32.le_of_lt (icePace_lt ice nowMs), nofun, fun _ => ⟨rfl, rfl⟩, nofun⟩
  have hscan := hscan.fold h.alone (icePace_lt ice nowMs) (List.range iceMaxPendingChecks)
    fun i hi => by
      rw [h.size]
      exact List.mem_range.mp hi
  obtain ⟨j, hj, rfl⟩ := List.getElem_of_mem hp
  have htaken := And.intro hslot hgiven
  clear hslot hgiven
  unfold iceGetCheck at htaken
  dsimp only at htaken
  split at htaken
  · exact nomatch htaken.1
  split at htaken
  · exact nomatch htaken.1
  split at htaken
  · exact nomatch htaken.1
  revert hscan htaken
  generalize (List.range iceMaxPendingChecks).foldl
    (iceScanSlot ice nowMs ready (icePace ice nowMs)) _ = scan
  intro hscan htaken
  have hfirst := hscan.first j (List.mem_range.mpr (by rwa [← h.size]))
  rw [getD_eq_getElem hj] at hfirst
  -- the check handed out is the one found
  have hfound (htaken : scan.check.slot = some slot ∧ scan.check.expire = false) :
      (ice.pending.getD slot default).flags.queued = true ∧
        (ice.pending.getD slot default).sentAtMs ≤ ice.pending[j].sentAtMs := by
    rcases hfirst htake with hcon | ⟨s, hs, -, hagain, hplace⟩
    · exact nomatch htaken.2.symm.trans hcon
    · obtain rfl := Option.some.inj (htaken.1.symm.trans hs)
      exact ⟨hscan.slot slot hs hagain, hplace⟩
  split at htaken
  · exact hfound htaken
  rename_i hbest
  split at htaken
  · split at htaken
    · exact nomatch htaken.1
    · exact hfound htaken
  split at htaken
  · split at htaken
    · -- a new pair is not tried while a queued one is ready
      rename_i hpace
      rcases hfirst htake with hcon | ⟨s, hs, hsame, -, -⟩
      · exact absurd (hscan.given hcon) hbest
      · rw [hsame] at hpace
        exact absurd hpace (UInt32.lt_irrefl _)
    · exact hfound htaken
  · exact hfound htaken

/-! ### Runs -/

/-- The agent and the number of host candidates in the description. -/
structure CheckAgent where
  ice : NanoIce
  hosts : Nat

/-- What reaches the table of checks: an input of the agent, a candidate of either side, the base
of the reflexive candidate, what is negotiated, or a restart. -/
inductive TableInput where
  | agent (i : IceInput)
  | host (addr : NanortcAddr)
  | discovered (type : IceCandType) (addr : NanortcAddr)
  | base (idx : Nat)
  | remote (c : IceCandidate)
  | endOfCandidates
  | credentials (ufrag pwd remoteUfrag remotePwd : List UInt8)
  | role (isControlling : Bool) (tieBreaker : UInt64)
  | restart

/-- One step of the table. A host candidate goes to the index of the description. -/
def tableStep (crypto : CryptoProvider) (s : CheckAgent) : TableInput → CheckAgent
  | .agent i => { s with ice := iceStep crypto s.ice i }
  | .host addr =>
    if s.hosts ≥ maxLocalCandidates then s
    else ⟨iceAddHost s.ice s.hosts addr, s.hosts + 1⟩
  | .discovered type addr => { s with ice := iceAddLocal s.ice type addr }
  | .base idx => { s with ice := { s.ice with srflxBaseIdx := idx } }
  | .remote c => { s with ice := (iceAddRemote s.ice c).1 }
  | .endOfCandidates => { s with ice := { s.ice with endOfCandidates := true } }
  | .credentials ufrag pwd remoteUfrag remotePwd =>
    { s with
      ice := { s.ice with
        localUfrag := ufrag
        localPwd := pwd
        remoteUfrag := remoteUfrag
        remotePwd := remotePwd } }
  | .role isControlling tieBreaker =>
    { s with ice := { s.ice with isControlling := isControlling, tieBreaker := tieBreaker } }
  | .restart => { s with ice := iceRestart s.ice }

/-- What a step has to keep: the invariant of the table, the order of the queue and the slots. -/
def TableStays (crypto : CryptoProvider) (s : CheckAgent) (i : TableInput) : Prop :=
  TableSound (tableStep crypto s i).ice ∧ TakesInOrder (tableStep crypto s i).ice ∧
    TableMove s.ice (tableStep crypto s i).ice

/-- No request hands the slot of a successful pair over although one is empty, and no host candidate
cuts the table of candidates short of a check's. -/
def SparesPairs (crypto : CryptoProvider) (s : CheckAgent) : TableInput → Prop
  | .agent (.stun data src localIdx viaTurn respBufLen) =>
    ¬ RequestHandsOver crypto s.ice data src localIdx viaTurn respBufLen
  | .host _ => s.hosts < maxLocalCandidates →
    ∀ p ∈ s.ice.pending, p.idle = false → p.localIdx ≤ s.hosts
  | _ => True

instance (crypto : CryptoProvider) (s : CheckAgent) :
    ∀ i, Decidable (SparesPairs crypto s i)
  | .agent (.stun _ _ _ _ _) => inferInstanceAs (Decidable (¬ _))
  | .host _ => inferInstanceAs (Decidable (_ → ∀ p ∈ s.ice.pending, _))
  | .agent (.check _ _ _ _) | .agent (.consent _ _ _) | .agent (.deadlines _ _) | .discovered _ _
  | .base _ | .remote _ | .endOfCandidates | .credentials _ _ _ _ | .role _ _ | .restart =>
    inferInstanceAs (Decidable True)

/-- The table of an agent is sound and its host candidates are those of the description. -/
structure SoundAgent (s : CheckAgent) : Prop where
  table : CheckTable s.ice
  hosts : s.hosts ≤ s.ice.localCandidates.length

theorem iceAddRemote_keeps {ice : NanoIce} (h : CheckTable ice) (c : IceCandidate) :
    Keeps ice (iceAddRemote ice c).1 := by
  unfold iceAddRemote
  dsimp only
  split
  · refine ⟨h.same rfl (Nat.le_refl _) ?_, .same rfl⟩
    exact Nat.le_of_eq List.length_set.symm
  split
  · exact .refl h
  · refine ⟨h.same rfl (Nat.le_refl _) ?_, .same rfl⟩
    rw [List.length_append]
    exact Nat.le_add_right _ _

theorem iceAddRemote_local (ice : NanoIce) (c : IceCandidate) :
    (iceAddRemote ice c).1.localCandidates = ice.localCandidates := by
  unfold iceAddRemote
  dsimp only
  split
  · rfl
  split <;> rfl

theorem iceAddLocal_keeps {ice : NanoIce} (h : CheckTable ice) (type : IceCandType)
    (addr : NanortcAddr) : Keeps ice (iceAddLocal ice type addr) := by
  have hlen := (iceAddLocal_extends ice type addr).length_le
  have hrest : (iceAddLocal ice type addr).pending = ice.pending ∧
      (iceAddLocal ice type addr).remoteCandidates = ice.remoteCandidates := by
    unfold iceAddLocal
    split <;> exact ⟨rfl, rfl⟩
  exact ⟨h.same hrest.1 hlen (by rw [hrest.2]), .same hrest.1⟩

/-- The slots of a fresh table are empty. -/
theorem keeps_restart (ice : NanoIce) : Keeps ice (iceRestart ice) := by
  have hfresh := CheckTable.start ice.isControlling
  refine ⟨⟨⟨hfresh.alone, hfresh.order, fun p hp hidle => ?_⟩, hfresh.size, hfresh.marked⟩,
    fun i p q _ hq => .inl ?_⟩
  · obtain rfl := List.eq_of_mem_replicate hp
    exact nomatch hidle
  · obtain rfl := List.eq_of_mem_replicate (List.mem_of_getElem? hq)
    rfl

theorem length_iceAddHost {ice : NanoIce} {idx : Nat} (h : idx ≤ ice.localCandidates.length)
    (addr : NanortcAddr) : (iceAddHost ice idx addr).localCandidates.length = idx + 1 := by
  show (ice.localCandidates.take idx ++ [_]).length = _
  rw [List.length_append, List.length_take, Nat.min_eq_left h]
  rfl

theorem tableStep_full (crypto : CryptoProvider) {s : CheckAgent} {addr : NanortcAddr}
    (h : s.hosts ≥ maxLocalCandidates) : tableStep crypto s (.host addr) = s := if_pos h

theorem tableStep_host (crypto : CryptoProvider) {s : CheckAgent} {addr : NanortcAddr}
    (h : s.hosts < maxLocalCandidates) :
    tableStep crypto s (.host addr) = ⟨iceAddHost s.ice s.hosts addr, s.hosts + 1⟩ :=
  if_neg (Nat.not_le.mpr h)

/-- **An input that spares the pairs** keeps the table. -/
theorem keeps_tableStep (crypto : CryptoProvider) {s : CheckAgent} (h : SoundAgent s)
    {i : TableInput} (hspare : SparesPairs crypto s i) : Keeps s.ice (tableStep crypto s i).ice := by
  cases i with
  | agent i =>
    cases i with
    | stun data src localIdx viaTurn respBufLen => exact keeps_handleStun crypto h.table hspare
    | check nowMs ready random bufLen =>
      exact keeps_processCheck crypto h.table nowMs ready random bufLen
    | consent nowMs random bufLen =>
      obtain ⟨hsame, hpending⟩ : SameAgent s.ice
          (iceProcessConsent crypto s.ice nowMs random bufLen).1 ∧
          (iceProcessConsent crypto s.ice nowMs random bufLen).1.pending = s.ice.pending := by
        unfold iceProcessConsent
        split
        · split
          · exact ⟨⟨rfl, rfl, rfl, rfl, rfl, rfl, rfl, List.prefix_rfl⟩, rfl⟩
          split
          · obtain ⟨hsame, hpending, -⟩ :=
              iceGenerateConsent_frame crypto s.ice nowMs random bufLen
            exact ⟨hsame, hpending⟩
          · exact ⟨.refl _, rfl⟩
        · exact ⟨.refl _, rfl⟩
      exact ⟨h.table.same hpending (Nat.le_of_eq (congrArg _ hsame.localCandidates.symm))
        hsame.remoteCandidates.length_le, .same hpending⟩
    | deadlines nextMs expiryMs =>
      exact ⟨h.table.same rfl (Nat.le_refl _) (Nat.le_refl _), .same rfl⟩
  | host addr =>
    by_cases hroom : s.hosts ≥ maxLocalCandidates
    · rw [tableStep_full crypto hroom]
      exact .refl h.table
    · rw [tableStep_host crypto (Nat.not_le.mp hroom)]
      have hlen := length_iceAddHost h.hosts addr
      refine ⟨⟨⟨h.table.alone, h.table.order, fun p hp hidle => ⟨?_, ?_⟩⟩, h.table.size,
        h.table.marked⟩, .same rfl⟩
      · rw [hlen]
        exact Nat.lt_succ_of_le (hspare (Nat.not_le.mp hroom) p hp hidle)
      · exact (h.table.pairs p hp hidle).2
  | discovered type addr => exact iceAddLocal_keeps h.table type addr
  | remote c => exact iceAddRemote_keeps h.table c
  | restart => exact keeps_restart s.ice
  | base idx => exact ⟨h.table.same rfl (Nat.le_refl _) (Nat.le_refl _), .same rfl⟩
  | endOfCandidates => exact ⟨h.table.same rfl (Nat.le_refl _) (Nat.le_refl _), .same rfl⟩
  | credentials => exact ⟨h.table.same rfl (Nat.le_refl _) (Nat.le_refl _), .same rfl⟩
  | role => exact ⟨h.table.same rfl (Nat.le_refl _) (Nat.le_refl _), .same rfl⟩

/-- No input loses a host candidate of the description. -/
theorem hosts_tableStep (crypto : CryptoProvider) {s : CheckAgent} (h : SoundAgent s)
    (i : TableInput) :
    (tableStep crypto s i).hosts ≤ (tableStep crypto s i).ice.localCandidates.length := by
  cases i with
  | agent i =>
    show s.hosts ≤ (iceStep crypto s.ice i).localCandidates.length
    rw [(iceStep_effect crypto s.ice i).same.localCandidates]
    exact h.hosts
  | host addr =>
    by_cases hroom : s.hosts ≥ maxLocalCandidates
    · rw [tableStep_full crypto hroom]
      exact h.hosts
    · rw [tableStep_host crypto (Nat.not_le.mp hroom)]
      exact Nat.le_of_eq (length_iceAddHost h.hosts addr).symm
  | discovered type addr =>
    exact Nat.le_trans h.hosts (iceAddLocal_extends s.ice type addr).length_le
  | remote c =>
    show s.hosts ≤ (iceAddRemote s.ice c).1.localCandidates.length
    rw [iceAddRemote_local]
    exact h.hosts
  | restart => exact h.hosts
  | base => exact h.hosts
  | endOfCandidates => exact h.hosts
  | credentials => exact h.hosts
  | role => exact h.hosts

/-- An input that does not spare the pairs breaks the table. -/
theorem breaks_tableStep (crypto : CryptoProvider) {s : CheckAgent} (h : SoundAgent s)
    {i : TableInput} (hstays : TableStays crypto s i) : SparesPairs crypto s i := by
  obtain ⟨hsound, -, hmove⟩ := hstays
  cases i with
  | agent i =>
    cases i with
    | stun data src localIdx viaTurn respBufLen =>
      intro hcon
      unfold RequestHandsOver at hcon
      split at hcon
      · exact hcon
      rename_i msg hparse
      obtain ⟨htype, hauth, huser, hfamily, hanswer, hover⟩ := hcon
      have hstep : (tableStep crypto s (.agent (.stun data src localIdx viaTurn respBufLen))).ice =
          (iceTriggerCheck s.ice (iceResolveLocal s.ice src localIdx viaTurn) src
            (msg.useCandidate && !s.ice.isControlling)).1 := by
        rw [← iceHandleRequest_answered localIdx viaTurn hauth huser hfamily hanswer]
        show (iceHandleStun crypto s.ice data src localIdx viaTurn respBufLen).1 = _
        unfold iceHandleStun
        rw [hparse]
        dsimp only
        rw [if_pos htype]
      rw [hstep] at hmove
      exact hover.breaks _ hmove
    | check => trivial
    | consent => trivial
    | deadlines => trivial
  | host addr =>
    intro hroom p hp hidle
    rw [tableStep_host crypto hroom] at hsound
    have hlt := (hsound.pairs p hp hidle).1
    rw [length_iceAddHost h.hosts] at hlt
    exact Nat.le_of_lt_succ hlt
  | discovered => trivial
  | remote => trivial
  | restart => trivial
  | base => trivial
  | endOfCandidates => trivial
  | credentials => trivial
  | role => trivial

theorem tableStays_iff (crypto : CryptoProvider) {s : CheckAgent} (h : SoundAgent s)
    (is : List TableInput) : AllSteps (tableStep crypto) s (TableStays crypto) is ↔
      AllSteps (tableStep crypto) s (SparesPairs crypto) is := by
  refine allSteps_iff (P := SoundAgent) (fun s i h => ⟨breaks_tableStep crypto h, fun hspare => ?_⟩)
    (fun s i hspare h => ⟨(keeps_tableStep crypto h hspare).table, hosts_tableStep crypto h i⟩) h is
  have hkeeps := keeps_tableStep crypto h hspare
  exact ⟨hkeeps.table.toTableSound, iceGetCheck_fifo hkeeps.table, hkeeps.move⟩

theorem SoundAgent.start (isControlling : Bool) : SoundAgent ⟨iceInit isControlling, 0⟩ :=
  ⟨.start isControlling, Nat.zero_le _⟩

/-- **The table of checks over a run**: it stays sound, its queue is served in order and no pair
loses its slot to another one exactly as long as every input spares the pairs. -/
theorem checkTable_stays_iff (crypto : CryptoProvider) (isControlling : Bool)
    (is : List TableInput) :
    AllSteps (tableStep crypto) ⟨iceInit isControlling, 0⟩ (TableStays crypto) is ↔
      AllSteps (tableStep crypto) ⟨iceInit isControlling, 0⟩ (SparesPairs crypto) is :=
  tableStays_iff crypto (.start isControlling) is

/-- A check is answered, and a request comes from an address that was not known: it takes the slot
of the successful pair, though three slots are empty. -/
def demoTakeover : List TableInput :=
  [.credentials [0x61] [0x62] [0x63] [0x64], .host ⟨4, demoAddr 1, 1000⟩,
    .remote ⟨demoAddr 2, 2000, 4, .host⟩, .agent (demoCheck 1 1), .agent (demoResponse 1 2),
    .agent (demoRequest 7 3)]

theorem checkTable_takeover :
    ¬ AllSteps (tableStep .checksum) ⟨iceInit false, 0⟩ (TableStays .checksum) demoTakeover := by
  rw [tableStays_iff .checksum (.start false)]
  decide +kernel

end Nanortc.Spec
