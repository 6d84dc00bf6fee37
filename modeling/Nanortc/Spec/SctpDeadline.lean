import Nanortc.Spec.SctpExpiry

/-!
# Deadlines of an association

`nsctp_next_timeout_ms` tells when `nsctp_handle_timeout` has something to do. The two walk the send
queue by loops of their own. They agree on what is not due yet; of what is due,
`nsctp_next_timeout_ms` passes over a HEARTBEAT that is under way, but not over a FORWARD TSN that
waits to be polled already.

## Key results

- `nsctpHandleTimeout_before`: before the deadline only the clock changes
- `TimeoutActs.of_entry`, `TimeoutActs.of_heartbeat`, `TimeoutActs.of_forward`: a call that finds
  something due changes the association
- `timer_agreement_iff`: when the deadline is one for the handler
-/

namespace Nanortc.Spec

open Nanortc.ForStd Nanortc.Native

/-- The handler did something, or reported an error. -/
def TimeoutActs (s : NanoSctp) (nowMs : UInt32) (r : NanoSctp × Rc) : Prop :=
  r.1 ≠ { s with nowMs := nowMs } ∨ r.2 ≠ .ok

/-- **The deadline is one for the handler.** At a deadline that is over the handler acts, unless the
output queue is full; before the deadline it changes nothing but the clock. -/
structure TimerAgrees (s : NanoSctp) (nowMs : UInt32) : Prop where
  due : nsctpNextTimeoutMs s nowMs = 0 → nsctpOutFull s = false →
    ∀ random, TimeoutActs s nowMs (nsctpHandleTimeout s nowMs random)
  early : ∀ d < nsctpNextTimeoutMs s nowMs, ∀ random,
    nsctpHandleTimeout s (nowMs + d) random = ({ s with nowMs := nowMs + d }, .ok)

/-- A HEARTBEAT is to be sent. -/
def HeartbeatDue (s : NanoSctp) (nowMs : UInt32) : Prop :=
  s.heartbeatPending = false ∧
    nanoTimeElapsed nowMs s.lastHeartbeatMs ≥ sctpHeartbeatIntervalMs

/-- All that is due is a FORWARD TSN that waits to be polled already. -/
structure ForwardStuck (s : NanoSctp) (nowMs : UInt32) : Prop where
  room : nsctpOutFull s = false
  pending : s.forwardPending = true
  head : (s.sendQueue.headD default).abandoned = true
  expired : nanoTimeElapsed nowMs s.forwardSentAtMs ≥ s.rtoMs
  entries : ∀ e ∈ s.sendQueue, ¬EntryDue nowMs s.rtoMs e
  heartbeat : ¬HeartbeatDue s nowMs

/-! ### Before the deadline -/

section

variable {s : NanoSctp} (harmed : Armed s) (hstate : s.state = .established)

theorem nsctpForwardAgain_idle {s : NanoSctp} {nowMs : UInt32}
    (h : ¬(nanoTimeElapsed nowMs s.forwardSentAtMs ≥ s.rtoMs ∧
      (s.sendQueue.takeWhile fun e => e.acked || e.abandoned).any (·.abandoned) = true)) :
    nsctpForwardAgain s nowMs = s := by
  unfold nsctpForwardAgain
  dsimp only
  rw [if_neg h]

theorem nsctpSendHeartbeat_idle {s : NanoSctp} {nowMs : UInt32} (h : ¬HeartbeatDue s nowMs)
    (random : Option (List UInt8)) : nsctpSendHeartbeat s nowMs random = (s, .ok) := by
  unfold nsctpSendHeartbeat
  rw [if_neg]
  intro hdue
  exact h ⟨by simpa using hdue.1, hdue.2.1⟩

include hstate in
/-- The handler finds nothing of the send queue due. -/
theorem nsctpHandleTimeout_idle {nowMs : UInt32}
    (hidle : nsctpRetransmit nowMs s.sendQueue.length 0 { s with nowMs := nowMs } =
      ({ s with nowMs := nowMs }, true)) (random : Option (List UInt8)) :
    nsctpHandleTimeout s nowMs random =
      nsctpSendHeartbeat (nsctpForwardAgain { s with nowMs := nowMs } nowMs) nowMs random := by
  rw [nsctpHandleTimeout_established hstate, hidle]

include harmed hstate in
/-- **Before the deadline only the clock changes.** -/
theorem nsctpHandleTimeout_before {nowMs d : UInt32} (hd : d < nsctpNextTimeoutMs s nowMs)
    (random : Option (List UInt8)) :
    nsctpHandleTimeout s (nowMs + d) random = ({ s with nowMs := nowMs + d }, .ok) := by
  obtain ⟨hidle, hforward⟩ := @nsctpHandleTimeout_early s harmed nowMs d
    fun e he left hleft => Std.lt_of_lt_of_le hd (nsctpNextTimeoutMs_le hstate he hleft)
  have hagain : nsctpForwardAgain { s with nowMs := nowMs + d } (nowMs + d) =
      { s with nowMs := nowMs + d } := nsctpForwardAgain_idle hforward
  rw [nsctpHandleTimeout_idle hstate hidle, hagain]
  apply nsctpSendHeartbeat_idle
  rintro ⟨hpending, hover⟩
  have hbound : nsctpNextTimeoutMs s nowMs ≤ heartbeatLeft s nowMs := by
    rw [nsctpNextTimeoutMs_established hstate]
    rw [if_neg (by rw [show s.heartbeatPending = false from hpending]; nofun)]
    exact Std.min_le_right
  exact absurd hover (UInt32.not_le.mpr (timeLeft_early (Std.lt_of_lt_of_le hd hbound)))

end

/-! ### At the deadline -/

/-- A failed association stays as it is. -/
theorem nsctpScan_failed_mono {nowMs : UInt32} {s : NanoSctp} {n m : Nat} (hnm : n ≤ m)
    (h : (nsctpScan nowMs s n).2 = false) : nsctpScan nowMs s m = nsctpScan nowMs s n := by
  induction m with
  | zero =>
    rw [Nat.le_zero.mp hnm]
  | succ m ih =>
    by_cases heq : n = m + 1
    · rw [heq]
    · have hm := ih (by omega)
      show nsctpRetransmitTurn nowMs (nsctpScan nowMs s m) m = _
      rw [hm, nsctpRetransmitTurn_failed nowMs h]

/-- **An entry that is due is marked or abandoned, or the association fails.** The first one that is
due finds the timeout at its start. -/
theorem nsctpScan_changes {nowMs : UInt32} {s : NanoSctp} (hrto : RtoInRange s)
    (hshape : QueueShape s.sendQueue) (h : ∃ j, HasExpired s nowMs j) :
    (nsctpScan nowMs s s.sendQueue.length).2 = false ∨
      ∃ j, HasExpired s nowMs j ∧
        ((entryAt (nsctpScan nowMs s s.sendQueue.length).1 j).inFlight = false ∨
          (entryAt (nsctpScan nowMs s s.sendQueue.length).1 j).abandoned = true) := by
  obtain ⟨j, hj, hleast⟩ : ∃ j, HasExpired s nowMs j ∧ ∀ k < j, ¬HasExpired s nowMs k := by
    classical
    exact ⟨Nat.find h, Nat.find_spec h, fun k => Nat.find_min h⟩
  have hquiet (n : Nat) (hn : n ≤ j) : (nsctpScan nowMs s n).2 = true ∧
      (nsctpScan nowMs s n).1.rtoMs = s.rtoMs := by
    refine ⟨?_, ?_⟩
    · by_contra hfail
      obtain ⟨k, hk, hdue, -⟩ := nsctpScan_failed nowMs s (Bool.eq_false_iff.mpr hfail)
      exact hleast k (by omega) (hdue.expired hrto).1
    · induction n with
      | zero => rfl
      | succ n ih =>
        rw [(nsctpScan_rto_succ nowMs s n).2 fun hm => hleast n (by omega) (hm.1.expired hrto).1]
        exact ih (by omega)
  obtain ⟨hrun, hstart⟩ := hquiet j (Nat.le_refl j)
  have hover : (nsctpScan nowMs s j).1.rtoMs ≤ nanoTimeElapsed nowMs (entryAt s j).sentAtMs := by
    rw [hstart]
    exact hj.2.2.2.2
  by_cases hfails : DueAt nowMs s j ∧ ¬SendEntry.spent (entryAt s j) ∧
      SendEntry.exhausted (entryAt s j)
  · obtain ⟨hdue, hspent, hexhausted⟩ := hfails
    have hturn : (nsctpScan nowMs s (j + 1)).2 = false := by
      show (nsctpRetransmitTurn nowMs (nsctpScan nowMs s j) j).2 = false
      unfold nsctpRetransmitTurn
      rw [if_pos ⟨hdue.1, hdue.2⟩, if_neg (hdue.counts.1.not.mpr hspent),
        if_pos (hdue.counts.2.mpr hexhausted)]
    refine .inl ?_
    rw [nsctpScan_failed_mono hj.1 hturn]
    exact hturn
  · refine .inr ⟨j, hj, ?_⟩
    by_cases hspent : SendEntry.spent (entryAt s j)
    · exact .inr (nsctpScan_abandons hshape hj hspent (OfMessage.self hshape.delimited.marked hj.1)
        hj.1 hj.1 hrun hover)
    · cases hj.due hrun hover with
      | inl hdue =>
        have hmarked : MarkedAt nowMs s j := ⟨hdue, hspent, fun hex => hfails ⟨hdue, hspent, hex⟩⟩
        exact .inl (congrArg SendEntry.inFlight
          ((nsctpScan_kept nowMs s hj.1 s.sendQueue.length).2 hj.1 hmarked))
      | inr habandoned =>
        exact .inr (nsctpScan_abandoned_mono nowMs s hj.1 (Nat.le_of_lt hj.1) habandoned)

theorem hasExpired_of_mem {s : NanoSctp} {nowMs : UInt32} {e : SendEntry} (he : e ∈ s.sendQueue)
    (hdue : EntryDue nowMs s.rtoMs e) : ∃ j, HasExpired s nowMs j := by
  obtain ⟨j, hj, rfl⟩ := List.getElem_of_mem he
  refine ⟨j, hj, ?_⟩
  rw [show entryAt s j = _ from List.getD_eq_getElem s.sendQueue default hj]
  exact hdue

section

variable {s : NanoSctp} (hstate : s.state = .established) {nowMs : UInt32}
include hstate

/-- An entry that is due makes the handler act. -/
theorem TimeoutActs.of_entry (hrto : RtoInRange s) (hshape : QueueShape s.sendQueue)
    (h : ∃ j, HasExpired s nowMs j) (random : Option (List UInt8)) :
    TimeoutActs s nowMs (nsctpHandleTimeout s nowMs random) := by
  have hscan := nsctpRetransmit_scan nowMs { s with nowMs := nowMs } s.sendQueue.length 0 rfl
  rw [Nat.zero_add] at hscan
  cases nsctpScan_changes (s := { s with nowMs := nowMs }) ⟨hrto.low, hrto.high⟩ hshape h with
  | inl hfail =>
    refine .inr ?_
    rw [nsctpHandleTimeout_established hstate,
      show nsctpRetransmit nowMs s.sendQueue.length 0 { s with nowMs := nowMs } = _ from hscan]
    have hfail : (nsctpScan nowMs { s with nowMs := nowMs } s.sendQueue.length).2 = false := hfail
    revert hfail
    generalize nsctpScan nowMs { s with nowMs := nowMs } s.sendQueue.length = r
    obtain ⟨t, ok⟩ := r
    rintro rfl
    nofun
  | inr hchanged =>
    obtain ⟨j, hj, hentry⟩ := hchanged
    refine .inl fun heq => ?_
    -- the entry was in flight and not abandoned
    have hqueue := (nsctpHandleTimeout_scan hstate nowMs random).1
    rw [heq] at hqueue
    have hsame : entryAt s j =
        entryAt (nsctpScan nowMs { s with nowMs := nowMs } s.sendQueue.length).1 j :=
      congrArg (·.getD j default) hqueue
    cases hentry with
    | inl hflight => exact absurd (hj.2.1.symm.trans ((congrArg _ hsame).trans hflight)) nofun
    | inr habandoned =>
      have hnot := hj.2.2.2.1
      rw [show (entryAt s j).abandoned = true from (congrArg _ hsame).trans habandoned] at hnot
      nomatch hnot

variable (hnone : ∀ e ∈ s.sendQueue, ¬EntryDue nowMs s.rtoMs e)
include hnone

theorem nsctpHandleTimeout_quiet (random : Option (List UInt8)) :
    nsctpHandleTimeout s nowMs random =
      nsctpSendHeartbeat (nsctpForwardAgain { s with nowMs := nowMs } nowMs) nowMs random :=
  nsctpHandleTimeout_idle hstate
    (nsctpRetransmit_idle nowMs _ 0 { s with nowMs := nowMs } hnone (Nat.zero_add _)) random

/-- A HEARTBEAT that is due makes the handler act. -/
theorem TimeoutActs.of_heartbeat (hdue : HeartbeatDue s nowMs) (hroom : nsctpOutFull s = false)
    (random : Option (List UInt8)) : TimeoutActs s nowMs (nsctpHandleTimeout s nowMs random) := by
  rw [nsctpHandleTimeout_quiet hstate hnone]
  have hforward (t : NanoSctp) (ht : HeartbeatDue t nowMs ∧ nsctpOutFull t = false) :
      HeartbeatDue (nsctpForwardAgain t nowMs) nowMs ∧
        nsctpOutFull (nsctpForwardAgain t nowMs) = false := by
    unfold nsctpForwardAgain
    dsimp only
    split <;> exact ht
  obtain ⟨hdue', hroom'⟩ := hforward { s with nowMs := nowMs } ⟨hdue, hroom⟩
  generalize nsctpForwardAgain { s with nowMs := nowMs } nowMs = t at hdue' hroom'
  unfold nsctpSendHeartbeat
  rw [if_pos ⟨by rw [hdue'.1]; rfl, hdue'.2, by rw [hroom']; rfl⟩]
  cases random with
  | none => exact .inr nofun
  | some nonce =>
    refine .inl fun heq => ?_
    have hpending := congrArg NanoSctp.heartbeatPending heq
    exact absurd (hpending.trans hdue.1) nofun

/-- A FORWARD TSN that is due and does not wait yet makes the handler act. -/
theorem TimeoutActs.of_forward (harmed : Armed s)
    (hhead : (s.sendQueue.headD default).abandoned = true)
    (hover : nanoTimeElapsed nowMs s.forwardSentAtMs ≥ s.rtoMs) (hidle : s.forwardPending = false)
    (random : Option (List UInt8)) : TimeoutActs s nowMs (nsctpHandleTimeout s nowMs random) := by
  rw [nsctpHandleTimeout_quiet hstate hnone]
  have hagain : nsctpForwardAgain { s with nowMs := nowMs } nowMs =
      { s with nowMs := nowMs, forwardPending := true } :=
    if_pos ⟨hover, harmed.passed_abandoned.trans hhead⟩
  have hkept (t : NanoSctp) :
      (nsctpSendHeartbeat t nowMs random).1.forwardPending = t.forwardPending := by
    unfold nsctpSendHeartbeat
    split
    · split
      · rfl
      · exact (nsctpQueueOutput_sending t t.remoteVtag _).forwardPending
    · rfl
  refine .inl fun heq => ?_
  have hpending := congrArg NanoSctp.forwardPending heq
  rw [hagain, hkept] at hpending
  exact absurd (hpending.trans hidle) nofun

end

/-! ### Agreement -/

/-- A FORWARD TSN that waits to be polled already is due over and over. -/
theorem ForwardStuck.disagrees {s : NanoSctp} {nowMs : UInt32} (hstuck : ForwardStuck s nowMs)
    (harmed : Armed s) (hstate : s.state = .established) : ¬TimerAgrees s nowMs := by
  intro h
  -- the head of the queue has no time left
  have hzero : nsctpNextTimeoutMs s nowMs = 0 := by
    cases hq : s.sendQueue with
    | nil => exact nomatch hq ▸ hstuck.head
    | cons e es =>
      have hhead := hstuck.head
      rw [hq, List.headD_cons] at hhead
      have hleft : nsctpEntryTimeout s nowMs e = some 0 := by
        unfold nsctpEntryTimeout
        rw [hhead, harmed.head e (by rw [hq]; rfl), hq, List.headD_cons, hhead]
        show some (timeLeft nowMs s.forwardSentAtMs s.rtoMs) = some 0
        unfold timeLeft
        rw [if_pos (show nowMs - s.forwardSentAtMs ≥ s.rtoMs from hstuck.expired)]
      have hle := nsctpNextTimeoutMs_le hstate (by rw [hq]; exact List.mem_cons_self) hleft
      exact UInt32.le_antisymm hle UInt32.zero_le
  -- and the handler finds its FORWARD TSN waiting
  have hagain : nsctpForwardAgain { s with nowMs := nowMs } nowMs = { s with nowMs := nowMs } := by
    have hset : ({ s with nowMs := nowMs, forwardPending := true } : NanoSctp) =
        { s with nowMs := nowMs } := by rw [← hstuck.pending]
    exact (if_pos ⟨hstuck.expired, harmed.passed_abandoned.trans hstuck.head⟩).trans hset
  have hacts := h.due hzero hstuck.room none
  rw [nsctpHandleTimeout_quiet hstate hstuck.entries, hagain,
    nsctpSendHeartbeat_idle (s := { s with nowMs := nowMs }) hstuck.heartbeat] at hacts
  exact hacts.elim (fun h => h rfl) fun h => h rfl

/-- **When the deadline is one for the handler.** In every established association that a run leads
to, and at every time, the deadline and the handler agree exactly when what is due is not a FORWARD
TSN alone that waits to be polled already. -/
theorem timer_agreement_iff (is : List SctpInput) (nowMs : UInt32) :
    let s := run sctpStep nsctpInit is
    s.state = .established → (TimerAgrees s nowMs ↔ ¬ForwardStuck s nowMs) := by
  intro s hstate
  have harmed : Armed s := armed_run is
  have hshape : QueueShape s.sendQueue := queueShape_run is
  have hrto : RtoInRange s := rtoInRange_run is
  constructor
  · exact fun h hstuck => hstuck.disagrees harmed hstate h
  · intro hstuck
    refine ⟨fun hzero hroom random => ?_, fun d hd random =>
      nsctpHandleTimeout_before harmed hstate hd random⟩
    by_cases hentry : ∃ e ∈ s.sendQueue, EntryDue nowMs s.rtoMs e
    · obtain ⟨e, he, hdue⟩ := hentry
      exact .of_entry hstate hrto hshape (hasExpired_of_mem he hdue) random
    have hnone : ∀ e ∈ s.sendQueue, ¬EntryDue nowMs s.rtoMs e := fun e he hdue => hentry ⟨e, he, hdue⟩
    by_cases hbeat : HeartbeatDue s nowMs
    · exact .of_heartbeat hstate hnone hbeat hroom random
    -- neither an entry nor the heartbeat: the deadline is that of the FORWARD TSN
    rcases nsctpNextTimeoutMs_cases hstate nowMs with hmax | ⟨hidle, hleft⟩ | ⟨e, he, hleft⟩
    · exact absurd (hmax.symm.trans hzero) (by decide)
    · exact absurd ⟨hidle, timeLeft_zero (hleft.symm.trans hzero)⟩ hbeat
    · rw [hzero] at hleft
      rcases nsctpEntryTimeout_some hleft with ⟨hforward, hhead⟩ | ⟨hflight, hin, hacked, habandoned⟩
      · have hover : nanoTimeElapsed nowMs s.forwardSentAtMs ≥ s.rtoMs :=
          timeLeft_zero hforward.symm
        cases hpending : s.forwardPending with
        | true => exact absurd ⟨hroom, hpending, hhead, hover, hnone, hbeat⟩ hstuck
        | false => exact .of_forward hstate hnone harmed hhead hover hpending random
      · refine absurd ⟨hin, ?_, ?_, timeLeft_zero hflight.symm⟩ (hnone e he)
        · rw [hacked]; rfl
        · rw [habandoned]; rfl

/-- A message that is not to be sent again, and no answer to it. -/
def demoUnreliable : List SctpInput :=
  demoHandshake ++ [.pollOutput 1200, .pollOutput 1200, .send 1 51 [65] false 0,
    .pollOutput 1200, .timeout 1000 none]

/-- The message is abandoned and its FORWARD TSN waits: the deadline is over, for nothing. -/
theorem deadline_over_for_nothing :
    let s := run sctpStep nsctpInit demoUnreliable
    s.state = .established ∧ ¬TimerAgrees s 1000 := by
  have hstate : (run sctpStep nsctpInit demoUnreliable).state = .established := by decide +kernel
  refine ⟨hstate, ForwardStuck.disagrees ?_ (armed_run demoUnreliable) hstate⟩
  exact ⟨by decide +kernel, by decide +kernel, by decide +kernel, by decide +kernel,
    by decide +kernel, fun h => absurd h.2 (by decide +kernel)⟩

/-- Before the message is sent the deadline is one for the handler. -/
theorem timer_agreement_demo :
    let s := run sctpStep nsctpInit demoUnanswered
    s.state = .established ∧ (TimerAgrees s 500 ↔ ¬ForwardStuck s 500) :=
  have hstate : (run sctpStep nsctpInit demoUnanswered).state = .established := by decide +kernel
  ⟨hstate, timer_agreement_iff demoUnanswered 500 hstate⟩

end Nanortc.Spec
