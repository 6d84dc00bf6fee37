import Mathlib
import Nanortc.ForStd.Timer
import Nanortc.Spec.SctpRun

/-!
# Timers of an association

What is armed while an association waits for its peer, and what its timeout handler does at the
deadline. Only an established association with data in its send queue is sure of an answer: the
handshake has no timer, and a HEARTBEAT without an answer is never repeated.

## Key results

- `nsctpHandleTimeout_recovers`: at the deadline data is sent again or the association fails
- `timeout_recovers_iff`: in which waiting states the timers recover
-/

namespace Nanortc.Spec

open Nanortc.ForStd Nanortc.Native

/-! ### What the timers rest on -/

/-- The send queue begins with an entry that is not acknowledged, and the retransmission timeout
is bounded. -/
structure Armed (s : NanoSctp) : Prop where
  rto : s.rtoMs ≤ sctpRtoMaxMs
  head : ∀ e, s.sendQueue.head? = some e → e.acked = false

/-- The acknowledgements of the send queue stay, and the retransmission timeout within its bound. -/
structure KeepsAcks (s s' : NanoSctp) : Prop where
  acks : s'.sendQueue.map (·.acked) = s.sendQueue.map (·.acked)
  rto : s'.rtoMs = s.rtoMs ∨ s'.rtoMs ≤ sctpRtoMaxMs

theorem KeepsAcks.refl (s : NanoSctp) : KeepsAcks s s := ⟨rfl, .inl rfl⟩

theorem KeepsAcks.trans {s s' s'' : NanoSctp} (h : KeepsAcks s s') (h' : KeepsAcks s' s'') :
    KeepsAcks s s'' := by
  refine ⟨h'.acks.trans h.acks, ?_⟩
  cases h'.rto with
  | inl heq => exact heq ▸ h.rto
  | inr hle => exact .inr hle

theorem Armed.keeps {s s' : NanoSctp} (h : Armed s) (hk : KeepsAcks s s') : Armed s' := by
  constructor
  · cases hk.rto with
    | inl heq => exact heq ▸ h.rto
    | inr hle => exact hle
  · intro e he
    have hhead : (s'.sendQueue.map (·.acked)).head? = some e.acked := by
      rw [List.head?_map, he]
      rfl
    rw [hk.acks, List.head?_map] at hhead
    cases hs : s.sendQueue.head? with
    | none => exact nomatch hs ▸ hhead
    | some e₀ =>
      rw [hs] at hhead
      exact (Option.some.inj hhead) ▸ h.head e₀ hs

theorem map_acked_set (q : List SendEntry) (i : Nat) (e : SendEntry)
    (h : e.acked = (q.getD i default).acked) :
    (q.set i e).map (·.acked) = q.map (·.acked) := by
  apply List.ext_getElem?
  intro j
  rw [List.getElem?_map, List.getElem?_map, List.getElem?_set]
  split
  · rename_i hij
    subst hij
    split
    · rename_i hlt
      rw [List.getElem?_eq_getElem hlt, Option.map_some, Option.map_some, h,
        List.getD_eq_getElem?_getD, List.getElem?_eq_getElem hlt, Option.getD_some]
    · rename_i hge
      rw [List.getElem?_eq_none (Nat.not_lt.mp hge)]
  · rfl

theorem map_acked_abandonParts (q : List SendEntry) :
    (nsctpAbandonParts q).map (·.acked) = q.map (·.acked) := by
  induction q with
  | nil => rfl
  | cons e es ih =>
    unfold nsctpAbandonParts
    rw [List.map_cons, List.map_cons]
    split
    · rfl
    · rw [ih]

theorem nsctpAbandonMessage_acks (s : NanoSctp) (index : Nat) :
    KeepsAcks s (nsctpAbandonMessage s index) := by
  refine ⟨?_, .inl rfl⟩
  unfold nsctpAbandonMessage
  dsimp only
  rw [List.map_append, map_acked_abandonParts, ← List.map_append, List.take_append_drop]

/-- Only a SACK acknowledges. -/
theorem keepsAcks_timer : TimerRule KeepsAcks where
  refl := .refl
  trans := .trans
  output _ _ := ⟨rfl, .inl rfl⟩
  sack _ := ⟨rfl, .inl rfl⟩
  sent s i _ _ _ := ⟨map_acked_set s.sendQueue i _ rfl, .inl rfl⟩
  abandon := nsctpAbandonMessage_acks
  forward _ _ _ := ⟨rfl, .inl rfl⟩
  clock _ _ := ⟨rfl, .inl rfl⟩
  backoff _ := ⟨rfl, .inr Std.min_le_right⟩
  fail _ := ⟨rfl, .inl rfl⟩
  heartbeat _ _ _ _ := ⟨rfl, .inl rfl⟩

theorem keepsAcks_recv (s : NanoSctp) (recv : SctpRecv) (streams : List SctpStream) :
    KeepsAcks s { s with recv := recv, streams := streams } := ⟨rfl, .inl rfl⟩

/-! ### The timers stay armed -/

theorem Armed.init : Armed nsctpInit := ⟨by decide, nofun⟩

/-- A SACK drops what it acknowledges from the head of the queue. -/
theorem Armed.handleSack {s : NanoSctp} (h : Armed s) (chunk : List UInt8) :
    Armed (nsctpHandleSackChunk s chunk).1 := by
  unfold nsctpHandleSackChunk
  split
  · exact h
  rename_i sack _
  dsimp only
  split
  · exact h
  split
  · exact h
  have hloop := h.keeps (keepsAcks_timer.abandonLoop s
    (sackAbandons chunk sack (sackHighest s.sendQueue chunk sack)) (List.range s.sendQueue.length))
  refine ⟨hloop.rto, fun e he => ?_⟩
  have hhead (q : List SendEntry) (he : (q.dropWhile (·.acked)).head? = some e) :
      e.acked = false := by
    have hfirst := List.head?_dropWhile_not (fun e : SendEntry => e.acked) q
    rw [he] at hfirst
    exact hfirst
  exact hhead _ he

theorem Armed.append {s : NanoSctp} (h : Armed s) {es : List SendEntry}
    (hes : ∀ e ∈ es, e.isPending = true) (e : SendEntry)
    (he : (s.sendQueue ++ es).head? = some e) : e.acked = false := by
  rw [List.head?_append] at he
  cases hs : s.sendQueue.head? with
  | some e₀ =>
    rw [hs] at he
    exact Option.some.inj he ▸ h.head e₀ hs
  | none =>
    rw [hs] at he
    have hpending := hes e (List.mem_of_mem_head? he)
    unfold SendEntry.isPending at hpending
    simp only [Bool.and_eq_true, Bool.not_eq_true'] at hpending
    exact hpending.1.2

theorem Armed.handleChunk {s : NanoSctp} (h : Armed s) (random : Option AssociationSeed)
    (hdr : NsctpHeader) (chunk : List UInt8) :
    Armed (nsctpHandleChunk s random hdr chunk).1 := by
  have hout (t : NanoSctp) (ht : Armed t) (vtag : UInt32) (chunk : List UInt8) :
      Armed (nsctpQueueOutput t vtag chunk) := ht.keeps (keepsAcks_timer.queueOutput t vtag chunk)
  unfold nsctpHandleChunk
  split
  · unfold nsctpHandleInit
    split
    · exact h
    dsimp only
    split
    · exact h
    · apply hout
      exact ⟨h.rto, h.head⟩
  · unfold nsctpHandleInitAck
    split
    · exact h
    split
    · exact h
    split
    · exact h
    · dsimp only
      have hsent (t : NanoSctp) (ht : Armed t) (vtag : UInt32) (chunk : List UInt8) :
          Armed { nsctpQueueOutput t vtag chunk with state := .cookieEchoed } :=
        ⟨(hout t ht vtag chunk).rto, (hout t ht vtag chunk).head⟩
      apply hsent
      exact ⟨h.rto, h.head⟩
  · unfold nsctpHandleCookieEcho
    dsimp only
    split
    · exact h
    · have hack := hout s h s.remoteVtag nsctpEncodeCookieAck
      exact ⟨hack.rto, hack.head⟩
  · unfold nsctpHandleCookieAck
    split
    · exact h
    · exact ⟨h.rto, h.head⟩
  · exact h.keeps (nsctpHandleDataChunk_rule keepsAcks_recv s chunk)
  · exact h.handleSack chunk
  · exact h.keeps (keepsAcks_timer.handleHeartbeat s chunk)
  · exact ⟨h.rto, h.head⟩
  · exact h.keeps (nsctpHandleForwardTsn_rule keepsAcks_recv s chunk)
  · exact ⟨h.rto, h.head⟩
  · exact h
  · exact h

/-- The timers are armed in every reachable state. -/
theorem armed_run (is : List SctpInput) : Armed (run sctpStep nsctpInit is) := by
  have hcall (s : NanoSctp) (i : SctpInput) (hi : ∀ random data, i ≠ .packet random data)
      (h : Armed s) : Armed (sctpStep s i) := by
    cases i with
    | packet random data => exact absurd rfl (hi random data)
    | start random =>
      show Armed (nsctpStart s random).1
      unfold nsctpStart
      split
      · exact h
      split
      · exact h
      split
      · exact h
      · dsimp only
        have hsent (t : NanoSctp) (ht : Armed t) (vtag : UInt32) (chunk : List UInt8) :
            Armed { nsctpQueueOutput t vtag chunk with state := .cookieWait } :=
          have hq := ht.keeps (keepsAcks_timer.queueOutput t vtag chunk)
          ⟨hq.rto, hq.head⟩
        apply hsent
        exact ⟨h.rto, h.head⟩
    | pollDelivery =>
      have hpoll := h.keeps (nsctpPollDelivery_rule keepsAcks_recv s)
      unfold sctpStep
      exact hpoll
    | pollOutput bufLen => exact h.keeps (keepsAcks_timer.pollOutput s bufLen)
    | send streamId ppid data unordered maxRetransmits =>
      have hsend : SendRule fun s s' => Armed s → Armed s' := {
        refl := fun _ h => h
        trans := fun h h' ha => h' (h ha)
        output := fun s _ h => h.keeps (keepsAcks_timer.output s _)
        sack := fun s h => h.keeps (keepsAcks_timer.sack s)
        sent := fun s i _ _ _ h => h.keeps (keepsAcks_timer.sent s i _ _ _)
        abandon := fun s i h => h.keeps (keepsAcks_timer.abandon s i)
        forward := fun s _ _ h => h.keeps (keepsAcks_timer.forward s _ _) }
      exact hsend.sendOptions (fun s _ _ _ _ es hes h => ⟨h.rto, h.append hes⟩) s streamId ppid data
        unordered maxRetransmits h
    | timeout nowMs random => exact h.keeps (keepsAcks_timer.handleTimeout s nowMs random)
  have hstep := sctpStep_invariant (P := Armed) (fun s random hdr chunk h =>
    h.handleChunk random hdr chunk) (fun s h => h.keeps (keepsAcks_timer.finishPacket s)) hcall
  exact run_invariant (P := Armed) hstep Armed.init is

/-! ### Retransmission -/

/-- The association is established and has something to retransmit or to forward. -/
def Offers (s : NanoSctp) : Prop :=
  s.forwardPending = true ∨ ∃ e ∈ s.sendQueue, e.isPending = true

/-- The retransmission timer of the entry has expired. -/
def EntryDue (nowMs rtoMs : UInt32) (e : SendEntry) : Prop :=
  e.inFlight ∧ !e.acked ∧ !e.abandoned ∧ nanoTimeElapsed nowMs e.sentAtMs ≥ rtoMs

/-- What the retransmission loop ends in: an association that has failed, or one as it was but for
the send queue, with all that it offered before still to send. -/
def Retransmitted (s : NanoSctp) (r : NanoSctp × Bool) : Prop :=
  (r.2 = false ∧ r.1.state = .closed ∧ r.1.closedDueToFailure = true) ∨
    (r.2 = true ∧ (Offers s → Offers r.1) ∧ ∃ queue rtoMs pending,
      r.1 = { s with sendQueue := queue, rtoMs := rtoMs, forwardPending := pending })

/-- An entry in flight set back offers it, and leaves what waits. -/
theorem offers_setBack {s : NanoSctp} {i : Nat} (hi : i < s.sendQueue.length) (e' : SendEntry)
    (he' : e'.isPending = true) (rtoMs : UInt32) :
    Offers { s with sendQueue := s.sendQueue.set i e', rtoMs := rtoMs } :=
  .inr ⟨e', List.mem_set hi e', he'⟩

theorem nsctpRetransmit_spec (nowMs : UInt32) (left i : Nat) (s : NanoSctp)
    (hleft : i + left = s.sendQueue.length) :
    Retransmitted s (nsctpRetransmit nowMs left i s) := by
  induction left generalizing i s with
  | zero => exact .inr ⟨rfl, id, s.sendQueue, s.rtoMs, s.forwardPending, rfl⟩
  | succ left ih =>
    -- a step that offers something leads to the same end
    have hnext (t : NanoSctp) (hlen : t.sendQueue.length = s.sendQueue.length)
        (hoffers : Offers s → Offers t) (hframe : ∃ queue rtoMs pending,
          t = { s with sendQueue := queue, rtoMs := rtoMs, forwardPending := pending }) :
        Retransmitted s (nsctpRetransmit nowMs left (i + 1) t) := by
      cases ih (i + 1) t (by omega) with
      | inl hfail => exact .inl hfail
      | inr hdone =>
        obtain ⟨hok, hoff, queue, rto, pending, heq⟩ := hdone
        obtain ⟨queue', rto', pending', rfl⟩ := hframe
        exact .inr ⟨hok, hoff ∘ hoffers, queue, rto, pending, heq⟩
    unfold nsctpRetransmit
    dsimp only
    split
    · split
      · refine hnext _ ?_ (fun _ => .inl rfl) ⟨_, s.rtoMs, true, rfl⟩
        have hacks := congrArg List.length (nsctpAbandonMessage_acks s i).acks
        rwa [List.length_map, List.length_map] at hacks
      split
      · exact .inl ⟨rfl, rfl, rfl⟩
      · rename_i hdue _ _
        refine hnext _ List.length_set (fun _ => offers_setBack (by omega) _ ?_ _)
          ⟨_, _, s.forwardPending, rfl⟩
        unfold SendEntry.isPending
        simp only [Bool.not_false, Bool.true_and, Bool.and_eq_true]
        exact ⟨hdue.2.1, hdue.2.2.1⟩
    · exact hnext s rfl id ⟨s.sendQueue, s.rtoMs, s.forwardPending, rfl⟩

/-- An entry that is due is sent again, abandoned, or the end of the association. -/
theorem nsctpRetransmit_due (nowMs : UInt32) (left i : Nat) (s : NanoSctp)
    (hleft : i + left = s.sendQueue.length)
    (hdue : ∃ j, i ≤ j ∧ j < s.sendQueue.length ∧
      EntryDue nowMs s.rtoMs (s.sendQueue.getD j default)) :
    (nsctpRetransmit nowMs left i s).2 = true → Offers (nsctpRetransmit nowMs left i s).1 := by
  induction left generalizing i with
  | zero => omega
  | succ left ih =>
    have hstep (t : NanoSctp) (hlen : t.sendQueue.length = s.sendQueue.length) (ht : Offers t)
        (hok : (nsctpRetransmit nowMs left (i + 1) t).2 = true) :
        Offers (nsctpRetransmit nowMs left (i + 1) t).1 := by
      cases nsctpRetransmit_spec nowMs left (i + 1) t (by omega) with
      | inl hfail => exact absurd (hfail.1.symm.trans hok) (by decide)
      | inr hdone => exact hdone.2.1 ht
    unfold nsctpRetransmit
    dsimp only
    split
    · split
      · refine hstep _ ?_ (.inl rfl)
        have hacks := congrArg List.length (nsctpAbandonMessage_acks s i).acks
        rwa [List.length_map, List.length_map] at hacks
      split
      · intro h
        cases h
      · rename_i hhere _ _
        refine hstep _ List.length_set (offers_setBack (by omega) _ ?_ _)
        unfold SendEntry.isPending
        simp only [Bool.not_false, Bool.true_and, Bool.and_eq_true]
        exact ⟨hhere.2.1, hhere.2.2.1⟩
    · rename_i hnot
      obtain ⟨j, hij, hj, hjdue⟩ := hdue
      have hne : i ≠ j := fun heq => hnot (heq ▸ hjdue)
      exact ih (i + 1) (by omega) ⟨j, by omega, hj, hjdue⟩

/-- Nothing due, nothing changed. -/
theorem nsctpRetransmit_idle (nowMs : UInt32) (left i : Nat) (s : NanoSctp)
    (hnone : ∀ e ∈ s.sendQueue, ¬EntryDue nowMs s.rtoMs e) (hleft : i + left = s.sendQueue.length) :
    nsctpRetransmit nowMs left i s = (s, true) := by
  induction left generalizing i with
  | zero => rfl
  | succ left ih =>
    have hi : i < s.sendQueue.length := by omega
    have hnot := hnone _ (List.getElem_mem hi)
    rw [← List.getD_eq_getElem s.sendQueue default hi] at hnot
    unfold EntryDue at hnot
    unfold nsctpRetransmit
    dsimp only
    rw [if_neg hnot]
    exact ih (i + 1) (by omega)

/-- The part of the timeout handler that repeats a FORWARD TSN. -/
def nsctpForwardAgain (sctp : NanoSctp) (nowMs : UInt32) : NanoSctp :=
  let passed := sctp.sendQueue.takeWhile fun e => e.acked || e.abandoned
  if nanoTimeElapsed nowMs sctp.forwardSentAtMs ≥ sctp.rtoMs ∧ passed.any (·.abandoned) then
    { sctp with forwardPending := true }
  else sctp

/-- The part of the timeout handler that sends a HEARTBEAT. -/
def nsctpSendHeartbeat (sctp : NanoSctp) (nowMs : UInt32) (random : Option (List UInt8)) :
    NanoSctp × Rc :=
  if !sctp.heartbeatPending ∧
      nanoTimeElapsed nowMs sctp.lastHeartbeatMs ≥ sctpHeartbeatIntervalMs ∧
      !nsctpOutFull sctp then
    match random with
    | none => (sctp, .crypto)
    | some nonce =>
      ({ nsctpQueueOutput sctp sctp.remoteVtag
          (nsctpEncodeHeartbeat 4 (sctpMtu - sctpHeaderSize) nonce) with
        heartbeatNonce := nonce
        heartbeatPending := true
        lastHeartbeatMs := nowMs }, .ok)
  else (sctp, .ok)

theorem nsctpHandleTimeout_established {s : NanoSctp} (h : s.state = .established) (nowMs : UInt32)
    (random : Option (List UInt8)) :
    nsctpHandleTimeout s nowMs random =
      match nsctpRetransmit nowMs s.sendQueue.length 0 { s with nowMs := nowMs } with
      | (s, false) => (s, .protocol)
      | (s, true) => nsctpSendHeartbeat (nsctpForwardAgain s nowMs) nowMs random := by
  unfold nsctpHandleTimeout
  dsimp only
  rw [if_neg (not_not_intro h)]
  rfl

/-- What is offered is pending output. -/
theorem Offers.pending {s : NanoSctp} (h : Offers s) (hstate : s.state = .established) :
    nsctpHasPendingOutput s = true := by
  unfold nsctpHasPendingOutput
  cases h with
  | inl hforward => rw [hforward, Bool.true_or, Bool.true_or]
  | inr hentry =>
    have hany : s.sendQueue.any (·.isPending) = true := List.any_eq_true.mpr hentry
    rw [hany, hstate, beq_self_eq_true, Bool.and_true, Bool.or_true]

theorem length_nsctpEncodeHeartbeat_le (type : UInt8) (bufLen : Nat) (info : List UInt8) :
    (nsctpEncodeHeartbeat type bufLen info).length ≤ bufLen := by
  unfold nsctpEncodeHeartbeat
  split
  · exact Nat.zero_le _
  · rename_i hfits
    have hfits : sctpPad4 (8 + info.length) ≤ bufLen := by omega
    refine Nat.le_trans (Nat.le_of_eq ?_) hfits
    simp only [sctpPadded, sctpChunkHdr, sctpPad4, u16be, List.length_append, List.length_cons,
      List.length_nil, List.length_replicate]
    omega

/-- The packet queue is not empty after a packet was built for it. -/
theorem nsctpQueueOutput_pending {s : NanoSctp} (hroom : nsctpOutFull s = false) (vtag : UInt32)
    {chunk : List UInt8} (hlen : chunk.length ≤ sctpMtu - sctpHeaderSize) :
    (nsctpQueueOutput s vtag chunk).outQueue ≠ [] := by
  unfold nsctpQueueOutput
  dsimp only
  have hheader : (nsctpEncodeHeader s.localPort s.remotePort vtag).length = sctpHeaderSize := by
    simp [nsctpEncodeHeader, u16be, u32be, sctpHeaderSize]
  have hmtu : sctpHeaderSize ≤ sctpMtu := by decide
  rw [if_neg (by
    rw [hroom, List.length_append, hheader]
    simp only [Bool.false_eq_true, false_or, Nat.not_lt]
    omega)]
  exact List.append_ne_nil_of_right_ne_nil _ (List.cons_ne_nil _ _)

theorem Offers.forwardAgain {s : NanoSctp} (h : Offers s) (nowMs : UInt32) :
    Offers (nsctpForwardAgain s nowMs) := by
  unfold nsctpForwardAgain
  dsimp only
  split
  · exact .inl rfl
  · exact h

theorem nsctpForwardAgain_state (s : NanoSctp) (nowMs : UInt32) :
    (nsctpForwardAgain s nowMs).state = s.state := by
  unfold nsctpForwardAgain
  dsimp only
  split <;> rfl

/-- What is offered stays offered to the end of the handler. -/
theorem Offers.sendHeartbeat {s : NanoSctp} (h : Offers s) (hstate : s.state = .established)
    (nowMs : UInt32) (random : Option (List UInt8)) :
    nsctpHasPendingOutput (nsctpSendHeartbeat s nowMs random).1 = true := by
  unfold nsctpSendHeartbeat
  split
  · split
    · exact h.pending hstate
    · rename_i nonce
      obtain ⟨packets, heq⟩ := nsctpQueueOutput_eq s s.remoteVtag
        (nsctpEncodeHeartbeat 4 (sctpMtu - sctpHeaderSize) nonce)
      rw [heq]
      exact Offers.pending h hstate
  · exact h.pending hstate

/-- A heartbeat that is due is sent when there is room and a nonce for it. -/
theorem nsctpSendHeartbeat_due {s : NanoSctp} (hpending : s.heartbeatPending = false)
    {nowMs : UInt32}
    (hover : nanoTimeElapsed nowMs s.lastHeartbeatMs ≥ sctpHeartbeatIntervalMs)
    (hroom : nsctpOutFull s = false) (nonce : List UInt8) :
    nsctpHasPendingOutput (nsctpSendHeartbeat s nowMs (some nonce)).1 = true := by
  have hout := nsctpQueueOutput_pending hroom s.remoteVtag
    (length_nsctpEncodeHeartbeat_le 4 (sctpMtu - sctpHeaderSize) nonce)
  unfold nsctpSendHeartbeat
  rw [if_pos (by rw [hpending, hroom]; exact ⟨rfl, hover, rfl⟩)]
  unfold nsctpHasPendingOutput
  dsimp only
  cases hq : (nsctpQueueOutput s s.remoteVtag
      (nsctpEncodeHeartbeat 4 (sctpMtu - sctpHeaderSize) nonce)).outQueue with
  | nil => exact absurd hq hout
  | cons packet rest =>
    rw [List.isEmpty_cons, Bool.not_false, Bool.or_true, Bool.or_true, Bool.true_or]

theorem nsctpSendHeartbeat_none (s : NanoSctp) (nowMs : UInt32) :
    (nsctpSendHeartbeat s nowMs none).1 = s := by
  unfold nsctpSendHeartbeat
  split <;> rfl

/-! ### Deadlines -/

/-- The time left until the heartbeat. -/
def heartbeatLeft (s : NanoSctp) (nowMs : UInt32) : UInt32 :=
  nsctpTimeLeft nowMs s.lastHeartbeatMs sctpHeartbeatIntervalMs

/-- A heartbeat is due before anything of the send queue is. -/
def HeartbeatFirst (s : NanoSctp) (nowMs : UInt32) : Prop :=
  s.heartbeatPending = false ∧ ∀ e ∈ s.sendQueue, ∀ left,
    nsctpEntryTimeout s nowMs e = some left → heartbeatLeft s nowMs < left

/-- Nothing waits to be polled. -/
structure Quiet (s : NanoSctp) : Prop where
  forward : s.forwardPending = false
  out : s.outQueue = []
  sack : s.recv.sackNeeded = false
  queue : s.state = .established → ∀ e ∈ s.sendQueue, e.isPending = false

theorem quiet_iff (s : NanoSctp) : nsctpHasPendingOutput s = false ↔ Quiet s := by
  unfold nsctpHasPendingOutput
  simp only [Bool.or_eq_false_iff, Bool.not_eq_false', List.isEmpty_iff, Bool.and_eq_false_imp,
    beq_iff_eq, List.any_eq_false, Bool.not_eq_true]
  constructor
  · rintro ⟨⟨hforward, hsack, hout⟩, hqueue⟩
    exact ⟨hforward, hout, hsack, hqueue⟩
  · intro h
    exact ⟨⟨h.forward, h.sack, h.out⟩, h.queue⟩

/-- What the deadline of a send queue entry says of the entry. -/
theorem nsctpEntryTimeout_some {s : NanoSctp} {nowMs left : UInt32} {e : SendEntry}
    (h : nsctpEntryTimeout s nowMs e = some left) :
    (left = nsctpTimeLeft nowMs s.forwardSentAtMs s.rtoMs ∧
        (s.sendQueue.headD default).abandoned = true) ∨
      (left = nsctpTimeLeft nowMs e.sentAtMs s.rtoMs ∧ e.inFlight = true ∧ e.acked = false ∧
        e.abandoned = false) := by
  unfold nsctpEntryTimeout at h
  split at h
  · split at h
    · rename_i hhead
      exact .inl ⟨(Option.some.inj h).symm, hhead⟩
    · exact nomatch h
  · rename_i hlive
    split at h
    · exact nomatch h
    · rename_i hsent
      simp only [Bool.and_eq_true, Bool.not_eq_true', not_and, Bool.not_eq_false] at hlive
      simp only [Bool.or_eq_true, Bool.not_eq_true', not_or, Bool.not_eq_false,
        Bool.not_eq_true] at hsent
      refine .inr ⟨(Option.some.inj h).symm, hsent.1, hsent.2, ?_⟩
      cases hab : e.abandoned with
      | false => rfl
      | true => exact nomatch hsent.2.symm.trans (hlive hab)

/-- The head of the send queue has a deadline. -/
theorem nsctpEntryTimeout_head {s : NanoSctp} (hquiet : Quiet s) (hstate : s.state = .established)
    {e : SendEntry} (he : s.sendQueue.head? = some e) (hacked : e.acked = false) (nowMs : UInt32) :
    ∃ left, nsctpEntryTimeout s nowMs e = some left := by
  have hhead : s.sendQueue.headD default = e := by
    rw [List.headD_eq_head?_getD, he, Option.getD_some]
  have hsent := hquiet.queue hstate e (List.mem_of_mem_head? he)
  unfold SendEntry.isPending at hsent
  unfold nsctpEntryTimeout
  rw [hhead]
  cases hab : e.abandoned with
  | true =>
    refine ⟨nsctpTimeLeft nowMs s.forwardSentAtMs s.rtoMs, ?_⟩
    rw [hacked]
    rfl
  | false =>
    have hflight : e.inFlight = true := by
      cases hf : e.inFlight with
      | true => rfl
      | false =>
        rw [hf, hacked, hab] at hsent
        exact nomatch hsent
    refine ⟨nsctpTimeLeft nowMs e.sentAtMs s.rtoMs, ?_⟩
    rw [hacked, hflight]
    rfl

/-- An entry's deadline is no further away than the longest retransmission timeout. -/
theorem nsctpEntryTimeout_le {s : NanoSctp} (h : Armed s) {nowMs left : UInt32} {e : SendEntry}
    (he : nsctpEntryTimeout s nowMs e = some left) : left ≤ sctpRtoMaxMs := by
  have hle (since : UInt32) : nsctpTimeLeft nowMs since s.rtoMs ≤ sctpRtoMaxMs :=
    UInt32.le_trans (timeLeft_le nowMs since s.rtoMs) h.rto
  cases nsctpEntryTimeout_some he with
  | inl hforward => exact hforward.1 ▸ hle _
  | inr hflight => exact hflight.1 ▸ hle _

/-- The deadlines of the send queue. -/
def entryDeadlines (s : NanoSctp) (nowMs : UInt32) : List UInt32 :=
  s.sendQueue.filterMap (nsctpEntryTimeout s nowMs)

theorem nsctpNextTimeoutMs_established {s : NanoSctp} (h : s.state = .established)
    (nowMs : UInt32) :
    nsctpNextTimeoutMs s nowMs =
      if s.heartbeatPending then (entryDeadlines s nowMs).foldl min 0xFFFFFFFF
      else min ((entryDeadlines s nowMs).foldl min 0xFFFFFFFF) (heartbeatLeft s nowMs) := by
  unfold nsctpNextTimeoutMs
  rw [if_neg (not_not_intro h)]
  rfl

theorem nsctpNextTimeoutMs_le {s : NanoSctp} (hstate : s.state = .established) {nowMs left : UInt32}
    {e : SendEntry} (hmem : e ∈ s.sendQueue) (he : nsctpEntryTimeout s nowMs e = some left) :
    nsctpNextTimeoutMs s nowMs ≤ left := by
  have hbest : (entryDeadlines s nowMs).foldl min 0xFFFFFFFF ≤ left :=
    foldl_min_le (List.mem_filterMap.mpr ⟨e, hmem, he⟩) _
  rw [nsctpNextTimeoutMs_established hstate]
  split
  · exact hbest
  · exact Std.le_trans Std.min_le_left hbest

/-- The next timeout is the heartbeat's, that of an entry, or none. -/
theorem nsctpNextTimeoutMs_cases {s : NanoSctp} (hstate : s.state = .established)
    (nowMs : UInt32) :
    nsctpNextTimeoutMs s nowMs = 0xFFFFFFFF ∨
      (s.heartbeatPending = false ∧ nsctpNextTimeoutMs s nowMs = heartbeatLeft s nowMs) ∨
      ∃ e ∈ s.sendQueue, nsctpEntryTimeout s nowMs e = some (nsctpNextTimeoutMs s nowMs) := by
  have hentry : (entryDeadlines s nowMs).foldl min 0xFFFFFFFF = 0xFFFFFFFF ∨
      ∃ e ∈ s.sendQueue, nsctpEntryTimeout s nowMs e =
        some ((entryDeadlines s nowMs).foldl min 0xFFFFFFFF) := by
    cases foldl_min_mem (entryDeadlines s nowMs) 0xFFFFFFFF with
    | inl heq => exact .inl heq
    | inr hmem => exact .inr (List.mem_filterMap.mp hmem)
  rw [nsctpNextTimeoutMs_established hstate]
  split
  · cases hentry with
    | inl heq => exact .inl heq
    | inr he => exact .inr (.inr he)
  · rename_i hb
    cases Std.min_eq_or (a := (entryDeadlines s nowMs).foldl min 0xFFFFFFFF)
        (b := heartbeatLeft s nowMs) with
    | inl hmin =>
      rw [hmin]
      cases hentry with
      | inl heq => exact .inl heq
      | inr he => exact .inr (.inr he)
    | inr hmin => exact .inr (.inl ⟨Bool.eq_false_iff.mpr hb, hmin⟩)

/-! ### What happens at the deadline -/

/-- The association waits for its peer: for the handshake, for an acknowledgement, or for the
answer to a HEARTBEAT. -/
def SctpWaiting (s : NanoSctp) : Prop :=
  s.state = .cookieWait ∨ s.state = .cookieEchoed ∨
    (s.state = .established ∧
      ((∃ e ∈ s.sendQueue, e.acked = false) ∨ s.heartbeatPending = true))

/-- A timer is armed, and at its deadline the association has something to send or fails. -/
def TimeoutRecovers (s : NanoSctp) (nowMs : UInt32) (random : Option (List UInt8)) : Prop :=
  nsctpNextTimeoutMs s nowMs ≠ 0xFFFFFFFF ∧
    let s' := (nsctpHandleTimeout s (nowMs + nsctpNextTimeoutMs s nowMs) random).1
    nsctpHasPendingOutput s' = true ∨ (s'.state = .closed ∧ s'.closedDueToFailure = true)

/-- A FORWARD TSN is repeated for the head of the queue: where nothing acknowledged is in front, what
was passed is abandoned exactly when the head is. -/
theorem Armed.passed_abandoned {s : NanoSctp} (h : Armed s) :
    (s.sendQueue.takeWhile fun e => e.acked || e.abandoned).any (·.abandoned) =
      (s.sendQueue.headD default).abandoned := by
  cases hq : s.sendQueue with
  | nil => rfl
  | cons e es =>
    have hacked := h.head e (by rw [hq]; rfl)
    rw [List.takeWhile_cons, hacked, Bool.false_or, List.headD_cons]
    cases hab : e.abandoned with
    | false => rfl
    | true => rw [if_pos rfl, List.any_cons, hab, Bool.true_or]

section Deadline

variable {s : NanoSctp} (harmed : Armed s) (hstate : s.state = .established)
include harmed hstate

omit hstate in
/-- The handler does not find anything due before the first deadline of the send queue. -/
theorem nsctpHandleTimeout_early {nowMs d : UInt32} (hfirst : ∀ e ∈ s.sendQueue, ∀ left,
      nsctpEntryTimeout s nowMs e = some left → d < left) :
    nsctpRetransmit (nowMs + d) s.sendQueue.length 0 { s with nowMs := nowMs + d } =
        ({ s with nowMs := nowMs + d }, true) ∧
      ¬(nanoTimeElapsed (nowMs + d) s.forwardSentAtMs ≥ s.rtoMs ∧
        (s.sendQueue.takeWhile fun e => e.acked || e.abandoned).any (·.abandoned) = true) := by
  have hlate {since : UInt32} (hlt : d < nsctpTimeLeft nowMs since s.rtoMs) :
      ¬nanoTimeElapsed (nowMs + d) since ≥ s.rtoMs :=
    UInt32.not_le.mpr (timeLeft_early hlt)
  constructor
  · apply nsctpRetransmit_idle
    · rintro e he ⟨hflight, hacked, habandoned, hover⟩
      have hleft : nsctpEntryTimeout s nowMs e = some (nsctpTimeLeft nowMs e.sentAtMs s.rtoMs) := by
        simp only [Bool.not_eq_true'] at hacked habandoned
        unfold nsctpEntryTimeout
        rw [hacked, habandoned, hflight]
        rfl
      exact hlate (hfirst e he _ hleft) hover
    · exact Nat.zero_add _
  · rintro ⟨hover, hany⟩
    -- the head of the queue was passed, so it is abandoned
    rw [harmed.passed_abandoned] at hany
    cases hq : s.sendQueue with
    | nil => exact nomatch hq ▸ hany
    | cons e es =>
      have hacked := harmed.head e (by rw [hq]; rfl)
      rw [hq, List.headD_cons] at hany
      have hleft : nsctpEntryTimeout s nowMs e =
          some (nsctpTimeLeft nowMs s.forwardSentAtMs s.rtoMs) := by
        unfold nsctpEntryTimeout
        rw [hacked, hany, hq, List.headD_cons, hany]
        rfl
      exact hlate (hfirst e (by rw [hq]; exact List.mem_cons_self) _ hleft) hover

/-- **At the deadline data is sent again or the association fails.** With data in the send queue of
an established association that has nothing to send, the only obstacle is the crypto provider, at
a heartbeat that comes before all else. -/
theorem nsctpHandleTimeout_recovers (hquiet : Quiet s) (hqueue : s.sendQueue ≠ [])
    (nowMs : UInt32) (random : Option (List UInt8))
    (hrandom : random ≠ none ∨ ¬HeartbeatFirst s nowMs) : TimeoutRecovers s nowMs random := by
  obtain ⟨e₀, he₀⟩ : ∃ e, s.sendQueue.head? = some e := by
    cases hq : s.sendQueue with
    | nil => exact absurd hq hqueue
    | cons e es => exact ⟨e, rfl⟩
  have hacked := harmed.head e₀ he₀
  obtain ⟨left₀, hleft₀⟩ := nsctpEntryTimeout_head hquiet hstate he₀ hacked nowMs
  have hfinite : nsctpNextTimeoutMs s nowMs ≤ sctpRtoMaxMs :=
    UInt32.le_trans (nsctpNextTimeoutMs_le hstate (List.mem_of_mem_head? he₀) hleft₀)
      (nsctpEntryTimeout_le harmed hleft₀)
  have hnone : nsctpNextTimeoutMs s nowMs ≠ 0xFFFFFFFF := by
    intro heq
    rw [heq] at hfinite
    exact absurd hfinite (by decide)
  refine ⟨hnone, ?_⟩
  dsimp only
  rw [nsctpHandleTimeout_established hstate]
  have hcases := nsctpNextTimeoutMs_cases hstate nowMs
  have hbound {left : UInt32} {e : SendEntry} (hmem : e ∈ s.sendQueue)
      (he : nsctpEntryTimeout s nowMs e = some left) : nsctpNextTimeoutMs s nowMs ≤ left :=
    nsctpNextTimeoutMs_le hstate hmem he
  revert hnone hcases hbound
  generalize nsctpNextTimeoutMs s nowMs = d
  intro hnone hcases hbound
  by_cases hdue : ∃ e ∈ s.sendQueue, EntryDue (nowMs + d) s.rtoMs e
  · -- something is sent again, abandoned, or the end
    obtain ⟨e, hmem, hdue⟩ := hdue
    obtain ⟨j, hj, hget⟩ := List.getElem_of_mem hmem
    have hoffers := nsctpRetransmit_due (nowMs + d) s.sendQueue.length 0
      { s with nowMs := nowMs + d } (Nat.zero_add _)
      ⟨j, Nat.zero_le _, hj, by rw [List.getD_eq_getElem _ _ hj, hget]; exact hdue⟩
    have hspec := nsctpRetransmit_spec (nowMs + d) s.sendQueue.length 0
      { s with nowMs := nowMs + d } (Nat.zero_add _)
    revert hoffers hspec
    generalize nsctpRetransmit (nowMs + d) s.sendQueue.length 0 { s with nowMs := nowMs + d } = r
    intro hoffers hspec
    cases hspec with
    | inl hfail =>
      obtain ⟨t, ok⟩ := r
      obtain rfl : ok = false := hfail.1
      exact .inr hfail.2
    | inr hdone =>
      obtain ⟨t, ok⟩ := r
      obtain rfl : ok = true := hdone.1
      obtain ⟨-, -, queue, rto, pending, heq⟩ := hdone
      have ht : t.state = .established := by
        have heq : t = _ := heq
        rw [heq]
        exact hstate
      exact .inl (((hoffers rfl).forwardAgain _).sendHeartbeat
        ((nsctpForwardAgain_state t _).trans ht) _ random)
  · -- nothing of the queue is due: a FORWARD TSN or the heartbeat is
    have hidle := nsctpRetransmit_idle (nowMs + d) s.sendQueue.length 0
      { s with nowMs := nowMs + d } (fun e he h => hdue ⟨e, he, h⟩) (Nat.zero_add _)
    rw [hidle]
    left
    dsimp only
    by_cases hforward : nanoTimeElapsed (nowMs + d) s.forwardSentAtMs ≥ s.rtoMs ∧
        (s.sendQueue.takeWhile fun e => e.acked || e.abandoned).any (·.abandoned) = true
    · have hagain : nsctpForwardAgain { s with nowMs := nowMs + d } (nowMs + d) =
          { s with nowMs := nowMs + d, forwardPending := true } := if_pos hforward
      rw [hagain]
      have hoffers : Offers { s with nowMs := nowMs + d, forwardPending := true } := .inl rfl
      exact hoffers.sendHeartbeat hstate _ _
    · have hagain : nsctpForwardAgain { s with nowMs := nowMs + d } (nowMs + d) =
          { s with nowMs := nowMs + d } := if_neg hforward
      rw [hagain]
      -- the deadline was not an entry's, since that entry would be due
      have hentry : ¬∃ e ∈ s.sendQueue, nsctpEntryTimeout s nowMs e = some d := by
        rintro ⟨e, hmem, he⟩
        cases nsctpEntryTimeout_some he with
        | inl hfwd =>
          have hover : nanoTimeElapsed (nowMs + d) s.forwardSentAtMs ≥ s.rtoMs := by
            rw [hfwd.1]
            exact timeLeft_due _ _ _
          refine hforward ⟨hover, ?_⟩
          have hab := hfwd.2
          cases hq : s.sendQueue with
          | nil => exact absurd hq hqueue
          | cons e es =>
            rw [hq, List.headD_cons] at hab
            rw [List.takeWhile_cons, hab, Bool.or_true, if_pos rfl, List.any_cons, hab,
              Bool.true_or]
        | inr hsent =>
          have hover : nanoTimeElapsed (nowMs + d) e.sentAtMs ≥ s.rtoMs := by
            rw [hsent.1]
            exact timeLeft_due _ _ _
          exact hdue ⟨e, hmem, hsent.2.1, by rw [hsent.2.2.1]; rfl, by rw [hsent.2.2.2]; rfl, hover⟩
      obtain ⟨hpending, hd⟩ : s.heartbeatPending = false ∧ d = heartbeatLeft s nowMs := by
        rcases hcases with heq | hheartbeat | he
        · exact absurd heq hnone
        · exact hheartbeat
        · exact absurd he hentry
      have hfirst : HeartbeatFirst s nowMs := by
        refine ⟨hpending, fun e hmem left he => ?_⟩
        rw [← hd]
        refine Std.lt_of_le_of_ne (hbound hmem he) fun heq => ?_
        exact hentry ⟨e, hmem, heq ▸ he⟩
      cases random with
      | none => exact (hrandom.resolve_left (fun h => h rfl) hfirst).elim
      | some nonce =>
        apply nsctpSendHeartbeat_due
        · exact hpending
        · rw [hd]
          exact timeLeft_due _ _ _
        · unfold nsctpOutFull
          dsimp only
          rw [hquiet.out]
          rfl

/-- Without a nonce nothing happens at the deadline of a heartbeat that comes first. -/
theorem nsctpHandleTimeout_stuck (hquiet : Quiet s) {nowMs : UInt32}
    (hfirst : HeartbeatFirst s nowMs)
    (hnext : nsctpNextTimeoutMs s nowMs = heartbeatLeft s nowMs) :
    ¬TimeoutRecovers s nowMs none := by
  rintro ⟨-, hrecovers⟩
  dsimp only at hrecovers
  rw [hnext, nsctpHandleTimeout_established hstate] at hrecovers
  obtain ⟨hidle, hforward⟩ := nsctpHandleTimeout_early harmed hfirst.2
  have hagain : nsctpForwardAgain { s with nowMs := nowMs + heartbeatLeft s nowMs }
      (nowMs + heartbeatLeft s nowMs) = { s with nowMs := nowMs + heartbeatLeft s nowMs } :=
    if_neg hforward
  rw [hidle] at hrecovers
  dsimp only at hrecovers
  rw [hagain, nsctpSendHeartbeat_none] at hrecovers
  cases hrecovers with
  | inl hpending =>
    have hnone := (quiet_iff s).mpr hquiet
    exact nomatch hnone.symm.trans hpending
  | inr hclosed => exact nomatch hstate.symm.trans hclosed.1

end Deadline

/-- **Which waiting states the timers recover.** -/
theorem timeout_recovers_iff (is : List SctpInput) (nowMs : UInt32)
    (random : Option (List UInt8)) :
    let s := run sctpStep nsctpInit is
    SctpWaiting s → nsctpHasPendingOutput s = false →
      (TimeoutRecovers s nowMs random ↔ s.state = .established ∧ s.sendQueue ≠ [] ∧
        (random ≠ none ∨ ¬HeartbeatFirst s nowMs)) := by
  intro s hwait hpending
  have harmed : Armed s := armed_run is
  have hquiet : Quiet s := (quiet_iff s).mp hpending
  constructor
  · intro hrecovers
    have hstate : s.state = .established := by
      by_cases hstate : s.state = .established
      · exact hstate
      · -- no timer is armed outside ESTABLISHED
        have hnext : nsctpNextTimeoutMs s nowMs = 0xFFFFFFFF := if_pos hstate
        exact absurd hnext hrecovers.1
    refine ⟨hstate, fun hempty => ?_, ?_⟩
    · -- with an empty queue the association waits for the answer to a HEARTBEAT
      have hheartbeat : s.heartbeatPending = true := by
        rcases hwait with hwait | hwait | ⟨-, hdata | hheartbeat⟩
        · exact nomatch hstate.symm.trans hwait
        · exact nomatch hstate.symm.trans hwait
        · obtain ⟨e, hmem, -⟩ := hdata
          exact nomatch hempty ▸ hmem
        · exact hheartbeat
      apply hrecovers.1
      rw [nsctpNextTimeoutMs_established hstate, if_pos hheartbeat]
      unfold entryDeadlines
      rw [hempty]
      rfl
    · cases random with
      | some nonce => exact .inl nofun
      | none =>
        right
        intro hfirst
        refine nsctpHandleTimeout_stuck harmed hstate hquiet hfirst ?_ hrecovers
        rcases nsctpNextTimeoutMs_cases hstate nowMs with heq | hheartbeat | ⟨e, hmem, he⟩
        · exact absurd heq hrecovers.1
        · exact hheartbeat.2
        · have hlt := hfirst.2 e hmem _ he
          have hle : nsctpNextTimeoutMs s nowMs ≤ heartbeatLeft s nowMs := by
            rw [nsctpNextTimeoutMs_established hstate,
              if_neg (by rw [hfirst.1]; exact Bool.false_ne_true)]
            exact Std.min_le_right
          exact absurd (Std.lt_of_lt_of_le hlt hle) (Std.lt_irrefl)
  · rintro ⟨hstate, hqueue, hrandom⟩
    exact nsctpHandleTimeout_recovers harmed hstate hquiet hqueue nowMs random hrandom

/-- A message that was sent once, on an established association. -/
def demoSent : List SctpInput :=
  demoHandshake ++ [.pollOutput 1200, .pollOutput 1200, .send 0 51 [1, 2, 3] false (-1),
    .pollOutput 1200]

/-- The message is sent again a second later. -/
theorem timeout_recovers_sent :
    TimeoutRecovers (run sctpStep nsctpInit demoSent) 0 (some [1, 2, 3, 4, 5, 6, 7, 8]) :=
  (timeout_recovers_iff demoSent 0 (some [1, 2, 3, 4, 5, 6, 7, 8]) (by
    right; right
    decide +kernel) (by decide +kernel)).mpr
    ⟨by decide +kernel, by decide +kernel, .inl nofun⟩

/-- An INIT that is lost is never sent again. -/
theorem handshake_stalls :
    let s := run sctpStep nsctpInit [.start (some ⟨7, 1000, List.replicate 16 9⟩), .pollOutput 1200]
    SctpWaiting s ∧ nsctpHasPendingOutput s = false ∧
      ¬TimeoutRecovers s 1000 (some [1, 2, 3, 4, 5, 6, 7, 8]) := by
  refine ⟨.inl (by decide +kernel), by decide +kernel, fun hrecovers => hrecovers.1 ?_⟩
  decide +kernel

end Nanortc.Spec
