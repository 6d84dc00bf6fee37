import Nanortc.Native.Sctp

/-!
# Frame rules of an association

The calls that send, and the timeout handler, are made of a few small updates. A relation between
states that every such update keeps is kept by the calls: each frame lemma of a call is this rule
at its relation.

## Key results

- `SendRule.pollOutput`, `SendRule.handleHeartbeat`, `SendRule.abandonLoop`: the rule for sending
- `TimerRule.handleTimeout`: the rule for the timeout handler
- `nsctpHandleChunk_sending`: only a SACK touches the sending side
-/

namespace Nanortc.Spec

open Nanortc.ForStd Nanortc.Native

/-- The relation is kept by each update that sending is made of. -/
structure SendRule (R : NanoSctp → NanoSctp → Prop) : Prop where
  refl : ∀ s, R s s
  trans : ∀ {s s' s''}, R s s' → R s' s'' → R s s''
  output : ∀ s packets, R s { s with outQueue := packets }
  sack : ∀ s, R s { s with recv := { s.recv with sackNeeded := false } }
  sent : ∀ s i inFlight sentAtMs retransmitCount, R s { s with
    sendQueue := s.sendQueue.set i { s.sendQueue.getD i default with
      inFlight := inFlight, sentAtMs := sentAtMs, retransmitCount := retransmitCount } }
  abandon : ∀ s i, R s (nsctpAbandonMessage s i)
  forward : ∀ s pending sentAtMs, R s { s with
    forwardPending := pending, forwardSentAtMs := sentAtMs }

/-- The relation is kept by each update that the timeout handler is made of as well. -/
structure TimerRule (R : NanoSctp → NanoSctp → Prop) : Prop extends SendRule R where
  clock : ∀ s nowMs, R s { s with nowMs := nowMs }
  backoff : ∀ s, R s { s with rtoMs := min (s.rtoMs * 2) sctpRtoMaxMs }
  fail : ∀ s, R s { s with state := .closed, closedDueToFailure := true }
  heartbeat : ∀ s nonce pending sentAtMs, R s { s with
    heartbeatNonce := nonce, heartbeatPending := pending, lastHeartbeatMs := sentAtMs }

/-- Only the output queue changes. -/
theorem nsctpQueueOutput_eq (s : NanoSctp) (vtag : UInt32) (chunk : List UInt8) :
    ∃ packets, nsctpQueueOutput s vtag chunk = { s with outQueue := packets } := by
  unfold nsctpQueueOutput
  dsimp only
  split
  · exact ⟨s.outQueue, rfl⟩
  · exact ⟨_, rfl⟩

/-- The fragments of a message wait to be sent. -/
theorem nsctpFragments_pending (proto : SendEntry) (count left i : Nat) (tsn : UInt32)
    (off remaining : Nat) (h : proto.isPending = true) :
    ∀ e ∈ nsctpFragments proto count left i tsn off remaining, e.isPending = true := by
  induction left generalizing i tsn off remaining with
  | zero => exact fun e he => nomatch he
  | succ left ih =>
    intro e he
    unfold nsctpFragments at he
    cases List.mem_cons.mp he with
    | inl heq => exact heq ▸ h
    | inr hmem => exact ih _ _ _ _ e hmem

namespace SendRule

variable {R : NanoSctp → NanoSctp → Prop} (h : SendRule R)
include h

theorem queueOutput (s : NanoSctp) (vtag : UInt32) (chunk : List UInt8) :
    R s (nsctpQueueOutput s vtag chunk) := by
  obtain ⟨packets, heq⟩ := nsctpQueueOutput_eq s vtag chunk
  rw [heq]
  exact h.output s packets

theorem queueSack (s : NanoSctp) (cap : Nat) : R s (nsctpQueueSack s cap).1 := by
  unfold nsctpQueueSack
  split
  · exact h.refl s
  · dsimp only
    split
    · exact h.refl s
    · obtain ⟨packets, heq⟩ := nsctpQueueOutput_eq s s.remoteVtag
        (nsctpEncodeSackWithGaps nsctpMaxSackSize s.recv.cumulativeTsn
          (UInt32.ofNat (sctpRecvGapBufSize - s.recv.recvGapBufUsed))
          (((List.finRange sctpMaxRecvGap).filter fun i =>
            (s.recv.rx i).valid && i32 ((s.recv.rx i).tsn - s.recv.cumulativeTsn) > 0).map fun i =>
              (s.recv.rx i).tsn))
      rw [heq]
      exact h.trans (h.output s packets) (h.sack _)

theorem finishPacket (s : NanoSctp) : R s (nsctpFinishPacket s).1 := by
  unfold nsctpFinishPacket
  split
  · exact h.queueSack s sctpMtu
  · exact h.refl s

theorem pollData (s : NanoSctp) (bufLen : Nat) : R s (nsctpPollData s bufLen).1 := by
  unfold nsctpPollData
  split
  · exact h.refl s
  split
  · exact h.refl s
  dsimp only
  split
  · exact h.refl s
  · rename_i i _ _
    obtain ⟨packets, heq⟩ := nsctpQueueOutput_eq s s.remoteVtag
      (nsctpEncodeData (sctpMtu - sctpHeaderSize) (nsctpEntryData s (s.sendQueue.getD i default)))
    rw [heq]
    exact h.trans (h.sent s i true s.nowMs _) (h.output _ _)

theorem forwardOutput (s : NanoSctp) (cap : Nat) : R s (nsctpForwardOutput s cap).1 := by
  unfold nsctpForwardOutput
  dsimp only
  split
  · exact h.forward s false s.forwardSentAtMs
  split
  · exact h.refl s
  · exact h.forward s false s.nowMs

/-- The SACK that `nsctp_poll_output` queues first. -/
theorem pollSack (s : NanoSctp) (bufLen : Nat) :
    R s (if s.recv.sackNeeded ∧ s.outQueue = [] then nsctpQueueSack s bufLen else (s, .ok)).1 := by
  split
  · exact h.queueSack s bufLen
  · exact h.refl s

theorem pollOutput (s : NanoSctp) (bufLen : Nat) : R s (nsctpPollOutput s bufLen).1 := by
  have hsack := h.pollSack s bufLen
  unfold nsctpPollOutput
  dsimp only
  revert hsack
  generalize (if s.recv.sackNeeded ∧ s.outQueue = [] then nsctpQueueSack s bufLen
      else (s, .ok)) = r
  intro hsack
  split
  · rename_i t
    have hsack : R s t := hsack
    split
    · split
      · exact hsack
      · exact h.trans hsack (h.output t _)
    · split
      · have hfwd := h.forwardOutput t bufLen
        revert hfwd
        generalize nsctpForwardOutput t bufLen = q
        intro hfwd
        split
        · rename_i t'
          have hfwd : R t t' := hfwd
          exact h.trans (h.trans hsack hfwd) (h.pollData t' bufLen)
        · exact h.trans hsack hfwd
      · exact h.trans hsack (h.pollData t bufLen)
  · exact hsack

/-- The messages that a SACK abandons, one after the other. -/
theorem abandonLoop (s : NanoSctp) (lost : SendEntry → Bool) (is : List Nat) :
    R s (is.foldl (fun t i =>
      if lost (t.sendQueue.getD i default) then nsctpAbandonMessage t i else t) s) := by
  have hfold (t : NanoSctp) (ht : R s t) : R s (is.foldl (fun t i =>
      if lost (t.sendQueue.getD i default) then nsctpAbandonMessage t i else t) t) := by
    induction is generalizing t with
    | nil => exact ht
    | cons i is ih =>
      rw [List.foldl_cons]
      apply ih
      split
      · exact h.trans ht (h.abandon t i)
      · exact ht
  exact hfold s (h.refl s)

theorem handleHeartbeat (s : NanoSctp) (chunk : List UInt8) :
    R s (nsctpHandleHeartbeat s chunk).1 := by
  unfold nsctpHandleHeartbeat
  dsimp only
  iterate 4
    split
    · exact h.refl s
  exact h.queueOutput s s.remoteVtag _

theorem handleSack
    (hqueue : ∀ s queue used, R s { s with sendQueue := queue, sendBufUsed := used })
    (s : NanoSctp) (chunk : List UInt8) : R s (nsctpHandleSackChunk s chunk).1 := by
  unfold nsctpHandleSackChunk
  split
  · exact h.refl s
  dsimp only
  split
  · exact h.refl s
  split
  · exact h.refl s
  · exact h.trans (h.abandonLoop s _ _) (hqueue _ _ _)

theorem sendOptions
    (happend : ∀ s streams buf used tsn es, (∀ e ∈ es, e.isPending = true) → R s { s with
      streams := streams, sendBuf := buf, sendBufUsed := used, nextTsn := tsn,
      sendQueue := s.sendQueue ++ es })
    (s : NanoSctp) (streamId : UInt16) (ppid : UInt32) (data : List UInt8) (unordered : Bool)
    (maxRetransmits : Int) :
    R s (nsctpSendOptions s streamId ppid data unordered maxRetransmits).1 := by
  -- a stream table that is full keeps the stream that was looked for out
  have hfull (streams : List SctpStream) : R s { s with streams := streams } := by
    have hnone := happend s streams s.sendBuf s.sendBufUsed s.nextTsn [] nofun
    rw [List.append_nil] at hnone
    exact hnone
  unfold nsctpSendOptions
  dsimp only
  iterate 4
    split
    · exact h.refl s
  split
  · split
    · exact h.refl s
    split
    · exact h.refl s
    · split
      · exact hfull _
      · exact happend s _ _ _ _ _ (nsctpFragments_pending _ _ _ _ _ _ _ rfl)
  · split
    · exact h.refl s
    split
    · exact h.refl s
    · split
      · exact hfull _
      · exact happend s _ _ _ _ _ (nsctpFragments_pending _ _ _ _ _ _ _ rfl)

end SendRule

/-! ### The receiving side -/

section

variable {R : NanoSctp → NanoSctp → Prop}
  (hrecv : ∀ s recv streams, R s { s with recv := recv, streams := streams })
include hrecv

theorem nsctpHandleDataChunk_rule (s : NanoSctp) (chunk : List UInt8) :
    R s (nsctpHandleDataChunk s chunk).1 := by
  have hrefl : R s s := hrecv s s.recv s.streams
  unfold nsctpHandleDataChunk
  split
  · exact hrefl
  split
  · exact hrefl
  unfold nsctpHandleDataParsed
  split
  · exact hrefl
  dsimp only
  split
  · exact hrecv s _ s.streams
  split <;> exact hrecv s _ _

theorem nsctpHandleForwardTsn_rule (s : NanoSctp) (chunk : List UInt8) :
    R s (nsctpHandleForwardTsn s chunk).1 := by
  have hrefl : R s s := hrecv s s.recv s.streams
  unfold nsctpHandleForwardTsn
  dsimp only
  split
  · exact hrefl
  split
  · exact hrefl
  split
  · exact hrecv s _ s.streams
  split
  · exact hrecv s _ s.streams
  split <;> exact hrecv s _ _

theorem nsctpPollDelivery_rule (s : NanoSctp) : R s (nsctpPollDelivery s).1 := by
  unfold nsctpPollDelivery
  dsimp only
  generalize nsctpPollSlots (nsctpRxReclaim s.recv) s.streams (List.finRange sctpMaxRecvGap) = r
  exact hrecv s _ _

end

/-! ### The sending side -/

/-- What is queued, and the clocks it is sent by, are the same. -/
structure SameSending (s s' : NanoSctp) : Prop where
  sendQueue : s'.sendQueue = s.sendQueue
  sendBuf : s'.sendBuf = s.sendBuf
  sendBufUsed : s'.sendBufUsed = s.sendBufUsed
  rtoMs : s'.rtoMs = s.rtoMs
  forwardPending : s'.forwardPending = s.forwardPending
  forwardSentAtMs : s'.forwardSentAtMs = s.forwardSentAtMs

theorem SameSending.refl (s : NanoSctp) : SameSending s s := ⟨rfl, rfl, rfl, rfl, rfl, rfl⟩

theorem nsctpQueueOutput_sending (s : NanoSctp) (vtag : UInt32) (chunk : List UInt8) :
    SameSending s (nsctpQueueOutput s vtag chunk) := by
  obtain ⟨packets, heq⟩ := nsctpQueueOutput_eq s vtag chunk
  rw [heq]
  exact ⟨rfl, rfl, rfl, rfl, rfl, rfl⟩

/-- **Only a SACK touches the sending side.** -/
theorem nsctpHandleChunk_sending (s : NanoSctp) (random : Option AssociationSeed)
    (hdr : NsctpHeader) {chunk : List UInt8}
    (htype : SctpChunkType.ofType (byteAt chunk 0) ≠ .sack) :
    SameSending s (nsctpHandleChunk s random hdr chunk).1 := by
  have hrecv (s : NanoSctp) (recv : SctpRecv) (streams : List SctpStream) :
      SameSending s { s with recv := recv, streams := streams } := ⟨rfl, rfl, rfl, rfl, rfl, rfl⟩
  unfold nsctpHandleChunk
  split
  · unfold nsctpHandleInit
    split
    · exact .refl s
    · dsimp only
      split
      · exact .refl s
      · obtain ⟨packets, heq⟩ := nsctpQueueOutput_eq _ _ _
        rw [heq]
        exact ⟨rfl, rfl, rfl, rfl, rfl, rfl⟩
  · unfold nsctpHandleInitAck
    split
    · exact .refl s
    split
    · exact .refl s
    split
    · exact .refl s
    · obtain ⟨packets, heq⟩ := nsctpQueueOutput_eq _ _ _
      dsimp only
      rw [heq]
      exact ⟨rfl, rfl, rfl, rfl, rfl, rfl⟩
  · unfold nsctpHandleCookieEcho
    dsimp only
    split
    · exact .refl s
    · obtain ⟨packets, heq⟩ := nsctpQueueOutput_eq s s.remoteVtag nsctpEncodeCookieAck
      rw [heq]
      exact ⟨rfl, rfl, rfl, rfl, rfl, rfl⟩
  · unfold nsctpHandleCookieAck
    split <;> exact ⟨rfl, rfl, rfl, rfl, rfl, rfl⟩
  · exact nsctpHandleDataChunk_rule hrecv s chunk
  · exact absurd ‹_› htype
  · unfold nsctpHandleHeartbeat
    dsimp only
    iterate 4
      split
      · exact .refl s
    exact nsctpQueueOutput_sending s s.remoteVtag _
  · exact ⟨rfl, rfl, rfl, rfl, rfl, rfl⟩
  · exact nsctpHandleForwardTsn_rule hrecv s chunk
  · exact ⟨rfl, rfl, rfl, rfl, rfl, rfl⟩
  · exact .refl s
  · exact .refl s

theorem nsctpStart_sending (s : NanoSctp) (random : Option AssociationSeed) :
    SameSending s (nsctpStart s random).1 := by
  unfold nsctpStart
  split
  · exact .refl s
  split
  · exact .refl s
  split
  · exact .refl s
  · obtain ⟨packets, heq⟩ := nsctpQueueOutput_eq _ _ _
    dsimp only
    rw [heq]
    exact ⟨rfl, rfl, rfl, rfl, rfl, rfl⟩

namespace TimerRule

variable {R : NanoSctp → NanoSctp → Prop} (h : TimerRule R)
include h

theorem retransmit (nowMs : UInt32) (left i : Nat) (s : NanoSctp) :
    R s (nsctpRetransmit nowMs left i s).1 := by
  induction left generalizing i s with
  | zero => exact h.refl s
  | succ left ih =>
    have hnext (t : NanoSctp) (ht : R s t) := h.trans ht (ih (i + 1) t)
    unfold nsctpRetransmit
    dsimp only
    split
    · split
      · exact hnext _ (h.abandon s i)
      split
      · exact h.fail s
      · exact hnext _ (h.trans (h.sent s i false nowMs _) (h.backoff _))
    · exact hnext s (h.refl s)

theorem handleTimeout (s : NanoSctp) (nowMs : UInt32) (random : Option (List UInt8)) :
    R s (nsctpHandleTimeout s nowMs random).1 := by
  have hclock := h.clock s nowMs
  unfold nsctpHandleTimeout
  dsimp only
  split
  · exact hclock
  have hretx := h.trans hclock (h.retransmit nowMs s.sendQueue.length 0 { s with nowMs := nowMs })
  revert hretx
  generalize nsctpRetransmit nowMs s.sendQueue.length 0 { s with nowMs := nowMs } = r
  intro hretx
  split
  · exact hretx
  · rename_i t
    have hretx : R s t := hretx
    have hfwd (c : Prop) [Decidable c] : R s (if c then { t with forwardPending := true } else t) := by
      split
      · exact h.trans hretx (h.forward t true t.forwardSentAtMs)
      · exact hretx
    have hfwd := hfwd (nanoTimeElapsed nowMs t.forwardSentAtMs ≥ t.rtoMs ∧
      (t.sendQueue.takeWhile fun e => e.acked || e.abandoned).any (·.abandoned))
    revert hfwd
    generalize (if nanoTimeElapsed nowMs t.forwardSentAtMs ≥ t.rtoMs ∧
      (t.sendQueue.takeWhile fun e => e.acked || e.abandoned).any (·.abandoned)
      then { t with forwardPending := true } else t) = t'
    intro hfwd
    split
    · split
      · exact hfwd
      · rename_i nonce
        have hq := h.queueOutput t' t'.remoteVtag
          (nsctpEncodeHeartbeat 4 (sctpMtu - sctpHeaderSize) nonce)
        exact h.trans (h.trans hfwd hq) (h.heartbeat _ nonce true nowMs)
    · exact hfwd

end TimerRule

end Nanortc.Spec
