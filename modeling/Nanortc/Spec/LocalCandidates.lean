import Nanortc.Spec.AgentFrame
import Nanortc.Spec.IceConsent

/-!
# The table of local candidates

Checks, the base of the reflexive candidate and the selected pair name local candidates by their
index. The table has three writers: the application, the server asked for the reflexive candidate
and the TURN server. While a host candidate is added only before the other two kinds, the table
grows at its end alone and every index keeps its meaning.

## Key results

- `anchors_handleStun`, `anchors_sendCheck`: the agent stores indices of the table only
- `tableKept_processTimers`, `grows_receivePlain`: what the timers and a datagram do to the table
- `candidates_stable`: the table over a run
-/

namespace Nanortc.Spec

open Nanortc.ForStd Nanortc.Native

/-! ### Indices in the agent -/

/-- Every index that the agent stores is one of its table; a base of 0 or 255 may stand for none. -/
structure Anchored (ice : NanoIce) : Prop where
  pending : ∀ p ∈ ice.pending, p.idle = false → p.localIdx < ice.localCandidates.length
  selected : ice.nominated = true → ice.selectedLocalIdx < ice.localCandidates.length
  base : ice.srflxBaseIdx = 0 ∨ ice.srflxBaseIdx = iceLocalIdxUnknown ∨
    ice.srflxBaseIdx < ice.localCandidates.length

/-- The table and its base are kept, and every new index is one of the table. -/
structure Anchors (ice ice' : NanoIce) : Prop where
  table : ice'.localCandidates = ice.localCandidates
  anchored : Anchored ice → Anchored ice'

instance : Std.Refl Anchors := ⟨fun _ => ⟨rfl, id⟩⟩

instance : Trans Anchors Anchors Anchors :=
  ⟨fun h h' => ⟨h'.table.trans h.table, fun ha => h'.anchored (h.anchored ha)⟩⟩

/-- One slot written with an index of the table. -/
theorem anchors_setSlot {ice : NanoIce} (slot : Nat) {p : IcePending}
    (h : Anchored ice → p.idle = false → p.localIdx < ice.localCandidates.length) :
    Anchors ice (ice.setSlot slot p) where
  table := rfl
  anchored ha := by
    refine ⟨fun q hq hidle => ?_, ha.selected, ha.base⟩
    obtain ⟨rfl, -⟩ | hq := mem_set_cases hq
    · exact h ha hidle
    · exact ha.pending q hq hidle

/-- A slot that is out of range reads as an idle one. -/
theorem Anchored.slot {ice : NanoIce} (h : Anchored ice) (slot : Nat)
    (hidle : (ice.pending.getD slot default).idle = false) :
    (ice.pending.getD slot default).localIdx < ice.localCandidates.length := by
  by_cases hlt : slot < ice.pending.length
  · exact h.pending _ (getD_mem hlt) hidle
  · rw [List.getD_eq_getElem?_getD, List.getElem?_eq_none (Nat.le_of_not_lt hlt)] at hidle
    cases hidle

theorem anchors_unqueueCheck (ice : NanoIce) (slot : Nat) :
    Anchors ice (iceUnqueueCheck ice slot) := by
  unfold iceUnqueueCheck
  dsimp only
  split
  · rename_i hqueued
    refine ⟨rfl, fun ha => ⟨fun q hq hidle => ?_, ha.selected, ha.base⟩⟩
    obtain ⟨rfl, -⟩ | hq := mem_set_cases hq
    · have hbusy : (ice.pending.getD slot default).idle = false := by
        unfold IcePending.idle
        rw [Bool.and_eq_false_iff]
        right
        rw [beq_eq_false_iff_ne]
        intro hflags
        rw [hflags] at hqueued
        cases hqueued
      exact ha.slot slot hbusy
    · obtain ⟨q', hq', rfl⟩ := List.mem_map.mp hq
      split at hidle
      · rename_i hmoved
        rw [if_pos hmoved]
        exact ha.pending q' hq' hidle
      · rename_i hstays
        rw [if_neg hstays]
        exact ha.pending q' hq' hidle
  · exact Std.Refl.refl (r := Anchors) ice

theorem anchors_selectPair {ice : NanoIce} {lcl : Nat} (remote : Nat)
    (h : Anchored ice → lcl < ice.localCandidates.length) :
    Anchors ice (iceSelectPair ice lcl remote) :=
  ⟨rfl, fun ha => ⟨ha.pending, fun _ => h ha, ha.base⟩⟩

theorem iceClaimSlot_anchored {ice : NanoIce} (ha : Anchored ice) {lcl : Nat}
    (hlcl : lcl < ice.localCandidates.length) (remote slot : Nat) :
    (iceClaimSlot ice lcl remote (ice.pending.getD slot default)).localIdx <
      ice.localCandidates.length := by
  unfold iceClaimSlot
  split
  · exact hlcl
  · rename_i hown
    refine ha.slot slot ?_
    simp only [Bool.or_eq_true, not_or, Bool.not_eq_true] at hown
    exact hown.1

theorem anchors_triggerCheck (ice : NanoIce) (lcl : Nat) (src : NanortcAddr) (nominate : Bool) :
    Anchors ice (iceTriggerCheck ice lcl src nominate).1 := by
  unfold iceTriggerCheck
  split
  · exact Std.Refl.refl (r := Anchors) ice
  split
  · exact Std.Refl.refl (r := Anchors) ice
  rename_i hlocal
  have hlcl : lcl < ice.localCandidates.length := Nat.lt_of_not_le fun h => hlocal (.inl h)
  dsimp only
  cases hslot : iceFindSlot ice lcl (ice.remoteCandidates.findIdx (iceAddrMatches · src)) with
  | none => exact Std.Refl.refl (r := Anchors) ice
  | some slot =>
    dsimp only
    split
    · exact Std.Refl.refl (r := Anchors) ice
    let p := iceClaimSlot ice lcl (ice.remoteCandidates.findIdx (iceAddrMatches · src))
      (ice.pending.getD slot default)
    have hp (ha : Anchored ice) : p.localIdx < ice.localCandidates.length :=
      iceClaimSlot_anchored ha hlcl _ slot
    -- the source learned changes the remote candidates only
    let learned : NanoIce := { ice with remoteCandidates := iceLearnRemote ice src }
    have hlearned : Anchors ice learned := ⟨rfl, fun ha => ⟨ha.pending, ha.selected, ha.base⟩⟩
    have hset {q : IcePending} (hq : q.localIdx = p.localIdx) :
        Anchors ice (learned.setSlot slot q) := by
      refine ⟨rfl, fun ha => ?_⟩
      have hlt : q.localIdx < learned.localCandidates.length := by
        rw [hq]
        exact hp ha
      exact (anchors_setSlot slot fun _ _ => hlt).anchored (hlearned.anchored ha)
    split
    · dsimp only
      split
      · refine ⟨rfl, fun ha => ?_⟩
        have hgrant : Anchors ice (learned.setSlot slot (p.grant nominate)) := hset rfl
        have hwritten := hgrant.anchored ha
        have hlt : p.localIdx < (learned.setSlot slot (p.grant nominate)).localCandidates.length :=
          hp ha
        exact (anchors_selectPair _ fun _ => hlt).anchored hwritten
      · exact hset rfl
    split
    · obtain ⟨n, hqueue⟩ := iceQueueCheck_setSlot learned (p.grant nominate).retrigger
        (iceFindSlot_lt hslot)
      dsimp only
      rw [hqueue]
      exact hset rfl
    · exact hset rfl

theorem anchors_handleRequest (crypto : CryptoProvider) (ice : NanoIce) (data : List UInt8)
    (msg : StunMsg) (src : NanortcAddr) (localIdx : Nat) (viaTurn : Bool) (room : Nat) :
    Anchors ice (iceHandleRequest crypto ice data msg src localIdx viaTurn room).1 := by
  obtain h | ⟨-, -, h⟩ := iceHandleRequest_cases crypto ice data msg src localIdx viaTurn room
  · rw [h]
    exact Std.Refl.refl (r := Anchors) ice
  · rw [h]
    exact anchors_triggerCheck ice _ src _

/-- The index a successful check is recorded for is one of the table. -/
theorem iceMappedLocal_lt {ice : NanoIce} (msg : StunMsg) {lcl : Nat}
    (h : lcl < ice.localCandidates.length) :
    iceMappedLocal ice msg lcl < ice.localCandidates.length := by
  unfold iceMappedLocal
  dsimp only
  cases hfind : (List.range ice.localCandidates.length).find? _ with
  | none => exact h
  | some i => exact List.mem_range.mp (List.mem_of_find?_eq_some hfind)

theorem anchors_checkSucceeded {ice : NanoIce} {slot : Nat} (msg : StunMsg)
    (hslot : slot < ice.pending.length)
    (h : (ice.pending.getD slot default).localIdx < ice.localCandidates.length) :
    Anchors ice (iceCheckSucceeded ice slot msg) := by
  have hmapped := iceMappedLocal_lt msg h
  unfold iceCheckSucceeded
  dsimp only
  split
  · split
    · have hselect : Anchors ice (iceSelectPair ice
          (iceMappedLocal ice msg (ice.pending.getD slot default).localIdx)
          (ice.pending.getD slot default).remoteIdx) :=
        anchors_selectPair _ fun _ => hmapped
      exact Trans.trans hselect (anchors_setSlot slot fun _ _ => hmapped)
    split
    · obtain ⟨n, hqueue⟩ := iceQueueCheck_setSlot ice
        { ice.pending.getD slot default with
          inFlight := false
          localIdx := iceMappedLocal ice msg (ice.pending.getD slot default).localIdx
          flags := { valid := true, nominate := true } } hslot
      rw [hqueue]
      exact anchors_setSlot slot fun _ _ => hmapped
    · exact anchors_setSlot slot fun _ _ => hmapped
  · exact anchors_setSlot slot fun _ _ => hmapped

theorem anchors_handleResponse (crypto : CryptoProvider) (ice : NanoIce) (data : List UInt8)
    (msg : StunMsg) (src : NanortcAddr) (localIdx : Nat) (viaTurn : Bool) :
    Anchors ice (iceHandleResponse crypto ice data msg src localIdx viaTurn).1 := by
  obtain h | ⟨-, ⟨-, -, h⟩ | ⟨slot, hslot, hpath, h⟩⟩ :=
    iceHandleResponse_cases crypto ice data msg src localIdx viaTurn
  · rw [h]
    exact Std.Refl.refl (r := Anchors) ice
  · rw [h]
    exact ⟨rfl, fun ha => ⟨ha.pending, ha.selected, ha.base⟩⟩
  · rw [h]
    apply anchors_checkSucceeded msg (List.findIdx?_eq_some_iff_findIdx_eq.mp hslot).1
    unfold iceAsymmetric at hpath
    simp only [Bool.or_eq_false_iff, decide_eq_false_iff_not, Nat.not_le] at hpath
    exact hpath.1.1.1

theorem anchors_handleStun (crypto : CryptoProvider) (ice : NanoIce) (data : List UInt8)
    (src : NanortcAddr) (localIdx : Nat) (viaTurn : Bool) (room : Nat) :
    Anchors ice (iceHandleStun crypto ice data src localIdx viaTurn room).1 := by
  unfold iceHandleStun
  split
  · exact Std.Refl.refl (r := Anchors) ice
  · split
    · exact anchors_handleRequest crypto ice data _ src localIdx viaTurn room
    split
    · exact anchors_handleResponse crypto ice data _ src localIdx viaTurn
    split
    · rename_i msg _ _ _ _
      obtain h | ⟨slot, h⟩ := iceHandleError_cases crypto ice data msg
      · dsimp only
        rw [h]
        exact Std.Refl.refl (r := Anchors) ice
      · dsimp only
        rw [h]
        exact anchors_setSlot slot fun _ hidle => nomatch hidle
    · exact Std.Refl.refl (r := Anchors) ice

/-! ### Checks -/

/-- The check is of a pair that is ready, unless it is given up. -/
def ReadyCheck (ice : NanoIce) (ready : Option (List Bool)) (check : IceCheck) : Prop :=
  check.slot.isSome → check.expire = false →
    icePairReady ice check.localIdx check.remoteIdx ready = true

theorem iceScanSlot_ready {ice : NanoIce} {ready : Option (List Bool)} {scan : IceScan}
    (h : ReadyCheck ice ready scan.check) (nowMs pace : UInt32) (i : Nat) :
    ReadyCheck ice ready (iceScanSlot ice nowMs ready pace scan i).check := by
  unfold iceScanSlot
  dsimp only
  split
  · split <;> exact h
  split
  · exact h
  rename_i hready
  split
  · intro _ hexpire
    dsimp only at hexpire ⊢
    rw [hexpire] at hready
    simpa using hready
  · exact h

/-- The check handed out is of a ready pair. -/
theorem iceGetCheck_ready (ice : NanoIce) (nowMs : UInt32) (ready : Option (List Bool)) :
    ReadyCheck ice ready (iceGetCheck ice nowMs ready).2 := by
  have hnone {check : IceCheck} (h : check.slot = none) : ReadyCheck ice ready check :=
    fun hsome => by simp [h] at hsome
  have hscan (slots : List Nat) (pace : UInt32) (scan : IceScan)
      (h : ReadyCheck ice ready scan.check) :
      ReadyCheck ice ready (slots.foldl (iceScanSlot ice nowMs ready pace) scan).check := by
    induction slots generalizing scan with
    | nil => exact h
    | cons i slots ih => exact ih _ (iceScanSlot_ready h nowMs pace i)
  unfold iceGetCheck
  dsimp only
  split
  · exact hnone rfl
  split
  · exact hnone rfl
  split
  · exact hnone rfl
  have hfound := hscan (List.range iceMaxPendingChecks) (icePace ice nowMs)
    ⟨⟨none, 0, 0, false, false⟩, 0xFFFFFFFF, none, false⟩ (hnone rfl)
  revert hfound
  generalize (List.range iceMaxPendingChecks).foldl
    (iceScanSlot ice nowMs ready (icePace ice nowMs)) _ = scan
  intro hfound
  split
  · exact hfound
  split
  · split
    · exact hnone rfl
    · exact hfound
  split
  · rename_i hnext
    split
    · intro _ _
      have hpair := List.find?_some hnext
      rw [Bool.and_eq_true] at hpair
      exact hpair.1
    · exact hfound
  · exact hfound

theorem icePairReady_local {ice : NanoIce} {lcl remote : Nat} {ready : Option (List Bool)}
    (h : icePairReady ice lcl remote ready = true) : lcl < ice.localCandidates.length := by
  simp only [icePairReady, Bool.and_eq_true, decide_eq_true_eq] at h
  exact h.1.1.1

theorem anchors_sendCheck (crypto : CryptoProvider) (ice : NanoIce) (nowMs : UInt32)
    {check : IceCheck} {ready : Option (List Bool)} (h : ReadyCheck ice ready check)
    (hslot : ∀ slot, check.slot = some slot → CheckOfSlot ice check slot)
    (random : Option (List UInt8)) (room : Nat) :
    Anchors ice (iceSendCheck crypto ice nowMs check random room).1 := by
  unfold iceSendCheck
  split
  · split
    · exact ⟨rfl, fun ha => ⟨ha.pending, ha.selected, ha.base⟩⟩
    · exact Trans.trans (anchors_unqueueCheck ice _)
        (anchors_setSlot _ fun _ hidle => nomatch hidle)
  rename_i hexpire
  split
  · exact Std.Refl.refl (r := Anchors) ice
  rename_i slot hsome
  split
  · exact Std.Refl.refl (r := Anchors) ice
  split
  · exact Std.Refl.refl (r := Anchors) ice
  dsimp only
  split
  · exact Std.Refl.refl (r := Anchors) ice
  split
  · exact Std.Refl.refl (r := Anchors) ice
  · have hready : check.localIdx < ice.localCandidates.length :=
      icePairReady_local (h (by simp [hsome]) (by simpa using hexpire))
    -- a retransmission keeps the index of its slot, which is the check's
    have hindex : (iceCheckTransaction (ice.pending.getD slot default) check (random.getD [])
        nowMs).launch.localIdx < ice.localCandidates.length := by
      unfold iceCheckTransaction
      split
      · rename_i hagain
        obtain ⟨hsame, -⟩ | ⟨-, hnew⟩ := (hslot slot hsome).pair
        · exact hsame ▸ hready
        · rw [hnew] at hagain
          cases hagain
      · exact hready
    have hset : Anchors (iceUnqueueCheck ice slot) ((iceUnqueueCheck ice slot).setSlot slot
        (iceCheckTransaction (ice.pending.getD slot default) check (random.getD [])
          nowMs).launch) := by
      refine anchors_setSlot slot fun _ _ => ?_
      rw [(anchors_unqueueCheck ice slot).table]
      exact hindex
    have hsent := Trans.trans (anchors_unqueueCheck ice slot) hset
    exact ⟨hsent.table, fun ha =>
      have ha' := hsent.anchored ha
      ⟨ha'.pending, ha'.selected, ha'.base⟩⟩

theorem anchors_generateConsent (crypto : CryptoProvider) (ice : NanoIce) (nowMs : UInt32)
    (random : Option (List UInt8)) (room : Nat) :
    Anchors ice (iceGenerateConsent crypto ice nowMs random room).1 := by
  unfold iceGenerateConsent
  split
  · exact Std.Refl.refl (r := Anchors) ice
  split
  · exact Std.Refl.refl (r := Anchors) ice
  split
  · exact Std.Refl.refl (r := Anchors) ice
  split
  · exact Std.Refl.refl (r := Anchors) ice
  split
  · exact Std.Refl.refl (r := Anchors) ice
  · exact ⟨rfl, fun ha => ⟨ha.pending, ha.selected, ha.base⟩⟩

/-! ### Timers -/

section
variable {Ctx Rx : Type}

/-- The table stays, and every new index is one of it. -/
structure TableKept (rtc rtc' : Rtc Ctx Rx) : Prop where
  agent : Anchors rtc.ice rtc'.ice
  hosts : (announced rtc).HandsOut (announced rtc')

instance : Std.Refl (@TableKept Ctx Rx) :=
  ⟨fun rtc => ⟨Std.Refl.refl (r := Anchors) rtc.ice, .refl _⟩⟩

instance : Trans (@TableKept Ctx Rx) TableKept TableKept :=
  ⟨fun h h' => ⟨Trans.trans h.agent h'.agent, h.hosts.trans h'.hosts⟩⟩

theorem Aside.tableKept {rtc rtc' : Rtc Ctx Rx} (h : Aside rtc rtc') : TableKept rtc rtc' where
  agent := by
    rw [h.ice]
    exact Std.Refl.refl (r := Anchors) rtc.ice
  hosts := h.hosts ▸ .refl _

theorem MovesAt.tableKept {α : Type} {m : RtcM Ctx Rx α} {rtc : Rtc Ctx Rx}
    (h : MovesAt Aside m rtc) : MovesAt TableKept m rtc := Aside.tableKept h

theorem Negotiates.tableKept {rtc rtc' : Rtc Ctx Rx} (h : Negotiates rtc rtc') :
    TableKept rtc rtc' := by
  have hbare : Anchors (NanoIce.bare rtc.ice) (NanoIce.bare rtc'.ice) := by
    rw [h.ice]
    exact Std.Refl.refl (r := Anchors) _
  refine ⟨⟨hbare.table, fun ha => ?_⟩, h.hosts⟩
  have ha' := hbare.anchored ⟨ha.pending, ha.selected, ha.base⟩
  exact ⟨ha'.pending, ha'.selected, ha'.base⟩

variable (p : Platform Ctx Rx) (e : Entropy)

theorem tableKept_timersCheck (nowMs : UInt32) : Moves TableKept (rtcTimersCheck p e nowMs) := by
  intro rtc
  unfold rtcTimersCheck
  apply movesAt_get_bind.mpr
  dsimp only
  apply MovesAt.ite_pure
  intro _
  apply MovesAt.bind (MovesAt.tableKept (aside_deferredAcquire rtc))
  intro slot rtc₁ hslot
  -- the slot is acquired beside the agent, so the check is still of a ready pair
  have hice : rtc₁.ice = rtc.ice := (MovesAt.ok (aside_deferredAcquire rtc) hslot).ice
  apply movesAt_get_bind.mpr
  have hcheck : MovesAt TableKept (onIce fun ice => iceSendCheck p.crypto ice nowMs
      (rtcIceGetCheck rtc.toNanoRtc nowMs).2 e.iceTxid txSlotSize : RtcM Ctx Rx _) rtc₁ := by
    apply movesAt_onIce.mpr
    refine ⟨?_, .refl _⟩
    show Anchors rtc₁.ice (iceSendCheck p.crypto rtc₁.ice nowMs _ e.iceTxid txSlotSize).1
    rw [hice]
    exact anchors_sendCheck p.crypto rtc.ice nowMs (iceGetCheck_ready rtc.ice nowMs _)
      (iceGetCheck_ok rtc.ice nowMs _) e.iceTxid txSlotSize
  apply MovesAt.bind hcheck
  intro sent rtc₂ _
  split
  · apply MovesAt.bind (MovesAt.tableKept (aside_sendCheck slot _ rtc₂))
    exact fun _ rtc₃ _ => MovesAt.tableKept (aside_afterCheck _ rtc₃)
  · exact MovesAt.tableKept (aside_afterCheck _ rtc₂)

theorem tableKept_timersConsent (nowMs : UInt32) :
    Moves TableKept (rtcTimersConsent p e nowMs) := by
  intro rtc
  unfold rtcTimersConsent
  apply movesAt_get_bind.mpr
  apply MovesAt.ite_pure
  intro _
  apply MovesAt.ite
  · intro _
    apply movesAt_set_bind
    · exact ⟨⟨rfl, fun ha => ⟨ha.pending, ha.selected, ha.base⟩⟩, .refl _⟩
    · apply MovesAt.bind (MovesAt.tableKept (aside_emit _ _))
      exact fun _ rtc' _ => MovesAt.tableKept (aside_emitDisconnected rtc')
  · intro _
    apply MovesAt.ite_pure
    intro _
    unfold rtcSendConsent
    apply MovesAt.bind (MovesAt.tableKept (aside_deferredAcquire rtc))
    intro slot rtc₁ _
    apply MovesAt.bind (movesAt_onIce.mpr ⟨anchors_generateConsent .., .refl _⟩)
    intro packet rtc₂ _
    apply MovesAt.ite_pure
    intro _
    exact movesAt_get_bind.mpr (MovesAt.tableKept (aside_txSlotSend _ _ _ _ _ rtc₂))

/-- The base of the reflexive candidate is in the table, or there is none. -/
theorem iceSrflxBase_anchored (ice : NanoIce) (family : UInt8) :
    iceSrflxBase ice family = iceLocalIdxUnknown ∨
      iceSrflxBase ice family < ice.localCandidates.length := by
  unfold iceSrflxBase
  cases hfind : ice.localCandidates.findIdx? _ with
  | none => exact .inl rfl
  | some i => exact .inr (List.findIdx?_eq_some_iff_findIdx_eq.mp hfind).1

theorem tableKept_timersStun (nowMs : UInt32) :
    Moves TableKept (rtcTimersStun e nowMs : RtcM Ctx Rx Unit) := by
  intro rtc
  unfold rtcTimersStun
  apply movesAt_get_bind.mpr
  apply MovesAt.ite_pure
  intro _
  apply MovesAt.bind (MovesAt.tableKept (aside_deferredAcquire rtc))
  intro slot rtc₁ _
  apply movesAt_get_bind.mpr
  dsimp only
  split
  · exact movesAt_throw _
  · apply movesAt_set_bind
    · refine ⟨⟨rfl, fun ha => ⟨ha.pending, ha.selected, ?_⟩⟩, .refl _⟩
      show (if rtc₁.stunRetries = 0 then _ else _) = 0 ∨ _
      split
      · exact .inr (iceSrflxBase_anchored rtc₁.ice _)
      · exact ha.base
    · apply MovesAt.bind (MovesAt.tableKept (aside_txSlotSend _ _ _ _ _ _))
      exact fun _ rtc₂ _ => MovesAt.tableKept (movesAt_modify.mpr ⟨rfl, rfl, .inl rfl⟩)

/-- The timers leave the table alone. -/
theorem tableKept_processTimers (nowMs : UInt32) :
    Moves TableKept (rtcProcessTimers p e nowMs) := by
  show Moves TableKept (do
    rtcTimersCheck p e nowMs
    rtcTimersConsent p e nowMs
    rtcTimersTurn p e nowMs
    rtcTimersDtlsOutput
    rtcTimersDtls p e nowMs
    rtcTimersStun e nowMs
    timersTail p e nowMs)
  apply Moves.bind (tableKept_timersCheck p e nowMs)
  intro _
  apply Moves.bind (tableKept_timersConsent p e nowMs)
  intro _
  apply Moves.bind fun rtc => MovesAt.tableKept (aside_timersTurn p e nowMs rtc)
  intro _
  apply Moves.bind fun rtc => MovesAt.tableKept (aside_timersDtlsOutput rtc)
  intro _
  apply Moves.bind fun rtc => MovesAt.tableKept (aside_timersDtls p e nowMs rtc)
  intro _
  apply Moves.bind (tableKept_timersStun e nowMs)
  exact fun _ rtc => MovesAt.tableKept (aside_timersTail p e nowMs rtc)

/-! ### Candidates learned from servers -/

/-- The relayed candidate that a response of the TURN server brings. -/
def learnedRelay (rtc : Rtc Ctx Rx) (data : List UInt8) : Option (IceCandType × NanortcAddr) :=
  let r := turnHandleResponse p.crypto rtc.turn rtc.nowMs data
  if r.2 = .ok ∧ rtc.turn.state ≠ .allocated ∧ r.1.state = .allocated then
    some (.relay, rtcPeerSrc r.1.relay.family r.1.relay.addr r.1.relay.port)
  else none

/-- The reflexive candidate that a response of the server asked for it brings. -/
def learnedSrflx (rtc : Rtc Ctx Rx) (data : List UInt8) : Option (IceCandType × NanortcAddr) :=
  match stunParse data with
  | .error _ => none
  | .ok msg =>
    if msg.type = stunBindingResponse ∧ msg.transactionId = rtc.stunTxid ∧ msg.mapped.family ≠ 0 then
      some (.srflx, rtcPeerSrc msg.mapped.family msg.mapped.addr msg.mapped.port)
    else none

/-- The candidate that a datagram brings once relay framing is off. -/
def learned (rtc : Rtc Ctx Rx) (data : List UInt8) (src : NanortcAddr) :
    Option (IceCandType × NanortcAddr) :=
  if byteAt data 0 ≤ 3 then
    if !rtcSrflxPending rtc.toNanoRtc data src ∧ turnIsFromServer rtc.turn src then
      learnedRelay p rtc data
    else if rtcFromStunServer rtc.toNanoRtc src then learnedSrflx rtc data
    else none
  else none

/-- The agent with a candidate learned, if one is. -/
def iceLearn (ice : NanoIce) : Option (IceCandType × NanortcAddr) → NanoIce
  | some (type, addr) => iceAddLocal ice type addr
  | none => ice

/-- What a connection announces with a candidate learned. -/
def Announced.learn (a : Announced) : Option (IceCandType × NanortcAddr) → Announced
  | none => a
  | some (.relay, addr) =>
    { a with relay := sdpWriteAddr a.relay addr, hasRelay := true, relayPending := true }
  | some (_, addr) =>
    { a with srflx := sdpWriteAddr a.srflx addr, hasSrflx := true, srflxPending := true }

theorem Announced.HandsOut.learn {a b : Announced} (h : a.HandsOut b)
    (l : Option (IceCandType × NanortcAddr)) : (a.learn l).HandsOut (b.learn l) := by
  unfold Announced.learn
  split
  · exact h
  · refine ⟨?_, h.srflx, fun _ => rfl⟩
    dsimp only
    rw [h.same]
  · refine ⟨?_, fun _ => rfl, h.relay⟩
    dsimp only
    rw [h.same]

/-- The table and the announcement take the candidate learned, and every new index is one of the
table. -/
structure Grows (l : Option (IceCandType × NanortcAddr)) (rtc rtc' : Rtc Ctx Rx) : Prop where
  table : rtc'.ice.localCandidates = (iceLearn rtc.ice l).localCandidates
  anchored : Anchored rtc.ice → Anchored rtc'.ice
  hosts : ((announced rtc).learn l).HandsOut (announced rtc')

theorem TableKept.grows {rtc rtc' : Rtc Ctx Rx} (h : TableKept rtc rtc') : Grows none rtc rtc' :=
  ⟨h.agent.table, h.agent.anchored, h.hosts⟩

theorem iceAddLocal_extends (ice : NanoIce) (type : IceCandType) (addr : NanortcAddr) :
    ice.localCandidates <+: (iceAddLocal ice type addr).localCandidates := by
  unfold iceAddLocal
  split
  · exact List.prefix_append _ _
  · exact List.prefix_rfl

/-- A longer table keeps the indices. -/
theorem Anchored.longer {ice : NanoIce} (h : Anchored ice) {table : List IceCandidate}
    (hpre : ice.localCandidates <+: table) : Anchored { ice with localCandidates := table } := by
  have hle := hpre.length_le
  refine ⟨fun q hq hidle => ?_, fun hnom => ?_, ?_⟩
  · exact Nat.lt_of_lt_of_le (h.pending q hq hidle) hle
  · exact Nat.lt_of_lt_of_le (h.selected hnom) hle
  · exact h.base.imp id (Or.imp id fun hbase => Nat.lt_of_lt_of_le hbase hle)

theorem iceAddLocal_anchored {ice : NanoIce} (h : Anchored ice) (type : IceCandType)
    (addr : NanortcAddr) : Anchored (iceAddLocal ice type addr) := by
  have hlonger := h.longer (iceAddLocal_extends ice type addr)
  unfold iceAddLocal at hlonger ⊢
  split at hlonger
  · rename_i hnew
    rw [if_pos hnew]
    exact hlonger
  · rename_i hknown
    rw [if_neg hknown]
    exact h

/-- A response of the TURN server. -/
theorem grows_receiveTurn (rtc : Rtc Ctx Rx) (data : List UInt8) :
    Grows (learnedRelay p rtc data) rtc (after (rtcReceiveTurn p data) rtc) := by
  unfold rtcReceiveTurn learnedRelay
  rw [after_bind_ok (show (get : RtcM Ctx Rx (Rtc Ctx Rx)) rtc = .ok rtc rtc from rfl)]
  dsimp only
  let respond : RtcM Ctx Rx Unit := onTurn fun turn =>
    ((turnHandleResponse p.crypto turn rtc.nowMs data).1,
      (turnHandleResponse p.crypto turn rtc.nowMs data).2.outcome)
  obtain ⟨turn, rc, hresp⟩ : ∃ turn rc,
    turnHandleResponse p.crypto rtc.turn rtc.nowMs data = (turn, rc) := ⟨_, _, rfl⟩
  have hrun : respond rtc = match rc.outcome with
      | .ok () => .ok () (rtc.withTurn turn)
      | .error rc => .error rc (rtc.withTurn turn) := by
    show onTurn _ rtc = _
    unfold onTurn
    dsimp only
    rw [hresp]
    cases rc <;> rfl
  have hturn : Grows none rtc (rtc.withTurn turn) :=
    TableKept.grows (Aside.tableKept ⟨rfl, rfl, .inl rfl⟩)
  rw [hresp]
  by_cases hok : rc = .ok
  · rw [hok] at hrun
    rw [after_bind_ok hrun]
    by_cases halloc : rtc.turn.state ≠ .allocated ∧ turn.state = .allocated
    · rw [if_pos ⟨hok, halloc⟩]
      show Grows _ rtc (after (if rtc.turn.state ≠ .allocated ∧ turn.state = .allocated then _
        else _ : RtcM Ctx Rx Unit) (rtc.withTurn turn))
      rw [if_pos halloc]
      exact ⟨rfl, fun ha => iceAddLocal_anchored ha _ _, .refl _⟩
    · rw [if_neg fun h => halloc h.2]
      show Grows none rtc (after (if rtc.turn.state ≠ .allocated ∧ turn.state = .allocated then _
        else _ : RtcM Ctx Rx Unit) (rtc.withTurn turn))
      rw [if_neg halloc]
      exact hturn
  · have hfail : rc.outcome = .error rc := by
      cases rc with
      | ok => exact absurd rfl hok
      | _ => rfl
    rw [hfail] at hrun
    rw [if_neg fun h => hok h.1, after_bind_error hrun]
    exact hturn

/-- A response of the server asked for the reflexive candidate. -/
theorem grows_receiveSrflx (rtc : Rtc Ctx Rx) (data : List UInt8) :
    Grows (learnedSrflx rtc data) rtc (after (rtcReceiveSrflx data) rtc) := by
  have hsame : Grows none rtc rtc := TableKept.grows (Std.Refl.refl (r := TableKept) rtc)
  unfold rtcReceiveSrflx learnedSrflx
  cases hmsg : stunParse data with
  | error rc => exact hsame
  | ok msg =>
    show Grows _ rtc (after (if msg.type = stunBindingResponse ∧ msg.transactionId = rtc.stunTxid ∧
      msg.mapped.family ≠ 0 then _ else _ : RtcM Ctx Rx Unit) rtc)
    dsimp only
    by_cases hresp : msg.type = stunBindingResponse ∧ msg.transactionId = rtc.stunTxid ∧
        msg.mapped.family ≠ 0
    · rw [if_pos hresp, if_pos hresp]
      exact ⟨rfl, fun ha => iceAddLocal_anchored ha _ _, .refl _⟩
    · rw [if_neg hresp, if_neg hresp]
      exact hsame

/-! ### A datagram -/

theorem anchors_refreshConsent (wasPending : Bool) (src : NanortcAddr) (ice : NanoIce)
    (nowMs : UInt32) : Anchors ice (rtcRefreshConsent wasPending src ice nowMs) := by
  have hexpiry (ice' : NanoIce) (expiry : UInt32) :
      Anchors ice' { ice' with consentExpiryMs := expiry } :=
    ⟨rfl, fun ha => ⟨ha.pending, ha.selected, ha.base⟩⟩
  unfold rtcRefreshConsent
  dsimp only
  generalize nanoTimeDeadline nowMs iceConsentTimeoutMs = deadline
  split
  · split
    · exact Trans.trans (hexpiry ice deadline) (hexpiry _ deadline)
    · exact hexpiry ice deadline
  · split
    · exact hexpiry ice deadline
    · exact Std.Refl.refl (r := Anchors) ice

theorem tableKept_iceConnected (src : NanortcAddr) :
    Moves TableKept (rtcIceConnected p src : RtcM Ctx Rx Unit) := by
  intro rtc
  unfold rtcIceConnected
  apply movesAt_get_bind.mpr
  dsimp only
  generalize nanoTimeDeadline rtc.nowMs iceConsentIntervalMs = next
  generalize nanoTimeDeadline rtc.nowMs iceConsentTimeoutMs = expiry
  apply MovesAt.ite_pure
  intro _
  apply movesAt_set_bind
  · exact ⟨⟨rfl, fun ha => ⟨ha.pending, ha.selected, ha.base⟩⟩, .refl _⟩
  · apply MovesAt.bind (MovesAt.tableKept (aside_emit _ _))
    intro _ rtc' hemit
    apply MovesAt.tableKept
    apply aside_beginDtls
    exact congrArg Layers.state (layers_ok (layers_emitIceStateChange _) hemit)

theorem tableKept_receiveStun (data : List UInt8) (src : NanortcAddr) (localIdx : Nat)
    (viaTurn : Bool) : Moves TableKept (rtcReceiveStun p data src localIdx viaTurn) := by
  have hmessage (wasPending isRequest : Bool) (slot room : Nat) :
      Moves TableKept (do
        let packet ← onIce fun ice => iceHandleStun p.crypto ice data src localIdx viaTurn room
        modify fun rtc => rtc.withIce (rtcRefreshConsent wasPending src rtc.ice rtc.nowMs)
        if packet ≠ [] then
          if !isRequest then throw .protocol
          rtcSendStunResponse slot packet src localIdx viaTurn
        rtcIceConnected p src : RtcM Ctx Rx Unit) := by
    apply Moves.bind fun rtc => movesAt_onIce.mpr ⟨anchors_handleStun .., .refl _⟩
    intro packet rtc
    apply movesAt_modify_bind ⟨anchors_refreshConsent wasPending src rtc.ice rtc.nowMs, .refl _⟩
    apply MovesAt.ite
    · intro _
      apply MovesAt.ite
      · exact fun _ => movesAt_throw_bind _ _
      · intro _
        apply MovesAt.bind (MovesAt.tableKept (aside_sendStunResponse slot packet src localIdx
          viaTurn _))
        exact fun _ rtc' _ => tableKept_iceConnected p src rtc'
    · exact fun _ => tableKept_iceConnected p src _
  intro rtc
  unfold rtcReceiveStun
  apply movesAt_get_bind.mpr
  show MovesAt TableKept (if (readU16be data 0 == stunBindingRequest) = true then _ else _) rtc
  split
  · apply MovesAt.bind (MovesAt.tableKept (aside_txSlotAcquire rtc))
    exact fun slot rtc' _ => hmessage rtc.ice.consentPending
      (readU16be data 0 == stunBindingRequest) slot txSlotSize rtc'
  · exact hmessage rtc.ice.consentPending (readU16be data 0 == stunBindingRequest) 0 stunBufSize rtc

theorem grows_receivePlain (rtc : Rtc Ctx Rx) (data : List UInt8) (src : NanortcAddr)
    (localIdx : Nat) (viaTurn : Bool) :
    Grows (learned p rtc data src) rtc
      (after (rtcReceivePlain p e data src localIdx viaTurn) rtc) := by
  have hkept {m : RtcM Ctx Rx Unit} (h : MovesAt TableKept m rtc) :
      MovesAt (Grows none) m rtc := TableKept.grows h
  show MovesAt (Grows (learned p rtc data src)) (rtcReceivePlain p e data src localIdx viaTurn) rtc
  unfold rtcReceivePlain learned
  apply movesAt_get_bind.mpr
  dsimp only
  apply MovesAt.ite
  · intro hstun
    rw [if_pos hstun]
    apply MovesAt.ite
    · intro hturn
      rw [if_pos hturn]
      exact grows_receiveTurn p rtc data
    · intro hturn
      rw [if_neg hturn]
      apply MovesAt.ite
      · intro hserver
        rw [if_pos hserver]
        exact grows_receiveSrflx rtc data
      · intro hserver
        rw [if_neg hserver]
        exact hkept (tableKept_receiveStun p data src localIdx viaTurn rtc)
  · intro hstun
    rw [if_neg hstun]
    apply MovesAt.ite
    · exact fun _ => hkept (MovesAt.tableKept (aside_receiveDtls p e data src rtc))
    · intro _
      apply MovesAt.ite
      · exact fun _ => hkept (MovesAt.tableKept (aside_receiveMedia p data rtc))
      · exact fun _ => hkept (movesAt_throw _)

/-! ### Calls -/

/-- The candidate that an input brings. -/
def discovered (rtc : Rtc Ctx Rx) (input : NanortcInput) : Option (IceCandType × NanortcAddr) :=
  match rtcRun (rtcProcessTimers p e input.nowMs) (rtcSetTime p input.nowMs rtc) with
  | (rtc, .ok) =>
    if input.data ≠ [] ∧ input.src.family ≠ 0 then
      match rtcInnermost rtc.toNanoRtc (input.data.length + 1) input.data input.src false with
      | some (data, src, _) => learned p rtc data src
      | none => none
    else none
  | _ => none

/-- The candidate that a call adds or discovers. -/
def accepted (rtc : Rtc Ctx Rx) (call : RtcCall) : Option (IceCandType × NanortcAddr) :=
  match call with
  | .handleInput e input => discovered p e rtc input
  | .addLocalCandidate ip port =>
    match (rtcCall p rtc call).2, addrParseAuto (cText ip) with
    | .ok, .ok (family, addr) => some (.host, ⟨family, addr, port⟩)
    | _, _ => none
  | _ => none

/-- The call keeps the order of the table: a host candidate is new and no other kind is in the
table yet, and there is room for a candidate of a server. -/
def orderly (rtc : Rtc Ctx Rx) (call : RtcCall) : Bool :=
  match accepted p rtc call with
  | none => true
  | some (_, addr) =>
    let known := rtc.ice.localCandidates.any (iceAddrMatches · addr)
    match call with
    | .addLocalCandidate _ _ =>
      rtc.ice.localCandidates.length == rtc.sdp.localCandidates.length && !known
    | _ => known || decide (rtc.ice.localCandidates.length < maxLocalCandidates)

/-- The address of a candidate. -/
def candidateAddr (c : IceCandidate) : NanortcAddr := ⟨c.family, c.addr, c.port⟩

theorem iceAddrMatches_iff {c : IceCandidate} {addr : NanortcAddr} :
    iceAddrMatches c addr = true ↔ candidateAddr c = addr := by
  obtain ⟨family, bytes, port⟩ := addr
  simp only [iceAddrMatches, candidateAddr, Bool.and_eq_true, beq_iff_eq, NanortcAddr.mk.injEq]
  constructor
  · rintro ⟨⟨hf, hp⟩, ha⟩
    exact ⟨hf, ha, hp⟩
  · rintro ⟨hf, ha, hp⟩
    exact ⟨⟨hf, hp⟩, ha⟩

/-- The addresses of the table. -/
def localAddrs (ice : NanoIce) : List NanortcAddr := ice.localCandidates.map candidateAddr

theorem any_iceAddrMatches {ice : NanoIce} {addr : NanortcAddr} :
    ice.localCandidates.any (iceAddrMatches · addr) = true ↔ addr ∈ localAddrs ice := by
  unfold localAddrs
  rw [List.any_eq_true, List.mem_map]
  exact exists_congr fun c => and_congr_right fun _ => iceAddrMatches_iff

/-- The table has no address twice, and the agent's indices are of it. -/
structure TableInv (rtc : Rtc Ctx Rx) : Prop where
  anchored : Anchored rtc.ice
  nodup : (localAddrs rtc.ice).Nodup

/-- The table grows at its end, and the candidate accepted is in it. -/
structure TableStep (l : Option (IceCandType × NanortcAddr)) (rtc rtc' : Rtc Ctx Rx) : Prop where
  table : rtc.ice.localCandidates <+: rtc'.ice.localCandidates
  inv : TableInv rtc'
  present : ∀ type addr, l = some (type, addr) → addr ∈ localAddrs rtc'.ice

theorem TableKept.tableStep {rtc rtc' : Rtc Ctx Rx} (h : TableKept rtc rtc') (hinv : TableInv rtc) :
    TableStep none rtc rtc' := by
  refine ⟨?_, ⟨h.agent.anchored hinv.anchored, ?_⟩, fun _ _ hnone => nomatch hnone⟩
  · rw [h.agent.table]
  · unfold localAddrs
    rw [h.agent.table]
    exact hinv.nodup

/-- A new entry at the end. -/
theorem nodup_snoc {table : List IceCandidate} (h : (table.map candidateAddr).Nodup)
    {c : IceCandidate} (hnew : candidateAddr c ∉ table.map candidateAddr) :
    ((table ++ [c]).map candidateAddr).Nodup := by
  rw [List.map_append, List.map_singleton, List.nodup_append]
  refine ⟨h, List.nodup_singleton _, fun a ha b hb => ?_⟩
  rw [List.mem_singleton.mp hb]
  exact fun heq => hnew (heq ▸ ha)

/-- A candidate learned from a server while there is room for it. -/
theorem iceAddLocal_present {ice : NanoIce} (type : IceCandType) {addr : NanortcAddr}
    (hnodup : (localAddrs ice).Nodup)
    (hroom : addr ∈ localAddrs ice ∨ ice.localCandidates.length < maxLocalCandidates) :
    (localAddrs (iceAddLocal ice type addr)).Nodup ∧
      addr ∈ localAddrs (iceAddLocal ice type addr) := by
  unfold iceAddLocal
  split
  · rename_i hnew
    have hnot : addr ∉ localAddrs ice := by
      rw [← any_iceAddrMatches]
      simpa using hnew.2
    refine ⟨nodup_snoc hnodup hnot, ?_⟩
    unfold localAddrs
    rw [List.map_append, List.mem_append]
    exact .inr (List.mem_singleton.mpr rfl)
  · rename_i hold
    refine ⟨hnodup, ?_⟩
    by_contra habsent
    refine hold ⟨hroom.resolve_left habsent, ?_⟩
    rw [Bool.not_eq_true', ← Bool.not_eq_true, any_iceAddrMatches]
    exact habsent

/-- A candidate is learned by its address and the table alone. -/
theorem iceLearn_table {ice ice' : NanoIce} (h : ice'.localCandidates = ice.localCandidates)
    (l : Option (IceCandType × NanortcAddr)) :
    (iceLearn ice' l).localCandidates = (iceLearn ice l).localCandidates := by
  cases l with
  | none => exact h
  | some c =>
    obtain ⟨type, addr⟩ := c
    show (iceAddLocal ice' type addr).localCandidates = (iceAddLocal ice type addr).localCandidates
    unfold iceAddLocal
    rw [h]
    split
    · rfl
    · exact h

theorem grows_handleInput (rtc : Rtc Ctx Rx) (input : NanortcInput) :
    Grows (discovered p e rtc input) rtc (rtcStep p rtc (.handleInput e input)) := by
  have htime : TableKept rtc (rtcSetTime p input.nowMs rtc) :=
    Aside.tableKept ⟨rfl, rfl, .inl rfl⟩
  have htimers : TableKept rtc
      (rtcRun (rtcProcessTimers p e input.nowMs) (rtcSetTime p input.nowMs rtc)).1 := by
    rw [rtcRun_fst]
    exact Trans.trans htime (tableKept_processTimers p e input.nowMs _)
  unfold discovered
  show Grows _ rtc (nanortcHandleInput p e rtc input).1
  unfold nanortcHandleInput
  revert htimers
  generalize rtcRun (rtcProcessTimers p e input.nowMs) (rtcSetTime p input.nowMs rtc) = r
  obtain ⟨ticked, rc⟩ := r
  intro (htimers : TableKept rtc ticked)
  cases rc with
  | ok =>
    dsimp only
    split
    · rw [rtcRun_fst]
      unfold rtcReceive
      rw [after_bind_ok (show (get : RtcM Ctx Rx (Rtc Ctx Rx)) ticked = .ok ticked ticked from rfl)]
      cases rtcInnermost ticked.toNanoRtc (input.data.length + 1) input.data input.src false with
      | none => exact htimers.grows
      | some inner =>
        obtain ⟨data, src, viaTurn⟩ := inner
        have hgrows := grows_receivePlain p e ticked data src
          (rtcResolveLocalIdx ticked.ice input.dst) viaTurn
        refine ⟨?_, fun ha => hgrows.anchored (htimers.agent.anchored ha),
          (htimers.hosts.learn _).trans hgrows.hosts⟩
        exact hgrows.table.trans (iceLearn_table htimers.agent.table _)
    · exact htimers.grows
  | _ => exact htimers.grows

/-- An input grows the table by the candidate it brings. -/
theorem tableStep_handleInput {rtc : Rtc Ctx Rx} (hinv : TableInv rtc) (input : NanortcInput)
    (horderly : orderly p rtc (.handleInput e input) = true) :
    TableStep (discovered p e rtc input) rtc (rtcStep p rtc (.handleInput e input)) := by
  have hgrows := grows_handleInput p e rtc input
  unfold orderly accepted at horderly
  dsimp only at horderly
  cases hbrings : discovered p e rtc input with
  | none =>
    rw [hbrings] at hgrows
    exact TableKept.tableStep ⟨⟨hgrows.table, hgrows.anchored⟩, hgrows.hosts⟩ hinv
  | some c =>
    obtain ⟨type, addr⟩ := c
    rw [hbrings] at hgrows horderly
    have haddrs : localAddrs (rtcStep p rtc (.handleInput e input)).ice =
        localAddrs (iceAddLocal rtc.ice type addr) := congrArg (List.map candidateAddr) hgrows.table
    have hroom : addr ∈ localAddrs rtc.ice ∨ rtc.ice.localCandidates.length < maxLocalCandidates := by
      rw [← any_iceAddrMatches]
      simpa only [Bool.or_eq_true, decide_eq_true_eq] using horderly
    obtain ⟨hnodup, hpresent⟩ := iceAddLocal_present type hinv.nodup hroom
    refine ⟨?_, ⟨hgrows.anchored hinv.anchored, ?_⟩, ?_⟩
    · rw [hgrows.table]
      exact iceAddLocal_extends rtc.ice type addr
    · rw [haddrs]
      exact hnodup
    · intro type' addr' heq
      cases heq
      rw [haddrs]
      exact hpresent

/-- The agent with a host candidate at an index of its table. -/
def iceAddHost (ice : NanoIce) (idx : Nat) (addr : NanortcAddr) : NanoIce :=
  { ice with
    localCandidates := ice.localCandidates.take idx ++ [⟨addr.addr, addr.port, addr.family, .host⟩] }

/-- A host candidate is refused, or written at the index of the description. -/
theorem addLocalCandidate_cases (rtc : Rtc Ctx Rx) (ip : List UInt8) (port : UInt16) :
    (accepted p rtc (.addLocalCandidate ip port) = none ∧
        rtcStep p rtc (.addLocalCandidate ip port) = rtc) ∨
      ∃ (addr : NanortcAddr) (text : LineText),
        accepted p rtc (.addLocalCandidate ip port) = some (.host, addr) ∧
        (rtcStep p rtc (.addLocalCandidate ip port)).ice =
          iceAddHost rtc.ice rtc.sdp.localCandidates.length addr ∧
        rtc.sdp.localCandidates.length < maxLocalCandidates ∧
        text.bytes.length < ipv6StrSize ∧ addrParseAuto text.bytes = .ok (addr.family, addr.addr) ∧
        announced (rtcStep p rtc (.addLocalCandidate ip port)) =
          { announced rtc with hosts := rtc.sdp.localCandidates ++ [⟨text, port⟩] } := by
  have hcall : rtcCall p rtc (.addLocalCandidate ip port) =
    rtcRun (nanortcAddLocalCandidate ip port) rtc := rfl
  have hrefused {rc : Rc} (h : rtcRun (nanortcAddLocalCandidate ip port) rtc = (rtc, rc))
      (hrc : rc ≠ .ok ∨ ∀ r, addrParseAuto (cText ip) ≠ .ok r) :
      accepted p rtc (.addLocalCandidate ip port) = none ∧
        rtcStep p rtc (.addLocalCandidate ip port) = rtc := by
    unfold accepted rtcStep
    dsimp only
    rw [hcall, h]
    refine ⟨?_, rfl⟩
    dsimp only
    split
    · rename_i hparse
      obtain hrc | hrc := hrc
      · exact absurd rfl hrc
      · exact absurd hparse (hrc _)
    · rfl
  by_cases hfull : rtc.sdp.localCandidates.length ≥ maxLocalCandidates
  · refine .inl (@hrefused .bufferTooSmall ?_ (.inl (by decide)))
    show rtcRun (if rtc.sdp.localCandidates.length ≥ maxLocalCandidates then _ else _) rtc = _
    rw [if_pos hfull]
    rfl
  by_cases hlong : (cText ip).length ≥ ipv6StrSize
  · refine .inl (@hrefused .bufferTooSmall ?_ (.inl (by decide)))
    show rtcRun (if rtc.sdp.localCandidates.length ≥ maxLocalCandidates then _ else
      if (cText ip).length ≥ ipv6StrSize then _ else _) rtc = _
    rw [if_neg hfull, if_pos hlong]
    rfl
  obtain ⟨r, hrun⟩ : ∃ r, rtcRun (nanortcAddLocalCandidate ip port) rtc = r := ⟨_, rfl⟩
  have hbody := hrun
  change rtcRun (if rtc.sdp.localCandidates.length ≥ maxLocalCandidates then _ else
    if (cText ip).length ≥ ipv6StrSize then _ else _) rtc = r at hbody
  rw [if_neg hfull, if_neg hlong] at hbody
  split at hbody
  · rename_i rc hparse
    refine .inl (hrefused (hrun.trans hbody.symm) (.inr fun r hr => ?_))
    rw [hparse] at hr
    cases hr
  · rename_i family addr hparse
    refine .inr ⟨⟨family, addr, port⟩, ⟨cText ip, printable_of_addrParseAuto hparse⟩, ?_, ?_,
      Nat.lt_of_not_le hfull, Nat.lt_of_not_le hlong, hparse, ?_⟩
    · have hok : (rtcRun (nanortcAddLocalCandidate ip port) rtc).2 = .ok := by
        rw [hrun, ← hbody]
        rfl
      unfold accepted
      dsimp only
      rw [hcall, hok, hparse]
    · unfold rtcStep
      rw [hcall, hrun, ← hbody]
      rfl
    · unfold rtcStep
      rw [hcall, hrun, ← hbody]
      rfl

/-- A host candidate added behind host candidates. -/
theorem tableStep_addLocalCandidate {rtc : Rtc Ctx Rx} (hinv : TableInv rtc) (ip : List UInt8)
    (port : UInt16) (horderly : orderly p rtc (.addLocalCandidate ip port) = true) :
    TableStep (accepted p rtc (.addLocalCandidate ip port)) rtc
      (rtcStep p rtc (.addLocalCandidate ip port)) := by
  obtain ⟨hnone, hsame⟩ | ⟨addr, _, hsome, hice, -⟩ := addLocalCandidate_cases p rtc ip port
  · rw [hnone, hsame]
    exact TableKept.tableStep (Std.Refl.refl (r := TableKept) rtc) hinv
  · unfold orderly at horderly
    rw [hsome] at horderly ⊢
    simp only [Bool.and_eq_true, beq_iff_eq, Bool.not_eq_true', ← Bool.not_eq_true,
      any_iceAddrMatches] at horderly
    obtain ⟨hlen, hnew⟩ := horderly
    -- the description counts the whole table, so the candidate goes to its end
    have htable : (rtcStep p rtc (.addLocalCandidate ip port)).ice =
        { rtc.ice with
          localCandidates := rtc.ice.localCandidates ++
            [⟨addr.addr, addr.port, addr.family, .host⟩] } := by
      rw [hice, iceAddHost, ← hlen, List.take_length]
    have hpre := List.prefix_append rtc.ice.localCandidates
      [(⟨addr.addr, addr.port, addr.family, .host⟩ : IceCandidate)]
    refine ⟨?_, ⟨?_, ?_⟩, ?_⟩
    · rw [htable]
      exact hpre
    · rw [htable]
      exact hinv.anchored.longer hpre
    · rw [htable]
      exact nodup_snoc hinv.nodup hnew
    · intro type' addr' heq
      cases heq
      rw [htable]
      unfold localAddrs
      rw [List.map_append, List.mem_append]
      exact .inr (List.mem_singleton.mpr rfl)

/-- A restart keeps the table. -/
theorem tableKept_iceRestart (rtc : Rtc Ctx Rx) :
    TableKept rtc (rtcStep p rtc (.iceRestart e)) := by
  have hstep : rtcStep p rtc (.iceRestart e) = after (nanortcIceRestart e) rtc := rtcRun_fst _ _
  rw [hstep]
  cases hcred : e.credentials with
  | none =>
    have hsame : after (nanortcIceRestart e) rtc = rtc := by
      unfold nanortcIceRestart
      rw [hcred]
      rfl
    rw [hsame]
    exact Std.Refl.refl (r := TableKept) rtc
  | some c =>
    obtain ⟨ufrag, pwd⟩ := c
    have hafter : after (nanortcIceRestart e) rtc =
        after emitIceStateChange (restarted ufrag pwd rtc) := by
      unfold nanortcIceRestart
      rw [hcred]
      rfl
    have hemit : Aside (restarted ufrag pwd rtc)
      (after emitIceStateChange (restarted ufrag pwd rtc)) := aside_emit _ _
    have hrestart : TableKept rtc (restarted ufrag pwd rtc) := by
      refine ⟨⟨rfl, fun ha => ⟨fun q hq hidle => ?_, fun hnom => (nomatch hnom), ha.base⟩⟩, .refl _⟩
      rw [List.eq_of_mem_replicate hq] at hidle
      cases hidle
    rw [hafter]
    exact Trans.trans hrestart hemit.tableKept

/-! ### Runs -/

/-- What one call does to the table. -/
theorem tableStep_rtcStep {rtc : Rtc Ctx Rx} (hinv : TableInv rtc) {call : RtcCall}
    (horderly : orderly p rtc call = true) :
    TableStep (accepted p rtc call) rtc (rtcStep p rtc call) := by
  have hbeside (h : BesideAgent call) (hnone : accepted p rtc call = none) :
      TableStep (accepted p rtc call) rtc (rtcStep p rtc call) := by
    rw [hnone]
    exact (negotiates_step p h).tableKept.tableStep hinv
  cases call with
  | handleInput e input => exact tableStep_handleInput p e hinv input horderly
  | addLocalCandidate ip port => exact tableStep_addLocalCandidate p hinv ip port horderly
  | iceRestart e => exact (tableKept_iceRestart p e rtc).tableStep hinv
  | _ => exact hbeside trivial rfl

theorem tableInv_init (isControlling : Bool) (tieBreaker : UInt64) (rx : Rx) (urls : List IceUrl) :
    TableInv (rtcInit isControlling tieBreaker rx urls : Rtc Ctx Rx × Rc).1 := by
  have hblank : TableInv (rtcBlank isControlling tieBreaker rx : Rtc Ctx Rx) := by
    refine ⟨⟨fun q hq hidle => ?_, fun hnom => (nomatch hnom), .inl rfl⟩, List.nodup_nil⟩
    rw [List.eq_of_mem_replicate hq] at hidle
    cases hidle
  have hservers : Aside (rtcBlank isControlling tieBreaker rx : Rtc Ctx Rx)
      (rtcInit isControlling tieBreaker rx urls : Rtc Ctx Rx × Rc).1 := by
    unfold rtcInit
    rw [rtcRun_fst]
    exact aside_onOut (fun out => applyIceServers_ice out urls) _
  exact (hservers.tableKept.tableStep hblank).inv

/-- The table over a run from a state that keeps the invariant. -/
theorem tableStep_run {rtc : Rtc Ctx Rx} (hinv : TableInv rtc) {calls : List RtcCall}
    (horderly : AllSteps (rtcStep p) rtc (fun rtc call => orderly p rtc call = true) calls) :
    TableStep none rtc (run (rtcStep p) rtc calls) := by
  induction calls generalizing rtc with
  | nil => exact TableKept.tableStep (Std.Refl.refl (r := TableKept) rtc) hinv
  | cons call calls ih =>
    have hstep := tableStep_rtcStep p hinv horderly.1
    have hrest := ih hstep.inv horderly.2
    exact ⟨hstep.table.trans hrest.table, hrest.inv, fun _ _ hnone => nomatch hnone⟩

/-- While every host candidate is added before the candidates of the servers and there is room for
these, the table only grows at its end, has every candidate accepted once, and every index stored
in the agent is one of it. -/
theorem candidates_stable (isControlling : Bool) (tieBreaker : UInt64) (rx : Rx)
    (urls : List IceUrl) {calls : List RtcCall}
    (horderly : AllSteps (rtcStep p) (rtcInit isControlling tieBreaker rx urls).1
      (fun rtc call => orderly p rtc call = true) calls) :
    let start := (rtcInit isControlling tieBreaker rx urls : Rtc Ctx Rx × Rc).1
    let last := run (rtcStep p) start calls
    (∀ pre post, calls = pre ++ post →
      Anchored (run (rtcStep p) start pre).ice ∧
        (run (rtcStep p) start pre).ice.localCandidates <+: last.ice.localCandidates) ∧
      (localAddrs last.ice).Nodup ∧
      ∀ pre call post, calls = pre ++ call :: post → ∀ type addr,
        accepted p (run (rtcStep p) start pre) call = some (type, addr) →
          addr ∈ localAddrs last.ice := by
  intro start last
  have hinit : TableInv start := tableInv_init isControlling tieBreaker rx urls
  have hall := tableStep_run p hinit horderly
  refine ⟨?_, hall.inv.nodup, ?_⟩
  · rintro pre post rfl
    obtain ⟨hpre, hpost⟩ := allSteps_append.mp horderly
    have hfirst := tableStep_run p hinit hpre
    have hrest := (tableStep_run p hfirst.inv hpost).table
    rw [← run_append] at hrest
    exact ⟨hfirst.inv.anchored, hrest⟩
  · rintro pre call post rfl type addr hacc
    obtain ⟨hpre, hcall, hpost⟩ := allSteps_append.mp horderly
    have hstep := tableStep_rtcStep p (tableStep_run p hinit hpre).inv hcall
    have hrest := (tableStep_run p hstep.inv hpost).table
    have hlast : last = run (rtcStep p) (rtcStep p (run (rtcStep p) start pre) call) post :=
      run_append ..
    rw [hlast]
    obtain ⟨c, hc, heq⟩ := List.mem_map.mp (hstep.present type addr hacc)
    exact List.mem_map.mpr ⟨c, hrest.subset hc, heq⟩

end

/-- The server asked for the reflexive candidate of the demo socket. -/
def demoStunServer : NanortcAddr := ⟨4, [10, 0, 0, 9] ++ List.replicate 12 0, 3478⟩

/-- The reflexive address of the demo socket. -/
def demoMapped : NanortcAddr := ⟨4, [203, 0, 113, 5] ++ List.replicate 12 0, 6000⟩

/-- The server's answer to the first request. -/
def demoDiscovery : List UInt8 :=
  let req : StunMsg :=
    { type := stunBindingRequest, length := 0, transactionId := List.replicate stunTxidSize 6 }
  (stunEncodeBindingResponse .checksum req ⟨demoMapped.addr, demoMapped.port, stunFamilyIpv4⟩ [0x70]
    200).toOption.getD []

/-- A host candidate, and the reflexive one behind it. -/
def demoGathering : List RtcCall :=
  [.addLocalCandidate (ascii "10.0.0.1") 5001,
    .handleInput { stunTxid := some (List.replicate stunTxidSize 6) } ⟨100, [], demoPeer, demoSocket⟩,
    .handleInput {} ⟨110, demoDiscovery, demoStunServer, demoSocket⟩]

/-- Both candidates of the demo are in the table. -/
theorem candidates_stable_demo :
    let start := (rtcInit false 3 () [.stun (some demoStunServer)] : Rtc Unit Unit × Rc).1
    let last := run (rtcStep .plain) start demoGathering
    (∀ pre post, demoGathering = pre ++ post →
      Anchored (run (rtcStep .plain) start pre).ice ∧
        (run (rtcStep .plain) start pre).ice.localCandidates <+: last.ice.localCandidates) ∧
      (localAddrs last.ice).Nodup ∧
      ∀ pre call post, demoGathering = pre ++ call :: post → ∀ type addr,
        accepted .plain (run (rtcStep .plain) start pre) call = some (type, addr) →
          addr ∈ localAddrs last.ice :=
  candidates_stable .plain false 3 () [.stun (some demoStunServer)] (by decide +kernel)

/-- A host candidate added behind the reflexive one takes its place. -/
theorem late_host_overwrites :
    let start := (rtcInit false 3 () [.stun (some demoStunServer)] : Rtc Unit Unit × Rc).1
    let gathered := run (rtcStep .plain) start demoGathering
    let last := rtcStep .plain gathered (.addLocalCandidate (ascii "10.0.0.3") 5003)
    (rtcCall .plain gathered (.addLocalCandidate (ascii "10.0.0.3") 5003)).2 = .ok ∧
      demoMapped ∈ localAddrs gathered.ice ∧ demoMapped ∉ localAddrs last.ice ∧
      ¬ gathered.ice.localCandidates <+: last.ice.localCandidates := by
  decide +kernel

end Nanortc.Spec
