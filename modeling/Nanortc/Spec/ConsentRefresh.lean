import Nanortc.Spec.AgentFrame
import Nanortc.Spec.IceConsent
import Nanortc.Spec.StunAuth
import Nanortc.Spec.TurnSchedule

/-!
# Refresh of consent

The deadline of consent is armed when a pair is first selected and pushed on by messages of the
selected peer, and by the answer to a consent check, which is taken from any address. A session
whose deadline has passed is over after the next tick.

## Key results

- `iceHandleStun_genuine`, `iceHandleStun_consent`, `iceHandleStun_selects`: what a message that is
  accepted does to consent
- `quiet_processTimers`, `refreshes_receivePlain`: the timers and a datagram
- `consent_sound`: who moves the deadline, and when the session ends
-/

namespace Nanortc.Spec

open Nanortc.ForStd Nanortc.Native

/-! ### Messages -/

/-- The message passes FINGERPRINT and MESSAGE-INTEGRITY under the password of its direction. -/
def stunGenuine (crypto : CryptoProvider) (ice : NanoIce) (data : List UInt8) : Bool :=
  match stunParse data with
  | .error _ => false
  | .ok msg =>
    stunAuthentic crypto data msg
      (if msg.type = stunBindingRequest then ice.localPwd else ice.remotePwd)

/-- The message answers the consent check that waits, and passes both tests. -/
def consentAnswer (crypto : CryptoProvider) (ice : NanoIce) (data : List UInt8) : Bool :=
  match stunParse data with
  | .error _ => false
  | .ok msg =>
    msg.type == stunBindingResponse && ice.consentPending && msg.transactionId == ice.consentTxid &&
      stunAuthentic crypto data msg ice.remotePwd

/-- The deadline of consent, and whether a consent check waits for its answer. -/
def consentOf (ice : NanoIce) : UInt32 × Bool := (ice.consentExpiryMs, ice.consentPending)

section

variable (crypto : CryptoProvider) (ice : NanoIce) (data : List UInt8) (src : NanortcAddr)
  (localIdx : Nat) (viaTurn : Bool) (room : Nat)

/-- A request that is accepted has passed both tests. -/
theorem iceHandleRequest_genuine {msg : StunMsg}
    (h : (iceHandleRequest crypto ice data msg src localIdx viaTurn room).2.1 = .ok) :
    stunAuthentic crypto data msg ice.localPwd = true := by
  unfold iceHandleRequest at h
  unfold stunAuthentic
  split at h
  · cases h
  rename_i hfp
  split at h
  · rename_i hne
    exact absurd h hne
  rename_i hfpv
  split at h
  · cases h
  split at h
  · cases h
  rename_i hmi
  split at h
  · rename_i hne
    exact absurd h hne
  rename_i hmiv
  simp_all

/-- A response that is accepted has passed both tests. -/
theorem iceHandleResponse_genuine {msg : StunMsg}
    (h : (iceHandleResponse crypto ice data msg src localIdx viaTurn).2 = .ok) :
    stunAuthentic crypto data msg ice.remotePwd = true := by
  unfold iceHandleResponse at h
  unfold stunAuthentic
  split at h
  · split at h
    · cases h
    split at h
    · cases h
    simp_all
  · split at h
    · cases h
    split at h
    · cases h
    split at h
    · rename_i hne
      exact absurd h hne
    split at h
    · cases h
    split at h
    · rename_i hne
      exact absurd h hne
    simp_all

/-- A message that is accepted has passed both tests. -/
theorem iceHandleStun_genuine
    (h : (iceHandleStun crypto ice data src localIdx viaTurn room).2.1 = .ok) :
    stunGenuine crypto ice data = true := by
  unfold iceHandleStun at h
  unfold stunGenuine
  cases hparse : stunParse data with
  | error rc =>
    rw [hparse] at h
    obtain rfl : rc = .ok := h
    cases stunParse_error hparse
  | ok msg =>
  rw [hparse] at h
  dsimp only at h ⊢
  split at h
  · rename_i hreq
    rw [if_pos hreq]
    exact iceHandleRequest_genuine crypto ice data src localIdx viaTurn room h
  rename_i hreq
  rw [if_neg hreq]
  split at h
  · exact iceHandleResponse_genuine crypto ice data src localIdx viaTurn h
  split at h
  · have herr : (iceHandleError crypto ice data msg).2 = .protocol := by
      unfold iceHandleError
      split
      · split <;> rfl
      · rfl
    rw [show (iceHandleError crypto ice data msg).2 = .ok from h] at herr
    cases herr
  · cases h

theorem iceTriggerCheck_consent (lcl : Nat) (nominate : Bool) :
    consentOf (iceTriggerCheck ice lcl src nominate).1 = consentOf ice := by
  unfold iceTriggerCheck
  dsimp only
  split
  · rfl
  split
  · rfl
  split
  · rfl
  split
  · rfl
  split
  · split <;> rfl
  split <;> rfl

theorem iceCheckSucceeded_consent (slot : Nat) (msg : StunMsg) :
    consentOf (iceCheckSucceeded ice slot msg) = consentOf ice := by
  unfold iceCheckSucceeded
  dsimp only
  split
  · split
    · rfl
    split <;> rfl
  · rfl

/-- A message leaves consent as it is, or it answers the consent check. -/
theorem iceHandleStun_consent :
    consentOf (iceHandleStun crypto ice data src localIdx viaTurn room).1 = consentOf ice ∨
      (consentAnswer crypto ice data = true ∧
        (iceHandleStun crypto ice data src localIdx viaTurn room).1 =
          { ice with consentPending := false }) := by
  unfold iceHandleStun consentAnswer
  cases stunParse data with
  | error rc => exact .inl rfl
  | ok msg =>
  dsimp only
  split
  · left
    obtain h | ⟨_, _, h⟩ :=
      iceHandleRequest_cases crypto ice data msg src localIdx viaTurn room
    · rw [h]
    · rw [h, iceTriggerCheck_consent]
  split
  · rename_i hresp
    obtain h | ⟨hauth, ⟨hpending, htxid, h⟩ | ⟨slot, _, _, h⟩⟩ :=
      iceHandleResponse_cases crypto ice data msg src localIdx viaTurn
    · exact .inl (by rw [h])
    · right
      refine ⟨?_, h⟩
      rw [hresp, hpending, htxid, hauth]
      simp
    · exact .inl (by rw [h, iceCheckSucceeded_consent])
  split
  · left
    obtain h | ⟨slot, h⟩ := iceHandleError_cases crypto ice data msg
    · rw [h]
    · rw [h]
      rfl
  · exact .inl rfl

/-- A message connects the agent with the address it comes from. -/
theorem iceHandleStun_selects (hbefore : ice.state ≠ .connected)
    (hafter : (iceHandleStun crypto ice data src localIdx viaTurn room).1.state = .connected) :
    rtcSelectedPeer (iceHandleStun crypto ice data src localIdx viaTurn room).1 = src := by
  have heffect := iceStep_effect crypto ice (.stun data src localIdx viaTurn room)
  obtain ⟨pair, ⟨_, c, hc, haddr, hport, hfamily⟩, hsource⟩ := heffect.connected hbefore hafter
  have hremote : IsRemote (iceHandleStun crypto ice data src localIdx viaTurn room).1
      pair.remote src := by
    obtain ⟨_, hreq, _⟩ | ⟨txid, hans, _⟩ := hsource
    · obtain ⟨_, _, _, _, _, _, hi, _, _, _, hremote⟩ := hreq
      cases hi
      exact hremote
    · obtain ⟨_, _, _, _, _, _, _, hi, _, _, _, _, _, _, hremote⟩ := hans
      cases hi
      exact heffect.same.isRemote hremote
  obtain ⟨d, hd, hmatch⟩ := hremote
  obtain rfl : c = d := Option.some.inj (hc.symm.trans hd)
  unfold iceAddrMatches at hmatch
  simp only [Bool.and_eq_true, beq_iff_eq] at hmatch
  obtain ⟨⟨hf, hp⟩, ha⟩ := hmatch
  show NanortcAddr.mk _ _ _ = src
  rw [show (iceHandleStun crypto ice data src localIdx viaTurn room).1.selectedFamily = c.family
      from hfamily, hf,
    show (iceHandleStun crypto ice data src localIdx viaTurn room).1.selectedAddr = c.addr
      from haddr, ha,
    show (iceHandleStun crypto ice data src localIdx viaTurn room).1.selectedPort = c.port
      from hport, hp]

end

/-! ### The invariant -/

variable {Ctx Rx : Type}

/-- Consent is armed only behind the checks, and behind them a pair is selected until the end. -/
structure ConsentInv (rtc : Rtc Ctx Rx) : Prop where
  fresh : rtc.state.rank < ConnState.iceConnected.rank → consentOf rtc.ice = (0, false)
  live : ConnState.iceConnected.rank ≤ rtc.state.rank → rtc.state ≠ .closed →
    rtc.ice.state = .connected

/-- A pair is selected only behind the checks. -/
structure ConsentSettled (rtc : Rtc Ctx Rx) : Prop extends ConsentInv rtc where
  begun : rtc.ice.state = .connected → ConnState.iceConnected.rank ≤ rtc.state.rank

/-- The state before an advance, where it is behind the checks and not over. -/
theorem Advances.begun {s s' : ConnState} (h : Advances s s')
    (hrank : ConnState.iceConnected.rank ≤ s'.rank) (hopen : s' ≠ .closed) :
    ConnState.iceConnected.rank ≤ s.rank ∧ s ≠ .closed := by
  obtain rfl | rfl | ⟨hs, hle⟩ := h
  · exact ⟨hrank, hopen⟩
  · exact absurd rfl hopen
  · refine ⟨hs, ?_⟩
    rintro rfl
    exact hopen (closed_of_rank hle)

/-- Neither consent nor the state of the agent changes. -/
structure Steady (rtc rtc' : Rtc Ctx Rx) : Prop where
  consent : consentOf rtc'.ice = consentOf rtc.ice
  ice : rtc'.ice.state = rtc.ice.state
  state : Advances rtc.state rtc'.state

instance : Std.Refl (@Steady Ctx Rx) := ⟨fun _ => ⟨rfl, rfl, .inl rfl⟩⟩

instance : Trans (@Steady Ctx Rx) Steady Steady :=
  ⟨fun h h' => ⟨h'.consent.trans h.consent, h'.ice.trans h.ice, h.state.trans h'.state⟩⟩

theorem Negotiates.steady {rtc rtc' : Rtc Ctx Rx} (h : Negotiates rtc rtc') : Steady rtc rtc' where
  consent := by
    show consentOf (NanoIce.bare rtc'.ice) = consentOf (NanoIce.bare rtc.ice)
    rw [h.ice]
  ice := by
    show (NanoIce.bare rtc'.ice).state = (NanoIce.bare rtc.ice).state
    rw [h.ice]
  state := h.state

theorem Aside.steady {rtc rtc' : Rtc Ctx Rx} (h : Aside rtc rtc') : Steady rtc rtc' :=
  h.negotiates.steady

theorem MovesAt.steady {α : Type} {m : RtcM Ctx Rx α} {rtc : Rtc Ctx Rx}
    (h : MovesAt Aside m rtc) : MovesAt Steady m rtc := Aside.steady h

theorem Steady.inv {rtc rtc' : Rtc Ctx Rx} (h : Steady rtc rtc') (hinv : ConsentInv rtc) :
    ConsentInv rtc' where
  fresh hrank := by
    rw [h.consent]
    exact hinv.fresh (Nat.lt_of_le_of_lt h.state.rank hrank)
  live hrank hopen := by
    rw [h.ice]
    obtain ⟨hbegun, hopen⟩ := h.state.begun hrank hopen
    exact hinv.live hbegun hopen

theorem Steady.settled {rtc rtc' : Rtc Ctx Rx} (h : Steady rtc rtc') (hs : ConsentSettled rtc) :
    ConsentSettled rtc' where
  toConsentInv := h.inv hs.toConsentInv
  begun hconn := by
    rw [h.ice] at hconn
    exact Nat.le_trans (hs.begun hconn) h.state.rank

/-- From `I` to `J` with the deadline of consent as it was. -/
def QuietCheck (I J : Rtc Ctx Rx → Prop) (rtc rtc' : Rtc Ctx Rx) : Prop :=
  I rtc → rtc'.ice.consentExpiryMs = rtc.ice.consentExpiryMs ∧ Advances rtc.state rtc'.state ∧
    J rtc'

instance (I J K : Rtc Ctx Rx → Prop) : Trans (QuietCheck I J) (QuietCheck J K) (QuietCheck I K) :=
  ⟨fun h h' hi => by
    obtain ⟨hexp, hstate, hj⟩ := h hi
    obtain ⟨hexp', hstate', hk⟩ := h' hj
    exact ⟨hexp'.trans hexp, hstate.trans hstate', hk⟩⟩

theorem Steady.quiet {rtc rtc' : Rtc Ctx Rx} (h : Steady rtc rtc') :
    QuietCheck ConsentSettled ConsentSettled rtc rtc' :=
  fun hs => ⟨congrArg Prod.fst h.consent, h.state, h.settled hs⟩

/-! ### Timers -/

variable (p : Platform Ctx Rx) (e : Entropy)

/-- No pair is selected, and the invariant holds. -/
def Searching (rtc : Rtc Ctx Rx) : Prop := ConsentInv rtc ∧ rtc.ice.state ≠ .connected

theorem Searching.settled {rtc : Rtc Ctx Rx} (h : Searching rtc) : ConsentSettled rtc where
  toConsentInv := h.1
  begun hconn := absurd hconn h.2

theorem Steady.searching {rtc rtc' : Rtc Ctx Rx} (h : Steady rtc rtc') :
    QuietCheck Searching Searching rtc rtc' := by
  rintro ⟨hinv, hne⟩
  refine ⟨congrArg Prod.fst h.consent, h.state, h.inv hinv, ?_⟩
  rw [h.ice]
  exact hne

theorem MovesAt.searching {α : Type} {m : RtcM Ctx Rx α} {rtc : Rtc Ctx Rx}
    (h : MovesAt Aside m rtc) : MovesAt (QuietCheck Searching Searching) m rtc :=
  Steady.searching (Aside.steady h)

theorem iceSendCheck_consent (crypto : CryptoProvider) (ice : NanoIce) (nowMs : UInt32)
    (check : IceCheck) (random : Option (List UInt8)) (room : Nat) :
    consentOf (iceSendCheck crypto ice nowMs check random room).1 = consentOf ice := by
  have hunqueue (slot : Nat) : consentOf (iceUnqueueCheck ice slot) = consentOf ice := by
    unfold iceUnqueueCheck
    dsimp only
    split <;> rfl
  unfold iceSendCheck
  split
  · split
    · rfl
    · exact hunqueue _
  split
  · rfl
  split
  · rfl
  split
  · rfl
  dsimp only
  split
  · rfl
  split
  · rfl
  · exact hunqueue _

/-- The checks leave consent alone and select no pair. -/
theorem searching_timersCheck (nowMs : UInt32) :
    Moves (QuietCheck Searching Searching) (rtcTimersCheck p e nowMs) := by
  have hcheck (check : IceCheck) : Moves (QuietCheck Searching Searching) (onIce fun ice =>
      iceSendCheck p.crypto ice nowMs check e.iceTxid txSlotSize : RtcM Ctx Rx _) := by
    intro rtc
    apply movesAt_onIce.mpr
    rintro ⟨hinv, hne⟩
    have hconsent := iceSendCheck_consent p.crypto rtc.ice nowMs check e.iceTxid txSlotSize
    refine ⟨congrArg Prod.fst hconsent, .inl rfl, ⟨?_, ?_⟩, ?_⟩
    · intro hrank
      exact hconsent.trans (hinv.fresh hrank)
    · intro hrank hopen
      exact absurd (hinv.live hrank hopen) hne
    · show (iceSendCheck p.crypto rtc.ice nowMs check e.iceTxid txSlotSize).1.state ≠ .connected
      obtain h | h | ⟨h, _⟩ :=
        iceSendCheck_cases p.crypto rtc.ice nowMs check e.iceTxid txSlotSize
      · rw [h]
        exact hne
      · rw [h]
        decide
      · rw [h]
        decide
  intro rtc
  unfold rtcTimersCheck
  apply movesAt_get_bind.mpr
  dsimp only
  apply MovesAt.ite
  · intro _
    apply MovesAt.bind (MovesAt.searching (aside_deferredAcquire rtc))
    intro slot rtc₁ _
    apply movesAt_get_bind.mpr
    apply MovesAt.bind (hcheck _ rtc₁)
    intro sent rtc₂ _
    split
    · apply MovesAt.bind (MovesAt.searching (aside_sendCheck slot _ rtc₂))
      exact fun _ rtc₃ _ => MovesAt.searching (aside_afterCheck _ rtc₃)
    · exact MovesAt.searching (aside_afterCheck _ rtc₂)
  · exact fun _ => Steady.searching (Std.Refl.refl (r := Steady) rtc)

/-- A consent check leaves the deadline alone. -/
theorem iceGenerateConsent_expiry (crypto : CryptoProvider) (ice : NanoIce) (nowMs : UInt32)
    (random : Option (List UInt8)) (room : Nat) :
    (iceGenerateConsent crypto ice nowMs random room).1.consentExpiryMs = ice.consentExpiryMs := by
  unfold iceGenerateConsent
  split
  · rfl
  split
  · rfl
  split
  · rfl
  split
  · rfl
  split <;> rfl

/-- The session is behind the checks, and the invariant holds. -/
def BehindChecks (rtc : Rtc Ctx Rx) : Prop :=
  ConsentInv rtc ∧ ConnState.iceConnected.rank ≤ rtc.state.rank

theorem BehindChecks.settled {rtc : Rtc Ctx Rx} (h : BehindChecks rtc) : ConsentSettled rtc where
  toConsentInv := h.1
  begun _ := h.2

theorem quiet_behindChecks {rtc rtc' : Rtc Ctx Rx}
    (hexp : rtc'.ice.consentExpiryMs = rtc.ice.consentExpiryMs)
    (hice : rtc'.ice.state = rtc.ice.state) (hstate : Advances rtc.state rtc'.state) :
    QuietCheck BehindChecks BehindChecks rtc rtc' := by
  rintro ⟨hinv, hrank⟩
  have hrank' := Nat.le_trans hrank hstate.rank
  refine ⟨hexp, hstate, ⟨fun h => absurd h (Nat.not_lt_of_le hrank'), ?_⟩, hrank'⟩
  intro _ hopen
  rw [hice]
  exact hinv.live hrank (hstate.begun hrank' hopen).2

theorem quiet_sendConsent (nowMs : UInt32) :
    Moves (QuietCheck BehindChecks BehindChecks) (rtcSendConsent p e nowMs) := by
  have haside {α : Type} {m : RtcM Ctx Rx α} (h : Moves Aside m) :
      Moves (QuietCheck BehindChecks BehindChecks) m := fun rtc =>
    have hm : Aside rtc (after m rtc) := h rtc
    quiet_behindChecks (congrArg NanoIce.consentExpiryMs hm.ice) (congrArg NanoIce.state hm.ice)
      hm.state
  unfold rtcSendConsent
  apply Moves.bind (haside aside_deferredAcquire)
  intro slot
  apply Moves.bind
  · intro rtc
    apply movesAt_onIce.mpr
    exact quiet_behindChecks (iceGenerateConsent_expiry ..) (iceGenerateConsent_state ..) (.inl rfl)
  · intro packet
    apply haside
    intro rtc
    apply MovesAt.ite_pure
    intro _
    exact movesAt_get_bind.mpr (aside_txSlotSend _ _ _ _ _ rtc)

/-- The end of a session by loss of consent. -/
def loseConsent : RtcM Ctx Rx Unit := do
  let rtc ← get
  set (rtc.withIce { rtc.ice with state := .disconnected })
  emitIceStateChange
  rtcEmitDisconnected

/-- What the loss of consent leaves. -/
theorem after_loseConsent (rtc : Rtc Ctx Rx) :
    (after loseConsent rtc).ice = { rtc.ice with state := .disconnected } ∧
      (after loseConsent rtc).state = .closed := by
  have hrest : Moves Aside (do emitIceStateChange; rtcEmitDisconnected : RtcM Ctx Rx Unit) :=
    Moves.bind (aside_emit _) fun _ => aside_emitDisconnected
  have haside : Aside (rtc.withIce { rtc.ice with state := .disconnected })
    (after loseConsent rtc) := hrest _
  exact ⟨haside.ice, rfl⟩

/-- Behind the consent check a selected pair has its deadline ahead, or the session is over. -/
theorem quiet_timersConsent (nowMs : UInt32) :
    Moves (QuietCheck ConsentInv ConsentSettled) (rtcTimersConsent p e nowMs) := by
  intro rtc
  unfold rtcTimersConsent
  apply movesAt_get_bind.mpr
  apply MovesAt.ite
  · intro hconn
    apply MovesAt.ite
    · -- the session ends
      intro _ _
      obtain ⟨hice, hclosed⟩ := after_loseConsent rtc
      show (after loseConsent rtc).ice.consentExpiryMs = _ ∧
        Advances _ (after loseConsent rtc).state ∧ ConsentSettled (after loseConsent rtc)
      rw [hice, hclosed]
      refine ⟨rfl, .inr (.inl rfl), ⟨?_, fun _ hopen => absurd hclosed hopen⟩, ?_⟩
      · rw [hclosed]
        exact fun h => absurd h (by decide)
      · rw [hice]
        exact fun h => nomatch h
    · -- the deadline is armed, so the session is behind the checks
      intro hahead
      have hbegun (hinv : ConsentInv rtc) : BehindChecks rtc := by
        refine ⟨hinv, ?_⟩
        by_contra hearly
        have hzero : rtc.ice.consentExpiryMs = 0 :=
          congrArg Prod.fst (hinv.fresh (Nat.lt_of_not_le hearly))
        unfold iceConsentExpired at hahead
        rw [if_neg (not_not.mpr hconn), if_pos hzero] at hahead
        exact hahead rfl
      apply MovesAt.ite
      · intro _ hinv
        obtain ⟨hexp, hstate, hdone⟩ := quiet_sendConsent p e nowMs rtc (hbegun hinv)
        exact ⟨hexp, hstate, hdone.settled⟩
      · exact fun _ hinv => ⟨rfl, .inl rfl, (hbegun hinv).settled⟩
  · exact fun hne hinv => ⟨rfl, .inl rfl, Searching.settled ⟨hinv, hne⟩⟩

theorem steady_timersStun (nowMs : UInt32) :
    Moves Steady (rtcTimersStun e nowMs : RtcM Ctx Rx Unit) := by
  intro rtc
  unfold rtcTimersStun
  apply movesAt_get_bind.mpr
  apply MovesAt.ite_pure
  intro _
  apply MovesAt.bind (MovesAt.steady (aside_deferredAcquire rtc))
  intro slot rtc₁ _
  apply movesAt_get_bind.mpr
  dsimp only
  split
  · exact movesAt_throw _
  · apply movesAt_set_bind ⟨rfl, rfl, .inl rfl⟩
    apply MovesAt.bind (MovesAt.steady (aside_txSlotSend _ _ _ _ _ _))
    exact fun _ rtc₂ _ => movesAt_modify.mpr ⟨rfl, rfl, .inl rfl⟩

/-- The timers behind the consent check. -/
def timersBehindConsent (nowMs : UInt32) : RtcM Ctx Rx Unit := do
  rtcTimersTurn p e nowMs
  rtcTimersDtlsOutput
  rtcTimersDtls p e nowMs
  rtcTimersStun e nowMs
  timersTail p e nowMs

theorem steady_timersBehindConsent (nowMs : UInt32) :
    Moves Steady (timersBehindConsent p e nowMs) := by
  unfold timersBehindConsent
  apply Moves.bind fun rtc => MovesAt.steady (aside_timersTurn p e nowMs rtc)
  intro _
  apply Moves.bind fun rtc => MovesAt.steady (aside_timersDtlsOutput rtc)
  intro _
  apply Moves.bind fun rtc => MovesAt.steady (aside_timersDtls p e nowMs rtc)
  intro _
  apply Moves.bind (steady_timersStun e nowMs)
  exact fun _ rtc => MovesAt.steady (aside_timersTail p e nowMs rtc)

theorem quiet_timersRest (nowMs : UInt32) :
    Moves (QuietCheck ConsentInv ConsentSettled) (timersRest p e nowMs) := by
  intro rtc
  unfold timersRest
  apply MovesAt.append (Q := QuietCheck ConsentSettled ConsentSettled) (quiet_timersConsent p e nowMs rtc)
  intro _ rtc₁ _
  have hsteady : Steady rtc₁ (after (timersBehindConsent p e nowMs) rtc₁) :=
    steady_timersBehindConsent p e nowMs rtc₁
  exact hsteady.quiet

/-- The timers leave the deadline alone, and a selected pair behind them is behind the checks. -/
theorem quiet_processTimers (nowMs : UInt32) :
    Moves (QuietCheck ConsentInv ConsentSettled) (rtcProcessTimers p e nowMs) := by
  intro rtc
  show MovesAt _ (rtcTimersCheck p e nowMs >>= fun _ => timersRest p e nowMs) rtc
  by_cases hconn : rtc.ice.state = .connected
  · show QuietCheck _ _ rtc (after (rtcTimersCheck p e nowMs >>= fun _ => timersRest p e nowMs) rtc)
    rw [after_bind_ok (timersCheck_connected p e hconn nowMs)]
    exact quiet_timersRest p e nowMs rtc
  · have hcheck := searching_timersCheck p e nowMs rtc
    have hrest (rtc' : Rtc Ctx Rx) : MovesAt (QuietCheck Searching ConsentSettled)
        (timersRest p e nowMs) rtc' := fun hs => quiet_timersRest p e nowMs rtc' hs.1
    intro hinv
    have hfirst : MovesAt (QuietCheck Searching ConsentSettled) (rtcTimersCheck p e nowMs) rtc :=
      fun hs =>
        have ⟨hexp, hstate, hs'⟩ := hcheck hs
        ⟨hexp, hstate, hs'.settled⟩
    cases hrun : rtcTimersCheck p e nowMs rtc with
    | ok _ rtc' =>
      have hmoved : QuietCheck Searching Searching rtc rtc' := MovesAt.ok hcheck hrun
      have hboth : QuietCheck Searching ConsentSettled rtc (after (timersRest p e nowMs) rtc') :=
        Trans.trans hmoved (hrest rtc')
      rw [after_bind_ok hrun]
      exact hboth ⟨hinv, hconn⟩
    | error rc rtc' =>
      rw [after_bind_error hrun]
      have hmoved : QuietCheck Searching ConsentSettled rtc (after (rtcTimersCheck p e nowMs) rtc) :=
        hfirst
      rw [after_error hrun] at hmoved
      exact hmoved ⟨hinv, hconn⟩

/-- A selected pair whose deadline has passed ends the session at once. -/
theorem processTimers_expired {rtc : Rtc Ctx Rx} {nowMs : UInt32}
    (h : iceConsentExpired rtc.ice nowMs = true) :
    (after (rtcProcessTimers p e nowMs) rtc).state = .closed := by
  have hconn : rtc.ice.state = .connected := by
    by_contra hne
    unfold iceConsentExpired at h
    rw [if_pos hne] at h
    cases h
  have hlose : rtcTimersConsent p e nowMs rtc = .ok () (after loseConsent rtc) := by
    show (if rtc.ice.state = .connected then _ else _ : RtcM Ctx Rx Unit) rtc = _
    rw [if_pos hconn, if_pos h]
    rfl
  have hrest : Steady (after loseConsent rtc)
      (after (timersBehindConsent p e nowMs) (after loseConsent rtc)) :=
    steady_timersBehindConsent p e nowMs _
  show (after (rtcTimersCheck p e nowMs >>= fun _ => rtcTimersConsent p e nowMs >>= fun _ =>
    timersBehindConsent p e nowMs) rtc).state = .closed
  rw [after_bind_ok (timersCheck_connected p e hconn nowMs), after_bind_ok hlose]
  apply closed_of_rank
  have hrank := hrest.state.rank
  rw [(after_loseConsent rtc).2] at hrank
  exact hrank

/-! ### A datagram -/

/-- The deadline of consent moves only by a message that passes both tests and comes from the
selected peer. -/
structure Refreshes (data : List UInt8) (src : NanortcAddr) (rtc rtc' : Rtc Ctx Rx) : Prop where
  expiry : rtc'.ice.consentExpiryMs = rtc.ice.consentExpiryMs ∨
    (stunGenuine p.crypto rtc.ice data = true ∧ src = rtcSelectedPeer rtc'.ice)
  rank : rtc.state.rank ≤ rtc'.state.rank
  inv : ConsentInv rtc'

variable {p} in
theorem Refreshes.aside {data : List UInt8} {src : NanortcAddr} {rtc rtc' rtc'' : Rtc Ctx Rx}
    (h : Refreshes p data src rtc rtc') (h' : Aside rtc' rtc'') :
    Refreshes p data src rtc rtc'' where
  expiry := by
    rw [h'.ice]
    exact h.expiry
  rank := Nat.le_trans h.rank h'.state.rank
  inv := h'.steady.inv h.inv

/-- The first selection arms consent. -/
theorem refreshes_iceConnected {data : List UInt8} {src : NanortcAddr} {rtc rtc' : Rtc Ctx Rx}
    (h : Refreshes p data src rtc rtc') (hgenuine : stunGenuine p.crypto rtc.ice data = true)
    (hselects : rtc'.ice.state = .connected → rtc'.state.rank < ConnState.iceConnected.rank →
      src = rtcSelectedPeer rtc'.ice) :
    Refreshes p data src rtc (after (rtcIceConnected p src) rtc') := by
  by_cases hfirst : rtc'.ice.state = .connected ∧ rtc'.state.rank < ConnState.iceConnected.rank
  · obtain ⟨next, expiry, hafter⟩ : ∃ next expiry, after (rtcIceConnected p src) rtc' =
        after (emitIceStateChange >>= fun _ => rtcBeginDtlsHandshake p src) ((rtc'.withIce
          { rtc'.ice with consentNextMs := next, consentExpiryMs := expiry }).withState
            .iceConnected) := by
      refine ⟨nanoTimeDeadline rtc'.nowMs iceConsentIntervalMs,
        nanoTimeDeadline rtc'.nowMs iceConsentTimeoutMs, ?_⟩
      show after (if rtc'.ice.state = .connected ∧
        rtc'.state.rank < ConnState.iceConnected.rank then _ else _ : RtcM Ctx Rx Unit) rtc' = _
      rw [if_pos hfirst]
      rfl
    let armed := (rtc'.withIce
      { rtc'.ice with consentNextMs := next, consentExpiryMs := expiry }).withState .iceConnected
    have hbegin : MovesAt Aside (emitIceStateChange >>= fun _ => rtcBeginDtlsHandshake p src)
        armed := by
      apply MovesAt.bind (aside_emit _ armed)
      intro _ rtc'' hemit
      apply aside_beginDtls
      have hsame := layers_ok (layers_emitIceStateChange armed) hemit
      exact congrArg Layers.state hsame
    have harmed : Refreshes p data src rtc armed := by
      refine ⟨.inr ⟨hgenuine, hselects hfirst.1 hfirst.2⟩, ?_, ⟨?_, fun _ _ => hfirst.1⟩⟩
      · exact Nat.le_trans h.rank (Nat.le_of_lt hfirst.2)
      · exact fun hlt => absurd hlt (Nat.lt_irrefl _)
    rw [hafter]
    exact harmed.aside hbegin
  · have hafter : after (rtcIceConnected p src) rtc' = rtc' := by
      show after (if rtc'.ice.state = .connected ∧
        rtc'.state.rank < ConnState.iceConnected.rank then _ else _ : RtcM Ctx Rx Unit) rtc' = _
      rw [if_neg hfirst]
      rfl
    rw [hafter]
    exact h

/-- A refresh moves the deadline for a message of the selected peer or an answered check. -/
theorem refreshConsent_cases (wasPending : Bool) (src : NanortcAddr) (ice : NanoIce)
    (nowMs : UInt32) : ∃ expiry, rtcRefreshConsent wasPending src ice nowMs =
      { ice with consentExpiryMs := expiry } ∧ (expiry = ice.consentExpiryMs ∨
        (ice.consentExpiryMs ≠ 0 ∧ src = rtcSelectedPeer ice) ∨
        (wasPending = true ∧ ice.consentPending = false)) := by
  unfold rtcRefreshConsent
  dsimp only
  split
  · rename_i hpeer
    have hsrc : ice.consentExpiryMs ≠ 0 ∧ src = rtcSelectedPeer ice :=
      ⟨fun h => absurd (h ▸ hpeer.2.1) (by decide), hpeer.2.2⟩
    split
    · exact ⟨_, rfl, .inr (.inl hsrc)⟩
    · exact ⟨_, rfl, .inr (.inl hsrc)⟩
  · split
    · rename_i hans
      exact ⟨_, rfl, .inr (.inr ⟨hans.1, by simpa using hans.2⟩)⟩
    · exact ⟨_, rfl, .inl rfl⟩

theorem consentAnswer_pending {crypto : CryptoProvider} {ice : NanoIce} {data : List UInt8}
    (h : consentAnswer crypto ice data = true) : ice.consentPending = true := by
  unfold consentAnswer at h
  split at h
  · cases h
  · simp only [Bool.and_eq_true] at h
    exact h.1.1.2

/-- What the message leaves of consent before the connection looks at the state of the agent. -/
theorem refreshes_message {data : List UInt8} {src : NanortcAddr} {rtc : Rtc Ctx Rx}
    (hs : ConsentSettled rtc)
    (hstray : consentAnswer p.crypto rtc.ice data = true → src = rtcSelectedPeer rtc.ice)
    (localIdx : Nat) (viaTurn : Bool) (room : Nat) (nowMs : UInt32)
    (hok : (iceHandleStun p.crypto rtc.ice data src localIdx viaTurn room).2.1 = .ok) :
    let ice := (iceHandleStun p.crypto rtc.ice data src localIdx viaTurn room).1
    let rtc' := rtc.withIce (rtcRefreshConsent rtc.ice.consentPending src ice nowMs)
    Refreshes p data src rtc rtc' ∧ (rtc'.ice.state = .connected →
      rtc'.state.rank < ConnState.iceConnected.rank → src = rtcSelectedPeer rtc'.ice) := by
  have hgenuine := iceHandleStun_genuine p.crypto rtc.ice data src localIdx viaTurn room hok
  have hconsent := iceHandleStun_consent p.crypto rtc.ice data src localIdx viaTurn room
  have hselects := iceHandleStun_selects p.crypto rtc.ice data src localIdx viaTurn room
  have hstate := iceStep_stun_state p.crypto rtc.ice data src localIdx viaTurn room
  change (iceHandleStun p.crypto rtc.ice data src localIdx viaTurn room).1.state = _ ∨
    (iceHandleStun p.crypto rtc.ice data src localIdx viaTurn room).1.state = _ at hstate
  revert hconsent hselects hstate
  generalize (iceHandleStun p.crypto rtc.ice data src localIdx viaTurn room).1 = ice
  intro hconsent hselects hstate
  obtain ⟨expiry, hrefresh, hexp⟩ := refreshConsent_cases rtc.ice.consentPending src ice nowMs
  dsimp only
  rw [hrefresh]
  have hexpiry : expiry = rtc.ice.consentExpiryMs ∨ src = rtcSelectedPeer ice := by
    obtain hsame | ⟨hans, rfl⟩ := hconsent
    · have hdeadline : ice.consentExpiryMs = rtc.ice.consentExpiryMs := congrArg Prod.fst hsame
      have hpending : ice.consentPending = rtc.ice.consentPending := congrArg Prod.snd hsame
      obtain h | h | ⟨hwas, hnow⟩ := hexp
      · exact .inl (h.trans hdeadline)
      · exact .inr h.2
      · rw [hpending, hwas] at hnow
        cases hnow
    · exact .inr (hstray hans)
  have hfresh : consentOf rtc.ice = (0, false) → (expiry, ice.consentPending) = (0, false) := by
    intro hzero
    have hpending : rtc.ice.consentPending = false := congrArg Prod.snd hzero
    obtain hsame | ⟨hans, _⟩ := hconsent
    · have hice : consentOf ice = (0, false) := hsame.trans hzero
      have hdeadline : ice.consentExpiryMs = 0 := congrArg Prod.fst hice
      obtain h | h | h := hexp
      · rw [h]
        exact hice
      · exact absurd hdeadline h.1
      · rw [hpending] at h
        exact absurd h.1 Bool.false_ne_true
    · rw [consentAnswer_pending hans] at hpending
      cases hpending
  refine ⟨⟨?_, Nat.le_refl _, ⟨fun hrank => hfresh (hs.fresh hrank), ?_⟩⟩, ?_⟩
  · exact hexpiry.imp id fun hsrc => ⟨hgenuine, hsrc⟩
  · intro hrank hopen
    obtain h | h := hstate
    · exact h.trans (hs.live hrank hopen)
    · exact h
  · intro hconn hrank
    have hbefore : rtc.ice.state ≠ .connected := fun hc =>
      absurd (hs.begun hc) (Nat.not_le_of_lt hrank)
    exact (hselects hbefore hconn).symm

/-- A message that is refused leaves the deadline alone. -/
theorem refreshes_refused {data : List UInt8} {src : NanortcAddr} {rtc : Rtc Ctx Rx}
    (hinv : ConsentInv rtc) (localIdx : Nat) (viaTurn : Bool) (room : Nat) :
    Refreshes p data src rtc (rtc.withIce
      (iceHandleStun p.crypto rtc.ice data src localIdx viaTurn room).1) := by
  have hconsent := iceHandleStun_consent p.crypto rtc.ice data src localIdx viaTurn room
  have hstate := iceStep_stun_state p.crypto rtc.ice data src localIdx viaTurn room
  change (iceHandleStun p.crypto rtc.ice data src localIdx viaTurn room).1.state = _ ∨
    (iceHandleStun p.crypto rtc.ice data src localIdx viaTurn room).1.state = _ at hstate
  revert hconsent hstate
  generalize (iceHandleStun p.crypto rtc.ice data src localIdx viaTurn room).1 = ice
  intro hconsent hstate
  refine ⟨.inl ?_, Nat.le_refl _, ⟨fun hrank => ?_, fun hrank hopen => ?_⟩⟩
  · obtain hsame | ⟨_, rfl⟩ := hconsent
    · exact congrArg Prod.fst hsame
    · rfl
  · obtain hsame | ⟨hans, _⟩ := hconsent
    · exact hsame.trans (hinv.fresh hrank)
    · have hpending : rtc.ice.consentPending = false := congrArg Prod.snd (hinv.fresh hrank)
      rw [consentAnswer_pending hans] at hpending
      cases hpending
  · obtain h | h := hstate
    · exact h.trans (hinv.live hrank hopen)
    · exact h

/-- The answer to a request, and the first selection. -/
theorem refreshes_answer {data : List UInt8} {src : NanortcAddr} {rtc rtc' : Rtc Ctx Rx}
    (h : Refreshes p data src rtc rtc') (hgenuine : stunGenuine p.crypto rtc.ice data = true)
    (hselects : rtc'.ice.state = .connected → rtc'.state.rank < ConnState.iceConnected.rank →
      src = rtcSelectedPeer rtc'.ice) (slot : Nat) (packet : List UInt8) (localIdx : Nat)
    (viaTurn : Bool) :
    Refreshes p data src rtc (after (do
      rtcSendStunResponse slot packet src localIdx viaTurn
      rtcIceConnected p src) rtc') := by
  have hsend : Aside rtc' (after (rtcSendStunResponse slot packet src localIdx viaTurn) rtc') :=
    aside_sendStunResponse slot packet src localIdx viaTurn rtc'
  cases hrun : rtcSendStunResponse slot packet src localIdx viaTurn rtc' with
  | ok _ rtc'' =>
    rw [after_ok hrun] at hsend
    rw [after_bind_ok hrun]
    apply refreshes_iceConnected p (h.aside hsend) hgenuine
    rw [hsend.ice]
    exact fun hconn hrank => hselects hconn (Nat.lt_of_le_of_lt hsend.state.rank hrank)
  | error rc rtc'' =>
    rw [after_error hrun] at hsend
    rw [after_bind_error hrun]
    exact h.aside hsend

/-- A step beside the agent in front. -/
theorem Refreshes.behind {data : List UInt8} {src : NanortcAddr} {rtc rtc' rtc'' : Rtc Ctx Rx}
    (h : Aside rtc rtc') (h' : Refreshes p data src rtc' rtc'') :
    Refreshes p data src rtc rtc'' where
  expiry := by
    rw [← h.ice]
    exact h'.expiry
  rank := Nat.le_trans h.state.rank h'.rank
  inv := h'.inv

theorem onIce_ok {α : Type} {f : NanoIce → NanoIce × Rc × α} {rtc : Rtc Ctx Rx}
    (h : (f rtc.ice).2.1 = .ok) :
    (onIce f : RtcM Ctx Rx α) rtc = .ok (f rtc.ice).2.2 (rtc.withIce (f rtc.ice).1) := by
  unfold onIce
  revert h
  generalize f rtc.ice = r
  obtain ⟨ice, rc, a⟩ := r
  rintro rfl
  rfl

theorem onIce_error {α : Type} {f : NanoIce → NanoIce × Rc × α} {rtc : Rtc Ctx Rx}
    (h : (f rtc.ice).2.1 ≠ .ok) :
    (onIce f : RtcM Ctx Rx α) rtc = .error (f rtc.ice).2.1 (rtc.withIce (f rtc.ice).1) := by
  unfold onIce
  revert h
  generalize f rtc.ice = r
  obtain ⟨ice, rc, a⟩ := r
  intro h
  cases rc with
  | ok => exact absurd rfl h
  | _ => rfl

theorem refreshes_receiveStun {data : List UInt8} {src : NanortcAddr} {rtc : Rtc Ctx Rx}
    (hs : ConsentSettled rtc)
    (hstray : consentAnswer p.crypto rtc.ice data = true → src = rtcSelectedPeer rtc.ice)
    (localIdx : Nat) (viaTurn : Bool) :
    Refreshes p data src rtc (after (rtcReceiveStun p data src localIdx viaTurn) rtc) := by
  have hmessage {rtc : Rtc Ctx Rx} (hs : ConsentSettled rtc)
      (hstray : consentAnswer p.crypto rtc.ice data = true → src = rtcSelectedPeer rtc.ice)
      (isRequest : Bool) (slot room : Nat) : Refreshes p data src rtc (after (do
        let packet ← onIce fun ice => iceHandleStun p.crypto ice data src localIdx viaTurn room
        modify fun rtc' => rtc'.withIce
          (rtcRefreshConsent rtc.ice.consentPending src rtc'.ice rtc'.nowMs)
        if packet ≠ [] then
          if !isRequest then throw .protocol
          rtcSendStunResponse slot packet src localIdx viaTurn
        rtcIceConnected p src) rtc) := by
    by_cases hok : (iceHandleStun p.crypto rtc.ice data src localIdx viaTurn room).2.1 = .ok
    · have hgenuine := iceHandleStun_genuine p.crypto rtc.ice data src localIdx viaTurn room hok
      obtain ⟨hrefreshed, hselects⟩ :=
        refreshes_message p hs hstray localIdx viaTurn room rtc.nowMs hok
      rw [after_bind_ok (onIce_ok hok)]
      generalize (iceHandleStun p.crypto rtc.ice data src localIdx viaTurn room).2.2 = packet
      show Refreshes p data src rtc (after (if packet ≠ [] then _ else rtcIceConnected p src) _)
      split
      · show Refreshes p data src rtc (after (if (!isRequest) = true then _ else _) _)
        split
        · exact hrefreshed
        · exact refreshes_answer p hrefreshed hgenuine hselects slot packet localIdx viaTurn
      · exact refreshes_iceConnected p hrefreshed hgenuine hselects
    · rw [after_bind_error (onIce_error hok)]
      exact refreshes_refused p hs.toConsentInv localIdx viaTurn room
  show Refreshes p data src rtc (after (if (readU16be data 0 == stunBindingRequest) = true then _
    else _) rtc)
  split
  · have hslot : Aside rtc (after txSlotAcquire rtc) := aside_txSlotAcquire rtc
    cases hrun : (txSlotAcquire : RtcM Ctx Rx Nat) rtc with
    | ok slot rtc' =>
      rw [after_ok hrun] at hslot
      rw [after_bind_ok hrun]
      have hrest := hmessage (hslot.steady.settled hs) (by rw [hslot.ice]; exact hstray)
        (readU16be data 0 == stunBindingRequest) slot txSlotSize
      rw [hslot.ice] at hrest
      exact Refreshes.behind p hslot hrest
    | error rc rtc' =>
      rw [after_error hrun] at hslot
      rw [after_bind_error hrun]
      exact ⟨.inl (congrArg NanoIce.consentExpiryMs hslot.ice), hslot.state.rank,
        hslot.steady.inv hs.toConsentInv⟩
  · exact hmessage hs hstray (readU16be data 0 == stunBindingRequest) 0 stunBufSize

theorem steady_receiveTurn (data : List UInt8) : Moves Steady (rtcReceiveTurn p data) := by
  intro rtc
  unfold rtcReceiveTurn
  apply movesAt_get_bind.mpr
  dsimp only
  apply MovesAt.bind (MovesAt.steady (aside_onTurn rtc))
  intro _ rtc' _
  apply movesAt_get_bind.mpr
  apply MovesAt.ite_pure
  intro _
  apply movesAt_set.mpr
  have hice (addr : NanortcAddr) : consentOf (iceAddLocal rtc'.ice .relay addr) =
      consentOf rtc'.ice ∧ (iceAddLocal rtc'.ice .relay addr).state = rtc'.ice.state := by
    unfold iceAddLocal
    split <;> exact ⟨rfl, rfl⟩
  exact ⟨(hice _).1, (hice _).2, .inl rfl⟩

theorem steady_receiveSrflx (data : List UInt8) :
    Moves Steady (rtcReceiveSrflx data : RtcM Ctx Rx Unit) := by
  intro rtc
  unfold rtcReceiveSrflx
  split
  · exact movesAt_pure _
  · apply movesAt_get_bind.mpr
    apply MovesAt.ite_pure
    intro _
    apply movesAt_set.mpr
    have hice (addr : NanortcAddr) : consentOf (iceAddLocal rtc.ice .srflx addr) =
        consentOf rtc.ice ∧ (iceAddLocal rtc.ice .srflx addr).state = rtc.ice.state := by
      unfold iceAddLocal
      split <;> exact ⟨rfl, rfl⟩
    exact ⟨(hice _).1, (hice _).2, .inl rfl⟩

/-- The datagram is a STUN message that is handed to the agent. -/
def isPeerStun (rtc : NanoRtc) (data : List UInt8) (src : NanortcAddr) : Bool :=
  decide (byteAt data 0 ≤ 3) &&
    !(!rtcSrflxPending rtc data src && turnIsFromServer rtc.turn src) && !rtcFromStunServer rtc src

theorem refreshes_receivePlain {data : List UInt8} {src : NanortcAddr} {rtc : Rtc Ctx Rx}
    (hs : ConsentSettled rtc)
    (hstray : isPeerStun rtc.toNanoRtc data src = true →
      consentAnswer p.crypto rtc.ice data = true → src = rtcSelectedPeer rtc.ice)
    (localIdx : Nat) (viaTurn : Bool) :
    Refreshes p data src rtc (after (rtcReceivePlain p e data src localIdx viaTurn) rtc) ∧
      (isPeerStun rtc.toNanoRtc data src = false →
        (after (rtcReceivePlain p e data src localIdx viaTurn) rtc).ice.consentExpiryMs =
          rtc.ice.consentExpiryMs) := by
  have hsteady {rtc' : Rtc Ctx Rx} (h : Steady rtc rtc') : Refreshes p data src rtc rtc' ∧
      (isPeerStun rtc.toNanoRtc data src = false →
        rtc'.ice.consentExpiryMs = rtc.ice.consentExpiryMs) :=
    have hexp := congrArg Prod.fst h.consent
    ⟨⟨.inl hexp, h.state.rank, h.inv hs.toConsentInv⟩, fun _ => hexp⟩
  show MovesAt (fun rtc rtc' => Refreshes p data src rtc rtc' ∧
    (isPeerStun rtc.toNanoRtc data src = false →
      rtc'.ice.consentExpiryMs = rtc.ice.consentExpiryMs))
    (rtcReceivePlain p e data src localIdx viaTurn) rtc
  unfold rtcReceivePlain
  apply movesAt_get_bind.mpr
  dsimp only
  apply MovesAt.ite
  · intro hfirst
    apply MovesAt.ite
    · exact fun _ => hsteady (steady_receiveTurn p data rtc)
    · intro hturn
      apply MovesAt.ite
      · exact fun _ => hsteady (steady_receiveSrflx data rtc)
      · intro hserver
        have hpeer : isPeerStun rtc.toNanoRtc data src = true := by
          unfold isPeerStun
          simp only [Bool.and_eq_true, decide_eq_true_eq, Bool.not_eq_true']
          refine ⟨⟨hfirst, ?_⟩, by simpa using hserver⟩
          simpa using hturn
        refine ⟨refreshes_receiveStun p hs (hstray hpeer) localIdx viaTurn, fun h => ?_⟩
        rw [hpeer] at h
        cases h
  · intro _
    apply MovesAt.ite
    · exact fun _ => hsteady (Aside.steady (aside_receiveDtls p e data src rtc))
    · intro _
      apply MovesAt.ite
      · exact fun _ => hsteady (Aside.steady (aside_receiveMedia p data rtc))
      · exact fun _ => hsteady (Std.Refl.refl (r := Steady) rtc)

/-! ### Calls -/

/-- The STUN message for the agent that an input carries once relay framing is off, with its source
and the connection behind the timers. -/
def peerStun (rtc : Rtc Ctx Rx) (input : NanortcInput) :
    Option (Rtc Ctx Rx × List UInt8 × NanortcAddr) :=
  match rtcRun (rtcProcessTimers p e input.nowMs) (rtcSetTime p input.nowMs rtc) with
  | (rtc, .ok) =>
    if input.data ≠ [] ∧ input.src.family ≠ 0 then
      match rtcInnermost rtc.toNanoRtc (input.data.length + 1) input.data input.src false with
      | some (data, src, _) =>
        if isPeerStun rtc.toNanoRtc data src then some (rtc, data, src) else none
      | none => none
    else none
  | _ => none

/-- The call processes a STUN message that passes FINGERPRINT and MESSAGE-INTEGRITY and comes from
the selected peer. -/
def consentMessage (rtc : Rtc Ctx Rx) (call : RtcCall) : Bool :=
  match call with
  | .handleInput e input =>
    match peerStun p e rtc input with
    | some (rtc', data, src) =>
      stunGenuine p.crypto rtc'.ice data && src == rtcSelectedPeer (rtcStep p rtc call).ice
    | none => false
  | _ => false

/-- The call processes the answer to a consent check from another address than the selected one. -/
def strayAnswer (rtc : Rtc Ctx Rx) (call : RtcCall) : Bool :=
  match call with
  | .handleInput e input =>
    match peerStun p e rtc input with
    | some (rtc', data, src) =>
      consentAnswer p.crypto rtc'.ice data && src != rtcSelectedPeer rtc'.ice
    | none => false
  | _ => false

/-- The call is a restart that takes place. -/
def restarts : RtcCall → Bool
  | .iceRestart e => e.credentials.isSome
  | _ => false

/-- What a call that is no restart does to consent, from the state `rtc'` behind the timers on. -/
structure CallKeeps (rtc rtc' : Rtc Ctx Rx) (call : RtcCall) : Prop where
  expiry : (rtcStep p rtc call).ice.consentExpiryMs = rtc'.ice.consentExpiryMs ∨
    consentMessage p rtc call = true
  rank : rtc'.state.rank ≤ (rtcStep p rtc call).state.rank
  inv : ConsentInv (rtcStep p rtc call)

/-- The connection behind the timers of an input. -/
def ticked (rtc : Rtc Ctx Rx) (nowMs : UInt32) : Rtc Ctx Rx :=
  (rtcRun (rtcProcessTimers p e nowMs) (rtcSetTime p nowMs rtc)).1

theorem ticked_quiet {rtc : Rtc Ctx Rx} (hinv : ConsentInv rtc) (nowMs : UInt32) :
    (ticked p e rtc nowMs).ice.consentExpiryMs = rtc.ice.consentExpiryMs ∧
      rtc.state.rank ≤ (ticked p e rtc nowMs).state.rank ∧
      ConsentSettled (ticked p e rtc nowMs) := by
  have htime : Aside rtc (rtcSetTime p nowMs rtc) := ⟨rfl, rfl, .inl rfl⟩
  have htimers : QuietCheck ConsentInv ConsentSettled (rtcSetTime p nowMs rtc)
      (ticked p e rtc nowMs) := by
    unfold ticked
    rw [rtcRun_fst]
    exact quiet_processTimers p e nowMs _
  obtain ⟨hexp, hstate, hs⟩ := htimers (htime.steady.inv hinv)
  exact ⟨hexp, hstate.rank, hs⟩

/-- An input behind the timers: the datagram, unless the timers failed. -/
theorem handleInput_keeps {rtc : Rtc Ctx Rx} (hinv : ConsentInv rtc) (input : NanortcInput)
    (hclean : strayAnswer p rtc (.handleInput e input) = false) :
    CallKeeps p rtc (ticked p e rtc input.nowMs) (.handleInput e input) := by
  obtain ⟨-, -, hs⟩ := ticked_quiet p e hinv input.nowMs
  unfold ticked at hs ⊢
  obtain ⟨ticked, rc, hrun⟩ : ∃ ticked rc, rtcRun (rtcProcessTimers p e input.nowMs)
    (rtcSetTime p input.nowMs rtc) = (ticked, rc) := ⟨_, _, rfl⟩
  rw [hrun] at hs ⊢
  dsimp only at hs ⊢
  -- without a datagram for the agent the deadline stays
  have hkeeps (h : rtcStep p rtc (.handleInput e input) = ticked) :
      CallKeeps p rtc ticked (.handleInput e input) :=
    ⟨.inl (by rw [h]), by rw [h], by rw [h]; exact hs.toConsentInv⟩
  have hstep : rtcStep p rtc (.handleInput e input) = (nanortcHandleInput p e rtc input).1 := rfl
  unfold nanortcHandleInput at hstep
  rw [hrun] at hstep
  cases rc with
  | ok =>
    dsimp only at hstep
    by_cases hdata : input.data ≠ [] ∧ input.src.family ≠ 0
    · rw [if_pos hdata, rtcRun_fst] at hstep
      have hpeer : peerStun p e rtc input = match rtcInnermost ticked.toNanoRtc
          (input.data.length + 1) input.data input.src false with
        | some (data, src, _) =>
          if isPeerStun ticked.toNanoRtc data src then some (ticked, data, src) else none
        | none => none := by
        unfold peerStun
        rw [hrun]
        exact if_pos hdata
      unfold rtcReceive at hstep
      rw [after_bind_ok (show (get : RtcM Ctx Rx (Rtc Ctx Rx)) ticked = .ok ticked ticked from rfl)]
        at hstep
      cases hinner : rtcInnermost ticked.toNanoRtc (input.data.length + 1) input.data input.src
        false with
      | none =>
        rw [hinner] at hstep
        exact hkeeps hstep
      | some inner =>
        obtain ⟨data, src, viaTurn⟩ := inner
        rw [hinner] at hstep hpeer
        dsimp only at hstep hpeer
        have hstray : isPeerStun ticked.toNanoRtc data src = true →
            consentAnswer p.crypto ticked.ice data = true → src = rtcSelectedPeer ticked.ice := by
          intro hstun hans
          rw [if_pos hstun] at hpeer
          unfold strayAnswer at hclean
          dsimp only at hclean
          rw [hpeer] at hclean
          dsimp only at hclean
          rw [hans] at hclean
          simpa using hclean
        obtain ⟨hrefresh, hother⟩ := refreshes_receivePlain p e hs hstray
          (rtcResolveLocalIdx ticked.ice input.dst) viaTurn
        rw [← hstep] at hrefresh hother
        refine ⟨?_, hrefresh.rank, hrefresh.inv⟩
        cases hstun : isPeerStun ticked.toNanoRtc data src with
        | false => exact .inl (hother hstun)
        | true =>
          obtain hsame | ⟨hgenuine, hsrc⟩ := hrefresh.expiry
          · exact .inl hsame
          · right
            rw [if_pos hstun] at hpeer
            unfold consentMessage
            dsimp only
            rw [hpeer]
            dsimp only
            rw [hgenuine, ← hsrc]
            simp
    · rw [if_neg hdata] at hstep
      exact hkeeps hstep
  | _ => exact hkeeps hstep

/-- A selected pair whose deadline has passed at an input ends the session. -/
theorem handleInput_expired {rtc : Rtc Ctx Rx} (hinv : ConsentInv rtc) (input : NanortcInput)
    (hclean : strayAnswer p rtc (.handleInput e input) = false)
    (h : iceConsentExpired rtc.ice input.nowMs = true) :
    (rtcStep p rtc (.handleInput e input)).state = .closed := by
  have hclosed : (ticked p e rtc input.nowMs).state = .closed := by
    unfold ticked
    rw [rtcRun_fst]
    exact processTimers_expired p e h
  have hrank := (handleInput_keeps p e hinv input hclean).rank
  rw [hclosed] at hrank
  exact closed_of_rank hrank

/-- A new host candidate. -/
theorem steady_addLocalCandidate (ip : List UInt8) (port : UInt16) :
    Moves Steady (nanortcAddLocalCandidate ip port : RtcM Ctx Rx Unit) := by
  intro rtc
  unfold nanortcAddLocalCandidate
  apply movesAt_get_bind.mpr
  dsimp only
  apply MovesAt.ite
  · exact fun _ => movesAt_throw_bind _ _
  intro _
  apply MovesAt.ite
  · exact fun _ => movesAt_throw_bind _ _
  intro _
  split
  · exact movesAt_throw _
  · exact movesAt_set.mpr ⟨rfl, rfl, .inl rfl⟩

/-- A restart that takes place disarms consent; one that does not changes nothing. -/
theorem iceRestart_consent (rtc : Rtc Ctx Rx) :
    (restarts (.iceRestart e) = false ∧ rtcStep p rtc (.iceRestart e) = rtc) ∨
      (restarts (.iceRestart e) = true ∧
        (rtcStep p rtc (.iceRestart e)).ice.consentExpiryMs = 0 ∧
        ConsentInv (rtcStep p rtc (.iceRestart e))) := by
  have hstep : rtcStep p rtc (.iceRestart e) = after (nanortcIceRestart e) rtc := rtcRun_fst _ _
  rw [hstep]
  cases hcred : e.credentials with
  | none =>
    left
    refine ⟨by simp [restarts, hcred], ?_⟩
    unfold nanortcIceRestart
    rw [hcred]
    rfl
  | some c =>
    right
    obtain ⟨ufrag, pwd⟩ := c
    have hafter : after (nanortcIceRestart e) rtc =
        after emitIceStateChange (restarted ufrag pwd rtc) := by
      unfold nanortcIceRestart
      rw [hcred]
      rfl
    have hemit : Aside (restarted ufrag pwd rtc)
      (after emitIceStateChange (restarted ufrag pwd rtc)) := aside_emit _ _
    have hinv : ConsentInv (restarted ufrag pwd rtc) :=
      ⟨fun _ => rfl, fun (hrank : ConnState.iceConnected.rank ≤ ConnState.new.rank) =>
        absurd hrank (by decide)⟩
    rw [hafter]
    refine ⟨by simp [restarts, hcred], ?_, hemit.steady.inv hinv⟩
    rw [hemit.ice]
    rfl

theorem call_keeps {rtc : Rtc Ctx Rx} (hinv : ConsentInv rtc) {call : RtcCall}
    (hclean : strayAnswer p rtc call = false) (hrestart : restarts call = false) :
    CallKeeps p rtc rtc call := by
  have hsteady (h : Steady rtc (rtcStep p rtc call)) : CallKeeps p rtc rtc call :=
    ⟨.inl (congrArg Prod.fst h.consent), h.state.rank, h.inv hinv⟩
  have hbeside (h : BesideAgent call) : CallKeeps p rtc rtc call :=
    hsteady (negotiates_step p h).steady
  cases call with
  | handleInput e input =>
    obtain ⟨hexp, hrank, -⟩ := ticked_quiet p e hinv input.nowMs
    have hkeeps := handleInput_keeps p e hinv input hclean
    refine ⟨?_, Nat.le_trans hrank hkeeps.rank, hkeeps.inv⟩
    rw [← hexp]
    exact hkeeps.expiry
  | addLocalCandidate ip port =>
    apply hsteady
    have hstep : rtcStep p rtc (.addLocalCandidate ip port) =
      after (nanortcAddLocalCandidate ip port) rtc := rtcRun_fst _ _
    rw [hstep]
    exact steady_addLocalCandidate ip port rtc
  | iceRestart e =>
    obtain ⟨-, hsame⟩ | ⟨hdone, -⟩ := iceRestart_consent p e rtc
    · apply hsteady
      rw [hsame]
      exact Std.Refl.refl (r := Steady) rtc
    · rw [hdone] at hrestart
      cases hrestart
  | _ => exact hbeside trivial

/-! ### Runs -/

theorem consentInv_step {rtc : Rtc Ctx Rx} {call : RtcCall}
    (hclean : strayAnswer p rtc call = false) (hinv : ConsentInv rtc) :
    ConsentInv (rtcStep p rtc call) := by
  cases hrestart : restarts call with
  | false => exact (call_keeps p hinv hclean hrestart).inv
  | true =>
    cases call with
    | iceRestart e =>
      obtain ⟨hnot, -⟩ | ⟨-, -, hinv'⟩ := iceRestart_consent p e rtc
      · rw [hnot] at hrestart
        cases hrestart
      · exact hinv'
    | _ => cases hrestart

theorem consentInv_init (isControlling : Bool) (tieBreaker : UInt64) (rx : Rx)
    (urls : List IceUrl) :
    ConsentInv (rtcInit isControlling tieBreaker rx urls : Rtc Ctx Rx × Rc).1 := by
  have hblank : ConsentInv (rtcBlank isControlling tieBreaker rx : Rtc Ctx Rx) :=
    ⟨fun _ => rfl, fun (hrank : ConnState.iceConnected.rank ≤ ConnState.new.rank) =>
      absurd hrank (by decide)⟩
  have hservers : Aside (rtcBlank isControlling tieBreaker rx : Rtc Ctx Rx)
      (rtcInit isControlling tieBreaker rx urls : Rtc Ctx Rx × Rc).1 := by
    unfold rtcInit
    rw [rtcRun_fst]
    exact aside_onOut (fun out => applyIceServers_ice out urls) _
  exact hservers.steady.inv hblank

/-- The deadline and the rank of the state over calls that neither refresh nor restart. -/
theorem untouched_run {rtc : Rtc Ctx Rx} (hinv : ConsentInv rtc) {calls : List RtcCall}
    (hclean : AllSteps (rtcStep p) rtc (fun rtc call => strayAnswer p rtc call = false) calls)
    (hidle : AllSteps (rtcStep p) rtc
      (fun rtc call => consentMessage p rtc call = false ∧ restarts call = false) calls) :
    (run (rtcStep p) rtc calls).ice.consentExpiryMs = rtc.ice.consentExpiryMs ∧
      rtc.state.rank ≤ (run (rtcStep p) rtc calls).state.rank ∧
      ConsentInv (run (rtcStep p) rtc calls) := by
  induction calls generalizing rtc with
  | nil => exact ⟨rfl, Nat.le_refl _, hinv⟩
  | cons call calls ih =>
    obtain ⟨⟨hmessage, hrestart⟩, hidle⟩ := hidle
    have hkeeps := call_keeps p hinv hclean.1 hrestart
    obtain ⟨hexp, hrank, hlast⟩ := ih hkeeps.inv hclean.2 hidle
    refine ⟨?_, Nat.le_trans hkeeps.rank hrank, hlast⟩
    rw [run_cons, hexp]
    obtain hsame | hdone := hkeeps.expiry
    · exact hsame
    · rw [hmessage] at hdone
      cases hdone

/-- A deadline has passed until the clock is half its range ahead of it. -/
theorem nanoTimeIsDue_ofNat {due time : Nat} (hdue : due ≤ time) (hspan : time < due + 2 ^ 31) :
    nanoTimeIsDue (UInt32.ofNat time) (UInt32.ofNat due) = true := by
  rw [nanoTimeIsDue_iff, ← UInt32.ofNat_sub hdue, UInt32.toNat_ofNat']
  omega

/-- Behind calls that leave the deadline alone the first tick at or after it closes the session. -/
theorem expired_run {rtc : Rtc Ctx Rx} (hinv : ConsentInv rtc) {calls : List RtcCall}
    {input : NanortcInput} {due time : Nat}
    (hclean : AllSteps (rtcStep p) rtc (fun rtc call => strayAnswer p rtc call = false)
      (calls ++ [.handleInput e input]))
    (hidle : AllSteps (rtcStep p) rtc
      (fun rtc call => consentMessage p rtc call = false ∧ restarts call = false) calls)
    (harmed : rtc.ice.consentExpiryMs ≠ 0) (hexp : rtc.ice.consentExpiryMs = UInt32.ofNat due)
    (hnow : input.nowMs = UInt32.ofNat time) (hdue : due ≤ time) (hspan : time < due + 2 ^ 31) :
    (run (rtcStep p) rtc (calls ++ [.handleInput e input])).state = .closed := by
  obtain ⟨hclean, hcleanTick⟩ := allSteps_append.mp hclean
  obtain ⟨hsame, hrank, hlast⟩ := untouched_run p hinv hclean hidle
  rw [run_snoc]
  generalize run (rtcStep p) rtc calls = last at hcleanTick hsame hrank hlast ⊢
  -- a deadline is armed only behind the checks
  have hbegun : ConnState.iceConnected.rank ≤ last.state.rank := by
    refine Nat.le_trans (Nat.not_lt.mp fun hlow => harmed ?_) hrank
    exact congrArg Prod.fst (hinv.fresh hlow)
  by_cases hclosed : last.state = .closed
  · have hkeeps := handleInput_keeps p e hlast input hcleanTick.1
    obtain ⟨-, hticked, -⟩ := ticked_quiet p e hlast input.nowMs
    have hover := Nat.le_trans hticked hkeeps.rank
    rw [hclosed] at hover
    exact closed_of_rank hover
  · refine handleInput_expired p e hlast input hcleanTick.1 ?_
    have hselected := hlast.live hbegun hclosed
    unfold iceConsentExpired
    rw [hselected, hsame, if_neg (by decide), if_neg harmed, hexp, hnow]
    exact nanoTimeIsDue_ofNat hdue hspan

/-- Unless the answer to a consent check comes from an address that is not selected, only messages
of the selected peer that pass both tests move the deadline of consent, and a session that gets none
is over after the first tick at or after its deadline. -/
theorem consent_sound (isControlling : Bool) (tieBreaker : UInt64) (rx : Rx) (urls : List IceUrl)
    {calls : List RtcCall}
    (hclean : AllSteps (rtcStep p) (rtcInit isControlling tieBreaker rx urls).1
      (fun rtc call => strayAnswer p rtc call = false) calls) :
    AllSteps (rtcStep p) (rtcInit isControlling tieBreaker rx urls).1
        (fun rtc call => (rtcStep p rtc call).ice.consentExpiryMs = rtc.ice.consentExpiryMs ∨
          consentMessage p rtc call = true ∨
          restarts call = true ∧ (rtcStep p rtc call).ice.consentExpiryMs = 0) calls ∧
      ∀ (pre mid post : List RtcCall) (e : Entropy) (input : NanortcInput) (due time : Nat),
        calls = pre ++ (mid ++ .handleInput e input :: post) →
        let armed := run (rtcStep p) (rtcInit isControlling tieBreaker rx urls).1 pre
        AllSteps (rtcStep p) armed
          (fun rtc call => consentMessage p rtc call = false ∧ restarts call = false) mid →
        armed.ice.consentExpiryMs ≠ 0 → armed.ice.consentExpiryMs = UInt32.ofNat due →
        input.nowMs = UInt32.ofNat time → due ≤ time → time < due + 2 ^ 31 →
        (run (rtcStep p) armed (mid ++ [.handleInput e input])).state = .closed := by
  have hinit : ConsentInv (rtcInit isControlling tieBreaker rx urls : Rtc Ctx Rx × Rc).1 :=
    consentInv_init isControlling tieBreaker rx urls
  generalize (rtcInit isControlling tieBreaker rx urls : Rtc Ctx Rx × Rc).1 = rtc at hclean hinit ⊢
  constructor
  · induction calls generalizing rtc with
    | nil => trivial
    | cons call calls ih =>
      refine ⟨?_, ih _ hclean.2 (consentInv_step p hclean.1 hinit)⟩
      cases hrestart : restarts call with
      | false =>
        obtain hsame | hdone := (call_keeps p hinit hclean.1 hrestart).expiry
        · exact .inl hsame
        · exact .inr (.inl hdone)
      | true =>
        cases call with
        | iceRestart e =>
          obtain ⟨hnot, -⟩ | ⟨-, hzero, -⟩ := iceRestart_consent p e rtc
          · rw [hnot] at hrestart
            cases hrestart
          · exact .inr (.inr ⟨hrestart, hzero⟩)
        | _ => cases hrestart
  · intro pre mid post e input due time hcalls armed hidle harmed hexp hnow hdue hspan
    have hsplit : calls = pre ++ ((mid ++ [.handleInput e input]) ++ post) := by simp [hcalls]
    rw [hsplit] at hclean
    obtain ⟨hpre, hrest⟩ := allSteps_append.mp hclean
    obtain ⟨htick, -⟩ := allSteps_append.mp hrest
    have hinv : ConsentInv armed :=
      run_allSteps (P := ConsentInv) (fun _ _ => consentInv_step p) hpre hinit
    exact expired_run p e hinv htick hidle harmed hexp hnow hdue hspan

/-- The consent check of the demo session. -/
def demoConsentTxid : List UInt8 := List.replicate stunTxidSize 7

/-- The peer's answer to it. -/
def demoConsentAnswer : List UInt8 :=
  let req : StunMsg := { type := stunBindingRequest, length := 0, transactionId := demoConsentTxid }
  (stunEncodeBindingResponse .checksum req ⟨demoSocket.addr, demoSocket.port, stunFamilyIpv4⟩ [0x70]
    200).toOption.getD []

/-- The demo session up to its first consent check. -/
def demoConsent : List RtcCall :=
  demoChecks .sendrecv false ++ [demoInput 16020 [] { consentTxid := some demoConsentTxid }]

/-- The demo session that hears of its peer once more. -/
def demoRefreshed : List RtcCall := demoConsent ++ [demoInput 16030 demoConsentAnswer]

/-- The tick at the deadline that the answer arms. -/
def demoExpiry : NanortcInput := ⟨46030, [], demoPeer, demoSocket⟩

/-- The peer's answer moves the deadline; the session that hears no more ends at it. -/
theorem consent_sound_demo :
    AllSteps (rtcStep .plain) (rtcInit false 3 () [] : Rtc Unit Unit × Rc).1
        (fun rtc call => (rtcStep .plain rtc call).ice.consentExpiryMs = rtc.ice.consentExpiryMs ∨
          consentMessage .plain rtc call = true ∨
          restarts call = true ∧ (rtcStep .plain rtc call).ice.consentExpiryMs = 0)
        (demoRefreshed ++ [.handleInput {} demoExpiry]) ∧
      (run (rtcStep .plain) (run (rtcStep .plain) (rtcInit false 3 () []).1 demoRefreshed)
        ([] ++ [.handleInput {} demoExpiry])).state = .closed := by
  have hclean : AllSteps (rtcStep .plain) (rtcInit false 3 () [] : Rtc Unit Unit × Rc).1
      (fun rtc call => strayAnswer .plain rtc call = false)
      (demoRefreshed ++ [.handleInput {} demoExpiry]) := by
    decide +kernel
  have harmed : (run (rtcStep .plain) (rtcInit false 3 () [] : Rtc Unit Unit × Rc).1
      demoRefreshed).ice.consentExpiryMs = UInt32.ofNat 46030 := by
    decide +kernel
  have hzero : (run (rtcStep .plain) (rtcInit false 3 () [] : Rtc Unit Unit × Rc).1
      demoRefreshed).ice.consentExpiryMs ≠ 0 := by
    rw [harmed]
    decide
  have hnow : demoExpiry.nowMs = UInt32.ofNat 46030 := by decide
  have hlate : (46030 : Nat) < 46030 + 2 ^ 31 := by decide
  obtain ⟨hmoves, hexpires⟩ := consent_sound .plain false 3 () [] hclean
  exact ⟨hmoves, hexpires demoRefreshed [] [] {} demoExpiry 46030 46030 rfl trivial hzero harmed hnow
    (Nat.le_refl _) hlate⟩

/-- The answer to a consent check moves the deadline from any address. -/
theorem stray_answer_refreshes :
    ¬ AllSteps (rtcStep .plain) (rtcInit false 3 () [] : Rtc Unit Unit × Rc).1
      (fun rtc call => (rtcStep .plain rtc call).ice.consentExpiryMs = rtc.ice.consentExpiryMs ∨
        consentMessage .plain rtc call = true ∨
        restarts call = true ∧ (rtcStep .plain rtc call).ice.consentExpiryMs = 0)
      (demoConsent ++ [.handleInput {} ⟨16030, demoConsentAnswer, demoSocket, demoSocket⟩]) := by
  decide +kernel

end Nanortc.Spec
