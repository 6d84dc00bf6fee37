import Nanortc.Spec.IceSteps

/-!
# ICE connectivity safety

Over every run of an agent: it becomes connected only on an authenticated message, for a pair
that was validated and nominated, and a message that fails authentication or answers no
transaction changes nothing.

## Key results

- `iceStep_effect`: what one step of the agent can do
- `iceHistory`: every in-flight, valid and nominated slot has its event in the past
- `ice_connected_safe`: the agent enters the connected state only as ICE allows
-/

namespace Nanortc.Spec

open Nanortc.ForStd Nanortc.Native

/-! ### One step -/

/-- What one step can do, in terms of the protocol's events. -/
structure StepEffect (crypto : CryptoProvider) (ice : NanoIce) (i : IceInput) : Prop where
  same : SameAgent ice (iceStep crypto ice i)
  inFlight : ∀ pair txid n, InFlight (iceStep crypto ice i) pair txid n →
    InFlight ice pair txid n ∨ (ice.isControlling = false ∧ ∃ n', InFlight ice pair txid n') ∨
      ∃ dest, CheckSent crypto pair txid (ice.isControlling && n) dest ice i
  valid : ∀ pair, ValidPair (iceStep crypto ice i) pair →
    ValidPair ice pair ∨ SuccessfulCheck crypto pair ice i
  nominated : ∀ pair, NominatedPair (iceStep crypto ice i) pair →
    NominatedPair ice pair ∨ UseCandidateRequest crypto pair ice i ∨ ice.isControlling
  connected : ice.state ≠ .connected → (iceStep crypto ice i).state = .connected → ∃ pair,
    SelectedPair (iceStep crypto ice i) pair ∧
      ((ice.isControlling = false ∧ UseCandidateRequest crypto pair ice i ∧ ValidPair ice pair) ∨
        ∃ txid, CheckAnswered crypto pair txid ice i ∧ InFlight ice pair txid true)

/-- A step that touches neither slots nor selection. -/
theorem StepEffect.of_same {crypto : CryptoProvider} {ice : NanoIce} {i : IceInput}
    (hsame : SameAgent ice (iceStep crypto ice i))
    (hpending : (iceStep crypto ice i).pending = ice.pending)
    (hstate : (iceStep crypto ice i).state = ice.state ∨
      (iceStep crypto ice i).state ≠ .connected) : StepEffect crypto ice i := by
  refine ⟨hsame, fun pair txid n h => ?_, fun pair h => ?_, fun pair h => ?_, fun h h' => ?_⟩
  · obtain ⟨p, hp, hf, htx, hpair, hn⟩ := h
    exact .inl ⟨p, hpending ▸ hp, hf, htx, hsame.ofPair.mp hpair, hn⟩
  · obtain ⟨p, hp, hv, hpair⟩ := h
    exact .inl ⟨p, hpending ▸ hp, hv, hsame.ofPair.mp hpair⟩
  · obtain ⟨p, hp, hn, hpair⟩ := h
    exact .inl ⟨p, hpending ▸ hp, hn, hsame.ofPair.mp hpair⟩
  · rcases hstate with hs | hs
    · exact absurd (hs ▸ h') h
    · exact absurd h' hs

theorem StepEffect.refl {crypto : CryptoProvider} {ice : NanoIce} {i : IceInput}
    (h : iceStep crypto ice i = ice) : StepEffect crypto ice i :=
  .of_same (by rw [h]; exact SameAgent.refl ice) (by rw [h]) (.inl (by rw [h]))

/-- A request handler that got as far as the trigger has an authentic request in hand. -/
theorem iceHandleRequest_cases (crypto : CryptoProvider) (ice : NanoIce) (data : List UInt8)
    (msg : StunMsg) (src : NanortcAddr) (localIdx : Nat) (viaTurn : Bool) (respBufLen : Nat) :
    (iceHandleRequest crypto ice data msg src localIdx viaTurn respBufLen).1 = ice ∨
      (stunAuthentic crypto data msg ice.localPwd ∧ iceVerifyUsername ice msg ∧
        (iceHandleRequest crypto ice data msg src localIdx viaTurn respBufLen).1 =
          (iceTriggerCheck ice (iceResolveLocal ice src localIdx viaTurn) src
            (msg.useCandidate && !ice.isControlling)).1) := by
  simp only [iceHandleRequest]
  split
  · exact .inl rfl
  rename_i hfp
  split
  · exact .inl rfl
  rename_i hfpv
  split
  · exact .inl rfl
  rename_i huser
  split
  · exact .inl rfl
  rename_i hmi
  split
  · exact .inl rfl
  rename_i hmiv
  split
  · exact .inl rfl
  split
  · exact .inl rfl
  · refine .inr ⟨?_, by simpa using huser, ?_⟩
    · simp only [stunAuthentic]
      simp_all
    · split <;> rename_i h <;> rw [h]

/-- A response handler that changes the agent has an authentic response to a transaction in hand:
the consent check's, or an in-flight check's over the path of the check. -/
theorem iceHandleResponse_cases (crypto : CryptoProvider) (ice : NanoIce) (data : List UInt8)
    (msg : StunMsg) (src : NanortcAddr) (localIdx : Nat) (viaTurn : Bool) :
    (iceHandleResponse crypto ice data msg src localIdx viaTurn).1 = ice ∨
      (stunAuthentic crypto data msg ice.remotePwd ∧
        ((ice.consentPending ∧ msg.transactionId = ice.consentTxid ∧
            (iceHandleResponse crypto ice data msg src localIdx viaTurn).1 =
              { ice with consentPending := false }) ∨
          ∃ slot, iceFindPending ice msg.transactionId = some slot ∧
            iceAsymmetric ice (ice.pending.getD slot default) src localIdx viaTurn = false ∧
            (iceHandleResponse crypto ice data msg src localIdx viaTurn).1 =
              iceCheckSucceeded ice slot msg)) := by
  simp only [iceHandleResponse]
  split
  · rename_i hcons
    split
    · exact .inl rfl
    rename_i hfp
    split
    · exact .inl rfl
    rename_i hmi
    refine .inr ⟨?_, .inl ⟨hcons.1, hcons.2, rfl⟩⟩
    simp only [stunAuthentic]
    simp_all
  · split
    · exact .inl rfl
    rename_i slot hslot
    split
    · exact .inl rfl
    rename_i hfp
    split
    · exact .inl rfl
    rename_i hfpv
    split
    · exact .inl rfl
    rename_i hmi
    split
    · exact .inl rfl
    rename_i hmiv
    split
    · exact .inl rfl
    rename_i hasym
    refine .inr ⟨?_, .inr ⟨slot, hslot, by simpa using hasym, rfl⟩⟩
    simp only [stunAuthentic]
    simp_all

/-- The slot a response is matched to. -/
theorem iceFindPending_spec {ice : NanoIce} {txid : List UInt8} {slot : Nat}
    (h : iceFindPending ice txid = some slot) :
    slot < ice.pending.length ∧ (ice.pending.getD slot default).inFlight ∧
      (ice.pending.getD slot default).txid = txid := by
  obtain ⟨hlt, hp, -⟩ := List.findIdx?_eq_some_iff_getElem.mp h
  rw [List.getD_eq_getElem?_getD, List.getElem?_eq_getElem hlt, Option.getD_some]
  simp only [Bool.and_eq_true, beq_iff_eq] at hp
  exact ⟨hlt, hp⟩

/-- A response on the path of the check comes from the address the check was sent to. -/
theorem iceAsymmetric_remote {ice : NanoIce} {p : IcePending} {src : NanortcAddr} {localIdx : Nat}
    {viaTurn : Bool} (h : iceAsymmetric ice p src localIdx viaTurn = false) :
    p.remoteIdx < ice.remoteCandidates.length ∧ IsRemote ice p.remoteIdx src := by
  simp only [iceAsymmetric, Bool.or_eq_false_iff, decide_eq_false_iff_not, Bool.not_eq_false'] at h
  obtain ⟨⟨⟨-, hr⟩, haddr⟩, -⟩ := h
  have hlt : p.remoteIdx < ice.remoteCandidates.length := by omega
  refine ⟨hlt, _, List.getElem?_eq_getElem hlt, ?_⟩
  rwa [List.getD_eq_getElem?_getD, List.getElem?_eq_getElem hlt, Option.getD_some] at haddr

/-- A request. -/
theorem StepEffect.request {crypto : CryptoProvider} {ice : NanoIce} {data : List UInt8}
    {src : NanortcAddr} {localIdx : Nat} {viaTurn : Bool} {respBufLen : Nat} {msg : StunMsg}
    (hparse : stunParse data = .ok msg) (htype : msg.type = stunBindingRequest) :
    StepEffect crypto ice (.stun data src localIdx viaTurn respBufLen) := by
  have hstep : iceStep crypto ice (.stun data src localIdx viaTurn respBufLen) =
      (iceHandleRequest crypto ice data msg src localIdx viaTurn respBufLen).1 := by
    simp only [iceStep, iceHandleStun, hparse, htype, if_true]
  rcases iceHandleRequest_cases crypto ice data msg src localIdx viaTurn respBufLen with
    h | ⟨hauth, huser, h⟩
  · exact .refl (hstep.trans h)
  · rw [h] at hstep
    have heff := iceTriggerCheck_effect ice (iceResolveLocal ice src localIdx viaTurn) src
      (msg.useCandidate && !ice.isControlling)
    rw [← hstep] at heff
    have hctl : (msg.useCandidate && !ice.isControlling) = true →
        msg.useCandidate ∧ ice.isControlling = false := by
      intro h
      simpa using h
    have hreq : (msg.useCandidate && !ice.isControlling) = true → ∀ pair : IcePair,
        iceLocalBaseIdx ice (iceResolveLocal ice src localIdx viaTurn) = pair.base →
        IsRemote (iceStep crypto ice (.stun data src localIdx viaTurn respBufLen)) pair.remote src →
        UseCandidateRequest crypto pair ice (.stun data src localIdx viaTurn respBufLen) :=
      fun hnom pair hb hr => ⟨data, src, localIdx, viaTurn, respBufLen, msg, rfl,
        ⟨hparse, htype, hauth, huser⟩, (hctl hnom).1, hb, hr⟩
    refine ⟨heff.same, fun pair txid n hf => ?_, fun pair hv => .inl (heff.valid pair hv),
      fun pair hn => ?_, fun hne hc => ?_⟩
    · rcases heff.inFlight pair txid n hf with hf | ⟨hnom, hf⟩
      · exact .inl hf
      · exact .inr (.inl ⟨(hctl hnom).2, hf⟩)
    · rcases heff.nominated pair hn with hn | ⟨hnom, hb, hr⟩
      · exact .inl hn
      · exact .inr (.inl (hreq hnom pair hb hr))
    · obtain ⟨hnom, pair, hsel, hb, hr, hval⟩ := heff.connected hne hc
      exact ⟨pair, hsel, .inl ⟨(hctl hnom).2, hreq hnom pair hb hr, hval⟩⟩

/-- A response. -/
theorem StepEffect.response {crypto : CryptoProvider} {ice : NanoIce} {data : List UInt8}
    {src : NanortcAddr} {localIdx : Nat} {viaTurn : Bool} {respBufLen : Nat} {msg : StunMsg}
    (hparse : stunParse data = .ok msg) (htype : msg.type = stunBindingResponse) :
    StepEffect crypto ice (.stun data src localIdx viaTurn respBufLen) := by
  have hstep : iceStep crypto ice (.stun data src localIdx viaTurn respBufLen) =
      (iceHandleResponse crypto ice data msg src localIdx viaTurn).1 := by
    have hne : stunBindingResponse ≠ stunBindingRequest := by decide
    simp only [iceStep, iceHandleStun, hparse, htype, if_neg hne, if_true]
  rcases iceHandleResponse_cases crypto ice data msg src localIdx viaTurn with
    h | ⟨hauth, ⟨-, -, h⟩ | ⟨slot, hslot, hasym, h⟩⟩
  · exact .refl (hstep.trans h)
  · rw [h] at hstep
    refine .of_same ?_ (by rw [hstep]) (.inl (by rw [hstep]))
    rw [hstep]
    exact ⟨rfl, rfl, rfl, rfl, rfl, rfl, rfl, List.prefix_rfl⟩
  · rw [h] at hstep
    obtain ⟨hlt, hflight, htxid⟩ := iceFindPending_spec hslot
    obtain ⟨hrlt, hremote⟩ := iceAsymmetric_remote hasym
    have heff := iceCheckSucceeded_effect ice msg hlt hrlt
    rw [← hstep] at heff
    have hans : ∀ pair, OfPair ice (ice.pending.getD slot default) pair →
        CheckAnswered crypto pair msg.transactionId ice
          (.stun data src localIdx viaTurn respBufLen) :=
      fun pair hpair => ⟨data, src, localIdx, viaTurn, respBufLen, msg, _, rfl,
        ⟨hparse, htype, hauth⟩, rfl, getD_mem hlt, hflight, htxid, hpair, hpair.2 ▸ hremote⟩
    refine ⟨heff.same, fun pair txid n hf => .inl (heff.inFlight pair txid n hf), fun pair hv => ?_,
      fun pair hn => ?_, fun hne hc => ?_⟩
    · rcases heff.valid pair hv with hv | hpair
      · exact .inl hv
      · exact .inr ⟨_, hans pair hpair⟩
    · rcases heff.nominated pair hn with hn | hctl
      · exact .inl hn
      · exact .inr (.inr hctl)
    · obtain ⟨hnom, hsel⟩ := heff.connected hne hc
      exact ⟨_, hsel, .inr ⟨_, hans _ ⟨rfl, rfl⟩, _, getD_mem hlt, hflight, htxid, ⟨rfl, rfl⟩,
        hnom⟩⟩

/-- An error response at most empties a slot. -/
theorem StepEffect.error {crypto : CryptoProvider} {ice : NanoIce} {data : List UInt8}
    {src : NanortcAddr} {localIdx : Nat} {viaTurn : Bool} {respBufLen : Nat} {msg : StunMsg}
    (hparse : stunParse data = .ok msg) (htype : msg.type = stunBindingError) :
    StepEffect crypto ice (.stun data src localIdx viaTurn respBufLen) := by
  have hstep : iceStep crypto ice (.stun data src localIdx viaTurn respBufLen) =
      (iceHandleError crypto ice data msg).1 := by
    have hne : stunBindingError ≠ stunBindingRequest := by decide
    have hne' : stunBindingError ≠ stunBindingResponse := by decide
    simp only [iceStep, iceHandleStun, hparse, htype, if_neg hne, if_neg hne', if_true]
  simp only [iceHandleError] at hstep
  split at hstep
  · split at hstep
    · exact .refl hstep
    · rename_i slot hslot
      have hsame : SameAgent ice (ice.setSlot slot .zero) :=
        ⟨rfl, rfl, rfl, rfl, rfl, rfl, rfl, List.prefix_rfl⟩
      have hinh : Inherits ice false (ice.pending.getD slot default) .zero :=
        ⟨fun h => absurd h Bool.false_ne_true, fun h => absurd h Bool.false_ne_true,
          fun h => absurd h Bool.false_ne_true⟩
      refine ⟨hstep ▸ hsame, ?_, ?_, ?_, ?_⟩ <;> rw [hstep]
      · intro pair txid n h
        rcases inFlight_of_set hsame rfl hinh h with h | ⟨h, -⟩
        · exact .inl h
        · exact absurd h Bool.false_ne_true
      · exact fun pair h => .inl (valid_of_set hsame rfl hinh h)
      · intro pair h
        rcases nominated_of_set hsame rfl hinh h with h | ⟨h, -⟩
        · exact .inl h
        · exact absurd h Bool.false_ne_true
      · exact fun h h' => absurd h' h
  · exact .refl hstep

/-- A consent check touches neither slots nor selection nor state. -/
theorem iceGenerateConsent_frame (crypto : CryptoProvider) (ice : NanoIce) (nowMs : UInt32)
    (random : Option (List UInt8)) (bufLen : Nat) :
    SameAgent ice (iceGenerateConsent crypto ice nowMs random bufLen).1 ∧
      (iceGenerateConsent crypto ice nowMs random bufLen).1.pending = ice.pending ∧
      (iceGenerateConsent crypto ice nowMs random bufLen).1.state = ice.state := by
  simp only [iceGenerateConsent]
  split
  · exact ⟨SameAgent.refl ice, rfl, rfl⟩
  split
  · exact ⟨SameAgent.refl ice, rfl, rfl⟩
  split
  · exact ⟨SameAgent.refl ice, rfl, rfl⟩
  split
  · exact ⟨SameAgent.refl ice, rfl, rfl⟩
  split
  · exact ⟨SameAgent.refl ice, rfl, rfl⟩
  · exact ⟨⟨rfl, rfl, rfl, rfl, rfl, rfl, rfl, List.prefix_rfl⟩, rfl, rfl⟩

/-- **What one step of the agent can do.** -/
theorem iceStep_effect (crypto : CryptoProvider) (ice : NanoIce) (i : IceInput) :
    StepEffect crypto ice i := by
  cases i with
  | stun data src localIdx viaTurn respBufLen =>
    cases hparse : stunParse data with
    | error e => exact .refl (by simp only [iceStep, iceHandleStun, hparse])
    | ok msg =>
      by_cases hreq : msg.type = stunBindingRequest
      · exact .request hparse hreq
      by_cases hresp : msg.type = stunBindingResponse
      · exact .response hparse hresp
      by_cases herr : msg.type = stunBindingError
      · exact .error hparse herr
      exact .refl (by simp only [iceStep, iceHandleStun, hparse, if_neg hreq, if_neg hresp,
        if_neg herr])
  | check nowMs relayReady random bufLen =>
    have heff := iceProcessCheck_effect crypto ice nowMs relayReady random bufLen
    refine ⟨heff.same, fun pair txid n hf => ?_, fun pair hv => .inl (heff.valid pair hv),
      fun pair hn => .inl (heff.nominated pair hn), fun hne hc => ?_⟩
    · rcases heff.inFlight pair txid n hf with hf | ⟨c, hsent, htx, huse, hb, hr, hlt⟩
      · exact .inl hf
      · exact .inr (.inr ⟨_, nowMs, relayReady, random, bufLen, c, rfl, hsent, htx, huse, hb, hr,
          List.getElem?_eq_getElem hlt⟩)
    · rcases heff.state with hs | hs
      · exact absurd (hs.symm.trans hc) hne
      · exact absurd hc hs
  | consent nowMs random bufLen =>
    have h : SameAgent ice (iceStep crypto ice (.consent nowMs random bufLen)) ∧
        (iceStep crypto ice (.consent nowMs random bufLen)).pending = ice.pending ∧
        ((iceStep crypto ice (.consent nowMs random bufLen)).state = ice.state ∨
          (iceStep crypto ice (.consent nowMs random bufLen)).state ≠ .connected) := by
      simp only [iceStep, iceProcessConsent]
      split
      · split
        · exact ⟨⟨rfl, rfl, rfl, rfl, rfl, rfl, rfl, List.prefix_rfl⟩, rfl, .inr (by simp)⟩
        split
        · obtain ⟨hsame, hpend, hstate⟩ := iceGenerateConsent_frame crypto ice nowMs random bufLen
          exact ⟨hsame, hpend, .inl hstate⟩
        · exact ⟨SameAgent.refl ice, rfl, .inl rfl⟩
      · exact ⟨SameAgent.refl ice, rfl, .inl rfl⟩
    exact .of_same h.1 h.2.1 h.2.2
  | deadlines nextMs expiryMs =>
    exact .of_same ⟨rfl, rfl, rfl, rfl, rfl, rfl, rfl, List.prefix_rfl⟩ rfl (.inl rfl)

/-! ### Runs -/

/-- A configured agent that has not started: any role, credentials and candidates, every pending
slot zeroed. -/
structure IceStart (ice : NanoIce) : Prop where
  state : ice.state = .new
  pending : ice.pending = List.replicate iceMaxPendingChecks .zero

/-- Every slot's state has its event in the history `is` of the run from `start`. -/
structure IceHistory (crypto : CryptoProvider) (start : NanoIce) (is : List IceInput)
    (ice : NanoIce) : Prop where
  same : SameAgent start ice
  inFlight : ∀ pair txid n, InFlight ice pair txid n → ∃ use dest,
    Occurred (iceStep crypto) start (CheckSent crypto pair txid use dest) is ∧
      ice.remoteCandidates[pair.remote]? = some dest ∧ (ice.isControlling → use = n)
  valid : ∀ pair, ValidPair ice pair →
    Occurred (iceStep crypto) start (SuccessfulCheck crypto pair) is
  nominated : ∀ pair, ice.isControlling = false → NominatedPair ice pair →
    Occurred (iceStep crypto) start (UseCandidateRequest crypto pair) is

theorem SameAgent.remote {a b : NanoIce} (h : SameAgent a b) {k : Nat} {c : IceCandidate}
    (hc : a.remoteCandidates[k]? = some c) : b.remoteCandidates[k]? = some c := by
  obtain ⟨t, ht⟩ := h.remoteCandidates
  rw [← ht, List.getElem?_append_left (List.getElem?_eq_some_iff.mp hc).1, hc]

theorem IceStart.history {crypto : CryptoProvider} {start : NanoIce} (h : IceStart start) :
    IceHistory crypto start [] start := by
  have hzero : ∀ p ∈ start.pending, p = .zero := by
    intro p hp
    rw [h.pending] at hp
    exact List.eq_of_mem_replicate hp
  refine ⟨SameAgent.refl start, fun pair txid n hf => ?_, fun pair hv => ?_, fun pair _ hn => ?_⟩
  · obtain ⟨p, hp, hf, -⟩ := hf
    rw [hzero p hp] at hf
    exact absurd hf Bool.false_ne_true
  · obtain ⟨p, hp, hv, -⟩ := hv
    rw [hzero p hp] at hv
    exact absurd hv Bool.false_ne_true
  · obtain ⟨p, hp, hn, -⟩ := hn
    rw [hzero p hp] at hn
    exact absurd hn Bool.false_ne_true

/-- One step extends the history. -/
theorem IceHistory.step {crypto : CryptoProvider} {start : NanoIce} {is : List IceInput}
    (h : IceHistory crypto start is (run (iceStep crypto) start is)) (i : IceInput) :
    IceHistory crypto start (is ++ [i])
      (iceStep crypto (run (iceStep crypto) start is) i) := by
  have heff := iceStep_effect crypto (run (iceStep crypto) start is) i
  have hctl := heff.same.isControlling
  refine ⟨h.same.trans heff.same, fun pair txid n hf => ?_, fun pair hv => ?_,
    fun pair hc hn => ?_⟩
  · rcases heff.inFlight pair txid n hf with hf | ⟨hc, n', hf⟩ | ⟨dest, hs⟩
    · obtain ⟨use, dest, hocc, hdest, huse⟩ := h.inFlight pair txid n hf
      exact ⟨use, dest, (occurred_snoc ..).mpr (.inl hocc), heff.same.remote hdest,
        fun hc => huse (hctl ▸ hc)⟩
    · obtain ⟨use, dest, hocc, hdest, -⟩ := h.inFlight pair txid n' hf
      exact ⟨use, dest, (occurred_snoc ..).mpr (.inl hocc), heff.same.remote hdest,
        fun hc' => absurd (hctl ▸ hc') (by simp [hc])⟩
    · have hdest := hs
      obtain ⟨_, _, _, _, _, _, _, _, _, _, _, hdest⟩ := hdest
      refine ⟨_, dest, (occurred_snoc ..).mpr (.inr hs), heff.same.remote hdest, fun hc => ?_⟩
      rw [hctl] at hc
      rw [hc, Bool.true_and]
  · rcases heff.valid pair hv with hv | hs
    · exact (occurred_snoc ..).mpr (.inl (h.valid pair hv))
    · exact (occurred_snoc ..).mpr (.inr hs)
  · rw [hctl] at hc
    rcases heff.nominated pair hn with hn | hs | hc'
    · exact (occurred_snoc ..).mpr (.inl (h.nominated pair hc hn))
    · exact (occurred_snoc ..).mpr (.inr hs)
    · exact absurd hc' (by simp [hc])

/-- **Every in-flight, valid and nominated slot has its event in the past.** -/
theorem iceHistory (crypto : CryptoProvider) {start : NanoIce} (h : IceStart start)
    (is : List IceInput) : IceHistory crypto start is (run (iceStep crypto) start is) :=
  run_induction (P := IceHistory crypto start) h.history (fun _ i h => h.step i) is

/-! ### Messages that change nothing -/

/-- The transaction id is that of the consent check or of a check in flight. -/
def AnswersTransaction (ice : NanoIce) (txid : List UInt8) : Prop :=
  (ice.consentPending ∧ txid = ice.consentTxid) ∨ ∃ p ∈ ice.pending, p.inFlight ∧ p.txid = txid

/-- The message is an authenticated request, or an authenticated response or error response to a
transaction of the agent. -/
def Accepted (crypto : CryptoProvider) (ice : NanoIce) (data : List UInt8) : Prop :=
  ∃ msg, AuthenticRequest crypto ice data msg ∨
    (stunParse data = .ok msg ∧ (msg.type = stunBindingResponse ∨ msg.type = stunBindingError) ∧
      stunAuthentic crypto data msg ice.remotePwd ∧ AnswersTransaction ice msg.transactionId)

/-- A message that is not accepted leaves the agent as it is. -/
theorem iceStep_of_not_accepted {crypto : CryptoProvider} {ice : NanoIce} {data : List UInt8}
    (h : ¬ Accepted crypto ice data) (src : NanortcAddr) (localIdx : Nat) (viaTurn : Bool)
    (respBufLen : Nat) :
    iceStep crypto ice (.stun data src localIdx viaTurn respBufLen) = ice := by
  have hpend : ∀ {txid slot}, iceFindPending ice txid = some slot → AnswersTransaction ice txid := by
    intro txid slot hs
    obtain ⟨hlt, hf, htx⟩ := iceFindPending_spec hs
    exact .inr ⟨_, getD_mem hlt, hf, htx⟩
  simp only [iceStep, iceHandleStun]
  split
  · rfl
  rename_i msg hparse
  split
  · rename_i hreq
    rcases iceHandleRequest_cases crypto ice data msg src localIdx viaTurn respBufLen with
      hsame | ⟨hauth, huser, -⟩
    · exact hsame
    · exact absurd ⟨msg, .inl ⟨hparse, hreq, hauth, huser⟩⟩ h
  split
  · rename_i hresp
    rcases iceHandleResponse_cases crypto ice data msg src localIdx viaTurn with
      hsame | ⟨hauth, hcons | ⟨slot, hslot, -⟩⟩
    · exact hsame
    · exact absurd ⟨msg, .inr ⟨hparse, .inl hresp, hauth, .inl ⟨hcons.1, hcons.2.1⟩⟩⟩ h
    · exact absurd ⟨msg, .inr ⟨hparse, .inl hresp, hauth, hpend hslot⟩⟩ h
  split
  · rename_i herr
    simp only [iceHandleError]
    split
    · rename_i hauth
      split
      · rfl
      · rename_i slot hslot
        exact absurd ⟨msg, .inr ⟨hparse, .inr herr, hauth, hpend hslot⟩⟩ h
    · rfl
  · rfl

/-! ### Connectivity safety -/

/-- How the agent may become connected on message `data` from `src` in state `ice`, after the
inputs `is` of a run from `start` and with the message as the last input `i`. -/
def ConnectsSafely (crypto : CryptoProvider) (start : NanoIce) (is : List IceInput)
    (i : IceInput) : Prop :=
  let ice := run (iceStep crypto) start is
  ∃ pair data src localIdx viaTurn respBufLen msg,
    i = .stun data src localIdx viaTurn respBufLen ∧ SelectedPair (iceStep crypto ice i) pair ∧
    ((ice.isControlling = false ∧
        (AuthenticRequest crypto ice data msg ∨ AuthenticResponse crypto ice data msg) ∧
        Occurred (iceStep crypto) start (UseCandidateRequest crypto pair) (is ++ [i]) ∧
        Occurred (iceStep crypto) start (SuccessfulCheck crypto pair) (is ++ [i])) ∨
      (ice.isControlling = true ∧ AuthenticResponse crypto ice data msg ∧
        (∃ p ∈ ice.pending, p.inFlight ∧ p.txid = msg.transactionId ∧ OfPair ice p pair) ∧
        ∃ dest, iceAddrMatches dest src ∧ Occurred (iceStep crypto) start
          (CheckSent crypto pair msg.transactionId true dest) is))

/-- **Connectivity safety.** In every run the agent enters the connected state only while it
processes an authenticated message: on the controlled side, an authenticated USE-CANDIDATE request
and a successful check have both occurred for the selected pair; on the controlling side, the
message is a success response to an in-flight check of the selected pair that carried
USE-CANDIDATE, from the address the check was sent to. A message that fails authentication or
answers no transaction leaves the whole agent unchanged. -/
theorem ice_connected_safe (crypto : CryptoProvider) {start : NanoIce} (hstart : IceStart start)
    (is : List IceInput) (i : IceInput) :
    ((run (iceStep crypto) start is).state ≠ .connected →
      (iceStep crypto (run (iceStep crypto) start is) i).state = .connected →
      ConnectsSafely crypto start is i) ∧
    ∀ data src localIdx viaTurn respBufLen, i = .stun data src localIdx viaTurn respBufLen →
      ¬ Accepted crypto (run (iceStep crypto) start is) data →
      iceStep crypto (run (iceStep crypto) start is) i = run (iceStep crypto) start is := by
  have hist := iceHistory crypto hstart is
  refine ⟨fun hne hconn => ?_, fun data src localIdx viaTurn respBufLen hi h => ?_⟩
  · obtain ⟨pair, hsel, ⟨hctl, hreq, hval⟩ | ⟨txid, hans, hflight⟩⟩ :=
      (iceStep_effect crypto _ i).connected hne hconn
    · have hreq' := hreq
      obtain ⟨data, src, localIdx, viaTurn, respBufLen, msg, rfl, hauth, -⟩ := hreq'
      exact ⟨pair, data, src, localIdx, viaTurn, respBufLen, msg, rfl, hsel,
        .inl ⟨hctl, .inl hauth, (occurred_snoc ..).mpr (.inr hreq),
          (occurred_snoc ..).mpr (.inl (hist.valid pair hval))⟩⟩
    · have hans' := hans
      obtain ⟨data, src, localIdx, viaTurn, respBufLen, msg, p, rfl, hauth, rfl, hp, hf, htx, hpair,
        c, hc, hm⟩ := hans'
      refine ⟨pair, data, src, localIdx, viaTurn, respBufLen, msg, rfl, hsel, ?_⟩
      cases hctl : (run (iceStep crypto) start is).isControlling with
      | false =>
        obtain ⟨q, hq, -, -, hqpair, hqn⟩ := hflight
        exact .inl ⟨rfl, .inr hauth,
          (occurred_snoc ..).mpr (.inl (hist.nominated pair hctl ⟨q, hq, hqn, hqpair⟩)),
          (occurred_snoc ..).mpr (.inr ⟨_, hans⟩)⟩
      | true =>
        obtain ⟨use, dest, hocc, hdest, huse⟩ := hist.inFlight pair _ true hflight
        obtain rfl := huse hctl
        obtain rfl : c = dest := Option.some.inj (hc.symm.trans hdest)
        exact .inr ⟨rfl, hauth, ⟨p, hp, hf, htx, hpair⟩, c, hm, hocc⟩
  · rw [hi]
    exact iceStep_of_not_accepted h src localIdx viaTurn respBufLen

/-! ### A run that connects -/

/-- An IPv4 address on the demo network. -/
def demoAddr (n : UInt8) : List UInt8 := [10, 0, 0, n] ++ List.replicate 12 0

/-- An agent with one host candidate and the given remote candidates. -/
def demoIce (isControlling : Bool) (remotes : List UInt8) : NanoIce :=
  { iceInit isControlling with
    localUfrag := [0x61]
    localPwd := [0x62]
    remoteUfrag := [0x63]
    remotePwd := [0x64]
    localCandidates := [⟨demoAddr 1, 1000, 4, .host⟩]
    remoteCandidates := remotes.map fun n => ⟨demoAddr n, 2000, 4, .host⟩ }

/-- A transaction id. -/
def demoTxid (n : UInt8) : List UInt8 := List.replicate stunTxidSize n

/-- A timer tick with a random transaction id. -/
def demoCheck (nowMs : UInt32) (txid : UInt8) : IceInput :=
  .check nowMs none (some (demoTxid txid)) 200

/-- The peer's answer to a check. -/
def demoResponse (txid remote : UInt8) : IceInput :=
  let req : StunMsg := { type := stunBindingRequest, length := 0, transactionId := demoTxid txid }
  let resp := stunEncodeBindingResponse .checksum req ⟨demoAddr 1, 1000, stunFamilyIpv4⟩ [0x64] 200
  .stun (resp.toOption.getD []) ⟨4, demoAddr remote, 2000⟩ 0 false 200

/-- The peer's check with USE-CANDIDATE. -/
def demoRequest (txid remote : UInt8) : IceInput :=
  let req := stunEncodeBindingRequest .checksum [0x61, 0x3A, 0x63] 1 true true 5 (demoTxid txid)
    [0x62] 200
  .stun (req.toOption.getD []) ⟨4, demoAddr remote, 2000⟩ 0 false 200

theorem demoIce_start (isControlling : Bool) (remotes : List UInt8) :
    IceStart (demoIce isControlling remotes) := ⟨rfl, rfl⟩

/-- A controlled agent whose check was answered connects on the peer's nomination. -/
theorem demo_connected_safe :
    ConnectsSafely .checksum (demoIce false [2]) [demoCheck 1 1, demoResponse 1 2]
      (demoRequest 7 2) := by
  have h : (run (iceStep .checksum) (demoIce false [2])
        [demoCheck 1 1, demoResponse 1 2]).state ≠ .connected ∧
      (iceStep .checksum (run (iceStep .checksum) (demoIce false [2])
        [demoCheck 1 1, demoResponse 1 2]) (demoRequest 7 2)).state = .connected := by
    decide +kernel
  exact (ice_connected_safe .checksum (demoIce_start false [2])
    [demoCheck 1 1, demoResponse 1 2] (demoRequest 7 2)).1 h.1 h.2

end Nanortc.Spec
