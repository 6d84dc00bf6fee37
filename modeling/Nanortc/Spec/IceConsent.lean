import Nanortc.Spec.IceConnectivity

/-!
# Loss of consent

An agent that lost consent or exhausted its checks answers no request and sends no check. A
response to a check still in flight is processed as before the loss; if the check's slot is
nominated the agent selects the pair and is connected again. An agent whose checks are exhausted
has none in flight.

## Key results

- `iceStep_lost`: without a nominated check in flight a lost agent stays lost
- `iceProcessCheck_failed`: when the checks are exhausted none is in flight
- `ice_loss_final`: loss is final in runs that lose consent without a nominated check in flight
-/

namespace Nanortc.Spec

open Nanortc.ForStd Nanortc.Native

/-- Consent was lost or all checks were exhausted. -/
def Lost (ice : NanoIce) : Prop := ice.state = .disconnected ∨ ice.state = .failed

/-- A nominated check is in flight. -/
def NominationInFlight (ice : NanoIce) : Prop :=
  ∃ p ∈ ice.pending, p.inFlight ∧ p.flags.nominate

theorem Lost.ne_connected {ice : NanoIce} (h : Lost ice) : ice.state ≠ .connected := by
  rcases h with h | h <;> rw [h] <;> decide

theorem nominationInFlight_iff (ice : NanoIce) :
    NominationInFlight ice ↔ ∃ pair txid, InFlight ice pair txid true := by
  constructor
  · rintro ⟨p, hp, hf, hn⟩
    exact ⟨⟨_, _⟩, _, p, hp, hf, rfl, ⟨rfl, rfl⟩, hn⟩
  · rintro ⟨_, _, p, hp, hf, -, -, hn⟩
    exact ⟨p, hp, hf, hn⟩

/-! ### A lost agent -/

/-- A lost agent takes no notice of requests. -/
theorem iceTriggerCheck_lost {ice : NanoIce} (h : Lost ice) (lcl : Nat) (src : NanortcAddr)
    (nominate : Bool) : (iceTriggerCheck ice lcl src nominate).1 = ice := by
  have hs : ice.state = .connected ∨ ice.state = .failed ∨ ice.state = .disconnected :=
    .inr h.symm
  simp only [iceTriggerCheck, if_pos hs]

/-- A lost agent sends no check. -/
theorem iceProcessCheck_lost (crypto : CryptoProvider) {ice : NanoIce} (h : Lost ice)
    (nowMs : UInt32) (ready : Option (List Bool)) (random : Option (List UInt8)) (bufLen : Nat) :
    (iceProcessCheck crypto ice nowMs ready random bufLen).1 = ice := by
  have hs : ice.state ≠ .new ∧ ice.state ≠ .checking := by
    rcases h with h | h <;> rw [h] <;> decide
  have hget : (iceGetCheck ice nowMs ready).1 = 0xFFFFFFFF := by
    simp only [iceGetCheck, if_pos hs]
  simp only [iceProcessCheck]
  rw [if_neg (by rw [hget]; decide)]

/-- A successful check in a slot that is not nominated does not change the agent's state. -/
theorem iceCheckSucceeded_state {ice : NanoIce} {slot : Nat} (msg : StunMsg)
    (h : (ice.pending.getD slot default).flags.nominate = false) :
    (iceCheckSucceeded ice slot msg).state = ice.state := by
  simp only [iceCheckSucceeded, h]
  split
  · rw [if_neg Bool.false_ne_true]
    split <;> rfl
  · rfl

/-- The agent after an error response. -/
theorem iceHandleError_cases (crypto : CryptoProvider) (ice : NanoIce) (data : List UInt8)
    (msg : StunMsg) : (iceHandleError crypto ice data msg).1 = ice ∨
      ∃ slot, (iceHandleError crypto ice data msg).1 = ice.setSlot slot .zero := by
  simp only [iceHandleError]
  split
  · split
    · exact .inl rfl
    · exact .inr ⟨_, rfl⟩
  · exact .inl rfl

/-- **Without a nominated check in flight a lost agent stays lost.** -/
theorem iceStep_lost {crypto : CryptoProvider} {ice : NanoIce} (h : Lost ice)
    (hn : ¬ NominationInFlight ice) (i : IceInput) :
    (iceStep crypto ice i).state = ice.state ∧ ¬ NominationInFlight (iceStep crypto ice i) := by
  have hsame : ∀ ice', ice' = ice → ice'.state = ice.state ∧ ¬ NominationInFlight ice' := by
    rintro ice' rfl
    exact ⟨rfl, hn⟩
  cases i with
  | stun data src localIdx viaTurn respBufLen =>
    simp only [iceStep, iceHandleStun]
    split
    · exact hsame _ rfl
    rename_i msg hparse
    split
    · rcases iceHandleRequest_cases crypto ice data msg src localIdx viaTurn respBufLen with
        hr | ⟨-, -, hr⟩
      · exact hsame _ hr
      · exact hsame _ (hr.trans (iceTriggerCheck_lost h ..))
    split
    · rcases iceHandleResponse_cases crypto ice data msg src localIdx viaTurn with
        hr | ⟨-, ⟨-, -, hr⟩ | ⟨slot, hslot, hasym, hr⟩⟩
      · exact hsame _ hr
      · dsimp only
        rw [hr]
        exact ⟨rfl, hn⟩
      · -- the answered check is not a nominated one
        obtain ⟨hlt, hf, -⟩ := iceFindPending_spec hslot
        have hnom : (ice.pending.getD slot default).flags.nominate = false := by
          by_contra hnom
          exact hn ⟨_, getD_mem hlt, hf, by simpa using hnom⟩
        have heff := iceCheckSucceeded_effect ice msg hlt (iceAsymmetric_remote hasym).1
        dsimp only
        rw [hr]
        refine ⟨iceCheckSucceeded_state msg hnom, fun hn' => hn ?_⟩
        obtain ⟨pair, txid, hf'⟩ := (nominationInFlight_iff _).mp hn'
        exact (nominationInFlight_iff _).mpr ⟨pair, txid, heff.inFlight pair txid true hf'⟩
    split
    · rcases iceHandleError_cases crypto ice data msg with hr | ⟨slot, hr⟩
      · exact hsame _ hr
      · dsimp only
        rw [hr]
        refine ⟨rfl, ?_⟩
        rintro ⟨p, hp, hf, hnom⟩
        rcases mem_set_cases hp with ⟨rfl, -⟩ | hp
        · exact absurd hf Bool.false_ne_true
        · exact hn ⟨p, hp, hf, hnom⟩
    · exact hsame _ rfl
  | check nowMs relayReady random bufLen => exact hsame _ (iceProcessCheck_lost crypto h ..)
  | consent nowMs random bufLen =>
    refine hsame _ ?_
    simp only [iceStep, iceProcessConsent]
    rw [if_neg h.ne_connected]
  | deadlines nextMs expiryMs => exact ⟨rfl, hn⟩

/-! ### Exhausted checks -/

/-- What the scan knows of the slots it has seen. -/
structure ScanIdle (ice : NanoIce) (seen : List Nat) (scan : IceScan) : Prop where
  check : scan.check.slot = none → scan.check.expire = false
  active : scan.active = false → ∀ i ∈ seen, (ice.pending.getD i default).inFlight = false

theorem iceScanSlot_idle {ice : NanoIce} {seen : List Nat} {scan : IceScan}
    (h : ScanIdle ice seen scan) (nowMs : UInt32) (ready : Option (List Bool)) (pace : UInt32)
    (i : Nat) : ScanIdle ice (seen ++ [i]) (iceScanSlot ice nowMs ready pace scan i) := by
  simp only [iceScanSlot]
  split
  · rename_i hidle
    simp only [Bool.and_eq_true, Bool.not_eq_true'] at hidle
    have hseen : scan.active = false →
        ∀ j ∈ seen ++ [i], (ice.pending.getD j default).inFlight = false := by
      intro hact j hj
      rcases List.mem_append.mp hj with hj | hj
      · exact h.active hact j hj
      · rw [List.mem_singleton.mp hj]
        exact hidle.1
    split
    · exact ⟨h.check, hseen⟩
    · exact ⟨h.check, hseen⟩
  · split
    · exact ⟨h.check, fun hact => absurd hact (by simp)⟩
    · split
      · exact ⟨fun hs => (by cases hs), fun hact => absurd hact (by simp)⟩
      · exact ⟨h.check, fun hact => absurd hact (by simp)⟩

theorem foldl_scan_idle {ice : NanoIce} (nowMs : UInt32) (ready : Option (List Bool))
    (pace : UInt32) (slots seen : List Nat) {scan : IceScan} (h : ScanIdle ice seen scan) :
    ScanIdle ice (seen ++ slots) (slots.foldl (iceScanSlot ice nowMs ready pace) scan) := by
  induction slots generalizing seen scan with
  | nil => rwa [List.append_nil]
  | cons i slots ih =>
    have := ih (seen ++ [i]) (iceScanSlot_idle h nowMs ready pace i)
    rwa [List.append_assoc] at this

/-- The checks are given up for good only without remote candidates or with no check in flight. -/
theorem iceGetCheck_exhausted (ice : NanoIce) (nowMs : UInt32) (ready : Option (List Bool))
    (hslot : (iceGetCheck ice nowMs ready).2.slot = none)
    (hexp : (iceGetCheck ice nowMs ready).2.expire) :
    ice.remoteCandidates = [] ∨
      ∀ i < iceMaxPendingChecks, (ice.pending.getD i default).inFlight = false := by
  have hinit : ScanIdle ice [] ⟨⟨none, 0, 0, false, false⟩, 0xFFFFFFFF, none, false⟩ :=
    ⟨fun _ => rfl, fun _ _ h => absurd h List.not_mem_nil⟩
  have hscan := foldl_scan_idle nowMs ready (icePace ice nowMs) (List.range iceMaxPendingChecks) []
    hinit
  simp only [iceGetCheck] at hslot hexp
  split at hslot
  · rename_i hs
    rw [if_pos hs] at hexp
    exact absurd hexp Bool.false_ne_true
  rename_i hs
  rw [if_neg hs] at hexp
  split at hslot
  · rename_i hend
    exact .inl (List.eq_nil_of_length_eq_zero hend.2)
  rename_i hend
  rw [if_neg hend] at hexp
  split at hslot
  · rename_i hcred
    rw [if_pos hcred] at hexp
    exact absurd hexp Bool.false_ne_true
  rename_i hcred
  rw [if_neg hcred] at hexp
  revert hslot hexp hscan
  generalize (List.range iceMaxPendingChecks).foldl
    (iceScanSlot ice nowMs ready (icePace ice nowMs)) _ = scan
  intro hscan hexp hslot
  have hno : scan.check.slot = none → scan.check.expire → False := fun hs he =>
    absurd he (by rw [hscan.check hs]; exact Bool.false_ne_true)
  split at hslot
  · rename_i hbest
    rw [if_pos hbest] at hexp
    exact (hno hslot hexp).elim
  rename_i hbest
  rw [if_neg hbest] at hexp
  split at hslot
  · rename_i hcount
    rw [if_pos hcount] at hexp
    split at hslot
    · rename_i hact
      refine .inr fun i hi => hscan.active (by simpa using hact) i ?_
      exact List.mem_append_right _ (List.mem_range.mpr hi)
    · rename_i hact
      rw [if_neg hact] at hexp
      exact (hno hslot hexp).elim
  rename_i hcount
  rw [if_neg hcount] at hexp
  split at hslot
  · rename_i hfree hnext
    rw [hfree, hnext] at hexp
    dsimp only at hexp
    split at hslot
    · cases hslot
    · rename_i hpace
      rw [if_neg hpace] at hexp
      exact (hno hslot hexp).elim
  · rename_i hmatch
    split at hexp
    · rename_i hfree hnext
      exact (hmatch _ _ _ hfree hnext).elim
    · exact (hno hslot hexp).elim

/-! ### The table keeps its size -/

@[simp] theorem setSlot_length (ice : NanoIce) (slot : Nat) (p : IcePending) :
    (ice.setSlot slot p).pending.length = ice.pending.length := List.length_set

@[simp] theorem iceQueueCheck_length (ice : NanoIce) (slot : Nat) :
    (iceQueueCheck ice slot).pending.length = ice.pending.length := setSlot_length ..

@[simp] theorem iceSelectPair_length (ice : NanoIce) (lcl remote : Nat) :
    (iceSelectPair ice lcl remote).pending.length = ice.pending.length := rfl

@[simp] theorem iceUnqueueCheck_length (ice : NanoIce) (slot : Nat) :
    (iceUnqueueCheck ice slot).pending.length = ice.pending.length := by
  simp only [iceUnqueueCheck]
  split
  · simp
  · rfl

theorem iceTriggerCheck_length (ice : NanoIce) (lcl : Nat) (src : NanortcAddr) (nominate : Bool) :
    (iceTriggerCheck ice lcl src nominate).1.pending.length = ice.pending.length := by
  simp only [iceTriggerCheck]
  split
  · rfl
  split
  · rfl
  split
  · rfl
  split
  · rfl
  split
  · split <;> simp
  · split <;> simp

theorem iceCheckSucceeded_length (ice : NanoIce) (slot : Nat) (msg : StunMsg) :
    (iceCheckSucceeded ice slot msg).pending.length = ice.pending.length := by
  simp only [iceCheckSucceeded]
  split
  · split
    · simp
    · split <;> simp
  · simp

theorem iceSendCheck_length (crypto : CryptoProvider) (ice : NanoIce) (nowMs : UInt32)
    (check : IceCheck) (random : Option (List UInt8)) (bufLen : Nat) :
    (iceSendCheck crypto ice nowMs check random bufLen).1.pending.length = ice.pending.length := by
  simp only [iceSendCheck]
  split
  · split <;> simp
  split
  · rfl
  split
  · rfl
  split
  · rfl
  split
  · rfl
  split
  · rfl
  · simp

/-- Every step keeps the number of pending slots. -/
theorem iceStep_length (crypto : CryptoProvider) (ice : NanoIce) (i : IceInput) :
    (iceStep crypto ice i).pending.length = ice.pending.length := by
  cases i with
  | stun data src localIdx viaTurn respBufLen =>
    simp only [iceStep, iceHandleStun]
    split
    · rfl
    rename_i msg hparse
    split
    · rcases iceHandleRequest_cases crypto ice data msg src localIdx viaTurn respBufLen with
        h | ⟨-, -, h⟩
      · rw [h]
      · rw [h, iceTriggerCheck_length]
    split
    · rcases iceHandleResponse_cases crypto ice data msg src localIdx viaTurn with
        h | ⟨-, ⟨-, -, h⟩ | ⟨slot, -, -, h⟩⟩
      · dsimp only; rw [h]
      · dsimp only; rw [h]
      · dsimp only; rw [h, iceCheckSucceeded_length]
    split
    · rcases iceHandleError_cases crypto ice data msg with h | ⟨slot, h⟩
      · dsimp only; rw [h]
      · dsimp only; rw [h, setSlot_length]
    · rfl
  | check nowMs relayReady random bufLen =>
    simp only [iceStep, iceProcessCheck]
    split
    · exact iceSendCheck_length ..
    · rfl
  | consent nowMs random bufLen =>
    simp only [iceStep, iceProcessConsent]
    split
    · split
      · rfl
      split
      · rw [(iceGenerateConsent_frame crypto ice nowMs random bufLen).2.1]
      · rfl
    · rfl
  | deadlines nextMs expiryMs => rfl

/-! ### Entering loss -/

/-- An inbound message leaves the agent's state as it is or connects it. -/
theorem iceStep_stun_state (crypto : CryptoProvider) (ice : NanoIce) (data : List UInt8)
    (src : NanortcAddr) (localIdx : Nat) (viaTurn : Bool) (respBufLen : Nat) :
    (iceStep crypto ice (.stun data src localIdx viaTurn respBufLen)).state = ice.state ∨
      (iceStep crypto ice (.stun data src localIdx viaTurn respBufLen)).state = .connected := by
  simp only [iceStep, iceHandleStun]
  split
  · exact .inl rfl
  rename_i msg hparse
  split
  · rcases iceHandleRequest_cases crypto ice data msg src localIdx viaTurn respBufLen with
      h | ⟨-, -, h⟩
    · exact .inl (by rw [h])
    · rw [h]
      simp only [iceTriggerCheck]
      split
      · exact .inl rfl
      split
      · exact .inl rfl
      split
      · exact .inl rfl
      split
      · exact .inl rfl
      split
      · split
        · exact .inr rfl
        · exact .inl rfl
      · split <;> exact .inl rfl
  split
  · rcases iceHandleResponse_cases crypto ice data msg src localIdx viaTurn with
      h | ⟨-, ⟨-, -, h⟩ | ⟨slot, -, -, h⟩⟩
    · exact .inl (by rw [h])
    · exact .inl (by rw [h])
    · dsimp only
      rw [h]
      simp only [iceCheckSucceeded]
      split
      · split
        · exact .inr rfl
        · split <;> exact .inl rfl
      · exact .inl rfl
  split
  · rcases iceHandleError_cases crypto ice data msg with h | ⟨slot, h⟩
    · exact .inl (by dsimp only; rw [h])
    · exact .inl (by dsimp only; rw [h]; rfl)
  · exact .inl rfl

/-- A check tick fails the agent only without remote candidates or with no check in flight. -/
theorem iceProcessCheck_failed {crypto : CryptoProvider} {ice : NanoIce} {nowMs : UInt32}
    {ready : Option (List Bool)} {random : Option (List UInt8)} {bufLen : Nat}
    (h : Lost (iceProcessCheck crypto ice nowMs ready random bufLen).1) :
    Lost ice ∨ ((iceProcessCheck crypto ice nowMs ready random bufLen).1.pending = ice.pending ∧
      (ice.remoteCandidates = [] ∨
        ∀ i < iceMaxPendingChecks, (ice.pending.getD i default).inFlight = false)) := by
  have hex := iceGetCheck_exhausted ice nowMs ready
  simp only [iceProcessCheck] at h ⊢
  revert hex h
  generalize iceGetCheck ice nowMs ready = g
  obtain ⟨wait, check⟩ := g
  intro h hex
  dsimp only at h hex ⊢
  split at h
  · rename_i hwait
    rw [if_pos hwait]
    simp only [iceSendCheck] at h ⊢
    split at h
    · rename_i hexp
      rw [if_pos hexp]
      split at h
      · rename_i hslot
        exact .inr ⟨rfl, hex hslot hexp⟩
      · refine .inl ?_
        simp only [Lost] at h ⊢
        rwa [show ∀ (a : NanoIce) s p, (a.setSlot s p).state = a.state from fun _ _ _ => rfl,
          (iceUnqueueCheck_same ice _).2] at h
    · split at h
      · exact .inl h
      split at h
      · exact .inl h
      split at h
      · exact .inl h
      split at h
      · exact .inl h
      split at h
      · exact .inl h
      · -- a check that goes out leaves the agent checking
        rcases h with h | h <;> exact absurd h (by simp)
  · exact .inl h

/-- A connected agent does not fail. -/
theorem iceStep_connected_ne_failed {crypto : CryptoProvider} {ice : NanoIce} (i : IceInput)
    (h : ice.state = .connected) : (iceStep crypto ice i).state ≠ .failed := by
  have hne : ice.state ≠ .failed := by rw [h]; decide
  cases i with
  | stun data src localIdx viaTurn respBufLen =>
    rcases iceStep_stun_state crypto ice data src localIdx viaTurn respBufLen with h' | h'
    · rwa [h']
    · rw [h']; decide
  | check nowMs relayReady random bufLen =>
    have hs : ice.state ≠ .new ∧ ice.state ≠ .checking := by rw [h]; decide
    have hget : (iceGetCheck ice nowMs relayReady).1 = 0xFFFFFFFF := by
      simp only [iceGetCheck, if_pos hs]
    simp only [iceStep, iceProcessCheck]
    rwa [if_neg (by rw [hget]; decide)]
  | consent nowMs random bufLen =>
    simp only [iceStep, iceProcessConsent, if_pos h]
    split
    · intro h
      cases h
    split
    · rwa [(iceGenerateConsent_frame crypto ice nowMs random bufLen).2.2]
    · exact hne
  | deadlines nextMs expiryMs => exact hne

/-- When the agent is lost without having lost consent, no nominated check is in flight. -/
theorem lost_of_step {crypto : CryptoProvider} {start : NanoIce} (hstart : IceStart start)
    (is : List IceInput) (i : IceInput)
    (hne : ¬ Lost (run (iceStep crypto) start is))
    (hlost : Lost (iceStep crypto (run (iceStep crypto) start is) i))
    (hcons : (run (iceStep crypto) start is).state = .connected →
      ¬ NominationInFlight (run (iceStep crypto) start is)) :
    ¬ NominationInFlight (iceStep crypto (run (iceStep crypto) start is) i) := by
  have hlen : (run (iceStep crypto) start is).pending.length = iceMaxPendingChecks := by
    refine run_invariant (P := fun s => s.pending.length = iceMaxPendingChecks)
      (fun s i h => (iceStep_length crypto s i).trans h) ?_ is
    rw [hstart.pending, List.length_replicate]
  have hist := iceHistory crypto hstart is
  revert hne hlost hcons hlen hist
  generalize run (iceStep crypto) start is = ice
  intro hne hlost hcons hlen hist
  cases i with
  | stun data src localIdx viaTurn respBufLen =>
    rcases iceStep_stun_state crypto ice data src localIdx viaTurn respBufLen with h | h
    · exact absurd (by simpa only [Lost, h] using hlost) hne
    · exact absurd h hlost.ne_connected
  | check nowMs relayReady random bufLen =>
    rcases iceProcessCheck_failed hlost with h | ⟨hpend, hno⟩
    · exact absurd h hne
    · rintro ⟨p, hp, hf, -⟩
      have hp : p ∈ ice.pending := hpend ▸ hp
      rcases hno with hno | hno
      · obtain ⟨_, _, -, hdest, -⟩ := hist.inFlight ⟨_, _⟩ _ _ ⟨p, hp, hf, rfl, ⟨rfl, rfl⟩, rfl⟩
        rw [hno] at hdest
        exact nomatch hdest
      · obtain ⟨k, hk, rfl⟩ := List.mem_iff_getElem.mp hp
        have := hno k (hlen ▸ hk)
        rw [List.getD_eq_getElem?_getD, List.getElem?_eq_getElem hk, Option.getD_some] at this
        rw [this] at hf
        exact Bool.false_ne_true hf
  | consent nowMs random bufLen =>
    by_cases hconn : ice.state = .connected
    · have hpend : (iceStep crypto ice (.consent nowMs random bufLen)).pending = ice.pending := by
        simp only [iceStep, iceProcessConsent, if_pos hconn]
        split
        · rfl
        split
        · exact (iceGenerateConsent_frame ..).2.1
        · rfl
      rintro ⟨p, hp, hf⟩
      exact hcons hconn ⟨p, hpend ▸ hp, hf⟩
    · have hsame : iceStep crypto ice (.consent nowMs random bufLen) = ice := by
        simp only [iceStep, iceProcessConsent, if_neg hconn]
      exact absurd (hsame ▸ hlost) hne
  | deadlines nextMs expiryMs => exact absurd hlost hne

/-! ### Loss is final -/

/-- The run loses consent only while no nominated check is in flight. -/
def CleanLoss (crypto : CryptoProvider) (start : NanoIce) (is : List IceInput) : Prop :=
  ∀ pre i post, is = pre ++ i :: post →
    (run (iceStep crypto) start pre).state = .connected →
    (iceStep crypto (run (iceStep crypto) start pre) i).state = .disconnected →
    ¬ NominationInFlight (run (iceStep crypto) start pre)

/-- **Loss is final.** In a run that loses consent only while no nominated check is in flight, an
agent that is disconnected or failed at some point is so at every later one. -/
theorem ice_loss_final {crypto : CryptoProvider} {start : NanoIce} (hstart : IceStart start)
    (is : List IceInput) (hclean : CleanLoss crypto start is) (pre post : List IceInput)
    (his : is = pre ++ post) (hlost : Lost (run (iceStep crypto) start pre)) :
    (run (iceStep crypto) start is).state = (run (iceStep crypto) start pre).state := by
  have key : ∀ js, (∃ ks, is = js ++ ks) → Lost (run (iceStep crypto) start js) →
      ¬ NominationInFlight (run (iceStep crypto) start js) := by
    refine fun js => run_induction (s := start)
      (P := fun js s => (∃ ks, is = js ++ ks) → Lost s → ¬ NominationInFlight s) ?_ ?_ js
    · rintro - (h | h)
      · rw [hstart.state] at h
        exact nomatch h
      · rw [hstart.state] at h
        exact nomatch h
    · rintro js i ih ⟨ks, hks⟩ hlost'
      rw [List.append_assoc] at hks
      by_cases hl : Lost (run (iceStep crypto) start js)
      · exact (iceStep_lost hl (ih ⟨_, hks⟩ hl) i).2
      · refine lost_of_step hstart js i hl hlost' fun hconn => ?_
        rcases hlost' with h | h
        · exact hclean js i ks hks hconn h
        · exact absurd h (iceStep_connected_ne_failed i hconn)
  subst his
  rw [run_append]
  have hn := key pre ⟨post, rfl⟩ hlost
  generalize run (iceStep crypto) start pre = ice at hlost hn ⊢
  have hstep : ∀ s i, s.state = ice.state ∧ ¬ NominationInFlight s →
      (iceStep crypto s i).state = ice.state ∧ ¬ NominationInFlight (iceStep crypto s i) := by
    intro s i ⟨hs, hn⟩
    have hl : Lost s := by simpa only [Lost, hs] using hlost
    obtain ⟨h1, h2⟩ := iceStep_lost hl hn i
    exact ⟨h1.trans hs, h2⟩
  exact (run_invariant (P := fun s => s.state = ice.state ∧ ¬ NominationInFlight s) hstep
    ⟨rfl, hn⟩ post).1

/-! ### Two runs -/

instance (ice : NanoIce) : Decidable (NominationInFlight ice) :=
  inferInstanceAs (Decidable (∃ p ∈ ice.pending, _))

/-- Clean loss can be read off the states of the run. -/
theorem cleanLoss_of_take {crypto : CryptoProvider} {start : NanoIce} {is : List IceInput}
    (h : ∀ k < is.length, (run (iceStep crypto) start (is.take k)).state = .connected →
      (run (iceStep crypto) start (is.take (k + 1))).state = .disconnected →
      ¬ NominationInFlight (run (iceStep crypto) start (is.take k))) :
    CleanLoss crypto start is := by
  rintro pre i post rfl hconn hdis
  have h1 : (pre ++ i :: post).take pre.length = pre := List.take_left
  have h2 : (pre ++ i :: post).take (pre.length + 1) = pre ++ [i] := by
    rw [List.take_length_add_append, List.take_succ_cons, List.take_zero]
  have := h pre.length (by simp)
  rw [h1, h2, run_snoc] at this
  exact this hconn hdis

/-- A controlled agent connects and loses consent; late messages come in behind the loss. -/
def cleanRun : List IceInput :=
  [demoCheck 1 1, demoResponse 1 2, demoRequest 7 2, .deadlines 15001 30001,
    .consent 40000 none 200, demoRequest 8 2, demoResponse 1 2]

theorem clean_loss_final :
    (run (iceStep .checksum) (demoIce false [2]) cleanRun).state =
      (run (iceStep .checksum) (demoIce false [2]) (cleanRun.take 5)).state ∧
    (run (iceStep .checksum) (demoIce false [2]) (cleanRun.take 5)).state = .disconnected := by
  have hclean : CleanLoss .checksum (demoIce false [2]) cleanRun :=
    cleanLoss_of_take (by decide +kernel)
  have hdis : (run (iceStep .checksum) (demoIce false [2]) (cleanRun.take 5)).state =
      .disconnected := by decide +kernel
  exact ⟨ice_loss_final (demoIce_start false [2]) cleanRun hclean (cleanRun.take 5)
    (cleanRun.drop 5) (List.take_append_drop 5 cleanRun).symm (.inl hdis), hdis⟩

/-- A controlling agent checks two pairs, nominates both, connects on the first and loses consent
before the second is answered. -/
def lateAnswerRun : List IceInput :=
  [demoCheck 1 1, demoCheck 51 2, demoResponse 1 2, demoResponse 2 3, demoCheck 101 3,
    demoCheck 151 4, demoResponse 3 2, .deadlines 15151 30151, .consent 40000 none 200,
    demoResponse 4 3]

/-- The late answer to the second nominating check brings the agent back. -/
theorem lateAnswer_reconnects :
    IceStart (demoIce true [2, 3]) ∧
      (run (iceStep .checksum) (demoIce true [2, 3]) (lateAnswerRun.take 9)).state =
        .disconnected ∧
      (run (iceStep .checksum) (demoIce true [2, 3]) lateAnswerRun).state = .connected :=
  ⟨demoIce_start true [2, 3], by decide +kernel, by decide +kernel⟩

end Nanortc.Spec
