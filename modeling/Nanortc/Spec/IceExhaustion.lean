import Nanortc.Spec.IceTable

/-!
# Giving up the checks

The agent fails when its budget of checks is spent and no slot is queued or in flight, or when the
peer has no candidates at all. A successful pair that waits for its nomination is in neither state,
so it does not count.

## Key results

- `iceProcessCheck_fails`: when a check ends in failure
- `exhausted_iff`: the runs in which the agent gives up only when no pair works
-/

namespace Nanortc.Spec

open Nanortc.ForStd Nanortc.Native

/-! ### The scan -/

/-- The slot takes part in the checks. -/
def Engaged (p : IcePending) : Prop := p.inFlight = true ∨ p.flags.queued = true

instance (p : IcePending) : Decidable (Engaged p) := inferInstanceAs (Decidable (_ ∨ _))

theorem not_engaged_iff {p : IcePending} :
    ¬ Engaged p ↔ p.inFlight = false ∧ p.flags.queued = false := by
  unfold Engaged
  rw [not_or, Bool.not_eq_true, Bool.not_eq_true]

/-- What the scan knows of the slots it has passed. -/
structure ScanEngaged (ice : NanoIce) (passed : List Nat) (scan : IceScan) : Prop where
  active : scan.active = true ↔ ∃ j ∈ passed, Engaged (ice.pending.getD j default)
  best : scan.active = false → scan.best = 0xFFFFFFFF
  slot : scan.best = 0 → scan.check.slot.isSome = true

theorem ScanEngaged.turn {ice : NanoIce} {passed : List Nat} {scan : IceScan}
    (h : ScanEngaged ice passed scan) (nowMs : UInt32) (ready : Option (List Bool)) (pace : UInt32)
    (i : Nat) :
    ScanEngaged ice (passed ++ [i]) (iceScanSlot ice nowMs ready pace scan i) := by
  have hlast : (∃ j ∈ passed ++ [i], Engaged (ice.pending.getD j default)) ↔
      (∃ j ∈ passed, Engaged (ice.pending.getD j default)) ∨
        Engaged (ice.pending.getD i default) := by
    constructor
    · rintro ⟨j, hj, hengaged⟩
      rcases List.mem_append.mp hj with hj | hj
      · exact .inl ⟨j, hj, hengaged⟩
      · obtain rfl := List.mem_singleton.mp hj
        exact .inr hengaged
    · rintro (⟨j, hj, hengaged⟩ | hengaged)
      · exact ⟨j, List.mem_append_left _ hj, hengaged⟩
      · exact ⟨i, List.mem_append_right _ List.mem_cons_self, hengaged⟩
  unfold iceScanSlot
  dsimp only
  split
  · rename_i hidle
    rw [Bool.and_eq_true, Bool.not_eq_true', Bool.not_eq_true'] at hidle
    have hactive : scan.active = true ↔
        ∃ j ∈ passed ++ [i], Engaged (ice.pending.getD j default) := by
      rw [hlast, ← h.active, or_iff_left (not_engaged_iff.mpr hidle)]
    split
    · exact ⟨hactive, h.best, h.slot⟩
    · exact ⟨hactive, h.best, h.slot⟩
  · rename_i hbusy
    have hengaged : Engaged (ice.pending.getD i default) := by
      by_contra hcon
      obtain ⟨hflight, hqueued⟩ := not_engaged_iff.mp hcon
      rw [hflight, hqueued] at hbusy
      exact hbusy rfl
    have hactive : true = true ↔
        ∃ j ∈ passed ++ [i], Engaged (ice.pending.getD j default) := by
      rw [hlast]
      exact iff_of_true rfl (.inr hengaged)
    split
    · exact ⟨hactive, nofun, h.slot⟩
    split
    · exact ⟨hactive, nofun, fun _ => rfl⟩
    · exact ⟨hactive, nofun, h.slot⟩

theorem ScanEngaged.fold {ice : NanoIce} {nowMs pace : UInt32} {ready : Option (List Bool)}
    {passed slots : List Nat} {scan : IceScan} (h : ScanEngaged ice passed scan) :
    ScanEngaged ice (passed ++ slots) (slots.foldl (iceScanSlot ice nowMs ready pace) scan) := by
  induction slots generalizing passed scan with
  | nil => rwa [List.append_nil]
  | cons i slots ih =>
    have hrest := ih (h.turn nowMs ready pace i)
    rwa [List.append_assoc] at hrest

/-! ### Failing -/

/-- The checks can run: both sides have credentials and candidates. -/
def ChecksRun (ice : NanoIce) : Prop :=
  (ice.state = .new ∨ ice.state = .checking) ∧
    ¬ (ice.localUfrag.isEmpty ∨ ice.localPwd.isEmpty ∨ ice.remoteUfrag.isEmpty ∨
      ice.remotePwd.isEmpty ∨ ice.localCandidates.isEmpty ∨ ice.remoteCandidates.isEmpty)

instance (ice : NanoIce) : Decidable (ChecksRun ice) :=
  inferInstanceAs (Decidable ((_ ∨ _) ∧ ¬ (_ ∨ _ ∨ _ ∨ _ ∨ _ ∨ _)))

/-- The peer has said that it has no candidates. -/
def NoRemotes (ice : NanoIce) : Prop :=
  ice.endOfCandidates = true ∧ ice.remoteCandidates.length = 0

instance (ice : NanoIce) : Decidable (NoRemotes ice) := inferInstanceAs (Decidable (_ ∧ _))

/-- The budget of checks is spent and none is queued or in flight. -/
def BudgetSpent (ice : NanoIce) : Prop :=
  ChecksRun ice ∧ iceMaxChecks ≤ ice.checkCount ∧ ∀ p ∈ ice.pending, ¬ Engaged p

instance (ice : NanoIce) : Decidable (BudgetSpent ice) :=
  inferInstanceAs (Decidable (_ ∧ _ ∧ ∀ p ∈ ice.pending, ¬ Engaged p))

/-- A check that names no slot is due when the agent gives up, and only then. -/
theorem iceGetCheck_gives {ice : NanoIce} (hsize : ice.pending.length = iceMaxPendingChecks)
    (nowMs : UInt32) (ready : Option (List Bool)) :
    ((iceGetCheck ice nowMs ready).1 = 0 ∧ (iceGetCheck ice nowMs ready).2.slot = none ∧
        (iceGetCheck ice nowMs ready).2.expire = true) ↔
      ((ice.state = .new ∨ ice.state = .checking) ∧ NoRemotes ice) ∨ BudgetSpent ice := by
  have hscan : ScanEngaged ice ([] ++ List.range iceMaxPendingChecks)
      ((List.range iceMaxPendingChecks).foldl (iceScanSlot ice nowMs ready (icePace ice nowMs))
        ⟨⟨none, 0, 0, false, false⟩, 0xFFFFFFFF, none, false⟩) :=
    ScanEngaged.fold ⟨⟨nofun, fun ⟨_, hj, _⟩ => nomatch hj⟩, fun _ => rfl, nofun⟩
  have hslots : (∃ j ∈ [] ++ List.range iceMaxPendingChecks,
      Engaged (ice.pending.getD j default)) ↔ ∃ p ∈ ice.pending, Engaged p := by
    constructor
    · rintro ⟨j, hj, hengaged⟩
      exact ⟨_, getD_mem (by rw [hsize]; exact List.mem_range.mp hj), hengaged⟩
    · rintro ⟨p, hp, hengaged⟩
      obtain ⟨j, hj, rfl⟩ := List.getElem_of_mem hp
      refine ⟨j, List.mem_range.mpr (by rwa [← hsize]), ?_⟩
      rwa [getD_eq_getElem hj]
  unfold iceGetCheck BudgetSpent ChecksRun
  dsimp only
  split
  · rename_i hstate
    have hover : ¬ (ice.state = .new ∨ ice.state = .checking) := not_or.mpr hstate
    exact iff_of_false (fun h => nomatch h.1) fun h =>
      h.elim (fun h => hover h.1) fun h => hover h.1.1
  rename_i hstate
  have hruns : ice.state = .new ∨ ice.state = .checking := by
    rwa [not_and_or, ne_eq, ne_eq, Decidable.not_not, Decidable.not_not] at hstate
  split
  · rename_i hnone
    exact iff_of_true ⟨rfl, rfl, rfl⟩ (.inl ⟨hruns, hnone⟩)
  rename_i hsome
  refine Iff.trans ?_ (or_iff_right fun h => hsome h.2).symm
  split
  · rename_i hcred
    exact iff_of_false (fun h => nomatch h.1) fun h => h.1.2 hcred
  rename_i hcred
  revert hscan
  generalize (List.range iceMaxPendingChecks).foldl
    (iceScanSlot ice nowMs ready (icePace ice nowMs)) _ = scan
  intro hscan
  have hactive := hscan.active
  rw [hslots] at hactive
  have hidle : (∀ p ∈ ice.pending, ¬ Engaged p) ↔ scan.active = false := by
    rw [← Bool.not_eq_true, hactive]
    exact ⟨fun h ⟨p, hp, hengaged⟩ => h p hp hengaged, fun h p hp hengaged => h ⟨p, hp, hengaged⟩⟩
  rw [hidle]
  split
  · rename_i hbest
    have hslot := hscan.slot hbest
    refine iff_of_false (fun h => ?_) fun h => ?_
    · rw [h.2.1] at hslot
      exact nomatch hslot
    · exact nomatch hbest.symm.trans (hscan.best h.2.2)
  rename_i hbest
  split
  · rename_i hcount
    split
    · rename_i hquiet
      rw [Bool.not_eq_true'] at hquiet
      exact iff_of_true ⟨rfl, rfl, rfl⟩ ⟨⟨hruns, hcred⟩, hcount, hquiet⟩
    · rename_i hquiet
      rw [Bool.not_eq_true'] at hquiet
      exact iff_of_false (fun h => hbest h.1) fun h => hquiet h.2.2
  rename_i hcount
  refine iff_of_false (fun h => ?_) fun h => hcount h.2.1
  split at h
  · split at h
    · exact nomatch h.2.1
    · exact hbest h.1
  · exact hbest h.1

/-- **When a check ends in failure.** -/
theorem iceProcessCheck_fails (crypto : CryptoProvider) {ice : NanoIce}
    (hsize : ice.pending.length = iceMaxPendingChecks) (hstate : ice.state ≠ .failed)
    (nowMs : UInt32) (ready : Option (List Bool)) (random : Option (List UInt8)) (bufLen : Nat) :
    (iceProcessCheck crypto ice nowMs ready random bufLen).1.state = .failed ↔
      ((ice.state = .new ∨ ice.state = .checking) ∧ NoRemotes ice) ∨ BudgetSpent ice := by
  rw [← iceGetCheck_gives hsize nowMs ready]
  simp only [iceProcessCheck]
  generalize (iceGetCheck ice nowMs ready).1 = wait
  generalize (iceGetCheck ice nowMs ready).2 = check
  split
  · rename_i hwait
    simp only [iceSendCheck]
    split
    · rename_i hexpire
      split
      · rename_i hslot
        exact iff_of_true rfl ⟨hwait, hslot, hexpire⟩
      · rename_i slot hslot
        refine iff_of_false (fun h => ?_) fun h => by cases hslot.symm.trans h.2.1
        have hsame : (iceUnqueueCheck ice slot).state = .failed := h
        rw [(iceUnqueueCheck_same ice slot).2] at hsame
        exact hstate hsame
    rename_i hexpire
    refine iff_of_false (fun h => ?_) fun h => hexpire h.2.2
    split at h
    · exact hstate h
    split at h
    · exact hstate h
    split at h
    · exact hstate h
    split at h
    · exact hstate h
    split at h
    · exact hstate h
    · cases h
  · rename_i hwait
    exact iff_of_false hstate fun h => hwait h.1

/-! ### Runs -/

/-- The agent gives up by exhaustion only when no pair is valid and no check is queued or in
flight. -/
def GivesUpLast (crypto : CryptoProvider) (s : CheckAgent) (i : TableInput) : Prop :=
  s.ice.state ≠ .failed → (tableStep crypto s i).ice.state = .failed → ¬ NoRemotes s.ice →
    ∀ p ∈ s.ice.pending, p.flags.valid = false ∧ ¬ Engaged p

/-- No check is due in a state whose budget is spent while a valid pair waits. -/
def PairWaits (s : CheckAgent) : TableInput → Prop
  | .agent (.check _ _ _ _) => ¬ (BudgetSpent s.ice ∧ ∃ p ∈ s.ice.pending, p.flags.valid = true)
  | _ => True

instance (s : CheckAgent) : ∀ i, Decidable (PairWaits s i)
  | .agent (.check _ _ _ _) =>
    inferInstanceAs (Decidable ¬ (_ ∧ ∃ p ∈ s.ice.pending, p.flags.valid = true))
  | .agent (.stun _ _ _ _ _) | .host _ | .agent (.consent _ _ _) | .agent (.deadlines _ _)
  | .discovered _ _ | .base _ | .remote _ | .endOfCandidates | .credentials _ _ _ _ | .role _ _
  | .restart => inferInstanceAs (Decidable True)

theorem length_tableStep (crypto : CryptoProvider) (s : CheckAgent) (i : TableInput)
    (h : s.ice.pending.length = iceMaxPendingChecks) :
    (tableStep crypto s i).ice.pending.length = iceMaxPendingChecks := by
  cases i with
  | agent i => exact (iceStep_length crypto s.ice i).trans h
  | host addr =>
    by_cases hroom : s.hosts ≥ maxLocalCandidates
    · rwa [tableStep_full crypto hroom]
    · rw [tableStep_host crypto (Nat.not_le.mp hroom)]
      exact h
  | discovered type addr =>
    show (iceAddLocal s.ice type addr).pending.length = _
    unfold iceAddLocal
    split <;> exact h
  | remote c =>
    show (iceAddRemote s.ice c).1.pending.length = _
    unfold iceAddRemote
    dsimp only
    split
    · exact h
    split <;> exact h
  | restart => exact List.length_replicate
  | base => exact h
  | endOfCandidates => exact h
  | credentials => exact h
  | role => exact h

/-- Only a check fails the agent. -/
theorem tableStep_failed (crypto : CryptoProvider) {s : CheckAgent} {i : TableInput}
    (hstate : s.ice.state ≠ .failed) (h : (tableStep crypto s i).ice.state = .failed) :
    ∃ nowMs ready random bufLen, i = .agent (.check nowMs ready random bufLen) := by
  cases i with
  | agent i =>
    cases i with
    | stun data src localIdx viaTurn respBufLen =>
      rcases iceStep_stun_state crypto s.ice data src localIdx viaTurn respBufLen with hsame | hconn
      · exact absurd (hsame.symm.trans h) hstate
      · exact nomatch hconn.symm.trans h
    | check nowMs ready random bufLen => exact ⟨nowMs, ready, random, bufLen, rfl⟩
    | consent nowMs random bufLen =>
      have h : (iceProcessConsent crypto s.ice nowMs random bufLen).1.state = .failed := h
      unfold iceProcessConsent at h
      split at h
      · split at h
        · exact nomatch h
        split at h
        · rw [(iceGenerateConsent_frame crypto s.ice nowMs random bufLen).2.2] at h
          exact absurd h hstate
        · exact absurd h hstate
      · exact absurd h hstate
    | deadlines => exact absurd h hstate
  | host addr =>
    by_cases hroom : s.hosts ≥ maxLocalCandidates
    · rw [tableStep_full crypto hroom] at h
      exact absurd h hstate
    · rw [tableStep_host crypto (Nat.not_le.mp hroom)] at h
      exact absurd h hstate
  | discovered type addr =>
    have h : (iceAddLocal s.ice type addr).state = .failed := h
    unfold iceAddLocal at h
    split at h <;> exact absurd h hstate
  | remote c =>
    have h : (iceAddRemote s.ice c).1.state = .failed := h
    unfold iceAddRemote at h
    dsimp only at h
    split at h
    · exact absurd h hstate
    split at h <;> exact absurd h hstate
  | restart => exact nomatch h
  | base => exact absurd h hstate
  | endOfCandidates => exact absurd h hstate
  | credentials => exact absurd h hstate
  | role => exact absurd h hstate

/-- **One step**: it gives up last if and only if no valid pair waits. -/
theorem givesUpLast_iff (crypto : CryptoProvider) {s : CheckAgent}
    (hsize : s.ice.pending.length = iceMaxPendingChecks) (i : TableInput) :
    GivesUpLast crypto s i ↔ PairWaits s i := by
  constructor
  · intro h
    cases i with
    | agent i =>
      cases i with
      | check nowMs ready random bufLen =>
        rintro ⟨hspent, p, hp, hvalid⟩
        have hstate : s.ice.state ≠ .failed := by
          rcases hspent.1.1 with hs | hs <;> rw [hs] <;> exact nofun
        have hfails := (iceProcessCheck_fails crypto hsize hstate nowMs ready random bufLen).mpr
          (.inr hspent)
        have hremotes : ¬ NoRemotes s.ice := fun hnone =>
          hspent.1.2 (.inr (.inr (.inr (.inr (.inr (List.isEmpty_iff_length_eq_zero.mpr hnone.2))))))
        exact nomatch (h hstate hfails hremotes p hp).1.symm.trans hvalid
      | stun => trivial
      | consent => trivial
      | deadlines => trivial
    | host => trivial
    | discovered => trivial
    | remote => trivial
    | restart => trivial
    | base => trivial
    | endOfCandidates => trivial
    | credentials => trivial
    | role => trivial
  · intro hwaits hstate hfailed hremotes p hp
    obtain ⟨nowMs, ready, random, bufLen, rfl⟩ := tableStep_failed crypto hstate hfailed
    rcases (iceProcessCheck_fails crypto hsize hstate nowMs ready random bufLen).mp hfailed with
      hnone | hspent
    · exact absurd hnone.2 hremotes
    · refine ⟨?_, hspent.2.2 p hp⟩
      by_contra hvalid
      rw [Bool.not_eq_false] at hvalid
      exact hwaits ⟨hspent, p, hp, hvalid⟩

theorem allGivesUpLast_iff (crypto : CryptoProvider) (isControlling : Bool)
    (is : List TableInput) :
    AllSteps (tableStep crypto) ⟨iceInit isControlling, 0⟩ (GivesUpLast crypto) is ↔
      AllSteps (tableStep crypto) ⟨iceInit isControlling, 0⟩ PairWaits is :=
  allSteps_iff (P := fun s : CheckAgent => s.ice.pending.length = iceMaxPendingChecks)
    (fun _ i h => givesUpLast_iff crypto h i) (fun s i _ h => length_tableStep crypto s i h)
    List.length_replicate is

/-- **Giving up over a run**: the agent is declared failed by exhaustion only when no pair is valid
exactly as long as no check is due with the budget spent while a valid pair waits. -/
theorem exhausted_iff (crypto : CryptoProvider) (isControlling : Bool) (is : List TableInput) :
    AllSteps (tableStep crypto) ⟨iceInit isControlling, 0⟩ (GivesUpLast crypto) is ↔
      AllSteps (tableStep crypto) ⟨iceInit isControlling, 0⟩ PairWaits is :=
  allGivesUpLast_iff crypto isControlling is

/-- A controlled agent has one successful pair and one that never answers, and the peer takes its
time to nominate. -/
def demoPatience : List TableInput :=
  [.credentials [0x61] [0x62] [0x63] [0x64], .host ⟨4, demoAddr 1, 1000⟩,
    .remote ⟨demoAddr 2, 2000, 4, .host⟩, .remote ⟨demoAddr 3, 2000, 4, .host⟩,
    .agent (demoCheck 1 1), .agent (demoResponse 1 2)] ++
  (List.range 24).flatMap (fun n =>
    [.agent (demoCheck (UInt32.ofNat (100 + 5100 * n)) 2),
      .agent (demoCheck (UInt32.ofNat (5100 + 5100 * n)) 2)]) ++
  [.agent (demoCheck 130000 3)]

theorem exhausted_with_valid_pair :
    ¬ AllSteps (tableStep .checksum) ⟨iceInit false, 0⟩ (GivesUpLast .checksum) demoPatience := by
  rw [allGivesUpLast_iff]
  decide +kernel

end Nanortc.Spec
