import Nanortc.ForStd.Serial
import Nanortc.Native.RateControl

/-!
# The recommended rung does not flap

Over a run of `rate_control_update` after the first selection, a step up follows a time of at least
`NANORTC_RATE_CONTROL_MIN_HOLD_MS` in which the rung stayed and every update with an estimate had the
headroom for the next one. The clock is a number of milliseconds that does not go back; the library
sees its low 32 bits.

## Key results

- `rateControlUpdate_outcome`: what one update does
- `RateHolds.step`: the hold timer speaks of the updates since it was armed
- `rate_holds`: the rung over a run
-/

namespace Nanortc.Spec

open Nanortc.ForStd Nanortc.Native

/-! ### One update -/

/-- The target is a rung of the ladder. -/
theorem rateControlSelectTarget_lt {estimateBps : UInt32} {ladder : List NanortcSpecRung}
    (hpos : 0 < ladder.length) (hlen : ladder.length ≤ 255) :
    (rateControlSelectTarget estimateBps ladder).toNat < ladder.length := by
  unfold rateControlSelectTarget
  dsimp only
  suffices h : ∀ (rungs : List (NanortcSpecRung × Nat)) (t : UInt8), t.toNat < ladder.length →
      (∀ r ∈ rungs, r.2 < ladder.length) →
      (rungs.foldl (fun target (r : NanortcSpecRung × Nat) =>
        if r.1.bitrateBps.toNat ≤ estimateBps.toNat * rateControlSafetyPct / 100 then
          UInt8.ofNat r.2 else target) t).toNat < ladder.length by
    refine h ladder.zipIdx 0 hpos fun r hr => ?_
    have h := (List.mem_zipIdx hr).2.1
    omega
  intro rungs
  induction rungs with
  | nil => exact fun t ht _ => ht
  | cons r rungs ih =>
    intro t ht hrungs
    have hr := hrungs r List.mem_cons_self
    rw [List.foldl_cons]
    refine ih _ ?_ fun r' hr' => hrungs r' (List.mem_cons_of_mem r hr')
    split
    · rw [UInt8.toNat_ofNat', Nat.mod_eq_of_lt (by omega)]
      exact hr
    · exact ht

/-- The update has the headroom for the rung above the current one. -/
def HasHeadroom (rc : NanoRateControl) (estimateBps : UInt32) (ladder : List NanortcSpecRung) : Prop :=
  rateControlNeed ladder (rc.curRung + 1) ≤ estimateBps.toNat

instance (rc : NanoRateControl) (estimateBps : UInt32) (ladder : List NanortcSpecRung) :
    Decidable (HasHeadroom rc estimateBps ladder) :=
  inferInstanceAs (Decidable (_ ≤ _))

/-- What an update does after the first selection. -/
inductive RateOutcome (rc : NanoRateControl) (estimateBps : UInt32) (lossQ8 : UInt16)
    (ladder : List NanortcSpecRung) (nowMs : UInt32) : NanoRateControl → Prop
  | silent (hestimate : estimateBps = 0) : RateOutcome rc estimateBps lossQ8 ladder nowMs rc
  | fell (target : UInt8) (hbelow : target < rc.curRung) :
    RateOutcome rc estimateBps lossQ8 ladder nowMs (rateControlClearUp { rc with curRung := target })
  | stayed : RateOutcome rc estimateBps lossQ8 ladder nowMs (rateControlClearUp rc)
  | armed (hroom : HasHeadroom rc estimateBps ladder) (hnext : rc.curRung.toNat + 1 < ladder.length)
      (hother : rc.upTarget ≠ rc.curRung + 1) :
    RateOutcome rc estimateBps lossQ8 ladder nowMs
      { rc with upTarget := rc.curRung + 1, upSinceMs := nowMs }
  | waits (hroom : HasHeadroom rc estimateBps ladder) (htarget : rc.upTarget = rc.curRung + 1) :
    RateOutcome rc estimateBps lossQ8 ladder nowMs rc
  | rose (hroom : HasHeadroom rc estimateBps ladder) (hnext : rc.curRung.toNat + 1 < ladder.length)
      (htarget : rc.upTarget = rc.curRung + 1) (hheld : rateControlMinHoldMs ≤ nowMs - rc.upSinceMs)
      (hloss : ¬(rateControlLossDownQ8 ≤ lossQ8 ∧ 0 < rc.curRung)) :
    RateOutcome rc estimateBps lossQ8 ladder nowMs
      (rateControlClearUp { rc with curRung := rc.curRung + 1 })

/-- **What one update does**, and that it returns the rung. -/
theorem rateControlUpdate_outcome {rc : NanoRateControl} {estimateBps : UInt32} {lossQ8 : UInt16}
    {ladder : List NanortcSpecRung} {nowMs : UInt32} (hpos : 0 < ladder.length)
    (hlen : ladder.length ≤ 255) (hrung : rc.hasRung = true) :
    RateOutcome rc estimateBps lossQ8 ladder nowMs
        (rateControlUpdate rc estimateBps lossQ8 ladder nowMs).1 ∧
      (rateControlUpdate rc estimateBps lossQ8 ladder nowMs).2 =
        .ok (rateControlUpdate rc estimateBps lossQ8 ladder nowMs).1.curRung := by
  unfold rateControlUpdate
  rw [if_neg (Nat.ne_of_gt hpos)]
  by_cases hestimate : estimateBps = 0
  · rw [if_pos hestimate, if_pos hrung]
    exact ⟨.silent hestimate, rfl⟩
  rw [if_neg hestimate]
  dsimp only
  rw [if_neg (by rw [hrung]; decide)]
  have hbelow := @rateControlSelectTarget_lt estimateBps ladder hpos hlen
  generalize rateControlSelectTarget estimateBps ladder = target at hbelow
  dsimp only
  refine ⟨?_, rfl⟩
  -- the target after the loss, and why it is above the current rung if it is
  have htarget : ∃ target' : UInt8, target'.toNat < ladder.length ∧
      (if lossQ8 ≥ rateControlLossDownQ8 ∧ rc.curRung > 0 ∧ rc.curRung - 1 < target then
        rc.curRung - 1 else target) = target' ∧
      (rc.curRung < target' → ¬(rateControlLossDownQ8 ≤ lossQ8 ∧ 0 < rc.curRung)) := by
    refine ⟨_, ?_, rfl, ?_⟩
    · split
      · rename_i h
        exact Nat.lt_trans (UInt8.lt_iff_toNat_lt.mp h.2.2) hbelow
      · exact hbelow
    · rintro hup ⟨hloss, hfloor⟩
      have hpred : (rc.curRung - 1).toNat = rc.curRung.toNat - 1 :=
        UInt8.toNat_sub_of_le _ _ (by
          have := UInt8.lt_iff_toNat_lt.mp hfloor
          exact UInt8.le_iff_toNat_le.mpr this)
      have hup := UInt8.lt_iff_toNat_lt.mp hup
      split at hup
      · omega
      · rename_i h
        refine h ⟨hloss, hfloor, UInt8.lt_iff_toNat_lt.mpr ?_⟩
        omega
  obtain ⟨target', hbelow', heq, hloss⟩ := htarget
  rw [heq]
  show RateOutcome rc estimateBps lossQ8 ladder nowMs
    (if target' < rc.curRung then rateControlClearUp { rc with curRung := target' }
      else if target' > rc.curRung then _ else rateControlClearUp rc)
  by_cases hdown : target' < rc.curRung
  · rw [if_pos hdown]
    exact .fell target' hdown
  rw [if_neg hdown]
  by_cases hup : target' > rc.curRung
  · rw [if_pos hup]
    have hnext : rc.curRung.toNat + 1 < ladder.length := by
      have := UInt8.lt_iff_toNat_lt.mp hup
      omega
    by_cases hroom : HasHeadroom rc estimateBps ladder
    · have hneed : estimateBps.toNat ≥ rateControlNeed ladder (rc.curRung + 1) := hroom
      rw [if_pos hneed]
      by_cases htarget : rc.upTarget = rc.curRung + 1
      · rw [if_neg (not_not.mpr htarget)]
        split
        · rename_i hheld
          exact .rose hroom hnext htarget hheld (hloss hup)
        · exact .waits hroom htarget
      · -- a timer armed now has not held
        rw [if_pos htarget]
        dsimp only
        rw [UInt32.sub_self, if_neg (by decide)]
        exact .armed hroom hnext htarget
    · have hneed : ¬estimateBps.toNat ≥ rateControlNeed ladder (rc.curRung + 1) := hroom
      rw [if_neg hneed]
      exact .stayed
  · rw [if_neg hup]
    exact .stayed

/-! ### Runs -/

/-- A call of `rate_control_update`. -/
structure RateCall where
  estimateBps : UInt32
  lossQ8 : UInt16
  time : Nat
deriving Repr, DecidableEq

/-- One call. -/
def rateStep (ladder : List NanortcSpecRung) (rc : NanoRateControl) (c : RateCall) :
    NanoRateControl × Except Rc UInt8 :=
  rateControlUpdate rc c.estimateBps c.lossQ8 ladder (UInt32.ofNat c.time)

/-- The state in front of the call with the given number. -/
def rateAt (ladder : List NanortcSpecRung) (calls : List RateCall) (k : Nat) : NanoRateControl :=
  (calls.take k).foldl (fun rc c => (rateStep ladder rc c).1) rateControlInit

theorem rateAt_succ {ladder : List NanortcSpecRung} {calls : List RateCall} {k : Nat} {c : RateCall}
    (hc : calls[k]? = some c) :
    rateAt ladder calls (k + 1) = (rateStep ladder (rateAt ladder calls k) c).1 := by
  unfold rateAt
  rw [List.take_add_one, hc, List.foldl_append]
  rfl

/-- Every update from one call to before another had the headroom, if it had an estimate. -/
def HeadroomHeld (ladder : List NanortcSpecRung) (calls : List RateCall) (i k : Nat) : Prop :=
  ∀ m, i ≤ m → m < k → ∀ c, calls[m]? = some c →
    c.estimateBps = 0 ∨ HasHeadroom (rateAt ladder calls m) c.estimateBps ladder

/-- From one call to another there is a selection, and the rung stays. -/
def RungStays (ladder : List NanortcSpecRung) (calls : List RateCall) (i k : Nat) : Prop :=
  ∀ m, i ≤ m → m ≤ k → (rateAt ladder calls m).hasRung = true ∧
    (rateAt ladder calls m).curRung = (rateAt ladder calls k).curRung

/-- The rung is one of the ladder, and an armed timer speaks of the updates since it was armed. -/
structure RateHolds (ladder : List NanortcSpecRung) (calls : List RateCall) (k : Nat) : Prop where
  below : (rateAt ladder calls k).curRung.toNat < ladder.length
  disarmed : (rateAt ladder calls k).hasRung = false → (rateAt ladder calls k).upTarget = 0
  armed : (rateAt ladder calls k).upTarget ≠ 0 → ∃ i c, i < k ∧ calls[i]? = some c ∧
    (rateAt ladder calls k).upSinceMs = UInt32.ofNat c.time ∧ RungStays ladder calls i k ∧
      HeadroomHeld ladder calls i k

theorem RungStays.succ {ladder : List NanortcSpecRung} {calls : List RateCall} {i k : Nat}
    (h : RungStays ladder calls i k) (hrung : (rateAt ladder calls (k + 1)).hasRung = true)
    (hcur : (rateAt ladder calls (k + 1)).curRung = (rateAt ladder calls k).curRung) :
    RungStays ladder calls i (k + 1) := by
  intro m him hmk
  by_cases hm : m = k + 1
  · rw [hm]
    exact ⟨hrung, rfl⟩
  · rw [hcur]
    exact h m him (by omega)

theorem HeadroomHeld.succ {ladder : List NanortcSpecRung} {calls : List RateCall} {i k : Nat}
    {c : RateCall} (h : HeadroomHeld ladder calls i k) (hc : calls[k]? = some c)
    (hroom : c.estimateBps = 0 ∨ HasHeadroom (rateAt ladder calls k) c.estimateBps ladder) :
    HeadroomHeld ladder calls i (k + 1) := by
  intro m him hmk c' hc'
  by_cases hm : m = k
  · rw [hm] at hc' ⊢
    obtain rfl := Option.some.inj (hc.symm.trans hc')
    exact hroom
  · exact h m him (by omega) c' hc'

/-- The update before and at the first selection. -/
theorem rateControlUpdate_first {rc : NanoRateControl} {estimateBps : UInt32} {lossQ8 : UInt16}
    {ladder : List NanortcSpecRung} {nowMs : UInt32} (hpos : 0 < ladder.length)
    (hlen : ladder.length ≤ 255) (hrung : rc.hasRung = false) :
    (rateControlUpdate rc estimateBps lossQ8 ladder nowMs).1 = rc ∨
      (rateControlUpdate rc estimateBps lossQ8 ladder nowMs).1.curRung.toNat < ladder.length ∧
        (rateControlUpdate rc estimateBps lossQ8 ladder nowMs).1.upTarget = 0 := by
  unfold rateControlUpdate
  rw [if_neg (Nat.ne_of_gt hpos)]
  by_cases hestimate : estimateBps = 0
  · rw [if_pos hestimate]
    exact .inl rfl
  · rw [if_neg hestimate, hrung]
    exact .inr ⟨rateControlSelectTarget_lt hpos hlen, rfl⟩

/-- **The hold timer speaks of the updates since it was armed.** -/
theorem RateHolds.step {ladder : List NanortcSpecRung} {calls : List RateCall} {k : Nat}
    {c : RateCall} (hpos : 0 < ladder.length) (hlen : ladder.length ≤ 255)
    (hc : calls[k]? = some c) (h : RateHolds ladder calls k) : RateHolds ladder calls (k + 1) := by
  have hnext := @rateAt_succ ladder calls k c hc
  cases hrung : (rateAt ladder calls k).hasRung with
  | false =>
    have hzero := h.disarmed hrung
    rcases @rateControlUpdate_first (rateAt ladder calls k) c.estimateBps c.lossQ8 ladder
      (UInt32.ofNat c.time) hpos hlen hrung with hsame | ⟨hbelow, hdisarmed⟩
    · -- no estimate yet
      have hsame : rateAt ladder calls (k + 1) = rateAt ladder calls k := hnext.trans hsame
      refine ⟨hsame ▸ h.below, fun _ => hsame ▸ hzero, fun harmed => ?_⟩
      rw [hsame] at harmed
      exact absurd hzero harmed
    · -- the first selection
      refine ⟨by rw [hnext]; exact hbelow, fun _ => by rw [hnext]; exact hdisarmed, fun harmed => ?_⟩
      rw [hnext] at harmed
      exact absurd hdisarmed harmed
  | true =>
    have houtcome := (@rateControlUpdate_outcome (rateAt ladder calls k) c.estimateBps c.lossQ8
      ladder (UInt32.ofNat c.time) hpos hlen hrung).1
    have hbelow := h.below
    -- an unchanged state keeps its timer, as the update had the headroom or no estimate
    have hkeeps (hsame : rateAt ladder calls (k + 1) = rateAt ladder calls k)
        (hroom : c.estimateBps = 0 ∨ HasHeadroom (rateAt ladder calls k) c.estimateBps ladder) :
        RateHolds ladder calls (k + 1) := by
      refine ⟨hsame ▸ hbelow, fun hnone => ?_, fun harmed => ?_⟩
      · rw [hsame, hrung] at hnone
        exact nomatch hnone
      · rw [hsame] at harmed
        obtain ⟨i, ci, hik, hci, hsince, hstays, hheld⟩ := h.armed harmed
        exact ⟨i, ci, Nat.lt_succ_of_lt hik, hci, hsame ▸ hsince,
          hstays.succ (by rw [hsame]; exact hrung) (by rw [hsame]), hheld.succ hc hroom⟩
    -- a cleared timer says nothing
    have hcleared (r : UInt8) (hr : r.toNat < ladder.length)
        (heq : rateAt ladder calls (k + 1) =
          rateControlClearUp { rateAt ladder calls k with curRung := r }) :
        RateHolds ladder calls (k + 1) :=
      ⟨by rw [heq]; exact hr, fun _ => by rw [heq]; rfl, fun harmed => by
        rw [heq] at harmed; exact absurd rfl harmed⟩
    generalize hrc : (rateControlUpdate (rateAt ladder calls k) c.estimateBps c.lossQ8 ladder
      (UInt32.ofNat c.time)).1 = rc at houtcome
    have hnext : rateAt ladder calls (k + 1) = rc := hnext.trans hrc
    cases houtcome with
    | silent hestimate => exact hkeeps hnext (.inl hestimate)
    | fell target hdown =>
      have := UInt8.lt_iff_toNat_lt.mp hdown
      exact hcleared target (by omega) hnext
    | stayed => exact hcleared _ hbelow hnext
    | armed hroom hup hother =>
      refine ⟨by rw [hnext]; exact hbelow, fun hnone => ?_, fun _ => ?_⟩
      · rw [hnext] at hnone
        exact nomatch hrung.symm.trans hnone
      · refine ⟨k, c, Nat.lt_succ_self k, hc, by rw [hnext], ?_, ?_⟩
        · refine RungStays.succ (fun m hkm hmk => ?_) (by rw [hnext]; exact hrung) (by rw [hnext])
          obtain rfl := Nat.le_antisymm hmk hkm
          exact ⟨hrung, rfl⟩
        · exact HeadroomHeld.succ (fun m hkm hmk => absurd hkm (Nat.not_le.mpr hmk)) hc (.inr hroom)
    | waits hroom htarget => exact hkeeps hnext (.inr hroom)
    | rose hroom hup htarget hheld hloss =>
      refine hcleared _ ?_ hnext
      rw [UInt8.toNat_add, Nat.mod_eq_of_lt (by show _ + 1 < 256; omega)]
      exact hup

theorem rateHolds {ladder : List NanortcSpecRung} {calls : List RateCall} {k : Nat}
    (hpos : 0 < ladder.length) (hlen : ladder.length ≤ 255) (hk : k ≤ calls.length) :
    RateHolds ladder calls k := by
  induction k with
  | zero => exact ⟨hpos, fun _ => rfl, fun h => absurd rfl h⟩
  | succ k ih => exact (ih (Nat.le_of_succ_le hk)).step hpos hlen (List.getElem?_eq_getElem hk)

/-- Milliseconds between two times, as their low words show them. -/
theorem le_sub_of_le_ofNat_sub {s t : Nat} {d : UInt32} (hst : s ≤ t)
    (h : d ≤ UInt32.ofNat t - UInt32.ofNat s) : s + d.toNat ≤ t := by
  have hsub : UInt32.ofNat t - UInt32.ofNat s = UInt32.ofNat (t - s) := by
    rw [UInt32.ofNat_sub hst]
  have h := UInt32.le_iff_toNat_le.mp h
  rw [hsub, UInt32.toNat_ofNat'] at h
  have := Nat.mod_le (t - s) (2 ^ 32)
  omega

/-- **The rung over a run.** A call after the first selection returns a rung of the ladder, at most
one above the last one, and a loss at the threshold does not raise it from above the floor. Where it
rises, the timer has held: from an update on that lies after every change before, the rung stayed,
every update with an estimate had the headroom for the next rung, and the hold time has passed. -/
theorem rate_holds {ladder : List NanortcSpecRung} (hpos : 0 < ladder.length)
    (hlen : ladder.length ≤ 255) {calls : List RateCall}
    (htimes : calls.Pairwise (·.time ≤ ·.time)) {k : Nat} {c : RateCall} (hc : calls[k]? = some c)
    (hselected : (rateAt ladder calls k).hasRung = true) :
    let before := rateAt ladder calls k
    let after := rateAt ladder calls (k + 1)
    (rateStep ladder before c).2 = .ok after.curRung ∧ after.curRung.toNat < ladder.length ∧
      after.curRung.toNat ≤ before.curRung.toNat + 1 ∧
      (rateControlLossDownQ8 ≤ c.lossQ8 → 0 < before.curRung → after.curRung ≤ before.curRung) ∧
      (before.curRung < after.curRung → ∃ i ci, i < k ∧ calls[i]? = some ci ∧
        ci.time + rateControlMinHoldMs.toNat ≤ c.time ∧
        (∀ j cj, j < k → calls[j]? = some cj →
          (rateAt ladder calls j).curRung ≠ (rateAt ladder calls (j + 1)).curRung →
            j < i ∧ cj.time + rateControlMinHoldMs.toNat ≤ c.time) ∧
        RungStays ladder calls i k ∧ HeadroomHeld ladder calls i (k + 1)) := by
  have hk : k < calls.length := (List.getElem?_eq_some_iff.mp hc).1
  have hnext := @rateAt_succ ladder calls k c hc
  obtain ⟨houtcome, hreturn⟩ := @rateControlUpdate_outcome (rateAt ladder calls k) c.estimateBps
    c.lossQ8 ladder (UInt32.ofNat c.time) hpos hlen hselected
  have hholds := rateHolds hpos hlen (Nat.le_of_lt hk)
  have hbelow := (rateHolds hpos hlen hk).below
  dsimp only
  refine ⟨by rw [hnext]; exact hreturn, hbelow, ?_⟩
  have hupTo : (rateAt ladder calls k).curRung.toNat + 1 < ladder.length →
      ((rateAt ladder calls k).curRung + 1).toNat = (rateAt ladder calls k).curRung.toNat + 1 := by
    intro hup
    rw [UInt8.toNat_add, Nat.mod_eq_of_lt (by show _ + 1 < 256; omega)]
    rfl
  generalize hrc : (rateControlUpdate (rateAt ladder calls k) c.estimateBps c.lossQ8 ladder
    (UInt32.ofNat c.time)).1 = rc at houtcome
  have hnext : rateAt ladder calls (k + 1) = rc := hnext.trans hrc
  have hnot (hle : rc.curRung ≤ (rateAt ladder calls k).curRung) :
      ¬(rateAt ladder calls k).curRung < rc.curRung := fun hlt =>
    absurd (UInt8.lt_iff_toNat_lt.mp hlt) (Nat.not_lt.mpr (UInt8.le_iff_toNat_le.mp hle))
  -- only a rise is above the last rung
  have hother (hle : rc.curRung ≤ (rateAt ladder calls k).curRung) := And.intro
    (Nat.le_succ_of_le (UInt8.le_iff_toNat_le.mp hle)) (And.intro
      (fun (_ : rateControlLossDownQ8 ≤ c.lossQ8) (_ : 0 < (rateAt ladder calls k).curRung) => hle)
      (hnot hle))
  rw [hnext]
  cases houtcome with
  | silent hestimate =>
    obtain ⟨h1, h2, h3⟩ := hother (UInt8.le_refl _)
    exact ⟨h1, h2, fun h => absurd h h3⟩
  | fell target hdown =>
    obtain ⟨h1, h2, h3⟩ := hother (UInt8.le_of_lt hdown)
    exact ⟨h1, h2, fun h => absurd h h3⟩
  | stayed =>
    obtain ⟨h1, h2, h3⟩ := hother (UInt8.le_refl _)
    exact ⟨h1, h2, fun h => absurd h h3⟩
  | armed hroom hup hne =>
    obtain ⟨h1, h2, h3⟩ := hother (UInt8.le_refl _)
    exact ⟨h1, h2, fun h => absurd h h3⟩
  | waits hroom htarget =>
    obtain ⟨h1, h2, h3⟩ := hother (UInt8.le_refl _)
    exact ⟨h1, h2, fun h => absurd h h3⟩
  | rose hroom hup htarget hheld hloss =>
    refine ⟨Nat.le_of_eq (hupTo hup), fun h25 hfloor => absurd ⟨h25, hfloor⟩ hloss, fun _ => ?_⟩
    have harmed : (rateAt ladder calls k).upTarget ≠ 0 := by
      intro hzero
      have hone := hupTo hup
      rw [← htarget, hzero] at hone
      exact absurd hone (by show 0 ≠ _ + 1; omega)
    obtain ⟨i, ci, hik, hci, hsince, hstays, hroomHeld⟩ := hholds.armed harmed
    have hi : i < calls.length := Nat.lt_trans hik hk
    have hordered {a b : Nat} {ca cb : RateCall} (hab : a < b) (ha : calls[a]? = some ca)
        (hb : calls[b]? = some cb) : ca.time ≤ cb.time := by
      obtain ⟨hal, rfl⟩ := List.getElem?_eq_some_iff.mp ha
      obtain ⟨hbl, rfl⟩ := List.getElem?_eq_some_iff.mp hb
      exact List.pairwise_iff_getElem.mp htimes a b hal hbl hab
    rw [hsince] at hheld
    have hpassed := le_sub_of_le_ofNat_sub (hordered hik hci hc) hheld
    refine ⟨i, ci, hik, hci, hpassed, fun j cj hjk hcj hchange => ?_, hstays,
      hroomHeld.succ hc (.inr hroom)⟩
    -- the rung does not change while the timer runs
    have hji : j < i := by
      by_contra hij
      have hij := Nat.not_lt.mp hij
      exact hchange ((hstays j hij (Nat.le_of_lt hjk)).2.trans
        (hstays (j + 1) (by omega) hjk).2.symm)
    have := hordered hji hcj hci
    exact ⟨hji, by omega⟩

/-- Two rungs. -/
def demoLadder : List NanortcSpecRung := [⟨100⟩, ⟨200⟩]

/-- A step up after 3 s of headroom. -/
def demoRateCalls : List RateCall := [⟨130, 0, 0⟩, ⟨1000, 0, 0⟩, ⟨1000, 0, 1500⟩, ⟨1000, 0, 3000⟩]

theorem rate_holds_demo :
    (rateAt demoLadder demoRateCalls 3).curRung < (rateAt demoLadder demoRateCalls 4).curRung ∧
      ∃ i ci, i < 3 ∧ demoRateCalls[i]? = some ci ∧ ci.time + rateControlMinHoldMs.toNat ≤ 3000 ∧
        RungStays demoLadder demoRateCalls i 3 ∧ HeadroomHeld demoLadder demoRateCalls i 4 := by
  obtain ⟨-, -, -, -, hrise⟩ := @rate_holds demoLadder (by decide) (by decide) demoRateCalls
    (by decide) 3 ⟨1000, 0, 3000⟩ rfl (by decide)
  obtain ⟨i, ci, hi, hci, htime, -, hstays, hheld⟩ := hrise (by decide)
  exact ⟨by decide, i, ci, hi, hci, htime, hstays, hheld⟩

/-- An update without an estimate while the timer runs. -/
def demoSilentCalls : List RateCall := [⟨130, 0, 0⟩, ⟨1000, 0, 1⟩, ⟨0, 0, 1500⟩, ⟨1000, 0, 3001⟩]

/-- A loss when the timer has held. -/
def demoLossCalls : List RateCall := [⟨130, 0, 0⟩, ⟨1000, 0, 0⟩, ⟨1000, 256, 3000⟩]

/-- Updates without an estimate do not stop the timer, and at the floor the loss does not. -/
theorem rate_rises :
    ((rateAt demoLadder demoSilentCalls 3).curRung = 0 ∧
      (rateAt demoLadder demoSilentCalls 4).curRung = 1 ∧
      ¬∃ i < 4, (∃ ci, demoSilentCalls[i]? = some ci ∧
        ci.time + rateControlMinHoldMs.toNat ≤ 3001) ∧
          ∀ m < 4, i ≤ m → ∃ c, demoSilentCalls[m]? = some c ∧
            HasHeadroom (rateAt demoLadder demoSilentCalls m) c.estimateBps demoLadder) ∧
    (rateAt demoLadder demoLossCalls 2).curRung = 0 ∧
      (rateAt demoLadder demoLossCalls 3).curRung = 1 := by
  refine ⟨⟨by decide, by decide, ?_⟩, by decide, by decide⟩
  rintro ⟨i, hi, ⟨ci, hci, htime⟩, hroom⟩
  -- the window begins at the update at 1 ms at the latest, so the silent one is in it
  have hsilent : i ≤ 2 := by
    by_contra h
    obtain rfl : i = 3 := by omega
    obtain rfl := Option.some.inj hci
    exact absurd htime (by decide)
  obtain ⟨c, hc, h⟩ := hroom 2 (by decide) hsilent
  obtain rfl := Option.some.inj hc
  exact absurd h (by decide)

end Nanortc.Spec
