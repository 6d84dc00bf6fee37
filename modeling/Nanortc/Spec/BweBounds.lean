import Nanortc.ForStd.Average
import Nanortc.ForStd.Run
import Nanortc.Native.Bwe

/-!
# Bounds of the bandwidth estimate

Over every sequence of reports and settings the estimate stays inside the bounds in force, a report
of low loss does not lower it and one of high loss does not raise it. The machine arithmetic is that
of the natural numbers: no product, sum or conversion of an estimate overflows.

## Key results

- `idealStep`: the estimate and the loss that a call leaves, in natural numbers
- `bweStep_keeps`: one call keeps the bounds and computes the ideal values
- `bwe_invariants`: every call of a sequence does
-/

namespace Nanortc.Spec

open Nanortc.ForStd Nanortc.Native

/-- A call of the estimator. -/
inductive BweCall where
  | rtcpFeedback (data : List UInt8) (nowMs : UInt32)
  | twccLoss (lossFractionQ8 : UInt16) (nowMs : UInt32)
  | setBounds (minBps maxBps : UInt32)
  | setInitialBitrate (bps : UInt32)

/-- The estimator after a call, and the result of the call. -/
def bweCall (bwe : NanoBwe) : BweCall → NanoBwe × Rc
  | .rtcpFeedback data nowMs => bweOnRtcpFeedback bwe data nowMs
  | .twccLoss loss nowMs => bweOnTwccLoss bwe loss nowMs
  | .setBounds minBps maxBps => bweSetBounds bwe minBps maxBps
  | .setInitialBitrate bps => bweSetInitialBitrate bwe bps

/-- The estimator after a call. -/
def bweStep (bwe : NanoBwe) (call : BweCall) : NanoBwe := (bweCall bwe call).1

/-! ### The estimate in natural numbers -/

/-- A bitrate brought inside bounds. -/
def idealClamp (lo hi x : Nat) : Nat := max lo (min hi x)

/-- The estimate that a sample leaves. -/
def idealApply (lo hi estimate candidate : Nat) (first : Bool) : Nat :=
  if first then idealClamp lo hi candidate
  else blend 204 256 (idealClamp lo hi candidate) estimate

/-- The bitrate that a loss report asks for. -/
def idealTarget (lo hi estimate loss : Nat) : Nat :=
  if loss < 5 then min hi (estimate * 108 / 100)
  else if 25 < loss then max lo (estimate * (512 - loss) / 512)
  else estimate

/-- The bitrate of a REMB report, as much of it as fits a word. An exponent of the width of the word
stands for the largest bitrate, whatever the mantissa. -/
def idealRemb (data : List UInt8) : Nat :=
  if bweRembExp data < 32 then
    min ((bweRembMantissa data).toNat * 2 ^ bweRembExp data) (2 ^ 32 - 1)
  else 2 ^ 32 - 1

/-- The bounds in force. -/
def bweLo (bwe : NanoBwe) : Nat := (bweEffectiveMin bwe).toNat

def bweHi (bwe : NanoBwe) : Nat := (bweEffectiveMax bwe).toNat

/-- The estimate and the smoothed loss that a call leaves, in natural numbers. -/
def idealStep (bwe : NanoBwe) : BweCall → Nat × Nat
  | .rtcpFeedback data _ =>
    match bweParseRemb data with
    | .error _ => (bwe.estimatedBitrate.toNat, bwe.smoothedLossQ8.toNat)
    | .ok _ =>
      (idealApply (bweLo bwe) (bweHi bwe) bwe.estimatedBitrate.toNat (idealRemb data)
        (bwe.rembCount == 0), bwe.smoothedLossQ8.toNat)
  | .twccLoss lossFractionQ8 _ =>
    let loss := min lossFractionQ8.toNat 256
    (idealApply (bweLo bwe) (bweHi bwe) bwe.estimatedBitrate.toNat
      (idealTarget (bweLo bwe) (bweHi bwe) bwe.estimatedBitrate.toNat loss)
      (bwe.twccCount == 0),
      if bwe.twccCount = 0 then loss else blend 3 4 bwe.smoothedLossQ8.toNat loss)
  | .setBounds minBps maxBps =>
    let lo := if minBps ≠ 0 then minBps.toNat else bweMinBitrate.toNat
    let hi := if maxBps ≠ 0 then maxBps.toNat else bweMaxBitrate.toNat
    (if lo ≤ hi then idealClamp lo hi bwe.estimatedBitrate.toNat else bwe.estimatedBitrate.toNat,
      bwe.smoothedLossQ8.toNat)
  | .setInitialBitrate bps =>
    (if bwe.rembCount = 0 ∧ bwe.twccCount = 0 then
      idealClamp (bweLo bwe) (bweHi bwe)
        (if bps ≠ 0 then bps.toNat else bweInitialBitrate.toNat)
      else bwe.estimatedBitrate.toNat, bwe.smoothedLossQ8.toNat)

/-! ### The invariant -/

/-- The estimate is inside the bounds in force, and the smoothed loss is a fraction. -/
structure BweSound (bwe : NanoBwe) : Prop where
  bounds : bweLo bwe ≤ bweHi bwe
  lower : bweLo bwe ≤ bwe.estimatedBitrate.toNat
  upper : bwe.estimatedBitrate.toNat ≤ bweHi bwe
  loss : bwe.smoothedLossQ8.toNat ≤ 256

/-- What a call does to the estimator. -/
structure BweKeeps (bwe : NanoBwe) (call : BweCall) : Prop where
  sound : BweSound (bweStep bwe call)
  rises : ∀ loss nowMs, call = .twccLoss loss nowMs → loss < 5 →
    bwe.estimatedBitrate ≤ (bweStep bwe call).estimatedBitrate
  falls : ∀ loss nowMs, call = .twccLoss loss nowMs → loss > 25 →
    (bweStep bwe call).estimatedBitrate ≤ bwe.estimatedBitrate
  refused : (bweCall bwe call).2 ≠ .ok → bweStep bwe call = bwe
  exact : ((bweStep bwe call).estimatedBitrate.toNat, (bweStep bwe call).smoothedLossQ8.toNat) =
    idealStep bwe call

theorem bweClamp_toNat (bwe : NanoBwe) (h : bweLo bwe ≤ bweHi bwe) (bps : UInt32) :
    (bweClamp bwe bps).toNat = idealClamp (bweLo bwe) (bweHi bwe) bps.toNat := by
  unfold bweClamp idealClamp
  unfold bweLo bweHi at *
  simp only [gt_iff_lt, UInt32.lt_iff_toNat_lt]
  split
  · omega
  split
  · omega
  · omega

theorem idealClamp_between {lo hi : Nat} (h : lo ≤ hi) (x : Nat) :
    lo ≤ idealClamp lo hi x ∧ idealClamp lo hi x ≤ hi := by
  unfold idealClamp
  omega

theorem idealApply_between {lo hi e : Nat} (h : lo ≤ hi) (hlo : lo ≤ e) (hhi : e ≤ hi) (c : Nat)
    (first : Bool) : lo ≤ idealApply lo hi e c first ∧ idealApply lo hi e c first ≤ hi := by
  obtain ⟨hclo, hchi⟩ := idealClamp_between h c
  unfold idealApply
  split
  · exact ⟨hclo, hchi⟩
  · exact ⟨le_blend (by decide) (by decide) hclo hlo, blend_le (by decide) hchi hhi⟩

/-- A sample that asks for more does not lower the estimate. -/
theorem le_idealApply {lo hi e c : Nat} (hhi : e ≤ hi) (hc : e ≤ c) (first : Bool) :
    e ≤ idealApply lo hi e c first := by
  have hclamp : e ≤ idealClamp lo hi c := by
    unfold idealClamp
    omega
  unfold idealApply
  split
  · exact hclamp
  · exact le_blend (by decide) (by decide) hclamp (Nat.le_refl e)

/-- A sample that asks for less does not raise the estimate. -/
theorem idealApply_le {lo hi e c : Nat} (hlo : lo ≤ e) (hc : c ≤ e) (first : Bool) :
    idealApply lo hi e c first ≤ e := by
  have hclamp : idealClamp lo hi c ≤ e := by
    unfold idealClamp
    omega
  unfold idealApply
  split
  · exact hclamp
  · exact blend_le (by decide) hclamp (Nat.le_refl e)

/-- **The average is exact**: its products and its sum fit 64 bits and its value a word. -/
theorem bweApply_toNat (bwe : NanoBwe) (h : bweLo bwe ≤ bweHi bwe) (bps nowMs : UInt32)
    (first : Bool) : (bweApply bwe bps nowMs first).estimatedBitrate.toNat =
      idealApply (bweLo bwe) (bweHi bwe) bwe.estimatedBitrate.toNat bps.toNat first := by
  have hclamp := bweClamp_toNat bwe h bps
  unfold bweApply idealApply
  dsimp only
  rw [← hclamp]
  generalize bweClamp bwe bps = c
  cases first with
  | true => rfl
  | false =>
    rw [if_neg nofun, if_neg nofun]
    have hc := c.toNat_lt
    have he := bwe.estimatedBitrate.toNat_lt
    have hsum : (bweEmaAlpha * c.toUInt64 +
        (256 - bweEmaAlpha) * bwe.estimatedBitrate.toUInt64).toNat =
        204 * c.toNat + (256 - 204) * bwe.estimatedBitrate.toNat := by
      rw [UInt64.toNat_add, UInt64.toNat_mul, UInt64.toNat_mul, UInt32.toNat_toUInt64,
        UInt32.toNat_toUInt64]
      show (204 * c.toNat % 2 ^ 64 + 52 * bwe.estimatedBitrate.toNat % 2 ^ 64) % 2 ^ 64 = _
      omega
    rw [UInt64.toNat_toUInt32, UInt64.toNat_div, hsum]
    show (204 * c.toNat + 52 * bwe.estimatedBitrate.toNat) / 256 % 2 ^ 32 =
      (204 * c.toNat + 52 * bwe.estimatedBitrate.toNat) / 256
    omega

/-- **The loss target is exact.** -/
theorem bweLossTarget_toNat {bwe : NanoBwe} (h : BweSound bwe) (hpos : 0 < bweLo bwe) {loss : UInt16}
    (hloss : loss.toNat ≤ 256) : (bweLossTarget bwe loss).toNat =
      idealTarget (bweLo bwe) (bweHi bwe) bwe.estimatedBitrate.toNat loss.toNat := by
  have he := bwe.estimatedBitrate.toNat_lt
  have hsome : bwe.estimatedBitrate ≠ 0 := by
    intro hcon
    have hlower := h.lower
    rw [hcon] at hlower
    exact absurd hlower (Nat.not_le.mpr hpos)
  unfold bweLossTarget idealTarget bweLo bweHi
  dsimp only
  rw [if_neg hsome]
  simp only [gt_iff_lt, UInt16.lt_iff_toNat_lt, UInt64.lt_iff_toNat_lt]
  show (if loss.toNat < 5 then _ else if 25 < loss.toNat then _ else _ : UInt32).toNat = _
  split
  · have hgrown : (bwe.estimatedBitrate.toUInt64 * 108 / 100).toNat =
        bwe.estimatedBitrate.toNat * 108 / 100 := by
      rw [UInt64.toNat_div, UInt64.toNat_mul, UInt32.toNat_toUInt64]
      show bwe.estimatedBitrate.toNat * 108 % 2 ^ 64 / 100 = _
      omega
    rw [hgrown, UInt32.toNat_toUInt64]
    have hmax := (bweEffectiveMax bwe).toNat_lt
    split
    · omega
    · rw [UInt64.toNat_toUInt32, hgrown]
      omega
  split
  · have hfactor : (512 - loss.toUInt64).toNat = 512 - loss.toNat := by
      have hle : loss.toUInt64 ≤ 512 := by
        rw [UInt64.le_iff_toNat_le, UInt16.toNat_toUInt64]
        show loss.toNat ≤ 512
        omega
      rw [UInt64.toNat_sub_of_le _ _ hle, UInt16.toNat_toUInt64]
      rfl
    have hshrunk : (bwe.estimatedBitrate.toUInt64 * (512 - loss.toUInt64) / 512).toNat =
        bwe.estimatedBitrate.toNat * (512 - loss.toNat) / 512 := by
      rw [UInt64.toNat_div, UInt64.toNat_mul, UInt32.toNat_toUInt64, hfactor]
      have hle : bwe.estimatedBitrate.toNat * (512 - loss.toNat) ≤
          bwe.estimatedBitrate.toNat * 512 := Nat.mul_le_mul_left _ (Nat.sub_le _ _)
      rw [Nat.mod_eq_of_lt (by omega)]
      rfl
    have hmin := (bweEffectiveMin bwe).toNat_lt
    have hle : bwe.estimatedBitrate.toNat * (512 - loss.toNat) / 512 ≤
        bwe.estimatedBitrate.toNat := by
      refine Nat.div_le_of_le_mul ?_
      rw [Nat.mul_comm 512]
      exact Nat.mul_le_mul_left _ (Nat.sub_le _ _)
    rw [UInt64.toNat_toUInt32]
    split
    · rename_i hlow
      rw [hshrunk, UInt32.toNat_toUInt64] at hlow
      rw [UInt32.toNat_toUInt64]
      omega
    · rename_i hlow
      rw [hshrunk, UInt32.toNat_toUInt64] at hlow
      rw [hshrunk]
      omega
  · rfl

/-- The smoothed loss is exact: three times a fraction and another one fit a word. -/
theorem bweSmoothLoss_toNat {bwe : NanoBwe} (h : BweSound bwe) {loss : UInt16}
    (hloss : loss.toNat ≤ 256) : (bweSmoothLoss bwe loss).toNat =
      if bwe.twccCount = 0 then loss.toNat else blend 3 4 bwe.smoothedLossQ8.toNat loss.toNat := by
  have hprev := h.loss
  unfold bweSmoothLoss
  split
  · rfl
  · rw [UInt32.toNat_toUInt16, UInt32.toNat_div, UInt32.toNat_add, UInt32.toNat_mul,
      UInt16.toNat_toUInt32, UInt16.toNat_toUInt32]
    show (bwe.smoothedLossQ8.toNat * 3 % 2 ^ 32 + loss.toNat) % 2 ^ 32 / 4 % 2 ^ 16 =
      (3 * bwe.smoothedLossQ8.toNat + 1 * loss.toNat) / 4
    omega

/-- The loss of a report saturates at one. -/
theorem saturated_toNat (loss : UInt16) :
    (if loss > 256 then 256 else loss : UInt16).toNat = min loss.toNat 256 := by
  simp only [gt_iff_lt, UInt16.lt_iff_toNat_lt]
  show (if 256 < loss.toNat then _ else _ : UInt16).toNat = _
  split
  · show 256 = _
    omega
  · omega

/-- The bitrate of an accepted report saturates. -/
theorem bweParseRemb_toNat {data : List UInt8} {bitrate : UInt32}
    (h : bweParseRemb data = .ok bitrate) : bitrate.toNat = idealRemb data := by
  have hm := (bweRembMantissa data).toNat_lt
  unfold bweParseRemb at h
  unfold idealRemb
  iterate 3
    split at h
    · exact nomatch h
  dsimp only at h
  iterate 2
    split at h
    · exact nomatch h
  generalize bweRembMantissa data = m at *
  generalize bweRembExp data = e at *
  have hfit : e < 32 → (((0xFFFFFFFF : UInt32) >>> UInt32.ofNat e).toNat = (2 ^ 32 - 1) / 2 ^ e ∧
      (m <<< UInt32.ofNat e).toNat = m.toNat * 2 ^ e % 2 ^ 32) := by
    intro he
    have hsize : e < UInt32.size := lt_of_lt_of_le he (by decide)
    rw [UInt32.toNat_shiftRight, UInt32.toNat_shiftLeft, UInt32.toNat_ofNat_of_lt' hsize,
      Nat.mod_eq_of_lt he, Nat.shiftRight_eq_div_pow, Nat.shiftLeft_eq]
    exact ⟨rfl, rfl⟩
  split at h
  · rename_i hlarge
    cases h
    rcases hlarge with he | ⟨-, hm'⟩
    · rw [if_neg (Nat.not_lt.mpr he)]
      rfl
    · show 2 ^ 32 - 1 = _
      split
      · rename_i he
        rw [gt_iff_lt, UInt32.lt_iff_toNat_lt, (hfit he).1,
          Nat.div_lt_iff_lt_mul (Nat.two_pow_pos e)] at hm'
        omega
      · rfl
  · rename_i hsmall
    cases h
    rw [not_or] at hsmall
    have he : e < 32 := Nat.not_le.mp hsmall.1
    rw [if_pos he, (hfit he).2]
    have hle : m.toNat * 2 ^ e ≤ 2 ^ 32 - 1 := by
      rcases Nat.eq_zero_or_pos e with rfl | hpos
      · omega
      · have hm' : ¬m > (0xFFFFFFFF : UInt32) >>> UInt32.ofNat e := fun hgt => hsmall.2 ⟨hpos, hgt⟩
        rw [gt_iff_lt, UInt32.not_lt, UInt32.le_iff_toNat_le, (hfit he).1,
          Nat.le_div_iff_mul_le (Nat.two_pow_pos e)] at hm'
        exact hm'
    rw [Nat.mod_eq_of_lt (by omega)]
    omega

/-! ### One call -/

theorem bweLo_pos (bwe : NanoBwe) : 0 < bweLo bwe := by
  unfold bweLo bweEffectiveMin
  split
  · rename_i hsome
    exact Nat.pos_of_ne_zero fun hzero => hsome (UInt32.toNat_inj.mp hzero)
  · decide

/-- The first report is the one that finds the counter at zero. -/
theorem first_iff (count : UInt32) : (count + 1 == 1) = (count == 0) := by
  rw [Bool.eq_iff_iff, beq_iff_eq, beq_iff_eq]
  constructor
  · intro h
    calc count = count + 1 - 1 := by rw [UInt32.add_sub_cancel]
      _ = 0 := by rw [h]; rfl
  · rintro rfl
    rfl

/-- A sample keeps the estimate inside the bounds. -/
theorem BweSound.apply {bwe : NanoBwe} (h : BweSound bwe) (bps nowMs : UInt32) (first : Bool) :
    BweSound (bweApply bwe bps nowMs first) := by
  obtain ⟨hlo, hhi⟩ := idealApply_between h.bounds h.lower h.upper bps.toNat first
  rw [← bweApply_toNat bwe h.bounds bps nowMs first] at hlo hhi
  exact ⟨h.bounds, hlo, hhi, h.loss⟩

theorem keeps_rtcpFeedback {bwe : NanoBwe} (h : BweSound bwe) (data : List UInt8)
    (nowMs : UInt32) : BweKeeps bwe (.rtcpFeedback data nowMs) := by
  have hstep : bweCall bwe (.rtcpFeedback data nowMs) = bweOnRtcpFeedback bwe data nowMs := rfl
  unfold bweOnRtcpFeedback at hstep
  cases hparse : bweParseRemb data with
  | error rc =>
    rw [hparse] at hstep
    refine ⟨?_, nofun, nofun, fun _ => ?_, ?_⟩
    · rw [bweStep, hstep]
      exact h
    · rw [bweStep, hstep]
    · rw [bweStep, hstep, idealStep, hparse]
  | ok bitrate =>
    rw [hparse] at hstep
    dsimp only at hstep
    have hcounted : BweSound { bwe with rembCount := bwe.rembCount + 1 } :=
      ⟨h.bounds, h.lower, h.upper, h.loss⟩
    refine ⟨?_, nofun, nofun, fun hcon => ?_, ?_⟩
    · rw [bweStep, hstep]
      exact hcounted.apply bitrate nowMs _
    · rw [hstep] at hcon
      exact absurd rfl hcon
    · rw [bweStep, hstep, idealStep, hparse, ← bweParseRemb_toNat hparse, ← first_iff]
      exact Prod.ext (bweApply_toNat _ hcounted.bounds bitrate nowMs _) rfl

theorem keeps_twccLoss {bwe : NanoBwe} (h : BweSound bwe) (loss : UInt16) (nowMs : UInt32) :
    BweKeeps bwe (.twccLoss loss nowMs) := by
  have hsat := saturated_toNat loss
  have hstep : bweCall bwe (.twccLoss loss nowMs) = bweOnTwccLoss bwe loss nowMs := rfl
  unfold bweOnTwccLoss at hstep
  generalize (if loss > 256 then 256 else loss : UInt16) = l at hsat hstep
  have hl : l.toNat ≤ 256 := by omega
  have htarget := bweLossTarget_toNat h (bweLo_pos bwe) hl
  have hsmooth := bweSmoothLoss_toNat h hl
  dsimp only at hstep
  -- the counters and the loss do not touch the estimate and its bounds
  have hcounted : BweSound { bwe with
      smoothedLossQ8 := bweSmoothLoss bwe l, twccCount := bwe.twccCount + 1 } := by
    refine ⟨h.bounds, h.lower, h.upper, ?_⟩
    show (bweSmoothLoss bwe l).toNat ≤ 256
    rw [hsmooth]
    split
    · exact hl
    · exact blend_le (by decide) h.loss hl
  have hest : (bweStep bwe (.twccLoss loss nowMs)).estimatedBitrate.toNat =
      idealApply (bweLo bwe) (bweHi bwe) bwe.estimatedBitrate.toNat
        (idealTarget (bweLo bwe) (bweHi bwe) bwe.estimatedBitrate.toNat l.toNat)
        (bwe.twccCount + 1 == 1) := by
    rw [bweStep, hstep, ← htarget]
    exact bweApply_toNat _ hcounted.bounds _ nowMs _
  refine ⟨?_, ?_, ?_, fun hcon => ?_, ?_⟩
  · rw [bweStep, hstep]
    exact hcounted.apply _ nowMs _
  · rintro loss' nowMs' hcall hlow
    cases hcall
    rw [UInt16.lt_iff_toNat_lt] at hlow
    have hlow : l.toNat < 5 := lt_of_le_of_lt (hsat.le.trans (Nat.min_le_left _ _)) hlow
    rw [UInt32.le_iff_toNat_le, hest]
    refine le_idealApply h.upper ?_ _
    rw [idealTarget, if_pos hlow]
    have := h.upper
    omega
  · rintro loss' nowMs' hcall hhigh
    cases hcall
    rw [gt_iff_lt, UInt16.lt_iff_toNat_lt] at hhigh
    have hhigh : 25 < l.toNat := by
      have : 25 < loss.toNat := hhigh
      omega
    rw [UInt32.le_iff_toNat_le, hest]
    refine idealApply_le h.lower ?_ _
    rw [idealTarget, if_neg (by omega), if_pos hhigh]
    refine Nat.max_le.mpr ⟨h.lower, Nat.div_le_of_le_mul ?_⟩
    rw [Nat.mul_comm 512]
    exact Nat.mul_le_mul_left _ (Nat.sub_le _ _)
  · rw [hstep] at hcon
    exact absurd rfl hcon
  · rw [hest, idealStep, ← hsat, first_iff]
    refine Prod.ext rfl ?_
    rw [bweStep, hstep]
    exact hsmooth

theorem keeps_setBounds {bwe : NanoBwe} (h : BweSound bwe) (minBps maxBps : UInt32) :
    BweKeeps bwe (.setBounds minBps maxBps) := by
  have hstep : bweCall bwe (.setBounds minBps maxBps) = bweSetBounds bwe minBps maxBps := rfl
  have hlo : (if minBps ≠ 0 then minBps.toNat else bweMinBitrate.toNat) =
      (if minBps ≠ 0 then minBps else bweMinBitrate).toNat := by
    split <;> rfl
  have hhi : (if maxBps ≠ 0 then maxBps.toNat else bweMaxBitrate.toNat) =
      (if maxBps ≠ 0 then maxBps else bweMaxBitrate).toNat := by
    split <;> rfl
  unfold bweSetBounds at hstep
  dsimp only at hstep
  by_cases hcross : (if minBps ≠ 0 then minBps else bweMinBitrate) >
      (if maxBps ≠ 0 then maxBps else bweMaxBitrate)
  · rw [if_pos hcross] at hstep
    rw [gt_iff_lt, UInt32.lt_iff_toNat_lt] at hcross
    refine ⟨?_, nofun, nofun, fun _ => ?_, ?_⟩
    · rw [bweStep, hstep]
      exact h
    · rw [bweStep, hstep]
    · rw [bweStep, hstep, idealStep, hlo, hhi]
      dsimp only
      rw [if_neg (Nat.not_le.mpr hcross)]
  · rw [if_neg hcross] at hstep
    rw [gt_iff_lt, UInt32.not_lt, UInt32.le_iff_toNat_le] at hcross
    -- the bounds as they stand once they are set
    have hbounds : bweLo { bwe with runtimeMinBps := minBps, runtimeMaxBps := maxBps } ≤
        bweHi { bwe with runtimeMinBps := minBps, runtimeMaxBps := maxBps } := hcross
    have hclamp := bweClamp_toNat _ hbounds bwe.estimatedBitrate
    refine ⟨?_, nofun, nofun, fun hcon => ?_, ?_⟩
    · obtain ⟨hlower, hupper⟩ := idealClamp_between hbounds bwe.estimatedBitrate.toNat
      rw [← hclamp] at hlower hupper
      rw [bweStep, hstep]
      exact ⟨hbounds, hlower, hupper, h.loss⟩
    · rw [hstep] at hcon
      exact absurd rfl hcon
    · rw [bweStep, hstep, idealStep, hlo, hhi]
      dsimp only
      rw [if_pos hcross]
      exact Prod.ext hclamp rfl

theorem keeps_setInitialBitrate {bwe : NanoBwe} (h : BweSound bwe) (bps : UInt32) :
    BweKeeps bwe (.setInitialBitrate bps) := by
  have hstep : bweCall bwe (.setInitialBitrate bps) = bweSetInitialBitrate bwe bps := rfl
  have hbps : (if bps ≠ 0 then bps.toNat else bweInitialBitrate.toNat) =
      (if bps ≠ 0 then bps else bweInitialBitrate).toNat := by
    split <;> rfl
  unfold bweSetInitialBitrate at hstep
  split at hstep
  · rename_i hfresh
    have hclamp := bweClamp_toNat bwe h.bounds (if bps ≠ 0 then bps else bweInitialBitrate)
    refine ⟨?_, nofun, nofun, fun hcon => ?_, ?_⟩
    · obtain ⟨hlower, hupper⟩ := idealClamp_between h.bounds
        (if bps ≠ 0 then bps else bweInitialBitrate).toNat
      rw [← hclamp] at hlower hupper
      rw [bweStep, hstep]
      exact ⟨h.bounds, hlower, hupper, h.loss⟩
    · rw [hstep] at hcon
      exact absurd rfl hcon
    · rw [bweStep, hstep, idealStep, if_pos hfresh, hbps]
      exact Prod.ext hclamp rfl
  · rename_i hfresh
    refine ⟨?_, nofun, nofun, fun _ => ?_, ?_⟩
    · rw [bweStep, hstep]
      exact h
    · rw [bweStep, hstep]
    · rw [bweStep, hstep, idealStep, if_neg hfresh]

/-- **One call** keeps the estimate inside its bounds and computes the ideal values. -/
theorem bweStep_keeps {bwe : NanoBwe} (h : BweSound bwe) (call : BweCall) :
    BweKeeps bwe call := by
  cases call with
  | rtcpFeedback data nowMs => exact keeps_rtcpFeedback h data nowMs
  | twccLoss loss nowMs => exact keeps_twccLoss h loss nowMs
  | setBounds minBps maxBps => exact keeps_setBounds h minBps maxBps
  | setInitialBitrate bps => exact keeps_setInitialBitrate h bps

theorem bweInit_sound : BweSound bweInit := ⟨by decide, by decide, by decide, by decide⟩

/-- **Every call of every sequence** finds the estimate inside its bounds and keeps it there, moves
it the way its loss says and computes the ideal values. -/
theorem bwe_invariants (calls : List BweCall) (call : BweCall) :
    BweSound (run bweStep bweInit calls) ∧ BweKeeps (run bweStep bweInit calls) call := by
  have hstep (s : NanoBwe) (c : BweCall) (hs : BweSound s) : BweSound (bweStep s c) :=
    (bweStep_keeps hs c).sound
  have hsound : BweSound (run bweStep bweInit calls) := run_invariant hstep bweInit_sound calls
  exact ⟨hsound, bweStep_keeps hsound call⟩

end Nanortc.Spec
