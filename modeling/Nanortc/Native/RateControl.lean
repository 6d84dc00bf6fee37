import Nanortc.Native.Types

/-!
# Rate control

The recommendation of a spec rung after `nano_rate_control.c`. Of a rung only the bitrate is read.
-/

namespace Nanortc.Native

/-- `NANORTC_RATE_CONTROL_SAFETY_PCT`. -/
def rateControlSafetyPct : Nat := 85

/-- `NANORTC_RATE_CONTROL_UP_HEADROOM_PCT`. -/
def rateControlUpHeadroomPct : Nat := 20

/-- `NANORTC_RATE_CONTROL_MIN_HOLD_MS`. -/
def rateControlMinHoldMs : UInt32 := 3000

/-- `NANORTC_RATE_CONTROL_LOSS_DOWN_Q8`. -/
def rateControlLossDownQ8 : UInt16 := 25

/-- `nanortc_spec_rung_t`. -/
structure NanortcSpecRung where
  bitrateBps : UInt32
deriving Repr, DecidableEq, Inhabited

/-- `nano_rate_control_t`. -/
structure NanoRateControl where
  curRung : UInt8
  hasRung : Bool
  upTarget : UInt8
  upSinceMs : UInt32
deriving Repr, DecidableEq, Inhabited

/-- `rate_control_init`. -/
def rateControlInit : NanoRateControl := ⟨0, false, 0, 0⟩

/-- `rate_control_clear_up`. -/
def rateControlClearUp (rc : NanoRateControl) : NanoRateControl :=
  { rc with upTarget := 0, upSinceMs := 0 }

/-- `rate_control_select_target`: the last rung within the discounted budget, else rung 0. -/
def rateControlSelectTarget (estimateBps : UInt32) (ladder : List NanortcSpecRung) : UInt8 :=
  let budget := estimateBps.toNat * rateControlSafetyPct / 100
  ladder.zipIdx.foldl
    (fun target (rung, i) => if rung.bitrateBps.toNat ≤ budget then UInt8.ofNat i else target) 0

/-- The estimate that a step up to the rung needs. -/
def rateControlNeed (ladder : List NanortcSpecRung) (next : UInt8) : Nat :=
  (ladder.getD next.toNat default).bitrateBps.toNat * (100 + rateControlUpHeadroomPct) / 100

/-- `rate_control_update` on a ladder of `n` rungs, with its return value. -/
def rateControlUpdate (rc : NanoRateControl) (estimateBps : UInt32) (lossQ8 : UInt16)
    (ladder : List NanortcSpecRung) (nowMs : UInt32) : NanoRateControl × Except Rc UInt8 :=
  if ladder.length = 0 then (rc, .error .invalidParam)
  else if estimateBps = 0 then (rc, .ok (if rc.hasRung then rc.curRung else 0))
  else
    let target := rateControlSelectTarget estimateBps ladder
    if !rc.hasRung then
      let rc := rateControlClearUp { rc with curRung := target, hasRung := true }
      (rc, .ok rc.curRung)
    else
      -- the loss forces a rung down, where there is one
      let target :=
        if lossQ8 ≥ rateControlLossDownQ8 ∧ rc.curRung > 0 ∧ rc.curRung - 1 < target then
          rc.curRung - 1
        else target
      let rc :=
        if target < rc.curRung then rateControlClearUp { rc with curRung := target }
        else if target > rc.curRung then
          let next := rc.curRung + 1
          if estimateBps.toNat ≥ rateControlNeed ladder next then
            let rc := if rc.upTarget ≠ next then { rc with upTarget := next, upSinceMs := nowMs } else rc
            if nowMs - rc.upSinceMs ≥ rateControlMinHoldMs then
              rateControlClearUp { rc with curRung := next }
            else rc
          else rateControlClearUp rc
        else rateControlClearUp rc
      (rc, .ok rc.curRung)

end Nanortc.Native
