import Nanortc.ForStd.BigEndian
import Nanortc.Native.Types

/-!
# Bandwidth estimate

The estimate of `nano_bwe.c`: REMB reports and transport-cc loss reports move one smoothed bitrate
inside bounds that can change at run time. Bitrates and counters are machine words; products are
taken in 64 bits, as in the source.
-/

namespace Nanortc.Native

open Nanortc.ForStd

/-- `NANORTC_BWE_MIN_BITRATE`. -/
def bweMinBitrate : UInt32 := 30000

/-- `NANORTC_BWE_MAX_BITRATE`. -/
def bweMaxBitrate : UInt32 := 2000000

/-- `NANORTC_BWE_INITIAL_BITRATE`. -/
def bweInitialBitrate : UInt32 := 300000

/-- `NANORTC_BWE_EMA_ALPHA`. -/
def bweEmaAlpha : UInt64 := 204

/-- `NANORTC_BWE_EVENT_THRESHOLD_PCT`. -/
def bweEventThresholdPct : UInt8 := 15

/-- `BWE_REMB_FMT`. -/
def bweRembFmt : UInt8 := 15

/-- `BWE_REMB_UNIQUE_ID`. -/
def bweRembUniqueId : UInt32 := 0x52454D42

/-- `nano_bwe_t`. -/
structure NanoBwe where
  estimatedBitrate : UInt32 := bweInitialBitrate
  prevEventBitrate : UInt32 := bweInitialBitrate
  lastUpdateMs : UInt32 := 0
  rembCount : UInt32 := 0
  twccCount : UInt32 := 0
  smoothedLossQ8 : UInt16 := 0
  runtimeMinBps : UInt32 := 0
  runtimeMaxBps : UInt32 := 0
  runtimeEventThresholdPct : UInt8 := 0
deriving Repr, DecidableEq, Inhabited

/-- `bwe_init`. -/
def bweInit : NanoBwe := {}

/-- The mantissa of a REMB report. -/
def bweRembMantissa (data : List UInt8) : UInt32 :=
  ((byteAt data 17 &&& 0x03).toUInt32 <<< 16) ||| ((byteAt data 18).toUInt32 <<< 8) |||
    (byteAt data 19).toUInt32

/-- The exponent of a REMB report. -/
def bweRembExp (data : List UInt8) : Nat := ((byteAt data 17 >>> 2) &&& 0x3F).toNat

/-- `bwe_parse_remb`; a bitrate that does not fit saturates. -/
def bweParseRemb (data : List UInt8) : Except Rc UInt32 :=
  if data.length < 20 then .error .parse
  else if (byteAt data 0 >>> 6) &&& 0x03 ≠ 2 then .error .parse
  else if byteAt data 0 &&& 0x1F ≠ bweRembFmt ∨ byteAt data 1 ≠ 206 then .error .parse
  else
    let pktSize := ((readU16be data 2).toNat + 1) * 4
    if pktSize > data.length ∨ pktSize < 20 then .error .parse
    else if readU32be data 12 ≠ bweRembUniqueId then .error .parse
    else
      let brExp := bweRembExp data
      let brMantissa := bweRembMantissa data
      if brExp ≥ 32 ∨ (brExp > 0 ∧ brMantissa > (0xFFFFFFFF : UInt32) >>> UInt32.ofNat brExp) then
        .ok 0xFFFFFFFF
      else .ok (brMantissa <<< UInt32.ofNat brExp)

/-- `bwe_effective_min`. -/
def bweEffectiveMin (bwe : NanoBwe) : UInt32 :=
  if bwe.runtimeMinBps ≠ 0 then bwe.runtimeMinBps else bweMinBitrate

/-- `bwe_effective_max`. -/
def bweEffectiveMax (bwe : NanoBwe) : UInt32 :=
  if bwe.runtimeMaxBps ≠ 0 then bwe.runtimeMaxBps else bweMaxBitrate

/-- `bwe_clamp`. -/
def bweClamp (bwe : NanoBwe) (bps : UInt32) : UInt32 :=
  if bps < bweEffectiveMin bwe then bweEffectiveMin bwe
  else if bps > bweEffectiveMax bwe then bweEffectiveMax bwe
  else bps

/-- `bwe_set_bounds`; a zero stands for the bound of the build. -/
def bweSetBounds (bwe : NanoBwe) (minBps maxBps : UInt32) : NanoBwe × Rc :=
  let effectiveMin := if minBps ≠ 0 then minBps else bweMinBitrate
  let effectiveMax := if maxBps ≠ 0 then maxBps else bweMaxBitrate
  if effectiveMin > effectiveMax then (bwe, .invalidParam)
  else
    let bwe := { bwe with runtimeMinBps := minBps, runtimeMaxBps := maxBps }
    ({ bwe with
        estimatedBitrate := bweClamp bwe bwe.estimatedBitrate
        prevEventBitrate := bweClamp bwe bwe.prevEventBitrate }, .ok)

/-- `bwe_set_initial_bitrate`; it has no effect once feedback arrived. -/
def bweSetInitialBitrate (bwe : NanoBwe) (bps : UInt32) : NanoBwe × Rc :=
  if bwe.rembCount = 0 ∧ bwe.twccCount = 0 then
    let estimate := bweClamp bwe (if bps ≠ 0 then bps else bweInitialBitrate)
    ({ bwe with estimatedBitrate := estimate, prevEventBitrate := estimate }, .ok)
  else (bwe, .ok)

/-- `bwe_apply`: the first sample is taken as it is, later ones are averaged in. -/
def bweApply (bwe : NanoBwe) (candidateBps nowMs : UInt32) (firstSample : Bool) : NanoBwe :=
  let candidate := bweClamp bwe candidateBps
  let estimate :=
    if firstSample then candidate
    else
      ((bweEmaAlpha * candidate.toUInt64 + (256 - bweEmaAlpha) * bwe.estimatedBitrate.toUInt64) /
        256).toUInt32
  { bwe with estimatedBitrate := estimate, lastUpdateMs := nowMs }

/-- `bwe_on_rtcp_feedback`. -/
def bweOnRtcpFeedback (bwe : NanoBwe) (data : List UInt8) (nowMs : UInt32) : NanoBwe × Rc :=
  match bweParseRemb data with
  | .error rc => (bwe, rc)
  | .ok bitrate =>
    let bwe := { bwe with rembCount := bwe.rembCount + 1 }
    (bweApply bwe bitrate nowMs (bwe.rembCount == 1), .ok)

/-- The smoothed loss after a report. -/
def bweSmoothLoss (bwe : NanoBwe) (loss : UInt16) : UInt16 :=
  if bwe.twccCount = 0 then loss
  else ((bwe.smoothedLossQ8.toUInt32 * 3 + loss.toUInt32) / 4).toUInt16

/-- The bitrate that a loss report asks for: 8 % up at low loss, down by half the loss at high
loss. -/
def bweLossTarget (bwe : NanoBwe) (loss : UInt16) : UInt32 :=
  let target := if bwe.estimatedBitrate = 0 then bweInitialBitrate else bwe.estimatedBitrate
  if loss < 5 then
    let grown := target.toUInt64 * 108 / 100
    if grown > (bweEffectiveMax bwe).toUInt64 then bweEffectiveMax bwe else grown.toUInt32
  else if loss > 25 then
    let shrunk := target.toUInt64 * (512 - loss.toUInt64) / 512
    (if shrunk < (bweEffectiveMin bwe).toUInt64 then (bweEffectiveMin bwe).toUInt64
      else shrunk).toUInt32
  else target

/-- `bwe_on_twcc_loss`. -/
def bweOnTwccLoss (bwe : NanoBwe) (lossFractionQ8 : UInt16) (nowMs : UInt32) : NanoBwe × Rc :=
  let loss := if lossFractionQ8 > 256 then 256 else lossFractionQ8
  let target := bweLossTarget bwe loss
  let bwe := { bwe with
    smoothedLossQ8 := bweSmoothLoss bwe loss
    twccCount := bwe.twccCount + 1 }
  (bweApply bwe target nowMs (bwe.twccCount == 1), .ok)

/-- `bwe_should_emit_event`: the estimate has moved by more than the threshold since the last
event. -/
def bweShouldEmitEvent (bwe : NanoBwe) : NanoBwe × Bool :=
  if bwe.prevEventBitrate = 0 then (bwe, false)
  else
    let cur := bwe.estimatedBitrate
    let prev := bwe.prevEventBitrate
    let diff := if cur > prev then cur - prev else prev - cur
    let pct := if bwe.runtimeEventThresholdPct ≠ 0 then bwe.runtimeEventThresholdPct
      else bweEventThresholdPct
    if diff > prev / 100 * pct.toUInt32 then ({ bwe with prevEventBitrate := cur }, true)
    else (bwe, false)

end Nanortc.Native
