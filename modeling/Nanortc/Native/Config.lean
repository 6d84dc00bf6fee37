import Nanortc.Native.Output

/-!
# Build configurations

The sizes of `nanortc_config.h` that the relayed output path depends on, with the conditions under
which the header lets a configuration compile, and the poll of the output queue at those sizes.
The sizes of `Native/Output.lean` are those of `BuildConfig.standard`.
-/

namespace Nanortc.Native

open Nanortc.ForStd

/-- `NANORTC_STUN_ATTR_WIRE_SIZE`. -/
def stunAttrWireSize (len : Nat) : Nat := 4 + attrPadded len

/-- `NANORTC_TURN_MAX_REQUEST_SIZE`. -/
def turnMaxRequestSizeOf (usernameSize realmSize nonceSize : Nat) : Nat :=
  8 + stunTxidSize + stunAttrWireSize 4 + stunAttrWireSize 20 + stunAttrWireSize usernameSize +
    stunAttrWireSize realmSize + stunAttrWireSize nonceSize + stunAttrWireSize 20

/-- The size may be masked by itself less one. -/
def IsMaskable (n : Nat) : Prop := n &&& (n - 1) = 0

instance (n : Nat) : Decidable (IsMaskable n) := inferInstanceAs (Decidable (_ = _))

/-- A build configuration that passes the checks of `nanortc_config.h`. -/
structure BuildConfig where
  haveMediaTransport : Bool
  turnUsernameSize : Nat
  turnPasswordSize : Nat
  turnRealmSize : Nat
  turnNonceSize : Nat
  videoMtu : Nat
  mediaBufSize : Nat
  stunBufSize : Nat
  dtlsBufSize : Nat
  turnBufSize : Nat
  outQueueSize : Nat
  txSlotCount : Nat
  txSlotSize : Nat
  sctpMtu : Nat
  sctpCookieSize : Nat
  turnTexts : ∀ n ∈ [turnUsernameSize, turnPasswordSize, turnRealmSize, turnNonceSize],
    1 ≤ n ∧ n ≤ 256
  turnRequestFits : turnMaxRequestSizeOf turnUsernameSize turnRealmSize turnNonceSize ≤ turnBufSize
  outQueueMask : IsMaskable outQueueSize
  txSlotCountMask : 1 ≤ txSlotCount ∧ txSlotCount ≤ 32 ∧ IsMaskable txSlotCount
  txSlotCountFits : txSlotCount ≤ outQueueSize
  txSlotFits : dtlsBufSize ≤ txSlotSize ∧
    turnMaxRequestSizeOf turnUsernameSize turnRealmSize turnNonceSize ≤ txSlotSize
  txSlotFitsMedia : haveMediaTransport → mediaBufSize ≤ txSlotSize
  dtlsBufMin : 256 ≤ dtlsBufSize
  stunBufMin : 128 ≤ stunBufSize
  stunBufFitsMedia : haveMediaTransport → mediaBufSize ≤ stunBufSize
  mediaBufFits : haveMediaTransport → videoMtu + 30 ≤ mediaBufSize
  sctpMtuFits : 128 ≤ sctpMtu ∧ sctpMtu ≤ dtlsBufSize - 64
  sctpCookieFits : sctpCookieSize ≤ sctpMtu - 36

/-- The defaults of a build with media. -/
def BuildConfig.standard : BuildConfig where
  haveMediaTransport := true
  turnUsernameSize := 64
  turnPasswordSize := 64
  turnRealmSize := 64
  turnNonceSize := 128
  videoMtu := 1200
  mediaBufSize := Native.mediaBufSize
  stunBufSize := Native.mediaBufSize
  dtlsBufSize := 2048
  turnBufSize := Native.turnBufSize
  outQueueSize := Native.outQueueSize
  txSlotCount := Native.txSlotCount
  txSlotSize := Native.txSlotSize
  sctpMtu := 1200
  sctpCookieSize := 32
  turnTexts := by decide
  turnRequestFits := by decide
  outQueueMask := by decide
  txSlotCountMask := by decide
  txSlotCountFits := by decide
  txSlotFits := by decide
  txSlotFitsMedia := by decide
  dtlsBufMin := by decide
  stunBufMin := by decide
  stunBufFitsMedia := by decide
  mediaBufFits := by decide
  sctpMtuFits := by decide
  sctpCookieFits := by decide

variable (cfg : BuildConfig)

/-- The lazy wrap. -/
def BuildConfig.rtcWrapTurn (turn : NanoTurn) (peer : NanortcAddr) (payload : List UInt8) :
    Except Rc (List UInt8) :=
  match turnFindChannelForPeer turn peer with
  | some channel => nanoTurnWrapChannelData channel payload cfg.turnBufSize
  | none => turnWrapSend peer payload cfg.turnBufSize

/-- What the queue entry at the head is polled as. -/
def BuildConfig.rtcPollHead (rtc : NanoRtc) : Option PolledOutput :=
  let slot := rtc.outHead.toNat % cfg.outQueueSize
  let wrap := rtc.outWrapMeta.getD slot default
  match rtc.outQueue.getD slot default with
  | .event type key => some (.event type key)
  | .transmit t =>
    let data := (rtc.bytes t.data).take t.len
    if wrap.viaTurn then
      match cfg.rtcWrapTurn rtc.turn wrap.peerDest data with
      | .error _ => none
      | .ok wrapped =>
        some (.transmit wrapped (rtcWrapDest rtc.turn) ⟨0, List.replicate addrSize 0, 0⟩)
    else some (.transmit data t.dest t.src)

/-- The loop of `rtc_poll_queued_output`, at most `turns` times. -/
def BuildConfig.rtcPollQueuedLoop : Nat → NanoRtc → NanoRtc × Option PolledOutput
  | 0, rtc => (rtc, none)
  | turns + 1, rtc =>
    if rtc.outHead = rtc.outTail then (rtc, none)
    else
      match cfg.rtcPollHead rtc with
      | some out => (rtcAdvanceHead rtc, some out)
      | none => rtcPollQueuedLoop turns (rtcAdvanceHead rtc)

/-- `rtc_poll_queued_output`. -/
def BuildConfig.rtcPollQueuedOutput (rtc : NanoRtc) : NanoRtc × Option PolledOutput :=
  cfg.rtcPollQueuedLoop (rtc.outTail - rtc.outHead).toNat rtc

end Nanortc.Native
