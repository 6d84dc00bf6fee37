import Nanortc.Native.SctpReceive

/-!
# Data channels

The channel table and the DCEP messages of `nano_datachannel.c`. A label or protocol is the list of
its bytes before the terminating zero.
-/

namespace Nanortc.Native

open Nanortc.ForStd

/-- `NANORTC_DC_LABEL_SIZE`. -/
def dcLabelSize : Nat := 32

/-- `NANORTC_DC_OUT_BUF_SIZE`. -/
def dcOutBufSize : Nat := 128

/-- `DCEP_DATA_CHANNEL_OPEN`. -/
def dcepDataChannelOpen : UInt8 := 0x03

/-- `DCEP_DATA_CHANNEL_ACK`. -/
def dcepDataChannelAck : UInt8 := 0x02

/-- `DCEP_PPID_CONTROL`. -/
def dcepPpidControl : UInt32 := 50

/-- `DCEP_PPID_STRING`. -/
def dcepPpidString : UInt32 := 51

/-- `DCEP_PPID_BINARY`. -/
def dcepPpidBinary : UInt32 := 53

/-- `DCEP_PPID_STRING_EMPTY`. -/
def dcepPpidStringEmpty : UInt32 := 56

/-- `DCEP_PPID_BINARY_EMPTY`. -/
def dcepPpidBinaryEmpty : UInt32 := 57

/-- `DCEP_CHANNEL_REXMIT`. -/
def dcepChannelRexmit : UInt8 := 0x01

/-- `nano_dc_state_t`. -/
inductive DcState where
  | closed
  | opening
  | isOpen
deriving Repr, DecidableEq, Inhabited

/-- The DCEP message a channel has still to hand to SCTP. -/
inductive DcPending where
  | none
  | openMsg
  | ack
deriving Repr, DecidableEq, Inhabited

/-- `nano_dc_channel_t`. -/
structure DcChannel where
  state : DcState
  streamId : UInt16
  label : List UInt8
  protocol : List UInt8
  channelType : UInt8
  ordered : Bool
  maxRetransmits : UInt16
  pending : DcPending
deriving Repr, DecidableEq, Inhabited

/-- `nano_dc_t`; the channels are those allocated. -/
abbrev NanoDc := List DcChannel

/-- `dcep_open_t`. -/
structure DcepOpen where
  channelType : UInt8
  priority : UInt16
  reliabilityParam : UInt32
  label : List UInt8
  protocol : List UInt8
deriving Repr, DecidableEq

/-- The text before the first zero byte. -/
def cString (b : List UInt8) : List UInt8 := b.takeWhile (· ≠ 0)

/-- `dcep_parse_open`. -/
def dcepParseOpen (data : List UInt8) : Except Rc DcepOpen :=
  if data.length < 12 then .error .parse
  else if byteAt data 0 ≠ dcepDataChannelOpen then .error .protocol
  else
    let labelLen := (readU16be data 8).toNat
    let protocolLen := (readU16be data 10).toNat
    if labelLen > data.length - 12 ∨ protocolLen > data.length - 12 - labelLen then .error .parse
    else
      .ok {
        channelType := byteAt data 1
        priority := readU16be data 2
        reliabilityParam := readU32be data 4
        label := (data.drop 12).take labelLen
        protocol := (data.drop (12 + labelLen)).take protocolLen }

/-- `dcep_encode_open`. -/
def dcepEncodeOpen (channelType : UInt8) (priority : UInt16) (reliabilityParam : UInt32)
    (label protocol : List UInt8) : List UInt8 :=
  [dcepDataChannelOpen, channelType] ++ u16be priority ++ u32be reliabilityParam ++
    u16be (UInt16.ofNat label.length) ++ u16be (UInt16.ofNat protocol.length) ++ label ++ protocol

/-- The channel uses the stream. -/
def DcChannel.isLive (ch : DcChannel) (streamId : UInt16) : Bool :=
  ch.streamId == streamId && ch.state != .closed

/-- `dc_find_channel`. -/
def dcFindChannel (dc : NanoDc) (streamId : UInt16) : Option DcChannel :=
  dc.find? (·.isLive streamId)

/-- The channel that `dc_find_channel` finds, changed. -/
def dcUpdateChannel (f : DcChannel → DcChannel) (streamId : UInt16) : NanoDc → NanoDc
  | [] => []
  | ch :: dc => if ch.isLive streamId then f ch :: dc else ch :: dcUpdateChannel f streamId dc

/-- `dc_pending_channel`. -/
def dcPendingChannel (dc : NanoDc) : Option DcChannel :=
  dc.find? fun ch => ch.pending != .none && ch.state != .closed

/-- `dc_has_pending_output`. -/
def dcHasPendingOutput (dc : NanoDc) : Bool := (dcPendingChannel dc).isSome

/-- The OPEN branch of `dc_handle_message`. -/
def dcHandleOpen (dc : NanoDc) (streamId : UInt16) (data : List UInt8) : NanoDc × Except Rc Bool :=
  match dcepParseOpen data with
  | .error rc => (dc, .error rc)
  | .ok o =>
    if (dcFindChannel dc streamId).isSome then
      (dcUpdateChannel (fun ch => { ch with pending := .ack }) streamId dc, .ok false)
    else if o.channelType &&& 0x7F > dcepChannelRexmit ∨ o.reliabilityParam > 0xFFFF then
      (dc, .error .notImplemented)
    else if o.protocol.length ≥ dcLabelSize then (dc, .error .bufferTooSmall)
    else if dc.length ≥ maxDatachannels then (dc, .error .bufferTooSmall)
    else
      (dc ++ [{
        state := .isOpen
        streamId := streamId
        label := cString (o.label.take (dcLabelSize - 1))
        protocol := cString o.protocol
        channelType := o.channelType
        ordered := o.channelType &&& 0x80 == 0
        maxRetransmits := o.reliabilityParam.toUInt16
        pending := .ack }], .ok true)

/-- The ACK branch of `dc_handle_message`. -/
def dcHandleAck (dc : NanoDc) (streamId : UInt16) : NanoDc × Except Rc Bool :=
  match dcFindChannel dc streamId with
  | some ch =>
    if ch.state = .opening then
      (dcUpdateChannel (fun ch => { ch with state := .isOpen }) streamId dc, .ok true)
    else (dc, .ok false)
  | none => (dc, .ok false)

/-- `dc_handle_message`; the result says whether the message opened a channel. -/
def dcHandleMessage (dc : NanoDc) (streamId : UInt16) (ppid : UInt32) (data : List UInt8) :
    NanoDc × Except Rc Bool :=
  if ppid ≠ dcepPpidControl then (dc, .ok false)
  else
    match data with
    | [] => (dc, .error .parse)
    | type :: _ =>
      if type = dcepDataChannelOpen then dcHandleOpen dc streamId data
      else if type = dcepDataChannelAck then dcHandleAck dc streamId
      else (dc, .error .protocol)

/-- `dc_open_options`; the label is cut to the room of the channel. -/
def dcOpenOptions (dc : NanoDc) (streamId : UInt16) (label protocol : List UInt8)
    (ordered partialReliability : Bool) (maxRetransmits : UInt16) : NanoDc × Rc :=
  if (cString protocol).length ≥ dcLabelSize then (dc, .bufferTooSmall)
  else if dc.length ≥ maxDatachannels then (dc, .bufferTooSmall)
  else
    (dc ++ [{
      state := .opening
      streamId := streamId
      label := (cString label).take (dcLabelSize - 1)
      protocol := cString protocol
      channelType := (if partialReliability then dcepChannelRexmit else 0) |||
        if ordered then 0 else 0x80
      ordered := ordered
      maxRetransmits := maxRetransmits
      pending := .openMsg }], .ok)

/-- The DCEP message a channel waits to send. -/
def DcChannel.message (ch : DcChannel) : List UInt8 :=
  if ch.pending = .ack then [dcepDataChannelAck]
  else dcepEncodeOpen ch.channelType 0 ch.maxRetransmits.toUInt32 ch.label ch.protocol

/-- `dc_peek_output`: message and stream. -/
def dcPeekOutput (dc : NanoDc) (bufLen : Nat) : Except Rc (List UInt8 × UInt16) :=
  match dcPendingChannel dc with
  | none => .error .noData
  | some ch =>
    if bufLen < ch.message.length then .error .bufferTooSmall else .ok (ch.message, ch.streamId)

/-- `dc_commit_output`. -/
def dcCommitOutput (dc : NanoDc) (streamId : UInt16) : NanoDc :=
  dcUpdateChannel (fun ch => { ch with pending := .none }) streamId dc

end Nanortc.Native
