import Nanortc.Native.Rtp

/-!
# SRTP

Key derivation, per-SSRC rollover state, RTP and RTCP protection and their inverses, after
`nano_srtp.c`. A function of the source that changes the context before it fails returns the
changed context with its error. The packet index a call works under is a local of the source;
here it is returned beside the packet.
-/

namespace Nanortc.Native

open Nanortc.ForStd

/-- `NANORTC_SRTP_AUTH_TAG_SIZE`. -/
def srtpAuthTagSize : Nat := 10

/-- `NANORTC_SRTCP_OVERHEAD`: E-flag and index, then the tag. -/
def srtcpOverhead : Nat := 4 + srtpAuthTagSize

/-- Rollover state of one SSRC (`nano_srtp_ssrc_state_t`). -/
structure SsrcState where
  ssrc : UInt32
  roc : UInt32
  seqMax : UInt16
  active : Bool
deriving Repr, DecidableEq, Inhabited

/-- `nano_srtp_t`. The length of `ssrcStates` is `NANORTC_MAX_SSRC_MAP`. -/
structure NanoSrtp where
  sendKey : List UInt8
  sendAuthKey : List UInt8
  sendSalt : List UInt8
  recvKey : List UInt8
  recvAuthKey : List UInt8
  recvSalt : List UInt8
  sendRtcpKey : List UInt8
  sendRtcpAuthKey : List UInt8
  sendRtcpSalt : List UInt8
  recvRtcpKey : List UInt8
  recvRtcpAuthKey : List UInt8
  recvRtcpSalt : List UInt8
  ssrcStates : List SsrcState
  srtcpSendIndex : UInt32
  lastSendIdx : Int
  lastRecvIdx : Int
  isClient : Bool
  ready : Bool
deriving Repr, DecidableEq

/-- A protected or recovered packet and the index it was processed under. -/
structure SrtpPacket where
  index : UInt64
  bytes : List UInt8
deriving Repr, DecidableEq

/-! ### Key derivation -/

/-- `srtp_kdf`. -/
def srtpKdf (crypto : CryptoProvider) (masterKey masterSalt : List UInt8) (label : UInt8)
    (outLen : Nat) : Except Rc (List UInt8) :=
  if outLen > 32 then .error .invalidParam
  else
    let iv := writeAt (List.replicate 16 0) 0 masterSalt
    let iv := iv.set 7 (byteAt iv 7 ^^^ label)
    let deriveLen := if outLen ≤ 16 then 16 else 32
    match crypto.aes128Cm masterKey iv (List.replicate deriveLen 0) with
    | none => .error .crypto
    | some derived => .ok (derived.take outLen)

/-- `nano_srtp_init` with a table of `maxSsrcMap` slots. -/
def nanoSrtpInit (maxSsrcMap : Nat) (isClient : Bool) : NanoSrtp where
  sendKey := List.replicate 16 0
  sendAuthKey := List.replicate 20 0
  sendSalt := List.replicate 14 0
  recvKey := List.replicate 16 0
  recvAuthKey := List.replicate 20 0
  recvSalt := List.replicate 14 0
  sendRtcpKey := List.replicate 16 0
  sendRtcpAuthKey := List.replicate 20 0
  sendRtcpSalt := List.replicate 14 0
  recvRtcpKey := List.replicate 16 0
  recvRtcpAuthKey := List.replicate 20 0
  recvRtcpSalt := List.replicate 14 0
  ssrcStates := List.replicate maxSsrcMap ⟨0, 0, 0, false⟩
  srtcpSendIndex := 0
  lastSendIdx := -1
  lastRecvIdx := -1
  isClient := isClient
  ready := false

/-- `nano_srtp_derive_keys`. A failure leaves keys derived before it in place in the source; no
caller continues with them, and the context is returned only on success here. -/
def nanoSrtpDeriveKeys (crypto : CryptoProvider) (srtp : NanoSrtp) (keyingMaterial : List UInt8) :
    Except Rc NanoSrtp := do
  if keyingMaterial.length < 60 then
    throw .invalidParam
  let clientKey := keyingMaterial.take 16
  let serverKey := (keyingMaterial.drop 16).take 16
  let clientSalt := (keyingMaterial.drop 32).take 14
  let serverSalt := (keyingMaterial.drop 46).take 14
  let (sendKey, sendSalt, recvKey, recvSalt) :=
    if srtp.isClient then (clientKey, clientSalt, serverKey, serverSalt)
    else (serverKey, serverSalt, clientKey, clientSalt)
  let k0 ← srtpKdf crypto sendKey sendSalt 0x00 16
  let k1 ← srtpKdf crypto sendKey sendSalt 0x01 20
  let k2 ← srtpKdf crypto sendKey sendSalt 0x02 14
  let k3 ← srtpKdf crypto sendKey sendSalt 0x03 16
  let k4 ← srtpKdf crypto sendKey sendSalt 0x04 20
  let k5 ← srtpKdf crypto sendKey sendSalt 0x05 14
  let r0 ← srtpKdf crypto recvKey recvSalt 0x00 16
  let r1 ← srtpKdf crypto recvKey recvSalt 0x01 20
  let r2 ← srtpKdf crypto recvKey recvSalt 0x02 14
  let r3 ← srtpKdf crypto recvKey recvSalt 0x03 16
  let r4 ← srtpKdf crypto recvKey recvSalt 0x04 20
  let r5 ← srtpKdf crypto recvKey recvSalt 0x05 14
  return { srtp with
    sendKey := k0, sendAuthKey := k1, sendSalt := k2
    sendRtcpKey := k3, sendRtcpAuthKey := k4, sendRtcpSalt := k5
    recvKey := r0, recvAuthKey := r1, recvSalt := r2
    recvRtcpKey := r3, recvRtcpAuthKey := r4, recvRtcpSalt := r5
    ready := true }

/-! ### Packet index and IV -/

/-- The 48-bit packet index `ROC * 2^16 + SEQ`. -/
def packetIndex (roc : UInt32) (seq : UInt16) : UInt64 := roc.toUInt64 <<< 16 ||| seq.toUInt64

/-- `srtp_compute_iv`. -/
def srtpComputeIv (salt : List UInt8) (ssrc : UInt32) (index : UInt64) : List UInt8 :=
  let iv : List UInt8 :=
    [0, 0, 0, 0,
      (ssrc >>> 24).toUInt8, (ssrc >>> 16).toUInt8,
      (ssrc >>> 8).toUInt8 ^^^ (index >>> 56).toUInt8, ssrc.toUInt8 ^^^ (index >>> 48).toUInt8,
      (index >>> 40).toUInt8, (index >>> 32).toUInt8, (index >>> 24).toUInt8,
      (index >>> 16).toUInt8, (index >>> 8).toUInt8, index.toUInt8,
      0, 0]
  List.zipWith (· ^^^ ·) iv (salt ++ [0, 0])

/-- Slots in use for `ssrc`. -/
def SsrcState.holds (ssrc : UInt32) (s : SsrcState) : Bool := s.active && s.ssrc == ssrc

/-- `srtp_get_ssrc_state`: the slot of `ssrc`, with the table (a slot may have been claimed) and
the cached slot index after the call. -/
def srtpGetSsrcState (states : List SsrcState) (ssrc : UInt32) (cacheIdx : Int) :
    Option (Nat × List SsrcState × Int) :=
  if 0 ≤ cacheIdx ∧ (states[cacheIdx.toNat]?).any (SsrcState.holds ssrc) then
    some (cacheIdx.toNat, states, cacheIdx)
  else
    match states.findIdx? (SsrcState.holds ssrc) with
    | some i => some (i, states, i)
    | none =>
      match states.findIdx? (fun s => !s.active) with
      | some i => some (i, states.set i ⟨ssrc, 0, 0, true⟩, i)
      | none => none

/-- `srtp_parse_hdr_len`: RTP header length with CSRC list and extension. -/
def srtpParseHdrLen (packet : List UInt8) (len : Nat) : Except Rc Nat :=
  let cc := (byteAt packet 0 &&& 0x0F).toNat
  let hdrLen := rtpHeaderSize + cc * 4
  if hdrLen > len then .error .parse
  else if byteAt packet 0 &&& 0x10 ≠ 0 then
    let remaining := len - hdrLen
    if remaining < 4 then .error .parse
    else
      let extWords := (readU16be packet (hdrLen + 2)).toNat
      if extWords > (remaining - 4) / 4 then .error .parse
      else .ok (hdrLen + (4 + extWords * 4))
  else .ok hdrLen

/-- The payload after the first `hdrLen` bytes run through AES-CM; an empty payload is not passed
to the cipher. -/
def srtpCipherPayload (crypto : CryptoProvider) (key salt packet : List UInt8) (hdrLen : Nat)
    (ssrc : UInt32) (index : UInt64) : Except Rc (List UInt8) :=
  if packet.length - hdrLen > 0 then
    match crypto.aes128Cm key (srtpComputeIv salt ssrc index) (packet.drop hdrLen) with
    | none => .error .crypto
    | some out => .ok (packet.take hdrLen ++ out)
  else .ok packet

/-! ### RTP -/

/-- `nano_srtp_protect`. -/
def nanoSrtpProtect (crypto : CryptoProvider) (srtp : NanoSrtp) (packet : List UInt8) :
    NanoSrtp × Except Rc SrtpPacket :=
  if !srtp.ready then (srtp, .error .invalidParam)
  else if packet.length < rtpHeaderSize then (srtp, .error .invalidParam)
  else
    let seq := readU16be packet 2
    let ssrc := readU32be packet 8
    match srtpParseHdrLen packet packet.length with
    | .error e => (srtp, .error e)
    | .ok hdrLen =>
      match srtpGetSsrcState srtp.ssrcStates ssrc srtp.lastSendIdx with
      | none => (srtp, .error .bufferTooSmall)
      | some (i, states, cache) =>
        let srtp := { srtp with ssrcStates := states, lastSendIdx := cache }
        let ss := states.getD i default
        let index := packetIndex ss.roc seq
        match srtpCipherPayload crypto srtp.sendKey srtp.sendSalt packet hdrLen ssrc index with
        | .error e => (srtp, .error e)
        | .ok packet =>
          let tag := crypto.hmacSha1_80 srtp.sendAuthKey (packet ++ u32be ss.roc)
          let roc := if seq = 0xFFFF then ss.roc + 1 else ss.roc
          ({ srtp with ssrcStates := states.set i { ss with roc := roc, seqMax := seq } },
            .ok ⟨index, packet ++ tag⟩)

/-- ROC estimate of an arriving sequence number. -/
def srtpEstimateRoc (ss : SsrcState) (seq : UInt16) : UInt32 :=
  if ss.seqMax ≠ 0 ∨ ss.roc ≠ 0 then
    if i16 (seq - ss.seqMax) < -0x4000 then ss.roc + 1
    else if i16 (seq - ss.seqMax) > 0x4000 ∧ ss.roc > 0 then ss.roc - 1
    else ss.roc
  else ss.roc

/-- ROC and highest sequence number after a packet with estimate `estRoc` was accepted. -/
def srtpUpdateSeq (ss : SsrcState) (estRoc : UInt32) (seq : UInt16) : SsrcState :=
  if estRoc > ss.roc ∨ (estRoc = ss.roc ∧ i16 (seq - ss.seqMax) > 0) then
    { ss with roc := estRoc, seqMax := seq }
  else ss

/-- `nano_srtp_unprotect`. -/
def nanoSrtpUnprotect (crypto : CryptoProvider) (srtp : NanoSrtp) (packet : List UInt8) :
    NanoSrtp × Except Rc SrtpPacket :=
  if !srtp.ready then (srtp, .error .invalidParam)
  else if packet.length < rtpHeaderSize + srtpAuthTagSize then (srtp, .error .invalidParam)
  else
    let seq := readU16be packet 2
    let ssrc := readU32be packet 8
    let srtpLen := packet.length - srtpAuthTagSize
    match srtpParseHdrLen packet srtpLen with
    | .error e => (srtp, .error e)
    | .ok hdrLen =>
      match srtpGetSsrcState srtp.ssrcStates ssrc srtp.lastRecvIdx with
      | none => (srtp, .error .bufferTooSmall)
      | some (i, states, cache) =>
        let srtp := { srtp with ssrcStates := states, lastRecvIdx := cache }
        let ss := states.getD i default
        let estRoc := srtpEstimateRoc ss seq
        let index := packetIndex estRoc seq
        let recvTag := packet.drop srtpLen
        let body := packet.take srtpLen
        let computedTag := crypto.hmacSha1_80 srtp.recvAuthKey (body ++ u32be estRoc)
        if ctDiff recvTag computedTag ≠ 0 then (srtp, .error .crypto)
        else
          match srtpCipherPayload crypto srtp.recvKey srtp.recvSalt body hdrLen ssrc index with
          | .error e => (srtp, .error e)
          | .ok body =>
            ({ srtp with ssrcStates := states.set i (srtpUpdateSeq ss estRoc seq) },
              .ok ⟨index, body⟩)

/-! ### RTCP -/

/-- `nano_srtp_protect_rtcp`. The IV is built from the whole counter, the trailer keeps 31 bits
of it. -/
def nanoSrtpProtectRtcp (crypto : CryptoProvider) (srtp : NanoSrtp) (packet : List UInt8) :
    NanoSrtp × Except Rc SrtpPacket :=
  if !srtp.ready then (srtp, .error .invalidParam)
  else if packet.length < 8 then (srtp, .error .invalidParam)
  else
    let ssrc := readU32be packet 4
    let index := srtp.srtcpSendIndex
    match srtpCipherPayload crypto srtp.sendRtcpKey srtp.sendRtcpSalt packet 8 ssrc
        index.toUInt64 with
    | .error e => (srtp, .error e)
    | .ok packet =>
      let eAndIndex : UInt32 := 0x80000000 ||| (index &&& 0x7FFFFFFF)
      let packet := packet ++ u32be eAndIndex
      let tag := crypto.hmacSha1_80 srtp.sendRtcpAuthKey packet
      ({ srtp with srtcpSendIndex := index + 1 }, .ok ⟨index.toUInt64, packet ++ tag⟩)

/-- `nano_srtp_unprotect_rtcp`. -/
def nanoSrtpUnprotectRtcp (crypto : CryptoProvider) (srtp : NanoSrtp) (packet : List UInt8) :
    Except Rc SrtpPacket :=
  if !srtp.ready then .error .invalidParam
  else if packet.length < 8 + srtcpOverhead then .error .invalidParam
  else
    let authStart := packet.length - srtpAuthTagSize
    let rtcpLen := authStart - 4
    let recvTag := packet.drop authStart
    let computedTag := crypto.hmacSha1_80 srtp.recvRtcpAuthKey (packet.take authStart)
    if ctDiff recvTag computedTag ≠ 0 then .error .crypto
    else
      let eAndIndex := readU32be packet rtcpLen
      let encrypted := (eAndIndex >>> 31) &&& 1 ≠ 0
      let index := eAndIndex &&& 0x7FFFFFFF
      let rtcp := packet.take rtcpLen
      if encrypted ∧ rtcpLen > 8 then do
        let rtcp ← srtpCipherPayload crypto srtp.recvRtcpKey srtp.recvRtcpSalt rtcp 8
          (readU32be packet 4) index.toUInt64
        return ⟨index.toUInt64, rtcp⟩
      else .ok ⟨index.toUInt64, rtcp⟩

end Nanortc.Native
