import Nanortc.Native.RtcApi

/-!
# Runs of a connection

The connection as a state machine whose inputs are the calls of the public API, and a session on the
computing platform that reaches CONNECTED.
-/

namespace Nanortc.Spec

open Nanortc.ForStd Nanortc.Native

/-- One call, its result code dropped. -/
def rtcStep {Ctx Rx : Type} (p : Platform Ctx Rx) (rtc : Rtc Ctx Rx) (call : RtcCall) :
    Rtc Ctx Rx := (rtcCall p rtc call).1

/-! ### A session -/

/-- The demo peer. -/
def demoPeer : NanortcAddr := ⟨4, [10, 0, 0, 2] ++ List.replicate 12 0, 5002⟩

/-- The host candidate of the connection. -/
def demoSocket : NanortcAddr := ⟨4, [10, 0, 0, 1] ++ List.replicate 12 0, 5001⟩

/-- A datagram of the peer; an empty one is a tick. -/
def demoInput (nowMs : UInt32) (data : List UInt8) (e : Entropy := {}) : RtcCall :=
  .handleInput e ⟨nowMs, data, demoPeer, demoSocket⟩

/-- The ICE credentials drawn by the connection. -/
def demoCredentials : List UInt8 × List UInt8 := (List.replicate 4 0x11, List.replicate 11 0x22)

/-- The description of a peer that takes the DTLS client's part. -/
def demoOffer (hasDatachannel : Bool) : List UInt8 :=
  writeLines ([.lit "v=0", .lit "m=audio 9 UDP/TLS/RTP/SAVPF 111", .lit "a=ice-ufrag:r",
    .lit "a=ice-pwd:p", .lit "a=setup:active", .lit "a=sendrecv"] ++
    if hasDatachannel then [.lit "m=application 9 UDP/DTLS/SCTP webrtc-datachannel"] else [])

/-- The peer's check with USE-CANDIDATE. -/
def demoNomination : List UInt8 :=
  (stunEncodeBindingRequest .checksum ((hexText demoCredentials.1).bytes ++ [0x3A, 0x72]) 1 true true
    5 (List.replicate stunTxidSize 9) (hexText demoCredentials.2).bytes 200).toOption.getD []

/-- The peer's answer to the first check. -/
def demoCheckAnswer : List UInt8 :=
  let req : StunMsg :=
    { type := stunBindingRequest, length := 0, transactionId := List.replicate stunTxidSize 1 }
  (stunEncodeBindingResponse .checksum req ⟨demoSocket.addr, demoSocket.port, stunFamilyIpv4⟩ [0x70]
    200).toOption.getD []

/-- Tracks, negotiation and connectivity checks of a session, up to the nomination. -/
def demoChecks (direction : Direction) (hasDatachannel : Bool) : List RtcCall :=
  [.addTrack .audio direction 111 48000 2,
    .acceptOffer { credentials := some demoCredentials } (demoOffer hasDatachannel) 2048,
    .addLocalCandidate (ascii "10.0.0.1") 5001,
    .addRemoteCandidate (ascii "10.0.0.2 5002"),
    demoInput 1000 [] { iceTxid := some (List.replicate stunTxidSize 1) },
    demoInput 1010 demoCheckAnswer,
    demoInput 1020 demoNomination]

/-- The flight that completes DTLS. -/
def demoFlight (nowMs : UInt32) : RtcCall :=
  demoInput nowMs [22, 0] { trackSeeds := [some [0, 0, 0, 7, 0, 1]] }

/-- The connection after a list of calls. -/
def demoSession (calls : List RtcCall) : Rtc Unit Unit :=
  run (rtcStep .plain) (rtcInit false 3 () []).1 calls

/-- The state after each of the calls of a session without a data channel. -/
example : (demoSession (demoChecks .sendrecv false ++ [demoFlight 1030])).state = .connected := by
  decide +kernel

end Nanortc.Spec
