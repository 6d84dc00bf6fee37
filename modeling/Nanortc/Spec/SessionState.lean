import Nanortc.Spec.RtcRun
import Nanortc.Spec.SessionInput

/-!
# The state of a session

Over all runs of the public API the state of a connection agrees with the states of its layers, a
session is announced at most once and its end exactly once, and only a restart leaves CLOSED, as
long as two kinds of input stay away: an ABORT of the peer while the session is open, and any input
after the end once the consent of the dead session has run out.

## Key results

- `sound_step`: a call other than a restart keeps the invariant and does not lower the state
- `layered_run`: the invariant over runs
-/

namespace Nanortc.Spec

open Nanortc.ForStd Nanortc.Native

variable {Ctx Rx : Type}

/-! ### Negotiation -/

/-- Before the session has begun the layers may be set up. -/
def CalmNew (rtc rtc' : Rtc Ctx Rx) : Prop := rtc.state = .new → Calm rtc rtc'

instance : Std.Refl (@CalmNew Ctx Rx) := ⟨fun rtc _ => Std.Refl.refl (r := Calm) rtc⟩

instance : Trans (@CalmNew Ctx Rx) CalmNew CalmNew :=
  ⟨fun h h' hnew => Trans.trans (r := Calm) (h hnew) (h' ((h hnew).2.trans hnew))⟩

theorem MovesAt.calmNew {α : Type} {m : RtcM Ctx Rx α} {rtc : Rtc Ctx Rx}
    (h : MovesAt (Same layers) m rtc) : MovesAt CalmNew m rtc := fun _ => calm_of_same h

/-- A call that a session refuses once it has begun. -/
theorem sound_beforeSession {α : Type} {m : RtcM Ctx Rx α} (h : Moves CalmNew m) :
    Moves Sound (do
      if (← get).state ≠ .new then throw .state
      m) := by
  intro rtc
  apply movesAt_get_bind.mpr
  apply MovesAt.ite
  · exact fun _ => movesAt_throw_bind _ _
  · intro hnew
    exact (h rtc (Decidable.not_not.mp hnew)).sound

variable (p : Platform Ctx Rx)

theorem layers_iceCredentials (credentials : Option (List UInt8 × List UInt8)) :
    Moves (Same layers) (rtcGenerateIceCredentials credentials : RtcM Ctx Rx Unit) := by
  intro rtc
  cases credentials with
  | none => exact movesAt_throw _
  | some c => exact movesAt_modify.mpr (layers_withIce rfl)

theorem layers_sdpParse (text : List UInt8) :
    Moves (Same layers) (rtcSdpParse text : RtcM Ctx Rx Unit) := by
  intro rtc
  show layers (after (rtcSdpParse text) rtc) = layers rtc
  unfold after rtcSdpParse
  cases sdpParse rtc.sdp text with
  | mk sdp rc => cases rc <;> rfl

theorem layers_applyRemoteSdp (rtc : Rtc Ctx Rx) : Same layers rtc (rtcApplyRemoteSdp rtc) := by
  unfold rtcApplyRemoteSdp
  dsimp only
  apply Trans.trans (s := Same layers) (layers_withIce rfl)
  exact layers_sctp rfl rfl

theorem layers_addSdpCandidates (rtc : Rtc Ctx Rx) :
    Same layers rtc (rtcAddSdpCandidates rtc) := by
  have hadd (ice : NanoIce) (c : IceCandidate) : (iceAddRemote ice c).1.state = ice.state := by
    unfold iceAddRemote
    dsimp only
    split
    · rfl
    split <;> rfl
  unfold rtcAddSdpCandidates
  refine layers_withIce ?_
  refine List.foldlRecOn _ _ (motive := fun ice : NanoIce => ice.state = rtc.ice.state) rfl ?_
  intro ice h c _
  split
  · exact h
  · exact (hadd _ _).trans h

theorem layers_applyMedia : Moves (Same layers) (rtcApplyNegotiatedMedia : RtcM Ctx Rx Unit) := by
  have hline (i : Nat) : Moves (Same layers) (rtcApplyMline i : RtcM Ctx Rx PUnit) := by
    intro rtc
    unfold rtcApplyMline
    apply movesAt_get_bind.mpr
    split
    · exact movesAt_pure _
    rename_i ml _
    apply MovesAt.ite_pure
    intro _
    dsimp only
    apply MovesAt.ite_pure
    intro _
    apply MovesAt.ite
    · intro _
      have hadded : Moves (Same layers)
          (nanoRtcEmitEventFull ⟨.mediaAdded, ml.mid.toNat⟩ : RtcM Ctx Rx Unit) :=
        layers_emit nofun nofun
      apply movesAt_set_bind
      · exact rfl
      · apply MovesAt.bind (hadded _)
        exact fun _ rtc' _ => movesAt_modify.mpr rfl
    · exact fun _ => movesAt_modify.mpr rfl
  intro rtc
  unfold rtcApplyNegotiatedMedia
  apply movesAt_get_bind.mpr
  exact Moves.forM hline _ rtc

theorem calmNew_earlyDtls (isServer : Bool) : Moves CalmNew (rtcEarlyDtls p isServer) := by
  have hfree (f : NanoDtls Ctx → NanoDtls Ctx × Rc) :
      Moves CalmNew (onDtls f : RtcM Ctx Rx Unit) := by
    intro rtc
    apply movesAt_onDtls.mpr
    intro hnew
    apply calm_dtls
    intro hrank
    rw [hnew] at hrank
    exact absurd hrank (by decide)
  intro rtc
  unfold rtcEarlyDtls
  apply movesAt_get_bind.mpr
  apply MovesAt.ite_pure
  intro _
  apply MovesAt.bind (hfree _ rtc)
  intro _ rtc' _
  exact movesAt_modify.mpr fun _ => calm_of_same (cacheFingerprint_layers rtc').1

theorem layers_generateAnswer (bufLen : Nat) :
    Moves (Same layers) (rtcSdpGenerate bufLen : RtcM Ctx Rx (List UInt8)) := by
  intro rtc
  show layers (after (rtcSdpGenerate bufLen) rtc) = layers rtc
  unfold after rtcSdpGenerate
  cases sdpGenerateAnswer rtc.sdp bufLen with
  | mk sdp text => cases text <;> rfl

theorem moves_dropping {α : Type} {R : Rtc Ctx Rx → Rtc Ctx Rx → Prop} [Std.Refl R] [Trans R R R]
    {m : RtcM Ctx Rx α} (h : Moves R m) : Moves R (dropping m) :=
  h.bind fun _ _ => movesAt_pure _

theorem sound_acceptOffer (e : Entropy) (offer : List UInt8) (bufLen : Nat) :
    Moves Sound (dropping (nanortcAcceptOffer p e offer bufLen)) := by
  apply moves_dropping
  apply sound_beforeSession
  intro rtc
  apply MovesAt.bind (MovesAt.calmNew (layers_iceCredentials _ rtc))
  intro _ rtc₁ _
  apply MovesAt.bind (MovesAt.calmNew (layers_sdpParse _ rtc₁))
  intro _ rtc₂ _
  apply movesAt_modify_bind (fun _ => calm_of_same (layers_applyRemoteSdp rtc₂))
  apply MovesAt.bind (MovesAt.calmNew (layers_applyMedia _))
  intro _ rtc₃ _
  apply movesAt_modify_bind (fun _ => calm_of_same rfl)
  apply movesAt_get_bind.mpr
  apply MovesAt.bind (calmNew_earlyDtls p _ _)
  intro _ rtc₄ _
  apply MovesAt.bind (MovesAt.calmNew (layers_generateAnswer bufLen rtc₄))
  intro _ rtc₅ _
  apply movesAt_modify_bind (fun _ => calm_of_same (layers_addSdpCandidates rtc₅))
  exact movesAt_pure _

theorem sound_createOffer (e : Entropy) (bufLen : Nat) :
    Moves Sound (dropping (nanortcCreateOffer p e bufLen)) := by
  apply moves_dropping
  apply sound_beforeSession
  intro rtc
  apply MovesAt.bind (MovesAt.calmNew (layers_iceCredentials _ rtc))
  intro _ rtc₁ _
  apply movesAt_modify_bind (fun _ => calm_of_same rfl)
  apply MovesAt.bind (calmNew_earlyDtls p _ _)
  exact fun _ rtc₂ _ => MovesAt.calmNew (layers_generateAnswer bufLen rtc₂)

theorem sound_acceptAnswer (answer : List UInt8) :
    Moves Sound (nanortcAcceptAnswer p answer) := by
  apply sound_beforeSession
  intro rtc
  apply MovesAt.bind (MovesAt.calmNew (layers_sdpParse _ rtc))
  intro _ rtc₁ _
  apply movesAt_modify_bind (fun _ => calm_of_same (layers_applyRemoteSdp rtc₁))
  apply movesAt_modify_bind
  · intro _
    apply calm_of_same
    show layers _ = layers _
    unfold layers
    dsimp only
    split <;> rfl
  · apply MovesAt.bind (MovesAt.calmNew (layers_applyMedia _))
    exact fun _ rtc₂ _ => movesAt_modify.mpr fun _ => calm_of_same (layers_addSdpCandidates rtc₂)

/-! ### Candidates, tracks and data channels -/

theorem layers_addLocalCandidate (ip : List UInt8) (port : UInt16) :
    Moves (Same layers) (nanortcAddLocalCandidate ip port : RtcM Ctx Rx Unit) := by
  intro rtc
  unfold nanortcAddLocalCandidate
  apply movesAt_get_bind.mpr
  dsimp only
  apply MovesAt.ite
  · exact fun _ => movesAt_throw_bind _ _
  intro _
  apply MovesAt.ite
  · exact fun _ => movesAt_throw_bind _ _
  intro _
  split
  · exact movesAt_throw _
  · exact movesAt_set.mpr (layers_withIce rfl)

theorem layers_addRemoteCandidate (text : List UInt8) :
    Moves (Same layers) (nanortcAddRemoteCandidate text : RtcM Ctx Rx Unit) := by
  intro rtc
  unfold nanortcAddRemoteCandidate
  split
  · exact movesAt_throw _
  · rename_i c
    apply layers_onIce
    unfold iceAddRemote
    dsimp only
    split
    · rfl
    split <;> rfl

theorem layers_addTrack (kind : TrackKind) (direction : Direction) (pt : UInt8)
    (sampleRate : UInt32) (channels : UInt8) :
    Moves (Same layers)
      (nanortcAddTrack kind direction pt sampleRate channels : RtcM Ctx Rx Unit) := by
  intro rtc
  unfold nanortcAddTrack
  apply movesAt_get_bind.mpr
  apply MovesAt.ite
  · exact fun _ => movesAt_throw_bind _ _
  · exact fun _ => movesAt_set.mpr rfl

theorem layers_setDirection (mid : UInt8) (direction : Direction) :
    Moves (Same layers) (nanortcSetDirection mid direction : RtcM Ctx Rx Unit) := by
  have hchanged : Moves (Same layers)
      (nanoRtcEmitEventFull ⟨.mediaChanged, mid.toNat⟩ : RtcM Ctx Rx Unit) :=
    layers_emit nofun nofun
  intro rtc
  unfold nanortcSetDirection
  apply movesAt_get_bind.mpr
  split
  · exact movesAt_pure _
  · dsimp only
    apply movesAt_set_bind
    · exact rfl
    · exact MovesAt.ite_pure fun _ => hchanged _

theorem layers_createDatachannel (label : List UInt8) (options : DatachannelOptions) :
    Moves (Same layers) (nanortcCreateDatachannel p label options) := by
  intro rtc
  unfold nanortcCreateDatachannel
  apply movesAt_modify_bind
  · show layers _ = layers _
    split <;> rfl
  · apply movesAt_get_bind.mpr
    dsimp only
    apply movesAt_set_bind
    · exact rfl
    apply MovesAt.ite
    · exact fun _ => movesAt_throw_bind _ _
    · intro _
      apply MovesAt.ite_pure
      exact fun _ => movesAt_ignoring.mpr (layers_pumpDc p _ _)

theorem layers_datachannelSend (id : UInt16) (data : List UInt8) (binary : Bool) :
    Moves (Same layers) (rtcDatachannelSend id data binary : RtcM Ctx Rx Unit) := by
  intro rtc
  unfold rtcDatachannelSend
  apply movesAt_get_bind.mpr
  apply MovesAt.ite
  · exact fun _ => movesAt_throw_bind _ _
  · intro _
    split
    · exact movesAt_throw _
    · apply MovesAt.ite
      · exact fun _ => movesAt_throw_bind _ _
      · exact fun _ => layers_sendOptions _ _ _ _ _ rtc

theorem layers_datachannelClose (id : UInt16) :
    Moves (Same layers) (nanortcDatachannelClose id : RtcM Ctx Rx Unit) := by
  have hclosed : Moves (Same layers)
      (nanoRtcEmitEventFull ⟨.datachannelClose, id.toNat⟩ : RtcM Ctx Rx Unit) :=
    layers_emit nofun nofun
  intro rtc
  unfold nanortcDatachannelClose
  apply movesAt_get_bind.mpr
  apply MovesAt.ite
  · exact fun _ => movesAt_throw_bind _ _
  · intro _
    apply movesAt_set_bind
    · exact rfl
    · exact hclosed _

/-! ### Output -/

theorem layers_pollDeliveryTurn (rtc : Rtc Ctx Rx) :
    layers (rtcPollDeliveryTurn rtc).1 = layers rtc := by
  have hrule := nsctpPollDelivery_rule (R := fun s s' =>
    s'.state = s.state ∧ s'.closedDueToFailure = s.closedDueToFailure)
    (fun _ _ _ => ⟨rfl, rfl⟩) rtc.sctp
  unfold rtcPollDeliveryTurn
  revert hrule
  generalize nsctpPollDelivery rtc.sctp = r
  intro ⟨hstate, hfailed⟩
  have hsctp (dc : NanoDc) : layers { rtc with sctp := r.1, datachannel := dc } = layers rtc :=
    @layers_sctp Ctx Rx { rtc with datachannel := dc } r.1 hstate hfailed
  split
  · exact hsctp rtc.datachannel
  · dsimp only
    split <;> exact hsctp _

theorem layers_pollDelivery (turns : Nat) (rtc : Rtc Ctx Rx) :
    layers (rtcPollDelivery turns rtc).1 = layers rtc :=
  turnsUntil_invariant (P := fun rtc' => layers rtc' = layers rtc)
    (fun rtc' h => (layers_pollDeliveryTurn rtc').trans h) turns rfl

theorem layers_pollMedia (rtc : Rtc Ctx Rx) : layers (rtcPollMedia p rtc).1 = layers rtc := by
  unfold rtcPollMedia
  dsimp only
  split
  · rfl
  · exact @layers_withOut Ctx Rx (rtc.withUpdate (p.receiver.produce rtc.rx rtc.toMediaRtc).1) _
      (rtcPollQueuedOutput_ice _)

theorem layers_pollOutput (rtc : Rtc Ctx Rx) : layers (nanortcPollOutput p rtc).1 = layers rtc := by
  have hqueue : layers (rtc.withOut (rtcPollQueuedOutput (nanoRtcPacerPump rtc.toNanoRtc)).1) =
      layers rtc :=
    layers_withOut ((rtcPollQueuedOutput_ice _).trans (nanoRtcPacerPump_ice _))
  unfold nanortcPollOutput
  dsimp only
  revert hqueue
  generalize rtcPollQueuedOutput (nanoRtcPacerPump rtc.toNanoRtc) = polled
  intro hqueue
  split
  · exact hqueue
  · exact hqueue
  · split
    · rename_i hproduce
      have hcandidate {rtc rtc' : Rtc Ctx Rx} (h : nanoRtcCandidateProduce rtc = some rtc') :
          layers rtc' = layers rtc := by
        unfold nanoRtcCandidateProduce at h
        split at h
        · cases h
          rfl
        split at h
        · cases h
          rfl
        split at h
        · cases h
          rfl
        · cases h
      exact (hcandidate hproduce).trans hqueue
    · have hdelivery := layers_pollDelivery (sctpMaxRecvGap + 1) (rtc.withOut polled.1)
      revert hdelivery
      generalize rtcPollDelivery (sctpMaxRecvGap + 1) (rtc.withOut polled.1) = r
      intro hdelivery
      split
      · exact (layers_pollMedia p _).trans (hdelivery.trans hqueue)
      · exact hdelivery.trans hqueue

/-! ### Restart and disconnect -/

/-- What a disconnect leaves alone until the session has ended. -/
def sessionLayers (rtc : Rtc Ctx Rx) : Layers := { layers rtc with dtls := .closed, sctp := .closed }

theorem session_of_same {rtc rtc' : Rtc Ctx Rx} (h : Same layers rtc rtc') :
    Same sessionLayers rtc rtc' := by
  show sessionLayers rtc' = sessionLayers rtc
  unfold sessionLayers
  rw [show layers rtc' = layers rtc from h]

theorem ignoring_ok (m : RtcM Ctx Rx Unit) (rtc : Rtc Ctx Rx) :
    ignoring m rtc = .ok () (after m rtc) := by
  unfold ignoring
  rw [rtcRun_fst]

/-- The SHUTDOWN of a disconnect does not fail. -/
theorem shutdownSctp_ok (rtc : Rtc Ctx Rx) :
    ∃ rtc', rtcShutdownSctp p rtc = .ok () rtc' ∧ sessionLayers rtc' = sessionLayers rtc := by
  by_cases hstate : rtc.sctp.state = .established
  · let packet := nsctpFinalizeChecksum
      (nsctpEncodeHeader rtc.sctp.localPort rtc.sctp.remotePort rtc.sctp.remoteVtag ++
        nsctpEncodeShutdown rtc.sctp.recv.cumulativeTsn)
    let rtc₁ := after (onDtls fun dtls => dtlsEncrypt p.dtls dtls packet) rtc
    let rtc₂ := after (rtcDrainDtlsOutput rtc.remoteAddr) rtc₁
    have h₁ : sessionLayers rtc₁ = sessionLayers rtc :=
      session_of_same (layers_onDtls (fun d => dtlsEncrypt_state p.dtls d packet) rtc)
    have h₂ : sessionLayers rtc₂ = sessionLayers rtc₁ :=
      session_of_same (layers_drainDtls rtc.remoteAddr rtc₁)
    refine ⟨{ rtc₂ with sctp := { rtc₂.sctp with state := .shutdownSent } }, ?_, h₂.trans h₁⟩
    show (if rtc.sctp.state = .established then _ else _ : RtcM Ctx Rx Unit) rtc = _
    rw [if_pos hstate, bind_of_ok (ignoring_ok _ _), bind_of_ok (ignoring_ok _ _)]
    rfl
  · refine ⟨rtc, ?_, rfl⟩
    show (if rtc.sctp.state = .established then _ else _ : RtcM Ctx Rx Unit) rtc = _
    rw [if_neg hstate]
    rfl

/-- A disconnect ends the session unless it is over or has not begun. -/
theorem layers_after_disconnect {rtc : Rtc Ctx Rx} (h : rtc.state ≠ .closed ∧ rtc.state ≠ .new) :
    ∃ dtls sctp, layers (after (nanortcDisconnect p) rtc) = { layers rtc with
      state := .closed, dtls := dtls, sctp := sctp,
      disconnects := (layers rtc).disconnects + 1 } := by
  obtain ⟨rtc₁, hshut, h₁⟩ := shutdownSctp_ok p rtc
  let rtc₂ := { rtc₁ with dtls := dtlsClose p.dtls rtc₁.dtls }
  let rtc₃ := after (rtcDrainDtlsOutput rtc.remoteAddr) rtc₂
  let rtc₄ := rtc₃.withState .closed
  have h₃ : layers rtc₃ = layers rtc₂ := layers_drainDtls rtc.remoteAddr rtc₂
  have hafter : after (nanortcDisconnect p) rtc =
      after (nanoRtcEmitEventFull ⟨.disconnected, 0⟩) rtc₄ := by
    show after (if rtc.state ≠ .closed ∧ rtc.state ≠ .new then _ else _ : RtcM Ctx Rx Unit) rtc = _
    have hclose : (modify fun (rtc : Rtc Ctx Rx) =>
        { rtc with dtls := dtlsClose p.dtls rtc.dtls } : RtcM Ctx Rx PUnit) rtc₁ = .ok ⟨⟩ rtc₂ := rfl
    rw [if_pos h, after_bind_ok hshut, after_bind_ok hclose, after_bind_ok (ignoring_ok _ _)]
    rfl
  have hemit := layers_after_emit ⟨.disconnected, 0⟩ rtc₄
  rw [List.count_append, List.count_append] at hemit
  have h₄ : layers rtc₄ = { layers rtc₁ with
      state := .closed, dtls := (dtlsClose p.dtls rtc₁.dtls).state } := by
    show { layers rtc₃ with state := .closed } = _
    rw [h₃]
    rfl
  have hrest : layers rtc₁ = { layers rtc with
      dtls := rtc₁.dtls.state, sctp := rtc₁.sctp.state } := by
    show { sessionLayers rtc₁ with dtls := rtc₁.dtls.state, sctp := rtc₁.sctp.state } = _
    rw [h₁]
    rfl
  refine ⟨(dtlsClose p.dtls rtc₁.dtls).state, rtc₁.sctp.state, ?_⟩
  rw [hafter, hemit]
  show { layers rtc₄ with
    connects := (layers rtc₄).connects + 0, disconnects := (layers rtc₄).disconnects + 1 } = _
  rw [h₄, hrest]
  rfl

theorem sound_disconnect : Moves Sound (nanortcDisconnect p) := by
  intro rtc
  by_cases h : rtc.state ≠ .closed ∧ rtc.state ≠ .new
  · intro hl
    obtain ⟨dtls, sctp, hafter⟩ := layers_after_disconnect p h
    show _ ∧ _ ≤ (layers (after (nanortcDisconnect p) rtc)).state.rank
    rw [hafter]
    exact ⟨hl.close h.1 (hl.checks h.2) dtls sctp, rank_le_closed _⟩
  · unfold nanortcDisconnect
    apply movesAt_get_bind.mpr
    rw [if_neg h]
    exact movesAt_pure _

/-- The connection that a restart leaves before it announces the change. -/
def restarted (ufrag pwd : List UInt8) (rtc : Rtc Ctx Rx) : Rtc Ctx Rx :=
  let out := { rtc.toNanoRtc with
    ice := iceRestart rtc.ice, turn := turnResetPeerState rtc.turn }
  let rtc := { (rtc.withOut out).withState .new with
    dtls := { dtlsDestroy rtc.dtls with localFingerprint := .nil }
    sdp := { rtc.sdp with
      localFingerprint := .nil, remoteCandidates := [], endOfCandidates := false }
    emitted := [] }
  rtcSetCredentials rtc ufrag pwd

/-- A restart opens a new session. -/
theorem layered_iceRestart (e : Entropy) {rtc : Rtc Ctx Rx} (h : Layered (layers rtc)) :
    Layered (layers (after (nanortcIceRestart e) rtc)) := by
  cases hcred : e.credentials with
  | none =>
    have hthrow : after (nanortcIceRestart e) rtc = rtc := by
      unfold nanortcIceRestart
      rw [hcred]
      rfl
    rw [hthrow]
    exact h
  | some c =>
    obtain ⟨ufrag, pwd⟩ := c
    have hafter : after (nanortcIceRestart e) rtc =
        after emitIceStateChange (restarted ufrag pwd rtc) := by
      unfold nanortcIceRestart
      rw [hcred]
      rfl
    have hlayers : layers (restarted ufrag pwd rtc) = { layers rtc with
      state := .new, ice := .new, dtls := .closed, connects := 0, disconnects := 0 } := rfl
    have hemit : layers (after emitIceStateChange (restarted ufrag pwd rtc)) =
      layers (restarted ufrag pwd rtc) := layers_emitIceStateChange _
    rw [hafter, hemit, hlayers]
    have hrank : ¬ ConnState.dtlsConnected.rank ≤ ConnState.new.rank := by decide
    exact {
      dtls := fun hle => absurd hle hrank
      sctp := fun hconn => by cases hconn
      alive := h.alive
      checks := fun hne => absurd rfl hne
      gone := fun hgone => by cases hgone <;> contradiction
      quiet := fun _ => rfl
      once := Nat.zero_le _
      ended := rfl }

/-! ### Runs -/

/-- The call brings neither an ABORT of the peer to an open session nor the expiry of its consent to
a session that is over. -/
def CleanCall (rtc : Rtc Ctx Rx) : RtcCall → Prop
  | .handleInput e input =>
    (rtc.state = .closed → iceConsentExpired rtc.ice input.nowMs = false) ∧
      ¬ PeerAborts p e rtc input
  | _ => True

/-- Every call of the run is clean in the state it is made in. -/
def CleanRun (rtc : Rtc Ctx Rx) : List RtcCall → Prop
  | [] => True
  | call :: calls => CleanCall p rtc call ∧ CleanRun (rtcStep p rtc call) calls

theorem applyIceServers_ice (out : NanoRtc) (urls : List IceUrl) :
    (nanoRtcApplyIceServers out urls).1.ice = out.ice := by
  have hurl (out : NanoRtc) (url : IceUrl) : (rtcApplyIceUrl out url).1.ice = out.ice := by
    unfold rtcApplyIceUrl
    repeat' split
    all_goals rfl
  exact runUntil_invariant (P := fun (out' : NanoRtc) => out'.ice = out.ice)
    (fun out' url h => (hurl out' url).trans h) rfl urls

/-- The body of a call other than `nanortc_handle_input` and a restart. -/
theorem sound_callBody {call : RtcCall} (hrestart : ∀ e, call ≠ .iceRestart e) :
    Moves Sound (rtcCallBody p call) := by
  intro rtc
  cases call with
  | handleInput e input => exact movesAt_pure _
  | pollOutput => exact movesAt_pure _
  | acceptOffer e offer bufLen => exact sound_acceptOffer p e offer bufLen rtc
  | createOffer e bufLen => exact sound_createOffer p e bufLen rtc
  | acceptAnswer answer => exact sound_acceptAnswer p answer rtc
  | addLocalCandidate ip port => exact MovesAt.sound (layers_addLocalCandidate ip port rtc)
  | addRemoteCandidate text => exact MovesAt.sound (layers_addRemoteCandidate text rtc)
  | endOfCandidates => exact movesAt_modify.mpr (sound_of_same (layers_withIce rfl))
  | setIceServers urls =>
    exact MovesAt.sound (layers_onOut (fun out => applyIceServers_ice out urls) rtc)
  | addTrack kind direction pt sampleRate channels =>
    exact MovesAt.sound (layers_addTrack kind direction pt sampleRate channels rtc)
  | setDirection mid direction => exact MovesAt.sound (layers_setDirection mid direction rtc)
  | sendAudio mid ptsMs data =>
    exact MovesAt.sound (layers_onMedia (fun m => nanortcSendAudio_layers p.crypto m mid ptsMs data)
      rtc)
  | sendVideo mid ptsMs data =>
    exact MovesAt.sound (layers_onMedia (fun m => nanortcSendVideo_layers p.crypto m mid ptsMs data)
      rtc)
  | requestKeyframe mid =>
    exact MovesAt.sound (layers_onMedia (fun m => nanortcRequestKeyframe_layers p.crypto m mid) rtc)
  | setBitrate estimate => exact movesAt_modify.mpr (sound_of_same rfl)
  | createDatachannel label options =>
    exact MovesAt.sound (layers_createDatachannel p label options rtc)
  | datachannelSend id data binary => exact MovesAt.sound (layers_datachannelSend id data binary rtc)
  | datachannelClose id => exact MovesAt.sound (layers_datachannelClose id rtc)
  | iceRestart e => exact absurd rfl (hrestart e)
  | disconnect => exact sound_disconnect p rtc

/-- A clean call other than a restart keeps the invariant and does not lower the state. -/
theorem sound_step {rtc : Rtc Ctx Rx} {call : RtcCall} (hclean : CleanCall p rtc call)
    (hrestart : ∀ e, call ≠ .iceRestart e) : Sound rtc (rtcStep p rtc call) := by
  have hbody : Sound rtc (rtcRun (rtcCallBody p call) rtc).1 := by
    rw [rtcRun_fst]
    exact sound_callBody p hrestart rtc
  unfold rtcStep
  cases call with
  | handleInput e input => exact sound_handleInput p e hclean.1 hclean.2
  | pollOutput =>
    have hpoll : layers (nanortcPollOutput p rtc).1 = layers rtc := layers_pollOutput p rtc
    apply sound_of_same
    unfold rtcCall
    dsimp only
    revert hpoll
    generalize nanortcPollOutput p rtc = r
    intro hpoll
    split <;> exact hpoll
  | iceRestart e => exact absurd rfl (hrestart e)
  | _ => exact hbody

theorem layered_step {rtc : Rtc Ctx Rx} {call : RtcCall} (hclean : CleanCall p rtc call)
    (h : Layered (layers rtc)) : Layered (layers (rtcStep p rtc call)) := by
  by_cases hrestart : ∃ e, call = .iceRestart e
  · obtain ⟨e, rfl⟩ := hrestart
    have hafter := layered_iceRestart e h
    rw [← rtcRun_fst] at hafter
    exact hafter
  · exact (sound_step p hclean (fun e he => hrestart ⟨e, he⟩) h).1

theorem layered_run {rtc : Rtc Ctx Rx} {calls : List RtcCall} (hclean : CleanRun p rtc calls)
    (h : Layered (layers rtc)) : Layered (layers (run (rtcStep p) rtc calls)) := by
  induction calls generalizing rtc with
  | nil => exact h
  | cons call calls ih =>
    rw [run_cons]
    exact ih hclean.2 (layered_step p hclean.1 h)

theorem CleanRun.split {rtc : Rtc Ctx Rx} {pre : List RtcCall} {call : RtcCall}
    {post : List RtcCall} (h : CleanRun p rtc (pre ++ call :: post)) :
    CleanRun p rtc pre ∧ CleanCall p (run (rtcStep p) rtc pre) call := by
  induction pre generalizing rtc with
  | nil => exact ⟨trivial, h.1⟩
  | cons first pre ih =>
    obtain ⟨hpre, hcall⟩ := ih h.2
    exact ⟨⟨h.1, hpre⟩, hcall⟩

/-- A new connection. -/
theorem layered_init (isControlling : Bool) (tieBreaker : UInt64) (rx : Rx) (urls : List IceUrl) :
    Layered (layers (rtcInit isControlling tieBreaker rx urls : Rtc Ctx Rx × Rc).1) := by
  have hrank : ¬ ConnState.dtlsConnected.rank ≤ ConnState.new.rank := by decide
  have hblank : Layered (layers (rtcBlank isControlling tieBreaker rx : Rtc Ctx Rx)) := {
    dtls := fun hle => absurd hle hrank
    sctp := fun hconn => by cases hconn
    alive := rfl
    checks := fun hne => absurd rfl hne
    gone := fun hgone => by cases hgone <;> contradiction
    quiet := fun _ => rfl
    once := Nat.zero_le _
    ended := rfl }
  have hservers : layers (rtcInit isControlling tieBreaker rx urls : Rtc Ctx Rx × Rc).1 =
      layers (rtcBlank isControlling tieBreaker rx : Rtc Ctx Rx) := by
    unfold rtcInit
    rw [rtcRun_fst]
    exact layers_onOut (fun out => applyIceServers_ice out urls) _
  rw [hservers]
  exact hblank

theorem closed_of_rank {s : ConnState} (h : ConnState.closed.rank ≤ s.rank) : s = .closed := by
  cases s with
  | closed => rfl
  | _ => exact absurd h (by decide)

/-- What the connection state promises about the layers and the events of the session. -/
structure SessionAgrees (rtc : Rtc Ctx Rx) : Prop where
  dtls : rtc.state = .connected → rtc.dtls.state = .established
  sctp : rtc.state = .connected → rtc.dcNegotiated → rtc.sctp.state = .established
  opened : rtc.emitted.count ⟨.connected, 0⟩ ≤ 1
  ended : rtc.emitted.count ⟨.disconnected, 0⟩ = if rtc.state = .closed then 1 else 0
  ice : rtc.ice.state = .failed ∨ rtc.ice.state = .disconnected → rtc.state = .closed
  association : ⟨.connected, 0⟩ ∈ rtc.emitted → rtc.dcNegotiated →
    rtc.sctp.state ≠ .established → rtc.state = .closed

theorem Layered.agrees {rtc : Rtc Ctx Rx} (h : Layered (layers rtc)) : SessionAgrees rtc where
  dtls hconn := h.dtls (by
    show _ ≤ rtc.state.rank
    rw [hconn]
    decide) (by
    show rtc.state ≠ .closed
    rw [hconn]
    decide)
  sctp := h.sctp
  opened := h.once
  ended := h.ended
  ice := h.gone
  association hemitted hneg hsctp := by
    have hpos : 0 < rtc.emitted.count ⟨.connected, 0⟩ := List.count_pos_iff.mpr hemitted
    have hrank : ¬ rtc.state.rank < ConnState.connected.rank := fun hlt => by
      have hnone : rtc.emitted.count ⟨.connected, 0⟩ = 0 := h.quiet hlt
      omega
    have hconn : rtc.state ≠ .connected := fun hconn => hsctp (h.sctp hconn hneg)
    cases hstate : rtc.state with
    | closed => rfl
    | connected => exact absurd hstate hconn
    | _ =>
      rw [hstate] at hrank
      exact absurd (by decide) hrank

/-- In a run without an ABORT of the peer to an open session and without an expiry of consent after
the end, the state of the connection agrees with the layers and with the events in every state
reached; only a restart leaves CLOSED, and a disconnect reaches it. -/
theorem session_agrees (isControlling : Bool) (tieBreaker : UInt64) (rx : Rx) (urls : List IceUrl)
    {calls : List RtcCall} (hclean : CleanRun p (rtcInit isControlling tieBreaker rx urls).1 calls)
    {pre post : List RtcCall} (hsplit : calls = pre ++ post) :
    let rtc := run (rtcStep p) (rtcInit isControlling tieBreaker rx urls).1 pre
    SessionAgrees rtc ∧ ∀ call ∈ post.head?,
      (rtc.state = .closed → (rtcStep p rtc call).state = .closed ∨ ∃ e, call = .iceRestart e) ∧
        (call = .disconnect → rtc.state ≠ .new → (rtcStep p rtc call).state = .closed) := by
  have hpre (call : RtcCall) (post : List RtcCall) (h : calls = pre ++ call :: post) :=
    CleanRun.split p (h ▸ hclean)
  have hrun : Layered (layers (run (rtcStep p) (rtcInit isControlling tieBreaker rx urls).1 pre)) := by
    apply layered_run p _ (layered_init isControlling tieBreaker rx urls)
    cases post with
    | nil =>
      rw [List.append_nil] at hsplit
      exact hsplit ▸ hclean
    | cons call post => exact (hpre call post hsplit).1
  intro rtc
  refine ⟨hrun.agrees, fun call hcall => ?_⟩
  obtain ⟨post', rfl⟩ : ∃ post', post = call :: post' := List.head?_eq_some_iff.mp hcall
  have hcall := (hpre call post' hsplit).2
  constructor
  · intro hclosed
    by_cases hrestart : ∃ e, call = .iceRestart e
    · exact .inr hrestart
    · left
      have hrank := (sound_step p hcall (fun e he => hrestart ⟨e, he⟩) hrun).2
      have hrank : rtc.state.rank ≤ (rtcStep p rtc call).state.rank := hrank
      rw [hclosed] at hrank
      exact closed_of_rank hrank
  · intro hdisconnect hnew
    have hdone : (rtcStep p rtc .disconnect).state = .closed := by
      have hbody : rtcStep p rtc .disconnect = after (nanortcDisconnect p) rtc := rtcRun_fst _ _
      rw [hbody]
      by_cases hclosed : rtc.state = .closed
      · show (layers (after (nanortcDisconnect p) rtc)).state = .closed
        have hrank : rtc.state.rank ≤ (after (nanortcDisconnect p) rtc).state.rank :=
          (sound_disconnect p rtc hrun).2
        rw [hclosed] at hrank
        exact closed_of_rank hrank
      · obtain ⟨dtls, sctp, hafter⟩ := layers_after_disconnect p ⟨hclosed, hnew⟩
        exact congrArg Layers.state hafter
    rw [hdisconnect]
    exact hdone

/-! ### A session that fails and is restarted -/

/-- Ticks of a session without remote candidates: the checks fail, and a restart opens the next
session. -/
def demoFailed : List RtcCall :=
  [.acceptOffer { credentials := some demoCredentials } (demoOffer false) 2048,
    .endOfCandidates, demoInput 1000 [], demoInput 2000 [],
    .iceRestart { credentials := some demoCredentials }]

theorem demoFailed_clean : CleanRun .plain (rtcInit false 3 () []).1 demoFailed := by
  have htick (rtc : Rtc Unit Unit) (nowMs : UInt32) (h : iceConsentExpired rtc.ice nowMs = false) :
      CleanCall .plain rtc (demoInput nowMs []) := ⟨fun _ => h, fun habort => habort.1 rfl⟩
  refine ⟨trivial, trivial, htick _ _ ?_, htick _ _ ?_, trivial, trivial⟩
  · decide +kernel
  · decide +kernel

/-- The session ends with the failure of its checks and stays over until the restart. -/
theorem demoFailed_agrees :
    CleanRun .plain (rtcInit false 3 () []).1 demoFailed ∧
      SessionAgrees (demoSession (demoFailed.take 4)) ∧
      (demoSession (demoFailed.take 4)).state = .closed ∧ (demoSession demoFailed).state = .new :=
  ⟨demoFailed_clean,
    (session_agrees .plain false 3 () [] demoFailed_clean
      (show demoFailed = demoFailed.take 4 ++ demoFailed.drop 4 from rfl)).1,
    by decide +kernel, by decide +kernel⟩

/-- A session that the application has ended announces its end once more when the consent of the
dead session runs out. -/
theorem disconnected_twice :
    let session := demoSession (demoChecks .sendrecv false ++
      [demoFlight 1030, .disconnect, demoInput 31030 []])
    session.state = .closed ∧ session.emitted.count ⟨.disconnected, 0⟩ = 2 := by
  decide +kernel

end Nanortc.Spec
