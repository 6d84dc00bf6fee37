import Nanortc.Spec.SctpRun
import Nanortc.Spec.SessionSteps

/-!
# Input of a session

What the datagrams do to the invariant of a session. A peer's ABORT closes the association while the
connection stays CONNECTED; every other packet of the association keeps it ESTABLISHED.

## Key results

- `nsctpHandleData_lives`: what a packet without an ABORT does to the association
- `sound_handleInput`: a call of `nanortc_handle_input` keeps the invariant
-/

namespace Nanortc.Spec

open Nanortc.ForStd Nanortc.Native

variable {Ctx Rx : Type}

/-! ### Packets of the association -/

/-- An ESTABLISHED association stays so, and no failure is raised. -/
structure Lives (s s' : NanoSctp) : Prop where
  failed : s'.closedDueToFailure = s.closedDueToFailure
  state : s.state = .established → s'.state = .established

theorem Lives.refl (s : NanoSctp) : Lives s s := ⟨rfl, id⟩

theorem Lives.trans {s s' s'' : NanoSctp} (h : Lives s s') (h' : Lives s' s'') : Lives s s'' :=
  ⟨h'.failed.trans h.failed, h'.state ∘ h.state⟩

theorem lives_send : SendRule Lives where
  refl := Lives.refl
  trans := Lives.trans
  output _ _ := ⟨rfl, id⟩
  sack _ := ⟨rfl, id⟩
  sent _ _ _ _ _ := ⟨rfl, id⟩
  abandon _ _ := ⟨rfl, id⟩
  forward _ _ _ := ⟨rfl, id⟩

theorem lives_recv (s : NanoSctp) (recv : SctpRecv) (streams : List SctpStream) :
    Lives s { s with recv := recv, streams := streams } := ⟨rfl, id⟩

theorem nsctpHandleInit_lives (s : NanoSctp) (random : Option AssociationSeed)
    (chunk : List UInt8) (hdr : NsctpHeader) :
    Lives s (nsctpHandleInit s random chunk hdr).1 := by
  unfold nsctpHandleInit
  split
  · exact Lives.refl s
  dsimp only
  generalize (if s.localVtag = 0 then nsctpGenerateAssociationSeed random
    else .ok ⟨s.localVtag, s.nextTsn, s.cookieSecret⟩) = own
  split
  · exact Lives.refl s
  · dsimp only
    apply Lives.trans _ (lives_send.queueOutput _ _ _)
    exact ⟨rfl, id⟩

theorem nsctpHandleInitAck_lives (s : NanoSctp) (chunk : List UInt8) :
    Lives s (nsctpHandleInitAck s chunk).1 := by
  unfold nsctpHandleInitAck
  split
  · exact Lives.refl s
  rename_i hwait
  have hwait : s.state = .cookieWait := Decidable.not_not.mp hwait
  split
  · exact Lives.refl s
  split
  · exact Lives.refl s
  · rename_i init _ _
    have hqueue := lives_send.queueOutput { s with
      remoteVtag := init.initiateTag
      peerInitialTsn := init.initialTsn
      recv := { s.recv with cumulativeTsn := init.initialTsn - 1 }
      peerARwnd := init.aRwnd
      peerForwardTsn := init.forwardTsnSupported
      cookie := init.cookie } init.initiateTag
      (nsctpEncodeCookieEcho (sctpMtu - sctpHeaderSize) init.cookie)
    refine ⟨hqueue.failed, fun h => ?_⟩
    rw [hwait] at h
    exact absurd h (by decide)

/-- Every chunk but an ABORT. -/
theorem nsctpHandleChunk_lives (s : NanoSctp) (random : Option AssociationSeed) (hdr : NsctpHeader)
    {chunk : List UInt8} (h : SctpChunkType.ofType (byteAt chunk 0) ≠ .abort) :
    Lives s (nsctpHandleChunk s random hdr chunk).1 := by
  unfold nsctpHandleChunk
  cases htype : SctpChunkType.ofType (byteAt chunk 0) with
  | init => exact nsctpHandleInit_lives s random chunk hdr
  | initAck => exact nsctpHandleInitAck_lives s chunk
  | cookieEcho =>
    dsimp only
    unfold nsctpHandleCookieEcho
    dsimp only
    split
    · exact Lives.refl s
    · exact ⟨(lives_send.queueOutput s s.remoteVtag nsctpEncodeCookieAck).failed, fun _ => rfl⟩
  | cookieAck =>
    dsimp only
    unfold nsctpHandleCookieAck
    split
    · exact Lives.refl s
    · exact ⟨rfl, fun _ => rfl⟩
  | data => exact nsctpHandleDataChunk_rule lives_recv s chunk
  | sack => exact lives_send.handleSack (fun _ _ _ => ⟨rfl, id⟩) s chunk
  | heartbeat => exact lives_send.handleHeartbeat s chunk
  | heartbeatAck => exact ⟨rfl, id⟩
  | forwardTsn => exact nsctpHandleForwardTsn_rule lives_recv s chunk
  | abort => exact absurd htype h
  | shutdown => exact Lives.refl s
  | other => exact Lives.refl s

/-- The association takes notice of an ABORT of the packet: header and checksum are right, and no
chunk before it ends the packet. -/
def TakesAbort (s : NanoSctp) (random : Option AssociationSeed) (packet : List UInt8) : Prop :=
  sctpHeaderSize ≤ packet.length ∧ nsctpVerifyChecksum packet = .ok ∧
    ∃ chunk, SctpChunkType.ofType (byteAt chunk 0) = .abort ∧
      Reached (nsctpChunkTurn random (nsctpParseHeader packet)) s
        (nsctpChunks packet packet.length sctpHeaderSize) (some chunk)

/-- A packet whose ABORT is not reached keeps the association alive. -/
theorem nsctpHandleData_lives {s : NanoSctp} {random : Option AssociationSeed}
    {packet : List UInt8} (h : ¬ TakesAbort s random packet) :
    Lives s (nsctpHandleData s random packet).1 := by
  unfold nsctpHandleData
  split
  · exact Lives.refl s
  rename_i hlen
  split
  · exact Lives.refl s
  rename_i hsum
  have hsum : nsctpVerifyChecksum packet = .ok := Decidable.not_not.mp hsum
  have hrun : Lives s (runUntil (nsctpChunkTurn random (nsctpParseHeader packet)) s
      (nsctpChunks packet packet.length sctpHeaderSize)).1 := by
    apply runUntil_reached (P := fun t => Lives s t)
    · intro t i hreached ht
      cases i with
      | none => exact ht
      | some chunk =>
        have htype : SctpChunkType.ofType (byteAt chunk 0) ≠ .abort := fun habort =>
          h ⟨Nat.le_of_not_lt hlen, hsum, chunk, habort, hreached⟩
        rw [nsctpChunkTurn_fst]
        split
        · exact ht
        · exact ht.trans (nsctpHandleChunk_lives t random _ htype)
    · exact Lives.refl s
  revert hrun
  generalize runUntil (nsctpChunkTurn random (nsctpParseHeader packet)) s
    (nsctpChunks packet packet.length sctpHeaderSize) = r
  intro hrun
  split
  · exact hrun
  · exact Lives.trans hrun (lives_send.finishPacket _)

/-- No packet raises the failure flag. -/
theorem nsctpHandleData_failed (s : NanoSctp) (random : Option AssociationSeed)
    (packet : List UInt8) :
    (nsctpHandleData s random packet).1.closedDueToFailure = s.closedDueToFailure := by
  unfold nsctpHandleData
  split
  · rfl
  split
  · rfl
  have hrun : (runUntil (nsctpChunkTurn random (nsctpParseHeader packet)) s
      (nsctpChunks packet packet.length sctpHeaderSize)).1.closedDueToFailure =
        s.closedDueToFailure := by
    apply runUntil_invariant (P := fun (t : NanoSctp) => t.closedDueToFailure = s.closedDueToFailure)
    · intro t i ht
      cases i with
      | none => exact ht
      | some chunk =>
        rw [nsctpChunkTurn_fst]
        split
        · exact ht
        · by_cases habort : SctpChunkType.ofType (byteAt chunk 0) = .abort
          · unfold nsctpHandleChunk
            rw [habort]
            exact ht
          · exact (nsctpHandleChunk_lives t random _ habort).failed.trans ht
    · rfl
  revert hrun
  generalize runUntil (nsctpChunkTurn random (nsctpParseHeader packet)) s
    (nsctpChunks packet packet.length sctpHeaderSize) = r
  intro hrun
  split
  · exact hrun
  · exact (lives_send.finishPacket _).failed.trans hrun

/-! ### DTLS and the association -/

variable (p : Platform Ctx Rx) (e : Entropy)

/-- Decrypted data of an established DTLS session. -/
theorem sound_receiveSctp {rtc : Rtc Ctx Rx} (hdtls : rtc.dtls.state = .established)
    (hnew : rtc.state ≠ .new) (src : NanortcAddr) {packet : List UInt8}
    (h : rtc.state = .connected → rtc.dcNegotiated → ¬ TakesAbort rtc.sctp e.initSeed packet) :
    MovesAt Sound (rtcReceiveSctp p e src packet) rtc := by
  have hpump : Moves Sound (unblock (rtcPumpSctpThroughDtls p src) >>= fun _ =>
      unblock (rtcPumpDcThroughSctp p src)) := by
    intro rtc
    apply MovesAt.bind (MovesAt.sound (movesAt_unblock.mpr (layers_pumpSctp p src rtc)))
    intro _ rtc' _
    exact MovesAt.sound (movesAt_unblock.mpr (layers_pumpDc p src rtc'))
  have hdata : MovesAt Calm (onSctp fun sctp => nsctpHandleData sctp e.initSeed packet) rtc := by
    apply movesAt_onSctp.mpr
    apply calm_sctp
    · intro hconn hneg
      exact (nsctpHandleData_lives (h hconn hneg)).state
    · exact nsctpHandleData_failed ..
  unfold rtcReceiveSctp
  apply MovesAt.bind (hdata.mono fun _ => Calm.sound)
  intro _ rtc₁ hok
  have hstate₁ : rtc₁.state = rtc.state := (MovesAt.ok hdata hok).2
  have hdtls₁ : rtc₁.dtls.state = .established := by
    have hsame : MovesAt (Same fun rtc => rtc.dtls.state)
      (onSctp fun sctp => nsctpHandleData sctp e.initSeed packet) rtc := movesAt_onSctp.mpr rfl
    exact (MovesAt.ok (R := Same fun (rtc : Rtc Ctx Rx) => rtc.dtls.state) hsame hok).trans hdtls
  apply movesAt_get_bind.mpr
  dsimp only
  apply MovesAt.ite
  · intro ⟨hsctp, hrank⟩
    let opened := { rtc₁.withState .connected with
      sctp := { rtc₁.sctp with lastHeartbeatMs := rtc₁.nowMs } }
    have hopen : MovesAt Sound (set opened >>= fun _ => rtcEmitConnected) rtc₁ := by
      intro hl
      have hafter := layers_after_emitConnected opened
      show Layered (layers (after rtcEmitConnected opened)) ∧ _ ≤
        (layers (after rtcEmitConnected opened)).state.rank
      rw [hafter]
      have hnew₁ : rtc₁.state ≠ .new := by
        rw [hstate₁]
        exact hnew
      exact ⟨hl.open hrank hnew₁ hdtls₁ fun _ => hsctp, Nat.le_of_lt hrank⟩
    show MovesAt Sound ((set opened >>= fun _ => rtcEmitConnected) >>= fun _ =>
      unblock (rtcPumpSctpThroughDtls p src) >>= fun _ => unblock (rtcPumpDcThroughSctp p src)) rtc₁
    exact MovesAt.bind hopen fun _ rtc₂ _ => hpump rtc₂
  · exact fun _ => hpump rtc₁

/-- The end of the decryption: what DTLS holds for the application. -/
def takeAppData : RtcM Ctx Rx (Option (List UInt8)) := do
  let rtc ← get
  if rtc.dtls.state = .established then
    let r := dtlsPollAppData rtc.dtls
    set { rtc with dtls := r.1 }
    pure r.2
  else pure none

theorem dtlsPollAppData_state (d : NanoDtls Ctx) : (dtlsPollAppData d).1.state = d.state := by
  unfold dtlsPollAppData
  split <;> rfl

theorem layers_takeAppData : Moves (Same layers) (takeAppData : RtcM Ctx Rx _) := by
  intro rtc
  unfold takeAppData
  apply movesAt_get_bind.mpr
  apply MovesAt.ite
  · intro _
    apply movesAt_set_bind
    · exact layers_dtls (dtlsPollAppData_state rtc.dtls)
    · exact movesAt_pure _
  · exact fun _ => movesAt_pure _

/-- There is data only in an established DTLS session. -/
theorem takeAppData_some {rtc rtc' : Rtc Ctx Rx} {packet : List UInt8}
    (h : takeAppData rtc = .ok (some packet) rtc') : rtc'.dtls.state = .established := by
  by_cases hdtls : rtc.dtls.state = .established
  · have hsame := layers_ok (layers_takeAppData rtc) h
    exact (congrArg Layers.dtls hsame).trans hdtls
  · have hnone : takeAppData rtc = .ok none rtc := by
      show (if rtc.dtls.state = .established then _ else _ :
        RtcM Ctx Rx (Option (List UInt8))) rtc = _
      rw [if_neg hdtls]
      rfl
    rw [hnone] at h
    cases h

/-- The decryption up to the application data. -/
def decryptHead (data : List UInt8) (src : NanortcAddr) : RtcM Ctx Rx Unit := do
  let rtc ← get
  if rtc.state.rank < ConnState.iceConnected.rank then throw .state
  set { rtc with dtls := dtlsSetTime p.dtls rtc.dtls rtc.nowMs }
  onDtls fun dtls => dtlsHandleData p.dtls dtls data
  unblock (rtcDrainDtlsOutput src)
  rtcFinishDtls p e src

theorem sound_decryptHead (data : List UInt8) (src : NanortcAddr) :
    Moves Sound (decryptHead p e data src) := by
  intro rtc
  unfold decryptHead
  apply movesAt_get_bind.mpr
  apply MovesAt.ite
  · intro _
    exact movesAt_throw_bind _ _
  · intro hrank
    have hnew : rtc.state ≠ .new := fun h => by
      rw [h] at hrank
      exact absurd hrank (by decide)
    have htime : Same layers rtc { rtc with dtls := dtlsSetTime p.dtls rtc.dtls rtc.nowMs } :=
      layers_dtls rfl
    apply movesAt_set_bind (sound_of_same htime)
    have hdata : Moves Calm (onDtls fun dtls => dtlsHandleData p.dtls dtls data :
        RtcM Ctx Rx Unit) :=
      fun rtc => movesAt_onDtls.mpr (calm_dtls fun _ h => dtlsHandleData_established p.dtls h data)
    apply MovesAt.bind ((hdata _).mono fun _ => Calm.sound)
    intro _ rtc₁ h₁
    have hstate₁ : rtc₁.state = rtc.state := (MovesAt.ok (hdata _) h₁).2
    have hdrain := movesAt_unblock.mpr (layers_drainDtls src rtc₁)
    apply MovesAt.bind (MovesAt.sound hdrain)
    intro _ rtc₂ h₂
    have hstate₂ : rtc₂.state = rtc₁.state := congrArg Layers.state (layers_ok hdrain h₂)
    apply sound_finishDtls
    rw [hstate₂, hstate₁]
    exact hnew

/-- The decryption goes on only in a session whose checks have succeeded. -/
theorem decryptHead_begun {data : List UInt8} {src : NanortcAddr} {rtc rtc' : Rtc Ctx Rx}
    (hl : Layered (layers rtc)) (h : decryptHead p e data src rtc = .ok () rtc') :
    rtc'.state ≠ .new := by
  have hrank := (MovesAt.ok (sound_decryptHead p e data src rtc) h hl).2
  by_cases hearly : rtc.state.rank < ConnState.iceConnected.rank
  · have hthrow : decryptHead p e data src rtc = .error .state rtc := by
      show (if rtc.state.rank < ConnState.iceConnected.rank then throw .state >>= fun _ => _ else _ :
        RtcM Ctx Rx Unit) rtc = _
      rw [if_pos hearly]
      rfl
    rw [hthrow] at h
    cases h
  · intro hnew
    rw [hnew] at hrank
    exact hearly (Nat.lt_of_le_of_lt hrank (by decide))

theorem decryptDtls_eq (data : List UInt8) (src : NanortcAddr) :
    rtcDecryptDtls p e data src = decryptHead p e data src >>= fun _ => takeAppData := by
  unfold rtcDecryptDtls decryptHead
  rw [bind_assoc]
  congr 1
  funext rtc
  dsimp only
  split
  · rw [bind_assoc]
    rfl
  · simp only [bind_assoc]
    rfl

theorem sound_decryptDtls (data : List UInt8) (src : NanortcAddr) :
    Moves Sound (rtcDecryptDtls p e data src) := by
  intro rtc
  rw [decryptDtls_eq]
  apply MovesAt.bind (sound_decryptHead p e data src rtc)
  intro _ rtc' _
  exact MovesAt.sound (layers_takeAppData rtc')

/-- A datagram decrypts to data only in an established DTLS session, after the checks. -/
theorem decryptDtls_some {data packet : List UInt8} {src : NanortcAddr} {rtc rtc' : Rtc Ctx Rx}
    (hl : Layered (layers rtc)) (h : rtcDecryptDtls p e data src rtc = .ok (some packet) rtc') :
    rtc'.dtls.state = .established ∧ rtc'.state ≠ .new := by
  rw [decryptDtls_eq] at h
  obtain ⟨_, rtc₁, hhead, htake⟩ := ok_of_bind h
  have hbegun := decryptHead_begun p e hl hhead
  have hstate : rtc'.state = rtc₁.state :=
    congrArg Layers.state (layers_ok (layers_takeAppData rtc₁) htake)
  refine ⟨takeAppData_some htake, ?_⟩
  rw [hstate]
  exact hbegun

/-- The datagram decrypts to a packet whose ABORT the association of an open session takes notice
of. -/
def AbortDecrypted (data : List UInt8) (src : NanortcAddr) (rtc : Rtc Ctx Rx) : Prop :=
  ∃ packet rtc', rtcDecryptDtls p e data src rtc = .ok (some packet) rtc' ∧
    rtc'.state = .connected ∧ rtc'.dcNegotiated ∧ TakesAbort rtc'.sctp e.initSeed packet

theorem sound_receiveDtls {data : List UInt8} {src : NanortcAddr} {rtc : Rtc Ctx Rx}
    (h : ¬ AbortDecrypted p e data src rtc) : MovesAt Sound (rtcReceiveDtls p e data src) rtc := by
  apply movesAt_sound
  intro hl
  unfold rtcReceiveDtls
  apply MovesAt.bind (sound_decryptDtls p e data src rtc)
  intro r rtc' hok
  cases r with
  | none => exact movesAt_pure _
  | some packet =>
    obtain ⟨hdtls, hnew⟩ := decryptDtls_some p e hl hok
    apply sound_receiveSctp p e hdtls hnew
    intro hconn hneg habort
    exact h ⟨packet, rtc', hok, hconn, hneg, habort⟩

/-! ### STUN -/

theorem layers_receiveTurn (data : List UInt8) :
    Moves (Same layers) (rtcReceiveTurn p data) := by
  intro rtc
  unfold rtcReceiveTurn
  apply movesAt_get_bind.mpr
  dsimp only
  apply MovesAt.bind (layers_onTurn rtc)
  intro _ rtc' _
  apply movesAt_get_bind.mpr
  apply MovesAt.ite_pure
  intro _
  apply movesAt_set.mpr
  have hice (addr : NanortcAddr) : (iceAddLocal rtc'.ice .relay addr).state = rtc'.ice.state := by
    unfold iceAddLocal
    split <;> rfl
  exact layers_withIce (hice _)

theorem layers_receiveSrflx (data : List UInt8) :
    Moves (Same layers) (rtcReceiveSrflx data : RtcM Ctx Rx Unit) := by
  intro rtc
  unfold rtcReceiveSrflx
  split
  · exact movesAt_pure _
  · apply movesAt_get_bind.mpr
    apply MovesAt.ite_pure
    intro _
    apply movesAt_set.mpr
    have hice (addr : NanortcAddr) : (iceAddLocal rtc.ice .srflx addr).state = rtc.ice.state := by
      unfold iceAddLocal
      split <;> rfl
    exact layers_withIce (hice _)

theorem layers_sendStunResponse (slot : Nat) (packet : List UInt8) (src : NanortcAddr)
    (localIdx : Nat) (viaTurn : Bool) : Moves (Same layers)
      (rtcSendStunResponse slot packet src localIdx viaTurn : RtcM Ctx Rx Unit) := by
  intro rtc
  unfold rtcSendStunResponse
  apply movesAt_get_bind.mpr
  dsimp only
  split
  · apply MovesAt.ite
    · exact fun _ => layers_txSlotSend _ _ _ _ _ rtc
    · exact fun _ => layers_txSlotSend _ _ _ _ _ rtc
  · exact layers_txSlotSend _ _ _ _ _ rtc

/-- The first nomination opens the way to DTLS. -/
theorem sound_iceConnected (src : NanortcAddr) : Moves Sound (rtcIceConnected p src) := by
  intro rtc
  unfold rtcIceConnected
  apply movesAt_get_bind.mpr
  apply MovesAt.ite_pure
  intro ⟨hice, hrank⟩
  have hset (ice : NanoIce) (h : ice.state = .connected) :
      Sound rtc ((rtc.withIce ice).withState .iceConnected) := by
    intro hl
    have hup : rtc.state.rank ≤ ConnState.iceConnected.rank := Nat.le_of_lt hrank
    have hlt : ConnState.iceConnected.rank < ConnState.connected.rank := by decide
    have hlate : ¬ ConnState.dtlsConnected.rank ≤ ConnState.iceConnected.rank := by decide
    have hsearch : rtc.ice.state ≠ .new ∧ rtc.ice.state ≠ .checking := by
      rw [hice]
      decide
    have hlayers : layers ((rtc.withIce ice).withState .iceConnected) =
        { layers rtc with state := .iceConnected } := by
      show (Layers.mk _ ice.state _ _ _ _ _ _ : Layers) = Layers.mk _ rtc.ice.state _ _ _ _ _ _
      rw [h, hice]
      rfl
    rw [hlayers]
    exact ⟨hl.advance rtc.dcNegotiated hup hlt (fun h => absurd h hlate) hsearch, hup⟩
  apply movesAt_set_bind
  · exact hset _ hice
  · apply MovesAt.bind (MovesAt.sound (layers_emitIceStateChange _))
    intro _ rtc' hemit
    apply sound_beginDtls
    exact congrArg Layers.state (layers_ok (layers_emitIceStateChange _) hemit)

theorem refreshConsent_state (wasPending : Bool) (src : NanortcAddr) (ice : NanoIce)
    (nowMs : UInt32) : (rtcRefreshConsent wasPending src ice nowMs).state = ice.state := by
  unfold rtcRefreshConsent
  dsimp only
  repeat' split
  all_goals rfl

theorem sound_receiveStun (data : List UInt8) (src : NanortcAddr) (localIdx : Nat)
    (viaTurn : Bool) : Moves Sound (rtcReceiveStun p data src localIdx viaTurn) := by
  have hice (room : Nat) : Moves Sound
      (onIce (fun ice => iceHandleStun p.crypto ice data src localIdx viaTurn room) :
        RtcM Ctx Rx (List UInt8)) := by
    intro rtc
    apply movesAt_onIce.mpr
    obtain h | h := iceStep_stun_state p.crypto rtc.ice data src localIdx viaTurn room
    · exact sound_of_same (layers_withIce h)
    · exact (calm_iceConnected h).sound
  have hrest (isRequest wasPending : Bool) (slot : Nat) : Moves Sound (do
      let room := if isRequest then txSlotSize else stunBufSize
      let packet ← onIce fun ice => iceHandleStun p.crypto ice data src localIdx viaTurn room
      modify fun rtc => rtc.withIce (rtcRefreshConsent wasPending src rtc.ice rtc.nowMs)
      if packet ≠ [] then
        if !isRequest then throw .protocol
        rtcSendStunResponse slot packet src localIdx viaTurn
      rtcIceConnected p src) := by
    intro rtc
    dsimp only
    apply MovesAt.bind (hice _ rtc)
    intro packet rtc₁ _
    apply movesAt_modify_bind
    · exact sound_of_same (layers_withIce (refreshConsent_state ..))
    apply MovesAt.ite
    · intro _
      apply MovesAt.ite
      · exact fun _ => movesAt_throw_bind _ _
      · intro _
        apply MovesAt.bind (MovesAt.sound (layers_sendStunResponse _ _ _ _ _ _))
        exact fun _ rtc₂ _ => sound_iceConnected p src rtc₂
    · exact fun _ => sound_iceConnected p src _
  intro rtc
  unfold rtcReceiveStun
  apply movesAt_get_bind.mpr
  dsimp only
  apply MovesAt.ite
  · intro hreq
    apply MovesAt.bind (MovesAt.sound (layers_txSlotAcquire rtc))
    exact fun slot rtc' _ => hrest _ _ slot rtc'
  · intro _
    exact hrest _ _ 0 rtc

/-! ### Media and dispatch -/

theorem layers_receiveMedia (data : List UInt8) : Moves (Same layers) (rtcReceiveMedia p data) := by
  intro rtc
  unfold rtcReceiveMedia
  apply movesAt_get_bind.mpr
  apply MovesAt.ite_pure
  intro _
  dsimp only
  apply movesAt_set_bind
  · exact rfl
  · have hevents (events : List MediaEvent) : Moves (Same layers)
        (events.forM fun ev => nanoRtcEmitEventFull ev.event : RtcM Ctx Rx PUnit) := by
      apply Moves.forM
      intro ev
      cases ev <;> exact layers_emit nofun nofun
    apply MovesAt.bind (hevents _ _)
    intro _ rtc' _
    apply MovesAt.ite_pure
    exact fun _ => movesAt_throw _

/-- The datagram is handled as a DTLS record. -/
def IsDtlsRecord (data : List UInt8) : Prop := 20 ≤ byteAt data 0 ∧ byteAt data 0 ≤ 63

theorem sound_receivePlain {data : List UInt8} {src : NanortcAddr} {rtc : Rtc Ctx Rx}
    (localIdx : Nat) (viaTurn : Bool)
    (h : IsDtlsRecord data → ¬ AbortDecrypted p e data src rtc) :
    MovesAt Sound (rtcReceivePlain p e data src localIdx viaTurn) rtc := by
  unfold rtcReceivePlain
  apply movesAt_get_bind.mpr
  dsimp only
  apply MovesAt.ite
  · intro _
    apply MovesAt.ite
    · exact fun _ => MovesAt.sound (layers_receiveTurn p data rtc)
    · intro _
      apply MovesAt.ite
      · exact fun _ => MovesAt.sound (layers_receiveSrflx data rtc)
      · exact fun _ => sound_receiveStun p data src localIdx viaTurn rtc
  · intro _
    apply MovesAt.ite
    · exact fun hdtls => sound_receiveDtls p e (h hdtls)
    · intro _
      apply MovesAt.ite
      · exact fun _ => MovesAt.sound (layers_receiveMedia p data rtc)
      · exact fun _ => movesAt_throw _

/-- Relay framing taken off, the datagram is a DTLS record with such an ABORT. -/
def AbortReceived (data : List UInt8) (src : NanortcAddr) (rtc : Rtc Ctx Rx) : Prop :=
  ∃ inner peer viaTurn,
    rtcInnermost rtc.toNanoRtc (data.length + 1) data src false = some (inner, peer, viaTurn) ∧
      IsDtlsRecord inner ∧ AbortDecrypted p e inner peer rtc

theorem sound_receive {data : List UInt8} {src : NanortcAddr} {rtc : Rtc Ctx Rx} (localIdx : Nat)
    (h : ¬ AbortReceived p e data src rtc) :
    MovesAt Sound (rtcReceive p e data src localIdx false) rtc := by
  unfold rtcReceive
  apply movesAt_get_bind.mpr
  split
  · exact movesAt_pure _
  · rename_i inner peer viaTurn hinner
    apply sound_receivePlain
    intro hdtls habort
    exact h ⟨inner, peer, viaTurn, hinner, hdtls, habort⟩

/-- The input carries an ABORT of the peer that an open session takes notice of. -/
def PeerAborts (rtc : Rtc Ctx Rx) (input : NanortcInput) : Prop :=
  input.data ≠ [] ∧ input.src.family ≠ 0 ∧
    ∃ rtc', rtcRun (rtcProcessTimers p e input.nowMs) (rtcSetTime p input.nowMs rtc) = (rtc', .ok) ∧
      AbortReceived p e input.data input.src rtc'

/-- A call of `nanortc_handle_input` keeps the invariant, unless consent expires once more after
the end or the peer's ABORT goes unnoticed. -/
theorem sound_handleInput {rtc : Rtc Ctx Rx} {input : NanortcInput}
    (hconsent : rtc.state = .closed → iceConsentExpired rtc.ice input.nowMs = false)
    (habort : ¬ PeerAborts p e rtc input) :
    Sound rtc (nanortcHandleInput p e rtc input).1 := by
  have htime : Sound rtc (rtcSetTime p input.nowMs rtc) := sound_of_same rfl
  have htimers : Sound (rtcSetTime p input.nowMs rtc)
      (rtcRun (rtcProcessTimers p e input.nowMs) (rtcSetTime p input.nowMs rtc)).1 := by
    rw [rtcRun_fst]
    exact sound_processTimers p e hconsent
  have habort (rtc' : Rtc Ctx Rx) (hdata : input.data ≠ [] ∧ input.src.family ≠ 0)
      (h : rtcRun (rtcProcessTimers p e input.nowMs) (rtcSetTime p input.nowMs rtc) = (rtc', .ok)) :
      ¬ AbortReceived p e input.data input.src rtc' :=
    fun hr => habort ⟨hdata.1, hdata.2, rtc', h, hr⟩
  have hstart := Trans.trans (r := Sound) (s := Sound) htime htimers
  unfold nanortcHandleInput
  revert hstart habort
  generalize rtcRun (rtcProcessTimers p e input.nowMs) (rtcSetTime p input.nowMs rtc) = r
  intro habort hstart
  split
  · rename_i rtc'
    split
    · rename_i hdata
      have hreceive : Sound rtc' (after (rtcReceive p e input.data input.src
          (rtcResolveLocalIdx rtc'.ice input.dst) false) rtc') :=
        sound_receive p e _ (habort rtc' hdata rfl)
      dsimp only
      rw [rtcRun_fst]
      exact Trans.trans (r := Sound) hstart hreceive
    · exact hstart
  · exact hstart

end Nanortc.Spec
