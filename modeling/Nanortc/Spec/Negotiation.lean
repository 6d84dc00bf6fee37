import Nanortc.Spec.RtcFrame
import Nanortc.Spec.SdpWriting

/-!
# Offer and answer

What the calls of a negotiation settle: the description, the tracks, DTLS and the ICE agent. The calls
act on these terms alone, so each of them is a function of the terms it finds.

## Key results

- `applyMedia_terms`: the tracks and payload types of a negotiation
- `acceptOffer_terms`, `createOffer_terms`, `acceptAnswer_terms`, `iceRestart_terms`: the calls as
  functions of the terms
-/

namespace Nanortc.Spec

open Nanortc.ForStd Nanortc.Native

variable {Ctx Rx : Type}

/-! ### Terms -/

/-- What a negotiation settles, with the state that it needs. -/
structure Terms (Ctx : Type) where
  state : ConnState
  ice : NanoIce
  dtls : NanoDtls Ctx
  sdp : NanoSdp
  media : List MediaTrack

/-- The terms of a connection. -/
def terms (rtc : Rtc Ctx Rx) : Terms Ctx := ⟨rtc.state, rtc.ice, rtc.dtls, rtc.sdp, rtc.media⟩

theorem terms_after_emit (e : NanortcEvent) (rtc : Rtc Ctx Rx) :
    terms (after (nanoRtcEmitEventFull e) rtc) = terms rtc := by
  show terms (if rtc.pendingEvents ≠ [] ∨ !rtcOutputHasSpace rtc.toNanoRtc then _ else _) = _
  split
  · rfl
  · unfold terms
    congr 1
    exact rtcEnqueueOutput_ice ..

/-- An event is always taken. -/
theorem emit_terms (e : NanortcEvent) (rtc : Rtc Ctx Rx) :
    ∃ rtc', nanoRtcEmitEventFull e rtc = .ok ⟨⟩ rtc' ∧ terms rtc' = terms rtc :=
  ⟨_, rfl, terms_after_emit e rtc⟩

/-- The track that a media line is bound to, in the tracks that then exist. -/
def boundTrack (media : List MediaTrack) (ml : SdpMline) : Option (Nat × List MediaTrack) :=
  match trackFindByMid media ml.mid with
  | some k => some (k, media)
  | none =>
    if media.length < maxMediaTracks then
      some (media.length, media ++
        [trackInit ml.mid ml.kind (directionComplement ml.remoteDirection) ml.sampleRate])
    else none

/-- The terms after a media line was applied to its track. -/
def negotiateMline (t : Terms Ctx) (i : Nat) : Terms Ctx :=
  match t.sdp.mlines[i]? with
  | none => t
  | some ml =>
    if ml.active then
      match boundTrack t.media ml with
      | none => t
      | some (k, media) =>
        let r := rtcNegotiateTrack ml (media.getD k default)
        { t with
          media := media.set k r.2
          sdp := { t.sdp with mlines := t.sdp.mlines.set i r.1 } }
    else t

/-- The terms after all media lines were applied. -/
def negotiateMedia (t : Terms Ctx) : Terms Ctx :=
  (List.range t.sdp.mlines.length).foldl negotiateMline t

theorem negotiateMline_unbound {t : Terms Ctx} {i : Nat} {ml : SdpMline}
    (hml : t.sdp.mlines[i]? = some ml) (hactive : ml.active = true)
    (hbound : boundTrack t.media ml = none) : negotiateMline t i = t := by
  unfold negotiateMline
  rw [hml]
  dsimp only
  rw [if_pos hactive, hbound]

theorem negotiateMline_bound {t : Terms Ctx} {i k : Nat} {ml : SdpMline} {media : List MediaTrack}
    (hml : t.sdp.mlines[i]? = some ml) (hactive : ml.active = true)
    (hbound : boundTrack t.media ml = some (k, media)) :
    negotiateMline t i = { t with
      media := media.set k (rtcNegotiateTrack ml (media.getD k default)).2
      sdp := { t.sdp with
        mlines := t.sdp.mlines.set i (rtcNegotiateTrack ml (media.getD k default)).1 } } := by
  unfold negotiateMline
  rw [hml]
  dsimp only
  rw [if_pos hactive, hbound]

theorem applyMline_terms (i : Nat) (rtc : Rtc Ctx Rx) :
    ∃ rtc', rtcApplyMline i rtc = .ok ⟨⟩ rtc' ∧ terms rtc' = negotiateMline (terms rtc) i := by
  unfold rtcApplyMline
  rw [bind_of_ok (show (get : RtcM Ctx Rx (Rtc Ctx Rx)) rtc = .ok rtc rtc from rfl)]
  cases hml : rtc.sdp.mlines[i]? with
  | none =>
    refine ⟨rtc, rfl, ?_⟩
    have hnone : (terms rtc).sdp.mlines[i]? = none := hml
    unfold negotiateMline
    rw [hnone]
  | some ml =>
    dsimp only
    by_cases hactive : ml.active = true
    · rw [if_pos hactive]
      cases hfound : trackFindByMid rtc.media ml.mid with
      | some k =>
        have hbound : boundTrack (terms rtc).media ml = some (k, rtc.media) := by
          unfold boundTrack
          rw [show trackFindByMid (terms rtc).media ml.mid = some k from hfound]
          rfl
        have hsome : (some k).isSome = true := rfl
        rw [if_pos (Or.inl hsome), negotiateMline_bound hml hactive hbound]
        exact ⟨_, rfl, rfl⟩
      | none =>
        by_cases hroom : rtc.media.length < maxMediaTracks
        · rw [if_pos (Or.inr hroom)]
          have hbound : boundTrack (terms rtc).media ml = some (rtc.media.length, rtc.media ++
              [trackInit ml.mid ml.kind (directionComplement ml.remoteDirection) ml.sampleRate]) := by
            unfold boundTrack
            rw [show trackFindByMid (terms rtc).media ml.mid = none from hfound]
            exact if_pos hroom
          rw [negotiateMline_bound hml hactive hbound]
          -- the event is raised between the new track and its terms
          obtain ⟨rtc₁, hset, hmedia₁⟩ : ∃ rtc₁, (set (rtc.withMedia { rtc.toMediaRtc with
              media := rtc.media ++ [trackInit ml.mid ml.kind (directionComplement
                ml.remoteDirection) ml.sampleRate] }) : RtcM Ctx Rx PUnit) rtc = .ok ⟨⟩ rtc₁ ∧
              terms rtc₁ = { terms rtc with media := rtc.media ++ [trackInit ml.mid ml.kind
                (directionComplement ml.remoteDirection) ml.sampleRate] } := ⟨_, rfl, rfl⟩
          obtain ⟨rtc₂, hemit, hterms⟩ := emit_terms ⟨.mediaAdded, ml.mid.toNat⟩ rtc₁
          have hnone : (none : Option Nat).isNone = true := rfl
          rw [if_pos hnone, bind_of_ok hset, bind_of_ok hemit]
          rw [hmedia₁] at hterms
          have hmedia : rtc₂.media = _ := congrArg Terms.media hterms
          have hsdp : rtc₂.sdp = rtc.sdp := congrArg Terms.sdp hterms
          have hlast : rtc₂.media.length - 1 = rtc.media.length := by
            rw [hmedia, List.length_append]
            rfl
          refine ⟨_, rfl, ?_⟩
          show { terms rtc₂ with
            media := rtc₂.media.set (rtc₂.media.length - 1) (rtcNegotiateTrack ml
              (rtc₂.media.getD (rtc₂.media.length - 1) default)).2
            sdp := { rtc₂.sdp with mlines := rtc₂.sdp.mlines.set i (rtcNegotiateTrack ml
              (rtc₂.media.getD (rtc₂.media.length - 1) default)).1 } } = _
          rw [hlast, hmedia, hsdp, hterms]
          rfl
        · rw [if_neg (fun h => h.elim nofun hroom)]
          have hbound : boundTrack (terms rtc).media ml = none := by
            unfold boundTrack
            rw [show trackFindByMid (terms rtc).media ml.mid = none from hfound]
            exact if_neg hroom
          exact ⟨rtc, rfl, (negotiateMline_unbound hml hactive hbound).symm⟩
    · rw [if_neg hactive]
      refine ⟨rtc, rfl, ?_⟩
      have hsome : (terms rtc).sdp.mlines[i]? = some ml := hml
      unfold negotiateMline
      rw [hsome]
      exact (if_neg hactive).symm

/-- The media line without what the negotiation writes into it. -/
def SdpMline.offered (ml : SdpMline) : SdpMline := { ml with direction := .sendrecv, pt := 0 }

theorem negotiateTrack_offered (ml : SdpMline) (m : MediaTrack) :
    SdpMline.offered (rtcNegotiateTrack ml m).1 = SdpMline.offered ml := by
  unfold rtcNegotiateTrack
  dsimp only
  split
  · rfl
  · by_cases hpt : ml.remotePt ≠ 0
    · simp only [if_pos hpt]
      split <;> rfl
    · simp only [if_neg hpt]
      split <;> rfl

/-- The terms differ at most in their tracks and in directions and payload types of media lines. -/
def SameButMedia (t t' : Terms Ctx) : Prop :=
  t' = { t with media := t'.media, sdp := { t.sdp with mlines := t'.sdp.mlines } } ∧
    t'.sdp.mlines.map SdpMline.offered = t.sdp.mlines.map SdpMline.offered

theorem SameButMedia.refl (t : Terms Ctx) : SameButMedia t t := ⟨rfl, rfl⟩

theorem SameButMedia.trans {a b c : Terms Ctx} (h : SameButMedia a b) (h' : SameButMedia b c) :
    SameButMedia a c := by
  refine ⟨?_, h'.2.trans h.2⟩
  rw [h'.1, h.1]

theorem sameButMedia_mline (t : Terms Ctx) (i : Nat) : SameButMedia t (negotiateMline t i) := by
  unfold negotiateMline
  cases hml : t.sdp.mlines[i]? with
  | none => exact .refl t
  | some ml =>
    dsimp only
    split
    · cases boundTrack t.media ml with
      | none => exact .refl t
      | some r =>
        obtain ⟨k, media⟩ := r
        refine ⟨rfl, ?_⟩
        dsimp only
        obtain ⟨hi, hget⟩ := List.getElem?_eq_some_iff.mp hml
        rw [List.map_set, negotiateTrack_offered, ← hget, ← List.getElem_map SdpMline.offered]
        · exact List.set_getElem_self ..
        · rw [List.length_map]
          exact hi
    · exact .refl t

/-- Applying the media lines changes tracks, directions and payload types. -/
theorem sameButMedia_negotiate (t : Terms Ctx) : SameButMedia t (negotiateMedia t) :=
  List.foldlRecOn (motive := SameButMedia t) _ negotiateMline (.refl t)
    fun t' h i _ => h.trans (sameButMedia_mline t' i)

/-! ### Steps of a negotiation -/

/-- What an action makes of the terms, and its result. -/
def outcome {α : Type} (m : RtcM Ctx Rx α) (rtc : Rtc Ctx Rx) : Terms Ctx × Except Rc α :=
  match m rtc with
  | .ok a rtc => (terms rtc, .ok a)
  | .error rc rtc => (terms rtc, .error rc)

/-- The action is a function of the terms. -/
def ActsAs {α : Type} (m : RtcM Ctx Rx α) (f : Terms Ctx → Terms Ctx × Except Rc α) : Prop :=
  ∀ rtc, outcome m rtc = f (terms rtc)

/-- A second step on what the first one left. -/
def andThen {α β : Type} (f : Terms Ctx → Terms Ctx × Except Rc α)
    (g : α → Terms Ctx → Terms Ctx × Except Rc β) (t : Terms Ctx) : Terms Ctx × Except Rc β :=
  match f t with
  | (t, .ok a) => g a t
  | (t, .error rc) => (t, .error rc)

/-- Two actions in sequence. -/
theorem ActsAs.bind {α β : Type} {m : RtcM Ctx Rx α} {k : α → RtcM Ctx Rx β}
    {f : Terms Ctx → Terms Ctx × Except Rc α} {g : α → Terms Ctx → Terms Ctx × Except Rc β}
    (hm : ActsAs m f) (hk : ∀ a, ActsAs (k a) (g a)) : ActsAs (m >>= k) (andThen f g) := by
  intro rtc
  have hrtc := hm rtc
  unfold andThen
  rw [← hrtc]
  show (match EStateM.bind m k rtc with
    | .ok a rtc => (terms rtc, Except.ok a)
    | .error rc rtc => (terms rtc, Except.error rc)) = _
  unfold EStateM.bind outcome
  cases m rtc with
  | ok a rtc' => exact hk a rtc'
  | error rc rtc' => rfl

theorem andThen_assoc {α β γ : Type} (f : Terms Ctx → Terms Ctx × Except Rc α)
    (g : α → Terms Ctx → Terms Ctx × Except Rc β) (h : β → Terms Ctx → Terms Ctx × Except Rc γ) :
    andThen (andThen f g) h = andThen f fun a => andThen (g a) h := by
  funext t
  unfold andThen
  cases f t with
  | mk t r => cases r <;> rfl

/-- An action that looks at the terms first. -/
theorem actsAs_get {α β : Type} {v : Rtc Ctx Rx → β} {w : Terms Ctx → β} {k : β → RtcM Ctx Rx α}
    {f : β → Terms Ctx → Terms Ctx × Except Rc α} (hv : ∀ rtc, v rtc = w (terms rtc))
    (hk : ∀ b, ActsAs (k b) (f b)) :
    ActsAs (do
      let rtc ← get
      k (v rtc)) fun t => f (w t) t := by
  intro rtc
  show outcome (k (v rtc)) rtc = _
  rw [hv]
  exact hk _ rtc

theorem actsAs_pure {α : Type} (a : α) : ActsAs (pure a : RtcM Ctx Rx α) fun t => (t, .ok a) :=
  fun _ => rfl

/-- A change of the state that the terms follow. -/
theorem actsAs_modify {f : Rtc Ctx Rx → Rtc Ctx Rx} {g : Terms Ctx → Terms Ctx}
    (h : ∀ rtc, terms (f rtc) = g (terms rtc)) :
    ActsAs (modify f : RtcM Ctx Rx PUnit) fun t => (g t, .ok ⟨⟩) := by
  intro rtc
  show (terms (f rtc), Except.ok _) = _
  rw [h]

theorem applyMedia_terms :
    ActsAs (rtcApplyNegotiatedMedia : RtcM Ctx Rx Unit) fun t => (negotiateMedia t, .ok ()) := by
  have hlines (is : List Nat) (rtc : Rtc Ctx Rx) : ∃ rtc', is.forM rtcApplyMline rtc = .ok ⟨⟩ rtc' ∧
      terms rtc' = is.foldl negotiateMline (terms rtc) := by
    induction is generalizing rtc with
    | nil => exact ⟨rtc, rfl, rfl⟩
    | cons i is ih =>
      obtain ⟨rtc₁, hline, hterms₁⟩ := applyMline_terms i rtc
      obtain ⟨rtc₂, hrest, hterms₂⟩ := ih rtc₁
      refine ⟨rtc₂, ?_, ?_⟩
      · show (rtcApplyMline i >>= fun _ => is.forM rtcApplyMline) rtc = _
        rw [bind_of_ok hline, hrest]
      · rw [hterms₂, hterms₁]
        rfl
  intro rtc
  obtain ⟨rtc', hmedia, hterms⟩ := hlines (List.range rtc.sdp.mlines.length) rtc
  have hmedia : rtcApplyNegotiatedMedia rtc = .ok () rtc' := hmedia
  unfold outcome
  rw [hmedia]
  exact congrArg (·, Except.ok ()) hterms

/-- The terms with credentials drawn for a negotiation. -/
def drawCredentials (t : Terms Ctx) (c : List UInt8 × List UInt8) : Terms Ctx :=
  let ufrag := hexText (c.1.take 4)
  let pwd := hexText (c.2.take 11)
  { t with
    ice := { t.ice with localUfrag := ufrag.bytes, localPwd := pwd.bytes }
    sdp := { t.sdp with localUfrag := ufrag, localPwd := pwd } }

/-- The terms with the credentials of the description applied. -/
def applyRemote (t : Terms Ctx) : Terms Ctx :=
  { t with ice := { t.ice with
    remoteUfrag := t.sdp.remoteUfrag.take (iceRemoteUfragSize - 1)
    remotePwd := t.sdp.remotePwd } }

/-- The terms with the candidates of the description in the agent. -/
def addCandidates (t : Terms Ctx) : Terms Ctx :=
  let ice := t.sdp.remoteCandidates.foldl
    (fun ice c =>
      match candidateParse (c.addr ++ [0x20] ++ (decimal c.port.toNat).bytes) with
      | .error _ => ice
      | .ok c => (iceAddRemote ice c).1)
    t.ice
  { t with ice := { ice with endOfCandidates := ice.endOfCandidates || t.sdp.endOfCandidates } }

/-- The description with the fingerprint of DTLS, where it has none. -/
def cacheFingerprint (sdp : NanoSdp) (fp : LineText) : NanoSdp :=
  if sdp.localFingerprint ≠ .nil ∨ fp = .nil then sdp
  else if 8 + fp.bytes.length < sdpFingerprintSize then
    { sdp with localFingerprint := .lit "sha-256 " ++ fp }
  else sdp

variable (p : Platform Ctx Rx)

/-- The terms with DTLS set up in a role. -/
def earlyDtls (isServer : Bool) (t : Terms Ctx) : Terms Ctx × Except Rc Unit :=
  if t.dtls.cryptoCtx.isNone then
    match dtlsInit p.dtls isServer with
    | (dtls, .ok) =>
      ({ t with dtls := dtls, sdp := cacheFingerprint t.sdp dtls.localFingerprint }, .ok ())
    | (dtls, rc) => ({ t with dtls := dtls }, .error rc)
  else (t, .ok ())

/-- The description written from the terms. -/
def generate (bufLen : Nat) (t : Terms Ctx) : Terms Ctx × Except Rc (List UInt8) :=
  let r := sdpGenerateAnswer t.sdp bufLen
  ({ t with sdp := r.1 }, r.2)

/-- DTLS set up in a role, and the description written. -/
def describe (isServer : Bool) (bufLen : Nat) : Terms Ctx → Terms Ctx × Except Rc (List UInt8) :=
  andThen (earlyDtls p isServer) fun _ => generate bufLen

/-- The setup of an answer. -/
def answererSetup (offered : SdpSetup) : SdpSetup := if offered = .passive then .active else .passive

/-- The setup of an offerer that has its answer. -/
def offererSetup (answered : SdpSetup) : SdpSetup := if answered = .active then .passive else .active

/-- The terms that an answer is written from. -/
def answerTerms (t : Terms Ctx) : Terms Ctx :=
  let t := negotiateMedia (applyRemote t)
  { t with sdp := { t.sdp with localSetup := answererSetup t.sdp.remoteSetup } }

/-- The description parsed into the terms. -/
def parseInto (text : List UInt8) (t : Terms Ctx) : Terms Ctx × Except Rc Unit :=
  match sdpParse t.sdp text with
  | (sdp, .ok) => ({ t with sdp := sdp }, .ok ())
  | (sdp, rc) => ({ t with sdp := sdp }, .error rc)

/-- `nanortc_accept_offer` on the terms. -/
def offerTerms (e : Entropy) (offer : List UInt8) (bufLen : Nat) (t : Terms Ctx) :
    Terms Ctx × Except Rc (List UInt8) :=
  if t.state ≠ .new then (t, .error .state)
  else
    match e.credentials with
    | none => (t, .error .crypto)
    | some c =>
      andThen (parseInto (cText offer)) (fun _ t =>
        andThen
          (fun t => describe p (t.sdp.localSetup == .passive) bufLen t)
          (fun answer t => (addCandidates t, .ok answer)) (answerTerms t)) (drawCredentials t c)

/-- `nanortc_create_offer` on the terms. -/
def createTerms (e : Entropy) (bufLen : Nat) (t : Terms Ctx) :
    Terms Ctx × Except Rc (List UInt8) :=
  if t.state ≠ .new then (t, .error .state)
  else
    match e.credentials with
    | none => (t, .error .crypto)
    | some c =>
      let t := drawCredentials t c
      describe p false bufLen { t with sdp := { t.sdp with localSetup := .actpass } }

/-- The terms with the role that an answer settles. -/
def settleRole (t : Terms Ctx) : Terms Ctx :=
  let setup := offererSetup t.sdp.remoteSetup
  let isServer := setup == .passive
  let dtls := if t.dtls.cryptoCtx.isSome then
      { t.dtls with
        cryptoCtx := t.dtls.cryptoCtx.map (p.dtls.setRole · isServer), isServer := isServer }
    else t.dtls
  { t with sdp := { t.sdp with localSetup := setup }, dtls := dtls }

/-- `nanortc_accept_answer` on the terms. -/
def answeredTerms (answer : List UInt8) (t : Terms Ctx) : Terms Ctx × Except Rc Unit :=
  if t.state ≠ .new then (t, .error .state)
  else
    andThen (parseInto (cText answer))
      (fun _ t => (addCandidates (negotiateMedia (settleRole p (applyRemote t))), .ok ())) t

/-- `nanortc_ice_restart` on the terms. -/
def restartTerms (e : Entropy) (t : Terms Ctx) : Terms Ctx × Except Rc Unit :=
  match e.credentials with
  | none => (t, .error .crypto)
  | some c =>
    (drawCredentials
      { t with
        state := .new
        ice := iceRestart t.ice
        dtls := { dtlsDestroy t.dtls with localFingerprint := .nil }
        sdp := { t.sdp with
          localFingerprint := .nil, remoteCandidates := [], endOfCandidates := false } } c, .ok ())

/-! ### The calls on the terms -/

theorem cacheFingerprint_terms (rtc : Rtc Ctx Rx) :
    terms (nanoRtcCacheFingerprint rtc) =
      { terms rtc with sdp := cacheFingerprint rtc.sdp rtc.dtls.localFingerprint } := by
  unfold nanoRtcCacheFingerprint cacheFingerprint
  dsimp only
  split
  · rfl
  split <;> rfl

theorem earlyDtls_terms (isServer : Bool) : ActsAs (rtcEarlyDtls p isServer) (earlyDtls p isServer) := by
  intro rtc
  unfold earlyDtls
  show outcome (if rtc.dtls.cryptoCtx.isNone then _ else _ : RtcM Ctx Rx Unit) rtc =
    if rtc.dtls.cryptoCtx.isNone then _ else _
  by_cases hnone : rtc.dtls.cryptoCtx.isNone = true
  · rw [if_pos hnone, if_pos hnone]
    show outcome (onDtls (fun _ => dtlsInit p.dtls isServer) >>= fun _ =>
      modify nanoRtcCacheFingerprint) rtc = _
    unfold outcome onDtls dtlsInit
    simp only [bind, EStateM.bind]
    cases p.dtls.ctxNew isServer with
    | none => rfl
    | some ctx => exact congrArg (·, Except.ok ()) (cacheFingerprint_terms _)
  · rw [if_neg hnone, if_neg hnone]
    rfl

theorem sdpGenerate_terms (bufLen : Nat) :
    ActsAs (rtcSdpGenerate bufLen : RtcM Ctx Rx (List UInt8)) (generate bufLen) := by
  intro rtc
  unfold outcome rtcSdpGenerate generate
  show _ = ({ terms rtc with sdp := (sdpGenerateAnswer rtc.sdp bufLen).1 },
    (sdpGenerateAnswer rtc.sdp bufLen).2)
  cases sdpGenerateAnswer rtc.sdp bufLen with
  | mk sdp text => cases text <;> rfl

theorem sdpParse_terms (text : List UInt8) :
    ActsAs (rtcSdpParse text : RtcM Ctx Rx Unit) (parseInto text) := by
  intro rtc
  unfold outcome rtcSdpParse parseInto
  show _ = match sdpParse rtc.sdp text with | (sdp, .ok) => _ | (sdp, rc) => _
  cases sdpParse rtc.sdp text with
  | mk sdp rc => cases rc <;> rfl

/-- A call that needs a connection in state NEW. -/
theorem actsAs_whenNew {α : Type} {m : RtcM Ctx Rx α} {f : Terms Ctx → Terms Ctx × Except Rc α}
    (h : ActsAs m f) :
    ActsAs (do
      if (← get).state ≠ .new then throw .state
      m) fun t => if t.state ≠ .new then (t, .error .state) else f t := by
  intro rtc
  show outcome (if rtc.state ≠ .new then throw .state >>= fun _ => m else m) rtc =
    if rtc.state ≠ .new then _ else _
  by_cases hnew : rtc.state ≠ .new
  · rw [if_pos hnew, if_pos hnew]
    rfl
  · rw [if_neg hnew, if_neg hnew]
    exact h rtc

/-- A call that starts with credentials drawn. -/
theorem actsAs_credentials {α : Type} {m : RtcM Ctx Rx α} {f : Terms Ctx → Terms Ctx × Except Rc α}
    (e : Entropy) (h : ActsAs m f) :
    ActsAs (do
      rtcGenerateIceCredentials e.credentials
      m) fun t =>
        match e.credentials with
        | none => (t, .error .crypto)
        | some c => f (drawCredentials t c) := by
  intro rtc
  unfold rtcGenerateIceCredentials
  cases e.credentials with
  | none => rfl
  | some c => exact h (rtcSetCredentials rtc c.1 c.2)

theorem describe_terms (isServer : Bool) (bufLen : Nat) :
    ActsAs (do
      rtcEarlyDtls p isServer
      rtcSdpGenerate bufLen) (describe p isServer bufLen) :=
  (earlyDtls_terms p isServer).bind fun _ => sdpGenerate_terms bufLen

theorem createOffer_terms (e : Entropy) (bufLen : Nat) :
    ActsAs (nanortcCreateOffer p e bufLen) (createTerms p e bufLen) := by
  have hsetup : ActsAs (modify fun rtc : Rtc Ctx Rx =>
      { rtc with sdp := { rtc.sdp with localSetup := .actpass } })
      fun t => ({ t with sdp := { t.sdp with localSetup := .actpass } }, .ok ⟨⟩) :=
    actsAs_modify fun _ => rfl
  exact actsAs_whenNew (actsAs_credentials e (hsetup.bind fun _ => describe_terms p false bufLen))

theorem addCandidates_terms (rtc : Rtc Ctx Rx) :
    terms (rtcAddSdpCandidates rtc) = addCandidates (terms rtc) := rfl

theorem acceptOffer_terms (e : Entropy) (offer : List UInt8) (bufLen : Nat) :
    ActsAs (nanortcAcceptOffer p e offer bufLen) (offerTerms p e offer bufLen) := by
  have hremote : ActsAs (modify (rtcApplyRemoteSdp : Rtc Ctx Rx → Rtc Ctx Rx))
      fun t => (applyRemote t, .ok ⟨⟩) := actsAs_modify fun _ => rfl
  have hcandidates : ActsAs (modify (rtcAddSdpCandidates : Rtc Ctx Rx → Rtc Ctx Rx))
      fun t => (addCandidates t, .ok ⟨⟩) := actsAs_modify addCandidates_terms
  have hsetup : ActsAs (modify fun rtc : Rtc Ctx Rx =>
      let setup : SdpSetup := if rtc.sdp.remoteSetup = .passive then .active else .passive
      { rtc with sdp := { rtc.sdp with localSetup := setup } })
      fun t => ({ t with sdp := { t.sdp with
        localSetup := answererSetup t.sdp.remoteSetup } }, .ok ⟨⟩) :=
    actsAs_modify fun _ => rfl
  have hanswer (isServer : Bool) : ActsAs (do
      rtcEarlyDtls p isServer
      let answer ← rtcSdpGenerate bufLen
      modify (rtcAddSdpCandidates : Rtc Ctx Rx → Rtc Ctx Rx)
      return answer) (andThen (describe p isServer bufLen) fun answer t =>
        (addCandidates t, .ok answer)) := by
    unfold describe
    rw [andThen_assoc]
    exact (earlyDtls_terms p isServer).bind fun _ => (sdpGenerate_terms bufLen).bind fun answer =>
      hcandidates.bind fun _ => actsAs_pure answer
  have hdescribe := actsAs_get (v := fun rtc : Rtc Ctx Rx => rtc.sdp.localSetup == .passive)
    (w := fun t => t.sdp.localSetup == .passive) (fun _ => rfl) hanswer
  exact actsAs_whenNew (actsAs_credentials e ((sdpParse_terms _).bind fun _ =>
    hremote.bind fun _ => applyMedia_terms.bind fun _ => hsetup.bind fun _ => hdescribe))

theorem acceptAnswer_terms (answer : List UInt8) :
    ActsAs (nanortcAcceptAnswer p answer) (answeredTerms p answer) := by
  have hremote : ActsAs (modify (rtcApplyRemoteSdp : Rtc Ctx Rx → Rtc Ctx Rx))
      fun t => (applyRemote t, .ok ⟨⟩) := actsAs_modify fun _ => rfl
  have hcandidates : ActsAs (modify (rtcAddSdpCandidates : Rtc Ctx Rx → Rtc Ctx Rx))
      fun t => (addCandidates t, .ok ⟨⟩) := actsAs_modify addCandidates_terms
  have hrole : ActsAs (modify fun rtc : Rtc Ctx Rx =>
      let setup : SdpSetup := if rtc.sdp.remoteSetup = .active then .passive else .active
      let isServer := setup == .passive
      let dtls := if rtc.dtls.cryptoCtx.isSome then
          { rtc.dtls with
            cryptoCtx := rtc.dtls.cryptoCtx.map (p.dtls.setRole · isServer), isServer := isServer }
        else rtc.dtls
      { rtc with sdp := { rtc.sdp with localSetup := setup }, dtls := dtls })
      fun t => (settleRole p t, .ok ⟨⟩) := actsAs_modify fun _ => rfl
  exact actsAs_whenNew ((sdpParse_terms _).bind fun _ => hremote.bind fun _ =>
    hrole.bind fun _ => applyMedia_terms.bind fun _ => hcandidates)

theorem iceRestart_terms (e : Entropy) :
    ActsAs (nanortcIceRestart e : RtcM Ctx Rx Unit) (restartTerms e) := by
  intro rtc
  unfold nanortcIceRestart restartTerms
  cases e.credentials with
  | none => rfl
  | some c =>
    have hemit : ActsAs (emitIceStateChange : RtcM Ctx Rx Unit) fun t => (t, .ok ()) := by
      intro rtc
      obtain ⟨rtc', hemit, hterms⟩ := emit_terms ⟨.iceStateChange, 0⟩ rtc
      have hemit : emitIceStateChange rtc = .ok () rtc' := hemit
      unfold outcome
      rw [hemit, ← hterms]
    have hrestart : ActsAs (modify fun rtc : Rtc Ctx Rx =>
        let out := { rtc.toNanoRtc with
          ice := iceRestart rtc.ice, turn := turnResetPeerState rtc.turn }
        let rtc := { (rtc.withOut out).withState .new with
          dtls := { dtlsDestroy rtc.dtls with localFingerprint := .nil }
          sdp := { rtc.sdp with
            localFingerprint := .nil, remoteCandidates := [], endOfCandidates := false }
          emitted := [] }
        rtcSetCredentials rtc c.1 c.2)
        fun t => (drawCredentials
          { t with
            state := .new
            ice := iceRestart t.ice
            dtls := { dtlsDestroy t.dtls with localFingerprint := .nil }
            sdp := { t.sdp with
              localFingerprint := .nil, remoteCandidates := [], endOfCandidates := false } } c,
          .ok ⟨⟩) :=
      actsAs_modify fun _ => rfl
    exact (hrestart.bind fun _ => hemit) rtc

end Nanortc.Spec
