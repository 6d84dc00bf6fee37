import Nanortc.Spec.SctpHandshake

/-!
# Establishing an association

An association is established by one of two exchanges: the peer's INIT is answered and the cookie
minted for it comes back, or an own INIT is answered by INIT-ACK and the COOKIE-ECHO by COOKIE-ACK.
The history variable follows the exchange. A COOKIE-ECHO is compared with a cookie computed from
whatever secret and tag the association holds, so a fresh association takes eight zero bytes.

## Key results

- `Exchanged.handle`: what each chunk does to the exchange
- `established_by_exchange`: over every run, the tags are those of a completed exchange
-/

namespace Nanortc.Spec

open Nanortc.ForStd Nanortc.Native

/-! ### What does not touch the tags -/

/-- Neither tag nor the cookie secret changes, and no other state than CLOSED is entered. -/
structure KeepsTags (s s' : NanoSctp) : Prop where
  localVtag : s'.localVtag = s.localVtag
  remoteVtag : s'.remoteVtag = s.remoteVtag
  cookieSecret : s'.cookieSecret = s.cookieSecret
  state : s'.state = s.state ∨ s'.state = .closed

theorem KeepsTags.refl (s : NanoSctp) : KeepsTags s s := ⟨rfl, rfl, rfl, .inl rfl⟩

theorem KeepsTags.trans {s s' s'' : NanoSctp} (h : KeepsTags s s') (h' : KeepsTags s' s'') :
    KeepsTags s s'' := by
  refine ⟨h'.localVtag.trans h.localVtag, h'.remoteVtag.trans h.remoteVtag,
    h'.cookieSecret.trans h.cookieSecret, ?_⟩
  cases h'.state with
  | inl heq => exact heq ▸ h.state
  | inr heq => exact .inr heq

/-- The timeout handler, like all that sends, touches none of the tags. -/
theorem keepsTags_timer : TimerRule KeepsTags where
  refl := .refl
  trans := .trans
  output _ _ := ⟨rfl, rfl, rfl, .inl rfl⟩
  sack _ := ⟨rfl, rfl, rfl, .inl rfl⟩
  sent _ _ _ _ _ := ⟨rfl, rfl, rfl, .inl rfl⟩
  abandon _ _ := ⟨rfl, rfl, rfl, .inl rfl⟩
  forward _ _ _ := ⟨rfl, rfl, rfl, .inl rfl⟩
  clock _ _ := ⟨rfl, rfl, rfl, .inl rfl⟩
  backoff _ := ⟨rfl, rfl, rfl, .inl rfl⟩
  fail _ := ⟨rfl, rfl, rfl, .inr rfl⟩
  heartbeat _ _ _ _ := ⟨rfl, rfl, rfl, .inl rfl⟩

theorem keepsTags_recv (s : NanoSctp) (recv : SctpRecv) (streams : List SctpStream) :
    KeepsTags s { s with recv := recv, streams := streams } := ⟨rfl, rfl, rfl, .inl rfl⟩

theorem nsctpQueueOutput_tags (s : NanoSctp) (vtag : UInt32) (chunk : List UInt8) :
    KeepsTags s (nsctpQueueOutput s vtag chunk) :=
  keepsTags_timer.queueOutput s vtag chunk

/-! ### The exchange -/

/-- The tags and the cookie of an INIT-ACK. -/
structure Mint where
  localVtag : UInt32
  remoteVtag : UInt32
  cookie : List UInt8
deriving Repr, DecidableEq

/-- The exchange an association goes through: the tag of the INIT it sent, the INIT it answered
since with the cookie minted for it, the tags that an INIT-ACK to its own INIT left, and the tags of
the exchange that established it. `expected` says that every COOKIE-ECHO it took outside
ESTABLISHED found an answered INIT, and that no INIT changed the peer's tag after the handshake. -/
structure ExchangeLog where
  started : Option UInt32 := none
  minted : Option Mint := none
  acked : Option (UInt32 × UInt32) := none
  completed : Option (UInt32 × UInt32) := none
  expected : Bool := true
deriving DecidableEq

/-- A COOKIE-ECHO chunk that the association takes. -/
def nsctpTakesEcho (s : NanoSctp) (chunk : List UInt8) : Bool :=
  let received := chunk.drop sctpChunkHdrSize
  decide (8 ≤ received.length) && received.take 8 == nsctpCookie s.cookieSecret s.remoteVtag

/-- An INIT chunk leaves the peer's tag as it is, or no tags are agreed on. -/
def nsctpInitKeepsTag (s : NanoSctp) (init : NsctpInit) : Bool :=
  (s.state != .established && s.state != .cookieEchoed) || init.initiateTag == s.remoteVtag

/-- A processed chunk's part in the exchange. -/
def exchangeChunk (g : ExchangeLog) (s : NanoSctp) (random : Option AssociationSeed)
    (chunk : List UInt8) (s' : NanoSctp) : ExchangeLog :=
  match SctpChunkType.ofType (byteAt chunk 0) with
  | .init =>
    match nsctpParseInit chunk with
    | none => g
    | some init =>
      if s.localVtag = 0 ∧ random = none then g
      else { g with
        minted := some ⟨s'.localVtag, init.initiateTag,
          nsctpCookie s'.cookieSecret init.initiateTag⟩
        expected := g.expected && nsctpInitKeepsTag s init }
  | .initAck =>
    if s.state = .cookieWait ∧ s'.state = .cookieEchoed then
      { g with minted := none, acked := g.started.map fun tag => (tag, s'.remoteVtag) }
    else g
  | .cookieEcho =>
    if nsctpTakesEcho s chunk then
      match g.minted with
      | some m =>
        if (chunk.drop sctpChunkHdrSize).take 8 = m.cookie then
          { g with completed := some (m.localVtag, m.remoteVtag) }
        else g
      | none => { g with expected := g.expected && s.state == .established }
    else g
  | .cookieAck => if s.state = .cookieEchoed then { g with completed := g.acked } else g
  | _ => g

/-- An exchange is completed as long as the association is established. -/
def ExchangeLog.endIn (g : ExchangeLog) (state : SctpState) : ExchangeLog :=
  if state = .established then g else { g with completed := none }

/-- The exchange along a run; an INIT of the application starts a new one. -/
def exchangeHistory : History ExchangeLog where
  chunk g s random chunk s' := (exchangeChunk g s random chunk s').endIn s'.state
  call g s i :=
    let g := match i with
      | .start random =>
        if (nsctpStart s random).2 = Rc.ok then
          { g with started := some (nsctpStart s random).1.localVtag, minted := none, acked := none }
        else g
      | _ => g
    g.endIn (sctpStep s i).state

/-- The association's tags are those of the exchange it goes through. -/
structure Exchanged (s : NanoSctp) (g : ExchangeLog) : Prop where
  minted : ∀ m, g.minted = some m → m.localVtag = s.localVtag ∧ m.remoteVtag = s.remoteVtag ∧
    m.cookie = nsctpCookie s.cookieSecret s.remoteVtag ∧ s.localVtag ≠ 0
  waiting : s.state = .cookieWait → g.started = some s.localVtag ∧ s.localVtag ≠ 0
  echoed : g.expected = true → s.state = .cookieEchoed →
    g.acked = some (s.localVtag, s.remoteVtag) ∧ s.localVtag ≠ 0
  completed : g.expected = true → s.state = .established →
    g.completed = some (s.localVtag, s.remoteVtag) ∧ s.localVtag ≠ 0

theorem Exchanged.endIn {s : NanoSctp} {g : ExchangeLog} (h : Exchanged s g) :
    Exchanged s (g.endIn s.state) := by
  unfold ExchangeLog.endIn
  split
  · exact h
  · rename_i hstate
    exact ⟨h.minted, h.waiting, h.echoed, fun _ hest => absurd hest hstate⟩

theorem Exchanged.keeps {s s' : NanoSctp} {g : ExchangeLog} (h : Exchanged s g)
    (hk : KeepsTags s s') : Exchanged s' g := by
  have hstate (state : SctpState) (hne : state ≠ .closed) (heq : s'.state = state) :
      s.state = state := by
    cases hk.state with
    | inl hsame => exact hsame ▸ heq
    | inr hclosed => exact absurd (heq.symm.trans hclosed) hne
  refine ⟨fun m hm => ?_, fun heq => ?_, fun hexp heq => ?_, fun hexp heq => ?_⟩
  · rw [hk.localVtag, hk.remoteVtag, hk.cookieSecret]
    exact h.minted m hm
  · rw [hk.localVtag]
    exact h.waiting (hstate _ nofun heq)
  · rw [hk.localVtag, hk.remoteVtag]
    exact h.echoed hexp (hstate _ nofun heq)
  · rw [hk.localVtag, hk.remoteVtag]
    exact h.completed hexp (hstate _ nofun heq)

/-- What an INIT chunk does to tags and secret, if it is answered. -/
theorem nsctpHandleInit_tags (s : NanoSctp) (random : Option AssociationSeed) (chunk : List UInt8)
    (hdr : NsctpHeader) :
    (nsctpHandleInit s random chunk hdr).1.state = s.state ∧
    match nsctpParseInit chunk with
    | none => (nsctpHandleInit s random chunk hdr).1 = s
    | some init =>
      if s.localVtag = 0 ∧ random = none then (nsctpHandleInit s random chunk hdr).1 = s
      else
        (nsctpHandleInit s random chunk hdr).1.remoteVtag = init.initiateTag ∧
        (nsctpHandleInit s random chunk hdr).1.localVtag ≠ 0 ∧
        (s.localVtag ≠ 0 → (nsctpHandleInit s random chunk hdr).1.localVtag = s.localVtag) := by
  unfold nsctpHandleInit
  cases nsctpParseInit chunk with
  | none => exact ⟨rfl, rfl⟩
  | some init =>
    dsimp only
    by_cases hv : s.localVtag = 0
    · rw [if_pos hv]
      cases random with
      | none =>
        rw [if_pos ⟨hv, rfl⟩]
        exact ⟨rfl, rfl⟩
      | some seed =>
        rw [if_neg fun h => nomatch h.2]
        unfold nsctpGenerateAssociationSeed
        dsimp only
        have hq (t : NanoSctp) (chunk : List UInt8) := nsctpQueueOutput_tags t t.remoteVtag chunk
        have hqs (t : NanoSctp) (chunk : List UInt8) :=
          (sameReceive_send.queueOutput t t.remoteVtag chunk).2
        refine ⟨hqs _ _, (hq _ _).remoteVtag, ?_, fun h => absurd hv h⟩
        rw [(hq _ _).localVtag]
        dsimp only
        split
        · exact nofun
        · assumption
    · rw [if_neg hv, if_neg fun h => hv h.1]
      dsimp only
      have hq (t : NanoSctp) (chunk : List UInt8) := nsctpQueueOutput_tags t t.remoteVtag chunk
      have hqs (t : NanoSctp) (chunk : List UInt8) :=
        (sameReceive_send.queueOutput t t.remoteVtag chunk).2
      refine ⟨hqs _ _, (hq _ _).remoteVtag, ?_, fun _ => (hq _ _).localVtag⟩
      rw [(hq _ _).localVtag]
      exact hv

/-- An INIT chunk in the exchange. -/
theorem Exchanged.init {s : NanoSctp} {g : ExchangeLog} (h : Exchanged s g)
    {random : Option AssociationSeed} {hdr : NsctpHeader} {chunk : List UInt8}
    (htype : SctpChunkType.ofType (byteAt chunk 0) = .init) :
    Exchanged (nsctpHandleInit s random chunk hdr).1
      (exchangeChunk g s random chunk (nsctpHandleInit s random chunk hdr).1) := by
  obtain ⟨hstate, hcase⟩ := nsctpHandleInit_tags s random chunk hdr
  unfold exchangeChunk
  rw [htype]
  cases hparse : nsctpParseInit chunk with
  | none =>
    rw [hparse] at hcase
    dsimp only at hcase ⊢
    rw [hcase]
    exact h
  | some init =>
    rw [hparse] at hcase
    dsimp only at hcase ⊢
    by_cases hmute : s.localVtag = 0 ∧ random = none
    · rw [if_pos hmute] at hcase ⊢
      rw [hcase]
      exact h
    · rw [if_neg hmute] at hcase ⊢
      obtain ⟨hremote, hlocal, hsame⟩ := hcase
      -- the tags stay where they are agreed on
      have hkeep (hexp : (g.expected && nsctpInitKeepsTag s init) = true)
          (hst : s.state = .established ∨ s.state = .cookieEchoed) :
          g.expected = true ∧ init.initiateTag = s.remoteVtag := by
        rw [Bool.and_eq_true] at hexp
        refine ⟨hexp.1, ?_⟩
        have hk := hexp.2
        unfold nsctpInitKeepsTag at hk
        cases hst with
        | inl hst => simpa [hst] using hk
        | inr hst => simpa [hst] using hk
      refine ⟨fun m hm => ?_, fun heq => ?_, fun hexp heq => ?_, fun hexp heq => ?_⟩
      · obtain rfl := Option.some.inj hm
        rw [hremote]
        exact ⟨rfl, rfl, rfl, hlocal⟩
      · obtain ⟨hstarted, hne⟩ := h.waiting (hstate ▸ heq)
        rw [hsame hne]
        exact ⟨hstarted, hne⟩
      · have hst : s.state = .cookieEchoed := hstate ▸ heq
        obtain ⟨hexp, htag⟩ := hkeep hexp (.inr hst)
        obtain ⟨hacked, hne⟩ := h.echoed hexp hst
        rw [hsame hne, hremote, htag]
        exact ⟨hacked, hne⟩
      · have hst : s.state = .established := hstate ▸ heq
        obtain ⟨hexp, htag⟩ := hkeep hexp (.inl hst)
        obtain ⟨hcompleted, hne⟩ := h.completed hexp hst
        rw [hsame hne, hremote, htag]
        exact ⟨hcompleted, hne⟩

/-- An INIT-ACK chunk in the exchange. -/
theorem Exchanged.initAck {s : NanoSctp} {g : ExchangeLog} (h : Exchanged s g)
    {random : Option AssociationSeed} {chunk : List UInt8}
    (htype : SctpChunkType.ofType (byteAt chunk 0) = .initAck) :
    Exchanged (nsctpHandleInitAck s chunk).1
      (exchangeChunk g s random chunk (nsctpHandleInitAck s chunk).1) := by
  unfold exchangeChunk
  rw [htype]
  dsimp only
  unfold nsctpHandleInitAck
  by_cases hst : s.state = .cookieWait
  · rw [if_neg (not_not_intro hst)]
    have hsame : Exchanged s (if s.state = .cookieWait ∧ s.state = .cookieEchoed then
        { g with minted := none, acked := g.started.map fun tag => (tag, s.remoteVtag) } else g) := by
      rw [if_neg fun hboth => by rw [hst] at hboth; exact nomatch hboth.2]
      exact h
    cases nsctpParseInit chunk with
    | none => exact hsame
    | some init =>
      dsimp only
      split
      · exact hsame
      · obtain ⟨hstarted, hne⟩ := h.waiting hst
        rw [if_pos ⟨hst, rfl⟩, hstarted]
        have hq (t : NanoSctp) (chunk : List UInt8) := nsctpQueueOutput_tags t t.remoteVtag chunk
        refine ⟨nofun, nofun, fun _ _ => ⟨?_, ?_⟩, nofun⟩
        · show some (_, _) = some (_, _)
          rw [(hq _ _).localVtag, (hq _ _).remoteVtag]
        · rw [(hq _ _).localVtag]
          exact hne
  · rw [if_pos hst, if_neg fun hboth => hst hboth.1]
    exact h

/-- A COOKIE-ECHO chunk in the exchange. -/
theorem Exchanged.cookieEcho {s : NanoSctp} {g : ExchangeLog} (h : Exchanged s g)
    {random : Option AssociationSeed} {chunk : List UInt8}
    (htype : SctpChunkType.ofType (byteAt chunk 0) = .cookieEcho) :
    Exchanged (nsctpHandleCookieEcho s chunk).1
      (exchangeChunk g s random chunk (nsctpHandleCookieEcho s chunk).1) := by
  unfold exchangeChunk
  rw [htype]
  dsimp only
  unfold nsctpHandleCookieEcho
  dsimp only
  by_cases htake : nsctpTakesEcho s chunk = true
  · have heq : 8 ≤ (chunk.drop sctpChunkHdrSize).length ∧
        (chunk.drop sctpChunkHdrSize).take 8 = nsctpCookie s.cookieSecret s.remoteVtag := by
      unfold nsctpTakesEcho at htake
      simpa only [Bool.and_eq_true, decide_eq_true_eq, beq_iff_eq] using htake
    rw [if_pos htake, if_neg fun hno => hno.elim (Nat.not_lt.mpr heq.1) fun hne => hne heq.2]
    have hq := nsctpQueueOutput_tags s s.remoteVtag nsctpEncodeCookieAck
    cases hm : g.minted with
    | some m =>
      dsimp only
      obtain ⟨hml, hmr, hmc, hne⟩ := h.minted m hm
      rw [if_pos (heq.2.trans hmc.symm)]
      refine ⟨fun m' hm' => ?_, nofun, nofun, fun _ _ => ⟨?_, ?_⟩⟩
      · obtain rfl : m = m' := Option.some.inj hm'
        show m.localVtag = (nsctpQueueOutput s s.remoteVtag nsctpEncodeCookieAck).localVtag ∧
          m.remoteVtag = (nsctpQueueOutput s s.remoteVtag nsctpEncodeCookieAck).remoteVtag ∧
          m.cookie = nsctpCookie (nsctpQueueOutput s s.remoteVtag nsctpEncodeCookieAck).cookieSecret
            (nsctpQueueOutput s s.remoteVtag nsctpEncodeCookieAck).remoteVtag ∧
          (nsctpQueueOutput s s.remoteVtag nsctpEncodeCookieAck).localVtag ≠ 0
        rw [hq.localVtag, hq.remoteVtag, hq.cookieSecret]
        exact ⟨hml, hmr, hmc, hne⟩
      · show some _ = some (_, _)
        rw [hq.localVtag, hq.remoteVtag, hml, hmr]
      · show (nsctpQueueOutput s s.remoteVtag nsctpEncodeCookieAck).localVtag ≠ 0
        rw [hq.localVtag]
        exact hne
    | none =>
      dsimp only
      refine ⟨fun m' hm' => ?_, nofun, nofun, fun hexp _ => ?_⟩
      · have hm' : none = some m' := hm'
        exact nomatch hm'
      · have hexp : (g.expected && s.state == .established) = true := hexp
        rw [Bool.and_eq_true, beq_iff_eq] at hexp
        obtain ⟨hcompleted, hne⟩ := h.completed hexp.1 hexp.2
        show g.completed = some ((nsctpQueueOutput s s.remoteVtag nsctpEncodeCookieAck).localVtag,
          (nsctpQueueOutput s s.remoteVtag nsctpEncodeCookieAck).remoteVtag) ∧
          (nsctpQueueOutput s s.remoteVtag nsctpEncodeCookieAck).localVtag ≠ 0
        rw [hq.localVtag, hq.remoteVtag]
        exact ⟨hcompleted, hne⟩
  · have hno : (chunk.drop sctpChunkHdrSize).length < 8 ∨
        (chunk.drop sctpChunkHdrSize).take 8 ≠ nsctpCookie s.cookieSecret s.remoteVtag := by
      by_cases hlen : (chunk.drop sctpChunkHdrSize).length < 8
      · exact .inl hlen
      · right
        intro heq
        apply htake
        unfold nsctpTakesEcho
        simp only [Bool.and_eq_true, decide_eq_true_eq, beq_iff_eq]
        exact ⟨Nat.not_lt.mp hlen, heq⟩
    rw [if_neg htake, if_pos hno]
    exact h

/-- A COOKIE-ACK chunk in the exchange. -/
theorem Exchanged.cookieAck {s : NanoSctp} {g : ExchangeLog} (h : Exchanged s g)
    {random : Option AssociationSeed} {chunk : List UInt8}
    (htype : SctpChunkType.ofType (byteAt chunk 0) = .cookieAck) :
    Exchanged (nsctpHandleCookieAck s).1
      (exchangeChunk g s random chunk (nsctpHandleCookieAck s).1) := by
  unfold exchangeChunk
  rw [htype]
  dsimp only
  unfold nsctpHandleCookieAck
  by_cases hst : s.state = .cookieEchoed
  · rw [if_pos hst, if_neg (not_not_intro hst)]
    exact ⟨h.minted, nofun, nofun, fun hexp _ => h.echoed hexp hst⟩
  · rw [if_neg hst, if_pos hst]
    exact h

/-- **Every chunk keeps the exchange in step with the association.** -/
theorem Exchanged.handle {s : NanoSctp} {g : ExchangeLog} (h : Exchanged s g)
    (random : Option AssociationSeed) (hdr : NsctpHeader) (chunk : List UInt8) :
    Exchanged (nsctpHandleChunk s random hdr chunk).1
      (exchangeHistory.chunk g s random chunk (nsctpHandleChunk s random hdr chunk).1) := by
  apply Exchanged.endIn
  -- the chunks that have no part in it
  have hother (s' : NanoSctp) (hk : KeepsTags s s')
      (htype : SctpChunkType.ofType (byteAt chunk 0) ≠ .init ∧
        SctpChunkType.ofType (byteAt chunk 0) ≠ .initAck ∧
        SctpChunkType.ofType (byteAt chunk 0) ≠ .cookieEcho ∧
        SctpChunkType.ofType (byteAt chunk 0) ≠ .cookieAck) :
      Exchanged s' (exchangeChunk g s random chunk s') := by
    have heq : exchangeChunk g s random chunk s' = g := by
      unfold exchangeChunk
      split
      · exact absurd ‹_› htype.1
      · exact absurd ‹_› htype.2.1
      · exact absurd ‹_› htype.2.2.1
      · exact absurd ‹_› htype.2.2.2
      · rfl
    rw [heq]
    exact h.keeps hk
  unfold nsctpHandleChunk
  cases htype : SctpChunkType.ofType (byteAt chunk 0) with
  | init => exact h.init htype
  | initAck => exact h.initAck htype
  | cookieEcho => exact h.cookieEcho htype
  | cookieAck => exact h.cookieAck htype
  | data => exact hother _ (nsctpHandleDataChunk_rule keepsTags_recv s chunk) (by rw [htype]; decide)
  | forwardTsn => exact hother _ (nsctpHandleForwardTsn_rule keepsTags_recv s chunk) (by rw [htype]; decide)
  | sack =>
    have hsack := keepsTags_timer.handleSack (fun _ _ _ => ⟨rfl, rfl, rfl, .inl rfl⟩) s chunk
    exact hother _ hsack (by rw [htype]; decide)
  | heartbeat => exact hother _ (keepsTags_timer.handleHeartbeat s chunk) (by rw [htype]; decide)
  | heartbeatAck => exact hother _ ⟨rfl, rfl, rfl, .inl rfl⟩ (by rw [htype]; decide)
  | abort => exact hother _ ⟨rfl, rfl, rfl, .inr rfl⟩ (by rw [htype]; decide)
  | shutdown => exact hother _ (.refl s) (by rw [htype]; decide)
  | other => exact hother _ (.refl s) (by rw [htype]; decide)

theorem Exchanged.call {s : NanoSctp} {g : ExchangeLog} (h : Exchanged s g) (i : SctpInput)
    (hi : ∀ random data, i ≠ .packet random data) :
    Exchanged (sctpStep s i) (exchangeHistory.call g s i) := by
  apply Exchanged.endIn
  cases i with
  | packet random data => exact absurd rfl (hi random data)
  | start random =>
    show Exchanged (nsctpStart s random).1 (if (nsctpStart s random).2 = .ok then
      { g with started := some (nsctpStart s random).1.localVtag, minted := none, acked := none }
      else g)
    unfold nsctpStart
    by_cases hst : s.state = .closed
    · rw [if_neg (not_not_intro hst)]
      by_cases hfull : nsctpOutFull s = true
      · rw [if_pos hfull, if_neg nofun]
        exact h
      · rw [if_neg hfull]
        cases random with
        | none => exact h
        | some seed =>
          unfold nsctpGenerateAssociationSeed
          dsimp only
          rw [if_pos rfl]
          refine ⟨nofun, fun _ => ⟨rfl, ?_⟩, nofun, nofun⟩
          rw [(nsctpQueueOutput_tags _ _ _).localVtag]
          dsimp only
          split
          · exact nofun
          · assumption
    · rw [if_pos hst, if_neg nofun]
      exact h
  | pollDelivery =>
    have hpoll := h.keeps (nsctpPollDelivery_rule keepsTags_recv s)
    unfold sctpStep
    exact hpoll
  | pollOutput bufLen => exact h.keeps (keepsTags_timer.pollOutput s bufLen)
  | send streamId ppid data unordered maxRetransmits =>
    exact h.keeps (keepsTags_timer.sendOptions (fun _ _ _ _ _ _ _ => ⟨rfl, rfl, rfl, .inl rfl⟩) s
      streamId ppid data unordered maxRetransmits)
  | timeout nowMs random => exact h.keeps (keepsTags_timer.handleTimeout s nowMs random)

/-- **An association is established by a completed exchange.** In every run in which a COOKIE-ECHO
was taken only for an answered INIT and no INIT changed the peer's tag after the handshake, an
established association has the tags of the exchange that it has completed since it was last not
established. -/
theorem established_by_exchange (is : List SctpInput) :
    let w := run (sctpLogStep exchangeHistory) (nsctpInit, {}) is
    w.2.expected = true → w.1.state = .established →
      w.2.completed = some (w.1.localVtag, w.1.remoteVtag) := by
  have hstep (w : NanoSctp × ExchangeLog) (i : SctpInput) (hw : Exchanged w.1 w.2) :
      Exchanged (sctpLogStep exchangeHistory w i).1 (sctpLogStep exchangeHistory w i).2 :=
    sctpLogStep_invariant (fun s g random hdr chunk h => h.handle random hdr chunk)
      (fun s g h => h.keeps (keepsTags_timer.finishPacket s))
      (fun s g i hi h => h.call i hi) w i hw
  have hstart : Exchanged nsctpInit {} := ⟨nofun, nofun, nofun, nofun⟩
  intro w hexp hest
  have h : Exchanged w.1 w.2 :=
    run_invariant (P := fun w => Exchanged w.1 w.2) hstep (s := (nsctpInit, {})) hstart is
  exact (h.completed hexp hest).1

/-- A peer's INIT and the cookie minted for it. -/
theorem established_by_exchange_server :
    (run (sctpLogStep exchangeHistory) (nsctpInit, {}) demoHandshake).2.completed =
      some (0x0A0B0C0D, 0x11223344) := by
  rw [established_by_exchange demoHandshake (by decide +kernel) (by decide +kernel)]
  decide +kernel

/-- Eight zero bytes establish a fresh association. -/
theorem established_without_exchange :
    let w := run (sctpLogStep exchangeHistory) (nsctpInit, {})
      [demoPacket (nsctpEncodeCookieEcho 1188 (List.replicate 8 0))]
    w.1.state = .established ∧ w.1.localVtag = 0 ∧ w.2.minted = none ∧ w.2.started = none ∧
      w.2.completed = none := by
  decide +kernel

end Nanortc.Spec
