import Nanortc.Spec.TurnAgreement
import Nanortc.Spec.TurnNumbers
import Nanortc.Spec.TurnFreshness

/-!
# Requests of the client, slot by slot

The client has at most one request outstanding for its transaction, for each permission and for
each channel. A call that sends nothing for a slot leaves its request as it is, ends it or asks for
a new transaction id.

## Key results

- `Settles`: what a call does to the slots for which it sends nothing
- `Settles.view`: what such a slot keeps
- `turnHandleResponse_settles`: a response sends nothing
-/

namespace Nanortc.Spec

open Nanortc.ForStd Nanortc.Native

/-! ### Slots -/

/-- Where the client keeps a request. -/
inductive TurnSlot where
  | transaction
  | permission (i : Nat)
  | channel (i : Nat)
deriving Repr, DecidableEq

/-- An outstanding request. -/
structure RequestView where
  pending : TurnRequest
  txid : List UInt8
  transmissions : Nat
deriving Repr, DecidableEq

/-- What a permission has outstanding. -/
def permissionView (p : TurnPermission) : Option RequestView :=
  if p.pending = .none then none else some ⟨p.pending, p.txid, p.transmissions⟩

/-- What a channel has outstanding. -/
def channelView (c : TurnChannel) : Option RequestView :=
  if c.pending = .none then none else some ⟨c.pending, c.txid, c.transmissions⟩

/-- The outstanding request of a slot. -/
def slotView (turn : NanoTurn) : TurnSlot → Option RequestView
  | .transaction =>
    if turn.transaction = .none then none
    else some ⟨if turn.transactionReauth then .reauth else .waiting, turn.lastTxid,
      turn.transactionTransmissions⟩
  | .permission i => turn.permissions[i]?.bind permissionView
  | .channel i => turn.channels[i]?.bind channelView

/-- The packet of a slot's request, as the builders make it from the client. -/
def slotPacket (crypto : CryptoProvider) (turn : NanoTurn) : TurnSlot → Except Rc (List UInt8)
  | .transaction =>
    if turn.transaction = .allocate then
      turnBuildAllocate crypto turn turn.transactionAuthenticated turn.lastTxid turnMaxRequestSize
    else turnBuildRefresh crypto turn turnDefaultLifetime turn.lastTxid turnMaxRequestSize
  | .permission i =>
    let p := turn.permissions.getD i default
    turnBuildPermission crypto turn ⟨p.family, p.addr, p.port⟩ p.txid turnMaxRequestSize
  | .channel i =>
    let c := turn.channels.getD i default
    turnBuildChannelBind crypto turn c c.txid turnMaxRequestSize

/-- The packet of a slot carries credentials; only the first Allocate does not. -/
def slotSigned (turn : NanoTurn) : TurnSlot → Bool
  | .transaction => turn.transactionAuthenticated
  | _ => true

theorem permissionView_some {p : TurnPermission} {v : RequestView} (h : permissionView p = some v) :
    p.pending ≠ .none ∧ v = ⟨p.pending, p.txid, p.transmissions⟩ := by
  unfold permissionView at h
  split at h
  · exact nomatch h
  · rename_i hpending
    exact ⟨hpending, (Option.some.inj h).symm⟩

theorem channelView_some {c : TurnChannel} {v : RequestView} (h : channelView c = some v) :
    c.pending ≠ .none ∧ v = ⟨c.pending, c.txid, c.transmissions⟩ := by
  unfold channelView at h
  split at h
  · exact nomatch h
  · rename_i hpending
    exact ⟨hpending, (Option.some.inj h).symm⟩

theorem slotView_permission {turn : NanoTurn} {i : Nat} {v : RequestView}
    (h : slotView turn (.permission i) = some v) :
    ∃ p, turn.permissions[i]? = some p ∧ p.pending ≠ .none ∧
      v = ⟨p.pending, p.txid, p.transmissions⟩ := by
  obtain ⟨p, hp, hv⟩ := Option.bind_eq_some_iff.mp h
  exact ⟨p, hp, permissionView_some hv⟩

theorem slotView_channel {turn : NanoTurn} {i : Nat} {v : RequestView}
    (h : slotView turn (.channel i) = some v) :
    ∃ c, turn.channels[i]? = some c ∧ c.pending ≠ .none ∧
      v = ⟨c.pending, c.txid, c.transmissions⟩ := by
  obtain ⟨c, hc, hv⟩ := Option.bind_eq_some_iff.mp h
  exact ⟨c, hc, channelView_some hv⟩

theorem slotView_of_permission {turn : NanoTurn} {i : Nat} {p : TurnPermission}
    (h : turn.permissions[i]? = some p) (hp : p.pending ≠ .none) :
    slotView turn (.permission i) = some ⟨p.pending, p.txid, p.transmissions⟩ := by
  show turn.permissions[i]?.bind permissionView = _
  rw [h]
  exact if_neg hp

theorem slotView_of_channel {turn : NanoTurn} {i : Nat} {c : TurnChannel}
    (h : turn.channels[i]? = some c) (hc : c.pending ≠ .none) :
    slotView turn (.channel i) = some ⟨c.pending, c.txid, c.transmissions⟩ := by
  show turn.channels[i]?.bind channelView = _
  rw [h]
  exact if_neg hc

theorem slotView_transaction {turn : NanoTurn} {v : RequestView}
    (h : slotView turn .transaction = some v) :
    turn.transaction ≠ .none ∧
      v = ⟨if turn.transactionReauth then .reauth else .waiting, turn.lastTxid,
        turn.transactionTransmissions⟩ := by
  have h : (if turn.transaction = .none then none
      else some ⟨if turn.transactionReauth then .reauth else .waiting, turn.lastTxid,
        turn.transactionTransmissions⟩) = some v := h
  split at h
  · exact nomatch h
  · rename_i htxn
    exact ⟨htxn, (Option.some.inj h).symm⟩

/-- An outstanding request waits or asks for a new id. -/
theorem slotView_pending {turn : NanoTurn} {k : TurnSlot} {v : RequestView}
    (h : slotView turn k = some v) : v.pending ≠ .none := by
  cases k with
  | transaction =>
    obtain ⟨-, rfl⟩ := slotView_transaction h
    dsimp only
    split
    · exact nofun
    · exact nofun
  | permission i =>
    obtain ⟨p, -, hne, rfl⟩ := slotView_permission h
    exact hne
  | channel i =>
    obtain ⟨c, -, hne, rfl⟩ := slotView_channel h
    exact hne

/-! ### Credentials -/

/-- An Allocate without credentials. -/
theorem turnBuildAllocate_plain (crypto : CryptoProvider) (turn turn' : NanoTurn)
    (txid : List UInt8) (bufLen : Nat) :
    turnBuildAllocate crypto turn' false txid bufLen =
      turnBuildAllocate crypto turn false txid bufLen := by
  simp only [turnBuildAllocate, Bool.false_eq_true, if_false]

/-- What the client signs with. -/
structure SameCredentials (turn turn' : NanoTurn) : Prop where
  username : turn'.username = turn.username
  realm : turn'.realm = turn.realm
  nonce : turn'.nonce = turn.nonce
  auth : turn'.auth = turn.auth

theorem SameCredentials.refl (turn : NanoTurn) : SameCredentials turn turn := ⟨rfl, rfl, rfl, rfl⟩

section

variable {crypto : CryptoProvider} {turn turn' : NanoTurn} (h : SameCredentials turn turn')
include h

theorem SameCredentials.sign (buf : List UInt8) :
    turnSign crypto turn' buf = turnSign crypto turn buf := by
  simp only [turnSign, NanoTurn.hmacKey, h.username, h.realm, h.nonce, h.auth]

theorem SameCredentials.allocate (authenticated : Bool) (txid : List UInt8) (bufLen : Nat) :
    turnBuildAllocate crypto turn' authenticated txid bufLen =
      turnBuildAllocate crypto turn authenticated txid bufLen := by
  simp only [turnBuildAllocate, h.sign]

theorem SameCredentials.refresh (lifetimeS : UInt32) (txid : List UInt8) (bufLen : Nat) :
    turnBuildRefresh crypto turn' lifetimeS txid bufLen =
      turnBuildRefresh crypto turn lifetimeS txid bufLen := by
  simp only [turnBuildRefresh, h.sign]

theorem SameCredentials.permission (peer : NanortcAddr) (txid : List UInt8) (bufLen : Nat) :
    turnBuildPermission crypto turn' peer txid bufLen =
      turnBuildPermission crypto turn peer txid bufLen := by
  simp only [turnBuildPermission, h.sign]

theorem SameCredentials.channelBind {c c' : TurnChannel} (hchannel : c'.channel = c.channel)
    (hpeer : c'.peer = c.peer) (txid : List UInt8) (bufLen : Nat) :
    turnBuildChannelBind crypto turn' c' txid bufLen =
      turnBuildChannelBind crypto turn c txid bufLen := by
  have hpeer : (⟨c'.family, c'.addr, c'.port⟩ : NanortcAddr) = ⟨c.family, c.addr, c.port⟩ := hpeer
  simp only [turnBuildChannelBind, h.sign, hchannel, hpeer]

end

/-! ### Slots for which nothing is sent -/

/-- The transaction goes on as it was or is over; new credentials let it go on under a new id, if it
is signed. -/
def KeptTransaction (renews : Bool) (turn turn' : NanoTurn) : Prop :=
  turn'.transaction ≠ .none →
    turn'.transaction = turn.transaction ∧
    turn'.transactionAuthenticated = turn.transactionAuthenticated ∧
    turn'.lastTxid = turn.lastTxid ∧
    turn'.transactionTransmissions = turn.transactionTransmissions ∧
    (turn'.transactionReauth = turn.transactionReauth ∨
      (renews = true ∧ turn'.transactionReauth = true ∧ turn'.transactionAuthenticated = true))

/-- The same of the request of a permission. -/
def KeptPermission (renews : Bool) (o o' : Option TurnPermission) : Prop :=
  ∀ p', o' = some p' → p'.pending ≠ .none → ∃ p, o = some p ∧ p.pending ≠ .none ∧
    p'.txid = p.txid ∧ p'.transmissions = p.transmissions ∧
    (p'.pending = p.pending ∨ (renews = true ∧ p'.pending = .reauth)) ∧
    (⟨p'.family, p'.addr, p'.port⟩ : NanortcAddr) = ⟨p.family, p.addr, p.port⟩

/-- The same of the request of a channel. -/
def KeptChannel (renews : Bool) (o o' : Option TurnChannel) : Prop :=
  ∀ c', o' = some c' → c'.pending ≠ .none → ∃ c, o = some c ∧ c.pending ≠ .none ∧
    c'.txid = c.txid ∧ c'.transmissions = c.transmissions ∧
    (c'.pending = c.pending ∨ (renews = true ∧ c'.pending = .reauth)) ∧
    c'.channel = c.channel ∧ c'.peer = c.peer

section

variable {renews : Bool}

theorem KeptTransaction.refl (turn : NanoTurn) : KeptTransaction renews turn turn :=
  fun _ => ⟨rfl, rfl, rfl, rfl, .inl rfl⟩

theorem KeptPermission.refl (o : Option TurnPermission) : KeptPermission renews o o :=
  fun p hp hne => ⟨p, hp, hne, rfl, rfl, .inl rfl, rfl⟩

theorem KeptChannel.refl (o : Option TurnChannel) : KeptChannel renews o o :=
  fun c hc hne => ⟨c, hc, hne, rfl, rfl, .inl rfl, rfl, rfl⟩

theorem KeptTransaction.trans {a b c : NanoTurn} (h : KeptTransaction renews a b)
    (h' : KeptTransaction renews b c) : KeptTransaction renews a c := by
  intro hne
  obtain ⟨h1, h2, h3, h4, h5⟩ := h' hne
  obtain ⟨g1, g2, g3, g4, g5⟩ := h (h1 ▸ hne)
  refine ⟨h1.trans g1, h2.trans g2, h3.trans g3, h4.trans g4, ?_⟩
  cases h5 with
  | inr hnew => exact .inr hnew
  | inl hsame =>
    rw [hsame, h2]
    exact g5

theorem KeptPermission.trans {a b c : Option TurnPermission} (h : KeptPermission renews a b)
    (h' : KeptPermission renews b c) : KeptPermission renews a c := by
  intro p'' hp'' hne
  obtain ⟨p', hp', hne', h1, h2, h3, h4⟩ := h' p'' hp'' hne
  obtain ⟨p, hp, hne, g1, g2, g3, g4⟩ := h p' hp' hne'
  refine ⟨p, hp, hne, h1.trans g1, h2.trans g2, ?_, h4.trans g4⟩
  cases h3 with
  | inr hnew => exact .inr hnew
  | inl hsame =>
    rw [hsame]
    exact g3

theorem KeptChannel.trans {a b c : Option TurnChannel} (h : KeptChannel renews a b)
    (h' : KeptChannel renews b c) : KeptChannel renews a c := by
  intro c'' hc'' hne
  obtain ⟨c', hc', hne', h1, h2, h3, h4, h5⟩ := h' c'' hc'' hne
  obtain ⟨c, hc, hne, g1, g2, g3, g4, g5⟩ := h c' hc' hne'
  refine ⟨c, hc, hne, h1.trans g1, h2.trans g2, ?_, h4.trans g4, h5.trans g5⟩
  cases h3 with
  | inr hnew => exact .inr hnew
  | inl hsame =>
    rw [hsame]
    exact g3

end

/-- No request goes on under the old credentials. -/
structure AllRenewed (turn : NanoTurn) : Prop where
  transaction : turn.transaction ≠ .none → turn.transactionReauth = true ∨
    (turn.transaction = .allocate ∧ turn.transactionAuthenticated = false)
  permissions : ∀ p ∈ turn.permissions, p.pending ≠ .waiting
  channels : ∀ c ∈ turn.channels, c.pending ≠ .waiting

/-- A call sends nothing for any slot but the given one: requests go on as they were or are over,
and new credentials ask for new ids. -/
structure Settles (renews : Bool) (slot : Option TurnSlot) (turn turn' : NanoTurn) : Prop where
  transaction : slot ≠ some .transaction → KeptTransaction renews turn turn'
  permissions : ∀ i, slot ≠ some (.permission i) →
    KeptPermission renews turn.permissions[i]? turn'.permissions[i]?
  channels : ∀ i, slot ≠ some (.channel i) →
    KeptChannel renews turn.channels[i]? turn'.channels[i]?
  credentials : if renews then AllRenewed turn' else SameCredentials turn turn'

theorem Settles.refl (slot : Option TurnSlot) (turn : NanoTurn) : Settles false slot turn turn :=
  ⟨fun _ => .refl turn, fun _ _ => .refl _, fun _ _ => .refl _, .refl turn⟩

/-- What a slot keeps over a call that sends nothing for it. -/
structure SlotKept (crypto : CryptoProvider) (renews : Bool) (turn turn' : NanoTurn) (k : TurnSlot)
    (v v' : RequestView) : Prop where
  txid : v'.txid = v.txid
  transmissions : v'.transmissions = v.transmissions
  signed : slotSigned turn' k = slotSigned turn k
  waiting : v'.pending = .waiting → v.pending = .waiting ∧
    slotPacket crypto turn' k = slotPacket crypto turn k ∧
    (renews = true → slotSigned turn k = false)
  reauth : v'.pending = .reauth → v.pending = .reauth ∨
    (renews = true ∧ slotSigned turn k = true)

theorem pending_waiting {renews : Bool} {r r' : TurnRequest}
    (h : r' = r ∨ (renews = true ∧ r' = .reauth)) (hw : r' = .waiting) : r = .waiting := by
  rcases h with rfl | ⟨-, rfl⟩
  · exact hw
  · exact nomatch hw

theorem pending_reauth {renews : Bool} {r r' : TurnRequest}
    (h : r' = r ∨ (renews = true ∧ r' = .reauth)) (hr : r' = .reauth) :
    r = .reauth ∨ renews = true := by
  rcases h with rfl | ⟨hnew, -⟩
  · exact .inl hr
  · exact .inr hnew

theorem Settles.view (crypto : CryptoProvider) {renews : Bool} {slot : Option TurnSlot}
    {turn turn' : NanoTurn} (h : Settles renews slot turn turn') {k : TurnSlot}
    (hk : slot ≠ some k) {v' : RequestView} (hv' : slotView turn' k = some v') :
    ∃ v, slotView turn k = some v ∧ SlotKept crypto renews turn turn' k v v' := by
  have hcred := h.credentials
  cases k with
  | transaction =>
    obtain ⟨hne', rfl⟩ := slotView_transaction hv'
    obtain ⟨htxn, hauth, htxid, hcount, hreauth⟩ := h.transaction hk hne'
    have hne : turn.transaction ≠ .none := htxn ▸ hne'
    refine ⟨_, if_neg hne, htxid, hcount, hauth, fun hw => ?_, fun hr => ?_⟩
    · have hfalse : turn'.transactionReauth = false := by
        by_contra hcon
        rw [Bool.not_eq_false] at hcon
        rw [hcon] at hw
        exact nomatch hw
      have hsame : turn.transactionReauth = false := by
        rcases hreauth with hsame | ⟨-, hnew, -⟩
        · rw [← hsame, hfalse]
        · rw [hfalse] at hnew
          exact nomatch hnew
      refine ⟨by rw [hsame]; rfl, ?_⟩
      cases renews with
      | false =>
        have hcred : SameCredentials turn turn' := hcred
        refine ⟨?_, nofun⟩
        simp only [slotPacket, htxn, hauth, htxid, hcred.allocate, hcred.refresh]
      | true =>
        -- only an Allocate without credentials goes on
        have hcred : AllRenewed turn' := hcred
        rcases hcred.transaction hne' with hr | ⟨hallocate, hplain⟩
        · rw [hfalse] at hr
          exact nomatch hr
        · have hplain' : turn.transactionAuthenticated = false := hauth ▸ hplain
          have hallocate' : turn.transaction = .allocate := htxn ▸ hallocate
          refine ⟨?_, fun _ => hplain'⟩
          simp only [slotPacket, hallocate, hallocate', hplain, hplain', htxid, if_true]
          exact turnBuildAllocate_plain crypto turn turn' _ _
    · rcases hreauth with hsame | ⟨hnew, -, hsigned⟩
      · rw [hsame] at hr
        exact .inl hr
      · exact .inr ⟨hnew, hauth.symm.trans hsigned⟩
  | permission i =>
    obtain ⟨p', hp', hne', rfl⟩ := slotView_permission hv'
    obtain ⟨p, hp, hne, htxid, hcount, hpending, hpeer⟩ := h.permissions i hk p' hp' hne'
    refine ⟨_, slotView_of_permission hp hne, htxid, hcount, rfl, fun hw => ?_, fun hr => ?_⟩
    · refine ⟨pending_waiting hpending hw, ?_⟩
      cases renews with
      | false =>
        have hcred : SameCredentials turn turn' := hcred
        refine ⟨?_, nofun⟩
        simp only [slotPacket, List.getD_eq_getElem?_getD, hp, hp', Option.getD_some, htxid, hpeer,
          hcred.permission]
      | true =>
        have hcred : AllRenewed turn' := hcred
        exact absurd hw (hcred.permissions p' (List.mem_of_getElem? hp'))
    · exact (pending_reauth hpending hr).imp_right fun hnew => ⟨hnew, rfl⟩
  | channel i =>
    obtain ⟨c', hc', hne', rfl⟩ := slotView_channel hv'
    obtain ⟨c, hc, hne, htxid, hcount, hpending, hch, hpeer⟩ := h.channels i hk c' hc' hne'
    refine ⟨_, slotView_of_channel hc hne, htxid, hcount, rfl, fun hw => ?_, fun hr => ?_⟩
    · refine ⟨pending_waiting hpending hw, ?_⟩
      cases renews with
      | false =>
        have hcred : SameCredentials turn turn' := hcred
        refine ⟨?_, nofun⟩
        simp only [slotPacket, List.getD_eq_getElem?_getD, hc, hc', Option.getD_some, htxid,
          hcred.channelBind hch hpeer]
      | true =>
        have hcred : AllRenewed turn' := hcred
        exact absurd hw (hcred.channels c' (List.mem_of_getElem? hc'))
    · exact (pending_reauth hpending hr).imp_right fun hnew => ⟨hnew, rfl⟩

/-! ### Tables -/

section

variable {renews : Bool}

theorem KeptTransaction.over {turn turn' : NanoTurn} (h : turn'.transaction = .none) :
    KeptTransaction renews turn turn' := fun hne => absurd h hne

theorem KeptPermission.idle {o : Option TurnPermission} {p : TurnPermission}
    (h : p.pending = .none) : KeptPermission renews o (some p) := by
  rintro p' hp' hne
  obtain rfl := Option.some.inj hp'
  exact absurd h hne

theorem KeptChannel.idle {o : Option TurnChannel} {c : TurnChannel} (h : c.pending = .none) :
    KeptChannel renews o (some c) := by
  rintro c' hc' hne
  obtain rfl := Option.some.inj hc'
  exact absurd h hne

/-- An entry under another deadline. -/
theorem KeptPermission.deadline (p : TurnPermission) (deadlineMs : UInt32) :
    KeptPermission renews (some p) (some { p with deadlineMs := deadlineMs }) := by
  intro p' hp' hne
  obtain rfl := Option.some.inj hp'
  exact ⟨p, rfl, hne, rfl, rfl, .inl rfl, rfl⟩

theorem KeptChannel.deadline (c : TurnChannel) (deadlineMs : UInt32) :
    KeptChannel renews (some c) (some { c with deadlineMs := deadlineMs }) := by
  intro c' hc' hne
  obtain rfl := Option.some.inj hc'
  exact ⟨c, rfl, hne, rfl, rfl, .inl rfl, rfl, rfl⟩

/-- One entry of a table written over, seen from any place. -/
theorem getElem?_set_cases {α : Type} (l : List α) (i : Nat) (a : α) (j : Nat) :
    (l.set i a)[j]? = l[j]? ∨ (i = j ∧ (l.set i a)[j]? = some a ∧ ∃ b, l[j]? = some b) := by
  by_cases hij : i = j
  · subst hij
    rcases Nat.lt_or_ge i l.length with hlt | hge
    · exact .inr ⟨rfl, List.getElem?_set_self hlt, l[i], List.getElem?_eq_getElem hlt⟩
    · rw [List.set_eq_of_length_le hge]
      exact .inl rfl
  · exact .inl (List.getElem?_set_ne hij)

theorem KeptPermission.set {ps : List TurnPermission} {i : Nat} {p : TurnPermission}
    (h : KeptPermission renews (some (ps.getD i default)) (some p)) (j : Nat) :
    KeptPermission renews ps[j]? (ps.set i p)[j]? := by
  rcases getElem?_set_cases ps i p j with hsame | ⟨rfl, hset, b, hb⟩
  · rw [hsame]
    exact .refl _
  · rw [List.getD_eq_getElem?_getD, hb] at h
    rw [hset, hb]
    exact h

theorem KeptChannel.set {cs : List TurnChannel} {i : Nat} {c : TurnChannel}
    (h : KeptChannel renews (some (cs.getD i default)) (some c)) (j : Nat) :
    KeptChannel renews cs[j]? (cs.set i c)[j]? := by
  rcases getElem?_set_cases cs i c j with hsame | ⟨rfl, hset, b, hb⟩
  · rw [hsame]
    exact .refl _
  · rw [List.getD_eq_getElem?_getD, hb] at h
    rw [hset, hb]
    exact h

end

/-- Both tables are as they were; the transaction goes on or is over. -/
theorem Settles.tables {turn turn' : NanoTurn} (htxn : KeptTransaction false turn turn')
    (hperm : turn'.permissions = turn.permissions) (hchan : turn'.channels = turn.channels)
    (hsame : SameCredentials turn turn') : Settles false none turn turn' where
  transaction _ := htxn
  permissions i _ := by
    rw [hperm]
    exact .refl _
  channels i _ := by
    rw [hchan]
    exact .refl _
  credentials := hsame

/-- Both tables are empty. -/
theorem Settles.dropped {turn turn' : NanoTurn} (htxn : KeptTransaction false turn turn')
    (hperm : turn'.permissions = []) (hchan : turn'.channels = [])
    (hsame : SameCredentials turn turn') : Settles false none turn turn' where
  transaction _ := htxn
  permissions i _ := by
    rw [hperm]
    exact nofun
  channels i _ := by
    rw [hchan]
    exact nofun
  credentials := hsame

/-- One permission is written over. -/
theorem Settles.setPermission {turn turn' : NanoTurn} {i : Nat} {p : TurnPermission}
    (htxn : KeptTransaction false turn turn') (hperm : turn'.permissions = turn.permissions.set i p)
    (hchan : turn'.channels = turn.channels) (hsame : SameCredentials turn turn')
    (h : KeptPermission false (some (turn.permissions.getD i default)) (some p)) :
    Settles false none turn turn' where
  transaction _ := htxn
  permissions j _ := by
    rw [hperm]
    exact h.set j
  channels j _ := by
    rw [hchan]
    exact .refl _
  credentials := hsame

/-- One channel is written over. -/
theorem Settles.setChannel {turn turn' : NanoTurn} {i : Nat} {c : TurnChannel}
    (htxn : KeptTransaction false turn turn') (hperm : turn'.permissions = turn.permissions)
    (hchan : turn'.channels = turn.channels.set i c) (hsame : SameCredentials turn turn')
    (h : KeptChannel false (some (turn.channels.getD i default)) (some c)) : Settles false none turn turn' where
  transaction _ := htxn
  permissions j _ := by
    rw [hperm]
    exact .refl _
  channels j _ := by
    rw [hchan]
    exact h.set j
  credentials := hsame

/-! ### Responses -/

/-- Refresh requests always have credentials. -/
def RefreshSigned (turn : NanoTurn) : Prop :=
  turn.transaction = .refresh → turn.transactionAuthenticated = true

/-- The message challenges a request: its code is 401 or 438. -/
def turnIsChallenge (msg : StunMsg) : Bool :=
  let type := TurnMsgType.ofType msg.type
  (type == .allocateError || type == .refreshError || type == .channelBindError ||
    type == .permissionError) && (msg.errorCode == 401 || msg.errorCode == 438)

/-- The client answers a challenge with new credentials. -/
def turnRenews (crypto : CryptoProvider) (turn : NanoTurn) (nowMs : UInt32) (data : List UInt8) :
    Bool :=
  (turnAccepted crypto turn data).any turnIsChallenge &&
    (turnHandleResponse crypto turn nowMs data).2 == .ok

/-- What an accepted message makes of the client. -/
theorem turnHandleResponse_accepted {crypto : CryptoProvider} {turn : NanoTurn} (nowMs : UInt32)
    {data : List UInt8} {msg : StunMsg} (h : turnAccepted crypto turn data = some msg) :
    turnHandleResponse crypto turn nowMs data =
      let perm := turnAnsweredPermission turn msg
      let chan := turnAnsweredChannel turn msg
      if IsStaleNonce msg then
        turnHandleStaleNonce turn nowMs msg (turnTxidMatch turn msg)
          ((turnTxidMatch turn msg && turn.transactionAuthenticated) || perm.isSome ||
            chan.isSome) perm chan
      else turnDispatchResponse crypto turn nowMs msg perm chan := by
  unfold turnAccepted at h
  cases hparse : stunParse data with
  | error e =>
    rw [hparse] at h
    cases h
  | ok parsed =>
    rw [hparse] at h
    dsimp only at h
    unfold turnHandleResponse
    rw [hparse]
    unfold turnTxidMatch at h ⊢
    dsimp only
    split at h
    · cases h
    rename_i hmethod
    rw [if_neg hmethod]
    split at h
    · cases h
    rename_i hmine
    rw [if_neg hmine]
    split at h
    · cases h
    rename_i hfingerprint
    rw [if_neg hfingerprint]
    split at h
    · cases h
    rename_i hintegrity
    rw [if_neg hintegrity]
    obtain rfl := Option.some.inj h
    rfl

theorem turnStoreNonce_renewed {turn : NanoTurn} (hrefresh : RefreshSigned turn)
    (nonce : List UInt8) : AllRenewed (turnStoreNonce turn nonce) where
  transaction hne := by
    have hne : turn.transaction ≠ .none := hne
    show (turn.transactionReauth || (turn.transaction != .none && turn.transactionAuthenticated)) =
      true ∨ (turn.transaction = .allocate ∧ turn.transactionAuthenticated = false)
    cases hauth : turn.transactionAuthenticated with
    | true =>
      left
      simp [hne]
    | false =>
      right
      cases htxn : turn.transaction with
      | none => exact absurd htxn hne
      | allocate => exact ⟨rfl, rfl⟩
      | refresh =>
        have := hrefresh htxn
        rw [hauth] at this
        exact nomatch this
  permissions := by
    intro p hp
    obtain ⟨q, -, rfl⟩ := List.mem_map.mp hp
    exact renew_ne_waiting q.pending
  channels := by
    intro c hc
    obtain ⟨d, -, rfl⟩ := List.mem_map.mp hc
    exact renew_ne_waiting d.pending

theorem renew_eq_none {r : TurnRequest} : r.renew = .none ↔ r = .none := by
  cases r <;> decide

theorem renew_reauth {r : TurnRequest} (h : r.renew ≠ .none) : r.renew = .reauth := by
  cases r with
  | none => exact absurd rfl h
  | waiting => rfl
  | reauth => rfl

theorem turnStoreNonce_settles {turn : NanoTurn} (hrefresh : RefreshSigned turn)
    (nonce : List UInt8) : Settles true none turn (turnStoreNonce turn nonce) where
  transaction _ _ := by
    refine ⟨rfl, rfl, rfl, rfl, ?_⟩
    show (turn.transactionReauth || (turn.transaction != .none && turn.transactionAuthenticated)) =
      turn.transactionReauth ∨ (true = true ∧ (turn.transactionReauth ||
        (turn.transaction != .none && turn.transactionAuthenticated)) = true ∧
        turn.transactionAuthenticated = true)
    cases hauth : turn.transactionAuthenticated with
    | false =>
      left
      rw [Bool.and_false, Bool.or_false]
    | true =>
      cases htxn : turn.transaction != .none with
      | false =>
        left
        rw [Bool.false_and, Bool.or_false]
      | true =>
        right
        exact ⟨rfl, Bool.or_true _, rfl⟩
  permissions i _ := by
    intro p' hp' hne
    have hp' : (turn.permissions.map fun p => { p with pending := p.pending.renew })[i]? = some p' :=
      hp'
    rw [List.getElem?_map] at hp'
    obtain ⟨p, hp, rfl⟩ := Option.map_eq_some_iff.mp hp'
    exact ⟨p, hp, fun h => hne (renew_eq_none.mpr h), rfl, rfl, .inr ⟨rfl, renew_reauth hne⟩, rfl⟩
  channels i _ := by
    intro c' hc' hne
    have hc' : (turn.channels.map fun c => { c with pending := c.pending.renew })[i]? = some c' :=
      hc'
    rw [List.getElem?_map] at hc'
    obtain ⟨c, hc, rfl⟩ := Option.map_eq_some_iff.mp hc'
    exact ⟨c, hc, fun h => hne (renew_eq_none.mpr h), rfl, rfl, .inr ⟨rfl, renew_reauth hne⟩, rfl,
      rfl⟩
  credentials := turnStoreNonce_renewed hrefresh nonce

theorem AllRenewed.setPermission {turn : NanoTurn} (h : AllRenewed turn) {i : Nat}
    {p : TurnPermission} (hp : p.pending ≠ .waiting) :
    ∀ q ∈ turn.permissions.set i p, q.pending ≠ .waiting := by
  intro q hq
  cases List.mem_or_eq_of_mem_set hq with
  | inl hmem => exact h.permissions q hmem
  | inr heq => exact heq ▸ hp

theorem AllRenewed.setChannel {turn : NanoTurn} (h : AllRenewed turn) {i : Nat} {c : TurnChannel}
    (hc : c.pending ≠ .waiting) : ∀ d ∈ turn.channels.set i c, d.pending ≠ .waiting := by
  intro d hd
  cases List.mem_or_eq_of_mem_set hd with
  | inl hmem => exact h.channels d hmem
  | inr heq => exact heq ▸ hc

/-- New credentials on top of what has asked for new ids. -/
theorem Settles.renewed {a b c : NanoTurn} (h : Settles true none a b)
    (htxn : KeptTransaction true b c)
    (hperm : ∀ i : Nat, KeptPermission true b.permissions[i]? c.permissions[i]?)
    (hchan : ∀ i : Nat, KeptChannel true b.channels[i]? c.channels[i]?) (hnew : AllRenewed c) :
    Settles true none a c where
  transaction _ := (h.transaction nofun).trans htxn
  permissions i _ := (h.permissions i nofun).trans (hperm i)
  channels i _ := (h.channels i nofun).trans (hchan i)
  credentials := hnew

/-- What handling a message does to the slots, by the code it returns. -/
def Handled (challenge : Bool) (turn : NanoTurn) (r : NanoTurn × Rc) : Prop :=
  Settles (challenge && r.2 == .ok) none turn r.1

theorem Handled.failed {challenge : Bool} {turn : NanoTurn} {r : NanoTurn × Rc} (hr : r.2 ≠ .ok)
    (h : Settles false none turn r.1) : Handled challenge turn r := by
  show Settles (challenge && r.2 == .ok) none turn r.1
  have hbeq : (r.2 == .ok) = false := beq_eq_false_iff_ne.mpr hr
  rw [hbeq, Bool.and_false]
  exact h

section

variable {turn : NanoTurn} (hrefresh : RefreshSigned turn)

theorem turnFail_handled (challenge : Bool) (turn : NanoTurn) :
    Handled challenge turn (turnFail (turnClearTransaction turn)) :=
  .failed nofun (.tables (.over rfl) rfl rfl ⟨rfl, rfl, rfl, rfl⟩)

include hrefresh

theorem turnHandleStaleNonce_handled (nowMs : UInt32) (msg : StunMsg)
    (txidMatch authenticated : Bool) (perm chan : Option Nat) :
    Handled true turn (turnHandleStaleNonce turn nowMs msg txidMatch authenticated perm chan) := by
  unfold turnHandleStaleNonce
  dsimp only
  generalize (if txidMatch then turn.transactionTransmissions else _ : Nat) = transmissions
  cases msg.nonce with
  | none => exact turnFail_handled true turn
  | some nonce =>
    have hs := turnStoreNonce_settles hrefresh nonce
    have hnew := turnStoreNonce_renewed hrefresh nonce
    revert hs hnew
    dsimp only
    generalize turnStoreNonce turn nonce = stored
    intro hs hnew
    split
    · exact turnFail_handled true turn
    split
    · exact hs.renewed (fun _ => ⟨rfl, rfl, rfl, rfl, .inl rfl⟩) (fun i => .refl _)
        (fun i => .refl _) ⟨hnew.transaction, hnew.permissions, hnew.channels⟩
    cases perm with
    | some i =>
      have hidle : (stored.permissions.getD i default).pending ≠ .waiting := by
        rcases Nat.lt_or_ge i stored.permissions.length with hlt | hge
        · rw [List.getD_eq_getElem _ _ hlt]
          exact hnew.permissions _ (List.getElem_mem hlt)
        · rw [List.getD_eq_default _ _ hge]
          exact nofun
      exact hs.renewed (fun _ => ⟨rfl, rfl, rfl, rfl, .inl rfl⟩)
        (KeptPermission.set (.deadline _ nowMs)) (fun i => .refl _)
        ⟨hnew.transaction, hnew.setPermission hidle, hnew.channels⟩
    | none =>
      have hidle : (stored.channels.getD (chan.getD 0) default).pending ≠ .waiting := by
        rcases Nat.lt_or_ge (chan.getD 0) stored.channels.length with hlt | hge
        · rw [List.getD_eq_getElem _ _ hlt]
          exact hnew.channels _ (List.getElem_mem hlt)
        · rw [List.getD_eq_default _ _ hge]
          exact nofun
      exact hs.renewed (fun _ => ⟨rfl, rfl, rfl, rfl, .inl rfl⟩) (fun i => .refl _)
        (KeptChannel.set (.deadline _ nowMs))
        ⟨hnew.transaction, hnew.permissions, hnew.setChannel hidle⟩

omit hrefresh in
theorem turnHandleAllocateError_handled (crypto : CryptoProvider) (msg : StunMsg) :
    Handled (msg.errorCode == 401 || msg.errorCode == 438) turn
      (turnHandleAllocateError crypto turn msg) := by
  unfold turnHandleAllocateError
  split
  · rename_i hcode
    split
    · exact turnFail_handled _ turn
    · dsimp only
      split
      · rename_i realm nonce _ _
        -- the transaction is over, the tables ask for new ids
        have hs := @turnStoreNonce_settles { turnClearTransaction turn with
          realm := realm.take (turnTextSize - 1) } nofun nonce
        have hnew := @turnStoreNonce_renewed { turnClearTransaction turn with
          realm := realm.take (turnTextSize - 1) } nofun nonce
        have hcode : (msg.errorCode == 401 || msg.errorCode == 438) = true := by simp [hcode.1]
        rw [hcode]
        exact ⟨fun _ => .over rfl, hs.permissions, hs.channels,
          fun hne => absurd rfl hne, hnew.permissions, hnew.channels⟩
      · exact turnFail_handled _ turn
  · exact turnFail_handled _ turn

omit hrefresh in
/-- An answer that is not a stale nonce. -/
theorem turnDispatchResponse_handled (crypto : CryptoProvider) (nowMs : UInt32) {msg : StunMsg}
    (hstale : ¬ IsStaleNonce msg) (perm chan : Option Nat) :
    Handled (turnIsChallenge msg) turn (turnDispatchResponse crypto turn nowMs msg perm chan) := by
  unfold turnDispatchResponse turnIsChallenge
  unfold IsStaleNonce at hstale
  revert hstale
  dsimp only
  cases TurnMsgType.ofType msg.type with
  | allocateResponse =>
    intro _
    dsimp only
    split
    · exact .refl none turn
    · exact .tables (.over rfl) rfl rfl ⟨rfl, rfl, rfl, rfl⟩
  | allocateError =>
    intro _
    exact turnHandleAllocateError_handled crypto msg
  | refreshResponse =>
    intro _
    exact .tables (.over rfl) rfl rfl ⟨rfl, rfl, rfl, rfl⟩
  | refreshError =>
    intro _
    exact turnFail_handled _ turn
  | permissionResponse =>
    intro _
    cases perm with
    | none => exact .refl none turn
    | some i =>
      refine Settles.setPermission ?_ rfl rfl ⟨rfl, rfl, rfl, rfl⟩ (.idle rfl)
      exact fun _ => ⟨rfl, rfl, rfl, rfl, .inl rfl⟩
  | permissionError =>
    intro hstale
    cases perm with
    | none => exact .failed nofun (.refl none turn)
    | some i =>
      dsimp only
      unfold turnHandlePermissionError
      dsimp only
      -- the codes that end the permission or delay it are no challenges
      have hkept : KeptTransaction false turn turn := .refl turn
      split
      · rename_i hcode
        have hplain : (msg.errorCode == 401 || msg.errorCode == 438) = false := by
          rcases hcode with hcode | hcode
          · rw [hcode]; decide
          · rw [hcode]; decide
        show Settles ((msg.errorCode == 401 || msg.errorCode == 438) && _) none turn _
        rw [hplain, Bool.false_and]
        exact .setPermission hkept rfl rfl ⟨rfl, rfl, rfl, rfl⟩ (.idle rfl)
      split
      · rename_i hcode
        have hplain : (msg.errorCode == 401 || msg.errorCode == 438) = false := by
          rw [hcode]; decide
        show Settles ((msg.errorCode == 401 || msg.errorCode == 438) && _) none turn _
        rw [hplain, Bool.false_and]
        exact .setPermission hkept rfl rfl ⟨rfl, rfl, rfl, rfl⟩ (.idle rfl)
      · exact .failed nofun (.setPermission hkept rfl rfl ⟨rfl, rfl, rfl, rfl⟩ (.idle rfl))
  | channelBindResponse =>
    intro _
    cases chan with
    | none => exact .refl none turn
    | some i =>
      refine Settles.setChannel ?_ rfl rfl ⟨rfl, rfl, rfl, rfl⟩ (.idle rfl)
      exact fun _ => ⟨rfl, rfl, rfl, rfl, .inl rfl⟩
  | channelBindError =>
    intro _
    cases chan with
    | none => exact .failed nofun (.refl none turn)
    | some i =>
      refine .failed nofun (Settles.setChannel ?_ rfl rfl ⟨rfl, rfl, rfl, rfl⟩ (.idle rfl))
      exact fun _ => ⟨rfl, rfl, rfl, rfl, .inl rfl⟩
  | other =>
    intro _
    exact .refl none turn

/-- A response sends nothing. -/
theorem turnHandleResponse_settles (crypto : CryptoProvider) (nowMs : UInt32)
    (data : List UInt8) :
    Settles (turnRenews crypto turn nowMs data) none turn
      (turnHandleResponse crypto turn nowMs data).1 := by
  unfold turnRenews
  cases haccepted : turnAccepted crypto turn data with
  | none =>
    rw [turnHandleResponse_eq, haccepted]
    exact .refl none turn
  | some msg =>
    rw [turnHandleResponse_accepted nowMs haccepted]
    dsimp only [Option.any_some]
    by_cases hstale : IsStaleNonce msg
    · have hchallenge : turnIsChallenge msg = true := by
        unfold turnIsChallenge
        dsimp only
        rw [hstale.1, hstale.2]
        decide
      rw [if_pos hstale, hchallenge]
      exact turnHandleStaleNonce_handled hrefresh ..
    · rw [if_neg hstale]
      exact turnDispatchResponse_handled crypto nowMs hstale _ _

end

end Nanortc.Spec
