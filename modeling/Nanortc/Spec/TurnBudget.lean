import Nanortc.Spec.TurnSends

/-!
# The budget of requests

Beside the client we keep a ledger of the packets it has sent, each with the number of its request:
a request begins with the packet that is sent for an idle slot, and goes on while the slot is
outstanding. A request is sent seven times at most, however often its nonce is replaced. Within a
request the transaction id changes exactly with the nonce, and the same id always means the same
bytes; an id that has been replaced, or whose request is over, is answered in vain.

## Key results

- `Ledger.settle`, `Ledger.send`: what one call does to the ledger
- `Ledger.step`: the ledger stays in order in every call
- `turn_budget`: every run keeps within the budget
-/

namespace Nanortc.Spec

open Nanortc.ForStd Nanortc.Native

/-! ### The ledger -/

/-- A packet that was sent. `request` is the number of the call that began the request, `nonce`
says how many nonces had been taken over when the packet was signed (0 without credentials). A
deallocation belongs to no slot. -/
structure Transmission where
  slot : Option TurnSlot
  request : Nat
  nonce : Nat
  txid : List UInt8
  packet : List UInt8
deriving Repr, DecidableEq

/-- A client and the ledger of what it has sent. -/
structure TurnLedger where
  turn : NanoTurn
  calls : Nat := 0
  nonces : Nat := 0
  begun : TurnSlot → Nat := fun _ => 0
  sent : List Transmission := []

/-- The slots of a client. -/
def turnSlots (turn : NanoTurn) : List TurnSlot :=
  .transaction :: ((List.range turn.permissions.length).map .permission ++
    (List.range turn.channels.length).map .channel)

/-- The slot has an outstanding request, and not as many transmissions as before. -/
def slotAdvances (turn turn' : NanoTurn) (k : TurnSlot) : Bool :=
  match slotView turn' k with
  | none => false
  | some v' => (slotView turn k).map (·.transmissions) != some v'.transmissions

/-- The request a slot sends for in the next call: a new one if the slot is idle. -/
def TurnLedger.requestOf (s : TurnLedger) (k : TurnSlot) : Nat :=
  if slotView s.turn k = none then s.calls else s.begun k

/-- The nonces behind the packets of a slot. -/
def TurnLedger.nonceOf (s : TurnLedger) (k : TurnSlot) : Nat :=
  if slotSigned s.turn k then s.nonces else 0

/-- The entry of a packet that advances a slot. -/
def TurnLedger.entry (s : TurnLedger) (turn' : NanoTurn) (packet : List UInt8) (k : TurnSlot) :
    Transmission where
  slot := some k
  request := s.requestOf k
  nonce := if slotSigned turn' k then s.nonces else 0
  txid := ((slotView turn' k).map (·.txid)).getD []
  packet := packet

/-- One call of the ledger's client, with its result. -/
def TurnLedger.call (s : TurnLedger) (r : NanoTurn × Except Rc (List UInt8)) : TurnLedger where
  turn := r.1
  calls := s.calls + 1
  nonces := s.nonces
  begun := s.requestOf
  sent := s.sent ++ (emitted r.2).filterMap fun packet =>
    ((turnSlots r.1).find? (slotAdvances s.turn r.1)).map (s.entry r.1 packet)

/-- One input; a poll is the retransmissions and the work behind them. -/
def ledgerStep (crypto : CryptoProvider) (s : TurnLedger) (i : TurnInput) : TurnLedger :=
  match i with
  | .configure _ _ _ | .resetPeerState => s.call (turnStep crypto s.turn i, .ok [])
  | .startAllocate random bufLen => s.call (turnStartAllocate crypto s.turn random bufLen)
  | .generateRefresh nowMs random bufLen =>
    s.call (turnGenerateRefresh crypto s.turn nowMs random bufLen)
  | .createPermission peer random bufLen =>
    s.call (turnCreatePermission crypto s.turn peer random bufLen)
  | .channelBind peer random bufLen => s.call (turnChannelBind crypto s.turn peer random bufLen)
  | .generateRetransmit nowMs random bufLen =>
    s.call (turnGenerateRetransmit crypto s.turn nowMs random bufLen)
  | .pollOutput nowMs random bufLen =>
    match turnPollWork crypto s.turn nowMs random bufLen with
    | .inl r => s.call r
    | .inr (turn, work) =>
      (s.call (turn, .ok [])).call (turnDoWork crypto turn nowMs work random bufLen)
  | .deallocate random bufLen =>
    let r := turnDeallocate crypto s.turn random bufLen
    { s.call (r.1, .ok []) with
      sent := s.sent ++ (emitted r.2).map fun packet =>
        ⟨none, s.calls, s.nonces, random.getD [], packet⟩ }
  | .handleResponse nowMs data =>
    { s.call (turnStep crypto s.turn i, .ok []) with
      nonces := if turnRenews crypto s.turn nowMs data then s.nonces + 1 else s.nonces }

/-- The ledger of a new client. -/
def ledgerStart : TurnLedger := { turn := turnInit }

/-! ### Order -/

/-- Two packets, the second one sent later. An id is used for one request only; within a request the
id changes exactly with the nonce, and the same id means the same bytes. -/
def IdsConsistent (t t' : Transmission) : Prop :=
  (t'.txid = t.txid → t'.request = t.request) ∧
  (t'.request = t.request → t'.slot = t.slot ∧ (t'.txid = t.txid ↔ t'.nonce = t.nonce) ∧
    (t'.txid = t.txid → t'.packet = t.packet))

/-- The ledger of an outstanding request. -/
structure SlotLedger (crypto : CryptoProvider) (s : TurnLedger) (k : TurnSlot) (v : RequestView) :
    Prop where
  count : s.sent.countP (·.request = s.begun k) = v.transmissions
  few : v.transmissions ≤ turnMaxTransmissions
  begun : s.begun k < s.calls
  own : ∀ t ∈ s.sent, t.request = s.begun k → t.slot = some k
  ids : ∀ t ∈ s.sent, t.txid = v.txid → t.request = s.begun k
  known : ∃ t ∈ s.sent, t.request = s.begun k ∧ t.txid = v.txid
  waiting : v.pending = .waiting → ∀ t ∈ s.sent, t.request = s.begun k →
    (t.txid = v.txid ↔ t.nonce = s.nonceOf k) ∧
    (t.txid = v.txid → slotPacket crypto s.turn k = .ok t.packet)
  reauth : v.pending = .reauth → slotSigned s.turn k = true ∧
    ∀ t ∈ s.sent, t.request = s.begun k → t.nonce < s.nonces

/-- A ledger in order; `drawn` are the ids that were drawn. -/
structure Ledger (crypto : CryptoProvider) (drawn : List (List UInt8)) (s : TurnLedger) : Prop where
  slots : ∀ k v, slotView s.turn k = some v → SlotLedger crypto s k v
  drawn : ∀ t ∈ s.sent, t.txid ∈ drawn
  header : ∀ t ∈ s.sent, (t.packet.drop 8).take stunTxidSize = t.txid
  nonces : ∀ t ∈ s.sent, t.nonce ≤ s.nonces
  requests : ∀ t ∈ s.sent, t.request < s.calls
  budget : ∀ n, s.sent.countP (·.request = n) ≤ turnMaxTransmissions
  pairs : s.sent.Pairwise IdsConsistent

theorem requestOf_view {s : TurnLedger} {k : TurnSlot} {v : RequestView}
    (h : slotView s.turn k = some v) : s.requestOf k = s.begun k :=
  if_neg (by rw [h]; exact nofun)

section

variable {crypto : CryptoProvider} {drawn : List (List UInt8)} {s : TurnLedger}
  (h : Ledger crypto drawn s)

include h

/-- A call that sends nothing. -/
theorem Ledger.settle {renews : Bool} {turn' : NanoTurn} (hs : Settles renews none s.turn turn') :
    Ledger crypto drawn
      { turn := turn', calls := s.calls + 1, begun := s.requestOf, sent := s.sent,
        nonces := if renews then s.nonces + 1 else s.nonces } where
  slots k v' hv' := by
    obtain ⟨v, hv, hkept⟩ := hs.view crypto nofun hv'
    have hold := h.slots k v hv
    have hbegun := requestOf_view hv
    have hmono : s.nonces ≤ if renews then s.nonces + 1 else s.nonces := by
      split <;> omega
    refine ⟨?_, ?_, ?_, ?_, ?_, ?_, fun hw => ?_, fun hr => ?_⟩
    · show s.sent.countP (·.request = s.requestOf k) = v'.transmissions
      rw [hbegun, hkept.transmissions]
      exact hold.count
    · exact hkept.transmissions ▸ hold.few
    · show s.requestOf k < s.calls + 1
      rw [hbegun]
      exact Nat.lt_succ_of_lt hold.begun
    · show ∀ t ∈ s.sent, t.request = s.requestOf k → _
      rw [hbegun]
      exact hold.own
    · show ∀ t ∈ s.sent, t.txid = v'.txid → t.request = s.requestOf k
      rw [hbegun, hkept.txid]
      exact hold.ids
    · show ∃ t ∈ s.sent, t.request = s.requestOf k ∧ t.txid = v'.txid
      rw [hbegun, hkept.txid]
      exact hold.known
    · -- the nonce counts only for a signed request, and those do not wait for the old one
      obtain ⟨hw, hpacket, hplain⟩ := hkept.waiting hw
      show ∀ t ∈ s.sent, t.request = s.requestOf k →
        (t.txid = v'.txid ↔ t.nonce = if slotSigned turn' k then
          (if renews then s.nonces + 1 else s.nonces) else 0) ∧
        (t.txid = v'.txid → slotPacket crypto turn' k = .ok t.packet)
      rw [hbegun, hkept.txid, hkept.signed, hpacket]
      have hsame : (if slotSigned s.turn k then (if renews then s.nonces + 1 else s.nonces) else 0) =
          s.nonceOf k := by
        unfold TurnLedger.nonceOf
        cases renews with
        | false => rfl
        | true =>
          rw [hplain rfl]
          rfl
      rw [hsame]
      exact hold.waiting hw
    · show slotSigned turn' k = true ∧ ∀ t ∈ s.sent, t.request = s.requestOf k →
        t.nonce < if renews then s.nonces + 1 else s.nonces
      rw [hbegun, hkept.signed]
      cases hkept.reauth hr with
      | inl hr =>
        obtain ⟨hsigned, hlt⟩ := hold.reauth hr
        exact ⟨hsigned, fun t ht hreq => Nat.lt_of_lt_of_le (hlt t ht hreq) hmono⟩
      | inr hnew =>
        refine ⟨hnew.2, fun t ht _ => ?_⟩
        rw [hnew.1]
        exact Nat.lt_succ_of_le (h.nonces t ht)
  drawn := h.drawn
  header := h.header
  nonces t ht := by
    have := h.nonces t ht
    show t.nonce ≤ if renews then s.nonces + 1 else s.nonces
    split <;> omega
  requests t ht := Nat.lt_succ_of_lt (h.requests t ht)
  budget := h.budget
  pairs := h.pairs

/-- More ids are drawn. -/
theorem Ledger.more (more : List (List UInt8)) : Ledger crypto (drawn ++ more) s :=
  { h with drawn := fun t ht => List.mem_append_left more (h.drawn t ht) }

/-- The ids of two outstanding requests differ. -/
theorem Ledger.slot_eq {k j : TurnSlot} {v w : RequestView} (hk : slotView s.turn k = some v)
    (hj : slotView s.turn j = some w) (htxid : v.txid = w.txid) : k = j := by
  obtain ⟨t, ht, hreq, hid⟩ := (h.slots k v hk).known
  have hownk := (h.slots k v hk).own t ht hreq
  have hownj := (h.slots j w hj).own t ht ((h.slots j w hj).ids t ht (hid.trans htxid))
  exact Option.some.inj (hownk.symm.trans hownj)

/-- The number of a request belongs to one slot. -/
theorem Ledger.begun_inj {k j : TurnSlot} {v w : RequestView} (hk : slotView s.turn k = some v)
    (hj : slotView s.turn j = some w) (hbegun : s.begun k = s.begun j) : k = j := by
  obtain ⟨t, ht, hreq, -⟩ := (h.slots k v hk).known
  have hownk := (h.slots k v hk).own t ht hreq
  have hownj := (h.slots j w hj).own t ht (hreq.trans hbegun)
  exact Option.some.inj (hownk.symm.trans hownj)

end

/-! ### Packets -/

theorem mem_turnSlots {turn : NanoTurn} {k : TurnSlot} {v : RequestView}
    (h : slotView turn k = some v) : k ∈ turnSlots turn := by
  unfold turnSlots
  cases k with
  | transaction => exact List.mem_cons_self
  | permission i =>
    obtain ⟨p, hp, -⟩ := slotView_permission h
    have hi : i < turn.permissions.length := (List.getElem?_eq_some_iff.mp hp).1
    simp [hi]
  | channel i =>
    obtain ⟨c, hc, -⟩ := slotView_channel h
    have hi : i < turn.channels.length := (List.getElem?_eq_some_iff.mp hc).1
    simp [hi]

/-- The slot a packet is sent for is the one that advances. -/
theorem find?_slotAdvances {crypto : CryptoProvider} {turn turn' : NanoTurn} {k : TurnSlot}
    {v' : RequestView} {random : Option (List UInt8)} (hs : Settles false (some k) turn turn')
    (hv : slotView turn' k = some v') (hslot : SlotSends crypto turn turn' random k v') :
    (turnSlots turn').find? (slotAdvances turn turn') = some k := by
  have hother (j : TurnSlot) (hj : slotAdvances turn turn' j = true) : j = k := by
    by_contra hne
    unfold slotAdvances at hj
    split at hj
    · exact nomatch hj
    · rename_i w' hw'
      obtain ⟨w, hw, hkept⟩ := hs.view crypto
        (fun h => hne (Option.some.inj h).symm) hw'
      rw [hw, Option.map_some, hkept.transmissions] at hj
      simp at hj
  have hself : slotAdvances turn turn' k = true := by
    unfold slotAdvances
    rw [hv]
    cases hslot with
    | starts hidle _ _ =>
      rw [hidle]
      rfl
    | again v hold _ hcount _ _ _ =>
      rw [hold, Option.map_some]
      simp
      omega
  cases hfind : (turnSlots turn').find? (slotAdvances turn turn') with
  | none =>
    rw [List.find?_eq_none] at hfind
    exact absurd hself (hfind k (mem_turnSlots hv))
  | some j => rw [hother j (List.find?_some hfind)]

theorem drop_stunHeader (type length : UInt16) (txid rest : List UInt8) :
    (stunHeader type length txid ++ rest).drop 8 = txid ++ rest := rfl

theorem stunFinalizeLength_header (type length : UInt16) (txid rest : List UInt8) :
    ∃ length', stunFinalizeLength (stunHeader type length txid ++ rest) =
      stunHeader type length' txid ++ rest :=
  ⟨_, writeAt_stunHeader type length _ txid rest⟩

theorem turnSign_header (crypto : CryptoProvider) (turn : NanoTurn) (type length : UInt16)
    (txid rest : List UInt8) :
    ∃ length' rest', turnSign crypto turn (stunHeader type length txid ++ rest) =
      stunHeader type length' txid ++ rest' := by
  unfold turnSign stunAppendIntegrity
  dsimp only
  rw [List.append_assoc, List.append_assoc, List.append_assoc, writeAt_stunHeader,
    List.append_assoc]
  exact ⟨_, _, writeAt_stunHeader type _ _ txid _⟩

/-- The packet of a slot has the slot's transaction id in its header. -/
theorem slotPacket_header {crypto : CryptoProvider} {turn : NanoTurn} {k : TurnSlot}
    {v : RequestView} {out : List UInt8} (hv : slotView turn k = some v)
    (hout : slotPacket crypto turn k = .ok out) :
    ∃ type length rest, out = stunHeader type length v.txid ++ rest := by
  have hsigned {type length : UInt16} {txid rest : List UInt8}
      (h : turnSign crypto turn (stunHeader type length txid ++ rest) = out) :
      ∃ type length rest, out = stunHeader type length txid ++ rest := by
    obtain ⟨length', rest', hsign⟩ := turnSign_header crypto turn type length txid rest
    exact ⟨type, length', rest', h.symm.trans hsign⟩
  cases k with
  | transaction =>
    obtain ⟨-, rfl⟩ := slotView_transaction hv
    unfold slotPacket at hout
    dsimp only at hout ⊢
    split at hout
    · unfold turnBuildAllocate at hout
      rw [if_neg (Nat.lt_irrefl _)] at hout
      have hout := Except.ok.inj hout
      rw [List.append_assoc] at hout
      split at hout
      · exact hsigned hout
      · obtain ⟨length', hfinal⟩ := stunFinalizeLength_header 0x0003 0 turn.lastTxid _
        exact ⟨_, length', _, hout.symm.trans hfinal⟩
    · unfold turnBuildRefresh at hout
      rw [if_neg (Nat.lt_irrefl _)] at hout
      exact hsigned (Except.ok.inj hout)
  | permission i =>
    obtain ⟨p, hp, -, rfl⟩ := slotView_permission hv
    unfold slotPacket turnBuildPermission at hout
    simp only [List.getD_eq_getElem?_getD, hp, Option.getD_some, Nat.lt_irrefl, if_false] at hout
    exact hsigned (Except.ok.inj hout)
  | channel i =>
    obtain ⟨c, hc, -, rfl⟩ := slotView_channel hv
    unfold slotPacket turnBuildChannelBind at hout
    simp only [List.getD_eq_getElem?_getD, hc, Option.getD_some, Nat.lt_irrefl, if_false] at hout
    rw [List.append_assoc] at hout
    exact hsigned (Except.ok.inj hout)

/-! ### One call -/

section

variable {crypto : CryptoProvider} {drawn : List (List UInt8)} {s : TurnLedger}
  {random : Option (List UInt8)} (h : Ledger crypto drawn s) (hfill : FillsTxid random)
  (hfresh : ∀ txid, random = some txid → txid ∉ drawn)

/-- The entry of a call that sends, and the packets before it. -/
structure Entry (crypto : CryptoProvider) (drawn : List (List UInt8)) (s : TurnLedger)
    (turn' : NanoTurn) (k : TurnSlot) (v' : RequestView) (t' : Transmission) : Prop where
  slot : t'.slot = some k
  request : t'.request = s.requestOf k
  nonce : t'.nonce = if slotSigned turn' k then s.nonces else 0
  txid : t'.txid = v'.txid
  header : (t'.packet.drop 8).take stunTxidSize = t'.txid
  packet : slotPacket crypto turn' k = .ok t'.packet
  few : v'.transmissions ≤ turnMaxTransmissions
  count : s.sent.countP (·.request = t'.request) + 1 = v'.transmissions
  begun : t'.request ≤ s.calls
  own : ∀ t ∈ s.sent, t.request = t'.request → t.slot = some k
  ids : ∀ t ∈ s.sent, t.txid = v'.txid → t.request = t'.request
  same : ∀ t ∈ s.sent, t.request = t'.request → (t.txid = v'.txid ↔ t.nonce = t'.nonce) ∧
    (t.txid = v'.txid → t.packet = t'.packet)
  others : ∀ j w, j ≠ k → slotView s.turn j = some w → w.txid ≠ v'.txid ∧ s.begun j ≠ t'.request

include h hfill hfresh

theorem Ledger.entry {turn' : NanoTurn} {k : TurnSlot} {v' : RequestView} {out : List UInt8}
    (hv : slotView turn' k = some v') (hbuilt : slotPacket crypto turn' k = .ok out)
    (hslot : SlotSends crypto s.turn turn' random k v') :
    Entry crypto drawn s turn' k v' (s.entry turn' out k) := by
  have htxid : (s.entry turn' out k).txid = v'.txid := by
    show ((slotView turn' k).map (·.txid)).getD [] = v'.txid
    rw [hv]
    rfl
  -- an id that was drawn in this call has been used for nothing
  have hnew (hdrawn : random = some v'.txid) (t : Transmission) (ht : t ∈ s.sent) :
      t.txid ≠ v'.txid := fun heq => hfresh _ hdrawn (heq ▸ h.drawn t ht)
  have hnewHeader (hdrawn : random = some v'.txid) :
      (out.drop 8).take stunTxidSize = (s.entry turn' out k).txid := by
    obtain ⟨type, length, rest, rfl⟩ := slotPacket_header hv hbuilt
    rw [htxid, drop_stunHeader, List.take_append_of_le_length (hfill _ hdrawn).ge,
      List.take_of_length_le (hfill _ hdrawn).le]
  have hnewOthers (hdrawn : random = some v'.txid) (j : TurnSlot) (w : RequestView)
      (hj : slotView s.turn j = some w) : w.txid ≠ v'.txid := by
    obtain ⟨t, ht, -, hid⟩ := (h.slots j w hj).known
    exact hid ▸ hnew hdrawn t ht
  cases hslot with
  | starts hidle hfirst hdrawn =>
    have hreq : s.requestOf k = s.calls := if_pos hidle
    have hnone (t : Transmission) (ht : t ∈ s.sent) : t.request ≠ s.requestOf k := by
      rw [hreq]
      exact (h.requests t ht).ne
    refine ⟨rfl, rfl, rfl, htxid, hnewHeader hdrawn, hbuilt, ?_, ?_, hreq.le,
      fun t ht heq => absurd heq (hnone t ht), fun t ht heq => absurd heq (hnew hdrawn t ht),
      fun t ht heq => absurd heq (hnone t ht), fun j w hj hw => ⟨hnewOthers hdrawn j w hw, ?_⟩⟩
    · rw [hfirst]
      decide
    · have hzero : s.sent.countP (·.request = s.requestOf k) = 0 :=
        List.countP_eq_zero.mpr fun t ht => by simpa using hnone t ht
      show s.sent.countP (·.request = s.requestOf k) + 1 = v'.transmissions
      rw [hzero, hfirst]
    · show s.begun j ≠ s.requestOf k
      rw [hreq]
      exact (h.slots j w hw).begun.ne
  | again v hold hleft hcount hsigned hsame hrenewed =>
    have hslot := h.slots k v hold
    have hreq : s.requestOf k = s.begun k := requestOf_view hold
    have hnonce : (if slotSigned turn' k then s.nonces else 0) = s.nonceOf k := by
      rw [hsigned]
      rfl
    have hcounted : s.sent.countP (·.request = s.requestOf k) + 1 = v'.transmissions := by
      rw [hreq, hslot.count, hcount]
    have hfew : v'.transmissions ≤ turnMaxTransmissions := by omega
    have hothers (j : TurnSlot) (w : RequestView) (hj : j ≠ k) (hw : slotView s.turn j = some w) :
        s.begun j ≠ s.requestOf k := by
      rw [hreq]
      exact fun heq => hj (h.begun_inj hw hold heq)
    have hown : ∀ t ∈ s.sent, t.request = s.requestOf k → t.slot = some k := by
      rw [hreq]
      exact hslot.own
    cases hpending : v.pending with
    | none => exact absurd hpending (slotView_pending hold)
    | waiting =>
      -- the request goes out as it was
      obtain ⟨hid, hpacket⟩ := hsame hpending
      have hwaiting := hslot.waiting hpending
      rw [← hpacket, hbuilt] at hwaiting
      obtain ⟨t, ht, htreq, httxid⟩ := hslot.known
      have hout : out = t.packet := Except.ok.inj ((hwaiting t ht htreq).2 httxid)
      refine ⟨rfl, rfl, rfl, htxid, ?_, hbuilt, hfew, hcounted, ?_, hown, ?_, ?_,
        fun j w hj hw => ⟨fun heq => ?_, hothers j w hj hw⟩⟩
      · show (out.drop 8).take stunTxidSize = _
        rw [htxid, hid, hout, h.header t ht, httxid]
      · show s.requestOf k ≤ s.calls
        rw [hreq]
        exact hslot.begun.le
      · show ∀ t ∈ s.sent, t.txid = v'.txid → t.request = s.requestOf k
        rw [hid, hreq]
        exact hslot.ids
      · show ∀ t ∈ s.sent, t.request = s.requestOf k → (t.txid = v'.txid ↔
          t.nonce = if slotSigned turn' k then s.nonces else 0) ∧ (t.txid = v'.txid → t.packet = out)
        rw [hid, hreq, hnonce]
        intro t ht htreq
        obtain ⟨hiff, hbytes⟩ := hwaiting t ht htreq
        exact ⟨hiff, fun heq => (Except.ok.inj (hbytes heq)).symm⟩
      · rw [hid] at heq
        exact hj (h.slot_eq hw hold heq)
    | reauth =>
      -- the old id belonged to an older nonce
      have hdrawn := hrenewed hpending
      obtain ⟨hsig, holder⟩ := hslot.reauth hpending
      refine ⟨rfl, rfl, rfl, htxid, hnewHeader hdrawn, hbuilt, hfew, hcounted, ?_, hown,
        fun t ht heq => absurd heq (hnew hdrawn t ht), ?_,
        fun j w hj hw => ⟨hnewOthers hdrawn j w hw, hothers j w hj hw⟩⟩
      · show s.requestOf k ≤ s.calls
        rw [hreq]
        exact hslot.begun.le
      · show ∀ t ∈ s.sent, t.request = s.requestOf k → (t.txid = v'.txid ↔
          t.nonce = if slotSigned turn' k then s.nonces else 0) ∧ (t.txid = v'.txid → t.packet = out)
        rw [hreq, hsigned, hsig]
        intro t ht htreq
        have hne := hnew hdrawn t ht
        exact ⟨⟨fun heq => absurd heq hne, fun heq => absurd heq (holder t ht htreq).ne⟩,
          fun heq => absurd heq hne⟩

omit hfill hfresh in
/-- A packet more in the ledger. -/
theorem Ledger.send {turn' : NanoTurn} {k : TurnSlot} {v' : RequestView} {t' : Transmission}
    (hs : Settles false (some k) s.turn turn') (hv : slotView turn' k = some v')
    (hw : v'.pending = .waiting) (ht' : Entry crypto drawn s turn' k v' t')
    (hdrawn : t'.txid ∈ drawn ++ random.toList) :
    Ledger crypto (drawn ++ random.toList)
      { turn := turn', calls := s.calls + 1, nonces := s.nonces, begun := s.requestOf,
        sent := s.sent ++ [t'] } where
  slots j w' hw' := by
    by_cases hj : j = k
    · subst hj
      obtain rfl : v' = w' := Option.some.inj (hv.symm.trans hw')
      have hreq : s.requestOf j = t'.request := ht'.request.symm
      refine ⟨?_, ht'.few, ?_, ?_, ?_, ?_, fun _ => ?_, fun hr => ?_⟩
      · show (s.sent ++ [t']).countP (·.request = s.requestOf j) = v'.transmissions
        rw [hreq, List.countP_append, ← ht'.count]
        simp
      · show s.requestOf j < s.calls + 1
        rw [hreq]
        exact Nat.lt_succ_of_le ht'.begun
      · show ∀ t ∈ s.sent ++ [t'], t.request = s.requestOf j → t.slot = some j
        rw [hreq]
        intro t ht heq
        cases List.mem_append.mp ht with
        | inl ht => exact ht'.own t ht heq
        | inr ht => exact List.mem_singleton.mp ht ▸ ht'.slot
      · show ∀ t ∈ s.sent ++ [t'], t.txid = v'.txid → t.request = s.requestOf j
        rw [hreq]
        intro t ht heq
        cases List.mem_append.mp ht with
        | inl ht => exact ht'.ids t ht heq
        | inr ht => rw [List.mem_singleton.mp ht]
      · exact ⟨t', List.mem_append_right _ List.mem_cons_self, hreq.symm, ht'.txid⟩
      · show ∀ t ∈ s.sent ++ [t'], t.request = s.requestOf j →
          (t.txid = v'.txid ↔ t.nonce = if slotSigned turn' j then s.nonces else 0) ∧
          (t.txid = v'.txid → slotPacket crypto turn' j = .ok t.packet)
        rw [hreq, ← ht'.nonce]
        intro t ht heq
        cases List.mem_append.mp ht with
        | inl ht =>
          obtain ⟨hiff, hbytes⟩ := ht'.same t ht heq
          exact ⟨hiff, fun hid => (hbytes hid).symm ▸ ht'.packet⟩
        | inr ht =>
          obtain rfl := List.mem_singleton.mp ht
          exact ⟨⟨fun _ => rfl, fun _ => ht'.txid⟩, fun _ => ht'.packet⟩
      · rw [hw] at hr
        exact nomatch hr
    · -- another slot, which the packet does not belong to
      obtain ⟨w, hwOld, hkept⟩ := hs.view crypto
        (fun h => hj (Option.some.inj h).symm) hw'
      have hold := h.slots j w hwOld
      have hbegun := requestOf_view hwOld
      obtain ⟨hid, hnumber⟩ := ht'.others j w hj hwOld
      have hmem (t : Transmission) (ht : t ∈ s.sent ++ [t']) (heq : t.request = s.begun j) :
          t ∈ s.sent := by
        cases List.mem_append.mp ht with
        | inl ht => exact ht
        | inr ht =>
          rw [List.mem_singleton.mp ht] at heq
          exact absurd heq.symm hnumber
      refine ⟨?_, hkept.transmissions ▸ hold.few, ?_, ?_, ?_, ?_, fun hwait => ?_, fun hr => ?_⟩
      · show (s.sent ++ [t']).countP (·.request = s.requestOf j) = w'.transmissions
        rw [hbegun, hkept.transmissions, List.countP_append, hold.count]
        simp [Ne.symm hnumber]
      · show s.requestOf j < s.calls + 1
        rw [hbegun]
        exact Nat.lt_succ_of_lt hold.begun
      · show ∀ t ∈ s.sent ++ [t'], t.request = s.requestOf j → _
        rw [hbegun]
        exact fun t ht heq => hold.own t (hmem t ht heq) heq
      · show ∀ t ∈ s.sent ++ [t'], t.txid = w'.txid → t.request = s.requestOf j
        rw [hbegun, hkept.txid]
        intro t ht heq
        cases List.mem_append.mp ht with
        | inl ht => exact hold.ids t ht heq
        | inr ht =>
          rw [List.mem_singleton.mp ht, ht'.txid] at heq
          exact absurd heq.symm hid
      · show ∃ t ∈ s.sent ++ [t'], t.request = s.requestOf j ∧ t.txid = w'.txid
        rw [hbegun, hkept.txid]
        obtain ⟨t, ht, hknown⟩ := hold.known
        exact ⟨t, List.mem_append_left _ ht, hknown⟩
      · obtain ⟨hwait, hpacket, -⟩ := hkept.waiting hwait
        show ∀ t ∈ s.sent ++ [t'], t.request = s.requestOf j →
          (t.txid = w'.txid ↔ t.nonce = if slotSigned turn' j then s.nonces else 0) ∧
          (t.txid = w'.txid → slotPacket crypto turn' j = .ok t.packet)
        rw [hbegun, hkept.txid, hkept.signed, hpacket]
        exact fun t ht heq => hold.waiting hwait t (hmem t ht heq) heq
      · show slotSigned turn' j = true ∧ ∀ t ∈ s.sent ++ [t'], t.request = s.requestOf j →
          t.nonce < s.nonces
        rw [hbegun, hkept.signed]
        cases hkept.reauth hr with
        | inl hr =>
          obtain ⟨hsigned, hlt⟩ := hold.reauth hr
          exact ⟨hsigned, fun t ht heq => hlt t (hmem t ht heq) heq⟩
        | inr hnew => exact nomatch hnew.1
  drawn t ht := by
    cases List.mem_append.mp ht with
    | inl ht => exact List.mem_append_left _ (h.drawn t ht)
    | inr ht => exact List.mem_singleton.mp ht ▸ hdrawn
  header t ht := by
    cases List.mem_append.mp ht with
    | inl ht => exact h.header t ht
    | inr ht => exact List.mem_singleton.mp ht ▸ ht'.header
  nonces t ht := by
    cases List.mem_append.mp ht with
    | inl ht => exact h.nonces t ht
    | inr ht =>
      rw [List.mem_singleton.mp ht, ht'.nonce]
      show _ ≤ s.nonces
      split <;> omega
  requests t ht := by
    cases List.mem_append.mp ht with
    | inl ht => exact Nat.lt_succ_of_lt (h.requests t ht)
    | inr ht =>
      rw [List.mem_singleton.mp ht]
      exact Nat.lt_succ_of_le ht'.begun
  budget n := by
    show (s.sent ++ [t']).countP (·.request = n) ≤ turnMaxTransmissions
    rw [List.countP_append]
    by_cases hn : t'.request = n
    · subst hn
      have hcount := ht'.count
      have hfew := ht'.few
      simp only [List.countP_singleton, decide_true, if_true]
      omega
    · simp only [List.countP_singleton, hn, decide_false, Bool.false_eq_true, if_false]
      exact h.budget n
  pairs := by
    show (s.sent ++ [t']).Pairwise IdsConsistent
    rw [List.pairwise_append]
    refine ⟨h.pairs, List.pairwise_singleton _ _, fun t ht u hu => ?_⟩
    obtain rfl := List.mem_singleton.mp hu
    refine ⟨fun hid => (ht'.ids t ht (hid.symm.trans ht'.txid)).symm, fun hreq => ?_⟩
    obtain ⟨hiff, hbytes⟩ := ht'.same t ht hreq.symm
    rw [← ht'.txid] at hiff hbytes
    refine ⟨ht'.slot.trans (ht'.own t ht hreq.symm).symm, ?_, fun hid => (hbytes hid.symm).symm⟩
    exact ⟨fun hid => (hiff.mp hid.symm).symm, fun hnonce => (hiff.mpr hnonce.symm).symm⟩

/-- **One call**: it sends nothing, or its packet goes into the ledger. -/
theorem Ledger.call {r : NanoTurn × Except Rc (List UInt8)}
    (hr : CallEffect crypto s.turn random r) :
    Ledger crypto (drawn ++ random.toList) (s.call r) ∧
      (s.call r).sent.map (·.packet) = s.sent.map (·.packet) ++ emitted r.2 := by
  cases hr with
  | quiet hout hs =>
    have hcall : s.call r =
        { turn := r.1, calls := s.calls + 1, nonces := s.nonces, begun := s.requestOf,
          sent := s.sent } := by
      unfold TurnLedger.call
      rw [hout, List.filterMap_nil, List.append_nil]
    rw [hcall, hout, List.append_nil]
    exact ⟨(h.settle hs).more _, rfl⟩
  | sends k v' out hout hne hs hv hw hbuilt hslot =>
    have hentry := h.entry hfill hfresh hv hbuilt hslot
    have hemitted : emitted r.2 = [out] := by
      rw [hout]
      cases out with
      | nil => exact absurd rfl hne
      | cons b bs => rfl
    have hcall : s.call r =
        { turn := r.1, calls := s.calls + 1, nonces := s.nonces, begun := s.requestOf,
          sent := s.sent ++ [s.entry r.1 out k] } := by
      unfold TurnLedger.call
      rw [hemitted, List.filterMap_cons, find?_slotAdvances hs hv hslot]
      rfl
    rw [hcall, hemitted]
    refine ⟨h.send hs hv hw hentry ?_, List.map_append⟩
    -- the id was drawn now, or it is the id of an earlier packet
    rw [hentry.txid]
    cases hslot with
    | starts _ _ hdrawn =>
      rw [hdrawn]
      exact List.mem_append_right _ (Option.mem_toList.mpr rfl)
    | again v hold _ _ _ hsame hrenewed =>
      cases hpending : v.pending with
      | none => exact absurd hpending (slotView_pending hold)
      | waiting =>
        obtain ⟨t, ht, -, hid⟩ := (h.slots k v hold).known
        rw [(hsame hpending).1, ← hid]
        exact List.mem_append_left _ (h.drawn t ht)
      | reauth =>
        rw [hrenewed hpending]
        exact List.mem_append_right _ (Option.mem_toList.mpr rfl)

end

/-! ### Inputs -/

theorem turnDeallocate_settles (crypto : CryptoProvider) (turn : NanoTurn)
    (random : Option (List UInt8)) (bufLen : Nat) :
    Settles false none turn (turnDeallocate crypto turn random bufLen).1 := by
  unfold turnDeallocate
  split
  · exact .refl none turn
  split
  · exact .refl none turn
  cases random with
  | none => exact .refl none turn
  | some txid =>
    dsimp only
    split
    · exact .refl none turn
    · exact .dropped (.over rfl) rfl rfl ⟨rfl, rfl, rfl, rfl⟩

/-- The packet of a deallocation. -/
theorem turnDeallocate_packet {crypto : CryptoProvider} {turn : NanoTurn}
    {random : Option (List UInt8)} {bufLen : Nat} {packet : List UInt8}
    (h : packet ∈ emitted (turnDeallocate crypto turn random bufLen).2) :
    (∀ k, slotView (turnDeallocate crypto turn random bufLen).1 k = none) ∧
    emitted (turnDeallocate crypto turn random bufLen).2 = [packet] ∧
    ∃ txid type length rest, random = some txid ∧
      packet = stunHeader type length txid ++ rest := by
  unfold turnDeallocate at h ⊢
  split at h
  · exact nomatch h
  rename_i hstate
  split at h
  · exact nomatch h
  rename_i hbuf
  rw [if_neg hstate, if_neg hbuf]
  cases random with
  | none => exact nomatch h
  | some txid =>
    dsimp only at h ⊢
    cases hbuild : turnBuildRefresh crypto turn 0 txid bufLen with
    | error e =>
      rw [hbuild] at h
      exact nomatch h
    | ok out =>
      rw [hbuild] at h
      dsimp only at h ⊢
      have hne := (turnBuildRefresh_room hbuild).2
      have hemitted : emitted (.ok out) = [out] := by
        cases out with
        | nil => exact absurd rfl hne
        | cons b bs => rfl
      rw [hemitted] at h ⊢
      obtain rfl := List.mem_singleton.mp h
      refine ⟨fun k => ?_, rfl, ?_⟩
      · cases k <;> rfl
      · unfold turnBuildRefresh at hbuild
        rw [if_neg hbuf] at hbuild
        obtain ⟨length', rest', hsign⟩ := turnSign_header crypto turn 0x0004 0 txid
          (stunAttr 0x000D (u32be 0))
        exact ⟨txid, _, length', rest', rfl, (Except.ok.inj hbuild).symm.trans hsign⟩

/-- The first part of a poll, and what is left to do behind it. -/
theorem turnPollWork_effect (crypto : CryptoProvider) (turn : NanoTurn) (nowMs : UInt32)
    (random : Option (List UInt8)) (bufLen : Nat) :
    match turnPollWork crypto turn nowMs random bufLen with
    | .inl r => CallEffect crypto turn random r
    | .inr (t, _) => Settles false none turn t := by
  have hretx := turnGenerateRetransmit_effect crypto turn nowMs random bufLen
  unfold turnPollWork
  revert hretx
  generalize turnGenerateRetransmit crypto turn nowMs random bufLen = r
  intro hretx
  dsimp only
  by_cases hdelay : (turnNextWork turn nowMs).delayMs ≠ 0
  · rw [if_pos hdelay]
    exact .idle crypto turn random
  rw [if_neg hdelay]
  by_cases htype : (turnNextWork turn nowMs).type = .retransmit
  · rw [if_pos htype]
    obtain ⟨t, out⟩ := r
    cases out with
    | error e => exact hretx
    | ok out =>
      cases out with
      | cons b bs => exact hretx
      | nil =>
        -- the loops have sent nothing
        dsimp only
        by_cases hnext : (turnNextWork t nowMs).delayMs ≠ 0
        · rw [if_pos hnext]
          exact hretx
        · rw [if_neg hnext]
          cases hretx with
          | quiet _ hs => exact hs
          | sends _ _ out hout hne _ _ _ _ _ => exact absurd (Except.ok.inj hout).symm hne
  · rw [if_neg htype]
    exact .refl none turn

/-- The calls on a client whose server and credentials are set. -/
def TurnInput.Operates : TurnInput → Prop
  | .configure _ _ _ => False
  | _ => True

instance : DecidablePred TurnInput.Operates := fun i => by
  cases i <;> unfold TurnInput.Operates <;> infer_instance

instance (random : Option (List UInt8)) : Decidable (FillsTxid random) :=
  match random with
  | none => isTrue nofun
  | some txid => decidable_of_iff (txid.length = stunTxidSize)
    ⟨fun hlen _ heq => Option.some.inj heq ▸ hlen, fun hfill => hfill txid rfl⟩

section

variable {crypto : CryptoProvider} {drawn : List (List UInt8)} {s : TurnLedger}
  (h : Ledger crypto drawn s)

include h

/-- A deallocation has a packet of its own. -/
theorem Ledger.deallocate {random : Option (List UInt8)} (hfill : FillsTxid random)
    (hfresh : ∀ txid, random = some txid → txid ∉ drawn) (bufLen : Nat) :
    Ledger crypto (drawn ++ random.toList) (ledgerStep crypto s (.deallocate random bufLen)) := by
  have hsettled := h.settle (turnDeallocate_settles crypto s.turn random bufLen)
  have hpacket (packet : List UInt8)
    (hp : packet ∈ emitted (turnDeallocate crypto s.turn random bufLen).2) :=
      turnDeallocate_packet hp
  unfold ledgerStep
  dsimp only
  revert hsettled hpacket
  generalize turnDeallocate crypto s.turn random bufLen = r
  intro hsettled hpacket
  cases hemitted : emitted r.2 with
  | nil =>
    rw [List.map_nil, List.append_nil]
    exact hsettled.more _
  | cons packet rest =>
    obtain ⟨hover, hone, txid, type, length, tail, rfl, hbytes⟩ :=
      hpacket packet (by rw [hemitted]; exact List.mem_cons_self)
    rw [hemitted] at hone
    rw [hone]
    have hnew (t : Transmission) (ht : t ∈ s.sent) : t.txid ≠ txid :=
      fun heq => hfresh _ rfl (heq ▸ h.drawn t ht)
    have hmem {t : Transmission}
        (ht : t ∈ s.sent ++ [⟨none, s.calls, s.nonces, txid, packet⟩]) :
        t ∈ s.sent ∨ t = ⟨none, s.calls, s.nonces, txid, packet⟩ :=
      (List.mem_append.mp ht).imp_right List.mem_singleton.mp
    refine ⟨fun k v hv => (nomatch (hover k).symm.trans hv), fun t ht => ?_, fun t ht => ?_,
      fun t ht => ?_, fun t ht => ?_, fun n => ?_, ?_⟩
    · rcases hmem ht with ht | rfl
      · exact List.mem_append_left _ (h.drawn t ht)
      · exact List.mem_append_right _ List.mem_cons_self
    · rcases hmem ht with ht | rfl
      · exact h.header t ht
      · show (packet.drop 8).take stunTxidSize = txid
        rw [hbytes, drop_stunHeader, List.take_append_of_le_length (hfill _ rfl).ge,
          List.take_of_length_le (hfill _ rfl).le]
    · rcases hmem ht with ht | rfl
      · exact h.nonces t ht
      · exact Nat.le_refl s.nonces
    · rcases hmem ht with ht | rfl
      · exact Nat.lt_succ_of_lt (h.requests t ht)
      · exact Nat.lt_succ_self s.calls
    · show (s.sent ++ [_]).countP (fun t : Transmission => t.request = n) ≤ turnMaxTransmissions
      rw [List.countP_append, List.countP_singleton]
      by_cases hn : s.calls = n
      · have hzero : s.sent.countP (·.request = n) = 0 :=
          List.countP_eq_zero.mpr fun t ht => by simpa using hn ▸ (h.requests t ht).ne
        rw [hzero]
        split <;> decide
      · simp only [hn, decide_false, Bool.false_eq_true, if_false]
        exact h.budget n
    · show (s.sent ++ [_]).Pairwise IdsConsistent
      rw [List.pairwise_append]
      refine ⟨h.pairs, List.pairwise_singleton _ _, fun t ht u hu => ?_⟩
      obtain rfl := List.mem_singleton.mp hu
      exact ⟨fun hid => absurd hid.symm (hnew t ht),
        fun hreq => absurd hreq.symm (h.requests t ht).ne⟩

/-- **The ledger stays in order**, and it has every packet the client sends. -/
theorem Ledger.step (hrefresh : RefreshSigned s.turn) {i : TurnInput} (hi : i.Operates)
    (hfill : FillsTxid i.random) (hfresh : ∀ txid, i.random = some txid → txid ∉ drawn) :
    Ledger crypto (drawn ++ i.random.toList) (ledgerStep crypto s i) ∧
    (ledgerStep crypto s i).turn = turnStep crypto s.turn i ∧
    (ledgerStep crypto s i).sent.map (·.packet) =
      s.sent.map (·.packet) ++ turnPackets crypto s.turn i := by
  cases i with
  | configure server username password => exact hi.elim
  | startAllocate random bufLen =>
    obtain ⟨hledger, hsent⟩ := h.call hfill hfresh (turnStartAllocate_effect crypto _ random bufLen)
    exact ⟨hledger, rfl, hsent⟩
  | handleResponse nowMs data =>
    have hs := turnHandleResponse_settles hrefresh crypto nowMs data
    have hquiet : ledgerStep crypto s (.handleResponse nowMs data) =
        { turn := (turnHandleResponse crypto s.turn nowMs data).1, calls := s.calls + 1,
          begun := s.requestOf, sent := s.sent,
          nonces := if turnRenews crypto s.turn nowMs data then s.nonces + 1 else s.nonces } := by
      unfold ledgerStep TurnLedger.call
      dsimp only [emitted]
      rw [List.filterMap_nil, List.append_nil]
      rfl
    rw [hquiet]
    exact ⟨(h.settle hs).more _, rfl, (List.append_nil _).symm⟩
  | generateRefresh nowMs random bufLen =>
    obtain ⟨hledger, hsent⟩ := h.call hfill hfresh
      (turnGenerateRefresh_effect crypto _ random nowMs bufLen)
    exact ⟨hledger, rfl, hsent⟩
  | createPermission peer random bufLen =>
    obtain ⟨hledger, hsent⟩ := h.call hfill hfresh
      (turnCreatePermission_effect crypto _ hfill peer bufLen)
    exact ⟨hledger, rfl, hsent⟩
  | channelBind peer random bufLen =>
    have heffect : CallEffect crypto s.turn random
      (turnChannelBind crypto s.turn peer random bufLen) := turnChannelBind_effect crypto _ peer bufLen
    obtain ⟨hledger, hsent⟩ := h.call hfill hfresh heffect
    exact ⟨hledger, rfl, hsent⟩
  | generateRetransmit nowMs random bufLen =>
    obtain ⟨hledger, hsent⟩ := h.call hfill hfresh
      (turnGenerateRetransmit_effect crypto _ nowMs random bufLen)
    exact ⟨hledger, rfl, hsent⟩
  | pollOutput nowMs random bufLen =>
    have hwork := turnPollWork_effect crypto s.turn nowMs random bufLen
    unfold ledgerStep turnStep turnPackets
    dsimp only
    rw [turnPollOutput_eq]
    revert hwork
    generalize turnPollWork crypto s.turn nowMs random bufLen = p
    intro hwork
    cases p with
    | inl r =>
      obtain ⟨hledger, hsent⟩ := h.call hfill hfresh hwork
      exact ⟨hledger, rfl, hsent⟩
    | inr tw =>
      obtain ⟨t, work⟩ := tw
      have heffect : CallEffect crypto s.turn none (t, .ok []) := .quiet rfl hwork
      have hquiet := h.call (show FillsTxid none from nofun) nofun heffect
      rw [Option.toList_none, List.append_nil] at hquiet
      obtain ⟨hledger, hsent⟩ := hquiet.1.call hfill hfresh
        (turnDoWork_effect crypto t hfill nowMs work bufLen)
      refine ⟨hledger, rfl, hsent.trans ?_⟩
      rw [hquiet.2]
      show _ ++ [] ++ _ = _
      rw [List.append_nil]
      rfl
  | deallocate random bufLen =>
    refine ⟨h.deallocate hfill hfresh bufLen, rfl, ?_⟩
    show (s.sent ++ (emitted _).map _).map _ = _
    rw [List.map_append, List.map_map]
    show _ ++ (emitted _).map id = _
    rw [List.map_id]
    rfl
  | resetPeerState =>
    have hs : Settles false none s.turn (turnResetPeerState s.turn) :=
      .dropped (.refl s.turn) rfl rfl ⟨rfl, rfl, rfl, rfl⟩
    have heffect : CallEffect crypto s.turn none (turnResetPeerState s.turn, .ok []) := .quiet rfl hs
    obtain ⟨hledger, hsent⟩ := h.call (show FillsTxid none from nofun) nofun heffect
    exact ⟨hledger, rfl, hsent⟩

/-- The packet's id is not, or no longer, one that the client waits for under the packet's slot. -/
def Superseded (turn : NanoTurn) (t : Transmission) : Prop :=
  ∀ k v, t.slot = some k → slotView turn k = some v → v.pending = .waiting → v.txid ≠ t.txid

/-- An answer to a superseded id changes nothing. -/
theorem Ledger.ignores (hrefresh : RefreshSigned s.turn) {t : Transmission} (ht : t ∈ s.sent)
    (hold : Superseded s.turn t) (nowMs : UInt32) {data : List UInt8} {msg : StunMsg}
    (hparse : stunParse data = .ok msg) (hid : msg.transactionId = t.txid) :
    (turnHandleResponse crypto s.turn nowMs data).1 = s.turn := by
  have hwaiting (k : TurnSlot) (v : RequestView) (hv : slotView s.turn k = some v)
      (hw : v.pending = .waiting) : v.txid ≠ t.txid := by
    intro heq
    have hslot := h.slots k v hv
    exact hold k v (hslot.own t ht (hslot.ids t ht heq.symm)) hv hw heq
  cases turnHandleResponse_cases crypto hrefresh nowMs data with
  | inl hsame => exact hsame
  | inr hanswer =>
    exfalso
    obtain ⟨msg', op, hparse', hout, -⟩ := hanswer
    obtain rfl : msg = msg' := Except.ok.inj (hparse.symm.trans hparse')
    rw [hid] at hout
    cases op with
    | allocate =>
      obtain ⟨htxn, hreauth, htxid⟩ := hout
      refine hwaiting .transaction ⟨.waiting, s.turn.lastTxid, s.turn.transactionTransmissions⟩
        ?_ rfl htxid
      show (if s.turn.transaction = .none then none else _) = _
      rw [htxn, hreauth]
      rfl
    | refresh =>
      obtain ⟨htxn, hreauth, htxid⟩ := hout
      refine hwaiting .transaction ⟨.waiting, s.turn.lastTxid, s.turn.transactionTransmissions⟩
        ?_ rfl htxid
      show (if s.turn.transaction = .none then none else _) = _
      rw [htxn, hreauth]
      rfl
    | permission i =>
      obtain ⟨p, hp, hw, htxid⟩ := hout
      exact hwaiting _ _ (slotView_of_permission hp (by rw [hw]; exact nofun)) hw htxid
    | channel i =>
      obtain ⟨c, hc, hw, htxid⟩ := hout
      exact hwaiting _ _ (slotView_of_channel hc (by rw [hw]; exact nofun)) hw htxid

end

/-! ### Runs -/

/-- The ids a run draws. -/
def turnDrawn (is : List TurnInput) : List (List UInt8) := is.filterMap TurnInput.random

/-- What the ledger of a run says of the requests: none is sent more often than the limit, the ids
follow the nonces, and an answer to a superseded id matches nothing. -/
structure RequestBudget (crypto : CryptoProvider) (s : TurnLedger) : Prop where
  budget : ∀ n, s.sent.countP (·.request = n) ≤ turnMaxTransmissions
  ids : s.sent.Pairwise IdsConsistent
  header : ∀ t ∈ s.sent, (t.packet.drop 8).take stunTxidSize = t.txid
  superseded : ∀ t ∈ s.sent, Superseded s.turn t → ∀ nowMs data msg, stunParse data = .ok msg →
    msg.transactionId = t.txid → (turnHandleResponse crypto s.turn nowMs data).1 = s.turn

theorem Ledger.configured (crypto : CryptoProvider) (server : NanortcAddr)
    (username password : List UInt8) :
    Ledger crypto [] (ledgerStep crypto ledgerStart (.configure server username password)) := by
  have hidle (k : TurnSlot) : slotView (turnConfigure turnInit server username password).1 k =
      none := by
    unfold turnConfigure
    split
    · cases k <;> rfl
    · cases k <;> rfl
  exact ⟨fun k v hv => (nomatch (hidle k).symm.trans hv), nofun, nofun, nofun, nofun,
    fun _ => Nat.zero_le _, .nil⟩

theorem turnSend_turn (crypto : CryptoProvider) (is : List TurnInput) (s : TurnSent) :
    (run (turnSendStep crypto) s is).turn = run (turnStep crypto) s.turn is := by
  induction is generalizing s with
  | nil => rfl
  | cons i is ih => exact ih (turnSendStep crypto s i)

/-- **The request budget.** However a configured client is called, whatever its server answers and
whatever is lost: its ledger has exactly the packets it sends; a request is sent seven times at
most, over all its nonces; its transaction id changes exactly with the nonce, to an id never used
before, and is otherwise sent with the very same bytes; and an answer to an id that has been
replaced, or whose request is over, changes nothing. -/
theorem turn_budget (crypto : CryptoProvider) (server : NanortcAddr)
    (username password : List UInt8) (is : List TurnInput) (hcalls : ∀ i ∈ is, i.Operates)
    (hfill : ∀ i ∈ is, FillsTxid i.random) (hdrawn : (turnDrawn is).Nodup) :
    let calls := .configure server username password :: is
    let s := run (ledgerStep crypto) ledgerStart calls
    s.turn = run (turnStep crypto) turnInit calls ∧
    s.sent.map (·.packet) = (run (turnSendStep crypto) turnSendStart calls).sent ∧
    RequestBudget crypto s := by
  intro calls s
  have hrun (is : List TurnInput) : (∀ i ∈ is, i.Operates) → (∀ i ∈ is, FillsTxid i.random) →
      (turnDrawn is).Nodup →
      let calls := .configure server username password :: is
      let s := run (ledgerStep crypto) ledgerStart calls
      let sends := run (turnSendStep crypto) turnSendStart calls
      Ledger crypto (turnDrawn is) s ∧ s.turn = sends.turn ∧ s.sent.map (·.packet) = sends.sent ∧
        Requested crypto sends.turn sends.sent := by
    induction is using List.reverseRecOn with
    | nil =>
      intro _ _ _
      exact ⟨.configured crypto server username password, rfl, rfl,
        (Requested.start crypto).step _⟩
    | append_singleton is i ih =>
      intro hcalls hfill hdrawn
      have hsplit : turnDrawn (is ++ [i]) = turnDrawn is ++ i.random.toList := by
        unfold turnDrawn
        rw [List.filterMap_append]
        cases hr : i.random with
        | none => simp [hr]
        | some txid => simp [hr]
      rw [hsplit] at hdrawn ⊢
      obtain ⟨hnodup, -, hdisjoint⟩ := List.nodup_append.mp hdrawn
      have hi : i ∈ is ++ [i] := List.mem_append_right is List.mem_cons_self
      obtain ⟨hledger, hturn, hsent, hreq⟩ := ih
        (fun j hj => hcalls j (List.mem_append_left _ hj))
        (fun j hj => hfill j (List.mem_append_left _ hj)) hnodup
      have hrefresh : RefreshSigned
          (run (ledgerStep crypto) ledgerStart (.configure server username password :: is)).turn := by
        rw [hturn]
        exact fun h => (hreq.refresh h).1
      obtain ⟨hledger', hturn', hsent'⟩ := hledger.step hrefresh (hcalls i hi) (hfill i hi)
        fun txid htxid hmem => hdisjoint txid hmem txid (by rw [htxid]; exact List.mem_cons_self) rfl
      dsimp only
      rw [← List.cons_append, run_snoc, run_snoc]
      refine ⟨hledger', ?_, ?_, hreq.step i⟩
      · rw [hturn', hturn]
        rfl
      · rw [hsent', hsent, hturn]
        rfl
  obtain ⟨hledger, hturn, hsent, hreq⟩ := hrun is hcalls hfill hdrawn
  have hrefresh : RefreshSigned s.turn := by
    show RefreshSigned (run (ledgerStep crypto) ledgerStart calls).turn
    rw [hturn]
    exact fun h => (hreq.refresh h).1
  exact ⟨hturn.trans (turnSend_turn crypto calls turnSendStart), hsent, hledger.budget, hledger.pairs,
    hledger.header, fun t ht hold nowMs data msg hparse hid =>
      hledger.ignores hrefresh ht hold nowMs hparse hid⟩

/-- Two Allocates, a channel and two permissions, the second of which goes out again after a stale
nonce: the same request under a new id. -/
theorem turn_budget_renewed :
    RequestBudget .checksum (run (ledgerStep .checksum) ledgerStart demoStranded) ∧
    ((run (ledgerStep .checksum) ledgerStart demoStranded).sent.map fun t =>
      (t.request, t.nonce, t.txid)) =
      [(1, 0, demoTxid 1), (3, 1, demoTxid 2), (5, 1, demoTxid 3), (7, 1, demoTxid 4),
        (8, 1, demoTxid 5), (8, 2, demoTxid 6)] :=
  ⟨(turn_budget .checksum (demoHost 4 9 3478) [0x75] [0x70] demoStranded.tail (by decide)
    (by decide) (by decide)).2.2, by decide +kernel⟩

end Nanortc.Spec
