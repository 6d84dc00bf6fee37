import Nanortc.Spec.TurnSizes
import Nanortc.Spec.TurnSlots

/-!
# Requests that are sent

A call sends one request at most: it starts the request of an idle slot under the transaction id it
draws, or it sends the outstanding request of a slot once more, as it was or, after new credentials,
under a new id.

## Key results

- `CallEffect`: what a call does to the slots
- `turnDoWork_effect`, `turnGenerateRetransmit_effect`: the two parts of `turn_poll_output`
-/

namespace Nanortc.Spec

open Nanortc.ForStd Nanortc.Native

/-! ### Calls that send -/

section

variable {crypto : CryptoProvider} {turn : NanoTurn} {txid : List UInt8} {bufLen : Nat}
  {out : List UInt8}

theorem turnBuildAllocate_room {authenticated : Bool}
    (h : turnBuildAllocate crypto turn authenticated txid bufLen = .ok out) :
    turnBuildAllocate crypto turn authenticated txid turnMaxRequestSize = .ok out ∧ out ≠ [] := by
  unfold turnBuildAllocate at h ⊢
  split at h
  · exact nomatch h
  rw [if_neg (Nat.lt_irrefl _)]
  refine ⟨h, ?_⟩
  obtain rfl := Except.ok.inj h
  split
  · exact turnSign_ne_nil _ _ _
  · exact stunFinalizeLength_ne_nil _

theorem turnBuildRefresh_room {lifetimeS : UInt32}
    (h : turnBuildRefresh crypto turn lifetimeS txid bufLen = .ok out) :
    turnBuildRefresh crypto turn lifetimeS txid turnMaxRequestSize = .ok out ∧ out ≠ [] := by
  refine ⟨?_, turnBuildRefresh_ne_nil h⟩
  unfold turnBuildRefresh at h ⊢
  split at h
  · exact nomatch h
  · rw [if_neg (Nat.lt_irrefl _)]
    exact h

theorem turnBuildPermission_room {peer : NanortcAddr}
    (h : turnBuildPermission crypto turn peer txid bufLen = .ok out) :
    turnBuildPermission crypto turn peer txid turnMaxRequestSize = .ok out ∧ out ≠ [] := by
  refine ⟨?_, turnBuildPermission_ne_nil h⟩
  unfold turnBuildPermission at h ⊢
  split at h
  · exact nomatch h
  · rw [if_neg (Nat.lt_irrefl _)]
    exact h

theorem turnBuildChannelBind_room {c : TurnChannel}
    (h : turnBuildChannelBind crypto turn c txid bufLen = .ok out) :
    turnBuildChannelBind crypto turn c txid turnMaxRequestSize = .ok out ∧ out ≠ [] := by
  refine ⟨?_, turnBuildChannelBind_ne_nil h⟩
  unfold turnBuildChannelBind at h ⊢
  split at h
  · exact nomatch h
  · rw [if_neg (Nat.lt_irrefl _)]
    exact h

end

/-- The request of a slot starts under the id the call draws, or it goes out again: as it was, or
under a new id if one was asked for. -/
inductive SlotSends (crypto : CryptoProvider) (turn turn' : NanoTurn) (random : Option (List UInt8))
    (k : TurnSlot) (v' : RequestView) : Prop where
  | starts (idle : slotView turn k = none) (first : v'.transmissions = 1)
      (drawn : random = some v'.txid)
  | again (v : RequestView) (old : slotView turn k = some v)
      (left : v.transmissions < turnMaxTransmissions)
      (count : v'.transmissions = v.transmissions + 1)
      (signed : slotSigned turn' k = slotSigned turn k)
      (same : v.pending = .waiting → v'.txid = v.txid ∧
        slotPacket crypto turn' k = slotPacket crypto turn k)
      (renewed : v.pending = .reauth → random = some v'.txid)

/-- What a call does to the slots: it sends the request of one of them, or nothing. -/
inductive CallEffect (crypto : CryptoProvider) (turn : NanoTurn) (random : Option (List UInt8))
    (r : NanoTurn × Except Rc (List UInt8)) : Prop where
  | quiet (nothing : emitted r.2 = []) (settles : Settles false none turn r.1)
  | sends (k : TurnSlot) (v' : RequestView) (out : List UInt8) (packet : r.2 = .ok out)
      (some : out ≠ []) (settles : Settles false (.some k) turn r.1)
      (view : slotView r.1 k = .some v') (waiting : v'.pending = .waiting)
      (built : slotPacket crypto r.1 k = .ok out) (slot : SlotSends crypto turn r.1 random k v')

section

variable (crypto : CryptoProvider) (turn : NanoTurn) (random : Option (List UInt8))

theorem CallEffect.error (e : Rc) : CallEffect crypto turn random (turn, .error e) :=
  .quiet rfl (.refl none turn)

theorem CallEffect.idle : CallEffect crypto turn random (turn, .ok []) :=
  .quiet rfl (.refl none turn)

theorem turnStartAllocate_effect (bufLen : Nat) :
    CallEffect crypto turn random (turnStartAllocate crypto turn random bufLen) := by
  unfold turnStartAllocate
  split
  · exact .error crypto turn random _
  split
  · exact .error crypto turn random _
  rename_i hidle
  rw [ne_eq, Decidable.not_not] at hidle
  cases random with
  | none => exact .error crypto turn none _
  | some txid =>
    dsimp only
    generalize (turn.state == .challenged && turn.hmacKeyValid) = authenticated
    split
    · exact .error crypto turn _ _
    · rename_i out hbuild
      obtain ⟨hroom, hne⟩ := turnBuildAllocate_room hbuild
      have hsame : SameCredentials turn { turnStartTransaction turn .allocate authenticated txid with
        state := .allocating } := ⟨rfl, rfl, rfl, rfl⟩
      refine .sends .transaction ⟨.waiting, txid, 1⟩ out rfl hne
        ⟨fun h => absurd rfl h, fun _ _ => .refl _, fun _ _ => .refl _, hsame⟩ rfl rfl ?_
        (.starts (if_pos hidle) rfl rfl)
      exact (hsame.allocate authenticated txid turnMaxRequestSize).trans hroom

theorem turnGenerateRefresh_effect (nowMs : UInt32) (bufLen : Nat) :
    CallEffect crypto turn random (turnGenerateRefresh crypto turn nowMs random bufLen) := by
  unfold turnGenerateRefresh
  split
  · exact .idle crypto turn random
  split
  · exact .idle crypto turn random
  rename_i hidle
  rw [ne_eq, Decidable.not_not] at hidle
  split
  · exact .idle crypto turn random
  cases random with
  | none => exact .error crypto turn none _
  | some txid =>
    dsimp only
    split
    · exact .error crypto turn _ _
    · rename_i out hbuild
      obtain ⟨hroom, hne⟩ := turnBuildRefresh_room hbuild
      have hsame : SameCredentials turn (turnStartTransaction turn .refresh true txid) :=
        ⟨rfl, rfl, rfl, rfl⟩
      refine .sends .transaction ⟨.waiting, txid, 1⟩ out rfl hne
        ⟨fun h => absurd rfl h, fun _ _ => .refl _, fun _ _ => .refl _, hsame⟩ rfl rfl ?_
        (.starts (if_pos hidle) rfl rfl)
      exact (hsame.refresh turnDefaultLifetime txid turnMaxRequestSize).trans hroom

end

/-! ### Requests of the tables -/

theorem getElem?_snoc_of_ne {α : Type} {l : List α} {i : Nat} (h : i ≠ l.length) (a : α) :
    (l ++ [a])[i]? = l[i]? := by
  rcases Nat.lt_or_ge i l.length with hlt | hge
  · exact List.getElem?_append_left hlt
  · rw [List.getElem?_append_right hge, List.getElem?_eq_none hge]
    exact List.getElem?_eq_none (by simp; omega)

/-- The attribute of a peer has the bytes of the address that count. -/
theorem turnXorAddr_same {family : UInt8} {a b : List UInt8} (h : addrEq family a b = true)
    (type port : UInt16) {txid : List UInt8} (htxid : txid.length ≤ stunTxidSize) :
    turnXorAddr type ⟨family, a, port⟩ txid = turnXorAddr type ⟨family, b, port⟩ txid := by
  have h : a.take (addrLen family) = b.take (addrLen family) := beq_iff_eq.mp h
  unfold turnXorAddr
  dsimp only
  by_cases hfamily : family = 4
  · rw [if_pos hfamily, if_pos hfamily]
    have hlen : addrLen family = 4 := if_pos hfamily
    have hread : readU32be a 0 = readU32be b 0 :=
      readU32be_of_take_eq (hlen ▸ h) (Nat.le_refl 4)
    rw [hread]
  · rw [if_neg hfamily, if_neg hfamily]
    have hlen : addrLen family = 16 := if_neg hfamily
    have hzip : List.zipWith (· ^^^ ·) a (u32be stunMagicCookie ++ txid) =
        List.zipWith (· ^^^ ·) b (u32be stunMagicCookie ++ txid) := by
      apply List.ext_getElem?
      intro i
      rw [List.getElem?_zipWith, List.getElem?_zipWith]
      rcases Nat.lt_or_ge i 16 with hlt | hge
      · have hget : (a.take (addrLen family))[i]? = (b.take (addrLen family))[i]? := by rw [h]
        rw [hlen, List.getElem?_take_of_lt hlt, List.getElem?_take_of_lt hlt] at hget
        rw [hget]
      · have hnone : (u32be stunMagicCookie ++ txid)[i]? = none := by
          apply List.getElem?_eq_none
          rw [List.length_append, length_u32be]
          unfold stunTxidSize at htxid
          omega
        rw [hnone]
        cases a[i]? <;> cases b[i]? <;> rfl
    rw [hzip]

theorem turnBuildPermission_same (crypto : CryptoProvider) (turn : NanoTurn) {family : UInt8}
    {a b : List UInt8} (h : addrEq family a b = true) (port : UInt16) {txid : List UInt8}
    (htxid : txid.length ≤ stunTxidSize) (bufLen : Nat) :
    turnBuildPermission crypto turn ⟨family, a, port⟩ txid bufLen =
      turnBuildPermission crypto turn ⟨family, b, port⟩ txid bufLen := by
  unfold turnBuildPermission
  rw [turnXorAddr_same h 0x0012 port htxid]

section

variable (crypto : CryptoProvider) (turn : NanoTurn) {random : Option (List UInt8)}

theorem turnCreatePermission_effect (hr : FillsTxid random) (peer : NanortcAddr) (bufLen : Nat) :
    CallEffect crypto turn random (turnCreatePermission crypto turn peer random bufLen) := by
  unfold turnCreatePermission
  split
  · exact .error crypto turn random _
  split
  · exact .error crypto turn random _
  dsimp only
  split
  · exact .error crypto turn random _
  split
  · exact .idle crypto turn random
  rename_i hpending
  cases random with
  | none => exact .error crypto turn none _
  | some txid =>
    dsimp only
    split
    · exact .error crypto turn _ _
    rename_i out hbuild
    obtain ⟨hroom, hne⟩ := turnBuildPermission_room hbuild
    cases hfound : turnFindPermission turn peer.addr peer.family with
    | none =>
      -- the request of a new entry
      dsimp only [Option.map_none, Option.getD_none]
      generalize hp : ({
          addr := peer.addr
          family := peer.family
          port := peer.port
          txid := txid
          pending := .waiting
          terminal := false
          deadlineMs := 0
          transmissions := 1 } : TurnPermission) = p
      have hlast : (turn.permissions ++ [p])[turn.permissions.length]? = some p :=
        List.getElem?_concat_length
      have hwait : p.pending = .waiting := by rw [← hp]
      have hsame : SameCredentials turn { turn with permissions := turn.permissions ++ [p] } :=
        ⟨rfl, rfl, rfl, rfl⟩
      refine .sends (.permission turn.permissions.length) ⟨p.pending, p.txid, p.transmissions⟩ out
        rfl hne ⟨fun _ => .refl turn, fun i hi => ?_, fun _ _ => .refl _, hsame⟩
        (slotView_of_permission hlast (by rw [hwait]; exact nofun)) hwait ?_
        (.starts ?_ (by rw [← hp]) (by rw [← hp]))
      · show KeptPermission false turn.permissions[i]? (turn.permissions ++ [p])[i]?
        rw [getElem?_snoc_of_ne (fun h => hi (by rw [h])) p]
        exact .refl _
      · simp only [slotPacket, List.getD_eq_getElem?_getD, hlast, Option.getD_some,
          hsame.permission]
        rw [← hp]
        exact hroom
      · show (turn.permissions[turn.permissions.length]?).bind permissionView = none
        rw [List.getElem?_eq_none (Nat.le_refl _)]
        rfl
    | some i =>
      obtain ⟨hi, hfor, -⟩ := List.findIdx?_eq_some_iff_getElem.mp hfound
      simp only [Bool.and_eq_true, beq_iff_eq] at hfor
      rw [hfound] at hpending
      dsimp only [Option.map_some, Option.getD_some, Option.any_some] at hpending ⊢
      rw [List.getD_eq_getElem _ _ hi] at hpending ⊢
      generalize hq : turn.permissions[i] = q at *
      generalize hp : ({ q with
          port := peer.port
          txid := txid
          pending := .waiting
          terminal := false
          deadlineMs := 0
          transmissions := 1 } : TurnPermission) = p
      have hold : turn.permissions[i]? = some q := by rw [List.getElem?_eq_getElem hi, hq]
      have hset : (turn.permissions.set i p)[i]? = some p := List.getElem?_set_self hi
      have hwait : p.pending = .waiting := by rw [← hp]
      have hsame : SameCredentials turn { turn with permissions := turn.permissions.set i p } :=
        ⟨rfl, rfl, rfl, rfl⟩
      refine .sends (.permission i) ⟨p.pending, p.txid, p.transmissions⟩ out
        rfl hne ⟨fun _ => .refl turn, fun j hj => ?_, fun _ _ => .refl _, hsame⟩
        (slotView_of_permission hset (by rw [hwait]; exact nofun)) hwait ?_
        (.starts ?_ (by rw [← hp]) (by rw [← hp]))
      · show KeptPermission false turn.permissions[j]? (turn.permissions.set i p)[j]?
        rw [List.getElem?_set_ne fun h => hj (by rw [h])]
        exact .refl _
      · -- the entry keeps its own address, which is the peer's as far as it counts
        simp only [slotPacket, List.getD_eq_getElem?_getD, hset, Option.getD_some,
          hsame.permission]
        rw [← hp]
        dsimp only
        rw [hfor.1, turnBuildPermission_same crypto turn hfor.2 peer.port (hr txid rfl).le]
        exact hroom
      · show (turn.permissions[i]?).bind permissionView = none
        rw [hold]
        have hidle : q.pending = .none ∧ q.terminal = false := by simpa using hpending
        exact if_pos hidle.1

theorem turnChannelBind_effect (peer : NanortcAddr) (bufLen : Nat) :
    CallEffect crypto turn random (turnChannelBind crypto turn peer random bufLen) := by
  unfold turnChannelBind
  split
  · exact .error crypto turn random _
  split
  · exact .error crypto turn random _
  cases hfound : turn.channels.findIdx? (·.isFor peer) with
  | none =>
    dsimp only
    split
    · exact .error crypto turn random _
    split
    · exact .error crypto turn random _
    cases random with
    | none => exact .error crypto turn none _
    | some txid =>
      dsimp only
      split
      · exact .error crypto turn _ _
      rename_i out hbuild
      obtain ⟨hroom, hne⟩ := turnBuildChannelBind_room hbuild
      generalize hc : ({
          addr := peer.addr
          family := peer.family
          port := peer.port
          channel := turn.nextChannel
          txid := txid
          pending := .waiting
          deadlineMs := 0
          transmissions := 1 } : TurnChannel) = c
      have hlast : (turn.channels ++ [c])[turn.channels.length]? = some c :=
        List.getElem?_concat_length
      have hwait : c.pending = .waiting := by rw [← hc]
      have hsame : SameCredentials turn { turn with
          channels := turn.channels ++ [c], nextChannel := turn.nextChannel + 1 } :=
        ⟨rfl, rfl, rfl, rfl⟩
      refine .sends (.channel turn.channels.length) ⟨c.pending, c.txid, c.transmissions⟩ out
        rfl hne ⟨fun _ => .refl turn, fun _ _ => .refl _, fun i hi => ?_, hsame⟩
        (slotView_of_channel hlast (by rw [hwait]; exact nofun)) hwait ?_
        (.starts ?_ (by rw [← hc]) (by rw [← hc]))
      · show KeptChannel false turn.channels[i]? (turn.channels ++ [c])[i]?
        rw [getElem?_snoc_of_ne (fun h => hi (by rw [h])) c]
        exact .refl _
      · simp only [slotPacket, List.getD_eq_getElem?_getD, hlast, Option.getD_some]
        rw [← hroom]
        rw [← hc]
        exact hsame.channelBind rfl rfl txid turnMaxRequestSize
      · show (turn.channels[turn.channels.length]?).bind channelView = none
        rw [List.getElem?_eq_none (Nat.le_refl _)]
        rfl
  | some i =>
    obtain ⟨hi, -, -⟩ := List.findIdx?_eq_some_iff_getElem.mp hfound
    have hold : turn.channels[i]? = some (turn.channels.getD i default) := by
      rw [List.getD_eq_getElem _ _ hi, List.getElem?_eq_getElem hi]
    dsimp only
    generalize turn.channels.getD i default = d at *
    split
    · exact .idle crypto turn random
    rename_i hpending
    rw [ne_eq, Decidable.not_not] at hpending
    cases random with
    | none => exact .error crypto turn none _
    | some txid =>
      dsimp only
      split
      · -- the id is stored although nothing is sent
        exact .quiet rfl (.setChannel (.refl turn) rfl rfl ⟨rfl, rfl, rfl, rfl⟩ (.idle hpending))
      rename_i out hbuild
      obtain ⟨hroom, hne⟩ := turnBuildChannelBind_room hbuild
      generalize hc : ({ d with
          port := peer.port
          txid := txid
          pending := .waiting
          deadlineMs := 0
          transmissions := 1 } : TurnChannel) = c
      have hset : (turn.channels.set i c)[i]? = some c := List.getElem?_set_self hi
      have hwait : c.pending = .waiting := by rw [← hc]
      have hsame : SameCredentials turn { turn with channels := turn.channels.set i c } :=
        ⟨rfl, rfl, rfl, rfl⟩
      refine .sends (.channel i) ⟨c.pending, c.txid, c.transmissions⟩ out
        rfl hne ⟨fun _ => .refl turn, fun _ _ => .refl _, fun j hj => ?_, hsame⟩
        (slotView_of_channel hset (by rw [hwait]; exact nofun)) hwait ?_
        (.starts ?_ (by rw [← hc]) (by rw [← hc]))
      · show KeptChannel false turn.channels[j]? (turn.channels.set i c)[j]?
        rw [List.getElem?_set_ne fun h => hj (by rw [h])]
        exact .refl _
      · simp only [slotPacket, List.getD_eq_getElem?_getD, hset, Option.getD_some]
        rw [← hroom]
        rw [← hc]
        exact hsame.channelBind rfl rfl txid turnMaxRequestSize
      · show (turn.channels[i]?).bind channelView = none
        rw [hold]
        exact if_pos hpending

theorem turnDoWork_effect (hr : FillsTxid random) (nowMs : UInt32) (work : TurnWork)
    (bufLen : Nat) :
    CallEffect crypto turn random (turnDoWork crypto turn nowMs work random bufLen) := by
  unfold turnDoWork
  cases work.type with
  | none => exact .idle crypto turn random
  | retransmit => exact .idle crypto turn random
  | allocate => exact turnStartAllocate_effect crypto turn random bufLen
  | refresh => exact turnGenerateRefresh_effect crypto turn random nowMs bufLen
  | permission => exact turnCreatePermission_effect crypto turn hr _ bufLen
  | channel => exact turnChannelBind_effect crypto turn _ bufLen

end

/-! ### Retransmissions -/

/-- A loop over a table ends without a packet, each entry kept, or with the packet of one entry. -/
def Scanned {α : Type} (kept : Option α → Option α → Prop) (sent : α → α → List UInt8 → Prop)
    (l l' : List α) (res : Option (Except Rc (List UInt8))) : Prop :=
  ((∀ out, res ≠ some (.ok out)) ∧ ∀ j : Nat, kept l[j]? l'[j]?) ∨
  ∃ out i a a', res = some (.ok out) ∧ l[i]? = some a ∧ l'[i]? = some a' ∧ sent a a' out ∧
    ∀ j : Nat, j ≠ i → kept l[j]? l'[j]?

section

variable {α : Type} {kept : Option α → Option α → Prop} {sent : α → α → List UInt8 → Prop}
  {l l' : List α} {res : Option (Except Rc (List UInt8))}

/-- The loop goes on behind an entry it has kept. -/
theorem Scanned.skip (h : Scanned kept sent l l' res) {a b : α} (hab : kept (some a) (some b)) :
    Scanned kept sent (a :: l) (b :: l') res := by
  cases h with
  | inl hquiet =>
    refine .inl ⟨hquiet.1, fun j => ?_⟩
    cases j with
    | zero => exact hab
    | succ j => exact hquiet.2 j
  | inr hsent =>
    obtain ⟨out, i, a, a', hout, hold, hnew, hagain, hothers⟩ := hsent
    refine .inr ⟨out, i + 1, a, a', hout, hold, hnew, hagain, fun j hj => ?_⟩
    cases j with
    | zero => exact hab
    | succ j => exact hothers j fun h => hj (by rw [h])

/-- The loop ends without a packet. -/
theorem Scanned.stop (hrefl : ∀ o, kept o o) (l : List α) (e : Rc) :
    Scanned kept sent l l (some (.error e)) := .inl ⟨nofun, fun _ => hrefl _⟩

/-- The loop sends the packet of the entry it has reached. -/
theorem Scanned.send (hrefl : ∀ o, kept o o) (l : List α) {a a' : α} {out : List UInt8}
    (h : sent a a' out) : Scanned kept sent (a :: l) (a' :: l) (some (.ok out)) := by
  refine .inr ⟨out, 0, a, a', rfl, rfl, rfl, h, fun j hj => ?_⟩
  cases j with
  | zero => exact absurd rfl hj
  | succ j => exact hrefl _

end

/-- The request of a permission goes out once more. -/
structure PermissionAgain (crypto : CryptoProvider) (turn : NanoTurn)
    (random : Option (List UInt8)) (bufLen : Nat) (p p' : TurnPermission) (out : List UInt8) :
    Prop where
  outstanding : p.pending ≠ .none
  left : p.transmissions < turnMaxTransmissions
  txid : turnRetransmitTxid p.pending p.txid random = some p'.txid
  waiting : p'.pending = .waiting
  count : p'.transmissions = p.transmissions + 1
  peer : (⟨p'.family, p'.addr, p'.port⟩ : NanortcAddr) = ⟨p.family, p.addr, p.port⟩
  built : turnBuildPermission crypto turn ⟨p.family, p.addr, p.port⟩ p'.txid bufLen = .ok out

/-- The request of a channel goes out once more. -/
structure ChannelAgain (crypto : CryptoProvider) (turn : NanoTurn)
    (random : Option (List UInt8)) (bufLen : Nat) (c c' : TurnChannel) (out : List UInt8) :
    Prop where
  outstanding : c.pending ≠ .none
  left : c.transmissions < turnMaxTransmissions
  txid : turnRetransmitTxid c.pending c.txid random = some c'.txid
  waiting : c'.pending = .waiting
  count : c'.transmissions = c.transmissions + 1
  channel : c'.channel = c.channel
  peer : c'.peer = c.peer
  built : turnBuildChannelBind crypto turn c c'.txid bufLen = .ok out

theorem turnDue_send {nowMs : UInt32} {pending : TurnRequest} {deadlineMs : UInt32}
    {transmissions : Nat} (h : turnDue nowMs pending deadlineMs transmissions = .send) :
    pending ≠ .none ∧ transmissions < turnMaxTransmissions := by
  unfold turnDue at h
  split at h
  · exact nomatch h
  rename_i hpending
  split at h
  · exact nomatch h
  split at h
  · exact nomatch h
  split at h
  · exact nomatch h
  · rename_i hcount
    exact ⟨hpending, Nat.not_le.mp hcount⟩

section

variable (crypto : CryptoProvider) (turn : NanoTurn) (nowMs : UInt32)
  (random : Option (List UInt8)) (bufLen : Nat)

theorem turnRetransmitPermissions_scanned (ps : List TurnPermission) :
    Scanned (KeptPermission false) (PermissionAgain crypto turn random bufLen) ps
      (turnRetransmitPermissions crypto turn nowMs random bufLen ps).1
      (turnRetransmitPermissions crypto turn nowMs random bufLen ps).2 := by
  induction ps with
  | nil => exact .inl ⟨nofun, fun _ => .refl _⟩
  | cons p ps ih =>
    unfold turnRetransmitPermissions
    dsimp only
    cases hdue : turnDue nowMs p.pending p.deadlineMs p.transmissions with
    | skip => exact ih.skip (.refl _)
    | arm => exact ih.skip (.deadline p _)
    | expire => exact ih.skip (.idle rfl)
    | send =>
      obtain ⟨hpending, hleft⟩ := turnDue_send hdue
      dsimp only
      cases htxid : turnRetransmitTxid p.pending p.txid random with
      | none => exact .stop .refl _ _
      | some txid =>
        dsimp only
        cases hbuild : turnBuildPermission crypto turn ⟨p.family, p.addr, p.port⟩ txid bufLen with
        | error e => exact .stop .refl _ e
        | ok out => exact .send .refl ps ⟨hpending, hleft, htxid, rfl, rfl, rfl, hbuild⟩

theorem turnRetransmitChannels_scanned (cs : List TurnChannel) :
    Scanned (KeptChannel false) (ChannelAgain crypto turn random bufLen) cs
      (turnRetransmitChannels crypto turn nowMs random bufLen cs).1
      (turnRetransmitChannels crypto turn nowMs random bufLen cs).2 := by
  induction cs with
  | nil => exact .inl ⟨nofun, fun _ => .refl _⟩
  | cons c cs ih =>
    unfold turnRetransmitChannels
    dsimp only
    cases hdue : turnDue nowMs c.pending c.deadlineMs c.transmissions with
    | skip => exact ih.skip (.refl _)
    | arm => exact ih.skip (.deadline c _)
    | expire => exact ih.skip (.idle rfl)
    | send =>
      obtain ⟨hpending, hleft⟩ := turnDue_send hdue
      dsimp only
      cases htxid : turnRetransmitTxid c.pending c.txid random with
      | none => exact .stop .refl _ _
      | some txid =>
        dsimp only
        cases hbuild : turnBuildChannelBind crypto turn c txid bufLen with
        | error e => exact .stop .refl _ e
        | ok out => exact .send .refl cs ⟨hpending, hleft, htxid, rfl, rfl, rfl, rfl, hbuild⟩

end

/-- The id of a retransmission. -/
theorem turnRetransmitTxid_cases {pending : TurnRequest} {old txid : List UInt8}
    {random : Option (List UInt8)} (h : turnRetransmitTxid pending old random = some txid) :
    (pending = .waiting → txid = old) ∧ (pending = .reauth → random = some txid) := by
  unfold turnRetransmitTxid at h
  constructor
  · rintro rfl
    exact (Option.some.inj h).symm
  · rintro rfl
    exact h

section

variable {crypto : CryptoProvider} {turn turn' : NanoTurn} {random : Option (List UInt8)}
  {bufLen : Nat} {i : Nat} {out : List UInt8} (hsame : SameCredentials turn turn')

include hsame

theorem PermissionAgain.effect {p p' : TurnPermission}
    (h : PermissionAgain crypto turn random bufLen p p' out)
    (hold : turn.permissions[i]? = some p) (hnew : turn'.permissions[i]? = some p')
    (hs : Settles false (some (.permission i)) turn turn') :
    CallEffect crypto turn random (turn', .ok out) := by
  obtain ⟨hroom, hne⟩ := turnBuildPermission_room h.built
  obtain ⟨hplain, hdrawn⟩ := turnRetransmitTxid_cases h.txid
  have hpacket : slotPacket crypto turn' (.permission i) =
      turnBuildPermission crypto turn ⟨p.family, p.addr, p.port⟩ p'.txid turnMaxRequestSize := by
    simp only [slotPacket, List.getD_eq_getElem?_getD, hnew, Option.getD_some, hsame.permission,
      h.peer]
  refine .sends (.permission i) ⟨p'.pending, p'.txid, p'.transmissions⟩ out rfl hne hs
    (slotView_of_permission hnew (by rw [h.waiting]; decide)) h.waiting
    (hpacket.trans hroom) (.again _ (slotView_of_permission hold h.outstanding) h.left h.count rfl
      (fun hw => ⟨hplain hw, ?_⟩) hdrawn)
  rw [hpacket, hplain hw]
  simp only [slotPacket, List.getD_eq_getElem?_getD, hold, Option.getD_some]

theorem ChannelAgain.effect {c c' : TurnChannel}
    (h : ChannelAgain crypto turn random bufLen c c' out)
    (hold : turn.channels[i]? = some c) (hnew : turn'.channels[i]? = some c')
    (hs : Settles false (some (.channel i)) turn turn') :
    CallEffect crypto turn random (turn', .ok out) := by
  obtain ⟨hroom, hne⟩ := turnBuildChannelBind_room h.built
  obtain ⟨hplain, hdrawn⟩ := turnRetransmitTxid_cases h.txid
  have hpacket : slotPacket crypto turn' (.channel i) =
      turnBuildChannelBind crypto turn c c'.txid turnMaxRequestSize := by
    simp only [slotPacket, List.getD_eq_getElem?_getD, hnew, Option.getD_some]
    exact hsame.channelBind h.channel h.peer _ _
  refine .sends (.channel i) ⟨c'.pending, c'.txid, c'.transmissions⟩ out rfl hne hs
    (slotView_of_channel hnew (by rw [h.waiting]; decide)) h.waiting
    (hpacket.trans hroom) (.again _ (slotView_of_channel hold h.outstanding) h.left h.count rfl
      (fun hw => ⟨hplain hw, ?_⟩) hdrawn)
  rw [hpacket, hplain hw]
  simp only [slotPacket, List.getD_eq_getElem?_getD, hold, Option.getD_some]

end

section

variable (crypto : CryptoProvider) (turn : NanoTurn) (nowMs : UInt32)
  (random : Option (List UInt8)) (bufLen : Nat)

theorem turnRetransmitTables_effect :
    CallEffect crypto turn random (turnRetransmitTables crypto turn nowMs random bufLen) := by
  have hperm := turnRetransmitPermissions_scanned crypto turn nowMs random bufLen turn.permissions
  unfold turnRetransmitTables
  dsimp only
  revert hperm
  generalize turnRetransmitPermissions crypto turn nowMs random bufLen turn.permissions = r
  intro hperm
  obtain ⟨ps, res⟩ := r
  have hsame : SameCredentials turn { turn with permissions := ps } := ⟨rfl, rfl, rfl, rfl⟩
  rcases hperm with ⟨hnone, hkept⟩ | ⟨out, i, p, p', hres, hold, hnew, hagain, hothers⟩
  · have hs : Settles false none turn { turn with permissions := ps } :=
      ⟨fun _ => .refl turn, fun j _ => hkept j, fun _ _ => .refl _, hsame⟩
    cases res with
    | some res =>
      cases res with
      | error e => exact .quiet rfl hs
      | ok out => exact absurd rfl (hnone out)
    | none =>
      dsimp only
      have hchan := turnRetransmitChannels_scanned crypto { turn with permissions := ps } nowMs
        random bufLen turn.channels
      revert hchan
      generalize turnRetransmitChannels crypto { turn with permissions := ps } nowMs random bufLen
        turn.channels = r
      intro hchan
      obtain ⟨cs, res⟩ := r
      have hsame' : SameCredentials turn { turn with permissions := ps, channels := cs } :=
        ⟨rfl, rfl, rfl, rfl⟩
      rcases hchan with ⟨hnone, hkept'⟩ | ⟨out, i, c, c', hres, hold, hnew, hagain, hothers⟩
      · refine .quiet ?_ ⟨fun _ => .refl turn, fun j _ => hkept j, fun j _ => hkept' j, hsame'⟩
        cases res with
        | none => rfl
        | some res =>
          cases res with
          | error e => rfl
          | ok out => exact absurd rfl (hnone out)
      · have hres : res = some (.ok out) := hres
        subst hres
        have hbuilt := hagain.built
        rw [hsame.channelBind rfl rfl] at hbuilt
        exact ChannelAgain.effect hsame' { hagain with built := hbuilt } hold hnew
          ⟨fun _ => .refl turn, fun j _ => hkept j,
            fun j hj => hothers j fun h => hj (by rw [h]), hsame'⟩
  · have hres : res = some (.ok out) := hres
    subst hres
    exact PermissionAgain.effect hsame hagain hold hnew
      ⟨fun _ => .refl turn, fun j hj => hothers j fun h => hj (by rw [h]), fun _ _ => .refl _,
        hsame⟩

/-- The timer of the transaction plays no part in its request. -/
theorem CallEffect.armed {retryAtMs : UInt32} {r : NanoTurn × Except Rc (List UInt8)}
    (h : CallEffect crypto { turn with transactionRetryAtMs := retryAtMs } random r) :
    CallEffect crypto turn random r := by
  have hview (k : TurnSlot) : slotView { turn with transactionRetryAtMs := retryAtMs } k =
      slotView turn k := by cases k <;> rfl
  have hpacket (k : TurnSlot) :
      slotPacket crypto { turn with transactionRetryAtMs := retryAtMs } k =
        slotPacket crypto turn k := by cases k <;> rfl
  have hsigned (k : TurnSlot) : slotSigned { turn with transactionRetryAtMs := retryAtMs } k =
      slotSigned turn k := by cases k <;> rfl
  have hsettles {slot : Option TurnSlot}
      (hs : Settles false slot { turn with transactionRetryAtMs := retryAtMs } r.1) :
      Settles false slot turn r.1 := by
    have hsame : SameCredentials { turn with transactionRetryAtMs := retryAtMs } r.1 :=
      hs.credentials
    exact ⟨hs.transaction, hs.permissions, hs.channels,
      ⟨hsame.username, hsame.realm, hsame.nonce, hsame.auth⟩⟩
  cases h with
  | quiet hout hs => exact .quiet hout (hsettles hs)
  | sends k v' out hr hne hs hv hw hbuilt hslot =>
    refine .sends k v' out hr hne (hsettles hs) hv hw hbuilt ?_
    cases hslot with
    | starts hidle hfirst hdrawn => exact .starts ((hview k).symm.trans hidle) hfirst hdrawn
    | again v hold hleft hcount hsig hplain hnew =>
      exact .again v ((hview k).symm.trans hold) hleft hcount (hsig.trans (hsigned k))
        (fun hw => ⟨(hplain hw).1, (hplain hw).2.trans (hpacket k)⟩) hnew

theorem turnGenerateRetransmit_effect :
    CallEffect crypto turn random (turnGenerateRetransmit crypto turn nowMs random bufLen) := by
  unfold turnGenerateRetransmit
  split
  · exact turnRetransmitTables_effect crypto turn nowMs random bufLen
  rename_i hactive
  split
  · exact (turnRetransmitTables_effect crypto _ nowMs random bufLen).armed
  split
  · exact turnRetransmitTables_effect crypto turn nowMs random bufLen
  split
  · exact .quiet rfl (.tables (.over rfl) rfl rfl ⟨rfl, rfl, rfl, rfl⟩)
  rename_i hleft
  have hleft : turn.transactionTransmissions < turnMaxTransmissions := Nat.not_le.mp hleft
  cases htxid : (if turn.transactionReauth then random else some turn.lastTxid) with
  | none => exact .error crypto turn random _
  | some txid =>
    dsimp only
    cases hbuild : (if turn.transaction = .allocate then
        turnBuildAllocate crypto turn turn.transactionAuthenticated txid bufLen
      else turnBuildRefresh crypto turn turnDefaultLifetime txid bufLen) with
    | error e => exact .error crypto turn random e
    | ok out =>
      dsimp only
      generalize hturn : ({ turn with
        lastTxid := txid
        transactionReauth := false
        transactionTransmissions := turn.transactionTransmissions + 1
        transactionRetryAtMs := nanoTimeDeadline nowMs
          (turnRetryDelayMs (turn.transactionTransmissions + 1)) } : NanoTurn) = turn'
      have hsame : SameCredentials turn turn' := by
        subst hturn
        exact ⟨rfl, rfl, rfl, rfl⟩
      have hpacket : slotPacket crypto turn' .transaction =
          if turn.transaction = .allocate then
            turnBuildAllocate crypto turn turn.transactionAuthenticated txid turnMaxRequestSize
          else turnBuildRefresh crypto turn turnDefaultLifetime txid turnMaxRequestSize := by
        simp only [slotPacket, hsame.allocate, hsame.refresh]
        subst hturn
        rfl
      have hbuilt : slotPacket crypto turn' .transaction = .ok out ∧ out ≠ [] := by
        rw [hpacket]
        split at hbuild
        · rename_i htxn
          rw [if_pos htxn]
          exact turnBuildAllocate_room hbuild
        · rename_i htxn
          rw [if_neg htxn]
          exact turnBuildRefresh_room hbuild
      refine .sends .transaction ⟨.waiting, txid, turn.transactionTransmissions + 1⟩ out rfl
        hbuilt.2 ⟨fun h => absurd rfl h, fun i _ => ?_, fun i _ => ?_, hsame⟩ ?_ rfl hbuilt.1
        (.again _ (if_neg hactive) hleft rfl ?_ (fun hw => ?_) fun hr => ?_)
      · subst hturn
        exact .refl _
      · subst hturn
        exact .refl _
      · subst hturn
        exact if_neg hactive
      · subst hturn
        rfl
      · have hplain : turn.transactionReauth = false := by
          by_contra hcon
          rw [Bool.not_eq_false] at hcon
          rw [hcon] at hw
          cases hw
        rw [hplain] at htxid
        have htxid : turn.lastTxid = txid := Option.some.inj htxid
        refine ⟨htxid.symm, ?_⟩
        rw [hpacket]
        subst htxid
        rfl
      · have hnew : turn.transactionReauth = true := by
          by_contra hcon
          rw [Bool.not_eq_true] at hcon
          rw [hcon] at hr
          cases hr
        rw [hnew] at htxid
        exact htxid

end

end Nanortc.Spec
