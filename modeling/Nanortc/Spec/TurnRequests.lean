import Nanortc.Spec.TurnRelay

/-!
# Answers to outstanding requests

The client takes an answer only from the server it has a request outstanding with: the answer has
the transaction id of the request, it is of the request's method, and it carries a valid
MESSAGE-INTEGRITY when the request did. Beside a run we keep the packets the client has sent; what
its tables call outstanding was sent for the peer of the table entry.

## Key results

- `Requested.step`: every outstanding request is among the packets sent
- `turnHandleResponse_cases`: an answer is ignored or belongs to an outstanding request
- `response_isolated`: what an answer can change, in every state of every run
-/

namespace Nanortc.Spec

open Nanortc.ForStd Nanortc.Native

/-! ### Packets sent -/

/-- The packets of a call's result. -/
def emitted : Except Rc (List UInt8) → List (List UInt8)
  | .ok [] => []
  | .ok out => [out]
  | .error _ => []

theorem mem_emitted {out : List UInt8} (h : out ≠ []) : out ∈ emitted (.ok out) := by
  cases out with
  | nil => exact absurd rfl h
  | cons b bs => exact List.mem_singleton.mpr rfl

theorem writeAt_ne_nil {b v : List UInt8} {i : Nat} (h : v ≠ []) : writeAt b i v ≠ [] := by
  unfold writeAt
  simp [h]

theorem stunFinalizeLength_ne_nil (buf : List UInt8) : stunFinalizeLength buf ≠ [] :=
  writeAt_ne_nil (List.cons_ne_nil _ _)

theorem turnSign_ne_nil (crypto : CryptoProvider) (turn : NanoTurn) (buf : List UInt8) :
    turnSign crypto turn buf ≠ [] := stunFinalizeLength_ne_nil _

/-- A packet that was sent to create the permission of an entry. -/
def PermissionSent (crypto : CryptoProvider) (sent : List (List UInt8)) (p : TurnPermission) :
    Prop :=
  ∃ turn peer bufLen, ∃ packet ∈ sent, p.family = peer.family ∧ p.port = peer.port ∧
    addrEq p.family p.addr peer.addr = true ∧
    turnBuildPermission crypto turn peer p.txid bufLen = .ok packet

/-- A packet that was sent to bind the channel of an entry. -/
def ChannelSent (crypto : CryptoProvider) (sent : List (List UInt8)) (c : TurnChannel) : Prop :=
  ∃ turn c' bufLen, ∃ packet ∈ sent, c'.channel = c.channel ∧ c'.peer = c.peer ∧
    turnBuildChannelBind crypto turn c' c.txid bufLen = .ok packet

/-- What the client takes for outstanding was sent: the Allocate or Refresh transaction, with
credentials exactly if it says so, and the request of each waiting entry for the entry's peer. -/
structure Requested (crypto : CryptoProvider) (turn : NanoTurn) (sent : List (List UInt8)) :
    Prop where
  allocate : turn.transaction = .allocate → ∃ t bufLen, ∃ packet ∈ sent,
    turnBuildAllocate crypto t turn.transactionAuthenticated turn.lastTxid bufLen = .ok packet
  refresh : turn.transaction = .refresh → turn.transactionAuthenticated = true ∧
    ∃ t lifetimeS bufLen, ∃ packet ∈ sent,
      turnBuildRefresh crypto t lifetimeS turn.lastTxid bufLen = .ok packet
  permission : ∀ p ∈ turn.permissions, p.pending = .waiting → PermissionSent crypto sent p
  channel : ∀ c ∈ turn.channels, c.pending = .waiting → ChannelSent crypto sent c

theorem Requested.more {crypto : CryptoProvider} {turn : NanoTurn} {sent : List (List UInt8)}
    (h : Requested crypto turn sent) (out : List (List UInt8)) :
    Requested crypto turn (sent ++ out) := by
  constructor
  · intro ht
    obtain ⟨t, n, packet, hp, hb⟩ := h.allocate ht
    exact ⟨t, n, packet, List.mem_append_left out hp, hb⟩
  · intro ht
    obtain ⟨hauth, t, s, n, packet, hp, hb⟩ := h.refresh ht
    exact ⟨hauth, t, s, n, packet, List.mem_append_left out hp, hb⟩
  · intro p hmem hw
    obtain ⟨t, peer, n, packet, hp, hb⟩ := h.permission p hmem hw
    exact ⟨t, peer, n, packet, List.mem_append_left out hp, hb⟩
  · intro c hmem hw
    obtain ⟨t, c', n, packet, hp, hb⟩ := h.channel c hmem hw
    exact ⟨t, c', n, packet, List.mem_append_left out hp, hb⟩

/-- The waiting permissions of `ps'` were waiting in `ps` for the same peer. -/
def OldPermissions (ps ps' : List TurnPermission) : Prop :=
  ∀ p' ∈ ps', p'.pending = .waiting → ∃ p ∈ ps, p.pending = .waiting ∧ p'.addr = p.addr ∧
    p'.family = p.family ∧ p'.port = p.port ∧ p'.txid = p.txid

/-- The waiting channels of `cs'` were waiting in `cs` for the same peer. -/
def OldChannels (cs cs' : List TurnChannel) : Prop :=
  ∀ c' ∈ cs', c'.pending = .waiting → ∃ c ∈ cs, c.pending = .waiting ∧ c'.channel = c.channel ∧
    c'.peer = c.peer ∧ c'.txid = c.txid

theorem OldPermissions.refl (ps : List TurnPermission) : OldPermissions ps ps :=
  fun p hp hw => ⟨p, hp, hw, rfl, rfl, rfl, rfl⟩

theorem OldChannels.refl (cs : List TurnChannel) : OldChannels cs cs :=
  fun c hc hw => ⟨c, hc, hw, rfl, rfl, rfl⟩

/-- An entry that does not wait needs no packet. -/
theorem OldPermissions.set {ps ps' : List TurnPermission} (h : OldPermissions ps ps') (i : Nat)
    {p : TurnPermission} (hp : p.pending ≠ .waiting) : OldPermissions ps (ps'.set i p) := by
  intro p' hp' hw
  cases List.mem_or_eq_of_mem_set hp' with
  | inl hmem => exact h p' hmem hw
  | inr heq => exact absurd (heq ▸ hw) hp

theorem OldChannels.set {cs cs' : List TurnChannel} (h : OldChannels cs cs') (i : Nat)
    {c : TurnChannel} (hc : c.pending ≠ .waiting) : OldChannels cs (cs'.set i c) := by
  intro c' hc' hw
  cases List.mem_or_eq_of_mem_set hc' with
  | inl hmem => exact h c' hmem hw
  | inr heq => exact absurd (heq ▸ hw) hc

theorem renew_ne_waiting (r : TurnRequest) : r.renew ≠ .waiting := by
  cases r <;> exact nofun

theorem OldPermissions.renewed (ps : List TurnPermission) :
    OldPermissions ps (ps.map fun p => { p with pending := p.pending.renew }) := by
  intro p' hp' hw
  obtain ⟨p, -, rfl⟩ := List.mem_map.mp hp'
  exact absurd hw (renew_ne_waiting p.pending)

theorem OldChannels.renewed (cs : List TurnChannel) :
    OldChannels cs (cs.map fun c => { c with pending := c.pending.renew }) := by
  intro c' hc' hw
  obtain ⟨c, -, rfl⟩ := List.mem_map.mp hc'
  exact absurd hw (renew_ne_waiting c.pending)

theorem PermissionSent.same {crypto : CryptoProvider} {sent : List (List UInt8)}
    {p p' : TurnPermission} (h : PermissionSent crypto sent p) (haddr : p'.addr = p.addr)
    (hfamily : p'.family = p.family) (hport : p'.port = p.port) (htxid : p'.txid = p.txid) :
    PermissionSent crypto sent p' := by
  obtain ⟨t, peer, n, packet, hp, hf, hpo, ha, hb⟩ := h
  refine ⟨t, peer, n, packet, hp, hfamily.trans hf, hport.trans hpo, ?_, ?_⟩
  · rw [haddr, hfamily]
    exact ha
  · rw [htxid]
    exact hb

theorem ChannelSent.same {crypto : CryptoProvider} {sent : List (List UInt8)}
    {c c' : TurnChannel} (h : ChannelSent crypto sent c) (hchannel : c'.channel = c.channel)
    (hpeer : c'.peer = c.peer) (htxid : c'.txid = c.txid) : ChannelSent crypto sent c' := by
  obtain ⟨t, d, n, packet, hp, hd, hdp, hb⟩ := h
  refine ⟨t, d, n, packet, hp, hd.trans hchannel.symm, hdp.trans hpeer.symm, ?_⟩
  rw [htxid]
  exact hb

/-- A call that sends nothing new: the transaction goes on or ends, and no entry starts to wait. -/
theorem Requested.frame {crypto : CryptoProvider} {turn turn' : NanoTurn}
    {sent : List (List UInt8)} (h : Requested crypto turn sent)
    (htxn : turn'.transaction = .none ∨ (turn'.transaction = turn.transaction ∧
      turn'.transactionAuthenticated = turn.transactionAuthenticated ∧
      turn'.lastTxid = turn.lastTxid))
    (hperm : OldPermissions turn.permissions turn'.permissions)
    (hchan : OldChannels turn.channels turn'.channels) : Requested crypto turn' sent := by
  constructor
  · intro ht
    cases htxn with
    | inl hnone =>
      rw [hnone] at ht
      exact nomatch ht
    | inr hsame =>
      obtain ⟨htrans, hauth, htxid⟩ := hsame
      rw [hauth, htxid]
      exact h.allocate (htrans ▸ ht)
  · intro ht
    cases htxn with
    | inl hnone =>
      rw [hnone] at ht
      exact nomatch ht
    | inr hsame =>
      obtain ⟨htrans, hauth, htxid⟩ := hsame
      rw [hauth, htxid]
      exact h.refresh (htrans ▸ ht)
  · intro p' hp' hw
    obtain ⟨p, hp, hpw, ha, hf, hpo, htx⟩ := hperm p' hp' hw
    exact (h.permission p hp hpw).same ha hf hpo htx
  · intro c' hc' hw
    obtain ⟨c, hc, hcw, hch, hpeer, htx⟩ := hchan c' hc' hw
    exact (h.channel c hc hcw).same hch hpeer htx

/-! ### Requests -/

theorem turnConfigure_requested {crypto : CryptoProvider} {turn : NanoTurn}
    {sent : List (List UInt8)} (h : Requested crypto turn sent) (server : NanortcAddr)
    (username password : List UInt8) :
    Requested crypto (turnConfigure turn server username password).1 sent := by
  unfold turnConfigure
  split
  · exact h
  · exact h.frame (.inr ⟨rfl, rfl, rfl⟩) (.refl _) (.refl _)

theorem turnStartAllocate_requested {crypto : CryptoProvider} {turn : NanoTurn}
    {sent : List (List UInt8)} (h : Requested crypto turn sent) (random : Option (List UInt8))
    (bufLen : Nat) :
    Requested crypto (turnStartAllocate crypto turn random bufLen).1
      (sent ++ emitted (turnStartAllocate crypto turn random bufLen).2) := by
  unfold turnStartAllocate
  split
  · exact h.more _
  split
  · exact h.more _
  cases random with
  | none => exact h.more _
  | some txid =>
    dsimp only
    split
    · exact h.more _
    · rename_i out hbuild
      have hne : out ≠ [] := by
        unfold turnBuildAllocate at hbuild
        split at hbuild
        · exact nomatch hbuild
        · obtain rfl := Except.ok.inj hbuild
          split
          · exact turnSign_ne_nil _ _ _
          · exact stunFinalizeLength_ne_nil _
      constructor
      · intro _
        exact ⟨turn, bufLen, out, List.mem_append_right sent (mem_emitted hne), hbuild⟩
      · exact nofun
      · exact (h.more _).permission
      · exact (h.more _).channel

theorem turnBuildRefresh_ne_nil {crypto : CryptoProvider} {turn : NanoTurn} {lifetimeS : UInt32}
    {txid : List UInt8} {bufLen : Nat} {out : List UInt8}
    (h : turnBuildRefresh crypto turn lifetimeS txid bufLen = .ok out) : out ≠ [] := by
  unfold turnBuildRefresh at h
  split at h
  · exact nomatch h
  · obtain rfl := Except.ok.inj h
    exact turnSign_ne_nil _ _ _

theorem turnBuildPermission_ne_nil {crypto : CryptoProvider} {turn : NanoTurn}
    {peer : NanortcAddr} {txid : List UInt8} {bufLen : Nat} {out : List UInt8}
    (h : turnBuildPermission crypto turn peer txid bufLen = .ok out) : out ≠ [] := by
  unfold turnBuildPermission at h
  split at h
  · exact nomatch h
  · obtain rfl := Except.ok.inj h
    exact turnSign_ne_nil _ _ _

theorem turnBuildChannelBind_ne_nil {crypto : CryptoProvider} {turn : NanoTurn} {c : TurnChannel}
    {txid : List UInt8} {bufLen : Nat} {out : List UInt8}
    (h : turnBuildChannelBind crypto turn c txid bufLen = .ok out) : out ≠ [] := by
  unfold turnBuildChannelBind at h
  split at h
  · exact nomatch h
  · obtain rfl := Except.ok.inj h
    exact turnSign_ne_nil _ _ _

theorem turnGenerateRefresh_requested {crypto : CryptoProvider} {turn : NanoTurn}
    {sent : List (List UInt8)} (h : Requested crypto turn sent) (nowMs : UInt32)
    (random : Option (List UInt8)) (bufLen : Nat) :
    Requested crypto (turnGenerateRefresh crypto turn nowMs random bufLen).1
      (sent ++ emitted (turnGenerateRefresh crypto turn nowMs random bufLen).2) := by
  unfold turnGenerateRefresh
  iterate 3
    split
    · exact h.more _
  cases random with
  | none => exact h.more _
  | some txid =>
    dsimp only
    split
    · exact h.more _
    · rename_i out hbuild
      have hmem := List.mem_append_right sent (mem_emitted (turnBuildRefresh_ne_nil hbuild))
      constructor
      · exact nofun
      · intro _
        exact ⟨rfl, turn, turnDefaultLifetime, bufLen, out, hmem, hbuild⟩
      · exact (h.more _).permission
      · exact (h.more _).channel

theorem turnCreatePermission_requested {crypto : CryptoProvider} {turn : NanoTurn}
    {sent : List (List UInt8)} (h : Requested crypto turn sent) (peer : NanortcAddr)
    (random : Option (List UInt8)) (bufLen : Nat) :
    Requested crypto (turnCreatePermission crypto turn peer random bufLen).1
      (sent ++ emitted (turnCreatePermission crypto turn peer random bufLen).2) := by
  unfold turnCreatePermission
  split
  · exact h.more _
  split
  · exact h.more _
  dsimp only
  split
  · exact h.more _
  split
  · exact h.more _
  cases random with
  | none => exact h.more _
  | some txid =>
    dsimp only
    split
    · exact h.more _
    · rename_i out hbuild
      have hmem := List.mem_append_right sent (mem_emitted (turnBuildPermission_ne_nil hbuild))
      refine ⟨(h.more _).allocate, (h.more _).refresh, fun p hp hw => ?_, (h.more _).channel⟩
      have hold (hp : p ∈ turn.permissions) := (h.more (emitted (.ok out))).permission p hp hw
      cases hfound : turnFindPermission turn peer.addr peer.family with
      | none =>
        rw [hfound] at hp
        cases List.mem_append.mp hp with
        | inl hp => exact hold hp
        | inr hp =>
          obtain rfl := List.mem_singleton.mp hp
          exact ⟨turn, peer, bufLen, out, hmem, rfl, rfl, addrEq_refl _ _, hbuild⟩
      | some i =>
        rw [hfound] at hp
        cases List.mem_or_eq_of_mem_set hp with
        | inl hp => exact hold hp
        | inr hp =>
          subst hp
          -- the entry found has the address of the peer
          unfold turnFindPermission at hfound
          obtain ⟨hi, hfor, -⟩ := List.findIdx?_eq_some_iff_getElem.mp hfound
          simp only [Bool.and_eq_true, beq_iff_eq] at hfor
          rw [Option.map_some, List.getD_eq_getElem _ _ hi]
          refine ⟨turn, peer, bufLen, out, hmem, hfor.1, rfl, ?_, hbuild⟩
          show addrEq turn.permissions[i].family turn.permissions[i].addr peer.addr = true
          rw [hfor.1]
          exact hfor.2

theorem turnChannelBind_requested {crypto : CryptoProvider} {turn : NanoTurn}
    {sent : List (List UInt8)} (h : Requested crypto turn sent) (peer : NanortcAddr)
    (random : Option (List UInt8)) (bufLen : Nat) :
    Requested crypto (turnChannelBind crypto turn peer random bufLen).1
      (sent ++ emitted (turnChannelBind crypto turn peer random bufLen).2) := by
  unfold turnChannelBind
  split
  · exact h.more _
  split
  · exact h.more _
  cases turn.channels.findIdx? (·.isFor peer) with
  | none =>
    dsimp only
    split
    · exact h.more _
    split
    · exact h.more _
    cases random with
    | none => exact h.more _
    | some txid =>
      dsimp only
      split
      · exact h.more _
      · rename_i out hbuild
        have hmem := List.mem_append_right sent (mem_emitted (turnBuildChannelBind_ne_nil hbuild))
        refine ⟨(h.more _).allocate, (h.more _).refresh, (h.more _).permission, fun c hc hw => ?_⟩
        cases List.mem_append.mp hc with
        | inl hc => exact (h.more _).channel c hc hw
        | inr hc =>
          obtain rfl := List.mem_singleton.mp hc
          exact ⟨turn, _, bufLen, out, hmem, rfl, rfl, hbuild⟩
  | some i =>
    dsimp only
    split
    · exact h.more _
    rename_i hpending
    have hidle : (turn.channels.getD i default).pending ≠ .waiting := by
      intro hw
      exact hpending (by rw [hw]; exact nofun)
    cases random with
    | none => exact h.more _
    | some txid =>
      dsimp only
      split
      · -- the id is stored although nothing was sent
        exact (h.more _).frame (.inr ⟨rfl, rfl, rfl⟩) (.refl _) ((OldChannels.refl _).set i hidle)
      · rename_i out hbuild
        have hmem := List.mem_append_right sent (mem_emitted (turnBuildChannelBind_ne_nil hbuild))
        refine ⟨(h.more _).allocate, (h.more _).refresh, (h.more _).permission, fun c hc hw => ?_⟩
        cases List.mem_or_eq_of_mem_set hc with
        | inl hc => exact (h.more _).channel c hc hw
        | inr hc =>
          subst hc
          exact ⟨turn, _, bufLen, out, hmem, rfl, rfl, hbuild⟩

theorem turnDeallocate_requested {crypto : CryptoProvider} {turn : NanoTurn}
    {sent : List (List UInt8)} (h : Requested crypto turn sent) (random : Option (List UInt8))
    (bufLen : Nat) :
    Requested crypto (turnDeallocate crypto turn random bufLen).1
      (sent ++ emitted (turnDeallocate crypto turn random bufLen).2) := by
  unfold turnDeallocate
  split
  · exact h.more _
  split
  · exact h.more _
  cases random with
  | none => exact h.more _
  | some txid =>
    dsimp only
    split
    · exact h.more _
    · exact (h.more _).frame (.inl rfl) nofun nofun

/-! ### Retransmissions -/

/-- An entry waits for a request of before, or for the one the loop has just sent. -/
theorem turnRetransmitPermissions_waiting (crypto : CryptoProvider) (turn : NanoTurn)
    (nowMs : UInt32) (random : Option (List UInt8)) (bufLen : Nat) (ps : List TurnPermission) :
    ∀ p' ∈ (turnRetransmitPermissions crypto turn nowMs random bufLen ps).1,
      p'.pending = .waiting →
      (∃ p ∈ ps, p.pending = .waiting ∧ p'.addr = p.addr ∧ p'.family = p.family ∧
        p'.port = p.port ∧ p'.txid = p.txid) ∨
      ∃ out, (turnRetransmitPermissions crypto turn nowMs random bufLen ps).2 = some (.ok out) ∧
        turnBuildPermission crypto turn ⟨p'.family, p'.addr, p'.port⟩ p'.txid bufLen = .ok out := by
  induction ps with
  | nil => exact nofun
  | cons p ps ih =>
    have hskip (q : TurnPermission) (hq : q.pending = .waiting → p.pending = .waiting ∧
          q.addr = p.addr ∧ q.family = p.family ∧ q.port = p.port ∧ q.txid = p.txid) :
        ∀ p' ∈ q :: (turnRetransmitPermissions crypto turn nowMs random bufLen ps).1,
          p'.pending = .waiting →
          (∃ p'' ∈ p :: ps, p''.pending = .waiting ∧ p'.addr = p''.addr ∧
            p'.family = p''.family ∧ p'.port = p''.port ∧ p'.txid = p''.txid) ∨
          ∃ out, (turnRetransmitPermissions crypto turn nowMs random bufLen ps).2 =
            some (.ok out) ∧ turnBuildPermission crypto turn ⟨p'.family, p'.addr, p'.port⟩
              p'.txid bufLen = .ok out := by
      intro p' hp' hw
      cases List.mem_cons.mp hp' with
      | inl heq =>
        subst heq
        exact .inl ⟨p, List.mem_cons_self, hq hw⟩
      | inr hmem =>
        cases ih p' hmem hw with
        | inl hold =>
          obtain ⟨p'', hp'', hsame⟩ := hold
          exact .inl ⟨p'', List.mem_cons_of_mem p hp'', hsame⟩
        | inr hsent => exact .inr hsent
    have hstay : ∀ p' ∈ p :: ps, p'.pending = .waiting →
        ∃ p'' ∈ p :: ps, p''.pending = .waiting ∧ p'.addr = p''.addr ∧
          p'.family = p''.family ∧ p'.port = p''.port ∧ p'.txid = p''.txid :=
      fun p' hp' hw => ⟨p', hp', hw, rfl, rfl, rfl, rfl⟩
    unfold turnRetransmitPermissions
    dsimp only
    cases turnDue nowMs p.pending p.deadlineMs p.transmissions with
    | skip => exact hskip p fun hw => ⟨hw, rfl, rfl, rfl, rfl⟩
    | arm => exact hskip _ fun hw => ⟨hw, rfl, rfl, rfl, rfl⟩
    | expire => exact hskip _ fun hw => nomatch hw
    | send =>
      dsimp only
      cases turnRetransmitTxid p.pending p.txid random with
      | none => exact fun p' hp' hw => .inl (hstay p' hp' hw)
      | some txid =>
        dsimp only
        cases hbuild : turnBuildPermission crypto turn ⟨p.family, p.addr, p.port⟩ txid bufLen with
        | error e => exact fun p' hp' hw => .inl (hstay p' hp' hw)
        | ok out =>
          intro p' hp' hw
          cases List.mem_cons.mp hp' with
          | inl heq =>
            subst heq
            exact .inr ⟨out, rfl, hbuild⟩
          | inr hmem => exact .inl (hstay p' (List.mem_cons_of_mem p hmem) hw)

theorem turnRetransmitChannels_waiting (crypto : CryptoProvider) (turn : NanoTurn)
    (nowMs : UInt32) (random : Option (List UInt8)) (bufLen : Nat) (cs : List TurnChannel) :
    ∀ c' ∈ (turnRetransmitChannels crypto turn nowMs random bufLen cs).1,
      c'.pending = .waiting →
      (∃ c ∈ cs, c.pending = .waiting ∧ c'.channel = c.channel ∧ c'.peer = c.peer ∧
        c'.txid = c.txid) ∨
      ∃ out c, (turnRetransmitChannels crypto turn nowMs random bufLen cs).2 = some (.ok out) ∧
        c.channel = c'.channel ∧ c.peer = c'.peer ∧
        turnBuildChannelBind crypto turn c c'.txid bufLen = .ok out := by
  induction cs with
  | nil => exact fun c' h => absurd h List.not_mem_nil
  | cons c cs ih =>
    have hskip (q : TurnChannel) (hq : q.pending = .waiting → c.pending = .waiting ∧
          q.channel = c.channel ∧ q.peer = c.peer ∧ q.txid = c.txid) :
        ∀ c' ∈ q :: (turnRetransmitChannels crypto turn nowMs random bufLen cs).1,
          c'.pending = .waiting →
          (∃ c'' ∈ c :: cs, c''.pending = .waiting ∧ c'.channel = c''.channel ∧
            c'.peer = c''.peer ∧ c'.txid = c''.txid) ∨
          ∃ out d, (turnRetransmitChannels crypto turn nowMs random bufLen cs).2 =
            some (.ok out) ∧ d.channel = c'.channel ∧ d.peer = c'.peer ∧
              turnBuildChannelBind crypto turn d c'.txid bufLen = .ok out := by
      intro c' hc' hw
      cases List.mem_cons.mp hc' with
      | inl heq =>
        subst heq
        exact .inl ⟨c, List.mem_cons_self, hq hw⟩
      | inr hmem =>
        cases ih c' hmem hw with
        | inl hold =>
          obtain ⟨c'', hc'', hsame⟩ := hold
          exact .inl ⟨c'', List.mem_cons_of_mem c hc'', hsame⟩
        | inr hsent => exact .inr hsent
    have hstay : ∀ c' ∈ c :: cs, c'.pending = .waiting →
        ∃ c'' ∈ c :: cs, c''.pending = .waiting ∧ c'.channel = c''.channel ∧
          c'.peer = c''.peer ∧ c'.txid = c''.txid :=
      fun c' hc' hw => ⟨c', hc', hw, rfl, rfl, rfl⟩
    unfold turnRetransmitChannels
    dsimp only
    cases turnDue nowMs c.pending c.deadlineMs c.transmissions with
    | skip => exact hskip c fun hw => ⟨hw, rfl, rfl, rfl⟩
    | arm => exact hskip _ fun hw => ⟨hw, rfl, rfl, rfl⟩
    | expire => exact hskip _ fun hw => by cases hw
    | send =>
      dsimp only
      cases turnRetransmitTxid c.pending c.txid random with
      | none => exact fun c' hc' hw => .inl (hstay c' hc' hw)
      | some txid =>
        dsimp only
        cases hbuild : turnBuildChannelBind crypto turn c txid bufLen with
        | error e => exact fun c' hc' hw => .inl (hstay c' hc' hw)
        | ok out =>
          intro c' hc' hw
          cases List.mem_cons.mp hc' with
          | inl heq =>
            subst heq
            exact .inr ⟨out, c, rfl, rfl, rfl, hbuild⟩
          | inr hmem => exact .inl (hstay c' (List.mem_cons_of_mem c hmem) hw)

theorem turnRetransmitTables_requested {crypto : CryptoProvider} {turn : NanoTurn}
    {sent : List (List UInt8)} (h : Requested crypto turn sent) (nowMs : UInt32)
    (random : Option (List UInt8)) (bufLen : Nat) :
    Requested crypto (turnRetransmitTables crypto turn nowMs random bufLen).1
      (sent ++ emitted (turnRetransmitTables crypto turn nowMs random bufLen).2) := by
  have hperm := turnRetransmitPermissions_waiting crypto turn nowMs random bufLen turn.permissions
  unfold turnRetransmitTables
  dsimp only
  revert hperm
  generalize turnRetransmitPermissions crypto turn nowMs random bufLen turn.permissions = r
  intro hperm
  obtain ⟨ps, res⟩ := r
  cases res with
  | some res =>
    refine ⟨(h.more _).allocate, (h.more _).refresh, fun p' hp' hw => ?_, (h.more _).channel⟩
    cases hperm p' hp' hw with
    | inl hold =>
      obtain ⟨p, hp, hpw, ha, hf, hpo, htx⟩ := hold
      exact ((h.more _).permission p hp hpw).same ha hf hpo htx
    | inr hsent =>
      obtain ⟨out, hres, hbuild⟩ := hsent
      obtain rfl := Option.some.inj hres
      exact ⟨turn, _, bufLen, out,
        List.mem_append_right sent (mem_emitted (turnBuildPermission_ne_nil hbuild)), rfl, rfl,
        addrEq_refl _ _, hbuild⟩
  | none =>
    dsimp only
    have hold : OldPermissions turn.permissions ps := by
      intro p' hp' hw
      cases hperm p' hp' hw with
      | inl hold => exact hold
      | inr hsent =>
        obtain ⟨out, hres, -⟩ := hsent
        exact nomatch hres
    have hchan := turnRetransmitChannels_waiting crypto { turn with permissions := ps } nowMs random
      bufLen turn.channels
    revert hchan
    generalize turnRetransmitChannels crypto { turn with permissions := ps } nowMs random bufLen
      turn.channels = r
    intro hchan
    obtain ⟨cs, res⟩ := r
    have hp : Requested crypto { turn with permissions := ps } (sent ++ emitted (res.getD (.ok [])))
      := (h.more _).frame (.inr ⟨rfl, rfl, rfl⟩) hold (.refl _)
    refine ⟨hp.allocate, hp.refresh, hp.permission, fun c' hc' hw => ?_⟩
    cases hchan c' hc' hw with
    | inl hc =>
      obtain ⟨c, hc, hcw, hch, hpeer, htx⟩ := hc
      exact (hp.channel c hc hcw).same hch hpeer htx
    | inr hsent =>
      obtain ⟨out, d, hres, hch, hpeer, hbuild⟩ := hsent
      have hres : res = some (.ok out) := hres
      subst hres
      exact ⟨_, d, bufLen, out,
        List.mem_append_right sent (mem_emitted (turnBuildChannelBind_ne_nil hbuild)), hch, hpeer,
        hbuild⟩

theorem turnGenerateRetransmit_requested {crypto : CryptoProvider} {turn : NanoTurn}
    {sent : List (List UInt8)} (h : Requested crypto turn sent) (nowMs : UInt32)
    (random : Option (List UInt8)) (bufLen : Nat) :
    Requested crypto (turnGenerateRetransmit crypto turn nowMs random bufLen).1
      (sent ++ emitted (turnGenerateRetransmit crypto turn nowMs random bufLen).2) := by
  unfold turnGenerateRetransmit
  split
  · exact turnRetransmitTables_requested h nowMs random bufLen
  rename_i hactive
  split
  · have harmed : Requested crypto { turn with
        transactionRetryAtMs :=
          nanoTimeDeadline nowMs (turnRetryDelayMs turn.transactionTransmissions) } sent :=
      h.frame (.inr ⟨rfl, rfl, rfl⟩) (.refl _) (.refl _)
    exact turnRetransmitTables_requested harmed nowMs random bufLen
  split
  · exact turnRetransmitTables_requested h nowMs random bufLen
  split
  · exact (h.more _).frame (.inl rfl) (.refl _) (.refl _)
  split
  · exact h.more _
  · rename_i txid _
    dsimp only
    split
    · exact h.more _
    · rename_i out hbuild
      cases htxn : turn.transaction with
      | none => exact absurd htxn hactive
      | allocate =>
        rw [if_pos htxn] at hbuild
        have hne : out ≠ [] := by
          unfold turnBuildAllocate at hbuild
          split at hbuild
          · exact nomatch hbuild
          · obtain rfl := Except.ok.inj hbuild
            split
            · exact turnSign_ne_nil _ _ _
            · exact stunFinalizeLength_ne_nil _
        have hmem := List.mem_append_right sent (mem_emitted hne)
        exact ⟨fun _ => ⟨turn, bufLen, out, hmem, hbuild⟩, nofun, (h.more _).permission,
          (h.more _).channel⟩
      | refresh =>
        rw [if_neg (by rw [htxn]; exact nofun)] at hbuild
        have hmem := List.mem_append_right sent (mem_emitted (turnBuildRefresh_ne_nil hbuild))
        exact ⟨nofun, fun _ => ⟨(h.refresh htxn).1, turn, turnDefaultLifetime, bufLen, out, hmem,
          hbuild⟩, (h.more _).permission, (h.more _).channel⟩

theorem turnDoWork_requested {crypto : CryptoProvider} {turn : NanoTurn}
    {sent : List (List UInt8)} (h : Requested crypto turn sent) (nowMs : UInt32) (work : TurnWork)
    (random : Option (List UInt8)) (bufLen : Nat) :
    Requested crypto (turnDoWork crypto turn nowMs work random bufLen).1
      (sent ++ emitted (turnDoWork crypto turn nowMs work random bufLen).2) := by
  unfold turnDoWork
  cases work.type with
  | none => exact h.more _
  | retransmit => exact h.more _
  | allocate => exact turnStartAllocate_requested h random bufLen
  | refresh => exact turnGenerateRefresh_requested h nowMs random bufLen
  | permission => exact turnCreatePermission_requested h _ random bufLen
  | channel => exact turnChannelBind_requested h _ random bufLen

theorem turnPollOutput_requested {crypto : CryptoProvider} {turn : NanoTurn}
    {sent : List (List UInt8)} (h : Requested crypto turn sent) (nowMs : UInt32)
    (random : Option (List UInt8)) (bufLen : Nat) :
    Requested crypto (turnPollOutput crypto turn nowMs random bufLen).1
      (sent ++ emitted (turnPollOutput crypto turn nowMs random bufLen).2) := by
  unfold turnPollOutput
  dsimp only
  split
  · exact h.more _
  split
  · have hretx := turnGenerateRetransmit_requested h nowMs random bufLen
    revert hretx
    generalize turnGenerateRetransmit crypto turn nowMs random bufLen = r
    intro hretx
    split
    · -- arming and expiry have sent nothing
      rename_i t
      have hretx : Requested crypto t (sent ++ []) := hretx
      rw [List.append_nil] at hretx
      split
      · exact hretx.more _
      · exact turnDoWork_requested hretx nowMs _ random bufLen
    · exact hretx
  · exact turnDoWork_requested h nowMs _ random bufLen

/-! ### Responses -/

/-- The entry after a new nonce. -/
def permissionRenewed (p : TurnPermission) : TurnPermission :=
  { p with pending := p.pending.renew }

/-- The entry after a new nonce. -/
def channelRenewed (c : TurnChannel) : TurnChannel := { c with pending := c.pending.renew }

theorem permission_renewed_getD (ps : List TurnPermission) (i : Nat) :
    ((ps.map permissionRenewed).getD i default).pending ≠ .waiting := by
  rw [List.getD_eq_getElem?_getD, List.getElem?_map]
  cases ps[i]? with
  | none => exact nofun
  | some p => exact renew_ne_waiting p.pending

theorem channel_renewed_getD (cs : List TurnChannel) (i : Nat) :
    ((cs.map channelRenewed).getD i default).pending ≠ .waiting := by
  rw [List.getD_eq_getElem?_getD, List.getElem?_map]
  cases cs[i]? with
  | none => exact nofun
  | some c => exact renew_ne_waiting c.pending

theorem turnHandleStaleNonce_requested {crypto : CryptoProvider} {turn : NanoTurn}
    {sent : List (List UInt8)} (h : Requested crypto turn sent) (nowMs : UInt32) (msg : StunMsg)
    (txidMatch authenticated : Bool) (perm chan : Option Nat) :
    Requested crypto
      (turnHandleStaleNonce turn nowMs msg txidMatch authenticated perm chan).1 sent := by
  have hfail : Requested crypto (turnFail (turnClearTransaction turn)).1 sent :=
    h.frame (.inl rfl) (.refl _) (.refl _)
  unfold turnHandleStaleNonce
  dsimp only
  generalize (if txidMatch then turn.transactionTransmissions else _ : Nat) = transmissions
  cases msg.nonce with
  | none => exact hfail
  | some nonce =>
    have hperm := OldPermissions.renewed turn.permissions
    have hchan := OldChannels.renewed turn.channels
    dsimp only
    split
    · exact hfail
    split
    · exact h.frame (.inr ⟨rfl, rfl, rfl⟩) hperm hchan
    cases perm with
    | some i =>
      exact h.frame (.inr ⟨rfl, rfl, rfl⟩)
        (hperm.set i (permission_renewed_getD turn.permissions i)) hchan
    | none =>
      exact h.frame (.inr ⟨rfl, rfl, rfl⟩) hperm
        (hchan.set (chan.getD 0) (channel_renewed_getD turn.channels (chan.getD 0)))

theorem turnHandleAllocateError_requested {crypto : CryptoProvider} {turn : NanoTurn}
    {sent : List (List UInt8)} (h : Requested crypto turn sent) (msg : StunMsg) :
    Requested crypto (turnHandleAllocateError crypto turn msg).1 sent := by
  have hfail : Requested crypto (turnFail (turnClearTransaction turn)).1 sent :=
    h.frame (.inl rfl) (.refl _) (.refl _)
  unfold turnHandleAllocateError
  split
  · split
    · exact hfail
    · cases msg.realm with
      | none => exact hfail
      | some realm =>
        cases msg.nonce with
        | none => exact hfail
        | some nonce => exact h.frame (.inl rfl) (.renewed _) (.renewed _)
  · exact hfail

theorem turnDispatchResponse_requested {crypto : CryptoProvider} {turn : NanoTurn}
    {sent : List (List UInt8)} (h : Requested crypto turn sent) (nowMs : UInt32) (msg : StunMsg)
    (perm chan : Option Nat) :
    Requested crypto (turnDispatchResponse crypto turn nowMs msg perm chan).1 sent := by
  unfold turnDispatchResponse
  dsimp only
  cases TurnMsgType.ofType msg.type with
  | allocateResponse =>
    dsimp only
    split
    · exact h
    · exact h.frame (.inl rfl) (.refl _) (.refl _)
  | allocateError => exact turnHandleAllocateError_requested h msg
  | refreshResponse => exact h.frame (.inl rfl) (.refl _) (.refl _)
  | refreshError => exact h.frame (.inl rfl) (.refl _) (.refl _)
  | permissionResponse =>
    cases perm with
    | none => exact h
    | some i => exact h.frame (.inr ⟨rfl, rfl, rfl⟩) ((OldPermissions.refl _).set i nofun) (.refl _)
  | permissionError =>
    cases perm with
    | none => exact h
    | some i =>
      dsimp only
      unfold turnHandlePermissionError
      dsimp only
      split
      · exact h.frame (.inr ⟨rfl, rfl, rfl⟩) ((OldPermissions.refl _).set i nofun) (.refl _)
      split
      · exact h.frame (.inr ⟨rfl, rfl, rfl⟩) ((OldPermissions.refl _).set i nofun) (.refl _)
      · exact h.frame (.inr ⟨rfl, rfl, rfl⟩) ((OldPermissions.refl _).set i nofun) (.refl _)
  | channelBindResponse =>
    cases chan with
    | none => exact h
    | some i => exact h.frame (.inr ⟨rfl, rfl, rfl⟩) (.refl _) ((OldChannels.refl _).set i nofun)
  | channelBindError =>
    cases chan with
    | none => exact h
    | some i => exact h.frame (.inr ⟨rfl, rfl, rfl⟩) (.refl _) ((OldChannels.refl _).set i nofun)
  | other => exact h

theorem turnHandleResponse_requested {crypto : CryptoProvider} {turn : NanoTurn}
    {sent : List (List UInt8)} (h : Requested crypto turn sent) (nowMs : UInt32)
    (data : List UInt8) :
    Requested crypto (turnHandleResponse crypto turn nowMs data).1 sent := by
  unfold turnHandleResponse
  cases stunParse data with
  | error e => exact h
  | ok msg =>
    dsimp only
    iterate 4
      split
      · exact h
    split
    · exact turnHandleStaleNonce_requested h ..
    · exact turnDispatchResponse_requested h ..

/-! ### Runs -/

/-- The packets of one call. -/
def turnPackets (crypto : CryptoProvider) (turn : NanoTurn) : TurnInput → List (List UInt8)
  | .startAllocate random bufLen => emitted (turnStartAllocate crypto turn random bufLen).2
  | .generateRefresh nowMs random bufLen =>
    emitted (turnGenerateRefresh crypto turn nowMs random bufLen).2
  | .createPermission peer random bufLen =>
    emitted (turnCreatePermission crypto turn peer random bufLen).2
  | .channelBind peer random bufLen => emitted (turnChannelBind crypto turn peer random bufLen).2
  | .generateRetransmit nowMs random bufLen =>
    emitted (turnGenerateRetransmit crypto turn nowMs random bufLen).2
  | .pollOutput nowMs random bufLen => emitted (turnPollOutput crypto turn nowMs random bufLen).2
  | .deallocate random bufLen => emitted (turnDeallocate crypto turn random bufLen).2
  | .configure _ _ _ | .handleResponse _ _ | .resetPeerState => []

/-- A client and the packets it has sent. -/
structure TurnSent where
  turn : NanoTurn
  sent : List (List UInt8)

/-- One call, with its packets. -/
def turnSendStep (crypto : CryptoProvider) (s : TurnSent) (i : TurnInput) : TurnSent where
  turn := turnStep crypto s.turn i
  sent := s.sent ++ turnPackets crypto s.turn i

/-- A new client that has sent nothing. -/
def turnSendStart : TurnSent := ⟨turnInit, []⟩

theorem Requested.start (crypto : CryptoProvider) : Requested crypto turnInit [] :=
  ⟨nofun, nofun, nofun, nofun⟩

/-- **Every outstanding request was sent.** -/
theorem Requested.step {crypto : CryptoProvider} {s : TurnSent} (h : Requested crypto s.turn s.sent)
    (i : TurnInput) :
    Requested crypto (turnSendStep crypto s i).turn (turnSendStep crypto s i).sent := by
  unfold turnSendStep
  dsimp only
  cases i with
  | configure server username password =>
    exact (turnConfigure_requested h server username password).more _
  | startAllocate random bufLen => exact turnStartAllocate_requested h random bufLen
  | handleResponse nowMs data => exact (turnHandleResponse_requested h nowMs data).more _
  | generateRefresh nowMs random bufLen =>
    exact turnGenerateRefresh_requested h nowMs random bufLen
  | createPermission peer random bufLen =>
    exact turnCreatePermission_requested h peer random bufLen
  | channelBind peer random bufLen => exact turnChannelBind_requested h peer random bufLen
  | generateRetransmit nowMs random bufLen =>
    exact turnGenerateRetransmit_requested h nowMs random bufLen
  | pollOutput nowMs random bufLen => exact turnPollOutput_requested h nowMs random bufLen
  | deallocate random bufLen => exact turnDeallocate_requested h random bufLen
  | resetPeerState => exact (h.more _).frame (.inr ⟨rfl, rfl, rfl⟩) nofun nofun

/-! ### What an answer changes -/

/-- An operation of the client; permissions and channels by their table entry. -/
inductive TurnOp where
  | allocate
  | refresh
  | permission (i : Nat)
  | channel (i : Nat)
deriving DecidableEq

/-- The message type answers the operation. -/
def TurnOp.AnsweredBy : TurnOp → TurnMsgType → Prop
  | .allocate, type => type = .allocateResponse ∨ type = .allocateError
  | .refresh, type => type = .refreshResponse ∨ type = .refreshError
  | .permission _, type => type = .permissionResponse ∨ type = .permissionError
  | .channel _, type => type = .channelBindResponse ∨ type = .channelBindError

/-- A request for the operation waits for its answer under the transaction id. -/
def Outstanding (turn : NanoTurn) (txid : List UInt8) : TurnOp → Prop
  | .allocate =>
    turn.transaction = .allocate ∧ turn.transactionReauth = false ∧ turn.lastTxid = txid
  | .refresh => turn.transaction = .refresh ∧ turn.transactionReauth = false ∧ turn.lastTxid = txid
  | .permission i => ∃ p, turn.permissions[i]? = some p ∧ p.pending = .waiting ∧ p.txid = txid
  | .channel i => ∃ c, turn.channels[i]? = some c ∧ c.pending = .waiting ∧ c.txid = txid

/-- The outstanding request carried credentials. -/
def Credentialed (turn : NanoTurn) : TurnOp → Prop
  | .allocate => turn.transactionAuthenticated = true
  | _ => True

/-- What an operation's answer leaves of a table: every entry keeps its key, and every entry but the
operation's own keeps everything, except that a new nonce renews its request. -/
structure EntriesKept {α κ : Type} (renew : α → α) (key : α → κ) (own : Option Nat)
    (l l' : List α) : Prop where
  length : l'.length = l.length
  entry : ∀ j a', l'[j]? = some a' → ∃ a, l[j]? = some a ∧ key a' = key a ∧
    (own ≠ some j → a' = a ∨ a' = renew a)

section Entries

variable {α κ : Type} {renew : α → α} {key : α → κ} {own : Option Nat} {l l' : List α}

theorem EntriesKept.refl (l : List α) : EntriesKept renew key own l l :=
  ⟨rfl, fun _ a h => ⟨a, h, rfl, fun _ => .inl rfl⟩⟩

theorem EntriesKept.renewed (hkey : ∀ a, key (renew a) = key a) (l : List α) :
    EntriesKept renew key own l (l.map renew) := by
  refine ⟨List.length_map _, fun j a' h => ?_⟩
  rw [List.getElem?_map, Option.map_eq_some_iff] at h
  obtain ⟨a, ha, rfl⟩ := h
  exact ⟨a, ha, hkey a, fun _ => .inr rfl⟩

/-- The own entry written with its key. -/
theorem EntriesKept.set [Inhabited α] (h : EntriesKept renew key own l l') {i : Nat} {a : α}
    (hown : own = some i) (hkey : key a = key (l'.getD i default)) :
    EntriesKept renew key own l (l'.set i a) := by
  refine ⟨(List.length_set ..).trans h.length, fun j a' ha' => ?_⟩
  rw [List.getElem?_set] at ha'
  split at ha'
  · rename_i heq
    subst heq
    split at ha'
    · rename_i hi
      obtain rfl := Option.some.inj ha'
      obtain ⟨b, hb, hbkey, -⟩ := h.entry i l'[i] (List.getElem?_eq_getElem hi)
      rw [List.getD_eq_getElem _ _ hi] at hkey
      exact ⟨b, hb, hkey.trans hbkey, fun hne => absurd hown hne⟩
    · exact nomatch ha'
  · exact h.entry j a' ha'

end Entries

/-- The table entry of a permission operation. -/
def TurnOp.permission? : TurnOp → Option Nat
  | .permission i => some i
  | _ => none

/-- The table entry of a channel operation. -/
def TurnOp.channel? : TurnOp → Option Nat
  | .channel i => some i
  | _ => none

/-- What names the request of a permission: its peer and its transaction id. -/
def permissionKey (p : TurnPermission) : List UInt8 × UInt8 × UInt16 × List UInt8 :=
  (p.addr, p.family, p.port, p.txid)

/-- What names the request of a channel: its number, its peer and its transaction id. -/
def channelKey (c : TurnChannel) : UInt16 × NanortcAddr × List UInt8 :=
  (c.channel, c.peer, c.txid)

/-- What an answer can change: the entry of its own operation, beside the state of the client and
the requests that a new nonce renews. -/
structure Confined (op : TurnOp) (turn turn' : NanoTurn) : Prop where
  permissions : EntriesKept permissionRenewed permissionKey op.permission?
    turn.permissions turn'.permissions
  channels : EntriesKept channelRenewed channelKey op.channel? turn.channels
    turn'.channels

theorem Confined.same {op : TurnOp} {turn turn' : NanoTurn}
    (hperm : turn'.permissions = turn.permissions) (hchan : turn'.channels = turn.channels) :
    Confined op turn turn' := by
  constructor
  · rw [hperm]
    exact .refl _
  · rw [hchan]
    exact .refl _

theorem Confined.nonce {op : TurnOp} {turn turn' : NanoTurn}
    (hperm : turn'.permissions = turn.permissions.map permissionRenewed)
    (hchan : turn'.channels = turn.channels.map channelRenewed) : Confined op turn turn' := by
  constructor
  · rw [hperm]
    exact .renewed (by intro _; rfl) _
  · rw [hchan]
    exact .renewed (by intro _; rfl) _

theorem Confined.permission {op : TurnOp} {turn turn' : NanoTurn} {i : Nat} {p : TurnPermission}
    (hown : op.permission? = some i) (hperm : turn'.permissions = turn.permissions.set i p)
    (haddr : p.addr = (turn.permissions.getD i default).addr)
    (hfamily : p.family = (turn.permissions.getD i default).family)
    (hport : p.port = (turn.permissions.getD i default).port)
    (htxid : p.txid = (turn.permissions.getD i default).txid)
    (hchan : turn'.channels = turn.channels) : Confined op turn turn' := by
  constructor
  · rw [hperm]
    refine (EntriesKept.refl _).set hown ?_
    unfold permissionKey
    rw [haddr, hfamily, hport, htxid]
  · rw [hchan]
    exact .refl _

theorem Confined.channel {op : TurnOp} {turn turn' : NanoTurn} {i : Nat} {c : TurnChannel}
    (hown : op.channel? = some i) (hchan : turn'.channels = turn.channels.set i c)
    (hchannel : c.channel = (turn.channels.getD i default).channel)
    (haddr : c.addr = (turn.channels.getD i default).addr)
    (hfamily : c.family = (turn.channels.getD i default).family)
    (hport : c.port = (turn.channels.getD i default).port)
    (htxid : c.txid = (turn.channels.getD i default).txid)
    (hperm : turn'.permissions = turn.permissions) : Confined op turn turn' := by
  constructor
  · rw [hperm]
    exact .refl _
  · rw [hchan]
    refine (EntriesKept.refl _).set hown ?_
    unfold channelKey TurnChannel.peer
    rw [hchannel, haddr, hfamily, hport, htxid]

theorem turnHandleStaleNonce_confined (turn : NanoTurn) (nowMs : UInt32) (msg : StunMsg)
    (txidMatch authenticated : Bool) {perm chan : Option Nat} {op : TurnOp}
    (hop : txidMatch = false → op.permission? = perm ∧ op.channel? = chan)
    (hsome : txidMatch = false → perm.isSome ∨ chan.isSome) :
    Confined op turn
      (turnHandleStaleNonce turn nowMs msg txidMatch authenticated perm chan).1 := by
  have hfail : Confined op turn (turnFail (turnClearTransaction turn)).1 := .same rfl rfl
  unfold turnHandleStaleNonce
  dsimp only
  generalize (if txidMatch then turn.transactionTransmissions else _ : Nat) = transmissions
  cases msg.nonce with
  | none => exact hfail
  | some nonce =>
    have hnonce : Confined op turn (turnStoreNonce turn nonce) := .nonce rfl rfl
    dsimp only
    split
    · exact hfail
    cases txidMatch with
    | true => exact ⟨hnonce.permissions, hnonce.channels⟩
    | false =>
      obtain ⟨hperm, hchan⟩ := hop rfl
      cases perm with
      | some i => exact ⟨hnonce.permissions.set hperm rfl, hnonce.channels⟩
      | none =>
        cases chan with
        | some i => exact ⟨hnonce.permissions, hnonce.channels.set hchan rfl⟩
        | none => exact absurd (hsome rfl) (by simp)

theorem turnHandleAllocateError_confined (crypto : CryptoProvider) (turn : NanoTurn)
    (msg : StunMsg) (op : TurnOp) :
    Confined op turn (turnHandleAllocateError crypto turn msg).1 := by
  have hfail : Confined op turn (turnFail (turnClearTransaction turn)).1 := .same rfl rfl
  unfold turnHandleAllocateError
  split
  · split
    · exact hfail
    · cases msg.realm with
      | none => exact hfail
      | some realm =>
        cases msg.nonce with
        | none => exact hfail
        | some nonce => exact .nonce rfl rfl
  · exact hfail

theorem turnDispatchResponse_confined (crypto : CryptoProvider) (turn : NanoTurn) (nowMs : UInt32)
    (msg : StunMsg) {perm chan : Option Nat} {op : TurnOp}
    (hperm : ∀ i, perm = some i → op.permission? = some i)
    (hchan : ∀ i, chan = some i → op.channel? = some i) :
    Confined op turn (turnDispatchResponse crypto turn nowMs msg perm chan).1 := by
  unfold turnDispatchResponse
  dsimp only
  cases TurnMsgType.ofType msg.type with
  | allocateResponse =>
    dsimp only
    split
    · exact .same rfl rfl
    · exact .same rfl rfl
  | allocateError => exact turnHandleAllocateError_confined crypto turn msg op
  | refreshResponse => exact .same rfl rfl
  | refreshError => exact .same rfl rfl
  | permissionResponse =>
    cases perm with
    | none => exact .same rfl rfl
    | some i => exact .permission (hperm i rfl) rfl rfl rfl rfl rfl rfl
  | permissionError =>
    cases perm with
    | none => exact .same rfl rfl
    | some i =>
      dsimp only
      unfold turnHandlePermissionError
      dsimp only
      split
      · exact .permission (hperm i rfl) rfl rfl rfl rfl rfl rfl
      split
      · exact .permission (hperm i rfl) rfl rfl rfl rfl rfl rfl
      · exact .permission (hperm i rfl) rfl rfl rfl rfl rfl rfl
  | channelBindResponse =>
    cases chan with
    | none => exact .same rfl rfl
    | some i => exact .channel (hchan i rfl) rfl rfl rfl rfl rfl rfl rfl
  | channelBindError =>
    cases chan with
    | none => exact .same rfl rfl
    | some i => exact .channel (hchan i rfl) rfl rfl rfl rfl rfl rfl rfl
  | other => exact .same rfl rfl

theorem turnAnsweredPermission_some {turn : NanoTurn} {msg : StunMsg} {i : Nat}
    (h : turnAnsweredPermission turn msg = some i) :
    (TurnOp.permission i).AnsweredBy (TurnMsgType.ofType msg.type) ∧
      Outstanding turn msg.transactionId (.permission i) := by
  unfold turnAnsweredPermission at h
  dsimp only at h
  split at h
  · rename_i htype
    obtain ⟨hi, hp, -⟩ := List.findIdx?_eq_some_iff_getElem.mp h
    simp only [Bool.and_eq_true, beq_iff_eq] at hp
    exact ⟨htype, turn.permissions[i], List.getElem?_eq_getElem hi, hp.1, hp.2⟩
  · exact nomatch h

theorem turnAnsweredChannel_some {turn : NanoTurn} {msg : StunMsg} {i : Nat}
    (h : turnAnsweredChannel turn msg = some i) :
    (TurnOp.channel i).AnsweredBy (TurnMsgType.ofType msg.type) ∧
      Outstanding turn msg.transactionId (.channel i) := by
  unfold turnAnsweredChannel at h
  dsimp only at h
  split at h
  · rename_i htype
    obtain ⟨hi, hp, -⟩ := List.findIdx?_eq_some_iff_getElem.mp h
    simp only [Bool.and_eq_true, beq_iff_eq] at hp
    exact ⟨htype, turn.channels[i], List.getElem?_eq_getElem hi, hp.1, hp.2⟩
  · exact nomatch h

/-- A message type answers one kind of operation. -/
theorem TurnOp.AnsweredBy.kind {op op' : TurnOp} {type : TurnMsgType} (h : op.AnsweredBy type)
    (h' : op'.AnsweredBy type) :
    op.permission?.isSome = op'.permission?.isSome ∧ op.channel?.isSome = op'.channel?.isSome := by
  cases op <;> cases op' <;> cases h <;> cases h' <;> simp_all [TurnOp.permission?, TurnOp.channel?]

/-- The message answers the Allocate or Refresh transaction. -/
def turnTxidMatch (turn : NanoTurn) (msg : StunMsg) : Bool :=
  turn.transaction != .none && !turn.transactionReauth && msg.transactionId == turn.lastTxid

/-- The operation that a message answers, if it is not ignored. -/
theorem answered_op {turn : NanoTurn} {msg : StunMsg}
    (hrefresh : turn.transaction = .refresh → turn.transactionAuthenticated = true)
    (htype : ¬(turnTxidMatch turn msg = true ∧
      ((turn.transaction = .allocate ∧ (!(TurnMsgType.ofType msg.type == .allocateResponse ||
          TurnMsgType.ofType msg.type == .allocateError)) = true) ∨
        (turn.transaction = .refresh ∧ (!(TurnMsgType.ofType msg.type == .refreshResponse ||
          TurnMsgType.ofType msg.type == .refreshError)) = true))))
    (hmine : ¬((!turnTxidMatch turn msg) = true ∧ turnAnsweredPermission turn msg = none ∧
      turnAnsweredChannel turn msg = none)) :
    ∃ op, Outstanding turn msg.transactionId op ∧ op.AnsweredBy (TurnMsgType.ofType msg.type) ∧
      (Credentialed turn op → ((turnTxidMatch turn msg && turn.transactionAuthenticated) ||
        (turnAnsweredPermission turn msg).isSome || (turnAnsweredChannel turn msg).isSome) = true) ∧
      op.permission? = turnAnsweredPermission turn msg ∧
      op.channel? = turnAnsweredChannel turn msg := by
  -- an entry that the message answers is of the operation's kind
  have hnone {op : TurnOp} (hop : op.AnsweredBy (TurnMsgType.ofType msg.type)) :
      (op.permission? = none → turnAnsweredPermission turn msg = none) ∧
        (op.channel? = none → turnAnsweredChannel turn msg = none) := by
    constructor
    · intro hno
      cases hp : turnAnsweredPermission turn msg with
      | none => rfl
      | some i =>
        have hkind := (hop.kind (turnAnsweredPermission_some hp).1).1
        rw [hno] at hkind
        exact nomatch hkind
    · intro hno
      cases hc : turnAnsweredChannel turn msg with
      | none => rfl
      | some i =>
        have hkind := (hop.kind (turnAnsweredChannel_some hc).1).2
        rw [hno] at hkind
        exact nomatch hkind
  cases hmatch : turnTxidMatch turn msg with
  | true =>
    rw [hmatch] at htype
    have hout : turn.transaction ≠ .none ∧ turn.transactionReauth = false ∧
        turn.lastTxid = msg.transactionId := by
      unfold turnTxidMatch at hmatch
      simp only [Bool.and_eq_true, bne_iff_ne, Bool.not_eq_true', beq_iff_eq] at hmatch
      exact ⟨hmatch.1.1, hmatch.1.2, hmatch.2.symm⟩
    cases htxn : turn.transaction with
    | none => exact absurd htxn hout.1
    | allocate =>
      have hop : TurnOp.allocate.AnsweredBy (TurnMsgType.ofType msg.type) := by
        simpa [htxn, TurnOp.AnsweredBy, or_iff_not_imp_left] using htype
      refine ⟨.allocate, ⟨htxn, hout.2⟩, hop, fun hauth => ?_, ((hnone hop).1 rfl).symm,
        ((hnone hop).2 rfl).symm⟩
      have hauth : turn.transactionAuthenticated = true := hauth
      rw [hauth]
      rfl
    | refresh =>
      have hop : TurnOp.refresh.AnsweredBy (TurnMsgType.ofType msg.type) := by
        simpa [htxn, TurnOp.AnsweredBy, or_iff_not_imp_left] using htype
      refine ⟨.refresh, ⟨htxn, hout.2⟩, hop, fun _ => ?_, ((hnone hop).1 rfl).symm,
        ((hnone hop).2 rfl).symm⟩
      rw [hrefresh htxn]
      rfl
  | false =>
    cases hp : turnAnsweredPermission turn msg with
    | some i =>
      obtain ⟨hop, hout⟩ := turnAnsweredPermission_some hp
      exact ⟨.permission i, hout, hop, fun _ => rfl, rfl, ((hnone hop).2 rfl).symm⟩
    | none =>
      cases hc : turnAnsweredChannel turn msg with
      | some i =>
        obtain ⟨hop, hout⟩ := turnAnsweredChannel_some hc
        exact ⟨.channel i, hout, hop, fun _ => rfl, rfl, rfl⟩
      | none => exact absurd ⟨by rw [hmatch]; rfl, hp, hc⟩ hmine

/-- **An answer is ignored, or it belongs to an outstanding request**: its transaction id is that of
the request, its type answers the operation, and if the request carried credentials its integrity
verifies under the key, unless it is a challenge without integrity. -/
theorem turnHandleResponse_cases (crypto : CryptoProvider) {turn : NanoTurn}
    (hrefresh : turn.transaction = .refresh → turn.transactionAuthenticated = true)
    (nowMs : UInt32) (data : List UInt8) :
    (turnHandleResponse crypto turn nowMs data).1 = turn ∨
    ∃ msg op, stunParse data = .ok msg ∧ Outstanding turn msg.transactionId op ∧
      op.AnsweredBy (TurnMsgType.ofType msg.type) ∧
      (Credentialed turn op → stunVerifyIntegrity crypto data msg turn.hmacKey = .ok ∨
        (msg.hasIntegrity = false ∧ (msg.errorCode = 401 ∨ msg.errorCode = 438))) ∧
      Confined op turn (turnHandleResponse crypto turn nowMs data).1 := by
  unfold turnHandleResponse
  cases hparse : stunParse data with
  | error e => exact .inl rfl
  | ok msg =>
    dsimp only
    split
    · exact .inl rfl
    rename_i htype
    split
    · exact .inl rfl
    rename_i hmine
    split
    · exact .inl rfl
    split
    · exact .inl rfl
    rename_i hverify
    obtain ⟨op, hout, hop, hcred, hperm, hchan⟩ := answered_op hrefresh htype hmine
    refine .inr ⟨msg, op, rfl, hout, hop, fun hc => ?_, ?_⟩
    · -- without a challenge the integrity was checked
      by_cases hok : stunVerifyIntegrity crypto data msg turn.hmacKey = .ok
      · exact .inl hok
      · right
        have hno : ¬(msg.hasIntegrity = true ∨ _) := fun h => hverify ⟨hcred hc, h, hok⟩
        rw [not_or] at hno
        refine ⟨Bool.eq_false_iff.mpr hno.1, ?_⟩
        have hchallenge := hno.2
        simp only [Bool.not_eq_true', Bool.not_eq_false, Bool.and_eq_true, Bool.or_eq_true,
          beq_iff_eq] at hchallenge
        exact hchallenge.2
    · split
      · apply turnHandleStaleNonce_confined
        · exact fun _ => ⟨hperm, hchan⟩
        · intro hmatch
          by_cases hp : turnAnsweredPermission turn msg = none
          · by_cases hc : turnAnsweredChannel turn msg = none
            · exact absurd ⟨by rw [hmatch]; rfl, hp, hc⟩ hmine
            · exact .inr (Option.isSome_iff_ne_none.mpr hc)
          · exact .inl (Option.isSome_iff_ne_none.mpr hp)
      · apply turnDispatchResponse_confined
        · exact fun i hi => hperm.trans hi
        · exact fun i hi => hchan.trans hi

end Nanortc.Spec
