import Nanortc.Spec.TurnCredentials
import Nanortc.Spec.TurnSchedule

/-!
# Timeout and poll of the TURN client

`turn_next_timeout_ms` says when `turn_poll_output` has something to do. The two disagree where a
request must be sent again under a new nonce and was never armed: the one takes its deadline 0 for
"at once", the other for a moment of the clock.

## Key results

- `turnDoWork_duty`: a duty that is due emits a request
- `pollActs_due`, `not_pollActs_stranded`: what a poll does when something is due
- `schedulable_run`: the tables and the key in every run
- `turn_agreement_iff`: when timeout and poll agree
-/

namespace Nanortc.Spec

open Nanortc.ForStd Nanortc.Native

/-! ### The entries of the tables -/

/-- Writing an element that looks like the old one. -/
theorem map_set_of_eq {α β : Type} [Inhabited α] (f : α → β) (l : List α) (i : Nat) {a : α}
    (h : f a = f (l.getD i default)) : (l.set i a).map f = l.map f := by
  rw [List.map_set, h]
  apply List.ext_getElem?
  intro j
  rw [List.getElem?_set]
  split
  · rename_i hij
    subst hij
    split
    · rename_i hlt
      rw [List.length_map] at hlt
      rw [List.getElem?_map, List.getElem?_eq_getElem hlt, List.getD_eq_getElem _ _ hlt]
      rfl
    · rename_i hge
      rw [List.getElem?_eq_none (Nat.le_of_not_lt hge)]
  · rfl

/-- An element that is found where it stands: nothing before it matches. -/
theorem findIdx?_of_pairwise {α : Type} {l : List α} {m : α → α → Bool} (hself : ∀ a, m a a = true)
    (hpair : l.Pairwise fun a b => m a b = false) {i : Nat} {a : α} (h : l[i]? = some a) :
    l.findIdx? (m · a) = some i := by
  obtain ⟨hlt, rfl⟩ := List.getElem?_eq_some_iff.mp h
  refine List.findIdx?_eq_some_iff_getElem.mpr ⟨hlt, hself _, ?_⟩
  intro j hj
  rw [List.pairwise_iff_getElem.mp hpair j i _ hlt hj]
  exact Bool.false_ne_true

/-- The peers of the permissions, by family and address. -/
def permissionPeers (ps : List TurnPermission) : List (UInt8 × List UInt8) :=
  ps.map fun p => (p.family, p.addr)

/-- `turn_find_permission` takes the first for the second. -/
def samePermission (a b : UInt8 × List UInt8) : Bool := a.1 == b.1 && addrEq b.1 a.2 b.2

/-- The channel table takes the first for the second. -/
def sameChannel (a b : UInt16 × NanortcAddr) : Bool :=
  a.2.family == b.2.family && a.2.port == b.2.port && addrEq b.2.family a.2.addr b.2.addr

theorem turnFindPermission_eq (turn : NanoTurn) (addr : List UInt8) (family : UInt8) :
    turnFindPermission turn addr family =
      (permissionPeers turn.permissions).findIdx? (samePermission · (family, addr)) := by
  unfold permissionPeers
  rw [List.findIdx?_map]
  rfl

theorem findIdx?_channel_eq (cs : List TurnChannel) (channel : UInt16) (peer : NanortcAddr) :
    cs.findIdx? (·.isFor peer) =
      (channelPeers cs).findIdx? (sameChannel · (channel, peer)) := by
  unfold channelPeers
  rw [List.findIdx?_map]
  rfl

/-- No entry of a table stands for the peer of another, and there is a key once there is an
entry. -/
structure Schedulable (turn : NanoTurn) : Prop where
  keyed : turn.permissions ≠ [] ∨ turn.channels ≠ [] → turn.hmacKeyValid = true
  permissions : (permissionPeers turn.permissions).Pairwise fun a b => samePermission a b = false
  channels : (channelPeers turn.channels).Pairwise fun a b => sameChannel a b = false

theorem Schedulable.findPermission {turn : NanoTurn} (h : Schedulable turn) {i : Nat}
    {p : TurnPermission} (hi : turn.permissions[i]? = some p) :
    turnFindPermission turn p.addr p.family = some i := by
  rw [turnFindPermission_eq]
  apply findIdx?_of_pairwise _ h.permissions
  · rw [permissionPeers, List.getElem?_map, hi]
    rfl
  · intro a
    unfold samePermission
    rw [addrEq_refl, beq_self_eq_true]
    rfl

theorem Schedulable.findChannel {turn : NanoTurn} (h : Schedulable turn) {i : Nat}
    {c : TurnChannel} (hi : turn.channels[i]? = some c) :
    turn.channels.findIdx? (·.isFor c.peer) = some i := by
  rw [findIdx?_channel_eq turn.channels c.channel]
  apply findIdx?_of_pairwise _ h.channels
  · rw [channelPeers, List.getElem?_map, hi]
    rfl
  · intro a
    unfold sameChannel
    rw [addrEq_refl, beq_self_eq_true, beq_self_eq_true]
    rfl

/-- A duty that is due emits a request. -/
theorem turnDoWork_duty (crypto : CryptoProvider) {turn : NanoTurn} (hturn : Schedulable turn)
    (hactive : TurnActive turn) {nowMs : UInt32} {random : Option (List UInt8)} {bufLen : Nat}
    (hs : Supplied random bufLen) {work : TurnWork} (hmem : work ∈ turnDuties turn nowMs)
    (hdue : work.delayMs = 0) :
    ∃ out, (turnDoWork crypto turn nowMs work random bufLen).2 = .ok out ∧ out ≠ [] := by
  obtain ⟨txid, rfl⟩ := hs.txid
  have hbuf := Nat.not_lt.mpr hs.bufLen
  unfold turnDuties at hmem
  split at hmem
  · rename_i hstate
    rcases List.mem_append.mp hmem with hmem | hmem
    · rcases List.mem_append.mp hmem with hmem | hmem
      · -- the refresh of the allocation
        split at hmem
        swap
        · exact nomatch hmem
        rename_i htxn
        obtain rfl := List.mem_singleton.mp hmem
        have hdue := turnItem_due_iff.mp hdue
        show ∃ out, (turnGenerateRefresh crypto turn nowMs (some txid) bufLen).2 = .ok out ∧ _
        unfold turnGenerateRefresh
        rw [if_neg (not_not.mpr hstate), if_neg (not_not.mpr htxn), if_neg]
        · obtain ⟨out, hout, hne⟩ :=
            turnBuildRefresh_ok crypto turn turnDefaultLifetime txid hs.bufLen
          dsimp only
          rw [hout]
          exact ⟨out, rfl, hne⟩
        · rintro ⟨hne, hnot⟩
          cases hdue with
          | inl hzero => exact hne hzero
          | inr hnow =>
            rw [hnow] at hnot
            exact nomatch hnot
      · -- a permission
        obtain ⟨i, p, hi, hcond, rfl⟩ := mem_turnTableItems.mp hmem
        rw [Bool.and_eq_true, beq_iff_eq, Bool.not_eq_true'] at hcond
        have hget : turn.permissions.getD i default = p := by
          rw [List.getD_eq_getElem?_getD, hi]
          rfl
        have hkey := hturn.keyed (.inl (List.ne_nil_of_mem (List.mem_of_getElem? hi)))
        show ∃ out, (turnCreatePermission crypto turn
          ⟨(turn.permissions.getD i default).family, (turn.permissions.getD i default).addr,
            (turn.permissions.getD i default).port⟩ (some txid) bufLen).2 = .ok out ∧ _
        rw [hget]
        unfold turnCreatePermission
        rw [if_neg, if_neg hbuf]
        swap
        · rw [hkey]
          exact fun hor => hor.elim (fun h => h hstate) nofun
        dsimp only
        rw [hturn.findPermission hi, if_neg (fun h => nomatch h.1), if_neg]
        swap
        · rw [Option.map_some, hget, Option.any_some, hcond.1, hcond.2]
          exact Bool.false_ne_true
        obtain ⟨out, hout, hne⟩ :=
          turnBuildPermission_ok crypto turn ⟨p.family, p.addr, p.port⟩ txid hs.bufLen
        rw [hout]
        exact ⟨out, rfl, hne⟩
    · -- a channel
      obtain ⟨i, c, hi, hcond, rfl⟩ := mem_turnTableItems.mp hmem
      rw [Bool.and_eq_true, beq_iff_eq] at hcond
      have hget : turn.channels.getD i default = c := by
        rw [List.getD_eq_getElem?_getD, hi]
        rfl
      have hkey := hturn.keyed (.inr (List.ne_nil_of_mem (List.mem_of_getElem? hi)))
      show ∃ out, (turnChannelBind crypto turn (turn.channels.getD i default).peer (some txid)
        bufLen).2 = .ok out ∧ _
      rw [hget]
      unfold turnChannelBind
      rw [if_neg, if_neg hbuf, hturn.findChannel hi]
      swap
      · rw [hkey]
        exact fun hor => hor.elim (fun h => h hstate) nofun
      dsimp only
      rw [hget, if_neg (not_not.mpr hcond.2)]
      obtain ⟨out, hout, hne⟩ := turnBuildChannelBind_ok crypto turn
        { c with port := c.peer.port, txid := txid } txid hs.bufLen
      rw [hout]
      exact ⟨out, rfl, hne⟩
  split at hmem
  swap
  · exact nomatch hmem
  -- an allocation
  rename_i hidle
  obtain rfl := List.mem_singleton.mp hmem
  show ∃ out, (turnStartAllocate crypto turn (some txid) bufLen).2 = .ok out ∧ _
  unfold turnStartAllocate
  rw [if_neg (by rw [hactive.1]; exact Bool.false_ne_true), if_neg (not_not.mpr hidle.1)]
  obtain ⟨out, hout, hne⟩ := turnBuildAllocate_ok crypto turn
    (turn.state == .challenged && turn.hmacKeyValid) txid hs.bufLen
  dsimp only
  rw [hout]
  exact ⟨out, rfl, hne⟩

/-! ### A poll -/

/-- The requests that are due. -/
theorem turnRequests_due_iff {turn : NanoTurn} {nowMs : UInt32} :
    (∃ w ∈ turnRequests turn nowMs, w.delayMs = 0) ↔
      (turn.transaction ≠ .none ∧ (turn.transactionRetryAtMs = 0 ∨
        nanoTimeIsDue nowMs turn.transactionRetryAtMs = true)) ∨
      (turn.state = .allocated ∧
        ((∃ p ∈ turn.permissions, p.pending ≠ .none ∧
            (p.deadlineMs = 0 ∨ nanoTimeIsDue nowMs p.deadlineMs = true)) ∨
          ∃ c ∈ turn.channels, c.pending ≠ .none ∧
            (c.deadlineMs = 0 ∨ nanoTimeIsDue nowMs c.deadlineMs = true))) := by
  unfold turnRequests
  constructor
  · rintro ⟨w, hmem, hdue⟩
    cases List.mem_append.mp hmem with
    | inl hmem =>
      split at hmem
      · rename_i htxn
        obtain rfl := List.mem_singleton.mp hmem
        exact .inl ⟨htxn, turnItem_due_iff.mp hdue⟩
      · exact nomatch hmem
    | inr hmem =>
      split at hmem
      swap
      · exact nomatch hmem
      rename_i hstate
      right
      refine ⟨hstate, ?_⟩
      cases List.mem_append.mp hmem with
      | inl hmem =>
        obtain ⟨i, p, hi, hcond, rfl⟩ := mem_turnTableItems.mp hmem
        exact .inl ⟨p, List.mem_of_getElem? hi, bne_iff_ne.mp hcond, turnItem_due_iff.mp hdue⟩
      | inr hmem =>
        obtain ⟨i, c, hi, hcond, rfl⟩ := mem_turnTableItems.mp hmem
        exact .inr ⟨c, List.mem_of_getElem? hi, bne_iff_ne.mp hcond, turnItem_due_iff.mp hdue⟩
  · rintro (⟨htxn, hdue⟩ | ⟨hstate, ⟨p, hp, hpending, hdue⟩ | ⟨c, hc, hpending, hdue⟩⟩)
    · rw [if_pos htxn]
      exact ⟨_, List.mem_append_left _ (List.mem_singleton.mpr rfl), turnItem_due_iff.mpr hdue⟩
    · obtain ⟨i, hi⟩ := List.mem_iff_getElem?.mp hp
      rw [if_pos hstate]
      exact ⟨_, List.mem_append_right _ (List.mem_append_left _
        (mem_turnTableItems.mpr ⟨i, p, hi, bne_iff_ne.mpr hpending, rfl⟩)),
        turnItem_due_iff.mpr hdue⟩
    · obtain ⟨i, hi⟩ := List.mem_iff_getElem?.mp hc
      rw [if_pos hstate]
      exact ⟨_, List.mem_append_right _ (List.mem_append_right _
        (mem_turnTableItems.mpr ⟨i, c, hi, bne_iff_ne.mpr hpending, rfl⟩)),
        turnItem_due_iff.mpr hdue⟩

/-- A request that the scheduler has an eye on is stranded. -/
def TurnStranded (turn : NanoTurn) (nowMs : UInt32) : Prop :=
  (turn.transaction ≠ .none ∧ turn.transactionReauth = true ∧ turn.transactionRetryAtMs = 0 ∧
    nanoTimeIsDue nowMs 0 = false) ∨
  (turn.state = .allocated ∧
    ((∃ p ∈ turn.permissions, Stranded nowMs p.pending p.deadlineMs) ∨
      ∃ c ∈ turn.channels, Stranded nowMs c.pending c.deadlineMs))

instance (turn : NanoTurn) (nowMs : UInt32) : Decidable (TurnStranded turn nowMs) :=
  inferInstanceAs (Decidable (_ ∨ _))

/-- A stranded request is due at every moment. -/
theorem TurnStranded.due {turn : NanoTurn} {nowMs : UInt32} (h : TurnStranded turn nowMs)
    (now : UInt32) : ∃ w ∈ turnRequests turn now, w.delayMs = 0 := by
  rw [turnRequests_due_iff]
  refine h.imp ?_ ?_
  · exact fun h => ⟨h.1, .inl h.2.2.1⟩
  · refine fun h => ⟨h.1, h.2.imp ?_ ?_⟩
    · exact fun ⟨p, hp, hs⟩ => ⟨p, hp, by rw [hs.1]; exact nofun, .inl hs.2.1⟩
    · exact fun ⟨c, hc, hs⟩ => ⟨c, hc, by rw [hs.1]; exact nofun, .inl hs.2.1⟩

theorem TurnStranded.timeout {turn : NanoTurn} {nowMs : UInt32} (h : TurnStranded turn nowMs)
    (hactive : TurnActive turn) (now : UInt32) : turnNextTimeoutMs turn now = 0 := by
  obtain ⟨w, hmem, hzero⟩ := h.due now
  exact (turnNextWork_request hactive hmem hzero).1

/-- A request is to be sent again, or given up. -/
def TurnServed (turn : NanoTurn) (nowMs : UInt32) : Prop :=
  TransactionServed turn nowMs ∨ TablesServe turn nowMs

instance (turn : NanoTurn) (nowMs : UInt32) : Decidable (TurnServed turn nowMs) :=
  inferInstanceAs (Decidable (_ ∨ _))

theorem turnArm_cases (turn : NanoTurn) (nowMs : UInt32) :
    turnArm turn nowMs = turn ∨ ∃ retryAtMs, retryAtMs ≠ 0 ∧
      nanoTimeIsDue nowMs retryAtMs = false ∧ turn.transactionReauth = false ∧
      turnArm turn nowMs = { turn with transactionRetryAtMs := retryAtMs } := by
  unfold turnArm
  split
  · rename_i harm
    obtain ⟨hne, hnot⟩ := turnRetry_ahead nowMs turn.transactionTransmissions
    exact .inr ⟨_, hne, hnot, harm.2.2, rfl⟩
  · exact .inl rfl

/-- The client once the timer has been through its requests without sending. -/
def turnSettled (turn : NanoTurn) (nowMs : UInt32) : NanoTurn :=
  turnSettle (turnArm turn nowMs) nowMs

/-- Of the requests that the timer has been through, the stranded ones are still due. -/
theorem turnSettled_due_iff {turn : NanoTurn} {nowMs : UInt32} (h : ¬ TurnServed turn nowMs) :
    (∃ w ∈ turnRequests (turnSettled turn nowMs) nowMs, w.delayMs = 0) ↔
      TurnStranded turn nowMs := by
  have hperms (p : TurnPermission) (hp : p ∈ turn.permissions) :
      turnDue nowMs p.pending p.deadlineMs p.transmissions ≠ .send :=
    fun hsend => h (.inr (.inl ⟨p, hp, hsend⟩))
  have hchans (c : TurnChannel) (hc : c ∈ turn.channels) :
      turnDue nowMs c.pending c.deadlineMs c.transmissions ≠ .send :=
    fun hsend => h (.inr (.inr ⟨c, hc, hsend⟩))
  obtain ⟨htxn, hstate, hpermissions, hchannels⟩ :
      (turnSettled turn nowMs).transaction = turn.transaction ∧
      (turnSettled turn nowMs).state = turn.state ∧
      (turnSettled turn nowMs).permissions =
        turn.permissions.map (turnSettlePermission nowMs) ∧
      (turnSettled turn nowMs).channels = turn.channels.map (turnSettleChannel nowMs) := by
    unfold turnSettled
    rcases turnArm_cases turn nowMs with hsame | ⟨retryAtMs, -, -, -, harmed⟩
    · rw [hsame]
      exact ⟨rfl, rfl, rfl, rfl⟩
    · rw [harmed]
      exact ⟨rfl, rfl, rfl, rfl⟩
  rw [turnRequests_due_iff, htxn, hstate, hpermissions, hchannels]
  apply or_congr
  · -- the transaction
    apply and_congr_right
    intro hopen
    show (turnArm turn nowMs).transactionRetryAtMs = 0 ∨
      nanoTimeIsDue nowMs (turnArm turn nowMs).transactionRetryAtMs = true ↔ _
    by_cases harm : turn.transactionRetryAtMs = 0 ∧ turn.transactionReauth = false
    · rcases turnArm_cases turn nowMs with hsame | ⟨retryAtMs, hne, hnot, -, harmed⟩
      · unfold turnArm at hsame
        rw [if_pos ⟨hopen, harm⟩] at hsame
        have hzero := congrArg NanoTurn.transactionRetryAtMs hsame
        rw [harm.1] at hzero
        exact absurd hzero (turnRetry_ahead nowMs _).1
      · rw [harmed, harm.2]
        dsimp only
        rw [hnot]
        exact iff_of_false (fun hor => hor.elim hne nofun) nofun
    · have hsame : turnArm turn nowMs = turn := if_neg fun hc => harm hc.2
      rw [hsame]
      constructor
      · intro hdue
        by_cases hzero : turn.transactionRetryAtMs = 0
        · have hreauth : turn.transactionReauth = true :=
            Bool.not_eq_false _ ▸ fun hf => harm ⟨hzero, hf⟩
          refine ⟨hreauth, hzero, Bool.eq_false_iff.mpr fun hnow => ?_⟩
          exact h (.inl ⟨hopen, .inr hreauth, hzero ▸ hnow⟩)
        · exact absurd (.inl ⟨hopen, .inl hzero, hdue.resolve_left hzero⟩) h
      · exact fun hstranded => .inl hstranded.2.1
  · apply and_congr_right
    intro _
    apply or_congr
    · constructor
      · rintro ⟨q, hq, hdue⟩
        obtain ⟨p, hp, rfl⟩ := List.mem_map.mp hq
        exact ⟨p, hp, (turnSettlePermission_due (hperms p hp)).mp hdue⟩
      · rintro ⟨p, hp, hstranded⟩
        exact ⟨_, List.mem_map_of_mem hp,
          (turnSettlePermission_due (hperms p hp)).mpr hstranded⟩
    · constructor
      · rintro ⟨d, hd, hdue⟩
        obtain ⟨c, hc, rfl⟩ := List.mem_map.mp hd
        exact ⟨c, hc, (turnSettleChannel_due (hchans c hc)).mp hdue⟩
      · rintro ⟨c, hc, hstranded⟩
        exact ⟨_, List.mem_map_of_mem hc, (turnSettleChannel_due (hchans c hc)).mpr hstranded⟩

/-- The same entries under the same key. -/
structure SameEntries (turn turn' : NanoTurn) : Prop where
  key : turn.hmacKeyValid = true → turn'.hmacKeyValid = true
  permissions : permissionPeers turn'.permissions = permissionPeers turn.permissions
  channels : channelPeers turn'.channels = channelPeers turn.channels

theorem Schedulable.same {turn turn' : NanoTurn} (h : Schedulable turn)
    (hsame : SameEntries turn turn') : Schedulable turn' := by
  refine ⟨fun hne => hsame.key (h.keyed (hne.imp ?_ ?_)), ?_, ?_⟩
  · intro hne hnil
    have heq := hsame.permissions
    rw [hnil] at heq
    exact hne (List.map_eq_nil_iff.mp heq)
  · intro hne hnil
    have heq := hsame.channels
    rw [hnil] at heq
    exact hne (List.map_eq_nil_iff.mp heq)
  · rw [hsame.permissions]
    exact h.permissions
  · rw [hsame.channels]
    exact h.channels

theorem turnSettled_entries (turn : NanoTurn) (nowMs : UInt32) :
    SameEntries turn (turnSettled turn nowMs) := by
  have hsettle (turn : NanoTurn) : SameEntries turn (turnSettle turn nowMs) := by
    refine ⟨id, ?_, ?_⟩
    · show permissionPeers (turn.permissions.map _) = _
      unfold permissionPeers
      rw [List.map_map]
      apply List.map_congr_left
      intro p _
      show ((turnSettlePermission nowMs p).family, (turnSettlePermission nowMs p).addr) = _
      unfold turnSettlePermission
      cases turnDue nowMs p.pending p.deadlineMs p.transmissions <;> rfl
    · show channelPeers (turn.channels.map _) = _
      unfold channelPeers
      rw [List.map_map]
      apply List.map_congr_left
      intro c _
      show ((turnSettleChannel nowMs c).channel, (turnSettleChannel nowMs c).peer) = _
      unfold turnSettleChannel
      cases turnDue nowMs c.pending c.deadlineMs c.transmissions <;> rfl
  unfold turnSettled
  rcases turnArm_cases turn nowMs with hsame | ⟨retryAtMs, -, -, -, harmed⟩
  · rw [hsame]
    exact hsettle turn
  · have hentries := hsettle { turn with transactionRetryAtMs := retryAtMs }
    rw [harmed]
    exact ⟨hentries.key, hentries.permissions, hentries.channels⟩

theorem turnSettled_active {turn : NanoTurn} (h : TurnActive turn) (nowMs : UInt32) :
    TurnActive (turnSettled turn nowMs) := by
  unfold turnSettled
  rcases turnArm_cases turn nowMs with hsame | ⟨retryAtMs, -, -, -, harmed⟩
  · rw [hsame]
    exact h
  · rw [harmed]
    exact h

/-- What the timer makes of the requests when none is served. -/
theorem turnGenerateRetransmit_quiet (crypto : CryptoProvider) {turn : NanoTurn} {nowMs : UInt32}
    (random : Option (List UInt8)) (bufLen : Nat) (h : ¬ TurnServed turn nowMs) :
    turnGenerateRetransmit crypto turn nowMs random bufLen =
      (turnSettled turn nowMs, .ok []) := by
  rw [turnGenerateRetransmit_tables crypto random bufLen fun htxn => h (.inl htxn)]
  apply turnRetransmitTables_quiet
  intro hserve
  apply h
  rcases turnArm_cases turn nowMs with hsame | ⟨retryAtMs, -, -, -, harmed⟩
  · rw [hsame] at hserve
    exact .inr hserve
  · rw [harmed] at hserve
    exact .inr hserve

/-- `turn_poll_output` does something: it emits a request, or it changes the client so that the
next timeout is not zero. -/
def PollActs (crypto : CryptoProvider) (turn : NanoTurn) (nowMs : UInt32)
    (random : Option (List UInt8)) (bufLen : Nat) : Prop :=
  let r := turnPollOutput crypto turn nowMs random bufLen
  (∃ out, r.2 = .ok out ∧ out ≠ []) ∨ (r.1 ≠ turn ∧ turnNextTimeoutMs r.1 nowMs ≠ 0)

theorem turnDuties_type {turn : NanoTurn} {nowMs : UInt32} {w : TurnWork}
    (h : w ∈ turnDuties turn nowMs) : w.type ≠ .retransmit := by
  unfold turnDuties at h
  split at h
  · rcases List.mem_append.mp h with h | h
    · rcases List.mem_append.mp h with h | h
      · split at h
        · rw [List.mem_singleton.mp h]
          exact nofun
        · exact nomatch h
      · obtain ⟨i, p, -, -, rfl⟩ := mem_turnTableItems.mp h
        exact nofun
    · obtain ⟨i, c, -, -, rfl⟩ := mem_turnTableItems.mp h
      exact nofun
  split at h
  · rw [List.mem_singleton.mp h]
    exact nofun
  · exact nomatch h

section

variable (crypto : CryptoProvider) {turn : NanoTurn} {nowMs : UInt32}
  {random : Option (List UInt8)} {bufLen : Nat}

/-- Nothing is due: the poll does nothing. -/
theorem not_pollActs (h : turnNextTimeoutMs turn nowMs ≠ 0) :
    ¬ PollActs crypto turn nowMs random bufLen := by
  have hpoll : turnPollOutput crypto turn nowMs random bufLen = (turn, .ok []) := if_pos h
  unfold PollActs
  rw [hpoll]
  rintro (⟨out, hout, hne⟩ | ⟨hne, -⟩)
  · exact hne (Except.ok.inj hout).symm
  · exact hne rfl

/-- What a poll makes of a request that is due. -/
theorem turnPollOutput_request (hactive : TurnActive turn)
    (hdue : ∃ w ∈ turnRequests turn nowMs, w.delayMs = 0) :
    turnPollOutput crypto turn nowMs random bufLen =
      match turnGenerateRetransmit crypto turn nowMs random bufLen with
      | (turn, .ok []) =>
        let work := turnNextWork turn nowMs
        if work.delayMs ≠ 0 then (turn, .ok []) else turnDoWork crypto turn nowMs work random bufLen
      | r => r := by
  obtain ⟨w, hmem, hzero⟩ := hdue
  obtain ⟨hnow, htype⟩ := turnNextWork_request hactive hmem hzero
  unfold turnPollOutput
  exact (if_neg (not_not.mpr hnow)).trans ((if_pos htype).trans rfl)

/-- A served request leaves the poll at once. -/
theorem pollActs_served (hactive : TurnActive turn) (hs : Supplied random bufLen)
    (hdue : ∃ w ∈ turnRequests turn nowMs, w.delayMs = 0) (hserved : TurnServed turn nowMs) :
    PollActs crypto turn nowMs random bufLen := by
  have hout : (∃ out, (turnGenerateRetransmit crypto turn nowMs random bufLen).2 = .ok out ∧
      out ≠ []) ∨ turnGenerateRetransmit crypto turn nowMs random bufLen =
        ({ turnClearTransaction turn with state := .failed }, .error .protocol) := by
    by_cases htxn : TransactionServed turn nowMs
    · exact turnGenerateRetransmit_served crypto hs htxn
    · left
      rw [turnGenerateRetransmit_tables crypto random bufLen htxn]
      apply turnRetransmitTables_serves crypto hs
      rcases turnArm_cases turn nowMs with hsame | ⟨retryAtMs, -, -, -, harmed⟩
      · rw [hsame]
        exact hserved.resolve_left htxn
      · rw [harmed]
        exact hserved.resolve_left htxn
  unfold PollActs
  rw [turnPollOutput_request crypto hactive hdue]
  cases hout with
  | inl hout =>
    obtain ⟨out, hout, hne⟩ := hout
    left
    revert hout
    generalize turnGenerateRetransmit crypto turn nowMs random bufLen = r
    intro hout
    obtain ⟨turn', result⟩ := r
    obtain rfl : result = .ok out := hout
    cases out with
    | nil => exact absurd rfl hne
    | cons b out => exact ⟨_, rfl, hne⟩
  | inr hfailed =>
    right
    rw [hfailed]
    constructor
    · intro hsame
      exact hactive.2 (congrArg NanoTurn.state hsame).symm
    · show (turnNextWork _ nowMs).delayMs ≠ 0
      rw [turnNextWork_inactive fun h => h.2 rfl]
      decide

/-- A duty that is due once the requests are settled leaves the poll. -/
theorem pollActs_settled (hturn : Schedulable turn) (hactive : TurnActive turn)
    (hs : Supplied random bufLen) (hdue : ∃ w ∈ turnRequests turn nowMs, w.delayMs = 0)
    (hserved : ¬ TurnServed turn nowMs) (hstranded : ¬ TurnStranded turn nowMs) :
    PollActs crypto turn nowMs random bufLen := by
  have hidle : ∀ w ∈ turnRequests (turnSettled turn nowMs) nowMs, w.delayMs ≠ 0 :=
    fun w hmem hzero => hstranded ((turnSettled_due_iff hserved).mp ⟨w, hmem, hzero⟩)
  have hactive' := turnSettled_active hactive nowMs
  have hsched := hturn.same (turnSettled_entries turn nowMs)
  have hzero : (turnNextWork turn nowMs).delayMs = 0 := by
    obtain ⟨w, hmem, hzero⟩ := hdue
    exact (turnNextWork_request hactive hmem hzero).1
  unfold PollActs
  rw [turnPollOutput_request crypto hactive hdue,
    turnGenerateRetransmit_quiet crypto random bufLen hserved]
  dsimp only
  by_cases hnext : (turnNextWork (turnSettled turn nowMs) nowMs).delayMs = 0
  · rw [if_neg (not_not.mpr hnext)]
    exact .inl (turnDoWork_duty crypto hsched hactive' hs
      (turnNextWork_duty hactive' hidle hnext) hnext)
  · rw [if_pos hnext]
    refine .inr ⟨fun hsame => ?_, hnext⟩
    have hsame : turnSettled turn nowMs = turn := hsame
    rw [hsame] at hnext
    exact hnext hzero

/-- What is due is done, unless a stranded request is in its way. -/
theorem pollActs_due (hturn : Schedulable turn) (hs : Supplied random bufLen)
    (hfree : TurnStranded turn nowMs → TurnServed turn nowMs)
    (hzero : turnNextTimeoutMs turn nowMs = 0) : PollActs crypto turn nowMs random bufLen := by
  have hzero : (turnNextWork turn nowMs).delayMs = 0 := hzero
  have hactive : TurnActive turn := by
    by_contra hnot
    rw [turnNextWork_inactive hnot] at hzero
    exact nomatch hzero
  by_cases hdue : ∃ w ∈ turnRequests turn nowMs, w.delayMs = 0
  · by_cases hserved : TurnServed turn nowMs
    · exact pollActs_served crypto hactive hs hdue hserved
    · exact pollActs_settled crypto hturn hactive hs hdue hserved fun h => hserved (hfree h)
  · have hidle : ∀ w ∈ turnRequests turn nowMs, w.delayMs ≠ 0 :=
      fun w hmem h => hdue ⟨w, hmem, h⟩
    have hduty := turnNextWork_duty hactive hidle hzero
    unfold PollActs turnPollOutput
    rw [if_neg (not_not.mpr hzero), if_neg (turnDuties_type hduty)]
    exact .inl (turnDoWork_duty crypto hturn hactive hs hduty hzero)

/-- A stranded request stops the poll: nothing is emitted, and the next timeout stays zero. -/
theorem not_pollActs_stranded (hactive : TurnActive turn) (hstranded : TurnStranded turn nowMs)
    (hserved : ¬ TurnServed turn nowMs) :
    turnNextTimeoutMs turn nowMs = 0 ∧ ¬ PollActs crypto turn nowMs random bufLen := by
  have hdue := hstranded.due nowMs
  -- the poll finds the stranded request again, and does nothing about it
  obtain ⟨w, hmem, hstill⟩ := (turnSettled_due_iff hserved).mpr hstranded
  obtain ⟨hnow, htype⟩ :=
    turnNextWork_request (turnSettled_active hactive nowMs) hmem hstill
  have hpoll : turnPollOutput crypto turn nowMs random bufLen =
      (turnSettled turn nowMs, .ok []) := by
    rw [turnPollOutput_request crypto hactive hdue,
      turnGenerateRetransmit_quiet crypto random bufLen hserved]
    dsimp only
    rw [if_neg (not_not.mpr hnow)]
    unfold turnDoWork
    rw [htype]
  refine ⟨hstranded.timeout hactive nowMs, ?_⟩
  unfold PollActs
  rw [hpoll]
  rintro (⟨out, hout, hne⟩ | ⟨-, hne⟩)
  · exact hne (Except.ok.inj hout).symm
  · exact hne hnow

end

/-! ### Runs -/

/-- The permissions are for the same peers. -/
def SamePermissions (turn turn' : NanoTurn) : Prop :=
  permissionPeers turn'.permissions = permissionPeers turn.permissions

theorem turnStartAllocate_permissions (crypto : CryptoProvider) (turn : NanoTurn)
    (random : Option (List UInt8)) (bufLen : Nat) :
    SamePermissions turn (turnStartAllocate crypto turn random bufLen).1 := by
  unfold turnStartAllocate
  split
  · rfl
  split
  · rfl
  cases random with
  | none => rfl
  | some txid =>
    dsimp only
    split <;> rfl

theorem turnGenerateRefresh_permissions (crypto : CryptoProvider) (turn : NanoTurn)
    (nowMs : UInt32) (random : Option (List UInt8)) (bufLen : Nat) :
    SamePermissions turn (turnGenerateRefresh crypto turn nowMs random bufLen).1 := by
  unfold turnGenerateRefresh
  iterate 3
    split
    · rfl
  cases random with
  | none => rfl
  | some txid =>
    dsimp only
    split <;> rfl

theorem turnChannelBind_permissions (crypto : CryptoProvider) (turn : NanoTurn)
    (peer : NanortcAddr) (random : Option (List UInt8)) (bufLen : Nat) :
    SamePermissions turn (turnChannelBind crypto turn peer random bufLen).1 := by
  unfold turnChannelBind
  split
  · rfl
  split
  · rfl
  split
  · split
    · rfl
    split
    · rfl
    cases random with
    | none => rfl
    | some txid =>
      dsimp only
      split <;> rfl
  · dsimp only
    split
    · rfl
    cases random with
    | none => rfl
    | some txid =>
      dsimp only
      split <;> rfl

theorem turnStoreNonce_permissions (turn : NanoTurn) (nonce : List UInt8) :
    SamePermissions turn (turnStoreNonce turn nonce) := by
  unfold SamePermissions permissionPeers turnStoreNonce
  rw [List.map_map]
  rfl

theorem permissions_set (turn : NanoTurn) (i : Nat) {p : TurnPermission}
    (hfamily : p.family = (turn.permissions.getD i default).family)
    (haddr : p.addr = (turn.permissions.getD i default).addr) :
    permissionPeers (turn.permissions.set i p) = permissionPeers turn.permissions :=
  map_set_of_eq _ _ i (by rw [hfamily, haddr])

theorem turnDispatchResponse_permissions (crypto : CryptoProvider) (turn : NanoTurn)
    (nowMs : UInt32) (msg : StunMsg) (perm chan : Option Nat) :
    SamePermissions turn (turnDispatchResponse crypto turn nowMs msg perm chan).1 := by
  unfold turnDispatchResponse
  dsimp only
  cases TurnMsgType.ofType msg.type with
  | allocateResponse =>
    dsimp only
    split <;> rfl
  | allocateError =>
    show SamePermissions turn (turnHandleAllocateError crypto turn msg).1
    unfold turnHandleAllocateError
    split
    · split
      · rfl
      · cases msg.realm with
        | none => rfl
        | some realm =>
          cases msg.nonce with
          | none => rfl
          | some nonce => exact turnStoreNonce_permissions turn nonce
    · rfl
  | refreshResponse => rfl
  | refreshError => rfl
  | permissionResponse =>
    cases perm with
    | none => rfl
    | some i => exact permissions_set turn i rfl rfl
  | permissionError =>
    cases perm with
    | none => rfl
    | some i =>
      dsimp only
      unfold turnHandlePermissionError
      dsimp only
      split
      · exact permissions_set turn i rfl rfl
      split
      · exact permissions_set turn i rfl rfl
      · exact permissions_set turn i rfl rfl
  | channelBindResponse => cases chan <;> rfl
  | channelBindError => cases chan <;> rfl
  | other => rfl

theorem turnHandleStaleNonce_permissions (turn : NanoTurn) (nowMs : UInt32) (msg : StunMsg)
    (txidMatch authenticated : Bool) (perm chan : Option Nat) :
    SamePermissions turn
      (turnHandleStaleNonce turn nowMs msg txidMatch authenticated perm chan).1 := by
  unfold turnHandleStaleNonce
  dsimp only
  generalize (if txidMatch then turn.transactionTransmissions else _ : Nat) = transmissions
  cases msg.nonce with
  | none => rfl
  | some nonce =>
    have hstore := turnStoreNonce_permissions turn nonce
    dsimp only
    split
    · rfl
    split
    · exact hstore
    cases perm with
    | some i =>
      refine Eq.trans (permissions_set (turnStoreNonce turn nonce) i ?_ ?_) hstore
      · rfl
      · rfl
    | none => exact hstore

theorem turnHandleResponse_permissions (crypto : CryptoProvider) (turn : NanoTurn)
    (nowMs : UInt32) (data : List UInt8) :
    SamePermissions turn (turnHandleResponse crypto turn nowMs data).1 := by
  unfold turnHandleResponse
  cases stunParse data with
  | error e => rfl
  | ok msg =>
    dsimp only
    iterate 4
      split
      · rfl
    split
    · exact turnHandleStaleNonce_permissions ..
    · exact turnDispatchResponse_permissions ..

theorem permissionPeers_retransmit (crypto : CryptoProvider) (turn : NanoTurn) (nowMs : UInt32)
    (random : Option (List UInt8)) (bufLen : Nat) (ps : List TurnPermission) :
    permissionPeers (turnRetransmitPermissions crypto turn nowMs random bufLen ps).1 =
      permissionPeers ps := by
  induction ps with
  | nil => rfl
  | cons p ps ih =>
    unfold turnRetransmitPermissions
    dsimp only
    have hnext (p' : TurnPermission) (hfamily : p'.family = p.family) (haddr : p'.addr = p.addr) :
        permissionPeers (p' ::
          (turnRetransmitPermissions crypto turn nowMs random bufLen ps).1) =
          permissionPeers (p :: ps) := by
      show (p'.family, p'.addr) :: permissionPeers _ = (p.family, p.addr) :: permissionPeers ps
      rw [hfamily, haddr, ih]
    cases turnDue nowMs p.pending p.deadlineMs p.transmissions with
    | skip => exact hnext _ rfl rfl
    | arm => exact hnext _ rfl rfl
    | expire => exact hnext _ rfl rfl
    | send =>
      dsimp only
      cases turnRetransmitTxid p.pending p.txid random with
      | none => rfl
      | some txid =>
        dsimp only
        cases turnBuildPermission crypto turn ⟨p.family, p.addr, p.port⟩ txid bufLen with
        | error e => rfl
        | ok out => rfl

theorem turnRetransmitTables_permissions (crypto : CryptoProvider) (turn : NanoTurn)
    (nowMs : UInt32) (random : Option (List UInt8)) (bufLen : Nat) :
    SamePermissions turn (turnRetransmitTables crypto turn nowMs random bufLen).1 := by
  have hloop := permissionPeers_retransmit crypto turn nowMs random bufLen turn.permissions
  unfold turnRetransmitTables
  dsimp only
  split
  · exact hloop
  · exact hloop

theorem turnGenerateRetransmit_permissions (crypto : CryptoProvider) (turn : NanoTurn)
    (nowMs : UInt32) (random : Option (List UInt8)) (bufLen : Nat) :
    SamePermissions turn (turnGenerateRetransmit crypto turn nowMs random bufLen).1 := by
  have htables := turnRetransmitTables_permissions crypto turn nowMs random bufLen
  unfold turnGenerateRetransmit
  split
  · exact htables
  split
  · exact turnRetransmitTables_permissions crypto { turn with transactionRetryAtMs := _ } ..
  split
  · exact htables
  split
  · rfl
  split
  · rfl
  · dsimp only
    split <;> rfl

/-- A permission is requested for a peer that has an entry, or in a new entry under a key. -/
theorem turnCreatePermission_cases (crypto : CryptoProvider) (turn : NanoTurn)
    (peer : NanortcAddr) (random : Option (List UInt8)) (bufLen : Nat) :
    SamePermissions turn (turnCreatePermission crypto turn peer random bufLen).1 ∨
    (turn.hmacKeyValid = true ∧ turnFindPermission turn peer.addr peer.family = none ∧
      permissionPeers (turnCreatePermission crypto turn peer random bufLen).1.permissions =
        permissionPeers turn.permissions ++ [(peer.family, peer.addr)]) := by
  unfold turnCreatePermission
  split
  · exact .inl rfl
  rename_i hkey
  split
  · exact .inl rfl
  dsimp only
  split
  · exact .inl rfl
  split
  · exact .inl rfl
  cases random with
  | none => exact .inl rfl
  | some txid =>
    dsimp only
    split
    · exact .inl rfl
    cases hfound : turnFindPermission turn peer.addr peer.family with
    | none =>
      refine .inr ⟨?_, rfl, ?_⟩
      · exact Bool.not_eq_false _ ▸ fun hf => hkey (.inr (by rw [hf]; rfl))
      · show permissionPeers (turn.permissions ++ [_]) = _
        unfold permissionPeers
        rw [List.map_append]
        rfl
    | some i => exact .inl (permissions_set turn i rfl rfl)

theorem Schedulable.createPermission {turn : NanoTurn} (h : Schedulable turn)
    (crypto : CryptoProvider) (peer : NanortcAddr) (random : Option (List UInt8)) (bufLen : Nat) :
    Schedulable (turnCreatePermission crypto turn peer random bufLen).1 := by
  have hkey := (turnCreatePermission_auth crypto turn peer random bufLen).hmacKeyValid
  have hchan := (turnCreatePermission_keeps crypto turn peer random bufLen).2
  rcases turnCreatePermission_cases crypto turn peer random bufLen with hsame | ⟨hvalid, hnew, happ⟩
  · exact h.same ⟨fun hk => hkey.trans hk, hsame, hchan⟩
  · refine ⟨fun _ => hkey.trans hvalid, ?_, ?_⟩
    · rw [happ, List.pairwise_append]
      refine ⟨h.permissions, List.pairwise_singleton _ _, ?_⟩
      intro a ha b hb
      obtain rfl := List.mem_singleton.mp hb
      rw [turnFindPermission_eq, List.findIdx?_eq_none_iff] at hnew
      exact hnew a ha
    · rw [hchan]
      exact h.channels

theorem Schedulable.channelBind {turn : NanoTurn} (h : Schedulable turn)
    (crypto : CryptoProvider) (peer : NanortcAddr) (random : Option (List UInt8)) (bufLen : Nat) :
    Schedulable (turnChannelBind crypto turn peer random bufLen).1 := by
  have hkey := (turnChannelBind_auth crypto turn peer random bufLen).hmacKeyValid
  have hperm := turnChannelBind_permissions crypto turn peer random bufLen
  have hsame (hk : KeepsChannels turn (turnChannelBind crypto turn peer random bufLen).1) :
      Schedulable (turnChannelBind crypto turn peer random bufLen).1 :=
    h.same ⟨fun hv => hkey.trans hv, hperm, hk.2⟩
  by_cases hknown : ∃ c ∈ turn.channels, c.isFor peer
  · obtain ⟨c, hc, hpeer⟩ := hknown
    exact hsame (turnChannelBind_known crypto turn peer random bufLen hc hpeer)
  rcases turnChannelBind_cases crypto turn peer random bufLen with hk | ⟨-, hnext, happ⟩
  · exact hsame hk
  refine ⟨fun _ => ?_, ?_, ?_⟩
  · -- without a key there is no new number
    by_contra hno
    rw [hkey] at hno
    unfold turnChannelBind at hnext
    rw [if_pos (.inr (by rw [Bool.eq_false_iff.mpr hno]; rfl))] at hnext
    exact absurd hnext (by simp)
  · rw [hperm]
    exact h.permissions
  · rw [happ, List.pairwise_append]
    refine ⟨h.channels, List.pairwise_singleton _ _, ?_⟩
    intro a ha b hb
    obtain rfl := List.mem_singleton.mp hb
    obtain ⟨c, hc, rfl⟩ := List.mem_map.mp ha
    exact Bool.eq_false_iff.mpr fun hmatch => hknown ⟨c, hc, hmatch⟩

theorem Schedulable.generateRetransmit {turn : NanoTurn} (h : Schedulable turn)
    (crypto : CryptoProvider) (nowMs : UInt32) (random : Option (List UInt8)) (bufLen : Nat) :
    Schedulable (turnGenerateRetransmit crypto turn nowMs random bufLen).1 :=
  h.same ⟨fun hv => (turnGenerateRetransmit_auth ..).hmacKeyValid.trans hv,
    turnGenerateRetransmit_permissions .., (turnGenerateRetransmit_keeps ..).2⟩

theorem Schedulable.startAllocate {turn : NanoTurn} (h : Schedulable turn)
    (crypto : CryptoProvider) (random : Option (List UInt8)) (bufLen : Nat) :
    Schedulable (turnStartAllocate crypto turn random bufLen).1 :=
  h.same ⟨fun hv => (turnStartAllocate_auth ..).hmacKeyValid.trans hv,
    turnStartAllocate_permissions .., (turnStartAllocate_keeps ..).2⟩

theorem Schedulable.generateRefresh {turn : NanoTurn} (h : Schedulable turn)
    (crypto : CryptoProvider) (nowMs : UInt32) (random : Option (List UInt8)) (bufLen : Nat) :
    Schedulable (turnGenerateRefresh crypto turn nowMs random bufLen).1 :=
  h.same ⟨fun hv => (turnGenerateRefresh_auth ..).hmacKeyValid.trans hv,
    turnGenerateRefresh_permissions .., (turnGenerateRefresh_keeps ..).2⟩

theorem Schedulable.doWork {turn : NanoTurn} (h : Schedulable turn) (crypto : CryptoProvider)
    (nowMs : UInt32) (work : TurnWork) (random : Option (List UInt8)) (bufLen : Nat) :
    Schedulable (turnDoWork crypto turn nowMs work random bufLen).1 := by
  unfold turnDoWork
  cases work.type with
  | none => exact h
  | retransmit => exact h
  | allocate => exact h.startAllocate ..
  | refresh => exact h.generateRefresh ..
  | permission => exact h.createPermission ..
  | channel => exact h.channelBind ..

theorem Schedulable.pollOutput {turn : NanoTurn} (h : Schedulable turn) (crypto : CryptoProvider)
    (nowMs : UInt32) (random : Option (List UInt8)) (bufLen : Nat) :
    Schedulable (turnPollOutput crypto turn nowMs random bufLen).1 := by
  unfold turnPollOutput
  dsimp only
  split
  · exact h
  split
  · have hretx := h.generateRetransmit crypto nowMs random bufLen
    revert hretx
    generalize turnGenerateRetransmit crypto turn nowMs random bufLen = r
    intro hretx
    split
    · split
      · exact hretx
      · exact Schedulable.doWork hretx ..
    · exact hretx
  · exact h.doWork ..

theorem Schedulable.handleResponse {turn : NanoTurn} (h : Schedulable turn)
    (crypto : CryptoProvider) (nowMs : UInt32) (data : List UInt8) :
    Schedulable (turnHandleResponse crypto turn nowMs data).1 := by
  refine h.same ⟨fun hv => ?_, turnHandleResponse_permissions ..,
    (turnHandleResponse_keeps ..).2⟩
  cases turnHandleResponse_auth crypto turn nowMs data with
  | inl hkeeps => exact hkeeps.hmacKeyValid.trans hv
  | inr hderives => exact hderives.hmacKeyValid

theorem Schedulable.dropped {turn : NanoTurn} (hperm : turn.permissions = [])
    (hchan : turn.channels = []) : Schedulable turn := by
  refine ⟨fun hne => ?_, ?_, ?_⟩
  · exact hne.elim (fun h => absurd hperm h) fun h => absurd hchan h
  · rw [hperm]
    exact List.Pairwise.nil
  · rw [hchan]
    exact List.Pairwise.nil

theorem Schedulable.step {turn : NanoTurn} (h : Schedulable turn) (crypto : CryptoProvider)
    (i : TurnInput) : Schedulable (turnStep crypto turn i) := by
  cases i with
  | configure server username password =>
    show Schedulable (turnConfigure turn server username password).1
    unfold turnConfigure
    split
    · exact h
    · exact h.same ⟨id, rfl, rfl⟩
  | startAllocate random bufLen => exact h.startAllocate ..
  | handleResponse nowMs data => exact h.handleResponse ..
  | generateRefresh nowMs random bufLen => exact h.generateRefresh ..
  | createPermission peer random bufLen => exact h.createPermission ..
  | channelBind peer random bufLen => exact h.channelBind ..
  | generateRetransmit nowMs random bufLen => exact h.generateRetransmit ..
  | pollOutput nowMs random bufLen => exact h.pollOutput ..
  | deallocate random bufLen =>
    show Schedulable (turnDeallocate crypto turn random bufLen).1
    unfold turnDeallocate
    split
    · exact h
    split
    · exact h
    cases random with
    | none => exact h
    | some txid =>
      dsimp only
      split
      · exact h
      · exact .dropped rfl rfl
  | resetPeerState => exact .dropped rfl rfl

theorem schedulable_run (crypto : CryptoProvider) (is : List TurnInput) :
    Schedulable (run (turnStep crypto) turnInit is) :=
  run_invariant (P := Schedulable) (fun _ i h => h.step crypto i) (.dropped rfl rfl) is

/-! ### Agreement -/

/-- Timeout and poll agree at a moment: the timeout is zero exactly when a poll would do something;
otherwise no poll does anything before it is over, and one does something when it is. The largest
value stands for a client that has nothing to do at any moment. -/
structure TurnAgreement (crypto : CryptoProvider) (turn : NanoTurn) (nowMs : UInt32)
    (random : Option (List UInt8)) (bufLen : Nat) : Prop where
  zero : turnNextTimeoutMs turn nowMs = 0 ↔ PollActs crypto turn nowMs random bufLen
  early : ∀ e < turnNextTimeoutMs turn nowMs, ¬ PollActs crypto turn (nowMs + e) random bufLen
  due : turnNextTimeoutMs turn nowMs ≠ 0xFFFFFFFF →
    PollActs crypto turn (nowMs + turnNextTimeoutMs turn nowMs) random bufLen
  never : turnNextTimeoutMs turn nowMs = 0xFFFFFFFF →
    ∀ later, ¬ PollActs crypto turn later random bufLen

section

variable (crypto : CryptoProvider) {turn : NanoTurn} {nowMs : UInt32}
  {random : Option (List UInt8)} {bufLen : Nat}

/-- Before a timeout is over no poll does anything. -/
theorem not_pollActs_early {e : UInt32} (h : e < turnNextTimeoutMs turn nowMs) :
    ¬ PollActs crypto turn (nowMs + e) random bufLen := by
  apply not_pollActs
  intro hzero
  rcases turnNextTimeoutMs_cases turn (nowMs + e) with
    hnever | ⟨hactive, type, i, deadline, hwork, hdue⟩
  · rw [hnever] at hzero
    exact nomatch hzero
  rw [hzero, turnItem_due_iff] at hdue
  have hlt : e < (turnItem nowMs type i deadline).delayMs :=
    UInt32.lt_of_lt_of_le h (hwork.timeout_le hactive nowMs)
  have hne : (turnItem nowMs type i deadline).delayMs ≠ 0 := by
    intro hz
    rw [hz] at hlt
    exact UInt32.not_lt_zero hlt
  have hnot := mt turnItem_due_iff.mpr hne
  rw [not_or] at hnot
  have hdelay : (turnItem nowMs type i deadline).delayMs = nanoTimeUntil nowMs deadline :=
    if_neg hnot.1
  rw [hdelay] at hlt
  have hlater := (nanoTimeIsDue_add (Bool.eq_false_iff.mpr hnot.2)).1 hlt
  rcases hdue with hz | hdue
  · exact hnot.1 hz
  · rw [hlater] at hdue
    exact nomatch hdue

/-- When a timeout is over a poll does something. -/
theorem pollActs_over (hturn : Schedulable turn) (hs : Supplied random bufLen)
    (hne : turnNextTimeoutMs turn nowMs ≠ 0) (hsome : turnNextTimeoutMs turn nowMs ≠ 0xFFFFFFFF) :
    PollActs crypto turn (nowMs + turnNextTimeoutMs turn nowMs) random bufLen := by
  obtain ⟨hactive, type, i, deadline, hwork, hdelay⟩ :=
    (turnNextTimeoutMs_cases turn nowMs).resolve_left hsome
  rw [← hdelay] at hne ⊢
  have hnot := mt turnItem_due_iff.mpr hne
  rw [not_or] at hnot
  have huntil : (turnItem nowMs type i deadline).delayMs = nanoTimeUntil nowMs deadline :=
    if_neg hnot.1
  have hdue := (nanoTimeIsDue_add (e := 0) (Bool.eq_false_iff.mpr hnot.2)).2
  rw [← huntil] at hdue
  apply pollActs_due crypto hturn hs
  · intro hstranded
    rw [hdelay, hstranded.timeout hactive nowMs] at hne
    exact absurd rfl hne
  · have hle := hwork.timeout_le hactive (nowMs + (turnItem nowMs type i deadline).delayMs)
    rw [turnItem_due_iff.mpr (.inr hdue)] at hle
    exact UInt32.le_zero_iff.mp hle

end

/-- **Timeout and poll agree exactly when no stranded request is in the way.** After any calls on
the client and at every moment, for a caller that supplies randomness and a buffer of the size the
client asks for: timeout and poll agree if and only if the client is not configured or has failed,
or has no stranded request, or has a request that the same poll sends again or gives up. -/
theorem turn_agreement_iff (crypto : CryptoProvider) (is : List TurnInput) (nowMs : UInt32)
    (random : Option (List UInt8)) (bufLen : Nat) (hs : Supplied random bufLen) :
    let turn := run (turnStep crypto) turnInit is
    TurnAgreement crypto turn nowMs random bufLen ↔
      (TurnActive turn → TurnStranded turn nowMs → TurnServed turn nowMs) := by
  intro turn
  have hturn : Schedulable turn := schedulable_run crypto is
  constructor
  · intro h hactive hstranded
    by_contra hserved
    obtain ⟨hzero, hidle⟩ :=
      @not_pollActs_stranded crypto turn nowMs random bufLen hactive hstranded hserved
    exact hidle (h.zero.mp hzero)
  · intro hfree
    have hzero : turnNextTimeoutMs turn nowMs = 0 → PollActs crypto turn nowMs random bufLen := by
      intro hzero
      have hactive : TurnActive turn := by
        rcases turnNextTimeoutMs_cases turn nowMs with hnever | ⟨hactive, -⟩
        · rw [hnever] at hzero
          exact nomatch hzero
        · exact hactive
      exact pollActs_due crypto hturn hs (hfree hactive) hzero
    refine ⟨⟨hzero, ?_⟩, fun e he => not_pollActs_early crypto he, ?_, ?_⟩
    · exact fun hacts => not_not.mp fun hne => not_pollActs crypto hne hacts
    · intro hsome
      by_cases hnow : turnNextTimeoutMs turn nowMs = 0
      · rw [hnow, UInt32.add_zero]
        exact hzero hnow
      · exact pollActs_over crypto hturn hs hnow hsome
    · intro hnever later
      apply not_pollActs
      intro hlater
      rcases turnNextTimeoutMs_cases turn later with
        hno | ⟨hactive, type, i, deadline, hwork, -⟩
      · rw [hno] at hlater
        exact nomatch hlater
      · -- work would bound the timeout
        have hle := hwork.timeout_le hactive nowMs
        rw [hnever, UInt32.le_iff_toNat_le] at hle
        exact absurd (Nat.le_trans hle (turnItem_le nowMs type i deadline)) (by decide)

/-- An allocation refreshed late in the range of the clock. -/
theorem turn_agreement_allocated :
    TurnAgreement .checksum (run (turnStep .checksum) turnInit (demoAllocation 4)) 0x80000005
      (some (demoTxid 4)) 400 :=
  (turn_agreement_iff .checksum (demoAllocation 4) 0x80000005 (some (demoTxid 4)) 400
    ⟨rfl, by decide⟩).mpr fun _ hstranded => absurd hstranded (by decide +kernel)

/-- Two permissions are requested, the second one is answered with a new nonce, and the next poll
sends it again. The first one has not been armed. -/
def demoStranded : List TurnInput :=
  demoAllocation 4 ++
    [.createPermission (demoHost 4 8 6000) (some (demoTxid 4)) 400,
      .createPermission (demoHost 4 9 6000) (some (demoTxid 5)) 400,
      .handleResponse 0x80000005 (stunFinalizeLength (stunHeader 0x0118 0 (demoTxid 5) ++
        stunAttr 0x0009 [0, 0, 4, 38] ++ stunAttr 0x0015 [0x6F])),
      .pollOutput 0x80000005 (some (demoTxid 6)) 400]

/-- The timeout stays zero for a request that no poll sends. -/
theorem stranded_disagrees :
    ¬ ∀ (crypto : CryptoProvider) (is : List TurnInput) (nowMs : UInt32)
      (random : Option (List UInt8)) (bufLen : Nat), Supplied random bufLen →
      TurnAgreement crypto (run (turnStep crypto) turnInit is) nowMs random bufLen := by
  intro h
  have hagree := h .checksum demoStranded 0x80000005 (some (demoTxid 7)) 400 ⟨rfl, by decide⟩
  obtain ⟨hzero, hidle⟩ := @not_pollActs_stranded .checksum
    (run (turnStep .checksum) turnInit demoStranded) 0x80000005 (some (demoTxid 7)) 400
    (by decide +kernel) (by decide +kernel) (by decide +kernel)
  exact hidle (hagree.zero.mp hzero)

end Nanortc.Spec
