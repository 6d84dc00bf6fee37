import Nanortc.Spec.TurnRequests

/-!
# Channel numbers within an allocation

The server keeps the binding of a channel number to its peer for minutes, so within one allocation
a number stands for one peer. Beside a run of the client we keep every request that
`turn_channel_bind` has made since the allocation began, and the peers in the order in which they
got their numbers. An ICE restart empties the table and starts the numbers again: the numbers keep
their peers if and only if the peers are bound in the old order.

## Key results

- `turnStep_channels`: what a call does to the table
- `Numbered.step`: numbers stand for the peers in their order
- `channel_numbers_iff`: when numbers are not recycled
-/

namespace Nanortc.Spec

open Nanortc.ForStd Nanortc.Native

/-! ### Peers -/

theorem SameAddr.refl (a : NanortcAddr) : SameAddr a a := ⟨rfl, rfl, rfl⟩

theorem SameAddr.symm {a b : NanortcAddr} (h : SameAddr a b) : SameAddr b a := by
  obtain ⟨hfamily, hport, haddr⟩ := h
  rw [← hfamily] at haddr
  exact ⟨hfamily.symm, hport.symm, haddr.symm⟩

theorem SameAddr.trans {a b c : NanortcAddr} (h : SameAddr a b) (h' : SameAddr b c) :
    SameAddr a c := by
  obtain ⟨hfamily, hport, haddr⟩ := h
  obtain ⟨hfamily', hport', haddr'⟩ := h'
  rw [hfamily'] at haddr
  exact ⟨hfamily.trans hfamily', hport.trans hport', haddr.trans haddr'⟩

instance (a b : NanortcAddr) : Decidable (SameAddr a b) := inferInstanceAs (Decidable (_ ∧ _ ∧ _))

/-- An entry is for the peers that have its family, port and address. -/
theorem isFor_iff (c : TurnChannel) (peer : NanortcAddr) : c.isFor peer ↔ SameAddr c.peer peer := by
  simp only [TurnChannel.isFor, SameAddr, TurnChannel.peer, addrEq, Bool.and_eq_true, beq_iff_eq,
    and_assoc]

/-! ### The work of a poll -/

/-- What `turn_poll_output` comes down to: a result it has already, or the work it goes on to. -/
def turnPollWork (crypto : CryptoProvider) (turn : NanoTurn) (nowMs : UInt32)
    (random : Option (List UInt8)) (bufLen : Nat) :
    (NanoTurn × Except Rc (List UInt8)) ⊕ (NanoTurn × TurnWork) :=
  let work := turnNextWork turn nowMs
  if work.delayMs ≠ 0 then .inl (turn, .ok [])
  else if work.type = .retransmit then
    match turnGenerateRetransmit crypto turn nowMs random bufLen with
    | (turn, .ok []) =>
      let work := turnNextWork turn nowMs
      if work.delayMs ≠ 0 then .inl (turn, .ok []) else .inr (turn, work)
    | r => .inl r
  else .inr (turn, work)

theorem turnPollOutput_eq (crypto : CryptoProvider) (turn : NanoTurn) (nowMs : UInt32)
    (random : Option (List UInt8)) (bufLen : Nat) :
    turnPollOutput crypto turn nowMs random bufLen =
      match turnPollWork crypto turn nowMs random bufLen with
      | .inl r => r
      | .inr (turn, work) => turnDoWork crypto turn nowMs work random bufLen := by
  unfold turnPollOutput turnPollWork
  generalize turnGenerateRetransmit crypto turn nowMs random bufLen = r
  dsimp only
  split
  · rfl
  split
  · -- a retransmission, or the poll goes on behind the loops
    obtain ⟨t, out⟩ := r
    cases out with
    | error e => rfl
    | ok out =>
      cases out with
      | nil =>
        dsimp only
        split
        · rfl
        · rfl
      | cons b bs => rfl
  · rfl

/-! ### Requests of `turn_channel_bind` -/

/-- The number and the peer that a call of `turn_channel_bind` requests, if it makes a request: the
number is that of the entry the request is built from. -/
def bindRequest (crypto : CryptoProvider) (turn : NanoTurn) (peer : NanortcAddr)
    (random : Option (List UInt8)) (bufLen : Nat) : List (UInt16 × NanortcAddr) :=
  match turnChannelBind crypto turn peer random bufLen with
  | (after, .ok (_ :: _)) =>
    ((after.channels.find? (·.isFor peer)).map fun c => (c.channel, peer)).toList
  | _ => []

/-- What `turn_channel_bind` requests in a call: when it is called itself, and when the timer
refreshes a channel. -/
def bindRequests (crypto : CryptoProvider) (turn : NanoTurn) :
    TurnInput → List (UInt16 × NanortcAddr)
  | .channelBind peer random bufLen => bindRequest crypto turn peer random bufLen
  | .pollOutput nowMs random bufLen =>
    match turnPollWork crypto turn nowMs random bufLen with
    | .inr (turn, work) =>
      if work.type = .channel then
        bindRequest crypto turn (turn.channels.getD work.index default).peer random bufLen
      else []
    | .inl _ => []
  | _ => []

/-- A request is for an entry of the table. -/
theorem mem_bindRequest {crypto : CryptoProvider} {turn : NanoTurn} {peer : NanortcAddr}
    {random : Option (List UInt8)} {bufLen : Nat} {r : UInt16 × NanortcAddr}
    (h : r ∈ bindRequest crypto turn peer random bufLen) :
    ∃ c ∈ (turnChannelBind crypto turn peer random bufLen).1.channels,
      c.channel = r.1 ∧ SameAddr c.peer r.2 := by
  unfold bindRequest at h
  revert h
  generalize turnChannelBind crypto turn peer random bufLen = result
  intro h
  split at h
  · obtain ⟨c, hc, rfl⟩ := Option.map_eq_some_iff.mp (Option.mem_toList.mp h)
    have hfor : c.isFor peer = true := List.find?_some (p := fun c : TurnChannel => c.isFor peer) hc
    exact ⟨c, List.mem_of_find?_eq_some hc, rfl, (isFor_iff c peer).mp hfor⟩
  · exact nomatch h

theorem mem_bindRequests {crypto : CryptoProvider} {turn : NanoTurn} {i : TurnInput}
    {r : UInt16 × NanortcAddr} (h : r ∈ bindRequests crypto turn i) :
    ∃ c ∈ (turnStep crypto turn i).channels, c.channel = r.1 ∧ SameAddr c.peer r.2 := by
  cases i with
  | channelBind peer random bufLen => exact mem_bindRequest h
  | pollOutput nowMs random bufLen =>
    have h : r ∈ (match turnPollWork crypto turn nowMs random bufLen with
      | .inr (turn, work) =>
        if work.type = TurnWorkType.channel then
          bindRequest crypto turn (turn.channels.getD work.index default).peer random bufLen
        else []
      | .inl _ => []) := h
    show ∃ c ∈ (turnPollOutput crypto turn nowMs random bufLen).1.channels, _
    rw [turnPollOutput_eq]
    revert h
    generalize turnPollWork crypto turn nowMs random bufLen = p
    intro h
    cases p with
    | inl r' => exact absurd h List.not_mem_nil
    | inr tw =>
      obtain ⟨t, work⟩ := tw
      dsimp only at h ⊢
      by_cases htype : work.type = TurnWorkType.channel
      · rw [if_pos htype] at h
        simp only [turnDoWork, htype]
        exact mem_bindRequest h
      · rw [if_neg htype] at h
        exact nomatch h
  | configure server username password => exact nomatch h
  | startAllocate random bufLen => exact nomatch h
  | handleResponse nowMs data => exact nomatch h
  | generateRefresh nowMs random bufLen => exact nomatch h
  | createPermission peer random bufLen => exact nomatch h
  | generateRetransmit nowMs random bufLen => exact nomatch h
  | deallocate random bufLen => exact nomatch h
  | resetPeerState => exact nomatch h

/-- A call that takes the next number requests it for the peer. -/
theorem turnChannelBind_takes {crypto : CryptoProvider} {turn : NanoTurn} {peer : NanortcAddr}
    {random : Option (List UInt8)} {bufLen : Nat}
    (h : (turnChannelBind crypto turn peer random bufLen).1.nextChannel ≠ turn.nextChannel) :
    (turn.nextChannel, peer) ∈ bindRequest crypto turn peer random bufLen := by
  unfold bindRequest
  unfold turnChannelBind at h ⊢
  split at h
  · exact absurd rfl h
  rename_i hstate
  rw [if_neg hstate]
  split at h
  · exact absurd rfl h
  rename_i hbuf
  rw [if_neg hbuf]
  cases hfind : turn.channels.findIdx? (·.isFor peer) with
  | some i =>
    rw [hfind] at h
    dsimp only at h
    split at h
    · exact absurd rfl h
    cases random with
    | none => exact absurd rfl h
    | some txid =>
      dsimp only at h
      split at h
      · exact absurd rfl h
      · exact absurd rfl h
  | none =>
    rw [hfind] at h
    dsimp only at h ⊢
    split at h
    · exact absurd rfl h
    rename_i hfull
    rw [if_neg hfull]
    split at h
    · exact absurd rfl h
    rename_i hlast
    rw [if_neg hlast]
    cases random with
    | none => exact absurd rfl h
    | some txid =>
      dsimp only at h ⊢
      split at h
      · exact absurd rfl h
      rename_i out hbuild
      have hnone : turn.channels.find? (·.isFor peer) = none := by
        rw [List.find?_eq_none]
        intro c hc
        have := List.findIdx?_eq_none_iff.mp hfind c hc
        simpa using this
      cases out with
      | nil => exact absurd rfl (turnBuildChannelBind_ne_nil hbuild)
      | cons b bs =>
        dsimp only
        rw [List.find?_append, hnone, List.find?_singleton, if_pos]
        · exact List.mem_singleton.mpr rfl
        · simp [TurnChannel.isFor, addrEq_refl]

/-! ### What a call does to the table -/

/-- The channel part of a client. -/
def Emptied (turn : NanoTurn) : Prop := turn.channels = [] ∧ turn.nextChannel = 0x4000

/-- The call takes the next number. -/
def TakesNumber (crypto : CryptoProvider) (turn : NanoTurn) (i : TurnInput) : Prop :=
  (turnStep crypto turn i).nextChannel ≠ turn.nextChannel

instance (crypto : CryptoProvider) (turn : NanoTurn) (i : TurnInput) :
    Decidable (TakesNumber crypto turn i) := inferInstanceAs (Decidable (¬ _))

/-- **What a call does to the table**: it leaves numbers and peers, or it binds a new peer under the
next number, or it empties the table. -/
theorem turnStep_channels (crypto : CryptoProvider) (turn : NanoTurn) (i : TurnInput) :
    KeepsChannels turn (turnStep crypto turn i) ∨
    (∃ peer random bufLen, i = .channelBind peer random bufLen ∧ TakesNumber crypto turn i ∧
      turn.channels.length < turnMaxChannels ∧
      (turnStep crypto turn i).nextChannel = turn.nextChannel + 1 ∧
      channelPeers (turnStep crypto turn i).channels =
        channelPeers turn.channels ++ [(turn.nextChannel, peer)]) ∨
    (Emptied (turnStep crypto turn i) ∧ (i = .resetPeerState ∨
      ((∃ random bufLen, i = .deallocate random bufLen) ∧
        (turnStep crypto turn i).state ≠ turn.state))) := by
  cases i with
  | configure server username password => exact .inl (turnConfigure_keeps ..)
  | startAllocate random bufLen => exact .inl (turnStartAllocate_keeps ..)
  | handleResponse nowMs data => exact .inl (turnHandleResponse_keeps ..)
  | generateRefresh nowMs random bufLen => exact .inl (turnGenerateRefresh_keeps ..)
  | createPermission peer random bufLen => exact .inl (turnCreatePermission_keeps ..)
  | generateRetransmit nowMs random bufLen => exact .inl (turnGenerateRetransmit_keeps ..)
  | pollOutput nowMs random bufLen => exact .inl (turnPollOutput_keeps ..)
  | resetPeerState => exact .inr (.inr ⟨⟨rfl, rfl⟩, .inl rfl⟩)
  | channelBind peer random bufLen =>
    rcases turnChannelBind_cases crypto turn peer random bufLen with hkeep | ⟨hlen, hnext, htable⟩
    · exact .inl hkeep
    · refine .inr (.inl ⟨peer, random, bufLen, rfl, ?_, hlen, hnext, htable⟩)
      show (turnChannelBind crypto turn peer random bufLen).1.nextChannel ≠ turn.nextChannel
      rw [hnext]
      simp
  | deallocate random bufLen =>
    rcases turnDeallocate_cases crypto turn random bufLen with hsame | ⟨hstate, hempty⟩
    · left
      show KeepsChannels turn (turnDeallocate crypto turn random bufLen).1
      rw [hsame]
      exact .refl turn
    · exact .inr (.inr ⟨hempty, .inr ⟨⟨random, bufLen, rfl⟩, hstate⟩⟩)

/-! ### Runs -/

/-- A client with the requests that `turn_channel_bind` has made in the current allocation, and the
peers in the order in which they got a number first. -/
structure BindLog where
  turn : NanoTurn
  requests : List (UInt16 × NanortcAddr) := []
  peers : List NanortcAddr := []

/-- The peers after a call: a peer that takes the next number is noted, unless the number had a
peer before an ICE restart. -/
def peersAfter (crypto : CryptoProvider) (s : BindLog) (i : TurnInput) : List NanortcAddr :=
  match i with
  | .channelBind peer _ _ =>
    if TakesNumber crypto s.turn i ∧ s.peers.length ≤ s.turn.channels.length then s.peers ++ [peer]
    else s.peers
  | _ => s.peers

/-- One call, logged. A deallocation ends the allocation; an ICE restart (`resetPeerState`) does
not. -/
def bindLogStep (crypto : CryptoProvider) (s : BindLog) (i : TurnInput) : BindLog :=
  let turn := turnStep crypto s.turn i
  match i with
  | .deallocate _ _ => if turn.state = s.turn.state then { s with turn := turn } else { turn := turn }
  | _ =>
    { turn := turn
      requests := s.requests ++ bindRequests crypto s.turn i
      peers := peersAfter crypto s i }

/-- A new client. -/
def bindLogStart : BindLog := { turn := turnInit }

/-- The number of the `i`-th peer. -/
def channelNumber (i : Nat) : UInt16 := UInt16.ofNat (0x4000 + i)

theorem channelNumber_inj {i j : Nat} (hi : i < turnMaxChannels) (hj : j < turnMaxChannels)
    (h : channelNumber i = channelNumber j) : i = j := by
  have := congrArg UInt16.toNat h
  simp only [channelNumber, UInt16.toNat_ofNat', turnMaxChannels] at this hi hj
  omega

theorem channelNumber_range {i : Nat} (hi : i < turnMaxChannels) :
    0x4000 ≤ channelNumber i ∧ channelNumber i ≤ 0x4FFE := by
  simp only [channelNumber, UInt16.le_iff_toNat_le, UInt16.toNat_ofNat', turnMaxChannels] at hi ⊢
  simp
  omega

theorem length_channelPeers (cs : List TurnChannel) : (channelPeers cs).length = cs.length :=
  List.length_map _

/-- An entry of the table, by its place. -/
theorem exists_channelPeers {cs : List TurnChannel} {c : TurnChannel} (hc : c ∈ cs) :
    ∃ i : Nat, (channelPeers cs)[i]? = some (c.channel, c.peer) := by
  obtain ⟨i, hi⟩ := List.getElem?_of_mem hc
  exact ⟨i, by rw [channelPeers, List.getElem?_map, hi]; rfl⟩

/-- The table has the first numbers, in order. -/
structure TableRanged (turn : NanoTurn) : Prop where
  next : turn.nextChannel = channelNumber turn.channels.length
  few : turn.channels.length ≤ turnMaxChannels
  table : ∀ (i : Nat) n q, (channelPeers turn.channels)[i]? = some (n, q) → n = channelNumber i

theorem TableRanged.emptied {turn : NanoTurn} (h : Emptied turn) : TableRanged turn := by
  obtain ⟨hchannels, hnext⟩ := h
  refine ⟨?_, ?_, ?_⟩
  · rw [hnext, hchannels]
    rfl
  · rw [hchannels]
    exact Nat.zero_le _
  · rw [hchannels]
    exact nofun

theorem TableRanged.keeps {turn turn' : NanoTurn} (h : TableRanged turn)
    (hk : KeepsChannels turn turn') : TableRanged turn' := by
  have hlen : turn'.channels.length = turn.channels.length := by
    rw [← length_channelPeers, hk.2, length_channelPeers]
  refine ⟨?_, ?_, ?_⟩
  · rw [hk.1, hlen]
    exact h.next
  · rw [hlen]
    exact h.few
  · rw [hk.2]
    exact h.table

/-- What stands in a table with one more entry. -/
theorem getElem?_channelPeers_snoc {cs cs' : List TurnChannel} {r : UInt16 × NanortcAddr}
    (h : channelPeers cs' = channelPeers cs ++ [r]) {i : Nat} {x : UInt16 × NanortcAddr}
    (hi : (channelPeers cs')[i]? = some x) :
    (channelPeers cs)[i]? = some x ∨ (i = cs.length ∧ x = r) := by
  rw [h] at hi
  rcases Nat.lt_or_ge i (channelPeers cs).length with hlt | hge
  · rw [List.getElem?_append_left hlt] at hi
    exact .inl hi
  · rw [List.getElem?_append_right hge, List.getElem?_singleton] at hi
    split at hi
    · rename_i hzero
      rw [length_channelPeers] at hge hzero
      exact .inr ⟨by omega, (Option.some.inj hi).symm⟩
    · exact nomatch hi

theorem TableRanged.bind {turn turn' : NanoTurn} (h : TableRanged turn) {peer : NanortcAddr}
    (hlen : turn.channels.length < turnMaxChannels)
    (hnext : turn'.nextChannel = turn.nextChannel + 1)
    (htable : channelPeers turn'.channels =
      channelPeers turn.channels ++ [(turn.nextChannel, peer)]) : TableRanged turn' := by
  have hlen' : turn'.channels.length = turn.channels.length + 1 := by
    rw [← length_channelPeers, htable, List.length_append, length_channelPeers]
    rfl
  refine ⟨?_, ?_, ?_⟩
  · rw [hnext, h.next, hlen', channelNumber, channelNumber, ← Nat.add_assoc, UInt16.ofNat_add _ 1]
    rfl
  · omega
  · intro i n q hi
    rcases getElem?_channelPeers_snoc htable hi with hold | ⟨rfl, hnew⟩
    · exact h.table i n q hold
    · obtain ⟨rfl, -⟩ := Prod.ext_iff.mp hnew
      exact h.next

theorem TableRanged.step {turn : NanoTurn} (h : TableRanged turn) (crypto : CryptoProvider)
    (i : TurnInput) : TableRanged (turnStep crypto turn i) := by
  rcases turnStep_channels crypto turn i with hk | ⟨peer, random, bufLen, -, -, hlen, hnext, htable⟩ |
    ⟨hempty, -⟩
  · exact h.keeps hk
  · exact h.bind hlen hnext htable
  · exact .emptied hempty

/-- What a logged call does to the log: it adds its requests, or it ends the allocation. -/
theorem bindLogStep_cases (crypto : CryptoProvider) (s : BindLog) (i : TurnInput) :
    bindLogStep crypto s i = { turn := turnStep crypto s.turn i
                               requests := s.requests ++ bindRequests crypto s.turn i
                               peers := peersAfter crypto s i } ∨
    (bindLogStep crypto s i = { turn := turnStep crypto s.turn i } ∧
      Emptied (turnStep crypto s.turn i)) := by
  cases i with
  | deallocate random bufLen =>
    unfold bindLogStep
    dsimp only
    split
    · left
      show _ = BindLog.mk _ (s.requests ++ []) s.peers
      rw [List.append_nil]
    · rename_i hstate
      right
      refine ⟨rfl, ?_⟩
      rcases turnStep_channels crypto s.turn (.deallocate random bufLen) with
        hk | ⟨_, _, _, heq, -⟩ | ⟨hempty, -⟩
      · rcases turnDeallocate_cases crypto s.turn random bufLen with hsame | ⟨-, hempty⟩
        · exact absurd (congrArg NanoTurn.state hsame) hstate
        · exact hempty
      · exact nomatch heq
      · exact hempty
  | configure server username password => exact .inl rfl
  | startAllocate random bufLen => exact .inl rfl
  | handleResponse nowMs data => exact .inl rfl
  | generateRefresh nowMs random bufLen => exact .inl rfl
  | createPermission peer random bufLen => exact .inl rfl
  | channelBind peer random bufLen => exact .inl rfl
  | generateRetransmit nowMs random bufLen => exact .inl rfl
  | pollOutput nowMs random bufLen => exact .inl rfl
  | resetPeerState => exact .inl rfl

/-- Numbers are handed out one after the other, restarts or not. -/
structure Ranged (s : BindLog) : Prop where
  table : TableRanged s.turn
  requests : ∀ n q, (n, q) ∈ s.requests → ∃ i < turnMaxChannels, n = channelNumber i

theorem Ranged.start : Ranged bindLogStart := ⟨.emptied ⟨rfl, rfl⟩, nofun⟩

/-- The place of an entry is below the size of the table. -/
theorem TableRanged.place {turn : NanoTurn} (h : TableRanged turn) {i : Nat}
    {x : UInt16 × NanortcAddr} (hi : (channelPeers turn.channels)[i]? = some x) :
    i < turnMaxChannels := by
  have hlt := (List.getElem?_eq_some_iff.mp hi).1
  rw [length_channelPeers] at hlt
  exact Nat.lt_of_lt_of_le hlt h.few

theorem Ranged.step {s : BindLog} (h : Ranged s) (crypto : CryptoProvider) (i : TurnInput) :
    Ranged (bindLogStep crypto s i) := by
  have htable := h.table.step crypto i
  rcases bindLogStep_cases crypto s i with heq | ⟨heq, -⟩
  · rw [heq]
    refine ⟨htable, fun n q hmem => ?_⟩
    cases List.mem_append.mp hmem with
    | inl hold => exact h.requests n q hold
    | inr hnew =>
      obtain ⟨c, hc, rfl, -⟩ := mem_bindRequests hnew
      obtain ⟨j, hj⟩ := exists_channelPeers hc
      exact ⟨j, htable.place hj, htable.table j _ _ hj⟩
  · rw [heq]
    exact ⟨htable, nofun⟩

/-! ### Numbers and peers -/

/-- A new peer is bound in the order of before: as the first of the peers it was then, behind those
of them that are bound, or as one that had no number. -/
def InOrder (crypto : CryptoProvider) (s : BindLog) : TurnInput → Prop
  | .channelBind peer random bufLen =>
    TakesNumber crypto s.turn (.channelBind peer random bufLen) →
      match s.peers[s.turn.channels.length]? with
      | some p => SameAddr p peer
      | none => ∀ p ∈ s.peers, ¬ SameAddr p peer
  | _ => True

/-- The numbers requested are those of the peers in their order, and the table has the first of
them. -/
structure Numbered (s : BindLog) : Prop where
  ranged : Ranged s
  few : s.peers.length ≤ turnMaxChannels
  within : s.turn.channels.length ≤ s.peers.length
  table : ∀ (i : Nat) n q, (channelPeers s.turn.channels)[i]? = some (n, q) →
    ∃ p, s.peers[i]? = some p ∧ SameAddr p q
  distinct : s.peers.Pairwise fun p q => ¬ SameAddr p q
  requests : ∀ n q, (n, q) ∈ s.requests →
    ∃ i p, s.peers[i]? = some p ∧ n = channelNumber i ∧ SameAddr p q
  requested : ∀ (i : Nat) p, s.peers[i]? = some p → (channelNumber i, p) ∈ s.requests

theorem Numbered.start : Numbered bindLogStart :=
  ⟨.start, Nat.zero_le _, Nat.le_refl _, nofun, .nil, nofun, nofun⟩

/-- Two places of the order with one peer are one place. -/
theorem Numbered.place_inj {s : BindLog} (h : Numbered s) {i j : Nat} {p q : NanortcAddr}
    (hi : s.peers[i]? = some p) (hj : s.peers[j]? = some q) (hsame : SameAddr p q) : i = j := by
  obtain ⟨hi', rfl⟩ := List.getElem?_eq_some_iff.mp hi
  obtain ⟨hj', rfl⟩ := List.getElem?_eq_some_iff.mp hj
  rcases Nat.lt_trichotomy i j with hlt | heq | hgt
  · exact absurd hsame (List.pairwise_iff_getElem.mp h.distinct i j hi' hj' hlt)
  · exact heq
  · exact absurd hsame.symm (List.pairwise_iff_getElem.mp h.distinct j i hj' hi' hgt)

/-- The peers after a call that takes no number. -/
theorem peersAfter_same {crypto : CryptoProvider} {s : BindLog} {i : TurnInput}
    (h : ¬ TakesNumber crypto s.turn i) : peersAfter crypto s i = s.peers := by
  cases i with
  | channelBind peer random bufLen => exact if_neg fun hboth => h hboth.1
  | configure server username password => rfl
  | startAllocate random bufLen => rfl
  | handleResponse nowMs data => rfl
  | generateRefresh nowMs random bufLen => rfl
  | createPermission peer random bufLen => rfl
  | generateRetransmit nowMs random bufLen => rfl
  | pollOutput nowMs random bufLen => rfl
  | deallocate random bufLen => rfl
  | resetPeerState => rfl

section

variable {crypto : CryptoProvider} {s : BindLog} (h : Numbered s) {i : TurnInput}
include h

/-- A call after which the table has the first peers of the order. -/
theorem Numbered.logged {turn : NanoTurn} {requests : List (UInt16 × NanortcAddr)}
    (hranged : Ranged ⟨turn, s.requests ++ requests, s.peers⟩)
    (hwithin : turn.channels.length ≤ s.peers.length)
    (htable : ∀ (i : Nat) n q, (channelPeers turn.channels)[i]? = some (n, q) →
      ∃ p, s.peers[i]? = some p ∧ SameAddr p q)
    (hreq : ∀ r ∈ requests, ∃ c ∈ turn.channels, c.channel = r.1 ∧ SameAddr c.peer r.2) :
    Numbered ⟨turn, s.requests ++ requests, s.peers⟩ := by
  refine ⟨hranged, h.few, hwithin, htable, h.distinct, fun n q hmem => ?_,
    fun j p hj => List.mem_append_left _ (h.requested j p hj)⟩
  cases List.mem_append.mp hmem with
  | inl hold => exact h.requests n q hold
  | inr hnew =>
    obtain ⟨c, hc, rfl, hsame⟩ := hreq _ hnew
    obtain ⟨j, hj⟩ := exists_channelPeers hc
    obtain ⟨p, hp, hpq⟩ := htable j _ _ hj
    exact ⟨j, p, hp, hranged.table.table j _ _ hj, hpq.trans hsame⟩

theorem Numbered.keeps {turn : NanoTurn} {requests : List (UInt16 × NanortcAddr)}
    (hranged : Ranged ⟨turn, s.requests ++ requests, s.peers⟩) (hk : KeepsChannels s.turn turn)
    (hreq : ∀ r ∈ requests, ∃ c ∈ turn.channels, c.channel = r.1 ∧ SameAddr c.peer r.2) :
    Numbered ⟨turn, s.requests ++ requests, s.peers⟩ := by
  refine h.logged hranged ?_ ?_ hreq
  · rw [← length_channelPeers, hk.2, length_channelPeers]
    exact h.within
  · rw [hk.2]
    exact h.table

/-- A new peer at the next place of the order. -/
theorem Numbered.known {turn : NanoTurn} {requests : List (UInt16 × NanortcAddr)}
    {peer p : NanortcAddr} (hranged : Ranged ⟨turn, s.requests ++ requests, s.peers⟩)
    (htable : channelPeers turn.channels =
      channelPeers s.turn.channels ++ [(s.turn.nextChannel, peer)])
    (hreq : ∀ r ∈ requests, ∃ c ∈ turn.channels, c.channel = r.1 ∧ SameAddr c.peer r.2)
    (hplace : s.peers[s.turn.channels.length]? = some p) (hsame : SameAddr p peer) :
    Numbered ⟨turn, s.requests ++ requests, s.peers⟩ := by
  refine h.logged hranged ?_ (fun i n q hi => ?_) hreq
  · rw [← length_channelPeers, htable, List.length_append, length_channelPeers]
    exact (List.getElem?_eq_some_iff.mp hplace).1
  · rcases getElem?_channelPeers_snoc htable hi with hold | ⟨rfl, hnew⟩
    · exact h.table i n q hold
    · obtain ⟨-, rfl⟩ := Prod.ext_iff.mp hnew
      exact ⟨p, hplace, hsame⟩

/-- A new peer behind all others. -/
theorem Numbered.fresh {turn : NanoTurn} {requests : List (UInt16 × NanortcAddr)}
    {peer : NanortcAddr} (hranged : Ranged ⟨turn, s.requests ++ requests, s.peers ++ [peer]⟩)
    (htable : channelPeers turn.channels =
      channelPeers s.turn.channels ++ [(s.turn.nextChannel, peer)])
    (hreq : ∀ r ∈ requests, ∃ c ∈ turn.channels, c.channel = r.1 ∧ SameAddr c.peer r.2)
    (htaken : (s.turn.nextChannel, peer) ∈ requests)
    (hall : s.peers.length = s.turn.channels.length) (hnew : ∀ p ∈ s.peers, ¬ SameAddr p peer) :
    Numbered ⟨turn, s.requests ++ requests, s.peers ++ [peer]⟩ := by
  have hlen : turn.channels.length = s.turn.channels.length + 1 := by
    rw [← length_channelPeers, htable, List.length_append, length_channelPeers]
    rfl
  have hlast : (s.peers ++ [peer])[s.turn.channels.length]? = some peer := by
    rw [← hall]
    exact List.getElem?_concat_length
  have hold {j : Nat} {p : NanortcAddr} (hj : s.peers[j]? = some p) :
      (s.peers ++ [peer])[j]? = some p := by
    rw [List.getElem?_append_left (List.getElem?_eq_some_iff.mp hj).1]
    exact hj
  have hplace : ∀ (i : Nat) n q, (channelPeers turn.channels)[i]? = some (n, q) →
      ∃ p, (s.peers ++ [peer])[i]? = some p ∧ SameAddr p q := by
    intro i n q hi
    rcases getElem?_channelPeers_snoc htable hi with hi | ⟨rfl, heq⟩
    · obtain ⟨p, hp, hpq⟩ := h.table i n q hi
      exact ⟨p, hold hp, hpq⟩
    · obtain ⟨-, rfl⟩ := Prod.ext_iff.mp heq
      exact ⟨q, hlast, .refl q⟩
  have hfew := hranged.table.few
  refine ⟨hranged, ?_, ?_, hplace, ?_, fun n q hmem => ?_, fun j p hj => ?_⟩
  · rw [List.length_append, List.length_singleton, hall, ← hlen]
    exact hfew
  · rw [List.length_append, List.length_singleton, hall, ← hlen]
  · rw [List.pairwise_append]
    exact ⟨h.distinct, List.pairwise_singleton _ _, fun p hp q hq =>
      List.mem_singleton.mp hq ▸ hnew p hp⟩
  · cases List.mem_append.mp hmem with
    | inl hmem =>
      obtain ⟨j, p, hj, hn, hpq⟩ := h.requests n q hmem
      exact ⟨j, p, hold hj, hn, hpq⟩
    | inr hmem =>
      obtain ⟨c, hc, rfl, hsame⟩ := hreq _ hmem
      obtain ⟨j, hj⟩ := exists_channelPeers hc
      obtain ⟨p, hp, hpq⟩ := hplace j _ _ hj
      exact ⟨j, p, hp, hranged.table.table j _ _ hj, hpq.trans hsame⟩
  · rcases Nat.lt_or_ge j s.peers.length with hlt | hge
    · rw [List.getElem?_append_left hlt] at hj
      exact List.mem_append_left _ (h.requested j p hj)
    · have hj' := (List.getElem?_eq_some_iff.mp hj).1
      rw [List.length_append, List.length_singleton] at hj'
      obtain rfl : j = s.turn.channels.length := by omega
      obtain rfl := Option.some.inj (hlast.symm.trans hj)
      rw [← h.ranged.table.next]
      exact List.mem_append_right _ htaken

/-- **A call in order keeps the numbers with their peers.** -/
theorem Numbered.step (horder : InOrder crypto s i) : Numbered (bindLogStep crypto s i) := by
  have hranged := h.ranged.step crypto i
  have hreq := fun r (hr : r ∈ bindRequests crypto s.turn i) => mem_bindRequests hr
  rcases bindLogStep_cases crypto s i with heq | ⟨heq, hempty⟩
  · rw [heq] at hranged ⊢
    rcases turnStep_channels crypto s.turn i with
      hk | ⟨peer, random, bufLen, rfl, htakes, hlen, hnext, htable⟩ | ⟨hempty, hwhy⟩
    · have hsame : peersAfter crypto s i = s.peers := peersAfter_same fun htakes => htakes hk.1
      rw [hsame] at hranged ⊢
      exact h.keeps hranged hk hreq
    · have horder := horder htakes
      split at horder
      · -- the number had a peer before the restart
        rename_i p hplace
        have hlt := (List.getElem?_eq_some_iff.mp hplace).1
        have hsame : peersAfter crypto s (.channelBind peer random bufLen) = s.peers :=
          if_neg fun hboth => Nat.not_le.mpr hlt hboth.2
        rw [hsame] at hranged ⊢
        exact h.known hranged htable hreq hplace horder
      · rename_i hplace
        have hge := List.getElem?_eq_none_iff.mp hplace
        have hsnoc : peersAfter crypto s (.channelBind peer random bufLen) = s.peers ++ [peer] :=
          if_pos ⟨htakes, hge⟩
        rw [hsnoc] at hranged ⊢
        exact h.fresh hranged htable hreq (turnChannelBind_takes htakes)
          (Nat.le_antisymm hge h.within) horder
    · -- the restart empties the table; the peers keep their places
      have hsame : peersAfter crypto s i = s.peers := by
        rcases hwhy with rfl | ⟨⟨_, _, rfl⟩, -⟩
        · rfl
        · rfl
      rw [hsame] at hranged ⊢
      refine h.logged hranged ?_ ?_ hreq
      · rw [hempty.1]
        exact Nat.zero_le _
      · rw [hempty.1]
        exact nofun
  · rw [heq] at hranged ⊢
    refine ⟨hranged, Nat.zero_le _, ?_, ?_, .nil, nofun, nofun⟩
    · rw [hempty.1]
      exact Nat.le_refl _
    · rw [hempty.1]
      exact nofun

end

/-- Numbers are not recycled: a number was requested for one peer, a peer was given one number, and
a bound channel stands for the peer its number was requested for. -/
structure NoRecycling (s : BindLog) : Prop where
  peer : ∀ n p q, (n, p) ∈ s.requests → (n, q) ∈ s.requests → SameAddr p q
  number : ∀ n m p q, (n, p) ∈ s.requests → (m, q) ∈ s.requests → SameAddr p q → n = m
  attributed : ∀ n p q, turnFindPeerForChannel s.turn n = some p → (n, q) ∈ s.requests →
    SameAddr p q

theorem Numbered.place_eq {s : BindLog} (h : Numbered s) {i j : Nat} {p q : NanortcAddr}
    (hi : s.peers[i]? = some p) (hj : s.peers[j]? = some q)
    (hnumber : channelNumber i = channelNumber j) : p = q := by
  have hlt {k : Nat} {r : NanortcAddr} (hk : s.peers[k]? = some r) : k < turnMaxChannels :=
    Nat.lt_of_lt_of_le (List.getElem?_eq_some_iff.mp hk).1 h.few
  obtain rfl := channelNumber_inj (hlt hi) (hlt hj) hnumber
  exact Option.some.inj (hi.symm.trans hj)

theorem Numbered.noRecycling {s : BindLog} (h : Numbered s) : NoRecycling s where
  peer := by
    intro n p q hp hq
    obtain ⟨i, p', hi, rfl, hp'⟩ := h.requests n p hp
    obtain ⟨j, q', hj, hn, hq'⟩ := h.requests _ q hq
    obtain rfl := h.place_eq hi hj hn
    exact hp'.symm.trans hq'
  number := by
    intro n m p q hp hq hsame
    obtain ⟨i, p', hi, rfl, hp'⟩ := h.requests n p hp
    obtain ⟨j, q', hj, rfl, hq'⟩ := h.requests m q hq
    rw [h.place_inj hi hj (hp'.trans (hsame.trans hq'.symm))]
  attributed := by
    intro n p q hfind hq
    obtain ⟨c, hc, rfl⟩ := Option.map_eq_some_iff.mp hfind
    have hchan : (c.bound && c.channel == n) = true :=
      List.find?_some (p := fun c : TurnChannel => c.bound && c.channel == n) hc
    obtain ⟨i, hi⟩ := exists_channelPeers (List.mem_of_find?_eq_some hc)
    obtain ⟨p', hp', hsame⟩ := h.table i _ _ hi
    obtain ⟨j, q', hj, rfl, hq'⟩ := h.requests n q hq
    have hn := h.ranged.table.table i _ _ hi
    rw [eq_of_beq (Bool.and_eq_true_iff.mp hchan).2] at hn
    obtain rfl := h.place_eq hj hp' hn
    exact hsame.symm.trans hq'

/-- A bind out of order recycles a number, or gives a peer a second one. -/
theorem Numbered.inOrder {crypto : CryptoProvider} {s : BindLog} (h : Numbered s) {i : TurnInput}
    (hnext : NoRecycling (bindLogStep crypto s i)) : InOrder crypto s i := by
  cases i with
  | channelBind peer random bufLen =>
    intro htakes
    have hreq {r : UInt16 × NanortcAddr} (hr : r ∈ s.requests) :
        r ∈ (bindLogStep crypto s (.channelBind peer random bufLen)).requests :=
      List.mem_append_left _ hr
    have hnew : (channelNumber s.turn.channels.length, peer) ∈
        (bindLogStep crypto s (.channelBind peer random bufLen)).requests := by
      rw [← h.ranged.table.next]
      exact List.mem_append_right _ (turnChannelBind_takes htakes)
    split
    · rename_i p hplace
      exact hnext.peer _ _ _ (hreq (h.requested _ p hplace)) hnew
    · rename_i hplace
      intro p hp hsame
      obtain ⟨j, hj⟩ := List.getElem?_of_mem hp
      have hlt := (List.getElem?_eq_some_iff.mp hj).1
      have hge := List.getElem?_eq_none_iff.mp hplace
      have hn := hnext.number _ _ _ _ (hreq (h.requested j p hj)) hnew hsame
      have hfew := h.few
      have hlen : s.turn.channels.length < turnMaxChannels := by
        rcases turnStep_channels crypto s.turn (.channelBind peer random bufLen) with
          hk | ⟨_, _, _, -, -, hlen, -⟩ | ⟨-, hwhy⟩
        · exact absurd hk.1 htakes
        · exact hlen
        · rcases hwhy with heq | ⟨⟨_, _, heq⟩, -⟩
          · exact nomatch heq
          · exact nomatch heq
      have := channelNumber_inj (by omega) hlen hn
      omega
  | configure server username password => trivial
  | startAllocate random bufLen => trivial
  | handleResponse nowMs data => trivial
  | generateRefresh nowMs random bufLen => trivial
  | createPermission peer random bufLen => trivial
  | generateRetransmit nowMs random bufLen => trivial
  | pollOutput nowMs random bufLen => trivial
  | deallocate random bufLen => trivial
  | resetPeerState => trivial

/-! ### The law -/

theorem numbered_run {crypto : CryptoProvider} {is : List TurnInput}
    (h : AllSteps (bindLogStep crypto) bindLogStart (InOrder crypto) is) :
    Numbered (run (bindLogStep crypto) bindLogStart is) :=
  run_allSteps (fun _ _ horder hs => hs.step horder) h .start

/-- A call that fails takes no number and no slot. -/
theorem turnChannelBind_failed {crypto : CryptoProvider} {turn : NanoTurn} {peer : NanortcAddr}
    {random : Option (List UInt8)} {bufLen : Nat} {e : Rc}
    (h : (turnChannelBind crypto turn peer random bufLen).2 = .error e) :
    KeepsChannels turn (turnChannelBind crypto turn peer random bufLen).1 := by
  rcases turnChannelBind_cases crypto turn peer random bufLen with hk | ⟨-, hnext, -⟩
  · exact hk
  · have htaken := @turnChannelBind_takes crypto turn peer random bufLen (by rw [hnext]; simp)
    unfold bindRequest at htaken
    rw [← @Prod.mk.eta _ _ (turnChannelBind crypto turn peer random bufLen), h] at htaken
    exact nomatch htaken

/-- **Channel numbers keep their peers if and only if peers are bound in the old order** after each
ICE restart. Every number is in the range, restarts or not, and a call that fails consumes
nothing. -/
theorem channel_numbers_iff (crypto : CryptoProvider) (is : List TurnInput) :
    ((∀ pre, pre <+: is → NoRecycling (run (bindLogStep crypto) bindLogStart pre)) ↔
      AllSteps (bindLogStep crypto) bindLogStart (InOrder crypto) is) ∧
    (∀ n p, (n, p) ∈ (run (bindLogStep crypto) bindLogStart is).requests →
      0x4000 ≤ n ∧ n ≤ 0x4FFE) ∧
    ∀ turn peer random bufLen e, (turnChannelBind crypto turn peer random bufLen).2 = .error e →
      KeepsChannels turn (turnChannelBind crypto turn peer random bufLen).1 := by
  refine ⟨⟨fun hlaw => ?_, fun hall pre hpre => ?_⟩, fun n p hmem => ?_,
    fun _ _ _ _ _ h => turnChannelBind_failed h⟩
  · induction is using List.reverseRecOn with
    | nil => trivial
    | append_singleton is i ih =>
      have hall := ih fun pre hpre => hlaw pre (hpre.trans (List.prefix_append is [i]))
      have hnext := hlaw (is ++ [i]) (List.prefix_refl _)
      rw [run_snoc] at hnext
      exact allSteps_append.mpr ⟨hall, (numbered_run hall).inOrder hnext, trivial⟩
  · obtain ⟨post, rfl⟩ := hpre
    exact (numbered_run (allSteps_append.mp hall).1).noRecycling
  · have hranged := run_invariant (P := Ranged) (fun _ i h => h.step crypto i) .start is
    obtain ⟨i, hi, rfl⟩ := hranged.requests n p hmem
    exact channelNumber_range hi

/-- A channel bound before an ICE restart, and another peer bound behind it. -/
def demoRestarted : List TurnInput :=
  demoAllocation 4 ++ [.resetPeerState, .channelBind (demoHost 4 9 6000) (some (demoTxid 5)) 400]

/-- The number of the first peer is requested for the second within one allocation. -/
theorem channel_number_recycled :
    let s := run (bindLogStep .checksum) bindLogStart demoRestarted
    s.turn.state = .allocated ∧ (0x4000, demoHost 4 8 6000) ∈ s.requests ∧
      (0x4000, demoHost 4 9 6000) ∈ s.requests ∧
      ¬ SameAddr (demoHost 4 8 6000) (demoHost 4 9 6000) := by
  decide +kernel

end Nanortc.Spec
