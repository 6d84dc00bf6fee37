import Mathlib
import Nanortc.ForStd.Run
import Nanortc.Native.Turn

/-!
# The channel table over runs

A channel number is requested for a peer once, when `turn_channel_bind` first sees that peer, and
stands for that peer until the peer state is dropped. Beside a run of the client we keep the log
of these requests; the channel table is always exactly the log.

## Key results

- `turnPollOutput_keeps`, `turnHandleResponse_keeps`: timers and responses leave numbers and peers
- `turnHistory`: in every run the table is the log and its numbers are consecutive
- `turnFindPeerForChannel_log`: the table answers for a bound channel with the logged peer
-/

namespace Nanortc.Spec

open Nanortc.ForStd Nanortc.Native

/-! ### Operations that keep the table's numbers and peers -/

/-- Channel numbers with the peers they stand for. -/
def channelPeers (cs : List TurnChannel) : List (UInt16 × NanortcAddr) :=
  cs.map fun c => (c.channel, c.peer)

/-- Neither a channel number nor its peer changes. -/
def KeepsChannels (turn turn' : NanoTurn) : Prop :=
  turn'.nextChannel = turn.nextChannel ∧ channelPeers turn'.channels = channelPeers turn.channels

theorem KeepsChannels.refl (turn : NanoTurn) : KeepsChannels turn turn := ⟨rfl, rfl⟩

theorem KeepsChannels.trans {a b c : NanoTurn} (h : KeepsChannels a b) (h' : KeepsChannels b c) :
    KeepsChannels a c := ⟨h'.1.trans h.1, h'.2.trans h.2⟩

/-- Writing an entry whose number and peer are those of the old one. -/
theorem channelPeers_set (cs : List TurnChannel) (i : Nat) (c : TurnChannel)
    (hc : c.channel = (cs.getD i default).channel) (hf : c.family = (cs.getD i default).family)
    (ha : c.addr = (cs.getD i default).addr) (hp : c.port = (cs.getD i default).port) :
    channelPeers (cs.set i c) = channelPeers cs := by
  unfold channelPeers TurnChannel.peer
  rw [List.map_set]
  by_cases hi : i < cs.length
  · have hget : cs.getD i default = cs[i] := List.getD_eq_getElem _ _ hi
    rw [hc, hf, ha, hp, hget]
    apply List.ext_getElem (by simp)
    intro j h1 h2
    rw [List.getElem_set]
    split
    · subst j
      simp
    · rfl
  · rw [List.set_eq_of_length_le (by simpa using Nat.le_of_not_lt hi)]

theorem channelPeers_append (cs : List TurnChannel) (c : TurnChannel) :
    channelPeers (cs ++ [c]) = channelPeers cs ++ [(c.channel, c.peer)] := by
  simp [channelPeers]

theorem turnClearTransaction_keeps (turn : NanoTurn) :
    KeepsChannels turn (turnClearTransaction turn) := ⟨rfl, rfl⟩

theorem turnStoreNonce_keeps (turn : NanoTurn) (nonce : List UInt8) :
    KeepsChannels turn (turnStoreNonce turn nonce) := by
  refine ⟨rfl, ?_⟩
  simp only [turnStoreNonce, channelPeers, List.map_map]
  rfl

theorem turnConfigure_keeps (turn : NanoTurn) (server : NanortcAddr) (username password : List UInt8) :
    KeepsChannels turn (turnConfigure turn server username password).1 := by
  unfold turnConfigure
  split
  · exact .refl turn
  · exact ⟨rfl, rfl⟩

theorem turnStartAllocate_keeps (crypto : CryptoProvider) (turn : NanoTurn)
    (random : Option (List UInt8)) (bufLen : Nat) :
    KeepsChannels turn (turnStartAllocate crypto turn random bufLen).1 := by
  unfold turnStartAllocate
  split
  · exact .refl turn
  split
  · exact .refl turn
  cases random with
  | none => exact .refl turn
  | some txid =>
    dsimp only
    split
    · exact .refl turn
    · exact ⟨rfl, rfl⟩

theorem turnGenerateRefresh_keeps (crypto : CryptoProvider) (turn : NanoTurn) (nowMs : UInt32)
    (random : Option (List UInt8)) (bufLen : Nat) :
    KeepsChannels turn (turnGenerateRefresh crypto turn nowMs random bufLen).1 := by
  unfold turnGenerateRefresh
  split
  · exact .refl turn
  split
  · exact .refl turn
  split
  · exact .refl turn
  cases random with
  | none => exact .refl turn
  | some txid =>
    dsimp only
    split
    · exact .refl turn
    · exact ⟨rfl, rfl⟩

theorem turnCreatePermission_keeps (crypto : CryptoProvider) (turn : NanoTurn) (peer : NanortcAddr)
    (random : Option (List UInt8)) (bufLen : Nat) :
    KeepsChannels turn (turnCreatePermission crypto turn peer random bufLen).1 := by
  unfold turnCreatePermission
  split
  · exact .refl turn
  split
  · exact .refl turn
  dsimp only
  split
  · exact .refl turn
  split
  · exact .refl turn
  cases random with
  | none => exact .refl turn
  | some txid =>
    dsimp only
    split
    · exact .refl turn
    · exact ⟨rfl, rfl⟩

/-! ### Responses -/

theorem turnHandleAllocateError_keeps (crypto : CryptoProvider) (turn : NanoTurn) (msg : StunMsg) :
    KeepsChannels turn (turnHandleAllocateError crypto turn msg).1 := by
  unfold turnHandleAllocateError
  split
  · split
    · exact ⟨rfl, rfl⟩
    · cases msg.realm with
      | none => exact ⟨rfl, rfl⟩
      | some realm =>
        cases msg.nonce with
        | none => exact ⟨rfl, rfl⟩
        | some nonce =>
          have h : KeepsChannels turn (turnClearTransaction turn) := turnClearTransaction_keeps turn
          exact h.trans (turnStoreNonce_keeps { turnClearTransaction turn with
            realm := realm.take (turnTextSize - 1) } nonce)
  · exact ⟨rfl, rfl⟩

theorem turnHandlePermissionError_keeps (turn : NanoTurn) (nowMs : UInt32) (msg : StunMsg) (i : Nat)
    (p : TurnPermission) :
    KeepsChannels turn (turnHandlePermissionError turn nowMs msg i p).1 := by
  unfold turnHandlePermissionError
  dsimp only
  split
  · exact ⟨rfl, rfl⟩
  split
  · exact ⟨rfl, rfl⟩
  · exact ⟨rfl, rfl⟩

theorem turnDispatchResponse_keeps (crypto : CryptoProvider) (turn : NanoTurn) (nowMs : UInt32)
    (msg : StunMsg) (perm chan : Option Nat) :
    KeepsChannels turn (turnDispatchResponse crypto turn nowMs msg perm chan).1 := by
  unfold turnDispatchResponse
  dsimp only
  cases TurnMsgType.ofType msg.type with
  | allocateResponse =>
    dsimp only
    split
    · exact .refl turn
    · exact ⟨rfl, rfl⟩
  | allocateError => exact turnHandleAllocateError_keeps crypto turn msg
  | refreshResponse => exact ⟨rfl, rfl⟩
  | refreshError => exact ⟨rfl, rfl⟩
  | permissionResponse =>
    cases perm with
    | none => exact .refl turn
    | some i => exact ⟨rfl, rfl⟩
  | permissionError =>
    cases perm with
    | none => exact .refl turn
    | some i => exact turnHandlePermissionError_keeps turn nowMs msg i _
  | channelBindResponse =>
    cases chan with
    | none => exact .refl turn
    | some i => exact ⟨rfl, channelPeers_set turn.channels i _ rfl rfl rfl rfl⟩
  | channelBindError =>
    cases chan with
    | none => exact .refl turn
    | some i => exact ⟨rfl, channelPeers_set turn.channels i _ rfl rfl rfl rfl⟩
  | other => exact .refl turn

theorem turnHandleStaleNonce_keeps (turn : NanoTurn) (nowMs : UInt32) (msg : StunMsg)
    (txidMatch authenticated : Bool) (perm chan : Option Nat) :
    KeepsChannels turn
      (turnHandleStaleNonce turn nowMs msg txidMatch authenticated perm chan).1 := by
  unfold turnHandleStaleNonce
  dsimp only
  generalize (if txidMatch then turn.transactionTransmissions else _ : Nat) = transmissions
  cases msg.nonce with
  | none => exact ⟨rfl, rfl⟩
  | some nonce =>
    have hstore := turnStoreNonce_keeps turn nonce
    dsimp only
    split
    · exact ⟨rfl, rfl⟩
    split
    · exact hstore
    cases perm with
    | some i => exact hstore
    | none => exact hstore.trans ⟨rfl, channelPeers_set _ _ _ rfl rfl rfl rfl⟩

/-- A response changes no channel number and no peer. -/
theorem turnHandleResponse_keeps (crypto : CryptoProvider) (turn : NanoTurn) (nowMs : UInt32)
    (data : List UInt8) : KeepsChannels turn (turnHandleResponse crypto turn nowMs data).1 := by
  unfold turnHandleResponse
  cases stunParse data with
  | error e => exact .refl turn
  | ok msg =>
    dsimp only
    -- the messages that are ignored, then the two dispatches
    split
    · exact .refl turn
    split
    · exact .refl turn
    split
    · exact .refl turn
    split
    · exact .refl turn
    split
    · exact turnHandleStaleNonce_keeps ..
    · exact turnDispatchResponse_keeps ..

/-! ### Timers -/

theorem channelPeers_retransmit (crypto : CryptoProvider) (turn : NanoTurn) (nowMs : UInt32)
    (random : Option (List UInt8)) (bufLen : Nat) (cs : List TurnChannel) :
    channelPeers (turnRetransmitChannels crypto turn nowMs random bufLen cs).1 =
      channelPeers cs := by
  induction cs with
  | nil => rfl
  | cons c cs ih =>
    unfold turnRetransmitChannels
    dsimp only
    have hnext (c' : TurnChannel) (h : c'.channel = c.channel) (h' : c'.peer = c.peer) :
        channelPeers (c' :: (turnRetransmitChannels crypto turn nowMs random bufLen cs).1) =
          channelPeers (c :: cs) := by
      show (c'.channel, c'.peer) :: channelPeers _ = (c.channel, c.peer) :: channelPeers cs
      rw [h, h', ih]
    cases turnDue nowMs c.pending c.deadlineMs c.transmissions with
    | skip => exact hnext _ rfl rfl
    | arm => exact hnext _ rfl rfl
    | expire => exact hnext _ rfl rfl
    | send =>
      dsimp only
      cases turnRetransmitTxid c.pending c.txid random with
      | none => rfl
      | some txid =>
        dsimp only
        cases turnBuildChannelBind crypto turn c txid bufLen with
        | error e => rfl
        | ok out => rfl

theorem turnRetransmitTables_keeps (crypto : CryptoProvider) (turn : NanoTurn) (nowMs : UInt32)
    (random : Option (List UInt8)) (bufLen : Nat) :
    KeepsChannels turn (turnRetransmitTables crypto turn nowMs random bufLen).1 := by
  unfold turnRetransmitTables
  dsimp only
  split
  · exact ⟨rfl, rfl⟩
  · exact ⟨rfl, channelPeers_retransmit ..⟩

theorem turnGenerateRetransmit_keeps (crypto : CryptoProvider) (turn : NanoTurn) (nowMs : UInt32)
    (random : Option (List UInt8)) (bufLen : Nat) :
    KeepsChannels turn (turnGenerateRetransmit crypto turn nowMs random bufLen).1 := by
  have htables := turnRetransmitTables_keeps crypto turn nowMs random bufLen
  unfold turnGenerateRetransmit
  split
  · exact htables
  split
  · exact turnRetransmitTables_keeps crypto { turn with transactionRetryAtMs := _ } ..
  split
  · exact htables
  split
  · exact ⟨rfl, rfl⟩
  split
  · exact .refl turn
  · dsimp only
    split
    · exact .refl turn
    · exact ⟨rfl, rfl⟩

/-- The work is nothing, or not a channel's, or a channel's of a table of `n` entries. -/
private def ChannelWork (n : Nat) (work : TurnWork) : Prop := work.type = .channel → work.index < n

private theorem ChannelWork.consider {n : Nat} {work : TurnWork} (h : ChannelWork n work)
    (nowMs : UInt32) (type : TurnWorkType) (i : Nat) (deadline : UInt32)
    (hi : type = .channel → i < n) : ChannelWork n (turnConsiderWork nowMs work type i deadline) := by
  unfold turnConsiderWork
  dsimp only
  generalize (if deadline = 0 then 0 else nanoTimeUntil nowMs deadline) = delay
  split
  · exact hi
  · exact h

private theorem ChannelWork.table {α : Type} {n : Nat} {work : TurnWork} (h : ChannelWork n work)
    (nowMs : UInt32) (type : TurnWorkType) (cond : α → Bool) (deadline : α → UInt32)
    (table : List α) (hn : type = .channel → table.length ≤ n) :
    ChannelWork n (turnConsiderTable nowMs type cond deadline table work) := by
  unfold turnConsiderTable
  refine List.foldlRecOn _ _ h ?_
  intro work h x hx
  dsimp only
  split
  · refine h.consider nowMs type x.2 (deadline x.1) fun htype => ?_
    have hlt : x.2 < table.length := by simpa using List.snd_lt_of_mem_zipIdx hx
    exact Nat.lt_of_lt_of_le hlt (hn htype)
  · exact h

/-- A channel's work names an entry of the channel table. -/
theorem turnNextWork_channel (turn : NanoTurn) (nowMs : UInt32)
    (h : (turnNextWork turn nowMs).type = .channel) :
    (turnNextWork turn nowMs).index < turn.channels.length := by
  have key : ChannelWork turn.channels.length (turnNextWork turn nowMs) := by
    have hnone : ChannelWork turn.channels.length {} := fun h => nomatch h
    unfold turnNextWork
    split
    · exact hnone
    dsimp only
    have hfirst : ChannelWork turn.channels.length
        (if turn.transaction ≠ .none then
          turnConsiderWork nowMs {} .retransmit 0 turn.transactionRetryAtMs
        else if turn.state = .idle ∨ turn.state = .challenged then
          turnConsiderWork nowMs {} .allocate 0 0
        else {}) := by
      split
      · exact hnone.consider _ _ _ _ (fun h => nomatch h)
      split
      · exact hnone.consider _ _ _ _ (fun h => nomatch h)
      · exact hnone
    revert hfirst
    generalize (if turn.transaction ≠ .none then _ else _ : TurnWork) = work
    intro hfirst
    split
    · exact hfirst
    have htables := (hfirst.table nowMs .retransmit (fun p : TurnPermission => p.pending != .none)
      (·.deadlineMs) turn.permissions (fun h => nomatch h)).table nowMs .retransmit
      (fun c : TurnChannel => c.pending != .none) (·.deadlineMs) turn.channels
      (fun h => nomatch h)
    revert htables
    generalize turnConsiderTable nowMs .retransmit (fun c : TurnChannel => c.pending != .none)
      (·.deadlineMs) turn.channels _ = work
    intro htables
    have hrefresh : ChannelWork turn.channels.length (if turn.transaction = .none then
        turnConsiderWork nowMs work .refresh 0 turn.refreshAtMs else work) := by
      split
      · exact htables.consider _ _ _ _ (fun h => nomatch h)
      · exact htables
    exact (hrefresh.table nowMs .permission
      (fun p : TurnPermission => p.pending == .none && !p.terminal) (·.deadlineMs) turn.permissions
      (fun h => nomatch h)).table nowMs .channel
      (fun c : TurnChannel => c.bound && c.pending == .none) (·.deadlineMs) turn.channels
      (fun _ => Nat.le_refl _)
  exact key h

theorem addrEq_refl (family : UInt8) (a : List UInt8) : addrEq family a a = true :=
  beq_self_eq_true _

/-- An entry is for its own peer. -/
theorem TurnChannel.isFor_peer (c : TurnChannel) : c.isFor c.peer = true := by
  simp [TurnChannel.isFor, TurnChannel.peer, addrEq_refl]

/-- Binding a peer that has an entry keeps the table. -/
theorem turnChannelBind_known (crypto : CryptoProvider) (turn : NanoTurn) (peer : NanortcAddr)
    (random : Option (List UInt8)) (bufLen : Nat) {c : TurnChannel} (hc : c ∈ turn.channels)
    (hpeer : c.isFor peer) :
    KeepsChannels turn (turnChannelBind crypto turn peer random bufLen).1 := by
  unfold turnChannelBind
  split
  · exact .refl turn
  split
  · exact .refl turn
  cases h : turn.channels.findIdx? (·.isFor peer) with
  | none =>
    rw [List.findIdx?_eq_none_iff] at h
    exact absurd hpeer (by simp [h c hc])
  | some i =>
    -- the entry found is for the peer: its port does not change
    obtain ⟨hi, hfor, -⟩ := List.findIdx?_eq_some_iff_getElem.mp h
    have hport : (turn.channels.getD i default).port = peer.port := by
      rw [List.getD_eq_getElem _ _ hi]
      simp only [TurnChannel.isFor, Bool.and_eq_true, beq_iff_eq] at hfor
      exact hfor.1.2
    dsimp only
    split
    · exact .refl turn
    cases random with
    | none => exact .refl turn
    | some txid =>
      dsimp only
      split
      · exact ⟨rfl, channelPeers_set _ i _ rfl rfl rfl hport.symm⟩
      · exact ⟨rfl, channelPeers_set _ i _ rfl rfl rfl hport.symm⟩

theorem turnDoWork_keeps (crypto : CryptoProvider) (turn : NanoTurn) (nowMs : UInt32)
    (work : TurnWork) (random : Option (List UInt8)) (bufLen : Nat)
    (hwork : work.type = .channel → work.index < turn.channels.length) :
    KeepsChannels turn (turnDoWork crypto turn nowMs work random bufLen).1 := by
  unfold turnDoWork
  cases htype : work.type with
  | none => exact .refl turn
  | retransmit => exact .refl turn
  | allocate => exact turnStartAllocate_keeps ..
  | refresh => exact turnGenerateRefresh_keeps ..
  | permission => exact turnCreatePermission_keeps ..
  | channel =>
    have hi := hwork htype
    dsimp only
    rw [List.getD_eq_getElem _ _ hi]
    exact turnChannelBind_known _ _ _ _ _ (List.getElem_mem hi) (TurnChannel.isFor_peer _)

/-- The timer changes no channel number and no peer. -/
theorem turnPollOutput_keeps (crypto : CryptoProvider) (turn : NanoTurn) (nowMs : UInt32)
    (random : Option (List UInt8)) (bufLen : Nat) :
    KeepsChannels turn (turnPollOutput crypto turn nowMs random bufLen).1 := by
  unfold turnPollOutput
  dsimp only
  split
  · exact .refl turn
  split
  · have hretx := turnGenerateRetransmit_keeps crypto turn nowMs random bufLen
    revert hretx
    generalize turnGenerateRetransmit crypto turn nowMs random bufLen = r
    intro hretx
    split
    · rename_i turn'
      split
      · exact hretx
      · exact hretx.trans (turnDoWork_keeps _ _ _ _ _ _ (turnNextWork_channel _ _))
    · exact hretx
  · exact turnDoWork_keeps _ _ _ _ _ _ (turnNextWork_channel _ _)

/-- What binding a peer does to the table: nothing, or a new entry under the next number. -/
theorem turnChannelBind_cases (crypto : CryptoProvider) (turn : NanoTurn) (peer : NanortcAddr)
    (random : Option (List UInt8)) (bufLen : Nat) :
    KeepsChannels turn (turnChannelBind crypto turn peer random bufLen).1 ∨
    (turn.channels.length < turnMaxChannels ∧
      (turnChannelBind crypto turn peer random bufLen).1.nextChannel = turn.nextChannel + 1 ∧
      channelPeers (turnChannelBind crypto turn peer random bufLen).1.channels =
        channelPeers turn.channels ++ [(turn.nextChannel, peer)]) := by
  by_cases hknown : ∃ c ∈ turn.channels, c.isFor peer
  · obtain ⟨c, hc, hpeer⟩ := hknown
    exact .inl (turnChannelBind_known crypto turn peer random bufLen hc hpeer)
  · have hnone : turn.channels.findIdx? (·.isFor peer) = none := by
      rw [List.findIdx?_eq_none_iff]
      intro c hc
      exact Bool.eq_false_iff.mpr fun h => hknown ⟨c, hc, h⟩
    unfold turnChannelBind
    split
    · exact .inl (.refl turn)
    split
    · exact .inl (.refl turn)
    rw [hnone]
    dsimp only
    split
    · exact .inl (.refl turn)
    · rename_i hlen
      split
      · exact .inl (.refl turn)
      cases random with
      | none => exact .inl (.refl turn)
      | some txid =>
        dsimp only
        split
        · exact .inl (.refl turn)
        · exact .inr ⟨Nat.lt_of_not_le hlen, rfl, channelPeers_append turn.channels _⟩

/-- Deallocation does nothing, or it drops the peer state of an allocated client. -/
theorem turnDeallocate_cases (crypto : CryptoProvider) (turn : NanoTurn)
    (random : Option (List UInt8)) (bufLen : Nat) :
    (turnDeallocate crypto turn random bufLen).1 = turn ∨
    ((turnDeallocate crypto turn random bufLen).1.state ≠ turn.state ∧
      (turnDeallocate crypto turn random bufLen).1.channels = [] ∧
      (turnDeallocate crypto turn random bufLen).1.nextChannel = 0x4000) := by
  unfold turnDeallocate
  split
  · exact .inl rfl
  rename_i hstate
  split
  · exact .inl rfl
  cases random with
  | none => exact .inl rfl
  | some txid =>
    dsimp only
    split
    · exact .inl rfl
    · refine .inr ⟨fun hidle => ?_, rfl, rfl⟩
      have hidle : TurnState.idle = turn.state := hidle
      exact hstate (.inl (by rw [← hidle]; exact fun h => nomatch h))

/-! ### Runs -/

/-- Calls on the client. -/
inductive TurnInput where
  | configure (server : NanortcAddr) (username password : List UInt8)
  | startAllocate (random : Option (List UInt8)) (bufLen : Nat)
  | handleResponse (nowMs : UInt32) (data : List UInt8)
  | generateRefresh (nowMs : UInt32) (random : Option (List UInt8)) (bufLen : Nat)
  | createPermission (peer : NanortcAddr) (random : Option (List UInt8)) (bufLen : Nat)
  | channelBind (peer : NanortcAddr) (random : Option (List UInt8)) (bufLen : Nat)
  | generateRetransmit (nowMs : UInt32) (random : Option (List UInt8)) (bufLen : Nat)
  | pollOutput (nowMs : UInt32) (random : Option (List UInt8)) (bufLen : Nat)
  | deallocate (random : Option (List UInt8)) (bufLen : Nat)
  | resetPeerState

/-- The client after one call. -/
def turnStep (crypto : CryptoProvider) (turn : NanoTurn) : TurnInput → NanoTurn
  | .configure server username password => (turnConfigure turn server username password).1
  | .startAllocate random bufLen => (turnStartAllocate crypto turn random bufLen).1
  | .handleResponse nowMs data => (turnHandleResponse crypto turn nowMs data).1
  | .generateRefresh nowMs random bufLen => (turnGenerateRefresh crypto turn nowMs random bufLen).1
  | .createPermission peer random bufLen => (turnCreatePermission crypto turn peer random bufLen).1
  | .channelBind peer random bufLen => (turnChannelBind crypto turn peer random bufLen).1
  | .generateRetransmit nowMs random bufLen =>
    (turnGenerateRetransmit crypto turn nowMs random bufLen).1
  | .pollOutput nowMs random bufLen => (turnPollOutput crypto turn nowMs random bufLen).1
  | .deallocate random bufLen => (turnDeallocate crypto turn random bufLen).1
  | .resetPeerState => turnResetPeerState turn

/-- A client and the log of the channel numbers it has requested, each with the peer it requested
the number for, since the peer state was last dropped. -/
structure TurnLog where
  turn : NanoTurn
  log : List (UInt16 × NanortcAddr)

/-- One call, logged: a bind that takes the next number adds it, dropping the peer state empties
the log. -/
def turnLogStep (crypto : CryptoProvider) (s : TurnLog) (i : TurnInput) : TurnLog where
  turn := turnStep crypto s.turn i
  log := match i with
    | .channelBind peer _ _ =>
      if (turnStep crypto s.turn i).nextChannel = s.turn.nextChannel then s.log
      else s.log ++ [(s.turn.nextChannel, peer)]
    | .deallocate _ _ => if (turnStep crypto s.turn i).state = s.turn.state then s.log else []
    | .resetPeerState => []
    | _ => s.log

/-- A new client with an empty log. -/
def turnLogStart : TurnLog := ⟨turnInit, []⟩

/-- The table is the log, and the logged numbers are consecutive. -/
structure TurnHistory (s : TurnLog) : Prop where
  table : channelPeers s.turn.channels = s.log
  numbers : s.log.map (·.1) = (List.range s.log.length).map fun i => UInt16.ofNat (0x4000 + i)
  next : s.turn.nextChannel = UInt16.ofNat (0x4000 + s.log.length)
  few : s.log.length ≤ turnMaxChannels

theorem TurnHistory.start : TurnHistory turnLogStart := ⟨rfl, rfl, rfl, by decide⟩

theorem TurnHistory.keeps {s : TurnLog} (h : TurnHistory s) {turn : NanoTurn}
    (hk : KeepsChannels s.turn turn) : TurnHistory ⟨turn, s.log⟩ :=
  ⟨hk.2.trans h.table, h.numbers, hk.1.trans h.next, h.few⟩

theorem TurnHistory.dropped {turn : NanoTurn} (hc : turn.channels = [])
    (hn : turn.nextChannel = 0x4000) : TurnHistory ⟨turn, []⟩ :=
  ⟨by rw [hc]; rfl, rfl, hn, Nat.zero_le _⟩

theorem TurnHistory.bind {s : TurnLog} (h : TurnHistory s) {turn : NanoTurn} {peer : NanortcAddr}
    (hlen : s.turn.channels.length < turnMaxChannels)
    (hnext : turn.nextChannel = s.turn.nextChannel + 1)
    (htable : channelPeers turn.channels =
      channelPeers s.turn.channels ++ [(s.turn.nextChannel, peer)]) :
    TurnHistory ⟨turn, s.log ++ [(s.turn.nextChannel, peer)]⟩ := by
  have hcount : s.log.length = s.turn.channels.length := by
    rw [← h.table, channelPeers, List.length_map]
  refine ⟨by rw [htable, h.table], ?_, ?_, ?_⟩
  · rw [List.map_append, h.numbers, List.length_append, List.length_singleton, List.range_succ,
      List.map_append, h.next]
    rfl
  · show turn.nextChannel = _
    rw [hnext, h.next, List.length_append, List.length_singleton, ← Nat.add_assoc,
      UInt16.ofNat_add _ 1]
    rfl
  · show (s.log ++ [_]).length ≤ _
    rw [List.length_append, List.length_singleton]
    omega

theorem TurnHistory.step {crypto : CryptoProvider} {s : TurnLog} (h : TurnHistory s)
    (i : TurnInput) : TurnHistory (turnLogStep crypto s i) := by
  cases i with
  | configure server username password => exact h.keeps (turnConfigure_keeps ..)
  | startAllocate random bufLen => exact h.keeps (turnStartAllocate_keeps ..)
  | handleResponse nowMs data => exact h.keeps (turnHandleResponse_keeps ..)
  | generateRefresh nowMs random bufLen => exact h.keeps (turnGenerateRefresh_keeps ..)
  | createPermission peer random bufLen => exact h.keeps (turnCreatePermission_keeps ..)
  | generateRetransmit nowMs random bufLen => exact h.keeps (turnGenerateRetransmit_keeps ..)
  | pollOutput nowMs random bufLen => exact h.keeps (turnPollOutput_keeps ..)
  | resetPeerState => exact .dropped rfl rfl
  | channelBind peer random bufLen =>
    show TurnHistory ⟨(turnChannelBind crypto s.turn peer random bufLen).1,
      if (turnChannelBind crypto s.turn peer random bufLen).1.nextChannel = s.turn.nextChannel
      then s.log else s.log ++ [(s.turn.nextChannel, peer)]⟩
    rcases turnChannelBind_cases crypto s.turn peer random bufLen with hk | ⟨hlen, hnext, htable⟩
    · rw [if_pos hk.1]
      exact h.keeps hk
    · rw [if_neg (by rw [hnext]; simp)]
      exact h.bind hlen hnext htable
  | deallocate random bufLen =>
    show TurnHistory ⟨(turnDeallocate crypto s.turn random bufLen).1,
      if (turnDeallocate crypto s.turn random bufLen).1.state = s.turn.state then s.log else []⟩
    rcases turnDeallocate_cases crypto s.turn random bufLen with hsame | ⟨hstate, hc, hn⟩
    · rw [hsame, if_pos rfl]
      exact h
    · rw [if_neg hstate]
      exact .dropped hc hn

/-- **In every run the channel table is the log of requests.** -/
theorem turnHistory (crypto : CryptoProvider) (is : List TurnInput) :
    TurnHistory (run (turnLogStep crypto) turnLogStart is) :=
  run_invariant (fun _ i h => h.step i) .start is

/-- A number is logged for one peer only. -/
theorem TurnHistory.unique {s : TurnLog} (h : TurnHistory s) {channel : UInt16}
    {peer peer' : NanortcAddr} (hp : (channel, peer) ∈ s.log) (hp' : (channel, peer') ∈ s.log) :
    peer' = peer := by
  have hnodup : (s.log.map (·.1)).Nodup := by
    rw [h.numbers]
    apply List.Nodup.map_on _ List.nodup_range
    intro i hi j hj hij
    have hfew := h.few
    rw [List.mem_range] at hi hj
    have := congrArg UInt16.toNat hij
    rw [UInt16.toNat_ofNat', UInt16.toNat_ofNat'] at this
    simp only [turnMaxChannels] at hfew
    omega
  exact (Prod.ext_iff.mp (List.inj_on_of_nodup_map hnodup hp' hp rfl)).2

/-- A bound channel's peer, as the table has it, is the one logged for the number. -/
theorem turnFindPeerForChannel_log {s : TurnLog} (h : TurnHistory s) {channel : UInt16}
    {peer : NanortcAddr} (hfind : turnFindPeerForChannel s.turn channel = some peer) :
    (channel, peer) ∈ s.log := by
  obtain ⟨c, hc, rfl⟩ := Option.map_eq_some_iff.mp hfind
  have hmem := List.mem_of_find?_eq_some hc
  have hchan := List.find?_some hc
  simp only [Bool.and_eq_true, beq_iff_eq] at hchan
  rw [← h.table, ← hchan.2]
  exact List.mem_map_of_mem hmem

end Nanortc.Spec
