import Nanortc.Spec.DcepAgreement
import Nanortc.Spec.RtcFrame

/-!
# Stream ids

Two peers that create, close and accept data channels, each with its channel table and its DTLS
role. `rtc_alloc_stream_id` takes the next id of the peer's parity above those in its table.

## Key results

- `rtcAllocStreamId_spec`: the id has the parity of the role, and exceeds every id of it
- `stream_ids_sound`: along orderly runs the id chosen is new on both sides
- `createDatachannel_table`: `nanortc_create_datachannel` is that step of the table
- `early_create_collides`: an id chosen before the roles are known
-/

namespace Nanortc.Spec

open Nanortc.ForStd Nanortc.Native

/-! ### The allocator -/

/-- The id is one that a peer of the role allocates. -/
def HasParity (isServer : Bool) (streamId : UInt16) : Prop :=
  streamId.toNat % 2 = if isServer then 1 else 0

instance (isServer : Bool) (streamId : UInt16) : Decidable (HasParity isServer streamId) :=
  inferInstanceAs (Decidable (_ = _))

theorem hasParity_iff (isServer : Bool) (streamId : UInt16) :
    HasParity isServer streamId ↔ streamId % 2 = if isServer then 1 else 0 := by
  unfold HasParity
  rw [← UInt16.toNat_inj, UInt16.toNat_mod]
  cases isServer <;> rfl

/-- No id of the role's parity in the table is at the end of the range. -/
def HasNext (isServer : Bool) (dc : NanoDc) : Prop :=
  ∀ ch ∈ dc, HasParity isServer ch.streamId → ch.streamId.toNat ≤ 65532

/-- The id has the parity of the role, is at most 65534, and exceeds every id of the parity in the
table. -/
theorem rtcAllocStreamId_spec {dc : NanoDc} {isServer : Bool} (hnext : HasNext isServer dc) :
    HasParity isServer (rtcAllocStreamId dc isServer) ∧
      (rtcAllocStreamId dc isServer).toNat ≤ 65534 ∧
      ∀ ch ∈ dc, HasParity isServer ch.streamId →
        ch.streamId.toNat < (rtcAllocStreamId dc isServer).toNat := by
  let step (maxId : UInt16) (ch : DcChannel) : UInt16 :=
    if ch.streamId % 2 = (if isServer then 1 else 0) ∧ ch.streamId ≥ maxId then ch.streamId + 2
    else maxId
  -- the fold never goes down, keeps the parity and passes every id of it
  have hfold : ∀ (dc : NanoDc) (start : UInt16), HasNext isServer dc →
      HasParity isServer start → start.toNat ≤ 65534 →
      HasParity isServer (dc.foldl step start) ∧ (dc.foldl step start).toNat ≤ 65534 ∧
        start.toNat ≤ (dc.foldl step start).toNat ∧
        ∀ ch ∈ dc, HasParity isServer ch.streamId →
          ch.streamId.toNat < (dc.foldl step start).toNat := by
    intro dc
    induction dc with
    | nil => exact fun start _ hp hb => ⟨hp, hb, Nat.le_refl _, fun _ h => nomatch h⟩
    | cons c dc ih =>
      intro start hnext hp hb
      have hrest : HasNext isServer dc := fun ch hch => hnext ch (List.mem_cons_of_mem c hch)
      have hstep : HasParity isServer (step start c) ∧ (step start c).toNat ≤ 65534 ∧
          start.toNat ≤ (step start c).toNat ∧
          (HasParity isServer c.streamId → c.streamId.toNat < (step start c).toNat) := by
        by_cases hpc : HasParity isServer c.streamId
        · have hc := hnext c List.mem_cons_self hpc
          by_cases hge : c.streamId ≥ start
          · have heq : step start c = c.streamId + 2 :=
              if_pos ⟨(hasParity_iff _ _).mp hpc, hge⟩
            have hnat : (c.streamId + 2).toNat = c.streamId.toNat + 2 := by
              rw [UInt16.toNat_add]
              show (c.streamId.toNat + 2) % 65536 = _
              omega
            have hge' : start.toNat ≤ c.streamId.toNat := hge
            rw [heq]
            unfold HasParity at hpc ⊢
            rw [hnat]
            exact ⟨by omega, by omega, by omega, fun _ => by omega⟩
          · have heq : step start c = start := if_neg fun h => hge h.2
            have hlt : c.streamId.toNat < start.toNat :=
              UInt16.lt_iff_toNat_lt.mp (UInt16.not_le.mp hge)
            rw [heq]
            exact ⟨hp, hb, Nat.le_refl _, fun _ => hlt⟩
        · have heq : step start c = start :=
            if_neg fun h => hpc ((hasParity_iff _ _).mpr h.1)
          rw [heq]
          exact ⟨hp, hb, Nat.le_refl _, fun h => absurd h hpc⟩
      obtain ⟨hp', hb', hup, hself⟩ := hstep
      obtain ⟨hpr, hbr, hupr, hall⟩ := ih (step start c) hrest hp' hb'
      refine ⟨hpr, hbr, Nat.le_trans hup hupr, ?_⟩
      intro ch hch hpar
      rcases List.mem_cons.mp hch with rfl | hch
      · exact Nat.lt_of_lt_of_le (hself hpar) hupr
      · exact hall ch hch hpar
  have hbase : HasParity isServer (if isServer then 1 else 0) ∧
      (if isServer then (1 : UInt16) else 0).toNat ≤ 65534 := by
    cases isServer <;> decide
  obtain ⟨hp, hb, -, hall⟩ := hfold dc _ hnext hbase.1 hbase.2
  exact ⟨hp, hb, hall⟩

/-! ### The call -/

section

variable {Ctx Rx : Type} (p : Platform Ctx Rx)

theorem datachannel_onSctp (f : NanoSctp → NanoSctp × Rc) :
    Moves (Same Rtc.datachannel) (onSctp f : RtcM Ctx Rx Unit) :=
  fun _ => movesAt_onSctp.mpr rfl

theorem datachannel_txSlotSend (slot : Nat) (packet : List UInt8) (dest : NanortcAddr)
    (localSrc : Option NanortcAddr) (route : TxRoute) :
    Moves (Same Rtc.datachannel)
      (txSlotSend slot packet dest localSrc route : RtcM Ctx Rx Unit) := by
  unfold txSlotSend
  apply Moves.bind
  · exact fun _ => movesAt_modify.mpr rfl
  · exact fun _ _ => movesAt_onOut.mpr rfl

theorem datachannel_txSlotAcquire :
    Moves (Same Rtc.datachannel) (txSlotAcquire : RtcM Ctx Rx Nat) :=
  fun _ => movesAt_txSlotAcquire.mpr rfl

theorem datachannel_drainDtls (dest : NanortcAddr) :
    Moves (Same Rtc.datachannel) (rtcDrainDtlsOutput dest : RtcM Ctx Rx Unit) := by
  intro rtc
  unfold rtcDrainDtlsOutput
  apply movesAt_get_bind.mpr
  apply MovesAt.ite_pure
  intro _
  apply MovesAt.bind (datachannel_txSlotAcquire rtc)
  intro slot rtc' _
  apply movesAt_get_bind.mpr
  split
  · exact MovesAt.ite (fun _ => movesAt_pure _) fun _ => movesAt_throw _
  · apply movesAt_set_bind
    · exact rfl
    · exact datachannel_txSlotSend slot _ dest none .selected _

theorem datachannel_sendSctpPacket (slot : Nat) (packet : List UInt8) (dest : NanortcAddr) :
    Moves (Same Rtc.datachannel) (rtcSendSctpPacket p slot packet dest) := by
  unfold rtcSendSctpPacket
  have hencrypt : Moves (Same Rtc.datachannel)
      (onDtls fun dtls => dtlsEncrypt p.dtls dtls packet : RtcM Ctx Rx Unit) :=
    fun _ => movesAt_onDtls.mpr rfl
  apply hencrypt.bind
  intro _ rtc
  apply movesAt_get_bind.mpr
  split
  · exact movesAt_throw _
  · apply movesAt_set_bind
    · exact rfl
    · exact datachannel_txSlotSend slot _ dest none .selected _

theorem datachannel_pumpSctp (dest : NanortcAddr) :
    Moves (Same Rtc.datachannel) (rtcPumpSctpThroughDtls p dest) := by
  have hloop (turns : Nat) : Moves (Same Rtc.datachannel) (rtcPumpSctpLoop p dest turns) := by
    induction turns with
    | zero => exact fun _ => movesAt_throw _
    | succ turns ih =>
      unfold rtcPumpSctpLoop
      apply Moves.bind datachannel_txSlotAcquire
      intro slot rtc
      apply movesAt_get_bind.mpr
      dsimp only
      apply movesAt_set_bind
      · exact rfl
      · split
        · exact MovesAt.ite (fun _ => movesAt_pure _) fun _ => movesAt_throw _
        · rename_i packet _
          apply MovesAt.ite
          · exact fun _ => movesAt_pure _
          · intro _
            exact Moves.bind (datachannel_sendSctpPacket p slot packet dest) (fun _ => ih) _
  unfold rtcPumpSctpThroughDtls
  exact Moves.bind (datachannel_drainDtls dest) fun _ => hloop (txSlotCount + 1)

/-- The pump of the channel table takes a step of it, in which SCTP accepts the message or
refuses it. -/
theorem pumpDc_table (dest : NanortcAddr) (rtc : Rtc Ctx Rx) :
    ∃ accepted, (after (rtcPumpDcThroughSctp p dest) rtc).datachannel =
      dcSend rtc.datachannel accepted := by
  have hrefused : dcSend rtc.datachannel false = rtc.datachannel := by
    unfold dcSend
    split <;> rfl
  have hsame {m : RtcM Ctx Rx Unit} (h : MovesAt (Same Rtc.datachannel) m rtc) :
      ∃ accepted, (after m rtc).datachannel = dcSend rtc.datachannel accepted :=
    ⟨false, h.trans hrefused.symm⟩
  show ∃ accepted, (after (if rtc.sctp.state = .established then _ else _) rtc).datachannel = _
  split
  swap
  · exact hsame (movesAt_pure _)
  split
  · exact hsame (MovesAt.ite (fun _ => movesAt_pure _) fun _ => movesAt_throw _)
  rename_i message stream hpeek
  have hsend := datachannel_onSctp
    (fun sctp => nsctpSendOptions sctp stream dcepPpidControl message false (-1)) rtc
  generalize (onSctp fun sctp =>
    nsctpSendOptions sctp stream dcepPpidControl message false (-1)) = send at *
  cases hrun : send rtc with
  | error rc rtc' =>
    -- nothing is committed
    rw [after_bind_error hrun]
    rw [MovesAt, after_error hrun] at hsend
    exact ⟨false, hsend.trans hrefused.symm⟩
  | ok a rtc' =>
    have hsent : rtc'.datachannel = rtc.datachannel := hsend.ok hrun
    rw [after_bind_ok hrun]
    have hpump := datachannel_pumpSctp p dest
      { rtc' with datachannel := dcCommitOutput rtc'.datachannel stream }
    refine ⟨true, hpump.trans ?_⟩
    unfold dcSend
    rw [hpeek, hsent]
    rfl

/-- `nanortc_create_datachannel` takes the step of the table that a peer takes, and perhaps a step
of the pump. -/
theorem createDatachannel_table (label : List UInt8) (options : DatachannelOptions)
    (rtc : Rtc Ctx Rx) :
    let opened := dcStep rtc.datachannel (.openChannel
      (rtcAllocStreamId rtc.datachannel rtc.dtls.isServer) label options.protocol
      (!options.unordered) (options.partialReliability || options.maxRetransmits != 0)
      options.maxRetransmits)
    let dc := (after (nanortcCreateDatachannel p label options) rtc).datachannel
    dc = opened ∨ ∃ accepted, dc = dcSend opened accepted := by
  intro opened
  show MovesAt (fun _ rtc' => rtc'.datachannel = opened ∨
    ∃ accepted, rtc'.datachannel = dcSend opened accepted) (nanortcCreateDatachannel p label options)
    rtc
  generalize hR : (fun (_ rtc' : Rtc Ctx Rx) => rtc'.datachannel = opened ∨
    ∃ accepted, rtc'.datachannel = dcSend opened accepted) = R
  -- the relation does not look at the state before
  have hmodify (f : Rtc Ctx Rx → Rtc Ctx Rx) (m : PUnit → RtcM Ctx Rx Unit)
      (h : MovesAt R (m ⟨⟩) (f rtc)) : MovesAt R (modify f >>= m) rtc := by
    subst hR
    exact h
  have hset (s s' : Rtc Ctx Rx) (m : PUnit → RtcM Ctx Rx Unit) (h : MovesAt R (m ⟨⟩) s') :
      MovesAt R (set s' >>= m) s := by
    subst hR
    exact h
  unfold nanortcCreateDatachannel
  apply hmodify
  generalize hrtc : (if rtc.sdp.hasDatachannel then rtc else _) = rtc₁
  obtain ⟨hdc, hdtls⟩ : rtc₁.datachannel = rtc.datachannel ∧ rtc₁.dtls = rtc.dtls := by
    rw [← hrtc]
    split <;> exact ⟨rfl, rfl⟩
  apply movesAt_get_bind.mpr
  rw [hdc, hdtls]
  apply hset
  subst hR
  apply MovesAt.ite
  · exact fun _ => .inl rfl
  intro _
  apply MovesAt.ite
  · exact fun _ => movesAt_ignoring.mpr (.inr (pumpDc_table p _ _))
  · exact fun _ => .inl rfl

end

/-! ### Two peers -/

/-- A peer, as far as its data channels go. -/
structure DcPeer where
  dc : NanoDc
  isServer : Bool

/-- What happens at a peer. -/
inductive PeerEvent where
  | create (label : List UInt8) (options : DatachannelOptions)
  | close (streamId : UInt16)
  | message (streamId : UInt16) (ppid : UInt32) (data : List UInt8)
  | send (accepted : Bool)
  | role (isServer : Bool)

/-- The event of the channel table, if it is one. -/
def DcPeer.tableEvent (peer : DcPeer) : PeerEvent → Option DcEvent
  | .create label options =>
    some (.openChannel (rtcAllocStreamId peer.dc peer.isServer) label options.protocol
      (!options.unordered) (options.partialReliability || options.maxRetransmits != 0)
      options.maxRetransmits)
  | .close streamId => some (.close streamId)
  | .message streamId ppid data => some (.message streamId ppid data)
  | .send accepted => some (.send accepted)
  | .role _ => none

/-- One event at a peer. -/
def DcPeer.step (peer : DcPeer) (ev : PeerEvent) : DcPeer :=
  match ev, peer.tableEvent ev with
  | .role isServer, _ => { peer with isServer := isServer }
  | _, some ev => { peer with dc := dcStep peer.dc ev }
  | _, none => peer

/-- One event at one of two peers. -/
def peersStep (peers : Bool → DcPeer) (ev : Bool × PeerEvent) : Bool → DcPeer :=
  Function.update peers ev.1 ((peers ev.1).step ev.2)

/-- An event by which stream ids stay apart when the peers end up with the roles `server`: a
channel is created once the role of its peer is known and while the ids of its parity last, and an
OPEN for a stream of the other side's parity is for one that the other side has opened. -/
def StreamOrderly (server : Bool → Bool) (peers : Bool → DcPeer) (ev : Bool × PeerEvent) : Prop :=
  match ev.2 with
  | .create _ _ =>
    (peers ev.1).isServer = server ev.1 ∧ HasNext (server ev.1) (peers ev.1).dc
  | .message streamId ppid data =>
    isDcepOpen ppid data = true → HasParity (server !ev.1) streamId →
      ∃ ch ∈ (peers !ev.1).dc, ch.streamId = streamId
  | _ => True

instance (isServer : Bool) (dc : NanoDc) : Decidable (HasNext isServer dc) :=
  inferInstanceAs (Decidable (∀ ch ∈ dc, _ → _))

instance (server : Bool → Bool) (peers : Bool → DcPeer) :
    ∀ ev, Decidable (StreamOrderly server peers ev)
  | (_, .create _ _) => inferInstanceAs (Decidable (_ ∧ _))
  | (_, .message _ _ _) => inferInstanceAs (Decidable (_ → _ → ∃ ch ∈ _, _))
  | (_, .close _) | (_, .send _) | (_, .role _) => instDecidableTrue

/-- The id suits peer `who` of two peers that end up with the roles `server`. -/
structure StreamIdSound (server : Bool → Bool) (peers : Bool → DcPeer) (who : Bool)
    (streamId : UInt16) : Prop where
  unused : ∀ k, ∀ ch ∈ (peers k).dc, ch.state ≠ .closed → ch.streamId ≠ streamId
  bound : streamId.toNat ≤ 65534
  parity : streamId.toNat % 2 = 0 ↔ server who = false

/-! ### What an event does to a table -/

/-- The stream on which an event may open a channel. -/
def DcEvent.opens : DcEvent → Option UInt16
  | .openChannel streamId .. => some streamId
  | .message streamId ppid data => if isDcepOpen ppid data then some streamId else none
  | _ => none

/-- Ids stay, and a live channel that was not live before is on the stream `opens`. -/
structure TableGrows (dc : NanoDc) (opens : Option UInt16) (dc' : NanoDc) : Prop where
  kept : ∀ ch ∈ dc, ∃ c ∈ dc', c.streamId = ch.streamId
  live : ∀ ch ∈ dc', ch.state ≠ .closed →
    (∃ c ∈ dc, c.state ≠ .closed ∧ c.streamId = ch.streamId) ∨ opens = some ch.streamId

theorem TableGrows.refl (dc : NanoDc) (opens : Option UInt16) : TableGrows dc opens dc where
  kept ch h := ⟨ch, h, rfl⟩
  live ch h hlive := .inl ⟨ch, h, hlive, rfl⟩

theorem TableGrows.append (dc : NanoDc) {c : DcChannel} {streamId : UInt16}
    (h : c.streamId = streamId) : TableGrows dc (some streamId) (dc ++ [c]) where
  kept ch hch := ⟨ch, List.mem_append_left _ hch, rfl⟩
  live ch hch hlive := by
    rcases List.mem_append.mp hch with hch | hch
    · exact .inl ⟨ch, hch, hlive, rfl⟩
    · obtain rfl := List.mem_singleton.mp hch
      exact .inr (by rw [h])

/-- A channel changed in place. -/
theorem TableGrows.update (dc : NanoDc) (opens : Option UInt16) (streamId : UInt16)
    {f : DcChannel → DcChannel} (hf : ∀ ch, (f ch).streamId = ch.streamId) :
    TableGrows dc opens (dcUpdateChannel f streamId dc) := by
  rcases dcUpdateChannel_cases f streamId dc with ⟨-, -, hsame⟩ | ⟨i, ch, hi, hlive, -, -, hset⟩
  · rw [hsame]
    exact TableGrows.refl dc opens
  rw [hset]
  have hlt := (List.getElem?_eq_some_iff.mp hi).1
  constructor
  · intro c hc
    obtain ⟨j, hj⟩ := List.mem_iff_getElem?.mp hc
    by_cases hij : i = j
    · subst hij
      obtain rfl := Option.some.inj (hj.symm.trans hi)
      exact ⟨f c, List.mem_iff_getElem?.mpr ⟨i, List.getElem?_set_self hlt⟩, hf c⟩
    · refine ⟨c, List.mem_iff_getElem?.mpr ⟨j, ?_⟩, rfl⟩
      rw [List.getElem?_set_ne hij]
      exact hj
  · intro c hc hstate
    rcases List.mem_or_eq_of_mem_set hc with hc | rfl
    · exact .inl ⟨c, hc, hstate, rfl⟩
    · exact .inl ⟨ch, List.mem_of_getElem? hi, (isLive_iff.mp hlive).2, (hf ch).symm⟩

theorem dcStep_grows (dc : NanoDc) (ev : DcEvent) :
    TableGrows dc (DcEvent.opens ev) (dcStep dc ev) := by
  cases ev with
  | openChannel streamId label protocol ordered partialReliability maxRetransmits =>
    show TableGrows dc (some streamId) (dcOpenOptions dc streamId label protocol ordered
      partialReliability maxRetransmits).1
    rcases dcOpenOptions_cases dc streamId label protocol ordered partialReliability
      maxRetransmits with ⟨rc, -, hrefused⟩ | ⟨ch, -, -, hopened, hch⟩
    · rw [hrefused]
      exact TableGrows.refl dc _
    · rw [hopened]
      exact TableGrows.append dc (by rw [hch])
  | close streamId => exact TableGrows.update dc none streamId fun _ => rfl
  | message streamId ppid data =>
    show TableGrows dc (if isDcepOpen ppid data then some streamId else none)
      (dcHandleMessage dc streamId ppid data).1
    rcases dcHandleMessage_cases dc streamId ppid data with ⟨hparse, hopen⟩ | ⟨-, hsame | hack⟩
    · rw [hopen, if_pos hparse]
      rcases dcHandleOpen_cases dc streamId data with
        ⟨rc, hrefused, -⟩ | ⟨-, -, hagain⟩ | ⟨-, -, ch, -, hstream, -, hnew⟩
      · rw [hrefused]
        exact TableGrows.refl dc _
      · rw [hagain]
        exact TableGrows.update dc _ streamId fun _ => rfl
      · rw [hnew]
        exact TableGrows.append dc hstream
    · rw [hsame]
      exact TableGrows.refl dc _
    · rw [hack]
      rcases dcHandleAck_cases dc streamId with hsame | ⟨ch, -, -, hupdate⟩
      · rw [hsame]
        exact TableGrows.refl dc _
      · rw [hupdate]
        exact TableGrows.update dc _ streamId fun _ => rfl
  | send accepted =>
    show TableGrows dc none (dcSend dc accepted)
    unfold dcSend
    split
    · exact TableGrows.refl dc none
    split
    · exact TableGrows.update dc none _ fun _ => rfl
    · exact TableGrows.refl dc none

/-- The stream on which an event at a peer may open a channel. -/
def DcPeer.opens (peer : DcPeer) (ev : PeerEvent) : Option UInt16 :=
  (peer.tableEvent ev).bind DcEvent.opens

theorem peerStep_grows (peer : DcPeer) (ev : PeerEvent) :
    TableGrows peer.dc (peer.opens ev) (peer.step ev).dc := by
  cases ev with
  | role isServer => exact TableGrows.refl peer.dc none
  | create label options =>
    exact dcStep_grows peer.dc (.openChannel (rtcAllocStreamId peer.dc peer.isServer) label
      options.protocol (!options.unordered)
      (options.partialReliability || options.maxRetransmits != 0) options.maxRetransmits)
  | close streamId => exact dcStep_grows peer.dc (.close streamId)
  | message streamId ppid data => exact dcStep_grows peer.dc (.message streamId ppid data)
  | send accepted => exact dcStep_grows peer.dc (.send accepted)

/-! ### Two peers apart -/

section

variable {server : Bool → Bool}

/-- Every live channel of a peer on a stream of the other side's parity was opened there. -/
def Mirrored (server : Bool → Bool) (peers : Bool → DcPeer) : Prop :=
  ∀ k, ∀ ch ∈ (peers k).dc, ch.state ≠ .closed → HasParity (server !k) ch.streamId →
    ∃ c ∈ (peers !k).dc, c.streamId = ch.streamId

theorem server_not (hroles : server true ≠ server false) (k : Bool) :
    (server !k) = !(server k) := by
  cases k with
  | true => exact Bool.eq_not_of_ne hroles.symm
  | false => exact Bool.eq_not_of_ne hroles

theorem not_hasParity_both {isServer : Bool} {streamId : UInt16} (h : HasParity isServer streamId) :
    ¬ HasParity (!isServer) streamId := by
  unfold HasParity at *
  cases isServer <;> simp at * <;> omega

/-- A channel opened by an orderly event on a stream of the other side's parity has been opened
there. -/
theorem mirrored_opens (hroles : server true ≠ server false) {peers : Bool → DcPeer} {who : Bool}
    {ev : PeerEvent} (horderly : StreamOrderly server peers (who, ev)) {streamId : UInt16}
    (hopens : (peers who).opens ev = some streamId) (hparity : HasParity (server !who) streamId) :
    ∃ c ∈ (peers !who).dc, c.streamId = streamId := by
  cases ev with
  | create label options =>
    -- an id of the peer's own parity
    obtain ⟨hrole, hnext⟩ : (peers who).isServer = server who ∧
      HasNext (server who) (peers who).dc := horderly
    have hid : rtcAllocStreamId (peers who).dc (peers who).isServer = streamId :=
      Option.some.inj hopens
    rw [hrole] at hid
    have hown := (rtcAllocStreamId_spec hnext).1
    rw [hid] at hown
    rw [server_not hroles] at hparity
    exact absurd hparity (not_hasParity_both hown)
  | message id ppid data =>
    have hopens : (if isDcepOpen ppid data then some id else none) = some streamId := hopens
    split at hopens
    · rename_i hparse
      obtain rfl := Option.some.inj hopens
      exact horderly hparse hparity
    · exact nomatch hopens
  | close id => exact nomatch hopens
  | send accepted => exact nomatch hopens
  | role isServer => exact nomatch hopens

theorem mirrored_step (hroles : server true ≠ server false) (peers : Bool → DcPeer)
    (ev : Bool × PeerEvent) (horderly : StreamOrderly server peers ev)
    (h : Mirrored server peers) : Mirrored server (peersStep peers ev) := by
  obtain ⟨who, ev⟩ := ev
  have hgrows := peerStep_grows (peers who) ev
  have hsame : peersStep peers (who, ev) who = (peers who).step ev := Function.update_self ..
  have hother : peersStep peers (who, ev) (!who) = peers !who :=
    Function.update_of_ne (Bool.not_ne_self who) ..
  intro k ch hch hlive hparity
  by_cases hk : k = who
  · subst hk
    rw [hsame] at hch
    rw [hother]
    rcases hgrows.live ch hch hlive with ⟨c, hc, hclive, hid⟩ | hopens
    · rw [← hid] at hparity ⊢
      exact h k c hc hclive hparity
    · exact mirrored_opens hroles horderly hopens hparity
  · obtain rfl : k = !who := by cases k <;> cases who <;> simp at hk ⊢
    rw [hother] at hch
    rw [Bool.not_not, hsame]
    obtain ⟨c, hc, hid⟩ := h (!who) ch hch hlive hparity
    rw [Bool.not_not] at hc
    obtain ⟨c', hc', hid'⟩ := hgrows.kept c hc
    exact ⟨c', hc', hid'.trans hid⟩

/-- The id chosen while every foreign channel has been opened at its side. -/
theorem Mirrored.sound {peers : Bool → DcPeer} {who : Bool}
    (h : Mirrored server peers) (hrole : (peers who).isServer = server who)
    (hnext : HasNext (server who) (peers who).dc) :
    StreamIdSound server peers who
      (rtcAllocStreamId (peers who).dc (peers who).isServer) := by
  rw [hrole]
  obtain ⟨hparity, hbound, habove⟩ := rtcAllocStreamId_spec hnext
  generalize rtcAllocStreamId (peers who).dc (server who) = streamId at *
  have hown : ∀ ch ∈ (peers who).dc, ch.streamId ≠ streamId := by
    intro ch hch heq
    have := habove ch hch (by rwa [heq])
    rw [heq] at this
    exact Nat.lt_irrefl _ this
  refine ⟨?_, hbound, ?_⟩
  · intro k ch hch hlive heq
    by_cases hk : k = who
    · subst hk
      exact hown ch hch heq
    · obtain rfl : k = !who := by cases k <;> cases who <;> simp at hk ⊢
      obtain ⟨c, hc, hid⟩ := h (!who) ch hch hlive (by rwa [Bool.not_not, heq])
      rw [Bool.not_not] at hc
      exact hown c hc (hid.trans heq)
  · unfold HasParity at hparity
    rw [hparity]
    cases server who <;> decide

end

/-- The roles at the end of a run. -/
def endRoles (start : Bool → DcPeer) (evs : List (Bool × PeerEvent)) (k : Bool) : Bool :=
  (run peersStep start evs k).isServer

/-- In a run of two peers that start without channels, end up with opposite roles and take orderly
steps only, every id that a peer chooses is one of its side that no live channel of either peer
has. -/
theorem stream_ids_sound (start : Bool → DcPeer) (hstart : ∀ k, (start k).dc = [])
    (evs : List (Bool × PeerEvent)) (hroles : endRoles start evs true ≠ endRoles start evs false)
    (horderly : AllSteps peersStep start (StreamOrderly (endRoles start evs)) evs)
    (pre post : List (Bool × PeerEvent)) (who : Bool) (label : List UInt8)
    (options : DatachannelOptions) (hsplit : evs = pre ++ (who, .create label options) :: post) :
    StreamIdSound (endRoles start evs) (run peersStep start pre) who
      (rtcAllocStreamId (run peersStep start pre who).dc
        (run peersStep start pre who).isServer) := by
  generalize endRoles start evs = server at *
  rw [hsplit, allSteps_append] at horderly
  obtain ⟨hpre, hcreate, -⟩ := horderly
  have hmirrored : Mirrored server (run peersStep start pre) := by
    apply run_allSteps (P := Mirrored server) (mirrored_step hroles) hpre
    intro k ch hch
    rw [hstart k] at hch
    exact nomatch hch
  exact hmirrored.sound hcreate.1 hcreate.2

/-- Two peers without channels, neither with a role of its own yet. -/
def freshPeers (_ : Bool) : DcPeer := ⟨[], false⟩

/-- Peer `true` becomes the server, both open a channel, and their OPENs cross. -/
def crossedOpens : List (Bool × PeerEvent) :=
  let message := dcepEncodeOpen 0 0 0 [] []
  [(true, .role true), (true, .create [] {}), (false, .create [] {}),
    (true, .message 0 dcepPpidControl message), (false, .message 1 dcepPpidControl message),
    (true, .create [] {})]

theorem stream_ids_sound_crossed :
    let peers := run peersStep freshPeers (crossedOpens.take 5)
    StreamIdSound (endRoles freshPeers crossedOpens) peers true
        (rtcAllocStreamId (peers true).dc (peers true).isServer) ∧
      rtcAllocStreamId (peers true).dc (peers true).isServer = 3 :=
  ⟨stream_ids_sound freshPeers (fun _ => rfl) crossedOpens (by decide +kernel) (by decide +kernel)
    (crossedOpens.take 5) [] true [] {} rfl, by decide +kernel⟩

/-- Two channels created before the roles are known get one id. -/
theorem early_create_collides :
    ¬ ∀ (start : Bool → DcPeer), (∀ k, (start k).dc = []) → ∀ evs,
      endRoles start evs true ≠ endRoles start evs false →
      ∀ pre post who label options, evs = pre ++ (who, .create label options) :: post →
        StreamIdSound (endRoles start evs) (run peersStep start pre) who
          (rtcAllocStreamId (run peersStep start pre who).dc
            (run peersStep start pre who).isServer) := by
  intro h
  have hsound := h freshPeers (fun _ => rfl)
    [(true, .create [] {}), (false, .create [] {}), (true, .role true)] (by decide +kernel)
    [(true, .create [] {})] [(true, .role true)] false [] {} rfl
  have htable : ∃ ch ∈ (run peersStep freshPeers [(true, .create [] {})] true).dc,
      ch.state ≠ .closed ∧ ch.streamId = 0 := by decide +kernel
  obtain ⟨ch, hch, hlive, hid⟩ := htable
  exact hsound.unused true ch hch hlive hid

end Nanortc.Spec
