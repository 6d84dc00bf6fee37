import Mathlib
import Nanortc.Spec.DcRun

/-!
# DCEP agreement

The OPEN message of a channel makes the same channel at the peer, whose ACK opens it; and along a
run of a channel table every OPEN and ACK that becomes due is sent once or still waits.

## Key results

- `dcepParseOpen_encode`: the codec of OPEN messages is a round trip
- `DcLedger.step`: one event keeps the books of due and sent messages balanced
- `dcep_agreement`: the handshake, and the balance along runs
- `simultaneous_open_loses`: a simultaneous open has the pending OPEN replaced
-/

namespace Nanortc.Spec

open Nanortc.ForStd Nanortc.Native

/-! ### The handshake -/

/-- What `dcep_encode_open` writes, `dcep_parse_open` reads. -/
theorem dcepParseOpen_encode (channelType : UInt8) (priority : UInt16) (param : UInt32)
    {label protocol : List UInt8} (hlabel : label.length < 2 ^ 16)
    (hprotocol : protocol.length < 2 ^ 16) :
    dcepParseOpen (dcepEncodeOpen channelType priority param label protocol) =
      .ok ⟨channelType, priority, param, label, protocol⟩ := by
  have hlen : (dcepEncodeOpen channelType priority param label protocol).length =
      12 + label.length + protocol.length := by
    unfold dcepEncodeOpen
    simp only [List.length_append, List.length_cons, List.length_nil, length_u16be, length_u32be]
  have htype : byteAt (dcepEncodeOpen channelType priority param label protocol) 0 =
      dcepDataChannelOpen := rfl
  have hchannel : byteAt (dcepEncodeOpen channelType priority param label protocol) 1 =
      channelType := rfl
  have hpriority : readU16be (dcepEncodeOpen channelType priority param label protocol) 2 =
      priority := by
    unfold dcepEncodeOpen
    simp only [List.append_assoc]
    exact readU16be_append_u16be rfl priority _
  have hparam : readU32be (dcepEncodeOpen channelType priority param label protocol) 4 = param := by
    unfold dcepEncodeOpen
    simp only [List.append_assoc]
    rw [← List.append_assoc]
    exact readU32be_append_u32be rfl param _
  have hlabelLen : readU16be (dcepEncodeOpen channelType priority param label protocol) 8 =
      UInt16.ofNat label.length := by
    have hsplit : dcepEncodeOpen channelType priority param label protocol =
        ([dcepDataChannelOpen, channelType] ++ u16be priority ++ u32be param) ++
          (u16be (UInt16.ofNat label.length) ++
            (u16be (UInt16.ofNat protocol.length) ++ (label ++ protocol))) := by
      unfold dcepEncodeOpen
      simp only [List.append_assoc]
    rw [hsplit]
    exact readU16be_append_u16be rfl _ _
  have hprotocolLen : readU16be (dcepEncodeOpen channelType priority param label protocol) 10 =
      UInt16.ofNat protocol.length := by
    have hsplit : dcepEncodeOpen channelType priority param label protocol =
        ([dcepDataChannelOpen, channelType] ++ u16be priority ++ u32be param ++
          u16be (UInt16.ofNat label.length)) ++
          (u16be (UInt16.ofNat protocol.length) ++ (label ++ protocol)) := by
      unfold dcepEncodeOpen
      simp only [List.append_assoc]
    rw [hsplit]
    exact readU16be_append_u16be rfl _ _
  have hbody : (dcepEncodeOpen channelType priority param label protocol).drop 12 =
      label ++ protocol := rfl
  have hl : (UInt16.ofNat label.length).toNat = label.length :=
    UInt16.toNat_ofNat_of_lt hlabel
  have hp : (UInt16.ofNat protocol.length).toNat = protocol.length :=
    UInt16.toNat_ofNat_of_lt hprotocol
  have hrest : (dcepEncodeOpen channelType priority param label protocol).drop
      (12 + label.length) = protocol := by
    rw [← List.drop_drop, hbody, List.drop_left]
  unfold dcepParseOpen
  rw [if_neg (by omega), if_neg (by rw [htype]; decide)]
  simp only [hlabelLen, hprotocolLen, hl, hp, hchannel, hpriority, hparam, hbody, hrest]
  rw [if_neg (by omega), List.take_left, List.take_length]

/-- A text before the first zero byte has no zero byte. -/
theorem cString_take (b : List UInt8) (n : Nat) : cString ((cString b).take n) = (cString b).take n := by
  unfold cString
  apply List.takeWhile_eq_self_iff.mpr
  intro x hx
  have hmem := List.mem_of_mem_take hx
  exact List.mem_takeWhile_imp (p := fun a : UInt8 => decide (a ≠ 0)) hmem

theorem cString_idem (b : List UInt8) : cString (cString b) = cString b := by
  have := cString_take b (cString b).length
  rwa [List.take_length] at this

/-- The OPEN of a new channel, at a peer with room and no channel on the stream, makes the same
channel there, open, with an ACK to send. -/
theorem dcHandleMessage_open {dc : NanoDc} {streamId : UInt16} {label protocol : List UInt8}
    {ordered partialReliability : Bool} {maxRetransmits : UInt16} {ch : DcChannel}
    (hopen : dcOpenOptions dc streamId label protocol ordered partialReliability maxRetransmits =
      (dc ++ [ch], .ok)) {peer : NanoDc} (hroom : peer.length < maxDatachannels)
    (hfree : dcFindChannel peer streamId = none) :
    dcHandleMessage peer streamId dcepPpidControl ch.message =
      (peer ++ [{ ch with state := .isOpen, pending := .ack }], .ok true) := by
  rcases dcOpenOptions_cases dc streamId label protocol ordered partialReliability maxRetransmits with
    ⟨rc, hrc, hrefused⟩ | ⟨c, -, hprotocol, hopened, hc⟩
  · rw [hopen] at hrefused
    exact absurd (Prod.mk.inj hrefused).2.symm hrc
  obtain rfl : ch = c := by
    rw [hopen] at hopened
    simpa using hopened
  have hsize : dcLabelSize = 32 := rfl
  have hlabel : ch.label.length < dcLabelSize := by
    rw [hc, List.length_take]
    omega
  have hpending : ch.pending = .openMsg := by rw [hc]
  have hmessage : ch.message =
      dcepEncodeOpen ch.channelType 0 ch.maxRetransmits.toUInt32 ch.label ch.protocol := by
    unfold DcChannel.message
    rw [if_neg (by rw [hpending]; decide)]
  have hproto : ch.protocol = cString protocol := by rw [hc]
  have hparse : dcepParseOpen ch.message =
      .ok ⟨ch.channelType, 0, ch.maxRetransmits.toUInt32, ch.label, ch.protocol⟩ := by
    rw [hmessage]
    exact dcepParseOpen_encode _ _ _ (by omega) (by rw [hproto]; omega)
  -- the type byte keeps what `dc_open_options` put together
  have htype : ch.channelType = (if partialReliability then dcepChannelRexmit else 0) |||
      if ordered then 0 else 0x80 := by rw [hc]
  have hkind : ¬ ch.channelType &&& 0x7F > dcepChannelRexmit ∧
      (ch.channelType &&& 0x80 == 0) = ordered := by
    rw [htype]
    cases partialReliability <;> cases ordered <;> decide
  have hlimit : ¬ ch.maxRetransmits.toUInt32 > 0xFFFF := by
    have := ch.maxRetransmits.toNat_lt
    rw [gt_iff_lt, UInt32.lt_iff_toNat_lt, UInt16.toNat_toUInt32]
    show ¬ 0xFFFF < _
    omega
  unfold dcHandleMessage
  rw [if_neg (by decide)]
  have hcons : ∃ tail, ch.message = dcepDataChannelOpen :: tail := ⟨_, hmessage⟩
  obtain ⟨tail, htail⟩ := hcons
  rw [htail] at hparse ⊢
  dsimp only
  rw [if_pos rfl]
  unfold dcHandleOpen
  rw [hparse]
  dsimp only
  rw [hfree, if_neg (by simp), if_neg (by simp [hkind.1, hlimit]),
    if_neg (by rw [hproto]; omega), if_neg (by omega)]
  have hcopy : cString (ch.label.take (dcLabelSize - 1)) = ch.label := by
    rw [List.take_of_length_le (by omega), hc]
    exact cString_take label (dcLabelSize - 1)
  have hcopy' : cString ch.protocol = ch.protocol := by
    rw [hproto]
    exact cString_idem protocol
  rw [hcopy, hcopy', hkind.2, UInt16.toUInt16_toUInt32]
  rw [hc]

/-- The ACK opens the channel that waits for it. -/
theorem dcHandleMessage_ack {dc : NanoDc} {streamId : UInt16} {ch : DcChannel}
    (hfind : dcFindChannel dc streamId = some ch) (hstate : ch.state = .opening) :
    ∃ dc', dcHandleMessage dc streamId dcepPpidControl [dcepDataChannelAck] = (dc', .ok true) ∧
      dcFindChannel dc' streamId = some { ch with state := .isOpen } := by
  refine ⟨dcUpdateChannel (fun ch => { ch with state := .isOpen }) streamId dc, ?_, ?_⟩
  · unfold dcHandleMessage
    rw [if_neg (by decide)]
    dsimp only
    rw [if_neg (by decide), if_pos rfl]
    unfold dcHandleAck
    rw [hfind]
    dsimp only
    rw [if_pos hstate]
  · unfold dcFindChannel at *
    induction dc with
    | nil => exact nomatch hfind
    | cons c dc ih =>
      unfold dcUpdateChannel
      rw [List.find?_cons] at hfind
      cases hlive : c.isLive streamId with
      | true =>
        rw [hlive] at hfind
        obtain rfl := Option.some.inj hfind
        rw [if_pos rfl, List.find?_cons]
        have : ({ c with state := .isOpen } : DcChannel).isLive streamId = true :=
          isLive_iff.mpr ⟨(isLive_iff.mp hlive).1, DcState.noConfusion⟩
        rw [this]
      | false =>
        rw [hlive] at hfind
        rw [if_neg (by decide), List.find?_cons, hlive]
        exact ih hfind

/-! ### Books of due and sent messages -/

/-- A channel table with the messages that became due and those that SCTP took, each with the place
of its channel. -/
structure DcLedger where
  table : NanoDc
  due : List (Nat × DcPending)
  sent : List (Nat × DcPending)

/-- The messages an event makes due: the OPEN of a new channel, and an ACK for each OPEN that is
taken; one ACK answers the OPENs that arrive while it waits. -/
def dcDue (dc : NanoDc) (ev : DcEvent) : List (Nat × DcPending) :=
  match ev with
  | .openChannel .. => if dc.length < (dcStep dc ev).length then [(dc.length, .openMsg)] else []
  | .message streamId ppid data =>
    if isDcepOpen ppid data then
      match dc.findIdx? (·.isLive streamId) with
      | some i => if (dc.getD i default).pending = .ack then [] else [(i, .ack)]
      | none => if dc.length < (dcStep dc ev).length then [(dc.length, .ack)] else []
    else []
  | _ => []

/-- The message an event hands to SCTP. -/
def dcSent (dc : NanoDc) (ev : DcEvent) : List (Nat × DcPending) :=
  match ev with
  | .send true =>
    match dcPeekOutput dc dcOutBufSize,
        dc.findIdx? fun ch => ch.pending != .none && ch.state != .closed with
    | .ok _, some i => [(i, (dc.getD i default).pending)]
    | _, _ => []
  | _ => []

/-- One event, entered in the books. -/
def DcLedger.step (l : DcLedger) (ev : DcEvent) : DcLedger where
  table := dcStep l.table ev
  due := l.due ++ dcDue l.table ev
  sent := l.sent ++ dcSent l.table ev

/-- The entries for one channel. -/
def entries (log : List (Nat × DcPending)) (i : Nat) : List DcPending :=
  (log.filter (·.1 == i)).map (·.2)

/-- The message of a channel that waits. -/
def dcWaiting (ch : DcChannel) : List DcPending :=
  if ch.pending = .none then [] else [ch.pending]

/-- The message that waits at a place of the table. -/
def waitingAt (dc : NanoDc) (i : Nat) : List DcPending := (dc[i]?.map dcWaiting).getD []

/-- Every message that became due for a channel was sent once, in order, or is the one that
waits. -/
def DcLedger.Balanced (l : DcLedger) : Prop :=
  ∀ i, entries l.due i = entries l.sent i ++ waitingAt l.table i

/-- Events that the single pending field of a channel can represent: no second channel on a live
stream, no close before the message of the channel is out, no OPEN of the peer while the own OPEN
waits. -/
def DcOrderly (dc : NanoDc) : DcEvent → Prop
  | .openChannel streamId .. => dcFindChannel dc streamId = none
  | .close streamId => ∀ ch ∈ dcFindChannel dc streamId, ch.pending = .none
  | .message streamId ppid data =>
    isDcepOpen ppid data → ∀ ch ∈ dcFindChannel dc streamId, ch.pending ≠ .openMsg
  | .send _ => True

instance (dc : NanoDc) : (ev : DcEvent) → Decidable (DcOrderly dc ev)
  | .openChannel .. => inferInstanceAs (Decidable (_ = _))
  | .close _ => inferInstanceAs (Decidable (∀ ch ∈ dcFindChannel dc _, ch.pending = .none))
  | .message .. => inferInstanceAs (Decidable (_ → ∀ ch ∈ dcFindChannel dc _, ch.pending ≠ .openMsg))
  | .send _ => inferInstanceAs (Decidable True)

/-- The invariant behind the balance: live channels have streams of their own, closed channels have
nothing to send, entries belong to channels of the table. -/
structure DcInv (l : DcLedger) : Prop where
  distinct : ∀ {i j : Nat} {c c' : DcChannel}, l.table[i]? = some c → l.table[j]? = some c' →
    c.state ≠ .closed → c'.state ≠ .closed → c.streamId = c'.streamId → i = j
  closed : ∀ ch ∈ l.table, ch.state = .closed → ch.pending = .none
  places : ∀ e ∈ l.due, e.1 < l.table.length
  balanced : l.Balanced

theorem entries_append (log log' : List (Nat × DcPending)) (i : Nat) :
    entries (log ++ log') i = entries log i ++ entries log' i := by
  unfold entries
  rw [List.filter_append, List.map_append]

theorem entries_singleton_self (i : Nat) (k : DcPending) : entries [(i, k)] i = [k] := by
  simp [entries]

theorem entries_singleton_ne {i j : Nat} (h : j ≠ i) (k : DcPending) : entries [(j, k)] i = [] := by
  simp [entries, h]

theorem waitingAt_set_self {dc : NanoDc} {i : Nat} {ch : DcChannel} (h : dc[i]? = some ch)
    (c : DcChannel) : waitingAt (dc.set i c) i = dcWaiting c := by
  unfold waitingAt
  rw [List.getElem?_set_self (List.getElem?_eq_some_iff.mp h).1]
  rfl

theorem waitingAt_set_ne {dc : NanoDc} {i j : Nat} (h : i ≠ j) (c : DcChannel) :
    waitingAt (dc.set i c) j = waitingAt dc j := by
  unfold waitingAt
  rw [List.getElem?_set_ne h]

section

variable {l : DcLedger}

/-- A new live channel on a stream of its own, whose message is entered as due. -/
theorem DcInv.append (h : DcInv l) (ch : DcChannel) (hstate : ch.state ≠ .closed)
    (hfree : dcFindChannel l.table ch.streamId = none) (hpending : ch.pending ≠ .none) :
    DcInv ⟨l.table ++ [ch], l.due ++ [(l.table.length, ch.pending)], l.sent⟩ := by
  have hcases : ∀ {i : Nat} {c : DcChannel}, (l.table ++ [ch])[i]? = some c →
      l.table[i]? = some c ∨ (i = l.table.length ∧ c = ch) := by
    intro i c hi
    rcases Nat.lt_trichotomy i l.table.length with hlt | rfl | hgt
    · rw [List.getElem?_append_left hlt] at hi
      exact .inl hi
    · rw [List.getElem?_append_right (Nat.le_refl _), Nat.sub_self] at hi
      exact .inr ⟨rfl, (Option.some.inj hi).symm⟩
    · rw [List.getElem?_eq_none (by simp; omega)] at hi
      cases hi
  have hnew {i : Nat} {c : DcChannel} (hi : l.table[i]? = some c) (hc : c.state ≠ .closed) :
      c.streamId ≠ ch.streamId := by
    intro heq
    have := dcFindChannel_none hfree c (List.mem_of_getElem? hi)
    rw [isLive_iff.mpr ⟨heq, hc⟩] at this
    cases this
  constructor
  · intro i j c c' hi hj hc hc' heq
    rcases hcases hi with hi' | ⟨hi', rfl⟩
    · rcases hcases hj with hj' | ⟨hj', rfl⟩
      · exact h.distinct hi' hj' hc hc' heq
      · exact absurd heq (hnew hi' hc)
    · rcases hcases hj with hj' | ⟨hj', rfl⟩
      · exact absurd heq.symm (hnew hj' hc')
      · exact hi'.trans hj'.symm
  · intro c hc hclosed
    rcases List.mem_append.mp hc with hc | hc
    · exact h.closed c hc hclosed
    · obtain rfl := List.mem_singleton.mp hc
      exact absurd hclosed hstate
  · intro e he
    rw [List.length_append, List.length_singleton]
    rcases List.mem_append.mp he with he | he
    · have := h.places e he
      omega
    · obtain rfl := List.mem_singleton.mp he
      exact Nat.lt_succ_self _
  · intro i
    have hi := h.balanced i
    show entries (l.due ++ _) i = entries l.sent i ++ waitingAt (l.table ++ [ch]) i
    rw [entries_append, hi, List.append_assoc]
    congr 1
    by_cases hlast : i = l.table.length
    · rw [hlast, entries_singleton_self]
      simp [waitingAt, dcWaiting, hpending]
    · rw [entries_singleton_ne (Ne.symm hlast), List.append_nil]
      unfold waitingAt
      by_cases hlt : i < l.table.length
      · rw [List.getElem?_append_left hlt]
      · rw [List.getElem?_eq_none (by omega), List.getElem?_eq_none (by simp; omega)]

/-- A channel changed in place: what becomes due and what is sent make up the difference in what
waits. -/
theorem DcInv.set (h : DcInv l) {i : Nat} {ch c : DcChannel} (hi : l.table[i]? = some ch)
    (hlive : ch.state ≠ .closed) (hstream : c.streamId = ch.streamId)
    (hclosed : c.state = .closed → c.pending = .none) (due sent : List DcPending)
    (hbalance : dcWaiting ch ++ due = sent ++ dcWaiting c) :
    DcInv ⟨l.table.set i c, l.due ++ due.map (i, ·), l.sent ++ sent.map (i, ·)⟩ := by
  have hlt := (List.getElem?_eq_some_iff.mp hi).1
  -- a live channel after the change was one before, on the same stream
  have hbefore : ∀ {j : Nat} {c' : DcChannel}, (l.table.set i c)[j]? = some c' →
      c'.state ≠ .closed → ∃ b, l.table[j]? = some b ∧ b.state ≠ .closed ∧
        b.streamId = c'.streamId := by
    intro j c' hj hc'
    by_cases hij : i = j
    · subst hij
      rw [List.getElem?_set_self hlt] at hj
      obtain rfl := Option.some.inj hj
      exact ⟨ch, hi, hlive, hstream.symm⟩
    · rw [List.getElem?_set_ne hij] at hj
      exact ⟨c', hj, hc', rfl⟩
  have hown (ks : List DcPending) : entries (ks.map (i, ·)) i = ks := by
    simp [entries, List.filter_map, Function.comp_def]
  have hother {j : Nat} (hij : i ≠ j) (ks : List DcPending) : entries (ks.map (i, ·)) j = [] := by
    simp [entries, List.filter_map, Function.comp_def, hij]
  constructor
  · intro j k b b' hj hk hb hb' heq
    obtain ⟨a, ha, halive, hsa⟩ := hbefore hj hb
    obtain ⟨a', ha', halive', hsa'⟩ := hbefore hk hb'
    exact h.distinct ha ha' halive halive' (by rw [hsa, hsa', heq])
  · intro b hb hb'
    rcases List.mem_or_eq_of_mem_set hb with hmem | rfl
    · exact h.closed b hmem hb'
    · exact hclosed hb'
  · intro e he
    rw [List.length_set]
    rcases List.mem_append.mp he with he | he
    · exact h.places e he
    · obtain ⟨k, -, rfl⟩ := List.mem_map.mp he
      exact hlt
  · intro j
    have hj := h.balanced j
    show entries (l.due ++ _) j = entries (l.sent ++ _) j ++ waitingAt (l.table.set i c) j
    rw [entries_append, entries_append, hj]
    by_cases hij : i = j
    · subst hij
      have hch : waitingAt l.table i = dcWaiting ch := by
        unfold waitingAt
        rw [hi]
        rfl
      rw [hown, hown, waitingAt_set_self hi, hch, List.append_assoc, hbalance, List.append_assoc]
    · rw [hother hij, hother hij, waitingAt_set_ne hij, List.append_nil, List.append_nil]

/-- The place of the channel that is peeked. -/
theorem findIdx_pending {dc : NanoDc} {ch : DcChannel} (h : dcPendingChannel dc = some ch) :
    ∃ i, dc[i]? = some ch ∧
      dc.findIdx? (fun ch => ch.pending != .none && ch.state != .closed) = some i := by
  unfold dcPendingChannel at h
  induction dc with
  | nil => exact nomatch h
  | cons c dc ih =>
    rw [List.find?_cons] at h
    rw [List.findIdx?_cons]
    cases hc : c.pending != .none && c.state != .closed with
    | true =>
      rw [hc] at h
      obtain rfl := Option.some.inj h
      exact ⟨0, rfl, rfl⟩
    | false =>
      rw [hc] at h
      obtain ⟨i, hi, hidx⟩ := ih h
      exact ⟨i + 1, hi, by simp [hidx]⟩

/-- An event that changes nothing and enters nothing. -/
theorem DcInv.idle (h : DcInv l) {ev : DcEvent} (htable : dcStep l.table ev = l.table)
    (hdue : dcDue l.table ev = []) (hsent : dcSent l.table ev = []) : DcInv (l.step ev) := by
  unfold DcLedger.step
  rw [htable, hdue, hsent, List.append_nil, List.append_nil]
  exact h

/-- An event that changes the channel at one place. -/
theorem DcInv.change (h : DcInv l) {ev : DcEvent} {i : Nat} {ch c : DcChannel}
    (hi : l.table[i]? = some ch) (hlive : ch.state ≠ .closed) (hstream : c.streamId = ch.streamId)
    (hclosed : c.state = .closed → c.pending = .none) (due sent : List DcPending)
    (hbalance : dcWaiting ch ++ due = sent ++ dcWaiting c)
    (htable : dcStep l.table ev = l.table.set i c) (hdue : dcDue l.table ev = due.map (i, ·))
    (hsent : dcSent l.table ev = sent.map (i, ·)) : DcInv (l.step ev) := by
  unfold DcLedger.step
  rw [htable, hdue, hsent]
  exact h.set hi hlive hstream hclosed due sent hbalance

theorem DcInv.openChannel (h : DcInv l) {streamId : UInt16} (label protocol : List UInt8)
    (ordered partialReliability : Bool) (maxRetransmits : UInt16)
    (hfree : dcFindChannel l.table streamId = none) :
    DcInv (l.step
      (.openChannel streamId label protocol ordered partialReliability maxRetransmits)) := by
  rcases dcOpenOptions_cases l.table streamId label protocol ordered partialReliability
    maxRetransmits with ⟨rc, -, hrefused⟩ | ⟨ch, -, -, hopened, hch⟩
  · have hstep : dcStep l.table (.openChannel streamId label protocol ordered partialReliability
        maxRetransmits) = l.table := congrArg Prod.fst hrefused
    refine h.idle hstep ?_ rfl
    unfold dcDue
    dsimp only
    rw [hstep, if_neg (Nat.lt_irrefl _)]
  · have hstep : dcStep l.table (.openChannel streamId label protocol ordered partialReliability
        maxRetransmits) = l.table ++ [ch] := congrArg Prod.fst hopened
    have hstream : ch.streamId = streamId := by rw [hch]
    have hpending : ch.pending = .openMsg := by rw [hch]
    have hstate : ch.state = .opening := by rw [hch]
    have hnew := h.append ch (by rw [hstate]; decide) (by rw [hstream]; exact hfree)
      (by rw [hpending]; decide)
    unfold DcLedger.step dcDue dcSent
    dsimp only
    rw [hstep, if_pos (by simp), List.append_nil, ← hpending]
    exact hnew

theorem DcInv.close (h : DcInv l) {streamId : UInt16}
    (hquiet : ∀ ch, dcFindChannel l.table streamId = some ch → ch.pending = .none) :
    DcInv (l.step (.close streamId)) := by
  rcases dcUpdateChannel_cases (fun ch => { ch with state := .closed }) streamId l.table with
    ⟨-, -, hsame⟩ | ⟨i, ch, hi, hlive, hfind, -, hset⟩
  · exact h.idle hsame rfl rfl
  · have hpending := hquiet ch hfind
    apply h.change hi (isLive_iff.mp hlive).2 (c := { ch with state := .closed }) rfl
      (fun _ => hpending) [] [] _
      (show dcStep l.table (.close streamId) = _ from hset) rfl rfl
    rw [List.append_nil]
    rfl

theorem DcInv.message (h : DcInv l) {streamId : UInt16} {ppid : UInt32} {data : List UInt8}
    (hquiet : isDcepOpen ppid data →
      ∀ ch, dcFindChannel l.table streamId = some ch → ch.pending ≠ .openMsg) :
    DcInv (l.step (.message streamId ppid data)) := by
  rcases dcHandleMessage_cases l.table streamId ppid data with
    ⟨hopen, hmessage⟩ | ⟨hother, hmessage⟩
  · have hdue : dcDue l.table (.message streamId ppid data) =
        match l.table.findIdx? (·.isLive streamId) with
        | some i => if (l.table.getD i default).pending = .ack then [] else [(i, .ack)]
        | none => if l.table.length < (dcStep l.table (.message streamId ppid data)).length then
            [(l.table.length, .ack)] else [] := by
      show (if isDcepOpen ppid data = true then _ else _) = _
      rw [if_pos hopen]
    have hparse : (dcepParseOpen data).toOption.isSome := by
      unfold isDcepOpen at hopen
      exact (Bool.and_eq_true _ _ ▸ hopen).2
    rcases dcHandleOpen_cases l.table streamId data with
      ⟨rc, hrefused, hfree⟩ | ⟨-, hknown, hagain⟩ | ⟨-, hfree, ch, hstate, hstream, hpending, hnew⟩
    · -- refused: only an OPEN for a new channel is
      have hstep : dcStep l.table (.message streamId ppid data) = l.table := by
        show (dcHandleMessage l.table streamId ppid data).1 = _
        rw [hmessage, hrefused]
      refine h.idle hstep ?_ rfl
      rcases dcUpdateChannel_cases id streamId l.table with ⟨-, hidx, -⟩ | ⟨_, _, _, _, hfind, _⟩
      · rw [hdue, hidx]
        dsimp only
        rw [hstep, if_neg (Nat.lt_irrefl _)]
      · rw [hfree hparse] at hfind
        exact nomatch hfind
    · -- a known channel acknowledges again
      rcases dcUpdateChannel_cases (fun ch => { ch with pending := .ack }) streamId l.table with
        ⟨hnone, -⟩ | ⟨i, ch, hi, hlive, hfind, hidx, hset⟩
      · rw [hnone] at hknown
        exact nomatch hknown
      have hstep : dcStep l.table (.message streamId ppid data) =
          l.table.set i { ch with pending := .ack } := by
        show (dcHandleMessage l.table streamId ppid data).1 = _
        rw [hmessage, hagain]
        exact hset
      have hget : l.table.getD i default = ch := by
        rw [List.getD_eq_getElem?_getD, hi]
        rfl
      have hlive' := (isLive_iff.mp hlive).2
      rw [hidx] at hdue
      dsimp only at hdue
      rw [hget] at hdue
      by_cases hack : ch.pending = .ack
      · rw [if_pos hack] at hdue
        apply h.change hi hlive' (c := { ch with pending := .ack }) rfl
          (fun hclosed => absurd hclosed hlive') [] [] _ hstep hdue rfl
        simp [dcWaiting, hack]
      · rw [if_neg hack] at hdue
        have hnone : ch.pending = .none := by
          cases hp : ch.pending with
          | none => rfl
          | openMsg => exact absurd hp (hquiet hopen ch hfind)
          | ack => exact absurd hp hack
        apply h.change hi hlive' (c := { ch with pending := .ack }) rfl
          (fun hclosed => absurd hclosed hlive') [.ack] [] _ hstep hdue rfl
        simp [dcWaiting, hnone]
    · -- a new channel
      have hstep : dcStep l.table (.message streamId ppid data) = l.table ++ [ch] := by
        show (dcHandleMessage l.table streamId ppid data).1 = _
        rw [hmessage, hnew]
      rcases dcUpdateChannel_cases id streamId l.table with ⟨-, hidx, -⟩ | ⟨_, _, _, _, hfind, _⟩
      · rw [hidx] at hdue
        dsimp only at hdue
        rw [hstep, if_pos (by simp)] at hdue
        have happend := h.append ch (by rw [hstate]; decide) (by rw [hstream]; exact hfree)
          (by rw [hpending]; decide)
        rw [hpending] at happend
        unfold DcLedger.step
        rw [hdue, hstep]
        show DcInv ⟨_, _, l.sent ++ []⟩
        rw [List.append_nil]
        exact happend
      · rw [hfree] at hfind
        exact nomatch hfind
  · have hdue : dcDue l.table (.message streamId ppid data) = [] := by
      show (if isDcepOpen ppid data = true then _ else _) = _
      rw [if_neg (by simp [hother])]
    rcases hmessage with hsame | hack
    · exact h.idle hsame hdue rfl
    rcases dcHandleAck_cases l.table streamId with hsame | ⟨ch, hfind, -, hupdate⟩
    · exact h.idle ((congrArg Prod.fst hack).trans hsame) hdue rfl
    · rcases dcUpdateChannel_cases (fun ch => { ch with state := .isOpen }) streamId l.table with
        ⟨hnone, -⟩ | ⟨i, c, hi, hlive, -, -, hset⟩
      · rw [hnone] at hfind
        exact nomatch hfind
      · have hstep : dcStep l.table (.message streamId ppid data) =
            l.table.set i { c with state := .isOpen } := by
          show (dcHandleMessage l.table streamId ppid data).1 = _
          rw [hack, hupdate]
          exact hset
        apply h.change hi (isLive_iff.mp hlive).2 (c := { c with state := .isOpen }) rfl
          (fun hclosed => nomatch hclosed) [] [] _ hstep hdue rfl
        rw [List.append_nil]
        rfl

theorem DcInv.send (h : DcInv l) (accepted : Bool) : DcInv (l.step (.send accepted)) := by
  have hrefuse (hsame : dcSend l.table accepted = l.table)
      (hsent : dcSent l.table (.send accepted) = []) : DcInv (l.step (.send accepted)) :=
    h.idle hsame rfl hsent
  cases accepted with
  | false =>
    apply hrefuse _ rfl
    unfold dcSend
    split <;> rfl
  | true =>
    cases hpeek : dcPeekOutput l.table dcOutBufSize with
    | error rc =>
      apply hrefuse
      · unfold dcSend
        rw [hpeek]
      · unfold dcSent
        rw [hpeek]
    | ok r =>
      -- the channel that is peeked is the one that the commit finds
      obtain ⟨ch, hfirst, rfl⟩ := dcPeekOutput_ok hpeek
      obtain ⟨hpending, hlive, -⟩ := dcPendingChannel_some hfirst
      obtain ⟨i, hi, hidx⟩ := findIdx_pending hfirst
      have hstate := (isLive_iff.mp hlive).2
      have hget : l.table.getD i default = ch := by
        rw [List.getD_eq_getElem?_getD, hi]
        rfl
      have hsent : dcSent l.table (.send true) = [ch.pending].map (i, ·) := by
        unfold dcSent
        rw [hpeek, hidx]
        dsimp only
        rw [hget]
        rfl
      have hstep : dcStep l.table (.send true) =
          dcUpdateChannel (fun ch => { ch with pending := .none }) ch.streamId l.table := by
        show dcSend l.table true = _
        unfold dcSend
        rw [hpeek]
        rfl
      rcases dcUpdateChannel_cases (fun ch => { ch with pending := .none }) ch.streamId l.table with
        ⟨hnone, -⟩ | ⟨j, c, hj, hclive, -, -, hset⟩
      · have := dcFindChannel_none hnone ch (List.mem_of_getElem? hi)
        rw [hlive] at this
        exact nomatch this
      obtain ⟨hstream, hcstate⟩ := isLive_iff.mp hclive
      obtain rfl : j = i := h.distinct hj hi hcstate hstate hstream
      obtain rfl : c = ch := Option.some.inj (hj.symm.trans hi)
      apply h.change hi hstate (c := { c with pending := .none }) rfl (fun _ => rfl) []
        [c.pending] _ (hstep.trans hset) rfl hsent
      simp [dcWaiting, hpending]

/-- One event keeps the books balanced. -/
theorem DcInv.step (h : DcInv l) {ev : DcEvent} (horderly : DcOrderly l.table ev) :
    DcInv (l.step ev) := by
  cases ev with
  | openChannel streamId label protocol ordered partialReliability maxRetransmits =>
    exact h.openChannel label protocol ordered partialReliability maxRetransmits horderly
  | close streamId => exact h.close horderly
  | message streamId ppid data => exact h.message horderly
  | send accepted => exact h.send accepted

end

/-! ### Agreement -/

/-- A new table with empty books. -/
def DcLedger.fresh : DcLedger := ⟨[], [], []⟩

theorem dcInv_fresh : DcInv .fresh where
  distinct hi := nomatch hi
  closed _ h := nomatch h
  places _ h := nomatch h
  balanced _ := rfl

/-- The OPEN of a channel makes the same channel at any peer that has room and no channel on the
stream, with one ACK to send, and that ACK opens the channel; and along every run whose events are
orderly each OPEN and each ACK that became due has been sent exactly once, in order, or is the one
that waits. -/
theorem dcep_agreement (events : List DcEvent) :
    (∀ (dc : NanoDc) (streamId : UInt16) (label protocol : List UInt8)
      (ordered partialReliability : Bool) (maxRetransmits : UInt16) (dc' : NanoDc),
      dcFindChannel dc streamId = none →
      dcOpenOptions dc streamId label protocol ordered partialReliability maxRetransmits =
        (dc', .ok) →
      ∃ ch, dc' = dc ++ [ch] ∧ ch.streamId = streamId ∧ ch.ordered = ordered ∧
        ch.maxRetransmits = maxRetransmits ∧ ch.protocol = cString protocol ∧
        ch.label = (cString label).take (dcLabelSize - 1) ∧
        (∀ peer : NanoDc, peer.length < maxDatachannels → dcFindChannel peer streamId = none →
          ∃ ch', dcHandleMessage peer streamId dcepPpidControl ch.message =
              (peer ++ [ch'], .ok true) ∧
            ch' = { ch with state := .isOpen, pending := .ack } ∧
            ch'.message = [dcepDataChannelAck]) ∧
        ∃ dc'', dcHandleMessage dc' streamId dcepPpidControl [dcepDataChannelAck] =
            (dc'', .ok true) ∧
          dcFindChannel dc'' streamId = some { ch with state := .isOpen }) ∧
    (AllSteps DcLedger.step .fresh (fun l ev => DcOrderly l.table ev) events →
      (run DcLedger.step .fresh events).Balanced) := by
  constructor
  · intro dc streamId label protocol ordered partialReliability maxRetransmits dc' hfree hok
    rcases dcOpenOptions_cases dc streamId label protocol ordered partialReliability maxRetransmits
      with ⟨rc, hrc, hrefused⟩ | ⟨ch, -, -, hopened, hch⟩
    · rw [hok] at hrefused
      exact absurd (Prod.mk.inj hrefused).2.symm hrc
    obtain rfl : dc' = dc ++ [ch] := (Prod.mk.inj (hok.symm.trans hopened)).1
    have hstream : ch.streamId = streamId := by rw [hch]
    have hstate : ch.state = .opening := by rw [hch]
    have hfind : dcFindChannel (dc ++ [ch]) streamId = some ch := by
      have hlive : ch.isLive streamId = true := isLive_iff.mpr ⟨hstream, by rw [hstate]; decide⟩
      unfold dcFindChannel at hfree ⊢
      rw [List.find?_append, hfree, Option.none_or, List.find?_singleton, hlive]
      rfl
    refine ⟨ch, rfl, hstream, by rw [hch], by rw [hch], by rw [hch], by rw [hch], ?_, ?_⟩
    · intro peer hroom hnone
      exact ⟨_, dcHandleMessage_open hopened hroom hnone, rfl, rfl⟩
    · exact dcHandleMessage_ack hfind hstate
  · intro horderly
    exact (run_allSteps (P := DcInv) (fun _ _ hev h => h.step hev) horderly dcInv_fresh).balanced

/-- An OPEN of the peer for stream 0. -/
def demoOpen : List UInt8 := dcepEncodeOpen 0 0 0 [0x61] []

/-- A channel of each side, both opened, and one closed. -/
def demoChannels : List DcEvent :=
  [.openChannel 1 [0x62] [] true false 0, .message 0 dcepPpidControl demoOpen, .send true,
    .send false, .send true, .message 1 dcepPpidControl [dcepDataChannelAck], .close 0]

theorem dcep_agreement_two_channels :
    (∃ ch, (dcOpenOptions [] 1 [0x62] [] false true 3).1 = [ch] ∧
      ∃ ch', dcHandleMessage [] 1 dcepPpidControl ch.message = ([ch'], .ok true) ∧
        ch'.message = [dcepDataChannelAck]) ∧
    (run DcLedger.step .fresh demoChannels).Balanced := by
  constructor
  · obtain ⟨ch, hdc, -, -, -, -, -, hpeer, -⟩ :=
      (dcep_agreement []).1 [] 1 [0x62] [] false true 3 _ rfl rfl
    obtain ⟨ch', hopen, -, hack⟩ := hpeer [] (by decide) rfl
    exact ⟨ch, hdc, ch', hopen, hack⟩
  · exact (dcep_agreement demoChannels).2 (by
      refine ⟨?_, ?_, ?_, ?_, ?_, ?_, ?_, trivial⟩ <;> decide)

/-- The peer opens the stream that this side has just opened: the pending OPEN gives way to the
ACK and is never sent. -/
theorem simultaneous_open_loses :
    let l := run DcLedger.step .fresh
      [.openChannel 0 [0x62] [] true false 0, .message 0 dcepPpidControl demoOpen, .send true]
    entries l.due 0 = [.openMsg, .ack] ∧ entries l.sent 0 = [.ack] ∧ waitingAt l.table 0 = [] ∧
      ¬ l.Balanced := by
  intro l
  exact ⟨by decide, by decide, by decide, fun h => absurd (h 0) (by decide)⟩

end Nanortc.Spec
