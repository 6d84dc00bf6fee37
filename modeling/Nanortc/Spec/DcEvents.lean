import Nanortc.Native.Rtc
import Nanortc.Spec.DcRun

/-!
# Events of data channels

What `rtc_deliver_sctp_to_dc` tells the application. A history variable keeps the places of the
channels whose opening was reported. Openings are reported once each, and a message that is refused
leaves the table alone; but a data message raises its event whatever its stream and its PPID are.

## Key results

- `OpenedInv.step`: the open channels are those whose opening was reported
- `dcHandleMessage_error`: a message that is refused leaves the table alone
- `data_events_iff`: over every run, events are as they should be exactly when data arrives on open
  channels only
-/

namespace Nanortc.Spec

open Nanortc.ForStd Nanortc.Native

/-- A channel table and the places of the channels whose opening was reported, oldest first. -/
structure DcWatch where
  table : NanoDc
  opened : List Nat
deriving DecidableEq

/-- What delivering the message returns. -/
def dcDelivered (dc : NanoDc) : DcEvent → Except Rc (Option RtcOutput)
  | .message streamId ppid data => (rtcDeliverSctpToDc dc ⟨data, ppid, streamId⟩).2
  | _ => .ok none

/-- The place of the channel whose opening the event reports. -/
def dcReported (dc : NanoDc) (ev : DcEvent) : Option Nat :=
  match ev, dcDelivered dc ev with
  | .message streamId _ _, .ok (some (.datachannelOpen _)) =>
    (dcStep dc ev).findIdx? (·.isLive streamId)
  | _, _ => none

/-- One event, and the opening it reports. -/
def DcWatch.step (w : DcWatch) (ev : DcEvent) : DcWatch where
  table := dcStep w.table ev
  opened := w.opened ++ (dcReported w.table ev).toList

/-- The PPIDs of data. -/
def isDataPpid (ppid : UInt32) : Bool :=
  ppid == dcepPpidString || ppid == dcepPpidBinary || ppid == dcepPpidStringEmpty ||
    ppid == dcepPpidBinaryEmpty

/-- The message is for nobody: its PPID is unknown, it is a DCEP message that does not parse, or its
stream has no channel, or a closed one, that it would not open. -/
def isStray (dc : NanoDc) (streamId : UInt16) (ppid : UInt32) (data : List UInt8) : Bool :=
  if ppid = dcepPpidControl then
    !isDcepOpen ppid data &&
      (data.head? != some dcepDataChannelAck || (dcFindChannel dc streamId).isNone)
  else !isDataPpid ppid || (dcFindChannel dc streamId).isNone

/-- What is told of one event is right: data of a live channel whose opening was reported, the
opening of a channel not reported before, every opening, and nothing of a message that is for nobody
or is refused, which leaves the table alone. -/
structure DcEventSound (w : DcWatch) (ev : DcEvent) : Prop where
  data : ∀ id bytes binary, dcDelivered w.table ev = .ok (some (.datachannelData id bytes binary)) →
    ∃ i, w.table.findIdx? (·.isLive id) = some i ∧ i ∈ w.opened
  once : ∀ i, dcReported w.table ev = some i → i ∉ w.opened
  reported : ∀ i ch, (dcStep w.table ev)[i]? = some ch → ch.state = .isOpen →
    i ∈ w.opened ∨ dcReported w.table ev = some i
  stray : ∀ streamId ppid data, ev = .message streamId ppid data →
    isStray w.table streamId ppid data = true →
    dcStep w.table ev = w.table ∧ (dcDelivered w.table ev).toOption.getD none = none
  refused : ∀ rc, dcDelivered w.table ev = .error rc → dcStep w.table ev = w.table

/-- Data arrives under one of its PPIDs and on an open channel. -/
def DcEventMeets (w : DcWatch) : DcEvent → Prop
  | .message streamId ppid _ =>
    ppid = dcepPpidControl ∨
      (isDataPpid ppid = true ∧ ∃ ch, dcFindChannel w.table streamId = some ch ∧ ch.state = .isOpen)
  | _ => True

/-- The open channels are those whose opening was reported, and the others that live still wait. -/
structure OpenedInv (w : DcWatch) : Prop where
  isOpen : ∀ i ch, w.table[i]? = some ch → ch.state = .isOpen → i ∈ w.opened
  opening : ∀ i ch, w.table[i]? = some ch → ch.state = .opening → i ∉ w.opened
  places : ∀ i ∈ w.opened, i < w.table.length

/-! ### What an event does to the states -/

/-- How the state of the channel at each place changes, and which opening is reported. -/
inductive OpeningStep (dc : NanoDc) (dc' : NanoDc) : Option Nat → Prop
  | keep (h : ∀ (i : Nat) (ch' : DcChannel), dc'[i]? = some ch' → ch'.state = .closed ∨
      ∃ ch, dc[i]? = some ch ∧ ch'.state = ch.state) (hlen : dc'.length = dc.length) :
    OpeningStep dc dc' none
  | create (ch : DcChannel) (h : ch.state = .opening) (heq : dc' = dc ++ [ch]) :
    OpeningStep dc dc' none
  | accept (ch : DcChannel) (h : ch.state = .isOpen) (heq : dc' = dc ++ [ch]) :
    OpeningStep dc dc' (some dc.length)
  | acked (i : Nat) (ch : DcChannel) (hi : dc[i]? = some ch) (h : ch.state = .opening)
      (heq : dc' = dc.set i { ch with state := .isOpen }) : OpeningStep dc dc' (some i)

/-- A call that changes no state, and reports nothing. -/
theorem OpeningStep.update (f : DcChannel → DcChannel) (hf : ∀ ch, (f ch).state = ch.state ∨
    (f ch).state = .closed) (streamId : UInt16) (dc : NanoDc) :
    OpeningStep dc (dcUpdateChannel f streamId dc) none := by
  rcases dcUpdateChannel_cases f streamId dc with ⟨-, -, hsame⟩ | ⟨i, ch, hi, -, -, -, hset⟩
  · rw [hsame]
    exact .keep (fun i ch' hi => .inr ⟨ch', hi, rfl⟩) rfl
  · rw [hset]
    refine .keep (fun j ch' hj => ?_) List.length_set
    by_cases hij : i = j
    · subst hij
      rw [List.getElem?_set_self (List.getElem?_eq_some_iff.mp hi).1] at hj
      obtain rfl := Option.some.inj hj
      exact (hf ch).symm.imp_right fun h => ⟨ch, hi, h⟩
    · rw [List.getElem?_set_ne hij] at hj
      exact .inr ⟨ch', hj, rfl⟩

theorem OpeningStep.refl (dc : NanoDc) : OpeningStep dc dc none :=
  .keep (fun _ ch' hi => .inr ⟨ch', hi, rfl⟩) rfl

/-- **A message that is refused leaves the table alone.** -/
theorem dcHandleMessage_error {dc : NanoDc} {streamId : UInt16} {ppid : UInt32} {data : List UInt8}
    {rc : Rc} (h : (dcHandleMessage dc streamId ppid data).2 = .error rc) :
    (dcHandleMessage dc streamId ppid data).1 = dc := by
  rcases dcHandleMessage_cases dc streamId ppid data with ⟨-, heq⟩ | ⟨-, hsame | heq⟩
  · rw [heq] at h ⊢
    rcases dcHandleOpen_cases dc streamId data with ⟨rc', hrc, -⟩ | ⟨-, -, hrc⟩ | ⟨-, -, ch, -, -, -, hrc⟩ <;>
      rw [hrc] at h ⊢
    · nomatch h
    · nomatch h
  · exact hsame
  · rw [heq] at h ⊢
    unfold dcHandleAck at h ⊢
    split at h
    · split at h <;> nomatch h
    · nomatch h

/-- A channel found at the end of a table on whose stream nothing lived. -/
theorem findIdx?_append_live {dc : NanoDc} {streamId : UInt16} (hnone : dcFindChannel dc streamId = none)
    {ch : DcChannel} (hlive : ch.isLive streamId = true) :
    (dc ++ [ch]).findIdx? (·.isLive streamId) = some dc.length ∧
      dcFindChannel (dc ++ [ch]) streamId = some ch := by
  constructor
  · rw [List.findIdx?_append, List.findIdx?_eq_none_iff.mpr (dcFindChannel_none hnone),
      Option.none_or, List.findIdx?_cons, hlive]
    simp
  · unfold dcFindChannel at hnone ⊢
    rw [List.find?_append, hnone, Option.none_or, List.find?_cons, hlive]

/-- A live channel that is first on its stream stays so when it is replaced by a live one. -/
theorem findIdx?_set_live {dc : NanoDc} {streamId : UInt16} {i : Nat}
    (hidx : dc.findIdx? (·.isLive streamId) = some i) {ch : DcChannel}
    (hlive : ch.isLive streamId = true) :
    (dc.set i ch).findIdx? (·.isLive streamId) = some i ∧
      dcFindChannel (dc.set i ch) streamId = some ch := by
  obtain ⟨hi, -, hbefore⟩ := List.findIdx?_eq_some_iff_getElem.mp hidx
  have hset : (dc.set i ch).findIdx? (·.isLive streamId) = some i := by
    refine List.findIdx?_eq_some_iff_getElem.mpr ⟨by rwa [List.length_set], ?_, fun j hj => ?_⟩
    · rw [List.getElem_set_self]
      exact hlive
    · rw [List.getElem_set_ne (by omega)]
      exact hbefore j hj
  refine ⟨hset, ?_⟩
  rcases dcUpdateChannel_cases id streamId (dc.set i ch) with ⟨-, hnone, -⟩ | ⟨j, c, hj, -, hfind, hj', -⟩
  · rw [hset] at hnone
    nomatch hnone
  · rw [hset] at hj'
    obtain rfl := Option.some.inj hj'
    rw [List.getElem?_set_self hi] at hj
    rw [hfind, ← Option.some.inj hj]

/-- A DCEP message is an OPEN that parses, an ACK, or refused. -/
theorem dcHandleMessage_control (dc : NanoDc) (streamId : UInt16) (data : List UInt8) :
    (isDcepOpen dcepPpidControl data = true ∧
      dcHandleMessage dc streamId dcepPpidControl data = dcHandleOpen dc streamId data) ∨
    (isDcepOpen dcepPpidControl data = false ∧ data.head? = some dcepDataChannelAck ∧
      dcHandleMessage dc streamId dcepPpidControl data = dcHandleAck dc streamId) ∨
    (isDcepOpen dcepPpidControl data = false ∧ data.head? ≠ some dcepDataChannelAck ∧
      ∃ rc, dcHandleMessage dc streamId dcepPpidControl data = (dc, .error rc)) := by
  unfold dcHandleMessage isDcepOpen
  rw [if_neg (not_not_intro rfl), beq_self_eq_true]
  cases data with
  | nil => exact .inr (.inr ⟨rfl, nofun, _, rfl⟩)
  | cons type data =>
    dsimp only
    by_cases hopen : type = dcepDataChannelOpen
    · rw [if_pos hopen]
      cases hparse : dcepParseOpen (type :: data) with
      | ok o => exact .inl ⟨by simp [hopen, Except.toOption], rfl⟩
      | error rc =>
        refine .inr (.inr ⟨by simp [Except.toOption], ?_, rc, ?_⟩)
        · rw [List.head?_cons, hopen]
          decide
        · unfold dcHandleOpen
          rw [hparse]
    · rw [if_neg hopen]
      by_cases hack : type = dcepDataChannelAck
      · rw [if_pos hack]
        exact .inr (.inl ⟨by simp [hopen], by rw [hack]; rfl, rfl⟩)
      · rw [if_neg hack]
        exact .inr (.inr ⟨by simp [hopen], by simpa using hack, _, rfl⟩)

/-- An ACK finds a channel that waits for it, or does nothing. -/
theorem dcHandleAck_opening (dc : NanoDc) (streamId : UInt16) :
    dcHandleAck dc streamId = (dc, .ok false) ∨
    ∃ i ch, dc[i]? = some ch ∧ ch.isLive streamId = true ∧ ch.state = .opening ∧
      dc.findIdx? (·.isLive streamId) = some i ∧
      dcHandleAck dc streamId = (dc.set i { ch with state := .isOpen }, .ok true) := by
  unfold dcHandleAck
  rcases dcUpdateChannel_cases (fun ch => { ch with state := .isOpen }) streamId dc with
    ⟨hnone, -, -⟩ | ⟨i, ch, hi, hlive, hfind, hidx, hset⟩
  · rw [hnone]
    exact .inl rfl
  · rw [hfind]
    dsimp only
    by_cases hstate : ch.state = .opening
    · rw [if_pos hstate, hset]
      exact .inr ⟨i, ch, hi, hlive, hstate, hidx, rfl⟩
    · rw [if_neg hstate]
      exact .inl rfl

/-- What delivering a DCEP message returns. -/
theorem dcDelivered_control (dc : NanoDc) (streamId : UInt16) (data : List UInt8) :
    dcDelivered dc (.message streamId dcepPpidControl data) =
      match (dcHandleMessage dc streamId dcepPpidControl data).2 with
      | .error rc => .error rc
      | .ok opened => .ok (if opened then
          (dcFindChannel (dcHandleMessage dc streamId dcepPpidControl data).1 streamId).map
            .datachannelOpen else none) := by
  unfold dcDelivered rtcDeliverSctpToDc
  dsimp only
  generalize dcHandleMessage dc streamId dcepPpidControl data = r
  obtain ⟨dc', rc | opened⟩ := r <;> rfl

/-- What delivering a data message returns. -/
theorem dcDelivered_data (dc : NanoDc) (streamId : UInt16) {ppid : UInt32} (data : List UInt8)
    (h : ppid ≠ dcepPpidControl) :
    dcStep dc (.message streamId ppid data) = dc ∧
      ∃ bytes binary, dcDelivered dc (.message streamId ppid data) =
        .ok (some (.datachannelData streamId bytes binary)) := by
  have hhandle : dcHandleMessage dc streamId ppid data = (dc, .ok false) := by
    unfold dcHandleMessage
    rw [if_pos h]
  refine ⟨?_, ?_⟩
  · show (dcHandleMessage dc streamId ppid data).1 = dc
    rw [hhandle]
  · unfold dcDelivered rtcDeliverSctpToDc
    dsimp only
    rw [hhandle]
    dsimp only
    rw [if_neg h]
    exact ⟨_, _, rfl⟩

/-- **What an event does to the states, and what it reports.** -/
theorem dcStep_opening (dc : NanoDc) (ev : DcEvent) :
    OpeningStep dc (dcStep dc ev) (dcReported dc ev) := by
  cases ev with
  | openChannel streamId label protocol ordered partialReliability maxRetransmits =>
    rcases dcOpenOptions_cases dc streamId label protocol ordered partialReliability maxRetransmits
      with ⟨rc, -, heq⟩ | ⟨ch, -, -, heq, hch⟩
    · show OpeningStep dc (dcOpenOptions dc streamId label protocol ordered partialReliability
        maxRetransmits).1 none
      rw [heq]
      exact .refl dc
    · show OpeningStep dc (dcOpenOptions dc streamId label protocol ordered partialReliability
        maxRetransmits).1 none
      rw [heq]
      exact .create ch (by rw [hch]) rfl
  | close streamId =>
    exact OpeningStep.update (fun ch => { ch with state := .closed }) (fun _ => .inr rfl) streamId dc
  | send accepted =>
    show OpeningStep dc (dcSend dc accepted) none
    unfold dcSend
    split
    · exact .refl dc
    · split
      · exact OpeningStep.update (fun ch => { ch with pending := .none }) (fun _ => .inl rfl) _ dc
      · exact .refl dc
  | message streamId ppid data =>
    by_cases hppid : ppid = dcepPpidControl
    swap
    · obtain ⟨hsame, bytes, binary, hdata⟩ := dcDelivered_data dc streamId data hppid
      unfold dcReported
      rw [hdata, hsame]
      exact .refl dc
    subst hppid
    unfold dcReported
    rw [dcDelivered_control]
    dsimp only [dcStep]
    show OpeningStep dc (dcHandleMessage dc streamId dcepPpidControl data).1 _
    rcases dcHandleMessage_control dc streamId data with ⟨-, heq⟩ | ⟨-, -, heq⟩ | ⟨-, -, rc, heq⟩ <;>
      rw [heq]
    · rcases dcHandleOpen_cases dc streamId data with
        ⟨rc, hrc, -⟩ | ⟨-, -, hrc⟩ | ⟨-, hnone, ch, hopen, hstream, -, hrc⟩ <;> rw [hrc]
      · exact .refl dc
      · exact OpeningStep.update (fun ch => { ch with pending := .ack }) (fun _ => .inl rfl) streamId dc
      · have hlive : ch.isLive streamId = true := isLive_iff.mpr ⟨hstream, by rw [hopen]; decide⟩
        obtain ⟨hidx, hfind⟩ := findIdx?_append_live hnone hlive
        dsimp only
        rw [hfind, if_pos rfl, Option.map_some]
        dsimp only
        rw [hidx]
        exact .accept ch hopen rfl
    · rcases dcHandleAck_opening dc streamId with hrc | ⟨i, ch, hi, hlive, hopening, hidx, hrc⟩ <;> rw [hrc]
      · exact .refl dc
      · -- the channel keeps its stream and its place
        have hlive' : ({ ch with state := .isOpen } : DcChannel).isLive streamId = true :=
          isLive_iff.mpr ⟨(isLive_iff.mp hlive).1, fun h => by cases h⟩
        obtain ⟨hidx', hfind⟩ := findIdx?_set_live hidx hlive'
        dsimp only
        rw [hfind, if_pos rfl, Option.map_some]
        dsimp only
        rw [hidx']
        exact .acked i ch hi hopening rfl
    · exact .refl dc

/-! ### Every run -/

/-- **The open channels are those whose opening was reported.** -/
theorem OpenedInv.step {w : DcWatch} (h : OpenedInv w) (ev : DcEvent) : OpenedInv (w.step ev) := by
  have hopening := dcStep_opening w.table ev
  have hstep : w.step ev = ⟨dcStep w.table ev, w.opened ++ (dcReported w.table ev).toList⟩ := rfl
  rw [hstep]
  generalize dcStep w.table ev = dc' at hopening
  generalize dcReported w.table ev = r at hopening
  cases hopening with
  | keep hkeep hlen =>
    rw [Option.toList_none, List.append_nil]
    refine ⟨fun i ch hi hstate => ?_, fun i ch hi hstate => ?_, fun i hi => ?_⟩
    · cases hkeep i ch hi with
      | inl hclosed => exact absurd (hstate.symm.trans hclosed) nofun
      | inr hold =>
        obtain ⟨c, hc, heq⟩ := hold
        exact h.isOpen i c hc (heq.symm.trans hstate)
    · cases hkeep i ch hi with
      | inl hclosed => exact absurd (hstate.symm.trans hclosed) nofun
      | inr hold =>
        obtain ⟨c, hc, heq⟩ := hold
        exact h.opening i c hc (heq.symm.trans hstate)
    · show i < dc'.length
      rw [hlen]
      exact h.places i hi
  | create c hstate heq =>
    subst heq
    rw [Option.toList_none, List.append_nil]
    refine ⟨fun i ch hi hopen => ?_, fun i ch hi hop => ?_, fun i hi => ?_⟩
    · by_cases hlt : i < w.table.length
      · exact h.isOpen i ch (by rwa [List.getElem?_append_left hlt] at hi) hopen
      · rw [List.getElem?_append_right (Nat.not_lt.mp hlt)] at hi
        obtain rfl := List.mem_singleton.mp (List.mem_of_getElem? hi)
        exact absurd (hopen.symm.trans hstate) nofun
    · by_cases hlt : i < w.table.length
      · exact h.opening i ch (by rwa [List.getElem?_append_left hlt] at hi) hop
      · exact fun hmem => hlt (h.places i hmem)
    · show i < (w.table ++ [c]).length
      rw [List.length_append]
      exact Nat.lt_add_right _ (h.places i hi)
  | accept c hstate heq =>
    subst heq
    refine ⟨fun i ch hi hopen => ?_, fun i ch hi hop => ?_, fun i hi => ?_⟩
    · by_cases hlt : i < w.table.length
      · rw [List.getElem?_append_left hlt] at hi
        exact List.mem_append_left _ (h.isOpen i ch hi hopen)
      · have hlast := (List.getElem?_eq_some_iff.mp hi).1
        rw [List.length_append, List.length_singleton] at hlast
        exact List.mem_append_right _ (by rw [show i = w.table.length by omega]; exact List.mem_singleton_self _)
    · by_cases hlt : i < w.table.length
      · rw [List.getElem?_append_left hlt] at hi
        have hnot := h.opening i ch hi hop
        intro hmem
        cases List.mem_append.mp hmem with
        | inl hmem => exact hnot hmem
        | inr hmem =>
          have hnew : i = w.table.length := List.mem_singleton.mp hmem
          omega
      · rw [List.getElem?_append_right (Nat.not_lt.mp hlt)] at hi
        obtain rfl := List.mem_singleton.mp (List.mem_of_getElem? hi)
        exact absurd (hop.symm.trans hstate) nofun
    · show i < (w.table ++ [c]).length
      rw [List.length_append, List.length_singleton]
      cases List.mem_append.mp hi with
      | inl hmem => exact Nat.lt_succ_of_lt (h.places i hmem)
      | inr hmem =>
        have hnew : i = w.table.length := List.mem_singleton.mp hmem
        omega
  | acked k c hk hstate heq =>
    subst heq
    have hlt := (List.getElem?_eq_some_iff.mp hk).1
    refine ⟨fun i ch hi hopen => ?_, fun i ch hi hop => ?_, fun i hi => ?_⟩
    · by_cases hik : k = i
      · exact List.mem_append_right _ (by rw [hik]; exact List.mem_singleton_self _)
      · rw [List.getElem?_set_ne hik] at hi
        exact List.mem_append_left _ (h.isOpen i ch hi hopen)
    · by_cases hik : k = i
      · subst hik
        rw [List.getElem?_set_self hlt] at hi
        obtain rfl := Option.some.inj hi
        nomatch hop
      · rw [List.getElem?_set_ne hik] at hi
        intro hmem
        cases List.mem_append.mp hmem with
        | inl hmem => exact h.opening i ch hi hop hmem
        | inr hmem => exact hik (List.mem_singleton.mp hmem).symm
    · show i < (w.table.set k _).length
      rw [List.length_set]
      cases List.mem_append.mp hi with
      | inl hmem => exact h.places i hmem
      | inr hmem =>
        have hnew : i = k := List.mem_singleton.mp hmem
        omega

/-- Every opening is reported, and reported once. -/
theorem OpenedInv.openings {w : DcWatch} (h : OpenedInv w) (ev : DcEvent) :
    (∀ i, dcReported w.table ev = some i → i ∉ w.opened) ∧
      ∀ i ch, (dcStep w.table ev)[i]? = some ch → ch.state = .isOpen →
        i ∈ w.opened ∨ dcReported w.table ev = some i := by
  have hnext := h.step ev
  have hopening := dcStep_opening w.table ev
  constructor
  · intro i hi
    rw [hi] at hopening
    generalize dcStep w.table ev = dc' at hopening
    cases hopening with
    | accept c _ _ => exact fun hmem => absurd (h.places _ hmem) (Nat.lt_irrefl _)
    | acked _ c hk hstate _ => exact h.opening i c hk hstate
  · intro i ch hi hopen
    cases List.mem_append.mp (hnext.isOpen i ch hi hopen) with
    | inl hmem => exact .inl hmem
    | inr hmem => exact .inr (Option.mem_toList.mp hmem)

/-- A DCEP message that is for nobody does nothing. -/
theorem dcDelivered_stray {dc : NanoDc} {streamId : UInt16} {data : List UInt8}
    (h : isStray dc streamId dcepPpidControl data = true) :
    dcStep dc (.message streamId dcepPpidControl data) = dc ∧
      (dcDelivered dc (.message streamId dcepPpidControl data)).toOption.getD none = none := by
  unfold isStray at h
  rw [if_pos rfl, Bool.and_eq_true, Bool.not_eq_true', Bool.or_eq_true, bne_iff_ne,
    Option.isNone_iff_eq_none] at h
  rw [dcDelivered_control]
  show (dcHandleMessage dc streamId dcepPpidControl data).1 = dc ∧ _
  rcases dcHandleMessage_control dc streamId data with ⟨hopen, -⟩ | ⟨-, hack, heq⟩ | ⟨-, -, rc, heq⟩
  · exact absurd (h.1.symm.trans hopen) nofun
  · rw [heq]
    unfold dcHandleAck
    rw [h.2.resolve_left (not_not_intro hack)]
    exact ⟨rfl, rfl⟩
  · rw [heq]
    exact ⟨rfl, rfl⟩

theorem dcDelivered_error {dc : NanoDc} {ev : DcEvent} {rc : Rc}
    (h : dcDelivered dc ev = .error rc) : dcStep dc ev = dc := by
  cases ev with
  | message streamId ppid data =>
    by_cases hppid : ppid = dcepPpidControl
    · subst hppid
      rw [dcDelivered_control] at h
      refine @dcHandleMessage_error _ _ _ _ rc ?_
      revert h
      generalize (dcHandleMessage dc streamId dcepPpidControl data).2 = r
      intro h
      cases r with
      | error rc' => rw [Except.error.inj h]
      | ok opened => nomatch h
    · obtain ⟨-, bytes, binary, hdata⟩ := dcDelivered_data dc streamId data hppid
      rw [hdata] at h
      nomatch h
  | openChannel => nomatch h
  | close => nomatch h
  | send => nomatch h

/-- Only a data message raises a data event. -/
theorem dcDelivered_datachannelData {dc : NanoDc} {ev : DcEvent} {id : UInt16} {bytes : List UInt8}
    {binary : Bool} (h : dcDelivered dc ev = .ok (some (.datachannelData id bytes binary))) :
    ∃ ppid data, ev = .message id ppid data ∧ ppid ≠ dcepPpidControl := by
  cases ev with
  | message streamId ppid data =>
    by_cases hppid : ppid = dcepPpidControl
    · exfalso
      subst hppid
      rw [dcDelivered_control] at h
      revert h
      generalize dcHandleMessage dc streamId dcepPpidControl data = r
      intro h
      obtain ⟨dc', rc | opened⟩ := r
      · nomatch h
      · cases opened with
        | false => nomatch h
        | true =>
          dsimp only at h
          rw [if_pos rfl] at h
          cases hfind : dcFindChannel dc' streamId with
          | none => rw [hfind] at h; nomatch h
          | some ch => rw [hfind] at h; nomatch h
    · obtain ⟨-, bytes', binary', hdata⟩ := dcDelivered_data dc streamId data hppid
      rw [hdata] at h
      cases h
      exact ⟨ppid, data, rfl, hppid⟩
  | openChannel => nomatch h
  | close => nomatch h
  | send => nomatch h

/-- **One event.** What is told of it is right exactly when it is not data for a channel that is not
open. -/
theorem DcEventSound.iff {w : DcWatch} (h : OpenedInv w) (ev : DcEvent) :
    DcEventSound w ev ↔ DcEventMeets w ev := by
  obtain ⟨honce, hreported⟩ := h.openings ev
  constructor
  · intro hsound
    cases ev with
    | message streamId ppid data =>
      by_cases hppid : ppid = dcepPpidControl
      · exact .inl hppid
      obtain ⟨-, bytes, binary, hdata⟩ := dcDelivered_data w.table streamId data hppid
      obtain ⟨i, hidx, hmem⟩ := hsound.data streamId bytes binary hdata
      -- the channel lives and does not wait, since its opening was reported
      rcases dcUpdateChannel_cases id streamId w.table with
        ⟨-, hnone, -⟩ | ⟨j, ch, hj, hlive, hfind, hjdx, -⟩
      · rw [hidx] at hnone
        nomatch hnone
      rw [hidx] at hjdx
      obtain rfl := Option.some.inj hjdx
      have hopen : ch.state = .isOpen := by
        cases hstate : ch.state with
        | closed => exact absurd hstate (isLive_iff.mp hlive).2
        | opening => exact absurd hmem (h.opening i ch hj hstate)
        | isOpen => rfl
      refine .inr ⟨?_, ch, hfind, hopen⟩
      by_contra hunknown
      have hstray : isStray w.table streamId ppid data = true := by
        unfold isStray
        rw [if_neg hppid, Bool.eq_false_iff.mpr hunknown]
        rfl
      have hnone := (hsound.stray streamId ppid data rfl hstray).2
      rw [hdata] at hnone
      nomatch hnone
    | openChannel => trivial
    | close => trivial
    | send => trivial
  · intro hmeets
    refine ⟨fun id bytes binary hdata => ?_, honce, hreported, fun streamId ppid data hev hstray => ?_,
      fun rc herr => dcDelivered_error herr⟩
    · obtain ⟨ppid, data, rfl, hppid⟩ := dcDelivered_datachannelData hdata
      obtain ⟨-, ch, hfind, hopen⟩ := hmeets.resolve_left hppid
      obtain ⟨i, hi, -, hidx⟩ := dcFindChannel_some hfind
      exact ⟨i, hidx, h.isOpen i ch hi hopen⟩
    · subst hev
      by_cases hppid : ppid = dcepPpidControl
      · subst hppid
        exact dcDelivered_stray hstray
      · obtain ⟨hknown, ch, hfind, -⟩ := hmeets.resolve_left hppid
        unfold isStray at hstray
        rw [if_neg hppid, hknown, hfind] at hstray
        nomatch hstray

/-- A watch over an empty table. -/
def DcWatch.fresh : DcWatch := ⟨[], []⟩

/-- **Events of data channels.** Over every sequence of messages, local opens, closes and sends from
an empty table, what the application is told is right at every step exactly when all data arrives
under a known PPID on a channel that is open. -/
theorem data_events_iff (evs : List DcEvent) :
    AllSteps DcWatch.step .fresh DcEventSound evs ↔
      AllSteps DcWatch.step .fresh DcEventMeets evs := by
  have hrun (w : DcWatch) (h : OpenedInv w) :
      AllSteps DcWatch.step w DcEventSound evs ↔ AllSteps DcWatch.step w DcEventMeets evs := by
    induction evs generalizing w with
    | nil => exact Iff.rfl
    | cons ev evs ih => exact and_congr (DcEventSound.iff h ev) (ih (w.step ev) (h.step ev))
  exact hrun .fresh ⟨nofun, nofun, nofun⟩

/-- Data on a stream that was never opened reaches the application. -/
theorem stray_data_event : ¬AllSteps DcWatch.step .fresh DcEventSound [.message 7 51 [65]] := by
  rintro ⟨hsound, -⟩
  obtain ⟨i, hidx, -⟩ := hsound.data 7 [65] false rfl
  nomatch hidx

/-- A channel the peer opens, data on it, and its close. -/
example : AllSteps DcWatch.step .fresh DcEventMeets
    [.message 1 50 (dcepEncodeOpen 0 0 0 [0x61] []), .message 1 51 [65], .close 1] :=
  ⟨.inl rfl, .inr ⟨rfl, _, rfl, rfl⟩, trivial, trivial⟩

end Nanortc.Spec
