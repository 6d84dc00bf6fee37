import Nanortc.ForStd.Run
import Nanortc.Native.DataChannel

/-!
# Runs of a channel table

The channel table of `nano_datachannel.c` as a state machine. A channel keeps its place in the table
for good, so the place names it.

## Key results

- `dcUpdateChannel_cases`: an update touches the first live channel of its stream, if there is one
- `dcHandleOpen_cases`, `dcHandleAck_cases`, `dcOpenOptions_cases`: what each message and call does
-/

namespace Nanortc.Spec

open Nanortc.ForStd Nanortc.Native

/-- What happens to a channel table. -/
inductive DcEvent where
  | openChannel (streamId : UInt16) (label protocol : List UInt8)
      (ordered partialReliability : Bool) (maxRetransmits : UInt16)
  | close (streamId : UInt16)
  | message (streamId : UInt16) (ppid : UInt32) (data : List UInt8)
  | send (accepted : Bool)
deriving Repr, DecidableEq

/-- `nanortc_datachannel_close`, as far as the table goes. -/
def dcClose (dc : NanoDc) (streamId : UInt16) : NanoDc :=
  dcUpdateChannel (fun ch => { ch with state := .closed }) streamId dc

/-- `rtc_pump_dc_through_sctp`, as far as the table goes: SCTP accepts the message or refuses it. -/
def dcSend (dc : NanoDc) (accepted : Bool) : NanoDc :=
  match dcPeekOutput dc dcOutBufSize with
  | .error _ => dc
  | .ok (_, streamId) => if accepted then dcCommitOutput dc streamId else dc

/-- One event. -/
def dcStep (dc : NanoDc) : DcEvent → NanoDc
  | .openChannel streamId label protocol ordered partialReliability maxRetransmits =>
    (dcOpenOptions dc streamId label protocol ordered partialReliability maxRetransmits).1
  | .close streamId => dcClose dc streamId
  | .message streamId ppid data => (dcHandleMessage dc streamId ppid data).1
  | .send accepted => dcSend dc accepted

/-- The message is a DCEP OPEN that parses. -/
def isDcepOpen (ppid : UInt32) (data : List UInt8) : Bool :=
  ppid == dcepPpidControl && data.head? == some dcepDataChannelOpen &&
    (dcepParseOpen data).toOption.isSome

/-! ### Updates -/

/-- An update touches the first live channel of its stream, the one `dc_find_channel` finds. -/
theorem dcUpdateChannel_cases (f : DcChannel → DcChannel) (streamId : UInt16) (dc : NanoDc) :
    (dcFindChannel dc streamId = none ∧ dc.findIdx? (·.isLive streamId) = none ∧
      dcUpdateChannel f streamId dc = dc) ∨
    ∃ i ch, dc[i]? = some ch ∧ ch.isLive streamId ∧ dcFindChannel dc streamId = some ch ∧
      dc.findIdx? (·.isLive streamId) = some i ∧ dcUpdateChannel f streamId dc = dc.set i (f ch) := by
  unfold dcFindChannel
  induction dc with
  | nil => exact .inl ⟨rfl, rfl, rfl⟩
  | cons c dc ih =>
    unfold dcUpdateChannel
    cases hlive : c.isLive streamId with
    | true =>
      refine .inr ⟨0, c, rfl, hlive, ?_, ?_, rfl⟩
      · rw [List.find?_cons, hlive]
      · rw [List.findIdx?_cons, hlive]
        rfl
    | false =>
      rw [List.find?_cons, List.findIdx?_cons, hlive]
      rcases ih with ⟨hfind, hidx, hsame⟩ | ⟨i, ch, hi, hch, hfind, hidx, hset⟩
      · exact .inl ⟨hfind, by simp [hidx], by simp [hsame]⟩
      · exact .inr ⟨i + 1, ch, hi, hch, hfind, by simp [hidx], by simp [hset]⟩

/-- The channel found has a place in the table. -/
theorem dcFindChannel_some {dc : NanoDc} {streamId : UInt16} {ch : DcChannel}
    (h : dcFindChannel dc streamId = some ch) :
    ∃ i, dc[i]? = some ch ∧ ch.isLive streamId ∧ dc.findIdx? (·.isLive streamId) = some i := by
  rcases dcUpdateChannel_cases id streamId dc with ⟨hnone, -⟩ | ⟨i, c, hi, hlive, hfind, hidx, -⟩
  · rw [hnone] at h
    exact nomatch h
  · rw [hfind] at h
    obtain rfl := Option.some.inj h
    exact ⟨i, hi, hlive, hidx⟩

theorem dcFindChannel_none {dc : NanoDc} {streamId : UInt16}
    (h : dcFindChannel dc streamId = none) : ∀ ch ∈ dc, ch.isLive streamId = false := by
  intro ch hch
  simpa using List.find?_eq_none.mp h ch hch

theorem isLive_iff {ch : DcChannel} {streamId : UInt16} :
    ch.isLive streamId = true ↔ ch.streamId = streamId ∧ ch.state ≠ .closed := by
  unfold DcChannel.isLive
  rw [Bool.and_eq_true, beq_iff_eq, bne_iff_ne]

/-! ### Calls and messages -/

/-- `dc_open_options` refuses, or appends a channel whose OPEN waits. -/
theorem dcOpenOptions_cases (dc : NanoDc) (streamId : UInt16) (label protocol : List UInt8)
    (ordered partialReliability : Bool) (maxRetransmits : UInt16) :
    (∃ rc, rc ≠ .ok ∧ dcOpenOptions dc streamId label protocol ordered partialReliability
      maxRetransmits = (dc, rc)) ∨
    ∃ ch : DcChannel, dc.length < maxDatachannels ∧ (cString protocol).length < dcLabelSize ∧
      dcOpenOptions dc streamId label protocol ordered partialReliability maxRetransmits =
        (dc ++ [ch], .ok) ∧
      ch = {
        state := .opening
        streamId := streamId
        label := (cString label).take (dcLabelSize - 1)
        protocol := cString protocol
        channelType := (if partialReliability then dcepChannelRexmit else 0) |||
          if ordered then 0 else 0x80
        ordered := ordered
        maxRetransmits := maxRetransmits
        pending := .openMsg } := by
  unfold dcOpenOptions
  split
  · exact .inl ⟨.bufferTooSmall, by decide, rfl⟩
  split
  · exact .inl ⟨.bufferTooSmall, by decide, rfl⟩
  · exact .inr ⟨_, by omega, by omega, rfl, rfl⟩

/-- An OPEN is refused, has a known channel acknowledge again, or appends an open channel that
acknowledges. -/
theorem dcHandleOpen_cases (dc : NanoDc) (streamId : UInt16) (data : List UInt8) :
    (∃ rc, dcHandleOpen dc streamId data = (dc, .error rc) ∧
      ((dcepParseOpen data).toOption.isSome → dcFindChannel dc streamId = none)) ∨
    ((dcepParseOpen data).toOption.isSome ∧ (dcFindChannel dc streamId).isSome ∧
      dcHandleOpen dc streamId data =
        (dcUpdateChannel (fun ch => { ch with pending := .ack }) streamId dc, .ok false)) ∨
    ((dcepParseOpen data).toOption.isSome ∧ dcFindChannel dc streamId = none ∧
      ∃ ch : DcChannel, ch.state = .isOpen ∧ ch.streamId = streamId ∧ ch.pending = .ack ∧
        dcHandleOpen dc streamId data = (dc ++ [ch], .ok true)) := by
  unfold dcHandleOpen
  cases hparse : dcepParseOpen data with
  | error rc => exact .inl ⟨rc, rfl, nofun⟩
  | ok o =>
    dsimp only
    cases hfind : dcFindChannel dc streamId with
    | some ch => exact .inr (.inl ⟨rfl, rfl, rfl⟩)
    | none =>
      rw [if_neg (by simp)]
      split
      · exact .inl ⟨_, rfl, fun _ => rfl⟩
      split
      · exact .inl ⟨_, rfl, fun _ => rfl⟩
      split
      · exact .inl ⟨_, rfl, fun _ => rfl⟩
      · exact .inr (.inr ⟨rfl, rfl, _, rfl, rfl, rfl, rfl⟩)

/-- An ACK changes nothing but the state of the channel it belongs to, from OPENING to OPEN. -/
theorem dcHandleAck_cases (dc : NanoDc) (streamId : UInt16) :
    (dcHandleAck dc streamId).1 = dc ∨
    ∃ ch, dcFindChannel dc streamId = some ch ∧ ch.state = .opening ∧
      dcHandleAck dc streamId =
        (dcUpdateChannel (fun ch => { ch with state := .isOpen }) streamId dc, .ok true) := by
  unfold dcHandleAck
  split
  · rename_i ch hfind
    split
    · rename_i hstate
      exact .inr ⟨ch, hfind, hstate, rfl⟩
    · exact .inl rfl
  · exact .inl rfl

/-- A message is an OPEN that parses, an ACK, or leaves the table alone. -/
theorem dcHandleMessage_cases (dc : NanoDc) (streamId : UInt16) (ppid : UInt32)
    (data : List UInt8) :
    (isDcepOpen ppid data = true ∧
      dcHandleMessage dc streamId ppid data = dcHandleOpen dc streamId data) ∨
    (isDcepOpen ppid data = false ∧
      ((dcHandleMessage dc streamId ppid data).1 = dc ∨
        dcHandleMessage dc streamId ppid data = dcHandleAck dc streamId)) := by
  unfold dcHandleMessage isDcepOpen
  by_cases hppid : ppid = dcepPpidControl
  swap
  · rw [if_pos hppid]
    exact .inr ⟨by simp [hppid], .inl rfl⟩
  rw [if_neg (not_not.mpr hppid), beq_iff_eq.mpr hppid]
  cases data with
  | nil => exact .inr ⟨rfl, .inl rfl⟩
  | cons type data =>
    dsimp only
    by_cases hopen : type = dcepDataChannelOpen
    · rw [if_pos hopen]
      cases hparse : (dcepParseOpen (type :: data)).toOption.isSome with
      | true => exact .inl ⟨by simp [hopen], rfl⟩
      | false =>
        refine .inr ⟨by simp, .inl ?_⟩
        unfold dcHandleOpen
        cases hp : dcepParseOpen (type :: data) with
        | error rc => rfl
        | ok o =>
          rw [hp] at hparse
          exact nomatch hparse
    · rw [if_neg hopen]
      refine .inr ⟨by simp [hopen], ?_⟩
      split
      · exact .inr rfl
      · exact .inl rfl

/-- The channel whose message `dc_peek_output` offers. -/
theorem dcPendingChannel_some {dc : NanoDc} {ch : DcChannel} (h : dcPendingChannel dc = some ch) :
    ch.pending ≠ .none ∧ ch.isLive ch.streamId ∧ ch ∈ dc := by
  have hp := List.find?_some h
  rw [Bool.and_eq_true, bne_iff_ne, bne_iff_ne] at hp
  exact ⟨hp.1, isLive_iff.mpr ⟨rfl, hp.2⟩, List.mem_of_find?_eq_some h⟩

/-- What `dc_peek_output` offers is the message of a channel that waits. -/
theorem dcPeekOutput_ok {dc : NanoDc} {n : Nat} {r : List UInt8 × UInt16}
    (h : dcPeekOutput dc n = .ok r) :
    ∃ ch, dcPendingChannel dc = some ch ∧ r = (ch.message, ch.streamId) := by
  unfold dcPeekOutput at h
  split at h
  · exact nomatch h
  rename_i ch hpending
  split at h
  · exact nomatch h
  · exact ⟨ch, hpending, (Except.ok.inj h).symm⟩

end Nanortc.Spec
