import Mathlib
import Nanortc.ForStd.Outputs
import Nanortc.Spec.SrtpRollover

/-!
# Calls on one SRTP context

`nano_srtp_protect` and `nano_srtp_unprotect` share one table of rollover states. While the table
has room for every SSRC it is asked for, it is a map from SSRCs to rollover states, and a call sees
the state of its own SSRC only.

## Key results

- `srtpCall_keyed`: with room in the table a call is a step of the keyed machine
- `srtp_noninterference`: with room, and no SSRC both sent and received, calls do not interfere
- `forged_packets_interfere`: without room they do
-/

namespace Nanortc.Spec

open Nanortc.ForStd Nanortc.Native

/-! ### Calls -/

/-- A call on the RTP paths of a context. -/
inductive SrtpOp where
  | protect (packet : List UInt8)
  | unprotect (packet : List UInt8)
deriving Repr, DecidableEq

/-- The packet the call is given. -/
def SrtpOp.packet : SrtpOp → List UInt8
  | .protect packet => packet
  | .unprotect packet => packet

/-- The call sends. -/
def SrtpOp.isProtect : SrtpOp → Bool
  | .protect _ => true
  | .unprotect _ => false

/-- The call and its result. -/
def srtpCall (crypto : CryptoProvider) (srtp : NanoSrtp) : SrtpOp → NanoSrtp × Except Rc SrtpPacket
  | .protect packet => nanoSrtpProtect crypto srtp packet
  | .unprotect packet => nanoSrtpUnprotect crypto srtp packet

/-- The header length that the call parses before it looks the SSRC up. -/
def SrtpOp.header : SrtpOp → Except Rc Nat
  | .protect packet =>
    if packet.length < rtpHeaderSize then .error .invalidParam
    else srtpParseHdrLen packet packet.length
  | .unprotect packet =>
    if packet.length < rtpHeaderSize + srtpAuthTagSize then .error .invalidParam
    else srtpParseHdrLen packet (packet.length - srtpAuthTagSize)

/-- The SSRC that the call looks up; a packet without a whole header is refused before. -/
def SrtpOp.ssrc? (op : SrtpOp) : Option UInt32 :=
  op.header.toOption.map fun _ => readU32be op.packet 8

/-- The call refuses a packet of the peer. -/
def RefusedPacket (crypto : CryptoProvider) (srtp : NanoSrtp) (op : SrtpOp) : Prop :=
  op.isProtect = false ∧ (srtpCall crypto srtp op).2.toOption = none

instance (crypto : CryptoProvider) (srtp : NanoSrtp) (op : SrtpOp) :
    Decidable (RefusedPacket crypto srtp op) := inferInstanceAs (Decidable (_ ∧ _))

/-! ### One slot -/

/-- What `nano_srtp_protect` makes of the rollover state it finds. -/
def slotProtect (crypto : CryptoProvider) (keys : NanoSrtp) (ss : SsrcState) (hdrLen : Nat)
    (packet : List UInt8) : SsrcState × Except Rc SrtpPacket :=
  let seq := readU16be packet 2
  let index := packetIndex ss.roc seq
  match srtpCipherPayload crypto keys.sendKey keys.sendSalt packet hdrLen (readU32be packet 8)
      index with
  | .error e => (ss, .error e)
  | .ok body =>
    let tag := crypto.hmacSha1_80 keys.sendAuthKey (body ++ u32be ss.roc)
    let roc := if seq = 0xFFFF then ss.roc + 1 else ss.roc
    ({ ss with roc := roc, seqMax := seq }, .ok ⟨index, body ++ tag⟩)

/-- What `nano_srtp_unprotect` makes of the rollover state it finds. -/
def slotUnprotect (crypto : CryptoProvider) (keys : NanoSrtp) (ss : SsrcState) (hdrLen : Nat)
    (packet : List UInt8) : SsrcState × Except Rc SrtpPacket :=
  let seq := readU16be packet 2
  let estRoc := srtpEstimateRoc ss seq
  let index := packetIndex estRoc seq
  let srtpLen := packet.length - srtpAuthTagSize
  let body := packet.take srtpLen
  let computedTag := crypto.hmacSha1_80 keys.recvAuthKey (body ++ u32be estRoc)
  if ctDiff (packet.drop srtpLen) computedTag ≠ 0 then (ss, .error .crypto)
  else
    match srtpCipherPayload crypto keys.recvKey keys.recvSalt body hdrLen (readU32be packet 8)
        index with
    | .error e => (ss, .error e)
    | .ok body => (srtpUpdateSeq ss estRoc seq, .ok ⟨index, body⟩)

/-- What a call makes of the rollover state of its SSRC, and its result; only the keys of the
context are read. -/
def slotCall (crypto : CryptoProvider) (keys : NanoSrtp) (ss : SsrcState) (op : SrtpOp) :
    SsrcState × Except Rc SrtpPacket :=
  if !keys.ready then (ss, .error .invalidParam)
  else
    match op.header with
    | .error e => (ss, .error e)
    | .ok hdrLen =>
      match op with
      | .protect packet => slotProtect crypto keys ss hdrLen packet
      | .unprotect packet => slotUnprotect crypto keys ss hdrLen packet

/-- The component a call works on: its SSRC's, or one for the calls of its kind that are refused
before. -/
def SrtpOp.key (op : SrtpOp) : UInt32 ⊕ Bool :=
  match op.ssrc? with
  | some ssrc => .inl ssrc
  | none => .inr op.isProtect

/-- A refused packet leaves the rollover state alone. -/
theorem slotCall_refused {crypto : CryptoProvider} {keys : NanoSrtp} {ss : SsrcState} {op : SrtpOp}
    (h : (slotCall crypto keys ss op).2.toOption = none) : (slotCall crypto keys ss op).1 = ss := by
  unfold slotCall at h ⊢
  split
  · rfl
  rename_i hready
  rw [if_neg hready] at h
  cases hheader : op.header with
  | error e => rfl
  | ok hdrLen =>
    rw [hheader] at h
    cases op with
    | protect packet =>
      dsimp only at h ⊢
      unfold slotProtect at h ⊢
      dsimp only at h ⊢
      split
      · rfl
      · rename_i hcipher
        rw [hcipher] at h
        exact nomatch h
    | unprotect packet =>
      dsimp only at h ⊢
      unfold slotUnprotect at h ⊢
      dsimp only at h ⊢
      split
      · rfl
      rename_i htag
      rw [if_neg htag] at h
      split
      · rfl
      · rename_i hcipher
        rw [hcipher] at h
        exact nomatch h

/-! ### The table as a map -/

/-- The table stands for the rollover states `m` of the SSRCs in `S`, for which it has room. -/
structure Tabulates (S : Finset UInt32) (states : List SsrcState) (m : UInt32 → SsrcState) :
    Prop where
  room : S.card ≤ states.length
  known : ∀ s ∈ states, s.active → s.ssrc ∈ S ∧ m s.ssrc = s
  distinct : ∀ {i j : Nat} {s s' : SsrcState}, states[i]? = some s → states[j]? = some s' →
    s.active → s'.active → s.ssrc = s'.ssrc → i = j
  fresh : ∀ ssrc, (∀ s ∈ states, ¬ s.holds ssrc) → m ssrc = slotAt ssrc 0

theorem holds_iff {ssrc : UInt32} {s : SsrcState} : s.holds ssrc ↔ s.active ∧ s.ssrc = ssrc := by
  unfold SsrcState.holds
  rw [Bool.and_eq_true, beq_iff_eq]

/-- The rollover state of an SSRC belongs to it. -/
theorem Tabulates.holds {S : Finset UInt32} {states : List SsrcState} {m : UInt32 → SsrcState}
    (h : Tabulates S states m) (ssrc : UInt32) : (m ssrc).holds ssrc := by
  by_cases hfree : ∀ s ∈ states, ¬ s.holds ssrc
  · rw [h.fresh ssrc hfree]
    exact holds_iff.mpr ⟨rfl, rfl⟩
  · push Not at hfree
    obtain ⟨s, hs, hheld⟩ := hfree
    obtain ⟨hactive, hssrc⟩ := holds_iff.mp hheld
    have := (h.known s hs hactive).2
    rw [hssrc] at this
    rw [this]
    exact hheld

/-- A slot that is free, or already that of the SSRC, takes a new rollover state of it. -/
theorem Tabulates.set {S : Finset UInt32} {states : List SsrcState} {m : UInt32 → SsrcState}
    (h : Tabulates S states m) {ssrc : UInt32} (hssrc : ssrc ∈ S) {i : Nat} (hi : i < states.length)
    (huniq : ∀ (j : Nat) (s : SsrcState), states[j]? = some s → s.holds ssrc → j = i)
    (hold : ∀ s, states[i]? = some s → s.active → s.ssrc = ssrc) {new : SsrcState}
    (hnew : new.holds ssrc) :
    Tabulates S (states.set i new) (Function.update m ssrc new) := by
  obtain ⟨hactive, hown⟩ := holds_iff.mp hnew
  have hcases : ∀ {j : Nat} {s : SsrcState}, (states.set i new)[j]? = some s →
      (j = i ∧ s = new) ∨ (j ≠ i ∧ states[j]? = some s) := by
    intro j s hj
    by_cases hji : j = i
    · rw [hji, List.getElem?_set_self hi] at hj
      exact .inl ⟨hji, (Option.some.inj hj).symm⟩
    · rw [List.getElem?_set_ne (Ne.symm hji)] at hj
      exact .inr ⟨hji, hj⟩
  have hother : ∀ {j : Nat} {s : SsrcState}, j ≠ i → states[j]? = some s → s.active →
      s.ssrc ≠ ssrc := by
    intro j s hji hj hact hs
    exact hji (huniq j s hj (holds_iff.mpr ⟨hact, hs⟩))
  constructor
  · rw [List.length_set]
    exact h.room
  · intro s hs hact
    obtain ⟨j, hj⟩ := List.mem_iff_getElem?.mp hs
    rcases hcases hj with ⟨-, rfl⟩ | ⟨hji, hj⟩
    · rw [hown, Function.update_self]
      exact ⟨hssrc, rfl⟩
    · rw [Function.update_of_ne (hother hji hj hact)]
      exact h.known s (List.mem_of_getElem? hj) hact
  · intro j k s s' hj hk hact hact' heq
    rcases hcases hj with ⟨hji, rfl⟩ | ⟨hji, hj'⟩
    · rcases hcases hk with ⟨hki, -⟩ | ⟨hki, hk'⟩
      · exact hji.trans hki.symm
      · exact absurd (heq.symm.trans hown) (hother hki hk' hact')
    · rcases hcases hk with ⟨hki, rfl⟩ | ⟨-, hk'⟩
      · exact absurd (heq.trans hown) (hother hji hj' hact)
      · exact h.distinct hj' hk' hact hact' heq
  · intro ssrc' hfree
    have hne : ssrc' ≠ ssrc := by
      intro heq
      refine hfree new (List.mem_iff_getElem?.mpr ⟨i, List.getElem?_set_self hi⟩) ?_
      rw [heq]
      exact hnew
    rw [Function.update_of_ne hne]
    apply h.fresh
    intro s hs hheld
    obtain ⟨j, hj⟩ := List.mem_iff_getElem?.mp hs
    obtain ⟨hact, hs'⟩ := holds_iff.mp hheld
    by_cases hji : j = i
    · exact hne (hs'.symm.trans (hold s (hji ▸ hj) hact))
    · refine hfree s (List.mem_iff_getElem?.mpr ⟨j, ?_⟩) hheld
      rw [List.getElem?_set_ne (Ne.symm hji)]
      exact hj

/-- An SSRC without a slot finds a free one: otherwise the slots would belong to as many other
SSRCs. -/
theorem Tabulates.free {S : Finset UInt32} {states : List SsrcState} {m : UInt32 → SsrcState}
    (h : Tabulates S states m) {ssrc : UInt32} (hssrc : ssrc ∈ S)
    (hnone : ∀ s ∈ states, ¬ s.holds ssrc) : ∃ s ∈ states, s.active = false := by
  by_contra hfull
  push Not at hfull
  have hact (i : Nat) (hi : i < states.length) : (states[i]).active := by
    simpa using hfull _ (List.getElem_mem hi)
  have hcard : (Finset.univ : Finset (Fin states.length)).card ≤ (S.erase ssrc).card := by
    apply Finset.card_le_card_of_injOn fun i => (states[i]).ssrc
    · intro i _
      have hmem := List.getElem_mem i.isLt
      rw [Finset.mem_coe, Finset.mem_erase]
      exact ⟨fun heq => hnone _ hmem (holds_iff.mpr ⟨hact i i.isLt, heq⟩),
        (h.known _ hmem (hact i i.isLt)).1⟩
    · intro i _ j _ heq
      exact Fin.ext (h.distinct (List.getElem?_eq_getElem i.isLt) (List.getElem?_eq_getElem j.isLt)
        (hact i i.isLt) (hact j j.isLt) heq)
  rw [Finset.card_univ, Fintype.card_fin, Finset.card_erase_of_mem hssrc] at hcard
  have := h.room
  have := Finset.card_pos.mpr ⟨ssrc, hssrc⟩
  omega

/-- The lookup of an SSRC in `S` yields its rollover state, and what is written back becomes it. -/
theorem Tabulates.lookup {S : Finset UInt32} {states : List SsrcState} {m : UInt32 → SsrcState}
    (h : Tabulates S states m) {ssrc : UInt32} (hssrc : ssrc ∈ S) (cache : Int) :
    ∃ i states' cache', srtpGetSsrcState states ssrc cache = some (i, states', cache') ∧
      states'.getD i default = m ssrc ∧ Tabulates S states' m ∧
      ∀ new, new.holds ssrc → Tabulates S (states'.set i new) (Function.update m ssrc new) := by
  have hfound (i : Nat) (s : SsrcState) (hi : states[i]? = some s) (hs : s.holds ssrc)
      (cache' : Int) (hget : srtpGetSsrcState states ssrc cache = some (i, states, cache')) :
      ∃ i states' cache', srtpGetSsrcState states ssrc cache = some (i, states', cache') ∧
        states'.getD i default = m ssrc ∧ Tabulates S states' m ∧
        ∀ new, new.holds ssrc → Tabulates S (states'.set i new) (Function.update m ssrc new) := by
    obtain ⟨hactive, hown⟩ := holds_iff.mp hs
    refine ⟨i, states, cache', hget, ?_, h, fun new hnew => ?_⟩
    · rw [List.getD_eq_getElem?_getD, hi, ← hown]
      exact ((h.known s (List.mem_of_getElem? hi) hactive).2).symm
    · apply h.set hssrc (List.getElem?_eq_some_iff.mp hi).1
      · intro j s' hj hs'
        obtain ⟨hactive', hown'⟩ := holds_iff.mp hs'
        exact h.distinct hj hi hactive' hactive (hown'.trans hown.symm)
      · intro s' hs' _
        rw [hi] at hs'
        exact Option.some.inj hs' ▸ hown
      · exact hnew
  by_cases hcache : 0 ≤ cache ∧ (states[cache.toNat]?).any (SsrcState.holds ssrc)
  · obtain ⟨s, hs, hheld⟩ := (Option.any_eq_true _ _).mp hcache.2
    apply hfound cache.toNat s hs hheld cache
    unfold srtpGetSsrcState
    rw [if_pos hcache]
  cases hfind : states.findIdx? (SsrcState.holds ssrc) with
  | some i =>
    obtain ⟨hlt, hheld, -⟩ := List.findIdx?_eq_some_iff_getElem.mp hfind
    apply hfound i states[i] (List.getElem?_eq_getElem hlt) hheld i
    unfold srtpGetSsrcState
    rw [if_neg hcache, hfind]
  | none =>
    have hnone : ∀ s ∈ states, ¬ s.holds ssrc := by
      intro s hs
      simpa using List.findIdx?_eq_none_iff.mp hfind s hs
    obtain ⟨s, hs, hfree⟩ := h.free hssrc hnone
    cases hclaim : states.findIdx? (fun s => !s.active) with
    | none =>
      have := List.findIdx?_eq_none_iff.mp hclaim s hs
      simp [hfree] at this
    | some i =>
      obtain ⟨hlt, hidle, -⟩ := List.findIdx?_eq_some_iff_getElem.mp hclaim
      have hfresh : (slotAt ssrc 0).holds ssrc := holds_iff.mpr ⟨rfl, rfl⟩
      have huniq (j : Nat) (s : SsrcState) (hj : states[j]? = some s) (hs : s.holds ssrc) :
          j = i := absurd hs (hnone s (List.mem_of_getElem? hj))
      have hold (s : SsrcState) (hi : states[i]? = some s) (hact : s.active) : s.ssrc = ssrc := by
        rw [List.getElem?_eq_getElem hlt] at hi
        rw [Option.some.inj hi] at hidle
        simp [hact] at hidle
      refine ⟨i, states.set i (slotAt ssrc 0), i, ?_, ?_, ?_, fun new hnew => ?_⟩
      · unfold srtpGetSsrcState
        rw [if_neg hcache, hfind, hclaim]
        rfl
      · rw [List.getD_eq_getElem?_getD, List.getElem?_set_self hlt, h.fresh ssrc hnone]
        rfl
      · have hset := h.set hssrc hlt huniq hold hfresh
        rwa [← h.fresh ssrc hnone, Function.update_eq_self, h.fresh ssrc hnone] at hset
      · rw [List.set_set]
        exact h.set hssrc hlt huniq hold hnew

/-! ### Calls as steps of a keyed machine -/

/-- The context has the keys of `keys`, and its table stands for the components `m`. -/
structure Agrees (S : Finset UInt32) (keys srtp : NanoSrtp) (m : UInt32 ⊕ Bool → SsrcState) :
    Prop where
  same : SameKeys keys srtp
  table : Tabulates S srtp.ssrcStates fun ssrc => m (.inl ssrc)

section

variable {S : Finset UInt32} {keys srtp : NanoSrtp} {m : UInt32 ⊕ Bool → SsrcState}

/-- The component of one SSRC, replaced. -/
theorem update_inl (m : UInt32 ⊕ Bool → SsrcState) (ssrc : UInt32) (new : SsrcState) :
    (fun s => Function.update m (.inl ssrc) new (.inl s)) =
      Function.update (fun s => m (.inl s)) ssrc new := by
  funext s
  by_cases hs : s = ssrc
  · rw [hs, Function.update_self, Function.update_self]
  · rw [Function.update_of_ne hs, Function.update_of_ne fun h => hs (Sum.inl.inj h)]

theorem slotCall_holds {crypto : CryptoProvider} {ss : SsrcState} {ssrc : UInt32} (op : SrtpOp)
    (h : ss.holds ssrc) : (slotCall crypto keys ss op).1.holds ssrc := by
  unfold slotCall
  split
  · exact h
  split
  · exact h
  cases op with
  | protect packet =>
    dsimp only
    unfold slotProtect
    dsimp only
    split <;> exact h
  | unprotect packet =>
    dsimp only
    unfold slotUnprotect
    dsimp only
    split
    · exact h
    split
    · exact h
    · show (srtpUpdateSeq ss _ _).holds ssrc
      unfold srtpUpdateSeq
      split <;> exact h

/-- No call changes a key. -/
theorem srtpCall_sameKeys (crypto : CryptoProvider) (srtp : NanoSrtp) (op : SrtpOp) :
    SameKeys srtp (srtpCall crypto srtp op).1 := by
  have hsame (states : List SsrcState) (sent received : Int) :
      SameKeys srtp { srtp with
        ssrcStates := states, lastSendIdx := sent, lastRecvIdx := received } :=
    ⟨rfl, rfl, rfl, rfl, rfl, rfl, rfl⟩
  cases op with
  | protect packet =>
    unfold srtpCall nanoSrtpProtect
    dsimp only
    repeat' split
    all_goals exact hsame _ _ _
  | unprotect packet =>
    unfold srtpCall nanoSrtpUnprotect
    dsimp only
    repeat' split
    all_goals exact hsame _ _ _

/-- `nano_srtp_protect` behind the lookup. -/
theorem nanoSrtpProtect_looked_up {crypto : CryptoProvider} (hsame : SameKeys keys srtp)
    (hready : srtp.ready = true) {packet : List UInt8} {hdrLen : Nat}
    (hheader : (SrtpOp.protect packet).header = .ok hdrLen) {i : Nat} {states' : List SsrcState}
    {cache' : Int}
    (hget : srtpGetSsrcState srtp.ssrcStates (readU32be packet 8) srtp.lastSendIdx =
      some (i, states', cache')) :
    (nanoSrtpProtect crypto srtp packet).2 =
        (slotProtect crypto keys (states'.getD i default) hdrLen packet).2 ∧
      ((nanoSrtpProtect crypto srtp packet).1.ssrcStates = states' ∧
          (slotProtect crypto keys (states'.getD i default) hdrLen packet).1 =
            states'.getD i default ∨
        (nanoSrtpProtect crypto srtp packet).1.ssrcStates = states'.set i
          (slotProtect crypto keys (states'.getD i default) hdrLen packet).1) := by
  unfold SrtpOp.header at hheader
  dsimp only at hheader
  split at hheader
  · exact nomatch hheader
  rename_i hlen
  unfold nanoSrtpProtect slotProtect
  rw [if_neg (by simp [hready]), if_neg hlen]
  dsimp only
  rw [hheader]
  dsimp only
  rw [hget]
  dsimp only
  rw [hsame.sendKey, hsame.sendSalt, hsame.sendAuthKey]
  cases srtpCipherPayload crypto keys.sendKey keys.sendSalt packet hdrLen (readU32be packet 8)
      (packetIndex (states'.getD i default).roc (readU16be packet 2)) with
  | error e => exact ⟨rfl, .inl ⟨rfl, rfl⟩⟩
  | ok body => exact ⟨rfl, .inr rfl⟩

/-- `nano_srtp_unprotect` behind the lookup. -/
theorem nanoSrtpUnprotect_looked_up {crypto : CryptoProvider} (hsame : SameKeys keys srtp)
    (hready : srtp.ready = true) {packet : List UInt8} {hdrLen : Nat}
    (hheader : (SrtpOp.unprotect packet).header = .ok hdrLen) {i : Nat} {states' : List SsrcState}
    {cache' : Int}
    (hget : srtpGetSsrcState srtp.ssrcStates (readU32be packet 8) srtp.lastRecvIdx =
      some (i, states', cache')) :
    (nanoSrtpUnprotect crypto srtp packet).2 =
        (slotUnprotect crypto keys (states'.getD i default) hdrLen packet).2 ∧
      ((nanoSrtpUnprotect crypto srtp packet).1.ssrcStates = states' ∧
          (slotUnprotect crypto keys (states'.getD i default) hdrLen packet).1 =
            states'.getD i default ∨
        (nanoSrtpUnprotect crypto srtp packet).1.ssrcStates = states'.set i
          (slotUnprotect crypto keys (states'.getD i default) hdrLen packet).1) := by
  unfold SrtpOp.header at hheader
  dsimp only at hheader
  split at hheader
  · exact nomatch hheader
  rename_i hlen
  unfold nanoSrtpUnprotect slotUnprotect
  rw [if_neg (by simp [hready]), if_neg hlen]
  dsimp only
  rw [hheader]
  dsimp only
  rw [hget]
  dsimp only
  rw [hsame.recvKey, hsame.recvSalt, hsame.recvAuthKey]
  generalize srtpEstimateRoc (states'.getD i default) (readU16be packet 2) = estRoc
  by_cases htag : ctDiff (packet.drop (packet.length - srtpAuthTagSize))
      (crypto.hmacSha1_80 keys.recvAuthKey
        (packet.take (packet.length - srtpAuthTagSize) ++ u32be estRoc)) ≠ 0
  · rw [if_pos htag, if_pos htag]
    exact ⟨rfl, .inl ⟨rfl, rfl⟩⟩
  rw [if_neg htag, if_neg htag]
  cases srtpCipherPayload crypto keys.recvKey keys.recvSalt
      (packet.take (packet.length - srtpAuthTagSize)) hdrLen (readU32be packet 8)
      (packetIndex estRoc (readU16be packet 2)) with
  | error e => exact ⟨rfl, .inl ⟨rfl, rfl⟩⟩
  | ok body => exact ⟨rfl, .inr rfl⟩

/-- What a call does once its SSRC is looked up: the state found goes through `slotCall`, and is
written back if the call succeeds. -/
theorem srtpCall_looked_up (crypto : CryptoProvider) (hsame : SameKeys keys srtp)
    (hready : keys.ready = true) {op : SrtpOp} {hdrLen : Nat} (hheader : op.header = .ok hdrLen)
    (hlookup : ∀ cache, ∃ i states' cache',
      srtpGetSsrcState srtp.ssrcStates (readU32be op.packet 8) cache = some (i, states', cache')) :
    ∃ cache i states' cache',
      srtpGetSsrcState srtp.ssrcStates (readU32be op.packet 8) cache = some (i, states', cache') ∧
      (srtpCall crypto srtp op).2 = (slotCall crypto keys (states'.getD i default) op).2 ∧
      ((srtpCall crypto srtp op).1.ssrcStates = states' ∧
          (slotCall crypto keys (states'.getD i default) op).1 = states'.getD i default ∨
        (srtpCall crypto srtp op).1.ssrcStates =
          states'.set i (slotCall crypto keys (states'.getD i default) op).1) := by
  have hready' : srtp.ready = true := hsame.ready.trans hready
  have hnr : ¬ (!keys.ready) = true := by simp [hready]
  cases op with
  | protect packet =>
    have hslot (ss : SsrcState) :
        slotCall crypto keys ss (.protect packet) = slotProtect crypto keys ss hdrLen packet := by
      unfold slotCall
      rw [if_neg hnr, hheader]
    obtain ⟨i, states', cache', hget⟩ := hlookup srtp.lastSendIdx
    refine ⟨_, i, states', cache', hget, ?_⟩
    rw [hslot]
    dsimp only [srtpCall]
    exact nanoSrtpProtect_looked_up hsame hready' hheader hget
  | unprotect packet =>
    have hslot (ss : SsrcState) : slotCall crypto keys ss (.unprotect packet) =
        slotUnprotect crypto keys ss hdrLen packet := by
      unfold slotCall
      rw [if_neg hnr, hheader]
    obtain ⟨i, states', cache', hget⟩ := hlookup srtp.lastRecvIdx
    refine ⟨_, i, states', cache', hget, ?_⟩
    rw [hslot]
    dsimp only [srtpCall]
    exact nanoSrtpUnprotect_looked_up hsame hready' hheader hget

/-- A call whose header does not parse. -/
theorem srtpCall_unparsed {crypto : CryptoProvider} (hready : srtp.ready = true) {op : SrtpOp}
    {e : Rc} (he : op.header = .error e) : srtpCall crypto srtp op = (srtp, .error e) := by
  have hnr : ¬ (!srtp.ready) = true := by simp [hready]
  unfold SrtpOp.header at he
  cases op with
  | protect packet =>
    dsimp only [srtpCall] at he ⊢
    unfold nanoSrtpProtect
    rw [if_neg hnr]
    split at he
    · rename_i hlen
      rw [if_pos hlen, Except.error.inj he]
    · rename_i hlen
      rw [if_neg hlen]
      dsimp only
      rw [he]
  | unprotect packet =>
    dsimp only [srtpCall] at he ⊢
    unfold nanoSrtpUnprotect
    rw [if_neg hnr]
    split at he
    · rename_i hlen
      rw [if_pos hlen, Except.error.inj he]
    · rename_i hlen
      rw [if_neg hlen]
      dsimp only
      rw [he]

/-- A call before the keys are there. -/
theorem srtpCall_unready {crypto : CryptoProvider} (hready : srtp.ready = false) (op : SrtpOp) :
    srtpCall crypto srtp op = (srtp, .error .invalidParam) := by
  have hnr : (!srtp.ready) = true := by simp [hready]
  cases op with
  | protect packet =>
    dsimp only [srtpCall]
    unfold nanoSrtpProtect
    rw [if_pos hnr]
  | unprotect packet =>
    dsimp only [srtpCall]
    unfold nanoSrtpUnprotect
    rw [if_pos hnr]

/-- With room in the table for its SSRC a call is a step of the keyed machine. -/
theorem srtpCall_keyed {crypto : CryptoProvider} {op : SrtpOp}
    (hroom : ∀ ssrc, op.ssrc? = some ssrc → ssrc ∈ S) (h : Agrees S keys srtp m) :
    Agrees S keys (srtpCall crypto srtp op).1
        (keyedStep SrtpOp.key (slotCall crypto keys) m op).1 ∧
      (srtpCall crypto srtp op).2 = (keyedStep SrtpOp.key (slotCall crypto keys) m op).2 := by
  by_cases hready : keys.ready = true
  swap
  · have hready : keys.ready = false := by simpa using hready
    have hslot : slotCall crypto keys (m op.key) op = (m op.key, .error .invalidParam) := by
      unfold slotCall
      rw [if_pos (by simp [hready])]
    rw [keyedStep_fst_of_fixed (by rw [hslot]), srtpCall_unready (h.same.ready.trans hready)]
    unfold keyedStep
    rw [hslot]
    exact ⟨h, rfl⟩
  cases hheader : op.header with
  | error e =>
    have hslot : slotCall crypto keys (m op.key) op = (m op.key, .error e) := by
      unfold slotCall
      rw [if_neg (by simp [hready]), hheader]
    rw [keyedStep_fst_of_fixed (by rw [hslot]),
      srtpCall_unparsed (h.same.ready.trans hready) hheader]
    unfold keyedStep
    rw [hslot]
    exact ⟨h, rfl⟩
  | ok hdrLen =>
    have hssrc : op.ssrc? = some (readU32be op.packet 8) := by
      unfold SrtpOp.ssrc?
      rw [hheader]
      rfl
    have hkey : op.key = .inl (readU32be op.packet 8) := by
      unfold SrtpOp.key
      rw [hssrc]
    have hlookup := h.table.lookup (hroom _ hssrc)
    obtain ⟨cache, i, states', cache', hget, hresult, hstates⟩ :=
      srtpCall_looked_up crypto h.same hready hheader fun cache => by
        obtain ⟨i, states', cache', hget, -⟩ := hlookup cache
        exact ⟨i, states', cache', hget⟩
    obtain ⟨j, states, cache'', hget', hslot, htable, hset⟩ := hlookup cache
    obtain ⟨rfl, rfl, -⟩ : i = j ∧ states' = states ∧ cache' = cache'' := by
      simpa using hget.symm.trans hget'
    rw [hslot] at hresult hstates
    refine ⟨⟨h.same.trans (srtpCall_sameKeys crypto srtp op), ?_⟩, ?_⟩
    · unfold keyedStep
      dsimp only
      rw [hkey, update_inl]
      rcases hstates with ⟨hsame, hfixed⟩ | hwritten
      · -- the call failed behind the lookup: a slot may have been claimed
        have hm : Function.update (fun ssrc => m (.inl ssrc)) (readU32be op.packet 8)
            (slotCall crypto keys (m (.inl (readU32be op.packet 8))) op).1 =
              fun ssrc => m (.inl ssrc) := by
          rw [hfixed]
          exact Function.update_eq_self _ _
        rw [hsame, hm]
        exact htable
      · rw [hwritten]
        exact hset _ (slotCall_holds op (h.table.holds _))
    · rw [hresult]
      unfold keyedStep
      rw [hkey]

end

/-! ### Runs -/

/-- The table of a context without calls so far. -/
def FreshTable (srtp : NanoSrtp) : Prop := ∀ s ∈ srtp.ssrcStates, s.active = false

/-- The SSRCs that the calls of a run look up. -/
def ssrcsOf (ops : List SrtpOp) : Finset UInt32 := (ops.filterMap SrtpOp.ssrc?).toFinset

/-- A run whose SSRCs fit in a table of `n` slots, and no SSRC of which is both sent and
received. -/
structure Separated (n : Nat) (ops : List SrtpOp) : Prop where
  room : (ssrcsOf ops).card ≤ n
  apart : ∀ a ∈ ops, ∀ b ∈ ops, a.isProtect = true → b.isProtect = false → a.ssrc?.isSome →
    a.ssrc? ≠ b.ssrc?

/-- The components of a fresh table. -/
def freshComponents : UInt32 ⊕ Bool → SsrcState
  | .inl ssrc => slotAt ssrc 0
  | .inr _ => default

theorem agrees_fresh {srtp : NanoSrtp} (hfresh : FreshTable srtp) {S : Finset UInt32}
    (hroom : S.card ≤ srtp.ssrcStates.length) : Agrees S srtp srtp freshComponents := by
  refine ⟨SameKeys.refl srtp, hroom, ?_, ?_, fun _ _ => rfl⟩
  · intro s hs hactive
    rw [hfresh s hs] at hactive
    exact nomatch hactive
  · intro i j s s' hs _ hactive
    rw [hfresh s (List.mem_of_getElem? hs)] at hactive
    exact nomatch hactive

theorem mem_ssrcsOf {ops : List SrtpOp} {op : SrtpOp} (hop : op ∈ ops) {ssrc : UInt32}
    (h : op.ssrc? = some ssrc) : ssrc ∈ ssrcsOf ops :=
  List.mem_toFinset.mpr (List.mem_filterMap.mpr ⟨op, hop, h⟩)

/-- The answers of a run are those of the keyed machine. -/
theorem outputs_keyed {crypto : CryptoProvider} {srtp : NanoSrtp} (hfresh : FreshTable srtp)
    {ops : List SrtpOp} (hroom : (ssrcsOf ops).card ≤ srtp.ssrcStates.length) :
    outputs (srtpCall crypto) srtp ops =
      outputs (keyedStep SrtpOp.key (slotCall crypto srtp)) freshComponents ops := by
  apply outputs_eq_of_simulates (R := Agrees (ssrcsOf ops) srtp)
    (A := fun op => ∀ ssrc, op.ssrc? = some ssrc → ssrc ∈ ssrcsOf ops)
  · exact fun _ _ _ => srtpCall_keyed
  · exact agrees_fresh hfresh hroom
  · exact fun op hop _ => mem_ssrcsOf hop

/-- With room in the table, calls of one kind are answered as if there were no others. -/
theorem outputs_of_kind {crypto : CryptoProvider} {srtp : NanoSrtp} (hfresh : FreshTable srtp)
    {ops : List SrtpOp} (h : Separated srtp.ssrcStates.length ops) (kind : Bool) :
    (outputs (srtpCall crypto) srtp ops).filter (fun o => o.1.isProtect == kind) =
      outputs (keyedStep SrtpOp.key (slotCall crypto srtp)) freshComponents
        (ops.filter (·.isProtect == kind)) := by
  rw [outputs_keyed hfresh h.room]
  apply outputs_keyed_filter (P := fun op : SrtpOp => op.isProtect == kind)
    (K := fun k => ∃ op ∈ ops, op.isProtect = kind ∧ op.key = k) (fun _ _ => rfl)
  · intro op hop hkind
    exact ⟨op, hop, by simpa using hkind, rfl⟩
  · rintro b hb hother ⟨a, ha, hkind, hkey⟩
    have hother : b.isProtect = !kind := by
      revert hother
      cases b.isProtect <;> cases kind <;> decide
    cases hsa : a.ssrc? with
    | none =>
      cases hsb : b.ssrc? with
      | none =>
        simp only [SrtpOp.key, hsa, hsb, hkind, hother, Sum.inr.injEq] at hkey
        exact absurd hkey (by cases kind <;> decide)
      | some ssrc => simp [SrtpOp.key, hsa, hsb] at hkey
    | some ssrc =>
      cases hsb : b.ssrc? with
      | none => simp [SrtpOp.key, hsa, hsb] at hkey
      | some ssrc' =>
        simp only [SrtpOp.key, hsa, hsb, Sum.inl.injEq] at hkey
        cases kind with
        | true =>
          exact h.apart a ha b hb hkind hother (by rw [hsa]; rfl) (by rw [hsa, hsb, hkey])
        | false =>
          exact h.apart b hb a ha hother hkind (by rw [hsb]; rfl) (by rw [hsa, hsb, hkey])

/-- In a run whose SSRCs fit in the table, refused packets of the peer may be left out or put in
without a change to any other result; if no SSRC is both sent and received either, calls of one
kind may be left out or put in without a change to those of the other. -/
theorem srtp_noninterference {crypto : CryptoProvider} {srtp : NanoSrtp}
    (hfresh : FreshTable srtp) :
    (∀ ops : List (SrtpOp × Bool),
      (ssrcsOf (ops.map (·.1))).card ≤ srtp.ssrcStates.length →
      DroppedAll (srtpCall crypto) (RefusedPacket crypto) srtp ops →
      keptOutputs (srtpCall crypto) srtp ops =
        outputs (srtpCall crypto) srtp (keptInputs ops)) ∧
    ∀ (kind : Bool) (ops ops' : List SrtpOp), Separated srtp.ssrcStates.length ops →
      Separated srtp.ssrcStates.length ops' →
      ops.filter (·.isProtect == kind) = ops'.filter (·.isProtect == kind) →
      (outputs (srtpCall crypto) srtp ops).filter (fun o => o.1.isProtect == kind) =
        (outputs (srtpCall crypto) srtp ops').filter (fun o => o.1.isProtect == kind) := by
  constructor
  · intro ops hroom hdropped
    have hstep : ∀ (t : NanoSrtp) (m : UInt32 ⊕ Bool → SsrcState) (op : SrtpOp),
        (∀ ssrc, op.ssrc? = some ssrc → ssrc ∈ ssrcsOf (ops.map (·.1))) →
        Agrees (ssrcsOf (ops.map (·.1))) srtp t m →
        Agrees (ssrcsOf (ops.map (·.1))) srtp (srtpCall crypto t op).1
            (keyedStep SrtpOp.key (slotCall crypto srtp) m op).1 ∧
          (srtpCall crypto t op).2 = (keyedStep SrtpOp.key (slotCall crypto srtp) m op).2 :=
      fun _ _ _ => srtpCall_keyed
    have hmem : ∀ op ∈ ops, ∀ ssrc, op.1.ssrc? = some ssrc → ssrc ∈ ssrcsOf (ops.map (·.1)) :=
      fun op hop _ => mem_ssrcsOf (List.mem_map_of_mem hop)
    -- the keyed machine drops the same packets, and they leave its components alone
    have hdrop : ∀ (t : NanoSrtp) (m : UInt32 ⊕ Bool → SsrcState) (op : SrtpOp),
        (∀ ssrc, op.ssrc? = some ssrc → ssrc ∈ ssrcsOf (ops.map (·.1))) →
        Agrees (ssrcsOf (ops.map (·.1))) srtp t m → RefusedPacket crypto t op →
        (slotCall crypto srtp (m op.key) op).1 = m op.key := by
      intro t m op hop hagrees hrefused
      apply slotCall_refused
      have hresult : (srtpCall crypto t op).2 = (slotCall crypto srtp (m op.key) op).2 :=
        (hstep t m op hop hagrees).2
      rw [← hresult]
      exact hrefused.2
    obtain ⟨hkept, hfixed⟩ := keptOutputs_of_simulates
      (F := fun m op => (slotCall crypto srtp (m op.key) op).1 = m op.key) hstep hdrop
      (agrees_fresh hfresh hroom) ops hmem hdropped
    rw [hkept, keptOutputs_eq (fun m op => keyedStep_fst_of_fixed) hfixed]
    -- the SSRCs of the shorter run fit as well
    have hsub : ssrcsOf (keptInputs ops) ⊆ ssrcsOf (ops.map (·.1)) := by
      intro ssrc hssrc
      obtain ⟨op, hop, heq⟩ := List.mem_filterMap.mp (List.mem_toFinset.mp hssrc)
      obtain ⟨entry, hentry, rfl⟩ := List.mem_map.mp hop
      exact hmem entry (List.mem_of_mem_filter hentry) ssrc heq
    exact (outputs_keyed hfresh ((Finset.card_le_card hsub).trans hroom)).symm
  · intro kind ops ops' h h' hkind
    rw [outputs_of_kind hfresh h, outputs_of_kind hfresh h', hkind]

/-- A packet of the peer with a tag that does not verify. -/
def forgedRtp (ssrc : UInt32) : List UInt8 :=
  [0x80, 0, 0, 1, 0, 0, 0, 0] ++ u32be ssrc ++ List.replicate srtpAuthTagSize 0

theorem demoSrtp_freshTable (isClient : Bool) : FreshTable (demoSrtp isClient) := by
  intro s hs
  rw [List.eq_of_mem_replicate hs]

/-- One forged SSRC beside a stream that is sent. -/
theorem noninterference_one_forged :
    keptOutputs (srtpCall .checksum) (demoSrtp true)
        [(.unprotect (forgedRtp 1), false), (.protect (demoRtp 5), true)] =
      outputs (srtpCall .checksum) (demoSrtp true) [.protect (demoRtp 5)] ∧
    (outputs (srtpCall .checksum) (demoSrtp true)
        [.unprotect (forgedRtp 1), .protect (demoRtp 5)]).filter (fun o => o.1.isProtect == true) =
      (outputs (srtpCall .checksum) (demoSrtp true)
        [.protect (demoRtp 5)]).filter (fun o => o.1.isProtect == true) :=
  ⟨(srtp_noninterference (demoSrtp_freshTable true)).1
      [(.unprotect (forgedRtp 1), false), (.protect (demoRtp 5), true)] (by decide)
      ⟨by decide, trivial⟩,
    (srtp_noninterference (demoSrtp_freshTable true)).2 true _ _ ⟨by decide, by decide⟩
      ⟨by decide, by decide⟩ (by decide)⟩

/-- Four forged SSRCs fill the table, and a packet to be sent is refused; and a packet that is sent
under an SSRC of the peer makes a genuine packet of the peer be refused. -/
theorem forged_packets_interfere :
    (let ops : List (SrtpOp × Bool) :=
      [1, 2, 3, 4].map (fun ssrc => (.unprotect (forgedRtp ssrc), false)) ++
        [(.protect (demoRtp 5), true)]
    FreshTable (demoSrtp true) ∧
      DroppedAll (srtpCall .checksum) (RefusedPacket .checksum) (demoSrtp true) ops ∧
      keptOutputs (srtpCall .checksum) (demoSrtp true) ops ≠
        outputs (srtpCall .checksum) (demoSrtp true) (keptInputs ops)) ∧
    ∃ wire, (nanoSrtpProtect .checksum (demoSrtp false) (demoRtp 5)).2 = .ok wire ∧
      (outputs (srtpCall .checksum) (demoSrtp true)
          [.protect (demoRtp 0xFFFF), .unprotect wire.bytes]).filter
          (fun o => o.1.isProtect == false) ≠
        (outputs (srtpCall .checksum) (demoSrtp true) [.unprotect wire.bytes]).filter
          (fun o => o.1.isProtect == false) := by
  constructor
  · exact ⟨demoSrtp_freshTable true, ⟨by decide, by decide, by decide, by decide, trivial⟩,
      by decide⟩
  · exact ⟨_, rfl, by decide⟩

end Nanortc.Spec
