import Nanortc.ForStd.Run
import Nanortc.Native.Ice

/-!
# What one step of the ICE agent can do

The inputs of an agent, what they mean in the terms of the protocol (an authenticated request with
USE-CANDIDATE, a successful check, a check sent), and for each handler what it can change: which
slots can come to be in flight, valid or nominated, and when the agent can become connected.

## Key results

- `iceTriggerCheck_effect`, `iceCheckSucceeded_effect`, `iceProcessCheck_effect`: what a request, a
  successful check and a check sent or given up can change
- `iceGetCheck_ok`: the check handed out belongs to the slot it names
-/

namespace Nanortc.Spec

open Nanortc.ForStd Nanortc.Native

/-- Inputs of an agent: an inbound STUN packet, the two halves of a timer tick, and the caller
setting the consent deadlines. -/
inductive IceInput where
  | stun (data : List UInt8) (src : NanortcAddr) (localIdx : Nat) (viaTurn : Bool)
      (respBufLen : Nat)
  | check (nowMs : UInt32) (relayReady : Option (List Bool)) (random : Option (List UInt8))
      (bufLen : Nat)
  | consent (nowMs : UInt32) (random : Option (List UInt8)) (bufLen : Nat)
  | deadlines (nextMs expiryMs : UInt32)

/-- One step of the agent. -/
def iceStep (crypto : CryptoProvider) (ice : NanoIce) : IceInput → NanoIce
  | .stun data src localIdx viaTurn respBufLen =>
    (iceHandleStun crypto ice data src localIdx viaTurn respBufLen).1
  | .check nowMs relayReady random bufLen =>
    (iceProcessCheck crypto ice nowMs relayReady random bufLen).1
  | .consent nowMs random bufLen => (iceProcessConsent crypto ice nowMs random bufLen).1
  | .deadlines nextMs expiryMs => { ice with consentNextMs := nextMs, consentExpiryMs := expiryMs }

/-! ### Events -/

/-- A candidate pair: the base of the local candidate and the index of the remote one. -/
structure IcePair where
  base : Nat
  remote : Nat

/-- The slot's pair is `pair`. -/
def OfPair (ice : NanoIce) (p : IcePending) (pair : IcePair) : Prop :=
  iceLocalBaseIdx ice p.localIdx = pair.base ∧ p.remoteIdx = pair.remote

/-- `src` is the address of remote candidate `remote`. -/
def IsRemote (ice : NanoIce) (remote : Nat) (src : NanortcAddr) : Prop :=
  ∃ c, ice.remoteCandidates[remote]? = some c ∧ iceAddrMatches c src

/-- A Binding Request whose FINGERPRINT, USERNAME and MESSAGE-INTEGRITY under the local password
verify. -/
def AuthenticRequest (crypto : CryptoProvider) (ice : NanoIce) (data : List UInt8) (msg : StunMsg) :
    Prop :=
  stunParse data = .ok msg ∧ msg.type = stunBindingRequest ∧
    stunAuthentic crypto data msg ice.localPwd ∧ iceVerifyUsername ice msg

/-- A Binding Response whose FINGERPRINT and MESSAGE-INTEGRITY under the remote password verify. -/
def AuthenticResponse (crypto : CryptoProvider) (ice : NanoIce) (data : List UInt8)
    (msg : StunMsg) : Prop :=
  stunParse data = .ok msg ∧ msg.type = stunBindingResponse ∧
    stunAuthentic crypto data msg ice.remotePwd

/-- An authenticated USE-CANDIDATE request arrived for the pair. -/
def UseCandidateRequest (crypto : CryptoProvider) (pair : IcePair) (ice : NanoIce)
    (i : IceInput) : Prop :=
  ∃ data src localIdx viaTurn respBufLen msg, i = .stun data src localIdx viaTurn respBufLen ∧
    AuthenticRequest crypto ice data msg ∧ msg.useCandidate ∧
    iceLocalBaseIdx ice (iceResolveLocal ice src localIdx viaTurn) = pair.base ∧
    IsRemote (iceStep crypto ice i) pair.remote src

/-- An authenticated success response arrived from the pair's remote address for the check in
flight under transaction `txid`. -/
def CheckAnswered (crypto : CryptoProvider) (pair : IcePair) (txid : List UInt8) (ice : NanoIce)
    (i : IceInput) : Prop :=
  ∃ data src localIdx viaTurn respBufLen msg p, i = .stun data src localIdx viaTurn respBufLen ∧
    AuthenticResponse crypto ice data msg ∧ msg.transactionId = txid ∧
    p ∈ ice.pending ∧ p.inFlight ∧ p.txid = txid ∧ OfPair ice p pair ∧
    IsRemote ice pair.remote src

/-- A check of the pair was answered. -/
def SuccessfulCheck (crypto : CryptoProvider) (pair : IcePair) (ice : NanoIce) (i : IceInput) :
    Prop :=
  ∃ txid, CheckAnswered crypto pair txid ice i

/-- A check of the pair went out under `txid` to the remote candidate `dest`, with or without
USE-CANDIDATE. -/
def CheckSent (crypto : CryptoProvider) (pair : IcePair) (txid : List UInt8) (useCandidate : Bool)
    (dest : IceCandidate) (ice : NanoIce) (i : IceInput) : Prop :=
  ∃ nowMs relayReady random bufLen sent, i = .check nowMs relayReady random bufLen ∧
    (iceProcessCheck crypto ice nowMs relayReady random bufLen).2.2 = some sent ∧
    sent.txid = txid ∧ sent.useCandidate = useCandidate ∧
    iceLocalBaseIdx ice sent.localIdx = pair.base ∧ sent.remoteIdx = pair.remote ∧
    ice.remoteCandidates[pair.remote]? = some dest

/-! ### Slots -/

/-- A check of the pair is in flight under `txid`; `nominate` is its nomination flag. -/
def InFlight (ice : NanoIce) (pair : IcePair) (txid : List UInt8) (nominate : Bool) : Prop :=
  ∃ p ∈ ice.pending, p.inFlight ∧ p.txid = txid ∧ OfPair ice p pair ∧ p.flags.nominate = nominate

/-- The pair is recorded as valid. -/
def ValidPair (ice : NanoIce) (pair : IcePair) : Prop :=
  ∃ p ∈ ice.pending, p.flags.valid ∧ OfPair ice p pair

/-- The pair is recorded as nominated. -/
def NominatedPair (ice : NanoIce) (pair : IcePair) : Prop :=
  ∃ p ∈ ice.pending, p.flags.nominate ∧ OfPair ice p pair

/-- The pair is the selected one. -/
def SelectedPair (ice : NanoIce) (pair : IcePair) : Prop :=
  iceLocalBaseIdx ice ice.selectedLocalIdx = pair.base ∧
    ∃ c, ice.remoteCandidates[pair.remote]? = some c ∧
      ice.selectedAddr = c.addr ∧ ice.selectedPort = c.port ∧ ice.selectedFamily = c.family

/-- What no step changes. -/
structure SameAgent (a b : NanoIce) : Prop where
  isControlling : b.isControlling = a.isControlling
  localUfrag : b.localUfrag = a.localUfrag
  localPwd : b.localPwd = a.localPwd
  remoteUfrag : b.remoteUfrag = a.remoteUfrag
  remotePwd : b.remotePwd = a.remotePwd
  localCandidates : b.localCandidates = a.localCandidates
  srflxBaseIdx : b.srflxBaseIdx = a.srflxBaseIdx
  remoteCandidates : a.remoteCandidates <+: b.remoteCandidates

theorem SameAgent.refl (a : NanoIce) : SameAgent a a :=
  ⟨rfl, rfl, rfl, rfl, rfl, rfl, rfl, List.prefix_rfl⟩

theorem SameAgent.trans {a b c : NanoIce} (h : SameAgent a b) (h' : SameAgent b c) :
    SameAgent a c :=
  ⟨h'.isControlling.trans h.isControlling, h'.localUfrag.trans h.localUfrag,
    h'.localPwd.trans h.localPwd, h'.remoteUfrag.trans h.remoteUfrag,
    h'.remotePwd.trans h.remotePwd, h'.localCandidates.trans h.localCandidates,
    h'.srflxBaseIdx.trans h.srflxBaseIdx, h.remoteCandidates.trans h'.remoteCandidates⟩

theorem SameAgent.base {a b : NanoIce} (h : SameAgent a b) (idx : Nat) :
    iceLocalBaseIdx b idx = iceLocalBaseIdx a idx := by
  simp only [iceLocalBaseIdx, h.localCandidates, h.srflxBaseIdx]

theorem SameAgent.ofPair {a b : NanoIce} (h : SameAgent a b) {p : IcePending} {pair : IcePair} :
    OfPair b p pair ↔ OfPair a p pair := by
  simp only [OfPair, h.base]

theorem SameAgent.isRemote {a b : NanoIce} (h : SameAgent a b) {remote : Nat} {src : NanortcAddr}
    (hr : IsRemote a remote src) : IsRemote b remote src := by
  obtain ⟨c, hc, hm⟩ := hr
  obtain ⟨t, ht⟩ := h.remoteCandidates
  have hlt := (List.getElem?_eq_some_iff.mp hc).1
  exact ⟨c, by rw [← ht, List.getElem?_append_left hlt, hc], hm⟩

/-! ### Writing one slot -/

/-- What a slot `q` that takes the place of `p` may keep: a transaction, a validation and a
nomination only of the same pair; `nominate` is a nomination granted on the way. -/
structure Inherits (ice : NanoIce) (nominate : Bool) (p q : IcePending) : Prop where
  inFlight : q.inFlight → p.inFlight ∧ q.txid = p.txid ∧
    iceLocalBaseIdx ice q.localIdx = iceLocalBaseIdx ice p.localIdx ∧ q.remoteIdx = p.remoteIdx ∧
    (q.flags.nominate = p.flags.nominate ∨ nominate)
  valid : q.flags.valid → p.flags.valid ∧
    iceLocalBaseIdx ice q.localIdx = iceLocalBaseIdx ice p.localIdx ∧ q.remoteIdx = p.remoteIdx
  nominated : q.flags.nominate → nominate ∨ (p.flags.nominate ∧
    iceLocalBaseIdx ice q.localIdx = iceLocalBaseIdx ice p.localIdx ∧ q.remoteIdx = p.remoteIdx)

theorem mem_set_cases {α : Type*} {l : List α} {i : Nat} {a q : α} (h : q ∈ l.set i a) :
    (q = a ∧ i < l.length) ∨ q ∈ l := by
  by_cases hi : i < l.length
  · rcases List.mem_or_eq_of_mem_set h with h | h
    · exact .inr h
    · exact .inl ⟨h, hi⟩
  · rw [List.set_eq_of_length_le (by omega)] at h
    exact .inr h

theorem getD_mem {α : Type*} {l : List α} {i : Nat} {d : α} (h : i < l.length) :
    l.getD i d ∈ l := by
  rw [List.getD_eq_getElem?_getD, List.getElem?_eq_getElem h, Option.getD_some]
  exact List.getElem_mem h

section Slot

variable {ice ice' : NanoIce} {slot : Nat} {q : IcePending} {nominate : Bool}
  (hsame : SameAgent ice ice') (hset : ice'.pending = ice.pending.set slot q)
include hsame hset

/-- The slot that was written, or one that was there. -/
theorem slot_cases {P : IcePending → Prop} (h : ∃ p ∈ ice'.pending, P p) :
    (slot < ice.pending.length ∧ P q) ∨ ∃ p ∈ ice.pending, P p := by
  obtain ⟨p, hp, hP⟩ := h
  rw [hset] at hp
  rcases mem_set_cases hp with ⟨rfl, hlt⟩ | hp
  · exact .inl ⟨hlt, hP⟩
  · exact .inr ⟨p, hp, hP⟩

variable (hq : Inherits ice nominate (ice.pending.getD slot default) q)
include hq

theorem inFlight_of_set {pair : IcePair} {txid : List UInt8} {n : Bool}
    (h : InFlight ice' pair txid n) :
    InFlight ice pair txid n ∨ (nominate ∧ ∃ n', InFlight ice pair txid n') := by
  rcases slot_cases hsame hset h with ⟨hlt, hfl, htx, hpair, hn⟩ | ⟨p, hp, hfl, htx, hpair, hn⟩
  · obtain ⟨hfl', htx', hb, hr, hnom⟩ := hq.inFlight hfl
    rw [hsame.ofPair] at hpair
    have hpair' : OfPair ice (ice.pending.getD slot default) pair :=
      ⟨hb.symm.trans hpair.1, hr.symm.trans hpair.2⟩
    rcases hnom with hnom | hnom
    · exact .inl ⟨_, getD_mem hlt, hfl', htx'.symm.trans htx, hpair', hnom.symm.trans hn⟩
    · exact .inr ⟨hnom, _, _, getD_mem hlt, hfl', htx'.symm.trans htx, hpair', rfl⟩
  · exact .inl ⟨p, hp, hfl, htx, hsame.ofPair.mp hpair, hn⟩

theorem valid_of_set {pair : IcePair} (h : ValidPair ice' pair) : ValidPair ice pair := by
  rcases slot_cases hsame hset h with ⟨hlt, hv, hpair⟩ | ⟨p, hp, hv, hpair⟩
  · obtain ⟨hv', hb, hr⟩ := hq.valid hv
    rw [hsame.ofPair] at hpair
    exact ⟨_, getD_mem hlt, hv', hb.symm.trans hpair.1, hr.symm.trans hpair.2⟩
  · exact ⟨p, hp, hv, hsame.ofPair.mp hpair⟩

theorem nominated_of_set {pair : IcePair} (h : NominatedPair ice' pair) :
    NominatedPair ice pair ∨ (nominate ∧ OfPair ice q pair) := by
  rcases slot_cases hsame hset h with ⟨hlt, hn, hpair⟩ | ⟨p, hp, hn, hpair⟩
  · rw [hsame.ofPair] at hpair
    rcases hq.nominated hn with hnom | ⟨hn', hb, hr⟩
    · exact .inr ⟨hnom, hpair⟩
    · exact .inl ⟨_, getD_mem hlt, hn', hb.symm.trans hpair.1, hr.symm.trans hpair.2⟩
  · exact .inl ⟨p, hp, hn, hsame.ofPair.mp hpair⟩

end Slot

/-! ### Requests -/

/-- Queueing the slot just written sets its queue position and flag. -/
theorem iceQueueCheck_setSlot (ice : NanoIce) {slot : Nat} (p : IcePending)
    (h : slot < ice.pending.length) :
    ∃ n, iceQueueCheck (ice.setSlot slot p) slot = ice.setSlot slot (p.enqueue n) := by
  have hget : (ice.setSlot slot p).pending.getD slot default = p := by
    rw [NanoIce.setSlot, List.getD_eq_getElem?_getD, List.getElem?_set_self h, Option.getD_some]
  refine ⟨UInt32.ofNat ((ice.setSlot slot p).pending.filter (·.flags.queued)).length, ?_⟩
  rw [iceQueueCheck, hget]
  simp only [NanoIce.setSlot, List.set_set]

/-- A claimed slot belongs to the pair it is claimed for. -/
theorem iceClaimSlot_pair (ice : NanoIce) (lcl remote : Nat) (p : IcePending) :
    OfPair ice (iceClaimSlot ice lcl remote p) ⟨iceLocalBaseIdx ice lcl, remote⟩ := by
  simp only [iceClaimSlot]
  split
  · exact ⟨rfl, rfl⟩
  · rename_i h
    simp only [iceSlotOfPair, Bool.or_eq_true, Bool.not_eq_eq_eq_not, Bool.not_true,
      Bool.and_eq_false_imp, not_or, Bool.not_eq_true, beq_iff_eq] at h
    by_cases hr : p.remoteIdx = remote
    · exact ⟨by simpa [hr] using h.2, hr⟩
    · simp [hr] at h

/-- A claimed slot keeps a transaction or a flag only as the slot it was. -/
theorem iceClaimSlot_inherits (ice : NanoIce) (lcl remote : Nat) (p : IcePending)
    (nominate : Bool) : Inherits ice nominate p ((iceClaimSlot ice lcl remote p).grant nominate) := by
  simp only [iceClaimSlot]
  split
  · refine ⟨fun h => ?_, fun h => ?_, fun h => .inl ?_⟩
    · exact absurd h Bool.false_ne_true
    · exact absurd h Bool.false_ne_true
    · simpa [IcePending.grant, IcePending.zero] using h
  · refine ⟨fun h => ⟨h, rfl, rfl, rfl, ?_⟩, fun h => ⟨h, rfl, rfl⟩, fun h => ?_⟩
    · cases nominate
      · exact .inl (Bool.or_false _)
      · exact .inr rfl
    · cases nominate
      · exact .inr ⟨by simpa [IcePending.grant] using h, rfl, rfl⟩
      · exact .inl rfl

/-- Cancelling the transaction and queueing the slot keeps only the nomination. -/
theorem Inherits.retrigger {ice : NanoIce} {nominate : Bool} {p q : IcePending}
    (h : Inherits ice nominate p q) (n : UInt32) :
    Inherits ice nominate p (q.retrigger.enqueue n) :=
  ⟨fun hf => absurd hf Bool.false_ne_true, fun hv => absurd hv Bool.false_ne_true, h.nominated⟩

/-- `src` is the remote candidate the request is matched to, learned if need be. -/
theorem iceLearnRemote_isRemote (ice : NanoIce) (src : NanortcAddr) :
    ∃ c, (iceLearnRemote ice src)[ice.remoteCandidates.findIdx (iceAddrMatches · src)]? = some c ∧
      iceAddrMatches c src := by
  simp only [iceLearnRemote]
  split
  · rename_i h
    rw [h, List.getElem?_concat_length]
    exact ⟨_, rfl, by simp [iceAddrMatches]⟩
  · rename_i h
    have hlt : ice.remoteCandidates.findIdx (iceAddrMatches · src) < ice.remoteCandidates.length :=
      Nat.lt_of_le_of_ne List.findIdx_le_length h
    exact ⟨_, List.getElem?_eq_getElem hlt, List.findIdx_getElem (w := hlt)⟩

theorem iceLearnRemote_prefix (ice : NanoIce) (src : NanortcAddr) :
    ice.remoteCandidates <+: iceLearnRemote ice src := by
  simp only [iceLearnRemote]
  split
  · exact List.prefix_append _ _
  · exact List.prefix_rfl

theorem iceFindSlot_lt {ice : NanoIce} {lcl remote slot : Nat}
    (h : iceFindSlot ice lcl remote = some slot) : slot < ice.pending.length := by
  simp only [iceFindSlot] at h
  split at h
  · rename_i i hi
    obtain rfl := Option.some.inj h
    exact (List.findIdx?_eq_some_iff_getElem.mp hi).1
  · exact (List.findIdx?_eq_some_iff_getElem.mp h).1

theorem iceSelectPair_selected (ice : NanoIce) (lcl remote : Nat) {c : IceCandidate}
    (hc : ice.remoteCandidates[remote]? = some c) :
    SelectedPair (iceSelectPair ice lcl remote) ⟨iceLocalBaseIdx ice lcl, remote⟩ := by
  refine ⟨rfl, c, hc, ?_⟩
  simp [iceSelectPair, List.getD_eq_getElem?_getD, hc]

/-- What a request can do. -/
structure TriggerEffect (ice : NanoIce) (lcl : Nat) (src : NanortcAddr) (nominate : Bool)
    (ice' : NanoIce) : Prop where
  same : SameAgent ice ice'
  inFlight : ∀ pair txid n, InFlight ice' pair txid n →
    InFlight ice pair txid n ∨ (nominate ∧ ∃ n', InFlight ice pair txid n')
  valid : ∀ pair, ValidPair ice' pair → ValidPair ice pair
  nominated : ∀ pair, NominatedPair ice' pair → NominatedPair ice pair ∨
    (nominate ∧ iceLocalBaseIdx ice lcl = pair.base ∧ IsRemote ice' pair.remote src)
  connected : ice.state ≠ .connected → ice'.state = .connected → nominate ∧ ∃ pair,
    SelectedPair ice' pair ∧ iceLocalBaseIdx ice lcl = pair.base ∧
      IsRemote ice' pair.remote src ∧ ValidPair ice pair

theorem TriggerEffect.refl (ice : NanoIce) (lcl : Nat) (src : NanortcAddr) (nominate : Bool) :
    TriggerEffect ice lcl src nominate ice :=
  ⟨SameAgent.refl ice, fun _ _ _ => .inl, fun _ => id, fun _ => .inl, fun h h' => absurd h' h⟩

/-- One slot written for the request's pair, the source learned, and perhaps the pair selected. -/
theorem TriggerEffect.of_set {ice ice' : NanoIce} {lcl : Nat} {src : NanortcAddr} {nominate : Bool}
    (slot : Nat) {q : IcePending} (hsame : SameAgent ice ice')
    (hlearn : ice'.remoteCandidates = iceLearnRemote ice src)
    (hset : ice'.pending = ice.pending.set slot q)
    (hq : Inherits ice nominate (ice.pending.getD slot default) q)
    (hpair : OfPair ice q
      ⟨iceLocalBaseIdx ice lcl, ice.remoteCandidates.findIdx (iceAddrMatches · src)⟩)
    (hconn : ice.state ≠ .connected → ice'.state = .connected → nominate ∧
      SelectedPair ice' ⟨iceLocalBaseIdx ice lcl,
        ice.remoteCandidates.findIdx (iceAddrMatches · src)⟩ ∧
      ValidPair ice ⟨iceLocalBaseIdx ice lcl,
        ice.remoteCandidates.findIdx (iceAddrMatches · src)⟩) :
    TriggerEffect ice lcl src nominate ice' := by
  have hremote : IsRemote ice' (ice.remoteCandidates.findIdx (iceAddrMatches · src)) src := by
    rw [IsRemote, hlearn]
    exact iceLearnRemote_isRemote ice src
  refine ⟨hsame, fun _ _ _ => inFlight_of_set hsame hset hq, fun _ => valid_of_set hsame hset hq,
    fun pair hn => ?_, fun h h' => ?_⟩
  · rcases nominated_of_set hsame hset hq hn with hn | ⟨hnom, hb, hr⟩
    · exact .inl hn
    · exact .inr ⟨hnom, hpair.1.symm.trans hb, (hpair.2.symm.trans hr) ▸ hremote⟩
  · obtain ⟨hnom, hsel, hval⟩ := hconn h h'
    exact ⟨hnom, _, hsel, rfl, hremote, hval⟩

/-- **What `ice_trigger_check` can do.** -/
theorem iceTriggerCheck_effect (ice : NanoIce) (lcl : Nat) (src : NanortcAddr) (nominate : Bool) :
    TriggerEffect ice lcl src nominate (iceTriggerCheck ice lcl src nominate).1 := by
  simp only [iceTriggerCheck]
  split
  · exact .refl ..
  split
  · exact .refl ..
  split
  · exact .refl ..
  rename_i slot hslot
  have hlt := iceFindSlot_lt hslot
  split
  · exact .refl ..
  set remote := ice.remoteCandidates.findIdx (iceAddrMatches · src) with hremote
  set p := (iceClaimSlot ice lcl remote (ice.pending.getD slot default)).grant nominate with hp
  have hpair : OfPair ice p ⟨iceLocalBaseIdx ice lcl, remote⟩ := iceClaimSlot_pair ..
  have hinh : Inherits ice nominate (ice.pending.getD slot default) p := iceClaimSlot_inherits ..
  have hlearn := iceLearnRemote_prefix ice src
  split
  · -- a valid pair is selected at once by a nomination
    rename_i hvalid
    obtain ⟨hval, hb, hr⟩ := hinh.valid hvalid
    have hval : ValidPair ice ⟨iceLocalBaseIdx ice lcl, remote⟩ :=
      ⟨_, getD_mem hlt, hval, hb.symm.trans hpair.1, hr.symm.trans hpair.2⟩
    split
    · rename_i hnom
      obtain ⟨c, hc, -⟩ := iceLearnRemote_isRemote ice src
      refine .of_set slot ⟨rfl, rfl, rfl, rfl, rfl, rfl, rfl, hlearn⟩ rfl rfl hinh hpair
        fun _ _ => ⟨hnom, ?_, hval⟩
      have hsel := iceSelectPair_selected
        (NanoIce.setSlot { ice with remoteCandidates := iceLearnRemote ice src } slot p) p.localIdx
        remote hc
      have hbase : iceLocalBaseIdx ice p.localIdx = iceLocalBaseIdx ice lcl := hpair.1
      rw [← hbase]
      exact hsel
    · exact .of_set slot ⟨rfl, rfl, rfl, rfl, rfl, rfl, rfl, hlearn⟩ rfl rfl hinh hpair
        fun h h' => absurd h' h
  · split
    · obtain ⟨n, hqueue⟩ := iceQueueCheck_setSlot
        { ice with remoteCandidates := iceLearnRemote ice src } p.retrigger hlt
      rw [hqueue]
      exact .of_set slot ⟨rfl, rfl, rfl, rfl, rfl, rfl, rfl, hlearn⟩ rfl rfl
        (hinh.retrigger n) hpair fun h h' => absurd h' h
    · exact .of_set slot ⟨rfl, rfl, rfl, rfl, rfl, rfl, rfl, hlearn⟩ rfl rfl hinh hpair
        fun h h' => absurd h' h

/-! ### Responses -/

/-- The reflexive candidate a check is recorded for has the base the check was sent from. -/
theorem iceMappedLocal_base (ice : NanoIce) (msg : StunMsg) (lcl : Nat) :
    iceLocalBaseIdx ice (iceMappedLocal ice msg lcl) = iceLocalBaseIdx ice lcl := by
  simp only [iceMappedLocal]
  cases hf : (List.range ice.localCandidates.length).find? _ with
  | none => rfl
  | some i =>
    have := List.find?_some hf
    simp only [Bool.and_eq_true, beq_iff_eq] at this
    exact this.2

/-- What a successful check in slot `slot` can do. -/
structure AnswerEffect (ice : NanoIce) (p : IcePending) (ice' : NanoIce) : Prop where
  same : SameAgent ice ice'
  inFlight : ∀ pair txid n, InFlight ice' pair txid n → InFlight ice pair txid n
  valid : ∀ pair, ValidPair ice' pair → ValidPair ice pair ∨ OfPair ice p pair
  nominated : ∀ pair, NominatedPair ice' pair → NominatedPair ice pair ∨ ice.isControlling
  connected : ice.state ≠ .connected → ice'.state = .connected →
    p.flags.nominate ∧ SelectedPair ice' ⟨iceLocalBaseIdx ice p.localIdx, p.remoteIdx⟩

/-- The answered slot is written back without its transaction. -/
theorem AnswerEffect.of_set {ice ice' : NanoIce} {slot : Nat} {q : IcePending}
    (hlt : slot < ice.pending.length) (hsame : SameAgent ice ice')
    (hset : ice'.pending = ice.pending.set slot q) (hflight : q.inFlight = false)
    (hbase : iceLocalBaseIdx ice q.localIdx =
      iceLocalBaseIdx ice (ice.pending.getD slot default).localIdx)
    (hremote : q.remoteIdx = (ice.pending.getD slot default).remoteIdx)
    (hnom : q.flags.nominate → (ice.pending.getD slot default).flags.nominate ∨ ice.isControlling)
    (hconn : ice.state ≠ .connected → ice'.state = .connected →
      (ice.pending.getD slot default).flags.nominate ∧
        SelectedPair ice' ⟨iceLocalBaseIdx ice (ice.pending.getD slot default).localIdx,
          (ice.pending.getD slot default).remoteIdx⟩) :
    AnswerEffect ice (ice.pending.getD slot default) ice' := by
  refine ⟨hsame, fun pair txid n h => ?_, fun pair h => ?_, fun pair h => ?_, hconn⟩
  · rcases slot_cases hsame hset h with ⟨-, hf, -⟩ | ⟨p, hp, hf, htx, hpair, hn⟩
    · exact absurd hf (by simp [hflight])
    · exact ⟨p, hp, hf, htx, hsame.ofPair.mp hpair, hn⟩
  · rcases slot_cases hsame hset h with ⟨-, -, hpair⟩ | ⟨p, hp, hv, hpair⟩
    · rw [hsame.ofPair] at hpair
      exact .inr ⟨hbase.symm.trans hpair.1, hremote.symm.trans hpair.2⟩
    · exact .inl ⟨p, hp, hv, hsame.ofPair.mp hpair⟩
  · rcases slot_cases hsame hset h with ⟨-, hn, hpair⟩ | ⟨p, hp, hn, hpair⟩
    · rw [hsame.ofPair] at hpair
      rcases hnom hn with h' | h'
      · exact .inl ⟨_, getD_mem hlt, h', hbase.symm.trans hpair.1, hremote.symm.trans hpair.2⟩
      · exact .inr h'
    · exact .inl ⟨p, hp, hn, hsame.ofPair.mp hpair⟩

/-- **What a successful check can do.** -/
theorem iceCheckSucceeded_effect (ice : NanoIce) {slot : Nat} (msg : StunMsg)
    (hlt : slot < ice.pending.length)
    (hremote : (ice.pending.getD slot default).remoteIdx < ice.remoteCandidates.length) :
    AnswerEffect ice (ice.pending.getD slot default) (iceCheckSucceeded ice slot msg) := by
  set p := ice.pending.getD slot default with hp
  have hbase := iceMappedLocal_base ice msg p.localIdx
  simp only [iceCheckSucceeded]
  rw [← hp]
  split
  · split
    · -- a nominated pair is selected
      rename_i hnom
      refine .of_set hlt ⟨rfl, rfl, rfl, rfl, rfl, rfl, rfl, List.prefix_rfl⟩ rfl rfl hbase rfl
        (fun h => absurd h Bool.false_ne_true) fun _ _ => ⟨hnom, ?_⟩
      have hsel := iceSelectPair_selected ice (iceMappedLocal ice msg p.localIdx) p.remoteIdx
        (List.getElem?_eq_getElem hremote)
      rw [hbase] at hsel
      exact hsel
    · split
      · -- the controlling side queues the nominating check
        rename_i hctl
        obtain ⟨n, hqueue⟩ := iceQueueCheck_setSlot ice
          { p with inFlight := false, localIdx := iceMappedLocal ice msg p.localIdx
                   flags := { valid := true, nominate := true } } hlt
        rw [hqueue]
        exact .of_set hlt ⟨rfl, rfl, rfl, rfl, rfl, rfl, rfl, List.prefix_rfl⟩ rfl rfl hbase rfl
          (fun _ => .inr hctl) fun h h' => absurd h' h
      · exact .of_set hlt ⟨rfl, rfl, rfl, rfl, rfl, rfl, rfl, List.prefix_rfl⟩ rfl rfl hbase rfl
          (fun h => absurd h Bool.false_ne_true) fun h h' => absurd h' h
  · rename_i hconn
    exact .of_set hlt ⟨rfl, rfl, rfl, rfl, rfl, rfl, rfl, List.prefix_rfl⟩ rfl rfl hbase rfl .inl
      fun h _ => absurd h hconn

/-! ### Checks -/

/-- Two slots agree in everything but their queue position, queue flag and retransmissions. -/
structure SameSlot (p q : IcePending) : Prop where
  inFlight : q.inFlight = p.inFlight
  txid : q.txid = p.txid
  localIdx : q.localIdx = p.localIdx
  remoteIdx : q.remoteIdx = p.remoteIdx
  valid : q.flags.valid = p.flags.valid
  nominate : q.flags.nominate = p.flags.nominate

theorem iceUnqueueCheck_slots (ice : NanoIce) (slot : Nat) {q : IcePending}
    (h : q ∈ (iceUnqueueCheck ice slot).pending) : ∃ p ∈ ice.pending, SameSlot p q := by
  simp only [iceUnqueueCheck] at h
  split at h
  · rcases mem_set_cases h with ⟨rfl, hlt⟩ | hm
    · rw [List.length_map] at hlt
      exact ⟨_, getD_mem hlt, rfl, rfl, rfl, rfl, rfl, rfl⟩
    · obtain ⟨p, hp, rfl⟩ := List.mem_map.mp hm
      refine ⟨p, hp, ?_⟩
      split <;> exact ⟨rfl, rfl, rfl, rfl, rfl, rfl⟩
  · exact ⟨q, h, rfl, rfl, rfl, rfl, rfl, rfl⟩

theorem iceUnqueueCheck_same (ice : NanoIce) (slot : Nat) :
    SameAgent ice (iceUnqueueCheck ice slot) ∧ (iceUnqueueCheck ice slot).state = ice.state := by
  simp only [iceUnqueueCheck]
  split <;> exact ⟨⟨rfl, rfl, rfl, rfl, rfl, rfl, rfl, List.prefix_rfl⟩, rfl⟩

/-- A check that `ice_get_check` hands out: the transaction or queue entry of its slot, or a new
check in an idle slot. -/
structure CheckOfSlot (ice : NanoIce) (check : IceCheck) (slot : Nat) : Prop where
  pair : ((ice.pending.getD slot default).localIdx = check.localIdx ∧
      (ice.pending.getD slot default).remoteIdx = check.remoteIdx ∧
      check.retransmit = (ice.pending.getD slot default).inFlight) ∨
    ((ice.pending.getD slot default).idle ∧ check.retransmit = false)
  remote : check.expire = false → check.remoteIdx < ice.remoteCandidates.length

/-- Every slot the scan names is what it says. -/
structure ScanOk (ice : NanoIce) (scan : IceScan) : Prop where
  check : ∀ slot, scan.check.slot = some slot → CheckOfSlot ice scan.check slot
  free : ∀ slot, scan.freeSlot = some slot → (ice.pending.getD slot default).idle

theorem icePairReady_remote {ice : NanoIce} {lcl remote : Nat} {ready : Option (List Bool)}
    (h : icePairReady ice lcl remote ready) : remote < ice.remoteCandidates.length := by
  simp only [icePairReady, Bool.and_eq_true, decide_eq_true_eq] at h
  exact h.1.1.2

theorem iceScanSlot_ok {ice : NanoIce} {scan : IceScan} (h : ScanOk ice scan) (nowMs : UInt32)
    (ready : Option (List Bool)) (pace : UInt32) (i : Nat) :
    ScanOk ice (iceScanSlot ice nowMs ready pace scan i) := by
  simp only [iceScanSlot]
  split
  · rename_i hidle
    split
    · rename_i hfree
      refine ⟨h.check, fun slot hs => ?_⟩
      obtain rfl := Option.some.inj hs
      simp only [Bool.and_eq_true, Bool.not_eq_true'] at hidle hfree
      simp only [IcePending.idle, hidle.1, hfree.1, Bool.not_false, Bool.and_self]
    · exact h
  · split
    · exact ⟨h.check, h.free⟩
    · rename_i hready
      split
      · refine ⟨fun slot hs => ?_, h.free⟩
        obtain rfl := Option.some.inj hs
        refine ⟨.inl ⟨rfl, rfl, rfl⟩, fun hexp => ?_⟩
        have hexp' : iceCheckExpired ice (ice.pending.getD i default) nowMs = false := hexp
        simp only [hexp', Bool.not_false, Bool.true_and, Bool.not_eq_true', Bool.not_eq_false]
          at hready
        exact icePairReady_remote hready
      · exact ⟨h.check, h.free⟩

theorem foldl_scan_ok {ice : NanoIce} (nowMs : UInt32) (ready : Option (List Bool)) (pace : UInt32)
    (slots : List Nat) {scan : IceScan} (h : ScanOk ice scan) :
    ScanOk ice (slots.foldl (iceScanSlot ice nowMs ready pace) scan) := by
  induction slots generalizing scan with
  | nil => exact h
  | cons i slots ih => exact ih (iceScanSlot_ok h nowMs ready pace i)

/-- The check `ice_get_check` hands out belongs to the slot it names. -/
theorem iceGetCheck_ok (ice : NanoIce) (nowMs : UInt32) (ready : Option (List Bool)) (slot : Nat)
    (h : (iceGetCheck ice nowMs ready).2.slot = some slot) :
    CheckOfSlot ice (iceGetCheck ice nowMs ready).2 slot := by
  have hinit : ScanOk ice ⟨⟨none, 0, 0, false, false⟩, 0xFFFFFFFF, none, false⟩ :=
    ⟨fun _ h => (nomatch h), fun _ h => (nomatch h)⟩
  simp only [iceGetCheck] at h ⊢
  split at h
  · exact nomatch h
  rename_i hstate
  rw [if_neg hstate]
  split at h
  · exact nomatch h
  rename_i hend
  rw [if_neg hend]
  split at h
  · exact nomatch h
  rename_i hcred
  rw [if_neg hcred]
  have hscan := foldl_scan_ok nowMs ready (icePace ice nowMs) (List.range iceMaxPendingChecks) hinit
  revert h hscan
  generalize (List.range iceMaxPendingChecks).foldl
    (iceScanSlot ice nowMs ready (icePace ice nowMs)) _ = scan
  intro h hscan
  split at h
  · rename_i hbest
    rw [if_pos hbest]
    exact hscan.check slot h
  rename_i hbest
  rw [if_neg hbest]
  split at h
  · rename_i hcount
    rw [if_pos hcount]
    split at h
    · exact nomatch h
    · rename_i hact
      rw [if_neg hact]
      exact hscan.check slot h
  rename_i hcount
  rw [if_neg hcount]
  split at h
  · rename_i free lcl remote hfree hnext
    split at h
    · rename_i hpace
      rw [if_pos hpace]
      obtain rfl := Option.some.inj h
      refine ⟨.inr ⟨hscan.free free hfree, rfl⟩, fun _ => ?_⟩
      have := List.find?_some hnext
      simp only [Bool.and_eq_true] at this
      exact icePairReady_remote this.1
    · rename_i hpace
      rw [if_neg hpace]
      exact hscan.check slot h
  · exact hscan.check slot h

/-- What sending a check can do. -/
structure SendEffect (ice : NanoIce) (sent : Option SentCheck) (ice' : NanoIce) : Prop where
  same : SameAgent ice ice'
  inFlight : ∀ pair txid n, InFlight ice' pair txid n → InFlight ice pair txid n ∨
    ∃ c, sent = some c ∧ c.txid = txid ∧ c.useCandidate = (ice.isControlling && n) ∧
      iceLocalBaseIdx ice c.localIdx = pair.base ∧ c.remoteIdx = pair.remote ∧
      pair.remote < ice.remoteCandidates.length
  valid : ∀ pair, ValidPair ice' pair → ValidPair ice pair
  nominated : ∀ pair, NominatedPair ice' pair → NominatedPair ice pair
  state : ice'.state = ice.state ∨ ice'.state ≠ .connected

theorem SendEffect.refl (ice : NanoIce) : SendEffect ice none ice :=
  ⟨SameAgent.refl ice, fun _ _ _ => .inl, fun _ => id, fun _ => id, .inl rfl⟩

/-- A slot of the agent after one slot was taken out of the queue and written. -/
theorem unqueue_set_cases {ice ice' : NanoIce} {slot : Nat} {q : IcePending}
    (hset : ice'.pending = (iceUnqueueCheck ice slot).pending.set slot q) {p : IcePending}
    (hp : p ∈ ice'.pending) :
    (p = q ∧ ice.pending.getD slot default ∈ ice.pending) ∨ ∃ p' ∈ ice.pending, SameSlot p' p := by
  rw [hset] at hp
  rcases mem_set_cases hp with ⟨rfl, hlt⟩ | hp
  · refine .inl ⟨rfl, getD_mem ?_⟩
    simp only [iceUnqueueCheck] at hlt
    split at hlt
    · simpa [NanoIce.setSlot] using hlt
    · exact hlt
  · exact .inr (iceUnqueueCheck_slots ice slot hp)

theorem SameSlot.ofPair {ice : NanoIce} {p q : IcePending} (h : SameSlot p q) {pair : IcePair}
    (hq : OfPair ice q pair) : OfPair ice p pair :=
  ⟨h.localIdx ▸ hq.1, h.remoteIdx ▸ hq.2⟩

/-- Giving a check up empties its slot. -/
theorem SendEffect.expire (ice : NanoIce) (slot : Nat) :
    SendEffect ice none ((iceUnqueueCheck ice slot).setSlot slot .zero) := by
  have hsame : SameAgent ice ((iceUnqueueCheck ice slot).setSlot slot .zero) := by
    obtain ⟨h, -⟩ := iceUnqueueCheck_same ice slot
    exact ⟨h.isControlling, h.localUfrag, h.localPwd, h.remoteUfrag, h.remotePwd,
      h.localCandidates, h.srflxBaseIdx, h.remoteCandidates⟩
  refine ⟨hsame, fun pair txid n h => .inl ?_, fun pair h => ?_, fun pair h => ?_,
    .inl (iceUnqueueCheck_same ice slot).2⟩
  · obtain ⟨p, hp, hf, htx, hpair, hn⟩ := h
    rcases unqueue_set_cases rfl hp with ⟨rfl, -⟩ | ⟨p', hp', hs⟩
    · exact absurd hf Bool.false_ne_true
    · exact ⟨p', hp', hs.inFlight ▸ hf, hs.txid ▸ htx, hs.ofPair (hsame.ofPair.mp hpair),
        hs.nominate ▸ hn⟩
  · obtain ⟨p, hp, hv, hpair⟩ := h
    rcases unqueue_set_cases rfl hp with ⟨rfl, -⟩ | ⟨p', hp', hs⟩
    · exact absurd hv Bool.false_ne_true
    · exact ⟨p', hp', hs.valid ▸ hv, hs.ofPair (hsame.ofPair.mp hpair)⟩
  · obtain ⟨p, hp, hn, hpair⟩ := h
    rcases unqueue_set_cases rfl hp with ⟨rfl, -⟩ | ⟨p', hp', hs⟩
    · exact absurd hn Bool.false_ne_true
    · exact ⟨p', hp', hs.nominate ▸ hn, hs.ofPair (hsame.ofPair.mp hpair)⟩

/-- The launched slot is in flight for the pair of its check and keeps the flags it had. -/
theorem iceCheckTransaction_pair {ice : NanoIce} {check : IceCheck} {slot : Nat}
    (h : CheckOfSlot ice check slot) (txid : List UInt8) (nowMs : UInt32) :
    (iceCheckTransaction (ice.pending.getD slot default) check txid nowMs).localIdx =
        check.localIdx ∧
      (iceCheckTransaction (ice.pending.getD slot default) check txid nowMs).remoteIdx =
        check.remoteIdx ∧
      (iceCheckTransaction (ice.pending.getD slot default) check txid nowMs).flags.valid =
        (ice.pending.getD slot default).flags.valid ∧
      (iceCheckTransaction (ice.pending.getD slot default) check txid nowMs).flags.nominate =
        (ice.pending.getD slot default).flags.nominate := by
  simp only [iceCheckTransaction]
  split
  · rename_i hre
    rcases h.pair with ⟨hl, hr, -⟩ | ⟨-, hno⟩
    · exact ⟨hl, hr, rfl, rfl⟩
    · exact absurd hre (by simp [hno])
  · exact ⟨rfl, rfl, rfl, rfl⟩

/-- A slot with a flag that a check of its own goes out from has the pair of that check. -/
theorem CheckOfSlot.ofPair {ice : NanoIce} {check : IceCheck} {slot : Nat} {pair : IcePair}
    (h : CheckOfSlot ice check slot) (hflags : (ice.pending.getD slot default).flags ≠ {})
    (hb : iceLocalBaseIdx ice check.localIdx = pair.base) (hr : check.remoteIdx = pair.remote) :
    OfPair ice (ice.pending.getD slot default) pair := by
  rcases h.pair with ⟨hl, hrem, -⟩ | ⟨hidle, -⟩
  · exact ⟨by rw [hl, hb], by rw [hrem, hr]⟩
  · simp only [IcePending.idle, Bool.and_eq_true, beq_iff_eq] at hidle
    exact absurd hidle.2 hflags

/-- A check that goes out launches its slot. -/
theorem SendEffect.launch {ice ice' : NanoIce} {check : IceCheck} {slot : Nat} {txid : List UInt8}
    {nowMs : UInt32} {packet : List UInt8} (hcheck : CheckOfSlot ice check slot)
    (hexp : check.expire = false)
    (hsame : SameAgent (iceUnqueueCheck ice slot) ice') (hstate : ice'.state ≠ .connected)
    (hset : ice'.pending = (iceUnqueueCheck ice slot).pending.set slot
      (iceCheckTransaction (ice.pending.getD slot default) check txid nowMs).launch) :
    SendEffect ice (some ⟨(iceCheckTransaction (ice.pending.getD slot default) check txid nowMs).txid,
      check.localIdx, check.remoteIdx, ice.isControlling &&
        (iceCheckTransaction (ice.pending.getD slot default) check txid nowMs).flags.nominate,
      packet⟩) ice' := by
  have hsame' := (iceUnqueueCheck_same ice slot).1.trans hsame
  obtain ⟨hl, hr, hv, hn⟩ := iceCheckTransaction_pair hcheck txid nowMs
  revert hset hl hr hv hn
  generalize iceCheckTransaction (ice.pending.getD slot default) check txid nowMs = t
  intro hset hl hr hv hn
  refine ⟨hsame', fun pair tx n h => ?_, fun pair h => ?_, fun pair h => ?_, .inr hstate⟩
  · obtain ⟨p, hp, hf, htx, hpair, hnom⟩ := h
    rw [hsame'.ofPair] at hpair
    rcases unqueue_set_cases hset hp with ⟨rfl, hmem⟩ | ⟨p', hp', hs⟩
    · have hb : iceLocalBaseIdx ice check.localIdx = pair.base := hl ▸ hpair.1
      have hrem : check.remoteIdx = pair.remote := hr.symm.trans hpair.2
      exact .inr ⟨_, rfl, htx, by rw [← hnom]; rfl, hb, hrem, hrem ▸ hcheck.remote hexp⟩
    · exact .inl ⟨p', hp', hs.inFlight ▸ hf, hs.txid ▸ htx, hs.ofPair hpair, hs.nominate ▸ hnom⟩
  · obtain ⟨p, hp, hval, hpair⟩ := h
    rw [hsame'.ofPair] at hpair
    rcases unqueue_set_cases hset hp with ⟨rfl, hmem⟩ | ⟨p', hp', hs⟩
    · have hval' : (ice.pending.getD slot default).flags.valid := hv ▸ hval
      exact ⟨_, hmem, hval', hcheck.ofPair (fun h => by rw [h] at hval'; exact Bool.false_ne_true hval') (hl ▸ hpair.1)
        (hr.symm.trans hpair.2)⟩
    · exact ⟨p', hp', hs.valid ▸ hval, hs.ofPair hpair⟩
  · obtain ⟨p, hp, hnom, hpair⟩ := h
    rw [hsame'.ofPair] at hpair
    rcases unqueue_set_cases hset hp with ⟨rfl, hmem⟩ | ⟨p', hp', hs⟩
    · have hnom' : (ice.pending.getD slot default).flags.nominate := hn ▸ hnom
      exact ⟨_, hmem, hnom', hcheck.ofPair (fun h => by rw [h] at hnom'; exact Bool.false_ne_true hnom') (hl ▸ hpair.1)
        (hr.symm.trans hpair.2)⟩
    · exact ⟨p', hp', hs.nominate ▸ hnom, hs.ofPair hpair⟩

/-- **What a check due or given up can do.** -/
theorem iceProcessCheck_effect (crypto : CryptoProvider) (ice : NanoIce) (nowMs : UInt32)
    (ready : Option (List Bool)) (random : Option (List UInt8)) (bufLen : Nat) :
    SendEffect ice (iceProcessCheck crypto ice nowMs ready random bufLen).2.2
      (iceProcessCheck crypto ice nowMs ready random bufLen).1 := by
  have hok := iceGetCheck_ok ice nowMs ready
  simp only [iceProcessCheck]
  generalize (iceGetCheck ice nowMs ready).1 = wait
  revert hok
  generalize (iceGetCheck ice nowMs ready).2 = check
  intro hok
  split
  · simp only [iceSendCheck]
    split
    · split
      · exact ⟨⟨rfl, rfl, rfl, rfl, rfl, rfl, rfl, List.prefix_rfl⟩, fun _ _ _ => .inl,
          fun _ => id, fun _ => id, .inr (by simp)⟩
      · exact .expire ..
    · rename_i hexp
      split
      · exact .refl ice
      · rename_i slot hslot
        split
        · exact .refl ice
        split
        · exact .refl ice
        split
        · exact .refl ice
        split
        · exact .refl ice
        · exact .launch (hok slot hslot) (by simpa using hexp)
            ⟨rfl, rfl, rfl, rfl, rfl, rfl, rfl, List.prefix_rfl⟩ (by simp) rfl
  · exact .refl ice

end Nanortc.Spec
