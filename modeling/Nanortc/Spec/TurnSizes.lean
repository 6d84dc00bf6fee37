import Nanortc.Spec.StunRoundTrip
import Nanortc.Spec.TurnFreshness

/-!
# The size of requests

The builders ask for a buffer of `NANORTC_TURN_MAX_REQUEST_SIZE` bytes and then write without
looking. Every request fits that size: the texts of the client are clamped when they are stored,
and the formula counts each attribute with its padding.

## Key results

- `turnSign_fits`: the credentials behind a head that is small enough
- `TurnSized.step`: the texts stay within their fields
- `turnRequests_fit`: every packet of a run fits
-/

namespace Nanortc.Spec

open Nanortc.ForStd Nanortc.Native

theorem attrPadded_mono {n m : Nat} (h : n ≤ m) : attrPadded n ≤ attrPadded m := by
  unfold attrPadded
  omega

/-! ### The size of requests -/

/-- `NANORTC_TURN_MAX_REQUEST_SIZE` for texts of at most these lengths. -/
def turnRequestSize (username realm nonce : Nat) : Nat :=
  stunHeaderSize + 8 + 24 + (4 + attrPadded username) + (4 + attrPadded realm) +
    (4 + attrPadded nonce) + 24

theorem turnRequestSize_default :
    turnRequestSize turnTextSize turnTextSize turnNonceSize = turnMaxRequestSize := rfl

/-- The credentials are no longer than these. -/
structure CredentialsWithin (turn : NanoTurn) (username realm nonce : Nat) : Prop where
  username : turn.username.length ≤ username
  realm : turn.realm.length ≤ realm
  nonce : turn.nonce.length ≤ nonce

theorem length_stunFinalizeLength {buf : List UInt8} (h : 4 ≤ buf.length) :
    (stunFinalizeLength buf).length = buf.length := length_writeAt _ _ _ h

section

variable (crypto : CryptoProvider) {turn : NanoTurn} {u r n : Nat} {txid : List UInt8}

/-- A request whose header and first attributes take no more than a ChannelBind for an IPv6 peer
does. -/
theorem turnSign_fits (hturn : CredentialsWithin turn u r n) {buf : List UInt8}
    (hbuf : 4 ≤ buf.length) (hhead : buf.length ≤ stunHeaderSize + 8 + 24) :
    (turnSign crypto turn buf).length ≤ turnRequestSize u r n := by
  have hu := attrPadded_mono hturn.username
  have hr := attrPadded_mono hturn.realm
  have hn := attrPadded_mono hturn.nonce
  have hmac : attrPadded 20 = 20 := rfl
  have hattrs : (buf ++ stunAttr 0x0006 turn.username ++ stunAttr 0x0014 turn.realm ++
      stunAttr 0x0015 turn.nonce).length = buf.length + (4 + attrPadded turn.username.length) +
      (4 + attrPadded turn.realm.length) + (4 + attrPadded turn.nonce.length) := by
    simp only [List.length_append, length_stunAttr]
  -- both writes of the length field keep the length
  have hwrite (b : List UInt8) (hb : 4 ≤ b.length) (l : UInt16) :
      (writeAt b 2 (u16be l)).length = b.length := length_writeAt _ _ _ hb
  simp only [turnSign, stunAppendIntegrity, turnRequestSize]
  rw [length_stunFinalizeLength]
  · rw [List.length_append, length_stunAttr, crypto.length_hmacSha1, hwrite _ (by omega), hattrs,
      hmac]
    omega
  · rw [List.length_append, hwrite _ (by omega)]
    omega

/-- An encoded peer of either family. -/
theorem length_turnXorAddr_le (type : UInt16) (peer : NanortcAddr)
    (htxid : txid.length ≤ stunTxidSize) : (turnXorAddr type peer txid).length ≤ 24 := by
  rw [stunTxidSize] at htxid
  have hval (val : List UInt8) (h : val.length ≤ 20) : (stunAttr type val).length ≤ 24 := by
    rw [length_stunAttr]
    exact Nat.add_le_add_left (attrPadded_mono h) 4
  unfold turnXorAddr
  apply hval
  split
  · simp
  · simp only [List.length_append, List.length_cons, List.length_nil, length_u16be,
      List.length_zipWith, length_u32be]
    omega

variable (hturn : CredentialsWithin turn u r n) (htxid : txid.length ≤ stunTxidSize)
include hturn htxid

theorem length_turnBuildAllocate {authenticated : Bool} {bufLen : Nat} {out : List UInt8}
    (h : turnBuildAllocate crypto turn authenticated txid bufLen = .ok out) :
    out.length ≤ turnRequestSize u r n := by
  rw [stunTxidSize] at htxid
  have h4 : attrPadded 4 = 4 := rfl
  unfold turnBuildAllocate at h
  split at h
  · cases h
  · dsimp only at h
    have hbuf : (stunHeader 0x0003 0 txid ++ stunAttr 0x0019 [turnTransportUdp, 0, 0, 0] ++
        stunAttr 0x000D (u32be turnDefaultLifetime)).length = 8 + txid.length + 8 + 8 := by
      simp [h4]
    obtain rfl := Except.ok.inj h
    split
    · exact turnSign_fits crypto hturn (by omega) (by rw [hbuf, stunHeaderSize]; omega)
    · rw [length_stunFinalizeLength (by omega), turnRequestSize, stunHeaderSize]
      omega

theorem length_turnBuildRefresh {lifetimeS : UInt32} {bufLen : Nat} {out : List UInt8}
    (h : turnBuildRefresh crypto turn lifetimeS txid bufLen = .ok out) :
    out.length ≤ turnRequestSize u r n := by
  rw [stunTxidSize] at htxid
  have h4 : attrPadded 4 = 4 := rfl
  unfold turnBuildRefresh at h
  split at h
  · cases h
  · have hbuf : (stunHeader 0x0004 0 txid ++ stunAttr 0x000D (u32be lifetimeS)).length =
        8 + txid.length + 8 := by
      simp [h4]
    obtain rfl := Except.ok.inj h
    exact turnSign_fits crypto hturn (by omega) (by rw [hbuf, stunHeaderSize]; omega)

theorem length_turnBuildPermission {peer : NanortcAddr} {bufLen : Nat} {out : List UInt8}
    (h : turnBuildPermission crypto turn peer txid bufLen = .ok out) :
    out.length ≤ turnRequestSize u r n := by
  have hpeer := length_turnXorAddr_le 0x0012 peer htxid
  rw [stunTxidSize] at htxid
  unfold turnBuildPermission at h
  split at h
  · cases h
  · have hbuf : (stunHeader 0x0008 0 txid ++ turnXorAddr 0x0012 peer txid).length =
        8 + txid.length + (turnXorAddr 0x0012 peer txid).length := by
      rw [List.length_append, length_stunHeader]
    obtain rfl := Except.ok.inj h
    exact turnSign_fits crypto hturn (by omega) (by rw [hbuf, stunHeaderSize]; omega)

theorem length_turnBuildChannelBind {c : TurnChannel} {bufLen : Nat} {out : List UInt8}
    (h : turnBuildChannelBind crypto turn c txid bufLen = .ok out) :
    out.length ≤ turnRequestSize u r n := by
  have hpeer := length_turnXorAddr_le 0x0012 ⟨c.family, c.addr, c.port⟩ htxid
  rw [stunTxidSize] at htxid
  have h4 : attrPadded 4 = 4 := rfl
  unfold turnBuildChannelBind at h
  split at h
  · cases h
  · have hbuf : (stunHeader 0x0009 0 txid ++ stunAttr 0x000C (u16be c.channel ++ [0, 0]) ++
        turnXorAddr 0x0012 ⟨c.family, c.addr, c.port⟩ txid).length =
        8 + txid.length + (8 + (turnXorAddr 0x0012 ⟨c.family, c.addr, c.port⟩ txid).length) := by
      simp [h4]
    obtain rfl := Except.ok.inj h
    exact turnSign_fits crypto hturn (by omega) (by rw [hbuf, stunHeaderSize]; omega)

end

/-! ### Requests of a run -/

/-- The texts fit their fields, and so do the transaction ids in use. -/
structure TurnSized (turn : NanoTurn) : Prop where
  username : turn.username.length < turnTextSize
  realm : turn.realm.length < turnTextSize
  nonce : turn.nonce.length < turnNonceSize
  txid : turn.lastTxid.length ≤ stunTxidSize
  permissions : ∀ p ∈ turn.permissions, p.txid.length ≤ stunTxidSize
  channels : ∀ c ∈ turn.channels, c.txid.length ≤ stunTxidSize

theorem TurnSized.within {turn : NanoTurn} (h : TurnSized turn) :
    CredentialsWithin turn turnTextSize turnTextSize turnNonceSize :=
  ⟨Nat.le_of_lt h.username, Nat.le_of_lt h.realm, Nat.le_of_lt h.nonce⟩

theorem TurnSized.start : TurnSized turnInit :=
  ⟨by decide, by decide, by decide, Nat.le_refl _, nofun, nofun⟩

/-- The provider fills the transaction id it is asked for. -/
def FillsTxid (random : Option (List UInt8)) : Prop :=
  ∀ txid, random = some txid → txid.length = stunTxidSize

/-- The id of a retransmission, old or new. -/
theorem turnRetransmitTxid_sized {random : Option (List UInt8)} (hr : FillsTxid random)
    {pending : TurnRequest} {old txid : List UInt8} (hold : old.length ≤ stunTxidSize)
    (ht : turnRetransmitTxid pending old random = some txid) : txid.length ≤ stunTxidSize := by
  unfold turnRetransmitTxid at ht
  split at ht
  · exact (hr txid ht).le
  · exact Option.some.inj ht ▸ hold

/-- A call keeps the sizes, and what it emits fits the largest request. -/
structure CallFits (r : NanoTurn × Except Rc (List UInt8)) : Prop where
  turn : TurnSized r.1
  out : ∀ out, r.2 = .ok out → out.length ≤ turnMaxRequestSize

theorem CallFits.error {turn : NanoTurn} (h : TurnSized turn) (e : Rc) :
    CallFits (turn, .error e) := ⟨h, nofun⟩

theorem CallFits.quiet {turn : NanoTurn} (h : TurnSized turn) : CallFits (turn, .ok []) :=
  ⟨h, fun out hout => by
    obtain rfl := Except.ok.inj hout
    exact Nat.zero_le _⟩

theorem CallFits.sent {r : NanoTurn × Except Rc (List UInt8)} {out : List UInt8}
    (hr : r.2 = .ok out) (h : TurnSized r.1) (hout : out.length ≤ turnMaxRequestSize) :
    CallFits r :=
  ⟨h, fun _ heq => Except.ok.inj (hr.symm.trans heq) ▸ hout⟩

section

variable (crypto : CryptoProvider) {turn : NanoTurn} (h : TurnSized turn)
include h

theorem TurnSized.setPermission (i : Nat) {p : TurnPermission} (hp : p.txid.length ≤ stunTxidSize) :
    ∀ q ∈ turn.permissions.set i p, q.txid.length ≤ stunTxidSize := by
  intro q hq
  cases List.mem_or_eq_of_mem_set hq with
  | inl hmem => exact h.permissions q hmem
  | inr heq => exact heq ▸ hp

theorem TurnSized.setChannel (i : Nat) {c : TurnChannel} (hc : c.txid.length ≤ stunTxidSize) :
    ∀ d ∈ turn.channels.set i c, d.txid.length ≤ stunTxidSize := by
  intro d hd
  cases List.mem_or_eq_of_mem_set hd with
  | inl hmem => exact h.channels d hmem
  | inr heq => exact heq ▸ hc

theorem TurnSized.permission (i : Nat) :
    (turn.permissions.getD i default).txid.length ≤ stunTxidSize := by
  by_cases hi : i < turn.permissions.length
  · rw [List.getD_eq_getElem _ _ hi]
    exact h.permissions _ (List.getElem_mem hi)
  · rw [List.getD_eq_default _ _ (Nat.not_lt.mp hi)]
    exact Nat.zero_le _

theorem TurnSized.channel (i : Nat) :
    (turn.channels.getD i default).txid.length ≤ stunTxidSize := by
  by_cases hi : i < turn.channels.length
  · rw [List.getD_eq_getElem _ _ hi]
    exact h.channels _ (List.getElem_mem hi)
  · rw [List.getD_eq_default _ _ (Nat.not_lt.mp hi)]
    exact Nat.zero_le _

theorem turnClearTransaction_sized : TurnSized (turnClearTransaction turn) :=
  ⟨h.username, h.realm, h.nonce, h.txid, h.permissions, h.channels⟩

theorem turnFail_sized : TurnSized (turnFail turn).1 :=
  ⟨h.username, h.realm, h.nonce, h.txid, h.permissions, h.channels⟩

theorem turnStoreNonce_sized (nonce : List UInt8) : TurnSized (turnStoreNonce turn nonce) where
  username := h.username
  realm := h.realm
  nonce := by
    show (nonce.take (turnNonceSize - 1)).length < turnNonceSize
    rw [List.length_take, turnNonceSize]
    omega
  txid := h.txid
  permissions := by
    intro p hp
    obtain ⟨q, hq, rfl⟩ := List.mem_map.mp hp
    exact h.permissions q hq
  channels := by
    intro c hc
    obtain ⟨d, hd, rfl⟩ := List.mem_map.mp hc
    exact h.channels d hd

theorem turnConfigure_sized (server : NanortcAddr) (username password : List UInt8) :
    TurnSized (turnConfigure turn server username password).1 := by
  unfold turnConfigure
  split
  · exact h
  · rename_i hlen
    exact ⟨Nat.not_le.mp fun hle => hlen (.inl hle), h.realm, h.nonce, h.txid, h.permissions,
      h.channels⟩

theorem turnHandleAllocateError_sized (msg : StunMsg) :
    TurnSized (turnHandleAllocateError crypto turn msg).1 := by
  have hclear := turnClearTransaction_sized h
  unfold turnHandleAllocateError
  split
  · split
    · exact turnFail_sized hclear
    · dsimp only
      split
      · rename_i realm nonce _ _
        have hrealm : (realm.take (turnTextSize - 1)).length < turnTextSize := by
          rw [List.length_take, turnTextSize]
          omega
        have hread : TurnSized { turnClearTransaction turn with
            realm := realm.take (turnTextSize - 1) } :=
          ⟨h.username, hrealm, h.nonce, h.txid, h.permissions, h.channels⟩
        have hstored := turnStoreNonce_sized hread nonce
        exact ⟨hstored.username, hstored.realm, hstored.nonce, hstored.txid, hstored.permissions,
          hstored.channels⟩
      · exact turnFail_sized hclear
  · exact turnFail_sized hclear

theorem turnHandlePermissionError_sized (nowMs : UInt32) (msg : StunMsg) (i : Nat)
    {p : TurnPermission} (hp : p.txid.length ≤ stunTxidSize) :
    TurnSized (turnHandlePermissionError turn nowMs msg i p).1 := by
  unfold turnHandlePermissionError
  dsimp only
  split
  · exact ⟨h.username, h.realm, h.nonce, h.txid, h.setPermission i hp, h.channels⟩
  split
  · exact ⟨h.username, h.realm, h.nonce, h.txid, h.setPermission i hp, h.channels⟩
  · exact ⟨h.username, h.realm, h.nonce, h.txid, h.setPermission i hp, h.channels⟩

theorem turnDispatchResponse_sized (nowMs : UInt32) (msg : StunMsg) (perm chan : Option Nat) :
    TurnSized (turnDispatchResponse crypto turn nowMs msg perm chan).1 := by
  unfold turnDispatchResponse
  dsimp only
  cases TurnMsgType.ofType msg.type with
  | allocateResponse =>
    dsimp only
    split
    · exact h
    · exact ⟨h.username, h.realm, h.nonce, h.txid, h.permissions, h.channels⟩
  | allocateError => exact turnHandleAllocateError_sized crypto h msg
  | refreshResponse => exact ⟨h.username, h.realm, h.nonce, h.txid, h.permissions, h.channels⟩
  | refreshError => exact turnFail_sized (turnClearTransaction_sized h)
  | permissionResponse =>
    cases perm with
    | none => exact h
    | some i =>
      exact ⟨h.username, h.realm, h.nonce, h.txid, h.setPermission i (h.permission i), h.channels⟩
  | permissionError =>
    cases perm with
    | none => exact h
    | some i => exact turnHandlePermissionError_sized h nowMs msg i (h.permission i)
  | channelBindResponse =>
    cases chan with
    | none => exact h
    | some i =>
      exact ⟨h.username, h.realm, h.nonce, h.txid, h.permissions, h.setChannel i (h.channel i)⟩
  | channelBindError =>
    cases chan with
    | none => exact h
    | some i =>
      exact ⟨h.username, h.realm, h.nonce, h.txid, h.permissions, h.setChannel i (h.channel i)⟩
  | other => exact h

theorem turnHandleStaleNonce_sized (nowMs : UInt32) (msg : StunMsg)
    (txidMatch authenticated : Bool) (perm chan : Option Nat) :
    TurnSized (turnHandleStaleNonce turn nowMs msg txidMatch authenticated perm chan).1 := by
  unfold turnHandleStaleNonce
  dsimp only
  generalize (if txidMatch then turn.transactionTransmissions else _ : Nat) = transmissions
  cases msg.nonce with
  | none => exact turnFail_sized (turnClearTransaction_sized h)
  | some nonce =>
    have hs := turnStoreNonce_sized h nonce
    dsimp only
    split
    · exact turnFail_sized (turnClearTransaction_sized h)
    split
    · exact ⟨hs.username, hs.realm, hs.nonce, hs.txid, hs.permissions, hs.channels⟩
    cases perm with
    | some i =>
      exact ⟨hs.username, hs.realm, hs.nonce, hs.txid, hs.setPermission i (hs.permission i),
        hs.channels⟩
    | none =>
      exact ⟨hs.username, hs.realm, hs.nonce, hs.txid, hs.permissions,
        hs.setChannel _ (hs.channel _)⟩

theorem turnHandleResponse_sized (nowMs : UInt32) (data : List UInt8) :
    TurnSized (turnHandleResponse crypto turn nowMs data).1 := by
  rw [turnHandleResponse_eq]
  split
  · exact h
  · dsimp only
    split
    · exact turnHandleStaleNonce_sized h ..
    · exact turnDispatchResponse_sized crypto h ..

variable {random : Option (List UInt8)} (hr : FillsTxid random) (bufLen : Nat)
include hr

theorem turnStartAllocate_fits : CallFits (turnStartAllocate crypto turn random bufLen) := by
  unfold turnStartAllocate
  split
  · exact .error h _
  split
  · exact .error h _
  cases hrandom : random with
  | none => exact .error h _
  | some txid =>
    have htxid := (hr txid hrandom).le
    dsimp only
    split
    · exact .error h _
    · rename_i hbuild
      exact .sent rfl ⟨h.username, h.realm, h.nonce, htxid, h.permissions, h.channels⟩
        (length_turnBuildAllocate crypto h.within htxid hbuild)

theorem turnGenerateRefresh_fits (nowMs : UInt32) :
    CallFits (turnGenerateRefresh crypto turn nowMs random bufLen) := by
  unfold turnGenerateRefresh
  iterate 3
    split
    · exact .quiet h
  cases hrandom : random with
  | none => exact .error h _
  | some txid =>
    have htxid := (hr txid hrandom).le
    dsimp only
    split
    · exact .error h _
    · rename_i hbuild
      exact .sent rfl ⟨h.username, h.realm, h.nonce, htxid, h.permissions, h.channels⟩
        (length_turnBuildRefresh crypto h.within htxid hbuild)

theorem turnDeallocate_fits : CallFits (turnDeallocate crypto turn random bufLen) := by
  unfold turnDeallocate
  split
  · exact .error h _
  split
  · exact .error h _
  cases hrandom : random with
  | none => exact .error h _
  | some txid =>
    have htxid := (hr txid hrandom).le
    dsimp only
    split
    · exact .error h _
    · rename_i hbuild
      exact .sent rfl ⟨h.username, h.realm, h.nonce, h.txid, nofun, nofun⟩
        (length_turnBuildRefresh crypto h.within htxid hbuild)

theorem turnCreatePermission_fits (peer : NanortcAddr) :
    CallFits (turnCreatePermission crypto turn peer random bufLen) := by
  unfold turnCreatePermission
  split
  · exact .error h _
  split
  · exact .error h _
  dsimp only
  split
  · exact .error h _
  split
  · exact .quiet h
  cases hrandom : random with
  | none => exact .error h _
  | some txid =>
    have htxid := (hr txid hrandom).le
    dsimp only
    split
    · exact .error h _
    · rename_i hbuild
      refine .sent rfl ⟨h.username, h.realm, h.nonce, h.txid, ?_, h.channels⟩
        (length_turnBuildPermission crypto h.within htxid hbuild)
      cases turnFindPermission turn peer.addr peer.family with
      | none =>
        intro p hp
        cases List.mem_append.mp hp with
        | inl hp => exact h.permissions p hp
        | inr hp =>
          obtain rfl := List.mem_singleton.mp hp
          exact htxid
      | some i => exact h.setPermission i htxid

theorem turnChannelBind_fits (peer : NanortcAddr) :
    CallFits (turnChannelBind crypto turn peer random bufLen) := by
  unfold turnChannelBind
  split
  · exact .error h _
  split
  · exact .error h _
  cases turn.channels.findIdx? (·.isFor peer) with
  | none =>
    dsimp only
    split
    · exact .error h _
    split
    · exact .error h _
    cases hrandom : random with
    | none => exact .error h _
    | some txid =>
      have htxid := (hr txid hrandom).le
      dsimp only
      split
      · exact .error h _
      · rename_i hbuild
        refine .sent rfl ⟨h.username, h.realm, h.nonce, h.txid, h.permissions, fun c hc => ?_⟩
          (length_turnBuildChannelBind crypto h.within htxid hbuild)
        cases List.mem_append.mp hc with
        | inl hc => exact h.channels c hc
        | inr hc =>
          obtain rfl := List.mem_singleton.mp hc
          exact htxid
  | some i =>
    dsimp only
    split
    · exact .quiet h
    cases hrandom : random with
    | none => exact .error h _
    | some txid =>
      have htxid := (hr txid hrandom).le
      dsimp only
      split
      · exact ⟨⟨h.username, h.realm, h.nonce, h.txid, h.permissions, h.setChannel i htxid⟩, nofun⟩
      · rename_i hbuild
        exact .sent rfl ⟨h.username, h.realm, h.nonce, h.txid, h.permissions, h.setChannel i htxid⟩
          (length_turnBuildChannelBind crypto h.within htxid hbuild)

theorem turnRetransmitPermissions_fits (nowMs : UInt32) {ps : List TurnPermission}
    (hps : ∀ p ∈ ps, p.txid.length ≤ stunTxidSize) :
    (∀ p ∈ (turnRetransmitPermissions crypto turn nowMs random bufLen ps).1,
      p.txid.length ≤ stunTxidSize) ∧
    ∀ out, (turnRetransmitPermissions crypto turn nowMs random bufLen ps).2 = some (.ok out) →
      out.length ≤ turnMaxRequestSize := by
  induction ps with
  | nil => exact ⟨hps, fun out h => by cases h⟩
  | cons p ps ih =>
    obtain ⟨hp, hrest⟩ := List.forall_mem_cons.mp hps
    obtain ⟨ih1, ih2⟩ := ih hrest
    unfold turnRetransmitPermissions
    cases turnDue nowMs p.pending p.deadlineMs p.transmissions with
    | skip => exact ⟨List.forall_mem_cons.mpr ⟨hp, ih1⟩, ih2⟩
    | arm => exact ⟨List.forall_mem_cons.mpr ⟨hp, ih1⟩, ih2⟩
    | expire => exact ⟨List.forall_mem_cons.mpr ⟨hp, ih1⟩, ih2⟩
    | send =>
      dsimp only
      split
      · exact ⟨hps, fun out h => by cases h⟩
      · rename_i txid htxid
        have hfit := turnRetransmitTxid_sized hr hp htxid
        split
        · exact ⟨hps, fun out h => by cases h⟩
        · rename_i hbuild
          refine ⟨List.forall_mem_cons.mpr ⟨hfit, hrest⟩, fun out hout => ?_⟩
          obtain rfl := Except.ok.inj (Option.some.inj hout)
          exact length_turnBuildPermission crypto h.within hfit hbuild

theorem turnRetransmitChannels_fits (nowMs : UInt32) {cs : List TurnChannel}
    (hcs : ∀ c ∈ cs, c.txid.length ≤ stunTxidSize) :
    (∀ c ∈ (turnRetransmitChannels crypto turn nowMs random bufLen cs).1,
      c.txid.length ≤ stunTxidSize) ∧
    ∀ out, (turnRetransmitChannels crypto turn nowMs random bufLen cs).2 = some (.ok out) →
      out.length ≤ turnMaxRequestSize := by
  induction cs with
  | nil => exact ⟨hcs, fun out h => by cases h⟩
  | cons c cs ih =>
    obtain ⟨hc, hrest⟩ := List.forall_mem_cons.mp hcs
    obtain ⟨ih1, ih2⟩ := ih hrest
    unfold turnRetransmitChannels
    cases turnDue nowMs c.pending c.deadlineMs c.transmissions with
    | skip => exact ⟨List.forall_mem_cons.mpr ⟨hc, ih1⟩, ih2⟩
    | arm => exact ⟨List.forall_mem_cons.mpr ⟨hc, ih1⟩, ih2⟩
    | expire => exact ⟨List.forall_mem_cons.mpr ⟨hc, ih1⟩, ih2⟩
    | send =>
      dsimp only
      split
      · exact ⟨hcs, fun out h => by cases h⟩
      · rename_i txid htxid
        have hfit := turnRetransmitTxid_sized hr hc htxid
        split
        · exact ⟨hcs, fun out h => by cases h⟩
        · rename_i hbuild
          refine ⟨List.forall_mem_cons.mpr ⟨hfit, hrest⟩, fun out hout => ?_⟩
          obtain rfl := Except.ok.inj (Option.some.inj hout)
          exact length_turnBuildChannelBind crypto h.within hfit hbuild

theorem turnRetransmitTables_fits (nowMs : UInt32) :
    CallFits (turnRetransmitTables crypto turn nowMs random bufLen) := by
  obtain ⟨hperm, hpout⟩ := turnRetransmitPermissions_fits crypto h hr bufLen nowMs h.permissions
  unfold turnRetransmitTables
  dsimp only
  split
  · rename_i out hout
    exact ⟨⟨h.username, h.realm, h.nonce, h.txid, hperm, h.channels⟩,
      fun o ho => hpout o (hout.trans (congrArg some ho))⟩
  · have hsized : TurnSized { turn with
        permissions := (turnRetransmitPermissions crypto turn nowMs random bufLen
          turn.permissions).1 } :=
      ⟨h.username, h.realm, h.nonce, h.txid, hperm, h.channels⟩
    obtain ⟨hchan, hcout⟩ := turnRetransmitChannels_fits crypto hsized hr bufLen nowMs h.channels
    refine ⟨⟨h.username, h.realm, h.nonce, h.txid, hperm, hchan⟩, fun o ho => ?_⟩
    revert hcout ho
    generalize (turnRetransmitChannels crypto _ nowMs random bufLen turn.channels).2 = out
    intro hcout ho
    cases out with
    | none =>
      obtain rfl := Except.ok.inj ho
      exact Nat.zero_le _
    | some r => exact hcout o (congrArg some ho)

theorem turnGenerateRetransmit_fits (nowMs : UInt32) :
    CallFits (turnGenerateRetransmit crypto turn nowMs random bufLen) := by
  have htables := turnRetransmitTables_fits crypto h hr bufLen nowMs
  unfold turnGenerateRetransmit
  split
  · exact htables
  split
  · have hsized (retryAtMs : UInt32) : TurnSized { turn with transactionRetryAtMs := retryAtMs } :=
      ⟨h.username, h.realm, h.nonce, h.txid, h.permissions, h.channels⟩
    exact turnRetransmitTables_fits crypto (hsized _) hr bufLen nowMs
  split
  · exact htables
  split
  · exact ⟨⟨h.username, h.realm, h.nonce, h.txid, h.permissions, h.channels⟩, nofun⟩
  split
  · exact .error h _
  · rename_i txid htxid
    have hfit : txid.length ≤ stunTxidSize := by
      split at htxid
      · exact (hr txid htxid).le
      · exact Option.some.inj htxid ▸ h.txid
    dsimp only
    split
    · exact .error h _
    · rename_i hbuild
      refine .sent rfl ⟨h.username, h.realm, h.nonce, hfit, h.permissions, h.channels⟩ ?_
      split at hbuild
      · exact length_turnBuildAllocate crypto h.within hfit hbuild
      · exact length_turnBuildRefresh crypto h.within hfit hbuild

theorem turnDoWork_fits (nowMs : UInt32) (work : TurnWork) :
    CallFits (turnDoWork crypto turn nowMs work random bufLen) := by
  unfold turnDoWork
  cases work.type with
  | none => exact .quiet h
  | retransmit => exact .quiet h
  | allocate => exact turnStartAllocate_fits crypto h hr bufLen
  | refresh => exact turnGenerateRefresh_fits crypto h hr bufLen nowMs
  | permission => exact turnCreatePermission_fits crypto h hr bufLen _
  | channel => exact turnChannelBind_fits crypto h hr bufLen _

theorem turnPollOutput_fits (nowMs : UInt32) :
    CallFits (turnPollOutput crypto turn nowMs random bufLen) := by
  unfold turnPollOutput
  dsimp only
  split
  · exact .quiet h
  split
  · have hretx := turnGenerateRetransmit_fits crypto h hr bufLen nowMs
    revert hretx
    generalize turnGenerateRetransmit crypto turn nowMs random bufLen = r
    intro hretx
    split
    · split
      · exact .quiet hretx.turn
      · exact turnDoWork_fits crypto hretx.turn hr bufLen nowMs _
    · exact hretx
  · exact turnDoWork_fits crypto h hr bufLen nowMs _

end

/-- The random bytes of a call. -/
def TurnInput.random : TurnInput → Option (List UInt8)
  | .startAllocate random _ | .generateRefresh _ random _ | .createPermission _ random _
  | .channelBind _ random _ | .generateRetransmit _ random _ | .pollOutput _ random _
  | .deallocate random _ => random
  | .configure _ _ _ | .handleResponse _ _ | .resetPeerState => none

theorem mem_emitted_ok {r : Except Rc (List UInt8)} {out : List UInt8} (h : out ∈ emitted r) :
    r = .ok out := by
  cases r with
  | error e => exact nomatch h
  | ok o =>
    cases o with
    | nil => exact nomatch h
    | cons b bs =>
      obtain rfl := List.mem_singleton.mp h
      rfl

/-- **A call keeps the sizes, and its packets fit.** -/
theorem TurnSized.step (crypto : CryptoProvider) {turn : NanoTurn} (h : TurnSized turn)
    {i : TurnInput} (hi : FillsTxid i.random) :
    TurnSized (turnStep crypto turn i) ∧
      ∀ out ∈ turnPackets crypto turn i, out.length ≤ turnMaxRequestSize := by
  have hcall {r : NanoTurn × Except Rc (List UInt8)} (hr : CallFits r) :
      TurnSized r.1 ∧ ∀ out ∈ emitted r.2, out.length ≤ turnMaxRequestSize :=
    ⟨hr.turn, fun out hout => hr.out out (mem_emitted_ok hout)⟩
  cases i with
  | configure server username password =>
    exact ⟨turnConfigure_sized h server username password, nofun⟩
  | startAllocate random bufLen => exact hcall (turnStartAllocate_fits crypto h hi bufLen)
  | handleResponse nowMs data => exact ⟨turnHandleResponse_sized crypto h nowMs data, nofun⟩
  | generateRefresh nowMs random bufLen =>
    exact hcall (turnGenerateRefresh_fits crypto h hi bufLen nowMs)
  | createPermission peer random bufLen =>
    exact hcall (turnCreatePermission_fits crypto h hi bufLen peer)
  | channelBind peer random bufLen => exact hcall (turnChannelBind_fits crypto h hi bufLen peer)
  | generateRetransmit nowMs random bufLen =>
    exact hcall (turnGenerateRetransmit_fits crypto h hi bufLen nowMs)
  | pollOutput nowMs random bufLen => exact hcall (turnPollOutput_fits crypto h hi bufLen nowMs)
  | deallocate random bufLen => exact hcall (turnDeallocate_fits crypto h hi bufLen)
  | resetPeerState => exact ⟨⟨h.username, h.realm, h.nonce, h.txid, nofun, nofun⟩, nofun⟩

/-- **Every request of a run fits.** -/
theorem turnRequests_fit (crypto : CryptoProvider) {is : List TurnInput}
    (his : ∀ i ∈ is, FillsTxid i.random) :
    ∀ packet ∈ (run (turnSendStep crypto) turnSendStart is).sent,
      packet.length ≤ turnMaxRequestSize := by
  have key : TurnSized (run (turnSendStep crypto) turnSendStart is).turn ∧
      ∀ packet ∈ (run (turnSendStep crypto) turnSendStart is).sent,
        packet.length ≤ turnMaxRequestSize := by
    induction is using List.reverseRecOn with
    | nil => exact ⟨.start, nofun⟩
    | append_singleton is i ih =>
      rw [run_snoc]
      obtain ⟨hturn, hsent⟩ := ih fun j hj => his j (List.mem_append_left [i] hj)
      obtain ⟨hturn', hout⟩ := hturn.step crypto (i := i)
        (his i (List.mem_append_right is List.mem_cons_self))
      refine ⟨hturn', fun packet hp => ?_⟩
      cases List.mem_append.mp hp with
      | inl hp => exact hsent packet hp
      | inr hp => exact hout packet hp
  exact key.2

end Nanortc.Spec
