import Nanortc.Spec.TurnSizes

/-!
# Framing of relayed data

A payload crosses the relay as ChannelData or in an indication. What one side wraps the other
unwraps, and a message that was cut, or that is of another type, leaves the payload of the caller
alone.

## Key results

- `turnUnwrapChannelData_wrap`, `turnUnwrapData_wrap`: both framings round trip
- `turnUnwrapChannelDataInto_cut`, `turnUnwrapDataInto_exact`: what is refused
- `turn_framing`: the framing contract, with the sizes of requests
-/

namespace Nanortc.Spec

open Nanortc.ForStd Nanortc.Native

/-! ### ChannelData -/

/-- The numbers that `turn_unwrap_channel_data` takes. -/
def ChannelInRange (channel : UInt16) : Prop := 0x4000 ≤ channel ∧ channel ≤ 0x7FFF

theorem not_channelInRange {channel : UInt16} :
    ¬ ChannelInRange channel ↔ channel < 0x4000 ∨ channel > 0x7FFF := by
  simp only [ChannelInRange, not_and_or, UInt16.not_le, gt_iff_lt]

theorem le_attrPadded (n : Nat) : n ≤ attrPadded n := by
  unfold attrPadded
  omega

theorem attrPadded_mod (n : Nat) : attrPadded n % 4 = 0 := by
  unfold attrPadded
  omega

/-- The bytes of a ChannelData message. -/
def channelFrame (channel : UInt16) (payload : List UInt8) : List UInt8 :=
  u16be channel ++ u16be (UInt16.ofNat payload.length) ++ payload ++
    List.replicate (attrPadded payload.length - payload.length) 0

theorem nanoTurnWrapChannelData_ok (channel : UInt16) {payload : List UInt8} {bufLen : Nat}
    (h : 4 + attrPadded payload.length ≤ bufLen) :
    nanoTurnWrapChannelData channel payload bufLen = .ok (channelFrame channel payload) := by
  rw [nanoTurnWrapChannelData]
  exact if_neg (Nat.not_lt.mpr h)

theorem length_channelFrame (channel : UInt16) (payload : List UInt8) :
    (channelFrame channel payload).length = 4 + attrPadded payload.length := by
  have := le_attrPadded payload.length
  simp only [channelFrame, List.length_append, length_u16be, List.length_replicate]
  omega

theorem channelFrame_number (channel : UInt16) (payload : List UInt8) :
    readU16be (channelFrame channel payload) 0 = channel := by
  rw [channelFrame, List.append_assoc, List.append_assoc]
  exact readU16be_u16be _ _

theorem channelFrame_length (channel : UInt16) (payload : List UInt8) :
    (readU16be (channelFrame channel payload) 2).toNat = payload.length % 65536 := by
  have h2 : (u16be channel).length = 2 := length_u16be channel
  rw [channelFrame, List.append_assoc, List.append_assoc, readU16be_append_u16be h2]
  exact UInt16.toNat_ofNat'

/-- **ChannelData is unwrapped** to its number and the payload; the length field holds 16 bits. -/
theorem turnUnwrapChannelData_wrap (out : TurnChannelOut) {channel : UInt16}
    (hchan : ChannelInRange channel) (payload : List UInt8) :
    turnUnwrapChannelDataInto out (channelFrame channel payload) =
      (⟨channel, payload.take (payload.length % 65536)⟩, .ok) := by
  have hpad := le_attrPadded payload.length
  have hmod := Nat.mod_le payload.length 65536
  have hbytes : ((channelFrame channel payload).drop 4).take (payload.length % 65536) =
      payload.take (payload.length % 65536) := by
    rw [channelFrame, List.append_assoc]
    show (payload ++ _).take _ = _
    exact List.take_append_of_le_length hmod
  rw [turnUnwrapChannelDataInto, length_channelFrame, if_neg (by omega)]
  dsimp only
  rw [channelFrame_number, channelFrame_length, if_neg (fun h => not_channelInRange.mpr h hchan),
    if_neg (by omega), hbytes]

/-- A number out of range is refused. -/
theorem turnUnwrapChannelData_range (out : TurnChannelOut) {channel : UInt16}
    (hchan : ¬ ChannelInRange channel) (payload : List UInt8) :
    (turnUnwrapChannelDataInto out (channelFrame channel payload)).2 = .protocol := by
  rw [turnUnwrapChannelDataInto, length_channelFrame, if_neg (by omega)]
  dsimp only
  rw [channelFrame_number, if_pos (not_channelInRange.mp hchan)]

/-- What an accepted ChannelData message is. -/
theorem turnUnwrapChannelDataInto_ok_iff (out : TurnChannelOut) (data : List UInt8) :
    (turnUnwrapChannelDataInto out data).2 = .ok ↔
      4 ≤ data.length ∧ ChannelInRange (readU16be data 0) ∧
        4 + (readU16be data 2).toNat ≤ data.length := by
  unfold turnUnwrapChannelDataInto
  dsimp only
  split
  · exact ⟨fun h => (nomatch h), fun h => by omega⟩
  split
  · rename_i hrange
    exact ⟨fun h => (nomatch h), fun h => absurd h.2.1 (not_channelInRange.mpr hrange)⟩
  · rename_i hlen hrange
    rw [← not_channelInRange, not_not] at hrange
    split
    · exact ⟨fun h => (nomatch h), fun h => by omega⟩
    · exact ⟨fun _ => ⟨by omega, hrange, by omega⟩, fun _ => rfl⟩

/-- A refused message leaves the payload of the caller alone. -/
theorem turnUnwrapChannelDataInto_refused {out : TurnChannelOut} {data : List UInt8}
    (h : (turnUnwrapChannelDataInto out data).2 ≠ .ok) :
    (turnUnwrapChannelDataInto out data).1.payload = out.payload := by
  unfold turnUnwrapChannelDataInto at h ⊢
  dsimp only at h ⊢
  split
  · rfl
  split
  · rfl
  split
  · rfl
  · rename_i hlen hrange hfit
    rw [if_neg hlen, if_neg hrange, if_neg hfit] at h
    exact absurd rfl h

theorem turnUnwrapChannelDataInto_payload {out : TurnChannelOut} {data : List UInt8}
    (h : (turnUnwrapChannelDataInto out data).2 = .ok) :
    (turnUnwrapChannelDataInto out data).1 =
      ⟨readU16be data 0, (data.drop 4).take (readU16be data 2).toNat⟩ := by
  obtain ⟨hlen, hrange, hfit⟩ := (turnUnwrapChannelDataInto_ok_iff out data).mp h
  rw [turnUnwrapChannelDataInto, if_neg (Nat.not_lt.mpr hlen)]
  dsimp only
  rw [if_neg (fun h => not_channelInRange.mpr h hrange), if_neg (Nat.not_lt.mpr hfit)]

/-- An accepted message is refused when it is cut inside its payload; what follows the payload is
padding. -/
theorem turnUnwrapChannelDataInto_cut {out : TurnChannelOut} {data : List UInt8}
    (h : (turnUnwrapChannelDataInto out data).2 = .ok) :
    (∀ out' n, n < 4 + (turnUnwrapChannelDataInto out data).1.payload.length →
      (turnUnwrapChannelDataInto out' (data.take n)).2 ≠ .ok) ∧
    ∀ out' padding, turnUnwrapChannelDataInto out' (data ++ padding) =
      ((turnUnwrapChannelDataInto out data).1, .ok) := by
  obtain ⟨hlen, hrange, hfit⟩ := (turnUnwrapChannelDataInto_ok_iff out data).mp h
  rw [turnUnwrapChannelDataInto_payload h]
  constructor
  · intro out' n hn hok
    obtain ⟨hlen', -, hfit'⟩ := (turnUnwrapChannelDataInto_ok_iff out' _).mp hok
    rw [List.length_take] at hlen' hfit'
    have hfield : readU16be (data.take n) 2 = readU16be data 2 :=
      readU16be_of_take_eq (n := 4) (by rw [List.take_take, Nat.min_eq_left (by omega)])
        (by omega)
    rw [hfield] at hfit'
    simp only [List.length_take, List.length_drop] at hn
    omega
  · intro out' padding
    have hhead : (data ++ padding).take 4 = data.take 4 := List.take_append_of_le_length hlen
    have h0 : readU16be (data ++ padding) 0 = readU16be data 0 :=
      readU16be_of_take_eq hhead (by omega)
    have h2 : readU16be (data ++ padding) 2 = readU16be data 2 :=
      readU16be_of_take_eq hhead (by omega)
    have hok : (turnUnwrapChannelDataInto out' (data ++ padding)).2 = .ok := by
      rw [turnUnwrapChannelDataInto_ok_iff, h0, h2, List.length_append]
      exact ⟨by omega, hrange, by omega⟩
    rw [← Prod.mk.eta (p := turnUnwrapChannelDataInto out' (data ++ padding)), hok,
      turnUnwrapChannelDataInto_payload hok, h0, h2, List.drop_append_of_le_length hlen,
      List.take_append_of_le_length (by rw [List.length_drop]; omega)]

/-! ### Indications -/

/-- A peer under the family code of the attributes; the builders write every family but 4 as
IPv6. -/
def stunPeer (peer : NanortcAddr) : StunAddr :=
  ⟨peer.addr, peer.port, if peer.family = 4 then stunFamilyIpv4 else stunFamilyIpv6⟩

theorem stunPeer_family (peer : NanortcAddr) : (stunPeer peer).family ≠ 0 := by
  show (if peer.family = 4 then stunFamilyIpv4 else stunFamilyIpv6) ≠ 0
  split
  · decide
  · decide

/-- The XOR-encoded peer of the TURN builders is that of the STUN codec. -/
theorem turnXorAddr_eq {peer : NanortcAddr} {txid : List UInt8}
    (htxid : txid.length = stunTxidSize) (haddr : peer.addr.length = addrSize) (type : UInt16) :
    ∃ val, stunXorAddr (stunPeer peer) txid = some val ∧
      turnXorAddr type peer txid = stunAttr type val ∧
      val.length = if peer.family = 4 then 8 else 20 := by
  have hcode : (stunPeer peer).family = if peer.family = 4 then stunFamilyIpv4 else stunFamilyIpv6 :=
    rfl
  by_cases hfam : peer.family = 4
  · rw [if_pos hfam] at hcode
    obtain ⟨val, hval, hlen⟩ := stunXorAddr_some (a := stunPeer peer) htxid haddr (.inl hcode)
    rw [if_pos hcode] at hlen
    refine ⟨val, hval, ?_, by rw [if_pos hfam, hlen]⟩
    rw [stunXorAddr, if_pos hcode] at hval
    rw [turnXorAddr, if_pos hfam, ← Option.some.inj hval]
    rfl
  · rw [if_neg hfam] at hcode
    have hne : (stunPeer peer).family ≠ stunFamilyIpv4 := by
      rw [hcode]
      decide
    obtain ⟨val, hval, hlen⟩ := stunXorAddr_some (a := stunPeer peer) htxid haddr (.inr hcode)
    rw [if_neg hne] at hlen
    refine ⟨val, hval, ?_, by rw [if_neg hfam, hlen]⟩
    rw [stunXorAddr, if_neg hne, if_pos hcode] at hval
    rw [turnXorAddr, if_neg hfam, ← Option.some.inj hval]
    rfl

/-- The attributes that `turn_wrap_send` writes. -/
def sendAttrs (peer : NanortcAddr) (payload : List UInt8) : List UInt8 :=
  turnXorAddr 0x0012 peer (List.replicate stunTxidSize 0) ++ stunAttr 0x0013 payload

/-- The bytes of these attributes. -/
def sendAttrsSize (peer : NanortcAddr) (n : Nat) : Nat :=
  (if peer.family = 4 then 12 else 24) + (4 + attrPadded n)

theorem length_sendAttrs {peer : NanortcAddr} (haddr : peer.addr.length = addrSize)
    (payload : List UInt8) :
    (sendAttrs peer payload).length = sendAttrsSize peer payload.length := by
  obtain ⟨val, -, hattr, hlen⟩ := turnXorAddr_eq (List.length_replicate) haddr 0x0012
  rw [sendAttrs, hattr, List.length_append, length_stunAttr, length_stunAttr, hlen, sendAttrsSize]
  split
  · rfl
  · rfl

/-- The Data indication with the attributes of a Send indication: another message type. -/
def dataIndication (frame : List UInt8) : List UInt8 := writeAt frame 0 (u16be stunDataIndication)

/-- What `turn_wrap_send` writes. -/
theorem turnWrapSend_ok (peer : NanortcAddr) {payload : List UInt8} {bufLen : Nat}
    (hfit : stunHeaderSize + 32 + 4 + attrPadded payload.length ≤ bufLen)
    (hshort : payload.length < 65536) :
    turnWrapSend peer payload bufLen =
      .ok (stunHeader 0x0016 (UInt16.ofNat (sendAttrs peer payload).length)
        (List.replicate stunTxidSize 0) ++ sendAttrs peer payload) := by
  have hhead : (stunHeader 0x0016 0 (List.replicate stunTxidSize 0)).length = stunHeaderSize := rfl
  rw [turnWrapSend, if_neg (Nat.not_lt.mpr hfit), Nat.mod_eq_of_lt hshort, List.take_length]
  dsimp only
  rw [List.append_assoc]
  show Except.ok (stunFinalizeLength (_ ++ sendAttrs peer payload)) = _
  rw [stunFinalizeLength, List.length_append, hhead, Nat.add_sub_cancel_left, writeAt_stunHeader]

/-- The two attributes are read back. -/
theorem reads_sendAttrs {peer : NanortcAddr} (haddr : peer.addr.length = addrSize)
    {payload : List UInt8} (hshort : payload.length < 65536) (l : UInt16) :
    Reads (sendAttrs peer payload) 2
      { type := stunDataIndication, length := l, transactionId := List.replicate stunTxidSize 0 }
      { type := stunDataIndication, length := l, transactionId := List.replicate stunTxidSize 0,
        peer := plainAddr (stunPeer peer), dataAttr := some payload } := by
  have htxid : (List.replicate stunTxidSize (0 : UInt8)).length = stunTxidSize :=
    List.length_replicate
  obtain ⟨val, hval, hattr, hlen⟩ := turnXorAddr_eq htxid haddr 0x0012
  have hsmall : val.length < 65536 := by
    rw [hlen]
    split
    · decide
    · decide
  rw [sendAttrs, hattr]
  have hpeer : Reads (stunAttr 0x0012 val) 1
      { type := stunDataIndication, length := l, transactionId := List.replicate stunTxidSize 0 }
      { type := stunDataIndication, length := l, transactionId := List.replicate stunTxidSize 0,
        peer := plainAddr (stunPeer peer) } :=
    Reads.attr hsmall (by decide) (by decide) fun pos tail => by
      have hdecode := stunDecodeXorAddr_xorAddr htxid (show (stunPeer peer).addr.length = _ from haddr)
        hval tail
      simp only [stunParseAttr, hdecode]
      rfl
  refine hpeer.append (Reads.attr hshort (by decide) (by decide) fun pos tail => ?_)
  show Except.ok _ = Except.ok _
  rw [List.take_left]

/-- **A Data indication is unwrapped** to the peer and the payload. -/
theorem turnUnwrapData_wrap (out : TurnDataOut) {peer : NanortcAddr}
    (haddr : peer.addr.length = addrSize) {payload : List UInt8} {bufLen : Nat}
    (hfit : stunHeaderSize + 32 + 4 + attrPadded payload.length ≤ bufLen)
    (hlen : sendAttrsSize peer payload.length < 65536) :
    ∃ frame, turnWrapSend peer payload bufLen = .ok frame ∧
      turnUnwrapDataInto out (dataIndication frame) =
        if payload = [] then (out, .protocol)
        else (⟨plainAddr (stunPeer peer), payload⟩, .ok) := by
  have hshort : payload.length < 65536 := by
    have := le_attrPadded payload.length
    unfold sendAttrsSize at hlen
    omega
  have hsize := length_sendAttrs haddr payload
  have hmult : (sendAttrs peer payload).length % 4 = 0 := by
    have := attrPadded_mod payload.length
    rw [hsize, sendAttrsSize]
    split <;> omega
  refine ⟨_, turnWrapSend_ok peer hfit hshort, ?_⟩
  have hframe : dataIndication (stunHeader 0x0016 (UInt16.ofNat (sendAttrs peer payload).length)
      (List.replicate stunTxidSize 0) ++ sendAttrs peer payload) =
      stunHeader stunDataIndication (UInt16.ofNat (sendAttrs peer payload).length)
        (List.replicate stunTxidSize 0) ++ sendAttrs peer payload := rfl
  have hdrop : (stunHeader stunDataIndication (UInt16.ofNat (sendAttrs peer payload).length)
      (List.replicate stunTxidSize 0) ++ sendAttrs peer payload).drop stunHeaderSize =
      sendAttrs peer payload ++ [] := by
    rw [List.append_nil]
    exact List.drop_left' rfl
  have hparse := @stunParse_stunHeader stunDataIndication (List.replicate stunTxidSize 0)
    (sendAttrs peer payload) List.length_replicate (by decide) (by omega) hmult
  -- two turns read the attributes, the rest see the end
  obtain ⟨k, hk⟩ : ∃ k, (sendAttrs peer payload).length + stunHeaderSize = k + 2 :=
    ⟨(sendAttrs peer payload).length + 18, rfl⟩
  rw [hk, reads_sendAttrs haddr hshort _ hdrop, stunWalk_end] at hparse
  · rw [hframe, turnUnwrapDataInto, hparse]
    dsimp only
    rw [if_neg (not_not.mpr rfl)]
    have hfam : (plainAddr (stunPeer peer)).family ≠ 0 := stunPeer_family peer
    by_cases hnil : payload = []
    · rw [if_pos (.inr (by rw [hnil]; rfl)), if_pos hnil]
    · rw [if_neg (fun h => h.elim hfam fun h => hnil (List.eq_nil_of_length_eq_zero h)),
        if_neg hnil]
  · rw [List.length_append, show (stunHeader stunDataIndication _ _).length = stunHeaderSize from rfl]
    omega

/-! ### Refused indications -/

theorem turnUnwrapDataInto_eq (out : TurnDataOut) (data : List UInt8) :
    turnUnwrapDataInto out data = match turnUnwrapData data with
      | .error e => (out, e)
      | .ok (peer, payload) => (⟨peer, payload⟩, .ok) := by
  unfold turnUnwrapDataInto turnUnwrapData
  cases stunParse data with
  | error e => rfl
  | ok msg =>
    dsimp only
    split
    · rfl
    cases msg.dataAttr with
    | none => rfl
    | some payload =>
      dsimp only
      split
      · rfl
      · rfl

/-- A refused message leaves the outputs of the caller alone. -/
theorem turnUnwrapDataInto_refused {out : TurnDataOut} {data : List UInt8}
    (h : (turnUnwrapDataInto out data).2 ≠ .ok) : (turnUnwrapDataInto out data).1 = out := by
  rw [turnUnwrapDataInto_eq] at h ⊢
  cases hun : turnUnwrapData data with
  | error e => rfl
  | ok r =>
    rw [hun] at h
    exact absurd rfl h

/-- An accepted message is a Data indication and its length field is exact. -/
theorem turnUnwrapDataInto_ok {out : TurnDataOut} {data : List UInt8}
    (h : (turnUnwrapDataInto out data).2 = .ok) :
    readU16be data 0 = stunDataIndication ∧
      data.length = (readU16be data 2).toNat + stunHeaderSize := by
  unfold turnUnwrapDataInto at h
  cases hparse : stunParse data with
  | error e =>
    rw [hparse, stunParse_error hparse] at h
    exact nomatch h
  | ok msg =>
    obtain ⟨hlen, hwalk⟩ := stunParse_walk hparse
    rw [hparse] at h
    dsimp only at h
    split at h
    · exact nomatch h
    · rename_i htype
      exact ⟨(stunWalk_fields hwalk).1.symm.trans (not_not.mp htype), hlen⟩

/-- **The size is exact**: an accepted message that is cut or extended is refused. -/
theorem turnUnwrapDataInto_exact {out : TurnDataOut} {data : List UInt8}
    (h : (turnUnwrapDataInto out data).2 = .ok) :
    (∀ out' n, n < data.length → (turnUnwrapDataInto out' (data.take n)).2 ≠ .ok) ∧
    ∀ out' more, more ≠ [] → (turnUnwrapDataInto out' (data ++ more)).2 ≠ .ok := by
  obtain ⟨-, hlen⟩ := turnUnwrapDataInto_ok h
  rw [stunHeaderSize] at hlen
  constructor
  · intro out' n hn hok
    obtain ⟨-, hlen'⟩ := turnUnwrapDataInto_ok hok
    rw [List.length_take, stunHeaderSize] at hlen'
    have hsame : readU16be (data.take n) 2 = readU16be data 2 :=
      readU16be_of_take_eq (n := 4) (by rw [List.take_take, Nat.min_eq_left (by omega)]) (by omega)
    rw [hsame] at hlen'
    omega
  · intro out' more hmore hok
    obtain ⟨-, hlen'⟩ := turnUnwrapDataInto_ok hok
    have hsame : readU16be (data ++ more) 2 = readU16be data 2 :=
      readU16be_of_take_eq (n := 4) (List.take_append_of_le_length (by omega)) (by omega)
    rw [hsame, List.length_append, stunHeaderSize] at hlen'
    have hpos := List.length_pos_iff.mpr hmore
    omega

/-! ### The framing contract -/

/-- **Framing of relayed data and of requests.** Both framings give back the payload, the peer and
the number; cut messages and messages of another type are refused and leave the payload of the
caller alone; a request fits the size its builder asks for. -/
theorem turn_framing (crypto : CryptoProvider) :
    (∀ channel payload bufLen out, 4 + attrPadded payload.length ≤ bufLen →
      payload.length < 65536 →
      ∃ frame, nanoTurnWrapChannelData channel payload bufLen = .ok frame ∧
        (ChannelInRange channel →
          turnUnwrapChannelDataInto out frame = (⟨channel, payload⟩, .ok)) ∧
        (¬ ChannelInRange channel → (turnUnwrapChannelDataInto out frame).2 = .protocol)) ∧
    (∀ (peer : NanortcAddr) payload bufLen out, peer.addr.length = addrSize →
      stunHeaderSize + 32 + 4 + attrPadded payload.length ≤ bufLen →
      sendAttrsSize peer payload.length < 65536 →
      ∃ frame, turnWrapSend peer payload bufLen = .ok frame ∧
        turnUnwrapDataInto out (dataIndication frame) =
          if payload = [] then (out, .protocol)
          else (⟨plainAddr (stunPeer peer), payload⟩, .ok)) ∧
    (∀ data out, (turnUnwrapChannelDataInto out data).2 ≠ .ok →
      (turnUnwrapChannelDataInto out data).1.payload = out.payload) ∧
    (∀ data out, (turnUnwrapChannelDataInto out data).2 = .ok →
      ChannelInRange (readU16be data 0) ∧
      (∀ out' n, n < 4 + (turnUnwrapChannelDataInto out data).1.payload.length →
        (turnUnwrapChannelDataInto out' (data.take n)).2 ≠ .ok) ∧
      ∀ out' padding, turnUnwrapChannelDataInto out' (data ++ padding) =
        ((turnUnwrapChannelDataInto out data).1, .ok)) ∧
    (∀ data out, (turnUnwrapDataInto out data).2 ≠ .ok →
      (turnUnwrapDataInto out data).1 = out) ∧
    (∀ data out, (turnUnwrapDataInto out data).2 = .ok →
      readU16be data 0 = stunDataIndication ∧
      (∀ out' n, n < data.length → (turnUnwrapDataInto out' (data.take n)).2 ≠ .ok) ∧
      ∀ out' more, more ≠ [] → (turnUnwrapDataInto out' (data ++ more)).2 ≠ .ok) ∧
    (∀ turn u r n txid, CredentialsWithin turn u r n → txid.length ≤ stunTxidSize →
      (∀ authenticated bufLen out,
        turnBuildAllocate crypto turn authenticated txid bufLen = .ok out →
        out.length ≤ turnRequestSize u r n) ∧
      (∀ lifetimeS bufLen out, turnBuildRefresh crypto turn lifetimeS txid bufLen = .ok out →
        out.length ≤ turnRequestSize u r n) ∧
      (∀ peer bufLen out, turnBuildPermission crypto turn peer txid bufLen = .ok out →
        out.length ≤ turnRequestSize u r n) ∧
      ∀ c bufLen out, turnBuildChannelBind crypto turn c txid bufLen = .ok out →
        out.length ≤ turnRequestSize u r n) ∧
    turnRequestSize turnTextSize turnTextSize turnNonceSize = turnMaxRequestSize ∧
    ∀ is : List TurnInput, (∀ i ∈ is, FillsTxid i.random) →
      ∀ packet ∈ (run (turnSendStep crypto) turnSendStart is).sent,
        packet.length ≤ turnMaxRequestSize := by
  refine ⟨fun channel payload bufLen out hfit hshort => ?_,
    fun peer payload bufLen out haddr hfit hlen => turnUnwrapData_wrap out haddr hfit hlen,
    fun data out h => turnUnwrapChannelDataInto_refused h, fun data out h => ?_,
    fun data out h => turnUnwrapDataInto_refused h,
    fun data out h => ⟨(turnUnwrapDataInto_ok h).1, turnUnwrapDataInto_exact h⟩,
    fun turn u r n txid hturn htxid => ⟨?_, ?_, ?_, ?_⟩, turnRequestSize_default,
    fun is his => turnRequests_fit crypto his⟩
  · refine ⟨channelFrame channel payload, nanoTurnWrapChannelData_ok channel hfit,
      fun hchan => ?_, fun hchan => turnUnwrapChannelData_range out hchan payload⟩
    rw [turnUnwrapChannelData_wrap out hchan, Nat.mod_eq_of_lt hshort, List.take_length]
  · exact ⟨((turnUnwrapChannelDataInto_ok_iff out data).mp h).2.1, turnUnwrapChannelDataInto_cut h⟩
  · exact fun _ _ _ h => length_turnBuildAllocate crypto hturn htxid h
  · exact fun _ _ _ h => length_turnBuildRefresh crypto hturn htxid h
  · exact fun _ _ _ h => length_turnBuildPermission crypto hturn htxid h
  · exact fun _ _ _ h => length_turnBuildChannelBind crypto hturn htxid h

/-- Three bytes for an IPv4 peer. -/
theorem turn_framing_demo :
    ∃ frame, turnWrapSend (demoHost 4 8 6000) [1, 2, 3] 60 = .ok frame ∧
      turnUnwrapDataInto ⟨.none, []⟩ (dataIndication frame) =
        (⟨plainAddr (stunPeer (demoHost 4 8 6000)), [1, 2, 3]⟩, .ok) :=
  (turn_framing .checksum).2.1 (demoHost 4 8 6000) [1, 2, 3] 60 ⟨.none, []⟩ (by decide) (by decide)
    (by decide)

/-- What does not come back: a number below the range, an empty payload of an indication, and a
payload whose length takes more than 16 bits. Bytes behind a ChannelData message are no error, and
the number of a refused one has been stored. -/
theorem turn_framing_limits :
    (turnUnwrapChannelDataInto ⟨5, []⟩ (channelFrame 1 [7])).2 = .protocol ∧
    (∃ frame, turnWrapSend (demoHost 4 8 6000) [] 60 = .ok frame ∧
      turnUnwrapDataInto ⟨.none, [9]⟩ (dataIndication frame) = (⟨.none, [9]⟩, .protocol)) ∧
    (∃ frame, nanoTurnWrapChannelData 0x4000 (List.replicate 65536 7) 65540 = .ok frame ∧
      turnUnwrapChannelDataInto ⟨5, [9]⟩ frame = (⟨0x4000, []⟩, .ok)) ∧
    turnUnwrapChannelDataInto ⟨5, [9]⟩ (channelFrame 0x4000 [7] ++ [8]) = (⟨0x4000, [7]⟩, .ok) ∧
    (turnUnwrapChannelDataInto ⟨5, [9]⟩ (channelFrame 1 [7])).1.channel ≠ 5 := by
  refine ⟨by decide +kernel, turnUnwrapData_wrap ⟨.none, [9]⟩ (by decide) (by decide) (by decide),
    ⟨_, nanoTurnWrapChannelData_ok 0x4000 (by rw [List.length_replicate]; decide), ?_⟩,
    by decide +kernel, by decide +kernel⟩
  rw [turnUnwrapChannelData_wrap _ ⟨by decide, by decide⟩, List.length_replicate]
  rfl

end Nanortc.Spec
