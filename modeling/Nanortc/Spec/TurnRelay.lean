import Mathlib
import Nanortc.Native.Output
import Nanortc.Spec.IceConnectivity
import Nanortc.Spec.TurnChannels

/-!
# Addresses of relayed datagrams

A datagram from the TURN server carries a peer's packet either as ChannelData, which names the
peer by a channel number, or as a Data indication, whose XOR-PEER-ADDRESS carries the address in
the STUN encoding. The client's own tables hold addresses in the encoding of `nanortc_addr_t`, so
only the second kind needs its family translated; `rtc_process_receive` translates both, and
`rtc_poll_queued_output` translates the server's family as well. The translation maps every family
but 1 to 6.

## Key results

- `stunWalk_peer`: the parser keeps the address of the last XOR-PEER-ADDRESS
- `rtcProcessReceive_inner`: a relayed packet is processed under the address it was unwrapped with
- `relay_addressing_iff`: exactly when the addresses are right
-/

namespace Nanortc.Spec

open Nanortc.ForStd Nanortc.Native

/-! ### The address a Data indication carries -/

/-- The attributes from offset `pos` on, as type and value; at most `turns` of them. -/
def stunAttrs (data : List UInt8) : (turns pos : Nat) → List (UInt16 × List UInt8)
  | 0, _ => []
  | turns + 1, pos =>
    if pos + 4 ≤ data.length then
      let len := (readU16be data (pos + 2)).toNat
      (readU16be data pos, (data.drop (pos + 4)).take len) ::
        stunAttrs data turns (pos + (4 + attrPadded len))
    else []

/-- The values of the XOR-PEER-ADDRESS attributes in front of MESSAGE-INTEGRITY. -/
def peerValues (attrs : List (UInt16 × List UInt8)) : List (List UInt8) :=
  ((attrs.takeWhile (·.1 ≠ 0x0008)).filter (·.1 = 0x0012)).map (·.2)

/-- The peer addresses a message carries, in the XOR encoding of RFC 8489 §14.2. -/
def carriedPeers (data : List UInt8) : List (List UInt8) :=
  peerValues (stunAttrs data data.length stunHeaderSize)

/-- The address an XOR-PEER-ADDRESS value stands for, in the encoding of `nanortc_addr_t`. -/
def xorPeerAddress (txid value : List UInt8) : NanortcAddr :=
  let mask := u32be stunMagicCookie ++ txid
  let port := readU16be value 2 ^^^ (stunMagicCookie >>> 16).toUInt16
  if byteAt value 1 = 1 then ⟨4, List.zipWith (· ^^^ ·) ((value.drop 4).take 4) mask, port⟩
  else ⟨6, List.zipWith (· ^^^ ·) ((value.drop 4).take 16) mask, port⟩

/-- The same family and port, and the same address bytes of that family. -/
def SameAddr (a b : NanortcAddr) : Prop :=
  a.family = b.family ∧ a.port = b.port ∧
    a.addr.take (addrLen b.family) = b.addr.take (addrLen b.family)

/-- The decoded address is the one the value stands for. -/
def Decodes (txid value : List UInt8) (a : StunAddr) : Prop :=
  SameAddr (rtcPeerSrc a.family a.addr a.port) (xorPeerAddress txid value)

/-- The parser decodes the address the value stands for. -/
theorem stunDecodeXorAddr_decodes {val txid : List UInt8} {attrLen : Nat} {out a : StunAddr}
    (hval : attrLen ≤ val.length) (h : stunDecodeXorAddr val attrLen txid out = some a) :
    Decodes txid (val.take attrLen) a ∧ a.family ≠ 0 := by
  unfold stunDecodeXorAddr at h
  split at h
  · exact nomatch h
  rename_i hlen
  have h1 : byteAt (val.take attrLen) 1 = byteAt val 1 := byteAt_take (by omega)
  have hport : readU16be (val.take attrLen) 2 = readU16be val 2 := by
    simp only [readU16be, byteAt_take (show 2 < attrLen by omega),
      byteAt_take (show 2 + 1 < attrLen by omega)]
  unfold Decodes xorPeerAddress
  rw [h1, hport]
  dsimp only at h ⊢
  split at h
  · -- IPv4: the first four bytes of the address are overwritten
    rename_i hfam
    obtain rfl := Option.some.inj h
    rw [hfam]
    refine ⟨⟨rfl, rfl, ?_⟩, show stunFamilyIpv4 ≠ 0 by decide⟩
    show (writeAt _ _ _).take 4 = List.take 4 (List.zipWith _ _ _)
    rw [List.drop_take, List.take_take, show min 4 (attrLen - 4) = 4 by omega,
      take_four_drop (by omega), u32be_xor, u32be_readU32be]
    rfl
  split at h
  · rename_i hne hfam
    split at h
    · exact nomatch h
    rename_i hlen'
    obtain rfl := Option.some.inj h
    rw [hfam]
    refine ⟨⟨rfl, rfl, ?_⟩, show stunFamilyIpv6 ≠ 0 by decide⟩
    show List.take 16 (List.zipWith _ _ _) = List.take 16 (List.zipWith _ _ _)
    rw [List.drop_take, List.take_take, show min 16 (attrLen - 4) = 16 by omega]
  · exact nomatch h

/-- Only XOR-PEER-ADDRESS changes the peer address; no attribute changes the transaction id or the
type, and DATA is shorter than the message. -/
theorem stunParseAttr_fields {msg msg' : StunMsg} {attr : StunAttr} {attrLen pos : Nat}
    {val : List UInt8} (h : stunParseAttr msg attr attrLen pos val = .ok msg') :
    msg'.transactionId = msg.transactionId ∧ msg'.type = msg.type ∧
    (attr ≠ .xorPeerAddress → msg'.peer = msg.peer) ∧
    (attr = .xorPeerAddress →
      stunDecodeXorAddr val attrLen msg.transactionId msg.peer = some msg'.peer) ∧
    (msg'.dataAttr = msg.dataAttr ∨ msg'.dataAttr = some (val.take attrLen)) := by
  have hkeep {m : StunMsg} (hm : (Except.ok m : Except Rc StunMsg) = .ok msg')
      (hattr : attr ≠ .xorPeerAddress)
      (ht : m.transactionId = msg.transactionId) (hty : m.type = msg.type)
      (hp : m.peer = msg.peer)
      (hd : m.dataAttr = msg.dataAttr ∨ m.dataAttr = some (val.take attrLen)) :
      msg'.transactionId = msg.transactionId ∧ msg'.type = msg.type ∧
      (attr ≠ .xorPeerAddress → msg'.peer = msg.peer) ∧
      (attr = .xorPeerAddress →
        stunDecodeXorAddr val attrLen msg.transactionId msg.peer = some msg'.peer) ∧
      (msg'.dataAttr = msg.dataAttr ∨ msg'.dataAttr = some (val.take attrLen)) := by
    obtain rfl := Except.ok.inj hm
    exact ⟨ht, hty, fun _ => hp, fun h => absurd h hattr, hd⟩
  unfold stunParseAttr at h
  cases attr with
  | xorPeerAddress =>
    dsimp only at h
    cases hdec : stunDecodeXorAddr val attrLen msg.transactionId msg.peer with
    | none =>
      rw [hdec] at h
      exact nomatch h
    | some a =>
      rw [hdec] at h
      obtain rfl := Except.ok.inj h
      exact ⟨rfl, rfl, fun h => absurd rfl h, fun _ => rfl, .inl rfl⟩
  | data => exact hkeep h (fun h => nomatch h) rfl rfl rfl (.inr rfl)
  | username => exact hkeep h (fun h => nomatch h) rfl rfl rfl (.inl rfl)
  | useCandidate => exact hkeep h (fun h => nomatch h) rfl rfl rfl (.inl rfl)
  | realm => exact hkeep h (fun h => nomatch h) rfl rfl rfl (.inl rfl)
  | nonce => exact hkeep h (fun h => nomatch h) rfl rfl rfl (.inl rfl)
  | other => exact hkeep h (fun h => nomatch h) rfl rfl rfl (.inl rfl)
  | _ =>
    -- the attributes with a fixed length or an address of another kind
    dsimp only at h
    split at h
    · cases h
    · exact hkeep h (fun h => nomatch h) rfl rfl rfl (.inl rfl)

private theorem ite_ne {t c : UInt16} {a b attr : StunAttr}
    (h : (if t = c then a else b) = attr) (ha : a ≠ attr) : b = attr := by
  split at h
  · exact absurd h ha
  · exact h

theorem StunAttr.ofType_peer {t : UInt16} : StunAttr.ofType t = .xorPeerAddress ↔ t = 0x0012 := by
  constructor
  · intro h
    by_contra hne
    unfold StunAttr.ofType at h
    iterate 5 replace h := ite_ne h (by decide)
    rw [if_neg hne] at h
    iterate 10 replace h := ite_ne h (by decide)
    exact nomatch h
  · rintro rfl
    rfl

theorem StunAttr.ofType_integrity {t : UInt16} :
    StunAttr.ofType t = .messageIntegrity ↔ t = 0x0008 := by
  constructor
  · intro h
    by_contra hne
    unfold StunAttr.ofType at h
    replace h := ite_ne h (by decide)
    rw [if_neg hne] at h
    iterate 14 replace h := ite_ne h (by decide)
    exact nomatch h
  · rintro rfl
    rfl

/-- The last of the values decodes to the new address; without one the address stays. -/
def LastDecodes (txid : List UInt8) (old new : StunAddr) (values : List (List UInt8)) : Prop :=
  match values.getLast? with
  | none => new = old
  | some v => Decodes txid v new ∧ new.family ≠ 0

theorem LastDecodes.cons {txid v : List UInt8} {old mid new : StunAddr} {values : List (List UInt8)}
    (hmid : Decodes txid v mid ∧ mid.family ≠ 0) (h : LastDecodes txid mid new values) :
    LastDecodes txid old new (v :: values) := by
  unfold LastDecodes at h ⊢
  rw [List.getLast?_cons]
  cases hlast : values.getLast? with
  | none =>
    rw [hlast] at h
    dsimp only at h
    rw [h]
    exact hmid
  | some w =>
    rw [hlast] at h
    exact h

/-- Behind MESSAGE-INTEGRITY nothing but FINGERPRINT is read. -/
theorem stunWalk_afterIntegrity {data : List UInt8} {turns pos : Nat} {fp : Bool}
    {msg msg' : StunMsg} (h : stunWalk data turns pos true fp msg = .ok msg') :
    msg'.peer = msg.peer := by
  induction turns generalizing pos fp msg with
  | zero =>
    obtain rfl := Except.ok.inj h
    rfl
  | succ turns ih =>
    unfold stunWalk at h
    split at h
    · dsimp only at h
      split at h
      · exact nomatch h
      split at h
      · exact nomatch h
      split at h
      · exact ih h
      · rename_i hattr
        have hfp : StunAttr.ofType (readU16be data pos) = .fingerprint := by
          by_contra hne
          exact hattr ⟨rfl, hne⟩
        split at h
        · exact nomatch h
        · rename_i msg1 hparse
          rw [ih h]
          exact (stunParseAttr_fields hparse).2.2.1 (by rw [hfp]; exact fun h => nomatch h)
    · obtain rfl := Except.ok.inj h
      rfl

/-- **The parser keeps the address of the last XOR-PEER-ADDRESS.** -/
theorem stunWalk_peer {data : List UInt8} {turns pos : Nat} {fp : Bool} {msg msg' : StunMsg}
    (h : stunWalk data turns pos false fp msg = .ok msg') :
    LastDecodes msg.transactionId msg.peer msg'.peer (peerValues (stunAttrs data turns pos)) := by
  induction turns generalizing pos fp msg with
  | zero =>
    obtain rfl := Except.ok.inj h
    rfl
  | succ turns ih =>
    unfold stunWalk at h
    unfold stunAttrs
    split at h
    · rename_i hpos
      rw [if_pos hpos]
      dsimp only at h ⊢
      split at h
      · exact nomatch h
      rename_i hpad
      split at h
      · exact nomatch h
      split at h
      · rename_i hskip
        exact nomatch hskip.1
      split at h
      · exact nomatch h
      rename_i msg1 hparse
      obtain ⟨htxid, -, hsame, hdec, -⟩ := stunParseAttr_fields hparse
      by_cases hmi : readU16be data pos = 0x0008
      · -- MESSAGE-INTEGRITY ends what counts
        have hattr := StunAttr.ofType_integrity.mpr hmi
        rw [hattr] at h hsame
        have hpeer := stunWalk_afterIntegrity h
        have hnil (rest : List (UInt16 × List UInt8)) (v : List UInt8) :
            peerValues ((readU16be data pos, v) :: rest) = [] := by
          simp [peerValues, hmi]
        rw [hnil]
        exact hpeer.trans (hsame fun h => nomatch h)
      · have hattr : StunAttr.ofType (readU16be data pos) ≠ .messageIntegrity :=
          fun h => hmi (StunAttr.ofType_integrity.mp h)
        rw [show (false || StunAttr.ofType (readU16be data pos) == .messageIntegrity) = false by
          simp [hattr]] at h
        have hrest := ih h
        rw [htxid] at hrest
        by_cases hp : readU16be data pos = 0x0012
        · have hcons (rest : List (UInt16 × List UInt8)) (v : List UInt8) :
              peerValues ((readU16be data pos, v) :: rest) = v :: peerValues rest := by
            simp [peerValues, hp]
          rw [hcons]
          have hpadle : (readU16be data (pos + 2)).toNat ≤
              attrPadded (readU16be data (pos + 2)).toNat := by
            unfold attrPadded
            omega
          exact hrest.cons (stunDecodeXorAddr_decodes (by rw [List.length_drop]; omega)
            (hdec (StunAttr.ofType_peer.mpr hp)))
        · have hskip (rest : List (UInt16 × List UInt8)) (v : List UInt8) :
              peerValues ((readU16be data pos, v) :: rest) = peerValues rest := by
            simp [peerValues, hp, hmi]
          rw [hskip, ← hsame fun h => hp (StunAttr.ofType_peer.mp h)]
          exact hrest
    · rename_i hpos
      rw [if_neg hpos]
      obtain rfl := Except.ok.inj h
      rfl

/-- The fields of a walk's result that a Data indication is judged by. -/
theorem stunWalk_fields {data : List UInt8} {turns pos : Nat} {mi fp : Bool} {msg msg' : StunMsg}
    (h : stunWalk data turns pos mi fp msg = .ok msg') :
    msg'.type = msg.type ∧
    ∀ d, msg'.dataAttr = some d → msg.dataAttr = some d ∨ d.length + 4 ≤ data.length := by
  induction turns generalizing pos mi fp msg with
  | zero =>
    obtain rfl := Except.ok.inj h
    exact ⟨rfl, fun _ => .inl⟩
  | succ turns ih =>
    unfold stunWalk at h
    split at h
    · rename_i hpos
      dsimp only at h
      split at h
      · exact nomatch h
      split at h
      · exact nomatch h
      split at h
      · exact ih h
      split at h
      · exact nomatch h
      rename_i msg1 hparse
      obtain ⟨-, htype, -, -, hdata⟩ := stunParseAttr_fields hparse
      obtain ⟨htype', hdata'⟩ := ih h
      refine ⟨htype'.trans htype, fun d hd => ?_⟩
      rcases hdata' d hd with hd' | hd'
      · rcases hdata with hsame | hval
        · exact .inl (hsame ▸ hd')
        · rw [hval] at hd'
          obtain rfl := Option.some.inj hd'
          right
          rw [List.length_take, List.length_drop]
          omega
      · exact .inr hd'
    · obtain rfl := Except.ok.inj h
      exact ⟨rfl, fun _ => .inl⟩

/-- What a Data indication unwraps to. -/
theorem turnUnwrapData_ok {data payload : List UInt8} {peer : StunAddr}
    (h : turnUnwrapData data = .ok (peer, payload)) :
    readU16be data 0 = stunDataIndication ∧ payload.length < data.length ∧ payload ≠ [] ∧
    ∃ value, (carriedPeers data).getLast? = some value ∧
      Decodes ((data.drop 8).take stunTxidSize) value peer := by
  unfold turnUnwrapData at h
  cases hparse : stunParse data with
  | error e =>
    rw [hparse] at h
    exact nomatch h
  | ok msg =>
    rw [hparse] at h
    dsimp only at h
    split at h
    · exact nomatch h
    rename_i htype
    cases hattr : msg.dataAttr with
    | none =>
      rw [hattr] at h
      exact nomatch h
    | some d =>
      rw [hattr] at h
      dsimp only at h
      split at h
      · exact nomatch h
      rename_i hnz
      obtain ⟨rfl, rfl⟩ := Prod.ext_iff.mp (Except.ok.inj h)
      unfold stunParse at hparse
      iterate 3
        split at hparse
        · exact nomatch hparse
      dsimp only at hparse
      iterate 2
        split at hparse
        · exact nomatch hparse
      have hfields := stunWalk_fields hparse
      have hpeer := stunWalk_peer hparse
      refine ⟨hfields.1.symm.trans (Decidable.not_not.mp htype), ?_, ?_, ?_⟩
      · rcases hfields.2 _ hattr with hnone | hlen
        · exact nomatch hnone
        · exact Nat.lt_of_lt_of_le (Nat.lt_add_of_pos_right (by decide)) hlen
      · exact fun hnil => hnz (.inr (congrArg List.length hnil))
      · unfold LastDecodes at hpeer
        show ∃ value,
          (peerValues (stunAttrs data data.length stunHeaderSize)).getLast? = some value ∧ _
        cases hlast : (peerValues (stunAttrs data data.length stunHeaderSize)).getLast? with
        | none =>
          rw [hlast] at hpeer
          exact absurd (.inl (congrArg StunAddr.family hpeer)) hnz
        | some v =>
          rw [hlast] at hpeer
          exact ⟨v, rfl, hpeer.1⟩

/-! ### Dispatch -/

theorem turnUnwrapChannelData_shorter {data payload : List UInt8} {channel : UInt16}
    (h : turnUnwrapChannelData data = .ok (channel, payload)) : payload.length < data.length := by
  unfold turnUnwrapChannelData at h
  split at h
  · exact nomatch h
  rename_i hlen
  dsimp only at h
  split at h
  · exact nomatch h
  split at h
  · exact nomatch h
  obtain ⟨-, rfl⟩ := Prod.ext_iff.mp (Except.ok.inj h)
  rw [List.length_take, List.length_drop]
  omega

/-- A relayed datagram is shorter than the one that carries it. -/
theorem rtcUnwrapRelayed_shorter {rtc : NanoRtc} {data payload : List UInt8} {src s : NanortcAddr}
    (h : rtcUnwrapRelayed rtc data src = .inner payload s) : payload.length < data.length := by
  unfold rtcUnwrapRelayed at h
  split at h
  · cases hun : turnUnwrapChannelData data with
    | error e =>
      rw [hun] at h
      exact nomatch h
    | ok r =>
      obtain ⟨channel, p⟩ := r
      rw [hun] at h
      dsimp only at h
      split at h
      · exact nomatch h
      · obtain ⟨rfl, -⟩ := RelayedInput.inner.inj h
        exact turnUnwrapChannelData_shorter hun
  split at h
  · cases hun : turnUnwrapData data with
    | error e =>
      rw [hun] at h
      exact nomatch h
    | ok r =>
      obtain ⟨a, p⟩ := r
      rw [hun] at h
      obtain ⟨rfl, -⟩ := RelayedInput.inner.inj h
      exact (turnUnwrapData_ok hun).2.1
  · exact nomatch h

/-- The length of the datagram bounds the depth. -/
theorem rtcProcessReceiveDepth_enough (rest : ReceiveRest) (rtc : NanoRtc) {depth : Nat}
    {data : List UInt8} (h : data.length < depth) (src : NanortcAddr) (localIdx : Nat)
    (viaTurn : Bool) :
    rtcProcessReceiveDepth rest rtc depth data src localIdx viaTurn =
      rtcProcessReceive rest rtc data src localIdx viaTurn := by
  unfold rtcProcessReceive
  induction depth using Nat.strongRecOn generalizing data src viaTurn with
  | ind depth ih =>
    obtain ⟨depth, rfl⟩ := Nat.exists_eq_succ_of_ne_zero (Nat.ne_zero_of_lt h)
    unfold rtcProcessReceiveDepth
    cases hun : rtcUnwrapRelayed rtc data src with
    | other => rfl
    | consumed => rfl
    | inner payload s =>
      have hshort := rtcUnwrapRelayed_shorter hun
      dsimp only
      rw [ih depth (Nat.lt_succ_self _) (by omega) s true]
      rcases Nat.lt_or_ge data.length depth with hlt | hge
      · exact (ih data.length (by omega) hshort s true).symm
      · rw [show data.length = depth by omega]
        exact (ih depth (Nat.lt_succ_self _) (by omega) s true).symm

/-- **A relayed packet is processed under the address it was unwrapped with.** -/
theorem rtcProcessReceive_inner (rest : ReceiveRest) {rtc : NanoRtc} {data payload : List UInt8}
    {src s : NanortcAddr} (h : rtcUnwrapRelayed rtc data src = .inner payload s) (localIdx : Nat)
    (viaTurn : Bool) :
    rtcProcessReceive rest rtc data src localIdx viaTurn =
      rtcProcessReceive rest rtc payload s localIdx true := by
  rw [← rtcProcessReceiveDepth_enough rest rtc (rtcUnwrapRelayed_shorter h)]
  show rtcProcessReceiveDepth rest rtc (data.length + 1) data src localIdx viaTurn = _
  rw [rtcProcessReceiveDepth, h]

/-- `rtc_process_receive` treats the datagram as the packet `payload` received from `s`. -/
def PassedOn (rtc : NanoRtc) (data : List UInt8) (src : NanortcAddr) (payload : List UInt8)
    (s : NanortcAddr) : Prop :=
  rtcUnwrapRelayed rtc data src = .inner payload s ∧
  ∀ (rest : ReceiveRest) (localIdx : Nat) (viaTurn : Bool),
    rtcProcessReceive rest rtc data src localIdx viaTurn =
      rtcProcessReceive rest rtc payload s localIdx true

theorem PassedOn.of_unwrap {rtc : NanoRtc} {data payload : List UInt8} {src s : NanortcAddr}
    (h : rtcUnwrapRelayed rtc data src = .inner payload s) : PassedOn rtc data src payload s :=
  ⟨h, fun rest localIdx viaTurn => rtcProcessReceive_inner rest h localIdx viaTurn⟩

/-- ChannelData on a bound channel is passed on under the translated address of the table. -/
theorem rtcUnwrapRelayed_channel {rtc : NanoRtc} {data payload : List UInt8}
    {src peer : NanortcAddr} {channel : UInt16} (hdata : turnIsChannelData data) (hsrc : turnIsFromServer rtc.turn src)
    (hun : turnUnwrapChannelData data = .ok (channel, payload))
    (hpeer : turnFindPeerForChannel rtc.turn channel = some peer) :
    rtcUnwrapRelayed rtc data src =
      .inner payload (rtcPeerSrc peer.family peer.addr peer.port) := by
  unfold rtcUnwrapRelayed
  rw [if_pos ⟨hdata, hsrc⟩, hun]
  dsimp only
  rw [hpeer]

/-- A Data indication is passed on under the translated address it carries. -/
theorem rtcUnwrapRelayed_data {rtc : NanoRtc} {data payload : List UInt8} {src : NanortcAddr}
    {peer : StunAddr} (hsrc : turnIsFromServer rtc.turn src)
    (hun : turnUnwrapData data = .ok (peer, payload)) :
    rtcUnwrapRelayed rtc data src =
      .inner payload (rtcPeerSrc peer.family peer.addr peer.port) := by
  have htype := (turnUnwrapData_ok hun).1
  -- the type of a Data indication is neither ChannelData nor a binding response
  have hfirst : (byteAt data 0).toNat = 0 := by
    have hnat := congrArg UInt16.toNat htype
    rw [toNat_readU16be, show stunDataIndication.toNat = 0x17 from rfl] at hnat
    omega
  have hchannel : ¬(turnIsChannelData data ∧ turnIsFromServer rtc.turn src) := by
    rintro ⟨hdata, -⟩
    simp only [turnIsChannelData, Bool.and_eq_true, decide_eq_true_eq, ge_iff_le,
      UInt8.le_iff_toNat_le] at hdata
    rw [hfirst] at hdata
    exact absurd hdata.1.2 (by decide)
  have hpending : rtcSrflxPending rtc data src = false := by
    unfold rtcSrflxPending
    rw [htype, show (stunDataIndication == stunBindingResponse) = false from rfl]
    simp
  unfold rtcUnwrapRelayed
  have hstun : byteAt data 0 ≤ 3 := by
    rw [UInt8.le_iff_toNat_le, hfirst]
    exact Nat.zero_le _
  rw [if_neg hchannel, if_pos ⟨hstun, by rw [hpending]; rfl, hsrc⟩, hun]

/-! ### Poll -/

/-- The entry in front of the head cursor is for the relay. -/
def LastPolledRelayed (rtc : NanoRtc) : Prop :=
  (rtc.outWrapMeta.getD (outSlot (rtc.outHead - 1)) default).viaTurn = true

/-- A datagram polled for the relay goes to `rtcWrapDest`. -/
theorem rtcPollQueuedLoop_dest {turns : Nat} {rtc rtc' : NanoRtc} {data : List UInt8}
    {dest src : NanortcAddr}
    (h : rtcPollQueuedLoop turns rtc = (rtc', some (.transmit data dest src)))
    (hrelay : LastPolledRelayed rtc') : dest = rtcWrapDest rtc.turn := by
  induction turns generalizing rtc with
  | zero => exact nomatch (Prod.ext_iff.mp h).2
  | succ turns ih =>
    unfold rtcPollQueuedLoop at h
    split at h
    · exact nomatch (Prod.ext_iff.mp h).2
    cases hhead : rtcPollHead rtc with
    | none =>
      -- a datagram whose wrap fails is dropped
      rw [hhead] at h
      exact @ih (rtcAdvanceHead rtc) h
    | some out =>
      rw [hhead] at h
      have hrtc : rtcAdvanceHead rtc = rtc' := (Prod.ext_iff.mp h).1
      have hout : some out = some (.transmit data dest src) := (Prod.ext_iff.mp h).2
      obtain rfl := Option.some.inj hout
      have hvia : (rtc.outWrapMeta.getD (outSlot rtc.outHead) default).viaTurn = true := by
        have hslot : rtc'.outHead - 1 = rtc.outHead := by
          rw [← hrtc]
          exact UInt16.add_sub_cancel ..
        unfold LastPolledRelayed at hrelay
        rw [hslot, ← hrtc] at hrelay
        exact hrelay
      unfold rtcPollHead at hhead
      dsimp only at hhead
      split at hhead
      · exact nomatch hhead
      · rw [if_pos hvia] at hhead
        split at hhead
        · exact nomatch hhead
        · exact (PolledOutput.transmit.inj (Option.some.inj hhead)).2.1.symm

/-- The translated family is the family only when it is 6. -/
theorem familyOf_eq_iff (family : UInt8) :
    (if family = stunFamilyIpv4 then 4 else 6) = family ↔ family = 6 := by
  split
  · rename_i h
    rw [h]
    decide
  · exact eq_comm

theorem rtcPeerSrc_eq_iff (peer : NanortcAddr) :
    rtcPeerSrc peer.family peer.addr peer.port = peer ↔ peer.family = 6 := by
  rw [← familyOf_eq_iff]
  constructor
  · exact fun h => congrArg NanortcAddr.family h
  · intro h
    unfold rtcPeerSrc
    rw [h]

theorem rtcWrapDest_eq_iff (turn : NanoTurn) :
    rtcWrapDest turn = rtcTurnServerAddr turn ↔ turn.serverFamily = 6 := by
  rw [← familyOf_eq_iff]
  constructor
  · exact fun h => congrArg NanortcAddr.family h
  · intro h
    unfold rtcWrapDest rtcTurnServerAddr
    rw [h]

/-! ### Addressing -/

/-- **Relayed addresses.** After any calls on the TURN client: ChannelData on a bound channel is
passed on under the peer the channel was bound for exactly if that is an IPv6 peer, a Data
indication under the address it carries, and a datagram for the relay goes to the TURN server
exactly if that is an IPv6 server. -/
theorem relay_addressing_iff (crypto : CryptoProvider) (is : List TurnInput) {rtc : NanoRtc}
    (hturn : rtc.turn = (run (turnLogStep crypto) turnLogStart is).turn) :
    (∀ data src payload channel peer, turnIsChannelData data → turnIsFromServer rtc.turn src →
      turnUnwrapChannelData data = .ok (channel, payload) →
      turnFindPeerForChannel rtc.turn channel ≠ none →
      (channel, peer) ∈ (run (turnLogStep crypto) turnLogStart is).log →
      ∃ s, PassedOn rtc data src payload s ∧ (s = peer ↔ peer.family = 6)) ∧
    (∀ data src peer payload, turnIsFromServer rtc.turn src →
      turnUnwrapData data = .ok (peer, payload) →
      ∃ s value, PassedOn rtc data src payload s ∧ (carriedPeers data).getLast? = some value ∧
        SameAddr s (xorPeerAddress ((data.drop 8).take stunTxidSize) value)) ∧
    (∀ rtc' data dest src, rtcPollQueuedOutput rtc = (rtc', some (.transmit data dest src)) →
      LastPolledRelayed rtc' →
      (dest = rtcTurnServerAddr rtc.turn ↔ rtc.turn.serverFamily = 6)) := by
  refine ⟨?_, ?_, ?_⟩
  · intro data src payload channel peer hdata hsrc hun hbound hlog
    obtain ⟨found, hfound⟩ := Option.ne_none_iff_exists'.mp hbound
    have hist := turnHistory crypto is
    obtain rfl : peer = found := by
      rw [hturn] at hfound
      exact hist.unique (turnFindPeerForChannel_log hist hfound) hlog
    exact ⟨_, .of_unwrap (rtcUnwrapRelayed_channel hdata hsrc hun hfound), rtcPeerSrc_eq_iff peer⟩
  · intro data src peer payload hsrc hun
    obtain ⟨-, -, -, value, hvalue, hdec⟩ := turnUnwrapData_ok hun
    exact ⟨_, value, .of_unwrap (rtcUnwrapRelayed_data hsrc hun), hvalue, hdec⟩
  · intro rtc' data dest src hpoll hrelay
    rw [rtcPollQueuedLoop_dest hpoll hrelay]
    exact rtcWrapDest_eq_iff rtc.turn

/-! ### Two allocations -/

/-- A server or peer of the given family. -/
def demoHost (family n : UInt8) (port : UInt16) : NanortcAddr := ⟨family, demoAddr n, port⟩

/-- An answer of the TURN server, signed with the key of the allocation. -/
def demoAnswer (type : UInt16) (txid : List UInt8) (attrs : List UInt8) : TurnInput :=
  let key := CryptoProvider.checksum.md5 [0x75, 0x3A, 0x72, 0x3A, 0x70]
  .handleResponse 5 (stunAppendIntegrity .checksum (stunHeader type 0 txid ++ attrs) key)

/-- An allocation and a channel for a peer, all of one family. -/
def demoAllocation (family : UInt8) : List TurnInput :=
  [.configure (demoHost family 9 3478) [0x75] [0x70],
    .startAllocate (some (demoTxid 1)) 400,
    .handleResponse 2 (stunFinalizeLength (stunHeader 0x0113 0 (demoTxid 1) ++
      stunAttr 0x0009 [0, 0, 4, 1] ++ stunAttr 0x0014 [0x72] ++ stunAttr 0x0015 [0x6E])),
    .startAllocate (some (demoTxid 2)) 400,
    demoAnswer 0x0103 (demoTxid 2) (turnXorAddr 0x0016 (demoHost family 7 5000) (demoTxid 2)),
    .channelBind (demoHost family 8 6000) (some (demoTxid 3)) 400,
    demoAnswer 0x0109 (demoTxid 3) []]

/-- The connection of such an allocation with one datagram queued for the peer. -/
def demoRelayed (family : UInt8) : NanoRtc :=
  let rtc := nanortcInit false 4
  let rtc := { rtc with
    turn := run (turnStep .checksum) turnInit (demoAllocation family)
    txSlots := rtc.txSlots.set 0 { buf := [1, 2, 3, 4] } }
  (nanoRtcTxSlotCommit rtc 0 4 (demoHost family 8 6000) true).1

/-- The same four bytes as ChannelData, both from the server and to it. -/
def demoChannelData : List UInt8 := [0x40, 0, 0, 4, 1, 2, 3, 4]

/-- Over IPv6 the peer's and the server's addresses are right. -/
theorem relay_addressing_ipv6 :
    PassedOn (demoRelayed 6) demoChannelData (demoHost 6 9 3478) [1, 2, 3, 4]
      (demoHost 6 8 6000) ∧
    ∃ src, (rtcPollQueuedOutput (demoRelayed 6)).2 =
      some (.transmit demoChannelData (rtcTurnServerAddr (demoRelayed 6).turn) src) := by
  have hturn : (demoRelayed 6).turn =
      (run (turnLogStep .checksum) turnLogStart (demoAllocation 6)).turn := by
    decide +kernel
  obtain ⟨hchannel, -, hpoll⟩ := relay_addressing_iff .checksum (demoAllocation 6) hturn
  constructor
  · obtain ⟨s, hs, hpeer⟩ := hchannel demoChannelData (demoHost 6 9 3478) [1, 2, 3, 4] 0x4000
      (demoHost 6 8 6000) (by decide +kernel) (by decide +kernel) (by decide +kernel)
      (by decide +kernel) (by decide +kernel)
    exact hpeer.mpr rfl ▸ hs
  · have hout : rtcPollQueuedOutput (demoRelayed 6) = ((rtcPollQueuedOutput (demoRelayed 6)).1,
        some (.transmit demoChannelData (demoHost 6 9 3478) ⟨0, List.replicate addrSize 0, 0⟩)) := by
      decide +kernel
    have hrelay : LastPolledRelayed (rtcPollQueuedOutput (demoRelayed 6)).1 := by
      unfold LastPolledRelayed
      decide +kernel
    rw [← (hpoll _ _ _ _ hout hrelay).mpr (by decide +kernel)]
    exact ⟨_, congrArg Prod.snd hout⟩

/-- Over IPv4 both the peer and the server get family 6. -/
theorem relay_misaddressed_ipv4 :
    (0x4000, demoHost 4 8 6000) ∈
      (run (turnLogStep .checksum) turnLogStart (demoAllocation 4)).log ∧
    turnIsFromServer (demoRelayed 4).turn (demoHost 4 9 3478) ∧
    PassedOn (demoRelayed 4) demoChannelData (demoHost 4 9 3478) [1, 2, 3, 4]
      (demoHost 6 8 6000) ∧
    ¬PassedOn (demoRelayed 4) demoChannelData (demoHost 4 9 3478) [1, 2, 3, 4]
      (demoHost 4 8 6000) ∧
    rtcTurnServerAddr (demoRelayed 4).turn = demoHost 4 9 3478 ∧
    (rtcPollQueuedOutput (demoRelayed 4)).2 = some (.transmit demoChannelData
      (demoHost 6 9 3478) ⟨0, List.replicate addrSize 0, 0⟩) := by
  refine ⟨?_, ?_, .of_unwrap ?_, fun h => absurd h.1 ?_, ?_, ?_⟩
  all_goals decide +kernel

end Nanortc.Spec
