import Nanortc.Native.Ice
import Nanortc.Native.Turn

/-!
# What MESSAGE-INTEGRITY covers

The parser reads a message attribute by attribute, and behind MESSAGE-INTEGRITY only FINGERPRINT
still counts. Two datagrams that agree up to the end of MESSAGE-INTEGRITY are therefore the same
message to every caller: what follows can only have the datagram refused.

## Key results

- `stunParse_error`: the parser reports no error but `NANORTC_ERR_PARSE`
- `stunWalk_cases`: one turn of the attribute walk
- `stunWalk_tail`: behind MESSAGE-INTEGRITY the walk changes no field but FINGERPRINT's
- `stunWalk_agree`: two walks over bytes that agree up to MESSAGE-INTEGRITY
- `integrity_covers_fields`: an authenticated message is what its covered bytes say
-/

namespace Nanortc.Spec

open Nanortc.ForStd Nanortc.Native

/-! ### One turn of the walk -/

/-- The attribute at an offset. -/
def attrAt (data : List UInt8) (pos : Nat) : StunAttr := StunAttr.ofType (readU16be data pos)

/-- The length field of the attribute at an offset. -/
def attrLenAt (data : List UInt8) (pos : Nat) : Nat := (readU16be data (pos + 2)).toNat

/-- The offset behind the attribute at an offset and its padding. -/
def attrEnd (data : List UInt8) (pos : Nat) : Nat := pos + (4 + attrPadded (attrLenAt data pos))

theorem attrLenAt_le (data : List UInt8) (pos : Nat) :
    pos + 4 + attrLenAt data pos ≤ attrEnd data pos := by
  simp only [attrEnd, attrPadded]
  omega

/-- An attribute is refused for its format only. -/
theorem stunParseAttr_error {msg : StunMsg} {attr : StunAttr} {attrLen pos : Nat}
    {val : List UInt8} {rc : Rc} (h : stunParseAttr msg attr attrLen pos val = .error rc) :
    rc = .parse := by
  cases attr <;> simp only [stunParseAttr] at h <;> grind

/-- What a turn of a walk that succeeds has found: the end of the message, an attribute that is
skipped, or one that is read. -/
theorem stunWalk_cases {data : List UInt8} {turns pos : Nat} {mi fp : Bool} {msg m : StunMsg}
    (h : stunWalk data (turns + 1) pos mi fp msg = .ok m) :
    (data.length < pos + 4 ∧ m = msg) ∨
    (attrEnd data pos ≤ data.length ∧ fp = false ∧
      ((mi = true ∧ attrAt data pos ≠ .fingerprint ∧
          stunWalk data turns (attrEnd data pos) mi fp msg = .ok m) ∨
        ((mi = true → attrAt data pos = .fingerprint) ∧ ∃ msg1,
          stunParseAttr msg (attrAt data pos) (attrLenAt data pos) pos (data.drop (pos + 4)) =
            .ok msg1 ∧
          stunWalk data turns (attrEnd data pos) (mi || attrAt data pos == .messageIntegrity)
            (fp || attrAt data pos == .fingerprint) msg1 = .ok m))) := by
  rw [stunWalk] at h
  split at h
  · dsimp only at h
    split at h
    · exact nomatch h
    rename_i hend
    split at h
    · exact nomatch h
    rename_i hfp
    refine .inr ⟨?_, eq_false_of_ne_true hfp, ?_⟩
    · simp only [attrEnd, attrLenAt]
      omega
    split at h
    · rename_i hskip
      exact .inl ⟨hskip.1, hskip.2, h⟩
    rename_i hread
    refine .inr ⟨fun hmi => by_contra fun hne => hread ⟨hmi, hne⟩, ?_⟩
    split at h
    · exact nomatch h
    · rename_i msg1 hparse
      exact ⟨msg1, hparse, h⟩
  · rename_i hend
    exact .inl ⟨by omega, (Except.ok.inj h).symm⟩

theorem stunWalk_error {data : List UInt8} {turns pos : Nat} {mi fp : Bool} {msg : StunMsg}
    {rc : Rc} (h : stunWalk data turns pos mi fp msg = .error rc) : rc = .parse := by
  induction turns generalizing pos mi fp msg with
  | zero => exact nomatch h
  | succ turns ih =>
    rw [stunWalk] at h
    split at h
    · dsimp only at h
      split at h
      · exact (Except.error.inj h).symm
      split at h
      · exact (Except.error.inj h).symm
      split at h
      · exact ih h
      split at h
      · rename_i hparse
        obtain rfl := Except.error.inj h
        exact stunParseAttr_error hparse
      · exact ih h
    · exact nomatch h

/-- The parser reports no other error. -/
theorem stunParse_error {data : List UInt8} {rc : Rc} (h : stunParse data = .error rc) :
    rc = .parse := by
  unfold stunParse at h
  split at h
  · exact (Except.error.inj h).symm
  split at h
  · exact (Except.error.inj h).symm
  split at h
  · exact (Except.error.inj h).symm
  dsimp only at h
  split at h
  · exact (Except.error.inj h).symm
  split at h
  · exact (Except.error.inj h).symm
  · exact stunWalk_error h

/-! ### Behind MESSAGE-INTEGRITY -/

/-- The message without what FINGERPRINT says. -/
def unfingerprinted (msg : StunMsg) : StunMsg :=
  { msg with hasFingerprint := false, fingerprintValue := 0 }

theorem stunParseAttr_fingerprint {msg msg1 : StunMsg} {attrLen pos : Nat} {val : List UInt8}
    (h : stunParseAttr msg .fingerprint attrLen pos val = .ok msg1) :
    unfingerprinted msg1 = unfingerprinted msg := by
  simp only [stunParseAttr] at h
  split at h
  · exact nomatch h
  · obtain rfl := Except.ok.inj h
    rfl

/-- Behind MESSAGE-INTEGRITY only FINGERPRINT is read. -/
theorem stunWalk_tail {data : List UInt8} {turns pos : Nat} {fp : Bool} {msg m : StunMsg}
    (h : stunWalk data turns pos true fp msg = .ok m) :
    unfingerprinted m = unfingerprinted msg := by
  induction turns generalizing pos fp msg with
  | zero =>
    obtain rfl := Except.ok.inj h
    rfl
  | succ turns ih =>
    obtain ⟨-, rfl⟩ | ⟨-, -, ⟨-, -, hrest⟩ | ⟨hattr, msg1, hread, hrest⟩⟩ := stunWalk_cases h
    · rfl
    · exact ih hrest
    · rw [hattr rfl] at hread
      exact (ih hrest).trans (stunParseAttr_fingerprint hread)

/-- MESSAGE-INTEGRITY records its offset. -/
theorem stunParseAttr_integrity {msg msg1 : StunMsg} {attrLen pos : Nat} {val : List UInt8}
    (h : stunParseAttr msg .messageIntegrity attrLen pos val = .ok msg1) :
    attrLen = 20 ∧ msg1 = { msg with hasIntegrity := true, integrityOffset := UInt16.ofNat pos } := by
  simp only [stunParseAttr] at h
  split at h
  · exact nomatch h
  · rename_i hlen
    exact ⟨by omega, (Except.ok.inj h).symm⟩

/-- No other attribute touches the flag. -/
theorem stunParseAttr_hasIntegrity {msg msg1 : StunMsg} {attr : StunAttr} {attrLen pos : Nat}
    {val : List UInt8} (h : stunParseAttr msg attr attrLen pos val = .ok msg1)
    (hattr : attr ≠ .messageIntegrity) : msg1.hasIntegrity = msg.hasIntegrity := by
  cases attr <;> simp only [stunParseAttr] at h <;> grind

/-- The MESSAGE-INTEGRITY that counts is the first one of the walk, and it lies inside the
message. A message is no longer than its 16-bit length allows, so the offset is not cut. -/
theorem stunWalk_offset {data : List UInt8} {turns pos : Nat} {fp : Bool} {msg m : StunMsg}
    (hlen : data.length ≤ 65555) (h : stunWalk data turns pos false fp msg = .ok m)
    (hmsg : msg.hasIntegrity = false) (hm : m.hasIntegrity = true) :
    pos ≤ m.integrityOffset.toNat ∧ m.integrityOffset.toNat + 24 ≤ data.length ∧
      (attrAt data pos = .messageIntegrity → m.integrityOffset.toNat = pos) := by
  induction turns generalizing pos fp msg with
  | zero =>
    obtain rfl := Except.ok.inj h
    exact absurd hm (by rw [hmsg]; decide)
  | succ turns ih =>
    obtain ⟨-, rfl⟩ | ⟨hend, -, ⟨hmi, -, -⟩ | ⟨-, msg1, hread, hrest⟩⟩ := stunWalk_cases h
    · exact absurd hm (by rw [hmsg]; decide)
    · exact nomatch hmi
    have hle := attrLenAt_le data pos
    by_cases hattr : attrAt data pos = .messageIntegrity
    · -- what follows keeps the offset just recorded
      rw [hattr] at hread hrest
      obtain ⟨h20, rfl⟩ := stunParseAttr_integrity hread
      have hoff : m.integrityOffset = UInt16.ofNat pos :=
        congrArg StunMsg.integrityOffset (stunWalk_tail hrest)
      have hpos : m.integrityOffset.toNat = pos := by
        rw [hoff, UInt16.toNat_ofNat']
        omega
      exact ⟨by omega, by omega, fun _ => hpos⟩
    · have hflag := stunParseAttr_hasIntegrity hread hattr
      rw [show (false || attrAt data pos == .messageIntegrity) = false by simp [hattr]] at hrest
      obtain ⟨hpos, hin, -⟩ := ih hrest (hflag.trans hmsg)
      exact ⟨by omega, hin, fun h => absurd h hattr⟩

/-! ### Two runs -/

/-- Decoding an address reads no byte behind the attribute. -/
theorem stunDecodeXorAddr_congr {val val' : List UInt8} {attrLen : Nat}
    (h : val'.take attrLen = val.take attrLen) (txid : List UInt8) (out : StunAddr) :
    stunDecodeXorAddr val' attrLen txid out = stunDecodeXorAddr val attrLen txid out := by
  simp only [stunDecodeXorAddr]
  split
  · rfl
  rename_i hlen
  have hfam : byteAt val' 1 = byteAt val 1 := byteAt_of_take_eq h (by omega)
  have hport : readU16be val' 2 = readU16be val 2 := readU16be_of_take_eq h (by omega)
  have haddr : readU32be val' 4 = readU32be val 4 := readU32be_of_take_eq h (by omega)
  have hlong (h20 : ¬ attrLen < 20) : (val'.drop 4).take 16 = (val.drop 4).take 16 := by
    have := congrArg (fun l => (l.drop 4).take 16) h
    simpa only [List.drop_take, List.take_take, show min 16 (attrLen - 4) = 16 by omega] using this
  rw [hfam, hport, haddr]
  split
  · rfl
  split
  · split
    · rfl
    · rename_i h20
      rw [hlong h20]
  · rfl

/-- Reading an attribute reads no byte behind it. -/
theorem stunParseAttr_congr {val val' : List UInt8} {attrLen : Nat}
    (h : val'.take attrLen = val.take attrLen) (msg : StunMsg) (attr : StunAttr) (pos : Nat) :
    stunParseAttr msg attr attrLen pos val' = stunParseAttr msg attr attrLen pos val := by
  have hword (i : Nat) (hi : i + 3 < attrLen) : readU32be val' i = readU32be val i :=
    readU32be_of_take_eq h hi
  cases attr with
  | username => simp only [stunParseAttr, h]
  | data => simp only [stunParseAttr, h]
  | realm => simp only [stunParseAttr, h]
  | nonce => simp only [stunParseAttr, h]
  | useCandidate => rfl
  | messageIntegrity => rfl
  | other => rfl
  | xorMappedAddress => simp only [stunParseAttr, stunDecodeXorAddr_congr h]
  | xorRelayedAddress => simp only [stunParseAttr, stunDecodeXorAddr_congr h]
  | xorPeerAddress => simp only [stunParseAttr, stunDecodeXorAddr_congr h]
  | priority =>
    simp only [stunParseAttr]
    split
    · rfl
    · rw [hword 0 (by omega)]
  | lifetime =>
    simp only [stunParseAttr]
    split
    · rfl
    · rw [hword 0 (by omega)]
  | fingerprint =>
    simp only [stunParseAttr]
    split
    · rfl
    · rw [hword 0 (by omega)]
  | channelNumber =>
    simp only [stunParseAttr]
    split
    · rfl
    · rw [readU16be_of_take_eq h (by omega)]
  | errorCode =>
    simp only [stunParseAttr]
    split
    · rfl
    · rw [byteAt_of_take_eq h (show 2 < attrLen by omega),
        byteAt_of_take_eq h (show 3 < attrLen by omega)]
  | iceControlling =>
    simp only [stunParseAttr, readU64be]
    split
    · rfl
    · rw [hword 0 (by omega), hword (0 + 4) (by omega)]
  | iceControlled =>
    simp only [stunParseAttr, readU64be]
    split
    · rfl
    · rw [hword 0 (by omega), hword (0 + 4) (by omega)]

/-- **Two walks over bytes that agree up to MESSAGE-INTEGRITY read the same message**, but for
FINGERPRINT. -/
theorem stunWalk_agree {data data' : List UInt8} {turns pos : Nat} {fp : Bool}
    {msg m m' : StunMsg} (hlen : data.length ≤ 65555)
    (hagree : data'.take (m.integrityOffset.toNat + 24) = data.take (m.integrityOffset.toNat + 24))
    (hsame : data'.length = data.length)
    (hmsg : msg.hasIntegrity = false) (hm : m.hasIntegrity = true)
    (h : stunWalk data turns pos false fp msg = .ok m)
    (h' : stunWalk data' turns pos false fp msg = .ok m') :
    unfingerprinted m' = unfingerprinted m := by
  induction turns generalizing pos fp msg with
  | zero =>
    obtain rfl := Except.ok.inj h
    exact absurd hm (by rw [hmsg]; decide)
  | succ turns ih =>
    obtain ⟨hpos, -, hfirst⟩ := stunWalk_offset hlen h hmsg hm
    -- the attribute's header lies in the part that agrees
    have hattr : attrAt data' pos = attrAt data pos :=
      congrArg StunAttr.ofType (readU16be_of_take_eq hagree (by omega))
    have hattrLen : attrLenAt data' pos = attrLenAt data pos :=
      congrArg UInt16.toNat (readU16be_of_take_eq hagree (by omega))
    have hend : attrEnd data' pos = attrEnd data pos := by simp only [attrEnd, hattrLen]
    obtain ⟨-, rfl⟩ | ⟨hin, -, ⟨hmi, -, -⟩ | ⟨-, msg1, hread, hrest⟩⟩ := stunWalk_cases h
    · exact absurd hm (by rw [hmsg]; decide)
    · exact nomatch hmi
    obtain ⟨hstop, -⟩ | ⟨-, -, ⟨hmi, -, -⟩ | ⟨-, msg1', hread', hrest'⟩⟩ := stunWalk_cases h'
    · have := attrLenAt_le data pos
      omega
    · exact nomatch hmi
    rw [hattr, hattrLen] at hread'
    rw [hattr, hend] at hrest'
    have hle := attrLenAt_le data pos
    -- and so does its value
    have hval (hn : pos + 4 + attrLenAt data pos ≤ m.integrityOffset.toNat + 24) :
        msg1' = msg1 := by
      have htake : (data'.drop (pos + 4)).take (attrLenAt data pos) =
          (data.drop (pos + 4)).take (attrLenAt data pos) := by
        have := congrArg (fun l => (l.drop (pos + 4)).take (attrLenAt data pos)) hagree
        simpa only [List.drop_take, List.take_take,
          show min (attrLenAt data pos) (m.integrityOffset.toNat + 24 - (pos + 4)) =
            attrLenAt data pos by omega] using this
      rw [stunParseAttr_congr htake, hread] at hread'
      exact (Except.ok.inj hread').symm
    by_cases hmi : attrAt data pos = .messageIntegrity
    · rw [hmi] at hread hrest hrest'
      have h20 := (stunParseAttr_integrity hread).1
      have hoff := hfirst hmi
      obtain rfl := hval (by omega)
      exact (stunWalk_tail hrest').trans (stunWalk_tail hrest).symm
    · have hflag := (stunParseAttr_hasIntegrity hread hmi).trans hmsg
      rw [show (false || attrAt data pos == .messageIntegrity) = false by simp [hmi]]
        at hrest hrest'
      have hnext := (stunWalk_offset hlen hrest hflag hm).1
      obtain rfl := hval (by omega)
      exact ih hflag hrest hrest'

/-! ### Two datagrams -/

/-- An accepted message is as long as its header says, and is walked from behind the header. -/
theorem stunParse_walk {data : List UInt8} {msg : StunMsg} (h : stunParse data = .ok msg) :
    data.length = (readU16be data 2).toNat + stunHeaderSize ∧
    stunWalk data data.length stunHeaderSize false false
      { type := readU16be data 0, length := readU16be data 2
        transactionId := (data.drop 8).take stunTxidSize } = .ok msg := by
  simp only [stunParse] at h
  split at h
  · exact nomatch h
  split at h
  · exact nomatch h
  split at h
  · exact nomatch h
  split at h
  · exact nomatch h
  rename_i hlen
  split at h
  · exact nomatch h
  · exact ⟨by omega, h⟩

/-- **Two accepted datagrams that agree up to the end of MESSAGE-INTEGRITY are the same message**,
but for FINGERPRINT. -/
theorem stunParse_agree {data data' : List UInt8} {msg msg' : StunMsg}
    (h : stunParse data = .ok msg) (h' : stunParse data' = .ok msg')
    (hmi : msg.hasIntegrity = true)
    (hagree : data'.take (msg.integrityOffset.toNat + 24) =
      data.take (msg.integrityOffset.toNat + 24)) :
    data'.length = data.length ∧ unfingerprinted msg' = unfingerprinted msg := by
  obtain ⟨hlen, hwalk⟩ := stunParse_walk h
  obtain ⟨hlen', hwalk'⟩ := stunParse_walk h'
  have hbound : data.length ≤ 65555 := by
    have := (readU16be data 2).toNat_lt
    simp only [stunHeaderSize] at hlen
    omega
  have hpos : 20 ≤ msg.integrityOffset.toNat := (stunWalk_offset hbound hwalk rfl hmi).1
  -- the header is part of what agrees
  have htype : readU16be data' 0 = readU16be data 0 := readU16be_of_take_eq hagree (by omega)
  have hlength : readU16be data' 2 = readU16be data 2 := readU16be_of_take_eq hagree (by omega)
  have htxid : (data'.drop 8).take stunTxidSize = (data.drop 8).take stunTxidSize := by
    have := congrArg (fun l => (l.drop 8).take stunTxidSize) hagree
    simpa only [List.drop_take, List.take_take, show min stunTxidSize
      (msg.integrityOffset.toNat + 24 - 8) = stunTxidSize by simp only [stunTxidSize]; omega]
      using this
  have hsame : data'.length = data.length := by rw [hlen', hlen, hlength]
  rw [hsame, htype, hlength, htxid] at hwalk'
  exact ⟨hsame, stunWalk_agree hbound hagree hsame rfl hmi hwalk hwalk'⟩

/-- Messages that differ in FINGERPRINT only. -/
theorem eq_of_unfingerprinted {msg msg' : StunMsg} (h : unfingerprinted msg' = unfingerprinted msg) :
    msg' = { msg with
      hasFingerprint := msg'.hasFingerprint, fingerprintValue := msg'.fingerprintValue } := by
  cases msg
  cases msg'
  simp only [unfingerprinted, StunMsg.mk.injEq] at h ⊢
  simp only [h, and_self]

/-- MESSAGE-INTEGRITY verifies on both or on neither, under any key. -/
theorem stunVerifyIntegrity_agree {data data' : List UInt8} {msg msg' : StunMsg}
    (hsame : data'.length = data.length) (hmsg : unfingerprinted msg' = unfingerprinted msg)
    (hagree : data'.take (msg.integrityOffset.toNat + 24) =
      data.take (msg.integrityOffset.toNat + 24))
    (crypto : CryptoProvider) (key : List UInt8) :
    stunVerifyIntegrity crypto data' msg' key = stunVerifyIntegrity crypto data msg key := by
  have hflag : msg'.hasIntegrity = msg.hasIntegrity := by rw [eq_of_unfingerprinted hmsg]
  have hoff : msg'.integrityOffset = msg.integrityOffset := by rw [eq_of_unfingerprinted hmsg]
  have hinput : data'.take msg.integrityOffset.toNat = data.take msg.integrityOffset.toNat := by
    have := congrArg (List.take msg.integrityOffset.toNat) hagree
    simpa only [List.take_take, Nat.min_eq_left (Nat.le_add_right _ 24)] using this
  have hdigest : (data'.drop (msg.integrityOffset.toNat + 4)).take 20 =
      (data.drop (msg.integrityOffset.toNat + 4)).take 20 := by
    have := congrArg (fun l => l.drop (msg.integrityOffset.toNat + 4)) hagree
    simpa only [List.drop_take, show msg.integrityOffset.toNat + 24 -
      (msg.integrityOffset.toNat + 4) = 20 by omega] using this
  simp only [stunVerifyIntegrity, hflag, hoff, hsame, hinput, hdigest]

/-! ### What the message is used for -/

section

variable {crypto : CryptoProvider} {data data' : List UInt8} {msg msg' : StunMsg}

/-- FINGERPRINT is missing or wrong. -/
def FingerprintFails (data : List UInt8) (msg : StunMsg) : Prop :=
  msg.hasFingerprint = false ∨ stunVerifyFingerprint data ≠ .ok

theorem iceHandleRequest_unsigned (h : FingerprintFails data msg) (ice : NanoIce)
    (src : NanortcAddr) (localIdx : Nat) (viaTurn : Bool) (room : Nat) :
    ∃ rc, rc ≠ .ok ∧
      iceHandleRequest crypto ice data msg src localIdx viaTurn room = (ice, rc, []) := by
  simp only [iceHandleRequest]
  split
  · exact ⟨.protocol, by decide, rfl⟩
  rename_i hfp
  have hne := h.resolve_left fun hno => hfp (by rw [hno]; rfl)
  rw [if_pos hne]
  exact ⟨_, hne, rfl⟩

theorem iceHandleResponse_unsigned (h : FingerprintFails data msg) (ice : NanoIce)
    (src : NanortcAddr) (localIdx : Nat) (viaTurn : Bool) :
    ∃ rc, rc ≠ .ok ∧ iceHandleResponse crypto ice data msg src localIdx viaTurn = (ice, rc) := by
  simp only [iceHandleResponse]
  split
  · -- an answer to the consent check
    rw [if_pos (h.imp_left fun hno => by rw [hno]; rfl)]
    exact ⟨.protocol, by decide, rfl⟩
  split
  · exact ⟨.protocol, by decide, rfl⟩
  split
  · exact ⟨.protocol, by decide, rfl⟩
  rename_i hfp
  have hne := h.resolve_left fun hno => hfp (by rw [hno]; rfl)
  rw [if_pos hne]
  exact ⟨_, hne, rfl⟩

theorem iceHandleError_unsigned (h : FingerprintFails data msg) (ice : NanoIce) :
    iceHandleError crypto ice data msg = (ice, .protocol) := by
  have hno : stunAuthentic crypto data msg ice.remotePwd = false := by
    obtain hno | hne := h
    · simp only [stunAuthentic, hno, Bool.false_and]
    · simp only [stunAuthentic, beq_eq_false_iff_ne.mpr hne, Bool.and_false, Bool.false_and]
  simp only [iceHandleError, hno]
  rfl

/-- The agent treats both datagrams alike, or refuses the second one. -/
theorem iceHandleStun_agree (h : stunParse data = .ok msg) (h' : stunParse data' = .ok msg')
    (hmsg : unfingerprinted msg' = unfingerprinted msg)
    (hmi : ∀ key, stunVerifyIntegrity crypto data' msg' key = stunVerifyIntegrity crypto data msg key)
    (hfp : msg.hasFingerprint = true) (hfpOk : stunVerifyFingerprint data = .ok)
    (ice : NanoIce) (src : NanortcAddr) (localIdx : Nat) (viaTurn : Bool) (room : Nat) :
    iceHandleStun crypto ice data' src localIdx viaTurn room =
        iceHandleStun crypto ice data src localIdx viaTurn room ∨
      ∃ rc, rc ≠ .ok ∧ iceHandleStun crypto ice data' src localIdx viaTurn room = (ice, rc, []) := by
  have heq := eq_of_unfingerprinted hmsg
  have htype : msg'.type = msg.type := by rw [heq]
  have htxid : msg'.transactionId = msg.transactionId := by rw [heq]
  have hflag : msg'.hasIntegrity = msg.hasIntegrity := by rw [heq]
  have huse : msg'.useCandidate = msg.useCandidate := by rw [heq]
  have huser : iceVerifyUsername ice msg' = iceVerifyUsername ice msg := by rw [heq]; rfl
  have hresp (a key n) : stunEncodeBindingResponse crypto msg' a key n =
      stunEncodeBindingResponse crypto msg a key n := by rw [heq]; rfl
  have hdone (slot) : iceCheckSucceeded ice slot msg' = iceCheckSucceeded ice slot msg := by
    rw [heq]; rfl
  simp only [iceHandleStun, h, h']
  by_cases hgood : msg'.hasFingerprint = true ∧ stunVerifyFingerprint data' = .ok
  · left
    simp only [iceHandleRequest, iceHandleResponse, iceHandleError, stunAuthentic, htype, htxid,
      hflag, huse, huser, hresp, hdone, hmi, hfp, hfpOk, hgood]
  · right
    have hbad : FingerprintFails data' msg' := by
      cases hhas : msg'.hasFingerprint with
      | false => exact .inl hhas
      | true => exact .inr fun hv => hgood ⟨hhas, hv⟩
    split
    · exact iceHandleRequest_unsigned hbad ice src localIdx viaTurn room
    split
    · obtain ⟨rc, hrc, hans⟩ := iceHandleResponse_unsigned hbad ice src localIdx viaTurn
      exact ⟨rc, hrc, by rw [hans]⟩
    split
    · exact ⟨.protocol, by decide, by rw [iceHandleError_unsigned hbad]⟩
    · exact ⟨.protocol, by decide, rfl⟩

/-- The TURN client treats both datagrams alike, or ignores the second one. -/
theorem turnHandleResponse_agree (h : stunParse data = .ok msg) (h' : stunParse data' = .ok msg')
    (hmsg : unfingerprinted msg' = unfingerprinted msg)
    (hmi : ∀ key, stunVerifyIntegrity crypto data' msg' key = stunVerifyIntegrity crypto data msg key)
    (hfp : msg.hasFingerprint = true → stunVerifyFingerprint data = .ok)
    (turn : NanoTurn) (nowMs : UInt32) :
    turnHandleResponse crypto turn nowMs data' = turnHandleResponse crypto turn nowMs data ∨
      (turnHandleResponse crypto turn nowMs data').1 = turn := by
  have heq := eq_of_unfingerprinted hmsg
  have htype : msg'.type = msg.type := by rw [heq]
  have htxid : msg'.transactionId = msg.transactionId := by rw [heq]
  have hflag : msg'.hasIntegrity = msg.hasIntegrity := by rw [heq]
  have hcode : msg'.errorCode = msg.errorCode := by rw [heq]
  have hperm : turnAnsweredPermission turn msg' = turnAnsweredPermission turn msg := by
    rw [heq]; rfl
  have hchan : turnAnsweredChannel turn msg' = turnAnsweredChannel turn msg := by rw [heq]; rfl
  have hstale (a b c d) : turnHandleStaleNonce turn nowMs msg' a b c d =
      turnHandleStaleNonce turn nowMs msg a b c d := by rw [heq]; rfl
  have hdispatch (c d) : turnDispatchResponse crypto turn nowMs msg' c d =
      turnDispatchResponse crypto turn nowMs msg c d := by rw [heq]; rfl
  have hfine : ¬ (msg.hasFingerprint = true ∧ stunVerifyFingerprint data ≠ .ok) :=
    fun hbad => hbad.2 (hfp hbad.1)
  simp only [turnHandleResponse, h, h', htype, htxid, hflag, hcode, hperm, hchan, hstale, hdispatch,
    hmi]
  by_cases hbad : msg'.hasFingerprint = true ∧ stunVerifyFingerprint data' ≠ .ok
  · right
    split
    · rfl
    split
    · rfl
    · rfl
  · left
    rw [if_neg hbad, if_neg hfine]

end

/-- **MESSAGE-INTEGRITY covers every field that is used.** A datagram that agrees with an
authenticated message up to the end of MESSAGE-INTEGRITY is refused by the parser, or every field
but FINGERPRINT's is the same and MESSAGE-INTEGRITY verifies; the agent and the TURN client then
treat it like the authenticated message or refuse it. -/
theorem integrity_covers_fields {crypto : CryptoProvider} {data data' key : List UInt8}
    {msg : StunMsg} (hparse : stunParse data = .ok msg)
    (hok : stunVerifyIntegrity crypto data msg key = .ok)
    (hagree : data'.take (msg.integrityOffset.toNat + 24) =
      data.take (msg.integrityOffset.toNat + 24)) :
    stunParse data' = .error .parse ∨
    ∃ msg', stunParse data' = .ok msg' ∧ unfingerprinted msg' = unfingerprinted msg ∧
      (∀ key, stunVerifyIntegrity crypto data' msg' key =
        stunVerifyIntegrity crypto data msg key) ∧
      (msg.hasFingerprint = true → stunVerifyFingerprint data = .ok →
        ∀ ice src localIdx viaTurn room,
          iceHandleStun crypto ice data' src localIdx viaTurn room =
              iceHandleStun crypto ice data src localIdx viaTurn room ∨
            ∃ rc, rc ≠ .ok ∧
              iceHandleStun crypto ice data' src localIdx viaTurn room = (ice, rc, [])) ∧
      ((msg.hasFingerprint = true → stunVerifyFingerprint data = .ok) →
        ∀ turn nowMs,
          turnHandleResponse crypto turn nowMs data' = turnHandleResponse crypto turn nowMs data ∨
            (turnHandleResponse crypto turn nowMs data').1 = turn) := by
  cases hparse' : stunParse data' with
  | error rc =>
    obtain rfl := stunParse_error hparse'
    exact .inl rfl
  | ok msg' =>
    have hmi : msg.hasIntegrity = true := by
      by_contra hne
      simp only [stunVerifyIntegrity, eq_false_of_ne_true hne] at hok
      exact nomatch hok
    obtain ⟨hsame, hmsg⟩ := stunParse_agree hparse hparse' hmi hagree
    have hverify := stunVerifyIntegrity_agree hsame hmsg hagree crypto
    exact .inr ⟨msg', rfl, hmsg, hverify,
      fun hfp hfpOk => iceHandleStun_agree hparse hparse' hmsg hverify hfp hfpOk,
      turnHandleResponse_agree hparse hparse' hmsg hverify⟩

/-- A signed Binding Request. -/
def demoSigned : List UInt8 :=
  (stunEncodeBindingRequest .checksum [0x61, 0x3A, 0x62] 5 false true 9 (List.replicate stunTxidSize 3)
    [0x6B] 200).toOption.getD []

/-- The same request with another PRIORITY in the place of FINGERPRINT. -/
def demoSwapped : List UInt8 := demoSigned.take 72 ++ stunAttr 0x0024 (u32be 7)

/-- The parsed request. -/
def demoSignedMsg : StunMsg :=
  { type := stunBindingRequest, length := 60, transactionId := List.replicate stunTxidSize 3
    username := some [0x61, 0x3A, 0x62], priority := 5, iceControlling := some 9
    hasFingerprint := true, fingerprintValue := readU32be demoSigned 76
    hasIntegrity := true, integrityOffset := 48 }

theorem integrity_covers_demo :
    ∃ msg', stunParse demoSwapped = .ok msg' ∧
      unfingerprinted msg' = unfingerprinted demoSignedMsg := by
  have hparse : stunParse demoSigned = .ok demoSignedMsg := by decide +kernel
  have hok : stunVerifyIntegrity .checksum demoSigned demoSignedMsg [0x6B] = .ok := by
    decide +kernel
  have hagree : demoSwapped.take (demoSignedMsg.integrityOffset.toNat + 24) =
      demoSigned.take (demoSignedMsg.integrityOffset.toNat + 24) := by decide +kernel
  obtain hrefused | ⟨msg', hmsg', hsame, -⟩ := integrity_covers_fields hparse hok hagree
  · exact absurd hrefused (by decide +kernel)
  · exact ⟨msg', hmsg', hsame⟩

end Nanortc.Spec
