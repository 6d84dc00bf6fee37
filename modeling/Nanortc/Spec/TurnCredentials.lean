import Nanortc.Spec.TurnRelay

/-!
# The long-term key over runs

Password and HMAC key share storage: the key that the first challenge derives takes the place of
the password. Beside a run of the client we keep the credentials it was last configured with and the
realm it last accepted. As long as nothing is configured or derived while a key is there, the key is
that of these credentials; after `turn_deallocate` a new challenge derives it from the old key.

## Key results

- `turnHandleResponse_auth`: a response derives a key or leaves the credentials alone
- `key_of_credentials`: the key over runs that derive it once
-/

namespace Nanortc.Spec

open Nanortc.ForStd Nanortc.Native

/-! ### Operations that keep the credentials -/

/-- Neither the credentials, the key nor the realm changes, and no challenge was accepted. -/
structure KeepsAuth (turn turn' : NanoTurn) : Prop where
  username : turn'.username = turn.username
  auth : turn'.auth = turn.auth
  passwordLen : turn'.passwordLen = turn.passwordLen
  realm : turn'.realm = turn.realm
  hmacKeyValid : turn'.hmacKeyValid = turn.hmacKeyValid
  state : turn'.state = .challenged → turn.state = .challenged

theorem KeepsAuth.refl (turn : NanoTurn) : KeepsAuth turn turn := ⟨rfl, rfl, rfl, rfl, rfl, id⟩

theorem KeepsAuth.trans {a b c : NanoTurn} (h : KeepsAuth a b) (h' : KeepsAuth b c) :
    KeepsAuth a c :=
  ⟨h'.username.trans h.username, h'.auth.trans h.auth, h'.passwordLen.trans h.passwordLen,
    h'.realm.trans h.realm, h'.hmacKeyValid.trans h.hmacKeyValid, h.state ∘ h'.state⟩

theorem turnFail_auth {turn t : NanoTurn} (h : KeepsAuth turn t) :
    KeepsAuth turn (turnFail t).1 :=
  ⟨h.username, h.auth, h.passwordLen, h.realm, h.hmacKeyValid, nofun⟩

theorem turnClearTransaction_auth (turn : NanoTurn) :
    KeepsAuth turn (turnClearTransaction turn) := ⟨rfl, rfl, rfl, rfl, rfl, id⟩

theorem turnStartAllocate_auth (crypto : CryptoProvider) (turn : NanoTurn)
    (random : Option (List UInt8)) (bufLen : Nat) :
    KeepsAuth turn (turnStartAllocate crypto turn random bufLen).1 := by
  unfold turnStartAllocate
  split
  · exact .refl turn
  split
  · exact .refl turn
  cases random with
  | none => exact .refl turn
  | some txid =>
    dsimp only
    split
    · exact .refl turn
    · exact ⟨rfl, rfl, rfl, rfl, rfl, nofun⟩

theorem turnGenerateRefresh_auth (crypto : CryptoProvider) (turn : NanoTurn) (nowMs : UInt32)
    (random : Option (List UInt8)) (bufLen : Nat) :
    KeepsAuth turn (turnGenerateRefresh crypto turn nowMs random bufLen).1 := by
  unfold turnGenerateRefresh
  iterate 3
    split
    · exact .refl turn
  cases random with
  | none => exact .refl turn
  | some txid =>
    dsimp only
    split
    · exact .refl turn
    · exact ⟨rfl, rfl, rfl, rfl, rfl, id⟩

theorem turnCreatePermission_auth (crypto : CryptoProvider) (turn : NanoTurn) (peer : NanortcAddr)
    (random : Option (List UInt8)) (bufLen : Nat) :
    KeepsAuth turn (turnCreatePermission crypto turn peer random bufLen).1 := by
  unfold turnCreatePermission
  split
  · exact .refl turn
  split
  · exact .refl turn
  dsimp only
  split
  · exact .refl turn
  split
  · exact .refl turn
  cases random with
  | none => exact .refl turn
  | some txid =>
    dsimp only
    split
    · exact .refl turn
    · exact ⟨rfl, rfl, rfl, rfl, rfl, id⟩

theorem turnChannelBind_auth (crypto : CryptoProvider) (turn : NanoTurn) (peer : NanortcAddr)
    (random : Option (List UInt8)) (bufLen : Nat) :
    KeepsAuth turn (turnChannelBind crypto turn peer random bufLen).1 := by
  unfold turnChannelBind
  split
  · exact .refl turn
  split
  · exact .refl turn
  cases turn.channels.findIdx? (·.isFor peer) with
  | none =>
    dsimp only
    split
    · exact .refl turn
    split
    · exact .refl turn
    cases random with
    | none => exact .refl turn
    | some txid =>
      dsimp only
      split
      · exact .refl turn
      · exact ⟨rfl, rfl, rfl, rfl, rfl, id⟩
  | some i =>
    dsimp only
    split
    · exact .refl turn
    cases random with
    | none => exact .refl turn
    | some txid =>
      dsimp only
      split <;> exact ⟨rfl, rfl, rfl, rfl, rfl, id⟩

theorem turnRetransmitTables_auth (crypto : CryptoProvider) (turn : NanoTurn) (nowMs : UInt32)
    (random : Option (List UInt8)) (bufLen : Nat) :
    KeepsAuth turn (turnRetransmitTables crypto turn nowMs random bufLen).1 := by
  unfold turnRetransmitTables
  dsimp only
  split <;> exact ⟨rfl, rfl, rfl, rfl, rfl, id⟩

theorem turnGenerateRetransmit_auth (crypto : CryptoProvider) (turn : NanoTurn) (nowMs : UInt32)
    (random : Option (List UInt8)) (bufLen : Nat) :
    KeepsAuth turn (turnGenerateRetransmit crypto turn nowMs random bufLen).1 := by
  have htables := turnRetransmitTables_auth crypto turn nowMs random bufLen
  unfold turnGenerateRetransmit
  split
  · exact htables
  split
  · have hretry := turnRetransmitTables_auth crypto { turn with
      transactionRetryAtMs :=
        nanoTimeDeadline nowMs (turnRetryDelayMs turn.transactionTransmissions) }
      nowMs random bufLen
    exact ⟨hretry.username, hretry.auth, hretry.passwordLen, hretry.realm, hretry.hmacKeyValid,
      hretry.state⟩
  split
  · exact htables
  split
  · exact ⟨rfl, rfl, rfl, rfl, rfl, nofun⟩
  split
  · exact .refl turn
  · dsimp only
    split
    · exact .refl turn
    · exact ⟨rfl, rfl, rfl, rfl, rfl, id⟩

theorem turnDoWork_auth (crypto : CryptoProvider) (turn : NanoTurn) (nowMs : UInt32)
    (work : TurnWork) (random : Option (List UInt8)) (bufLen : Nat) :
    KeepsAuth turn (turnDoWork crypto turn nowMs work random bufLen).1 := by
  unfold turnDoWork
  cases work.type with
  | none => exact .refl turn
  | retransmit => exact .refl turn
  | allocate => exact turnStartAllocate_auth ..
  | refresh => exact turnGenerateRefresh_auth ..
  | permission => exact turnCreatePermission_auth ..
  | channel => exact turnChannelBind_auth ..

theorem turnPollOutput_auth (crypto : CryptoProvider) (turn : NanoTurn) (nowMs : UInt32)
    (random : Option (List UInt8)) (bufLen : Nat) :
    KeepsAuth turn (turnPollOutput crypto turn nowMs random bufLen).1 := by
  unfold turnPollOutput
  dsimp only
  split
  · exact .refl turn
  split
  · have hretx := turnGenerateRetransmit_auth crypto turn nowMs random bufLen
    revert hretx
    generalize turnGenerateRetransmit crypto turn nowMs random bufLen = r
    intro hretx
    split
    · split
      · exact hretx
      · exact hretx.trans (turnDoWork_auth ..)
    · exact hretx
  · exact turnDoWork_auth ..

theorem turnDeallocate_auth (crypto : CryptoProvider) (turn : NanoTurn)
    (random : Option (List UInt8)) (bufLen : Nat) :
    KeepsAuth turn (turnDeallocate crypto turn random bufLen).1 := by
  unfold turnDeallocate
  split
  · exact .refl turn
  split
  · exact .refl turn
  cases random with
  | none => exact .refl turn
  | some txid =>
    dsimp only
    split
    · exact .refl turn
    · exact ⟨rfl, rfl, rfl, rfl, rfl, nofun⟩

/-! ### Responses -/

/-- The bytes `turn_derive_key` digests. -/
def turnKeyInput (username realm password : List UInt8) : List UInt8 :=
  username ++ [0x3A] ++ realm ++ [0x3A] ++ password

/-- A challenge was accepted: the state says so, and the key of its realm takes the place of what
the storage held. -/
structure Derives (crypto : CryptoProvider) (turn turn' : NanoTurn) : Prop where
  before : turn.state = .allocating
  after : turn'.state = .challenged
  username : turn'.username = turn.username
  passwordLen : turn'.passwordLen = turn.passwordLen
  hmacKeyValid : turn'.hmacKeyValid = true
  auth : turn'.auth = writeAt turn.auth 0
    (crypto.md5 (turnKeyInput turn.username turn'.realm (turn.auth.take turn.passwordLen)))

theorem turnHandleAllocateError_auth (crypto : CryptoProvider) (turn : NanoTurn) (msg : StunMsg) :
    KeepsAuth turn (turnHandleAllocateError crypto turn msg).1 ∨
      Derives crypto turn (turnHandleAllocateError crypto turn msg).1 := by
  have hclear := turnClearTransaction_auth turn
  unfold turnHandleAllocateError
  split
  · rename_i h401
    split
    · exact .inl (turnFail_auth hclear)
    · cases msg.realm with
      | none => exact .inl (turnFail_auth hclear)
      | some realm =>
        cases msg.nonce with
        | none => exact .inl (turnFail_auth hclear)
        | some nonce => exact .inr ⟨h401.2, rfl, rfl, rfl, rfl, rfl⟩
  · exact .inl (turnFail_auth hclear)

theorem turnDispatchResponse_auth (crypto : CryptoProvider) (turn : NanoTurn) (nowMs : UInt32)
    (msg : StunMsg) (perm chan : Option Nat) :
    KeepsAuth turn (turnDispatchResponse crypto turn nowMs msg perm chan).1 ∨
      Derives crypto turn (turnDispatchResponse crypto turn nowMs msg perm chan).1 := by
  unfold turnDispatchResponse
  dsimp only
  cases TurnMsgType.ofType msg.type with
  | allocateError => exact turnHandleAllocateError_auth crypto turn msg
  | allocateResponse =>
    dsimp only
    split
    · exact .inl (.refl turn)
    · exact .inl ⟨rfl, rfl, rfl, rfl, rfl, nofun⟩
  | refreshResponse => exact .inl ⟨rfl, rfl, rfl, rfl, rfl, id⟩
  | refreshError => exact .inl (turnFail_auth (turnClearTransaction_auth turn))
  | permissionResponse =>
    cases perm with
    | none => exact .inl (.refl turn)
    | some i => exact .inl ⟨rfl, rfl, rfl, rfl, rfl, id⟩
  | permissionError =>
    cases perm with
    | none => exact .inl (.refl turn)
    | some i =>
      dsimp only
      unfold turnHandlePermissionError
      dsimp only
      split
      · exact .inl ⟨rfl, rfl, rfl, rfl, rfl, id⟩
      split
      · exact .inl ⟨rfl, rfl, rfl, rfl, rfl, id⟩
      · exact .inl ⟨rfl, rfl, rfl, rfl, rfl, nofun⟩
  | channelBindResponse =>
    cases chan with
    | none => exact .inl (.refl turn)
    | some i => exact .inl ⟨rfl, rfl, rfl, rfl, rfl, id⟩
  | channelBindError =>
    cases chan with
    | none => exact .inl (.refl turn)
    | some i => exact .inl ⟨rfl, rfl, rfl, rfl, rfl, id⟩
  | other => exact .inl (.refl turn)

theorem turnHandleStaleNonce_auth (turn : NanoTurn) (nowMs : UInt32) (msg : StunMsg)
    (txidMatch authenticated : Bool) (perm chan : Option Nat) :
    KeepsAuth turn
      (turnHandleStaleNonce turn nowMs msg txidMatch authenticated perm chan).1 := by
  have hfail : KeepsAuth turn (turnFail (turnClearTransaction turn)).1 :=
    turnFail_auth (turnClearTransaction_auth turn)
  unfold turnHandleStaleNonce
  dsimp only
  generalize (if txidMatch then turn.transactionTransmissions else _ : Nat) = transmissions
  cases msg.nonce with
  | none => exact hfail
  | some nonce =>
    dsimp only
    split
    · exact hfail
    split
    · exact ⟨rfl, rfl, rfl, rfl, rfl, id⟩
    cases perm with
    | some i => exact ⟨rfl, rfl, rfl, rfl, rfl, id⟩
    | none => exact ⟨rfl, rfl, rfl, rfl, rfl, id⟩

/-- **A response derives a key, or it leaves the credentials alone.** -/
theorem turnHandleResponse_auth (crypto : CryptoProvider) (turn : NanoTurn) (nowMs : UInt32)
    (data : List UInt8) :
    KeepsAuth turn (turnHandleResponse crypto turn nowMs data).1 ∨
      Derives crypto turn (turnHandleResponse crypto turn nowMs data).1 := by
  unfold turnHandleResponse
  cases stunParse data with
  | error e => exact .inl (.refl turn)
  | ok msg =>
    dsimp only
    iterate 4
      split
      · exact .inl (.refl turn)
    split
    · exact .inl (turnHandleStaleNonce_auth ..)
    · exact turnDispatchResponse_auth ..

/-! ### Runs -/

/-- A client with what the application last configured and the realm it last accepted. `once` says
that nothing was configured or derived while a key was there, `stored` that every key was derived
from the configured password. -/
structure CredentialLog where
  turn : NanoTurn
  username : List UInt8 := []
  password : List UInt8 := []
  realm : List UInt8 := []
  once : Bool := true
  stored : Bool := true

/-- One call, logged. A key is derived exactly when the client enters `CHALLENGED`. -/
def credentialStep (crypto : CryptoProvider) (s : CredentialLog) (i : TurnInput) :
    CredentialLog :=
  let turn := turnStep crypto s.turn i
  match i with
  | .configure server username password =>
    if (turnConfigure s.turn server username password).2 = .ok then
      { s with
        turn := turn
        username := username
        password := password
        once := s.once && !s.turn.hmacKeyValid }
    else { s with turn := turn }
  | .handleResponse _ _ =>
    if s.turn.state ≠ .challenged ∧ turn.state = .challenged then
      { s with
        turn := turn
        realm := turn.realm
        once := s.once && !s.turn.hmacKeyValid
        stored := s.stored && s.turn.auth.take s.turn.passwordLen == s.password }
    else { s with turn := turn }
  | _ => { s with turn := turn }

/-- The credentials are the configured ones; until a key is there the storage holds the password,
and the key is that of the credentials. -/
structure Credentials (crypto : CryptoProvider) (s : CredentialLog) : Prop where
  username : s.turn.username = s.username
  passwordLen : s.turn.passwordLen = s.password.length
  realm : s.turn.realm = s.realm
  password : s.once = true → s.turn.hmacKeyValid = false →
    s.turn.auth.take s.turn.passwordLen = s.password
  key : s.once = true → s.turn.hmacKeyValid = true →
    s.turn.hmacKey = crypto.md5 (turnKeyInput s.username s.realm s.password)
  stored : s.once = true → s.stored = true

theorem Credentials.start (crypto : CryptoProvider) :
    Credentials crypto { turn := turnInit } :=
  ⟨rfl, rfl, rfl, fun _ _ => rfl, fun _ h => (nomatch h), fun _ => rfl⟩

theorem Credentials.keeps {crypto : CryptoProvider} {s : CredentialLog} (h : Credentials crypto s)
    {turn : NanoTurn} (hk : KeepsAuth s.turn turn) :
    Credentials crypto { s with turn := turn } := by
  refine ⟨hk.username.trans h.username, hk.passwordLen.trans h.passwordLen,
    hk.realm.trans h.realm, fun honce hvalid => ?_, fun honce hvalid => ?_,
    fun honce => h.stored honce⟩
  · show turn.auth.take turn.passwordLen = s.password
    rw [hk.auth, hk.passwordLen]
    exact h.password honce (hk.hmacKeyValid.symm.trans hvalid)
  · show turn.auth.take turnHmacKeySize = _
    rw [hk.auth]
    exact h.key honce (hk.hmacKeyValid.symm.trans hvalid)

theorem take_writeAt_zero (b v : List UInt8) : (writeAt b 0 v).take v.length = v := by
  unfold writeAt
  rw [List.take_zero, List.nil_append, List.take_left]

theorem Credentials.configure {crypto : CryptoProvider} {s : CredentialLog}
    (h : Credentials crypto s) (server : NanortcAddr) (username password : List UInt8) :
    Credentials crypto (credentialStep crypto s (.configure server username password)) := by
  unfold credentialStep turnStep
  dsimp only
  unfold turnConfigure
  by_cases hlong : username.length ≥ turnTextSize ∨ password.length ≥ turnTextSize
  · rw [if_pos hlong, if_neg nofun]
    exact h
  · rw [if_neg hlong, if_pos rfl]
    refine ⟨rfl, rfl, h.realm, fun _ _ => ?_, fun honce hvalid => ?_, fun honce => ?_⟩
    · show (writeAt s.turn.auth 0 (password ++ [0])).take password.length = password
      unfold writeAt
      rw [List.take_zero, List.nil_append, List.append_assoc, List.take_left]
    · -- a key that is there breaks the condition
      have hvalid : s.turn.hmacKeyValid = true := hvalid
      have honce : (s.once && !s.turn.hmacKeyValid) = true := honce
      rw [hvalid, Bool.not_true, Bool.and_false] at honce
      exact nomatch honce
    · have honce : (s.once && !s.turn.hmacKeyValid) = true := honce
      exact h.stored (Bool.and_eq_true _ _ ▸ honce).1

theorem Credentials.derive {crypto : CryptoProvider} {s : CredentialLog}
    (h : Credentials crypto s) {turn : NanoTurn} (hd : Derives crypto s.turn turn) :
    Credentials crypto { s with
      turn := turn
      realm := turn.realm
      once := s.once && !s.turn.hmacKeyValid
      stored := s.stored && s.turn.auth.take s.turn.passwordLen == s.password } := by
  have hpassword (honce : (s.once && !s.turn.hmacKeyValid) = true) :
      s.stored = true ∧ s.turn.auth.take s.turn.passwordLen = s.password := by
    rw [Bool.and_eq_true, Bool.not_eq_true'] at honce
    exact ⟨h.stored honce.1, h.password honce.1 honce.2⟩
  refine ⟨hd.username.trans h.username, hd.passwordLen.trans h.passwordLen, rfl,
    fun _ hvalid => ?_, fun honce _ => ?_, fun honce => ?_⟩
  · have hvalid : turn.hmacKeyValid = false := hvalid
    rw [hd.hmacKeyValid] at hvalid
    exact nomatch hvalid
  · show turn.auth.take turnHmacKeySize = _
    rw [hd.auth, (hpassword honce).2, h.username]
    have htake := take_writeAt_zero s.turn.auth
      (crypto.md5 (turnKeyInput s.username turn.realm s.password))
    rw [crypto.length_md5] at htake
    exact htake
  · show (s.stored && _ == s.password) = true
    rw [(hpassword honce).1, (hpassword honce).2, beq_self_eq_true]
    rfl

theorem Credentials.step {crypto : CryptoProvider} {s : CredentialLog} (h : Credentials crypto s)
    (i : TurnInput) : Credentials crypto (credentialStep crypto s i) := by
  cases i with
  | configure server username password => exact h.configure server username password
  | handleResponse nowMs data =>
    have hresponse := turnHandleResponse_auth crypto s.turn nowMs data
    unfold credentialStep turnStep
    dsimp only
    cases hresponse with
    | inl hk =>
      rw [if_neg fun hstate => hstate.1 (hk.state hstate.2)]
      exact h.keeps hk
    | inr hd =>
      rw [if_pos ⟨by rw [hd.before]; exact nofun, hd.after⟩]
      exact h.derive hd
  | startAllocate random bufLen => exact h.keeps (turnStartAllocate_auth ..)
  | generateRefresh nowMs random bufLen => exact h.keeps (turnGenerateRefresh_auth ..)
  | createPermission peer random bufLen => exact h.keeps (turnCreatePermission_auth ..)
  | channelBind peer random bufLen => exact h.keeps (turnChannelBind_auth ..)
  | generateRetransmit nowMs random bufLen => exact h.keeps (turnGenerateRetransmit_auth ..)
  | pollOutput nowMs random bufLen => exact h.keeps (turnPollOutput_auth ..)
  | deallocate random bufLen => exact h.keeps (turnDeallocate_auth ..)
  | resetPeerState => exact h.keeps ⟨rfl, rfl, rfl, rfl, rfl, id⟩

/-- **The key is that of the credentials.** In every run in which nothing is configured and no
challenge accepted while a key is there, a valid key is that of the last configured username and
password under the last accepted realm, and every key was derived from the configured password. -/
theorem key_of_credentials (crypto : CryptoProvider) (is : List TurnInput) :
    let s := run (credentialStep crypto) { turn := turnInit } is
    s.once = true →
      (s.turn.hmacKeyValid = true →
        s.turn.hmacKey = crypto.md5 (turnKeyInput s.username s.realm s.password)) ∧
      s.stored = true := by
  intro s honce
  have h : Credentials crypto s :=
    run_invariant (P := Credentials crypto) (fun _ i h => h.step i) (Credentials.start crypto) is
  exact ⟨h.key honce, h.stored honce⟩

/-- The first 401 of an allocation. -/
def demoChallenge (n : UInt8) : List TurnInput :=
  [.startAllocate (some (demoTxid n)) 400,
    .handleResponse 2 (stunFinalizeLength (stunHeader 0x0113 0 (demoTxid n) ++
      stunAttr 0x0009 [0, 0, 4, 1] ++ stunAttr 0x0014 [0x72] ++ stunAttr 0x0015 [0x6E]))]

/-- The first allocation signs with the key of its credentials. -/
theorem key_of_credentials_first :
    (run (credentialStep .checksum) { turn := turnInit } (demoAllocation 4)).turn.hmacKey =
      CryptoProvider.checksum.md5 (turnKeyInput [0x75] [0x72] [0x70]) := by
  have h := (key_of_credentials .checksum (demoAllocation 4) (by decide +kernel)).1
    (by decide +kernel)
  rw [h]
  decide +kernel

/-- The second one, after a deallocation, does not: its key is derived from the first key. -/
theorem key_of_old_key :
    let s := run (credentialStep .checksum) { turn := turnInit }
      (demoAllocation 4 ++ .deallocate (some (demoTxid 4)) 400 :: demoChallenge 5)
    s.turn.hmacKeyValid = true ∧ s.stored = false ∧
      s.turn.hmacKey ≠ CryptoProvider.checksum.md5 (turnKeyInput s.username s.realm s.password) := by
  decide +kernel

end Nanortc.Spec
