import Nanortc.ForStd.Timer
import Nanortc.Spec.TurnRequests

/-!
# The scheduler of the TURN client

`turn_next_work` as the first of the earliest items of work, and `turn_generate_retransmit` as a pass
over the requests that wait: one that is due is sent again or given up, one that was never armed is
armed.

## Key results

- `turnNextWork_eq`: the scheduler as a choice among items of work
- `turnNextWork_request`, `turnNextWork_duty`: requests that are due come before duties
- `mem_turnItems`, `turnNextTimeoutMs_cases`: the timeout is that of some work, or there is none
- `turnRetransmitTables_serves`, `turnRetransmitTables_quiet`: the tables send, or arm and expire
- `turnGenerateRetransmit_served`, `turnGenerateRetransmit_tables`: the transaction
-/

namespace Nanortc.Spec

open Nanortc.ForStd Nanortc.Native

/-! ### Items of work -/

/-- An item of work with the time until it is due. -/
def turnItem (nowMs : UInt32) (type : TurnWorkType) (index : Nat) (deadline : UInt32) : TurnWork :=
  ⟨type, if deadline = 0 then 0 else nanoTimeUntil nowMs deadline, index⟩

/-- The items of a table. -/
def turnTableItems {α : Type} (nowMs : UInt32) (type : TurnWorkType) (cond : α → Bool)
    (deadline : α → UInt32) (table : List α) : List TurnWork :=
  table.zipIdx.filterMap fun (a, i) =>
    if cond a then some (turnItem nowMs type i (deadline a)) else none

/-- Requests that wait for their answers. -/
def turnRequests (turn : NanoTurn) (nowMs : UInt32) : List TurnWork :=
  (if turn.transaction ≠ .none then [turnItem nowMs .retransmit 0 turn.transactionRetryAtMs]
    else []) ++
  if turn.state = .allocated then
    turnTableItems nowMs .retransmit (fun p : TurnPermission => p.pending != .none) (·.deadlineMs)
      turn.permissions ++
    turnTableItems nowMs .retransmit (fun c : TurnChannel => c.pending != .none) (·.deadlineMs)
      turn.channels
  else []

/-- Requests to begin: an allocation, or the refreshes of one. -/
def turnDuties (turn : NanoTurn) (nowMs : UInt32) : List TurnWork :=
  if turn.state = .allocated then
    (if turn.transaction = .none then [turnItem nowMs .refresh 0 turn.refreshAtMs] else []) ++
    turnTableItems nowMs .permission
      (fun p : TurnPermission => p.pending == .none && !p.terminal) (·.deadlineMs)
      turn.permissions ++
    turnTableItems nowMs .channel (fun c : TurnChannel => c.bound && c.pending == .none)
      (·.deadlineMs) turn.channels
  else if turn.transaction = .none ∧ (turn.state = .idle ∨ turn.state = .challenged) then
    [turnItem nowMs .allocate 0 0]
  else []

theorem turnConsiderWork_eq (nowMs : UInt32) (work : TurnWork) (type : TurnWorkType) (index : Nat)
    (deadline : UInt32) : turnConsiderWork nowMs work type index deadline =
      earliest TurnWork.delayMs work [turnItem nowMs type index deadline] := rfl

theorem turnConsiderTable_eq {α : Type} (nowMs : UInt32) (type : TurnWorkType) (cond : α → Bool)
    (deadline : α → UInt32) (table : List α) (work : TurnWork) :
    turnConsiderTable nowMs type cond deadline table work =
      earliest TurnWork.delayMs work (turnTableItems nowMs type cond deadline table) := by
  unfold turnConsiderTable turnTableItems
  induction table.zipIdx generalizing work with
  | nil => rfl
  | cons x l ih =>
    rw [List.foldl_cons, List.filterMap_cons]
    dsimp only
    split
    · exact ih _
    · exact ih _

/-- The scheduler takes the first of the earliest items, requests before duties. -/
theorem turnNextWork_eq (turn : NanoTurn) (nowMs : UInt32) :
    turnNextWork turn nowMs = if !turn.configured ∨ turn.state = .failed then {}
      else earliest TurnWork.delayMs {} (turnRequests turn nowMs ++ turnDuties turn nowMs) := by
  unfold turnNextWork
  split
  · rfl
  unfold turnRequests turnDuties
  simp only [turnConsiderTable_eq, turnConsiderWork_eq]
  by_cases hstate : turn.state = .allocated
  · have hidle : ¬(turn.state = .idle ∨ turn.state = .challenged) := by
      rw [hstate]
      decide
    rw [if_neg (not_not.mpr hstate), if_pos hstate, if_pos hstate, if_neg hidle]
    by_cases htxn : turn.transaction = .none
    · rw [if_neg (not_not.mpr htxn), if_neg (not_not.mpr htxn), if_pos htxn, if_pos htxn,
        List.nil_append]
      simp only [earliest_append]
    · rw [if_pos htxn, if_pos htxn, if_neg htxn, if_neg htxn, List.nil_append]
      simp only [earliest_append]
  · rw [if_pos hstate, if_neg hstate, if_neg hstate, List.append_nil]
    by_cases htxn : turn.transaction = .none
    · rw [if_neg (not_not.mpr htxn), if_neg (not_not.mpr htxn), List.nil_append]
      by_cases hidle : turn.state = .idle ∨ turn.state = .challenged
      · rw [if_pos hidle, if_pos ⟨htxn, hidle⟩]
      · rw [if_neg hidle, if_neg fun h => hidle h.2]
        rfl
    · rw [if_pos htxn, if_pos htxn, if_neg fun h => htxn h.1, List.append_nil]

theorem mem_turnTableItems {α : Type} {nowMs : UInt32} {type : TurnWorkType} {cond : α → Bool}
    {deadline : α → UInt32} {table : List α} {w : TurnWork} :
    w ∈ turnTableItems nowMs type cond deadline table ↔
      ∃ i a, table[i]? = some a ∧ cond a = true ∧ w = turnItem nowMs type i (deadline a) := by
  unfold turnTableItems
  rw [List.mem_filterMap]
  constructor
  · rintro ⟨⟨a, i⟩, hmem, hsome⟩
    dsimp only at hsome
    split at hsome
    · rename_i hcond
      exact ⟨i, a, List.mem_zipIdx_iff_getElem?.mp hmem, hcond, (Option.some.inj hsome).symm⟩
    · exact nomatch hsome
  · rintro ⟨i, a, hget, hcond, rfl⟩
    exact ⟨(a, i), List.mem_zipIdx_iff_getElem?.mpr hget, if_pos hcond⟩

/-! ### Deadlines -/

theorem nanoTimeIsDue_iff {nowMs deadline : UInt32} :
    nanoTimeIsDue nowMs deadline = true ↔ (nowMs - deadline).toNat < 2 ^ 31 := by
  unfold nanoTimeIsDue nanoTimeElapsed
  rw [decide_eq_true_iff, UInt32.le_iff_toNat_le]
  exact Nat.lt_succ_iff.symm

theorem nanoTimeIsDue_false_iff {nowMs deadline : UInt32} :
    nanoTimeIsDue nowMs deadline = false ↔
      0 < (deadline - nowMs).toNat ∧ (deadline - nowMs).toNat ≤ 2 ^ 31 := by
  rw [← Bool.not_eq_true, nanoTimeIsDue_iff]
  rw [UInt32.toNat_sub, UInt32.toNat_sub]
  have := nowMs.toNat_lt
  have := deadline.toNat_lt
  omega

theorem nanoTimeUntil_eq_zero_iff {nowMs deadline : UInt32} :
    nanoTimeUntil nowMs deadline = 0 ↔ nanoTimeIsDue nowMs deadline = true := by
  unfold nanoTimeUntil
  split
  · rename_i hdue
    exact iff_of_true rfl hdue
  · rename_i hdue
    refine iff_of_false (fun hzero => ?_) hdue
    have hpos := (nanoTimeIsDue_false_iff.mp (Bool.eq_false_iff.mpr hdue)).1
    rw [hzero] at hpos
    exact Nat.lt_irrefl 0 hpos

/-- A deadline that is not due now is due after the time until it, and not before. -/
theorem nanoTimeIsDue_add {nowMs deadline e : UInt32} (h : nanoTimeIsDue nowMs deadline = false) :
    (e < nanoTimeUntil nowMs deadline → nanoTimeIsDue (nowMs + e) deadline = false) ∧
      nanoTimeIsDue (nowMs + nanoTimeUntil nowMs deadline) deadline = true := by
  have huntil : nanoTimeUntil nowMs deadline = deadline - nowMs :=
    if_neg (by rw [h]; exact Bool.false_ne_true)
  obtain ⟨hpos, hle⟩ := nanoTimeIsDue_false_iff.mp h
  rw [huntil]
  constructor
  · intro he
    rw [nanoTimeIsDue_false_iff]
    have hsub : deadline - (nowMs + e) = (deadline - nowMs) - e := by grind
    have he := UInt32.lt_iff_toNat_lt.mp he
    rw [hsub, UInt32.toNat_sub_of_le _ _ (UInt32.le_iff_toNat_le.mpr (Nat.le_of_lt he))]
    omega
  · have hadd : nowMs + (deadline - nowMs) - deadline = 0 := by grind
    rw [nanoTimeIsDue_iff, hadd]
    decide

theorem turnItem_due_iff {nowMs : UInt32} {type : TurnWorkType} {i : Nat} {deadline : UInt32} :
    (turnItem nowMs type i deadline).delayMs = 0 ↔
      deadline = 0 ∨ nanoTimeIsDue nowMs deadline = true := by
  show (if deadline = 0 then 0 else nanoTimeUntil nowMs deadline) = 0 ↔ _
  split
  · rename_i hzero
    exact iff_of_true rfl (.inl hzero)
  · rename_i hne
    rw [nanoTimeUntil_eq_zero_iff]
    exact (or_iff_right hne).symm

/-- A retransmission waits between half a second and eight. -/
theorem turnRetryDelayMs_bounds (transmissions : Nat) :
    500 ≤ (turnRetryDelayMs transmissions).toNat ∧
      (turnRetryDelayMs transmissions).toNat ≤ 8000 := by
  have hdouble : ∀ (n : Nat) (delayMs : UInt32), 500 ≤ delayMs.toNat → delayMs.toNat ≤ 8000 →
      500 ≤ (turnRetryDelayMs.double (turnRtoMs * turnRtoMaxMultiplier) n delayMs).toNat ∧
        (turnRetryDelayMs.double (turnRtoMs * turnRtoMaxMultiplier) n delayMs).toNat ≤ 8000 := by
    intro n
    induction n with
    | zero => exact fun _ hlow hhigh => ⟨hlow, hhigh⟩
    | succ n ih =>
      intro delayMs hlow hhigh
      unfold turnRetryDelayMs.double
      split
      · exact ⟨by decide, by decide⟩
      · rename_i hlt
        have hlt : delayMs.toNat < 4000 := UInt32.lt_iff_toNat_lt.mp (UInt32.not_le.mp hlt)
        have hmul : (delayMs * 2).toNat = delayMs.toNat * 2 := by
          rw [UInt32.toNat_mul]
          show delayMs.toNat * 2 % 4294967296 = _
          omega
        apply ih
        · omega
        · omega
  exact hdouble _ _ (by decide) (by decide)

/-- A deadline some time ahead is armed and not due. -/
theorem nanoTimeDeadline_ahead (nowMs : UInt32) {delayMs : UInt32} (hpos : 0 < delayMs.toNat)
    (hle : delayMs.toNat < 2 ^ 31) :
    nanoTimeDeadline nowMs delayMs ≠ 0 ∧
      nanoTimeIsDue nowMs (nanoTimeDeadline nowMs delayMs) = false := by
  unfold nanoTimeDeadline
  dsimp only
  split
  · rename_i hzero
    refine ⟨by decide, nanoTimeIsDue_false_iff.mpr ?_⟩
    -- the deadline wraps to zero and is put off by a millisecond
    have hone : (1 : UInt32) - nowMs = delayMs + 1 := by grind
    rw [hone, UInt32.toNat_add]
    show 0 < (delayMs.toNat + 1) % 4294967296 ∧ (delayMs.toNat + 1) % 4294967296 ≤ 2 ^ 31
    omega
  · rename_i hne
    refine ⟨hne, nanoTimeIsDue_false_iff.mpr ?_⟩
    have hsub : nowMs + delayMs - nowMs = delayMs := by grind
    rw [hsub]
    exact ⟨hpos, Nat.le_of_lt hle⟩

theorem turnRetry_ahead (nowMs : UInt32) (transmissions : Nat) :
    nanoTimeDeadline nowMs (turnRetryDelayMs transmissions) ≠ 0 ∧
      nanoTimeIsDue nowMs (nanoTimeDeadline nowMs (turnRetryDelayMs transmissions)) = false := by
  have hbounds := turnRetryDelayMs_bounds transmissions
  exact nanoTimeDeadline_ahead nowMs (by omega) (by omega)

/-! ### The choice -/

/-- The scheduler has an eye on the client. -/
def TurnActive (turn : NanoTurn) : Prop := turn.configured = true ∧ turn.state ≠ .failed

instance (turn : NanoTurn) : Decidable (TurnActive turn) := inferInstanceAs (Decidable (_ ∧ _))

theorem turnNextWork_active {turn : NanoTurn} (h : TurnActive turn) (nowMs : UInt32) :
    turnNextWork turn nowMs =
      earliest TurnWork.delayMs {} (turnRequests turn nowMs ++ turnDuties turn nowMs) := by
  rw [turnNextWork_eq, if_neg]
  rw [h.1]
  exact fun hor => hor.elim (fun hf => nomatch hf) h.2

theorem turnNextWork_inactive {turn : NanoTurn} (h : ¬ TurnActive turn) (nowMs : UInt32) :
    turnNextWork turn nowMs = {} := by
  rw [turnNextWork_eq, if_pos]
  by_cases hconf : turn.configured = true
  · exact .inr (not_not.mp fun hstate => h ⟨hconf, hstate⟩)
  · exact .inl (by rw [Bool.eq_false_iff.mpr hconf]; rfl)

theorem turnRequests_type {turn : NanoTurn} {nowMs : UInt32} {w : TurnWork}
    (h : w ∈ turnRequests turn nowMs) : w.type = .retransmit := by
  unfold turnRequests at h
  cases List.mem_append.mp h with
  | inl h =>
    split at h
    · rw [List.mem_singleton.mp h]
      rfl
    · exact nomatch h
  | inr h =>
    split at h
    · cases List.mem_append.mp h with
      | inl h =>
        obtain ⟨i, p, -, -, rfl⟩ := mem_turnTableItems.mp h
        rfl
      | inr h =>
        obtain ⟨i, c, -, -, rfl⟩ := mem_turnTableItems.mp h
        rfl
    · exact nomatch h

/-- A request that is due comes first. -/
theorem turnNextWork_request {turn : NanoTurn} (hactive : TurnActive turn) {nowMs : UInt32}
    {w : TurnWork} (hmem : w ∈ turnRequests turn nowMs) (hdue : w.delayMs = 0) :
    (turnNextWork turn nowMs).delayMs = 0 ∧ (turnNextWork turn nowMs).type = .retransmit := by
  rw [turnNextWork_active hactive, earliest_append]
  have hle : (earliest TurnWork.delayMs {} (turnRequests turn nowMs)).delayMs ≤ w.delayMs :=
    earliest_le TurnWork.delayMs hmem {}
  have hzero : (earliest TurnWork.delayMs {} (turnRequests turn nowMs)).delayMs = 0 :=
    UInt32.le_zero_iff.mp (hdue ▸ hle)
  rw [earliest_of_least]
  · refine ⟨hzero, ?_⟩
    cases earliest_mem TurnWork.delayMs {} (turnRequests turn nowMs) with
    | inl hstart =>
      rw [hstart] at hzero
      exact nomatch hzero
    | inr hrequest => exact turnRequests_type hrequest
  · intro b
    rw [hzero]
    exact UInt32.zero_le

/-- Without a request that is due, what is due is a duty. -/
theorem turnNextWork_duty {turn : NanoTurn} (hactive : TurnActive turn) {nowMs : UInt32}
    (hidle : ∀ w ∈ turnRequests turn nowMs, w.delayMs ≠ 0)
    (hdue : (turnNextWork turn nowMs).delayMs = 0) :
    turnNextWork turn nowMs ∈ turnDuties turn nowMs := by
  rw [turnNextWork_active hactive] at hdue ⊢
  cases earliest_mem TurnWork.delayMs {}
      (turnRequests turn nowMs ++ turnDuties turn nowMs) with
  | inl hstart =>
    rw [hstart] at hdue
    exact nomatch hdue
  | inr hmem =>
    cases List.mem_append.mp hmem with
    | inl hrequest => exact absurd hdue (hidle _ hrequest)
    | inr hduty => exact hduty

/-- The items of work at a moment. -/
def turnItems (turn : NanoTurn) (nowMs : UInt32) : List TurnWork :=
  turnRequests turn nowMs ++ turnDuties turn nowMs

/-- Work that the client has, with its place in a table and its deadline. -/
inductive Scheduled (turn : NanoTurn) : TurnWorkType → Nat → UInt32 → Prop
  | transaction (htxn : turn.transaction ≠ .none) :
    Scheduled turn .retransmit 0 turn.transactionRetryAtMs
  | permissionRequest (hstate : turn.state = .allocated) {i : Nat} {p : TurnPermission}
    (hi : turn.permissions[i]? = some p) (hpending : p.pending ≠ .none) :
    Scheduled turn .retransmit i p.deadlineMs
  | channelRequest (hstate : turn.state = .allocated) {i : Nat} {c : TurnChannel}
    (hi : turn.channels[i]? = some c) (hpending : c.pending ≠ .none) :
    Scheduled turn .retransmit i c.deadlineMs
  | refresh (hstate : turn.state = .allocated) (htxn : turn.transaction = .none) :
    Scheduled turn .refresh 0 turn.refreshAtMs
  | permission (hstate : turn.state = .allocated) {i : Nat} {p : TurnPermission}
    (hi : turn.permissions[i]? = some p) (hidle : p.pending = .none) (hlive : p.terminal = false) :
    Scheduled turn .permission i p.deadlineMs
  | channel (hstate : turn.state = .allocated) {i : Nat} {c : TurnChannel}
    (hi : turn.channels[i]? = some c) (hbound : c.bound = true) (hidle : c.pending = .none) :
    Scheduled turn .channel i c.deadlineMs
  | allocate (htxn : turn.transaction = .none)
    (hidle : turn.state = .idle ∨ turn.state = .challenged) : Scheduled turn .allocate 0 0

/-- An item of work is some work of the client at that moment. -/
theorem mem_turnItems {turn : NanoTurn} {nowMs : UInt32} {w : TurnWork} :
    w ∈ turnItems turn nowMs ↔
      ∃ type i deadline, Scheduled turn type i deadline ∧ w = turnItem nowMs type i deadline := by
  unfold turnItems turnRequests turnDuties
  constructor
  · intro h
    rcases List.mem_append.mp h with h | h
    · rcases List.mem_append.mp h with h | h
      · split at h
        · rename_i htxn
          exact ⟨_, _, _, .transaction htxn, List.mem_singleton.mp h⟩
        · exact nomatch h
      · split at h
        swap
        · exact nomatch h
        rename_i hstate
        rcases List.mem_append.mp h with h | h
        · obtain ⟨i, p, hi, hcond, heq⟩ := mem_turnTableItems.mp h
          exact ⟨_, _, _, .permissionRequest hstate hi (bne_iff_ne.mp hcond), heq⟩
        · obtain ⟨i, c, hi, hcond, heq⟩ := mem_turnTableItems.mp h
          exact ⟨_, _, _, .channelRequest hstate hi (bne_iff_ne.mp hcond), heq⟩
    · split at h
      · rename_i hstate
        rcases List.mem_append.mp h with h | h
        · rcases List.mem_append.mp h with h | h
          · split at h
            · rename_i htxn
              exact ⟨_, _, _, .refresh hstate htxn, List.mem_singleton.mp h⟩
            · exact nomatch h
          · obtain ⟨i, p, hi, hcond, heq⟩ := mem_turnTableItems.mp h
            rw [Bool.and_eq_true, beq_iff_eq, Bool.not_eq_true'] at hcond
            exact ⟨_, _, _, .permission hstate hi hcond.1 hcond.2, heq⟩
        · obtain ⟨i, c, hi, hcond, heq⟩ := mem_turnTableItems.mp h
          rw [Bool.and_eq_true, beq_iff_eq] at hcond
          exact ⟨_, _, _, .channel hstate hi hcond.1 hcond.2, heq⟩
      split at h
      · rename_i hidle
        exact ⟨_, _, _, .allocate hidle.1 hidle.2, List.mem_singleton.mp h⟩
      · exact nomatch h
  · rintro ⟨type, i, deadline, hwork, rfl⟩
    cases hwork with
    | transaction htxn =>
      rw [if_pos htxn]
      exact List.mem_append_left _ (List.mem_append_left _ (List.mem_singleton.mpr rfl))
    | permissionRequest hstate hi hpending =>
      rw [if_pos hstate]
      exact List.mem_append_left _ (List.mem_append_right _ (List.mem_append_left _
        (mem_turnTableItems.mpr ⟨_, _, hi, bne_iff_ne.mpr hpending, rfl⟩)))
    | channelRequest hstate hi hpending =>
      rw [if_pos hstate]
      exact List.mem_append_left _ (List.mem_append_right _ (List.mem_append_right _
        (mem_turnTableItems.mpr ⟨_, _, hi, bne_iff_ne.mpr hpending, rfl⟩)))
    | refresh hstate htxn =>
      apply List.mem_append_right
      rw [if_pos hstate, if_pos htxn]
      exact List.mem_append_left _ (List.mem_append_left _ (List.mem_singleton.mpr rfl))
    | permission hstate hi hidle hlive =>
      apply List.mem_append_right
      rw [if_pos hstate]
      exact List.mem_append_left _ (List.mem_append_right _
        (mem_turnTableItems.mpr ⟨_, _, hi, by simp [hidle, hlive], rfl⟩))
    | channel hstate hi hbound hidle =>
      apply List.mem_append_right
      rw [if_pos hstate]
      exact List.mem_append_right _
        (mem_turnTableItems.mpr ⟨_, _, hi, by simp [hbound, hidle], rfl⟩)
    | allocate htxn hidle =>
      apply List.mem_append_right
      have hstate : turn.state ≠ .allocated := by
        rcases hidle with hidle | hidle <;> rw [hidle] <;> exact nofun
      rw [if_neg hstate, if_pos ⟨htxn, hidle⟩]
      exact List.mem_singleton.mpr rfl

/-- No work is more overdue than the timeout says. -/
theorem Scheduled.timeout_le {turn : NanoTurn} {type : TurnWorkType} {i : Nat}
    {deadline : UInt32} (h : Scheduled turn type i deadline) (hactive : TurnActive turn)
    (nowMs : UInt32) :
    turnNextTimeoutMs turn nowMs ≤ (turnItem nowMs type i deadline).delayMs := by
  unfold turnNextTimeoutMs
  rw [turnNextWork_active hactive]
  exact earliest_le TurnWork.delayMs (mem_turnItems.mpr ⟨_, _, _, h, rfl⟩) {}

/-- A timeout is that of some work, or there is none. -/
theorem turnNextTimeoutMs_cases (turn : NanoTurn) (nowMs : UInt32) :
    turnNextTimeoutMs turn nowMs = 0xFFFFFFFF ∨
      (TurnActive turn ∧ ∃ type i deadline, Scheduled turn type i deadline ∧
        (turnItem nowMs type i deadline).delayMs = turnNextTimeoutMs turn nowMs) := by
  unfold turnNextTimeoutMs
  by_cases hactive : TurnActive turn
  · rw [turnNextWork_active hactive]
    cases earliest_mem TurnWork.delayMs {}
        (turnRequests turn nowMs ++ turnDuties turn nowMs) with
    | inl hstart =>
      rw [hstart]
      exact .inl rfl
    | inr hmem =>
      obtain ⟨type, i, deadline, hwork, heq⟩ := mem_turnItems.mp hmem
      exact .inr ⟨hactive, type, i, deadline, hwork, by rw [heq]⟩
  · rw [turnNextWork_inactive hactive]
    exact .inl rfl

/-- An item is at most half the clock's range ahead. -/
theorem turnItem_le (nowMs : UInt32) (type : TurnWorkType) (i : Nat) (deadline : UInt32) :
    (turnItem nowMs type i deadline).delayMs.toNat ≤ 2 ^ 31 := by
  show (if deadline = 0 then (0 : UInt32) else nanoTimeUntil nowMs deadline).toNat ≤ 2 ^ 31
  unfold nanoTimeUntil
  split
  · decide
  split
  · decide
  · rename_i hnot
    exact (nanoTimeIsDue_false_iff.mp (Bool.eq_false_iff.mpr hnot)).2

/-! ### The tables -/

/-- A request that must be sent again under a new nonce, was never armed, and has to wait until the
clock comes round. -/
def Stranded (nowMs : UInt32) (pending : TurnRequest) (deadlineMs : UInt32) : Prop :=
  pending = .reauth ∧ deadlineMs = 0 ∧ nanoTimeIsDue nowMs 0 = false

instance (nowMs : UInt32) (pending : TurnRequest) (deadlineMs : UInt32) :
    Decidable (Stranded nowMs pending deadlineMs) := inferInstanceAs (Decidable (_ ∧ _ ∧ _))

/-- What the timer finds of a request. -/
theorem turnDue_cases (nowMs : UInt32) (pending : TurnRequest) (deadlineMs : UInt32)
    (transmissions : Nat) :
    match turnDue nowMs pending deadlineMs transmissions with
    | .skip => pending = .none ∨ Stranded nowMs pending deadlineMs ∨
        (deadlineMs ≠ 0 ∧ nanoTimeIsDue nowMs deadlineMs = false)
    | .arm => pending = .waiting ∧ deadlineMs = 0
    | .expire => pending ≠ .none ∧ turnMaxTransmissions ≤ transmissions
    | .send => pending ≠ .none ∧ nanoTimeIsDue nowMs deadlineMs ∧
        (pending = .reauth ∨ deadlineMs ≠ 0) ∧ transmissions < turnMaxTransmissions := by
  unfold turnDue
  by_cases hnone : pending = .none
  · rw [if_pos hnone]
    exact .inl hnone
  rw [if_neg hnone]
  by_cases harm : deadlineMs = 0 ∧ pending ≠ .reauth
  · rw [if_pos harm]
    refine ⟨?_, harm.1⟩
    cases pending with
    | none => exact absurd rfl hnone
    | waiting => rfl
    | reauth => exact absurd rfl harm.2
  rw [if_neg harm]
  by_cases hdue : nanoTimeIsDue nowMs deadlineMs = true
  swap
  · have hnot := Bool.eq_false_iff.mpr hdue
    rw [if_pos (by rw [hnot]; rfl)]
    right
    by_cases hzero : deadlineMs = 0
    · subst hzero
      exact .inl ⟨not_not.mp fun h => harm ⟨rfl, h⟩, rfl, hnot⟩
    · exact .inr ⟨hzero, hnot⟩
  · rw [if_neg (by rw [hdue]; exact Bool.false_ne_true)]
    by_cases hspent : transmissions ≥ turnMaxTransmissions
    · rw [if_pos hspent]
      exact ⟨hnone, hspent⟩
    · rw [if_neg hspent]
      refine ⟨hnone, hdue, ?_, Nat.lt_of_not_le hspent⟩
      by_cases hzero : deadlineMs = 0
      · exact .inl (not_not.mp fun h => harm ⟨hzero, h⟩)
      · exact .inr hzero

/-- What the timer makes of a permission's request that it does not send. -/
def turnSettlePermission (nowMs : UInt32) (p : TurnPermission) : TurnPermission :=
  match turnDue nowMs p.pending p.deadlineMs p.transmissions with
  | .arm => { p with deadlineMs := nanoTimeDeadline nowMs (turnRetryDelayMs p.transmissions) }
  | .expire =>
    { p with
      pending := .none
      active := false
      terminal := false
      transmissions := 0
      deadlineMs := nanoTimeDeadline nowMs (turnRetryDelayMs turnMaxTransmissions) }
  | _ => p

/-- What the timer makes of a channel's request that it does not send. -/
def turnSettleChannel (nowMs : UInt32) (c : TurnChannel) : TurnChannel :=
  match turnDue nowMs c.pending c.deadlineMs c.transmissions with
  | .arm => { c with deadlineMs := nanoTimeDeadline nowMs (turnRetryDelayMs c.transmissions) }
  | .expire => { c with pending := .none, deadlineMs := 0 }
  | _ => c

/-- A settled request that still waits is due only if it is stranded. -/
theorem settled_due {nowMs : UInt32} {pending pending' : TurnRequest}
    {deadlineMs deadlineMs' : UInt32} {transmissions : Nat}
    (hsend : turnDue nowMs pending deadlineMs transmissions ≠ .send)
    (hsettled : match turnDue nowMs pending deadlineMs transmissions with
      | .arm => deadlineMs' = nanoTimeDeadline nowMs (turnRetryDelayMs transmissions)
      | .expire => pending' = .none
      | _ => pending' = pending ∧ deadlineMs' = deadlineMs) :
    (pending' ≠ .none ∧ (deadlineMs' = 0 ∨ nanoTimeIsDue nowMs deadlineMs' = true)) ↔
      Stranded nowMs pending deadlineMs := by
  have hahead {deadline : UInt32} (hne : deadline ≠ 0)
      (hnot : nanoTimeIsDue nowMs deadline = false) :
      ¬(pending' ≠ .none ∧ (deadline = 0 ∨ nanoTimeIsDue nowMs deadline = true)) := by
    rintro ⟨-, hzero | hnow⟩
    · exact hne hzero
    · rw [hnot] at hnow
      exact nomatch hnow
  have hcases := turnDue_cases nowMs pending deadlineMs transmissions
  cases hdue : turnDue nowMs pending deadlineMs transmissions with
  | send => exact absurd hdue hsend
  | skip =>
    rw [hdue] at hcases hsettled
    obtain ⟨rfl, rfl⟩ := hsettled
    rcases hcases with hnone | hstranded | ⟨hne, hnot⟩
    · refine iff_of_false (fun h => h.1 hnone) fun h => ?_
      rw [hnone] at h
      exact nomatch h.1
    · refine iff_of_true ⟨?_, .inl hstranded.2.1⟩ hstranded
      rw [hstranded.1]
      exact nofun
    · exact iff_of_false (hahead hne hnot) fun h => hne h.2.1
  | arm =>
    rw [hdue] at hcases hsettled
    obtain ⟨hne, hnot⟩ := turnRetry_ahead nowMs transmissions
    rw [hsettled]
    refine iff_of_false (hahead hne hnot) fun h => ?_
    rw [hcases.1] at h
    exact nomatch h.1
  | expire =>
    rw [hdue] at hsettled
    refine iff_of_false (fun h => h.1 hsettled) fun h => ?_
    rw [h.1, h.2.1] at hdue
    unfold turnDue at hdue
    rw [h.2.2] at hdue
    exact nomatch hdue

theorem turnSettlePermission_due {nowMs : UInt32} {p : TurnPermission}
    (hsend : turnDue nowMs p.pending p.deadlineMs p.transmissions ≠ .send) :
    ((turnSettlePermission nowMs p).pending ≠ .none ∧
      ((turnSettlePermission nowMs p).deadlineMs = 0 ∨
        nanoTimeIsDue nowMs (turnSettlePermission nowMs p).deadlineMs = true)) ↔
    Stranded nowMs p.pending p.deadlineMs := by
  apply settled_due hsend
  unfold turnSettlePermission
  cases turnDue nowMs p.pending p.deadlineMs p.transmissions with
  | arm => rfl
  | expire => rfl
  | skip => exact ⟨rfl, rfl⟩
  | send => exact ⟨rfl, rfl⟩

theorem turnSettleChannel_due {nowMs : UInt32} {c : TurnChannel}
    (hsend : turnDue nowMs c.pending c.deadlineMs c.transmissions ≠ .send) :
    ((turnSettleChannel nowMs c).pending ≠ .none ∧
      ((turnSettleChannel nowMs c).deadlineMs = 0 ∨
        nanoTimeIsDue nowMs (turnSettleChannel nowMs c).deadlineMs = true)) ↔
    Stranded nowMs c.pending c.deadlineMs := by
  apply settled_due hsend
  unfold turnSettleChannel
  cases turnDue nowMs c.pending c.deadlineMs c.transmissions with
  | arm => rfl
  | expire => rfl
  | skip => exact ⟨rfl, rfl⟩
  | send => exact ⟨rfl, rfl⟩

/-- The permission loop without a request to send. -/
theorem turnRetransmitPermissions_quiet (crypto : CryptoProvider) (turn : NanoTurn)
    (nowMs : UInt32) (random : Option (List UInt8)) (bufLen : Nat) {ps : List TurnPermission}
    (h : ∀ p ∈ ps, turnDue nowMs p.pending p.deadlineMs p.transmissions ≠ .send) :
    turnRetransmitPermissions crypto turn nowMs random bufLen ps =
      (ps.map (turnSettlePermission nowMs), none) := by
  induction ps with
  | nil => rfl
  | cons p ps ih =>
    have hp := h p List.mem_cons_self
    unfold turnRetransmitPermissions
    rw [ih fun q hq => h q (List.mem_cons_of_mem p hq), List.map_cons]
    unfold turnSettlePermission
    cases hdue : turnDue nowMs p.pending p.deadlineMs p.transmissions with
    | send => exact absurd hdue hp
    | skip => rfl
    | arm => rfl
    | expire => rfl

theorem turnRetransmitChannels_quiet (crypto : CryptoProvider) (turn : NanoTurn)
    (nowMs : UInt32) (random : Option (List UInt8)) (bufLen : Nat) {cs : List TurnChannel}
    (h : ∀ c ∈ cs, turnDue nowMs c.pending c.deadlineMs c.transmissions ≠ .send) :
    turnRetransmitChannels crypto turn nowMs random bufLen cs =
      (cs.map (turnSettleChannel nowMs), none) := by
  induction cs with
  | nil => rfl
  | cons c cs ih =>
    have hc := h c List.mem_cons_self
    unfold turnRetransmitChannels
    rw [ih fun d hd => h d (List.mem_cons_of_mem c hd), List.map_cons]
    unfold turnSettleChannel
    cases hdue : turnDue nowMs c.pending c.deadlineMs c.transmissions with
    | send => exact absurd hdue hc
    | skip => rfl
    | arm => rfl
    | expire => rfl

/-- A caller that supplies randomness and a buffer of the size that the client asks for. -/
structure Supplied (random : Option (List UInt8)) (bufLen : Nat) : Prop where
  random : random.isSome
  bufLen : turnMaxRequestSize ≤ bufLen

theorem Supplied.txid {random : Option (List UInt8)} {bufLen : Nat} (h : Supplied random bufLen) :
    ∃ txid, random = some txid := Option.isSome_iff_exists.mp h.random

theorem turnBuildAllocate_ok (crypto : CryptoProvider) (turn : NanoTurn) (authenticated : Bool)
    (txid : List UInt8) {bufLen : Nat} (h : turnMaxRequestSize ≤ bufLen) :
    ∃ out, turnBuildAllocate crypto turn authenticated txid bufLen = .ok out ∧ out ≠ [] := by
  unfold turnBuildAllocate
  rw [if_neg (Nat.not_lt.mpr h)]
  refine ⟨_, rfl, ?_⟩
  split
  · exact turnSign_ne_nil _ _ _
  · exact stunFinalizeLength_ne_nil _

theorem turnBuildRefresh_ok (crypto : CryptoProvider) (turn : NanoTurn) (lifetimeS : UInt32)
    (txid : List UInt8) {bufLen : Nat} (h : turnMaxRequestSize ≤ bufLen) :
    ∃ out, turnBuildRefresh crypto turn lifetimeS txid bufLen = .ok out ∧ out ≠ [] := by
  unfold turnBuildRefresh
  rw [if_neg (Nat.not_lt.mpr h)]
  exact ⟨_, rfl, turnSign_ne_nil _ _ _⟩

theorem turnBuildPermission_ok (crypto : CryptoProvider) (turn : NanoTurn) (peer : NanortcAddr)
    (txid : List UInt8) {bufLen : Nat} (h : turnMaxRequestSize ≤ bufLen) :
    ∃ out, turnBuildPermission crypto turn peer txid bufLen = .ok out ∧ out ≠ [] := by
  unfold turnBuildPermission
  rw [if_neg (Nat.not_lt.mpr h)]
  exact ⟨_, rfl, turnSign_ne_nil _ _ _⟩

theorem turnBuildChannelBind_ok (crypto : CryptoProvider) (turn : NanoTurn) (c : TurnChannel)
    (txid : List UInt8) {bufLen : Nat} (h : turnMaxRequestSize ≤ bufLen) :
    ∃ out, turnBuildChannelBind crypto turn c txid bufLen = .ok out ∧ out ≠ [] := by
  unfold turnBuildChannelBind
  rw [if_neg (Nat.not_lt.mpr h)]
  exact ⟨_, rfl, turnSign_ne_nil _ _ _⟩

theorem turnRetransmitTxid_some {random : Option (List UInt8)} {bufLen : Nat}
    (h : Supplied random bufLen) (pending : TurnRequest) (old : List UInt8) :
    ∃ txid, turnRetransmitTxid pending old random = some txid := by
  unfold turnRetransmitTxid
  split
  · exact h.txid
  · exact ⟨old, rfl⟩

/-- The permission loop with a request to send. -/
theorem turnRetransmitPermissions_serves (crypto : CryptoProvider) (turn : NanoTurn)
    (nowMs : UInt32) {random : Option (List UInt8)} {bufLen : Nat} (hs : Supplied random bufLen)
    {ps : List TurnPermission}
    (h : ∃ p ∈ ps, turnDue nowMs p.pending p.deadlineMs p.transmissions = .send) :
    ∃ out, (turnRetransmitPermissions crypto turn nowMs random bufLen ps).2 = some (.ok out) ∧
      out ≠ [] := by
  induction ps with
  | nil => exact absurd h.choose_spec.1 List.not_mem_nil
  | cons p ps ih =>
    have hrest (hne : turnDue nowMs p.pending p.deadlineMs p.transmissions ≠ .send) :
        ∃ out, (turnRetransmitPermissions crypto turn nowMs random bufLen ps).2 =
          some (.ok out) ∧ out ≠ [] := by
      obtain ⟨q, hq, hsend⟩ := h
      cases List.mem_cons.mp hq with
      | inl heq => exact absurd (heq ▸ hsend) hne
      | inr hmem => exact ih ⟨q, hmem, hsend⟩
    unfold turnRetransmitPermissions
    cases hdue : turnDue nowMs p.pending p.deadlineMs p.transmissions with
    | skip => exact hrest (by rw [hdue]; decide)
    | arm => exact hrest (by rw [hdue]; decide)
    | expire => exact hrest (by rw [hdue]; decide)
    | send =>
      obtain ⟨txid, htxid⟩ := turnRetransmitTxid_some hs p.pending p.txid
      dsimp only
      rw [htxid]
      dsimp only
      obtain ⟨out, hout, hne⟩ :=
        turnBuildPermission_ok crypto turn ⟨p.family, p.addr, p.port⟩ txid hs.bufLen
      rw [hout]
      exact ⟨out, rfl, hne⟩

theorem turnRetransmitChannels_serves (crypto : CryptoProvider) (turn : NanoTurn)
    (nowMs : UInt32) {random : Option (List UInt8)} {bufLen : Nat} (hs : Supplied random bufLen)
    {cs : List TurnChannel}
    (h : ∃ c ∈ cs, turnDue nowMs c.pending c.deadlineMs c.transmissions = .send) :
    ∃ out, (turnRetransmitChannels crypto turn nowMs random bufLen cs).2 = some (.ok out) ∧
      out ≠ [] := by
  induction cs with
  | nil => exact absurd h.choose_spec.1 List.not_mem_nil
  | cons c cs ih =>
    have hrest (hne : turnDue nowMs c.pending c.deadlineMs c.transmissions ≠ .send) :
        ∃ out, (turnRetransmitChannels crypto turn nowMs random bufLen cs).2 =
          some (.ok out) ∧ out ≠ [] := by
      obtain ⟨d, hd, hsend⟩ := h
      cases List.mem_cons.mp hd with
      | inl heq => exact absurd (heq ▸ hsend) hne
      | inr hmem => exact ih ⟨d, hmem, hsend⟩
    unfold turnRetransmitChannels
    cases hdue : turnDue nowMs c.pending c.deadlineMs c.transmissions with
    | skip => exact hrest (by rw [hdue]; decide)
    | arm => exact hrest (by rw [hdue]; decide)
    | expire => exact hrest (by rw [hdue]; decide)
    | send =>
      obtain ⟨txid, htxid⟩ := turnRetransmitTxid_some hs c.pending c.txid
      dsimp only
      rw [htxid]
      dsimp only
      obtain ⟨out, hout, hne⟩ := turnBuildChannelBind_ok crypto turn c txid hs.bufLen
      rw [hout]
      exact ⟨out, rfl, hne⟩
/-- A request of the tables is to be sent again. -/
def TablesServe (turn : NanoTurn) (nowMs : UInt32) : Prop :=
  (∃ p ∈ turn.permissions, turnDue nowMs p.pending p.deadlineMs p.transmissions = .send) ∨
    ∃ c ∈ turn.channels, turnDue nowMs c.pending c.deadlineMs c.transmissions = .send

instance (turn : NanoTurn) (nowMs : UInt32) : Decidable (TablesServe turn nowMs) :=
  inferInstanceAs (Decidable (_ ∨ _))

/-- The tables once the timer has been through them without sending. -/
def turnSettle (turn : NanoTurn) (nowMs : UInt32) : NanoTurn :=
  { turn with
    permissions := turn.permissions.map (turnSettlePermission nowMs)
    channels := turn.channels.map (turnSettleChannel nowMs) }

theorem turnRetransmitTables_quiet (crypto : CryptoProvider) {turn : NanoTurn} {nowMs : UInt32}
    (random : Option (List UInt8)) (bufLen : Nat) (h : ¬ TablesServe turn nowMs) :
    turnRetransmitTables crypto turn nowMs random bufLen = (turnSettle turn nowMs, .ok []) := by
  have hperm : ∀ p ∈ turn.permissions,
      turnDue nowMs p.pending p.deadlineMs p.transmissions ≠ .send :=
    fun p hp hsend => h (.inl ⟨p, hp, hsend⟩)
  have hchan : ∀ c ∈ turn.channels,
      turnDue nowMs c.pending c.deadlineMs c.transmissions ≠ .send :=
    fun c hc hsend => h (.inr ⟨c, hc, hsend⟩)
  unfold turnRetransmitTables
  rw [turnRetransmitPermissions_quiet crypto turn nowMs random bufLen hperm]
  dsimp only
  rw [turnRetransmitChannels_quiet crypto _ nowMs random bufLen hchan]
  rfl

theorem turnRetransmitTables_serves (crypto : CryptoProvider) {turn : NanoTurn} {nowMs : UInt32}
    {random : Option (List UInt8)} {bufLen : Nat} (hs : Supplied random bufLen)
    (h : TablesServe turn nowMs) :
    ∃ out, (turnRetransmitTables crypto turn nowMs random bufLen).2 = .ok out ∧ out ≠ [] := by
  unfold turnRetransmitTables
  by_cases hperm : ∃ p ∈ turn.permissions,
      turnDue nowMs p.pending p.deadlineMs p.transmissions = .send
  · obtain ⟨out, hout, hne⟩ :=
      turnRetransmitPermissions_serves crypto turn nowMs hs hperm
    dsimp only
    rw [hout]
    exact ⟨out, rfl, hne⟩
  · have hchan := h.resolve_left hperm
    rw [turnRetransmitPermissions_quiet crypto turn nowMs random bufLen
      fun p hp hsend => hperm ⟨p, hp, hsend⟩]
    dsimp only
    obtain ⟨out, hout, hne⟩ := turnRetransmitChannels_serves crypto
      { turn with permissions := turn.permissions.map (turnSettlePermission nowMs) } nowMs hs hchan
    rw [hout]
    exact ⟨out, rfl, hne⟩

/-! ### The transaction -/

/-- The Allocate or Refresh request is to be sent again, or given up. -/
def TransactionServed (turn : NanoTurn) (nowMs : UInt32) : Prop :=
  turn.transaction ≠ .none ∧ (turn.transactionRetryAtMs ≠ 0 ∨ turn.transactionReauth = true) ∧
    nanoTimeIsDue nowMs turn.transactionRetryAtMs = true

instance (turn : NanoTurn) (nowMs : UInt32) : Decidable (TransactionServed turn nowMs) :=
  inferInstanceAs (Decidable (_ ∧ _ ∧ _))

/-- The client with the transaction's timer started if it was not. -/
def turnArm (turn : NanoTurn) (nowMs : UInt32) : NanoTurn :=
  if turn.transaction ≠ .none ∧ turn.transactionRetryAtMs = 0 ∧ turn.transactionReauth = false then
    { turn with
      transactionRetryAtMs :=
        nanoTimeDeadline nowMs (turnRetryDelayMs turn.transactionTransmissions) }
  else turn

theorem turnGenerateRetransmit_tables (crypto : CryptoProvider) {turn : NanoTurn}
    {nowMs : UInt32} (random : Option (List UInt8)) (bufLen : Nat)
    (h : ¬ TransactionServed turn nowMs) :
    turnGenerateRetransmit crypto turn nowMs random bufLen =
      turnRetransmitTables crypto (turnArm turn nowMs) nowMs random bufLen := by
  unfold turnGenerateRetransmit turnArm
  by_cases htxn : turn.transaction = .none
  · rw [if_pos htxn, if_neg fun h => h.1 htxn]
  rw [if_neg htxn]
  by_cases harm : turn.transactionRetryAtMs = 0 ∧ turn.transactionReauth = false
  · rw [if_pos ⟨harm.1, by rw [harm.2]; rfl⟩, if_pos ⟨htxn, harm⟩]
  · have hrun : turn.transactionRetryAtMs ≠ 0 ∨ turn.transactionReauth = true := by
      by_cases hzero : turn.transactionRetryAtMs = 0
      · exact .inr (Bool.not_eq_false _ ▸ fun hf => harm ⟨hzero, hf⟩)
      · exact .inl hzero
    have hdue : nanoTimeIsDue nowMs turn.transactionRetryAtMs = false :=
      Bool.eq_false_iff.mpr fun hdue => h ⟨htxn, hrun, hdue⟩
    rw [if_neg fun hc => harm ⟨hc.1, by simpa using hc.2⟩, if_pos (by rw [hdue]; rfl),
      if_neg fun hc => harm hc.2]

theorem turnGenerateRetransmit_served (crypto : CryptoProvider) {turn : NanoTurn}
    {nowMs : UInt32} {random : Option (List UInt8)} {bufLen : Nat} (hs : Supplied random bufLen)
    (h : TransactionServed turn nowMs) :
    (∃ out, (turnGenerateRetransmit crypto turn nowMs random bufLen).2 = .ok out ∧ out ≠ []) ∨
      turnGenerateRetransmit crypto turn nowMs random bufLen =
        ({ turnClearTransaction turn with state := .failed }, .error .protocol) := by
  obtain ⟨htxn, hrun, hdue⟩ := h
  unfold turnGenerateRetransmit
  rw [if_neg htxn, if_neg, if_neg (by rw [hdue]; exact Bool.false_ne_true)]
  · by_cases hspent : turn.transactionTransmissions ≥ turnMaxTransmissions
    · rw [if_pos hspent]
      exact .inr rfl
    rw [if_neg hspent]
    left
    obtain ⟨fresh, hfresh⟩ := hs.txid
    obtain ⟨txid, htxid⟩ : ∃ txid,
        (if turn.transactionReauth = true then random else some turn.lastTxid) = some txid := by
      split
      · exact ⟨fresh, hfresh⟩
      · exact ⟨turn.lastTxid, rfl⟩
    rw [htxid]
    dsimp only
    have hbuild : ∃ out, (if turn.transaction = .allocate then
          turnBuildAllocate crypto turn turn.transactionAuthenticated txid bufLen
        else turnBuildRefresh crypto turn turnDefaultLifetime txid bufLen) = .ok out ∧
        out ≠ [] := by
      split
      · exact turnBuildAllocate_ok crypto turn _ txid hs.bufLen
      · exact turnBuildRefresh_ok crypto turn _ txid hs.bufLen
    obtain ⟨out, hout, hne⟩ := hbuild
    rw [hout]
    exact ⟨out, rfl, hne⟩
  · rintro ⟨hzero, hreauth⟩
    cases hrun with
    | inl hne => exact hne hzero
    | inr htrue =>
      rw [htrue] at hreauth
      exact nomatch hreauth

end Nanortc.Spec
