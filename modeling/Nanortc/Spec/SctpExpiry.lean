import Nanortc.Spec.SctpShape

/-!
# Expiry of the retransmission timer

`nsctp_handle_timeout` walks the send queue and compares the age of each entry in flight with the
retransmission timeout, which it doubles at every entry it marks. What is asked of an entry depends
so on the entries before it: of entries sent together the first one is marked, and the others are
too young for the doubled timeout.

## Key results

- `nsctpRetransmit_scan`: the loop as one turn per entry
- `nsctpScan_abandoned`, `nsctpScan_kept`: what becomes of an entry
- `UniformExpiry.iff`, `uniform_expiry_iff`: when a call treats all entries by one timeout
-/

namespace Nanortc.Spec

open Nanortc.ForStd Nanortc.Native

/-! ### What a call does to one entry -/

/-- The entry has used up the retransmissions of its message. -/
def SendEntry.spent (e : SendEntry) : Prop :=
  e.maxRetransmits ≥ 0 ∧ (e.retransmitCount : Int) ≥ e.maxRetransmits

/-- The entry of a reliable message has used up the retransmissions of the association. -/
def SendEntry.exhausted (e : SendEntry) : Prop :=
  e.maxRetransmits < 0 ∧ e.retransmitCount ≥ sctpMaxRetransmits

/-- The entry marked for retransmission. -/
def SendEntry.marked (e : SendEntry) (nowMs : UInt32) : SendEntry :=
  { e with inFlight := false, retransmitCount := e.retransmitCount + 1, sentAtMs := nowMs }

instance (e : SendEntry) : Decidable (SendEntry.spent e) := inferInstanceAs (Decidable (_ ∧ _))

instance (e : SendEntry) : Decidable (SendEntry.exhausted e) := inferInstanceAs (Decidable (_ ∧ _))

instance (nowMs rtoMs : UInt32) (e : SendEntry) : Decidable (EntryDue nowMs rtoMs e) :=
  inferInstanceAs (Decidable (_ ∧ _))

/-- The next retransmission timeout. -/
def nsctpBackoff (rtoMs : UInt32) : UInt32 := min (rtoMs * 2) sctpRtoMaxMs

/-- Entry `j` of the send queue. -/
abbrev entryAt (s : NanoSctp) (j : Nat) : SendEntry := s.sendQueue.getD j default

/-- A turn of the retransmission loop; a failed association takes no further one. -/
def nsctpRetransmitTurn (nowMs : UInt32) (r : NanoSctp × Bool) (i : Nat) : NanoSctp × Bool :=
  if r.2 = true ∧ EntryDue nowMs r.1.rtoMs (entryAt r.1 i) then
    if SendEntry.spent (entryAt r.1 i) then (nsctpAbandonMessage r.1 i, true)
    else if SendEntry.exhausted (entryAt r.1 i) then
      ({ r.1 with state := .closed, closedDueToFailure := true }, false)
    else
      ({ r.1 with
        sendQueue := r.1.sendQueue.set i (SendEntry.marked (entryAt r.1 i) nowMs)
        rtoMs := nsctpBackoff r.1.rtoMs }, true)
  else r

/-- The retransmission loop before entry `n`. -/
def nsctpScan (nowMs : UInt32) (s : NanoSctp) : Nat → NanoSctp × Bool
  | 0 => (s, true)
  | n + 1 => nsctpRetransmitTurn nowMs (nsctpScan nowMs s n) n

theorem nsctpRetransmitTurn_failed (nowMs : UInt32) {r : NanoSctp × Bool} (h : r.2 = false)
    (i : Nat) : nsctpRetransmitTurn nowMs r i = r := by
  unfold nsctpRetransmitTurn
  rw [if_neg (by rw [h]; exact fun h => nomatch h.1)]

/-- **The retransmission loop is one turn per entry.** -/
theorem nsctpRetransmit_scan (nowMs : UInt32) (s : NanoSctp) (left i : Nat)
    (hrun : (nsctpScan nowMs s i).2 = true) :
    nsctpRetransmit nowMs left i (nsctpScan nowMs s i).1 = nsctpScan nowMs s (i + left) := by
  -- a failed association stays as it is
  have hfailed (n m : Nat) (h : (nsctpScan nowMs s n).2 = false) :
      nsctpScan nowMs s (n + m) = nsctpScan nowMs s n := by
    induction m with
    | zero => rfl
    | succ m ih =>
      show nsctpRetransmitTurn nowMs (nsctpScan nowMs s (n + m)) (n + m) = _
      rw [ih, nsctpRetransmitTurn_failed nowMs h]
  induction left generalizing i with
  | zero =>
    show ((nsctpScan nowMs s i).1, true) = _
    rw [← hrun]
    rfl
  | succ left ih =>
    have hnext (hok : (nsctpScan nowMs s (i + 1)).2 = true) := ih (i + 1) hok
    have hturn : nsctpScan nowMs s (i + 1) = nsctpRetransmitTurn nowMs (nsctpScan nowMs s i) i := rfl
    rw [show i + (left + 1) = i + 1 + left by omega]
    unfold nsctpRetransmit
    dsimp only
    unfold nsctpRetransmitTurn at hturn
    split
    · rename_i hdue
      rw [if_pos ⟨hrun, hdue⟩] at hturn
      split
      · rename_i hspent
        have hspent : SendEntry.spent (entryAt (nsctpScan nowMs s i).1 i) := hspent
        rw [if_pos hspent] at hturn
        rw [hturn] at hnext
        exact hnext rfl
      rename_i hspent
      have hspent : ¬SendEntry.spent (entryAt (nsctpScan nowMs s i).1 i) := hspent
      rw [if_neg hspent] at hturn
      split
      · rename_i hexhausted
        have hexhausted : SendEntry.exhausted (entryAt (nsctpScan nowMs s i).1 i) := hexhausted
        rw [if_pos hexhausted] at hturn
        rw [hfailed (i + 1) left (by rw [hturn]), hturn]
      · rename_i hexhausted
        have hexhausted : ¬SendEntry.exhausted (entryAt (nsctpScan nowMs s i).1 i) := hexhausted
        rw [if_neg hexhausted] at hturn
        rw [hturn] at hnext
        exact hnext rfl
    · rename_i hdue
      rw [if_neg (fun h => hdue h.2)] at hturn
      rw [hturn] at hnext
      exact hnext hrun

/-! ### One turn -/

/-- What a turn can do. -/
theorem nsctpRetransmitTurn_cases (nowMs : UInt32) (r : NanoSctp × Bool) (i : Nat) :
    ¬(r.2 = true ∧ EntryDue nowMs r.1.rtoMs (entryAt r.1 i)) ∧ nsctpRetransmitTurn nowMs r i = r ∨
      (r.2 = true ∧ EntryDue nowMs r.1.rtoMs (entryAt r.1 i)) ∧
        (SendEntry.spent (entryAt r.1 i) ∧
            nsctpRetransmitTurn nowMs r i = (nsctpAbandonMessage r.1 i, true) ∨
          SendEntry.exhausted (entryAt r.1 i) ∧ nsctpRetransmitTurn nowMs r i =
            ({ r.1 with state := .closed, closedDueToFailure := true }, false) ∨
          ¬SendEntry.spent (entryAt r.1 i) ∧ ¬SendEntry.exhausted (entryAt r.1 i) ∧
            nsctpRetransmitTurn nowMs r i =
              ({ r.1 with
                sendQueue := r.1.sendQueue.set i (SendEntry.marked (entryAt r.1 i) nowMs)
                rtoMs := nsctpBackoff r.1.rtoMs }, true)) := by
  unfold nsctpRetransmitTurn
  split
  · rename_i hdue
    refine .inr ⟨hdue, ?_⟩
    split
    · exact .inl ⟨‹_›, rfl⟩
    split
    · exact .inr (.inl ⟨‹_›, rfl⟩)
    · exact .inr (.inr ⟨‹_›, ‹_›, rfl⟩)
  · exact .inl ⟨‹_›, rfl⟩

theorem getD_set_self {q : List SendEntry} {i : Nat} (hi : i < q.length) (e : SendEntry) :
    (q.set i e).getD i default = e := by
  rw [List.getD_eq_getElem?_getD, List.getElem?_set_self hi, Option.getD_some]

theorem getD_set_ne {q : List SendEntry} {i j : Nat} (hij : i ≠ j) (e : SendEntry) :
    (q.set i e).getD j default = q.getD j default := by
  rw [List.getD_eq_getElem?_getD, List.getElem?_set_ne hij, ← List.getD_eq_getElem?_getD]

/-! ### The timeout over the scan -/

theorem nsctpBackoff_le (rtoMs : UInt32) : nsctpBackoff rtoMs ≤ sctpRtoMaxMs := Std.min_le_right

theorem le_nsctpBackoff {rtoMs : UInt32} (h : rtoMs ≤ sctpRtoMaxMs) : rtoMs ≤ nsctpBackoff rtoMs := by
  have hmax : sctpRtoMaxMs.toNat = 10000 := rfl
  have hdouble : rtoMs ≤ rtoMs * 2 := by
    rw [UInt32.le_iff_toNat_le] at h ⊢
    rw [UInt32.toNat_mul, show (2 : UInt32).toNat = 2 from rfl, Nat.mod_eq_of_lt (by omega)]
    omega
  exact Std.le_min_iff.mpr ⟨hdouble, h⟩

/-- Below its bound the timeout grows. -/
theorem lt_nsctpBackoff {rtoMs : UInt32} (hpos : 0 < rtoMs) (h : rtoMs < sctpRtoMaxMs) :
    rtoMs < nsctpBackoff rtoMs := by
  have hmax : sctpRtoMaxMs.toNat = 10000 := rfl
  rw [UInt32.lt_iff_toNat_lt] at hpos
  have hdouble : rtoMs < rtoMs * 2 := by
    rw [UInt32.lt_iff_toNat_lt] at h ⊢
    rw [UInt32.toNat_mul, show (2 : UInt32).toNat = 2 from rfl, Nat.mod_eq_of_lt (by omega)]
    have hzero : (0 : UInt32).toNat = 0 := rfl
    omega
  unfold nsctpBackoff
  cases Std.min_eq_or (a := rtoMs * 2) (b := sctpRtoMaxMs) with
  | inl hmin => rw [hmin]; exact hdouble
  | inr hmin => rw [hmin]; exact h

theorem nsctpBackoff_mono {a b : UInt32} (hab : a ≤ b) (hb : b ≤ sctpRtoMaxMs) :
    nsctpBackoff a ≤ nsctpBackoff b := by
  have hmax : sctpRtoMaxMs.toNat = 10000 := rfl
  have hdouble : a * 2 ≤ b * 2 := by
    rw [UInt32.le_iff_toNat_le] at hab hb ⊢
    rw [UInt32.toNat_mul, UInt32.toNat_mul, show (2 : UInt32).toNat = 2 from rfl,
      Nat.mod_eq_of_lt (by omega), Nat.mod_eq_of_lt (by omega)]
    omega
  exact Std.le_min_iff.mpr ⟨Std.le_trans Std.min_le_left hdouble, Std.min_le_right⟩

/-- The timeout is in its range. -/
structure RtoInRange (s : NanoSctp) : Prop where
  low : sctpRtoInitialMs ≤ s.rtoMs
  high : s.rtoMs ≤ sctpRtoMaxMs

/-- The timeout stays in its range and does not shrink. -/
def RtoGrows (s s' : NanoSctp) : Prop := RtoInRange s → RtoInRange s' ∧ s.rtoMs ≤ s'.rtoMs

theorem RtoGrows.of_eq {s s' : NanoSctp} (heq : s'.rtoMs = s.rtoMs) : RtoGrows s s' :=
  fun h => ⟨⟨heq ▸ h.low, heq ▸ h.high⟩, heq ▸ UInt32.le_refl s.rtoMs⟩

theorem RtoGrows.backoff {s s' : NanoSctp} (heq : s'.rtoMs = nsctpBackoff s.rtoMs) :
    RtoGrows s s' := by
  intro h
  have hgrow := le_nsctpBackoff h.high
  refine ⟨⟨?_, ?_⟩, ?_⟩ <;> rw [heq]
  · exact Std.le_trans h.low hgrow
  · exact nsctpBackoff_le _
  · exact hgrow

theorem rtoGrows_timer : TimerRule RtoGrows where
  refl _ := .of_eq rfl
  trans h h' hs := ⟨(h' (h hs).1).1, UInt32.le_trans (h hs).2 (h' (h hs).1).2⟩
  output _ _ := .of_eq rfl
  sack _ := .of_eq rfl
  sent _ _ _ _ _ := .of_eq rfl
  abandon _ _ := .of_eq rfl
  forward _ _ _ := .of_eq rfl
  clock _ _ := .of_eq rfl
  backoff _ := .backoff rfl
  fail _ := .of_eq rfl
  heartbeat _ _ _ _ := .of_eq rfl

/-- A turn is made of the updates of the timeout handler. -/
theorem nsctpRetransmitTurn_rule {R : NanoSctp → NanoSctp → Prop} (h : TimerRule R) (nowMs : UInt32)
    (r : NanoSctp × Bool) (i : Nat) : R r.1 (nsctpRetransmitTurn nowMs r i).1 := by
  rcases nsctpRetransmitTurn_cases nowMs r i with ⟨-, heq⟩ | ⟨-, ⟨-, heq⟩ | ⟨-, heq⟩ | ⟨-, -, heq⟩⟩ <;>
    rw [heq]
  · exact h.refl r.1
  · exact h.abandon r.1 i
  · exact h.fail r.1
  · exact h.trans (h.sent r.1 i false nowMs _) (h.backoff _)

/-- A turn keeps the timeout or doubles it. -/
theorem nsctpRetransmitTurn_rto (nowMs : UInt32) (r : NanoSctp × Bool) (i : Nat) :
    (nsctpRetransmitTurn nowMs r i).1.rtoMs = r.1.rtoMs ∨
      (nsctpRetransmitTurn nowMs r i).1.rtoMs = nsctpBackoff r.1.rtoMs := by
  rcases nsctpRetransmitTurn_cases nowMs r i with ⟨-, h⟩ | ⟨-, ⟨-, h⟩ | ⟨-, h⟩ | ⟨-, -, h⟩⟩ <;> rw [h]
  · exact .inl rfl
  · exact .inl rfl
  · exact .inl rfl
  · exact .inr rfl

/-! ### The scan -/

theorem nsctpScan_rule {R : NanoSctp → NanoSctp → Prop} (h : TimerRule R) (nowMs : UInt32)
    (s : NanoSctp) {n m : Nat} (hnm : n ≤ m) : R (nsctpScan nowMs s n).1 (nsctpScan nowMs s m).1 := by
  induction m with
  | zero =>
    rw [Nat.le_zero.mp hnm]
    exact h.refl _
  | succ m ih =>
    by_cases heq : n = m + 1
    · rw [heq]
      exact h.refl _
    · exact h.trans (ih (by omega)) (nsctpRetransmitTurn_rule h nowMs (nsctpScan nowMs s m) m)

section Scan

variable (nowMs : UInt32) (s : NanoSctp)

theorem nsctpScan_length (n : Nat) :
    (nsctpScan nowMs s n).1.sendQueue.length = s.sendQueue.length :=
  (nsctpScan_rule sameEntries_timer nowMs s (Nat.zero_le n)).length

theorem nsctpScan_flags (n t : Nat) :
    (entryAt (nsctpScan nowMs s n).1 t).flags = (entryAt s t).flags := by
  have hfragments := (nsctpScan_rule keepsShape_timer nowMs s (Nat.zero_le n)).fragments
  have hget := congrArg (fun q => (q.getD t (SendEntry.fragment default)).flags) hfragments
  simp only [List.getD_map] at hget
  exact hget

theorem nsctpScan_ofMessage (n k j : Nat) :
    OfMessage (nsctpScan nowMs s n).1.sendQueue k j ↔ OfMessage s.sendQueue k j :=
  OfMessage.congr (nsctpScan_flags nowMs s n) k j

/-- At its turn entry `k` is found to have expired. -/
def DueAt (k : Nat) : Prop :=
  (nsctpScan nowMs s k).2 = true ∧
    EntryDue nowMs (nsctpScan nowMs s k).1.rtoMs (entryAt (nsctpScan nowMs s k).1 k)

/-- At its turn entry `k` is marked for retransmission. -/
def MarkedAt (k : Nat) : Prop :=
  DueAt nowMs s k ∧ ¬SendEntry.spent (entryAt s k) ∧ ¬SendEntry.exhausted (entryAt s k)

/-- An entry that is not reached yet is what it was, but for its mark of abandonment, and one that is
behind has been marked or not at its own turn. -/
theorem nsctpScan_kept {j : Nat} (hj : j < s.sendQueue.length) (n : Nat) :
    (n ≤ j ∨ ¬MarkedAt nowMs s j →
      SendEntry.kept (entryAt (nsctpScan nowMs s n).1 j) = SendEntry.kept (entryAt s j)) ∧
    (j < n → MarkedAt nowMs s j → SendEntry.kept (entryAt (nsctpScan nowMs s n).1 j) =
      SendEntry.kept (SendEntry.marked (entryAt s j) nowMs)) := by
  induction n with
  | zero => exact ⟨fun _ => rfl, fun h => absurd h (Nat.not_lt_zero j)⟩
  | succ n ih =>
    have hlen := nsctpScan_length nowMs s n
    have hturn : nsctpScan nowMs s (n + 1) = nsctpRetransmitTurn nowMs (nsctpScan nowMs s n) n := rfl
    by_cases hjn : n = j
    · -- its own turn
      subst hjn
      have hsame := ih.1 (.inl (Nat.le_refl n))
      have hspent : SendEntry.spent (entryAt (nsctpScan nowMs s n).1 n) ↔
          SendEntry.spent (entryAt s n) := by
        have hspent (e : SendEntry) : SendEntry.spent e ↔ SendEntry.spent (SendEntry.kept e) := Iff.rfl
        rw [hspent, hsame, ← hspent]
      have hexhausted : SendEntry.exhausted (entryAt (nsctpScan nowMs s n).1 n) ↔
          SendEntry.exhausted (entryAt s n) := by
        have hexhausted (e : SendEntry) :
            SendEntry.exhausted e ↔ SendEntry.exhausted (SendEntry.kept e) := Iff.rfl
        rw [hexhausted, hsame, ← hexhausted]
      rcases nsctpRetransmitTurn_cases nowMs (nsctpScan nowMs s n) n with
        ⟨hdue, heq⟩ | ⟨hdue, ⟨hsp, heq⟩ | ⟨hex, heq⟩ | ⟨hsp, hex, heq⟩⟩ <;> rw [hturn, heq]
      · exact ⟨fun _ => hsame, fun _ hmarked => absurd hmarked.1 hdue⟩
      · refine ⟨fun _ => ?_, fun _ hmarked => absurd (hspent.mp hsp) hmarked.2.1⟩
        rw [← hsame]
        show SendEntry.kept ((nsctpAbandonMessage (nsctpScan nowMs s n).1 n).sendQueue.getD n default)
          = _
        rw [nsctpAbandonMessage_getD _ _ (by omega)]
        split <;> rfl
      · exact ⟨fun _ => hsame, fun _ hmarked => absurd (hexhausted.mp hex) hmarked.2.2⟩
      · have hmarked : MarkedAt nowMs s n := ⟨hdue, hspent.not.mp hsp, hexhausted.not.mp hex⟩
        refine ⟨fun h => absurd hmarked (h.resolve_left (Nat.not_succ_le_self n)), fun _ _ => ?_⟩
        show SendEntry.kept (((nsctpScan nowMs s n).1.sendQueue.set n _).getD n default) = _
        rw [getD_set_self (by omega)]
        exact congrArg (fun e => SendEntry.marked e nowMs) hsame
    · have hother : SendEntry.kept (entryAt (nsctpScan nowMs s (n + 1)).1 j) =
          SendEntry.kept (entryAt (nsctpScan nowMs s n).1 j) := by
        rcases nsctpRetransmitTurn_cases nowMs (nsctpScan nowMs s n) n with
          ⟨-, heq⟩ | ⟨-, ⟨-, heq⟩ | ⟨-, heq⟩ | ⟨-, -, heq⟩⟩ <;> rw [hturn, heq]
        · show SendEntry.kept ((nsctpAbandonMessage (nsctpScan nowMs s n).1 n).sendQueue.getD j
            default) = _
          rw [nsctpAbandonMessage_getD _ _ (by omega)]
          split <;> rfl
        · exact congrArg SendEntry.kept (getD_set_ne hjn _)
      rw [hother]
      exact ⟨fun h => ih.1 (h.imp_left (by omega)), fun h => ih.2 (by omega)⟩

/-- What a turn abandons. -/
theorem nsctpRetransmitTurn_abandoned (r : NanoSctp × Bool) (i : Nat) {j : Nat}
    (hj : j < r.1.sendQueue.length) :
    (entryAt (nsctpRetransmitTurn nowMs r i).1 j).abandoned = true ↔
      (entryAt r.1 j).abandoned = true ∨
        (r.2 = true ∧ EntryDue nowMs r.1.rtoMs (entryAt r.1 i)) ∧
          SendEntry.spent (entryAt r.1 i) ∧ OfMessage r.1.sendQueue i j := by
  unfold nsctpRetransmitTurn
  split
  · rename_i hdue
    split
    · rename_i hspent
      show ((nsctpAbandonMessage r.1 i).sendQueue.getD j default).abandoned = true ↔ _
      rw [nsctpAbandonMessage_getD r.1 i hj]
      split
      · exact ⟨fun _ => .inr ⟨hdue, hspent, ‹_›⟩, fun _ => rfl⟩
      · exact ⟨.inl, fun h => h.elim id fun h => absurd h.2.2 ‹_›⟩
    rename_i hspent
    have hnot (P : Prop) : P ↔ P ∨ (r.2 = true ∧ EntryDue nowMs r.1.rtoMs (entryAt r.1 i)) ∧
        SendEntry.spent (entryAt r.1 i) ∧ OfMessage r.1.sendQueue i j :=
      ⟨.inl, fun h => h.elim id fun h => absurd h.2.1 hspent⟩
    split
    · exact hnot _
    · refine Iff.trans ?_ (hnot _)
      show ((r.1.sendQueue.set i _).getD j default).abandoned = true ↔ _
      by_cases hij : i = j
      · subst hij
        rw [getD_set_self hj]
        exact Iff.rfl
      · rw [getD_set_ne hij]
  · rename_i hdue
    exact ⟨.inl, fun h => h.elim id fun h => absurd h.1 hdue⟩

theorem DueAt.lt {k : Nat} (h : DueAt nowMs s k) : k < s.sendQueue.length := by
  rw [← nsctpScan_length nowMs s k]
  by_contra hge
  have hflight : ((nsctpScan nowMs s k).1.sendQueue.getD k default).inFlight = true := h.2.1
  rw [List.getD_eq_default _ _ (Nat.not_lt.mp hge)] at hflight
  nomatch hflight

/-- At its turn an entry has the counts it had at first. -/
theorem DueAt.counts {k : Nat} (h : DueAt nowMs s k) :
    (SendEntry.spent (entryAt (nsctpScan nowMs s k).1 k) ↔ SendEntry.spent (entryAt s k)) ∧
      (SendEntry.exhausted (entryAt (nsctpScan nowMs s k).1 k) ↔
        SendEntry.exhausted (entryAt s k)) := by
  have hsame := (nsctpScan_kept nowMs s h.lt k).1 (.inl (Nat.le_refl k))
  have hcounts (e : SendEntry) : (SendEntry.spent e ↔ SendEntry.spent (SendEntry.kept e)) ∧
      (SendEntry.exhausted e ↔ SendEntry.exhausted (SendEntry.kept e)) := ⟨Iff.rfl, Iff.rfl⟩
  rw [(hcounts (entryAt (nsctpScan nowMs s k).1 k)).1,
    (hcounts (entryAt (nsctpScan nowMs s k).1 k)).2, hsame]
  exact ⟨Iff.rfl, Iff.rfl⟩

/-- **What the scan abandons**: the messages of the entries found due and spent. -/
theorem nsctpScan_abandoned {j : Nat} (hj : j < s.sendQueue.length) (n : Nat) :
    (entryAt (nsctpScan nowMs s n).1 j).abandoned = true ↔
      (entryAt s j).abandoned = true ∨
        ∃ k < n, DueAt nowMs s k ∧ SendEntry.spent (entryAt s k) ∧ OfMessage s.sendQueue k j := by
  induction n with
  | zero =>
    refine ⟨.inl, fun h => h.elim id ?_⟩
    rintro ⟨k, hk, -⟩
    exact absurd hk (Nat.not_lt_zero k)
  | succ n ih =>
    have hturn := nsctpRetransmitTurn_abandoned nowMs (nsctpScan nowMs s n) n
      (show j < (nsctpScan nowMs s n).1.sendQueue.length by rw [nsctpScan_length]; exact hj)
    rw [show nsctpScan nowMs s (n + 1) = nsctpRetransmitTurn nowMs (nsctpScan nowMs s n) n from rfl,
      hturn, ih, nsctpScan_ofMessage]
    constructor
    · rintro ((hold | ⟨k, hk, hrest⟩) | ⟨hdue, hspent, hof⟩)
      · exact .inl hold
      · exact .inr ⟨k, by omega, hrest⟩
      · have hdue : DueAt nowMs s n := hdue
        exact .inr ⟨n, Nat.lt_succ_self n, hdue, hdue.counts.1.mp hspent, hof⟩
    · rintro (hold | ⟨k, hk, hdue, hspent, hof⟩)
      · exact .inl (.inl hold)
      · by_cases hkn : k = n
        · subst hkn
          exact .inr ⟨hdue, hdue.counts.1.mpr hspent, hof⟩
        · exact .inl (.inr ⟨k, by omega, hdue, hspent, hof⟩)

/-- The association fails at an entry of a reliable message. -/
theorem nsctpScan_failed {n : Nat} (h : (nsctpScan nowMs s n).2 = false) :
    ∃ k < n, DueAt nowMs s k ∧ SendEntry.exhausted (entryAt s k) := by
  induction n with
  | zero => nomatch h
  | succ n ih =>
    by_cases hbefore : (nsctpScan nowMs s n).2 = false
    · obtain ⟨k, hk, hrest⟩ := ih hbefore
      exact ⟨k, by omega, hrest⟩
    · have hturn : (nsctpRetransmitTurn nowMs (nsctpScan nowMs s n) n).2 = false := h
      rcases nsctpRetransmitTurn_cases nowMs (nsctpScan nowMs s n) n with
        ⟨-, heq⟩ | ⟨hdue, ⟨-, heq⟩ | ⟨hex, heq⟩ | ⟨-, -, heq⟩⟩ <;> rw [heq] at hturn
      · exact absurd hturn hbefore
      · nomatch hturn
      · have hdue : DueAt nowMs s n := hdue
        exact ⟨n, Nat.lt_succ_self n, hdue, hdue.counts.2.mp hex⟩
      · nomatch hturn

/-- Marking an entry doubles the timeout, and nothing else does. -/
theorem nsctpScan_rto_succ (n : Nat) :
    (MarkedAt nowMs s n →
      (nsctpScan nowMs s (n + 1)).1.rtoMs = nsctpBackoff (nsctpScan nowMs s n).1.rtoMs) ∧
    (¬MarkedAt nowMs s n →
      (nsctpScan nowMs s (n + 1)).1.rtoMs = (nsctpScan nowMs s n).1.rtoMs) := by
  have hturn : nsctpScan nowMs s (n + 1) = nsctpRetransmitTurn nowMs (nsctpScan nowMs s n) n := rfl
  rw [hturn]
  rcases nsctpRetransmitTurn_cases nowMs (nsctpScan nowMs s n) n with
    ⟨hdue, heq⟩ | ⟨hdue, ⟨hsp, heq⟩ | ⟨hex, heq⟩ | ⟨hsp, hex, heq⟩⟩ <;> rw [heq]
  · exact ⟨fun hmarked => absurd hmarked.1 hdue, fun _ => rfl⟩
  · have hdue : DueAt nowMs s n := hdue
    exact ⟨fun hmarked => absurd (hdue.counts.1.mp hsp) hmarked.2.1, fun _ => rfl⟩
  · have hdue : DueAt nowMs s n := hdue
    exact ⟨fun hmarked => absurd (hdue.counts.2.mp hex) hmarked.2.2, fun _ => rfl⟩
  · have hdue : DueAt nowMs s n := hdue
    exact ⟨fun _ => rfl, fun hnot =>
      absurd ⟨hdue, hdue.counts.1.not.mp hsp, hdue.counts.2.not.mp hex⟩ hnot⟩

/-- What is abandoned stays so. -/
theorem nsctpScan_abandoned_mono {j : Nat} (hj : j < s.sendQueue.length) {n m : Nat} (hnm : n ≤ m)
    (h : (entryAt (nsctpScan nowMs s n).1 j).abandoned = true) :
    (entryAt (nsctpScan nowMs s m).1 j).abandoned = true := by
  rw [nsctpScan_abandoned nowMs s hj] at h ⊢
  refine h.imp_right ?_
  rintro ⟨k, hk, hrest⟩
  exact ⟨k, by omega, hrest⟩

end Scan

/-! ### Uniform expiry -/

/-- Entry `j` is in flight and at least as old as the timeout at the start of the call. -/
def HasExpired (s : NanoSctp) (nowMs : UInt32) (j : Nat) : Prop :=
  j < s.sendQueue.length ∧ EntryDue nowMs s.rtoMs (entryAt s j)

/-- **A call treats all entries by one timeout.** Every entry that has expired is marked for
retransmission or abandoned, every other one can only be abandoned, with its message; the timeout is
doubled at most once and stays in its range. -/
structure UniformExpiry (s : NanoSctp) (nowMs : UInt32) (s' : NanoSctp) : Prop where
  expired : ∀ j, HasExpired s nowMs j →
    (entryAt s' j).inFlight = false ∨ (entryAt s' j).abandoned = true
  younger : ∀ j < s.sendQueue.length, ¬HasExpired s nowMs j →
    SendEntry.kept (entryAt s' j) = SendEntry.kept (entryAt s j)
  rto : s'.rtoMs = s.rtoMs ∨ s'.rtoMs = nsctpBackoff s.rtoMs
  range : RtoInRange s'

theorem UniformExpiry.congr {s s' t : NanoSctp} {nowMs : UInt32} (hqueue : s'.sendQueue = t.sendQueue)
    (hrto : s'.rtoMs = t.rtoMs) (h : UniformExpiry s nowMs t) : UniformExpiry s nowMs s' := by
  obtain ⟨hexpired, hyounger, hdouble, hrange⟩ := h
  refine ⟨fun j hj => ?_, fun j hj hnot => ?_, hrto ▸ hdouble, ⟨hrto ▸ hrange.low, hrto ▸ hrange.high⟩⟩
  · show (s'.sendQueue.getD j default).inFlight = false ∨ (s'.sendQueue.getD j default).abandoned = true
    rw [hqueue]
    exact hexpired j hj
  · show SendEntry.kept (s'.sendQueue.getD j default) = _
    rw [hqueue]
    exact hyounger j hj hnot

/-- Entry `i` has expired with retransmissions left, and no expired entry before it abandons its
message. -/
def WaitsAt (s : NanoSctp) (nowMs : UInt32) (i : Nat) : Prop :=
  HasExpired s nowMs i ∧ ¬SendEntry.spent (entryAt s i) ∧
    ∀ k < i, HasExpired s nowMs k → SendEntry.spent (entryAt s k) → ¬OfMessage s.sendQueue k i

/-- Entry `k` has no retransmissions left, is at least as old as the doubled timeout and belongs to
the message of entry `j`. -/
def SpendsAt (s : NanoSctp) (nowMs : UInt32) (k j : Nat) : Prop :=
  HasExpired s nowMs k ∧ SendEntry.spent (entryAt s k) ∧
    nsctpBackoff s.rtoMs ≤ nanoTimeElapsed nowMs (entryAt s k).sentAtMs ∧ OfMessage s.sendQueue k j

/-- What the queue must be like for a call to treat all its entries alike. Behind an entry that
waits to be sent again, every other expired one is old enough for the doubled timeout, and has no
retransmissions left unless the timeout is at its bound; or its message is abandoned anyway. -/
structure ExpiresUniformly (s : NanoSctp) (nowMs : UInt32) : Prop where
  established : ∀ j, HasExpired s nowMs j → s.state = .established
  limit : ∀ j, HasExpired s nowMs j → ¬SendEntry.exhausted (entryAt s j)
  young : ∀ i j, i < j → WaitsAt s nowMs i → HasExpired s nowMs j →
    nanoTimeElapsed nowMs (entryAt s j).sentAtMs < nsctpBackoff s.rtoMs →
    ∃ k, i < k ∧ SpendsAt s nowMs k j
  old : ∀ i j, i < j → WaitsAt s nowMs i → HasExpired s nowMs j →
    nsctpBackoff s.rtoMs ≤ nanoTimeElapsed nowMs (entryAt s j).sentAtMs →
    nsctpBackoff s.rtoMs < sctpRtoMaxMs → ¬SendEntry.spent (entryAt s j) →
    ∃ k, i < k ∧ k < j ∧ SpendsAt s nowMs k j

section Uniform

variable {nowMs : UInt32} {s : NanoSctp} (hrto : RtoInRange s)
include hrto

theorem nsctpScan_rto_le {n m : Nat} (hnm : n ≤ m) :
    (nsctpScan nowMs s n).1.rtoMs ≤ (nsctpScan nowMs s m).1.rtoMs := by
  have hn := nsctpScan_rule rtoGrows_timer nowMs s (Nat.zero_le n) hrto
  exact (nsctpScan_rule rtoGrows_timer nowMs s hnm hn.1).2

theorem nsctpScan_range (n : Nat) : RtoInRange (nsctpScan nowMs s n).1 :=
  (nsctpScan_rule rtoGrows_timer nowMs s (Nat.zero_le n) hrto).1

/-- The timeout of the scan is the one at the start, or at least its double. -/
theorem nsctpScan_rto (n : Nat) : (nsctpScan nowMs s n).1.rtoMs = s.rtoMs ∨
    nsctpBackoff s.rtoMs ≤ (nsctpScan nowMs s n).1.rtoMs := by
  induction n with
  | zero => exact .inl rfl
  | succ n ih =>
    have hrange := @nsctpScan_range nowMs s hrto n
    cases nsctpRetransmitTurn_rto nowMs (nsctpScan nowMs s n) n with
    | inl hsame =>
      rw [show nsctpScan nowMs s (n + 1) = nsctpRetransmitTurn nowMs (nsctpScan nowMs s n) n from rfl,
        hsame]
      exact ih
    | inr hdouble =>
      have hgrown := @nsctpScan_rto_le nowMs s hrto _ _ (Nat.zero_le n)
      refine .inr ?_
      rw [show nsctpScan nowMs s (n + 1) = nsctpRetransmitTurn nowMs (nsctpScan nowMs s n) n from rfl,
        hdouble]
      exact nsctpBackoff_mono hgrown hrange.high

/-- What is due at its turn has expired. -/
theorem DueAt.expired {k : Nat} (h : DueAt nowMs s k) : HasExpired s nowMs k ∧
    (nsctpScan nowMs s k).1.rtoMs ≤ nanoTimeElapsed nowMs (entryAt s k).sentAtMs := by
  have hlt := h.lt
  have hsame := (nsctpScan_kept nowMs s hlt k).1 (.inl (Nat.le_refl k))
  obtain ⟨-, hflight, hacked, habandoned, hover⟩ := h
  -- the entry at its turn is the entry at the start
  have hflight' : (SendEntry.kept (entryAt s k)).inFlight = true := hsame ▸ hflight
  have hacked' : (!(SendEntry.kept (entryAt s k)).acked) = true := hsame ▸ hacked
  have hover' : (nsctpScan nowMs s k).1.rtoMs ≤
      nanoTimeElapsed nowMs (SendEntry.kept (entryAt s k)).sentAtMs := hsame ▸ hover
  have habandoned' : (!(entryAt s k).abandoned) = true := by
    rw [Bool.not_eq_true'] at habandoned ⊢
    rw [Bool.eq_false_iff] at habandoned ⊢
    exact fun hold => habandoned ((nsctpScan_abandoned nowMs s hlt k).mpr (.inl hold))
  exact ⟨⟨hlt, hflight', hacked', habandoned',
    UInt32.le_trans (nsctpScan_rto_le hrto (Nat.zero_le k)) hover'⟩, hover'⟩

omit hrto in
/-- An expired entry that is old enough for the timeout in force is due at its turn, or its message
has been abandoned. -/
theorem HasExpired.due {j : Nat} (h : HasExpired s nowMs j) (hrun : (nsctpScan nowMs s j).2 = true)
    (hover : (nsctpScan nowMs s j).1.rtoMs ≤ nanoTimeElapsed nowMs (entryAt s j).sentAtMs) :
    DueAt nowMs s j ∨ (entryAt (nsctpScan nowMs s j).1 j).abandoned = true := by
  have hsame := (nsctpScan_kept nowMs s h.1 j).1 (.inl (Nat.le_refl j))
  cases habandoned : (entryAt (nsctpScan nowMs s j).1 j).abandoned with
  | true => exact .inr rfl
  | false =>
    refine .inl ⟨hrun, ?_⟩
    have hentry (P : SendEntry → Prop) (hP : P (SendEntry.kept (entryAt s j))) :
        P (SendEntry.kept (entryAt (nsctpScan nowMs s j).1 j)) := hsame ▸ hP
    refine ⟨hentry (fun e => e.inFlight = true) h.2.1, hentry (fun e => (!e.acked) = true) h.2.2.1,
      by rw [habandoned]; rfl, hentry (fun e => nanoTimeElapsed nowMs e.sentAtMs ≥ _) hover⟩

variable (hshape : QueueShape s.sendQueue)
include hshape

omit hrto in
/-- An expired and spent entry that is old enough at its turn has its message abandoned, by itself
or by an entry before it. -/
theorem nsctpScan_abandons {k j n : Nat} (hk : HasExpired s nowMs k)
    (hspent : SendEntry.spent (entryAt s k)) (hof : OfMessage s.sendQueue k j)
    (hj : j < s.sendQueue.length) (hkn : k < n) (hrun : (nsctpScan nowMs s k).2 = true)
    (hover : (nsctpScan nowMs s k).1.rtoMs ≤ nanoTimeElapsed nowMs (entryAt s k).sentAtMs) :
    (entryAt (nsctpScan nowMs s n).1 j).abandoned = true := by
  rw [nsctpScan_abandoned nowMs s hj]
  cases hk.due hrun hover with
  | inl hdue => exact .inr ⟨k, hkn, hdue, hspent, hof⟩
  | inr habandoned =>
    rw [nsctpScan_abandoned nowMs s hk.1] at habandoned
    cases habandoned with
    | inl hold =>
      have hnot := hk.2.2.2.1
      rw [hold] at hnot
      nomatch hnot
    | inr hearlier =>
      obtain ⟨k', hk', hdue, hspent', hof'⟩ := hearlier
      exact .inr ⟨k', by omega, hdue, hspent', hof'.trans hshape.delimited.marked hk.1 hof⟩

omit hrto in
/-- An expired entry that is old enough at its turn is marked or abandoned. -/
theorem nsctpScan_treats (hlimit : ∀ j, HasExpired s nowMs j → ¬SendEntry.exhausted (entryAt s j))
    {j : Nat} (hj : HasExpired s nowMs j) (hrun : (nsctpScan nowMs s j).2 = true)
    (hover : (nsctpScan nowMs s j).1.rtoMs ≤ nanoTimeElapsed nowMs (entryAt s j).sentAtMs) :
    (entryAt (nsctpScan nowMs s s.sendQueue.length).1 j).inFlight = false ∨
      (entryAt (nsctpScan nowMs s s.sendQueue.length).1 j).abandoned = true := by
  by_cases hspent : SendEntry.spent (entryAt s j)
  · exact .inr (nsctpScan_abandons hshape hj hspent (OfMessage.self hshape.delimited.marked hj.1)
      hj.1 hj.1 hrun hover)
  · cases hj.due hrun hover with
    | inl hdue =>
      have hkept := (nsctpScan_kept nowMs s hj.1 s.sendQueue.length).2 hj.1
        ⟨hdue, hspent, hlimit j hj⟩
      exact .inl (congrArg SendEntry.inFlight hkept)
    | inr habandoned =>
      exact .inr (nsctpScan_abandoned_mono nowMs s hj.1 (Nat.le_of_lt hj.1) habandoned)

/-- **A queue that is like this is treated alike.** -/
theorem UniformExpiry.of_uniform (h : ExpiresUniformly s nowMs) :
    UniformExpiry s nowMs (nsctpScan nowMs s s.sendQueue.length).1 := by
  have hrun (n : Nat) : (nsctpScan nowMs s n).2 = true := by
    by_contra hfail
    obtain ⟨k, -, hdue, hexhausted⟩ := nsctpScan_failed nowMs s (Bool.eq_false_iff.mpr hfail)
    exact h.limit k (hdue.expired hrto).1 hexhausted
  have hyounger (j : Nat) (hj : j < s.sendQueue.length) (hnot : ¬HasExpired s nowMs j) :
      SendEntry.kept (entryAt (nsctpScan nowMs s s.sendQueue.length).1 j) =
        SendEntry.kept (entryAt s j) :=
    (nsctpScan_kept nowMs s hj _).1 (.inr fun hmarked => hnot (hmarked.1.expired hrto).1)
  -- until an entry is marked the timeout is the one at the start
  have hstart (n : Nat) (hnone : ∀ k < n, ¬MarkedAt nowMs s k) :
      (nsctpScan nowMs s n).1.rtoMs = s.rtoMs := by
    induction n with
    | zero => rfl
    | succ n ih =>
      rw [(nsctpScan_rto_succ nowMs s n).2 (hnone n (Nat.lt_succ_self n))]
      exact ih fun k hk => hnone k (by omega)
  have hfirst (j : Nat) (hj : HasExpired s nowMs j) (hnone : ∀ k < j, ¬MarkedAt nowMs s k) :=
    nsctpScan_treats hshape h.limit hj (hrun j) (by rw [hstart j hnone]; exact hj.2.2.2.2)
  by_cases hany : ∃ m, MarkedAt nowMs s m
  · obtain ⟨m, hmarked, hleast⟩ : ∃ m, MarkedAt nowMs s m ∧ ∀ k < m, ¬MarkedAt nowMs s k := by
      classical
      exact ⟨Nat.find hany, Nat.find_spec hany, fun k => Nat.find_min hany⟩
    obtain ⟨hexpired, -⟩ := hmarked.1.expired hrto
    have hwaits : WaitsAt s nowMs m := by
      refine ⟨hexpired, hmarked.2.1, fun k hkm hk hspent hof => ?_⟩
      have hgone := nsctpScan_abandons hshape hk hspent hof hexpired.1 hkm (hrun k) (by
        rw [hstart k fun i hi => hleast i (by omega)]
        exact hk.2.2.2.2)
      have hnot := hmarked.1.2.2.2.1
      rw [hgone] at hnot
      nomatch hnot
    -- from then on it is the doubled one
    have hdouble (n : Nat) (hmn : m < n) :
        (nsctpScan nowMs s n).1.rtoMs = nsctpBackoff s.rtoMs := by
      induction n using Nat.strong_induction_on with
      | _ n ih =>
        obtain ⟨n, rfl⟩ : ∃ n', n = n' + 1 := ⟨n - 1, by omega⟩
        by_cases hnm : n = m
        · subst hnm
          rw [(nsctpScan_rto_succ nowMs s n).1 hmarked, hstart n hleast]
        · have hbefore := ih n (Nat.lt_succ_self n) (by omega)
          by_cases hn : MarkedAt nowMs s n
          · obtain ⟨hexp, hage⟩ := hn.1.expired hrto
            rw [hbefore] at hage
            rw [(nsctpScan_rto_succ nowMs s n).1 hn, hbefore]
            by_cases hbound : nsctpBackoff s.rtoMs < sctpRtoMaxMs
            · exfalso
              obtain ⟨k, hmk, hkn, hk, hspent, hover, hof⟩ :=
                h.old m n (by omega) hwaits hexp hage hbound hn.2.1
              have hgone := nsctpScan_abandons hshape hk hspent hof hexp.1 hkn (hrun k) (by
                rw [ih k (by omega) hmk]
                exact hover)
              have hnot := hn.1.2.2.2.1
              rw [hgone] at hnot
              nomatch hnot
            · refine UInt32.le_antisymm (UInt32.le_trans (nsctpBackoff_le _) ?_)
                (le_nsctpBackoff (nsctpBackoff_le _))
              exact UInt32.not_lt.mp hbound
          · rw [(nsctpScan_rto_succ nowMs s n).2 hn]
            exact hbefore
    refine ⟨fun j hj => ?_, hyounger, .inr (hdouble _ hexpired.1), nsctpScan_range hrto _⟩
    by_cases hjm : j ≤ m
    · exact hfirst j hj fun k hk => hleast k (by omega)
    · by_cases hage : nanoTimeElapsed nowMs (entryAt s j).sentAtMs < nsctpBackoff s.rtoMs
      · obtain ⟨k, hmk, hk, hspent, hover, hof⟩ := h.young m j (by omega) hwaits hj hage
        exact .inr (nsctpScan_abandons hshape hk hspent hof hj.1 hk.1 (hrun k) (by
          rw [hdouble k hmk]
          exact hover))
      · exact nsctpScan_treats hshape h.limit hj (hrun j) (by
          rw [hdouble j (by omega)]
          exact UInt32.not_lt.mp hage)
  · have hnone (k : Nat) : ¬MarkedAt nowMs s k := fun hk => hany ⟨k, hk⟩
    exact ⟨fun j hj => hfirst j hj fun k _ => hnone k, hyounger, .inl (hstart _ fun k _ => hnone k),
      nsctpScan_range hrto _⟩

/-- **Nothing else is.** -/
theorem ExpiresUniformly.of_expiry (hstate : s.state = .established)
    (h : UniformExpiry s nowMs (nsctpScan nowMs s s.sendQueue.length).1) :
    ExpiresUniformly s nowMs := by
  have hmarked := hshape.delimited.marked
  -- an entry that is not marked can only be abandoned
  have hskipped (j : Nat) (hj : HasExpired s nowMs j) (hnot : ¬MarkedAt nowMs s j) :
      ∃ k < s.sendQueue.length, DueAt nowMs s k ∧ SendEntry.spent (entryAt s k) ∧
        OfMessage s.sendQueue k j := by
    have hkept := (nsctpScan_kept nowMs s hj.1 s.sendQueue.length).1 (.inr hnot)
    have hflight : (entryAt (nsctpScan nowMs s s.sendQueue.length).1 j).inFlight = true :=
      (congrArg SendEntry.inFlight hkept).trans hj.2.1
    have habandoned := (h.expired j hj).resolve_left (by rw [hflight]; nofun)
    rw [nsctpScan_abandoned nowMs s hj.1] at habandoned
    refine habandoned.resolve_left fun hold => ?_
    have hnot := hj.2.2.2.1
    rw [hold] at hnot
    nomatch hnot
  have hlimit (j : Nat) (hj : HasExpired s nowMs j) : ¬SendEntry.exhausted (entryAt s j) := by
    intro hexhausted
    obtain ⟨k, hk, -, hspent, hof⟩ := hskipped j hj fun hm => hm.2.2 hexhausted
    have hsame := hof.limit hmarked hshape.limits hk hj.1
    have hneg : (entryAt s j).maxRetransmits < 0 := hexhausted.1
    have hpos : (entryAt s k).maxRetransmits ≥ 0 := hspent.1
    have hneg : (entryAt s k).maxRetransmits < 0 := hsame ▸ hneg
    omega
  have hrun (n : Nat) : (nsctpScan nowMs s n).2 = true := by
    by_contra hfail
    obtain ⟨k, -, hdue, hexhausted⟩ := nsctpScan_failed nowMs s (Bool.eq_false_iff.mpr hfail)
    exact hlimit k (hdue.expired hrto).1 hexhausted
  -- behind an entry that waits the timeout is at least the doubled one
  have hbehind (i n : Nat) (hi : WaitsAt s nowMs i) (hin : i < n) :
      nsctpBackoff s.rtoMs ≤ (nsctpScan nowMs s n).1.rtoMs := by
    refine UInt32.le_trans ?_ (nsctpScan_rto_le hrto (show i + 1 ≤ n by omega))
    have hgrown := @nsctpScan_rto_le nowMs s hrto _ _ (Nat.zero_le i)
    by_cases hover : (nsctpScan nowMs s i).1.rtoMs ≤ nanoTimeElapsed nowMs (entryAt s i).sentAtMs
    · cases hi.1.due (hrun i) hover with
      | inl hdue =>
        rw [(nsctpScan_rto_succ nowMs s i).1 ⟨hdue, hi.2.1, hlimit i hi.1⟩]
        exact nsctpBackoff_mono hgrown (nsctpScan_range hrto i).high
      | inr hgone =>
        exfalso
        rw [nsctpScan_abandoned nowMs s hi.1.1] at hgone
        cases hgone with
        | inl hold =>
          have hnot := hi.1.2.2.2.1
          rw [hold] at hnot
          nomatch hnot
        | inr hspender =>
          obtain ⟨k, hk, hdue, hspent, hof⟩ := hspender
          exact hi.2.2 k hk (hdue.expired hrto).1 hspent hof
    · cases @nsctpScan_rto nowMs s hrto i with
      | inl hsame => exact absurd (hsame ▸ hi.1.2.2.2.2) hover
      | inr hdoubled => exact UInt32.le_trans hdoubled (nsctpScan_rto_le hrto (Nat.le_succ i))
  -- what abandons an entry behind it comes behind it too
  have hspends (i j k : Nat) (hij : i < j) (hi : WaitsAt s nowMs i) (hj : j < s.sendQueue.length)
      (hdue : DueAt nowMs s k) (hspent : SendEntry.spent (entryAt s k))
      (hof : OfMessage s.sendQueue k j) : i < k ∧ SpendsAt s nowMs k j := by
    obtain ⟨hk, hover⟩ := hdue.expired hrto
    have hik : i < k := by
      by_contra hle
      by_cases heq : k = i
      · exact hi.2.1 (heq ▸ hspent)
      · exact hi.2.2 k (by omega) hk hspent
          (hof.between hmarked hk.1 (.inl ⟨by omega, by omega⟩))
    exact ⟨hik, hk, hspent, UInt32.le_trans (hbehind i k hi hik) hover, hof⟩
  refine ⟨fun _ _ => hstate, hlimit, fun i j hij hi hj hage => ?_,
    fun i j hij hi hj hage hbound hspent => ?_⟩
  · have hnot : ¬MarkedAt nowMs s j := by
      intro hm
      have hover := UInt32.le_trans (hbehind i j hi hij) (hm.1.expired hrto).2
      exact absurd hage (UInt32.not_lt.mpr hover)
    obtain ⟨k, -, hdue, hspent, hof⟩ := hskipped j hj hnot
    exact ⟨k, hspends i j k hij hi hj.1 hdue hspent hof⟩
  · -- were it marked, the timeout would be doubled twice
    have hfinal : (nsctpScan nowMs s s.sendQueue.length).1.rtoMs ≤ nsctpBackoff s.rtoMs := by
      cases h.rto with
      | inl hsame => rw [hsame]; exact le_nsctpBackoff hrto.high
      | inr hdoubled => rw [hdoubled]; exact UInt32.le_refl _
    have hat : (nsctpScan nowMs s j).1.rtoMs = nsctpBackoff s.rtoMs :=
      UInt32.le_antisymm
        (UInt32.le_trans (nsctpScan_rto_le hrto (Nat.le_of_lt hj.1)) hfinal) (hbehind i j hi hij)
    cases hj.due (hrun j) (hat ▸ hage) with
    | inl hdue =>
      exfalso
      have hnext := (nsctpScan_rto_succ nowMs s j).1 ⟨hdue, hspent, hlimit j hj⟩
      rw [hat] at hnext
      have hpos : 0 < nsctpBackoff s.rtoMs := by
        have hlow := UInt32.le_trans hrto.low (le_nsctpBackoff hrto.high)
        exact Std.lt_of_lt_of_le (by decide) hlow
      have hgrows := lt_nsctpBackoff hpos hbound
      rw [← hnext] at hgrows
      exact absurd (UInt32.le_trans (nsctpScan_rto_le hrto hj.1) hfinal) (UInt32.not_le.mpr hgrows)
    | inr hgone =>
      rw [nsctpScan_abandoned nowMs s hj.1] at hgone
      obtain ⟨k, hkj, hdue, hspent', hof⟩ := hgone.resolve_left fun hold => by
        have hnot := hj.2.2.2.1
        rw [hold] at hnot
        nomatch hnot
      obtain ⟨hik, hsp⟩ := hspends i j k hij hi hj.1 hdue hspent' hof
      exact ⟨k, hik, hkj, hsp⟩

end Uniform

/-! ### Every run -/

/-- Where the timeout stands over every run. -/
theorem rtoInRange_run (is : List SctpInput) : RtoInRange (run sctpStep nsctpInit is) := by
  have hsending {s s' : NanoSctp} (hs : SameSending s s') (h : RtoInRange s) : RtoInRange s' :=
    (RtoGrows.of_eq hs.rtoMs h).1
  have hstep (s : NanoSctp) (i : SctpInput) (h : RtoInRange s) : RtoInRange (sctpStep s i) := by
    refine sctpStep_invariant (P := RtoInRange) ?_ ?_ ?_ s i h
    · intro s random hdr chunk h
      by_cases htype : SctpChunkType.ofType (byteAt chunk 0) = .sack
      · have hhandle : (nsctpHandleChunk s random hdr chunk).1 =
            (nsctpHandleSackChunk s chunk).1 := by
          unfold nsctpHandleChunk
          rw [htype]
        rw [hhandle]
        exact (rtoGrows_timer.handleSack (fun _ _ _ => .of_eq rfl) s chunk h).1
      · exact hsending (nsctpHandleChunk_sending s random hdr htype) h
    · exact fun s h => (rtoGrows_timer.finishPacket s h).1
    · intro s i hi h
      cases i with
      | packet random data => exact absurd rfl (hi random data)
      | start random => exact hsending (nsctpStart_sending s random) h
      | pollDelivery => exact (nsctpPollDelivery_rule (R := RtoGrows) (fun _ _ _ => .of_eq rfl) s h).1
      | pollOutput bufLen => exact (rtoGrows_timer.pollOutput s bufLen h).1
      | send streamId ppid data unordered maxRetransmits =>
        exact (rtoGrows_timer.sendOptions (fun _ _ _ _ _ _ _ => .of_eq rfl) s streamId ppid data
          unordered maxRetransmits h).1
      | timeout nowMs random => exact (rtoGrows_timer.handleTimeout s nowMs random h).1
  exact run_invariant hstep ⟨by decide, by decide⟩ is

/-- The handler leaves the queue and the timeout that the scan ends in. -/
theorem nsctpHandleTimeout_scan {s : NanoSctp} (hstate : s.state = .established) (nowMs : UInt32)
    (random : Option (List UInt8)) :
    let t := (nsctpScan nowMs { s with nowMs := nowMs } s.sendQueue.length).1
    (nsctpHandleTimeout s nowMs random).1.sendQueue = t.sendQueue ∧
      (nsctpHandleTimeout s nowMs random).1.rtoMs = t.rtoMs := by
  have hscan := nsctpRetransmit_scan nowMs { s with nowMs := nowMs } s.sendQueue.length 0 rfl
  rw [Nat.zero_add] at hscan
  have hforward (t : NanoSctp) : (nsctpForwardAgain t nowMs).sendQueue = t.sendQueue ∧
      (nsctpForwardAgain t nowMs).rtoMs = t.rtoMs := by
    unfold nsctpForwardAgain
    dsimp only
    split <;> exact ⟨rfl, rfl⟩
  have hheartbeat (t : NanoSctp) : (nsctpSendHeartbeat t nowMs random).1.sendQueue = t.sendQueue ∧
      (nsctpSendHeartbeat t nowMs random).1.rtoMs = t.rtoMs := by
    unfold nsctpSendHeartbeat
    split
    · split
      · exact ⟨rfl, rfl⟩
      · rename_i nonce
        have hout := nsctpQueueOutput_sending t t.remoteVtag
          (nsctpEncodeHeartbeat 4 (sctpMtu - sctpHeaderSize) nonce)
        exact ⟨hout.sendQueue, hout.rtoMs⟩
    · exact ⟨rfl, rfl⟩
  dsimp only
  rw [nsctpHandleTimeout_established hstate,
    show nsctpRetransmit nowMs s.sendQueue.length 0 { s with nowMs := nowMs } = _ from hscan]
  generalize nsctpScan nowMs { s with nowMs := nowMs } s.sendQueue.length = r
  obtain ⟨t, ok⟩ := r
  cases ok with
  | false => exact ⟨rfl, rfl⟩
  | true =>
    exact ⟨(hheartbeat _).1.trans (hforward t).1, (hheartbeat _).2.trans (hforward t).2⟩

/-- **When expiry is uniform.** In every run from a fresh association and at every time, a call of
the timeout handler treats all entries by the timeout at its start exactly when the send queue is
one that expires uniformly. -/
theorem uniform_expiry_iff (is : List SctpInput) (nowMs : UInt32) (random : Option (List UInt8)) :
    let s := run sctpStep nsctpInit is
    UniformExpiry s nowMs (nsctpHandleTimeout s nowMs random).1 ↔ ExpiresUniformly s nowMs := by
  intro s
  have hshape : QueueShape s.sendQueue := queueShape_run is
  have hrto : RtoInRange s := rtoInRange_run is
  by_cases hstate : s.state = .established
  · obtain ⟨hqueue, hrto'⟩ := nsctpHandleTimeout_scan hstate nowMs random
    -- the state with the clock set has the same queue
    have hset : RtoInRange { s with nowMs := nowMs } := ⟨hrto.low, hrto.high⟩
    have hcongr : UniformExpiry s nowMs (nsctpHandleTimeout s nowMs random).1 ↔
        UniformExpiry { s with nowMs := nowMs } nowMs
          (nsctpScan nowMs { s with nowMs := nowMs } s.sendQueue.length).1 := by
      constructor
      · intro h
        obtain ⟨hexpired, hyounger, hrto, hrange⟩ := h.congr hqueue.symm hrto'.symm
        exact ⟨hexpired, hyounger, hrto, hrange⟩
      · rintro ⟨hexpired, hyounger, hrto, hrange⟩
        exact UniformExpiry.congr hqueue hrto' ⟨hexpired, hyounger, hrto, hrange⟩
    rw [hcongr]
    constructor
    · intro h
      obtain ⟨hest, hlimit, hyoung, hold⟩ :=
        ExpiresUniformly.of_expiry (s := { s with nowMs := nowMs }) hset hshape hstate h
      exact ⟨hest, hlimit, hyoung, hold⟩
    · rintro ⟨hest, hlimit, hyoung, hold⟩
      exact UniformExpiry.of_uniform (s := { s with nowMs := nowMs }) hset hshape
        ⟨hest, hlimit, hyoung, hold⟩
  · -- only an established association looks at its queue
    have hidle : (nsctpHandleTimeout s nowMs random).1 = { s with nowMs := nowMs } := by
      unfold nsctpHandleTimeout
      dsimp only
      rw [if_pos hstate]
    rw [hidle]
    constructor
    · intro h
      have hnone (j : Nat) (hj : HasExpired s nowMs j) : False := by
        cases h.expired j hj with
        | inl hflight => exact absurd (hj.2.1.symm.trans hflight) nofun
        | inr habandoned =>
          have hnot := hj.2.2.2.1
          rw [show (entryAt s j).abandoned = true from habandoned] at hnot
          nomatch hnot
      exact ⟨fun j hj => (hnone j hj).elim, fun j hj => (hnone j hj).elim,
        fun i j _ _ hj => (hnone j hj).elim, fun i j _ _ hj => (hnone j hj).elim⟩
    · intro h
      exact ⟨fun j hj => absurd (h.established j hj) hstate, fun _ _ _ => rfl, .inl rfl,
        ⟨hrto.low, hrto.high⟩⟩

/-- Two messages sent at once, and no answer. -/
def demoUnanswered : List SctpInput :=
  demoHandshake ++ [.pollOutput 1200, .pollOutput 1200, .send 1 51 [65] false (-1),
    .send 1 51 [66] false (-1), .pollOutput 1200, .pollOutput 1200]

/-- After the first timeout of one second the first message is sent again, the second one is not. -/
theorem expiry_not_uniform :
    let s := run sctpStep nsctpInit demoUnanswered
    ¬UniformExpiry s 1000 (nsctpHandleTimeout s 1000 none).1 := by
  intro s h
  have hexpired : HasExpired s 1000 1 := ⟨by decide +kernel, by decide +kernel⟩
  cases h.expired 1 hexpired with
  | inl hflight => exact absurd hflight (by decide +kernel)
  | inr habandoned => exact absurd habandoned (by decide +kernel)

end Nanortc.Spec
