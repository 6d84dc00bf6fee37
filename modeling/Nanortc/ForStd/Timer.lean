import Mathlib

/-!
# Timers on a wrapping clock

Intervals measured on a 32-bit clock that wraps around, and the earliest of a list of deadlines.

## Key results

- `timeLeft_due`: an interval is over once its time left has passed
- `timeLeft_early`: it is not over before
- `foldl_min_le`, `foldl_min_mem`: the earliest deadline is no later than any other, and one of them
- `earliest_le`, `earliest_mem`, `earliest_of_least`: the same for items that have deadlines; of
  several that are earliest the first is taken
-/

namespace Nanortc.ForStd

/-- Time left at `now` of an interval that began at `since`. -/
def timeLeft (now since interval : UInt32) : UInt32 :=
  if now - since ≥ interval then 0 else interval - (now - since)

theorem timeLeft_due (now since interval : UInt32) :
    now + timeLeft now since interval - since ≥ interval := by
  unfold timeLeft
  split
  · rename_i hover
    rw [UInt32.add_zero]
    exact hover
  · have heq : now + (interval - (now - since)) - since = interval := by grind
    rw [heq]
    exact UInt32.le_refl interval

/-- No time left is an interval over. -/
theorem timeLeft_zero {now since interval : UInt32} (h : timeLeft now since interval = 0) :
    now - since ≥ interval := by
  have hdue := timeLeft_due now since interval
  rwa [h, UInt32.add_zero] at hdue

theorem timeLeft_early {now since interval d : UInt32} (h : d < timeLeft now since interval) :
    now + d - since < interval := by
  unfold timeLeft at h
  split at h
  · exact absurd h UInt32.not_lt_zero
  · rename_i hrun
    have heq : now + d - since = (now - since) + d := by grind
    rw [heq]
    have hrun : now - since < interval := UInt32.not_le.mp hrun
    rw [UInt32.lt_iff_toNat_lt] at *
    rw [UInt32.toNat_sub_of_le _ _ (UInt32.le_iff_toNat_le.mpr (Nat.le_of_lt hrun))] at h
    have hbound := interval.toNat_lt
    rw [UInt32.toNat_add, Nat.mod_eq_of_lt (by omega)]
    omega

theorem timeLeft_le (now since interval : UInt32) : timeLeft now since interval ≤ interval := by
  unfold timeLeft
  split
  · exact UInt32.zero_le
  · rename_i hrun
    have hrun : now - since < interval := UInt32.not_le.mp hrun
    rw [UInt32.lt_iff_toNat_lt] at hrun
    rw [UInt32.le_iff_toNat_le,
      UInt32.toNat_sub_of_le _ _ (UInt32.le_iff_toNat_le.mpr (Nat.le_of_lt hrun))]
    exact Nat.sub_le _ _

variable {α : Type*} [Min α] [LE α] [Std.IsLinearOrder α] [Std.LawfulOrderMin α]

theorem foldl_min_le_start (l : List α) (a : α) : l.foldl min a ≤ a := by
  induction l generalizing a with
  | nil => exact Std.le_refl a
  | cons b l ih => exact Std.le_trans (ih (min a b)) Std.min_le_left

theorem foldl_min_le {l : List α} {b : α} (hb : b ∈ l) (a : α) : l.foldl min a ≤ b := by
  induction l generalizing a with
  | nil => exact nomatch hb
  | cons c l ih =>
    rw [List.foldl_cons]
    cases List.mem_cons.mp hb with
    | inl heq =>
      rw [heq]
      exact Std.le_trans (foldl_min_le_start l (min a c)) Std.min_le_right
    | inr hmem => exact ih hmem (min a c)

theorem foldl_min_mem (l : List α) (a : α) : l.foldl min a = a ∨ l.foldl min a ∈ l := by
  induction l generalizing a with
  | nil => exact .inl rfl
  | cons b l ih =>
    rw [List.foldl_cons]
    cases ih (min a b) with
    | inl heq =>
      rw [heq]
      cases Std.min_eq_or (a := a) (b := b) with
      | inl hmin => exact .inl hmin
      | inr hmin =>
        rw [hmin]
        exact .inr List.mem_cons_self
    | inr hmem => exact .inr (List.mem_cons_of_mem b hmem)

/-! ### The first of the earliest items -/

section

variable {α β : Type*} [LT α] [DecidableLT α] {key : β → α}

/-- The first of the earliest items, or the start if none is before it. -/
def earliest (key : β → α) (start : β) (l : List β) : β :=
  l.foldl (fun w a => if key a < key w then a else w) start

theorem earliest_cons (start a : β) (l : List β) :
    earliest key start (a :: l) = earliest key (if key a < key start then a else start) l := rfl

theorem earliest_append (start : β) (l m : List β) :
    earliest key start (l ++ m) = earliest key (earliest key start l) m := List.foldl_append

variable [LE α] [Std.IsLinearOrder α] [Std.LawfulOrderLT α]

theorem earliest_le_start (start : β) (l : List β) : key (earliest key start l) ≤ key start := by
  induction l generalizing start with
  | nil => exact Std.le_refl _
  | cons a l ih =>
    rw [earliest_cons]
    split
    · rename_i hlt
      exact Std.le_trans (ih a) (Std.le_of_lt hlt)
    · exact ih start

theorem earliest_le (key : β → α) {b : β} {l : List β} (hb : b ∈ l) (start : β) :
    key (earliest key start l) ≤ key b := by
  induction l generalizing start with
  | nil => exact nomatch hb
  | cons a l ih =>
    rw [earliest_cons]
    cases List.mem_cons.mp hb with
    | inr hmem => exact ih hmem _
    | inl heq =>
      subst heq
      apply Std.le_trans (earliest_le_start _ l)
      split
      · exact Std.le_refl _
      · rename_i hle
        exact Std.not_lt.mp hle

theorem earliest_mem (key : β → α) (start : β) (l : List β) :
    earliest key start l = start ∨ earliest key start l ∈ l := by
  induction l generalizing start with
  | nil => exact .inl rfl
  | cons a l ih =>
    rw [earliest_cons]
    split
    · cases ih a with
      | inl heq =>
        rw [heq]
        exact .inr List.mem_cons_self
      | inr hmem => exact .inr (List.mem_cons_of_mem a hmem)
    · cases ih start with
      | inl heq => exact .inl heq
      | inr hmem => exact .inr (List.mem_cons_of_mem a hmem)

/-- Nothing comes before an item that is as early as any can be. -/
theorem earliest_of_least {start : β} (h : ∀ b, key start ≤ key b) (l : List β) :
    earliest key start l = start := by
  induction l with
  | nil => rfl
  | cons a l ih =>
    rw [earliest_cons, if_neg (Std.not_lt.mpr (h a))]
    exact ih

end

end Nanortc.ForStd
