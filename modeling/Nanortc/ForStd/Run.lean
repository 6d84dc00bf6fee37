import Mathlib

/-!
# Runs of a state machine

A state machine is a step function from a state and an input to a state. `run` applies a list of
inputs, oldest first. `Occurred` says that some step of a run had a property of the state it was
taken in and its input.

## Key results

- `run_induction`: a property of the history and the state that the start has and every step keeps
- `run_invariant`: the same without history
- `occurred_snoc`: what happened by now happened before or in the last step
- `allSteps_iff`, `run_allSteps`: the rules for invariants that only some steps keep
- `runUntil_invariant`, `runUntil_reached`, `runUntil_progress`, `runUntil_map`: the rules for runs
  that an error ends
- `turnsUntil_invariant`, `turnsUntil_enough`: the rules for loops of bounded length
-/

namespace Nanortc.ForStd

variable {σ ι : Type*}

/-- The state after a list of inputs. -/
def run (step : σ → ι → σ) (s : σ) (is : List ι) : σ := is.foldl step s

@[simp] theorem run_nil (step : σ → ι → σ) (s : σ) : run step s [] = s := rfl

@[simp] theorem run_cons (step : σ → ι → σ) (s : σ) (i : ι) (is : List ι) :
    run step s (i :: is) = run step (step s i) is := rfl

theorem run_append (step : σ → ι → σ) (s : σ) (is js : List ι) :
    run step s (is ++ js) = run step (run step s is) js := List.foldl_append

theorem run_snoc (step : σ → ι → σ) (s : σ) (is : List ι) (i : ι) :
    run step s (is ++ [i]) = step (run step s is) i := run_append step s is [i]

/-- What the start has and every step keeps, every state of a run has; the property may speak
about the inputs so far. -/
theorem run_induction {step : σ → ι → σ} {s : σ} {P : List ι → σ → Prop} (h0 : P [] s)
    (hstep : ∀ is i, P is (run step s is) → P (is ++ [i]) (step (run step s is) i))
    (is : List ι) : P is (run step s is) := by
  induction is using List.reverseRecOn with
  | nil => exact h0
  | append_singleton is i ih =>
    rw [run_snoc]
    exact hstep is i ih

/-- An invariant of the step function holds along a run. -/
theorem run_invariant {step : σ → ι → σ} {P : σ → Prop} (hstep : ∀ s i, P s → P (step s i))
    {s : σ} (h : P s) (is : List ι) : P (run step s is) :=
  run_induction (P := fun _ => P) h (fun _ _ => hstep _ _) is

/-- Some step of the run had property `E` of its state and input. -/
def Occurred (step : σ → ι → σ) (s : σ) (E : σ → ι → Prop) (is : List ι) : Prop :=
  ∃ pre i post, is = pre ++ i :: post ∧ E (run step s pre) i

/-- What happened by now happened before or in the last step. -/
theorem occurred_snoc (step : σ → ι → σ) (s : σ) (E : σ → ι → Prop) (is : List ι) (i : ι) :
    Occurred step s E (is ++ [i]) ↔ Occurred step s E is ∨ E (run step s is) i := by
  constructor
  · rintro ⟨pre, j, post, h, hE⟩
    rcases List.eq_nil_or_concat' post with rfl | ⟨post, k, rfl⟩
    · obtain ⟨rfl, h⟩ := List.append_inj' h rfl
      obtain rfl : i = j := by simpa using h
      exact .inr hE
    · rw [← List.cons_append, ← List.append_assoc] at h
      obtain ⟨rfl, -⟩ := List.append_inj' h rfl
      exact .inl ⟨pre, j, post, rfl, hE⟩
  · rintro (⟨pre, j, post, rfl, hE⟩ | hE)
    · exact ⟨pre, j, post ++ [i], by simp, hE⟩
    · exact ⟨is, i, [], rfl, hE⟩

/-- Every step of the run has property `E` of the state it is taken in and its input. -/
def AllSteps (step : σ → ι → σ) (s : σ) (E : σ → ι → Prop) : List ι → Prop
  | [] => True
  | i :: is => E s i ∧ AllSteps step (step s i) E is

instance instDecidableAllSteps (step : σ → ι → σ) (E : σ → ι → Prop) [∀ s i, Decidable (E s i)] :
    ∀ s is, Decidable (AllSteps step s E is)
  | _, [] => instDecidableTrue
  | s, i :: is =>
    have := instDecidableAllSteps step E (step s i) is
    inferInstanceAs (Decidable (_ ∧ _))

theorem allSteps_append {step : σ → ι → σ} {s : σ} {E : σ → ι → Prop} {is js : List ι} :
    AllSteps step s E (is ++ js) ↔ AllSteps step s E is ∧ AllSteps step (run step s is) E js := by
  induction is generalizing s with
  | nil => exact (and_iff_right trivial).symm
  | cons i is ih => exact (and_congr_right fun _ => ih).trans and_assoc.symm

theorem allSteps_and {step : σ → ι → σ} {s : σ} {E F : σ → ι → Prop} {is : List ι} :
    AllSteps step s (fun s i => E s i ∧ F s i) is ↔ AllSteps step s E is ∧ AllSteps step s F is := by
  induction is generalizing s with
  | nil => exact (and_iff_left trivial).symm
  | cons i is ih => exact (and_congr_right fun _ => ih).trans and_and_and_comm

/-- Two properties of steps that agree where an invariant holds, which one of them keeps. -/
theorem allSteps_iff {step : σ → ι → σ} {E F : σ → ι → Prop} {P : σ → Prop}
    (hiff : ∀ s i, P s → (E s i ↔ F s i)) (hstep : ∀ s i, F s i → P s → P (step s i)) {s : σ}
    (h : P s) (is : List ι) : AllSteps step s E is ↔ AllSteps step s F is := by
  induction is generalizing s with
  | nil => exact Iff.rfl
  | cons i is ih =>
    show E s i ∧ AllSteps step (step s i) E is ↔ F s i ∧ AllSteps step (step s i) F is
    rw [hiff s i h]
    exact and_congr_right fun hF => ih (hstep s i hF h)

/-- An invariant of the steps that have the property. -/
theorem run_allSteps {step : σ → ι → σ} {E : σ → ι → Prop} {P : σ → Prop}
    (hstep : ∀ s i, E s i → P s → P (step s i)) {s : σ} {is : List ι}
    (hall : AllSteps step s E is) (h : P s) : P (run step s is) := by
  induction is generalizing s with
  | nil => exact h
  | cons i is ih => exact ih hall.2 (hstep s i hall.1 h)

/-! ### Runs that an error ends -/

variable {τ ε : Type*}

/-- The inputs applied until a step reports an error, with that error. -/
def runUntil (step : σ → ι → σ × Option ε) (s : σ) : List ι → σ × Option ε
  | [] => (s, none)
  | i :: is =>
    match step s i with
    | (s, none) => runUntil step s is
    | (s, some e) => (s, some e)

/-- An invariant of the step function holds in the state an error leaves, too. -/
theorem runUntil_invariant {f : σ → ι → σ × Option ε} {P : σ → Prop}
    (hstep : ∀ s i, P s → P (f s i).1) {s : σ} (h : P s) (is : List ι) :
    P (runUntil f s is).1 := by
  induction is generalizing s with
  | nil => exact h
  | cons i is ih =>
    have hi := hstep s i h
    unfold runUntil
    split
    · rename_i heq
      rw [heq] at hi
      exact ih hi
    · rename_i heq
      rw [heq] at hi
      exact hi

/-- The error of a run is the error of a step. -/
theorem runUntil_error {f : σ → ι → σ × Option ε} {s : σ} {is : List ι} {e : ε}
    (h : (runUntil f s is).2 = some e) : ∃ t, ∃ i ∈ is, (f t i).2 = some e := by
  induction is generalizing s with
  | nil => exact nomatch h
  | cons i is ih =>
    unfold runUntil at h
    split at h
    · obtain ⟨t, j, hj, hstep⟩ := ih h
      exact ⟨t, j, List.mem_cons_of_mem i hj, hstep⟩
    · rename_i heq
      exact ⟨s, i, List.mem_cons_self, by rw [heq]; exact h⟩

/-- The run comes to input `i`: none before it ends the run. -/
def Reached (f : σ → ι → σ × Option ε) (s : σ) (is : List ι) (i : ι) : Prop :=
  ∃ pre post, is = pre ++ i :: post ∧ (runUntil f s pre).2 = none

theorem reached_head (f : σ → ι → σ × Option ε) (s : σ) (i : ι) (is : List ι) :
    Reached f s (i :: is) i := ⟨[], is, rfl, rfl⟩

theorem Reached.tail {f : σ → ι → σ × Option ε} {s s' : σ} {i j : ι} {is : List ι}
    (hi : f s i = (s', none)) (h : Reached f s' is j) : Reached f s (i :: is) j := by
  obtain ⟨pre, post, hsplit, hrun⟩ := h
  refine ⟨i :: pre, post, by rw [hsplit, List.cons_append], ?_⟩
  unfold runUntil
  rw [hi]
  exact hrun

/-- An invariant of the steps on the inputs that are reached. -/
theorem runUntil_reached {f : σ → ι → σ × Option ε} {P : σ → Prop} {s : σ} (is : List ι)
    (hstep : ∀ t i, Reached f s is i → P t → P (f t i).1) (h : P s) : P (runUntil f s is).1 := by
  induction is generalizing s with
  | nil => exact h
  | cons i is ih =>
    have hi := hstep s i (reached_head f s i is) h
    unfold runUntil
    split
    · rename_i heq
      rw [heq] at hi
      exact ih (fun t j hj => hstep t j (hj.tail heq)) hi
    · rename_i heq
      rw [heq] at hi
      exact hi

/-- Where a step on `i` does at least one and at most `w i` units of work, a run does at least one
unit, if it has a step, and at most as many as its inputs stand for. -/
theorem runUntil_progress {f : σ → ι → σ × Option ε} {Q : Nat → σ → Prop} {w : ι → Nat}
    {is : List ι}
    (hstep : ∀ n s, ∀ i ∈ is, Q n s → ∃ k, 1 ≤ k ∧ k ≤ w i ∧ Q (n + k) (f s i).1)
    {n : Nat} {s : σ} (h : Q n s) :
    ∃ k, (is ≠ [] → 1 ≤ k) ∧ k ≤ (is.map w).sum ∧ Q (n + k) (runUntil f s is).1 := by
  induction is generalizing n s with
  | nil => exact ⟨0, fun hne => absurd rfl hne, Nat.le_refl _, h⟩
  | cons i is ih =>
    obtain ⟨k, hpos, hle, hk⟩ := hstep n s i List.mem_cons_self h
    rw [List.map_cons, List.sum_cons]
    unfold runUntil
    split
    · rename_i heq
      rw [heq] at hk
      obtain ⟨k', -, hle', hk'⟩ := ih (fun n s j hj => hstep n s j (List.mem_cons_of_mem i hj)) hk
      exact ⟨k + k', fun _ => by omega, by omega, by rwa [← Nat.add_assoc]⟩
    · rename_i heq
      rw [heq] at hk
      exact ⟨k, fun _ => hpos, by omega, hk⟩

/-- A projection that the step functions respect, the runs respect. -/
theorem runUntil_map {f : σ → ι → σ × Option ε} {g : τ → ι → τ × Option ε} {p : σ → τ}
    (hstep : ∀ s i, g (p s) i = (p (f s i).1, (f s i).2)) (s : σ) (is : List ι) :
    runUntil g (p s) is = (p (runUntil f s is).1, (runUntil f s is).2) := by
  induction is generalizing s with
  | nil => rfl
  | cons i is ih =>
    unfold runUntil
    rw [hstep]
    cases f s i with
    | mk s' e =>
      cases e with
      | none => exact ih s'
      | some e => rfl

theorem runUntil_cons (f : σ → ι → σ × Option ε) (s : σ) (i : ι) (is : List ι) :
    runUntil f s (i :: is) =
      match f s i with
      | (s, none) => runUntil f s is
      | (s, some e) => (s, some e) := rfl

theorem runUntil_append (f : σ → ι → σ × Option ε) (s : σ) (is js : List ι) :
    runUntil f s (is ++ js) =
      match runUntil f s is with
      | (s, none) => runUntil f s js
      | (s, some e) => (s, some e) := by
  induction is generalizing s with
  | nil => rfl
  | cons i is ih =>
    rw [List.cons_append, runUntil_cons, runUntil_cons]
    cases f s i with
    | mk s' e =>
      cases e with
      | none => exact ih s'
      | some e => rfl

/-- A loop in a loop, as one. -/
theorem runUntil_flatMap {κ : Type*} (f : κ → σ → ι → σ × Option ε) (g : κ → List ι) (s : σ)
    (ks : List κ) :
    runUntil (fun s k => runUntil (f k) s (g k)) s ks =
      runUntil (fun s (x : κ × ι) => f x.1 s x.2) s (ks.flatMap fun k => (g k).map (k, ·)) := by
  have hinner (k : κ) (is : List ι) (s : σ) : runUntil (f k) s is =
      runUntil (fun s (x : κ × ι) => f x.1 s x.2) s (is.map (k, ·)) := by
    induction is generalizing s with
    | nil => rfl
    | cons i is ih =>
      rw [List.map_cons, runUntil_cons, runUntil_cons]
      cases f k s i with
      | mk s' e =>
        cases e with
        | none => exact ih s'
        | some e => rfl
  induction ks generalizing s with
  | nil => rfl
  | cons k ks ih =>
    rw [List.flatMap_cons, runUntil_append, ← hinner, runUntil_cons]
    cases runUntil (f k) s (g k) with
    | mk s' e =>
      cases e with
      | none => exact ih s'
      | some e => rfl

/-! ### Loops of bounded length -/

variable {α : Type*}

/-- A loop of at most `turns` turns. The second result of a turn ends it; `d` is the result of a loop
that no turn has ended. -/
def turnsUntil (f : σ → σ × Option α) (d : α) : (turns : Nat) → σ → σ × α
  | 0, s => (s, d)
  | turns + 1, s =>
    match f s with
    | (s, none) => turnsUntil f d turns s
    | (s, some a) => (s, a)

/-- What every turn keeps, the loop keeps. -/
theorem turnsUntil_invariant {f : σ → σ × Option α} {d : α} {P : σ → Prop}
    (hturn : ∀ s, P s → P (f s).1) (turns : Nat) {s : σ} (h : P s) :
    P (turnsUntil f d turns s).1 := by
  induction turns generalizing s with
  | zero => exact h
  | succ turns ih =>
    have hs := hturn s h
    unfold turnsUntil
    revert hs
    generalize f s = r
    intro hs
    split
    · exact ih hs
    · exact hs

/-- The bound of a loop does not matter once it exceeds a measure that every turn but the last makes
smaller. -/
theorem turnsUntil_enough {f : σ → σ × Option α} {d : α} (size : σ → Nat)
    (hturn : ∀ s, (f s).2 = none → size (f s).1 < size s) {turns turns' : Nat} {s : σ}
    (h : size s < turns) (h' : size s < turns') :
    turnsUntil f d turns s = turnsUntil f d turns' s := by
  induction turns generalizing turns' s with
  | zero => exact absurd h (Nat.not_lt_zero _)
  | succ turns ih =>
    cases turns' with
    | zero => exact absurd h' (Nat.not_lt_zero _)
    | succ turns' =>
      have hsmaller := hturn s
      unfold turnsUntil
      cases hf : f s with
      | mk t ended =>
        cases ended with
        | none =>
          rw [hf] at hsmaller
          have hlt : size t < size s := hsmaller rfl
          exact ih (by omega) (by omega)
        | some a => rfl

end Nanortc.ForStd
