import Mathlib

/-!
# Machines with outputs

A machine whose step function answers every input. `outputs` lists the inputs of a run with their
answers. A keyed machine holds one component for each key, and an input sees and changes the
component of its own key only, so inputs of other keys cannot be told from it.

## Key results

- `outputs_eq_of_simulates`: machines that simulate each other answer alike
- `outputs_keyed_filter`: inputs of other keys may be left out of a run
- `keptOutputs_eq`: inputs that change nothing may be left out of a run
-/

namespace Nanortc.ForStd

variable {σ σ' ι ρ : Type*}

/-- The inputs of a run with the answers. -/
def outputs (f : σ → ι → σ × ρ) (s : σ) : List ι → List (ι × ρ)
  | [] => []
  | i :: is => (i, (f s i).2) :: outputs f (f s i).1 is

@[simp] theorem outputs_cons (f : σ → ι → σ × ρ) (s : σ) (i : ι) (is : List ι) :
    outputs f s (i :: is) = (i, (f s i).2) :: outputs f (f s i).1 is := rfl

/-- Steps on related states that answer alike and stay related answer alike along a run. `A` names
the inputs the steps are compared on. -/
theorem outputs_eq_of_simulates {f : σ → ι → σ × ρ} {g : σ' → ι → σ' × ρ} {R : σ → σ' → Prop}
    {A : ι → Prop}
    (hstep : ∀ s t i, A i → R s t → R (f s i).1 (g t i).1 ∧ (f s i).2 = (g t i).2)
    {s : σ} {t : σ'} (h : R s t) (is : List ι) (hA : ∀ i ∈ is, A i) :
    outputs f s is = outputs g t is := by
  induction is generalizing s t with
  | nil => rfl
  | cons i is ih =>
    obtain ⟨hnext, hanswer⟩ := hstep s t i (hA i List.mem_cons_self) h
    rw [outputs_cons, outputs_cons, hanswer, ih hnext fun j hj => hA j (List.mem_cons_of_mem i hj)]

/-! ### Inputs left out -/

/-- The answers of a run at the inputs that are marked. -/
def keptOutputs (f : σ → ι → σ × ρ) (s : σ) : List (ι × Bool) → List (ι × ρ)
  | [] => []
  | (i, true) :: is => (i, (f s i).2) :: keptOutputs f (f s i).1 is
  | (i, false) :: is => keptOutputs f (f s i).1 is

/-- Every input of the run that is not marked satisfies `E` in the state it is taken in. -/
def DroppedAll (f : σ → ι → σ × ρ) (E : σ → ι → Prop) (s : σ) : List (ι × Bool) → Prop
  | [] => True
  | (i, true) :: is => DroppedAll f E (f s i).1 is
  | (i, false) :: is => E s i ∧ DroppedAll f E (f s i).1 is

/-- The inputs that are marked. -/
def keptInputs (is : List (ι × Bool)) : List ι := (is.filter (·.2)).map (·.1)

/-- Leaving out inputs that change nothing leaves the other answers alone. -/
theorem keptOutputs_eq {f : σ → ι → σ × ρ} {E : σ → ι → Prop} (hE : ∀ s i, E s i → (f s i).1 = s)
    {s : σ} {is : List (ι × Bool)} (h : DroppedAll f E s is) :
    keptOutputs f s is = outputs f s (keptInputs is) := by
  induction is generalizing s with
  | nil => rfl
  | cons i is ih =>
    obtain ⟨i, kept⟩ := i
    cases kept with
    | true =>
      unfold keptOutputs
      rw [ih h]
      rfl
    | false =>
      obtain ⟨hi, hrest⟩ := h
      unfold keptOutputs
      rw [hE s i hi] at hrest ⊢
      exact ih hrest

/-- Machines that simulate each other answer alike at the marked inputs, and drop the same ones. -/
theorem keptOutputs_of_simulates {f : σ → ι → σ × ρ} {g : σ' → ι → σ' × ρ} {R : σ → σ' → Prop}
    {A : ι → Prop} {E : σ → ι → Prop} {F : σ' → ι → Prop}
    (hstep : ∀ s t i, A i → R s t → R (f s i).1 (g t i).1 ∧ (f s i).2 = (g t i).2)
    (hdrop : ∀ s t i, A i → R s t → E s i → F t i)
    {s : σ} {t : σ'} (h : R s t) (is : List (ι × Bool)) (hA : ∀ i ∈ is, A i.1)
    (hE : DroppedAll f E s is) :
    keptOutputs f s is = keptOutputs g t is ∧ DroppedAll g F t is := by
  induction is generalizing s t with
  | nil => exact ⟨rfl, trivial⟩
  | cons i is ih =>
    obtain ⟨i, kept⟩ := i
    have hi : A i := hA (i, kept) List.mem_cons_self
    have hrest : ∀ j ∈ is, A j.1 := fun j hj => hA j (List.mem_cons_of_mem _ hj)
    obtain ⟨hnext, hanswer⟩ := hstep s t i hi h
    cases kept with
    | true =>
      obtain ⟨hkept, hdropped⟩ := ih hnext hrest hE
      unfold keptOutputs
      rw [hanswer, hkept]
      exact ⟨rfl, hdropped⟩
    | false =>
      obtain ⟨hi', hE⟩ := hE
      obtain ⟨hkept, hdropped⟩ := ih hnext hrest hE
      exact ⟨hkept, hdrop s t i hi h hi', hdropped⟩

/-! ### Keyed machines -/

variable {κ τ : Type*} [DecidableEq κ]

/-- One step of the machine that holds a component for each key. -/
def keyedStep (key : ι → κ) (step : τ → ι → τ × ρ) (m : κ → τ) (i : ι) : (κ → τ) × ρ :=
  (Function.update m (key i) (step (m (key i)) i).1, (step (m (key i)) i).2)

/-- An input that leaves its component alone changes nothing. -/
theorem keyedStep_fst_of_fixed {key : ι → κ} {step : τ → ι → τ × ρ} {m : κ → τ} {i : ι}
    (h : (step (m (key i)) i).1 = m (key i)) : (keyedStep key step m i).1 = m := by
  unfold keyedStep
  rw [h, Function.update_eq_self]

/-- The inputs of the keys in `K`, picked out by `P`, are answered as if no other input had been
given: the components of the other keys may differ at the start and change in between. -/
theorem outputs_keyed_filter {key : ι → κ} {step : τ → ι → τ × ρ} {P : ι → Bool} {K : κ → Prop}
    {m m' : κ → τ} (hm : ∀ k, K k → m k = m' k) (is : List ι)
    (hin : ∀ i ∈ is, P i = true → K (key i)) (hout : ∀ i ∈ is, P i = false → ¬ K (key i)) :
    (outputs (keyedStep key step) m is).filter (fun o => P o.1) =
      outputs (keyedStep key step) m' (is.filter P) := by
  induction is generalizing m m' with
  | nil => rfl
  | cons i is ih =>
    have hin' : ∀ j ∈ is, P j = true → K (key j) := fun j hj => hin j (List.mem_cons_of_mem i hj)
    have hout' : ∀ j ∈ is, P j = false → ¬ K (key j) :=
      fun j hj => hout j (List.mem_cons_of_mem i hj)
    rw [outputs_cons]
    cases hP : P i with
    | true =>
      -- both machines take the input, on equal components
      have hk := hm _ (hin i List.mem_cons_self hP)
      have hnext : ∀ k, K k → (keyedStep key step m i).1 k = (keyedStep key step m' i).1 k := by
        intro k hK
        unfold keyedStep
        dsimp only
        rw [hk]
        by_cases hki : k = key i
        · rw [hki, Function.update_self, Function.update_self]
        · rw [Function.update_of_ne hki, Function.update_of_ne hki]
          exact hm k hK
      have hanswer : (keyedStep key step m i).2 = (keyedStep key step m' i).2 := by
        unfold keyedStep
        rw [hk]
      rw [List.filter_cons_of_pos (by exact hP), List.filter_cons_of_pos hP, outputs_cons, hanswer,
        ih hnext hin' hout']
    | false =>
      -- only the long run takes the input, at a key outside `K`
      have hnext : ∀ k, K k → (keyedStep key step m i).1 k = m' k := by
        intro k hK
        have hki : k ≠ key i := fun h => hout i List.mem_cons_self hP (h ▸ hK)
        unfold keyedStep
        dsimp only
        rw [Function.update_of_ne hki]
        exact hm k hK
      rw [List.filter_cons_of_neg (by simpa using hP), List.filter_cons_of_neg (by simpa using hP)]
      exact ih hnext hin' hout'

end Nanortc.ForStd
