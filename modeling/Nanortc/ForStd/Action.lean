import Mathlib
/-!
# Actions that may end early

An action of `EStateM ε σ` returns a value or throws, and leaves a state behind either way. `after`
is that state. An action moves along a relation from a state if the relation holds between that
state and the one the action leaves; for a reflexive and transitive relation it is enough to look at
the parts of the action. An equality of projections is such a relation, and so is the implication
that makes a property an invariant.

## Key results

- `MovesAt.bind`: two actions in sequence
- `movesAt_get_bind`, `movesAt_set_bind`, `movesAt_modify_bind`: actions on the state itself
- `MovesAt.forM`: an action for each element of a list
-/

namespace Nanortc.ForStd

universe u

variable {ε σ : Type u} {α β : Type u}

/-- The state an action leaves behind. -/
def after (m : EStateM ε σ α) (s : σ) : σ :=
  match m s with
  | .ok _ s' => s'
  | .error _ s' => s'

theorem after_ok {m : EStateM ε σ α} {s s' : σ} {a : α} (h : m s = .ok a s') : after m s = s' := by
  rw [after, h]

theorem after_error {m : EStateM ε σ α} {s s' : σ} {e : ε} (h : m s = .error e s') :
    after m s = s' := by
  rw [after, h]

/-- From state `s` the action moves along `R`. -/
def MovesAt (R : σ → σ → Prop) (m : EStateM ε σ α) (s : σ) : Prop := R s (after m s)

/-- From every state the action moves along `R`. -/
abbrev Moves (R : σ → σ → Prop) (m : EStateM ε σ α) : Prop := ∀ s, MovesAt R m s

variable {R : σ → σ → Prop} {s s' : σ}

theorem movesAt_of_ok {R : σ → σ → Prop} {m : EStateM ε σ α} {s s' : σ} {a : α}
    (h : m s = .ok a s') : MovesAt R m s ↔ R s s' := by
  unfold MovesAt
  rw [after_ok h]

/-- What an action that returned has moved along. -/
theorem MovesAt.ok {R : σ → σ → Prop} {m : EStateM ε σ α} {s s' : σ} {a : α} (h : MovesAt R m s)
    (hm : m s = .ok a s') : R s s' := (movesAt_of_ok hm).mp h

theorem MovesAt.mono {R Q : σ → σ → Prop} {m : EStateM ε σ α} {s : σ} (h : MovesAt R m s)
    (hR : ∀ s', R s s' → Q s s') : MovesAt Q m s := hR _ h

/-- A continuation after an action that returns. -/
theorem bind_of_ok {m : EStateM ε σ α} {f : α → EStateM ε σ β} {s s' : σ} {a : α}
    (h : m s = .ok a s') : (m >>= f) s = f a s' := by
  show EStateM.bind m f s = f a s'
  unfold EStateM.bind
  rw [h]

theorem after_bind_ok {m : EStateM ε σ α} {f : α → EStateM ε σ β} {s s' : σ} {a : α}
    (h : m s = .ok a s') : after (m >>= f) s = after (f a) s' := by
  unfold after
  rw [bind_of_ok h]

/-- A sequence that returned ran both of its parts. -/
theorem ok_of_bind {m : EStateM ε σ α} {f : α → EStateM ε σ β} {s s' : σ} {b : β}
    (h : (m >>= f) s = .ok b s') : ∃ a t, m s = .ok a t ∧ f a t = .ok b s' := by
  have h : EStateM.bind m f s = .ok b s' := h
  unfold EStateM.bind at h
  cases hm : m s with
  | ok a t =>
    rw [hm] at h
    exact ⟨a, t, rfl, h⟩
  | error e t =>
    rw [hm] at h
    cases h

/-- An action that throws ends the sequence. -/
theorem after_bind_error {m : EStateM ε σ α} {f : α → EStateM ε σ β} {s s' : σ} {e : ε}
    (h : m s = .error e s') : after (m >>= f) s = s' := by
  unfold after
  show (match EStateM.bind m f s with | .ok _ s' => s' | .error _ s' => s') = _
  unfold EStateM.bind
  rw [h]

/-! ### The state -/

theorem movesAt_get_bind {f : σ → EStateM ε σ β} :
    MovesAt R (get >>= f) s ↔ MovesAt R (f s) s := Iff.rfl

theorem movesAt_set : MovesAt R (set s' : EStateM ε σ PUnit) s ↔ R s s' := Iff.rfl

theorem movesAt_modify {f : σ → σ} :
    MovesAt R (modify f : EStateM ε σ PUnit) s ↔ R s (f s) := Iff.rfl

/-! ### Reflexive and transitive relations -/

theorem movesAt_pure [Std.Refl R] (a : α) : MovesAt R (pure a : EStateM ε σ α) s :=
  Std.Refl.refl (r := R) s

theorem movesAt_throw [Std.Refl R] (e : ε) : MovesAt R (throw e : EStateM ε σ α) s :=
  Std.Refl.refl (r := R) s

theorem movesAt_throw_bind [Std.Refl R] (e : ε) (f : α → EStateM ε σ β) :
    MovesAt R ((throw e : EStateM ε σ α) >>= f) s := Std.Refl.refl (r := R) s

/-- Two actions in sequence; the second one starts where the first one returned and moves along a
relation that the first one's absorbs. -/
theorem MovesAt.append {Q : σ → σ → Prop} [Trans R Q R] {m : EStateM ε σ α}
    {f : α → EStateM ε σ β} (hm : MovesAt R m s)
    (hf : ∀ a s', m s = .ok a s' → MovesAt Q (f a) s') : MovesAt R (m >>= f) s := by
  unfold MovesAt after at *
  show R s (match EStateM.bind m f s with | .ok _ s' => s' | .error _ s' => s')
  unfold EStateM.bind
  cases hms : m s with
  | ok a s' =>
    rw [hms] at hm
    exact Trans.trans (show R s s' from hm) (hf a s' hms)
  | error e s' =>
    rw [hms] at hm
    exact hm

/-- Two actions in sequence. -/
theorem MovesAt.bind [Trans R R R] {m : EStateM ε σ α} {f : α → EStateM ε σ β}
    (hm : MovesAt R m s) (hf : ∀ a s', m s = .ok a s' → MovesAt R (f a) s') :
    MovesAt R (m >>= f) s := hm.append hf

/-- Two actions in sequence, each of which moves from every state. -/
theorem Moves.bind [Trans R R R] {m : EStateM ε σ α} {f : α → EStateM ε σ β} (hm : Moves R m)
    (hf : ∀ a, Moves R (f a)) : Moves R (m >>= f) :=
  fun s => (hm s).bind fun a s' _ => hf a s'

theorem movesAt_set_bind [Trans R R R] {f : PUnit → EStateM ε σ β} (h : R s s')
    (hf : MovesAt R (f ⟨⟩) s') : MovesAt R ((set s' : EStateM ε σ PUnit) >>= f) s :=
  MovesAt.bind (movesAt_set.mpr h) fun _ _ heq => by
    cases heq
    exact hf

theorem movesAt_modify_bind [Trans R R R] {g : σ → σ} {f : PUnit → EStateM ε σ β} (h : R s (g s))
    (hf : MovesAt R (f ⟨⟩) (g s)) : MovesAt R ((modify g : EStateM ε σ PUnit) >>= f) s :=
  MovesAt.bind (movesAt_modify.mpr h) fun _ _ heq => by
    cases heq
    exact hf

/-- A branch. -/
theorem MovesAt.ite {c : Prop} [Decidable c] {m n : EStateM ε σ α} (hm : c → MovesAt R m s)
    (hn : ¬ c → MovesAt R n s) : MovesAt R (if c then m else n) s := by
  by_cases h : c
  · rw [if_pos h]
    exact hm h
  · rw [if_neg h]
    exact hn h

/-- A branch without an alternative. -/
theorem MovesAt.ite_pure [Std.Refl R] {c : Prop} [Decidable c] {m : EStateM ε σ PUnit}
    (hm : c → MovesAt R m s) : MovesAt R (if c then m else pure ⟨⟩) s :=
  MovesAt.ite hm fun _ => movesAt_pure _

/-- An action for each element of a list. -/
theorem Moves.forM [Std.Refl R] [Trans R R R] {ι : Type u} {f : ι → EStateM ε σ PUnit}
    (hf : ∀ i, Moves R (f i)) : ∀ is : List ι, Moves R (is.forM f)
  | [] => fun _ => movesAt_pure _
  | i :: is => (hf i).bind fun _ => Moves.forM hf is

/-! ### Projections and invariants -/

/-- The projection has one value at both states. -/
def Same {τ : Type u} (v : σ → τ) (s s' : σ) : Prop := v s' = v s

instance {τ : Type u} (v : σ → τ) : Std.Refl (Same v) := ⟨fun _ => rfl⟩

instance {τ : Type u} (v : σ → τ) : Trans (Same v) (Same v) (Same v) :=
  ⟨fun h h' => h'.trans h⟩

/-- The property survives. -/
def Keeps (I : σ → Prop) (s s' : σ) : Prop := I s → I s'

instance (I : σ → Prop) : Std.Refl (Keeps I) := ⟨fun _ => id⟩

instance (I : σ → Prop) : Trans (Keeps I) (Keeps I) (Keeps I) := ⟨fun h h' => h' ∘ h⟩

end Nanortc.ForStd
