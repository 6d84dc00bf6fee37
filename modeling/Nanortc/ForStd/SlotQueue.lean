import Mathlib

/-!
# A queue kept in unordered slots

A table of slots of which some are queued, each with its place in the queue. `InLine` says that the
places of the `k` queued slots are `0, …, k - 1`. A slot that joins goes behind the others, one that
leaves lets those behind it move up.

## Key results

- `perm_range_iff`: distinct numbers below the length of their list are its range in some order
- `InLine.keep`, `InLine.join`, `InLine.leave`: what keeps the slots in line
-/

namespace Nanortc.ForStd

/-! ### Places -/

theorem perm_range_iff {l : List Nat} :
    l.Perm (List.range l.length) ↔ l.Nodup ∧ ∀ x ∈ l, x < l.length := by
  constructor
  · intro h
    exact ⟨h.nodup_iff.mpr List.nodup_range, fun x hx => List.mem_range.mp (h.mem_iff.mp hx)⟩
  · rintro ⟨hnodup, hlt⟩
    have hsub : l.Subperm (List.range l.length) :=
      hnodup.subperm fun x hx => List.mem_range.mpr (hlt x hx)
    exact hsub.perm_of_length_le (Nat.le_of_eq List.length_range)

/-- A place once the one at `m` is free. -/
def moveUp (m x : Nat) : Nat := if m < x then x - 1 else x

/-- The places behind a free one move up. -/
theorem perm_range_moveUp {m : Nat} {r : List Nat}
    (h : (m :: r).Perm (List.range (m :: r).length)) :
    (r.map (moveUp m)).Perm (List.range (r.map (moveUp m)).length) := by
  rw [perm_range_iff] at h ⊢
  obtain ⟨hnodup, hlt⟩ := h
  obtain ⟨hm, hr⟩ := List.nodup_cons.mp hnodup
  have hmlt : m < r.length + 1 := hlt m List.mem_cons_self
  have hne (x : Nat) (hx : x ∈ r) : x ≠ m := fun heq => hm (heq ▸ hx)
  rw [List.length_map]
  constructor
  · refine hr.map_on fun x hx y hy heq => ?_
    have := hne x hx
    have := hne y hy
    unfold moveUp at heq
    split at heq <;> split at heq <;> omega
  · intro y hy
    obtain ⟨x, hx, rfl⟩ := List.mem_map.mp hy
    have hxlt : x < r.length + 1 := hlt x (List.mem_cons_of_mem m hx)
    have := hne x hx
    unfold moveUp
    split <;> omega

/-! ### Slots -/

variable {α : Type*} (queued : α → Bool) (pos : α → Nat)

/-- The places of the queued slots. -/
def places (l : List α) : List Nat := (l.filter queued).map pos

/-- The queued slots have the places from 0 on, each once. -/
def InLine (l : List α) : Prop :=
  (places queued pos l).Perm (List.range (places queued pos l).length)

variable {queued pos} {l l' : List α}

theorem length_places (queued : α → Bool) (pos : α → Nat) (l : List α) :
    (places queued pos l).length = (l.filter queued).length := List.length_map _

theorem places_perm (queued : α → Bool) (pos : α → Nat) (h : l.Perm l') :
    (places queued pos l).Perm (places queued pos l') :=
  (h.filter queued).map pos

theorem inLine_of_perm (h : (places queued pos l).Perm (places queued pos l'))
    (hl : InLine queued pos l') : InLine queued pos l := by
  have hl : (places queued pos l').Perm (List.range (places queued pos l').length) := hl
  show (places queued pos l).Perm (List.range (places queued pos l).length)
  rw [h.length_eq]
  exact h.trans hl

theorem places_cons_of_queued {a : α} (h : queued a = true) :
    places queued pos (a :: l) = pos a :: places queued pos l := by
  simp [places, h]

theorem places_cons_of_idle {a : α} (h : queued a = false) :
    places queued pos (a :: l) = places queued pos l := by
  simp [places, h]

/-- No slot is queued. -/
theorem inLine_idle (h : ∀ a ∈ l, queued a = false) : InLine queued pos l := by
  have hnone : places queued pos l = [] := by
    unfold places
    rw [List.filter_eq_nil_iff.mpr fun a ha => by rw [h a ha]; exact nofun]
    rfl
  unfold InLine
  rw [hnone]
  exact .nil

section

variable {i : Nat} (hi : i < l.length) {a : α}

include hi

/-- A slot is written over, in the queue at the same place or outside it. -/
theorem InLine.keep (h : InLine queued pos l) (hqueued : queued a = queued l[i])
    (hpos : queued a = true → pos a = pos l[i]) : InLine queued pos (l.set i a) := by
  have hset := places_perm queued pos (List.set_perm_cons_eraseIdx hi a)
  have hold := places_perm queued pos (List.getElem_cons_eraseIdx_perm hi)
  refine inLine_of_perm (hset.trans (.trans ?_ hold)) h
  cases ha : queued a with
  | false => rw [places_cons_of_idle ha, places_cons_of_idle (hqueued ▸ ha)]
  | true =>
    rw [places_cons_of_queued ha, places_cons_of_queued (hqueued ▸ ha), hpos ha]

/-- An idle slot joins the queue behind all others. -/
theorem InLine.join (h : InLine queued pos l) (hidle : queued l[i] = false)
    (ha : queued a = true) (hpos : pos a = (l.filter queued).length) :
    InLine queued pos (l.set i a) := by
  have hset := places_perm queued pos (List.set_perm_cons_eraseIdx hi a)
  have hold := places_perm queued pos (List.getElem_cons_eraseIdx_perm hi)
  rw [places_cons_of_idle hidle] at hold
  have hlen : pos a = (places queued pos (l.eraseIdx i)).length := by
    rw [hpos, hold.length_eq, length_places]
  have h : (places queued pos l).Perm (List.range (places queued pos l).length) := h
  refine inLine_of_perm hset ?_
  show (places queued pos (a :: l.eraseIdx i)).Perm _
  rw [places_cons_of_queued ha, List.length_cons, List.range_succ, hlen]
  refine ((hold.trans h).cons _).trans ?_
  rw [hold.length_eq]
  exact (List.perm_append_singleton _ _).symm

/-- A queued slot leaves the queue, and those behind it move up. -/
theorem InLine.leave (h : InLine queued pos l) (hqueued : queued l[i] = true)
    (ha : queued a = false) {f : α → α} (hf : ∀ b, queued (f b) = queued b)
    (hmove : ∀ b, queued b = true → pos (f b) = moveUp (pos l[i]) (pos b)) :
    InLine queued pos ((l.map f).set i a) := by
  have hi' : i < (l.map f).length := by rwa [List.length_map]
  have hset := places_perm queued pos (List.set_perm_cons_eraseIdx hi' a)
  have hold := places_perm queued pos (List.getElem_cons_eraseIdx_perm hi)
  rw [places_cons_of_queued hqueued] at hold
  have h : (places queued pos l).Perm (List.range (places queued pos l).length) := h
  have hrest : places queued pos ((l.eraseIdx i).map f) =
      (places queued pos (l.eraseIdx i)).map (moveUp (pos l[i])) := by
    unfold places
    rw [List.filter_map, List.map_map, List.map_map]
    have hfilter : (l.eraseIdx i).filter (queued ∘ f) = (l.eraseIdx i).filter queued :=
      List.filter_congr fun b _ => hf b
    rw [hfilter]
    exact List.map_congr_left fun b hb => hmove b (List.of_mem_filter hb)
  rw [places_cons_of_idle ha, List.eraseIdx_map] at hset
  refine inLine_of_perm hset ?_
  unfold InLine
  rw [hrest]
  refine perm_range_moveUp (m := pos l[i]) ?_
  rw [hold.length_eq]
  exact hold.trans h

end

end Nanortc.ForStd
