import Mathlib

/-!
# Runs of consecutive numbers

Ascending numbers gathered into blocks of consecutive ones, as many as there is room for.

## Key results

- `gatherRuns_sound`: the blocks are apart, and hold the numbers before which fewer runs begin than
  there is room for
-/

namespace Nanortc.ForStd

/-- The blocks, newest first, with one more number. -/
def addToRuns (n : Nat) : List (Nat × Nat) → List (Nat × Nat)
  | [] => [(n, n)]
  | (start, stop) :: rest =>
    if n = stop + 1 then (start, n) :: rest else (n, n) :: (start, stop) :: rest

/-- Numbers gathered into blocks of consecutive ones, newest block first; no number is taken once
there are `cap` blocks. -/
def gatherRuns (cap : Nat) : List Nat → List (Nat × Nat) → List (Nat × Nat)
  | [], blocks => blocks
  | n :: ns, blocks =>
    if blocks.length ≥ cap then blocks else gatherRuns cap ns (addToRuns n blocks)

theorem addToRuns_cons (n start stop : Nat) (rest : List (Nat × Nat)) :
    addToRuns n ((start, stop) :: rest) =
      if n = stop + 1 then (start, n) :: rest else (n, n) :: (start, stop) :: rest := rfl

/-- The number begins a run. -/
def beginsRun (ns : List Nat) (n : Nat) : Bool := !ns.contains (n - 1)

/-- How many runs begin before a number. -/
def runsBefore (ns : List Nat) (n : Nat) : Nat :=
  (ns.filter fun m => decide (m < n) && beginsRun ns m).length

/-- The blocks, newest first, hold the numbers `ns`. -/
structure Gathered (ns : List Nat) (blocks : List (Nat × Nat)) : Prop where
  apart : blocks.Pairwise fun newer older => older.2 + 1 < newer.1
  filled : ∀ b ∈ blocks, b.1 ≤ b.2
  mem : ∀ n, (∃ b ∈ blocks, b.1 ≤ n ∧ n ≤ b.2) ↔ n ∈ ns
  last : ∀ b ∈ blocks.head?, ∀ n ∈ ns, n ≤ b.2
  count : blocks.length = (ns.filter (beginsRun ns)).length

theorem gathered_nil : Gathered [] [] :=
  ⟨.nil, nofun, fun _ => by simp, nofun, rfl⟩

/-- Whether a run begins at a number does not depend on numbers from it on. -/
theorem beginsRun_append {ns ms : List Nat} {n : Nat} (hn : 1 ≤ n) (hms : ∀ m ∈ ms, n ≤ m) :
    beginsRun (ns ++ ms) n = beginsRun ns n := by
  unfold beginsRun
  congr 1
  rw [Bool.eq_iff_iff, List.contains_iff_mem, List.contains_iff_mem, List.mem_append]
  refine ⟨fun h => h.resolve_right fun hmem => ?_, .inl⟩
  have := hms _ hmem
  omega

/-- The runs that begin in a list with one more number at its end. -/
theorem filter_beginsRun_snoc {ns : List Nat} {n : Nat} (hpos : ∀ m ∈ ns, 1 ≤ m)
    (hlt : ∀ m ∈ ns, m < n) (hn : 1 ≤ n) :
    ((ns ++ [n]).filter (beginsRun (ns ++ [n]))).length =
      (ns.filter (beginsRun ns)).length + if n - 1 ∈ ns then 0 else 1 := by
  rw [List.filter_append, List.length_append]
  have hold : ns.filter (beginsRun (ns ++ [n])) = ns.filter (beginsRun ns) := by
    apply List.filter_congr
    intro m hm
    refine beginsRun_append (hpos m hm) fun k hk => ?_
    rw [List.mem_singleton.mp hk]
    exact Nat.le_of_lt (hlt m hm)
  have hnew : beginsRun (ns ++ [n]) n = !decide (n - 1 ∈ ns) := by
    rw [beginsRun_append hn fun k hk => Nat.le_of_eq (List.mem_singleton.mp hk).symm]
    unfold beginsRun
    congr 1
    rw [Bool.eq_iff_iff, List.contains_iff_mem, decide_eq_true_eq]
  rw [hold]
  congr 1
  by_cases hmem : n - 1 ∈ ns
  · rw [if_pos hmem, List.filter_cons_of_neg (by simp [hnew, hmem])]
    rfl
  · rw [if_neg hmem, List.filter_cons_of_pos (by simp [hnew, hmem])]
    rfl

/-- **One more number**, behind all that are gathered. -/
theorem Gathered.snoc {ns : List Nat} {blocks : List (Nat × Nat)} (h : Gathered ns blocks) {n : Nat}
    (hpos : ∀ m ∈ ns, 1 ≤ m) (hlt : ∀ m ∈ ns, m < n) (hn : 1 ≤ n) :
    Gathered (ns ++ [n]) (addToRuns n blocks) := by
  have hcount := filter_beginsRun_snoc hpos hlt hn
  have hmem (m : Nat) : m ∈ ns ++ [n] ↔ m ∈ ns ∨ m = n := by
    rw [List.mem_append, List.mem_singleton]
  cases blocks with
  | nil =>
    have hnone : ns = [] := by
      apply List.eq_nil_iff_forall_not_mem.mpr
      intro m hm
      obtain ⟨b, hb, -⟩ := (h.mem m).mpr hm
      nomatch hb
    subst hnone
    refine ⟨List.pairwise_singleton _ _, ?_, fun m => ?_, ?_, hcount.symm⟩
    · intro b hb
      obtain rfl := List.mem_singleton.mp hb
      exact Nat.le_refl n
    · rw [hmem]
      constructor
      · rintro ⟨b, hb, hlo, hhi⟩
        rw [List.mem_singleton.mp hb] at hlo hhi
        exact .inr (Nat.le_antisymm hhi hlo)
      · intro hm
        have hm := hm.resolve_left List.not_mem_nil
        exact ⟨(n, n), List.mem_singleton.mpr rfl, Nat.le_of_eq hm.symm, Nat.le_of_eq hm⟩
    · intro b hb m hm
      cases hb
      exact Nat.le_of_eq (((hmem m).mp hm).resolve_left List.not_mem_nil)
  | cons b rest =>
    obtain ⟨start, stop⟩ := b
    have hfilled : start ≤ stop := h.filled _ List.mem_cons_self
    have hstop : stop ∈ ns := (h.mem stop).mp ⟨_, List.mem_cons_self, hfilled, Nat.le_refl _⟩
    have hstop' := hlt stop hstop
    have hlast := h.last _ rfl
    obtain ⟨hfirst, hrest⟩ := List.pairwise_cons.mp h.apart
    rw [addToRuns_cons]
    split
    · -- the newest block grows
      rename_i heq
      rw [if_pos (by rw [heq, Nat.add_sub_cancel]; exact hstop), Nat.add_zero] at hcount
      refine ⟨List.pairwise_cons.mpr ⟨hfirst, hrest⟩, ?_, fun m => ?_, ?_, ?_⟩
      · intro b hb
        cases List.mem_cons.mp hb with
        | inl heq => subst heq; show start ≤ n; omega
        | inr hb => exact h.filled b (List.mem_cons_of_mem _ hb)
      · rw [hmem, ← h.mem m]
        constructor
        · rintro ⟨b, hb, hlo, hhi⟩
          cases List.mem_cons.mp hb with
          | inl hb =>
            subst hb
            by_cases hm : m = n
            · exact .inr hm
            · refine .inl ⟨_, List.mem_cons_self, hlo, ?_⟩
              have hhi : m ≤ n := hhi
              show m ≤ stop
              omega
          | inr hb => exact .inl ⟨b, List.mem_cons_of_mem _ hb, hlo, hhi⟩
        · rintro (⟨b, hb, hlo, hhi⟩ | rfl)
          · cases List.mem_cons.mp hb with
            | inl hb =>
              subst hb
              refine ⟨_, List.mem_cons_self, hlo, ?_⟩
              have hhi : m ≤ stop := hhi
              show m ≤ n
              omega
            | inr hb => exact ⟨b, List.mem_cons_of_mem _ hb, hlo, hhi⟩
          · refine ⟨_, List.mem_cons_self, ?_, Nat.le_refl _⟩
            show start ≤ m
            omega
      · intro b hb m hm
        cases hb
        show m ≤ n
        cases (hmem m).mp hm with
        | inl hm => exact Nat.le_of_lt (hlt m hm)
        | inr hm => exact Nat.le_of_eq hm
      · rw [hcount, ← h.count]
        rfl
    · -- a new block begins
      rename_i hne
      have hfree : n - 1 ∉ ns := by
        intro hmem
        have := hlast _ hmem
        omega
      rw [if_neg hfree] at hcount
      refine ⟨List.pairwise_cons.mpr ⟨?_, h.apart⟩, ?_, fun m => ?_, ?_, ?_⟩
      · intro b hb
        show b.2 + 1 < n
        cases List.mem_cons.mp hb with
        | inl heq => subst heq; show stop + 1 < n; omega
        | inr hb =>
          have : b.2 + 1 < start := hfirst b hb
          omega
      · intro b hb
        cases List.mem_cons.mp hb with
        | inl heq => subst heq; exact Nat.le_refl _
        | inr hb => exact h.filled b hb
      · rw [hmem, ← h.mem m]
        constructor
        · rintro ⟨b, hb, hlo, hhi⟩
          cases List.mem_cons.mp hb with
          | inl hb => subst hb; exact .inr (Nat.le_antisymm hhi hlo)
          | inr hb => exact .inl ⟨b, hb, hlo, hhi⟩
        · rintro (⟨b, hb, hlo, hhi⟩ | rfl)
          · exact ⟨b, List.mem_cons_of_mem _ hb, hlo, hhi⟩
          · exact ⟨_, List.mem_cons_self, Nat.le_refl _, Nat.le_refl _⟩
      · intro b hb m hm
        cases hb
        show m ≤ n
        cases (hmem m).mp hm with
        | inl hm => exact Nat.le_of_lt (hlt m hm)
        | inr hm => exact Nat.le_of_eq hm
      · rw [hcount, ← h.count]
        rfl

/-- The runs that begin before a number are those of the numbers before it. -/
theorem runsBefore_split {ns ms : List Nat} {n : Nat} (hpos : ∀ m ∈ ns, 1 ≤ m)
    (hlt : ∀ m ∈ ns, m < n) (hge : ∀ m ∈ ms, n ≤ m) :
    runsBefore (ns ++ ms) n = (ns.filter (beginsRun ns)).length := by
  unfold runsBefore
  rw [List.filter_append, List.length_append]
  have hbefore : ns.filter (fun m => decide (m < n) && beginsRun (ns ++ ms) m) =
      ns.filter (beginsRun ns) := by
    apply List.filter_congr
    intro m hm
    rw [decide_eq_true (hlt m hm), Bool.true_and]
    exact beginsRun_append (hpos m hm) fun k hk =>
      Nat.le_of_lt (Nat.lt_of_lt_of_le (hlt m hm) (hge k hk))
  have hafter : ms.filter (fun m => decide (m < n) && beginsRun (ns ++ ms) m) = [] := by
    apply List.filter_eq_nil_iff.mpr
    intro m hm
    rw [decide_eq_false (Nat.not_lt.mpr (hge m hm)), Bool.false_and]
    nofun
  rw [hbefore, hafter, List.length_nil, Nat.add_zero]

theorem runsBefore_mono (ns : List Nat) {m n : Nat} (h : m ≤ n) :
    runsBefore ns m ≤ runsBefore ns n := by
  unfold runsBefore
  apply List.Sublist.length_le
  apply List.monotone_filter_right
  intro k hk
  simp only [Bool.and_eq_true, decide_eq_true_eq] at hk ⊢
  exact ⟨Nat.lt_of_lt_of_le hk.1 h, hk.2⟩

/-- The order of the numbers does not matter. -/
theorem runsBefore_perm {ns ms : List Nat} (h : ns.Perm ms) (n : Nat) :
    runsBefore ns n = runsBefore ms n := by
  unfold runsBefore
  have hbegins : beginsRun ns = beginsRun ms := by
    funext m
    unfold beginsRun
    congr 1
    rw [Bool.eq_iff_iff, List.contains_iff_mem, List.contains_iff_mem, h.mem_iff]
  rw [hbegins]
  exact (h.filter _).length_eq

/-- **The blocks that ascending numbers are gathered into** are apart, and hold the numbers before
which fewer than `cap` runs begin. -/
theorem gatherRuns_sound {cap : Nat} {ns : List Nat} (hsorted : ns.Pairwise (· < ·))
    (hpos : ∀ n ∈ ns, 1 ≤ n) :
    (gatherRuns cap ns []).Pairwise (fun newer older => older.2 + 1 < newer.1) ∧
      (∀ b ∈ gatherRuns cap ns [], b.1 ≤ b.2) ∧
      (gatherRuns cap ns []).length ≤ cap ∧
      ∀ n, (∃ b ∈ gatherRuns cap ns [], b.1 ≤ n ∧ n ≤ b.2) ↔ n ∈ ns ∧ runsBefore ns n < cap := by
  -- `done` is what is gathered already
  have hloop (rest done : List Nat) (blocks : List (Nat × Nat)) (hsplit : ns = done ++ rest)
      (hgathered : Gathered done blocks) (hlen : blocks.length ≤ cap)
      (hdone : ∀ n ∈ done, runsBefore ns n < cap) :
      (gatherRuns cap rest blocks).Pairwise (fun newer older => older.2 + 1 < newer.1) ∧
        (∀ b ∈ gatherRuns cap rest blocks, b.1 ≤ b.2) ∧
        (gatherRuns cap rest blocks).length ≤ cap ∧
        ∀ n, (∃ b ∈ gatherRuns cap rest blocks, b.1 ≤ n ∧ n ≤ b.2) ↔
          n ∈ ns ∧ runsBefore ns n < cap := by
    induction rest generalizing done blocks with
    | nil =>
      rw [List.append_nil] at hsplit
      subst hsplit
      refine ⟨hgathered.apart, hgathered.filled, hlen, fun n => ?_⟩
      rw [gatherRuns, hgathered.mem]
      exact ⟨fun hn => ⟨hn, hdone n hn⟩, fun hn => hn.1⟩
    | cons n rest ih =>
      have hsorted' := hsorted
      rw [hsplit, List.pairwise_append] at hsorted'
      have hdonePos (m : Nat) (hm : m ∈ done) : 1 ≤ m :=
        hpos m (by rw [hsplit]; exact List.mem_append_left _ hm)
      have hlt (m : Nat) (hm : m ∈ done) : m < n := hsorted'.2.2 m hm n List.mem_cons_self
      have hge (m : Nat) (hm : m ∈ n :: rest) : n ≤ m := by
        cases List.mem_cons.mp hm with
        | inl heq => exact Nat.le_of_eq heq.symm
        | inr hm => exact Nat.le_of_lt ((List.pairwise_cons.mp hsorted'.2.1).1 m hm)
      have hbefore : runsBefore ns n = blocks.length := by
        rw [hsplit, runsBefore_split hdonePos hlt hge, hgathered.count]
      rw [show gatherRuns cap (n :: rest) blocks = if blocks.length ≥ cap then blocks
        else gatherRuns cap rest (addToRuns n blocks) from rfl]
      split
      · -- no room: every number left has as many runs before it
        rename_i hfull
        refine ⟨hgathered.apart, hgathered.filled, hlen, fun m => ?_⟩
        rw [hgathered.mem]
        refine ⟨fun hm => ⟨by rw [hsplit]; exact List.mem_append_left _ hm, hdone m hm⟩, ?_⟩
        rintro ⟨hm, hfew⟩
        rw [hsplit] at hm
        refine (List.mem_append.mp hm).resolve_right fun hm => ?_
        have := runsBefore_mono ns (hge m hm)
        omega
      · rename_i hroom
        refine ih (done ++ [n]) _ (by rw [hsplit, List.append_assoc]; rfl)
          (hgathered.snoc hdonePos hlt (hpos n (by rw [hsplit]; simp))) ?_ fun m hm => ?_
        · cases blocks with
          | nil =>
            show 1 ≤ cap
            have : ¬(0 ≥ cap) := hroom
            omega
          | cons b blocks =>
            obtain ⟨start, stop⟩ := b
            have hroom : ¬(blocks.length + 1 ≥ cap) := hroom
            rw [addToRuns_cons]
            split
            · exact hlen
            · show blocks.length + 1 + 1 ≤ cap
              omega
        · cases List.mem_append.mp hm with
          | inl hm => exact hdone m hm
          | inr hm =>
            rw [List.mem_singleton.mp hm, hbefore]
            omega
  exact hloop ns [] [] rfl gathered_nil (Nat.zero_le cap) nofun

end Nanortc.ForStd
