import Nanortc.Spec.SctpSend

/-!
# What a SACK may acknowledge

A SACK is to acknowledge only what was sent. `nsctp_handle_sack_chunk` marks every entry at or before
the cumulative TSN, sent or not; only its gap blocks are matched with entries in flight. The history
variable knows which entries `nsctp_poll_output` has emitted. A SACK that covers nothing unsent marks
and removes sent entries only; one that does cover something unsent is harmless exactly when there is
nothing for it to do.

## Key results

- `nsctpHandleSackChunk_inert`: a SACK that has nothing to do changes no entry, and only such a one
- `SackSound.iff`: one SACK, in a state that only sound SACKs have led to
- `sack_sound_iff`: over every run, every SACK is sound exactly when every SACK meets the condition
-/

namespace Nanortc.Spec

open Nanortc.ForStd Nanortc.Native

/-! ### What no call but a SACK does -/

/-- The queue entry by entry: fragment and acknowledgement stay, abandonment is final. -/
structure SameSendEntries (s s' : NanoSctp) : Prop where
  length : s'.sendQueue.length = s.sendQueue.length
  entry : ∀ (j : Nat) (e e' : SendEntry), s.sendQueue[j]? = some e → s'.sendQueue[j]? = some e' →
    e'.acked = e.acked ∧ SendEntry.fragment e' = SendEntry.fragment e ∧
      (e.abandoned = true → e'.abandoned = true)

theorem SameSendEntries.of_eq {s s' : NanoSctp} (heq : s'.sendQueue = s.sendQueue) : SameSendEntries s s' where
  length := by rw [heq]
  entry j e e' he he' := by
    rw [heq, he] at he'
    cases he'
    exact ⟨rfl, rfl, id⟩

theorem SameSendEntries.trans {s s' s'' : NanoSctp} (h : SameSendEntries s s') (h' : SameSendEntries s' s'') :
    SameSendEntries s s'' where
  length := h'.length.trans h.length
  entry j e e'' he he'' := by
    have hlt : j < s'.sendQueue.length := by
      rw [h.length]
      exact (List.getElem?_eq_some_iff.mp he).1
    have he' : s'.sendQueue[j]? = some s'.sendQueue[j] := List.getElem?_eq_getElem hlt
    obtain ⟨hacked, hfragment, habandoned⟩ := h.entry j e _ he he'
    obtain ⟨hacked', hfragment', habandoned'⟩ := h'.entry j _ e'' he' he''
    exact ⟨hacked'.trans hacked, hfragment'.trans hfragment, fun h => habandoned' (habandoned h)⟩

/-- Entry for entry, what abandonment leaves. -/
theorem nsctpAbandonParts_entry {q : List SendEntry} {j : Nat} {e e' : SendEntry}
    (he : q[j]? = some e) (he' : (nsctpAbandonParts q)[j]? = some e') :
    e' = e ∨ e' = { e with abandoned := true } := by
  induction q generalizing j with
  | nil => nomatch he
  | cons a q ih =>
    unfold nsctpAbandonParts at he'
    cases j with
    | zero =>
      cases he
      cases he'
      exact .inr rfl
    | succ j =>
      rw [List.getElem?_cons_succ] at he he'
      split at he'
      · rw [he] at he'
        cases he'
        exact .inl rfl
      · exact ih he he'

theorem nsctpAbandonMessage_same (s : NanoSctp) (i : Nat) :
    SameSendEntries s (nsctpAbandonMessage s i) where
  length := by
    have h := congrArg List.length (nsctpAbandonMessage_kept s i)
    rw [List.length_map, List.length_map] at h
    exact h
  entry j e e' he he' := by
    have he' : (s.sendQueue.take (nsctpAbandonFirst s.sendQueue i) ++
        nsctpAbandonParts (s.sendQueue.drop (nsctpAbandonFirst s.sendQueue i)))[j]? = some e' := he'
    generalize nsctpAbandonFirst s.sendQueue i = first at he'
    have hcases : e' = e ∨ e' = { e with abandoned := true } := by
      by_cases hj : j < (s.sendQueue.take first).length
      · rw [List.getElem?_append_left hj] at he'
        rw [List.length_take] at hj
        rw [List.getElem?_take_of_lt (by omega), he] at he'
        cases he'
        exact .inl rfl
      · rw [List.getElem?_append_right (Nat.not_lt.mp hj)] at he'
        refine nsctpAbandonParts_entry ?_ he'
        have hlt := (List.getElem?_eq_some_iff.mp he).1
        rw [List.length_take] at hj ⊢
        rw [List.getElem?_drop, show first + (j - min first s.sendQueue.length) = j by omega]
        exact he
    cases hcases with
    | inl h => subst h; exact ⟨rfl, rfl, id⟩
    | inr h => subst h; exact ⟨rfl, rfl, fun _ => rfl⟩

theorem sameEntries_timer : TimerRule SameSendEntries where
  refl _ := .of_eq rfl
  trans := .trans
  output _ _ := .of_eq rfl
  sack _ := .of_eq rfl
  sent s i inFlight sentAtMs retransmitCount :=
    { length := List.length_set
      entry := fun j e e' he he' => by
        have he' : (s.sendQueue.set i { s.sendQueue.getD i default with
          inFlight := inFlight, sentAtMs := sentAtMs,
          retransmitCount := retransmitCount })[j]? = some e' := he'
        by_cases hij : i = j
        · subst hij
          have hlt := (List.getElem?_eq_some_iff.mp he).1
          rw [List.getElem?_set_self hlt] at he'
          cases he'
          rw [List.getD_eq_getElem?_getD, he]
          exact ⟨rfl, rfl, id⟩
        · rw [List.getElem?_set_ne hij, he] at he'
          cases he'
          exact ⟨rfl, rfl, id⟩ }
  abandon := nsctpAbandonMessage_same
  forward _ _ _ := .of_eq rfl
  clock _ _ := .of_eq rfl
  backoff _ := .of_eq rfl
  fail _ := .of_eq rfl
  heartbeat _ _ _ _ := .of_eq rfl

theorem sameEntries_recv (s : NanoSctp) (recv : SctpRecv) (streams : List SctpStream) :
    SameSendEntries s { s with recv := recv, streams := streams } := .of_eq rfl

/-! ### The flags of the queue -/

/-- The flags delimit messages, and the last message is complete. -/
structure Delimited (q : List SendEntry) : Prop where
  marked : q.IsChain Marked
  ended : ∀ e ∈ q.getLast?, SendEntry.isEnd e = true

theorem Delimited.of_fragments {q q' : List SendEntry} (h : Delimited q)
    (heq : q'.map SendEntry.fragment = q.map SendEntry.fragment) : Delimited q' where
  marked := isChain_of_map_eq (f := SendEntry.fragment) (S := Marked) (fun _ _ => Iff.rfl) heq h.marked
  ended := by
    refine forall_of_map_eq (f := SendEntry.fragment) (Q := fun e => SendEntry.isEnd e = true)
      (fun _ => Iff.rfl) ?_ h.ended
    rw [← List.getLast?_map, ← List.getLast?_map, heq]

theorem Delimited.right {q q' : List SendEntry} (h : Delimited (q ++ q')) : Delimited q' where
  marked := h.marked.right_of_append
  ended e he := by
    refine h.ended e ?_
    rw [List.getLast?_append_of_ne_nil]
    · exact he
    · intro hnil
      rw [hnil] at he
      nomatch he

/-- Between the first fragment found and the entry it was searched for no message begins. -/
theorem nsctpAbandonFirst_inner {q : List SendEntry} {i k : Nat}
    (hlo : nsctpAbandonFirst q i < k) (hhi : k ≤ i) :
    SendEntry.isBegin (q.getD k default) = false := by
  induction i with
  | zero => exact absurd (Nat.lt_of_lt_of_le hlo hhi) (Nat.not_lt_zero _)
  | succ i ih =>
    unfold nsctpAbandonFirst at hlo
    split at hlo
    · omega
    · rename_i hbegin
      by_cases hk : k = i + 1
      · rw [hk]
        exact Bool.eq_false_iff.mpr hbegin
      · exact ih hlo (by omega)

theorem nsctpAbandonFirst_le (q : List SendEntry) (i : Nat) : nsctpAbandonFirst q i ≤ i := by
  induction i with
  | zero => exact Nat.le_refl 0
  | succ i ih =>
    unfold nsctpAbandonFirst
    split
    · exact Nat.le_refl _
    · exact Nat.le_succ_of_le ih

/-- Up to the end of the message every part is abandoned. -/
theorem nsctpAbandonParts_marks {q : List SendEntry} {n : Nat}
    (hopen : ∀ k < n, ∀ e, q[k]? = some e → SendEntry.isEnd e = false) {e' : SendEntry}
    (he' : (nsctpAbandonParts q)[n]? = some e') : e'.abandoned = true := by
  induction n generalizing q with
  | zero =>
    cases q with
    | nil => cases he'
    | cons a q =>
      unfold nsctpAbandonParts at he'
      cases he'
      rfl
  | succ n ih =>
    cases q with
    | nil => cases he'
    | cons a q =>
      have ha : SendEntry.isEnd a = false := hopen 0 (Nat.zero_lt_succ n) a rfl
      unfold nsctpAbandonParts at he'
      rw [List.getElem?_cons_succ, if_neg (by rw [show hasFlag a.flags sctpDataFlagEnd = false from ha]; decide)] at he'
      exact ih (fun k hk e he => hopen (k + 1) (Nat.succ_lt_succ hk) e he) he'

/-- **The entry that a message is abandoned for is abandoned.** -/
theorem nsctpAbandonMessage_marks {s : NanoSctp} {i : Nat} (hq : s.sendQueue.IsChain Marked)
    {e' : SendEntry} (he' : (nsctpAbandonMessage s i).sendQueue[i]? = some e') :
    e'.abandoned = true := by
  have hlen : i < s.sendQueue.length := by
    rw [← (nsctpAbandonMessage_same s i).length]
    exact (List.getElem?_eq_some_iff.mp he').1
  have hle := nsctpAbandonFirst_le s.sendQueue i
  have hinner (k : Nat) := @nsctpAbandonFirst_inner s.sendQueue i k
  have he' : (s.sendQueue.take (nsctpAbandonFirst s.sendQueue i) ++
      nsctpAbandonParts (s.sendQueue.drop (nsctpAbandonFirst s.sendQueue i)))[i]? = some e' := he'
  generalize nsctpAbandonFirst s.sendQueue i = first at hle hinner he'
  have htake : (s.sendQueue.take first).length = first := by
    rw [List.length_take]
    omega
  rw [List.getElem?_append_right (by omega), htake] at he'
  refine nsctpAbandonParts_marks (fun k hk e he => ?_) he'
  -- an end would be followed by a beginning between the first fragment and the entry
  rw [List.getElem?_drop] at he
  obtain ⟨hk', rfl⟩ := List.getElem?_eq_some_iff.mp he
  have hnext : first + k + 1 < s.sendQueue.length := by omega
  rw [← hq.getElem (first + k) hnext]
  have hbegin := hinner (first + k + 1) (by omega) (by omega)
  rw [List.getD_eq_getElem s.sendQueue default hnext] at hbegin
  exact hbegin

/-! ### A SACK with nothing to do -/

/-- The SACK finds no entry to mark and none to abandon. -/
structure Inert (s : NanoSctp) (chunk : List UInt8) (sack : NsctpSack) : Prop where
  marks : ∀ e ∈ s.sendQueue, e.acked = true ∨ 0 < i32 (e.tsn - sack.cumulativeTsn)
  abandons : ∀ e ∈ s.sendQueue,
    sackAbandons chunk sack (sackHighest s.sendQueue chunk sack) e = false

/-- The messages abandoned by the turns `is` of the loop over the queue. -/
def abandonTurns (lost : SendEntry → Bool) (s : NanoSctp) (is : List Nat) : NanoSctp :=
  is.foldl (fun t i =>
    if lost (t.sendQueue.getD i default) then nsctpAbandonMessage t i else t) s

theorem abandonTurns_same (lost : SendEntry → Bool) (s : NanoSctp) (is : List Nat) :
    SameSendEntries s (abandonTurns lost s is) :=
  sameEntries_timer.abandonLoop s lost is

theorem abandonTurns_none {lost : SendEntry → Bool} {s : NanoSctp} {is : List Nat}
    (his : ∀ i ∈ is, i < s.sendQueue.length) (h : ∀ e ∈ s.sendQueue, lost e = false) :
    abandonTurns lost s is = s := by
  unfold abandonTurns
  induction is with
  | nil => rfl
  | cons i is ih =>
    have hi := his i List.mem_cons_self
    have hmem : s.sendQueue.getD i default ∈ s.sendQueue := by
      rw [List.getD_eq_getElem s.sendQueue default hi]
      exact List.getElem_mem hi
    rw [List.foldl_cons, if_neg (by rw [h _ hmem]; nofun)]
    exact ih fun j hj => his j (List.mem_cons_of_mem i hj)

/-- A turn abandons the entry it finds lost; no later turn takes that back. -/
theorem abandonTurns_marks {lost : SendEntry → Bool} {s : NanoSctp} (hq : Delimited s.sendQueue)
    {is : List Nat} {j : Nat} {e e' : SendEntry} (he : s.sendQueue[j]? = some e)
    (hlost : e.abandoned = true ∨ j ∈ is ∧ lost e = true)
    (he' : (abandonTurns lost s is).sendQueue[j]? = some e') : e'.abandoned = true := by
  induction is generalizing s e with
  | nil =>
    have heq : e = e' := Option.some.inj (he.symm.trans he')
    exact heq ▸ hlost.resolve_right fun h => nomatch h.1
  | cons i is ih =>
    unfold abandonTurns at he'
    rw [List.foldl_cons] at he'
    by_cases hi : lost (s.sendQueue.getD i default) = true
    · rw [if_pos hi] at he'
      have hsame := nsctpAbandonMessage_same s i
      have hkept := nsctpAbandonMessage_kept s i
      obtain ⟨e₁, he₁, hkept₁⟩ := getElem?_of_map_eq hkept he
      refine ih (hq.of_fragments (map_fragment_of_kept hkept)) he₁ ?_ he'
      cases hold : e.abandoned with
      | true => exact .inl ((hsame.entry j e e₁ he he₁).2.2 hold)
      | false =>
        obtain ⟨hj, hle⟩ := hlost.resolve_left (by rw [hold]; nofun)
        cases hnew : e₁.abandoned with
        | true => exact .inl rfl
        | false =>
          -- the turn was for another message, so the entry is as it was
          have heq : e₁ = e := by
            cases e
            cases e₁
            simp only [SendEntry.kept, SendEntry.mk.injEq] at hkept₁ hold hnew ⊢
            simp only [hkept₁, hold, hnew, and_self]
          cases List.mem_cons.mp hj with
          | inl hji =>
            subst hji
            have hmark := nsctpAbandonMessage_marks hq.marked he₁
            rw [hmark] at hnew
            nomatch hnew
          | inr hmem => exact .inr ⟨hmem, heq ▸ hle⟩
    · rw [if_neg hi] at he'
      refine ih hq he (hlost.imp id fun h => ⟨?_, h.2⟩) he'
      cases List.mem_cons.mp h.1 with
      | inl hji =>
        subst hji
        rw [List.getD_eq_getElem?_getD, he] at hi
        exact absurd h.2 hi
      | inr hmem => exact hmem

/-- Nothing is removed where the head is not marked. -/
theorem dropWhile_acked_of_head {q : List SendEntry} (h : ∀ e ∈ q.head?, e.acked = false) :
    q.dropWhile (·.acked) = q := by
  cases q with
  | nil => rfl
  | cons a q => rw [List.dropWhile_cons, if_neg (by rw [h a rfl]; nofun)]

/-- **A SACK changes no entry exactly when it has nothing to do**, as long as the head of the queue
is not marked. -/
theorem nsctpHandleSackChunk_inert {s : NanoSctp} {chunk : List UInt8} {sack : NsctpSack}
    (hsack : nsctpSackOf chunk = some sack) (hq : Delimited s.sendQueue)
    (hhead : ∀ e ∈ s.sendQueue.head?, e.acked = false) :
    (nsctpHandleSackChunk s chunk).1.sendQueue = s.sendQueue ↔ Inert s chunk sack := by
  rw [nsctpHandleSackChunk_eq, hsack]
  dsimp only
  have hturns : nsctpSackAbandon s chunk sack =
    abandonTurns (sackAbandons chunk sack (sackHighest s.sendQueue chunk sack)) s
      (List.range s.sendQueue.length) := rfl
  rw [hturns]
  constructor
  · intro heq
    have hsame := abandonTurns_same (sackAbandons chunk sack (sackHighest s.sendQueue chunk sack)) s
      (List.range s.sendQueue.length)
    have hmarks := fun j e e' => @abandonTurns_marks
      (sackAbandons chunk sack (sackHighest s.sendQueue chunk sack)) s hq
      (List.range s.sendQueue.length) j e e'
    generalize abandonTurns (sackAbandons chunk sack (sackHighest s.sendQueue chunk sack)) s
      (List.range s.sendQueue.length) = t at heq hsame hmarks
    -- nothing was removed, so entry for entry the marked queue is the queue
    have hall : t.sendQueue.map (nsctpSackMark sack) = s.sendQueue := by
      have hlen := congrArg List.length
        (List.takeWhile_append_dropWhile (p := (·.acked)) (l := t.sendQueue.map (nsctpSackMark sack)))
      rw [heq, List.length_append, List.length_map, hsame.length] at hlen
      have hnil : (t.sendQueue.map (nsctpSackMark sack)).takeWhile (·.acked) = [] :=
        List.eq_nil_of_length_eq_zero (by omega)
      rw [← List.takeWhile_append_dropWhile (p := (·.acked)) (l := t.sendQueue.map (nsctpSackMark sack)),
        hnil, heq]
      rfl
    have hentry (e : SendEntry) (he : e ∈ s.sendQueue) :
        ∃ (j : Nat) (e' : SendEntry), s.sendQueue[j]? = some e ∧ t.sendQueue[j]? = some e' ∧ nsctpSackMark sack e' = e := by
      obtain ⟨j, hj⟩ := List.mem_iff_getElem?.mp he
      have hj' := hj
      rw [← hall, List.getElem?_map, Option.map_eq_some_iff] at hj'
      obtain ⟨e', he', heq⟩ := hj'
      exact ⟨j, e', hj, he', heq⟩
    refine ⟨fun e he => ?_, fun e he => ?_⟩
    · obtain ⟨j, e', hj, hj', hmark⟩ := hentry e he
      by_cases hle : i32 (e.tsn - sack.cumulativeTsn) ≤ 0
      · have htsn := congrArg SendEntry.tsn (hsame.entry j e e' hj hj').2.1
        exact .inl (hmark ▸ (nsctpSackMark_acked sack e').mpr (.inr (show i32 (e'.tsn - _) ≤ 0 from (show e'.tsn = e.tsn from htsn) ▸ hle)))
      · exact .inr (Int.not_le.mp hle)
    · obtain ⟨j, e', hj, hj', hmark⟩ := hentry e he
      rw [← Bool.not_eq_true]
      intro hlost
      have hrange : j ∈ List.range s.sendQueue.length :=
        List.mem_range.mpr (List.getElem?_eq_some_iff.mp hj).1
      have habandoned := hmarks j e e' hj (.inr ⟨hrange, hlost⟩) hj'
      have hsame' : e.abandoned = e'.abandoned := by
        rw [← hmark]
        unfold nsctpSackMark
        split <;> rfl
      unfold sackAbandons at hlost
      rw [hsame', habandoned] at hlost
      simp at hlost
  · intro hinert
    rw [abandonTurns_none (fun i hi => List.mem_range.mp hi) hinert.abandons]
    have hmark : s.sendQueue.map (nsctpSackMark sack) = s.sendQueue := by
      conv => rhs; rw [← List.map_id s.sendQueue]
      apply List.map_congr_left
      intro e he
      unfold nsctpSackMark
      split
      · rename_i hle
        have hacked := (hinert.marks e he).resolve_right (Int.not_lt.mpr hle)
        show { e with acked := true } = e
        rw [← hacked]
      · rfl
    rw [hmark]
    exact dropWhile_acked_of_head hhead

/-! ### Soundness of a SACK -/

/-- The SACK acknowledges the TSN. -/
def SackCovers (chunk : List UInt8) (sack : NsctpSack) (tsn : UInt32) : Prop :=
  i32 (tsn - sack.cumulativeTsn) ≤ 0 ∨
    nsctpGapAcked chunk sack.numGapBlocks.toNat (i32 (tsn - sack.cumulativeTsn)) = true

/-- The SACK acknowledges a TSN that was not sent: of a queued entry that was never emitted, or one
that no fragment has been given. `sent` says of each entry whether it was emitted. -/
def SackCoversUnsent (sent : List Bool) (s : NanoSctp) (chunk : List UInt8) (sack : NsctpSack) :
    Prop :=
  (∃ (j : Nat) (e : SendEntry), s.sendQueue[j]? = some e ∧ sent[j]? = some false ∧
    e.abandoned = false ∧ SackCovers chunk sack e.tsn) ∨
  0 ≤ i32 (sack.cumulativeTsn - s.nextTsn) ∨
  ∃ i < sack.numGapBlocks.toNat,
    0 ≤ i32 (sack.cumulativeTsn + UInt32.ofNat (sackGapBlock chunk i).2 - s.nextTsn)

/-- Only entries that were emitted or abandoned are marked or removed, and a SACK that covers
something not sent changes no entry. -/
structure SackSound (sent : List Bool) (s : NanoSctp) (chunk : List UInt8) : Prop where
  kept : ∀ (j : Nat) (e : SendEntry), s.sendQueue[j]? = some e → sent[j]? = some false →
    e.abandoned = false →
    s.sendQueue.length - (nsctpHandleSackChunk s chunk).1.sendQueue.length ≤ j ∧
      ∀ e', (nsctpHandleSackChunk s chunk).1.sendQueue[j -
        (s.sendQueue.length - (nsctpHandleSackChunk s chunk).1.sendQueue.length)]? = some e' →
          e'.acked = e.acked
  early : ∀ sack, nsctpSackOf chunk = some sack → SackCoversUnsent sent s chunk sack →
    (nsctpHandleSackChunk s chunk).1.sendQueue = s.sendQueue

/-- The SACK is refused, covers nothing unsent, or has nothing to do. -/
def SackMeets (sent : List Bool) (s : NanoSctp) (chunk : List UInt8) : Prop :=
  ∀ sack, nsctpSackOf chunk = some sack → SackCoversUnsent sent s chunk sack → Inert s chunk sack

/-- What only sound SACKs lead to: no entry is marked that was neither emitted nor abandoned. -/
def UnsentUnmarked (sent : List Bool) (q : List SendEntry) : Prop :=
  ∀ (j : Nat) (e : SendEntry), q[j]? = some e → sent[j]? = some false → e.abandoned = false →
    e.acked = false

/-- The entry `j` places behind what a SACK removes. -/
theorem nsctpHandleSackChunk_entry {s : NanoSctp} {chunk : List UInt8} {sack : NsctpSack}
    (hsack : nsctpSackOf chunk = some sack) :
    let s' := (nsctpHandleSackChunk s chunk).1
    let k := s.sendQueue.length - s'.sendQueue.length
    s'.sendQueue.length ≤ s.sendQueue.length ∧
      (∀ (j : Nat) (e : SendEntry), s.sendQueue[j]? = some e → j < k →
        e.acked = true ∨ i32 (e.tsn - sack.cumulativeTsn) ≤ 0) ∧
      (∀ (j : Nat) (e' : SendEntry), s'.sendQueue[j]? = some e' →
        ∃ e, s.sendQueue[k + j]? = some e ∧
          (e'.acked = true ↔ e.acked = true ∨ i32 (e.tsn - sack.cumulativeTsn) ≤ 0) ∧
          (e.abandoned = true → e'.abandoned = true)) ∧
      ∀ e ∈ s'.sendQueue.head?, e.acked = false := by
  intro s' k
  have hremoved := nsctpSackRemoved_acked hsack (s := s)
  have hsame := abandonTurns_same (sackAbandons chunk sack (sackHighest s.sendQueue chunk sack)) s
    (List.range s.sendQueue.length)
  have hqueue : s'.sendQueue = ((nsctpSackAbandon s chunk sack).sendQueue.map
      (nsctpSackMark sack)).dropWhile (·.acked) := by
    show (nsctpHandleSackChunk s chunk).1.sendQueue = _
    rw [nsctpHandleSackChunk_eq, hsack]
  change SameSendEntries s (nsctpSackAbandon s chunk sack) at hsame
  generalize nsctpSackAbandon s chunk sack = t at hsame hqueue
  have hlen : (t.sendQueue.map (nsctpSackMark sack)).length = s.sendQueue.length := by
    rw [List.length_map, hsame.length]
  have hdrop := (take_removed (·.acked) (t.sendQueue.map (nsctpSackMark sack))).2
  rw [hlen, ← hqueue] at hdrop
  change (t.sendQueue.map (nsctpSackMark sack)).drop k = s'.sendQueue at hdrop
  refine ⟨?_, fun j e he hj => ?_, fun j e' he' => ?_, fun e he => ?_⟩
  · rw [← hdrop, List.length_drop, hlen]
    exact Nat.sub_le _ _
  · refine hremoved e (List.mem_of_getElem? (i := j) ?_)
    show (s.sendQueue.take k)[j]? = some e
    rw [List.getElem?_take_of_lt hj, he]
  · rw [← hdrop, List.getElem?_drop, List.getElem?_map, Option.map_eq_some_iff] at he'
    obtain ⟨e₁, he₁, rfl⟩ := he'
    have hlt : k + j < s.sendQueue.length := by
      rw [← hsame.length]
      exact (List.getElem?_eq_some_iff.mp he₁).1
    have he : s.sendQueue[k + j]? = some s.sendQueue[k + j] := List.getElem?_eq_getElem hlt
    obtain ⟨hacked, hfragment, habandoned⟩ := hsame.entry _ _ _ he he₁
    have htsn := congrArg SendEntry.tsn hfragment
    refine ⟨_, he, ?_, fun h => ?_⟩
    · rw [nsctpSackMark_acked, hacked, show e₁.tsn = s.sendQueue[k + j].tsn from htsn]
    · unfold nsctpSackMark
      split
      · exact habandoned h
      · exact habandoned h
  · have hhead := List.head?_dropWhile_not (·.acked) (t.sendQueue.map (nsctpSackMark sack))
    rw [← hqueue, show s'.sendQueue.head? = some e from he] at hhead
    exact hhead

/-- **One SACK is sound exactly when it meets the condition**, in a state that sound SACKs have led
to. -/
theorem SackSound.iff {sent : List Bool} {s : NanoSctp} {chunk : List UInt8}
    (hq : Delimited s.sendQueue) (hhead : ∀ e ∈ s.sendQueue.head?, e.acked = false)
    (hunsent : UnsentUnmarked sent s.sendQueue) :
    SackSound sent s chunk ↔ SackMeets sent s chunk := by
  constructor
  · intro h sack hsack hcovers
    exact (nsctpHandleSackChunk_inert hsack hq hhead).mp (h.early sack hsack hcovers)
  · intro h
    refine ⟨fun j e he hsent habandoned => ?_, fun sack hsack hcovers =>
      (nsctpHandleSackChunk_inert hsack hq hhead).mpr (h sack hsack hcovers)⟩
    -- where the queue is as before, so is the entry
    have hsame (heq : (nsctpHandleSackChunk s chunk).1.sendQueue = s.sendQueue) :
        s.sendQueue.length - (nsctpHandleSackChunk s chunk).1.sendQueue.length ≤ j ∧
          ∀ e', (nsctpHandleSackChunk s chunk).1.sendQueue[j -
            (s.sendQueue.length - (nsctpHandleSackChunk s chunk).1.sendQueue.length)]? = some e' →
              e'.acked = e.acked := by
      rw [heq, Nat.sub_self]
      refine ⟨Nat.zero_le j, fun e' he' => ?_⟩
      rw [Nat.sub_zero, he] at he'
      cases he'
      rfl
    cases hsack : nsctpSackOf chunk with
    | none =>
      apply hsame
      rw [nsctpHandleSackChunk_eq, hsack]
    | some sack =>
      by_cases hcovers : SackCoversUnsent sent s chunk sack
      · exact hsame ((nsctpHandleSackChunk_inert hsack hq hhead).mpr (h sack hsack hcovers))
      · have hacked := hunsent j e he hsent habandoned
        have hbehind : ¬i32 (e.tsn - sack.cumulativeTsn) ≤ 0 := fun hle =>
          hcovers (.inl ⟨j, e, he, hsent, habandoned, .inl hle⟩)
        obtain ⟨-, hbefore, hentry, -⟩ := nsctpHandleSackChunk_entry hsack (s := s)
        have hk : s.sendQueue.length - (nsctpHandleSackChunk s chunk).1.sendQueue.length ≤ j := by
          by_contra hlt
          cases hbefore j e he (Nat.not_le.mp hlt) with
          | inl h => rw [hacked] at h; nomatch h
          | inr h => exact hbehind h
        refine ⟨hk, fun e' he' => ?_⟩
        obtain ⟨e₁, he₁, hmark, -⟩ := hentry _ e' he'
        rw [Nat.add_sub_cancel' hk, he] at he₁
        cases he₁
        rw [hacked, Bool.eq_false_iff]
        intro hmarked
        cases hmark.mp hmarked with
        | inl h => rw [hacked] at h; nomatch h
        | inr h => exact hbehind h

/-! ### Every run -/

/-- What is known of a run: which entries of the queue were emitted, whether every SACK was sound,
and whether every SACK met the condition. -/
structure AckLog where
  sent : List Bool := []
  sound : Prop := True
  meets : Prop := True

/-- The entries emitted after a poll: `nsctp_poll_output` puts an entry in flight as it emits it. -/
def sentAfter (sent : List Bool) (q q' : List SendEntry) : List Bool :=
  List.zipWith (· || ·) sent (List.zipWith (fun e e' => !e.inFlight && e'.inFlight) q q')

/-- Emission and the SACKs along a run. -/
def ackHistory : History AckLog where
  chunk g s _ chunk s' :=
    match SctpChunkType.ofType (byteAt chunk 0) with
    | .sack =>
      { sent := g.sent.drop (s.sendQueue.length - s'.sendQueue.length)
        sound := g.sound ∧ SackSound g.sent s chunk
        meets := g.meets ∧ SackMeets g.sent s chunk }
    | _ => g
  call g s i :=
    match i with
    | .pollOutput _ => { g with sent := sentAfter g.sent s.sendQueue (sctpStep s i).sendQueue }
    | .send _ _ _ _ _ =>
      { g with
        sent := g.sent ++
          List.replicate ((sctpStep s i).sendQueue.length - s.sendQueue.length) false }
    | _ => g

/-- What a run keeps. -/
structure AckInv (s : NanoSctp) (g : AckLog) : Prop where
  delimited : Delimited s.sendQueue
  head : ∀ e ∈ s.sendQueue.head?, e.acked = false
  length : g.sent.length = s.sendQueue.length
  agree : g.sound ↔ g.meets
  unsent : g.meets → UnsentUnmarked g.sent s.sendQueue

theorem SameSendEntries.fragments {s s' : NanoSctp} (h : SameSendEntries s s') :
    s'.sendQueue.map SendEntry.fragment = s.sendQueue.map SendEntry.fragment := by
  apply List.ext_getElem
  · rw [List.length_map, List.length_map, h.length]
  · intro j hj hj'
    rw [List.length_map] at hj hj'
    rw [List.getElem_map, List.getElem_map]
    exact (h.entry j _ _ (List.getElem?_eq_getElem hj') (List.getElem?_eq_getElem hj)).2.1

/-- The entry that stood where one stands now. -/
theorem SameSendEntries.before {s s' : NanoSctp} (h : SameSendEntries s s') {j : Nat} {e' : SendEntry}
    (he' : s'.sendQueue[j]? = some e') :
    ∃ e, s.sendQueue[j]? = some e ∧ e'.acked = e.acked ∧
      (e.abandoned = true → e'.abandoned = true) := by
  have hlt : j < s.sendQueue.length := by
    rw [← h.length]
    exact (List.getElem?_eq_some_iff.mp he').1
  have he : s.sendQueue[j]? = some s.sendQueue[j] := List.getElem?_eq_getElem hlt
  have hentry := h.entry j _ e' he he'
  exact ⟨_, he, hentry.1, hentry.2.2⟩

/-- A call that leaves the entries what they are. -/
theorem AckInv.same {s s' : NanoSctp} {g : AckLog} (h : AckInv s g) (hsame : SameSendEntries s s')
    {sent : List Bool} (hlen : sent.length = g.sent.length)
    (hsent : ∀ j : Nat, sent[j]? = some false → g.sent[j]? = some false) :
    AckInv s' { g with sent := sent } where
  delimited := h.delimited.of_fragments hsame.fragments
  head e' he' := by
    rw [List.head?_eq_getElem?] at he'
    obtain ⟨e, he, hacked, -⟩ := hsame.before he'
    rw [hacked]
    exact h.head e (by rw [List.head?_eq_getElem?]; exact he)
  length := by rw [hlen, h.length, hsame.length]
  agree := h.agree
  unsent hmeets j e' he' hfalse habandoned := by
    obtain ⟨e, he, hacked, hmono⟩ := hsame.before he'
    rw [hacked]
    refine h.unsent hmeets j e he (hsent j hfalse) ?_
    rw [Bool.eq_false_iff]
    intro hold
    rw [hmono hold] at habandoned
    nomatch habandoned

theorem AckInv.keeps {s s' : NanoSctp} {g : AckLog} (h : AckInv s g) (hsame : SameSendEntries s s') :
    AckInv s' g := h.same hsame rfl fun _ => id

/-- **A SACK keeps the invariant.** -/
theorem AckInv.sack {s : NanoSctp} {g : AckLog} (h : AckInv s g) (chunk : List UInt8) :
    AckInv (nsctpHandleSackChunk s chunk).1
      { sent := g.sent.drop (s.sendQueue.length - (nsctpHandleSackChunk s chunk).1.sendQueue.length)
        sound := g.sound ∧ SackSound g.sent s chunk
        meets := g.meets ∧ SackMeets g.sent s chunk } := by
  have hagree : g.sound ∧ SackSound g.sent s chunk ↔ g.meets ∧ SackMeets g.sent s chunk := by
    rw [h.agree]
    exact and_congr_right fun hmeets => SackSound.iff h.delimited h.head (h.unsent hmeets)
  have hfragments := nsctpSackRemoved_fragments s chunk
  have hsound (hmeets : g.meets) (hmeet : SackMeets g.sent s chunk) : SackSound g.sent s chunk :=
    (SackSound.iff h.delimited h.head (h.unsent hmeets)).mpr hmeet
  cases hsack : nsctpSackOf chunk with
  | none =>
    have hsame : (nsctpHandleSackChunk s chunk).1 = s := by
      rw [nsctpHandleSackChunk_eq, hsack]
    rw [hsame, Nat.sub_self, List.drop_zero]
    exact ⟨h.delimited, h.head, h.length, hagree, fun hmeets => h.unsent hmeets.1⟩
  | some sack =>
    obtain ⟨hle, -, hentry, hhead⟩ := nsctpHandleSackChunk_entry hsack (s := s)
    refine ⟨?_, hhead, ?_, hagree, fun hmeets j e' he' hfalse habandoned => ?_⟩
    · exact Delimited.right (h.delimited.of_fragments hfragments)
    · show (g.sent.drop _).length = _
      rw [List.length_drop, h.length]
      omega
    · -- an entry that was never emitted is where it was, and unmarked
      obtain ⟨e, he, hmark, hmono⟩ := hentry j e' he'
      have hfalse : g.sent[s.sendQueue.length -
          (nsctpHandleSackChunk s chunk).1.sendQueue.length + j]? = some false := by
        rw [← List.getElem?_drop]
        exact hfalse
      have hold : e.abandoned = false := by
        rw [Bool.eq_false_iff]
        intro hold
        rw [hmono hold] at habandoned
        nomatch habandoned
      obtain ⟨-, hkept⟩ := (hsound hmeets.1 hmeets.2).kept _ e he hfalse hold
      rw [Nat.add_sub_cancel_left] at hkept
      rw [hkept e' he']
      exact h.unsent hmeets.1 _ e he hfalse hold

theorem nsctpHandleChunk_same {s : NanoSctp} (random : Option AssociationSeed) (hdr : NsctpHeader)
    {chunk : List UInt8} (htype : SctpChunkType.ofType (byteAt chunk 0) ≠ .sack) :
    SameSendEntries s (nsctpHandleChunk s random hdr chunk).1 :=
  .of_eq (nsctpHandleChunk_sending s random hdr htype).sendQueue

theorem AckInv.chunk {s : NanoSctp} {g : AckLog} (h : AckInv s g) (random : Option AssociationSeed)
    (hdr : NsctpHeader) (chunk : List UInt8) :
    AckInv (nsctpHandleChunk s random hdr chunk).1
      (ackHistory.chunk g s random chunk (nsctpHandleChunk s random hdr chunk).1) := by
  unfold ackHistory
  dsimp only
  by_cases htype : SctpChunkType.ofType (byteAt chunk 0) = .sack
  · have hhandle : (nsctpHandleChunk s random hdr chunk).1 = (nsctpHandleSackChunk s chunk).1 := by
      unfold nsctpHandleChunk
      rw [htype]
    rw [hhandle, htype]
    exact h.sack chunk
  · split
    · exact absurd ‹_› htype
    · exact h.keeps (nsctpHandleChunk_same random hdr htype)

/-- **A send keeps the invariant**: what it appends waits to be emitted. -/
theorem AckInv.send {s : NanoSctp} {g : AckLog} (h : AckInv s g) (streamId : UInt16) (ppid : UInt32)
    (data : List UInt8) (unordered : Bool) (maxRetransmits : Int) :
    let s' := (nsctpSendOptions s streamId ppid data unordered maxRetransmits).1
    AckInv s' { g with
      sent := g.sent ++ List.replicate (s'.sendQueue.length - s.sendQueue.length) false } := by
  intro s'
  cases nsctpSendOptions_cases s streamId ppid data unordered maxRetransmits with
  | inl hstreams =>
    obtain ⟨streams, heq⟩ := hstreams
    have hqueue : s'.sendQueue = s.sendQueue := by
      show (nsctpSendOptions s streamId ppid data unordered maxRetransmits).1.sendQueue = _
      rw [heq]
    rw [hqueue, Nat.sub_self, List.replicate_zero, List.append_nil]
    exact h.keeps (.of_eq hqueue)
  | inr hsent =>
    obtain ⟨streams, buf, proto, count, hpos, hflags, hpending, -, heq⟩ := hsent
    have hqueue := congrArg NanoSctp.sendQueue heq
    change s'.sendQueue = s.sendQueue ++ _ at hqueue
    have hhead := nsctpFragments_head hflags count count 0 s.nextTsn s.sendBufUsed data.length
    have hchain := nsctpFragments_chain hflags count count 0 s.nextTsn s.sendBufUsed data.length
      (Nat.zero_add count)
    have hlast := nsctpFragments_last hflags count count 0 s.nextTsn s.sendBufUsed data.length
      (Nat.zero_add count)
    have hunmarked : ∀ e ∈ nsctpFragments proto count count 0 s.nextTsn s.sendBufUsed data.length,
        e.acked = false := by
      intro e he
      have hwaits := nsctpFragments_pending proto count count 0 s.nextTsn s.sendBufUsed data.length
        hpending e he
      simp only [SendEntry.isPending, Bool.and_eq_true, Bool.not_eq_true'] at hwaits
      exact hwaits.1.2
    generalize nsctpFragments proto count count 0 s.nextTsn s.sendBufUsed data.length = added
      at hqueue hhead hchain hlast hunmarked
    rw [hqueue, List.length_append, Nat.add_sub_cancel_left]
    constructor
    · rw [hqueue]
      refine ⟨h.delimited.marked.append (hchain.imp fun _ _ h => h.1.mark) fun x hx y hy => ?_,
        fun e he => ?_⟩
      · show SendEntry.isBegin y = SendEntry.isEnd x
        rw [h.delimited.ended x hx, (hhead y hy).2.1]
      · rw [List.getLast?_append] at he
        cases hadded : added.getLast? with
        | none =>
          rw [hadded] at he
          exact h.delimited.ended e he
        | some e₁ =>
          rw [hadded] at he
          have heq : e₁ = e := Option.some.inj he
          exact heq ▸ (hlast e₁ hadded).1
    · intro e he
      rw [hqueue, List.head?_append] at he
      cases hold : s.sendQueue.head? with
      | none =>
        rw [hold] at he
        exact hunmarked e (List.mem_of_mem_head? he)
      | some e₁ =>
        rw [hold] at he
        have heq : e₁ = e := Option.some.inj he
        exact heq ▸ h.head e₁ hold
    · show (g.sent ++ List.replicate added.length false).length = s'.sendQueue.length
      rw [hqueue, List.length_append, List.length_append, List.length_replicate, h.length]
    · exact h.agree
    · intro hmeets j e he hfalse habandoned
      rw [hqueue] at he
      by_cases hj : j < s.sendQueue.length
      · rw [List.getElem?_append_left hj] at he
        have hfalse : (g.sent ++ List.replicate added.length false)[j]? = some false := hfalse
        rw [List.getElem?_append_left (h.length ▸ hj)] at hfalse
        exact h.unsent hmeets j e he hfalse habandoned
      · rw [List.getElem?_append_right (Nat.not_lt.mp hj)] at he
        exact hunmarked e (List.mem_of_getElem? he)

theorem sentAfter_false {sent : List Bool} {q q' : List SendEntry} {j : Nat}
    (h : (sentAfter sent q q')[j]? = some false) : sent[j]? = some false := by
  unfold sentAfter at h
  rw [List.getElem?_zipWith] at h
  split at h
  · rename_i a b ha hb
    have hor : (a || b) = false := Option.some.inj h
    rw [ha, (Bool.or_eq_false_iff.mp hor).1]
  · nomatch h

theorem AckInv.call {s : NanoSctp} {g : AckLog} (h : AckInv s g) (i : SctpInput)
    (hi : ∀ random data, i ≠ .packet random data) :
    AckInv (sctpStep s i) (ackHistory.call g s i) := by
  cases i with
  | packet random data => exact absurd rfl (hi random data)
  | start random =>
    exact h.keeps (.of_eq (nsctpStart_sending s random).sendQueue)
  | pollDelivery => exact h.keeps (nsctpPollDelivery_rule sameEntries_recv s)
  | pollOutput bufLen =>
    have hsame : SameSendEntries s (nsctpPollOutput s bufLen).1 := sameEntries_timer.pollOutput s bufLen
    refine h.same hsame ?_ fun j => sentAfter_false
    show (List.zipWith _ g.sent (List.zipWith _ s.sendQueue (nsctpPollOutput s bufLen).1.sendQueue)).length
      = _
    rw [List.length_zipWith, List.length_zipWith, hsame.length, h.length, Nat.min_self, Nat.min_self]
  | send streamId ppid data unordered maxRetransmits =>
    exact h.send streamId ppid data unordered maxRetransmits
  | timeout nowMs random => exact h.keeps (sameEntries_timer.handleTimeout s nowMs random)

/-- **Acknowledgement only of what was sent.** In every run from a fresh association, every SACK
marks and removes only entries that were emitted or abandoned, and changes nothing if it covers
something not sent, exactly when every SACK that is accepted and covers something not sent has
nothing to do. -/
theorem sack_sound_iff (is : List SctpInput) :
    let w := run (sctpLogStep ackHistory) (nsctpInit, {}) is
    w.2.sound ↔ w.2.meets := by
  have hstart : AckInv nsctpInit {} :=
    ⟨⟨.nil, nofun⟩, nofun, rfl, Iff.rfl, fun _ j e he => nomatch he⟩
  have hstep (w : NanoSctp × AckLog) (i : SctpInput) (hw : AckInv w.1 w.2) :
      AckInv (sctpLogStep ackHistory w i).1 (sctpLogStep ackHistory w i).2 :=
    sctpLogStep_invariant (fun s g random hdr chunk h => h.chunk random hdr chunk)
      (fun s g h => h.keeps (sameEntries_timer.finishPacket s))
      (fun s g i hi h => h.call i hi) w i hw
  exact (run_invariant (P := fun w => AckInv w.1 w.2) hstep (s := (nsctpInit, {})) hstart is).agree

/-- A message that waits to be emitted, and a SACK for it: the message is gone. -/
theorem early_sack_unsound :
    let w := run (sctpLogStep ackHistory) (nsctpInit, {})
      (demoHandshake ++ [.send 1 51 [65, 66, 67] false (-1)])
    ¬SackSound w.2.sent w.1 (demoSackChunk 500) := by
  intro w h
  have hentry : w.1.sendQueue[0]? = some w.1.sendQueue.head! := by decide +kernel
  have hkept := (h.kept 0 _ hentry (by decide +kernel) (by decide +kernel)).1
  have hremoved : w.1.sendQueue.length -
      (nsctpHandleSackChunk w.1 (demoSackChunk 500)).1.sendQueue.length = 1 := by decide +kernel
  omega

end Nanortc.Spec
