import Mathlib

/-!
# Text in byte lists

ASCII literals, decimal numbers, and texts of lines. `lines` cuts a text after every line feed;
`writeLines` ends every line of a list with CR LF. A `LineText` is printable, so a line cannot break
another one off.

## Key results

- `lines_line`: a line is cut off at its line feed
- `lines_flatten`: lines that have their ends are those of the text they make
- `lines_writeLines`: what is written line by line is read line by line
- `headed_section`, `exists_of_headed`: a section in the middle of a list
- `headed_flatMap`: sections in a row are cut where they were joined
-/

namespace Nanortc.ForStd

/-- The bytes of an ASCII literal. -/
def ascii (s : String) : List UInt8 := s.toList.map fun c => UInt8.ofNat c.toNat

/-! ### Lines -/

/-- A text cut after every line feed. -/
def lines : List UInt8 → List (List UInt8)
  | [] => []
  | b :: s =>
    if b = 0x0A then [b] :: lines s
    else
      match lines s with
      | [] => [[b]]
      | l :: ls => (b :: l) :: ls

/-- A line is cut off at its line feed. -/
theorem lines_line {l : List UInt8} (h : ∀ b ∈ l, b ≠ 0x0A) (s : List UInt8) :
    lines (l ++ 0x0A :: s) = (l ++ [0x0A]) :: lines s := by
  induction l with
  | nil =>
    show (if (0x0A : UInt8) = 0x0A then [0x0A] :: lines s else _) = _
    rw [if_pos rfl]
    rfl
  | cons b l ih =>
    have hb : b ≠ 0x0A := h b List.mem_cons_self
    have hl := ih fun c hc => h c (List.mem_cons_of_mem b hc)
    show (if b = 0x0A then _ else match lines (l ++ 0x0A :: s) with
      | [] => [[b]]
      | l :: ls => (b :: l) :: ls) = _
    rw [if_neg hb, hl]
    rfl

/-- The lines of a text are the text. -/
theorem flatten_lines (s : List UInt8) : (lines s).flatten = s := by
  induction s with
  | nil => rfl
  | cons b s ih =>
    unfold lines
    split
    · rw [List.flatten_cons, ih]
      rfl
    · split
      · rename_i hnil
        rw [hnil] at ih
        rw [← ih]
        rfl
      · rename_i hcons
        rw [hcons] at ih
        rw [← ih]
        rfl

/-- A line with its end. -/
def EndedLine (l : List UInt8) : Prop := ∃ k, l = k ++ [0x0A] ∧ ∀ b ∈ k, b ≠ 0x0A

/-- Lines that have their ends are the lines of the text they make. -/
theorem lines_flatten {ls : List (List UInt8)} (h : ∀ l ∈ ls, EndedLine l) :
    lines ls.flatten = ls := by
  induction ls with
  | nil => rfl
  | cons l ls ih =>
    obtain ⟨k, rfl, hk⟩ := h l List.mem_cons_self
    have hrest := ih fun m hm => h m (List.mem_cons_of_mem _ hm)
    rw [List.flatten_cons, List.append_assoc]
    show lines (k ++ 0x0A :: ls.flatten) = _
    rw [lines_line hk, hrest]

/-- All lines of a text with an end have theirs. -/
theorem endedLine_of_mem_lines {t l : List UInt8} (h : l ∈ lines (t ++ [0x0A])) : EndedLine l := by
  induction t generalizing l with
  | nil =>
    obtain rfl := List.mem_singleton.mp h
    exact ⟨[], rfl, nofun⟩
  | cons b t ih =>
    rw [List.cons_append] at h
    unfold lines at h
    split at h
    · rename_i hb
      rcases List.mem_cons.mp h with rfl | h
      · exact ⟨[], by rw [hb]; rfl, nofun⟩
      · exact ih h
    · rename_i hb
      split at h
      · rename_i hnil
        have hflat := flatten_lines (t ++ [0x0A])
        rw [hnil] at hflat
        exact absurd hflat.symm (by simp)
      · rename_i l' ls hcons
        rcases List.mem_cons.mp h with rfl | h
        · obtain ⟨k, rfl, hk⟩ := ih (l := l') (by rw [hcons]; exact List.mem_cons_self)
          exact ⟨b :: k, rfl, List.forall_mem_cons.mpr ⟨hb, hk⟩⟩
        · exact ih (by rw [hcons]; exact List.mem_cons_of_mem l' h)

/-! ### Sections -/

/-- A header with what follows it. -/
structure Headed (α : Type) where
  head : α
  body : List α
deriving Repr, DecidableEq

variable {α : Type}

/-- A list cut at its headers; what stands before the first one belongs to none. -/
def headed (p : α → Bool) : List α → List (Headed α)
  | [] => []
  | a :: as => if p a then ⟨a, as.takeWhile (!p ·)⟩ :: headed p as else headed p as

theorem headed_cons_header {p : α → Bool} {a : α} (h : p a = true) (as : List α) :
    headed p (a :: as) = ⟨a, as.takeWhile (!p ·)⟩ :: headed p as := by
  show (if p a then _ else _) = _
  rw [if_pos h]

theorem headed_cons_other {p : α → Bool} {a : α} (h : ¬ p a = true) (as : List α) :
    headed p (a :: as) = headed p as := by
  show (if p a then _ else _) = _
  rw [if_neg h]

theorem headed_append {p : α → Bool} {as : List α} (h : ∀ a ∈ as, ¬ p a = true) (bs : List α) :
    headed p (as ++ bs) = headed p bs := by
  induction as with
  | nil => rfl
  | cons a as ih =>
    rw [List.cons_append, headed_cons_other (h a List.mem_cons_self),
      ih fun b hb => h b (List.mem_cons_of_mem a hb)]

/-- What stands in front of a header does not reach over it. -/
theorem takeWhile_append_header {p : α → Bool} {m : α} (h : p m = true) (as bs : List α) :
    (as ++ m :: bs).takeWhile (!p ·) = as.takeWhile (!p ·) := by
  induction as with
  | nil => exact List.takeWhile_cons_of_neg (by simp [h])
  | cons a as ih => rw [List.cons_append, List.takeWhile_cons, List.takeWhile_cons, ih]

/-- A header cuts a list in two. -/
theorem headed_append_header {p : α → Bool} {m : α} (h : p m = true) (as bs : List α) :
    headed p (as ++ m :: bs) = headed p as ++ headed p (m :: bs) := by
  induction as with
  | nil => rfl
  | cons a as ih =>
    by_cases ha : p a = true
    · rw [List.cons_append, headed_cons_header ha, headed_cons_header ha, ih,
        takeWhile_append_header h, List.cons_append]
    · rw [List.cons_append, headed_cons_other ha, headed_cons_other ha, ih]

/-- A section in the middle of a list. -/
theorem headed_section {p : α → Bool} {m : α} (h : p m = true) {body : List α}
    (hbody : ∀ a ∈ body, ¬ p a = true) (pre : List α) {post : List α}
    (hpost : ∀ a, post.head? = some a → p a = true) :
    headed p (pre ++ m :: (body ++ post)) = headed p pre ++ ⟨m, body⟩ :: headed p post := by
  have hall : ∀ a ∈ body, (!p a) = true := fun a ha => by simp [hbody a ha]
  have hstop : post.takeWhile (!p ·) = [] := by
    cases post with
    | nil => rfl
    | cons a post => exact List.takeWhile_cons_of_neg (by simp [hpost a rfl])
  rw [headed_append_header h, headed_cons_header h, headed_append hbody,
    List.takeWhile_append_of_pos hall, hstop, List.append_nil]

/-- Every section stands somewhere in the list. -/
theorem exists_of_headed {p : α → Bool} {xs : List α} {as bs : List (Headed α)} {s : Headed α}
    (h : headed p xs = as ++ s :: bs) :
    ∃ pre post, xs = pre ++ s.head :: (s.body ++ post) ∧ p s.head = true ∧
      (∀ a ∈ s.body, ¬ p a = true) ∧ (∀ a, post.head? = some a → p a = true) ∧
      headed p pre = as ∧ headed p post = bs := by
  induction xs generalizing as with
  | nil => exact absurd h.symm (by simp [headed])
  | cons x xs ih =>
    by_cases hx : p x = true
    · rw [headed_cons_header hx] at h
      cases as with
      | nil =>
        obtain ⟨rfl, htail⟩ := List.cons.inj h
        refine ⟨[], xs.dropWhile (!p ·), ?_, hx, ?_, ?_, rfl, ?_⟩
        · exact congrArg (x :: ·) List.takeWhile_append_dropWhile.symm
        · intro a ha
          simpa using List.mem_takeWhile_imp ha
        · intro a ha
          have hnot := List.head?_dropWhile_not (!p ·) xs
          rw [ha] at hnot
          simpa using hnot
        · rw [← htail]
          have hbody : ∀ a ∈ xs.takeWhile (!p ·), ¬ p a = true := fun a ha => by
            simpa using List.mem_takeWhile_imp ha
          have hcut := headed_append hbody (xs.dropWhile (!p ·))
          rw [List.takeWhile_append_dropWhile] at hcut
          exact hcut.symm
      | cons a as =>
        obtain ⟨rfl, htail⟩ := List.cons.inj h
        obtain ⟨pre, post, hxs, hs, hbody, hpost, hpre, hrest⟩ := ih htail
        refine ⟨x :: pre, post, congrArg (x :: ·) hxs, hs, hbody, hpost, ?_, hrest⟩
        rw [headed_cons_header hx, hpre, hxs, takeWhile_append_header hs]
    · rw [headed_cons_other hx] at h
      obtain ⟨pre, post, hxs, hs, hbody, hpost, hpre, hrest⟩ := ih h
      exact ⟨x :: pre, post, congrArg (x :: ·) hxs, hs, hbody, hpost,
        (headed_cons_other hx pre).trans hpre, hrest⟩

/-- Sections in a row are cut where they were joined. -/
theorem headed_flatMap {p : α → Bool} {ss : List (Headed α)}
    (hhead : ∀ s ∈ ss, p s.head = true) (hbody : ∀ s ∈ ss, ∀ a ∈ s.body, ¬ p a = true) :
    headed p (ss.flatMap fun s => s.head :: s.body) = ss := by
  induction ss with
  | nil => rfl
  | cons s ss ih =>
    have hs := hbody s List.mem_cons_self
    have hrest := ih (fun t ht => hhead t (List.mem_cons_of_mem s ht))
      (fun t ht => hbody t (List.mem_cons_of_mem s ht))
    rw [List.flatMap_cons, List.cons_append, headed_cons_header (hhead s List.mem_cons_self),
      headed_append hs, hrest]
    congr 1
    have hall : ∀ a ∈ s.body, (!p a) = true := fun a ha => by simp [hs a ha]
    have hstop : (ss.flatMap fun s => s.head :: s.body).takeWhile (!p ·) = [] := by
      cases ss with
      | nil => rfl
      | cons t ts =>
        have ht := hhead t (List.mem_cons_of_mem s List.mem_cons_self)
        rw [List.flatMap_cons, List.cons_append, List.takeWhile_cons, ht]
        rfl
    show (⟨s.head, _⟩ : Headed α) = ⟨s.head, s.body⟩
    rw [List.takeWhile_append_of_pos hall, hstop, List.append_nil]

/-! ### Printable text -/

/-- A printable character, the space included. -/
def isPrintable (b : UInt8) : Bool := 0x20 ≤ b && b < 0x7F

/-- A text without control characters. -/
structure LineText where
  bytes : List UInt8
  printable : bytes.all isPrintable = true
deriving Repr, DecidableEq

namespace LineText

/-- The empty text. -/
def nil : LineText := ⟨[], rfl⟩

instance : Inhabited LineText := ⟨nil⟩

/-- A literal. -/
def lit (s : String) (h : (ascii s).all isPrintable = true := by exact (rfl : true = true)) : LineText :=
  ⟨ascii s, h⟩

instance : Append LineText where
  append a b := ⟨a.bytes ++ b.bytes, by
    rw [List.all_append, a.printable, b.printable]
    rfl⟩

@[simp] theorem bytes_append (a b : LineText) : (a ++ b).bytes = a.bytes ++ b.bytes := rfl

theorem ne_lf (t : LineText) : ∀ b ∈ t.bytes, b ≠ 0x0A := by
  intro b hb heq
  have hprint := List.all_eq_true.mp t.printable b hb
  rw [heq] at hprint
  exact absurd hprint (by decide)

end LineText

/-- Lines with their ends. -/
def writeLines (ls : List LineText) : List UInt8 := ls.flatMap fun l => l.bytes ++ [0x0D, 0x0A]

theorem writeLines_append (ks ls : List LineText) :
    writeLines (ks ++ ls) = writeLines ks ++ writeLines ls := List.flatMap_append

/-- What is written line by line is read line by line. -/
theorem lines_writeLines_append (ls : List LineText) (s : List UInt8) :
    lines (writeLines ls ++ s) = ls.map (fun l => l.bytes ++ [0x0D, 0x0A]) ++ lines s := by
  induction ls with
  | nil => rfl
  | cons l ls ih =>
    have hline : ∀ b ∈ l.bytes ++ [0x0D], b ≠ 0x0A := by
      intro b hb
      rcases List.mem_append.mp hb with hb | hb
      · exact l.ne_lf b hb
      · rw [List.mem_singleton.mp hb]
        decide
    have hsplit : writeLines (l :: ls) ++ s =
        (l.bytes ++ [0x0D]) ++ 0x0A :: (writeLines ls ++ s) := by
      unfold writeLines
      rw [List.flatMap_cons]
      simp only [List.append_assoc, List.cons_append, List.nil_append]
    rw [hsplit, lines_line hline, ih, List.map_cons, List.cons_append, List.append_assoc]
    rfl

theorem lines_writeLines (ls : List LineText) :
    lines (writeLines ls) = ls.map fun l => l.bytes ++ [0x0D, 0x0A] := by
  have h := lines_writeLines_append ls []
  rw [List.append_nil] at h
  rw [h]
  exact List.append_nil _

/-! ### Numbers -/

/-- The decimal digits of a number, with as many divisions as there is fuel for. -/
def decimalDigits : (fuel n : Nat) → List UInt8
  | 0, _ => []
  | fuel + 1, n =>
    (if n < 10 then [] else decimalDigits fuel (n / 10)) ++ [0x30 + UInt8.ofNat (n % 10)]

/-- A digit. -/
def isDigit (b : UInt8) : Bool := 0x30 ≤ b && b ≤ 0x39

theorem isDigit_digit (n : Nat) : isDigit (0x30 + UInt8.ofNat (n % 10)) = true := by
  have hlt : n % 10 < 10 := Nat.mod_lt n (by decide)
  generalize n % 10 = d at hlt
  revert hlt
  revert d
  decide

theorem isPrintable_of_isDigit {b : UInt8} (h : isDigit b = true) : isPrintable b = true := by
  unfold isDigit at h
  unfold isPrintable
  rw [Bool.and_eq_true, decide_eq_true_iff, decide_eq_true_iff, UInt8.le_iff_toNat_le,
    UInt8.le_iff_toNat_le] at h
  rw [Bool.and_eq_true, decide_eq_true_iff, decide_eq_true_iff, UInt8.le_iff_toNat_le,
    UInt8.lt_iff_toNat_lt]
  have hlow : (0x30 : UInt8).toNat = 48 := rfl
  have hhigh : (0x39 : UInt8).toNat = 57 := rfl
  have hspace : (0x20 : UInt8).toNat = 32 := rfl
  have hdel : (0x7F : UInt8).toNat = 127 := rfl
  omega

theorem all_isDigit_decimalDigits (fuel n : Nat) : (decimalDigits fuel n).all isDigit = true := by
  induction fuel generalizing n with
  | zero => rfl
  | succ fuel ih =>
    unfold decimalDigits
    rw [List.all_append, List.all_cons, isDigit_digit]
    split
    · rfl
    · rw [ih]
      rfl

/-- A number in decimal. -/
def decimal (n : Nat) : LineText :=
  ⟨decimalDigits (n + 1) n, by
    rw [List.all_eq_true]
    intro b hb
    exact isPrintable_of_isDigit (List.all_eq_true.mp (all_isDigit_decimalDigits _ _) b hb)⟩

end Nanortc.ForStd
