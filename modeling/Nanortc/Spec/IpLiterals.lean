import Mathlib
import Nanortc.Native.Addr

/-!
# The grammar of IP literals

A dotted quad is four runs of decimal digits, an IPv6 literal groups of hexadecimal digits with at
most one "::". The grammar reads a text by its parts between the dots or colons. It has two
parameters for what the parsers of `nano_addr.c` admit beyond the standard: a run of a dotted quad may
be empty, and "::" may stand for no group.

## Key results

- `addrParseIpv4_iff`: what `addr_parse_ipv4` accepts
- `addrParseIpv6_iff`: what `addr_parse_ipv6` accepts
- `addrParse_exact_iff`: when that is what the standard says
-/

namespace Nanortc.Spec

open Nanortc.ForStd Nanortc.Native

/-! ### Grammar -/

/-- The number that decimal digits continue. -/
def decimalFrom (val : Nat) (p : List UInt8) : Nat :=
  p.foldl (fun val c => val * 10 + (c.toNat - 0x30)) val

/-- The number that hexadecimal digits continue. -/
def hexFrom (val : Nat) (p : List UInt8) : Nat :=
  p.foldl (fun val c => val * 16 + (hexDigit c).getD 0) val

/-- A run of digits of a dotted quad. -/
def QuadRun (emptyRuns : Bool) (p : List UInt8) : Prop :=
  (emptyRuns = true ∨ p ≠ []) ∧ p.all isDigit = true ∧ decimalFrom 0 p ≤ 255

/-- A dotted quad and its octets. -/
def Quad (emptyRuns : Bool) (s v : List UInt8) : Prop :=
  (s.splitOn 0x2E).length = 4 ∧ (∀ p ∈ s.splitOn 0x2E, QuadRun emptyRuns p) ∧
    v = (s.splitOn 0x2E).map fun p => UInt8.ofNat (decimalFrom 0 p)

/-- One to four hexadecimal digits and their value. -/
def HexGroup (p : List UInt8) (g : Nat) : Prop :=
  p ≠ [] ∧ p.length ≤ 4 ∧ (∀ c ∈ p, (hexDigit c).isSome) ∧ g = hexFrom 0 p

/-- Groups, of which a dotted quad may stand for the last two. -/
inductive Groups (emptyRuns : Bool) : List (List UInt8) → List Nat → Prop
  | hex {p : List UInt8} {g : Nat} (h : HexGroup p g) : Groups emptyRuns [p] [g]
  | quad {p : List UInt8} {a b c d : UInt8} (h : Quad emptyRuns p [a, b, c, d]) :
    Groups emptyRuns [p] [a.toNat * 256 + b.toNat, c.toNat * 256 + d.toNat]
  | cons {p : List UInt8} {g : Nat} {ps : List (List UInt8)} {gs : List Nat} (h : HexGroup p g)
    (hs : Groups emptyRuns ps gs) : Groups emptyRuns (p :: ps) (g :: gs)

/-- The parts on one side of "::", where there may be none. -/
def sideParts (ps : List (List UInt8)) : List (List UInt8) := if ps = [] then [[]] else ps

/-- The groups behind "::", if there are any. -/
def GroupsOrNone (emptyRuns : Bool) (ps : List (List UInt8)) (gs : List Nat) : Prop :=
  ps = [] ∧ gs = [] ∨ Groups emptyRuns ps gs

/-- The parts of an IPv6 literal and its eight groups; "::" stands for at least `gap` of them. -/
inductive Ipv6Literal (emptyRuns : Bool) (gap : Nat) : List (List UInt8) → List Nat → Prop
  | full {ps : List (List UInt8)} {gs : List Nat} (h : Groups emptyRuns ps gs)
    (hlen : gs.length = 8) : Ipv6Literal emptyRuns gap ps gs
  | compressed {L R : List (List UInt8)} {ls rs : List Nat} (hL : List.Forall₂ HexGroup L ls)
    (hR : GroupsOrNone emptyRuns R rs) (hlen : ls.length + rs.length + gap ≤ 8) :
    Ipv6Literal emptyRuns gap (sideParts L ++ [] :: sideParts R)
      (ls ++ List.replicate (8 - (ls.length + rs.length)) 0 ++ rs)

/-- The bytes of groups. -/
def groupBytes (gs : List Nat) : List UInt8 := gs.flatMap fun g => u16be (UInt16.ofNat g)

/-! ### Dotted quads -/

theorem le_decimalFrom (val : Nat) (p : List UInt8) : val ≤ decimalFrom val p := by
  induction p generalizing val with
  | nil => exact Nat.le_refl val
  | cons c p ih =>
    have h := ih (val * 10 + (c.toNat - 0x30))
    show val ≤ decimalFrom (val * 10 + (c.toNat - 0x30)) p
    omega

/-- A run is read up to the next dot. -/
theorem addrParseIpv4Loop_run {p rest out : List UInt8} {val : Nat} (hdot : (0x2E : UInt8) ∉ p)
    (hval : val ≤ 255) :
    addrParseIpv4Loop (p ++ rest) out val =
      if p.all isDigit = true ∧ decimalFrom val p ≤ 255 then
        addrParseIpv4Loop rest out (decimalFrom val p)
      else .error .parse := by
  induction p generalizing val with
  | nil => exact (if_pos ⟨rfl, hval⟩).symm
  | cons c p ih =>
    have hc : c ≠ 0x2E := fun h => hdot (h ▸ List.mem_cons_self)
    have hp : (0x2E : UInt8) ∉ p := fun h => hdot (List.mem_cons_of_mem c h)
    show (if c = 0x2E then _ else if isDigit c then _ else _) = _
    rw [if_neg hc]
    by_cases hdigit : isDigit c = true
    · rw [if_pos hdigit, List.all_cons, hdigit, Bool.true_and]
      show (if val * 10 + (c.toNat - 0x30) > 255 then _ else _) = _
      by_cases hbig : val * 10 + (c.toNat - 0x30) > 255
      · have hle := le_decimalFrom (val * 10 + (c.toNat - 0x30)) p
        rw [if_pos hbig, if_neg]
        rintro ⟨-, h⟩
        exact absurd (Nat.le_trans hle h) (Nat.not_le.mpr hbig)
      · rw [if_neg hbig]
        exact ih hp (Nat.not_lt.mp hbig)
    · rw [if_neg hdigit, if_neg]
      rintro ⟨h, -⟩
      rw [List.all_cons, Bool.and_eq_true] at h
      exact hdigit h.1

/-- The runs of a dotted quad are its octets. -/
theorem addrParseIpv4Loop_iff {ps : List (List UInt8)} {out v : List UInt8} (hps : ps ≠ [])
    (hdot : ∀ p ∈ ps, (0x2E : UInt8) ∉ p) :
    addrParseIpv4Loop (List.intercalate [0x2E] ps) out 0 = .ok v ↔
      out.length + ps.length = 4 ∧ (∀ p ∈ ps, QuadRun true p) ∧
        v = out ++ ps.map fun p => UInt8.ofNat (decimalFrom 0 p) := by
  induction ps generalizing out with
  | nil => exact absurd rfl hps
  | cons p ps ih =>
    have hp := hdot p List.mem_cons_self
    by_cases hrun : p.all isDigit = true ∧ decimalFrom 0 p ≤ 255
    · have hgood : QuadRun true p := ⟨.inl rfl, hrun⟩
      cases ps with
      | nil =>
        have h := @addrParseIpv4Loop_run p [] out 0 hp (by decide)
        rw [if_pos hrun, List.append_nil] at h
        rw [List.intercalate_singleton, h]
        show (if out.length ≥ 4 ∨ decimalFrom 0 p > 255 then _ else
          if out.length + 1 ≠ 4 then _ else _) = _ ↔ _
        by_cases hfull : out.length ≥ 4 ∨ decimalFrom 0 p > 255
        · rw [if_pos hfull]
          refine ⟨nofun, fun h => ?_⟩
          have h := h.1
          rw [List.length_singleton] at h
          omega
        rw [if_neg hfull]
        by_cases hcount : out.length + 1 ≠ 4
        · rw [if_pos hcount]
          exact ⟨nofun, fun h => absurd h.1 hcount⟩
        · rw [if_neg hcount]
          refine ⟨fun h => ⟨Decidable.not_not.mp hcount, fun q hq => ?_, (Except.ok.inj h).symm⟩,
            fun h => congrArg Except.ok h.2.2.symm⟩
          rw [List.mem_singleton.mp hq]
          exact hgood
      | cons q ps =>
        have h := @addrParseIpv4Loop_run p (0x2E :: List.intercalate [0x2E] (q :: ps)) out 0 hp
          (by decide)
        have hjoin : List.intercalate [0x2E] (p :: q :: ps) =
            p ++ 0x2E :: List.intercalate [0x2E] (q :: ps) := by
          rw [List.intercalate_cons_cons, List.append_assoc]
          rfl
        rw [hjoin, h, if_pos hrun]
        show (if out.length ≥ 4 ∨ decimalFrom 0 p > 255 then _ else
          addrParseIpv4Loop _ (out ++ [UInt8.ofNat (decimalFrom 0 p)]) 0) = _ ↔ _
        by_cases hfull : out.length ≥ 4 ∨ decimalFrom 0 p > 255
        · rw [if_pos hfull]
          refine ⟨nofun, fun h => ?_⟩
          have h := h.1
          rw [List.length_cons, List.length_cons] at h
          omega
        rw [if_neg hfull, ih (List.cons_ne_nil _ _) fun r hr => hdot r (List.mem_cons_of_mem p hr)]
        have hcount : (p :: q :: ps).length = (q :: ps).length + 1 := rfl
        have hall := @List.forall_mem_cons _ (QuadRun true) p (q :: ps)
        rw [List.length_append, List.length_singleton, hcount, List.append_assoc, hall]
        exact ⟨fun ⟨hlen, hruns, hv⟩ => ⟨by omega, ⟨hgood, hruns⟩, hv⟩,
          fun ⟨hlen, hruns, hv⟩ => ⟨by omega, hruns.2, hv⟩⟩
    · -- a run that is none
      have hbad : ¬∀ q ∈ p :: ps, QuadRun true q := fun h => hrun (h p List.mem_cons_self).2
      have herror : addrParseIpv4Loop (List.intercalate [0x2E] (p :: ps)) out 0 = .error .parse := by
        cases ps with
        | nil =>
          have h := @addrParseIpv4Loop_run p [] out 0 hp (by decide)
          rw [if_neg hrun, List.append_nil] at h
          rw [List.intercalate_singleton, h]
        | cons q ps =>
          have h := @addrParseIpv4Loop_run p (0x2E :: List.intercalate [0x2E] (q :: ps)) out 0 hp
            (by decide)
          rw [if_neg hrun] at h
          rw [List.intercalate_cons_cons, List.append_assoc]
          exact h
      rw [herror]
      exact ⟨nofun, fun h => absurd h.2.1 hbad⟩

/-- No part of a text holds the separator. -/
theorem not_mem_of_mem_splitOn {sep : UInt8} {s p : List UInt8} (h : p ∈ s.splitOn sep) : sep ∉ p := by
  induction s generalizing p with
  | nil =>
    rw [List.splitOn_nil, List.mem_singleton] at h
    rw [h]
    exact List.not_mem_nil
  | cons c s ih =>
    rw [List.splitOn_cons_eq_if_modifyHead] at h
    split at h
    · rcases List.mem_cons.mp h with rfl | h
      · exact List.not_mem_nil
      · exact ih h
    · rename_i hc
      cases hs : s.splitOn sep with
      | nil => exact absurd hs (List.splitOn_ne_nil sep s)
      | cons q qs =>
        rw [hs, List.modifyHead_cons] at h
        rcases List.mem_cons.mp h with rfl | h
        · intro hmem
          rcases List.mem_cons.mp hmem with rfl | hmem
          · exact hc (beq_self_eq_true _)
          · exact ih (hs ▸ List.mem_cons_self) hmem
        · exact ih (hs ▸ List.mem_cons_of_mem q h)

/-- **What `addr_parse_ipv4` accepts**: dotted quads, with runs that may be empty. -/
theorem addrParseIpv4_iff (s v : List UInt8) : addrParseIpv4 s = .ok v ↔ Quad true s v := by
  have h := @addrParseIpv4Loop_iff (s.splitOn 0x2E) [] v (List.splitOn_ne_nil _ _)
    fun p hp => not_mem_of_mem_splitOn hp
  rw [List.intercalate_splitOn, List.length_nil, Nat.zero_add, List.nil_append] at h
  unfold addrParseIpv4
  by_cases hs : s = []
  · rw [if_pos hs]
    refine ⟨nofun, fun hq => ?_⟩
    rw [hs] at hq
    exact absurd hq.1 (by decide)
  · rw [if_neg hs]
    exact h

/-- A dotted quad has no other characters than digits and dots. -/
theorem Quad.chars {s v : List UInt8} (h : addrParseIpv4 s = .ok v) :
    ∀ c ∈ s, isDigit c = true ∨ c = 0x2E := by
  have hloop (s out : List UInt8) (val : Nat) (h : addrParseIpv4Loop s out val = .ok v) :
      ∀ c ∈ s, isDigit c = true ∨ c = 0x2E := by
    induction s generalizing out val with
    | nil => exact fun c h => absurd h List.not_mem_nil
    | cons c s ih =>
      unfold addrParseIpv4Loop at h
      split at h
      · rename_i hdot
        split at h
        · cases h
        · exact List.forall_mem_cons.mpr ⟨.inr hdot, ih _ _ h⟩
      split at h
      · rename_i hdigit
        dsimp only at h
        split at h
        · cases h
        · exact List.forall_mem_cons.mpr ⟨.inl hdigit, ih _ _ h⟩
      · cases h
  unfold addrParseIpv4 at h
  split at h
  · cases h
  · exact hloop s [] 0 h

/-- A dotted quad has a dot and no colon. -/
theorem Quad.dot {emptyRuns : Bool} {s v : List UInt8} (h : Quad emptyRuns s v) :
    (0x2E : UInt8) ∈ s := by
  by_contra hdot
  have hlen := h.1
  rw [List.splitOn_eq_singleton hdot, List.length_singleton] at hlen
  exact absurd hlen (by decide)

theorem Quad.mono {emptyRuns : Bool} {s v : List UInt8} (h : Quad emptyRuns s v) : Quad true s v :=
  ⟨h.1, fun p hp => ⟨.inl rfl, (h.2.1 p hp).2⟩, h.2.2⟩

theorem Quad.no_colon {emptyRuns : Bool} {s v : List UInt8} (h : Quad emptyRuns s v) :
    (0x3A : UInt8) ∉ s := by
  intro hcolon
  rcases Quad.chars ((addrParseIpv4_iff s v).mpr h.mono) 0x3A hcolon with h | h
  · exact absurd h (by decide)
  · exact absurd h (by decide)

/-! ### Groups -/

/-- Hexadecimal digits are below 16, and neither a dot nor a colon is one. -/
theorem hexDigit_lt {c : UInt8} {d : Nat} (h : hexDigit c = some d) : d < 16 := by
  have hrange {lo hi : UInt8} (hc : lo ≤ c ∧ c ≤ hi) : lo.toNat ≤ c.toNat ∧ c.toNat ≤ hi.toNat :=
    ⟨UInt8.le_iff_toNat_le.mp hc.1, UInt8.le_iff_toNat_le.mp hc.2⟩
  unfold hexDigit at h
  split at h
  · rename_i hdigit
    unfold isDigit at hdigit
    rw [Bool.and_eq_true, decide_eq_true_eq, decide_eq_true_eq] at hdigit
    have hc : 0x30 ≤ c.toNat ∧ c.toNat ≤ 0x39 := hrange hdigit
    have := Option.some.inj h
    omega
  split at h
  · rename_i hlower
    have hc : 0x61 ≤ c.toNat ∧ c.toNat ≤ 0x66 := hrange hlower
    have := Option.some.inj h
    omega
  split at h
  · rename_i hupper
    have hc : 0x41 ≤ c.toNat ∧ c.toNat ≤ 0x46 := hrange hupper
    have := Option.some.inj h
    omega
  · exact nomatch h

theorem HexGroup.no_dot {p : List UInt8} {g : Nat} (h : HexGroup p g) : (0x2E : UInt8) ∉ p :=
  fun hdot => absurd (h.2.2.1 0x2E hdot) (by decide)

/-- A group is read up to the next colon. -/
theorem addrHexGroup_eq {p rest : List UInt8} {digits val : Nat} (hcolon : (0x3A : UInt8) ∉ p)
    (hrest : rest = [] ∨ rest.head? = some 0x3A) (hval : val < 16 ^ digits) :
    addrHexGroup (p ++ rest) digits val =
      if (∀ c ∈ p, (hexDigit c).isSome) ∧ (p = [] ∨ digits + p.length ≤ 4) then
        .ok (hexFrom val p, digits + p.length, rest)
      else .error .parse := by
  induction p generalizing digits val with
  | nil =>
    rw [if_pos ⟨fun c h => absurd h List.not_mem_nil, .inl rfl⟩, List.nil_append]
    rcases hrest with rfl | hrest
    · rfl
    · cases rest with
      | nil => cases hrest
      | cons c rest =>
        obtain rfl := Option.some.inj hrest
        rfl
  | cons c p ih =>
    have hc : c ≠ 0x3A := fun h => hcolon (h ▸ List.mem_cons_self)
    have hp : (0x3A : UInt8) ∉ p := fun h => hcolon (List.mem_cons_of_mem c h)
    rw [List.cons_append]
    unfold addrHexGroup
    rw [if_neg hc]
    cases hd : hexDigit c with
    | none =>
      rw [if_neg]
      rintro ⟨h, -⟩
      exact absurd (h c List.mem_cons_self) (by rw [hd]; decide)
    | some d =>
      have hd16 := hexDigit_lt hd
      have hnext : val * 16 + d < 16 ^ (digits + 1) := by
        rw [Nat.pow_succ]
        omega
      have hfrom : hexFrom val (c :: p) = hexFrom (val * 16 + d) p := by
        show hexFrom (val * 16 + (hexDigit c).getD 0) p = _
        rw [hd]
        rfl
      have hall : (∀ b ∈ c :: p, (hexDigit b).isSome) ↔ ∀ b ∈ p, (hexDigit b).isSome := by
        rw [List.forall_mem_cons, hd]
        exact ⟨fun h => h.2, fun h => ⟨rfl, h⟩⟩
      have hcount : digits + (c :: p).length = digits + 1 + p.length := by
        rw [List.length_cons]
        omega
      rw [hfrom, hcount]
      dsimp only
      by_cases hroom : digits + 1 > 4
      · rw [if_pos (.inr hroom), if_neg]
        rintro ⟨-, h | h⟩
        · exact List.cons_ne_nil _ _ h
        · omega
      · have hpow : 16 ^ (digits + 1) ≤ 16 ^ 4 := Nat.pow_le_pow_right (by decide) (by omega)
        rw [if_neg (by omega), ih hp hnext]
        refine if_congr (and_congr hall.symm ?_) rfl rfl
        rcases Nat.eq_zero_or_pos p.length with hp0 | hp0
        · exact ⟨fun _ => .inr (by omega), fun _ => .inl (List.eq_nil_of_length_eq_zero hp0)⟩
        · have hne : p ≠ [] := List.ne_nil_of_length_pos hp0
          exact ⟨fun h => .inr (h.resolve_left hne),
            fun h => .inr (h.resolve_left (List.cons_ne_nil _ _))⟩

/-- A dot stands before the next colon. -/
theorem addrHasDot_iff {p rest : List UInt8} (hcolon : (0x3A : UInt8) ∉ p)
    (hrest : rest = [] ∨ rest.head? = some 0x3A) :
    addrHasDot (p ++ rest) = true ↔ (0x2E : UInt8) ∈ p := by
  unfold addrHasDot
  induction p with
  | nil =>
    rw [List.nil_append]
    rcases hrest with rfl | hrest
    · exact ⟨nofun, nofun⟩
    · cases rest with
      | nil => exact nomatch hrest
      | cons c rest =>
        obtain rfl := Option.some.inj hrest
        exact ⟨nofun, nofun⟩
  | cons c p ih =>
    have hc : c ≠ 0x3A := fun h => hcolon (h ▸ List.mem_cons_self)
    have ih := ih fun h => hcolon (List.mem_cons_of_mem c h)
    rw [List.cons_append, List.find?_cons]
    by_cases hdot : c = 0x2E
    · rw [hdot]
      exact ⟨fun _ => List.mem_cons_self, fun _ => rfl⟩
    · have hno : (c == 0x2E || c == 0x3A) = false := by
        rw [beq_false_of_ne hdot, beq_false_of_ne hc]
        rfl
      rw [hno, List.mem_cons]
      exact ih.trans ⟨.inr, fun h => h.resolve_left (Ne.symm hdot)⟩

theorem HexGroup.unique {p : List UInt8} {g g' : Nat} (h : HexGroup p g) (h' : HexGroup p g') :
    g = g' := h.2.2.2.trans h'.2.2.2.symm

/-- No group is empty. -/
theorem Groups.ne_nil {emptyRuns : Bool} {ps : List (List UInt8)} {gs : List Nat}
    (h : Groups emptyRuns ps gs) : ∀ p ∈ ps, p ≠ [] := by
  induction h with
  | hex h =>
    intro p hp
    rw [List.mem_singleton.mp hp]
    exact h.1
  | quad h =>
    intro p hp
    rw [List.mem_singleton.mp hp]
    exact List.ne_nil_of_mem h.dot
  | cons h hs ih => exact List.forall_mem_cons.mpr ⟨h.1, ih⟩

theorem Groups.parts {emptyRuns : Bool} {ps : List (List UInt8)} {gs : List Nat}
    (h : Groups emptyRuns ps gs) : ps ≠ [] := by
  cases h with
  | hex h => exact List.cons_ne_nil _ _
  | quad h => exact List.cons_ne_nil _ _
  | cons h hs => exact List.cons_ne_nil _ _

theorem Groups.pos {emptyRuns : Bool} {ps : List (List UInt8)} {gs : List Nat}
    (h : Groups emptyRuns ps gs) : 0 < gs.length := by
  cases h with
  | hex h => exact Nat.succ_pos _
  | quad h => exact Nat.succ_pos _
  | cons h hs => exact Nat.succ_pos _

/-- Behind a hexadecimal group there is nothing, or groups again. -/
theorem groups_hex_iff {emptyRuns : Bool} {p : List UInt8} {g : Nat} {ps : List (List UInt8)}
    {gs : List Nat} (hp : HexGroup p g) :
    Groups emptyRuns (p :: ps) gs ↔
      ps = [] ∧ gs = [g] ∨ ∃ gs', Groups emptyRuns ps gs' ∧ gs = g :: gs' := by
  constructor
  · intro h
    cases h with
    | hex h => exact .inl ⟨rfl, by rw [h.unique hp]⟩
    | quad h => exact absurd h.dot hp.no_dot
    | cons h hs => exact .inr ⟨_, hs, by rw [h.unique hp]⟩
  · rintro (⟨rfl, rfl⟩ | ⟨gs', hs, rfl⟩)
    · exact .hex hp
    · exact .cons hp hs

theorem forall₂_ne_nil {L : List (List UInt8)} {ls : List Nat} (h : List.Forall₂ HexGroup L ls) :
    ∀ p ∈ L, p ≠ [] := by
  induction h with
  | nil => exact nofun
  | cons h _ ih => exact List.forall_mem_cons.mpr ⟨h.1, ih⟩

/-! ### The loop of the IPv6 parser -/

/-- What the parts that are left add to the groups so far; `dcolon` is the place of "::". -/
def LoopRest (ps : List (List UInt8)) (groups : List Nat) (dcolon : Option Nat)
    (r : List Nat × Option Nat) : Prop :=
  ps = [[]] ∧ r = (groups, dcolon) ∨
  (∃ gs, Groups true ps gs ∧ groups.length + gs.length ≤ 8 ∧ r = (groups ++ gs, dcolon)) ∨
  dcolon = none ∧ ∃ L ls R rs, L ≠ [] ∧ List.Forall₂ HexGroup L ls ∧ ps = L ++ [] :: sideParts R ∧
    GroupsOrNone true R rs ∧ groups.length + ls.length + rs.length ≤ 8 ∧
      r = (groups ++ ls ++ rs, some (groups.length + ls.length))

section Rest

variable {p : List UInt8} {g : Nat} {groups : List Nat} {dcolon : Option Nat}
  {r : List Nat × Option Nat}

theorem sideParts_ne_nil (R : List (List UInt8)) : sideParts R ≠ [] := by
  unfold sideParts
  split
  · exact List.cons_ne_nil _ _
  · assumption

/-- The parts on a side of "::" and whether there are groups. -/
theorem sideParts_rest {ps : List (List UInt8)} {rs : List Nat} (hps : ps ≠ []) :
    (∃ R, ps = sideParts R ∧ GroupsOrNone true R rs) ↔ ps = [[]] ∧ rs = [] ∨ Groups true ps rs := by
  constructor
  · rintro ⟨R, rfl, ⟨rfl, rfl⟩ | hR⟩
    · exact .inl ⟨rfl, rfl⟩
    · have hne := hR.parts
      unfold sideParts
      rw [if_neg hne]
      exact .inr hR
  · rintro (⟨rfl, rfl⟩ | hR)
    · exact ⟨[], rfl, .inl ⟨rfl, rfl⟩⟩
    · refine ⟨ps, ?_, .inr hR⟩
      unfold sideParts
      rw [if_neg hps]

/-- A group at the end. -/
theorem loopRest_last (hp : HexGroup p g) :
    LoopRest [p] groups dcolon r ↔ groups.length < 8 ∧ r = (groups ++ [g], dcolon) := by
  constructor
  · rintro (⟨h, -⟩ | ⟨gs, hgs, hlen, rfl⟩ | ⟨-, L, ls, R, rs, hL, -, hps, -⟩)
    · exact absurd (List.cons.inj h).1 hp.1
    · rcases (groups_hex_iff hp).mp hgs with ⟨-, rfl⟩ | ⟨gs', hgs', -⟩
      · exact ⟨hlen, rfl⟩
      · exact absurd rfl hgs'.parts
    · have hlen := congrArg List.length hps
      have hL := List.length_pos_of_ne_nil hL
      simp only [List.length_append, List.length_cons, List.length_nil] at hlen
      omega
  · rintro ⟨hlen, rfl⟩
    exact .inr (.inl ⟨[g], .hex hp, hlen, rfl⟩)

/-- A colon at the end. -/
theorem not_loopRest_colon : ¬LoopRest [p, []] groups dcolon r := by
  rintro (⟨h, -⟩ | ⟨gs, hgs, -⟩ | ⟨-, L, ls, R, rs, hL, -, hps, -⟩)
  · exact absurd (List.cons.inj h).2 (List.cons_ne_nil _ _)
  · exact hgs.ne_nil [] (List.mem_cons_of_mem _ List.mem_cons_self) rfl
  · have hlen := congrArg List.length hps
    have hL := List.length_pos_of_ne_nil hL
    have hR := List.length_pos_of_ne_nil (sideParts_ne_nil R)
    simp only [List.length_append, List.length_cons, List.length_nil] at hlen
    omega

/-- "::" behind a group. -/
theorem loopRest_dcolon {q : List UInt8} {qs : List (List UInt8)} (hp : HexGroup p g) :
    LoopRest (p :: [] :: q :: qs) groups dcolon r ↔ groups.length < 8 ∧ dcolon = none ∧
      LoopRest (q :: qs) (groups ++ [g]) (some (groups.length + 1)) r := by
  constructor
  · rintro (⟨h, -⟩ | ⟨gs, hgs, -⟩ | ⟨hd, L, ls, R, rs, hL, hls, hps, hR, hlen, rfl⟩)
    · exact absurd (List.cons.inj h).2 (List.cons_ne_nil _ _)
    · exact absurd rfl (hgs.ne_nil [] (List.mem_cons_of_mem _ List.mem_cons_self))
    · cases hls with
      | nil => exact absurd rfl hL
      | @cons p' g' L' ls' hp' hls' =>
        obtain ⟨rfl, htail⟩ := List.cons.inj hps
        obtain rfl := hp'.unique hp
        have hL' : L' = [] := by
          cases hls' with
          | nil => rfl
          | cons h _ => exact absurd (List.cons.inj htail).1.symm h.1
        subst hL'
        cases hls'
        have hside := (sideParts_rest (List.cons_ne_nil q qs)).mp ⟨R, (List.cons.inj htail).2, hR⟩
        rw [List.length_singleton] at hlen
        refine ⟨by omega, hd, ?_⟩
        rcases hside with ⟨hnone, rfl⟩ | hgs
        · exact .inl ⟨hnone, by rw [List.append_nil]; rfl⟩
        · refine .inr (.inl ⟨rs, hgs, ?_, rfl⟩)
          rw [List.length_append, List.length_singleton]
          exact hlen
  · rintro ⟨hroom, rfl, hrest⟩
    have hside : ∃ rs, (q :: qs = [[]] ∧ rs = [] ∨ Groups true (q :: qs) rs) ∧
        groups.length + 1 + rs.length ≤ 8 ∧
          r = (groups ++ [g] ++ rs, some (groups.length + 1)) := by
      rcases hrest with ⟨hnone, rfl⟩ | ⟨rs, hgs, hlen, rfl⟩ | ⟨h, -⟩
      · exact ⟨[], .inl ⟨hnone, rfl⟩, hroom, by rw [List.append_nil]⟩
      · rw [List.length_append, List.length_singleton] at hlen
        exact ⟨rs, .inr hgs, hlen, rfl⟩
      · exact nomatch h
    obtain ⟨rs, hgs, hlen, rfl⟩ := hside
    obtain ⟨R, hR, hgs⟩ := (sideParts_rest (List.cons_ne_nil q qs)).mpr hgs
    refine .inr (.inr ⟨rfl, [p], [g], R, rs, List.cons_ne_nil _ _, .cons hp .nil, ?_, hgs, hlen, rfl⟩)
    rw [hR]
    rfl

/-- A colon and another group. -/
theorem loopRest_cons {q : List UInt8} {qs : List (List UInt8)} (hp : HexGroup p g) (hq : q ≠ []) :
    LoopRest (p :: q :: qs) groups dcolon r ↔ groups.length < 8 ∧
      LoopRest (q :: qs) (groups ++ [g]) dcolon r := by
  have hlen1 : (groups ++ [g]).length = groups.length + 1 := List.length_append
  constructor
  · rintro (⟨h, -⟩ | ⟨gs, hgs, hlen, rfl⟩ | ⟨hd, L, ls, R, rs, hL, hls, hps, hR, hlen, rfl⟩)
    · exact absurd (List.cons.inj h).2 (List.cons_ne_nil _ _)
    · rcases (groups_hex_iff hp).mp hgs with ⟨h, -⟩ | ⟨gs', hgs', rfl⟩
      · exact absurd h (List.cons_ne_nil _ _)
      · rw [List.length_cons] at hlen
        refine ⟨by omega, .inr (.inl ⟨gs', hgs', by omega, ?_⟩)⟩
        rw [List.append_assoc]
        rfl
    · cases hls with
      | nil => exact absurd rfl hL
      | @cons p' g' L' ls' hp' hls' =>
        obtain ⟨rfl, htail⟩ := List.cons.inj hps
        obtain rfl := hp'.unique hp
        rw [List.length_cons] at hlen
        refine ⟨by omega, .inr (.inr ⟨hd, L', ls', R, rs, ?_, hls', htail, hR, by omega, ?_⟩)⟩
        · rintro rfl
          exact hq (List.cons.inj htail).1
        · rw [hlen1, List.length_cons, List.append_assoc groups [g'] ls', Nat.add_assoc,
            Nat.add_comm 1 ls'.length]
          rfl
  · rintro ⟨hroom, ⟨h, -⟩ | ⟨gs, hgs, hlen, rfl⟩ | ⟨hd, L, ls, R, rs, hL, hls, hps, hR, hlen, rfl⟩⟩
    · exact absurd (List.cons.inj h).1 hq
    · refine .inr (.inl ⟨g :: gs, .cons hp hgs, ?_, ?_⟩)
      · rw [List.length_cons]
        omega
      · rw [List.append_assoc]
        rfl
    · refine .inr (.inr ⟨hd, p :: L, g :: ls, R, rs, List.cons_ne_nil _ _, .cons hp hls, ?_, hR, ?_, ?_⟩)
      · rw [hps]
        rfl
      · rw [List.length_cons]
        omega
      · rw [hlen1, List.length_cons, List.append_assoc groups [g] ls, Nat.add_assoc,
          Nat.add_comm 1 ls.length]
        rfl

/-- Where the first part is neither a group nor a dotted quad, nothing is read. -/
theorem not_loopRest {ps : List (List UInt8)} (hne : p :: ps ≠ [[]]) (hhex : ¬∃ g, HexGroup p g)
    (hquad : ¬((0x2E : UInt8) ∈ p ∧ ps = [])) : ¬LoopRest (p :: ps) groups dcolon r := by
  rintro (⟨h, -⟩ | ⟨gs, hgs, -⟩ | ⟨-, L, ls, R, rs, hL, hls, hps, -⟩)
  · exact hne h
  · cases hgs with
    | hex h => exact hhex ⟨_, h⟩
    | quad h => exact hquad ⟨h.dot, rfl⟩
    | cons h _ => exact hhex ⟨_, h⟩
  · cases hls with
    | nil => exact hL rfl
    | cons h _ => exact hhex ⟨_, (List.cons.inj hps).1 ▸ h⟩

/-- A dotted quad ends the literal. -/
theorem loopRest_quad {ps : List (List UInt8)} (hdot : (0x2E : UInt8) ∈ p) :
    LoopRest (p :: ps) groups dcolon r ↔ ps = [] ∧ ∃ a b c d : UInt8, Quad true p [a, b, c, d] ∧
      groups.length ≤ 6 ∧
        r = (groups ++ [a.toNat * 256 + b.toNat, c.toNat * 256 + d.toNat], dcolon) := by
  constructor
  · rintro (⟨h, -⟩ | ⟨gs, hgs, hlen, rfl⟩ | ⟨-, L, ls, R, rs, hL, hls, hps, -⟩)
    · exact absurd ((List.cons.inj h).1 ▸ hdot) List.not_mem_nil
    · cases hgs with
      | hex h => exact absurd hdot h.no_dot
      | quad h =>
        refine ⟨rfl, _, _, _, _, h, ?_, rfl⟩
        simp only [List.length_cons, List.length_nil] at hlen
        omega
      | cons h _ => exact absurd hdot h.no_dot
    · cases hls with
      | nil => exact absurd rfl hL
      | cons h _ => exact absurd ((List.cons.inj hps).1 ▸ hdot) h.no_dot
  · rintro ⟨rfl, a, b, c, d, hquad, hlen, rfl⟩
    refine .inr (.inl ⟨_, .quad hquad, ?_, rfl⟩)
    simp only [List.length_cons, List.length_nil]
    omega

/-- There is no room for another group. -/
theorem not_loopRest_full {ps : List (List UInt8)} (hne : ps ≠ [[]]) (hfull : 8 ≤ groups.length) :
    ¬LoopRest ps groups dcolon r := by
  rintro (⟨h, -⟩ | ⟨gs, hgs, hlen, -⟩ | ⟨-, L, ls, R, rs, hL, hls, -, -, hlen, -⟩)
  · exact hne h
  · have := hgs.pos
    omega
  · have := hls.length_eq
    have := List.length_pos_of_ne_nil hL
    omega

end Rest

/-- A dotted quad has four octets. -/
theorem Quad.octets {emptyRuns : Bool} {s v : List UInt8} (h : Quad emptyRuns s v) :
    ∃ a b c d, v = [a, b, c, d] := by
  have hlen : v.length = 4 := by rw [h.2.2, List.length_map, h.1]
  match v, hlen with
  | [a, b, c, d], _ => exact ⟨a, b, c, d, rfl⟩

/-- The text of parts and what stands behind the first one. -/
theorem intercalate_split (p : List UInt8) (ps : List (List UInt8)) :
    ∃ rest, List.intercalate [0x3A] (p :: ps) = p ++ rest ∧
      (ps = [] ∧ rest = [] ∨ ps ≠ [] ∧ rest = 0x3A :: List.intercalate [0x3A] ps) := by
  cases ps with
  | nil => exact ⟨[], by rw [List.intercalate_singleton, List.append_nil], .inl ⟨rfl, rfl⟩⟩
  | cons q qs =>
    refine ⟨_, ?_, .inr ⟨List.cons_ne_nil _ _, rfl⟩⟩
    rw [List.intercalate_cons_cons, List.append_assoc]
    rfl

theorem intercalate_eq_nil_iff {p : List UInt8} {ps : List (List UInt8)} :
    List.intercalate [0x3A] (p :: ps) = [] ↔ p :: ps = [[]] := by
  obtain ⟨rest, heq, ⟨rfl, rfl⟩ | ⟨hne, rfl⟩⟩ := intercalate_split p ps
  · rw [heq, List.append_nil]
    exact ⟨fun h => by rw [h], fun h => (List.cons.inj h).1⟩
  · rw [heq]
    refine ⟨fun h => ?_, fun h => absurd (List.cons.inj h).2 hne⟩
    exact absurd (List.append_eq_nil_iff.mp h).2 (List.cons_ne_nil _ _)

/-- **The loop reads the parts that are left.** -/
theorem addrParseIpv6Loop_iff {fuel : Nat} {ps : List (List UInt8)} {groups : List Nat}
    {dcolon : Option Nat} {r : List Nat × Option Nat} (hps : ps ≠ [])
    (hcolon : ∀ p ∈ ps, (0x3A : UInt8) ∉ p) (hfuel : (List.intercalate [0x3A] ps).length < fuel)
    (hgroups : groups.length ≤ 8) :
    addrParseIpv6Loop fuel (List.intercalate [0x3A] ps) groups dcolon = .ok r ↔
      LoopRest ps groups dcolon r := by
  induction fuel generalizing ps groups dcolon with
  | zero => exact absurd hfuel (Nat.not_lt_zero _)
  | succ fuel ih =>
    cases ps with
    | nil => exact absurd rfl hps
    | cons p ps =>
    have hp := hcolon p List.mem_cons_self
    have hrestcolon : ∀ q ∈ ps, (0x3A : UInt8) ∉ q := fun q hq => hcolon q (List.mem_cons_of_mem p hq)
    by_cases hnil : p :: ps = [[]]
    · -- the text has ended
      have hs := intercalate_eq_nil_iff.mpr hnil
      rw [hs]
      show (Except.ok (groups, dcolon) : Except Rc _) = .ok r ↔ _
      refine ⟨fun h => .inl ⟨hnil, (Except.ok.inj h).symm⟩, ?_⟩
      rintro (⟨-, rfl⟩ | ⟨gs, hgs, -⟩ | ⟨-, L, ls, R, rs, hL, hls, hparts, -⟩)
      · rfl
      · rw [hnil] at hgs
        exact absurd rfl (hgs.ne_nil [] List.mem_cons_self)
      · have hlen := congrArg List.length (hnil.symm.trans hparts)
        have hL := List.length_pos_of_ne_nil hL
        simp only [List.length_append, List.length_cons, List.length_nil] at hlen
        omega
    have hs : List.intercalate [0x3A] (p :: ps) ≠ [] := fun h => hnil (intercalate_eq_nil_iff.mp h)
    obtain ⟨rest, heq, hrest⟩ := intercalate_split p ps
    have hhead : rest = [] ∨ rest.head? = some 0x3A := by
      rcases hrest with ⟨-, rfl⟩ | ⟨-, rfl⟩
      · exact .inl rfl
      · exact .inr rfl
    have hdot := addrHasDot_iff hp hhead
    have hgroup := @addrHexGroup_eq _ _ 0 0 hp hhead (by decide)
    rw [heq] at hs hfuel ⊢
    unfold addrParseIpv6Loop
    rw [if_neg hs]
    by_cases hfull : groups.length ≥ 8
    · rw [if_pos hfull]
      exact ⟨fun h => (by cases h), fun h => absurd h (not_loopRest_full hnil hfull)⟩
    rw [if_neg hfull]
    by_cases hisdot : (0x2E : UInt8) ∈ p
    · -- a dotted quad, which has no colon behind it
      rw [if_pos (hdot.mpr hisdot), loopRest_quad hisdot]
      by_cases hsix : groups.length > 6
      · rw [if_pos hsix]
        refine ⟨fun h => (by cases h), ?_⟩
        rintro ⟨_, _, _, _, _, _, h, _⟩
        exact absurd hsix (Nat.not_lt.mpr h)
      rw [if_neg hsix]
      cases hv : addrParseIpv4 (p ++ rest) with
      | error rc =>
        refine ⟨fun h => (by cases h), ?_⟩
        rintro ⟨hnone, a, b, c, d, hquad, -⟩
        rcases hrest with ⟨-, rfl⟩ | ⟨hne, -⟩
        · rw [List.append_nil, (addrParseIpv4_iff _ _).mpr hquad] at hv
          cases hv
        · exact absurd hnone hne
      | ok v =>
        have hquad := (addrParseIpv4_iff _ _).mp hv
        rcases hrest with ⟨rfl, rfl⟩ | ⟨-, rfl⟩
        · rw [List.append_nil] at hquad
          obtain ⟨a, b, c, d, rfl⟩ := hquad.octets
          refine ⟨fun h => ⟨rfl, a, b, c, d, hquad, Nat.not_lt.mp hsix, (Except.ok.inj h).symm⟩, ?_⟩
          rintro ⟨-, a', b', c', d', hquad', -, rfl⟩
          obtain ⟨rfl, rfl, rfl, rfl⟩ : a = a' ∧ b = b' ∧ c = c' ∧ d = d' := by
            have h := hquad.2.2.trans hquad'.2.2.symm
            simpa only [List.cons.injEq, and_true] using h
          rfl
        · exact absurd (List.mem_append_right p List.mem_cons_self) hquad.no_colon
    rw [if_neg fun h => hisdot (hdot.mp h), hgroup]
    by_cases hgood : (∀ c ∈ p, (hexDigit c).isSome) ∧ (p = [] ∨ 0 + p.length ≤ 4)
    swap
    · rw [if_neg hgood]
      refine ⟨fun h => (by cases h), fun h => absurd h (not_loopRest hnil ?_ fun h => hisdot h.1)⟩
      rintro ⟨g, hg⟩
      exact hgood ⟨hg.2.2.1, .inr (by rw [Nat.zero_add]; exact hg.2.1)⟩
    rw [if_pos hgood]
    dsimp only
    by_cases hempty : p = []
    · rw [if_pos (by rw [hempty]; rfl)]
      exact ⟨fun h => (by cases h), fun h => absurd h (not_loopRest hnil
        (fun h => h.choose_spec.1 hempty) fun h => hisdot h.1)⟩
    have hpos := List.length_pos_of_ne_nil hempty
    have hhex : HexGroup p (hexFrom 0 p) := by
      refine ⟨hempty, ?_, hgood.1, rfl⟩
      have := hgood.2.resolve_left hempty
      omega
    rw [if_neg (by omega)]
    rw [List.length_append] at hfuel
    have hlen1 : (groups ++ [hexFrom 0 p]).length = groups.length + 1 := List.length_append
    rcases hrest with ⟨rfl, rfl⟩ | ⟨hne, rfl⟩
    · rw [loopRest_last hhex]
      exact ⟨fun h => ⟨by omega, (Except.ok.inj h).symm⟩, fun h => congrArg Except.ok h.2.symm⟩
    cases ps with
    | nil => exact absurd rfl hne
    | cons q qs =>
      have hq := hrestcolon q List.mem_cons_self
      rw [List.length_cons] at hfuel
      obtain ⟨rest', heq', hrest'⟩ := intercalate_split q qs
      cases q with
      | nil =>
        rcases hrest' with ⟨rfl, rfl⟩ | ⟨hne', rfl⟩
        · -- a single colon at the end
          rw [heq']
          exact ⟨fun h => (by cases h), fun h => absurd h not_loopRest_colon⟩
        · cases qs with
          | nil => exact absurd rfl hne'
          | cons q' qs =>
            rw [heq'] at hfuel ⊢
            rw [List.nil_append, List.length_cons] at hfuel
            rw [loopRest_dcolon hhex]
            show (if (0x3A : UInt8) = 0x3A then
              (if dcolon.isSome then Except.error Rc.parse else addrParseIpv6Loop fuel
                (List.intercalate [0x3A] (q' :: qs)) (groups ++ [hexFrom 0 p])
                (some (groups ++ [hexFrom 0 p]).length)) else _) = _ ↔ _
            rw [if_pos rfl, hlen1]
            cases dcolon with
            | some i => exact ⟨fun h => (by cases h), fun h => by cases h.2.1⟩
            | none =>
              rw [if_neg (by decide), ih (List.cons_ne_nil _ _)
                (fun r hr => hrestcolon r (List.mem_cons_of_mem _ hr)) (by omega) (by omega)]
              exact ⟨fun h => ⟨by omega, rfl, h⟩, fun h => h.2.2⟩
      | cons c q =>
        have hc : c ≠ 0x3A := fun h => hq (h ▸ List.mem_cons_self)
        rw [loopRest_cons hhex (List.cons_ne_nil c q),
          ← ih (List.cons_ne_nil _ _) hrestcolon (by omega) (by omega), heq', List.cons_append]
        show (if c = 0x3A then _ else addrParseIpv6Loop fuel (c :: (q ++ rest'))
          (groups ++ [hexFrom 0 p]) dcolon) = _ ↔ _
        rw [if_neg hc]
        exact ⟨fun h => ⟨by omega, h⟩, fun h => h.2⟩

/-! ### The IPv6 parser -/

theorem ipv6Literal_iff {emptyRuns : Bool} {gap : Nat} {ps : List (List UInt8)} {gs : List Nat} :
    Ipv6Literal emptyRuns gap ps gs ↔
      Groups emptyRuns ps gs ∧ gs.length = 8 ∨
      ∃ L ls R rs, ps = sideParts L ++ [] :: sideParts R ∧ List.Forall₂ HexGroup L ls ∧
        GroupsOrNone emptyRuns R rs ∧ ls.length + rs.length + gap ≤ 8 ∧
          gs = ls ++ List.replicate (8 - (ls.length + rs.length)) 0 ++ rs := by
  constructor
  · intro h
    cases h with
    | full h hlen => exact .inl ⟨h, hlen⟩
    | compressed hL hR hlen => exact .inr ⟨_, _, _, _, rfl, hL, hR, hlen, rfl⟩
  · rintro (⟨h, hlen⟩ | ⟨L, ls, R, rs, rfl, hL, hR, hlen, rfl⟩)
    · exact .full h hlen
    · exact .compressed hL hR hlen

/-- A text that begins with "::", by its parts. -/
theorem splitOn_leading (s : List UInt8) :
    (0x3A :: 0x3A :: s).splitOn 0x3A = [] :: [] :: s.splitOn 0x3A := by
  rw [List.splitOn_cons_eq_if_modifyHead, if_pos (beq_self_eq_true _),
    List.splitOn_cons_eq_if_modifyHead, if_pos (beq_self_eq_true _)]

/-- A text whose first part is nothing begins with "::". -/
theorem leading_of_sideParts {s : List UInt8} {ps : List (List UInt8)} (hps : ps ≠ [])
    (h : s.splitOn 0x3A = [] :: [] :: ps) : ∃ t, s = 0x3A :: 0x3A :: t := by
  cases ps with
  | nil => exact absurd rfl hps
  | cons p ps =>
    refine ⟨List.intercalate [0x3A] (p :: ps), ?_⟩
    rw [← @List.intercalate_splitOn _ s _ _ (0x3A : UInt8), h, List.intercalate_cons_cons,
      List.intercalate_cons_cons]
    rfl

/-- "::" at the beginning. -/
theorem ipv6Literal_leading {emptyRuns : Bool} {gap : Nat} {ps : List (List UInt8)} {gs : List Nat}
    (hps : ps ≠ []) :
    Ipv6Literal emptyRuns gap ([] :: [] :: ps) gs ↔
      ∃ R rs, ps = sideParts R ∧ GroupsOrNone emptyRuns R rs ∧ rs.length + gap ≤ 8 ∧
        gs = List.replicate (8 - rs.length) 0 ++ rs := by
  rw [ipv6Literal_iff]
  constructor
  · rintro (⟨h, -⟩ | ⟨L, ls, R, rs, hparts, hL, hR, hlen, rfl⟩)
    · exact absurd rfl (h.ne_nil [] List.mem_cons_self)
    · cases hL with
      | nil =>
        obtain ⟨-, hparts⟩ := List.cons.inj hparts
        obtain ⟨-, hparts⟩ := List.cons.inj hparts
        rw [List.length_nil, Nat.zero_add] at hlen
        refine ⟨R, rs, hparts, hR, hlen, ?_⟩
        rw [List.length_nil, Nat.zero_add]
        rfl
      | cons h _ =>
        unfold sideParts at hparts
        rw [if_neg (List.cons_ne_nil _ _)] at hparts
        exact absurd (List.cons.inj hparts).1.symm h.1
  · rintro ⟨R, rs, rfl, hR, hlen, rfl⟩
    refine .inr ⟨[], [], R, rs, rfl, .nil, hR, ?_, ?_⟩
    · rw [List.length_nil, Nat.zero_add]
      exact hlen
    · rw [List.length_nil, Nat.zero_add]
      rfl

/-- **What `addr_parse_ipv6` accepts**: literals in which runs of a dotted quad may be empty and "::"
may stand for no group. -/
theorem addrParseIpv6_iff (s v : List UInt8) :
    addrParseIpv6 s = .ok v ↔
      ∃ gs, Ipv6Literal true 0 (s.splitOn 0x3A) gs ∧ v = groupBytes gs := by
  have hcolon (t : List UInt8) : ∀ p ∈ t.splitOn 0x3A, (0x3A : UInt8) ∉ p :=
    fun p hp => not_mem_of_mem_splitOn hp
  unfold addrParseIpv6
  dsimp only
  by_cases hs : s = []
  · rw [if_pos hs, hs]
    refine ⟨fun h => (by cases h), ?_⟩
    rintro ⟨gs, hgs, -⟩
    rcases ipv6Literal_iff.mp hgs with ⟨h, -⟩ | ⟨L, ls, R, rs, hparts, -⟩
    · exact absurd rfl (h.ne_nil [] List.mem_cons_self)
    · have hlen := congrArg List.length hparts
      have := List.length_pos_of_ne_nil (sideParts_ne_nil L)
      rw [List.length_append, List.length_cons] at hlen
      have hone : (List.splitOn (0x3A : UInt8) []).length = 1 := rfl
      omega
  rw [if_neg hs]
  by_cases hlead : ∃ t, s = 0x3A :: 0x3A :: t
  · -- "::" at the beginning
    obtain ⟨t, rfl⟩ := hlead
    have hloop (r : List Nat × Option Nat) :=
      @addrParseIpv6Loop_iff ((0x3A :: 0x3A :: t).length + 1) (t.splitOn 0x3A) [] (some 0) r
        (List.splitOn_ne_nil _ _) (hcolon t)
        (by rw [List.intercalate_splitOn, List.length_cons, List.length_cons]; omega) (by decide)
    rw [List.intercalate_splitOn] at hloop
    rw [splitOn_leading]
    simp only [ipv6Literal_leading (List.splitOn_ne_nil (0x3A : UInt8) t)]
    rw [if_pos (show (ascii "::").isPrefixOf (0x3A :: 0x3A :: t) = true from rfl),
      if_pos (show (ascii "::").isPrefixOf (0x3A :: 0x3A :: t) = true from rfl)]
    rw [show (0x3A :: 0x3A :: t).drop 2 = t from rfl]
    -- what the loop leaves, as the groups behind "::"
    have hrest (r : List Nat × Option Nat) : LoopRest (t.splitOn 0x3A) [] (some 0) r ↔
        ∃ R rs, t.splitOn 0x3A = sideParts R ∧ GroupsOrNone true R rs ∧ rs.length ≤ 8 ∧
          r = (rs, some 0) := by
      have hside (rs : List Nat) :=
        @sideParts_rest (t.splitOn 0x3A) rs (List.splitOn_ne_nil (0x3A : UInt8) t)
      constructor
      · rintro (⟨hnone, rfl⟩ | ⟨gs, hgs, hlen, rfl⟩ | ⟨h, -⟩)
        · obtain ⟨R, hR, hgs⟩ := (hside []).mpr (.inl ⟨hnone, rfl⟩)
          exact ⟨R, [], hR, hgs, by decide, rfl⟩
        · obtain ⟨R, hR, hgs⟩ := (hside gs).mpr (.inr hgs)
          rw [List.length_nil, Nat.zero_add] at hlen
          exact ⟨R, gs, hR, hgs, hlen, rfl⟩
        · cases h
      · rintro ⟨R, rs, hR, hgs, hlen, rfl⟩
        rcases (hside rs).mp ⟨R, hR, hgs⟩ with ⟨hnone, rfl⟩ | hgs
        · exact .inl ⟨hnone, rfl⟩
        · exact .inr (.inl ⟨rs, hgs, by rw [List.length_nil, Nat.zero_add]; exact hlen, rfl⟩)
    have hexpand {rs : List Nat} (hlen : rs.length ≤ 8) : addrExpandIpv6 rs (some 0) =
        .ok (groupBytes (List.replicate (8 - rs.length) 0 ++ rs)) := by
      unfold addrExpandIpv6
      dsimp only
      rw [if_neg (Nat.not_lt.mpr hlen), List.take_zero, List.drop_zero, List.nil_append]
      rfl
    cases hr : addrParseIpv6Loop ((0x3A :: 0x3A :: t).length + 1) t [] (some 0) with
    | error rc =>
      refine ⟨fun h => (by cases h), ?_⟩
      rintro ⟨gs, ⟨R, rs, hR, hgs, hlen, -⟩, -⟩
      rw [(hloop (rs, some 0)).mpr ((hrest _).mpr ⟨R, rs, hR, hgs, hlen, rfl⟩)] at hr
      cases hr
    | ok r =>
      obtain ⟨R, rs, hR, hgs, hlen, rfl⟩ := (hrest r).mp ((hloop r).mp hr)
      dsimp only
      rw [hexpand hlen]
      refine ⟨fun h => ⟨_, ⟨R, rs, hR, hgs, hlen, rfl⟩, (Except.ok.inj h).symm⟩, ?_⟩
      rintro ⟨gs, ⟨R', rs', hR', hgs', hlen', rfl⟩, rfl⟩
      have h := (hloop (rs', some 0)).mpr ((hrest _).mpr ⟨R', rs', hR', hgs', hlen', rfl⟩)
      obtain rfl : rs = rs' := (Prod.mk.inj (Except.ok.inj (hr.symm.trans h))).1
      rfl
  · have hno : ¬(ascii "::").isPrefixOf s = true := by
      intro h
      obtain ⟨t, ht⟩ := List.isPrefixOf_iff_prefix.mp h
      exact hlead ⟨t, ht.symm⟩
    have hloop (r : List Nat × Option Nat) :=
      @addrParseIpv6Loop_iff (s.length + 1) (s.splitOn 0x3A) [] none r
        (List.splitOn_ne_nil _ _) (hcolon s)
        (by rw [List.intercalate_splitOn]; exact Nat.lt_succ_self _) (by decide)
    rw [List.intercalate_splitOn] at hloop
    rw [if_neg hno, if_neg hno]
    have hfull {gs : List Nat} (hlen : gs.length = 8) :
        addrExpandIpv6 gs none = .ok (groupBytes gs) := by
      unfold addrExpandIpv6
      dsimp only
      rw [if_neg (not_not.mpr hlen)]
      rfl
    have hexpand {ls rs : List Nat} (hlen : ls.length + rs.length ≤ 8) :
        addrExpandIpv6 (ls ++ rs) (some ls.length) =
          .ok (groupBytes (ls ++ List.replicate (8 - (ls.length + rs.length)) 0 ++ rs)) := by
      unfold addrExpandIpv6
      dsimp only
      rw [List.length_append, if_neg (Nat.not_lt.mpr hlen), List.take_left, List.drop_left]
      rfl
    -- the two forms of a literal, as what the loop leaves
    have hrest (v : List UInt8) : (∃ r, LoopRest (s.splitOn 0x3A) [] none r ∧
        addrExpandIpv6 r.1 r.2 = .ok v) ↔
          ∃ gs, Ipv6Literal true 0 (s.splitOn 0x3A) gs ∧ v = groupBytes gs := by
      constructor
      · rintro ⟨r, ⟨hnone, -⟩ | ⟨gs, hgs, hlen, rfl⟩ | ⟨-, L, ls, R, rs, hL, hls, hparts, hR, hlen, rfl⟩,
          hv⟩
        · have hnil := @List.intercalate_splitOn _ s _ _ (0x3A : UInt8)
          rw [hnone] at hnil
          exact absurd hnil.symm hs
        · unfold addrExpandIpv6 at hv
          dsimp only at hv
          split at hv
          · cases hv
          · rename_i h8
            have h8 := not_not.mp h8
            exact ⟨gs, .full hgs h8, (Except.ok.inj hv).symm⟩
        · rw [List.length_nil, Nat.zero_add] at hlen
          have h := @hexpand ls rs hlen
          rw [List.nil_append, List.length_nil, Nat.zero_add, h] at hv
          refine ⟨_, ipv6Literal_iff.mpr (.inr ⟨L, ls, R, rs, ?_, hls, hR, hlen, rfl⟩),
            (Except.ok.inj hv).symm⟩
          rw [hparts]
          unfold sideParts
          rw [if_neg hL]
      · rintro ⟨gs, hgs, rfl⟩
        rcases ipv6Literal_iff.mp hgs with ⟨hgroups, hlen⟩ | ⟨L, ls, R, rs, hparts, hls, hR, hlen, rfl⟩
        · refine ⟨(gs, none), .inr (.inl ⟨gs, hgroups, ?_, rfl⟩), hfull hlen⟩
          rw [hlen]
          exact Nat.le_refl 8
        · have hL : L ≠ [] := by
            rintro rfl
            exact hlead (leading_of_sideParts (sideParts_ne_nil R) hparts)
          refine ⟨(ls ++ rs, some ls.length), .inr (.inr ⟨rfl, L, ls, R, rs, hL, hls, ?_, hR, ?_, ?_⟩),
            hexpand hlen⟩
          · rw [hparts]
            unfold sideParts
            rw [if_neg hL]
          · rw [List.length_nil, Nat.zero_add]
            exact hlen
          · rw [List.nil_append, List.length_nil, Nat.zero_add]
    rw [← hrest v]
    cases hr : addrParseIpv6Loop (s.length + 1) s [] none with
    | error rc =>
      refine ⟨fun h => (by cases h), ?_⟩
      rintro ⟨r, hleft, -⟩
      cases hr.symm.trans ((hloop r).mpr hleft)
    | ok r =>
      refine ⟨fun h => ⟨r, (hloop r).mp hr, h⟩, ?_⟩
      rintro ⟨r', hleft, hv⟩
      obtain rfl : r = r' := Except.ok.inj (hr.symm.trans ((hloop r').mpr hleft))
      exact hv

/-! ### Where the parsers keep to the standard -/

/-- A dotted quad with an empty run, on its own. -/
def EmptyRunQuad (s : List UInt8) : Prop := (∃ v, Quad true s v) ∧ [] ∈ s.splitOn 0x2E

/-- A dotted quad with an empty run, at the end of an IPv6 literal. -/
def EmptyRunTail (s : List UInt8) : Prop :=
  (∃ gs, Ipv6Literal true 0 (s.splitOn 0x3A) gs) ∧
    ∃ p v, (s.splitOn 0x3A).getLast? = some p ∧ Quad true p v ∧ [] ∈ p.splitOn 0x2E

/-- "::" beside eight groups. -/
def GapForNone (s : List UInt8) : Prop :=
  ∃ L ls R rs, s.splitOn 0x3A = sideParts L ++ [] :: sideParts R ∧ List.Forall₂ HexGroup L ls ∧
    GroupsOrNone true R rs ∧ ls.length + rs.length = 8

/-- Groups by the standard are groups. -/
theorem Groups.mono {ps : List (List UInt8)} {gs : List Nat} (h : Groups false ps gs) :
    Groups true ps gs := by
  induction h with
  | hex h => exact .hex h
  | quad h => exact .quad h.mono
  | cons h _ ih => exact .cons h ih

theorem Ipv6Literal.mono {ps : List (List UInt8)} {gs : List Nat} (h : Ipv6Literal false 1 ps gs) :
    Ipv6Literal true 0 ps gs := by
  cases h with
  | full h hlen => exact .full h.mono hlen
  | compressed hL hR hlen =>
    exact .compressed hL (hR.imp_right Groups.mono) (Nat.le_of_succ_le hlen)

/-- Without an empty run a dotted quad is one by the standard. -/
theorem quad_strict_iff {s v : List UInt8} :
    Quad false s v ↔ Quad true s v ∧ [] ∉ s.splitOn 0x2E := by
  constructor
  · intro h
    refine ⟨h.mono, fun hnil => ?_⟩
    rcases (h.2.1 [] hnil).1 with h | h
    · exact nomatch h
    · exact h rfl
  · rintro ⟨h, hnil⟩
    exact ⟨h.1, fun p hp => ⟨.inr fun hp' => hnil (hp' ▸ hp), (h.2.1 p hp).2⟩, h.2.2⟩

theorem groups_strict_iff {ps : List (List UInt8)} {gs : List Nat} :
    Groups false ps gs ↔ Groups true ps gs ∧
      ¬∃ p v, ps.getLast? = some p ∧ Quad true p v ∧ [] ∈ p.splitOn 0x2E := by
  constructor
  · intro h
    refine ⟨h.mono, ?_⟩
    induction h with
    | hex h =>
      rintro ⟨p, v, hp, hquad, -⟩
      obtain rfl := Option.some.inj hp
      exact h.no_dot hquad.dot
    | quad h =>
      rintro ⟨p, v, hp, -, hnil⟩
      obtain rfl := Option.some.inj hp
      exact (quad_strict_iff.mp h).2 hnil
    | @cons p g ps gs h hs ih =>
      rintro ⟨q, v, hq, hquad, hnil⟩
      cases ps with
      | nil => exact absurd rfl hs.parts
      | cons r ps => exact ih ⟨q, v, hq, hquad, hnil⟩
  · rintro ⟨h, hlast⟩
    induction h with
    | hex h => exact .hex h
    | quad h => exact .quad (quad_strict_iff.mpr ⟨h, fun hnil => hlast ⟨_, _, rfl, h, hnil⟩⟩)
    | @cons p g ps gs h hs ih =>
      refine .cons h (ih ?_)
      rintro ⟨q, v, hq, hquad, hnil⟩
      cases ps with
      | nil => exact nomatch hq
      | cons r ps => exact hlast ⟨q, v, hq, hquad, hnil⟩

/-- Parts have at most one reading as groups. -/
theorem Groups.unique {ps : List (List UInt8)} {gs gs' : List Nat} (h : Groups true ps gs)
    (h' : Groups true ps gs') : gs = gs' := by
  induction h generalizing gs' with
  | @hex p g h =>
    rcases (groups_hex_iff h).mp h' with ⟨-, rfl⟩ | ⟨_, hs, -⟩
    · rfl
    · exact absurd rfl hs.parts
  | @quad p a b c d h =>
    cases h' with
    | hex h' => exact absurd h.dot h'.no_dot
    | @quad _ a' b' c' d' h' =>
      obtain ⟨rfl, rfl, rfl, rfl⟩ : a = a' ∧ b = b' ∧ c = c' ∧ d = d' := by
        have heq := h.2.2.trans h'.2.2.symm
        simpa only [List.cons.injEq, and_true] using heq
      rfl
    | cons h' _ => exact absurd h.dot h'.no_dot
  | @cons p g ps gs h hs ih =>
    rcases (groups_hex_iff h).mp h' with ⟨hnone, -⟩ | ⟨gs', hs', rfl⟩
    · exact absurd hnone hs.parts
    · rw [ih hs']

/-- "::" stands at one place. -/
theorem sideParts_unique {L L' R R' : List (List UInt8)} {ls ls' rs rs' : List Nat}
    (hL : List.Forall₂ HexGroup L ls) (hL' : List.Forall₂ HexGroup L' ls')
    (hR : GroupsOrNone true R rs) (hR' : GroupsOrNone true R' rs')
    (h : sideParts L ++ [] :: sideParts R = sideParts L' ++ [] :: sideParts R') :
    ls.length = ls'.length ∧ rs = rs' := by
  -- the parts in front of the first empty one
  have hfront {L : List (List UInt8)} {ls : List Nat} (R : List (List UInt8))
      (hL : List.Forall₂ HexGroup L ls) :
      (sideParts L ++ [] :: sideParts R).takeWhile (fun p => !p.isEmpty) = L := by
    cases hL with
    | nil => rfl
    | @cons p g L ls h hs =>
      unfold sideParts
      rw [if_neg (List.cons_ne_nil _ _), List.takeWhile_append_of_pos]
      · exact List.append_nil _
      · intro q hq
        have hne := forall₂_ne_nil (.cons h hs) q hq
        rw [List.isEmpty_eq_false_iff.mpr hne]
        rfl
  obtain rfl : L = L' := (hfront R hL).symm.trans (h ▸ hfront R' hL')
  have hside := (List.cons.inj (List.append_cancel_left h)).2
  refine ⟨hL.length_eq.symm.trans hL'.length_eq, ?_⟩
  rcases (sideParts_rest (sideParts_ne_nil R)).mp ⟨R, rfl, hR⟩ with ⟨hnone, rfl⟩ | hgs <;>
    rcases (sideParts_rest (sideParts_ne_nil R)).mp ⟨R', hside, hR'⟩ with ⟨hnone', rfl⟩ | hgs'
  · rfl
  · exact absurd rfl (hgs'.ne_nil [] (hnone ▸ List.mem_cons_self))
  · exact absurd rfl (hgs.ne_nil [] (hnone' ▸ List.mem_cons_self))
  · exact hgs.unique hgs'

/-- The last part is that behind "::". -/
theorem getLast?_sideParts (L R : List (List UInt8)) :
    (sideParts L ++ [] :: sideParts R).getLast? = (sideParts R).getLast? := by
  rw [List.getLast?_append_cons, List.getLast?_cons_of_ne_nil (sideParts_ne_nil R)]

/-- **The literals of the standard** are those without an empty run and without "::" beside eight
groups. -/
theorem ipv6Literal_strict_iff {s : List UInt8} {gs : List Nat} :
    Ipv6Literal false 1 (s.splitOn 0x3A) gs ↔
      Ipv6Literal true 0 (s.splitOn 0x3A) gs ∧ ¬EmptyRunTail s ∧ ¬GapForNone s := by
  constructor
  · intro h
    refine ⟨h.mono, ?_, ?_⟩
    · rintro ⟨-, hlast⟩
      rcases ipv6Literal_iff.mp h with ⟨hgs, -⟩ | ⟨L, ls, R, rs, hparts, -, hR, -⟩
      · exact (groups_strict_iff.mp hgs).2 hlast
      · rw [hparts, getLast?_sideParts] at hlast
        rcases hR with ⟨rfl, -⟩ | hgs
        · obtain ⟨p, v, hp, hquad, -⟩ := hlast
          obtain rfl := Option.some.inj hp
          exact absurd hquad.dot List.not_mem_nil
        · unfold sideParts at hlast
          rw [if_neg hgs.parts] at hlast
          exact (groups_strict_iff.mp hgs).2 hlast
    · rintro ⟨L, ls, R, rs, hparts, hL, hR, hlen⟩
      rcases ipv6Literal_iff.mp h with ⟨hgs, -⟩ | ⟨L', ls', R', rs', hparts', hL', hR', hlen', -⟩
      · refine absurd rfl (hgs.ne_nil [] ?_)
        rw [hparts]
        exact List.mem_append_right _ List.mem_cons_self
      · obtain ⟨hls, rfl⟩ :=
          sideParts_unique hL hL' hR (hR'.imp_right Groups.mono) (hparts.symm.trans hparts')
        omega
  · rintro ⟨h, htail, hgap⟩
    rcases ipv6Literal_iff.mp h with ⟨hgs, hlen⟩ | ⟨L, ls, R, rs, hparts, hL, hR, hlen, rfl⟩
    · exact .full (groups_strict_iff.mpr ⟨hgs, fun hlast => htail ⟨⟨gs, h⟩, hlast⟩⟩) hlen
    · refine ipv6Literal_iff.mpr (.inr ⟨L, ls, R, rs, hparts, hL, hR.imp_right fun hgs => ?_, ?_, rfl⟩)
      · refine groups_strict_iff.mpr ⟨hgs, fun hlast => htail ⟨⟨_, h⟩, ?_⟩⟩
        rw [hparts, getLast?_sideParts]
        unfold sideParts
        rw [if_neg hgs.parts]
        exact hlast
      · have hne : ls.length + rs.length ≠ 8 := fun h8 => hgap ⟨L, ls, R, rs, hparts, hL, hR, h8⟩
        omega

/-- An IPv6 literal has a colon. -/
theorem colon_of_ipv6Literal {s : List UInt8} {gs : List Nat}
    (h : Ipv6Literal true 0 (s.splitOn 0x3A) gs) : (0x3A : UInt8) ∈ s := by
  by_contra hcolon
  rw [List.splitOn_eq_singleton hcolon] at h
  rcases ipv6Literal_iff.mp h with ⟨hgs, hlen⟩ | ⟨L, ls, R, rs, hparts, -⟩
  · cases hgs with
    | hex h => exact nomatch hlen
    | quad h => exact nomatch hlen
    | cons h hs => exact hs.parts rfl
  · have hlen := congrArg List.length hparts
    have := List.length_pos_of_ne_nil (sideParts_ne_nil L)
    simp only [List.length_append, List.length_cons, List.length_nil] at hlen
    omega

/-- **`addr_parse_auto` accepts what one of the two accepts**, with its family. -/
theorem addrParseAuto_iff (s : List UInt8) (family : UInt8) (v : List UInt8) :
    addrParseAuto s = .ok (family, v) ↔
      family = 4 ∧ (∃ w, addrParseIpv4 s = .ok w ∧ v = w ++ List.replicate 12 0) ∨
      family = 6 ∧ addrParseIpv6 s = .ok v := by
  unfold addrParseAuto
  by_cases hs : s = []
  · rw [if_pos hs, hs]
    refine ⟨nofun, ?_⟩
    rintro (⟨-, w, hw, -⟩ | ⟨-, hv⟩)
    · exact nomatch hw
    · exact nomatch hv
  rw [if_neg hs]
  by_cases hcolon : (0x3A : UInt8) ∈ s
  · rw [if_pos (List.contains_iff_mem.mpr hcolon)]
    have hno (w : List UInt8) : addrParseIpv4 s ≠ .ok w := fun hw =>
      ((addrParseIpv4_iff s w).mp hw).no_colon hcolon
    cases h6 : addrParseIpv6 s with
    | error rc =>
      refine ⟨nofun, ?_⟩
      rintro (⟨-, w, hw, -⟩ | ⟨-, hv⟩)
      · exact absurd hw (hno w)
      · exact nomatch hv
    | ok w =>
      refine ⟨fun h => ?_, ?_⟩
      · obtain ⟨rfl, rfl⟩ := Prod.mk.inj (Except.ok.inj h)
        exact .inr ⟨rfl, rfl⟩
      · rintro (⟨-, w, hw, -⟩ | ⟨rfl, hv⟩)
        · exact absurd hw (hno w)
        · rw [Except.ok.inj hv]
          rfl
  · rw [if_neg fun h => hcolon (List.contains_iff_mem.mp h)]
    have hno (w : List UInt8) : addrParseIpv6 s ≠ .ok w := by
      intro hw
      obtain ⟨gs, hgs, -⟩ := (addrParseIpv6_iff s w).mp hw
      exact hcolon (colon_of_ipv6Literal hgs)
    cases h4 : addrParseIpv4 s with
    | error rc =>
      refine ⟨nofun, ?_⟩
      rintro (⟨-, w, hw, -⟩ | ⟨-, hv⟩)
      · exact nomatch hw
      · exact absurd hv (hno v)
    | ok w =>
      refine ⟨fun h => ?_, ?_⟩
      · obtain ⟨rfl, rfl⟩ := Prod.mk.inj (Except.ok.inj h)
        exact .inl ⟨rfl, w, rfl, rfl⟩
      · rintro (⟨rfl, w', hw, rfl⟩ | ⟨-, hv⟩)
        · rw [Except.ok.inj hw]
          rfl
        · exact absurd hv (hno v)

/-- **When the parsers accept what the standard says.** They do on a text exactly where it is not a
dotted quad with an empty run, on its own or at the end of an IPv6 literal, and not a literal with
"::" beside eight groups. -/
theorem addrParse_exact_iff (s : List UInt8) :
    ((∀ v, addrParseIpv4 s = .ok v ↔ Quad false s v) ∧
      (∀ v, addrParseIpv6 s = .ok v ↔
        ∃ gs, Ipv6Literal false 1 (s.splitOn 0x3A) gs ∧ v = groupBytes gs) ∧
      ∀ family v, addrParseAuto s = .ok (family, v) ↔
        family = 4 ∧ (∃ w, addrParseIpv4 s = .ok w ∧ v = w ++ List.replicate 12 0) ∨
        family = 6 ∧ addrParseIpv6 s = .ok v) ↔
    ¬(EmptyRunQuad s ∨ EmptyRunTail s ∨ GapForNone s) := by
  constructor
  · rintro ⟨h4, h6, -⟩
    -- a literal that the parser takes would be one by the standard
    have hstrict {gs : List Nat} (hgs : Ipv6Literal true 0 (s.splitOn 0x3A) gs) :
        ¬EmptyRunTail s ∧ ¬GapForNone s := by
      obtain ⟨gs', hgs', -⟩ := (h6 _).mp ((addrParseIpv6_iff s _).mpr ⟨gs, hgs, rfl⟩)
      exact (ipv6Literal_strict_iff.mp hgs').2
    rintro (⟨⟨v, hquad⟩, hnil⟩ | htail | hgap)
    · exact (quad_strict_iff.mp ((h4 v).mp ((addrParseIpv4_iff s v).mpr hquad))).2 hnil
    · obtain ⟨gs, hgs⟩ := htail.1
      exact (hstrict hgs).1 htail
    · obtain ⟨L, ls, R, rs, hparts, hL, hR, hlen⟩ := hgap
      exact (hstrict (ipv6Literal_iff.mpr (.inr ⟨L, ls, R, rs, hparts, hL, hR, by omega, rfl⟩))).2
        ⟨L, ls, R, rs, hparts, hL, hR, hlen⟩
  · intro h
    refine ⟨fun v => ?_, fun v => ?_, addrParseAuto_iff s⟩
    · rw [addrParseIpv4_iff, quad_strict_iff]
      exact ⟨fun hquad => ⟨hquad, fun hnil => h (.inl ⟨⟨v, hquad⟩, hnil⟩)⟩, fun h => h.1⟩
    · rw [addrParseIpv6_iff]
      constructor
      · rintro ⟨gs, hgs, rfl⟩
        exact ⟨gs, ipv6Literal_strict_iff.mpr
          ⟨hgs, fun htail => h (.inr (.inl htail)), fun hgap => h (.inr (.inr hgap))⟩, rfl⟩
      · rintro ⟨gs, hgs, rfl⟩
        exact ⟨gs, hgs.mono, rfl⟩

/-- "1..2.3" and "1:2:3:4:5:6:7:8::" are accepted and are no literals. -/
theorem addrParse_admits :
    (addrParseIpv4 (ascii "1..2.3") = .ok [1, 0, 2, 3] ∧ ¬∃ v, Quad false (ascii "1..2.3") v) ∧
      addrParseIpv6 (ascii "1:2:3:4:5:6:7:8::") =
        .ok [0, 1, 0, 2, 0, 3, 0, 4, 0, 5, 0, 6, 0, 7, 0, 8] ∧
      ¬∃ gs, Ipv6Literal false 1 ((ascii "1:2:3:4:5:6:7:8::").splitOn 0x3A) gs := by
  refine ⟨⟨by decide +kernel, ?_⟩, by decide +kernel, ?_⟩
  · rintro ⟨v, hquad⟩
    exact (quad_strict_iff.mp hquad).2 (by decide +kernel)
  · rintro ⟨gs, hgs⟩
    have hparts : (ascii "1:2:3:4:5:6:7:8::").splitOn 0x3A =
        sideParts [[0x31], [0x32], [0x33], [0x34], [0x35], [0x36], [0x37], [0x38]] ++
          [] :: sideParts [] := by decide +kernel
    have hgroup {c : UInt8} {g : Nat} (h : hexDigit c = some g) : HexGroup [c] g := by
      refine ⟨List.cons_ne_nil _ _, by show 1 ≤ 4; decide, fun d hd => ?_, ?_⟩
      · rw [List.mem_singleton.mp hd, h]
        rfl
      · show g = 0 * 16 + (hexDigit c).getD 0
        rw [h, Nat.zero_mul, Nat.zero_add]
        rfl
    refine (ipv6Literal_strict_iff.mp hgs).2.2 ⟨_, [1, 2, 3, 4, 5, 6, 7, 8], [], [], hparts, ?_,
      .inl ⟨rfl, rfl⟩, rfl⟩
    exact .cons (hgroup rfl) (.cons (hgroup rfl) (.cons (hgroup rfl) (.cons (hgroup rfl)
      (.cons (hgroup rfl) (.cons (hgroup rfl) (.cons (hgroup rfl) (.cons (hgroup rfl) .nil)))))))

end Nanortc.Spec
