import Nanortc.ForStd.Text
import Nanortc.Native.Types

/-!
# Addresses as text

IPv4 and IPv6 literals after `nano_addr.c`: a literal is parsed to the bytes of the address, and the
bytes are formatted to a literal. What parses is printable.
-/

namespace Nanortc.Native

open Nanortc.ForStd

/-- `NANORTC_IPV6_STR_SIZE`. -/
def ipv6StrSize : Nat := 46

/-! ### Parsing -/

/-- The loop of `addr_parse_ipv4` with the octets and the value so far. -/
def addrParseIpv4Loop : (s out : List UInt8) → (val : Nat) → Except Rc (List UInt8)
  | [], out, val =>
    if out.length ≥ 4 ∨ val > 255 then .error .parse
    else if out.length + 1 ≠ 4 then .error .parse
    else .ok (out ++ [UInt8.ofNat val])
  | c :: s, out, val =>
    if c = 0x2E then
      if out.length ≥ 4 ∨ val > 255 then .error .parse
      else addrParseIpv4Loop s (out ++ [UInt8.ofNat val]) 0
    else if isDigit c then
      let val := val * 10 + (c.toNat - 0x30)
      if val > 255 then .error .parse else addrParseIpv4Loop s out val
    else .error .parse

/-- `addr_parse_ipv4`. -/
def addrParseIpv4 (s : List UInt8) : Except Rc (List UInt8) :=
  if s = [] then .error .invalidParam else addrParseIpv4Loop s [] 0

/-- `hex_digit`. -/
def hexDigit (c : UInt8) : Option Nat :=
  if isDigit c then some (c.toNat - 0x30)
  else if 0x61 ≤ c ∧ c ≤ 0x66 then some (10 + (c.toNat - 0x61))
  else if 0x41 ≤ c ∧ c ≤ 0x46 then some (10 + (c.toNat - 0x41))
  else none

/-- One hexadecimal group of an IPv6 literal: its value, its digits and what follows. -/
def addrHexGroup : (s : List UInt8) → (digits val : Nat) → Except Rc (Nat × Nat × List UInt8)
  | [], digits, val => .ok (val, digits, [])
  | c :: s, digits, val =>
    if c = 0x3A then .ok (val, digits, c :: s)
    else
      match hexDigit c with
      | none => .error .parse
      | some d =>
        let val := val * 16 + d
        if val > 0xFFFF ∨ digits + 1 > 4 then .error .parse else addrHexGroup s (digits + 1) val

/-- The rest of an IPv6 literal has a dot before its next colon. -/
def addrHasDot (s : List UInt8) : Bool :=
  s.find? (fun c => c == 0x2E || c == 0x3A) == some 0x2E

/-- The loop of `addr_parse_ipv6` with the groups so far and the place of "::". Every turn but the
last consumes a character. -/
def addrParseIpv6Loop : (fuel : Nat) → (s : List UInt8) → (groups : List Nat) →
    (dcolon : Option Nat) → Except Rc (List Nat × Option Nat)
  | 0, _, groups, dcolon => .ok (groups, dcolon)
  | fuel + 1, s, groups, dcolon =>
    if s = [] then .ok (groups, dcolon)
    else if groups.length ≥ 8 then .error .parse
    else if addrHasDot s then
      -- an IPv4 literal stands for the last two groups
      if groups.length > 6 then .error .parse
      else
        match addrParseIpv4 s with
        | .error rc => .error rc
        | .ok v =>
          .ok (groups ++ [(byteAt v 0).toNat * 256 + (byteAt v 1).toNat,
            (byteAt v 2).toNat * 256 + (byteAt v 3).toNat], dcolon)
    else
      match addrHexGroup s 0 0 with
      | .error rc => .error rc
      | .ok (val, digits, rest) =>
        if digits = 0 then .error .parse
        else
          let groups := groups ++ [val]
          match rest with
          | [] => .ok (groups, dcolon)
          | [_] => .error .parse
          | _ :: c :: rest =>
            if c = 0x3A then
              if dcolon.isSome then .error .parse
              else addrParseIpv6Loop fuel rest groups (some groups.length)
            else addrParseIpv6Loop fuel (c :: rest) groups dcolon

/-- The bytes of the groups of an IPv6 literal. -/
def addrExpandIpv6 (groups : List Nat) (dcolon : Option Nat) : Except Rc (List UInt8) :=
  let bytes (gs : List Nat) : List UInt8 := gs.flatMap fun g => u16be (UInt16.ofNat g)
  match dcolon with
  | some i =>
    if groups.length > 8 then .error .parse
    else
      .ok (bytes (groups.take i ++ List.replicate (8 - groups.length) 0 ++ groups.drop i))
  | none => if groups.length ≠ 8 then .error .parse else .ok (bytes groups)

/-- `addr_parse_ipv6`. -/
def addrParseIpv6 (s : List UInt8) : Except Rc (List UInt8) :=
  let leading := (ascii "::").isPrefixOf s
  if s = [] then .error .invalidParam
  else
    match addrParseIpv6Loop (s.length + 1) (if leading then s.drop 2 else s) []
        (if leading then some 0 else none) with
    | .error rc => .error rc
    | .ok (groups, dcolon) => addrExpandIpv6 groups dcolon

/-- `addr_parse_auto`: the family and the bytes of a literal. -/
def addrParseAuto (s : List UInt8) : Except Rc (UInt8 × List UInt8) :=
  if s = [] then .error .invalidParam
  else if s.contains 0x3A then (addrParseIpv6 s).map (6, ·)
  else (addrParseIpv4 s).map fun v => (4, v ++ List.replicate 12 0)

/-! ### What parses is printable -/

theorem printable_of_addrParseIpv4Loop {s out v : List UInt8} {val : Nat}
    (h : addrParseIpv4Loop s out val = .ok v) : s.all isPrintable = true := by
  induction s generalizing out val with
  | nil => rfl
  | cons c s ih =>
    unfold addrParseIpv4Loop at h
    rw [List.all_cons, Bool.and_eq_true]
    split at h
    · rename_i hdot
      split at h
      · exact nomatch h
      · exact ⟨by rw [hdot]; decide, ih h⟩
    split at h
    · rename_i hdigit
      dsimp only at h
      split at h
      · exact nomatch h
      · exact ⟨isPrintable_of_isDigit hdigit, ih h⟩
    · exact nomatch h

theorem printable_of_addrParseIpv4 {s v : List UInt8} (h : addrParseIpv4 s = .ok v) :
    s.all isPrintable = true := by
  unfold addrParseIpv4 at h
  split at h
  · exact nomatch h
  · exact printable_of_addrParseIpv4Loop h

theorem isPrintable_of_hexDigit {c : UInt8} {d : Nat} (h : hexDigit c = some d) :
    isPrintable c = true := by
  have hrange (lo hi : UInt8) (hlo : 0x20 ≤ lo) (hhi : hi < 0x7F) (hc : lo ≤ c ∧ c ≤ hi) :
      isPrintable c = true := by
    unfold isPrintable
    rw [Bool.and_eq_true, decide_eq_true_iff, decide_eq_true_iff]
    exact ⟨UInt8.le_trans hlo hc.1, UInt8.lt_of_le_of_lt hc.2 hhi⟩
  unfold hexDigit at h
  split at h
  · exact isPrintable_of_isDigit (by assumption)
  split at h
  · exact hrange 0x61 0x66 (by decide) (by decide) (by assumption)
  split at h
  · exact hrange 0x41 0x46 (by decide) (by decide) (by assumption)
  · exact nomatch h

/-- A group is printable, and a colon or nothing follows it. -/
theorem printable_of_addrHexGroup {s rest : List UInt8} {digits val digits' val' : Nat}
    (h : addrHexGroup s digits val = .ok (val', digits', rest)) :
    (∃ group, s = group ++ rest ∧ group.all isPrintable = true) ∧
      ∀ c ∈ rest.head?, c = 0x3A := by
  induction s generalizing digits val with
  | nil =>
    simp only [addrHexGroup, Except.ok.injEq, Prod.mk.injEq] at h
    obtain ⟨-, -, rfl⟩ := h
    exact ⟨⟨[], rfl, rfl⟩, nofun⟩
  | cons c s ih =>
    unfold addrHexGroup at h
    split at h
    · rename_i hcolon
      simp only [Except.ok.injEq, Prod.mk.injEq] at h
      obtain ⟨-, -, rfl⟩ := h
      exact ⟨⟨[], rfl, rfl⟩, fun d hd => Option.some.inj hd ▸ hcolon⟩
    split at h
    · exact nomatch h
    rename_i d hd
    dsimp only at h
    split at h
    · exact nomatch h
    obtain ⟨⟨group, rfl, hgroup⟩, hhead⟩ := ih h
    refine ⟨⟨c :: group, rfl, ?_⟩, hhead⟩
    rw [List.all_cons, isPrintable_of_hexDigit hd, hgroup]
    rfl

theorem printable_of_addrParseIpv6Loop {fuel : Nat} {s : List UInt8} {groups : List Nat}
    {dcolon : Option Nat} {r : List Nat × Option Nat} (hfuel : s.length < fuel)
    (h : addrParseIpv6Loop fuel s groups dcolon = .ok r) : s.all isPrintable = true := by
  induction fuel generalizing s groups dcolon with
  | zero => exact absurd hfuel (Nat.not_lt_zero _)
  | succ fuel ih =>
    unfold addrParseIpv6Loop at h
    split at h
    · rename_i hnil
      rw [hnil]
      rfl
    split at h
    · exact nomatch h
    split at h
    · split at h
      · exact nomatch h
      split at h
      · exact nomatch h
      · rename_i hv
        exact printable_of_addrParseIpv4 hv
    split at h
    · exact nomatch h
    rename_i hgroup
    obtain ⟨⟨group, rfl, hprint⟩, hhead⟩ := printable_of_addrHexGroup hgroup
    split at h
    · exact nomatch h
    dsimp only at h
    rw [List.all_append, hprint]
    rw [List.length_append] at hfuel
    split at h
    · rfl
    · exact nomatch h
    · rename_i c₀ c rest _ _
      obtain rfl : c₀ = 0x3A := hhead c₀ rfl
      rw [List.length_cons, List.length_cons] at hfuel
      split at h
      · rename_i hcolon
        split at h
        · exact nomatch h
        · rw [List.all_cons, List.all_cons, hcolon, ih (by omega) h]
          rfl
      · rw [List.all_cons, ih (by rw [List.length_cons]; omega) h]
        rfl

theorem printable_of_addrParseAuto {s : List UInt8} {r : UInt8 × List UInt8}
    (h : addrParseAuto s = .ok r) : s.all isPrintable = true := by
  unfold addrParseAuto at h
  split at h
  · exact nomatch h
  split at h
  · cases hv : addrParseIpv6 s with
    | error rc =>
      rw [hv] at h
      exact nomatch h
    | ok v =>
      unfold addrParseIpv6 at hv
      dsimp only at hv
      split at hv
      · exact nomatch hv
      split at hv
      · exact nomatch hv
      rename_i hloop
      by_cases hlead : (ascii "::").isPrefixOf s = true
      · rw [if_pos hlead] at hloop
        obtain ⟨rest, rfl⟩ := List.isPrefixOf_iff_prefix.mp hlead
        have hrest : rest.all isPrintable = true :=
          printable_of_addrParseIpv6Loop (by simp [ascii]; omega) hloop
        rw [List.all_append, hrest]
        rfl
      · rw [if_neg hlead] at hloop
        exact printable_of_addrParseIpv6Loop (Nat.lt_succ_self _) hloop
  · cases hv : addrParseIpv4 s with
    | error rc =>
      rw [hv] at h
      exact nomatch h
    | ok v => exact printable_of_addrParseIpv4 hv

/-! ### Formatting -/

/-- `addr_format_ipv4` without its buffer. -/
def addrFormatIpv4 (addr : List UInt8) : LineText :=
  let octet (i : Nat) : LineText := decimal (byteAt addr i).toNat
  octet 0 ++ .lit "." ++ octet 1 ++ .lit "." ++ octet 2 ++ .lit "." ++ octet 3

/-- The first longest run of zero groups, as its start and length; `cur` is the run that ends at the
group before. -/
def addrZeroRun : (groups : List UInt16) → (i : Nat) → (cur best : Nat × Nat) → Nat × Nat
  | [], _, cur, best => if cur.2 > best.2 then cur else best
  | g :: gs, i, cur, best =>
    if g = 0 then addrZeroRun gs (i + 1) (if cur.2 = 0 then (i, 1) else (cur.1, cur.2 + 1)) best
    else addrZeroRun gs (i + 1) (0, 0) (if cur.2 > best.2 then cur else best)

/-- The hexadecimal digits that the library writes. -/
def hexChars : List UInt8 := ascii "0123456789abcdef"

/-- One hexadecimal digit. -/
def hexChar (n : Nat) : LineText :=
  ⟨[hexChars.getD n 0x30], by
    rw [List.all_cons, List.getD_eq_getElem?_getD]
    cases h : hexChars[n]? with
    | none => rfl
    | some c =>
      have hall : hexChars.all isPrintable = true := by decide
      rw [Option.getD_some, List.all_eq_true.mp hall c (List.mem_of_getElem? h)]
      rfl⟩

/-- A group of an IPv6 literal without leading zeros. -/
def addrFormatGroup (v : UInt16) : LineText :=
  let digit (k : Nat) : LineText := hexChar (v.toNat / 16 ^ k % 16)
  if v ≥ 0x1000 then digit 3 ++ digit 2 ++ digit 1 ++ digit 0
  else if v ≥ 0x100 then digit 2 ++ digit 1 ++ digit 0
  else if v ≥ 0x10 then digit 1 ++ digit 0
  else digit 0

/-- `addr_format_ipv6` without its buffer: "::" stands for the first longest run of at least two
zero groups. -/
def addrFormatIpv6 (addr : List UInt8) : LineText :=
  let groups := (List.range 8).map fun g => readU16be addr (2 * g)
  let run := addrZeroRun groups 0 (0, 0) (0, 0)
  let compressed := run.2 > 1
  (groups.zipIdx).foldl
    (fun out (v, g) =>
      if compressed ∧ g = run.1 then out ++ .lit "::"
      else if compressed ∧ run.1 < g ∧ g < run.1 + run.2 then out
      else
        let separated := g > 0 ∧ ¬ (compressed ∧ g = run.1 + run.2)
        (if separated then out ++ .lit ":" else out) ++ addrFormatGroup v)
    .nil

/-- One character of a text into a buffer of the given size (`EMIT_CHAR`). -/
def addrEmitChar (bufLen : Nat) (buf : List UInt8) (c : UInt8) : Except Rc (List UInt8) :=
  if buf.length ≥ bufLen then .error .bufferTooSmall else .ok (buf ++ [c])

/-- A text and its terminator into a buffer, character by character, with the length of the text. -/
def addrEmit (text : LineText) (bufLen : Nat) : Except Rc (List UInt8 × Nat) := do
  let buf ← text.bytes.foldlM (addrEmitChar bufLen) []
  if buf.length ≥ bufLen then .error .bufferTooSmall else .ok (buf ++ [0], buf.length)

/-- `addr_format_ipv4`. -/
def addrFormatIpv4Buf (addr : List UInt8) (bufLen : Nat) : Except Rc (List UInt8 × Nat) :=
  addrEmit (addrFormatIpv4 addr) bufLen

/-- `addr_format_ipv6`. -/
def addrFormatIpv6Buf (addr : List UInt8) (bufLen : Nat) : Except Rc (List UInt8 × Nat) :=
  addrEmit (addrFormatIpv6 addr) bufLen

/-- `addr_format`. -/
def addrFormat (addr : List UInt8) (family : UInt8) (bufLen : Nat) : Except Rc LineText :=
  let fits (t : LineText) : Except Rc LineText :=
    if t.bytes.length ≥ bufLen then .error .bufferTooSmall else .ok t
  if family = 4 then fits (addrFormatIpv4 addr)
  else if family = 6 then fits (addrFormatIpv6 addr)
  else .error .invalidParam

end Nanortc.Native
