import Nanortc.ForStd.BigEndian
import Nanortc.Spec.IpLiterals

/-!
# IP formatting is canonical and invertible

What `addr_format_ipv4` and `addr_format_ipv6` write is parsed to the same address. The IPv6 text is
that of RFC 5952: lower-case hexadecimal groups without leading zeros, where "::" stands for the first
longest run of at least two zero groups.

## Key results

- `addrZeroRun_spec`: the first longest run
- `addrFormatIpv6_eq`: the text in front of, at and behind "::"
- `addrEmit_eq`: a text is written where it and its terminator fit
- `addrFormat_exact`: all of it
-/

namespace Nanortc.Spec

open Nanortc.ForStd Nanortc.Native

/-! ### The first longest run of zeros -/

/-- From a place on there are as many zero groups. -/
def ZeroRun (gs : List UInt16) (i n : Nat) : Prop := ∀ k, i ≤ k → k < i + n → gs[k]? = some 0

/-- The first of the longest runs. -/
structure FirstLongest (gs : List UInt16) (i n : Nat) : Prop where
  run : ZeroRun gs i n
  longest : ∀ j m, ZeroRun gs j m → m ≤ n
  first : ∀ j, ZeroRun gs j n → 0 < n → i ≤ j

/-- The locals of the scan when it has come to place `i`: the run that ends there, and the first
longest one of those before it. -/
structure ScanningRun (gs : List UInt16) (i : Nat) (cur best : Nat × Nat) : Prop where
  curLe : cur.2 ≤ i
  curStart : cur.2 ≠ 0 → cur.1 = i - cur.2
  curRun : ZeroRun gs (i - cur.2) cur.2
  curLongest : ∀ j m, ZeroRun gs j m → j + m = i → m ≤ cur.2
  bestRun : ZeroRun gs best.1 best.2
  bestLongest : ∀ j m, ZeroRun gs j m → j + m ≤ i - cur.2 → m ≤ best.2
  bestFirst : ∀ j, ZeroRun gs j best.2 → 0 < best.2 → best.1 ≤ j

theorem ZeroRun.sub {gs : List UInt16} {i n j m : Nat} (h : ZeroRun gs i n) (hj : i ≤ j)
    (hm : j + m ≤ i + n) : ZeroRun gs j m := fun k hk hkm => h k (by omega) (by omega)

/-- A run that reaches into the current one begins in it. -/
theorem ScanningRun.begins {gs : List UInt16} {i : Nat} {cur best : Nat × Nat}
    (h : ScanningRun gs i cur best) {j m : Nat} (hrun : ZeroRun gs j m) (hend : j + m ≤ i)
    (hreach : i - cur.2 < j + m) : i - cur.2 ≤ j := by
  have hjoined : ZeroRun gs j (i - j) := by
    intro k hk hki
    by_cases hkm : k < j + m
    · exact hrun k hk hkm
    · have hcur := h.curLe
      exact h.curRun k (by omega) (by omega)
  have := h.curLongest j (i - j) hjoined (by omega)
  omega

/-- The better of the two runs, when the current one has ended. -/
theorem ScanningRun.better {gs : List UInt16} {i : Nat} {cur best : Nat × Nat}
    (h : ScanningRun gs i cur best) :
    ZeroRun gs (if cur.2 > best.2 then cur else best).1 (if cur.2 > best.2 then cur else best).2 ∧
      (∀ j m, ZeroRun gs j m → j + m ≤ i → m ≤ (if cur.2 > best.2 then cur else best).2) ∧
      ∀ j, ZeroRun gs j (if cur.2 > best.2 then cur else best).2 →
        0 < (if cur.2 > best.2 then cur else best).2 →
          (if cur.2 > best.2 then cur else best).1 ≤ j := by
  have hlongest (j m : Nat) (hrun : ZeroRun gs j m) (hend : j + m ≤ i) : m ≤ best.2 ∨ m ≤ cur.2 := by
    by_cases hbefore : j + m ≤ i - cur.2
    · exact .inl (h.bestLongest j m hrun hbefore)
    · have := h.begins hrun hend (by omega)
      exact .inr (by omega)
  by_cases hbetter : cur.2 > best.2
  · have hstart := h.curStart (by omega)
    have hcur := h.curLe
    simp only [if_pos hbetter]
    refine ⟨hstart ▸ h.curRun, fun j m hrun hend => ?_, fun j hrun _ => ?_⟩
    · have := hlongest j m hrun hend
      omega
    · -- an earlier run of that length would have been the best one
      by_contra hearlier
      by_cases hbefore : j + cur.2 ≤ i - cur.2
      · have := h.bestLongest j cur.2 hrun hbefore
        omega
      · have := h.begins hrun (by omega) (by omega)
        omega
  · simp only [if_neg hbetter]
    refine ⟨h.bestRun, fun j m hrun hend => ?_, h.bestFirst⟩
    have := hlongest j m hrun hend
    omega

/-- **The scan finds the first longest run.** -/
theorem addrZeroRun_scanning {gs rest : List UInt16} {i : Nat} {cur best : Nat × Nat}
    (hrest : gs.drop i = rest) (hi : i ≤ gs.length) (h : ScanningRun gs i cur best) :
    FirstLongest gs (addrZeroRun rest i cur best).1 (addrZeroRun rest i cur best).2 := by
  induction rest generalizing i cur best with
  | nil =>
    obtain ⟨hrun, hlongest, hfirst⟩ := h.better
    have hlen : gs.length ≤ i := List.drop_eq_nil_iff.mp hrest
    refine ⟨hrun, fun j m hm => ?_, hfirst⟩
    -- a run lies in the list
    by_cases hm0 : m = 0
    · rw [hm0]
      exact Nat.zero_le _
    · have hlast := (List.getElem?_eq_some_iff.mp (hm (j + m - 1) (by omega) (by omega))).1
      exact hlongest j m hm (by omega)
  | cons g rest ih =>
    have hilt : i < gs.length := by
      by_contra hge
      rw [List.drop_of_length_le (Nat.not_lt.mp hge)] at hrest
      exact nomatch hrest
    rw [List.drop_eq_getElem_cons hilt] at hrest
    obtain ⟨hg, hrest⟩ := List.cons.inj hrest
    have hgi : gs[i]? = some g := by rw [List.getElem?_eq_getElem hilt, hg]
    have hcur := h.curLe
    unfold addrZeroRun
    by_cases hzero : g = 0
    · -- the current run goes on
      rw [if_pos hzero]
      refine ih hrest hilt ?_
      have hlen : (if cur.2 = 0 then (i, 1) else (cur.1, cur.2 + 1)).2 = cur.2 + 1 := by
        split <;> simp only [*]
      refine ⟨by rw [hlen]; omega, fun _ => ?_, ?_, ?_, h.bestRun, ?_, h.bestFirst⟩
      · have hstart := h.curStart
        split <;> dsimp only <;> omega
      · rw [hlen]
        intro k hk hki
        by_cases hki' : k < i
        · exact h.curRun k (by omega) (by omega)
        · obtain rfl : k = i := by omega
          rw [hgi, hzero]
      · intro j m hrun hend
        rw [hlen]
        by_cases hm : m = 0
        · omega
        · have := h.curLongest j (m - 1) (hrun.sub (Nat.le_refl _) (by omega)) (by omega)
          omega
      · intro j m hrun hend
        rw [hlen] at hend
        exact h.bestLongest j m hrun (by omega)
    · -- it has ended
      rw [if_neg hzero]
      obtain ⟨hrun, hlongest, hfirst⟩ := h.better
      refine ih hrest hilt ⟨Nat.zero_le _, fun h => absurd rfl h, ?_, ?_, hrun, ?_, hfirst⟩
      · intro k hk hki
        exact absurd hki (by omega)
      · intro j m hm hend
        by_contra hpos
        have h0 := hm i (by omega) (by omega)
        rw [hgi] at h0
        exact hzero (Option.some.inj h0)
      · intro j m hm hend
        by_cases hm0 : m = 0
        · omega
        by_cases hin : j + m ≤ i
        · exact hlongest j m hm hin
        · have h0 := hm i (by omega) (by omega)
          rw [hgi] at h0
          exact absurd (Option.some.inj h0) hzero

theorem addrZeroRun_spec (gs : List UInt16) :
    FirstLongest gs (addrZeroRun gs 0 (0, 0) (0, 0)).1 (addrZeroRun gs 0 (0, 0) (0, 0)).2 := by
  refine addrZeroRun_scanning rfl (Nat.zero_le _) ⟨Nat.le_refl _, fun h => absurd rfl h, ?_, ?_, ?_, ?_,
    fun j _ h => absurd h (Nat.lt_irrefl _)⟩
  · exact fun k _ h => absurd h (Nat.not_lt_zero _)
  · intro j m _ h
    show m ≤ 0
    omega
  · exact fun k _ h => absurd h (Nat.not_lt_zero _)
  · intro j m _ h
    show m ≤ 0
    have h : j + m ≤ 0 := h
    omega

/-! ### Buffers -/

/-- Characters are written as long as there is room. -/
theorem foldlM_addrEmitChar (bufLen : Nat) (cs buf : List UInt8) (h : buf.length ≤ bufLen) :
    cs.foldlM (addrEmitChar bufLen) buf =
      if buf.length + cs.length ≤ bufLen then .ok (buf ++ cs) else .error .bufferTooSmall := by
  induction cs generalizing buf with
  | nil =>
    rw [List.foldlM_nil, List.length_nil, Nat.add_zero, if_pos h, List.append_nil]
    rfl
  | cons c cs ih =>
    rw [List.foldlM_cons, List.length_cons]
    unfold addrEmitChar
    by_cases hroom : buf.length ≥ bufLen
    · rw [if_pos hroom, if_neg (by omega)]
      rfl
    · have hlen : (buf ++ [c]).length = buf.length + 1 := List.length_append
      rw [if_neg hroom]
      show List.foldlM (addrEmitChar bufLen) (buf ++ [c]) cs = _
      rw [ih (buf ++ [c]) (by omega), hlen, List.append_assoc]
      exact if_congr (by omega) rfl rfl

/-- **A text is written where it and its terminator fit.** -/
theorem addrEmit_eq (text : LineText) (bufLen : Nat) :
    addrEmit text bufLen =
      if text.bytes.length < bufLen then .ok (text.bytes ++ [0], text.bytes.length)
      else .error .bufferTooSmall := by
  unfold addrEmit
  rw [foldlM_addrEmitChar bufLen text.bytes [] (Nat.zero_le _), List.length_nil, Nat.zero_add,
    List.nil_append]
  by_cases hfit : text.bytes.length ≤ bufLen
  · rw [if_pos hfit]
    show (if text.bytes.length ≥ bufLen then _ else _) = _
    by_cases hroom : text.bytes.length < bufLen
    · rw [if_pos hroom, if_neg (Nat.not_le.mpr hroom)]
    · rw [if_neg hroom, if_pos (Nat.not_lt.mp hroom)]
  · rw [if_neg hfit, if_neg (fun h => hfit (Nat.le_of_lt h))]
    rfl

/-! ### Dotted quads -/

/-- The digits of a number are its value. -/
theorem decimalFrom_decimalDigits {fuel n : Nat} (h : n < fuel) :
    decimalFrom 0 (decimalDigits fuel n) = n := by
  induction fuel generalizing n with
  | zero => exact absurd h (Nat.not_lt_zero n)
  | succ fuel ih =>
    have hdigit : ((0x30 : UInt8) + UInt8.ofNat (n % 10)).toNat = 0x30 + n % 10 := by
      rw [UInt8.toNat_add, UInt8.toNat_ofNat']
      show (48 + n % 10 % 256) % 256 = _
      omega
    unfold decimalDigits decimalFrom
    rw [List.foldl_append, List.foldl_cons, List.foldl_nil, hdigit]
    by_cases hsmall : n < 10
    · rw [if_pos hsmall, List.foldl_nil]
      omega
    · have hrest := @ih (n / 10) (by omega)
      unfold decimalFrom at hrest
      rw [if_neg hsmall, hrest]
      omega

theorem decimal_quadRun {n : Nat} (h : n ≤ 255) : QuadRun true (decimal n).bytes :=
  ⟨.inl rfl, all_isDigit_decimalDigits _ _, by
    show decimalFrom 0 (decimalDigits (n + 1) n) ≤ 255
    rw [decimalFrom_decimalDigits (Nat.lt_succ_self n)]
    exact h⟩

theorem addrFormatIpv4_bytes (a b c d : UInt8) :
    (addrFormatIpv4 [a, b, c, d]).bytes = List.intercalate [0x2E]
      ([a, b, c, d].map fun x => (decimal x.toNat).bytes) := by
  rw [List.map_cons, List.map_cons, List.map_cons, List.map_cons, List.map_nil,
    List.intercalate_cons_cons, List.intercalate_cons_cons, List.intercalate_cons_cons,
    List.intercalate_singleton]
  unfold addrFormatIpv4
  simp only [LineText.bytes_append, List.append_assoc]
  rfl

/-- **The text of an IPv4 address is that address.** -/
theorem addrParseIpv4_format {addr : List UInt8} (h : addr.length = 4) :
    addrParseIpv4 (addrFormatIpv4 addr).bytes = .ok addr := by
  match addr, h with
  | [a, b, c, d], _ =>
    have hparts : ((addrFormatIpv4 [a, b, c, d]).bytes).splitOn 0x2E =
        [a, b, c, d].map fun x => (decimal x.toNat).bytes := by
      rw [addrFormatIpv4_bytes]
      refine List.splitOn_intercalate _ (fun p hp hdot => ?_) (List.cons_ne_nil _ _)
      obtain ⟨x, -, rfl⟩ := List.mem_map.mp hp
      exact absurd (List.all_eq_true.mp (all_isDigit_decimalDigits _ _) 0x2E hdot) (by decide)
    refine (addrParseIpv4_iff _ _).mpr ⟨?_, ?_, ?_⟩
    · rw [hparts]
      rfl
    · rw [hparts]
      intro p hp
      obtain ⟨x, -, rfl⟩ := List.mem_map.mp hp
      exact decimal_quadRun (Nat.le_of_lt_succ x.toNat_lt)
    · rw [hparts, List.map_map]
      have hvalue : ((fun p => UInt8.ofNat (decimalFrom 0 p)) ∘ fun x : UInt8 =>
          (decimal x.toNat).bytes) = id := by
        funext x
        show UInt8.ofNat (decimalFrom 0 (decimalDigits (x.toNat + 1) x.toNat)) = x
        rw [decimalFrom_decimalDigits (Nat.lt_succ_self _), UInt8.ofNat_toNat]
      rw [hvalue, List.map_id]

/-! ### Groups -/

/-- A group as RFC 5952 writes it: lower case, without leading zeros. -/
def ShortGroup (p : List UInt8) (g : UInt16) : Prop :=
  HexGroup p g.toNat ∧ (∀ c ∈ p, c ∈ hexChars) ∧ (p.head? = some 0x30 → p.length = 1)

/-- A hexadecimal digit is read back. -/
theorem hexChar_spec {n : Nat} (h : n < 16) : ∃ c, (hexChar n).bytes = [c] ∧ c ∈ hexChars ∧
    hexDigit c = some n ∧ (c = 0x30 → n = 0) := by
  have hall : ∀ n < 16, hexChars.getD n 0x30 ∈ hexChars ∧
      hexDigit (hexChars.getD n 0x30) = some n ∧ (hexChars.getD n 0x30 = 0x30 → n = 0) := by
    decide
  exact ⟨_, rfl, hall n h⟩

theorem hexFrom_cons {val d : Nat} {c : UInt8} (p : List UInt8) (h : hexDigit c = some d) :
    hexFrom val (c :: p) = hexFrom (val * 16 + d) p := by
  show hexFrom (val * 16 + (hexDigit c).getD 0) p = _
  rw [h]
  rfl

/-- The text of hexadecimal digits. -/
def hexDigits (ds : List Nat) : List UInt8 := ds.flatMap fun d => (hexChar d).bytes

theorem hexDigits_cons (d : Nat) (ds : List Nat) : hexDigits (d :: ds) = (hexChar d).bytes ++ hexDigits ds :=
  List.flatMap_cons

theorem length_hexDigits (ds : List Nat) : (hexDigits ds).length = ds.length := by
  induction ds with
  | nil => rfl
  | cons d ds ih =>
    rw [hexDigits_cons, List.length_append, ih, List.length_cons, Nat.add_comm]
    rfl

/-- Digits without a leading zero are a group. -/
theorem shortGroup_hexDigits {ds : List Nat} {g : UInt16} (hdigits : ∀ d ∈ ds, d < 16)
    (hlen : ds ≠ [] ∧ ds.length ≤ 4) (hlead : ds.head? = some 0 → ds.length = 1)
    (hvalue : ds.foldl (fun v d => v * 16 + d) 0 = g.toNat) : ShortGroup (hexDigits ds) g := by
  have hchars : (∀ c ∈ hexDigits ds, c ∈ hexChars ∧ (hexDigit c).isSome) ∧
      ∀ v, hexFrom v (hexDigits ds) = ds.foldl (fun v d => v * 16 + d) v := by
    clear hlen hlead hvalue
    induction ds with
    | nil => exact ⟨nofun, fun v => rfl⟩
    | cons d ds ih =>
      obtain ⟨hd, hrest⟩ := List.forall_mem_cons.mp hdigits
      obtain ⟨hall, hfrom⟩ := ih hrest
      obtain ⟨c, hc, hmem, hdigit, -⟩ := hexChar_spec hd
      rw [hexDigits_cons, hc]
      refine ⟨List.forall_mem_cons.mpr ⟨⟨hmem, by rw [hdigit]; rfl⟩, hall⟩, fun v => ?_⟩
      show hexFrom v (c :: hexDigits ds) = _
      rw [hexFrom_cons _ hdigit, hfrom]
      rfl
  refine ⟨⟨?_, ?_, fun c hc => (hchars.1 c hc).2, ?_⟩, fun c hc => (hchars.1 c hc).1, fun hzero => ?_⟩
  · refine List.ne_nil_of_length_pos ?_
    rw [length_hexDigits]
    exact List.length_pos_of_ne_nil hlen.1
  · rw [length_hexDigits]
    exact hlen.2
  · rw [hchars.2 0, hvalue]
  · rw [length_hexDigits]
    cases ds with
    | nil => exact absurd rfl hlen.1
    | cons d ds =>
      obtain ⟨c, hc, -, -, h0⟩ := hexChar_spec (hdigits d List.mem_cons_self)
      rw [hexDigits_cons, hc] at hzero
      exact hlead (by rw [h0 (Option.some.inj hzero)]; rfl)

/-- **A group is written without leading zeros.** -/
theorem addrFormatGroup_short (v : UInt16) : ShortGroup (addrFormatGroup v).bytes v := by
  have hv := v.toNat_lt
  have hge (n : UInt16) : v ≥ n ↔ n.toNat ≤ v.toNat := UInt16.le_iff_toNat_le
  have hdigit (k : Nat) : v.toNat / 16 ^ k % 16 < 16 := Nat.mod_lt _ (by decide)
  have hbytes : (addrFormatGroup v).bytes =
      if v ≥ 0x1000 then hexDigits [v.toNat / 16 ^ 3 % 16, v.toNat / 16 ^ 2 % 16,
        v.toNat / 16 ^ 1 % 16, v.toNat / 16 ^ 0 % 16]
      else if v ≥ 0x100 then hexDigits [v.toNat / 16 ^ 2 % 16, v.toNat / 16 ^ 1 % 16,
        v.toNat / 16 ^ 0 % 16]
      else if v ≥ 0x10 then hexDigits [v.toNat / 16 ^ 1 % 16, v.toNat / 16 ^ 0 % 16]
      else hexDigits [v.toNat / 16 ^ 0 % 16] := by
    unfold addrFormatGroup
    dsimp only
    split
    · rfl
    split
    · rfl
    split <;> rfl
  rw [hbytes]
  by_cases h3 : v ≥ 0x1000
  · rw [if_pos h3]
    have h3 : 0x1000 ≤ v.toNat := (hge _).mp h3
    refine shortGroup_hexDigits ?_ ⟨List.cons_ne_nil _ _, by show 4 ≤ 4; decide⟩ ?_ ?_
    · simp only [List.forall_mem_cons]
      exact ⟨hdigit 3, hdigit 2, hdigit 1, hdigit 0, nofun⟩
    · intro h
      have := Option.some.inj h
      omega
    · simp only [List.foldl_cons, List.foldl_nil]
      omega
  rw [if_neg h3]
  have h3 : ¬0x1000 ≤ v.toNat := fun h => h3 ((hge _).mpr h)
  by_cases h2 : v ≥ 0x100
  · rw [if_pos h2]
    have h2 : 0x100 ≤ v.toNat := (hge _).mp h2
    refine shortGroup_hexDigits ?_ ⟨List.cons_ne_nil _ _, by show 3 ≤ 4; decide⟩ ?_ ?_
    · simp only [List.forall_mem_cons]
      exact ⟨hdigit 2, hdigit 1, hdigit 0, nofun⟩
    · intro h
      have := Option.some.inj h
      omega
    · simp only [List.foldl_cons, List.foldl_nil]
      omega
  rw [if_neg h2]
  have h2 : ¬0x100 ≤ v.toNat := fun h => h2 ((hge _).mpr h)
  by_cases h1 : v ≥ 0x10
  · rw [if_pos h1]
    have h1 : 0x10 ≤ v.toNat := (hge _).mp h1
    refine shortGroup_hexDigits ?_ ⟨List.cons_ne_nil _ _, by show 2 ≤ 4; decide⟩ ?_ ?_
    · simp only [List.forall_mem_cons]
      exact ⟨hdigit 1, hdigit 0, nofun⟩
    · intro h
      have := Option.some.inj h
      omega
    · simp only [List.foldl_cons, List.foldl_nil]
      omega
  · rw [if_neg h1]
    have h1 : ¬0x10 ≤ v.toNat := fun h => h1 ((hge _).mpr h)
    refine shortGroup_hexDigits ?_ ⟨List.cons_ne_nil _ _, by show 1 ≤ 4; decide⟩ (fun _ => rfl) ?_
    · simp only [List.forall_mem_cons]
      exact ⟨hdigit 0, nofun⟩
    · simp only [List.foldl_cons, List.foldl_nil]
      omega

/-! ### The text of an IPv6 address -/

/-- The texts of groups. -/
def groupTexts (gs : List UInt16) : List (List UInt8) := gs.map fun g => (addrFormatGroup g).bytes

/-- One turn of the loop of `addr_format_ipv6`. -/
def ipv6Step (run : Nat × Nat) (out : LineText) (x : UInt16 × Nat) : LineText :=
  if run.2 > 1 ∧ x.2 = run.1 then out ++ .lit "::"
  else if run.2 > 1 ∧ run.1 < x.2 ∧ x.2 < run.1 + run.2 then out
  else
    (if x.2 > 0 ∧ ¬(run.2 > 1 ∧ x.2 = run.1 + run.2) then out ++ .lit ":" else out) ++
      addrFormatGroup x.1

/-- The groups of an address. -/
def addrGroups (addr : List UInt8) : List UInt16 := (List.range 8).map fun g => readU16be addr (2 * g)

theorem addrFormatIpv6_eq (addr : List UInt8) :
    addrFormatIpv6 addr = (addrGroups addr).zipIdx.foldl
      (ipv6Step (addrZeroRun (addrGroups addr) 0 (0, 0) (0, 0))) .nil := rfl

/-- A group in front of which no colon stands. -/
theorem ipv6Step_first {run : Nat × Nat} {out : LineText} {g : UInt16} {k : Nat}
    (hstart : ¬(run.2 > 1 ∧ run.1 ≤ k ∧ k < run.1 + run.2))
    (hsep : k = 0 ∨ run.2 > 1 ∧ k = run.1 + run.2) :
    ipv6Step run out (g, k) = out ++ addrFormatGroup g := by
  unfold ipv6Step
  dsimp only
  rw [if_neg (by omega), if_neg (by omega), if_neg (by omega)]

/-- Groups with colons in front of them. -/
theorem foldl_ipv6Step_separated {run : Nat × Nat} (gs : List UInt16) (out : LineText) {k : Nat}
    (hk : 0 < k) (hout : run.2 > 1 → k + gs.length ≤ run.1 ∨ run.1 + run.2 < k) :
    ((gs.zipIdx k).foldl (ipv6Step run) out).bytes =
      out.bytes ++ (groupTexts gs).flatMap fun p => 0x3A :: p := by
  induction gs generalizing out k with
  | nil => exact (List.append_nil _).symm
  | cons g gs ih =>
    rw [List.length_cons] at hout
    have hstep : ipv6Step run out (g, k) = out ++ .lit ":" ++ addrFormatGroup g := by
      unfold ipv6Step
      dsimp only
      rw [if_neg (by omega), if_neg (by omega), if_pos (by omega)]
    rw [List.zipIdx_cons, List.foldl_cons, hstep,
      ih _ (Nat.succ_pos k) (fun h => by have := hout h; omega)]
    unfold groupTexts
    rw [List.map_cons, List.flatMap_cons, LineText.bytes_append, LineText.bytes_append,
      List.append_assoc, List.append_assoc]
    rfl

/-- The parts of a text are its first one and those behind colons. -/
theorem intercalate_eq_flatMap (p : List UInt8) (ps : List (List UInt8)) :
    List.intercalate [0x3A] (p :: ps) = p ++ ps.flatMap fun q => 0x3A :: q := by
  induction ps generalizing p with
  | nil => rw [List.intercalate_singleton, List.flatMap_nil, List.append_nil]
  | cons q ps ih =>
    rw [List.intercalate_cons_cons, ih, List.flatMap_cons, List.append_assoc]
    rfl

/-- Groups from a place on where no colon stands in front. -/
theorem foldl_ipv6Step_groups {run : Nat × Nat} (gs : List UInt16) (out : LineText) {k : Nat}
    (hsep : k = 0 ∨ run.2 > 1 ∧ k = run.1 + run.2)
    (hout : run.2 > 1 → k + gs.length ≤ run.1 ∨ run.1 + run.2 ≤ k) :
    ((gs.zipIdx k).foldl (ipv6Step run) out).bytes =
      out.bytes ++ List.intercalate [0x3A] (groupTexts gs) := by
  cases gs with
  | nil => exact (List.append_nil _).symm
  | cons g gs =>
    rw [List.length_cons] at hout
    rw [List.zipIdx_cons, List.foldl_cons, ipv6Step_first (by omega) hsep,
      foldl_ipv6Step_separated gs _ (Nat.succ_pos k) (fun h => by have := hout h; omega),
      LineText.bytes_append, List.append_assoc]
    exact congrArg (out.bytes ++ ·) (intercalate_eq_flatMap _ _).symm

/-- The groups of the run are "::". -/
theorem foldl_ipv6Step_run {run : Nat × Nat} (gs : List UInt16) (out : LineText) (hrun : run.2 > 1)
    (hgs : gs.length = run.2) :
    ((gs.zipIdx run.1).foldl (ipv6Step run) out).bytes = out.bytes ++ [0x3A, 0x3A] := by
  have hskip (gs : List UInt16) (out : LineText) {k : Nat} (hk : run.1 < k)
      (hend : k + gs.length ≤ run.1 + run.2) : (gs.zipIdx k).foldl (ipv6Step run) out = out := by
    induction gs generalizing k with
    | nil => rfl
    | cons g gs ih =>
      rw [List.length_cons] at hend
      have hstep : ipv6Step run out (g, k) = out := by
        unfold ipv6Step
        dsimp only
        rw [if_neg (by omega), if_pos (by omega)]
      rw [List.zipIdx_cons, List.foldl_cons, hstep, ih (by omega) (by omega)]
  cases gs with
  | nil =>
    rw [List.length_nil] at hgs
    omega
  | cons g gs =>
    rw [List.length_cons] at hgs
    have hstep : ipv6Step run out (g, run.1) = out ++ .lit "::" := by
      unfold ipv6Step
      rw [if_pos ⟨hrun, rfl⟩]
    rw [List.zipIdx_cons, List.foldl_cons, hstep, hskip gs _ (Nat.lt_succ_self _) (by omega)]
    rfl

theorem intercalate_sideParts (L : List (List UInt8)) :
    List.intercalate [0x3A] (sideParts L) = List.intercalate [0x3A] L := by
  unfold sideParts
  split
  · rename_i h
    rw [h]
    rfl
  · rfl

/-- The text of the parts around "::". -/
theorem intercalate_sides (L R : List (List UInt8)) :
    List.intercalate [0x3A] (sideParts L ++ [] :: sideParts R) =
      List.intercalate [0x3A] L ++ [0x3A, 0x3A] ++ List.intercalate [0x3A] R := by
  have hbehind : List.intercalate [0x3A] ([] :: sideParts R) =
      0x3A :: List.intercalate [0x3A] R := by
    rw [← intercalate_sideParts R]
    cases hR : sideParts R with
    | nil => exact absurd hR (sideParts_ne_nil R)
    | cons q qs =>
      rw [List.intercalate_cons_cons]
      rfl
  have hjoin (ps qs : List (List UInt8)) (hps : ps ≠ []) (hqs : qs ≠ []) :
      List.intercalate [0x3A] (ps ++ qs) =
        List.intercalate [0x3A] ps ++ 0x3A :: List.intercalate [(0x3A : UInt8)] qs := by
    induction ps with
    | nil => exact absurd rfl hps
    | cons p ps ih =>
      cases ps with
      | nil =>
        obtain ⟨q, qs, rfl⟩ := List.exists_cons_of_ne_nil hqs
        rw [List.singleton_append, List.intercalate_cons_cons, List.intercalate_singleton,
          List.append_assoc]
        rfl
      | cons p' ps =>
        rw [List.cons_append, List.cons_append, List.intercalate_cons_cons, ← List.cons_append,
          ih (List.cons_ne_nil _ _), List.intercalate_cons_cons]
        simp only [List.append_assoc]
  rw [hjoin _ _ (sideParts_ne_nil L) (List.cons_ne_nil _ _), hbehind, intercalate_sideParts,
    List.append_assoc]
  rfl

/-- The texts of groups are groups of the grammar. -/
theorem forall₂_groupTexts (gs : List UInt16) : List.Forall₂ ShortGroup (groupTexts gs) gs := by
  induction gs with
  | nil => exact .nil
  | cons g gs ih => exact .cons (addrFormatGroup_short g) ih

theorem forall₂_hexGroup (gs : List UInt16) :
    List.Forall₂ HexGroup (groupTexts gs) (gs.map UInt16.toNat) := by
  rw [List.forall₂_map_right_iff]
  exact (forall₂_groupTexts gs).imp fun _ _ h => h.1

theorem groups_groupTexts {gs : List UInt16} (h : gs ≠ []) :
    Groups true (groupTexts gs) (gs.map UInt16.toNat) := by
  induction gs with
  | nil => exact absurd rfl h
  | cons g gs ih =>
    cases gs with
    | nil => exact .hex (addrFormatGroup_short g).1
    | cons g' gs => exact .cons (addrFormatGroup_short g).1 (ih (List.cons_ne_nil _ _))

theorem groupsOrNone_groupTexts (gs : List UInt16) :
    GroupsOrNone true (groupTexts gs) (gs.map UInt16.toNat) := by
  cases gs with
  | nil => exact .inl ⟨rfl, rfl⟩
  | cons g gs => exact .inr (groups_groupTexts (List.cons_ne_nil _ _))

/-- No colon stands in a group. -/
theorem colon_not_mem_groupTexts {gs : List UInt16} : ∀ p ∈ groupTexts gs, (0x3A : UInt8) ∉ p := by
  intro p hp hcolon
  obtain ⟨g, -, rfl⟩ := List.mem_map.mp hp
  exact absurd ((addrFormatGroup_short g).1.2.2.1 0x3A hcolon) (by decide)

theorem colon_not_mem_sideParts {L : List (List UInt8)} (h : ∀ p ∈ L, (0x3A : UInt8) ∉ p) :
    ∀ p ∈ sideParts L, (0x3A : UInt8) ∉ p := by
  unfold sideParts
  split
  · intro p hp
    rw [List.mem_singleton.mp hp]
    exact List.not_mem_nil
  · exact h

/-- The IPv6 text of RFC 5952 for eight groups. -/
def Rfc5952 (s : List UInt8) (gs : List UInt16) : Prop :=
  (¬∃ i, ZeroRun gs i 2) ∧ List.Forall₂ ShortGroup (s.splitOn 0x3A) gs ∨
  ∃ i n L R, FirstLongest gs i n ∧ 2 ≤ n ∧ s.splitOn 0x3A = sideParts L ++ [] :: sideParts R ∧
    List.Forall₂ ShortGroup L (gs.take i) ∧ List.Forall₂ ShortGroup R (gs.drop (i + n))

/-- The bytes of the groups of an address. -/
theorem groupBytes_addrGroups {addr : List UInt8} (h : addr.length = 16) :
    groupBytes ((addrGroups addr).map UInt16.toNat) = addr := by
  have hbytes : groupBytes ((addrGroups addr).map UInt16.toNat) =
      (addrGroups addr).flatMap u16be := by
    unfold groupBytes
    rw [List.flatMap_map]
    refine List.flatMap_congr fun g _ => ?_
    rw [UInt16.ofNat_toNat]
  rw [hbytes]
  match addr, h with
  | [_, _, _, _, _, _, _, _, _, _, _, _, _, _, _, _], _ =>
    unfold addrGroups
    rw [List.flatMap_map]
    simp only [u16be_readU16be]
    rfl

/-- **The text of an IPv6 address** is canonical and is that address. -/
theorem addrParseIpv6_format {addr : List UInt8} (h : addr.length = 16) :
    addrParseIpv6 (addrFormatIpv6 addr).bytes = .ok addr ∧
      Rfc5952 (addrFormatIpv6 addr).bytes (addrGroups addr) := by
  have hlen : (addrGroups addr).length = 8 := by
    unfold addrGroups
    rw [List.length_map, List.length_range]
  have hbytes := groupBytes_addrGroups h
  have hspec := addrZeroRun_spec (addrGroups addr)
  rw [addrFormatIpv6_eq]
  generalize addrGroups addr = gs at *
  generalize addrZeroRun gs 0 (0, 0) (0, 0) = run at *
  by_cases hrun : run.2 > 1
  · -- "::" stands for the run
    have hin : run.1 + run.2 ≤ 8 := by
      have hlast := (List.getElem?_eq_some_iff.mp
        (hspec.run (run.1 + run.2 - 1) (by omega) (by omega))).1
      omega
    have hsplit : gs = gs.take run.1 ++ ((gs.drop run.1).take run.2 ++ gs.drop (run.1 + run.2)) := by
      rw [← List.drop_drop, List.take_append_drop, List.take_append_drop]
    have hfront : (gs.take run.1).length = run.1 := by
      rw [List.length_take]
      omega
    have hmid : ((gs.drop run.1).take run.2).length = run.2 := by
      rw [List.length_take, List.length_drop]
      omega
    have hback : (gs.drop (run.1 + run.2)).length = 8 - (run.1 + run.2) := by
      rw [List.length_drop, hlen]
    have htext : (gs.zipIdx.foldl (ipv6Step run) .nil).bytes =
        List.intercalate [0x3A] (groupTexts (gs.take run.1)) ++ [0x3A, 0x3A] ++
          List.intercalate [0x3A] (groupTexts (gs.drop (run.1 + run.2))) := by
      conv_lhs => rw [hsplit]
      rw [List.zipIdx_append, List.foldl_append, List.zipIdx_append, List.foldl_append, Nat.zero_add,
        hfront, hmid, foldl_ipv6Step_groups _ _ (.inr ⟨hrun, rfl⟩) fun _ => .inr (Nat.le_refl _),
        foldl_ipv6Step_run _ _ hrun hmid,
        foldl_ipv6Step_groups _ _ (.inl rfl) fun _ => .inl (by rw [hfront]; omega)]
      rfl
    have hparts : ((gs.zipIdx.foldl (ipv6Step run) .nil).bytes).splitOn 0x3A =
        sideParts (groupTexts (gs.take run.1)) ++
          [] :: sideParts (groupTexts (gs.drop (run.1 + run.2))) := by
      rw [htext, ← intercalate_sides]
      refine List.splitOn_intercalate _ (fun p hp => ?_)
        (List.append_ne_nil_of_right_ne_nil _ (List.cons_ne_nil _ _))
      rcases List.mem_append.mp hp with hp | hp
      · exact colon_not_mem_sideParts colon_not_mem_groupTexts p hp
      · rcases List.mem_cons.mp hp with rfl | hp
        · exact List.not_mem_nil
        · exact colon_not_mem_sideParts colon_not_mem_groupTexts p hp
    refine ⟨(addrParseIpv6_iff _ _).mpr ⟨gs.map UInt16.toNat, ?_, hbytes.symm⟩,
      .inr ⟨run.1, run.2, _, _, hspec, hrun, hparts, forall₂_groupTexts _, forall₂_groupTexts _⟩⟩
    rw [hparts]
    -- the groups of the run are zero
    have hzero : ((gs.drop run.1).take run.2).map UInt16.toNat = List.replicate run.2 0 := by
      rw [List.eq_replicate_iff, List.length_map, hmid]
      refine ⟨rfl, fun n hn => ?_⟩
      obtain ⟨g, hg, rfl⟩ := List.mem_map.mp hn
      obtain ⟨k, hk, hgk⟩ := List.mem_iff_getElem.mp hg
      rw [hmid] at hk
      have h0 := hspec.run (run.1 + k) (by omega) (by omega)
      rw [List.getElem_take, List.getElem_drop] at hgk
      rw [List.getElem?_eq_getElem (by omega), hgk] at h0
      rw [Option.some.inj h0]
      rfl
    refine ipv6Literal_iff.mpr (.inr ⟨_, (gs.take run.1).map UInt16.toNat, _,
      (gs.drop (run.1 + run.2)).map UInt16.toNat, rfl, forall₂_hexGroup _, groupsOrNone_groupTexts _,
      ?_, ?_⟩)
    · rw [List.length_map, List.length_map, hfront, hback]
      omega
    · rw [List.length_map, List.length_map, hfront, hback]
      have hcount : 8 - (run.1 + (8 - (run.1 + run.2))) = run.2 := by omega
      rw [hcount, ← hzero, ← List.map_append, ← List.map_append, List.append_assoc, ← hsplit]
  · -- eight groups
    have htext : (gs.zipIdx.foldl (ipv6Step run) .nil).bytes =
        List.intercalate [0x3A] (groupTexts gs) := by
      rw [foldl_ipv6Step_groups gs .nil (.inl rfl) fun h => absurd h hrun]
      rfl
    have hne : gs ≠ [] := List.ne_nil_of_length_pos (by omega)
    have hparts : ((gs.zipIdx.foldl (ipv6Step run) .nil).bytes).splitOn 0x3A = groupTexts gs := by
      rw [htext]
      exact List.splitOn_intercalate _ colon_not_mem_groupTexts (fun h => hne (List.map_eq_nil_iff.mp h))
    refine ⟨(addrParseIpv6_iff _ _).mpr ⟨gs.map UInt16.toNat, ?_, hbytes.symm⟩, .inl ⟨?_, ?_⟩⟩
    · rw [hparts]
      exact .full (groups_groupTexts hne) (by rw [List.length_map, hlen])
    · rintro ⟨i, hi⟩
      exact hrun (hspec.longest i 2 hi)
    · rw [hparts]
      exact forall₂_groupTexts gs

/-- **IP formatting is canonical and invertible.** An address has a text that is written where it and
its terminator fit, with its length, and that is parsed to the address; for IPv6 it is the text of
RFC 5952. -/
theorem addrFormat_exact :
    (∀ addr : List UInt8, addr.length = 4 → ∃ text, addrParseIpv4 text = .ok addr ∧
      ∀ bufLen, addrFormatIpv4Buf addr bufLen =
        if text.length + 1 ≤ bufLen then .ok (text ++ [0], text.length)
        else .error .bufferTooSmall) ∧
    ∀ addr : List UInt8, addr.length = 16 → ∃ text, addrParseIpv6 text = .ok addr ∧
      Rfc5952 text (addrGroups addr) ∧
      ∀ bufLen, addrFormatIpv6Buf addr bufLen =
        if text.length + 1 ≤ bufLen then .ok (text ++ [0], text.length)
        else .error .bufferTooSmall :=
  ⟨fun addr h => ⟨(addrFormatIpv4 addr).bytes, addrParseIpv4_format h, fun bufLen => addrEmit_eq _ bufLen⟩,
    fun addr h => ⟨(addrFormatIpv6 addr).bytes, (addrParseIpv6_format h).1, (addrParseIpv6_format h).2,
      fun bufLen => addrEmit_eq _ bufLen⟩⟩

end Nanortc.Spec
