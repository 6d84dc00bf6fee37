import Nanortc.ForStd.BigEndian
import Nanortc.ForStd.Serial

/-!
# Shared types

Result codes, the crypto provider and the constant-time comparison that the protocol modules
have in common.
-/

namespace Nanortc.Native

open Nanortc.ForStd

/-- Result codes of the library (`NANORTC_OK` and `NANORTC_ERR_*`). -/
inductive Rc where
  | ok
  | invalidParam
  | bufferTooSmall
  | state
  | crypto
  | protocol
  | notImplemented
  | parse
  | noData
  | internal
  | wouldBlock
deriving Repr, DecidableEq, Inhabited

/-- `nanortc_addr_t`; the family is 4 or 6. -/
structure NanortcAddr where
  family : UInt8
  addr : List UInt8
  port : UInt16
deriving Repr, DecidableEq, Inhabited

/-- The crypto provider the application supplies. `none` is a nonzero return code; the lengths
are those of the buffers the callers pass. -/
structure CryptoProvider where
  aes128Cm : (key iv input : List UInt8) → Option (List UInt8)
  hmacSha1 : (key data : List UInt8) → List UInt8
  hmacSha1_80 : (key data : List UInt8) → List UInt8
  md5 : List UInt8 → List UInt8
  length_aes128Cm : ∀ {key iv input out}, aes128Cm key iv input = some out →
    out.length = input.length
  length_hmacSha1 : ∀ key data, (hmacSha1 key data).length = 20
  length_hmacSha1_80 : ∀ key data, (hmacSha1_80 key data).length = 10
  length_md5 : ∀ data, (md5 data).length = 16

/-- A provider that computes: the cipher XORs one byte of key and IV, a digest repeats the sum of
key and data. -/
def CryptoProvider.checksum : CryptoProvider where
  aes128Cm key iv input := some (input.map (· ^^^ (byteAt key 0 + byteAt iv 13)))
  hmacSha1 key data := List.replicate 20 (key.sum + data.sum)
  hmacSha1_80 key data := List.replicate 10 (key.sum + data.sum)
  md5 data := List.replicate 16 data.sum
  length_aes128Cm h := by
    obtain rfl := Option.some.inj h
    exact List.length_map _
  length_hmacSha1 _ _ := List.length_replicate
  length_hmacSha1_80 _ _ := List.length_replicate
  length_md5 _ := List.length_replicate

/-- The accumulated difference of two byte strings, zero when no byte differs. -/
def ctDiff (a b : List UInt8) : UInt8 :=
  (List.zipWith (· ^^^ ·) a b).foldl (· ||| ·) 0

private theorem foldl_or_eq_zero_iff (l : List UInt8) (acc : UInt8) :
    l.foldl (· ||| ·) acc = 0 ↔ acc = 0 ∧ ∀ x ∈ l, x = 0 := by
  induction l generalizing acc with
  | nil => simp
  | cons x l ih =>
    rw [List.foldl_cons, ih, List.forall_mem_cons]
    constructor
    · rintro ⟨h, hl⟩
      have := UInt8.or_eq_zero_iff.mp h
      exact ⟨this.1, this.2, hl⟩
    · rintro ⟨ha, hx, hl⟩
      exact ⟨UInt8.or_eq_zero_iff.mpr ⟨ha, hx⟩, hl⟩

/-- Byte strings of one length have no difference only when they are equal. -/
theorem ctDiff_eq_zero_iff (a b : List UInt8) (h : a.length = b.length) :
    ctDiff a b = 0 ↔ a = b := by
  rw [ctDiff, foldl_or_eq_zero_iff]
  simp only [true_and]
  induction a generalizing b with
  | nil => cases b with
    | nil => simp
    | cons => simp at h
  | cons x a ih => cases b with
    | nil => simp at h
    | cons y b =>
      rw [List.zipWith_cons_cons, List.forall_mem_cons, ih b (by simpa using h),
        UInt8.xor_eq_zero_iff, List.cons.injEq]

/-- `nano_time_elapsed`. -/
def nanoTimeElapsed (nowMs sinceMs : UInt32) : UInt32 := nowMs - sinceMs

/-- `nano_time_is_due`: the deadline is now or in the past. -/
def nanoTimeIsDue (nowMs deadlineMs : UInt32) : Bool :=
  nanoTimeElapsed nowMs deadlineMs ≤ 0x7FFFFFFF

/-- `nano_time_until`: time remaining, zero once due. -/
def nanoTimeUntil (nowMs deadlineMs : UInt32) : UInt32 :=
  if nanoTimeIsDue nowMs deadlineMs then 0 else deadlineMs - nowMs

/-- `nano_time_deadline`: zero is kept for "not armed". -/
def nanoTimeDeadline (nowMs delayMs : UInt32) : UInt32 :=
  let deadlineMs := nowMs + delayMs
  if deadlineMs = 0 then 1 else deadlineMs

end Nanortc.Native
