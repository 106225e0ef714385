/-
  AccessService.Authorization.LockIdArithmetic

  The numbers that `hashKeyToInt64` goes through: each operator of its loop has an exact
  result, and the hash is the signed 32-bit reading of a polynomial in the code units.
-/

import AccessService.Authorization.DistributedLock
import AccessService.Js.Arithmetic
import AccessService.Lib.RollingHash

namespace AccessService.Authorization

open AccessService.Js AccessService.Lib

namespace LockId

-- ============================================================================
-- The loop on numbers
-- ============================================================================

/-- `(hash << 5) - hash + char` -/
def mixed (hash : JsNumber) (char : UInt16) : JsNumber :=
  ((hash.shiftLeft 5).sub hash).add (.fin char.toNat)

/-- The body of the loop. -/
def bodyNumber (hash : JsNumber) (char : UInt16) : JsNumber :=
  (mixed hash char).bitAnd (mixed hash char)

/-- What the operators of the body give, one after another. -/
def bodyNumbers (hash : JsNumber) (char : UInt16) : List JsNumber :=
  [.fin char.toNat, hash.shiftLeft 5, (hash.shiftLeft 5).sub hash, mixed hash char,
    bodyNumber hash char]

def loopNumbers (hash : JsNumber) : List UInt16 → List JsNumber
  | [] => [hash]
  | char :: chars => hash :: bodyNumbers hash char ++ loopNumbers (bodyNumber hash char) chars

/-- `Math.abs(hash)` after the loop. -/
def lockNumber (key : List UInt16) : JsNumber := (key.foldl bodyNumber (.fin 0)).abs

-- ============================================================================
-- The loop on integers
-- ============================================================================

def bodyIntegers (hash : ℤ) (char : UInt16) : List ℤ :=
  [char.toNat, toInt32 (hash * 2 ^ 5), toInt32 (hash * 2 ^ 5) - hash,
    toInt32 (hash * 2 ^ 5) - hash + char.toNat, hashStep hash char]

def loopIntegers (hash : ℤ) : List UInt16 → List ℤ
  | [] => [hash]
  | char :: chars => hash :: bodyIntegers hash char ++ loopIntegers (hashStep hash char) chars

/-- The values of a signed 32-bit integer. -/
def IsInt32 (n : ℤ) : Prop := -2 ^ 31 ≤ n ∧ n < 2 ^ 31

theorem isInt32_toInt32 (n : ℤ) : IsInt32 (toInt32 n) := by
  have hlow := Int.le_bmod (x := n) (m := 2 ^ 32) (by decide)
  have hhigh := Int.bmod_lt (x := n) (m := 2 ^ 32) (by decide)
  exact ⟨by simpa [toInt32] using hlow, by simpa [toInt32] using hhigh⟩

variable {hash : ℤ}

theorem isInt32_hashStep (hash : ℤ) (char : UInt16) : IsInt32 (hashStep hash char) :=
  isInt32_toInt32 _

theorem bodyIntegers_safe (h : IsInt32 hash) (char : UInt16) :
    ∀ n ∈ bodyIntegers hash char, |n| < 2 ^ 53 := by
  have hchar : char.toNat < 2 ^ 16 := char.toNat_lt
  obtain ⟨hlow, hhigh⟩ := h
  obtain ⟨hshiftLow, hshiftHigh⟩ := isInt32_toInt32 (hash * 2 ^ 5)
  obtain ⟨hstepLow, hstepHigh⟩ :=
    isInt32_toInt32 (toInt32 (hash * 2 ^ 5) - hash + char.toNat)
  simp only [bodyIntegers, List.forall_mem_cons, hashStep, abs_lt]
  refine ⟨?_, ?_, ?_, ?_, ?_, fun n hn => absurd hn List.not_mem_nil⟩ <;> constructor <;> omega

/-- One round of the loop is exact on the integers of 32 bits. -/
theorem bodyNumbers_eq (h : IsInt32 hash) (char : UInt16) :
    bodyNumbers (.fin hash) char = (bodyIntegers hash char).map fun n => .fin n := by
  have hsafe := bodyIntegers_safe h char
  simp only [bodyIntegers, List.forall_mem_cons] at hsafe
  obtain ⟨-, -, hdifference, hsum, -⟩ := hsafe
  have hshift : (JsNumber.fin hash).shiftLeft 5 = .fin (toInt32 (hash * 2 ^ 5) : ℤ) :=
    JsNumber.shiftLeft_intCast hash (by decide)
  have hsub := JsNumber.sub_of_safe hdifference
  have hmixed : mixed (.fin hash) char =
      .fin ((toInt32 (hash * 2 ^ 5) - hash + char.toNat : ℤ) : ℚ) := by
    rw [mixed, hshift, hsub]
    exact JsNumber.add_of_safe hsum
  have hbody : bodyNumber (.fin hash) char = .fin ((hashStep hash char : ℤ) : ℚ) := by
    rw [bodyNumber, hmixed]
    exact JsNumber.bitAnd_self _
  rw [bodyNumbers, hshift, hsub, hmixed, hbody]
  rfl

theorem bodyNumber_eq (h : IsInt32 hash) (char : UInt16) :
    bodyNumber (.fin hash) char = .fin ((hashStep hash char : ℤ) : ℚ) := by
  have hlast := congrArg List.getLast? (bodyNumbers_eq h char)
  exact Option.some.inj hlast

/-- No number of the loop is rounded. -/
theorem loopNumbers_eq (key : List UInt16) (h : IsInt32 hash) :
    loopNumbers (.fin hash) key = (loopIntegers hash key).map fun n => .fin n := by
  induction key generalizing hash with
  | nil => rfl
  | cons char key ih =>
    rw [loopNumbers, bodyNumbers_eq h, bodyNumber_eq h, ih (isInt32_hashStep hash char),
      loopIntegers, List.map_append, List.map_cons]

theorem loopIntegers_safe (key : List UInt16) (h : IsInt32 hash) :
    ∀ n ∈ loopIntegers hash key, |n| < 2 ^ 53 := by
  have hhash : |hash| < 2 ^ 53 := by
    obtain ⟨hlow, hhigh⟩ := h
    rw [abs_lt]
    constructor <;> omega
  induction key generalizing hash with
  | nil => exact List.forall_mem_singleton.mpr hhash
  | cons char key ih =>
    have hbody := bodyIntegers_safe h char
    intro n hn
    rcases List.mem_append.mp hn with hn | hn
    · rcases List.mem_cons.mp hn with rfl | hn
      · exact hhash
      · exact hbody n hn
    · exact ih (isInt32_hashStep hash char) (hbody _ (by simp [bodyIntegers])) n hn

theorem foldl_bodyNumber (key : List UInt16) (h : IsInt32 hash) :
    key.foldl bodyNumber (.fin hash) = .fin ((key.foldl hashStep hash : ℤ) : ℚ) := by
  induction key generalizing hash with
  | nil => rfl
  | cons char key ih =>
    rw [List.foldl_cons, bodyNumber_eq h, ih (isInt32_hashStep hash char),
      List.foldl_cons]

-- ============================================================================
-- The closed form
-- ============================================================================

/-- The wrapped shift less the hash is 31 times the hash, up to a wrap. -/
theorem hashStep_eq_step : hashStep = RollingHash.step 31 (2 ^ 32) UInt16.toNat := by
  funext hash char
  have hmul : hash * 2 ^ 5 - hash + char.toNat = 31 * hash + char.toNat := by ring
  show (((hash * 2 ^ 5).bmod (2 ^ 32)) - hash + char.toNat).bmod (2 ^ 32) = _
  rw [← Int.bmod_add_bmod, Int.bmod_sub_bmod, Int.bmod_add_bmod, hmul]
  rfl

/-- `s`: the sum of `cᵢ * 31 ^ (n - 1 - i)` modulo `2 ^ 32`, read as a signed integer. -/
def signedHash (key : List UInt16) : ℤ :=
  (BitVec.ofNat 32
    (∑ i : Fin key.length, (key.get i).toNat * 31 ^ (key.length - 1 - i))).toInt

theorem foldl_hashStep (key : List UInt16) : key.foldl hashStep 0 = signedHash key := by
  rw [hashStep_eq_step, RollingHash.foldl_step_zero, signedHash, BitVec.toInt_ofNat']
  rfl

/-- The lock id of any key is the decimal form of `|s|`, with no number of the loop rounded
    on the way, and it fits a signed 64-bit integer. -/
theorem hashKeyToInt64_exact (key : List UInt16) :
    hashKeyToInt64 key = toString (signedHash key).natAbs ∧
      lockNumber key = .fin ((signedHash key).natAbs : ℤ) ∧
      loopNumbers (.fin 0) key = (loopIntegers 0 key).map (fun n => .fin n) ∧
      (∀ n ∈ loopIntegers 0 key, |n| < 2 ^ 53) ∧
      (signedHash key).natAbs ≤ 2 ^ 31 ∧ ((signedHash key).natAbs : ℤ) < 2 ^ 63 := by
  have hzero : IsInt32 0 := ⟨by decide, by decide⟩
  have hloop := loopNumbers_eq key hzero
  have hnumber := foldl_bodyNumber key hzero
  rw [Int.cast_zero] at hloop hnumber
  have hsigned : IsInt32 (signedHash key) := by
    unfold signedHash
    rw [BitVec.toInt_ofNat']
    exact isInt32_toInt32 _
  obtain ⟨hlow, hhigh⟩ := hsigned
  refine ⟨?_, ?_, hloop, loopIntegers_safe key hzero, by omega, by omega⟩
  · rw [hashKeyToInt64, foldl_hashStep]
  · rw [lockNumber, hnumber, foldl_hashStep, JsNumber.abs_intCast]

end LockId

end AccessService.Authorization
