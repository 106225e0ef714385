/-
  AccessService.Js.Arithmetic

  The arithmetic operators on numbers: sums and differences are rounded to binary64, and the
  bitwise operators read their operands as signed 32-bit integers.
-/

import AccessService.Js.Decimal

namespace AccessService.Js

namespace JsNumber

/-- `a + b`: the exact sum, rounded. -/
def add : JsNumber → JsNumber → JsNumber
  | .fin p, .fin q => toDouble (p + q)
  | .nan, _ => .nan
  | _, .nan => .nan
  | .posInf, .negInf => .nan
  | .negInf, .posInf => .nan
  | .posInf, _ => .posInf
  | _, .posInf => .posInf
  | .negInf, _ => .negInf
  | _, .negInf => .negInf

/-- `a - b` -/
def sub (a b : JsNumber) : JsNumber := a.add b.neg

/-- `Math.abs(a)` -/
def abs : JsNumber → JsNumber
  | .fin q => .fin |q|
  | .nan => .nan
  | .posInf => .posInf
  | .negInf => .posInf

/-- The fraction is cut off. -/
def truncate (q : ℚ) : ℤ := if 0 ≤ q then ⌊q⌋ else ⌈q⌉

/-- `ToInt32`, as the 32 bits. -/
def toInt32 : JsNumber → BitVec 32
  | .fin q => .ofInt 32 (truncate q)
  | _ => 0

/-- `a << count`, for a natural count. -/
def shiftLeft (a : JsNumber) (count : Nat) : JsNumber := .fin (a.toInt32 <<< (count % 32)).toInt

/-- `a & b` -/
def bitAnd (a b : JsNumber) : JsNumber := .fin (a.toInt32 &&& b.toInt32).toInt

-- ============================================================================
-- Integers
-- ============================================================================

theorem truncate_intCast (n : ℤ) : truncate n = n := by
  unfold truncate
  split
  · exact Int.floor_intCast n
  · exact Int.ceil_intCast n

theorem toInt32_intCast (n : ℤ) : (fin n).toInt32 = .ofInt 32 n := by
  rw [toInt32, truncate_intCast]

/-- A sum that is a safe integer is not rounded. -/
theorem add_of_safe {a b : ℤ} (h : |a + b| < 2 ^ 53) :
    (fin a).add (fin b) = fin ((a + b : ℤ) : ℚ) := by
  rw [add, ← Int.cast_add, toDouble_of_safe h]

theorem sub_of_safe {a b : ℤ} (h : |a - b| < 2 ^ 53) :
    (fin a).sub (fin b) = fin ((a - b : ℤ) : ℚ) := by
  have hneg : (fin b).neg = fin ((-b : ℤ) : ℚ) := by rw [neg, Int.cast_neg]
  rw [sub, hneg, sub_eq_add_neg]
  exact add_of_safe (by rwa [← sub_eq_add_neg])

theorem shiftLeft_intCast (n : ℤ) {count : Nat} (h : count < 32) :
    (fin n).shiftLeft count = fin (((n * 2 ^ count).bmod (2 ^ 32) : ℤ) : ℚ) := by
  have hbits : (BitVec.ofInt 32 n <<< count) = BitVec.ofInt 32 (n * 2 ^ count) := by
    have hpower : BitVec.twoPow 32 count = BitVec.ofInt 32 (2 ^ count) := by
      apply BitVec.eq_of_toNat_eq
      have hcast : ((2 : ℤ) ^ count) = ((2 ^ count : ℕ) : ℤ) := by push_cast; rfl
      rw [BitVec.toNat_twoPow, hcast, BitVec.ofInt_natCast, BitVec.toNat_ofNat]
    rw [BitVec.shiftLeft_eq_mul_twoPow, BitVec.ofInt_mul, hpower]
  rw [shiftLeft, Nat.mod_eq_of_lt h, toInt32_intCast, hbits, BitVec.toInt_ofInt]

/-- `n & n` reads `n` as a signed 32-bit integer. -/
theorem bitAnd_self (n : ℤ) :
    (fin n).bitAnd (fin n) = fin ((n.bmod (2 ^ 32) : ℤ) : ℚ) := by
  rw [bitAnd, BitVec.and_self, toInt32_intCast, BitVec.toInt_ofInt]

theorem abs_intCast (n : ℤ) : (fin n).abs = fin ((n.natAbs : ℤ) : ℚ) := by
  rw [abs, Int.natCast_natAbs, Int.cast_abs]

end JsNumber

end AccessService.Js
