/-
  AccessService.Lib.RollingHash

  A polynomial hash that is read back into the signed range after every digit. The wraps in
  the middle do not show: the hash is the positional value of the digits, wrapped once.
-/

import Mathlib.Algebra.BigOperators.Fin
import Mathlib.Tactic.Ring

namespace AccessService.Lib.RollingHash

variable {α : Type} {base m : Nat} {digit : α → Nat}

/-- The digit enters at the lowest place, and the hash wraps around `m`. -/
def step (base m : Nat) (digit : α → Nat) (hash : Int) (a : α) : Int :=
  (base * hash + digit a).bmod m

/-- `d₀ * base ^ (n - 1) + … + dₙ₋₁` -/
def positional (base : Nat) (digit : α → Nat) (list : List α) : Nat :=
  ∑ i : Fin list.length, digit (list.get i) * base ^ (list.length - 1 - i)

theorem positional_cons (a : α) (list : List α) :
    positional base digit (a :: list) =
      digit a * base ^ list.length + positional base digit list := by
  have hplace : ∀ i : Fin list.length,
      (a :: list).length - 1 - (i.succ : Nat) = list.length - 1 - i := by
    intro i
    rw [Fin.val_succ, List.length_cons, Nat.add_sub_cancel]
    omega
  show ∑ i : Fin (list.length + 1), _ = _
  rw [Fin.sum_univ_succ]
  simp only [hplace]
  rfl

/-- A hash that takes in the list moves up by the length of the list. -/
theorem foldl_step {list : List α} {hash : Int} (h : hash.bmod m = hash) :
    list.foldl (step base m digit) hash =
      (hash * base ^ list.length + positional base digit list).bmod m := by
  induction list generalizing hash with
  | nil => simpa [positional] using h.symm
  | cons a list ih =>
    have hwrapped : (step base m digit hash a).bmod m = step base m digit hash a :=
      Int.bmod_bmod
    have hvalue : (base * hash + digit a) * (base : Int) ^ list.length +
          positional base digit list =
        hash * base ^ (a :: list).length + positional base digit (a :: list) := by
      rw [positional_cons, List.length_cons]
      push_cast
      ring
    rw [List.foldl_cons, ih hwrapped, step, ← hvalue, ← Int.bmod_add_bmod, Int.bmod_mul_bmod,
      Int.bmod_add_bmod]

theorem foldl_step_zero (list : List α) :
    list.foldl (step base m digit) 0 = (positional base digit list : Int).bmod m := by
  have hzero : (0 : Int).bmod m = 0 := Int.zero_bmod
  rw [foldl_step hzero, Int.zero_mul, Int.zero_add]

end AccessService.Lib.RollingHash
