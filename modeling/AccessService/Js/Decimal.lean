/-
  AccessService.Js.Decimal

  A safe integer is read back from its decimal text: `parseInt(String(n), 10)` is `n`.
-/

import AccessService.Js.Value
import Mathlib.Data.List.TakeWhile
import Mathlib.Tactic.Positivity

namespace AccessService.Js

-- ============================================================================
-- Digits
-- ============================================================================

theorem digitValue_of_isDigit {c : Char} (h : c.isDigit = true) :
    digitValue c = some (c.toNat - '0'.toNat) := by
  simp only [Char.isDigit, Bool.and_eq_true, decide_eq_true_eq] at h
  exact if_pos ⟨h.1, h.2⟩

theorem isDigit_lt_ten {c : Char} (h : c.isDigit = true) : c.toNat - '0'.toNat < 10 := by
  simp only [Char.isDigit, Bool.and_eq_true, decide_eq_true_eq] at h
  have hle : c.toNat ≤ 57 := h.2
  have hzero : '0'.toNat = 48 := rfl
  omega

theorem not_isStrWhiteSpace_of_isDigit {c : Char} (h : c.isDigit = true) :
    isStrWhiteSpace c = false := by
  simp only [Char.isDigit, Bool.and_eq_true, decide_eq_true_eq] at h
  have hge : 48 ≤ c.toNat := h.1
  have hle : c.toNat ≤ 57 := h.2
  simp [isStrWhiteSpace]
  omega

/-- The reading of digits, from what has been read. -/
theorem foldl_readDigits {ds : List Char} (h : ∀ c ∈ ds, c.isDigit = true) (n : Nat) :
    ds.foldl
      (fun acc c =>
        match acc, digitValue c with
        | some n, some d => if d < 10 then some (n * 10 + d) else none
        | _, _ => none)
      (some n) = some (Nat.ofDigitChars 10 ds n) := by
  induction ds generalizing n with
  | nil => simp
  | cons c cs ih =>
    have hc := h c List.mem_cons_self
    rw [List.foldl_cons, digitValue_of_isDigit hc, Nat.ofDigitChars_cons]
    simp only [if_pos (isDigit_lt_ten hc)]
    rw [ih (fun d hd => h d (List.mem_cons_of_mem c hd)), Nat.mul_comm n 10]

theorem isDigit_of_digitValue {c : Char} {d : Nat} (h : digitValue c = some d) (hd : d < 10) :
    c.isDigit = true := by
  unfold digitValue at h
  split at h
  next hrange =>
    simp only [Char.isDigit, Bool.and_eq_true, decide_eq_true_eq]
    exact hrange
  · split at h
    · cases h
      omega
    · split at h
      · cases h
        omega
      · cases h

/-- What is read as a number has decimal digits only. -/
theorem isDigit_of_readDigits {ds : List Char} {n : Nat} (h : readDigits 10 ds = some n) :
    ∀ c ∈ ds, c.isDigit = true := by
  let next : Option Nat → Char → Option Nat := fun acc c =>
    match acc, digitValue c with
    | some n, some d => if d < 10 then some (n * 10 + d) else none
    | _, _ => none
  have hnone : ∀ cs : List Char, cs.foldl next none = none := by
    intro cs
    induction cs with
    | nil => rfl
    | cons c cs ih => exact ih
  have hall : ∀ (cs : List Char) (acc : Option Nat) (n : Nat), cs.foldl next acc = some n →
      ∀ c ∈ cs, c.isDigit = true := by
    intro cs
    induction cs with
    | nil => exact fun _ _ _ c hc => absurd hc List.not_mem_nil
    | cons c cs ih =>
      intro acc n hfold
      rw [List.foldl_cons] at hfold
      refine List.forall_mem_cons.mpr ⟨?_, ih _ n hfold⟩
      by_contra hc
      have hstop : next acc c = none := by
        simp only [next]
        split
        next d hvalue =>
          rw [if_neg fun hd => hc (isDigit_of_digitValue hvalue hd)]
        · rfl
      rw [hstop, hnone] at hfold
      cases hfold
  cases ds with
  | nil => exact fun c hc => absurd hc List.not_mem_nil
  | cons c cs => exact hall (c :: cs) (some 0) n h

theorem readDigits_toDigits (n : Nat) : readDigits 10 (Nat.toDigits 10 n) = some n := by
  have hdigits : ∀ c ∈ Nat.toDigits 10 n, c.isDigit = true :=
    fun c hc => Nat.isDigit_of_mem_toDigits (by decide) (by decide) hc
  have hfold := foldl_readDigits hdigits 0
  rw [Nat.ofDigitChars_ten_toDigits] at hfold
  rcases hds : Nat.toDigits 10 n with _ | ⟨c, cs⟩
  · exact absurd hds Nat.toDigits_ne_nil
  · rw [hds] at hfold
    exact hfold

theorem takeWhile_toDigits (n : Nat) :
    (Nat.toDigits 10 n).takeWhile Char.isDigit = Nat.toDigits 10 n :=
  List.takeWhile_eq_self_iff.mpr fun _ hc =>
    Nat.isDigit_of_mem_toDigits (by decide) (by decide) hc

-- ============================================================================
-- Rounding
-- ============================================================================

@[simp] theorem roundHalfEven_intCast (n : ℤ) : roundHalfEven n = n := by
  simp [roundHalfEven]

/-- Rounding at a unit of at most one leaves an integer as it is. -/
theorem roundHalfEven_div_zpow (n : ℤ) {e : ℤ} (he : e ≤ 0) :
    (roundHalfEven ((n : ℚ) / 2 ^ e) : ℚ) * 2 ^ e = n := by
  obtain ⟨k, rfl⟩ := Int.exists_eq_neg_ofNat he
  have hscaled : (n : ℚ) / 2 ^ (-(k : ℤ)) = ((n * 2 ^ k : ℤ) : ℚ) := by
    push_cast
    rw [zpow_neg, div_inv_eq_mul, zpow_natCast]
  rw [hscaled, roundHalfEven_intCast]
  push_cast
  rw [zpow_neg, zpow_natCast, mul_assoc, mul_inv_cancel₀ (by positivity), mul_one]

/-- A safe integer is a binary64 value. -/
theorem toDouble_of_safe {n : ℤ} (h : |n| < 2 ^ 53) : toDouble n = .fin n := by
  by_cases hn : n = 0
  · subst hn
    simp [toDouble]
  · have hcast : |(n : ℚ)| = ((|n| : ℤ) : ℚ) := Int.cast_abs.symm
    have hpos : (0 : ℚ) < |(n : ℚ)| := abs_pos.mpr (Int.cast_ne_zero.mpr hn)
    have hlt : |(n : ℚ)| < 2 ^ (53 : ℤ) := by
      rw [hcast]
      exact_mod_cast h
    have hlog : Int.log 2 |(n : ℚ)| < 53 := (Int.lt_zpow_iff_log_lt (by decide) hpos).mp hlt
    have hexp : max (Int.log 2 |(n : ℚ)| - 52) (-1074) ≤ 0 := by omega
    have hround := roundHalfEven_div_zpow |n| hexp
    rw [← hcast] at hround
    have hbound : ¬(2 : ℚ) ^ (1024 : ℤ) ≤ |(n : ℚ)| := by
      refine not_le.mpr (hlt.trans ?_)
      exact zpow_lt_zpow_right₀ (by norm_num) (by decide)
    simp only [toDouble, Int.cast_eq_zero, if_neg hn, hround, if_neg hbound]
    split
    next hneg => rw [abs_of_neg hneg, neg_neg]
    next hneg => rw [abs_of_nonneg (not_lt.mp hneg)]

-- ============================================================================
-- Decimal text
-- ============================================================================

/-- The digits that `parseInt` reads. -/
theorem read_toDigits {n : Nat} (h : |(n : ℤ)| < 2 ^ 53) :
    (match readDigits 10 ((Nat.toDigits 10 n).takeWhile Char.isDigit) with
      | some m => toDouble m
      | none => JsNumber.nan) = .fin n := by
  rw [takeWhile_toDigits, readDigits_toDigits]
  exact_mod_cast toDouble_of_safe h

theorem parseInt_of_readDigits {s : String} {n : Nat} (hs : readDigits 10 s.toList = some n)
    (h : |(n : ℤ)| < 2 ^ 53) : parseInt s = .fin n := by
  have hdigits := isDigit_of_readDigits hs
  have htake : s.toList.takeWhile Char.isDigit = s.toList := List.takeWhile_eq_self_iff.mpr hdigits
  have hread : (match readDigits 10 (s.toList.takeWhile Char.isDigit) with
      | some m => toDouble m
      | none => JsNumber.nan) = .fin n := by
    rw [htake, hs]
    exact_mod_cast toDouble_of_safe h
  unfold parseInt
  rcases hds : s.toList with _ | ⟨c, cs⟩
  · rw [hds] at hs
    cases hs
  · have hc : c.isDigit = true := hdigits c (hds ▸ List.mem_cons_self)
    rw [List.dropWhile_cons_of_neg (by rw [not_isStrWhiteSpace_of_isDigit hc]; decide)]
    rw [hds] at hread
    split
    next heq =>
      obtain ⟨rfl, -⟩ := List.cons.inj heq
      cases hc
    next heq =>
      obtain ⟨rfl, -⟩ := List.cons.inj heq
      cases hc
    · exact hread

theorem parseInt_of_digits {s : String} {n : Nat} (hs : s.toList = Nat.toDigits 10 n)
    (h : |(n : ℤ)| < 2 ^ 53) : parseInt s = .fin n :=
  parseInt_of_readDigits (by rw [hs, readDigits_toDigits]) h

theorem parseInt_of_minus_digits {s : String} {n : Nat}
    (hs : s.toList = '-' :: Nat.toDigits 10 n) (h : |(n : ℤ)| < 2 ^ 53) :
    parseInt s = .fin (-n) := by
  unfold parseInt
  rw [hs, List.dropWhile_cons_of_neg (by decide)]
  exact congrArg JsNumber.neg (read_toDigits h)

theorem parseInt_toString (n : SafeInteger) : parseInt (toString n.val) = .fin n.val := by
  obtain ⟨n, hsafe⟩ := n
  cases n with
  | ofNat m => exact parseInt_of_digits (by simp [toString, Int.repr]) hsafe
  | negSucc m =>
    have hminus : (toString (Int.negSucc m)).toList = '-' :: Nat.toDigits 10 (m + 1) := by
      simp [toString, Int.repr]
    have hsucc : |((m + 1 : ℕ) : ℤ)| < 2 ^ 53 := by rwa [Int.negSucc_eq, abs_neg] at hsafe
    have hcast : ((Int.negSucc m : ℤ) : ℚ) = -((m + 1 : ℕ) : ℚ) := by
      rw [Int.negSucc_eq]
      push_cast
      rfl
    exact (parseInt_of_minus_digits hminus hsucc).trans (congrArg JsNumber.fin hcast.symm)

/-- The text of a version says which it is. -/
theorem SafeInteger.toString_injective {m n : SafeInteger}
    (h : toString m.val = toString n.val) : m.val = n.val := by
  have hparse := parseInt_toString m
  rw [h, parseInt_toString] at hparse
  exact (Int.cast_injective (JsNumber.fin.inj hparse)).symm

end AccessService.Js
