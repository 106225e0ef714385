/-
  AccessService.Lib.Retry

  An operation tried again while it fails in a way worth another attempt. It is told the
  number of the attempt, so that each may go differently.
-/

import Mathlib.Logic.Basic

namespace AccessService.Lib.Retry

variable {σ ε α : Type}

/-- At most `more` attempts follow the one numbered `attempt`. How the last one ended, and
    its number. -/
def retry (again : ε → Bool) (operation : Nat → σ → Except ε α × σ) :
    (more attempt : Nat) → σ → (Except ε α × σ) × Nat
  | 0, attempt, s => (operation attempt s, attempt)
  | more + 1, attempt, s =>
    match operation attempt s with
    | (.ok a, t) => ((.ok a, t), attempt)
    | (.error e, t) =>
      if again e then retry again operation more (attempt + 1) t else ((.error e, t), attempt)

variable {again : ε → Bool} {operation : Nat → σ → Except ε α × σ}

/-- The outcome is that of one attempt, from a state with what failing attempts keep. -/
theorem retry_last {I : σ → Prop}
    (hfail : ∀ n s e t, I s → operation n s = (.error e, t) → I t) (more attempt : Nat) {s : σ}
    (hs : I s) :
    ∃ n t, attempt ≤ n ∧ n ≤ attempt + more ∧ I t ∧
      retry again operation more attempt s = (operation n t, n) := by
  induction more generalizing attempt s with
  | zero => exact ⟨attempt, s, Nat.le_refl _, Nat.le_refl _, hs, rfl⟩
  | succ more ih =>
    rcases hattempt : operation attempt s with ⟨e | a, t⟩
    · by_cases hagain : again e = true
      · obtain ⟨n, u, hfrom, hto, hu, hrest⟩ :=
          ih (attempt + 1) (hfail attempt s e t hs hattempt)
        refine ⟨n, u, by omega, by omega, hu, ?_⟩
        simp only [retry, hattempt, if_pos hagain, hrest]
      · refine ⟨attempt, s, Nat.le_refl _, by omega, hs, ?_⟩
        simp only [retry, hattempt, if_neg hagain]
    · refine ⟨attempt, s, Nat.le_refl _, by omega, hs, ?_⟩
      simp only [retry, hattempt]

/-- A first attempt that returns, or fails for good, is the only one. -/
theorem retry_first {more attempt : Nat} {s : σ}
    (h : ∀ e t, operation attempt s = (.error e, t) → again e = false) :
    retry again operation more attempt s = (operation attempt s, attempt) := by
  cases more with
  | zero => rfl
  | succ more =>
    rcases hattempt : operation attempt s with ⟨e | a, t⟩
    · simp [retry, hattempt, h e t hattempt]
    · simp only [retry, hattempt]

end AccessService.Lib.Retry
