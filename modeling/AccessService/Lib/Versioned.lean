/-
  AccessService.Lib.Versioned

  A record with a version and the calls that replace it.  A history applies calls
  one after another, each at the version its caller expects and each raising the
  version by one; so no two calls of a history expect the same version.

  `Accounted` ties a history to calls that are told apart by their numbers, in
  whatever order they were made.
-/

import Mathlib.Data.List.Nodup

namespace AccessService.Lib

structure Versioned (κ σ : Type) where
  version : σ → Int
  /-- The version the caller has seen, where the call carries one. -/
  expected : κ → Option Int
  /-- What a call makes of the record when it runs alone; `none` where it fails. -/
  apply : κ → σ → Option σ

namespace Versioned

variable {κ σ : Type}

/-- The calls one after another. -/
def serial (V : Versioned κ σ) (s : σ) (calls : List κ) : Option σ :=
  calls.foldlM (fun s call => V.apply call s) s

/-- `calls`, in this order, lead from `s₀` to the state. -/
inductive History (V : Versioned κ σ) (s₀ : σ) : List κ → σ → Prop where
  | nil : History V s₀ [] s₀
  | commit {calls : List κ} {s s' : σ} {call : κ} (h : History V s₀ calls s)
      (apply : V.apply call s = some s') (raises : V.version s' = V.version s + 1)
      (expected : ∀ v, V.expected call = some v → v = V.version s) :
      History V s₀ (calls ++ [call]) s'

variable {V : Versioned κ σ} {s₀ s s' : σ} {calls : List κ} {call : κ}

theorem History.serial (h : V.History s₀ calls s) : V.serial s₀ calls = some s := by
  induction h with
  | nil => rfl
  | commit h apply raises expected ih =>
    rw [Versioned.serial] at ih ⊢
    rw [List.foldlM_append, ih]
    simp only [Option.bind_eq_bind, Option.bind_some, List.foldlM_cons, List.foldlM_nil, apply]
    rfl

theorem History.version (h : V.History s₀ calls s) :
    V.version s = V.version s₀ + calls.length := by
  induction h with
  | nil => simp
  | commit h apply raises expected ih =>
    rw [raises, ih, List.length_append, List.length_singleton]
    push_cast
    omega

/-- A call's place in the history is fixed by the version it expects. -/
theorem History.place (h : V.History s₀ calls s) {i : Nat} {v : Int}
    (hcall : calls[i]? = some call) (hv : V.expected call = some v) :
    v = V.version s₀ + i := by
  induction h with
  | nil => cases hcall
  | commit h apply raises expected ih =>
    rw [List.getElem?_append] at hcall
    split at hcall
    · exact ih hcall
    next hle =>
      obtain ⟨hlt, hlast⟩ := List.getElem?_eq_some_iff.mp hcall
      rw [List.length_singleton] at hlt
      rw [List.getElem_singleton] at hlast
      have hversion := h.version
      rw [expected v (hlast ▸ hv), hversion]
      omega

-- ============================================================================
-- Calls with numbers
-- ============================================================================

/-- The calls that have succeeded, each once, are a history. -/
def Accounted (V : Versioned κ σ) (s₀ s : σ) (succeeded : Nat → κ → Prop) : Prop :=
  ∃ log : List (Nat × κ), (log.map Prod.fst).Nodup ∧
    (∀ i call, (i, call) ∈ log ↔ succeeded i call) ∧ V.History s₀ (log.map Prod.snd) s

variable {succeeded succeeded' : Nat → κ → Prop}

theorem Accounted.start (hnone : ∀ i call, ¬succeeded i call) :
    V.Accounted s₀ s₀ succeeded := by
  refine ⟨[], List.nodup_nil, fun i call => ?_, .nil⟩
  exact iff_of_false List.not_mem_nil (hnone i call)

theorem Accounted.of_same (h : V.Accounted s₀ s succeeded)
    (hsame : ∀ i call, succeeded' i call ↔ succeeded i call) :
    V.Accounted s₀ s succeeded' := by
  obtain ⟨log, hnodup, hlog, hhistory⟩ := h
  exact ⟨log, hnodup, fun i call => (hlog i call).trans (hsame i call).symm, hhistory⟩

/-- One more call succeeds. -/
theorem Accounted.commit (h : V.Accounted s₀ s succeeded) {i : Nat}
    (hnew : ∀ other, ¬succeeded i other) (happly : V.apply call s = some s')
    (hraises : V.version s' = V.version s + 1)
    (hexpected : ∀ v, V.expected call = some v → v = V.version s)
    (hsucceeded : ∀ j other, succeeded' j other ↔
      (j = i ∧ other = call) ∨ succeeded j other) :
    V.Accounted s₀ s' succeeded' := by
  obtain ⟨log, hnodup, hlog, hhistory⟩ := h
  refine ⟨log ++ [(i, call)], ?_, fun j other => ?_, ?_⟩
  · rw [List.map_append, List.nodup_append']
    refine ⟨hnodup, List.nodup_singleton _, List.disjoint_singleton.mpr fun hmem => ?_⟩
    obtain ⟨⟨j, other⟩, hold, rfl⟩ := List.mem_map.mp hmem
    exact hnew other ((hlog _ other).mp hold)
  · rw [List.mem_append, List.mem_singleton, hlog, hsucceeded, Prod.mk.injEq]
    exact or_comm
  · rw [List.map_append]
    exact hhistory.commit happly hraises hexpected

/-- Two calls that expect the same version have not both succeeded. -/
theorem Accounted.once (h : V.Accounted s₀ s succeeded) {i j : Nat} {other : κ} {v : Int}
    (hi : succeeded i call) (hj : succeeded j other) (hcall : V.expected call = some v)
    (hother : V.expected other = some v) : i = j := by
  obtain ⟨log, -, hlog, hhistory⟩ := h
  obtain ⟨m, hm⟩ := List.mem_iff_getElem?.mp ((hlog i call).mpr hi)
  obtain ⟨n, hn⟩ := List.mem_iff_getElem?.mp ((hlog j other).mpr hj)
  have hplace := hhistory.place (by rw [List.getElem?_map, hm]; rfl) hcall
  have hplace' := hhistory.place (by rw [List.getElem?_map, hn]; rfl) hother
  obtain rfl : m = n := by omega
  exact (Prod.mk.inj (Option.some.inj (hm.symm.trans hn))).1

/-- The calls that have succeeded lead to the state one after another. -/
theorem Accounted.serial (h : V.Accounted s₀ s succeeded) :
    ∃ log : List (Nat × κ), (log.map Prod.fst).Nodup ∧
      (∀ i call, (i, call) ∈ log ↔ succeeded i call) ∧
      V.serial s₀ (log.map Prod.snd) = some s := by
  obtain ⟨log, hnodup, hlog, hhistory⟩ := h
  exact ⟨log, hnodup, hlog, hhistory.serial⟩

end Versioned

end AccessService.Lib
