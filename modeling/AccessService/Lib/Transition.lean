/-
  AccessService.Lib.Transition

  Labelled transition systems with partial deterministic steps, runs whose
  steps all meet a side condition, and the invariant rules for them.

  A side condition may look at the state before the step and at its label.  The
  trivial condition gives plain reachability.
-/

import Mathlib.Logic.Relation

namespace AccessService.Lib.Transition

variable {σ ι : Type}

/-- `step s i` is the state after `i`, when `i` is enabled in `s`. -/
structure System (σ ι : Type) where
  init : σ → Prop
  step : σ → ι → Option σ

/-- No condition on the steps. -/
def Always (_ : σ) (_ : ι) : Prop := True

instance (s : σ) (i : ι) : Decidable (Always s i) := .isTrue trivial

namespace System

variable (S : System σ ι)

/-- One step that meets `P`. -/
def Next (P : σ → ι → Prop) (s t : σ) : Prop := ∃ i, P s i ∧ S.step s i = some t

/-- A run all of whose steps meet `P`. -/
abbrev Steps (P : σ → ι → Prop) : σ → σ → Prop := Relation.ReflTransGen (S.Next P)

/-- The states reached from an initial one by steps that all meet `P`. -/
def Reachable (P : σ → ι → Prop) (t : σ) : Prop := ∃ s, S.init s ∧ S.Steps P s t

variable {S} {P : σ → ι → Prop}

theorem Reachable.start {s : σ} (h : S.init s) : S.Reachable P s := ⟨s, h, .refl⟩

theorem Reachable.steps {s t : σ} (h : S.Reachable P s) (h' : S.Steps P s t) :
    S.Reachable P t := by
  obtain ⟨s₀, hinit, hsteps⟩ := h
  exact ⟨s₀, hinit, hsteps.trans h'⟩

/-- What holds initially and is preserved by every conforming step from a
    reachable state holds in every reachable state. -/
theorem Reachable.invariant (I : σ → Prop) (hinit : ∀ s, S.init s → I s)
    (hstep : ∀ s i t, S.Reachable P s → I s → P s i → S.step s i = some t → I t)
    {t : σ} (h : S.Reachable P t) : I t := by
  obtain ⟨s₀, h₀, hsteps⟩ := h
  induction hsteps with
  | refl => exact hinit s₀ h₀
  | tail hpre hnext ih =>
    obtain ⟨i, hp, hst⟩ := hnext
    exact hstep _ i _ ⟨s₀, h₀, hpre⟩ ih hp hst

/-- What is preserved by every conforming step from a reachable state is
    preserved by every conforming run from one. -/
theorem Steps.preserves (I : σ → Prop)
    (hstep : ∀ s i t, S.Reachable P s → I s → P s i → S.step s i = some t → I t)
    {s t : σ} (hreach : S.Reachable P s) (hs : I s) (h : S.Steps P s t) : I t := by
  induction h with
  | refl => exact hs
  | tail hpre hnext ih =>
    obtain ⟨i, hp, hst⟩ := hnext
    exact hstep _ i _ (hreach.steps hpre) ih hp hst

-- ============================================================================
-- Executing a list of labels
-- ============================================================================

section Run

variable (S) (P) [∀ s i, Decidable (P s i)]

/-- Run a list of labels, as long as each is enabled and meets `P`. -/
def run (s : σ) : List ι → Option σ
  | [] => some s
  | i :: is =>
    if P s i then
      match S.step s i with
      | some t => run t is
      | none => none
    else none

variable {S} {P}

theorem steps_of_run {s t : σ} {is : List ι} (h : S.run P s is = some t) : S.Steps P s t := by
  induction is generalizing s with
  | nil => cases h; exact .refl
  | cons i is ih =>
    simp only [run] at h
    split at h
    next hp =>
      split at h
      next u hst => exact .head ⟨i, hp, hst⟩ (ih h)
      · cases h
    · cases h

theorem Reachable.of_run {s t : σ} {is : List ι} (hinit : S.init s)
    (h : S.run P s is = some t) : S.Reachable P t :=
  (Reachable.start hinit).steps (steps_of_run h)

end Run

-- ============================================================================
-- Along a run
-- ============================================================================

section Along

variable (S)

/-- Execute a list of labels; `none` where one is not enabled. -/
def execute (s : σ) : List ι → Option σ
  | [] => some s
  | i :: is => (S.step s i).bind fun t => execute t is

/-- Every step of the execution meets `Q`. -/
def Along (Q : σ → ι → σ → Prop) (s : σ) : List ι → Prop
  | [] => True
  | i :: is => ∀ t, S.step s i = some t → Q s i t ∧ Along Q t is

variable {S}

theorem execute_cons {s u : σ} {i : ι} {is : List ι} :
    S.execute s (i :: is) = some u ↔ ∃ t, S.step s i = some t ∧ S.execute t is = some u :=
  Option.bind_eq_some_iff

theorem execute_append {s u : σ} {is js : List ι} :
    S.execute s (is ++ js) = some u ↔ ∃ t, S.execute s is = some t ∧ S.execute t js = some u := by
  induction is generalizing s with
  | nil => simp [execute]
  | cons i is ih =>
    rw [List.cons_append, execute_cons]
    simp only [ih, execute_cons]
    constructor
    · rintro ⟨v, hv, t, ht, hu⟩
      exact ⟨t, ⟨v, hv, ht⟩, hu⟩
    · rintro ⟨t, ⟨v, hv, ht⟩, hu⟩
      exact ⟨v, hv, t, ht, hu⟩

theorem along_cons {Q : σ → ι → σ → Prop} {s t : σ} {i : ι} {is : List ι}
    (h : S.step s i = some t) : S.Along Q s (i :: is) ↔ Q s i t ∧ S.Along Q t is := by
  constructor
  · exact fun halong => halong t h
  · intro hq t' ht'
    obtain rfl := Option.some.inj (h.symm.trans ht')
    exact hq

instance decidableAlong {Q : σ → ι → σ → Prop} [∀ s i t, Decidable (Q s i t)] (s : σ) :
    (is : List ι) → Decidable (S.Along Q s is)
  | [] => .isTrue trivial
  | i :: is =>
    match h : S.step s i with
    | none => .isTrue fun t ht => by rw [h] at ht; cases ht
    | some t =>
      have := decidableAlong (Q := Q) t is
      decidable_of_iff (Q s i t ∧ S.Along Q t is) (along_cons h).symm

theorem steps_of_execute {s t : σ} {is : List ι} (h : S.execute s is = some t) :
    S.Steps Always s t := by
  induction is generalizing s with
  | nil => cases h; exact .refl
  | cons i is ih =>
    obtain ⟨u, hu, hrest⟩ := execute_cons.mp h
    exact .head ⟨i, trivial, hu⟩ (ih hrest)

/-- Two conditions on steps agree along a run where they agree at each step from a
    state with the invariant, and keeping one keeps the invariant. -/
theorem along_iff {I : σ → Prop} {P Q : σ → ι → σ → Prop}
    (hiff : ∀ s i t, I s → S.step s i = some t → (P s i t ↔ Q s i t))
    (hkeeps : ∀ s i t, I s → S.step s i = some t → Q s i t → I t) {s t : σ} {is : List ι}
    (hs : I s) (h : S.execute s is = some t) : S.Along P s is ↔ S.Along Q s is := by
  induction is generalizing s with
  | nil => exact Iff.rfl
  | cons i is ih =>
    obtain ⟨u, hu, hrest⟩ := execute_cons.mp h
    rw [along_cons hu, along_cons hu, hiff s i u hs hu]
    exact and_congr_right fun hq => ih (hkeeps s i u hs hu hq) hrest

theorem Along.invariant {I : σ → Prop} {Q : σ → ι → σ → Prop}
    (hkeeps : ∀ s i t, I s → S.step s i = some t → Q s i t → I t) {s t : σ} {is : List ι}
    (hs : I s) (h : S.execute s is = some t) (hq : S.Along Q s is) : I t := by
  induction is generalizing s with
  | nil => cases h; exact hs
  | cons i is ih =>
    obtain ⟨u, hu, hrest⟩ := execute_cons.mp h
    obtain ⟨hq', hqrest⟩ := (along_cons hu).mp hq
    exact ih (hkeeps s i u hs hu hq') hrest hqrest

theorem along_append {Q : σ → ι → σ → Prop} {s t : σ} {is js : List ι}
    (h : S.execute s is = some t) : S.Along Q s (is ++ js) ↔ S.Along Q s is ∧ S.Along Q t js := by
  induction is generalizing s with
  | nil =>
    cases h
    exact (and_iff_right trivial).symm
  | cons i is ih =>
    obtain ⟨u, hu, hrest⟩ := execute_cons.mp h
    rw [List.cons_append, along_cons hu, along_cons hu, ih hrest, and_assoc]

/-- What every step of a run relates, its first and last states are related by. -/
theorem Along.relates {R : σ → σ → Prop} (hrefl : ∀ s, R s s)
    (htrans : ∀ s t u, R s t → R t u → R s u) {s t : σ} {is : List ι}
    (h : S.execute s is = some t) (hR : S.Along (fun s _ t => R s t) s is) : R s t := by
  induction is generalizing s with
  | nil =>
    cases h
    exact hrefl _
  | cons i is ih =>
    obtain ⟨u, hu, hrest⟩ := execute_cons.mp h
    obtain ⟨hfirst, hlater⟩ := (along_cons hu).mp hR
    exact htrans s u t hfirst (ih hrest hlater)

/-- A condition met along a run that keeps the invariant brings another about. -/
theorem Along.imp {I : σ → Prop} {P Q : σ → ι → σ → Prop}
    (himp : ∀ s i t, I s → S.step s i = some t → Q s i t → P s i t)
    (hkeeps : ∀ s i t, I s → S.step s i = some t → Q s i t → I t) {s : σ} (hs : I s)
    {is : List ι} (hq : S.Along Q s is) : S.Along P s is := by
  induction is generalizing s with
  | nil => trivial
  | cons i is ih =>
    intro t ht
    obtain ⟨hq', hqrest⟩ := hq t ht
    exact ⟨himp s i t hs ht hq', ih (hkeeps s i t hs ht hq') hqrest⟩

/-- What every step from a state with the invariant meets is met along every run. -/
theorem along_of_invariant {I : σ → Prop} {Q : σ → ι → σ → Prop}
    (hmeets : ∀ s i t, I s → S.step s i = some t → Q s i t)
    (hkeeps : ∀ s i t, I s → S.step s i = some t → I t) {s : σ} (hs : I s) (is : List ι) :
    S.Along Q s is := by
  induction is generalizing s with
  | nil => trivial
  | cons i is ih =>
    intro t ht
    exact ⟨hmeets s i t hs ht, ih (hkeeps s i t hs ht)⟩

theorem execute_invariant {I : σ → Prop}
    (hkeeps : ∀ s i t, I s → S.step s i = some t → I t) {s t : σ} {is : List ι}
    (hs : I s) (h : S.execute s is = some t) : I t := by
  induction is generalizing s with
  | nil => cases h; exact hs
  | cons i is ih =>
    obtain ⟨u, hu, hrest⟩ := execute_cons.mp h
    exact ih (hkeeps s i u hs hu) hrest

end Along

-- ============================================================================
-- Traces
-- ============================================================================

/-- A run with the states it passes through, from `s` to `t` inclusive. -/
inductive Trace (S : System σ ι) (s : σ) : List σ → σ → Prop where
  | refl : Trace S s [s] s
  | tail {ts : List σ} {t u : σ} (i : ι) :
      Trace S s ts t → S.step t i = some u → Trace S s (ts ++ [u]) u

theorem Trace.last_mem {s t : σ} {ts : List σ} (h : S.Trace s ts t) : t ∈ ts := by
  cases h with
  | refl => exact List.mem_singleton_self s
  | tail i _ _ => exact List.mem_append_right _ (List.mem_singleton_self _)

theorem Trace.steps {s t : σ} {ts : List σ} (h : S.Trace s ts t) : S.Steps Always s t := by
  induction h with
  | refl => exact .refl
  | tail i _ hst ih => exact ih.tail ⟨i, trivial, hst⟩

end System

end AccessService.Lib.Transition
