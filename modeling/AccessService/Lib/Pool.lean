/-
  AccessService.Lib.Pool

  Threads over a shared state.  A step runs the next statement of one thread; a thread
  that has to wait, and one that has ended, has none.
-/

import AccessService.Lib.Rows
import AccessService.Lib.Transition

namespace AccessService.Lib

open Transition

structure Pool (σ φ : Type) where
  shared : σ
  threads : List φ
  deriving DecidableEq

namespace Pool

variable {σ φ : Type} {init : Pool σ φ → Prop} {next : σ → φ → Option (σ × φ)} {s t : Pool σ φ}

def put (s : Pool σ φ) (i : Nat) (shared : σ) (p : φ) : Pool σ φ where
  shared := shared
  threads := s.threads.set i p

@[simp] theorem put_shared {i : Nat} {shared : σ} {p : φ} :
    (s.put i shared p).shared = shared := rfl

@[simp] theorem put_threads {i : Nat} {shared : σ} {p : φ} :
    (s.put i shared p).threads = s.threads.set i p := rfl

/-- The label is the thread that runs. -/
def system (init : Pool σ φ → Prop) (next : σ → φ → Option (σ × φ)) : System (Pool σ φ) Nat where
  init := init
  step s i := (s.threads[i]?).bind fun p =>
    (next s.shared p).map fun (shared, p') => s.put i shared p'

theorem step_cases {i : Nat} (h : (system init next).step s i = some t) :
    ∃ p shared p', s.threads[i]? = some p ∧ next s.shared p = some (shared, p') ∧
      t = s.put i shared p' := by
  obtain ⟨p, hp, hmap⟩ := Option.bind_eq_some_iff.mp h
  obtain ⟨⟨shared, p'⟩, hnext, rfl⟩ := Option.map_eq_some_iff.mp hmap
  exact ⟨p, shared, p', hp, hnext, rfl⟩

theorem step_of_next {i : Nat} {p p' : φ} {shared : σ} (hp : s.threads[i]? = some p)
    (hnext : next s.shared p = some (shared, p')) :
    (system init next).step s i = some (s.put i shared p') := by
  show (s.threads[i]?).bind _ = _
  rw [hp, Option.bind_some, hnext]
  rfl

/-- What the threads' statements keep, where they meet a condition, the pool keeps along the
    runs that meet it. -/
theorem invariant_of {P : Pool σ φ → Nat → Prop} {I : Pool σ φ → Prop}
    (hstep : ∀ s i p shared p', I s → P s i → s.threads[i]? = some p →
      next s.shared p = some (shared, p') → I (s.put i shared p'))
    (hs : I s) (h : (system init next).Steps P s t) : I t := by
  induction h with
  | refl => exact hs
  | tail _ hnext ih =>
    obtain ⟨i, hmeets, hst⟩ := hnext
    obtain ⟨p, shared, p', hp, hnext, rfl⟩ := step_cases hst
    exact hstep _ i p shared p' ih hmeets hp hnext

/-- An invariant of the threads' statements is one of the pool. -/
theorem invariant {I : Pool σ φ → Prop}
    (hstep : ∀ s i p shared p', I s → s.threads[i]? = some p →
      next s.shared p = some (shared, p') → I (s.put i shared p'))
    (hs : I s) (h : (system init next).Steps Always s t) : I t :=
  invariant_of (fun s i p shared p' hI _ => hstep s i p shared p' hI) hs h

/-- A thread has run, or is where it was. -/
theorem thread_put {i j : Nat} {shared : σ} {p q : φ}
    (h : (s.put i shared p).threads[j]? = some q) :
    (j = i ∧ q = p) ∨ s.threads[j]? = some q := by
  rw [put_threads, List.getElem?_set] at h
  split at h
  next heq =>
    split at h
    · exact .inl ⟨heq.symm, (Option.some.inj h).symm⟩
    · cases h
  · exact .inr h

theorem mem_put {i : Nat} {shared : σ} {p q : φ} (h : q ∈ (s.put i shared p).threads) :
    q = p ∨ q ∈ s.threads :=
  (List.mem_or_eq_of_mem_set h).symm

theorem put_mem {i : Nat} {shared : σ} {p p' : φ} (hp : s.threads[i]? = some p) :
    p' ∈ (s.put i shared p').threads := by
  obtain ⟨hi, -⟩ := List.getElem?_eq_some_iff.mp hp
  exact List.mem_set hi p'

/-- Only the thread that runs may leave where it was. -/
theorem mem_put_of_mem {i : Nat} {shared : σ} {p p' q : φ} (hp : s.threads[i]? = some p)
    (hq : q ∈ s.threads) : q = p ∨ q ∈ (s.put i shared p').threads := by
  obtain ⟨j, hj⟩ := List.mem_iff_getElem?.mp hq
  by_cases hij : i = j
  · subst hij
    exact .inl (Option.some.inj (hj.symm.trans hp))
  · refine .inr (List.mem_iff_getElem?.mpr ⟨j, ?_⟩)
    rw [put_threads, List.getElem?_set, if_neg hij]
    exact hj

theorem length_put {i : Nat} {shared : σ} {p : φ} :
    (s.put i shared p).threads.length = s.threads.length :=
  List.length_set

theorem steps_length (h : (system init next).Steps Always s t) :
    t.threads.length = s.threads.length :=
  invariant (I := fun u => u.threads.length = s.threads.length)
    (fun _ _ _ _ _ hu _ _ => length_put.trans hu) rfl h

-- ============================================================================
-- A thread by itself
-- ============================================================================

/-- The thread runs by itself to an end, which answers `r`. -/
inductive RunsAlone {ρ : Type} (next : σ → φ → Option (σ × φ)) (answer : φ → Option ρ) :
    σ → φ → σ → ρ → Prop where
  | ended {shared : σ} {p : φ} {r : ρ} (h : answer p = some r) :
      RunsAlone next answer shared p shared r
  | next {shared shared' left : σ} {p p' : φ} {r : ρ} (hnext : next shared p = some (shared', p'))
      (h : RunsAlone next answer shared' p' left r) : RunsAlone next answer shared p left r

/-- So does a pool of one thread. -/
theorem RunsAlone.steps {ρ : Type} {answer : φ → Option ρ} {shared left : σ} {p : φ} {r : ρ}
    (h : RunsAlone next answer shared p left r) :
    ∃ q, answer q = some r ∧ (system init next).Steps Always ⟨shared, [p]⟩ ⟨left, [q]⟩ := by
  induction h with
  | ended h => exact ⟨_, h, .refl⟩
  | next hnext _ ih =>
    obtain ⟨q, hanswer, hsteps⟩ := ih
    exact ⟨q, hanswer, hsteps.head ⟨0, trivial, step_of_next rfl hnext⟩⟩

-- ============================================================================
-- Counting threads
-- ============================================================================

/-- How many threads are at a place. -/
def count (s : Pool σ φ) (place : φ → Bool) : Nat := s.threads.countP place

section Count

variable {i : Nat} {p p' : φ} {shared : σ} (place : φ → Bool)

theorem count_put (hp : s.threads[i]? = some p) :
    (s.put i shared p').count place + (if place p then 1 else 0) =
      s.count place + (if place p' then 1 else 0) :=
  Rows.countP_set_row place hp

theorem count_put_same (hp : s.threads[i]? = some p) (h : place p' = place p) :
    (s.put i shared p').count place = s.count place := by
  have hcount : (s.put i shared p').count place + (if place p then 1 else 0) = _ :=
    count_put place hp
  rw [h] at hcount
  exact Nat.add_right_cancel hcount

theorem count_put_enter (hp : s.threads[i]? = some p) (hbefore : place p = false)
    (hafter : place p' = true) : (s.put i shared p').count place = s.count place + 1 := by
  have hcount : (s.put i shared p').count place + (if place p then 1 else 0) = _ :=
    count_put place hp
  rwa [hbefore, hafter] at hcount

theorem count_put_leave (hp : s.threads[i]? = some p) (hbefore : place p = true)
    (hafter : place p' = false) : (s.put i shared p').count place + 1 = s.count place := by
  have hcount : (s.put i shared p').count place + (if place p then 1 else 0) = _ :=
    count_put place hp
  rwa [hbefore, hafter] at hcount

variable {place}

/-- At a place where there is one thread at most, it is the one that is known to be there. -/
theorem eq_of_count [DecidableEq φ] {q : φ} (h : s.count place ≤ 1) (hp : p ∈ s.threads)
    (hplace : place p = true) (hq : q ∈ s.threads) (hplace' : place q = true) : q = p := by
  by_contra hne
  have hsplit := List.countP_eq_countP_filter_add s.threads place (fun r => decide (r = p))
  have hthis : 0 < (s.threads.filter fun r => decide (r = p)).countP place :=
    List.countP_pos_iff.mpr ⟨p, List.mem_filter.mpr ⟨hp, decide_eq_true rfl⟩, hplace⟩
  have hother : 0 < (s.threads.filter fun r => !decide (r = p)).countP place :=
    List.countP_pos_iff.mpr ⟨q, List.mem_filter.mpr ⟨hq, by simp [hne]⟩, hplace'⟩
  unfold count at h
  omega

theorem count_pos (hp : s.threads[i]? = some p) (h : place p = true) : 0 < s.count place :=
  List.countP_pos_iff.mpr ⟨p, Rows.mem_of_row hp, h⟩

/-- No thread is at a place that counts none. -/
theorem not_at_of_count (h : s.count place = 0) (hp : p ∈ s.threads) : place p = false := by
  have hnone := List.countP_eq_zero.mp h p hp
  rwa [Bool.not_eq_true] at hnone

theorem count_le {place' : φ → Bool} (h : ∀ p, place p = true → place' p = true) :
    s.count place ≤ s.count place' :=
  List.countP_mono_left fun p _ => h p

end Count

end Pool

end AccessService.Lib
