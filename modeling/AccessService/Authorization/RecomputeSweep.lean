/-
  AccessService.Authorization.RecomputeSweep

  The batch loop of `executeJob`: the ACTIVE users are counted once, then read page by page
  by offset and passed to `recomputeUserEffectiveRoles`.  Between two steps of the job users
  become ACTIVE or leave ACTIVE, and a page query, which has no ORDER BY, may see the rows
  in any order.
-/

import AccessService.Lib.Transition
import Mathlib.Data.List.Perm.Basic

namespace AccessService.Authorization

open AccessService.Lib.Transition

variable {UserId : Type}

-- ============================================================================
-- Pages
-- ============================================================================

namespace AuthorizationReconciliationWorker

def batchSize : Nat := 500

end AuthorizationReconciliationWorker

/-- The rows that a query with `skip` and `take` returns, when it sees them in this order. -/
def findBatchWithEmployee (order : List UserId) (skip take : Nat) : List UserId :=
  (order.drop skip).take take

/-- The rows up to the end of a page are those before it and the page. -/
theorem take_page (order : List UserId) (skip take : Nat) :
    order.take (skip + (findBatchWithEmployee order skip take).length) =
      order.take skip ++ findBatchWithEmployee order skip take := by
  unfold findBatchWithEmployee
  rw [List.take_add, List.length_take, ← List.take_take, List.take_length]

theorem page_eq_nil {order : List UserId} {skip take : Nat} (htake : 0 < take)
    (h : findBatchWithEmployee order skip take = []) : order.take skip = order := by
  rcases List.take_eq_nil_iff.mp h with hzero | hdrop
  · exact absurd hzero (Nat.pos_iff_ne_zero.mp htake)
  · exact List.take_of_length_le (List.drop_eq_nil_iff.mp hdrop)

-- ============================================================================
-- The job
-- ============================================================================

inductive SweepPhase where
  | starting
  /-- The total is known; a group's memberships are being reconciled. -/
  | counted
  | looping
  /-- The loop is left; the final transaction comes next. -/
  | left
  | completed
  | failed
  deriving DecidableEq

/-- A job between two of its steps.  `since` and `order` are not known to the code: the
    users who have been ACTIVE ever since the loop began, and the rows as the last page
    query saw them. -/
structure Sweep (UserId : Type) where
  active : List UserId
  phase : SweepPhase := .starting
  totalUsers : Nat := 0
  processed : Nat := 0
  recomputed : List UserId := []
  since : List UserId := []
  order : List UserId := []
  deriving DecidableEq

inductive SweepStep (UserId : Type) where
  | join (user : UserId)
  | leave (user : UserId)
  | count
  | enter
  /-- One round of the loop, with the order in which its query sees the rows. -/
  | page (order : List UserId)
  | exit
  | complete
  | throw
  deriving DecidableEq

variable [DecidableEq UserId]

namespace Sweep

open AuthorizationReconciliationWorker (batchSize)

def step (s : Sweep UserId) : SweepStep UserId → Option (Sweep UserId)
  | .join user => if user ∈ s.active then none else some { s with active := s.active ++ [user] }
  | .leave user =>
    some { s with
      active := s.active.filter fun u => u ≠ user
      since := s.since.filter fun u => u ≠ user }
  | .count =>
    if s.phase = .starting then
      some { s with phase := .counted, totalUsers := s.active.length }
    else none
  | .enter =>
    if s.phase = .counted then some { s with phase := .looping, since := s.active } else none
  | .page order =>
    if s.phase = .looping ∧ s.processed < s.totalUsers ∧ order.Perm s.active then
      let users := findBatchWithEmployee order s.processed batchSize
      if users = [] then some { s with phase := .left, order := order }
      else
        some { s with
          recomputed := s.recomputed ++ users
          processed := s.processed + users.length
          order := order }
    else none
  | .exit =>
    if s.phase = .looping ∧ s.totalUsers ≤ s.processed then some { s with phase := .left }
    else none
  | .complete => if s.phase = .left then some { s with phase := .completed } else none
  | .throw =>
    if s.phase = .counted ∨ s.phase = .looping ∨ s.phase = .left then
      some { s with phase := .failed }
    else none

/-- A job that has been claimed, over any ACTIVE users. -/
structure Initial (s : Sweep UserId) : Prop where
  phase : s.phase = .starting
  processed : s.processed = 0
  since : s.since = []

end Sweep

def sweeps (UserId : Type) [DecidableEq UserId] : System (Sweep UserId) (SweepStep UserId) where
  init := Sweep.Initial
  step := Sweep.step

-- ============================================================================
-- Who is reached
-- ============================================================================

namespace Sweep

variable {start s s' : Sweep UserId} {i : SweepStep UserId}

/-- Of the users who have been ACTIVE since the loop began, none comes to lie under the
    offset of a page query who did not at the query before; and when the counted total ends
    the loop, none lies beyond the offset. -/
def StaysInPlace (s : Sweep UserId) : SweepStep UserId → Sweep UserId → Prop
  | .page order, _ => ∀ u ∈ s.since, u ∈ order.take s.processed → u ∈ s.order.take s.processed
  | .exit, _ => ∀ u ∈ s.since, u ∈ s.order.take s.processed
  | _, _ => True

/-- The users under the offset have been recomputed, and all once the loop is left. -/
structure Reaches (s : Sweep UserId) : Prop where
  active : ∀ u ∈ s.since, u ∈ s.active
  looping : s.phase = .looping → ∀ u ∈ s.since, u ∈ s.order.take s.processed → u ∈ s.recomputed
  left : s.phase = .left ∨ s.phase = .completed → ∀ u ∈ s.since, u ∈ s.recomputed
  before : s.phase = .starting ∨ s.phase = .counted → s.processed = 0

theorem Reaches.init (h : (sweeps UserId).init start) : start.Reaches where
  active u hu := by
    rw [h.since] at hu
    cases hu
  looping hphase := by
    rw [h.phase] at hphase
    cases hphase
  left hphase := by
    rw [h.phase] at hphase
    rcases hphase with hphase | hphase <;> cases hphase
  before _ := h.processed

theorem Reaches.page {order : List UserId} (h : s.Reaches)
    (hstep : s.step (.page order) = some s') (hplace : StaysInPlace s (.page order) s') :
    s'.Reaches := by
  simp only [Sweep.step] at hstep
  split at hstep
  next hguard =>
    obtain ⟨hphase, -, hperm⟩ := hguard
    -- what lies under the offset of this query lay there before
    have hunder : ∀ u ∈ s.since, u ∈ order.take s.processed → u ∈ s.recomputed :=
      fun u hu hold => h.looping hphase u hu (hplace u hu hold)
    split at hstep
    next hnil =>
      cases hstep
      have hall : order.take s.processed = order := page_eq_nil (by decide) hnil
      refine ⟨h.active, nofun, fun _ u hu => hunder u hu ?_, by simp⟩
      rw [hall]
      exact hperm.mem_iff.mpr (h.active u hu)
    · cases hstep
      refine ⟨h.active, fun _ u hu hmem => ?_, by simp [hphase], by simp [hphase]⟩
      simp only [take_page] at hmem
      rcases List.mem_append.mp hmem with hold | hnew
      · exact List.mem_append_left _ (hunder u hu hold)
      · exact List.mem_append_right _ hnew
  · cases hstep

theorem Reaches.step (h : s.Reaches) (hstep : (sweeps UserId).step s i = some s')
    (hplace : StaysInPlace s i s') : s'.Reaches := by
  change s.step i = some s' at hstep
  cases i with
  | page order => exact h.page hstep hplace
  | join user =>
    simp only [Sweep.step] at hstep
    split at hstep
    · cases hstep
    · cases hstep
      exact ⟨fun u hu => List.mem_append_left _ (h.active u hu), h.looping, h.left, h.before⟩
  | leave user =>
    cases hstep
    refine ⟨fun u hu => ?_, fun hphase u hu => h.looping hphase u (List.mem_of_mem_filter hu),
      fun hphase u hu => h.left hphase u (List.mem_of_mem_filter hu), h.before⟩
    obtain ⟨hold, hne⟩ := List.mem_filter.mp hu
    exact List.mem_filter.mpr ⟨h.active u hold, hne⟩
  | count =>
    simp only [Sweep.step] at hstep
    split at hstep
    next hphase =>
      cases hstep
      exact ⟨h.active, nofun, nofun, fun _ => h.before (.inl hphase)⟩
    · cases hstep
  | enter =>
    simp only [Sweep.step] at hstep
    split at hstep
    next hphase =>
      cases hstep
      refine ⟨fun u hu => hu, fun _ u _ hmem => ?_, nofun, nofun⟩
      simp only [h.before (.inr hphase), List.take_zero] at hmem
      cases hmem
    · cases hstep
  | exit =>
    simp only [Sweep.step] at hstep
    split at hstep
    next hguard =>
      cases hstep
      exact ⟨h.active, nofun, fun _ u hu => h.looping hguard.1 u hu (hplace u hu), nofun⟩
    · cases hstep
  | complete =>
    simp only [Sweep.step] at hstep
    split at hstep
    next hphase =>
      cases hstep
      exact ⟨h.active, nofun, fun _ => h.left (.inl hphase), nofun⟩
    · cases hstep
  | throw =>
    simp only [Sweep.step] at hstep
    split at hstep
    · cases hstep
      exact ⟨h.active, nofun, nofun, nofun⟩
    · cases hstep

-- ============================================================================
-- Termination
-- ============================================================================

def isPage : SweepStep UserId → Bool
  | .page _ => true
  | _ => false

/-- How many rounds the loop has left at most. -/
def rounds (s : Sweep UserId) : Nat :=
  if s.phase = .looping then s.totalUsers - s.processed + 1 else 0

/-- A round of the loop uses one up, and nothing adds to them once the loop has begun. -/
theorem step_rounds (hbegun : s.phase ≠ .starting ∧ s.phase ≠ .counted)
    (hstep : (sweeps UserId).step s i = some s') :
    (s'.phase ≠ .starting ∧ s'.phase ≠ .counted) ∧
      s'.rounds + (if isPage i then 1 else 0) ≤ s.rounds := by
  change s.step i = some s' at hstep
  cases i with
  | page order =>
    simp only [Sweep.step] at hstep
    split at hstep
    next hguard =>
      obtain ⟨hphase, hlt, -⟩ := hguard
      split at hstep
      · cases hstep
        simp [rounds, isPage, hphase]
      next hne =>
        cases hstep
        have hpos := List.length_pos_iff.mpr hne
        simp only [rounds, isPage, hphase, if_true]
        refine ⟨by simp, ?_⟩
        omega
    · cases hstep
  | join user =>
    simp only [Sweep.step] at hstep
    split at hstep
    · cases hstep
    · cases hstep
      exact ⟨hbegun, Nat.le_refl _⟩
  | leave user =>
    cases hstep
    exact ⟨hbegun, Nat.le_refl _⟩
  | count =>
    simp only [Sweep.step, if_neg hbegun.1] at hstep
    cases hstep
  | enter =>
    simp only [Sweep.step, if_neg hbegun.2] at hstep
    cases hstep
  | exit =>
    simp only [Sweep.step] at hstep
    split at hstep
    · cases hstep
      simp [rounds, isPage]
    · cases hstep
  | complete =>
    simp only [Sweep.step] at hstep
    split at hstep
    · cases hstep
      simp [rounds, isPage]
    · cases hstep
  | throw =>
    simp only [Sweep.step] at hstep
    split at hstep
    · cases hstep
      simp [rounds, isPage]
    · cases hstep

/-- In the loop there is a next round, whatever order its query sees, or the loop ends. -/
def Proceeds (s : Sweep UserId) : Prop :=
  ∀ order : List UserId, order.Perm s.active →
    (s.step (.page order)).isSome = true ∨ (s.step .exit).isSome = true

theorem proceeds (hphase : s.phase = .looping) : s.Proceeds := by
  intro order horder
  by_cases hlt : s.processed < s.totalUsers
  · left
    simp only [Sweep.step, if_pos (show _ ∧ _ ∧ _ from ⟨hphase, hlt, horder⟩)]
    split <;> rfl
  · right
    simp only [Sweep.step, if_pos (show _ ∧ _ from ⟨hphase, Nat.le_of_not_lt hlt⟩)]
    rfl

theorem execute_rounds {steps : List (SweepStep UserId)}
    (hbegun : s.phase ≠ .starting ∧ s.phase ≠ .counted)
    (hrun : (sweeps UserId).execute s steps = some s') : steps.countP isPage ≤ s.rounds := by
  induction steps generalizing s with
  | nil => exact Nat.zero_le _
  | cons i steps ih =>
    obtain ⟨t, hstep, hrest⟩ := System.execute_cons.mp hrun
    obtain ⟨hbegun', hrounds⟩ := step_rounds hbegun hstep
    have hih := ih hbegun' hrest
    rw [List.countP_cons]
    omega

/-- The loop is never stuck and ends after as many rounds as users have been counted, and
    one more; in a run in which the users who are ACTIVE throughout stay in place, all of
    them have been recomputed when the job is COMPLETED. -/
theorem sweep_misses_nobody {steps : List (SweepStep UserId)}
    (hinit : (sweeps UserId).init start) (hrun : (sweeps UserId).execute start steps = some s) :
    (s.phase = .looping → s.Proceeds ∧ ∀ (rest : List (SweepStep UserId)) (t : Sweep UserId),
        (sweeps UserId).execute s rest = some t → rest.countP isPage ≤ s.totalUsers + 1) ∧
      ((sweeps UserId).Along StaysInPlace start steps → s.phase = .completed →
        ∀ u ∈ s.since, u ∈ s.recomputed) := by
  constructor
  · intro hphase
    refine ⟨proceeds hphase, fun rest t hrest => ?_⟩
    have hbegun : s.phase ≠ .starting ∧ s.phase ≠ .counted := by simp [hphase]
    have hle := execute_rounds hbegun hrest
    rw [rounds, if_pos hphase] at hle
    omega
  · intro hplace hphase
    have hreaches : s.Reaches :=
      System.Along.invariant (fun _ _ _ hs hst hq => Reaches.step hs hst hq) (.init hinit) hrun
        hplace
    exact hreaches.left (.inr hphase)

instance (s : Sweep UserId) (i : SweepStep UserId) (s' : Sweep UserId) :
    Decidable (StaysInPlace s i s') :=
  match i with
  | .page order => inferInstanceAs (Decidable (∀ u ∈ s.since, u ∈ order.take s.processed →
      u ∈ s.order.take s.processed))
  | .exit => inferInstanceAs (Decidable (∀ u ∈ s.since, u ∈ s.order.take s.processed))
  | .join _ | .leave _ | .count | .enter | .complete | .throw => .isTrue trivial

-- ============================================================================
-- Two users, and one more than a page
-- ============================================================================

/-- Two users; while the job runs one leaves and a third joins. -/
def calmSteps : List (SweepStep Nat) :=
  [.count, .enter, .page [1, 0], .leave 0, .join 2, .exit, .complete]

theorem sweep_misses_nobody_sample :
    ∃ s, (sweeps Nat).execute { active := [0, 1] } calmSteps = some s ∧
      s.phase = .completed ∧ ∀ u ∈ s.since, u ∈ s.recomputed := by
  have hinit : (sweeps Nat).init { active := [0, 1] } := ⟨rfl, rfl, rfl⟩
  have hsome : ((sweeps Nat).execute { active := [0, 1] } calmSteps).isSome = true := by
    decide +kernel
  have hphase : ∀ s ∈ (sweeps Nat).execute { active := [0, 1] } calmSteps,
      s.phase = .completed := by
    decide +kernel
  obtain ⟨s, hs⟩ := Option.isSome_iff_exists.mp hsome
  exact ⟨s, hs, hphase s hs,
    (sweep_misses_nobody hinit hs).2 (by decide +kernel) (hphase s hs)⟩

/-- 501 users, of whom the first leaves once the first page has been handled. -/
def departureSteps : List (SweepStep Nat) :=
  [.count, .enter, .page (List.range 501), .leave 0, .page (List.range 501).tail, .complete]

/-- The last user moves under the offset, and the second page is empty. -/
theorem not_sweep_misses_nobody :
    ¬∀ (start s : Sweep Nat) (steps : List (SweepStep Nat)), (sweeps Nat).init start →
        (sweeps Nat).execute start steps = some s → s.phase = .completed →
        ∀ u ∈ s.since, u ∈ s.recomputed := by
  intro h
  have hinit : (sweeps Nat).init { active := List.range 501 } := ⟨rfl, rfl, rfl⟩
  have hsome :
      ((sweeps Nat).execute { active := List.range 501 } departureSteps).isSome = true := by
    decide +kernel
  have hend : ∀ s ∈ (sweeps Nat).execute { active := List.range 501 } departureSteps,
      s.phase = .completed ∧ 500 ∈ s.since ∧ 500 ∉ s.recomputed := by
    decide +kernel
  obtain ⟨s, hs⟩ := Option.isSome_iff_exists.mp hsome
  obtain ⟨hphase, hsince, hmissed⟩ := hend s hs
  exact hmissed (h _ s departureSteps hinit hs hphase 500 hsince)

end Sweep

end AccessService.Authorization
