/-
  AccessService.Authorization.UrgentJobs

  What the priority of a job is worth: the job that an URGENT call of `enqueueSyncJob`
  answers with, and the order in which the workers claim jobs.
-/

import AccessService.Authorization.SyncQueue

namespace AccessService.Authorization

open AccessService.Lib.Transition AccessService.Lib.Rows

/-- The job is in flight, and URGENT as long as no worker has claimed it. -/
def AuthorizationSyncJob.expedited (job : AuthorizationSyncJob) : Bool :=
  job.status.inFlight && (job.priority = .URGENT || job.status ≠ .PENDING)

/-- The job waits with the routine jobs. -/
def AuthorizationSyncJob.waitsStandard (job : AuthorizationSyncJob) : Bool :=
  job.status = .PENDING && job.priority = .STANDARD

theorem AuthorizationSyncJob.expedited_iff {job : AuthorizationSyncJob}
    (h : job.status.inFlight = true) : job.expedited = true ↔ job.waitsStandard = false := by
  unfold expedited waitsStandard
  rw [h]
  cases job.priority <;> simp

theorem AuthorizationSyncJob.not_before {job other : AuthorizationSyncJob}
    (h : other.before job = false) :
    ¬(other.priority = .URGENT ∧ job.priority ≠ .URGENT) ∧
      (other.priority = job.priority → job.createdAt ≤ other.createdAt) := by
  unfold before rank at h
  cases hother : other.priority <;> cases hjob : job.priority <;> simp_all

namespace SyncQueue

variable {s s' : SyncQueue} {c : Nat} {call : EnqueueCall} {action : CallAction} {id : JobId}

-- ============================================================================
-- Answers
-- ============================================================================

/-- The job that the lookup of a call finds. -/
def lookup (s : SyncQueue) (call : EnqueueCall) : CallAction → CallPhase → Option JobId
  | .check, .checking version | .reread, .rereading version =>
    s.jobs.findInFlightJob call.params.tenantCode call.params.source version
  | _, _ => none

/-- The call has just answered with this job. -/
def answer (s : SyncQueue) (c : Nat) : Option JobId :=
  match s.calls[c]? with
  | some ⟨_, .returned id⟩ => id
  | _ => none

theorem answer_setCall {phase : CallPhase} (hc : s.calls[c]? = some call) :
    (s.setCall c call phase).answer c =
      match phase with
      | .returned id => id
      | _ => none := by
  have hrow : (s.setCall c call phase).calls[c]? = some { call with phase := phase } :=
    getElem?_set_self hc
  unfold answer
  rw [hrow]
  cases phase <;> rfl

/-- A call answers with the job it has found, or with the one it has inserted. -/
theorem callStep_answer (hc : s.calls[c]? = some call)
    (h : s.callStep c call action call.phase = some s') :
    (s'.jobs = s.jobs ∧ s'.answer c = s.lookup call action call.phase) ∨
      (s.lookup call action call.phase = none ∧ ∃ id version, s'.answer c = some id ∧
        s'.jobs[id]? = some (newJob call.params version s.now)) := by
  generalize call.phase = phase at h ⊢
  unfold callStep at h
  split at h
  · split at h
    · cases h
      exact .inl ⟨rfl, answer_setCall hc⟩
    · split at h
      · cases h
        exact .inl ⟨rfl, answer_setCall hc⟩
      · split at h
        · cases h
          exact .inl ⟨rfl, answer_setCall hc⟩
        · split at h <;> cases h <;> exact .inl ⟨rfl, answer_setCall hc⟩
  · split at h
    next hfind =>
      cases h
      exact .inl ⟨rfl, (answer_setCall hc).trans hfind.symm⟩
    next hfind =>
      cases h
      exact .inl ⟨rfl, (answer_setCall hc).trans hfind.symm⟩
  next version =>
    simp only at h
    split at h
    next jobs hinsert =>
      cases h
      refine .inr ⟨rfl, s.jobs.length, version, ?_, ?_⟩
      · exact answer_setCall (s := SyncQueue.append { s with
          jobs := jobs, inFlight := s.inFlight ++ [s.outbox.length] } _) hc
      · obtain ⟨rfl, -⟩ := JobTable.insert_eq_some hinsert
        exact List.getElem?_concat_length
    · cases h
      exact .inl ⟨rfl, answer_setCall hc⟩
  · split at h
    next hfind =>
      cases h
      exact .inl ⟨rfl, (answer_setCall hc).trans hfind.symm⟩
    next hfind =>
      cases h
      exact .inl ⟨rfl, (answer_setCall hc).trans hfind.symm⟩
  all_goals cases h
  all_goals exact .inl ⟨rfl, answer_setCall hc⟩

-- ============================================================================
-- Calls with priority URGENT
-- ============================================================================

/-- An URGENT call that answers with a job answers with an expedited one. -/
def AnswersExpedited : SyncQueue → Action → SyncQueue → Prop
  | s, .call c _, s' =>
    ∀ call ∈ s.calls[c]?, call.params.priority = .URGENT →
      ∀ id ∈ s'.answer c, ∃ job, s'.jobs[id]? = some job ∧ job.expedited = true
  | _, _, _ => True

/-- The job that the lookup of an URGENT call finds. -/
def urgentLookup (s : SyncQueue) : Action → Option JobId
  | .call c action => (s.calls[c]?).bind fun call =>
    if call.params.priority = .URGENT then s.lookup call action call.phase else none
  | _ => none

/-- An URGENT call finds no job that waits with the routine jobs. -/
def FindsNoStandard (s : SyncQueue) (i : Action) (_ : SyncQueue) : Prop :=
  ∀ id ∈ s.urgentLookup i, ∀ job ∈ s.jobs[id]?, job.waitsStandard = false

instance (s : SyncQueue) (i : Action) (s' : SyncQueue) : Decidable (FindsNoStandard s i s') :=
  inferInstanceAs (Decidable (∀ id ∈ s.urgentLookup i, ∀ job ∈ s.jobs[id]?,
    job.waitsStandard = false))

theorem lookup_eq_some {phase : CallPhase} (h : s.lookup call action phase = some id) :
    ∃ job, s.jobs[id]? = some job ∧ job.status.inFlight = true := by
  unfold lookup at h
  split at h
  · obtain ⟨job, hjob, hflight, -⟩ := JobTable.findInFlightJob_eq_some h
    exact ⟨job, hjob, hflight⟩
  · obtain ⟨job, hjob, hflight, -⟩ := JobTable.findInFlightJob_eq_some h
    exact ⟨job, hjob, hflight⟩
  · cases h

theorem answersExpedited_iff {i : Action} (h : s.step i = some s') :
    AnswersExpedited s i s' ↔ FindsNoStandard s i s' := by
  cases i with
  | call c action =>
    unfold step at h
    rcases hc : s.calls[c]? with _ | call
    · simp only [hc] at h
      cases h
    · simp only [hc] at h
      show (∀ call ∈ s.calls[c]?, _) ↔ ∀ id ∈ (s.calls[c]?).bind _, _
      simp only [hc, Option.mem_some_iff, forall_eq', Option.bind_some]
      by_cases hurgent : call.params.priority = .URGENT
      · simp only [hurgent, if_true, forall_const]
        rcases callStep_answer hc h with ⟨hjobs, hanswer⟩ | ⟨hnone, id, version, hanswer, hjob⟩
        · -- the job that the call answers with was there
          rw [hanswer, hjobs]
          refine forall₂_congr fun id hid => ?_
          obtain ⟨job, hjob, hflight⟩ := lookup_eq_some hid
          simp [hjob, AuthorizationSyncJob.expedited_iff hflight]
        · rw [hanswer, hnone]
          refine iff_of_true (fun id' hid' => ?_) nofun
          obtain rfl := Option.some.inj hid'
          refine ⟨_, hjob, ?_⟩
          simp [AuthorizationSyncJob.expedited, newJob, hurgent, SyncJobStatus.inFlight]
      · simp [hurgent]
  | _ => exact iff_of_true trivial nofun

-- ============================================================================
-- Claims
-- ============================================================================

/-- A claim selects a PENDING job of the tenant; no PENDING job of the tenant is URGENT while
    the selected one is not, and none of its priority is older. -/
def ClaimsByPriority : SyncQueue → Action → SyncQueue → Prop
  | s, .worker w (.select (some id)), _ =>
    ∀ worker ∈ s.workers[w]?, ∃ job, s.jobs[id]? = some job ∧
      job.pendingFor worker.tenantCode = true ∧
      ∀ other ∈ s.jobs, other.pendingFor worker.tenantCode = true →
        ¬(other.priority = .URGENT ∧ job.priority ≠ .URGENT) ∧
          (other.priority = job.priority → job.createdAt ≤ other.createdAt)
  | _, _, _ => True

theorem claimsByPriority_step {i : Action} (h : s.step i = some s') : ClaimsByPriority s i s' := by
  unfold ClaimsByPriority
  split
  next w id _ =>
    intro worker hworker
    unfold step at h
    simp only [Option.mem_def.mp hworker] at h
    generalize worker.phase = phase at h
    cases phase with
    | locked x =>
      simp only [workerStep] at h
      split at h
      next hnext =>
        obtain ⟨job, hjob, hpending, hfirst⟩ := JobTable.isNextPending_job hnext
        refine ⟨job, hjob, hpending, fun other hother hpending' => ?_⟩
        exact AuthorizationSyncJob.not_before (hfirst other hother hpending')
      · cases h
    | _ => cases h
  · trivial

/-- In every run the URGENT calls answer with expedited jobs if and only if no lookup of
    theirs finds a job that waits with the routine jobs; and the claims are in order. -/
theorem urgent_answers_iff {start : SyncQueue} {actions : List Action}
    (hrun : system.execute start actions = some s) :
    (system.Along AnswersExpedited start actions ↔ system.Along FindsNoStandard start actions) ∧
      system.Along ClaimsByPriority start actions := by
  refine ⟨System.along_iff (I := fun _ => True) (fun _ _ _ _ hstep => answersExpedited_iff hstep)
    (fun _ _ _ _ _ _ => trivial) trivial hrun, ?_⟩
  exact System.along_of_invariant (I := fun _ => True)
    (fun _ _ _ _ hstep => claimsByPriority_step hstep) (fun _ _ _ _ _ => trivial) trivial actions

-- ============================================================================
-- An urgent request for a group that is queued already
-- ============================================================================

def urgentParams : EnqueueParams := { sampleParams with priority := .URGENT }

def urgentAfterStandard : List Action :=
  enqueueRun 0 sampleParams ++ [.enqueue urgentParams, .call 1 .resolve, .call 1 .check]

def urgentAlone : List Action :=
  enqueueRun 0 urgentParams ++
    [.deliver 0, .worker 0 (.acquire (some 0)), .worker 0 (.select (some 0))]

theorem urgent_answers_iff_sample :
    ∃ s, system.execute sampleQueue urgentAlone = some s ∧
      system.Along AnswersExpedited sampleQueue urgentAlone ∧
      system.Along ClaimsByPriority sampleQueue urgentAlone := by
  have hsome : (system.execute sampleQueue urgentAlone).isSome = true := by decide +kernel
  obtain ⟨s, hs⟩ := Option.isSome_iff_exists.mp hsome
  have hboth := urgent_answers_iff hs
  exact ⟨s, hs, hboth.1.mpr (by decide +kernel), hboth.2⟩

/-- The URGENT call answers with the STANDARD job. -/
theorem not_urgent_answers :
    ¬∀ (start s : SyncQueue) (actions : List Action), system.init start →
        system.execute start actions = some s →
        system.Along AnswersExpedited start actions ∧ system.Along ClaimsByPriority start actions := by
  intro h
  have hsome : (system.execute sampleQueue urgentAfterStandard).isSome = true := by
    decide +kernel
  obtain ⟨s, hs⟩ := Option.isSome_iff_exists.mp hsome
  have hanswers := (h sampleQueue s urgentAfterStandard initial_sampleQueue hs).1
  have hfinds : ¬system.Along FindsNoStandard sampleQueue urgentAfterStandard := by
    decide +kernel
  refine hfinds (System.Along.imp (I := fun _ => True) (fun _ _ _ _ hstep hq => ?_)
    (fun _ _ _ _ _ _ => trivial) trivial hanswers)
  exact (answersExpedited_iff hstep).mp hq

end SyncQueue

end AccessService.Authorization
