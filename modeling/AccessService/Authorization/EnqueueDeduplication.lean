/-
  AccessService.Authorization.EnqueueDeduplication

  Concurrent calls of `enqueueSyncJob` share one job in flight for each tenant,
  source and version: the unique index keeps the jobs apart, each job is
  inserted together with its requested event, and a call answers with a job it
  saw in flight while it ran.
-/

import AccessService.Authorization.SyncQueueMoves

namespace AccessService.Authorization

open AccessService.Lib.Transition AccessService.Lib.Rows

namespace SyncQueue

/-- The job is PENDING or PROCESSING. -/
def InFlightIn (s : SyncQueue) (id : JobId) : Prop :=
  ∃ job : AuthorizationSyncJob, s.jobs[id]? = some job ∧ job.status.inFlight = true

/-- The requested events of a job. -/
def requestedCount (s : SyncQueue) (id : JobId) : Nat :=
  s.outbox.countP fun event =>
    event.type = .AUTHORIZATION_SYNC_REQUESTED && event.jobId = id

-- ============================================================================
-- One job in flight, one event for each job
-- ============================================================================

theorem reachable_unique {P : SyncQueue → Action → Prop} {s : SyncQueue}
    (h : system.Reachable P s) : s.jobs.InFlightUnique := by
  refine h.invariant (fun t => t.jobs.InFlightUnique) (fun s₀ hinit => ?_)
    fun t action t' _ hu _ hstep => move_unique (step_move hstep) hu
  intro i j a b hi
  rw [hinit.jobs] at hi
  cases hi

theorem requestedCount_step {s s' : SyncQueue} {action : Action} (hmove : Move s action s')
    (h : ∀ id, s.requestedCount id = if id < s.jobs.length then 1 else 0) (id : JobId) :
    s'.requestedCount id = if id < s'.jobs.length then 1 else 0 := by
  have hid := h id
  simp only [requestedCount] at hid ⊢
  rcases move_outbox hmove with ⟨houtbox, hlen⟩ | ⟨event, houtbox, htype, hjob, hlen⟩ |
    ⟨event, houtbox, htype, hlen⟩
  · rw [houtbox, hlen, hid]
  · rw [houtbox, hlen, List.countP_append, hid, List.countP_singleton, htype, hjob]
    -- the new event counts for the new job only
    rcases Nat.lt_trichotomy id s.jobs.length with hlt | heq | hgt
    · have hlt' : id < s.jobs.length + 1 := Nat.lt_succ_of_lt hlt
      simp [hlt, hlt.ne', hlt']
    · simp [heq]
    · have hge : ¬id < s.jobs.length := Nat.not_lt_of_gt hgt
      have hge' : ¬id < s.jobs.length + 1 := Nat.not_lt.mpr hgt
      simp [hgt.ne, hge, hge']
  · rw [houtbox, hlen, List.countP_append, hid, List.countP_singleton]
    simp [htype]

theorem reachable_requestedCount {P : SyncQueue → Action → Prop} {s : SyncQueue}
    (h : system.Reachable P s) (id : JobId) :
    s.requestedCount id = if id < s.jobs.length then 1 else 0 := by
  refine h.invariant (fun t => ∀ id, t.requestedCount id = if id < t.jobs.length then 1 else 0)
    (fun s₀ hinit id => ?_) (fun t action t' _ hI _ hstep =>
      requestedCount_step (step_move hstep) hI) id
  simp [requestedCount, hinit.outbox, hinit.jobs]

-- ============================================================================
-- The answers
-- ============================================================================

/-- A call whose phase was set to something else than the answer is another call. -/
theorem answer_of_other {calls : List EnqueueCall} {c c₀ : Nat} {call call' : EnqueueCall}
    {phase : CallPhase} {id : JobId} (hc : calls[c₀]? = some call)
    (hphase : phase ≠ .returned (some id))
    (hc' : (calls.set c₀ { call with phase := phase })[c]? = some call')
    (hp' : call'.phase = .returned (some id)) :
    ∃ call, calls[c]? = some call ∧ call.phase = .returned (some id) := by
  rcases (getElem?_set_row hc).mp hc' with ⟨rfl, rfl⟩ | ⟨-, h⟩
  · exact absurd hp' hphase
  · exact ⟨call', h, hp'⟩

/-- A call that has answered with a job had answered so before the step, or the
    job is in flight before or after the step. -/
theorem move_answer {s s' : SyncQueue} {action : Action} (hmove : Move s action s') {c : Nat}
    {call' : EnqueueCall} {id : JobId} (hc' : s'.calls[c]? = some call')
    (hp' : call'.phase = .returned (some id)) :
    (∃ call, s.calls[c]? = some call ∧ call.phase = .returned (some id)) ∨
      InFlightIn s id ∨ InFlightIn s' id := by
  cases hmove with
  | enqueue params =>
    rcases getElem?_concat.mp hc' with h | ⟨-, rfl⟩
    · exact .inl ⟨call', h, hp'⟩
    · cases hp'
  | @find c₀ call version found action hc hp hfind =>
    rcases (getElem?_set_row hc).mp hc' with ⟨rfl, rfl⟩ | ⟨-, h⟩
    · cases hp'
      obtain ⟨job, hjob, hflight, -⟩ := JobTable.findInFlightJob_eq_some hfind
      exact .inr (.inl ⟨job, hjob, hflight⟩)
    · exact .inl ⟨call', h, hp'⟩
  | @insert c₀ call version jobs hc hp hjobs =>
    rcases (getElem?_set_row hc).mp hc' with ⟨rfl, rfl⟩ | ⟨-, h⟩
    · cases hp'
      obtain ⟨rfl, -⟩ := JobTable.insert_eq_some hjobs
      exact .inr (.inr ⟨_, getElem?_concat.mpr (.inr ⟨rfl, rfl⟩), rfl⟩)
    · exact .inl ⟨call', h, hp'⟩
  | resolveIgnoring hc hp hignore => exact .inl (answer_of_other hc (by simp) hc' hp')
  | resolve hc hp hrow hdirty => exact .inl (answer_of_other hc (by simp) hc' hp')
  | resolveNoOp hc hp => exact .inl (answer_of_other hc (by simp) hc' hp')
  | checkMiss hc hp => exact .inl (answer_of_other hc (by simp) hc' hp')
  | insertConflict hc hp hjobs => exact .inl (answer_of_other hc (by simp) hc' hp')
  | rereadMiss hc hp hfind => exact .inl (answer_of_other hc (by simp) hc' hp')
  | callFails hc hp haction => exact .inl (answer_of_other hc (by simp) hc' hp')
  | _ => exact .inl ⟨call', hc', hp'⟩

/-- Along a trace that starts right after call `c` was made, an answered job was in
    flight in one of the states passed. -/
theorem answer_in_flight {s s' : SyncQueue} {params : EnqueueParams} {ts : List SyncQueue}
    (htrace : system.Trace { s with calls := s.calls ++ [{ params := params }] } ts s')
    {call : EnqueueCall} {id : JobId} (hcall : s'.calls[s.calls.length]? = some call)
    (hp : call.phase = .returned (some id)) : ∃ t ∈ ts, InFlightIn t id := by
  induction htrace generalizing call with
  | refl =>
    rcases getElem?_concat.mp hcall with h | ⟨-, rfl⟩
    · have hlt := (List.getElem?_eq_some_iff.mp h).1
      exact absurd hlt (Nat.lt_irrefl _)
    · cases hp
  | @tail ts t u action htrace hstep ih =>
    rcases move_answer (step_move hstep) hcall hp with ⟨call₀, hc₀, hp₀⟩ | hin | hin
    · obtain ⟨v, hv, hflight⟩ := ih hc₀ hp₀
      exact ⟨v, List.mem_append_left _ hv, hflight⟩
    · exact ⟨t, List.mem_append_left _ htrace.last_mem, hin⟩
    · exact ⟨u, List.mem_append_right _ (List.mem_singleton_self u), hin⟩

-- ============================================================================
-- Losing the race
-- ============================================================================

/-- The call has hit the index at `version`: it will re-read at that version, or it
    is over. -/
def LostRace (calls : List EnqueueCall) (c : Nat) (params : EnqueueParams) (version : Nat) :
    Prop :=
  ∃ call, calls[c]? = some call ∧ call.params = params ∧
    (call.phase = .rereading version ∨ call.phase = .threw ∨
      ∃ id, call.phase = .returned id)

/-- A call that has lost the race stays so: another call's phase is no matter, and
    its own moves end it. -/
theorem lostRace_set {calls : List EnqueueCall} {c c₀ : Nat} {params : EnqueueParams}
    {version : Nat} {call₀ : EnqueueCall} {phase : CallPhase}
    (h : LostRace calls c params version) (hc₀ : calls[c₀]? = some call₀)
    (hown : c = c₀ → phase = .threw ∨ ∃ id, phase = .returned id) :
    LostRace (calls.set c₀ { call₀ with phase := phase }) c params version := by
  obtain ⟨call, hc, hparams, hphase⟩ := h
  by_cases hcc : c = c₀
  · subst hcc
    cases hc.symm.trans hc₀
    exact ⟨_, getElem?_set_self hc, hparams, .inr (hown rfl)⟩
  · exact ⟨call, by rw [getElem?_set_ne hcc]; exact hc, hparams, hphase⟩

/-- A call in an earlier phase has not lost the race. -/
theorem not_lostRace {calls : List EnqueueCall} {c c₀ : Nat} {params : EnqueueParams}
    {version : Nat} {call₀ : EnqueueCall} (h : LostRace calls c params version)
    (hc₀ : calls[c₀]? = some call₀)
    (hp : call₀.phase = .resolving ∨ (∃ v, call₀.phase = .checking v) ∨
      ∃ v, call₀.phase = .inserting v) : c ≠ c₀ := by
  rintro rfl
  obtain ⟨call, hc, -, hphase⟩ := h
  cases hc.symm.trans hc₀
  rcases hp with hp | ⟨v, hp⟩ | ⟨v, hp⟩ <;> rcases hphase with hq | hq | ⟨id, hq⟩ <;>
    exact absurd (hp.symm.trans hq) nofun

theorem move_lostRace {s s' : SyncQueue} {action : Action} (hmove : Move s action s') {c : Nat}
    {params : EnqueueParams} {version : Nat} (h : LostRace s.calls c params version) :
    LostRace s'.calls c params version := by
  cases hmove with
  | enqueue p =>
    obtain ⟨call, hc, hrest⟩ := h
    exact ⟨call, getElem?_concat.mpr (.inl hc), hrest⟩
  | resolveIgnoring hc hp hignore =>
    exact lostRace_set h hc fun heq => absurd heq (not_lostRace h hc (.inl hp))
  | resolve hc hp hrow hdirty =>
    exact lostRace_set h hc fun heq => absurd heq (not_lostRace h hc (.inl hp))
  | resolveNoOp hc hp => exact lostRace_set h hc fun _ => .inr ⟨_, rfl⟩
  | find hc hp hfind => exact lostRace_set h hc fun _ => .inr ⟨_, rfl⟩
  | checkMiss hc hp =>
    exact lostRace_set h hc fun heq => absurd heq (not_lostRace h hc (.inr (.inl ⟨_, hp⟩)))
  | insert hc hp hjobs => exact lostRace_set h hc fun _ => .inr ⟨_, rfl⟩
  | insertConflict hc hp hjobs =>
    exact lostRace_set h hc fun heq => absurd heq (not_lostRace h hc (.inr (.inr ⟨_, hp⟩)))
  | rereadMiss hc hp hfind => exact lostRace_set h hc fun _ => .inl rfl
  | callFails hc hp haction => exact lostRace_set h hc fun _ => .inl rfl
  | _ => exact h

theorem steps_lostRace {s s' : SyncQueue} (hsteps : system.Steps Always s s') {c : Nat}
    {params : EnqueueParams} {version : Nat} (h : LostRace s.calls c params version) :
    LostRace s'.calls c params version := by
  induction hsteps with
  | refl => exact h
  | tail _ hnext ih =>
    obtain ⟨action, -, hstep⟩ := hnext
    exact move_lostRace (step_move hstep) ih

/-- A re-read that ends in an error found no job in flight with the call's key. -/
theorem reread_fails {s s' : SyncQueue} {c : Nat} {params : EnqueueParams} {version : Nat}
    (h : LostRace s.calls c params version) (hstep : s.step (.call c .reread) = some s')
    (hthrew : ∃ call', s'.calls[c]? = some call' ∧ call'.phase = .threw) :
    s.jobs.findInFlightJob params.tenantCode params.source version = none := by
  obtain ⟨call, hc, rfl, hphase⟩ := h
  simp only [step, hc] at hstep
  rcases hphase with hp | hp | ⟨id, hp⟩
  · simp only [hp, callStep] at hstep
    split at hstep
    next id hfind =>
      cases hstep
      obtain ⟨call', hc', hp'⟩ := hthrew
      rcases (getElem?_set_row hc).mp hc' with ⟨-, rfl⟩ | ⟨hne, -⟩
      · cases hp'
      · exact absurd rfl hne
    next hfind => exact hfind
  · simp only [hp, callStep] at hstep
    cases hstep
  · simp only [hp, callStep] at hstep
    cases hstep

-- ============================================================================
-- Deduplication
-- ============================================================================

/-- In every reachable state at most one job is in flight for each tenant, source
    and version, and each job has exactly one requested event.  Every call that
    answers with a job had that job in flight between its start and its return.
    A call whose insert violates the index meets a job in flight with its key,
    and its re-read ends in an error only when that job has left flight by then. -/
theorem enqueue_deduplicates :
    (∀ s, system.Reachable Always s → s.jobs.InFlightUnique ∧
      ∀ id, s.requestedCount id = if id < s.jobs.length then 1 else 0) ∧
    (∀ s params ts s' call id, system.Reachable Always s →
      system.Trace { s with calls := s.calls ++ [{ params := params }] } ts s' →
      s'.calls[s.calls.length]? = some call → call.phase = .returned (some id) →
      ∃ t ∈ ts, InFlightIn t id) ∧
    ∀ s c call version, system.Reachable Always s → s.calls[c]? = some call →
      call.phase = .inserting version →
      s.jobs.insert (newJob call.params version s.now) = none →
      ∃ (id : JobId) (winner : AuthorizationSyncJob), s.jobs[id]? = some winner ∧
        winner.status.inFlight = true ∧
        winner.key = (call.params.tenantCode, call.params.source, version) ∧
        ∀ s₁ s₂ s₃, s.step (.call c .insert) = some s₁ → system.Steps Always s₁ s₂ →
          s₂.step (.call c .reread) = some s₃ →
          (∃ call₃, s₃.calls[c]? = some call₃ ∧ call₃.phase = .threw) → ¬InFlightIn s₂ id := by
  refine ⟨fun s h => ⟨reachable_unique h, reachable_requestedCount h⟩,
    fun s params ts s' call id _ htrace hcall hp => answer_in_flight htrace hcall hp, ?_⟩
  intro s c call version _ hc hp hconflict
  obtain ⟨id, winner, hwinner, hflight, hkey⟩ := JobTable.winner_of_conflict hconflict
  refine ⟨id, winner, hwinner, hflight, hkey, ?_⟩
  intro s₁ s₂ s₃ hinsert hsteps hreread hthrew
  -- after the conflict the call waits for its re-read, and no job has changed
  have hs₁ : s₁ = s.setCall c call (.rereading version) := by
    simp only [step, hc, hp, callStep, hconflict] at hinsert
    exact (Option.some.inj hinsert).symm
  have hlost : LostRace s₁.calls c call.params version := by
    rw [hs₁]
    exact ⟨_, getElem?_set_self hc, rfl, .inl rfl⟩
  have hwinner₁ : s₁.jobs[id]? = some winner := by
    rw [hs₁]
    exact hwinner
  obtain ⟨winner₂, hwinner₂, hkey₂⟩ := steps_key hsteps hwinner₁
  have hmiss := reread_fails (steps_lostRace hsteps hlost) hreread hthrew
  rintro ⟨job, hjob, hin⟩
  cases hjob.symm.trans hwinner₂
  rw [JobTable.findInFlightJob_eq_none hmiss hjob (hkey₂.trans hkey)] at hin
  cases hin

theorem enqueue_deduplicates_sample :
    ∃ s, system.run Always sampleQueue (enqueueRun 0 sampleParams) = some s ∧
      s.jobs.InFlightUnique ∧ ∀ id, s.requestedCount id = if id < s.jobs.length then 1 else 0 := by
  have hrun : (system.run Always sampleQueue (enqueueRun 0 sampleParams)).isSome = true := by
    decide +kernel
  obtain ⟨s, hs⟩ := Option.isSome_iff_exists.mp hrun
  exact ⟨s, hs, enqueue_deduplicates.1 s (.of_run initial_sampleQueue hs)⟩

end SyncQueue

end AccessService.Authorization
