/-
  AccessService.Authorization.ProjectionWatermark

  The projection version of a source as a watermark: never above the version of
  the source and never going down.

  `updateProjectionVersion` overwrites, so both rest on the order in which the
  versions come: no call enqueues a version its source does not have yet, no
  claim takes a job whose version is already behind the watermark, and a group
  is saved only over what was loaded.  Then whatever a worker writes lies
  between the watermark and the version of the source.
-/

import AccessService.Authorization.SyncQueueMoves

namespace AccessService.Authorization

open AccessService.Lib.Transition AccessService.Lib.Rows

namespace SyncQueue

/-- The claimed version is not behind its source's watermark, and the source is not
    being synchronized to another version. -/
def ClaimsInOrder (s : SyncQueue) (job : AuthorizationSyncJob) : Prop :=
  (∀ row ∈ s.sources job.source, row.projectionVersion ≤ job.sourceVersion) ∧
    ∀ worker ∈ s.workers, ∀ id ∈ executing? worker.phase, ∀ other ∈ s.jobs[id]?,
      other.source = job.source → other.sourceVersion = job.sourceVersion

/-- Nothing that the save overwrites has moved since the load: neither the
    watermark nor, by more than this edit's own bump, the version. -/
def SavesFresh (s : SyncQueue) (edit : GroupEdit) : Prop :=
  ∀ row ∈ s.sources edit.source,
    row.projectionVersion = edit.loaded.projectionVersion ∧ row.version ≤ edit.loaded.version + 1

/-- The versions of each source come in order. -/
def InVersionOrder (s : SyncQueue) : Action → Prop
  | .enqueue params =>
    params.ignoreValidateSource = true →
      ∀ row ∈ s.sources params.source, params.sourceVersion.getD 1 ≤ row.version
  | .worker w .claim =>
    ∀ worker ∈ s.workers[w]?, ∀ id ∈ selected? worker.phase, ∀ job ∈ s.jobs[id]?,
      ClaimsInOrder s job
  | .editSave e _ => ∀ edit ∈ s.edits[e]?, SavesFresh s edit
  | _ => True

instance (s : SyncQueue) (job : AuthorizationSyncJob) : Decidable (ClaimsInOrder s job) :=
  inferInstanceAs (Decidable (_ ∧ _))

instance (s : SyncQueue) (edit : GroupEdit) : Decidable (SavesFresh s edit) :=
  inferInstanceAs (Decidable (∀ _ ∈ _, _))

instance (s : SyncQueue) (action : Action) : Decidable (InVersionOrder s action) :=
  match action with
  | .enqueue _ => inferInstanceAs (Decidable (_ → _))
  | .worker _ .claim => inferInstanceAs (Decidable (∀ _ ∈ _, _))
  | .editSave _ _ => inferInstanceAs (Decidable (∀ _ ∈ _, _))
  | .worker _ (.acquire _) | .worker _ (.select _) | .worker _ (.progress _ _)
  | .worker _ .reconcile | .worker _ .throw | .worker _ (.complete _) | .worker _ .fail
  | .worker _ .failError | .worker _ .claimError | .worker _ (.release _) | .worker _ .consume
  | .tick _ | .deliver _ | .call _ _ | .watchdogScan _ | .watchdog _ | .editLoad _
  | .editRole _ => .isTrue trivial

-- ============================================================================
-- What every step does to the sources
-- ============================================================================

/-- A worker executes a job of the source at this version. -/
def Executes (s : SyncQueue) (source : SourceRef) (version : Nat) : Prop :=
  ∃ w id job, runs s.workers w = some id ∧ s.jobs[id]? = some job ∧ job.source = source ∧
    job.sourceVersion = version

/-- A source stays, its version does not go down, and its watermark moves only to
    the version of a job being executed. -/
def SourceMoves (s : SyncQueue) (source : SourceRef) (row row' : SourceRow) : Prop :=
  row.version ≤ row'.version ∧
    (row'.projectionVersion = row.projectionVersion ∨ Executes s source row'.projectionVersion)

/-- The sources after a step. -/
def SourcesChange (s s' : SyncQueue) : Prop :=
  ∀ source, match s.sources source with
    | none => s'.sources source = none
    | some row => ∃ row', s'.sources source = some row' ∧ SourceMoves s source row row'

theorem SourcesChange.of_eq {s s' : SyncQueue} (h : s'.sources = s.sources) :
    SourcesChange s s' := by
  intro source
  rw [h]
  split
  next hnone => exact hnone
  next row hrow => exact ⟨row, hrow, Nat.le_refl _, .inl rfl⟩

/-- One source is overwritten. -/
theorem SourcesChange.of_write {s s' : SyncQueue} {source : SourceRef} {row row' : SourceRow}
    (hrow : s.sources source = some row)
    (h : s'.sources = fun ref => if ref = source then some row' else s.sources ref)
    (hmoves : SourceMoves s source row row') : SourcesChange s s' := by
  intro ref
  rw [h]
  by_cases href : ref = source
  · subst href
    simp only [hrow, if_true]
    exact ⟨row', rfl, hmoves⟩
  · simp only [if_neg href]
    split
    next hnone => exact hnone
    next old hold => exact ⟨old, hold, Nat.le_refl _, .inl rfl⟩

/-- A worker writes the version of its job. -/
theorem SourcesChange.of_project {s s' : SyncQueue} {tenantCode : String} {source : SourceRef}
    {version : Nat} (hexec : Executes s source version)
    (h : s'.sources = (s.updateProjectionVersion tenantCode source version).sources) :
    SourcesChange s s' := by
  intro ref
  rw [h]
  simp only [updateProjectionVersion]
  by_cases href : ref = source
  · subst href
    rw [if_pos rfl]
    split
    next hnone => rw [hnone]; rfl
    next row hrow =>
      rw [hrow, Option.map_some]
      refine ⟨_, rfl, ?_⟩
      split
      · exact ⟨Nat.le_refl _, .inr hexec⟩
      · exact ⟨Nat.le_refl _, .inl rfl⟩
  · rw [if_neg href]
    split
    next hnone => exact hnone
    next row hrow => exact ⟨row, hrow, Nat.le_refl _, .inl rfl⟩

theorem executes_of_row {s : SyncQueue} {w : Nat} {worker : Worker} {id : JobId}
    {job : AuthorizationSyncJob} (hw : s.workers[w]? = some worker)
    (hrun : executing? worker.phase = some id) (hjob : s.jobs[id]? = some job) :
    Executes s job.source job.sourceVersion :=
  ⟨w, id, job, (view_of_row hw).trans hrun, hjob, rfl, rfl⟩

theorem move_sources {s s' : SyncQueue} {action : Action} (h : Move s action s')
    (hok : InVersionOrder s action) (hedits : ∀ edit ∈ s.edits, (s.sources edit.source).isSome) :
    SourcesChange s s' := by
  cases h with
  | project hw hp hjob =>
    exact .of_project (executes_of_row hw (by rw [hp]; rfl) hjob) rfl
  | complete tenantCode hw hp hjob hjobs =>
    exact .of_project (executes_of_row hw (by rw [hp]; rfl) hjob) rfl
  | @editSave e edit hasMatchingRule he hsaved =>
    obtain ⟨row, hrow⟩ := Option.isSome_iff_exists.mp (hedits edit (mem_of_row he))
    obtain ⟨hproj, hversion⟩ := hok edit he row hrow
    exact .of_write hrow rfl ⟨hversion, .inl hproj.symm⟩
  | editRole hrow => exact .of_write hrow rfl ⟨Nat.le_succ _, .inl rfl⟩
  | _ => exact .of_eq rfl

/-- Where the source of a state came from. -/
theorem SourcesChange.back {s s' : SyncQueue} (h : SourcesChange s s') {source : SourceRef}
    {row' : SourceRow} (hrow' : s'.sources source = some row') :
    ∃ row, s.sources source = some row ∧ SourceMoves s source row row' := by
  have hsource := h source
  split at hsource
  · rw [hsource] at hrow'
    cases hrow'
  next row hrow =>
    obtain ⟨new, hnew, hmoves⟩ := hsource
    cases hrow'.symm.trans hnew
    exact ⟨row, hrow, hmoves⟩

theorem SourcesChange.forth {s s' : SyncQueue} (h : SourcesChange s s') {source : SourceRef}
    {row : SourceRow} (hrow : s.sources source = some row) :
    ∃ row', s'.sources source = some row' ∧ SourceMoves s source row row' := by
  have hsource := h source
  simpa only [hrow] using hsource

-- ============================================================================
-- What every step does to the calls
-- ============================================================================

/-- The version that the call will put into its job, once that is settled. -/
def callVersion? (call : EnqueueCall) : Option Nat :=
  match call.phase with
  | .resolving =>
    if call.params.ignoreValidateSource then some (call.params.sourceVersion.getD 1) else none
  | .checking version | .inserting version | .rereading version => some version
  | .returned _ | .threw => none

theorem call_of_set {calls : List EnqueueCall} {c c' : Nat} {call call' new : EnqueueCall}
    (hc : calls[c]? = some call) (hc' : (calls.set c new)[c']? = some call')
    {version : Nat} (hversion : callVersion? call' = some version)
    (hnew : callVersion? new = some version →
      callVersion? call = some version ∧ new.params = call.params) :
    ∃ old ∈ calls, callVersion? old = some version ∧ call'.params = old.params := by
  rcases (getElem?_set_row hc).mp hc' with ⟨-, rfl⟩ | ⟨-, hold⟩
  · obtain ⟨hold, hparams⟩ := hnew hversion
    exact ⟨call, mem_of_row hc, hold, hparams⟩
  · exact ⟨call', mem_of_row hold, hversion, rfl⟩

/-- A version settled after the step was settled before, is the source's, or comes
    with a new call. -/
theorem move_callVersion {s s' : SyncQueue} {action : Action} (h : Move s action s')
    {c' : Nat} {call' : EnqueueCall} (hc' : s'.calls[c']? = some call') {version : Nat}
    (hversion : callVersion? call' = some version) :
    (∃ call ∈ s.calls, callVersion? call = some version ∧ call'.params = call.params) ∨
      (∃ row, s.sources call'.params.source = some row ∧ row.version = version) ∨
      ∃ params, action = .enqueue params ∧ params.ignoreValidateSource = true ∧
        call'.params = params ∧ params.sourceVersion.getD 1 = version := by
  cases h with
  | enqueue params =>
    rcases getElem?_concat.mp hc' with hold | ⟨-, rfl⟩
    · exact .inl ⟨call', mem_of_row hold, hversion, rfl⟩
    · simp only [callVersion?] at hversion
      split at hversion
      next hignore => exact .inr (.inr ⟨params, rfl, hignore, rfl, Option.some.inj hversion⟩)
      · cases hversion
  | resolveIgnoring hc hp hignore =>
    refine .inl (call_of_set hc hc' hversion fun hnew => ⟨?_, rfl⟩)
    simpa only [callVersion?, hp, hignore, if_true] using hnew
  | resolve hc hp hrow hdirty =>
    rcases (getElem?_set_row hc).mp hc' with ⟨-, rfl⟩ | ⟨-, hold⟩
    · exact .inr (.inl ⟨_, hrow, Option.some.inj hversion⟩)
    · exact .inl ⟨call', mem_of_row hold, hversion, rfl⟩
  | checkMiss hc hp =>
    refine .inl (call_of_set hc hc' hversion fun hnew => ⟨?_, rfl⟩)
    simpa only [callVersion?, hp] using hnew
  | insertConflict hc hp hjobs =>
    refine .inl (call_of_set hc hc' hversion fun hnew => ⟨?_, rfl⟩)
    simpa only [callVersion?, hp] using hnew
  | resolveNoOp hc hp => exact .inl (call_of_set hc hc' hversion nofun)
  | find hc hp hfind => exact .inl (call_of_set hc hc' hversion nofun)
  | insert hc hp hjobs => exact .inl (call_of_set hc hc' hversion nofun)
  | rereadMiss hc hp hfind => exact .inl (call_of_set hc hc' hversion nofun)
  | callFails hc hp haction => exact .inl (call_of_set hc hc' hversion nofun)
  | _ => exact .inl ⟨call', mem_of_row hc', hversion, rfl⟩

-- ============================================================================
-- The invariant
-- ============================================================================

structure Watermarked (s : SyncQueue) : Prop where
  bounded : ∀ source row, s.sources source = some row → row.projectionVersion ≤ row.version
  jobs : ∀ (id : JobId) (job : AuthorizationSyncJob) row, s.jobs[id]? = some job →
    s.sources job.source = some row → job.sourceVersion ≤ row.version
  calls : ∀ call ∈ s.calls, ∀ version row, callVersion? call = some version →
    s.sources call.params.source = some row → version ≤ row.version
  edits : ∀ edit ∈ s.edits, (s.sources edit.source).isSome
  exist : ∀ w id, runs s.workers w = some id → ∃ job, s.jobs[id]? = some job
  ahead : ∀ source version row, Executes s source version → s.sources source = some row →
    row.projectionVersion ≤ version
  agree : ∀ source version version', Executes s source version → Executes s source version' →
    version = version'

section Step

variable {s s' : SyncQueue} {action : Action}

/-- What is executed after the step was executed before, or is claimed in it, in
    version order. -/
theorem Watermarked.executes (h : Watermarked s) (hok : InVersionOrder s action)
    (hmove : Move s action s') {source : SourceRef} {version : Nat}
    (hexec : Executes s' source version) :
    Executes s source version ∨
      (s'.sources = s.sources ∧ ∃ w id job, action = .worker w .claim ∧
        runs s'.workers w = some id ∧ s.jobs[id]? = some job ∧ job.source = source ∧
        job.sourceVersion = version ∧ ClaimsInOrder s job) := by
  obtain ⟨w, id, job', hrun', hjob', rfl, rfl⟩ := hexec
  rcases move_runs hmove hrun' with hrun | ⟨rfl, hsources, worker, x, job, hw, hp, hjob⟩
  · obtain ⟨job, hjob⟩ := h.exist w id hrun
    obtain ⟨same, hsame, hkey⟩ := move_key hmove hjob
    cases hjob'.symm.trans hsame
    obtain ⟨-, hsource, hversion⟩ := by
      simpa only [AuthorizationSyncJob.key, Prod.mk.injEq] using hkey
    exact .inl ⟨w, id, job, hrun, hjob, hsource.symm, hversion.symm⟩
  · obtain ⟨same, hsame, hkey⟩ := move_key hmove hjob
    cases hjob'.symm.trans hsame
    obtain ⟨-, hsource, hversion⟩ := by
      simpa only [AuthorizationSyncJob.key, Prod.mk.injEq] using hkey
    have horder : ClaimsInOrder s job := hok worker hw id (by rw [hp]; rfl) job hjob
    exact .inr ⟨hsources, w, id, job, rfl, hrun', hjob, hsource.symm, hversion.symm, horder⟩

theorem ClaimsInOrder.of_executes {job : AuthorizationSyncJob} {version : Nat}
    (h : ClaimsInOrder s job) (hexec : Executes s job.source version) :
    version = job.sourceVersion := by
  obtain ⟨w, id, other, hrun, hother, hsource, rfl⟩ := hexec
  obtain ⟨worker, hw, hid⟩ := Option.bind_eq_some_iff.mp hrun
  exact h.2 worker (mem_of_row hw) id hid other hother hsource

/-- The watermark does not go down. -/
theorem Watermarked.raises (h : Watermarked s) {source : SourceRef} {row row' : SourceRow}
    (hrow : s.sources source = some row) (hmoves : SourceMoves s source row row') :
    row.projectionVersion ≤ row'.projectionVersion := by
  rcases hmoves.2 with heq | hexec
  · exact Nat.le_of_eq heq.symm
  · exact h.ahead source _ row hexec hrow

/-- A job being executed has at most the version of its source. -/
theorem Watermarked.executes_le (h : Watermarked s) {source : SourceRef} {version : Nat}
    {row : SourceRow} (hexec : Executes s source version)
    (hrow : s.sources source = some row) : version ≤ row.version := by
  obtain ⟨w, id, job, -, hjob, rfl, rfl⟩ := hexec
  exact h.jobs id job row hjob hrow

theorem Watermarked.step_bounded (h : Watermarked s) (hchange : SourcesChange s s')
    {source : SourceRef} {row' : SourceRow} (hrow' : s'.sources source = some row') :
    row'.projectionVersion ≤ row'.version := by
  obtain ⟨row, hrow, hversion, heq | hexec⟩ := hchange.back hrow'
  · calc row'.projectionVersion = row.projectionVersion := heq
      _ ≤ row.version := h.bounded source row hrow
      _ ≤ row'.version := hversion
  · exact (h.executes_le hexec hrow).trans hversion

theorem Watermarked.step_jobs (h : Watermarked s) (hmove : Move s action s')
    (hchange : SourcesChange s s') {id : JobId} {job' : AuthorizationSyncJob} {row' : SourceRow}
    (hjob' : s'.jobs[id]? = some job') (hrow' : s'.sources job'.source = some row') :
    job'.sourceVersion ≤ row'.version := by
  obtain ⟨row, hrow, hversion, -⟩ := hchange.back hrow'
  refine Nat.le_trans ?_ hversion
  rcases move_job_origin hmove hjob' with
    ⟨job, hjob, hkey⟩ | ⟨c, call, version, hc, hp, rfl, -⟩
  · obtain ⟨-, hsource, hsame⟩ := by
      simpa only [AuthorizationSyncJob.key, Prod.mk.injEq] using hkey
    rw [hsame]
    exact h.jobs id job row hjob (hsource ▸ hrow)
  · exact h.calls call (mem_of_row hc) version row (by simp only [callVersion?, hp]) hrow

theorem Watermarked.step_calls (h : Watermarked s) (hok : InVersionOrder s action)
    (hmove : Move s action s') (hchange : SourcesChange s s') {c' : Nat} {call' : EnqueueCall}
    {version : Nat} {row' : SourceRow} (hc' : s'.calls[c']? = some call')
    (hcall : callVersion? call' = some version)
    (hrow' : s'.sources call'.params.source = some row') : version ≤ row'.version := by
  obtain ⟨row, hrow, hversion, -⟩ := hchange.back hrow'
  refine Nat.le_trans ?_ hversion
  rcases move_callVersion hmove hc' hcall with
    ⟨call, hc, hold, hparams⟩ | ⟨same, hsame, rfl⟩ | ⟨params, rfl, hignore, hparams, rfl⟩
  · exact h.calls call hc version row hold (hparams ▸ hrow)
  · cases hrow.symm.trans hsame
    exact Nat.le_refl _
  · exact hok hignore row (hparams ▸ hrow)

theorem Watermarked.step_edits (h : Watermarked s) (hmove : Move s action s')
    (hchange : SourcesChange s s') {edit' : GroupEdit} (hedit' : edit' ∈ s'.edits) :
    (s'.sources edit'.source).isSome := by
  have hstays : ∀ source, (s.sources source).isSome → (s'.sources source).isSome := by
    intro source hsome
    obtain ⟨row, hrow⟩ := Option.isSome_iff_exists.mp hsome
    obtain ⟨row', hrow', -⟩ := hchange.forth hrow
    rw [hrow']
    rfl
  apply hstays
  cases hmove with
  | editLoad hrow =>
    rcases List.mem_append.mp hedit' with hold | hnew
    · exact h.edits edit' hold
    · cases List.mem_singleton.mp hnew
      rw [hrow]
      rfl
  | @editSave e edit hasMatchingRule he hsaved =>
    rcases List.mem_or_eq_of_mem_set hedit' with hold | rfl
    · exact h.edits edit' hold
    · exact h.edits edit (mem_of_row he)
  | _ => exact h.edits edit' hedit'

theorem Watermarked.step_exist (h : Watermarked s) (hmove : Move s action s') {w : Nat}
    {id : JobId} (hrun' : runs s'.workers w = some id) : ∃ job, s'.jobs[id]? = some job := by
  have hbefore : ∃ job, s.jobs[id]? = some job := by
    rcases move_runs hmove hrun' with hrun | ⟨-, -, worker, x, job, -, -, hjob⟩
    · exact h.exist w id hrun
    · exact ⟨job, hjob⟩
  obtain ⟨job, hjob⟩ := hbefore
  obtain ⟨job', hjob', -⟩ := move_key hmove hjob
  exact ⟨job', hjob'⟩

theorem Watermarked.step_ahead (h : Watermarked s) (hok : InVersionOrder s action)
    (hmove : Move s action s') (hchange : SourcesChange s s') {source : SourceRef}
    {version : Nat} {row' : SourceRow} (hexec' : Executes s' source version)
    (hrow' : s'.sources source = some row') : row'.projectionVersion ≤ version := by
  rcases h.executes hok hmove hexec' with hexec | ⟨hsources, w, id, job, -, -, -, rfl, rfl, horder⟩
  · obtain ⟨row, hrow, -, heq | hwrites⟩ := hchange.back hrow'
    · rw [heq]
      exact h.ahead source version row hexec hrow
    · exact Nat.le_of_eq (h.agree source _ version hwrites hexec)
  · rw [hsources] at hrow'
    exact horder.1 row' hrow'

theorem Watermarked.step_agree (h : Watermarked s) (hok : InVersionOrder s action)
    (hmove : Move s action s') {source : SourceRef} {v v' : Nat}
    (hexec : Executes s' source v) (hexec' : Executes s' source v') : v = v' := by
  rcases h.executes hok hmove hexec with
    hold | ⟨-, w, id, job, rfl, hrun, hjob, rfl, rfl, horder⟩ <;>
    rcases h.executes hok hmove hexec' with
      hold' | ⟨-, w', id', job', haction, hrun', hjob', hsource', rfl, horder'⟩
  · exact h.agree source v v' hold hold'
  · exact horder'.of_executes (hsource' ▸ hold)
  · exact (horder.of_executes hold').symm
  · cases haction
    cases hrun.symm.trans hrun'
    cases hjob.symm.trans hjob'
    rfl

theorem watermarked_step (h : Watermarked s) (hok : InVersionOrder s action)
    (hmove : Move s action s') : Watermarked s' := by
  have hchange := move_sources hmove hok h.edits
  constructor
  · exact fun _ _ hrow' => h.step_bounded hchange hrow'
  · exact fun _ _ _ hjob' hrow' => h.step_jobs hmove hchange hjob' hrow'
  · intro call' hcall' version row' hversion hrow'
    obtain ⟨c', hc'⟩ := List.mem_iff_getElem?.mp hcall'
    exact h.step_calls hok hmove hchange hc' hversion hrow'
  · exact fun _ hedit' => h.step_edits hmove hchange hedit'
  · exact fun _ _ hrun' => h.step_exist hmove hrun'
  · exact fun _ _ _ hexec' hrow' => h.step_ahead hok hmove hchange hexec' hrow'
  · exact fun _ _ _ hexec hexec' => h.step_agree hok hmove hexec hexec'

end Step

-- ============================================================================
-- Runs
-- ============================================================================

theorem watermarked_initial {s : SyncQueue} (hinit : Initial s) : Watermarked s := by
  have hidle : ∀ source version, ¬Executes s source version := by
    rintro source version ⟨w, id, job, hrun, -⟩
    simp [view, hinit.workers] at hrun
  constructor
  · exact hinit.projected
  · simp [hinit.jobs]
  · simp [hinit.calls]
  · simp [hinit.edits]
  · intro w id hrun
    simp [view, hinit.workers] at hrun
  · exact fun source version _ hexec => absurd hexec (hidle source version)
  · exact fun source version _ hexec => absurd hexec (hidle source version)

theorem watermarked_of_reachable {s : SyncQueue} (h : system.Reachable InVersionOrder s) :
    Watermarked s :=
  h.invariant Watermarked (fun _ hinit => watermarked_initial hinit)
    fun _ _ _ _ hI hok hstep => watermarked_step hI hok (step_move hstep)

/-- While the versions of each source come in order, its projection version is
    at most its version and never goes down. -/
theorem watermark_bounded_monotone {s : SyncQueue} (h : system.Reachable InVersionOrder s) :
    (∀ source row, s.sources source = some row → row.projectionVersion ≤ row.version) ∧
      ∀ s' source row, system.Steps InVersionOrder s s' → s.sources source = some row →
        ∃ row', s'.sources source = some row' ∧
          row.projectionVersion ≤ row'.projectionVersion := by
  refine ⟨(watermarked_of_reachable h).bounded, ?_⟩
  intro s' source row hsteps hrow
  refine hsteps.preserves (fun t => ∃ row', t.sources source = some row' ∧
    row.projectionVersion ≤ row'.projectionVersion) ?_ h ⟨row, hrow, Nat.le_refl _⟩
  rintro t action t' hreach ⟨mid, hmid, hle⟩ hok hstep
  have hI := watermarked_of_reachable hreach
  obtain ⟨row', hrow', hmoves⟩ := (move_sources (step_move hstep) hok hI.edits).forth hmid
  exact ⟨row', hrow', hle.trans (hI.raises hmid hmoves)⟩

theorem watermark_bounded_monotone_sample :
    ∃ s, system.run InVersionOrder sampleQueue
        (enqueueRun 0 sampleParams ++ handleRun 0 0 0 0) = some s ∧
      (∀ source row, s.sources source = some row → row.projectionVersion ≤ row.version) ∧
      ∀ s' source row, system.Steps InVersionOrder s s' → s.sources source = some row →
        ∃ row', s'.sources source = some row' ∧
          row.projectionVersion ≤ row'.projectionVersion := by
  have hrun : (system.run InVersionOrder sampleQueue
      (enqueueRun 0 sampleParams ++ handleRun 0 0 0 0)).isSome = true := by
    decide +kernel
  obtain ⟨s, hs⟩ := Option.isSome_iff_exists.mp hrun
  exact ⟨s, hs, watermark_bounded_monotone (.of_run initial_sampleQueue hs)⟩

-- ============================================================================
-- What versions out of order do
-- ============================================================================

def projectionOf (s : SyncQueue) (source : SourceRef) : Option (Nat × Nat) :=
  (s.sources source).map fun row => (row.projectionVersion, row.version)

/-- Two versions of one group are queued, the second with priority, and so
    synchronized first. -/
def urgentFirstRun : List Action :=
  enqueueRun 0 sampleParams ++ [.editLoad sampleGroup, .editSave 0 true] ++
    enqueueRun 1 { sampleParams with priority := .URGENT } ++ handleRun 0 0 0 1

theorem urgentFirstRun_regresses :
    (system.run Always sampleQueue urgentFirstRun).bind (fun s =>
      (system.run Always s (handleRun 1 1 0 0)).map fun s' =>
        (projectionOf s sampleGroup, projectionOf s' sampleGroup)) =
    some (some (2, 2), some (1, 2)) := by
  decide +kernel

/-- An edit that has loaded version 1 is saved over version 3, of which a job is
    queued. -/
def staleSaveRun : List Action :=
  [.editLoad sampleGroup, .editLoad sampleGroup, .editSave 1 true, .editLoad sampleGroup,
    .editSave 2 true] ++ enqueueRun 0 sampleParams ++ [.editSave 0 true] ++ handleRun 0 0 0 0

theorem staleSaveRun_overtakes :
    (system.run Always sampleQueue staleSaveRun).map (projectionOf · sampleGroup) =
      some (some (3, 2)) := by
  decide +kernel

/-- With any order of steps, the projection version goes down, and exceeds the
    version. -/
theorem not_bounded_not_monotone :
    (∃ s s', system.Reachable Always s ∧ system.Steps Always s s' ∧
        projectionOf s sampleGroup = some (2, 2) ∧ projectionOf s' sampleGroup = some (1, 2)) ∧
      ∃ s, system.Reachable Always s ∧ projectionOf s sampleGroup = some (3, 2) := by
  constructor
  · obtain ⟨s, hrun, hmap⟩ := Option.bind_eq_some_iff.mp urgentFirstRun_regresses
    obtain ⟨s', hrun', hpair⟩ := Option.map_eq_some_iff.mp hmap
    obtain ⟨hbefore, hafter⟩ := Prod.mk.inj hpair
    exact ⟨s, s', .of_run initial_sampleQueue hrun, System.steps_of_run hrun', hbefore, hafter⟩
  · obtain ⟨s, hrun, hpair⟩ := Option.map_eq_some_iff.mp staleSaveRun_overtakes
    exact ⟨s, .of_run initial_sampleQueue hrun, hpair⟩

end SyncQueue

end AccessService.Authorization
