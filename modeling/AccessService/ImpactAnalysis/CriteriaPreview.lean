/-
  AccessService.ImpactAnalysis.CriteriaPreview

  What `estimateCriteriaDiff` shows of a matching rule against what a sync job makes of it:
  the preview and `reconcileGroupPopulation` each take the difference of the members and the
  matched employees, and the job leaves the group with the matched employees as its members.
-/

import AccessService.ImpactAnalysis.CoverageLoss
import AccessService.ImpactAnalysis.FullReconciliation
import AccessService.UserGroups.GroupAdministrationEffects

namespace AccessService.ImpactAnalysis

open AccessService.Authorization AccessService.Authorization.AuthorizationReconciliationWorker
open AccessService.Js AccessService.Lib AccessService.Pg AccessService.Persistence
open AccessService.UserGroups AccessService.UserGroups.MembershipReconciler
open AccessService.UserGroups.UserGroupMatchingEngine

/-- The part of a group's job that applies a rule. -/
def applyRule (ctx : Context) (tenantCode : String) (groupId : Uuid) (rule : MatchingRule)
    (version : Nat) : Service GroupPopulationReconciliationResult := do
  let matchedEmployeeIds ← EmployeeReferenceRepository.getMatchedEmployeeIds ctx
    (buildMatchingQuery tenantCode rule)
  reconcileGroupPopulation ctx groupId matchedEmployeeIds version

/-- A job applies the rule that its group has. -/
theorem reconcileMemberships_eq {ctx : WorkerContext} {job : AuthorizationSyncJob}
    (htype : job.source.sourceType = .USER_GROUP) :
    reconcileMemberships ctx job = (do
      let group ← UserGroupRepository.findById ctx.toContext job.source.sourceId
      match group.bind UserGroup.matchingRule with
      | none => pure ()
      | some rule => do
        let _ ← applyRule ctx.toContext job.tenantCode job.source.sourceId rule job.sourceVersion
        pure ()) := by
  unfold reconcileMemberships
  rw [htype]
  refine bind_congr fun group => ?_
  rcases group.bind UserGroup.matchingRule with _ | rule
  · rfl
  · exact (bind_assoc _ _ _).symm

/-- Nothing that a population or its members are read from has changed. -/
structure SamePopulation (db db' : Database) : Prop where
  memberships : db'.memberships = db.memberships
  employees : db'.employees = db.employees

-- ============================================================================
-- Differences
-- ============================================================================

/-- Members who join and leave account for the new number of members. -/
theorem length_add_diff {current matched members : List Uuid} (hcurrent : current.Nodup)
    (hmembers : members.Nodup) (hsame : ∀ id, id ∈ members ↔ id ∈ matched) :
    current.length + (diff (setOf matched) (setOf current)).length =
      members.length + (diff (setOf current) (setOf matched)).length := by
  have hadded : (current ++ diff (setOf matched) (setOf current)).Nodup :=
    List.nodup_append'.mpr ⟨hcurrent, (nodup_setOf _).filter _, fun id hid hadd =>
      (mem_diff_setOf.mp hadd).2 hid⟩
  have hremoved : (members ++ diff (setOf current) (setOf matched)).Nodup :=
    List.nodup_append'.mpr ⟨hmembers, (nodup_setOf _).filter _, fun id hid hleft =>
      (mem_diff_setOf.mp hleft).2 ((hsame id).mp hid)⟩
  have hperm := (List.perm_ext_iff_of_nodup hadded hremoved).mpr fun id => by
    rw [List.mem_append, List.mem_append, mem_diff_setOf, mem_diff_setOf, hsame]
    tauto
  simpa only [List.length_append] using hperm.length_eq

/-- A user is a member of a group once. -/
theorem nodup_membersOf (db : Database) (tenantCode : String) (groupId : Uuid) :
    (db.membersOf tenantCode groupId).Nodup := by
  have hrows : db.memberships.rows.Nodup := by
    have hnodup := db.memberships.nodup
    rwa [List.map_id] at hnodup
  refine List.Nodup.map_on ?_ (hrows.filter _)
  rintro ⟨t, g, u⟩ hm ⟨t', g', u'⟩ hm' huser
  have hkeys := List.of_mem_filter hm
  have hkeys' := List.of_mem_filter hm'
  rw [Bool.and_eq_true, decide_eq_true_eq, decide_eq_true_eq] at hkeys hkeys'
  obtain ⟨rfl, rfl⟩ := hkeys
  obtain ⟨rfl, rfl⟩ := hkeys'
  obtain rfl : u = u' := huser
  rfl

-- ============================================================================
-- The job
-- ============================================================================

variable {ctx : Context} {tenantCode : String} {groupId : Uuid} {rule : MatchingRule}
  {version : Nat} {w w' : World Store Failure} {result : GroupPopulationReconciliationResult}

theorem reconcileGroupPopulation_result {matched : List Uuid}
    (h : reconcileGroupPopulation ctx groupId matched version w = (.ok result, w')) :
    result.addedEmployeeIds =
        diff (setOf matched) (setOf (w.state.db.membersOf ctx.tenantCode groupId)) ∧
      result.removedEmployeeIds =
        diff (setOf (w.state.db.membersOf ctx.tenantCode groupId)) (setOf matched) := by
  simp only [reconcileGroupPopulation, Faulty.bind_ok, Faulty.pure_ok] at h
  obtain ⟨rows, w₀, hfind, _, _, _, _, _, _, _, _, _, _, _, _, rfl, -⟩ := h
  obtain ⟨rfl, -⟩ := (reads_readDb _).ok hfind
  exact ⟨rfl, rfl⟩

/-- What a run that applies a rule has read, and what it leaves. -/
theorem applyRule_ok (h : applyRule ctx tenantCode groupId rule version w = (.ok result, w')) :
    let matched := w.state.db.matchedEmployeeIds ctx.columns (buildMatchingQuery tenantCode rule)
    let members := w.state.db.membersOf ctx.tenantCode groupId
    result.addedEmployeeIds = diff (setOf matched) (setOf members) ∧
      result.removedEmployeeIds = diff (setOf members) (setOf matched) ∧
      (∀ id, id ∈ w'.state.db.membersOf ctx.tenantCode groupId ↔ id ∈ matched) ∧
      w'.state.db.employees = w.state.db.employees := by
  obtain ⟨matched, w₁, hmatch, hrun⟩ := Faulty.bind_ok.mp h
  obtain ⟨rfl, hstate⟩ := (EmployeeReferenceRepository.reads_getMatchedEmployeeIds ctx _).ok hmatch
  obtain ⟨hadded, hremoved⟩ := reconcileGroupPopulation_result hrun
  rw [hstate] at hadded hremoved
  refine ⟨hadded, hremoved, fun id => ?_, ?_⟩
  · rw [Database.mem_membersOf, reconcileGroupPopulation_memberships hrun, GroupMemberships,
      if_pos ⟨rfl, rfl⟩]
  · rw [← hstate]
    exact congrArg Prod.fst (reconcileGroupPopulation_configuration hrun)

/-- Once the members are the matched employees, the rule changes nothing. -/
theorem applyRule_settled
    (hsettled : ∀ id, id ∈ w.state.db.membersOf ctx.tenantCode groupId ↔
      id ∈ w.state.db.matchedEmployeeIds ctx.columns (buildMatchingQuery tenantCode rule))
    (h : applyRule ctx tenantCode groupId rule version w = (.ok result, w')) :
    result.addedEmployeeIds = [] ∧ result.removedEmployeeIds = [] := by
  obtain ⟨hadded, hremoved, -⟩ := applyRule_ok h
  obtain ⟨hjoin, hleave⟩ := diff_nil_iff.mpr fun id => (hsettled id).symm
  rw [hadded, hremoved]
  exact ⟨List.length_eq_zero_iff.mp hjoin, List.length_eq_zero_iff.mp hleave⟩

-- ============================================================================
-- The preview
-- ============================================================================

/-- What the preview counts. -/
theorem estimateCriteriaDiff_ok {ctx : AccessContext} {s : AccessStore} {impact : CriteriaImpact}
    (h : estimateCriteriaDiff ctx s groupId rule = .ok impact) :
    let matched := s.database.matchedEmployeeIds ctx.columns
      (buildMatchingQuery ctx.tenantCode rule)
    let members := s.database.membersOf ctx.tenantCode groupId
    impact.currentCount = members.length ∧
      impact.gainingCount = (diff (setOf matched) (setOf members)).length ∧
      impact.losingCount = (diff (setOf members) (setOf matched)).length := by
  simp only [estimateCriteriaDiff, Sql.bind_eq_ok] at h
  obtain ⟨group, hgroup, keys, -, matched, hmatched, hcounts⟩ := h
  obtain ⟨row, hrow, rfl⟩ := Administration.GroupStore.findRequired_eq_ok.mp hgroup
  obtain ⟨-, -, rfl⟩ := Administration.GroupStore.group_eq_some.mp hrow
  unfold AccessStore.getMatchedEmployeeIds at hmatched
  split at hmatched
  · cases hmatched
  obtain rfl := Except.ok.inj hmatched
  obtain rfl := Except.ok.inj hcounts
  exact ⟨rfl, rfl, rfl⟩

/-- While the members and the employees stay as they were, a job of the rule adds and removes
    as many as the preview shows. It leaves the matched employees as the members, as many as
    the preview's counts make, and a second job of the rule changes nothing. -/
theorem preview_eq_execution {preview : AccessContext} {s : AccessStore} {ctx : Context}
    {groupId : Uuid} {rule : MatchingRule} {version : Nat} {impact : CriteriaImpact}
    {w w' : World Store Failure} {result : GroupPopulationReconciliationResult}
    (htenant : ctx.tenantCode = preview.tenantCode) (hcolumns : ctx.columns = preview.columns)
    (hsame : SamePopulation s.database w.state.db)
    (hpreview : estimateCriteriaDiff preview s groupId rule = .ok impact)
    (hrun : applyRule ctx ctx.tenantCode groupId rule version w = (.ok result, w')) :
    impact.gainingCount = result.addedEmployeeIds.length ∧
      impact.losingCount = result.removedEmployeeIds.length ∧
      (∀ id, id ∈ w'.state.db.membersOf ctx.tenantCode groupId ↔
        id ∈ w.state.db.matchedEmployeeIds ctx.columns
          (buildMatchingQuery ctx.tenantCode rule)) ∧
      (impact.currentCount : ℤ) + impact.gainingCount - impact.losingCount =
        (w'.state.db.membersOf ctx.tenantCode groupId).length ∧
      ∀ {version₂ : Nat} {w₂ w₃ : World Store Failure}
        {result₂ : GroupPopulationReconciliationResult},
        SamePopulation w'.state.db w₂.state.db →
        applyRule ctx ctx.tenantCode groupId rule version₂ w₂ = (.ok result₂, w₃) →
          result₂.addedEmployeeIds = [] ∧ result₂.removedEmployeeIds = [] := by
  obtain ⟨hcurrent, hgaining, hlosing⟩ := estimateCriteriaDiff_ok hpreview
  obtain ⟨hadded, hremoved, hmembers, hemployees⟩ := applyRule_ok hrun
  have hmembersOf : s.database.membersOf = w.state.db.membersOf := by
    funext tenantCode groupId
    rw [Database.membersOf, Database.membersOf, hsame.memberships]
  have hmatched : s.database.matchedEmployeeIds = w.state.db.matchedEmployeeIds := by
    funext types query
    rw [Database.matchedEmployeeIds, Database.matchedEmployeeIds, hsame.employees]
  rw [← htenant, hmembersOf] at hcurrent
  rw [← htenant, ← hcolumns, hmembersOf, hmatched, ← hadded] at hgaining
  rw [← htenant, ← hcolumns, hmembersOf, hmatched, ← hremoved] at hlosing
  refine ⟨hgaining, hlosing, hmembers, ?_, fun {version₂ w₂ w₃ result₂} hkept hsecond => ?_⟩
  · have hlength := length_add_diff (nodup_membersOf w.state.db ctx.tenantCode groupId)
      (nodup_membersOf w'.state.db ctx.tenantCode groupId) hmembers
    rw [← hadded, ← hremoved, ← hcurrent, ← hgaining, ← hlosing] at hlength
    omega
  · refine applyRule_settled (fun id => ?_) hsecond
    rw [Database.membersOf, hkept.memberships, Database.matchedEmployeeIds, hkept.employees,
      hemployees]
    exact hmembers id

/-- The engineering department has one employee, and the administrators' group has another
    user as its member. -/
def engineeringStore : AccessStore where
  administration :=
    { tables := { administratorTables with
        memberships := .single ⟨"acme", sampleGroupId, sampleUserId⟩ }
      constraints := by decide +kernel }
  base := { db := { Database.empty with employees := .single sampleEmployee } }

/-- One employee joins and one user leaves, as the preview says. -/
theorem preview_eq_execution_engineering :
    ∃ result w',
      applyRule acme "acme" sampleGroupId sampleRule 1 (.calm { db := engineeringStore.database }) =
        (.ok result, w') ∧
      1 = result.addedEmployeeIds.length ∧ 1 = result.removedEmployeeIds.length := by
  have hpreview : estimateCriteriaDiff acmePreviews engineeringStore sampleGroupId sampleRule =
      .ok ⟨1, 1, 1, 1⟩ := by decide +kernel
  have hresult : (applyRule acme "acme" sampleGroupId sampleRule 1
      (.calm { db := engineeringStore.database })).1 =
        .ok ⟨sampleGroupId, [sampleEmployeeId], [sampleUserId], 2⟩ := by decide +kernel
  have hrun := Faulty.run_eq hresult
  obtain ⟨hgaining, hlosing, -⟩ := preview_eq_execution rfl rfl ⟨rfl, rfl⟩ hpreview hrun
  exact ⟨_, _, hrun, hgaining, hlosing⟩

end AccessService.ImpactAnalysis
