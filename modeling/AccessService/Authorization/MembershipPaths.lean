/-
  AccessService.Authorization.MembershipPaths

  A user comes to be a member of a group on two paths: a job of the group stores the ids that
  its matching query selects, and a change of an employee's attributes moves the linked user.
  The ids the query selects are those of employees, and they are stored as ids of users: the
  paths agree just where that makes no difference (`paths_agree_iff`).
-/

import AccessService.Authorization.ReconciliationWorker

namespace AccessService.Authorization

open AccessService.Employee AccessService.Lib AccessService.Pg AccessService.Persistence
open AccessService.UserGroups AccessService.UserGroups.UserGroupMatchingEngine

namespace AuthorizationReconciliationWorker

open AuthorizationSyncJobRepository

/-- The tables about people. -/
def people (s : Store) : Keyed User User.id × Keyed EmployeeReference EmployeeReference.id ×
    Keyed UserGroupMembership id :=
  (s.db.users, s.db.employees, s.db.memberships)

variable {ctx : WorkerContext} {id : JobId} {job : AuthorizationSyncJob}
  {w w' : World Store Failure} {u : Unit} {g : UserGroup} {rule : MatchingRule}

-- ============================================================================
-- What a job does to memberships
-- ============================================================================

/-- The group differs at most in its projection version. -/
def SameGroup (tenantCode : String) (groupId : Uuid) (s s' : Store) : Prop :=
  ∀ g, s.db.group tenantCode groupId = some g →
    ∃ version, s'.db.group tenantCode groupId = some { g with projectionVersion := version }

theorem SameGroup.of_basis {tenantCode : String} {groupId : Uuid} {s s' : Store}
    (h : s'.basis = s.basis) : SameGroup tenantCode groupId s s' := by
  intro g hg
  rw [group_of_basis h]
  exact ⟨g.projectionVersion, hg⟩

theorem SameGroup.trans {tenantCode : String} {groupId : Uuid} {s s₁ s' : Store}
    (h : SameGroup tenantCode groupId s s₁) (h' : SameGroup tenantCode groupId s₁ s') :
    SameGroup tenantCode groupId s s' := by
  intro g hg
  obtain ⟨_, hg₁⟩ := h g hg
  obtain ⟨version, hg'⟩ := h' _ hg₁
  exact ⟨version, hg'⟩

theorem updateProjectionVersion_same {ctx : Context} {groupId : Uuid} {version : Nat}
    (h : UserGroupRepository.updateProjectionVersion ctx groupId version w = (.ok u, w')) :
    SameGroup ctx.tenantCode groupId w.state w'.state ∧ people w'.state = people w.state := by
  refine ⟨fun g hg => ⟨version, ?_⟩, ?_⟩
  · rw [UserGroupRepository.updateProjectionVersion_ok h, hg]
    rfl
  · rw [writeDb_ok h]
    rfl

/-- A reconciliation leaves users and employees alone, and the group but for its version. -/
theorem reconcileGroupPopulation_same {ctx : Context} {groupId : Uuid} {matched : List Uuid}
    {version : Nat} {result : GroupPopulationReconciliationResult}
    (h : MembershipReconciler.reconcileGroupPopulation ctx groupId matched version w =
      (.ok result, w')) :
    SameGroup ctx.tenantCode groupId w.state w'.state ∧
      w'.state.db.users = w.state.db.users ∧ w'.state.db.employees = w.state.db.employees := by
  obtain ⟨w₁, ⟨table, hnow, -⟩, ⟨hnone, hstate⟩ | ⟨-, w₂, u, hloop, hupdate⟩⟩ :=
    MembershipReconciler.reconcileGroupPopulation_ok h
  · rw [hstate, hnow]
    exact ⟨fun g hg => ⟨g.projectionVersion, hg⟩, rfl, rfl⟩
  · have hbasis := (Faulty.leaves_forEach
      (MembershipReconciler.reconcileAffected_leaves ctx) _).ok hloop
    obtain ⟨hsame, hpeople⟩ := updateProjectionVersion_same hupdate
    have hfirst : SameGroup ctx.tenantCode groupId w.state w₁.state := by
      rw [hnow]
      exact fun g hg => ⟨g.projectionVersion, hg⟩
    refine ⟨hfirst.trans ((SameGroup.of_basis hbasis).trans hsame), ?_, ?_⟩
    · have husers : w₁.state.db.users = w.state.db.users := by rw [hnow]
      exact (congrArg Prod.fst hpeople).trans ((congrArg Prod.fst hbasis).trans husers)
    · have hemployees : w₁.state.db.employees = w.state.db.employees := by rw [hnow]
      exact (congrArg (fun p => p.2.1) hpeople).trans
        ((congrArg (fun basis => basis.2.1) hbasis).trans hemployees)

/-- The last transaction of a group's job. -/
theorem finalizeJob_same {processed : Nat} (htype : job.source.sourceType = .USER_GROUP)
    (h : finalizeJob ctx id job processed w = (.ok u, w')) :
    SameGroup ctx.tenantCode job.source.sourceId w.state w'.state ∧
      people w'.state = people w.state := by
  rw [finalizeJob, runInTransaction, Faulty.transaction_ok] at h
  simp only [Faulty.bind_ok, advanceProjection, htype] at h
  obtain ⟨u₁, w₁, hadvance, u₂, w₂, hcompleted, hevent⟩ := h
  obtain ⟨hsame, hpeople⟩ := updateProjectionVersion_same hadvance
  have hbasis := (update_leaves id _).ok hcompleted
  have hlast : w'.state.basis = w₂.state.basis := by
    rw [writeDb_ok hevent]
    rfl
  refine ⟨hsame.trans (SameGroup.of_basis (hlast.trans hbasis)), ?_⟩
  exact (congrArg (fun basis => (basis.1, basis.2.1, basis.2.2.2.2.2))
    (hlast.trans hbasis)).trans hpeople

/-- A completed job of a group with a rule has made the selected ids its members. -/
theorem executeJob_memberships (hrun : executeJob ctx id job w = (.ok u, w'))
    (htype : job.source.sourceType = .USER_GROUP)
    (hgroup : w.state.db.group ctx.tenantCode job.source.sourceId = some g)
    (hrule : g.matchingRule = some rule) :
    SameGroup ctx.tenantCode job.source.sourceId w.state w'.state ∧
      w'.state.db.users = w.state.db.users ∧ w'.state.db.employees = w.state.db.employees ∧
      ∀ userId, ⟨ctx.tenantCode, job.source.sourceId, userId⟩ ∈ w'.state.db.memberships.rows ↔
        userId ∈ w.state.db.matchedEmployeeIds ctx.columns
          (buildMatchingQuery job.tenantCode rule) := by
  simp only [executeJob, Faulty.bind_ok] at hrun
  obtain ⟨total, w₁, hprepare, processed, w₂, hbatches, hfinal⟩ := hrun
  have hloop := (processBatches_leaves ctx id job total total 0).ok hbatches
  obtain ⟨hsame₃, hpeople₃⟩ := finalizeJob_same htype hfinal
  have hpeople : people w'.state = people w₁.state :=
    hpeople₃.trans (congrArg (fun basis => (basis.1, basis.2.1, basis.2.2.2.2.2)) hloop)
  obtain ⟨hnot, -⟩ | ⟨g', rule', w₀, result, -, hg', hrule', hbasis, hpopulation⟩ :=
    prepareJob_cases hprepare
  · exact absurd ⟨htype, g, rule, hgroup, hrule⟩ hnot
  obtain rfl := Option.some.inj (hgroup.symm.trans hg')
  obtain rfl := Option.some.inj (hrule.symm.trans hrule')
  obtain ⟨hsame, husers, hemployees⟩ := reconcileGroupPopulation_same hpopulation
  refine ⟨((SameGroup.of_basis hbasis).trans hsame).trans
    ((SameGroup.of_basis hloop).trans hsame₃), ?_, ?_, fun userId => ?_⟩
  · exact (congrArg Prod.fst hpeople).trans (husers.trans (congrArg Prod.fst hbasis))
  · exact (congrArg (fun p => p.2.1) hpeople).trans
      (hemployees.trans (congrArg (fun basis => basis.2.1) hbasis))
  · have hmemberships : w'.state.db.memberships = w₁.state.db.memberships :=
      congrArg (fun p => p.2.2) hpeople
    rw [hmemberships, MembershipReconciler.reconcileGroupPopulation_memberships hpopulation,
      MembershipReconciler.GroupMemberships, if_pos ⟨rfl, rfl⟩]

-- ============================================================================
-- The two paths
-- ============================================================================

/-- The user is ACTIVE and linked to the employee. -/
structure LinkedTo (db : Database) (tenantCode : String) (user : User) (e : EmployeeReference) :
    Prop where
  userStored : user ∈ db.users.rows
  tenant : user.tenantCode = tenantCode
  active : user.status = .ACTIVE
  employeeStored : e ∈ db.employees.rows
  employeeTenant : e.tenantCode = tenantCode
  link : user.employeeRefId = some e.id

/-- For every linked user the job has stored a membership just where the rule matches the
    employee, and a change of the employee's attributes leaves it as it is. -/
def PathsAgree (ctx : Context) (groupId : Uuid) (rule : MatchingRule) (before after : Store) :
    Prop :=
  ∀ user e, LinkedTo before.db ctx.tenantCode user e →
    (groupId ∈ groupsOf after.db ctx.tenantCode user.id ↔ evaluate rule e = true) ∧
    ∀ tenantCode keys faults u w',
      EmployeeAttributePropagationService.handleEmployeeAttributeChange ctx tenantCode e.id keys
        ⟨after, faults⟩ = (.ok u, w') →
      (groupId ∈ groupsOf w'.state.db ctx.tenantCode user.id ↔
        groupId ∈ groupsOf after.db ctx.tenantCode user.id)

/-- An ACTIVE group with a rule is among the matching groups just where its rule matches. -/
theorem mem_groupsMatching {db : Database} {tenantCode : String} {e : EmployeeReference}
    (hgroup : db.group tenantCode g.id = some g) (hactive : g.status = .ACTIVE)
    (hrule : g.matchingRule = some rule) :
    g.id ∈ EmployeeAttributePropagationService.groupsMatching db tenantCode e ↔
      evaluate rule e = true := by
  obtain ⟨hmem, htenant, -⟩ := Database.group_eq_some.mp hgroup
  constructor
  · rintro ⟨g', hmem', -, -, hid, rule', hrule', hmatches⟩
    obtain rfl := db.groups.row_unique hmem' hmem hid
    obtain rfl := Option.some.inj (hrule.symm.trans hrule')
    exact hmatches
  · exact fun hmatches => ⟨g, hmem, htenant, hactive, rfl, rule, hrule, hmatches⟩

/-- The two paths agree exactly if, for every linked user, the rule matches an employee with
    the id of the user just where it matches the employee of the user. -/
theorem paths_agree_iff (hrun : executeJob ctx id job w = (.ok u, w'))
    (htype : job.source.sourceType = .USER_GROUP) (htenant : job.tenantCode = ctx.tenantCode)
    (hgroup : w.state.db.group ctx.tenantCode job.source.sourceId = some g)
    (hactive : g.status = .ACTIVE) (hrule : g.matchingRule = some rule)
    (hsql : ∀ e ∈ w.state.db.employees.rows,
      (buildMatchingQuery job.tenantCode rule).Selects ctx.columns e ↔
        e.tenantCode = job.tenantCode ∧ evaluate rule e = true) :
    PathsAgree ctx.toContext job.source.sourceId rule w.state w'.state ↔
      ∀ user e, LinkedTo w.state.db ctx.tenantCode user e →
        ((∃ e' ∈ w.state.db.employees.rows,
            e'.tenantCode = ctx.tenantCode ∧ e'.id = user.id ∧ evaluate rule e' = true) ↔
          evaluate rule e = true) := by
  obtain ⟨hsame, husers, hemployees, hmembers⟩ := executeJob_memberships hrun htype hgroup hrule
  have hmember : ∀ user : User,
      job.source.sourceId ∈ groupsOf w'.state.db ctx.tenantCode user.id ↔
        ∃ e' ∈ w.state.db.employees.rows,
          e'.tenantCode = ctx.tenantCode ∧ e'.id = user.id ∧ evaluate rule e' = true := by
    intro user
    refine (hmembers user.id).trans (Database.mem_matchedEmployeeIds.trans ?_)
    refine exists_congr fun e' => and_congr_right fun hmem => ?_
    rw [hsql e' hmem, htenant]
    tauto
  refine forall_congr' fun user => forall_congr' fun e => forall_congr' fun hlinked => ?_
  rw [hmember]
  refine and_iff_left_of_imp fun hmatches tenantCode keys faults v w₂ hchange => ?_
  rcases EmployeeAttributePropagationService.handleEmployeeAttributeChange_cases hchange with
    ⟨hstate, -⟩ | ⟨e', user', w₁, result, he', -, hstate, hreconcile⟩
  · rw [hstate]
    exact hmember user
  · by_cases hmine : user'.id = user.id
    · -- the linked user is moved into the groups that match the employee
      obtain ⟨version, hg'⟩ := hsame g hgroup
      have hid := (Database.group_eq_some.mp hgroup).2.2
      obtain ⟨hrow, -, heid⟩ := Database.employee_eq_some.mp he'
      rw [hemployees] at hrow
      obtain rfl := w.state.db.employees.row_unique hrow hlinked.employeeStored heid
      have hgroups := MembershipReconciler.reconcileSingleUser_groups hreconcile
      rw [hmine, EmployeeAttributePropagationService.matchingGroupIds_eq] at hgroups
      rw [← hid] at hg'
      rw [hgroups, ← hid]
      exact (mem_groupsMatching (g := { g with projectionVersion := version }) hg' hactive
        hrule).trans hmatches.symm
    · have helse := (MembershipReconciler.reconcileSingleUser_elsewhere hreconcile).2
        ctx.tenantCode user.id fun hkey => hmine hkey.2.symm
      rw [helse, hstate]
      exact hmember user

-- ============================================================================
-- One user, with the employee's id or with one of their own
-- ============================================================================

def departmentJob : AuthorizationSyncJob where
  tenantCode := "acme"
  source := ⟨.USER_GROUP, sampleGroupId⟩
  sourceVersion := 1
  triggerType := .MANUAL
  priority := .STANDARD
  status := .PROCESSING
  createdBy := none
  createdAt := 0
  updatedAt := 0

/-- The job has been claimed; the user of the sample has this id. -/
def departmentWorld (userId : Uuid) : World Store Failure where
  state := { db := { sampleDatabase false .empty with
    users := ⟨[{ sampleUser with id := userId }], List.nodup_singleton _⟩
    jobs := [departmentJob] } }
  faults := []

def departmentEnd (userId : Uuid) : World Store Failure :=
  (executeJob acmeWorker 0 departmentJob (departmentWorld userId)).2

theorem departmentGroup (userId : Uuid) :
    (departmentWorld userId).state.db.group "acme" sampleGroupId = some sampleUserGroup :=
  Database.group_eq_some.mpr ⟨List.mem_singleton_self _, rfl, rfl⟩

theorem departmentSql (userId : Uuid) : ∀ e ∈ (departmentWorld userId).state.db.employees.rows,
    (buildMatchingQuery departmentJob.tenantCode sampleRule).Selects acmeWorker.columns e ↔
      e.tenantCode = departmentJob.tenantCode ∧ evaluate sampleRule e = true := by
  intro e he
  obtain rfl := List.mem_singleton.mp he
  decide +kernel

theorem linkedTo_department {userId : Uuid} {user : User} {e : EmployeeReference}
    (h : LinkedTo (departmentWorld userId).state.db "acme" user e) :
    user = { sampleUser with id := userId } ∧ e = sampleEmployee :=
  ⟨List.mem_singleton.mp h.userStored, List.mem_singleton.mp h.employeeStored⟩

theorem paths_agree_department :
    PathsAgree acme sampleGroupId sampleRule (departmentWorld sampleEmployeeId).state
      (departmentEnd sampleEmployeeId).state := by
  have hrun : executeJob acmeWorker 0 departmentJob (departmentWorld sampleEmployeeId) =
      (.ok (), departmentEnd sampleEmployeeId) :=
    Faulty.run_eq (by decide +kernel)
  refine (paths_agree_iff hrun rfl rfl (departmentGroup sampleEmployeeId) rfl rfl
    (departmentSql sampleEmployeeId)).mpr fun user e hlinked => ?_
  obtain ⟨rfl, rfl⟩ := linkedTo_department hlinked
  have hmatches : evaluate sampleRule sampleEmployee = true := by decide +kernel
  exact iff_of_true ⟨sampleEmployee, List.mem_singleton_self _, rfl, rfl, hmatches⟩ hmatches

/-- The employee matches, and what is stored is a membership of a user who is not there. -/
theorem not_paths_agree :
    ¬∀ (ctx : WorkerContext) (id : JobId) (job : AuthorizationSyncJob) (w w' : World Store Failure)
      (u : Unit) (g : UserGroup) (rule : MatchingRule), executeJob ctx id job w = (.ok u, w') →
      job.source.sourceType = .USER_GROUP → job.tenantCode = ctx.tenantCode →
      w.state.db.group ctx.tenantCode job.source.sourceId = some g → g.status = .ACTIVE →
      g.matchingRule = some rule →
      (∀ e ∈ w.state.db.employees.rows,
        (buildMatchingQuery job.tenantCode rule).Selects ctx.columns e ↔
          e.tenantCode = job.tenantCode ∧ evaluate rule e = true) →
      PathsAgree ctx.toContext job.source.sourceId rule w.state w'.state := by
  intro h
  have hrun : executeJob acmeWorker 0 departmentJob (departmentWorld sampleUserId) =
      (.ok (), departmentEnd sampleUserId) :=
    Faulty.run_eq (by decide +kernel)
  have hagree := h acmeWorker 0 departmentJob _ (departmentEnd sampleUserId) () sampleUserGroup
    sampleRule hrun rfl rfl
    (departmentGroup sampleUserId) rfl rfl (departmentSql sampleUserId)
  have hlinked : LinkedTo (departmentWorld sampleUserId).state.db "acme" sampleUser
      sampleEmployee :=
    ⟨List.mem_singleton_self _, rfl, rfl, List.mem_singleton_self _, rfl, rfl⟩
  have hmember : (⟨"acme", sampleGroupId, sampleUserId⟩ : UserGroupMembership) ∈
      (departmentEnd sampleUserId).state.db.memberships.rows :=
    (hagree sampleUser sampleEmployee hlinked).1.mpr (by decide +kernel)
  have hrows : (departmentEnd sampleUserId).state.db.memberships.rows =
      [⟨"acme", sampleGroupId, sampleEmployeeId⟩] := by
    decide +kernel
  rw [hrows] at hmember
  exact absurd (List.mem_singleton.mp hmember) (by decide)

end AuthorizationReconciliationWorker

end AccessService.Authorization
