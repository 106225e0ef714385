/-
  AccessService.UserGroups.RequestedRoles

  Whether `create` and `updateById` store the roles they are asked for, when their checks
  let them through.

  Both insert one assignment for each id that the list has and the group has not, as often
  as the list has it.
-/

import AccessService.UserGroups.GroupAdministrationEffects

namespace AccessService.UserGroups.Administration

open AccessService.Js AccessService.Lib AccessService.Pg AccessService.Persistence
open AccessService.Roles (StoredRole)
open GroupStore

variable {ctx : GroupContext} {s : GroupStore} {id : Uuid} {row : UserGroupRow}

-- ============================================================================
-- Requests
-- ============================================================================

/-- The columns are wide enough. -/
def Fits (name : String) (scopeRefId : Option String) : Prop :=
  name.length ≤ 150 ∧ (scopeRefId.getD "").length ≤ 100

instance (name : String) (scopeRefId : Option String) : Decidable (Fits name scopeRefId) :=
  inferInstanceAs (Decidable (_ ∧ _))

/-- `create` gets to its transaction, and the ids that the database generates are new. -/
structure AcceptedCreate (ctx : GroupContext) (s : GroupStore) (newId : Uuid)
    (dto : CreateUserGroupDto) (row : UserGroupRow) : Prop where
  name : UserGroupLifecycleService.validateName ctx s dto.name = .ok ()
  created : UserGroupAggregate.create newId (dto.props ctx) = .ok row
  fits : Fits (trim dto.name) (dto.scopeRefId.map trim)
  newId : newId ∉ s.tables.groups.rows.map primaryKey
  freshKeys : s.FreshKeys (dto.roleIds.getD []).length

/-- The checks of `updateById` let the request through to its transaction. -/
structure PassesUpdate (ctx : GroupContext) (s : GroupStore) (id : Uuid)
    (dto : UpdateUserGroupDto) (expectedVersion : Int) (row : UserGroupRow) : Prop where
  found : s.group ctx.tenantCode id = some row
  version : checkVersion (.load row) expectedVersion = .ok ()
  name : checkName (.load row) dto.name
    { findByName := s.findByName ctx.tenantCode (trim dto.name) } = .ok ()
  rule : ∃ keys, ruleKeys dto.matchingRule = .ok keys
  confirmed : checkImpact { memberCount := s.countByGroup ctx.tenantCode id }
    (dto.confirmed = some true) = .ok ()

/-- So does `updateById`. -/
structure AcceptedUpdate (ctx : GroupContext) (s : GroupStore) (id : Uuid)
    (dto : UpdateUserGroupDto) (expectedVersion : Int) (row : UserGroupRow) : Prop where
  found : s.group ctx.tenantCode id = some row
  version : checkVersion (.load row) expectedVersion = .ok ()
  name : checkName (.load row) dto.name
    { findByName := s.findByName ctx.tenantCode (trim dto.name) } = .ok ()
  rule : ∃ keys, ruleKeys dto.matchingRule = .ok keys
  confirmed : checkImpact { memberCount := s.countByGroup ctx.tenantCode id }
    (dto.confirmed = some true) = .ok ()
  fits : Fits (trim dto.name) (dto.scopeRefId.map trim)
  freshKeys : s.FreshKeys (dto.roleIds.getD []).length

inductive RoleSetRequest where
  | create (newId : Uuid) (dto : CreateUserGroupDto)
  | updateById (id : Uuid) (dto : UpdateUserGroupDto) (expectedVersion : Int)

namespace RoleSetRequest

def groupId : RoleSetRequest → Uuid
  | .create newId _ => newId
  | .updateById id _ _ => id

def roleIds : RoleSetRequest → List Uuid
  | .create _ dto => dto.roleIds.getD []
  | .updateById _ dto _ => dto.roleIds.getD []

def run (ctx : GroupContext) (s : GroupStore) :
    RoleSetRequest → Except UserGroupError (UserGroupEntity × GroupStore)
  | .create newId dto => UserGroupLifecycleService.create ctx s newId dto
  | .updateById id dto expectedVersion =>
    UserGroupLifecycleService.updateById ctx s id dto expectedVersion

def Accepted (ctx : GroupContext) (s : GroupStore) : RoleSetRequest → Prop
  | .create newId dto => ∃ row, AcceptedCreate ctx s newId dto row
  | .updateById id dto expectedVersion => ∃ row, AcceptedUpdate ctx s id dto expectedVersion row

end RoleSetRequest

/-- The roles that the events report as new to the group. -/
def newRoles (events : List UserGroupEvent) : List Uuid :=
  events.flatMap fun
    | .created _ roleIds => roleIds
    | .updated _ addedRoleIds _ => addedRoleIds
    | _ => []

/-- The roles that the events report as removed from it. -/
def oldRoles (events : List UserGroupEvent) : List Uuid :=
  events.flatMap fun
    | .updated _ _ removedRoleIds => removedRoleIds
    | _ => []

/-- The request returns; the group has the roles asked for, each once, and the events report
    the difference to those it had. -/
def StoresRoles (ctx : GroupContext) (s : GroupStore) (request : RoleSetRequest) : Prop :=
  ∃ entity s', request.run ctx s = .ok (entity, s') ∧
    (s'.assignedRoleIds ctx.tenantCode request.groupId).Nodup ∧
    (∀ roleId, roleId ∈ s'.assignedRoleIds ctx.tenantCode request.groupId ↔
      roleId ∈ request.roleIds) ∧
    (∀ roleId, roleId ∈ newRoles (s'.outbox.drop s.outbox.length) ↔
      roleId ∈ request.roleIds ∧ roleId ∉ s.assignedRoleIds ctx.tenantCode request.groupId) ∧
    ∀ roleId, roleId ∈ oldRoles (s'.outbox.drop s.outbox.length) ↔
      roleId ∈ s.assignedRoleIds ctx.tenantCode request.groupId ∧ roleId ∉ request.roleIds

/-- The roles asked for exist, and those that the group does not have are listed once. -/
def Assignable (ctx : GroupContext) (s : GroupStore) (request : RoleSetRequest) : Prop :=
  (request.roleIds.filter fun roleId =>
    roleId ∉ s.assignedRoleIds ctx.tenantCode request.groupId).Nodup ∧
    ∀ roleId ∈ request.roleIds, roleId ∈ s.tables.roles.rows.map StoredRole.id

/-- The last thing a request does is to publish its events. -/
theorem storesRoles_of_publish {request : RoleSetRequest} {entity : UserGroupEntity}
    {s₁ : GroupStore} {events : List UserGroupEvent}
    (hrun : request.run ctx s = .ok (entity, s₁.publish events)) (houtbox : s₁.outbox = s.outbox)
    (hassigned : ∀ roleId, roleId ∈ s₁.assignedRoleIds ctx.tenantCode request.groupId ↔
      roleId ∈ request.roleIds)
    (hnew : ∀ roleId, roleId ∈ newRoles events ↔ roleId ∈ request.roleIds ∧
      roleId ∉ s.assignedRoleIds ctx.tenantCode request.groupId)
    (hold : ∀ roleId, roleId ∈ oldRoles events ↔
      roleId ∈ s.assignedRoleIds ctx.tenantCode request.groupId ∧ roleId ∉ request.roleIds) :
    StoresRoles ctx s request := by
  have hevents : (s₁.publish events).outbox.drop s.outbox.length = events := by
    rw [publish, houtbox, List.drop_left]
  refine ⟨entity, _, hrun, nodup_assignedRoleIds, hassigned, ?_, ?_⟩
  · rw [hevents]
    exact hnew
  · rw [hevents]
    exact hold

-- ============================================================================
-- Names
-- ============================================================================

/-- Whoever has a name is found by it. -/
theorem findByName_of_mem {tenantCode name : String} {other : UserGroupRow}
    (hother : other ∈ s.tables.groups.rows) (htenant : other.tenantCode = tenantCode)
    (hname : other.name = name) : s.findByName tenantCode name = some other.id := by
  have hfind : s.tables.groups.rows.find?
      (fun g => g.tenantCode = tenantCode && g.name = name) = some other := by
    rcases hfind : s.tables.groups.rows.find?
        (fun g => g.tenantCode = tenantCode && g.name = name) with _ | g
    · exact absurd (by simp [htenant, hname]) (List.find?_eq_none.mp hfind other hother)
    · have hg := List.find?_some hfind
      rw [Bool.and_eq_true, decide_eq_true_eq, decide_eq_true_eq] at hg
      have hsame : g = other :=
        List.inj_on_of_nodup_map s.constraints.uq_user_groups_tenant_name
          (List.mem_of_find?_eq_some hfind) hother
          (Prod.ext (hg.1.trans htenant.symm) (hg.2.trans hname.symm))
      exact hfind.trans (congrArg some hsame)
  rw [findByName, hfind]
  rfl

theorem validateName_ok {name : String}
    (h : UserGroupLifecycleService.validateName ctx s name = .ok ()) {other : UserGroupRow}
    (hother : other ∈ s.tables.groups.rows) (htenant : other.tenantCode = ctx.tenantCode) :
    other.name ≠ trim name := by
  intro hname
  rw [UserGroupLifecycleService.validateName, findByName_of_mem hother htenant hname] at h
  cases h

theorem checkName_ok {name : String} (hrow : s.group ctx.tenantCode id = some row)
    (h : checkName (.load row) name { findByName := s.findByName ctx.tenantCode (trim name) } =
      .ok ()) {other : UserGroupRow} (hother : other ∈ s.tables.groups.rows)
    (htenant : other.tenantCode = ctx.tenantCode) (hname : other.name = trim name) :
    other.id = id := by
  obtain ⟨hmem, hrowTenant, hid⟩ := group_eq_some.mp hrow
  unfold checkName at h
  split at h
  · rw [findByName_of_mem hother htenant hname] at h
    simp only at h
    split at h
    · cases h
    next hsame => exact (not_not.mp hsame).trans hid
  next hsame =>
    have hkey : (other.tenantCode, other.name) = (row.tenantCode, row.name) :=
      Prod.ext (htenant.trans hrowTenant.symm) (hname.trans (not_not.mp hsame))
    rw [List.inj_on_of_nodup_map s.constraints.uq_user_groups_tenant_name hother hmem hkey, hid]

-- ============================================================================
-- Creation
-- ============================================================================

/-- An accepted creation inserts the group, and goes on with its assignments. -/
theorem AcceptedCreate.run_eq {newId : Uuid} {dto : CreateUserGroupDto}
    (h : AcceptedCreate ctx s newId dto row) :
    ∃ s₁, s.create row = .ok s₁ ∧ UserGroupLifecycleService.create ctx s newId dto =
      (s₁.bulkSave ctx.tenantCode row.id (dto.roleIds.getD [])).map fun s₂ =>
        (.load row, s₂.publish [.created (ctx.audit (.load row)) (dto.roleIds.getD []),
          ctx.syncEvent (.load row) false]) := by
  obtain ⟨hid, htenant, hname, -, href⟩ := aggregateCreate_ok h.created
  have hruns : ∃ s₁, s.create row = .ok s₁ := by
    refine create_runs (by rw [hid]; exact h.newId) (fun other hother htenant' => ?_)
      (by rw [hname, href]; exact h.fits)
    rw [hname]
    exact validateName_ok h.name hother (htenant'.trans htenant)
  obtain ⟨s₁, hcreate⟩ := hruns
  refine ⟨s₁, hcreate, ?_⟩
  rw [UserGroupLifecycleService.create, h.name, h.created]
  show (s.create row >>= _) = _
  rw [hcreate]
  rfl

theorem create_storesRoles_iff {newId : Uuid} {dto : CreateUserGroupDto}
    (h : AcceptedCreate ctx s newId dto row) :
    StoresRoles ctx s (.create newId dto) ↔ Assignable ctx s (.create newId dto) := by
  obtain ⟨rfl, -, -, -, -⟩ := aggregateCreate_ok h.created
  obtain ⟨s₁, hcreate, hrun⟩ := h.run_eq
  obtain ⟨houtbox, hroles, hkeys, hrows, hgroups, hnone⟩ := create_ok hcreate
  have hprevious : s.assignedRoleIds ctx.tenantCode row.id = [] := by
    rw [assignedRoleIds, hnone]
    rfl
  have hnone₁ : s₁.findByGroup ctx.tenantCode row.id = [] := by
    rw [findByGroup, hrows]
    exact hnone ctx.tenantCode
  have hassignable : (∃ s₂, s₁.bulkSave ctx.tenantCode row.id (dto.roleIds.getD []) = .ok s₂) ↔
      Assignable ctx s (.create row.id dto) := by
    have hfresh : s₁.FreshKeys (dto.roleIds.getD []).length := by
      rw [FreshKeys, hrows, hkeys]
      exact h.freshKeys
    have hmem : row.id ∈ s₁.tables.groups.rows.map primaryKey := by
      rw [hgroups, List.map_append]
      exact List.mem_append_right _ List.mem_cons_self
    rw [bulkSave_runs_iff hfresh hmem, hroles, Assignable, RoleSetRequest.groupId, hprevious]
    simp [RoleSetRequest.roleIds, assignedRoleIds, hnone₁]
  rw [← hassignable]
  constructor
  · rintro ⟨entity, s', hok, -⟩
    rw [RoleSetRequest.run, hrun] at hok
    obtain ⟨s₂, hbulk, -⟩ := Sql.map_eq_ok.mp hok
    exact ⟨s₂, hbulk⟩
  · rintro ⟨s₂, hbulk⟩
    obtain ⟨hedit, -, hrows₂⟩ := bulkSave_ok hbulk
    have hassigned : s₂.assignedRoleIds ctx.tenantCode row.id = dto.roleIds.getD [] := by
      rw [assignedRoleIds, hrows₂, hnone₁, List.nil_append, newRows_roleIds]
    rw [hbulk] at hrun
    refine storesRoles_of_publish hrun (hedit.outbox.trans houtbox) (fun roleId => ?_)
      (fun roleId => ?_) fun roleId => ?_
    · rw [RoleSetRequest.groupId, hassigned]
      rfl
    · rw [RoleSetRequest.groupId, hprevious]
      simp [newRoles, GroupContext.syncEvent, RoleSetRequest.roleIds]
    · rw [RoleSetRequest.groupId, hprevious]
      simp [oldRoles, GroupContext.syncEvent]

-- ============================================================================
-- Edits
-- ============================================================================

/-- The change of an accepted edit, with the keys of its rule. -/
def editChange (ctx : GroupContext) (s : GroupStore) (id : Uuid) (dto : UpdateUserGroupDto)
    (row : UserGroupRow) (keys : List String) : Change where
  entity :=
    { UserGroupEntity.load row with
      name := trim dto.name
      description := .ofOptional (dto.description.map trim)
      scopeType := dto.scopeType
      scopeRefId := .ofOptional (dto.scopeRefId.map trim)
      matchingRule := some dto.matchingRule
      ruleAttributeKeys := keys
      version := row.version + 1
      updatedBy := .ofOptional ctx.userId }
  removedRoleIds := (s.assignedRoleIds ctx.tenantCode id).filter fun roleId =>
    roleId ∉ dto.roleIds.getD []
  addedRoleIds := (dto.roleIds.getD []).filter fun roleId =>
    roleId ∉ s.assignedRoleIds ctx.tenantCode id

/-- An edit that passes its checks goes on with its transaction. -/
theorem PassesUpdate.run_eq {dto : UpdateUserGroupDto} {expectedVersion : Int}
    (h : PassesUpdate ctx s id dto expectedVersion row) :
    ∃ keys, UserGroupLifecycleService.updateById ctx s id dto expectedVersion =
      (s.writeChange ctx.tenantCode (editChange ctx s id dto row keys)).map fun s₁ =>
        let change := editChange ctx s id dto row keys
        (change.entity, s₁.publish
          [.updated (ctx.audit change.entity) change.addedRoleIds change.removedRoleIds,
            ctx.syncEvent change.entity false]) := by
  obtain ⟨keys, hkeys⟩ := h.rule
  have hchange : UserGroups.UserGroupLifecycleService.updateById dto ctx.userId (.load row)
      (s.assignedRoleIds ctx.tenantCode id) = .ok (editChange ctx s id dto row keys) := by
    rw [UserGroups.UserGroupLifecycleService.updateById, hkeys]
    rfl
  have hfind : s.findRequired ctx.tenantCode id = .ok (.load row) :=
    findRequired_eq_ok.mpr ⟨row, h.found, rfl⟩
  refine ⟨keys, ?_⟩
  unfold UserGroupLifecycleService.updateById
  simp only [hfind, hkeys, hchange, h.version, h.name, h.confirmed, bind, Except.bind]
  rcases s.writeChange ctx.tenantCode (editChange ctx s id dto row keys) with e | s₁
  · rfl
  · rfl

/-- A request that returns has passed the checks. -/
theorem updateById_passes {dto : UpdateUserGroupDto} {expectedVersion : Int}
    {entity : UserGroupEntity} {s' : GroupStore}
    (h : UserGroupLifecycleService.updateById ctx s id dto expectedVersion = .ok (entity, s')) :
    ∃ row, PassesUpdate ctx s id dto expectedVersion row := by
  obtain ⟨existing, hfind, h⟩ := Sql.bind_eq_ok.mp h
  obtain ⟨u, hversion, h⟩ := Sql.bind_eq_ok.mp h
  obtain ⟨v, hname, h⟩ := Sql.bind_eq_ok.mp h
  obtain ⟨keys, hkeys, h⟩ := Sql.bind_eq_ok.mp h
  obtain ⟨x, hconfirmed, -⟩ := Sql.bind_eq_ok.mp h
  obtain ⟨row, hrow, rfl⟩ := findRequired_eq_ok.mp hfind
  exact ⟨row, hrow, hversion, hname, ⟨keys, hkeys⟩, hconfirmed⟩

theorem AcceptedUpdate.passes {dto : UpdateUserGroupDto} {expectedVersion : Int}
    (h : AcceptedUpdate ctx s id dto expectedVersion row) :
    PassesUpdate ctx s id dto expectedVersion row :=
  ⟨h.found, h.version, h.name, h.rule, h.confirmed⟩

theorem updateById_storesRoles_iff {dto : UpdateUserGroupDto} {expectedVersion : Int}
    (h : AcceptedUpdate ctx s id dto expectedVersion row) :
    StoresRoles ctx s (.updateById id dto expectedVersion) ↔
      Assignable ctx s (.updateById id dto expectedVersion) := by
  obtain ⟨keys, hrun⟩ := h.passes.run_eq
  let change := editChange ctx s id dto row keys
  obtain ⟨hmem, htenant, hid⟩ := group_eq_some.mp h.found
  have hadded : ∀ roleId, roleId ∈ change.addedRoleIds ↔ roleId ∈ dto.roleIds.getD [] ∧
      roleId ∉ s.assignedRoleIds ctx.tenantCode id := by simp [change, editChange]
  have hremoved : ∀ roleId, roleId ∈ change.removedRoleIds ↔
      roleId ∈ s.assignedRoleIds ctx.tenantCode id ∧ roleId ∉ dto.roleIds.getD [] := by
    simp [change, editChange]
  have hsave : ∃ s₁, s.save change.entity = .ok s₁ := by
    refine save_runs h.found hid htenant
      (fun other hother htenant' hname => checkName_ok h.found h.name hother htenant' hname)
      ⟨h.fits.1, ?_⟩
    show (((Column.ofOptional (dto.scopeRefId.map trim)).write row.scopeRefId).getD "").length ≤ 100
    have hfits := h.fits.2
    rcases hgiven : dto.scopeRefId.map trim with _ | refId
    · exact (s.constraints.width row hmem).2
    · rw [hgiven] at hfits
      exact hfits
  have hfresh : s.FreshKeys change.addedRoleIds.length :=
    h.freshKeys.mono (List.length_filter_le _ _)
  have hassignable : (∃ s₁, s.writeChange ctx.tenantCode change = .ok s₁) ↔
      Assignable ctx s (.updateById id dto expectedVersion) := by
    rw [writeChange_runs_iff h.found hfresh hid htenant hsave]
    refine and_congr Iff.rfl ⟨fun ⟨hroles, _⟩ roleId hasked => ?_, fun hroles => ⟨?_, ?_⟩⟩
    · by_cases hassigned : roleId ∈ s.assignedRoleIds ctx.tenantCode id
      · exact mem_roles_of_assigned hassigned
      · exact hroles roleId ((hadded roleId).mpr ⟨hasked, hassigned⟩)
    · exact fun roleId hrole => hroles roleId ((hadded roleId).mp hrole).1
    · exact fun roleId hrole hassigned => absurd hassigned ((hadded roleId).mp hrole).2
  rw [← hassignable]
  constructor
  · rintro ⟨entity, s', hok, -⟩
    rw [RoleSetRequest.run, hrun] at hok
    obtain ⟨s₁, hwrite, -⟩ := Sql.map_eq_ok.mp hok
    exact ⟨s₁, hwrite⟩
  · rintro ⟨s₁, hwrite⟩
    obtain ⟨hedit, -, hrows⟩ := writeChange_ok h.found hid htenant hwrite
    have hassigned := assignedRoleIds_of_rows hrows
    rw [hwrite] at hrun
    refine storesRoles_of_publish hrun hedit.outbox (fun roleId => ?_) (fun roleId => ?_)
      fun roleId => ?_
    · rw [RoleSetRequest.groupId, RoleSetRequest.roleIds, hassigned, List.mem_append,
        List.mem_filter, decide_eq_true_eq, hadded, hremoved]
      by_cases hasked : roleId ∈ dto.roleIds.getD []
      · simp [hasked, Classical.em]
      · simp [hasked]
    · refine Iff.trans (iff_of_eq (congrArg (roleId ∈ ·) ?_)) (hadded roleId)
      simp [newRoles, GroupContext.syncEvent, change]
    · refine Iff.trans (iff_of_eq (congrArg (roleId ∈ ·) ?_)) (hremoved roleId)
      simp [oldRoles, GroupContext.syncEvent, change]

-- ============================================================================
-- When the roles asked for are stored
-- ============================================================================

/-- An accepted request stores the roles it asks for if and only if they exist and none that
    is new to the group is listed twice. -/
theorem storesRoles_iff {request : RoleSetRequest} (h : request.Accepted ctx s) :
    StoresRoles ctx s request ↔ Assignable ctx s request := by
  cases request with
  | create newId dto =>
    obtain ⟨row, haccepted⟩ := h
    exact create_storesRoles_iff haccepted
  | updateById id dto expectedVersion =>
    obtain ⟨row, haccepted⟩ := h
    exact updateById_storesRoles_iff haccepted

def auditorsDto (roleIds : List Uuid) : CreateUserGroupDto where
  name := "Auditors"
  scopeType := .TENANT_WIDE
  matchingRule := sampleRule
  roleIds := some roleIds

def auditorsRow : UserGroupRow where
  id := sampleUserId
  tenantCode := "acme"
  scopeType := .TENANT_WIDE
  matchingRule := some sampleRule
  ruleAttributeKeys := ["departmentId"]
  name := trim "Auditors"

theorem auditors_created (roleIds : List Uuid) :
    UserGroupAggregate.create sampleUserId ((auditorsDto roleIds).props acmeAdmin) =
      .ok auditorsRow := by
  have hkeys : ruleKeys sampleRule = .ok ["departmentId"] := by decide +kernel
  show (if trim (trim "Auditors") = "" then _ else _) = _
  rw [if_neg (by decide +kernel)]
  show (ruleKeys sampleRule >>= _) = _
  rw [hkeys]
  rfl

theorem auditors_accepted {roleIds : List Uuid} (h : staffStore.FreshKeys roleIds.length) :
    (RoleSetRequest.create sampleUserId (auditorsDto roleIds)).Accepted acmeAdmin staffStore :=
  have hname : UserGroupLifecycleService.validateName acmeAdmin staffStore "Auditors" = .ok () := by
    decide +kernel
  have hfits : Fits (trim "Auditors") none := by decide +kernel
  have hnew : sampleUserId ∉ staffStore.tables.groups.rows.map primaryKey := by decide +kernel
  ⟨auditorsRow, hname, auditors_created roleIds, hfits, hnew, h⟩

theorem storesRoles_iff_auditor :
    StoresRoles acmeAdmin staffStore (.create sampleUserId (auditorsDto [auditorRoleId])) ↔
      Assignable acmeAdmin staffStore (.create sampleUserId (auditorsDto [auditorRoleId])) :=
  storesRoles_iff (auditors_accepted (by decide +kernel))

/-- A role that is listed twice is inserted twice. -/
theorem not_storesRoles :
    ¬∀ (ctx : GroupContext) (s : GroupStore) (request : RoleSetRequest),
      request.Accepted ctx s → StoresRoles ctx s request := by
  intro h
  have haccepted : (RoleSetRequest.create sampleUserId
      (auditorsDto [auditorRoleId, auditorRoleId])).Accepted acmeAdmin staffStore :=
    auditors_accepted (by decide +kernel)
  obtain ⟨row, hcreate⟩ := haccepted
  have hassignable := (create_storesRoles_iff hcreate).mp (h _ _ _ ⟨row, hcreate⟩)
  exact absurd hassignable.1 (by decide +kernel)

end AccessService.UserGroups.Administration
