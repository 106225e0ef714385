/-
  AccessService.Persistence.Database

  The tables and cache entries that the authorization services read and write,
  with the constraints the database keeps, and the programs over them: a
  `Service` makes repository and cache calls, any of which may throw.

  Every repository works within the tenant of the request context.
-/

import AccessService.Authorization.DistributedLock
import AccessService.Authorization.SyncJob
import AccessService.Lib.Faulty
import AccessService.Lib.Table
import AccessService.UserGroups.MatchingEngine

namespace AccessService.Persistence

open AccessService.Lib AccessService.Pg
open AccessService.Authorization (JobTable Session SessionLocks SyncEvent Timestamp)
open AccessService.Employee (EmployeeReference)
open AccessService.UserGroups (MatchingRule)
open AccessService.UserGroups.UserGroupMatchingEngine (ColumnTypes)

-- ============================================================================
-- Rows
-- ============================================================================

inductive ScopeType where
  | SELF
  | DIRECT_REPORTEES
  | COMPANY
  | LOCATION
  | DEPARTMENT
  | TENANT_WIDE
  deriving DecidableEq

def ScopeType.text : ScopeType → String
  | .SELF => "SELF"
  | .DIRECT_REPORTEES => "DIRECT_REPORTEES"
  | .COMPANY => "COMPANY"
  | .LOCATION => "LOCATION"
  | .DEPARTMENT => "DEPARTMENT"
  | .TENANT_WIDE => "TENANT_WIDE"

inductive UserGroupStatus where
  | ACTIVE
  | INACTIVE
  deriving DecidableEq

inductive UserStatus where
  | ACTIVE
  | INACTIVE
  | SUSPENDED
  | INVITED
  | DISABLED
  | ARCHIVED
  | LOCKED
  deriving DecidableEq

structure User where
  id : Uuid
  tenantCode : String
  status : UserStatus
  employeeRefId : Option Uuid := none
  deriving DecidableEq

structure UserGroup where
  id : Uuid
  tenantCode : String
  status : UserGroupStatus := .ACTIVE
  scopeType : ScopeType
  scopeRefId : Option String := none
  matchingRule : Option MatchingRule
  ruleAttributeKeys : List String := []
  version : Nat := 1
  projectionVersion : Nat := 0

structure Role where
  id : Uuid
  tenantCode : String
  version : Nat := 1
  projectionVersion : Nat := 0
  deriving DecidableEq

/-- A role assigned to a group. -/
structure UserGroupRole where
  tenantCode : String
  userGroupId : Uuid
  roleId : Uuid
  deriving DecidableEq

structure UserGroupMembership where
  tenantCode : String
  groupId : Uuid
  userId : Uuid
  deriving DecidableEq

structure UserEffectiveRole where
  tenantCode : String
  userId : Uuid
  roleId : Uuid
  sourceGroupId : Uuid
  scopeType : ScopeType
  scopeEntityId : Option Uuid
  deriving DecidableEq

/-- `uq_user_effective_roles_grant`: rows without a scope entity do not conflict. -/
def UserEffectiveRole.conflicts (a b : UserEffectiveRole) : Bool :=
  a.scopeEntityId.isSome && a = b

inductive OutboxEvent where
  | sync (event : SyncEvent)
  /-- AUTHORIZATION_MEMBERSHIP_RECONCILED -/
  | membershipReconciled (tenantCode : String) (userId : Uuid)
      (addedGroupIds removedGroupIds : List Uuid)
      (effectiveRolesInserted effectiveRolesDeleted : Nat)
  deriving DecidableEq

structure Database where
  users : Keyed User User.id
  employees : Keyed EmployeeReference EmployeeReference.id
  groups : Keyed UserGroup UserGroup.id
  roles : Keyed Role Role.id
  /-- `uq_user_group_roles_tenant_group_role` -/
  groupRoles : Keyed UserGroupRole id
  /-- `uq_user_group_memberships_tenant_group_employee` -/
  memberships : Keyed UserGroupMembership id
  effectiveRoles : Table UserEffectiveRole
  jobs : JobTable
  outbox : List OutboxEvent

def Database.empty : Database where
  users := .empty
  employees := .empty
  groups := .empty
  roles := .empty
  groupRoles := .empty
  memberships := .empty
  effectiveRoles := .empty
  jobs := []
  outbox := []

-- ============================================================================
-- Entities
-- ============================================================================

/-- A nullable column of an entity in memory. -/
inductive Column (α : Type) where
  | undefined
  | null
  | value (a : α)
  deriving DecidableEq

namespace Column

variable {α : Type}

/-- As loaded from the row. -/
def ofRow : Option α → Column α
  | none => .null
  | some a => .value a

/-- As set from an optional property. -/
def ofOptional : Option α → Column α
  | none => .undefined
  | some a => .value a

/-- What an UPDATE leaves in the row: a save skips what is `undefined`. -/
def write : Column α → Option α → Option α
  | .undefined, old => old
  | .null, _ => none
  | .value a, _ => some a

@[simp] theorem write_ofRow (a old : Option α) : (ofRow a).write old = a := by
  cases a <;> rfl

end Column

-- ============================================================================
-- Cache entries
-- ============================================================================

structure ScopeConstraint where
  type : ScopeType
  refId : Option String
  deriving DecidableEq

structure EffectiveUserRole where
  roleId : Uuid
  sourceGroupId : Uuid
  scope : ScopeConstraint
  deriving DecidableEq

structure UserAuthorizationProfile where
  version : Nat
  roles : List EffectiveUserRole
  deriving DecidableEq

/-- The user a cache key is about. -/
abbrev UserKey := String × Uuid

-- ============================================================================
-- Services
-- ============================================================================

structure Store where
  now : Timestamp := 0
  db : Database
  /-- `CACHE_KEY_BUILDER.buildUserAuthz` -/
  profiles : UserKey → Option UserAuthorizationProfile := fun _ => none
  /-- `GenerateUserAuthzVersionKey` -/
  authzVersions : UserKey → Nat := fun _ => 0
  locks : SessionLocks := AdvisoryLock.Locks.empty

/-- The tables that effective roles are computed from, and the users and employees they
    are about. -/
def Store.basis (s : Store) : Keyed User User.id × Keyed EmployeeReference EmployeeReference.id ×
    Keyed UserGroup UserGroup.id × Keyed Role Role.id × Keyed UserGroupRole id ×
    Keyed UserGroupMembership id :=
  (s.db.users, s.db.employees, s.db.groups, s.db.roles, s.db.groupRoles, s.db.memberships)

/-- The tables but for the effective roles. -/
def Store.tables (s : Store) : Database := { s.db with effectiveRoles := .empty }

/-- What can be synchronized. -/
def Store.sources (s : Store) : Keyed UserGroup UserGroup.id × Keyed Role Role.id :=
  (s.db.groups, s.db.roles)

/-- An error on its way out. -/
structure Failure where
  name : String
  message : String
  deriving DecidableEq

/-- What a request runs with: the tenant of the request context, the session its lock
    queries run on, whether there is a Redis client, and the column types of the
    database. -/
structure Context where
  tenantCode : String
  session : Option Session := some 0
  redisClient : Bool := true
  uuid : UuidInput
  columns : ColumnTypes

abbrev Service (α : Type) : Type := Faulty Store Failure α

def uniqueViolation : Failure where
  name := "QueryFailedError"
  message := "duplicate key value violates unique constraint"

def invalidUuid : Failure where
  name := "QueryFailedError"
  message := "invalid input syntax for type uuid"

/-- Redis and the locks are no part of a transaction. -/
def runInTransaction {α : Type} (body : Service α) : Service α :=
  .transaction (fun before after => { after with db := before.db }) body

def readDb {α : Type} (f : Database → α) : Service α := .read fun s => f s.db

def writeDb (f : Database → Database) : Service Unit :=
  .write fun s => { s with db := f s.db }

/-- `outbox-event.repository.ts` -/
def OutboxEventRepository.create (event : OutboxEvent) : Service Unit :=
  writeDb fun db => { db with outbox := db.outbox ++ [event] }

theorem reads_readDb {α : Type} (f : Database → α) :
    Faulty.Reads (readDb f : Service α) fun s => f s.db :=
  Faulty.reads_read _

theorem keepsQuiet_readDb {α : Type} (f : Database → α) :
    Faulty.KeepsQuiet (readDb f : Service α) :=
  Faulty.keepsQuiet_call _

theorem leaves_readDb {α τ : Type} {g : Store → τ} (f : Database → α) :
    Faulty.Leaves g (readDb f : Service α) :=
  (reads_readDb f).leaves

theorem leaves_basis {α : Type} {x : Service α} (h : Faulty.Leaves Store.tables x) :
    Faulty.Leaves Store.basis x :=
  h.comp fun db => (db.users, db.employees, db.groups, db.roles, db.groupRoles, db.memberships)

theorem leaves_runInTransaction {α τ : Type} {f : Database → τ} {body : Service α}
    (h : Faulty.Leaves (fun s => f s.db) body) :
    Faulty.Leaves (fun s => f s.db) (runInTransaction body) :=
  Faulty.leaves_transaction h fun _ _ _ => rfl

/-- A transaction that throws leaves the tables as they were. -/
theorem runInTransaction_error {α : Type} {body : Service α} {w w' : World Store Failure}
    {e : Failure} (h : runInTransaction body w = (.error e, w')) :
    w'.state.db = w.state.db := by
  obtain ⟨w₁, -, rfl⟩ := Faulty.transaction_error h
  rfl

theorem writeDb_ok {f : Database → Database} {w w' : World Store Failure} {u : Unit}
    (h : writeDb f w = (.ok u, w')) : w'.state = { w.state with db := f w.state.db } :=
  Faulty.write_ok h

theorem readDb_runs {α : Type} (f : Database → α) {w : World Store Failure}
    (hquiet : Faulty.Quiet w) :
    (readDb f : Service α) w = (.ok (f w.state.db), Faulty.afterCall w w.state) :=
  (hquiet.call_runs (f := fun s : Store => .ok (f s.db, s)) rfl).1

theorem writeDb_throws (f : Database → Database) {w : World Store Failure}
    (h : Faulty.ThrowsAt w 0) : ∃ e, writeDb f w = (.error e, Faulty.afterCall w w.state) :=
  Faulty.call_throws (f := fun s : Store => .ok ((), { s with db := f s.db })) h

theorem writeDb_returns (f : Database → Database) {w : World Store Failure}
    (h : ¬Faulty.ThrowsAt w 0) :
    writeDb f w = (.ok (), Faulty.afterCall w { w.state with db := f w.state.db }) :=
  Faulty.call_runs (f := fun s : Store => .ok ((), { s with db := f s.db })) h rfl

theorem writeDb_runs (f : Database → Database) {w : World Store Failure}
    (hquiet : Faulty.Quiet w) :
    writeDb f w = (.ok (), Faulty.afterCall w { w.state with db := f w.state.db }) :=
  writeDb_returns f (hquiet.not_throwsAt 0)

-- ============================================================================
-- A small database: one user, their employee, and a group with one role
-- ============================================================================

def acme : Context where
  tenantCode := "acme"
  uuid := .strict
  columns := { idType := varchar fun a b => a < b, collation := fun a b => a < b }

theorem sampleGroup_isUuid : isUuidText "9b1deb4d-0000-4000-8000-000000000001" = true := by
  decide

def sampleUserId : Uuid := ⟨"5a0c1d2e-0000-4000-8000-000000000001", by decide⟩
def sampleEmployeeId : Uuid := ⟨"3f2b8c1e-0000-4000-8000-000000000001", by decide⟩
def sampleGroupId : Uuid := ⟨"9b1deb4d-0000-4000-8000-000000000001", sampleGroup_isUuid⟩
def sampleRoleId : Uuid := ⟨"7c9e6679-0000-4000-8000-000000000001", by decide⟩

def sampleUser : User where
  id := sampleUserId
  tenantCode := "acme"
  status := .ACTIVE
  employeeRefId := some sampleEmployeeId

def sampleEmployee : EmployeeReference where
  id := sampleEmployeeId
  tenantCode := "acme"
  employeeCode := "E-1"
  departmentId := some "eng"
  status := "ACTIVE"

/-- Everybody of one department. -/
def sampleRule : MatchingRule where
  clauses := [{ «attribute» := "departmentId", operator := "equals", value := .str "eng" }]

def sampleUserGroup : UserGroup where
  id := sampleGroupId
  tenantCode := "acme"
  scopeType := .SELF
  matchingRule := some sampleRule
  ruleAttributeKeys := ["departmentId"]

def sampleEffectiveRole : UserEffectiveRole where
  tenantCode := "acme"
  userId := sampleUserId
  roleId := sampleRoleId
  sourceGroupId := sampleGroupId
  scopeType := .SELF
  scopeEntityId := none

/-- The sample's tables; the user is a member of the group or not. -/
def sampleDatabase (isMember : Bool) (effectiveRoles : Table UserEffectiveRole) : Database where
  users := ⟨[sampleUser], List.nodup_singleton _⟩
  employees := ⟨[sampleEmployee], List.nodup_singleton _⟩
  groups := ⟨[sampleUserGroup], List.nodup_singleton _⟩
  roles := ⟨[{ id := sampleRoleId, tenantCode := "acme" }], List.nodup_singleton _⟩
  groupRoles := ⟨[⟨"acme", sampleGroupId, sampleRoleId⟩], List.nodup_singleton _⟩
  memberships :=
    if isMember then ⟨[⟨"acme", sampleGroupId, sampleUserId⟩], List.nodup_singleton _⟩
    else .empty
  effectiveRoles := effectiveRoles
  jobs := []
  outbox := []

end AccessService.Persistence
