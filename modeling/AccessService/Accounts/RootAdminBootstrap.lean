/-
  AccessService.Accounts.RootAdminBootstrap

  `bootstrapRootAdmin` (`provisioning.application.service.ts`), which the TENANT_CREATED
  handler runs: in one transaction the protected root admin of a tenant, the Cognito record
  and the baseline roles.  Cognito and the role cache are no part of the transaction, so an
  attempt that fails may leave a Cognito record behind; a transaction within another one is
  part of it.
-/

import AccessService.Accounts.CognitoIdentities
import AccessService.Roles.BaselineSeeding

namespace AccessService.Accounts

open AccessService.Lib AccessService.Lib.Transition AccessService.Pg AccessService.Persistence
open AccessService.Roles
open CognitoUserProvisioning

-- ============================================================================
-- Store
-- ============================================================================

structure TenantCreatedPayload where
  tenantCode : String
  rootAdminEmail : Option String
  deriving DecidableEq

/-- The outbox event of `logUserProvisioned`. -/
structure UserProvisioned where
  tenantCode : String
  userId : Uuid
  email : String
  accountType : String
  status : String
  deriving DecidableEq

/-- The users with what Cognito has of them, the roles, and the tables that come in besides. -/
structure BootstrapStore where
  tenants : List String
  cognito : CognitoState
  /-- The users with `protected_root_admin`. -/
  protectedRootAdmins : List Uuid := []
  roles : RoleStore
  provisioned : List UserProvisioned := []

inductive BootstrapError where
  | badRequest (message : String)
  | queryFailed
  | cognito (error : Thrown)
  | roles (error : RoleError)
  deriving DecidableEq

abbrev BootstrapService (α : Type) : Type := Faulty BootstrapStore BootstrapError α

structure BootstrapResult where
  success : Bool
  reason : Option String := none
  deriving DecidableEq

/-- The lower-casing of all of Unicode, and `isEmail` of class-validator. -/
structure EmailRules where
  toLowerCase : String → String
  isEmail : String → Bool

def EmailRules.normalize (rules : EmailRules) (email : String) : String :=
  normalizeEmail rules.toLowerCase email

/-- What a delivery runs with: the tenant of its request context, the ids the database gives,
    and what Cognito and the role tables answer. -/
structure BootstrapContext where
  tenantCode : String
  newUserId : Uuid
  cognito : Environment
  newRoleIds : SystemRoleKey → Uuid
  roleFaults : List (Option RoleError) := []

namespace BootstrapStore

def rootAdmin (s : BootstrapStore) (tenantCode : String) : Option UserRow :=
  s.cognito.users.rows.find? fun user =>
    user.tenantCode = tenantCode && user.id ∈ s.protectedRootAdmins

/-- `fk_users_tenant`, `uq_users_tenant_normalized_email` and
    `uq_users_one_protected_root_admin_per_tenant` -/
def admits (s : BootstrapStore) (user : UserRow) : Bool :=
  user.tenantCode ∈ s.tenants &&
    !(s.cognito.users.rows.any fun other =>
      other.tenantCode = user.tenantCode && other.normalizedEmail = user.normalizedEmail) &&
    (s.rootAdmin user.tenantCode).isNone

/-- Cognito and Redis are no part of the transaction. -/
def rollback (before after : BootstrapStore) : BootstrapStore :=
  { before with
    cognito := { before.cognito with directory := after.cognito.directory }
    roles := { before.roles with cachedRoles := after.roles.cachedRoles } }

end BootstrapStore

-- ============================================================================
-- The service
-- ============================================================================

/-- What another service does on its own. -/
def delegate {α : Type} (f : BootstrapStore → Except BootstrapError α × BootstrapStore) :
    BootstrapService α := fun w =>
  ((f w.state).1, { w with state := (f w.state).2 })

namespace ProvisioningApplicationService

/-- `findOne({ protectedRootAdmin: true })` -/
def findRootAdmin (ctx : BootstrapContext) : BootstrapService (Option UserRow) :=
  .read fun s => s.rootAdmin ctx.tenantCode

def checkEmail (rules : EmailRules) (payload : TenantCreatedPayload) : BootstrapService String :=
  match payload.rootAdminEmail.filter fun email => email ≠ "" && rules.isEmail email with
  | some email => pure email
  | none => .throw (.badRequest "rootAdminEmail is required")

theorem firstSecurityVersion_positive : (1 : ℤ) ≤ 1 := Int.le_refl 1

theorem firstSecurityVersion_upper : (1 : ℤ) < 2 ^ 31 := by decide

/-- The default of the column. -/
def firstSecurityVersion : SecurityVersion :=
  ⟨1, firstSecurityVersion_positive, firstSecurityVersion_upper⟩

/-- The row of the new user; the account type and the flag are kept apart. -/
def rootAdminUser (rules : EmailRules) (ctx : BootstrapContext) (rootAdminEmail : String) :
    UserRow where
  id := ctx.newUserId
  tenantCode := ctx.tenantCode
  displayEmail := rootAdminEmail
  normalizedEmail := rules.normalize rootAdminEmail
  status := .ACTIVE
  credentialStatus := .PENDING
  securityVersion := firstSecurityVersion

def createRootAdmin (user : UserRow) : BootstrapService Unit :=
  .call fun s =>
    if s.admits user then
      match s.cognito.users.insert user with
      | none => .error .queryFailed
      | some users => .ok ((), { s with
          cognito := { s.cognito with users := users }
          protectedRootAdmins := s.protectedRootAdmins ++ [user.id] })
    else .error .queryFailed

def provisioningInput (tenantCode : String) (user : UserRow) : ProvisionCognitoUserInput where
  userId := user.id
  email := user.normalizedEmail
  tenantCode := tenantCode
  suppressNotification := some false
  isEmailVerified := some false

def provision (rules : EmailRules) (ctx : BootstrapContext) (tenantCode : String)
    (user : UserRow) : BootstrapService CognitoProvisioningResult :=
  delegate fun s =>
    let outcome := provisionCognitoUser rules.toLowerCase ctx.cognito
      (provisioningInput tenantCode user) s.cognito
    (outcome.1.mapError .cognito, { s with cognito := outcome.2 })

/-- The seeder does not look at the permission graph. -/
def roleContext (ctx : BootstrapContext) : RoleContext := ⟨ctx.tenantCode, none, ⟨.empty⟩⟩

def seedRoles (ctx : BootstrapContext) (tenantCode : String) : BootstrapService (List RoleEntity) :=
  delegate fun s =>
    let outcome := SystemRoleSeederService.seedBaselineSystemRoles (roleContext ctx)
      ctx.newRoleIds tenantCode ⟨s.roles, ctx.roleFaults⟩
    (outcome.1.mapError .roles, { s with roles := outcome.2.state })

def userProvisioned (tenantCode : String) (user : UserRow) : UserProvisioned :=
  ⟨tenantCode, user.id, user.normalizedEmail, "BUILT_IN_ADMIN", "ACTIVE"⟩

def logUserProvisioned (tenantCode : String) (user : UserRow) : BootstrapService Unit :=
  .write fun s => { s with provisioned := s.provisioned ++ [userProvisioned tenantCode user] }

/-- From the creation of the user on. -/
def createAndProvision (rules : EmailRules) (ctx : BootstrapContext) (tenantCode : String)
    (user : UserRow) : BootstrapService BootstrapResult := do
  createRootAdmin user
  let _ ← provision rules ctx tenantCode user
  let _ ← seedRoles ctx tenantCode
  logUserProvisioned tenantCode user
  pure ⟨true, none⟩

/-- What `bootstrapRootAdmin` does in its transaction. -/
def bootstrap (rules : EmailRules) (ctx : BootstrapContext) (payload : TenantCreatedPayload) :
    BootstrapService BootstrapResult := do
  match ← findRootAdmin ctx with
  | some _ => pure ⟨true, some "DUPLICATE"⟩
  | none => do
    let rootAdminEmail ← checkEmail rules payload
    createAndProvision rules ctx payload.tenantCode (rootAdminUser rules ctx rootAdminEmail)

def bootstrapRootAdmin (rules : EmailRules) (ctx : BootstrapContext)
    (payload : TenantCreatedPayload) : BootstrapService BootstrapResult :=
  .transaction BootstrapStore.rollback (bootstrap rules ctx payload)

end ProvisioningApplicationService

/-- A delivery of the event, with what it runs into. -/
structure Delivery where
  payload : TenantCreatedPayload
  newUserId : Uuid
  cognito : Environment
  newRoleIds : SystemRoleKey → Uuid
  roleFaults : List (Option RoleError) := []
  faults : List (Option BootstrapError) := []

/-- The request context is that of the payload's tenant. -/
def Delivery.context (d : Delivery) : BootstrapContext where
  tenantCode := d.payload.tenantCode
  newUserId := d.newUserId
  cognito := d.cognito
  newRoleIds := d.newRoleIds
  roleFaults := d.roleFaults

/-- `handleTenantLifecycleEvent` -/
def Delivery.outcome (rules : EmailRules) (d : Delivery) (s : BootstrapStore) :
    Except BootstrapError BootstrapResult × World BootstrapStore BootstrapError :=
  ProvisioningApplicationService.bootstrapRootAdmin rules d.context d.payload ⟨s, d.faults⟩

/-- Deliveries one after another, whether they return or throw. -/
def bootstraps (rules : EmailRules) : System BootstrapStore Delivery where
  init s := s.protectedRootAdmins = []
  step s d := some (d.outcome rules s).2.state

-- ============================================================================
-- The Cognito directory
-- ============================================================================

namespace CognitoUserProvisioning.CognitoState

variable {s t : CognitoState} {record old : CognitoRecord} {username : String}

/-- A record that is there stays. -/
theorem recordOf_kept (h : s.recordOf username = some old) :
    (s.register record).recordOf username = some old := by
  obtain ⟨hmem, hname⟩ := Keyed.rowAt_eq_some.mp h
  refine Keyed.rowAt_eq_some.mpr ⟨?_, hname⟩
  unfold register
  split
  next directory hinsert =>
    show old ∈ directory.rows
    rw [Keyed.insert_rows hinsert]
    exact List.mem_append_left _ hmem
  · exact hmem

theorem register_directory (h : s.directory = t.directory) :
    (s.register record).directory = (t.register record).directory := by
  unfold register
  rw [h]
  split
  · rfl
  · exact h

end CognitoUserProvisioning.CognitoState

-- ============================================================================
-- A delivery
-- ============================================================================

section Delegate

variable {α : Type} {f : BootstrapStore → Except BootstrapError α × BootstrapStore}
  {w w' : World BootstrapStore BootstrapError} {a : α}

theorem delegate_ok (h : delegate f w = (.ok a, w')) :
    (f w.state).1 = .ok a ∧ w'.state = (f w.state).2 := by
  obtain ⟨hresult, rfl⟩ := Prod.mk.inj h
  exact ⟨hresult, rfl⟩

theorem preserves_delegate {P : BootstrapStore → Prop} (h : ∀ s, P s → P (f s).2) :
    Faulty.Preserves P (delegate f) :=
  fun w hw => h w.state hw

theorem succeeds_delegate {P : BootstrapStore → Prop} {Q : α → BootstrapStore → Prop}
    (h : ∀ s, P s → ∃ a s', f s = (.ok a, s') ∧ Q a s') : Faulty.Succeeds P (delegate f) Q := by
  intro w hw hP
  obtain ⟨a, s', hrun, hQ⟩ := h w.state hP
  refine ⟨a, { w with state := s' }, ?_, hw, hQ⟩
  rw [delegate, hrun]

theorem mapError_ok {ε ε' : Type} {g : ε → ε'} {x : Except ε α} (h : x.mapError g = .ok a) :
    x = .ok a := by
  cases x with
  | error e => cases h
  | ok b =>
    cases h
    rfl

end Delegate

namespace ProvisioningApplicationService

variable {rules : EmailRules} {ctx : BootstrapContext} {tenantCode : String} {user : UserRow}
  {w w' : World BootstrapStore BootstrapError}

theorem checkEmail_cases (rules : EmailRules) (payload : TenantCreatedPayload) :
    (∃ rootAdminEmail, payload.rootAdminEmail = some rootAdminEmail ∧
      checkEmail rules payload = pure rootAdminEmail) ∨
      checkEmail rules payload = .throw (.badRequest "rootAdminEmail is required") := by
  unfold checkEmail
  split
  next rootAdminEmail hvalid =>
    exact .inl ⟨rootAdminEmail, (Option.filter_eq_some_iff.mp hvalid).1, rfl⟩
  · exact .inr rfl

/-- The new user is there, with the flag. -/
theorem createRootAdmin_ok {u : Unit} (h : createRootAdmin user w = (.ok u, w')) :
    w.state.admits user = true ∧ ∃ users, w.state.cognito.users.insert user = some users ∧
      w'.state = { w.state with
        cognito := { w.state.cognito with users := users }
        protectedRootAdmins := w.state.protectedRootAdmins ++ [user.id] } := by
  have hcall := Faulty.call_ok h
  split at hcall
  next hadmits =>
    split at hcall
    · cases hcall
    next users husers =>
      exact ⟨hadmits, users, husers, (Prod.mk.inj (Except.ok.inj hcall)).2.symm⟩
  · cases hcall

/-- The record of the e-mail is the user's identity; the other users stay. -/
theorem provision_ok {result : CognitoProvisioningResult}
    (h : provision rules ctx tenantCode user w = (.ok result, w')) :
    ∃ record, w'.state.cognito.recordOf (rules.normalize user.normalizedEmail) = some record ∧
      (∀ other, other ∈ w'.state.cognito.users.rows ↔ ∃ old ∈ w.state.cognito.users.rows,
        (if old.id = user.id then { old with externalIdentityId := some record.sub } else old) =
          other) ∧
      (∀ username old, w.state.cognito.recordOf username = some old →
        w'.state.cognito.recordOf username = some old) ∧
      w'.state = { w.state with cognito := w'.state.cognito } := by
  let call : Call := ⟨provisioningInput tenantCode user, ctx.cognito⟩
  unfold provision at h
  obtain ⟨houtcome, hstate⟩ := delegate_ok h
  have hcognito : w'.state.cognito = (call.outcome rules.toLowerCase w.state.cognito).2 :=
    congrArg BootstrapStore.cognito hstate
  have hcall : call.outcome rules.toLowerCase w.state.cognito = (.ok result, w'.state.cognito) :=
    Prod.ext (mapError_ok houtcome) hcognito.symm
  rcases call.outcome_cases hcall with ⟨⟨error, herror⟩, -⟩ | ⟨action, sub, u, hidentified, hstores⟩
  · cases herror
  · obtain ⟨record, hrecord, rfl⟩ := hidentified.record
    refine ⟨record, (hstores.recordOf _).trans hrecord, fun other => ?_,
      fun username old hold => ?_, ?_⟩
    · have husers : w'.state.cognito.users = (u.setIdentity user.id record.sub).users :=
        hstores.users
      rw [husers, CognitoState.mem_setIdentity, hidentified.users]
    · refine (hstores.recordOf username).trans ?_
      rcases hidentified.tried with rfl | rfl
      · exact hold
      · exact CognitoState.recordOf_kept hold
    · rw [hcognito]
      exact hstate

theorem seedRoles_ok {roles : List RoleEntity}
    (h : seedRoles ctx ctx.tenantCode w = (.ok roles, w')) :
    (∀ role ∈ w.state.roles.roles.rows, role ∈ w'.state.roles.roles.rows) ∧
      (∀ key, ∃ role ∈ w'.state.roles.roles.rows, HasKey ctx.tenantCode key role) ∧
      w'.state = { w.state with roles := w'.state.roles } := by
  unfold seedRoles at h
  obtain ⟨houtcome, hstate⟩ := delegate_ok h
  let seeding := SystemRoleSeederService.seedBaselineSystemRoles (roleContext ctx) ctx.newRoleIds
    (roleContext ctx).tenantCode ⟨w.state.roles, ctx.roleFaults⟩
  have hroles : w'.state.roles = seeding.2.state := congrArg BootstrapStore.roles hstate
  have hseeding : seeding = (.ok roles, seeding.2) := Prod.ext (mapError_ok houtcome) rfl
  refine ⟨fun role hrole => ?_, fun key => ?_, ?_⟩
  · rw [hroles]
    exact mem_of_seeds (seedBaselineSystemRoles_steps hseeding) hrole
  · rw [hroles]
    exact seedBaselineSystemRoles_ok hseeding key
  · rw [hroles]
    exact hstate

end ProvisioningApplicationService

/-- The root admin with the record, as the user is stored in the end. -/
def identified (user : UserRow) (record : CognitoRecord) : UserRow :=
  { user with externalIdentityId := some record.sub }

/-- The root admin, the identity, the roles and the event have come all at once. -/
structure Committed (rules : EmailRules) (s s' : BootstrapStore) (user : UserRow)
    (record : CognitoRecord) : Prop where
  admitted : s.admits user = true
  fresh : ∀ other ∈ s.cognito.users.rows, other.id ≠ user.id
  users : ∀ other, other ∈ s'.cognito.users.rows ↔
    other ∈ s.cognito.users.rows ∨ other = identified user record
  identity : s'.cognito.recordOf (rules.normalize user.normalizedEmail) = some record
  directory : ∀ username old, s.cognito.recordOf username = some old →
    s'.cognito.recordOf username = some old
  flags : s'.protectedRootAdmins = s.protectedRootAdmins ++ [user.id]
  kept : ∀ role ∈ s.roles.roles.rows, role ∈ s'.roles.roles.rows
  seeded : ∀ key, ∃ role ∈ s'.roles.roles.rows, HasKey user.tenantCode key role
  told : s'.provisioned = s.provisioned ++
    [ProvisioningApplicationService.userProvisioned user.tenantCode user]

namespace ProvisioningApplicationService

variable {rules : EmailRules} {ctx : BootstrapContext} {user : UserRow}
  {w w' : World BootstrapStore BootstrapError}

theorem createAndProvision_ok {result : BootstrapResult}
    (htenant : user.tenantCode = ctx.tenantCode)
    (h : createAndProvision rules ctx ctx.tenantCode user w = (.ok result, w')) :
    result = ⟨true, none⟩ ∧ ∃ record, Committed rules w.state w'.state user record := by
  simp only [createAndProvision, Faulty.bind_ok, Faulty.pure_ok] at h
  obtain ⟨u, w₁, hcreate, provisioned, w₂, hprovision, roles, w₃, hseed, v, w₄, hlog, hresult,
    rfl⟩ := h
  obtain ⟨hadmits, users, husers, hcreated⟩ := createRootAdmin_ok hcreate
  obtain ⟨record, hidentity, hstored, hdirectory, hprovisioned⟩ := provision_ok hprovision
  obtain ⟨hkept, hseeded, hrest⟩ := seedRoles_ok hseed
  have hlogged := Faulty.write_ok hlog
  have hfresh : ∀ other ∈ w.state.cognito.users.rows, other.id ≠ user.id := by
    intro other hother
    have hkey := Keyed.insert_fresh husers hother
    exact hkey
  have hcognito : w₄.state.cognito = w₂.state.cognito := by
    rw [hlogged, hrest]
  have hbefore : ∀ other, other ∈ w₁.state.cognito.users.rows ↔
      other ∈ w.state.cognito.users.rows ∨ other = user := by
    intro other
    rw [hcreated]
    show other ∈ users.rows ↔ _
    rw [Keyed.insert_rows husers, List.mem_append, List.mem_singleton]
  refine ⟨hresult.symm, record, hadmits, hfresh, fun other => ?_, ?_,
    fun username old hold => ?_, ?_, fun role hrole => ?_, fun key => ?_, ?_⟩
  · rw [hcognito, hstored]
    constructor
    · rintro ⟨old, hold, rfl⟩
      rcases (hbefore old).mp hold with hother | rfl
      · exact .inl (by rwa [if_neg (hfresh old hother)])
      · exact .inr (if_pos rfl)
    · rintro (hother | rfl)
      · exact ⟨other, (hbefore other).mpr (.inl hother), if_neg (hfresh other hother)⟩
      · exact ⟨user, (hbefore user).mpr (.inr rfl), if_pos rfl⟩
  · rw [hcognito, hidentity]
  · rw [hcognito]
    refine hdirectory username old ?_
    rw [hcreated]
    exact hold
  · rw [hlogged, hrest, hprovisioned, hcreated]
  · rw [hlogged]
    refine hkept role ?_
    rw [hprovisioned, hcreated]
    exact hrole
  · rw [hlogged, htenant]
    exact hseeded key
  · rw [hlogged, hrest, hprovisioned, hcreated, htenant]

end ProvisioningApplicationService

/-- The Cognito record that a delivery may leave behind. -/
def Delivery.record (rules : EmailRules) (d : Delivery) (user : UserRow) : CognitoRecord :=
  d.cognito.recordFor
    (ProvisioningApplicationService.provisioningInput d.payload.tenantCode user)
    (rules.normalize user.normalizedEmail)

/-- Cognito has, at most, the record more. -/
def Tried (record : CognitoRecord) (s s' : BootstrapStore) : Prop :=
  s'.cognito.directory = s.cognito.directory ∨
    s'.cognito.directory = (s.cognito.register record).directory

/-- The root admin that a delivery is about. -/
def Delivery.user (rules : EmailRules) (d : Delivery) (rootAdminEmail : String) : UserRow :=
  ProvisioningApplicationService.rootAdminUser rules d.context rootAdminEmail

/-- Nothing of the directory is lost, and only the record of the payload's e-mail can come. -/
def RecordAtMost (rules : EmailRules) (d : Delivery) (s s' : BootstrapStore) : Prop :=
  s'.cognito.directory = s.cognito.directory ∨ ∃ rootAdminEmail,
    d.payload.rootAdminEmail = some rootAdminEmail ∧
      Tried (d.record rules (d.user rules rootAdminEmail)) s s'

/-- Nothing has come but, it may be, a Cognito record. -/
structure Aborted (rules : EmailRules) (d : Delivery) (s s' : BootstrapStore) : Prop where
  tenants : s'.tenants = s.tenants
  users : s'.cognito.users = s.cognito.users
  flags : s'.protectedRootAdmins = s.protectedRootAdmins
  roles : s'.roles.roles = s.roles.roles
  told : s'.provisioned = s.provisioned
  directory : RecordAtMost rules d s s'

section Outcome

open ProvisioningApplicationService

variable {rules : EmailRules} {d : Delivery} {s : BootstrapStore}

/-- Cognito has at most the one record more, however the provisioning ends. -/
theorem tried_provision {ctx : BootstrapContext} {tenantCode : String} {user : UserRow} :
    Faulty.Preserves
      (Tried (ctx.cognito.recordFor (provisioningInput tenantCode user)
        (rules.normalize user.normalizedEmail)) s)
      (provision rules ctx tenantCode user) := by
  refine preserves_delegate fun s' htried => ?_
  let record := ctx.cognito.recordFor (provisioningInput tenantCode user)
    (rules.normalize user.normalizedEmail)
  have hregister : Tried record s { s' with cognito := s'.cognito.register record } := by
    rcases htried with hsame | hmore
    · exact .inr (CognitoState.register_directory hsame)
    · refine .inr ((CognitoState.register_directory hmore).trans ?_)
      rw [CognitoState.register_register]
  have hends : ∀ {u t : CognitoState}, u = s'.cognito ∨ u = s'.cognito.register record →
      t.directory = u.directory → Tried record s { s' with cognito := t } := by
    rintro u t (rfl | rfl) hdirectory
    · exact htried.imp hdirectory.trans hdirectory.trans
    · exact hregister.imp hdirectory.trans hdirectory.trans
  rcases provision_cases rules.toLowerCase ctx.cognito (provisioningInput tenantCode user)
    s'.cognito with ⟨u, hu, hfails⟩ | ⟨action, sub, u, hidentified, hstores⟩
  · exact hends hu hfails.directory
  · exact hends hidentified.tried hstores.directory

theorem tried_createAndProvision {ctx : BootstrapContext} {tenantCode : String} {user : UserRow} :
    Faulty.Preserves
      (Tried (ctx.cognito.recordFor (provisioningInput tenantCode user)
        (rules.normalize user.normalizedEmail)) s)
      (createAndProvision rules ctx tenantCode user) := by
  have hcreate : Faulty.Leaves (fun s' : BootstrapStore => s'.cognito.directory)
      (createRootAdmin user) := by
    refine Faulty.leaves_call fun s' u t h => ?_
    split at h
    · split at h
      · cases h
      · cases h
        rfl
    · cases h
  have hseed : Faulty.Leaves (fun s' : BootstrapStore => s'.cognito.directory)
      (seedRoles ctx tenantCode) := fun w => rfl
  have hkeeps : ∀ {α : Type} {x : BootstrapService α},
      Faulty.Leaves (fun s' : BootstrapStore => s'.cognito.directory) x →
      Faulty.Preserves (Tried (ctx.cognito.recordFor (provisioningInput tenantCode user)
        (rules.normalize user.normalizedEmail)) s) x :=
    fun hx => hx.preserves fun u t hsame htried => htried.imp hsame.trans hsame.trans
  refine (hkeeps hcreate).bind fun _ => tried_provision.bind fun _ => (hkeeps hseed).bind fun _ =>
    (hkeeps ?_).bind fun _ => Faulty.preserves_pure _
  exact Faulty.leaves_write fun _ => rfl

theorem directory_bootstrap :
    Faulty.Preserves (RecordAtMost rules d s) (bootstrap rules d.context d.payload) := by
  refine (Faulty.reads_read _).preserves.bind fun found => ?_
  cases found with
  | some rootAdmin => exact Faulty.preserves_pure _
  | none =>
    show Faulty.Preserves _ (checkEmail rules d.payload >>= fun rootAdminEmail =>
      createAndProvision rules d.context d.payload.tenantCode (d.user rules rootAdminEmail))
    rcases checkEmail_cases rules d.payload with ⟨rootAdminEmail, hgiven, hcheck⟩ | hcheck
    · rw [hcheck]
      intro w hw
      have htried : Tried (d.record rules (d.user rules rootAdminEmail)) s w.state := by
        rcases hw with hsame | ⟨email, hother, htried⟩
        · exact .inl hsame
        · obtain rfl := Option.some.inj (hgiven.symm.trans hother)
          exact htried
      exact .inr ⟨rootAdminEmail, hgiven, tried_createAndProvision w htried⟩
    · rw [hcheck]
      exact fun w hw => hw

theorem Delivery.outcome_cases {r : Except BootstrapError BootstrapResult}
    {w : World BootstrapStore BootstrapError} (h : d.outcome rules s = (r, w)) :
    ((∃ error, r = .error error) ∧ Aborted rules d s w.state) ∨
      (r = .ok ⟨true, some "DUPLICATE"⟩ ∧ (s.rootAdmin d.payload.tenantCode).isSome = true ∧
        w.state = s) ∨
      (r = .ok ⟨true, none⟩ ∧ ∃ rootAdminEmail record,
        d.payload.rootAdminEmail = some rootAdminEmail ∧
          Committed rules s w.state (d.user rules rootAdminEmail) record) := by
  rcases r with error | result
  · refine .inl ⟨⟨error, rfl⟩, ?_⟩
    obtain ⟨w₁, hbody, rfl⟩ := Faulty.transaction_error h
    have hpreserves : Faulty.Preserves (RecordAtMost rules d s) _ := directory_bootstrap
    have hdirectory := hpreserves ⟨s, d.faults⟩ (.inl rfl)
    rw [hbody] at hdirectory
    exact ⟨rfl, rfl, rfl, rfl, rfl, hdirectory⟩
  · have hbody := Faulty.transaction_ok.mp h
    obtain ⟨found, w₁, hfind, hrest⟩ := Faulty.bind_ok.mp hbody
    obtain ⟨hfound, hstate⟩ := Faulty.read_ok hfind
    cases found with
    | some rootAdmin =>
      obtain ⟨rfl, rfl⟩ := Faulty.pure_ok.mp hrest
      exact .inr (.inl ⟨rfl, Option.isSome_iff_exists.mpr ⟨rootAdmin, hfound.symm⟩, hstate⟩)
    | none =>
      obtain ⟨rootAdminEmail, w₂, hemail, hcreate⟩ := Faulty.bind_ok.mp hrest
      rcases checkEmail_cases rules d.payload with ⟨email, hgiven, hcheck⟩ | hcheck
      · rw [hcheck] at hemail
        obtain ⟨rfl, rfl⟩ := Faulty.pure_ok.mp hemail
        obtain ⟨rfl, record, hcommitted⟩ := createAndProvision_ok rfl hcreate
        rw [hstate] at hcommitted
        exact .inr (.inr ⟨rfl, email, record, hgiven, hcommitted⟩)
      · rw [hcheck] at hemail
        cases hemail

end Outcome

end AccessService.Accounts
