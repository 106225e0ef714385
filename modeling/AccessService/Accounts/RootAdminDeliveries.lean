/-
  AccessService.Accounts.RootAdminDeliveries

  Deliveries of TENANT_CREATED, any number of them, each of which may fail anywhere.  A root
  admin is never there in part (`root_admins_whole`), and one delivery that nothing disturbs
  is enough for exactly one (`bootstrap_exactly_once`).
-/

import AccessService.Accounts.RootAdminBootstrap

namespace AccessService.Accounts

open AccessService.Lib AccessService.Lib.Transition AccessService.Pg AccessService.Persistence
open AccessService.Roles
open CognitoUserProvisioning

-- ============================================================================
-- Root admins are whole
-- ============================================================================

/-- A root admin with all that belongs to one. -/
structure Whole (rules : EmailRules) (s : BootstrapStore) (user : UserRow) : Prop where
  active : user.status = .ACTIVE
  identity : ∃ record, s.cognito.recordOf (rules.normalize user.normalizedEmail) = some record ∧
    user.externalIdentityId = some record.sub
  seeded : ∀ key, ∃ role ∈ s.roles.roles.rows, HasKey user.tenantCode key role
  told : ProvisioningApplicationService.userProvisioned user.tenantCode user ∈ s.provisioned

/-- The protected root admins are whole, and no tenant has two of them. -/
structure RootAdminsWhole (rules : EmailRules) (s : BootstrapStore) : Prop where
  stored : ∀ id ∈ s.protectedRootAdmins, ∃ user ∈ s.cognito.users.rows, user.id = id
  whole : ∀ user ∈ s.cognito.users.rows, user.id ∈ s.protectedRootAdmins → Whole rules s user
  one : ∀ user ∈ s.cognito.users.rows, ∀ other ∈ s.cognito.users.rows,
    user.id ∈ s.protectedRootAdmins → other.id ∈ s.protectedRootAdmins →
    user.tenantCode = other.tenantCode → user = other

/-- What a root admin has is not lost. -/
structure Retains (s s' : BootstrapStore) : Prop where
  records : ∀ username old, s.cognito.recordOf username = some old →
    s'.cognito.recordOf username = some old
  roles : ∀ role ∈ s.roles.roles.rows, role ∈ s'.roles.roles.rows
  told : ∀ event ∈ s.provisioned, event ∈ s'.provisioned

section Whole

variable {rules : EmailRules} {d : Delivery} {s s' : BootstrapStore} {user : UserRow}
  {record : CognitoRecord}

theorem Aborted.retains (h : Aborted rules d s s') : Retains s s' where
  records username old hold := by
    rcases h.directory with hsame | ⟨_, _, hsame | hmore⟩
    · exact (congrArg (Keyed.rowAt · username) hsame).trans hold
    · exact (congrArg (Keyed.rowAt · username) hsame).trans hold
    · exact (congrArg (Keyed.rowAt · username) hmore).trans (CognitoState.recordOf_kept hold)
  roles role hrole := by rwa [h.roles]
  told event hevent := by rwa [h.told]

theorem Committed.retains (h : Committed rules s s' user record) : Retains s s' where
  records := h.directory
  roles := h.kept
  told event hevent := by
    rw [h.told]
    exact List.mem_append_left _ hevent

theorem Retains.whole (h : Retains s s') (hwhole : Whole rules s user) : Whole rules s' user where
  active := hwhole.active
  identity := by
    obtain ⟨record, hrecord, hholds⟩ := hwhole.identity
    exact ⟨record, h.records _ _ hrecord, hholds⟩
  seeded key := by
    obtain ⟨role, hrole, hkey⟩ := hwhole.seeded key
    exact ⟨role, h.roles role hrole, hkey⟩
  told := h.told _ hwhole.told

theorem Aborted.whole (h : Aborted rules d s s') (hwhole : RootAdminsWhole rules s) :
    RootAdminsWhole rules s' where
  stored := by
    rw [h.users, h.flags]
    exact hwhole.stored
  whole user huser hflag := by
    rw [h.users] at huser
    rw [h.flags] at hflag
    exact h.retains.whole (hwhole.whole user huser hflag)
  one := by
    rw [h.users, h.flags]
    exact hwhole.one

/-- No root admin of the tenant was there before. -/
theorem Committed.first (h : Committed rules s s' user record) {other : UserRow}
    (hother : other ∈ s.cognito.users.rows) (hflag : other.id ∈ s.protectedRootAdmins) :
    other.tenantCode ≠ user.tenantCode := by
  intro htenant
  have hadmits := h.admitted
  simp only [BootstrapStore.admits, Bool.and_eq_true] at hadmits
  have hnone := List.find?_eq_none.mp (Option.isNone_iff_eq_none.mp hadmits.2) other hother
  exact hnone (Bool.and_eq_true_iff.mpr ⟨decide_eq_true htenant, decide_eq_true hflag⟩)

theorem Committed.whole (h : Committed rules s s' user record) (hactive : user.status = .ACTIVE)
    (hwhole : RootAdminsWhole rules s) : RootAdminsWhole rules s' := by
  -- Whoever has the flag now had it before, or is the new one.
  have hflagged : ∀ other ∈ s'.cognito.users.rows, other.id ∈ s'.protectedRootAdmins →
      (other ∈ s.cognito.users.rows ∧ other.id ∈ s.protectedRootAdmins) ∨
        other = identified user record := by
    intro other hother hflag
    rw [h.flags] at hflag
    rcases (h.users other).mp hother with hold | hnew
    · refine .inl ⟨hold, (List.mem_append.mp hflag).resolve_right fun hmem => ?_⟩
      exact h.fresh other hold (List.mem_singleton.mp hmem)
    · exact .inr hnew
  refine ⟨fun id hid => ?_, fun other hother hflag => ?_, ?_⟩
  · rw [h.flags] at hid
    rcases List.mem_append.mp hid with hold | hnew
    · obtain ⟨other, hother, hid⟩ := hwhole.stored id hold
      exact ⟨other, (h.users other).mpr (.inl hother), hid⟩
    · exact ⟨identified user record, (h.users _).mpr (.inr rfl), (List.mem_singleton.mp hnew).symm⟩
  · rcases hflagged other hother hflag with ⟨hold, hflag⟩ | rfl
    · exact h.retains.whole (hwhole.whole other hold hflag)
    · refine ⟨hactive, ⟨record, h.identity, rfl⟩, h.seeded, ?_⟩
      rw [h.told]
      exact List.mem_append_right _ (List.mem_singleton_self _)
  · intro first hfirst other hother hflag hflag' htenant
    rcases hflagged first hfirst hflag with ⟨hold, hflag⟩ | rfl
    · rcases hflagged other hother hflag' with ⟨hold', hflag'⟩ | rfl
      · exact hwhole.one first hold other hold' hflag hflag' htenant
      · exact absurd htenant (h.first hold hflag)
    · rcases hflagged other hother hflag' with ⟨hold', hflag'⟩ | rfl
      · exact absurd htenant.symm (h.first hold' hflag')
      · rfl

theorem Delivery.whole (hwhole : RootAdminsWhole rules s) :
    RootAdminsWhole rules (d.outcome rules s).2.state := by
  rcases houtcome : d.outcome rules s with ⟨r, w⟩
  rcases d.outcome_cases houtcome with
    ⟨-, haborted⟩ | ⟨-, -, hsame⟩ | ⟨-, rootAdminEmail, record, -, hcommitted⟩
  · exact haborted.whole hwhole
  · rwa [hsame]
  · exact hcommitted.whole rfl hwhole

/-- However deliveries of the event end, the root admins there are have everything. -/
theorem root_admins_whole (h : (bootstraps rules).Reachable Always s) :
    RootAdminsWhole rules s := by
  refine h.invariant (RootAdminsWhole rules) (fun s hinit => ?_) ?_
  · have hnone : ∀ id, id ∉ s.protectedRootAdmins := by
      intro id
      rw [show s.protectedRootAdmins = [] from hinit]
      exact List.not_mem_nil
    exact ⟨fun id hid => absurd hid (hnone id), fun user _ hid => absurd hid (hnone user.id),
      fun user _ _ _ hid => absurd hid (hnone user.id)⟩
  · intro s d t _ hwhole _ hstep
    obtain rfl := Option.some.inj hstep
    exact d.whole hwhole

end Whole

-- ============================================================================
-- One root admin, however often the event is delivered
-- ============================================================================

/-- The tenant has nobody yet, nor a role, and the e-mail is a valid one. -/
structure NewTenant (rules : EmailRules) (payload : TenantCreatedPayload) (rootAdminEmail : String)
    (s : BootstrapStore) : Prop where
  tenant : payload.tenantCode ∈ s.tenants
  given : payload.rootAdminEmail = some rootAdminEmail
  valid : rootAdminEmail ≠ "" ∧ rules.isEmail rootAdminEmail = true
  nobody : ∀ user ∈ s.cognito.users.rows, user.tenantCode ≠ payload.tenantCode
  noRole : ∀ role ∈ s.roles.roles.rows, role.row.tenantCode ≠ payload.tenantCode

/-- A Cognito record of the e-mail is of the tenant, and nobody's. -/
def OwnRecord (rules : EmailRules) (payload : TenantCreatedPayload) (rootAdminEmail : String)
    (s : BootstrapStore) : Prop :=
  ∀ record, s.cognito.recordOf (rules.normalize (rules.normalize rootAdminEmail)) = some record →
    record.tenantCode = payload.tenantCode ∧ record.sub ≠ "" ∧
      ∀ user ∈ s.cognito.users.rows, user.externalIdentityId ≠ some record.sub

/-- The sub that Cognito would give is a new one. -/
def Delivery.NewSub (d : Delivery) (s : BootstrapStore) : Prop :=
  d.cognito.newSub ≠ "" ∧
    ∀ user ∈ s.cognito.users.rows, user.externalIdentityId ≠ some d.cognito.newSub

/-- Everything answers, and the ids the database gives are new. -/
structure Delivery.Undisturbed (d : Delivery) (s : BootstrapStore) : Prop where
  faults : ∀ fault ∈ d.faults, fault = none
  roleFaults : ∀ fault ∈ d.roleFaults, fault = none
  createUser : ∀ n, d.cognito.createUser n = .completes true
  getUser : ∃ showsTenant, ∀ n, d.cognito.getUser n = .completes true showsTenant
  findUser : d.cognito.findUser = none
  updateUser : d.cognito.updateUser = none
  logProvisioned : d.cognito.logProvisioned = none
  newUser : ∀ user ∈ s.cognito.users.rows, user.id ≠ d.newUserId
  newRoles : ∀ key, ∀ role ∈ s.roles.roles.rows, role.id ≠ d.newRoleIds key
  distinctRoles : Function.Injective d.newRoleIds

/-- Attempts that failed lie between the two, and no more. -/
structure Pending (s s' : BootstrapStore) : Prop where
  tenants : s'.tenants = s.tenants
  users : s'.cognito.users = s.cognito.users
  flags : s'.protectedRootAdmins = s.protectedRootAdmins
  roles : s'.roles.roles = s.roles.roles
  told : s'.provisioned = s.provisioned
  records : ∀ username old, s.cognito.recordOf username = some old →
    s'.cognito.recordOf username = some old

section Once

open ProvisioningApplicationService

variable {rules : EmailRules} {d : Delivery} {payload : TenantCreatedPayload}
  {rootAdminEmail : String} {s s' t : BootstrapStore} {user : UserRow} {record : CognitoRecord}

theorem Pending.refl (s : BootstrapStore) : Pending s s :=
  ⟨rfl, rfl, rfl, rfl, rfl, fun _ _ hold => hold⟩

theorem Pending.aborted (h : Pending s s') (haborted : Aborted rules d s' t) : Pending s t where
  tenants := haborted.tenants.trans h.tenants
  users := haborted.users.trans h.users
  flags := haborted.flags.trans h.flags
  roles := haborted.roles.trans h.roles
  told := haborted.told.trans h.told
  records username old hold := haborted.retains.records username old (h.records username old hold)

theorem Pending.admits (h : Pending s s') (user : UserRow) : s'.admits user = s.admits user := by
  simp only [BootstrapStore.admits, BootstrapStore.rootAdmin, h.tenants, h.users, h.flags]

/-- What was committed after failed attempts was committed. -/
theorem Pending.committed (h : Pending s s') (hcommitted : Committed rules s' t user record) :
    Committed rules s t user record where
  admitted := (h.admits user).symm.trans hcommitted.admitted
  fresh := by
    rw [← h.users]
    exact hcommitted.fresh
  users := by
    rw [← h.users]
    exact hcommitted.users
  identity := hcommitted.identity
  directory username old hold := hcommitted.directory username old (h.records username old hold)
  flags := by rw [hcommitted.flags, h.flags]
  kept role hrole := hcommitted.kept role (by rwa [h.roles])
  seeded := hcommitted.seeded
  told := by rw [hcommitted.told, h.told]

/-- And stays so when later attempts fail. -/
theorem Committed.aborted (h : Committed rules s s' user record) (haborted : Aborted rules d s' t) :
    Committed rules s t user record where
  admitted := h.admitted
  fresh := h.fresh
  users := by
    rw [haborted.users]
    exact h.users
  identity := haborted.retains.records _ _ h.identity
  directory username old hold := haborted.retains.records _ _ (h.directory username old hold)
  flags := by rw [haborted.flags, h.flags]
  kept role hrole := by
    rw [haborted.roles]
    exact h.kept role hrole
  seeded key := by
    rw [haborted.roles]
    exact h.seeded key
  told := by rw [haborted.told, h.told]

/-- Afterwards the tenant has a root admin. -/
theorem Committed.rootAdmin_isSome (h : Committed rules s s' user record) :
    (s'.rootAdmin user.tenantCode).isSome = true := by
  refine List.find?_isSome.mpr ⟨identified user record, (h.users _).mpr (.inr rfl), ?_⟩
  refine Bool.and_eq_true_iff.mpr ⟨decide_eq_true rfl, decide_eq_true ?_⟩
  rw [h.flags]
  exact List.mem_append_right _ (List.mem_singleton_self _)

/-- A delivery after that changes nothing but, it may be, the directory. -/
theorem Committed.again (h : Committed rules s s' user record)
    (htenant : d.payload.tenantCode = user.tenantCode) :
    Committed rules s (d.outcome rules s').2.state user record := by
  rcases houtcome : d.outcome rules s' with ⟨r, w⟩
  rcases d.outcome_cases houtcome with
    ⟨-, haborted⟩ | ⟨-, -, hsame⟩ | ⟨-, email, record', -, hcommitted⟩
  · exact h.aborted haborted
  · show Committed rules s w.state user record
    rwa [hsame]
  · have hadmits := hcommitted.admitted
    simp only [BootstrapStore.admits, Bool.and_eq_true] at hadmits
    have hnone : (s'.rootAdmin d.payload.tenantCode).isNone = true := hadmits.2
    have hsome := h.rootAdmin_isSome
    rw [← htenant] at hsome
    rw [Option.isNone_iff_eq_none.mp hnone] at hsome
    cases hsome

/-- The record that a failed attempt left is of the tenant, and nobody's. -/
theorem OwnRecord.aborted (h : OwnRecord rules payload rootAdminEmail s)
    (hgiven : payload.rootAdminEmail = some rootAdminEmail) (hpayload : d.payload = payload)
    (hsub : d.NewSub s) (haborted : Aborted rules d s t) :
    OwnRecord rules payload rootAdminEmail t := by
  subst hpayload
  intro record hrecord
  rw [haborted.users]
  have hsame : t.cognito.directory = s.cognito.directory →
      record.tenantCode = d.payload.tenantCode ∧ record.sub ≠ "" ∧
        ∀ user ∈ s.cognito.users.rows, user.externalIdentityId ≠ some record.sub := by
    intro hdirectory
    exact h record ((congrArg (Keyed.rowAt · _) hdirectory).symm.trans hrecord)
  rcases haborted.directory with hdirectory | ⟨email, hother, hdirectory | hmore⟩
  · exact hsame hdirectory
  · exact hsame hdirectory
  · obtain rfl := Option.some.inj (hgiven.symm.trans hother)
    have hregistered : (s.cognito.register (d.record rules (d.user rules rootAdminEmail))).recordOf
        (rules.normalize (rules.normalize rootAdminEmail)) = some record :=
      (congrArg (Keyed.rowAt · _) hmore).symm.trans hrecord
    rcases hbefore : s.cognito.recordOf (rules.normalize (rules.normalize rootAdminEmail)) with
      _ | old
    · have hnew := (recordOf_recordFor s.cognito).symm.trans hregistered
      rw [show s.cognito.recordOf (rules.normalize (d.user rules rootAdminEmail).normalizedEmail) =
        none from hbefore] at hnew
      obtain rfl := Option.some.inj hnew
      exact ⟨rfl, hsub⟩
    · rw [CognitoState.recordOf_kept hbefore] at hregistered
      obtain rfl := Option.some.inj hregistered
      exact h old hbefore

-- ============================================================================
-- A delivery that nothing disturbs
-- ============================================================================

/-- The user is inserted, and has the flag. -/
def created (s : BootstrapStore) (user : UserRow) (s' : BootstrapStore) : Prop :=
  ∃ users, s.cognito.users.insert user = some users ∧
    s' = { s with
      cognito := { s.cognito with users := users }
      protectedRootAdmins := s.protectedRootAdmins ++ [user.id] }

theorem createRootAdmin_succeeds (hadmits : s.admits user = true)
    (hnew : ∀ other ∈ s.cognito.users.rows, other.id ≠ user.id) :
    Faulty.Succeeds (· = s) (createRootAdmin user) fun _ => created s user := by
  refine Faulty.succeeds_call ?_
  rintro s' rfl
  have hfresh : user.id ∉ s'.cognito.users.rows.map fun row => row.id := by
    intro hmem
    obtain ⟨other, hother, hid⟩ := List.mem_map.mp hmem
    exact hnew other hother hid
  obtain ⟨users, husers⟩ : ∃ users, s'.cognito.users.insert user = some users :=
    ⟨_, dif_neg hfresh⟩
  rw [if_pos hadmits, husers]
  exact ⟨(), _, rfl, users, husers, rfl⟩

/-- The call of the delivery, for the new user. -/
def Delivery.call (rules : EmailRules) (d : Delivery) (rootAdminEmail : String) : Call where
  input := provisioningInput d.payload.tenantCode (d.user rules rootAdminEmail)
  env := d.cognito

/-- Of the users only the new one could hold the record's sub, and it holds none. -/
theorem unheld_created {users : Keyed UserRow fun row => row.id}
    (husers : s.cognito.users.insert (d.user rules rootAdminEmail) = some users)
    (hnobody : ∀ user ∈ s.cognito.users.rows, user.externalIdentityId ≠ some record.sub) :
    Unheld (d.call rules rootAdminEmail).input { s.cognito with users := users } record.sub := by
  intro user huser hholds
  have hrows : users.rows = s.cognito.users.rows ++ [d.user rules rootAdminEmail] :=
    Keyed.insert_rows husers
  rcases List.mem_append.mp (hrows ▸ huser) with hold | hnew
  · exact absurd hholds (hnobody user hold)
  · rw [List.mem_singleton.mp hnew] at hholds
    cases hholds

theorem calm_created {users : Keyed UserRow fun row => row.id} (hundisturbed : d.Undisturbed s)
    (hsub : d.NewSub s) (hown : OwnRecord rules d.payload rootAdminEmail s)
    (husers : s.cognito.users.insert (d.user rules rootAdminEmail) = some users) :
    Calm rules.toLowerCase { s.cognito with users := users } (d.call rules rootAdminEmail) where
  createUser := hundisturbed.createUser
  getUser := hundisturbed.getUser
  findUser := hundisturbed.findUser
  updateUser := hundisturbed.updateUser
  logProvisioned := hundisturbed.logProvisioned
  newSub := hsub.1
  held record hrecord := by
    obtain ⟨-, hnonempty, hnobody⟩ := hown record hrecord
    exact ⟨hnonempty, unheld_created husers hnobody⟩

theorem provision_succeeds (hundisturbed : d.Undisturbed s) (hsub : d.NewSub s)
    (hown : OwnRecord rules d.payload rootAdminEmail s) :
    Faulty.Succeeds (created s (d.user rules rootAdminEmail))
      (provision rules d.context d.payload.tenantCode (d.user rules rootAdminEmail))
      fun _ s' => s'.roles = s.roles := by
  refine succeeds_delegate ?_
  rintro s' ⟨users, husers, rfl⟩
  let call := d.call rules rootAdminEmail
  let cognito : CognitoState := { s.cognito with users := users }
  have hcalm : Calm rules.toLowerCase cognito call := calm_created hundisturbed hsub hown husers
  obtain ⟨action, sub, u, hidentified⟩ : ∃ action sub u, Identified call.env call.input
      (call.normalizedEmail rules.toLowerCase) cognito action sub u := by
    rcases hrecord : cognito.recordOf (call.normalizedEmail rules.toLowerCase) with _ | record
    · exact ⟨_, _, _, hcalm.created hrecord⟩
    · exact ⟨_, _, _, hcalm.linked hrecord (.inl (hown record hrecord).1)⟩
  obtain ⟨result, after, hreturns⟩ : ∃ result after,
      call.outcome rules.toLowerCase cognito = (.ok result, after) := by
    obtain ⟨after, hreturns, -⟩ :=
      hidentified.provisions hcalm.updateUser hcalm.logProvisioned
    exact ⟨_, after, hreturns⟩
  let ending (c : CognitoState) : BootstrapStore := { s with
    cognito := c
    protectedRootAdmins := s.protectedRootAdmins ++ [(d.user rules rootAdminEmail).id] }
  refine ⟨result, ending after, ?_, rfl⟩
  exact congrArg (fun outcome => (outcome.1.mapError BootstrapError.cognito, ending outcome.2))
    hreturns

theorem seedRoles_succeeds (hundisturbed : d.Undisturbed s)
    (hnoRole : ∀ role ∈ s.roles.roles.rows, role.row.tenantCode ≠ d.payload.tenantCode) :
    Faulty.Succeeds (fun s' => s'.roles = s.roles) (seedRoles d.context d.payload.tenantCode)
      fun _ _ => True := by
  refine succeeds_delegate fun s' hroles => ?_
  have hawaits : Awaits d.payload.tenantCode d.newRoleIds SystemRoleKey.values s'.roles := by
    intro key _ role hrole
    rw [hroles] at hrole
    exact ⟨hundisturbed.newRoles key role hrole, fun htenant => absurd htenant (hnoRole role hrole)⟩
  let ctx := roleContext d.context
  have hseeds : Faulty.Succeeds (Awaits ctx.tenantCode d.newRoleIds SystemRoleKey.values)
      (SystemRoleSeederService.seedBaselineSystemRoles ctx d.newRoleIds ctx.tenantCode)
      fun _ _ => True := seedBaselineSystemRoles_succeeds hundisturbed.distinctRoles
  obtain ⟨roles, after, hreturns, -, -⟩ :=
    hseeds ⟨s'.roles, d.roleFaults⟩ hundisturbed.roleFaults hawaits
  refine ⟨roles, { s' with roles := after.state }, ?_, trivial⟩
  exact congrArg (fun outcome => (outcome.1.mapError BootstrapError.roles,
    { s' with roles := outcome.2.state })) hreturns

theorem NewTenant.rootAdmin (h : NewTenant rules payload rootAdminEmail s) :
    s.rootAdmin payload.tenantCode = none := by
  refine List.find?_eq_none.mpr fun user huser hmine => ?_
  exact h.nobody user huser (of_decide_eq_true (Bool.and_eq_true_iff.mp hmine).1)

theorem NewTenant.admits (h : NewTenant rules d.payload rootAdminEmail s) :
    s.admits (d.user rules rootAdminEmail) = true := by
  have hunique : (s.cognito.users.rows.any fun other =>
      other.tenantCode = d.payload.tenantCode &&
        other.normalizedEmail = (d.user rules rootAdminEmail).normalizedEmail) = false := by
    refine List.any_eq_false.mpr fun other hother hclash => ?_
    exact h.nobody other hother (of_decide_eq_true (Bool.and_eq_true_iff.mp hclash).1)
  refine Bool.and_eq_true_iff.mpr ⟨Bool.and_eq_true_iff.mpr ⟨decide_eq_true h.tenant, ?_⟩, ?_⟩
  · exact congrArg not hunique
  · exact Option.isNone_iff_eq_none.mpr h.rootAdmin

theorem NewTenant.checkEmail (h : NewTenant rules payload rootAdminEmail s) :
    checkEmail rules payload = pure rootAdminEmail := by
  have hvalid : payload.rootAdminEmail.filter (fun email => email ≠ "" && rules.isEmail email) =
      some rootAdminEmail := by
    refine Option.filter_eq_some_iff.mpr ⟨h.given, ?_⟩
    exact Bool.and_eq_true_iff.mpr ⟨decide_eq_true h.valid.1, h.valid.2⟩
  rw [ProvisioningApplicationService.checkEmail, hvalid]

/-- Such a delivery bootstraps the tenant. -/
theorem bootstrap_succeeds (hundisturbed : d.Undisturbed s) (hsub : d.NewSub s)
    (hnew : NewTenant rules d.payload rootAdminEmail s)
    (hown : OwnRecord rules d.payload rootAdminEmail s) :
    ∃ result w, d.outcome rules s = (.ok result, w) := by
  have hfind : Faulty.Succeeds (· = s) (findRootAdmin d.context) fun found s' =>
      s' = s ∧ found = none := by
    refine Faulty.succeeds_read ?_
    rintro s' rfl
    exact ⟨rfl, hnew.rootAdmin⟩
  have hlog : Faulty.Succeeds (fun _ => True)
      (logUserProvisioned d.payload.tenantCode (d.user rules rootAdminEmail)) fun _ _ => True :=
    Faulty.succeeds_write fun _ _ => trivial
  have hcreate : Faulty.Succeeds (· = s) (createAndProvision rules d.context d.payload.tenantCode
      (d.user rules rootAdminEmail)) fun _ _ => True :=
    (createRootAdmin_succeeds hnew.admits hundisturbed.newUser).bind fun _ =>
      (provision_succeeds hundisturbed hsub hown).bind fun _ =>
        (seedRoles_succeeds hundisturbed hnew.noRole).bind fun _ =>
          hlog.bind fun _ => Faulty.succeeds_pure fun _ _ => trivial
  have hbody : Faulty.Succeeds (· = s) (bootstrap rules d.context d.payload) fun _ _ => True := by
    refine hfind.bind fun found => ?_
    cases found with
    | some rootAdmin => exact Faulty.succeeds_pure fun _ _ => trivial
    | none =>
      show Faulty.Succeeds _ (checkEmail rules d.payload >>= fun email =>
        createAndProvision rules d.context d.payload.tenantCode (d.user rules email)) _
      rw [hnew.checkEmail]
      exact hcreate.mono (fun _ hs => hs.1) fun _ _ hs => hs
  obtain ⟨result, w, hrun, -, -⟩ := hbody.transaction ⟨s, d.faults⟩ hundisturbed.faults rfl
  exact ⟨result, w, hrun⟩

-- ============================================================================
-- Deliveries
-- ============================================================================

theorem Pending.newTenant (h : Pending s s') (hnew : NewTenant rules payload rootAdminEmail s) :
    NewTenant rules payload rootAdminEmail s' where
  tenant := h.tenants ▸ hnew.tenant
  given := hnew.given
  valid := hnew.valid
  nobody := h.users ▸ hnew.nobody
  noRole := h.roles ▸ hnew.noRole

theorem Pending.newSub (h : Pending s s') (hsub : d.NewSub s) : d.NewSub s' :=
  ⟨hsub.1, h.users ▸ hsub.2⟩

theorem Pending.undisturbed (h : Pending s s') (hd : d.Undisturbed s) : d.Undisturbed s' :=
  { hd with
    newUser := h.users ▸ hd.newUser
    newRoles := h.roles ▸ hd.newRoles }

/-- As long as every attempt has failed, the next one fails too or bootstraps the tenant, and
    one that nothing disturbs does not fail. -/
theorem Pending.deliver (h : Pending s s') (hnew : NewTenant rules d.payload rootAdminEmail s)
    (hown : OwnRecord rules d.payload rootAdminEmail s') (hsub : d.NewSub s) :
    (Pending s (d.outcome rules s').2.state ∧
        OwnRecord rules d.payload rootAdminEmail (d.outcome rules s').2.state ∧
        ¬d.Undisturbed s) ∨
      ∃ record, Committed rules s (d.outcome rules s').2.state (d.user rules rootAdminEmail)
        record := by
  rcases houtcome : d.outcome rules s' with ⟨r, w⟩
  rcases d.outcome_cases houtcome with
    ⟨⟨error, rfl⟩, haborted⟩ | ⟨-, hsome, -⟩ | ⟨-, email, record, hgiven, hcommitted⟩
  · refine .inl ⟨h.aborted haborted, hown.aborted hnew.given rfl (h.newSub hsub) haborted, ?_⟩
    intro hundisturbed
    obtain ⟨result, w', hreturns⟩ := bootstrap_succeeds (h.undisturbed hundisturbed)
      (h.newSub hsub) (h.newTenant hnew) hown
    cases houtcome.symm.trans hreturns
  · rw [(h.newTenant hnew).rootAdmin] at hsome
    cases hsome
  · obtain rfl := Option.some.inj (hgiven.symm.trans hnew.given)
    exact .inr ⟨record, h.committed hcommitted⟩

theorem Committed.later {deliveries : List Delivery} (h : Committed rules s s' user record)
    (htenant : ∀ d ∈ deliveries, d.payload.tenantCode = user.tenantCode)
    (hrun : (bootstraps rules).execute s' deliveries = some t) :
    Committed rules s t user record := by
  induction deliveries generalizing s' with
  | nil =>
    cases hrun
    exact h
  | cons d deliveries ih =>
    obtain ⟨u, hstep, hrest⟩ := System.execute_cons.mp hrun
    obtain rfl := Option.some.inj hstep
    exact ih (h.again (htenant d List.mem_cons_self))
      (fun d' hd' => htenant d' (List.mem_cons_of_mem d hd')) hrest

theorem Pending.deliveries {deliveries : List Delivery} (h : Pending s s')
    (hnew : NewTenant rules payload rootAdminEmail s)
    (hown : OwnRecord rules payload rootAdminEmail s')
    (heach : ∀ d ∈ deliveries, d.payload = payload ∧ d.NewSub s)
    (hundisturbed : ∃ d ∈ deliveries, d.Undisturbed s)
    (hrun : (bootstraps rules).execute s' deliveries = some t) :
    ∃ d ∈ deliveries, ∃ record, Committed rules s t (d.user rules rootAdminEmail) record := by
  induction deliveries generalizing s' with
  | nil =>
    obtain ⟨d, hd, -⟩ := hundisturbed
    cases hd
  | cons d deliveries ih =>
    obtain ⟨u, hstep, hrest⟩ := System.execute_cons.mp hrun
    obtain rfl := Option.some.inj hstep
    obtain ⟨rfl, hsub⟩ := heach d List.mem_cons_self
    have hlater := fun d' hd' => heach d' (List.mem_cons_of_mem d hd')
    rcases h.deliver hnew hown hsub with ⟨hpending, hown, hdisturbed⟩ | ⟨record, hcommitted⟩
    · have hrestUndisturbed : ∃ d' ∈ deliveries, d'.Undisturbed s := by
        obtain ⟨d', hd', hcalm⟩ := hundisturbed
        rcases List.mem_cons.mp hd' with rfl | hmem
        · exact absurd hcalm hdisturbed
        · exact ⟨d', hmem, hcalm⟩
      obtain ⟨d', hd', record, hcommitted⟩ := ih hpending hown hlater hrestUndisturbed hrest
      exact ⟨d', List.mem_cons_of_mem d hd', record, hcommitted⟩
    · refine ⟨d, List.mem_cons_self, record, hcommitted.later (fun d' hd' => ?_) hrest⟩
      exact congrArg TenantCreatedPayload.tenantCode (hlater d' hd').1

/-- A new tenant's event is delivered any number of times, and each delivery may fail
    anywhere: once one is undisturbed, exactly one of them has bootstrapped the tenant. -/
theorem bootstrap_exactly_once {deliveries : List Delivery}
    (hnew : NewTenant rules payload rootAdminEmail s)
    (hown : OwnRecord rules payload rootAdminEmail s)
    (heach : ∀ d ∈ deliveries, d.payload = payload ∧ d.NewSub s)
    (hundisturbed : ∃ d ∈ deliveries, d.Undisturbed s)
    (hrun : (bootstraps rules).execute s deliveries = some t) :
    ∃ d ∈ deliveries, ∃ record, Committed rules s t (d.user rules rootAdminEmail) record :=
  (Pending.refl s).deliveries hnew hown heach hundisturbed hrun

end Once

-- ============================================================================
-- An attempt that leaves a Cognito record behind, and the next one
-- ============================================================================

def sampleRules : EmailRules where
  toLowerCase := Js.toLowerCase
  isEmail email := '@' ∈ email.toList

def acmeCreated : TenantCreatedPayload := ⟨"acme", some "Kim@acme.test"⟩

/-- Cognito's first answer is lost, with the record created or without. -/
def sampleDelivery (newSub : String) (createUser : CreateUserAnswer) : Delivery where
  payload := acmeCreated
  newUserId := sampleUserId
  cognito :=
    { newSub := newSub
      createUser := fun _ => createUser
      getUser := fun _ => .completes true true
      usernameExists := ⟨"UsernameExistsException", "", ""⟩
      userNotFound := ⟨"UserNotFoundException", "", ""⟩ }
  newRoleIds := seededIds

def lostAnswer : Delivery :=
  sampleDelivery "sub-1" (.fails (.other ⟨some "SocketError", some "closed"⟩) true)

def calmDelivery : Delivery := sampleDelivery "sub-2" (.completes true)

def newTenantStore : BootstrapStore where
  tenants := ["acme"]
  cognito := { users := .empty }
  roles := emptyRoleStore

theorem seededIds_injective : Function.Injective seededIds := by
  intro key key' hids
  revert hids
  cases key <;> cases key' <;> decide

theorem calmDelivery_undisturbed : calmDelivery.Undisturbed newTenantStore where
  faults := List.forall_mem_nil _
  roleFaults := List.forall_mem_nil _
  createUser _ := rfl
  getUser := ⟨true, fun _ => rfl⟩
  findUser := rfl
  updateUser := rfl
  logProvisioned := rfl
  newUser := List.forall_mem_nil _
  newRoles _ := List.forall_mem_nil _
  distinctRoles := seededIds_injective

theorem newTenantStore_new :
    NewTenant sampleRules acmeCreated "Kim@acme.test" newTenantStore where
  tenant := List.mem_singleton_self _
  given := rfl
  valid := by decide
  nobody := List.forall_mem_nil _
  noRole := List.forall_mem_nil _

theorem root_admins_whole_sample :
    ∃ t, (bootstraps sampleRules).execute newTenantStore [lostAnswer, calmDelivery] = some t ∧
      RootAdminsWhole sampleRules t := by
  obtain ⟨t, hrun⟩ : ∃ t, (bootstraps sampleRules).execute newTenantStore
      [lostAnswer, calmDelivery] = some t := ⟨_, rfl⟩
  exact ⟨t, hrun, root_admins_whole ⟨newTenantStore, rfl, System.steps_of_execute hrun⟩⟩

theorem bootstrap_exactly_once_sample :
    ∃ t, (bootstraps sampleRules).execute newTenantStore [lostAnswer, calmDelivery] = some t ∧
      ∃ d ∈ [lostAnswer, calmDelivery], ∃ record,
        Committed sampleRules newTenantStore t (d.user sampleRules "Kim@acme.test") record := by
  have hnone : ∀ username, newTenantStore.cognito.recordOf username = none := fun _ => rfl
  refine ⟨_, rfl, bootstrap_exactly_once newTenantStore_new (fun record hrecord => ?_) ?_ ?_ rfl⟩
  · cases (hnone _).symm.trans hrecord
  · intro d hd
    rcases List.mem_pair.mp hd with rfl | rfl
    · exact ⟨rfl, by decide, List.forall_mem_nil _⟩
    · exact ⟨rfl, by decide, List.forall_mem_nil _⟩
  · exact ⟨calmDelivery, List.mem_cons_of_mem _ (List.mem_singleton_self _),
      calmDelivery_undisturbed⟩

/-- The second attempt links the record that the first left. -/
example :
    (((bootstraps sampleRules).execute newTenantStore [lostAnswer, calmDelivery]).bind
      fun t => t.rootAdmin "acme").map (·.externalIdentityId) = some (some "sub-1") := by
  decide +kernel

end AccessService.Accounts
