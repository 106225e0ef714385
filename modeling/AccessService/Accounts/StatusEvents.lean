/-
  AccessService.Accounts.StatusEvents

  Events about the status of one employee, delivered in any order and any number of times,
  one at a time and without failure: what the newest of them says is what remains.
-/

import AccessService.Accounts.AccountOperations
import AccessService.Js.Decimal
import AccessService.Lib.LastWriter

namespace AccessService.Accounts

open AccessService.Js AccessService.Lib AccessService.Pg AccessService.Persistence

variable {w w' : World AccountStore AccountError} {ctx : AccountContext} {user : UserRow}
  {employee : EmployeeRow} {event : EmployeeEvent} {status : Option String}
  {sourceVersion : String}

-- ============================================================================
-- An employee and the user linked to it
-- ============================================================================

structure LinkedAccount where
  employee : EmployeeRow
  user : Option UserRow
  deriving DecidableEq

/-- The employee of the tenant, with the user that the events find. -/
def linkedAccount (ctx : AccountContext) (id : Uuid) (s : AccountStore) : Option LinkedAccount :=
  (EmployeeReferenceRepository.employeeInTenant ctx s.db id).map fun employee =>
    ⟨employee, UserRepository.userOfEmployee ctx s.db employee.id⟩

/-- A suspended, terminated or reactivated event, with the version it carries. -/
structure StatusChange where
  event : EmployeeEvent
  known : event ≠ .other
  sourceVersion : SafeInteger
  deriving DecidableEq

def EmployeeRow.changed (employee : EmployeeRow) (status : Option String)
    (sourceVersion : String) : EmployeeRow :=
  { employee with status := status.getD employee.status, sourceVersion := some sourceVersion }

def UserRow.synchronized (user : UserRow) (event : EmployeeEvent) : UserRow :=
  { user with status := event.userStatus.getD user.status }

def LinkedAccount.apply (change : StatusChange) (account : LinkedAccount) : LinkedAccount where
  employee := account.employee.changed change.event.employeeStatus
    (toString change.sourceVersion.val)
  user := account.user.map fun user => user.synchronized change.event

theorem EmployeeEvent.update_apply : (event.update user).apply user = some (user.synchronized event)
    := by
  simp [EmployeeEvent.update, UserUpdate.apply, UserRow.synchronized]

-- ============================================================================
-- The register
-- ============================================================================

/-- What an event writes is the version that the next one is compared with. -/
theorem EmployeeRow.currentStoredVersion_changed (v : SafeInteger) :
    (employee.changed status (toString v.val)).currentStoredVersion = .fin v.val := by
  have hne : toString v.val ≠ "" := by
    intro hempty
    have hparse := parseInt_toString v
    rw [hempty] at hparse
    cases hparse
  show (if toString v.val = "" then JsNumber.fin 0 else parseInt (toString v.val)) = _
  rw [if_neg hne, parseInt_toString]

theorem LinkedAccount.apply_apply (a b : StatusChange) (account : LinkedAccount) :
    (account.apply a).apply b = account.apply b := by
  obtain ⟨event, hknown, sourceVersion⟩ := b
  obtain ⟨employee, user⟩ := account
  cases event with
  | other => exact absurd rfl hknown
  | _ => cases user <;> rfl

def statusRegister : LastWriter LinkedAccount StatusChange ℤ where
  version change := change.sourceVersion.val
  stale account v := JsNumber.le (.fin v) account.employee.currentStoredVersion
  write := LinkedAccount.apply
  write_write := LinkedAccount.apply_apply
  stale_write change account v := by
    show JsNumber.le (.fin v) (account.employee.changed change.event.employeeStatus
      (toString change.sourceVersion.val)).currentStoredVersion = true ↔ _
    rw [EmployeeRow.currentStoredVersion_changed, JsNumber.le_fin, decide_eq_true_eq]
    exact Int.cast_le

-- ============================================================================
-- What an event does to the employees
-- ============================================================================

def employeesOf (s : AccountStore) : Keyed EmployeeRow fun row => row.id := s.db.employees

theorem EmployeeReferenceRepository.update_ok {u : Unit}
    (hmem : employee ∈ w.state.db.employees.rows)
    (h : EmployeeReferenceRepository.update employee.id status sourceVersion w = (.ok u, w')) :
    employeesOf w'.state =
      (employeesOf w.state).replace (employee.changed status sourceVersion) := by
  obtain ⟨db, hdb, hstate⟩ := writeDb_ok h
  obtain ⟨employees, hupdate, rfl⟩ := Option.map_eq_some_iff.mp hdb
  have hfind : w.state.db.employees.rows.find? (fun row => row.id = employee.id) =
      some employee :=
    Keyed.find?_unique hmem (decide_eq_true rfl) fun _ hother => of_decide_eq_true hother
  unfold updateRow at hupdate
  rw [hfind] at hupdate
  simp only [Option.bind_some, replaceRow] at hupdate
  rw [if_neg (by simp)] at hupdate
  rw [employeesOf, hstate]
  exact (Option.some.inj hupdate).symm

theorem UserRepository.update_employees {id : Uuid} {change : UserUpdate} :
    Faulty.Leaves employeesOf (UserRepository.update id change) :=
  writeDb_leaves fun _ _ h => by
    obtain ⟨-, -, rfl⟩ := Option.map_eq_some_iff.mp h
    rfl

theorem log_employees {tenantCode eventType : String} {userId : Option Uuid} :
    Faulty.Leaves employeesOf (SecurityEventService.log tenantCode userId eventType) :=
  writeDb_leaves fun _ _ h => by cases h; rfl

theorem revokeAllSessions_employees {tenantCode : String} {userId : Uuid} :
    Faulty.Leaves employeesOf
      (SessionApplicationService.revokeAllSessions ctx tenantCode userId) :=
  Faulty.leaves_when ((Faulty.leaves_read _).bind fun _ =>
    Faulty.leaves_when (Faulty.leaves_write fun _ => rfl))

theorem InvitationRepository.create_employees {invitation : Invitation} :
    Faulty.Leaves employeesOf (InvitationRepository.create invitation) :=
  writeDb_leaves fun _ _ h => by
    split at h
    · obtain ⟨-, -, rfl⟩ := Option.map_eq_some_iff.mp h
      rfl
    · cases h

namespace ProvisioningApplicationService

theorem revokePendingInvitations_employees {userId : Uuid} :
    Faulty.Leaves employeesOf (revokePendingInvitations ctx userId) := by
  refine Faulty.Leaves.bind (Faulty.leaves_read _) fun _ => Faulty.leaves_when ?_
  exact Faulty.leaves_write fun _ => rfl

/-- The employee's row is written between the user's and the rest. -/
theorem employees_of_binds {id : Uuid} {change : UserUpdate} {rest : Unit → AccountService Bool}
    {b : Bool} (hmem : employee ∈ w.state.db.employees.rows)
    (hrest : ∀ u, Faulty.Leaves employeesOf (rest u))
    (h : (UserRepository.update id change >>= fun _ =>
      EmployeeReferenceRepository.update employee.id status sourceVersion >>= rest) w =
        (.ok b, w')) :
    employeesOf w'.state =
      (employeesOf w.state).replace (employee.changed status sourceVersion) := by
  obtain ⟨u₁, w₁, huser, htail⟩ := Faulty.bind_ok.mp h
  obtain ⟨u₂, w₂, hemployee, htail⟩ := Faulty.bind_ok.mp htail
  have hsame : employeesOf w₁.state = employeesOf w.state :=
    UserRepository.update_employees.ok huser
  have hmem₁ : employee ∈ (employeesOf w₁.state).rows := by
    rw [hsame]
    exact hmem
  rw [(hrest u₂).ok htail, EmployeeReferenceRepository.update_ok hmem₁ hemployee, hsame]

variable {fresh : FreshInvitation} {payload : EmployeeStatusPayload} {b : Bool}

theorem synchronizeUser_employees (hevent : event ≠ .other)
    (hmem : employee ∈ w.state.db.employees.rows)
    (h : synchronizeUser ctx fresh event user employee sourceVersion w = (.ok b, w')) :
    employeesOf w'.state =
      (employeesOf w.state).replace (employee.changed event.employeeStatus sourceVersion) := by
  cases event with
  | EMPLOYEE_SUSPENDED =>
    refine employees_of_binds hmem (fun _ => log_employees.bind fun _ => ?_) h
    exact revokeAllSessions_employees.bind fun _ => Faulty.leaves_pure _
  | EMPLOYEE_TERMINATED =>
    refine employees_of_binds hmem (fun _ => ?_) h
    refine revokePendingInvitations_employees.bind fun _ => log_employees.bind fun _ => ?_
    exact revokeAllSessions_employees.bind fun _ => Faulty.leaves_pure _
  | EMPLOYEE_REACTIVATED =>
    refine employees_of_binds hmem (fun _ => ?_) h
    refine revokePendingInvitations_employees.bind fun _ => Faulty.Leaves.bind (fun _ => rfl) ?_
    exact fun now => InvitationRepository.create_employees.bind fun _ =>
      log_employees.bind fun _ => Faulty.leaves_pure _
  | other => exact absurd rfl hevent

/-- A return: the row of the employee has been changed, unless the event is stale. -/
theorem synchronizeEmployeeStatus_employees (hevent : event ≠ .other)
    (hfound : EmployeeReferenceRepository.employeeInTenant ctx w.state.db payload.id =
      some employee)
    (h : synchronizeEmployeeStatus ctx fresh event payload w = (.ok b, w')) :
    employeesOf w'.state =
      if employee.isStale payload.sourceVersion then employeesOf w.state
      else (employeesOf w.state).replace
        (employee.changed event.employeeStatus (toString payload.sourceVersion.val)) := by
  obtain ⟨found, w₁, hfind, hrest⟩ := Faulty.bind_ok.mp (runInTransaction_ok.mp h)
  obtain ⟨rfl, hstate₁⟩ := readDb_ok hfind
  rw [hfound] at hrest
  simp only at hrest
  split at hrest
  next hstale =>
    obtain ⟨-, rfl⟩ := Faulty.pure_ok.mp hrest
    rw [if_pos hstale, hstate₁]
  next hstale =>
    rw [if_neg hstale]
    obtain ⟨linked, w₂, hlinked, hrest⟩ := Faulty.bind_ok.mp hrest
    obtain ⟨-, hstate₂⟩ := readDb_ok hlinked
    have hmem : employee ∈ w₂.state.db.employees.rows := by
      rw [hstate₂, hstate₁]
      exact List.mem_of_find?_eq_some hfound
    rw [← hstate₁, ← hstate₂]
    cases linked with
    | some user => exact synchronizeUser_employees hevent hmem hrest
    | none =>
      obtain ⟨u, w₃, hupdate, hrest⟩ := Faulty.bind_ok.mp hrest
      obtain ⟨-, rfl⟩ := Faulty.pure_ok.mp hrest
      exact EmployeeReferenceRepository.update_ok hmem hupdate

end ProvisioningApplicationService

-- ============================================================================
-- One event
-- ============================================================================

theorem linkedAccount_congr {s s' : AccountStore} (id : Uuid)
    (hemployees : employeesOf s' = employeesOf s) (husers : usersOf s' = usersOf s) :
    linkedAccount ctx id s' = linkedAccount ctx id s := by
  unfold employeesOf at hemployees
  unfold usersOf at husers
  unfold linkedAccount EmployeeReferenceRepository.employeeInTenant
    UserRepository.userOfEmployee
  rw [hemployees, husers]

theorem employeeInTenant_replace {db db' : AccountDatabase} {id : Uuid}
    (hfound : EmployeeReferenceRepository.employeeInTenant ctx db id = some employee)
    (h : db'.employees = db.employees.replace (employee.changed status sourceVersion)) :
    EmployeeReferenceRepository.employeeInTenant ctx db' id =
      some (employee.changed status sourceVersion) := by
  unfold EmployeeReferenceRepository.employeeInTenant at hfound ⊢
  rw [h, Keyed.find?_replace_of_same (b := employee.changed status sourceVersion)
    (List.mem_of_find?_eq_some hfound) rfl rfl, hfound]
  exact congrArg some (if_pos rfl)

theorem userOfEmployee_rewritten {s s' : AccountStore} {employeeRefId : Uuid}
    (hfound : UserRepository.userOfEmployee ctx s.db employeeRefId = some user)
    (h : Rewrites s s' user (event.update user)) :
    UserRepository.userOfEmployee ctx s'.db employeeRefId = some (user.synchronized event) := by
  obtain ⟨hmem, user', happly, husers⟩ := h
  obtain rfl := Option.some.inj (EmployeeEvent.update_apply.symm.trans happly)
  unfold UserRepository.userOfEmployee at hfound ⊢
  rw [husers, Keyed.find?_replace_of_same (b := user.synchronized event) hmem rfl rfl, hfound]
  exact congrArg some (if_pos rfl)

section OneEvent

variable {fresh : FreshInvitation} {payload : EmployeeStatusPayload} {b : Bool}
  {account : LinkedAccount}

/-- An event that is handled without failure is received. -/
theorem linkedAccount_synchronized (hevent : event ≠ .other)
    (hfound : linkedAccount ctx payload.id w.state = some account)
    (h : ProvisioningApplicationService.synchronizeEmployeeStatus ctx fresh event payload w =
      (.ok b, w')) :
    linkedAccount ctx payload.id w'.state =
      some (statusRegister.receive account ⟨event, hevent, payload.sourceVersion⟩) := by
  obtain ⟨employee, hemployee, rfl⟩ := Option.map_eq_some_iff.mp hfound
  have hemployees := ProvisioningApplicationService.synchronizeEmployeeStatus_employees hevent
    hemployee h
  have husers := ProvisioningApplicationService.synchronizeEmployeeStatus_ok h
  rw [appliesTo, if_neg hevent, hemployee, Option.bind_some] at husers
  by_cases hstale : employee.isStale payload.sourceVersion = true
  · rw [if_pos hstale] at hemployees husers
    rw [linkedAccount_congr _ hemployees husers, hfound]
    exact congrArg some (if_pos hstale).symm
  · rw [if_neg hstale] at hemployees husers
    have hreceive : statusRegister.receive
        ⟨employee, UserRepository.userOfEmployee ctx w.state.db employee.id⟩
        ⟨event, hevent, payload.sourceVersion⟩ =
          LinkedAccount.apply ⟨event, hevent, payload.sourceVersion⟩
            ⟨employee, UserRepository.userOfEmployee ctx w.state.db employee.id⟩ :=
      if_neg hstale
    rw [hreceive, linkedAccount, employeeInTenant_replace hemployee hemployees]
    refine congrArg some (congrArg (LinkedAccount.mk _) ?_)
    show UserRepository.userOfEmployee ctx w'.state.db employee.id =
      (UserRepository.userOfEmployee ctx w.state.db employee.id).map
        fun user => user.synchronized event
    rcases huser : UserRepository.userOfEmployee ctx w.state.db employee.id with _ | user
    · rw [huser] at husers
      unfold usersOf at husers
      rw [Option.map_none, ← huser, UserRepository.userOfEmployee, husers]
      rfl
    · rw [huser] at husers
      exact userOfEmployee_rewritten huser husers

end OneEvent

-- ============================================================================
-- Deliveries
-- ============================================================================

/-- An event as it is handled: when, by which request, and what its calls run into. -/
structure StatusDelivery where
  change : StatusChange
  delay : Nat
  ctx : AccountContext
  fresh : FreshInvitation
  faults : List (Option AccountError)

def StatusDelivery.run (id : Uuid) (s : AccountStore) (d : StatusDelivery) :
    Except AccountError Bool × World AccountStore AccountError :=
  ProvisioningApplicationService.synchronizeEmployeeStatus d.ctx d.fresh d.change.event
    ⟨id, d.change.sourceVersion⟩ ⟨{ s with now := s.now + d.delay }, d.faults⟩

/-- The deliveries, one at a time, each returning. -/
inductive Delivered (tenantCode : String) (id : Uuid) :
    AccountStore → List StatusDelivery → AccountStore → Prop where
  | nil {s} : Delivered tenantCode id s [] s
  | cons {s d ds b w s'} (htenant : d.ctx.tenantCode = tenantCode)
      (hrun : d.run id s = (.ok b, w)) (hrest : Delivered tenantCode id w.state ds s') :
      Delivered tenantCode id s (d :: ds) s'

theorem linkedAccount_tenant {ctx' : AccountContext} (h : ctx'.tenantCode = ctx.tenantCode)
    (id : Uuid) (s : AccountStore) : linkedAccount ctx' id s = linkedAccount ctx id s := by
  unfold linkedAccount EmployeeReferenceRepository.employeeInTenant
    UserRepository.userOfEmployee
  rw [h]

theorem Delivered.received {id : Uuid} {s s' : AccountStore} {ds : List StatusDelivery}
    {account : LinkedAccount} (h : Delivered ctx.tenantCode id s ds s')
    (hfound : linkedAccount ctx id s = some account) :
    linkedAccount ctx id s' =
      some ((ds.map StatusDelivery.change).foldl statusRegister.receive account) := by
  induction h generalizing account with
  | nil => exact hfound
  | cons htenant hrun _ ih =>
    refine ih ?_
    rw [← linkedAccount_tenant htenant]
    exact linkedAccount_synchronized _ ((linkedAccount_tenant htenant id _).trans hfound) hrun

/-- The newest event alone decides the employee and the user. -/
theorem status_events_converge {id : Uuid} {s s' s₁ : AccountStore} {ds : List StatusDelivery}
    {account : LinkedAccount} {newest only : StatusDelivery}
    (hfound : linkedAccount ctx id s = some account)
    (hnew : ∀ d ∈ ds, account.employee.isStale d.change.sourceVersion = false)
    (hdistinct : ∀ d ∈ ds, ∀ d' ∈ ds, d.change.sourceVersion.val = d'.change.sourceVersion.val →
      d.change = d'.change)
    (hnewest : newest ∈ ds)
    (hmax : ∀ d ∈ ds, d.change.sourceVersion.val ≤ newest.change.sourceVersion.val)
    (hrun : Delivered ctx.tenantCode id s ds s') (honly : only.change = newest.change)
    (hrun₁ : Delivered ctx.tenantCode id s [only] s₁) :
    linkedAccount ctx id s' = linkedAccount ctx id s₁ ∧
      linkedAccount ctx id s' = some (account.apply newest.change) := by
  have hstale : ∀ d ∈ ds, statusRegister.stale account d.change.sourceVersion.val = false := hnew
  have hall : linkedAccount ctx id s' = some (account.apply newest.change) := by
    rw [hrun.received hfound]
    refine congrArg some (statusRegister.foldl_receive ?_ ?_ ?_ ?_)
    · intro change hchange
      obtain ⟨d, hd, rfl⟩ := List.mem_map.mp hchange
      exact hstale d hd
    · intro change hchange change' hchange' hversion
      obtain ⟨d, hd, rfl⟩ := List.mem_map.mp hchange
      obtain ⟨d', hd', rfl⟩ := List.mem_map.mp hchange'
      rw [hdistinct d hd d' hd' hversion]
    · exact List.mem_map_of_mem hnewest
    · intro change hchange
      obtain ⟨d, hd, rfl⟩ := List.mem_map.mp hchange
      exact hmax d hd
  refine ⟨?_, hall⟩
  rw [hall, hrun₁.received hfound]
  show _ = some (statusRegister.receive account only.change)
  rw [honly, statusRegister.receive_fresh (hstale newest hnewest)]
  rfl

/-- The newer event comes first, and again after the older one. -/
def reactivatedSample : StatusDelivery where
  change := ⟨.EMPLOYEE_REACTIVATED, by decide, ⟨2, Js.SafeInteger.two_isSafe⟩⟩
  delay := 0
  ctx := acmeAccounts
  fresh := ⟨sampleRoleId, "7d793037a0760186574b0282f2f435e7"⟩
  faults := []

def suspendedSample : StatusDelivery :=
  { reactivatedSample with
    change := ⟨.EMPLOYEE_SUSPENDED, by decide, ⟨1, Js.SafeInteger.one_isSafe⟩⟩ }

def sampleDeliveries : List StatusDelivery :=
  [reactivatedSample, suspendedSample, reactivatedSample]

def deliveredStore (s : AccountStore) : List StatusDelivery → AccountStore
  | [] => s
  | d :: ds => deliveredStore (d.run sampleEmployeeId s).2.state ds

theorem status_events_converge_sample :
    linkedAccount acmeAccounts sampleEmployeeId
        (deliveredStore sampleAccountStore sampleDeliveries) =
      linkedAccount acmeAccounts sampleEmployeeId
        (deliveredStore sampleAccountStore [reactivatedSample]) ∧
    linkedAccount acmeAccounts sampleEmployeeId
        (deliveredStore sampleAccountStore sampleDeliveries) =
      some (LinkedAccount.apply reactivatedSample.change
        ⟨{ toEmployeeReference := sampleEmployee }, some sampleAccount⟩) := by
  have hfirst : (reactivatedSample.run sampleEmployeeId sampleAccountStore).1 = .ok true := by
    decide +kernel
  have hrun₁ : Delivered "acme" sampleEmployeeId sampleAccountStore [reactivatedSample]
      (deliveredStore sampleAccountStore [reactivatedSample]) :=
    .cons rfl (Prod.ext hfirst rfl) .nil
  have hrun : Delivered "acme" sampleEmployeeId sampleAccountStore sampleDeliveries
      (deliveredStore sampleAccountStore sampleDeliveries) := by
    refine .cons rfl (Prod.ext hfirst rfl) (.cons rfl (b := true) (Prod.ext ?_ rfl)
      (.cons rfl (b := true) (Prod.ext ?_ rfl) .nil))
    · decide +kernel
    · decide +kernel
  have hfound : linkedAccount acmeAccounts sampleEmployeeId sampleAccountStore =
      some ⟨{ toEmployeeReference := sampleEmployee }, some sampleAccount⟩ := rfl
  have hnewest : reactivatedSample ∈ sampleDeliveries := List.mem_cons_self
  exact status_events_converge hfound (by decide +kernel) (by decide +kernel) hnewest
    (by decide +kernel) hrun rfl hrun₁

end AccessService.Accounts
