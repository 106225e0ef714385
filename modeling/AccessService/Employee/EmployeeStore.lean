/-
  AccessService.Employee.EmployeeStore

  The store that events about employees work on: the accounts, and what the authorization
  services keep, which see the users and the employees of the accounts.  With it the
  queries of `employee-reference.repository.ts`.
-/

import AccessService.Accounts.StatusEvents
import AccessService.UserGroups.EmployeeAttributePropagation

namespace AccessService.Employee

open AccessService.Accounts AccessService.Lib AccessService.Pg AccessService.Persistence

/-- `authz` has users and employees of its own, which nothing reads. -/
structure EmployeeStore where
  accounts : AccountStore
  authz : Store

abbrev EmployeeService (α : Type) : Type := Faulty EmployeeStore Failure α

namespace EmployeeStore

def employee (s : EmployeeStore) (tenantCode : String) (id : Uuid) : Option EmployeeRow :=
  s.accounts.db.employees.rows.find? fun e => e.tenantCode = tenantCode && e.id = id

/-- The user linked to an employee. -/
def userOf (s : EmployeeStore) (tenantCode : String) (employeeRefId : Uuid) : Option UserRow :=
  s.accounts.db.users.rows.find? fun u =>
    u.tenantCode = tenantCode && u.employeeRefId = some employeeRefId

/-- What the authorization services see. -/
def view (s : EmployeeStore) : Store :=
  { s.authz with
    db := { s.authz.db with
      users := s.accounts.db.users.mapRows UserRow.toUser fun _ => rfl
      employees := s.accounts.db.employees.mapRows EmployeeRow.toEmployeeReference fun _ => rfl } }

def setAuthz (s : EmployeeStore) (authz : Store) : EmployeeStore := { s with authz := authz }

def withEmployees (s : EmployeeStore) (employees : Keyed EmployeeRow fun row => row.id) :
    EmployeeStore :=
  { s with accounts := { s.accounts with db := { s.accounts.db with employees := employees } } }

variable {s : EmployeeStore} {tenantCode : String} {id : Uuid}

theorem view_employee :
    s.view.db.employee tenantCode id =
      (s.employee tenantCode id).map EmployeeRow.toEmployeeReference :=
  List.find?_map

theorem view_userOf :
    s.view.db.userOf tenantCode id = (s.userOf tenantCode id).map UserRow.toUser :=
  List.find?_map

theorem employee_eq_some {e : EmployeeRow} :
    s.employee tenantCode id = some e ↔
      e ∈ s.accounts.db.employees.rows ∧ e.tenantCode = tenantCode ∧ e.id = id :=
  Keyed.find?_and_key

end EmployeeStore

-- ============================================================================
-- The repository
-- ============================================================================

/-- `uq_employee_references_tenant_employee_code` -/
def sameCode (employee other : EmployeeRow) : Bool :=
  other.tenantCode = employee.tenantCode && other.employeeCode = employee.employeeCode

/-- The columns that an update of the projection names; `none` is undefined. -/
structure EmployeeUpdate where
  companyId : Option String
  locationId : Option String
  departmentId : Option String
  gradeId : Option String
  jobTitleId : Option String
  employmentStatus : Option String

/-- What is undefined is not written. -/
def EmployeeUpdate.apply (change : EmployeeUpdate) (employee : EmployeeRow) : EmployeeRow :=
  { employee with
    companyId := change.companyId.or employee.companyId
    locationId := change.locationId.or employee.locationId
    departmentId := change.departmentId.or employee.departmentId
    gradeId := change.gradeId.or employee.gradeId
    jobTitleId := change.jobTitleId.or employee.jobTitleId
    employmentStatus := change.employmentStatus.getD employee.employmentStatus }

def outOfRange : Failure where
  name := "QueryFailedError"
  message := "integer out of range"

namespace EmployeeReferenceRepository

def findById (ctx : Context) (id : Uuid) : EmployeeService (Option EmployeeRow) :=
  .read fun s => s.employee ctx.tenantCode id

def create (employee : EmployeeRow) : EmployeeService Unit :=
  .call fun s =>
    match insertRow sameCode s.accounts.db.employees employee with
    | some employees => .ok ((), s.withEmployees employees)
    | none => .error uniqueViolation

def overwritten (id : Uuid) (change : EmployeeUpdate) (employee : EmployeeRow) : EmployeeRow :=
  if employee.id = id then change.apply employee else employee

theorem overwritten_id (id : Uuid) (change : EmployeeUpdate) (employee : EmployeeRow) :
    (overwritten id change employee).id = employee.id := by
  unfold overwritten
  split <;> rfl

def update (id : Uuid) (change : EmployeeUpdate) : EmployeeService Unit :=
  .write fun s => s.withEmployees
    (s.accounts.db.employees.update (overwritten id change) (overwritten_id id change))

/-- `GREATEST(0, reportees_count + $1)` -/
def counted (employee : EmployeeRow) (delta : ℤ) : Option EmployeeRow :=
  (Int4.ofInt? (employee.reporteesCount.val + delta)).map fun sum =>
    { employee with
      reporteesCount := if sum.val < 0 then ⟨0, by decide, by decide⟩ else sum }

def updateReporteesCount (tenantCode : String) (employeeId : Uuid) (delta : ℤ) :
    EmployeeService Unit :=
  .call fun s =>
    match s.employee tenantCode employeeId with
    | none => .ok ((), s)
    | some employee =>
      match counted employee delta with
      | some employee' => .ok ((), s.withEmployees (s.accounts.db.employees.replace employee'))
      | none => .error outOfRange

end EmployeeReferenceRepository

-- ============================================================================
-- What a write leaves to be found
-- ============================================================================

/-- The employee with the key of `e` is `e`; everything else is as it was. -/
structure WritesEmployee (s s' : EmployeeStore) (e : EmployeeRow) : Prop where
  authz : s'.authz = s.authz
  users : s'.accounts.db.users = s.accounts.db.users
  found : ∀ tenantCode id, s'.employee tenantCode id =
    if e.tenantCode = tenantCode ∧ e.id = id then some e else s.employee tenantCode id

section Writes

variable {s : EmployeeStore} {w w' : World EmployeeStore Failure} {u : Unit} {e e' : EmployeeRow}
  {tenantCode : String} {id : Uuid}

theorem WritesEmployee.userOf {s' : EmployeeStore} (h : WritesEmployee s s' e) :
    s'.userOf tenantCode id = s.userOf tenantCode id := by
  unfold EmployeeStore.userOf
  rw [h.users]

theorem writes_replace (he : e ∈ s.accounts.db.employees.rows) (hid : e'.id = e.id)
    (htenant : e'.tenantCode = e.tenantCode) :
    WritesEmployee s (s.withEmployees (s.accounts.db.employees.replace e')) e' where
  authz := rfl
  users := rfl
  found tenantCode id := by
    unfold EmployeeStore.employee
    show (s.accounts.db.employees.replace e').rows.find? _ = _
    rw [Keyed.find?_replace_of_same he hid (by simp only [hid, htenant])]
    split
    next hkey =>
      have hfound : s.employee tenantCode id = some e :=
        EmployeeStore.employee_eq_some.mpr ⟨he, htenant ▸ hkey.1, hid ▸ hkey.2⟩
      unfold EmployeeStore.employee at hfound
      rw [hfound]
      exact congrArg some (if_pos hid.symm)
    next hkey =>
      rcases hfound : s.employee tenantCode id with _ | c
      · unfold EmployeeStore.employee at hfound
        rw [hfound, Option.map_none]
      · obtain ⟨hmem, hc⟩ := EmployeeStore.employee_eq_some.mp hfound
        have hne : c.id ≠ e'.id := by
          intro hsame
          obtain rfl := s.accounts.db.employees.row_unique hmem he (hsame.trans hid)
          exact hkey ⟨htenant.trans hc.1, hid.trans hc.2⟩
        unfold EmployeeStore.employee at hfound
        rw [hfound]
        exact congrArg some (if_neg hne)

namespace EmployeeReferenceRepository

theorem create_ok (h : create e w = (.ok u, w')) : WritesEmployee w.state w'.state e := by
  have hcall := Faulty.call_ok h
  split at hcall
  next employees hinsert =>
    rw [← (Prod.mk.inj (Except.ok.inj hcall)).2]
    unfold insertRow at hinsert
    split at hinsert
    · cases hinsert
    · have hnew : ∀ c ∈ w.state.accounts.db.employees.rows, c.id ≠ e.id := by
        intro c hc hsame
        unfold Keyed.insert at hinsert
        rw [dif_pos (List.mem_map.mpr ⟨c, hc, hsame⟩)] at hinsert
        cases hinsert
      refine ⟨rfl, rfl, fun tenantCode id => ?_⟩
      unfold EmployeeStore.employee
      show employees.rows.find? _ = _
      rw [Keyed.insert_rows hinsert, List.find?_append]
      split
      next hkey =>
        have hnone : w.state.employee tenantCode id = none := by
          refine List.find?_eq_none.mpr fun c hc hfound => ?_
          rw [Bool.and_eq_true, decide_eq_true_eq, decide_eq_true_eq] at hfound
          exact hnew c hc (hfound.2.trans hkey.2.symm)
        unfold EmployeeStore.employee at hnone
        rw [hnone, Option.none_or]
        exact List.find?_cons_of_pos (by simp [hkey])
      next hkey =>
        have hother : [e].find? (fun c => c.tenantCode = tenantCode && c.id = id) = none := by
          refine List.find?_eq_none.mpr fun c hc hfound => hkey ?_
          rw [List.mem_singleton.mp hc, Bool.and_eq_true, decide_eq_true_eq,
            decide_eq_true_eq] at hfound
          exact hfound
        rw [hother, Option.or_none]
  · cases hcall

/-- The update is by id: the employee of the tenant is the one with it. -/
theorem update_ok {change : EmployeeUpdate} (hfound : w.state.employee tenantCode id = some e)
    (h : update id change w = (.ok u, w')) :
    WritesEmployee w.state w'.state (change.apply e) := by
  obtain ⟨hmem, -, hid⟩ := EmployeeStore.employee_eq_some.mp hfound
  have hsame : w.state.accounts.db.employees.update (overwritten id change)
      (overwritten_id id change) = w.state.accounts.db.employees.replace (change.apply e) := by
    unfold Keyed.replace Keyed.update
    congr 1
    refine List.map_congr_left fun c hc => ?_
    unfold overwritten
    by_cases hc' : c.id = id
    · obtain rfl := w.state.accounts.db.employees.row_unique hc hmem (hc'.trans hid.symm)
      rw [if_pos hc']
      exact (if_pos rfl).symm
    · rw [if_neg hc']
      exact (if_neg fun hkey => hc' (hkey.trans hid)).symm
  rw [Faulty.write_ok h, hsame]
  exact writes_replace hmem rfl rfl

/-- The row of the manager, if there is one, has the new count. -/
theorem updateReporteesCount_ok {delta : ℤ}
    (h : updateReporteesCount tenantCode id delta w = (.ok u, w')) :
    (w.state.employee tenantCode id = none ∧ w'.state = w.state) ∨
      ∃ manager manager', w.state.employee tenantCode id = some manager ∧
        counted manager delta = some manager' ∧
        WritesEmployee w.state w'.state manager' := by
  have hcall := Faulty.call_ok h
  split at hcall
  next hnone => exact .inl ⟨hnone, (Prod.mk.inj (Except.ok.inj hcall)).2.symm⟩
  next manager hfound =>
    split at hcall
    next manager' hcounted =>
      refine .inr ⟨manager, manager', hfound, hcounted, ?_⟩
      rw [← (Prod.mk.inj (Except.ok.inj hcall)).2]
      obtain ⟨sum, -, rfl⟩ := Option.map_eq_some_iff.mp hcounted
      exact writes_replace (EmployeeStore.employee_eq_some.mp hfound).1 rfl rfl
    · cases hcall

end EmployeeReferenceRepository

end Writes

-- ============================================================================
-- A small store
-- ============================================================================

/-- A store without employees, with a group for everybody of one department. -/
def emptyStore : EmployeeStore where
  accounts := { db := { users := .empty, employees := .empty, tenants := ["acme"] } }
  authz := { db := sampleDatabase false .empty }

end AccessService.Employee
