/-
  AccessService.Employee.EmployeeEvents

  `employee-lifecycle.handler.ts` and `employee-attribute-propagation.service.ts`: what the
  events about an employee's record and reporting line write, and which attributes they
  tell the groups about.
-/

import AccessService.Employee.EmployeeStore

namespace AccessService.Persistence.Column

variable {α : Type}

/-- `?? undefined` -/
def given : Column α → Option α
  | .value a => some a
  | _ => none

/-- A text that is not empty. -/
def isTruthy : Column String → Bool
  | .value s => s ≠ ""
  | _ => false

end AccessService.Persistence.Column

namespace AccessService.Employee

open AccessService.Accounts AccessService.Js AccessService.Lib AccessService.Pg
open AccessService.Persistence

-- ============================================================================
-- Events
-- ============================================================================

/-- What comes in a property: `undefined`, `null` or a value. -/
structure EmployeeLifecyclePayload where
  id : Uuid
  tenantCode : String
  employeeCode : String
  companyId : Column String := .undefined
  locationId : Column String := .undefined
  departmentId : Column String := .undefined
  gradeId : Column String := .undefined
  jobTitleId : Column String := .undefined
  employmentStatus : Column String := .undefined
  status : Column String := .undefined
  oldManagerEmployeeId : Column Uuid := .undefined
  newManagerEmployeeId : Column Uuid := .undefined
  managerEmployeeId : Column Uuid := .undefined
  sourceVersion : SafeInteger
  deriving DecidableEq

/-- `EmployeeStatus.ACTIVE` -/
def activeStatus : String := "active"

namespace EmployeeAttributePropagationService

def createdEmployee (data : EmployeeLifecyclePayload) : EmployeeRow where
  id := data.id
  tenantCode := data.tenantCode
  employeeCode := data.employeeCode
  companyId := data.companyId.given
  locationId := data.locationId.given
  departmentId := data.departmentId.given
  gradeId := data.gradeId.given
  jobTitleId := data.jobTitleId.given
  employmentStatus := activeStatus
  status := activeStatus
  managerId := data.managerEmployeeId.given
  sourceVersion := some (toString data.sourceVersion.val)

def projectionUpdate (data : EmployeeLifecyclePayload) : EmployeeUpdate where
  companyId := data.companyId.given
  locationId := data.locationId.given
  departmentId := data.departmentId.given
  gradeId := data.gradeId.given
  jobTitleId := data.jobTitleId.given
  employmentStatus := data.employmentStatus.given

def changedKeys (data : EmployeeLifecyclePayload) : List String :=
  ([("departmentId", data.departmentId.isTruthy), ("locationId", data.locationId.isTruthy),
    ("companyId", data.companyId.isTruthy), ("gradeId", data.gradeId.isTruthy),
    ("jobTitleId", data.jobTitleId.isTruthy),
    ("employmentStatus", data.employmentStatus.isTruthy || data.status.isTruthy)].filter
      fun entry => entry.2).map fun entry => entry.1

def handleEmployeeAttributeChange (ctx : Context) (tenantCode : String) (employeeId : Uuid)
    (changedAttributeKeys : List String) : EmployeeService Unit :=
  .zoom EmployeeStore.view EmployeeStore.setAuthz
    (UserGroups.EmployeeAttributePropagationService.handleEmployeeAttributeChange ctx tenantCode
      employeeId changedAttributeKeys)

def handleEmployeeUpsert (ctx : Context) (data : EmployeeLifecyclePayload) :
    EmployeeService Unit := do
  let employee ← EmployeeReferenceRepository.findById ctx data.id
  match employee with
  | none => EmployeeReferenceRepository.create (createdEmployee data)
  | some _ => do
    EmployeeReferenceRepository.update data.id (projectionUpdate data)
    .when ((changedKeys data).length > 0)
      (handleEmployeeAttributeChange ctx data.tenantCode data.id (changedKeys data))

/-- One manager whose number of reportees changes. -/
def moveReportee (ctx : Context) (tenantCode : String) (delta : ℤ) :
    Column Uuid → EmployeeService Unit
  | .value managerId => do
    EmployeeReferenceRepository.updateReporteesCount tenantCode managerId delta
    handleEmployeeAttributeChange ctx tenantCode managerId ["reporteesCount", "hasReportees"]
  | _ => pure ()

def handleEmployeeReportingLineChanged (ctx : Context) (tenantCode : String)
    (oldManagerEmployeeId newManagerEmployeeId : Column Uuid) : EmployeeService Unit := do
  moveReportee ctx tenantCode (-1) oldManagerEmployeeId
  moveReportee ctx tenantCode 1 newManagerEmployeeId

end EmployeeAttributePropagationService

namespace EmployeeLifecycleHandler

open EmployeeAttributePropagationService

/-- A payload without a tenant is dropped; else it makes the tenant of the request. -/
def inTenant (ctx : Context) (payload : EmployeeLifecyclePayload)
    (body : Context → EmployeeService Unit) : EmployeeService Unit :=
  if payload.tenantCode = "" then pure ()
  else body { ctx with tenantCode := payload.tenantCode }

def handleEmployeeReportingLineChanged (ctx : Context) (payload : EmployeeLifecyclePayload) :
    EmployeeService Unit :=
  inTenant ctx payload fun ctx =>
    EmployeeAttributePropagationService.handleEmployeeReportingLineChanged ctx payload.tenantCode
      payload.oldManagerEmployeeId payload.newManagerEmployeeId

def handleEmployeeUpdated (ctx : Context) (payload : EmployeeLifecyclePayload) :
    EmployeeService Unit :=
  inTenant ctx payload fun ctx => handleEmployeeUpsert ctx payload

def handleEmployeeCreated (ctx : Context) (payload : EmployeeLifecyclePayload) :
    EmployeeService Unit :=
  inTenant ctx payload fun ctx => handleEmployeeUpsert ctx payload

end EmployeeLifecycleHandler

-- ============================================================================
-- The attributes of a record
-- ============================================================================

inductive EmployeeAttribute where
  | companyId
  | locationId
  | departmentId
  | gradeId
  | jobTitleId
  | employmentStatus
  deriving DecidableEq

namespace EmployeeAttribute

def key : EmployeeAttribute → String
  | .companyId => "companyId"
  | .locationId => "locationId"
  | .departmentId => "departmentId"
  | .gradeId => "gradeId"
  | .jobTitleId => "jobTitleId"
  | .employmentStatus => "employmentStatus"

def told (data : EmployeeLifecyclePayload) : EmployeeAttribute → Column String
  | .companyId => data.companyId
  | .locationId => data.locationId
  | .departmentId => data.departmentId
  | .gradeId => data.gradeId
  | .jobTitleId => data.jobTitleId
  | .employmentStatus => data.employmentStatus

def stored (employee : EmployeeRow) : EmployeeAttribute → Option String
  | .companyId => employee.companyId
  | .locationId => employee.locationId
  | .departmentId => employee.departmentId
  | .gradeId => employee.gradeId
  | .jobTitleId => employee.jobTitleId
  | .employmentStatus => some employee.employmentStatus

end EmployeeAttribute

-- ============================================================================
-- What a handled event leaves of the employees
-- ============================================================================

variable {ctx : Context} {data : EmployeeLifecyclePayload} {tenantCode : String} {id : Uuid}
  {w w' : World EmployeeStore Failure} {u : Unit} {employee : EmployeeRow}

/-- `write` of a value, `null` left out. -/
theorem EmployeeAttribute.stored_updated (a : EmployeeAttribute) :
    a.stored ((EmployeeAttributePropagationService.projectionUpdate data).apply employee) =
      (a.told data).given.or (a.stored employee) := by
  cases a with
  | employmentStatus => cases h : data.employmentStatus <;> simp [stored, told, h,
      EmployeeAttributePropagationService.projectionUpdate, EmployeeUpdate.apply, Column.given]
  | _ => rfl

theorem EmployeeStore.employee_congr {s s' : EmployeeStore} (h : s'.accounts = s.accounts) :
    s'.employee tenantCode id = s.employee tenantCode id := by
  unfold EmployeeStore.employee
  rw [h]

namespace EmployeeAttributePropagationService

/-- The employee's row once the payload is in it. -/
def upserted (data : EmployeeLifecyclePayload) : Option EmployeeRow → EmployeeRow
  | none => createdEmployee data
  | some employee => (projectionUpdate data).apply employee

theorem handleEmployeeAttributeChange_accounts {keys : List String} :
    Faulty.Leaves EmployeeStore.accounts
      (handleEmployeeAttributeChange ctx tenantCode id keys) :=
  Faulty.leaves_zoom fun _ _ => rfl

theorem handleEmployeeUpsert_ok (htenant : ctx.tenantCode = data.tenantCode)
    (h : handleEmployeeUpsert ctx data w = (.ok u, w')) :
    ∃ w₁, WritesEmployee w.state w₁.state
        (upserted data (w.state.employee data.tenantCode data.id)) ∧
      ((w.state.employee data.tenantCode data.id = none ∧ w' = w₁) ∨
        (∃ employee, w.state.employee data.tenantCode data.id = some employee) ∧
          Faulty.when ((changedKeys data).length > 0)
            (handleEmployeeAttributeChange ctx data.tenantCode data.id (changedKeys data)) w₁ =
              (.ok u, w')) := by
  obtain ⟨found, w₀, hfind, hrest⟩ := Faulty.bind_ok.mp h
  obtain ⟨rfl, hstate⟩ := Faulty.read_ok hfind
  rw [← hstate]
  rw [htenant, ← hstate] at hrest
  rcases hfound : w₀.state.employee data.tenantCode data.id with _ | employee
  · rw [hfound] at hrest
    exact ⟨w', EmployeeReferenceRepository.create_ok hrest, .inl ⟨rfl, rfl⟩⟩
  · rw [hfound] at hrest
    obtain ⟨v, w₁, hupdate, hrest⟩ := Faulty.bind_ok.mp hrest
    exact ⟨w₁, EmployeeReferenceRepository.update_ok hfound hupdate, .inr ⟨⟨_, rfl⟩, hrest⟩⟩

theorem handleEmployeeUpsert_employee (htenant : ctx.tenantCode = data.tenantCode)
    (h : handleEmployeeUpsert ctx data w = (.ok u, w')) (tenantCode : String) (id : Uuid) :
    w'.state.employee tenantCode id =
      if data.tenantCode = tenantCode ∧ data.id = id then
        some (upserted data (w.state.employee data.tenantCode data.id))
      else w.state.employee tenantCode id := by
  obtain ⟨w₁, hwrites, hrest⟩ := handleEmployeeUpsert_ok htenant h
  have hsame : w'.state.accounts = w₁.state.accounts := by
    rcases hrest with ⟨-, rfl⟩ | ⟨-, hrest⟩
    · rfl
    · exact (Faulty.leaves_when handleEmployeeAttributeChange_accounts).ok hrest
  have hkey : ∀ found, w.state.employee data.tenantCode data.id = found →
      (upserted data found).tenantCode = data.tenantCode ∧ (upserted data found).id = data.id := by
    rintro (_ | employee) hfound
    · exact ⟨rfl, rfl⟩
    · exact (EmployeeStore.employee_eq_some.mp hfound).2
  obtain ⟨htenant', hid'⟩ := hkey _ rfl
  rw [EmployeeStore.employee_congr hsame, hwrites.found, htenant', hid']

end EmployeeAttributePropagationService

end AccessService.Employee
