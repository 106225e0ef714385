/-
  AccessService.Employee.EmployeeReference

  A row of `employee_references` as the entity class hands it to the code.  The
  organisational attributes are nullable; the employment status and the
  reportee count are not.
-/

import AccessService.Pg.Types

namespace AccessService.Employee

open AccessService.Pg

structure EmployeeReference where
  id : Uuid
  tenantCode : String
  employeeCode : String
  companyId : Option String := none
  locationId : Option String := none
  departmentId : Option String := none
  gradeId : Option String := none
  jobTitleId : Option String := none
  employmentStatus : String := "ACTIVE"
  status : String
  managerId : Option Uuid := none
  reporteesCount : Int4 := ⟨0, Int4.lower_zero, Int4.zero_upper⟩
  deriving DecidableEq

end AccessService.Employee
