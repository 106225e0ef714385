/-
  AccessService.UserGroups.MatchingEngine

  `user-group-matching.engine.ts`: the in-memory evaluator of a matching rule
  and the translation of the same rule to a parameterised query.
-/

import AccessService.Employee.EmployeeReference
import AccessService.UserGroups.MatchingRule

namespace AccessService.UserGroups

open AccessService.Js AccessService.Lib.Sql AccessService.Pg
open AccessService.Employee (EmployeeReference)

namespace UserGroupMatchingEngine

-- ============================================================================
-- In-memory evaluation
-- ============================================================================

def ofNullable : Option String → JsValue
  | some s => .str s
  | none => .null

def extractEmployeeValue («attribute» : String) (employee : EmployeeReference) : JsValue :=
  match «attribute» with
  | "employmentStatus" => .str employee.employmentStatus
  | "companyId" => ofNullable employee.companyId
  | "locationId" => ofNullable employee.locationId
  | "departmentId" => ofNullable employee.departmentId
  | "gradeId" => ofNullable employee.gradeId
  | "jobTitleId" => ofNullable employee.jobTitleId
  | "reporteesCount" => .num employee.reporteesCount.toSafeInteger
  -- `employee[attribute]`: no other allowed attribute is a property of the entity
  | _ => .undefined

/-- The operator switch of `evaluateClause` on an extracted value. -/
def evaluateOperator (op : String) (clause : MatchingRuleClause) (employeeValue : JsValue) :
    Bool :=
  match op with
  | "eq" | "equals" => employeeValue.toText = clause.value.toText
  | "neq" | "not_equals" => employeeValue.toText ≠ clause.value.toText
  | "in" =>
    let values := (clause.values.getD []).map JsValue.toText
    employeeValue.isPresent && employeeValue.toText ∈ values
  | "not_in" =>
    let values := (clause.values.getD []).map JsValue.toText
    !employeeValue.isPresent || employeeValue.toText ∉ values
  | "gt" | "greater_than" => clause.value.toNumber.lt employeeValue.toNumber
  | "gte" | "greater_than_or_equal" => clause.value.toNumber.le employeeValue.toNumber
  | "lt" | "less_than" => employeeValue.toNumber.lt clause.value.toNumber
  | "lte" | "less_than_or_equal" => employeeValue.toNumber.le clause.value.toNumber
  | "is_true" => employeeValue.toBoolean
  | "is_false" => !employeeValue.toBoolean
  | "exists" => employeeValue.isPresent && employeeValue ≠ .str ""
  | _ => false

def evaluateClause (clause : MatchingRuleClause) (employee : EmployeeReference) : Bool :=
  if clause.attribute = "" then false
  else
    let op := toLowerCase clause.operator
    let reporteesCount := employee.reporteesCount.val
    if clause.attribute = "hasReportees" ∧ (op = "is_true" ∨ op = "eq" ∨ op = "equals") then
      let expected := if clause.value ≠ .undefined then clause.value.toBoolean else true
      if expected then reporteesCount > 0 else reporteesCount = 0
    else if clause.attribute = "hasReportees" ∧ op = "is_false" then
      reporteesCount = 0
    else
      evaluateOperator op clause (extractEmployeeValue clause.attribute employee)

def evaluate (rule : MatchingRule) (employee : EmployeeReference) : Bool :=
  if rule.clauses = [] then false
  else rule.clauses.all fun clause => evaluateClause clause employee

-- ============================================================================
-- Translation to SQL
-- ============================================================================

/-- The columns of `employee_references` a matching query reads. -/
inductive Column where
  | tenantCode
  | employmentStatus
  | companyId
  | locationId
  | departmentId
  | gradeId
  | jobTitleId
  | reporteesCount
  deriving DecidableEq

def Column.name : Column → String
  | .tenantCode => "tenant_code"
  | .employmentStatus => "employment_status"
  | .companyId => "company_id"
  | .locationId => "location_id"
  | .departmentId => "department_id"
  | .gradeId => "grade_id"
  | .jobTitleId => "job_title_id"
  | .reporteesCount => "reportees_count"

def mapAttributeToColumn («attribute» : String) : Option Column :=
  match «attribute» with
  | "employmentStatus" => some .employmentStatus
  | "companyId" => some .companyId
  | "locationId" => some .locationId
  | "departmentId" => some .departmentId
  | "gradeId" => some .gradeId
  | "jobTitleId" => some .jobTitleId
  | "reporteesCount" => some .reporteesCount
  | _ => none

/-- A query parameter as the builder pushes it. -/
inductive QueryParam where
  | value (v : JsValue)
  | values (vs : List JsValue)
  deriving DecidableEq

/-- What one clause adds to the query: parameters and conditions. -/
abbrev ClauseSql := List QueryParam × List (SqlCondition Column)

/-- The operator switch of `buildMatchingQuery`; `k` is the number of the
    parameter the clause would push. -/
def translateOperator (op : String) (clause : MatchingRuleClause) (column : Column) (k : Nat) :
    ClauseSql :=
  let compare (cmp : SqlCompare) : ClauseSql :=
    ([.value clause.value], [.compare column cmp (.param k)])
  let values := clause.values.getD []
  match op with
  | "eq" | "equals" => compare .eq
  | "neq" | "not_equals" =>
    ([.value clause.value], [.or (.isNull column) (.compare column .ne (.param k))])
  | "in" => ([.values values], [.eqAny column k])
  | "not_in" => ([.values values], [.or (.isNull column) (.not (.eqAny column k))])
  | "gt" | "greater_than" => compare .gt
  | "gte" | "greater_than_or_equal" => compare .ge
  | "lt" | "less_than" => compare .lt
  | "lte" | "less_than_or_equal" => compare .le
  | "exists" => ([], [.and (.isNotNull column) (.compare column .ne (.quoted ""))])
  | _ => ([], [])

def translateClause (clause : MatchingRuleClause) (k : Nat) : ClauseSql :=
  if clause.attribute = "" then ([], [])
  else
    let op := toLowerCase clause.operator
    if clause.attribute = "hasReportees" then
      if op = "is_true" ∨ (op = "eq" ∧ clause.value = .bool true) then
        ([], [.compare .reporteesCount .gt (.number "0")])
      else if op = "is_false" ∨ (op = "eq" ∧ clause.value = .bool false) then
        ([], [.compare .reporteesCount .eq (.number "0")])
      else ([], [])
    else
      match mapAttributeToColumn clause.attribute with
      | some column => translateOperator op clause column k
      | none => ([], [])

/-- The clause loop: the parameters and conditions after the first `pushed`
    parameters. -/
def translateClauses : List MatchingRuleClause → Nat → ClauseSql
  | [], _ => ([], [])
  | clause :: clauses, pushed =>
    let (params, conditions) := translateClause clause (pushed + 1)
    let (params', conditions') := translateClauses clauses (pushed + params.length)
    (params ++ params', conditions ++ conditions')

structure MatchingQuery where
  conditions : List (SqlCondition Column)
  params : List QueryParam
  deriving DecidableEq

/-- `buildMatchingQuery`, with the conditions of the WHERE clause kept apart. -/
def buildMatchingQuery (tenantCode : String) (rule : MatchingRule) : MatchingQuery :=
  let (params, conditions) := translateClauses rule.clauses 1
  { conditions := .compare .tenantCode .eq (.param 1) :: conditions
    params := .value (.str tenantCode) :: params }

/-- The text of the query. -/
def MatchingQuery.sql (query : MatchingQuery) : String :=
  "SELECT employee_id FROM employee_references WHERE " ++
    " AND ".intercalate (query.conditions.map (SqlCondition.toSql Column.name))

-- ============================================================================
-- Running the query
-- ============================================================================

/-- A value as the driver binds it: null and undefined are NULL, everything else
    is sent as its text. -/
def bindValue (v : JsValue) : Option String :=
  if v.isPresent then some v.toText else none

def QueryParam.bind : QueryParam → SqlParam
  | .value v => .scalar (bindValue v)
  | .values vs => .array (vs.map bindValue)

/-- The types of the columns.  The organisational ids share one type, which the
    migrations and the entity class declare differently (VARCHAR and UUID), and
    the order of text depends on the database's collation; both are parameters. -/
structure ColumnTypes where
  idType : SqlType String
  collation : String → String → Bool

def Column.Datum : Column → Type
  | .reporteesCount => Int4
  | _ => String

instance (c : Column) : DecidableEq c.Datum :=
  match c with
  | .reporteesCount => inferInstanceAs (DecidableEq Int4)
  | .tenantCode | .employmentStatus | .companyId | .locationId | .departmentId
  | .gradeId | .jobTitleId => inferInstanceAs (DecidableEq String)

def ColumnTypes.type (types : ColumnTypes) : (c : Column) → SqlType c.Datum
  | .tenantCode | .employmentStatus => varchar types.collation
  | .companyId | .locationId | .departmentId | .gradeId | .jobTitleId => types.idType
  | .reporteesCount => int4

/-- The stored values of a row. -/
def storedValue (employee : EmployeeReference) : (c : Column) → Option c.Datum
  | .tenantCode => some employee.tenantCode
  | .employmentStatus => some employee.employmentStatus
  | .companyId => employee.companyId
  | .locationId => employee.locationId
  | .departmentId => employee.departmentId
  | .gradeId => employee.gradeId
  | .jobTitleId => employee.jobTitleId
  | .reporteesCount => some employee.reporteesCount

/-- The row satisfies the WHERE condition of the query with its parameters. -/
def MatchingQuery.Selects (query : MatchingQuery) (types : ColumnTypes)
    (employee : EmployeeReference) : Prop :=
  Lib.Sql.Selects types.type (query.params.map QueryParam.bind) (storedValue employee)
    query.conditions

instance (query : MatchingQuery) (types : ColumnTypes) (employee : EmployeeReference) :
    Decidable (query.Selects types employee) :=
  inferInstanceAs (Decidable (Lib.Sql.Selects _ _ _ _))

end UserGroupMatchingEngine

end AccessService.UserGroups
