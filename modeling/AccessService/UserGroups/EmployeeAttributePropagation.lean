/-
  AccessService.UserGroups.EmployeeAttributePropagation

  `employee-attribute-propagation.service.ts` and the queries about employees and
  their users it makes: when attributes of an employee change, the linked user is
  moved into the active groups whose rules match the employee.
-/

import AccessService.UserGroups.MembershipReconciler

namespace AccessService.Persistence.Database

open AccessService.Employee AccessService.Pg AccessService.UserGroups.UserGroupMatchingEngine

def employee (db : Database) (tenantCode : String) (id : Uuid) : Option EmployeeReference :=
  db.employees.rows.find? fun e => e.tenantCode = tenantCode && e.id = id

/-- The user linked to an employee. -/
def userOf (db : Database) (tenantCode : String) (employeeRefId : Uuid) : Option User :=
  db.users.rows.find? fun u => u.tenantCode = tenantCode && u.employeeRefId = some employeeRefId

/-- The employees a matching query selects. -/
def matchedEmployeeIds (db : Database) (types : ColumnTypes) (query : MatchingQuery) : List Uuid :=
  (db.employees.rows.filter fun e => query.Selects types e).map (·.id)

variable {db : Database} {tenantCode : String}

theorem employee_eq_some {id : Uuid} {e : EmployeeReference} :
    db.employee tenantCode id = some e ↔
      e ∈ db.employees.rows ∧ e.tenantCode = tenantCode ∧ e.id = id :=
  Lib.Keyed.find?_and_key

theorem mem_matchedEmployeeIds {types : ColumnTypes} {query : MatchingQuery} {id : Uuid} :
    id ∈ db.matchedEmployeeIds types query ↔
      ∃ e ∈ db.employees.rows, query.Selects types e ∧ e.id = id := by
  simp only [matchedEmployeeIds, List.mem_map, List.mem_filter, decide_eq_true_eq, and_assoc]

end AccessService.Persistence.Database

namespace AccessService.UserGroups

open AccessService.Employee AccessService.Lib AccessService.Pg AccessService.Persistence
open UserGroupMatchingEngine

-- ============================================================================
-- The repositories
-- ============================================================================

def invalidInput : Failure where
  name := "QueryFailedError"
  message := "invalid input syntax"

namespace EmployeeReferenceRepository

def findById (ctx : Context) (id : Uuid) : Service (Option EmployeeReference) :=
  readDb fun db => db.employee ctx.tenantCode id

/-- A parameter that a column type rejects fails the statement, whatever the rows. -/
def getMatchedEmployeeIds (ctx : Context) (query : MatchingQuery) : Service (List Uuid) :=
  .call fun s =>
    match Sql.whereValue ctx.columns.type (query.params.map QueryParam.bind) (fun _ => none)
      query.conditions with
    | .error _ => .error invalidInput
    | .ok _ => .ok (s.db.matchedEmployeeIds ctx.columns query, s)

theorem reads_getMatchedEmployeeIds (ctx : Context) (query : MatchingQuery) :
    Faulty.Reads (getMatchedEmployeeIds ctx query) fun s =>
      s.db.matchedEmployeeIds ctx.columns query := by
  intro w
  rcases h : getMatchedEmployeeIds ctx query w with ⟨e | ids, w'⟩
  · exact ⟨Faulty.call_error h, nofun⟩
  · have hcall := Faulty.call_ok h
    split at hcall
    · cases hcall
    · obtain ⟨hids, hstate⟩ := Prod.mk.inj (Except.ok.inj hcall)
      exact ⟨hstate.symm, fun _ hok => (Except.ok.inj hok).symm.trans hids.symm⟩

end EmployeeReferenceRepository

def UserRepository.findByEmployeeId (ctx : Context) (employeeRefId : Uuid) :
    Service (Option User) :=
  readDb fun db => db.userOf ctx.tenantCode employeeRefId

-- ============================================================================
-- The service
-- ============================================================================

namespace EmployeeAttributePropagationService

/-- The loop over the active groups; a group without a rule matches nobody. -/
def matchingGroupIds (employee : EmployeeReference) (allActiveGroups : List UserGroup) :
    List Uuid :=
  (allActiveGroups.filter fun group => group.matchingRule.any (evaluate · employee)).map (·.id)

def handleEmployeeAttributeChange (ctx : Context) (tenantCode : String) (employeeId : Uuid)
    (changedAttributeKeys : List String) : Service Unit := do
  let found ← EmployeeReferenceRepository.findById ctx employeeId
  match found with
  | none => pure ()
  | some employee => do
    let candidateGroups ← UserGroupRepository.findByAttributeKeys ctx changedAttributeKeys
    if candidateGroups.length = 0 then pure ()
    else do
      let allActiveGroups ← UserGroupRepository.findActiveGroups ctx
      let user ← UserRepository.findByEmployeeId ctx employeeId
      match user with
      | none => pure ()
      | some user => do
        let _ ← MembershipReconciler.reconcileSingleUser ctx tenantCode user.id
          (matchingGroupIds employee allActiveGroups)
        pure ()

-- ============================================================================
-- What a change of attributes does to memberships
-- ============================================================================

/-- The active groups of the tenant whose rules match the employee. -/
def groupsMatching (db : Database) (tenantCode : String) (employee : EmployeeReference) :
    Set Uuid :=
  {id | ∃ g ∈ db.groups.rows, g.tenantCode = tenantCode ∧ g.status = .ACTIVE ∧ g.id = id ∧
    ∃ rule, g.matchingRule = some rule ∧ evaluate rule employee = true}

theorem matchingGroupIds_eq {db : Database} {tenantCode : String} {employee : EmployeeReference} :
    {id | id ∈ matchingGroupIds employee (db.activeGroups tenantCode)} =
      groupsMatching db tenantCode employee := by
  ext id
  show id ∈ matchingGroupIds employee (db.activeGroups tenantCode) ↔ _
  simp only [matchingGroupIds, List.mem_map, List.mem_filter, Database.mem_activeGroups,
    Option.any_eq_true]
  constructor
  · rintro ⟨g, ⟨⟨hmem, htenant, hactive⟩, hrule⟩, hid⟩
    exact ⟨g, hmem, htenant, hactive, hid, hrule⟩
  · rintro ⟨g, hmem, htenant, hactive, hid, hrule⟩
    exact ⟨g, ⟨⟨hmem, htenant, hactive⟩, hrule⟩, hid⟩

variable {ctx : Context} {tenantCode : String} {employeeId : Uuid} {keys : List String}
  {w w' : World Store Failure} {u : Unit}

/-- The rule of an active group reads one of the attributes. -/
def Monitored (db : Database) (tenantCode : String) (keys : List String) : Prop :=
  ∃ g ∈ db.activeGroups tenantCode, ∃ key ∈ g.ruleAttributeKeys, key ∈ keys

theorem findByAttributeKeys_ok {groups : List UserGroup}
    (h : UserGroupRepository.findByAttributeKeys ctx keys w = (.ok groups, w')) :
    w'.state = w.state ∧ (groups.length = 0 ↔ ¬Monitored w.state.db ctx.tenantCode keys) := by
  unfold UserGroupRepository.findByAttributeKeys at h
  split at h
  next hnil =>
    obtain ⟨rfl, rfl⟩ := Faulty.pure_ok.mp h
    refine ⟨rfl, iff_of_true rfl ?_⟩
    rintro ⟨-, -, key, -, hkey⟩
    rw [hnil] at hkey
    exact absurd hkey List.not_mem_nil
  · obtain ⟨rfl, hstate⟩ := (reads_readDb _).ok h
    refine ⟨hstate, ?_⟩
    rw [List.length_eq_zero_iff, List.filter_eq_nil_iff]
    simp only [List.any_eq_true, decide_eq_true_eq, Monitored, not_exists, not_and]

/-- A change of attributes does nothing, for want of an employee, a group or a user, or
    reconciles the user of the employee with the groups that match. -/
theorem handleEmployeeAttributeChange_cases
    (h : handleEmployeeAttributeChange ctx tenantCode employeeId keys w = (.ok u, w')) :
    (w'.state = w.state ∧ (w.state.db.employee ctx.tenantCode employeeId = none ∨
      ¬Monitored w.state.db ctx.tenantCode keys ∨
      w.state.db.userOf ctx.tenantCode employeeId = none)) ∨
    ∃ e user w₁ result, w.state.db.employee ctx.tenantCode employeeId = some e ∧
      w.state.db.userOf ctx.tenantCode employeeId = some user ∧ w₁.state = w.state ∧
      MembershipReconciler.reconcileSingleUser ctx tenantCode user.id
        (matchingGroupIds e (w.state.db.activeGroups ctx.tenantCode)) w₁ = (.ok result, w') := by
  simp only [handleEmployeeAttributeChange, Faulty.bind_ok] at h
  obtain ⟨found, w₁, hfound, hrest⟩ := h
  obtain ⟨hemployee, hstate₁⟩ := (reads_readDb _).ok hfound
  rcases found with _ | e
  · rw [← (Faulty.pure_ok.mp hrest).2]
    exact .inl ⟨hstate₁, .inl hemployee.symm⟩
  · obtain ⟨candidates, w₂, hcandidates, hrest⟩ := Faulty.bind_ok.mp hrest
    obtain ⟨hstate₂, hnone⟩ := findByAttributeKeys_ok hcandidates
    rw [hstate₁] at hstate₂ hnone
    split at hrest
    next hempty =>
      rw [← (Faulty.pure_ok.mp hrest).2]
      exact .inl ⟨hstate₂, .inr (.inl (hnone.mp hempty))⟩
    · simp only [Faulty.bind_ok] at hrest
      obtain ⟨groups, w₃, hgroups, user, w₄, huser, hrest⟩ := hrest
      obtain ⟨rfl, hstate₃⟩ := (reads_readDb _).ok hgroups
      obtain ⟨hlinked, hstate₄⟩ := (reads_readDb _).ok huser
      have hstate : w₄.state = w.state := hstate₄.trans (hstate₃.trans hstate₂)
      rw [hstate₃, hstate₂] at hlinked
      rcases user with _ | user
      · rw [← (Faulty.pure_ok.mp hrest).2]
        exact .inl ⟨hstate, .inr (.inr hlinked.symm)⟩
      · simp only [Faulty.bind_ok, Faulty.pure_ok] at hrest
        obtain ⟨result, w₅, hreconcile, -, rfl⟩ := hrest
        rw [hstate₂] at hreconcile
        exact .inr ⟨e, user, w₄, result, hemployee.symm, hlinked.symm, hstate, hreconcile⟩

/-- A change of attributes keeps a user's groups, or makes them the matching ones of
    the employee the user is linked to. -/
theorem handleEmployeeAttributeChange_groups
    (h : handleEmployeeAttributeChange ctx tenantCode employeeId keys w = (.ok u, w'))
    (userId : Uuid) :
    groupsOf w'.state.db ctx.tenantCode userId = groupsOf w.state.db ctx.tenantCode userId ∨
      ∃ e, w.state.db.employee ctx.tenantCode employeeId = some e ∧
        groupsOf w'.state.db ctx.tenantCode userId =
          groupsMatching w.state.db ctx.tenantCode e := by
  rcases handleEmployeeAttributeChange_cases h with
    ⟨hstate, -⟩ | ⟨e, user, w₁, result, hemployee, -, hstate, hreconcile⟩
  · exact .inl (by rw [hstate])
  · by_cases hmine : userId = user.id
    · subst hmine
      refine .inr ⟨e, hemployee, ?_⟩
      rw [MembershipReconciler.reconcileSingleUser_groups hreconcile, matchingGroupIds_eq]
    · refine .inl ?_
      rw [(MembershipReconciler.reconcileSingleUser_elsewhere hreconcile).2 _ _
        fun hkey => hmine hkey.2, hstate]

end EmployeeAttributePropagationService

end AccessService.UserGroups
