/-
  AccessService.UserGroups.AttributeKeys

  The attribute keys of a group's rule cover all that its evaluation reads, so a change of
  other attributes leaves the groups that match an employee as they were, and re-evaluation
  may be skipped.
-/

import AccessService.Employee.MembershipMirror
import AccessService.UserGroups.GroupAdministration

namespace AccessService.UserGroups

open AccessService.Employee (EmployeeReference)
open AccessService.Lib AccessService.Pg AccessService.Persistence
open UserGroupMatchingEngine

-- ============================================================================
-- The attributes that rules are about
-- ============================================================================

/-- `hasReportees` is about the count. -/
inductive RuleAttribute where
  | employmentStatus
  | companyId
  | locationId
  | departmentId
  | gradeId
  | jobTitleId
  | reporteesCount
  deriving DecidableEq

namespace RuleAttribute

/-- The keys that `handleEmployeeAttributeChange` receives when the attribute changes. -/
def eventKeys : RuleAttribute → List String
  | .employmentStatus => ["employmentStatus"]
  | .companyId => ["companyId"]
  | .locationId => ["locationId"]
  | .departmentId => ["departmentId"]
  | .gradeId => ["gradeId"]
  | .jobTitleId => ["jobTitleId"]
  | .reporteesCount => ["reporteesCount", "hasReportees"]

def Same (e e' : EmployeeReference) : RuleAttribute → Prop
  | .employmentStatus => e.employmentStatus = e'.employmentStatus
  | .companyId => e.companyId = e'.companyId
  | .locationId => e.locationId = e'.locationId
  | .departmentId => e.departmentId = e'.departmentId
  | .gradeId => e.gradeId = e'.gradeId
  | .jobTitleId => e.jobTitleId = e'.jobTitleId
  | .reporteesCount => e.reporteesCount = e'.reporteesCount

/-- The attribute is among the keys, under one of its names. -/
def Among (keys : List String) (a : RuleAttribute) : Prop := ∃ key ∈ a.eventKeys, key ∈ keys

variable {e e' : EmployeeReference}

/-- Every allowed key is a name of an attribute. -/
theorem exists_eventKey {key : String} (h : key ∈ MatchingRuleValidator.allowedAttributes) :
    ∃ a : RuleAttribute, key ∈ a.eventKeys := by
  rcases Employee.allowedAttributes_cases h with ⟨a, rfl⟩ | rfl | rfl
  · cases a with
    | companyId => exact ⟨.companyId, List.mem_singleton_self _⟩
    | locationId => exact ⟨.locationId, List.mem_singleton_self _⟩
    | departmentId => exact ⟨.departmentId, List.mem_singleton_self _⟩
    | gradeId => exact ⟨.gradeId, List.mem_singleton_self _⟩
    | jobTitleId => exact ⟨.jobTitleId, List.mem_singleton_self _⟩
    | employmentStatus => exact ⟨.employmentStatus, List.mem_singleton_self _⟩
  · exact ⟨.reporteesCount, List.mem_cons_self⟩
  · exact ⟨.reporteesCount, List.mem_cons_of_mem _ (List.mem_singleton_self _)⟩

/-- A clause on a key reads the attribute that the key names, and nothing else. -/
theorem agree_of_same {a : RuleAttribute} {key : String} (hkey : key ∈ a.eventKeys)
    (h : a.Same e e') : Agree key e e' := by
  cases a with
  | employmentStatus =>
    obtain rfl := List.mem_singleton.mp hkey
    exact ⟨congrArg Js.JsValue.str h, fun hname => absurd hname (by decide)⟩
  | reporteesCount =>
    rcases List.mem_cons.mp hkey with rfl | hkey
    · refine ⟨?_, fun hname => absurd hname (by decide)⟩
      exact congrArg (fun n : Int4 => Js.JsValue.num n.toSafeInteger) h
    · obtain rfl := List.mem_singleton.mp hkey
      exact ⟨rfl, fun _ => h⟩
  | _ =>
    obtain rfl := List.mem_singleton.mp hkey
    exact ⟨congrArg ofNullable h, fun hname => absurd hname (by decide)⟩

end RuleAttribute

-- ============================================================================
-- The keys of an accepted rule
-- ============================================================================

variable {e e' : EmployeeReference} {rule : MatchingRule} {keys : List String}

/-- Employees that have the same attributes among the keys of a rule match it alike. -/
theorem evaluate_eq_of_same (hvalid : MatchingRuleValidator.validate rule = .ok keys)
    (h : ∀ a : RuleAttribute, a.Among keys → a.Same e e') : evaluate rule e = evaluate rule e' := by
  obtain ⟨-, hok, hkeys⟩ := MatchingRuleValidator.validate_ok hvalid
  refine evaluate_congr fun c hc => ?_
  obtain ⟨a, ha⟩ := RuleAttribute.exists_eventKey (hok c hc).attribute
  have hmem : c.attribute ∈ keys := by
    rw [hkeys, List.mem_eraseDups]
    exact List.mem_map_of_mem hc
  exact RuleAttribute.agree_of_same ha (h a ⟨c.attribute, ha, hmem⟩)

/-- A change of attributes that are not among the keys. -/
theorem evaluate_eq_of_altered (hvalid : MatchingRuleValidator.validate rule = .ok keys)
    (h : ∀ a : RuleAttribute, ¬a.Same e e' → ¬a.Among keys) :
    evaluate rule e = evaluate rule e' :=
  evaluate_eq_of_same hvalid fun a hamong => not_imp_not.mp (h a) hamong

-- ============================================================================
-- The keys of a stored group
-- ============================================================================

/-- The rule has been accepted with these keys. -/
def Recorded (rule : Option MatchingRule) (keys : List String) : Prop :=
  ∃ accepted, rule = some accepted ∧ MatchingRuleValidator.validate accepted = .ok keys

/-- The rows that the operations store, in whatever order and overlap: the group a call has
    loaded may have been saved by others since. -/
inductive StoredRow : UserGroupRow → Prop where
  | create {newId : Uuid} {props : Administration.UserGroupProps} {row : UserGroupRow}
      (h : Administration.UserGroupAggregate.create newId props = .ok row) : StoredRow row
  | save {call : GroupCall} {loaded row : UserGroupRow} {groupRoles currentRoleIds : List Uuid}
      {change : Change} (hloaded : StoredRow loaded) (hrow : StoredRow row)
      (h : changeOf call (.load loaded) groupRoles currentRoleIds = .ok change) :
      StoredRow (change.entity.save row)
  | updateProjectionVersion {row : UserGroupRow} (projectionVersion : Nat)
      (h : StoredRow row) :
      StoredRow { row with projectionVersion := projectionVersion }

theorem ruleKeys_recorded (h : ruleKeys rule = .ok keys) :
    Recorded (some rule) keys := by
  unfold ruleKeys at h
  split at h
  next accepted hvalid =>
    cases h
    exact ⟨rule, rfl, hvalid⟩
  next => cases h

/-- A call keeps the rule with its keys, or writes another with the keys of that. -/
theorem changeOf_recorded {call : GroupCall} {existing : UserGroupEntity}
    {groupRoles currentRoleIds : List Uuid} {change : Change}
    (h : changeOf call existing groupRoles currentRoleIds = .ok change)
    (hexisting : Recorded existing.matchingRule existing.ruleAttributeKeys) :
    Recorded change.entity.matchingRule change.entity.ruleAttributeKeys := by
  obtain ⟨request, userId⟩ := call
  cases request with
  | updateById dto expectedVersion =>
    obtain ⟨keys, hkeys, hchange⟩ := Sql.bind_eq_ok.mp h
    cases hchange
    exact ruleKeys_recorded hkeys
  | updateRoleAssignments dto =>
    cases h
    exact hexisting
  | _ =>
    obtain ⟨aggregate, -, hchange⟩ := Sql.bind_eq_ok.mp h
    cases hchange
    exact hexisting

theorem StoredRow.recorded {row : UserGroupRow} (h : StoredRow row) :
    Recorded row.matchingRule row.ruleAttributeKeys := by
  induction h with
  | create h =>
    unfold Administration.UserGroupAggregate.create at h
    split at h
    · cases h
    · obtain ⟨keys, hkeys, hrow⟩ := Sql.bind_eq_ok.mp h
      cases hrow
      exact ruleKeys_recorded hkeys
  | save hloaded hrow h ihloaded _ => exact changeOf_recorded h ihloaded
  | updateProjectionVersion projectionVersion h ih => exact ih

/-- The groups of the database are stored by the operations. -/
def StoredGroups (db : Database) : Prop :=
  ∀ g ∈ db.groups.rows, ∃ row, StoredRow row ∧ row.toUserGroup = g

theorem StoredGroups.validatedRules {db : Database} (h : StoredGroups db) : ValidatedRules db := by
  intro g hg _ rule hrule
  obtain ⟨row, hstored, rfl⟩ := h g hg
  obtain ⟨accepted, hrow, hvalid⟩ := hstored.recorded
  obtain rfl := Option.some.inj (hrow.symm.trans hrule)
  exact hvalid

-- ============================================================================
-- What the events alter
-- ============================================================================

section Events

open AccessService.Employee EmployeeReferenceRepository EmployeeAttributePropagationService

variable {employee employee' : Accounts.EmployeeRow} {data : EmployeeLifecyclePayload}
  {a : RuleAttribute}

/-- A change of the reporting line alters the count, whose keys it hands on. -/
theorem counted_announced {delta : ℤ} (h : counted employee delta = some employee')
    (ha : ¬a.Same employee.toEmployeeReference employee'.toEmployeeReference) :
    a.eventKeys = ["reporteesCount", "hasReportees"] := by
  obtain ⟨sum, -, rfl⟩ := Option.map_eq_some_iff.mp h
  cases a with
  | reporteesCount => rfl
  | _ => exact absurd rfl ha

theorem told_of_stored_ne {b : EmployeeAttribute} (hempty : b.told data ≠ .value "")
    (h : b.stored employee ≠ b.stored ((projectionUpdate data).apply employee)) :
    (b.told data).isTruthy = true := by
  rw [EmployeeAttribute.stored_updated] at h
  rcases htold : b.told data with _ | _ | text
  · rw [htold] at h
    exact absurd rfl h
  · rw [htold] at h
    exact absurd rfl h
  · refine decide_eq_true fun htext => hempty ?_
    rw [htold, htext]

/-- An update hands on the keys of what it alters, unless it empties an attribute. -/
theorem updated_announced (hempty : ∀ b : EmployeeAttribute, b.told data ≠ .value "")
    (ha : ¬a.Same employee.toEmployeeReference
      ((projectionUpdate data).apply employee).toEmployeeReference) :
    a.eventKeys ⊆ changedKeys data := by
  have hkey : ∀ b : EmployeeAttribute,
      b.stored employee ≠ b.stored ((projectionUpdate data).apply employee) →
        [b.key] ⊆ changedKeys data := fun b hb =>
    List.cons_subset.mpr ⟨key_mem_changedKeys (told_of_stored_ne (hempty b) hb),
      List.nil_subset _⟩
  cases a with
  | employmentStatus => exact hkey .employmentStatus fun h => ha (Option.some.inj h)
  | companyId => exact hkey .companyId ha
  | locationId => exact hkey .locationId ha
  | departmentId => exact hkey .departmentId ha
  | gradeId => exact hkey .gradeId ha
  | jobTitleId => exact hkey .jobTitleId ha
  | reporteesCount => exact absurd rfl ha

end Events

-- ============================================================================
-- Skipping
-- ============================================================================

namespace EmployeeAttributePropagationService

variable {db : Database} {ctx : Context} {tenantCode : String} {employeeId : Uuid}
  {w w' : World Store Failure} {u : Unit} {before after : EmployeeReference} {user : User}

/-- Where no active group reads what has changed, each matches as before. -/
theorem evaluate_of_unmonitored (hstored : StoredGroups db)
    (haltered : ∀ a : RuleAttribute, ¬a.Same before after → a.eventKeys ⊆ keys)
    (hskip : ¬Monitored db tenantCode keys) :
    ∀ g ∈ db.activeGroups tenantCode, ∀ rule, g.matchingRule = some rule →
      evaluate rule before = evaluate rule after := by
  intro g hg rule hrule
  obtain ⟨hmem, -, hactive⟩ := Database.mem_activeGroups.mp hg
  refine evaluate_eq_of_altered (hstored.validatedRules g hmem hactive rule hrule) ?_
  rintro a ha ⟨key, hkey, hmonitored⟩
  exact hskip ⟨g, hg, key, hmonitored, haltered a ha hkey⟩

theorem matchingGroupIds_of_unmonitored (hstored : StoredGroups db)
    (haltered : ∀ a : RuleAttribute, ¬a.Same before after → a.eventKeys ⊆ keys)
    (hskip : ¬Monitored db tenantCode keys) :
    matchingGroupIds before (db.activeGroups tenantCode) =
      matchingGroupIds after (db.activeGroups tenantCode) := by
  have hsame := evaluate_of_unmonitored hstored haltered hskip
  unfold matchingGroupIds
  rw [List.filter_congr fun g hg => ?_]
  rcases hrule : g.matchingRule with _ | rule
  · rfl
  · exact hsame g hg rule hrule

/-- Whether it is skipped or not, the user of the changed employee is in the matching
    groups afterwards. -/
theorem handleEmployeeAttributeChange_matches (hstored : StoredGroups w.state.db)
    (hafter : w.state.db.employee ctx.tenantCode employeeId = some after)
    (haltered : ∀ a : RuleAttribute, ¬a.Same before after → a.eventKeys ⊆ keys)
    (huser : w.state.db.userOf ctx.tenantCode employeeId = some user)
    (hbefore : groupsOf w.state.db ctx.tenantCode user.id =
      groupsMatching w.state.db ctx.tenantCode before)
    (h : handleEmployeeAttributeChange ctx tenantCode employeeId keys w = (.ok u, w')) :
    groupsOf w'.state.db ctx.tenantCode user.id =
      groupsMatching w'.state.db ctx.tenantCode after := by
  rcases handleEmployeeAttributeChange_cases h with
    ⟨hstate, hnone | hskip | hnone⟩ | ⟨e, user', w₁, result, he, huser', hstate, hreconcile⟩
  · rw [hafter] at hnone
    cases hnone
  · rw [hstate, hbefore, ← matchingGroupIds_eq, ← matchingGroupIds_eq,
      matchingGroupIds_of_unmonitored hstored haltered hskip]
  · rw [huser] at hnone
    cases hnone
  · obtain rfl := Option.some.inj (hafter.symm.trans he)
    obtain rfl := Option.some.inj (huser.symm.trans huser')
    obtain ⟨hgroups, -⟩ := MembershipReconciler.reconcileSingleUser_elsewhere hreconcile
    rw [hstate] at hgroups
    rw [MembershipReconciler.reconcileSingleUser_groups hreconcile, matchingGroupIds_eq,
      Employee.groupsMatching_groups hgroups]

/-- A rule's keys decide its evaluation; a change of other attributes than those of a stored
    group leaves its match as it was; and skipping re-evaluation when no active group reads
    what has changed loses nothing. -/
theorem skipping_sound :
    (∀ (rule : MatchingRule) (ruleAttributeKeys : List String) (e₁ e₂ : EmployeeReference),
      MatchingRuleValidator.validate rule = .ok ruleAttributeKeys →
      (∀ a : RuleAttribute, a.Among ruleAttributeKeys → a.Same e₁ e₂) →
        evaluate rule e₁ = evaluate rule e₂) ∧
    (∀ (row : UserGroupRow) (before after : EmployeeReference), StoredRow row →
      (∀ a : RuleAttribute, ¬a.Same before after → ∀ key ∈ a.eventKeys,
        key ∉ row.ruleAttributeKeys) →
      ∃ rule, row.matchingRule = some rule ∧ evaluate rule before = evaluate rule after) ∧
    ∀ (ctx : Context) (tenantCode : String) (employeeId : Uuid) (keys : List String)
      (w : World Store Failure) (before after : EmployeeReference),
      StoredGroups w.state.db →
      w.state.db.employee ctx.tenantCode employeeId = some after →
      (∀ a : RuleAttribute, ¬a.Same before after → a.eventKeys ⊆ keys) →
        (¬Monitored w.state.db ctx.tenantCode keys →
          matchingGroupIds before (w.state.db.activeGroups ctx.tenantCode) =
            matchingGroupIds after (w.state.db.activeGroups ctx.tenantCode)) ∧
        ∀ (user : User) (u : Unit) (w' : World Store Failure),
          w.state.db.userOf ctx.tenantCode employeeId = some user →
          groupsOf w.state.db ctx.tenantCode user.id =
            groupsMatching w.state.db ctx.tenantCode before →
          handleEmployeeAttributeChange ctx tenantCode employeeId keys w = (.ok u, w') →
            groupsOf w'.state.db ctx.tenantCode user.id =
              groupsMatching w'.state.db ctx.tenantCode after := by
  refine ⟨fun rule keys e₁ e₂ hvalid hsame => evaluate_eq_of_same hvalid hsame, ?_, ?_⟩
  · intro row before after hstored haltered
    obtain ⟨rule, hrule, hvalid⟩ := hstored.recorded
    refine ⟨rule, hrule, evaluate_eq_of_altered hvalid fun a ha => ?_⟩
    rintro ⟨key, hkey, hmem⟩
    exact haltered a ha key hkey hmem
  · intro ctx tenantCode employeeId keys w before after hstored hafter haltered
    exact ⟨matchingGroupIds_of_unmonitored hstored haltered, fun user u w' huser hbefore h =>
      handleEmployeeAttributeChange_matches hstored hafter haltered huser hbefore h⟩

/-- The group of one department, as it is created. -/
def engineersProps : Administration.UserGroupProps where
  tenantCode := "acme"
  name := "Engineers"
  description := none
  scopeType := .SELF
  scopeRefId := none
  matchingRule := sampleRule
  assignedRoleIds := []
  updatedBy := none

def engineersRow : UserGroupRow := { sampleUserGroup with name := "Engineers" }

theorem engineersRow_stored : StoredRow engineersRow := by
  refine @StoredRow.create sampleGroupId engineersProps engineersRow ?_
  have hname : Js.trim engineersProps.name ≠ "" := by decide +kernel
  have hkeys : ruleKeys sampleRule = .ok ["departmentId"] := by decide +kernel
  show (if Js.trim engineersProps.name = "" then _ else ruleKeys sampleRule >>= _) = _
  rw [if_neg hname, hkeys]
  rfl

/-- Before the employee has moved to another location. -/
def elsewhere : EmployeeReference := { sampleEmployee with locationId := some "hanoi" }

theorem elsewhere_altered (a : RuleAttribute) (h : ¬a.Same elsewhere sampleEmployee) :
    a = .locationId := by
  cases a with
  | locationId => rfl
  | _ => exact absurd rfl h

/-- The department's group does not read the location. -/
theorem skipping_sound_sample :
    evaluate sampleRule elsewhere = evaluate sampleRule sampleEmployee ∧
      (∃ rule, engineersRow.matchingRule = some rule ∧
        evaluate rule elsewhere = evaluate rule sampleEmployee) ∧
      matchingGroupIds elsewhere [sampleUserGroup] =
        matchingGroupIds sampleEmployee [sampleUserGroup] ∧
      ∃ w' : World Store Failure,
        handleEmployeeAttributeChange acme "acme" sampleEmployeeId ["locationId"]
            (.calm { db := sampleDatabase true .empty }) = (.ok (), w') ∧
          groupsOf w'.state.db "acme" sampleUserId =
            groupsMatching w'.state.db "acme" sampleEmployee := by
  obtain ⟨hrule, hrow, hskip⟩ := skipping_sound
  refine ⟨hrule sampleRule ["departmentId"] _ _ (by decide +kernel) ?_,
    hrow engineersRow _ _ engineersRow_stored ?_, ?_⟩
  · rintro a ⟨key, hkey, hmem⟩
    obtain rfl := List.mem_singleton.mp hmem
    by_contra hne
    obtain rfl := elsewhere_altered a hne
    exact absurd hkey (by decide)
  · intro a ha
    obtain rfl := elsewhere_altered a ha
    decide
  · have hstored : StoredGroups (sampleDatabase true .empty) := by
      intro g hg
      obtain rfl := List.mem_singleton.mp hg
      exact ⟨engineersRow, engineersRow_stored, rfl⟩
    have hbefore : groupsOf (sampleDatabase true .empty) "acme" sampleUserId =
        groupsMatching (sampleDatabase true .empty) "acme" elsewhere := by
      ext id
      constructor
      · intro hmember
        obtain rfl : id = sampleGroupId :=
          congrArg UserGroupMembership.groupId (List.mem_singleton.mp hmember)
        exact ⟨sampleUserGroup, List.mem_singleton_self _, rfl, rfl, rfl, sampleRule, rfl,
          by decide +kernel⟩
      · rintro ⟨g, hg, -, -, rfl, -⟩
        obtain rfl := List.mem_singleton.mp hg
        exact List.mem_singleton_self _
    have hunread : ¬Monitored (sampleDatabase true .empty) "acme" ["locationId"] := by
      rintro ⟨g, hg, key, hkey, hmem⟩
      obtain rfl := List.mem_singleton.mp (Database.mem_activeGroups.mp hg).1
      obtain rfl := List.mem_singleton.mp hkey
      exact absurd hmem (by decide)
    obtain ⟨hids, hgroups⟩ := hskip acme "acme" sampleEmployeeId ["locationId"]
      (.calm { db := sampleDatabase true .empty }) elsewhere sampleEmployee hstored rfl
      fun a ha => by rw [elsewhere_altered a ha]; decide
    exact ⟨hids hunread, _, rfl, hgroups sampleUser () _ rfl hbefore rfl⟩

end EmployeeAttributePropagationService

end AccessService.UserGroups
