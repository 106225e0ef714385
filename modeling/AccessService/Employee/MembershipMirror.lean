/-
  AccessService.Employee.MembershipMirror

  Whether the groups of an employee's user are the active groups whose rules match the
  stored record, and the record is what the updates said, through every run of events about
  existing employees.
-/

import AccessService.Employee.EmployeeEvents
import AccessService.Lib.Transition

namespace AccessService.UserGroups

open AccessService.Employee (EmployeeReference)
open AccessService.Persistence
open UserGroupMatchingEngine

-- ============================================================================
-- What a rule reads of an employee
-- ============================================================================

/-- A clause on the attribute does not tell the employees apart. -/
def Agree (key : String) (e e' : EmployeeReference) : Prop :=
  extractEmployeeValue key e = extractEmployeeValue key e' ∧
    (key = "hasReportees" → e.reporteesCount = e'.reporteesCount)

/-- The rules of the active groups have been accepted, and their attributes recorded. -/
def ValidatedRules (db : Database) : Prop :=
  ∀ g ∈ db.groups.rows, g.status = .ACTIVE → ∀ rule, g.matchingRule = some rule →
    MatchingRuleValidator.validate rule = .ok g.ruleAttributeKeys

variable {e e' : EmployeeReference} {db : Database} {tenantCode : String}

theorem evaluateClause_congr {clause : MatchingRuleClause} (h : Agree clause.attribute e e') :
    evaluateClause clause e = evaluateClause clause e' := by
  by_cases hreportees : clause.attribute = "hasReportees"
  · simp only [evaluateClause, h.1, h.2 hreportees]
  · simp only [evaluateClause, h.1, hreportees, false_and, if_false]

theorem evaluate_congr {rule : MatchingRule} (h : ∀ c ∈ rule.clauses, Agree c.attribute e e') :
    evaluate rule e = evaluate rule e' := by
  have hclauses : (rule.clauses.all fun c => evaluateClause c e) =
      rule.clauses.all fun c => evaluateClause c e' := by
    rw [Bool.eq_iff_iff, List.all_eq_true, List.all_eq_true]
    exact forall₂_congr fun c hc => by rw [evaluateClause_congr (h c hc)]
  rw [evaluate, evaluate, hclauses]

/-- Where no attribute of a rule tells the employees apart, the same groups match. -/
theorem groupsMatching_congr (hvalid : ValidatedRules db)
    (h : ∀ g ∈ db.activeGroups tenantCode, ∀ key ∈ g.ruleAttributeKeys,
      key ∈ MatchingRuleValidator.allowedAttributes → Agree key e e') :
    EmployeeAttributePropagationService.groupsMatching db tenantCode e =
      EmployeeAttributePropagationService.groupsMatching db tenantCode e' := by
  ext id
  refine exists_congr fun g => and_congr_right fun hmem => and_congr_right fun htenant =>
    and_congr_right fun hactive => and_congr_right fun _ => exists_congr fun rule =>
      and_congr_right fun hrule => ?_
  obtain ⟨-, hok, hkeys⟩ := MatchingRuleValidator.validate_ok (hvalid g hmem hactive rule hrule)
  rw [evaluate_congr fun c hc => ?_]
  refine h g (Database.mem_activeGroups.mpr ⟨hmem, htenant, hactive⟩) c.attribute ?_
    (hok c hc).attribute
  rw [hkeys, List.mem_eraseDups]
  exact List.mem_map_of_mem hc

end AccessService.UserGroups

namespace AccessService.Employee

open AccessService.Accounts AccessService.Js AccessService.Lib AccessService.Lib.Transition
open AccessService.Pg AccessService.Persistence AccessService.UserGroups
open UserGroupMatchingEngine
open EmployeeAttributePropagationService

variable {employee employee' : EmployeeRow} {data : EmployeeLifecyclePayload}

theorem agree_status (key : String) (status : Option String) (sourceVersion : String) :
    Agree key (employee.changed status sourceVersion).toEmployeeReference
      employee.toEmployeeReference :=
  ⟨rfl, fun _ => rfl⟩

/-- The attributes of a rule are those of a record and the two about reportees. -/
theorem allowedAttributes_cases {key : String}
    (h : key ∈ MatchingRuleValidator.allowedAttributes) :
    (∃ a : EmployeeAttribute, key = a.key) ∨ key = "reporteesCount" ∨ key = "hasReportees" := by
  simp only [MatchingRuleValidator.allowedAttributes, List.mem_cons, List.not_mem_nil,
    or_false] at h
  rcases h with rfl | rfl | rfl | rfl | rfl | rfl | rfl | rfl
  · exact .inl ⟨.employmentStatus, rfl⟩
  · exact .inl ⟨.companyId, rfl⟩
  · exact .inl ⟨.locationId, rfl⟩
  · exact .inl ⟨.departmentId, rfl⟩
  · exact .inl ⟨.gradeId, rfl⟩
  · exact .inl ⟨.jobTitleId, rfl⟩
  · exact .inr (.inl rfl)
  · exact .inr (.inr rfl)

theorem agree_attribute {a : EmployeeAttribute} (h : a.stored employee = a.stored employee') :
    Agree a.key employee.toEmployeeReference employee'.toEmployeeReference := by
  cases a with
  | employmentStatus =>
    refine ⟨?_, fun hkey => absurd hkey (by decide)⟩
    exact congrArg JsValue.str (Option.some.inj h)
  | _ => exact ⟨congrArg ofNullable h, fun hkey => absurd hkey (by decide)⟩

/-- A changed count is seen by the attributes about reportees only. -/
theorem agree_counted {delta : ℤ} {key : String}
    (h : EmployeeReferenceRepository.counted employee delta = some employee')
    (hkey : key ∉ ["reporteesCount", "hasReportees"]) :
    Agree key employee'.toEmployeeReference employee.toEmployeeReference := by
  obtain ⟨sum, -, rfl⟩ := Option.map_eq_some_iff.mp h
  simp only [List.mem_cons, List.not_mem_nil, or_false, not_or] at hkey
  refine ⟨?_, fun hreportees => absurd hreportees hkey.2⟩
  unfold extractEmployeeValue
  split <;> first | rfl | exact absurd rfl hkey.1

theorem key_mem_changedKeys {a : EmployeeAttribute} (h : (a.told data).isTruthy = true) :
    a.key ∈ changedKeys data := by
  have hmem : ∀ (entries : List (String × Bool)) {key : String}, (key, true) ∈ entries →
      key ∈ (entries.filter fun entry => entry.2).map fun entry => entry.1 :=
    fun entries key hmem => List.mem_map.mpr ⟨_, List.mem_filter.mpr ⟨hmem, rfl⟩, rfl⟩
  refine hmem _ ?_
  cases a <;> simp_all [EmployeeAttribute.told, EmployeeAttribute.key]

/-- An attribute that an update tells nobody about keeps its value, unless it is emptied. -/
theorem agree_updated {key : String} (hallowed : key ∈ MatchingRuleValidator.allowedAttributes)
    (hkey : key ∉ changedKeys data)
    (hempty : ∀ a : EmployeeAttribute, a.key = key → a.told data = .value "" →
      a.stored employee = some "") :
    Agree key ((projectionUpdate data).apply employee).toEmployeeReference
      employee.toEmployeeReference := by
  rcases allowedAttributes_cases hallowed with ⟨a, rfl⟩ | rfl | rfl
  · refine agree_attribute ?_
    rw [EmployeeAttribute.stored_updated]
    rcases htold : a.told data with _ | _ | text
    · rfl
    · rfl
    · by_cases htext : text = ""
      · subst htext
        rw [hempty a rfl htold]
        rfl
      · refine absurd (key_mem_changedKeys ?_) hkey
        rw [htold]
        exact decide_eq_true htext
  · exact ⟨rfl, fun _ => rfl⟩
  · exact ⟨rfl, fun _ => rfl⟩

-- ============================================================================
-- Users and their employees
-- ============================================================================

/-- Each user with its tenant and its employee. -/
def linksOf (s : EmployeeStore) : List (Uuid × String × Option Uuid) :=
  s.accounts.db.users.rows.map fun u => (u.id, u.tenantCode, u.employeeRefId)

/-- `uq_users_employee_ref_id` -/
def OneUserEach (s : EmployeeStore) : Prop :=
  ∀ uid tenantCode uid' tenantCode' id, (uid, tenantCode, some id) ∈ linksOf s →
    (uid', tenantCode', some id) ∈ linksOf s → uid = uid'

/-- Every linked user is in the active groups that match the employee, and in no others. -/
def Mirrors (s : EmployeeStore) : Prop :=
  ∀ tenantCode id employee, s.employee tenantCode id = some employee →
    ∀ uid, (uid, tenantCode, some id) ∈ linksOf s →
      groupsOf s.authz.db tenantCode uid =
        groupsMatching s.authz.db tenantCode employee.toEmployeeReference

variable {s s' : EmployeeStore} {tenantCode : String} {id uid : Uuid} {user : UserRow}
  {ctx : Context} {w w' : World EmployeeStore Failure} {u : Unit} {keys : List String}

theorem userOf_linked (h : s.userOf tenantCode id = some user) :
    (user.id, tenantCode, some id) ∈ linksOf s := by
  have hkeys := List.find?_some h
  rw [Bool.and_eq_true, decide_eq_true_eq, decide_eq_true_eq] at hkeys
  refine List.mem_map.mpr ⟨user, List.mem_of_find?_eq_some h, ?_⟩
  rw [hkeys.1, hkeys.2]

theorem userOf_none (h : s.userOf tenantCode id = none) :
    (uid, tenantCode, some id) ∉ linksOf s := by
  intro hlink
  obtain ⟨user, hmem, hkeys⟩ := List.mem_map.mp hlink
  obtain ⟨-, hkeys⟩ := Prod.mk.inj hkeys
  obtain ⟨htenant, hid⟩ := Prod.mk.inj hkeys
  exact List.find?_eq_none.mp h user hmem (by simp [htenant, hid])

/-- A user has one employee. -/
theorem link_unique {tenantCode' : String} {id' : Uuid}
    (h : (uid, tenantCode, some id) ∈ linksOf s)
    (h' : (uid, tenantCode', some id') ∈ linksOf s) : tenantCode = tenantCode' ∧ id = id' := by
  obtain ⟨user, hmem, hkeys⟩ := List.mem_map.mp h
  obtain ⟨user', hmem', hkeys'⟩ := List.mem_map.mp h'
  obtain ⟨hid, hkeys⟩ := Prod.mk.inj hkeys
  obtain ⟨hid', hkeys'⟩ := Prod.mk.inj hkeys'
  obtain rfl := s.accounts.db.users.row_unique hmem hmem' (hid.trans hid'.symm)
  rw [hkeys] at hkeys'
  obtain ⟨htenant, hid⟩ := Prod.mk.inj hkeys'
  exact ⟨htenant, Option.some.inj hid⟩

theorem groupsMatching_groups {db db' : Database} (h : db'.groups = db.groups)
    (employee : EmployeeReference) :
    groupsMatching db' tenantCode employee = groupsMatching db tenantCode employee := by
  unfold UserGroups.EmployeeAttributePropagationService.groupsMatching
  rw [h]

-- ============================================================================
-- One change of a record
-- ============================================================================

theorem linksOf_congr (h : s'.accounts.db.users = s.accounts.db.users) :
    linksOf s' = linksOf s := by
  rw [linksOf, h, linksOf]

/-- The user of a changed record is in the groups that match it now, and nobody else's
    groups change. -/
theorem Mirrors.changed {s₁ : EmployeeStore} (hmirrors : Mirrors s)
    (hwrites : WritesEmployee s s₁ employee') (haccounts : s'.accounts = s₁.accounts)
    (hgroups : s'.authz.db.groups = s.authz.db.groups)
    (hown : ∀ uid, (uid, employee'.tenantCode, some employee'.id) ∈ linksOf s →
      groupsOf s'.authz.db employee'.tenantCode uid =
        groupsMatching s.authz.db employee'.tenantCode employee'.toEmployeeReference)
    (hothers : ∀ tenantCode uid, (uid, employee'.tenantCode, some employee'.id) ∉ linksOf s →
      groupsOf s'.authz.db tenantCode uid = groupsOf s.authz.db tenantCode uid) :
    Mirrors s' := by
  intro tenantCode id found hfound uid hlink
  have hlinks : linksOf s' = linksOf s :=
    linksOf_congr ((congrArg (fun accounts => accounts.db.users) haccounts).trans hwrites.users)
  rw [hlinks] at hlink
  rw [EmployeeStore.employee_congr haccounts, hwrites.found] at hfound
  rw [groupsMatching_groups hgroups]
  split at hfound
  next hkey =>
    obtain ⟨rfl, rfl⟩ := hkey
    obtain rfl := Option.some.inj hfound
    exact hown uid hlink
  next hkey =>
    rw [hothers tenantCode uid fun hlink' => hkey (link_unique hlink' hlink)]
    exact hmirrors tenantCode id found hfound uid hlink

/-- A change that no active group reads. -/
theorem Mirrors.unread (hmirrors : Mirrors s) (hvalid : ValidatedRules s.authz.db)
    (hfound : s.employee employee'.tenantCode employee'.id = some employee)
    (hagree : ∀ g ∈ s.authz.db.activeGroups employee'.tenantCode, ∀ key ∈ g.ruleAttributeKeys,
      key ∈ MatchingRuleValidator.allowedAttributes →
        Agree key employee'.toEmployeeReference employee.toEmployeeReference)
    (hlink : (uid, employee'.tenantCode, some employee'.id) ∈ linksOf s) :
    groupsOf s.authz.db employee'.tenantCode uid =
      groupsMatching s.authz.db employee'.tenantCode employee'.toEmployeeReference := by
  rw [hmirrors _ _ _ hfound uid hlink]
  exact (groupsMatching_congr hvalid hagree).symm

/-- The attributes that are told about cover what active groups read of the change. -/
theorem handleEmployeeAttributeChange_mirrors (hmirrors : Mirrors s)
    (hvalid : ValidatedRules s.authz.db) (hunique : OneUserEach s)
    (hfound : s.employee employee'.tenantCode employee'.id = some employee)
    (hwrites : WritesEmployee s w.state employee') (htenant : ctx.tenantCode = employee'.tenantCode)
    (hagree : ¬Monitored s.authz.db employee'.tenantCode keys →
      ∀ g ∈ s.authz.db.activeGroups employee'.tenantCode, ∀ key ∈ g.ruleAttributeKeys,
        key ∈ MatchingRuleValidator.allowedAttributes →
          Agree key employee'.toEmployeeReference employee.toEmployeeReference)
    (hrun : handleEmployeeAttributeChange ctx tenantCode employee'.id keys w = (.ok u, w')) :
    Mirrors w'.state ∧ w'.state.accounts = w.state.accounts ∧
      w'.state.authz.db.groups = s.authz.db.groups := by
  have haccounts := handleEmployeeAttributeChange_accounts.ok hrun
  obtain ⟨v, hprogram, rfl⟩ := Faulty.zoom_ok.mp hrun
  have hhere : w.state.employee employee'.tenantCode employee'.id = some employee' := by
    rw [hwrites.found, if_pos ⟨rfl, rfl⟩]
  have hgroups₁ : w.state.view.db.groups = s.authz.db.groups := by
    show w.state.authz.db.groups = _
    rw [hwrites.authz]
  have hmembers₁ : ∀ tenantCode uid, groupsOf w.state.view.db tenantCode uid =
      groupsOf s.authz.db tenantCode uid := by
    intro t uid
    show groupsOf w.state.authz.db t uid = _
    rw [hwrites.authz]
  rcases UserGroups.EmployeeAttributePropagationService.handleEmployeeAttributeChange_cases
    hprogram with ⟨hstate, hreason⟩ | ⟨e, user, w₁, result, he, huser, hstate, hreconcile⟩
  · have hgroups : v.state.db.groups = s.authz.db.groups := by rw [hstate, hgroups₁]
    refine ⟨hmirrors.changed hwrites haccounts hgroups (fun uid hlink => ?_) fun t uid _ => ?_,
      haccounts, hgroups⟩
    · show groupsOf v.state.db _ _ = _
      rw [hstate, hmembers₁]
      simp only [htenant] at hreason
      rcases hreason with hnone | hunread | hnone
      · rw [EmployeeStore.view_employee, hhere] at hnone
        cases hnone
      · refine hmirrors.unread hvalid hfound (hagree fun hmonitored => hunread ?_) hlink
        unfold Monitored Database.activeGroups at hmonitored ⊢
        rw [hgroups₁]
        exact hmonitored
      · rw [EmployeeStore.view_userOf, Option.map_eq_none_iff, hwrites.userOf] at hnone
        exact absurd hlink (userOf_none hnone)
    · show groupsOf v.state.db _ _ = _
      rw [hstate, hmembers₁]
  · simp only [htenant] at he huser
    rw [EmployeeStore.view_employee, hhere] at he
    obtain rfl := Option.some.inj he
    rw [EmployeeStore.view_userOf, hwrites.userOf] at huser
    obtain ⟨row, hrow, rfl⟩ := Option.map_eq_some_iff.mp huser
    obtain ⟨hgroups, helsewhere⟩ :=
      MembershipReconciler.reconcileSingleUser_elsewhere hreconcile
    rw [hstate] at hgroups helsewhere
    refine ⟨hmirrors.changed hwrites haccounts (hgroups.trans hgroups₁) (fun uid hlink => ?_)
      fun t uid hother => ?_, haccounts, hgroups.trans hgroups₁⟩
    · obtain rfl := hunique _ _ _ _ _ hlink (userOf_linked hrow)
      have hmine := MembershipReconciler.reconcileSingleUser_groups hreconcile
      rw [htenant, UserGroups.EmployeeAttributePropagationService.matchingGroupIds_eq] at hmine
      exact hmine.trans (groupsMatching_groups hgroups₁ _)
    · refine (helsewhere t uid fun hkey => hother ?_).trans (hmembers₁ t uid)
      rw [hkey.2]
      exact userOf_linked hrow

-- ============================================================================
-- What the events preserve
-- ============================================================================

structure Mirrored (s : EmployeeStore) : Prop where
  valid : ValidatedRules s.authz.db
  unique : OneUserEach s
  mirrors : Mirrors s

/-- The attribute of a record, if there is a record. -/
def attributeOf (s : EmployeeStore) (tenantCode : String) (id : Uuid) (a : EmployeeAttribute) :
    Option (Option String) :=
  (s.employee tenantCode id).map a.stored

theorem Mirrored.of_groups (hmirrored : Mirrored s)
    (husers : s'.accounts.db.users = s.accounts.db.users)
    (hgroups : s'.authz.db.groups = s.authz.db.groups) (hmirrors : Mirrors s') : Mirrored s' where
  valid := by
    unfold ValidatedRules
    rw [hgroups]
    exact hmirrored.valid
  unique := by
    unfold OneUserEach
    rw [linksOf_congr husers]
    exact hmirrored.unique
  mirrors := hmirrors

theorem handleEmployeeAttributeChange_missing (hmirrored : Mirrored w.state)
    (hnone : w.state.employee ctx.tenantCode id = none)
    (hrun : handleEmployeeAttributeChange ctx tenantCode id keys w = (.ok u, w')) :
    Mirrored w'.state := by
  have haccounts := handleEmployeeAttributeChange_accounts.ok hrun
  obtain ⟨v, hprogram, rfl⟩ := Faulty.zoom_ok.mp hrun
  rcases UserGroups.EmployeeAttributePropagationService.handleEmployeeAttributeChange_cases
    hprogram with ⟨hstate, -⟩ | ⟨e, user, w₁, result, he, -⟩
  · have hgroups : v.state.db.groups = w.state.authz.db.groups := by rw [hstate]; rfl
    refine hmirrored.of_groups (congrArg (fun accounts => accounts.db.users) haccounts) hgroups ?_
    intro t id found hfound uid hlink
    show groupsOf v.state.db t uid = groupsMatching v.state.db t found.toEmployeeReference
    rw [groupsMatching_groups hgroups, hstate]
    exact hmirrored.mirrors t id found hfound uid hlink
  · rw [EmployeeStore.view_employee, hnone] at he
    cases he

theorem moveReportee_mirrored {delta : ℤ} {column : Column Uuid} (hmirrored : Mirrored w.state)
    (htenant : ctx.tenantCode = tenantCode)
    (hrun : moveReportee ctx tenantCode delta column w = (.ok u, w')) :
    Mirrored w'.state ∧ ∀ t id a, attributeOf w'.state t id a = attributeOf w.state t id a := by
  rcases column with _ | _ | manager
  · obtain ⟨-, rfl⟩ := Faulty.pure_ok.mp hrun
    exact ⟨hmirrored, fun _ _ _ => rfl⟩
  · obtain ⟨-, rfl⟩ := Faulty.pure_ok.mp hrun
    exact ⟨hmirrored, fun _ _ _ => rfl⟩
  · obtain ⟨v, w₁, hupdate, hchange⟩ := Faulty.bind_ok.mp hrun
    have hsame : ∀ t id a, attributeOf w'.state t id a = attributeOf w₁.state t id a := by
      intro t id a
      rw [attributeOf, EmployeeStore.employee_congr
        (handleEmployeeAttributeChange_accounts.ok hchange), attributeOf]
    rcases EmployeeReferenceRepository.updateReporteesCount_ok hupdate with
      ⟨hnone, hstate⟩ | ⟨row, row', hfound, hcounted, hwrites⟩
    · rw [← hstate, ← htenant] at hnone
      rw [← hstate] at hmirrored
      refine ⟨handleEmployeeAttributeChange_missing hmirrored hnone hchange, fun t id a => ?_⟩
      rw [hsame, hstate]
    · have hkey : row'.tenantCode = tenantCode ∧ row'.id = manager := by
        obtain ⟨sum, -, rfl⟩ := Option.map_eq_some_iff.mp hcounted
        exact (EmployeeStore.employee_eq_some.mp hfound).2
      obtain ⟨rfl, rfl⟩ := hkey
      obtain ⟨hmirrors, haccounts, hgroups⟩ := handleEmployeeAttributeChange_mirrors
        hmirrored.mirrors hmirrored.valid hmirrored.unique hfound hwrites htenant
        (fun hunread g hg key hkey _ => agree_counted hcounted fun htold =>
          hunread ⟨g, hg, key, hkey, htold⟩) hchange
      refine ⟨hmirrored.of_groups ?_ hgroups hmirrors, fun t id a => ?_⟩
      · rw [haccounts]
        exact hwrites.users
      · rw [hsame, attributeOf, hwrites.found, attributeOf]
        split
        next hkey =>
          obtain ⟨rfl, rfl⟩ := hkey
          rw [hfound]
          obtain ⟨sum, -, rfl⟩ := Option.map_eq_some_iff.mp hcounted
          cases a <;> rfl
        · rfl

theorem handleEmployeeReportingLineChanged_mirrored {old new : Column Uuid}
    (hmirrored : Mirrored w.state) (htenant : ctx.tenantCode = tenantCode)
    (hrun : handleEmployeeReportingLineChanged ctx tenantCode old new w = (.ok u, w')) :
    Mirrored w'.state ∧ ∀ t id a, attributeOf w'.state t id a = attributeOf w.state t id a := by
  obtain ⟨v, w₁, hold, hnew⟩ := Faulty.bind_ok.mp hrun
  obtain ⟨hmirrored₁, hsame₁⟩ := moveReportee_mirrored hmirrored htenant hold
  obtain ⟨hmirrored', hsame⟩ := moveReportee_mirrored hmirrored₁ htenant hnew
  exact ⟨hmirrored', fun t id a => (hsame t id a).trans (hsame₁ t id a)⟩

/-- An attribute is emptied without a word to the groups that read it. -/
def Emptied (s : EmployeeStore) (data : EmployeeLifecyclePayload) (employee : EmployeeRow) : Prop :=
  ¬Monitored s.authz.db data.tenantCode (changedKeys data) ∧
    ∃ a : EmployeeAttribute, a.told data = .value "" ∧ a.stored employee ≠ some "" ∧
      Monitored s.authz.db data.tenantCode [a.key]

theorem handleEmployeeUpsert_mirrored (hmirrored : Mirrored w.state)
    (htenant : ctx.tenantCode = data.tenantCode)
    (hfound : w.state.employee data.tenantCode data.id = some employee)
    (hemptied : ¬Emptied w.state data employee)
    (hrun : handleEmployeeUpsert ctx data w = (.ok u, w')) : Mirrored w'.state := by
  obtain ⟨w₁, hwrites, hrest⟩ := handleEmployeeUpsert_ok htenant hrun
  rw [hfound] at hwrites hrest
  rcases hrest with ⟨hnone, -⟩ | ⟨-, hchange⟩
  · cases hnone
  have hkey : (upserted data (some employee)).tenantCode = data.tenantCode ∧
      (upserted data (some employee)).id = data.id :=
    (EmployeeStore.employee_eq_some.mp hfound).2
  have hagree : ¬Monitored w.state.authz.db data.tenantCode (changedKeys data) →
      ∀ g ∈ w.state.authz.db.activeGroups data.tenantCode, ∀ key ∈ g.ruleAttributeKeys,
        key ∈ MatchingRuleValidator.allowedAttributes →
          Agree key (upserted data (some employee)).toEmployeeReference
            employee.toEmployeeReference := by
    intro hunread g hg key hkey hallowed
    refine agree_updated hallowed (fun htold => hunread ⟨g, hg, key, hkey, htold⟩) ?_
    rintro a rfl htold
    by_contra hchanged
    exact hemptied ⟨hunread, a, htold, hchanged, g, hg, a.key, hkey, List.mem_singleton_self _⟩
  rw [← hkey.1, ← hkey.2] at hfound
  rcases Faulty.when_ok hchange with ⟨-, hchange⟩ | ⟨hnothing, rfl⟩
  · rw [← hkey.2] at hchange
    rw [← hkey.1] at hagree
    obtain ⟨hmirrors, haccounts, hgroups⟩ := handleEmployeeAttributeChange_mirrors
      hmirrored.mirrors hmirrored.valid hmirrored.unique hfound hwrites (htenant.trans hkey.1.symm)
      hagree hchange
    refine hmirrored.of_groups ?_ hgroups hmirrors
    rw [haccounts]
    exact hwrites.users
  · have hunread : ¬Monitored w.state.authz.db data.tenantCode (changedKeys data) := by
      rintro ⟨-, -, key, -, hkey⟩
      rw [List.eq_nil_of_length_eq_zero (Nat.eq_zero_of_not_pos hnothing)] at hkey
      exact absurd hkey List.not_mem_nil
    have hgroups : w'.state.authz.db.groups = w.state.authz.db.groups := by rw [hwrites.authz]
    refine hmirrored.of_groups hwrites.users hgroups
      (hmirrored.mirrors.changed hwrites rfl hgroups (fun uid hlink => ?_) fun t uid _ => ?_)
    · rw [hwrites.authz]
      refine hmirrored.mirrors.unread hmirrored.valid hfound ?_ hlink
      rw [hkey.1]
      exact hagree hunread
    · rw [hwrites.authz]

section StatusEvents

variable {actx : AccountContext} {fresh : FreshInvitation} {event : EmployeeEvent}
  {payload : EmployeeStatusPayload} {b : Bool} {v v' : World AccountStore AccountError}

theorem synchronizeEmployeeStatus_missing
    (hnone : Accounts.EmployeeReferenceRepository.employeeInTenant actx v.state.db payload.id =
      none)
    (hrun : ProvisioningApplicationService.synchronizeEmployeeStatus actx fresh event payload v =
      (.ok b, v')) : v'.state = v.state := by
  obtain ⟨found, v₁, hfind, hrest⟩ := Faulty.bind_ok.mp (runInTransaction_ok.mp hrun)
  obtain ⟨rfl, hstate⟩ := readDb_ok hfind
  rw [hnone] at hrest
  obtain ⟨-, rfl⟩ := Faulty.pure_ok.mp hrest
  exact hstate

/-- A status event leaves the users linked as they are. -/
theorem synchronizeEmployeeStatus_links
    (hrun : ProvisioningApplicationService.synchronizeEmployeeStatus actx fresh event payload
      ⟨s.accounts, v.faults⟩ = (.ok b, v')) :
    linksOf { s with accounts := v'.state } = linksOf s := by
  have husers := ProvisioningApplicationService.synchronizeEmployeeStatus_ok hrun
  rcases happlies : appliesTo actx s.accounts.db event payload with _ | user
  · rw [happlies] at husers
    exact linksOf_congr husers
  · rw [happlies] at husers
    obtain ⟨hmem, user', happly, husers⟩ := husers
    obtain rfl := Option.some.inj (EmployeeEvent.update_apply.symm.trans happly)
    show v'.state.db.users.rows.map _ = s.accounts.db.users.rows.map _
    rw [husers]
    exact Keyed.map_replace_of_same hmem rfl rfl

/-- A status event changes the status and the version of a record, which no rule reads. -/
theorem synchronizeEmployeeStatus_records (hevent : event ≠ .other)
    (hrun : ProvisioningApplicationService.synchronizeEmployeeStatus actx fresh event payload
      ⟨s.accounts, v.faults⟩ = (.ok b, v')) (tenantCode : String) (id : Uuid) :
    EmployeeStore.employee { s with accounts := v'.state } tenantCode id =
        s.employee tenantCode id ∨
      ∃ row status sourceVersion, s.employee tenantCode id = some row ∧
        EmployeeStore.employee { s with accounts := v'.state } tenantCode id =
          some (row.changed status sourceVersion) := by
  rcases hfound : Accounts.EmployeeReferenceRepository.employeeInTenant actx s.accounts.db
    payload.id with _ | row
  · rw [synchronizeEmployeeStatus_missing hfound hrun]
    exact .inl rfl
  · have hemployees := ProvisioningApplicationService.synchronizeEmployeeStatus_employees hevent
      hfound hrun
    have hsame : ∀ {s₂ : EmployeeStore}, v'.state.db.employees = s₂.accounts.db.employees →
        EmployeeStore.employee { s with accounts := v'.state } tenantCode id =
          s₂.employee tenantCode id := by
      intro s₂ h
      unfold EmployeeStore.employee
      rw [h]
    split at hemployees
    · exact .inl (hsame hemployees)
    · have hmem : row ∈ s.accounts.db.employees.rows := List.mem_of_find?_eq_some hfound
      obtain ⟨s₂, hwrites, hs₂⟩ : ∃ s₂, WritesEmployee s s₂
          (row.changed event.employeeStatus (toString payload.sourceVersion.val)) ∧
            v'.state.db.employees = s₂.accounts.db.employees :=
        ⟨_, writes_replace hmem rfl rfl, hemployees⟩
      rw [hsame hs₂, hwrites.found]
      split
      next hkey =>
        exact .inr ⟨row, _, _, EmployeeStore.employee_eq_some.mpr ⟨hmem, hkey⟩, rfl⟩
      · exact .inl rfl

theorem synchronizeEmployeeStatus_mirrored (hmirrored : Mirrored s) (hevent : event ≠ .other)
    (hrun : ProvisioningApplicationService.synchronizeEmployeeStatus actx fresh event payload
      ⟨s.accounts, v.faults⟩ = (.ok b, v')) :
    Mirrored { s with accounts := v'.state } ∧
      ∀ t id a, attributeOf { s with accounts := v'.state } t id a = attributeOf s t id a := by
  have hlinks := synchronizeEmployeeStatus_links hrun
  have hrecords := synchronizeEmployeeStatus_records hevent hrun
  refine ⟨⟨hmirrored.valid, ?_, ?_⟩, fun t id a => ?_⟩
  · unfold OneUserEach
    rw [hlinks]
    exact hmirrored.unique
  · intro t id found hfound uid hlink
    rw [hlinks] at hlink
    rcases hrecords t id with hsame | ⟨row, status, sourceVersion, hrow, hchanged⟩
    · exact hmirrored.mirrors t id found (hsame.symm.trans hfound) uid hlink
    · obtain rfl := Option.some.inj (hchanged.symm.trans hfound)
      refine (hmirrored.mirrors t id row hrow uid hlink).trans ?_
      exact groupsMatching_congr hmirrored.valid fun _ _ key _ _ =>
        ⟨(agree_status key status sourceVersion).1.symm, fun _ => rfl⟩
  · rcases hrecords t id with hsame | ⟨row, status, sourceVersion, hrow, hchanged⟩
    · rw [attributeOf, hsame, attributeOf]
    · rw [attributeOf, hchanged, attributeOf, hrow]
      cases a <;> rfl

end StatusEvents

theorem handleEmployeeUpsert_attribute (htenant : ctx.tenantCode = data.tenantCode)
    (hfound : w.state.employee data.tenantCode data.id = some employee)
    (hrun : handleEmployeeUpsert ctx data w = (.ok u, w')) (tenantCode : String) (id : Uuid)
    (a : EmployeeAttribute) :
    attributeOf w'.state tenantCode id a =
      if data.tenantCode = tenantCode ∧ data.id = id then
        some ((a.told data).given.or (a.stored employee))
      else attributeOf w.state tenantCode id a := by
  rw [attributeOf, handleEmployeeUpsert_employee htenant hrun, hfound]
  split
  · exact congrArg some (a.stored_updated)
  · rfl

-- ============================================================================
-- Runs
-- ============================================================================

/-- An event about an existing employee: by which request it is handled, and what its
    calls run into. -/
inductive RecordDelivery where
  | updated (ctx : Context) (payload : EmployeeLifecyclePayload) (faults : List (Option Failure))
  | reportingLineChanged (ctx : Context) (payload : EmployeeLifecyclePayload)
      (faults : List (Option Failure))
  | statusChanged (ctx : AccountContext) (fresh : FreshInvitation) (change : StatusChange)
      (id : Uuid) (faults : List (Option AccountError))

/-- With the store, what the updates have said of each attribute. -/
structure MirrorRun where
  told : String → Uuid → EmployeeAttribute → Option String
  store : EmployeeStore

namespace MirrorRun

/-- An absent field leaves an attribute, `null` clears it. -/
def hear (st : MirrorRun) (data : EmployeeLifecyclePayload) (tenantCode : String) (id : Uuid)
    (a : EmployeeAttribute) : Option String :=
  if data.tenantCode = tenantCode ∧ data.id = id then
    (a.told data).write (st.told tenantCode id a)
  else st.told tenantCode id a

/-- The event is handled without failure. -/
def after (st : MirrorRun) : RecordDelivery → Option MirrorRun
  | .updated ctx data faults =>
    if data.tenantCode ≠ "" ∧ (st.store.employee data.tenantCode data.id).isSome then
      match EmployeeLifecycleHandler.handleEmployeeUpdated ctx data ⟨st.store, faults⟩ with
      | (.ok _, w) => some ⟨st.hear data, w.state⟩
      | (.error _, _) => none
    else none
  | .reportingLineChanged ctx data faults =>
    match EmployeeLifecycleHandler.handleEmployeeReportingLineChanged ctx data
      ⟨st.store, faults⟩ with
    | (.ok _, w) => some { st with store := w.state }
    | (.error _, _) => none
  | .statusChanged ctx fresh change id faults =>
    match ProvisioningApplicationService.synchronizeEmployeeStatus ctx fresh change.event
      ⟨id, change.sourceVersion⟩ ⟨st.store.accounts, faults⟩ with
    | (.ok _, w) => some { st with store := { st.store with accounts := w.state } }
    | (.error _, _) => none

/-- The stored attributes are what the updates have said. -/
def Reflects (st : MirrorRun) : Prop :=
  ∀ tenantCode id a value, attributeOf st.store tenantCode id a = some value →
    value = st.told tenantCode id a

def runs : System MirrorRun RecordDelivery where
  init st := Mirrored st.store ∧ st.Reflects
  step := after

/-- An update clears only what is not stored, and does not empty an attribute without a
    word to a group that reads it. -/
def FollowsUpdate (st : MirrorRun) (d : RecordDelivery) (_ : MirrorRun) : Prop :=
  match d with
  | .updated _ data _ =>
    ∀ employee, st.store.employee data.tenantCode data.id = some employee →
      (∀ a : EmployeeAttribute, a.told data = .null → a.stored employee = none) ∧
        ¬Emptied st.store data employee
  | _ => True

variable {st st' start : MirrorRun} {d : RecordDelivery} {ds : List RecordDelivery}

/-- Where nothing is cleared that is stored, the record takes what the update says. -/
theorem written_of_given {column : Column String} {old : Option String}
    (h : column = .null → old = none) : column.given.or old = column.write old := by
  rcases column with _ | _ | text
  · rfl
  · rw [h rfl]
    rfl
  · rfl

theorem after_mirrored (hmirrored : Mirrored st.store) (hreflects : st.Reflects)
    (hstep : st.after d = some st') (hfollows : st.FollowsUpdate d st') :
    Mirrored st'.store ∧ st'.Reflects := by
  cases d with
  | updated ctx data faults =>
    simp only [after] at hstep
    split at hstep
    next hexists =>
      obtain ⟨hne, hsome⟩ := hexists
      obtain ⟨employee, hfound⟩ := Option.isSome_iff_exists.mp hsome
      obtain ⟨hcleared, hemptied⟩ := hfollows employee hfound
      split at hstep
      next w hrun =>
        obtain rfl := Option.some.inj hstep
        have hupsert := (congrFun (if_neg hne) _).symm.trans hrun
        refine ⟨handleEmployeeUpsert_mirrored hmirrored rfl hfound hemptied hupsert, ?_⟩
        intro tenantCode id a value hvalue
        rw [handleEmployeeUpsert_attribute rfl hfound hupsert] at hvalue
        show value = st.hear data tenantCode id a
        unfold hear
        split at hvalue
        next hkey =>
          obtain ⟨rfl, rfl⟩ := hkey
          rw [if_pos ⟨rfl, rfl⟩, ← Option.some.inj hvalue, written_of_given (hcleared a)]
          refine congrArg _ (hreflects _ _ _ _ ?_)
          rw [attributeOf, hfound, Option.map_some]
        next hkey =>
          rw [if_neg hkey]
          exact hreflects _ _ _ _ hvalue
      · cases hstep
    · cases hstep
  | reportingLineChanged ctx data faults =>
    simp only [after] at hstep
    split at hstep
    next w hrun =>
      obtain rfl := Option.some.inj hstep
      by_cases hne : data.tenantCode = ""
      · obtain ⟨-, rfl⟩ := Faulty.pure_ok.mp ((congrFun (if_pos hne) _).symm.trans hrun)
        exact ⟨hmirrored, hreflects⟩
      · obtain ⟨hmirrored', hsame⟩ := handleEmployeeReportingLineChanged_mirrored hmirrored rfl
          ((congrFun (if_neg hne) _).symm.trans hrun)
        exact ⟨hmirrored', fun t id a value hvalue =>
          hreflects t id a value ((hsame t id a).symm.trans hvalue)⟩
    · cases hstep
  | statusChanged ctx fresh change id faults =>
    simp only [after] at hstep
    split at hstep
    next w hrun =>
      obtain rfl := Option.some.inj hstep
      obtain ⟨hmirrored', hsame⟩ :=
        synchronizeEmployeeStatus_mirrored (v := ⟨st.store.accounts, faults⟩) hmirrored
          change.known hrun
      exact ⟨hmirrored', fun t id a value hvalue =>
        hreflects t id a value ((hsame t id a).symm.trans hvalue)⟩
    · cases hstep

/-- Through every run whose updates follow the condition, records are what the updates have
    said and users' groups are those that match. -/
theorem membership_mirrors_record (hinit : runs.init start)
    (hrun : runs.execute start ds = some st) (hfollows : runs.Along FollowsUpdate start ds) :
    st.Reflects ∧ Mirrors st.store := by
  have hkeeps : ∀ s d t, (Mirrored s.store ∧ s.Reflects) → runs.step s d = some t →
      FollowsUpdate s d t → Mirrored t.store ∧ t.Reflects :=
    fun s d t hs hstep hcond => after_mirrored hs.1 hs.2 hstep hcond
  have hend := hfollows.invariant hkeeps hinit hrun
  exact ⟨hend.2, hend.1.mirrors⟩

/-- One user of one employee, in the group that the department puts them in. -/
def sampleMirror : MirrorRun where
  told _ _
    | .departmentId => some "eng"
    | .employmentStatus => some "ACTIVE"
    | _ => none
  store := { accounts := sampleAccountStore, authz := { db := sampleDatabase true .empty } }

theorem sampleMirror_init : runs.init sampleMirror := by
  have hemployee : ∀ t id e, sampleMirror.store.employee t id = some e →
      t = "acme" ∧ e = { toEmployeeReference := sampleEmployee } := by
    intro t id e h
    obtain ⟨hmem, rfl, -⟩ := EmployeeStore.employee_eq_some.mp h
    obtain rfl := List.mem_singleton.mp hmem
    exact ⟨rfl, rfl⟩
  have hlink : ∀ uid t id, (uid, t, some id) ∈ linksOf sampleMirror.store →
      uid = sampleUserId := by
    intro uid t id h
    obtain ⟨user, hmem, hkeys⟩ := List.mem_map.mp h
    obtain rfl := List.mem_singleton.mp hmem
    exact (Prod.mk.inj hkeys).1.symm
  refine ⟨⟨?_, ?_, ?_⟩, ?_⟩
  · intro g hg _ rule hrule
    obtain rfl := List.mem_singleton.mp hg
    obtain rfl := Option.some.inj hrule
    decide +kernel
  · intro uid t uid' t' id h h'
    rw [hlink _ _ _ h, hlink _ _ _ h']
  · intro t id e he uid h
    obtain ⟨rfl, rfl⟩ := hemployee t id e he
    obtain rfl := hlink _ _ _ h
    ext groupId
    constructor
    · intro hmember
      obtain rfl : groupId = sampleGroupId :=
        congrArg UserGroupMembership.groupId (List.mem_singleton.mp hmember)
      exact ⟨sampleUserGroup, List.mem_singleton_self _, rfl, rfl, rfl, sampleRule, rfl,
        by decide +kernel⟩
    · rintro ⟨g, hg, -, -, rfl, -⟩
      obtain rfl := List.mem_singleton.mp hg
      exact List.mem_singleton_self _
  · intro t id a value hvalue
    obtain ⟨e, he, rfl⟩ := Option.map_eq_some_iff.mp hvalue
    obtain ⟨-, rfl⟩ := hemployee t id e he
    cases a <;> rfl

def transferred (department : Column String) : EmployeeLifecyclePayload where
  id := sampleEmployeeId
  tenantCode := "acme"
  employeeCode := "E-1"
  departmentId := department
  sourceVersion := ⟨2, Js.SafeInteger.two_isSafe⟩

/-- A transfer and a suspension. -/
def sampleEvents : List RecordDelivery :=
  [.updated acme (transferred (.value "ops")) [],
    .statusChanged acmeAccounts reactivatedSample.fresh suspendedSample.change sampleEmployeeId []]

theorem membership_mirrors_record_sample :
    ∃ st, runs.execute sampleMirror sampleEvents = some st ∧ st.Reflects ∧ Mirrors st.store := by
  have hsome : (runs.execute sampleMirror sampleEvents).isSome = true := by decide +kernel
  obtain ⟨st, hst⟩ := Option.isSome_iff_exists.mp hsome
  refine ⟨st, hst, membership_mirrors_record sampleMirror_init hst ?_⟩
  intro st₁ hst₁
  refine ⟨fun employee _ => ⟨fun a ha => ?_, ?_⟩, fun _ _ => ⟨trivial, trivial⟩⟩
  · cases a <;> cases ha
  · rintro ⟨-, a, ha, -⟩
    exact absurd ha (by cases a <;> decide)

/-- An update that clears the department leaves it stored, and with it the membership. -/
theorem not_membership_mirrors_record :
    ¬∀ (start st : MirrorRun) (ds : List RecordDelivery), runs.init start →
        runs.execute start ds = some st → st.Reflects ∧ Mirrors st.store := by
  intro h
  have hsome : (runs.execute sampleMirror [.updated acme (transferred .null) []]).isSome = true := by
    decide +kernel
  obtain ⟨st, hst⟩ := Option.isSome_iff_exists.mp hsome
  have hend : ∀ st ∈ runs.execute sampleMirror [.updated acme (transferred .null) []],
      attributeOf st.store "acme" sampleEmployeeId .departmentId = some (some "eng") ∧
        st.told "acme" sampleEmployeeId .departmentId = none := by
    decide +kernel
  obtain ⟨hstored, htold⟩ := hend st hst
  have hvalue := (h _ _ _ sampleMirror_init hst).1 _ _ _ _ hstored
  rw [htold] at hvalue
  cases hvalue

end MirrorRun

end AccessService.Employee
