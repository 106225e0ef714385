/-
  AccessService.UserGroups.ScopeWellFormed

  Whether the stored scope of a group names an entity exactly when its type is anchored to
  one, over runs of `create`, `updateById` and `updateScope`.

  Only `updateScope` goes through the validator, and none of the three can take a stored
  reference away: they leave the property `undefined`, which an UPDATE skips.
-/

import AccessService.Lib.Transition
import AccessService.UserGroups.GroupAdministrationEffects

namespace AccessService.UserGroups.Administration

open AccessService.Js AccessService.Lib AccessService.Pg AccessService.Persistence
open GroupStore

variable {ctx : GroupContext} {s s' : GroupStore} {tenantCode : String} {id : Uuid}
  {row : UserGroupRow}

-- ============================================================================
-- Calls
-- ============================================================================

inductive ScopeRequest where
  | create (newId : Uuid) (dto : CreateUserGroupDto)
  | updateById (id : Uuid) (dto : UpdateUserGroupDto) (expectedVersion : Int)
  | updateScope (id : Uuid) (dto : UpdateUserGroupScopeDto)

/-- A request and what it runs with. -/
structure ScopeCall where
  ctx : GroupContext
  request : ScopeRequest

def ScopeRequest.run (ctx : GroupContext) (s : GroupStore) :
    ScopeRequest → Except UserGroupError (UserGroupEntity × GroupStore)
  | .create newId dto => UserGroupLifecycleService.create ctx s newId dto
  | .updateById id dto expectedVersion =>
    UserGroupLifecycleService.updateById ctx s id dto expectedVersion
  | .updateScope id dto => UserGroupScopeService.updateScope ctx s id dto

/-- The stores that calls lead to; a call that throws changes nothing, and is no step. -/
def scopeCalls : Transition.System GroupStore ScopeCall where
  init s := s.tables.groups.rows = []
  step s call := ((call.request.run call.ctx s).toOption).map Prod.snd

theorem step_eq_some {call : ScopeCall} :
    scopeCalls.step s call = some s' ↔
      ∃ entity, call.request.run call.ctx s = .ok (entity, s') := by
  show ((call.request.run call.ctx s).toOption).map Prod.snd = some s' ↔ _
  rcases call.request.run call.ctx s with e | ⟨entity, s₁⟩
  · simp [Except.toOption]
  · simp [Except.toOption]

-- ============================================================================
-- Well-formed scopes
-- ============================================================================

/-- The type is COMPANY, LOCATION or DEPARTMENT. -/
abbrev Anchored (scopeType : ScopeType) : Prop :=
  scopeType ∈ UserGroupScopeValidator.ENTITY_ANCHORED_SCOPES

/-- The reference is trimmed and not empty. -/
def Names (refId : String) : Prop := trim refId = refId ∧ refId ≠ ""

/-- An anchored scope has a reference, and no other has. -/
def WellScoped (scopeType : ScopeType) (scopeRefId : Option String) : Prop :=
  if Anchored scopeType then ∃ refId, scopeRefId = some refId ∧ Names refId
  else scopeRefId = none

def WellFormed (s : GroupStore) : Prop :=
  ∀ row ∈ s.tables.groups.rows, WellScoped row.scopeType row.scopeRefId

theorem wellScoped_none {scopeType : ScopeType} :
    WellScoped scopeType none ↔ ¬Anchored scopeType := by
  unfold WellScoped
  split
  next h => exact ⟨nofun, fun hnot => absurd h hnot⟩
  next h => exact ⟨fun _ => h, fun _ => rfl⟩

theorem wellScoped_some {scopeType : ScopeType} {refId : String} :
    WellScoped scopeType (some refId) ↔ Anchored scopeType ∧ Names refId := by
  unfold WellScoped
  split
  next h =>
    constructor
    · rintro ⟨refId', hsome, hnames⟩
      exact ⟨h, Option.some.inj hsome ▸ hnames⟩
    · exact fun hnames => ⟨refId, rfl, hnames.2⟩
  next h => exact ⟨nofun, fun hanchored => absurd hanchored.1 h⟩

-- ============================================================================
-- The condition
-- ============================================================================

/-- A reference that is written suits the scope type; where none is written the one that is
    stored stays, and `keeps` says whether there is one. -/
def Suits (scopeType : ScopeType) (scopeRefId : Option String) (keeps : Prop) : Prop :=
  match scopeRefId with
  | some refId => Anchored scopeType ∧ Names refId
  | none => Anchored scopeType ↔ keeps

theorem suits_new {scopeType : ScopeType} {scopeRefId : Option String} :
    Suits scopeType scopeRefId False ↔ WellScoped scopeType scopeRefId := by
  cases scopeRefId with
  | some refId => exact wellScoped_some.symm
  | none => exact (iff_false _).to_iff.trans wellScoped_none.symm

/-- The condition on a call and the store it finds. -/
def Meets (s : GroupStore) (call : ScopeCall) : Prop :=
  match call.request with
  | .create _ dto => Suits dto.scopeType (dto.scopeRefId.map trim) False
  | .updateById id dto _ => ∀ row ∈ s.group call.ctx.tenantCode id,
    Suits dto.scopeType (dto.scopeRefId.map trim) (Anchored row.scopeType)
  | .updateScope id dto => ∀ row ∈ s.group call.ctx.tenantCode id,
    Anchored row.scopeType → ∃ type : ScopeType, Anchored type ∧ dto.scopeType = type.text

-- ============================================================================
-- Steps
-- ============================================================================

/-- An edit of one group leaves the store well formed if it leaves the group so. -/
theorem wellFormed_edit (hedit : Edit id s s') (hrow : s'.group tenantCode id = some row)
    (hs : WellFormed s) : WellFormed s' ↔ WellScoped row.scopeType row.scopeRefId := by
  obtain ⟨hmem, -, hid⟩ := group_eq_some.mp hrow
  constructor
  · exact fun h => h row hmem
  · intro hrow other hother
    by_cases hne : other.id = id
    · rwa [s'.tables.groups.row_unique hother hmem (hne.trans hid.symm)]
    · exact hs other ((hedit.groups other hne).mp hother)

theorem create_adds {newId : Uuid} {dto : CreateUserGroupDto} {entity : UserGroupEntity}
    (h : UserGroupLifecycleService.create ctx s newId dto = .ok (entity, s')) :
    ∃ row, s'.tables.groups.rows = s.tables.groups.rows ++ [row] ∧
      row.scopeType = dto.scopeType ∧ row.scopeRefId = dto.scopeRefId.map trim := by
  obtain ⟨u, -, h⟩ := Sql.bind_eq_ok.mp h
  obtain ⟨row, hcreated, h⟩ := Sql.bind_eq_ok.mp h
  obtain ⟨s₁, hcreate, h⟩ := Sql.bind_eq_ok.mp h
  obtain ⟨s₂, hbulk, hreturn⟩ := Sql.bind_eq_ok.mp h
  obtain ⟨-, -, -, htype, href⟩ := aggregateCreate_ok hcreated
  obtain ⟨-, -, -, -, hrows, -⟩ := create_ok hcreate
  obtain ⟨-, hgroups, -⟩ := bulkSave_ok hbulk
  refine ⟨row, ?_, htype, href⟩
  rw [← (Prod.mk.inj (Except.ok.inj hreturn)).2]
  show s₂.tables.groups.rows = _
  rw [hgroups, hrows]

/-- What an edit has made of the group `row`, up to the events. -/
structure Rescoped (ctx : GroupContext) (id : Uuid) (s s' : GroupStore) (row : UserGroupRow)
    (scopeType : ScopeType) (scopeRefId : Option String) : Prop where
  found : s.group ctx.tenantCode id = some row
  stored : ∃ s₁ events row', s' = s₁.publish events ∧ Edit id s s₁ ∧
    s₁.group ctx.tenantCode id = some row' ∧ row'.scopeType = scopeType ∧
      row'.scopeRefId = (Column.ofOptional scopeRefId).write row.scopeRefId

theorem updateById_rescopes {dto : UpdateUserGroupDto} {expectedVersion : Int}
    {entity : UserGroupEntity}
    (h : UserGroupLifecycleService.updateById ctx s id dto expectedVersion = .ok (entity, s')) :
    ∃ row, Rescoped ctx id s s' row dto.scopeType (dto.scopeRefId.map trim) := by
  obtain ⟨existing, hfind, h⟩ := Sql.bind_eq_ok.mp h
  obtain ⟨u, -, h⟩ := Sql.bind_eq_ok.mp h
  obtain ⟨v, -, h⟩ := Sql.bind_eq_ok.mp h
  obtain ⟨keys, -, h⟩ := Sql.bind_eq_ok.mp h
  obtain ⟨x, -, h⟩ := Sql.bind_eq_ok.mp h
  obtain ⟨change, hchange, h⟩ := Sql.bind_eq_ok.mp h
  obtain ⟨s₁, hwrite, hreturn⟩ := Sql.bind_eq_ok.mp h
  obtain ⟨row, hrow, rfl⟩ := findRequired_eq_ok.mp hfind
  obtain ⟨keys', -, hchange⟩ := Sql.bind_eq_ok.mp hchange
  obtain ⟨-, htenant, hid⟩ := group_eq_some.mp hrow
  cases hchange
  obtain ⟨hedit, hgroup, -⟩ := writeChange_ok hrow hid htenant hwrite
  exact ⟨row, hrow, s₁, _, _, (Prod.mk.inj (Except.ok.inj hreturn)).2.symm, hedit, hgroup, rfl, rfl⟩

theorem updateScope_rescopes {dto : UpdateUserGroupScopeDto} {entity : UserGroupEntity}
    (h : UserGroupScopeService.updateScope ctx s id dto = .ok (entity, s')) :
    ∃ row validated,
      UserGroupScopeValidator.validate dto.scopeType dto.scopeRefId = .ok validated ∧
        Rescoped ctx id s s' row validated.scopeType validated.scopeRefId := by
  obtain ⟨existing, hfind, h⟩ := Sql.bind_eq_ok.mp h
  obtain ⟨u, -, h⟩ := Sql.bind_eq_ok.mp h
  obtain ⟨v, -, h⟩ := Sql.bind_eq_ok.mp h
  obtain ⟨change, hchange, h⟩ := Sql.bind_eq_ok.mp h
  obtain ⟨s₁, hwrite, hreturn⟩ := Sql.bind_eq_ok.mp h
  obtain ⟨row, hrow, rfl⟩ := findRequired_eq_ok.mp hfind
  obtain ⟨aggregate, haggregate, hchange⟩ := Sql.bind_eq_ok.mp hchange
  obtain ⟨validated, hvalid, haggregate⟩ := Sql.bind_eq_ok.mp haggregate
  obtain ⟨-, htenant, hid⟩ := group_eq_some.mp hrow
  cases haggregate
  cases hchange
  obtain ⟨hedit, hgroup, -⟩ := writeChange_ok hrow hid htenant hwrite
  exact ⟨row, validated, hvalid, hrow, s₁, _, _, (Prod.mk.inj (Except.ok.inj hreturn)).2.symm,
    hedit, hgroup, rfl, rfl⟩

/-- An edit of a well-formed group leaves it so if and only if the reference it writes suits
    the type, or the one it leaves does. -/
theorem Rescoped.wellFormed_iff {scopeType : ScopeType} {scopeRefId : Option String}
    (h : Rescoped ctx id s s' row scopeType scopeRefId) (hs : WellFormed s) :
    WellFormed s' ↔ Suits scopeType scopeRefId (Anchored row.scopeType) := by
  obtain ⟨s₁, events, row', rfl, hedit, hrow', htype, href⟩ := h.stored
  have hrow := hs row (group_eq_some.mp h.found).1
  refine (wellFormed_edit hedit hrow' hs).trans ?_
  rw [htype, href]
  cases scopeRefId with
  | some refId => exact wellScoped_some
  | none =>
    show WellScoped scopeType row.scopeRefId ↔ (Anchored scopeType ↔ Anchored row.scopeType)
    rcases hstored : row.scopeRefId with _ | refId
    · rw [hstored, wellScoped_none] at hrow
      rw [wellScoped_none]
      exact ⟨fun h => iff_of_false h hrow, fun h hanchored => hrow (h.mp hanchored)⟩
    · rw [hstored, wellScoped_some] at hrow
      rw [wellScoped_some]
      exact ⟨fun h => iff_of_true h.1 hrow.1, fun h => ⟨h.mpr hrow.1, hrow.2⟩⟩

-- ============================================================================
-- The validator
-- ============================================================================

theorem text_injective : Function.Injective ScopeType.text := by
  intro a b h
  cases a <;> cases b <;> first | rfl | exact absurd h (by decide)

/-- What an accepted scope is: a type by its name, or by the alias of TENANT_WIDE, and a
    trimmed reference where the type is anchored. -/
theorem validate_spec {scopeType : String} {scopeRefId : Option String}
    {validated : ValidatedScopeResult}
    (h : UserGroupScopeValidator.validate scopeType scopeRefId = .ok validated) :
    validated.scopeType.text = (if scopeType = "TENANT" then "TENANT_WIDE" else scopeType) ∧
      ∀ refId ∈ validated.scopeRefId, Names refId := by
  unfold UserGroupScopeValidator.validate at h
  split at h
  · cases h
  · simp only at h
    split at h
    · cases h
    next type hfind =>
      have htext : type.text = if scopeType = "TENANT" then "TENANT_WIDE" else scopeType := by
        simpa using List.find?_some hfind
      split at h
      · split at h
        · cases h
        · cases h
        next refId hempty hrefId =>
          cases h
          refine ⟨htext, fun refId' hmem => ?_⟩
          obtain rfl := Option.some.inj hmem
          obtain ⟨given, -, rfl⟩ := Option.map_eq_some_iff.mp hrefId
          exact ⟨trim_trim given, hempty⟩
      · cases h
        exact ⟨htext, nofun⟩

/-- The alias is that of a scope that is not anchored. -/
theorem validate_anchored {scopeType : String} {scopeRefId : Option String}
    {validated : ValidatedScopeResult}
    (h : UserGroupScopeValidator.validate scopeType scopeRefId = .ok validated) :
    Anchored validated.scopeType ↔ ∃ type : ScopeType, Anchored type ∧ scopeType = type.text := by
  obtain ⟨htext, -⟩ := validate_spec h
  constructor
  · intro hanchored
    split at htext
    · have hwide : validated.scopeType = .TENANT_WIDE := text_injective htext
      rw [hwide] at hanchored
      exact absurd hanchored (by decide)
    · exact ⟨validated.scopeType, hanchored, htext.symm⟩
  · rintro ⟨type, hanchored, rfl⟩
    have halias : type.text ≠ "TENANT" := by cases type <;> decide
    rw [if_neg halias] at htext
    rwa [text_injective htext]

/-- What `updateScope` writes suits, unless it leaves a reference to a scope that has none. -/
theorem suits_validated {scopeType : String} {scopeRefId : Option String}
    {validated : ValidatedScopeResult} {keeps : Prop}
    (h : UserGroupScopeValidator.validate scopeType scopeRefId = .ok validated) :
    Suits validated.scopeType validated.scopeRefId keeps ↔
      (keeps → Anchored validated.scopeType) := by
  have hanchored := UserGroupScopeValidator.validate_ok h
  obtain ⟨-, hnames⟩ := validate_spec h
  obtain ⟨type, refId⟩ := validated
  cases refId with
  | some refId =>
    have htype : Anchored type := hanchored.mp rfl
    exact iff_of_true ⟨htype, hnames refId rfl⟩ fun _ => htype
  | none =>
    have htype : ¬Anchored type := fun h => Bool.false_ne_true (hanchored.mpr h)
    exact ⟨fun h => h.mpr, fun h => ⟨fun hanchored => absurd hanchored htype, h⟩⟩

-- ============================================================================
-- One step
-- ============================================================================

/-- A call on a well-formed store leaves it so if and only if it meets the condition. -/
theorem step_wellFormed_iff {call : ScopeCall} (hs : WellFormed s)
    (h : scopeCalls.step s call = some s') : WellFormed s' ↔ Meets s call := by
  obtain ⟨ctx, request⟩ := call
  obtain ⟨entity, hrun⟩ := step_eq_some.mp h
  cases request with
  | create newId dto =>
    obtain ⟨row, hrows, htype, href⟩ := create_adds hrun
    have hnew : WellFormed s' ↔ WellScoped dto.scopeType (dto.scopeRefId.map trim) := by
      unfold WellFormed
      rw [hrows, ← htype, ← href]
      simp only [List.mem_append, List.mem_singleton]
      exact ⟨fun h => h row (.inr rfl), fun h other hother => hother.elim (hs other) fun hrow =>
        hrow ▸ h⟩
    exact hnew.trans suits_new.symm
  | updateById id dto expectedVersion =>
    obtain ⟨row, hrescoped⟩ := updateById_rescopes hrun
    refine (hrescoped.wellFormed_iff hs).trans ?_
    simp [Meets, hrescoped.found]
  | updateScope id dto =>
    obtain ⟨row, validated, hvalid, hrescoped⟩ := updateScope_rescopes hrun
    have hmeets : Meets s ⟨ctx, .updateScope id dto⟩ ↔
        (Anchored row.scopeType → Anchored validated.scopeType) := by
      simp [Meets, hrescoped.found, validate_anchored hvalid]
    rw [hmeets, hrescoped.wellFormed_iff hs]
    exact suits_validated hvalid

-- ============================================================================
-- Runs
-- ============================================================================

/-- In a run from a well-formed store, every state is well formed if and only if every call
    meets the condition. -/
theorem scopes_wellFormed_iff {calls : List ScopeCall} (hs : WellFormed s)
    (h : scopeCalls.execute s calls = some s') :
    scopeCalls.Along (fun _ _ t => WellFormed t) s calls ↔
      scopeCalls.Along (fun t call _ => Meets t call) s calls :=
  Transition.System.along_iff (I := WellFormed)
    (fun _ _ _ ht hstep => step_wellFormed_iff ht hstep)
    (fun _ _ _ ht hstep hmeets => (step_wellFormed_iff ht hstep).mpr hmeets) hs h

theorem staffStore_wellFormed : WellFormed staffStore := by
  intro row hrow
  obtain rfl := List.mem_singleton.mp hrow
  exact wellScoped_none.mpr (by decide)

/-- The staff get a role for their department, and then for themselves. -/
def departmentThenSelf : List ScopeCall :=
  [⟨acmeAdmin, .updateScope sampleGroupId
      { scopeType := "DEPARTMENT", scopeRefId := some "eng", expectedVersion := 1 }⟩,
    ⟨acmeAdmin, .updateScope sampleGroupId { scopeType := "SELF", expectedVersion := 2 }⟩]

theorem departmentThenSelf_runs : ∃ s', scopeCalls.execute staffStore departmentThenSelf = some s' ∧
    s'.tables.groups.rows.map (fun g => (g.scopeType, g.scopeRefId)) = [(.SELF, some "eng")] := by
  have hrun : (scopeCalls.execute staffStore departmentThenSelf).map
      (fun t => t.tables.groups.rows.map fun g => (g.scopeType, g.scopeRefId)) =
        some [(.SELF, some "eng")] := by decide +kernel
  exact Option.map_eq_some_iff.mp hrun

theorem scopes_wellFormed_iff_staff :
    scopeCalls.Along (fun _ _ t => WellFormed t) staffStore departmentThenSelf ↔
      scopeCalls.Along (fun t call _ => Meets t call) staffStore departmentThenSelf := by
  obtain ⟨s', hrun, -⟩ := departmentThenSelf_runs
  exact scopes_wellFormed_iff staffStore_wellFormed hrun

/-- The department stays with a scope that has no use for it. -/
theorem not_scopes_wellFormed :
    ¬∀ (s s' : GroupStore) (calls : List ScopeCall), WellFormed s →
      scopeCalls.execute s calls = some s' → WellFormed s' := by
  intro h
  obtain ⟨s', hrun, hscopes⟩ := departmentThenSelf_runs
  obtain ⟨row, hrow, hscope⟩ := List.mem_map.mp (hscopes ▸ List.mem_cons_self :
    ((.SELF, some "eng") : ScopeType × Option String) ∈
      s'.tables.groups.rows.map fun g => (g.scopeType, g.scopeRefId))
  obtain ⟨htype, href⟩ := Prod.mk.inj hscope
  have hwell := h _ _ _ staffStore_wellFormed hrun row hrow
  rw [htype, href, wellScoped_some] at hwell
  exact absurd hwell.1 (by decide)

end AccessService.UserGroups.Administration
