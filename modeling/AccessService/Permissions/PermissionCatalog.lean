/-
  AccessService.Permissions.PermissionCatalog

  How a catalog is loaded (`permission-catalog.loader.ts`, `permission-catalog.service.ts`),
  and what the check of a requested set says against a catalog that has been validated.
-/

import AccessService.Js.Value
import AccessService.Permissions.PermissionCatalogValidator

namespace AccessService.Permissions

open AccessService.Js

/-- An entry of the parsed file. -/
structure RawPermission where
  id : String
  resource : String
  action : String
  «requires» : Option (List String) := none
  deprecated : Option Bool := none
  deriving DecidableEq

/-- What the loader returns. -/
structure LoadedCatalog where
  definitions : List PermissionDefinition
  map : JsMap String PermissionDefinition
  graph : CatalogGraph

namespace PermissionCatalogLoader

def PROHIBITED_EVENT_ACTION_SUFFIXES : List String :=
  ["created", "updated", "deleted", "archived", "approved", "rejected", "deactivated",
    "activated", "synced", "requested", "viewed"]

/-- What matches the pattern is not empty, so `!id` adds nothing. -/
def validatePermissionNaming (id resource action : String) : Except PermissionCatalogError Unit :=
  let expectedId := resource ++ "." ++ action
  if isPermissionAction id = false then
    .error (.InvalidPermissionFormatError id ("Permission ID '" ++ id ++
      "' must match pattern 'resource.action' with lowercase alphanumeric characters."))
  else if id ≠ expectedId then
    .error (.InvalidPermissionFormatError id ("Permission ID '" ++ id ++
      "' does not match expected concatenation '" ++ expectedId ++ "'."))
  else if toLowerCase action ∈ PROHIBITED_EVENT_ACTION_SUFFIXES then
    .error (.InvalidPermissionFormatError id ("Permission action '" ++ action ++
      "' uses past-tense event naming which is strictly prohibited. " ++
      "Use present-tense imperative action verbs (e.g. 'create', 'update', 'view')."))
  else .ok ()

def loadDefinition (raw : RawPermission) : Except PermissionCatalogError PermissionDefinition := do
  validatePermissionNaming raw.id raw.resource raw.action
  return { id := raw.id, «requires» := raw.requires.getD [], deprecated := raw.deprecated == some true }

def loadDefinitions : List RawPermission →
    Except PermissionCatalogError (List PermissionDefinition)
  | [] => .ok []
  | raw :: rest => do
    let definition ← loadDefinition raw
    let definitions ← loadDefinitions rest
    return definition :: definitions

/-- `loadFromYamlContent`, from the parsed `permissions` on. -/
def load (permissions : List RawPermission) : Except PermissionCatalogError LoadedCatalog := do
  let definitions ← loadDefinitions permissions
  return {
    definitions := definitions
    map := .ofEntries (definitions.map fun definition => (definition.id, definition))
    graph := PermissionGraphBuilder.catalogGraph definitions }

end PermissionCatalogLoader

/-- The loaded catalog is taken once it has passed the validator. -/
def PermissionCatalogService.onModuleInit (fuel : Nat) (permissions : List RawPermission) :
    Option (Except PermissionCatalogError LoadedCatalog) :=
  match PermissionCatalogLoader.load permissions with
  | .error error => some (.error error)
  | .ok loaded =>
    match PermissionCatalogValidator.validate fuel loaded.definitions loaded.graph with
    | none => none
    | some (.error error) => some (.error error)
    | some (.ok _) => some (.ok loaded)

-- ============================================================================
-- What is loaded
-- ============================================================================

open PermissionCatalogLoader PermissionCatalogService PermissionDependencyService

theorem loadDefinition_format {raw : RawPermission} {definition : PermissionDefinition}
    (h : loadDefinition raw = .ok definition) : isPermissionAction definition.id = true := by
  unfold loadDefinition validatePermissionNaming at h
  rcases hformat : isPermissionAction raw.id with _ | _
  · simp only [hformat, if_true] at h
    cases h
  · simp only [hformat, Bool.true_eq_false, if_false] at h
    split at h
    · cases h
    · split at h
      · cases h
      · cases h
        exact hformat

theorem loadDefinitions_format {permissions : List RawPermission}
    {definitions : List PermissionDefinition} (h : loadDefinitions permissions = .ok definitions) :
    ∀ definition ∈ definitions, isPermissionAction definition.id = true := by
  induction permissions generalizing definitions with
  | nil =>
    cases h
    exact fun _ hd => absurd hd List.not_mem_nil
  | cons raw rest ih =>
    rw [loadDefinitions] at h
    rcases hraw : loadDefinition raw with e | definition
    · rw [hraw] at h
      cases h
    · rcases hrest : loadDefinitions rest with e | loaded
      · rw [hraw, hrest] at h
        cases h
      · rw [hraw, hrest] at h
        cases h
        intro d hd
        rcases List.mem_cons.mp hd with rfl | hd
        · exact loadDefinition_format hraw
        · exact ih hrest d hd

theorem load_eq_ok {permissions : List RawPermission} {loaded : LoadedCatalog}
    (h : load permissions = .ok loaded) :
    (∀ definition ∈ loaded.definitions, isPermissionAction definition.id = true) ∧
      loaded.map = .ofEntries (loaded.definitions.map fun d => (d.id, d)) ∧
      loaded.graph = PermissionGraphBuilder.catalogGraph loaded.definitions := by
  unfold load at h
  rcases hdefinitions : loadDefinitions permissions with e | definitions
  · rw [hdefinitions] at h
    cases h
  · rw [hdefinitions] at h
    cases h
    exact ⟨loadDefinitions_format hdefinitions, rfl, rfl⟩

theorem onModuleInit_eq_ok {fuel : Nat} {permissions : List RawPermission} {loaded : LoadedCatalog}
    (h : onModuleInit fuel permissions = some (.ok loaded)) : load permissions = .ok loaded := by
  unfold onModuleInit at h
  rcases hload : load permissions with e | catalog
  · rw [hload] at h
    cases h
  · rw [hload] at h
    simp only at h
    split at h
    · cases h
    · cases h
    · rw [Except.ok.inj (Option.some.inj h)]

-- ============================================================================
-- A valid set
-- ============================================================================

/-- The catalog has the code, not deprecated. -/
def Grantable (loaded : LoadedCatalog) (code : String) : Prop :=
  ∃ definition, loaded.map.get code = some definition ∧ definition.deprecated = false

/-- Codes that can be granted, with all that is required through any chain. -/
structure TransitivelyClosed (loaded : LoadedCatalog) (codes : List String) : Prop where
  grantable : ∀ code ∈ codes, Grantable loaded code
  chains : ∀ code ∈ codes, ∀ required,
    Relation.TransGen (Requires loaded.definitions) code required → required ∈ codes

theorem validatePermissionSet_isValid {graph : PermissionDependencyGraph} {codes : List String} :
    (validatePermissionSet graph codes).isValid = true ↔
      (∀ code ∈ codes, codeErrors graph code = []) ∧
        ∀ code ∈ codes, prerequisiteErrors graph codes code = [] := by
  rw [← List.flatMap_eq_nil_iff, ← List.flatMap_eq_nil_iff]
  unfold validatePermissionSet
  simp only
  split
  next h =>
    refine ⟨fun hfalse => (by cases hfalse), fun hnil => ?_⟩
    rw [hnil.1] at h
    cases h
  next h =>
    rw [and_iff_right (List.length_eq_zero_iff.mp (Nat.eq_zero_of_not_pos h)), decide_eq_true_eq,
      List.length_eq_zero_iff]

section Loaded

variable {permissions : List RawPermission} {loaded : LoadedCatalog} {codes : List String}
variable {code : String}

/-- The node of a code has the definition that the map has. -/
theorem node_of_load (h : load permissions = .ok loaded) (code : String) :
    loaded.graph.nodes.get code =
      (loaded.map.get code).map
        (PermissionGraphBuilder.node (PermissionGraphBuilder.adjacency loaded.definitions)) := by
  obtain ⟨-, hmap, hgraph⟩ := load_eq_ok h
  rw [hmap, ← JsMap.get_ofEntries_map, hgraph, List.map_map]
  rfl

theorem codeErrors_eq_nil (h : load permissions = .ok loaded) :
    codeErrors loaded.graph.toPermissionDependencyGraph code = [] ↔ Grantable loaded code := by
  obtain ⟨hformat, hmap, -⟩ := load_eq_ok h
  have hnode := node_of_load h code
  unfold codeErrors Grantable
  rcases hget : loaded.map.get code with _ | definition
  · rw [hget, Option.map_none] at hnode
    rw [hnode]
    split
    · simp
    · simp
  · have hcode : isPermissionAction code = true := by
      rw [hmap] at hget
      obtain ⟨d, hd, hentry⟩ :=
        List.mem_map.mp (JsMap.mem_of_ofEntries (JsMap.get_eq_some.mp hget))
      obtain ⟨rfl, -⟩ := Prod.mk.inj hentry
      exact hformat d hd
    rw [hget, Option.map_some] at hnode
    rw [hnode, if_neg (by rw [hcode]; exact Bool.noConfusion)]
    rcases hdeprecated : definition.deprecated with _ | _
    · simp [PermissionGraphBuilder.node, hdeprecated]
    · simp [PermissionGraphBuilder.node, hdeprecated]

theorem prerequisiteErrors_eq_nil (h : load permissions = .ok loaded)
    (hgrantable : Grantable loaded code) :
    prerequisiteErrors loaded.graph.toPermissionDependencyGraph codes code = [] ↔
      ∀ required, Requires loaded.definitions code required → required ∈ codes := by
  obtain ⟨-, -, hgraph⟩ := load_eq_ok h
  obtain ⟨definition, hget, -⟩ := hgrantable
  obtain ⟨node, hnode⟩ : ∃ node, loaded.graph.nodes.get code = some node :=
    ⟨_, by rw [node_of_load h code, hget, Option.map_some]⟩
  have hbuilt : (PermissionGraphBuilder.buildGraph loaded.definitions).nodes.get code =
      some node := by
    rw [← hnode, hgraph]
    rfl
  have hprerequisites := (buildGraph_node hbuilt).2.2.2
  simp only [prerequisiteErrors, hnode, List.map_eq_nil_iff, List.filter_eq_nil_iff,
    decide_eq_true_eq, not_not, hprerequisites]

/-- Direct prerequisites are enough: what they require is checked in its turn. -/
theorem isValid_iff_transitivelyClosed (h : load permissions = .ok loaded) :
    (validatePermissionSet loaded.graph.toPermissionDependencyGraph codes).isValid = true ↔
      TransitivelyClosed loaded codes := by
  rw [validatePermissionSet_isValid]
  constructor
  · rintro ⟨hcodes, hprerequisites⟩
    have hgrantable : ∀ code ∈ codes, Grantable loaded code := fun code hcode =>
      (codeErrors_eq_nil h).mp (hcodes code hcode)
    have hstep : ∀ code ∈ codes, ∀ required, Requires loaded.definitions code required →
        required ∈ codes := fun code hcode =>
      (prerequisiteErrors_eq_nil h (hgrantable code hcode)).mp (hprerequisites code hcode)
    refine ⟨hgrantable, fun code hcode required hchain => ?_⟩
    induction hchain with
    | single hrequires => exact hstep _ hcode _ hrequires
    | tail _ hrequires ih => exact hstep _ ih _ hrequires
  · intro hclosed
    refine ⟨fun code hcode => (codeErrors_eq_nil h).mpr (hclosed.grantable code hcode),
      fun code hcode => ?_⟩
    refine (prerequisiteErrors_eq_nil h (hclosed.grantable code hcode)).mpr fun required hrequires =>
      hclosed.chains code hcode required (.single hrequires)

end Loaded

section Closed

variable {loaded : LoadedCatalog} {a b codes : List String}

theorem TransitivelyClosed.of_same (h : TransitivelyClosed loaded a)
    (hsame : ∀ code, code ∈ codes ↔ code ∈ a) : TransitivelyClosed loaded codes where
  grantable code hcode := h.grantable code ((hsame code).mp hcode)
  chains code hcode required hchain :=
    (hsame required).mpr (h.chains code ((hsame code).mp hcode) required hchain)

theorem TransitivelyClosed.union (ha : TransitivelyClosed loaded a)
    (hb : TransitivelyClosed loaded b) (hunion : ∀ code, code ∈ codes ↔ code ∈ a ∨ code ∈ b) :
    TransitivelyClosed loaded codes where
  grantable code hcode := by
    rcases (hunion code).mp hcode with hcode | hcode
    · exact ha.grantable code hcode
    · exact hb.grantable code hcode
  chains code hcode required hchain := by
    rcases (hunion code).mp hcode with hcode | hcode
    · exact (hunion required).mpr (.inl (ha.chains code hcode required hchain))
    · exact (hunion required).mpr (.inr (hb.chains code hcode required hchain))

theorem TransitivelyClosed.inter (ha : TransitivelyClosed loaded a)
    (hb : TransitivelyClosed loaded b) (hinter : ∀ code, code ∈ codes ↔ code ∈ a ∧ code ∈ b) :
    TransitivelyClosed loaded codes where
  grantable code hcode := ha.grantable code ((hinter code).mp hcode).1
  chains code hcode required hchain := by
    obtain ⟨hcodeA, hcodeB⟩ := (hinter code).mp hcode
    exact (hinter required).mpr
      ⟨ha.chains code hcodeA required hchain, hb.chains code hcodeB required hchain⟩

end Closed

/-- Against a catalog in use, a set is valid if and only if it is closed; so unions and
    intersections of valid sets are valid, and neither order nor repetition counts. -/
theorem validatePermissionSet_closure {fuel : Nat} {permissions : List RawPermission}
    {loaded : LoadedCatalog} (h : onModuleInit fuel permissions = some (.ok loaded)) :
    let valid codes :=
      (validatePermissionSet loaded.graph.toPermissionDependencyGraph codes).isValid
    (∀ codes, valid codes = true ↔ TransitivelyClosed loaded codes) ∧
    (∀ a b codes, valid a = true → valid b = true →
      (∀ code, code ∈ codes ↔ code ∈ a ∨ code ∈ b) → valid codes = true) ∧
    (∀ a b codes, valid a = true → valid b = true →
      (∀ code, code ∈ codes ↔ code ∈ a ∧ code ∈ b) → valid codes = true) ∧
    ∀ a codes, (∀ code, code ∈ codes ↔ code ∈ a) → valid codes = valid a := by
  intro valid
  have hvalid : ∀ codes, valid codes = true ↔ TransitivelyClosed loaded codes := fun codes =>
    isValid_iff_transitivelyClosed (onModuleInit_eq_ok h)
  refine ⟨hvalid, fun a b codes ha hb hunion => ?_, fun a b codes ha hb hinter => ?_,
    fun a codes hsame => ?_⟩
  · exact (hvalid codes).mpr (((hvalid a).mp ha).union ((hvalid b).mp hb) hunion)
  · exact (hvalid codes).mpr (((hvalid a).mp ha).inter ((hvalid b).mp hb) hinter)
  · rw [Bool.eq_iff_iff, hvalid, hvalid]
    exact ⟨fun hclosed => hclosed.of_same fun code => (hsame code).symm,
      fun hclosed => hclosed.of_same hsame⟩

/-- A file with a permission and its prerequisite. -/
def locationFile : List RawPermission :=
  [{ id := "location.view", resource := "location", action := "view" },
    { id := "location.create", resource := "location", action := "create",
      «requires» := some ["location.view"] }]

theorem validatePermissionSet_closure_locationFile :
    ∃ loaded, onModuleInit 2 locationFile = some (.ok loaded) ∧
      let valid codes :=
        (validatePermissionSet loaded.graph.toPermissionDependencyGraph codes).isValid
      (∀ codes, valid codes = true ↔ TransitivelyClosed loaded codes) ∧
      (∀ a b codes, valid a = true → valid b = true →
        (∀ code, code ∈ codes ↔ code ∈ a ∨ code ∈ b) → valid codes = true) ∧
      (∀ a b codes, valid a = true → valid b = true →
        (∀ code, code ∈ codes ↔ code ∈ a ∧ code ∈ b) → valid codes = true) ∧
      ∀ a codes, (∀ code, code ∈ codes ↔ code ∈ a) → valid codes = valid a :=
  ⟨_, rfl, @validatePermissionSet_closure 2 locationFile _ rfl⟩

end AccessService.Permissions
