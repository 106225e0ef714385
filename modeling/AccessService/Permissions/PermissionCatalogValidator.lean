/-
  AccessService.Permissions.PermissionCatalogValidator

  What a catalog has to pass before it is used (`permission-catalog-validator.service.ts`):
  every prerequisite is defined and not deprecated, and no permission requires itself
  through any chain.
-/

import AccessService.Lib.DepthFirst
import AccessService.Permissions.PermissionGraph

namespace AccessService.Permissions

open AccessService.Js AccessService.Lib

inductive PermissionCatalogError where
  | InvalidPermissionFormatError (permissionId message : String)
  | DanglingPermissionPrerequisiteError (permissionId missingPrerequisiteId : String)
  | CyclicPermissionDependencyError (cyclePath : List String)
  deriving DecidableEq

def PermissionCatalogError.message : PermissionCatalogError → String
  | .InvalidPermissionFormatError _ message => message
  | .DanglingPermissionPrerequisiteError permissionId missingPrerequisiteId =>
    "Permission '" ++ permissionId ++ "' references non-existent or deprecated prerequisite '" ++
      missingPrerequisiteId ++ "'."
  | .CyclicPermissionDependencyError cyclePath =>
    "Cyclic dependency detected in permission catalog: " ++ " -> ".intercalate cyclePath

/-- The whole graph that the builder returns: the nodes, and both lists of the edges. -/
structure CatalogGraph extends PermissionDependencyGraph where
  adjacencyList : CodeSets
  reverseAdjacencyList : CodeSets

def PermissionGraphBuilder.catalogGraph (definitions : List PermissionDefinition) :
    CatalogGraph where
  toPermissionDependencyGraph := buildGraph definitions
  adjacencyList := (adjacency definitions).adjacencyList
  reverseAdjacencyList := (adjacency definitions).reverseAdjacencyList

namespace PermissionCatalogValidator

open PermissionGraphBuilder

/-- The body of the inner loop. -/
def checkPrerequisite (validCodes : List String) (graph : CatalogGraph)
    (definition : PermissionDefinition) (req : String) : Except PermissionCatalogError Unit :=
  if req ∉ validCodes then
    .error (.DanglingPermissionPrerequisiteError definition.id req)
  else
    match graph.nodes.get req with
    | some target =>
      if target.definition.deprecated then
        .error (.DanglingPermissionPrerequisiteError definition.id
          (req ++ " (prerequisite is deprecated)"))
      else .ok ()
    | none => .ok ()

def validateReferentialIntegrity (definitions : List PermissionDefinition) (graph : CatalogGraph) :
    Except PermissionCatalogError Unit :=
  let validCodes := setOf (definitions.map PermissionDefinition.id)
  definitions.forM fun definition =>
    definition.requires.forM (checkPrerequisite validCodes graph definition)

/-- `graph.adjacencyList.get(nodeId) || new Set<string>()` -/
def neighbors (graph : CatalogGraph) (nodeId : String) : List String :=
  (graph.adjacencyList.get nodeId).getD []

/-- `graph.nodes.keys()` -/
def nodeIds (graph : CatalogGraph) : List String := graph.nodes.entries.map Prod.fst

/-- No result is for a call stack that would have to be deeper than `fuel`. -/
def detectCycles (fuel : Nat) (graph : CatalogGraph) : Option (Except PermissionCatalogError Unit) :=
  match DepthFirst.search (neighbors graph) fuel (nodeIds graph) with
  | .ok _ => some (.ok ())
  | .error (.cycle cyclePath) => some (.error (.CyclicPermissionDependencyError cyclePath))
  | .error .outOfFuel => none

def validate (fuel : Nat) (definitions : List PermissionDefinition) (graph : CatalogGraph) :
    Option (Except PermissionCatalogError Unit) :=
  match validateReferentialIntegrity definitions graph with
  | .error error => some (.error error)
  | .ok _ => detectCycles fuel graph

-- ============================================================================
-- Referential integrity
-- ============================================================================

variable {definitions : List PermissionDefinition} {code req : String}

theorem forM_eq_ok {ε α : Type} {f : α → Except ε Unit} {list : List α} :
    list.forM f = .ok () ↔ ∀ a ∈ list, f a = .ok () := by
  induction list with
  | nil => exact ⟨fun _ _ ha => absurd ha List.not_mem_nil, fun _ => rfl⟩
  | cons a as ih =>
    rw [List.forall_mem_cons, ← ih]
    show (f a >>= fun _ => as.forM f) = .ok () ↔ _
    rcases f a with e | _
    · exact ⟨fun h => (by cases h), fun h => h.1⟩
    · exact ⟨fun h => ⟨rfl, h⟩, fun h => h.2⟩

theorem checkPrerequisite_eq_ok {validCodes : List String} {graph : CatalogGraph}
    {definition : PermissionDefinition} :
    checkPrerequisite validCodes graph definition req = .ok () ↔
      req ∈ validCodes ∧
        ∀ target, graph.nodes.get req = some target → target.definition.deprecated = false := by
  unfold checkPrerequisite
  split
  next hreq => exact ⟨fun h => (by cases h), fun h => absurd h.1 hreq⟩
  next hreq =>
    rw [and_iff_right (not_not.mp hreq)]
    rcases graph.nodes.get req with _ | target
    · exact ⟨fun _ _ h => (by cases h), fun _ => rfl⟩
    · rcases hdeprecated : target.definition.deprecated with _ | _
      · exact ⟨fun _ t ht => Option.some.inj ht ▸ hdeprecated, fun _ => by simp [hdeprecated]⟩
      · refine ⟨fun h => ?_, fun h => ?_⟩
        · simp only [hdeprecated, if_true] at h
          cases h
        · rw [h target rfl] at hdeprecated
          cases hdeprecated

/-- A catalog passes when all prerequisites are defined and their nodes not deprecated. -/
theorem validateReferentialIntegrity_eq_ok {graph : CatalogGraph} :
    validateReferentialIntegrity definitions graph = .ok () ↔
      ∀ code req, Requires definitions code req → Known definitions req ∧
        ∀ target, graph.nodes.get req = some target → target.definition.deprecated = false := by
  simp only [validateReferentialIntegrity, forM_eq_ok, checkPrerequisite_eq_ok, mem_setOf,
    List.mem_map]
  constructor
  · rintro h code req ⟨d, hd, -, hreq⟩
    exact h d hd req hreq
  · intro h d hd req hreq
    exact h d.id req ⟨d, hd, rfl, hreq⟩

-- ============================================================================
-- Cycles
-- ============================================================================

theorem edge_neighbors :
    DepthFirst.Edge (neighbors (catalogGraph definitions)) = Requires definitions := by
  funext code req
  exact propext mem_adjacencyList

theorem mem_nodeIds : code ∈ nodeIds (catalogGraph definitions) ↔ Known definitions code := by
  have hhas : (buildGraph definitions).nodes.has code = true ↔
      ∃ e ∈ definitions.map fun d => (d.id, node (adjacency definitions) d), e.1 = code :=
    JsMap.has_ofEntries
  rw [JsMap.has, decide_eq_true_eq] at hhas
  refine hhas.trans ?_
  simp only [List.mem_map, Known]
  constructor
  · rintro ⟨_, ⟨d, hd, rfl⟩, rfl⟩
    exact ⟨d, hd, rfl⟩
  · rintro ⟨d, hd, rfl⟩
    exact ⟨_, ⟨d, hd, rfl⟩, rfl⟩

theorem neighbors_subset
    (h : validateReferentialIntegrity definitions (catalogGraph definitions) = .ok ()) :
    ∀ code ∈ nodeIds (catalogGraph definitions),
      neighbors (catalogGraph definitions) code ⊆ nodeIds (catalogGraph definitions) := by
  intro code _ req hreq
  exact mem_nodeIds.mpr (validateReferentialIntegrity_eq_ok.mp h code req
    (mem_adjacencyList.mp hreq)).1

/-- A walk along prerequisites that comes back to its first code. -/
structure IsRequiresCycle (definitions : List PermissionDefinition) (path : List String) : Prop where
  walk : path.IsChain (Requires definitions)
  long : 2 ≤ path.length
  closed : path.head? = path.getLast?

/-- Whatever the fuel, if it is enough for all nodes: the result is the same; it is the
    error where some permission requires itself through a chain, and the error then shows
    such a chain. -/
theorem detectCycles_sound_complete
    (h : validateReferentialIntegrity definitions (catalogGraph definitions) = .ok ()) :
    ∃ outcome,
      (∀ fuel, (nodeIds (catalogGraph definitions)).length ≤ fuel →
        detectCycles fuel (catalogGraph definitions) = some outcome) ∧
      (outcome = .ok () ∨ ∃ path, outcome = .error (.CyclicPermissionDependencyError path)) ∧
      ((∃ path, outcome = .error (.CyclicPermissionDependencyError path)) ↔
        ∃ code, Relation.TransGen (Requires definitions) code code) ∧
      ∀ path, outcome = .error (.CyclicPermissionDependencyError path) →
        IsRequiresCycle definitions path := by
  have hclosed := neighbors_subset h
  have hends := DepthFirst.search_ends hclosed (Nat.le_refl _)
  have hsame : ∀ fuel, (nodeIds (catalogGraph definitions)).length ≤ fuel →
      DepthFirst.search (neighbors (catalogGraph definitions))
          (nodeIds (catalogGraph definitions)).length (nodeIds (catalogGraph definitions)) ≠
        .error .outOfFuel →
      detectCycles fuel (catalogGraph definitions) =
        detectCycles (nodeIds (catalogGraph definitions)).length (catalogGraph definitions) := by
    intro fuel hfuel hrun
    rw [detectCycles, detectCycles, DepthFirst.search_fuel hfuel hrun]
  rcases hends with ⟨s, hrun, hacyclic⟩ | ⟨path, hrun, hcycle⟩
  · refine ⟨.ok (), fun fuel hfuel => ?_, .inl rfl, ⟨?_, ?_⟩, ?_⟩
    · rw [hsame fuel hfuel (by rw [hrun]; simp), detectCycles, hrun]
    · rintro ⟨path, hpath⟩
      cases hpath
    · rintro ⟨code, hcycle⟩
      obtain ⟨req, ⟨d, hd, hid, -⟩, -⟩ := Relation.TransGen.head'_iff.mp hcycle
      rw [← edge_neighbors] at hcycle
      exact absurd hcycle (hacyclic code (mem_nodeIds.mpr ⟨d, hd, hid⟩))
    · intro path hpath
      cases hpath
  · refine ⟨.error (.CyclicPermissionDependencyError path), fun fuel hfuel => ?_,
      .inr ⟨path, rfl⟩, ⟨fun _ => ?_, fun _ => ⟨path, rfl⟩⟩, ?_⟩
    · rw [hsame fuel hfuel (by rw [hrun]; simp), detectCycles, hrun]
    · rw [← edge_neighbors]
      exact hcycle.transGen
    · rintro _ ⟨⟩
      exact ⟨edge_neighbors ▸ hcycle.walk, hcycle.long, hcycle.closed⟩

/-- Two permissions that require each other. -/
def mutualCatalog : List PermissionDefinition :=
  [{ id := "location.view", «requires» := ["location.update"] },
    { id := "location.update", «requires» := ["location.view"] }]

theorem detectCycles_mutualCatalog :
    ∃ outcome,
      (∀ fuel, (nodeIds (catalogGraph mutualCatalog)).length ≤ fuel →
        detectCycles fuel (catalogGraph mutualCatalog) = some outcome) ∧
      (outcome = .ok () ∨ ∃ path, outcome = .error (.CyclicPermissionDependencyError path)) ∧
      ((∃ path, outcome = .error (.CyclicPermissionDependencyError path)) ↔
        ∃ code, Relation.TransGen (Requires mutualCatalog) code code) ∧
      ∀ path, outcome = .error (.CyclicPermissionDependencyError path) →
        IsRequiresCycle mutualCatalog path :=
  detectCycles_sound_complete (by decide)

example : detectCycles 2 (catalogGraph mutualCatalog) =
    some (.error (.CyclicPermissionDependencyError
      ["location.view", "location.update", "location.view"])) := by
  decide

end PermissionCatalogValidator

end AccessService.Permissions
