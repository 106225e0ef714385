/-
  AccessService.Permissions.PermissionGraph

  The dependency graph of a list of definitions (`permission-graph-builder.ts`), and the
  sets of codes that leave out nothing their members require.
-/

import AccessService.Permissions.PermissionDependency
import Mathlib.Logic.Relation

namespace AccessService.Permissions

open AccessService.Js

-- ============================================================================
-- The builder
-- ============================================================================

/-- `Map<string, Set<string>>` -/
abbrev CodeSets : Type := JsMap String (List String)

namespace PermissionGraphBuilder

/-- `sets.get(key)?.add(code)` -/
def addCode (sets : CodeSets) (key code : String) : CodeSets :=
  match sets.get key with
  | some codes => sets.set key (if code ∈ codes then codes else codes ++ [code])
  | none => sets

structure Adjacency where
  adjacencyList : CodeSets
  reverseAdjacencyList : CodeSets

def addEdge (id : String) (lists : Adjacency) (req : String) : Adjacency :=
  let reverse := lists.reverseAdjacencyList
  { adjacencyList := addCode lists.adjacencyList id req
    reverseAdjacencyList := addCode (if reverse.has req then reverse else reverse.set req []) req id }

def addEdges (lists : Adjacency) (definition : PermissionDefinition) : Adjacency :=
  (setOf definition.requires).foldl (addEdge definition.id) lists

def emptySets (definitions : List PermissionDefinition) : CodeSets :=
  .ofEntries (definitions.map fun definition => (definition.id, []))

def adjacency (definitions : List PermissionDefinition) : Adjacency :=
  definitions.foldl addEdges ⟨emptySets definitions, emptySets definitions⟩

def node (lists : Adjacency) (definition : PermissionDefinition) : DependencyNode where
  id := definition.id
  definition := definition
  prerequisites := (lists.adjacencyList.get definition.id).getD []
  dependents := (lists.reverseAdjacencyList.get definition.id).getD []

def buildGraph (definitions : List PermissionDefinition) : PermissionDependencyGraph :=
  let lists := adjacency definitions
  ⟨.ofEntries (definitions.map fun definition => (definition.id, node lists definition))⟩

-- ============================================================================
-- The edges of the graph
-- ============================================================================

/-- The set at the key has the code. -/
def Holds (sets : CodeSets) (key code : String) : Prop :=
  ∃ codes, sets.get key = some codes ∧ code ∈ codes

theorem holds_addCode {sets : CodeSets} {key code k c : String} :
    Holds (addCode sets key code) k c ↔
      Holds sets k c ∨ (sets.has key = true ∧ k = key ∧ c = code) := by
  unfold addCode
  split
  next codes hcodes =>
    have hhas : sets.has key = true := JsMap.has_iff_get.mpr ⟨codes, hcodes⟩
    simp only [Holds, JsMap.get_set, hhas, true_and]
    split
    next hk =>
      subst hk
      simp only [hcodes, Option.some.injEq, exists_eq_left', true_and]
      split
      next hmem => exact (or_iff_left_of_imp fun h => h ▸ hmem).symm
      · rw [List.mem_append, List.mem_singleton]
    next hk => simp only [hk, false_and, or_false]
  next hnone =>
    have hhas : sets.has key ≠ true := fun h => by
      obtain ⟨codes, hcodes⟩ := JsMap.has_iff_get.mp h
      rw [hnone] at hcodes
      cases hcodes
    exact (or_iff_left fun h => hhas h.1).symm

theorem has_addCode {sets : CodeSets} {key code k : String} :
    (addCode sets key code).has k = true ↔ sets.has k = true := by
  unfold addCode
  split
  next codes hcodes =>
    rw [JsMap.has_set]
    refine or_iff_right_of_imp ?_
    rintro rfl
    exact JsMap.has_iff_get.mpr ⟨codes, hcodes⟩
  · rfl

/-- The codes of a list go into the set at a key that there is. -/
theorem holds_foldl_addCode {sets : CodeSets} {key k c : String} {codes : List String}
    (hkey : sets.has key = true) :
    Holds (codes.foldl (fun sets code => addCode sets key code) sets) k c ↔
      Holds sets k c ∨ (k = key ∧ c ∈ codes) := by
  induction codes generalizing sets with
  | nil => simp
  | cons code codes ih =>
    rw [List.foldl_cons, ih (has_addCode.mpr hkey), holds_addCode, List.mem_cons]
    simp only [hkey, true_and]
    tauto

theorem has_foldl_addCode {sets : CodeSets} {key k : String} {codes : List String} :
    (codes.foldl (fun sets code => addCode sets key code) sets).has k = true ↔
      sets.has k = true := by
  induction codes generalizing sets with
  | nil => rfl
  | cons code codes ih => rw [List.foldl_cons, ih, has_addCode]

theorem addEdges_adjacencyList (lists : Adjacency) (definition : PermissionDefinition) :
    (addEdges lists definition).adjacencyList =
      (setOf definition.requires).foldl (fun sets code => addCode sets definition.id code)
        lists.adjacencyList :=
  (List.foldl_hom Adjacency.adjacencyList fun _ _ => rfl).symm

theorem holds_foldl_addEdges {definitions : List PermissionDefinition} {lists : Adjacency}
    {k c : String} (h : ∀ d ∈ definitions, lists.adjacencyList.has d.id = true) :
    Holds (definitions.foldl addEdges lists).adjacencyList k c ↔
      Holds lists.adjacencyList k c ∨ ∃ d ∈ definitions, d.id = k ∧ c ∈ d.requires := by
  induction definitions generalizing lists with
  | nil => simp
  | cons d ds ih =>
    have hkept : ∀ k, (addEdges lists d).adjacencyList.has k = true ↔
        lists.adjacencyList.has k = true := by
      intro k
      rw [addEdges_adjacencyList, has_foldl_addCode]
    rw [List.foldl_cons, ih fun d' hd' => (hkept _).mpr (h d' (List.mem_cons_of_mem _ hd')),
      addEdges_adjacencyList, holds_foldl_addCode (h d List.mem_cons_self), mem_setOf]
    simp only [List.mem_cons, exists_eq_or_imp, eq_comm (a := k)]
    tauto

end PermissionGraphBuilder

-- ============================================================================
-- What is required
-- ============================================================================

/-- The catalog defines the code. -/
def Known (catalog : List PermissionDefinition) (code : String) : Prop :=
  ∃ definition ∈ catalog, definition.id = code

/-- The catalog lists the prerequisite with the code. -/
def Requires (catalog : List PermissionDefinition) (code prerequisite : String) : Prop :=
  ∃ definition ∈ catalog, definition.id = code ∧ prerequisite ∈ definition.requires

/-- Codes of the catalog, with everything that one of them lists. -/
structure PrerequisiteClosed (catalog : List PermissionDefinition) (codes : List String) :
    Prop where
  known : ∀ code ∈ codes, Known catalog code
  prerequisites : ∀ code ∈ codes, ∀ prerequisite, Requires catalog code prerequisite →
    prerequisite ∈ codes

variable {catalog : List PermissionDefinition} {code : String} {codes : List String}

/-- What is required through a chain is there as well. -/
theorem PrerequisiteClosed.chain {required : String} (h : PrerequisiteClosed catalog codes)
    (hcode : code ∈ codes) (hchain : Relation.TransGen (Requires catalog) code required) :
    required ∈ codes := by
  induction hchain with
  | single hstep => exact h.prerequisites _ hcode _ hstep
  | tail _ hstep ih => exact h.prerequisites _ ih _ hstep

theorem PrerequisiteClosed.of_same {codes' : List String} (h : PrerequisiteClosed catalog codes)
    (hsame : ∀ code, code ∈ codes' ↔ code ∈ codes) : PrerequisiteClosed catalog codes' where
  known code hcode := h.known code ((hsame code).mp hcode)
  prerequisites code hcode prerequisite hrequires :=
    (hsame prerequisite).mpr (h.prerequisites code ((hsame code).mp hcode) _ hrequires)

section BuildGraph

open PermissionGraphBuilder

theorem not_holds_emptySets {k c : String} : ¬Holds (emptySets catalog) k c := by
  rintro ⟨codes, hcodes, hc⟩
  obtain ⟨d, -, hentry⟩ := List.mem_map.mp (JsMap.mem_of_ofEntries (JsMap.get_eq_some.mp hcodes))
  rw [← (Prod.mk.inj hentry).2] at hc
  exact List.not_mem_nil hc

theorem mem_getD_iff_holds {sets : CodeSets} {k c : String} :
    c ∈ (sets.get k).getD [] ↔ Holds sets k c := by
  unfold Holds
  rcases sets.get k with _ | codes
  · simp
  · simp

/-- The edges of the graph are what the catalog lists. -/
theorem mem_adjacencyList {prerequisite : String} :
    prerequisite ∈ ((adjacency catalog).adjacencyList.get code).getD [] ↔
      Requires catalog code prerequisite := by
  have hhas : ∀ d ∈ catalog, (emptySets catalog).has d.id = true := fun d hd =>
    JsMap.has_ofEntries.mpr ⟨(d.id, []), List.mem_map_of_mem hd, rfl⟩
  have hholds : Holds (adjacency catalog).adjacencyList code prerequisite ↔
      Holds (emptySets catalog) code prerequisite ∨ Requires catalog code prerequisite :=
    holds_foldl_addEdges hhas
  rw [mem_getD_iff_holds, hholds, or_iff_right not_holds_emptySets]

/-- A node of the graph stands for a definition and has what the catalog lists with the
    code. -/
theorem buildGraph_node {node : DependencyNode}
    (h : (buildGraph catalog).nodes.get code = some node) :
    Known catalog code ∧ node.definition ∈ catalog ∧ node.definition.id = code ∧
      ∀ prerequisite, prerequisite ∈ node.prerequisites ↔ Requires catalog code prerequisite := by
  obtain ⟨d, hd, hentry⟩ := List.mem_map.mp (JsMap.mem_of_ofEntries (JsMap.get_eq_some.mp h))
  obtain ⟨rfl, rfl⟩ := Prod.mk.inj hentry
  exact ⟨⟨d, hd, rfl⟩, hd, rfl, fun prerequisite => mem_adjacencyList⟩

/-- A valid set is closed. -/
theorem prerequisiteClosed_of_valid
    (h : (PermissionDependencyService.validatePermissionSet (buildGraph catalog) codes).isValid =
      true) : PrerequisiteClosed catalog codes := by
  unfold PermissionDependencyService.validatePermissionSet at h
  simp only at h
  split at h
  · cases h
  next hnone =>
    have hcodes : ∀ code ∈ codes,
        PermissionDependencyService.codeErrors (buildGraph catalog) code = [] :=
      List.flatMap_eq_nil_iff.mp (List.length_eq_zero_iff.mp (Nat.eq_zero_of_not_pos hnone))
    have hmissing : ∀ code ∈ codes,
        PermissionDependencyService.prerequisiteErrors (buildGraph catalog) codes code = [] :=
      List.flatMap_eq_nil_iff.mp (List.length_eq_zero_iff.mp (of_decide_eq_true h))
    have hnode : ∀ code ∈ codes, ∃ node, (buildGraph catalog).nodes.get code = some node := by
      intro code hcode
      have hnil := hcodes code hcode
      unfold PermissionDependencyService.codeErrors at hnil
      split at hnil
      · cases hnil
      · split at hnil
        · cases hnil
        next node hnode => exact ⟨node, hnode⟩
    refine ⟨fun code hcode => ?_, fun code hcode prerequisite hrequires => ?_⟩
    · obtain ⟨node, hnode⟩ := hnode code hcode
      exact (buildGraph_node hnode).1
    · obtain ⟨node, hnode⟩ := hnode code hcode
      have hnil := hmissing code hcode
      simp only [PermissionDependencyService.prerequisiteErrors, hnode, List.map_eq_nil_iff,
        List.filter_eq_nil_iff, decide_eq_true_eq, not_not] at hnil
      exact hnil prerequisite (((buildGraph_node hnode).2.2.2 prerequisite).mpr hrequires)

end BuildGraph

-- ============================================================================
-- The platform's catalog
-- ============================================================================

/-- The permissions of `permission-catalog.yaml`. -/
def platformCatalog : List PermissionDefinition :=
  [{ id := "location.view" },
    { id := "location.create", «requires» := ["location.view"] },
    { id := "location.update", «requires» := ["location.view"] },
    { id := "location.deactivate", «requires» := ["location.view"] },
    { id := "location.delete", «requires» := ["location.view", "location.deactivate"] },
    { id := "employee.view" },
    { id := "employee.create", «requires» := ["employee.view"] },
    { id := "employee.update", «requires» := ["employee.view"] },
    { id := "employee.archive", «requires» := ["employee.view"] },
    { id := "role.view" },
    { id := "role.create", «requires» := ["role.view"] },
    { id := "role.update", «requires» := ["role.view"] },
    { id := "role.delete", «requires» := ["role.view"] },
    { id := "leave.view" },
    { id := "leave.request", «requires» := ["leave.view"] },
    { id := "leave.approve", «requires» := ["leave.view"] },
    { id := "payroll.view" },
    { id := "payroll.run", «requires» := ["payroll.view"] }]

end AccessService.Permissions
