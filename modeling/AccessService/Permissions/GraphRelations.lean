/-
  AccessService.Permissions.GraphRelations

  The two lists of edges that the builder fills side by side are converse relations, and the
  nodes are the ids of the definitions with the sets that the lists have at them.
-/

import AccessService.Js.Grouping
import AccessService.Permissions.PermissionCatalogValidator

namespace AccessService.Permissions

open AccessService.Js

namespace PermissionGraphBuilder

variable {definitions : List PermissionDefinition} {lists : Adjacency} {id k c : String}

-- ============================================================================
-- The reverse edges
-- ============================================================================

/-- `if (!sets.has(key)) sets.set(key, new Set())` puts no code into any set. -/
theorem holds_ensure {sets : CodeSets} {key : String} :
    Holds (if sets.has key then sets else sets.set key []) k c ↔ Holds sets k c := by
  split
  · rfl
  next hmissing =>
    simp only [Holds, JsMap.get_set]
    split
    next hk =>
      subst hk
      constructor
      · rintro ⟨codes, hcodes, hc⟩
        rw [← Option.some.inj hcodes] at hc
        exact absurd hc List.not_mem_nil
      · rintro ⟨codes, hcodes, -⟩
        exact absurd (JsMap.has_iff_get.mpr ⟨codes, hcodes⟩) hmissing
    · rfl

theorem has_ensure {sets : CodeSets} {key : String} :
    (if sets.has key then sets else sets.set key []).has k = true ↔
      sets.has k = true ∨ k = key := by
  split
  next hhas => exact (or_iff_left_of_imp fun hk => hk ▸ hhas).symm
  · rw [JsMap.has_set, or_comm]

/-- A reverse edge is never dropped: the set of the prerequisite is there when it is added. -/
theorem holds_reverse_addEdge {req : String} :
    Holds (addEdge id lists req).reverseAdjacencyList k c ↔
      Holds lists.reverseAdjacencyList k c ∨ (k = req ∧ c = id) := by
  have hreq : (if lists.reverseAdjacencyList.has req then lists.reverseAdjacencyList
      else lists.reverseAdjacencyList.set req []).has req = true := has_ensure.mpr (.inr rfl)
  simp only [addEdge, holds_addCode, holds_ensure, hreq, true_and]

theorem holds_reverse_foldl_addEdge {reqs : List String} :
    Holds (reqs.foldl (addEdge id) lists).reverseAdjacencyList k c ↔
      Holds lists.reverseAdjacencyList k c ∨ (k ∈ reqs ∧ c = id) := by
  induction reqs generalizing lists with
  | nil => simp
  | cons req reqs ih =>
    rw [List.foldl_cons, ih, holds_reverse_addEdge, List.mem_cons]
    tauto

theorem holds_reverse_foldl_addEdges :
    Holds (definitions.foldl addEdges lists).reverseAdjacencyList k c ↔
      Holds lists.reverseAdjacencyList k c ∨ ∃ d ∈ definitions, d.id = c ∧ k ∈ d.requires := by
  induction definitions generalizing lists with
  | nil => simp
  | cons d ds ih =>
    rw [List.foldl_cons, ih, addEdges, holds_reverse_foldl_addEdge, mem_setOf]
    simp only [List.mem_cons, exists_eq_or_imp, eq_comm (a := c)]
    tauto

-- ============================================================================
-- The keys of both lists
-- ============================================================================

/-- The sets of the first pass stay: a later pass takes no key out. -/
def Keeps (lists lists' : Adjacency) : Prop :=
  ∀ k, (lists.adjacencyList.has k = true → lists'.adjacencyList.has k = true) ∧
    (lists.reverseAdjacencyList.has k = true → lists'.reverseAdjacencyList.has k = true)

theorem Keeps.refl (lists : Adjacency) : Keeps lists lists := fun _ => ⟨fun h => h, fun h => h⟩

theorem Keeps.trans {lists' lists'' : Adjacency} (h : Keeps lists lists')
    (h' : Keeps lists' lists'') : Keeps lists lists'' :=
  fun k => ⟨fun hk => (h' k).1 ((h k).1 hk), fun hk => (h' k).2 ((h k).2 hk)⟩

theorem keeps_foldl {α : Type} {step : Adjacency → α → Adjacency}
    (h : ∀ lists a, Keeps lists (step lists a)) (list : List α) :
    Keeps lists (list.foldl step lists) := by
  induction list generalizing lists with
  | nil => exact .refl lists
  | cons a list ih => exact (h lists a).trans ih

theorem addEdge_keeps (lists : Adjacency) (req : String) :
    Keeps lists (addEdge id lists req) := by
  refine fun k => ⟨fun hk => has_addCode.mpr hk, fun hk => ?_⟩
  exact has_addCode.mpr (has_ensure.mpr (.inl hk))

/-- Every definition has a set in both lists. -/
theorem has_adjacency {definition : PermissionDefinition} (hmem : definition ∈ definitions) :
    (adjacency definitions).adjacencyList.has definition.id = true ∧
      (adjacency definitions).reverseAdjacencyList.has definition.id = true := by
  have hempty : (emptySets definitions).has definition.id = true :=
    JsMap.has_ofEntries.mpr ⟨(definition.id, []), List.mem_map_of_mem hmem, rfl⟩
  have hkeeps : Keeps ⟨emptySets definitions, emptySets definitions⟩ (adjacency definitions) :=
    keeps_foldl (fun lists d => keeps_foldl addEdge_keeps _) definitions
  exact ⟨(hkeeps _).1 hempty, (hkeeps _).2 hempty⟩

-- ============================================================================
-- The graph
-- ============================================================================

theorem holds_adjacencyList :
    Holds (adjacency definitions).adjacencyList k c ↔ Requires definitions k c := by
  rw [← mem_getD_iff_holds, mem_adjacencyList]

/-- The reverse edges are what the definitions list, the other way. -/
theorem holds_reverseAdjacencyList :
    Holds (adjacency definitions).reverseAdjacencyList k c ↔ Requires definitions c k := by
  rw [adjacency, holds_reverse_foldl_addEdges, or_iff_right not_holds_emptySets]
  rfl

theorem get_eq_some_getD {sets : CodeSets} (h : sets.has k = true) :
    sets.get k = some ((sets.get k).getD []) := by
  obtain ⟨codes, hcodes⟩ := JsMap.has_iff_get.mp h
  rw [hcodes]
  rfl

/-- The last definition with the id makes the node. -/
theorem get_nodes (id : String) :
    (buildGraph definitions).nodes.get id =
      (definitions.reverse.find? fun definition => definition.id = id).map
        (node (adjacency definitions)) := by
  rw [buildGraph, JsMap.get_ofEntries, ← List.map_reverse, List.find?_map, Option.map_map]
  rfl

/-- The node of an id, its sets, and the definition it holds. -/
theorem nodes_get_eq_some {n : DependencyNode}
    (h : (buildGraph definitions).nodes.get id = some n) :
    n.id = id ∧ (definitions.reverse.find? fun definition => definition.id = id) =
      some n.definition ∧
      (adjacency definitions).adjacencyList.get id = some n.prerequisites ∧
      (adjacency definitions).reverseAdjacencyList.get id = some n.dependents := by
  rw [get_nodes] at h
  obtain ⟨definition, hlast, rfl⟩ := Option.map_eq_some_iff.mp h
  have hid := List.find?_some hlast
  obtain rfl : definition.id = id := of_decide_eq_true hid
  have hhas := has_adjacency (List.mem_reverse.mp (List.mem_of_find?_eq_some hlast))
  exact ⟨rfl, hlast, get_eq_some_getD hhas.1, get_eq_some_getD hhas.2⟩

theorem has_nodes : (buildGraph definitions).nodes.has id = true ↔ Known definitions id := by
  refine JsMap.has_ofEntries.trans ⟨fun ⟨e, he, hid⟩ => ?_, fun ⟨d, hd, hid⟩ => ?_⟩
  · obtain ⟨d, hd, rfl⟩ := List.mem_map.mp he
    exact ⟨d, hd, hid⟩
  · exact ⟨_, List.mem_map_of_mem hd, hid⟩

/-- The graph of any list of definitions: its two lists of edges are converse, an edge is
    what some definition lists, a node has the sets of both lists, and the nodes are the
    ids, each with the last definition that has it. -/
theorem catalogGraph_relations (definitions : List PermissionDefinition) :
    (∀ p q, Holds (catalogGraph definitions).adjacencyList p q ↔
      Holds (catalogGraph definitions).reverseAdjacencyList q p) ∧
    (∀ p q, Holds (catalogGraph definitions).adjacencyList p q ↔
      ∃ definition ∈ definitions, definition.id = p ∧ q ∈ definition.requires) ∧
    (∀ p n, (catalogGraph definitions).nodes.get p = some n →
      (catalogGraph definitions).adjacencyList.get p = some n.prerequisites ∧
        (catalogGraph definitions).reverseAdjacencyList.get p = some n.dependents) ∧
    (∀ p, (catalogGraph definitions).nodes.has p = true ↔
      ∃ definition ∈ definitions, definition.id = p) ∧
    ∀ p n, (catalogGraph definitions).nodes.get p = some n →
      n.id = p ∧
        (definitions.reverse.find? fun definition => definition.id = p) = some n.definition := by
  refine ⟨fun p q => ?_, fun p q => holds_adjacencyList, fun p n h => ?_, fun p => has_nodes,
    fun p n h => ?_⟩
  · exact holds_adjacencyList.trans holds_reverseAdjacencyList.symm
  · exact (nodes_get_eq_some h).2.2
  · exact ⟨(nodes_get_eq_some h).1, (nodes_get_eq_some h).2.1⟩

end PermissionGraphBuilder

end AccessService.Permissions
