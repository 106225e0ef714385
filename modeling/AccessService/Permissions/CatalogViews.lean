/-
  AccessService.Permissions.CatalogViews

  The views of a loaded catalog: the definitions, the lookup by id, the graph, the matrix and
  the hierarchy.  The file is read in one pass, where lists take every entry and maps the last
  one with a key, and the ids are not checked for repetitions; the views agree exactly if
  none is repeated.
-/

import AccessService.Permissions.CatalogService

namespace AccessService.Permissions

open AccessService.Js FullCatalogLoader

-- ============================================================================
-- What is read
-- ============================================================================

/-- The definitions of the entries in front of the first that is refused. -/
def accepted : List CatalogItem → List CatalogDefinition
  | [] => []
  | item :: items =>
    match loadItem item with
    | .ok d => d :: accepted items
    | .error _ => []

def CatalogMaps.ofDefinitions (definitions : List CatalogDefinition) : CatalogMaps :=
  definitions.foldl CatalogMaps.add .cleared

theorem loadItems_maps (maps : CatalogMaps) (items : List CatalogItem) :
    (loadItems maps items).2 = (accepted items).foldl CatalogMaps.add maps := by
  induction items generalizing maps with
  | nil => rfl
  | cons item items ih =>
    rw [loadItems, accepted]
    cases loadItem item with
    | error e => rfl
    | ok d => exact ih (maps.add d)

theorem loadItems_ok {maps : CatalogMaps} {items : List CatalogItem}
    {definitions : List CatalogDefinition} (h : (loadItems maps items).1 = .ok definitions) :
    definitions = accepted items := by
  induction items generalizing maps definitions with
  | nil => exact (Except.ok.inj h).symm
  | cons item items ih =>
    rw [loadItems] at h
    rw [accepted]
    cases hitem : loadItem item with
    | error e =>
      rw [hitem] at h
      cases h
    | ok d =>
      rw [hitem] at h
      rcases hrest : (loadItems (maps.add d) items).1 with e | rest
      · simp only [hrest] at h
        cases h
      · simp only [hrest] at h
        rw [← ih hrest]
        exact (Except.ok.inj h).symm

/-- Where no entry is refused, every id is read. -/
theorem accepted_ids {maps : CatalogMaps} {raws : List CatalogEntry}
    {definitions : List CatalogDefinition}
    (h : (loadItems maps (raws.map .entry)).1 = .ok definitions) :
    (accepted (raws.map .entry)).map CatalogDefinition.id = raws.map CatalogEntry.id := by
  induction raws generalizing maps definitions with
  | nil => rfl
  | cons raw raws ih =>
    rw [List.map_cons, loadItems] at h
    rw [List.map_cons, accepted]
    cases hraw : loadItem (.entry raw) with
    | error e =>
      rw [hraw] at h
      cases h
    | ok d =>
      rw [hraw] at h
      have hid : d.id = raw.id := by
        simp only [loadItem, loadEntry] at hraw
        split at hraw
        · cases hraw
        · cases hraw
          rfl
      rcases hrest : (loadItems (maps.add d) (raws.map .entry)).1 with e | rest
      · simp only [hrest] at h
        cases h
      · simp only [List.map_cons, ih hrest, hid]

-- ============================================================================
-- What is kept
-- ============================================================================

theorem ofDefinitions_permissionMap (definitions : List CatalogDefinition) :
    (CatalogMaps.ofDefinitions definitions).permissionMap =
      .ofEntries (definitions.map fun d => (d.id, d)) := by
  rw [JsMap.ofEntries, List.foldl_map]
  exact (List.foldl_hom CatalogMaps.permissionMap fun _ _ => rfl).symm

theorem ofDefinitions_moduleMap (definitions : List CatalogDefinition) :
    (CatalogMaps.ofDefinitions definitions).moduleMap =
      .groups CatalogDefinition.module CatalogMaps.addToResources .empty definitions :=
  (List.foldl_hom CatalogMaps.moduleMap fun _ _ => rfl).symm

theorem buildGraph_core (definitions : List CatalogDefinition) :
    (buildGraph definitions).core =
      PermissionGraphBuilder.catalogGraph (definitions.map CatalogDefinition.core) := by
  let lists := PermissionGraphBuilder.adjacency (definitions.map CatalogDefinition.core)
  have hnodes : (buildGraph definitions).core.nodes =
      .ofEntries ((definitions.map CatalogDefinition.core).map fun d =>
        (d.id, PermissionGraphBuilder.node lists d)) := by
    refine JsMap.ext_entries ?_
    show (buildGraph definitions).nodes.entries.map _ = _
    rw [buildGraph, ← JsMap.entries_ofEntries_map, List.map_map, List.map_map]
    rfl
  show CatalogGraph.mk ⟨(buildGraph definitions).core.nodes⟩ _ _ = _
  rw [hnodes]
  rfl

/-- A success takes over what has been read. -/
theorem CatalogService.initializeFrom_ok {fuel : Nat} {s s' : CatalogService} {file : CatalogFile}
    (h : s.initializeFrom fuel file = some (.ok (), s')) :
    ∃ items, file = .permissions items ∧
      (loadItems .cleared items).1 = .ok (accepted items) ∧
      s' = ⟨.ofDefinitions (accepted items), accepted items, some (buildGraph (accepted items))⟩ ∧
      PermissionCatalogValidator.validate fuel ((accepted items).map CatalogDefinition.core)
        (buildGraph (accepted items)).core = some (.ok ()) := by
  unfold initializeFrom at h
  rcases hload : load s.maps file with ⟨e | definitions, maps⟩
  · rw [hload] at h
    cases h
  · rw [hload] at h
    simp only at h
    split at h
    · cases h
    · cases h
    next hvalid =>
      obtain ⟨-, rfl⟩ := Prod.mk.inj (Option.some.inj h)
      cases file with
      | missing => cases hload
      | notYaml => cases hload
      | noPermissions => cases hload
      | permissions items =>
        have hok : (loadItems .cleared items).1 = .ok definitions := congrArg Prod.fst hload
        have hmaps : (loadItems .cleared items).2 = maps := congrArg Prod.snd hload
        obtain rfl := loadItems_ok hok
        rw [loadItems_maps] at hmaps
        exact ⟨items, rfl, hok, by rw [← hmaps]; rfl, hvalid⟩

-- ============================================================================
-- The edges backwards
-- ============================================================================

section Reverse

open PermissionGraphBuilder

theorem holds_addEdge_reverse {lists : Adjacency} {id req k c : String} :
    Holds (addEdge id lists req).reverseAdjacencyList k c ↔
      Holds lists.reverseAdjacencyList k c ∨ (k = req ∧ c = id) := by
  let ensured := if lists.reverseAdjacencyList.has req then lists.reverseAdjacencyList
    else lists.reverseAdjacencyList.set req []
  have hhas : ensured.has req = true := by
    show (if _ then _ else _ : CodeSets).has req = true
    split
    next h => exact h
    next h => exact JsMap.has_set.mpr (.inl rfl)
  have hensured : Holds ensured k c ↔ Holds lists.reverseAdjacencyList k c := by
    show Holds (if _ then _ else _) k c ↔ _
    split
    · rfl
    next hnew =>
      simp only [Holds, JsMap.get_set]
      split
      next hk =>
        subst hk
        constructor
        · rintro ⟨codes, hcodes, hc⟩
          rw [← Option.some.inj hcodes] at hc
          exact absurd hc List.not_mem_nil
        · rintro ⟨codes, hcodes, -⟩
          exact absurd (JsMap.has_iff_get.mpr ⟨codes, hcodes⟩) hnew
      · rfl
  show Holds (addCode ensured req id) k c ↔ _
  rw [holds_addCode, hensured, hhas, and_iff_right rfl]

theorem holds_addEdges_reverse {lists : Adjacency} {definition : PermissionDefinition}
    {k c : String} :
    Holds (addEdges lists definition).reverseAdjacencyList k c ↔
      Holds lists.reverseAdjacencyList k c ∨ (k ∈ definition.requires ∧ c = definition.id) := by
  have hfold : ∀ (reqs : List String) (lists : Adjacency),
      Holds (reqs.foldl (addEdge definition.id) lists).reverseAdjacencyList k c ↔
        Holds lists.reverseAdjacencyList k c ∨ (k ∈ reqs ∧ c = definition.id) := by
    intro reqs
    induction reqs with
    | nil => simp
    | cons req reqs ih =>
      intro lists
      rw [List.foldl_cons, ih, holds_addEdge_reverse, List.mem_cons]
      tauto
  rw [addEdges, hfold, mem_setOf]

theorem holds_foldl_addEdges_reverse {definitions : List PermissionDefinition}
    {lists : Adjacency} {k c : String} :
    Holds (definitions.foldl addEdges lists).reverseAdjacencyList k c ↔
      Holds lists.reverseAdjacencyList k c ∨ Requires definitions c k := by
  induction definitions generalizing lists with
  | nil => simp [Requires]
  | cons d ds ih =>
    rw [List.foldl_cons, ih, holds_addEdges_reverse, or_assoc]
    simp only [Requires, List.mem_cons, exists_eq_or_imp, eq_comm (a := c)]
    tauto

/-- What is stored backwards is what the catalog lists. -/
theorem mem_reverseAdjacencyList {catalog : List PermissionDefinition} {code dependent : String} :
    dependent ∈ ((adjacency catalog).reverseAdjacencyList.get code).getD [] ↔
      Requires catalog dependent code := by
  have hholds : Holds (adjacency catalog).reverseAdjacencyList code dependent ↔
      Holds (emptySets catalog) code dependent ∨ Requires catalog dependent code :=
    holds_foldl_addEdges_reverse
  rw [mem_getD_iff_holds, hholds, or_iff_right not_holds_emptySets]

end Reverse

-- ============================================================================
-- Agreement
-- ============================================================================

/-- The definition of `p` lists `q`. -/
def RequiresIn (definitions : List CatalogDefinition) (p q : String) : Prop :=
  ∃ d ∈ definitions, d.id = p ∧ q ∈ d.requires.getD []

/-- Each definition has one node, with its prerequisites and dependents. -/
structure GraphAgrees (definitions : List CatalogDefinition) (graph : FullGraph) : Prop where
  nodes : (graph.nodes.entries.map fun e => e.2.definition).Perm definitions
  keys : ∀ e ∈ graph.nodes.entries, e.1 = e.2.id ∧ e.2.id = e.2.definition.id
  prerequisites : ∀ p q, RequiresIn definitions p q ↔
    ∃ e ∈ graph.nodes.entries, e.1 = p ∧ q ∈ e.2.prerequisites
  dependents : ∀ p q, RequiresIn definitions p q ↔
    ∃ e ∈ graph.nodes.entries, e.1 = q ∧ p ∈ e.2.dependents

structure MatrixAgrees (definitions : List CatalogDefinition) (rules : List DependencyRuleDto) :
    Prop where
  codes : (rules.map (·.permissionCode)).Perm (definitions.map (·.id))
  prerequisites : ∀ p q, RequiresIn definitions p q ↔
    ∃ rule ∈ rules, rule.permissionCode = p ∧ q ∈ rule.requires
  requiredBy : ∀ p q, RequiresIn definitions p q ↔
    ∃ rule ∈ rules, rule.permissionCode = q ∧ p ∈ rule.requiredBy

/-- Everything that a hierarchy lists. -/
def PermissionCatalogResponseDto.listed (response : PermissionCatalogResponseDto) :
    List CatalogDefinition :=
  response.modules.flatMap fun m => m.resources.flatMap fun r => r.permissions

/-- Each definition is listed once, in its module and its resource. -/
structure HierarchyAgrees (definitions : List CatalogDefinition)
    (response : PermissionCatalogResponseDto) : Prop where
  listed : response.listed.Perm definitions
  modules : (response.modules.map (·.module)).Nodup
  resources : ∀ m ∈ response.modules, (m.resources.map (·.resource)).Nodup
  places : ∀ m ∈ response.modules, ∀ r ∈ m.resources, ∀ d ∈ r.permissions,
    d.module = m.module ∧ d.resource = r.resource
  totalModules : response.totalModules = response.modules.length

/-- The five views describe the same definitions. -/
structure ViewsAgree (s : CatalogService) : Prop where
  distinct : (s.getAll.map (·.id)).Nodup
  byId : ∀ id d, s.getById id = some d ↔ d ∈ s.getAll ∧ d.id = id
  graph : ∃ graph, s.getGraph = some graph ∧ GraphAgrees s.getAll graph ∧
    s.getCatalogHierarchy.totalPermissions = graph.nodes.entries.length
  matrix : ∃ rules, s.getDependencyMatrix = some rules ∧ MatrixAgrees s.getAll rules
  hierarchy : HierarchyAgrees s.getAll s.getCatalogHierarchy
  totalPermissions : s.getCatalogHierarchy.totalPermissions = s.getCatalogHierarchy.listed.length

-- ============================================================================
-- The hierarchy
-- ============================================================================

variable {definitions : List CatalogDefinition}

theorem foldl_snoc {α : Type} (list : List α) : list.foldl (fun as a => as ++ [a]) [] = list := by
  have hfold : ∀ as : List α, list.foldl (fun as a => as ++ [a]) as = as ++ list := by
    induction list with
    | nil => exact fun as => (List.append_nil as).symm
    | cons a list ih =>
      intro as
      rw [List.foldl_cons, ih, List.append_assoc, List.singleton_append]
  exact hfold []

def inModule (definitions : List CatalogDefinition) (moduleName : String) :
    List CatalogDefinition :=
  definitions.filter fun d => d.module = moduleName

def inResource (definitions : List CatalogDefinition) (resourceName : String) :
    List CatalogDefinition :=
  definitions.filter fun d => d.resource = resourceName

/-- The modules and resources stand where they first occur in the file. -/
def modulesOf (definitions : List CatalogDefinition) : List ModuleGroupDto :=
  (setOf (definitions.map (·.module))).map fun moduleName =>
    let here := inModule definitions moduleName
    { «module» := moduleName
      resources := (setOf (here.map (·.resource))).map fun resourceName =>
        ⟨resourceName, inResource here resourceName⟩ }

theorem getCatalogHierarchy_modules {s : CatalogService}
    (hmaps : s.maps = .ofDefinitions definitions) :
    s.getCatalogHierarchy.modules = modulesOf definitions := by
  show s.maps.moduleMap.entries.map _ = _
  rw [hmaps, ofDefinitions_moduleMap, JsMap.entries_groups, List.map_map]
  refine List.map_congr_left fun moduleName _ => ?_
  have hresources : ((inModule definitions moduleName).foldl CatalogMaps.addToResources
      .empty).entries = (setOf ((inModule definitions moduleName).map (·.resource))).map
        fun resourceName => (resourceName, inResource (inModule definitions moduleName)
          resourceName) := by
    show (JsMap.groups CatalogDefinition.resource (fun ds d => ds ++ [d]) []
      (inModule definitions moduleName)).entries = _
    rw [JsMap.entries_groups]
    refine List.map_congr_left fun resourceName _ => ?_
    rw [foldl_snoc]
    rfl
  show ModuleGroupDto.mk moduleName (((inModule definitions moduleName).foldl
    CatalogMaps.addToResources .empty).entries.map _) = _
  rw [hresources, List.map_map]
  rfl

theorem modulesOf_listed (definitions : List CatalogDefinition) :
    ((modulesOf definitions).flatMap fun m => m.resources.flatMap fun r => r.permissions).Perm
      definitions := by
  have hmodule : ∀ here : List CatalogDefinition,
      ((setOf (here.map (·.resource))).flatMap fun resourceName =>
        inResource here resourceName).Perm here := fun here =>
    flatMap_filter_perm (nodup_setOf (here.map (·.resource))) fun _ hd =>
      mem_setOf.mpr (List.mem_map_of_mem hd)
  have hmodules : ((setOf (definitions.map (·.module))).flatMap (inModule definitions)).Perm
      definitions :=
    flatMap_filter_perm (nodup_setOf (definitions.map (·.module))) fun _ hd =>
      mem_setOf.mpr (List.mem_map_of_mem hd)
  refine List.Perm.trans ?_ hmodules
  rw [modulesOf, List.flatMap_map]
  refine List.Perm.flatMap_left _ fun moduleName _ => ?_
  rw [List.flatMap_map]
  exact hmodule (inModule definitions moduleName)

/-- Whatever is loaded, the hierarchy lists it once. -/
theorem hierarchyAgrees_of_maps {s : CatalogService}
    (hmaps : s.maps = .ofDefinitions definitions) :
    HierarchyAgrees definitions s.getCatalogHierarchy := by
  have hmodules := getCatalogHierarchy_modules hmaps
  refine ⟨?_, ?_, ?_, ?_, rfl⟩
  · rw [PermissionCatalogResponseDto.listed, hmodules]
    exact modulesOf_listed definitions
  · have hnames : (modulesOf definitions).map (·.module) = setOf (definitions.map (·.module)) := by
      rw [modulesOf, List.map_map]
      exact List.map_id _
    rw [hmodules, hnames]
    exact nodup_setOf _
  · rw [hmodules]
    intro m hm
    obtain ⟨moduleName, -, rfl⟩ := List.mem_map.mp hm
    have hnames : ∀ here : List CatalogDefinition,
        ((setOf (here.map (·.resource))).map fun resourceName =>
          ResourceGroupDto.mk resourceName (inResource here resourceName)).map (·.resource) =
          setOf (here.map (·.resource)) := by
      intro here
      rw [List.map_map]
      exact List.map_id _
    rw [hnames]
    exact nodup_setOf _
  · rw [hmodules]
    intro m hm r hr d hd
    obtain ⟨moduleName, -, rfl⟩ := List.mem_map.mp hm
    obtain ⟨resourceName, -, rfl⟩ := List.mem_map.mp hr
    obtain ⟨hd, hresource⟩ := List.mem_filter.mp hd
    obtain ⟨-, hmodule⟩ := List.mem_filter.mp hd
    exact ⟨of_decide_eq_true hmodule, of_decide_eq_true hresource⟩

-- ============================================================================
-- The graph
-- ============================================================================

theorem requires_core {p q : String} :
    Requires (definitions.map CatalogDefinition.core) p q ↔ RequiresIn definitions p q := by
  unfold Requires RequiresIn
  simp only [List.mem_map]
  constructor
  · rintro ⟨_, ⟨d, hd, rfl⟩, hid, hq⟩
    exact ⟨d, hd, hid, hq⟩
  · rintro ⟨d, hd, hid, hq⟩
    exact ⟨_, ⟨d, hd, rfl⟩, hid, hq⟩

theorem nodup_keys {β : Type} (hnodup : (definitions.map (·.id)).Nodup)
    (f : CatalogDefinition → β) : ((definitions.map fun d => (d.id, f d)).map Prod.fst).Nodup := by
  rw [List.map_map]
  exact hnodup

/-- Distinct ids have a node each, in the order of the file. -/
theorem mem_nodes (hnodup : (definitions.map (·.id)).Nodup) {e : String × CatalogNode} :
    e ∈ (buildGraph definitions).nodes.entries ↔ ∃ d ∈ definitions, e.1 = d.id ∧ e.2.id = d.id ∧
      e.2.definition = d ∧ e.2.prerequisites = ((PermissionGraphBuilder.adjacency
        (definitions.map CatalogDefinition.core)).adjacencyList.get d.id).getD [] ∧
      e.2.dependents = ((PermissionGraphBuilder.adjacency
        (definitions.map CatalogDefinition.core)).reverseAdjacencyList.get d.id).getD [] := by
  obtain ⟨code, node⟩ := e
  rw [buildGraph, JsMap.mem_ofEntries_of_nodup (nodup_keys hnodup _), List.mem_map]
  refine exists_congr fun d => and_congr_right fun _ => ?_
  rw [Prod.mk.injEq]
  constructor
  · rintro ⟨rfl, rfl⟩
    exact ⟨rfl, rfl, rfl, rfl, rfl⟩
  · rintro ⟨rfl, hid, hdefinition, hprerequisites, hdependents⟩
    obtain ⟨id, definition, prerequisites, dependents⟩ := node
    exact ⟨rfl, by rw [CatalogNode.mk.injEq]; exact ⟨hid.symm, hdefinition.symm,
      hprerequisites.symm, hdependents.symm⟩⟩

theorem nodes_definitions (hnodup : (definitions.map (·.id)).Nodup) :
    (buildGraph definitions).nodes.entries.map (fun e => e.2.definition) = definitions ∧
      (buildGraph definitions).nodes.entries.map Prod.fst = definitions.map (·.id) := by
  rw [buildGraph, JsMap.entries_ofEntries_of_nodup (nodup_keys hnodup _), List.map_map, List.map_map]
  exact ⟨List.map_id _, rfl⟩

theorem graphAgrees_of_nodup (hnodup : (definitions.map (·.id)).Nodup)
    (hknown : ∀ p q, RequiresIn definitions p q → ∃ d ∈ definitions, d.id = q) :
    GraphAgrees definitions (buildGraph definitions) := by
  refine ⟨?_, ?_, fun p q => ?_, fun p q => ?_⟩
  · rw [(nodes_definitions hnodup).1]
  · intro e he
    obtain ⟨d, -, hkey, hid, hdefinition, -, -⟩ := (mem_nodes hnodup).mp he
    rw [hkey, hid, hdefinition]
    exact ⟨rfl, rfl⟩
  · constructor
    · rintro ⟨d, hd, rfl, hq⟩
      obtain ⟨e, he, hkey, -, -, hprerequisites, -⟩ :
          ∃ e ∈ (buildGraph definitions).nodes.entries, e.1 = d.id ∧ e.2.id = d.id ∧
            e.2.definition = d ∧ e.2.prerequisites = _ ∧ e.2.dependents = _ :=
        ⟨_, (mem_nodes hnodup (e := (d.id, ⟨d.id, d, _, _⟩))).mpr
          ⟨d, hd, rfl, rfl, rfl, rfl, rfl⟩, rfl, rfl, rfl, rfl, rfl⟩
      refine ⟨e, he, hkey, ?_⟩
      rw [hprerequisites]
      exact mem_adjacencyList.mpr (requires_core.mpr ⟨d, hd, rfl, hq⟩)
    · rintro ⟨e, he, rfl, hq⟩
      obtain ⟨d, -, hkey, -, -, hprerequisites, -⟩ := (mem_nodes hnodup).mp he
      rw [hprerequisites] at hq
      rw [hkey]
      exact requires_core.mp (mem_adjacencyList.mp hq)
  · constructor
    · intro hrequires
      obtain ⟨d, hd, rfl⟩ := hknown p q hrequires
      refine ⟨(d.id, ⟨d.id, d, _, _⟩), (mem_nodes hnodup).mpr ⟨d, hd, rfl, rfl, rfl, rfl, rfl⟩,
        rfl, ?_⟩
      exact mem_reverseAdjacencyList.mpr (requires_core.mpr hrequires)
    · rintro ⟨e, he, rfl, hp⟩
      obtain ⟨d, -, hkey, -, -, -, hdependents⟩ := (mem_nodes hnodup).mp he
      rw [hdependents] at hp
      rw [hkey]
      exact requires_core.mp (mem_reverseAdjacencyList.mp hp)

/-- The matrix is a table of the nodes. -/
theorem matrixAgrees_of_graph {s : CatalogService} {graph : FullGraph}
    (hgraph : s.graph = some graph) (hagrees : GraphAgrees definitions graph) :
    ∃ rules, s.getDependencyMatrix = some rules ∧ MatrixAgrees definitions rules := by
  refine ⟨_, by rw [CatalogService.getDependencyMatrix, hgraph]; rfl, ?_, ?_, ?_⟩
  · rw [List.map_map]
    have hcodes : graph.nodes.entries.map Prod.fst =
        (graph.nodes.entries.map fun e => e.2.definition).map (·.id) := by
      rw [List.map_map]
      refine List.map_congr_left fun e he => ?_
      exact (hagrees.keys e he).1.trans (hagrees.keys e he).2
    show (graph.nodes.entries.map Prod.fst).Perm _
    rw [hcodes]
    exact hagrees.nodes.map _
  · intro p q
    rw [hagrees.prerequisites]
    simp only [List.mem_map, exists_exists_and_eq_and]
  · intro p q
    rw [hagrees.dependents]
    simp only [List.mem_map, exists_exists_and_eq_and]

-- ============================================================================
-- All views
-- ============================================================================

/-- What the validator passes lists only codes that are defined. -/
theorem known_of_validate {fuel : Nat}
    (h : PermissionCatalogValidator.validate fuel (definitions.map CatalogDefinition.core)
      (buildGraph definitions).core = some (.ok ())) {p q : String}
    (hrequires : RequiresIn definitions p q) : ∃ d ∈ definitions, d.id = q := by
  unfold PermissionCatalogValidator.validate at h
  split at h
  · cases h
  next hintegrity =>
    obtain ⟨⟨_, hd, hid⟩, -⟩ := PermissionCatalogValidator.validateReferentialIntegrity_eq_ok.mp
      hintegrity p q (requires_core.mpr hrequires)
    obtain ⟨d, hmem, rfl⟩ := List.mem_map.mp hd
    exact ⟨d, hmem, hid⟩

/-- Two views count different things where an id is repeated: all entries, and the ids. -/
theorem nodup_of_totals
    (h : definitions.length = (buildGraph definitions).nodes.entries.length) :
    (definitions.map (·.id)).Nodup := by
  have hsub : (buildGraph definitions).nodes.entries.map Prod.fst ⊆
      definitions.map (·.id) := by
    intro code hcode
    obtain ⟨e, he, rfl⟩ := List.mem_map.mp hcode
    obtain ⟨d, hd, rfl⟩ := List.mem_map.mp (JsMap.mem_of_ofEntries he)
    exact List.mem_map_of_mem hd
  have hsubperm := List.subperm_of_subset (buildGraph definitions).nodes.nodup hsub
  have hperm := hsubperm.perm_of_length_le
    (by rw [List.length_map, List.length_map, h])
  exact hperm.nodup_iff.mp (buildGraph definitions).nodes.nodup

/-- The views of a catalog that has been loaded agree if and only if no id is repeated. -/
theorem viewsAgree_iff {fuel : Nat} {s s' : CatalogService} {raws : List CatalogEntry}
    (h : s.initializeFrom fuel (.permissions (raws.map .entry)) = some (.ok (), s')) :
    ViewsAgree s' ↔ (raws.map CatalogEntry.id).Nodup := by
  obtain ⟨items, hitems, hread, rfl, hvalid⟩ := CatalogService.initializeFrom_ok h
  obtain rfl : raws.map .entry = items := CatalogFile.permissions.inj hitems
  rw [← accepted_ids hread]
  refine ⟨fun hagree => hagree.distinct, fun hnodup => ?_⟩
  have hgraph := graphAgrees_of_nodup hnodup fun p q => known_of_validate hvalid
  have hhierarchy : HierarchyAgrees (accepted (raws.map .entry))
      (CatalogService.mk (.ofDefinitions (accepted (raws.map .entry))) (accepted (raws.map .entry))
        (some (buildGraph (accepted (raws.map .entry))))).getCatalogHierarchy :=
    hierarchyAgrees_of_maps rfl
  refine ⟨hnodup, fun id d => ?_, ⟨_, rfl, hgraph, ?_⟩, matrixAgrees_of_graph rfl hgraph,
    hhierarchy, hhierarchy.listed.length_eq.symm⟩
  · show (CatalogMaps.ofDefinitions _).permissionMap.get id = some d ↔ _
    rw [ofDefinitions_permissionMap, JsMap.get_eq_some,
      JsMap.mem_ofEntries_of_nodup (nodup_keys hnodup _), List.mem_map]
    constructor
    · rintro ⟨d', hd', hentry⟩
      obtain ⟨rfl, rfl⟩ := Prod.mk.inj hentry
      exact ⟨hd', rfl⟩
    · rintro ⟨hd, rfl⟩
      exact ⟨d, hd, rfl⟩
  · show (accepted (raws.map .entry)).length = _
    have hlength := congrArg List.length (nodes_definitions hnodup).2
    rw [List.length_map, List.length_map] at hlength
    exact hlength.symm

-- ============================================================================
-- Two files
-- ============================================================================

/-- A permission with its prerequisite, in one module. -/
def locationEntries : List CatalogEntry :=
  [{ id := "location.view", «module» := "setting", resource := "location", action := "view" },
    { id := "location.create", «module» := "setting", resource := "location", action := "create",
      «requires» := some ["location.view"] }]

theorem viewsAgree_iff_location : ∃ s',
    CatalogService.initializeFrom 2 {} (.permissions (locationEntries.map .entry)) =
        some (.ok (), s') ∧
      (ViewsAgree s' ↔ (locationEntries.map CatalogEntry.id).Nodup) :=
  ⟨_, rfl, @viewsAgree_iff 2 {} _ locationEntries rfl⟩

/-- An id that two modules have. -/
def twoModules : List CatalogEntry :=
  [{ id := "location.view", «module» := "setting", resource := "location", action := "view" },
    { id := "location.view", «module» := "hr", resource := "location", action := "view" }]

/-- It is counted twice and has one node. -/
theorem not_viewsAgree : ¬∀ (fuel : Nat) (s s' : CatalogService) (raws : List CatalogEntry),
    s.initializeFrom fuel (.permissions (raws.map .entry)) = some (.ok (), s') →
      ViewsAgree s' := by
  intro h
  have hloaded : ∃ s', CatalogService.initializeFrom 1 {} (.permissions (twoModules.map .entry)) =
      some (.ok (), s') ∧ s'.getAll.map (·.id) = ["location.view", "location.view"] :=
    ⟨_, rfl, rfl⟩
  obtain ⟨s', hs', hids⟩ := hloaded
  have hnodup := (h 1 {} s' twoModules hs').distinct
  rw [hids] at hnodup
  exact absurd hnodup (by decide)

end AccessService.Permissions
