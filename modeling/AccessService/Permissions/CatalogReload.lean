/-
  AccessService.Permissions.CatalogReload

  A reload that fails.  The loader clears its maps before it reads and fills them while it
  reads, and the lookup by id and the hierarchy are made of these maps; the definitions, the
  graph and the matrix are those of the last success.  So nothing changes exactly if what was
  read in front of the failure gives the same lookups and the same hierarchy.
-/

import AccessService.Permissions.CatalogViews

namespace AccessService.Permissions

open AccessService.Js FullCatalogLoader

-- ============================================================================
-- Unchanged views
-- ============================================================================

/-- All that the service answers. -/
structure SameAnswers (s s' : CatalogService) : Prop where
  getAll : s'.getAll = s.getAll
  getById : ∀ id, s'.getById id = s.getById id
  getGraph : s'.getGraph = s.getGraph
  getDependencyMatrix : s'.getDependencyMatrix = s.getDependencyMatrix
  getCatalogHierarchy : s'.getCatalogHierarchy = s.getCatalogHierarchy

/-- What the maps are filled with when the file is read; a file that is missing is not
    read. -/
def CatalogFile.read : CatalogFile → Option (List CatalogDefinition)
  | .missing => none
  | .notYaml => some []
  | .noPermissions => some []
  | .permissions items => some (accepted items)

def lastWithId (definitions : List CatalogDefinition) (id : String) : Option CatalogDefinition :=
  definitions.reverse.find? fun d => d.id = id

/-- In every module and resource the same definitions in the same order, and under every id
    the same last definition. -/
structure SameIndex (read definitions : List CatalogDefinition) : Prop where
  lookups : ∀ id, lastWithId read id = lastWithId definitions id
  modules : modulesOf read = modulesOf definitions

variable {s s' : CatalogService} {definitions : List CatalogDefinition}

theorem getById_of_maps (hmaps : s.maps = .ofDefinitions definitions) (id : String) :
    s.getById id = lastWithId definitions id := by
  rw [CatalogService.getById, hmaps, ofDefinitions_permissionMap, JsMap.get_ofEntries,
    ← List.map_reverse, List.find?_map, Option.map_map]
  exact congrFun Option.map_id _

-- ============================================================================
-- A failure
-- ============================================================================

/-- A failure leaves the service's own fields, and the maps as far as they were filled. -/
theorem CatalogService.initializeFrom_error {fuel : Nat} {file : CatalogFile}
    {e : CatalogLoadError} (h : s.initializeFrom fuel file = some (.error e, s')) :
    s' = { s with maps := (file.read.map CatalogMaps.ofDefinitions).getD s.maps } := by
  have hmaps : (load s.maps file).2 = (file.read.map CatalogMaps.ofDefinitions).getD s.maps := by
    cases file with
    | missing => rfl
    | notYaml => rfl
    | noPermissions => rfl
    | permissions items => exact loadItems_maps .cleared items
  unfold initializeFrom at h
  rcases hload : load s.maps file with ⟨e | loaded, maps⟩
  · rw [hload] at h hmaps
    obtain ⟨-, rfl⟩ := Prod.mk.inj (Option.some.inj h)
    rw [← hmaps]
  · rw [hload] at h hmaps
    simp only at h hmaps
    split at h
    · cases h
    · obtain ⟨-, rfl⟩ := Prod.mk.inj (Option.some.inj h)
      rw [← hmaps]
    · cases h

theorem sameAnswers_iff {read : List CatalogDefinition}
    (hmaps : s.maps = .ofDefinitions definitions) :
    SameAnswers s { s with maps := .ofDefinitions read } ↔ SameIndex read definitions := by
  have hmodules := getCatalogHierarchy_modules hmaps
  have hmodules' : CatalogService.getCatalogHierarchy { s with maps := .ofDefinitions read } =
      ⟨(modulesOf read).length, s.definitions.length, modulesOf read⟩ := by
    have hread : (CatalogService.getCatalogHierarchy
        { s with maps := .ofDefinitions read }).modules = modulesOf read :=
      getCatalogHierarchy_modules rfl
    rw [← hread]
    rfl
  constructor
  · intro hsame
    refine ⟨fun id => ?_, ?_⟩
    · rw [← getById_of_maps hmaps, ← hsame.getById id]
      exact (getById_of_maps rfl id).symm
    · have hhierarchy := congrArg PermissionCatalogResponseDto.modules hsame.getCatalogHierarchy
      rw [hmodules, hmodules'] at hhierarchy
      exact hhierarchy
  · intro hindex
    refine ⟨rfl, fun id => ?_, rfl, rfl, ?_⟩
    · rw [getById_of_maps hmaps, ← hindex.lookups]
      exact getById_of_maps rfl id
    · rw [hmodules', hindex.modules, ← hmodules]
      rfl

/-- A reload that fails changes nothing if and only if the file is not there, or what is read
    of it in front of the failure is indexed as the definitions in use are. -/
theorem failed_reload_iff {fuel fuel' : Nat} {s₀ : CatalogService} {file file' : CatalogFile}
    {e : CatalogLoadError} (hloaded : s₀.initializeFrom fuel file = some (.ok (), s))
    (hfailed : s.initializeFrom fuel' file' = some (.error e, s')) :
    SameAnswers s s' ↔ ∀ read, file'.read = some read → SameIndex read s.getAll := by
  obtain ⟨items, -, -, rfl, -⟩ := CatalogService.initializeFrom_ok hloaded
  rw [CatalogService.initializeFrom_error hfailed]
  rcases hread : file'.read with _ | read
  · exact iff_of_true ⟨rfl, fun _ => rfl, rfl, rfl, rfl⟩ nofun
  · refine (sameAnswers_iff rfl).trans ⟨fun hindex => ?_, fun hindex => hindex read rfl⟩
    rintro _ ⟨⟩
    exact hindex

-- ============================================================================
-- A file that names a permission after an event
-- ============================================================================

def createdEntry : CatalogEntry where
  id := "location.created"
  «module» := "setting"
  resource := "location"
  action := "created"

def pastTense : CatalogFile := .permissions [.entry createdEntry]

theorem failed_reload_iff_location : ∃ s s',
    CatalogService.initializeFrom 2 {} (.permissions (locationEntries.map .entry)) =
        some (.ok (), s) ∧
      s.initializeFrom 2 .notYaml = some (.error .yamlException, s') ∧
      (SameAnswers s s' ↔ ∀ read, CatalogFile.notYaml.read = some read → SameIndex read s.getAll) :=
  ⟨_, _, rfl, rfl, @failed_reload_iff _ _ 2 2 {} (.permissions (locationEntries.map .entry))
    .notYaml .yamlException rfl rfl⟩

/-- After the failure no permission is found by its id. -/
theorem not_failed_reload : ¬∀ (fuel fuel' : Nat) (s₀ s s' : CatalogService)
    (file file' : CatalogFile) (e : CatalogLoadError),
    s₀.initializeFrom fuel file = some (.ok (), s) →
      s.initializeFrom fuel' file' = some (.error e, s') → SameAnswers s s' := by
  intro h
  obtain ⟨s, s', e, hloaded, hfailed, hbefore, hafter⟩ : ∃ s s' e,
      CatalogService.initializeFrom 2 {} (.permissions (locationEntries.map .entry)) =
          some (.ok (), s) ∧
        s.initializeFrom 2 pastTense = some (.error e, s') ∧
        (s.getById "location.view").isSome = true ∧ s'.getById "location.view" = none :=
    ⟨_, _, _, rfl, rfl, rfl, rfl⟩
  have hsame := (h 2 2 {} s s' _ pastTense e hloaded hfailed).getById "location.view"
  rw [hafter] at hsame
  rw [← hsame] at hbefore
  cases hbefore

end AccessService.Permissions
