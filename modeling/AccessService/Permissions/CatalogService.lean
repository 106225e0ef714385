/-
  AccessService.Permissions.CatalogService

  The loader and the service of the catalog with all that they keep: the definitions in
  full, the map by id, the map by module and resource, the graph, and the views made of them
  (`permission-catalog.loader.ts`, `permission-catalog.service.ts`).

  The loader refills its maps while it reads a file; the service takes the definitions and
  the graph once the validator has passed them.
-/

import AccessService.Js.Grouping
import AccessService.Permissions.PermissionCatalog

namespace AccessService.Permissions

open AccessService.Js

-- ============================================================================
-- Data
-- ============================================================================

/-- A definition with all its fields. -/
structure CatalogDefinition where
  id : String
  «module» : String
  resource : String
  action : String
  «requires» : Option (List String)
  entry : Bool
  deprecated : Bool
  deprecatedAt : Option String
  removedInVersion : Option String
  deriving DecidableEq

/-- What the graph and the validator look at. -/
def CatalogDefinition.core (d : CatalogDefinition) : PermissionDefinition where
  id := d.id
  «requires» := d.requires.getD []
  deprecated := d.deprecated

/-- An entry of the file's `permissions`. -/
structure CatalogEntry where
  id : String
  «module» : String
  resource : String
  action : String
  «requires» : Option (List String) := none
  entry : Option Bool := none
  deprecated : Option Bool := none
  deprecatedAt : Option String := none
  removedInVersion : Option String := none
  deriving DecidableEq

inductive CatalogItem where
  | entry (entry : CatalogEntry)
  /-- What the loop cannot read: a `null`, or `requires` that is no list. -/
  | unreadable
  deriving DecidableEq

/-- What there is at the path of the catalog. -/
inductive CatalogFile where
  | missing
  | notYaml
  /-- No object with a list of `permissions`. -/
  | noPermissions
  | permissions (items : List CatalogItem)
  deriving DecidableEq

inductive CatalogLoadError where
  | fileNotFound
  | yamlException
  | invalidStructure
  | typeError
  | catalog (error : PermissionCatalogError)
  deriving DecidableEq

structure CatalogNode where
  id : String
  definition : CatalogDefinition
  prerequisites : List String
  dependents : List String
  deriving DecidableEq

structure FullGraph where
  nodes : JsMap String CatalogNode
  adjacencyList : CodeSets
  reverseAdjacencyList : CodeSets

-- ============================================================================
-- The loader
-- ============================================================================

/-- `permissionMap` and `moduleMap` -/
structure CatalogMaps where
  permissionMap : JsMap String CatalogDefinition
  moduleMap : JsMap String (JsMap String (List CatalogDefinition))

namespace CatalogMaps

def cleared : CatalogMaps where
  permissionMap := .empty
  moduleMap := .empty

/-- The list of its resource takes a definition. -/
def addToResources (resourceMap : JsMap String (List CatalogDefinition)) (d : CatalogDefinition) :
    JsMap String (List CatalogDefinition) :=
  .collect CatalogDefinition.resource (fun definitions d => definitions ++ [d]) [] resourceMap d

def add (maps : CatalogMaps) (d : CatalogDefinition) : CatalogMaps where
  permissionMap := maps.permissionMap.set d.id d
  moduleMap := .collect CatalogDefinition.module addToResources .empty maps.moduleMap d

end CatalogMaps

namespace FullCatalogLoader

def loadEntry (raw : CatalogEntry) : Except CatalogLoadError CatalogDefinition :=
  match PermissionCatalogLoader.validatePermissionNaming raw.id raw.resource raw.action with
  | .error e => .error (.catalog e)
  | .ok () => .ok {
      id := raw.id
      «module» := raw.module
      resource := raw.resource
      action := raw.action
      «requires» := raw.requires
      entry := raw.entry == some true
      deprecated := raw.deprecated == some true
      deprecatedAt := raw.deprecatedAt
      removedInVersion := raw.removedInVersion }

def loadItem : CatalogItem → Except CatalogLoadError CatalogDefinition
  | .entry raw => loadEntry raw
  | .unreadable => .error .typeError

/-- The loop, with the maps it leaves. -/
def loadItems (maps : CatalogMaps) :
    List CatalogItem → Except CatalogLoadError (List CatalogDefinition) × CatalogMaps
  | [] => (.ok [], maps)
  | item :: items =>
    match loadItem item with
    | .error e => (.error e, maps)
    | .ok d =>
      let (rest, maps) := loadItems (maps.add d) items
      (rest.map (d :: ·), maps)

def buildGraph (definitions : List CatalogDefinition) : FullGraph :=
  let lists := PermissionGraphBuilder.adjacency (definitions.map CatalogDefinition.core)
  { nodes := .ofEntries (definitions.map fun d =>
      (d.id, {
        id := d.id
        definition := d
        prerequisites := (lists.adjacencyList.get d.id).getD []
        dependents := (lists.reverseAdjacencyList.get d.id).getD [] }))
    adjacencyList := lists.adjacencyList
    reverseAdjacencyList := lists.reverseAdjacencyList }

/-- `loadFromFile` and `loadFromYamlContent`: the definitions, and the maps it leaves. -/
def load (maps : CatalogMaps) :
    CatalogFile → Except CatalogLoadError (List CatalogDefinition) × CatalogMaps
  | .missing => (.error .fileNotFound, maps)
  | .notYaml => (.error .yamlException, .cleared)
  | .noPermissions => (.error .invalidStructure, .cleared)
  | .permissions items => loadItems .cleared items

end FullCatalogLoader

/-- The graph as the validator reads it. -/
def FullGraph.core (graph : FullGraph) : CatalogGraph where
  nodes :=
    { entries := graph.nodes.entries.map (Prod.map id fun node =>
        { id := node.id
          definition := node.definition.core
          prerequisites := node.prerequisites
          dependents := node.dependents })
      nodup := by
        rw [List.map_map]
        exact graph.nodes.nodup }
  adjacencyList := graph.adjacencyList
  reverseAdjacencyList := graph.reverseAdjacencyList

-- ============================================================================
-- The service
-- ============================================================================

structure CatalogService where
  maps : CatalogMaps := .cleared
  definitions : List CatalogDefinition := []
  graph : Option FullGraph := none

/-- `PermissionItemDto` has the fields of a definition. -/
structure ResourceGroupDto where
  resource : String
  permissions : List CatalogDefinition
  deriving DecidableEq

structure ModuleGroupDto where
  «module» : String
  resources : List ResourceGroupDto
  deriving DecidableEq

structure PermissionCatalogResponseDto where
  totalModules : Nat
  totalPermissions : Nat
  modules : List ModuleGroupDto
  deriving DecidableEq

structure DependencyRuleDto where
  permissionCode : String
  «requires» : List String
  requiredBy : List String
  deriving DecidableEq

namespace CatalogService

open FullCatalogLoader

/-- No result is for a call stack that would have to be deeper than `fuel`. -/
def initializeFrom (fuel : Nat) (s : CatalogService) (file : CatalogFile) :
    Option (Except CatalogLoadError Unit × CatalogService) :=
  match load s.maps file with
  | (.error e, maps) => some (.error e, { s with maps := maps })
  | (.ok definitions, maps) =>
    let graph := buildGraph definitions
    match PermissionCatalogValidator.validate fuel (definitions.map CatalogDefinition.core)
        graph.core with
    | none => none
    | some (.error e) => some (.error (.catalog e), { s with maps := maps })
    | some (.ok ()) => some (.ok (), ⟨maps, definitions, some graph⟩)

def getAll (s : CatalogService) : List CatalogDefinition := s.definitions

def getById (s : CatalogService) (id : String) : Option CatalogDefinition :=
  s.maps.permissionMap.get id

def getGraph (s : CatalogService) : Option FullGraph := s.graph

def getCatalogHierarchy (s : CatalogService) : PermissionCatalogResponseDto :=
  let modules := s.maps.moduleMap.entries.map fun (moduleName, resourceMap) =>
    { «module» := moduleName
      resources := resourceMap.entries.map fun (resourceName, perms) => ⟨resourceName, perms⟩ }
  { totalModules := modules.length
    totalPermissions := s.definitions.length
    modules := modules }

/-- It throws where there is no graph yet. -/
def getDependencyMatrix (s : CatalogService) : Option (List DependencyRuleDto) :=
  s.graph.map fun graph => graph.nodes.entries.map fun (id, node) =>
    { permissionCode := id
      «requires» := node.prerequisites
      requiredBy := node.dependents }

end CatalogService

end AccessService.Permissions
