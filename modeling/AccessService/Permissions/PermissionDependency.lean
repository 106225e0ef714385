/-
  AccessService.Permissions.PermissionDependency

  The dependency graph of the permission catalog and the check of a requested set
  of permissions against it (`permission-dependency.service.ts`).
-/

import AccessService.Js.Collections

namespace AccessService.Permissions

open AccessService.Js

structure PermissionDefinition where
  id : String
  «requires» : List String := []
  deprecated : Bool := false
  deriving DecidableEq

structure DependencyNode where
  id : String
  definition : PermissionDefinition
  prerequisites : List String
  dependents : List String
  deriving DecidableEq

structure PermissionDependencyGraph where
  nodes : JsMap String DependencyNode

inductive DependencyViolationType where
  | MISSING_PREREQUISITE
  | BLOCKED_BY_DEPENDENT
  | DEPRECATED_CODE
  | UNKNOWN_CODE
  | INVALID_FORMAT
  deriving DecidableEq

structure DependencyViolation where
  code : String
  type : DependencyViolationType
  message : String
  conflictCodes : List String := []
  deriving DecidableEq

structure ValidationResult where
  isValid : Bool
  errors : List DependencyViolation
  deriving DecidableEq

-- ============================================================================
-- The format of a code
-- ============================================================================

def isLowerLetter (c : Char) : Bool := 'a' ≤ c && c ≤ 'z'

def isWordCharacter (c : Char) : Bool :=
  isLowerLetter c || ('0' ≤ c && c ≤ '9') || c = '_' || c = '-'

/-- `[a-z][a-z0-9_-]*` -/
def isWord : List Char → Bool
  | [] => false
  | c :: cs => isLowerLetter c && cs.all isWordCharacter

/-- `PERMISSION_ACTION_REGEX`: two words with a dot between them. -/
def isPermissionAction (code : String) : Bool :=
  match code.toList.span (· ≠ '.') with
  | (resource, _ :: action) => isWord resource && isWord action
  | (_, []) => false

-- ============================================================================
-- The check
-- ============================================================================

namespace PermissionDependencyService

def invalidFormat (code : String) : DependencyViolation where
  code := code
  type := .INVALID_FORMAT
  message := "Permission code '" ++ code ++ "' violates 'resource.action' format standard."

def unknownCode (code : String) : DependencyViolation where
  code := code
  type := .UNKNOWN_CODE
  message := "Permission code '" ++ code ++ "' is not recognized in the platform catalog."

def deprecatedCode (code : String) : DependencyViolation where
  code := code
  type := .DEPRECATED_CODE
  message := "Permission code '" ++ code ++ "' is deprecated and cannot be assigned to roles."

def missingPrerequisite (code prerequisite : String) : DependencyViolation where
  code := code
  type := .MISSING_PREREQUISITE
  message := "Granting '" ++ code ++ "' requires prerequisite capability '" ++ prerequisite ++ "'."
  conflictCodes := [prerequisite]

/-- The first loop's body. -/
def codeErrors (graph : PermissionDependencyGraph) (code : String) : List DependencyViolation :=
  if isPermissionAction code = false then [invalidFormat code]
  else
    match graph.nodes.get code with
    | none => [unknownCode code]
    | some node => if node.definition.deprecated then [deprecatedCode code] else []

/-- The second loop's body; by then every code has a node. -/
def prerequisiteErrors (graph : PermissionDependencyGraph) (requestedCodes : List String)
    (code : String) : List DependencyViolation :=
  match graph.nodes.get code with
  | none => []
  | some node =>
    (node.prerequisites.filter fun prerequisite => prerequisite ∉ requestedCodes).map
      (missingPrerequisite code)

def validatePermissionSet (graph : PermissionDependencyGraph) (requestedCodes : List String) :
    ValidationResult :=
  let errors := requestedCodes.flatMap (codeErrors graph)
  if errors.length > 0 then ⟨false, errors⟩
  else
    let errors := requestedCodes.flatMap (prerequisiteErrors graph requestedCodes)
    ⟨errors.length = 0, errors⟩

end PermissionDependencyService

end AccessService.Permissions
