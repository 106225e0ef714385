/-
  AccessService.UserGroups.AggregateInvariants

  The whole of `UserGroupAggregate` (`user-group.aggregate.ts`): both ways to obtain one, its
  seven mutators, and what they keep over any sequence of calls. A mutator that throws leaves
  the object as far as it has assigned its fields, so each gives the object back either way.
-/

import AccessService.UserGroups.GroupUpdates

namespace AccessService.UserGroups.Domain

open AccessService.Js AccessService.Pg AccessService.Persistence

-- the ids are texts, and nothing but their equality is looked at
variable {ι : Type}

-- ============================================================================
-- The aggregate
-- ============================================================================

structure UserGroupAggregate (ι : Type) where
  id : Option ι
  tenantCode : String
  name : String
  description : Column String
  status : UserGroupStatus
  scopeType : ScopeType
  scopeRefId : Column String
  matchingRule : Option MatchingRule
  ruleAttributeKeys : List String
  version : Nat
  projectionVersion : Nat
  assignedRoleIds : List ι
  createdBy : Option ι
  updatedBy : Option ι
  deriving DecidableEq

/-- `UserGroupProps` as `create` takes it. -/
structure CreateProps (ι : Type) where
  id : Option ι := none
  tenantCode : String
  name : String
  description : Option String := none
  status : Option UserGroupStatus := none
  scopeType : String
  scopeRefId : Option String := none
  matchingRule : MatchingRule
  assignedRoleIds : Option (List ι) := none
  createdBy : Option ι := none
  updatedBy : Option ι := none

structure ConfigurationProps (ι : Type) where
  name : String
  description : Option String := none
  scopeType : String
  scopeRefId : Option String := none
  matchingRule : MatchingRule
  assignedRoleIds : Option (List ι) := none
  updatedBy : Option ι := none

/-- The `UserGroup` entity. -/
structure UserGroupRecord (ι : Type) where
  id : ι
  tenantCode : String
  name : String
  description : Column String
  status : UserGroupStatus
  scopeType : ScopeType
  scopeRefId : Column String
  matchingRule : Option MatchingRule
  ruleAttributeKeys : List String
  version : Nat
  projectionVersion : Nat

/-- What both `create` and `updateConfiguration` check: the type of scope and the keys of the
    rule. -/
def validateConfiguration (name scopeType : String) (matchingRule : MatchingRule) :
    Except UserGroupError (ScopeType × List String) :=
  if name = "" ∨ trim name = "" then .error (.invalidScope "User Group name cannot be empty")
  else
    match ScopeType.all.find? fun type => type.text = scopeType with
    | none => .error (.invalidScope ("Invalid scope type \"" ++ scopeType ++ "\""))
    | some type => (ruleKeys matchingRule).map fun keys => (type, keys)

/-- The role ids that a call has added and removed. -/
structure RoleDelta (ι : Type) where
  addedRoleIds : List ι := []
  removedRoleIds : List ι := []
  deriving DecidableEq

structure ScopeChange where
  previousScope : ScopeType × Option String
  newScope : ScopeType × Option String
  deriving DecidableEq

/-- How a call ends, and the object afterwards. -/
abbrev Ended (ι α : Type) : Type := Except UserGroupError α × UserGroupAggregate ι

namespace UserGroupAggregate

def create (props : CreateProps ι) : Except UserGroupError (UserGroupAggregate ι) :=
  (validateConfiguration props.name props.scopeType props.matchingRule).map
    fun (scopeType, ruleAttributeKeys) =>
      { id := props.id
        tenantCode := props.tenantCode
        name := props.name
        description := .ofOptional props.description
        status := props.status.getD .ACTIVE
        scopeType := scopeType
        scopeRefId := .ofOptional props.scopeRefId
        matchingRule := some props.matchingRule
        ruleAttributeKeys := ruleAttributeKeys
        version := 1
        projectionVersion := 0
        assignedRoleIds := props.assignedRoleIds.getD []
        createdBy := props.createdBy
        updatedBy := props.updatedBy }

def reconstruct (userGroup : UserGroupRecord ι) (currentRoleIds : Option (List ι)) :
    UserGroupAggregate ι where
  id := some userGroup.id
  tenantCode := userGroup.tenantCode
  name := userGroup.name
  description := userGroup.description
  status := userGroup.status
  scopeType := userGroup.scopeType
  scopeRefId := userGroup.scopeRefId
  matchingRule := userGroup.matchingRule
  ruleAttributeKeys := userGroup.ruleAttributeKeys
  version := userGroup.version
  projectionVersion := userGroup.projectionVersion
  assignedRoleIds := currentRoleIds.getD []
  createdBy := none
  updatedBy := none

/-- The expected version is compared, and nothing comes of it. -/
def updateConfiguration (a : UserGroupAggregate ι) (props : ConfigurationProps ι)
    (_expectedVersion : Int) : Ended ι Unit :=
  match validateConfiguration props.name props.scopeType props.matchingRule with
  | .error error => (.error error, a)
  | .ok (scopeType, ruleAttributeKeys) =>
    (.ok (), { a with
      name := props.name
      description := .ofOptional props.description
      scopeType := scopeType
      scopeRefId := .ofOptional props.scopeRefId
      matchingRule := some props.matchingRule
      ruleAttributeKeys := ruleAttributeKeys
      assignedRoleIds := props.assignedRoleIds.getD a.assignedRoleIds
      updatedBy := props.updatedBy
      version := a.version + 1 })

def updateScope (a : UserGroupAggregate ι) (scopeType : String) (scopeRefId : Option String)
    (updatedBy : Option ι) : Ended ι ScopeChange :=
  match UserGroupScopeValidator.validate scopeType scopeRefId with
  | .error error => (.error error, a)
  | .ok validated =>
    (.ok {
      previousScope := (a.scopeType, match a.scopeRefId with
        | .value refId => some refId
        | _ => none)
      newScope := (validated.scopeType, validated.scopeRefId) },
      { a with
        scopeType := validated.scopeType
        scopeRefId := .ofOptional validated.scopeRefId
        updatedBy := updatedBy
        version := a.version + 1 })

def deactivate (a : UserGroupAggregate ι) (updatedBy : Option ι) : Ended ι Unit :=
  if a.status = .INACTIVE then
    (.error (.invalidStateTransition "User Group is already inactive"), a)
  else
    (.ok (), { a with status := .INACTIVE, updatedBy := updatedBy, version := a.version + 1 })

def reactivate (a : UserGroupAggregate ι) (updatedBy : Option ι) : Ended ι Unit :=
  if a.status = .ACTIVE then
    (.error (.invalidStateTransition "User Group is already active"), a)
  else
    (.ok (), { a with status := .ACTIVE, updatedBy := updatedBy, version := a.version + 1 })

section Roles

variable [DecidableEq ι]

def assignRoles (a : UserGroupAggregate ι) (roleIds : List ι) (updatedBy : Option ι) :
    Ended ι (RoleDelta ι) :=
  let uniqueIncoming := setOf roleIds
  let addedRoleIds := uniqueIncoming.filter fun id => id ∉ a.assignedRoleIds
  (.ok { addedRoleIds := addedRoleIds },
    if addedRoleIds.length > 0 then
      { a with
        assignedRoleIds := a.assignedRoleIds ++ addedRoleIds
        updatedBy := updatedBy
        version := a.version + 1 }
    else a)

def unassignRoles (a : UserGroupAggregate ι) (roleIds : List ι) (updatedBy : Option ι) :
    Ended ι (RoleDelta ι) :=
  let removedRoleIds := a.assignedRoleIds.filter fun id => id ∈ roleIds
  (.ok { removedRoleIds := removedRoleIds },
    if removedRoleIds.length > 0 then
      { a with
        assignedRoleIds := a.assignedRoleIds.filter fun id => id ∉ roleIds
        updatedBy := updatedBy
        version := a.version + 1 }
    else a)

def replaceRoles (a : UserGroupAggregate ι) (targetRoleIds : List ι) (updatedBy : Option ι) :
    Ended ι (RoleDelta ι) :=
  let uniqueTarget := setOf targetRoleIds
  (.ok {
    addedRoleIds := uniqueTarget.filter fun id => id ∉ a.assignedRoleIds
    removedRoleIds := a.assignedRoleIds.filter fun id => id ∉ uniqueTarget },
    { a with
      assignedRoleIds := uniqueTarget
      updatedBy := updatedBy
      version := a.version + 1 })

end Roles

end UserGroupAggregate

-- ============================================================================
-- Calls
-- ============================================================================

inductive AggregateCall (ι : Type) where
  | updateConfiguration (props : ConfigurationProps ι) (expectedVersion : Int)
  | assignRoles (roleIds : List ι) (updatedBy : Option ι)
  | unassignRoles (roleIds : List ι) (updatedBy : Option ι)
  | replaceRoles (targetRoleIds : List ι) (updatedBy : Option ι)
  | updateScope (scopeType : String) (scopeRefId : Option String) (updatedBy : Option ι)
  | deactivate (updatedBy : Option ι)
  | reactivate (updatedBy : Option ι)

inductive Answer (ι : Type) where
  | nothing
  | roles (delta : RoleDelta ι)
  | scope (change : ScopeChange)

def Ended.as {α : Type} (answer : α → Answer ι) (ended : Ended ι α) : Ended ι (Answer ι) :=
  (ended.1.map answer, ended.2)

namespace AggregateCall

variable [DecidableEq ι]

def run (a : UserGroupAggregate ι) : AggregateCall ι → Ended ι (Answer ι)
  | .updateConfiguration props expectedVersion =>
    Ended.as (fun _ => .nothing) (a.updateConfiguration props expectedVersion)
  | .assignRoles roleIds updatedBy => Ended.as .roles (a.assignRoles roleIds updatedBy)
  | .unassignRoles roleIds updatedBy => Ended.as .roles (a.unassignRoles roleIds updatedBy)
  | .replaceRoles targetRoleIds updatedBy =>
    Ended.as .roles (a.replaceRoles targetRoleIds updatedBy)
  | .updateScope scopeType scopeRefId updatedBy =>
    Ended.as .scope (a.updateScope scopeType scopeRefId updatedBy)
  | .deactivate updatedBy => Ended.as (fun _ => .nothing) (a.deactivate updatedBy)
  | .reactivate updatedBy => Ended.as (fun _ => .nothing) (a.reactivate updatedBy)

/-- The calls that write: those that are accepted, and of the two that only add or remove
    roles those that have something to add or remove. -/
def Writes (a : UserGroupAggregate ι) : AggregateCall ι → Prop
  | .updateConfiguration props _ =>
    ∃ checked, validateConfiguration props.name props.scopeType props.matchingRule = .ok checked
  | .assignRoles roleIds _ => ∃ id ∈ roleIds, id ∉ a.assignedRoleIds
  | .unassignRoles roleIds _ => ∃ id ∈ roleIds, id ∈ a.assignedRoleIds
  | .replaceRoles _ _ => True
  | .updateScope scopeType scopeRefId _ =>
    ∃ validated, UserGroupScopeValidator.validate scopeType scopeRefId = .ok validated
  | .deactivate _ => a.status ≠ .INACTIVE
  | .reactivate _ => a.status ≠ .ACTIVE

/-- The role list that a call stores as it is given. -/
def storedRoleIds : AggregateCall ι → Option (List ι)
  | .updateConfiguration props _ =>
    match validateConfiguration props.name props.scopeType props.matchingRule with
    | .ok _ => props.assignedRoleIds
    | .error _ => none
  | _ => none

end AggregateCall

-- ============================================================================
-- One call
-- ============================================================================

/-- The new roles are the old ones without the removed and with the added ones, which are
    told from what was there. -/
structure DeltaLaw (old new : List ι) (delta : RoleDelta ι) : Prop where
  new : ∀ id, id ∈ new ↔ (id ∈ old ∧ id ∉ delta.removedRoleIds) ∨ id ∈ delta.addedRoleIds
  added : ∀ id ∈ delta.addedRoleIds, id ∉ old
  removed : ∀ id ∈ delta.removedRoleIds, id ∈ old

theorem length_filter_pos {list : List ι} {p : ι → Bool} :
    (list.filter p).length > 0 ↔ ∃ id ∈ list, p id = true := by
  rw [gt_iff_lt, List.length_pos_iff_exists_mem]
  simp only [List.mem_filter]

theorem as_ne_roles {α : Type} {answer : α → Answer ι} {ended : Ended ι α} {delta : RoleDelta ι}
    (h : ∀ result, answer result ≠ .roles delta) :
    (Ended.as answer ended).1 ≠ .ok (.roles delta) := by
  obtain ⟨error | result, after⟩ := ended
  · nofun
  · exact fun heq => h result (Except.ok.inj heq)

section Call

variable [DecidableEq ι] {a : UserGroupAggregate ι} {call : AggregateCall ι}

/-- A call that writes raises the version by one, and any other leaves every field. -/
theorem run_writes (a : UserGroupAggregate ι) (call : AggregateCall ι) :
    (call.Writes a → (call.run a).2.version = a.version + 1) ∧
      (¬call.Writes a → (call.run a).2 = a) := by
  cases call with
  | updateConfiguration props expectedVersion =>
    simp only [AggregateCall.Writes, AggregateCall.run, Ended.as,
      UserGroupAggregate.updateConfiguration]
    split
    next error herror => simp [herror]
    next checked hchecked => simp [hchecked]
  | assignRoles roleIds updatedBy =>
    have hadds : ((setOf roleIds).filter fun id => id ∉ a.assignedRoleIds).length > 0 ↔
        ∃ id ∈ roleIds, id ∉ a.assignedRoleIds := by
      simp only [length_filter_pos, mem_setOf, decide_eq_true_eq]
    simp only [AggregateCall.Writes, AggregateCall.run, Ended.as,
      UserGroupAggregate.assignRoles, ← hadds]
    exact ⟨fun h => by rw [if_pos h], fun h => if_neg h⟩
  | unassignRoles roleIds updatedBy =>
    have hremoves : (a.assignedRoleIds.filter fun id => id ∈ roleIds).length > 0 ↔
        ∃ id ∈ roleIds, id ∈ a.assignedRoleIds := by
      simp only [length_filter_pos, decide_eq_true_eq]
      exact ⟨fun ⟨id, h, h'⟩ => ⟨id, h', h⟩, fun ⟨id, h, h'⟩ => ⟨id, h', h⟩⟩
    simp only [AggregateCall.Writes, AggregateCall.run, Ended.as,
      UserGroupAggregate.unassignRoles, ← hremoves]
    exact ⟨fun h => by rw [if_pos h], fun h => if_neg h⟩
  | replaceRoles targetRoleIds updatedBy => exact ⟨fun _ => rfl, fun h => absurd trivial h⟩
  | updateScope scopeType scopeRefId updatedBy =>
    simp only [AggregateCall.Writes, AggregateCall.run, Ended.as,
      UserGroupAggregate.updateScope]
    split
    next error herror => simp [herror]
    next validated hvalidated => simp [hvalidated]
  | deactivate updatedBy =>
    simp only [AggregateCall.Writes, AggregateCall.run, Ended.as,
      UserGroupAggregate.deactivate]
    exact ⟨fun h => by rw [if_neg h], fun h => by rw [if_pos (not_not.mp h)]⟩
  | reactivate updatedBy =>
    simp only [AggregateCall.Writes, AggregateCall.run, Ended.as,
      UserGroupAggregate.reactivate]
    exact ⟨fun h => by rw [if_neg h], fun h => by rw [if_pos (not_not.mp h)]⟩

/-- A call that throws writes nothing. -/
theorem not_writes_of_throws {error : UserGroupError} (h : (call.run a).1 = .error error) :
    ¬call.Writes a := by
  cases call with
  | updateConfiguration props expectedVersion =>
    rintro ⟨checked, hchecked⟩
    simp [AggregateCall.run, Ended.as,
      UserGroupAggregate.updateConfiguration, hchecked, Except.map] at h
  | assignRoles roleIds updatedBy => cases h
  | unassignRoles roleIds updatedBy => cases h
  | replaceRoles targetRoleIds updatedBy => cases h
  | updateScope scopeType scopeRefId updatedBy =>
    rintro ⟨validated, hvalidated⟩
    simp [AggregateCall.run, Ended.as,
      UserGroupAggregate.updateScope, hvalidated, Except.map] at h
  | deactivate updatedBy =>
    intro hwrites
    simp [AggregateCall.run, Ended.as,
      UserGroupAggregate.deactivate, if_neg hwrites, Except.map] at h
  | reactivate updatedBy =>
    intro hwrites
    simp [AggregateCall.run, Ended.as,
      UserGroupAggregate.reactivate, if_neg hwrites, Except.map] at h

/-- Every delta that is returned is the difference of the roles. -/
theorem run_delta {delta : RoleDelta ι} (h : (call.run a).1 = .ok (.roles delta)) :
    DeltaLaw a.assignedRoleIds (call.run a).2.assignedRoleIds delta := by
  cases call with
  | updateConfiguration props expectedVersion => exact absurd h (as_ne_roles nofun)
  | assignRoles roleIds updatedBy =>
    simp only [AggregateCall.run, Ended.as, UserGroupAggregate.assignRoles, Except.map,
      Except.ok.injEq, Answer.roles.injEq] at h
    subst h
    -- with nothing to add, the roles stay as they are
    have hafter : ((AggregateCall.assignRoles roleIds updatedBy).run a).2.assignedRoleIds =
        a.assignedRoleIds ++ (setOf roleIds).filter fun id => id ∉ a.assignedRoleIds := by
      simp only [AggregateCall.run, Ended.as, UserGroupAggregate.assignRoles]
      split
      · rfl
      next hnothing =>
        rw [List.length_eq_zero_iff.mp (Nat.eq_zero_of_not_pos hnothing), List.append_nil]
    refine ⟨fun roleId => ?_, fun roleId hadded => ?_, fun roleId hremoved => ?_⟩
    · rw [hafter, List.mem_append]
      simp only [List.not_mem_nil, not_false_eq_true, and_true]
    · have hnew := List.of_mem_filter hadded
      exact of_decide_eq_true hnew
    · exact absurd hremoved List.not_mem_nil
  | unassignRoles roleIds updatedBy =>
    simp only [AggregateCall.run, Ended.as, UserGroupAggregate.unassignRoles, Except.map,
      Except.ok.injEq, Answer.roles.injEq] at h
    subst h
    have hafter : ((AggregateCall.unassignRoles roleIds updatedBy).run a).2.assignedRoleIds =
        a.assignedRoleIds.filter fun id => id ∉ roleIds := by
      simp only [AggregateCall.run, Ended.as, UserGroupAggregate.unassignRoles]
      split
      · rfl
      next hnothing =>
        refine (List.filter_eq_self.mpr fun roleId hassigned => ?_).symm
        rw [decide_eq_true_eq]
        intro hlisted
        exact hnothing (length_filter_pos.mpr ⟨roleId, hassigned, decide_eq_true hlisted⟩)
    refine ⟨fun roleId => ?_, fun roleId hadded => ?_, fun roleId hremoved => ?_⟩
    · rw [hafter]
      simp only [List.mem_filter, decide_eq_true_eq, List.not_mem_nil, or_false]
      tauto
    · exact absurd hadded List.not_mem_nil
    · exact List.mem_of_mem_filter hremoved
  | replaceRoles targetRoleIds updatedBy =>
    simp only [AggregateCall.run, Ended.as, UserGroupAggregate.replaceRoles, Except.map,
      Except.ok.injEq, Answer.roles.injEq] at h
    subst h
    refine ⟨fun roleId => ?_, fun roleId hadded => ?_, fun roleId hremoved => ?_⟩
    · show roleId ∈ setOf targetRoleIds ↔ _
      simp only [List.mem_filter, decide_eq_true_eq]
      tauto
    · have hnew := List.of_mem_filter hadded
      exact of_decide_eq_true hnew
    · exact List.mem_of_mem_filter hremoved
  | updateScope scopeType scopeRefId updatedBy => exact absurd h (as_ne_roles nofun)
  | deactivate updatedBy => exact absurd h (as_ne_roles nofun)
  | reactivate updatedBy => exact absurd h (as_ne_roles nofun)

/-- The roles after a call: a list that is stored as given, or one without repetitions if the
    list before was. -/
theorem run_roles (a : UserGroupAggregate ι) (call : AggregateCall ι) :
    match call.storedRoleIds with
    | some given => (call.run a).2.assignedRoleIds = given
    | none => a.assignedRoleIds.Nodup → (call.run a).2.assignedRoleIds.Nodup := by
  cases call with
  | updateConfiguration props expectedVersion =>
    simp only [AggregateCall.storedRoleIds, AggregateCall.run, Ended.as,
      UserGroupAggregate.updateConfiguration]
    rcases validateConfiguration props.name props.scopeType props.matchingRule with
      error | checked
    · exact fun h => h
    · rcases props.assignedRoleIds with _ | given
      · exact fun h => h
      · rfl
  | assignRoles roleIds updatedBy =>
    intro h
    simp only [AggregateCall.run, Ended.as, UserGroupAggregate.assignRoles]
    split
    · refine List.nodup_append'.mpr ⟨h, (nodup_setOf roleIds).filter _, fun id hold hadded => ?_⟩
      have hnew := List.of_mem_filter hadded
      exact of_decide_eq_true hnew hold
    · exact h
  | unassignRoles roleIds updatedBy =>
    intro h
    simp only [AggregateCall.run, Ended.as, UserGroupAggregate.unassignRoles]
    split
    · exact h.filter _
    · exact h
  | replaceRoles targetRoleIds updatedBy => exact fun _ => nodup_setOf targetRoleIds
  | updateScope scopeType scopeRefId updatedBy =>
    intro h
    simp only [AggregateCall.run, Ended.as, UserGroupAggregate.updateScope]
    split
    · exact h
    · exact h
  | deactivate updatedBy =>
    intro h
    simp only [AggregateCall.run, Ended.as, UserGroupAggregate.deactivate]
    split
    · exact h
    · exact h
  | reactivate updatedBy =>
    intro h
    simp only [AggregateCall.run, Ended.as, UserGroupAggregate.reactivate]
    split
    · exact h
    · exact h

end Call

-- ============================================================================
-- Runs
-- ============================================================================

/-- How an aggregate is obtained. -/
inductive Origin (ι : Type) where
  | create (props : CreateProps ι)
  | reconstruct (userGroup : UserGroupRecord ι) (currentRoleIds : Option (List ι))

namespace Origin

def aggregate : Origin ι → Except UserGroupError (UserGroupAggregate ι)
  | .create props => UserGroupAggregate.create props
  | .reconstruct userGroup currentRoleIds =>
    .ok (UserGroupAggregate.reconstruct userGroup currentRoleIds)

/-- The role list that the aggregate starts with, as it is given. -/
def givenRoleIds : Origin ι → List ι
  | .create props => props.assignedRoleIds.getD []
  | .reconstruct _ currentRoleIds => currentRoleIds.getD []

theorem assignedRoleIds_eq {origin : Origin ι} {a : UserGroupAggregate ι}
    (h : origin.aggregate = .ok a) : a.assignedRoleIds = origin.givenRoleIds := by
  cases origin with
  | create props =>
    simp only [aggregate, UserGroupAggregate.create] at h
    rcases hchecked : validateConfiguration props.name props.scopeType props.matchingRule with
      error | checked
    · rw [hchecked] at h
      cases h
    · rw [hchecked] at h
      obtain rfl := Except.ok.inj h
      rfl
  | reconstruct userGroup currentRoleIds =>
    obtain rfl := Except.ok.inj h
    rfl

end Origin

variable [DecidableEq ι]

structure Step (ι : Type) where
  before : UserGroupAggregate ι
  call : AggregateCall ι
  answer : Except UserGroupError (Answer ι)
  after : UserGroupAggregate ι

/-- The calls, one after another, whether they throw or not. -/
def steps (a : UserGroupAggregate ι) : List (AggregateCall ι) → List (Step ι)
  | [] => []
  | call :: calls => ⟨a, call, (call.run a).1, (call.run a).2⟩ :: steps (call.run a).2 calls

/-- What the aggregate is to keep in a step. -/
structure Step.Lawful (step : Step ι) : Prop where
  noRepetition : step.after.assignedRoleIds.Nodup
  delta : ∀ delta, step.answer = .ok (.roles delta) →
    DeltaLaw step.before.assignedRoleIds step.after.assignedRoleIds delta
  version : step.after.version = step.before.version + if step.after = step.before then 0 else 1
  thrown : ∀ error, step.answer = .error error → step.after = step.before

/-- The aggregate has no role twice at first, and every step is lawful. -/
def LawfulRun (a : UserGroupAggregate ι) (calls : List (AggregateCall ι)) : Prop :=
  a.assignedRoleIds.Nodup ∧ ∀ step ∈ steps a calls, step.Lawful

/-- All but the repetitions is kept by every call. -/
theorem lawful_of_nodup {a : UserGroupAggregate ι} {call : AggregateCall ι}
    (h : (call.run a).2.assignedRoleIds.Nodup) :
    (⟨a, call, (call.run a).1, (call.run a).2⟩ : Step ι).Lawful := by
  obtain ⟨hwrites, hleaves⟩ := run_writes a call
  refine ⟨h, fun delta hanswer => run_delta hanswer, ?_, fun error hthrown =>
    hleaves (not_writes_of_throws hthrown)⟩
  by_cases hcall : call.Writes a
  · have hversion := hwrites hcall
    have hchanged : (call.run a).2 ≠ a := fun hsame => by
      rw [hsame] at hversion
      omega
    rw [if_neg hchanged]
    exact hversion
  · have hsame := hleaves hcall
    rw [if_pos hsame, Nat.add_zero]
    exact congrArg UserGroupAggregate.version hsame

/-- A run of calls is lawful if no list that it starts with or stores as given has a
    repetition. -/
theorem lawfulRun_iff_stored {a : UserGroupAggregate ι} (calls : List (AggregateCall ι)) :
    LawfulRun a calls ↔
      a.assignedRoleIds.Nodup ∧
        ∀ call ∈ calls, ∀ given, call.storedRoleIds = some given → given.Nodup := by
  refine and_congr_right fun hstart => ?_
  induction calls generalizing a with
  | nil =>
    exact iff_of_true (fun _ hstep => absurd hstep List.not_mem_nil)
      fun _ hcall => absurd hcall List.not_mem_nil
  | cons call calls ih =>
    have hroles := run_roles a call
    rw [steps, List.forall_mem_cons, List.forall_mem_cons]
    constructor
    · rintro ⟨hlawful, hrest⟩
      refine ⟨fun given hgiven => ?_, (ih hlawful.noRepetition).mp hrest⟩
      rw [hgiven] at hroles
      exact hroles ▸ hlawful.noRepetition
    · rintro ⟨hgiven, hrest⟩
      have hafter : (call.run a).2.assignedRoleIds.Nodup := by
        rcases hstored : call.storedRoleIds with _ | given
        · rw [hstored] at hroles
          exact hroles hstart
        · rw [hstored] at hroles
          rw [hroles]
          exact hgiven given hstored
      exact ⟨lawful_of_nodup hafter, (ih hafter).mpr hrest⟩

/-- From `create` or `reconstruct`, through any calls, the aggregate keeps its laws exactly if
    the lists that are stored as given have no repetition. -/
theorem aggregate_lawful_iff {origin : Origin ι} {a : UserGroupAggregate ι}
    (h : origin.aggregate = .ok a) (calls : List (AggregateCall ι)) :
    LawfulRun a calls ↔
      origin.givenRoleIds.Nodup ∧
        ∀ call ∈ calls, ∀ given, call.storedRoleIds = some given → given.Nodup := by
  rw [lawfulRun_iff_stored, Origin.assignedRoleIds_eq h]

def reviewersProps (assignedRoleIds : List String) : CreateProps String where
  tenantCode := "acme"
  name := "Reviewers"
  scopeType := "SELF"
  matchingRule := sampleRule
  assignedRoleIds := some assignedRoleIds

def reviewers (assignedRoleIds : List String) : UserGroupAggregate String where
  id := none
  tenantCode := "acme"
  name := "Reviewers"
  description := .undefined
  status := .ACTIVE
  scopeType := .SELF
  scopeRefId := .undefined
  matchingRule := some sampleRule
  ruleAttributeKeys := ["departmentId"]
  version := 1
  projectionVersion := 0
  assignedRoleIds := assignedRoleIds
  createdBy := none
  updatedBy := none

theorem create_reviewers (assignedRoleIds : List String) :
    (Origin.create (reviewersProps assignedRoleIds)).aggregate =
      .ok (reviewers assignedRoleIds) := by
  have hchecked : validateConfiguration "Reviewers" "SELF" sampleRule =
      .ok (.SELF, ["departmentId"]) := by decide +kernel
  simp only [Origin.aggregate, UserGroupAggregate.create, reviewersProps, hchecked]
  rfl

/-- Roles are assigned, one of them twice in the list, and the group is deactivated twice. -/
theorem aggregate_lawful_reviewers :
    LawfulRun (reviewers ["r1"])
        [.assignRoles ["r1", "r2", "r2"] none, .deactivate none, .deactivate none] ↔
      (Origin.create (reviewersProps ["r1"])).givenRoleIds.Nodup ∧
        ∀ call ∈ [AggregateCall.assignRoles ["r1", "r2", "r2"] none, .deactivate none,
          .deactivate none], ∀ given, call.storedRoleIds = some given → given.Nodup :=
  aggregate_lawful_iff (create_reviewers ["r1"]) _

/-- The list that `create` gets has a role twice, and so has the aggregate. -/
theorem create_keeps_repetition :
    (Origin.create (reviewersProps ["r1", "r1"])).aggregate = .ok (reviewers ["r1", "r1"]) ∧
      ¬LawfulRun (reviewers ["r1", "r1"]) [] :=
  ⟨create_reviewers ["r1", "r1"], fun h => absurd h.1 (by decide)⟩

-- ============================================================================
-- The group services' part of the aggregate
-- ============================================================================

/-- What the services that edit a group read of the aggregate. -/
def UserGroupAggregate.edited (a : UserGroupAggregate Uuid) : UserGroups.UserGroupAggregate where
  status := a.status
  scopeType := a.scopeType
  scopeRefId := a.scopeRefId
  version := a.version
  assignedRoleIds := a.assignedRoleIds
  updatedBy := a.updatedBy

/-- A service that meets an error goes no further. -/
def Ended.edited {α : Type} (ended : Ended Uuid α) :
    Except UserGroupError UserGroups.UserGroupAggregate :=
  ended.1.map fun _ => ended.2.edited

theorem edited_replaceRoles (a : UserGroupAggregate Uuid) (targetRoleIds : List Uuid)
    (updatedBy : Option Uuid) :
    (a.replaceRoles targetRoleIds updatedBy).edited =
      .ok (a.edited.replaceRoles targetRoleIds updatedBy).1 := rfl

theorem edited_updateScope (a : UserGroupAggregate Uuid) (scopeType : String)
    (scopeRefId : Option String) (updatedBy : Option Uuid) :
    (a.updateScope scopeType scopeRefId updatedBy).edited =
      a.edited.updateScope scopeType scopeRefId updatedBy := by
  unfold UserGroupAggregate.updateScope UserGroups.UserGroupAggregate.updateScope
  rcases UserGroupScopeValidator.validate scopeType scopeRefId with error | validated
  · rfl
  · rfl

theorem edited_deactivate (a : UserGroupAggregate Uuid) (updatedBy : Option Uuid) :
    (a.deactivate updatedBy).edited = a.edited.deactivate updatedBy := by
  unfold UserGroupAggregate.deactivate UserGroups.UserGroupAggregate.deactivate
  show _ = if a.status = .INACTIVE then _ else _
  split
  · rfl
  · rfl

theorem edited_reactivate (a : UserGroupAggregate Uuid) (updatedBy : Option Uuid) :
    (a.reactivate updatedBy).edited = a.edited.reactivate updatedBy := by
  unfold UserGroupAggregate.reactivate UserGroups.UserGroupAggregate.reactivate
  show _ = if a.status = .ACTIVE then _ else _
  split
  · rfl
  · rfl

end AccessService.UserGroups.Domain
