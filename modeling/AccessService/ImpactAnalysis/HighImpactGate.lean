/-
  AccessService.ImpactAnalysis.HighImpactGate

  The gate before the changes of groups and roles: without `confirmed`, what is persisted
  affects fewer users than the threshold, and a request that has to be confirmed first
  stores nothing.

  The estimates count rows that are stored: the members of the group, or the users who have
  the role.  So the gate holds of a request exactly if fewer users than the threshold are
  affected wherever such an estimate lets it through, and a new rule may select any number.
  A role that no group has is deactivated without affecting anybody.
-/

import AccessService.ImpactAnalysis.GroupMutations
import AccessService.ImpactAnalysis.RoleMutations

namespace AccessService.ImpactAnalysis

open AccessService.Employee AccessService.Js AccessService.Lib AccessService.Pg
open AccessService.Persistence
open AccessService.Roles (StoredRole RoleRequest RoleStore Accepted)
open AccessService.UserGroups AccessService.UserGroups.Administration
open AccessService.UserGroups.UserGroupMatchingEngine

-- ============================================================================
-- The gate
-- ============================================================================

/-- What the gate promises of a request. -/
structure HighImpactGate (ctx : AccessContext) (s : AccessStore) (m : Mutation) : Prop where
  belowThreshold : (m.run ctx s).1 = .persisted →
    (AccessStore.affected ctx.columns s (m.run ctx s).2).encard < HIGH_IMPACT_THRESHOLD
  nothingStored : (m.run ctx s).1 = .confirmationRequired → (m.run ctx s).2 = s

/-- The group is made what `asked` says, and that affects fewer users than the threshold. -/
def AccessStore.GroupStaysBelow (ctx : AccessContext) (s : AccessStore) (row : UserGroupRow)
    (asked : GroupConfiguration) : Prop :=
  ((s.configurationOf row.toUserGroup).reach ctx.columns s.database asked).encard <
    HIGH_IMPACT_THRESHOLD

/-- The role is changed as the request asks, and that affects fewer users than the
    threshold. -/
def AccessStore.RoleStaysBelow (ctx : AccessContext) (s : AccessStore) (request : RoleRequest)
    (role : StoredRole) : Prop :=
  {u | u ∈ holders ctx.columns s role ∧ permitted role ≠ permittedAfter request role}.encard <
    HIGH_IMPACT_THRESHOLD

/-- A request that gets through its checks, the one for a confirmation included, affects
    fewer users than the threshold, as told from the state before it. -/
def Mutation.StaysBelow (ctx : AccessContext) (s : AccessStore) : Mutation → Prop
  | updateById id dto expectedVersion => ∀ row,
      PassesUpdate ctx.groupContext s.administration id dto expectedVersion row →
        s.GroupStaysBelow ctx row (.afterUpdate row dto)
  | deactivate id expectedVersion confirmed => ∀ row,
      PassesDeactivation ctx.groupContext s.administration id expectedVersion confirmed row →
        s.GroupStaysBelow ctx row (.afterDeactivation s row)
  | updateRoleAssignments userGroupId dto => ∀ row,
      AcceptedRoles ctx.groupContext s.administration userGroupId dto row →
        s.GroupStaysBelow ctx row (.afterAssignments s row dto)
  | updateScope id dto => ∀ row validated,
      PassesScope ctx.groupContext s.administration id dto row validated →
        s.GroupStaysBelow ctx row (.afterScope s row validated)
  | updateCustom id dto => ∀ role, PassesCustom ctx.toRoleContext s.roleStore id dto role →
      s.RoleStaysBelow ctx (.updateCustom dto) role
  | updatePermissions id dto => ∀ role, Accepted ctx.toRoleContext s.roleStore id dto role →
      s.RoleStaysBelow ctx (.updatePermissions dto) role
  | deactivateRole _ _ => True

-- ============================================================================
-- Requests whose effect is known
-- ============================================================================

/-- Whether a request is persisted, and whom it then affects, is told from the state before
    it. -/
structure Determined {ι : Type} (ctx : AccessContext) (s : AccessStore) (m : Mutation)
    (passes : ι → Prop) (reach : ι → Set Uuid) : Prop where
  passed : (m.run ctx s).1 = .persisted → ∃ i, passes i
  persisted : ∀ i, passes i → (m.run ctx s).1 ≠ .queryFailed →
    (m.run ctx s).1 = .persisted ∧
      AccessStore.affected ctx.columns s (m.run ctx s).2 = reach i
  unchanged : (m.run ctx s).1 = .confirmationRequired → (m.run ctx s).2 = s

variable {ctx : AccessContext} {s : AccessStore} {m : Mutation}

theorem Determined.gate_iff {ι : Type} {passes : ι → Prop} {reach : ι → Set Uuid}
    (h : Determined ctx s m passes reach) (hquery : (m.run ctx s).1 ≠ .queryFailed) :
    HighImpactGate ctx s m ↔ ∀ i, passes i → (reach i).encard < HIGH_IMPACT_THRESHOLD := by
  constructor
  · intro hgate i hi
    obtain ⟨hpersisted, haffected⟩ := h.persisted i hi hquery
    rw [← haffected]
    exact hgate.belowThreshold hpersisted
  · intro hbelow
    refine ⟨fun hpersisted => ?_, h.unchanged⟩
    obtain ⟨i, hi⟩ := h.passed hpersisted
    obtain ⟨-, haffected⟩ := h.persisted i hi hquery
    rw [haffected]
    exact hbelow i hi

/-- The changes of a group. -/
theorem determined_of_makes {α ι : Type} {passes : ι → Prop} (id : Uuid)
    (row : ι → UserGroupRow) {asked : ι → GroupConfiguration}
    {run : Except UserGroupError (α × AccessStore)} (hrun : m.run ctx s = s.ended run)
    (hpasses : ∀ a, run = .ok a → ∃ i, passes i)
    (hmakes : ∀ i, passes i → Makes ctx.groupContext s id (row i) (asked i) run) :
    Determined ctx s m passes fun i =>
      (s.configurationOf (row i).toUserGroup).reach ctx.columns s.database (asked i) := by
  constructor
  · intro hpersisted
    rw [hrun] at hpersisted
    obtain ⟨a, s', hok⟩ := ended_persisted hpersisted
    exact hpasses _ hok
  · intro i hi hquery
    rw [hrun] at hquery ⊢
    exact (hmakes i hi).persisted hquery
  · intro hverdict
    rw [hrun] at hverdict ⊢
    refine ended_store ?_
    rw [hverdict]
    nofun

theorem inStore_ok {α : Type} {run : Except UserGroupError (α × GroupStore)}
    {a : α × AccessStore} (h : s.inStore run = .ok a) : ∃ b, run = .ok b := by
  obtain ⟨b, hb, -⟩ := Sql.map_eq_ok.mp h
  exact ⟨b, hb⟩

/-- The changes of a role. -/
theorem determined_of_makesRole {passes : StoredRole → Prop} {request : RoleRequest}
    {run : Roles.RoleService Roles.RoleOutcome} (hrun : m.run ctx s = s.runRole run)
    (hreturns : Returns s.roleStore passes run)
    (hmakes : ∀ role, passes role →
      MakesRole s.roleStore role (permittedAfter request role) run) :
    Determined ctx s m passes fun role =>
      {u | u ∈ holders ctx.columns s role ∧ permitted role ≠ permittedAfter request role} := by
  constructor
  · intro hpersisted
    rw [hrun] at hpersisted
    exact hreturns.persisted hpersisted
  · intro role hrole hquery
    rw [hrun] at hquery ⊢
    exact (hmakes role hrole).persisted hquery
  · intro hverdict
    rw [hrun] at hverdict ⊢
    exact hreturns.unchanged (fun role hrole => ⟨_, hmakes role hrole⟩) hverdict

theorem updateById_determined {id : Uuid} {dto : UpdateUserGroupDto} {expectedVersion : Int} :
    Determined ctx s (.updateById id dto expectedVersion)
      (PassesUpdate ctx.groupContext s.administration id dto expectedVersion) fun row =>
        (s.configurationOf row.toUserGroup).reach ctx.columns s.database
          (.afterUpdate row dto) := by
  refine determined_of_makes id (fun row => row) rfl (fun a h => ?_)
    fun row hrow => updateById_makes hrow
  obtain ⟨b, hb⟩ := inStore_ok h
  exact updateById_passes hb

theorem deactivate_determined {id : Uuid} {expectedVersion : Int} {confirmed : Bool} :
    Determined ctx s (.deactivate id expectedVersion confirmed)
      (PassesDeactivation ctx.groupContext s.administration id expectedVersion confirmed)
      fun row => (s.configurationOf row.toUserGroup).reach ctx.columns s.database
        (.afterDeactivation s row) :=
  determined_of_makes id (fun row => row) rfl
    (fun _ h => deactivate_passes h) fun _ hrow => deactivate_makes hrow

theorem updateRoleAssignments_determined {id : Uuid} {dto : UpdateUserGroupRolesDto} :
    Determined ctx s (.updateRoleAssignments id dto)
      (AcceptedRoles ctx.groupContext s.administration id dto) fun row =>
        (s.configurationOf row.toUserGroup).reach ctx.columns s.database
          (.afterAssignments s row dto) := by
  refine determined_of_makes id (fun row => row) rfl (fun a h => ?_)
    fun row hrow => updateRoleAssignments_makes hrow
  obtain ⟨⟨roles, s'⟩, hb⟩ := inStore_ok h
  obtain ⟨row, -, hrow, -⟩ := updateRoleAssignments_eq_ok.mp ⟨roles, hb⟩
  exact ⟨row, hrow⟩

theorem updateScope_determined {id : Uuid} {dto : UpdateUserGroupScopeDto} :
    Determined ctx s (.updateScope id dto)
      (fun i : UserGroupRow × ValidatedScopeResult =>
        PassesScope ctx.groupContext s.administration id dto i.1 i.2) fun i =>
        (s.configurationOf i.1.toUserGroup).reach ctx.columns s.database
          (.afterScope s i.1 i.2) := by
  refine determined_of_makes id Prod.fst rfl (fun a h => ?_)
    fun i hi => updateScope_makes hi
  obtain ⟨b, hb⟩ := inStore_ok h
  obtain ⟨row, validated, hpasses⟩ := updateScope_passes hb
  exact ⟨(row, validated), hpasses⟩

-- ============================================================================
-- A role that no group has
-- ============================================================================

theorem eraseDups_eq_nil {α : Type} [DecidableEq α] {l : List α} (h : l.eraseDups.length = 0) :
    l = [] := by
  cases l with
  | nil => rfl
  | cons a l =>
    rw [List.eraseDups_cons] at h
    cases h

/-- Nobody has a role that is assigned to no group. -/
theorem holders_of_unassigned {role : StoredRole}
    (h : s.roleStore.countAssignedUserGroups role.row.tenantCode role.id = 0) :
    holders ctx.columns s role = ∅ := by
  refine Set.eq_empty_of_forall_notMem ?_
  rintro u ⟨g, -, htenant, -, hrole, -⟩
  have hnone := List.map_eq_nil_iff.mp (eraseDups_eq_nil h)
  have hassigned : (⟨g.tenantCode, g.id, role.id⟩ : UserGroupRole) ∈
      s.roleStore.base.db.groupRoles.rows := hrole
  have hkeys := List.filter_eq_nil_iff.mp hnone _ hassigned
  simp [htenant] at hkeys

/-- Unconfirmed, a role is deactivated only where it is assigned to no group. -/
theorem deactivateRole_affects_nobody {id : Uuid} {dto : Roles.DeactivateRoleDto}
    {role : StoredRole} (hunconfirmed : (Mutation.deactivateRole id dto).confirmed = false)
    (h : PassesRoleDeactivation ctx.toRoleContext s.roleStore id dto role) :
    {u | u ∈ holders ctx.columns s role ∧
      permitted role ≠ permittedAfter (.deactivate dto) role} = ∅ := by
  obtain ⟨-, htenant, hid⟩ := Roles.RoleStore.role_eq_some.mp h.found
  have hcount : s.roleStore.countAssignedUserGroups role.row.tenantCode role.id = 0 := by
    rw [htenant, hid]
    by_contra hne
    exact h.confirmed ⟨Nat.pos_of_ne_zero hne, of_decide_eq_false hunconfirmed⟩
  rw [holders_of_unassigned hcount]
  exact Set.eq_empty_of_forall_notMem fun u hu => hu.1

-- ============================================================================
-- All seven
-- ============================================================================

/-- Where no query fails, the gate holds of an unconfirmed request exactly if the request,
    should it get through its checks, affects fewer users than the threshold. -/
theorem highImpactGate_iff (hunconfirmed : m.confirmed = false)
    (hquery : (m.run ctx s).1 ≠ .queryFailed) :
    HighImpactGate ctx s m ↔ m.StaysBelow ctx s := by
  cases m with
  | updateById id dto expectedVersion => exact updateById_determined.gate_iff hquery
  | deactivate id expectedVersion confirmed => exact deactivate_determined.gate_iff hquery
  | updateRoleAssignments userGroupId dto =>
    exact updateRoleAssignments_determined.gate_iff hquery
  | updateScope id dto =>
    rw [updateScope_determined.gate_iff hquery]
    exact Prod.forall
  | updateCustom id dto =>
    exact (determined_of_makesRole rfl updateCustom_returns fun _ hrole =>
      updateCustom_makes hrole).gate_iff hquery
  | updatePermissions id dto =>
    exact (determined_of_makesRole rfl updatePermissions_returns fun _ hrole =>
      updatePermissions_makes hrole).gate_iff hquery
  | deactivateRole id dto =>
    refine iff_of_true ?_ trivial
    rw [(determined_of_makesRole rfl deactivateRole_returns fun _ hrole =>
      deactivateRole_makes hrole).gate_iff hquery]
    intro role hrole
    rw [deactivateRole_affects_nobody hunconfirmed hrole, Set.encard_empty]
    exact ENat.natCast_lt_natCast.mpr (by decide)

-- ============================================================================
-- A rule that selects a hundred employees
-- ============================================================================

def crowdStem : List Char := "5eed0000-0000-4000-8000-0000000000".toList

/-- Two decimal digits. -/
def digits (n : Fin 100) : List Char := [Char.ofNat (48 + n / 10), Char.ofNat (48 + n % 10)]

theorem digits_isUuid : ∀ n, ((digits n).zipIdx 34).all (fun (c, i) => isUuidChar i c) = true := by
  decide +kernel

theorem digits_injective : Function.Injective digits := by
  intro m n h
  have hread : ∀ n : Fin 100,
      (digits n).foldl (fun k c => 10 * k + (c.toNat - 48)) 0 = n.val := by decide +kernel
  refine Fin.ext ?_
  rw [← hread m, h, hread n]

def crowdId (n : Fin 100) : Uuid where
  text := String.ofList (crowdStem ++ digits n)
  isUuid := by
    have hstem : crowdStem.length = 34 ∧
        crowdStem.zipIdx.all (fun (c, i) => isUuidChar i c) = true := by decide +kernel
    rw [isUuidText, String.toList_ofList, List.zipIdx_append, List.all_append, hstem.1, hstem.2,
      digits_isUuid, List.length_append, hstem.1]
    rfl

theorem crowdId_injective : Function.Injective crowdId := by
  intro m n h
  have htext := String.ofList_injective (congrArg Uuid.text h)
  exact digits_injective (List.append_cancel_left htext)

def crowdMember (n : Fin 100) : EmployeeReference where
  id := crowdId n
  tenantCode := "acme"
  employeeCode := "S" ++ toString n
  departmentId := some "support"
  status := "ACTIVE"

def crowd : Keyed EmployeeReference EmployeeReference.id where
  rows := (List.finRange 100).map crowdMember
  nodup := by
    rw [List.map_map]
    exact (List.nodup_finRange 100).map crowdId_injective

/-- The group Staff has no members, and its rule selects none of the hundred. -/
def crowdStore : AccessStore where
  administration := staffStore
  base := { db := { Database.empty with employees := crowd } }

def acmeAccess : AccessContext where
  tenantCode := "acme"
  graph := Permissions.PermissionGraphBuilder.buildGraph []
  columns := acme.columns

def supportRule : MatchingRule where
  clauses := [{ «attribute» := "departmentId", operator := "equals", value := .str "support" }]

/-- The deactivation of a group without members needs no confirmation. -/
theorem highImpactGate_iff_staff :
    HighImpactGate acmeAccess crowdStore (.deactivate sampleGroupId 1 false) ↔
      (Mutation.deactivate sampleGroupId 1 false).StaysBelow acmeAccess crowdStore :=
  highImpactGate_iff rfl (by decide +kernel)

/-- It comes without a confirmation. -/
def staffFromSupport : UpdateUserGroupDto where
  name := "Staff"
  scopeType := .SELF
  matchingRule := supportRule

theorem crowd_selected (n : Fin 100) :
    (buildMatchingQuery "acme" supportRule).Selects acme.columns (crowdMember n) :=
  of_decide_eq_true rfl

theorem staffFromSupport_persisted :
    ((Mutation.updateById sampleGroupId staffFromSupport 1).run acmeAccess crowdStore).1 =
      .persisted := by
  decide +kernel

theorem crowd_not_selected (n : Fin 100) :
    ¬(buildMatchingQuery "acme" sampleRule).Selects acme.columns (crowdMember n) :=
  of_decide_eq_false rfl

def staffRow : UserGroupRow := { sampleUserGroup with name := "Staff" }

/-- All of the hundred become members. -/
theorem crowd_reached (n : Fin 100) :
    crowdId n ∈ (crowdStore.configurationOf staffRow.toUserGroup).reach acmeAccess.columns
      crowdStore.database (.afterUpdate staffRow staffFromSupport) := by
  refine .inl fun hsame => ?_
  have hafter : crowdId n ∈ population acmeAccess.columns crowdStore.database
      (GroupConfiguration.afterUpdate staffRow staffFromSupport).group :=
    Database.mem_matchedEmployeeIds.mpr
      ⟨crowdMember n, List.mem_map_of_mem (List.mem_finRange n), crowd_selected n, rfl⟩
  obtain ⟨e, he, hselected, -⟩ := Database.mem_matchedEmployeeIds.mp (hsame.mpr hafter)
  obtain ⟨k, -, rfl⟩ := List.mem_map.mp he
  exact crowd_not_selected k hselected

/-- A hundred employees are given the group's role, and nobody has confirmed it. -/
theorem not_highImpactGate :
    ¬∀ (ctx : AccessContext) (s : AccessStore) (m : Mutation), m.confirmed = false →
      (m.run ctx s).1 ≠ .queryFailed → HighImpactGate ctx s m := by
  intro h
  have hpersisted := staffFromSupport_persisted
  have hquery : ((Mutation.updateById sampleGroupId staffFromSupport 1).run acmeAccess
      crowdStore).1 ≠ .queryFailed := by
    rw [hpersisted]
    nofun
  have hbelow := (h acmeAccess crowdStore _ rfl hquery).belowThreshold hpersisted
  obtain ⟨row, hrow⟩ := updateById_determined.passed hpersisted
  obtain rfl : row = staffRow := List.mem_singleton.mp (GroupStore.group_eq_some.mp hrow.found).1
  obtain ⟨-, haffected⟩ := updateById_determined.persisted staffRow hrow hquery
  rw [haffected] at hbelow
  have hcount : (100 : ℕ∞) ≤ ((crowdStore.configurationOf staffRow.toUserGroup).reach
      acmeAccess.columns crowdStore.database (.afterUpdate staffRow staffFromSupport)).encard := by
    have hrange : (Set.range crowdId).encard = 100 := by
      rw [← Set.image_univ, crowdId_injective.encard_image, Set.encard_univ,
        ENat.card_eq_coe_fintype_card, Fintype.card_fin]
      rfl
    rw [← hrange]
    refine Set.encard_le_encard ?_
    rintro u ⟨n, rfl⟩
    exact crowd_reached n
  exact absurd hcount (not_le_of_gt hbelow)

end AccessService.ImpactAnalysis
