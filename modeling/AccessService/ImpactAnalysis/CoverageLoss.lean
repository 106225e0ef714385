/-
  AccessService.ImpactAnalysis.CoverageLoss

  Whether a preview tells that a change takes the ADMINISTRATOR role from its last ACTIVE
  holder.  The check does not look at the change, only at whose row names the role and by
  which group, and it counts the users whatever their status: it is right exactly where these
  two make no difference (`tellsCoverageLoss_iff`).
-/

import AccessService.ImpactAnalysis.ImpactPreviews
import AccessService.Permissions.PermissionGraph
import Mathlib.Data.Set.Card

namespace AccessService.ImpactAnalysis

open AccessService.Js AccessService.Lib AccessService.Pg AccessService.Persistence
open AccessService.Roles (RoleStatus StoredRole)
open AccessService.UserGroups AccessService.UserGroups.Administration
open AccessService.UserGroups.UserGroupMatchingEngine

-- ============================================================================
-- Counting
-- ============================================================================

theorem nodup_eraseDups {α : Type} [DecidableEq α] (l : List α) : l.eraseDups.Nodup := by
  induction hn : l.length using Nat.strong_induction_on generalizing l with
  | _ n ih =>
    cases l with
    | nil => simp
    | cons a l =>
      rw [List.eraseDups_cons, List.nodup_cons]
      have hshorter : (l.filter fun b => !b == a).length < n := by
        rw [← hn]
        exact Nat.lt_succ_of_le (List.length_filter_le _ l)
      refine ⟨fun hmem => ?_, ih _ hshorter _ rfl⟩
      have hne := (List.mem_filter.mp (List.mem_eraseDups.mp hmem)).2
      simp at hne

/-- `COUNT(DISTINCT ..)` counts what occurs. -/
theorem length_eraseDups {α : Type} [DecidableEq α] {l : List α} {A : Set α}
    (h : ∀ a, a ∈ A ↔ a ∈ l) : l.eraseDups.length = A.ncard := by
  have hA : A = (l.eraseDups.toFinset : Set α) := by
    ext a
    rw [h, Finset.mem_coe, List.mem_toFinset, List.mem_eraseDups]
  rw [hA, Set.ncard_coe_finset, List.toFinset_card_of_nodup (nodup_eraseDups l)]

theorem finite_of_list {α : Type} {l : List α} {A : Set α} (h : ∀ a, a ∈ A ↔ a ∈ l) :
    A.Finite :=
  l.finite_toSet.subset fun a ha => (h a).mp ha

-- ============================================================================
-- Holders
-- ============================================================================

namespace AccessStore

def activeUsers (s : AccessStore) (tenantCode : String) : Set Uuid :=
  {u | ∃ user ∈ s.base.db.users.rows, user.id = u ∧ user.tenantCode = tenantCode ∧
    user.status = .ACTIVE}

/-- The users of the role's effective rows from these groups. -/
def holdersFrom (s : AccessStore) (tenantCode : String) (roleId : Uuid) (groups : Set Uuid) :
    Set Uuid :=
  {u | ∃ r ∈ s.base.db.effectiveRoles.rows, r.2.tenantCode = tenantCode ∧
    r.2.roleId = roleId ∧ r.2.sourceGroupId ∈ groups ∧ r.2.userId = u}

variable {s : AccessStore} {tenantCode : String} {roleId groupId : Uuid}

theorem mem_usersOfRole {also : UserEffectiveRole → Bool} {groups : Set Uuid}
    (halso : ∀ r, also r = true ↔ r.sourceGroupId ∈ groups) (u : Uuid) :
    u ∈ s.holdersFrom tenantCode roleId groups ↔ u ∈ s.usersOfRole tenantCode roleId also := by
  simp [holdersFrom, usersOfRole, halso, and_assoc]

theorem finite_holdersFrom (groups : Set Uuid) :
    (s.holdersFrom tenantCode roleId groups).Finite := by
  classical
  have halso : ∀ r : UserEffectiveRole, decide (r.sourceGroupId ∈ groups) = true ↔
      r.sourceGroupId ∈ groups := fun _ => decide_eq_true_iff
  exact finite_of_list (mem_usersOfRole halso)

theorem countActiveHoldersByRoleId_eq :
    s.countActiveHoldersByRoleId tenantCode roleId =
      (s.holdersFrom tenantCode roleId Set.univ).ncard :=
  length_eraseDups (mem_usersOfRole fun _ => by simp)

theorem countActiveHoldersExcludingSourceGroup_eq :
    s.countActiveHoldersExcludingSourceGroup tenantCode roleId groupId =
      (s.holdersFrom tenantCode roleId {groupId}ᶜ).ncard :=
  length_eraseDups (mem_usersOfRole fun _ => by simp)

end AccessStore

-- ============================================================================
-- Proposed changes
-- ============================================================================

inductive Proposal where
  | role (roleId : Uuid) (dto : PreviewRoleImpactDto)
  | userGroup (userGroupId : Uuid) (dto : PreviewUserGroupImpactDto)

def Proposal.preview (ctx : AccessContext) (s : AccessStore) (threshold : Nat) :
    Proposal → Except UserGroupError ImpactAnalysisResult
  | role roleId dto => ImpactAnalysisService.previewRoleImpact ctx s roleId dto threshold
  | userGroup userGroupId dto =>
    ImpactAnalysisService.previewUserGroupImpact ctx s userGroupId dto threshold

/-- The group as it is asked for; without a new rule it keeps the members it has. -/
def PreviewUserGroupImpactDto.configuration (dto : PreviewUserGroupImpactDto)
    (c : GroupConfiguration) : GroupConfiguration where
  group := { c.group with
    status := dto.status.getD c.group.status
    matchingRule := dto.matchingRule }
  roles := (dto.roleIds.map fun ids => {id | id ∈ ids}).getD c.roles

/-- Nothing changes in whom the group gives its roles to. -/
def PreviewUserGroupImpactDto.leaves (dto : PreviewUserGroupImpactDto) (g : UserGroup) : Prop :=
  dto.matchingRule = none ∧ dto.roleIds = none ∧
    (dto.status = none ∨ (dto.status = some .ACTIVE ∧ g.status = .ACTIVE))

/-- Who has the role from the group once the change is applied. -/
def AccessStore.grantedAfter (ctx : AccessContext) (s : AccessStore) (roleId : Uuid)
    (g : UserGroup) (dto : PreviewUserGroupImpactDto) : Set Uuid :=
  let asked := dto.configuration (s.configurationOf g)
  {u | (dto.leaves g ∧ u ∈ s.holdersFrom ctx.tenantCode roleId {g.id}) ∨
    (¬ dto.leaves g ∧ asked.group.status = .ACTIVE ∧ roleId ∈ asked.roles ∧
      u ∈ population ctx.columns s.database asked.group)}

/-- The ADMINISTRATOR role of the tenant (`uq_roles_tenant_system_role_key`). -/
structure IsAdministrator (ctx : AccessContext) (s : AccessStore) (admin : StoredRole) : Prop where
  stored : admin ∈ s.administration.tables.roles.rows
  tenantCode : admin.row.tenantCode = ctx.tenantCode
  systemRoleKey : admin.row.systemRoleKey = some .ADMINISTRATOR
  unique : ∀ role ∈ s.administration.tables.roles.rows, role.row.tenantCode = ctx.tenantCode →
    role.row.systemRoleKey = some .ADMINISTRATOR → role = admin

namespace Proposal

/-- The status of the role once the change is applied. -/
def statusAfter (admin : StoredRole) : Proposal → RoleStatus
  | role roleId dto =>
    if roleId = admin.id then dto.status.getD admin.row.status else admin.row.status
  | userGroup _ _ => admin.row.status

/-- Whom the effective rows name for the role once the change is applied. -/
def namedAfter (ctx : AccessContext) (s : AccessStore) (admin : StoredRole) : Proposal → Set Uuid
  | role _ _ => s.holdersFrom ctx.tenantCode admin.id Set.univ
  | userGroup userGroupId dto =>
    s.holdersFrom ctx.tenantCode admin.id {userGroupId}ᶜ ∪
      {u | ∃ row, s.administration.group ctx.tenantCode userGroupId = some row ∧
        u ∈ s.grantedAfter ctx admin.id row.toUserGroup dto}

end Proposal

/-- The ACTIVE users that hold the role, where the rows name `named` for it. -/
def holding (ctx : AccessContext) (s : AccessStore) (status : RoleStatus) (named : Set Uuid) :
    Set Uuid :=
  {u | status = .ACTIVE ∧ u ∈ named ∧ u ∈ s.activeUsers ctx.tenantCode}

def holdersBefore (ctx : AccessContext) (s : AccessStore) (admin : StoredRole) : Set Uuid :=
  holding ctx s admin.row.status (s.holdersFrom ctx.tenantCode admin.id Set.univ)

def Proposal.holdersAfter (ctx : AccessContext) (s : AccessStore) (admin : StoredRole)
    (proposal : Proposal) : Set Uuid :=
  holding ctx s (proposal.statusAfter admin) (proposal.namedAfter ctx s admin)

/-- There is a critical warning just where the last holder is lost, and its numbers are those
    of the holders. -/
structure TellsCoverageLoss (before after : Set Uuid)
    (coverageLoss : Option CoverageLossWarning) : Prop where
  warned : (∃ warning ∈ coverageLoss, warning.isCriticalLoss = true) ↔
    before.Nonempty ∧ after = ∅
  counted : ∀ warning ∈ coverageLoss, warning.priorHoldersCount = before.ncard ∧
    warning.projectedHoldersCount = after.ncard

/-- Where the check sees a loss, the change is one and takes the role from ACTIVE users only;
    where it sees none because of rows from other groups, an ACTIVE user keeps the role. -/
def Proposal.Foreseen (ctx : AccessContext) (s : AccessStore) (admin : StoredRole) :
    Proposal → Prop
  | role roleId dto =>
    roleId = admin.id → (s.holdersFrom ctx.tenantCode admin.id Set.univ).Nonempty →
      dto.status = some .INACTIVE ∧
        s.holdersFrom ctx.tenantCode admin.id Set.univ ⊆ s.activeUsers ctx.tenantCode
  | userGroup userGroupId dto => ∀ row,
      s.administration.group ctx.tenantCode userGroupId = some row →
    let named := s.holdersFrom ctx.tenantCode admin.id Set.univ
    let elsewhere := s.holdersFrom ctx.tenantCode admin.id {userGroupId}ᶜ
    let granted := s.grantedAfter ctx admin.id row.toUserGroup dto
    let active := s.activeUsers ctx.tenantCode
    (elsewhere = ∅ → named.Nonempty → named ⊆ active ∧ granted ∩ active = ∅) ∧
      (elsewhere.Nonempty → (named ∩ active).Nonempty →
        (elsewhere ∩ active).Nonempty ∨ (granted ∩ active).Nonempty)

-- ============================================================================
-- What a warning tells
-- ============================================================================

theorem tells_none_iff {before after : Set Uuid} :
    TellsCoverageLoss before after none ↔ (before.Nonempty → after.Nonempty) := by
  constructor
  · intro h hbefore
    rw [Set.nonempty_iff_ne_empty]
    intro hafter
    obtain ⟨warning, hwarning, -⟩ := h.warned.mpr ⟨hbefore, hafter⟩
    cases hwarning
  · intro h
    refine ⟨⟨?_, ?_⟩, nofun⟩
    · rintro ⟨_, hwarning, -⟩
      cases hwarning
    · rintro ⟨hbefore, hafter⟩
      exact absurd hafter (h hbefore).ne_empty

/-- A warning that counts all the users named is right if these are all ACTIVE, and nobody is
    left. -/
theorem tells_some_iff {named active after : Set Uuid} {code : String} (hfinite : named.Finite)
    (hnamed : named.Nonempty) :
    TellsCoverageLoss (named ∩ active) after (some ⟨code, named.ncard, 0, true⟩) ↔
      named ⊆ active ∧ after = ∅ := by
  constructor
  · intro h
    have hafter := (h.warned.mp ⟨_, rfl, rfl⟩).2
    have hcount : named.ncard = (named ∩ active).ncard := (h.counted _ rfl).1
    have hsame := Set.eq_of_subset_of_ncard_le Set.inter_subset_left hcount.le hfinite
    exact ⟨Set.inter_eq_left.mp hsame, hafter⟩
  · rintro ⟨hactive, rfl⟩
    rw [Set.inter_eq_left.mpr hactive]
    refine ⟨iff_of_true ⟨_, rfl, rfl⟩ ⟨hnamed, rfl⟩, ?_⟩
    rintro warning ⟨⟩
    exact ⟨rfl, (Set.ncard_empty Uuid).symm⟩

-- ============================================================================
-- The check
-- ============================================================================

variable {ctx : AccessContext} {s : AccessStore} {admin : StoredRole}

theorem findSome?_of_all_eq {α β : Type} {f : α → Option β} {a : α} {l : List α}
    (h : ∀ x ∈ l, x = a) (hne : l ≠ []) : l.findSome? f = f a := by
  induction l with
  | nil => exact absurd rfl hne
  | cons x l ih =>
    obtain rfl := h x List.mem_cons_self
    rw [List.findSome?_cons]
    rcases hx : f x with _ | b
    · by_cases hl : l = []
      · rw [hl, List.findSome?_nil]
      · rw [ih (fun y hy => h y (List.mem_cons_of_mem x hy)) hl, hx]
    · rfl

namespace ImpactAnalysisService

variable {targetRoleId userGroupIdToRemove : Option Uuid}

theorem mem_findActiveBuiltInAdminRoles {role : StoredRole} :
    role ∈ s.findActiveBuiltInAdminRoles ctx.tenantCode ↔
      role ∈ s.administration.tables.roles.rows ∧ role.row.tenantCode = ctx.tenantCode ∧
        role.row.systemRoleKey = some .ADMINISTRATOR ∧ role.row.status = .ACTIVE := by
  simp [AccessStore.findActiveBuiltInAdminRoles, and_assoc]

theorem check_of_inactive (hadmin : IsAdministrator ctx s admin)
    (hstatus : admin.row.status ≠ .ACTIVE) :
    checkCriticalCapabilityCoverageLoss ctx s targetRoleId userGroupIdToRemove = none := by
  have hnone : s.findActiveBuiltInAdminRoles ctx.tenantCode = [] := by
    rw [List.eq_nil_iff_forall_not_mem]
    intro role hrole
    obtain ⟨hmem, htenant, hkey, hactive⟩ := mem_findActiveBuiltInAdminRoles.mp hrole
    exact hstatus (hadmin.unique role hmem htenant hkey ▸ hactive)
  rw [checkCriticalCapabilityCoverageLoss, hnone, List.findSome?_nil]

theorem check_of_active (hadmin : IsAdministrator ctx s admin)
    (hstatus : admin.row.status = .ACTIVE) :
    checkCriticalCapabilityCoverageLoss ctx s targetRoleId userGroupIdToRemove =
      coverageLossOf s ctx.tenantCode targetRoleId userGroupIdToRemove admin := by
  refine findSome?_of_all_eq (fun role hrole => ?_) (List.ne_nil_of_mem (a := admin) ?_)
  · obtain ⟨hmem, htenant, hkey, -⟩ := mem_findActiveBuiltInAdminRoles.mp hrole
    exact hadmin.unique role hmem htenant hkey
  · exact mem_findActiveBuiltInAdminRoles.mpr
      ⟨hadmin.stored, hadmin.tenantCode, hadmin.systemRoleKey, hstatus⟩

end ImpactAnalysisService

-- ============================================================================
-- Role and group
-- ============================================================================

theorem holding_active (named : Set Uuid) :
    holding ctx s .ACTIVE named = named ∩ s.activeUsers ctx.tenantCode := by
  ext u
  exact and_iff_right rfl

theorem holding_inactive {status : RoleStatus} (h : status ≠ .ACTIVE) (named : Set Uuid) :
    holding ctx s status named = ∅ :=
  Set.eq_empty_of_forall_notMem fun _ hu => h hu.1

open ImpactAnalysisService

theorem countActiveHoldersByRoleId_pos {tenantCode : String} {roleId : Uuid} :
    s.countActiveHoldersByRoleId tenantCode roleId > 0 ↔
      (s.holdersFrom tenantCode roleId Set.univ).Nonempty := by
  rw [AccessStore.countActiveHoldersByRoleId_eq]
  exact Set.ncard_pos (AccessStore.finite_holdersFrom _)

theorem countActiveHoldersExcludingSourceGroup_zero {tenantCode : String}
    {roleId groupId : Uuid} :
    s.countActiveHoldersExcludingSourceGroup tenantCode roleId groupId = 0 ↔
      s.holdersFrom tenantCode roleId {groupId}ᶜ = ∅ := by
  rw [AccessStore.countActiveHoldersExcludingSourceGroup_eq]
  exact Set.ncard_eq_zero (AccessStore.finite_holdersFrom _)

/-- The warning that counts everybody named. -/
noncomputable def lossOf (s : AccessStore) (tenantCode : String) (admin : StoredRole) :
    CoverageLossWarning :=
  ⟨capabilityCode admin, (s.holdersFrom tenantCode admin.id Set.univ).ncard, 0, true⟩

theorem coverageLossOf_role (s : AccessStore) (admin : StoredRole) (tenantCode : String)
    (roleId : Uuid) :
    (roleId = admin.id ∧ (s.holdersFrom tenantCode admin.id Set.univ).Nonempty ∧
        coverageLossOf s tenantCode (some roleId) none admin = some (lossOf s tenantCode admin)) ∨
      (¬(roleId = admin.id ∧ (s.holdersFrom tenantCode admin.id Set.univ).Nonempty) ∧
        coverageLossOf s tenantCode (some roleId) none admin = none) := by
  rw [← countActiveHoldersByRoleId_pos, coverageLossOf, lossOf,
    ← AccessStore.countActiveHoldersByRoleId_eq]
  by_cases h : roleId = admin.id ∧ s.countActiveHoldersByRoleId tenantCode admin.id > 0
  · exact .inl ⟨h.1, h.2, if_pos ⟨congrArg some h.1, h.2⟩⟩
  · exact .inr ⟨h, if_neg fun hcount => h ⟨Option.some.inj hcount.1, hcount.2⟩⟩

theorem coverageLossOf_userGroup (s : AccessStore) (admin : StoredRole) (tenantCode : String)
    (groupId : Uuid) :
    ((s.holdersFrom tenantCode admin.id Set.univ).Nonempty ∧
        s.holdersFrom tenantCode admin.id {groupId}ᶜ = ∅ ∧
        coverageLossOf s tenantCode none (some groupId) admin = some (lossOf s tenantCode admin)) ∨
      (¬((s.holdersFrom tenantCode admin.id Set.univ).Nonempty ∧
          s.holdersFrom tenantCode admin.id {groupId}ᶜ = ∅) ∧
        coverageLossOf s tenantCode none (some groupId) admin = none) := by
  rw [← countActiveHoldersByRoleId_pos, ← countActiveHoldersExcludingSourceGroup_zero,
    coverageLossOf, lossOf, ← AccessStore.countActiveHoldersByRoleId_eq,
    if_neg fun h => nomatch h.1]
  by_cases h : s.countActiveHoldersByRoleId tenantCode admin.id > 0 ∧
      s.countActiveHoldersExcludingSourceGroup tenantCode admin.id groupId = 0
  · exact .inl ⟨h.1, h.2, if_pos h⟩
  · exact .inr ⟨h, if_neg h⟩

/-- Without an ACTIVE role there is nothing to lose. -/
theorem tells_of_inactive (hstatus : admin.row.status ≠ .ACTIVE) (after : Set Uuid) :
    TellsCoverageLoss (holdersBefore ctx s admin) after none := by
  rw [tells_none_iff, holdersBefore, holding_inactive hstatus]
  exact fun h => absurd h Set.not_nonempty_empty

theorem holdersBefore_active (hstatus : admin.row.status = .ACTIVE) :
    holdersBefore ctx s admin =
      s.holdersFrom ctx.tenantCode admin.id Set.univ ∩ s.activeUsers ctx.tenantCode := by
  rw [holdersBefore, hstatus, holding_active]

theorem tells_role_iff (hstatus : admin.row.status = .ACTIVE) (roleId : Uuid)
    (dto : PreviewRoleImpactDto) :
    TellsCoverageLoss (holdersBefore ctx s admin)
        ((Proposal.role roleId dto).holdersAfter ctx s admin)
        (coverageLossOf s ctx.tenantCode (some roleId) none admin) ↔
      (Proposal.role roleId dto).Foreseen ctx s admin := by
  have hafter : roleId = admin.id → (Proposal.role roleId dto).holdersAfter ctx s admin =
      holding ctx s (dto.status.getD .ACTIVE)
        (s.holdersFrom ctx.tenantCode admin.id Set.univ) := by
    intro hid
    rw [Proposal.holdersAfter, Proposal.statusAfter, if_pos hid, hstatus]
    rfl
  rcases coverageLossOf_role s admin ctx.tenantCode roleId
    with ⟨hid, hnamed, hloss⟩ | ⟨hnot, hloss⟩
  · rw [hloss, lossOf, hafter hid, holdersBefore_active hstatus,
      tells_some_iff (AccessStore.finite_holdersFrom _) hnamed]
    constructor
    · rintro ⟨hactive, hempty⟩
      refine fun _ _ => ⟨?_, hactive⟩
      have hkept : dto.status.getD .ACTIVE ≠ .ACTIVE := by
        intro hdto
        rw [hdto, holding_active, Set.inter_eq_left.mpr hactive] at hempty
        exact hnamed.ne_empty hempty
      rcases hdto : dto.status with _ | _ | _
      · exact absurd (by rw [hdto]; rfl) hkept
      · exact absurd (by rw [hdto]; rfl) hkept
      · rfl
    · intro h
      obtain ⟨hinactive, hactive⟩ := h hid hnamed
      rw [hinactive]
      exact ⟨hactive, holding_inactive RoleStatus.noConfusion _⟩
  · rw [hloss, tells_none_iff]
    refine iff_of_true (fun hbefore => ?_) fun hid hnamed => absurd ⟨hid, hnamed⟩ hnot
    by_cases hid : roleId = admin.id
    · rw [holdersBefore_active hstatus] at hbefore
      exact absurd ⟨hid, hbefore.left⟩ hnot
    · rw [Proposal.holdersAfter, Proposal.statusAfter, if_neg hid]
      exact hbefore

theorem tells_userGroup_iff (hstatus : admin.row.status = .ACTIVE) (groupId : Uuid)
    (dto : PreviewUserGroupImpactDto) {row : UserGroupRow}
    (hrow : s.administration.group ctx.tenantCode groupId = some row) :
    TellsCoverageLoss (holdersBefore ctx s admin)
        ((Proposal.userGroup groupId dto).holdersAfter ctx s admin)
        (coverageLossOf s ctx.tenantCode none (some groupId) admin) ↔
      (Proposal.userGroup groupId dto).Foreseen ctx s admin := by
  have hgranted : {u | ∃ row, s.administration.group ctx.tenantCode groupId = some row ∧
      u ∈ s.grantedAfter ctx admin.id row.toUserGroup dto} =
        s.grantedAfter ctx admin.id row.toUserGroup dto := by
    ext u
    constructor
    · rintro ⟨row', hrow', hu⟩
      obtain rfl := Option.some.inj (hrow.symm.trans hrow')
      exact hu
    · exact fun hu => ⟨row, hrow, hu⟩
  have hafter : (Proposal.userGroup groupId dto).holdersAfter ctx s admin =
      (s.holdersFrom ctx.tenantCode admin.id {groupId}ᶜ ∪
        s.grantedAfter ctx admin.id row.toUserGroup dto) ∩ s.activeUsers ctx.tenantCode := by
    rw [← hgranted, ← holding_active, ← hstatus]
    rfl
  have hforeseen : (Proposal.userGroup groupId dto).Foreseen ctx s admin ↔
      (s.holdersFrom ctx.tenantCode admin.id {groupId}ᶜ = ∅ →
        (s.holdersFrom ctx.tenantCode admin.id Set.univ).Nonempty →
          s.holdersFrom ctx.tenantCode admin.id Set.univ ⊆ s.activeUsers ctx.tenantCode ∧
            s.grantedAfter ctx admin.id row.toUserGroup dto ∩ s.activeUsers ctx.tenantCode = ∅) ∧
      ((s.holdersFrom ctx.tenantCode admin.id {groupId}ᶜ).Nonempty →
        (s.holdersFrom ctx.tenantCode admin.id Set.univ ∩
            s.activeUsers ctx.tenantCode).Nonempty →
          (s.holdersFrom ctx.tenantCode admin.id {groupId}ᶜ ∩
              s.activeUsers ctx.tenantCode).Nonempty ∨
            (s.grantedAfter ctx admin.id row.toUserGroup dto ∩
              s.activeUsers ctx.tenantCode).Nonempty) := by
    constructor
    · exact fun h => h row hrow
    · intro h row' hrow'
      obtain rfl := Option.some.inj (hrow.symm.trans hrow')
      exact h
  rw [hafter, hforeseen, holdersBefore_active hstatus]
  rcases coverageLossOf_userGroup s admin ctx.tenantCode groupId
    with ⟨hnamed, hempty, hloss⟩ | ⟨hnot, hloss⟩
  · rw [hloss, hempty, Set.empty_union, lossOf,
      tells_some_iff (AccessStore.finite_holdersFrom _) hnamed]
    exact ⟨fun h => ⟨fun _ _ => h, fun hne => absurd hne Set.not_nonempty_empty⟩,
      fun h => h.1 rfl hnamed⟩
  · rw [hloss, tells_none_iff, Set.union_inter_distrib_right, Set.union_nonempty]
    constructor
    · exact fun h => ⟨fun hempty hnamed => absurd ⟨hnamed, hempty⟩ hnot, fun _ => h⟩
    · intro h hbefore
      refine h.2 ?_ hbefore
      rw [Set.nonempty_iff_ne_empty]
      exact fun hempty => hnot ⟨hbefore.left, hempty⟩

theorem tellsCoverageLoss_iff {threshold : Nat} {proposal : Proposal}
    {result : ImpactAnalysisResult} (hadmin : IsAdministrator ctx s admin)
    (hresult : proposal.preview ctx s threshold = .ok result) :
    TellsCoverageLoss (holdersBefore ctx s admin) (proposal.holdersAfter ctx s admin)
        result.coverageLoss ↔
      (admin.row.status = .ACTIVE → proposal.Foreseen ctx s admin) := by
  by_cases hstatus : admin.row.status = .ACTIVE
  · rw [forall_prop_of_true hstatus]
    cases proposal with
    | role roleId dto =>
      rw [previewRoleImpact_coverageLoss hresult, check_of_active hadmin hstatus]
      exact tells_role_iff hstatus roleId dto
    | userGroup groupId dto =>
      obtain ⟨⟨row, hrow⟩, hcheck⟩ := previewUserGroupImpact_coverageLoss hresult
      rw [hcheck, check_of_active hadmin hstatus]
      exact tells_userGroup_iff hstatus groupId dto hrow
  · refine iff_of_true ?_ fun h => absurd h hstatus
    have hnone : result.coverageLoss = none := by
      cases proposal with
      | role roleId dto =>
        rw [previewRoleImpact_coverageLoss hresult, check_of_inactive hadmin hstatus]
      | userGroup groupId dto =>
        rw [(previewUserGroupImpact_coverageLoss hresult).2, check_of_inactive hadmin hstatus]
    rw [hnone]
    exact tells_of_inactive hstatus _

-- ============================================================================
-- One ACTIVE administrator, through one group
-- ============================================================================

def administratorRole : StoredRole where
  row := {
    id := sampleRoleId
    tenantCode := "acme"
    name := "Administrator"
    type := .SYSTEM
    systemRoleKey := some .ADMINISTRATOR }
  permissions := .empty

def administratorsRow : UserGroupRow := { sampleUserGroup with name := "Administrators" }

def administratorTables : GroupTables where
  groups := ⟨[administratorsRow], List.nodup_singleton _⟩
  groupRoles := .empty
  rowKey _ := sampleRoleId
  roles := ⟨[administratorRole], List.nodup_singleton _⟩
  memberships := .empty

def administratorStore : AccessStore where
  administration :=
    { tables := administratorTables
      constraints := by decide +kernel }
  base := { db := {
    Database.empty with
    users := .single sampleUser
    effectiveRoles := Table.empty.insert sampleEffectiveRole } }

def acmePreviews : AccessContext where
  tenantCode := "acme"
  graph := Permissions.PermissionGraphBuilder.buildGraph []
  columns := acme.columns

theorem isAdministrator : IsAdministrator acmePreviews administratorStore administratorRole where
  stored := List.mem_singleton.mpr rfl
  tenantCode := rfl
  systemRoleKey := rfl
  unique _ hrole _ _ := List.mem_singleton.mp hrole

theorem administrator_named {groups : Set Uuid} {u : Uuid} :
    u ∈ administratorStore.holdersFrom "acme" sampleRoleId groups ↔
      sampleGroupId ∈ groups ∧ u = sampleUserId := by
  constructor
  · rintro ⟨r, hr, -, -, hgroup, rfl⟩
    obtain rfl := List.mem_singleton.mp hr
    exact ⟨hgroup, rfl⟩
  · rintro ⟨hgroup, rfl⟩
    exact ⟨_, List.mem_singleton.mpr rfl, rfl, rfl, hgroup, rfl⟩

theorem administrator_active : sampleUserId ∈ administratorStore.activeUsers "acme" :=
  ⟨sampleUser, List.mem_singleton.mpr rfl, rfl, rfl, rfl⟩

def roleDeactivation : Proposal := .role sampleRoleId { status := some .INACTIVE }

def roleDeactivated : ImpactAnalysisResult where
  targetType := .ROLE
  targetId := sampleRoleId
  estimate := ⟨0, 1, 1, false, DEFAULT_HIGH_IMPACT_THRESHOLD, false⟩
  coverageLoss := some ⟨"ADMINISTRATOR", 1, 0, true⟩
  requiresConfirmation := false

theorem tellsCoverageLoss_iff_sample :
    TellsCoverageLoss (holdersBefore acmePreviews administratorStore administratorRole)
      (roleDeactivation.holdersAfter acmePreviews administratorStore administratorRole)
      roleDeactivated.coverageLoss := by
  have hpreview : roleDeactivation.preview acmePreviews administratorStore
      DEFAULT_HIGH_IMPACT_THRESHOLD = .ok roleDeactivated := by rfl
  refine (tellsCoverageLoss_iff isAdministrator hpreview).mpr fun _ _ _ => ⟨rfl, ?_⟩
  intro u hu
  obtain ⟨-, rfl⟩ := administrator_named.mp hu
  exact administrator_active

/-- A wider scope takes the role from nobody, and the preview warns. -/
def wideScope : Proposal := .userGroup sampleGroupId { scopeType := some .TENANT_WIDE }

def scopeWidened : ImpactAnalysisResult where
  targetType := .USER_GROUP
  targetId := sampleGroupId
  estimate := ⟨0, 0, 0, false, DEFAULT_HIGH_IMPACT_THRESHOLD, false⟩
  coverageLoss := some ⟨"ADMINISTRATOR", 1, 0, true⟩
  requiresConfirmation := false

theorem not_tellsCoverageLoss :
    IsAdministrator acmePreviews administratorStore administratorRole ∧
      wideScope.preview acmePreviews administratorStore DEFAULT_HIGH_IMPACT_THRESHOLD =
        .ok scopeWidened ∧
      ¬ TellsCoverageLoss (holdersBefore acmePreviews administratorStore administratorRole)
        (wideScope.holdersAfter acmePreviews administratorStore administratorRole)
        scopeWidened.coverageLoss := by
  refine ⟨isAdministrator, by rfl, fun h => ?_⟩
  have hnobody := (h.warned.mp ⟨_, rfl, rfl⟩).2
  have hkept : sampleUserId ∈
      wideScope.holdersAfter acmePreviews administratorStore administratorRole :=
    ⟨rfl, .inr ⟨administratorsRow, rfl, .inl ⟨⟨rfl, rfl, .inl rfl⟩,
      administrator_named.mpr ⟨rfl, rfl⟩⟩⟩, administrator_active⟩
  rw [hnobody] at hkept
  exact hkept

end AccessService.ImpactAnalysis
