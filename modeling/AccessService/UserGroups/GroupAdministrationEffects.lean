/-
  AccessService.UserGroups.GroupAdministrationEffects

  What the writes of the group operations leave behind: the row of the group, its
  assignments with their primary keys, and nothing else changed; and when the constraints
  let a write through.
-/

import AccessService.UserGroups.GroupAdministration

namespace AccessService.UserGroups.Administration

open AccessService.Js AccessService.Lib AccessService.Pg AccessService.Persistence
open AccessService.Roles (StoredRole)

variable {s s' : GroupStore} {tenantCode : String} {id : Uuid}
  {row : UserGroupRow} {entity : UserGroupEntity}

theorem aggregateCreate_ok {newId : Uuid} {props : UserGroupProps}
    (h : UserGroupAggregate.create newId props = .ok row) :
    row.id = newId ∧ row.tenantCode = props.tenantCode ∧ row.name = props.name ∧
      row.scopeType = props.scopeType ∧ row.scopeRefId = props.scopeRefId := by
  unfold UserGroupAggregate.create at h
  split at h
  · cases h
  · obtain ⟨keys, -, hrow⟩ := Sql.bind_eq_ok.mp h
    cases hrow
    exact ⟨rfl, rfl, rfl, rfl, rfl⟩

namespace GroupStore

-- ============================================================================
-- Queries
-- ============================================================================

theorem group_eq_some :
    s.group tenantCode id = some row ↔
      row ∈ s.tables.groups.rows ∧ row.tenantCode = tenantCode ∧ row.id = id :=
  Keyed.find?_and_key

theorem findRequired_eq_ok :
    s.findRequired tenantCode id = .ok entity ↔
      ∃ row, s.group tenantCode id = some row ∧ entity = .load row := by
  unfold findRequired
  rcases hgroup : s.group tenantCode id with _ | row
  · constructor
    · intro h
      cases h
    · rintro ⟨row', hrow, -⟩
      cases hrow
  · constructor
    · intro h
      exact ⟨row, rfl, (Except.ok.inj h).symm⟩
    · rintro ⟨row', hrow, rfl⟩
      rw [Option.some.inj hrow]

theorem mem_findByGroup {r : RowId × UserGroupRole} :
    r ∈ s.findByGroup tenantCode id ↔
      r ∈ s.tables.groupRoles.rows ∧ r.2.tenantCode = tenantCode ∧ r.2.userGroupId = id := by
  rw [findByGroup, Table.mem_find, Bool.and_eq_true, decide_eq_true_eq, decide_eq_true_eq]

theorem mem_assignedRoleIds {roleId : Uuid} :
    roleId ∈ s.assignedRoleIds tenantCode id ↔
      ∃ n, (n, ⟨tenantCode, id, roleId⟩) ∈ s.tables.groupRoles.rows := by
  simp only [assignedRoleIds, List.mem_map, mem_findByGroup]
  constructor
  · rintro ⟨⟨n, r⟩, ⟨hmem, rfl, rfl⟩, rfl⟩
    exact ⟨n, hmem⟩
  · rintro ⟨n, hmem⟩
    exact ⟨_, ⟨hmem, rfl, rfl⟩, rfl⟩

/-- A role is assigned to a group once. -/
theorem nodup_assignedRoleIds : (s.assignedRoleIds tenantCode id).Nodup := by
  have hvalues := s.constraints.uq_user_group_roles_tenant_group_role
  refine List.Nodup.map_on ?_ (s.tables.groupRoles.nodup.of_map.filter _)
  intro r hr r' hr' hrole
  obtain ⟨hmem, htenant, hgroup⟩ := mem_findByGroup.mp hr
  obtain ⟨hmem', htenant', hgroup'⟩ := mem_findByGroup.mp hr'
  refine List.inj_on_of_nodup_map hvalues hmem hmem' ?_
  obtain ⟨n, tenant, userGroupId, roleId⟩ := r
  obtain ⟨n', tenant', userGroupId', roleId'⟩ := r'
  obtain rfl : roleId = roleId' := hrole
  rw [show tenant = tenant' from htenant.trans htenant'.symm,
    show userGroupId = userGroupId' from hgroup.trans hgroup'.symm]

/-- An assigned role exists. -/
theorem mem_roles_of_assigned {roleId : Uuid} (h : roleId ∈ s.assignedRoleIds tenantCode id) :
    roleId ∈ s.tables.roles.rows.map StoredRole.id := by
  obtain ⟨n, hmem⟩ := mem_assignedRoleIds.mp h
  exact s.constraints.fk_user_group_roles_role _ hmem

-- ============================================================================
-- Writes
-- ============================================================================

theorem write_eq_ok {t : GroupTables} :
    s.write t = .ok s' ↔ s'.tables = t ∧ s'.outbox = s.outbox := by
  obtain ⟨tables, constraints, outbox⟩ := s'
  unfold write
  split
  · rw [Except.ok.injEq, mk.injEq]
    exact and_congr_left' eq_comm |>.trans (and_congr_right' eq_comm)
  next hnot =>
    refine ⟨nofun, ?_⟩
    rintro ⟨rfl, -⟩
    exact absurd constraints hnot

theorem write_runs {t : GroupTables} (h : t.Constraints) : ∃ s', s.write t = .ok s' :=
  ⟨_, dif_pos h⟩

/-- A write that leaves everything but the group's row and assignments as it was. -/
structure Edit (id : Uuid) (s s' : GroupStore) : Prop where
  rowKey : s'.tables.rowKey = s.tables.rowKey
  roles : s'.tables.roles = s.tables.roles
  memberships : s'.tables.memberships = s.tables.memberships
  groups : ∀ row, row.id ≠ id → (row ∈ s'.tables.groups.rows ↔ row ∈ s.tables.groups.rows)
  outbox : s'.outbox = s.outbox

theorem Edit.trans {s₁ : GroupStore} (h : Edit id s s₁) (h' : Edit id s₁ s') : Edit id s s' :=
  ⟨h'.rowKey.trans h.rowKey, h'.roles.trans h.roles, h'.memberships.trans h.memberships,
    fun row hne => (h'.groups row hne).trans (h.groups row hne), h'.outbox.trans h.outbox⟩

theorem save_ok (hrow : s.group tenantCode id = some row) (hid : entity.id = id)
    (htenant : entity.tenantCode = tenantCode) (h : s.save entity = .ok s') :
    Edit id s s' ∧ s'.group tenantCode id = some (entity.save row) ∧
      s'.tables.groupRoles = s.tables.groupRoles := by
  obtain ⟨htables, houtbox⟩ := write_eq_ok.mp h
  obtain ⟨hmem, -, hrowId⟩ := group_eq_some.mp hrow
  have hsaved : saveRow entity row = entity.save row := if_pos (hrowId.trans hid.symm)
  refine ⟨⟨by rw [htables], by rw [htables], by rw [htables], fun other hother => ?_, houtbox⟩, ?_,
    by rw [htables]⟩
  · rw [htables]
    show other ∈ s.tables.groups.rows.map (saveRow entity) ↔ _
    rw [List.mem_map]
    constructor
    · rintro ⟨g, hg, rfl⟩
      have hne : g.id ≠ entity.id := fun heq => hother (by
        rw [← primaryKey, saveRow_key, primaryKey, heq, hid])
      rw [saveRow, if_neg hne]
      exact hg
    · intro hg
      exact ⟨other, hg, if_neg fun heq => hother (heq.trans hid)⟩
  · refine group_eq_some.mpr ⟨?_, htenant, hrowId⟩
    rw [htables]
    exact List.mem_map.mpr ⟨row, hmem, hsaved⟩

/-- The row inserted is a new group, and no role is assigned to it. -/
theorem create_ok (h : s.create row = .ok s') :
    s'.outbox = s.outbox ∧ s'.tables.roles = s.tables.roles ∧
      s'.tables.rowKey = s.tables.rowKey ∧ s'.tables.groupRoles = s.tables.groupRoles ∧
      s'.tables.groups.rows = s.tables.groups.rows ++ [row] ∧
      ∀ tenantCode, s.findByGroup tenantCode row.id = [] := by
  unfold create at h
  split at h
  next groups hinsert =>
    obtain ⟨htables, houtbox⟩ := write_eq_ok.mp h
    refine ⟨houtbox, by rw [htables], by rw [htables], by rw [htables], ?_, fun tenantCode => ?_⟩
    · rw [htables]
      exact Keyed.insert_rows hinsert
    · rw [findByGroup, Table.find_eq_nil]
      intro r hr
      obtain ⟨g, hg, hkey⟩ := List.mem_map.mp (s.constraints.fk_user_group_roles_user_group r hr)
      have hne : r.2.userGroupId ≠ row.id := by
        rw [← hkey]
        exact Keyed.insert_fresh hinsert hg
      simp [hne]
  · cases h

theorem batchDelete_ok {roleIds : List Uuid} (h : s.batchDelete tenantCode id roleIds = .ok s') :
    Edit id s s' ∧ s'.tables.groups = s.tables.groups ∧
      s'.tables.groupRoles.nextId = s.tables.groupRoles.nextId ∧
      (s'.tables.groupRoles.rows.map Prod.fst).Sublist (s.tables.groupRoles.rows.map Prod.fst) ∧
      s'.findByGroup tenantCode id =
        (s.findByGroup tenantCode id).filter fun r => r.2.roleId ∉ roleIds := by
  obtain ⟨htables, houtbox⟩ := write_eq_ok.mp h
  refine ⟨⟨by rw [htables], by rw [htables], by rw [htables], fun row _ => by rw [htables],
    houtbox⟩, by rw [htables], by rw [htables]; rfl,
    by rw [htables]; exact List.filter_sublist.map _, ?_⟩
  rw [findByGroup, htables, Table.find_deleteWhere]
  refine List.filter_congr fun r hr => ?_
  obtain ⟨-, htenant, hgroup⟩ := mem_findByGroup.mp hr
  simp [htenant, hgroup]

/-- The rows that are inserted. -/
def newRows (s : GroupStore) (tenantCode : String) (id : Uuid) (roleIds : List Uuid) :
    List (RowId × UserGroupRole) :=
  (roleIds.zipIdx s.tables.groupRoles.nextId).map fun r => (r.2, ⟨tenantCode, id, r.1⟩)

theorem newRows_roleIds (roleIds : List Uuid) :
    (s.newRows tenantCode id roleIds).map (·.2.roleId) = roleIds := by
  rw [newRows, List.map_map]
  exact List.zipIdx_map_fst _ _

theorem bulkSave_ok {roleIds : List Uuid} (h : s.bulkSave tenantCode id roleIds = .ok s') :
    Edit id s s' ∧ s'.tables.groups = s.tables.groups ∧
      s'.findByGroup tenantCode id =
        s.findByGroup tenantCode id ++ s.newRows tenantCode id roleIds := by
  obtain ⟨htables, houtbox⟩ := write_eq_ok.mp h
  refine ⟨⟨by rw [htables], by rw [htables], by rw [htables], fun row _ => by rw [htables],
    houtbox⟩, by rw [htables], ?_⟩
  rw [findByGroup, htables, Table.find, Table.insertAll_rows, List.filter_append]
  refine congrArg (s.findByGroup tenantCode id ++ ·) ?_
  rw [List.zipIdx_map, List.map_map, List.filter_eq_self.mpr]
  · rfl
  · intro r hr
    obtain ⟨r', -, rfl⟩ := List.mem_map.mp hr
    simp

theorem assignedRoleIds_of_rows {removedRoleIds addedRoleIds : List Uuid}
    (hrows : s'.findByGroup tenantCode id =
      ((s.findByGroup tenantCode id).filter fun r => r.2.roleId ∉ removedRoleIds) ++
        s.newRows tenantCode id addedRoleIds) :
    s'.assignedRoleIds tenantCode id =
      ((s.assignedRoleIds tenantCode id).filter fun roleId => roleId ∉ removedRoleIds) ++
        addedRoleIds := by
  rw [assignedRoleIds, hrows, List.map_append, newRows_roleIds, assignedRoleIds, List.filter_map]
  rfl

/-- What a transaction has written before the outbox. -/
theorem writeChange_ok {change : Change} (hrow : s.group tenantCode id = some row)
    (hid : change.entity.id = id) (htenant : change.entity.tenantCode = tenantCode)
    (h : s.writeChange tenantCode change = .ok s') :
    Edit id s s' ∧ s'.group tenantCode id = some (change.entity.save row) ∧
      s'.findByGroup tenantCode id =
        ((s.findByGroup tenantCode id).filter fun r => r.2.roleId ∉ change.removedRoleIds) ++
          s.newRows tenantCode id change.addedRoleIds := by
  obtain ⟨s₁, hsave, hrest⟩ := Sql.bind_eq_ok.mp h
  obtain ⟨s₂, hdelete, hinsert⟩ := Sql.bind_eq_ok.mp hrest
  rw [hid] at hdelete hinsert
  obtain ⟨hedit₁, hgroup₁, hroles₁⟩ := save_ok hrow hid htenant hsave
  obtain ⟨hedit₂, hgroups₂, hnext₂, -, hrows₂⟩ := batchDelete_ok hdelete
  obtain ⟨hedit₃, hgroups₃, hrows₃⟩ := bulkSave_ok hinsert
  refine ⟨hedit₁.trans (hedit₂.trans hedit₃), ?_, ?_⟩
  · rw [← hgroup₁, group, group, hgroups₃, hgroups₂]
  · have hsame : s₁.findByGroup tenantCode id = s.findByGroup tenantCode id := by
      rw [findByGroup, findByGroup, hroles₁]
    have hnew : s₂.newRows tenantCode id change.addedRoleIds =
        s.newRows tenantCode id change.addedRoleIds := by
      rw [newRows, newRows, hnext₂, hroles₁]
    rw [hrows₃, hrows₂, hsame, hnew]

/-- The assignments after a transaction, of this group and of the others. -/
theorem writeChange_assignments {change : Change} (h : s.writeChange tenantCode change = .ok s')
    (r : UserGroupRole) :
    r ∈ s'.tables.groupRoles.rows.map Prod.snd ↔
      if r.tenantCode = tenantCode ∧ r.userGroupId = change.entity.id then
        (r ∈ s.tables.groupRoles.rows.map Prod.snd ∧ r.roleId ∉ change.removedRoleIds) ∨
          r.roleId ∈ change.addedRoleIds
      else r ∈ s.tables.groupRoles.rows.map Prod.snd := by
  obtain ⟨s₁, hsave, hrest⟩ := Sql.bind_eq_ok.mp h
  obtain ⟨s₂, hdelete, hinsert⟩ := Sql.bind_eq_ok.mp hrest
  have hsaved : s₁.tables.groupRoles = s.tables.groupRoles := by rw [(write_eq_ok.mp hsave).1]
  have hkept : r ∈ s₂.tables.groupRoles.rows.map Prod.snd ↔
      r ∈ s.tables.groupRoles.rows.map Prod.snd ∧ ¬(r.tenantCode = tenantCode ∧
        r.userGroupId = change.entity.id ∧ r.roleId ∈ change.removedRoleIds) := by
    rw [(write_eq_ok.mp hdelete).1, ← hsaved]
    simp only [List.mem_map, Table.mem_deleteWhere, Bool.and_eq_false_iff, decide_eq_false_iff_not]
    constructor
    · rintro ⟨⟨n, r⟩, ⟨hmem, hother⟩, rfl⟩
      exact ⟨⟨_, hmem, rfl⟩, by tauto⟩
    · rintro ⟨⟨⟨n, r⟩, hmem, rfl⟩, hother⟩
      exact ⟨_, ⟨hmem, by tauto⟩, rfl⟩
  have hadded : r ∈ change.addedRoleIds.map (fun roleId =>
      UserGroupRole.mk tenantCode change.entity.id roleId) ↔
      (r.tenantCode = tenantCode ∧ r.userGroupId = change.entity.id) ∧
        r.roleId ∈ change.addedRoleIds := by
    rw [List.mem_map]
    constructor
    · rintro ⟨roleId, hrole, rfl⟩
      exact ⟨⟨rfl, rfl⟩, hrole⟩
    · rintro ⟨⟨htenant, hgroup⟩, hrole⟩
      exact ⟨r.roleId, hrole, by rw [← htenant, ← hgroup]⟩
  rw [(write_eq_ok.mp hinsert).1, Table.insertAll_values, List.mem_append, hkept, hadded]
  split
  next hkey =>
    rw [and_iff_right hkey, ← and_assoc, and_iff_right hkey]
  next hother =>
    rw [or_iff_left fun hnew => hother hnew.1, and_iff_left fun hremoved =>
      hother ⟨hremoved.1, hremoved.2.1⟩]

/-- What fails in a transaction is a query. -/
theorem writeChange_error {change : Change} {e : UserGroupError}
    (h : s.writeChange tenantCode change = .error e) : e = .queryFailed := by
  have hwrite : ∀ {s : GroupStore} {t : GroupTables} {e : UserGroupError},
      s.write t = .error e → e = .queryFailed := by
    intro s t e herror
    unfold write at herror
    split at herror
    · cases herror
    · exact (Except.error.inj herror).symm
  unfold writeChange at h
  rcases hsave : s.save change.entity with e' | s₁
  · rw [hsave] at h
    obtain rfl : e' = e := Except.error.inj h
    exact hwrite hsave
  · rw [hsave] at h
    change (s₁.batchDelete _ _ _ >>= _) = _ at h
    rcases hdelete : s₁.batchDelete tenantCode change.entity.id change.removedRoleIds with e' | s₂
    · rw [hdelete] at h
      obtain rfl : e' = e := Except.error.inj h
      exact hwrite hdelete
    · rw [hdelete] at h
      exact hwrite h

-- ============================================================================
-- Writes that the constraints let through
-- ============================================================================

theorem save_runs (hrow : s.group tenantCode id = some row) (hid : entity.id = id)
    (htenant : entity.tenantCode = tenantCode)
    (hname : ∀ other ∈ s.tables.groups.rows, other.tenantCode = tenantCode →
      other.name = entity.name → other.id = id)
    (hwidth : entity.name.length ≤ 150 ∧ ((entity.save row).scopeRefId.getD "").length ≤ 100) :
    ∃ s', s.save entity = .ok s' := by
  obtain ⟨hmem, -, hrowId⟩ := group_eq_some.mp hrow
  have hsaved : ∀ g ∈ s.tables.groups.rows, g.id = id → saveRow entity g = entity.save row := by
    intro g hg hgid
    rw [saveRow, if_pos (hgid.trans hid.symm),
      s.tables.groups.row_unique hg hmem (hgid.trans hrowId.symm)]
  have hother : ∀ g : UserGroupRow, g.id ≠ id → saveRow entity g = g :=
    fun g hne => if_neg fun heq => hne (heq.trans hid)
  refine write_runs ⟨?_, ?_, s.constraints.user_group_roles_pkey,
    s.constraints.uq_user_group_roles_tenant_group_role, ?_, s.constraints.fk_user_group_roles_role⟩
  · show ((s.tables.groups.rows.map (saveRow entity)).map _).Nodup
    rw [List.map_map]
    refine List.Nodup.map_on ?_ s.tables.groups.nodup.of_map
    intro g hg g' hg' hkey
    simp only [Function.comp_apply, Prod.mk.injEq] at hkey
    refine s.tables.groups.row_unique hg hg' ?_
    by_cases hgid : g.id = id
    · by_cases hgid' : g'.id = id
      · exact hgid.trans hgid'.symm
      · rw [hsaved g hg hgid, hother g' hgid'] at hkey
        exact absurd (hname g' hg' (hkey.1.symm.trans htenant) hkey.2.symm) hgid'
    · by_cases hgid' : g'.id = id
      · rw [hsaved g' hg' hgid', hother g hgid] at hkey
        exact absurd (hname g hg (hkey.1.trans htenant) hkey.2) hgid
      · rw [hother g hgid, hother g' hgid'] at hkey
        exact congrArg primaryKey
          (List.inj_on_of_nodup_map s.constraints.uq_user_groups_tenant_name hg hg'
            (Prod.ext hkey.1 hkey.2))
  · intro g hg
    obtain ⟨g₀, hg₀, rfl⟩ := List.mem_map.mp hg
    by_cases hgid : g₀.id = id
    · rw [hsaved g₀ hg₀ hgid]
      exact hwidth
    · rw [hother g₀ hgid]
      exact s.constraints.width g₀ hg₀
  · intro r hr
    have hkeys : (s.tables.groups.rows.map (saveRow entity)).map primaryKey =
        s.tables.groups.rows.map primaryKey := by
      rw [List.map_map]
      exact List.map_congr_left fun g _ => saveRow_key entity g
    show _ ∈ (s.tables.groups.rows.map (saveRow entity)).map primaryKey
    rw [hkeys]
    exact s.constraints.fk_user_group_roles_user_group r hr

/-- A save that keeps the name and the scope. -/
theorem save_runs_of_same (hrow : s.group tenantCode id = some row) (hid : entity.id = id)
    (htenant : entity.tenantCode = tenantCode) (hname : entity.name = row.name)
    (hscope : (entity.save row).scopeRefId = row.scopeRefId) : ∃ s', s.save entity = .ok s' := by
  obtain ⟨hmem, hrowTenant, hrowId⟩ := group_eq_some.mp hrow
  refine save_runs hrow hid htenant (fun other hother htenant' hname' => ?_) ?_
  · have hsame : other = row :=
      List.inj_on_of_nodup_map s.constraints.uq_user_groups_tenant_name hother hmem
        (Prod.ext (htenant'.trans hrowTenant.symm) (hname'.trans hname))
    rw [hsame, hrowId]
  · rw [hname, hscope]
    exact s.constraints.width row hmem

/-- A group is inserted under a new id and a new name. -/
theorem create_runs (hid : row.id ∉ s.tables.groups.rows.map primaryKey)
    (hname : ∀ other ∈ s.tables.groups.rows, other.tenantCode = row.tenantCode →
      other.name ≠ row.name)
    (hwidth : row.name.length ≤ 150 ∧ (row.scopeRefId.getD "").length ≤ 100) :
    ∃ s', s.create row = .ok s' := by
  obtain ⟨groups, hinsert⟩ : ∃ groups, s.tables.groups.insert row = some groups :=
    ⟨_, dif_neg hid⟩
  have hrows := Keyed.insert_rows hinsert
  rw [create, hinsert]
  refine write_runs ⟨?_, fun g hg => ?_, s.constraints.user_group_roles_pkey,
    s.constraints.uq_user_group_roles_tenant_group_role, fun r hr => ?_,
    s.constraints.fk_user_group_roles_role⟩
  · show (groups.rows.map _).Nodup
    rw [hrows, List.map_append, List.nodup_append']
    refine ⟨s.constraints.uq_user_groups_tenant_name, List.nodup_singleton _, ?_⟩
    rw [List.map_singleton, List.disjoint_singleton]
    intro hmem
    obtain ⟨other, hother, hkey⟩ := List.mem_map.mp hmem
    exact hname other hother (Prod.mk.inj hkey).1 (Prod.mk.inj hkey).2
  · change g ∈ groups.rows at hg
    rw [hrows, List.mem_append, List.mem_singleton] at hg
    rcases hg with hold | rfl
    · exact s.constraints.width g hold
    · exact hwidth
  · show _ ∈ groups.rows.map primaryKey
    rw [hrows, List.map_append]
    exact List.mem_append_left _ (s.constraints.fk_user_group_roles_user_group r hr)

theorem batchDelete_runs (s : GroupStore) (tenantCode : String) (id : Uuid)
    (roleIds : List Uuid) :
    ∃ s', s.batchDelete tenantCode id roleIds = .ok s' := by
  have hrows : ∀ {p : RowId × UserGroupRole → Bool}, ∀ r ∈ (s.tables.groupRoles.deleteWhere p).rows,
      r ∈ s.tables.groupRoles.rows := fun _ h => (Table.mem_deleteWhere.mp h).1
  refine write_runs ⟨s.constraints.uq_user_groups_tenant_name, s.constraints.width, ?_, ?_,
    fun r hr => ?_, fun r hr => ?_⟩
  · exact s.constraints.user_group_roles_pkey.sublist (List.filter_sublist.map _)
  · exact s.constraints.uq_user_group_roles_tenant_group_role.sublist
      (List.filter_sublist.map _)
  · exact s.constraints.fk_user_group_roles_user_group r (hrows r hr)
  · exact s.constraints.fk_user_group_roles_role r (hrows r hr)

/-- The next `n` primary keys are new. -/
def FreshKeys (s : GroupStore) (n : Nat) : Prop :=
  ((s.tables.groupRoles.rows.map Prod.fst ++ List.range' s.tables.groupRoles.nextId n).map
    s.tables.rowKey).Nodup

instance (s : GroupStore) (n : Nat) : Decidable (s.FreshKeys n) :=
  inferInstanceAs (Decidable (List.Nodup _))

theorem freshKeys_zero (s : GroupStore) : s.FreshKeys 0 := by
  have hkeys := s.constraints.user_group_roles_pkey
  rw [FreshKeys, List.range'_zero, List.append_nil, List.map_map]
  exact hkeys

theorem FreshKeys.mono {n m : Nat} (h : s.FreshKeys n) (hle : m ≤ n) : s.FreshKeys m := by
  refine h.sublist (List.Sublist.map _ ((List.Sublist.refl _).append ?_))
  rw [← Nat.add_sub_cancel' hle, ← List.range'_append_1]
  exact List.sublist_append_left _ _

/-- Roles can be assigned if and only if they exist, none is listed twice and none is
    assigned already. -/
theorem bulkSave_runs_iff {roleIds : List Uuid} (hfresh : s.FreshKeys roleIds.length)
    (hgroup : id ∈ s.tables.groups.rows.map primaryKey) :
    (∃ s', s.bulkSave tenantCode id roleIds = .ok s') ↔
      roleIds.Nodup ∧ (∀ roleId ∈ roleIds, roleId ∈ s.tables.roles.rows.map StoredRole.id) ∧
        ∀ roleId ∈ roleIds, roleId ∉ s.assignedRoleIds tenantCode id := by
  have hinjective : Function.Injective fun roleId => UserGroupRole.mk tenantCode id roleId :=
    fun _ _ h => (UserGroupRole.mk.inj h).2.2
  constructor
  · rintro ⟨s', h⟩
    obtain ⟨hedit, -, hrows⟩ := bulkSave_ok h
    have hassigned : s'.assignedRoleIds tenantCode id =
        s.assignedRoleIds tenantCode id ++ roleIds := by
      rw [assignedRoleIds, hrows, List.map_append, newRows_roleIds]
      rfl
    have hnodup : (s'.assignedRoleIds tenantCode id).Nodup := nodup_assignedRoleIds
    rw [hassigned, List.nodup_append'] at hnodup
    refine ⟨hnodup.2.1, fun roleId hrole => ?_, fun roleId hrole hmem => ?_⟩
    · have hmem : roleId ∈ s'.assignedRoleIds tenantCode id := by
        rw [hassigned]
        exact List.mem_append_right _ hrole
      rw [← hedit.roles]
      exact mem_roles_of_assigned hmem
    · exact hnodup.2.2 hmem hrole
  · rintro ⟨hnodup, hroles, hnew⟩
    have hmem : ∀ r ∈ (s.tables.groupRoles.insertAll
        (roleIds.map fun roleId => ⟨tenantCode, id, roleId⟩)).rows,
        r ∈ s.tables.groupRoles.rows ∨ ∃ roleId ∈ roleIds, r.2 = ⟨tenantCode, id, roleId⟩ := by
      intro r hr
      rw [Table.insertAll_rows, List.mem_append] at hr
      refine hr.imp_right fun hadded => ?_
      obtain ⟨⟨value, n⟩, hvalue, rfl⟩ := List.mem_map.mp hadded
      obtain ⟨roleId, hrole, rfl⟩ := List.mem_map.mp (List.fst_mem_of_mem_zipIdx hvalue)
      exact ⟨roleId, hrole, rfl⟩
    refine write_runs ⟨s.constraints.uq_user_groups_tenant_name, s.constraints.width, ?_, ?_,
      fun r hr => ?_, fun r hr => ?_⟩
    · have hkeys : (s.tables.groupRoles.insertAll
          (roleIds.map fun roleId => ⟨tenantCode, id, roleId⟩)).rows.map Prod.fst =
          s.tables.groupRoles.rows.map Prod.fst ++
            List.range' s.tables.groupRoles.nextId roleIds.length := by
        rw [Table.insertAll_ids, List.length_map]
      rw [FreshKeys, ← hkeys, List.map_map] at hfresh
      exact hfresh
    · rw [Table.insertAll_values, List.nodup_append']
      refine ⟨s.constraints.uq_user_group_roles_tenant_group_role, hnodup.map hinjective, ?_⟩
      intro value hold hadded
      obtain ⟨⟨n, r⟩, hr, rfl⟩ := List.mem_map.mp hold
      obtain ⟨roleId, hrole, hvalue⟩ := List.mem_map.mp hadded
      obtain rfl : UserGroupRole.mk tenantCode id roleId = r := hvalue
      exact hnew roleId hrole (mem_assignedRoleIds.mpr ⟨n, hr⟩)
    · rcases hmem r hr with hold | ⟨roleId, -, hvalue⟩
      · exact s.constraints.fk_user_group_roles_user_group r hold
      · rw [hvalue]
        exact hgroup
    · rcases hmem r hr with hold | ⟨roleId, hrole, hvalue⟩
      · exact s.constraints.fk_user_group_roles_role r hold
      · rw [hvalue]
        exact hroles roleId hrole

/-- Where the group's row can be saved, the change is written if and only if its new roles
    exist, none is listed twice, and none stays assigned. -/
theorem writeChange_runs_iff {change : Change} (hrow : s.group tenantCode id = some row)
    (hfresh : s.FreshKeys change.addedRoleIds.length)
    (hid : change.entity.id = id) (htenant : change.entity.tenantCode = tenantCode)
    (hsave : ∃ s', s.save change.entity = .ok s') :
    (∃ s', s.writeChange tenantCode change = .ok s') ↔
      change.addedRoleIds.Nodup ∧
        (∀ roleId ∈ change.addedRoleIds, roleId ∈ s.tables.roles.rows.map StoredRole.id) ∧
        ∀ roleId ∈ change.addedRoleIds, roleId ∈ s.assignedRoleIds tenantCode id →
          roleId ∈ change.removedRoleIds := by
  obtain ⟨s₁, hsave⟩ := hsave
  obtain ⟨s₂, hdelete⟩ := s₁.batchDelete_runs tenantCode id change.removedRoleIds
  obtain ⟨hedit₁, hgroup₁, hroles₁⟩ := save_ok hrow hid htenant hsave
  obtain ⟨hedit₂, hgroups₂, hnext₂, hids₂, hrows₂⟩ := batchDelete_ok hdelete
  have hfresh₂ : s₂.FreshKeys change.addedRoleIds.length := by
    rw [FreshKeys, hedit₂.rowKey, hedit₁.rowKey, hnext₂, hroles₁]
    rw [hroles₁] at hids₂
    exact hfresh.sublist ((hids₂.append (List.Sublist.refl _)).map _)
  have hruns : s.writeChange tenantCode change =
      s₂.bulkSave tenantCode id change.addedRoleIds := by
    rw [writeChange, hsave, hid]
    show (s₁.batchDelete tenantCode id change.removedRoleIds >>= _) = _
    rw [hdelete]
    rfl
  have hgroup : id ∈ s₂.tables.groups.rows.map primaryKey := by
    obtain ⟨hmem, -, hsaved⟩ := group_eq_some.mp hgroup₁
    rw [hgroups₂]
    exact List.mem_map.mpr ⟨_, hmem, hsaved⟩
  have hassigned : ∀ roleId, roleId ∈ s₂.assignedRoleIds tenantCode id ↔
      roleId ∈ s.assignedRoleIds tenantCode id ∧ roleId ∉ change.removedRoleIds := by
    intro roleId
    have hsame : s₁.findByGroup tenantCode id = s.findByGroup tenantCode id := by
      rw [findByGroup, findByGroup, hroles₁]
    simp only [assignedRoleIds, hrows₂, hsame, List.mem_map, List.mem_filter, decide_eq_true_eq]
    constructor
    · rintro ⟨r, ⟨hr, hkept⟩, rfl⟩
      exact ⟨⟨r, hr, rfl⟩, hkept⟩
    · rintro ⟨⟨r, hr, rfl⟩, hkept⟩
      exact ⟨r, ⟨hr, hkept⟩, rfl⟩
  rw [hruns, bulkSave_runs_iff hfresh₂ hgroup, hedit₂.roles, hedit₁.roles]
  simp only [hassigned, not_and, not_not]

end GroupStore

end AccessService.UserGroups.Administration
