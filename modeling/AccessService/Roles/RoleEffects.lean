/-
  AccessService.Roles.RoleEffects

  What the role operations leave behind when they commit: one role new or changed,
  the others as they were, and the cache entry of that role.
-/

import AccessService.Roles.RoleApplicationService

namespace AccessService.Roles

open AccessService.Lib AccessService.Permissions AccessService.Pg AccessService.Persistence

variable {ctx : RoleContext} {id : Uuid} {w w' : World RoleStore RoleError}

-- ============================================================================
-- Changes of one role
-- ============================================================================

/-- The role is stored now; the other roles and the rest of the store are the same. -/
structure RoleChange (s s' : RoleStore) (role : StoredRole) : Prop where
  stored : role ∈ s'.roles.rows
  others : ∀ other, other.id ≠ role.id → (other ∈ s'.roles.rows ↔ other ∈ s.roles.rows)
  cached : s'.cachedRoles = s.cachedRoles
  base : s'.base = s.base

theorem RoleChange.same {s : RoleStore} {role : StoredRole} (h : role ∈ s.roles.rows) :
    RoleChange s s role :=
  ⟨h, fun _ _ => Iff.rfl, rfl, rfl⟩

theorem RoleChange.trans {s s₁ s' : RoleStore} {role role' : StoredRole}
    (h : RoleChange s s₁ role) (h' : RoleChange s₁ s' role') (hid : role.id = role'.id) :
    RoleChange s s' role' := by
  refine ⟨h'.stored, fun other hother => ?_, h'.cached.trans h.cached, h'.base.trans h.base⟩
  exact (h'.others other hother).trans (h.others other (hid ▸ hother))

theorem RoleStore.role_eq_some {s : RoleStore} {tenantCode : String} {role : StoredRole} :
    s.role tenantCode id = some role ↔
      role ∈ s.roles.rows ∧ role.row.tenantCode = tenantCode ∧ role.id = id :=
  Keyed.find?_and_key

-- ============================================================================
-- Calls
-- ============================================================================

theorem orThrow_ok {α : Type} {x : Except RoleError α} {a : α}
    (h : orThrow x w = (.ok a, w')) : x = .ok a ∧ w' = w := by
  cases x with
  | error e => cases h
  | ok b =>
    obtain ⟨rfl, rfl⟩ := Faulty.pure_ok.mp h
    exact ⟨rfl, rfl⟩

theorem runInTransaction_ok {α : Type} {body : RoleService α} {a : α} :
    runInTransaction body w = (.ok a, w') ↔ body w = (.ok a, w') :=
  Faulty.transaction_ok

namespace RoleRepository

theorem findRequired_ok {missing : RoleError} {role : StoredRole}
    (h : findRequired ctx id missing w = (.ok role, w')) :
    w'.state = w.state ∧ role ∈ w.state.roles.rows ∧ role.row.tenantCode = ctx.tenantCode ∧
      role.id = id := by
  obtain ⟨found, w₁, hfind, hrest⟩ := Faulty.bind_ok.mp h
  obtain ⟨rfl, hstate⟩ := Faulty.read_ok hfind
  rcases hsome : w.state.role ctx.tenantCode id with _ | role'
  · rw [hsome] at hrest
    exact absurd hrest Faulty.throw_ok
  · rw [hsome] at hrest
    obtain ⟨rfl, rfl⟩ := Faulty.pure_ok.mp hrest
    exact ⟨hstate, RoleStore.role_eq_some.mp hsome⟩

theorem findByName_ok {name : String} {owner : Option Uuid}
    (h : findByName ctx name w = (.ok owner, w')) : w'.state = w.state :=
  (Faulty.read_ok h).2

theorem count_ok {f : RoleStore → Nat} {n : Nat} (h : count f w = (.ok n, w')) :
    w'.state = w.state := by
  have htriple : Faulty.Triple (fun s => s = w.state) (count f) (fun _ s => s = w.state)
      (fun s => s = w.state) :=
    Faulty.Triple.tryCatch (Faulty.triple_read (fun _ hs => hs) fun _ hs => hs) fun _ =>
      Faulty.triple_pure fun _ hs => hs
  exact htriple.of_ok rfl h

theorem countAssignedUserGroupAndUser_ok {counts : RoleCounts}
    (h : countAssignedUserGroupAndUser ctx id w = (.ok counts, w')) : w'.state = w.state := by
  simp only [countAssignedUserGroupAndUser, Faulty.bind_ok, Faulty.pure_ok] at h
  obtain ⟨groups, w₁, hgroups, users, w₂, husers, -, rfl⟩ := h
  rw [count_ok husers, count_ok hgroups]

/-- A write to a stored role that keeps its id. -/
theorem overwrite_ok {f : StoredRole → Option StoredRole} {role : StoredRole} {u : Unit}
    (hrole : role ∈ w.state.roles.rows)
    (hid : ∀ role', f role = some role' → role'.id = role.id)
    (h : overwrite role.id f w = (.ok u, w')) :
    ∃ role', f role = some role' ∧ RoleChange w.state w'.state role' := by
  have hcall := Faulty.call_ok h
  have hfind : w.state.roles.rows.find? (fun r => r.id = role.id) = some role := by
    rcases hfind : w.state.roles.rows.find? (fun r => r.id = role.id) with _ | found
    · exact absurd (decide_eq_true rfl) (List.find?_eq_none.mp hfind role hrole)
    · have hsame := w.state.roles.row_unique (List.mem_of_find?_eq_some hfind) hrole
        (by simpa using List.find?_some hfind)
      exact hfind.trans (congrArg some hsame)
  rw [hfind] at hcall
  simp only at hcall
  split at hcall
  · cases hcall
  next role' hf =>
    split at hcall
    · cases hcall
    · obtain ⟨-, hstate⟩ := Prod.mk.inj (Except.ok.inj hcall)
      have hkey : role'.id ∈ w.state.roles.rows.map StoredRole.id :=
        hid role' hf ▸ List.mem_map_of_mem hrole
      refine ⟨role', hf, ?_⟩
      rw [← hstate]
      refine ⟨(Keyed.mem_replace hkey).mpr (.inl rfl), fun other hother => ?_, rfl, rfl⟩
      show other ∈ (w.state.roles.replace role').rows ↔ _
      rw [Keyed.mem_replace hkey]
      constructor
      · rintro (rfl | ⟨hmem, -⟩)
        · exact absurd rfl hother
        · exact hmem
      · exact fun hmem => .inr ⟨hmem, hother⟩

theorem insert_ok {row : RoleRow} {u : Unit} (h : insert row w = (.ok u, w')) :
    RoleChange w.state w'.state ⟨row, .empty⟩ := by
  have hcall := Faulty.call_ok h
  simp only at hcall
  split at hcall
  · cases hcall
  · split at hcall
    · cases hcall
    next roles hroles =>
      obtain ⟨-, hstate⟩ := Prod.mk.inj (Except.ok.inj hcall)
      have hrows := Keyed.insert_rows hroles
      rw [← hstate]
      refine ⟨?_, fun other hother => ?_, rfl, rfl⟩
      · show _ ∈ roles.rows
        rw [hrows]
        exact List.mem_append_right _ (List.mem_singleton_self _)
      · show other ∈ roles.rows ↔ _
        rw [hrows, List.mem_append, List.mem_singleton]
        refine or_iff_left ?_
        rintro rfl
        exact hother rfl

end RoleRepository

theorem bulkSave_ok {role : StoredRole} {permissions : List RolePermission} {u : Unit}
    (hrole : role ∈ w.state.roles.rows)
    (h : RolePermissionRepository.bulkSave role.id permissions w = (.ok u, w')) :
    ∃ role', role.savePermissions permissions = some role' ∧
      RoleChange w.state w'.state role' := by
  unfold RolePermissionRepository.bulkSave at h
  split at h
  next hnil =>
    obtain ⟨-, rfl⟩ := Faulty.pure_ok.mp h
    rw [List.length_eq_zero_iff] at hnil
    subst hnil
    exact ⟨role, rfl, .same hrole⟩
  · refine RoleRepository.overwrite_ok hrole (fun role' hsave => ?_) h
    obtain ⟨table, -, rfl⟩ := Option.map_eq_some_iff.mp hsave
    rfl

theorem deleteByRoleId_ok {role : StoredRole} {u : Unit} (hrole : role ∈ w.state.roles.rows)
    (h : RolePermissionRepository.deleteByRoleId role.id w = (.ok u, w')) :
    RoleChange w.state w'.state role.deletePermissions := by
  obtain ⟨role', hdelete, hchange⟩ := RoleRepository.overwrite_ok hrole
    (fun role' hdelete => by rw [← Option.some.inj hdelete]; rfl) h
  rw [Option.some.inj hdelete]
  exact hchange

theorem save_ok {role : StoredRole} {entity : RoleEntity} {u : Unit}
    (hrole : role ∈ w.state.roles.rows) (hid : entity.id = role.id)
    (h : RoleRepository.save entity w = (.ok u, w')) :
    RoleChange w.state w'.state ⟨entity.save role.row, role.permissions⟩ := by
  rw [RoleRepository.save, hid] at h
  obtain ⟨role', hsave, hchange⟩ := RoleRepository.overwrite_ok hrole
    (fun role' hsave => by rw [← Option.some.inj hsave]; rfl) h
  rw [Option.some.inj hsave]
  exact hchange

theorem outbox_ok {s : RoleStore} {role : StoredRole} {event : RoleEvent} {u : Unit}
    (hchange : RoleChange s w.state role)
    (h : OutboxEventRepository.save event w = (.ok u, w')) : RoleChange s w'.state role := by
  rw [Faulty.write_ok h]
  exact ⟨hchange.stored, hchange.others, hchange.cached, hchange.base⟩

-- ============================================================================
-- Transactions
-- ============================================================================

namespace RoleApplicationService

open RoleRepository RolePermissionRepository RoleCacheService

theorem validateRoleName_ok {name : String} {u : Unit}
    (h : validateRoleName ctx name w = (.ok u, w')) : w'.state = w.state := by
  obtain ⟨owner, w₁, hfind, hrest⟩ := Faulty.bind_ok.mp h
  have hstate := findByName_ok hfind
  cases owner with
  | some id => exact absurd hrest Faulty.throw_ok
  | none =>
    obtain ⟨-, rfl⟩ := Faulty.pure_ok.mp hrest
    exact hstate

/-- A new role has the listed permissions. -/
theorem insertRole_ok {row : RoleRow} {permissionCodes : List String} {event : RoleEvent}
    {entity : RoleEntity} (h : insertRole row permissionCodes event w = (.ok entity, w')) :
    entity = .load row ∧ ∃ role : StoredRole, role.row = row ∧
      role.permissions.rows = unprotected permissionCodes ∧
      RoleChange w.state w'.state role := by
  simp only [insertRole, runInTransaction_ok, Faulty.bind_ok, Faulty.pure_ok] at h
  obtain ⟨u, w₁, hinsert, v, w₂, hbulk, x, w₃, houtbox, rfl, rfl⟩ := h
  have hnew := insert_ok hinsert
  obtain ⟨role, hrole, hchange⟩ := bulkSave_ok hnew.stored hbulk
  obtain ⟨table, htable, rfl⟩ := Option.map_eq_some_iff.mp hrole
  refine ⟨rfl, ⟨row, table⟩, rfl, ?_, outbox_ok (hnew.trans hchange rfl) houtbox⟩
  rw [Keyed.insertAll_rows htable]
  rfl

/-- The transaction of an edit does what `write` says. -/
theorem editRole_ok {request : RoleRequest} {missing : RoleError} {event : RoleEvent}
    {entity : RoleEntity} (h : editRole ctx id request missing event w = (.ok entity, w')) :
    ∃ role role', role ∈ w.state.roles.rows ∧ role.row.tenantCode = ctx.tenantCode ∧
      role.id = id ∧ entity = change ⟨request, ctx.userId⟩ (.load role.row) ∧
      write ⟨request, ctx.userId⟩ (.load role.row) role = some role' ∧
      RoleChange w.state w'.state role' := by
  simp only [editRole, runInTransaction_ok, Faulty.bind_ok] at h
  obtain ⟨role, w₁, hfind, u, w₂, hversion, v, w₃, hreplace, x, w₄, hsave, y, w₅, houtbox,
    hreturn⟩ := h
  obtain ⟨hstate₁, hmem, htenant, rfl⟩ := findRequired_ok hfind
  obtain ⟨-, rfl⟩ := orThrow_ok hversion
  obtain ⟨rfl, rfl⟩ := Faulty.pure_ok.mp hreturn
  rw [← hstate₁] at hmem ⊢
  have hid : (change ⟨request, ctx.userId⟩ (.load role.row)).id = role.id := by
    cases request <;> rfl
  -- the permissions first
  obtain ⟨mid, hmid, hrow, hpermissions⟩ : ∃ mid : StoredRole,
      RoleChange w₂.state w₃.state mid ∧ mid.row = role.row ∧
        write ⟨request, ctx.userId⟩ (.load role.row) role =
          some ⟨(change ⟨request, ctx.userId⟩ (.load role.row)).save role.row,
            mid.permissions⟩ := by
    unfold write
    rcases hnew : newPermissions request (.load role.row) with _ | permissions
    · rw [hnew] at hreplace
      obtain ⟨-, rfl⟩ := Faulty.pure_ok.mp hreplace
      exact ⟨role, .same hmem, rfl, rfl⟩
    · rw [hnew] at hreplace
      obtain ⟨u', w₂', hdelete, hbulk⟩ := Faulty.bind_ok.mp hreplace
      have hdeleted := deleteByRoleId_ok hmem hdelete
      obtain ⟨mid, hmid, hchange⟩ := bulkSave_ok hdeleted.stored hbulk
      refine ⟨mid, ?_, ?_, ?_⟩
      · obtain ⟨table, -, rfl⟩ := Option.map_eq_some_iff.mp hmid
        exact hdeleted.trans hchange rfl
      · obtain ⟨table, -, rfl⟩ := Option.map_eq_some_iff.mp hmid
        rfl
      · simp only [hmid, Option.map_some]
  have hid' : (change ⟨request, ctx.userId⟩ (.load role.row)).id = mid.id := by
    rw [hid, StoredRole.id, StoredRole.id, hrow]
  have hsaved := save_ok hmid.stored hid' hsave
  rw [hrow] at hsaved
  refine ⟨role, _, hmem, htenant, rfl, rfl, hpermissions, ?_⟩
  refine outbox_ok (hmid.trans hsaved ?_) houtbox
  rw [StoredRole.id, hrow]
  rfl

/-- A deactivation that commits: the transaction, and the cache entry. -/
theorem deactivate_ok {dto : DeactivateRoleDto} {entity : RoleEntity}
    {counts : Option RoleCounts}
    (h : deactivate ctx id dto w = (.ok (.role entity counts), w')) :
    ∃ (w₁ w₂ : World RoleStore RoleError) (event : RoleEvent) (u : Unit),
      w₁.state = w.state ∧
      editRole ctx id (.deactivate dto) (.roleNotFound id) event w₁ = (.ok entity, w₂) ∧
      syncRole entity w₂ = (.ok u, w') := by
  simp only [deactivate, Faulty.bind_ok] at h
  obtain ⟨found, w₁, hfind, u, w₂, hrole, counted, w₃, hcount, hrest⟩ := h
  have hstate : w₃.state = w.state := by
    rw [countAssignedUserGroupAndUser_ok hcount, (orThrow_ok hrole).2, (findRequired_ok hfind).1]
  split at hrest
  · cases (Faulty.pure_ok.mp hrest).1
  · simp only [Faulty.bind_ok, Faulty.pure_ok] at hrest
    obtain ⟨updated, w₄, hedit, y, w₅, hsync, houtcome, rfl⟩ := hrest
    obtain ⟨rfl, -⟩ := RoleOutcome.role.inj houtcome
    exact ⟨w₃, w₄, _, y, hstate, hedit, hsync⟩

/-- A deactivated role is stored as INACTIVE. -/
theorem deactivate_inactive {dto : DeactivateRoleDto} {entity : RoleEntity}
    {counts : Option RoleCounts}
    (h : deactivate ctx id dto w = (.ok (.role entity counts), w')) :
    ∃ role ∈ w'.state.roles.rows, role.row.tenantCode = ctx.tenantCode ∧ role.id = id ∧
      role.row.status = .INACTIVE := by
  obtain ⟨w₁, w₂, event, u, -, hedit, hsync⟩ := deactivate_ok h
  obtain ⟨-, rfl⟩ := Faulty.modify_ok hsync
  obtain ⟨role, role', -, htenant, rfl, rfl, hwrite, hchange⟩ := editRole_ok hedit
  obtain rfl := Option.some.inj hwrite
  exact ⟨_, hchange.stored, htenant, rfl, rfl⟩

end RoleApplicationService

end AccessService.Roles
