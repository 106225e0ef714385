/-
  AccessService.Roles.BaselineSeeding

  `seedBaselineSystemRoles` in a tenant that has none of the baseline roles yet: undisturbed,
  and with ids that no role has, it returns.
-/

import AccessService.Lib.Undisturbed
import AccessService.Roles.RoleTransitions

namespace AccessService.Roles

open AccessService.Lib AccessService.Pg AccessService.Persistence
open RoleCacheService RoleRepository RolePermissionRepository SystemRoleSeederService

/-- The tenant has no role for the keys, nor one of their names, and their ids are new. -/
def Awaits (tenantCode : String) (newIds : SystemRoleKey → Uuid) (keys : List SystemRoleKey)
    (s : RoleStore) : Prop :=
  ∀ key ∈ keys, ∀ role ∈ s.roles.rows, role.id ≠ newIds key ∧
    (role.row.tenantCode = tenantCode →
      role.row.name ≠ key.defaultName ∧ role.row.systemRoleKey ≠ some key)

namespace SystemRoleKey

theorem defaultName_injective {key key' : SystemRoleKey} (h : key.defaultName = key'.defaultName) :
    key = key' := by
  revert h
  cases key <;> cases key' <;> decide

theorem values_nodup : values.Nodup := by decide

/-- No template lists a code twice. -/
theorem template_nodup (key : SystemRoleKey) :
    ((SYSTEM_ROLE_TEMPLATES key).map RolePermission.permissionCode).Nodup := by
  cases key <;> decide

theorem template_length (key : SystemRoleKey) : (SYSTEM_ROLE_TEMPLATES key).length ≠ 0 := by
  cases key <;> decide

end SystemRoleKey

section Seeding

variable {ctx : RoleContext} {newIds : SystemRoleKey → Uuid} {key : SystemRoleKey}
  {keys : List SystemRoleKey} {s : RoleStore}

/-- The role of the key is stored, without permissions. -/
def seeded (s : RoleStore) (tenantCode : String) (newId : Uuid) (key : SystemRoleKey)
    (permissions : Keyed RolePermission RolePermission.permissionCode) (after : RoleStore) : Prop :=
  after.roles.rows = s.roles.rows ++ [⟨systemRole tenantCode newId key, permissions⟩]

theorem Awaits.next (h : Awaits ctx.tenantCode newIds (key :: keys) s)
    (hnodup : (key :: keys).Nodup) (hids : Function.Injective newIds) {after : RoleStore}
    {permissions : Keyed RolePermission RolePermission.permissionCode}
    (hafter : seeded s ctx.tenantCode (newIds key) key permissions after) :
    Awaits ctx.tenantCode newIds keys after := by
  intro key' hkey' role hrole
  have hne : key ≠ key' := fun heq => (List.nodup_cons.mp hnodup).1 (heq ▸ hkey')
  rw [hafter] at hrole
  rcases List.mem_append.mp hrole with hold | hnew
  · exact h key' (List.mem_cons_of_mem key hkey') role hold
  · rw [List.mem_singleton.mp hnew]
    refine ⟨fun hid => hne (hids hid), fun _ => ⟨fun hname => ?_, fun hkey => ?_⟩⟩
    · exact hne (SystemRoleKey.defaultName_injective hname)
    · exact hne (Option.some.inj hkey)

theorem create_succeeds :
    Faulty.Succeeds (Awaits ctx.tenantCode newIds (key :: keys))
      (create (systemRole ctx.tenantCode (newIds key) key)) fun _ after => ∃ s,
        Awaits ctx.tenantCode newIds (key :: keys) s ∧
          seeded s ctx.tenantCode (newIds key) key .empty after := by
  refine Faulty.succeeds_call fun s hs => ?_
  have hmine := hs key List.mem_cons_self
  have hkey : s.keyClash ⟨systemRole ctx.tenantCode (newIds key) key, .empty⟩ = false := by
    refine Bool.and_eq_false_imp.mpr fun _ => List.any_eq_false.mpr fun role hrole hclash => ?_
    simp only [Bool.and_eq_true, decide_eq_true_eq] at hclash
    exact ((hmine role hrole).2 hclash.1.1).2 hclash.1.2
  have hname : s.nameClash ⟨systemRole ctx.tenantCode (newIds key) key, .empty⟩ = false := by
    refine List.any_eq_false.mpr fun role hrole hclash => ?_
    simp only [Bool.and_eq_true, decide_eq_true_eq] at hclash
    exact ((hmine role hrole).2 hclash.1.1).1 hclash.1.2
  have hfresh : newIds key ∉ s.roles.rows.map StoredRole.id := by
    intro hmem
    obtain ⟨role, hrole, hid⟩ := List.mem_map.mp hmem
    exact (hmine role hrole).1 hid
  obtain ⟨roles, hroles⟩ : ∃ roles,
      s.roles.insert ⟨systemRole ctx.tenantCode (newIds key) key, .empty⟩ = some roles :=
    ⟨_, dif_neg hfresh⟩
  refine ⟨(), { s with roles := roles }, ?_, s, hs, Keyed.insert_rows hroles⟩
  simp only [hkey, hname, hroles, Bool.false_eq_true, if_false]

theorem bulkSave_succeeds :
    Faulty.Succeeds (fun after => ∃ s, Awaits ctx.tenantCode newIds (key :: keys) s ∧
        seeded s ctx.tenantCode (newIds key) key .empty after)
      (bulkSave (newIds key) (SYSTEM_ROLE_TEMPLATES key)) fun _ after => ∃ s permissions,
        Awaits ctx.tenantCode newIds (key :: keys) s ∧
          seeded s ctx.tenantCode (newIds key) key permissions after := by
  rw [bulkSave, if_neg (SystemRoleKey.template_length key)]
  refine Faulty.succeeds_call fun after hafter => ?_
  obtain ⟨s, hs, hrows⟩ := hafter
  have hothers : ∀ role ∈ s.roles.rows, role.id ≠ newIds key := fun role hrole =>
    (hs key List.mem_cons_self role hrole).1
  let row := systemRole ctx.tenantCode (newIds key) key
  have hfind : after.roles.rows.find? (fun role => role.id = newIds key) = some ⟨row, .empty⟩ := by
    refine Keyed.find?_unique ?_ (decide_eq_true rfl) fun role hid => of_decide_eq_true hid
    rw [hrows]
    exact List.mem_append_right _ (List.mem_singleton_self _)
  obtain ⟨permissions, hpermissions⟩ : ∃ permissions, (Keyed.empty :
      Keyed RolePermission RolePermission.permissionCode).insertAll (SYSTEM_ROLE_TEMPLATES key) =
        some permissions :=
    Keyed.insertAll_fresh (SystemRoleKey.template_nodup key) fun _ _ hold =>
      absurd hold List.not_mem_nil
  have hclash : after.nameClash ⟨row, permissions⟩ = false := by
    refine List.any_eq_false.mpr fun role hrole hclash => ?_
    simp only [Bool.and_eq_true, decide_eq_true_eq] at hclash
    rw [hrows] at hrole
    rcases List.mem_append.mp hrole with hold | hnew
    · exact ((hs key List.mem_cons_self role hold).2 hclash.1.1).1 hclash.1.2
    · rw [List.mem_singleton.mp hnew] at hclash
      exact hclash.2 rfl
  refine ⟨(), { after with roles := after.roles.replace ⟨row, permissions⟩ }, ?_, s, permissions,
    hs, ?_⟩
  · simp only [hfind, StoredRole.savePermissions, hpermissions, Option.map_some, hclash,
      Bool.false_eq_true, if_false]
  · show after.roles.rows.map _ = _
    rw [hrows, List.map_append]
    refine congrArg₂ _ ?_ ?_
    · refine (List.map_congr_left fun role hrole => ?_).trans (List.map_id _)
      exact if_neg (hothers role hrole)
    · exact congrArg (fun role => [role]) (if_pos rfl)

theorem seedRole_succeeds (hnodup : (key :: keys).Nodup) (hids : Function.Injective newIds) :
    Faulty.Succeeds (Awaits ctx.tenantCode newIds (key :: keys))
      (seedRole ctx (newIds key) ctx.tenantCode key)
      fun _ => Awaits ctx.tenantCode newIds keys := by
  have hfind : Faulty.Succeeds (Awaits ctx.tenantCode newIds (key :: keys))
      (findBySystemKey ctx key) fun found s =>
        Awaits ctx.tenantCode newIds (key :: keys) s ∧ found = none := by
    refine Faulty.succeeds_read fun s hs => ⟨hs, ?_⟩
    refine List.find?_eq_none.mpr fun role hrole hmine => ?_
    rw [Bool.and_eq_true, decide_eq_true_eq, decide_eq_true_eq] at hmine
    exact ((hs key List.mem_cons_self role hrole).2 hmine.1).2 hmine.2
  refine hfind.bind fun found => ?_
  cases found with
  | some existing =>
    intro w _ hnone
    cases hnone.2
  | none =>
    have hawaits : Faulty.Succeeds (fun s => Awaits ctx.tenantCode newIds (key :: keys) s ∧
        (none : Option StoredRole) = none) (create (systemRole ctx.tenantCode (newIds key) key))
        fun _ after => ∃ s, Awaits ctx.tenantCode newIds (key :: keys) s ∧
          seeded s ctx.tenantCode (newIds key) key .empty after :=
      create_succeeds.mono (fun _ hs => hs.1) fun _ _ hs => hs
    refine hawaits.bind fun _ => bulkSave_succeeds.bind fun _ => Faulty.succeeds_pure ?_
    rintro after ⟨s, permissions, hs, hafter⟩
    exact hs.next hnodup hids hafter

theorem seedRoles_succeed (hnodup : keys.Nodup) (hids : Function.Injective newIds) :
    Faulty.Succeeds (Awaits ctx.tenantCode newIds keys)
      (.collect (fun key => do
        let role ← seedRole ctx (newIds key) ctx.tenantCode key
        pure [role]) keys) fun _ _ => True := by
  induction keys with
  | nil => exact Faulty.succeeds_pure fun _ _ => trivial
  | cons key keys ih =>
    have hbody : Faulty.Succeeds (Awaits ctx.tenantCode newIds (key :: keys)) (do
        let role ← seedRole ctx (newIds key) ctx.tenantCode key
        pure [role]) fun _ => Awaits ctx.tenantCode newIds keys :=
      (seedRole_succeeds hnodup hids).bind fun _ => Faulty.succeeds_pure fun _ hs => hs
    exact hbody.bind fun _ => (ih (List.nodup_cons.mp hnodup).2).bind fun _ =>
      Faulty.succeeds_pure fun _ _ => trivial

/-- The seeding of a tenant that has no baseline role. -/
theorem seedBaselineSystemRoles_succeeds (hids : Function.Injective newIds) :
    Faulty.Succeeds (Awaits ctx.tenantCode newIds SystemRoleKey.values)
      (seedBaselineSystemRoles ctx newIds ctx.tenantCode) fun _ _ => True := by
  refine (seedRoles_succeed SystemRoleKey.values_nodup hids).transaction.bind fun created => ?_
  have hsync : ∀ role ∈ created, Faulty.Succeeds (fun _ => True) (syncRole role) fun _ _ => True :=
    fun role _ w hquiet _ => ⟨(), _, rfl, hquiet, trivial⟩
  exact (Faulty.succeeds_forEach hsync).bind fun _ => Faulty.succeeds_pure fun _ _ => trivial

end Seeding

/-- A seeding that returns has seeded one role after another. -/
theorem seedBaselineSystemRoles_steps {ctx : RoleContext} {newIds : SystemRoleKey → Uuid}
    {w w' : World RoleStore RoleError} {roles : List RoleEntity}
    (h : seedBaselineSystemRoles ctx newIds ctx.tenantCode w = (.ok roles, w')) :
    Relation.ReflTransGen (SeedsSome ctx.tenantCode) w.state.roles w'.state.roles := by
  obtain ⟨created, w₁, hseed, hrest⟩ := Faulty.bind_ok.mp h
  rw [(leaves_syncCreated created).ok hrest]
  exact (seedRoles_ok (AccessService.Roles.runInTransaction_ok.mp hseed)).1

end AccessService.Roles
