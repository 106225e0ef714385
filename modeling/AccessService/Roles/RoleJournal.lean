/-
  AccessService.Roles.RoleJournal

  The role events in the outbox as a journal: over any run of seedings and role operations,
  failing ones among them, the events about a custom role tell its status, its version and
  its permission codes (`role_journal`).  A deletion writes no event, so what the journal
  tells of a role outlives it.
-/

import AccessService.Lib.Moves
import AccessService.Lib.Replay
import AccessService.Roles.RolePermissionClosure

namespace AccessService.Roles

open AccessService.Lib AccessService.Lib.Transition AccessService.Permissions AccessService.Pg
open AccessService.Persistence
open PermissionGraphBuilder RoleApplicationService RoleCacheService RoleRepository
open RolePermissionRepository SystemRoleSeederService

-- ============================================================================
-- What the events tell
-- ============================================================================

/-- What the journal keeps of a role. -/
structure RoleSummary where
  status : RoleStatus
  version : Nat
  permissionCodes : List String
  deriving DecidableEq

def StoredRole.summary (role : StoredRole) : RoleSummary :=
  ⟨role.row.status, role.row.version, role.permissionCodes⟩

namespace RoleEvent

/-- `aggregateId` -/
def roleId : RoleEvent → Uuid
  | .created roleId _ => roleId
  | .copied roleId _ _ => roleId
  | .permissionsUpdated roleId _ => roleId
  | .deactivated roleId _ _ => roleId
  | .reactivated roleId => roleId
  | .renamed roleId _ _ => roleId

/-- The role begins with its first event, and each later one is a version more. -/
def tell : RoleEvent → Option RoleSummary → Option RoleSummary
  | .created _ codes, _ | .copied _ _ codes, _ => some ⟨.ACTIVE, 1, codes⟩
  | .permissionsUpdated _ codes, told => told.map fun role => ⟨role.status, role.version + 1, codes⟩
  | .deactivated _ _ _, told =>
    told.map fun role => ⟨.INACTIVE, role.version + 1, role.permissionCodes⟩
  | .reactivated _, told => told.map fun role => ⟨.ACTIVE, role.version + 1, role.permissionCodes⟩
  | .renamed _ _ _, told =>
    told.map fun role => ⟨role.status, role.version + 1, role.permissionCodes⟩

end RoleEvent

/-- What the events tell of the role. -/
def journalOf (id : Uuid) (events : List RoleEvent) : Option RoleSummary :=
  replay RoleEvent.roleId RoleEvent.tell id events

abbrev Journal : Type := RoleTable × List RoleEvent

def RoleStore.journal (s : RoleStore) : Journal := (s.roles, s.events)

/-- None of the permissions is protected. -/
def Plain (role : StoredRole) : Prop := ∀ p ∈ role.permissions.rows, p.isProtected = false

-- ============================================================================
-- Moves
-- ============================================================================

/-- What an operation does to the roles and the events at once.  Only a role that may go is
    deleted. -/
inductive JournalMove (gone : Uuid → Prop) (before : Journal) : Journal → Prop where
  | same : JournalMove gone before before
  | founded {roles : RoleTable} {role : StoredRole} {event : RoleEvent}
      (custom : role.row.type = .CUSTOM) (plain : Plain role)
      (change : TableChange before.1 roles role) (about : event.roleId = role.id)
      (tells : ∀ told, event.tell told = some role.summary) :
      JournalMove gone before (roles, before.2 ++ [event])
  | revised {roles : RoleTable} {role role' : StoredRole} {event : RoleEvent}
      (mem : role ∈ before.1.rows) (id : role'.id = role.id)
      (type : role'.row.type = role.row.type) (change : TableChange before.1 roles role')
      (about : event.roleId = role.id) (later : event.tell none = none)
      (tells : role.row.type = .CUSTOM → Plain role →
        Plain role' ∧ event.tell (some role.summary) = some role'.summary) :
      JournalMove gone before (roles, before.2 ++ [event])
  | deleted {roles : RoleTable} {id : Uuid} (mayGo : gone id)
      (rest : ∀ other, other ∈ roles.rows ↔ other ∈ before.1.rows ∧ other.id ≠ id) :
      JournalMove gone before (roles, before.2)
  | seeded {roles : RoleTable} (stay : ∀ role ∈ before.1.rows, role ∈ roles.rows)
      (system : ∀ role ∈ roles.rows, role.row.type = .CUSTOM → role ∈ before.1.rows) :
      JournalMove gone before (roles, before.2)

/-- The journal accounts for every custom role, and for none that is not there or may have
    gone. -/
structure Accounted (gone : Uuid → Prop) (j : Journal) : Prop where
  told : ∀ role ∈ j.1.rows, role.row.type = .CUSTOM →
    Plain role ∧ journalOf role.id j.2 = some role.summary
  known : ∀ id summary, journalOf id j.2 = some summary →
    gone id ∨ ∃ role ∈ j.1.rows, role.row.type = .CUSTOM ∧ role.id = id

section Accounted

variable {gone : Uuid → Prop} {before after : Journal} {id : Uuid} {events : List RoleEvent}
  {event : RoleEvent}

theorem journalOf_about (h : event.roleId = id) :
    journalOf id (events ++ [event]) = event.tell (journalOf id events) :=
  replay_append_about h

theorem journalOf_other (h : event.roleId ≠ id) :
    journalOf id (events ++ [event]) = journalOf id events :=
  replay_append_other h

theorem Accounted.move (hbefore : Accounted gone before) (h : JournalMove gone before after) :
    Accounted gone after := by
  cases h with
  | same => exact hbefore
  | @founded roles role event custom plain change about tells =>
    refine ⟨fun other hother hcustom => ?_, fun id summary htold => ?_⟩
    · rcases change.mem hother with rfl | ⟨hold, hid⟩
      · exact ⟨plain, by rw [journalOf_about about, tells]⟩
      · obtain ⟨hplain, htold⟩ := hbefore.told other hold hcustom
        refine ⟨hplain, ?_⟩
        rw [journalOf_other (about.trans_ne hid.symm), htold]
    · by_cases hid : id = role.id
      · exact .inr ⟨role, change.stored, custom, hid.symm⟩
      · rw [journalOf_other (about.trans_ne (Ne.symm hid))] at htold
        refine (hbefore.known id summary htold).imp_right ?_
        rintro ⟨other, hother, hcustom, rfl⟩
        exact ⟨other, (change.others other hid).mpr hother, hcustom, rfl⟩
  | @revised roles role role' event mem hsame type change about later tells =>
    refine ⟨fun other hother hcustom => ?_, fun id summary htold => ?_⟩
    · rcases change.mem hother with rfl | ⟨hold, hid⟩
      · rw [type] at hcustom
        obtain ⟨hplain, htold⟩ := hbefore.told role mem hcustom
        obtain ⟨hplain', htells⟩ := tells hcustom hplain
        exact ⟨hplain', by rw [hsame, journalOf_about about, htold, htells]⟩
      · obtain ⟨hplain, htold⟩ := hbefore.told other hold hcustom
        refine ⟨hplain, ?_⟩
        rw [journalOf_other (about.trans_ne fun h => hid (h.symm.trans hsame.symm)), htold]
    · by_cases hid : id = role.id
      · -- what the event is about had been founded, or else it still is not
        rw [hid, journalOf_about about] at htold
        rcases hwas : journalOf role.id before.2 with _ | was
        · rw [hwas, later] at htold
          cases htold
        · refine (hbefore.known role.id was hwas).imp (fun h => hid ▸ h) ?_
          rintro ⟨other, hother, hcustom, hrole⟩
          obtain rfl := before.1.row_unique hother mem hrole
          exact ⟨role', change.stored, type.trans hcustom, hsame.trans hid.symm⟩
      · rw [journalOf_other (about.trans_ne (Ne.symm hid))] at htold
        refine (hbefore.known id summary htold).imp_right ?_
        rintro ⟨other, hother, hcustom, rfl⟩
        exact ⟨other, (change.others other (hsame ▸ hid)).mpr hother, hcustom, rfl⟩
  | @deleted roles deletedId mayGo rest =>
    refine ⟨fun role hrole => hbefore.told role ((rest role).mp hrole).1,
      fun id summary htold => ?_⟩
    rcases hbefore.known id summary htold with hgone | ⟨role, hrole, hcustom, rfl⟩
    · exact .inl hgone
    · by_cases hid : role.id = deletedId
      · exact .inl (hid ▸ mayGo)
      · exact .inr ⟨role, (rest role).mpr ⟨hrole, hid⟩, hcustom, rfl⟩
  | seeded stay system =>
    refine ⟨fun role hrole hcustom => hbefore.told role (system role hrole hcustom) hcustom,
      fun id summary htold => (hbefore.known id summary htold).imp_right ?_⟩
    rintro ⟨role, hrole, hrest⟩
    exact ⟨role, stay role hrole, hrest⟩

end Accounted

-- ============================================================================
-- What leaves the journal alone
-- ============================================================================

section Leaves

open Faulty

variable {τ : Type} {g : RoleStore → τ} {ctx : RoleContext} {id : Uuid} {name : String}

theorem orThrow_leaves {α : Type} (x : Except RoleError α) : Leaves g (orThrow x) := by
  cases x with
  | error e => exact leaves_throw e
  | ok a => exact leaves_pure a

theorem findRequired_leaves (missing : RoleError) : Leaves g (findRequired ctx id missing) := by
  refine (leaves_read _).bind fun found => ?_
  cases found with
  | some role => exact leaves_pure role
  | none => exact leaves_throw missing

theorem validateRoleName_leaves : Leaves g (validateRoleName ctx name) := by
  refine (leaves_read _).bind fun found => ?_
  cases found with
  | some owner => exact leaves_throw _
  | none => exact leaves_pure ()

theorem newNameOwner_leaves (role : StoredRole) : Leaves g (newNameOwner ctx role name) := by
  unfold newNameOwner
  split
  · exact leaves_read _
  · exact leaves_pure none

theorem count_leaves (f : RoleStore → Nat) : Leaves g (count f) :=
  leaves_tryCatch (leaves_read f) fun _ => leaves_pure 0

theorem countAssignedUserGroupAndUser_leaves :
    Leaves g (countAssignedUserGroupAndUser ctx id) :=
  (count_leaves _).bind fun _ => (count_leaves _).bind fun _ => leaves_pure _

theorem syncRole_leaves (role : RoleEntity) : Leaves RoleStore.journal (syncRole role) :=
  leaves_modify fun _ => rfl

theorem overwrite_leaves (f : StoredRole → Option StoredRole) :
    Leaves RoleStore.events (overwrite id f) := by
  refine leaves_call fun s u s' h => ?_
  split at h
  · obtain ⟨-, rfl⟩ := Prod.mk.inj (Except.ok.inj h)
    rfl
  · split at h
    · cases h
    · split at h
      · cases h
      · obtain ⟨-, rfl⟩ := Prod.mk.inj (Except.ok.inj h)
        rfl

theorem bulkSave_leaves (permissions : List RolePermission) :
    Leaves RoleStore.events (bulkSave id permissions) := by
  unfold bulkSave
  split
  · exact leaves_pure ()
  · exact overwrite_leaves _

theorem replacePermissions_leaves (permissions : Option (List RolePermission)) :
    Leaves RoleStore.events (replacePermissions id permissions) := by
  cases permissions with
  | none => exact leaves_pure ()
  | some permissions => exact (overwrite_leaves _).bind fun _ => bulkSave_leaves permissions

theorem insert_leaves (row : RoleRow) : Leaves RoleStore.events (insert row) := by
  refine leaves_call fun s u s' h => ?_
  simp only at h
  split at h
  · cases h
  · split at h
    · cases h
    · obtain ⟨-, rfl⟩ := Prod.mk.inj (Except.ok.inj h)
      rfl

theorem create_leaves (row : RoleRow) : Leaves RoleStore.events (create row) := by
  intro w
  rcases h : create row w with ⟨e | u, w'⟩
  · exact congrArg RoleStore.events (call_error h)
  · have hinsert := insert_of_create h
    exact (insert_leaves row).ok hinsert

theorem deleteRole_leaves : Leaves RoleStore.events (RoleRepository.delete id) := by
  refine leaves_call fun s u s' h => ?_
  split at h
  · cases h
  · obtain ⟨-, rfl⟩ := Prod.mk.inj (Except.ok.inj h)
    rfl

theorem seedRole_leaves (newId : Uuid) (tenantCode : String) (key : SystemRoleKey) :
    Leaves RoleStore.events (seedRole ctx newId tenantCode key) := by
  refine (leaves_read _).bind fun found => ?_
  cases found with
  | some existing => exact leaves_pure _
  | none =>
    exact (create_leaves _).bind fun _ => (bulkSave_leaves _).bind fun _ => leaves_pure _

end Leaves

-- ============================================================================
-- The operations
-- ============================================================================

section Operations

open Faulty

variable {gone : Uuid → Prop} {ctx : RoleContext} {w w' : World RoleStore RoleError}
  {id newId sourceRoleId : Uuid}

/-- The operation moves the journal. -/
abbrev Journals {α : Type} (gone : Uuid → Prop) (x : RoleService α)
    (w : World RoleStore RoleError) : Prop :=
  Moves (JournalMove gone) RoleStore.journal x w

theorem journal_appended {s s' : RoleStore} {event : RoleEvent}
    (h : s'.events = s.events ++ [event]) : s'.journal = (s'.roles, s.journal.2 ++ [event]) :=
  Prod.ext rfl h

theorem journal_kept {s s' : RoleStore} (h : s'.events = s.events) :
    s'.journal = (s'.roles, s.journal.2) :=
  Prod.ext rfl h

theorem journals_transaction {α : Type} {body : RoleService α}
    (h : ∀ a w', body w = (.ok a, w') → JournalMove gone w.state.journal w'.state.journal) :
    Journals gone (runInTransaction body) w :=
  moves_transaction (fun _ => .same) (fun _ _ => rfl) h

/-- The transaction of `createCustom` and `copy`, with the event of the new role. -/
theorem insertRole_journals {row : RoleRow} {codes : List String} {event : RoleEvent}
    (hcustom : row.type = .CUSTOM) (habout : event.roleId = row.id)
    (htells : ∀ told, event.tell told = some ⟨row.status, row.version, codes⟩) :
    Journals gone (insertRole row codes event) w := by
  refine journals_transaction fun entity w' h => ?_
  obtain ⟨-, role, rfl, hpermissions, hchange⟩ := insertRole_ok (runInTransaction_ok.mpr h)
  have hevents : w'.state.events = w.state.events ++ [event] := by
    simp only [bind_ok, pure_ok] at h
    obtain ⟨u, w₁, hinsert, v, w₂, hbulk, x, w₃, houtbox, -, rfl⟩ := h
    rw [write_ok houtbox, (bulkSave_leaves _).ok hbulk, (insert_leaves _).ok hinsert]
  have hcodes : role.permissionCodes = codes := by
    rw [StoredRole.permissionCodes, hpermissions, unprotected_codes]
  rw [journal_appended hevents]
  refine .founded hcustom (fun p hp => ?_) hchange.table habout fun told => ?_
  · rw [hpermissions] at hp
    exact mem_unprotected hp
  · rw [htells, StoredRole.summary, hcodes]

theorem createCustom_journals (dto : CreateCustomRoleDto) :
    Journals gone (createCustom ctx newId dto) w :=
  Moves.before (orThrow_leaves _) (fun _ => .same) fun _ _ _ =>
    Moves.before validateRoleName_leaves (fun _ => .same) fun _ _ _ =>
      Moves.after (insertRole_journals rfl rfl fun _ => rfl) fun _ =>
        (syncRole_leaves _).bind fun _ => leaves_pure _

theorem copy_journals (dto : CopyRoleDto) : Journals gone (copy ctx newId sourceRoleId dto) w :=
  Moves.before (findRequired_leaves _) (fun _ => .same) fun _ _ _ =>
    Moves.before validateRoleName_leaves (fun _ => .same) fun _ _ _ =>
      Moves.after (insertRole_journals rfl rfl fun _ => rfl) fun _ =>
        (syncRole_leaves _).bind fun _ => leaves_pure _

/-- What an edit's event tells, its writes have done. -/
def Tells (event : RoleEvent) (call : RoleCall) : Prop :=
  event.tell none = none ∧ ∀ role role' : StoredRole, role.row.type = .CUSTOM → Plain role →
    write call (.load role.row) role = some role' →
      Plain role' ∧ event.tell (some role.summary) = some role'.summary

/-- A custom role keeps none of its permissions. -/
theorem write_plain {call : RoleCall} {role role' : StoredRole} (hplain : Plain role)
    {permissions : List RolePermission}
    (hnew : newPermissions call.request (.load role.row) = some permissions)
    (h : write call (.load role.row) role = some role') : role'.permissions.rows = permissions := by
  rcases write_rows h with ⟨hnone, -⟩ | ⟨permissions', hsome, hrows⟩
  · rw [hnew] at hnone
    cases hnone
  · obtain rfl := Option.some.inj (hnew.symm.trans hsome)
    rw [hrows, List.append_left_eq_self, List.eq_nil_iff_forall_not_mem]
    intro p hp
    obtain ⟨hmem, hprotected⟩ := Keyed.mem_deleteWhere.mp hp
    rw [hplain p hmem] at hprotected
    cases hprotected

theorem tells_updateCustom (dto : UpdateCustomRoleDto) (userId : Option Uuid) :
    Tells (.permissionsUpdated id dto.permissionCodes) ⟨.updateCustom dto, userId⟩ := by
  refine ⟨rfl, fun role role' _ hplain h => ?_⟩
  have hrows : role'.permissions.rows = unprotected dto.permissionCodes := write_plain hplain rfl h
  refine ⟨fun p hp => ?_, ?_⟩
  · rw [hrows] at hp
    exact mem_unprotected hp
  · have hcodes : role'.permissionCodes = dto.permissionCodes := by
      rw [StoredRole.permissionCodes, hrows]
      exact unprotected_codes _
    rw [StoredRole.summary, StoredRole.summary, hcodes, write_row h]
    rfl

theorem tells_updatePermissions (dto : UpdateRolePermissionsDto) (userId : Option Uuid) :
    Tells (.permissionsUpdated id dto.permissionCodes) ⟨.updatePermissions dto, userId⟩ := by
  refine ⟨rfl, fun role role' hcustom hplain h => ?_⟩
  have hrows := write_plain hplain rfl h
  have hnone : protectedCodes role.row.type role.row.systemRoleKey = [] := by
    rw [hcustom]
    rfl
  refine ⟨fun p hp => ?_, ?_⟩
  · rw [hrows] at hp
    obtain ⟨code, -, rfl⟩ := List.mem_map.mp hp
    exact decide_eq_false fun hmem => List.not_mem_nil (hnone ▸ hmem)
  · have hcodes : role'.permissionCodes = dto.permissionCodes := by
      rw [StoredRole.permissionCodes, hrows, List.map_map]
      exact List.map_id _
    rw [StoredRole.summary, StoredRole.summary, hcodes, write_row h]
    rfl

theorem tells_deactivate (dto : DeactivateRoleDto) (userId : Option Uuid) (groups users : Nat) :
    Tells (.deactivated id groups users) ⟨.deactivate dto, userId⟩ := by
  refine ⟨rfl, fun role role' _ hplain h => ?_⟩
  obtain rfl := Option.some.inj h
  exact ⟨hplain, rfl⟩

/-- The transaction of an edit, with an event that tells it. -/
theorem editRole_journals {request : RoleRequest} {missing : RoleError} {event : RoleEvent}
    (habout : event.roleId = id) (htells : Tells event ⟨request, ctx.userId⟩) :
    Journals gone (editRole ctx id request missing event) w := by
  refine journals_transaction fun entity w' h => ?_
  obtain ⟨role, role', hrole, -, rfl, -, hwrite, hchange⟩ := editRole_ok (runInTransaction_ok.mpr h)
  have hevents : w'.state.events = w.state.events ++ [event] := by
    simp only [bind_ok] at h
    obtain ⟨locked, w₁, hfind, u, w₂, hversion, v, w₃, hreplace, x, w₄, hsave, y, w₅, houtbox,
      hreturn⟩ := h
    obtain ⟨-, rfl⟩ := pure_ok.mp hreturn
    rw [write_ok houtbox, (overwrite_leaves _).ok hsave, (replacePermissions_leaves _).ok hreplace,
      (orThrow_ok hversion).2, (findRequired_ok hfind).1]
  have hrow := write_row hwrite
  have hid : role'.id = role.id := by
    rw [StoredRole.id, hrow]
    rfl
  rw [journal_appended hevents]
  refine .revised hrole hid ?_ hchange.table habout htells.1 fun hcustom hplain =>
    htells.2 role role' hcustom hplain hwrite
  exact (write_kind hwrite).1.symm

theorem updateCustom_journals (dto : UpdateCustomRoleDto) :
    Journals gone (updateCustom ctx id dto) w := by
  refine Moves.before (findRequired_leaves _) (fun _ => .same) fun role _ _ => ?_
  refine Moves.before (orThrow_leaves _) (fun _ => .same) fun _ _ _ => ?_
  refine Moves.before (newNameOwner_leaves _) (fun _ => .same) fun _ _ _ => ?_
  refine Moves.before (orThrow_leaves _) (fun _ => .same) fun _ _ _ => ?_
  refine Moves.before (orThrow_leaves _) (fun _ => .same) fun _ _ _ => ?_
  refine Moves.before countAssignedUserGroupAndUser_leaves (fun _ => .same) fun counts _ _ => ?_
  split
  · exact (leaves_pure _).moves fun _ => .same
  · exact Moves.after (editRole_journals rfl (tells_updateCustom dto ctx.userId)) fun _ =>
      (syncRole_leaves _).bind fun _ => leaves_pure _

theorem updatePermissions_journals (dto : UpdateRolePermissionsDto) :
    Journals gone (updatePermissions ctx id dto) w := by
  refine Moves.before (findRequired_leaves _) (fun _ => .same) fun role _ _ => ?_
  refine Moves.before (orThrow_leaves _) (fun _ => .same) fun _ _ _ => ?_
  refine Moves.before (orThrow_leaves _) (fun _ => .same) fun _ _ _ => ?_
  refine Moves.before (count_leaves _) (fun _ => .same) fun affectedUserCount _ _ => ?_
  split
  · exact (leaves_pure _).moves fun _ => .same
  · exact Moves.after (editRole_journals rfl (tells_updatePermissions dto ctx.userId)) fun _ =>
      (syncRole_leaves _).bind fun _ => (count_leaves _).bind fun _ => leaves_pure _

theorem deactivate_journals (dto : DeactivateRoleDto) :
    Journals gone (deactivate ctx id dto) w := by
  refine Moves.before (findRequired_leaves _) (fun _ => .same) fun role _ _ => ?_
  refine Moves.before (orThrow_leaves _) (fun _ => .same) fun _ _ _ => ?_
  refine Moves.before countAssignedUserGroupAndUser_leaves (fun _ => .same) fun counts _ _ => ?_
  split
  · exact (leaves_pure _).moves fun _ => .same
  · exact Moves.after (editRole_journals rfl (tells_deactivate dto ctx.userId _ _)) fun _ =>
      (syncRole_leaves _).bind fun _ => leaves_pure _

/-- A save of the role as read under the lock, with an event that tells it. -/
theorem save_journals {role : StoredRole} {entity : RoleEntity} {event : RoleEvent}
    {w₁ w₂ : World RoleStore RoleError} {u v : Unit} (hrole : role ∈ w.state.roles.rows)
    (hid : entity.id = role.id) (htype : entity.type = role.row.type)
    (habout : event.roleId = role.id) (hlater : event.tell none = none)
    (htells : event.tell (some role.summary) =
      some ⟨entity.status, entity.version, role.permissionCodes⟩)
    (hsave : save entity w = (.ok u, w₁))
    (houtbox : OutboxEventRepository.save event w₁ = (.ok v, w₂)) :
    JournalMove gone w.state.journal w₂.state.journal := by
  have hchange := (outbox_ok (save_ok hrole hid hsave) houtbox).table
  have hevents : w₂.state.events = w.state.events ++ [event] := by
    rw [write_ok houtbox, (overwrite_leaves _).ok hsave]
  rw [journal_appended hevents]
  refine .revised hrole ?_ ?_ hchange habout hlater fun _ hplain => ⟨hplain, htells⟩
  · rfl
  · exact htype

theorem reactivate_journals : Journals gone (reactivate ctx id) w := by
  refine Moves.before (findRequired_leaves _) (fun _ => .same) fun _ w₁ _ => ?_
  refine Moves.after (journals_transaction fun saved w₂ h => ?_) fun _ =>
    (syncRole_leaves _).bind fun _ => countAssignedUserGroupAndUser_leaves.bind fun _ =>
      leaves_pure _
  simp only [bind_ok, pure_ok] at h
  obtain ⟨locked, w₃, hlock, u, w₄, hsave, v, w₅, houtbox, -, rfl⟩ := h
  obtain ⟨hstate, hlocked, -, rfl⟩ := findRequired_ok hlock
  rw [← hstate] at hlocked ⊢
  exact save_journals hlocked rfl rfl rfl rfl rfl hsave houtbox

/-- A name that stays writes no event, and no version. -/
theorem rename_journals (dto : RenameRoleDto) : Journals gone (rename ctx id dto) w := by
  refine Moves.after (journals_transaction fun saved w₁ h => ?_) fun _ =>
    (syncRole_leaves _).bind fun _ => leaves_pure _
  obtain ⟨locked, w₂, hlock, hbody⟩ := bind_ok.mp h
  obtain ⟨hstate, hlocked, -, rfl⟩ := findRequired_ok hlock
  split at hbody
  · obtain ⟨-, rfl⟩ := pure_ok.mp hbody
    rw [hstate]
    exact .same
  · simp only [bind_ok, pure_ok] at hbody
    obtain ⟨u, w₃, hname, v, w₄, hsave, y, w₅, houtbox, -, rfl⟩ := hbody
    rw [← hstate, ← validateRoleName_ok hname] at hlocked ⊢
    exact save_journals hlocked rfl rfl rfl rfl rfl hsave houtbox

theorem delete_journals {roleId : Uuid} (hgone : gone roleId) :
    Journals gone (RoleApplicationService.delete ctx roleId) w := by
  refine Moves.after (journals_transaction fun u w₁ h => ?_) fun _ => leaves_modify fun _ => rfl
  obtain ⟨role, w₂, hfind, hbody⟩ := bind_ok.mp h
  obtain ⟨hstate, hrole, -, rfl⟩ := findRequired_ok hfind
  split at hbody
  · exact absurd hbody throw_ok
  next hcustom =>
    obtain ⟨v, w₃, hpermissions, hdelete⟩ := bind_ok.mp hbody
    have hchange := deleteByRoleId_ok (hstate ▸ hrole) hpermissions
    rw [hstate] at hchange
    have hrows : w₁.state.roles = w₃.state.roles.deleteWhere fun other => other.id = role.id := by
      have hcall := call_ok hdelete
      split at hcall
      · cases hcall
      · exact congrArg RoleStore.roles (Prod.mk.inj (Except.ok.inj hcall)).2.symm
    have hevents : w₁.state.events = w.state.events := by
      rw [deleteRole_leaves.ok hdelete, (overwrite_leaves _).ok hpermissions, hstate]
    rw [journal_kept hevents]
    refine .deleted hgone fun other => ?_
    rw [hrows, Keyed.mem_deleteWhere, decide_eq_false_iff_not]
    exact and_congr_left fun hid => hchange.others other hid

/-- Seeded roles are no custom roles. -/
theorem custom_of_seeds {before after : RoleTable} {tenantCode : String} {role : StoredRole}
    (h : Relation.ReflTransGen (SeedsSome tenantCode) before after) (hrole : role ∈ after.rows)
    (hcustom : role.row.type = .CUSTOM) : role ∈ before.rows := by
  induction h with
  | refl => exact hrole
  | tail _ hstep ih =>
    obtain ⟨key, -, new, hrow, -, -, hchange⟩ := hstep
    rcases hchange.mem hrole with rfl | ⟨hold, -⟩
    · rw [hrow] at hcustom
      cases hcustom
    · exact ih hold

theorem seedBaselineSystemRoles_journals (newIds : SystemRoleKey → Uuid) :
    Journals gone (seedBaselineSystemRoles ctx newIds ctx.tenantCode) w := by
  refine Moves.after (journals_transaction fun created w₁ h => ?_) fun created =>
    (leaves_forEach (fun _ => syncRole_leaves _) created).bind fun _ => leaves_pure _
  obtain ⟨hsteps, -⟩ := seedRoles_ok h
  have hevents : w₁.state.events = w.state.events :=
    (leaves_collect (fun key => (seedRole_leaves _ _ key).bind fun _ => leaves_pure _) _).ok h
  rw [journal_kept hevents]
  exact .seeded (fun role hrole => mem_of_seeds hsteps hrole) fun role hrole hcustom =>
    custom_of_seeds hsteps hrole hcustom

end Operations

-- ============================================================================
-- Runs
-- ============================================================================

section Runs

variable {gone : Uuid → Prop} {graph : PermissionDependencyGraph} {start : RoleStore → Prop}
  {s t : RoleStore} {steps : List RoleActivity}

theorem RoleAction.journals (ctx : RoleContext) (w : World RoleStore RoleError)
    (action : RoleAction) (hgone : ∀ id, action = .delete id → gone id) :
    JournalMove gone w.state.journal (action.run ctx w).journal := by
  cases action with
  | perform operation =>
    cases operation with
    | createCustom newId dto => exact createCustom_journals dto
    | copy newId sourceRoleId dto => exact copy_journals dto
    | updateCustom id dto => exact updateCustom_journals dto
    | updatePermissions id dto => exact updatePermissions_journals dto
    | deactivate id dto => exact deactivate_journals dto
    | reactivate id => exact reactivate_journals
    | rename id dto => exact rename_journals dto
  | delete roleId => exact delete_journals (hgone roleId rfl)
  | seedBaselineSystemRoles newIds => exact seedBaselineSystemRoles_journals newIds

theorem accounted_run (hgone : ∀ x ∈ steps, ∀ id, x.action = .delete id → gone id)
    (hs : Accounted gone s.journal) (h : (roleActivities graph start).execute s steps = some t) :
    Accounted gone t.journal := by
  induction steps generalizing s with
  | nil =>
    cases h
    exact hs
  | cons x steps ih =>
    obtain ⟨u, hstep, hrest⟩ := System.execute_cons.mp h
    obtain rfl := Option.some.inj hstep
    have hmove := x.action.journals (x.context graph) ⟨s, x.faults⟩ (hgone x List.mem_cons_self)
    exact ih (fun y hy => hgone y (List.mem_cons_of_mem x hy)) (hs.move hmove) hrest

/-- Over any run from a store of system roles and no role event, whatever throws: the events
    about a custom role rebuild its status, version and permission codes; and a role that
    they tell of is there, unless a deletion of it was asked for. -/
theorem role_journal (hs : SystemRolesOnly s) (hnone : s.events = [])
    (h : (roleActivities graph SystemRolesOnly).execute s steps = some t) :
    (∀ role ∈ t.roles.rows, role.row.type = .CUSTOM →
      journalOf role.id t.events = some role.summary) ∧
    ∀ id summary, journalOf id t.events = some summary →
      (∃ x ∈ steps, x.action = .delete id) ∨
        ∃ role ∈ t.roles.rows, role.row.type = .CUSTOM ∧ role.id = id ∧ role.summary = summary := by
  have hstart : Accounted (fun id => ∃ x ∈ steps, x.action = .delete id) s.journal := by
    refine ⟨fun role hrole hcustom => ?_, fun id summary htold => ?_⟩
    · obtain ⟨key, hsystem, -⟩ := hs role hrole
      rw [hsystem] at hcustom
      cases hcustom
    · rw [RoleStore.journal, hnone] at htold
      cases htold
  have hend := accounted_run (fun x hx id hdelete => ⟨x, hx, hdelete⟩) hstart h
  refine ⟨fun role hrole hcustom => (hend.told role hrole hcustom).2, fun id summary htold => ?_⟩
  refine (hend.known id summary htold).imp_right ?_
  rintro ⟨role, hrole, hcustom, rfl⟩
  have hsummary := (hend.told role hrole hcustom).2.symm.trans htold
  exact ⟨role, hrole, hcustom, rfl, Option.some.inj hsummary⟩

end Runs

/-- A role that is created, edited and deactivated, and a copy of it that is deleted. -/
def createEditAndCopy : List RoleActivity :=
  [⟨"acme", none, .seedBaselineSystemRoles seededIds, []⟩,
    ⟨"acme", none, .perform (.createCustom sampleRoleId
      { name := "Reviewer", permissionCodes := ["leave.view", "leave.approve"] }), []⟩,
    ⟨"acme", none, .perform (.updateCustom sampleRoleId
      { name := "Reviewer", permissionCodes := ["leave.view"] }), []⟩,
    ⟨"acme", none, .perform (.copy copiedRoleId sampleRoleId { name := "Auditor" }), []⟩,
    ⟨"acme", none, .perform (.deactivate sampleRoleId { confirmed := some true }), []⟩,
    ⟨"acme", none, .delete copiedRoleId, []⟩]

theorem role_journal_sample :
    ∃ t, (roleActivities (buildGraph platformCatalog) SystemRolesOnly).execute emptyRoleStore
        createEditAndCopy = some t ∧
      ∀ role ∈ t.roles.rows, role.row.type = .CUSTOM →
        journalOf role.id t.events = some role.summary := by
  have hruns : ((roleActivities (buildGraph platformCatalog) SystemRolesOnly).execute
      emptyRoleStore createEditAndCopy).isSome = true := rfl
  obtain ⟨t, ht⟩ := Option.isSome_iff_exists.mp hruns
  exact ⟨t, ht, (role_journal systemRolesOnly_empty rfl ht).1⟩

/-- The copy outlives its role in the journal. -/
example : ((roleActivities (buildGraph platformCatalog) SystemRolesOnly).execute emptyRoleStore
    createEditAndCopy).any (fun t =>
      journalOf sampleRoleId t.events = some ⟨.INACTIVE, 3, ["leave.view"]⟩ &&
      journalOf copiedRoleId t.events = some ⟨.ACTIVE, 1, ["leave.view"]⟩ &&
      (t.role "acme" copiedRoleId).isNone) = true := by
  decide +kernel

end AccessService.Roles
