/-
  AccessService.UserGroups.EffectiveRoleSync

  Replacing a user's effective roles by a list of targets: the rows are told
  apart by their text key, the rows whose key is no target are deleted, and the
  targets whose key no row has are inserted.

  Both repositories of the table do it, `syncEffectiveRolesForUser` here and
  `syncUserEffectiveRoles` in the authorization module, with entries of another
  shape; `syncRows` is what they share.
-/

import AccessService.Js.Collections
import AccessService.UserGroups.Repositories

namespace AccessService.UserGroups

open AccessService.Constants AccessService.Js AccessService.Lib AccessService.Pg
open AccessService.Persistence

-- ============================================================================
-- Entries
-- ============================================================================

structure UserEffectiveRoleEntry where
  roleId : Uuid
  sourceGroupId : Uuid
  scopeType : ScopeType
  scopeEntityId : Option String
  deriving DecidableEq

/-- `text || null`. -/
def orNull (text : Option String) : Option String := text.filter fun s => s ≠ ""

/-- The four fields of a row that an entry has. -/
def entryOf (row : UserEffectiveRole) : UserEffectiveRoleEntry where
  roleId := row.roleId
  sourceGroupId := row.sourceGroupId
  scopeType := row.scopeType
  scopeEntityId := row.scopeEntityId.map Uuid.text

def UserEffectiveRoleEntry.key (e : UserEffectiveRoleEntry) : String :=
  GenerateUserEffectiveRoleKey e.roleId.text e.sourceGroupId.text e.scopeType.text
    e.scopeEntityId

/-- The scope entity, if there is one, is a UUID as the database prints it. -/
def UserEffectiveRoleEntry.Canonical (e : UserEffectiveRoleEntry) : Prop :=
  ∀ text ∈ e.scopeEntityId, isUuidText text = true

theorem entryOf_canonical (row : UserEffectiveRole) : (entryOf row).Canonical := by
  intro text htext
  obtain ⟨id, -, rfl⟩ := Option.map_eq_some_iff.mp htext
  exact id.isUuid

theorem ScopeType.colon_notMem (t : ScopeType) : ':' ∉ t.text.toList := by
  cases t <;> decide

theorem ScopeType.text_injective {t t' : ScopeType} (h : t.text = t'.text) : t = t' := by
  cases t <;> cases t' <;> first | rfl | exact absurd h (by decide)

theorem orNullText_injective {s s' : Option String} (hs : ∀ text ∈ s, isUuidText text = true)
    (hs' : ∀ text ∈ s', isUuidText text = true) (h : orNullText s = orNullText s') :
    s = s' := by
  have huuid : ∀ {text : String}, isUuidText text = true → orNullText (some text) = text := by
    intro text ht
    have hne : text ≠ "" := by
      rintro rfl
      exact absurd ht (by decide)
    exact if_neg hne
  have hnull : isUuidText "null" ≠ true := by decide
  rcases s with _ | a <;> rcases s' with _ | b
  · rfl
  · have hb : "null" = b := h.trans (huuid (hs' b rfl))
    exact absurd (hb ▸ hs' b rfl) hnull
  · have ha : "null" = a := h.symm.trans (huuid (hs a rfl))
    exact absurd (ha ▸ hs a rfl) hnull
  · rw [huuid (hs a rfl), huuid (hs' b rfl)] at h
    rw [h]

theorem key_eq {e e' : UserEffectiveRoleEntry} (h : e.key = e'.key) :
    e.roleId.text = e'.roleId.text ∧ e.sourceGroupId.text = e'.sourceGroupId.text ∧
      e.scopeType.text = e'.scopeType.text ∧
      orNullText e.scopeEntityId = orNullText e'.scopeEntityId :=
  (GenerateUserEffectiveRoleKey_eq e.roleId.colon_notMem e'.roleId.colon_notMem
    e.sourceGroupId.colon_notMem e'.sourceGroupId.colon_notMem
    (ScopeType.colon_notMem _) (ScopeType.colon_notMem _)).mp h

/-- Whatever its scope, an entry's key says which role it has. -/
theorem key_roleId {e e' : UserEffectiveRoleEntry} (h : e.key = e'.key) : e.roleId = e'.roleId :=
  Uuid.ext (key_eq h).1

/-- The keys tell entries apart whose scope entities are printed UUIDs. -/
theorem key_injective {e e' : UserEffectiveRoleEntry} (he : e.Canonical) (he' : e'.Canonical)
    (h : e.key = e'.key) : e = e' := by
  obtain ⟨hrole, hgroup, htype, hscope⟩ := key_eq h
  obtain ⟨role, group, type, scope⟩ := e
  obtain ⟨role', group', type', scope'⟩ := e'
  obtain rfl : role = role' := Uuid.ext hrole
  obtain rfl : group = group' := Uuid.ext hgroup
  obtain rfl : type = type' := ScopeType.text_injective htype
  obtain rfl : scope = scope' := orNullText_injective he he' hscope
  rfl

-- ============================================================================
-- The repository
-- ============================================================================

abbrev EffectiveRoleRow := RowId × UserEffectiveRole

structure SyncDiff where
  inserted : Nat
  deleted : Nat
  deriving DecidableEq

def isRoleOf (tenantCode : String) (userId : Uuid) (row : UserEffectiveRole) : Bool :=
  row.tenantCode = tenantCode && row.userId = userId

theorem isRoleOf_iff {tenantCode : String} {userId : Uuid} {row : UserEffectiveRole} :
    isRoleOf tenantCode userId row = true ↔
      row.tenantCode = tenantCode ∧ row.userId = userId := by
  rw [isRoleOf, Bool.and_eq_true, decide_eq_true_eq, decide_eq_true_eq]

def effectiveRolesOf (db : Database) (tenantCode : String) (userId : Uuid) :
    List EffectiveRoleRow :=
  db.effectiveRoles.find (isRoleOf tenantCode userId)

/-- The row an entry is inserted as; the column refuses a text that is no UUID. -/
def rowOf (ctx : Context) (userId : Uuid) (e : UserEffectiveRoleEntry) :
    Except Failure UserEffectiveRole :=
  let row (scopeEntityId : Option Uuid) : UserEffectiveRole :=
    ⟨ctx.tenantCode, userId, e.roleId, e.sourceGroupId, e.scopeType, scopeEntityId⟩
  match orNull e.scopeEntityId with
  | none => .ok (row none)
  | some text =>
    match ctx.uuid.input text with
    | some id => .ok (row (some id))
    | none => .error invalidUuid

namespace UserEffectiveRoleRepository

def findRows (ctx : Context) (userId : Uuid) : Service (List EffectiveRoleRow) :=
  readDb fun db => effectiveRolesOf db ctx.tenantCode userId

def deleteByTenantAndIds (ctx : Context) (ids : List RowId) : Service Unit :=
  if ids = [] then pure ()
  else
    writeDb fun db => { db with
      effectiveRoles := db.effectiveRoles.deleteWhere fun row =>
        row.2.tenantCode = ctx.tenantCode && row.1 ∈ ids }

/-- INSERT .. ON CONFLICT DO NOTHING. -/
def insertOrIgnore (ctx : Context) (userId : Uuid) (entries : List UserEffectiveRoleEntry) :
    Service Unit :=
  .call fun s =>
    match entries.mapM (rowOf ctx userId) with
    | .ok rows =>
      .ok ((), { s with db := { s.db with
        effectiveRoles := s.db.effectiveRoles.insertIgnore UserEffectiveRole.conflicts rows } })
    | .error e => .error e

def currentMap (rows : List EffectiveRoleRow) : JsMap String EffectiveRoleRow :=
  .ofEntries (rows.map fun row => ((entryOf row.2).key, row))

def targetMap (targets : List UserEffectiveRoleEntry) : JsMap String UserEffectiveRoleEntry :=
  .ofEntries (targets.map fun target => (target.key, target))

def toDeleteIds (rows : List EffectiveRoleRow) (targets : List UserEffectiveRoleEntry) :
    List RowId :=
  ((currentMap rows).without (targetMap targets)).map Prod.fst

def toInsert (rows : List EffectiveRoleRow) (targets : List UserEffectiveRoleEntry) :
    List UserEffectiveRoleEntry :=
  (targetMap targets).without (currentMap rows)

def syncRows (ctx : Context) (userId : Uuid) (targets : List UserEffectiveRoleEntry) :
    Service SyncDiff := do
  let rows ← findRows ctx userId
  let deletes := toDeleteIds rows targets
  let inserts := toInsert rows targets
  .when (deletes.length > 0) (deleteByTenantAndIds ctx deletes)
  .when (inserts.length > 0) (insertOrIgnore ctx userId inserts)
  pure ⟨inserts.length, deletes.length⟩

def syncEffectiveRolesForUser (ctx : Context) (userId : Uuid)
    (targetRoles : List UserEffectiveRoleEntry) : Service SyncDiff :=
  syncRows ctx userId targetRoles

theorem syncRows_leavesTables (ctx : Context) (userId : Uuid)
    (targets : List UserEffectiveRoleEntry) :
    Faulty.Leaves Store.tables (syncRows ctx userId targets) := by
  refine (leaves_readDb _).bind fun rows => ?_
  refine (Faulty.leaves_when ?_).bind fun _ => ?_
  · unfold deleteByTenantAndIds
    split
    · exact Faulty.leaves_pure ()
    · exact Faulty.leaves_write fun _ => rfl
  · refine (Faulty.leaves_when ?_).bind fun _ => Faulty.leaves_pure _
    refine Faulty.leaves_call fun s a s' hf => ?_
    split at hf
    · obtain ⟨-, rfl⟩ := Prod.mk.inj (Except.ok.inj hf)
      rfl
    · cases hf

theorem syncRows_leaves (ctx : Context) (userId : Uuid) (targets : List UserEffectiveRoleEntry) :
    Faulty.Leaves Store.basis (syncRows ctx userId targets) :=
  leaves_basis (syncRows_leavesTables ctx userId targets)

-- ============================================================================
-- The two maps
-- ============================================================================

section Maps

variable {rows : List EffectiveRoleRow} {targets : List UserEffectiveRoleEntry}

theorem mem_currentMap {k : String} {r : EffectiveRoleRow}
    (h : (k, r) ∈ (currentMap rows).entries) : r ∈ rows ∧ (entryOf r.2).key = k := by
  obtain ⟨r', hr', heq⟩ := List.mem_map.mp (JsMap.mem_of_ofEntries h)
  obtain ⟨rfl, rfl⟩ := Prod.mk.inj heq
  exact ⟨hr', rfl⟩

theorem mem_targetMap {k : String} {e : UserEffectiveRoleEntry}
    (h : (k, e) ∈ (targetMap targets).entries) : e ∈ targets ∧ e.key = k := by
  obtain ⟨e', he', heq⟩ := List.mem_map.mp (JsMap.mem_of_ofEntries h)
  obtain ⟨rfl, rfl⟩ := Prod.mk.inj heq
  exact ⟨he', rfl⟩

theorem has_currentMap {k : String} :
    (currentMap rows).has k = true ↔ ∃ r ∈ rows, (entryOf r.2).key = k := by
  rw [currentMap, JsMap.has_ofEntries]
  simp only [List.mem_map, exists_exists_and_eq_and]

theorem has_targetMap {k : String} :
    (targetMap targets).has k = true ↔ ∃ e ∈ targets, e.key = k := by
  rw [targetMap, JsMap.has_ofEntries]
  simp only [List.mem_map, exists_exists_and_eq_and]

/-- Of the rows with one key, the map has one. -/
theorem exists_in_currentMap {r : EffectiveRoleRow} (h : r ∈ rows) :
    ∃ r' ∈ rows, (entryOf r'.2).key = (entryOf r.2).key ∧
      ((entryOf r.2).key, r') ∈ (currentMap rows).entries := by
  obtain ⟨⟨k, r'⟩, hmem, rfl⟩ := JsMap.has_iff.mp (has_currentMap.mpr ⟨r, h, rfl⟩)
  obtain ⟨hr', hkey⟩ := mem_currentMap hmem
  exact ⟨r', hr', hkey, hmem⟩

theorem exists_in_targetMap {e : UserEffectiveRoleEntry} (h : e ∈ targets) :
    ∃ e' ∈ targets, e'.key = e.key ∧ (e.key, e') ∈ (targetMap targets).entries := by
  obtain ⟨⟨k, e'⟩, hmem, rfl⟩ := JsMap.has_iff.mp (has_targetMap.mpr ⟨e, h, rfl⟩)
  obtain ⟨he', hkey⟩ := mem_targetMap hmem
  exact ⟨e', he', hkey, hmem⟩

theorem mem_toInsert {e : UserEffectiveRoleEntry} (h : e ∈ toInsert rows targets) :
    e ∈ targets ∧ ∀ r ∈ rows, (entryOf r.2).key ≠ e.key := by
  obtain ⟨k, hmem, hnew⟩ := JsMap.mem_without.mp h
  obtain ⟨he, rfl⟩ := mem_targetMap hmem
  exact ⟨he, fun r hr hkey => hnew (has_currentMap.mpr ⟨r, hr, hkey⟩)⟩

/-- A target whose key no row has is inserted, or one with its key is. -/
theorem exists_in_toInsert {e : UserEffectiveRoleEntry} (h : e ∈ targets)
    (hnew : ∀ r ∈ rows, (entryOf r.2).key ≠ e.key) :
    ∃ e' ∈ toInsert rows targets, e'.key = e.key := by
  obtain ⟨e', -, hkey, hmem⟩ := exists_in_targetMap h
  refine ⟨e', JsMap.mem_without.mpr ⟨e.key, hmem, fun hhas => ?_⟩, hkey⟩
  obtain ⟨r, hr, hkey'⟩ := has_currentMap.mp hhas
  exact hnew r hr hkey'

theorem nodup_toInsert_keys :
    ((toInsert rows targets).map UserEffectiveRoleEntry.key).Nodup := by
  have hkeys : (toInsert rows targets).map UserEffectiveRoleEntry.key =
      ((targetMap targets).entries.filter fun e => !(currentMap rows).has e.1).map Prod.fst := by
    rw [toInsert, JsMap.without, List.map_map]
    refine List.map_congr_left fun e he => ?_
    exact (mem_targetMap (List.mem_of_mem_filter he)).2
  rw [hkeys]
  exact (targetMap targets).nodup.sublist (List.Sublist.map _ List.filter_sublist)

variable (hids : ∀ r ∈ rows, ∀ r' ∈ rows, r.1 = r'.1 → r = r')
include hids

theorem mem_toDeleteIds {r : EffectiveRoleRow} (hr : r ∈ rows) :
    r.1 ∈ toDeleteIds rows targets ↔
      ((entryOf r.2).key, r) ∈ (currentMap rows).entries ∧
        ∀ e ∈ targets, e.key ≠ (entryOf r.2).key := by
  simp only [toDeleteIds, List.mem_map, JsMap.mem_without]
  constructor
  · rintro ⟨r', ⟨k, hmem, hstale⟩, hid⟩
    obtain ⟨hr', rfl⟩ := mem_currentMap hmem
    obtain rfl := hids r' hr' r hr hid
    exact ⟨hmem, fun e he hkey => hstale (has_targetMap.mpr ⟨e, he, hkey⟩)⟩
  · rintro ⟨hmem, hstale⟩
    refine ⟨r, ⟨_, hmem, fun hhas => ?_⟩, rfl⟩
    obtain ⟨e, he, hkey⟩ := has_targetMap.mp hhas
    exact hstale e he hkey

/-- Of two rows that agree on the four fields, one is kept. -/
theorem twin_kept {r r' : EffectiveRoleRow} (hr : r ∈ rows) (hr' : r' ∈ rows)
    (hentry : entryOf r.2 = entryOf r'.2) (hdelete : r.1 ∈ toDeleteIds rows targets)
    (hdelete' : r'.1 ∈ toDeleteIds rows targets) : r = r' := by
  have hmem := ((mem_toDeleteIds hids hr).mp hdelete).1
  have hmem' := ((mem_toDeleteIds hids hr').mp hdelete').1
  have hkey : (entryOf r.2).key = (entryOf r'.2).key := congrArg _ hentry
  exact (Prod.mk.inj (JsMap.entry_unique hmem hmem' hkey)).2

end Maps

-- ============================================================================
-- What a sync writes
-- ============================================================================

/-- The store differs in its effective roles only: the rows to delete are gone and
    the rows to insert are in, up to the constraint. -/
def Synced (ctx : Context) (userId : Uuid) (targets : List UserEffectiveRoleEntry)
    (s s' : Store) : Prop :=
  ∃ (kept : Table UserEffectiveRole) (news : List UserEffectiveRole),
    (∀ r, r ∈ kept.rows ↔ r ∈ s.db.effectiveRoles.rows ∧
      ¬(r.2.tenantCode = ctx.tenantCode ∧
        r.1 ∈ toDeleteIds (effectiveRolesOf s.db ctx.tenantCode userId) targets)) ∧
    (toInsert (effectiveRolesOf s.db ctx.tenantCode userId) targets).map (rowOf ctx userId) =
      news.map .ok ∧
    s' = { s with db := { s.db with
      effectiveRoles := kept.insertIgnore UserEffectiveRole.conflicts news } }

variable {ctx : Context} {userId : Uuid} {targets : List UserEffectiveRoleEntry}
  {w w' : World Store Failure}

theorem deleteByTenantAndIds_ok {ids : List RowId} {u : Unit}
    (h : deleteByTenantAndIds ctx ids w = (.ok u, w')) :
    ∃ kept : Table UserEffectiveRole,
      (∀ r, r ∈ kept.rows ↔ r ∈ w.state.db.effectiveRoles.rows ∧
        ¬(r.2.tenantCode = ctx.tenantCode ∧ r.1 ∈ ids)) ∧
      w'.state = { w.state with db := { w.state.db with effectiveRoles := kept } } := by
  unfold deleteByTenantAndIds at h
  split at h
  next hnil =>
    obtain ⟨-, rfl⟩ := Faulty.pure_ok.mp h
    refine ⟨w.state.db.effectiveRoles, fun r => ?_, rfl⟩
    simp only [hnil, List.not_mem_nil, and_false, not_false_eq_true, and_true]
  · refine ⟨_, fun r => ?_, writeDb_ok h⟩
    rw [Table.mem_deleteWhere, Bool.and_eq_false_iff, decide_eq_false_iff_not,
      decide_eq_false_iff_not, not_and_or]

theorem insertOrIgnore_ok {entries : List UserEffectiveRoleEntry} {u : Unit}
    (h : insertOrIgnore ctx userId entries w = (.ok u, w')) :
    ∃ news, entries.map (rowOf ctx userId) = news.map .ok ∧
      w'.state = { w.state with db := { w.state.db with
        effectiveRoles :=
          w.state.db.effectiveRoles.insertIgnore UserEffectiveRole.conflicts news } } := by
  have hcall := Faulty.call_ok h
  split at hcall
  next news hnews =>
    exact ⟨news, Sql.mapM_eq_ok_map.mp hnews, (Prod.mk.inj (Except.ok.inj hcall)).2.symm⟩
  · cases hcall

theorem syncRows_keepsQuiet (ctx : Context) (userId : Uuid)
    (targets : List UserEffectiveRoleEntry) : Faulty.KeepsQuiet (syncRows ctx userId targets) := by
  refine Faulty.KeepsQuiet.bind (Faulty.keepsQuiet_call _) fun rows => ?_
  refine Faulty.KeepsQuiet.bind (Faulty.keepsQuiet_when ?_) fun _ => ?_
  · unfold deleteByTenantAndIds
    split
    · exact Faulty.keepsQuiet_pure ()
    · exact Faulty.keepsQuiet_call _
  · exact (Faulty.keepsQuiet_when (Faulty.keepsQuiet_call _)).bind fun _ =>
      Faulty.keepsQuiet_pure _

theorem syncRows_ok {diff : SyncDiff} (h : syncRows ctx userId targets w = (.ok diff, w')) :
    Synced ctx userId targets w.state w'.state ∧
      diff.inserted =
        (toInsert (effectiveRolesOf w.state.db ctx.tenantCode userId) targets).length ∧
      diff.deleted =
        (toDeleteIds (effectiveRolesOf w.state.db ctx.tenantCode userId) targets).length := by
  simp only [syncRows, Faulty.bind_ok, Faulty.pure_ok] at h
  obtain ⟨rows, w₁, hfind, u, w₂, hdelete, v, w₃, hinsert, rfl, rfl⟩ := h
  obtain ⟨rfl, hstate⟩ := (reads_readDb _).ok hfind
  rw [← hstate]
  refine ⟨?_, rfl, rfl⟩
  rw [← hstate] at hdelete hinsert
  have hkept : ∃ kept : Table UserEffectiveRole,
      (∀ r, r ∈ kept.rows ↔ r ∈ w₁.state.db.effectiveRoles.rows ∧
        ¬(r.2.tenantCode = ctx.tenantCode ∧
          r.1 ∈ toDeleteIds (effectiveRolesOf w₁.state.db ctx.tenantCode userId) targets)) ∧
      w₂.state = { w₁.state with db := { w₁.state.db with effectiveRoles := kept } } := by
    rcases Faulty.when_ok hdelete with ⟨-, hrun⟩ | ⟨hnil, hsame⟩
    · exact deleteByTenantAndIds_ok hrun
    · refine ⟨w₁.state.db.effectiveRoles, fun r => ?_, congrArg _ hsame⟩
      rw [List.length_eq_zero_iff.mp (Nat.eq_zero_of_not_pos hnil)]
      simp only [List.not_mem_nil, and_false, not_false_eq_true, and_true]
  obtain ⟨kept, hrows, hstate₂⟩ := hkept
  rcases Faulty.when_ok hinsert with ⟨-, hrun⟩ | ⟨hnil, hsame⟩
  · obtain ⟨news, hnews, hstate₃⟩ := insertOrIgnore_ok hrun
    rw [hstate₂] at hstate₃
    exact ⟨kept, news, hrows, hnews, hstate₃⟩
  · refine ⟨kept, [], hrows, ?_, (congrArg World.state hsame).trans hstate₂⟩
    rw [List.length_eq_zero_iff.mp (Nat.eq_zero_of_not_pos hnil)]
    rfl

end UserEffectiveRoleRepository

end AccessService.UserGroups
