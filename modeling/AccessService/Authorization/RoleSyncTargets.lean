/-
  AccessService.Authorization.RoleSyncTargets

  Whether the two syncs of a user's effective roles reach their targets
  (`syncUserEffectiveRoles` and its copy `syncEffectiveRolesForUser`).

  Rows without a scope entity may be stored twice, and then have one key in the map of the
  current rows: of two such rows that are no target, one is deleted.
-/

import AccessService.Authorization.EffectiveRoleProjection

namespace AccessService.Authorization

open AccessService.Js AccessService.Lib AccessService.Pg AccessService.Persistence
open AccessService.UserGroups

/-- The entry with the scope entity that is stored for it. -/
def storedEntry (e : UserEffectiveRoleEntry) : UserEffectiveRoleEntry :=
  { e with scopeEntityId := orNull e.scopeEntityId }

/-- The sync leaves a row for every target and no other row, and is then done. -/
def ReachesTargets (ctx : Context) (userId : Uuid) (sync : Service SyncDiff)
    (targets : List UserEffectiveRoleEntry) (s : Store) : Prop :=
  ∃ diff s', sync (.calm s) = (.ok diff, .calm s') ∧
    (∀ r ∈ effectiveRolesOf s'.db ctx.tenantCode userId,
      ∃ e ∈ targets, storedEntry e = entryOf r.2) ∧
    (∀ e ∈ targets,
      ∃ r ∈ effectiveRolesOf s'.db ctx.tenantCode userId, entryOf r.2 = storedEntry e) ∧
    ∃ s'', sync (.calm s') = (.ok ⟨0, 0⟩, .calm s'')

-- ============================================================================
-- Empty and missing scope entities
-- ============================================================================

open UserGroups.UserEffectiveRoleRepository

variable {ctx : Context} {userId : Uuid} {targets : List UserEffectiveRoleEntry}
variable {rows : List EffectiveRoleRow} {s s' : Store}

theorem orNull_orNull (text : Option String) : orNull (orNull text) = orNull text := by
  simp [orNull]

theorem key_storedEntry (e : UserEffectiveRoleEntry) : (storedEntry e).key = e.key := by
  have hnull : Constants.orNullText (orNull e.scopeEntityId) =
      Constants.orNullText e.scopeEntityId := by
    rcases e.scopeEntityId with _ | text
    · rfl
    · by_cases hempty : text = ""
      · subst hempty
        rfl
      · rw [orNull, Option.filter_some, if_pos (decide_eq_true hempty)]
  unfold UserEffectiveRoleEntry.key Constants.GenerateUserEffectiveRoleKey
  rw [storedEntry, hnull]

theorem rowOf_storedEntry (e : UserEffectiveRoleEntry) :
    rowOf ctx userId (storedEntry e) = rowOf ctx userId e := by
  unfold rowOf
  rw [storedEntry, orNull_orNull]

theorem targetMap_stored :
    (targetMap (targets.map storedEntry)).entries =
      (targetMap targets).entries.map (Prod.map id storedEntry) := by
  have hentries : (targets.map storedEntry).map (fun e => (e.key, e)) =
      (targets.map fun e => (e.key, e)).map (Prod.map id storedEntry) := by
    rw [List.map_map, List.map_map]
    refine List.map_congr_left fun e _ => ?_
    simp only [Function.comp_apply, key_storedEntry, Prod.map_apply, id_eq]
  rw [targetMap, hentries, JsMap.entries_ofEntries_map]
  rfl

theorem toDeleteIds_stored : toDeleteIds rows (targets.map storedEntry) = toDeleteIds rows targets := by
  have hhas : ∀ k, (targetMap (targets.map storedEntry)).has k = (targetMap targets).has k := by
    intro k
    rw [JsMap.has, JsMap.has, targetMap_stored, List.map_map]
    rfl
  unfold toDeleteIds JsMap.without
  simp only [hhas]

theorem toInsert_stored :
    toInsert rows (targets.map storedEntry) = (toInsert rows targets).map storedEntry := by
  unfold toInsert JsMap.without
  rw [targetMap_stored, List.filter_map, List.map_map, List.map_map]
  rfl

/-- A sync does the same for an empty scope entity and for none. -/
theorem syncRows_stored :
    syncRows ctx userId (targets.map storedEntry) = syncRows ctx userId targets := by
  have hinsert : ∀ entries : List UserEffectiveRoleEntry,
      insertOrIgnore ctx userId (entries.map storedEntry) = insertOrIgnore ctx userId entries := by
    intro entries
    have hrow : (rowOf ctx userId ∘ storedEntry) = rowOf ctx userId := funext rowOf_storedEntry
    unfold insertOrIgnore
    rw [List.mapM_map, hrow]
  unfold syncRows
  refine congrArg _ (funext fun rows => ?_)
  simp only
  rw [toDeleteIds_stored, toInsert_stored, hinsert, List.length_map]

-- ============================================================================
-- An undisturbed sync
-- ============================================================================

theorem rowOf_runs (ctx : Context) (userId : Uuid) {e : UserEffectiveRoleEntry} (he : e.Canonical) :
    ∃ row, rowOf ctx userId e = .ok row := by
  unfold rowOf
  rw [orNull_canonical he]
  rcases hscope : e.scopeEntityId with _ | text
  · exact ⟨_, rfl⟩
  · have hinput := ctx.uuid.input_text ⟨text, he text hscope⟩
    simp only at hinput ⊢
    rw [hinput]
    exact ⟨_, rfl⟩

theorem rowsOf_run (ctx : Context) (userId : Uuid) {entries : List UserEffectiveRoleEntry}
    (h : ∀ e ∈ entries, e.Canonical) :
    ∃ news, entries.mapM (rowOf ctx userId) = .ok news := by
  induction entries with
  | nil => exact ⟨[], rfl⟩
  | cons e es ih =>
    obtain ⟨row, hrow⟩ := rowOf_runs ctx userId (h e List.mem_cons_self)
    obtain ⟨rows, hrows⟩ := ih fun e he => h e (List.mem_cons_of_mem _ he)
    refine ⟨row :: rows, ?_⟩
    rw [List.mapM_cons, hrow, hrows]
    rfl

theorem syncRows_calm (ctx : Context) (userId : Uuid) (s : Store)
    (htargets : ∀ e ∈ targets, e.Canonical) :
    ∃ diff s', syncRows ctx userId targets (.calm s) = (.ok diff, .calm s') := by
  let rows := effectiveRolesOf s.db ctx.tenantCode userId
  have hfind : findRows ctx userId (.calm s) = (.ok rows, .calm s) := rfl
  have hdelete : ∃ s₁, Faulty.when ((toDeleteIds rows targets).length > 0)
      (deleteByTenantAndIds ctx (toDeleteIds rows targets)) (.calm s) = (.ok (), .calm s₁) := by
    unfold Faulty.when deleteByTenantAndIds
    split
    · split
      · exact ⟨_, rfl⟩
      · exact ⟨_, rfl⟩
    · exact ⟨_, rfl⟩
  obtain ⟨s₁, hdelete⟩ := hdelete
  have hinsert : ∃ s₂, Faulty.when ((toInsert rows targets).length > 0)
      (insertOrIgnore ctx userId (toInsert rows targets)) (.calm s₁) = (.ok (), .calm s₂) := by
    unfold Faulty.when
    split
    · obtain ⟨news, hnews⟩ := rowsOf_run ctx userId
        fun e (he : e ∈ toInsert rows targets) => htargets e (mem_toInsert he).1
      unfold insertOrIgnore
      rw [Faulty.call_calm]
      simp only [hnews]
      exact ⟨_, rfl⟩
    · exact ⟨_, rfl⟩
  obtain ⟨s₂, hinsert⟩ := hinsert
  refine ⟨⟨(toInsert rows targets).length, (toDeleteIds rows targets).length⟩, s₂, ?_⟩
  rw [syncRows, Faulty.bind_runs hfind, Faulty.bind_runs hdelete, Faulty.bind_runs hinsert]
  rfl

-- ============================================================================
-- When the targets are reached
-- ============================================================================

theorem persisted_eq_stored
    (hrows : ∀ r ∈ effectiveRolesOf s'.db ctx.tenantCode userId,
      ∃ e ∈ targets, storedEntry e = entryOf r.2)
    (htargets : ∀ e ∈ targets,
      ∃ r ∈ effectiveRolesOf s'.db ctx.tenantCode userId, entryOf r.2 = storedEntry e) :
    persisted s'.db ctx.tenantCode userId = {e | e ∈ targets.map storedEntry} := by
  ext e
  simp only [persisted, Set.mem_ofPred_eq, List.mem_map]
  constructor
  · rintro ⟨r, hr, rfl⟩
    exact hrows r hr
  · rintro ⟨e, he, rfl⟩
    exact htargets e he

theorem syncRows_reaches_iff :
    ReachesTargets ctx userId (syncRows ctx userId targets) targets s ↔
      (∀ e ∈ targets, (storedEntry e).Canonical) ∧
        NoStaleTwins s.db ctx.tenantCode userId {e | e ∈ targets.map storedEntry} := by
  rw [← List.forall_mem_map (P := UserEffectiveRoleEntry.Canonical)]
  constructor
  · rintro ⟨diff, s', hrun, hrows, htargets, -⟩
    rw [← syncRows_stored] at hrun
    exact (syncRows_ok hrun).1.persisted_eq_iff.mp (persisted_eq_stored hrows htargets)
  · rintro ⟨hcanonical, htwins⟩
    obtain ⟨diff, s', hrun⟩ := syncRows_calm ctx userId s hcanonical
    obtain ⟨again, s'', hagain⟩ := syncRows_calm ctx userId s' hcanonical
    have hpersisted := (syncRows_ok hrun).1.persisted_eq hcanonical htwins
    obtain ⟨rfl, -⟩ := syncRows_same hpersisted hagain
    have hmem : ∀ e, (∃ r ∈ effectiveRolesOf s'.db ctx.tenantCode userId, entryOf r.2 = e) ↔
        e ∈ targets.map storedEntry := fun e => Set.ext_iff.mp hpersisted e
    rw [syncRows_stored] at hrun hagain
    refine ⟨diff, s', hrun, fun r hr => ?_, fun e he => ?_, s'', hagain⟩
    · exact List.mem_map.mp ((hmem _).mp ⟨r, hr, rfl⟩)
    · exact (hmem _).mpr (List.mem_map_of_mem he)

/-- Both syncs reach their targets, and end alike, exactly where the scope entities are
    UUIDs as the database prints them, or missing or empty, and no two of the rows agree on
    four fields that are no target. -/
theorem syncs_reach_targets_iff (ctx : Context) (userId : Uuid)
    (targetEntries : List PersistUserEffectiveRoleEntry) (s : Store) :
    let targets := targetEntries.map UserEffectiveRoleRepository.syncedEntry
    (ReachesTargets ctx userId
        (UserEffectiveRoleRepository.syncUserEffectiveRoles ctx userId targetEntries) targets s ∧
      ReachesTargets ctx userId (syncEffectiveRolesForUser ctx userId targets) targets s ∧
      (UserEffectiveRoleRepository.syncUserEffectiveRoles ctx userId targetEntries (.calm s)).2 =
        (syncEffectiveRolesForUser ctx userId targets (.calm s)).2) ↔
      (∀ e ∈ targets, (storedEntry e).Canonical) ∧
        NoStaleTwins s.db ctx.tenantCode userId {e | e ∈ targets.map storedEntry} := by
  intro targets
  rw [← syncRows_reaches_iff]
  exact ⟨fun h => h.1, fun h => ⟨h, h, rfl⟩⟩

-- ============================================================================
-- A grant stored twice
-- ============================================================================

/-- The grant has no scope entity, so the constraint let both rows in. -/
def twinGrants : Table UserEffectiveRole :=
  (Table.empty.insert sampleEffectiveRole).insert sampleEffectiveRole

def twinGrantsStore : Store where
  db := sampleDatabase true twinGrants

/-- The grant is revoked, and one of its rows stays. -/
theorem not_syncs_reach_targets :
    ¬∀ (ctx : Context) (userId : Uuid) (targetEntries : List PersistUserEffectiveRoleEntry)
        (s : Store),
      let targets := targetEntries.map UserEffectiveRoleRepository.syncedEntry
      ReachesTargets ctx userId
          (UserEffectiveRoleRepository.syncUserEffectiveRoles ctx userId targetEntries) targets s ∧
        ReachesTargets ctx userId (syncEffectiveRolesForUser ctx userId targets) targets s ∧
        (UserEffectiveRoleRepository.syncUserEffectiveRoles ctx userId targetEntries (.calm s)).2 =
          (syncEffectiveRolesForUser ctx userId targets (.calm s)).2 := by
  intro h
  obtain ⟨⟨diff, s', hrun, hrows, -⟩, -⟩ := h acme sampleUserId [] twinGrantsStore
  have hstays : ((0, sampleEffectiveRole) : EffectiveRoleRow) ∈
      effectiveRolesOf (UserEffectiveRoleRepository.syncUserEffectiveRoles acme sampleUserId []
        (.calm twinGrantsStore)).2.state.db acme.tenantCode sampleUserId := by
    decide +kernel
  rw [hrun] at hstays
  obtain ⟨e, he, -⟩ := hrows _ hstays
  exact absurd he List.not_mem_nil

end AccessService.Authorization
