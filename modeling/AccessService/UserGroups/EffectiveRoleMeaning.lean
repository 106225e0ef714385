/-
  AccessService.UserGroups.EffectiveRoleMeaning

  A sync as an assignment: a user's effective roles are a set of entries, and
  the sync sets it to the targets.  It does so exactly when every target's scope
  entity is a printed UUID and no two rows agree on four fields that are no
  target (`Synced.persisted_eq_iff`).
-/

import AccessService.UserGroups.EffectiveRoleSync
import Mathlib.Data.Set.Basic

namespace AccessService.UserGroups

open AccessService.Js AccessService.Lib AccessService.Pg AccessService.Persistence

-- ============================================================================
-- A user's effective roles
-- ============================================================================

/-- The entries that a user's rows stand for. -/
def persisted (db : Database) (tenantCode : String) (userId : Uuid) :
    Set UserEffectiveRoleEntry :=
  {e | ∃ r ∈ effectiveRolesOf db tenantCode userId, entryOf r.2 = e}

/-- No two rows of the user agree on the four fields. -/
def RowsDistinct (db : Database) (tenantCode : String) (userId : Uuid) : Prop :=
  ∀ r ∈ effectiveRolesOf db tenantCode userId, ∀ r' ∈ effectiveRolesOf db tenantCode userId,
    entryOf r.2 = entryOf r'.2 → r = r'

/-- No two rows of the user agree on four fields outside the set. -/
def NoStaleTwins (db : Database) (tenantCode : String) (userId : Uuid)
    (targets : Set UserEffectiveRoleEntry) : Prop :=
  ∀ r ∈ effectiveRolesOf db tenantCode userId, ∀ r' ∈ effectiveRolesOf db tenantCode userId,
    entryOf r.2 = entryOf r'.2 → entryOf r.2 ∉ targets → r = r'

/-- No row of the user has the role. -/
def RoleFree (db : Database) (tenantCode : String) (userId roleId : Uuid) : Prop :=
  ∀ r ∈ effectiveRolesOf db tenantCode userId, r.2.roleId ≠ roleId

/-- No two rows of the user with the role agree on the four fields. -/
def RoleRowsDistinct (db : Database) (tenantCode : String) (userId roleId : Uuid) : Prop :=
  ∀ r ∈ effectiveRolesOf db tenantCode userId, ∀ r' ∈ effectiveRolesOf db tenantCode userId,
    r.2.roleId = roleId → entryOf r.2 = entryOf r'.2 → r = r'

/-- The rows of everybody else are the same. -/
def OthersKept (tenantCode : String) (userId : Uuid) (db db' : Database) : Prop :=
  ∀ r : EffectiveRoleRow, isRoleOf tenantCode userId r.2 = false →
    (r ∈ db'.effectiveRoles.rows ↔ r ∈ db.effectiveRoles.rows)

/-- The stores differ in the effective roles only. -/
def EffectiveRolesChange (s s' : Store) : Prop :=
  ∃ table, s' = { s with db := { s.db with effectiveRoles := table } }

theorem EffectiveRolesChange.refl (s : Store) : EffectiveRolesChange s s :=
  ⟨s.db.effectiveRoles, rfl⟩

theorem EffectiveRolesChange.trans {s s₁ s' : Store} (h : EffectiveRolesChange s s₁)
    (h' : EffectiveRolesChange s₁ s') : EffectiveRolesChange s s' := by
  obtain ⟨table, rfl⟩ := h
  obtain ⟨table', rfl⟩ := h'
  exact ⟨table', rfl⟩

theorem EffectiveRolesChange.profiles {s s' : Store} (h : EffectiveRolesChange s s') :
    s'.profiles = s.profiles := by
  obtain ⟨table, rfl⟩ := h
  rfl

section Rows

variable {db : Database} {tenantCode : String} {userId : Uuid}

theorem mem_effectiveRolesOf {r : EffectiveRoleRow} :
    r ∈ effectiveRolesOf db tenantCode userId ↔
      r ∈ db.effectiveRoles.rows ∧ r.2.tenantCode = tenantCode ∧ r.2.userId = userId := by
  rw [effectiveRolesOf, Table.mem_find, isRoleOf_iff]

theorem effectiveRolesOf_ids :
    ∀ r ∈ effectiveRolesOf db tenantCode userId,
      ∀ r' ∈ effectiveRolesOf db tenantCode userId, r.1 = r'.1 → r = r' := by
  intro r hr r' hr' hid
  exact Table.row_unique (mem_effectiveRolesOf.mp hr).1 (mem_effectiveRolesOf.mp hr').1 hid

theorem RowsDistinct.noStaleTwins (h : RowsDistinct db tenantCode userId)
    (targets : Set UserEffectiveRoleEntry) : NoStaleTwins db tenantCode userId targets :=
  fun r hr r' hr' hentry _ => h r hr r' hr' hentry

theorem canonical_of_persisted {e : UserEffectiveRoleEntry}
    (h : e ∈ persisted db tenantCode userId) : e.Canonical := by
  obtain ⟨r, -, rfl⟩ := h
  exact entryOf_canonical r.2

/-- Other users' rows are what they were for any other user. -/
theorem OthersKept.effectiveRolesOf {db' : Database} {tenantCode' : String} {userId' : Uuid}
    (h : OthersKept tenantCode userId db db')
    (hother : ¬(tenantCode' = tenantCode ∧ userId' = userId)) (r : EffectiveRoleRow) :
    r ∈ effectiveRolesOf db' tenantCode' userId' ↔
      r ∈ effectiveRolesOf db tenantCode' userId' := by
  rw [mem_effectiveRolesOf, mem_effectiveRolesOf]
  refine and_congr_left fun ⟨htenant, huser⟩ => h r ?_
  rw [Bool.eq_false_iff, Ne, isRoleOf_iff, htenant, huser]
  exact hother

theorem OthersKept.persisted_eq {db' : Database} {tenantCode' : String} {userId' : Uuid}
    (h : OthersKept tenantCode userId db db')
    (hother : ¬(tenantCode' = tenantCode ∧ userId' = userId)) :
    persisted db' tenantCode' userId' = persisted db tenantCode' userId' := by
  ext e
  exact exists_congr fun r => and_congr_left fun _ => h.effectiveRolesOf hother r

end Rows

-- ============================================================================
-- Inserted rows
-- ============================================================================

section Inserted

variable {ctx : Context} {userId : Uuid} {e : UserEffectiveRoleEntry} {row : UserEffectiveRole}

theorem rowOf_owner (h : rowOf ctx userId e = .ok row) :
    row.tenantCode = ctx.tenantCode ∧ row.userId = userId := by
  unfold rowOf at h
  simp only at h
  split at h
  · cases h
    exact ⟨rfl, rfl⟩
  · split at h
    · cases h
      exact ⟨rfl, rfl⟩
    · cases h

theorem rowOf_roleId (h : rowOf ctx userId e = .ok row) : row.roleId = e.roleId := by
  unfold rowOf at h
  simp only at h
  split at h
  · cases h
    rfl
  · split at h
    · cases h
      rfl
    · cases h

theorem orNull_canonical {text : Option String} (h : ∀ s ∈ text, isUuidText s = true) :
    orNull text = text := by
  rcases text with _ | s
  · rfl
  · have hne : s ≠ "" := by
      rintro rfl
      exact absurd (h "" rfl) (by decide)
    rw [orNull, Option.filter_some, if_pos (decide_eq_true hne)]

/-- The row of an entry with a printed UUID says what the entry does. -/
theorem entryOf_rowOf (he : e.Canonical) (h : rowOf ctx userId e = .ok row) :
    entryOf row = e := by
  obtain ⟨roleId, sourceGroupId, scopeType, scopeEntityId⟩ := e
  have hnull : orNull scopeEntityId = scopeEntityId := orNull_canonical he
  unfold rowOf at h
  simp only [hnull] at h
  rcases scopeEntityId with _ | text
  · cases h
    rfl
  · have hinput : ctx.uuid.input text = some ⟨text, he text rfl⟩ :=
      ctx.uuid.input_text ⟨text, he text rfl⟩
    simp only [hinput] at h
    cases h
    rfl

theorem conflicts_eq {a b : UserEffectiveRole} (h : a.conflicts b = true) : a = b := by
  rw [UserEffectiveRole.conflicts, Bool.and_eq_true, decide_eq_true_eq] at h
  exact h.2

end Inserted

-- ============================================================================
-- The rows after a sync
-- ============================================================================

namespace UserEffectiveRoleRepository

section Synced

variable {ctx : Context} {userId : Uuid} {targets : List UserEffectiveRoleEntry}
  {s s' : Store}

theorem Synced.kept (h : Synced ctx userId targets s s') {r : EffectiveRoleRow}
    (hr : r ∈ s.db.effectiveRoles.rows)
    (hkeep : ¬(r.2.tenantCode = ctx.tenantCode ∧
      r.1 ∈ toDeleteIds (effectiveRolesOf s.db ctx.tenantCode userId) targets)) :
    r ∈ s'.db.effectiveRoles.rows := by
  obtain ⟨kept, news, hkept, -, rfl⟩ := h
  exact Table.rows_insertIgnore ((hkept r).mpr ⟨hr, hkeep⟩)

theorem Synced.origin (h : Synced ctx userId targets s s') {r : EffectiveRoleRow}
    (hr : r ∈ s'.db.effectiveRoles.rows) :
    (r ∈ s.db.effectiveRoles.rows ∧ ¬(r.2.tenantCode = ctx.tenantCode ∧
      r.1 ∈ toDeleteIds (effectiveRolesOf s.db ctx.tenantCode userId) targets)) ∨
    ∃ e ∈ toInsert (effectiveRolesOf s.db ctx.tenantCode userId) targets,
      rowOf ctx userId e = .ok r.2 := by
  obtain ⟨kept, news, hkept, hnews, rfl⟩ := h
  rcases Table.mem_insertIgnore hr with hold | hnew
  · exact .inl ((hkept r).mp hold)
  · exact .inr (List.mem_map.mp (hnews ▸ List.mem_map_of_mem hnew))

theorem Synced.frame (h : Synced ctx userId targets s s') : EffectiveRolesChange s s' := by
  obtain ⟨kept, news, -, -, hs⟩ := h
  exact ⟨_, hs⟩

theorem Synced.othersKept (h : Synced ctx userId targets s s') :
    OthersKept ctx.tenantCode userId s.db s'.db := by
  intro r hother
  constructor
  · intro hr
    rcases h.origin hr with ⟨hold, -⟩ | ⟨e, -, hrow⟩
    · exact hold
    · have hmine := isRoleOf_iff.mpr (rowOf_owner hrow)
      rw [hother] at hmine
      exact absurd hmine Bool.false_ne_true
  · intro hr
    refine h.kept hr fun ⟨_, hdelete⟩ => ?_
    -- an id on the list is that of a row of the user's
    obtain ⟨r', hr', hid⟩ := List.mem_map.mp hdelete
    obtain ⟨k, hmem, -⟩ := JsMap.mem_without.mp hr'
    have hmine := mem_effectiveRolesOf.mp (mem_currentMap hmem).1
    obtain rfl := Table.row_unique hmine.1 hr hid
    rw [isRoleOf_iff.mpr hmine.2] at hother
    exact absurd hother.symm Bool.false_ne_true

/-- An entry to insert has its row. -/
theorem Synced.inserted (h : Synced ctx userId targets s s') {e : UserEffectiveRoleEntry}
    (he : e ∈ toInsert (effectiveRolesOf s.db ctx.tenantCode userId) targets) :
    ∃ r ∈ s'.db.effectiveRoles.rows, rowOf ctx userId e = .ok r.2 := by
  obtain ⟨kept, news, -, hnews, rfl⟩ := h
  have hmem : rowOf ctx userId e ∈ news.map Except.ok := hnews ▸ List.mem_map_of_mem he
  obtain ⟨row, hrow, hok⟩ := List.mem_map.mp hmem
  obtain ⟨r, hr, rfl⟩ := Table.insertIgnore_inserts hrow fun _ => conflicts_eq
  exact ⟨r, hr, hok.symm⟩

/-- The sync sets the user's effective roles to the targets. -/
theorem Synced.persisted_eq (h : Synced ctx userId targets s s')
    (hcanonical : ∀ e ∈ targets, e.Canonical)
    (htwins : NoStaleTwins s.db ctx.tenantCode userId {e | e ∈ targets}) :
    persisted s'.db ctx.tenantCode userId = {e | e ∈ targets} := by
  ext e
  constructor
  · rintro ⟨r, hr, rfl⟩
    obtain ⟨hr', hmine⟩ := mem_effectiveRolesOf.mp hr
    rcases h.origin hr' with ⟨hold, hkept⟩ | ⟨e, he, hrow⟩
    · by_contra hstale
      have hold' := mem_effectiveRolesOf.mpr ⟨hold, hmine⟩
      obtain ⟨r₁, hr₁, hkey, hmem⟩ := exists_in_currentMap hold'
      have hentry := key_injective (entryOf_canonical r₁.2) (entryOf_canonical r.2) hkey
      obtain rfl := htwins r₁ hr₁ r hold' hentry (hentry ▸ hstale)
      refine hkept ⟨hmine.1, (mem_toDeleteIds effectiveRolesOf_ids hold').mpr ⟨hmem, ?_⟩⟩
      intro e he hkey'
      exact hstale (key_injective (hcanonical e he) (entryOf_canonical _) hkey' ▸ he)
    · have htarget := (mem_toInsert he).1
      rw [entryOf_rowOf (hcanonical e htarget) hrow]
      exact htarget
  · intro he
    by_cases hrow : ∃ r ∈ effectiveRolesOf s.db ctx.tenantCode userId,
        (entryOf r.2).key = e.key
    · obtain ⟨r, hr, hkey⟩ := hrow
      obtain ⟨hold, hmine⟩ := mem_effectiveRolesOf.mp hr
      have hentry := key_injective (entryOf_canonical r.2) (hcanonical e he) hkey
      refine ⟨r, mem_effectiveRolesOf.mpr ⟨h.kept hold fun ⟨_, hdelete⟩ => ?_, hmine⟩, hentry⟩
      exact ((mem_toDeleteIds effectiveRolesOf_ids hr).mp hdelete).2 e he hkey.symm
    · have hnew : ∀ r ∈ effectiveRolesOf s.db ctx.tenantCode userId,
          (entryOf r.2).key ≠ e.key := fun r hr hkey => hrow ⟨r, hr, hkey⟩
      obtain ⟨e', he', hkey⟩ := exists_in_toInsert he hnew
      obtain rfl := key_injective (hcanonical e' (mem_toInsert he').1) (hcanonical e he) hkey
      obtain ⟨r, hr, hok⟩ := h.inserted he'
      exact ⟨r, mem_effectiveRolesOf.mpr ⟨hr, rowOf_owner hok⟩,
        entryOf_rowOf (hcanonical e' he) hok⟩

/-- Of two rows outside the targets that agree on the four fields, one stays. -/
theorem Synced.noStaleTwins (h : Synced ctx userId targets s s')
    (hpersisted : persisted s'.db ctx.tenantCode userId = {e | e ∈ targets}) :
    NoStaleTwins s.db ctx.tenantCode userId {e | e ∈ targets} := by
  intro r hr r' hr' hentry hstale
  have hdeleted : ∀ r₀ ∈ effectiveRolesOf s.db ctx.tenantCode userId,
      entryOf r₀.2 ∉ {e | e ∈ targets} →
      r₀.1 ∈ toDeleteIds (effectiveRolesOf s.db ctx.tenantCode userId) targets := by
    intro r₀ hr₀ hout
    by_contra hkeep
    obtain ⟨hold, hmine⟩ := mem_effectiveRolesOf.mp hr₀
    have hkept := h.kept hold fun hdelete => hkeep hdelete.2
    refine hout ?_
    rw [← hpersisted]
    exact ⟨r₀, mem_effectiveRolesOf.mpr ⟨hkept, hmine⟩, rfl⟩
  exact twin_kept effectiveRolesOf_ids hr hr' hentry (hdeleted r hr hstale)
    (hdeleted r' hr' (hentry ▸ hstale))

theorem Synced.persisted_eq_iff (h : Synced ctx userId targets s s') :
    persisted s'.db ctx.tenantCode userId = {e | e ∈ targets} ↔
      (∀ e ∈ targets, e.Canonical) ∧
        NoStaleTwins s.db ctx.tenantCode userId {e | e ∈ targets} := by
  constructor
  · intro hpersisted
    refine ⟨fun e he => ?_, h.noStaleTwins hpersisted⟩
    have hmem : e ∈ persisted s'.db ctx.tenantCode userId := by
      rw [hpersisted]
      exact he
    exact canonical_of_persisted hmem
  · rintro ⟨hcanonical, htwins⟩
    exact h.persisted_eq hcanonical htwins

/-- A sync to what the user has leaves the user with it. -/
theorem Synced.persisted_same (h : Synced ctx userId targets s s')
    (hpersisted : persisted s.db ctx.tenantCode userId = {e | e ∈ targets}) :
    persisted s'.db ctx.tenantCode userId = persisted s.db ctx.tenantCode userId := by
  rw [h.persisted_eq ?_ ?_, hpersisted]
  · intro e he
    have hmem : e ∈ persisted s.db ctx.tenantCode userId := hpersisted ▸ he
    exact canonical_of_persisted hmem
  · intro r hr r' hr' hentry hstale
    have hmem : entryOf r.2 ∈ {e | e ∈ targets} := hpersisted ▸ ⟨r, hr, rfl⟩
    exact absurd hmem hstale

/-- Distinct rows stay distinct. -/
theorem Synced.rowsDistinct (h : Synced ctx userId targets s s')
    (hcanonical : ∀ e ∈ targets, e.Canonical)
    (hdistinct : RowsDistinct s.db ctx.tenantCode userId) :
    RowsDistinct s'.db ctx.tenantCode userId := by
  obtain ⟨kept, news, hkept, hnews, rfl⟩ := h
  have hentries : news.map entryOf =
      toInsert (effectiveRolesOf s.db ctx.tenantCode userId) targets :=
    Sql.map_inverse hnews fun e he _ hok =>
      entryOf_rowOf (hcanonical e (mem_toInsert he).1) hok
  have hnodup : (news.map entryOf).Nodup := by
    rw [hentries]
    exact nodup_toInsert_keys.of_map _
  have hmine : ∀ r ∈ kept.rows, isRoleOf ctx.tenantCode userId r.2 = true →
      r ∈ effectiveRolesOf s.db ctx.tenantCode userId := fun r hr hrole =>
    mem_effectiveRolesOf.mpr ⟨((hkept r).mp hr).1, isRoleOf_iff.mp hrole⟩
  intro r hr r' hr' hentry
  obtain ⟨hrow, howner⟩ := mem_effectiveRolesOf.mp hr
  obtain ⟨hrow', howner'⟩ := mem_effectiveRolesOf.mp hr'
  refine Table.insertIgnore_unique (p := fun row => isRoleOf ctx.tenantCode userId row = true)
    ?_ hnodup ?_ r hrow r' hrow' (isRoleOf_iff.mpr howner) (isRoleOf_iff.mpr howner') hentry
  · intro r₁ hr₁ r₂ hr₂ hrole₁ hrole₂ hsame
    exact hdistinct r₁ (hmine r₁ hr₁ hrole₁) r₂ (hmine r₂ hr₂ hrole₂) hsame
  · intro row hnew r₁ hr₁ hrole₁ hsame
    have hmem : entryOf row ∈ news.map entryOf := List.mem_map_of_mem hnew
    rw [hentries] at hmem
    exact (mem_toInsert hmem).2 r₁ (hmine r₁ hr₁ hrole₁) (congrArg _ hsame)

/-- A role is gone exactly when no target has it and each of its rows can be told
    from the others. -/
theorem Synced.roleFree_iff (h : Synced ctx userId targets s s') {roleId : Uuid} :
    RoleFree s'.db ctx.tenantCode userId roleId ↔
      (∀ e ∈ targets, e.roleId ≠ roleId) ∧
        RoleRowsDistinct s.db ctx.tenantCode userId roleId := by
  constructor
  · intro hfree
    have hgone : ∀ r ∈ effectiveRolesOf s.db ctx.tenantCode userId, r.2.roleId = roleId →
        r.1 ∈ toDeleteIds (effectiveRolesOf s.db ctx.tenantCode userId) targets := by
      intro r hr hrole
      by_contra hkeep
      obtain ⟨hold, hmine⟩ := mem_effectiveRolesOf.mp hr
      have hkept := h.kept hold fun hdelete => hkeep hdelete.2
      exact hfree r (mem_effectiveRolesOf.mpr ⟨hkept, hmine⟩) hrole
    constructor
    · intro e he hrole
      by_cases hrow : ∃ r ∈ effectiveRolesOf s.db ctx.tenantCode userId,
          (entryOf r.2).key = e.key
      · obtain ⟨r, hr, hkey⟩ := hrow
        have hdelete := hgone r hr ((key_roleId hkey).trans hrole)
        exact ((mem_toDeleteIds effectiveRolesOf_ids hr).mp hdelete).2 e he hkey.symm
      · have hnew : ∀ r ∈ effectiveRolesOf s.db ctx.tenantCode userId,
            (entryOf r.2).key ≠ e.key := fun r hr hkey => hrow ⟨r, hr, hkey⟩
        obtain ⟨e', he', hkey⟩ := exists_in_toInsert he hnew
        obtain ⟨r, hr, hok⟩ := h.inserted he'
        refine hfree r (mem_effectiveRolesOf.mpr ⟨hr, rowOf_owner hok⟩) ?_
        rw [rowOf_roleId hok, key_roleId hkey, hrole]
    · intro r hr r' hr' hrole hentry
      have hrole' : r'.2.roleId = roleId :=
        (congrArg UserEffectiveRoleEntry.roleId hentry).symm.trans hrole
      exact twin_kept effectiveRolesOf_ids hr hr' hentry (hgone r hr hrole) (hgone r' hr' hrole')
  · rintro ⟨htargets, hdistinct⟩ r hr hrole
    obtain ⟨hr', hmine⟩ := mem_effectiveRolesOf.mp hr
    rcases h.origin hr' with ⟨hold, hkept⟩ | ⟨e, he, hrow⟩
    · -- the map has a row with the key, which is this one
      have hold' := mem_effectiveRolesOf.mpr ⟨hold, hmine⟩
      obtain ⟨r₁, hr₁, hkey, hmem⟩ := exists_in_currentMap hold'
      have hentry := key_injective (entryOf_canonical r₁.2) (entryOf_canonical r.2) hkey
      obtain rfl := hdistinct r hold' r₁ hr₁ hrole hentry.symm
      refine hkept ⟨hmine.1, (mem_toDeleteIds effectiveRolesOf_ids hold').mpr ⟨hmem, ?_⟩⟩
      exact fun e he hkey' => htargets e he ((key_roleId hkey').trans hrole)
    · exact htargets e (mem_toInsert he).1 ((rowOf_roleId hrow).symm.trans hrole)

/-- Where the targets are what the user has, there is nothing to do. -/
theorem toDeleteIds_eq_nil {db : Database}
    (h : persisted db ctx.tenantCode userId = {e | e ∈ targets}) :
    toDeleteIds (effectiveRolesOf db ctx.tenantCode userId) targets = [] := by
  rw [List.eq_nil_iff_forall_not_mem]
  intro id hid
  obtain ⟨r, hr, -⟩ := List.mem_map.mp hid
  obtain ⟨k, hmem, hstale⟩ := JsMap.mem_without.mp hr
  obtain ⟨hr', rfl⟩ := mem_currentMap hmem
  have htarget : entryOf r.2 ∈ {e | e ∈ targets} := h ▸ ⟨r, hr', rfl⟩
  exact hstale (has_targetMap.mpr ⟨_, htarget, rfl⟩)

theorem toInsert_eq_nil {db : Database}
    (h : persisted db ctx.tenantCode userId = {e | e ∈ targets}) :
    toInsert (effectiveRolesOf db ctx.tenantCode userId) targets = [] := by
  rw [List.eq_nil_iff_forall_not_mem]
  intro e he
  obtain ⟨htarget, hnew⟩ := mem_toInsert he
  have hrow : e ∈ persisted db ctx.tenantCode userId := h ▸ htarget
  obtain ⟨r, hr, rfl⟩ := hrow
  exact hnew r hr rfl

end Synced

/-- A sync to what the user has changes nothing. -/
theorem syncRows_same {ctx : Context} {userId : Uuid} {targets : List UserEffectiveRoleEntry}
    {w w' : World Store Failure} {diff : SyncDiff}
    (h : persisted w.state.db ctx.tenantCode userId = {e | e ∈ targets})
    (hrun : syncRows ctx userId targets w = (.ok diff, w')) :
    diff = ⟨0, 0⟩ ∧ w'.state = w.state := by
  simp only [syncRows, Faulty.bind_ok, Faulty.pure_ok] at hrun
  obtain ⟨rows, w₁, hfind, u, w₂, hdelete, v, w₃, hinsert, rfl, rfl⟩ := hrun
  obtain ⟨rfl, hstate⟩ := (reads_readDb _).ok hfind
  rw [toDeleteIds_eq_nil h] at hdelete ⊢
  rw [toInsert_eq_nil h] at hinsert ⊢
  rcases Faulty.when_ok hdelete with ⟨hpos, -⟩ | ⟨-, hsame⟩
  · exact absurd hpos (Nat.lt_irrefl 0)
  rcases Faulty.when_ok hinsert with ⟨hpos, -⟩ | ⟨-, hsame'⟩
  · exact absurd hpos (Nat.lt_irrefl 0)
  refine ⟨rfl, ?_⟩
  rw [hsame', hsame, hstate]

end UserEffectiveRoleRepository

end AccessService.UserGroups
