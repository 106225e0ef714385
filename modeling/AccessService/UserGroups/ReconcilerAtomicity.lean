/-
  AccessService.UserGroups.ReconcilerAtomicity

  The membership reconciler opens no transaction: each of its writes stands on its
  own.  A call that fails leaves the tables as they were only if there was nothing
  to change, or if it failed before its first write was through
  (`reconcile_untouched_iff`).
-/

import AccessService.UserGroups.MembershipReconciler

namespace AccessService.UserGroups

open AccessService.Js AccessService.Lib AccessService.Pg AccessService.Persistence
open UserEffectiveRoleRepository UserGroupMembershipRepository

-- ============================================================================
-- The calls
-- ============================================================================

inductive Reconciliation where
  | singleUser (tenantCode : String) (userId : Uuid) (targetMatchingGroupIds : List Uuid)
  | groupPopulation (groupId : Uuid) (matchedEmployeeIds : List Uuid) (groupVersion : Nat)

def Reconciliation.run (ctx : Context) : Reconciliation → Service Unit
  | .singleUser tenantCode userId groupIds => do
    let _ ← MembershipReconciler.reconcileSingleUser ctx tenantCode userId groupIds
    pure ()
  | .groupPopulation groupId matched version => do
    let _ ← MembershipReconciler.reconcileGroupPopulation ctx groupId matched version
    pure ()

/-- There is a membership to add or to remove. -/
def Reconciliation.Differs (db : Database) (tenantCode : String) : Reconciliation → Prop
  | .singleUser _ userId groupIds => ∃ id, ¬(id ∈ groupIds ↔ id ∈ groupsOf db tenantCode userId)
  | .groupPopulation groupId matched _ =>
    ∃ userId, ¬(userId ∈ matched ↔ groupId ∈ groupsOf db tenantCode userId)

/-- The tables a reconciliation writes have the same rows. -/
structure Untouched (db db' : Database) : Prop where
  memberships : db'.memberships.rows = db.memberships.rows
  effectiveRoles : db'.effectiveRoles.rows = db.effectiveRoles.rows
  groups : db'.groups.rows = db.groups.rows
  outbox : db'.outbox = db.outbox

theorem Untouched.of_eq {s s' : Store} (h : s' = s) : Untouched s.db s'.db := by
  rw [h]
  exact ⟨rfl, rfl, rfl, rfl⟩

namespace MembershipReconciler

-- ============================================================================
-- What the later steps keep
-- ============================================================================

section Keeps

variable {ctx : Context} {userId : Uuid} {P : List UserGroupMembership → Prop}

/-- What one user's reconciliation does after the memberships. -/
def finishSingleUser (ctx : Context) (tenantCode : String) (userId : Uuid)
    (groupIds added removed : List Uuid) : Service SingleUserReconciliationResult := do
  let targetRoles ← .collect (fun gid => grantsOf ctx gid (grantUnder gid)) groupIds
  let roleDiff ← syncEffectiveRolesForUser ctx userId targetRoles
  OutboxEventRepository.create (.membershipReconciled tenantCode userId added removed
    roleDiff.inserted roleDiff.deleted)
  pure ⟨userId, added, removed, roleDiff.inserted > 0 || roleDiff.deleted > 0⟩

/-- What it does after reading the memberships. -/
def applySingleUser (ctx : Context) (tenantCode : String) (userId : Uuid) (groupIds : List Uuid)
    (currentMemberships : List UserGroupMembership) : Service SingleUserReconciliationResult :=
  let current := setOf (currentMemberships.map (·.groupId))
  let added := diff (setOf groupIds) current
  let removed := diff current (setOf groupIds)
  if added.length = 0 ∧ removed.length = 0 then pure ⟨userId, [], [], false⟩
  else do
    .forEach (insertSingleMembership ctx userId) added
    .forEach (deleteSingleMembership ctx userId) removed
    finishSingleUser ctx tenantCode userId groupIds added removed

theorem reconcileSingleUser_eq (ctx : Context) (tenantCode : String) (userId : Uuid)
    (groupIds : List Uuid) :
    reconcileSingleUser ctx tenantCode userId groupIds =
      Faulty.call (fun s => .ok (s.db.membershipsOf ctx.tenantCode userId, s)) >>=
        applySingleUser ctx tenantCode userId groupIds := rfl

/-- What a group's reconciliation does after the memberships. -/
def finishGroupPopulation (ctx : Context) (groupId : Uuid) (groupVersion : Nat)
    (added removed : List Uuid) : Service GroupPopulationReconciliationResult := do
  let group ← UserGroupRepository.findById ctx groupId
  .when (group.isSome = true) do
    .forEach (reconcileAffected ctx) (added ++ removed)
    UserGroupRepository.updateProjectionVersion ctx groupId groupVersion
  pure ⟨groupId, added, removed, added.length + removed.length⟩

/-- What it does after reading the members. -/
def applyGroupPopulation (ctx : Context) (groupId : Uuid) (matchedEmployeeIds : List Uuid)
    (groupVersion : Nat) (currentMemberIds : List Uuid) :
    Service GroupPopulationReconciliationResult := do
  let added := diff (setOf matchedEmployeeIds) (setOf currentMemberIds)
  let removed := diff (setOf currentMemberIds) (setOf matchedEmployeeIds)
  .when (added.length > 0) (batchInsert ctx groupId added)
  .when (removed.length > 0) (batchDelete ctx groupId removed)
  finishGroupPopulation ctx groupId groupVersion added removed

theorem reconcileGroupPopulation_eq (ctx : Context) (groupId : Uuid) (matched : List Uuid)
    (version : Nat) :
    reconcileGroupPopulation ctx groupId matched version =
      Faulty.call (fun s => .ok (s.db.membersOf ctx.tenantCode groupId, s)) >>=
        applyGroupPopulation ctx groupId matched version := rfl

theorem applyGroupPopulation_eq (ctx : Context) (groupId : Uuid) (matched : List Uuid)
    (version : Nat) (members : List Uuid) :
    applyGroupPopulation ctx groupId matched version members =
      batchInsert ctx groupId (diff (setOf matched) (setOf members)) >>= fun _ =>
        batchDelete ctx groupId (diff (setOf members) (setOf matched)) >>= fun _ =>
          finishGroupPopulation ctx groupId version (diff (setOf matched) (setOf members))
            (diff (setOf members) (setOf matched)) := by
  simp only [applyGroupPopulation, when_batchInsert, when_batchDelete]

/-- A property of the membership rows. -/
def OfMemberships (P : List UserGroupMembership → Prop) (s : Store) : Prop :=
  P s.db.memberships.rows

/-- What leaves the tables behind the effective roles alone keeps the memberships. -/
theorem preserves_of_leaves {α : Type} {x : Service α} (h : Faulty.Leaves Store.basis x) :
    Faulty.Preserves (OfMemberships P) x := by
  refine h.preserves fun s s' hbasis hs => ?_
  have hmemberships : s'.db.memberships = s.db.memberships :=
    congrArg (fun basis => basis.2.2.2.2.2) hbasis
  rw [OfMemberships, hmemberships]
  exact hs

theorem insertAll_preserves {memberships : List UserGroupMembership}
    (h : ∀ rows, P rows → P (rows ++ memberships)) :
    Faulty.Preserves (OfMemberships P) (insertAll memberships) := by
  refine Faulty.preserves_call fun s a s' hs hf => ?_
  split at hf
  next table htable =>
    obtain ⟨-, rfl⟩ := Prod.mk.inj (Except.ok.inj hf)
    show P table.rows
    rw [Keyed.insertAll_rows htable]
    exact h _ hs
  · cases hf

theorem deleteWhere_preserves {p : UserGroupMembership → Bool}
    (h : ∀ rows, P rows → P (rows.filter fun m => !p m)) :
    Faulty.Preserves (OfMemberships P) (deleteWhere p) :=
  Faulty.preserves_write fun _ hs => h _ hs

theorem batchDelete_preserves {groupId : Uuid} {userIds : List Uuid}
    (h : ∀ rows, P rows → P (rows.filter fun m =>
      !(m.tenantCode = ctx.tenantCode && m.groupId = groupId && m.userId ∈ userIds))) :
    Faulty.Preserves (OfMemberships P) (batchDelete ctx groupId userIds) := by
  unfold batchDelete
  split
  · exact Faulty.preserves_pure ()
  · exact deleteWhere_preserves h

theorem finishSingleUser_preserves (tenantCode : String) (groupIds added removed : List Uuid) :
    Faulty.Preserves (OfMemberships P)
      (finishSingleUser ctx tenantCode userId groupIds added removed) := by
  have hcollect := (reads_collect_grants ctx (fun gid : Uuid => gid) grantUnder groupIds).preserves
    (P := OfMemberships P)
  refine hcollect.bind fun targetRoles => ?_
  refine (preserves_of_leaves (syncRows_leaves ctx userId targetRoles)).bind fun roleDiff => ?_
  refine Faulty.Preserves.bind ?_ fun _ => Faulty.preserves_pure _
  exact Faulty.preserves_write fun _ hs => hs

theorem finishGroupPopulation_preserves (groupId : Uuid) (version : Nat)
    (added removed : List Uuid) :
    Faulty.Preserves (OfMemberships P)
      (finishGroupPopulation ctx groupId version added removed) := by
  refine Faulty.Preserves.bind (reads_readDb _).preserves fun group => ?_
  refine Faulty.Preserves.bind (Faulty.preserves_when ?_) fun _ => Faulty.preserves_pure _
  refine Faulty.Preserves.bind ?_ fun _ => Faulty.preserves_write fun _ hs => hs
  exact Faulty.preserves_forEach fun empId _ =>
    preserves_of_leaves (reconcileAffected_leaves ctx empId)

end Keeps

-- ============================================================================
-- Runs with something to change
-- ============================================================================

section Differs

variable {ctx : Context} {tenantCode : String} {userId groupId : Uuid} {ids added removed : List Uuid}
  {w : World Store Failure}

/-- Some membership is there in one of the states only. -/
def MembershipChanged (s s' : Store) : Prop :=
  ∃ m, ¬(m ∈ s'.db.memberships.rows ↔ m ∈ s.db.memberships.rows)

/-- Either the first write throws and nothing has happened, or memberships change. -/
def FailsOrChanges (w : World Store Failure) (s' : Store) : Prop :=
  (Faulty.ThrowsAt w 0 ∧ s' = w.state) ∨
    (¬Faulty.ThrowsAt w 0 ∧ MembershipChanged w.state s')

/-- The first write adds a membership, which the rest keeps. -/
theorem failsOrChanges_insert {β : Type} {memberships : List UserGroupMembership}
    {m : UserGroupMembership} {k : Unit → Service β} (hmem : m ∈ memberships)
    (hnew : ∀ m ∈ memberships, m ∉ w.state.db.memberships.rows) (hnodup : memberships.Nodup)
    (hk : Faulty.Preserves (OfMemberships (m ∈ ·)) (k ())) :
    FailsOrChanges w ((insertAll memberships >>= k) w).2.state := by
  obtain ⟨table, htable⟩ := Keyed.insertAll_fresh (t := w.state.db.memberships)
    (List.map_id memberships ▸ hnodup) (by simpa using hnew)
  have hrows := Keyed.insertAll_rows htable
  have hadded : OfMemberships (m ∈ ·)
      { w.state with db := { w.state.db with memberships := table } } := by
    show m ∈ table.rows
    rw [hrows]
    exact List.mem_append_right _ hmem
  have hcall : (Faulty.ThrowsAt w 0 ∧ ((insertAll memberships >>= k) w).2.state = w.state) ∨
      (¬Faulty.ThrowsAt w 0 ∧
        OfMemberships (m ∈ ·) ((insertAll memberships >>= k) w).2.state) := by
    refine Faulty.call_bind_preserves ?_ hadded hk
    simp only [htable]
  rcases hcall with hthrows | ⟨hruns, hkept⟩
  · exact .inl hthrows
  · exact .inr ⟨hruns, m, fun hiff => hnew m hmem (hiff.mp hkept)⟩

/-- The first write removes a membership, which stays away. -/
theorem failsOrChanges_delete {β : Type} {p : UserGroupMembership → Bool}
    {m : UserGroupMembership} {k : Unit → Service β} (hp : p m = true)
    (hmem : m ∈ w.state.db.memberships.rows)
    (hk : Faulty.Preserves (OfMemberships (m ∉ ·)) (k ())) :
    FailsOrChanges w ((deleteWhere p >>= k) w).2.state := by
  have hcall := Faulty.call_bind_preserves (P := OfMemberships (m ∉ ·)) (w := w) (k := k)
    (f := fun s => .ok ((), { s with db := { s.db with
      memberships := s.db.memberships.deleteWhere p } }))
    (s := { w.state with db := { w.state.db with
      memberships := w.state.db.memberships.deleteWhere p } }) (a := ()) rfl (by
      show m ∉ (w.state.db.memberships.deleteWhere p).rows
      rw [Keyed.mem_deleteWhere, hp]
      simp) hk
  refine hcall.imp_right fun ⟨hruns, hkept⟩ => ⟨hruns, m, fun hiff => ?_⟩
  exact hkept (hiff.mpr hmem)

theorem applySingleUser_failsOrChanges
    (hdiffers : ∃ id, ¬(id ∈ ids ↔ id ∈ groupsOf w.state.db ctx.tenantCode userId)) :
    FailsOrChanges w (applySingleUser ctx tenantCode userId ids
      (w.state.db.membershipsOf ctx.tenantCode userId) w).2.state := by
  have hcurrent : ∀ id, id ∈ groupsOf w.state.db ctx.tenantCode userId ↔
      id ∈ (w.state.db.membershipsOf ctx.tenantCode userId).map (·.groupId) :=
    fun id => mem_groupsOf
  generalize hadded : diff (setOf ids)
    (setOf ((w.state.db.membershipsOf ctx.tenantCode userId).map (·.groupId))) = added
  generalize hremoved : diff
    (setOf ((w.state.db.membershipsOf ctx.tenantCode userId).map (·.groupId))) (setOf ids) = removed
  have hmemAdded : ∀ id ∈ added, id ∈ ids ∧ id ∉ groupsOf w.state.db ctx.tenantCode userId := by
    intro id hid
    rw [← hadded, mem_diff_setOf, ← hcurrent] at hid
    exact hid
  have hmemRemoved : ∀ id ∈ removed,
      id ∈ groupsOf w.state.db ctx.tenantCode userId ∧ id ∉ ids := by
    intro id hid
    rw [← hremoved, mem_diff_setOf, ← hcurrent] at hid
    exact hid
  have hsome : ¬(added.length = 0 ∧ removed.length = 0) := by
    rw [← hadded, ← hremoved, diff_nil_iff]
    intro hsame
    obtain ⟨id, hid⟩ := hdiffers
    exact hid ((hsame id).trans (hcurrent id).symm)
  simp only [applySingleUser, hadded, hremoved, if_neg hsome]
  rcases added with _ | ⟨g, gs⟩
  · -- nothing to add: the first write deletes
    rcases removed with _ | ⟨g, gs⟩
    · exact absurd ⟨rfl, rfl⟩ hsome
    · simp only [Faulty.forEach, pure_bind, bind_assoc]
      refine failsOrChanges_delete (m := ⟨ctx.tenantCode, g, userId⟩) ?_
        (hmemRemoved g List.mem_cons_self).1 ?_
      · simp only [decide_true, Bool.and_self]
      · refine Faulty.Preserves.bind (Faulty.preserves_forEach fun id _ => ?_) fun _ =>
          finishSingleUser_preserves tenantCode ids [] (g :: gs)
        exact deleteWhere_preserves fun rows hrows hmem => hrows (List.mem_of_mem_filter hmem)
  · simp only [Faulty.forEach, bind_assoc]
    have hnew := (hmemAdded g List.mem_cons_self).2
    refine failsOrChanges_insert (m := ⟨ctx.tenantCode, g, userId⟩) (List.mem_singleton_self _)
      (fun m hm => List.mem_singleton.mp hm ▸ hnew) (List.nodup_singleton _) ?_
    refine Faulty.Preserves.bind (Faulty.preserves_forEach fun id _ => ?_) fun _ => ?_
    · exact insertAll_preserves fun rows hrows => List.mem_append_left _ hrows
    · refine Faulty.Preserves.bind (Faulty.preserves_forEach fun id hid => ?_) fun _ =>
        finishSingleUser_preserves tenantCode ids (g :: gs) removed
      -- the added group is none of the removed ones
      have hother : g ≠ id := fun hsame =>
        (hmemRemoved id hid).2 (hsame ▸ (hmemAdded g List.mem_cons_self).1)
      refine deleteWhere_preserves fun rows hrows => List.mem_filter.mpr ⟨hrows, ?_⟩
      simp only [hother, decide_true, decide_false, Bool.and_false, Bool.not_false]

theorem applyGroupPopulation_failsOrChanges {version : Nat}
    (hdiffers : ∃ id, ¬(id ∈ ids ↔ groupId ∈ groupsOf w.state.db ctx.tenantCode id)) :
    FailsOrChanges w (applyGroupPopulation ctx groupId ids version
      (w.state.db.membersOf ctx.tenantCode groupId) w).2.state := by
  have hmember : ∀ id, id ∈ w.state.db.membersOf ctx.tenantCode groupId ↔
      groupId ∈ groupsOf w.state.db ctx.tenantCode id := fun id => Database.mem_membersOf
  generalize hadded : diff (setOf ids) (setOf (w.state.db.membersOf ctx.tenantCode groupId)) = added
  generalize hremoved : diff (setOf (w.state.db.membersOf ctx.tenantCode groupId)) (setOf ids) =
    removed
  have hmemAdded : ∀ id ∈ added, id ∈ ids ∧ groupId ∉ groupsOf w.state.db ctx.tenantCode id := by
    intro id hid
    rw [← hadded, mem_diff_setOf, hmember] at hid
    exact hid
  have hmemRemoved : ∀ id ∈ removed,
      groupId ∈ groupsOf w.state.db ctx.tenantCode id ∧ id ∉ ids := by
    intro id hid
    rw [← hremoved, mem_diff_setOf, hmember] at hid
    exact hid
  have hsome : ¬(added.length = 0 ∧ removed.length = 0) := by
    rw [← hadded, ← hremoved, diff_nil_iff]
    intro hsame
    obtain ⟨id, hid⟩ := hdiffers
    exact hid ((hsame id).trans (hmember id))
  rw [applyGroupPopulation_eq, hadded, hremoved]
  rcases added with _ | ⟨id, rest⟩
  · -- nothing to add: the first write deletes
    rcases removed with _ | ⟨id, rest⟩
    · exact absurd ⟨rfl, rfl⟩ hsome
    · refine failsOrChanges_delete (m := ⟨ctx.tenantCode, groupId, id⟩) ?_
        (hmemRemoved id List.mem_cons_self).1 (finishGroupPopulation_preserves groupId version _ _)
      simp only [decide_true, Bool.and_self, List.mem_cons, true_or]
  · refine failsOrChanges_insert (m := ⟨ctx.tenantCode, groupId, id⟩)
      (List.mem_map_of_mem List.mem_cons_self) ?_ ?_ ?_
    · intro m hm
      obtain ⟨userId, huser, rfl⟩ := List.mem_map.mp hm
      exact (hmemAdded userId huser).2
    · have hnodup : (id :: rest).Nodup := by
        rw [← hadded]
        exact (nodup_setOf ids).filter _
      refine hnodup.map fun a b hab => ?_
      exact congrArg UserGroupMembership.userId hab
    · refine Faulty.Preserves.bind ?_ fun _ =>
        finishGroupPopulation_preserves groupId version (id :: rest) removed
      -- the added id is none of the removed ones
      have hkept : id ∉ removed := fun hmem =>
        (hmemRemoved id hmem).2 (hmemAdded id List.mem_cons_self).1
      exact batchDelete_preserves fun rows hrows => List.mem_filter.mpr ⟨hrows, by simp [hkept]⟩

/-- With nothing to change, the only write is the last call. -/
theorem applyGroupPopulation_same {version : Nat} {members : List Uuid} {s₀ : Store}
    (hsame : ∀ id, id ∈ ids ↔ id ∈ members) :
    Faulty.Triple (fun s => s = s₀) (applyGroupPopulation ctx groupId ids version members)
      (fun _ _ => True) (fun s => s = s₀) := by
  obtain ⟨hadded, hremoved⟩ := diff_nil_iff.mpr hsame
  rw [List.length_eq_zero_iff] at hadded hremoved
  rw [applyGroupPopulation_eq, hadded, hremoved]
  show Faulty.Triple _ (finishGroupPopulation ctx groupId version [] []) _ _
  refine Faulty.Triple.bind (Q := fun _ s => s = s₀)
    ((reads_readDb _).triple (fun _ hs => hs) fun _ hs => hs) fun group => ?_
  refine Faulty.Triple.bind (Q := fun _ _ => True) ?_ fun _ => Faulty.triple_pure fun _ h => h
  unfold Faulty.when
  split
  · show Faulty.Triple _ (UserGroupRepository.updateProjectionVersion ctx groupId version) _ _
    rw [UserGroupRepository.updateProjectionVersion, writeDb]
    exact Faulty.triple_write (fun _ hs => hs) fun _ _ => trivial
  · exact Faulty.triple_pure fun _ _ => trivial

end Differs

-- ============================================================================
-- Atomicity
-- ============================================================================

theorem MembershipChanged.not_untouched {s s' : Store} (h : MembershipChanged s s') :
    ¬Untouched s.db s'.db := by
  intro huntouched
  obtain ⟨m, hm⟩ := h
  exact hm (by rw [huntouched.memberships])

/-- A reconciliation reads, and goes on with what it has read. -/
theorem untouched_iff {α β : Type} {f : Store → α} {k : α → Service β} {differs : Prop}
    {w w' : World Store Failure} {e : Failure}
    (hdiffers : differs → ∀ w₁ : World Store Failure, w₁.state = w.state →
      FailsOrChanges w₁ (k (f w.state) w₁).2.state)
    (hsame : ¬differs → ∀ (w₁ w' : World Store Failure) (e : Failure), w₁.state = w.state →
      k (f w.state) w₁ = (.error e, w') → w'.state = w.state)
    (h : (Faulty.call (fun s => .ok (f s, s)) >>= k) w = (.error e, w')) :
    Untouched w.state.db w'.state.db ↔
      ¬differs ∨ Faulty.ThrowsAt w 0 ∨ Faulty.ThrowsAt w 1 := by
  by_cases hfirst : Faulty.ThrowsAt w 0
  · obtain ⟨e', he'⟩ := Faulty.call_bind_throws
      (f := fun s => Except.ok (ε := Failure) (f s, s)) (k := k) hfirst
    rw [he'] at h
    refine iff_of_true (Untouched.of_eq ?_) (.inr (.inl hfirst))
    rw [← (Prod.mk.inj h).2]
    rfl
  · rw [Faulty.call_bind_runs hfirst rfl] at h
    by_cases hd : differs
    · have hruns := hdiffers hd (Faulty.afterCall w w.state) rfl
      rw [h] at hruns
      rcases hruns with ⟨hsecond, hstate⟩ | ⟨hsecond, hchanged⟩
      · rw [Faulty.throwsAt_afterCall] at hsecond
        exact iff_of_true (Untouched.of_eq hstate) (.inr (.inr hsecond))
      · rw [Faulty.throwsAt_afterCall] at hsecond
        refine iff_of_false hchanged.not_untouched ?_
        rintro (hnot | hthrows | hthrows)
        · exact hnot hd
        · exact hfirst hthrows
        · exact hsecond hthrows
    · exact iff_of_true (Untouched.of_eq (hsame hd (Faulty.afterCall w w.state) _ _ rfl h)) (.inl hd)

theorem reconcileSingleUser_untouched {ctx : Context} {tenantCode : String} {userId : Uuid}
    {groupIds : List Uuid} {w w' : World Store Failure} {e : Failure}
    (h : reconcileSingleUser ctx tenantCode userId groupIds w = (.error e, w')) :
    Untouched w.state.db w'.state.db ↔
      ¬(∃ id, ¬(id ∈ groupIds ↔ id ∈ groupsOf w.state.db ctx.tenantCode userId)) ∨
        Faulty.ThrowsAt w 0 ∨ Faulty.ThrowsAt w 1 := by
  rw [reconcileSingleUser_eq] at h
  refine untouched_iff ?_ ?_ h
  · intro hdiffers w₁ hstate
    rw [← hstate] at hdiffers ⊢
    exact applySingleUser_failsOrChanges hdiffers
  · intro hsame w₁ w' e hstate hrun
    -- the reconciler returns at once
    have hnone : ∀ id, id ∈ groupIds ↔
        id ∈ (w.state.db.membershipsOf ctx.tenantCode userId).map (·.groupId) := by
      intro id
      exact (not_exists_not.mp hsame id).trans mem_groupsOf
    rw [applySingleUser, if_pos (diff_nil_iff.mpr hnone)] at hrun
    cases hrun

theorem reconcileGroupPopulation_untouched {ctx : Context} {groupId : Uuid}
    {matched : List Uuid} {version : Nat} {w w' : World Store Failure} {e : Failure}
    (h : reconcileGroupPopulation ctx groupId matched version w = (.error e, w')) :
    Untouched w.state.db w'.state.db ↔
      ¬(∃ userId, ¬(userId ∈ matched ↔ groupId ∈ groupsOf w.state.db ctx.tenantCode userId)) ∨
        Faulty.ThrowsAt w 0 ∨ Faulty.ThrowsAt w 1 := by
  rw [reconcileGroupPopulation_eq] at h
  refine untouched_iff ?_ ?_ h
  · intro hdiffers w₁ hstate
    rw [← hstate] at hdiffers ⊢
    exact applyGroupPopulation_failsOrChanges hdiffers
  · intro hsame w₁ w' e hstate hrun
    have hnone : ∀ id, id ∈ matched ↔ id ∈ w.state.db.membersOf ctx.tenantCode groupId := by
      intro id
      exact (not_exists_not.mp hsame id).trans Database.mem_membersOf.symm
    exact (applyGroupPopulation_same hnone).of_error hstate hrun

end MembershipReconciler

/-- A reconciliation that throws has left the tables alone just where there is no
    membership to change, or where the call that throws is the read of the
    memberships or the first write after it. -/
theorem reconcile_untouched_iff {ctx : Context} {op : Reconciliation}
    {w w' : World Store Failure} {e : Failure} (h : op.run ctx w = (.error e, w')) :
    Untouched w.state.db w'.state.db ↔
      ¬op.Differs w.state.db ctx.tenantCode ∨ Faulty.ThrowsAt w 0 ∨ Faulty.ThrowsAt w 1 := by
  cases op with
  | singleUser tenantCode userId groupIds =>
    exact MembershipReconciler.reconcileSingleUser_untouched (Faulty.bind_unit_error h)
  | groupPopulation groupId matched version =>
    exact MembershipReconciler.reconcileGroupPopulation_untouched (Faulty.bind_unit_error h)

-- ============================================================================
-- One run
-- ============================================================================

def connectionLost : Failure where
  name := "QueryFailedError"
  message := "Connection terminated unexpectedly"

/-- The user joins the group. -/
def joinGroup : Reconciliation := .singleUser "acme" sampleUserId [sampleGroupId]

/-- The read and the first insert go through; the call after them throws. -/
def interrupted : World Store Failure where
  state := { db := sampleDatabase false .empty }
  faults := [none, none, some connectionLost]

theorem joinGroup_interrupted :
    joinGroup.run acme interrupted = (.error connectionLost, (joinGroup.run acme interrupted).2) ∧
      (joinGroup.run acme interrupted).2.state.db.memberships.rows =
        [⟨"acme", sampleGroupId, sampleUserId⟩] := by
  constructor
  · exact Prod.ext rfl rfl
  · decide +kernel

theorem reconcile_untouched_interrupted :
    Untouched interrupted.state.db (joinGroup.run acme interrupted).2.state.db ↔
      ¬joinGroup.Differs interrupted.state.db "acme" ∨
        Faulty.ThrowsAt interrupted 0 ∨ Faulty.ThrowsAt interrupted 1 :=
  reconcile_untouched_iff joinGroup_interrupted.1

/-- The user is in the group and has none of its roles. -/
theorem not_reconcile_atomic :
    ¬∀ (ctx : Context) (op : Reconciliation) (w w' : World Store Failure) (e : Failure),
      op.run ctx w = (.error e, w') → Untouched w.state.db w'.state.db := by
  intro hatomic
  obtain ⟨hruns, hrows⟩ := joinGroup_interrupted
  have huntouched := hatomic acme joinGroup interrupted _ _ hruns
  have hsame := huntouched.memberships
  rw [hrows] at hsame
  exact absurd hsame (List.cons_ne_nil _ _)

end AccessService.UserGroups
