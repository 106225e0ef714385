/-
  AccessService.UserGroups.GroupVersions

  Overlapping edits of one user group.  A call checks the version when it loads the
  group, and saves the row later without looking at the version again; other calls
  may take their steps in between.

  No update is lost exactly when every call that commits finds the version it has
  checked (`group_updates_iff`).
-/

import AccessService.Lib.Rows
import AccessService.Lib.Transition
import AccessService.UserGroups.GroupUpdates

namespace AccessService.UserGroups

open AccessService.Lib AccessService.Lib.Transition AccessService.Pg AccessService.Persistence

-- ============================================================================
-- The steps
-- ============================================================================

inductive GroupCallPhase where
  | submitted
  | loaded (existing : UserGroupEntity) (groupRoles : List Uuid)
  | checked (existing : UserGroupEntity) (groupRoles : List Uuid)
  | prepared (change : Change)
  /-- In the transaction: the row is locked until the call ends. -/
  | saved (change : Change)
  | succeeded
  | failed (error : UserGroupError)
  deriving DecidableEq

/-- The calls on one group, and the group as committed. -/
structure GroupCalls where
  group : StoredGroup
  calls : List (GroupCall × GroupCallPhase)

/-- What a call does next. -/
inductive GroupMove where
  | load
  | check (answers : Answers)
  | prepare
  | save
  /-- A query fails; a transaction is rolled back. -/
  | fail
  deriving DecidableEq

inductive GroupStep where
  | submit (call : GroupCall)
  | move (i : Nat) (move : GroupMove)
  | commit (i : Nat)
  deriving DecidableEq

namespace GroupCalls

/-- The moves that leave the committed group alone. -/
def advance (onlyIds : OnlyIds) (group : StoredGroup) (call : GroupCall) :
    GroupCallPhase → GroupMove → Option GroupCallPhase
  | .submitted, .load =>
    if (group.row.version : Int) ≠ call.request.expectedVersion then
      some (.failed .concurrentModification)
    else some (.loaded (.load group.row) (relationRoles call group))
  | .loaded existing groupRoles, .check answers =>
    match validate call existing (onlyIds group.roles.rows) answers with
    | .ok () => some (.checked existing groupRoles)
    | .error e => some (.failed e)
  | .checked existing groupRoles, .prepare =>
    match changeOf call existing groupRoles (onlyIds group.roles.rows) with
    | .ok change => some (.prepared change)
    | .error e => some (.failed e)
  | .prepared change, .save => some (.saved change)
  | .succeeded, .fail | .failed _, .fail => none
  | _, .fail => some (.failed .queryFailed)
  | _, _ => none

/-- Some call is between its save and its commit. -/
def Locked (s : GroupCalls) : Prop := ∃ c ∈ s.calls, ∃ change, c.2 = .saved change

def isSaved : GroupCallPhase → Bool
  | .saved _ => true
  | _ => false

instance (s : GroupCalls) : Decidable s.Locked :=
  decidable_of_iff (s.calls.any (isSaved ·.2) = true) (by
    simp only [List.any_eq_true, Locked]
    refine exists_congr fun c => and_congr_right fun _ => ?_
    cases c.2 <;> simp [isSaved])

def step (onlyIds : OnlyIds) (s : GroupCalls) : GroupStep → Option GroupCalls
  | .submit call => some { s with calls := s.calls ++ [(call, .submitted)] }
  | .move i move =>
    if move = .save ∧ s.Locked then none
    else
      match s.calls[i]? with
      | some (call, phase) =>
        (advance onlyIds s.group call phase move).map fun phase' =>
          { s with calls := s.calls.set i (call, phase') }
      | none => none
  | .commit i =>
    match s.calls[i]? with
    | some (call, .saved change) =>
      match change.write s.group with
      | some group => some ⟨group, s.calls.set i (call, .succeeded)⟩
      | none => some { s with calls := s.calls.set i (call, .failed .queryFailed) }
    | _ => none

end GroupCalls

/-- A group before any call. -/
def groupCalls (onlyIds : OnlyIds) : System GroupCalls GroupStep where
  init s := s.calls = []
  step := GroupCalls.step onlyIds

namespace GroupCalls

def Succeeded (s : GroupCalls) (i : Nat) (call : GroupCall) : Prop :=
  s.calls[i]? = some (call, .succeeded)

/-- A call that succeeds raises the stored version by one. -/
def RaisesByOne (s : GroupCalls) (_ : GroupStep) (t : GroupCalls) : Prop :=
  ∀ i call, t.Succeeded i call → ¬s.Succeeded i call →
    t.group.row.version = s.group.row.version + 1

/-- Of the calls with one expected version at most one succeeds. -/
def OncePerVersion (s : GroupCalls) : Prop :=
  ∀ i j call other, s.Succeeded i call → s.Succeeded j other →
    call.request.expectedVersion = other.request.expectedVersion → i = j

/-- The group is what the successful calls make of `group`, one after another. -/
def InTurn (onlyIds : OnlyIds) (group : StoredGroup) (s : GroupCalls) : Prop :=
  ∃ log : List (Nat × GroupCall), (log.map Prod.fst).Nodup ∧
    (∀ i call, (i, call) ∈ log ↔ s.Succeeded i call) ∧
    (groupRecord onlyIds).serial group (log.map Prod.snd) = some s.group

/-- A call that commits finds the version its caller expects. -/
def Fresh (s : GroupCalls) (step : GroupStep) (_ : GroupCalls) : Prop :=
  ∀ i call change, step = .commit i → s.calls[i]? = some (call, .saved change) →
    (change.write s.group).isSome = true →
    (s.group.row.version : Int) = call.request.expectedVersion

-- ============================================================================
-- The invariant
-- ============================================================================

variable {onlyIds : OnlyIds}

/-- What a call holds is what it would hold now, unless the version has moved on. -/
def PhaseOk (onlyIds : OnlyIds) (group : StoredGroup) (call : GroupCall) :
    GroupCallPhase → Prop
  | .loaded existing groupRoles | .checked existing groupRoles =>
    (existing.version : Int) = call.request.expectedVersion ∧
      existing.version ≤ group.row.version ∧
      (existing.version = group.row.version →
        existing = .load group.row ∧ groupRoles = relationRoles call group)
  | .prepared change | .saved change =>
    (change.entity.version : Int) = call.request.expectedVersion + 1 ∧
      change.entity.version ≤ group.row.version + 1 ∧
      (change.entity.version = group.row.version + 1 →
        changeFrom onlyIds call group = .ok change)
  | .submitted | .succeeded | .failed _ => True

structure Consistent (onlyIds : OnlyIds) (group₀ : StoredGroup) (s : GroupCalls) : Prop where
  phases : ∀ (i : Nat) (call : GroupCall) (phase : GroupCallPhase),
    s.calls[i]? = some (call, phase) → PhaseOk onlyIds s.group call phase
  accounted : (groupRecord onlyIds).Accounted group₀ s.group s.Succeeded

/-- A call's phase outlives a commit of another call. -/
theorem PhaseOk.raise {group group' : StoredGroup} {call : GroupCall} {phase : GroupCallPhase}
    (h : PhaseOk onlyIds group call phase)
    (hraises : group'.row.version = group.row.version + 1) :
    PhaseOk onlyIds group' call phase := by
  cases phase with
  | loaded existing groupRoles | checked existing groupRoles =>
    obtain ⟨hexpected, hle, -⟩ := h
    exact ⟨hexpected, by omega, fun hsame => by omega⟩
  | prepared change | saved change =>
    obtain ⟨hexpected, hle, -⟩ := h
    exact ⟨hexpected, by omega, fun hsame => by omega⟩
  | submitted | succeeded | failed => trivial

theorem PhaseOk.advance {group : StoredGroup} {call : GroupCall} {phase phase' : GroupCallPhase}
    {move : GroupMove} (h : PhaseOk onlyIds group call phase)
    (hmove : advance onlyIds group call phase move = some phase') :
    PhaseOk onlyIds group call phase' ∧ phase ≠ .succeeded ∧ phase' ≠ .succeeded := by
  cases phase <;> cases move <;> try cases hmove
  case submitted.load =>
    simp only [GroupCalls.advance] at hmove
    split at hmove
    · cases hmove
      exact ⟨trivial, nofun, nofun⟩
    next hsame =>
      cases hmove
      exact ⟨⟨not_not.mp hsame, Nat.le_refl _, fun _ => ⟨rfl, rfl⟩⟩, nofun, nofun⟩
  case loaded.check existing groupRoles answers =>
    simp only [GroupCalls.advance] at hmove
    split at hmove
    · cases hmove
      exact ⟨h, nofun, nofun⟩
    · cases hmove
      exact ⟨trivial, nofun, nofun⟩
  case checked.prepare existing groupRoles =>
    simp only [GroupCalls.advance] at hmove
    split at hmove
    next change hchange =>
      cases hmove
      obtain ⟨hexpected, hle, hsame⟩ := h
      have hversion := changeOf_version hchange
      refine ⟨⟨by omega, by omega, fun heq => ?_⟩, nofun, nofun⟩
      obtain ⟨rfl, rfl⟩ := hsame (by omega)
      exact hchange
    · cases hmove
      exact ⟨trivial, nofun, nofun⟩
  case prepared.save change => exact ⟨h, nofun, nofun⟩
  all_goals exact ⟨trivial, nofun, nofun⟩

-- ============================================================================
-- One step
-- ============================================================================

/-- What a step does: it adds a call, moves one on, or commits one. -/
theorem step_cases {s t : GroupCalls} {a : GroupStep} (h : s.step onlyIds a = some t) :
    (Fresh s a t ∧ ∃ call, t = { s with calls := s.calls ++ [(call, .submitted)] }) ∨
    (Fresh s a t ∧ ∃ i call phase phase', s.calls[i]? = some (call, phase) ∧
      (PhaseOk onlyIds s.group call phase →
        PhaseOk onlyIds s.group call phase' ∧ phase ≠ .succeeded ∧ phase' ≠ .succeeded) ∧
      t = { s with calls := s.calls.set i (call, phase') }) ∨
    (∃ i call change group, a = .commit i ∧ s.calls[i]? = some (call, .saved change) ∧
      change.write s.group = some group ∧
      t = ⟨group, s.calls.set i (call, .succeeded)⟩) := by
  cases a with
  | submit call =>
    exact .inl ⟨fun _ _ _ ha => (nomatch ha), call, (Option.some.inj h).symm⟩
  | move i move =>
    simp only [step] at h
    split at h
    · cases h
    · split at h
      next call phase hcall =>
        obtain ⟨phase', hadvance, rfl⟩ := Option.map_eq_some_iff.mp h
        exact .inr (.inl ⟨fun _ _ _ ha => (nomatch ha), i, call, phase, phase', hcall,
          fun hok => hok.advance hadvance, rfl⟩)
      · cases h
  | commit i =>
    simp only [step] at h
    split at h
    next call change hcall =>
      split at h
      next group hwrite =>
        exact .inr (.inr ⟨i, call, change, group, rfl, hcall, hwrite, (Option.some.inj h).symm⟩)
      next hnone =>
        refine .inr (.inl ⟨?_, i, call, .saved change, .failed .queryFailed, hcall, fun _ => ?_,
          (Option.some.inj h).symm⟩)
        · intro j other change' hj hother hwrite
          obtain rfl := GroupStep.commit.inj hj
          cases hcall.symm.trans hother
          rw [hnone] at hwrite
          cases hwrite
        · exact ⟨trivial, nofun, nofun⟩
    · cases h

theorem succeeded_set {s : GroupCalls} {i j : Nat} {call other : GroupCall}
    {phase phase' : GroupCallPhase} {group : StoredGroup}
    (hcall : s.calls[i]? = some (call, phase)) (hphase : phase ≠ .succeeded) :
    Succeeded ⟨group, s.calls.set i (call, phase')⟩ j other ↔
      (j = i ∧ other = call ∧ phase' = .succeeded) ∨ s.Succeeded j other := by
  rw [Succeeded, Rows.getElem?_set_row hcall, Prod.mk.injEq, eq_comm (a := GroupCallPhase.succeeded)]
  refine or_congr_right ⟨fun h => h.2, fun h => ⟨?_, h⟩⟩
  rintro rfl
  have hsame := Option.some.inj (hcall.symm.trans h)
  exact hphase (Prod.mk.inj hsame).2

theorem succeeded_submit {s : GroupCalls} {i : Nat} {call other : GroupCall} :
    Succeeded { s with calls := s.calls ++ [(call, .submitted)] } i other ↔
      s.Succeeded i other := by
  rw [Succeeded, Rows.getElem?_concat]
  refine or_iff_left ?_
  rintro ⟨-, hsame⟩
  cases hsame

/-- A call that commits raises the version by one exactly when it is fresh. -/
theorem raisesByOne_iff_fresh {group₀ : StoredGroup} {s t : GroupCalls} {a : GroupStep}
    (hs : Consistent onlyIds group₀ s) (h : s.step onlyIds a = some t) :
    RaisesByOne s a t ↔ Fresh s a t := by
  rcases step_cases h with ⟨hfresh, call, rfl⟩ |
    ⟨hfresh, i, call, phase, phase', hcall, hmove, rfl⟩ |
    ⟨i, call, change, group, rfl, hcall, hwrite, rfl⟩
  · refine iff_of_true (fun j other hafter hbefore => ?_) hfresh
    exact absurd (succeeded_submit.mp hafter) hbefore
  · refine iff_of_true (fun j other hafter hbefore => ?_) hfresh
    obtain ⟨-, hphase, hphase'⟩ := hmove (hs.phases i call phase hcall)
    rcases (succeeded_set hcall hphase).mp hafter with ⟨-, -, hnew⟩ | hold
    · exact absurd hnew hphase'
    · exact absurd hold hbefore
  · -- the version written is one above the version the caller expects
    obtain ⟨hversion, -⟩ := hs.phases i call _ hcall
    have hwritten := Change.write_version hwrite
    constructor
    · intro hraises j other change' hj hother _
      obtain rfl := GroupStep.commit.inj hj
      cases hcall.symm.trans hother
      have hsucceeds : Succeeded ⟨group, s.calls.set i (call, .succeeded)⟩ i call :=
        (succeeded_set hcall nofun).mpr (.inl ⟨rfl, rfl, rfl⟩)
      have hstored := hraises i call hsucceeds fun hold => by cases hcall.symm.trans hold
      have hstored' : group.row.version = s.group.row.version + 1 := hstored
      omega
    · intro hfresh j other _ _
      have hexpected := hfresh i call change rfl hcall (by rw [hwrite]; rfl)
      show group.row.version = s.group.row.version + 1
      omega

theorem consistent_step {group₀ : StoredGroup} {s t : GroupCalls} {a : GroupStep}
    (hs : Consistent onlyIds group₀ s) (h : s.step onlyIds a = some t) (hfresh : Fresh s a t) :
    Consistent onlyIds group₀ t := by
  rcases step_cases h with ⟨-, call, rfl⟩ | ⟨-, i, call, phase, phase', hcall, hmove, rfl⟩ |
    ⟨i, call, change, group, rfl, hcall, hwrite, rfl⟩
  · refine ⟨fun j other phase hj => ?_, hs.accounted.of_same fun _ _ => succeeded_submit⟩
    rcases Rows.getElem?_concat.mp hj with hold | ⟨-, hnew⟩
    · exact hs.phases j other phase hold
    · cases hnew
      trivial
  · obtain ⟨hok, hbefore, hafter⟩ := hmove (hs.phases i call phase hcall)
    refine ⟨fun j other phase hj => ?_, hs.accounted.of_same fun j other => ?_⟩
    · rcases (Rows.getElem?_set_row hcall).mp hj with ⟨-, hnew⟩ | ⟨-, hold⟩
      · cases hnew
        exact hok
      · exact hs.phases j other phase hold
    · rw [succeeded_set hcall hbefore]
      exact or_iff_right fun hnew => hafter hnew.2.2
  · have hsaved := hs.phases i call _ hcall
    have hexpected := hfresh i call change rfl hcall (by rw [hwrite]; rfl)
    obtain ⟨hversion, -, hsame⟩ := hsaved
    have hchange := hsame (by omega)
    have hraises : group.row.version = s.group.row.version + 1 := by
      rw [Change.write_version hwrite]
      omega
    refine ⟨fun j other phase hj => ?_, ?_⟩
    · rcases (Rows.getElem?_set_row hcall).mp hj with ⟨-, hnew⟩ | ⟨-, hold⟩
      · cases hnew
        trivial
      · exact (hs.phases j other phase hold).raise hraises
    · have happly : (groupRecord onlyIds).apply call s.group = some group := by
        show applyCall onlyIds call s.group = some group
        rw [applyCall, if_neg (not_not.mpr hexpected), hchange]
        exact hwrite
      have hnew : ∀ other, ¬s.Succeeded i other := fun other hold => by
        cases hcall.symm.trans hold
      refine hs.accounted.commit hnew happly ?_ ?_ fun j other => ?_
      · show (group.row.version : Int) = s.group.row.version + 1
        omega
      · intro v hv
        rw [← Option.some.inj hv]
        exact hexpected.symm
      · rw [succeeded_set hcall nofun]
        exact or_congr_left (and_congr_right fun _ => and_iff_left rfl)

-- ============================================================================
-- Runs
-- ============================================================================

theorem Consistent.initial {s : GroupCalls} (hs : (groupCalls onlyIds).init s) :
    Consistent onlyIds s.group s := by
  have hnone : ∀ i : Nat, s.calls[i]? = none := by
    intro i
    rw [show s.calls = [] from hs]
    rfl
  refine ⟨fun i call phase hi => ?_, .start fun i call hi => ?_⟩
  · rw [hnone] at hi
    cases hi
  · rw [Succeeded, hnone] at hi
    cases hi

theorem Consistent.oncePerVersion {group₀ : StoredGroup} {s : GroupCalls}
    (h : Consistent onlyIds group₀ s) : s.OncePerVersion :=
  fun _ _ _ _ hi hj hsame => h.accounted.once hi hj rfl (congrArg some hsame.symm)

section Run

variable {s t : GroupCalls} {steps : List GroupStep}

theorem along_raisesByOne_iff (hs : (groupCalls onlyIds).init s)
    (h : (groupCalls onlyIds).execute s steps = some t) :
    (groupCalls onlyIds).Along RaisesByOne s steps ↔ (groupCalls onlyIds).Along Fresh s steps :=
  System.along_iff (I := Consistent onlyIds s.group)
    (fun _ _ _ hs h => raisesByOne_iff_fresh hs h)
    (fun _ _ _ hs h hfresh => consistent_step hs h hfresh) (.initial hs) h

theorem consistent_of_fresh (hs : (groupCalls onlyIds).init s)
    (h : (groupCalls onlyIds).execute s steps = some t)
    (hfresh : (groupCalls onlyIds).Along Fresh s steps) : Consistent onlyIds s.group t :=
  System.Along.invariant (I := Consistent onlyIds s.group) (Q := Fresh)
    (fun _ _ _ hs h hfresh => consistent_step hs h hfresh) (.initial hs) h hfresh

/-- In any run of edits of one group: every success raises the version by one, no
    two successes share an expected version, and the group is what the successful
    calls make of it one after another, exactly when every call that commits finds
    the version it expects. -/
theorem group_updates_iff (hs : (groupCalls onlyIds).init s)
    (h : (groupCalls onlyIds).execute s steps = some t) :
    ((groupCalls onlyIds).Along RaisesByOne s steps ∧ t.OncePerVersion ∧
        t.InTurn onlyIds s.group) ↔
      (groupCalls onlyIds).Along Fresh s steps := by
  rw [along_raisesByOne_iff hs h, and_iff_left_of_imp]
  intro hfresh
  have hlast := consistent_of_fresh hs h hfresh
  exact ⟨hlast.oncePerVersion, hlast.accounted.serial⟩

end Run

/-- A call that meets no other makes of the group what `applyCall` says. -/
theorem execute_alone {call : GroupCall} {group group' : StoredGroup} {answers : Answers}
    (hvalid : validate call (.load group.row) (onlyIds group.roles.rows) answers = .ok ())
    (happly : applyCall onlyIds call group = some group') :
    (groupCalls onlyIds).execute ⟨group, []⟩
        [.submit call, .move 0 .load, .move 0 (.check answers), .move 0 .prepare, .move 0 .save,
          .commit 0] =
      some ⟨group', [(call, .succeeded)]⟩ := by
  unfold applyCall at happly
  split at happly
  · cases happly
  next hversion =>
    split at happly
    next change hchange =>
      have hunlocked : ∀ phase, isSaved phase = false →
          ¬Locked ⟨group, [(call, phase)]⟩ := by
        rintro phase hphase ⟨c, hc, change', hsaved⟩
        rw [List.mem_singleton.mp hc] at hsaved
        have hsame : phase = .saved change' := hsaved
        rw [hsame] at hphase
        cases hphase
      refine System.execute_cons.mpr ⟨⟨group, [(call, .submitted)]⟩, rfl, ?_⟩
      refine System.execute_cons.mpr
        ⟨⟨group, [(call, .loaded (.load group.row) (relationRoles call group))]⟩, ?_, ?_⟩
      · simp [groupCalls, step, advance, hversion]
      refine System.execute_cons.mpr
        ⟨⟨group, [(call, .checked (.load group.row) (relationRoles call group))]⟩, ?_, ?_⟩
      · simp [groupCalls, step, advance, hvalid]
      refine System.execute_cons.mpr ⟨⟨group, [(call, .prepared change)]⟩, ?_, ?_⟩
      · rw [changeFrom] at hchange
        simp [groupCalls, step, advance, hchange]
      refine System.execute_cons.mpr ⟨⟨group, [(call, .saved change)]⟩, ?_, ?_⟩
      · simp [groupCalls, step, advance, hunlocked (.prepared change) rfl]
      · simp [System.execute, groupCalls, step, happly]
    · cases happly

-- ============================================================================
-- Two runs
-- ============================================================================

def sampleGroup : StoredGroup where
  row := { sampleUserGroup with name := "Engineers" }
  roles := .empty

/-- `findRoleIdsByGroupId` answers the ids of the assigned roles. -/
def assignedRoles : OnlyIds := fun roleIds => roleIds

def deactivateCall : GroupCall := ⟨.deactivate 1 false, none⟩

def widenCall : GroupCall :=
  ⟨.updateScope { scopeType := "TENANT_WIDE", expectedVersion := 1 }, none⟩

def alone (i : Nat) : List GroupStep :=
  [.move i .load, .move i (.check {}), .move i .prepare, .move i .save, .commit i]

/-- The scope is widened after the group has been deactivated, and refused. -/
def orderlySteps : List GroupStep :=
  [.submit deactivateCall, .submit widenCall] ++ alone 0 ++ [.move 1 .load]

/-- Both calls load the group before either saves it. -/
def overlappingSteps : List GroupStep :=
  [.submit deactivateCall, .submit widenCall, .move 0 .load, .move 1 .load,
    .move 0 (.check {}), .move 0 .prepare, .move 0 .save, .commit 0,
    .move 1 (.check {}), .move 1 .prepare, .move 1 .save, .commit 1]

theorem group_updates_iff_orderly :
    ∃ t, (groupCalls assignedRoles).execute ⟨sampleGroup, []⟩ orderlySteps = some t ∧
      (((groupCalls assignedRoles).Along RaisesByOne ⟨sampleGroup, []⟩ orderlySteps ∧
          t.OncePerVersion ∧ t.InTurn assignedRoles sampleGroup) ↔
        (groupCalls assignedRoles).Along Fresh ⟨sampleGroup, []⟩ orderlySteps) := by
  have hruns : ((groupCalls assignedRoles).execute ⟨sampleGroup, []⟩ orderlySteps).isSome =
      true := by
    decide +kernel
  obtain ⟨t, ht⟩ := Option.isSome_iff_exists.mp hruns
  exact ⟨t, ht, group_updates_iff rfl ht⟩

/-- Both calls succeed at version 1; the group is ACTIVE again, at version 2. -/
theorem not_group_updates_safe :
    ∃ onlyIds s t steps, (groupCalls onlyIds).init s ∧
      (groupCalls onlyIds).execute s steps = some t ∧
      ¬(groupCalls onlyIds).Along RaisesByOne s steps ∧ ¬t.OncePerVersion ∧
      t.Succeeded 0 deactivateCall ∧ t.group.row.status = .ACTIVE := by
  have hruns : ((groupCalls assignedRoles).execute ⟨sampleGroup, []⟩ overlappingSteps).any
      (fun t => t.calls = [(deactivateCall, .succeeded), (widenCall, .succeeded)] ∧
        t.group.row.status = .ACTIVE) = true := by
    decide +kernel
  obtain ⟨t, ht, hlast⟩ := (Option.any_eq_true _ _).mp hruns
  obtain ⟨hcalls, hstatus⟩ := of_decide_eq_true hlast
  have hfirst : t.Succeeded 0 deactivateCall := by rw [Succeeded, hcalls]; rfl
  have hsecond : t.Succeeded 1 widenCall := by rw [Succeeded, hcalls]; rfl
  have honce : ¬t.OncePerVersion := by
    intro honce
    exact absurd (honce 0 1 _ _ hfirst hsecond rfl) (by decide)
  refine ⟨assignedRoles, ⟨sampleGroup, []⟩, t, overlappingSteps, rfl, ht, ?_, honce, hfirst,
    hstatus⟩
  intro hraises
  have hinit : (groupCalls assignedRoles).init ⟨sampleGroup, []⟩ := rfl
  have hfresh := (along_raisesByOne_iff hinit ht).mp hraises
  exact honce (consistent_of_fresh hinit ht hfresh).oncePerVersion

end GroupCalls

end AccessService.UserGroups
