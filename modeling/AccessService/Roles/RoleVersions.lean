/-
  AccessService.Roles.RoleVersions

  Overlapping edits of one role.  A call's transaction begins with a locking read,
  which waits while another call holds the lock, and checks the version again under
  it; the lock is held until the transaction ends.  So no update is lost, whatever
  the calls have read before (`role_updates_safe`).
-/

import AccessService.Lib.Rows
import AccessService.Lib.Transition
import AccessService.Roles.RoleUpdates

namespace AccessService.Roles

open AccessService.Lib AccessService.Lib.Transition AccessService.Permissions
open AccessService.Persistence
open RoleApplicationService

-- ============================================================================
-- The steps
-- ============================================================================

inductive RoleCallPhase where
  | submitted
  | read (role : RoleEntity)
  | checked (role : RoleEntity)
  /-- In the transaction, with the lock on the row. -/
  | locked (lockedRole : RoleEntity)
  | committed
  | answered (response : HighImpactConfirmationRequired)
  | failed (error : RoleError)
  deriving DecidableEq

/-- The calls on one role, and the role as committed. -/
structure RoleCalls where
  role : StoredRole
  calls : List (RoleCall × RoleCallPhase)

/-- What a call does next. -/
inductive RoleMove where
  | read
  | check (answers : RoleAnswers)
  | lock
  /-- A query fails; a transaction is rolled back. -/
  | fail
  deriving DecidableEq

inductive RoleStep where
  | submit (call : RoleCall)
  | move (i : Nat) (move : RoleMove)
  | commit (i : Nat)
  deriving DecidableEq

namespace RoleCalls

/-- The moves that leave the committed role alone. -/
def advance (graph : PermissionDependencyGraph) (role : StoredRole) (call : RoleCall) :
    RoleCallPhase → RoleMove → Option RoleCallPhase
  | .submitted, .read =>
    match checkRole call.request (.load role.row) with
    | .ok () => some (.read (.load role.row))
    | .error e => some (.failed e)
  | .read existing, .check answers =>
    match checkRequest graph call.request existing answers with
    | .ok none => some (.checked existing)
    | .ok (some response) => some (.answered response)
    | .error e => some (.failed e)
  | .checked _, .lock =>
    match checkVersion (.load role.row) call.request.version with
    | .ok () => some (.locked (.load role.row))
    | .error e => some (.failed e)
  | .committed, .fail | .answered _, .fail | .failed _, .fail => none
  | _, .fail => some (.failed .queryFailed)
  | _, _ => none

def isLocked : RoleCallPhase → Bool
  | .locked _ => true
  | _ => false

/-- Some call holds the lock. -/
def Locked (s : RoleCalls) : Prop := (s.calls.any fun c => isLocked c.2) = true

instance (s : RoleCalls) : Decidable s.Locked := inferInstanceAs (Decidable (_ = true))

def step (graph : PermissionDependencyGraph) (s : RoleCalls) : RoleStep → Option RoleCalls
  | .submit call => some { s with calls := s.calls ++ [(call, .submitted)] }
  | .move i move =>
    if move = .lock ∧ s.Locked then none
    else
      match s.calls[i]? with
      | some (call, phase) =>
        (advance graph s.role call phase move).map fun phase' =>
          { s with calls := s.calls.set i (call, phase') }
      | none => none
  | .commit i =>
    match s.calls[i]? with
    | some (call, .locked lockedRole) =>
      match write call lockedRole s.role with
      | some role => some ⟨role, s.calls.set i (call, .committed)⟩
      | none => some { s with calls := s.calls.set i (call, .failed .queryFailed) }
    | _ => none

end RoleCalls

/-- A role before any call. -/
def roleCalls (graph : PermissionDependencyGraph) : System RoleCalls RoleStep where
  init s := s.calls = []
  step := RoleCalls.step graph

namespace RoleCalls

def Committed (s : RoleCalls) (i : Nat) (call : RoleCall) : Prop :=
  s.calls[i]? = some (call, .committed)

/-- A call that commits raises the stored version by one. -/
def RaisesByOne (s : RoleCalls) (_ : RoleStep) (t : RoleCalls) : Prop :=
  ∀ i call, t.Committed i call → ¬s.Committed i call →
    t.role.row.version = s.role.row.version + 1

/-- Of the calls that carry one version at most one commits. -/
def OncePerVersion (s : RoleCalls) : Prop :=
  ∀ i j call other v, s.Committed i call → s.Committed j other →
    call.request.version = some v → other.request.version = some v → i = j

/-- The role and its permissions are what the committed calls make of `role`, one
    after another. -/
def InTurn (role : StoredRole) (s : RoleCalls) : Prop :=
  ∃ log : List (Nat × RoleCall), (log.map Prod.fst).Nodup ∧
    (∀ i call, (i, call) ∈ log ↔ s.Committed i call) ∧
    roleRecord.serial role (log.map Prod.snd) = some s.role

-- ============================================================================
-- The invariant
-- ============================================================================

variable {graph : PermissionDependencyGraph}

/-- A call that has passed its checks would pass them on a role of the kind that is
    stored; a call with the lock holds what is stored, at the version it expects. -/
def PhaseOk (role : StoredRole) (call : RoleCall) : RoleCallPhase → Prop
  | .read existing | .checked existing =>
    SameKind existing (.load role.row) ∧ checkRole call.request existing = .ok ()
  | .locked lockedRole =>
    lockedRole = .load role.row ∧ checkRole call.request lockedRole = .ok () ∧
      checkVersion lockedRole call.request.version = .ok ()
  | .submitted | .committed | .answered _ | .failed _ => True

structure Consistent (role₀ : StoredRole) (s : RoleCalls) : Prop where
  phases : ∀ (i : Nat) (call : RoleCall) (phase : RoleCallPhase),
    s.calls[i]? = some (call, phase) → PhaseOk s.role call phase
  oneLock : ∀ (i j : Nat) (call other : RoleCall) (role role' : RoleEntity),
    s.calls[i]? = some (call, .locked role) → s.calls[j]? = some (other, .locked role') → i = j
  accounted : roleRecord.Accounted role₀ s.role s.Committed

theorem PhaseOk.advance {role : StoredRole} {call : RoleCall} {phase phase' : RoleCallPhase}
    {move : RoleMove} (h : PhaseOk role call phase)
    (hmove : advance graph role call phase move = some phase') :
    PhaseOk role call phase' ∧ phase ≠ .committed ∧ phase' ≠ .committed := by
  cases phase <;> cases move <;> try cases hmove
  case submitted.read =>
    simp only [RoleCalls.advance] at hmove
    split at hmove
    next hfirst =>
      cases hmove
      exact ⟨⟨⟨rfl, rfl⟩, hfirst⟩, nofun, nofun⟩
    · cases hmove
      exact ⟨trivial, nofun, nofun⟩
  case read.check existing answers =>
    simp only [RoleCalls.advance] at hmove
    split at hmove <;> cases hmove
    · exact ⟨h, nofun, nofun⟩
    · exact ⟨trivial, nofun, nofun⟩
    · exact ⟨trivial, nofun, nofun⟩
  case checked.lock existing =>
    simp only [RoleCalls.advance] at hmove
    split at hmove
    next hversion =>
      cases hmove
      obtain ⟨hkind, hfirst⟩ := h
      exact ⟨⟨rfl, checkRole_again hkind hfirst hversion, hversion⟩, nofun, nofun⟩
    · cases hmove
      exact ⟨trivial, nofun, nofun⟩
  all_goals exact ⟨trivial, nofun, nofun⟩

theorem lock_of_advance {role : StoredRole} {call : RoleCall} {phase phase' : RoleCallPhase}
    {move : RoleMove} (hmove : advance graph role call phase move = some phase')
    (hlocked : isLocked phase' = true) : move = .lock := by
  unfold RoleCalls.advance at hmove
  split at hmove <;> try split at hmove
  all_goals first | rfl | (cases hmove; done) | (cases hmove; cases hlocked)

/-- A call without the lock is not disturbed by a commit. -/
theorem PhaseOk.of_write {role role' : StoredRole} {call other : RoleCall}
    {phase : RoleCallPhase} (h : PhaseOk role other phase) (hphase : isLocked phase = false)
    (hwrite : write call (.load role.row) role = some role') : PhaseOk role' other phase := by
  have hkind := write_kind hwrite
  cases phase with
  | read existing | checked existing =>
    obtain ⟨hsame, hfirst⟩ := h
    exact ⟨⟨hsame.1.trans hkind.1, hsame.2.trans hkind.2⟩, hfirst⟩
  | locked lockedRole => cases hphase
  | submitted | committed | answered | failed => trivial

-- ============================================================================
-- One step
-- ============================================================================

/-- What a step does: it adds a call, moves one on, or commits one. -/
theorem step_cases {s t : RoleCalls} {a : RoleStep} (h : s.step graph a = some t) :
    (∃ call, t = { s with calls := s.calls ++ [(call, .submitted)] }) ∨
    (∃ i call phase phase', s.calls[i]? = some (call, phase) ∧
      (PhaseOk s.role call phase →
        PhaseOk s.role call phase' ∧ phase ≠ .committed ∧ phase' ≠ .committed) ∧
      (isLocked phase' = true → ¬s.Locked) ∧
      t = { s with calls := s.calls.set i (call, phase') }) ∨
    (∃ i call lockedRole role, s.calls[i]? = some (call, .locked lockedRole) ∧
      write call lockedRole s.role = some role ∧
      t = ⟨role, s.calls.set i (call, .committed)⟩) := by
  cases a with
  | submit call => exact .inl ⟨call, (Option.some.inj h).symm⟩
  | move i move =>
    simp only [step] at h
    split at h
    · cases h
    next hfree =>
      split at h
      next call phase hcall =>
        obtain ⟨phase', hadvance, rfl⟩ := Option.map_eq_some_iff.mp h
        refine .inr (.inl ⟨i, call, phase, phase', hcall, fun hok => ?_, fun hlocked => ?_, rfl⟩)
        · exact hok.advance hadvance
        · exact fun hheld => hfree ⟨lock_of_advance hadvance hlocked, hheld⟩
      · cases h
  | commit i =>
    simp only [step] at h
    split at h
    next call lockedRole hcall =>
      split at h
      next role hwrite =>
        exact .inr (.inr ⟨i, call, lockedRole, role, hcall, hwrite, (Option.some.inj h).symm⟩)
      · refine .inr (.inl ⟨i, call, .locked lockedRole, .failed .queryFailed, hcall, fun _ => ?_,
          nofun, (Option.some.inj h).symm⟩)
        exact ⟨trivial, nofun, nofun⟩
    · cases h

theorem committed_set {s : RoleCalls} {i j : Nat} {call other : RoleCall}
    {phase phase' : RoleCallPhase} {role : StoredRole}
    (hcall : s.calls[i]? = some (call, phase)) (hphase : phase ≠ .committed) :
    Committed ⟨role, s.calls.set i (call, phase')⟩ j other ↔
      (j = i ∧ other = call ∧ phase' = .committed) ∨ s.Committed j other := by
  rw [Committed, Rows.getElem?_set_row hcall, Prod.mk.injEq, eq_comm (a := RoleCallPhase.committed)]
  refine or_congr_right ⟨fun h => h.2, fun h => ⟨?_, h⟩⟩
  rintro rfl
  have hsame := Option.some.inj (hcall.symm.trans h)
  exact hphase (Prod.mk.inj hsame).2

theorem committed_submit {s : RoleCalls} {i : Nat} {call other : RoleCall} :
    Committed { s with calls := s.calls ++ [(call, .submitted)] } i other ↔
      s.Committed i other := by
  rw [Committed, Rows.getElem?_concat]
  refine or_iff_left ?_
  rintro ⟨-, hsame⟩
  cases hsame

theorem locked_of_row {s : RoleCalls} {i : Nat} {call : RoleCall} {role : RoleEntity}
    (h : s.calls[i]? = some (call, .locked role)) : s.Locked :=
  List.any_eq_true.mpr ⟨_, Rows.mem_of_row h, rfl⟩

/-- What a commit does, given that the call holds what is stored. -/
theorem commit_effect {role₀ : StoredRole} {s : RoleCalls} {i : Nat} {call : RoleCall}
    {lockedRole : RoleEntity} {role : StoredRole} (hs : Consistent role₀ s)
    (hcall : s.calls[i]? = some (call, .locked lockedRole))
    (hwrite : write call lockedRole s.role = some role) :
    role.row.version = s.role.row.version + 1 ∧
      roleRecord.apply call s.role = some role ∧
      ∀ v, call.request.version = some v → v = (s.role.row.version : Int) := by
  obtain ⟨rfl, hchecks, hversion⟩ := hs.phases i call _ hcall
  refine ⟨write_version hwrite, ?_, checkVersion_ok.mp hversion⟩
  show applyCall call s.role = some role
  rw [applyCall, hchecks]
  exact hwrite

theorem raisesByOne_step {role₀ : StoredRole} {s t : RoleCalls} {a : RoleStep}
    (hs : Consistent role₀ s) (h : s.step graph a = some t) : RaisesByOne s a t := by
  intro j other hafter hbefore
  rcases step_cases h with ⟨call, rfl⟩ | ⟨i, call, phase, phase', hcall, hmove, -, rfl⟩ |
    ⟨i, call, lockedRole, role, hcall, hwrite, rfl⟩
  · exact absurd (committed_submit.mp hafter) hbefore
  · obtain ⟨-, hphase, hphase'⟩ := hmove (hs.phases i call phase hcall)
    rcases (committed_set hcall hphase).mp hafter with ⟨-, -, hnew⟩ | hold
    · exact absurd hnew hphase'
    · exact absurd hold hbefore
  · exact (commit_effect hs hcall hwrite).1

theorem consistent_submit {role₀ : StoredRole} {s : RoleCalls} {call : RoleCall}
    (hs : Consistent role₀ s) :
    Consistent role₀ { s with calls := s.calls ++ [(call, .submitted)] } := by
  have hold : ∀ {i : Nat} {other : RoleCall} {phase : RoleCallPhase}, phase ≠ .submitted →
      (s.calls ++ [(call, .submitted)])[i]? = some (other, phase) →
      s.calls[i]? = some (other, phase) := by
    intro i other phase hne hrow
    rcases Rows.getElem?_concat.mp hrow with hrow | ⟨-, hnew⟩
    · exact hrow
    · exact absurd (Prod.mk.inj hnew).2 hne
  refine ⟨fun i other phase hrow => ?_, fun i j other other' role role' hi hj => ?_,
    hs.accounted.of_same fun _ _ => committed_submit⟩
  · rcases Rows.getElem?_concat.mp hrow with hrow | ⟨-, hnew⟩
    · exact hs.phases i other phase hrow
    · cases hnew
      trivial
  · exact hs.oneLock i j other other' role role' (hold nofun hi) (hold nofun hj)

/-- A call moves on, and takes the lock only if nobody has it. -/
theorem consistent_move {role₀ : StoredRole} {s : RoleCalls} {i : Nat} {call : RoleCall}
    {phase phase' : RoleCallPhase} (hs : Consistent role₀ s)
    (hcall : s.calls[i]? = some (call, phase)) (hok : PhaseOk s.role call phase')
    (hbefore : phase ≠ .committed) (hafter : phase' ≠ .committed)
    (hlock : isLocked phase' = true → ¬s.Locked) :
    Consistent role₀ { s with calls := s.calls.set i (call, phase') } := by
  refine ⟨fun j other q hj => ?_, fun j k other other' role role' hj hk => ?_,
    hs.accounted.of_same fun j other => ?_⟩
  · rcases (Rows.getElem?_set_row hcall).mp hj with ⟨-, hnew⟩ | ⟨-, hold⟩
    · cases hnew
      exact hok
    · exact hs.phases j other q hold
  · have hfree : ∀ {j : Nat} {c : RoleCall} {r : RoleEntity},
        s.calls[j]? = some (c, .locked r) → isLocked phase' ≠ true :=
      fun hrow hnew => hlock hnew (locked_of_row hrow)
    rcases (Rows.getElem?_set_row hcall).mp hj with ⟨rfl, hnew⟩ | ⟨-, hold⟩ <;>
      rcases (Rows.getElem?_set_row hcall).mp hk with ⟨rfl, hnew'⟩ | ⟨-, hold'⟩
    · rfl
    · exact absurd (by rw [← (Prod.mk.inj hnew).2]; rfl) (hfree hold')
    · exact absurd (by rw [← (Prod.mk.inj hnew').2]; rfl) (hfree hold)
    · exact hs.oneLock j k other other' role role' hold hold'
  · rw [committed_set hcall hbefore]
    exact or_iff_right fun hnew => hafter hnew.2.2

theorem consistent_commit {role₀ : StoredRole} {s : RoleCalls} {i : Nat} {call : RoleCall}
    {lockedRole : RoleEntity} {role : StoredRole} (hs : Consistent role₀ s)
    (hcall : s.calls[i]? = some (call, .locked lockedRole))
    (hwrite : write call lockedRole s.role = some role) :
    Consistent role₀ ⟨role, s.calls.set i (call, .committed)⟩ := by
  obtain ⟨hraises, happly, hexpected⟩ := commit_effect hs hcall hwrite
  obtain ⟨rfl, -⟩ := hs.phases i call _ hcall
  refine ⟨fun j other phase hj => ?_, fun j k other other' r r' hj hk => ?_, ?_⟩
  · rcases (Rows.getElem?_set_row hcall).mp hj with ⟨-, hnew⟩ | ⟨hne, hold⟩
    · cases hnew
      trivial
    · -- nobody else holds the lock
      have hunlocked : isLocked phase = false := by
        cases phase with
        | locked r => exact absurd (hs.oneLock j i other call r _ hold hcall) hne
        | _ => rfl
      exact (hs.phases j other phase hold).of_write hunlocked hwrite
  · rcases (Rows.getElem?_set_row hcall).mp hj with ⟨-, hnew⟩ | ⟨-, hold⟩
    · cases hnew
    · rcases (Rows.getElem?_set_row hcall).mp hk with ⟨-, hnew⟩ | ⟨-, hold'⟩
      · cases hnew
      · exact hs.oneLock j k other other' r r' hold hold'
  · have hnew : ∀ other, ¬s.Committed i other := fun other hold => by
      cases hcall.symm.trans hold
    refine hs.accounted.commit hnew happly ?_ hexpected fun j other => ?_
    · show (role.row.version : Int) = s.role.row.version + 1
      omega
    · rw [committed_set hcall nofun]
      exact or_congr_left (and_congr_right fun _ => and_iff_left rfl)

theorem consistent_step {role₀ : StoredRole} {s t : RoleCalls} {a : RoleStep}
    (hs : Consistent role₀ s) (h : s.step graph a = some t) : Consistent role₀ t := by
  rcases step_cases h with ⟨call, rfl⟩ | ⟨i, call, phase, phase', hcall, hmove, hlock, rfl⟩ |
    ⟨i, call, lockedRole, role, hcall, hwrite, rfl⟩
  · exact consistent_submit hs
  · obtain ⟨hok, hbefore, hafter⟩ := hmove (hs.phases i call phase hcall)
    exact consistent_move hs hcall hok hbefore hafter hlock
  · exact consistent_commit hs hcall hwrite

-- ============================================================================
-- Runs
-- ============================================================================

theorem Consistent.initial {s : RoleCalls} (hs : (roleCalls graph).init s) :
    Consistent s.role s := by
  have hnone : ∀ i : Nat, s.calls[i]? = none := by
    intro i
    rw [show s.calls = [] from hs]
    rfl
  refine ⟨fun i call phase hi => ?_, fun i j call other role role' hi => ?_,
    .start fun i call hi => ?_⟩
  · rw [hnone] at hi
    cases hi
  · rw [hnone] at hi
    cases hi
  · rw [Committed, hnone] at hi
    cases hi

/-- In any run of edits of one role: every commit raises the version by one, of the
    calls that carry one version at most one commits, and the role and its
    permissions are what the committed calls make of them one after another. -/
theorem role_updates_safe {s t : RoleCalls} {steps : List RoleStep}
    (hs : (roleCalls graph).init s) (h : (roleCalls graph).execute s steps = some t) :
    (roleCalls graph).Along RaisesByOne s steps ∧ t.OncePerVersion ∧ t.InTurn s.role := by
  have hfirst := Consistent.initial hs
  have hlast : Consistent s.role t :=
    System.execute_invariant (I := Consistent s.role)
      (fun _ _ _ hs h => consistent_step hs h) hfirst h
  refine ⟨?_, fun i j call other v hi hj hv hv' => ?_, hlast.accounted.serial⟩
  · exact System.along_of_invariant (I := Consistent s.role)
      (fun _ _ _ hs h => raisesByOne_step hs h) (fun _ _ _ hs h => consistent_step hs h) hfirst steps
  · exact hlast.accounted.once hi hj hv hv'

/-- A call that meets no other makes of the role what `applyCall` says. -/
theorem execute_alone {call : RoleCall} {role role' : StoredRole} {answers : RoleAnswers}
    (hrequest : checkRequest graph call.request (.load role.row) answers = .ok none)
    (hversion : checkVersion (.load role.row) call.request.version = .ok ())
    (happly : applyCall call role = some role') :
    (roleCalls graph).execute ⟨role, []⟩
        [.submit call, .move 0 .read, .move 0 (.check answers), .move 0 .lock, .commit 0] =
      some ⟨role', [(call, .committed)]⟩ := by
  unfold applyCall at happly
  split at happly
  next hfirst =>
    refine System.execute_cons.mpr ⟨⟨role, [(call, .submitted)]⟩, rfl, ?_⟩
    refine System.execute_cons.mpr ⟨⟨role, [(call, .read (.load role.row))]⟩, ?_, ?_⟩
    · simp [roleCalls, step, advance, hfirst]
    refine System.execute_cons.mpr ⟨⟨role, [(call, .checked (.load role.row))]⟩, ?_, ?_⟩
    · simp [roleCalls, step, advance, hrequest]
    refine System.execute_cons.mpr ⟨⟨role, [(call, .locked (.load role.row))]⟩, ?_, ?_⟩
    · simp [roleCalls, step, advance, hversion, Locked, isLocked]
    · simp [System.execute, roleCalls, step, happly]
  · cases happly

-- ============================================================================
-- A run
-- ============================================================================

def sampleRole : StoredRole where
  row := { id := sampleRoleId, tenantCode := "acme", name := "Reviewer" }
  permissions := .empty

def emptyCatalog : PermissionDependencyGraph := ⟨.empty⟩

def renameCall : RoleCall :=
  ⟨.updateCustom { name := "Auditor", permissionCodes := [], version := some 1 }, none⟩

def deactivateCall : RoleCall := ⟨.deactivate { version := some 1 }, none⟩

/-- Both calls pass their first checks; the second waits for the lock and is then
    refused. -/
def overlappingSteps : List RoleStep :=
  [.submit renameCall, .submit deactivateCall, .move 0 .read, .move 1 .read,
    .move 0 (.check {}), .move 1 (.check {}), .move 0 .lock, .commit 0, .move 1 .lock]

theorem role_updates_safe_overlapping :
    ∃ t, (roleCalls emptyCatalog).execute ⟨sampleRole, []⟩ overlappingSteps = some t ∧
      ((roleCalls emptyCatalog).Along RaisesByOne ⟨sampleRole, []⟩ overlappingSteps ∧
        t.OncePerVersion ∧ t.InTurn sampleRole) := by
  have hruns : ((roleCalls emptyCatalog).execute ⟨sampleRole, []⟩ overlappingSteps).isSome =
      true := by
    decide +kernel
  obtain ⟨t, ht⟩ := Option.isSome_iff_exists.mp hruns
  exact ⟨t, ht, role_updates_safe rfl ht⟩

/-- The role has the new name, and is still ACTIVE at version 2. -/
example : ((roleCalls emptyCatalog).execute ⟨sampleRole, []⟩ overlappingSteps).any (fun t =>
    t.role.row.name = "Auditor" ∧ t.role.row.status = .ACTIVE ∧ t.role.row.version = 2) = true := by
  decide +kernel

end RoleCalls

end AccessService.Roles
