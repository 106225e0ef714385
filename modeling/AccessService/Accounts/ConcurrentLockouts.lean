/-
  AccessService.Accounts.ConcurrentLockouts

  Calls of `handleFailure` about one user, interleaved command by command.  The counter
  in Redis changes at once, also inside a transaction; the user at READ COMMITTED, under
  the row lock that `findByIdWithLock` takes and the transaction keeps until its end.
  No entry of Redis expires.
-/

import AccessService.Accounts.LoginIsolation
import AccessService.Lib.Pool

namespace AccessService.Accounts

open AccessService.Lib AccessService.Lib.Transition AccessService.Pg

-- ============================================================================
-- Commands
-- ============================================================================

/-- How far a call is, with what it has read and written. -/
inductive FailurePhase where
  | called
  | counted (count : Nat)
  /-- The row lock is taken. -/
  | holding (lockedUser : UserRow)
  | wrote (user : UserRow)
  /-- The counter is reset; the transaction is still open. -/
  | reset (user : UserRow)
  | returned (locked : Bool)
  | threw
  deriving DecidableEq

/-- The committed user and whether its row is locked, and the failure counter. -/
structure LockoutShared where
  user : UserRow
  rowLocked : Bool := false
  counter : Option Nat := none
  deriving DecidableEq

namespace LockoutService

/-- What `lockUser` writes to the row, where the constraints let it. -/
def lockedRow (user : UserRow) : Option UserRow :=
  UserUpdate.apply { status := some .LOCKED, securityVersion := nextSecurityVersion user } user

/-- The next command of a call, if it need not wait. -/
def command (settings : AuthenticationSettings) (s : LockoutShared) :
    FailurePhase → Option (LockoutShared × FailurePhase)
  | .called =>
    if settings.accountLockoutEnabled = false then some (s, .returned false)
    else some ({ s with counter := some (s.counter.getD 0 + 1) },
      .counted (s.counter.getD 0 + 1))
  | .counted count =>
    if (count : ℤ) ≥ threshold settings then
      if s.rowLocked = true then none else some ({ s with rowLocked := true }, .holding s.user)
    else some (s, .returned false)
  | .holding lockedUser =>
    if lockedUser.status = .LOCKED then some ({ s with rowLocked := false }, .returned false)
    else
      match lockedRow lockedUser with
      | some user => some (s, .wrote user)
      -- the exception ends the transaction
      | none => some ({ s with rowLocked := false }, .threw)
  | .wrote user => some ({ s with counter := none }, .reset user)
  | .reset user => some ({ s with user := user, rowLocked := false }, .returned true)
  | .returned _ | .threw => none

/-- `calls` calls that are about to begin, with no failure counted before. -/
def failures (user : UserRow) (calls : Nat) : Pool LockoutShared FailurePhase where
  shared := { user := user }
  threads := List.replicate calls .called

def lockoutRaces (settings : AuthenticationSettings) : System (Pool LockoutShared FailurePhase) Nat :=
  Pool.system (fun s => ∃ user calls, user.status ≠ .LOCKED ∧ s = failures user calls)
    (command settings)

end LockoutService

-- ============================================================================
-- A call alone
-- ============================================================================

namespace LockoutService

variable {ctx : AccountContext} {tenantCode : String} {userId : Uuid} {user : UserRow}
  {settings : AuthenticationSettings} {w w' : World AccountStore AccountError}

/-- What the calls about a user share, when none is open. -/
def sharedBy (tenantCode : String) (userId : Uuid) (s : AccountStore) : Option LockoutShared :=
  (UserRepository.userWithId s.db userId).map fun user =>
    { user := user, counter := failuresOf s tenantCode userId }

theorem sharedBy_of_found {s : AccountStore} (h : UserRepository.userWithId s.db userId = some user) :
    sharedBy tenantCode userId s =
      some { user := user, counter := failuresOf s tenantCode userId } := by
  rw [sharedBy, h, Option.map_some]

theorem incrementFailureCount_shares {count : Nat}
    (hfound : UserRepository.userWithId w.state.db userId = some user)
    (h : incrementFailureCount ctx tenantCode userId w = (.ok count, w')) :
    UserRepository.userWithId w'.state.db userId = some user ∧
      failuresOf w'.state tenantCode userId = some count := by
  unfold incrementFailureCount withAdapter at h
  split at h
  · obtain ⟨hdb, hnow, -, hget⟩ := incrCounter_get (Faulty.tryCatch_throw_ok h)
    rw [failuresOf, hdb, hnow]
    exact ⟨hfound, (hget _).trans (if_pos rfl)⟩
  · exact absurd h Faulty.throw_ok

/-- What a call answers that has returned. -/
def answered : FailurePhase → Option Bool
  | .returned b => some b
  | _ => none

theorem lockUnlessLocked_alone {start : LockoutShared} {count : Nat} {b : Bool}
    (hreached : (count : ℤ) ≥ threshold settings)
    (hstart : sharedBy tenantCode userId w.state = some start)
    (h : lockUnlessLocked ctx tenantCode userId w = (.ok b, w')) :
    ∃ done, sharedBy tenantCode userId w'.state = some done ∧
      Pool.RunsAlone (command settings) answered start (.counted count) done b := by
  obtain ⟨user, hfound, rfl⟩ := Option.map_eq_some_iff.mp hstart
  obtain ⟨found, w₁, hfind, hrest⟩ := Faulty.bind_ok.mp (runInTransaction_ok.mp h)
  obtain ⟨rfl, hstate₁⟩ := readDb_ok hfind
  rw [hfound] at hrest
  have hlocks : command settings
      { user := user, counter := failuresOf w.state tenantCode userId } (.counted count) =
        some (_, .holding user) :=
    if_pos hreached
  simp only at hrest
  split at hrest
  next hlocked =>
    obtain ⟨rfl, rfl⟩ := Faulty.pure_ok.mp hrest
    rw [hstate₁]
    exact ⟨_, hstart, .next hlocks (.next (if_pos hlocked) (.ended rfl))⟩
  next hopen =>
    simp only [lockUser, Faulty.bind_ok, Faulty.pure_ok] at hrest
    obtain ⟨⟨⟩, w₂, hupdate, ⟨⟩, w₃, hreset, rfl, rfl⟩ := hrest
    obtain ⟨hmem, rfl⟩ := userWithId_eq_some.mp hfound
    rw [← hstate₁] at hmem
    obtain ⟨user', hrow, hfound₂, -⟩ := (UserRepository.update_ok hmem hupdate).userWithId
    obtain ⟨hdb₃, hcounter₃⟩ := resetFailureCount_forgets hreset
    rw [← hdb₃] at hfound₂
    have hwrites : ∀ s, command settings s (.holding user) = some (s, .wrote user') := by
      intro s
      rw [command, if_neg hopen, lockedRow, hrow]
    refine ⟨_, sharedBy_of_found hfound₂, ?_⟩
    rw [hcounter₃]
    exact .next hlocks (.next (hwrites _) (.next rfl (.next rfl (.ended rfl))))

/-- Alone, a call that returns has run its commands one after another. -/
theorem handleFailure_alone {start : LockoutShared} {b : Bool}
    (hstart : sharedBy tenantCode userId w.state = some start)
    (h : handleFailure ctx tenantCode userId (some settings) w = (.ok b, w')) :
    ∃ done, sharedBy tenantCode userId w'.state = some done ∧
      Pool.RunsAlone (command settings) answered start .called done b := by
  obtain ⟨user, hfound, rfl⟩ := Option.map_eq_some_iff.mp hstart
  unfold handleFailure at h
  simp only at h
  split at h
  next hdisabled =>
    obtain ⟨rfl, rfl⟩ := Faulty.pure_ok.mp h
    exact ⟨_, hstart, .next (if_pos hdisabled) (.ended rfl)⟩
  next henabled =>
    obtain ⟨count, w₁, hcount, hrest⟩ := Faulty.bind_ok.mp h
    obtain ⟨hfound₁, hcounter₁⟩ := incrementFailureCount_shares hfound hcount
    have hcounts : command settings
        { user := user, counter := failuresOf w.state tenantCode userId } .called =
          some ({ user := user, counter := some count }, .counted count) := by
      rw [command, if_neg henabled, failuresOf, ← incrementFailureCount_ok hcount]
    split at hrest
    next hreached =>
      obtain ⟨done, hdone, hruns⟩ :=
        lockUnlessLocked_alone hreached (sharedBy_of_found hfound₁) hrest
      rw [hcounter₁] at hruns
      exact ⟨done, hdone, .next hcounts hruns⟩
    next hbelow =>
      obtain ⟨rfl, rfl⟩ := Faulty.pure_ok.mp hrest
      have hreturns : command settings { user := user, counter := some count } (.counted count) =
          some ({ user := user, counter := some count }, .returned false) := by
        rw [command, if_neg hbelow]
      refine ⟨_, sharedBy_of_found hfound₁, ?_⟩
      rw [hcounter₁]
      exact .next hcounts (.next hreturns (.ended rfl))

end LockoutService

-- ============================================================================
-- What a command does
-- ============================================================================

/-- The row lock is the call's. -/
def FailurePhase.holdsRow : FailurePhase → Bool
  | .holding _ | .wrote _ | .reset _ => true
  | _ => false

def FailurePhase.isOpen : FailurePhase → Bool
  | .returned _ | .threw => false
  | _ => true

def FailurePhase.isCalled : FailurePhase → Bool
  | .called => true
  | _ => false

/-- The call has counted a failure that reaches the threshold, and the counter has not
    been reset since by this call. -/
def FailurePhase.reached (threshold : ℤ) : FailurePhase → Bool
  | .counted count => threshold ≤ count
  | .holding _ | .wrote _ | .threw => true
  | _ => false

def FailurePhase.hasReset : FailurePhase → Bool
  | .reset _ | .returned true => true
  | _ => false

def FailurePhase.hasLocked : FailurePhase → Bool
  | .returned true => true
  | _ => false

theorem FailurePhase.hasReset_of_hasLocked (p : FailurePhase) (h : p.hasLocked = true) :
    p.hasReset = true := by
  cases p with
  | returned locked =>
    cases locked with
    | true => rfl
    | false => cases h
  | _ => cases h

namespace LockoutService

variable {settings : AuthenticationSettings} {s s' : LockoutShared} {p p' : FailurePhase}

/-- The commands, where the lockout is enabled. -/
inductive FailureMove (settings : AuthenticationSettings) (s : LockoutShared) :
    FailurePhase → LockoutShared → FailurePhase → Prop where
  | counts : FailureMove settings s .called
      { s with counter := some (s.counter.getD 0 + 1) } (.counted (s.counter.getD 0 + 1))
  | spares {count : Nat} (hbelow : (count : ℤ) < threshold settings) :
      FailureMove settings s (.counted count) s (.returned false)
  | locks {count : Nat} (hreached : threshold settings ≤ (count : ℤ)) (hfree : s.rowLocked = false) :
      FailureMove settings s (.counted count) { s with rowLocked := true } (.holding s.user)
  | finds {user} (hlocked : user.status = .LOCKED) :
      FailureMove settings s (.holding user) { s with rowLocked := false } (.returned false)
  | writes {user user'} (hopen : user.status ≠ .LOCKED) (hrow : lockedRow user = some user') :
      FailureMove settings s (.holding user) s (.wrote user')
  | fails {user} (hopen : user.status ≠ .LOCKED) :
      FailureMove settings s (.holding user) { s with rowLocked := false } .threw
  | resets {user} : FailureMove settings s (.wrote user) { s with counter := none } (.reset user)
  | commits {user} : FailureMove settings s (.reset user)
      { s with user := user, rowLocked := false } (.returned true)

theorem command_move (henabled : settings.accountLockoutEnabled = true)
    (h : command settings s p = some (s', p')) : FailureMove settings s p s' p' := by
  cases p with
  | called =>
    rw [command, if_neg (by rw [henabled]; nofun)] at h
    cases h
    exact .counts
  | counted count =>
    rw [command] at h
    split at h
    next hreached =>
      split at h
      · cases h
      next hfree =>
        cases h
        exact .locks hreached (Bool.not_eq_true _ ▸ hfree)
    next hbelow =>
      cases h
      exact .spares (not_le.mp hbelow)
  | holding user =>
    rw [command] at h
    split at h
    next hlocked =>
      cases h
      exact .finds hlocked
    next hopen =>
      split at h
      next hrow =>
        cases h
        exact .writes hopen hrow
      · cases h
        exact .fails hopen
  | wrote user =>
    cases h
    exact .resets
  | reset user =>
    cases h
    exact .commits
  | returned locked => cases h
  | threw => cases h

-- ============================================================================
-- Invariant
-- ============================================================================

/-- What a call in its transaction knows of the committed user. -/
def Fits (user : UserRow) : FailurePhase → Prop
  | .holding lockedUser => lockedUser = user
  | .wrote user' | .reset user' => user.status ≠ .LOCKED ∧ lockedRow user = some user'
  | _ => True

theorem fits_of_not_holdsRow {user : UserRow} (h : p.holdsRow = false) : Fits user p := by
  cases p with
  | holding _ => cases h
  | wrote _ => cases h
  | reset _ => cases h
  | _ => trivial

/-- The counter has counted the calls that have begun, and is at the threshold just when a
    call is on its way to lock the user. -/
def Counted (settings : AuthenticationSettings) (s : Pool LockoutShared FailurePhase) : Prop :=
  s.shared.counter.getD 0 + s.count FailurePhase.isCalled = s.threads.length ∧
    (threshold settings ≤ (s.shared.counter.getD 0 : ℤ) ↔
      0 < s.count (FailurePhase.reached (threshold settings)))

structure Exact (settings : AuthenticationSettings) (start : UserRow)
    (s : Pool LockoutShared FailurePhase) : Prop where
  holders : s.count FailurePhase.holdsRow = if s.shared.rowLocked = true then 1 else 0
  fits : ∀ p ∈ s.threads, Fits s.shared.user p
  outcome : (s.shared.user = start ∧ s.count FailurePhase.hasLocked = 0) ∨
    (lockedRow start = some s.shared.user ∧ s.count FailurePhase.hasLocked = 1)
  /-- What the counter says is relied on only until it is reset. -/
  counted : s.count FailurePhase.hasReset = 0 → Counted settings s
  crossed : 0 < s.count FailurePhase.hasReset → threshold settings ≤ (s.threads.length : ℤ)

section Step

variable {start : UserRow} {s : Pool LockoutShared FailurePhase} {shared : LockoutShared} {i : Nat}

/-- The call that gives the row up was the only one to hold it. -/
theorem none_holds (hp : s.threads[i]? = some p)
    (h : s.count FailurePhase.holdsRow = if s.shared.rowLocked = true then 1 else 0)
    (hbefore : p.holdsRow = true) (hafter : p'.holdsRow = false) :
    (s.put i shared p').count FailurePhase.holdsRow = 0 := by
  have hone : s.count FailurePhase.holdsRow ≤ 1 := by
    rw [h]
    split <;> omega
  have hleave : (s.put i shared p').count FailurePhase.holdsRow + 1 =
      s.count FailurePhase.holdsRow :=
    Pool.count_put_leave _ hp hbefore hafter
  omega

theorem holders_step (hp : s.threads[i]? = some p)
    (hmove : FailureMove settings s.shared p shared p')
    (h : s.count FailurePhase.holdsRow = if s.shared.rowLocked = true then 1 else 0) :
    (s.put i shared p').count FailurePhase.holdsRow = if shared.rowLocked = true then 1 else 0 := by
  have hsame : p'.holdsRow = p.holdsRow → (s.put i shared p').count FailurePhase.holdsRow =
      s.count FailurePhase.holdsRow :=
    Pool.count_put_same _ hp
  cases hmove with
  | counts => exact (hsame rfl).trans h
  | spares _ => exact (hsame rfl).trans h
  | locks _ hfree =>
    rw [Pool.count_put_enter FailurePhase.holdsRow hp rfl rfl, h, hfree]
    rfl
  | finds _ => exact none_holds hp h rfl rfl
  | writes _ _ => exact (hsame rfl).trans h
  | fails _ => exact none_holds hp h rfl rfl
  | resets => exact (hsame rfl).trans h
  | commits => exact none_holds hp h rfl rfl

theorem fits_step (hp : s.threads[i]? = some p)
    (hmove : FailureMove settings s.shared p shared p') (h : Exact settings start s) :
    ∀ q ∈ (s.put i shared p').threads, Fits shared.user q := by
  have hown : Fits s.shared.user p := h.fits p (Rows.mem_of_row hp)
  -- the committed user stays as long as no transaction commits
  have hsame : shared.user = s.shared.user → Fits shared.user p' →
      ∀ q ∈ (s.put i shared p').threads, Fits shared.user q := by
    intro huser hnew q hq
    rcases List.mem_or_eq_of_mem_set hq with hold | rfl
    · rw [huser]
      exact h.fits q hold
    · exact hnew
  cases hmove with
  | counts => exact hsame rfl trivial
  | spares _ => exact hsame rfl trivial
  | locks _ _ => exact hsame rfl rfl
  | finds _ => exact hsame rfl trivial
  | writes hopen hrow =>
    refine hsame rfl ?_
    obtain rfl : _ = s.shared.user := hown
    exact ⟨hopen, hrow⟩
  | fails _ => exact hsame rfl trivial
  | resets => exact hsame rfl hown
  | commits =>
    intro q hq
    exact fits_of_not_holdsRow (Pool.not_at_of_count (none_holds hp h.holders rfl rfl) hq)

theorem lockedRow_status {user user' : UserRow} (h : lockedRow user = some user') :
    user'.status = .LOCKED :=
  (UserUpdate.apply_eq_some h).2.1

theorem outcome_step (hp : s.threads[i]? = some p)
    (hmove : FailureMove settings s.shared p shared p') (h : Exact settings start s) :
    (shared.user = start ∧ (s.put i shared p').count FailurePhase.hasLocked = 0) ∨
      (lockedRow start = some shared.user ∧
        (s.put i shared p').count FailurePhase.hasLocked = 1) := by
  have hown : Fits s.shared.user p := h.fits p (Rows.mem_of_row hp)
  have hsame : shared.user = s.shared.user → p'.hasLocked = p.hasLocked →
      (shared.user = start ∧ (s.put i shared p').count FailurePhase.hasLocked = 0) ∨
        (lockedRow start = some shared.user ∧
          (s.put i shared p').count FailurePhase.hasLocked = 1) := by
    intro huser hplace
    rw [huser, Pool.count_put_same FailurePhase.hasLocked hp hplace]
    exact h.outcome
  cases hmove with
  | counts => exact hsame rfl rfl
  | spares _ => exact hsame rfl rfl
  | locks _ _ => exact hsame rfl rfl
  | finds _ => exact hsame rfl rfl
  | writes _ _ => exact hsame rfl rfl
  | fails _ => exact hsame rfl rfl
  | resets => exact hsame rfl rfl
  | commits =>
    obtain ⟨hopen, hrow⟩ := hown
    rcases h.outcome with ⟨huser, hnone⟩ | ⟨hlocked, -⟩
    · refine .inr ⟨huser ▸ hrow, ?_⟩
      rw [Pool.count_put_enter FailurePhase.hasLocked hp rfl rfl, hnone]
    · exact absurd (lockedRow_status hlocked) hopen

theorem counted_of_counts (hp : s.threads[i]? = some .called)
    (hcounter : shared.counter = some (s.shared.counter.getD 0 + 1)) (h : Counted settings s) :
    Counted settings (s.put i shared (.counted (s.shared.counter.getD 0 + 1))) := by
  obtain ⟨hsum, hiff⟩ := h
  have hcalled : (s.put i shared (.counted (s.shared.counter.getD 0 + 1))).count
      FailurePhase.isCalled + 1 = s.count FailurePhase.isCalled :=
    Pool.count_put_leave _ hp rfl rfl
  have hreached : (s.put i shared (.counted (s.shared.counter.getD 0 + 1))).count
        (FailurePhase.reached (threshold settings)) +
      (if (FailurePhase.called).reached (threshold settings) = true then 1 else 0) = _ :=
    Pool.count_put _ hp
  have hnew : (FailurePhase.counted (s.shared.counter.getD 0 + 1)).reached (threshold settings) =
      true ↔ threshold settings ≤ ((s.shared.counter.getD 0 + 1 : Nat) : ℤ) :=
    decide_eq_true_iff
  have hold : (FailurePhase.called).reached (threshold settings) = false := rfl
  rw [hold, if_neg Bool.false_ne_true] at hreached
  rw [Counted, Pool.put_shared, hcounter, Option.getD_some, Pool.length_put]
  refine ⟨by omega, ?_⟩
  rw [← hnew]
  split at hreached
  next htrue =>
    refine iff_of_true htrue ?_
    omega
  next hfalse =>
    rw [hnew] at hfalse ⊢
    omega

/-- A command that neither begins a call, nor resets the counter, nor commits. -/
theorem counted_of_same (hp : s.threads[i]? = some p)
    (hcounter : shared.counter = s.shared.counter) (hcalled : p'.isCalled = p.isCalled)
    (hreached : p'.reached (threshold settings) = p.reached (threshold settings))
    (h : Counted settings s) : Counted settings (s.put i shared p') := by
  rw [Counted, Pool.length_put, Pool.count_put_same _ hp hcalled,
    Pool.count_put_same _ hp hreached, Pool.put_shared, hcounter]
  exact h

theorem counted_step (hstart : start.status ≠ .LOCKED) (hp : s.threads[i]? = some p)
    (hmove : FailureMove settings s.shared p shared p') (h : Exact settings start s)
    (hreset : (s.put i shared p').count FailurePhase.hasReset = 0) :
    Counted settings (s.put i shared p') := by
  have hnone : p'.hasReset = p.hasReset → s.count FailurePhase.hasReset = 0 := by
    intro hplace
    rwa [Pool.count_put_same _ hp hplace] at hreset
  have hbefore : p'.hasReset = p.hasReset → Counted settings s := fun hplace =>
    h.counted (hnone hplace)
  cases hmove with
  | counts => exact counted_of_counts hp rfl (hbefore rfl)
  | spares hbelow =>
    refine counted_of_same hp rfl rfl ?_ (hbefore rfl)
    exact (decide_eq_false (not_le.mpr hbelow)).symm
  | locks hreached _ =>
    refine counted_of_same hp rfl rfl ?_ (hbefore rfl)
    exact (decide_eq_true hreached).symm
  | finds hfound =>
    -- only a call that has reset the counter has left the user LOCKED
    exfalso
    have huser : _ = s.shared.user := h.fits _ (Rows.mem_of_row hp)
    rcases h.outcome with ⟨hsame, -⟩ | ⟨-, hone⟩
    · rw [huser, hsame] at hfound
      exact hstart hfound
    · have hle := Pool.count_le (s := s) FailurePhase.hasReset_of_hasLocked
      rw [hone, hnone rfl] at hle
      cases hle
  | writes _ _ => exact counted_of_same hp rfl rfl rfl (hbefore rfl)
  | fails _ => exact counted_of_same hp rfl rfl rfl (hbefore rfl)
  | resets =>
    rw [Pool.count_put_enter FailurePhase.hasReset hp rfl rfl] at hreset
    cases hreset
  | commits =>
    have hpos : 0 < s.count FailurePhase.hasReset := Pool.count_pos hp rfl
    rw [hnone rfl] at hpos
    cases hpos

theorem crossed_step (hp : s.threads[i]? = some p)
    (hmove : FailureMove settings s.shared p shared p') (h : Exact settings start s)
    (hreset : 0 < (s.put i shared p').count FailurePhase.hasReset) :
    threshold settings ≤ ((s.put i shared p').threads.length : ℤ) := by
  rw [Pool.length_put]
  have hsame : p'.hasReset = p.hasReset → threshold settings ≤ (s.threads.length : ℤ) := by
    intro hplace
    rw [Pool.count_put_same _ hp hplace] at hreset
    exact h.crossed hreset
  cases hmove with
  | counts => exact hsame rfl
  | spares _ => exact hsame rfl
  | locks _ _ => exact hsame rfl
  | finds _ => exact hsame rfl
  | writes _ _ => exact hsame rfl
  | fails _ => exact hsame rfl
  | resets =>
    -- the first call to reset the counter has reached the threshold
    rcases Nat.eq_zero_or_pos (s.count FailurePhase.hasReset) with hnone | hsome
    · obtain ⟨hsum, hiff⟩ := h.counted hnone
      have hreached := hiff.mpr (Pool.count_pos hp rfl)
      omega
    · exact h.crossed hsome
  | commits => exact hsame rfl

theorem Exact.step (hstart : start.status ≠ .LOCKED) (hp : s.threads[i]? = some p)
    (hmove : FailureMove settings s.shared p shared p') (h : Exact settings start s) :
    Exact settings start (s.put i shared p') where
  holders := holders_step hp hmove h.holders
  fits := fits_step hp hmove h
  outcome := outcome_step hp hmove h
  counted := counted_step hstart hp hmove h
  crossed := crossed_step hp hmove h

end Step

-- ============================================================================
-- Runs
-- ============================================================================

section Runs

variable {user : UserRow} {calls : Nat} {s : Pool LockoutShared FailurePhase}
  {shared : LockoutShared}

theorem count_failures {place : FailurePhase → Bool} :
    (failures user calls).count place = if place .called = true then calls else 0 :=
  List.countP_replicate

theorem exact_failures (hthreshold : 1 ≤ threshold settings) :
    Exact settings user (failures user calls) where
  holders := count_failures
  fits _ hp := fits_of_not_holdsRow (by rw [List.eq_of_mem_replicate hp]; rfl)
  outcome := .inl ⟨rfl, count_failures⟩
  counted _ := by
    rw [Counted, count_failures, count_failures]
    refine ⟨?_, iff_of_false ?_ (Nat.lt_irrefl 0)⟩
    · simp [failures, FailurePhase.isCalled]
    · exact not_le.mpr hthreshold
  crossed h := by
    rw [count_failures] at h
    exact absurd h (Nat.lt_irrefl 0)

theorem exact_of_steps (henabled : settings.accountLockoutEnabled = true)
    (hthreshold : 1 ≤ threshold settings) (hopen : user.status ≠ .LOCKED)
    (h : (lockoutRaces settings).Steps Always (failures user calls) s) : Exact settings user s :=
  Pool.invariant
    (fun _ _ _ _ _ hs hp hnext => Exact.step hopen hp (command_move henabled hnext) hs)
    (exact_failures hthreshold) h

/-- A call waits only for the row lock, and not if it has it. -/
theorem command_runs (hopen : p.isOpen = true)
    (hrow : p.holdsRow = true ∨ shared.rowLocked = false) :
    ∃ next, command settings shared p = some next := by
  cases p with
  | called =>
    rw [command]
    split <;> exact ⟨_, rfl⟩
  | counted count =>
    rcases hrow with hholds | hfree
    · cases hholds
    · rw [command, hfree]
      split <;> exact ⟨_, rfl⟩
  | holding lockedUser =>
    rw [command]
    split
    · exact ⟨_, rfl⟩
    · split <;> exact ⟨_, rfl⟩
  | wrote _ => exact ⟨_, rfl⟩
  | reset _ => exact ⟨_, rfl⟩
  | returned _ => cases hopen
  | threw => cases hopen

/-- As long as a call is open, one of them can go on: no schedule deadlocks. -/
theorem goes_on (henabled : settings.accountLockoutEnabled = true)
    (hthreshold : 1 ≤ threshold settings) (hopen : user.status ≠ .LOCKED)
    (h : (lockoutRaces settings).Steps Always (failures user calls) s)
    (hcalls : 0 < s.count FailurePhase.isOpen) :
    ∃ i t, (lockoutRaces settings).step s i = some t := by
  have hgoes : ∀ p ∈ s.threads, p.isOpen = true →
      p.holdsRow = true ∨ s.shared.rowLocked = false →
        ∃ i t, (lockoutRaces settings).step s i = some t := by
    intro p hmem hp hrow
    obtain ⟨i, hi⟩ := List.mem_iff_getElem?.mp hmem
    obtain ⟨⟨_, _⟩, hnext⟩ : ∃ next, command settings s.shared p = some next :=
      command_runs hp hrow
    exact ⟨i, _, Pool.step_of_next hi hnext⟩
  have hholders := (exact_of_steps henabled hthreshold hopen h).holders
  split at hholders
  · obtain ⟨q, hq, hholds⟩ := List.countP_pos_iff.mp (hholders ▸ Nat.one_pos)
    refine hgoes q hq ?_ (.inl hholds)
    cases q <;> first | rfl | cases hholds
  next hfree =>
    obtain ⟨q, hq, hqopen⟩ := List.countP_pos_iff.mp hcalls
    exact hgoes q hq hqopen (.inr (Bool.not_eq_true _ ▸ hfree))

theorem count_returned_true :
    s.threads.count (.returned true) = s.count FailurePhase.hasLocked := by
  refine List.countP_congr fun p _ => ?_
  cases p with
  | returned locked => cases locked <;> simp [FailurePhase.hasLocked]
  | _ => simp [FailurePhase.hasLocked]

theorem lockedRow_securityVersion {user' : UserRow} (h : lockedRow user = some user') :
    user'.securityVersion.val = user.securityVersion.val + 1 := by
  rw [(UserUpdate.apply_eq_some h).2.2, nextSecurityVersion, if_neg]
  have := user.securityVersion.positive
  omega

/-- Once every call has returned, the user has been locked by exactly one of them, and
    once, if the calls are as many as the threshold, and by none otherwise. -/
theorem lockout_exact (henabled : settings.accountLockoutEnabled = true)
    (hthreshold : 1 ≤ threshold settings) (hopen : user.status ≠ .LOCKED)
    (hrun : (lockoutRaces settings).Steps Always (failures user calls) s)
    (hreturned : ∀ p ∈ s.threads, ∃ locked, p = .returned locked) :
    (s.shared.user.status = .LOCKED ↔ threshold settings ≤ (calls : ℤ)) ∧
      s.threads.count (.returned true) = (if threshold settings ≤ (calls : ℤ) then 1 else 0) ∧
      s.shared.user.securityVersion.val = user.securityVersion.val +
        (if threshold settings ≤ (calls : ℤ) then 1 else 0) := by
  have hexact := exact_of_steps henabled hthreshold hopen hrun
  have hlength : s.threads.length = calls :=
    (Pool.steps_length hrun).trans List.length_replicate
  have hnone : ∀ place : FailurePhase → Bool, (∀ locked, place (.returned locked) = false) →
      s.count place = 0 := by
    intro place hplace
    refine List.countP_eq_zero.mpr fun p hp => ?_
    obtain ⟨locked, rfl⟩ := hreturned p hp
    rw [hplace]
    exact Bool.false_ne_true
  have hreset : s.count FailurePhase.hasReset = s.count FailurePhase.hasLocked := by
    refine List.countP_congr fun p hp => ?_
    obtain ⟨locked, rfl⟩ := hreturned p hp
    cases locked <;> rfl
  rw [count_returned_true]
  rcases hexact.outcome with ⟨huser, hnobody⟩ | ⟨hrow, hone⟩
  · obtain ⟨hsum, hiff⟩ := hexact.counted (hreset.trans hnobody)
    rw [hnone _ fun _ => rfl] at hsum hiff
    have hbelow : ¬threshold settings ≤ (calls : ℤ) := by
      intro hle
      rw [← hlength, ← hsum] at hle
      exact Nat.lt_irrefl 0 (hiff.mp hle)
    rw [if_neg hbelow, if_neg hbelow, huser]
    exact ⟨iff_of_false hopen hbelow, hnobody, (add_zero _).symm⟩
  · have hle := hexact.crossed (by rw [hreset, hone]; exact Nat.one_pos)
    rw [hlength] at hle
    rw [if_pos hle, if_pos hle]
    exact ⟨iff_of_true (lockedRow_status hrow) hle, hone, lockedRow_securityVersion hrow⟩

def twoFailures : AuthenticationSettings where
  tenantCode := "acme"
  accountLockoutEnabled := true
  maxFailedRetries := 2

/-- All count before the second locks the user; the third waits for the row. -/
def threeFailures : List Nat := [0, 1, 2, 1, 1, 1, 0, 1, 2, 2]

theorem lockout_exact_three : ∃ s,
    (lockoutRaces twoFailures).Steps Always (failures sampleAccount 3) s ∧
      s.shared.user.status = .LOCKED ∧ s.threads.count (.returned true) = 1 ∧
      s.shared.user.securityVersion.val = 2 := by
  obtain ⟨s, hs, hthreads⟩ := Option.map_eq_some_iff.mp
    (show ((lockoutRaces twoFailures).execute (failures sampleAccount 3) threeFailures).map
      Pool.threads = some [.returned false, .returned true, .returned false] from rfl)
  have hreturned : ∀ p ∈ s.threads, ∃ locked, p = .returned locked := by
    simp [hthreads]
  have hsteps := System.steps_of_execute hs
  obtain ⟨hlocked, hone, hversion⟩ :=
    lockout_exact rfl (by decide) (by decide) hsteps hreturned
  exact ⟨s, hsteps, hlocked.mpr (by decide), hone, hversion⟩

end Runs

end LockoutService

end AccessService.Accounts
