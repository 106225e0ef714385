/-
  AccessService.Accounts.ConcurrentPasswordResets

  Calls of `verifyResetCode` and `confirmPasswordReset` with one challenge, interleaved
  command by command.  Redis answers every command, and the challenge does not expire.  The
  transaction of a confirmation holds the row lock of the user from its first read on; what
  it writes is there for others when it commits.
-/

import AccessService.Accounts.AccountOperations
import AccessService.Accounts.ConcurrentResetCodes

namespace AccessService.Accounts

open AccessService.Lib AccessService.Lib.Transition AccessService.Pg
open AccessService.Authorization (Timestamp)

-- ============================================================================
-- What a call is about
-- ============================================================================

/-- The challenge, tenant and user in the body of a request. -/
structure ResetTarget where
  challengeId : String
  tenantCode : String
  userId : Uuid
  /-- `@IsUUID()` takes capitals, too. -/
  isUUID : isUuidText challengeId.toLower = true

instance : DecidableEq ResetTarget := fun a b =>
  decidable_of_iff
    (a.challengeId = b.challengeId ∧ a.tenantCode = b.tenantCode ∧ a.userId = b.userId)
    ⟨fun ⟨hid, htenant, huser⟩ => by
      cases a
      cases b
      cases hid
      cases htenant
      cases huser
      rfl, fun h => h ▸ ⟨rfl, rfl, rfl⟩⟩

namespace ResetTarget

def key (target : ResetTarget) : String :=
  PasswordResetRedisAdapter.getKey target.challengeId target.tenantCode target.userId

theorem colon_notMem (target : ResetTarget) : ':' ∉ target.challengeId.toList :=
  colon_notMem_of_toLower target.isUUID

/-- Requests with the same key are about the same challenge of the same user, whatever the
    tenant's code is. -/
theorem key_inj {target target' : ResetTarget} (h : target.key = target'.key) :
    target = target' := by
  have hid := target.colon_notMem
  have hid' := target'.colon_notMem
  obtain ⟨challengeId, tenantCode, userId, isUUID⟩ := target
  obtain ⟨challengeId', tenantCode', userId', isUUID'⟩ := target'
  have hclosing : "\x7d:" = "\x7d" ++ ":" := rfl
  unfold key PasswordResetRedisAdapter.getKey at h
  rw [hclosing] at h
  generalize "auth:password-reset:\x7b" = family at h
  have hkeys : family ++ tenantCode ++ ":" ++ userId.text ++ "\x7d" ++ (":" ++ challengeId) =
      family ++ tenantCode' ++ ":" ++ userId'.text ++ "\x7d" ++ (":" ++ challengeId') := by
    simpa only [String.append_assoc] using h
  obtain ⟨hfront, rfl⟩ := Constants.after_last_colon hid hid' hkeys
  have husers : family ++ tenantCode ++ (":" ++ userId.text) =
      family ++ tenantCode' ++ (":" ++ userId'.text) := by
    simpa only [String.append_assoc] using (String.append_left_inj "\x7d").mp hfront
  obtain ⟨htenant, huser⟩ :=
    Constants.after_last_colon userId.colon_notMem userId'.colon_notMem husers
  obtain rfl := Uuid.ext huser
  obtain rfl := (String.append_right_inj _).mp htenant
  rfl

end ResetTarget

-- ============================================================================
-- Commands
-- ============================================================================

/-- How far a confirmation is, with what it has read. -/
inductive ConfirmPhase where
  | called
  | refused
  /-- The challenge is verified, with the token of the call. -/
  | passed
  /-- The row lock of the user is taken. -/
  | holding
  | found (active : Option Credential)
  | threw
  | committed
  | deleted
  deriving DecidableEq

structure ConfirmCall where
  target : ResetTarget
  resetToken : String
  /-- The new credential, but for its user and its status. -/
  credential : Credential
  deriving DecidableEq

def ConfirmCall.dto (call : ConfirmCall) : ConfirmPasswordReset where
  challengeId := call.target.challengeId
  tenantCode := call.target.tenantCode
  userId := call.target.userId
  resetToken := call.resetToken

def ConfirmCall.newCredential (call : ConfirmCall) : Credential :=
  { call.credential with userId := call.target.userId, status := .ACTIVE }

inductive ResetCall where
  | verify (target : ResetTarget) (code : String) (p : ResetPhase)
  | confirm (call : ConfirmCall) (p : ConfirmPhase)
  deriving DecidableEq

/-- A call that is about to begin. -/
def ResetCall.isNew : ResetCall → Prop
  | .verify _ code p => ∃ resetToken, p = .called code resetToken
  | .confirm _ p => p = .called

/-- The challenges by their keys, the users that there are, the committed credentials, and
    the users whose rows are locked. -/
structure ResetShared where
  challenges : String → Option PasswordResetChallengeData
  users : List Uuid
  credentials : Keyed Credential Credential.id
  locked : Uuid → Bool

abbrev PasswordResetPool : Type := Pool ResetShared ResetCall

def ResetShared.setChallenge (s : ResetShared) (key : String)
    (stored : Option PasswordResetChallengeData) : ResetShared :=
  { s with challenges := Function.update s.challenges key stored }

def ResetShared.setLocked (s : ResetShared) (userId : Uuid) (locked : Bool) : ResetShared :=
  { s with locked := Function.update s.locked userId locked }

namespace PasswordService

def activeIn (credentials : Keyed Credential Credential.id) (userId : Uuid) : Option Credential :=
  credentials.rows.find? fun credential => credential.userId = userId && credential.status = .ACTIVE

/-- The active credential is superseded and the new one inserted, where the constraints let
    them. -/
def replaceCredential (credentials : Keyed Credential Credential.id) (active : Option Credential)
    (new : Credential) : Option (Keyed Credential Credential.id) :=
  (match active with
    | none => some credentials
    | some active => updateRow Credential.conflicts credentials active.id fun credential =>
        some { credential with status := .SUPERSEDED }).bind fun credentials =>
    insertRow Credential.conflicts credentials new

/-- The next command of a confirmation, if it need not wait. -/
def confirmCommand (call : ConfirmCall) (s : ResetShared) :
    ConfirmPhase → Option (ResetShared × ConfirmPhase)
  | .called =>
    if mayReset call.dto (s.challenges call.target.key) = true then some (s, .passed)
    else some (s, .refused)
  | .passed =>
    if s.locked call.target.userId = true then none
    else if call.target.userId ∈ s.users then
      some (s.setLocked call.target.userId true, .holding)
    else some (s, .threw)
  | .holding => some (s, .found (activeIn s.credentials call.target.userId))
  | .found active =>
    match replaceCredential s.credentials active call.newCredential with
    | some credentials =>
      some ({ s.setLocked call.target.userId false with credentials := credentials }, .committed)
    -- the exception ends the transaction
    | none => some (s.setLocked call.target.userId false, .threw)
  | .committed => some (s.setChallenge call.target.key none, .deleted)
  | .refused | .threw | .deleted => none

def resetCommand (hashOtpCode : String → String) (s : ResetShared) :
    ResetCall → Option (ResetShared × ResetCall)
  | .verify target code p =>
    (command hashOtpCode (s.challenges target.key) p).map fun (stored, p') =>
      (s.setChallenge target.key stored, .verify target code p')
  | .confirm call p => (confirmCommand call s p).map fun (s', p') => (s', .confirm call p')

/-- A challenge as it is saved. -/
def savedChallenge (target : ResetTarget) (hashedCode : String) : PasswordResetChallengeData where
  tenantCode := target.tenantCode
  userId := target.userId
  hashedCode := hashedCode
  codeVerified := false
  resetToken := none
  attempts := 0

/-- Calls that are about to begin, when the challenge has just been saved and no row is
    locked. -/
structure Begins (target : ResetTarget) (hashedCode : String) (s : PasswordResetPool) : Prop where
  saved : s.shared.challenges =
    Function.update (fun _ => none) target.key (some (savedChallenge target hashedCode))
  unlocked : ∀ userId, s.shared.locked userId = false
  new : ∀ call ∈ s.threads, call.isNew

def passwordResetRaces (hashOtpCode : String → String) : System PasswordResetPool Nat :=
  Pool.system (fun s => ∃ target hashedCode, Begins target hashedCode s)
    (resetCommand hashOtpCode)

end PasswordService

-- ============================================================================
-- A confirmation alone
-- ============================================================================

namespace PasswordService

section Alone

variable {ctx : AccountContext} {fresh : FreshCredential} {target : ResetTarget}
  {resetToken : String} {w w' : World AccountStore AccountError} {u : Unit}

/-- What the calls share, when none is under way. -/
def sharedOf (s : AccountStore) : ResetShared where
  challenges := s.resetChallenge
  users := s.db.users.rows.map fun user => user.id
  credentials := s.db.credentials
  locked _ := false

def confirmCall (ctx : AccountContext) (fresh : FreshCredential) (target : ResetTarget)
    (resetToken : String) (now : Timestamp) : ConfirmCall where
  target := target
  resetToken := resetToken
  credential :=
    { id := fresh.id, tenantCode := ctx.tenantCode, userId := target.userId,
      passwordHash := fresh.passwordHash, algorithm := fresh.algorithm, status := .ACTIVE,
      passwordChangedAt := some now }

def confirmed : ConfirmPhase → Option Unit
  | .deleted => some ()
  | _ => none

/-- What a reset reads and writes. -/
def resetView (s : AccountStore) :
    Keyed Credential Credential.id × Timestamp × Expiring String PasswordResetChallengeData :=
  (s.db.credentials, s.now, s.redis.resetChallenges)

theorem writeDb_resetView {f : AccountDatabase → Option AccountDatabase}
    (h : ∀ db db', f db = some db' → db'.credentials = db.credentials) :
    Faulty.Leaves resetView (writeDb f) := by
  refine writeDb_leaves fun s db hdb => ?_
  rw [resetView, resetView, h s.db db hdb]

theorem supersedeActive_ok {userId : Uuid} (h : supersedeActive userId w = (.ok u, w')) :
    ∃ credentials, (match activeIn w.state.db.credentials userId with
      | none => some w.state.db.credentials
      | some active => updateRow Credential.conflicts w.state.db.credentials active.id
          fun credential => some { credential with status := .SUPERSEDED }) = some credentials ∧
      w'.state = { w.state with db := { w.state.db with credentials := credentials } } := by
  obtain ⟨active, w₁, hfind, hrest⟩ := Faulty.bind_ok.mp h
  obtain ⟨hactive, hstate₁⟩ := readDb_ok hfind
  have hsame : activeIn w.state.db.credentials userId = active := hactive.symm
  rw [hsame]
  cases active with
  | none =>
    obtain ⟨-, rfl⟩ := Faulty.pure_ok.mp hrest
    exact ⟨_, rfl, hstate₁⟩
  | some active =>
    obtain ⟨db, hdb, hstate⟩ := writeDb_ok hrest
    rw [hstate₁] at hdb hstate
    obtain ⟨credentials, hupdate, rfl⟩ := Option.map_eq_some_iff.mp hdb
    exact ⟨credentials, hupdate, hstate⟩

/-- The user is there, and the credential is replaced. -/
theorem replacePassword_replaces
    (h : replacePassword ctx fresh
      (confirmCall ctx fresh target resetToken w.state.now).dto w = (.ok u, w')) :
    target.userId ∈ (sharedOf w.state).users ∧
      replaceCredential w.state.db.credentials (activeIn w.state.db.credentials target.userId)
        (confirmCall ctx fresh target resetToken w.state.now).newCredential =
          some w'.state.db.credentials ∧
      w'.state.now = w.state.now ∧
      w'.state.redis.resetChallenges = w.state.redis.resetChallenges := by
  obtain ⟨user, w₁, hfind, hrest⟩ := Faulty.bind_ok.mp (runInTransaction_ok.mp h)
  obtain ⟨hsome, hstate₁⟩ := readDb_ok (required_ok.mp hfind)
  obtain ⟨hmem, hid⟩ := userWithId_eq_some.mp hsome.symm
  obtain ⟨u₂, w₂, hsupersede, hrest⟩ := Faulty.bind_ok.mp hrest
  obtain ⟨credentials, hmid, hstate₂⟩ := supersedeActive_ok hsupersede
  obtain ⟨hashed, w₃, hhash, hrest⟩ := Faulty.bind_ok.mp hrest
  obtain ⟨rfl, hstate₃⟩ := Faulty.read_ok hhash
  obtain ⟨u₄, w₄, hcreate, hlast⟩ := Faulty.bind_ok.mp hrest
  obtain ⟨now, w₅, hclock, hcreate⟩ := Faulty.bind_ok.mp hcreate
  obtain ⟨rfl, rfl⟩ := clock_ok hclock
  obtain ⟨db, hdb, hstate₄⟩ := writeDb_ok hcreate
  obtain ⟨credentials', hinsert, rfl⟩ := Option.map_eq_some_iff.mp hdb
  have hview : resetView w'.state = resetView w₄.state := by
    refine Faulty.Leaves.ok (Faulty.Leaves.bind ?_ fun _ => ?_) hlast
    · exact writeDb_resetView fun _ _ hupdate => by
        obtain ⟨-, -, rfl⟩ := Option.map_eq_some_iff.mp hupdate
        rfl
    · exact writeDb_resetView fun _ _ hlog => by cases hlog; rfl
  rw [hstate₁] at hmid hstate₂
  rw [hstate₃, hstate₂, hid] at hinsert
  obtain ⟨hcredentials, hnow, hchallenges⟩ :
      w'.state.db.credentials = credentials' ∧ w'.state.now = w.state.now ∧
        w'.state.redis.resetChallenges = w.state.redis.resetChallenges := by
    rw [hstate₄, hstate₃, hstate₂] at hview
    simpa only [resetView, Prod.mk.injEq] using hview
  refine ⟨List.mem_map.mpr ⟨user, hmem, hid⟩, ?_, hnow, hchallenges⟩
  rw [hcredentials]
  exact Option.bind_eq_some_iff.mpr ⟨credentials, hmid, hinsert⟩

/-- Alone, a confirmation that returns has run its commands one after another. -/
theorem confirmPasswordReset_alone
    (h : confirmPasswordReset ctx fresh
      (confirmCall ctx fresh target resetToken w.state.now).dto w = (.ok u, w')) :
    ∃ left, Pool.RunsAlone (confirmCommand (confirmCall ctx fresh target resetToken w.state.now))
        confirmed (sharedOf w.state) .called left () ∧
      left.credentials = w'.state.db.credentials ∧ left.challenges = w'.state.resetChallenge := by
  obtain ⟨found, w₁, hget, hrest⟩ := Faulty.bind_ok.mp h
  obtain ⟨hfound, hstate₁⟩ := Faulty.read_ok hget
  split at hrest
  next hmay =>
    have hmay' : mayReset (confirmCall ctx fresh target resetToken w.state.now).dto
        (w.state.resetChallenge target.key) = true := by
      rw [hfound] at hmay
      exact hmay
    obtain ⟨u₂, w₂, hreplace, hafter⟩ := Faulty.bind_ok.mp hrest
    obtain ⟨hmem, hreplaces, hnow, hchallenges⟩ :
        target.userId ∈ (sharedOf w₁.state).users ∧
          replaceCredential w₁.state.db.credentials
            (activeIn w₁.state.db.credentials target.userId)
            (confirmCall ctx fresh target resetToken w₁.state.now).newCredential =
              some w₂.state.db.credentials ∧
          w₂.state.now = w₁.state.now ∧
          w₂.state.redis.resetChallenges = w₁.state.redis.resetChallenges :=
      replacePassword_replaces (by rw [hstate₁]; exact hreplace)
    rw [hstate₁] at hmem hreplaces hnow hchallenges
    obtain ⟨u₃, w₃, hrevoke, hdelete⟩ := Faulty.bind_ok.mp hafter
    have hrevokes : Faulty.Leaves resetView (.tryCatch
        (SessionApplicationService.revokeAllSessions ctx
          (confirmCall ctx fresh target resetToken w.state.now).dto.tenantCode
          (confirmCall ctx fresh target resetToken w.state.now).dto.userId) fun _ => pure ()) := by
      refine Faulty.leaves_tryCatch (Faulty.leaves_when ?_) fun _ => Faulty.leaves_pure _
      exact (Faulty.leaves_read _).bind fun _ =>
        Faulty.leaves_when (Faulty.leaves_write fun _ => rfl)
    have hview : resetView w₃.state = resetView w₂.state := hrevokes.ok hrevoke
    obtain ⟨hcredentials, hnow₃, hchallenges₃⟩ :
        w₃.state.db.credentials = w₂.state.db.credentials ∧ w₃.state.now = w₂.state.now ∧
          w₃.state.redis.resetChallenges = w₂.state.redis.resetChallenges := by
      simpa only [resetView, Prod.mk.injEq] using hview
    have hwrites : ∀ shared : ResetShared, shared.credentials = w.state.db.credentials →
        confirmCommand (confirmCall ctx fresh target resetToken w.state.now) shared
            (.found (activeIn w.state.db.credentials target.userId)) =
          some ({ shared.setLocked target.userId false with
            credentials := w₂.state.db.credentials }, .committed) := by
      intro shared hshared
      rw [confirmCommand, hshared, hreplaces]
      rfl
    have hlocks : confirmCommand (confirmCall ctx fresh target resetToken w.state.now)
        (sharedOf w.state) .passed =
          some ((sharedOf w.state).setLocked target.userId true, .holding) := by
      have hfree : (sharedOf w.state).locked target.userId ≠ true := Bool.false_ne_true
      show (if (sharedOf w.state).locked target.userId = true then none
        else if target.userId ∈ (sharedOf w.state).users then
          some ((sharedOf w.state).setLocked target.userId true, ConfirmPhase.holding)
        else some (sharedOf w.state, .threw)) = _
      rw [if_neg hfree, if_pos hmem]
    refine ⟨_, .next (if_pos hmay') (.next hlocks (.next rfl (.next (hwrites _ rfl)
      (.next rfl (.ended rfl))))), ?_, ?_⟩
    · rw [writeRedis_ok hdelete]
      exact hcredentials.symm
    · funext key
      rw [writeRedis_ok hdelete, AccountStore.resetChallenge, hchallenges₃, hchallenges, hnow₃,
        hnow, Expiring.get_erase]
      show Function.update w.state.resetChallenge _ none key = _
      rw [Function.update_apply]
      rfl
  · exact absurd hrest Faulty.throw_ok

end Alone

end PasswordService

-- ============================================================================
-- Places
-- ============================================================================

/-- Past the lookup, and the challenge is not deleted. -/
def ConfirmPhase.isOpen : ConfirmPhase → Bool
  | .passed | .holding | .found _ | .committed => true
  | _ => false

def ConfirmPhase.hasPassed : ConfirmPhase → Bool
  | .called | .refused => false
  | _ => true

def ConfirmPhase.hasCommitted : ConfirmPhase → Bool
  | .committed | .deleted => true
  | _ => false

/-- The challenge is used up, or the call is about to. -/
def ConfirmPhase.spends : ConfirmPhase → Bool
  | .passed | .holding | .found _ | .committed | .deleted => true
  | _ => false

def ConfirmPhase.hasDeleted : ConfirmPhase → Bool
  | .deleted => true
  | _ => false

theorem ConfirmPhase.spends_of_hasCommitted (p : ConfirmPhase) (h : p.hasCommitted = true) :
    p.spends = true := by
  cases p with
  | committed => rfl
  | deleted => rfl
  | _ => cases h

/-- The code was right and is marked as verified, with this token. -/
def ResetPhase.hasMarked (resetToken : String) : ResetPhase → Bool
  | .marked resetToken' | .returned resetToken' => resetToken' = resetToken
  | _ => false

/-- The call may still return this token. -/
def ResetPhase.withholds (resetToken : String) : ResetPhase → Bool
  | .called _ resetToken' | .right resetToken' | .marking _ resetToken' | .marked resetToken' =>
    resetToken' = resetToken
  | _ => false

namespace ResetCall

def confirms (place : ConfirmPhase → Bool) : ResetCall → Bool
  | .verify _ _ _ => false
  | .confirm _ p => place p

def verifies (place : ResetPhase → Bool) : ResetCall → Bool
  | .verify _ _ p => place p
  | .confirm _ _ => false

end ResetCall

namespace PasswordService

-- ============================================================================
-- One reset
-- ============================================================================

/-- How many credentials of a user are active. -/
def activeCount (credentials : Keyed Credential Credential.id) (userId : Uuid) : Nat :=
  credentials.rows.countP fun credential =>
    credential.userId = userId && credential.status = .ACTIVE

/-- The challenge has changed one password at most, that of its user, and for a caller who
    was given the token for the right code. -/
structure OneReset (hashOtpCode : String → String) (target : ResetTarget) (hashedCode : String)
    (s : PasswordResetPool) : Prop where
  once : s.count (ResetCall.confirms ConfirmPhase.hasCommitted) ≤ 1
  authorized : ∀ call p, ResetCall.confirm call p ∈ s.threads → p.hasCommitted = true →
    call.target = target ∧
      ∃ code, ResetCall.verify target code (.returned call.resetToken) ∈ s.threads ∧
        hashOtpCode code = hashedCode
  active : ∀ call p, ResetCall.confirm call p ∈ s.threads → p.hasCommitted = true →
    activeCount s.shared.credentials call.target.userId = 1

/-- A challenge is stored only if it is still there.  A confirmation passes only while no
    other one is under way, and not with the token of a call that has yet to return it. -/
def resetInOrder (s : PasswordResetPool) : ResetCall → Bool
  | .verify target _ (.incrementing _) | .verify target _ (.marking _ _) =>
    (s.shared.challenges target.key).isSome
  | .confirm call .called => !mayReset call.dto (s.shared.challenges call.target.key) ||
      (s.count (ResetCall.confirms ConfirmPhase.isOpen) == 0 &&
        s.count (ResetCall.verifies (ResetPhase.withholds call.resetToken)) == 0)
  | _ => true

def OneByOne (s : PasswordResetPool) (i : Nat) : Prop :=
  ∀ call ∈ s.threads[i]?, resetInOrder s call = true

instance (s : PasswordResetPool) (i : Nat) : Decidable (OneByOne s i) :=
  inferInstanceAs (Decidable (∀ call ∈ s.threads[i]?, resetInOrder s call = true))

-- ============================================================================
-- What a command does
-- ============================================================================

/-- The commands of a confirmation. -/
inductive ConfirmMove (call : ConfirmCall) (s : ResetShared) :
    ConfirmPhase → ResetShared → ConfirmPhase → Prop where
  | passes (hmay : mayReset call.dto (s.challenges call.target.key) = true) :
      ConfirmMove call s .called s .passed
  | isRefused : ConfirmMove call s .called s .refused
  | locks : ConfirmMove call s .passed (s.setLocked call.target.userId true) .holding
  | misses : ConfirmMove call s .passed s .threw
  | finds {active} : ConfirmMove call s .holding s (.found active)
  | commits {active credentials}
      (hwrites : replaceCredential s.credentials active call.newCredential = some credentials) :
      ConfirmMove call s (.found active)
        { s.setLocked call.target.userId false with credentials := credentials } .committed
  | fails {active} :
      ConfirmMove call s (.found active) (s.setLocked call.target.userId false) .threw
  | deletes : ConfirmMove call s .committed (s.setChallenge call.target.key none) .deleted

theorem confirmCommand_move {call : ConfirmCall} {s s' : ResetShared} {p p' : ConfirmPhase}
    (h : confirmCommand call s p = some (s', p')) : ConfirmMove call s p s' p' := by
  cases p with
  | called =>
    rw [confirmCommand] at h
    split at h
    next hmay =>
      cases h
      exact .passes hmay
    · cases h
      exact .isRefused
  | passed =>
    rw [confirmCommand] at h
    split at h
    · cases h
    · split at h
      · cases h
        exact .locks
      · cases h
        exact .misses
  | holding =>
    cases h
    exact .finds
  | found active =>
    rw [confirmCommand] at h
    split at h
    next hwrites =>
      cases h
      exact .commits hwrites
    · cases h
      exact .fails
  | committed =>
    cases h
    exact .deletes
  | refused => cases h
  | threw => cases h
  | deleted => cases h

/-- The new credential is the only active one of its user. -/
theorem activeCount_replaceCredential {credentials credentials' : Keyed Credential Credential.id}
    {active : Option Credential} {new : Credential} (hnew : new.status = .ACTIVE)
    (h : replaceCredential credentials active new = some credentials') :
    activeCount credentials' new.userId = 1 := by
  obtain ⟨mid, -, hinsert⟩ := Option.bind_eq_some_iff.mp h
  unfold insertRow at hinsert
  split at hinsert
  · cases hinsert
  next hfree =>
    have hnone : mid.rows.countP (fun credential =>
        credential.userId = new.userId && credential.status = .ACTIVE) = 0 := by
      refine List.countP_eq_zero.mpr fun c hc hactive => hfree ?_
      rw [Bool.and_eq_true, decide_eq_true_iff, decide_eq_true_iff] at hactive
      refine List.any_eq_true.mpr ⟨c, hc, ?_⟩
      simp [Credential.conflicts, Keyed.insert_fresh hinsert hc, hnew, hactive.1, hactive.2]
    rw [activeCount, Keyed.insert_rows hinsert, List.countP_append, hnone]
    simp [hnew]

theorem resetCommand_cases {hashOtpCode : String → String} {s s' : ResetShared}
    {call call' : ResetCall} (h : resetCommand hashOtpCode s call = some (s', call')) :
    (∃ target code p stored p', call = .verify target code p ∧ call' = .verify target code p' ∧
      ResetMove hashOtpCode (s.challenges target.key) p stored p' ∧
      s' = s.setChallenge target.key stored) ∨
    ∃ confirmCall p p', call = .confirm confirmCall p ∧ call' = .confirm confirmCall p' ∧
      ConfirmMove confirmCall s p s' p' := by
  cases call with
  | verify target code p =>
    obtain ⟨⟨stored, p'⟩, hnext, hmap⟩ := Option.map_eq_some_iff.mp h
    obtain ⟨rfl, rfl⟩ := Prod.mk.inj hmap
    exact .inl ⟨target, code, p, stored, p', rfl, rfl, command_move hnext, rfl⟩
  | confirm confirmCall p =>
    obtain ⟨⟨s'', p'⟩, hnext, hmap⟩ := Option.map_eq_some_iff.mp h
    obtain ⟨rfl, rfl⟩ := Prod.mk.inj hmap
    exact .inr ⟨confirmCall, p, p', rfl, rfl, confirmCommand_move hnext⟩

-- ============================================================================
-- Invariant
-- ============================================================================

section Invariant

variable (hashOtpCode : String → String) (target : ResetTarget) (hashedCode : String)

/-- A call with the right code has marked the challenge as verified with the token. -/
def Issued (s : PasswordResetPool) (resetToken : String) : Prop :=
  ∃ code p, ResetCall.verify target code p ∈ s.threads ∧ p.hasMarked resetToken = true ∧
    hashOtpCode code = hashedCode

/-- It has also returned the token. -/
def Returned (s : PasswordResetPool) (resetToken : String) : Prop :=
  ∃ code, ResetCall.verify target code (.returned resetToken) ∈ s.threads ∧
    hashOtpCode code = hashedCode

structure Vouched (s : PasswordResetPool) (challenge : PasswordResetChallengeData) : Prop where
  hashed : challenge.hashedCode = hashedCode
  issued : ∀ resetToken, challenge.codeVerified = true → challenge.resetToken = some resetToken →
    Issued hashOtpCode target hashedCode s resetToken

/-- What a call has read and found out. -/
def FitsReset (s : PasswordResetPool) : ResetCall → Prop
  | .verify _ code (.called code' _) => code' = code
  | .verify target' _ (.incrementing challenge) =>
    target' = target ∧ Vouched hashOtpCode target hashedCode s challenge
  | .verify target' code (.marking challenge _) => target' = target ∧
    hashOtpCode code = hashedCode ∧ Vouched hashOtpCode target hashedCode s challenge
  | .verify target' code (.right _) | .verify target' code (.marked _)
  | .verify target' code (.returned _) => target' = target ∧ hashOtpCode code = hashedCode
  | .confirm call p => p.hasPassed = true →
    call.target = target ∧ Returned hashOtpCode target hashedCode s call.resetToken
  | _ => True

structure Single (s : PasswordResetPool) : Prop where
  others : ∀ key, key ≠ target.key → s.shared.challenges key = none
  stored : ∀ challenge, s.shared.challenges target.key = some challenge →
    Vouched hashOtpCode target hashedCode s challenge
  fits : ∀ call ∈ s.threads, FitsReset hashOtpCode target hashedCode s call
  spends : s.count (ResetCall.confirms ConfirmPhase.spends) ≤ 1
  deleted : 0 < s.count (ResetCall.confirms ConfirmPhase.hasDeleted) →
    s.shared.challenges target.key = none
  active : ∀ call p, ResetCall.confirm call p ∈ s.threads → p.hasCommitted = true →
    activeCount s.shared.credentials call.target.userId = 1

end Invariant

-- ============================================================================
-- What a command keeps
-- ============================================================================

section Step

variable {hashOtpCode : String → String} {target : ResetTarget} {hashedCode resetToken : String}
  {s : PasswordResetPool} {i : Nat} {call call' : ResetCall} {shared : ResetShared}
  {challenge : PasswordResetChallengeData}

/-- A token that is returned stays so: the call has ended. -/
theorem Returned.step (hp : s.threads[i]? = some call)
    (hnext : resetCommand hashOtpCode s.shared call = some (shared, call'))
    (h : Returned hashOtpCode target hashedCode s resetToken) :
    Returned hashOtpCode target hashedCode (s.put i shared call') resetToken := by
  obtain ⟨code, hmem, hcode⟩ := h
  rcases Pool.mem_put_of_mem hp hmem with rfl | hstays
  · cases hnext
  · exact ⟨code, hstays, hcode⟩

theorem Issued.step (hp : s.threads[i]? = some call)
    (hnext : resetCommand hashOtpCode s.shared call = some (shared, call'))
    (h : Issued hashOtpCode target hashedCode s resetToken) :
    Issued hashOtpCode target hashedCode (s.put i shared call') resetToken := by
  obtain ⟨code, p, hmem, hmarked, hcode⟩ := h
  rcases Pool.mem_put_of_mem hp hmem with rfl | hstays
  · cases p with
    | marked resetToken' =>
      cases hnext
      exact ⟨code, .returned resetToken', Pool.put_mem hp, hmarked, hcode⟩
    | returned _ => cases hnext
    | _ => cases hmarked
  · exact ⟨code, p, hstays, hmarked, hcode⟩

theorem Vouched.step (hp : s.threads[i]? = some call)
    (hnext : resetCommand hashOtpCode s.shared call = some (shared, call'))
    (h : Vouched hashOtpCode target hashedCode s challenge) :
    Vouched hashOtpCode target hashedCode (s.put i shared call') challenge where
  hashed := h.hashed
  issued resetToken hverified htoken := (h.issued resetToken hverified htoken).step hp hnext

theorem FitsReset.step {other : ResetCall} (hp : s.threads[i]? = some call)
    (hnext : resetCommand hashOtpCode s.shared call = some (shared, call'))
    (h : FitsReset hashOtpCode target hashedCode s other) :
    FitsReset hashOtpCode target hashedCode (s.put i shared call') other := by
  cases other with
  | verify target' code p =>
    cases p with
    | incrementing _ => exact ⟨h.1, h.2.step hp hnext⟩
    | marking _ _ => exact ⟨h.1, h.2.1, h.2.2.step hp hnext⟩
    | _ => exact h
  | confirm confirmCall p =>
    intro hpassed
    obtain ⟨htarget, hreturned⟩ := h hpassed
    exact ⟨htarget, hreturned.step hp hnext⟩

/-- The calls that do not run fit as before. -/
theorem fits_put (hp : s.threads[i]? = some call)
    (hnext : resetCommand hashOtpCode s.shared call = some (shared, call'))
    (hnew : FitsReset hashOtpCode target hashedCode (s.put i shared call') call')
    (h : Single hashOtpCode target hashedCode s) :
    ∀ other ∈ (s.put i shared call').threads,
      FitsReset hashOtpCode target hashedCode (s.put i shared call') other := by
  intro other hother
  rcases Pool.mem_put hother with rfl | hold
  · exact hnew
  · exact (h.fits other hold).step hp hnext

/-- There is a challenge only for the target that it was saved for. -/
theorem target_of_found {target' : ResetTarget} (h : Single hashOtpCode target hashedCode s)
    (hfound : s.shared.challenges target'.key = some challenge) : target' = target := by
  by_contra hne
  rw [h.others target'.key fun hkey => hne (ResetTarget.key_inj hkey)] at hfound
  cases hfound

section Verify

variable {target' : ResetTarget} {code : String} {p p' : ResetPhase}
  {stored : Option PasswordResetChallengeData}

theorem verify_fits (hp : s.threads[i]? = some (.verify target' code p))
    (hmove : ResetMove hashOtpCode (s.shared.challenges target'.key) p stored p')
    (hnext : resetCommand hashOtpCode s.shared (.verify target' code p) =
      some (shared, .verify target' code p'))
    (h : Single hashOtpCode target hashedCode s) :
    FitsReset hashOtpCode target hashedCode (s.put i shared (.verify target' code p'))
      (.verify target' code p') := by
  have hown := h.fits _ (Rows.mem_of_row hp)
  have hread : ∀ {challenge}, s.shared.challenges target'.key = some challenge →
      Vouched hashOtpCode target hashedCode (s.put i shared (.verify target' code p')) challenge :=
    fun hsome => (h.stored _ (target_of_found h hsome ▸ hsome)).step hp hnext
  cases hmove with
  | refuses => trivial
  | misses _ _ _ => trivial
  | hits hsome _ hright =>
    obtain rfl : _ = code := hown
    have hsame := target_of_found h hsome
    exact ⟨hsame, hright.trans (h.stored _ (hsame ▸ hsome)).hashed⟩
  | rereads hsome => exact ⟨target_of_found h hsome, hread hsome⟩
  | loses _ => trivial
  | increments => trivial
  | denies => trivial
  | readsRight hsome => exact ⟨hown.1, hown.2, hread hsome⟩
  | losesRight _ => exact hown
  | marks => exact ⟨hown.1, hown.2.1⟩
  | returns => exact hown

/-- A call that stores the challenge stores what the caller of the right code may know. -/
theorem verify_writes (hp : s.threads[i]? = some (.verify target' code p))
    (hmeets : resetInOrder s (.verify target' code p) = true)
    (hmove : ResetMove hashOtpCode (s.shared.challenges target'.key) p stored p')
    (hnext : resetCommand hashOtpCode s.shared (.verify target' code p) =
      some (shared, .verify target' code p'))
    (h : Single hashOtpCode target hashedCode s) :
    stored = s.shared.challenges target'.key ∨
      (target' = target ∧ s.shared.challenges target.key ≠ none ∧
        ∀ challenge, stored = some challenge →
          Vouched hashOtpCode target hashedCode (s.put i shared (.verify target' code p'))
            challenge) := by
  have hown := h.fits _ (Rows.mem_of_row hp)
  have hthere : (s.shared.challenges target'.key).isSome = true → target' = target →
      s.shared.challenges target.key ≠ none := by
    rintro hsome rfl hnone
    rw [hnone] at hsome
    cases hsome
  cases hmove with
  | increments =>
    obtain ⟨hsame, hvouched⟩ := hown
    refine .inr ⟨hsame, hthere hmeets hsame, fun challenge hchallenge => ?_⟩
    obtain rfl := Option.some.inj hchallenge
    exact ⟨hvouched.hashed, fun token hverified htoken =>
      (hvouched.issued token hverified htoken).step hp hnext⟩
  | marks =>
    obtain ⟨hsame, hcode, hvouched⟩ := hown
    refine .inr ⟨hsame, hthere hmeets hsame, fun challenge hchallenge => ?_⟩
    obtain rfl := Option.some.inj hchallenge
    refine ⟨hvouched.hashed, fun token _ htoken => ?_⟩
    obtain rfl := Option.some.inj htoken
    obtain rfl := hsame
    exact ⟨code, _, Pool.put_mem hp, decide_eq_true rfl, hcode⟩
  | _ => exact .inl rfl

theorem verify_single (hp : s.threads[i]? = some (.verify target' code p))
    (hmeets : resetInOrder s (.verify target' code p) = true)
    (hmove : ResetMove hashOtpCode (s.shared.challenges target'.key) p stored p')
    (hnext : resetCommand hashOtpCode s.shared (.verify target' code p) =
      some (s.shared.setChallenge target'.key stored, .verify target' code p'))
    (h : Single hashOtpCode target hashedCode s) :
    Single hashOtpCode target hashedCode
      (s.put i (s.shared.setChallenge target'.key stored) (.verify target' code p')) := by
  have hcount : ∀ place, (s.put i (s.shared.setChallenge target'.key stored)
      (.verify target' code p')).count (ResetCall.confirms place) =
      s.count (ResetCall.confirms place) :=
    fun place => Pool.count_put_same _ hp rfl
  have hwrites := verify_writes hp hmeets hmove hnext h
  refine ⟨fun key hkey => ?_, fun challenge hchallenge => ?_,
    fits_put hp hnext (verify_fits hp hmove hnext h) h, ?_, fun hdeleted => ?_,
    fun call q hq hcommitted => ?_⟩
  · show Function.update s.shared.challenges target'.key stored key = none
    rcases hwrites with rfl | ⟨rfl, -, -⟩
    · rw [Function.update_eq_self]
      exact h.others key hkey
    · rw [Function.update_of_ne hkey]
      exact h.others key hkey
  · replace hchallenge : Function.update s.shared.challenges target'.key stored target.key =
        some challenge := hchallenge
    rcases hwrites with rfl | ⟨rfl, -, hvouched⟩
    · rw [Function.update_eq_self] at hchallenge
      exact (h.stored challenge hchallenge).step hp hnext
    · rw [Function.update_self] at hchallenge
      exact hvouched challenge hchallenge
  · rw [hcount]
    exact h.spends
  · rw [hcount] at hdeleted
    have hnone := h.deleted hdeleted
    show Function.update s.shared.challenges target'.key stored target.key = none
    rcases hwrites with rfl | ⟨-, hsome, -⟩
    · rw [Function.update_eq_self]
      exact hnone
    · exact absurd hnone hsome
  · rcases Pool.mem_put hq with hnew | hold
    · cases hnew
    · exact h.active call q hold hcommitted

end Verify

section Confirm

variable {confirmCall : ConfirmCall} {p p' : ConfirmPhase}

/-- The token of a confirmation that passes has been returned for the right code. -/
theorem passes_fits (hmeets : resetInOrder s (.confirm confirmCall .called) = true)
    (hmay : mayReset confirmCall.dto (s.shared.challenges confirmCall.target.key) = true)
    (h : Single hashOtpCode target hashedCode s) :
    confirmCall.target = target ∧
      Returned hashOtpCode target hashedCode s confirmCall.resetToken := by
  rcases hfound : s.shared.challenges confirmCall.target.key with _ | challenge
  · rw [hfound] at hmay
    cases hmay
  have hsame := target_of_found h hfound
  rw [resetInOrder, hmay, Bool.not_true, Bool.false_or, Bool.and_eq_true] at hmeets
  rw [hfound, mayReset, Bool.and_eq_true, decide_eq_true_iff] at hmay
  obtain ⟨code, p, hmem, hmarked, hcode⟩ :=
    (h.stored challenge (hsame ▸ hfound)).issued confirmCall.resetToken hmay.1 hmay.2
  have hgiven := Pool.not_at_of_count (eq_of_beq hmeets.2) hmem
  refine ⟨hsame, code, ?_, hcode⟩
  cases p with
  | marked _ => exact absurd hmarked (Bool.not_eq_true _ ▸ hgiven)
  | returned token =>
    obtain rfl : token = confirmCall.resetToken := of_decide_eq_true hmarked
    exact hmem
  | _ => cases hmarked

theorem confirm_fits (hp : s.threads[i]? = some (.confirm confirmCall p))
    (hmeets : resetInOrder s (.confirm confirmCall p) = true)
    (hmove : ConfirmMove confirmCall s.shared p shared p')
    (hnext : resetCommand hashOtpCode s.shared (.confirm confirmCall p) =
      some (shared, .confirm confirmCall p'))
    (h : Single hashOtpCode target hashedCode s) :
    FitsReset hashOtpCode target hashedCode (s.put i shared (.confirm confirmCall p'))
      (.confirm confirmCall p') := by
  have hown : p.hasPassed = true → FitsReset hashOtpCode target hashedCode
      (s.put i shared (.confirm confirmCall p')) (.confirm confirmCall p') := by
    intro hpassed _
    obtain ⟨hsame, hreturned⟩ := h.fits _ (Rows.mem_of_row hp) hpassed
    exact ⟨hsame, hreturned.step hp hnext⟩
  cases hmove with
  | passes hmay =>
    intro _
    obtain ⟨hsame, hreturned⟩ := passes_fits hmeets hmay h
    exact ⟨hsame, hreturned.step hp hnext⟩
  | isRefused => exact fun hpassed => nomatch hpassed
  | locks => exact hown rfl
  | misses => exact hown rfl
  | finds => exact hown rfl
  | commits _ => exact hown rfl
  | fails => exact hown rfl
  | deletes => exact hown rfl

theorem spends_step (hp : s.threads[i]? = some (.confirm confirmCall p))
    (hmeets : resetInOrder s (.confirm confirmCall p) = true)
    (hmove : ConfirmMove confirmCall s.shared p shared p')
    (h : Single hashOtpCode target hashedCode s) :
    (s.put i shared (.confirm confirmCall p')).count (ResetCall.confirms ConfirmPhase.spends) ≤
      1 := by
  have hsame : p'.spends = p.spends → (s.put i shared (.confirm confirmCall p')).count
      (ResetCall.confirms ConfirmPhase.spends) ≤ 1 := by
    intro hplace
    have hcount : (s.put i shared (.confirm confirmCall p')).count
        (ResetCall.confirms ConfirmPhase.spends) =
        s.count (ResetCall.confirms ConfirmPhase.spends) :=
      Pool.count_put_same _ hp hplace
    rw [hcount]
    exact h.spends
  have hleaves : p.spends = true → p'.spends = false →
      (s.put i shared (.confirm confirmCall p')).count (ResetCall.confirms ConfirmPhase.spends) ≤
        1 := by
    intro hbefore hafter
    have hcount : (s.put i shared (.confirm confirmCall p')).count
        (ResetCall.confirms ConfirmPhase.spends) + 1 =
        s.count (ResetCall.confirms ConfirmPhase.spends) :=
      Pool.count_put_leave _ hp hbefore hafter
    have hspends := h.spends
    omega
  cases hmove with
  | passes hmay =>
    have hthere : s.shared.challenges target.key ≠ none := by
      rw [← (passes_fits hmeets hmay h).1]
      intro hnone
      rw [hnone] at hmay
      cases hmay
    rw [resetInOrder, hmay, Bool.not_true, Bool.false_or, Bool.and_eq_true] at hmeets
    have hnone : s.count (ResetCall.confirms ConfirmPhase.spends) = 0 := by
      refine List.countP_eq_zero.mpr fun call hcall hspends => ?_
      have hclosed := Pool.not_at_of_count (eq_of_beq hmeets.1) hcall
      cases call with
      | verify _ _ _ => cases hspends
      | confirm other q =>
        cases q with
        | deleted => exact hthere (h.deleted (List.countP_pos_iff.mpr ⟨_, hcall, rfl⟩))
        | called => cases hspends
        | refused => cases hspends
        | threw => cases hspends
        | _ => cases hclosed
    have hcount : (s.put i s.shared (.confirm confirmCall .passed)).count
        (ResetCall.confirms ConfirmPhase.spends) =
        s.count (ResetCall.confirms ConfirmPhase.spends) + 1 :=
      Pool.count_put_enter _ hp rfl rfl
    rw [hcount, hnone]
  | isRefused => exact hsame rfl
  | locks => exact hsame rfl
  | misses => exact hleaves rfl rfl
  | finds => exact hsame rfl
  | commits _ => exact hsame rfl
  | fails => exact hleaves rfl rfl
  | deletes => exact hsame rfl

/-- Only a confirmation that deletes it changes the challenge. -/
theorem confirm_challenges (hmove : ConfirmMove confirmCall s.shared p shared p') :
    (shared.challenges = s.shared.challenges ∧ p'.hasDeleted = p.hasDeleted) ∨
      (p = .committed ∧ shared = s.shared.setChallenge confirmCall.target.key none) := by
  cases hmove with
  | deletes => exact .inr ⟨rfl, rfl⟩
  | _ => exact .inl ⟨rfl, rfl⟩

theorem active_step (hp : s.threads[i]? = some (.confirm confirmCall p))
    (hmove : ConfirmMove confirmCall s.shared p shared p')
    (h : Single hashOtpCode target hashedCode s) {call : ConfirmCall} {q : ConfirmPhase}
    (hq : ResetCall.confirm call q ∈ (s.put i shared (.confirm confirmCall p')).threads)
    (hcommitted : q.hasCommitted = true) :
    activeCount shared.credentials call.target.userId = 1 := by
  have hsame : shared.credentials = s.shared.credentials →
      (p'.hasCommitted = true → p.hasCommitted = true) →
      activeCount shared.credentials call.target.userId = 1 := by
    intro hcredentials hplace
    rw [hcredentials]
    rcases Pool.mem_put hq with hnew | hold
    · obtain ⟨rfl, rfl⟩ := ResetCall.confirm.inj hnew
      exact h.active call p (Rows.mem_of_row hp) (hplace hcommitted)
    · exact h.active call q hold hcommitted
  cases hmove with
  | @commits active credentials hwrites =>
    have hown : call = confirmCall := by
      rcases Pool.mem_put hq with hnew | hold
      · exact (ResetCall.confirm.inj hnew).1
      · have hspends : q.spends = true := by
          cases q with
          | committed => rfl
          | deleted => rfl
          | _ => cases hcommitted
        exact (ResetCall.confirm.inj (Pool.eq_of_count h.spends (Rows.mem_of_row hp) rfl hold
          hspends)).1
    rw [hown]
    exact activeCount_replaceCredential rfl hwrites
  | passes _ => exact hsame rfl fun hnot => nomatch hnot
  | isRefused => exact hsame rfl fun hnot => nomatch hnot
  | locks => exact hsame rfl fun hnot => nomatch hnot
  | misses => exact hsame rfl fun hnot => nomatch hnot
  | finds => exact hsame rfl fun hnot => nomatch hnot
  | fails => exact hsame rfl fun hnot => nomatch hnot
  | deletes => exact hsame rfl fun _ => rfl

theorem confirm_single (hp : s.threads[i]? = some (.confirm confirmCall p))
    (hmeets : resetInOrder s (.confirm confirmCall p) = true)
    (hmove : ConfirmMove confirmCall s.shared p shared p')
    (hnext : resetCommand hashOtpCode s.shared (.confirm confirmCall p) =
      some (shared, .confirm confirmCall p'))
    (h : Single hashOtpCode target hashedCode s) :
    Single hashOtpCode target hashedCode (s.put i shared (.confirm confirmCall p')) := by
  have hchallenges := confirm_challenges hmove
  refine ⟨fun key hkey => ?_, fun challenge hchallenge => ?_,
    fits_put hp hnext (confirm_fits hp hmeets hmove hnext h) h, spends_step hp hmeets hmove h,
    fun hdeleted => ?_, fun _ _ hq hcommitted => active_step hp hmove h hq hcommitted⟩
  · show shared.challenges key = none
    rcases hchallenges with ⟨hsame, -⟩ | ⟨-, rfl⟩
    · rw [hsame]
      exact h.others key hkey
    · show Function.update s.shared.challenges _ none key = none
      rw [Function.update_apply]
      split
      · rfl
      · exact h.others key hkey
  · replace hchallenge : shared.challenges target.key = some challenge := hchallenge
    rcases hchallenges with ⟨hsame, -⟩ | ⟨rfl, rfl⟩
    · rw [hsame] at hchallenge
      exact (h.stored challenge hchallenge).step hp hnext
    · obtain ⟨htarget, -⟩ := h.fits _ (Rows.mem_of_row hp) rfl
      replace hchallenge : Function.update s.shared.challenges confirmCall.target.key none
          target.key = some challenge := hchallenge
      rw [htarget, Function.update_self] at hchallenge
      cases hchallenge
  · show shared.challenges target.key = none
    rcases hchallenges with ⟨hsame, hplace⟩ | ⟨rfl, rfl⟩
    · have hcount : (s.put i shared (.confirm confirmCall p')).count
          (ResetCall.confirms ConfirmPhase.hasDeleted) =
          s.count (ResetCall.confirms ConfirmPhase.hasDeleted) :=
        Pool.count_put_same _ hp hplace
      rw [hcount] at hdeleted
      rw [hsame]
      exact h.deleted hdeleted
    · obtain ⟨htarget, -⟩ := h.fits _ (Rows.mem_of_row hp) rfl
      show Function.update s.shared.challenges confirmCall.target.key none target.key = none
      rw [htarget, Function.update_self]

end Confirm

theorem Single.step (hp : s.threads[i]? = some call) (hmeets : resetInOrder s call = true)
    (hnext : resetCommand hashOtpCode s.shared call = some (shared, call'))
    (h : Single hashOtpCode target hashedCode s) :
    Single hashOtpCode target hashedCode (s.put i shared call') := by
  rcases resetCommand_cases hnext with ⟨target', code, p, stored, p', rfl, rfl, hmove, rfl⟩ |
    ⟨confirmCall, p, p', rfl, rfl, hmove⟩
  · exact verify_single hp hmeets hmove hnext h
  · exact confirm_single hp hmeets hmove hnext h

end Step

-- ============================================================================
-- Runs
-- ============================================================================

section Runs

variable {hashOtpCode : String → String} {target : ResetTarget} {hashedCode : String}
  {start s : PasswordResetPool}

theorem Begins.count_eq_zero (h : Begins target hashedCode start) {place : ResetCall → Bool}
    (hplace : ∀ call : ResetCall, call.isNew → place call = false) : start.count place = 0 :=
  List.countP_eq_zero.mpr fun call hcall => by
    rw [hplace call (h.new call hcall)]
    exact Bool.false_ne_true

theorem Begins.count_confirms (h : Begins target hashedCode start) {place : ConfirmPhase → Bool}
    (hplace : place .called = false) : start.count (ResetCall.confirms place) = 0 := by
  refine h.count_eq_zero fun call hnew => ?_
  cases call with
  | verify _ _ _ => rfl
  | confirm _ p =>
    obtain rfl : p = .called := hnew
    exact hplace

theorem single_begins (h : Begins target hashedCode start) :
    Single hashOtpCode target hashedCode start where
  others key hkey := by
    rw [h.saved, Function.update_of_ne hkey]
  stored challenge hchallenge := by
    rw [h.saved, Function.update_self] at hchallenge
    obtain rfl := Option.some.inj hchallenge
    exact ⟨rfl, fun _ hverified => nomatch hverified⟩
  fits call hcall := by
    cases call with
    | verify target' code p =>
      obtain ⟨resetToken, rfl⟩ := h.new _ hcall
      exact rfl
    | confirm confirmCall p =>
      obtain rfl : p = .called := h.new _ hcall
      exact fun hpassed => nomatch hpassed
  spends := by
    rw [h.count_confirms rfl]
    exact Nat.zero_le 1
  deleted hdeleted := by
    rw [h.count_confirms rfl] at hdeleted
    exact absurd hdeleted (Nat.lt_irrefl 0)
  active call p hcall hcommitted := by
    obtain rfl : p = .called := h.new _ hcall
    cases hcommitted

theorem single_of_steps (hbegins : Begins target hashedCode start)
    (hrun : (passwordResetRaces hashOtpCode).Steps OneByOne start s) :
    Single hashOtpCode target hashedCode s :=
  Pool.invariant_of (fun _ _ call _ _ hs hmeets hp hnext =>
    Single.step hp (hmeets call hp) hnext hs) (single_begins hbegins) hrun

/-- Where the commands are one by one, the challenge changes one password once. -/
theorem oneReset_of_oneByOne (hbegins : Begins target hashedCode start)
    (hrun : (passwordResetRaces hashOtpCode).Steps OneByOne start s) :
    OneReset hashOtpCode target hashedCode s where
  once := by
    refine (Pool.count_le fun call hcall => ?_).trans (single_of_steps hbegins hrun).spends
    cases call with
    | verify _ _ _ => cases hcall
    | confirm _ p => exact ConfirmPhase.spends_of_hasCommitted p hcall
  authorized call p hcall hcommitted := by
    refine (single_of_steps hbegins hrun).fits _ hcall ?_
    cases p with
    | committed => rfl
    | deleted => rfl
    | _ => cases hcommitted
  active := (single_of_steps hbegins hrun).active

-- ============================================================================
-- A user with one challenge
-- ============================================================================

def sampleTarget : ResetTarget where
  challengeId := "0190a1b2-0000-4000-8000-0000000000c2"
  tenantCode := "acme"
  userId := Persistence.sampleUserId
  isUUID := by decide +kernel

def newPassword (id : Uuid) (passwordHash : String) : Credential where
  id := id
  tenantCode := "acme"
  userId := Persistence.sampleUserId
  passwordHash := passwordHash
  algorithm := "argon2id"
  status := .ACTIVE

/-- The code is verified once; two confirmations submit the token. -/
def sampleResets : PasswordResetPool where
  shared :=
    { challenges :=
        Function.update (fun _ => none) sampleTarget.key
          (some (savedChallenge sampleTarget "314159"))
      users := [Persistence.sampleUserId]
      credentials := .empty
      locked := fun _ => false }
  threads :=
    [.verify sampleTarget "314159" (.called "314159" "token"),
      .confirm ⟨sampleTarget, "token", newPassword Persistence.sampleUserId "first"⟩ .called,
      .confirm ⟨sampleTarget, "token", newPassword Persistence.sampleEmployeeId "second"⟩ .called]

theorem sampleResets_begins : Begins sampleTarget "314159" sampleResets where
  saved := rfl
  unlocked _ := rfl
  new := by
    simp [sampleResets, ResetCall.isNew]

theorem oneReset_of_oneByOne_sample : ∃ s,
    (passwordResetRaces id).Steps OneByOne sampleResets s ∧
      s.count (ResetCall.confirms ConfirmPhase.hasCommitted) = 1 ∧
      OneReset id sampleTarget "314159" s := by
  obtain ⟨s, hs, hone⟩ := Option.map_eq_some_iff.mp
    (show ((passwordResetRaces id).run OneByOne sampleResets
        [0, 0, 0, 0, 1, 1, 1, 1, 1, 2]).map
      (fun s => s.count (ResetCall.confirms ConfirmPhase.hasCommitted)) = some 1
      from by decide +kernel)
  have hsteps := System.steps_of_run hs
  exact ⟨s, hsteps, hone, oneReset_of_oneByOne sampleResets_begins hsteps⟩

/-- Both confirmations find the challenge verified before the first one deletes it. -/
theorem two_resets : ∃ s,
    (passwordResetRaces id).Steps Always sampleResets s ∧
      s.count (ResetCall.confirms ConfirmPhase.hasCommitted) = 2 ∧
      ¬OneReset id sampleTarget "314159" s := by
  obtain ⟨s, hs, htwo⟩ := Option.map_eq_some_iff.mp
    (show ((passwordResetRaces id).execute sampleResets
        [0, 0, 0, 0, 1, 2, 1, 1, 1, 1, 2, 2, 2]).map
      (fun s => s.count (ResetCall.confirms ConfirmPhase.hasCommitted)) = some 2
      from by decide +kernel)
  refine ⟨s, System.steps_of_execute hs, htwo, fun hone => ?_⟩
  have honce := hone.once
  rw [htwo] at honce
  exact absurd honce (by decide)

end Runs

end PasswordService

end AccessService.Accounts
