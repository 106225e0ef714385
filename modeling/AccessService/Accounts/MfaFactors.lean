/-
  AccessService.Accounts.MfaFactors

  The life of an MFA factor, in `mfa_application.service.ts` and
  `mfa_admin_application.service.ts`: it is enrolled as PENDING, a code activates it as the
  user's primary factor, and a reset disables it.  The unique index keeps one ACTIVE primary
  factor per user.  But a code activates whatever is not ACTIVE yet: a factor that a reset
  has disabled comes back (`lives_iff`).
-/

import AccessService.Accounts.AccountEffects
import AccessService.Lib.Transition

namespace AccessService.Accounts

open AccessService.Lib AccessService.Lib.Transition AccessService.Pg
open AccessService.Authorization (Timestamp)

-- ============================================================================
-- Factors
-- ============================================================================

inductive MfaFactorType where
  | TOTP
  | EMAIL
  deriving DecidableEq

abbrev MfaTable : Type := Keyed MfaMethod MfaMethod.id

/-- The condition of `uq_mfa_methods_one_primary_per_user`. -/
def MfaMethod.isActivePrimary (m : MfaMethod) : Bool := m.isPrimary && m.status = .ACTIVE

/-- `uq_mfa_methods_one_primary_per_user` -/
def MfaMethod.conflicts (m other : MfaMethod) : Bool :=
  other.id ≠ m.id && m.isActivePrimary && other.isActivePrimary && other.userId = m.userId

def MfaMethod.activated (m : MfaMethod) : MfaMethod :=
  { m with status := .ACTIVE, isPrimary := true }

namespace MfaMethodRepository

variable (ctx : AccountContext)

def factorInTenant (table : MfaTable) (id : Uuid) : Option MfaMethod :=
  table.rows.find? fun m => m.tenantCode = ctx.tenantCode && m.id = id

def findById (id : Uuid) : AccountService (Option MfaMethod) :=
  readDb fun db => factorInTenant ctx db.mfaMethods id

def findActivePrimary (userId : Uuid) : AccountService (Option MfaMethod) :=
  readDb fun db => db.mfaMethods.rows.find? fun m =>
    m.tenantCode = ctx.tenantCode && m.userId = userId && m.isActivePrimary

/-- `fk_mfa_methods_user`; the CHECKs are about columns that each write fills in. -/
def create (m : MfaMethod) : AccountService Unit :=
  writeDb fun db =>
    if m.userId ∈ db.users.rows.map (fun user => user.id) then
      (insertRow MfaMethod.conflicts db.mfaMethods m).map fun mfaMethods =>
        { db with mfaMethods := mfaMethods }
    else none

def update (id : Uuid) (f : MfaMethod → MfaMethod) : AccountService Unit :=
  writeDb fun db =>
    (updateRow MfaMethod.conflicts db.mfaMethods id fun m => some (f m)).map fun mfaMethods =>
      { db with mfaMethods := mfaMethods }

end MfaMethodRepository

-- ============================================================================
-- mfa_application.service.ts
-- ============================================================================

structure EnrollMfaResponse where
  factorId : Uuid
  factorType : MfaFactorType
  status : MfaFactorStatus
  qrCodeUrl : Option String
  deriving DecidableEq

structure VerifyEnrollmentDto where
  factorId : Uuid
  factorType : MfaFactorType
  code : String
  deriving DecidableEq

structure VerifyEnrollmentResponseDto where
  status : MfaFactorStatus
  isPrimary : Bool
  enrolledAt : Timestamp
  deriving DecidableEq

def ConflictException (message : String) : AccountError := httpError "ConflictException" message 409

namespace MfaApplicationService

open MfaMethodRepository

/-- Standard sample base32 TOTP secret. -/
def secret : String := "JBSWY3DPEHPK3PXP"

def qrCodeUrl (factorType : MfaFactorType) (userId : Uuid) : Option String :=
  match factorType with
  | .TOTP => some ("otpauth://totp/HRMS:" ++ userId.text ++ "?secret=" ++ secret ++ "&issuer=HRMS")
  | .EMAIL => none

/-- `userId` is the user of the request, and `factorId` the id that the row gets. -/
def initiateEnrollment (ctx : AccountContext) (userId factorId : Uuid)
    (factorType : MfaFactorType) : AccountService EnrollMfaResponse := do
  match ← findActivePrimary ctx userId with
  | some _ => .throw (ConflictException "Active primary MFA factor already exists")
  | none => do
    -- `kmsCryptoAdapter.encrypt`, which may throw
    let _ ← (.read fun _ => secret : AccountService String)
    create { id := factorId, tenantCode := ctx.tenantCode, userId := userId, status := .PENDING,
             isPrimary := false }
    pure { factorId := factorId, factorType := factorType, status := .PENDING,
           qrCodeUrl := qrCodeUrl factorType userId }

def activateFactor (ctx : AccountContext) (userId : Uuid) (factor : MfaMethod) :
    AccountService VerifyEnrollmentResponseDto := do
  let verifiedAt ← clock
  runInTransaction do
    update factor.id MfaMethod.activated
    SecurityEventService.log ctx.tenantCode (some userId) "authentication.mfa-enrolled"
  pure { status := .ACTIVE, isPrimary := true, enrolledAt := verifiedAt }

/-- OTP validation logic (accept 123456 as test OTP). -/
def verifyAndActivateFactor (ctx : AccountContext) (userId : Uuid) (dto : VerifyEnrollmentDto) :
    AccountService VerifyEnrollmentResponseDto := do
  let factor ← required (findById ctx dto.factorId)
  if factor.userId ≠ userId then
    .throw (UnauthorizedException "MFA factor enrollment not belong user")
  else if factor.status = .ACTIVE then
    .throw (ConflictException "MFA factor is already activated")
  else if dto.code ≠ "123456" then
    .throw (UnauthorizedException "Invalid or expired MFA verification code")
  else activateFactor ctx userId factor

end MfaApplicationService

-- ============================================================================
-- Runs
-- ============================================================================

inductive MfaOperation where
  | initiateEnrollment (ctx : AccountContext) (userId factorId : Uuid) (factorType : MfaFactorType)
  | verifyAndActivateFactor (ctx : AccountContext) (userId : Uuid) (dto : VerifyEnrollmentDto)
  | resetUserMfa (ctx : AccountContext) (targetUserId : Uuid)

/-- A call, and what its own calls run into. -/
structure MfaStep where
  operation : MfaOperation
  faults : List (Option AccountError) := []

/-- The state that a call leaves. -/
def MfaOperation.perform (w : World AccountStore AccountError) :
    MfaOperation → AccountStore
  | .initiateEnrollment ctx userId factorId factorType =>
    (MfaApplicationService.initiateEnrollment ctx userId factorId factorType w).2.state
  | .verifyAndActivateFactor ctx userId dto =>
    (MfaApplicationService.verifyAndActivateFactor ctx userId dto w).2.state
  | .resetUserMfa ctx targetUserId =>
    (MfaAdminApplicationService.resetUserMfa ctx targetUserId w).2.state

/-- At most one ACTIVE primary factor per user. -/
def OnePrimary (table : MfaTable) : Prop :=
  ∀ m ∈ table.rows, ∀ other ∈ table.rows, m.isActivePrimary = true →
    other.isActivePrimary = true → m.userId = other.userId → m = other

/-- No disabled factor is primary. -/
def DisabledPlain (table : MfaTable) : Prop :=
  ∀ m ∈ table.rows, m.status = .DISABLED → m.isPrimary = false

/-- The factors are as the index and the resets leave them. -/
def Sound (s : AccountStore) : Prop := OnePrimary s.db.mfaMethods ∧ DisabledPlain s.db.mfaMethods

/-- Calls of any users, one at a time. -/
def mfaFactors : System AccountStore MfaStep where
  init s := Sound s
  step s step := some (step.operation.perform ⟨s, step.faults⟩)

-- ============================================================================
-- What a call does to the factors
-- ============================================================================

section Moves

variable {ctx : AccountContext} {userId : Uuid} {dto : VerifyEnrollmentDto} {factor m : MfaMethod}
  {table table' : MfaTable} {w w' : World AccountStore AccountError}

/-- What an enrolment or a reset does. -/
inductive MfaMove (table : MfaTable) : MfaTable → Prop where
  | same : MfaMove table table
  | enrolls {m : MfaMethod} {table' : MfaTable} (hpending : m.status = .PENDING)
      (hinsert : table.insert m = some table') : MfaMove table table'
  | resets (ctx : AccountContext) (userId : Uuid) :
      MfaMove table (table.update (MfaMethodRepository.disabled ctx userId)
        (MfaMethodRepository.disabled_id ctx userId))

theorem factorInTenant_mem {id : Uuid}
    (h : MfaMethodRepository.factorInTenant ctx table id = some factor) : factor ∈ table.rows :=
  List.mem_of_find?_eq_some h

theorem updateRow_activated (hmem : factor ∈ table.rows) :
    updateRow MfaMethod.conflicts table factor.id (fun m => some m.activated) =
      if table.rows.any factor.activated.conflicts = true then none
      else some (table.replace factor.activated) := by
  have hfind : table.rows.find? (fun m => m.id = factor.id) = some factor :=
    Keyed.find?_unique hmem (decide_eq_true rfl) fun m hm => of_decide_eq_true hm
  unfold updateRow
  rw [hfind]
  rfl

/-- The call is one that activates this factor, where nothing fails. -/
structure Accepts (ctx : AccountContext) (userId : Uuid) (dto : VerifyEnrollmentDto)
    (table : MfaTable) (factor : MfaMethod) : Prop where
  found : MfaMethodRepository.factorInTenant ctx table dto.factorId = some factor
  own : factor.userId = userId
  inactive : factor.status ≠ .ACTIVE
  code : dto.code = "123456"
  free : table.rows.any factor.activated.conflicts = false

instance (table : MfaTable) : Decidable (Accepts ctx userId dto table factor) :=
  decidable_of_iff (MfaMethodRepository.factorInTenant ctx table dto.factorId = some factor ∧
      factor.userId = userId ∧ factor.status ≠ .ACTIVE ∧ dto.code = "123456" ∧
      table.rows.any factor.activated.conflicts = false)
    ⟨fun ⟨hfound, hown, hinactive, hcode, hfree⟩ => ⟨hfound, hown, hinactive, hcode, hfree⟩,
      fun h => ⟨h.found, h.own, h.inactive, h.code, h.free⟩⟩

/-- The first calls go through. -/
def Goes (w : World AccountStore AccountError) (n : Nat) : Prop := ∀ i < n, ¬Faulty.ThrowsAt w i

instance (w : World AccountStore AccountError) (n : Nat) : Decidable (Goes w n) :=
  inferInstanceAs (Decidable (∀ i < n, ¬Faulty.ThrowsAt w i))

theorem readDb_runs {α : Type} {f : AccountDatabase → α} (h : ¬Faulty.ThrowsAt w 0) :
    readDb f w = (.ok (f w.state.db), Faulty.afterCall w w.state) := by
  unfold readDb Faulty.read
  exact Faulty.call_runs h rfl

theorem writeDb_runs {f : AccountDatabase → Option AccountDatabase} {db : AccountDatabase}
    (h : ¬Faulty.ThrowsAt w 0) (hf : f w.state.db = some db) :
    writeDb f w = (.ok (), Faulty.afterCall w { w.state with db := db }) :=
  Faulty.call_runs h (by rw [hf])

theorem readDb_goes {α : Type} {f : AccountDatabase → α} {a : α} (h : readDb f w = (.ok a, w')) :
    ¬Faulty.ThrowsAt w 0 := by
  unfold readDb Faulty.read at h
  exact Faulty.not_throwsAt_of_ok h

theorem writeDb_goes {f : AccountDatabase → Option AccountDatabase} {u : Unit}
    (h : writeDb f w = (.ok u, w')) :
    ¬Faulty.ThrowsAt w 0 ∧ ∀ i, Faulty.ThrowsAt w' i ↔ Faulty.ThrowsAt w (i + 1) := by
  unfold writeDb at h
  exact ⟨Faulty.not_throwsAt_of_ok h, fun i => Faulty.call_throwsAt h⟩

theorem verifyAndActivateFactor_runs (h : Accepts ctx userId dto w.state.db.mfaMethods factor)
    (hgoes : Goes w 3) :
    (MfaApplicationService.verifyAndActivateFactor ctx userId dto w).2.state.db.mfaMethods =
      w.state.db.mfaMethods.replace factor.activated := by
  have hfind : required (MfaMethodRepository.findById ctx dto.factorId) w =
      (.ok factor, Faulty.afterCall w w.state) := by
    refine required_ok.mpr ((readDb_runs (hgoes 0 (by decide))).trans ?_)
    rw [h.found]
  have hupdate : MfaMethodRepository.update factor.id MfaMethod.activated
      (Faulty.afterCall w w.state) =
        (.ok (), Faulty.afterCall (Faulty.afterCall w w.state)
          { w.state with db := { w.state.db with
              mfaMethods := w.state.db.mfaMethods.replace factor.activated } }) := by
    refine writeDb_runs (mt Faulty.throwsAt_afterCall.mp (hgoes 1 (by decide))) ?_
    show (updateRow _ w.state.db.mfaMethods _ _).map _ = _
    rw [updateRow_activated (factorInTenant_mem h.found), if_neg (by simp [h.free])]
    rfl
  have hlog : ∃ w', SecurityEventService.log ctx.tenantCode (some userId)
      "authentication.mfa-enrolled" (Faulty.afterCall (Faulty.afterCall w w.state)
        { w.state with db := { w.state.db with
            mfaMethods := w.state.db.mfaMethods.replace factor.activated } }) = (.ok (), w') ∧
      w'.state.db.mfaMethods = w.state.db.mfaMethods.replace factor.activated := by
    refine ⟨_, writeDb_runs ?_ rfl, rfl⟩
    exact mt Faulty.throwsAt_afterCall.mp (mt Faulty.throwsAt_afterCall.mp (hgoes 2 (by decide)))
  obtain ⟨w', hlog, htable⟩ := hlog
  have htransaction : runInTransaction (do
      MfaMethodRepository.update factor.id MfaMethod.activated
      SecurityEventService.log ctx.tenantCode (some userId) "authentication.mfa-enrolled")
        (Faulty.afterCall w w.state) = (.ok (), w') :=
    runInTransaction_ok.mpr ((Faulty.bind_runs hupdate).trans hlog)
  have hclock : clock (Faulty.afterCall w w.state) =
      (.ok w.state.now, Faulty.afterCall w w.state) := rfl
  rw [MfaApplicationService.verifyAndActivateFactor, Faulty.bind_runs hfind,
    if_neg (not_not_intro h.own), if_neg h.inactive, if_neg (not_not_intro h.code),
    MfaApplicationService.activateFactor, Faulty.bind_runs hclock, Faulty.bind_runs htransaction]
  exact htable

def factorsOf (s : AccountStore) : MfaTable := s.db.mfaMethods

theorem activateFactor_cases (ctx : AccountContext) (userId : Uuid)
    (hmem : factor ∈ w.state.db.mfaMethods.rows) :
    (MfaApplicationService.activateFactor ctx userId factor w).2.state.db.mfaMethods =
        w.state.db.mfaMethods ∨
      w.state.db.mfaMethods.rows.any factor.activated.conflicts = false ∧ Goes w 2 ∧
        (MfaApplicationService.activateFactor ctx userId factor w).2.state.db.mfaMethods =
          w.state.db.mfaMethods.replace factor.activated := by
  rcases hrun : MfaApplicationService.activateFactor ctx userId factor w with ⟨r, w'⟩
  rcases Faulty.bind_cases hrun with ⟨e, hclock, -⟩ | ⟨now, w₁, hclock, hrest⟩
  · cases hclock
  obtain ⟨rfl, rfl⟩ := clock_ok hclock
  rcases Faulty.bind_cases hrest with ⟨e, htransaction, -⟩ | ⟨u, w₂, htransaction, hpure⟩
  · exact .inl (congrArg AccountDatabase.mfaMethods (runInTransaction_error htransaction))
  obtain ⟨u₁, w₃, hupdate, hlog⟩ := Faulty.bind_ok.mp (runInTransaction_ok.mp htransaction)
  obtain ⟨db, hdb, hstate⟩ := writeDb_ok hupdate
  obtain ⟨db', hdb', hstate'⟩ := writeDb_ok hlog
  cases hdb'
  obtain ⟨table, htable, rfl⟩ := Option.map_eq_some_iff.mp hdb
  rw [updateRow_activated hmem] at htable
  split at htable
  · cases htable
  next hfree =>
    cases htable
    refine .inr ⟨Bool.eq_false_of_not_eq_true hfree, fun i hi => ?_, ?_⟩
    · obtain ⟨hfirst, hnext⟩ := writeDb_goes hupdate
      cases i with
      | zero => exact hfirst
      | succ i =>
        obtain rfl : i = 0 := by omega
        exact mt (hnext 0).mpr (writeDb_goes hlog).1
    · cases hpure
      rw [hstate', hstate]

/-- The call has activated a factor that it found, or has left them alone. -/
theorem verifyAndActivateFactor_cases (ctx : AccountContext) (userId : Uuid)
    (dto : VerifyEnrollmentDto) (w : World AccountStore AccountError) :
    (MfaApplicationService.verifyAndActivateFactor ctx userId dto w).2.state.db.mfaMethods =
        w.state.db.mfaMethods ∨
      ∃ factor, Accepts ctx userId dto w.state.db.mfaMethods factor ∧ Goes w 3 ∧
        (MfaApplicationService.verifyAndActivateFactor ctx userId dto w).2.state.db.mfaMethods =
          w.state.db.mfaMethods.replace factor.activated := by
  rcases hrun : MfaApplicationService.verifyAndActivateFactor ctx userId dto w with ⟨r, w'⟩
  rcases Faulty.bind_cases hrun with ⟨e, hfind, -⟩ | ⟨factor, w₁, hfind, hrest⟩
  · have hleaves : Faulty.Leaves factorsOf
        (required (MfaMethodRepository.findById ctx dto.factorId)) := required_leaves
    exact .inl (hleaves.ok hfind)
  have hread := required_ok.mp hfind
  obtain ⟨hfound, hstate⟩ := readDb_ok hread
  split at hrest
  · cases hrest
    exact .inl (by rw [hstate])
  next hown =>
  split at hrest
  · cases hrest
    exact .inl (by rw [hstate])
  next hinactive =>
  split at hrest
  · cases hrest
    exact .inl (by rw [hstate])
  next hcode =>
  have hmem : factor ∈ w₁.state.db.mfaMethods.rows := by
    rw [hstate]
    exact factorInTenant_mem hfound.symm
  have hresult : (MfaApplicationService.activateFactor ctx userId factor w₁).2 = w' :=
    congrArg Prod.snd hrest
  rcases activateFactor_cases ctx userId hmem with hsame | ⟨hfree, hgoes, hactivated⟩
  · rw [hresult, hstate] at hsame
    exact .inl hsame
  · rw [hresult, hstate] at hactivated
    rw [hstate] at hfree
    refine .inr ⟨factor, ⟨hfound.symm, not_not.mp hown, hinactive, not_not.mp hcode, hfree⟩,
      fun i hi => ?_, hactivated⟩
    cases i with
    | zero => exact readDb_goes hread
    | succ i => exact mt (readDb_throwsAt hread).mpr (hgoes i (by omega))

theorem create_move {u : Unit} (hpending : m.status = .PENDING)
    (h : MfaMethodRepository.create m w = (.ok u, w')) :
    MfaMove w.state.db.mfaMethods w'.state.db.mfaMethods := by
  obtain ⟨db, hdb, hstate⟩ := writeDb_ok h
  rw [hstate]
  split at hdb
  · obtain ⟨table, hinsert, rfl⟩ := Option.map_eq_some_iff.mp hdb
    unfold insertRow at hinsert
    split at hinsert
    · cases hinsert
    · exact .enrolls hpending hinsert
  · cases hdb

theorem MfaMove.of_same (h : table' = table) : MfaMove table table' := by
  rw [h]
  exact .same

/-- An enrolment adds a factor that is PENDING, if it adds one. -/
theorem initiateEnrollment_move (ctx : AccountContext) (userId factorId : Uuid)
    (factorType : MfaFactorType) (w : World AccountStore AccountError) :
    MfaMove w.state.db.mfaMethods (MfaApplicationService.initiateEnrollment ctx userId factorId
      factorType w).2.state.db.mfaMethods := by
  rcases hrun : MfaApplicationService.initiateEnrollment ctx userId factorId factorType w
    with ⟨r, w'⟩
  have hfinds : Faulty.Leaves factorsOf (MfaMethodRepository.findActivePrimary ctx userId) :=
    Faulty.leaves_read _
  have hencrypts : Faulty.Leaves factorsOf
      (.read fun _ => MfaApplicationService.secret : AccountService String) := Faulty.leaves_read _
  rcases Faulty.bind_cases hrun with ⟨e, hfind, -⟩ | ⟨found, w₁, hfind, hrest⟩
  · exact .of_same (hfinds.ok hfind)
  have hfirst : w₁.state.db.mfaMethods = w.state.db.mfaMethods := hfinds.ok hfind
  cases found with
  | some m =>
    cases hrest
    exact .of_same hfirst
  | none =>
    rcases Faulty.bind_cases hrest with ⟨e, hencrypt, -⟩ | ⟨encrypted, w₂, hencrypt, hcreates⟩
    · exact .of_same ((hencrypts.ok hencrypt).trans hfirst)
    have hsecond : w₂.state.db.mfaMethods = w.state.db.mfaMethods :=
      (hencrypts.ok hencrypt).trans hfirst
    rcases Faulty.bind_cases hcreates with ⟨e, hcreate, -⟩ | ⟨u, w₃, hcreate, hpure⟩
    · have hstate : w'.state = w₂.state := writeDb_error hcreate
      exact .of_same ((congrArg factorsOf hstate).trans hsecond)
    · cases hpure
      rw [← hsecond]
      exact create_move rfl hcreate

theorem increment_factors {condition : UserRow → Bool} :
    Faulty.Leaves factorsOf (UserRepository.increment condition) := by
  refine Faulty.leaves_call fun s n s' hcall => ?_
  rcases hfind : s.db.users.rows.find? condition with _ | user
  · rw [hfind] at hcall
    cases hcall
    rfl
  · rw [hfind] at hcall
    rcases hincremented : UserRepository.incremented user with _ | user'
    · simp only [hincremented] at hcall
      cases hcall
    · simp only [hincremented] at hcall
      cases hcall
      rfl

theorem log_factors {tenantCode eventType : String} {userId : Option Uuid} :
    Faulty.Leaves factorsOf (SecurityEventService.log tenantCode userId eventType) :=
  writeDb_leaves fun _ _ h => by cases h; rfl

theorem revokeSessions_factors :
    Faulty.Leaves factorsOf (MfaAdminApplicationService.revokeSessions ctx userId) := by
  have hwrites : ∀ f, Faulty.Leaves factorsOf (writeRedis f) := fun _ =>
    Faulty.leaves_write fun _ => rfl
  refine (Faulty.leaves_read _).bind fun sessionIds => ?_
  refine (Faulty.leaves_when ?_).bind fun _ => Faulty.leaves_pure _
  exact (Faulty.leaves_forEach (fun _ => hwrites _) sessionIds).bind fun _ => hwrites _

/-- A reset disables, or changes nothing. -/
theorem resetUserMfa_move (ctx : AccountContext) (userId : Uuid)
    (w : World AccountStore AccountError) :
    MfaMove w.state.db.mfaMethods
      (MfaAdminApplicationService.resetUserMfa ctx userId w).2.state.db.mfaMethods := by
  rcases hrun : MfaAdminApplicationService.resetUserMfa ctx userId w with ⟨e | n, w'⟩
  · exact .of_same (congrArg AccountDatabase.mfaMethods (runInTransaction_error hrun))
  obtain ⟨u, w₁, hdisable, hrest⟩ := Faulty.bind_ok.mp (runInTransaction_ok.mp hrun)
  have hleaves : Faulty.Leaves factorsOf (do
      let rowAffected ← UserRepository.incrementSecurityVersionById ctx userId
      if rowAffected = 0 then
        .throw (httpError "NotFoundException" "Target user not found in admin tenant context" 404)
      else do
        SecurityEventService.log ctx.tenantCode (some userId) "authentication.mfa-reset"
        if ctx.redisClient = true then MfaAdminApplicationService.revokeSessions ctx userId
        else pure 0) := by
    refine Faulty.Leaves.bind ?_ fun rowAffected => ?_
    · exact increment_factors
    · split
      · exact Faulty.leaves_throw _
      · refine Faulty.Leaves.bind log_factors fun _ => ?_
        split
        · exact revokeSessions_factors
        · exact Faulty.leaves_pure _
  obtain ⟨db, hdb, hstate⟩ := writeDb_ok hdisable
  cases hdb
  have hafter : w'.state.db.mfaMethods = w₁.state.db.mfaMethods := hleaves.ok hrest
  rw [hafter, hstate]
  exact .resets ctx userId

end Moves

-- ============================================================================
-- The life of a factor
-- ============================================================================

section Life

variable {table table' table'' : MfaTable} {factor m : MfaMethod}

/-- What is disabled is disabled afterwards, and not primary. -/
def Remains (table table' : MfaTable) : Prop :=
  ∀ m ∈ table.rows, m.status = .DISABLED →
    ∃ after ∈ table'.rows, after.id = m.id ∧ after.status = .DISABLED ∧ after.isPrimary = false

/-- What becomes ACTIVE was PENDING. -/
def FromPending (table table' : MfaTable) : Prop :=
  ∀ m ∈ table'.rows, m.status = .ACTIVE →
    ∃ before ∈ table.rows, before.id = m.id ∧
      (before.status = .ACTIVE ∨ before.status = .PENDING)

structure LifeCycle (table table' : MfaTable) : Prop where
  onePrimary : OnePrimary table'
  fromPending : FromPending table table'
  remains : Remains table table'

theorem MfaMethodRepository.disabled_cases (ctx : AccountContext) (userId : Uuid) (m : MfaMethod) :
    MfaMethodRepository.disabled ctx userId m = m ∨
      (MfaMethodRepository.disabled ctx userId m).status = .DISABLED ∧
        (MfaMethodRepository.disabled ctx userId m).isPrimary = false := by
  unfold MfaMethodRepository.disabled
  split
  · exact .inr ⟨rfl, rfl⟩
  · exact .inl rfl

theorem MfaMethod.active_of_isActivePrimary (h : m.isActivePrimary = true) :
    m.status = .ACTIVE := by
  rw [MfaMethod.isActivePrimary, Bool.and_eq_true, decide_eq_true_eq] at h
  exact h.2

theorem Remains.refl (hplain : DisabledPlain table) : Remains table table :=
  fun m hm hdisabled => ⟨m, hm, rfl, hdisabled, hplain m hm hdisabled⟩

/-- An enrolment or a reset keeps what the index and the resets have brought about. -/
theorem MfaMove.keeps (hmove : MfaMove table table') (hone : OnePrimary table)
    (hplain : DisabledPlain table) : LifeCycle table table' ∧ DisabledPlain table' := by
  cases hmove with
  | same =>
    exact ⟨⟨hone, fun m hm hactive => ⟨m, hm, rfl, .inl hactive⟩, .refl hplain⟩, hplain⟩
  | @enrolls m table' hpending hinsert =>
    have hrows : ∀ other, other ∈ table'.rows ↔ other ∈ table.rows ∨ other = m := fun other => by
      rw [Keyed.insert_rows hinsert, List.mem_append, List.mem_singleton]
    have hold : ∀ other ∈ table'.rows, other.status ≠ .PENDING → other ∈ table.rows := by
      intro other hother hnot
      rcases (hrows other).mp hother with hother | rfl
      · exact hother
      · exact absurd hpending hnot
    have hactive : ∀ other ∈ table'.rows, other.isActivePrimary = true → other ∈ table.rows := by
      intro other hother hprimary
      refine hold other hother ?_
      rw [MfaMethod.active_of_isActivePrimary hprimary]
      exact nofun
    refine ⟨⟨fun one hone' other hother hprimary hprimary' => ?_, fun other hother hactive' => ?_,
      fun other hother hdisabled => ?_⟩, fun other hother hdisabled => ?_⟩
    · exact hone one (hactive one hone' hprimary) other (hactive other hother hprimary')
        hprimary hprimary'
    · exact ⟨other, hold other hother (by rw [hactive']; exact nofun), rfl, .inl hactive'⟩
    · exact ⟨other, (hrows other).mpr (.inl hother), rfl, hdisabled, hplain other hother hdisabled⟩
    · exact hplain other (hold other hother (by rw [hdisabled]; exact nofun)) hdisabled
  | resets ctx userId =>
    have hrows : ∀ other, other ∈ (table.update (MfaMethodRepository.disabled ctx userId)
        (MfaMethodRepository.disabled_id ctx userId)).rows →
          other ∈ table.rows ∨ (other.status = .DISABLED ∧ other.isPrimary = false) := by
      intro other hother
      obtain ⟨m, hm, rfl⟩ := List.mem_map.mp hother
      rcases MfaMethodRepository.disabled_cases ctx userId m with hsame | hdisabled
      · rw [hsame]
        exact .inl hm
      · exact .inr hdisabled
    have hold : ∀ other ∈ (table.update (MfaMethodRepository.disabled ctx userId)
        (MfaMethodRepository.disabled_id ctx userId)).rows, other.status = .ACTIVE →
          other ∈ table.rows := by
      intro other hother hactive
      rcases hrows other hother with hother | ⟨hdisabled, -⟩
      · exact hother
      · rw [hdisabled] at hactive
        cases hactive
    refine ⟨⟨fun one hone' other hother hprimary hprimary' => ?_, fun other hother hactive => ?_,
      fun m hm hdisabled => ?_⟩, fun other hother hdisabled => ?_⟩
    · exact hone one (hold one hone' (MfaMethod.active_of_isActivePrimary hprimary)) other
        (hold other hother (MfaMethod.active_of_isActivePrimary hprimary')) hprimary hprimary'
    · exact ⟨other, hold other hother hactive, rfl, .inl hactive⟩
    · refine ⟨MfaMethodRepository.disabled ctx userId m, List.mem_map_of_mem hm,
        MfaMethodRepository.disabled_id ctx userId m, ?_⟩
      rcases MfaMethodRepository.disabled_cases ctx userId m with hsame | hreset
      · rw [hsame]
        exact ⟨hdisabled, hplain m hm hdisabled⟩
      · exact hreset
    · rcases hrows other hother with hother | ⟨-, hplain'⟩
      · exact hplain other hother hdisabled
      · exact hplain'

theorem mem_activated (hmem : factor ∈ table.rows) :
    m ∈ (table.replace factor.activated).rows ↔
      m = factor.activated ∨ (m ∈ table.rows ∧ m.id ≠ factor.id) := by
  have hkey : factor.id ∈ table.rows.map MfaMethod.id := List.mem_map_of_mem hmem
  exact Keyed.mem_replace hkey

/-- An activation is right unless the factor was disabled. -/
theorem lifeCycle_activated_iff (hone : OnePrimary table) (hplain : DisabledPlain table)
    (hmem : factor ∈ table.rows) (hinactive : factor.status ≠ .ACTIVE)
    (hfree : table.rows.any factor.activated.conflicts = false) :
    LifeCycle table (table.replace factor.activated) ↔ factor.status ≠ .DISABLED := by
  have hprimary : factor.activated.isActivePrimary = true := by
    simp [MfaMethod.isActivePrimary, MfaMethod.activated]
  -- the unique index keeps any other primary factor of the user away
  have halone : ∀ other ∈ table.rows, other.id ≠ factor.id → other.isActivePrimary = true →
      other.userId ≠ factor.userId := by
    intro other hother hid hprimary' huser
    have hconflicts := List.any_eq_false.mp hfree other hother
    simp only [MfaMethod.conflicts, hprimary, hprimary', Bool.and_true, Bool.and_eq_true,
      decide_eq_true_eq, ne_eq, not_and] at hconflicts
    exact hconflicts hid huser
  constructor
  · intro hlife hdisabled
    obtain ⟨after, hafter, hid, hstill, -⟩ := hlife.remains factor hmem hdisabled
    rcases (mem_activated hmem).mp hafter with rfl | ⟨-, hne⟩
    · cases hstill
    · exact hne hid
  · intro hnot
    refine ⟨fun one hone' other hother hprimary' hprimary'' huser => ?_,
      fun other hother hactive => ?_, fun m hm hdisabled => ?_⟩
    · rcases (mem_activated hmem).mp hone' with rfl | ⟨hone', hne⟩
      · rcases (mem_activated hmem).mp hother with rfl | ⟨hother, hne⟩
        · rfl
        · exact absurd huser.symm (halone other hother hne hprimary'')
      · rcases (mem_activated hmem).mp hother with rfl | ⟨hother, -⟩
        · exact absurd huser (halone one hone' hne hprimary')
        · exact hone one hone' other hother hprimary' hprimary'' huser
    · rcases (mem_activated hmem).mp hother with rfl | ⟨hother, -⟩
      · refine ⟨factor, hmem, rfl, ?_⟩
        cases hstatus : factor.status with
        | PENDING => exact .inr rfl
        | ACTIVE => exact absurd hstatus hinactive
        | DISABLED => exact absurd hstatus hnot
      · exact ⟨other, hother, rfl, .inl hactive⟩
    · refine ⟨m, (mem_activated hmem).mpr (.inr ⟨hm, fun hid => ?_⟩), rfl, hdisabled,
        hplain m hm hdisabled⟩
      rw [table.row_unique hm hmem hid] at hdisabled
      exact hnot hdisabled

theorem DisabledPlain.activated (hplain : DisabledPlain table) (hmem : factor ∈ table.rows) :
    DisabledPlain (table.replace factor.activated) := by
  intro m hm hdisabled
  rcases (mem_activated hmem).mp hm with rfl | ⟨hm, -⟩
  · cases hdisabled
  · exact hplain m hm hdisabled

end Life

-- ============================================================================
-- Every run
-- ============================================================================

/-- The call activates a factor that was disabled. -/
def Revives (s : AccountStore) (step : MfaStep) : Prop :=
  match step.operation with
  | .verifyAndActivateFactor ctx userId dto =>
    ∃ factor ∈ s.db.mfaMethods.rows, Accepts ctx userId dto s.db.mfaMethods factor ∧
      factor.status = .DISABLED ∧ Goes ⟨s, step.faults⟩ 3
  | _ => False

instance (s : AccountStore) : (step : MfaStep) → Decidable (Revives s step)
  | ⟨.verifyAndActivateFactor ctx userId dto, faults⟩ =>
    inferInstanceAs (Decidable (∃ factor ∈ s.db.mfaMethods.rows,
      Accepts ctx userId dto s.db.mfaMethods factor ∧ factor.status = .DISABLED ∧
        Goes ⟨s, faults⟩ 3))
  | ⟨.initiateEnrollment _ _ _ _, _⟩ => .isFalse id
  | ⟨.resetUserMfa _ _, _⟩ => .isFalse id

section Runs

variable {s t : AccountStore} {step : MfaStep}

/-- What a call keeps, unless it brings a disabled factor back. -/
theorem step_lifeCycle_iff (hone : OnePrimary s.db.mfaMethods)
    (hplain : DisabledPlain s.db.mfaMethods) (h : mfaFactors.step s step = some t) :
    (LifeCycle s.db.mfaMethods t.db.mfaMethods ↔ ¬Revives s step) ∧
      DisabledPlain t.db.mfaMethods := by
  obtain ⟨operation, faults⟩ := step
  obtain rfl := Option.some.inj h
  cases operation with
  | initiateEnrollment ctx userId factorId factorType =>
    obtain ⟨hlife, hplain'⟩ :=
      (initiateEnrollment_move ctx userId factorId factorType ⟨s, faults⟩).keeps hone hplain
    exact ⟨iff_of_true hlife id, hplain'⟩
  | resetUserMfa ctx targetUserId =>
    obtain ⟨hlife, hplain'⟩ := (resetUserMfa_move ctx targetUserId ⟨s, faults⟩).keeps hone hplain
    exact ⟨iff_of_true hlife id, hplain'⟩
  | verifyAndActivateFactor ctx userId dto =>
    -- what the call leaves, if it activates a factor
    have hactivated : ∀ factor, Accepts ctx userId dto s.db.mfaMethods factor →
        (MfaOperation.perform ⟨s, faults⟩ (.verifyAndActivateFactor ctx userId dto)).db.mfaMethods =
          s.db.mfaMethods.replace factor.activated →
        (LifeCycle s.db.mfaMethods (MfaOperation.perform ⟨s, faults⟩
            (.verifyAndActivateFactor ctx userId dto)).db.mfaMethods ↔
          factor.status ≠ .DISABLED) ∧
        DisabledPlain (MfaOperation.perform ⟨s, faults⟩
          (.verifyAndActivateFactor ctx userId dto)).db.mfaMethods := by
      intro factor haccepts htable
      have hmem := factorInTenant_mem haccepts.found
      rw [htable]
      exact ⟨lifeCycle_activated_iff hone hplain hmem haccepts.inactive haccepts.free,
        hplain.activated hmem⟩
    by_cases hrevives : Revives s ⟨.verifyAndActivateFactor ctx userId dto, faults⟩
    · obtain ⟨factor, -, haccepts, hdisabled, hgoes⟩ := hrevives
      obtain ⟨hiff, hplain'⟩ :=
        hactivated factor haccepts (verifyAndActivateFactor_runs haccepts hgoes)
      refine ⟨iff_of_false (fun hlife => hiff.mp hlife hdisabled) fun hnot => hnot ?_, hplain'⟩
      exact ⟨factor, factorInTenant_mem haccepts.found, haccepts, hdisabled, hgoes⟩
    · rcases verifyAndActivateFactor_cases ctx userId dto ⟨s, faults⟩
        with hsame | ⟨factor, haccepts, hgoes, htable⟩
      · obtain ⟨hlife, hplain'⟩ := (MfaMove.of_same hsame).keeps hone hplain
        exact ⟨iff_of_true hlife hrevives, hplain'⟩
      · obtain ⟨hiff, hplain'⟩ := hactivated factor haccepts htable
        refine ⟨iff_of_true (hiff.mpr fun hdisabled => hrevives ?_) hrevives, hplain'⟩
        exact ⟨factor, factorInTenant_mem haccepts.found, haccepts, hdisabled, hgoes⟩

/-- One ACTIVE primary factor per user at most, ACTIVE only from PENDING, and disabled for
    good. -/
structure Lives (start : AccountStore) (steps : List MfaStep) (t : AccountStore) : Prop where
  onePrimary : OnePrimary t.db.mfaMethods
  each : mfaFactors.Along (fun s _ t => LifeCycle s.db.mfaMethods t.db.mfaMethods) start steps
  forever : ∀ past later s, steps = past ++ later → mfaFactors.execute start past = some s →
    Remains s.db.mfaMethods t.db.mfaMethods

/-- The calls of a run, where none brings a disabled factor back. -/
def NoneRevives (start : AccountStore) (steps : List MfaStep) : Prop :=
  mfaFactors.Along (fun s step _ => ¬Revives s step) start steps

variable {start : AccountStore} {steps : List MfaStep}

theorem sound_step (hs : Sound s) (h : mfaFactors.step s step = some t) (hnot : ¬Revives s step) :
    Sound t := by
  obtain ⟨hiff, hplain⟩ := step_lifeCycle_iff hs.1 hs.2 h
  exact ⟨(hiff.mpr hnot).onePrimary, hplain⟩

theorem remains_of_noneRevives (hs : Sound start) (h : mfaFactors.execute start steps = some t)
    (hnone : NoneRevives start steps) : Remains start.db.mfaMethods t.db.mfaMethods := by
  let R (s t : AccountStore) : Prop := DisabledPlain s.db.mfaMethods →
    Remains s.db.mfaMethods t.db.mfaMethods ∧ DisabledPlain t.db.mfaMethods
  have hsteps : mfaFactors.Along (fun s _ t => R s t) start steps := by
    refine System.Along.imp (fun s step t hs hst hnot _ => ?_)
      (fun s step t hs hst hnot => sound_step hs hst hnot) hs hnone
    obtain ⟨hiff, hplain⟩ := step_lifeCycle_iff hs.1 hs.2 hst
    exact ⟨(hiff.mpr hnot).remains, hplain⟩
  have htrans : ∀ s t u, R s t → R t u → R s u := by
    intro s t u hst htu hplain
    obtain ⟨hfirst, hmiddle⟩ := hst hplain
    obtain ⟨hsecond, hlast⟩ := htu hmiddle
    refine ⟨fun m hm hdisabled => ?_, hlast⟩
    obtain ⟨m', hm', hid, hdisabled', -⟩ := hfirst m hm hdisabled
    obtain ⟨after, hafter, hid', hstatus, hprimary⟩ := hsecond m' hm' hdisabled'
    exact ⟨after, hafter, hid'.trans hid, hstatus, hprimary⟩
  exact (System.Along.relates (fun s hplain => ⟨.refl hplain, hplain⟩) htrans h hsteps hs.2).1

/-- The factors live as they should along a run exactly where no call of it activates a
    factor that was disabled. -/
theorem lives_iff (hstart : mfaFactors.init start)
    (hrun : mfaFactors.execute start steps = some t) :
    Lives start steps t ↔ NoneRevives start steps := by
  have hsteps : mfaFactors.Along (fun s _ t => LifeCycle s.db.mfaMethods t.db.mfaMethods)
      start steps ↔ NoneRevives start steps :=
    System.along_iff (I := Sound) (fun s step t hs hst => (step_lifeCycle_iff hs.1 hs.2 hst).1)
      (fun s step t hs hst hnot => sound_step hs hst hnot) hstart hrun
  refine ⟨fun h => hsteps.mp h.each, fun hnone => ?_⟩
  refine ⟨?_, hsteps.mpr hnone, fun past later s hsplit hpast => ?_⟩
  · exact (System.Along.invariant (I := Sound)
      (fun s step t hs hst hnot => sound_step hs hst hnot) hstart hrun hnone).1
  · subst hsplit
    obtain ⟨hbefore, hafter⟩ := (System.along_append hpast).mp hnone
    obtain ⟨s', hpast', hlater⟩ := System.execute_append.mp hrun
    obtain rfl := Option.some.inj (hpast.symm.trans hpast')
    have hs : Sound s := System.Along.invariant (I := Sound)
      (fun s step t hs hst hnot => sound_step hs hst hnot) hstart hpast hbefore
    exact remains_of_noneRevives hs hlater hafter

end Runs

-- ============================================================================
-- A factor that comes back
-- ============================================================================

/-- Enrolled, activated, and disabled by a reset. -/
def enrolledAndReset : List MfaStep :=
  [⟨.initiateEnrollment acmeAccounts Persistence.sampleUserId Persistence.sampleRoleId .TOTP, []⟩,
    ⟨.verifyAndActivateFactor acmeAccounts Persistence.sampleUserId
      ⟨Persistence.sampleRoleId, .TOTP, "123456"⟩, []⟩,
    ⟨.resetUserMfa acmeAccounts Persistence.sampleUserId, []⟩]

/-- The factor is verified once more. -/
def verifiedAgain : MfaStep :=
  ⟨.verifyAndActivateFactor acmeAccounts Persistence.sampleUserId
    ⟨Persistence.sampleRoleId, .TOTP, "123456"⟩, []⟩

theorem sampleAccountStore_sound : Sound sampleAccountStore :=
  ⟨fun _ hm => absurd hm List.not_mem_nil, fun _ hm => absurd hm List.not_mem_nil⟩

/-- The statuses of the factors. -/
def factorStatuses (s : AccountStore) : List (MfaFactorStatus × Bool) :=
  s.db.mfaMethods.rows.map fun m => (m.status, m.isPrimary)

theorem lives_iff_sample : ∃ t,
    mfaFactors.execute sampleAccountStore enrolledAndReset = some t ∧
      factorStatuses t = [(.DISABLED, false)] ∧ Lives sampleAccountStore enrolledAndReset t := by
  obtain ⟨t, hrun, hstatuses⟩ := Option.map_eq_some_iff.mp
    (show (mfaFactors.execute sampleAccountStore enrolledAndReset).map factorStatuses =
      some [(.DISABLED, false)] from by decide +kernel)
  refine ⟨t, hrun, hstatuses, (lives_iff sampleAccountStore_sound hrun).mpr ?_⟩
  unfold NoneRevives
  decide +kernel

/-- What a reset has disabled is ACTIVE and primary again. -/
theorem not_lives : ∃ t,
    mfaFactors.execute sampleAccountStore (enrolledAndReset ++ [verifiedAgain]) = some t ∧
      factorStatuses t = [(.ACTIVE, true)] ∧
      ¬Lives sampleAccountStore (enrolledAndReset ++ [verifiedAgain]) t := by
  obtain ⟨t, hrun, hstatuses⟩ := Option.map_eq_some_iff.mp
    (show (mfaFactors.execute sampleAccountStore (enrolledAndReset ++ [verifiedAgain])).map
      factorStatuses = some [(.ACTIVE, true)] from by decide +kernel)
  refine ⟨t, hrun, hstatuses, fun hlives => ?_⟩
  obtain ⟨s, hpast, hdisabled⟩ := Option.map_eq_some_iff.mp
    (show (mfaFactors.execute sampleAccountStore enrolledAndReset).map
      factorStatuses = some [(.DISABLED, false)] from by decide +kernel)
  have hmem : (MfaFactorStatus.DISABLED, false) ∈ factorStatuses s := by
    rw [hdisabled]
    exact List.mem_singleton_self _
  obtain ⟨m, hm, hm'⟩ := List.mem_map.mp hmem
  obtain ⟨after, hafter, -, hstatus, -⟩ :=
    hlives.forever enrolledAndReset [verifiedAgain] s rfl hpast m hm (Prod.mk.inj hm').1
  have hactive : (after.status, after.isPrimary) ∈ factorStatuses t := List.mem_map_of_mem hafter
  rw [hstatuses, hstatus] at hactive
  simp at hactive

end AccessService.Accounts
