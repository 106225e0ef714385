/-
  AccessService.Accounts.ConcurrentInvitations

  The transactions that touch invitations: `acceptInvitation`, `resendInvitation`,
  `setupPasswordViaSsoFallback` and `synchronizeEmployeeStatus`, interleaved statement by
  statement.  What their statements about other tables find is left open, but for the locks
  on users.  By itself, an acceptance does what `acceptInvitation` does
  (`acceptInvitation_alone`).

  No token is accepted twice, or after it has been closed, and nothing opens an invitation
  again (`invitation_used_once`); but the expiry is looked at when the invitation is read, and
  the acceptance may be written after it (`accepted_after_expiry`).
-/

import AccessService.Accounts.AccountEffects
import AccessService.Lib.RowLocks

namespace AccessService.Accounts

open AccessService.Lib AccessService.Lib.RowLocks AccessService.Lib.Transition
open AccessService.Authorization (Timestamp)
open AccessService.Pg AccessService.Persistence

-- ============================================================================
-- Programs
-- ============================================================================

/-- What an acceptance that commits was for, and when the expiry was looked at. -/
structure Acceptance where
  invitationId : Uuid
  checkedAt : Timestamp
  deriving DecidableEq

/-- The rows are invitations, and the other locks are on users. -/
abbrev InvitationProgram : Type := Program Invitation Uuid Uuid (Option Acceptance)

/-- Statements about other tables that may throw. -/
def attempt (next : InvitationProgram) : InvitationProgram :=
  .ask fun succeeds => if succeeds then next else .rollback

namespace InvitationApplicationService

def accepted (acceptedAt : Timestamp) (invitation : Invitation) : Invitation :=
  { invitation with status := .ACCEPTED, acceptedAt := some acceptedAt }

/-- The user is locked, the password hashed and the credential written; after the invitation
    come the user, the event and the session store. -/
def acceptLiveProgram (invitation : Invitation) (checkedAt : Timestamp) : InvitationProgram :=
  .lockOther invitation.userId <|
  attempt <|
  .select fun _ acceptedAt =>
  .update invitation.id (accepted acceptedAt) <|
  attempt <|
  .commit (some ⟨invitation.id, checkedAt⟩)

def acceptProgram (tokenHash : String) : InvitationProgram :=
  .select fun invitations _ =>
    match invitations.find? fun invitation => invitation.tokenHash = tokenHash with
    | none => .rollback
    | some found =>
      .lock found.id fun
        | none => .rollback
        | some invitation =>
          if invitation.tokenHash = tokenHash then
            .select fun _ now =>
              if invitation.isExpired now then .rollback else acceptLiveProgram invitation now
          else .rollback

/-- `findPreviousByUser` among the rows that its SELECT has found: a row that has been closed
    while it waited is passed over. -/
def findPreviousProgram (userId : Uuid) (next : Option Invitation → InvitationProgram) :
    List Uuid → InvitationProgram
  | [] => next none
  | id :: ids =>
    .lock id fun
      | some invitation =>
        if invitation.userId = userId ∧ invitation.isOpen then next (some invitation)
        else findPreviousProgram userId next ids
      | none => findPreviousProgram userId next ids

/-- The new invitation, and the event about it. -/
def issueProgram (invitation : Timestamp → Invitation) : InvitationProgram :=
  .select fun _ now =>
  .insert (invitation now) <|
  attempt <|
  .commit none

def resent (ctx : AccountContext) (fresh : FreshInvitation) (userId : Uuid) (now : Timestamp) :
    Invitation where
  id := fresh.id
  tenantCode := ctx.tenantCode
  userId := userId
  status := .PENDING
  tokenHash := fresh.tokenHash
  expiresAt := now + invitationLifetime
  sentAt := some now

/-- The user is locked, and has no ACTIVE credential. -/
def resendProgram (ctx : AccountContext) (fresh : FreshInvitation) (targetUserId : Uuid) :
    InvitationProgram :=
  .lockOther targetUserId <|
  attempt <|
  .select fun invitations _ =>
    findPreviousProgram targetUserId
      (fun
        | none => issueProgram (resent ctx fresh targetUserId)
        | some previous =>
          .select fun _ now =>
          .update previous.id (InvitationRepository.revoked now) <|
          issueProgram (resent ctx fresh targetUserId))
      ((invitations.filter fun invitation =>
        invitation.userId = targetUserId && invitation.isOpen).map Invitation.id)

end InvitationApplicationService

namespace PasswordService

/-- `cancelPendingInvitations` over the rows that its UPDATE has found, each of them looked at
    again when it is locked. -/
def cancelProgram (ctx : AccountContext) (userId : Uuid) (now : Timestamp)
    (next : InvitationProgram) : List Uuid → InvitationProgram
  | [] => next
  | id :: ids =>
    .update id (InvitationRepository.cancelled ctx userId now)
      (cancelProgram ctx userId now next ids)

/-- Before come the credential and the UPDATE of the user, and an event. -/
def setUpProgram (ctx : AccountContext) (userId : Uuid) : InvitationProgram :=
  attempt <|
  .lockOther userId <|
  attempt <|
  .select fun invitations now =>
    cancelProgram ctx userId now (attempt (.commit none))
      ((invitations.filter fun invitation => invitation.userId = userId &&
        invitation.tenantCode = ctx.tenantCode && invitation.isOpen).map Invitation.id)

end PasswordService

namespace ProvisioningApplicationService

/-- `save` of a copy: the columns in which it differs from the row as it was loaded again are
    written. -/
def savedOver (copy loaded row : Invitation) : Invitation :=
  { row with
    tenantCode := if copy.tenantCode = loaded.tenantCode then row.tenantCode else copy.tenantCode
    userId := if copy.userId = loaded.userId then row.userId else copy.userId
    status := if copy.status = loaded.status then row.status else copy.status
    tokenHash := if copy.tokenHash = loaded.tokenHash then row.tokenHash else copy.tokenHash
    expiresAt := if copy.expiresAt = loaded.expiresAt then row.expiresAt else copy.expiresAt
    sentAt := if copy.sentAt = loaded.sentAt then row.sentAt else copy.sentAt
    acceptedAt := if copy.acceptedAt = loaded.acceptedAt then row.acceptedAt else copy.acceptedAt
    revokedAt := if copy.revokedAt = loaded.revokedAt then row.revokedAt else copy.revokedAt }

/-- `bulkSave`: a row that is not there any more would be inserted. -/
def saveProgram (loaded : List Invitation) (next : InvitationProgram) :
    List Invitation → InvitationProgram
  | [] => next
  | copy :: copies =>
    match loaded.find? fun invitation => invitation.id = copy.id with
    | none => .insert copy (saveProgram loaded next copies)
    | some invitation =>
      if copy = invitation then saveProgram loaded next copies
      else .update copy.id (savedOver copy invitation) (saveProgram loaded next copies)

/-- The PENDING invitations are read without a lock, and saved as copies. -/
def revokePendingProgram (ctx : AccountContext) (userId : Uuid) (next : InvitationProgram) :
    InvitationProgram :=
  .select fun invitations _ =>
  .select fun _ now =>
  .select fun loaded _ =>
    saveProgram loaded next
      ((invitations.filter fun invitation => invitation.tenantCode = ctx.tenantCode &&
        invitation.userId = userId && invitation.status = .PENDING).map
          (InvitationRepository.revoked now))

def invited (ctx : AccountContext) (fresh : FreshInvitation) (userId : Uuid) (now : Timestamp) :
    Invitation where
  id := fresh.id
  tenantCode := ctx.tenantCode
  userId := userId
  status := .PENDING
  tokenHash := fresh.tokenHash
  expiresAt := now + invitationLifetime

/-- An event may be stale, or about an employee without a user. -/
def synchronizeProgram (ctx : AccountContext) (fresh : FreshInvitation) (event : EmployeeEvent)
    (userId : Uuid) : InvitationProgram :=
  .ask fun linked =>
    if linked then
      match event with
      | .EMPLOYEE_SUSPENDED => .lockOther userId (attempt (.commit none))
      | .EMPLOYEE_TERMINATED =>
        .lockOther userId (attempt (revokePendingProgram ctx userId (attempt (.commit none))))
      | .EMPLOYEE_REACTIVATED =>
        .lockOther userId (attempt (revokePendingProgram ctx userId
          (InvitationApplicationService.issueProgram (invited ctx fresh userId))))
      | .other => .commit none
    else .commit none

end ProvisioningApplicationService

-- ============================================================================
-- Races
-- ============================================================================

/-- A call, with the user that it turns out to be about. -/
inductive InvitationCall where
  | acceptInvitation (ctx : AccountContext) (token : String)
  | resendInvitation (ctx : AccountContext) (fresh : FreshInvitation) (targetUserId : Uuid)
  | setupPasswordViaSsoFallback (ctx : AccountContext) (userId : Uuid)
  | synchronizeEmployeeStatus (ctx : AccountContext) (fresh : FreshInvitation)
      (event : EmployeeEvent) (userId : Uuid)

def InvitationCall.program : InvitationCall → InvitationProgram
  | .acceptInvitation ctx token =>
    InvitationApplicationService.acceptProgram (ctx.hashToken token)
  | .resendInvitation ctx fresh targetUserId =>
    InvitationApplicationService.resendProgram ctx fresh targetUserId
  | .setupPasswordViaSsoFallback ctx userId => PasswordService.setUpProgram ctx userId
  | .synchronizeEmployeeStatus ctx fresh event userId =>
    ProvisioningApplicationService.synchronizeProgram ctx fresh event userId

abbrev InvitationState : Type := RowLocks.State Invitation Invitation.id Uuid (Option Acceptance)

/-- The calls are about to begin. -/
def InvitationState.Begins (s : InvitationState) : Prop :=
  ∃ calls : List InvitationCall,
    s.threads = calls.map fun call => .running { program := call.program }

def invitationRaces : System InvitationState Turn :=
  RowLocks.system InvitationState.Begins Invitation.conflicts

/-- The acceptance that the `i`-th call has committed. -/
def InvitationState.acceptedBy (s : InvitationState) (i : ℕ) : Option Acceptance :=
  match s.threads[i]? with
  | some (.committed result) => result
  | _ => none

-- ============================================================================
-- An acceptance by itself
-- ============================================================================

namespace InvitationApplicationService

section Alone

variable {ctx : AccountContext} {fresh : FreshCredential} {w w' : World AccountStore AccountError}
  {invitation : Invitation} {userId : Uuid}

/-- What an acceptance reads and writes of the store. -/
def invitationView (s : AccountStore) : Keyed Invitation Invitation.id × Timestamp :=
  (s.db.invitations, s.now)

theorem writeDb_invitationView {f : AccountDatabase → Option AccountDatabase}
    (h : ∀ db db', f db = some db' → db'.invitations = db.invitations) :
    Faulty.Leaves invitationView (writeDb f) := by
  refine writeDb_leaves fun s db hdb => ?_
  rw [invitationView, invitationView, h s.db db hdb]

theorem setPassword_invitationView {hashed : FreshCredential} :
    Faulty.Leaves invitationView (setPassword ctx userId hashed) := by
  refine Faulty.Leaves.bind (Faulty.leaves_read _) fun credential => ?_
  cases credential with
  | none =>
    refine Faulty.Leaves.bind (fun _ => rfl) fun _ => writeDb_invitationView fun _ _ h => ?_
    obtain ⟨-, -, rfl⟩ := Option.map_eq_some_iff.mp h
    rfl
  | some existing =>
    refine Faulty.Leaves.bind (fun _ => rfl) fun _ => writeDb_invitationView fun _ _ h => ?_
    obtain ⟨-, -, rfl⟩ := Option.map_eq_some_iff.mp h
    rfl

theorem revokeSessionsAndChallenges_invitationView {tenantCode : String} :
    Faulty.Leaves invitationView (revokeSessionsAndChallenges ctx tenantCode userId) := by
  have hredis : ∀ f, Faulty.Leaves invitationView (writeRedis f) := fun _ =>
    Faulty.leaves_write fun _ => rfl
  unfold revokeSessionsAndChallenges
  split
  · refine Faulty.leaves_tryCatch (Faulty.Leaves.bind ?_ fun _ => ?_) fun _ => Faulty.leaves_throw _
    · exact (Faulty.leaves_read _).bind fun _ => Faulty.leaves_when (hredis _)
    · refine (Faulty.leaves_read _).bind fun keys => Faulty.leaves_forEach (fun key => ?_) keys
      refine (Faulty.leaves_read _).bind fun challenge => ?_
      cases challenge with
      | none => exact Faulty.leaves_pure ()
      | some challenge => exact Faulty.leaves_when (hredis _)
  · exact Faulty.leaves_throw _

/-- The one write of an acceptance to the invitations. -/
theorem acceptLiveInvitation_replaces (hmem : invitation ∈ w.state.db.invitations.rows)
    (h : acceptLiveInvitation ctx fresh invitation w = (.ok userId, w')) :
    w'.state.db.invitations = w.state.db.invitations.replace (accepted w.state.now invitation) := by
  obtain ⟨user, w₁, hfind, hrest⟩ := Faulty.bind_ok.mp h
  obtain ⟨hashed, w₂, hhash, hrest⟩ := Faulty.bind_ok.mp hrest
  obtain ⟨u₃, w₃, hpassword, hrest⟩ := Faulty.bind_ok.mp hrest
  obtain ⟨acceptedAt, w₄, hclock, hrest⟩ := Faulty.bind_ok.mp hrest
  obtain ⟨u₅, w₅, hinvitation, hrest⟩ := Faulty.bind_ok.mp hrest
  have hbefore : invitationView w₃.state = invitationView w.state :=
    calc invitationView w₃.state = invitationView w₂.state :=
          setPassword_invitationView.ok hpassword
      _ = invitationView w₁.state := (Faulty.leaves_read _).ok hhash
      _ = invitationView w.state := required_leaves.ok hfind
  have hafter : invitationView w'.state = invitationView w₅.state := by
    refine Faulty.Leaves.ok (Faulty.Leaves.bind ?_ fun _ => Faulty.Leaves.bind ?_ fun _ => ?_) hrest
    · exact writeDb_invitationView fun _ _ hupdate => by
        obtain ⟨-, -, rfl⟩ := Option.map_eq_some_iff.mp hupdate
        rfl
    · exact writeDb_invitationView fun _ _ hlog => by cases hlog; rfl
    · exact revokeSessionsAndChallenges_invitationView.bind fun _ => Faulty.leaves_pure _
  obtain ⟨hinvitations, hnow⟩ := Prod.mk.inj hbefore
  obtain ⟨rfl, rfl⟩ := clock_ok hclock
  obtain ⟨db, hdb, hstate⟩ := writeDb_ok hinvitation
  obtain ⟨invitations, hupdate, rfl⟩ := Option.map_eq_some_iff.mp hdb
  have hrow : w₄.state.db.invitations.rows.find? (fun row => row.id = invitation.id) =
      some invitation := by
    rw [hinvitations]
    exact Keyed.rowAt_eq_some.mpr ⟨hmem, rfl⟩
  unfold updateRow at hupdate
  rw [hrow] at hupdate
  simp only [Option.bind_some, replaceRow] at hupdate
  split at hupdate
  · cases hupdate
  · rw [(Prod.mk.inj hafter).1, hstate, ← Option.some.inj hupdate, hnow, hinvitations]
    rfl

/-- The program of an acceptance, with no other call under way. -/
theorem acceptProgram_alone {now : Timestamp} {table : Keyed Invitation Invitation.id}
    {tokenHash : String}
    (hfound : table.rows.find? (fun row => row.tokenHash = tokenHash) = some invitation)
    (hexpired : invitation.isExpired now = false) :
    RunsAlone Invitation.conflicts now table (acceptProgram tokenHash) .empty
      (table.replace (accepted now invitation)) (some ⟨invitation.id, now⟩) := by
  have hmem : invitation ∈ table.rows := List.mem_of_find?_eq_some hfound
  have hhash : invitation.tokenHash = tokenHash := by simpa using List.find?_some hfound
  have hview : ((Keyed.empty : Keyed Invitation Invitation.id).rowAt invitation.id).or
      (table.rowAt invitation.id) = some invitation :=
    Keyed.rowAt_eq_some.mpr ⟨hmem, rfl⟩
  have hleft : table.upsertAll
      ((Keyed.empty : Keyed Invitation Invitation.id).upsert (accepted now invitation)).rows =
        table.replace (accepted now invitation) :=
    Keyed.upsert_of_mem (List.mem_map.mpr ⟨invitation, hmem, rfl⟩)
  refine .selects ?_
  rw [hfound]
  refine .locks hview ?_
  dsimp only
  rw [if_pos hhash]
  refine .selects ?_
  rw [hexpired, if_neg Bool.false_ne_true]
  refine .locksOther (.asks true (.selects (.updates hview (.asks true ?_))))
  rw [← hleft]
  exact .commits

/-- Alone, an acceptance that returns has run its statements one after another. -/
theorem acceptInvitation_alone {token : String}
    (h : acceptInvitation ctx fresh token w = (.ok userId, w')) :
    ∃ left, invitationRaces.Steps Always ⟨w.state.now, w.state.db.invitations,
        [.running { program := acceptProgram (ctx.hashToken token) }]⟩ left ∧
      left.table = w'.state.db.invitations ∧ ∃ id, left.acceptedBy 0 = some ⟨id, w.state.now⟩ := by
  obtain ⟨invitation, w₁, hfind, hrest⟩ := Faulty.bind_ok.mp (runInTransaction_ok.mp h)
  obtain ⟨hsome, hstate₁⟩ := readDb_ok (required_ok.mp hfind)
  obtain ⟨now, w₂, hclock, hrest⟩ := Faulty.bind_ok.mp hrest
  obtain ⟨rfl, rfl⟩ := clock_ok hclock
  split at hrest
  · exact absurd hrest Faulty.throw_ok
  next hexpired =>
    have hreplaces := acceptLiveInvitation_replaces
      (by rw [hstate₁]; exact List.mem_of_find?_eq_some hsome.symm) hrest
    rw [hstate₁] at hexpired hreplaces
    have hruns := acceptProgram_alone hsome.symm (Bool.eq_false_iff.mpr hexpired)
    exact ⟨_, hruns.steps [] [], hreplaces.symm, invitation.id, rfl⟩

end Alone

end InvitationApplicationService

-- ============================================================================
-- What each program may be relied on for
-- ============================================================================

section Sound

/-- An acceptance was of an invitation that was found unexpired, and has been closed. -/
def Granted (known : List Invitation) (shut : List Uuid) (result : Option Acceptance) : Prop :=
  ∀ a ∈ result, a.invitationId ∈ shut ∧
    ∃ invitation ∈ known, invitation.id = a.invitationId ∧ invitation.isExpired a.checkedAt = false

/-- A set of statuses that holds none of those that the programs write into rows. -/
structure Live (live : InvitationStatus → Bool) : Prop where
  accepted : live .ACCEPTED = false
  revoked : live .REVOKED = false
  cancelled : live .CANCELLED = false

variable {live : InvitationStatus → Bool}

/-- The program accepts nothing, and makes no status live again. -/
def Harmless (live : InvitationStatus → Bool) (program : InvitationProgram) : Prop :=
  ∀ wrote known shut,
    program.Sound (fun invitation => live invitation.status) Granted Invitation.id wrote known shut

theorem harmless_commit : Harmless live (.commit none) := fun _ _ _ _ ha => nomatch ha

theorem harmless_attempt {next : InvitationProgram} (h : Harmless live next) :
    Harmless live (attempt next) := by
  intro wrote known shut succeeds
  cases succeeds with
  | true => exact h wrote known shut
  | false => trivial

theorem harmless_select {next : List Invitation → Timestamp → InvitationProgram}
    (h : ∀ rows now, Harmless live (next rows now)) : Harmless live (.select next) :=
  fun wrote known shut rows now => h rows now wrote known shut

theorem harmless_lockOther {next : InvitationProgram} {userId : Uuid} (h : Harmless live next) :
    Harmless live (.lockOther userId next) :=
  fun wrote known shut => h wrote known shut

theorem harmless_insert {next : InvitationProgram} {invitation : Invitation}
    (h : Harmless live next) : Harmless live (.insert invitation next) :=
  fun _ known shut => h true known shut

theorem harmless_update {next : InvitationProgram} {id : Uuid} {set : Invitation → Invitation}
    (hset : Shuts (fun invitation => live invitation.status) Invitation.id set)
    (h : Harmless live next) : Harmless live (.update id set next) :=
  fun _ known shut => ⟨hset, .inl (h true known shut)⟩

theorem shuts_of_status {set : Invitation → Invitation} (hid : ∀ i, (set i).id = i.id)
    (hstatus : ∀ i, (set i).status = i.status ∨ live (set i).status = false) :
    Shuts (fun invitation => live invitation.status) Invitation.id set := by
  refine fun i => ⟨hid i, fun hclosed => ?_⟩
  rcases hstatus i with hsame | hnew
  · show live (set i).status = false
    rw [hsame]
    exact hclosed
  · exact hnew

namespace InvitationApplicationService

theorem acceptLive_sound (hlive : Live live) {invitation : Invitation} {checkedAt : Timestamp}
    {wrote : Bool} {known : List Invitation} {shut : List Uuid} (hknown : invitation ∈ known)
    (hexpired : invitation.isExpired checkedAt = false) :
    (acceptLiveProgram invitation checkedAt).Sound (fun invitation => live invitation.status)
      Granted Invitation.id wrote known shut := by
  intro succeeds
  cases succeeds with
  | false => trivial
  | true =>
    intro _ acceptedAt
    refine ⟨shuts_of_status (fun _ => rfl) fun _ => .inr hlive.accepted, .inr ?_⟩
    refine ⟨⟨invitation, hknown, rfl⟩, fun _ => hlive.accepted, fun succeeds => ?_⟩
    cases succeeds with
    | false => trivial
    | true =>
      rintro _ ⟨⟩
      exact ⟨List.mem_cons_self, invitation, hknown, rfl, hexpired⟩

theorem accept_sound (hlive : Live live) (tokenHash : String) :
    (acceptProgram tokenHash).Sound (fun invitation => live invitation.status) Granted
      Invitation.id false [] [] := by
  intro invitations _
  dsimp only
  split
  · trivial
  · refine ⟨trivial, fun invitation _ => ?_⟩
    dsimp only
    split
    · intro _ now
      dsimp only
      split
      · trivial
      next hexpired =>
        exact acceptLive_sound hlive List.mem_cons_self (Bool.eq_false_iff.mpr hexpired)
    · trivial

theorem findPrevious_harmless {userId : Uuid} {next : Option Invitation → InvitationProgram}
    (h : ∀ previous, Harmless live (next previous)) (ids : List Uuid) :
    Harmless live (findPreviousProgram userId next ids) := by
  induction ids with
  | nil => exact h none
  | cons id ids ih =>
    refine fun wrote known shut => ⟨ih wrote known shut, fun invitation _ => ?_⟩
    dsimp only
    split
    · exact h (some invitation) _ _ _
    · exact ih _ _ _

theorem issue_harmless (invitation : Timestamp → Invitation) :
    Harmless live (issueProgram invitation) :=
  harmless_select fun _ _ => harmless_insert (harmless_attempt harmless_commit)

theorem resend_harmless (hlive : Live live) (ctx : AccountContext) (fresh : FreshInvitation)
    (targetUserId : Uuid) : Harmless live (resendProgram ctx fresh targetUserId) := by
  refine harmless_lockOther (harmless_attempt (harmless_select fun _ _ => ?_))
  refine findPrevious_harmless (fun previous => ?_) _
  cases previous with
  | none => exact issue_harmless _
  | some previous =>
    refine harmless_select fun _ now => harmless_update ?_ (issue_harmless _)
    exact shuts_of_status (fun _ => rfl) fun _ => .inr hlive.revoked

end InvitationApplicationService

namespace PasswordService

theorem cancelled_shuts (hlive : Live live) (ctx : AccountContext) (userId : Uuid)
    (now : Timestamp) : Shuts (fun invitation => live invitation.status) Invitation.id
      (InvitationRepository.cancelled ctx userId now) := by
  refine shuts_of_status (InvitationRepository.cancelled_id ctx userId now) fun invitation => ?_
  unfold InvitationRepository.cancelled
  split
  · exact .inr hlive.cancelled
  · exact .inl rfl

theorem cancel_harmless (hlive : Live live) {ctx : AccountContext} {userId : Uuid}
    {now : Timestamp} {next : InvitationProgram} (h : Harmless live next) (ids : List Uuid) :
    Harmless live (cancelProgram ctx userId now next ids) := by
  induction ids with
  | nil => exact h
  | cons id ids ih => exact harmless_update (cancelled_shuts hlive ctx userId now) ih

theorem setUp_harmless (hlive : Live live) (ctx : AccountContext) (userId : Uuid) :
    Harmless live (setUpProgram ctx userId) := by
  refine harmless_attempt (harmless_lockOther (harmless_attempt (harmless_select fun _ now => ?_)))
  exact cancel_harmless hlive (harmless_attempt harmless_commit) _

end PasswordService

namespace ProvisioningApplicationService

theorem savedOver_shuts {copy : Invitation} (hcopy : live copy.status = false)
    (loaded : Invitation) : Shuts (fun invitation => live invitation.status) Invitation.id
      (savedOver copy loaded) := by
  refine shuts_of_status (fun _ => rfl) fun row => ?_
  show (if copy.status = loaded.status then row.status else copy.status) = row.status ∨
    live (if copy.status = loaded.status then row.status else copy.status) = false
  split
  · exact .inl rfl
  · exact .inr hcopy

theorem save_harmless {loaded copies : List Invitation} {next : InvitationProgram}
    (hcopies : ∀ copy ∈ copies, live copy.status = false) (h : Harmless live next) :
    Harmless live (saveProgram loaded next copies) := by
  induction copies with
  | nil => exact h
  | cons copy copies ih =>
    have hrest := ih fun copy hcopy => hcopies copy (List.mem_cons_of_mem _ hcopy)
    unfold saveProgram
    split
    · exact harmless_insert hrest
    · split
      · exact hrest
      · exact harmless_update (savedOver_shuts (hcopies copy List.mem_cons_self) _) hrest

/-- However stale the copies are, what they write is REVOKED. -/
theorem revokePending_harmless (hlive : Live live) (ctx : AccountContext) (userId : Uuid)
    {next : InvitationProgram} (h : Harmless live next) :
    Harmless live (revokePendingProgram ctx userId next) := by
  refine harmless_select fun invitations _ => harmless_select fun _ now =>
    harmless_select fun loaded _ => ?_
  refine save_harmless (fun copy hcopy => ?_) h
  obtain ⟨_, -, rfl⟩ := List.mem_map.mp hcopy
  exact hlive.revoked

theorem synchronize_harmless (hlive : Live live) (ctx : AccountContext) (fresh : FreshInvitation)
    (event : EmployeeEvent) (userId : Uuid) :
    Harmless live (synchronizeProgram ctx fresh event userId) := by
  intro wrote known shut linked
  cases linked with
  | false => exact harmless_commit wrote known shut
  | true =>
    have hcommit : Harmless live (attempt (.commit none)) := harmless_attempt harmless_commit
    cases event with
    | EMPLOYEE_SUSPENDED => exact harmless_lockOther hcommit wrote known shut
    | EMPLOYEE_TERMINATED =>
      have hrevokes := revokePending_harmless hlive ctx userId hcommit
      exact harmless_lockOther (harmless_attempt hrevokes) wrote known shut
    | EMPLOYEE_REACTIVATED =>
      have hissues : Harmless live
          (InvitationApplicationService.issueProgram (invited ctx fresh userId)) :=
        InvitationApplicationService.issue_harmless _
      have hrevokes := revokePending_harmless hlive ctx userId hissues
      exact harmless_lockOther (harmless_attempt hrevokes) wrote known shut
    | other => exact harmless_commit wrote known shut

end ProvisioningApplicationService

theorem InvitationCall.program_sound (hlive : Live live) (call : InvitationCall) :
    call.program.Sound (fun invitation => live invitation.status) Granted Invitation.id false []
      [] := by
  cases call with
  | acceptInvitation ctx token => exact InvitationApplicationService.accept_sound hlive _
  | resendInvitation ctx fresh targetUserId =>
    exact InvitationApplicationService.resend_harmless hlive ctx fresh targetUserId _ _ _
  | setupPasswordViaSsoFallback ctx userId =>
    exact PasswordService.setUp_harmless hlive ctx userId _ _ _
  | synchronizeEmployeeStatus ctx fresh event userId =>
    exact ProvisioningApplicationService.synchronize_harmless hlive ctx fresh event userId _ _ _

end Sound

-- ============================================================================
-- Single use
-- ============================================================================

theorem acceptedBy_eq_some {s : InvitationState} {i : ℕ} {a : Acceptance} :
    s.acceptedBy i = some a ↔ s.threads[i]? = some (.committed (some a)) := by
  unfold InvitationState.acceptedBy
  split
  next result hthread =>
    rw [hthread, Option.some.injEq, Thread.committed.injEq]
  next hother =>
    constructor
    · exact nofun
    · exact fun h => absurd h (hother _)

section Runs

variable {start s later : InvitationState} {live : InvitationStatus → Bool}

theorem InvitationState.Begins.governed (hlive : Live live) (h : start.Begins) :
    Governed (fun invitation => live invitation.status) Granted start := by
  obtain ⟨calls, hcalls⟩ := h
  refine governed_begun fun i t hi => ?_
  rw [hcalls, List.getElem?_map, Option.map_eq_some_iff] at hi
  obtain ⟨call, -, hthread⟩ := hi
  cases hthread
  exact ⟨rfl, rfl, call.program_sound hlive⟩

theorem InvitationState.Begins.none_committed (h : start.Begins) (i : ℕ)
    (result : Option Acceptance) : start.threads[i]? ≠ some (.committed result) := by
  obtain ⟨calls, hcalls⟩ := h
  intro hi
  rw [hcalls, List.getElem?_map, Option.map_eq_some_iff] at hi
  obtain ⟨call, -, hthread⟩ := hi
  cases hthread

/-- A row that has left a status that the programs do not write is never in it again. -/
theorem status_stays_left {status : InvitationStatus} {id : Uuid} {invitation : Invitation}
    (hlive : Live fun other => other = status) (hbegins : start.Begins)
    (hrun : invitationRaces.Steps Always start s) (hmore : invitationRaces.Steps Always s later)
    (hrow : s.table.rowAt id = some invitation) (hleft : invitation.status ≠ status) :
    ∃ row, later.table.rowAt id = some row ∧ row.status ≠ status := by
  obtain ⟨row, hrow', hclosed⟩ := ((hbegins.governed hlive).steps hrun).closed_stays hmore
    ⟨invitation, hrow, decide_eq_false hleft⟩
  exact ⟨row, hrow', of_decide_eq_false hclosed⟩

theorem isOpen_of_not_expired {invitation : Invitation} {now : Timestamp}
    (h : invitation.isExpired now = false) : invitation.isOpen = true := by
  unfold Invitation.isExpired at h
  unfold Invitation.isOpen
  cases hstatus : invitation.status <;> simp_all

/-- Every invitation is accepted by one committed call at most.  The call has found it unexpired
    when it had read it for update, and it was open in all states committed before.  A status
    other than PENDING does not become PENDING, nor one other than SENT SENT. -/
theorem invitation_used_once (hinit : invitationRaces.init start)
    (hrun : invitationRaces.Steps Always start s) :
    (∀ i j a b, s.acceptedBy i = some a → s.acceptedBy j = some b →
      a.invitationId = b.invitationId → i = j) ∧
    (∀ turn next i a, invitationRaces.step s turn = some next → s.acceptedBy i = none →
      next.acceptedBy i = some a →
        (∃ invitation, s.table.rowAt a.invitationId = some invitation ∧
          invitation.isExpired a.checkedAt = false) ∧
        (∃ invitation, next.table.rowAt a.invitationId = some invitation ∧
          invitation.isOpen = false) ∧
        ∀ u invitation, invitationRaces.Steps Always start u → invitationRaces.Steps Always u s →
          u.table.rowAt a.invitationId = some invitation → invitation.isOpen = true) ∧
    ∀ later id invitation status, invitationRaces.Steps Always s later →
      s.table.rowAt id = some invitation → status = .PENDING ∨ status = .SENT →
        invitation.status ≠ status →
          ∃ row, later.table.rowAt id = some row ∧ row.status ≠ status := by
  have hlive : Live fun status => status = .PENDING || status = .SENT := ⟨rfl, rfl, rfl⟩
  have hstart : Governed Invitation.isOpen Granted start := hinit.governed hlive
  have hgranted : ∀ known shut result id, Granted known shut result →
      result.map Acceptance.invitationId = some id →
        id ∈ shut ∧ ∃ invitation ∈ known, invitation.id = id ∧ invitation.isOpen = true := by
    intro known shut result id hresult hid
    obtain ⟨a, ha, rfl⟩ := Option.map_eq_some_iff.mp hid
    obtain ⟨hshut, invitation, hknown, hsame, hexpired⟩ := hresult a ha
    exact ⟨hshut, invitation, hknown, hsame, isOpen_of_not_expired hexpired⟩
  refine ⟨fun i j a b ha hb hab => ?_, fun turn next i a hstep hbefore hafter => ?_, ?_⟩
  · obtain ⟨-, honce⟩ := hstart.once hgranted hinit.none_committed hrun
    exact honce i j _ _ a.invitationId (acceptedBy_eq_some.mp ha) (acceptedBy_eq_some.mp hb) rfl
      (congrArg some hab.symm)
  · have hnew : s.threads[i]? ≠ some (.committed (some a)) := by
      intro hold
      rw [acceptedBy_eq_some.mpr hold] at hbefore
      cases hbefore
    obtain ⟨known, shut, hresult, hknown, hshut⟩ :=
      (hstart.steps hrun).commits hstep hnew (acceptedBy_eq_some.mp hafter)
    obtain ⟨hmem, invitation, hread, hsame, hexpired⟩ := hresult a rfl
    have hrow := hknown invitation hread
    rw [hsame] at hrow
    refine ⟨⟨invitation, hrow, hexpired⟩, hshut _ hmem, fun u old hu hus hold => ?_⟩
    -- closed then, the row would be closed now
    by_contra hclosed
    obtain ⟨row, hrow', hstays⟩ := (hstart.steps hu).closed_stays hus
      ⟨old, hold, Bool.eq_false_iff.mpr hclosed⟩
    rw [hrow] at hrow'
    obtain rfl := Option.some.inj hrow'
    rw [isOpen_of_not_expired hexpired] at hstays
    cases hstays
  · rintro later id invitation status hmore hrow (rfl | rfl) hleft
    · exact status_stays_left ⟨rfl, rfl, rfl⟩ hinit hrun hmore hrow hleft
    · exact status_stays_left ⟨rfl, rfl, rfl⟩ hinit hrun hmore hrow hleft

end Runs

-- ============================================================================
-- One invitation
-- ============================================================================

def sentInvitation : Invitation where
  id := Persistence.sampleEmployeeId
  tenantCode := "acme"
  userId := Persistence.sampleUserId
  tokenHash := "token"
  status := .SENT
  expiresAt := 10

/-- Calls that submit the token of the one invitation. -/
def sampleAcceptances (now : Timestamp) (count : ℕ) : InvitationState where
  now := now
  table := ⟨[sentInvitation], List.nodup_singleton _⟩
  threads := (List.replicate count (.acceptInvitation acmeAccounts "token")).map
    fun call => .running { program := InvitationCall.program call }

theorem sampleAcceptances_begin (now : Timestamp) (count : ℕ) :
    invitationRaces.init (sampleAcceptances now count) := ⟨_, rfl⟩

/-- The second call has found the invitation before the first one commits, and waits for it. -/
theorem invitation_used_once_sample : ∃ s,
    invitationRaces.Steps Always (sampleAcceptances 5 2) s ∧
      s.acceptedBy 0 = some ⟨sentInvitation.id, 5⟩ ∧
      ∀ j b, s.acceptedBy j = some b → sentInvitation.id = b.invitationId → 0 = j := by
  obtain ⟨s, hs, hfirst⟩ := Option.map_eq_some_iff.mp
    (show (invitationRaces.execute (sampleAcceptances 5 2)
        (.next 1 true :: List.replicate 9 (.next 0 true) ++ List.replicate 3 (.next 1 true))).map
      (fun s => s.acceptedBy 0) = some (some ⟨sentInvitation.id, 5⟩) from by decide +kernel)
  have hsteps := System.steps_of_execute hs
  refine ⟨s, hsteps, hfirst, fun j b hb hsame => ?_⟩
  exact (invitation_used_once (sampleAcceptances_begin 5 2) hsteps).1 0 j _ b hfirst hb hsame

/-- The last moment of an invitation passes while the password is hashed. -/
theorem accepted_after_expiry : ¬∀ start s i a invitation acceptedAt,
    invitationRaces.init start → invitationRaces.Steps Always start s → s.acceptedBy i = some a →
      s.table.rowAt a.invitationId = some invitation → invitation.acceptedAt = some acceptedAt →
        acceptedAt ≤ invitation.expiresAt := by
  intro hnever
  obtain ⟨s, hs, hlate⟩ := Option.map_eq_some_iff.mp
    (show (invitationRaces.execute (sampleAcceptances 10 1)
        (List.replicate 3 (.next 0 true) ++ .tick 1 :: List.replicate 6 (.next 0 true))).map
      (fun s => (s.acceptedBy 0, s.table.rowAt sentInvitation.id)) =
        some (some ⟨sentInvitation.id, 10⟩,
          some (InvitationApplicationService.accepted 11 sentInvitation))
      from by decide +kernel)
  obtain ⟨hfirst, hrow⟩ := Prod.mk.inj hlate
  have hbefore := hnever _ s 0 _ _ 11 (sampleAcceptances_begin 10 1) (System.steps_of_execute hs)
    hfirst hrow rfl
  exact absurd hbefore (by decide)

end AccessService.Accounts
