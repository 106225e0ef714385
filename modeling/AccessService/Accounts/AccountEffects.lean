/-
  AccessService.Accounts.AccountEffects

  What the account operations do to the table of users: at most one row is rewritten, and
  only by the update that the operation makes of it.
-/

import AccessService.Accounts.Authentication

namespace AccessService.Accounts

open AccessService.Lib AccessService.Pg AccessService.Persistence
open AccessService.Authorization (Timestamp)

variable {w w' : World AccountStore AccountError} {ctx : AccountContext} {user : UserRow}
  {change : UserUpdate}

-- ============================================================================
-- One row rewritten
-- ============================================================================

def usersOf (s : AccountStore) : Keyed UserRow fun row => row.id := s.db.users

/-- The users are the same but for the row of one, which the update has been made of. -/
structure Rewrites (s s' : AccountStore) (user : UserRow) (change : UserUpdate) : Prop where
  found : user ∈ s.db.users.rows
  written : ∃ user', change.apply user = some user' ∧ s'.db.users = s.db.users.replace user'

theorem UserUpdate.apply_eq_some {user' : UserRow} (h : change.apply user = some user') :
    user'.id = user.id ∧ user'.status = change.status.getD user.status ∧
      user'.securityVersion.val = change.securityVersion := by
  obtain ⟨version, hversion, rfl⟩ := Option.map_eq_some_iff.mp h
  exact ⟨rfl, rfl, SecurityVersion.ofInt?_eq_some hversion⟩

theorem userWithId_eq_some {db : AccountDatabase} {id : Uuid} :
    UserRepository.userWithId db id = some user ↔ user ∈ db.users.rows ∧ user.id = id :=
  Keyed.rowAt_eq_some

theorem userInTenant_eq_some {db : AccountDatabase} {id : Uuid} :
    UserRepository.userInTenant ctx db id = some user ↔
      user ∈ db.users.rows ∧ user.tenantCode = ctx.tenantCode ∧ user.id = id :=
  Keyed.find?_and_key

/-- The rewritten user, and the others. -/
theorem Rewrites.userWithId {s s' : AccountStore} (h : Rewrites s s' user change) :
    ∃ user', change.apply user = some user' ∧
      UserRepository.userWithId s'.db user.id = some user' ∧
      ∀ id, id ≠ user.id →
        UserRepository.userWithId s'.db id = UserRepository.userWithId s.db id := by
  obtain ⟨hfound, user', happly, husers⟩ := h
  have hid := (UserUpdate.apply_eq_some happly).1
  have hkey : user'.id ∈ s.db.users.rows.map fun row => row.id :=
    List.mem_map.mpr ⟨user, hfound, hid.symm⟩
  have hfind : ∀ id, UserRepository.userWithId s'.db id =
      if id = user'.id then some user' else UserRepository.userWithId s.db id := by
    intro id
    unfold UserRepository.userWithId
    rw [husers]
    exact Keyed.find?_replace hkey
  refine ⟨user', happly, ?_, fun id hne => ?_⟩
  · rw [hfind, if_pos hid.symm]
  · rw [hfind, if_neg (hid ▸ hne)]

theorem Rewrites.of_users {s₀ s s' s₁ : AccountStore} (h : Rewrites s s' user change)
    (hpre : usersOf s = usersOf s₀) (hpost : usersOf s₁ = usersOf s') :
    Rewrites s₀ s₁ user change := by
  obtain ⟨hfound, user', happly, husers⟩ := h
  unfold usersOf at hpre hpost
  rw [hpre] at hfound husers
  exact ⟨hfound, user', happly, hpost.trans husers⟩

-- ============================================================================
-- Calls
-- ============================================================================

theorem readDb_ok {α : Type} {f : AccountDatabase → α} {a : α} (h : readDb f w = (.ok a, w')) :
    a = f w.state.db ∧ w'.state = w.state :=
  Faulty.read_ok h

theorem writeDb_ok {f : AccountDatabase → Option AccountDatabase} {u : Unit}
    (h : writeDb f w = (.ok u, w')) :
    ∃ db, f w.state.db = some db ∧ w'.state = { w.state with db := db } := by
  have hcall := Faulty.call_ok h
  rcases hdb : f w.state.db with _ | db
  · rw [hdb] at hcall
    cases hcall
  · rw [hdb] at hcall
    exact ⟨db, rfl, (Prod.mk.inj (Except.ok.inj hcall)).2.symm⟩

theorem writeDb_error {f : AccountDatabase → Option AccountDatabase} {e : AccountError}
    (h : writeDb f w = (.error e, w')) : w'.state = w.state := by
  unfold writeDb at h
  exact Faulty.call_error h

theorem writeRedis_ok {f : Timestamp → Redis → Redis} {u : Unit}
    (h : writeRedis f w = (.ok u, w')) :
    w'.state = { w.state with redis := f w.state.now w.state.redis } :=
  Faulty.write_ok h

theorem writeRedis_error {f : Timestamp → Redis → Redis} {e : AccountError}
    (h : writeRedis f w = (.error e, w')) : w'.state = w.state := by
  unfold writeRedis Faulty.write at h
  exact Faulty.call_error h

theorem writeRedis_throwsAt {f : Timestamp → Redis → Redis} {r : Except AccountError Unit} {i : Nat}
    (h : writeRedis f w = (r, w')) : Faulty.ThrowsAt w' i ↔ Faulty.ThrowsAt w (i + 1) := by
  unfold writeRedis Faulty.write at h
  exact Faulty.call_throwsAt h

theorem readDb_throwsAt {α : Type} {f : AccountDatabase → α} {r : Except AccountError α} {i : Nat}
    (h : readDb f w = (r, w')) : Faulty.ThrowsAt w' i ↔ Faulty.ThrowsAt w (i + 1) := by
  unfold readDb Faulty.read at h
  exact Faulty.call_throwsAt h

theorem required_ok {α : Type} {find : AccountService (Option α)} {a : α} :
    required find w = (.ok a, w') ↔ find w = (.ok (some a), w') := by
  unfold required
  rw [Faulty.bind_ok]
  constructor
  · rintro ⟨found, w₁, hfind, hrest⟩
    cases found with
    | none => exact absurd hrest Faulty.throw_ok
    | some a' =>
      obtain ⟨rfl, rfl⟩ := Faulty.pure_ok.mp hrest
      exact hfind
  · exact fun hfind => ⟨some a, w', hfind, Faulty.pure_ok.mpr ⟨rfl, rfl⟩⟩

theorem clock_ok {now : Timestamp} (h : clock w = (.ok now, w')) : now = w.state.now ∧ w' = w :=
  Faulty.modify_ok h

theorem runInTransaction_ok {α : Type} {body : AccountService α} {a : α} :
    runInTransaction body w = (.ok a, w') ↔ body w = (.ok a, w') :=
  Faulty.transaction_ok

theorem runInTransaction_error {α : Type} {body : AccountService α} {e : AccountError}
    (h : runInTransaction body w = (.error e, w')) : w'.state.db = w.state.db := by
  obtain ⟨w₁, -, rfl⟩ := Faulty.transaction_error h
  rfl

/-- The update of a user that is there. -/
theorem UserRepository.update_ok {u : Unit} (hmem : user ∈ w.state.db.users.rows)
    (h : UserRepository.update user.id change w = (.ok u, w')) :
    Rewrites w.state w'.state user change := by
  unfold UserRepository.update UserRepository.overwrite at h
  obtain ⟨db, hdb, hstate⟩ := writeDb_ok h
  obtain ⟨users, hupdate, rfl⟩ := Option.map_eq_some_iff.mp hdb
  have hfind : w.state.db.users.rows.find? (fun row => row.id = user.id) = some user :=
    userWithId_eq_some.mpr ⟨hmem, rfl⟩
  unfold updateRow at hupdate
  rw [hfind] at hupdate
  obtain ⟨user', happly, hreplace⟩ := Option.bind_eq_some_iff.mp hupdate
  unfold replaceRow at hreplace
  rw [if_neg (by simp)] at hreplace
  refine ⟨hmem, user', happly, ?_⟩
  rw [hstate]
  exact (Option.some.inj hreplace).symm

/-- The row that an increment is made of, if there is one. -/
theorem UserRepository.increment_ok {condition : UserRow → Bool} {n : Nat}
    (h : UserRepository.increment condition w = (.ok n, w')) :
    (n = 0 ∧ w'.state = w.state) ∨
      ∃ user, n = 1 ∧ condition user = true ∧ w'.state.redis = w.state.redis ∧
        w'.state.now = w.state.now ∧ Rewrites w.state w'.state user
          { securityVersion := user.securityVersion.val + 1 } := by
  have hcall := Faulty.call_ok h
  rcases hfind : w.state.db.users.rows.find? condition with _ | user
  · rw [hfind] at hcall
    obtain ⟨rfl, hstate⟩ := Prod.mk.inj (Except.ok.inj hcall)
    exact .inl ⟨rfl, hstate.symm⟩
  · rw [hfind] at hcall
    rcases hincremented : UserRepository.incremented user with _ | user'
    · simp only [hincremented] at hcall
      cases hcall
    · simp only [hincremented] at hcall
      obtain ⟨rfl, hstate⟩ := Prod.mk.inj (Except.ok.inj hcall)
      refine .inr ⟨user, rfl, List.find?_some hfind, ?_⟩
      rw [← hstate]
      exact ⟨rfl, rfl, List.mem_of_find?_eq_some hfind, user', hincremented, rfl⟩

-- ============================================================================
-- Calls that leave the users alone
-- ============================================================================

theorem writeDb_leaves {β : Type} {g : AccountStore → β}
    {f : AccountDatabase → Option AccountDatabase}
    (h : ∀ s db, f s.db = some db → g { s with db := db } = g s) :
    Faulty.Leaves g (writeDb f) := by
  refine Faulty.leaves_call fun s u s' hf => ?_
  rcases hdb : f s.db with _ | db
  · simp only [hdb] at hf
    cases hf
  · simp only [hdb] at hf
    obtain ⟨-, rfl⟩ := Prod.mk.inj (Except.ok.inj hf)
    exact h s db hdb

theorem writeDb_users {f : AccountDatabase → Option AccountDatabase}
    (h : ∀ db db', f db = some db' → db'.users = db.users) :
    Faulty.Leaves usersOf (writeDb f) :=
  writeDb_leaves fun s db hdb => h s.db db hdb

theorem readDb_users {α : Type} {f : AccountDatabase → α} : Faulty.Leaves usersOf (readDb f) :=
  Faulty.leaves_read _

theorem writeRedis_users {f : Timestamp → Redis → Redis} :
    Faulty.Leaves usersOf (writeRedis f) :=
  Faulty.leaves_write fun _ => rfl

theorem clock_users : Faulty.Leaves usersOf clock := fun _ => rfl

/-- Looking a row up changes nothing. -/
theorem required_leaves {τ α : Type} {g : AccountStore → τ} {f : AccountDatabase → Option α} :
    Faulty.Leaves g (required (readDb f)) := by
  refine Faulty.Leaves.bind (Faulty.leaves_read _) fun found => ?_
  cases found with
  | none => exact Faulty.leaves_throw _
  | some a => exact Faulty.leaves_pure a

theorem required_users {α : Type} {f : AccountDatabase → Option α} :
    Faulty.Leaves usersOf (required (readDb f)) :=
  required_leaves

theorem runInTransaction_users {α : Type} {body : AccountService α}
    (h : Faulty.Leaves usersOf body) : Faulty.Leaves usersOf (runInTransaction body) :=
  Faulty.leaves_transaction h fun _ _ _ => rfl

theorem log_users {tenantCode eventType : String} {userId : Option Uuid} :
    Faulty.Leaves usersOf (SecurityEventService.log tenantCode userId eventType) :=
  writeDb_users fun _ _ h => by cases h; rfl

theorem EmployeeReferenceRepository.update_users {id : Uuid} {status : Option String}
    {sourceVersion : String} :
    Faulty.Leaves usersOf (EmployeeReferenceRepository.update id status sourceVersion) :=
  writeDb_users fun _ _ h => by
    obtain ⟨-, -, rfl⟩ := Option.map_eq_some_iff.mp h
    rfl

namespace InvitationRepository

theorem update_users {id : Uuid} {f : Invitation → Invitation} :
    Faulty.Leaves usersOf (InvitationRepository.update id f) :=
  writeDb_users fun _ _ h => by
    obtain ⟨-, -, rfl⟩ := Option.map_eq_some_iff.mp h
    rfl

theorem create_users {invitation : Invitation} :
    Faulty.Leaves usersOf (InvitationRepository.create invitation) :=
  writeDb_users fun _ _ h => by
    split at h
    · obtain ⟨-, -, rfl⟩ := Option.map_eq_some_iff.mp h
      rfl
    · cases h

theorem revokeAll_users {invitations : List Invitation} :
    Faulty.Leaves usersOf (InvitationRepository.revokeAll invitations) :=
  Faulty.leaves_write fun _ => rfl

theorem cancelPendingInvitations_users {userId : Uuid} :
    Faulty.Leaves usersOf (InvitationRepository.cancelPendingInvitations ctx userId) :=
  Faulty.leaves_write fun _ => rfl

end InvitationRepository

namespace CredentialRepository

theorem update_users {id : Uuid} {f : Credential → Credential} :
    Faulty.Leaves usersOf (CredentialRepository.update id f) :=
  writeDb_users fun _ _ h => by
    obtain ⟨-, -, rfl⟩ := Option.map_eq_some_iff.mp h
    rfl

theorem create_users {credential : Credential} :
    Faulty.Leaves usersOf (CredentialRepository.create credential) :=
  writeDb_users fun _ _ h => by
    obtain ⟨-, -, rfl⟩ := Option.map_eq_some_iff.mp h
    rfl

end CredentialRepository

theorem disableAllUserFactors_users {userId : Uuid} :
    Faulty.Leaves usersOf (MfaMethodRepository.disableAllUserFactors ctx userId) :=
  writeDb_users fun _ _ h => by cases h; rfl

-- ============================================================================
-- Parts of operations that leave the users alone
-- ============================================================================

theorem deleteIndexed_users {index : String} :
    Faulty.Leaves usersOf (deleteIndexed ctx index) :=
  (Faulty.leaves_read _).bind fun _ => Faulty.leaves_when writeRedis_users

theorem revokeAllSessions_users {tenantCode : String} {userId : Uuid} :
    Faulty.Leaves usersOf (SessionApplicationService.revokeAllSessions ctx tenantCode userId) :=
  Faulty.leaves_when deleteIndexed_users

theorem revokePendingInvitations_users {userId : Uuid} :
    Faulty.Leaves usersOf
      (ProvisioningApplicationService.revokePendingInvitations ctx userId) :=
  readDb_users.bind fun _ => Faulty.leaves_when InvitationRepository.revokeAll_users

theorem createCredential_users {userId : Uuid} {hashed : FreshCredential} :
    Faulty.Leaves usersOf (createCredential ctx userId hashed) :=
  clock_users.bind fun _ => CredentialRepository.create_users

theorem setPassword_users {userId : Uuid} {hashed : FreshCredential} :
    Faulty.Leaves usersOf (InvitationApplicationService.setPassword ctx userId hashed) := by
  refine readDb_users.bind fun credential => ?_
  cases credential with
  | none => exact createCredential_users
  | some existing => exact clock_users.bind fun _ => CredentialRepository.update_users

theorem deleteChallengeOf_users {userId : Uuid} {key : String} :
    Faulty.Leaves usersOf (InvitationApplicationService.deleteChallengeOf ctx userId key) := by
  refine (Faulty.leaves_read _).bind fun challenge => ?_
  cases challenge with
  | none => exact Faulty.leaves_pure ()
  | some challenge => exact Faulty.leaves_when writeRedis_users

theorem revokeSessionsAndChallenges_users {tenantCode : String} {userId : Uuid} :
    Faulty.Leaves usersOf
      (InvitationApplicationService.revokeSessionsAndChallenges ctx tenantCode userId) := by
  unfold InvitationApplicationService.revokeSessionsAndChallenges
  split
  · refine Faulty.leaves_tryCatch (deleteIndexed_users.bind fun _ => ?_)
      fun _ => Faulty.leaves_throw _
    exact (Faulty.leaves_read _).bind fun keys =>
      Faulty.leaves_forEach (fun _ => deleteChallengeOf_users) keys
  · exact Faulty.leaves_throw _

theorem revokePrevious_users {userId : Uuid} :
    Faulty.Leaves usersOf (InvitationApplicationService.revokePrevious userId) := by
  refine readDb_users.bind fun previous => ?_
  cases previous with
  | none => exact Faulty.leaves_pure ()
  | some previous => exact clock_users.bind fun _ => InvitationRepository.update_users

theorem supersedeActive_users {userId : Uuid} :
    Faulty.Leaves usersOf (PasswordService.supersedeActive userId) := by
  refine readDb_users.bind fun active => ?_
  cases active with
  | none => exact Faulty.leaves_pure ()
  | some active => exact CredentialRepository.update_users

theorem logOpenInvitation_users {userId : Uuid} :
    Faulty.Leaves usersOf (PasswordService.logOpenInvitation ctx userId) := by
  refine readDb_users.bind fun invitation => ?_
  cases invitation with
  | none => exact Faulty.leaves_pure ()
  | some invitation => exact log_users

theorem LockoutService.withAdapter_leaves {α β : Type} {g : AccountStore → β} {message : String}
    {command : AccountService α} (h : Faulty.Leaves g command) :
    Faulty.Leaves g (LockoutService.withAdapter ctx message command) := by
  unfold LockoutService.withAdapter
  split
  · exact Faulty.leaves_tryCatch h fun _ => Faulty.leaves_throw _
  · exact Faulty.leaves_throw _

theorem incrCounter_users {key : String} :
    Faulty.Leaves usersOf (LockoutService.incrCounter key) := by
  refine Faulty.leaves_call fun s n s' h => ?_
  obtain ⟨-, rfl⟩ := Prod.mk.inj (Except.ok.inj h)
  rfl

theorem incrementFailureCount_users {tenantCode : String} {userId : Uuid} :
    Faulty.Leaves usersOf (LockoutService.incrementFailureCount ctx tenantCode userId) :=
  LockoutService.withAdapter_leaves incrCounter_users

theorem resetFailureCount_users {tenantCode : String} {userId : Uuid} :
    Faulty.Leaves usersOf (LockoutService.resetFailureCount ctx tenantCode userId) :=
  LockoutService.withAdapter_leaves writeRedis_users

theorem purgeAllUserSessions_users {tenantCode : String} {userId : Uuid} :
    Faulty.Leaves usersOf
      (RedisSessionAdapter.purgeAllUserSessions ctx tenantCode userId) := by
  refine Faulty.leaves_call fun s n s' h => ?_
  obtain ⟨-, rfl⟩ := Prod.mk.inj (Except.ok.inj h)
  rfl

theorem revokeSessions_users {userId : Uuid} :
    Faulty.Leaves usersOf (MfaAdminApplicationService.revokeSessions ctx userId) := by
  refine (Faulty.leaves_read _).bind fun sessionIds => ?_
  refine (Faulty.leaves_when ?_).bind fun _ => Faulty.leaves_pure _
  exact (Faulty.leaves_forEach (fun _ => writeRedis_users) sessionIds).bind
    fun _ => writeRedis_users

-- ============================================================================
-- Operations
-- ============================================================================

/-- An update of a user, and then what leaves the users alone. -/
theorem rewrites_of_bind {α : Type} {rest : Unit → AccountService α} {a : α}
    (hmem : user ∈ w.state.db.users.rows) (hrest : ∀ u, Faulty.Leaves usersOf (rest u))
    (h : (UserRepository.update user.id change >>= rest) w = (.ok a, w')) :
    Rewrites w.state w'.state user change := by
  obtain ⟨u, w₁, hupdate, htail⟩ := Faulty.bind_ok.mp h
  exact (UserRepository.update_ok hmem hupdate).of_users rfl ((hrest u).ok htail)

end AccessService.Accounts
