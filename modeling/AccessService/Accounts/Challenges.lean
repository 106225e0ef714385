/-
  AccessService.Accounts.Challenges

  The challenges in the store: only a login adds one.  What the other operations leave of
  them is the same, or one with fewer attempts left at its own key.
-/

import AccessService.Accounts.LoginEffects

namespace AccessService.Accounts

open AccessService.Lib AccessService.Pg AccessService.Persistence
open AccessService.Authorization (Timestamp)
open AuthApplicationService

variable {w w' : World AccountStore AccountError} {ctx : AccountContext} {user : UserRow}

-- ============================================================================
-- Challenges that are left
-- ============================================================================

/-- The challenge at a key, unless it has expired. -/
def AccountStore.challenge (s : AccountStore) (key : String) : Option MfaChallengeData :=
  s.redis.mfaChallenges.get s.now key

/-- The same challenge, up to the attempts. -/
def MfaChallengeData.Continues (challenge earlier : MfaChallengeData) : Prop :=
  challenge = { earlier with attemptsLeft := challenge.attemptsLeft }

theorem MfaChallengeData.continues_attempts (challenge : MfaChallengeData) (n : ℤ) :
    MfaChallengeData.Continues { challenge with attemptsLeft := n } challenge := rfl

theorem MfaChallengeData.Continues.trans {c c₁ c₂ : MfaChallengeData} (h : c.Continues c₁)
    (h' : c₁.Continues c₂) : c.Continues c₂ := by
  unfold MfaChallengeData.Continues at h h' ⊢
  rw [h, h']

/-- No challenge is new in the second store. -/
def Inherits (s s' : AccountStore) : Prop :=
  ∀ key challenge, s'.challenge key = some challenge → s.challenge key = some challenge ∨
    (key = challengeKeyOf challenge ∧
      ∃ key' earlier, s.challenge key' = some earlier ∧ challenge.Continues earlier)

theorem Inherits.refl (s : AccountStore) : Inherits s s := fun _ _ h => .inl h

theorem challenge_of_policy {s s' : AccountStore} (h : policyOf s' = policyOf s) (key : String) :
    s'.challenge key = s.challenge key := by
  injection h with _ _ hnow hchallenges
  unfold AccountStore.challenge
  rw [hnow, hchallenges]

theorem Inherits.of_policy {s₀ s s' : AccountStore} (hsame : policyOf s' = policyOf s)
    (h : Inherits s₀ s) : Inherits s₀ s' := by
  intro key challenge hthere
  rw [challenge_of_policy hsame] at hthere
  exact h key challenge hthere

theorem inherits_of_policy {α : Type} {x : AccountService α} {s₀ : AccountStore}
    (h : Faulty.Leaves policyOf x) : Faulty.Preserves (Inherits s₀) x :=
  h.preserves fun _ _ hsame => Inherits.of_policy hsame

theorem OnlyLocks.inherits {s s' : AccountStore} (h : OnlyLocks s s') : Inherits s s' :=
  .of_policy h.policy (.refl s)

/-- Later, some have expired. -/
theorem inherits_later (s : AccountStore) (time : Nat) :
    Inherits s { s with now := s.now + time } :=
  fun _ _ h => .inl (Expiring.get_of_later (Nat.le_add_right s.now time) h)

-- ============================================================================
-- The adapter
-- ============================================================================

namespace RedisMfaChallengeAdapter

variable {s₀ : AccountStore}

theorem deleteChallenge_inherits {tenantCode : String} {userId : Uuid} {challengeId : String} :
    Faulty.Preserves (Inherits s₀) (deleteChallenge tenantCode userId challengeId) := by
  refine Faulty.preserves_tryCatch ?_ fun _ => Faulty.preserves_pure ()
  refine Faulty.preserves_write fun s hs key challenge hthere => hs key challenge ?_
  unfold AccountStore.challenge at hthere ⊢
  rw [Expiring.get_erase] at hthere
  split at hthere
  · cases hthere
  · exact hthere

/-- A challenge that was there is stored with other attempts. -/
theorem storeChallenge_inherits {key : String} {challenge earlier : MfaChallengeData}
    (hthere : s₀.challenge key = some earlier) (hsame : challenge.Continues earlier) :
    Faulty.Preserves (Inherits s₀) (storeChallenge challenge) := by
  refine Faulty.preserves_write fun s hs key' other hother => ?_
  unfold AccountStore.challenge at hother
  rw [Expiring.get_set] at hother
  split at hother
  next hkey =>
    split at hother
    · obtain rfl := Option.some.inj hother
      exact .inr ⟨hkey, key, earlier, hthere, hsame⟩
    · cases hother
  · exact hs key' other hother

theorem decrementAttempts_inherits {key : String} {challenge : MfaChallengeData}
    (hthere : s₀.challenge key = some challenge) :
    Faulty.Preserves (Inherits s₀) (decrementAttempts challenge) := by
  refine Faulty.preserves_tryCatch ?_ fun _ => Faulty.preserves_throw _
  dsimp only
  split
  · exact deleteChallenge_inherits.bind fun _ => Faulty.preserves_pure _
  · exact (storeChallenge_inherits hthere (challenge.continues_attempts _)).bind fun _ =>
      Faulty.preserves_pure _

end RedisMfaChallengeAdapter

-- ============================================================================
-- mfa_application.service.ts
-- ============================================================================

theorem required_policy {α : Type} {f : AccountDatabase → Option α} :
    Faulty.Leaves policyOf (required (readDb f)) := by
  refine readDb_policy.bind fun found => ?_
  cases found with
  | none => exact Faulty.leaves_throw _
  | some a => exact Faulty.leaves_pure a

theorem findSessionEmployee_policy : Faulty.Leaves policyOf (findSessionEmployee ctx user) := by
  unfold findSessionEmployee
  split
  · exact Faulty.leaves_pure _
  · exact readDb_policy.bind fun _ => Faulty.leaves_pure _

theorem storeSession_policy {sessionId : String} {employee : Option SessionEmployee}
    {rememberMe : Bool} :
    Faulty.Leaves policyOf (storeSession ctx user sessionId employee rememberMe) := by
  refine Faulty.Leaves.bind ?_ fun _ => Faulty.leaves_when (Faulty.Leaves.bind ?_ fun _ => ?_)
  · exact writeRedis_policy fun _ _ => rfl
  · exact writeRedis_policy fun _ _ => rfl
  · exact writeRedis_policy fun _ _ => rfl

theorem storeSessionAndLogSuccess_policy {sessionId : String} {rememberMe : Bool} :
    Faulty.Leaves policyOf (storeSessionAndLogSuccess ctx user sessionId rememberMe) := by
  refine findSessionEmployee_policy.bind fun employee => Faulty.Leaves.bind ?_ fun _ => log_policy
  exact Faulty.leaves_tryCatch storeSession_policy fun _ => Faulty.leaves_throw _

theorem generateAuthTokens_policy {sessionId : Uuid} :
    Faulty.Leaves policyOf (generateAuthTokens user sessionId) :=
  Faulty.leaves_tryCatch (Faulty.leaves_read _) fun _ => Faulty.leaves_throw _

namespace MfaApplicationService

open RedisMfaChallengeAdapter

variable {s₀ : AccountStore}

theorem wrongCode_inherits {key : String} {challenge : MfaChallengeData}
    (hthere : s₀.challenge key = some challenge) :
    Faulty.Preserves (Inherits s₀) (wrongCode challenge) := by
  refine (decrementAttempts_inherits hthere).bind fun remaining => ?_
  split
  · exact Faulty.preserves_throw _
  · exact Faulty.preserves_throw _

theorem wrongCode_throws {challenge : MfaChallengeData} {tokens : AuthTokens} :
    wrongCode challenge w ≠ (.ok tokens, w') := by
  intro h
  obtain ⟨remaining, w₁, -, hrest⟩ := Faulty.bind_ok.mp h
  split at hrest
  · exact Faulty.throw_ok hrest
  · exact Faulty.throw_ok hrest

theorem rightCode_inherits {sessionId userId : Uuid} {challengeId : String}
    {challenge : MfaChallengeData} :
    Faulty.Preserves (Inherits s₀)
      (rightCode ctx sessionId user userId challengeId challenge) := by
  refine deleteChallenge_inherits.bind fun _ => inherits_of_policy ?_
  exact generateAuthTokens_policy.bind fun _ =>
    storeSessionAndLogSuccess_policy.bind fun _ => Faulty.leaves_pure _

theorem rightCode_ok {sessionId userId : Uuid} {challengeId : String}
    {challenge : MfaChallengeData} {tokens : AuthTokens}
    (h : rightCode ctx sessionId user userId challengeId challenge w = (.ok tokens, w')) :
    tokens = ⟨user.id, sessionId.text, user.tenantCode⟩ := by
  obtain ⟨u, w₁, -, hrest⟩ := Faulty.bind_ok.mp h
  obtain ⟨signed, w₂, hsigned, hrest⟩ := Faulty.bind_ok.mp hrest
  obtain ⟨u₃, w₃, -, hrest⟩ := Faulty.bind_ok.mp hrest
  obtain ⟨rfl, -⟩ := Faulty.pure_ok.mp hrest
  exact generateAuthTokens_ok hsigned

/-- However it ends: no challenge is new; and tokens are for the user of the request, who
    has presented the right code with a live challenge. -/
theorem verifyLoginChallenge_run {sessionId userId : Uuid} {dto : VerifyChallengeDto}
    {r : Except AccountError AuthTokens}
    (h : verifyLoginChallenge ctx sessionId userId dto w = (r, w')) :
    Inherits w.state w'.state ∧ ∀ tokens, r = .ok tokens → ∃ user challenge,
      UserRepository.userInTenant ctx w.state.db userId = some user ∧ dto.code = "123456" ∧
      w.state.challenge (challengeKey ctx.tenantCode userId dto.challengeId) = some challenge ∧
      tokens = ⟨user.id, sessionId.text, user.tenantCode⟩ := by
  rcases Faulty.bind_cases h with ⟨e, he, rfl⟩ | ⟨user, w₁, hfind, hrest⟩
  · exact ⟨.of_policy (required_policy.ok he) (.refl _), nofun⟩
  obtain ⟨huser, hstate₁⟩ := readDb_ok (required_ok.mp hfind)
  rcases Faulty.bind_cases hrest with ⟨e, he, rfl⟩ | ⟨found, w₂, hget, hrest⟩
  · have hsame : policyOf w'.state = policyOf w₁.state :=
      (Faulty.leaves_tryCatch (Faulty.leaves_read _) fun _ => Faulty.leaves_throw _).ok he
    exact ⟨.of_policy (hsame.trans (congrArg policyOf hstate₁)) (.refl _), nofun⟩
  obtain ⟨hfound, hstate₂⟩ := Faulty.read_ok (Faulty.tryCatch_throw_ok hget)
  rw [hstate₁] at hfound hstate₂
  have hkeep : ∀ x : AccountService AuthTokens, Faulty.Preserves (Inherits w.state) x →
      x w₂ = (r, w') → Inherits w.state w'.state := by
    intro x hx hrun
    have hafter := hx w₂ (by rw [hstate₂]; exact .refl _)
    rwa [hrun] at hafter
  cases found with
  | none =>
    refine ⟨hkeep _ (Faulty.preserves_throw _) hrest, fun tokens hok => ?_⟩
    rw [hok] at hrest
    exact absurd hrest Faulty.throw_ok
  | some challenge =>
    simp only at hrest
    split at hrest
    · refine ⟨hkeep _ (wrongCode_inherits hfound.symm) hrest, fun tokens hok => ?_⟩
      rw [hok] at hrest
      exact absurd hrest wrongCode_throws
    next hcode =>
      refine ⟨hkeep _ rightCode_inherits hrest, fun tokens hok => ?_⟩
      rw [hok] at hrest
      exact ⟨user, challenge, huser.symm, not_not.mp hcode, hfound.symm, rightCode_ok hrest⟩

end MfaApplicationService

-- ============================================================================
-- provisioning.application.service.ts
-- ============================================================================

namespace ProvisioningApplicationService

variable {fresh : FreshInvitation} {event : EmployeeEvent} {payload : EmployeeStatusPayload}
  {employee : EmployeeRow} {sourceVersion : String}

theorem clock_policy : Faulty.Leaves policyOf clock := fun _ => rfl

theorem updateEmployee_policy {id : Uuid} {status : Option String} {sourceVersion : String} :
    Faulty.Leaves policyOf (EmployeeReferenceRepository.update id status sourceVersion) :=
  writeDb_policy fun _ _ h => by
    obtain ⟨-, -, rfl⟩ := Option.map_eq_some_iff.mp h
    exact ⟨rfl, rfl⟩

theorem createInvitation_policy {invitation : Invitation} :
    Faulty.Leaves policyOf (InvitationRepository.create invitation) :=
  writeDb_policy fun _ _ h => by
    split at h
    · obtain ⟨-, -, rfl⟩ := Option.map_eq_some_iff.mp h
      exact ⟨rfl, rfl⟩
    · cases h

theorem revokePendingInvitations_policy {userId : Uuid} :
    Faulty.Leaves policyOf (revokePendingInvitations ctx userId) :=
  readDb_policy.bind fun _ => Faulty.leaves_when (Faulty.leaves_write fun _ => rfl)

theorem revokeAllSessions_policy {tenantCode : String} {userId : Uuid} :
    Faulty.Leaves policyOf (SessionApplicationService.revokeAllSessions ctx tenantCode userId) :=
  Faulty.leaves_when ((Faulty.leaves_read _).bind fun _ =>
    Faulty.leaves_when (writeRedis_policy fun _ _ => rfl))

theorem synchronizeUser_policy :
    Faulty.Leaves policyOf (synchronizeUser ctx fresh event user employee sourceVersion) := by
  cases event with
  | EMPLOYEE_SUSPENDED =>
    refine update_policy.bind fun _ => updateEmployee_policy.bind fun _ => ?_
    exact log_policy.bind fun _ => revokeAllSessions_policy.bind fun _ => Faulty.leaves_pure _
  | EMPLOYEE_TERMINATED =>
    refine update_policy.bind fun _ => updateEmployee_policy.bind fun _ => ?_
    refine revokePendingInvitations_policy.bind fun _ => log_policy.bind fun _ => ?_
    exact revokeAllSessions_policy.bind fun _ => Faulty.leaves_pure _
  | EMPLOYEE_REACTIVATED =>
    refine update_policy.bind fun _ => updateEmployee_policy.bind fun _ => ?_
    refine revokePendingInvitations_policy.bind fun _ => clock_policy.bind fun _ => ?_
    refine createInvitation_policy.bind fun _ => log_policy.bind fun _ => Faulty.leaves_pure _
  | other => exact Faulty.leaves_pure _

/-- An event leaves the challenges of the user alone. -/
theorem synchronizeEmployeeStatus_policy :
    Faulty.Leaves policyOf (synchronizeEmployeeStatus ctx fresh event payload) := by
  refine runInTransaction_policy (readDb_policy.bind fun found => ?_)
  cases found with
  | none => exact Faulty.leaves_pure _
  | some employee =>
    simp only
    split
    · exact Faulty.leaves_pure _
    · refine readDb_policy.bind fun linked => ?_
      cases linked with
      | none => exact updateEmployee_policy.bind fun _ => Faulty.leaves_pure _
      | some user => exact synchronizeUser_policy

end ProvisioningApplicationService

end AccessService.Accounts
