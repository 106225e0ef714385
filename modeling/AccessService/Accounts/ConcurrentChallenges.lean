/-
  AccessService.Accounts.ConcurrentChallenges

  Calls of `verifyLoginChallenge` on one challenge, interleaved command by command.  The
  attempts are counted by a read and a write, and the challenge is used up by a separate
  delete.  Redis answers every command, and the challenge does not expire.
-/

import AccessService.Accounts.Challenges
import AccessService.Accounts.TenantLogins
import AccessService.Lib.Pool

namespace AccessService.Accounts

open AccessService.Lib AccessService.Lib.Transition AccessService.Pg

-- ============================================================================
-- Commands
-- ============================================================================

/-- How far a call is, with what it has read. -/
inductive VerifyPhase where
  | called (code : String)
  /-- The user is found. -/
  | started (code : String)
  | notFound
  | found (code : String) (challenge : MfaChallengeData)
  | decremented (remaining : ℤ)
  | locked
  | incorrect
  | deleted
  /-- The tokens are returned. -/
  | returned
  deriving DecidableEq

abbrev ChallengePool : Type := Pool (Option MfaChallengeData) VerifyPhase

namespace MfaApplicationService

/-- The next command of a call on the challenge that is stored, if one is.  What follows
    the delete succeeds. -/
def command (stored : Option MfaChallengeData) :
    VerifyPhase → Option (Option MfaChallengeData × VerifyPhase)
  | .called code => some (stored, .started code)
  | .started code =>
    match stored with
    | none => some (stored, .notFound)
    | some challenge => some (stored, .found code challenge)
  | .found code challenge =>
    if code ≠ "123456" then
      let updated := { challenge with attemptsLeft := challenge.attemptsLeft - 1 }
      if updated.attemptsLeft ≤ 0 then some (none, .decremented updated.attemptsLeft)
      else some (some updated, .decremented updated.attemptsLeft)
    else some (none, .deleted)
  | .decremented remaining => some (stored, if remaining ≤ 0 then .locked else .incorrect)
  | .deleted => some (stored, .returned)
  | .notFound | .locked | .incorrect | .returned => none

/-- Calls with these codes that are about to begin. -/
def verifications (challenge : MfaChallengeData) (codes : List String) : ChallengePool where
  shared := some challenge
  threads := codes.map .called

def challengeRaces : System ChallengePool Nat :=
  Pool.system (fun s => ∃ challenge codes, s = verifications challenge codes) command

end MfaApplicationService

-- ============================================================================
-- A call alone
-- ============================================================================

namespace AccountStore

variable {s : AccountStore} {challenge : MfaChallengeData} {key : String}

def withoutChallenge (s : AccountStore) (key : String) : AccountStore :=
  { s with redis := { s.redis with mfaChallenges := s.redis.mfaChallenges.erase key } }

def withChallenge (s : AccountStore) (challenge : MfaChallengeData) : AccountStore :=
  { s with redis := { s.redis with
      mfaChallenges := s.redis.mfaChallenges.set (AuthApplicationService.challengeKeyOf challenge)
        challenge (some (s.now + seconds AuthApplicationService.mfaTtlSeconds)) } }

theorem challenge_withoutChallenge : (s.withoutChallenge key).challenge key = none :=
  Expiring.get_erase_same

theorem challenge_withChallenge :
    (s.withChallenge challenge).challenge (AuthApplicationService.challengeKeyOf challenge) =
      some challenge :=
  Expiring.get_set_ttl (by decide)

end AccountStore

namespace MfaApplicationService

/-- How a call has ended. -/
def answer : VerifyPhase → Option (Except AccountError Unit)
  | .notFound =>
    some (.error (UnauthorizedException "INVALID_MFA_CODE: Challenge code expired or invalid"))
  | .locked => some (.error
      (httpError "HttpException" "MFA_CHALLENGE_LOCKED: Maximum attempts exceeded" 429))
  | .incorrect =>
    some (.error (UnauthorizedException "INVALID_MFA_CODE: Incorrect verification code"))
  | .returned => some (.ok ())
  | _ => none

section Alone

open AuthApplicationService RedisMfaChallengeAdapter

variable {ctx : AccountContext} {user : UserRow} {s : AccountStore} {challenge : MfaChallengeData}
  {sessionId userId : Uuid} {dto : VerifyChallengeDto} {code : String}

/-- The commands one after another, and how the call ends. -/
abbrev RunsAlone (stored : Option MfaChallengeData) (p : VerifyPhase)
    (left : Option MfaChallengeData) (result : Except AccountError AuthTokens) : Prop :=
  Pool.RunsAlone command answer stored p left (result.map fun _ => ())

theorem deleteChallenge_calm {tenantCode challengeId : String} :
    deleteChallenge tenantCode userId challengeId (.calm s) =
      (.ok (), .calm (s.withoutChallenge (challengeKey tenantCode userId challengeId))) :=
  rfl

theorem wrongCode_calm (hcode : code ≠ "123456") :
    ∃ e s', wrongCode challenge (.calm s) = (.error e, .calm s') ∧
      RunsAlone (s.challenge (challengeKeyOf challenge)) (.found code challenge)
        (s'.challenge (challengeKeyOf challenge)) (.error e) := by
  by_cases hleft : challenge.attemptsLeft - 1 ≤ 0
  · have hdeletes : command (s.challenge (challengeKeyOf challenge)) (.found code challenge) =
        some (none, .decremented (challenge.attemptsLeft - 1)) :=
      (if_pos hcode).trans (if_pos hleft)
    have hdecrement : decrementAttempts challenge (.calm s) = (.ok (challenge.attemptsLeft - 1),
        .calm (s.withoutChallenge (challengeKeyOf challenge))) := by
      simp only [decrementAttempts, if_pos hleft]
      rfl
    refine ⟨_, _, (Faulty.bind_runs hdecrement).trans (congrFun (if_pos hleft) _), ?_⟩
    rw [AccountStore.challenge_withoutChallenge]
    refine Pool.RunsAlone.next hdeletes (Pool.RunsAlone.next rfl (Pool.RunsAlone.ended ?_))
    rw [if_pos hleft]
    rfl
  · have hwrites : command (s.challenge (challengeKeyOf challenge)) (.found code challenge) =
        some (some { challenge with attemptsLeft := challenge.attemptsLeft - 1 },
          .decremented (challenge.attemptsLeft - 1)) :=
      (if_pos hcode).trans (if_neg hleft)
    have hdecrement : decrementAttempts challenge (.calm s) = (.ok (challenge.attemptsLeft - 1),
        .calm (s.withChallenge { challenge with attemptsLeft := challenge.attemptsLeft - 1 })) := by
      simp only [decrementAttempts, if_neg hleft]
      rfl
    refine ⟨_, _, (Faulty.bind_runs hdecrement).trans (congrFun (if_neg hleft) _), ?_⟩
    rw [show challengeKeyOf challenge =
      challengeKeyOf { challenge with attemptsLeft := challenge.attemptsLeft - 1 } from rfl,
      AccountStore.challenge_withChallenge]
    refine Pool.RunsAlone.next hwrites (Pool.RunsAlone.next rfl (Pool.RunsAlone.ended ?_))
    rw [if_neg hleft]
    rfl

theorem rightCode_calm {stored : Option MfaChallengeData} {challengeId : String}
    (hcode : code = "123456") :
    ∃ tokens s', rightCode ctx sessionId user userId challengeId challenge (.calm s) =
        (.ok tokens, .calm s') ∧
      RunsAlone stored (.found code challenge)
        (s'.challenge (challengeKey ctx.tenantCode userId challengeId)) (.ok tokens) := by
  have hstores : Faulty.Completes
      (storeSessionAndLogSuccess ctx user sessionId.text challenge.rememberMe) :=
    storeSessionAndLogSuccess_completes
  obtain ⟨u, s', hstored⟩ :=
    hstores (s.withoutChallenge (challengeKey ctx.tenantCode userId challengeId))
  have hsame := challenge_of_policy (storeSessionAndLogSuccess_policy.ok hstored)
    (challengeKey ctx.tenantCode userId challengeId)
  refine ⟨_, s', (Faulty.bind_runs deleteChallenge_calm).trans
    ((Faulty.bind_runs rfl).trans (Faulty.bind_runs hstored)), ?_⟩
  rw [Faulty.calm_state, Faulty.calm_state, AccountStore.challenge_withoutChallenge] at hsame
  rw [hsame]
  exact .next (if_neg (not_not.mpr hcode)) (.next rfl (.ended rfl))

theorem verifyLoginChallenge_calm
    (huser : UserRepository.userInTenant ctx s.db userId = some user)
    (hkeyed : ∀ challenge,
      s.challenge (challengeKey ctx.tenantCode userId dto.challengeId) = some challenge →
        challengeKeyOf challenge = challengeKey ctx.tenantCode userId dto.challengeId) :
    ∃ result s', verifyLoginChallenge ctx sessionId userId dto (.calm s) = (result, .calm s') ∧
      RunsAlone (s.challenge (challengeKey ctx.tenantCode userId dto.challengeId))
        (.called dto.code)
        (s'.challenge (challengeKey ctx.tenantCode userId dto.challengeId)) result := by
  have hfind : required (UserRepository.findById ctx userId) (.calm s) = (.ok user, .calm s) :=
    required_ok.mpr (congrArg (fun found => (Except.ok found, World.calm s)) huser)
  have hget : getChallenge ctx.tenantCode userId dto.challengeId (.calm s) =
      (.ok (s.challenge (challengeKey ctx.tenantCode userId dto.challengeId)), .calm s) :=
    rfl
  unfold verifyLoginChallenge
  rw [Faulty.bind_runs hfind, Faulty.bind_runs hget]
  rcases hfound : s.challenge (challengeKey ctx.tenantCode userId dto.challengeId) with
    _ | challenge
  · refine ⟨_, s, rfl, ?_⟩
    rw [hfound]
    exact Pool.RunsAlone.next rfl (Pool.RunsAlone.next rfl (Pool.RunsAlone.ended rfl))
  · have hkey := hkeyed challenge hfound
    have hfinds : ∀ left result,
        RunsAlone (some challenge) (.found dto.code challenge) left result →
          RunsAlone (some challenge) (.called dto.code) left result :=
      fun left result h => Pool.RunsAlone.next rfl (Pool.RunsAlone.next rfl h)
    simp only
    split
    next hcode =>
      obtain ⟨e, s', hrun, halone⟩ : ∃ e s', wrongCode challenge (.calm s) = (.error e, .calm s') ∧
          RunsAlone (s.challenge (challengeKeyOf challenge)) (.found dto.code challenge)
            (s'.challenge (challengeKeyOf challenge)) (.error e) :=
        wrongCode_calm hcode
      rw [hkey, hfound] at halone
      exact ⟨_, s', hrun, hfinds _ _ halone⟩
    next hcode =>
      obtain ⟨tokens, s', hrun, halone⟩ := rightCode_calm (not_not.mp hcode)
      exact ⟨_, s', hrun, hfinds _ _ halone⟩

/-- With all stores available, a call about a user that is there has run its commands one
    after another. -/
theorem verifyLoginChallenge_alone
    (huser : UserRepository.userInTenant ctx s.db userId = some user)
    (hkeyed : ∀ challenge,
      s.challenge (challengeKey ctx.tenantCode userId dto.challengeId) = some challenge →
        challengeKeyOf challenge = challengeKey ctx.tenantCode userId dto.challengeId) :
    ∃ result s' p, verifyLoginChallenge ctx sessionId userId dto (.calm s) = (result, .calm s') ∧
      answer p = some (result.map fun _ => ()) ∧
      challengeRaces.Steps Always
        ⟨s.challenge (challengeKey ctx.tenantCode userId dto.challengeId), [.called dto.code]⟩
        ⟨s'.challenge (challengeKey ctx.tenantCode userId dto.challengeId), [p]⟩ := by
  obtain ⟨result, s', hrun, halone⟩ := verifyLoginChallenge_calm huser hkeyed
  obtain ⟨p, hanswer, hsteps⟩ := halone.steps
  exact ⟨result, s', p, hrun, hanswer, hsteps⟩

end Alone

end MfaApplicationService

-- ============================================================================
-- Places
-- ============================================================================

def isRightCode (code : String) : Bool := code = "123456"

namespace VerifyPhase

/-- The call has got past the lookup. -/
def hasFound : VerifyPhase → Bool
  | .called _ | .started _ | .notFound => false
  | _ => true

/-- It has, and has yet to write. -/
def pending (right : Bool) : VerifyPhase → Bool
  | .found code _ => isRightCode code == right
  | _ => false

/-- The call has got past the lookup, with a wrong code. -/
def foundWrong : VerifyPhase → Bool
  | .found code _ => !isRightCode code
  | .decremented _ | .locked | .incorrect => true
  | _ => false

def foundRight : VerifyPhase → Bool
  | .found code _ => isRightCode code
  | .deleted | .returned => true
  | _ => false

/-- The call has deleted the challenge. -/
def hasDeleted : VerifyPhase → Bool
  | .decremented remaining => remaining ≤ 0
  | .locked | .deleted | .returned => true
  | _ => false

def isReturned : VerifyPhase → Bool
  | .returned => true
  | _ => false

/-- Tokens, or that the challenge is locked. -/
def closes : VerifyPhase → Bool
  | .locked | .returned => true
  | _ => false

theorem foundRight_of_isReturned (p : VerifyPhase) (h : p.isReturned = true) :
    p.foundRight = true := by
  cases p with
  | returned => rfl
  | _ => cases h

theorem hasDeleted_of_closes (p : VerifyPhase) (h : p.closes = true) : p.hasDeleted = true := by
  cases p with
  | locked => rfl
  | returned => rfl
  | _ => cases h

theorem foundRight_cases {p : VerifyPhase} (h : p.foundRight = true) :
    p.pending true = true ∨ p.hasDeleted = true := by
  cases p with
  | found code _ => exact .inl (beq_iff_eq.mpr h)
  | deleted => exact .inr rfl
  | returned => exact .inr rfl
  | _ => cases h

end VerifyPhase

namespace MfaApplicationService

-- ============================================================================
-- What a command does
-- ============================================================================

inductive VerifyMove (stored : Option MfaChallengeData) :
    VerifyPhase → Option MfaChallengeData → VerifyPhase → Prop where
  | starts {code} : VerifyMove stored (.called code) stored (.started code)
  | misses {code} (hnone : stored = none) : VerifyMove stored (.started code) stored .notFound
  | finds {code challenge} (hsome : stored = some challenge) :
      VerifyMove stored (.started code) stored (.found code challenge)
  | decrements {code challenge} (hwrong : isRightCode code = false)
      (hleft : 1 < challenge.attemptsLeft) :
      VerifyMove stored (.found code challenge)
        (some { challenge with attemptsLeft := challenge.attemptsLeft - 1 })
        (.decremented (challenge.attemptsLeft - 1))
  | exhausts {code challenge} (hwrong : isRightCode code = false)
      (hleft : challenge.attemptsLeft ≤ 1) :
      VerifyMove stored (.found code challenge) none (.decremented (challenge.attemptsLeft - 1))
  | deletes {code challenge} (hright : isRightCode code = true) :
      VerifyMove stored (.found code challenge) none .deleted
  | locks {remaining} (hnone : remaining ≤ 0) :
      VerifyMove stored (.decremented remaining) stored .locked
  | refuses {remaining} (hsome : 0 < remaining) :
      VerifyMove stored (.decremented remaining) stored .incorrect
  | returns : VerifyMove stored .deleted stored .returned

theorem command_move {stored stored' : Option MfaChallengeData} {p p' : VerifyPhase}
    (h : command stored p = some (stored', p')) : VerifyMove stored p stored' p' := by
  cases p with
  | called code =>
    cases h
    exact .starts
  | started code =>
    cases stored with
    | none =>
      cases h
      exact .misses rfl
    | some challenge =>
      cases h
      exact .finds rfl
  | found code challenge =>
    simp only [command] at h
    split at h
    next hcode =>
      have hwrong : isRightCode code = false := decide_eq_false hcode
      split at h
      next hleft =>
        cases h
        exact .exhausts hwrong (by omega)
      next hleft =>
        cases h
        exact .decrements hwrong (by omega)
    next hcode =>
      cases h
      exact .deletes (decide_eq_true (not_not.mp hcode))
  | decremented remaining =>
    rw [command] at h
    split at h
    next hnone =>
      cases h
      exact .locks hnone
    next hsome =>
      cases h
      exact .refuses (not_le.mp hsome)
  | deleted =>
    cases h
    exact .returns
  | notFound => cases h
  | locked => cases h
  | incorrect => cases h
  | returned => cases h

-- ============================================================================
-- Limits
-- ============================================================================

/-- The limits of a challenge that was stored with `n` attempts left, in a state and a
    later one. -/
structure Limits (n : ℤ) (s later : ChallengePool) : Prop where
  attempts : (s.count VerifyPhase.foundWrong : ℤ) ≤ max 1 n
  singleUse : s.count VerifyPhase.isReturned ≤ 1
  closed : 0 < s.count VerifyPhase.closes →
    ∀ (i : Nat) (code : String), s.threads[i]? = some (VerifyPhase.called code) →
      ∀ p : VerifyPhase, later.threads[i]? = some p → p.hasFound = false

/-- A call finds the challenge only if no other with a code as right or as wrong has yet to
    write, and writes it only if it is still there. -/
def inOrder (s : ChallengePool) : VerifyPhase → Bool
  | .started code => s.shared.isNone || s.count (VerifyPhase.pending (isRightCode code)) == 0
  | .found code challenge =>
    isRightCode code || challenge.attemptsLeft ≤ 1 || s.shared.isSome
  | _ => true

def Orderly (s : ChallengePool) (i : Nat) : Prop := ∀ p ∈ s.threads[i]?, inOrder s p = true

instance (s : ChallengePool) (i : Nat) : Decidable (Orderly s i) :=
  inferInstanceAs (Decidable (∀ p ∈ s.threads[i]?, inOrder s p = true))

-- ============================================================================
-- Invariant
-- ============================================================================

/-- A call with a wrong code that has yet to write has read what is stored, if anything is. -/
def Fits (stored : Option MfaChallengeData) : VerifyPhase → Prop
  | .found code challenge =>
    isRightCode code = false → ∀ challenge', stored = some challenge' → challenge' = challenge
  | _ => True

structure Sound (n : ℤ) (s : ChallengePool) : Prop where
  fits : ∀ p ∈ s.threads, Fits s.shared p
  pending : s.count (VerifyPhase.pending false) ≤ 1
  foundRight : s.count VerifyPhase.foundRight ≤ 1
  deleted : 0 < s.count VerifyPhase.hasDeleted → s.shared = none
  attempts : (s.count VerifyPhase.foundWrong : ℤ) ≤ max 1 n
  /-- Each call with a wrong code has cost an attempt, or has yet to write. -/
  left : ∀ challenge, s.shared = some challenge →
    (s.count VerifyPhase.foundWrong : ℤ) + challenge.attemptsLeft =
        n + s.count (VerifyPhase.pending false) ∧
      (challenge.attemptsLeft = n ∨ 1 ≤ challenge.attemptsLeft)

section Step

variable {n : ℤ} {s : ChallengePool} {i : Nat} {p p' : VerifyPhase}
  {stored : Option MfaChallengeData} {code : String} {challenge : MfaChallengeData}

theorem inOrder_finds (h : inOrder s (.started code) = true) (hsome : s.shared = some challenge) :
    s.count (VerifyPhase.pending (isRightCode code)) = 0 := by
  rw [inOrder, hsome] at h
  exact eq_of_beq h

theorem inOrder_decrements (h : inOrder s (.found code challenge) = true)
    (hwrong : isRightCode code = false) (hleft : 1 < challenge.attemptsLeft) :
    ∃ challenge', s.shared = some challenge' := by
  rw [inOrder, hwrong, decide_eq_false (not_le.mpr hleft)] at h
  exact Option.isSome_iff_exists.mp h

/-- The call that writes was the only one with a wrong code that had yet to. -/
theorem none_pending (hp : s.threads[i]? = some (.found code challenge))
    (hwrong : isRightCode code = false) (hafter : p'.pending false = false)
    (h : s.count (VerifyPhase.pending false) ≤ 1) :
    (s.put i stored p').count (VerifyPhase.pending false) = 0 ∧
      s.count (VerifyPhase.pending false) = 1 := by
  have hleave : (s.put i stored p').count (VerifyPhase.pending false) + 1 =
      s.count (VerifyPhase.pending false) :=
    Pool.count_put_leave _ hp (by rw [VerifyPhase.pending, hwrong]; rfl) hafter
  omega

theorem fits_step (hp : s.threads[i]? = some p) (hmove : VerifyMove s.shared p stored p')
    (h : Sound n s) : ∀ q ∈ (s.put i stored p').threads, Fits stored q := by
  have hsame : stored = s.shared → Fits stored p' →
      ∀ q ∈ (s.put i stored p').threads, Fits stored q := by
    intro hstored hnew q hq
    rcases Pool.mem_put hq with rfl | hold
    · exact hnew
    · rw [hstored]
      exact h.fits q hold
  have hempty : stored = none → ∀ q ∈ (s.put i stored p').threads, Fits stored q := by
    rintro rfl q -
    cases q with
    | found _ _ => exact fun _ _ hsome => nomatch hsome
    | _ => trivial
  cases hmove with
  | starts => exact hsame rfl trivial
  | misses _ => exact hsame rfl trivial
  | finds hsome =>
    refine hsame rfl fun _ challenge' hsome' => ?_
    exact Option.some.inj (hsome'.symm.trans hsome)
  | decrements hwrong _ =>
    intro q hq
    have hnone := Pool.not_at_of_count (none_pending hp hwrong rfl h.pending).1 hq
    cases q with
    | found _ _ =>
      intro hother
      rw [VerifyPhase.pending, hother] at hnone
      cases hnone
    | _ => trivial
  | exhausts _ _ => exact hempty rfl
  | deletes _ => exact hempty rfl
  | locks _ => exact hsame rfl trivial
  | refuses _ => exact hsame rfl trivial
  | returns => exact hsame rfl trivial

theorem pending_step (hp : s.threads[i]? = some p) (hmeets : inOrder s p = true)
    (hmove : VerifyMove s.shared p stored p') (h : Sound n s) :
    (s.put i stored p').count (VerifyPhase.pending false) ≤ 1 := by
  have hsame : p'.pending false = p.pending false →
      (s.put i stored p').count (VerifyPhase.pending false) ≤ 1 := by
    intro hplace
    rw [Pool.count_put_same _ hp hplace]
    exact h.pending
  cases hmove with
  | starts => exact hsame rfl
  | misses _ => exact hsame rfl
  | @finds code challenge hsome =>
    cases hcode : isRightCode code with
    | true => exact hsame (by rw [VerifyPhase.pending, hcode]; rfl)
    | false =>
      have hnone := inOrder_finds hmeets hsome
      rw [hcode] at hnone
      rw [Pool.count_put_enter _ hp rfl (by rw [VerifyPhase.pending, hcode]; rfl), hnone]
  | decrements hwrong _ =>
    rw [(none_pending hp hwrong rfl h.pending).1]
    exact Nat.zero_le 1
  | exhausts hwrong _ =>
    rw [(none_pending hp hwrong rfl h.pending).1]
    exact Nat.zero_le 1
  | deletes hright => exact hsame (by rw [VerifyPhase.pending, hright]; rfl)
  | locks _ => exact hsame rfl
  | refuses _ => exact hsame rfl
  | returns => exact hsame rfl

theorem foundRight_step (hp : s.threads[i]? = some p) (hmeets : inOrder s p = true)
    (hmove : VerifyMove s.shared p stored p') (h : Sound n s) :
    (s.put i stored p').count VerifyPhase.foundRight ≤ 1 := by
  have hsame : p'.foundRight = p.foundRight →
      (s.put i stored p').count VerifyPhase.foundRight ≤ 1 := by
    intro hplace
    rw [Pool.count_put_same _ hp hplace]
    exact h.foundRight
  cases hmove with
  | starts => exact hsame rfl
  | misses _ => exact hsame rfl
  | @finds code challenge hsome =>
    cases hcode : isRightCode code with
    | false => exact hsame (by rw [VerifyPhase.foundRight, hcode]; rfl)
    | true =>
      have hpending := inOrder_finds hmeets hsome
      rw [hcode] at hpending
      have hnone : s.count VerifyPhase.foundRight = 0 := by
        refine List.countP_eq_zero.mpr fun q hq hright => ?_
        rcases VerifyPhase.foundRight_cases hright with hq' | hq'
        · rw [Pool.not_at_of_count hpending hq] at hq'
          cases hq'
        · have hdeleted := h.deleted (List.countP_pos_iff.mpr ⟨q, hq, hq'⟩)
          rw [hsome] at hdeleted
          cases hdeleted
      rw [Pool.count_put_enter _ hp rfl hcode, hnone]
  | decrements hwrong _ => exact hsame hwrong.symm
  | exhausts hwrong _ => exact hsame hwrong.symm
  | deletes hright => exact hsame hright.symm
  | locks _ => exact hsame rfl
  | refuses _ => exact hsame rfl
  | returns => exact hsame rfl

theorem deleted_step (hp : s.threads[i]? = some p) (hmeets : inOrder s p = true)
    (hmove : VerifyMove s.shared p stored p') (h : Sound n s)
    (hpos : 0 < (s.put i stored p').count VerifyPhase.hasDeleted) : stored = none := by
  have hsame : p'.hasDeleted = p.hasDeleted → s.shared = none := by
    intro hplace
    rw [Pool.count_put_same _ hp hplace] at hpos
    exact h.deleted hpos
  cases hmove with
  | starts => exact hsame rfl
  | misses _ => exact hsame rfl
  | finds _ => exact hsame rfl
  | decrements hwrong hleft =>
    -- it has been there, so nobody has deleted it
    exfalso
    obtain ⟨challenge', hsome⟩ := inOrder_decrements hmeets hwrong hleft
    rw [hsame (decide_eq_false (by omega))] at hsome
    cases hsome
  | exhausts _ _ => rfl
  | deletes _ => rfl
  | locks hnone => exact hsame (decide_eq_true hnone).symm
  | refuses hsome => exact hsame (decide_eq_false (not_le.mpr hsome)).symm
  | returns => exact hsame rfl

theorem attempts_step (hp : s.threads[i]? = some p) (hmeets : inOrder s p = true)
    (hmove : VerifyMove s.shared p stored p') (h : Sound n s) :
    ((s.put i stored p').count VerifyPhase.foundWrong : ℤ) ≤ max 1 n := by
  have hsame : p'.foundWrong = p.foundWrong →
      ((s.put i stored p').count VerifyPhase.foundWrong : ℤ) ≤ max 1 n := by
    intro hplace
    rw [Pool.count_put_same _ hp hplace]
    exact h.attempts
  cases hmove with
  | starts => exact hsame rfl
  | misses _ => exact hsame rfl
  | @finds code challenge hsome =>
    cases hcode : isRightCode code with
    | true => exact hsame (by rw [VerifyPhase.foundWrong, hcode]; rfl)
    | false =>
      have hnone := inOrder_finds hmeets hsome
      rw [hcode] at hnone
      obtain ⟨hsum, hleft⟩ := h.left challenge hsome
      rw [hnone] at hsum
      rw [Pool.count_put_enter _ hp rfl (by rw [VerifyPhase.foundWrong, hcode]; rfl)]
      omega
  | decrements hwrong _ => exact hsame (by rw [VerifyPhase.foundWrong, hwrong]; rfl)
  | exhausts hwrong _ => exact hsame (by rw [VerifyPhase.foundWrong, hwrong]; rfl)
  | deletes hright => exact hsame (by rw [VerifyPhase.foundWrong, hright]; rfl)
  | locks _ => exact hsame rfl
  | refuses _ => exact hsame rfl
  | returns => exact hsame rfl

theorem left_step (hp : s.threads[i]? = some p) (hmeets : inOrder s p = true)
    (hmove : VerifyMove s.shared p stored p') (h : Sound n s) (hstored : stored = some challenge) :
    ((s.put i stored p').count VerifyPhase.foundWrong : ℤ) + challenge.attemptsLeft =
        n + (s.put i stored p').count (VerifyPhase.pending false) ∧
      (challenge.attemptsLeft = n ∨ 1 ≤ challenge.attemptsLeft) := by
  have hsame : stored = s.shared → p'.foundWrong = p.foundWrong →
      p'.pending false = p.pending false →
      ((s.put i stored p').count VerifyPhase.foundWrong : ℤ) + challenge.attemptsLeft =
          n + (s.put i stored p').count (VerifyPhase.pending false) ∧
        (challenge.attemptsLeft = n ∨ 1 ≤ challenge.attemptsLeft) := by
    intro hshared hfound hpending
    rw [Pool.count_put_same _ hp hfound, Pool.count_put_same _ hp hpending]
    exact h.left challenge (hshared.symm.trans hstored)
  cases hmove with
  | starts => exact hsame rfl rfl rfl
  | misses _ => exact hsame rfl rfl rfl
  | @finds code _ _ =>
    cases hcode : isRightCode code with
    | true =>
      exact hsame rfl (by rw [VerifyPhase.foundWrong, hcode]; rfl)
        (by rw [VerifyPhase.pending, hcode]; rfl)
    | false =>
      obtain ⟨hsum, hleft⟩ := h.left challenge hstored
      rw [Pool.count_put_enter _ hp rfl (by rw [VerifyPhase.foundWrong, hcode]; rfl),
        Pool.count_put_enter _ hp rfl (by rw [VerifyPhase.pending, hcode]; rfl)]
      refine ⟨?_, hleft⟩
      push_cast
      omega
  | @decrements code read hwrong hmore =>
    obtain ⟨challenge', hsome⟩ := inOrder_decrements hmeets hwrong hmore
    obtain rfl : challenge' = read := h.fits _ (Rows.mem_of_row hp) hwrong challenge' hsome
    obtain ⟨hsum, hleft⟩ := h.left challenge' hsome
    obtain ⟨hafter, hbefore⟩ : (s.put i
          (some { challenge' with attemptsLeft := challenge'.attemptsLeft - 1 })
          (.decremented (challenge'.attemptsLeft - 1))).count (VerifyPhase.pending false) = 0 ∧
        s.count (VerifyPhase.pending false) = 1 :=
      none_pending hp hwrong rfl h.pending
    obtain rfl := Option.some.inj hstored
    rw [Pool.count_put_same VerifyPhase.foundWrong hp (by simp [VerifyPhase.foundWrong, hwrong]),
      hafter]
    rw [hbefore] at hsum
    refine ⟨?_, .inr (Int.le_sub_one_of_lt hmore)⟩
    push_cast at hsum ⊢
    omega
  | exhausts _ _ => cases hstored
  | deletes _ => cases hstored
  | locks _ => exact hsame rfl rfl rfl
  | refuses _ => exact hsame rfl rfl rfl
  | returns => exact hsame rfl rfl rfl

theorem Sound.step (hp : s.threads[i]? = some p) (hmeets : inOrder s p = true)
    (hmove : VerifyMove s.shared p stored p') (h : Sound n s) : Sound n (s.put i stored p') where
  fits := fits_step hp hmove h
  pending := pending_step hp hmeets hmove h
  foundRight := foundRight_step hp hmeets hmove h
  deleted := deleted_step hp hmeets hmove h
  attempts := attempts_step hp hmeets hmove h
  left _ := left_step hp hmeets hmove h

end Step

-- ============================================================================
-- Runs
-- ============================================================================

section Runs

variable {n : ℤ} {s t : ChallengePool} {challenge : MfaChallengeData} {codes : List String}
  {i : Nat} {code : String}

theorem count_verifications {place : VerifyPhase → Bool}
    (h : ∀ code, place (.called code) = false) :
    (verifications challenge codes).count place = 0 := by
  refine List.countP_eq_zero.mpr fun p hp => ?_
  obtain ⟨code, -, rfl⟩ := List.mem_map.mp hp
  rw [h code]
  exact Bool.false_ne_true

theorem sound_verifications : Sound challenge.attemptsLeft (verifications challenge codes) where
  fits p hp := by
    obtain ⟨code, -, rfl⟩ := List.mem_map.mp hp
    trivial
  pending := by
    rw [count_verifications fun _ => rfl]
    exact Nat.zero_le 1
  foundRight := by
    rw [count_verifications fun _ => rfl]
    exact Nat.zero_le 1
  deleted h := by
    rw [count_verifications fun _ => rfl] at h
    exact absurd h (Nat.lt_irrefl 0)
  attempts := by
    rw [count_verifications fun _ => rfl]
    exact le_max_of_le_left zero_le_one
  left challenge' h := by
    rw [count_verifications fun _ => rfl, count_verifications fun _ => rfl]
    obtain rfl := Option.some.inj h
    exact ⟨add_comm _ _, .inl rfl⟩

theorem sound_of_steps (h : challengeRaces.Steps Orderly (verifications challenge codes) s) :
    Sound challenge.attemptsLeft s :=
  Pool.invariant_of (fun _ _ p _ _ hs hmeets hp hnext =>
    Sound.step hp (hmeets p hp) (command_move hnext) hs) sound_verifications h

/-- Once the challenge is gone, a call that has yet to begin does not find it. -/
theorem none_finds (hgone : s.shared = none)
    (hcalled : s.threads[i]? = some (VerifyPhase.called code))
    (h : challengeRaces.Steps Orderly s t) :
    t.shared = none ∧ ∀ p : VerifyPhase, t.threads[i]? = some p → p.hasFound = false := by
  refine Pool.invariant_of (I := fun u => u.shared = none ∧
    ∀ p : VerifyPhase, u.threads[i]? = some p → p.hasFound = false) ?_ ?_ h
  · rintro u j p stored p' ⟨hnone, hthread⟩ hmeets hp hnext
    have hmove : VerifyMove u.shared p stored p' := command_move hnext
    have hsame : stored = u.shared → (p.hasFound = false → p'.hasFound = false) →
        (u.put j stored p').shared = none ∧ ∀ q : VerifyPhase,
          (u.put j stored p').threads[i]? = some q → q.hasFound = false := by
      rintro rfl hplace
      refine ⟨hnone, fun q hq => ?_⟩
      rcases Pool.thread_put hq with ⟨rfl, rfl⟩ | hold
      · exact hplace (hthread p hp)
      · exact hthread q hold
    cases hmove with
    | starts => exact hsame rfl fun _ => rfl
    | misses _ => exact hsame rfl fun _ => rfl
    | finds hsome =>
      rw [hnone] at hsome
      cases hsome
    | decrements hwrong hleft =>
      obtain ⟨challenge', hsome⟩ := inOrder_decrements (hmeets _ hp) hwrong hleft
      rw [hnone] at hsome
      cases hsome
    | exhausts _ _ => exact hsame hnone.symm fun hfound => nomatch hfound
    | deletes _ => exact hsame hnone.symm fun hfound => nomatch hfound
    | locks _ => exact hsame rfl fun hfound => nomatch hfound
    | refuses _ => exact hsame rfl fun hfound => nomatch hfound
    | returns => exact hsame rfl fun hfound => nomatch hfound
  · refine ⟨hgone, fun p hp => ?_⟩
    obtain rfl := Option.some.inj (hcalled.symm.trans hp)
    rfl

/-- Where the reads and writes are in order, the limits of the challenge hold. -/
theorem limits_of_orderly (hrun : challengeRaces.Steps Orderly (verifications challenge codes) s)
    (hlater : challengeRaces.Steps Orderly s t) : Limits challenge.attemptsLeft s t where
  attempts := (sound_of_steps hrun).attempts
  singleUse := (Pool.count_le VerifyPhase.foundRight_of_isReturned).trans
    (sound_of_steps hrun).foundRight
  closed hcloses i code hcalled := by
    have hdeleted : 0 < s.count VerifyPhase.hasDeleted :=
      hcloses.trans_le (Pool.count_le VerifyPhase.hasDeleted_of_closes)
    exact (none_finds ((sound_of_steps hrun).deleted hdeleted) hcalled hlater).2

def sampleChallenge (attemptsLeft : ℤ) : MfaChallengeData where
  challengeId := "0190a1b2-0000-4000-8000-0000000000c1"
  tenantCode := "acme"
  userId := Persistence.sampleUserId
  attemptsLeft := attemptsLeft
  rememberMe := false

/-- One after the other: a wrong code, the right one, and a call that comes too late. -/
theorem limits_of_orderly_three : ∃ s t,
    challengeRaces.Steps Orderly
        (verifications (sampleChallenge 2) ["000000", "123456", "654321"]) s ∧
      challengeRaces.Steps Orderly s t ∧
      s.threads = [.incorrect, .returned, .called "654321"] ∧
      t.threads = [.incorrect, .returned, .notFound] ∧ Limits 2 s t := by
  obtain ⟨s, hs, hthreads⟩ := Option.map_eq_some_iff.mp
    (show (challengeRaces.run Orderly (verifications (sampleChallenge 2)
        ["000000", "123456", "654321"]) [0, 0, 0, 0, 1, 1, 1, 1]).map
      (fun s => (s.shared, s.threads)) = some (none, [.incorrect, .returned, .called "654321"])
      from by decide +kernel)
  obtain ⟨hshared, hthreads⟩ := Prod.mk.inj hthreads
  obtain ⟨t, ht, hlater⟩ := Option.map_eq_some_iff.mp
    (show (challengeRaces.run Orderly ⟨none, [.incorrect, .returned, .called "654321"]⟩
        [2, 2]).map Pool.threads = some [.incorrect, .returned, .notFound] from by decide +kernel)
  rw [← hshared, ← hthreads] at ht
  have hsteps := System.steps_of_run hs
  have hsteps' : challengeRaces.Steps Orderly s t := System.steps_of_run ht
  exact ⟨s, t, hsteps, hsteps', hthreads, hlater, limits_of_orderly hsteps hsteps'⟩

/-- A challenge as a login stores it: all calls look it up before the first one writes. -/
theorem overlapping_calls : ∃ s,
    challengeRaces.Steps Always
        (verifications (sampleChallenge 0) ["000000", "654321", "123456", "123456"]) s ∧
      s.count VerifyPhase.foundWrong = 2 ∧ s.count VerifyPhase.isReturned = 2 := by
  obtain ⟨s, hs, hcounts⟩ := Option.map_eq_some_iff.mp
    (show (challengeRaces.execute (verifications (sampleChallenge 0)
        ["000000", "654321", "123456", "123456"]) [0, 1, 2, 3, 0, 1, 2, 3, 2, 3, 2, 3]).map
      (fun s => (s.count VerifyPhase.foundWrong, s.count VerifyPhase.isReturned)) = some (2, 2)
      from by decide +kernel)
  obtain ⟨hwrong, hreturned⟩ := Prod.mk.inj hcounts
  exact ⟨s, System.steps_of_execute hs, hwrong, hreturned⟩

/-- The call with the wrong code writes after the delete, and the challenge is back. -/
theorem late_write : ∃ s t,
    challengeRaces.Steps Always
        (verifications (sampleChallenge 2) ["000000", "123456", "654321"]) s ∧
      challengeRaces.Steps Always s t ∧
      s.threads = [.found "000000" (sampleChallenge 2), .returned, .called "654321"] ∧
      t.threads = [.decremented 1, .returned, .found "654321" (sampleChallenge 1)] := by
  obtain ⟨s, hs, hrest⟩ := Option.map_eq_some_iff.mp
    (show (challengeRaces.execute (verifications (sampleChallenge 2)
        ["000000", "123456", "654321"]) [0, 0, 1, 1, 1, 1]).map
      (fun s => (s.threads, (challengeRaces.execute s [0, 2, 2]).map Pool.threads)) =
        some ([.found "000000" (sampleChallenge 2), .returned, .called "654321"],
          some [.decremented 1, .returned, .found "654321" (sampleChallenge 1)])
      from by decide +kernel)
  obtain ⟨hthreads, hlater⟩ := Prod.mk.inj hrest
  obtain ⟨t, ht, hthreads'⟩ := Option.map_eq_some_iff.mp hlater
  exact ⟨s, t, System.steps_of_execute hs, System.steps_of_execute ht, hthreads, hthreads'⟩

/-- As a login stores a challenge, two calls with wrong codes get past the lookup and two
    return tokens; and one with attempts left is found after tokens were returned. -/
theorem not_limits :
    (∃ s, challengeRaces.Steps Always (verifications (sampleChallenge 0)
          ["000000", "654321", "123456", "123456"]) s ∧
        ¬(s.count VerifyPhase.foundWrong : ℤ) ≤ max 1 0 ∧
        ¬s.count VerifyPhase.isReturned ≤ 1 ∧ ¬Limits 0 s s) ∧
      ∃ s t, challengeRaces.Steps Always (verifications (sampleChallenge 2)
          ["000000", "123456", "654321"]) s ∧ challengeRaces.Steps Always s t ∧ ¬Limits 2 s t := by
  constructor
  · obtain ⟨s, hrun, hwrong, hreturned⟩ := overlapping_calls
    have htwo : ¬s.count VerifyPhase.isReturned ≤ 1 := by
      rw [hreturned]
      decide
    refine ⟨s, hrun, ?_, htwo, fun hlimits => htwo hlimits.singleUse⟩
    rw [hwrong]
    decide
  · obtain ⟨s, t, hrun, hlater, hthreads, hthreads'⟩ := late_write
    refine ⟨s, t, hrun, hlater, fun hlimits => ?_⟩
    have hcloses : 0 < s.count VerifyPhase.closes := by
      rw [Pool.count, hthreads]
      decide
    have hnone := hlimits.closed hcloses 2 "654321" (by rw [hthreads]; rfl)
      (.found "654321" (sampleChallenge 1)) (by rw [hthreads']; rfl)
    cases hnone

end Runs

end MfaApplicationService

end AccessService.Accounts
