/-
  AccessService.Accounts.ConcurrentResetCodes

  Calls of `verifyResetCode` on one challenge, interleaved command by command.  Each call
  looks the challenge up to compare the code, and once more to store it with another
  attempt or as verified.  Redis answers every command, and the challenge does not expire.
-/

import AccessService.Accounts.Credentials
import AccessService.Lib.Pool

namespace AccessService.Accounts

open AccessService.Lib AccessService.Lib.Transition AccessService.Pg

-- ============================================================================
-- Commands
-- ============================================================================

/-- How far a call is, with what it has read. -/
inductive ResetPhase where
  | called (code resetToken : String)
  /-- No code was compared. -/
  | refused (e : AccountError)
  | wrong
  | incrementing (challenge : PasswordResetChallengeData)
  | incremented (attempts : ℤ)
  | denied (e : AccountError)
  | right (resetToken : String)
  | marking (challenge : PasswordResetChallengeData) (resetToken : String)
  | marked (resetToken : String)
  | returned (resetToken : String)
  deriving DecidableEq

abbrev ResetPool : Type := Pool (Option PasswordResetChallengeData) ResetPhase

namespace PasswordService

/-- The next command of a call on the challenge that is stored, if one is. -/
def command (hashOtpCode : String → String) (stored : Option PasswordResetChallengeData) :
    ResetPhase → Option (Option PasswordResetChallengeData × ResetPhase)
  | .called code resetToken =>
    match stored with
    | none => some (stored, .refused InvalidResetChallengeException)
    | some challenge =>
      if challenge.attempts ≥ 3 then some (stored, .refused MaxAttemptsExceededException)
      else if hashOtpCode code ≠ challenge.hashedCode then some (stored, .wrong)
      else some (stored, .right resetToken)
  | .wrong =>
    match stored with
    | none => some (stored, .incremented 0)
    | some challenge => some (stored, .incrementing challenge)
  | .incrementing challenge =>
    some (some { challenge with attempts := challenge.attempts + 1 },
      .incremented (challenge.attempts + 1))
  | .incremented attempts => some (stored, .denied
      (if attempts ≥ 3 then MaxAttemptsExceededException else InvalidResetCodeException))
  | .right resetToken =>
    match stored with
    | none => some (stored, .marked resetToken)
    | some challenge => some (stored, .marking challenge resetToken)
  | .marking challenge resetToken =>
    some (some { challenge with codeVerified := true, resetToken := some resetToken },
      .marked resetToken)
  | .marked resetToken => some (stored, .returned resetToken)
  | .refused _ | .denied _ | .returned _ => none

/-- Calls with these codes and fresh tokens that are about to begin, on a challenge that
    has just been saved. -/
def guesses (challenge : PasswordResetChallengeData) (calls : List (String × String)) :
    ResetPool where
  shared := some { challenge with attempts := 0 }
  threads := calls.map fun (code, resetToken) => .called code resetToken

def resetRaces (hashOtpCode : String → String) : System ResetPool Nat :=
  Pool.system (fun s => ∃ challenge calls, s = guesses challenge calls) (command hashOtpCode)

end PasswordService

-- ============================================================================
-- A call alone
-- ============================================================================

namespace AccountStore

variable {s : AccountStore} {challenge : PasswordResetChallengeData} {key : String}

/-- The challenge at a key, unless it has expired. -/
def resetChallenge (s : AccountStore) (key : String) : Option PasswordResetChallengeData :=
  s.redis.resetChallenges.get s.now key

def withResetChallenge (s : AccountStore) (key : String) (challenge : PasswordResetChallengeData) :
    AccountStore :=
  { s with redis := { s.redis with
      resetChallenges := s.redis.resetChallenges.set key challenge
        (some (s.now + seconds PasswordResetRedisAdapter.ttlSeconds)) } }

theorem resetChallenge_withResetChallenge :
    (s.withResetChallenge key challenge).resetChallenge key = some challenge :=
  Expiring.get_set_ttl (by decide)

end AccountStore

namespace PasswordService

/-- How a call has ended. -/
def answer : ResetPhase → Option (Except AccountError ResetCodeVerified)
  | .refused e | .denied e => some (.error e)
  | .returned resetToken => some (.ok { valid := true, resetToken := resetToken })
  | _ => none

section Alone

open PasswordResetRedisAdapter

variable {hashOtpCode : String → String} {dto : VerifyResetCode} {s : AccountStore}
  {challenge : PasswordResetChallengeData}

theorem getChallenge_calm {challengeId tenantCode : String} {userId : Uuid} :
    getChallenge challengeId tenantCode userId (.calm s) =
      (.ok (s.resetChallenge (getKey challengeId tenantCode userId)), .calm s) :=
  rfl

theorem denyResetCode_calm
    (hfound :
      s.resetChallenge (getKey dto.challengeId dto.tenantCode dto.userId) = some challenge) :
    ∃ e s', denyResetCode dto (.calm s) = (.error e, .calm s') ∧
      Pool.RunsAlone (command hashOtpCode) answer (some challenge) .wrong
        (s'.resetChallenge (getKey dto.challengeId dto.tenantCode dto.userId)) (.error e) := by
  have hincrement : incrementAttempts dto.challengeId dto.tenantCode dto.userId (.calm s) =
      (.ok (challenge.attempts + 1),
        .calm (s.withResetChallenge (getKey dto.challengeId dto.tenantCode dto.userId)
          { challenge with attempts := challenge.attempts + 1 })) := by
    unfold incrementAttempts
    rw [Faulty.bind_runs getChallenge_calm, hfound]
    rfl
  have hdeny : denyResetCode dto (.calm s) =
      (.error (if challenge.attempts + 1 ≥ 3 then MaxAttemptsExceededException
          else InvalidResetCodeException),
        .calm (s.withResetChallenge (getKey dto.challengeId dto.tenantCode dto.userId)
          { challenge with attempts := challenge.attempts + 1 })) := by
    refine (Faulty.bind_runs hincrement).trans ?_
    split <;> rfl
  refine ⟨_, _, hdeny, ?_⟩
  rw [AccountStore.resetChallenge_withResetChallenge]
  exact .next rfl (.next rfl (.next rfl (.ended rfl)))

theorem acceptResetCode_calm {token : String}
    (hfound :
      s.resetChallenge (getKey dto.challengeId dto.tenantCode dto.userId) = some challenge) :
    ∃ s', acceptResetCode dto token (.calm s) =
        (.ok { valid := true, resetToken := token }, .calm s') ∧
      Pool.RunsAlone (command hashOtpCode) answer (some challenge) (.right token)
        (s'.resetChallenge (getKey dto.challengeId dto.tenantCode dto.userId))
        (.ok { valid := true, resetToken := token }) := by
  have hmark : markCodeVerified dto.challengeId dto.tenantCode dto.userId token (.calm s) =
      (.ok (), .calm (s.withResetChallenge (getKey dto.challengeId dto.tenantCode dto.userId)
        { challenge with codeVerified := true, resetToken := some token })) := by
    unfold markCodeVerified
    rw [Faulty.bind_runs getChallenge_calm, hfound]
    rfl
  refine ⟨_, Faulty.bind_runs hmark, ?_⟩
  rw [AccountStore.resetChallenge_withResetChallenge]
  exact .next rfl (.next rfl (.next rfl (.ended rfl)))

theorem verifyResetCode_calm (hashOtpCode : String → String) (resetToken : Uuid)
    (dto : VerifyResetCode) (s : AccountStore) :
    ∃ result s', verifyResetCode hashOtpCode resetToken dto (.calm s) = (result, .calm s') ∧
      Pool.RunsAlone (command hashOtpCode) answer
        (s.resetChallenge (getKey dto.challengeId dto.tenantCode dto.userId))
        (.called dto.code resetToken.text)
        (s'.resetChallenge (getKey dto.challengeId dto.tenantCode dto.userId)) result := by
  unfold verifyResetCode
  rw [Faulty.bind_runs getChallenge_calm]
  rcases hfound : s.resetChallenge (getKey dto.challengeId dto.tenantCode dto.userId) with
    _ | challenge
  · refine ⟨_, s, rfl, ?_⟩
    rw [hfound]
    exact .next rfl (.ended rfl)
  · simp only
    split
    next hspent =>
      refine ⟨_, s, rfl, ?_⟩
      rw [hfound]
      exact .next (if_pos hspent) (.ended rfl)
    next hopen =>
      split
      next hwrong =>
        obtain ⟨e, s', hrun, halone⟩ := denyResetCode_calm hfound
        exact ⟨_, s', hrun, .next ((if_neg hopen).trans (if_pos hwrong)) halone⟩
      next hright =>
        obtain ⟨s', hrun, halone⟩ := acceptResetCode_calm hfound
        exact ⟨_, s', hrun, .next ((if_neg hopen).trans (if_neg hright)) halone⟩

/-- With Redis available, a call has run its commands one after another. -/
theorem verifyResetCode_alone (hashOtpCode : String → String) (resetToken : Uuid)
    (dto : VerifyResetCode) (s : AccountStore) :
    ∃ result s' p, verifyResetCode hashOtpCode resetToken dto (.calm s) = (result, .calm s') ∧
      answer p = some result ∧ (resetRaces hashOtpCode).Steps Always
        ⟨s.resetChallenge (getKey dto.challengeId dto.tenantCode dto.userId),
          [.called dto.code resetToken.text]⟩
        ⟨s'.resetChallenge (getKey dto.challengeId dto.tenantCode dto.userId), [p]⟩ := by
  obtain ⟨result, s', hrun, halone⟩ := verifyResetCode_calm hashOtpCode resetToken dto s
  obtain ⟨p, hanswer, hsteps⟩ := halone.steps
  exact ⟨result, s', p, hrun, hanswer, hsteps⟩

end Alone

end PasswordService

-- ============================================================================
-- Places
-- ============================================================================

namespace ResetPhase

/-- The code of the call has been compared. -/
def hasCompared : ResetPhase → Bool
  | .called _ _ | .refused _ => false
  | _ => true

def comparedWrong : ResetPhase → Bool
  | .wrong | .incrementing _ | .incremented _ | .denied _ => true
  | _ => false

/-- The code was wrong, and the attempt is not stored yet. -/
def pendingWrong : ResetPhase → Bool
  | .wrong | .incrementing _ => true
  | _ => false

/-- The code was right, and the call has yet to return. -/
def openRight : ResetPhase → Bool
  | .right _ | .marking _ _ | .marked _ => true
  | _ => false

def isReturned : ResetPhase → Bool
  | .returned _ => true
  | _ => false

end ResetPhase

namespace PasswordService

variable {hashOtpCode : String → String}

-- ============================================================================
-- What a command does
-- ============================================================================

inductive ResetMove (hashOtpCode : String → String) (stored : Option PasswordResetChallengeData) :
    ResetPhase → Option PasswordResetChallengeData → ResetPhase → Prop where
  | refuses {code resetToken e} :
      ResetMove hashOtpCode stored (.called code resetToken) stored (.refused e)
  | misses {code resetToken challenge} (hsome : stored = some challenge)
      (hopen : challenge.attempts < 3) (hwrong : hashOtpCode code ≠ challenge.hashedCode) :
      ResetMove hashOtpCode stored (.called code resetToken) stored .wrong
  | hits {code resetToken challenge} (hsome : stored = some challenge)
      (hopen : challenge.attempts < 3) (hright : hashOtpCode code = challenge.hashedCode) :
      ResetMove hashOtpCode stored (.called code resetToken) stored (.right resetToken)
  | rereads {challenge} (hsome : stored = some challenge) :
      ResetMove hashOtpCode stored .wrong stored (.incrementing challenge)
  | loses (hnone : stored = none) : ResetMove hashOtpCode stored .wrong stored (.incremented 0)
  | increments {challenge} : ResetMove hashOtpCode stored (.incrementing challenge)
      (some { challenge with attempts := challenge.attempts + 1 })
      (.incremented (challenge.attempts + 1))
  | denies {attempts e} : ResetMove hashOtpCode stored (.incremented attempts) stored (.denied e)
  | readsRight {challenge resetToken} (hsome : stored = some challenge) :
      ResetMove hashOtpCode stored (.right resetToken) stored (.marking challenge resetToken)
  | losesRight {resetToken} (hnone : stored = none) :
      ResetMove hashOtpCode stored (.right resetToken) stored (.marked resetToken)
  | marks {challenge resetToken} : ResetMove hashOtpCode stored (.marking challenge resetToken)
      (some { challenge with codeVerified := true, resetToken := some resetToken })
      (.marked resetToken)
  | returns {resetToken} :
      ResetMove hashOtpCode stored (.marked resetToken) stored (.returned resetToken)

theorem command_move {stored stored' : Option PasswordResetChallengeData} {p p' : ResetPhase}
    (h : command hashOtpCode stored p = some (stored', p')) :
    ResetMove hashOtpCode stored p stored' p' := by
  cases p with
  | called code resetToken =>
    cases stored with
    | none =>
      cases h
      exact .refuses
    | some challenge =>
      simp only [command] at h
      split at h
      · cases h
        exact .refuses
      next hopen =>
        split at h
        next hwrong =>
          cases h
          exact .misses rfl (not_le.mp hopen) hwrong
        next hright =>
          cases h
          exact .hits rfl (not_le.mp hopen) (not_not.mp hright)
  | wrong =>
    cases stored with
    | none =>
      cases h
      exact .loses rfl
    | some challenge =>
      cases h
      exact .rereads rfl
  | incrementing challenge =>
    cases h
    exact .increments
  | incremented attempts =>
    cases h
    exact .denies
  | right resetToken =>
    cases stored with
    | none =>
      cases h
      exact .losesRight rfl
    | some challenge =>
      cases h
      exact .readsRight rfl
  | marking challenge resetToken =>
    cases h
    exact .marks
  | marked resetToken =>
    cases h
    exact .returns
  | refused _ => cases h
  | denied _ => cases h
  | returned _ => cases h

-- ============================================================================
-- Bounds
-- ============================================================================

/-- Three wrong guesses, in a state and a later one. -/
structure Bounded (s later : ResetPool) : Prop where
  guesses : s.count ResetPhase.comparedWrong ≤ 3
  /-- After the third one no code is compared. -/
  refused : 3 ≤ s.count ResetPhase.comparedWrong →
    ∀ (i : Nat) (code resetToken : String),
      s.threads[i]? = some (ResetPhase.called code resetToken) →
        ∀ p : ResetPhase, later.threads[i]? = some p → p.hasCompared = false
  /-- Nor does a call return that the code is valid. -/
  invalid : 3 ≤ s.count ResetPhase.comparedWrong →
    ∀ (i : Nat) (p : ResetPhase), s.threads[i]? = some p → p.isReturned = false →
      ∀ p' : ResetPhase, later.threads[i]? = some p' → p'.isReturned = false

/-- The attempts once the wrong guesses that have been compared are all stored. -/
def guessed (s : ResetPool) (challenge : PasswordResetChallengeData) : ℤ :=
  challenge.attempts + s.count ResetPhase.pendingWrong

/-- The challenge will not be closed by the guesses before this one; if it is by this one,
    no call with the right code has yet to return. -/
def mayLookUp (hashOtpCode : String → String) (s : ResetPool) (code : String)
    (challenge : PasswordResetChallengeData) : Bool :=
  guessed s challenge < 3 && (hashOtpCode code == challenge.hashedCode ||
    guessed s challenge < 2 || s.count ResetPhase.openRight == 0)

/-- A challenge is stored only where the attempts are still those that were read. -/
def inOrder (hashOtpCode : String → String) (s : ResetPool) : ResetPhase → Bool
  | .called code _ => s.shared.all fun challenge =>
      challenge.attempts ≥ 3 || mayLookUp hashOtpCode s code challenge
  | .incrementing challenge | .marking challenge _ => s.shared.any fun stored =>
      stored.attempts = challenge.attempts
  | _ => true

def Orderly (hashOtpCode : String → String) (s : ResetPool) (i : Nat) : Prop :=
  ∀ p ∈ s.threads[i]?, inOrder hashOtpCode s p = true

instance (s : ResetPool) (i : Nat) : Decidable (Orderly hashOtpCode s i) :=
  inferInstanceAs (Decidable (∀ p ∈ s.threads[i]?, inOrder hashOtpCode s p = true))

-- ============================================================================
-- Invariant
-- ============================================================================

structure Sound (s : ResetPool) : Prop where
  /-- Each wrong guess is an attempt that is stored, or one that is not stored yet. -/
  counted : ∃ challenge, s.shared = some challenge ∧
    (s.count ResetPhase.comparedWrong : ℤ) =
      challenge.attempts + s.count ResetPhase.pendingWrong
  guesses : s.count ResetPhase.comparedWrong ≤ 3
  closed : 3 ≤ s.count ResetPhase.comparedWrong → s.count ResetPhase.openRight = 0

section Step

variable {s : ResetPool} {i : Nat} {p p' : ResetPhase}
  {stored : Option PasswordResetChallengeData} {challenge : PasswordResetChallengeData}
  {code resetToken : String}

theorem inOrder_called (h : inOrder hashOtpCode s (.called code resetToken) = true)
    (hsome : s.shared = some challenge) (hopen : challenge.attempts < 3) :
    guessed s challenge < 3 ∧ (hashOtpCode code ≠ challenge.hashedCode →
      guessed s challenge < 2 ∨ s.count ResetPhase.openRight = 0) := by
  rw [inOrder, hsome, Option.all_some, decide_eq_false (not_le.mpr hopen), Bool.false_or,
    mayLookUp, Bool.and_eq_true, decide_eq_true_iff] at h
  refine ⟨h.1, fun hwrong => ?_⟩
  have hrest := h.2
  rw [beq_false_of_ne hwrong, Bool.false_or, Bool.or_eq_true, decide_eq_true_iff] at hrest
  exact hrest.imp_right eq_of_beq

theorem inOrder_stores
    (h : s.shared.any (fun stored => stored.attempts = challenge.attempts) = true) :
    ∃ challenge', s.shared = some challenge' ∧ challenge'.attempts = challenge.attempts := by
  obtain ⟨challenge', hsome, hsame⟩ := (Option.any_eq_true _ _).mp h
  exact ⟨challenge', hsome, of_decide_eq_true hsame⟩

/-- A command that compares no wrong code and stores no attempt. -/
theorem sound_of_same (hp : s.threads[i]? = some p)
    (hstored : ∀ challenge, s.shared = some challenge →
      ∃ challenge', stored = some challenge' ∧ challenge'.attempts = challenge.attempts)
    (hcompared : p'.comparedWrong = p.comparedWrong) (hpending : p'.pendingWrong = p.pendingWrong)
    (hright : p'.openRight = true → p.openRight = true) (h : Sound s) :
    Sound (s.put i stored p') := by
  have hcount : (s.put i stored p').count ResetPhase.comparedWrong =
      s.count ResetPhase.comparedWrong :=
    Pool.count_put_same _ hp hcompared
  obtain ⟨challenge, hsome, hcounted⟩ := h.counted
  obtain ⟨challenge', hsome', hattempts⟩ := hstored challenge hsome
  refine ⟨⟨challenge', hsome', ?_⟩, hcount ▸ h.guesses, fun hthree => ?_⟩
  · rw [hcount, Pool.count_put_same _ hp hpending, hattempts]
    exact hcounted
  · have hnone := h.closed (hcount ▸ hthree)
    have hput : (s.put i stored p').count ResetPhase.openRight +
        (if p.openRight = true then 1 else 0) =
        s.count ResetPhase.openRight + (if p'.openRight = true then 1 else 0) :=
      Pool.count_put _ hp
    have hclosed : p.openRight = false :=
      Pool.not_at_of_count hnone (Rows.mem_of_row hp)
    have hclosed' : p'.openRight = false := by
      by_contra hopen
      rw [hright (Bool.not_eq_false _ ▸ hopen)] at hclosed
      cases hclosed
    rw [hclosed, hclosed', hnone] at hput
    exact hput

/-- The guess is counted, and the attempt pending. -/
theorem sound_of_miss (hp : s.threads[i]? = some (.called code resetToken))
    (hmeets : inOrder hashOtpCode s (.called code resetToken) = true)
    (hsome : s.shared = some challenge) (hopen : challenge.attempts < 3)
    (hwrong : hashOtpCode code ≠ challenge.hashedCode) (h : Sound s) :
    Sound (s.put i s.shared .wrong) := by
  have hcompared : (s.put i s.shared .wrong).count ResetPhase.comparedWrong =
      s.count ResetPhase.comparedWrong + 1 :=
    Pool.count_put_enter _ hp rfl rfl
  have hpending : (s.put i s.shared .wrong).count ResetPhase.pendingWrong =
      s.count ResetPhase.pendingWrong + 1 :=
    Pool.count_put_enter _ hp rfl rfl
  have hright : (s.put i s.shared .wrong).count ResetPhase.openRight =
      s.count ResetPhase.openRight :=
    Pool.count_put_same _ hp rfl
  obtain ⟨hthree, hlast⟩ := inOrder_called hmeets hsome hopen
  obtain ⟨challenge', hsome', hcounted⟩ := h.counted
  obtain rfl := Option.some.inj (hsome.symm.trans hsome')
  unfold guessed at hthree hlast
  refine ⟨⟨challenge, hsome, ?_⟩, ?_, fun hreached => ?_⟩
  · rw [hcompared, hpending]
    push_cast
    omega
  · rw [hcompared]
    omega
  · rw [hright]
    rw [hcompared] at hreached
    exact (hlast hwrong).resolve_left (by omega)

/-- With a code compared as right, three wrong guesses have not been made. -/
theorem sound_of_hit (hp : s.threads[i]? = some (.called code resetToken))
    (hmeets : inOrder hashOtpCode s (.called code resetToken) = true)
    (hsome : s.shared = some challenge) (hopen : challenge.attempts < 3) (h : Sound s) :
    Sound (s.put i s.shared (.right resetToken)) := by
  have hcompared : (s.put i s.shared (.right resetToken)).count ResetPhase.comparedWrong =
      s.count ResetPhase.comparedWrong :=
    Pool.count_put_same _ hp rfl
  have hpending : (s.put i s.shared (.right resetToken)).count ResetPhase.pendingWrong =
      s.count ResetPhase.pendingWrong :=
    Pool.count_put_same _ hp rfl
  obtain ⟨hthree, -⟩ := inOrder_called hmeets hsome hopen
  obtain ⟨challenge', hsome', hcounted⟩ := h.counted
  obtain rfl := Option.some.inj (hsome.symm.trans hsome')
  unfold guessed at hthree
  refine ⟨⟨challenge, hsome, ?_⟩, hcompared ▸ h.guesses, fun hreached => ?_⟩
  · rw [hcompared, hpending]
    exact hcounted
  · rw [hcompared] at hreached
    omega

/-- The attempt that was pending is stored. -/
theorem sound_of_increment (hp : s.threads[i]? = some (.incrementing challenge))
    (hmeets : inOrder hashOtpCode s (.incrementing challenge) = true) (h : Sound s) :
    Sound (s.put i (some { challenge with attempts := challenge.attempts + 1 })
      (.incremented (challenge.attempts + 1))) := by
  have hcompared : (s.put i (some { challenge with attempts := challenge.attempts + 1 })
      (.incremented (challenge.attempts + 1))).count ResetPhase.comparedWrong =
      s.count ResetPhase.comparedWrong :=
    Pool.count_put_same _ hp rfl
  have hpending : (s.put i (some { challenge with attempts := challenge.attempts + 1 })
      (.incremented (challenge.attempts + 1))).count ResetPhase.pendingWrong + 1 =
      s.count ResetPhase.pendingWrong :=
    Pool.count_put_leave _ hp rfl rfl
  have hright : (s.put i (some { challenge with attempts := challenge.attempts + 1 })
      (.incremented (challenge.attempts + 1))).count ResetPhase.openRight =
      s.count ResetPhase.openRight :=
    Pool.count_put_same _ hp rfl
  obtain ⟨stored, hsome, hsame⟩ := inOrder_stores hmeets
  obtain ⟨stored', hsome', hcounted⟩ := h.counted
  obtain rfl := Option.some.inj (hsome.symm.trans hsome')
  refine ⟨⟨_, rfl, ?_⟩, hcompared ▸ h.guesses, fun hreached => ?_⟩
  · rw [hcompared]
    dsimp only
    omega
  · rw [hright]
    exact h.closed (hcompared ▸ hreached)

theorem Sound.step (hp : s.threads[i]? = some p) (hmeets : inOrder hashOtpCode s p = true)
    (hmove : ResetMove hashOtpCode s.shared p stored p') (h : Sound s) :
    Sound (s.put i stored p') := by
  have hsame : ∀ challenge, s.shared = some challenge →
      ∃ challenge', s.shared = some challenge' ∧ challenge'.attempts = challenge.attempts :=
    fun challenge hsome => ⟨challenge, hsome, rfl⟩
  obtain ⟨challenge, hsome, -⟩ := h.counted
  cases hmove with
  | refuses => exact sound_of_same hp hsame rfl rfl (fun hopen => nomatch hopen) h
  | misses hfound hopen hwrong => exact sound_of_miss hp hmeets hfound hopen hwrong h
  | hits hfound hopen _ => exact sound_of_hit hp hmeets hfound hopen h
  | rereads _ => exact sound_of_same hp hsame rfl rfl (fun hopen => nomatch hopen) h
  | loses hnone =>
    rw [hnone] at hsome
    cases hsome
  | increments => exact sound_of_increment hp hmeets h
  | denies => exact sound_of_same hp hsame rfl rfl (fun hopen => nomatch hopen) h
  | readsRight _ => exact sound_of_same hp hsame rfl rfl (fun _ => rfl) h
  | losesRight hnone =>
    rw [hnone] at hsome
    cases hsome
  | marks =>
    obtain ⟨stored, hfound, hread⟩ := inOrder_stores hmeets
    refine sound_of_same hp (fun other hother => ⟨_, rfl, ?_⟩) rfl rfl (fun _ => rfl) h
    obtain rfl := Option.some.inj (hfound.symm.trans hother)
    exact hread.symm
  | returns => exact sound_of_same hp hsame rfl rfl (fun hopen => nomatch hopen) h

/-- After three wrong guesses no code is compared and no call returns that the code is
    valid. -/
theorem closed_step (hp : s.threads[i]? = some p) (hmeets : inOrder hashOtpCode s p = true)
    (hmove : ResetMove hashOtpCode s.shared p stored p') (h : Sound s)
    (hthree : 3 ≤ s.count ResetPhase.comparedWrong) :
    3 ≤ (s.put i stored p').count ResetPhase.comparedWrong ∧
      (p.hasCompared = false → p'.hasCompared = false) ∧
      (p.isReturned = false → p'.isReturned = false) := by
  have hsame : p'.comparedWrong = p.comparedWrong →
      3 ≤ (s.put i stored p').count ResetPhase.comparedWrong := by
    intro hplace
    rwa [Pool.count_put_same _ hp hplace]
  have hopens : ∀ {code resetToken challenge}, s.shared = some challenge →
      challenge.attempts < 3 → inOrder hashOtpCode s (.called code resetToken) = true → False := by
    intro code resetToken challenge hsome hopen horder
    obtain ⟨hbelow, -⟩ := inOrder_called horder hsome hopen
    obtain ⟨challenge', hsome', hcounted⟩ := h.counted
    obtain rfl := Option.some.inj (hsome.symm.trans hsome')
    unfold guessed at hbelow
    omega
  cases hmove with
  | refuses => exact ⟨hsame rfl, fun _ => rfl, fun _ => rfl⟩
  | misses hsome hopen _ => exact (hopens hsome hopen hmeets).elim
  | hits hsome hopen _ => exact (hopens hsome hopen hmeets).elim
  | rereads _ => exact ⟨hsame rfl, fun hnot => (nomatch hnot), fun _ => rfl⟩
  | loses _ => exact ⟨hsame rfl, fun hnot => (nomatch hnot), fun _ => rfl⟩
  | increments => exact ⟨hsame rfl, fun hnot => (nomatch hnot), fun _ => rfl⟩
  | denies => exact ⟨hsame rfl, fun hnot => (nomatch hnot), fun _ => rfl⟩
  | readsRight _ => exact ⟨hsame rfl, fun hnot => (nomatch hnot), fun _ => rfl⟩
  | losesRight _ => exact ⟨hsame rfl, fun hnot => (nomatch hnot), fun _ => rfl⟩
  | marks => exact ⟨hsame rfl, fun hnot => (nomatch hnot), fun _ => rfl⟩
  | returns =>
    have hnone : ResetPhase.openRight _ = false :=
      Pool.not_at_of_count (h.closed hthree) (Rows.mem_of_row hp)
    cases hnone

end Step

-- ============================================================================
-- Runs
-- ============================================================================

section Runs

variable {s t : ResetPool} {challenge : PasswordResetChallengeData}
  {calls : List (String × String)}

theorem count_guesses {place : ResetPhase → Bool}
    (h : ∀ code resetToken, place (.called code resetToken) = false) :
    (guesses challenge calls).count place = 0 := by
  refine List.countP_eq_zero.mpr fun p hp => ?_
  obtain ⟨⟨code, resetToken⟩, -, rfl⟩ := List.mem_map.mp hp
  rw [h code resetToken]
  exact Bool.false_ne_true

theorem sound_guesses : Sound (guesses challenge calls) where
  counted := by
    refine ⟨_, rfl, ?_⟩
    rw [count_guesses fun _ _ => rfl, count_guesses fun _ _ => rfl]
    rfl
  guesses := by
    rw [count_guesses fun _ _ => rfl]
    exact Nat.zero_le 3
  closed _ := count_guesses fun _ _ => rfl

theorem sound_of_steps
    (h : (resetRaces hashOtpCode).Steps (Orderly hashOtpCode) (guesses challenge calls) s) :
    Sound s :=
  Pool.invariant_of (fun _ _ p _ _ hs hmeets hp hnext =>
    Sound.step hp (hmeets p hp) (command_move hnext) hs) sound_guesses h

theorem stays_closed (hs : Sound s) (hthree : 3 ≤ s.count ResetPhase.comparedWrong)
    (h : (resetRaces hashOtpCode).Steps (Orderly hashOtpCode) s t) {i : Nat} {p q : ResetPhase}
    (hp : s.threads[i]? = some p) (hq : t.threads[i]? = some q) :
    (p.hasCompared = false → q.hasCompared = false) ∧
      (p.isReturned = false → q.isReturned = false) := by
  have hrun : (Sound t ∧ 3 ≤ t.count ResetPhase.comparedWrong) ∧
      ∀ q : ResetPhase, t.threads[i]? = some q →
        (p.hasCompared = false → q.hasCompared = false) ∧
          (p.isReturned = false → q.isReturned = false) := by
    refine Pool.invariant_of (I := fun u => (Sound u ∧ 3 ≤ u.count ResetPhase.comparedWrong) ∧
      ∀ q : ResetPhase, u.threads[i]? = some q →
        (p.hasCompared = false → q.hasCompared = false) ∧
          (p.isReturned = false → q.isReturned = false)) ?_ ?_ h
    · rintro u j r stored r' ⟨⟨hu, hreached⟩, hthread⟩ hmeets hr hnext
      have hmove : ResetMove hashOtpCode u.shared r stored r' := command_move hnext
      obtain ⟨hstays, hcompared, hreturned⟩ := closed_step hr (hmeets r hr) hmove hu hreached
      refine ⟨⟨hu.step hr (hmeets r hr) hmove, hstays⟩, fun q' hq' => ?_⟩
      rcases Pool.thread_put hq' with ⟨rfl, rfl⟩ | hold
      · obtain ⟨hbefore, hbefore'⟩ := hthread r hr
        exact ⟨fun hnot => hcompared (hbefore hnot), fun hnot => hreturned (hbefore' hnot)⟩
      · exact hthread q' hold
    · refine ⟨⟨hs, hthree⟩, fun q' hq' => ?_⟩
      obtain rfl := Option.some.inj (hp.symm.trans hq')
      exact ⟨id, id⟩
  exact hrun.2 q hq

/-- Where lookups and writes are in order, the guesses are bounded. -/
theorem bounded_of_orderly
    (hrun : (resetRaces hashOtpCode).Steps (Orderly hashOtpCode) (guesses challenge calls) s)
    (hlater : (resetRaces hashOtpCode).Steps (Orderly hashOtpCode) s t) : Bounded s t where
  guesses := (sound_of_steps hrun).guesses
  refused hthree _ _ _ hcalled _ hp :=
    (stays_closed (sound_of_steps hrun) hthree hlater hcalled hp).1 rfl
  invalid hthree _ _ hp hnot _ hp' :=
    (stays_closed (sound_of_steps hrun) hthree hlater hp hp').2 hnot

def sampleReset : PasswordResetChallengeData where
  tenantCode := "acme"
  userId := Persistence.sampleUserId
  hashedCode := "314159"
  codeVerified := false
  resetToken := none
  attempts := 0

/-- Three wrong guesses, one of them while another is not stored yet; then the right code. -/
def fourGuesses : List (String × String) :=
  [("000000", "t0"), ("000001", "t1"), ("000002", "t2"), ("314159", "t3")]

theorem bounded_of_orderly_four : ∃ s t,
    (resetRaces id).Steps (Orderly id) (guesses sampleReset fourGuesses) s ∧
      (resetRaces id).Steps (Orderly id) s t ∧ s.count ResetPhase.comparedWrong = 3 ∧
      t.threads[3]? = some (ResetPhase.refused MaxAttemptsExceededException) ∧ Bounded s t := by
  obtain ⟨s, hs, hrest⟩ := Option.map_eq_some_iff.mp
    (show ((resetRaces id).run (Orderly id) (guesses sampleReset fourGuesses)
        [0, 1, 0, 0, 0, 1, 1, 1, 2, 2, 2, 2]).map
      (fun s => (s.count ResetPhase.comparedWrong,
        ((resetRaces id).run (Orderly id) s [3]).map fun t => t.threads[3]?)) =
      some (3, some (some (ResetPhase.refused MaxAttemptsExceededException)))
      from by decide +kernel)
  obtain ⟨hthree, hlater⟩ := Prod.mk.inj hrest
  obtain ⟨t, ht, hrefused⟩ := Option.map_eq_some_iff.mp hlater
  have hsteps := System.steps_of_run hs
  have hsteps' := System.steps_of_run ht
  exact ⟨s, t, hsteps, hsteps', hthree, hrefused, bounded_of_orderly hsteps hsteps'⟩

/-- Two wrong guesses are stored.  The right code and the third wrong one are looked up, the
    challenge is read for both, and the attempt is overwritten as the code is marked as
    verified; so a fourth wrong code is compared. -/
def fiveGuesses : List (String × String) :=
  [("000000", "t0"), ("000001", "t1"), ("314159", "t2"), ("000002", "t3"), ("000003", "t4")]

theorem overlapping_guesses : ∃ s t,
    (resetRaces id).Steps Always (guesses sampleReset fiveGuesses) s ∧
      (resetRaces id).Steps Always s t ∧ s.count ResetPhase.comparedWrong = 3 ∧
      s.threads[2]? = some (ResetPhase.right "t2") ∧
      s.threads[4]? = some (ResetPhase.called "000003" "t4") ∧
      t.count ResetPhase.comparedWrong = 4 ∧ t.threads[2]? = some (ResetPhase.returned "t2") ∧
      t.threads[4]? = some ResetPhase.wrong := by
  obtain ⟨s, hs, hrest⟩ := Option.map_eq_some_iff.mp
    (show ((resetRaces id).execute (guesses sampleReset fiveGuesses)
        [0, 0, 0, 0, 1, 1, 1, 1, 2, 3]).map
      (fun s => ((s.count ResetPhase.comparedWrong, s.threads[2]?, s.threads[4]?),
        ((resetRaces id).execute s [2, 3, 3, 2, 2, 4]).map fun t =>
          (t.count ResetPhase.comparedWrong, t.threads[2]?, t.threads[4]?))) =
      some ((3, some (ResetPhase.right "t2"), some (ResetPhase.called "000003" "t4")),
        some (4, some (ResetPhase.returned "t2"), some ResetPhase.wrong))
      from by decide +kernel)
  obtain ⟨hbefore, hlater⟩ := Prod.mk.inj hrest
  obtain ⟨t, ht, hafter⟩ := Option.map_eq_some_iff.mp hlater
  simp only [Prod.mk.injEq] at hbefore hafter
  obtain ⟨hthree, hright, hcalled⟩ := hbefore
  obtain ⟨hfour, hreturned, hwrong⟩ := hafter
  exact ⟨s, t, System.steps_of_execute hs, System.steps_of_execute ht, hthree, hright, hcalled,
    hfour, hreturned, hwrong⟩

/-- A fourth wrong code is compared, and after three the right one is still valid. -/
theorem not_bounded : ∃ s t,
    (resetRaces id).Steps Always (guesses sampleReset fiveGuesses) s ∧
      (resetRaces id).Steps Always s t ∧ ¬t.count ResetPhase.comparedWrong ≤ 3 ∧
      3 ≤ s.count ResetPhase.comparedWrong ∧
      (∃ p, s.threads[2]? = some p ∧ p.isReturned = false) ∧
      t.threads[2]? = some (ResetPhase.returned "t2") ∧ ¬Bounded s t ∧ ¬Bounded t t := by
  obtain ⟨s, t, hrun, hlater, hthree, hright, hcalled, hfour, hreturned, hwrong⟩ :=
    overlapping_guesses
  have hmore : ¬t.count ResetPhase.comparedWrong ≤ 3 := by
    rw [hfour]
    decide
  refine ⟨s, t, hrun, hlater, hmore, hthree.ge, ⟨_, hright, rfl⟩, hreturned, fun hbounded => ?_,
    fun hbounded => hmore hbounded.guesses⟩
  have hnot := hbounded.refused hthree.ge 4 "000003" "t4" hcalled _ hwrong
  cases hnot

end Runs

end PasswordService

end AccessService.Accounts
