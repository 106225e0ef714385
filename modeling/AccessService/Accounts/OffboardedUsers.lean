/-
  AccessService.Accounts.OffboardedUsers

  Whether a suspended or terminated employee stays out: a user that a suspension or a
  termination has been applied to, and no reactivation since, against the operations that
  write a user's status.
-/

import AccessService.Accounts.AccountOperations

namespace AccessService.Accounts

open AccessService.Lib AccessService.Lib.Transition AccessService.Pg AccessService.Persistence

variable {ctx : AccountContext} {u : Uuid}

-- ============================================================================
-- The status of one user
-- ============================================================================

def NotActive (u : Uuid) (s : AccountStore) : Prop :=
  ∀ user, UserRepository.userWithId s.db u = some user → user.status ≠ .ACTIVE

/-- The step gives the user a password, and with it the status ACTIVE: through an
    invitation that is still open, or as the first password of a user who signs on with
    the identity provider. -/
def LetsIn (u : Uuid) (s : AccountStore) : AccountStep → Prop
  | .call ctx (.acceptInvitation _ token) _ =>
    LiveInvitation ctx s token u ∧ ctx.redisClient = true
  | .call ctx (.setupPasswordViaSsoFallback _ userId) _ =>
    userId = u ∧ (∃ user, UserRepository.userInTenant ctx s.db u = some user) ∧
      CredentialRepository.activeCredential s.db u = none
  | _ => False

theorem notActive_of_users {s s' : AccountStore} (h : usersOf s' = usersOf s)
    (hs : NotActive u s) : NotActive u s' := by
  intro user huser
  refine hs user ?_
  unfold UserRepository.userWithId at huser ⊢
  rwa [show s'.db.users = s.db.users from h] at huser

theorem Rewrites.notActive {s s' : AccountStore} {user : UserRow} {change : UserUpdate}
    (h : Rewrites s s' user change)
    (hchange : user.id = u → change.status.getD user.status ≠ .ACTIVE) (hs : NotActive u s) :
    NotActive u s' := by
  obtain ⟨user', happly, hsame, hothers⟩ := h.userWithId
  intro found hfound
  by_cases hu : u = user.id
  · rw [hu, hsame] at hfound
    obtain rfl := Option.some.inj hfound
    rw [(UserUpdate.apply_eq_some happly).2.1]
    exact hchange hu.symm
  · rw [hothers u hu] at hfound
    exact hs found hfound

/-- An update that makes a user ACTIVE is that of a step that lets the user in. -/
theorem UserChange.notActive {s : AccountStore} {op : AccountOperation} {user : UserRow}
    {change : UserUpdate} {faults : List (Option AccountError)}
    (h : UserChange ctx s op user change) (hmem : user ∈ s.db.users.rows)
    (hout : ¬LetsIn u s (.call ctx op faults)) (hs : NotActive u s) (hu : user.id = u) :
    change.status.getD user.status ≠ .ACTIVE := by
  have hold : user.status ≠ .ACTIVE := hs user (userWithId_eq_some.mpr ⟨hmem, hu⟩)
  cases h with
  | synchronized happlies =>
    rename_i fresh event payload
    cases event with
    | EMPLOYEE_SUSPENDED | EMPLOYEE_TERMINATED | EMPLOYEE_REACTIVATED => exact nofun
    | other => exact hold
  | accepted hlive hclient => exact absurd ⟨hu ▸ hlive, hclient⟩ hout
  | setUp huser htenant hnone =>
    have htarget := huser.symm.trans hu
    refine absurd ⟨htarget, ⟨user, userInTenant_eq_some.mpr ⟨hmem, htenant, hu⟩⟩, ?_⟩ hout
    exact htarget ▸ hnone
  | locked huser hstatus => exact nofun
  | reset huser => exact hold
  | forcedOut hactive => exact hold
  | factorsReset huser htenant => exact hold

/-- The step lemma. -/
theorem AccountStep.notActive {s : AccountStore} {step : AccountStep} (hout : ¬LetsIn u s step)
    (hs : NotActive u s) : NotActive u (step.after s) := by
  cases step with
  | pass time => exact hs
  | call ctx op faults =>
    rcases hrun : op.run ctx ⟨s, faults⟩ with ⟨r, w'⟩
    have hafter : (AccountStep.call ctx op faults).after s = w'.state := by
      rw [AccountStep.after, hrun]
    rw [hafter]
    rcases AccountOperation.run_users hrun with ⟨hsame, -⟩ | ⟨user, change, hchange, hrewrites, -⟩
    · exact notActive_of_users hsame hs
    · exact hrewrites.notActive (hchange.notActive hrewrites.found hout hs) hs

-- ============================================================================
-- Employment
-- ============================================================================

/-- The event that the step applies to the user. -/
def AccountStep.appliedEvent (u : Uuid) (s : AccountStore) : AccountStep → Option EmployeeEvent
  | .call ctx (.synchronizeEmployeeStatus fresh event payload) faults =>
    match (AccountOperation.run ctx (.synchronizeEmployeeStatus fresh event payload)
      ⟨s, faults⟩).1 with
    | .ok _ =>
      if (appliesTo ctx s.db event payload).any (·.id = u) then some event else none
    | .error _ => none
  | _ => none

/-- A store, and whether the user's employee is out: suspended or terminated by an applied
    event, and not reactivated since. -/
structure Employment where
  store : AccountStore
  out : Bool := false

def EmployeeEvent.leavesOut (out : Bool) : EmployeeEvent → Bool
  | .EMPLOYEE_SUSPENDED => true
  | .EMPLOYEE_TERMINATED => true
  | .EMPLOYEE_REACTIVATED => false
  | .other => out

def Employment.after (u : Uuid) (s : Employment) (step : AccountStep) : Employment where
  store := step.after s.store
  out := (step.appliedEvent u s.store).elim s.out (EmployeeEvent.leavesOut s.out)

/-- The operations, in any order and as often as they come. -/
def employments (u : Uuid) : System Employment AccountStep where
  init s := s.out = false
  step s step := some (s.after u step)

/-- An event that has been applied has set the status. -/
theorem AccountStep.applied_status {s : AccountStore} {step : AccountStep} {event : EmployeeEvent}
    (h : step.appliedEvent u s = some event) :
    ∃ user, UserRepository.userWithId (step.after s).db u = some user ∧
      ∀ status, event.userStatus = some status → user.status = status := by
  cases step with
  | pass time => cases h
  | call ctx op faults =>
    cases op with
    | synchronizeEmployeeStatus fresh event' payload =>
      rcases hrun : AccountOperation.run ctx (.synchronizeEmployeeStatus fresh event' payload)
        ⟨s, faults⟩ with ⟨r, w'⟩
      simp only [AccountStep.appliedEvent, hrun] at h
      rcases r with e | b
      · cases h
      · simp only at h
        split at h
        next happlied =>
          obtain rfl := Option.some.inj h
          obtain ⟨user, happlies, hid⟩ := (Option.any_eq_true _ _).mp happlied
          have hok := ProvisioningApplicationService.synchronizeEmployeeStatus_ok hrun
          rw [happlies] at hok
          obtain ⟨user', happly, hstored, -⟩ := hok.userWithId
          refine ⟨user', ?_, fun status hstatus => ?_⟩
          · rw [← of_decide_eq_true hid, AccountStep.after, hrun]
            exact hstored
          · rw [(UserUpdate.apply_eq_some happly).2.1, EmployeeEvent.update, hstatus]
            rfl
        · cases h
    | _ => cases h

/-- A user that is out is not ACTIVE. -/
def StaysOut (u : Uuid) (s : Employment) : Prop := s.out = true → NotActive u s.store

theorem Employment.staysOut_after {s : Employment} {step : AccountStep}
    (hguard : s.out = true → ¬LetsIn u s.store step) (hs : StaysOut u s) :
    StaysOut u (s.after u step) := by
  intro hout
  unfold Employment.after at hout ⊢
  have hkept : s.out = true → NotActive u (step.after s.store) :=
    fun h => AccountStep.notActive (hguard h) (hs h)
  rcases happlied : step.appliedEvent u s.store with _ | event
  · rw [happlied] at hout
    exact hkept hout
  · rw [happlied] at hout
    obtain ⟨user, huser, hstatus⟩ := AccountStep.applied_status happlied
    intro found hfound
    obtain rfl := Option.some.inj (huser.symm.trans hfound)
    cases event with
    | EMPLOYEE_SUSPENDED =>
      rw [hstatus .DISABLED rfl]
      exact nofun
    | EMPLOYEE_TERMINATED =>
      rw [hstatus .ARCHIVED rfl]
      exact nofun
    | EMPLOYEE_REACTIVATED => cases hout
    | other => exact hkept hout user huser

/-- A user stays out along every run in which no step gives them a password while they are
    out. -/
theorem offboarded_user_stays_out {start s : Employment} {steps : List AccountStep}
    (hstart : start.out = false) (hrun : (employments u).execute start steps = some s)
    (hguard : (employments u).Along (fun s step _ => s.out = true → ¬LetsIn u s.store step)
      start steps) :
    s.out = true → NotActive u s.store := by
  refine System.Along.invariant (I := StaysOut u) ?_ ?_ hrun hguard
  · intro s step t hs hstep hguard
    obtain rfl := Option.some.inj hstep
    exact Employment.staysOut_after hguard hs
  · intro hout
    rw [hstart] at hout
    cases hout

-- ============================================================================
-- A suspended user with an open invitation
-- ============================================================================

def sampleToken : String := "5d41402abc4b2a76b9719d911017c592"

def sampleInvitation : Invitation where
  id := sampleGroupId
  tenantCode := "acme"
  userId := sampleUserId
  tokenHash := sampleToken
  status := .PENDING
  expiresAt := 1000

def invitedStore : AccountStore where
  db := { sampleAccountStore.db with
    invitations := ⟨[sampleInvitation], List.nodup_singleton sampleGroupId⟩ }

def sampleFreshInvitation : FreshInvitation := ⟨sampleRoleId, "7d793037a0760186574b0282f2f435e7"⟩

def sampleFreshCredential : FreshCredential := ⟨sampleRoleId, "$2b$10$hash", "bcrypt"⟩

def suspendSample : AccountStep :=
  .call acmeAccounts (.synchronizeEmployeeStatus sampleFreshInvitation .EMPLOYEE_SUSPENDED
    ⟨sampleEmployeeId, ⟨1, Js.SafeInteger.one_isSafe⟩⟩) []

def acceptSample : AccountStep :=
  .call acmeAccounts (.acceptInvitation sampleFreshCredential sampleToken) []

def resendSample : AccountStep :=
  .call acmeAccounts (.resendInvitation ⟨sampleEmployeeId, "b10a8db164e0754105b7a99be72e3fe5"⟩
    sampleUserId) []

/-- Once the suspension has been applied. -/
def suspendedStore : Employment :=
  Employment.after sampleUserId { store := invitedStore } suspendSample

theorem offboarded_user_stays_out_sample :
    NotActive sampleUserId (suspendedStore.after sampleUserId resendSample).store := by
  have hrun : (employments sampleUserId).execute { store := invitedStore }
      [suspendSample, resendSample] = some (suspendedStore.after sampleUserId resendSample) := rfl
  have hout : (suspendedStore.after sampleUserId resendSample).out = true := by
    decide +kernel
  refine offboarded_user_stays_out rfl hrun ?_ hout
  intro s hs
  exact ⟨fun hout => (nomatch hout), fun t ht => ⟨fun _ hlets => hlets, trivial⟩⟩

theorem not_offboarded_user_stays_out :
    ¬∀ (u : Uuid) (start s : Employment) (steps : List AccountStep), start.out = false →
      (employments u).execute start steps = some s → s.out = true → NotActive u s.store := by
  intro h
  have hlast := h sampleUserId { store := invitedStore } _ [suspendSample, acceptSample] rfl rfl
  have hout : (suspendedStore.after sampleUserId acceptSample).out = true := by
    decide +kernel
  have hactive : (UserRepository.userWithId
      (suspendedStore.after sampleUserId acceptSample).store.db
      sampleUserId).any (·.status = .ACTIVE) = true := by
    decide +kernel
  obtain ⟨user, huser, hstatus⟩ := (Option.any_eq_true _ _).mp hactive
  exact hlast hout user huser (of_decide_eq_true hstatus)

end AccessService.Accounts
