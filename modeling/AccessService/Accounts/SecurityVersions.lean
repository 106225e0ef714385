/-
  AccessService.Accounts.SecurityVersions

  The security version of a user under the operations on their account: three of them add
  one to it, the others store the value it has.
-/

import AccessService.Accounts.AccountOperations

namespace AccessService.Accounts

open AccessService.Lib AccessService.Lib.Transition AccessService.Pg AccessService.Persistence

variable {ctx : AccountContext} {u : Uuid}

/-- The stored version. -/
def securityVersion (s : AccountStore) (u : Uuid) : Option ℤ :=
  (UserRepository.userWithId s.db u).map (·.securityVersion.val)

/-- The stored version is strictly greater after. -/
def Raises (u : Uuid) (s s' : AccountStore) : Prop :=
  ∃ v v', securityVersion s u = some v ∧ securityVersion s' u = some v' ∧ v < v'

/-- The operation writes the version plus one. -/
def AccountOperation.increments : AccountOperation → Bool
  | .handleFailure _ _ _ | .revokeAllUserSessions _ _ | .resetUserMfa _ => true
  | _ => false

-- ============================================================================
-- One operation
-- ============================================================================

theorem nextSecurityVersion_eq (user : UserRow) :
    LockoutService.nextSecurityVersion user = user.securityVersion.val + 1 := by
  have hpositive := user.securityVersion.positive
  unfold LockoutService.nextSecurityVersion
  rw [if_neg (by omega)]

/-- What an operation's update makes of the version. -/
theorem UserChange.version {s : AccountStore} {op : AccountOperation} {user : UserRow}
    {change : UserUpdate} (h : UserChange ctx s op user change) :
    change.securityVersion = user.securityVersion.val + if op.increments then 1 else 0 := by
  cases h with
  | locked huser hstatus => exact nextSecurityVersion_eq user
  | forcedOut hactive => rfl
  | factorsReset huser htenant => rfl
  | synchronized happlies => exact (Int.add_zero _).symm
  | accepted hlive hclient => exact (Int.add_zero _).symm
  | reset huser => exact (Int.add_zero _).symm
  | setUp huser htenant hnone => exact (Int.add_zero _).symm

theorem Rewrites.securityVersion {s s' : AccountStore} {user : UserRow} {change : UserUpdate}
    (h : Rewrites s s' user change) :
    securityVersion s user.id = some user.securityVersion.val ∧
      securityVersion s' user.id = some change.securityVersion ∧
      ∀ id, id ≠ user.id → AccessService.Accounts.securityVersion s' id =
        AccessService.Accounts.securityVersion s id := by
  obtain ⟨user', happly, hstored, hothers⟩ := h.userWithId
  unfold AccessService.Accounts.securityVersion
  rw [userWithId_eq_some.mpr ⟨h.found, rfl⟩, hstored, Option.map_some, Option.map_some,
    (UserUpdate.apply_eq_some happly).2.2]
  exact ⟨rfl, rfl, fun id hid => by rw [hothers id hid]⟩

/-- A return that has changed the user's account has rewritten the version, with one more or
    with the same. -/
theorem AccountOperation.run_version {w w' : World AccountStore AccountError}
    {op : AccountOperation} {b : Bool} (h : op.run ctx w = (.ok b, w'))
    (hchanged : op.changed ctx w.state b = some u) :
    ∃ v, securityVersion w.state u = some v ∧
      securityVersion w'.state u = some (v + if op.increments then 1 else 0) := by
  rcases AccountOperation.run_users h with ⟨-, hnone⟩ | ⟨user, change, hchange, hrewrites, hsome⟩
  · rw [hnone b rfl] at hchanged
    cases hchanged
  · obtain rfl := Option.some.inj ((hsome b rfl).symm.trans hchanged)
    obtain ⟨hbefore, hafter, -⟩ := hrewrites.securityVersion
    rw [hchange.version] at hafter
    exact ⟨_, hbefore, hafter⟩

theorem AccountOperation.raises_iff {w w' : World AccountStore AccountError}
    {op : AccountOperation} {b : Bool} (h : op.run ctx w = (.ok b, w'))
    (hchanged : op.changed ctx w.state b = some u) :
    Raises u w.state w'.state ↔ op.increments = true := by
  obtain ⟨v, hbefore, hafter⟩ := AccountOperation.run_version h hchanged
  constructor
  · rintro ⟨v₀, v₁, hv₀, hv₁, hlt⟩
    obtain rfl := Option.some.inj (hbefore.symm.trans hv₀)
    obtain rfl := Option.some.inj (hafter.symm.trans hv₁)
    by_contra hnot
    rw [if_neg hnot] at hlt
    omega
  · intro hincrements
    rw [if_pos hincrements] at hafter
    exact ⟨v, v + 1, hbefore, hafter, Int.lt_succ v⟩

-- ============================================================================
-- Runs
-- ============================================================================

def accounts : System AccountStore AccountStep where
  init _ := True
  step s step := some (step.after s)

/-- The version that a successful operation on the user's account leaves. -/
def AccountStep.left (u : Uuid) (s : AccountStore) : AccountStep → Option ℤ
  | .call ctx op faults =>
    match op.run ctx ⟨s, faults⟩ with
    | (.ok b, w') => if op.changed ctx s b = some u then securityVersion w'.state u else none
    | (.error _, _) => none
  | .pass _ => none

/-- The versions that the successful operations of a run leave, in their order. -/
def leftVersions (u : Uuid) (s : AccountStore) : List AccountStep → List ℤ
  | [] => []
  | step :: steps => (step.left u s).toList ++ leftVersions u (step.after s) steps

/-- If it is about the user's account, the step's operation is one that increments. -/
def IncrementsFor (u : Uuid) (s : AccountStore) : AccountStep → Prop
  | .call ctx op _ => op.changed ctx s true = some u → op.increments = true
  | .pass _ => True

theorem changed_true {s : AccountStore} {op : AccountOperation} {b : Bool}
    (h : op.changed ctx s b = some u) : op.changed ctx s true = some u := by
  cases op with
  | handleFailure tenantCode userId settings =>
    cases b with
    | true => exact h
    | false => cases h
  | _ => exact h

/-- No step lowers the version. -/
theorem AccountStep.version_le {s : AccountStore} {step : AccountStep} {v : ℤ}
    (hv : securityVersion s u = some v) :
    ∃ v', securityVersion (step.after s) u = some v' ∧ v ≤ v' := by
  cases step with
  | pass time => exact ⟨v, hv, Int.le_refl v⟩
  | call ctx op faults =>
    rcases hrun : op.run ctx ⟨s, faults⟩ with ⟨r, w'⟩
    have hafter : (AccountStep.call ctx op faults).after s = w'.state := by
      rw [AccountStep.after, hrun]
    rw [hafter]
    rcases AccountOperation.run_users hrun with ⟨hsame, -⟩ | ⟨user, change, hchange, hrewrites, -⟩
    · refine ⟨v, ?_, Int.le_refl v⟩
      rw [← hv, securityVersion, securityVersion, UserRepository.userWithId,
        UserRepository.userWithId, show w'.state.db.users = s.db.users from hsame]
    · obtain ⟨hbefore, hstored, hothers⟩ := hrewrites.securityVersion
      by_cases hu : u = user.id
      · subst hu
        obtain rfl := Option.some.inj (hbefore.symm.trans hv)
        refine ⟨_, hstored, ?_⟩
        rw [hchange.version]
        split <;> omega
      · exact ⟨v, (hothers u hu).trans hv, Int.le_refl v⟩

/-- What a successful operation leaves is stored now, and above what was there. -/
theorem AccountStep.left_lt {s : AccountStore} {step : AccountStep} {v : ℤ}
    (hleft : step.left u s = some v) (hstep : IncrementsFor u s step) :
    securityVersion (step.after s) u = some v ∧
      ∀ v₀, securityVersion s u = some v₀ → v₀ < v := by
  cases step with
  | pass time => cases hleft
  | call ctx op faults =>
    rcases hrun : op.run ctx ⟨s, faults⟩ with ⟨e | b, w'⟩
    · simp only [AccountStep.left, hrun] at hleft
      cases hleft
    · simp only [AccountStep.left, hrun] at hleft
      split at hleft
      next hchanged =>
        obtain ⟨v₁, v₂, hv₁, hv₂, hlt⟩ :=
          (AccountOperation.raises_iff hrun hchanged).mpr (hstep (changed_true hchanged))
        obtain rfl := Option.some.inj (hv₂.symm.trans hleft)
        refine ⟨?_, fun v₀ hv₀ => ?_⟩
        · rw [AccountStep.after, hrun]
          exact hv₂
        · obtain rfl := Option.some.inj (hv₁.symm.trans hv₀)
          exact hlt
      · cases hleft

/-- The run lemma: the versions left are above the one at the start, and go up. -/
theorem leftVersions_increase {s : AccountStore} {steps : List AccountStep}
    (hsteps : accounts.Along (fun s step _ => IncrementsFor u s step) s steps) :
    (∀ v₀, securityVersion s u = some v₀ → ∀ v ∈ leftVersions u s steps, v₀ < v) ∧
      (leftVersions u s steps).Pairwise (· < ·) := by
  induction steps generalizing s with
  | nil => exact ⟨fun _ _ _ hmem => absurd hmem List.not_mem_nil, .nil⟩
  | cons step steps ih =>
    obtain ⟨hstep, hrest⟩ := (System.along_cons rfl).mp hsteps
    obtain ⟨habove, hpairwise⟩ := ih hrest
    have hleft : ∀ v ∈ (step.left u s).toList, securityVersion (step.after s) u = some v ∧
        ∀ v₀, securityVersion s u = some v₀ → v₀ < v :=
      fun v hv => AccountStep.left_lt (Option.mem_toList.mp hv) hstep
    constructor
    · intro v₀ hv₀ v hv
      rcases List.mem_append.mp hv with hnow | hlater
      · exact (hleft v hnow).2 v₀ hv₀
      · obtain ⟨v', hv', hle⟩ : ∃ v', securityVersion (step.after s) u = some v' ∧ v₀ ≤ v' :=
          AccountStep.version_le hv₀
        exact Int.lt_of_le_of_lt hle (habove v' hv' v hlater)
    · refine List.pairwise_append.mpr ⟨?_, hpairwise, fun v hv v' hv' => ?_⟩
      · cases step.left u s with
        | none => exact .nil
        | some v => exact List.pairwise_singleton _ _
      · exact habove v (hleft v hv).1 v' hv'

/-- A successful operation raises the version exactly when it is one that increments; and
    where all that are about a user do, no two of a run leave the same version. -/
theorem security_version_raised_iff (u : Uuid) :
    (∀ (ctx : AccountContext) (op : AccountOperation) (w w' : World AccountStore AccountError)
        (b : Bool), op.run ctx w = (.ok b, w') → op.changed ctx w.state b = some u →
        (Raises u w.state w'.state ↔ op.increments = true)) ∧
      ∀ (s : AccountStore) (steps : List AccountStep),
        accounts.Along (fun s step _ => IncrementsFor u s step) s steps →
          (leftVersions u s steps).Nodup := by
  refine ⟨fun ctx op w w' b hrun hchanged => AccountOperation.raises_iff hrun hchanged, ?_⟩
  intro s steps hsteps
  exact (leftVersions_increase hsteps).2.imp Int.ne_of_lt

-- ============================================================================
-- A suspension
-- ============================================================================

def suspension : AccountOperation :=
  .synchronizeEmployeeStatus ⟨sampleRoleId, "7d793037a0760186574b0282f2f435e7"⟩
    .EMPLOYEE_SUSPENDED ⟨sampleEmployeeId, ⟨1, Js.SafeInteger.one_isSafe⟩⟩

theorem security_version_raised_iff_sample :
    (Raises sampleUserId sampleAccountStore
        ((AccountOperation.resetUserMfa sampleUserId).run acmeAccounts
          ⟨sampleAccountStore, []⟩).2.state ↔
      (AccountOperation.resetUserMfa sampleUserId).increments = true) ∧
      (leftVersions sampleUserId sampleAccountStore
        [.call acmeAccounts (.resetUserMfa sampleUserId) [], .pass 60000,
          .call acmeAccounts (.resetUserMfa sampleUserId) []]).Nodup := by
  refine ⟨(security_version_raised_iff sampleUserId).1 acmeAccounts (.resetUserMfa sampleUserId)
    ⟨sampleAccountStore, []⟩ _ true rfl rfl, ?_⟩
  refine (security_version_raised_iff sampleUserId).2 sampleAccountStore _ ?_
  exact fun _ _ => ⟨fun _ => rfl, fun _ _ => ⟨trivial, fun _ _ => ⟨fun _ => rfl, trivial⟩⟩⟩

/-- The user is DISABLED, with the version as it was. -/
theorem not_security_version_raised :
    ¬∀ (ctx : AccountContext) (op : AccountOperation)
        (w w' : World AccountStore AccountError) (b : Bool) (u : Uuid),
        op.run ctx w = (.ok b, w') → op.changed ctx w.state b = some u →
          Raises u w.state w'.state := by
  intro h
  have hsame : securityVersion (suspension.run acmeAccounts
      ⟨sampleAccountStore, []⟩).2.state sampleUserId = some 1 := by
    decide +kernel
  have happlies : suspension.changed acmeAccounts sampleAccountStore true = some sampleUserId := by
    decide +kernel
  obtain ⟨v, v', hv, hv', hlt⟩ := h acmeAccounts suspension ⟨sampleAccountStore, []⟩ _ true
    sampleUserId rfl happlies
  obtain rfl := Option.some.inj (hsame.symm.trans hv')
  obtain rfl := Option.some.inj hv
  exact absurd hlt (by decide)

end AccessService.Accounts
