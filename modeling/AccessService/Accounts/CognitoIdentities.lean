/-
  AccessService.Accounts.CognitoIdentities

  Runs of `provisionCognitoUser`: who holds which identity, and of which tenant the Cognito
  records are that users are linked to.
-/

import AccessService.Accounts.CognitoProvisioning
import AccessService.Lib.Transition

namespace AccessService.Accounts.CognitoUserProvisioning

open AccessService.Lib AccessService.Lib.Retry AccessService.Lib.Transition
open AccessService.Pg AccessService.Persistence

/-- One call, with what it meets. -/
structure Call where
  input : ProvisionCognitoUserInput
  env : Environment

section Runs

variable (toLowerCase : String → String)

def Call.normalizedEmail (call : Call) : String := normalizeEmail toLowerCase call.input.email

def Call.outcome (call : Call) (s : CognitoState) :
    Except Thrown CognitoProvisioningResult × CognitoState :=
  provisionCognitoUser toLowerCase call.env call.input s

/-- The same call, if its audit event of a provisioned user is written. -/
def Call.audited (call : Call) : Call :=
  { call with env := { call.env with logProvisioned := none } }

/-- A new sub is nobody's. -/
def Fresh (s : CognitoState) (call : Call) : Prop :=
  ∀ user ∈ s.users.rows, user.externalIdentityId ≠ some call.env.newSub

instance (s : CognitoState) (call : Call) : Decidable (Fresh s call) := List.decidableBAll _ _

/-- Calls of `provisionCognitoUser`, one after another. -/
def provisioning : System CognitoState Call where
  init := CognitoState.DistinctIdentities
  step s call := if Fresh s call then some (call.outcome toLowerCase s).2 else none

/-- What is expected of one call. -/
structure Lawful (s : CognitoState) (call : Call) : Prop where
  /-- A call that returns has stored the sub of the e-mail's record. -/
  stored : ∀ result t, call.outcome toLowerCase s = (.ok result, t) →
    ∃ record, t.recordOf (call.normalizedEmail toLowerCase) = some record ∧
      result.externalIdentityId = record.sub ∧ ∀ user ∈ t.users.rows,
        user.id = call.input.userId → user.externalIdentityId = some record.sub
  /-- Only the e-mail's record is linked, and only to a user of the tenant it was created for. -/
  ownTenant : ∀ r t, call.outcome toLowerCase s = (r, t) → ∀ user ∈ t.users.rows,
    user ∉ s.users.rows ∨ (r.isOk = true ∧ user.id = call.input.userId) →
    ∃ record, t.recordOf (call.normalizedEmail toLowerCase) = some record ∧
      user.externalIdentityId = some record.sub ∧ record.tenantCode = user.tenantCode
  /-- A call that throws leaves the users, unless only the audit event was missing. -/
  undone : ∀ error t, call.outcome toLowerCase s = (.error error, t) →
    t.users = s.users ∨
      ∃ result u, call.audited.outcome toLowerCase s = (.ok result, u) ∧ u.users = t.users

/-- The e-mail's record is of the user's own tenant, or it is of a tenant other than that of the
    call and every answer of `getUser` with a sub tells so. -/
def TenantGuarded (s : CognitoState) (call : Call) : Prop :=
  let recordTenant := createdFor s call.input (call.normalizedEmail toLowerCase)
  ∀ user ∈ s.users.rows, user.id = call.input.userId →
    recordTenant = user.tenantCode ∨
      (recordTenant ≠ call.input.tenantCode ∧ recordTenant ≠ "" ∧
        ∀ n, 1 ≤ n → n ≤ maxRetries → (call.env.getUser n).isUnmarked = false)

-- ============================================================================
-- One call
-- ============================================================================

variable {toLowerCase} {s : CognitoState} {call : Call}

theorem Call.outcome_cases {r : Except Thrown CognitoProvisioningResult} {t : CognitoState}
    (h : call.outcome toLowerCase s = (r, t)) :
    ((∃ error, r = .error error) ∧ t.users = s.users) ∨
      ∃ action sub u,
        Identified call.env call.input (call.normalizedEmail toLowerCase) s action sub u ∧
        Stores call.env call.input (call.normalizedEmail toLowerCase) action sub u (r, t) := by
  rw [← h]
  rcases provision_cases toLowerCase call.env call.input s with ⟨u, hu, hfails⟩ | hstored
  · refine .inl ⟨?_, ?_⟩
    · obtain ⟨error, herror⟩ := hfails.throws
      exact ⟨error, (congrArg Prod.fst h).symm.trans herror⟩
    · have husers : u.users = s.users := by
        rcases hu with rfl | rfl
        · rfl
        · exact CognitoState.register_users
      rw [← husers, ← hfails.users]
      exact (congrArg (·.2.users) h).symm
  · exact .inr hstored

theorem Stores.recordOf {env : Environment} {input : ProvisionCognitoUserInput}
    {normalizedEmail : String} {action : CognitoProvisioningAction} {sub : String}
    {u : CognitoState} {outcome : Except Thrown CognitoProvisioningResult × CognitoState}
    (h : Stores env input normalizedEmail action sub u outcome) (username : String) :
    outcome.2.recordOf username = u.recordOf username := by
  rw [CognitoState.recordOf, h.directory]
  rfl

theorem outcome_stored {result : CognitoProvisioningResult} {t : CognitoState}
    (h : call.outcome toLowerCase s = (.ok result, t)) :
    ∃ record, t.recordOf (call.normalizedEmail toLowerCase) = some record ∧
      result.externalIdentityId = record.sub ∧ ∀ user ∈ t.users.rows,
        user.id = call.input.userId → user.externalIdentityId = some record.sub := by
  rcases call.outcome_cases h with ⟨⟨error, herror⟩, -⟩ | ⟨action, sub, u, hidentified, hstores⟩
  · cases herror
  · obtain ⟨record, hrecord, rfl⟩ := hidentified.record
    have hlog : call.env.logProvisioned = none := by
      by_contra hlog
      obtain ⟨error, herror⟩ := hstores.throws hlog
      cases herror
    obtain rfl := Except.ok.inj (hstores.returns hlog)
    refine ⟨record, (hstores.recordOf _).trans hrecord, rfl, fun user huser hid => ?_⟩
    rw [hstores.users, CognitoState.mem_setIdentity] at huser
    obtain ⟨old, -, rfl⟩ := huser
    split at hid
    next hown => rw [if_pos hown]
    next hother => exact absurd hid hother

theorem outcome_ownTenant (hguard : TenantGuarded toLowerCase s call)
    {r : Except Thrown CognitoProvisioningResult} {t : CognitoState}
    (h : call.outcome toLowerCase s = (r, t)) {user : UserRow} (huser : user ∈ t.users.rows)
    (hlinked : user ∉ s.users.rows ∨ (r.isOk = true ∧ user.id = call.input.userId)) :
    ∃ record, t.recordOf (call.normalizedEmail toLowerCase) = some record ∧
      user.externalIdentityId = some record.sub ∧ record.tenantCode = user.tenantCode := by
  rcases call.outcome_cases h with ⟨⟨error, rfl⟩, husers⟩ | ⟨action, sub, u, hidentified, hstores⟩
  · rcases hlinked with hnew | ⟨hok, -⟩
    · exact absurd (husers ▸ huser) hnew
    · cases hok
  · obtain ⟨record, hrecord, rfl⟩ := hidentified.record
    rw [hstores.users, CognitoState.mem_setIdentity, hidentified.users] at huser
    obtain ⟨old, hold, rfl⟩ := huser
    by_cases hid : old.id = call.input.userId
    · have htenant : createdFor s call.input (call.normalizedEmail toLowerCase) =
          old.tenantCode := by
        rcases hguard old hold hid with hown | ⟨hother, hnonempty, hmarked⟩
        · exact hown
        · rcases hidentified.tenant with hsame | hempty | ⟨n, hfrom, hto, hunmarked⟩
          · exact absurd hsame hother
          · exact absurd hempty hnonempty
          · rw [hmarked n hfrom hto] at hunmarked
            cases hunmarked
      rw [if_pos hid]
      refine ⟨record, (hstores.recordOf _).trans hrecord, rfl, ?_⟩
      exact (recordOf_tried hidentified.tried hrecord).trans htenant
    · rw [if_neg hid] at hlinked
      rcases hlinked with hnew | ⟨-, hown⟩
      · exact absurd hold hnew
      · exact absurd hown hid

theorem outcome_undone {error : Thrown} {t : CognitoState}
    (h : call.outcome toLowerCase s = (.error error, t)) :
    t.users = s.users ∨
      ∃ result u, call.audited.outcome toLowerCase s = (.ok result, u) ∧ u.users = t.users := by
  rcases call.outcome_cases h with ⟨-, husers⟩ | ⟨action, sub, u, hidentified, hstores⟩
  · exact .inl husers
  · obtain ⟨v, hreturns, husers, -⟩ := hidentified.audited.provisions hstores.updated rfl
    exact .inr ⟨_, v, hreturns, husers.trans hstores.users.symm⟩

theorem lawful_of_guarded (h : TenantGuarded toLowerCase s call) : Lawful toLowerCase s call where
  stored _ _ := outcome_stored
  ownTenant _ _ hcall _ huser hlinked := outcome_ownTenant h hcall huser hlinked
  undone _ _ := outcome_undone

/-- A sub that is the call's user's own or nobody's keeps the identities apart. -/
theorem distinct_setIdentity {input : ProvisionCognitoUserInput} {sub : String}
    (hdistinct : s.DistinctIdentities) (hunheld : Unheld input s sub) :
    (s.setIdentity input.userId sub).DistinctIdentities := by
  intro user huser other hother held huserHeld hotherHeld
  rw [CognitoState.mem_setIdentity] at huser hother
  obtain ⟨old, hold, rfl⟩ := huser
  obtain ⟨old', hold', rfl⟩ := hother
  by_cases hid : old.id = input.userId
  · by_cases hid' : old'.id = input.userId
    · rw [s.users.row_unique hold hold' (hid.trans hid'.symm)]
    · rw [if_pos hid] at huserHeld
      rw [if_neg hid'] at hotherHeld
      obtain rfl := Option.some.inj huserHeld
      exact absurd (hunheld old' hold' hotherHeld) hid'
  · by_cases hid' : old'.id = input.userId
    · rw [if_neg hid] at huserHeld
      rw [if_pos hid'] at hotherHeld
      obtain rfl := Option.some.inj hotherHeld
      exact absurd (hunheld old hold huserHeld) hid
    · rw [if_neg hid] at huserHeld
      rw [if_neg hid'] at hotherHeld
      rw [if_neg hid, if_neg hid']
      exact hdistinct old hold old' hold' held huserHeld hotherHeld

theorem distinct_outcome (hdistinct : s.DistinctIdentities) (hfresh : Fresh s call) :
    (call.outcome toLowerCase s).2.DistinctIdentities := by
  rcases houtcome : call.outcome toLowerCase s with ⟨r, t⟩
  rcases call.outcome_cases houtcome with ⟨-, husers⟩ | ⟨action, sub, u, hidentified, hstores⟩
  · unfold CognitoState.DistinctIdentities at *
    rwa [husers]
  · have hset := distinct_setIdentity hdistinct (hidentified.unheld hfresh hdistinct)
    have husers : t.users = (s.setIdentity call.input.userId sub).users := by
      rw [hstores.users, CognitoState.setIdentity, hidentified.users]
      rfl
    unfold CognitoState.DistinctIdentities at *
    rwa [husers]

-- ============================================================================
-- Where everything answers
-- ============================================================================

/-- Cognito and the database answer, with a sub each time, and nobody else holds that of the
    e-mail's record. -/
structure Calm (toLowerCase : String → String) (s : CognitoState) (call : Call) : Prop where
  createUser : ∀ n, call.env.createUser n = .completes true
  getUser : ∃ showsTenant, ∀ n, call.env.getUser n = .completes true showsTenant
  findUser : call.env.findUser = none
  updateUser : call.env.updateUser = none
  logProvisioned : call.env.logProvisioned = none
  newSub : call.env.newSub ≠ ""
  held : ∀ record, s.recordOf (call.normalizedEmail toLowerCase) = some record →
    record.sub ≠ "" ∧ Unheld call.input s record.sub

theorem executeWithRetry_once
    {operation : Nat → CognitoState → Except Thrown UserAttributes × CognitoState}
    {r : Except Thrown UserAttributes} {t : CognitoState} (h : operation 1 s = (r, t))
    (hfinal : ∀ error, r = .error error → error.isUserAlreadyExists = true) :
    executeWithRetry operation s = ((r, t), 1) := by
  have honce : executeWithRetry operation s = (operation 1 s, 1) := by
    refine retry_first fun error u herror => ?_
    rw [hfinal error (Prod.mk.inj (h.symm.trans herror)).1]
    rfl
  rw [honce, h]

/-- Without a record there is a new one. -/
theorem Calm.created (h : Calm toLowerCase s call)
    (hnone : s.recordOf (call.normalizedEmail toLowerCase) = none) :
    Identified call.env call.input (call.normalizedEmail toLowerCase) s .CREATED call.env.newSub
      (s.register (call.env.recordFor call.input (call.normalizedEmail toLowerCase))) := by
  let request := createInput call.input (call.normalizedEmail toLowerCase)
  have hattempt : call.env.attemptCreate request 1 s =
      (.ok ⟨some call.env.newSub, some call.input.tenantCode⟩,
        s.register (call.env.newRecord request)) := by
    have hfree : s.recordOf request.username = none := hnone
    simp only [Environment.attemptCreate, h.createUser 1, hfree]
    rfl
  have hcreate : createRecord call.env call.input (call.normalizedEmail toLowerCase) s =
      ((.ok call.env.newSub, s.register (call.env.newRecord request)), 1) := by
    rw [createRecord, executeWithRetry_once hattempt fun _ herror => by cases herror]
    simp only [truthy_eq_some.mpr ⟨rfl, h.newSub⟩]
  exact .created hcreate

/-- With one there is a link, unless the answer shows another tenant's. -/
theorem Calm.linked (h : Calm toLowerCase s call) {record : CognitoRecord}
    (hrecord : s.recordOf (call.normalizedEmail toLowerCase) = some record)
    (hpasses : record.tenantCode = call.input.tenantCode ∨ record.tenantCode = "" ∨
      ∃ n, (call.env.getUser n).isUnmarked = true) :
    Identified call.env call.input (call.normalizedEmail toLowerCase) s .LINKED_EXISTING record.sub
      s := by
  obtain ⟨showsTenant, hget⟩ := h.getUser
  obtain ⟨hsub, hunheld⟩ := h.held record hrecord
  let request := createInput call.input (call.normalizedEmail toLowerCase)
  have hattempt : call.env.attemptCreate request 1 s =
      (.error (.cognito .userAlreadyExists call.env.usernameExists), s) := by
    have htaken : s.recordOf request.username = some record := hrecord
    simp only [Environment.attemptCreate, h.createUser 1, htaken]
  have hlookup : call.env.attemptGet (call.normalizedEmail toLowerCase) 1 s =
      (.ok ⟨some record.sub, if showsTenant then some record.tenantCode else none⟩, s) := by
    simp only [Environment.attemptGet, hget 1, hrecord]
    rfl
  have htenant : (truthy (if showsTenant then some record.tenantCode else none)).filter
      (· ≠ call.input.tenantCode) = none := by
    rcases hpasses with hown | hempty | ⟨n, hunmarked⟩
    · cases showsTenant <;> simp [truthy, hown]
    · cases showsTenant <;> simp [truthy, hempty]
    · rw [hget n] at hunmarked
      cases showsTenant
      · rfl
      · cases hunmarked
  have hchecked : checkLinkable call.env call.input
      ⟨some record.sub, if showsTenant then some record.tenantCode else none⟩ s =
        .ok record.sub := by
    simp only [checkLinkable, truthy_eq_some.mpr ⟨rfl, hsub⟩, htenant, h.findUser]
    split
    · rfl
    next existing hexisting =>
      have hholds : existing.externalIdentityId = some record.sub := by
        simpa using List.find?_some hexisting
      rw [if_pos (hunheld existing (List.mem_of_find?_eq_some hexisting) hholds)]
  have hcreate : createRecord call.env call.input (call.normalizedEmail toLowerCase) s =
      ((.error (.cognito .userAlreadyExists call.env.usernameExists), s), 1) := by
    have honce := executeWithRetry_once hattempt fun error herror => by
      cases herror
      rfl
    rw [createRecord, honce]
  have hfind : findLinkable call.env call.input (call.normalizedEmail toLowerCase) s =
      (.ok record.sub, s) := by
    rw [findLinkable, executeWithRetry_once hlookup fun _ herror => by cases herror]
    simp only [hchecked]
  exact .linked hcreate rfl hfind

/-- There the condition says exactly which calls are lawful. -/
theorem Calm.lawful_iff (h : Calm toLowerCase s call) :
    Lawful toLowerCase s call ↔ TenantGuarded toLowerCase s call := by
  refine ⟨fun hlawful user huser hid => ?_, lawful_of_guarded⟩
  by_contra hunguarded
  rw [not_or] at hunguarded
  obtain ⟨hforeign, hpasses⟩ := hunguarded
  have hidentified : ∃ action sub u, Identified call.env call.input
      (call.normalizedEmail toLowerCase) s action sub u := by
    rcases hrecord : s.recordOf (call.normalizedEmail toLowerCase) with _ | record
    · exact ⟨_, _, _, h.created hrecord⟩
    · refine ⟨_, _, _, h.linked hrecord ?_⟩
      have hfor : createdFor s call.input (call.normalizedEmail toLowerCase) =
          record.tenantCode := by rw [createdFor, hrecord]; rfl
      rw [hfor] at hpasses
      by_contra hstops
      simp only [not_or, not_exists] at hstops
      exact hpasses ⟨hstops.1, hstops.2.1, fun n _ _ => Bool.eq_false_iff.mpr (hstops.2.2 n)⟩
  obtain ⟨action, sub, u, hidentified⟩ := hidentified
  obtain ⟨t, houtcome, husers, hdirectory⟩ := hidentified.provisions h.updateUser h.logProvisioned
  let linked := { user with externalIdentityId := some sub }
  have hlinked : linked ∈ t.users.rows := by
    rw [husers, CognitoState.mem_setIdentity, hidentified.users]
    exact ⟨user, huser, if_pos hid⟩
  obtain ⟨record, hrecord, -, htenant⟩ :=
    hlawful.ownTenant _ t houtcome linked hlinked (.inr ⟨rfl, hid⟩)
  rw [CognitoState.recordOf, hdirectory] at hrecord
  exact hforeign ((recordOf_tried hidentified.tried hrecord).symm.trans htenant)

-- ============================================================================
-- Runs
-- ============================================================================

/-- Whatever the calls meet, no two users come to hold one identity. -/
theorem distinct_of_reachable {P : CognitoState → Call → Prop}
    (h : (provisioning toLowerCase).Reachable P s) : s.DistinctIdentities := by
  refine h.invariant CognitoState.DistinctIdentities (fun _ hinit => hinit) ?_
  intro s call t _ hdistinct _ hstep
  simp only [provisioning] at hstep
  split at hstep
  next hfresh =>
    cases hstep
    exact distinct_outcome hdistinct hfresh
  · cases hstep

theorem step_of_fresh (h : Fresh s call) :
    (provisioning toLowerCase).step s call = some (call.outcome toLowerCase s).2 :=
  if_pos h

theorem identities_lawful (h : (provisioning toLowerCase).Reachable (TenantGuarded toLowerCase) s) :
    s.DistinctIdentities ∧ ∀ call t, TenantGuarded toLowerCase s call →
      (provisioning toLowerCase).step s call = some t → Lawful toLowerCase s call :=
  ⟨distinct_of_reachable h, fun _ _ hguard _ => lawful_of_guarded hguard⟩

end Runs

-- ============================================================================
-- One e-mail in two tenants
-- ============================================================================

def globexUserId : Uuid := ⟨"5a0c1d2e-0000-4000-8000-000000000002", by decide⟩

/-- The same person, also a user of another tenant. -/
def globexAccount : UserRow :=
  { sampleAccount with id := globexUserId, tenantCode := "globex" }

def twoTenants : CognitoState where
  users := ⟨[sampleAccount, globexAccount], by decide⟩

/-- Cognito creates the record, and answers with a sub or without one. -/
def sampleCall (userId : Uuid) (tenantCode newSub : String) (showsSub showsTenant : Bool) :
    Call where
  input := { userId := userId, email := " Kim@acme.test", tenantCode := tenantCode }
  env :=
    { newSub := newSub
      createUser := fun _ => .completes showsSub
      getUser := fun _ => .completes true showsTenant
      usernameExists := ⟨"", "", ""⟩
      userNotFound := ⟨"", "", ""⟩ }

/-- The call creates the record, but the answer has no sub. -/
def acmeCall : Call := sampleCall sampleUserId "acme" "sub-1" false true

def afterAcmeCall : CognitoState := (acmeCall.outcome Js.toLowerCase twoTenants).2

theorem init_twoTenants : (provisioning Js.toLowerCase).init twoTenants := by
  intro user huser _ _ sub hheld
  have hnone : ∀ user ∈ twoTenants.users.rows, user.externalIdentityId = none := by decide
  rw [hnone user huser] at hheld
  cases hheld

theorem step_acmeCall :
    (provisioning Js.toLowerCase).step twoTenants acmeCall = some afterAcmeCall :=
  step_of_fresh (by decide)

theorem guarded_of_own {s : CognitoState} {call : Call}
    (h : ∀ user ∈ s.users.rows, user.id = call.input.userId →
      createdFor s call.input (call.normalizedEmail Js.toLowerCase) = user.tenantCode) :
    TenantGuarded Js.toLowerCase s call :=
  fun user huser hid => .inl (h user huser hid)

/-- The next call for the same user links the record that the first left behind. -/
theorem identities_lawful_again :
    afterAcmeCall.DistinctIdentities ∧
      Lawful Js.toLowerCase afterAcmeCall (sampleCall sampleUserId "acme" "sub-2" true false) :=
  have hreach : (provisioning Js.toLowerCase).Reachable (TenantGuarded Js.toLowerCase)
      afterAcmeCall :=
    ⟨twoTenants, init_twoTenants,
      .single ⟨acmeCall, guarded_of_own (by decide +kernel), step_acmeCall⟩⟩
  have hfresh : Fresh afterAcmeCall (sampleCall sampleUserId "acme" "sub-2" true false) := by
    decide +kernel
  ⟨(identities_lawful hreach).1, (identities_lawful hreach).2
    (sampleCall sampleUserId "acme" "sub-2" true false) _ (guarded_of_own (by decide +kernel))
    (step_of_fresh hfresh)⟩

/-- Another tenant's record is linked where the answer does not say whose it is. -/
theorem unmarked_record_linked :
    ¬ ∀ s, (provisioning Js.toLowerCase).Reachable Always s →
      s.DistinctIdentities ∧ ∀ call t, (provisioning Js.toLowerCase).step s call = some t →
        Lawful Js.toLowerCase s call := by
  intro hclaim
  let globexCall := sampleCall globexUserId "globex" "sub-2" true false
  have hreach : (provisioning Js.toLowerCase).Reachable Always afterAcmeCall :=
    ⟨twoTenants, init_twoTenants, .single ⟨acmeCall, trivial, step_acmeCall⟩⟩
  have hfresh : Fresh afterAcmeCall globexCall := by decide +kernel
  have hlawful := (hclaim afterAcmeCall hreach).2 globexCall _ (step_of_fresh hfresh)
  let linked : UserRow := { globexAccount with externalIdentityId := some "sub-1" }
  have hlinked : linked ∈ (globexCall.outcome Js.toLowerCase afterAcmeCall).2.users.rows ∧
      linked ∉ afterAcmeCall.users.rows := by decide +kernel
  obtain ⟨record, hrecord, -, htenant⟩ :=
    hlawful.ownTenant _ _ (Prod.eta _).symm linked hlinked.1 (.inl hlinked.2)
  have hacme : ((globexCall.outcome Js.toLowerCase afterAcmeCall).2.recordOf
      (globexCall.normalizedEmail Js.toLowerCase)).map (·.tenantCode) = some "acme" := by
    decide +kernel
  rw [hrecord] at hacme
  exact absurd ((Option.some.inj hacme).symm.trans htenant) (by decide)

end AccessService.Accounts.CognitoUserProvisioning
