/-
  AccessService.Accounts.SettingsUpdates

  `authentication-settings.service.ts`: the settings of a tenant as they are requested,
  stored and answered, each under names of its own.  An update stores what is requested
  and answers with it.  A first request is stored only where a property has the name of
  a column; and what a tenant is told of self-service resets is the opposite of what
  `requestResetCode` does (`updateSettings_honours`).
-/

import AccessService.Accounts.Credentials

namespace AccessService.Accounts

open AccessService.Lib AccessService.Pg AccessService.Persistence
open AccessService.Authorization (Timestamp)

-- ============================================================================
-- Properties of a request
-- ============================================================================

/-- A property of a request body.  `@IsOptional` lets one be left out, or be null. -/
inductive Field (α : Type) where
  | undefined
  | null
  | value (a : α)
  deriving DecidableEq

namespace Field

variable {α : Type} [DecidableEq α] {field : Field α} {a b old : α}

/-- The checks of a property are skipped where there is no value. -/
def optional (check : α → Bool) : Field α → Bool
  | .value a => check a
  | _ => true

/-- `field !== undefined && field !== old`, and else nothing is to be set. -/
def changedFrom (field : Field α) (old : α) : Field α :=
  if field ≠ .undefined ∧ field ≠ .value old then field else .undefined

/-- What a NOT NULL column holds after it was set to this. -/
def column (old : α) : Field α → Option α
  | .undefined => some old
  | .null => none
  | .value a => some a

/-- A property that is there has this value. -/
def IsMet (field : Field α) (a : α) : Prop := field ≠ .undefined → field = .value a

instance (field : Field α) (a : α) : Decidable (field.IsMet a) :=
  inferInstanceAs (Decidable (_ → _))

theorem column_changedFrom : (field.changedFrom old).column old = field.column old := by
  unfold changedFrom
  cases field with
  | undefined => rfl
  | null => rfl
  | value a =>
    by_cases ha : a = old
    · subst ha
      rw [if_neg fun h => h.2 rfl]
      rfl
    · rw [if_pos ⟨nofun, fun h => ha (Field.value.inj h)⟩]

omit [DecidableEq α] in
/-- What is stored is what was requested, or what was there. -/
theorem isMet_of_column (h : field.column old = some a) : field.IsMet a := by
  intro hthere
  cases field with
  | undefined => exact absurd rfl hthere
  | null => cases h
  | value b => exact congrArg Field.value (Option.some.inj h)

omit [DecidableEq α] in
theorem old_of_column (h : field.column old = some a) (hout : field = .undefined) : a = old := by
  subst hout
  exact (Option.some.inj h).symm

omit [DecidableEq α] in
theorem agree_iff (hb : field.IsMet b) : (field ≠ .undefined → a = b) ↔ field.IsMet a := by
  refine forall_congr' fun hthere => ?_
  rw [hb hthere, Field.value.injEq, eq_comm]

end Field

/-- The request; `@IsOptional` stands at every property but the version. -/
structure UpdateAuthenticationSettingsDto where
  mfaRequired : Field Bool := .undefined
  selfServicePasswordResetEnabled : Field Bool := .undefined
  lockoutEnabled : Field Bool := .undefined
  lockoutThreshold : Field ℤ := .undefined
  ipRestrictionEnabled : Field Bool := .undefined
  ipAllowList : Field (List String) := .undefined
  version : ℤ
  deriving DecidableEq

/-- `@ValidateIf` skips all checks of the list where the restriction is not switched on. -/
def UpdateAuthenticationSettingsDto.isValid (isIP : String → Bool)
    (dto : UpdateAuthenticationSettingsDto) : Bool :=
  dto.lockoutThreshold.optional (1 ≤ ·) &&
    (dto.ipRestrictionEnabled ≠ .value true ||
      dto.ipAllowList.optional fun ipAllowList => ipAllowList ≠ [] && ipAllowList.all isIP) &&
    1 ≤ dto.version

-- ============================================================================
-- The table
-- ============================================================================

/-- The settings with the columns of the base entity. -/
structure SettingsRow extends AuthenticationSettings where
  id : Uuid
  version : ℤ
  updatedAt : Timestamp
  deriving DecidableEq

/-- `chk_authentication_settings_max_retries`, `chk_authentication_settings_version`, and the
    range of INTEGER. -/
def SettingsRow.checked (row : SettingsRow) : Bool :=
  0 < row.maxFailedRetries && row.maxFailedRetries < 2 ^ 31 && 1 ≤ row.version &&
    row.version < 2 ^ 31

abbrev SettingsTable : Type := Keyed SettingsRow fun row => row.tenantCode

structure SettingsStore where
  now : Timestamp
  tenants : List String
  settings : SettingsTable

/-- The table as the other services read it. -/
def SettingsStore.view (s : SettingsStore) :
    Keyed AuthenticationSettings AuthenticationSettings.tenantCode :=
  s.settings.mapRows (fun row => row.toAuthenticationSettings) fun _ => rfl

abbrev SettingsService (α : Type) : Type := Faulty SettingsStore AccountError α

/-- The columns that an update names. -/
structure SettingsUpdate where
  restrictedMfaEnabled : Field Bool
  needAdminResetPassword : Field Bool
  accountLockoutEnabled : Field Bool
  maxFailedRetries : Field ℤ
  ipRestrictionEnabled : Field Bool
  allowedIpCidrs : Field (List String)
  deriving DecidableEq

def SettingsUpdate.apply (change : SettingsUpdate) (row : SettingsRow) : Option SettingsRow := do
  let restrictedMfaEnabled ← change.restrictedMfaEnabled.column row.restrictedMfaEnabled
  let needAdminResetPassword ← change.needAdminResetPassword.column row.needAdminResetPassword
  let accountLockoutEnabled ← change.accountLockoutEnabled.column row.accountLockoutEnabled
  let maxFailedRetries ← change.maxFailedRetries.column row.maxFailedRetries
  let ipRestrictionEnabled ← change.ipRestrictionEnabled.column row.ipRestrictionEnabled
  let allowedIpCidrs ← change.allowedIpCidrs.column row.allowedIpCidrs
  pure { row with
    restrictedMfaEnabled := restrictedMfaEnabled
    needAdminResetPassword := needAdminResetPassword
    accountLockoutEnabled := accountLockoutEnabled
    maxFailedRetries := maxFailedRetries
    ipRestrictionEnabled := ipRestrictionEnabled
    allowedIpCidrs := allowedIpCidrs }

namespace AuthenticationSettingsRepository

variable (ctx : AccountContext)

/-- `findOne({})`, in the tenant of the request. -/
def current (table : SettingsTable) : Option SettingsRow :=
  table.rows.find? fun row => row.tenantCode = ctx.tenantCode

/-- The row of a request: what it has under the name of a column.  The rest are defaults. -/
def newRow (id : Uuid) (now : Timestamp) (dto : UpdateAuthenticationSettingsDto) :
    Option SettingsRow :=
  ((dto.ipRestrictionEnabled.column false).map fun ipRestrictionEnabled =>
    { id := id, tenantCode := ctx.tenantCode, ipRestrictionEnabled := ipRestrictionEnabled,
      version := dto.version, updatedAt := now }).filter SettingsRow.checked

def inserted (s : SettingsStore) (row : SettingsRow) : Option SettingsStore :=
  if row.tenantCode ∈ s.tenants then
    (s.settings.insert row).map fun settings => { s with settings := settings }
  else none

def created (id : Uuid) (now : Timestamp) (dto : UpdateAuthenticationSettingsDto)
    (s : SettingsStore) : Except AccountError (SettingsRow × SettingsStore) :=
  match (newRow ctx id now dto).bind fun row => (inserted s row).map fun s' => (row, s') with
  | some stored => .ok stored
  | none => .error queryFailed

def create (id : Uuid) (dto : UpdateAuthenticationSettingsDto) : SettingsService SettingsRow :=
  .call fun s => created ctx id s.now dto s

/-- The expected version is not looked for; the one after it is written. -/
def overwritten (expectedVersion : ℤ) (now : Timestamp) (updateData : SettingsUpdate)
    (row : SettingsRow) : Option SettingsRow :=
  ((updateData.apply row).map fun row =>
    { row with version := expectedVersion + 1, updatedAt := now }).filter SettingsRow.checked

def updated (id : Uuid) (expectedVersion : ℤ) (now : Timestamp) (updateData : SettingsUpdate)
    (s : SettingsStore) : Except AccountError (SettingsRow × SettingsStore) :=
  match s.settings.rows.find? fun row => row.tenantCode = ctx.tenantCode && row.id = id with
  | none => .error EntityNotFound
  | some row =>
    match overwritten expectedVersion now updateData row with
    | some stored => .ok (stored, { s with settings := s.settings.replace stored })
    | none => .error queryFailed

def updateWithOptimisticLock (id : Uuid) (expectedVersion : ℤ) (updateData : SettingsUpdate) :
    SettingsService SettingsRow :=
  .call fun s => updated ctx id expectedVersion s.now updateData s

end AuthenticationSettingsRepository

-- ============================================================================
-- The service
-- ============================================================================

namespace AuthenticationSettingsService

open AuthenticationSettingsRepository

def fieldsToUpdate (dto : UpdateAuthenticationSettingsDto) (current : SettingsRow) :
    SettingsUpdate where
  restrictedMfaEnabled := dto.mfaRequired.changedFrom current.restrictedMfaEnabled
  needAdminResetPassword :=
    dto.selfServicePasswordResetEnabled.changedFrom current.needAdminResetPassword
  accountLockoutEnabled := dto.lockoutEnabled.changedFrom current.accountLockoutEnabled
  maxFailedRetries := dto.lockoutThreshold.changedFrom current.maxFailedRetries
  ipRestrictionEnabled := dto.ipRestrictionEnabled.changedFrom current.ipRestrictionEnabled
  -- two arrays are never `===`
  allowedIpCidrs := dto.ipAllowList

/-- `id` is for a row that is not there yet. -/
def upsert (ctx : AccountContext) (id : Uuid) (dto : UpdateAuthenticationSettingsDto) :
    SettingsService SettingsRow := do
  match ← .read fun s => current ctx s.settings with
  | none => create ctx id dto
  | some row => updateWithOptimisticLock ctx row.id dto.version (fieldsToUpdate dto row)

def upsertSettings (ctx : AccountContext) (id : Uuid) (dto : UpdateAuthenticationSettingsDto) :
    SettingsService SettingsRow :=
  .transaction (fun before after => { after with settings := before.settings }) (upsert ctx id dto)

end AuthenticationSettingsService

structure AuthenticationSettingsResponseDto where
  tenantCode : String
  mfaRequired : Bool
  selfServicePasswordResetEnabled : Bool
  lockoutEnabled : Bool
  lockoutThreshold : ℤ
  ipRestrictionEnabled : Bool
  ipAllowList : List String
  version : ℤ
  updatedAt : Timestamp
  deriving DecidableEq

def AuthenticationSettingsResponseDto.fromSetting (setting : SettingsRow) :
    AuthenticationSettingsResponseDto where
  tenantCode := setting.tenantCode
  mfaRequired := setting.restrictedMfaEnabled
  selfServicePasswordResetEnabled := setting.needAdminResetPassword
  lockoutEnabled := setting.accountLockoutEnabled
  lockoutThreshold := setting.maxFailedRetries
  ipRestrictionEnabled := setting.ipRestrictionEnabled
  ipAllowList := setting.allowedIpCidrs
  version := setting.version
  updatedAt := setting.updatedAt

def BadRequestException : AccountError where
  name := "BadRequestException"
  message := "Bad Request Exception"
  status := 400

/-- `PUT settings/authentication`, behind the validation pipe. -/
def AuthenticationSettingsController.updateSettings (isIP : String → Bool) (ctx : AccountContext)
    (id : Uuid) (dto : UpdateAuthenticationSettingsDto) :
    SettingsService AuthenticationSettingsResponseDto :=
  if dto.isValid isIP = true then do
    let settings ← AuthenticationSettingsService.upsertSettings ctx id dto
    pure (.fromSetting settings)
  else .throw BadRequestException

-- ============================================================================
-- Requests, rows and answers
-- ============================================================================

section Properties

variable {P Q : {α : Type} → Field α → α → α → Prop} {dto : UpdateAuthenticationSettingsDto}
  {response response' : AuthenticationSettingsResponseDto}

/-- What is true of every property of a request and its values in two answers. -/
def EachProperty (P : {α : Type} → Field α → α → α → Prop)
    (dto : UpdateAuthenticationSettingsDto)
    (response response' : AuthenticationSettingsResponseDto) : Prop :=
  P dto.mfaRequired response.mfaRequired response'.mfaRequired ∧
    P dto.selfServicePasswordResetEnabled response.selfServicePasswordResetEnabled
      response'.selfServicePasswordResetEnabled ∧
    P dto.lockoutEnabled response.lockoutEnabled response'.lockoutEnabled ∧
    P dto.lockoutThreshold response.lockoutThreshold response'.lockoutThreshold ∧
    P dto.ipRestrictionEnabled response.ipRestrictionEnabled response'.ipRestrictionEnabled ∧
    P dto.ipAllowList response.ipAllowList response'.ipAllowList

theorem EachProperty.imp (h : EachProperty P dto response response')
    (himp : ∀ {α : Type} (field : Field α) (a b : α), P field a b → Q field a b) :
    EachProperty Q dto response response' := by
  obtain ⟨hmfa, hreset, hlockout, hthreshold, hip, hlist⟩ := h
  exact ⟨himp _ _ _ hmfa, himp _ _ _ hreset, himp _ _ _ hlockout, himp _ _ _ hthreshold,
    himp _ _ _ hip, himp _ _ _ hlist⟩

/-- The properties that are there are answered with their values. -/
def Reports (dto : UpdateAuthenticationSettingsDto) (response : AuthenticationSettingsResponseDto) :
    Prop :=
  EachProperty (fun field _ a => field.IsMet a) dto response response

/-- The properties that are left out are answered as before. -/
def Keeps (dto : UpdateAuthenticationSettingsDto)
    (before response : AuthenticationSettingsResponseDto) : Prop :=
  EachProperty (fun field old a => field = .undefined → a = old) dto before response

/-- The properties that are there are answered alike. -/
def Agree (dto : UpdateAuthenticationSettingsDto)
    (response response' : AuthenticationSettingsResponseDto) : Prop :=
  EachProperty (fun field a b => field ≠ .undefined → a = b) dto response response'

theorem agree_iff (h : Reports dto response') :
    Agree dto response response' ↔ Reports dto response := by
  obtain ⟨hmfa, hreset, hlockout, hthreshold, hip, hlist⟩ := h
  exact and_congr (Field.agree_iff hmfa) (and_congr (Field.agree_iff hreset)
    (and_congr (Field.agree_iff hlockout) (and_congr (Field.agree_iff hthreshold)
      (and_congr (Field.agree_iff hip) (Field.agree_iff hlist)))))

end Properties

-- ============================================================================
-- What is stored
-- ============================================================================

namespace AuthenticationSettingsRepository

open AuthenticationSettingsService (fieldsToUpdate)

variable {ctx : AccountContext} {id : Uuid} {now : Timestamp} {expectedVersion : ℤ}
  {dto : UpdateAuthenticationSettingsDto} {row stored : SettingsRow} {s s' : SettingsStore}

theorem overwritten_ok {change : SettingsUpdate}
    (h : overwritten expectedVersion now change row = some stored) :
    ∃ changed, change.apply row = some changed ∧
      stored = { changed with version := expectedVersion + 1, updatedAt := now } := by
  obtain ⟨hmap, -⟩ := Option.filter_eq_some_iff.mp h
  obtain ⟨changed, happly, rfl⟩ := Option.map_eq_some_iff.mp hmap
  exact ⟨changed, happly, rfl⟩

theorem overwritten_version {change : SettingsUpdate}
    (h : overwritten expectedVersion now change row = some stored) :
    stored.version = expectedVersion + 1 := by
  obtain ⟨changed, -, rfl⟩ := overwritten_ok h
  rfl

theorem overwritten_key {change : SettingsUpdate}
    (h : overwritten expectedVersion now change row = some stored) :
    stored.tenantCode = row.tenantCode ∧ stored.id = row.id := by
  obtain ⟨changed, happly, rfl⟩ := overwritten_ok h
  simp only [SettingsUpdate.apply, Option.bind_eq_bind, Option.bind_eq_some_iff,
    Option.pure_def, Option.some.injEq] at happly
  obtain ⟨_, -, _, -, _, -, _, -, _, -, _, -, rfl⟩ := happly
  exact ⟨rfl, rfl⟩

/-- An update sets the columns of what is requested, and leaves the others. -/
theorem overwritten_columns
    (h : overwritten expectedVersion now (fieldsToUpdate dto row) row = some stored) :
    EachProperty (fun field old a => field.column old = some a) dto (.fromSetting row)
      (.fromSetting stored) := by
  obtain ⟨changed, happly, rfl⟩ := overwritten_ok h
  simp only [SettingsUpdate.apply, fieldsToUpdate, Field.column_changedFrom, Option.bind_eq_bind,
    Option.bind_eq_some_iff, Option.pure_def, Option.some.injEq] at happly
  obtain ⟨_, hmfa, _, hreset, _, hlockout, _, hthreshold, _, hip, _, hlist, rfl⟩ := happly
  exact ⟨hmfa, hreset, hlockout, hthreshold, hip, hlist⟩

theorem overwritten_reports
    (h : overwritten expectedVersion now (fieldsToUpdate dto row) row = some stored) :
    Reports dto (.fromSetting stored) := by
  obtain ⟨hmfa, hreset, hlockout, hthreshold, hip, hlist⟩ := overwritten_columns h
  exact ⟨Field.isMet_of_column hmfa, Field.isMet_of_column hreset,
    Field.isMet_of_column hlockout, Field.isMet_of_column hthreshold,
    Field.isMet_of_column hip, Field.isMet_of_column hlist⟩

theorem overwritten_keeps
    (h : overwritten expectedVersion now (fieldsToUpdate dto row) row = some stored) :
    Keeps dto (.fromSetting row) (.fromSetting stored) :=
  (overwritten_columns h).imp fun _ _ _ hcolumn => Field.old_of_column hcolumn

theorem newRow_ok (h : newRow ctx id now dto = some stored) :
    ∃ ipRestrictionEnabled, dto.ipRestrictionEnabled.column false = some ipRestrictionEnabled ∧
      stored =
        { id := id, tenantCode := ctx.tenantCode, ipRestrictionEnabled := ipRestrictionEnabled,
          version := dto.version, updatedAt := now } := by
  obtain ⟨hmap, -⟩ := Option.filter_eq_some_iff.mp h
  obtain ⟨ipRestrictionEnabled, hcolumn, rfl⟩ := Option.map_eq_some_iff.mp hmap
  exact ⟨ipRestrictionEnabled, hcolumn, rfl⟩

/-- What a first request may ask for: the properties that have no column of their name are
    left out, or ask for the default. -/
def AsksForDefaults (dto : UpdateAuthenticationSettingsDto) : Prop :=
  dto.mfaRequired.IsMet false ∧ dto.selfServicePasswordResetEnabled.IsMet false ∧
    dto.lockoutEnabled.IsMet false ∧ dto.lockoutThreshold.IsMet 5 ∧ dto.ipAllowList.IsMet []

instance (dto : UpdateAuthenticationSettingsDto) : Decidable (AsksForDefaults dto) :=
  inferInstanceAs (Decidable (_ ∧ _))

theorem newRow_reports_iff (h : newRow ctx id now dto = some stored) :
    Reports dto (.fromSetting stored) ↔ AsksForDefaults dto := by
  obtain ⟨ipRestrictionEnabled, hcolumn, rfl⟩ := newRow_ok h
  constructor
  · rintro ⟨hmfa, hreset, hlockout, hthreshold, -, hlist⟩
    exact ⟨hmfa, hreset, hlockout, hthreshold, hlist⟩
  · rintro ⟨hmfa, hreset, hlockout, hthreshold, hlist⟩
    exact ⟨hmfa, hreset, hlockout, hthreshold, Field.isMet_of_column hcolumn, hlist⟩

/-- Where there is no row, a first request is stored. -/
theorem current_inserted (hnone : current ctx s.settings = none)
    (htenant : stored.tenantCode = ctx.tenantCode) (h : inserted s stored = some s') :
    current ctx s'.settings = some stored := by
  unfold inserted at h
  split at h
  · obtain ⟨settings, hinsert, rfl⟩ := Option.map_eq_some_iff.mp h
    unfold current at hnone ⊢
    rw [Keyed.insert_rows hinsert, List.find?_append, hnone, Option.none_or]
    exact List.find?_cons_of_pos (decide_eq_true htenant)
  · cases h

theorem current_mem (h : current ctx s.settings = some row) :
    row ∈ s.settings.rows ∧ row.tenantCode = ctx.tenantCode := by
  unfold current at h
  exact ⟨List.mem_of_find?_eq_some h, by simpa using List.find?_some h⟩

theorem current_replace (h : current ctx s.settings = some row)
    (htenant : stored.tenantCode = row.tenantCode) :
    current ctx (s.settings.replace stored) = some stored := by
  obtain ⟨hmem, hctx⟩ := current_mem h
  have hkey : stored.tenantCode ∈ s.settings.rows.map fun row => row.tenantCode :=
    htenant ▸ List.mem_map_of_mem hmem
  unfold current
  rw [Keyed.find?_replace hkey, if_pos (hctx.symm.trans htenant.symm)]

theorem created_ok (hnone : current ctx s.settings = none)
    (h : created ctx id now dto s = .ok (stored, s')) :
    newRow ctx id now dto = some stored ∧ current ctx s'.settings = some stored := by
  unfold created at h
  split at h
  next hbind =>
    cases h
    obtain ⟨row, hrow, hmap⟩ := Option.bind_eq_some_iff.mp hbind
    obtain ⟨s', hinserted, hpair⟩ := Option.map_eq_some_iff.mp hmap
    cases hpair
    obtain ⟨_, -, hstored⟩ := newRow_ok hrow
    exact ⟨hrow, current_inserted hnone (by rw [hstored]) hinserted⟩
  · cases h

/-- The update is one of the row that is there. -/
theorem updated_eq {change : SettingsUpdate} (hrow : current ctx s.settings = some row) :
    updated ctx row.id expectedVersion now change s =
      match overwritten expectedVersion now change row with
      | some stored => .ok (stored, { s with settings := s.settings.replace stored })
      | none => .error queryFailed := by
  obtain ⟨hmem, htenant⟩ := current_mem hrow
  have hfind : s.settings.rows.find? (fun row' =>
      row'.tenantCode = ctx.tenantCode && row'.id = row.id) = some row := by
    refine Keyed.find?_unique hmem (by simp [htenant]) fun row' hrow' => ?_
    rw [Bool.and_eq_true, decide_eq_true_iff, decide_eq_true_iff] at hrow'
    exact hrow'.1.trans htenant.symm
  unfold updated
  rw [hfind]

theorem updated_ok {change : SettingsUpdate} (hrow : current ctx s.settings = some row)
    (h : updated ctx row.id expectedVersion now change s = .ok (stored, s')) :
    overwritten expectedVersion now change row = some stored ∧
      current ctx s'.settings = some stored := by
  rw [updated_eq hrow] at h
  split at h
  next hwritten =>
    cases h
    exact ⟨hwritten, current_replace hrow (overwritten_key hwritten).1⟩
  · cases h

end AuthenticationSettingsRepository

namespace AuthenticationSettingsService

open AuthenticationSettingsRepository

variable {ctx : AccountContext} {id : Uuid} {dto : UpdateAuthenticationSettingsDto}
  {w w' : World SettingsStore AccountError} {row stored : SettingsRow}

/-- What a request that succeeds leaves, of a row that is there and where there is none. -/
theorem upsertSettings_ok (h : upsertSettings ctx id dto w = (.ok stored, w')) :
    current ctx w'.state.settings = some stored ∧
      match current ctx w.state.settings with
      | none => newRow ctx id w.state.now dto = some stored
      | some row =>
        overwritten dto.version w.state.now (fieldsToUpdate dto row) row = some stored := by
  obtain ⟨found, w₁, hread, hrest⟩ := Faulty.bind_ok.mp (Faulty.transaction_ok.mp h)
  obtain ⟨rfl, hstate⟩ := Faulty.read_ok hread
  rw [← hstate] at hrest ⊢
  rcases hcurrent : current ctx w₁.state.settings with _ | row
  · rw [hcurrent] at hrest
    exact (created_ok hcurrent (Faulty.call_ok hrest)).symm
  · rw [hcurrent] at hrest
    exact (updated_ok hcurrent (Faulty.call_ok hrest)).symm

end AuthenticationSettingsService

-- ============================================================================
-- What is refused
-- ============================================================================

namespace PasswordService

variable {hashOtpCode : String → String} {fresh : FreshResetCode} {dto : RequestPasswordReset}

theorem sendResetCode_completes : Faulty.Completes (sendResetCode hashOtpCode fresh dto) := by
  refine readDb_completes.bind fun found => ?_
  cases found with
  | none => exact Faulty.completes_pure _
  | some user =>
    refine Faulty.Completes.bind ?_ fun _ => log_completes.transaction
    unfold PasswordResetRedisAdapter.saveChallenge PasswordResetRedisAdapter.storeChallenge
    exact writeRedis_completes

/-- Where nothing fails, a request is refused by the setting alone. -/
theorem requestResetCode_refused_iff {s : AccountStore} :
    (requestResetCode hashOtpCode fresh dto (.calm s)).1 =
        .error SelfServiceResetDisabledException ↔
      (s.db.settings.rows.find? fun settings => settings.tenantCode = dto.tenantCode).any
        (fun settings => settings.needAdminResetPassword) = true := by
  have hread : AuthenticationSettingsRepository.findByTenantCode dto.tenantCode (.calm s) =
      (.ok (s.db.settings.rows.find? fun settings => settings.tenantCode = dto.tenantCode),
        .calm s) := rfl
  unfold requestResetCode
  rw [Faulty.bind_runs hread]
  split
  next hneeds => exact iff_of_true rfl hneeds
  next hneeds =>
    obtain ⟨u, s', hsend⟩ := sendResetCode_completes s
    rw [Faulty.bind_runs hsend]
    exact iff_of_false nofun hneeds

end PasswordService

-- ============================================================================
-- What the settings promise
-- ============================================================================

namespace AuthenticationSettingsController

open AuthenticationSettingsRepository
open AuthenticationSettingsService (fieldsToUpdate upsertSettings_ok)
open PasswordService (requestResetCode requestResetCode_refused_iff)

variable {isIP : String → Bool} {ctx : AccountContext} {id : Uuid}
  {dto : UpdateAuthenticationSettingsDto} {response : AuthenticationSettingsResponseDto}
  {w w' : World SettingsStore AccountError}

/-- Of the services that read the settings, a request for a reset code is refused. -/
def Refuses (ctx : AccountContext) (s : SettingsStore) (accounts : AccountStore)
    (hashOtpCode : String → String) (fresh : FreshResetCode) (email : String) : Prop :=
  (requestResetCode hashOtpCode fresh ⟨ctx.tenantCode, email⟩
    (.calm { accounts with db := { accounts.db with settings := s.view } })).1 =
      .error SelfServiceResetDisabledException

/-- What a request is answered is what it asked for and else what was there, wherever it is
    stored; and self-service resets are refused where the answer says that they are off. -/
structure Honours (ctx : AccountContext) (dto : UpdateAuthenticationSettingsDto)
    (before after : SettingsStore) (response : AuthenticationSettingsResponseDto) : Prop where
  reports : Reports dto response
  keeps : ∀ row, current ctx before.settings = some row → Keeps dto (.fromSetting row) response
  agree : ∀ id now row created updated, newRow ctx id now dto = some created →
    overwritten dto.version now (fieldsToUpdate dto row) row = some updated →
    Agree dto (.fromSetting created) (.fromSetting updated)
  refuses : ∀ accounts hashOtpCode fresh email,
    Refuses ctx after accounts hashOtpCode fresh email ↔
      response.selfServicePasswordResetEnabled = false

theorem updateSettings_ok (h : updateSettings isIP ctx id dto w = (.ok response, w')) :
    ∃ stored, AuthenticationSettingsService.upsertSettings ctx id dto w = (.ok stored, w') ∧
      response = .fromSetting stored := by
  unfold updateSettings at h
  split at h
  · obtain ⟨stored, w₁, hupsert, hpure⟩ := Faulty.bind_ok.mp h
    obtain ⟨rfl, rfl⟩ := Faulty.pure_ok.mp hpure
    exact ⟨stored, hupsert, rfl⟩
  · exact absurd h Faulty.throw_ok

theorem refuses_iff {s : SettingsStore} {stored : SettingsRow}
    (hstored : current ctx s.settings = some stored) (accounts : AccountStore)
    (hashOtpCode : String → String) (fresh : FreshResetCode) (email : String) :
    Refuses ctx s accounts hashOtpCode fresh email ↔ stored.needAdminResetPassword = true := by
  have hfind : s.view.rows.find? (fun settings => settings.tenantCode = ctx.tenantCode) =
      some stored.toAuthenticationSettings := by
    show (s.settings.rows.map _).find? _ = _
    rw [List.find?_map]
    exact congrArg (Option.map _) hstored
  refine requestResetCode_refused_iff.trans ?_
  show (s.view.rows.find? _).any _ = true ↔ _
  rw [hfind]
  rfl

/-- A request that succeeds is answered with what it asked for where there was a row, or
    where it asks for defaults; what it leaves out is kept; the two ways to store it agree
    only on defaults; and resets are refused where the answer says that they are on. -/
theorem updateSettings_honours (h : updateSettings isIP ctx id dto w = (.ok response, w')) :
    (Reports dto response ↔
      (current ctx w.state.settings).isSome = true ∨ AsksForDefaults dto) ∧
    (∀ row, current ctx w.state.settings = some row → Keeps dto (.fromSetting row) response) ∧
    (∀ id now row created updated, newRow ctx id now dto = some created →
      overwritten dto.version now (fieldsToUpdate dto row) row = some updated →
      (Agree dto (.fromSetting created) (.fromSetting updated) ↔ AsksForDefaults dto)) ∧
    (∀ accounts hashOtpCode fresh email,
      Refuses ctx w'.state accounts hashOtpCode fresh email ↔
        response.selfServicePasswordResetEnabled = true) ∧
    ¬Honours ctx dto w.state w'.state response := by
  obtain ⟨stored, hupsert, rfl⟩ := updateSettings_ok h
  obtain ⟨hstored, hwritten⟩ := upsertSettings_ok hupsert
  have hrefuses : ∀ accounts hashOtpCode fresh email,
      Refuses ctx w'.state accounts hashOtpCode fresh email ↔
        stored.needAdminResetPassword = true :=
    refuses_iff hstored
  refine ⟨?_, fun row hrow => ?_, ?_, hrefuses, fun hhonours => ?_⟩
  · rcases hcurrent : current ctx w.state.settings with _ | row
    · rw [hcurrent] at hwritten
      rw [newRow_reports_iff hwritten]
      simp
    · rw [hcurrent] at hwritten
      exact iff_of_true (overwritten_reports hwritten) (.inl rfl)
  · rw [hrow] at hwritten
    exact overwritten_keeps hwritten
  · intro id now row created updated hcreated hupdated
    exact (agree_iff (overwritten_reports hupdated)).trans (newRow_reports_iff hcreated)
  · let accounts : AccountStore := { db := { users := .empty, employees := .empty } }
    have hpromised : stored.needAdminResetPassword = true ↔ stored.needAdminResetPassword = false :=
      (hrefuses accounts _ _ _).symm.trans
        (hhonours.refuses accounts (fun code => code) ⟨id, ""⟩ "")
    rw [← Bool.not_eq_true] at hpromised
    exact iff_not_self hpromised

-- ============================================================================
-- A tenant that switches self-service resets on
-- ============================================================================

def sampleSettings : SettingsRow where
  tenantCode := "acme"
  id := Persistence.sampleRoleId
  version := 1
  updatedAt := 0

def sampleSettingsStore : SettingsStore where
  now := 0
  tenants := ["acme"]
  settings := ⟨[sampleSettings], List.nodup_singleton _⟩

def noSettingsStore : SettingsStore := { sampleSettingsStore with settings := .empty }

def switchOnResets : UpdateAuthenticationSettingsDto where
  selfServicePasswordResetEnabled := .value true
  version := 1

def requireMfa : UpdateAuthenticationSettingsDto where
  mfaRequired := .value true
  version := 1

theorem updateSettings_honours_sample : ∃ response w',
    updateSettings (fun _ => true) acmeAccounts Persistence.sampleRoleId switchOnResets
      (.calm sampleSettingsStore) = (.ok response, w') ∧
      ¬Honours acmeAccounts switchOnResets sampleSettingsStore w'.state response := by
  have hrun := Faulty.run_eq (show (updateSettings (fun _ => true) acmeAccounts
    Persistence.sampleRoleId switchOnResets (.calm sampleSettingsStore)).1 =
      .ok (.fromSetting { sampleSettings with needAdminResetPassword := true, version := 2 })
      from rfl)
  exact ⟨_, _, hrun, (updateSettings_honours hrun).2.2.2.2⟩

/-- Switched on, they are refused; and a first request for MFA is answered without it. -/
theorem not_honours :
    (∃ response w',
      updateSettings (fun _ => true) acmeAccounts Persistence.sampleRoleId switchOnResets
        (.calm sampleSettingsStore) = (.ok response, w') ∧
      response.selfServicePasswordResetEnabled = true ∧
      Refuses acmeAccounts w'.state { db := { users := .empty, employees := .empty } }
        (fun code => code) ⟨Persistence.sampleRoleId, "314159"⟩ "ada@acme.example" ∧
      ¬Honours acmeAccounts switchOnResets sampleSettingsStore w'.state response) ∧
    ∃ response w',
      updateSettings (fun _ => true) acmeAccounts Persistence.sampleRoleId requireMfa
        (.calm noSettingsStore) = (.ok response, w') ∧
      response.mfaRequired = false ∧
      ¬Honours acmeAccounts requireMfa noSettingsStore w'.state response := by
  constructor
  · have hrefuses : Refuses acmeAccounts
        (updateSettings (fun _ => true) acmeAccounts Persistence.sampleRoleId switchOnResets
          (.calm sampleSettingsStore)).2.state
        { db := { users := .empty, employees := .empty } }
        (fun code => code) ⟨Persistence.sampleRoleId, "314159"⟩ "ada@acme.example" := rfl
    refine ⟨.fromSetting { sampleSettings with needAdminResetPassword := true, version := 2 }, _,
      Faulty.run_eq rfl, rfl, hrefuses, fun hhonours => ?_⟩
    cases (hhonours.refuses _ _ _ _).mp hrefuses
  · refine ⟨.fromSetting sampleSettings, _, Faulty.run_eq rfl, rfl, fun hhonours => ?_⟩
    cases hhonours.reports.1 nofun

end AuthenticationSettingsController

end AccessService.Accounts
