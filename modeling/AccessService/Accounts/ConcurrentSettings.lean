/-
  AccessService.Accounts.ConcurrentSettings

  Requests for new settings at the same time.  Each looks the row up and then writes it;
  the version it carries is not compared with the one that is stored, it only says what is
  written in its place.  So no update is lost along a run exactly where every write that is
  stored was requested at the version it finds (`notLost_iff_fresh`).
-/

import AccessService.Accounts.SettingsUpdates
import AccessService.Lib.Pool

namespace AccessService.Accounts

open AccessService.Lib AccessService.Lib.Transition AccessService.Pg
open AccessService.Authorization (Timestamp)

inductive SettingsPhase where
  | called
  | found (current : Option SettingsRow)
  | succeeded (stored : SettingsRow)
  | failed (e : AccountError)
  deriving DecidableEq

/-- A call, the id for a row of its own, and the time of its write. -/
structure SettingsCall where
  id : Uuid
  now : Timestamp
  dto : UpdateAuthenticationSettingsDto
  phase : SettingsPhase := .called
  deriving DecidableEq

def SettingsCall.hasSucceeded (call : SettingsCall) : Bool :=
  match call.phase with
  | .succeeded _ => true
  | _ => false

abbrev SettingsPool : Type := Pool SettingsStore SettingsCall

namespace AuthenticationSettingsService

open AuthenticationSettingsRepository

variable (ctx : AccountContext)

/-- What a call writes, once it has looked the row up. -/
def write (call : SettingsCall) (s : SettingsStore) :
    Option SettingsRow → Except AccountError (SettingsRow × SettingsStore)
  | none => created ctx call.id call.now call.dto s
  | some row => updated ctx row.id call.dto.version call.now (fieldsToUpdate call.dto row) s

def ended (s : SettingsStore) (call : SettingsCall) :
    Except AccountError (SettingsRow × SettingsStore) → SettingsStore × SettingsCall
  | .ok (stored, s') => (s', { call with phase := .succeeded stored })
  | .error e => (s, { call with phase := .failed e })

/-- The next statement of a call.  A write is the last one, and commits. -/
def statement (s : SettingsStore) (call : SettingsCall) : Option (SettingsStore × SettingsCall) :=
  match call.phase with
  | .called => some (s, { call with phase := .found (current ctx s.settings) })
  | .found row => some (ended s call (write ctx call s row))
  | .succeeded _ | .failed _ => none

/-- Calls that are about to begin, on a row that is there. -/
structure SettingsBegin (s : SettingsPool) : Prop where
  row : (current ctx s.shared.settings).isSome = true
  new : ∀ call ∈ s.threads, call.phase = .called

def settingsRaces : System SettingsPool Nat := Pool.system (SettingsBegin ctx) (statement ctx)

-- ============================================================================
-- A call alone
-- ============================================================================

def answer (call : SettingsCall) : Option (Except AccountError SettingsRow) :=
  match call.phase with
  | .succeeded stored => some (.ok stored)
  | .failed e => some (.error e)
  | _ => none

variable {ctx} {s : SettingsStore} {id : Uuid} {dto : UpdateAuthenticationSettingsDto}

theorem upsert_calm :
    upsert ctx id dto (.calm s) =
      match write ctx { id := id, now := s.now, dto := dto } s (current ctx s.settings) with
      | .ok (stored, s') => (.ok stored, .calm s')
      | .error e => (.error e, .calm s) := by
  have hread : (Faulty.read fun s => current ctx s.settings : SettingsService _) (.calm s) =
      (.ok (current ctx s.settings), .calm s) := rfl
  unfold upsert
  rw [Faulty.bind_runs hread]
  cases current ctx s.settings with
  | none =>
    show create ctx id dto (.calm s) = _
    have hwrite : write ctx { id := id, now := s.now, dto := dto } s none =
        created ctx id s.now dto s := rfl
    rw [create, Faulty.call_calm, hwrite]
    rcases created ctx id s.now dto s with e | ⟨stored, s'⟩ <;> rfl
  | some row =>
    show updateWithOptimisticLock ctx row.id dto.version (fieldsToUpdate dto row) (.calm s) = _
    have hwrite : write ctx { id := id, now := s.now, dto := dto } s (some row) =
        updated ctx row.id dto.version s.now (fieldsToUpdate dto row) s := rfl
    rw [updateWithOptimisticLock, Faulty.call_calm, hwrite]
    rcases updated ctx row.id dto.version s.now (fieldsToUpdate dto row) s
      with e | ⟨stored, s'⟩ <;> rfl

/-- Alone, the statements are those of the service. -/
theorem upsertSettings_alone :
    ∃ r s', upsertSettings ctx id dto (.calm s) = (r, .calm s') ∧
      Pool.RunsAlone (statement ctx) answer s { id := id, now := s.now, dto := dto } s' r := by
  rcases hwrite : write ctx { id := id, now := s.now, dto := dto } s (current ctx s.settings)
    with e | ⟨stored, s'⟩
  · have hends : statement ctx s
        { id := id, now := s.now, dto := dto, phase := .found (current ctx s.settings) } =
          some (s, { id := id, now := s.now, dto := dto, phase := .failed e }) :=
      congrArg (fun r => some (ended s _ r)) hwrite
    refine ⟨.error e, s, ?_, .next rfl (.next hends (.ended rfl))⟩
    rw [upsertSettings, Faulty.transaction, upsert_calm, hwrite]
  · have hends : statement ctx s
        { id := id, now := s.now, dto := dto, phase := .found (current ctx s.settings) } =
          some (s', { id := id, now := s.now, dto := dto, phase := .succeeded stored }) :=
      congrArg (fun r => some (ended s _ r)) hwrite
    refine ⟨.ok stored, s', ?_, .next rfl (.next hends (.ended rfl))⟩
    rw [upsertSettings, Faulty.transaction, upsert_calm, hwrite]

-- ============================================================================
-- What a statement does
-- ============================================================================

/-- The row is there, and it is the one that the calls have looked up. -/
def Ready (ctx : AccountContext) (s : SettingsPool) (row : SettingsRow) : Prop :=
  current ctx s.shared.settings = some row ∧
    ∀ call ∈ s.threads, ∀ found, call.phase = .found found →
      ∃ looked, found = some looked ∧ looked.id = row.id

/-- What a call stores, where it has looked this row up; none, where the constraints refuse
    it. -/
def stores (call : SettingsCall) (looked row : SettingsRow) : Option SettingsRow :=
  overwritten call.dto.version call.now (fieldsToUpdate call.dto looked) row

inductive SettingsMove (s : SettingsStore) (row : SettingsRow) (call : SettingsCall) :
    SettingsStore → SettingsPhase → Prop where
  | looks (h : call.phase = .called) : SettingsMove s row call s (.found (some row))
  | writes {looked stored : SettingsRow} (h : call.phase = .found (some looked))
      (hstores : stores call looked row = some stored) :
      SettingsMove s row call { s with settings := s.settings.replace stored } (.succeeded stored)
  | isRefused {looked : SettingsRow} (h : call.phase = .found (some looked))
      (hrefused : stores call looked row = none) :
      SettingsMove s row call s (.failed queryFailed)

variable {p t : SettingsPool} {i : Nat} {row : SettingsRow}

theorem step_cases (hp : Ready ctx p row) (h : (settingsRaces ctx).step p i = some t) :
    ∃ call shared phase, p.threads[i]? = some call ∧
      SettingsMove p.shared row call shared phase ∧
      t = p.put i shared { call with phase := phase } := by
  obtain ⟨hrow, hfound⟩ := hp
  obtain ⟨call, shared, call', hcall, hnext, rfl⟩ := Pool.step_cases h
  unfold statement at hnext
  split at hnext
  next hphase =>
    cases hnext
    refine ⟨call, _, _, hcall, .looks hphase, ?_⟩
    rw [hrow]
  next found hphase =>
    obtain ⟨looked, rfl, hid⟩ := hfound call (Rows.mem_of_row hcall) found hphase
    have hwrite : write ctx call p.shared (some looked) = updated ctx row.id call.dto.version
        call.now (fieldsToUpdate call.dto looked) p.shared := by
      rw [← hid]
      rfl
    rw [hwrite, updated_eq hrow, ← stores] at hnext
    rcases hstores : stores call looked row with _ | stored
    · rw [hstores] at hnext
      cases hnext
      exact ⟨call, _, _, hcall, .isRefused hphase hstores, rfl⟩
    · rw [hstores] at hnext
      cases hnext
      exact ⟨call, _, _, hcall, .writes hphase hstores, rfl⟩
  · cases hnext
  · cases hnext

-- ============================================================================
-- Lost updates
-- ============================================================================

def storedVersion (ctx : AccountContext) (s : SettingsPool) : Option ℤ :=
  (current ctx s.shared.settings).map fun row => row.version

/-- The stored version, which every success raises by one and no other statement changes; a
    call that carries another version leaves the row as it is. -/
structure SafeStep (ctx : AccountContext) (s : SettingsPool) (i : Nat) (t : SettingsPool) :
    Prop where
  stale : ∀ call, s.threads[i]? = some call → storedVersion ctx s ≠ some call.dto.version →
    current ctx t.shared.settings = current ctx s.shared.settings
  raises : storedVersion ctx t =
    (storedVersion ctx s).map (· + if (t.threads[i]?).any SettingsCall.hasSucceeded then 1 else 0)

/-- Of the calls that carry one version at most one has succeeded. -/
def OncePerVersion (s : SettingsPool) : Prop :=
  ∀ (i j : Nat) (call other : SettingsCall), s.threads[i]? = some call →
    s.threads[j]? = some other → call.hasSucceeded = true → other.hasSucceeded = true →
    call.dto.version = other.dto.version → i = j

/-- No update is lost along the run. -/
structure NotLost (ctx : AccountContext) (start : SettingsPool) (is : List Nat)
    (t : SettingsPool) : Prop where
  steps : (settingsRaces ctx).Along (SafeStep ctx) start is
  once : OncePerVersion t
  counted : storedVersion ctx t =
    (storedVersion ctx start).map (· + (t.count SettingsCall.hasSucceeded : ℤ))

/-- What the call would store was requested at the version that is stored. -/
def isFreshIn (ctx : AccountContext) (s : SettingsStore) (call : SettingsCall) : Bool :=
  match call.phase, current ctx s.settings with
  | .found (some looked), some row =>
    row.version = call.dto.version || (stores call looked row).isNone
  | _, _ => true

/-- A call stores its row only where the version it carries is the one that is stored. -/
def Fresh (ctx : AccountContext) (s : SettingsPool) (i : Nat) (_ : SettingsPool) : Prop :=
  ∀ call ∈ s.threads[i]?, isFreshIn ctx s.shared call = true

instance (s : SettingsPool) (i : Nat) (t : SettingsPool) : Decidable (Fresh ctx s i t) :=
  inferInstanceAs (Decidable (∀ call ∈ s.threads[i]?, isFreshIn ctx s.shared call = true))

/-- What is known along a fresh run: of the calls that have succeeded, each carried a version
    of its own that is not stored any more. -/
structure Ordered (ctx : AccountContext) (first : ℤ) (s : SettingsPool) (row : SettingsRow) :
    Prop where
  ready : Ready ctx s row
  version : row.version = first + s.count SettingsCall.hasSucceeded
  below : ∀ call ∈ s.threads, call.hasSucceeded = true → call.dto.version < row.version
  once : OncePerVersion s

theorem Ready.begins (h : SettingsBegin ctx p) : ∃ row, Ready ctx p row := by
  obtain ⟨row, hrow⟩ := Option.isSome_iff_exists.mp h.row
  refine ⟨row, hrow, fun call hcall found hfound => ?_⟩
  rw [h.new call hcall] at hfound
  cases hfound

theorem Ready.step (hp : Ready ctx p row) (h : (settingsRaces ctx).step p i = some t) :
    ∃ row', Ready ctx t row' := by
  obtain ⟨call, shared, phase, hcall, hmove, rfl⟩ := step_cases hp h
  obtain ⟨hrow, hfound⟩ := hp
  cases hmove with
  | looks hphase =>
    refine ⟨row, hrow, fun other hother found hphase' => ?_⟩
    rcases Pool.mem_put hother with rfl | hother
    · cases hphase'
      exact ⟨row, rfl, rfl⟩
    · exact hfound other hother found hphase'
  | writes hphase hstores =>
    obtain ⟨htenant, hid⟩ := overwritten_key hstores
    refine ⟨_, current_replace hrow htenant, fun other hother found hphase' => ?_⟩
    rcases Pool.mem_put hother with rfl | hother
    · cases hphase'
    · rw [hid]
      exact hfound other hother found hphase'
  | isRefused hphase hrefused =>
    refine ⟨row, hrow, fun other hother found hphase' => ?_⟩
    rcases Pool.mem_put hother with rfl | hother
    · cases hphase'
    · exact hfound other hother found hphase'

/-- A statement that leaves the table, and is no success. -/
theorem SafeStep.of_same (hsame : t.shared = p.shared)
    (hnone : (t.threads[i]?).any SettingsCall.hasSucceeded = false) : SafeStep ctx p i t where
  stale _ _ _ := by rw [hsame]
  raises := by
    rw [hnone, storedVersion, storedVersion, hsame]
    simp [Function.comp_def]

theorem safeStep_iff_fresh (hp : Ready ctx p row) (h : (settingsRaces ctx).step p i = some t) :
    SafeStep ctx p i t ↔ Fresh ctx p i t := by
  obtain ⟨call, shared, phase, hcall, hmove, rfl⟩ := step_cases hp h
  obtain ⟨hrow, -⟩ := hp
  have hthis : ∀ call', (p.put i shared call').threads[i]? = some call' := fun _ =>
    Rows.getElem?_set_self hcall
  have hfresh : Fresh ctx p i (p.put i shared { call with phase := phase }) ↔
      isFreshIn ctx p.shared call = true := by
    unfold Fresh
    rw [hcall]
    simp
  rw [hfresh]
  cases hmove with
  | looks hphase =>
    refine iff_of_true (.of_same rfl ?_) (by rw [isFreshIn, hphase])
    rw [hthis]
    rfl
  | @writes looked stored hphase hstores =>
    have hcurrent : isFreshIn ctx p.shared call = true ↔ row.version = call.dto.version := by
      rw [isFreshIn, hphase, hrow]
      simp [hstores]
    have hbefore : storedVersion ctx p = some row.version := by
      rw [storedVersion, hrow]
      rfl
    have hafter : ∀ call', storedVersion ctx (p.put i
        { p.shared with settings := p.shared.settings.replace stored } call') =
          some (call.dto.version + 1) := by
      intro call'
      rw [storedVersion, Pool.put_shared, current_replace hrow (overwritten_key hstores).1,
        Option.map_some, overwritten_version hstores]
    rw [hcurrent]
    constructor
    · intro hsafe
      by_contra hne
      have hleft := hsafe.stale call hcall fun hsame =>
        hne (Option.some.inj (hbefore.symm.trans hsame))
      have hraised := hsafe.raises
      have hkept : storedVersion ctx (p.put i
          { p.shared with settings := p.shared.settings.replace stored }
          { call with phase := .succeeded stored }) = storedVersion ctx p := by
        rw [storedVersion, storedVersion, hleft]
      rw [hkept, hbefore, hthis] at hraised
      have hone : row.version = row.version + 1 := Option.some.inj hraised
      omega
    · intro heq
      refine ⟨fun other hother hstale => absurd ?_ hstale, ?_⟩
      · rw [Option.some.inj (hother.symm.trans hcall), hbefore, heq]
      · rw [hafter, hbefore, hthis, heq]
        rfl
  | isRefused hphase hrefused =>
    refine iff_of_true (.of_same rfl ?_) ?_
    · rw [hthis]
      rfl
    · rw [isFreshIn, hphase, hrow]
      simp [hrefused]

theorem Ordered.begins (h : SettingsBegin ctx p) :
    ∃ row, current ctx p.shared.settings = some row ∧ Ordered ctx row.version p row := by
  obtain ⟨row, hready⟩ := Ready.begins h
  have hnone : ∀ call ∈ p.threads, ¬call.hasSucceeded = true := by
    intro call hcall
    rw [SettingsCall.hasSucceeded, h.new call hcall]
    exact Bool.false_ne_true
  refine ⟨row, hready.1, hready, ?_, fun call hcall hsucceeded => ?_, ?_⟩
  · have hcount : p.count SettingsCall.hasSucceeded = 0 := List.countP_eq_zero.mpr hnone
    rw [hcount]
    simp
  · exact absurd hsucceeded (hnone call hcall)
  · intro i j call other hcall _ hsucceeded
    exact absurd hsucceeded (hnone call (Rows.mem_of_row hcall))

/-- A statement that is no success leaves the order. -/
theorem Ordered.of_same {first : ℤ} {call call' : SettingsCall} {row' : SettingsRow}
    {shared : SettingsStore} (hp : Ordered ctx first p row) (hcall : p.threads[i]? = some call)
    (hold : call.hasSucceeded = false) (hnew : call'.hasSucceeded = false)
    (hready : Ready ctx (p.put i shared call') row') (hversion : row'.version = row.version) :
    Ordered ctx first (p.put i shared call') row' where
  ready := hready
  version := by
    have hcount : (p.put i shared call').count SettingsCall.hasSucceeded =
        p.count SettingsCall.hasSucceeded :=
      Pool.count_put_same _ hcall (hnew.trans hold.symm)
    rw [hversion, hp.version, hcount]
  below other hother hsucceeded := by
    rw [hversion]
    rcases Pool.mem_put hother with rfl | hother
    · rw [hnew] at hsucceeded
      cases hsucceeded
    · exact hp.below other hother hsucceeded
  once := by
    intro j k one other hone hother hsucceeded hsucceeded'
    rcases Pool.thread_put hone with ⟨-, rfl⟩ | hone
    · rw [hnew] at hsucceeded
      cases hsucceeded
    · rcases Pool.thread_put hother with ⟨-, rfl⟩ | hother
      · rw [hnew] at hsucceeded'
        cases hsucceeded'
      · exact hp.once j k one other hone hother hsucceeded hsucceeded'

theorem Ordered.step {first : ℤ} (hp : Ordered ctx first p row)
    (h : (settingsRaces ctx).step p i = some t) (hfresh : Fresh ctx p i t) :
    ∃ row', Ordered ctx first t row' := by
  obtain ⟨row', hready⟩ := hp.ready.step h
  obtain ⟨call, shared, phase, hcall, hmove, rfl⟩ := step_cases hp.ready h
  have hrow := hp.ready.1
  cases hmove with
  | looks hphase =>
    obtain rfl := Option.some.inj (hready.1.symm.trans hrow)
    refine ⟨_, hp.of_same hcall ?_ rfl hready rfl⟩
    rw [SettingsCall.hasSucceeded, hphase]
  | isRefused hphase hrefused =>
    obtain rfl := Option.some.inj (hready.1.symm.trans hrow)
    refine ⟨_, hp.of_same hcall ?_ rfl hready rfl⟩
    rw [SettingsCall.hasSucceeded, hphase]
  | @writes looked stored hphase hstores =>
    obtain rfl := Option.some.inj
      (hready.1.symm.trans (current_replace hrow (overwritten_key hstores).1))
    have hversion : row.version = call.dto.version := by
      have hthis := hfresh call hcall
      rw [isFreshIn, hphase, hrow] at hthis
      simpa [hstores] using hthis
    have hraised : row'.version = row.version + 1 := by
      rw [overwritten_version hstores, hversion]
    have hnot : call.hasSucceeded = false := by rw [SettingsCall.hasSucceeded, hphase]
    refine ⟨row', hready, ?_, fun other hother hsucceeded => ?_, ?_⟩
    · have hcount : (p.put i { p.shared with settings := p.shared.settings.replace row' }
          { call with phase := .succeeded row' }).count SettingsCall.hasSucceeded =
            p.count SettingsCall.hasSucceeded + 1 :=
        Pool.count_put_enter _ hcall hnot rfl
      rw [hraised, hp.version, hcount]
      push_cast
      ring
    · rcases Pool.mem_put hother with rfl | hother
      · rw [hraised, hversion]
        exact Int.lt_succ _
      · have hbelow := hp.below other hother hsucceeded
        omega
    · -- the call that has just succeeded carried the version that was stored
      intro j k one other hone hother hsucceeded hsucceeded' hsame
      rcases Pool.thread_put hone with ⟨rfl, rfl⟩ | hone'
      · rcases Pool.thread_put hother with ⟨rfl, -⟩ | hother'
        · rfl
        · have hbelow := hp.below other (Rows.mem_of_row hother') hsucceeded'
          exact absurd (hversion.trans hsame) hbelow.ne'
      · rcases Pool.thread_put hother with ⟨rfl, rfl⟩ | hother'
        · have hbelow := hp.below one (Rows.mem_of_row hone') hsucceeded
          exact absurd (hversion.trans hsame.symm) hbelow.ne'
        · exact hp.once j k one other hone' hother' hsucceeded hsucceeded' hsame

/-- No update is lost along a run exactly where each call stores its row at the version that
    it was requested at. -/
theorem notLost_iff_fresh {start : SettingsPool} {is : List Nat} (hstart : SettingsBegin ctx start)
    (hrun : (settingsRaces ctx).execute start is = some t) :
    NotLost ctx start is t ↔ (settingsRaces ctx).Along (Fresh ctx) start is := by
  have hsteps : (settingsRaces ctx).Along (SafeStep ctx) start is ↔
      (settingsRaces ctx).Along (Fresh ctx) start is :=
    System.along_iff (I := fun s => ∃ row, Ready ctx s row)
      (fun s i u ⟨row, hs⟩ hstep => safeStep_iff_fresh hs hstep)
      (fun s i u ⟨row, hs⟩ hstep _ => hs.step hstep) (Ready.begins hstart) hrun
  refine ⟨fun h => hsteps.mp h.steps, fun h => ?_⟩
  obtain ⟨row, hrow, hordered⟩ := Ordered.begins hstart
  obtain ⟨row', hlast⟩ := System.Along.invariant
    (I := fun s => ∃ row', Ordered ctx row.version s row')
    (fun s i u ⟨row', hs⟩ hstep hfresh => hs.step hstep hfresh) ⟨row, hordered⟩ hrun h
  refine ⟨hsteps.mpr h, hlast.once, ?_⟩
  rw [storedVersion, storedVersion, hrow, hlast.ready.1, Option.map_some, hlast.version]
  rfl

-- ============================================================================
-- Two administrators
-- ============================================================================

/-- Two calls at the versions they have seen: the first requires MFA, the second counts
    failed logins. -/
def sampleSettingsCalls (version version' : ℤ) : SettingsPool where
  shared := AuthenticationSettingsController.sampleSettingsStore
  threads :=
    [{ id := Persistence.sampleRoleId, now := 1,
       dto := { mfaRequired := .value true, version := version } },
      { id := Persistence.sampleEmployeeId, now := 2,
        dto := { lockoutEnabled := .value true, version := version' } }]

theorem sampleSettingsCalls_begin (version version' : ℤ) :
    SettingsBegin acmeAccounts (sampleSettingsCalls version version') where
  row := rfl
  new := by simp [sampleSettingsCalls]

theorem notLost_iff_fresh_sample : ∃ t,
    (settingsRaces acmeAccounts).execute (sampleSettingsCalls 1 2) [0, 0, 1, 1] = some t ∧
      storedVersion acmeAccounts t = some 3 ∧
      NotLost acmeAccounts (sampleSettingsCalls 1 2) [0, 0, 1, 1] t := by
  obtain ⟨t, hrun, hversion⟩ := Option.map_eq_some_iff.mp
    (show ((settingsRaces acmeAccounts).execute (sampleSettingsCalls 1 2) [0, 0, 1, 1]).map
      (storedVersion acmeAccounts) = some (some 3) from by decide +kernel)
  exact ⟨t, hrun, hversion, (notLost_iff_fresh (sampleSettingsCalls_begin 1 2) hrun).mpr
    (by decide +kernel)⟩

/-- Both carry version 1, and both succeed. -/
theorem not_notLost : ∃ t,
    (settingsRaces acmeAccounts).execute (sampleSettingsCalls 1 1) [0, 1, 0, 1] = some t ∧
      t.count SettingsCall.hasSucceeded = 2 ∧
      storedVersion acmeAccounts t = some 2 ∧
      ¬NotLost acmeAccounts (sampleSettingsCalls 1 1) [0, 1, 0, 1] t := by
  obtain ⟨t, hrun, hends⟩ := Option.map_eq_some_iff.mp
    (show ((settingsRaces acmeAccounts).execute (sampleSettingsCalls 1 1) [0, 1, 0, 1]).map
      (fun t => (t.count SettingsCall.hasSucceeded, storedVersion acmeAccounts t)) =
        some (2, some 2) from by decide +kernel)
  obtain ⟨htwo, hversion⟩ := Prod.mk.inj hends
  refine ⟨t, hrun, htwo, hversion, fun hnotLost => ?_⟩
  have hcounted := hnotLost.counted
  rw [htwo, hversion] at hcounted
  exact absurd hcounted (by decide +kernel)

end AuthenticationSettingsService

end AccessService.Accounts
