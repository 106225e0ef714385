/-
  AccessService.Employee.ReporteeCounts

  The number of reportees stored with each manager against the number of employees who,
  by the events handled so far, report to that manager.
-/

import AccessService.Employee.EmployeeEvents
import AccessService.Lib.Transition
import Mathlib.Data.Finset.Card
import Mathlib.Tactic.Linarith

namespace AccessService.Employee

open AccessService.Accounts AccessService.Js AccessService.Lib AccessService.Lib.Transition
open AccessService.Pg AccessService.Persistence
open EmployeeAttributePropagationService

-- ============================================================================
-- Events
-- ============================================================================

inductive LifecycleEvent where
  | created (payload : EmployeeLifecyclePayload)
  | updated (payload : EmployeeLifecyclePayload)
  | reportingLineChanged (payload : EmployeeLifecyclePayload)
  deriving DecidableEq

namespace LifecycleEvent

def payload : LifecycleEvent → EmployeeLifecyclePayload
  | .created payload | .updated payload | .reportingLineChanged payload => payload

def handle (ctx : Context) : LifecycleEvent → EmployeeService Unit
  | .created payload => EmployeeLifecycleHandler.handleEmployeeCreated ctx payload
  | .updated payload => EmployeeLifecycleHandler.handleEmployeeUpdated ctx payload
  | .reportingLineChanged payload =>
    EmployeeLifecycleHandler.handleEmployeeReportingLineChanged ctx payload

def version (event : LifecycleEvent) : ℤ := event.payload.sourceVersion.val

/-- What the event says of the employee's manager; `undefined` is nothing. -/
def manager : LifecycleEvent → Column Uuid
  | .created payload | .updated payload => payload.managerEmployeeId
  | .reportingLineChanged payload => .ofRow payload.newManagerEmployeeId.given

/-- The managers whose counts the handler changes, by -1 and by 1. -/
def moves : LifecycleEvent → Option Uuid × Option Uuid
  | .created _ | .updated _ => (none, none)
  | .reportingLineChanged payload =>
    (payload.oldManagerEmployeeId.given, payload.newManagerEmployeeId.given)

def isAbout (event : LifecycleEvent) (tenantCode : String) (id : Uuid) : Bool :=
  event.payload.tenantCode = tenantCode && event.payload.id = id

end LifecycleEvent

-- ============================================================================
-- The reporting structure that events describe
-- ============================================================================

/-- The newest word on an employee's manager, with its version. -/
def latestManager (tenantCode : String) (id : Uuid) : List LifecycleEvent → Option (ℤ × Option Uuid)
  | [] => none
  | event :: handled =>
    if event.isAbout tenantCode id ∧ event.manager ≠ .undefined then
      match latestManager tenantCode id handled with
      | none => some (event.version, event.manager.given)
      | some (version, manager) =>
        if version < event.version then some (event.version, event.manager.given)
        else some (version, manager)
    else latestManager tenantCode id handled

def currentManager (handled : List LifecycleEvent) (tenantCode : String) (id : Uuid) :
    Option Uuid :=
  (latestManager tenantCode id handled).bind fun latest => latest.2

def reportees (handled : List LifecycleEvent) (tenantCode : String) (manager : Uuid) :
    Finset Uuid :=
  (handled.map fun event => event.payload.id).toFinset.filter fun id =>
    currentManager handled tenantCode id = some manager

variable {handled : List LifecycleEvent} {event : LifecycleEvent} {tenantCode : String}
  {id manager : Uuid}

theorem currentManager_other (h : event.isAbout tenantCode id = false) :
    currentManager (event :: handled) tenantCode id = currentManager handled tenantCode id := by
  rw [currentManager, latestManager, if_neg (by simp [h]), currentManager]

theorem currentManager_handled (h : currentManager handled tenantCode id ≠ none) :
    id ∈ handled.map fun event => event.payload.id := by
  induction handled with
  | nil => exact absurd rfl h
  | cons event handled ih =>
    by_cases habout : event.isAbout tenantCode id = true
    · obtain ⟨-, hid⟩ := Bool.and_eq_true_iff.mp habout
      rw [← of_decide_eq_true hid]
      exact List.mem_cons_self
    · rw [currentManager_other (Bool.eq_false_iff.mpr habout)] at h
      exact List.mem_cons_of_mem _ (ih h)

theorem mem_reportees :
    id ∈ reportees handled tenantCode manager ↔
      currentManager handled tenantCode id = some manager := by
  rw [reportees, Finset.mem_filter, List.mem_toFinset, and_iff_right_iff_imp]
  intro h
  exact currentManager_handled (by rw [h]; exact Option.some_ne_none _)

/-- The fibres of two maps that differ in one place. -/
theorem card_fibre {α β : Type} [DecidableEq α] [DecidableEq β] {f f' : α → Option β} {b : β}
    {s s' : Finset α} {x : α} (hs : ∀ a, a ∈ s ↔ f a = some b)
    (hs' : ∀ a, a ∈ s' ↔ f' a = some b) (hother : ∀ a, a ≠ x → f' a = f a) :
    (s'.card : ℤ) =
      s.card - (if f x = some b then 1 else 0) + (if f' x = some b then 1 else 0) := by
  have herase : s'.erase x = s.erase x := by
    ext a
    rw [Finset.mem_erase, Finset.mem_erase, hs, hs']
    exact and_congr_right fun hne => by rw [hother a hne]
  have hcard : ∀ t : Finset α, (t.card : ℤ) = (t.erase x).card + (if x ∈ t then 1 else 0) := by
    intro t
    split
    next hx => rw [← Finset.card_erase_add_one hx, Nat.cast_add, Nat.cast_one]
    next hx => rw [Finset.erase_eq_of_notMem hx, add_zero]
  have hcards := hcard s
  have hcards' := hcard s'
  rw [herase] at hcards'
  simp only [hs] at hcards
  simp only [hs'] at hcards'
  linarith

/-- One event moves one employee. -/
theorem card_reportees (event : LifecycleEvent) (handled : List LifecycleEvent)
    (tenantCode : String) (manager : Uuid) :
    ((reportees (event :: handled) tenantCode manager).card : ℤ) =
      (reportees handled tenantCode manager).card -
        (if currentManager handled tenantCode event.payload.id = some manager then 1 else 0) +
        (if currentManager (event :: handled) tenantCode event.payload.id = some manager then 1
          else 0) := by
  refine card_fibre (fun _ => mem_reportees) (fun _ => mem_reportees) fun id hne => ?_
  exact currentManager_other (by simp [LifecycleEvent.isAbout, Ne.symm hne])

/-- An event of another tenant. -/
theorem card_reportees_other (h : event.payload.tenantCode ≠ tenantCode) :
    (reportees (event :: handled) tenantCode manager).card =
      (reportees handled tenantCode manager).card := by
  refine congrArg Finset.card (Finset.ext fun id => ?_)
  rw [mem_reportees, mem_reportees, currentManager_other (by simp [LifecycleEvent.isAbout, h])]

-- ============================================================================
-- The stored counts
-- ============================================================================

def countOf (s : EmployeeStore) (tenantCode : String) (id : Uuid) : Option ℤ :=
  (s.employee tenantCode id).map fun employee => employee.reporteesCount.val

section Counts

variable {s s' : EmployeeStore} {employee employee' : EmployeeRow} {ctx : Context}
  {w w' : World EmployeeStore Failure} {u : Unit} {delta : ℤ} {data : EmployeeLifecyclePayload}

theorem countOf_congr (h : s'.accounts = s.accounts) (tenantCode : String) (id : Uuid) :
    countOf s' tenantCode id = countOf s tenantCode id := by
  rw [countOf, EmployeeStore.employee_congr h, countOf]

theorem countOf_writes (h : WritesEmployee s s' employee) (tenantCode : String) (id : Uuid) :
    countOf s' tenantCode id =
      if employee.tenantCode = tenantCode ∧ employee.id = id then
        some employee.reporteesCount.val
      else countOf s tenantCode id := by
  rw [countOf, h.found]
  split <;> rfl

theorem counted_val (h : EmployeeReferenceRepository.counted employee delta = some employee') :
    employee'.reporteesCount.val = max 0 (employee.reporteesCount.val + delta) := by
  obtain ⟨sum, hsum, rfl⟩ := Option.map_eq_some_iff.mp h
  rw [Int4.ofInt?_eq_some.mp hsum]
  show (if sum.val < 0 then _ else sum : Int4).val = _
  split
  next hneg => exact (max_eq_left (le_of_lt hneg)).symm
  next hpos => exact (max_eq_right (not_lt.mp hpos)).symm

theorem updateReporteesCount_count
    (h : EmployeeReferenceRepository.updateReporteesCount tenantCode manager delta w = (.ok u, w'))
    (tenantCode' : String) (id : Uuid) :
    countOf w'.state tenantCode' id = (countOf w.state tenantCode' id).map fun n =>
      if tenantCode = tenantCode' ∧ manager = id then max 0 (n + delta) else n := by
  rcases EmployeeReferenceRepository.updateReporteesCount_ok h with
    ⟨hnone, hstate⟩ | ⟨row, row', hfound, hcounted, hwrites⟩
  · rw [hstate]
    split
    next hkey =>
      obtain ⟨rfl, rfl⟩ := hkey
      rw [countOf, hnone]
      rfl
    · exact Option.map_id'.symm
  · obtain ⟨-, htenant, hid⟩ := EmployeeStore.employee_eq_some.mp hfound
    have hval := counted_val hcounted
    obtain ⟨sum, -, rfl⟩ := Option.map_eq_some_iff.mp hcounted
    rw [countOf_writes hwrites]
    simp only [htenant, hid]
    split
    next hkey =>
      obtain ⟨rfl, rfl⟩ := hkey
      rw [hval, countOf, hfound]
      rfl
    · exact Option.map_id'.symm

theorem moveReportee_count {column : Column Uuid}
    (h : moveReportee ctx tenantCode delta column w = (.ok u, w')) (tenantCode' : String)
    (id : Uuid) :
    countOf w'.state tenantCode' id = (countOf w.state tenantCode' id).map fun n =>
      if tenantCode = tenantCode' ∧ column.given = some id then max 0 (n + delta) else n := by
  rcases column with _ | _ | manager
  · obtain ⟨-, rfl⟩ := Faulty.pure_ok.mp h
    simp [Column.given]
  · obtain ⟨-, rfl⟩ := Faulty.pure_ok.mp h
    simp [Column.given]
  · obtain ⟨v, w₁, hupdate, hrest⟩ := Faulty.bind_ok.mp h
    rw [countOf_congr (handleEmployeeAttributeChange_accounts.ok hrest),
      updateReporteesCount_count hupdate]
    simp only [Column.given, Option.some.injEq]

/-- A record that is created has no reportees; one that is there keeps its count. -/
theorem handleEmployeeUpsert_count (htenant : ctx.tenantCode = data.tenantCode)
    (h : handleEmployeeUpsert ctx data w = (.ok u, w')) (tenantCode : String) (id : Uuid) :
    countOf w'.state tenantCode id =
      if data.tenantCode = tenantCode ∧ data.id = id then
        some ((countOf w.state tenantCode id).getD 0)
      else countOf w.state tenantCode id := by
  rw [countOf, handleEmployeeUpsert_employee htenant h]
  split
  next hkey =>
    obtain ⟨rfl, rfl⟩ := hkey
    rw [countOf]
    rcases w.state.employee data.tenantCode data.id with _ | employee <;> rfl
  · rfl

/-- Where the handling of a record throws, no count has changed. -/
theorem handleEmployeeUpsert_error {e : Failure}
    (h : handleEmployeeUpsert ctx data w = (.error e, w')) (tenantCode : String) (id : Uuid) :
    countOf w'.state tenantCode id = countOf w.state tenantCode id := by
  have hsame : ∀ {w₁ : World EmployeeStore Failure}, w₁.state = w.state →
      countOf w₁.state tenantCode id = countOf w.state tenantCode id := fun h => by rw [h]
  rcases Faulty.bind_cases h with ⟨e', hfind, -⟩ | ⟨found, w₀, hfind, hrest⟩
  · exact hsame (Faulty.read_error hfind)
  obtain ⟨rfl, hstate⟩ := Faulty.read_ok hfind
  rcases hfound : w.state.employee ctx.tenantCode data.id with _ | employee
  · rw [hfound] at hrest
    exact hsame ((Faulty.call_error hrest).trans hstate)
  · rw [hfound] at hrest
    rcases Faulty.bind_cases hrest with ⟨e', hupdate, -⟩ | ⟨v, w₁, hupdate, hrest⟩
    · exact hsame ((Faulty.write_error hupdate).trans hstate)
    · rw [← hstate] at hfound
      have hwrites := EmployeeReferenceRepository.update_ok hfound hupdate
      rw [countOf_congr ((Faulty.leaves_when handleEmployeeAttributeChange_accounts).ok hrest),
        countOf_writes hwrites, hstate]
      split
      next hkey =>
        obtain ⟨-, htenant, hid⟩ := EmployeeStore.employee_eq_some.mp hfound
        obtain ⟨rfl, rfl⟩ := hkey
        rw [hstate] at hfound
        show _ = countOf w.state employee.tenantCode employee.id
        rw [countOf, htenant, hid, hfound]
        rfl
      · rfl

/-- The first call of a change at a manager is the one that counts. -/
theorem moveReportee_throws {column : Column Uuid} {r : Except Failure Unit}
    (hthrows : Faulty.ThrowsAt w 0)
    (h : moveReportee ctx tenantCode delta column w = (r, w')) :
    w'.state = w.state ∧ ((∃ e, r = .error e) ∨ w' = w) := by
  rcases column with _ | _ | manager
  · obtain ⟨-, rfl⟩ := Prod.mk.inj h
    exact ⟨rfl, .inr rfl⟩
  · obtain ⟨-, rfl⟩ := Prod.mk.inj h
    exact ⟨rfl, .inr rfl⟩
  · obtain ⟨e, hupdate⟩ : ∃ e,
        EmployeeReferenceRepository.updateReporteesCount tenantCode manager delta w =
          (.error e, Faulty.afterCall w w.state) := Faulty.call_throws hthrows
    rcases Faulty.bind_cases h with ⟨e', herror, rfl⟩ | ⟨v, w₁, hok, -⟩
    · rw [hupdate] at herror
      obtain ⟨-, rfl⟩ := Prod.mk.inj herror
      exact ⟨rfl, .inl ⟨e', rfl⟩⟩
    · rw [hupdate] at hok
      cases hok

theorem handleEmployeeReportingLineChanged_throws {old new : Column Uuid}
    {r : Except Failure Unit} (hthrows : Faulty.ThrowsAt w 0)
    (h : handleEmployeeReportingLineChanged ctx tenantCode old new w = (r, w')) :
    w'.state = w.state := by
  rcases Faulty.bind_cases h with ⟨e, herror, -⟩ | ⟨v, w₁, hold, hnew⟩
  · exact (moveReportee_throws hthrows herror).1
  · rcases (moveReportee_throws hthrows hold).2 with ⟨e, he⟩ | rfl
    · cases he
    · exact (moveReportee_throws hthrows hnew).1

end Counts

-- ============================================================================
-- Runs
-- ============================================================================

/-- An event as it is handled: by which request, and what its calls run into. -/
structure LifecycleDelivery where
  event : LifecycleEvent
  ctx : Context
  faults : List (Option Failure)

def LifecycleDelivery.run (d : LifecycleDelivery) (s : EmployeeStore) :
    Except Failure Unit × World EmployeeStore Failure :=
  d.event.handle d.ctx ⟨s, d.faults⟩

structure ReporteeRun where
  handled : List LifecycleEvent
  store : EmployeeStore

namespace ReporteeRun

/-- A delivery that throws has not handled its event, and an event without a tenant is
    dropped. -/
def after (st : ReporteeRun) (d : LifecycleDelivery) : ReporteeRun :=
  match d.run st.store with
  | (.ok _, w) =>
    if d.event.payload.tenantCode = "" then ⟨st.handled, w.state⟩
    else ⟨d.event :: st.handled, w.state⟩
  | (.error _, w) => ⟨st.handled, w.state⟩

/-- From employees without reportees. -/
def runs : System ReporteeRun LifecycleDelivery where
  init st := st.handled = [] ∧
    ∀ employee ∈ st.store.accounts.db.employees.rows, employee.reporteesCount.val = 0
  step st d := some (st.after d)

def CountsTrue (st : ReporteeRun) : Prop :=
  ∀ tenantCode id n, countOf st.store tenantCode id = some n →
    n = (reportees st.handled tenantCode id).card

/-- The manager, if there is a record to count at. -/
def tracked (st : ReporteeRun) (tenantCode : String) (manager : Option Uuid) : Option Uuid :=
  manager.filter fun id => (st.store.employee tenantCode id).isSome

/-- As far as managers with a record go: the event moves its employee between the managers
    the handler counts, or leaves the employee where they are and nobody is counted. -/
def MovesReportee (st : ReporteeRun) (event : LifecycleEvent) : Prop :=
  let tenantCode := event.payload.tenantCode
  let before := currentManager st.handled tenantCode event.payload.id
  let after := currentManager (event :: st.handled) tenantCode event.payload.id
  (st.tracked tenantCode before = st.tracked tenantCode event.moves.1 ∧
      st.tracked tenantCode after = st.tracked tenantCode event.moves.2) ∨
    (st.tracked tenantCode before = st.tracked tenantCode after ∧
      st.tracked tenantCode event.moves.1 = none ∧ st.tracked tenantCode event.moves.2 = none)

instance (st : ReporteeRun) (event : LifecycleEvent) : Decidable (st.MovesReportee event) :=
  inferInstanceAs (Decidable (_ ∨ _))

def isRecord : LifecycleEvent → Bool
  | .created _ | .updated _ => true
  | .reportingLineChanged _ => false

/-- A record is not created after somebody has come to report to it. -/
def CreatesInTime (st : ReporteeRun) (event : LifecycleEvent) : Prop :=
  isRecord event = true →
    st.store.employee event.payload.tenantCode event.payload.id = none →
      reportees (event :: st.handled) event.payload.tenantCode event.payload.id = ∅

instance (st : ReporteeRun) (event : LifecycleEvent) : Decidable (st.CreatesInTime event) :=
  inferInstanceAs (Decidable (_ → _))

/-- A change of the reporting line that throws does so at its first call. -/
def ThrowsEarly (st : ReporteeRun) (d : LifecycleDelivery) : Prop :=
  isRecord d.event = false → Faulty.ThrowsAt ⟨st.store, d.faults⟩ 0

instance (st : ReporteeRun) (d : LifecycleDelivery) : Decidable (st.ThrowsEarly d) :=
  inferInstanceAs (Decidable (_ → _))

/-- The condition on a step. -/
def FollowsStructure (st : ReporteeRun) (d : LifecycleDelivery) (_ : ReporteeRun) : Prop :=
  d.event.payload.tenantCode ≠ "" →
    match (d.run st.store).1 with
    | .ok _ => st.MovesReportee d.event ∧ st.CreatesInTime d.event
    | .error _ => st.ThrowsEarly d

variable {st : ReporteeRun} {d : LifecycleDelivery} {event : LifecycleEvent} {n : ℤ}
  {ctx : Context} {w w' : World EmployeeStore Failure} {u : Unit}

theorem tracked_eq_some {manager : Option Uuid} (h : countOf st.store tenantCode id = some n) :
    st.tracked tenantCode manager = some id ↔ manager = some id := by
  obtain ⟨employee, hfound, -⟩ := Option.map_eq_some_iff.mp h
  rw [tracked, Option.filter_eq_some_iff, and_iff_left_iff_imp]
  intro _
  rw [hfound]
  rfl

/-- What an event brings a manager with a record. -/
theorem MovesReportee.cases (h : st.MovesReportee event)
    (hrow : countOf st.store event.payload.tenantCode id = some n) :
    ((currentManager st.handled event.payload.tenantCode event.payload.id = some id ↔
        event.moves.1 = some id) ∧
      (currentManager (event :: st.handled) event.payload.tenantCode event.payload.id = some id ↔
        event.moves.2 = some id)) ∨
    ((currentManager st.handled event.payload.tenantCode event.payload.id = some id ↔
        currentManager (event :: st.handled) event.payload.tenantCode event.payload.id =
          some id) ∧
      event.moves.1 ≠ some id ∧ event.moves.2 ≠ some id) := by
  rcases h with ⟨hold, hnew⟩ | ⟨hsame, hold, hnew⟩
  · refine .inl ⟨?_, ?_⟩
    · rw [← tracked_eq_some hrow, hold, tracked_eq_some hrow]
    · rw [← tracked_eq_some hrow, hnew, tracked_eq_some hrow]
  · refine .inr ⟨?_, ?_, ?_⟩
    · rw [← tracked_eq_some hrow, hsame, tracked_eq_some hrow]
    · rw [Ne, ← tracked_eq_some hrow, hold]
      exact Option.some_ne_none id |>.symm
    · rw [Ne, ← tracked_eq_some hrow, hnew]
      exact Option.some_ne_none id |>.symm

def countedBy (delta : ℤ) (manager : Option Uuid) (id : Uuid) (n : ℤ) : ℤ :=
  if manager = some id then max 0 (n + delta) else n

/-- What the handler makes of a manager's count. -/
def counted (event : LifecycleEvent) (id : Uuid) (n : ℤ) : ℤ :=
  countedBy 1 event.moves.2 id (countedBy (-1) event.moves.1 id n)

/-- The count is never clamped: the employee is among the reportees of the old manager. -/
theorem CountsTrue.counted (hcounts : st.CountsTrue) (hmoves : st.MovesReportee event)
    (hrow : countOf st.store event.payload.tenantCode id = some n) :
    counted event id n =
      (reportees (event :: st.handled) event.payload.tenantCode id).card := by
  have hcard := card_reportees event st.handled event.payload.tenantCode id
  have hn := hcounts _ _ _ hrow
  have hmember : currentManager st.handled event.payload.tenantCode event.payload.id = some id →
      1 ≤ (reportees st.handled event.payload.tenantCode id).card :=
    fun h => Finset.card_pos.mpr ⟨_, mem_reportees.mpr h⟩
  unfold ReporteeRun.counted countedBy
  rcases hmoves.cases hrow with ⟨hold, hnew⟩ | ⟨hsame, hold, hnew⟩
  · simp only [hold] at hcard hmember
    simp only [hnew] at hcard
    by_cases hmanager : event.moves.1 = some id
    · have hpos := hmember hmanager
      simp only [if_pos hmanager] at hcard ⊢
      split_ifs at hcard ⊢ <;> omega
    · simp only [if_neg hmanager] at hcard ⊢
      split_ifs at hcard ⊢ <;> omega
  · simp only [hsame] at hcard
    rw [if_neg hnew, if_neg hold]
    omega

/-- An event about another tenant's employee. -/
theorem CountsTrue.other (hcounts : st.CountsTrue) (h : event.payload.tenantCode ≠ tenantCode)
    (hrow : countOf st.store tenantCode id = some n) :
    n = (reportees (event :: st.handled) tenantCode id).card := by
  rw [hcounts _ _ _ hrow, card_reportees_other h]

theorem CountsTrue.recorded (hcounts : st.CountsTrue) (hmoves : st.MovesReportee event)
    (hcreates : st.CreatesInTime event) (hrecord : isRecord event = true)
    (htenant : ctx.tenantCode = event.payload.tenantCode) (hstate : w.state = st.store)
    (hrun : handleEmployeeUpsert ctx event.payload w = (.ok u, w')) :
    CountsTrue ⟨event :: st.handled, w'.state⟩ := by
  intro tenantCode id n hn
  rw [handleEmployeeUpsert_count htenant hrun, hstate] at hn
  by_cases hsame : event.payload.tenantCode = tenantCode
  · subst hsame
    have hkept : ∀ {n}, countOf st.store event.payload.tenantCode id = some n →
        n = (reportees (event :: st.handled) event.payload.tenantCode id).card := by
      intro n hrow
      rw [← hcounts.counted hmoves hrow, ReporteeRun.counted]
      cases event with
      | reportingLineChanged payload => cases hrecord
      | _ => rfl
    split at hn
    next hkey =>
      rcases hrow : countOf st.store event.payload.tenantCode id with _ | n'
      · have hnone : st.store.employee event.payload.tenantCode event.payload.id = none := by
          rw [hkey.2]
          exact Option.map_eq_none_iff.mp hrow
        rw [hrow] at hn
        rw [← hkey.2, hcreates hrecord hnone]
        exact (Option.some.inj hn).symm
      · rw [hrow] at hn
        rw [← Option.some.inj hn]
        exact hkept hrow
    · exact hkept hn
  · rw [if_neg fun hkey => hsame hkey.1] at hn
    exact hcounts.other hsame hn

theorem CountsTrue.moved {payload : EmployeeLifecyclePayload} (hcounts : st.CountsTrue)
    (hmoves : st.MovesReportee (.reportingLineChanged payload)) (hstate : w.state = st.store)
    (hrun : handleEmployeeReportingLineChanged ctx payload.tenantCode
      payload.oldManagerEmployeeId payload.newManagerEmployeeId w = (.ok u, w')) :
    CountsTrue ⟨.reportingLineChanged payload :: st.handled, w'.state⟩ := by
  intro tenantCode id n hn
  obtain ⟨v, w₁, hdecrease, hincrease⟩ := Faulty.bind_ok.mp hrun
  rw [moveReportee_count hincrease, moveReportee_count hdecrease, hstate, Option.map_map] at hn
  obtain ⟨m, hrow, rfl⟩ := Option.map_eq_some_iff.mp hn
  by_cases hsame : payload.tenantCode = tenantCode
  · subst hsame
    refine Eq.trans ?_ (hcounts.counted hmoves hrow)
    simp only [Function.comp, true_and]
    rfl
  · simp only [Function.comp, hsame, false_and, if_false]
    exact hcounts.other hsame hrow

theorem handle_dropped (h : event.payload.tenantCode = "") : event.handle ctx w = (.ok (), w) := by
  cases event <;> exact congrFun (if_pos h) w

theorem CountsTrue.step (hcounts : st.CountsTrue) (hfollows : st.FollowsStructure d (st.after d)) :
    (st.after d).CountsTrue := by
  unfold after
  unfold FollowsStructure at hfollows
  by_cases htenant : d.event.payload.tenantCode = ""
  · have hrun : d.run st.store = (.ok (), ⟨st.store, d.faults⟩) := handle_dropped htenant
    rw [hrun]
    simp only [if_pos htenant]
    exact hcounts
  · have hcond := hfollows htenant
    rcases hrun : d.run st.store with ⟨e | u, w'⟩
    · rw [hrun] at hcond
      simp only at hcond ⊢
      have hsame : ∀ t id, countOf w'.state t id = countOf st.store t id := by
        intro t id
        obtain ⟨event, ctx, faults⟩ := d
        cases event with
        | created payload =>
          exact handleEmployeeUpsert_error ((congrFun (if_neg htenant) _).symm.trans hrun) t id
        | updated payload =>
          exact handleEmployeeUpsert_error ((congrFun (if_neg htenant) _).symm.trans hrun) t id
        | reportingLineChanged payload =>
          have hstate := handleEmployeeReportingLineChanged_throws (hcond rfl)
            ((congrFun (if_neg htenant) _).symm.trans hrun)
          rw [hstate]
      intro t id n hn
      exact hcounts t id n ((hsame t id).symm.trans hn)
    · rw [hrun] at hcond
      simp only [if_neg htenant] at hcond ⊢
      obtain ⟨hmoves, hcreates⟩ := hcond
      obtain ⟨event, ctx, faults⟩ := d
      cases event with
      | created payload =>
        exact hcounts.recorded hmoves hcreates rfl rfl rfl
          ((congrFun (if_neg htenant) _).symm.trans hrun)
      | updated payload =>
        exact hcounts.recorded hmoves hcreates rfl rfl rfl
          ((congrFun (if_neg htenant) _).symm.trans hrun)
      | reportingLineChanged payload =>
        exact hcounts.moved hmoves rfl ((congrFun (if_neg htenant) _).symm.trans hrun)

theorem countsTrue_init (h : runs.init st) : st.CountsTrue := by
  intro tenantCode id n hn
  obtain ⟨employee, hfound, rfl⟩ := Option.map_eq_some_iff.mp hn
  rw [h.2 employee (EmployeeStore.employee_eq_some.mp hfound).1, h.1]
  rfl

/-- Wherever the deliveries follow the reporting structure, every stored count is the
    number of employees who report to the manager. -/
theorem reportee_counts_true {start : ReporteeRun} {ds : List LifecycleDelivery}
    (hinit : runs.init start) (hrun : runs.execute start ds = some st)
    (hfollows : runs.Along FollowsStructure start ds) : st.CountsTrue := by
  have hkeeps : ∀ s d t, CountsTrue s → runs.step s d = some t → FollowsStructure s d t →
      CountsTrue t := by
    intro s d t hcounts hstep hcond
    obtain rfl := Option.some.inj hstep
    exact hcounts.step hcond
  exact hfollows.invariant hkeeps (countsTrue_init hinit) hrun

instance (st : ReporteeRun) (d : LifecycleDelivery) (st' : ReporteeRun) :
    Decidable (st.FollowsStructure d st') :=
  match h : (d.run st.store).1 with
  | .ok _ =>
    decidable_of_iff
      (d.event.payload.tenantCode ≠ "" → st.MovesReportee d.event ∧ st.CreatesInTime d.event)
      (by rw [FollowsStructure, h])
  | .error _ =>
    decidable_of_iff (d.event.payload.tenantCode ≠ "" → st.ThrowsEarly d)
      (by rw [FollowsStructure, h])

def sampleManagerId : Uuid := ⟨"3f2b8c1e-0000-4000-8000-000000000002", by decide⟩

def managerSample : EmployeeLifecyclePayload where
  id := sampleManagerId
  tenantCode := "acme"
  employeeCode := "E-2"
  sourceVersion := ⟨1, Js.SafeInteger.one_isSafe⟩

def reporteeSample : EmployeeLifecyclePayload where
  id := sampleEmployeeId
  tenantCode := "acme"
  employeeCode := "E-1"
  sourceVersion := ⟨1, Js.SafeInteger.one_isSafe⟩

def assignedSample : EmployeeLifecyclePayload :=
  { reporteeSample with
    newManagerEmployeeId := .value sampleManagerId, sourceVersion := ⟨2, Js.SafeInteger.two_isSafe⟩ }

/-- The record of the employee arrives again after they have got a manager. -/
def sampleChanges : List LifecycleDelivery :=
  [⟨.created managerSample, acme, []⟩, ⟨.created reporteeSample, acme, []⟩,
    ⟨.reportingLineChanged assignedSample, acme, []⟩, ⟨.created reporteeSample, acme, []⟩]

def runAfter (st : ReporteeRun) : List LifecycleDelivery → ReporteeRun
  | [] => st
  | d :: ds => runAfter (st.after d) ds

theorem execute_runs (st : ReporteeRun) (ds : List LifecycleDelivery) :
    runs.execute st ds = some (runAfter st ds) := by
  induction ds generalizing st with
  | nil => rfl
  | cons d ds ih => exact ih _

theorem reportee_counts_true_sample :
    (runAfter ⟨[], emptyStore⟩ sampleChanges).CountsTrue ∧
      countOf (runAfter ⟨[], emptyStore⟩ sampleChanges).store "acme" sampleManagerId = some 1 := by
  have hinit : runs.init ⟨[], emptyStore⟩ := ⟨rfl, fun _ hmem => absurd hmem List.not_mem_nil⟩
  have hrun := execute_runs ⟨[], emptyStore⟩ sampleChanges
  exact ⟨reportee_counts_true hinit hrun (by decide +kernel), by decide +kernel⟩

/-- Each change of a manager starts from the manager of the older events, and a version
    of an employee stands for one event. -/
def Consistent (events : List LifecycleEvent) : Prop :=
  ∀ event ∈ events,
    (isRecord event = false →
      event.moves.1 = currentManager (events.filter fun e => e.version < event.version)
        event.payload.tenantCode event.payload.id) ∧
    ∀ event' ∈ events, event'.isAbout event.payload.tenantCode event.payload.id = true →
      event'.version = event.version → event' = event

instance (events : List LifecycleEvent) : Decidable (Consistent events) :=
  inferInstanceAs (Decidable (∀ event ∈ events, _ ∧ _))

/-- A record that comes with its manager. -/
def assignedFromStart : List LifecycleDelivery :=
  [⟨.created managerSample, acme, []⟩,
    ⟨.created { reporteeSample with managerEmployeeId := .value sampleManagerId }, acme, []⟩]

theorem not_reportee_counts_true :
    ¬∀ (start st : ReporteeRun) (ds : List LifecycleDelivery), runs.init start →
        runs.execute start ds = some st → Consistent (ds.map LifecycleDelivery.event) →
        st.CountsTrue := by
  intro h
  have hinit : runs.init ⟨[], emptyStore⟩ := ⟨rfl, fun _ hmem => absurd hmem List.not_mem_nil⟩
  have hrun := execute_runs ⟨[], emptyStore⟩ assignedFromStart
  have hcounts := h _ _ _ hinit hrun (by decide +kernel) "acme" sampleManagerId 0
    (by decide +kernel)
  exact absurd hcounts (by decide +kernel)

end ReporteeRun

end AccessService.Employee
