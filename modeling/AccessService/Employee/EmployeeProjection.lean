/-
  AccessService.Employee.EmployeeProjection

  Created and updated events of one employee, delivered in any order and any number of
  times: when the record that remains is the one of the highest source version.
-/

import AccessService.Employee.EmployeeEvents

namespace AccessService.Employee

open AccessService.Accounts AccessService.Js AccessService.Lib AccessService.Pg
open AccessService.Persistence
open EmployeeAttributePropagationService

variable {p newest : EmployeeLifecyclePayload} {ps : List EmployeeLifecyclePayload}
  {employee : EmployeeRow} {found : Option EmployeeRow} {a : EmployeeAttribute}

-- ============================================================================
-- Payloads one after the other
-- ============================================================================

/-- The employee's record after the payloads. -/
def recordAfter (found : Option EmployeeRow) (ps : List EmployeeLifecyclePayload) :
    Option EmployeeRow :=
  ps.foldl (fun found p => some (upserted p found)) found

/-- The record after payloads that find one. -/
def updatedBy (employee : EmployeeRow) (ps : List EmployeeLifecyclePayload) : EmployeeRow :=
  ps.foldl (fun employee p => (projectionUpdate p).apply employee) employee

/-- The last value that the payloads give an attribute. -/
def lastGiven (a : EmployeeAttribute) : List EmployeeLifecyclePayload → Option String
  | [] => none
  | p :: ps => (lastGiven a ps).or (a.told p).given

theorem recordAfter_some (employee : EmployeeRow) (ps : List EmployeeLifecyclePayload) :
    recordAfter (some employee) ps = some (updatedBy employee ps) := by
  induction ps generalizing employee with
  | nil => rfl
  | cons p ps ih => exact ih _

theorem sourceVersion_updatedBy (employee : EmployeeRow) (ps : List EmployeeLifecyclePayload) :
    (updatedBy employee ps).sourceVersion = employee.sourceVersion := by
  induction ps generalizing employee with
  | nil => rfl
  | cons p ps ih => exact ih _

theorem stored_updatedBy (employee : EmployeeRow) (ps : List EmployeeLifecyclePayload) :
    a.stored (updatedBy employee ps) = (lastGiven a ps).or (a.stored employee) := by
  induction ps generalizing employee with
  | nil => rfl
  | cons p ps ih =>
    show a.stored (updatedBy ((projectionUpdate p).apply employee) ps) = _
    rw [ih, EmployeeAttribute.stored_updated, lastGiven, Option.or_assoc]

-- ============================================================================
-- Deliveries
-- ============================================================================

/-- A payload as it is handled: by which request, and what its calls run into. -/
structure UpsertDelivery where
  payload : EmployeeLifecyclePayload
  ctx : Context
  faults : List (Option Failure)

def UpsertDelivery.run (s : EmployeeStore) (d : UpsertDelivery) :
    Except Failure Unit × World EmployeeStore Failure :=
  handleEmployeeUpsert { d.ctx with tenantCode := d.payload.tenantCode } d.payload ⟨s, d.faults⟩

/-- Deliveries of payloads of one employee, one at a time, each returning. -/
inductive Upserted (tenantCode : String) (id : Uuid) :
    EmployeeStore → List UpsertDelivery → EmployeeStore → Prop where
  | nil {s} : Upserted tenantCode id s [] s
  | cons {s d ds u w s'} (htenant : d.payload.tenantCode = tenantCode) (hid : d.payload.id = id)
      (hrun : d.run s = (.ok u, w)) (hrest : Upserted tenantCode id w.state ds s') :
      Upserted tenantCode id s (d :: ds) s'

theorem Upserted.record {tenantCode : String} {id : Uuid} {s s' : EmployeeStore}
    {ds : List UpsertDelivery} (h : Upserted tenantCode id s ds s') :
    s'.employee tenantCode id =
      recordAfter (s.employee tenantCode id) (ds.map UpsertDelivery.payload) := by
  induction h with
  | nil => rfl
  | cons htenant hid hrun _ ih =>
    subst htenant hid
    rw [ih, handleEmployeeUpsert_employee rfl hrun, if_pos ⟨rfl, rfl⟩]
    rfl

-- ============================================================================
-- Convergence
-- ============================================================================

/-- The record has the version of the payload and what it says of each attribute. -/
def Projects (newest : EmployeeLifecyclePayload) (found : Option EmployeeRow) : Prop :=
  ∃ employee, found = some employee ∧
    employee.sourceVersion = some (toString newest.sourceVersion.val) ∧
    ∀ a : EmployeeAttribute, (a.told newest).write (a.stored employee) = a.stored employee

def IsNewest (newest : EmployeeLifecyclePayload) (ps : List EmployeeLifecyclePayload) : Prop :=
  newest ∈ ps ∧ ∀ p ∈ ps, p.sourceVersion.val ≤ newest.sourceVersion.val

/-- Of an attribute that the newest payload has: what remains when `updates` come to a
    record with `start`. -/
def Kept (newest : EmployeeLifecyclePayload) (start : Option String)
    (updates : List EmployeeLifecyclePayload) (a : EmployeeAttribute) : Prop :=
  match a.told newest with
  | .undefined => True
  | .null => start = none ∧ lastGiven a updates = none
  | .value text =>
    lastGiven a updates = some text ∨ (lastGiven a updates = none ∧ start = some text)

/-- What a creating payload leaves of an attribute. -/
def createdWith (p : EmployeeLifecyclePayload) : EmployeeAttribute → Option String
  | .employmentStatus => some activeStatus
  | a => (a.told p).given

/-- The first payload creates the record and is of the highest version, or the record has
    that version before; and no attribute of the newest payload is overwritten later. -/
def InOrder (found : Option EmployeeRow) (ps : List EmployeeLifecyclePayload)
    (newest : EmployeeLifecyclePayload) : Prop :=
  match found, ps with
  | some employee, ps =>
    employee.sourceVersion = some (toString newest.sourceVersion.val) ∧
      ∀ a, Kept newest (a.stored employee) ps a
  | none, p :: ps =>
    p.sourceVersion.val = newest.sourceVersion.val ∧ ∀ a, Kept newest (createdWith p a) ps a
  | none, [] => True

theorem stored_created (p : EmployeeLifecyclePayload) (a : EmployeeAttribute) :
    a.stored (createdEmployee p) = createdWith p a := by
  cases a <;> rfl

theorem written_iff_kept {start : Option String} :
    (a.told newest).write ((lastGiven a ps).or start) = (lastGiven a ps).or start ↔
      Kept newest start ps a := by
  unfold Kept
  rcases a.told newest with _ | _ | text
  · exact iff_of_true rfl trivial
  · rw [Column.write, eq_comm, Option.or_eq_none_iff, and_comm]
  · rw [Column.write, eq_comm]
    exact Option.or_eq_some_iff

/-- Deliveries that find a record. -/
theorem projects_updated :
    Projects newest (recordAfter (some employee) ps) ↔
      employee.sourceVersion = some (toString newest.sourceVersion.val) ∧
        ∀ a, Kept newest (a.stored employee) ps a := by
  rw [recordAfter_some, Projects]
  simp only [Option.some.injEq, exists_eq_left', sourceVersion_updatedBy, stored_updatedBy,
    written_iff_kept]

theorem projects_iff (hne : ps ≠ []) :
    Projects newest (recordAfter found ps) ↔ InOrder found ps newest := by
  rcases found with _ | employee
  · rcases ps with _ | ⟨p, ps⟩
    · exact absurd rfl hne
    · show Projects newest (recordAfter (some (createdEmployee p)) ps) ↔ _
      rw [projects_updated]
      simp only [stored_created]
      refine and_congr_left fun _ => ?_
      show some (toString p.sourceVersion.val) = _ ↔ _
      rw [Option.some.injEq]
      exact ⟨fun htext => SafeInteger.toString_injective htext, fun hversion => by rw [hversion]⟩
  · exact projects_updated

/-- What the newest payload says remains exactly if it comes first and its attributes are
    not overwritten. -/
theorem projection_converges_iff {tenantCode : String} {id : Uuid} {s s' : EmployeeStore}
    {ds : List UpsertDelivery} (hrun : Upserted tenantCode id s ds s') :
    (∀ newest, IsNewest newest (ds.map UpsertDelivery.payload) →
        Projects newest (s'.employee tenantCode id)) ↔
      ∀ newest, IsNewest newest (ds.map UpsertDelivery.payload) →
        InOrder (s.employee tenantCode id) (ds.map UpsertDelivery.payload) newest := by
  refine forall_congr' fun newest => forall_congr' fun hnewest => ?_
  rw [hrun.record]
  exact projects_iff (List.ne_nil_of_mem hnewest.1)

def hiredSample : EmployeeLifecyclePayload where
  id := sampleEmployeeId
  tenantCode := "acme"
  employeeCode := "E-1"
  departmentId := .value "ops"
  sourceVersion := ⟨1, Js.SafeInteger.one_isSafe⟩

def transferredSample : EmployeeLifecyclePayload :=
  { hiredSample with departmentId := .value "eng", sourceVersion := ⟨2, Js.SafeInteger.two_isSafe⟩ }

def storeAfter (s : EmployeeStore) : List EmployeeLifecyclePayload → EmployeeStore
  | [] => s
  | p :: ps => storeAfter (UpsertDelivery.run s ⟨p, acme, []⟩).2.state ps

/-- The newest payload, twice. -/
theorem projection_converges_iff_sample :
    IsNewest transferredSample [transferredSample, transferredSample] ∧
      Projects transferredSample ((storeAfter emptyStore
        [transferredSample, transferredSample]).employee "acme" sampleEmployeeId) := by
  have hrun : Upserted "acme" sampleEmployeeId emptyStore
      [⟨transferredSample, acme, []⟩, ⟨transferredSample, acme, []⟩]
      (storeAfter emptyStore [transferredSample, transferredSample]) := by
    refine .cons rfl rfl (u := ()) (Prod.ext ?_ rfl) (.cons rfl rfl (u := ()) (Prod.ext ?_ rfl) .nil)
    · decide +kernel
    · decide +kernel
  have hnewest : IsNewest transferredSample [transferredSample, transferredSample] :=
    ⟨List.mem_cons_self, by decide⟩
  refine ⟨hnewest, (projection_converges_iff hrun).mpr (fun newest hnewest => ?_) _ hnewest⟩
  obtain rfl : newest = transferredSample := by simpa using hnewest.1
  refine ⟨rfl, fun a => ?_⟩
  cases a with
  | departmentId => exact .inl rfl
  | _ => trivial

/-- In the order of their versions the transfer does not reach the stored version. -/
theorem not_projection_converges :
    ¬∀ (s s' : EmployeeStore) (ds : List UpsertDelivery), Upserted "acme" sampleEmployeeId s ds s' →
        (∀ d ∈ ds, ∀ d' ∈ ds, d.payload.sourceVersion.val = d'.payload.sourceVersion.val →
          d.payload = d'.payload) →
        ∀ newest, IsNewest newest (ds.map UpsertDelivery.payload) →
          Projects newest (s'.employee "acme" sampleEmployeeId) := by
  intro h
  have hrun : Upserted "acme" sampleEmployeeId emptyStore
      [⟨hiredSample, acme, []⟩, ⟨transferredSample, acme, []⟩]
      (storeAfter emptyStore [hiredSample, transferredSample]) := by
    refine .cons rfl rfl (u := ()) (Prod.ext ?_ rfl) (.cons rfl rfl (u := ()) (Prod.ext ?_ rfl) .nil)
    · decide +kernel
    · decide +kernel
  have hnewest : IsNewest transferredSample [hiredSample, transferredSample] :=
    ⟨List.mem_cons_of_mem _ List.mem_cons_self, by decide⟩
  have hversion : ((storeAfter emptyStore [hiredSample, transferredSample]).employee "acme"
      sampleEmployeeId).bind EmployeeRow.sourceVersion = some "1" := by
    decide +kernel
  obtain ⟨employee, hfound, hsame, -⟩ :=
    h _ _ _ hrun (by simp [hiredSample, transferredSample]) transferredSample hnewest
  rw [hfound, Option.bind_some, hsame] at hversion
  exact absurd hversion (by decide)

end AccessService.Employee
