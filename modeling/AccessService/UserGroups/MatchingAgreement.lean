/-
  AccessService.UserGroups.MatchingAgreement

  Where the in-memory evaluator of a matching rule and its SQL translation give
  the same answer on a row, and where they do not.

  Each clause is judged against what it asks of the value the column stores,
  read at the column's type; that is what its SQL condition says.  A clause
  *diverges* on a row when only one of the two paths accepts it.  The kinds of
  divergence are spelled out operator by operator, in terms of the clause and
  the stored value alone.
-/

import AccessService.UserGroups.MatchingMeaning

namespace AccessService.UserGroups

open AccessService.Js AccessService.Lib.Sql AccessService.Pg
open AccessService.Employee (EmployeeReference)

namespace UserGroupMatchingEngine

/-- The path that alone accepts the row. -/
inductive Side where
  | evaluateOnly
  | sqlOnly
  deriving DecidableEq

/-- `d` is right about a clause whose evaluation gives `js` and whose condition
    says `sql`. -/
def Judges (d : Option Side) (js : Bool) (sql : Prop) : Prop :=
  match d with
  | none => js = true ↔ sql
  | some .evaluateOnly => js = true ∧ ¬sql
  | some .sqlOnly => js = false ∧ sql

-- ============================================================================
-- Ordinary attributes, operator by operator
-- ============================================================================

section Operators

variable {α : Type} [DecidableEq α] (T : SqlType α) (toJs : α → JsValue) (stored : Option α)

/-- The stored value as the entity carries it. -/
def jsValue : JsValue :=
  match stored with
  | some a => toJs a
  | none => .null

/-- `equals`: a NULL prints as `null` in memory; a text that the column type
    reads as the stored value, spelled differently, is equal only in SQL. -/
def equalsDivergence (text : String) : Option Side :=
  match stored with
  | none => if text = "null" then some .evaluateOnly else none
  | some a =>
    if (toJs a).toText ≠ text ∧ T.input text = some a then some .sqlOnly else none

/-- `not_equals`: as `equals`, and a text the column type rejects fails the
    statement. -/
def notEqualsDivergence (text : String) : Option Side :=
  match stored with
  | none =>
    if T.input text = none then
      if text = "null" then none else some .evaluateOnly
    else if text = "null" then some .sqlOnly else none
  | some a =>
    if (toJs a).toText ≠ text ∧ (T.input text = none ∨ T.input text = some a) then
      some .evaluateOnly
    else none

/-- `in`: one rejected text fails the statement; another spelling of the stored
    value is a member only in SQL. -/
def inDivergence (texts : List String) : Option Side :=
  match stored with
  | none => none
  | some a =>
    if (toJs a).toText ∈ texts then
      if AllReadable T texts then none else some .evaluateOnly
    else if AllReadable T texts ∧ ∃ t ∈ texts, T.input t = some a then some .sqlOnly
    else none

/-- `not_in`: the same two causes, both accepted only in memory. -/
def notInDivergence (texts : List String) : Option Side :=
  match stored with
  | none => if AllReadable T texts then none else some .evaluateOnly
  | some a =>
    if (toJs a).toText ∉ texts ∧ (¬AllReadable T texts ∨ ∃ t ∈ texts, T.input t = some a) then
      some .evaluateOnly
    else none

/-- An ordering operator: numbers in memory, the column's order in SQL. -/
def orderDivergence (op : SqlCompare) (numeric : Bool) (text : String) : Option Side :=
  if numeric then
    if ordered T stored op text then none else some .evaluateOnly
  else if ordered T stored op text then some .sqlOnly
  else none

/-- `is_true` and `is_false` leave no condition in the query. -/
def flagDivergence (accepted : Bool) : Option Side :=
  if accepted then none else some .sqlOnly

/-- `exists`: the query compares the column with the empty literal, which the
    column type may reject. -/
def existsDivergence : Option Side :=
  match stored with
  | none => none
  | some a =>
    if toJs a ≠ .str "" ∧ (T.input "" = none ∨ T.input "" = some a) then some .evaluateOnly
    else none

variable {T toJs stored}

/-- The text of a stored value reads as that value. -/
def RoundTrips (T : SqlType α) (toJs : α → JsValue) (stored : Option α) : Prop :=
  ∀ a, stored = some a → (toJs a).isPresent = true ∧ T.input (toJs a).toText = some a

theorem equalsDivergence_judges (h : RoundTrips T toJs stored) (text : String) :
    Judges (equalsDivergence T toJs stored text)
      ((jsValue toJs stored).toText = text) (Reads T stored text) := by
  cases stored with
  | none =>
    by_cases htext : text = "null"
    · simp [Judges, equalsDivergence, jsValue, JsValue.toText, Reads, htext]
    · simp [Judges, equalsDivergence, jsValue, JsValue.toText, Reads, htext, eq_comm]
  | some a =>
    obtain ⟨-, hin⟩ := h a rfl
    by_cases htext : (toJs a).toText = text
    · subst htext
      simp [Judges, equalsDivergence, jsValue, Reads, hin]
    · by_cases hread : T.input text = some a
      · simp [Judges, equalsDivergence, jsValue, Reads, htext, hread]
      · simp [Judges, equalsDivergence, jsValue, Reads, htext, hread]

theorem notEqualsDivergence_judges (h : RoundTrips T toJs stored) (text : String) :
    Judges (notEqualsDivergence T toJs stored text)
      ((jsValue toJs stored).toText ≠ text) (∃ b, T.input text = some b ∧ stored ≠ some b) := by
  cases stored with
  | none =>
    have hnull : ("null" = text) = (text = "null") := propext eq_comm
    cases hread : T.input text with
    | none =>
      by_cases htext : text = "null"
      · subst htext
        simp [Judges, notEqualsDivergence, jsValue, JsValue.toText, hread]
      · simp [Judges, notEqualsDivergence, jsValue, JsValue.toText, hread, htext, hnull]
    | some b =>
      by_cases htext : text = "null"
      · subst htext
        simp [Judges, notEqualsDivergence, jsValue, JsValue.toText, hread]
      · simp [Judges, notEqualsDivergence, jsValue, JsValue.toText, hread, htext, hnull]
  | some a =>
    obtain ⟨-, hin⟩ := h a rfl
    by_cases htext : (toJs a).toText = text
    · subst htext
      simp [Judges, notEqualsDivergence, jsValue, hin]
    · cases hread : T.input text with
      | none => simp [Judges, notEqualsDivergence, jsValue, hread, htext]
      | some b =>
        by_cases hab : a = b
        · subst hab
          simp [Judges, notEqualsDivergence, jsValue, hread, htext]
        · simp [Judges, notEqualsDivergence, jsValue, hread, htext, hab, eq_comm]

theorem inDivergence_judges (h : RoundTrips T toJs stored) (texts : List String) :
    Judges (inDivergence T toJs stored texts)
      ((jsValue toJs stored).isPresent && (jsValue toJs stored).toText ∈ texts)
      (AllReadable T texts ∧ ∃ t ∈ texts, Reads T stored t) := by
  cases stored with
  | none => simp [Judges, inDivergence, jsValue, JsValue.isPresent, Reads]
  | some a =>
    obtain ⟨hpres, hin⟩ := h a rfl
    by_cases hmem : (toJs a).toText ∈ texts
    · have hex : ∃ t ∈ texts, T.input t = some a := ⟨_, hmem, hin⟩
      by_cases hall : AllReadable T texts
      · simp [Judges, inDivergence, jsValue, Reads, hpres, hmem, hall, hex]
      · simp [Judges, inDivergence, jsValue, Reads, hpres, hmem, hall]
    · by_cases hsql : AllReadable T texts ∧ ∃ t ∈ texts, T.input t = some a
      · simp [Judges, inDivergence, jsValue, Reads, hmem, hsql]
      · simp [Judges, inDivergence, jsValue, Reads, hmem, hsql]

theorem notInDivergence_judges (h : RoundTrips T toJs stored) (texts : List String) :
    Judges (notInDivergence T toJs stored texts)
      (!(jsValue toJs stored).isPresent || (jsValue toJs stored).toText ∉ texts)
      (AllReadable T texts ∧ ¬∃ t ∈ texts, Reads T stored t) := by
  cases stored with
  | none =>
    by_cases hall : AllReadable T texts
    · simp [Judges, notInDivergence, jsValue, JsValue.isPresent, Reads, hall]
    · simp [Judges, notInDivergence, jsValue, JsValue.isPresent, hall]
  | some a =>
    obtain ⟨hpres, hin⟩ := h a rfl
    by_cases hmem : (toJs a).toText ∈ texts
    · have hex : ∃ t ∈ texts, T.input t = some a := ⟨_, hmem, hin⟩
      simp only [Judges, notInDivergence, jsValue, Reads, hpres, hmem]
      simpa using fun _ => hex
    · by_cases hbad : ¬AllReadable T texts ∨ ∃ t ∈ texts, T.input t = some a
      · have hno : ¬(AllReadable T texts ∧ ¬∃ t ∈ texts, T.input t = some a) :=
          fun ⟨hall, hnone⟩ => hbad.elim (fun hnot => hnot hall) hnone
        simpa [Judges, notInDivergence, jsValue, Reads, hmem, hbad] using hno
      · have hyes : AllReadable T texts ∧ ¬∃ t ∈ texts, T.input t = some a := by
          simpa only [not_or, not_not] using hbad
        simpa [Judges, notInDivergence, jsValue, Reads, hmem, hbad] using hyes

theorem orderDivergence_judges (op : SqlCompare) (numeric : Bool) (text : String) :
    Judges (orderDivergence T stored op numeric text) numeric
      (ordered T stored op text = true) := by
  cases numeric with
  | true => by_cases h : ordered T stored op text = true <;> simp [Judges, orderDivergence, h]
  | false => by_cases h : ordered T stored op text = true <;> simp [Judges, orderDivergence, h]

theorem flagDivergence_judges (accepted : Bool) :
    Judges (flagDivergence accepted) accepted True := by
  cases accepted <;> simp [Judges, flagDivergence]

theorem existsDivergence_judges (h : RoundTrips T toJs stored) :
    Judges (existsDivergence T toJs stored)
      ((jsValue toJs stored).isPresent && jsValue toJs stored ≠ .str "")
      (∃ a b, stored = some a ∧ T.input "" = some b ∧ a ≠ b) := by
  cases stored with
  | none => simp [Judges, existsDivergence, jsValue, JsValue.isPresent]
  | some a =>
    obtain ⟨hpres, hin⟩ := h a rfl
    by_cases hempty : toJs a = .str ""
    · have hread : T.input "" = some a := by simpa [hempty, JsValue.toText] using hin
      simp [Judges, existsDivergence, jsValue, hempty, hread]
    · cases hread : T.input "" with
      | none => simp [Judges, existsDivergence, jsValue, hempty, hpres, hread]
      | some b =>
        by_cases hab : a = b
        · subst hab
          simp [Judges, existsDivergence, jsValue, hempty, hpres, hread]
        · simp [Judges, existsDivergence, jsValue, hempty, hpres, hread, hab, eq_comm]

end Operators

-- ============================================================================
-- One clause
-- ============================================================================

section Clause

variable {α : Type} [DecidableEq α] (T : SqlType α) (toJs : α → JsValue) (stored : Option α)

def operatorDivergence (op : String) (clause : MatchingRuleClause) : Option Side :=
  let text := clause.value.toText
  let texts := (clause.values.getD []).map JsValue.toText
  let left := (jsValue toJs stored).toNumber
  let right := clause.value.toNumber
  match op with
  | "eq" | "equals" => equalsDivergence T toJs stored text
  | "neq" | "not_equals" => notEqualsDivergence T toJs stored text
  | "in" => inDivergence T toJs stored texts
  | "not_in" => notInDivergence T toJs stored texts
  | "gt" | "greater_than" => orderDivergence T stored .gt (right.lt left) text
  | "gte" | "greater_than_or_equal" => orderDivergence T stored .ge (right.le left) text
  | "lt" | "less_than" => orderDivergence T stored .lt (left.lt right) text
  | "lte" | "less_than_or_equal" => orderDivergence T stored .le (left.le right) text
  | "is_true" => flagDivergence (jsValue toJs stored).toBoolean
  | "is_false" => flagDivergence (!(jsValue toJs stored).toBoolean)
  | "exists" => existsDivergence T toJs stored
  | _ => none

theorem operatorDivergence_judges (h : RoundTrips T toJs stored) {op : String}
    (hop : op ∈ MatchingRuleValidator.allowedOperators) (clause : MatchingRuleClause) :
    Judges (operatorDivergence T toJs stored op clause)
      (evaluateOperator op clause (jsValue toJs stored)) (operatorMeets T stored op clause) := by
  simp only [MatchingRuleValidator.allowedOperators, List.mem_cons, List.not_mem_nil,
    or_false] at hop
  rcases hop with rfl | rfl | rfl | rfl | rfl | rfl | rfl | rfl | rfl | rfl | rfl |
    rfl | rfl | rfl | rfl | rfl | rfl
  · exact equalsDivergence_judges h _
  · exact notEqualsDivergence_judges h _
  · exact inDivergence_judges h _
  · exact notInDivergence_judges h _
  · exact orderDivergence_judges _ _ _
  · exact orderDivergence_judges _ _ _
  · exact orderDivergence_judges _ _ _
  · exact orderDivergence_judges _ _ _
  · exact flagDivergence_judges _
  · exact flagDivergence_judges _
  · exact existsDivergence_judges h
  · exact equalsDivergence_judges h _
  · exact notEqualsDivergence_judges h _
  · exact orderDivergence_judges _ _ _
  · exact orderDivergence_judges _ _ _
  · exact orderDivergence_judges _ _ _
  · exact orderDivergence_judges _ _ _

end Clause

/-- `is_true` heeds its value in memory only; `equals` and the operators that
    are false of an undefined attribute leave no condition in the query. -/
def reporteesDivergence (op : String) (value : JsValue) (reporteesCount : ℤ) : Option Side :=
  let expected := if value ≠ .undefined then value.toBoolean else true
  match op with
  | "is_true" =>
    if expected then none
    else if reporteesCount = 0 then some .evaluateOnly
    else if 0 < reporteesCount then some .sqlOnly
    else none
  | "equals" =>
    flagDivergence (if expected then reporteesCount > 0 else reporteesCount = 0)
  | "eq" | "is_false" | "neq" | "not_equals" | "not_in" => none
  | _ => some .sqlOnly

/-- The values of a `hasReportees` clause are flags. -/
def FlagValue (v : JsValue) : Prop := v = .undefined ∨ v = .null ∨ ∃ b, v = .bool b

theorem reporteesDivergence_judges {clause : MatchingRuleClause} {employee : EmployeeReference}
    (hattr : clause.attribute = "hasReportees")
    (hok : MatchingRuleValidator.ClauseOk clause) (hflag : FlagValue clause.value) :
    Judges
      (reporteesDivergence (toLowerCase clause.operator) clause.value employee.reporteesCount.val)
      (evaluateClause clause employee)
      (reporteesMeets (toLowerCase clause.operator) clause.value employee.reporteesCount.val) := by
  have hop := hok.operator
  have hpay := hok.payload
  simp only [evaluateClause, hattr, extractEmployeeValue]
  generalize toLowerCase clause.operator = op at hop hpay ⊢
  generalize employee.reporteesCount.val = n
  simp only [MatchingRuleValidator.allowedOperators, List.mem_cons, List.not_mem_nil,
    or_false] at hop
  -- the value operators are only accepted with a flag as their value
  have hbool : MatchingRuleValidator.payloadOk "eq" clause = true →
      ∃ b, clause.value = .bool b := by
    intro h
    rcases hflag with hv | hv | hv
    · simp [MatchingRuleValidator.payloadOk, hv] at h
    · simp [MatchingRuleValidator.payloadOk, hv] at h
    · exact hv
  -- an operator that `evaluateOperator` applies to `undefined`
  have hundef : ∀ op', evaluateOperator op' clause .undefined = false →
      Judges (some .sqlOnly) (evaluateOperator op' clause .undefined) True :=
    fun op' h => ⟨h, trivial⟩
  have hne : ∀ b, clause.value = .bool b →
      decide (JsValue.toText .undefined ≠ clause.value.toText) = true := by
    rintro b hb
    rw [hb]
    cases b <;> decide
  rcases hop with rfl | rfl | rfl | rfl | rfl | rfl | rfl | rfl | rfl | rfl | rfl |
    rfl | rfl | rfl | rfl | rfl | rfl
  · exact flagDivergence_judges _
  · obtain ⟨b, hb⟩ := hbool hpay
    exact iff_of_true (hne b hb) trivial
  · exact hundef "in" rfl
  · exact iff_of_true rfl trivial
  · exact hundef "gt" (JsNumber.lt_nan_right clause.value.toNumber)
  · exact hundef "gte" (JsNumber.le_nan_right clause.value.toNumber)
  · exact hundef "lt" (JsNumber.lt_nan_left clause.value.toNumber)
  · exact hundef "lte" (JsNumber.le_nan_left clause.value.toNumber)
  · -- `is_true`: only the evaluator reads the value
    by_cases hexp : (if clause.value ≠ .undefined then clause.value.toBoolean else true) = true
    · simp [reporteesDivergence, reporteesMeets, Judges, hexp]
    · rcases lt_trichotomy n 0 with hn | hn | hn
      · have hz : n ≠ 0 := by omega
        have hp : ¬0 < n := by omega
        simp [reporteesDivergence, reporteesMeets, Judges, hexp, hz, hp]
      · simp [reporteesDivergence, reporteesMeets, Judges, hexp, hn]
      · have hz : n ≠ 0 := by omega
        simp [reporteesDivergence, reporteesMeets, Judges, hexp, hz, hn]
  · simp [reporteesDivergence, reporteesMeets, Judges]
  · exact hundef "exists" rfl
  · obtain ⟨b, hb⟩ := hbool hpay
    cases b with
    | false => simp [reporteesDivergence, reporteesMeets, Judges, hb, JsValue.toBoolean]
    | true => simp [reporteesDivergence, reporteesMeets, Judges, hb, JsValue.toBoolean]
  · obtain ⟨b, hb⟩ := hbool hpay
    exact iff_of_true (hne b hb) trivial
  · exact hundef "gt" (JsNumber.lt_nan_right clause.value.toNumber)
  · exact hundef "gte" (JsNumber.le_nan_right clause.value.toNumber)
  · exact hundef "lt" (JsNumber.lt_nan_left clause.value.toNumber)
  · exact hundef "lte" (JsNumber.le_nan_left clause.value.toNumber)

-- ============================================================================
-- The row, its columns and the clause
-- ============================================================================

/-- A stored value as the entity carries it. -/
def Column.toJs : (c : Column) → c.Datum → JsValue
  | .reporteesCount, n => .num n.toSafeInteger
  | .tenantCode, s | .employmentStatus, s | .companyId, s | .locationId, s
  | .departmentId, s | .gradeId, s | .jobTitleId, s => JsValue.str s

theorem extractEmployeeValue_eq {attr : String} {c : Column} (employee : EmployeeReference)
    (h : mapAttributeToColumn attr = some c) :
    extractEmployeeValue attr employee = jsValue c.toJs (storedValue employee c) := by
  have hnull : ∀ v : Option String, ofNullable v = jsValue JsValue.str v := by
    intro v
    cases v <;> rfl
  unfold mapAttributeToColumn at h
  split at h <;> cases h
  · rfl
  · exact hnull _
  · exact hnull _
  · exact hnull _
  · exact hnull _
  · exact hnull _
  · rfl

/-- The organisational ids of a row are values of their column type: each reads
    as itself. -/
def StoredIn (types : ColumnTypes) (employee : EmployeeReference) : Prop :=
  ∀ s, (employee.companyId = some s ∨ employee.locationId = some s ∨
      employee.departmentId = some s ∨ employee.gradeId = some s ∨
      employee.jobTitleId = some s) →
    types.idType.input s = some s

theorem roundTrips {types : ColumnTypes} {employee : EmployeeReference}
    (h : StoredIn types employee) (c : Column) :
    RoundTrips (types.type c) c.toJs (storedValue employee c) := by
  intro a ha
  cases c with
  | tenantCode => exact ⟨rfl, rfl⟩
  | employmentStatus => exact ⟨rfl, rfl⟩
  | companyId => exact ⟨rfl, h a (.inl ha)⟩
  | locationId => exact ⟨rfl, h a (.inr (.inl ha))⟩
  | departmentId => exact ⟨rfl, h a (.inr (.inr (.inl ha)))⟩
  | gradeId => exact ⟨rfl, h a (.inr (.inr (.inr (.inl ha))))⟩
  | jobTitleId => exact ⟨rfl, h a (.inr (.inr (.inr (.inr ha))))⟩
  | reporteesCount =>
    have hread : int4.input (toString a.val) = some a :=
      (int4_input_toString a.val).trans (Int4.ofInt?_eq_some.mpr rfl)
    exact ⟨rfl, hread⟩

section Rows

variable (types : ColumnTypes) (employee : EmployeeReference)

/-- The path that alone accepts `employee` on this clause, if there is one. -/
def clauseDivergence (clause : MatchingRuleClause) : Option Side :=
  let op := toLowerCase clause.operator
  if clause.attribute = "hasReportees" then
    reporteesDivergence op clause.value employee.reporteesCount.val
  else
    match mapAttributeToColumn clause.attribute with
    | some c => operatorDivergence (types.type c) c.toJs (storedValue employee c) op clause
    | none => none

end Rows

theorem clauseDivergence_judges {types : ColumnTypes} {employee : EmployeeReference}
    {clause : MatchingRuleClause} (hstored : StoredIn types employee)
    (hok : MatchingRuleValidator.ClauseOk clause) (htyped : ClauseTyped clause) :
    Judges (clauseDivergence types employee clause) (evaluateClause clause employee)
      (clauseMeets types employee clause) := by
  by_cases hattr : clause.attribute = "hasReportees"
  · have hflag : FlagValue clause.value := by
      rcases htyped.value with h | h | h
      · exact .inl h
      · exact .inr (.inl h)
      · rw [HasAttributeType, if_pos hattr] at h
        exact .inr (.inr h)
    simp only [clauseDivergence, clauseMeets, if_pos hattr]
    exact reporteesDivergence_judges hattr hok hflag
  · obtain ⟨c, hc⟩ := mapAttributeToColumn_isSome hok.attribute hattr
    have hne : clause.attribute ≠ "" := by
      intro h
      rw [h] at hc
      cases hc
    have hjs : evaluateClause clause employee =
        evaluateOperator (toLowerCase clause.operator) clause
          (jsValue c.toJs (storedValue employee c)) := by
      simp [evaluateClause, hne, hattr, extractEmployeeValue_eq employee hc]
    simp only [clauseDivergence, clauseMeets, if_neg hattr, hc, hjs]
    exact operatorDivergence_judges _ _ _ (roundTrips hstored c) hok.operator clause

-- ============================================================================
-- The rule
-- ============================================================================

/-- Two conjunctions whose members are judged by `d` agree exactly when a member
    rejected on both sides decides them, or each side has a member of its own
    against it or neither has. -/
theorem conjunctions_agree_iff {ι : Type} {cs : List ι} {d : ι → Option Side} {js : ι → Bool}
    {sql : ι → Prop} (h : ∀ c ∈ cs, Judges (d c) (js c) (sql c)) :
    ((∀ c ∈ cs, js c = true) ↔ ∀ c ∈ cs, sql c) ↔
      (∃ c ∈ cs, d c = none ∧ ¬sql c) ∨
        ((∃ c ∈ cs, d c = some .evaluateOnly) ↔ ∃ c ∈ cs, d c = some .sqlOnly) := by
  have hnone : ∀ c ∈ cs, d c = none → (js c = true ↔ sql c) := by
    intro c hc hd
    simpa [Judges, hd] using h c hc
  have hjs : ∀ c ∈ cs, d c = some .evaluateOnly → js c = true ∧ ¬sql c := by
    intro c hc hd
    simpa [Judges, hd] using h c hc
  have hsql : ∀ c ∈ cs, d c = some .sqlOnly → js c = false ∧ sql c := by
    intro c hc hd
    simpa [Judges, hd] using h c hc
  by_cases hreject : ∃ c ∈ cs, d c = none ∧ ¬sql c
  · obtain ⟨c, hc, hd, hno⟩ := hreject
    refine iff_of_true (iff_of_false ?_ ?_) (.inl ⟨c, hc, hd, hno⟩)
    · exact fun hall => hno ((hnone c hc hd).mp (hall c hc))
    · exact fun hall => hno (hall c hc)
  · have haccept : ∀ c ∈ cs, d c = none → sql c := by
      intro c hc hd
      by_contra hno
      exact hreject ⟨c, hc, hd, hno⟩
    have hleft : (∀ c ∈ cs, js c = true) ↔ ¬∃ c ∈ cs, d c = some .sqlOnly := by
      constructor
      · rintro hall ⟨c, hc, hd⟩
        have := hall c hc
        rw [(hsql c hc hd).1] at this
        cases this
      · intro hno c hc
        match hd : d c with
        | none => exact (hnone c hc hd).mpr (haccept c hc hd)
        | some .evaluateOnly => exact (hjs c hc hd).1
        | some .sqlOnly => exact absurd ⟨c, hc, hd⟩ hno
    have hright : (∀ c ∈ cs, sql c) ↔ ¬∃ c ∈ cs, d c = some .evaluateOnly := by
      constructor
      · rintro hall ⟨c, hc, hd⟩
        exact (hjs c hc hd).2 (hall c hc)
      · intro hno c hc
        match hd : d c with
        | none => exact haccept c hc hd
        | some .evaluateOnly => exact absurd ⟨c, hc, hd⟩ hno
        | some .sqlOnly => exact (hsql c hc hd).2
    rw [hleft, hright, not_iff_not, or_iff_right hreject]
    exact iff_comm

/-- On a row of the tenant, the evaluator and the query of an accepted rule agree
    exactly when a clause on which they do not diverge asks something else of the
    row, or some clause is accepted by the evaluator alone and some clause by the
    query alone, or no clause diverges at all. -/
theorem evaluate_agrees_selects_iff (types : ColumnTypes) {rule : MatchingRule}
    {employee : EmployeeReference} {tenantCode : String} {keys : List String}
    (hvalid : MatchingRuleValidator.validate rule = .ok keys)
    (htyped : ∀ c ∈ rule.clauses, ClauseTyped c)
    (htenant : employee.tenantCode = tenantCode) (hstored : StoredIn types employee) :
    (evaluate rule employee = true ↔
        (buildMatchingQuery tenantCode rule).Selects types employee) ↔
      (∃ c ∈ rule.clauses, clauseDivergence types employee c = none ∧
          ¬clauseMeets types employee c) ∨
        ((∃ c ∈ rule.clauses, clauseDivergence types employee c = some .evaluateOnly) ↔
          ∃ c ∈ rule.clauses, clauseDivergence types employee c = some .sqlOnly) := by
  obtain ⟨hne, hok, -⟩ := MatchingRuleValidator.validate_ok hvalid
  subst htenant
  have heval : evaluate rule employee = true ↔
      ∀ c ∈ rule.clauses, evaluateClause c employee = true := by
    simp only [evaluate, if_neg hne, List.all_eq_true]
  rw [heval, buildMatchingQuery_selects hok htyped]
  exact conjunctions_agree_iff fun c hc =>
    clauseDivergence_judges hstored (hok c hc) (htyped c hc)

-- ============================================================================
-- An instance: `equals` on `hasReportees` leaves no condition in the query
-- ============================================================================

def managersRule : MatchingRule where
  combinator := some "ALL"
  clauses := [{ «attribute» := "hasReportees", operator := "EQUALS", value := .bool true }]

/-- An employee without reportees. -/
theorem nonManager_isUuid : isUuidText "3f2b8c1e-0000-4000-8000-000000000001" = true := by
  decide

def nonManager : EmployeeReference where
  id := ⟨"3f2b8c1e-0000-4000-8000-000000000001", nonManager_isUuid⟩
  tenantCode := "acme"
  employeeCode := "E-1"
  status := "ACTIVE"

def varcharTypes : ColumnTypes where
  idType := varchar fun a b => a < b
  collation a b := a < b

theorem managersRule_typed : ∀ c ∈ managersRule.clauses, ClauseTyped c := by
  intro c hc
  rw [List.mem_singleton.mp hc]
  exact ⟨.inr (.inr ⟨true, rfl⟩), fun v hv => absurd hv List.not_mem_nil⟩

theorem nonManager_storedIn : StoredIn varcharTypes nonManager := fun _ _ => rfl

theorem managersRule_selects_nonManager :
    MatchingRuleValidator.validate managersRule = .ok ["hasReportees"] ∧
      (∀ c ∈ managersRule.clauses, ClauseTyped c) ∧ StoredIn varcharTypes nonManager ∧
      evaluate managersRule nonManager = false ∧
      (buildMatchingQuery "acme" managersRule).Selects varcharTypes nonManager :=
  ⟨by decide, managersRule_typed, nonManager_storedIn, by decide, by decide⟩

/-- The agreement condition at this rule and row. -/
theorem evaluate_agrees_selects_iff_managersRule :
    (evaluate managersRule nonManager = true ↔
        (buildMatchingQuery "acme" managersRule).Selects varcharTypes nonManager) ↔
      (∃ c ∈ managersRule.clauses, clauseDivergence varcharTypes nonManager c = none ∧
          ¬clauseMeets varcharTypes nonManager c) ∨
        ((∃ c ∈ managersRule.clauses,
            clauseDivergence varcharTypes nonManager c = some .evaluateOnly) ↔
          ∃ c ∈ managersRule.clauses,
            clauseDivergence varcharTypes nonManager c = some .sqlOnly) :=
  have hvalid : MatchingRuleValidator.validate managersRule = .ok ["hasReportees"] := by decide
  evaluate_agrees_selects_iff varcharTypes hvalid managersRule_typed rfl nonManager_storedIn

end UserGroupMatchingEngine

end AccessService.UserGroups
