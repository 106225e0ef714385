/-
  AccessService.UserGroups.MatchingMeaning

  What a clause of a matching rule asks of a row: a condition on the value the
  column stores, read at the column's type.  The query built for a rule selects
  exactly the rows of the tenant that meet every clause.
-/

import AccessService.UserGroups.MatchingEngine

namespace AccessService.UserGroups

open AccessService.Js AccessService.Lib.Sql AccessService.Pg
open AccessService.Employee (EmployeeReference)

namespace UserGroupMatchingEngine

-- ============================================================================
-- Ordinary attributes
-- ============================================================================

section Operators

variable {α : Type} [DecidableEq α] (T : SqlType α) (stored : Option α)

/-- The stored value is the one `text` reads as. -/
def Reads (text : String) : Prop := ∃ a, stored = some a ∧ T.input text = some a

/-- Every text is a value of the column type. -/
def AllReadable (texts : List String) : Prop := ∀ t ∈ texts, (T.input t).isSome

instance (texts : List String) : Decidable (AllReadable T texts) :=
  inferInstanceAs (Decidable (∀ t ∈ texts, (T.input t).isSome))

/-- The stored value stands in the column's order to the value `text` reads as. -/
def ordered (op : SqlCompare) (text : String) : Bool :=
  match stored, T.input text with
  | some a, some b => T.compare op a b
  | _, _ => false

/-- What a clause on an ordinary attribute asks of the stored value.  The two
    flag operators ask nothing. -/
def operatorMeets (op : String) (clause : MatchingRuleClause) : Prop :=
  let text := clause.value.toText
  let texts := (clause.values.getD []).map JsValue.toText
  match op with
  | "eq" | "equals" => Reads T stored text
  | "neq" | "not_equals" => ∃ b, T.input text = some b ∧ stored ≠ some b
  | "in" => AllReadable T texts ∧ ∃ t ∈ texts, Reads T stored t
  | "not_in" => AllReadable T texts ∧ ¬∃ t ∈ texts, Reads T stored t
  | "gt" | "greater_than" => ordered T stored .gt text = true
  | "gte" | "greater_than_or_equal" => ordered T stored .ge text = true
  | "lt" | "less_than" => ordered T stored .lt text = true
  | "lte" | "less_than_or_equal" => ordered T stored .le text = true
  | "exists" => ∃ a b, stored = some a ∧ T.input "" = some b ∧ a ≠ b
  | _ => True

end Operators

-- ============================================================================
-- Clauses
-- ============================================================================

/-- What a `hasReportees` clause asks of the reportee count.  The query knows
    `is_true`, `is_false` and the short spelling `eq`, and nothing else. -/
def reporteesMeets (op : String) (value : JsValue) (reporteesCount : ℤ) : Prop :=
  match op with
  | "is_true" => 0 < reporteesCount
  | "is_false" => reporteesCount = 0
  | "eq" => (value = .bool true → 0 < reporteesCount) ∧ (value = .bool false → reporteesCount = 0)
  | _ => True

/-- What a clause asks of a row. -/
def clauseMeets (types : ColumnTypes) (employee : EmployeeReference)
    (clause : MatchingRuleClause) : Prop :=
  let op := toLowerCase clause.operator
  if clause.attribute = "hasReportees" then
    reporteesMeets op clause.value employee.reporteesCount.val
  else
    match mapAttributeToColumn clause.attribute with
    | some c => operatorMeets (types.type c) (storedValue employee c) op clause
    | none => True

/-- The declared type of the values of an attribute: flags for `hasReportees`,
    integers for `reporteesCount`, text for the others. -/
def HasAttributeType («attribute» : String) (v : JsValue) : Prop :=
  if «attribute» = "hasReportees" then ∃ b, v = .bool b
  else if «attribute» = "reporteesCount" then ∃ n, v = .num n
  else ∃ s, v = .str s

/-- The payload of a clause has the type of its attribute; the value may also be
    missing or null. -/
structure ClauseTyped (clause : MatchingRuleClause) : Prop where
  value : clause.value = .undefined ∨ clause.value = .null ∨
    HasAttributeType clause.attribute clause.value
  values : ∀ v ∈ clause.values.getD [], HasAttributeType clause.attribute v

theorem HasAttributeType.isPresent {attr : String} {v : JsValue}
    (h : HasAttributeType attr v) : v.isPresent = true := by
  unfold HasAttributeType at h
  split at h
  · obtain ⟨b, rfl⟩ := h; rfl
  split at h
  · obtain ⟨n, rfl⟩ := h; rfl
  · obtain ⟨s, rfl⟩ := h; rfl

theorem mapAttributeToColumn_isSome {attr : String}
    (h : attr ∈ MatchingRuleValidator.allowedAttributes) (hne : attr ≠ "hasReportees") :
    ∃ c, mapAttributeToColumn attr = some c := by
  simp only [MatchingRuleValidator.allowedAttributes, List.mem_cons, List.not_mem_nil,
    or_false] at h
  rcases h with rfl | rfl | rfl | rfl | rfl | rfl | rfl | rfl
  · exact ⟨.employmentStatus, rfl⟩
  · exact ⟨.companyId, rfl⟩
  · exact ⟨.locationId, rfl⟩
  · exact ⟨.departmentId, rfl⟩
  · exact ⟨.gradeId, rfl⟩
  · exact ⟨.jobTitleId, rfl⟩
  · exact ⟨.reporteesCount, rfl⟩
  · exact absurd rfl hne


-- ============================================================================
-- The query says what the clauses ask
-- ============================================================================

/-- The conditions all evaluate to true with the given parameters. -/
def AllTrue (types : ColumnTypes) (employee : EmployeeReference) (params : List QueryParam)
    (conditions : List (SqlCondition Column)) : Prop :=
  ∀ cond ∈ conditions,
    cond.eval types.type (params.map QueryParam.bind) (storedValue employee) = .ok (some true)

theorem lookupParam_append {pre post : List QueryParam} {q : QueryParam} :
    lookupParam ((pre ++ q :: post).map QueryParam.bind) (pre.length + 1) = .ok q.bind := by
  simp [lookupParam]

theorem operandIs_param {pre post : List QueryParam} {v : JsValue} (h : v.isPresent = true) :
    OperandIs ((pre ++ .value v :: post).map QueryParam.bind) (.param (pre.length + 1))
      v.toText := by
  simp only [OperandIs, lookupParam_append, QueryParam.bind, bindValue, if_pos h]

theorem lookupParam_values {pre post : List QueryParam} {vs : List JsValue}
    (h : ∀ v ∈ vs, v.isPresent = true) :
    lookupParam ((pre ++ .values vs :: post).map QueryParam.bind) (pre.length + 1) =
      .ok (.array ((vs.map JsValue.toText).map some)) := by
  have hbind : vs.map bindValue = (vs.map JsValue.toText).map some := by
    rw [List.map_map]
    exact List.map_congr_left fun v hv => if_pos (h v hv)
  simp only [lookupParam_append, QueryParam.bind, hbind]

theorem ordered_eq_true {α : Type} {T : SqlType α} {stored : Option α} {op : SqlCompare}
    [DecidableEq α] {text : String} :
    ordered T stored op text = true ↔
      ∃ a b, stored = some a ∧ T.input text = some b ∧ T.compare op a b = true := by
  cases stored with
  | none => simp [ordered]
  | some a =>
    cases hread : T.input text with
    | none => simp [ordered, hread]
    | some b => simp [ordered, hread]

theorem compare_eq_reads {α : Type} {T : SqlType α} {stored : Option α} [DecidableEq α]
    {text : String} :
    (∃ a b, stored = some a ∧ T.input text = some b ∧ T.compare .eq a b = true) ↔
      Reads T stored text := by
  constructor
  · rintro ⟨a, b, ha, hb, hab⟩
    obtain rfl : a = b := by simpa [SqlType.compare] using hab
    exact ⟨a, ha, hb⟩
  · rintro ⟨a, ha, hb⟩
    exact ⟨a, a, ha, hb, by simp [SqlType.compare]⟩

theorem exists_reads {α : Type} {T : SqlType α} {stored : Option α} {texts : List String} :
    (∃ a, stored = some a ∧ ∃ t ∈ texts, T.input t = some a) ↔
      ∃ t ∈ texts, Reads T stored t := by
  constructor
  · rintro ⟨a, ha, t, ht, hin⟩
    exact ⟨t, ht, a, ha, hin⟩
  · rintro ⟨t, ht, a, ha, hin⟩
    exact ⟨a, ha, t, ht, hin⟩

/-- The operators that compare with their value are accepted only with one. -/
theorem value_isPresent {op : String} {clause : MatchingRuleClause}
    (hpay : MatchingRuleValidator.payloadOk op clause = true)
    (hop : op ∉ ["in", "not_in", "is_true", "is_false", "exists"]) :
    clause.value.isPresent = true := by
  simp only [List.mem_cons, List.not_mem_nil, or_false, not_or] at hop
  obtain ⟨h1, h2, h3, h4, h5⟩ := hop
  simp only [MatchingRuleValidator.payloadOk, h1, h2, h3, h4, h5, or_self, if_false,
    decide_eq_true_eq] at hpay
  cases hv : clause.value with
  | undefined => exact absurd hv hpay.1
  | null => exact absurd hv hpay.2.1
  | bool b => rfl
  | num n => rfl
  | str s => rfl

section Translation

variable {types : ColumnTypes} {employee : EmployeeReference} {pre post : List QueryParam}

theorem allTrue_compare {c : Column} {cmp : SqlCompare} {v : JsValue}
    (h : v.isPresent = true) :
    AllTrue types employee (pre ++ .value v :: post) [.compare c cmp (.param (pre.length + 1))] ↔
      ∃ a b, storedValue employee c = some a ∧ (types.type c).input v.toText = some b ∧
        (types.type c).compare cmp a b = true := by
  simp only [AllTrue, List.mem_singleton, forall_eq]
  exact eval_compare_true (operandIs_param h)

theorem allTrue_equals {c : Column} {v : JsValue} (h : v.isPresent = true) :
    AllTrue types employee (pre ++ .value v :: post) [.compare c .eq (.param (pre.length + 1))] ↔
      Reads (types.type c) (storedValue employee c) v.toText :=
  (allTrue_compare h).trans compare_eq_reads

theorem allTrue_order {c : Column} {cmp : SqlCompare} {v : JsValue}
    (h : v.isPresent = true) :
    AllTrue types employee (pre ++ .value v :: post) [.compare c cmp (.param (pre.length + 1))] ↔
      ordered (types.type c) (storedValue employee c) cmp v.toText = true :=
  (allTrue_compare h).trans ordered_eq_true.symm

theorem allTrue_notEquals {c : Column} {v : JsValue} (h : v.isPresent = true) :
    AllTrue types employee (pre ++ .value v :: post)
        [.or (.isNull c) (.compare c .ne (.param (pre.length + 1)))] ↔
      ∃ b, (types.type c).input v.toText = some b ∧ storedValue employee c ≠ some b := by
  simp only [AllTrue, List.mem_singleton, forall_eq]
  exact eval_isNull_or_ne_true (operandIs_param h)

theorem allTrue_in {c : Column} {vs : List JsValue} (h : ∀ v ∈ vs, v.isPresent = true) :
    AllTrue types employee (pre ++ .values vs :: post) [.eqAny c (pre.length + 1)] ↔
      AllReadable (types.type c) (vs.map JsValue.toText) ∧
        ∃ t ∈ vs.map JsValue.toText, Reads (types.type c) (storedValue employee c) t := by
  simp only [AllTrue, List.mem_singleton, forall_eq]
  rw [eval_eqAny_true (lookupParam_values h), exists_reads]
  rfl

theorem allTrue_notIn {c : Column} {vs : List JsValue} (h : ∀ v ∈ vs, v.isPresent = true) :
    AllTrue types employee (pre ++ .values vs :: post)
        [.or (.isNull c) (.not (.eqAny c (pre.length + 1)))] ↔
      AllReadable (types.type c) (vs.map JsValue.toText) ∧
        ¬∃ t ∈ vs.map JsValue.toText, Reads (types.type c) (storedValue employee c) t := by
  simp only [AllTrue, List.mem_singleton, forall_eq]
  rw [eval_isNull_or_not_eqAny_true (lookupParam_values h), exists_reads]
  rfl

theorem allTrue_exists {c : Column} {params : List QueryParam} :
    AllTrue types employee params [.and (.isNotNull c) (.compare c .ne (.quoted ""))] ↔
      ∃ a b, storedValue employee c = some a ∧ (types.type c).input "" = some b ∧ a ≠ b := by
  simp only [AllTrue, List.mem_singleton, forall_eq]
  exact eval_isNotNull_and_ne_true rfl

theorem allTrue_nil {params : List QueryParam} : AllTrue types employee params [] ↔ True := by
  simp [AllTrue]

/-- The conditions a clause on an ordinary attribute emits hold exactly when the
    stored value is as the clause asks. -/
theorem translateOperator_allTrue {op : String} {clause : MatchingRuleClause} (c : Column)
    (hop : op ∈ MatchingRuleValidator.allowedOperators)
    (hpay : MatchingRuleValidator.payloadOk op clause = true)
    (hvalues : ∀ v ∈ clause.values.getD [], v.isPresent = true) :
    AllTrue types employee
        (pre ++ ((translateOperator op clause c (pre.length + 1)).1 ++ post))
        (translateOperator op clause c (pre.length + 1)).2 ↔
      operatorMeets (types.type c) (storedValue employee c) op clause := by
  have hvalue := value_isPresent hpay
  simp only [MatchingRuleValidator.allowedOperators, List.mem_cons, List.not_mem_nil,
    or_false] at hop
  rcases hop with rfl | rfl | rfl | rfl | rfl | rfl | rfl | rfl | rfl | rfl | rfl |
    rfl | rfl | rfl | rfl | rfl | rfl
  · exact allTrue_equals (hvalue (by decide))
  · exact allTrue_notEquals (hvalue (by decide))
  · exact allTrue_in hvalues
  · exact allTrue_notIn hvalues
  · exact allTrue_order (hvalue (by decide))
  · exact allTrue_order (hvalue (by decide))
  · exact allTrue_order (hvalue (by decide))
  · exact allTrue_order (hvalue (by decide))
  · exact allTrue_nil
  · exact allTrue_nil
  · exact allTrue_exists
  · exact allTrue_equals (hvalue (by decide))
  · exact allTrue_notEquals (hvalue (by decide))
  · exact allTrue_order (hvalue (by decide))
  · exact allTrue_order (hvalue (by decide))
  · exact allTrue_order (hvalue (by decide))
  · exact allTrue_order (hvalue (by decide))

theorem allTrue_reportees {params : List QueryParam} {cmp : SqlCompare} :
    AllTrue types employee params [.compare .reporteesCount cmp (.number "0")] ↔
      int4.compare cmp employee.reporteesCount ⟨0, by decide, by decide⟩ = true := by
  have hzero : int4.input "0" = some ⟨0, by decide, by decide⟩ :=
    (int4_input_toString 0).trans (Int4.ofInt?_eq_some.mpr rfl)
  have hoperand : OperandIs (params.map QueryParam.bind) (.number "0") "0" := rfl
  simp only [AllTrue, List.mem_singleton, forall_eq, eval_compare_true hoperand]
  constructor
  · rintro ⟨a, b, ha, hb, hab⟩
    cases ha
    cases hb.symm.trans hzero
    exact hab
  · intro h
    exact ⟨_, _, rfl, hzero, h⟩

theorem translateReportees_allTrue {clause : MatchingRuleClause} {params : List QueryParam}
    {k : Nat} (hattr : clause.attribute = "hasReportees")
    (hop : toLowerCase clause.operator ∈ MatchingRuleValidator.allowedOperators) :
    AllTrue types employee params (translateClause clause k).2 ↔
      reporteesMeets (toLowerCase clause.operator) clause.value employee.reporteesCount.val := by
  have hpos : ∀ m : Int4, int4.compare .gt m ⟨0, by decide, by decide⟩ = true ↔ 0 < m.val := by
    intro m
    simp [SqlType.compare, int4]
  have hzero : ∀ m : Int4, int4.compare .eq m ⟨0, by decide, by decide⟩ = true ↔ m.val = 0 := by
    intro m
    simp [SqlType.compare, Int4.ext_iff]
  simp only [translateClause, hattr]
  generalize toLowerCase clause.operator = op at hop ⊢
  simp only [MatchingRuleValidator.allowedOperators, List.mem_cons, List.not_mem_nil,
    or_false] at hop
  rcases hop with rfl | rfl | rfl | rfl | rfl | rfl | rfl | rfl | rfl | rfl | rfl |
    rfl | rfl | rfl | rfl | rfl | rfl
  case inr.inr.inr.inr.inr.inr.inr.inr.inl => exact allTrue_reportees.trans (hpos _)
  case inr.inr.inr.inr.inr.inr.inr.inr.inr.inl => exact allTrue_reportees.trans (hzero _)
  case inr.inr.inr.inr.inr.inr.inr.inr.inr.inr.inr.inl =>
    by_cases htrue : clause.value = .bool true
    · simpa [htrue, reporteesMeets] using allTrue_reportees.trans (hpos _)
    · by_cases hfalse : clause.value = .bool false
      · simpa [hfalse, reporteesMeets] using allTrue_reportees.trans (hzero _)
      · simpa [htrue, hfalse, reporteesMeets] using allTrue_nil
  all_goals exact allTrue_nil

/-- The conditions a clause emits hold exactly when the row is as the clause
    asks. -/
theorem translateClause_allTrue {clause : MatchingRuleClause}
    (hok : MatchingRuleValidator.ClauseOk clause) (htyped : ClauseTyped clause) :
    AllTrue types employee (pre ++ ((translateClause clause (pre.length + 1)).1 ++ post))
        (translateClause clause (pre.length + 1)).2 ↔
      clauseMeets types employee clause := by
  by_cases hattr : clause.attribute = "hasReportees"
  · rw [translateReportees_allTrue hattr hok.operator]
    simp only [clauseMeets, if_pos hattr]
  · obtain ⟨c, hc⟩ := mapAttributeToColumn_isSome hok.attribute hattr
    have hne : clause.attribute ≠ "" := by
      intro h
      rw [h] at hc
      cases hc
    simp only [translateClause, clauseMeets, if_neg hne, if_neg hattr, hc]
    exact translateOperator_allTrue c hok.operator hok.payload
      fun v hv => (htyped.values v hv).isPresent

theorem allTrue_append {params : List QueryParam} {cs ds : List (SqlCondition Column)} :
    AllTrue types employee params (cs ++ ds) ↔
      AllTrue types employee params cs ∧ AllTrue types employee params ds := by
  simp only [AllTrue, List.mem_append, or_imp, forall_and]

/-- The clause loop: by induction on the clauses, with the parameters already
    pushed generalised. -/
theorem translateClauses_allTrue (pre post : List QueryParam) {clauses : List MatchingRuleClause}
    (hok : ∀ c ∈ clauses, MatchingRuleValidator.ClauseOk c)
    (htyped : ∀ c ∈ clauses, ClauseTyped c) :
    AllTrue types employee (pre ++ ((translateClauses clauses pre.length).1 ++ post))
        (translateClauses clauses pre.length).2 ↔
      ∀ c ∈ clauses, clauseMeets types employee c := by
  induction clauses generalizing pre post with
  | nil => simpa [translateClauses] using allTrue_nil
  | cons c cs ih =>
    rw [List.forall_mem_cons] at hok htyped
    obtain ⟨hokc, hokcs⟩ := hok
    obtain ⟨htypedc, htypedcs⟩ := htyped
    simp only [translateClauses, allTrue_append, List.forall_mem_cons, List.append_assoc]
    rw [translateClause_allTrue hokc htypedc]
    have htail := ih (pre ++ (translateClause c (pre.length + 1)).1) post hokcs htypedcs
    rw [List.length_append, List.append_assoc] at htail
    rw [htail]

end Translation

/-- The query selects a row of the tenant exactly when the row is as every
    clause asks. -/
theorem buildMatchingQuery_selects {types : ColumnTypes} {employee : EmployeeReference}
    {rule : MatchingRule} (hok : ∀ c ∈ rule.clauses, MatchingRuleValidator.ClauseOk c)
    (htyped : ∀ c ∈ rule.clauses, ClauseTyped c) :
    (buildMatchingQuery employee.tenantCode rule).Selects types employee ↔
      ∀ c ∈ rule.clauses, clauseMeets types employee c := by
  have hclauses : AllTrue types employee
      ([.value (.str employee.tenantCode)] ++ ((translateClauses rule.clauses 1).1 ++ []))
      (translateClauses rule.clauses 1).2 ↔ ∀ c ∈ rule.clauses, clauseMeets types employee c :=
    translateClauses_allTrue [.value (.str employee.tenantCode)] [] hok htyped
  have htenant : AllTrue types employee
      ([] ++ .value (.str employee.tenantCode) :: (translateClauses rule.clauses 1).1)
      [.compare .tenantCode .eq (.param 1)] :=
    (allTrue_equals rfl).mpr ⟨_, rfl, rfl⟩
  rw [List.append_nil] at hclauses
  rw [← hclauses, MatchingQuery.Selects, selects_iff]
  show AllTrue types employee
      (.value (.str employee.tenantCode) :: (translateClauses rule.clauses 1).1)
      ([.compare .tenantCode .eq (.param 1)] ++ (translateClauses rule.clauses 1).2) ↔ _
  rw [allTrue_append]
  exact and_iff_right htenant

end UserGroupMatchingEngine

end AccessService.UserGroups
