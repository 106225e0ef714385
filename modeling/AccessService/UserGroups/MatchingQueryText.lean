/-
  AccessService.UserGroups.MatchingQueryText

  What the text of a matching query depends on, and what its placeholders are bound to.

  The values of a rule reach the parameters only: the clauses that compare push one each, in
  their order, and each has the one placeholder of its own parameter.
-/

import AccessService.Lib.Placeholders
import AccessService.UserGroups.MatchingMeaning
import Mathlib.Data.List.Nodup

namespace AccessService.UserGroups.UserGroupMatchingEngine

open AccessService.Js AccessService.Lib.Sql

variable {clause clause' : MatchingRuleClause} {clauses clauses' : List MatchingRuleClause}
  {column : Column} {op : String} {k pushed : Nat}

-- ============================================================================
-- Two rules of one shape
-- ============================================================================

/-- The clauses are alike but for the values they compare with. -/
structure SameClause (clause clause' : MatchingRuleClause) : Prop where
  «attribute» : clause.attribute = clause'.attribute
  operator : toLowerCase clause.operator = toLowerCase clause'.operator
  reportees : clause.attribute = "hasReportees" → clause.value = clause'.value

/-- The translations push as much and have the same conditions. -/
def SameText (t t' : ClauseSql) : Prop := t.1.length = t'.1.length ∧ t.2 = t'.2

theorem translateOperator_sameText (op : String) (clause clause' : MatchingRuleClause)
    (column : Column) (k : Nat) :
    SameText (translateOperator op clause column k) (translateOperator op clause' column k) := by
  unfold translateOperator
  simp only
  split <;> exact ⟨rfl, rfl⟩

theorem SameClause.translateClause (h : SameClause clause clause') (k : Nat) :
    SameText (translateClause clause k) (translateClause clause' k) := by
  have hvalue := h.reportees
  unfold UserGroupMatchingEngine.translateClause
  rw [← h.attribute, ← h.operator]
  by_cases hempty : clause.attribute = ""
  · rw [if_pos hempty, if_pos hempty]
    exact ⟨rfl, rfl⟩
  rw [if_neg hempty, if_neg hempty]
  by_cases hreportees : clause.attribute = "hasReportees"
  · simp only [hreportees, if_true, hvalue hreportees]
    exact ⟨rfl, rfl⟩
  · simp only [hreportees, if_false]
    cases mapAttributeToColumn clause.attribute with
    | none => exact ⟨rfl, rfl⟩
    | some column => exact translateOperator_sameText _ _ _ column k

theorem translateClauses_sameText (h : List.Forall₂ SameClause clauses clauses') (pushed : Nat) :
    SameText (translateClauses clauses pushed) (translateClauses clauses' pushed) := by
  induction h generalizing pushed with
  | nil => exact ⟨rfl, rfl⟩
  | cons hclause _ ih =>
    obtain ⟨hlength, hconditions⟩ := hclause.translateClause (pushed + 1)
    simp only [translateClauses, hlength, hconditions]
    obtain ⟨hlength', hconditions'⟩ := ih (pushed + _)
    refine ⟨?_, ?_⟩
    · rw [List.length_append, List.length_append, hlength, hlength']
    · rw [hconditions']

-- ============================================================================
-- Numbering
-- ============================================================================

/-- The conditions have the parameters from `k` on that are pushed, each once. -/
def Numbered (k : Nat) (t : ClauseSql) : Prop :=
  t.2.flatMap SqlCondition.indices = List.range' k t.1.length

theorem translateOperator_numbered : Numbered k (translateOperator op clause column k) := by
  unfold translateOperator
  simp only
  split <;> rfl

theorem translateClause_numbered : Numbered k (translateClause clause k) := by
  unfold translateClause
  simp only
  split
  · rfl
  split
  · split
    · rfl
    split <;> rfl
  · cases mapAttributeToColumn clause.attribute with
    | none => rfl
    | some column => exact translateOperator_numbered

theorem translateClauses_numbered : Numbered (pushed + 1) (translateClauses clauses pushed) := by
  induction clauses generalizing pushed with
  | nil => rfl
  | cons clause clauses ih =>
    have hclause : Numbered (pushed + 1) (translateClause clause (pushed + 1)) :=
      translateClause_numbered
    have hclauses : Numbered (pushed + (translateClause clause (pushed + 1)).1.length + 1)
        (translateClauses clauses (pushed + (translateClause clause (pushed + 1)).1.length)) := ih
    simp only [Numbered] at hclause hclauses ⊢
    simp only [translateClauses, List.flatMap_append, List.length_append, hclause, hclauses]
    rw [← List.range'_append_1]
    congr 2
    omega

-- ============================================================================
-- The texts
-- ============================================================================

theorem name_plain (column : Column) : '$' ∉ column.name.toList := by
  cases column <;> decide

theorem translateOperator_plain :
    ∀ c ∈ (translateOperator op clause column k).2, c.Plain := by
  unfold translateOperator
  simp only
  split <;> intro c hc <;> simp only [List.mem_singleton, List.not_mem_nil] at hc <;> subst hc <;>
    simp [SqlCondition.Plain, SqlOperand.Plain]

theorem translateClause_plain : ∀ c ∈ (translateClause clause k).2, c.Plain := by
  have hzero : (SqlOperand.number "0").Plain := by
    show '$' ∉ "0".toList
    decide
  have hone : ∀ cmp, ∀ c ∈ [SqlCondition.compare Column.reporteesCount cmp (.number "0")],
      c.Plain := fun cmp c hc => by
    obtain rfl := List.mem_singleton.mp hc
    exact hzero
  unfold translateClause
  simp only
  split
  · exact nofun
  split
  · split
    · exact hone .gt
    split
    · exact hone .eq
    · exact nofun
  · cases mapAttributeToColumn clause.attribute with
    | none => exact nofun
    | some column => exact translateOperator_plain

theorem translateClauses_plain : ∀ c ∈ (translateClauses clauses pushed).2, c.Plain := by
  induction clauses generalizing pushed with
  | nil => exact nofun
  | cons clause clauses ih =>
    intro c hc
    rcases List.mem_append.mp hc with hc | hc
    · exact translateClause_plain c hc
    · exact ih c hc

-- ============================================================================
-- The parameters
-- ============================================================================

open MatchingRuleValidator

/-- The clause compares with its value, or with its values. -/
def Contributes (clause : MatchingRuleClause) : Bool :=
  clause.attribute ≠ "hasReportees" &&
    toLowerCase clause.operator ∉ ["is_true", "is_false", "exists"]

def payload (op : String) (clause : MatchingRuleClause) : QueryParam :=
  if op = "in" ∨ op = "not_in" then .values (clause.values.getD []) else .value clause.value

theorem translateOperator_pushes (hop : op ∈ allowedOperators)
    (hcompares : op ∉ ["is_true", "is_false", "exists"]) :
    ∃ condition, translateOperator op clause column k = ([payload op clause], [condition]) := by
  simp only [allowedOperators, List.mem_cons, List.not_mem_nil, or_false] at hop
  rcases hop with rfl | rfl | rfl | rfl | rfl | rfl | rfl | rfl | rfl | rfl | rfl | rfl | rfl |
    rfl | rfl | rfl | rfl <;> first | exact ⟨_, rfl⟩ | exact absurd (by decide) hcompares

theorem translateOperator_pushes_none (hflag : op ∈ ["is_true", "is_false", "exists"]) :
    (translateOperator op clause column k).1 = [] := by
  simp only [List.mem_cons, List.not_mem_nil, or_false] at hflag
  rcases hflag with rfl | rfl | rfl <;> rfl

/-- The operator as the engine reads it. -/
abbrev operatorOf (clause : MatchingRuleClause) : String := toLowerCase clause.operator

theorem translateClause_eq (hok : ClauseOk clause) (hne : clause.attribute ≠ "hasReportees") :
    ∃ column, translateClause clause k = translateOperator (operatorOf clause) clause column k := by
  obtain ⟨column, hcolumn⟩ := mapAttributeToColumn_isSome hok.attribute hne
  have hnonempty : clause.attribute ≠ "" := by
    intro hempty
    have hmem := hok.attribute
    rw [hempty] at hmem
    exact absurd hmem (by decide)
  refine ⟨column, ?_⟩
  unfold translateClause
  rw [if_neg hnonempty]
  simp only [hne, if_false, hcolumn]

/-- An accepted clause that compares pushes what it compares with. -/
theorem translateClause_contributes (hok : ClauseOk clause) (hcontributes : Contributes clause) :
    ∃ condition,
      translateClause clause k = ([payload (operatorOf clause) clause], [condition]) := by
  obtain ⟨hne, hop⟩ := Bool.and_eq_true_iff.mp hcontributes
  obtain ⟨column, heq⟩ := translateClause_eq hok (of_decide_eq_true hne)
  rw [heq]
  exact translateOperator_pushes hok.operator (of_decide_eq_true hop)

theorem translateClause_contributes_none (hok : ClauseOk clause)
    (hcontributes : ¬Contributes clause) : (translateClause clause k).1 = [] := by
  by_cases hreportees : clause.attribute = "hasReportees"
  · unfold translateClause
    rw [if_neg (by rw [hreportees]; decide)]
    simp only [hreportees, if_true]
    split
    · rfl
    split <;> rfl
  · obtain ⟨column, heq⟩ := translateClause_eq hok hreportees
    rw [heq]
    refine translateOperator_pushes_none (not_not.mp fun hop => hcontributes ?_)
    exact Bool.and_eq_true_iff.mpr ⟨decide_eq_true hreportees, decide_eq_true hop⟩

theorem translateClauses_params (hok : ∀ c ∈ clauses, ClauseOk c) :
    (translateClauses clauses pushed).1 =
      (clauses.filter Contributes).map fun c => payload (operatorOf c) c := by
  induction clauses generalizing pushed with
  | nil => rfl
  | cons clause clauses ih =>
    obtain ⟨hclause, hclauses⟩ := List.forall_mem_cons.mp hok
    simp only [translateClauses]
    by_cases hcontributes : Contributes clause
    · obtain ⟨condition, heq⟩ := translateClause_contributes hclause hcontributes
      rw [heq, List.filter_cons_of_pos hcontributes, ih hclauses]
      rfl
    · rw [translateClause_contributes_none hclause hcontributes,
        List.filter_cons_of_neg hcontributes, ih hclauses]
      rfl

/-- The condition of a clause that compares has the number of its parameter. -/
theorem translateClauses_conditions (hok : ∀ c ∈ clauses, ClauseOk c) {j : Nat}
    (hj : (clauses.filter Contributes)[j]? = some clause) :
    ∃ condition ∈ (translateClauses clauses pushed).2,
      translateClause clause (pushed + 1 + j) =
        ([payload (operatorOf clause) clause], [condition]) := by
  induction clauses generalizing pushed j with
  | nil => cases hj
  | cons first clauses ih =>
    obtain ⟨hfirst, hclauses⟩ := List.forall_mem_cons.mp hok
    simp only [translateClauses, List.mem_append]
    by_cases hcontributes : Contributes first
    · rw [List.filter_cons_of_pos hcontributes] at hj
      obtain ⟨condition, heq⟩ := translateClause_contributes hfirst hcontributes
      cases j with
      | zero =>
        obtain rfl := Option.some.inj hj
        refine ⟨condition, .inl ?_, heq⟩
        rw [heq]
        exact List.mem_singleton_self _
      | succ j =>
        rw [heq]
        obtain ⟨condition', hmem, heq'⟩ : ∃ condition ∈ (translateClauses clauses (pushed + 1)).2,
            translateClause clause (pushed + 1 + 1 + j) =
              ([payload (operatorOf clause) clause], [condition]) := ih hclauses hj
        refine ⟨condition', .inr hmem, ?_⟩
        rw [← heq', Nat.add_assoc (pushed + 1), Nat.add_comm 1 j]
    · rw [List.filter_cons_of_neg hcontributes] at hj
      rw [translateClause_contributes_none hfirst hcontributes]
      obtain ⟨condition, hmem, heq⟩ := ih hclauses hj
      exact ⟨condition, .inr hmem, heq⟩

-- ============================================================================
-- The query
-- ============================================================================

variable {tenantCode tenantCode' : String} {rule rule' : MatchingRule} {keys : List String}

theorem buildMatchingQuery_sql (h : List.Forall₂ SameClause rule.clauses rule'.clauses) :
    (buildMatchingQuery tenantCode rule).sql = (buildMatchingQuery tenantCode' rule').sql := by
  obtain ⟨-, hclauses⟩ := translateClauses_sameText h 1
  have hconditions : (buildMatchingQuery tenantCode rule).conditions =
      (buildMatchingQuery tenantCode' rule').conditions := by
    show _ :: (translateClauses rule.clauses 1).2 = _ :: (translateClauses rule'.clauses 1).2
    rw [hclauses]
  unfold MatchingQuery.sql
  rw [hconditions]

/-- The placeholders of the text, in their order, are the parameters. -/
theorem buildMatchingQuery_placeholders :
    placeholders (buildMatchingQuery tenantCode rule).sql =
      (List.range' 1 (buildMatchingQuery tenantCode rule).params.length).map
        fun k => (SqlOperand.param k).toSql := by
  have hnumbered : Numbered 2 (translateClauses rule.clauses 1) := translateClauses_numbered
  have hplain : ∀ c ∈ (buildMatchingQuery tenantCode rule).conditions, c.Plain :=
    List.forall_mem_cons.mpr ⟨trivial, translateClauses_plain⟩
  have hselect : '$' ∉ "SELECT employee_id FROM employee_references WHERE ".toList := by
    decide +kernel
  unfold MatchingQuery.sql
  rw [placeholders_conjunction name_plain hplain hselect]
  congr 1
  show 1 :: (translateClauses rule.clauses 1).2.flatMap SqlCondition.indices = _
  rw [hnumbered]
  rfl

/-- Values of an accepted rule do not get into the text of its query, and each placeholder
    of the text is bound to the clause that it stands in. -/
theorem matching_sql_safe :
    (∀ (tenantCode tenantCode' : String) (rule rule' : MatchingRule) (keys keys' : List String),
      validate rule = .ok keys → validate rule' = .ok keys' →
      List.Forall₂ SameClause rule.clauses rule'.clauses →
        (buildMatchingQuery tenantCode rule).sql = (buildMatchingQuery tenantCode' rule').sql) ∧
    ∀ (tenantCode : String) (rule : MatchingRule) (keys : List String),
      validate rule = .ok keys →
        placeholders (buildMatchingQuery tenantCode rule).sql =
          (List.range' 1 (buildMatchingQuery tenantCode rule).params.length).map
            (fun k => (SqlOperand.param k).toSql) ∧
        (∀ k, 1 ≤ k → k ≤ (buildMatchingQuery tenantCode rule).params.length →
          (placeholders (buildMatchingQuery tenantCode rule).sql).count
            (SqlOperand.param k).toSql = 1) ∧
        (buildMatchingQuery tenantCode rule).params =
          .value (.str tenantCode) ::
            (rule.clauses.filter Contributes).map (fun c => payload (operatorOf c) c) ∧
        (buildMatchingQuery tenantCode rule).conditions.head? =
          some (.compare .tenantCode .eq (.param 1)) ∧
        ∀ (j : Nat) (clause : MatchingRuleClause),
          (rule.clauses.filter Contributes)[j]? = some clause →
            ∃ condition ∈ (buildMatchingQuery tenantCode rule).conditions,
              (translateClause clause (j + 2)).2 = [condition] ∧
              placeholders (condition.toSql Column.name) =
                [(SqlOperand.param (j + 2)).toSql] := by
  refine ⟨fun tenantCode tenantCode' rule rule' _ _ _ _ h => buildMatchingQuery_sql h,
    fun tenantCode rule keys hvalid => ?_⟩
  obtain ⟨-, hok, -⟩ := validate_ok hvalid
  refine ⟨buildMatchingQuery_placeholders, fun k hone hlast => ?_,
    congrArg _ (translateClauses_params hok), rfl, fun j clause hj => ?_⟩
  · have hnodup : (placeholders (buildMatchingQuery tenantCode rule).sql).Nodup := by
      rw [buildMatchingQuery_placeholders]
      exact (List.nodup_range' 1).map param_injective
    refine List.count_eq_one_of_mem hnodup ?_
    rw [buildMatchingQuery_placeholders]
    exact List.mem_map_of_mem (List.mem_range'_1.mpr ⟨hone, by omega⟩)
  · obtain ⟨condition, hmem, heq⟩ := translateClauses_conditions hok hj
    rw [Nat.add_comm (1 + 1) j] at heq
    have hnumbered : Numbered (j + 2) (translateClause clause (j + 2)) := translateClause_numbered
    have hplain : ∀ c ∈ (translateClause clause (j + 2)).2, c.Plain := translateClause_plain
    rw [Numbered, heq] at hnumbered
    rw [heq] at hplain
    have hindices : condition.indices = [j + 2] := by
      simpa using hnumbered
    refine ⟨condition, List.mem_cons_of_mem _ hmem, by rw [heq], ?_⟩
    rw [placeholders_toSql name_plain (hplain condition (List.mem_singleton_self _)), hindices]
    rfl

/-- Those of a department and of some grades who have reportees. -/
def leadsRule (departmentId : String) (gradeIds : List JsValue) : MatchingRule where
  clauses :=
    [{ «attribute» := "departmentId", operator := "EQ", value := .str departmentId },
      { «attribute» := "hasReportees", operator := "is_true" },
      { «attribute» := "gradeId", operator := "in", values := some gradeIds }]

theorem sameClause_leads (departmentId departmentId' : String) (gradeIds gradeIds' : List JsValue) :
    List.Forall₂ SameClause (leadsRule departmentId gradeIds).clauses
      (leadsRule departmentId' gradeIds').clauses := by
  have hdepartment : "departmentId" ≠ "hasReportees" := by decide
  have hgrade : "gradeId" ≠ "hasReportees" := by decide
  exact .cons ⟨rfl, rfl, fun h => absurd h hdepartment⟩
    (.cons ⟨rfl, rfl, fun _ => rfl⟩ (.cons ⟨rfl, rfl, fun h => absurd h hgrade⟩ .nil))

def leadsQuery : MatchingQuery := buildMatchingQuery "acme" (leadsRule "eng" [.str "g7"])

/-- A department that would end the condition changes no text. -/
theorem matching_sql_safe_leads :
    leadsQuery.sql =
        (buildMatchingQuery "globex" (leadsRule "' OR 1 = 1 --" [.num ⟨7, by decide⟩])).sql ∧
      placeholders leadsQuery.sql = ["$1", "$2", "$3"] ∧
      (placeholders leadsQuery.sql).count "$3" = 1 ∧
      leadsQuery.params = [.value (.str "acme"), .value (.str "eng"), .values [.str "g7"]] ∧
      ∃ condition ∈ leadsQuery.conditions, placeholders (condition.toSql Column.name) = ["$3"] := by
  obtain ⟨htext, hquery⟩ := matching_sql_safe
  have hkeys : validate (leadsRule "eng" [.str "g7"]) =
      .ok ["departmentId", "hasReportees", "gradeId"] := by decide +kernel
  have hkeys' : validate (leadsRule "' OR 1 = 1 --" [.num ⟨7, by decide⟩]) =
      .ok ["departmentId", "hasReportees", "gradeId"] := by decide +kernel
  obtain ⟨hplaceholders, honce, hparams, -, hclause⟩ := hquery "acme" _ _ hkeys
  obtain ⟨condition, hmem, -, hcondition⟩ := hclause 1
    { «attribute» := "gradeId", operator := "in", values := some [.str "g7"] } (by decide +kernel)
  exact ⟨htext "acme" "globex" _ _ _ _ hkeys hkeys' (sameClause_leads _ _ _ _),
    hplaceholders.trans (by decide +kernel), honce 3 (by decide) (by decide +kernel),
    hparams.trans (by decide +kernel), condition, hmem, hcondition⟩

end AccessService.UserGroups.UserGroupMatchingEngine
