/-
  AccessService.UserGroups.MatchingRule

  The matching rule of a user group (`matching-rule.vo.ts`) and its validator
  (`matching-rule.validator.ts`).

  A rule is modelled at its declared type: `MatchingRuleClause.attribute` and
  `operator` are strings (empty when missing), `value` is a scalar that may be
  `undefined`, and `values` is absent when it is not an array.  The validator's
  checks that the rule and its clauses are objects at all are discharged by
  these types.
-/

import AccessService.Js.Value

namespace AccessService.UserGroups

open AccessService.Js

structure MatchingRuleClause where
  «attribute» : String
  operator : String
  value : JsValue := .undefined
  values : Option (List JsValue) := none
  deriving DecidableEq

structure MatchingRule where
  combinator : Option String := none
  clauses : List MatchingRuleClause
  deriving DecidableEq

structure InvalidMatchingRuleError where
  message : String
  deriving DecidableEq

namespace MatchingRuleValidator

def allowedAttributes : List String :=
  ["employmentStatus", "companyId", "locationId", "departmentId", "gradeId",
    "jobTitleId", "reporteesCount", "hasReportees"]

def allowedOperators : List String :=
  ["equals", "not_equals", "in", "not_in", "greater_than", "greater_than_or_equal",
    "less_than", "less_than_or_equal", "is_true", "is_false", "exists",
    "eq", "neq", "gt", "gte", "lt", "lte"]

/-- The payload check of one clause, by its normalised operator. -/
def payloadOk (op : String) (c : MatchingRuleClause) : Bool :=
  if op = "in" ∨ op = "not_in" then
    match c.values with
    | some (_ :: _) => true
    | _ => false
  else if op = "is_true" ∨ op = "is_false" ∨ op = "exists" then true
  else decide (c.value ≠ .undefined ∧ c.value ≠ .null ∧ c.value ≠ .str "")

def validateClause (c : MatchingRuleClause) (index : Nat) :
    Except InvalidMatchingRuleError String :=
  if c.attribute = "" then
    .error ⟨"Clause at index " ++ toString index ++
      " is missing a valid 'attribute' property"⟩
  else if c.attribute ∉ allowedAttributes then
    .error ⟨"Attribute \"" ++ c.attribute ++ "\" at index " ++ toString index ++
      " is not in the allowed employee attribute list (" ++
      ", ".intercalate allowedAttributes ++ ")"⟩
  else if c.operator = "" then
    .error ⟨"Clause at index " ++ toString index ++
      " is missing a valid 'operator' property"⟩
  else
    let normalizedOp := toLowerCase c.operator
    if normalizedOp ∉ allowedOperators then
      .error ⟨"Operator \"" ++ c.operator ++ "\" at index " ++ toString index ++
        " is not a supported operator (" ++ ", ".intercalate allowedOperators ++ ")"⟩
    else if payloadOk normalizedOp c then .ok c.attribute
    else if normalizedOp = "in" ∨ normalizedOp = "not_in" then
      .error ⟨"Operator \"" ++ c.operator ++ "\" at index " ++ toString index ++
        " requires a non-empty \"values\" array"⟩
    else
      .error ⟨"Operator \"" ++ c.operator ++ "\" at index " ++ toString index ++
        " requires a defined \"value\" property"⟩

/-- The clause loop: the attributes of the clauses from `index` on, or the
    first clause error. -/
def validateClauses : List MatchingRuleClause → Nat →
    Except InvalidMatchingRuleError (List String)
  | [], _ => .ok []
  | c :: cs, index => do
    let attr ← validateClause c index
    let attrs ← validateClauses cs (index + 1)
    .ok (attr :: attrs)

/-- `rule.combinator && rule.combinator.toLowerCase() !== 'all'`. -/
def combinatorRejected (rule : MatchingRule) : Bool :=
  match rule.combinator with
  | some comb => decide (comb ≠ "" ∧ toLowerCase comb ≠ "all")
  | none => false

/-- `MatchingRuleValidator.validate`: the attribute keys of an accepted rule,
    each once, in the order of their first clause. -/
def validate (rule : MatchingRule) : Except InvalidMatchingRuleError (List String) :=
  if combinatorRejected rule then
    .error ⟨"Unsupported combinator \"" ++ rule.combinator.getD "" ++
      "\". Only \"all\" (logical AND) is supported."⟩
  else if rule.clauses = [] then
    .error ⟨"Matching rule must contain at least one clause"⟩
  else
    (validateClauses rule.clauses 0).map List.eraseDups

-- ============================================================================
-- What acceptance says
-- ============================================================================

/-- What an accepted clause satisfies. -/
structure ClauseOk (c : MatchingRuleClause) : Prop where
  «attribute» : c.attribute ∈ allowedAttributes
  operator : toLowerCase c.operator ∈ allowedOperators
  payload : payloadOk (toLowerCase c.operator) c = true

theorem validateClause_ok {c : MatchingRuleClause} {i : Nat} {a : String}
    (h : validateClause c i = .ok a) : a = c.attribute ∧ ClauseOk c := by
  unfold validateClause at h
  split at h
  · cases h
  split at h
  · cases h
  split at h
  · cases h
  next hattr _ =>
    simp only at h
    split at h
    · cases h
    next hop =>
      split at h
      next hpay =>
        cases h
        exact ⟨rfl, not_not.mp hattr, not_not.mp hop, hpay⟩
      · split at h <;> cases h

theorem validateClauses_ok {cs : List MatchingRuleClause} {i : Nat} {as : List String}
    (h : validateClauses cs i = .ok as) :
    as = cs.map (fun c => c.attribute) ∧ ∀ c ∈ cs, ClauseOk c := by
  induction cs generalizing i as with
  | nil => cases h; simp
  | cons c cs ih =>
    simp only [validateClauses] at h
    cases hc : validateClause c i with
    | error e => rw [hc] at h; cases h
    | ok a =>
      rw [hc] at h
      cases hcs : validateClauses cs (i + 1) with
      | error e =>
        simp only [hcs, bind, Except.bind] at h
        cases h
      | ok as' =>
        simp only [hcs, bind, Except.bind] at h
        cases h
        obtain ⟨rfl, hok⟩ := validateClause_ok hc
        obtain ⟨rfl, hall⟩ := ih hcs
        exact ⟨rfl, List.forall_mem_cons.mpr ⟨hok, hall⟩⟩

/-- An accepted rule has a clause, and every clause is well formed. -/
theorem validate_ok {rule : MatchingRule} {keys : List String}
    (h : validate rule = .ok keys) :
    rule.clauses ≠ [] ∧ (∀ c ∈ rule.clauses, ClauseOk c) ∧
      keys = (rule.clauses.map (fun c => c.attribute)).eraseDups := by
  unfold validate at h
  split at h
  · cases h
  split at h
  · cases h
  next hne =>
    cases hcs : validateClauses rule.clauses 0 with
    | error e => rw [hcs] at h; cases h
    | ok attrs =>
      rw [hcs] at h
      obtain ⟨rfl, hall⟩ := validateClauses_ok hcs
      cases h
      exact ⟨hne, hall, rfl⟩

end MatchingRuleValidator

end AccessService.UserGroups
