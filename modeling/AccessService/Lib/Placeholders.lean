/-
  AccessService.Lib.Placeholders

  The numbered parameters that stand in the text of a statement: what a scan of the text
  of a condition finds are the parameters that the condition has, in their order.
-/

import AccessService.Lib.SqlCondition
import Mathlib.Data.List.Range

namespace AccessService.Lib.Sql

-- ============================================================================
-- The scan
-- ============================================================================

/-- Every `$` of a text, with the digits that follow it. -/
def scan : List Char → List (List Char)
  | [] => []
  | c :: cs => if c = '$' then ('$' :: cs.takeWhile Char.isDigit) :: scan cs else scan cs

def placeholders (text : String) : List String := (scan text.toList).map String.ofList

/-- Text that carries no number on. -/
def Breaks (rest : List Char) : Prop := ∀ c ∈ rest.head?, c.isDigit = false

theorem scan_plain {cs rest : List Char} (h : '$' ∉ cs) : scan (cs ++ rest) = scan rest := by
  induction cs with
  | nil => rfl
  | cons c cs ih =>
    obtain ⟨hc, hcs⟩ := not_or.mp (mt List.mem_cons.mpr h)
    rw [List.cons_append, scan, if_neg fun heq => hc heq.symm, ih hcs]

theorem toList_param (k : Nat) : (SqlOperand.param k).toSql.toList = '$' :: Nat.toDigits 10 k := by
  rw [SqlOperand.toSql, String.toList_append]
  exact congrArg _ Nat.toList_repr

theorem scan_param (k : Nat) {rest : List Char} (h : Breaks rest) :
    scan ('$' :: (Nat.toDigits 10 k ++ rest)) = ('$' :: Nat.toDigits 10 k) :: scan rest := by
  have hdigits : ∀ c ∈ Nat.toDigits 10 k, c.isDigit = true := fun c hc =>
    Nat.isDigit_of_mem_toDigits (by decide) (by decide) hc
  have hrest : rest.takeWhile Char.isDigit = [] := by
    cases rest with
    | nil => rfl
    | cons c cs => exact List.takeWhile_cons_of_neg (by rw [h c rfl]; decide)
  have hplain : '$' ∉ Nat.toDigits 10 k := fun hmem => absurd (hdigits _ hmem) (by decide)
  rw [scan, if_pos rfl, List.takeWhile_append_of_pos hdigits, hrest, List.append_nil,
    scan_plain hplain]

-- ============================================================================
-- Conditions
-- ============================================================================

def SqlOperand.indices : SqlOperand → List Nat
  | .param index => [index]
  | .quoted _ | .number _ => []

/-- The parameters of a condition, from left to right. -/
def SqlCondition.indices {Col : Type} : SqlCondition Col → List Nat
  | .compare _ _ operand => operand.indices
  | .eqAny _ index => [index]
  | .isNull _ | .isNotNull _ => []
  | .not c => c.indices
  | .or c d | .and c d => c.indices ++ d.indices

/-- A literal has no `$`. -/
def SqlOperand.Plain : SqlOperand → Prop
  | .param _ => True
  | .quoted text | .number text => '$' ∉ text.toList

def SqlCondition.Plain {Col : Type} : SqlCondition Col → Prop
  | .compare _ _ operand => operand.Plain
  | .eqAny _ _ | .isNull _ | .isNotNull _ => True
  | .not c => c.Plain
  | .or c d | .and c d => c.Plain ∧ d.Plain

variable {Col : Type} {name : Col → String} {rest : List Char}

theorem breaks_nil : Breaks [] := fun _ h => absurd h (by simp)

theorem breaks_literal (text : String) (h : text.toList.head?.any (fun c => !c.isDigit) = true)
    (rest : List Char) : Breaks (text.toList ++ rest) := by
  obtain ⟨c, hc, hdigit⟩ := (Option.any_eq_true _ _).mp h
  intro d hd
  rw [List.head?_append, hc] at hd
  obtain rfl := Option.some.inj hd
  exact (Bool.not_eq_true' _).mp hdigit

/-- The parameters in text. -/
def paramTexts (indices : List Nat) : List (List Char) :=
  indices.map fun k => (SqlOperand.param k).toSql.toList

theorem scan_operand {operand : SqlOperand} (hplain : operand.Plain) (h : Breaks rest) :
    scan (operand.toSql.toList ++ rest) = paramTexts operand.indices ++ scan rest := by
  cases operand with
  | param k =>
    rw [toList_param, List.cons_append, scan_param k h]
    exact congrArg (· :: scan rest) (toList_param k).symm
  | quoted text =>
    have hquoted : '$' ∉ (SqlOperand.quoted text).toSql.toList := by
      have hmark : '$' ∉ "'".toList := by decide
      have htext : '$' ∉ text.toList := hplain
      simp only [SqlOperand.toSql, String.toList_append, List.mem_append, hmark, htext, or_self,
        not_false_eq_true]
    exact scan_plain hquoted
  | number text => exact scan_plain hplain

theorem symbol_plain (op : SqlCompare) : '$' ∉ op.symbol.toList := by
  cases op <;> decide

/-- A condition has its own parameters in its text, and no others. -/
theorem scan_toSql (hname : ∀ column, '$' ∉ (name column).toList) {c : SqlCondition Col}
    (hplain : c.Plain) (h : Breaks rest) :
    scan ((c.toSql name).toList ++ rest) = paramTexts c.indices ++ scan rest := by
  induction c generalizing rest with
  | compare column op operand =>
    simp only [SqlCondition.toSql, String.toList_append, List.append_assoc]
    rw [scan_plain (hname column), scan_plain (by decide), scan_plain (symbol_plain op),
      scan_plain (by decide), scan_operand hplain h]
    rfl
  | eqAny column index =>
    have hopen : " = ANY($".toList = " = ANY(".toList ++ ['$'] := by decide
    simp only [SqlCondition.toSql, String.toList_append, List.append_assoc, hopen]
    rw [scan_plain (hname column), scan_plain (by decide)]
    have hdigits : (toString index).toList = Nat.toDigits 10 index := Nat.toList_repr
    rw [hdigits, List.singleton_append, scan_param index (breaks_literal ")" (by decide) _),
      scan_plain (by decide)]
    exact congrArg (· :: scan rest) (toList_param index).symm
  | isNull column =>
    simp only [SqlCondition.toSql, String.toList_append, List.append_assoc]
    rw [scan_plain (hname column), scan_plain (by decide)]
    rfl
  | isNotNull column =>
    simp only [SqlCondition.toSql, String.toList_append, List.append_assoc]
    rw [scan_plain (hname column), scan_plain (by decide)]
    rfl
  | not c ih =>
    simp only [SqlCondition.toSql, String.toList_append, List.append_assoc]
    rw [scan_plain (by decide), ih hplain (breaks_literal ")" (by decide) _),
      scan_plain (by decide)]
    rfl
  | or c d ihc ihd =>
    simp only [SqlCondition.toSql, String.toList_append, List.append_assoc]
    rw [scan_plain (by decide), ihc hplain.1 (breaks_literal " OR " (by decide) _),
      scan_plain (by decide), ihd hplain.2 (breaks_literal ")" (by decide) _),
      scan_plain (by decide)]
    simp only [SqlCondition.indices, paramTexts, List.map_append, List.append_assoc]
  | and c d ihc ihd =>
    simp only [SqlCondition.toSql, String.toList_append, List.append_assoc]
    rw [ihc hplain.1 (breaks_literal " AND " (by decide) _), scan_plain (by decide),
      ihd hplain.2 h]
    simp only [SqlCondition.indices, paramTexts, List.map_append, List.append_assoc]

/-- A conjunction has the parameters of its conditions, one condition after the other. -/
theorem scan_conjunction (hname : ∀ column, '$' ∉ (name column).toList)
    {conditions : List (SqlCondition Col)} (hplain : ∀ c ∈ conditions, c.Plain) (h : Breaks rest) :
    scan ((" AND ".intercalate (conditions.map (SqlCondition.toSql name))).toList ++ rest) =
      paramTexts (conditions.flatMap SqlCondition.indices) ++ scan rest := by
  induction conditions with
  | nil => rfl
  | cons c cs ih =>
    obtain ⟨hc, hcs⟩ := List.forall_mem_cons.mp hplain
    cases cs with
    | nil =>
      rw [List.map_singleton, String.intercalate_singleton, scan_toSql hname hc h,
        List.flatMap_singleton]
    | cons d ds =>
      rw [List.map_cons, List.map_cons, String.intercalate_cons_cons, String.toList_append,
        String.toList_append, List.append_assoc, List.append_assoc,
        scan_toSql hname hc (breaks_literal " AND " (by decide) _), scan_plain (by decide),
        ← List.map_cons, ih hcs]
      show _ = paramTexts (c.indices ++ (d :: ds).flatMap SqlCondition.indices) ++ _
      simp only [paramTexts, List.map_append, List.append_assoc]

theorem ofList_paramTexts (indices : List Nat) :
    (paramTexts indices).map String.ofList = indices.map fun k => (SqlOperand.param k).toSql := by
  rw [paramTexts, List.map_map]
  exact List.map_congr_left fun k _ => String.ofList_toList

/-- The placeholders of a condition are its parameters. -/
theorem placeholders_toSql (hname : ∀ column, '$' ∉ (name column).toList) {c : SqlCondition Col}
    (hplain : c.Plain) :
    placeholders (c.toSql name) = c.indices.map fun k => (SqlOperand.param k).toSql := by
  rw [placeholders, ← List.append_nil (c.toSql name).toList, scan_toSql hname hplain breaks_nil,
    ← ofList_paramTexts]
  exact congrArg _ (List.append_nil _)

/-- Those of a conjunction after a text that has none. -/
theorem placeholders_conjunction (hname : ∀ column, '$' ∉ (name column).toList)
    {conditions : List (SqlCondition Col)} (hplain : ∀ c ∈ conditions, c.Plain) {before : String}
    (hbefore : '$' ∉ before.toList) :
    placeholders (before ++ " AND ".intercalate (conditions.map (SqlCondition.toSql name))) =
      (conditions.flatMap SqlCondition.indices).map fun k => (SqlOperand.param k).toSql := by
  rw [placeholders, String.toList_append, scan_plain hbefore,
    ← List.append_nil (String.toList (" AND ".intercalate _)),
    scan_conjunction hname hplain breaks_nil, ← ofList_paramTexts]
  exact congrArg _ (List.append_nil _)

theorem param_injective : Function.Injective fun k => (SqlOperand.param k).toSql := by
  intro j k h
  have hlists := congrArg String.toList h
  simp only [toList_param, List.cons.injEq, true_and] at hlists
  calc
    j = Nat.ofDigitChars 10 (Nat.toDigits 10 j) 0 := Nat.ofDigitChars_ten_toDigits.symm
    _ = Nat.ofDigitChars 10 (Nat.toDigits 10 k) 0 := by rw [hlists]
    _ = k := Nat.ofDigitChars_ten_toDigits

end AccessService.Lib.Sql
