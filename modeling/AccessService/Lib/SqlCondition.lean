/-
  AccessService.Lib.SqlCondition

  Parameterised SQL conditions over the columns of one table: their text and
  their value on a row.

  A column has a type with an input function (text to value, which may reject
  the text) and an order.  A literal or a parameter compared with a column is
  read by that column's input function, so a text that the type rejects makes
  the statement fail, whatever the row.  Conditions combine in three-valued
  logic, and a row is selected only by a condition that is true.
-/

import AccessService.Lib.Kleene
import Mathlib.Data.List.Forall2

namespace AccessService.Lib.Sql

open AccessService.Lib.Kleene

-- ============================================================================
-- Column types, parameters and conditions
-- ============================================================================

/-- A column type over the values `α`. -/
structure SqlType (α : Type) where
  /-- The input function; `none` is `invalid input syntax` or out of range. -/
  input : String → Option α
  /-- The strict order behind `<`, `>`, `<=` and `>=`. -/
  less : α → α → Bool

inductive SqlError where
  | invalidInput (text : String)
  | noSuchParameter (index : Nat)
  deriving DecidableEq

/-- A bound parameter, as text: a value or an array of values, with `none` for
    NULL. -/
inductive SqlParam where
  | scalar (text : Option String)
  | array (texts : List (Option String))
  deriving DecidableEq

inductive SqlCompare where
  | eq
  | ne
  | gt
  | ge
  | lt
  | le
  deriving DecidableEq

def SqlCompare.symbol : SqlCompare → String
  | .eq => "="
  | .ne => "!="
  | .gt => ">"
  | .ge => ">="
  | .lt => "<"
  | .le => "<="

/-- What a column is compared with: parameter `$k`, a quoted literal, or a
    numeric literal. -/
inductive SqlOperand where
  | param (index : Nat)
  | quoted (text : String)
  | number (text : String)
  deriving DecidableEq

inductive SqlCondition (Col : Type) where
  | compare (column : Col) (op : SqlCompare) (operand : SqlOperand)
  | eqAny (column : Col) (index : Nat)
  | isNull (column : Col)
  | isNotNull (column : Col)
  | not (c : SqlCondition Col)
  | or (c d : SqlCondition Col)
  | and (c d : SqlCondition Col)
  deriving DecidableEq

-- ============================================================================
-- Text
-- ============================================================================

def SqlOperand.toSql : SqlOperand → String
  | .param index => "$" ++ toString index
  | .quoted text => "'" ++ text ++ "'"
  | .number text => text

/-- The text of a condition.  A disjunction and a negated condition are
    parenthesised, a conjunction is not. -/
def SqlCondition.toSql {Col : Type} (name : Col → String) : SqlCondition Col → String
  | .compare column op operand =>
    name column ++ " " ++ op.symbol ++ " " ++ operand.toSql
  | .eqAny column index => name column ++ " = ANY($" ++ toString index ++ ")"
  | .isNull column => name column ++ " IS NULL"
  | .isNotNull column => name column ++ " IS NOT NULL"
  | .not c => "NOT (" ++ c.toSql name ++ ")"
  | .or c d => "(" ++ c.toSql name ++ " OR " ++ d.toSql name ++ ")"
  | .and c d => c.toSql name ++ " AND " ++ d.toSql name

-- ============================================================================
-- Value
-- ============================================================================

section Value

variable {α : Type} [DecidableEq α] (T : SqlType α)

/-- Read one text at a column type. -/
def SqlType.read : Option String → Except SqlError (Option α)
  | none => .ok none
  | some text =>
    match T.input text with
    | some a => .ok (some a)
    | none => .error (.invalidInput text)

/-- `a op b` on values that are not NULL. -/
def SqlType.compare (op : SqlCompare) (a b : α) : Bool :=
  match op with
  | .eq => a = b
  | .ne => a ≠ b
  | .gt => T.less b a
  | .ge => !T.less a b
  | .lt => T.less a b
  | .le => !T.less b a

/-- `a op b`, unknown when a side is NULL. -/
def SqlType.compare3 (op : SqlCompare) : Option α → Option α → Truth
  | some a, some b => some (T.compare op a b)
  | _, _ => none

end Value

section Eval

variable {Col : Type} {Dat : Col → Type} [∀ c, DecidableEq (Dat c)]
variable (types : ∀ c, SqlType (Dat c)) (params : List SqlParam) (row : ∀ c, Option (Dat c))

/-- Parameter `$index`, counted from one. -/
def lookupParam (index : Nat) : Except SqlError SqlParam :=
  match params[index - 1]? with
  | some p => .ok p
  | none => .error (.noSuchParameter index)

/-- The value of an operand compared with column `c`.  An array bound where a
    value is expected has no reading here. -/
def readOperand (c : Col) : SqlOperand → Except SqlError (Option (Dat c))
  | .param index => do
    match ← lookupParam params index with
    | .scalar text => (types c).read text
    | .array _ => .error (.noSuchParameter index)
  | .quoted text => (types c).read (some text)
  | .number text => (types c).read (some text)

/-- The elements of the array parameter `$index`, read at the type of column
    `c`; one bad element fails the whole array. -/
def readArray (c : Col) (index : Nat) : Except SqlError (List (Option (Dat c))) := do
  match ← lookupParam params index with
  | .scalar _ => .error (.noSuchParameter index)
  | .array texts => texts.mapM (types c).read

/-- The truth value of a condition on a row, or the error that fails the
    statement. -/
def SqlCondition.eval : SqlCondition Col → Except SqlError Truth
  | .compare c op operand => do
    let b ← readOperand types params c operand
    return (types c).compare3 op (row c) b
  | .eqAny c index => do
    let bs ← readArray types params c index
    return any3 (bs.map ((types c).compare3 .eq (row c)))
  | .isNull c => .ok (some (row c).isNone)
  | .isNotNull c => .ok (some (row c).isSome)
  | .not a => do return not3 (← a.eval)
  | .or a b => do
    let x ← a.eval
    let y ← b.eval
    return or3 x y
  | .and a b => do
    let x ← a.eval
    let y ← b.eval
    return and3 x y

/-- The WHERE clause of a conjunction: the row is selected when the statement
    does not fail and every condition is true. -/
def whereValue (conditions : List (SqlCondition Col)) : Except SqlError Truth := do
  let ts ← conditions.mapM (SqlCondition.eval types params row)
  return all3 ts

def Selects (conditions : List (SqlCondition Col)) : Prop :=
  whereValue types params row conditions = .ok (some true)

instance (conditions : List (SqlCondition Col)) :
    Decidable (Selects types params row conditions) :=
  inferInstanceAs (Decidable (_ = _))

end Eval

-- ============================================================================
-- When a condition selects
-- ============================================================================

theorem bind_eq_ok {ε α β : Type} {x : Except ε α} {f : α → Except ε β} {b : β} :
    (x >>= f) = .ok b ↔ ∃ a, x = .ok a ∧ f a = .ok b := by
  cases x with
  | error e => simp [bind, Except.bind]
  | ok a => simp [bind, Except.bind]

theorem map_eq_ok {ε α β : Type} {x : Except ε α} {f : α → β} {b : β} :
    x.map f = .ok b ↔ ∃ a, x = .ok a ∧ f a = b := by
  cases x with
  | error e => simp [Except.map]
  | ok a => simp [Except.map]

theorem pure_eq_ok {ε α : Type} {a b : α} : (pure a : Except ε α) = .ok b ↔ a = b :=
  Except.ok.injEq a b |>.to_iff

theorem mapM_eq_ok {ε α β : Type} {f : α → Except ε β} {as : List α} {bs : List β} :
    as.mapM f = .ok bs ↔ List.Forall₂ (fun a b => f a = .ok b) as bs := by
  induction as generalizing bs with
  | nil =>
    cases bs with
    | nil => simp [pure, Except.pure]
    | cons b bs =>
      constructor
      · intro h; cases h
      · intro h; cases h
  | cons a as ih =>
    simp only [List.mapM_cons, bind_eq_ok, ih]
    constructor
    · rintro ⟨b, hb, bs', hbs, h⟩
      cases h
      exact .cons hb hbs
    · intro h
      cases h with
      | cons hb hbs => exact ⟨_, hb, _, hbs, rfl⟩

theorem mapM_eq_ok_map {ε α β : Type} {f : α → Except ε β} {as : List α} {bs : List β} :
    as.mapM f = .ok bs ↔ as.map f = bs.map .ok := by
  rw [mapM_eq_ok, ← List.forall₂_eq_eq_eq, List.forall₂_map_left_iff,
    List.forall₂_map_right_iff]

/-- A left inverse of `f` leads back from the results. -/
theorem map_inverse {ε α β : Type} {f : α → Except ε β} {g : β → α} {as : List α}
    {bs : List β} (h : as.map f = bs.map .ok)
    (hg : ∀ a ∈ as, ∀ b, f a = .ok b → g b = a) : bs.map g = as := by
  induction bs generalizing as with
  | nil => exact (List.map_eq_nil_iff.mp h).symm
  | cons b bs ih =>
    obtain ⟨a, as', rfl, hb, hbs⟩ := List.map_eq_cons_iff.mp h
    rw [List.map_cons, hg a List.mem_cons_self b hb,
      ih hbs fun a' ha' => hg a' (List.mem_cons_of_mem _ ha')]

section Selects

variable {Col : Type} {Dat : Col → Type} [∀ c, DecidableEq (Dat c)]
variable {types : ∀ c, SqlType (Dat c)} {params : List SqlParam} {row : ∀ c, Option (Dat c)}

/-- A row is selected exactly when every condition evaluates to true. -/
theorem selects_iff {conditions : List (SqlCondition Col)} :
    Selects types params row conditions ↔
      ∀ c ∈ conditions, c.eval types params row = .ok (some true) := by
  simp only [Selects, whereValue, bind_eq_ok, mapM_eq_ok, pure_eq_ok]
  induction conditions with
  | nil => simp
  | cons c cs ih =>
    rw [List.forall_mem_cons, ← ih]
    constructor
    · rintro ⟨ts, hts, h⟩
      cases hts with
      | cons hc hcs =>
        obtain ⟨rfl, hall⟩ := and3_eq_true.mp h
        exact ⟨hc, _, hcs, hall⟩
    · rintro ⟨hc, ts, hts, h⟩
      exact ⟨some true :: ts, .cons hc hts, and3_eq_true.mpr ⟨rfl, h⟩⟩

/-- The condition's operand reads as the text `t`. -/
def OperandIs (params : List SqlParam) : SqlOperand → String → Prop
  | .param index, t => lookupParam params index = .ok (.scalar (some t))
  | .quoted text, t => text = t
  | .number text, t => text = t

omit [∀ c, DecidableEq (Dat c)] in
theorem readOperand_of_is {c : Col} {operand : SqlOperand} {t : String}
    (h : OperandIs params operand t) :
    readOperand types params c operand = (types c).read (some t) := by
  cases operand with
  | param index =>
    simp only [OperandIs] at h
    simp only [readOperand, h]
    rfl
  | quoted text => cases h; rfl
  | number text => cases h; rfl

theorem read_eq_ok {α : Type} {T : SqlType α} {t : String} {b : Option α} :
    T.read (some t) = .ok b ↔ ∃ a, T.input t = some a ∧ b = some a := by
  cases h : T.input t with
  | none => simp [SqlType.read, h]
  | some a => simp [SqlType.read, h, eq_comm]

theorem mapM_read_eq_ok {α : Type} {T : SqlType α} {ts : List String} {bs : List (Option α)} :
    (ts.map some).mapM T.read = .ok bs ↔
      (∀ t ∈ ts, (T.input t).isSome) ∧ bs = ts.map T.input := by
  induction ts generalizing bs with
  | nil =>
    have hnil : (pure [] : Except SqlError (List (Option α))) = .ok bs ↔ bs = [] := by
      rw [pure_eq_ok]
      exact eq_comm
    simpa using hnil
  | cons t ts ih =>
    simp only [List.map_cons, List.mapM_cons, bind_eq_ok, ih, read_eq_ok, List.forall_mem_cons]
    constructor
    · rintro ⟨b, ⟨a, ha, rfl⟩, bs', ⟨hall, rfl⟩, h⟩
      cases h
      exact ⟨⟨by simp [ha], hall⟩, by simp [ha]⟩
    · rintro ⟨⟨ht, hall⟩, rfl⟩
      obtain ⟨a, ha⟩ := Option.isSome_iff_exists.mp ht
      exact ⟨some a, ⟨a, ha, rfl⟩, _, ⟨hall, rfl⟩, by simp [ha, pure, Except.pure]⟩

/-- `column op operand` selects when both sides are values in that relation. -/
theorem eval_compare_true {c : Col} {op : SqlCompare} {operand : SqlOperand} {t : String}
    (h : OperandIs params operand t) :
    (SqlCondition.compare c op operand).eval types params row = .ok (some true) ↔
      ∃ a b, row c = some a ∧ (types c).input t = some b ∧ (types c).compare op a b = true := by
  simp only [SqlCondition.eval, readOperand_of_is h, bind_eq_ok, read_eq_ok, pure_eq_ok]
  constructor
  · rintro ⟨_, ⟨b, hb, rfl⟩, hok⟩
    cases hrow : row c with
    | none => rw [hrow] at hok; cases hok
    | some a =>
      rw [hrow] at hok
      exact ⟨a, b, rfl, hb, by simpa [SqlType.compare3] using hok⟩
  · rintro ⟨a, b, hrow, hb, hop⟩
    exact ⟨some b, ⟨b, hb, rfl⟩, by simp [SqlType.compare3, hrow, hop]⟩

/-- `(column IS NULL OR column != operand)` selects when the operand is a value
    other than the column's. -/
theorem eval_isNull_or_ne_true {c : Col} {operand : SqlOperand} {t : String}
    (h : OperandIs params operand t) :
    (SqlCondition.or (.isNull c) (.compare c .ne operand)).eval types params row =
        .ok (some true) ↔
      ∃ b, (types c).input t = some b ∧ row c ≠ some b := by
  simp only [SqlCondition.eval, readOperand_of_is h, bind_eq_ok, read_eq_ok, pure_eq_ok]
  constructor
  · rintro ⟨_, hnull, _, ⟨_, ⟨b, hb, rfl⟩, rfl⟩, hor⟩
    refine ⟨b, hb, ?_⟩
    rintro hrow
    cases hnull
    simp [hrow, SqlType.compare3, SqlType.compare] at hor
  · rintro ⟨b, hb, hne⟩
    refine ⟨_, rfl, _, ⟨_, ⟨b, hb, rfl⟩, rfl⟩, ?_⟩
    cases hrow : row c with
    | none => simp
    | some a =>
      have hab : a ≠ b := fun hab => hne (by rw [hrow, hab])
      simp [SqlType.compare3, SqlType.compare, hab]

theorem any3_compare3_eq_true {α : Type} [DecidableEq α] {T : SqlType α} {stored : Option α}
    {ts : List String} (h : ∀ t ∈ ts, (T.input t).isSome) :
    any3 ((ts.map T.input).map (T.compare3 .eq stored)) = some true ↔
      ∃ a, stored = some a ∧ ∃ t ∈ ts, T.input t = some a := by
  rw [any3_eq_true]
  simp only [List.map_map, List.mem_map, Function.comp]
  constructor
  · rintro ⟨t, ht, heq⟩
    obtain ⟨b, hb⟩ := Option.isSome_iff_exists.mp (h t ht)
    cases stored with
    | none => simp [SqlType.compare3] at heq
    | some a =>
      obtain rfl : a = b := by simpa [SqlType.compare3, SqlType.compare, hb] using heq
      exact ⟨a, rfl, t, ht, hb⟩
  · rintro ⟨a, rfl, t, ht, ha⟩
    exact ⟨t, ht, by simp [SqlType.compare3, SqlType.compare, ha]⟩

theorem any3_compare3_eq_false {α : Type} [DecidableEq α] {T : SqlType α} {stored : α}
    {ts : List String} (h : ∀ t ∈ ts, (T.input t).isSome) :
    any3 ((ts.map T.input).map (T.compare3 .eq (some stored))) = some false ↔
      ¬∃ t ∈ ts, T.input t = some stored := by
  rw [any3_eq_false]
  simp only [List.map_map, List.mem_map, Function.comp]
  constructor
  · rintro hall ⟨t, ht, hin⟩
    have hfalse := hall _ ⟨t, ht, rfl⟩
    simp [SqlType.compare3, SqlType.compare, hin] at hfalse
  · rintro hnone _ ⟨t, ht, rfl⟩
    obtain ⟨b, hb⟩ := Option.isSome_iff_exists.mp (h t ht)
    have hne : stored ≠ b := fun hab => hnone ⟨t, ht, by rw [hb, hab]⟩
    simp [SqlType.compare3, SqlType.compare, hb, hne]

/-- `column = ANY($index)` selects when every element reads and one of them is
    the column's value. -/
theorem eval_eqAny_true {c : Col} {index : Nat} {ts : List String}
    (h : lookupParam params index = .ok (.array (ts.map some))) :
    (SqlCondition.eqAny c index).eval types params row = .ok (some true) ↔
      (∀ t ∈ ts, ((types c).input t).isSome) ∧
        ∃ a, row c = some a ∧ ∃ t ∈ ts, (types c).input t = some a := by
  have hread : readArray types params c index = (ts.map some).mapM (types c).read := by
    simp only [readArray, h]
    rfl
  simp only [SqlCondition.eval, hread, bind_eq_ok, mapM_read_eq_ok, pure_eq_ok]
  constructor
  · rintro ⟨_, ⟨hall, rfl⟩, hany⟩
    exact ⟨hall, (any3_compare3_eq_true hall).mp hany⟩
  · rintro ⟨hall, hex⟩
    exact ⟨_, ⟨hall, rfl⟩, (any3_compare3_eq_true hall).mpr hex⟩

/-- `(column IS NULL OR NOT (column = ANY($index)))` selects when every element
    reads and none of them is the column's value. -/
theorem eval_isNull_or_not_eqAny_true {c : Col} {index : Nat} {ts : List String}
    (h : lookupParam params index = .ok (.array (ts.map some))) :
    (SqlCondition.or (.isNull c) (.not (.eqAny c index))).eval types params row =
        .ok (some true) ↔
      (∀ t ∈ ts, ((types c).input t).isSome) ∧
        ¬∃ a, row c = some a ∧ ∃ t ∈ ts, (types c).input t = some a := by
  have hread : readArray types params c index = (ts.map some).mapM (types c).read := by
    simp only [readArray, h]
    rfl
  simp only [SqlCondition.eval, hread, bind_eq_ok, mapM_read_eq_ok, pure_eq_ok]
  constructor
  · rintro ⟨_, hnull, _, ⟨_, ⟨_, ⟨hall, rfl⟩, rfl⟩, rfl⟩, hor⟩
    refine ⟨hall, ?_⟩
    rintro ⟨a, hrow, hex⟩
    cases hnull
    have hany : any3 ((ts.map (types c).input).map ((types c).compare3 .eq (row c))) =
        some true := (any3_compare3_eq_true hall).mpr ⟨a, hrow, hex⟩
    rw [hany] at hor
    simp [hrow] at hor
  · rintro ⟨hall, hnone⟩
    refine ⟨_, rfl, _, ⟨_, ⟨_, ⟨hall, rfl⟩, rfl⟩, rfl⟩, ?_⟩
    cases hrow : row c with
    | none => simp
    | some a =>
      have hfalse : ¬∃ t ∈ ts, (types c).input t = some a := fun hex =>
        hnone ⟨a, hrow, hex⟩
      rw [(any3_compare3_eq_false hall).mpr hfalse]
      simp

/-- `column IS NOT NULL AND column != operand` selects when both sides are
    values and they differ. -/
theorem eval_isNotNull_and_ne_true {c : Col} {operand : SqlOperand} {t : String}
    (h : OperandIs params operand t) :
    (SqlCondition.and (.isNotNull c) (.compare c .ne operand)).eval types params row =
        .ok (some true) ↔
      ∃ a b, row c = some a ∧ (types c).input t = some b ∧ a ≠ b := by
  have hcmp : (SqlCondition.compare c .ne operand).eval types params row = .ok (some true) ↔ _ :=
    eval_compare_true h
  simp only [SqlCondition.eval] at hcmp ⊢
  rw [bind_eq_ok] at hcmp
  simp only [bind_eq_ok, pure_eq_ok] at hcmp ⊢
  constructor
  · rintro ⟨_, hnn, y, hy, hand⟩
    obtain ⟨-, rfl⟩ : _ ∧ y = some true := by simpa using hand
    simpa [SqlType.compare] using hcmp.mp hy
  · rintro ⟨a, b, hrow, hb, hne⟩
    refine ⟨_, rfl, some true, hcmp.mpr ⟨a, b, hrow, hb, by simpa [SqlType.compare]⟩, ?_⟩
    simp [hrow]

end Selects

end AccessService.Lib.Sql
