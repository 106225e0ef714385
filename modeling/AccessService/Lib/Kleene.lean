/-
  AccessService.Lib.Kleene

  Kleene's strong three-valued logic on `Option Bool`, with `none` for the
  unknown value.  This is the logic of SQL conditions: a comparison with NULL
  is unknown, the connectives propagate unknowns, and only a condition that is
  *true* (neither false nor unknown) selects anything.
-/

import Mathlib.Data.List.Basic

namespace AccessService.Lib.Kleene

/-- A truth value; `none` is unknown. -/
abbrev Truth := Option Bool

/-- Negation keeps unknown. -/
def not3 : Truth → Truth
  | some b => some (!b)
  | none => none

/-- Conjunction: a false side decides, otherwise an unknown side wins. -/
def and3 : Truth → Truth → Truth
  | some false, _ => some false
  | _, some false => some false
  | some true, some true => some true
  | _, _ => none

/-- Disjunction: a true side decides, otherwise an unknown side wins. -/
def or3 : Truth → Truth → Truth
  | some true, _ => some true
  | _, some true => some true
  | some false, some false => some false
  | _, _ => none

/-- Conjunction of a list; the empty conjunction is true. -/
def all3 : List Truth → Truth := List.foldr and3 (some true)

/-- Disjunction of a list; the empty disjunction is false. -/
def any3 : List Truth → Truth := List.foldr or3 (some false)

@[simp] theorem not3_some (b : Bool) : not3 (some b) = some (!b) := rfl

@[simp] theorem not3_none : not3 none = none := rfl

@[simp] theorem and3_eq_true {a b : Truth} :
    and3 a b = some true ↔ a = some true ∧ b = some true := by
  rcases a with _ | _ | _ <;> rcases b with _ | _ | _ <;> simp [and3]

@[simp] theorem or3_eq_true {a b : Truth} :
    or3 a b = some true ↔ a = some true ∨ b = some true := by
  rcases a with _ | _ | _ <;> rcases b with _ | _ | _ <;> simp [or3]

@[simp] theorem or3_eq_false {a b : Truth} :
    or3 a b = some false ↔ a = some false ∧ b = some false := by
  rcases a with _ | _ | _ <;> rcases b with _ | _ | _ <;> simp [or3]

@[simp] theorem not3_eq_true {a : Truth} : not3 a = some true ↔ a = some false := by
  rcases a with _ | _ | _ <;> simp

@[simp] theorem all3_nil : all3 [] = some true := rfl

@[simp] theorem all3_cons (t : Truth) (ts : List Truth) :
    all3 (t :: ts) = and3 t (all3 ts) := rfl

@[simp] theorem any3_nil : any3 [] = some false := rfl

@[simp] theorem any3_cons (t : Truth) (ts : List Truth) :
    any3 (t :: ts) = or3 t (any3 ts) := rfl

/-- A disjunction is true exactly when some disjunct is. -/
theorem any3_eq_true {ts : List Truth} :
    any3 ts = some true ↔ some true ∈ ts := by
  induction ts with
  | nil => simp
  | cons t ts ih => simp [ih, @eq_comm _ (some true) t]

/-- A disjunction is false exactly when every disjunct is. -/
theorem any3_eq_false {ts : List Truth} :
    any3 ts = some false ↔ ∀ t ∈ ts, t = some false := by
  induction ts with
  | nil => simp
  | cons t ts ih => simp [ih]

end AccessService.Lib.Kleene
