/-
  AccessService.Js.Value

  The JavaScript scalars a matching rule and an employee record are made of,
  and the three coercions the matching engine applies to them: `String(v)`,
  `Number(v)` and `Boolean(v)`.

  `Number` of a string follows the ECMAScript string-to-number grammar: white
  space is trimmed, the empty string is zero, hexadecimal, octal and binary
  literals are read, and a decimal literal is rounded to the nearest binary64
  value, ties to even.
-/

import Mathlib.Data.Int.Log
import Mathlib.Data.List.DropRight
import Mathlib.Data.Rat.Floor

namespace AccessService.Js

-- ============================================================================
-- Numbers
-- ============================================================================

/-- A JavaScript number.  Finite values are exact rationals (the sign of zero
    is not observable by the operators used here). -/
inductive JsNumber where
  | nan
  | negInf
  | posInf
  | fin (q : ℚ)
  deriving DecidableEq

/-- `a < b` on numbers; every comparison with `NaN` is false. -/
def JsNumber.lt : JsNumber → JsNumber → Bool
  | .nan, _ => false
  | _, .nan => false
  | .negInf, .negInf => false
  | .negInf, _ => true
  | _, .negInf => false
  | .posInf, _ => false
  | .fin _, .posInf => true
  | .fin p, .fin q => decide (p < q)

/-- `a <= b` on numbers; every comparison with `NaN` is false. -/
def JsNumber.le : JsNumber → JsNumber → Bool
  | .nan, _ => false
  | _, .nan => false
  | .negInf, _ => true
  | _, .posInf => true
  | .posInf, _ => false
  | _, .negInf => false
  | .fin p, .fin q => decide (p ≤ q)

/-- Nearest integer, ties to even. -/
def roundHalfEven (q : ℚ) : ℤ :=
  let f := ⌊q⌋
  let r := q - f
  if r < 1 / 2 then f
  else if 1 / 2 < r then f + 1
  else if f % 2 = 0 then f
  else f + 1

/-- The binary64 value nearest to `q`: 53 significant bits, exponents down to
    the subnormal range, infinity from `2 ^ 1024` on. -/
def toDouble (q : ℚ) : JsNumber :=
  if q = 0 then .fin 0
  else
    let e : ℤ := max (Int.log 2 |q| - 52) (-1074)
    let r : ℚ := roundHalfEven (|q| / 2 ^ e) * 2 ^ e
    if 2 ^ (1024 : ℤ) ≤ r then (if q < 0 then .negInf else .posInf)
    else .fin (if q < 0 then -r else r)

-- ============================================================================
-- StringToNumber
-- ============================================================================

/-- ECMAScript `WhiteSpace` and `LineTerminator`. -/
def isStrWhiteSpace (c : Char) : Bool :=
  let n := c.toNat
  (0x9 ≤ n && n ≤ 0xD) || n == 0x20 || n == 0xA0 || n == 0xFEFF || n == 0x1680 ||
    (0x2000 ≤ n && n ≤ 0x200A) || n == 0x2028 || n == 0x2029 || n == 0x202F ||
    n == 0x205F || n == 0x3000

def trimWhiteSpace (cs : List Char) : List Char :=
  ((cs.dropWhile isStrWhiteSpace).reverse.dropWhile isStrWhiteSpace).reverse

/-- The value of a digit character in radix at most 16. -/
def digitValue (c : Char) : Option Nat :=
  if '0' ≤ c ∧ c ≤ '9' then some (c.toNat - '0'.toNat)
  else if 'a' ≤ c ∧ c ≤ 'f' then some (c.toNat - 'a'.toNat + 10)
  else if 'A' ≤ c ∧ c ≤ 'F' then some (c.toNat - 'A'.toNat + 10)
  else none

/-- A non-empty run of digits in the given radix, read as a number. -/
def readDigits (radix : Nat) : List Char → Option Nat
  | [] => none
  | cs =>
    cs.foldl
      (fun acc c =>
        match acc, digitValue c with
        | some n, some d => if d < radix then some (n * radix + d) else none
        | _, _ => none)
      (some 0)

/-- The `ExponentPart` that may end a decimal literal. -/
def readExponent : List Char → Option Int
  | [] => some 0
  | c :: cs =>
    if c = 'e' ∨ c = 'E' then
      match cs with
      | '+' :: ds => (readDigits 10 ds).map Int.ofNat
      | '-' :: ds => (readDigits 10 ds).map fun n => -Int.ofNat n
      | ds => (readDigits 10 ds).map Int.ofNat
    else none

/-- `StrUnsignedDecimalLiteral`: `Infinity`, or digits with an optional point
    and exponent, rounded to a binary64 value. -/
def readUnsignedDecimal (cs : List Char) : JsNumber :=
  if cs = "Infinity".toList then .posInf
  else
    let whole := cs.takeWhile Char.isDigit
    let rest := cs.dropWhile Char.isDigit
    let (frac, rest) :=
      match rest with
      | '.' :: r => (r.takeWhile Char.isDigit, r.dropWhile Char.isDigit)
      | r => ([], r)
    match readDigits 10 (whole ++ frac), readExponent rest with
    | some m, some e => toDouble (m * 10 ^ (e - frac.length))
    | _, _ => .nan

def JsNumber.neg : JsNumber → JsNumber
  | .nan => .nan
  | .negInf => .posInf
  | .posInf => .negInf
  | .fin q => .fin (-q)

/-- `Number(s)` of a string. -/
def stringToNumber (s : String) : JsNumber :=
  let radixLiteral (radix : Nat) (ds : List Char) : JsNumber :=
    match readDigits radix ds with
    | some n => toDouble n
    | none => .nan
  match trimWhiteSpace s.toList with
  | [] => .fin 0
  | '0' :: 'x' :: ds | '0' :: 'X' :: ds => radixLiteral 16 ds
  | '0' :: 'o' :: ds | '0' :: 'O' :: ds => radixLiteral 8 ds
  | '0' :: 'b' :: ds | '0' :: 'B' :: ds => radixLiteral 2 ds
  | '+' :: cs => readUnsignedDecimal cs
  | '-' :: cs => (readUnsignedDecimal cs).neg
  | cs => readUnsignedDecimal cs

/-- `parseInt(s, 10)`: the digits after white space and a sign, whatever follows them. -/
def parseInt (s : String) : JsNumber :=
  let read (ds : List Char) : JsNumber :=
    match readDigits 10 (ds.takeWhile Char.isDigit) with
    | some n => toDouble n
    | none => .nan
  match s.toList.dropWhile isStrWhiteSpace with
  | '+' :: cs => read cs
  | '-' :: cs => (read cs).neg
  | cs => read cs

-- ============================================================================
-- Values and coercions
-- ============================================================================

/-- An integer that binary64 holds exactly (`Number.isSafeInteger`), so that
    its decimal text and its numeric value are those of the integer. -/
structure SafeInteger where
  val : ℤ
  isSafe : |val| < 2 ^ 53
  deriving DecidableEq

theorem SafeInteger.one_isSafe : |(1 : ℤ)| < 2 ^ 53 := by decide

theorem SafeInteger.two_isSafe : |(2 : ℤ)| < 2 ^ 53 := by decide

/-- A scalar of a matching rule or of an employee record. -/
inductive JsValue where
  | undefined
  | null
  | bool (b : Bool)
  | num (n : SafeInteger)
  | str (s : String)
  deriving DecidableEq

/-- `String(v)`. -/
def JsValue.toText : JsValue → String
  | .undefined => "undefined"
  | .null => "null"
  | .bool true => "true"
  | .bool false => "false"
  | .num n => toString n.val
  | .str s => s

/-- `Number(v)`. -/
def JsValue.toNumber : JsValue → JsNumber
  | .undefined => .nan
  | .null => .fin 0
  | .bool true => .fin 1
  | .bool false => .fin 0
  | .num n => .fin n.val
  | .str s => stringToNumber s

/-- `Boolean(v)`. -/
def JsValue.toBoolean : JsValue → Bool
  | .undefined | .null => false
  | .bool b => b
  | .num n => n.val ≠ 0
  | .str s => s ≠ ""

/-- `v !== null && v !== undefined`. -/
def JsValue.isPresent : JsValue → Bool
  | .undefined | .null => false
  | _ => true

/-- `s.toLowerCase()`.  No character outside ASCII lowers into the operator or
    combinator names it is compared with, so ASCII lowering is exact there. -/
def toLowerCase (s : String) : String := String.ofList (s.toList.map Char.toLower)

/-- `s.split(separator)`, for a separator of one character. -/
def split (s : String) (separator : Char) : List String :=
  (s.toList.splitOn separator).map String.ofList

/-- `s.trim()`. -/
def trim (s : String) : String := String.ofList (trimWhiteSpace s.toList)

theorem trimWhiteSpace_trimWhiteSpace (cs : List Char) :
    trimWhiteSpace (trimWhiteSpace cs) = trimWhiteSpace cs := by
  let trimmed := cs.dropWhile isStrWhiteSpace
  have hstart : (trimmed.rdropWhile isStrWhiteSpace).dropWhile isStrWhiteSpace =
      trimmed.rdropWhile isStrWhiteSpace := by
    rw [List.dropWhile_eq_self_iff]
    intro hlength
    have hinitial := List.rdropWhile_prefix isStrWhiteSpace trimmed
    rw [hinitial.getElem hlength]
    exact List.dropWhile_get_zero_not _ _ (hlength.trans_le hinitial.length_le)
  show ((trimmed.rdropWhile isStrWhiteSpace).dropWhile isStrWhiteSpace).rdropWhile
    isStrWhiteSpace = trimmed.rdropWhile isStrWhiteSpace
  rw [hstart]
  exact List.rdropWhile_idempotent _ _

@[simp] theorem trim_trim (s : String) : trim (trim s) = trim s := by
  rw [trim, trim, String.toList_ofList, trimWhiteSpace_trimWhiteSpace]

theorem split_of_notMem {s : String} {separator : Char} (h : separator ∉ s.toList) :
    split s separator = [s] := by
  rw [split, List.splitOn_eq_singleton h, List.map_singleton, String.ofList_toList]

theorem split_append {s : String} {separator : Char} (h : separator ∉ s.toList) (rest : String) :
    split (s ++ (String.ofList [separator] ++ rest)) separator = s :: split rest separator := by
  have htext : (s ++ (String.ofList [separator] ++ rest)).toList =
      s.toList ++ separator :: rest.toList := by simp
  rw [split, htext, List.splitOn_append_cons_self_of_not_mem h, List.map_cons,
    String.ofList_toList, split]

@[simp] theorem JsNumber.lt_fin (p q : ℚ) :
    JsNumber.lt (.fin p) (.fin q) = decide (p < q) := rfl

@[simp] theorem JsNumber.le_fin (p q : ℚ) :
    JsNumber.le (.fin p) (.fin q) = decide (p ≤ q) := rfl

@[simp] theorem JsNumber.lt_irrefl (x : JsNumber) : JsNumber.lt x x = false := by
  cases x with
  | fin q => simp
  | _ => rfl

@[simp] theorem JsNumber.lt_nan_left (x : JsNumber) : JsNumber.lt .nan x = false := by
  cases x <;> rfl

@[simp] theorem JsNumber.lt_nan_right (x : JsNumber) : JsNumber.lt x .nan = false := by
  cases x <;> rfl

@[simp] theorem JsNumber.le_nan_left (x : JsNumber) : JsNumber.le .nan x = false := by
  cases x <;> rfl

@[simp] theorem JsNumber.le_nan_right (x : JsNumber) : JsNumber.le x .nan = false := by
  cases x <;> rfl

end AccessService.Js
