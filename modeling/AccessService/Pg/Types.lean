/-
  AccessService.Pg.Types

  The Postgres column types the modelled tables use: UUID, INTEGER and the
  character types.
-/

import AccessService.Js.Value
import AccessService.Lib.SqlCondition
import Std.Data.String.ToInt

namespace AccessService.Pg

open AccessService.Js AccessService.Lib.Sql

-- ============================================================================
-- UUID
-- ============================================================================

/-- One character of the text of a UUID: dashes at 8, 13, 18 and 23, lower-case
    hexadecimal digits elsewhere. -/
def isUuidChar (i : Nat) (c : Char) : Bool :=
  if i = 8 ∨ i = 13 ∨ i = 18 ∨ i = 23 then c = '-'
  else ('0' ≤ c && c ≤ '9') || ('a' ≤ c && c ≤ 'f')

def isUuidText (s : String) : Bool :=
  s.toList.length = 36 && s.toList.zipIdx.all fun (c, i) => isUuidChar i c

/-- A UUID, by the text Postgres prints for it. -/
structure Uuid where
  text : String
  isUuid : isUuidText text = true
  deriving DecidableEq

@[ext] theorem Uuid.ext {u v : Uuid} (h : u.text = v.text) : u = v := by
  cases u
  cases v
  congr

/-- No UUID has a colon in its text. -/
theorem Uuid.colon_notMem (u : Uuid) : ':' ∉ u.text.toList := by
  intro hmem
  obtain ⟨i, hi⟩ := List.mem_iff_getElem?.mp hmem
  have hall := u.isUuid
  simp only [isUuidText, Bool.and_eq_true, List.all_eq_true] at hall
  have hchar := hall.2 (':', i) (List.mem_zipIdx_iff_getElem?.mpr hi)
  have hbad : isUuidChar i ':' = false := by
    unfold isUuidChar
    split <;> decide
  rw [hbad] at hchar
  cases hchar

/-- Nor has a text that is one in lower case. -/
theorem colon_notMem_of_toLower {text : String} (h : isUuidText text.toLower = true) :
    ':' ∉ text.toList := by
  intro hmem
  refine Uuid.colon_notMem ⟨_, h⟩ ?_
  show ':' ∈ (String.map Char.toLower text).toList
  rw [String.toList_map]
  exact List.mem_map.mpr ⟨':', hmem, by decide⟩

/-- What a UUID column makes of a text it is given.  It reads what it prints; it
    also takes other spellings (capitals, braces, missing dashes). -/
structure UuidInput where
  input : String → Option Uuid
  input_text : ∀ u : Uuid, input u.text = some u

/-- The input that takes the printed spelling only. -/
def UuidInput.strict : UuidInput where
  input s := if h : isUuidText s = true then some ⟨s, h⟩ else none
  input_text u := dif_pos u.isUuid

-- ============================================================================
-- INTEGER
-- ============================================================================

/-- A value of type INTEGER. -/
structure Int4 where
  val : ℤ
  lower : -2 ^ 31 ≤ val
  upper : val < 2 ^ 31
  deriving DecidableEq

theorem Int4.lower_zero : -2 ^ 31 ≤ (0 : ℤ) := by decide

theorem Int4.zero_upper : (0 : ℤ) < 2 ^ 31 := by decide

@[ext] theorem Int4.ext {m n : Int4} (h : m.val = n.val) : m = n := by
  cases m
  cases n
  congr

def Int4.ofInt? (n : ℤ) : Option Int4 :=
  if h : -2 ^ 31 ≤ n ∧ n < 2 ^ 31 then some ⟨n, h.1, h.2⟩ else none

/-- The number the driver hands to JavaScript for an INTEGER. -/
def Int4.toSafeInteger (n : Int4) : SafeInteger :=
  ⟨n.val, by have := n.lower; have := n.upper; rw [abs_lt]; omega⟩

/-- INTEGER: its input rejects what is not a decimal integer or is out of
    range.  (The server also skips white space and a plus sign, which no text
    of a JavaScript integer has.) -/
def int4 : SqlType Int4 where
  input s := s.toInt?.bind Int4.ofInt?
  less a b := decide (a.val < b.val)

theorem Int4.ofInt?_eq_some {n : ℤ} {m : Int4} : Int4.ofInt? n = some m ↔ n = m.val := by
  unfold Int4.ofInt?
  constructor
  · intro h
    split at h
    · cases h; rfl
    · cases h
  · rintro rfl
    rw [dif_pos ⟨m.lower, m.upper⟩]

@[simp] theorem int4_input_toString (n : ℤ) : int4.input (toString n) = Int4.ofInt? n := by
  have h : (toString n).toInt? = some n := Int.toInt?_repr n
  simp only [int4, h, Option.bind_some]

-- ============================================================================
-- Character types
-- ============================================================================

/-- VARCHAR compared with a parameter: any text is accepted as it is.  The order
    is that of the database's collation. -/
def varchar (collation : String → String → Bool) : SqlType String where
  input := some
  less := collation

end AccessService.Pg
