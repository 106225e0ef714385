/-
  AccessService.Lib.Rows

  Lists used as tables: a row's id is its position, a new row goes at the end,
  and a write overwrites one row in place.
-/

import Mathlib.Data.List.Basic

namespace AccessService.Lib.Rows

variable {α : Type}

/-- A row of a table after an insert is an old row or the new one. -/
theorem getElem?_concat {l : List α} {a b : α} {i : Nat} :
    (l ++ [a])[i]? = some b ↔ l[i]? = some b ∨ (i = l.length ∧ b = a) := by
  rw [List.getElem?_append]
  split
  next hlt =>
    have hne : i ≠ l.length := by omega
    simp [hne]
  next hle =>
    have hnone : l[i]? = none := List.getElem?_eq_none (by omega)
    rcases Nat.lt_or_ge l.length i with hlt | hge
    · have hne : i ≠ l.length := by omega
      have hout : [a][i - l.length]? = none := List.getElem?_eq_none (by simp; omega)
      simp [hnone, hne, hout]
    · obtain rfl : i = l.length := by omega
      simp [eq_comm]

/-- A row of a table after a write to row `i` is the new value of that row or
    another old row. -/
theorem getElem?_set_row {l : List α} {a b c : α} {i j : Nat} (h : l[i]? = some a) :
    (l.set i b)[j]? = some c ↔ (j = i ∧ c = b) ∨ (j ≠ i ∧ l[j]? = some c) := by
  obtain ⟨hlt, -⟩ := List.getElem?_eq_some_iff.mp h
  rw [List.getElem?_set]
  by_cases hij : i = j
  · subst hij
    simp [hlt, eq_comm]
  · have hji : j ≠ i := fun h => hij h.symm
    simp [hij, hji]

theorem getElem?_set_self {l : List α} {a b : α} {i : Nat} (h : l[i]? = some a) :
    (l.set i b)[i]? = some b :=
  (getElem?_set_row h).mpr (.inl ⟨rfl, rfl⟩)

theorem getElem?_set_ne {l : List α} {b : α} {i j : Nat} (h : j ≠ i) :
    (l.set i b)[j]? = l[j]? :=
  List.getElem?_set_ne fun hij => h hij.symm

theorem mem_of_row {l : List α} {a : α} {i : Nat} (h : l[i]? = some a) : a ∈ l :=
  List.mem_of_getElem? h

/-- Among the values other than the one overwritten, a write adds the new one. -/
theorem mem_set_row {l : List α} {a b c : α} {i : Nat} (h : l[i]? = some a) (hc : c ≠ a) :
    c ∈ l.set i b ↔ c = b ∨ c ∈ l := by
  constructor
  · intro hmem
    obtain ⟨j, hj⟩ := List.mem_iff_getElem?.mp hmem
    rcases (getElem?_set_row h).mp hj with ⟨-, rfl⟩ | ⟨-, hold⟩
    · exact .inl rfl
    · exact .inr (mem_of_row hold)
  · rintro (rfl | hmem)
    · exact mem_of_row (getElem?_set_self h)
    · obtain ⟨j, hj⟩ := List.mem_iff_getElem?.mp hmem
      have hji : j ≠ i := by
        rintro rfl
        exact hc (Option.some.inj (hj.symm.trans h))
      exact mem_of_row ((getElem?_set_row h).mpr (.inr ⟨hji, hj⟩))

/-- How a write changes the number of rows with a property. -/
theorem countP_set_row {l : List α} {a b : α} {i : Nat} (p : α → Bool) (h : l[i]? = some a) :
    (l.set i b).countP p + (if p a then 1 else 0) = l.countP p + (if p b then 1 else 0) := by
  obtain ⟨hlt, ha⟩ := List.getElem?_eq_some_iff.mp h
  rw [List.countP_set hlt, ha]
  have hpos : p a = true → 0 < l.countP p := fun hpa =>
    List.countP_pos_iff.mpr ⟨a, mem_of_row h, hpa⟩
  split
  next hpa => have := hpos hpa; omega
  next => omega

end AccessService.Lib.Rows
