/-
  AccessService.Lib.Joins

  Queries over lists of rows: the counts of a GROUP BY, and a LEFT JOIN with them. Such a
  join has one row for each row on the left, and its count is NULL where nothing is grouped.
-/

import Mathlib.Data.List.Dedup

namespace AccessService.Lib.Joins

variable {κ β : Type} [DecidableEq κ] {keys left : List κ}

/-- `SELECT key, COUNT(..) .. GROUP BY key` -/
def groupCount (keys : List κ) : List (κ × Nat) := keys.dedup.map fun k => (k, keys.count k)

/-- `left LEFT JOIN right ON right.key = left` -/
def leftJoin (left : List κ) (right : List (κ × β)) : List (κ × Option β) :=
  left.flatMap fun k =>
    match right.filter fun row => row.1 = k with
    | [] => [(k, none)]
    | rows => rows.map fun row => (k, some row.2)

/-- A group has one row, if any. -/
theorem filter_groupCount (k : κ) :
    (groupCount keys).filter (fun row => row.1 = k) =
      if k ∈ keys then [(k, keys.count k)] else [] := by
  have hkeys : (groupCount keys).filter (fun row => row.1 = k) =
      (keys.dedup.filter fun k' => k' = k).map fun k => (k, keys.count k) := List.filter_map
  rw [hkeys, List.filter_eq]
  split
  next hk =>
    rw [List.count_eq_one_of_mem keys.nodup_dedup (List.mem_dedup.mpr hk)]
    rfl
  next hk =>
    rw [List.count_eq_zero_of_not_mem fun h => hk (List.mem_dedup.mp h)]
    rfl

theorem leftJoin_groupCount :
    leftJoin left (groupCount keys) =
      left.map fun k => (k, if k ∈ keys then some (keys.count k) else none) := by
  induction left with
  | nil => rfl
  | cons k left ih =>
    rw [leftJoin] at ih
    rw [leftJoin, List.flatMap_cons, ih, List.map_cons, filter_groupCount]
    by_cases hk : k ∈ keys
    · simp only [if_pos hk]
      rfl
    · simp only [if_neg hk]
      rfl

/-- `WHERE COALESCE(count, 0) = 0` keeps what is not grouped. -/
theorem map_filter_uncounted :
    ((leftJoin left (groupCount keys)).filter fun row => row.2.getD 0 = 0).map Prod.fst =
      left.filter fun k => k ∉ keys := by
  have hcount : ∀ k, (if k ∈ keys then some (keys.count k) else none).getD 0 = 0 ↔ k ∉ keys := by
    intro k
    split
    next hk =>
      exact ⟨fun h => absurd h (Nat.pos_iff_ne_zero.mp (List.count_pos_iff.mpr hk)),
        fun h => absurd hk h⟩
    next hk => exact ⟨fun _ => hk, fun _ => rfl⟩
  rw [leftJoin_groupCount, List.filter_map, List.map_map]
  refine Eq.trans (List.map_id _) (List.filter_congr fun k _ => ?_)
  exact decide_eq_decide.mpr (hcount k)

end AccessService.Lib.Joins
