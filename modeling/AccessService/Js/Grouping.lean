/-
  AccessService.Js.Grouping

  A `Map` that collects the elements of a list by a key: each group takes its elements one
  after another, in the order of the list, and a key stands where it first occurred.
-/

import AccessService.Js.Collections

namespace AccessService.Js

variable {κ α β : Type} [DecidableEq κ] {key : α → κ} {step : β → α → β} {init : β}

namespace JsMap

/-- `if (!m.has(k)) m.set(k, init)`, and then the group of the key takes the element. -/
def collect (key : α → κ) (step : β → α → β) (init : β) (m : JsMap κ β) (a : α) : JsMap κ β :=
  m.set (key a) (step ((m.get (key a)).getD init) a)

def groups (key : α → κ) (step : β → α → β) (init : β) (list : List α) : JsMap κ β :=
  list.foldl (collect key step init) empty

theorem get_empty (k : κ) : (empty : JsMap κ β).get k = none := rfl

theorem get_foldl_collect {m : JsMap κ β} {list : List α} {k : κ} :
    (list.foldl (collect key step init) m).get k =
      if k ∈ list.map key then
        some ((list.filter fun a => key a = k).foldl step ((m.get k).getD init))
      else m.get k := by
  induction list generalizing m with
  | nil => rfl
  | cons a list ih =>
    rw [List.foldl_cons, ih, collect, get_set, List.map_cons]
    by_cases hk : k = key a
    · subst hk
      have hfilter : (a :: list).filter (fun b => key b = key a) =
          a :: list.filter fun b => key b = key a := List.filter_cons_of_pos (by simp)
      rw [if_pos rfl, if_pos List.mem_cons_self, hfilter, List.foldl_cons]
      split
      · rfl
      next hnone =>
        have hnil : (list.filter fun b => key b = key a) = [] := by
          refine List.filter_eq_nil_iff.mpr fun b hb hkey => hnone ?_
          rw [← of_decide_eq_true hkey]
          exact List.mem_map_of_mem hb
        rw [hnil]
        rfl
    · have hfilter : (a :: list).filter (fun b => key b = k) = list.filter fun b => key b = k :=
        List.filter_cons_of_neg fun h => hk (of_decide_eq_true h).symm
      have hmem : k ∈ key a :: list.map key ↔ k ∈ list.map key := by
        rw [List.mem_cons, or_iff_right hk]
      rw [if_neg hk, hfilter]
      simp only [hmem]

/-- A group has what its step makes of its elements. -/
theorem get_groups {list : List α} {k : κ} :
    (groups key step init list).get k =
      if k ∈ list.map key then some ((list.filter fun a => key a = k).foldl step init)
      else none :=
  get_foldl_collect

-- ============================================================================
-- The keys
-- ============================================================================

def keys (m : JsMap κ β) : List κ := m.entries.map Prod.fst

theorem keys_set {m : JsMap κ β} {k : κ} {b : β} :
    (m.set k b).keys = if k ∈ m.keys then m.keys else m.keys ++ [k] := by
  unfold set keys
  split
  · exact keys_overwrite m.entries k b
  · exact List.map_append

theorem keys_foldl_collect {m : JsMap κ β} {m' : JsMap κ Unit} (h : m.keys = m'.keys)
    (list : List α) :
    (list.foldl (collect key step init) m).keys =
      ((list.map key).foldl (fun m k => m.set k ()) m').keys := by
  induction list generalizing m m' with
  | nil => exact h
  | cons a list ih =>
    refine ih ?_
    rw [collect, keys_set, keys_set, h]

/-- The keys are those of the elements, in the order in which they first occur. -/
theorem keys_groups {list : List α} :
    (groups key step init list).keys = setOf (list.map key) := by
  have hkeys : (empty : JsMap κ β).keys = (empty : JsMap κ Unit).keys := rfl
  rw [groups, keys_foldl_collect hkeys, setOf, ofEntries, List.foldl_map, List.foldl_map,
    List.foldl_map]
  rfl

/-- A map can be told from its keys and what is at them. -/
theorem entries_eq_map_keys (m : JsMap κ β) :
    m.entries = m.keys.filterMap fun k => (m.get k).map fun b => (k, b) := by
  have hentry : ∀ e ∈ m.entries, (m.get e.1).map (fun b => (e.1, b)) = some e := by
    intro e he
    rw [get_eq_some.mpr he]
    rfl
  rw [keys, List.filterMap_map]
  refine Eq.trans ?_ (List.filterMap_congr hentry).symm
  exact List.filterMap_some.symm

omit [DecidableEq κ] in
theorem ext_entries {m m' : JsMap κ β} (h : m.entries = m'.entries) : m = m' := by
  obtain ⟨entries, nodup⟩ := m
  obtain rfl : entries = m'.entries := h
  rfl

theorem entries_groups {list : List α} :
    (groups key step init list).entries =
      (setOf (list.map key)).map fun k =>
        (k, (list.filter fun a => key a = k).foldl step init) := by
  rw [entries_eq_map_keys, keys_groups]
  refine Eq.trans (List.filterMap_congr fun k hk => ?_)
    (congrFun (List.filterMap_eq_map (f := fun k =>
      (k, (list.filter fun a => key a = k).foldl step init))) _)
  rw [get_groups, if_pos (mem_setOf.mp hk)]
  rfl

/-- The last entry with a key is what the key stands for. -/
theorem get_ofEntries {entries : List (κ × β)} {k : κ} :
    (ofEntries entries).get k = (entries.reverse.find? fun e => e.1 = k).map Prod.snd := by
  have hfold : ∀ m : JsMap κ β, (entries.foldl (fun m e => m.set e.1 e.2) m).get k =
      ((entries.reverse.find? fun e => e.1 = k).map Prod.snd).or (m.get k) := by
    induction entries with
    | nil => exact fun m => rfl
    | cons e entries ih =>
      intro m
      rw [List.foldl_cons, ih, List.reverse_cons, List.find?_append, get_set]
      rcases hlast : entries.reverse.find? (fun e => e.1 = k) with _ | last
      · by_cases hk : k = e.1
        · simp [hk]
        · have hne : ¬e.1 = k := fun h => hk h.symm
          simp [hk, hne, hlast]
      · simp [hlast]
  rw [ofEntries, hfold]
  exact Option.or_none

end JsMap

-- ============================================================================
-- What the groups list
-- ============================================================================

/-- Each element is in the group of its key, so the groups list every element once. -/
theorem flatMap_filter_perm {keys : List κ} {list : List α} (hnodup : keys.Nodup)
    (hkeys : ∀ a ∈ list, key a ∈ keys) :
    (keys.flatMap fun k => list.filter fun a => key a = k).Perm list := by
  induction keys generalizing list with
  | nil =>
    rcases list with _ | ⟨a, list⟩
    · exact .refl _
    · exact absurd (hkeys a List.mem_cons_self) List.not_mem_nil
  | cons k keys ih =>
    rw [List.nodup_cons] at hnodup
    rw [List.flatMap_cons]
    -- the other groups find nothing of this one
    have hrest : (keys.flatMap fun k' => list.filter fun a => key a = k') =
        keys.flatMap fun k' => (list.filter fun a => ¬key a = k).filter fun a => key a = k' := by
      refine List.flatMap_congr fun k' hk' => ?_
      rw [List.filter_filter]
      refine List.filter_congr fun a _ => ?_
      by_cases hkey : key a = k'
      · have hne : ¬k' = k := fun h => hnodup.1 (h ▸ hk')
        simp [hkey, hne]
      · simp [hkey]
    rw [hrest]
    have hmem : ∀ a ∈ list.filter (fun a => ¬key a = k), key a ∈ keys := fun a ha => by
      obtain ⟨hmem, hne⟩ := List.mem_filter.mp ha
      exact (List.mem_cons.mp (hkeys a hmem)).resolve_left (of_decide_eq_true hne)
    refine ((ih hnodup.2 hmem).append_left _).trans ?_
    simpa using List.filter_append_perm (fun a => decide (key a = k)) list

end AccessService.Js
