/-
  AccessService.Js.Collections

  JavaScript's `Map` and `Set`: a key occurs once, in the place where it was
  first inserted and with the value it was last set to.
-/

import Mathlib.Data.List.Nodup

namespace AccessService.Js

variable {κ α β : Type}

structure JsMap (κ α : Type) where
  entries : List (κ × α)
  nodup : (entries.map Prod.fst).Nodup

namespace JsMap

def empty : JsMap κ α where
  entries := []
  nodup := List.nodup_nil

/-- A key has one entry. -/
theorem entry_unique {m : JsMap κ α} {e e' : κ × α} (h : e ∈ m.entries) (h' : e' ∈ m.entries)
    (hkey : e.1 = e'.1) : e = e' :=
  List.inj_on_of_nodup_map m.nodup h h' hkey

variable [DecidableEq κ]

def has (m : JsMap κ α) (k : κ) : Bool := k ∈ m.entries.map Prod.fst

def get (m : JsMap κ α) (k : κ) : Option α := (m.entries.find? fun e => e.1 = k).map Prod.snd

def overwrite (k : κ) (a : α) (e : κ × α) : κ × α := if e.1 = k then (k, a) else e

theorem overwrite_key (k : κ) (a : α) (e : κ × α) : (overwrite k a e).1 = e.1 := by
  unfold overwrite
  split
  next h => exact h.symm
  · rfl

theorem keys_overwrite (entries : List (κ × α)) (k : κ) (a : α) :
    (entries.map (overwrite k a)).map Prod.fst = entries.map Prod.fst := by
  rw [List.map_map]
  exact List.map_congr_left fun e _ => overwrite_key k a e

/-- `set`: the value is overwritten in place, or a new entry goes at the end. -/
def set (m : JsMap κ α) (k : κ) (a : α) : JsMap κ α :=
  if h : k ∈ m.entries.map Prod.fst then
    { entries := m.entries.map (overwrite k a)
      nodup := by rw [keys_overwrite]; exact m.nodup }
  else
    { entries := m.entries ++ [(k, a)]
      nodup := by
        rw [List.map_append, List.nodup_append']
        refine ⟨m.nodup, List.nodup_singleton k, ?_⟩
        exact List.disjoint_singleton.mpr h }

/-- `new Map(entries)`. -/
def ofEntries (entries : List (κ × α)) : JsMap κ α :=
  entries.foldl (fun m e => m.set e.1 e.2) empty

/-- The values at the keys that `other` does not have. -/
def without (m : JsMap κ α) (other : JsMap κ β) : List α :=
  (m.entries.filter fun e => !other.has e.1).map Prod.snd

theorem mem_set {m : JsMap κ α} {k : κ} {a : α} {e : κ × α} :
    e ∈ (m.set k a).entries ↔ e = (k, a) ∨ (e ∈ m.entries ∧ e.1 ≠ k) := by
  unfold set
  split
  next h =>
    simp only [List.mem_map, overwrite]
    constructor
    · rintro ⟨e', he', rfl⟩
      split
      · exact .inl rfl
      next hne => exact .inr ⟨he', hne⟩
    · rintro (rfl | ⟨he, hne⟩)
      · obtain ⟨e', he', rfl⟩ := List.mem_map.mp h
        exact ⟨e', he', if_pos rfl⟩
      · exact ⟨e, he, if_neg hne⟩
  next h =>
    rw [List.mem_append, List.mem_singleton, or_comm]
    refine or_congr_right ⟨fun he => ⟨he, ?_⟩, fun he => he.1⟩
    rintro rfl
    exact h (List.mem_map_of_mem he)

theorem has_iff {m : JsMap κ α} {k : κ} : m.has k = true ↔ ∃ e ∈ m.entries, e.1 = k := by
  simp only [has, decide_eq_true_eq, List.mem_map]

theorem has_set {m : JsMap κ α} {k k' : κ} {a : α} :
    (m.set k a).has k' = true ↔ k' = k ∨ m.has k' = true := by
  simp only [has_iff, mem_set]
  constructor
  · rintro ⟨e, rfl | ⟨he, -⟩, rfl⟩
    · exact .inl rfl
    · exact .inr ⟨e, he, rfl⟩
  · rintro (rfl | ⟨e, he, rfl⟩)
    · exact ⟨(k', a), .inl rfl, rfl⟩
    · by_cases hk : e.1 = k
      · exact ⟨(k, a), .inl rfl, hk.symm⟩
      · exact ⟨e, .inr ⟨he, hk⟩, rfl⟩

theorem get_eq_some {m : JsMap κ α} {k : κ} {a : α} : m.get k = some a ↔ (k, a) ∈ m.entries := by
  simp only [get, Option.map_eq_some_iff]
  constructor
  · rintro ⟨e, hfind, rfl⟩
    have hkey : e.1 = k := by simpa using List.find?_some hfind
    rw [← hkey]
    exact List.mem_of_find?_eq_some hfind
  · intro hmem
    rcases hfind : m.entries.find? (fun e => e.1 = k) with _ | e
    · exact absurd (decide_eq_true rfl) (List.find?_eq_none.mp hfind _ hmem)
    · have hkey : e.1 = k := by simpa using List.find?_some hfind
      have hsame := entry_unique (List.mem_of_find?_eq_some hfind) hmem hkey
      exact ⟨e, hfind, by rw [hsame]⟩

theorem has_iff_get {m : JsMap κ α} {k : κ} : m.has k = true ↔ ∃ a, m.get k = some a := by
  simp only [has_iff, get_eq_some]
  constructor
  · rintro ⟨e, he, rfl⟩
    exact ⟨e.2, he⟩
  · rintro ⟨a, ha⟩
    exact ⟨(k, a), ha, rfl⟩

theorem get_set {m : JsMap κ α} {k k' : κ} {a : α} :
    (m.set k a).get k' = if k' = k then some a else m.get k' := by
  ext b
  rw [get_eq_some, mem_set, Prod.mk.injEq]
  split
  next hk => simp [hk, eq_comm]
  next hk => simp [hk, get_eq_some]

section OfEntries

variable {entries : List (κ × α)}

theorem has_foldl_set {m : JsMap κ α} {k : κ} :
    (entries.foldl (fun m e => m.set e.1 e.2) m).has k = true ↔
      m.has k = true ∨ ∃ e ∈ entries, e.1 = k := by
  induction entries generalizing m with
  | nil => simp
  | cons e es ih =>
    rw [List.foldl_cons, ih, has_set]
    simp only [List.mem_cons, exists_eq_or_imp, eq_comm (a := k)]
    tauto

theorem has_ofEntries {k : κ} :
    (ofEntries entries).has k = true ↔ ∃ e ∈ entries, e.1 = k := by
  rw [ofEntries, has_foldl_set]
  simp [has, empty]

theorem mem_foldl_set {m : JsMap κ α} {e : κ × α}
    (h : e ∈ (entries.foldl (fun m e => m.set e.1 e.2) m).entries) :
    e ∈ m.entries ∨ e ∈ entries := by
  induction entries generalizing m with
  | nil => exact .inl h
  | cons e' es ih =>
    rw [List.foldl_cons] at h
    rcases ih h with hm | hes
    · rcases mem_set.mp hm with rfl | ⟨hm', -⟩
      · exact .inr List.mem_cons_self
      · exact .inl hm'
    · exact .inr (List.mem_cons_of_mem _ hes)

theorem mem_of_ofEntries {e : κ × α} (h : e ∈ (ofEntries entries).entries) : e ∈ entries := by
  rcases mem_foldl_set h with hnil | hmem
  · exact absurd hnil List.not_mem_nil
  · exact hmem

/-- Where the keys are distinct, no entry gets lost. -/
theorem mem_ofEntries_of_nodup (hnodup : (entries.map Prod.fst).Nodup) {e : κ × α} :
    e ∈ (ofEntries entries).entries ↔ e ∈ entries := by
  refine ⟨mem_of_ofEntries, fun h => ?_⟩
  obtain ⟨e', he', hkey⟩ := has_iff.mp (has_ofEntries.mpr ⟨e, h, rfl⟩)
  have hsame : e' = e :=
    List.inj_on_of_nodup_map hnodup (mem_of_ofEntries he') h hkey
  rw [← hsame]
  exact he'

/-- Where the keys are distinct, the entries keep their order. -/
theorem entries_ofEntries_of_nodup (hnodup : (entries.map Prod.fst).Nodup) :
    (ofEntries entries).entries = entries := by
  have hfold : ∀ m : JsMap κ α, (∀ e ∈ entries, m.has e.1 = false) →
      (entries.foldl (fun m e => m.set e.1 e.2) m).entries = m.entries ++ entries := by
    induction entries with
    | nil => exact fun m _ => (List.append_nil _).symm
    | cons e es ih =>
      intro m hnew
      rw [List.map_cons, List.nodup_cons] at hnodup
      have hkey : e.1 ∉ m.entries.map Prod.fst := by
        simpa [has] using hnew e List.mem_cons_self
      have hset : (m.set e.1 e.2).entries = m.entries ++ [e] := by
        rw [set, dif_neg hkey]
      rw [List.foldl_cons, ih hnodup.2 _ fun e' he' => ?_, hset, List.append_assoc,
        List.singleton_append]
      rw [Bool.eq_false_iff, ne_eq, has_set, not_or, Bool.not_eq_true]
      refine ⟨?_, hnew e' (List.mem_cons_of_mem _ he')⟩
      rintro hsame
      exact hnodup.1 (hsame ▸ List.mem_map_of_mem he')
  exact hfold empty fun _ _ => rfl

theorem entries_set_map {m : JsMap κ α} {m' : JsMap κ β} (f : α → β)
    (h : m'.entries = m.entries.map (Prod.map id f)) (k : κ) (a : α) :
    (m'.set k (f a)).entries = (m.set k a).entries.map (Prod.map id f) := by
  have hkeys : m'.entries.map Prod.fst = m.entries.map Prod.fst := by
    rw [h, List.map_map]
    rfl
  unfold set
  split
  next hk =>
    rw [hkeys] at hk
    rw [dif_pos hk]
    show m'.entries.map (overwrite k (f a)) =
      (m.entries.map (overwrite k a)).map (Prod.map id f)
    rw [h, List.map_map, List.map_map]
    refine List.map_congr_left fun e _ => ?_
    simp only [Function.comp_apply, overwrite, Prod.map_fst, id_eq]
    split
    · rfl
    · rfl
  next hk =>
    rw [hkeys] at hk
    rw [dif_neg hk]
    show m'.entries ++ [(k, f a)] = (m.entries ++ [(k, a)]).map (Prod.map id f)
    rw [h, List.map_append]
    rfl

/-- A function applied to all values before or after the map is made. -/
theorem entries_ofEntries_map (f : α → β) :
    (ofEntries (entries.map (Prod.map id f))).entries =
      (ofEntries entries).entries.map (Prod.map id f) := by
  have hfold : ∀ (m : JsMap κ α) (m' : JsMap κ β), m'.entries = m.entries.map (Prod.map id f) →
      ((entries.map (Prod.map id f)).foldl (fun m e => m.set e.1 e.2) m').entries =
        (entries.foldl (fun m e => m.set e.1 e.2) m).entries.map (Prod.map id f) := by
    induction entries with
    | nil => exact fun _ _ h => h
    | cons e es ih => exact fun m m' h => ih _ _ (entries_set_map f h e.1 e.2)
  exact hfold empty empty rfl

theorem get_ofEntries_map (f : α → β) (k : κ) :
    (ofEntries (entries.map (Prod.map id f))).get k = ((ofEntries entries).get k).map f := by
  rw [get, get, entries_ofEntries_map, List.find?_map, Option.map_map, Option.map_map]
  rfl

end OfEntries

theorem mem_without {m : JsMap κ α} {other : JsMap κ β} {a : α} :
    a ∈ m.without other ↔ ∃ k, (k, a) ∈ m.entries ∧ other.has k ≠ true := by
  simp only [without, List.mem_map, List.mem_filter, Prod.exists, exists_eq_right,
    Bool.not_eq_true', Bool.eq_false_iff]

end JsMap

-- ============================================================================
-- Sets
-- ============================================================================

/-- The elements of `new Set(list)`, in order. -/
def setOf [DecidableEq α] (list : List α) : List α :=
  (JsMap.ofEntries (list.map fun a => (a, ()))).entries.map Prod.fst

theorem mem_setOf [DecidableEq α] {list : List α} {a : α} : a ∈ setOf list ↔ a ∈ list := by
  have hhas : (JsMap.ofEntries (list.map fun a => (a, ()))).has a = true ↔
      ∃ e ∈ list.map fun a => (a, ()), e.1 = a := JsMap.has_ofEntries
  simp only [JsMap.has, decide_eq_true_eq] at hhas
  rw [setOf, hhas]
  simp

theorem setOf_of_nodup [DecidableEq α] {list : List α} (h : list.Nodup) : setOf list = list := by
  have hkeys : (list.map fun a => (a, ())).map Prod.fst = list := by
    rw [List.map_map]
    exact List.map_id _
  rw [setOf, JsMap.entries_ofEntries_of_nodup (by rw [hkeys]; exact h), hkeys]

theorem nodup_setOf [DecidableEq α] (list : List α) : (setOf list).Nodup :=
  (JsMap.ofEntries (list.map fun a => (a, ()))).nodup

end AccessService.Js
