/-
  AccessService.Lib.Table

  Tables.  In a `Keyed` table a unique constraint tells the rows apart; in a
  `Table` each row gets an id when it is inserted: no two rows have one id, and
  a deleted row's id does not come back.
-/

import Mathlib.Data.List.Find
import Mathlib.Data.List.Nodup

namespace AccessService.Lib

variable {α κ : Type}

-- ============================================================================
-- Tables with a unique constraint
-- ============================================================================

structure Keyed (α : Type) {κ : Type} (key : α → κ) where
  rows : List α
  nodup : (rows.map key).Nodup

namespace Keyed

variable {key : α → κ}

theorem row_unique {t : Keyed α key} {a b : α} (ha : a ∈ t.rows) (hb : b ∈ t.rows)
    (hkey : key a = key b) : a = b :=
  List.inj_on_of_nodup_map t.nodup ha hb hkey

def empty : Keyed α key where
  rows := []
  nodup := List.nodup_nil

def single (a : α) : Keyed α key where
  rows := [a]
  nodup := List.nodup_singleton (key a)

def deleteWhere (t : Keyed α key) (p : α → Bool) : Keyed α key where
  rows := t.rows.filter fun a => !p a
  nodup := t.nodup.sublist (List.Sublist.map _ List.filter_sublist)

/-- An update that leaves the key columns alone. -/
def update (t : Keyed α key) (f : α → α) (h : ∀ a, key (f a) = key a) : Keyed α key where
  rows := t.rows.map f
  nodup := by
    have hkeys : t.rows.map (key ∘ f) = t.rows.map key := List.map_congr_left fun a _ => h a
    rw [List.map_map, hkeys]
    exact t.nodup

/-- The rows seen through a map that keeps the keys. -/
def mapRows {β : Type} {key' : β → κ} (t : Keyed α key) (f : α → β)
    (h : ∀ a, key' (f a) = key a) : Keyed β key' where
  rows := t.rows.map f
  nodup := by
    have hkeys : t.rows.map (key' ∘ f) = t.rows.map key := List.map_congr_left fun a _ => h a
    rw [List.map_map, hkeys]
    exact t.nodup

/-- The row with the key of `a` becomes `a`. -/
def replace [DecidableEq κ] (t : Keyed α key) (a : α) : Keyed α key :=
  t.update (fun b => if key b = key a then a else b) fun b => by
    split
    next h => exact h.symm
    · rfl

/-- INSERT; `none` is a violation of the constraint. -/
def insert [DecidableEq κ] (t : Keyed α key) (a : α) : Option (Keyed α key) :=
  if h : key a ∈ t.rows.map key then none
  else some
    { rows := t.rows ++ [a]
      nodup := by
        rw [List.map_append, List.nodup_append']
        exact ⟨t.nodup, List.nodup_singleton _, List.disjoint_singleton.mpr h⟩ }

/-- INSERT of several rows at once. -/
def insertAll [DecidableEq κ] (t : Keyed α key) : List α → Option (Keyed α key)
  | [] => some t
  | a :: as => (t.insert a).bind fun t' => t'.insertAll as

theorem mem_deleteWhere {t : Keyed α key} {p : α → Bool} {a : α} :
    a ∈ (t.deleteWhere p).rows ↔ a ∈ t.rows ∧ p a = false := by
  simp only [deleteWhere, List.mem_filter, Bool.not_eq_true']

theorem mem_replace [DecidableEq κ] {t : Keyed α key} {a b : α} (h : key a ∈ t.rows.map key) :
    b ∈ (t.replace a).rows ↔ b = a ∨ (b ∈ t.rows ∧ key b ≠ key a) := by
  simp only [replace, update, List.mem_map]
  constructor
  · rintro ⟨c, hc, rfl⟩
    split
    · exact .inl rfl
    next hne => exact .inr ⟨hc, hne⟩
  · rintro (rfl | ⟨hb, hne⟩)
    · obtain ⟨c, hc, hkey⟩ := List.mem_map.mp h
      exact ⟨c, hc, if_pos hkey⟩
    · exact ⟨b, hb, if_neg hne⟩

/-- A row that meets a condition only rows with its key meet is the one found. -/
theorem find?_unique {t : Keyed α key} {a : α} {p : α → Bool} (ha : a ∈ t.rows) (hp : p a = true)
    (hkey : ∀ b, p b = true → key b = key a) : t.rows.find? p = some a := by
  rcases hfind : t.rows.find? p with _ | b
  · exact absurd hp (List.find?_eq_none.mp hfind a ha)
  · rw [t.row_unique (List.mem_of_find?_eq_some hfind) ha (hkey b (List.find?_some hfind))]

/-- The row with a key, if it meets a condition besides. -/
theorem find?_and_key [DecidableEq κ] {t : Keyed α key} {a : α} {k : κ} {p : α → Prop}
    [DecidablePred p] :
    t.rows.find? (fun b => decide (p b) && decide (key b = k)) = some a ↔
      a ∈ t.rows ∧ p a ∧ key a = k := by
  constructor
  · intro h
    have hmeets := List.find?_some h
    rw [Bool.and_eq_true, decide_eq_true_eq, decide_eq_true_eq] at hmeets
    exact ⟨List.mem_of_find?_eq_some h, hmeets⟩
  · rintro ⟨hmem, hp, hkey⟩
    refine find?_unique hmem (by simp [hp, hkey]) fun b hb => ?_
    rw [Bool.and_eq_true, decide_eq_true_eq, decide_eq_true_eq] at hb
    exact hb.2.trans hkey.symm

theorem find?_replace [DecidableEq κ] {t : Keyed α key} {a : α} {k : κ}
    (ha : key a ∈ t.rows.map key) :
    (t.replace a).rows.find? (fun b => key b = k) =
      if k = key a then some a else t.rows.find? fun b => key b = k := by
  split
  next hk =>
    refine find?_unique ((mem_replace ha).mpr (.inl rfl)) (decide_eq_true hk.symm) fun b hb => ?_
    rw [of_decide_eq_true hb, hk]
  next hk =>
    rcases hfind : t.rows.find? (fun b => key b = k) with _ | b
    · rw [List.find?_eq_none] at hfind ⊢
      intro c hc hkey
      rcases (mem_replace ha).mp hc with rfl | ⟨hmem, -⟩
      · exact hk (of_decide_eq_true hkey).symm
      · exact hfind c hmem hkey
    · have hb : key b = k := by simpa using List.find?_some hfind
      refine find?_unique ?_ (decide_eq_true hb) fun c hc => ?_
      · refine (mem_replace ha).mpr (.inr ⟨List.mem_of_find?_eq_some hfind, ?_⟩)
        rw [hb]
        exact hk
      · rw [of_decide_eq_true hc, hb]

/-- A search that does not look at what a replacement changes. -/
theorem find?_replace_of_same [DecidableEq κ] {t : Keyed α key} {a b : α} {p : α → Bool}
    (ha : a ∈ t.rows) (hkey : key b = key a) (hp : p b = p a) :
    (t.replace b).rows.find? p =
      (t.rows.find? p).map fun c => if key c = key b then b else c := by
  have hsame : ∀ c ∈ t.rows, p (if key c = key b then b else c) = p c := by
    intro c hc
    split
    next hcb => rw [hp, t.row_unique hc ha (hcb.trans hkey)]
    · rfl
  simp only [replace, update, List.find?_map]
  refine congrArg (Option.map _) (List.find?_congr fun c hc => ?_)
  exact hsame c hc

/-- A search that does not look at what an update changes. -/
theorem find?_update {t : Keyed α key} {f : α → α} (h : ∀ a, key (f a) = key a) {p : α → Bool}
    (hp : ∀ a, p (f a) = p a) : (t.update f h).rows.find? p = (t.rows.find? p).map f := by
  rw [update, List.find?_map]
  exact congrArg (Option.map f) (List.find?_congr fun a _ => hp a)

/-- What a replacement does not change is the same of all rows. -/
theorem map_replace_of_same {β : Type} [DecidableEq κ] {t : Keyed α key} {a b : α} {f : α → β}
    (ha : a ∈ t.rows) (hkey : key b = key a) (hf : f b = f a) :
    (t.replace b).rows.map f = t.rows.map f := by
  simp only [replace, update, List.map_map]
  refine List.map_congr_left fun c hc => ?_
  show f (if key c = key b then b else c) = f c
  split
  next hcb => rw [hf, t.row_unique hc ha (hcb.trans hkey)]
  · rfl

/-- Rows that a replacement is not about. -/
theorem filter_replace_of_not [DecidableEq κ] {t : Keyed α key} {a b : α} {p : α → Bool}
    (ha : a ∈ t.rows) (hkey : key b = key a) (hpa : p a = false) (hpb : p b = false) :
    (t.replace b).rows.filter p = t.rows.filter p := by
  have hsame : ∀ c ∈ t.rows, key c = key b → p c = false := by
    intro c hc hcb
    rw [t.row_unique hc ha (hcb.trans hkey), hpa]
  simp only [replace, update, List.filter_map]
  have hfilter : t.rows.filter (p ∘ fun c => if key c = key b then b else c) = t.rows.filter p := by
    refine List.filter_congr fun c hc => ?_
    show p (if key c = key b then b else c) = p c
    split
    next hcb => rw [hpb, hsame c hc hcb]
    · rfl
  rw [hfilter]
  refine (List.map_congr_left fun c hc => ?_).trans (List.map_id _)
  obtain ⟨hmem, hpc⟩ := List.mem_filter.mp hc
  refine if_neg fun hcb => ?_
  rw [hsame c hmem hcb] at hpc
  cases hpc

theorem insert_rows [DecidableEq κ] {t t' : Keyed α key} {a : α} (h : t.insert a = some t') :
    t'.rows = t.rows ++ [a] := by
  unfold insert at h
  split at h
  · cases h
  · cases h; rfl

theorem insert_fresh [DecidableEq κ] {t t' : Keyed α key} {a b : α} (h : t.insert a = some t')
    (hb : b ∈ t.rows) : key b ≠ key a := by
  unfold insert at h
  split at h
  · cases h
  next hnew => exact fun hkey => hnew (hkey ▸ List.mem_map_of_mem hb)

theorem insertAll_rows [DecidableEq κ] {t t' : Keyed α key} {as : List α}
    (h : t.insertAll as = some t') : t'.rows = t.rows ++ as := by
  induction as generalizing t with
  | nil =>
    cases h
    exact (List.append_nil _).symm
  | cons a as ih =>
    obtain ⟨mid, hmid, hrest⟩ := Option.bind_eq_some_iff.mp h
    rw [ih hrest, insert_rows hmid, List.append_assoc, List.singleton_append]

/-- Rows with new and distinct keys go in. -/
theorem insertAll_fresh [DecidableEq κ] {t : Keyed α key} {as : List α}
    (hnodup : (as.map key).Nodup) (hnew : ∀ a ∈ as, key a ∉ t.rows.map key) :
    ∃ t', t.insertAll as = some t' := by
  induction as generalizing t with
  | nil => exact ⟨t, rfl⟩
  | cons a as ih =>
    rw [List.map_cons, List.nodup_cons] at hnodup
    have hhead := hnew a List.mem_cons_self
    obtain ⟨mid, hmid⟩ : ∃ mid, t.insert a = some mid := ⟨_, dif_neg hhead⟩
    obtain ⟨t', ht'⟩ := ih (t := mid) hnodup.2 fun b hb => by
      rw [insert_rows hmid, List.map_append, List.mem_append, not_or]
      refine ⟨hnew b (List.mem_cons_of_mem _ hb), ?_⟩
      rw [List.map_singleton, List.mem_singleton]
      intro hkey
      exact hnodup.1 (hkey ▸ List.mem_map_of_mem hb)
    refine ⟨t', ?_⟩
    rw [insertAll, hmid]
    exact ht'

/-- The row with the key. -/
def rowAt [DecidableEq κ] (t : Keyed α key) (k : κ) : Option α := t.rows.find? fun a => key a = k

/-- The row goes in, in the place of the one with its key if there is one. -/
def upsert [DecidableEq κ] (t : Keyed α key) (a : α) : Keyed α key :=
  (t.insert a).getD (t.replace a)

def upsertAll [DecidableEq κ] (t : Keyed α key) (as : List α) : Keyed α key := as.foldl upsert t

theorem rowAt_eq_some [DecidableEq κ] {t : Keyed α key} {k : κ} {a : α} :
    t.rowAt k = some a ↔ a ∈ t.rows ∧ key a = k := by
  constructor
  · intro h
    rw [rowAt] at h
    exact ⟨List.mem_of_find?_eq_some h, by simpa using List.find?_some h⟩
  · rintro ⟨hmem, rfl⟩
    exact find?_unique hmem (decide_eq_true rfl) fun b hb => of_decide_eq_true hb

theorem upsert_of_mem [DecidableEq κ] {t : Keyed α key} {a : α} (h : key a ∈ t.rows.map key) :
    t.upsert a = t.replace a := by
  unfold upsert insert
  rw [dif_pos h]
  rfl

theorem rowAt_upsert [DecidableEq κ] {t : Keyed α key} {a : α} {k : κ} :
    (t.upsert a).rowAt k = if k = key a then some a else t.rowAt k := by
  unfold upsert
  rcases hinsert : t.insert a with _ | t'
  · have hmem : key a ∈ t.rows.map key := by
      by_contra hnew
      rw [insert, dif_neg hnew] at hinsert
      cases hinsert
    exact find?_replace hmem
  · have hfresh : ∀ b ∈ t.rows, key b ≠ key a := fun b hb => insert_fresh hinsert hb
    rw [Option.getD_some, rowAt, insert_rows hinsert, List.find?_append]
    split
    next hk =>
      have hnone : t.rows.find? (fun b => key b = k) = none := by
        rw [List.find?_eq_none]
        intro b hb hkey
        exact hfresh b hb ((of_decide_eq_true hkey).trans hk)
      rw [hnone, Option.none_or, List.find?_singleton, if_pos (decide_eq_true hk.symm)]
    next hk =>
      rw [List.find?_singleton, if_neg fun hkey => hk (of_decide_eq_true hkey).symm,
        Option.or_none, rowAt]

/-- Of the rows that go in, those with a key take the place of what was there. -/
theorem rowAt_upsertAll [DecidableEq κ] {t : Keyed α key} {as : List α}
    (h : (as.map key).Nodup) {k : κ} :
    (t.upsertAll as).rowAt k = (as.find? fun a => key a = k).or (t.rowAt k) := by
  induction as generalizing t with
  | nil => rfl
  | cons a as ih =>
    rw [List.map_cons, List.nodup_cons] at h
    show ((t.upsert a).upsertAll as).rowAt k = _
    rw [ih h.2, rowAt_upsert]
    by_cases hk : k = key a
    · have hnone : as.find? (fun b => key b = k) = none := by
        rw [List.find?_eq_none]
        intro b hb hkey
        exact h.1 (((of_decide_eq_true hkey).trans hk) ▸ List.mem_map_of_mem hb)
      have hfirst : (a :: as).find? (fun b => key b = k) = some a :=
        List.find?_cons_of_pos (decide_eq_true hk.symm)
      rw [hnone, if_pos hk, hfirst]
      rfl
    · have hrest : (a :: as).find? (fun b => key b = k) = as.find? fun b => key b = k :=
        List.find?_cons_of_neg fun hkey => hk (of_decide_eq_true hkey).symm
      rw [if_neg hk, hrest]

end Keyed

-- ============================================================================
-- Tables with generated ids
-- ============================================================================

abbrev RowId := Nat

structure Table (α : Type) where
  rows : List (RowId × α)
  nextId : RowId
  fresh : ∀ row ∈ rows, row.1 < nextId
  nodup : (rows.map Prod.fst).Nodup

namespace Table

def empty : Table α where
  rows := []
  nextId := 0
  fresh := nofun
  nodup := List.nodup_nil

/-- A row has its id alone. -/
theorem row_unique {t : Table α} {r r' : RowId × α} (h : r ∈ t.rows) (h' : r' ∈ t.rows)
    (hid : r.1 = r'.1) : r = r' :=
  List.inj_on_of_nodup_map t.nodup h h' hid

def find (t : Table α) (p : α → Bool) : List (RowId × α) := t.rows.filter fun row => p row.2

def deleteWhere (t : Table α) (p : RowId × α → Bool) : Table α where
  rows := t.rows.filter fun row => !p row
  nextId := t.nextId
  fresh row h := t.fresh row (List.mem_of_mem_filter h)
  nodup := t.nodup.sublist (List.Sublist.map _ List.filter_sublist)

def insert (t : Table α) (a : α) : Table α where
  rows := t.rows ++ [(t.nextId, a)]
  nextId := t.nextId + 1
  fresh row h := by
    rcases List.mem_append.mp h with hold | hnew
    · exact Nat.lt_succ_of_lt (t.fresh row hold)
    · rw [List.mem_singleton.mp hnew]
      exact Nat.lt_succ_self _
  nodup := by
    rw [List.map_append, List.nodup_append']
    refine ⟨t.nodup, List.nodup_singleton _, List.disjoint_singleton.mpr fun hmem => ?_⟩
    obtain ⟨row, hrow, hid⟩ := List.mem_map.mp hmem
    exact absurd (t.fresh row hrow) (by rw [hid]; exact Nat.lt_irrefl _)

/-- INSERT of several rows at once. -/
def insertAll (t : Table α) (as : List α) : Table α := as.foldl insert t

/-- INSERT .. ON CONFLICT DO NOTHING, row by row; `conflicts` is the unique
    constraint. -/
def insertIgnore (conflicts : α → α → Bool) (t : Table α) (as : List α) : Table α :=
  as.foldl (fun t a => if t.rows.any fun row => conflicts row.2 a then t else t.insert a) t

theorem mem_find {t : Table α} {p : α → Bool} {r : RowId × α} :
    r ∈ t.find p ↔ r ∈ t.rows ∧ p r.2 = true :=
  List.mem_filter

theorem mem_deleteWhere {t : Table α} {p : RowId × α → Bool} {r : RowId × α} :
    r ∈ (t.deleteWhere p).rows ↔ r ∈ t.rows ∧ p r = false := by
  simp only [deleteWhere, List.mem_filter, Bool.not_eq_true']

theorem deleteWhere_none {t : Table α} {p : RowId × α → Bool}
    (h : ∀ r ∈ t.rows, p r = false) : t.deleteWhere p = t := by
  have hrows : (t.rows.filter fun row => !p row) = t.rows :=
    List.filter_eq_self.mpr fun r hr => by rw [h r hr]; rfl
  obtain ⟨rows, nextId, fresh, nodup⟩ := t
  simp only [deleteWhere, hrows]

theorem find_eq_nil {t : Table α} {p : α → Bool} :
    t.find p = [] ↔ ∀ r ∈ t.rows, p r.2 = false := by
  simp only [find, List.filter_eq_nil_iff, Bool.not_eq_true]

theorem insertAll_rows {t : Table α} {as : List α} :
    (t.insertAll as).rows = t.rows ++ (as.zipIdx t.nextId).map Prod.swap := by
  induction as generalizing t with
  | nil => exact (List.append_nil _).symm
  | cons a as ih =>
    show ((t.insert a).insertAll as).rows = _
    rw [ih, List.zipIdx_cons, List.map_cons, insert, List.append_assoc, List.singleton_append]
    rfl

theorem insertAll_values {t : Table α} {as : List α} :
    (t.insertAll as).rows.map Prod.snd = t.rows.map Prod.snd ++ as := by
  have hvalues : (Prod.snd ∘ Prod.swap : α × Nat → α) = Prod.fst := rfl
  rw [insertAll_rows, List.map_append, List.map_map, hvalues, List.zipIdx_map_fst]

theorem insertAll_ids {t : Table α} {as : List α} :
    (t.insertAll as).rows.map Prod.fst =
      t.rows.map Prod.fst ++ List.range' t.nextId as.length := by
  have hids : (Prod.fst ∘ Prod.swap : α × Nat → Nat) = Prod.snd := rfl
  rw [insertAll_rows, List.map_append, List.map_map, hids, List.zipIdx_map_snd]

theorem find_deleteWhere {t : Table α} {p : α → Bool} {q : RowId × α → Bool} :
    (t.deleteWhere q).find p = (t.find p).filter fun row => !q row :=
  List.filter_comm _ _ _

/-- The old rows stay, with their ids. -/
theorem rows_insertIgnore {conflicts : α → α → Bool} {t : Table α} {as : List α}
    {r : RowId × α} (h : r ∈ t.rows) : r ∈ (t.insertIgnore conflicts as).rows := by
  induction as generalizing t with
  | nil => exact h
  | cons a as ih =>
    rw [insertIgnore, List.foldl_cons]
    refine ih ?_
    split
    · exact h
    · exact List.mem_append_left _ h

/-- A row after the insert is an old row or a listed one. -/
theorem mem_insertIgnore {conflicts : α → α → Bool} {t : Table α} {as : List α}
    {r : RowId × α} (h : r ∈ (t.insertIgnore conflicts as).rows) : r ∈ t.rows ∨ r.2 ∈ as := by
  induction as generalizing t with
  | nil => exact .inl h
  | cons a as ih =>
    rw [insertIgnore, List.foldl_cons] at h
    rcases ih h with hrow | has
    · split at hrow
      · exact .inl hrow
      · rcases List.mem_append.mp hrow with hold | hnew
        · exact .inl hold
        · rw [List.mem_singleton.mp hnew]
          exact .inr List.mem_cons_self
    · exact .inr (List.mem_cons_of_mem _ has)

/-- Where only a row itself conflicts with it, every listed row is there. -/
theorem insertIgnore_inserts {conflicts : α → α → Bool} {t : Table α} {as : List α} {a : α}
    (ha : a ∈ as) (hself : ∀ b, conflicts b a = true → b = a) :
    ∃ r ∈ (t.insertIgnore conflicts as).rows, r.2 = a := by
  induction as generalizing t with
  | nil => exact absurd ha List.not_mem_nil
  | cons b as ih =>
    rw [insertIgnore, List.foldl_cons]
    by_cases hba : b = a
    · subst hba
      split
      next hconflict =>
        obtain ⟨r, hr, hrow⟩ := List.any_eq_true.mp hconflict
        exact ⟨r, rows_insertIgnore hr, hself r.2 hrow⟩
      · refine ⟨(t.nextId, b), rows_insertIgnore ?_, rfl⟩
        exact List.mem_append_right _ (List.mem_singleton_self _)
    · exact ih (List.mem_of_ne_of_mem (Ne.symm hba) ha)

/-- Inserted rows do not repeat what `key` tells apart, where no old row and no
    other listed one has the key. -/
theorem insertIgnore_unique {conflicts : α → α → Bool} {t : Table α} {as : List α}
    {key : α → κ} {p : α → Prop}
    (hrows : ∀ r ∈ t.rows, ∀ r' ∈ t.rows, p r.2 → p r'.2 → key r.2 = key r'.2 → r = r')
    (has : (as.map key).Nodup) (hnew : ∀ a ∈ as, ∀ r ∈ t.rows, p r.2 → key r.2 ≠ key a) :
    ∀ r ∈ (t.insertIgnore conflicts as).rows, ∀ r' ∈ (t.insertIgnore conflicts as).rows,
      p r.2 → p r'.2 → key r.2 = key r'.2 → r = r' := by
  induction as generalizing t with
  | nil => exact hrows
  | cons a as ih =>
    rw [insertIgnore, List.foldl_cons]
    rw [List.map_cons, List.nodup_cons] at has
    have hhead := hnew a List.mem_cons_self
    have htail : ∀ b ∈ as, ∀ r ∈ t.rows, p r.2 → key r.2 ≠ key b :=
      fun b hb => hnew b (List.mem_cons_of_mem _ hb)
    split
    · exact ih hrows has.2 htail
    · refine ih ?_ has.2 ?_
      · intro r hr r' hr' hp hp' hkey
        rcases List.mem_append.mp hr with hold | hadd <;>
          rcases List.mem_append.mp hr' with hold' | hadd'
        · exact hrows r hold r' hold' hp hp' hkey
        · rw [List.mem_singleton.mp hadd'] at hkey
          exact absurd hkey (hhead r hold hp)
        · rw [List.mem_singleton.mp hadd] at hkey
          exact absurd hkey.symm (hhead r' hold' hp')
        · rw [List.mem_singleton.mp hadd, List.mem_singleton.mp hadd']
      · intro b hb r hr hp
        rcases List.mem_append.mp hr with hold | hadd
        · exact htail b hb r hold hp
        · rw [List.mem_singleton.mp hadd]
          intro hkey
          exact has.1 (List.mem_map.mpr ⟨b, hb, hkey.symm⟩)

end Table

end AccessService.Lib
