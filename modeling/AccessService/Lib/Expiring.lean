/-
  AccessService.Lib.Expiring

  A key-value store whose entries may expire.  An entry with an expiry is there as
  long as the clock is before it; an entry without one stays.
-/

import Mathlib.Data.List.Basic

namespace AccessService.Lib

variable {κ α : Type}

structure ExpiringEntry (α : Type) where
  value : α
  expiresAt : Option Nat := none
  deriving DecidableEq

def ExpiringEntry.live (now : Nat) (e : ExpiringEntry α) : Bool :=
  match e.expiresAt with
  | none => true
  | some expiresAt => now < expiresAt

/-- The entries, the newest first. -/
structure Expiring (κ α : Type) where
  entries : List (κ × ExpiringEntry α) := []

namespace Expiring

variable [DecidableEq κ]

def empty : Expiring κ α := {}

/-- The entry at a key, expired or not. -/
def entry (m : Expiring κ α) (k : κ) : Option (ExpiringEntry α) :=
  (m.entries.find? fun e => e.1 = k).map Prod.snd

def get (m : Expiring κ α) (now : Nat) (k : κ) : Option α :=
  ((m.entry k).filter (·.live now)).map (·.value)

def erase (m : Expiring κ α) (k : κ) : Expiring κ α where
  entries := m.entries.filter fun e => e.1 ≠ k

def eraseAll (m : Expiring κ α) (ks : List κ) : Expiring κ α := ks.foldl erase m

def set (m : Expiring κ α) (k : κ) (value : α) (expiresAt : Option Nat) : Expiring κ α where
  entries := (k, ⟨value, expiresAt⟩) :: (m.erase k).entries

/-- A new value at a key keeps the expiry of the live entry there. -/
def update (m : Expiring κ α) (now : Nat) (k : κ) (f : Option α → α) : Expiring κ α :=
  m.set k (f (m.get now k)) (((m.entry k).filter (·.live now)).bind (·.expiresAt))

/-- A new expiry for the live entry at a key, if there is one. -/
def expire (m : Expiring κ α) (now : Nat) (k : κ) (expiresAt : Nat) : Expiring κ α :=
  match m.get now k with
  | none => m
  | some value => m.set k value (some expiresAt)

/-- No entry expires from `now` to `later`. -/
def keepsUntil (m : Expiring κ α) (now later : Nat) : Bool :=
  m.entries.all fun e => !e.2.live now || e.2.live later

/-- The keys that are there. -/
def keys (m : Expiring κ α) (now : Nat) : List κ :=
  (m.entries.filter fun e => e.2.live now).map Prod.fst

variable {m : Expiring κ α} {now : Nat} {k k' : κ} {value : α} {expiresAt : Option Nat}

@[simp] theorem get_empty : (empty : Expiring κ α).get now k = none := rfl

theorem entry_erase (m : Expiring κ α) (k k' : κ) :
    (m.erase k).entry k' = if k' = k then none else m.entry k' := by
  unfold entry erase
  rw [List.find?_filter]
  split
  next heq =>
    have hnone : m.entries.find? (fun e =>
        decide (decide (e.1 ≠ k) = true ∧ decide (e.1 = k') = true)) = none := by
      rw [List.find?_eq_none]
      intro e _ h
      obtain ⟨hne, hkey⟩ := of_decide_eq_true h
      exact of_decide_eq_true hne ((of_decide_eq_true hkey).trans heq)
    rw [hnone]
    rfl
  next hne =>
    have hsame : (fun e : κ × ExpiringEntry α =>
        decide (decide (e.1 ≠ k) = true ∧ decide (e.1 = k') = true)) =
        fun e => decide (e.1 = k') := by
      funext e
      rw [decide_eq_decide, decide_eq_true_eq, decide_eq_true_eq, and_iff_right_iff_imp]
      rintro rfl
      exact hne
    rw [hsame]

theorem entry_set :
    (m.set k value expiresAt).entry k' =
      if k' = k then some ⟨value, expiresAt⟩ else m.entry k' := by
  have hrest := entry_erase m k k'
  unfold entry at hrest ⊢
  rw [set, List.find?_cons]
  by_cases hk : k = k'
  · subst hk
    simp
  · have hk' : ¬k' = k := fun h => hk h.symm
    simp only [hk, hk', decide_false, if_false] at hrest ⊢
    exact hrest

theorem get_erase : (m.erase k).get now k' = if k' = k then none else m.get now k' := by
  rw [get, entry_erase, get]
  split <;> rfl

@[simp] theorem get_erase_same : (m.erase k).get now k = none := by
  rw [get_erase, if_pos rfl]

theorem get_eraseAll {ks : List κ} :
    (m.eraseAll ks).get now k = if k ∈ ks then none else m.get now k := by
  induction ks generalizing m with
  | nil => rfl
  | cons k' ks ih =>
    show ((m.erase k').eraseAll ks).get now k = _
    rw [ih, get_erase]
    by_cases hmem : k ∈ ks
    · rw [if_pos hmem, if_pos (List.mem_cons_of_mem _ hmem)]
    · rw [if_neg hmem]
      by_cases hk : k = k'
      · rw [if_pos hk, if_pos (hk ▸ List.mem_cons_self)]
      · rw [if_neg hk, if_neg fun h => (List.mem_cons.mp h).elim hk hmem]

/-- A value is there until it expires. -/
theorem get_set :
    (m.set k value expiresAt).get now k' =
      if k' = k then (if ExpiringEntry.live now ⟨value, expiresAt⟩ then some value else none)
      else m.get now k' := by
  rw [get, entry_set, get]
  split
  · by_cases hlive : ExpiringEntry.live now ⟨value, expiresAt⟩ = true
    · rw [Option.filter_some, if_pos hlive, if_pos hlive]
      rfl
    · rw [Option.filter_some, if_neg hlive, if_neg hlive]
      rfl
  · rfl

theorem get_set_other (h : k' ≠ k) : (m.set k value expiresAt).get now k' = m.get now k' := by
  rw [get_set, if_neg h]

/-- A value with a time to live is there now. -/
theorem get_set_ttl {ttl : Nat} (h : 0 < ttl) :
    (m.set k value (some (now + ttl))).get now k = some value := by
  rw [get_set, if_pos rfl, if_pos]
  exact decide_eq_true (Nat.lt_add_of_pos_right h)

theorem get_update {f : Option α → α} :
    (m.update now k f).get now k' = if k' = k then some (f (m.get now k)) else m.get now k' := by
  rw [update, get_set]
  split
  · refine if_pos ?_
    rcases hentry : m.entry k with _ | e
    · rfl
    · by_cases hlive : e.live now = true
      · rw [Option.filter_some, if_pos hlive]
        exact hlive
      · rw [Option.filter_some, if_neg hlive]
        rfl
  · rfl

/-- A later expiry changes no value now. -/
theorem get_expire {ttl : Nat} (h : 0 < ttl) :
    (m.expire now k (now + ttl)).get now k' = m.get now k' := by
  unfold expire
  split
  · rfl
  next value hvalue =>
    by_cases hk : k' = k
    · rw [hk, get_set_ttl h, hvalue]
    · exact get_set_other hk

/-- A value that is changed and given an expiry is there until then. -/
theorem get_update_expire {f : Option α → α} {ttl later : Nat} :
    ((m.update now k f).expire now k (now + ttl)).get later k' =
      if k' = k then (if later < now + ttl then some (f (m.get now k)) else none)
      else m.get later k' := by
  have hupdated : (m.update now k f).get now k = some (f (m.get now k)) := by
    rw [get_update, if_pos rfl]
  unfold expire
  rw [hupdated, get_set]
  split
  · simp only [ExpiringEntry.live, decide_eq_true_eq]
  next hk => exact get_set_other hk

theorem live_of_later {e : ExpiringEntry α} {later : Nat} (hle : now ≤ later)
    (h : e.live later = true) : e.live now = true := by
  unfold ExpiringEntry.live at h ⊢
  split at h
  · rfl
  · exact decide_eq_true (Nat.lt_of_le_of_lt hle (of_decide_eq_true h))

theorem get_later {later : Nat} (hle : now ≤ later) (h : m.keepsUntil now later = true) :
    m.get later k = m.get now k := by
  unfold get
  rcases hentry : m.entry k with _ | e
  · rfl
  · obtain ⟨p, hp, rfl⟩ := Option.map_eq_some_iff.mp hentry
    have hkeeps := List.all_eq_true.mp h p (List.mem_of_find?_eq_some hp)
    by_cases hnow : p.2.live now = true
    · rw [hnow] at hkeeps
      rw [Option.filter_some, Option.filter_some, if_pos hnow, if_pos (by simpa using hkeeps)]
    · have hlater : ¬p.2.live later = true := fun hlater => hnow (live_of_later hle hlater)
      rw [Option.filter_some, Option.filter_some, if_neg hnow, if_neg hlater]

/-- What is there later is there now. -/
theorem get_of_later {later : Nat} (hle : now ≤ later) (h : m.get later k = some value) :
    m.get now k = some value := by
  obtain ⟨e, he, hvalue⟩ := Option.map_eq_some_iff.mp h
  obtain ⟨hentry, hlive⟩ := Option.filter_eq_some_iff.mp he
  refine Option.map_eq_some_iff.mpr ⟨e, ?_, hvalue⟩
  exact Option.filter_eq_some_iff.mpr ⟨hentry, live_of_later hle hlive⟩

end Expiring

end AccessService.Lib
