/-
  AccessService.Lib.RowLocks

  Transactions over the rows of a table, interleaved statement by statement at READ COMMITTED.
  A SELECT sees the rows that are committed.  SELECT FOR UPDATE and UPDATE wait for the lock on
  their row, work on the row as it is committed then, and keep the lock until the transaction
  ends; what it has written is there for others when it commits.  A transaction may be rolled
  back at any time.

  What a program says of the rows it has locked holds when it commits (`Governed.commits`), and
  a row that is closed stays so (`Governed.closed_stays`).
-/

import AccessService.Lib.Rows
import AccessService.Lib.Table
import AccessService.Lib.Transition

namespace AccessService.Lib.RowLocks

open Transition

variable {α κ υ ρ : Type} {key : α → κ}

-- ============================================================================
-- Programs
-- ============================================================================

/-- What a transaction has left to do: `α` are the rows of the table and `κ` their keys, `υ`
    are rows elsewhere that it locks, and `ρ` is what it answers. -/
inductive Program (α κ υ ρ : Type) where
  | commit (result : ρ)
  | rollback
  /-- A SELECT, or a look at the clock. -/
  | select (next : List α → ℕ → Program α κ υ ρ)
  | lock (row : κ) (next : Option α → Program α κ υ ρ)
  | lockOther (row : υ) (next : Program α κ υ ρ)
  | update (row : κ) (set : α → α) (next : Program α κ υ ρ)
  | insert (a : α) (next : Program α κ υ ρ)
  /-- What statements about other tables and calls of other services answer. -/
  | ask (next : Bool → Program α κ υ ρ)

structure Transaction (α : Type) {κ : Type} (key : α → κ) (υ ρ : Type) where
  program : Program α κ υ ρ
  /-- The locked rows. -/
  rows : List κ := []
  others : List υ := []
  writes : Keyed α key := .empty

inductive Thread (α : Type) {κ : Type} (key : α → κ) (υ ρ : Type) where
  | running (t : Transaction α key υ ρ)
  | committed (result : ρ)
  | rolledBack

namespace Thread

def rows : Thread α key υ ρ → List κ
  | .running t => t.rows
  | _ => []

def others : Thread α key υ ρ → List υ
  | .running t => t.others
  | _ => []

def writes : Thread α key υ ρ → List α
  | .running t => t.writes.rows
  | _ => []

end Thread

/-- The clock, the committed rows and the transactions. -/
structure State (α : Type) {κ : Type} (key : α → κ) (υ ρ : Type) where
  now : ℕ
  table : Keyed α key
  threads : List (Thread α key υ ρ)

-- ============================================================================
-- Statements
-- ============================================================================

section Statements

variable [DecidableEq κ]

/-- The row as the transaction sees it. -/
def Transaction.view (t : Transaction α key υ ρ) (table : Keyed α key) (row : κ) : Option α :=
  (t.writes.rowAt row).or (table.rowAt row)

namespace State

def put (s : State α key υ ρ) (i : ℕ) (table : Keyed α key) (thread : Thread α key υ ρ) :
    State α key υ ρ where
  now := s.now
  table := table
  threads := s.threads.set i thread

/-- No transaction but the `i`-th has the lock. -/
def unlocked (s : State α key υ ρ) (i : ℕ) (row : κ) : Bool :=
  (s.threads.eraseIdx i).all fun thread => row ∉ thread.rows

def unlockedOther [DecidableEq υ] (s : State α key υ ρ) (i : ℕ) (row : υ) : Bool :=
  (s.threads.eraseIdx i).all fun thread => row ∉ thread.others

/-- A unique index has the row wait for what another transaction has not committed yet. -/
def mustWait (conflicts : α → α → Bool) (s : State α key υ ρ) (i : ℕ) (a : α) : Bool :=
  (s.threads.eraseIdx i).any fun thread => thread.writes.any fun w =>
    conflicts a w || (s.table.rowAt (key w)).any (conflicts a)

/-- The next statement, if it need not wait: the rows committed after it, and how far the
    transaction is. -/
def statement [DecidableEq υ] (conflicts : α → α → Bool) (s : State α key υ ρ) (i : ℕ)
    (answer : Bool) (t : Transaction α key υ ρ) : Option (Keyed α key × Thread α key υ ρ) :=
  match t.program with
  | .commit result => some (s.table.upsertAll t.writes.rows, .committed result)
  | .rollback => some (s.table, .rolledBack)
  | .select next => some (s.table, .running { t with program := next s.table.rows s.now })
  | .ask next => some (s.table, .running { t with program := next answer })
  | .lock row next =>
    match t.view s.table row with
    | none => some (s.table, .running { t with program := next none })
    | some a =>
      if s.unlocked i row then
        some (s.table, .running { t with program := next (some a), rows := row :: t.rows })
      else none
  | .lockOther row next =>
    if s.unlockedOther i row then
      some (s.table, .running { t with program := next, others := row :: t.others })
    else none
  | .update row set next =>
    match t.view s.table row with
    | none => some (s.table, .running { t with program := next })
    | some a =>
      if s.unlocked i row then
        some (s.table, .running
          { t with
            program := next
            rows := row :: t.rows
            writes := t.writes.upsert (set a) })
      else none
  | .insert a next =>
    if s.unlocked i (key a) && !s.mustWait conflicts i a then
      if (s.table.upsertAll t.writes.rows).rows.any (fun b => key b = key a || conflicts a b) then
        some (s.table, .rolledBack)
      else
        some (s.table, .running
          { t with
            program := next
            rows := key a :: t.rows
            writes := t.writes.upsert a })
    else none

end State

inductive Turn where
  | next (i : ℕ) (answer : Bool)
  | abort (i : ℕ)
  | tick (elapsed : ℕ)
  deriving DecidableEq

def system [DecidableEq υ] (init : State α key υ ρ → Prop) (conflicts : α → α → Bool) :
    System (State α key υ ρ) Turn where
  init := init
  step s
    | .next i answer =>
      match s.threads[i]? with
      | some (.running t) =>
        (s.statement conflicts i answer t).map fun (table, thread) => s.put i table thread
      | _ => none
    | .abort i =>
      match s.threads[i]? with
      | some (.running _) => some (s.put i s.table .rolledBack)
      | _ => none
    | .tick elapsed => some { s with now := s.now + elapsed }

-- ============================================================================
-- Moves
-- ============================================================================

variable {conflicts : α → α → Bool} {init : State α key υ ρ → Prop} {s s' : State α key υ ρ}
  {t t' : Transaction α key υ ρ} {i j : ℕ}

/-- What a statement does to the committed rows and to its transaction. -/
inductive Move (s : State α key υ ρ) (i : ℕ) (t : Transaction α key υ ρ) :
    Keyed α key → Thread α key υ ρ → Prop where
  | commits {result} (h : t.program = .commit result) :
      Move s i t (s.table.upsertAll t.writes.rows) (.committed result)
  | rollsBack : Move s i t s.table .rolledBack
  | selects {next} (h : t.program = .select next) :
      Move s i t s.table (.running { t with program := next s.table.rows s.now })
  | asks {next} (answer) (h : t.program = .ask next) :
      Move s i t s.table (.running { t with program := next answer })
  | misses {row next} (h : t.program = .lock row next) :
      Move s i t s.table (.running { t with program := next none })
  | locks {row next a} (h : t.program = .lock row next) (hview : t.view s.table row = some a)
      (hfree : s.unlocked i row = true) :
      Move s i t s.table (.running { t with program := next (some a), rows := row :: t.rows })
  | locksOther {row next} (h : t.program = .lockOther row next) :
      Move s i t s.table (.running { t with program := next, others := row :: t.others })
  | updatesNone {row set next} (h : t.program = .update row set next)
      (hview : t.view s.table row = none) :
      Move s i t s.table (.running { t with program := next })
  | updates {row set next a} (h : t.program = .update row set next)
      (hview : t.view s.table row = some a) (hfree : s.unlocked i row = true) :
      Move s i t s.table (.running
        { t with program := next, rows := row :: t.rows, writes := t.writes.upsert (set a) })
  | inserts {a next} (h : t.program = .insert a next) (hfree : s.unlocked i (key a) = true)
      (hnew : (s.table.upsertAll t.writes.rows).rowAt (key a) = none) :
      Move s i t s.table (.running
        { t with program := next, rows := key a :: t.rows, writes := t.writes.upsert a })

theorem move_of_statement [DecidableEq υ] {answer : Bool} {table : Keyed α key}
    {thread : Thread α key υ ρ} (h : s.statement conflicts i answer t = some (table, thread)) :
    Move s i t table thread := by
  unfold State.statement at h
  split at h
  next result hprogram =>
    cases h
    exact .commits hprogram
  next hprogram =>
    cases h
    exact .rollsBack
  next next hprogram =>
    cases h
    exact .selects hprogram
  next next hprogram =>
    cases h
    exact .asks answer hprogram
  next row next hprogram =>
    split at h
    · cases h
      exact .misses hprogram
    next a hview =>
      split at h
      next hfree =>
        cases h
        exact .locks hprogram hview hfree
      · cases h
  next row next hprogram =>
    split at h
    · cases h
      exact .locksOther hprogram
    · cases h
  next row set next hprogram =>
    split at h
    next hview =>
      cases h
      exact .updatesNone hprogram hview
    next a hview =>
      split at h
      next hfree =>
        cases h
        exact .updates hprogram hview hfree
      · cases h
  next a next hprogram =>
    split at h
    next hfree =>
      split at h
      · cases h
        exact .rollsBack
      next hnew =>
        cases h
        refine .inserts hprogram (Bool.and_eq_true_iff.mp hfree).1 ?_
        rw [Keyed.rowAt, List.find?_eq_none]
        intro b hb hkey
        refine hnew (List.any_eq_true.mpr ⟨b, hb, ?_⟩)
        rw [hkey, Bool.true_or]
    · cases h

/-- A step is time that passes, or a move of one transaction. -/
theorem step_cases [DecidableEq υ] {turn : Turn}
    (h : (system init conflicts).step s turn = some s') :
    (∃ elapsed, s' = { s with now := s.now + elapsed }) ∨
    ∃ i t table thread, s.threads[i]? = some (.running t) ∧ Move s i t table thread ∧
      s' = s.put i table thread := by
  cases turn with
  | tick elapsed => exact .inl ⟨elapsed, (Option.some.inj h).symm⟩
  | abort i =>
    right
    simp only [system] at h
    split at h
    next t hthread =>
      exact ⟨i, t, s.table, .rolledBack, hthread, .rollsBack, (Option.some.inj h).symm⟩
    · cases h
  | next i answer =>
    right
    simp only [system] at h
    split at h
    next t hthread =>
      obtain ⟨⟨table, thread⟩, hstatement, hput⟩ := Option.map_eq_some_iff.mp h
      exact ⟨i, t, table, thread, hthread, move_of_statement hstatement, hput.symm⟩
    · cases h

/-- In a step one transaction at most ends. -/
theorem one_moves [DecidableEq υ] {turn : Turn} {thread thread' : Thread α key υ ρ}
    (hstep : (system init conflicts).step s turn = some s') (hi : s.threads[i]? ≠ some thread)
    (hi' : s'.threads[i]? = some thread) (hj : s.threads[j]? ≠ some thread')
    (hj' : s'.threads[j]? = some thread') : i = j := by
  rcases step_cases hstep with ⟨elapsed, rfl⟩ | ⟨l, t, table, moved, hthread, -, rfl⟩
  · exact absurd hi' hi
  · rcases (Rows.getElem?_set_row hthread).mp hi' with ⟨rfl, -⟩ | ⟨-, hold⟩
    · rcases (Rows.getElem?_set_row hthread).mp hj' with ⟨rfl, -⟩ | ⟨-, hold⟩
      · rfl
      · exact absurd hold hj
    · exact absurd hold hi

-- ============================================================================
-- A transaction by itself
-- ============================================================================

section Alone

/-- The program runs by itself from what it has written to a commit, which leaves the rows
    `left`. -/
inductive RunsAlone (conflicts : α → α → Bool) (now : ℕ) (table : Keyed α key) :
    Program α κ υ ρ → Keyed α key → Keyed α key → ρ → Prop where
  | commits {writes result} :
      RunsAlone conflicts now table (.commit result) writes (table.upsertAll writes.rows) result
  | selects {next writes left result}
      (h : RunsAlone conflicts now table (next table.rows now) writes left result) :
      RunsAlone conflicts now table (.select next) writes left result
  | asks {next writes left result} (answer : Bool)
      (h : RunsAlone conflicts now table (next answer) writes left result) :
      RunsAlone conflicts now table (.ask next) writes left result
  | locks {row next writes left result a}
      (hview : (writes.rowAt row).or (table.rowAt row) = some a)
      (h : RunsAlone conflicts now table (next (some a)) writes left result) :
      RunsAlone conflicts now table (.lock row next) writes left result
  | locksOther {row next writes left result}
      (h : RunsAlone conflicts now table next writes left result) :
      RunsAlone conflicts now table (.lockOther row next) writes left result
  | updates {row set next writes left result a}
      (hview : (writes.rowAt row).or (table.rowAt row) = some a)
      (h : RunsAlone conflicts now table next (writes.upsert (set a)) left result) :
      RunsAlone conflicts now table (.update row set next) writes left result
  | inserts {a next writes left result}
      (hnew : (table.upsertAll writes.rows).rows.any
        (fun b => key b = key a || conflicts a b) = false)
      (h : RunsAlone conflicts now table next (writes.upsert a) left result) :
      RunsAlone conflicts now table (.insert a next) writes left result

/-- So does the system of one transaction. -/
theorem RunsAlone.steps [DecidableEq υ] {now : ℕ} {table writes left : Keyed α key}
    {program : Program α κ υ ρ} {result : ρ}
    (h : RunsAlone conflicts now table program writes left result) (rows : List κ)
    (others : List υ) :
    (system init conflicts).Steps Always ⟨now, table, [.running ⟨program, rows, others, writes⟩]⟩
      ⟨now, left, [.committed result]⟩ := by
  induction h generalizing rows others with
  | commits => exact .single ⟨.next 0 true, trivial, rfl⟩
  | selects _ ih => exact .head ⟨.next 0 true, trivial, rfl⟩ (ih rows others)
  | asks answer _ ih => exact .head ⟨.next 0 answer, trivial, rfl⟩ (ih rows others)
  | @locks row next writes _ _ a hview _ ih =>
    refine .head ⟨.next 0 true, trivial, ?_⟩ (ih (row :: rows) others)
    simp [system, State.statement, State.unlocked, State.put, Transaction.view, hview]
  | @locksOther row _ _ _ _ _ ih =>
    exact .head ⟨.next 0 true, trivial, rfl⟩ (ih rows (row :: others))
  | @updates row set next writes _ _ a hview _ ih =>
    refine .head ⟨.next 0 true, trivial, ?_⟩ (ih (row :: rows) others)
    simp [system, State.statement, State.unlocked, State.put, Transaction.view, hview]
  | @inserts a next writes _ _ hnew _ ih =>
    refine .head ⟨.next 0 true, trivial, ?_⟩ (ih (key a :: rows) others)
    simp only [system, List.getElem?_cons_zero, State.statement, State.unlocked, State.mustWait,
      List.eraseIdx_cons_zero, List.all_nil, List.any_nil, Bool.not_false, Bool.and_self, if_true,
      hnew, Bool.false_eq_true, if_false, Option.map_some, State.put, List.set_cons_zero]

end Alone

-- ============================================================================
-- What programs say of the rows they have locked
-- ============================================================================

section Governed

variable (isOpen : α → Bool) (Q : List α → List κ → ρ → Prop)

/-- The update opens no row that is closed. -/
def Shuts (key : α → κ) (set : α → α) : Prop :=
  ∀ a, key (set a) = key a ∧ (isOpen a = false → isOpen (set a) = false)

/-- The program opens no closed row, and answers only what `Q` says of the rows it has locked
    as they were committed, before it wrote any, and of the rows it has closed since. -/
def Program.Sound (key : α → κ) :
    Program α κ υ ρ → (wrote : Bool) → (known : List α) → (shut : List κ) → Prop
  | .commit result, _, known, shut => Q known shut result
  | .rollback, _, _, _ => True
  | .select next, wrote, known, shut => ∀ rows now, (next rows now).Sound key wrote known shut
  | .ask next, wrote, known, shut => ∀ answer, (next answer).Sound key wrote known shut
  | .lock row next, wrote, known, shut =>
    (next none).Sound key wrote known shut ∧
      ∀ a, key a = row →
        (next (some a)).Sound key wrote (if wrote then known else a :: known) shut
  | .lockOther _ next, wrote, known, shut => next.Sound key wrote known shut
  | .update row set next, _, known, shut =>
    Shuts isOpen key set ∧
      (next.Sound key true known shut ∨
        (∃ a ∈ known, key a = row) ∧ (∀ a, isOpen (set a) = false) ∧
          next.Sound key true known (row :: shut))
  | .insert _ next, _, known, shut => next.Sound key true known shut

/-- What is known of a transaction's rows is so. -/
structure Holds (s : State α key υ ρ) (t : Transaction α key υ ρ) (wrote : Bool)
    (known : List α) (shut : List κ) : Prop where
  sound : t.program.Sound isOpen Q key wrote known shut
  clean : wrote = false → t.writes.rows = []
  known : ∀ a ∈ known, key a ∈ t.rows ∧ s.table.rowAt (key a) = some a
  written : ∀ w ∈ t.writes.rows, key w ∈ t.rows ∧
    ∀ a, s.table.rowAt (key w) = some a → isOpen a = false → isOpen w = false
  shut : ∀ k ∈ shut, ∃ w, t.writes.rowAt k = some w ∧ isOpen w = false

/-- Each lock has one holder, and all transactions do what their programs say. -/
structure Governed (s : State α key υ ρ) : Prop where
  apart : ∀ (i j : ℕ) (t t' : Transaction α key υ ρ), i ≠ j →
    s.threads[i]? = some (.running t) → s.threads[j]? = some (.running t') →
      ∀ k ∈ t.rows, k ∉ t'.rows
  holds : ∀ (i : ℕ) (t : Transaction α key υ ρ), s.threads[i]? = some (.running t) →
    ∃ wrote known shut, Holds isOpen Q s t wrote known shut

variable {isOpen} {Q} {wrote : Bool} {known : List α} {shut : List κ} {table : Keyed α key}
  {thread : Thread α key υ ρ} {row : κ} {a : α}

theorem not_mem_of_unlocked {k : κ} (h : s.unlocked i k = true)
    (hj : s.threads[j]? = some (.running t)) (hij : i ≠ j) : k ∉ t.rows := by
  have hmem : Thread.running t ∈ s.threads.eraseIdx i :=
    List.mem_eraseIdx_iff_getElem?.mpr ⟨j, fun heq => hij heq.symm, hj⟩
  exact of_decide_eq_true (List.all_eq_true.mp h _ hmem)

/-- Only the rows that a transaction has locked matter to it. -/
theorem Holds.frame (h : Holds isOpen Q s t wrote known shut)
    (hsame : ∀ k ∈ t.rows, s'.table.rowAt k = s.table.rowAt k) :
    Holds isOpen Q s' t wrote known shut where
  sound := h.sound
  clean := h.clean
  known a ha := by
    obtain ⟨hlocked, hrow⟩ := h.known a ha
    exact ⟨hlocked, (hsame _ hlocked).trans hrow⟩
  written w hw := by
    obtain ⟨hlocked, hshuts⟩ := h.written w hw
    refine ⟨hlocked, fun a ha => ?_⟩
    rw [hsame _ hlocked] at ha
    exact hshuts a ha
  shut := h.shut

/-- What a transaction commits. -/
theorem rowAt_committed {k : κ} :
    (s.table.upsertAll t.writes.rows).rowAt k = (t.writes.rowAt k).or (s.table.rowAt k) :=
  Keyed.rowAt_upsertAll t.writes.nodup

/-- A transaction writes locked rows only. -/
theorem Holds.writes_none (h : Holds isOpen Q s t wrote known shut) {k : κ} (hk : k ∉ t.rows) :
    t.writes.rowAt k = none := by
  rcases hrow : t.writes.rowAt k with _ | w
  · rfl
  · obtain ⟨hmem, rfl⟩ := Keyed.rowAt_eq_some.mp hrow
    exact absurd (h.written w hmem).1 hk

-- ============================================================================
-- One move
-- ============================================================================

theorem Holds.view_key (h : t.view s.table row = some a) : key a = row := by
  unfold Transaction.view at h
  rcases Option.or_eq_some_iff.mp h with h | ⟨-, h⟩
  · exact (Keyed.rowAt_eq_some.mp h).2
  · exact (Keyed.rowAt_eq_some.mp h).2

/-- More locks and another program. -/
theorem Holds.extend {t' : Transaction α key υ ρ} (h : Holds isOpen Q s t wrote known shut)
    (hrows : ∀ k ∈ t.rows, k ∈ t'.rows) (hwrites : t'.writes = t.writes)
    (hsound : t'.program.Sound isOpen Q key wrote known shut) :
    Holds isOpen Q s t' wrote known shut where
  sound := hsound
  clean hnot := by rw [hwrites, h.clean hnot]
  known a ha := ⟨hrows _ (h.known a ha).1, (h.known a ha).2⟩
  written w hw := by
    rw [hwrites] at hw
    exact ⟨hrows _ (h.written w hw).1, (h.written w hw).2⟩
  shut := by
    rw [hwrites]
    exact h.shut

theorem Holds.locked {next : Program α κ υ ρ}
    (h : Holds isOpen Q s t wrote known shut) (hview : t.view s.table row = some a)
    (hsound : next.Sound isOpen Q key wrote (if wrote then known else a :: known) shut) :
    Holds isOpen Q s { t with program := next, rows := row :: t.rows } wrote
      (if wrote then known else a :: known) shut where
  sound := hsound
  clean := h.clean
  known b hb := by
    have hold : b ∈ known → key b ∈ row :: t.rows ∧ s.table.rowAt (key b) = some b := fun hb =>
      ⟨List.mem_cons_of_mem _ (h.known b hb).1, (h.known b hb).2⟩
    cases wrote with
    | true => exact hold hb
    | false =>
      rcases List.mem_cons.mp hb with rfl | hb
      · have hkey := Holds.view_key hview
        refine ⟨hkey ▸ List.mem_cons_self, ?_⟩
        have hnone : t.writes.rowAt row = none := by
          rw [Keyed.rowAt, h.clean rfl]
          rfl
        rwa [Transaction.view, hnone, Option.none_or, ← hkey] at hview
      · exact hold hb
  written w hw := ⟨List.mem_cons_of_mem _ (h.written w hw).1, (h.written w hw).2⟩
  shut := h.shut

/-- A written row is as closed as the one it takes the place of. -/
theorem Holds.overwrites {b : α} {next : Program α κ υ ρ} {shut' : List κ}
    (h : Holds isOpen Q s t wrote known shut) (hkey : key b = row)
    (hclosed : ∀ a, s.table.rowAt row = some a → isOpen a = false → isOpen b = false)
    (hstays : ∀ w, t.writes.rowAt row = some w → isOpen w = false → isOpen b = false)
    (hshut : ∀ k ∈ shut', k ∈ shut ∨ (k = row ∧ isOpen b = false))
    (hsound : next.Sound isOpen Q key true known shut') :
    Holds isOpen Q s
      { t with program := next, rows := row :: t.rows, writes := t.writes.upsert b } true known
      shut' where
  sound := hsound
  clean := nofun
  known a ha := ⟨List.mem_cons_of_mem _ (h.known a ha).1, (h.known a ha).2⟩
  written w hw := by
    have hrow := Keyed.rowAt_eq_some.mpr ⟨hw, rfl⟩
    rw [Keyed.rowAt_upsert] at hrow
    split at hrow
    next hsame =>
      obtain rfl := Option.some.inj hrow
      rw [hkey]
      exact ⟨List.mem_cons_self, hclosed⟩
    · obtain ⟨hmem, -⟩ := Keyed.rowAt_eq_some.mp hrow
      exact ⟨List.mem_cons_of_mem _ (h.written w hmem).1, (h.written w hmem).2⟩
  shut k hk := by
    show ∃ w, (t.writes.upsert b).rowAt k = some w ∧ _
    rw [Keyed.rowAt_upsert, hkey]
    rcases hshut k hk with hold | ⟨rfl, hb⟩
    · obtain ⟨w, hw, hwclosed⟩ := h.shut k hold
      split
      next hsame =>
        subst hsame
        exact ⟨b, rfl, hstays w hw hwclosed⟩
      · exact ⟨w, hw, hwclosed⟩
    · rw [if_pos rfl]
      exact ⟨b, rfl, hb⟩

/-- A move of a transaction that goes on. -/
theorem Move.holds (hmove : Move s i t table (.running t'))
    (h : Holds isOpen Q s t wrote known shut) :
    table = s.table ∧ ∃ wrote known shut, Holds isOpen Q s t' wrote known shut := by
  have hsound := h.sound
  cases hmove with
  | selects hprogram =>
    rw [hprogram] at hsound
    exact ⟨rfl, _, _, _, h.extend (fun _ hk => hk) rfl (hsound _ _)⟩
  | asks answer hprogram =>
    rw [hprogram] at hsound
    exact ⟨rfl, _, _, _, h.extend (fun _ hk => hk) rfl (hsound answer)⟩
  | misses hprogram =>
    rw [hprogram] at hsound
    exact ⟨rfl, _, _, _, h.extend (fun _ hk => hk) rfl hsound.1⟩
  | locksOther hprogram =>
    rw [hprogram] at hsound
    exact ⟨rfl, _, _, _, h.extend (fun _ hk => hk) rfl hsound⟩
  | locks hprogram hview hfree =>
    rw [hprogram] at hsound
    exact ⟨rfl, _, _, _, h.locked hview (hsound.2 _ (Holds.view_key hview))⟩
  | @updatesNone row set next hprogram hview =>
    rw [hprogram] at hsound
    obtain ⟨-, hsound | ⟨⟨a, ha, rfl⟩, -, -⟩⟩ := hsound
    · refine ⟨rfl, true, known, shut, ?_⟩
      exact ⟨hsound, nofun, h.known, h.written, h.shut⟩
    · rw [Transaction.view, (h.known a ha).2] at hview
      cases hwrites : t.writes.rowAt (key a) <;> rw [hwrites] at hview <;> cases hview
  | @updates row set next a hprogram hview hfree =>
    rw [hprogram] at hsound
    obtain ⟨hshuts, hsound⟩ := hsound
    have hkey : key (set a) = row := (hshuts a).1.trans (Holds.view_key hview)
    have hstays : ∀ w, t.writes.rowAt row = some w → isOpen w = false →
        isOpen (set a) = false := by
      intro w hw hclosed
      rw [Transaction.view, hw] at hview
      obtain rfl := Option.some.inj hview
      exact (hshuts _).2 hclosed
    have hclosed : ∀ b, s.table.rowAt row = some b → isOpen b = false →
        isOpen (set a) = false := by
      intro b hb hclosed
      rcases hwrites : t.writes.rowAt row with _ | w
      · rw [Transaction.view, hwrites, hb] at hview
        obtain rfl := Option.some.inj hview
        exact (hshuts _).2 hclosed
      · obtain ⟨hmem, hwkey⟩ := Keyed.rowAt_eq_some.mp hwrites
        refine hstays w hwrites ((h.written w hmem).2 b ?_ hclosed)
        rw [hwkey, hb]
    rcases hsound with hsound | ⟨-, hcloses, hsound⟩
    · exact ⟨rfl, _, _, _, h.overwrites hkey hclosed hstays (fun k hk => .inl hk) hsound⟩
    · refine ⟨rfl, _, _, _, h.overwrites hkey hclosed hstays (fun k hk => ?_) hsound⟩
      exact (List.mem_cons.mp hk).symm.imp id fun heq => ⟨heq, hcloses a⟩
  | @inserts a next hprogram hfree hnew =>
    rw [hprogram] at hsound
    rw [rowAt_committed, Option.or_eq_none_iff] at hnew
    refine ⟨rfl, _, _, _, h.overwrites rfl (fun b hb => ?_) (fun w hw => ?_) (fun k hk => .inl hk)
      hsound⟩
    · rw [hnew.2] at hb
      cases hb
    · rw [hnew.1] at hw
      cases hw

/-- New locks were free. -/
theorem Move.mem_rows (hmove : Move s i t table (.running t')) {k : κ}
    (hk : k ∈ t'.rows) : k ∈ t.rows ∨ s.unlocked i k = true := by
  have hnew : ∀ row, s.unlocked i row = true → k ∈ row :: t.rows →
      k ∈ t.rows ∨ s.unlocked i k = true := by
    intro row hfree hmem
    rcases List.mem_cons.mp hmem with rfl | hmem
    · exact .inr hfree
    · exact .inl hmem
  cases hmove with
  | locks _ _ hfree => exact hnew _ hfree hk
  | updates _ _ hfree => exact hnew _ hfree hk
  | inserts _ hfree _ => exact hnew _ hfree hk
  | _ => exact .inl hk

/-- Rows that a transaction has not locked are committed as they were. -/
theorem Move.frame (hmove : Move s i t table thread) (h : Holds isOpen Q s t wrote known shut)
    {k : κ} (hk : k ∉ t.rows) : table.rowAt k = s.table.rowAt k := by
  cases hmove with
  | commits _ => rw [rowAt_committed, h.writes_none hk, Option.none_or]
  | _ => rfl

-- ============================================================================
-- All transactions
-- ============================================================================

theorem Governed.put (h : Governed isOpen Q s) (hthread : s.threads[i]? = some (.running t))
    (hmove : Move s i t table thread) : Governed isOpen Q (s.put i table thread) := by
  obtain ⟨wrote, known, shut, hholds⟩ := h.holds i t hthread
  have hnew : ∀ t', thread = .running t' → ∀ k ∈ t'.rows,
      ∀ j t'', i ≠ j → s.threads[j]? = some (.running t'') → k ∉ t''.rows := by
    rintro t' rfl k hk j t'' hij hj
    rcases hmove.mem_rows hk with hold | hfree
    · exact h.apart i j t t'' hij hthread hj k hold
    · exact not_mem_of_unlocked hfree hj hij
  refine ⟨fun j j' t₁ t₂ hne hj hj' k hk hk' => ?_, fun j t₁ hj => ?_⟩
  · rcases (Rows.getElem?_set_row hthread).mp hj with ⟨rfl, hmine⟩ | ⟨-, hother⟩
    · rcases (Rows.getElem?_set_row hthread).mp hj' with ⟨rfl, -⟩ | ⟨-, hother'⟩
      · exact hne rfl
      · exact hnew t₁ hmine.symm k hk j' t₂ hne hother' hk'
    · rcases (Rows.getElem?_set_row hthread).mp hj' with ⟨rfl, hmine⟩ | ⟨-, hother'⟩
      · exact hnew t₂ hmine.symm k hk' j t₁ hne.symm hother hk
      · exact h.apart j j' t₁ t₂ hne hother hother' k hk hk'
  · rcases (Rows.getElem?_set_row hthread).mp hj with ⟨rfl, rfl⟩ | ⟨hji, hj⟩
    · obtain ⟨rfl, wrote', known', shut', hholds'⟩ := hmove.holds hholds
      exact ⟨wrote', known', shut', hholds'.frame fun _ _ => rfl⟩
    · obtain ⟨wrote', known', shut', hholds'⟩ := h.holds j t₁ hj
      refine ⟨wrote', known', shut', hholds'.frame fun k hk => ?_⟩
      exact hmove.frame hholds (h.apart j i t₁ t hji hj hthread k hk)

theorem Governed.tick (h : Governed isOpen Q s) (elapsed : ℕ) :
    Governed isOpen Q { s with now := s.now + elapsed } where
  apart := h.apart
  holds i t ht := by
    obtain ⟨wrote, known, shut, hholds⟩ := h.holds i t ht
    exact ⟨wrote, known, shut, hholds.frame fun _ _ => rfl⟩

theorem Governed.step [DecidableEq υ] {turn : Turn} (h : Governed isOpen Q s)
    (hstep : (system init conflicts).step s turn = some s') : Governed isOpen Q s' := by
  rcases step_cases hstep with ⟨elapsed, rfl⟩ | ⟨i, t, table, thread, hthread, hmove, rfl⟩
  · exact h.tick elapsed
  · exact h.put hthread hmove

/-- Transactions that are about to begin, with programs that may be relied on. -/
theorem governed_begun (h : ∀ (i : ℕ) (t : Transaction α key υ ρ),
    s.threads[i]? = some (.running t) →
      t.rows = [] ∧ t.writes.rows = [] ∧ t.program.Sound isOpen Q key false [] []) :
    Governed isOpen Q s where
  apart i j t t' _ hi _ k hk := by
    rw [(h i t hi).1] at hk
    cases hk
  holds i t hi := by
    obtain ⟨-, hwrites, hsound⟩ := h i t hi
    refine ⟨false, [], [], hsound, fun _ => hwrites, nofun, fun w hw => ?_, nofun⟩
    rw [hwrites] at hw
    cases hw

theorem Governed.steps [DecidableEq υ] {P : State α key υ ρ → Turn → Prop}
    (h : Governed isOpen Q s) (hsteps : (system init conflicts).Steps P s s') :
    Governed isOpen Q s' := by
  induction hsteps with
  | refl => exact h
  | tail _ hnext ih =>
    obtain ⟨turn, -, hstep⟩ := hnext
    exact ih.step hstep

-- ============================================================================
-- What transactions leave
-- ============================================================================

/-- The row is there, and closed. -/
def ClosedAt (isOpen : α → Bool) (table : Keyed α key) (k : κ) : Prop :=
  ∃ a, table.rowAt k = some a ∧ isOpen a = false

theorem Governed.closed_step [DecidableEq υ] {turn : Turn} {k : κ} (h : Governed isOpen Q s)
    (hstep : (system init conflicts).step s turn = some s') (hclosed : ClosedAt isOpen s.table k) :
    ClosedAt isOpen s'.table k := by
  rcases step_cases hstep with ⟨elapsed, rfl⟩ | ⟨i, t, table, thread, hthread, hmove, rfl⟩
  · exact hclosed
  · obtain ⟨wrote, known, shut, hholds⟩ := h.holds i t hthread
    obtain ⟨a, ha, haclosed⟩ := hclosed
    cases hmove with
    | commits _ =>
      show ∃ b, (s.table.upsertAll t.writes.rows).rowAt k = some b ∧ _
      rw [rowAt_committed]
      rcases hwrites : t.writes.rowAt k with _ | w
      · exact ⟨a, ha, haclosed⟩
      · obtain ⟨hmem, rfl⟩ := Keyed.rowAt_eq_some.mp hwrites
        exact ⟨w, rfl, (hholds.written w hmem).2 a ha haclosed⟩
    | _ => exact ⟨a, ha, haclosed⟩

/-- Along a run, closed rows stay closed. -/
theorem Governed.closed_stays [DecidableEq υ] {P : State α key υ ρ → Turn → Prop} {k : κ}
    (h : Governed isOpen Q s) (hsteps : (system init conflicts).Steps P s s')
    (hclosed : ClosedAt isOpen s.table k) : ClosedAt isOpen s'.table k := by
  induction hsteps with
  | refl => exact hclosed
  | tail hpre hnext ih =>
    obtain ⟨turn, -, hstep⟩ := hnext
    exact (h.steps hpre).closed_step hstep ih

/-- When a transaction commits, the rows it has read and locked are still as it read them, and
    those it has closed are closed from then on. -/
theorem Governed.commits [DecidableEq υ] {turn : Turn} {result : ρ} (h : Governed isOpen Q s)
    (hstep : (system init conflicts).step s turn = some s')
    (hbefore : s.threads[i]? ≠ some (.committed result))
    (hafter : s'.threads[i]? = some (.committed result)) :
    ∃ known shut, Q known shut result ∧ (∀ a ∈ known, s.table.rowAt (key a) = some a) ∧
      ∀ k ∈ shut, ClosedAt isOpen s'.table k := by
  rcases step_cases hstep with ⟨elapsed, rfl⟩ | ⟨j, t, table, thread, hthread, hmove, rfl⟩
  · exact absurd hafter hbefore
  · rcases (Rows.getElem?_set_row hthread).mp hafter with ⟨rfl, rfl⟩ | ⟨-, hold⟩
    · obtain ⟨wrote, known, shut, hholds⟩ := h.holds i t hthread
      cases hmove with
      | commits hprogram =>
        have hsound := hholds.sound
        rw [hprogram] at hsound
        refine ⟨known, shut, hsound, fun a ha => (hholds.known a ha).2, fun k hk => ?_⟩
        obtain ⟨w, hw, hclosed⟩ := hholds.shut k hk
        refine ⟨w, ?_, hclosed⟩
        show (s.table.upsertAll t.writes.rows).rowAt k = some w
        rw [rowAt_committed, hw]
        rfl
    · exact absurd hold hbefore

/-- A result is granted once: with a row that was open, and is closed by its transaction. -/
theorem Governed.once [DecidableEq υ] {P : State α key υ ρ → Turn → Prop} {about : ρ → Option κ}
    (hQ : ∀ known shut result k, Q known shut result → about result = some k →
      k ∈ shut ∧ ∃ a ∈ known, key a = k ∧ isOpen a = true)
    (h : Governed isOpen Q s)
    (hnone : ∀ (i : ℕ) (result : ρ), s.threads[i]? ≠ some (.committed result))
    (hsteps : (system init conflicts).Steps P s s') :
    (∀ (i : ℕ) (result : ρ) (k : κ), s'.threads[i]? = some (.committed result) →
      about result = some k → ClosedAt isOpen s'.table k) ∧
    ∀ (i j : ℕ) (result result' : ρ) (k : κ), s'.threads[i]? = some (.committed result) →
      s'.threads[j]? = some (.committed result') → about result = some k →
        about result' = some k → i = j := by
  induction hsteps with
  | refl => exact ⟨fun i result _ hi => absurd hi (hnone i result),
      fun i _ result _ _ hi => absurd hi (hnone i result)⟩
  | @tail u v hpre hnext ih =>
    obtain ⟨turn, -, hstep⟩ := hnext
    obtain ⟨hclosed, honce⟩ := ih
    have hu := h.steps hpre
    -- what is new is about a row that was open just before
    have hnew : ∀ (i : ℕ) (result : ρ) (k : κ), u.threads[i]? ≠ some (.committed result) →
        v.threads[i]? = some (.committed result) → about result = some k →
          ¬ClosedAt isOpen u.table k ∧ ClosedAt isOpen v.table k := by
      intro i result k hbefore hafter hk
      obtain ⟨known, shut, hresult, hknown, hshut⟩ := hu.commits hstep hbefore hafter
      obtain ⟨hmem, a, ha, rfl, hopen⟩ := hQ known shut result k hresult hk
      refine ⟨?_, hshut _ hmem⟩
      rintro ⟨b, hb, hclosed⟩
      rw [hknown a ha] at hb
      obtain rfl := Option.some.inj hb
      rw [hopen] at hclosed
      cases hclosed
    refine ⟨fun i result k hi hk => ?_, fun i j result result' k hi hj hk hk' => ?_⟩
    · by_cases hbefore : u.threads[i]? = some (.committed result)
      · exact hu.closed_step hstep (hclosed i result k hbefore hk)
      · exact (hnew i result k hbefore hi hk).2
    · by_cases hbefore : u.threads[i]? = some (.committed result)
      · by_cases hbefore' : u.threads[j]? = some (.committed result')
        · exact honce i j result result' k hbefore hbefore' hk hk'
        · exact absurd (hclosed i result k hbefore hk) (hnew j result' k hbefore' hj hk').1
      · by_cases hbefore' : u.threads[j]? = some (.committed result')
        · exact absurd (hclosed j result' k hbefore' hk') (hnew i result k hbefore hi hk).1
        · exact one_moves hstep hbefore hi hbefore' hj

end Governed

end Statements

end AccessService.Lib.RowLocks
