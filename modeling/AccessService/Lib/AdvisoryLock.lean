/-
  AccessService.Lib.AdvisoryLock

  Session-level advisory locks: a lock is held by one session at a time, the
  session that holds it may take it again, and it is free once that session has
  released it as many times as it took it.  A release by any other session has
  no effect.
-/

namespace AccessService.Lib.AdvisoryLock

variable {Key Session : Type} [DecidableEq Key] [DecidableEq Session]

/-- A lock that is held: by which session, and how many more times than once. -/
structure Holding (Session : Type) where
  session : Session
  again : Nat
  deriving DecidableEq

/-- The locks of a server; `none` is free. -/
abbrev Locks (Key Session : Type) := Key → Option (Holding Session)

namespace Locks

def empty : Locks Key Session := fun _ => none

def set (locks : Locks Key Session) (k : Key) (h : Option (Holding Session)) :
    Locks Key Session :=
  fun k' => if k' = k then h else locks k'

/-- `pg_try_advisory_lock`: the locks afterwards, or `none` when another session
    holds the lock. -/
def tryLock (locks : Locks Key Session) (s : Session) (k : Key) :
    Option (Locks Key Session) :=
  match locks k with
  | none => some (locks.set k (some ⟨s, 0⟩))
  | some h => if h.session = s then some (locks.set k (some ⟨s, h.again + 1⟩)) else none

/-- `pg_advisory_unlock`: the locks afterwards and whether the session held the
    lock. -/
def unlock (locks : Locks Key Session) (s : Session) (k : Key) : Locks Key Session × Bool :=
  match locks k with
  | none => (locks, false)
  | some h =>
    if h.session = s then
      match h.again with
      | 0 => (locks.set k none, true)
      | n + 1 => (locks.set k (some ⟨s, n⟩), true)
    else (locks, false)

/-- The session holds the lock. -/
def HeldBy (locks : Locks Key Session) (s : Session) (k : Key) : Prop :=
  (locks k).map Holding.session = some s

instance (locks : Locks Key Session) (s : Session) (k : Key) : Decidable (locks.HeldBy s k) :=
  inferInstanceAs (Decidable (_ = _))

omit [DecidableEq Session] in
@[simp] theorem set_self (locks : Locks Key Session) (k : Key) (h : Option (Holding Session)) :
    locks.set k h k = h := if_pos rfl

omit [DecidableEq Session] in
theorem set_of_ne (locks : Locks Key Session) {k k' : Key} (h : Option (Holding Session))
    (hne : k' ≠ k) : locks.set k h k' = locks k' := if_neg hne

/-- A session that does not hold the lock gets it only when it is free, and then
    holds it once. -/
theorem tryLock_fresh {locks locks' : Locks Key Session} {s : Session} {k : Key}
    (h : locks.tryLock s k = some locks') (hfresh : ¬locks.HeldBy s k) :
    locks k = none ∧ locks' = locks.set k (some ⟨s, 0⟩) := by
  unfold tryLock at h
  split at h
  next hnone => exact ⟨hnone, (Option.some.inj h).symm⟩
  next x hx =>
    split at h
    next hs => exact absurd (by rw [HeldBy, hx, Option.map_some, hs]) hfresh
    · cases h

/-- Releasing a lock held once frees it. -/
theorem unlock_once {locks : Locks Key Session} {s : Session} {k : Key}
    (h : locks k = some ⟨s, 0⟩) : locks.unlock s k = (locks.set k none, true) := by
  simp [unlock, h]

end Locks

end AccessService.Lib.AdvisoryLock
