/-
  AccessService.Authorization.DistributedLock

  `distributed-lock.adapter.ts`: tenant locks as session-level advisory locks.
  The acquire and the release query each run on whatever session the pool hands
  out, and a query that fails is reported as `false`.
-/

import AccessService.Constants.Keys
import AccessService.Lib.AdvisoryLock
import Mathlib.Algebra.Group.Int.Defs
import Mathlib.Algebra.Group.Nat.Defs

namespace AccessService.Authorization

open AccessService.Lib.AdvisoryLock AccessService.Constants

-- ============================================================================
-- Lock ids
-- ============================================================================

/-- The UTF-16 code units of a string. -/
def utf16Units (s : String) : List UInt16 :=
  s.toList.flatMap fun c =>
    let n := c.toNat
    if n < 0x10000 then [UInt16.ofNat n]
    else
      [UInt16.ofNat (0xD800 + (n - 0x10000) / 0x400),
        UInt16.ofNat (0xDC00 + (n - 0x10000) % 0x400)]

/-- JavaScript's conversion to a signed 32-bit integer. -/
def toInt32 (n : Int) : Int := n.bmod (2 ^ 32)

/-- One character of the hash: `hash = (hash << 5) - hash + char`, then
    `hash & hash`. -/
def hashStep (hash : Int) (char : UInt16) : Int :=
  toInt32 (toInt32 (hash * 2 ^ 5) - hash + char.toNat)

def hashKeyToInt64 (key : List UInt16) : String :=
  toString (key.foldl hashStep 0).natAbs

-- ============================================================================
-- Acquiring and releasing
-- ============================================================================

/-- A pooled database session. -/
abbrev Session := Nat

abbrev SessionLocks := Locks String Session

/-- The id of a tenant's worker lock. -/
def workerLockId (tenantCode : String) : String :=
  hashKeyToInt64 (utf16Units (GenerateAuthzWorkerLockKey tenantCode))

namespace DistributedLockAdapter

/-- `acquireLock`, with the session its query ran on; no session means that the
    query failed. -/
def acquireLock (locks : SessionLocks) (session : Option Session) (lockId : String) :
    SessionLocks × Bool :=
  match session with
  | none => (locks, false)
  | some s =>
    match locks.tryLock s lockId with
    | some locks' => (locks', true)
    | none => (locks, false)

/-- `releaseLock`, likewise. -/
def releaseLock (locks : SessionLocks) (session : Option Session) (lockId : String) :
    SessionLocks × Bool :=
  match session with
  | none => (locks, false)
  | some s => locks.unlock s lockId

/-- A successful acquire on a session that does not hold the lock found it free,
    and holds it once. -/
theorem acquireLock_fresh {locks locks' : SessionLocks} {session : Option Session}
    {lockId : String} (h : acquireLock locks session lockId = (locks', true))
    (hfresh : ∀ s, session = some s → ¬locks.HeldBy s lockId) :
    ∃ s, session = some s ∧ locks lockId = none ∧ locks' = locks.set lockId (some ⟨s, 0⟩) := by
  cases session with
  | none => cases h
  | some s =>
    simp only [acquireLock] at h
    split at h
    next locks'' hlock =>
      cases h
      obtain ⟨hfree, hset⟩ := Locks.tryLock_fresh hlock (hfresh s rfl)
      exact ⟨s, rfl, hfree, hset⟩
    · cases h

/-- A refused acquire changes no lock. -/
theorem acquireLock_refused {locks locks' : SessionLocks} {session : Option Session}
    {lockId : String} (h : acquireLock locks session lockId = (locks', false)) :
    locks' = locks := by
  cases session with
  | none => cases h; rfl
  | some s =>
    simp only [acquireLock] at h
    split at h
    · cases h
    · cases h; rfl

end DistributedLockAdapter

end AccessService.Authorization
