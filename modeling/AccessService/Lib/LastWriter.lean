/-
  AccessService.Lib.LastWriter

  A register that takes versioned writes: a write replaces what an earlier one wrote, and
  is turned away if its version is not above the register's.  However often and in
  whatever order writes arrive, the one with the highest version is what remains.
-/

import Mathlib.Order.Lattice

namespace AccessService.Lib

structure LastWriter (σ ι κ : Type) [LinearOrder κ] where
  version : ι → κ
  /-- The register has what a write of this version would bring, or later. -/
  stale : σ → κ → Bool
  write : ι → σ → σ
  write_write : ∀ a b s, write b (write a s) = write b s
  stale_write : ∀ a s v, stale (write a s) v = true ↔ v ≤ version a

namespace LastWriter

variable {σ ι κ : Type} [LinearOrder κ]

def receive (L : LastWriter σ ι κ) (s : σ) (a : ι) : σ :=
  if L.stale s (L.version a) then s else L.write a s

variable {L : LastWriter σ ι κ} {s : σ} {a last : ι} {as : List ι}

theorem receive_fresh (h : L.stale s (L.version a) = false) : L.receive s a = L.write a s :=
  if_neg (by simp [h])

/-- What arrives at a register that has been written. -/
theorem receive_written {b : ι} :
    L.receive (L.write a s) b =
      if L.version b ≤ L.version a then L.write a s else L.write b s := by
  unfold receive
  by_cases hle : L.version b ≤ L.version a
  · rw [if_pos ((L.stale_write a s _).mpr hle), if_pos hle]
  · rw [if_neg fun hstale => hle ((L.stale_write a s _).mp hstale), if_neg hle, L.write_write]

/-- After a first write, one of the highest version is there. -/
theorem foldl_written (a : ι) (as : List ι) :
    ∃ m ∈ a :: as, (∀ b ∈ a :: as, L.version b ≤ L.version m) ∧
      as.foldl L.receive (L.write a s) = L.write m s := by
  induction as generalizing a with
  | nil => exact ⟨a, List.mem_cons_self, by simp, rfl⟩
  | cons b as ih =>
    rw [List.foldl_cons, receive_written]
    split
    next hle =>
      obtain ⟨m, hm, hmax, hfold⟩ := ih a
      refine ⟨m, ?_, fun c hc => ?_, hfold⟩
      · rcases List.mem_cons.mp hm with rfl | hm
        · exact List.mem_cons_self
        · exact List.mem_cons_of_mem _ (List.mem_cons_of_mem _ hm)
      · rcases List.mem_cons.mp hc with rfl | hc
        · exact hmax c List.mem_cons_self
        · rcases List.mem_cons.mp hc with rfl | hc
          · exact hle.trans (hmax a List.mem_cons_self)
          · exact hmax c (List.mem_cons_of_mem _ hc)
    next hlt =>
      obtain ⟨m, hm, hmax, hfold⟩ := ih b
      refine ⟨m, List.mem_cons_of_mem _ hm, fun c hc => ?_, hfold⟩
      rcases List.mem_cons.mp hc with rfl | hc
      · exact (le_of_not_ge hlt).trans (hmax b List.mem_cons_self)
      · exact hmax c hc

/-- The write of the highest version is what remains of writes that are new to the
    register, where a version stands for one write. -/
theorem foldl_receive (hnew : ∀ a ∈ as, L.stale s (L.version a) = false)
    (hsame : ∀ a ∈ as, ∀ b ∈ as, L.version a = L.version b → L.write a s = L.write b s)
    (hlast : last ∈ as) (hmax : ∀ a ∈ as, L.version a ≤ L.version last) :
    as.foldl L.receive s = L.write last s := by
  rcases as with _ | ⟨a, as⟩
  · exact absurd hlast List.not_mem_nil
  · obtain ⟨m, hm, hmax', hfold⟩ := foldl_written (L := L) (s := s) a as
    rw [List.foldl_cons, receive_fresh (hnew a List.mem_cons_self), hfold]
    exact hsame m hm last hlast (le_antisymm (hmax m hm) (hmax' last hlast))

end LastWriter

end AccessService.Lib
