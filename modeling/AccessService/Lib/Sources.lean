/-
  AccessService.Lib.Sources

  Sources with members: a source gives each of its members the same things.  A change of
  the sources affects those who come to be, or cease to be, a member of one, and the
  members of a source that gives other things than before.
-/

import Mathlib.Data.Set.Card

namespace AccessService.Lib

structure Sources (κ μ α : Type) where
  members : κ → Set μ
  gives : κ → Set α

namespace Sources

variable {κ μ α : Type} {S S' : Sources κ μ α} {u : μ}

def sourcesOf (S : Sources κ μ α) (u : μ) : Set κ := {k | u ∈ S.members k}

/-- What somebody has, and from which source. -/
def has (S : Sources κ μ α) (u : μ) : Set (κ × α) :=
  {x | u ∈ S.members x.1 ∧ x.2 ∈ S.gives x.1}

/-- Those who gain or lose something. -/
def affected (S S' : Sources κ μ α) : Set μ :=
  {u | S.sourcesOf u ≠ S'.sourcesOf u ∨ S.has u ≠ S'.has u}

/-- The change of one source touches somebody. -/
def Touches (S S' : Sources κ μ α) (k : κ) (u : μ) : Prop :=
  ¬(u ∈ S.members k ↔ u ∈ S'.members k) ∨
    (u ∈ S.members k ∧ u ∈ S'.members k ∧ S.gives k ≠ S'.gives k)

theorem has_eq_of_untouched (h : ∀ k, ¬S.Touches S' k u) : S.has u = S'.has u := by
  ext ⟨k, x⟩
  have hk := h k
  rw [Touches, not_or, not_not] at hk
  obtain ⟨hmember, hgives⟩ := hk
  show u ∈ S.members k ∧ x ∈ S.gives k ↔ u ∈ S'.members k ∧ x ∈ S'.gives k
  rw [hmember]
  refine and_congr_right fun hu => ?_
  rw [not_not.mp fun hne => hgives ⟨hmember.mpr hu, hu, hne⟩]

/-- Somebody is affected where the change of one source touches them: what they have is
    told apart by its source. -/
theorem mem_affected : u ∈ S.affected S' ↔ ∃ k, S.Touches S' k u := by
  constructor
  · intro haffected
    by_contra hnone
    have huntouched := not_exists.mp hnone
    rcases haffected with hsources | hhas
    · refine hsources (Set.ext fun k => ?_)
      exact not_not.mp fun hmember => huntouched k (.inl hmember)
    · exact hhas (has_eq_of_untouched huntouched)
  · rintro ⟨k, hmember | ⟨hu, hu', hgives⟩⟩
    · exact .inl fun hsources => hmember (Set.ext_iff.mp hsources k)
    · refine .inr fun hhas => hgives (Set.ext fun x => ?_)
      have hx : (u ∈ S.members k ∧ x ∈ S.gives k) ↔ (u ∈ S'.members k ∧ x ∈ S'.gives k) :=
        Set.ext_iff.mp hhas (k, x)
      rw [and_iff_right hu, and_iff_right hu'] at hx
      exact hx

/-- Where one source changes, its change is all that counts. -/
theorem affected_of_others {k : κ}
    (h : ∀ j, j ≠ k → S'.members j = S.members j ∧ S'.gives j = S.gives j) :
    S.affected S' = {u | S.Touches S' k u} := by
  ext u
  rw [mem_affected]
  refine ⟨?_, fun htouches => ⟨k, htouches⟩⟩
  rintro ⟨j, htouches⟩
  by_cases hj : j = k
  · rw [← hj]
    exact htouches
  · obtain ⟨hmembers, hgives⟩ := h j hj
    rcases htouches with hmember | ⟨-, -, hne⟩
    · rw [hmembers] at hmember
      exact absurd Iff.rfl hmember
    · exact absurd hgives.symm hne

/-- Where the members stay, those of the sources that give something else are affected. -/
theorem affected_of_members (h : S'.members = S.members) :
    S.affected S' = {u | ∃ k, u ∈ S.members k ∧ S.gives k ≠ S'.gives k} := by
  ext u
  rw [mem_affected]
  refine exists_congr fun k => ?_
  rw [Touches, h]
  constructor
  · rintro (hmember | ⟨hu, -, hne⟩)
    · exact absurd Iff.rfl hmember
    · exact ⟨hu, hne⟩
  · rintro ⟨hu, hne⟩
    exact .inr ⟨hu, hu, hne⟩

end Sources

end AccessService.Lib
