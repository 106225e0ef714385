/-
  AccessService.Lib.Simulation

  Simulations of one transition system by another, and of a program by a transition system:
  the system tracks the program when, from the state it has been in, it can reach one that
  stands in the relation to the program's.  That is a predicate on the program's states, so
  that the rules of triples apply to it.
-/

import AccessService.Lib.Faulty
import AccessService.Lib.Transition

namespace AccessService.Lib.Transition

variable {σ τ ι κ : Type}

namespace System

variable (S : System τ ι)

/-- From `q` the system reaches a state that stands in the relation to `s`. -/
def Tracks (q : τ) (R : σ → τ → Prop) (s : σ) : Prop := ∃ q', S.Steps Always q q' ∧ R s q'

variable {S} {q : τ} {R R' : σ → τ → Prop} {s s' : σ}

theorem Tracks.now (h : R s q) : S.Tracks q R s := ⟨q, .refl, h⟩

/-- The system follows with some steps more. -/
theorem Tracks.steps (h : S.Tracks q R s)
    (hsteps : ∀ q', R s q' → ∃ q'', S.Steps Always q' q'' ∧ R' s' q'') : S.Tracks q R' s' := by
  obtain ⟨q', hbefore, hR⟩ := h
  obtain ⟨q'', hafter, hR'⟩ := hsteps q' hR
  exact ⟨q'', hbefore.trans hafter, hR'⟩

/-- With one step. -/
theorem Tracks.step (h : S.Tracks q R s)
    (hstep : ∀ q', R s q' → ∃ i q'', S.step q' i = some q'' ∧ R' s' q'') : S.Tracks q R' s' := by
  refine h.steps fun q' hR => ?_
  obtain ⟨i, q'', hi, hR'⟩ := hstep q' hR
  exact ⟨q'', .single ⟨i, trivial, hi⟩, hR'⟩

/-- With none. -/
theorem Tracks.mono (h : S.Tracks q R s) (hR : ∀ q', R s q' → R' s' q') : S.Tracks q R' s' :=
  h.steps fun q' hq' => ⟨q', .refl, hR q' hq'⟩

theorem Tracks.reachable (h : S.Tracks q R s) (hq : S.Reachable Always q) :
    ∃ q', S.Reachable Always q' ∧ R s q' := by
  obtain ⟨q', hsteps, hR⟩ := h
  exact ⟨q', hq.steps hsteps, hR⟩

/-- The condition on the steps may be dropped. -/
theorem Reachable.always {P : τ → ι → Prop} (h : S.Reachable P q) : S.Reachable Always q :=
  h.invariant (S.Reachable Always) (fun _ hinit => .start hinit) fun _ i _ _ hreach _ hstep =>
    hreach.steps (.single ⟨i, trivial, hstep⟩)

/-- Where each step of one system is followed by the other, so are its runs. -/
theorem Reachable.simulated {C : System σ κ} {P : σ → κ → Prop}
    (hinit : ∀ s, C.init s → ∃ q, S.init q ∧ R s q)
    (hstep : ∀ s i s' q, R s q → P s i → C.step s i = some s' → S.Tracks q R s')
    (h : C.Reachable P s) : ∃ q, S.Reachable Always q ∧ R s q := by
  refine h.invariant (fun s => ∃ q, S.Reachable Always q ∧ R s q) (fun s hs => ?_) ?_
  · obtain ⟨q, hq, hR⟩ := hinit s hs
    exact ⟨q, .start hq, hR⟩
  · rintro s i s' - ⟨q, hq, hR⟩ hP hi
    exact (hstep s i s' q hR hP hi).reachable hq

end System

end AccessService.Lib.Transition

namespace AccessService.Lib.Faulty

open AccessService.Lib.Transition

variable {σ τ ι ε α υ : Type} {S : System τ ι} {q : τ} {R R' : σ → τ → Prop}

theorem Preserves.triple {P : σ → Prop} {x : Faulty σ ε α} (h : Preserves P x) :
    Triple P x (fun _ => P) P := by
  intro w hw
  have hkept := h w hw
  rcases hx : x w with ⟨e | a, w'⟩
  · rw [hx] at hkept
    exact hkept
  · rw [hx] at hkept
    exact hkept

/-- A program that leaves all that the relation looks at. -/
theorem Leaves.tracked {g : σ → υ} {x : Faulty σ ε α} (h : Leaves g x)
    (hR : ∀ s s' q', g s' = g s → R s q' → R s' q') :
    Triple (S.Tracks q R) x (fun _ => S.Tracks q R) (S.Tracks q R) :=
  (h.preserves fun s s' hsame hs => hs.mono fun q' => hR s s' q' hsame).triple

/-- A write, with a step of the system for it. -/
theorem tracked_call {f : σ → Except ε (α × σ)} {Q : α → σ → τ → Prop}
    (hstep : ∀ s a s' q', R s q' → f s = .ok (a, s') →
      ∃ i q'', S.step q' i = some q'' ∧ Q a s' q'') :
    Triple (S.Tracks q R) (call f) (fun a => S.Tracks q (Q a)) (S.Tracks q R) :=
  triple_call (fun _ hs => hs) fun s a s' hs hf => hs.step fun q' hR => hstep s a s' q' hR hf

section Triple

variable {P P' : σ → Prop} {Q Q' : α → σ → Prop} {E E' : σ → Prop} {x : Faulty σ ε α}

theorem Triple.mono (h : Triple P x Q E) (hP : ∀ s, P' s → P s) (hQ : ∀ a s, Q a s → Q' a s)
    (hE : ∀ s, E s → E' s) : Triple P' x Q' E' := by
  intro w hw
  have hw' := h w (hP _ hw)
  rcases hx : x w with ⟨e | a, w'⟩
  · rw [hx] at hw'
    exact hE _ hw'
  · rw [hx] at hw'
    exact hQ _ _ hw'

theorem triple_throw {e : ε} (h : ∀ s, P s → E s) : Triple P (throw e : Faulty σ ε α) Q E :=
  fun w hw => h w.state hw

theorem triple_of_ok (h : ∀ w a w', P w.state → x w = (.ok a, w') → Q a w'.state) :
    Triple P x Q fun _ => True := by
  intro w hw
  rcases hx : x w with ⟨e | a, w'⟩
  · trivial
  · exact h w a w' hw hx

/-- What a transaction that throws has left alone says what the rollback leaves. -/
theorem Leaves.transaction {g : σ → υ} {rollback : σ → σ → σ} (hleaves : Leaves g x)
    (h : Triple P x Q fun _ => True) (hE : ∀ s s', P s → g s' = g s → E (rollback s s')) :
    Triple P (transaction rollback x) Q E := by
  intro w hw
  rcases hrun : Faulty.transaction rollback x w with ⟨e | a, w'⟩
  · obtain ⟨w₁, hx, rfl⟩ := transaction_error hrun
    exact hE _ _ hw (hleaves.ok hx)
  · exact h.of_ok hw (transaction_ok.mp hrun)

end Triple

end AccessService.Lib.Faulty
