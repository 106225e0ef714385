/-
  AccessService.Lib.Moves

  What a program does to one part of the state, as a relation between what that part was
  and what it is afterwards, however the program ends.  A program that leaves the part
  alone stands before or after the one that moves it; a transaction moves it where its body
  returns, and a rollback brings it back.
-/

import AccessService.Lib.Faulty

namespace AccessService.Lib.Faulty

variable {σ ε α β τ : Type} {R : τ → τ → Prop} {g : σ → τ} {w : World σ ε}

/-- Run in `w`, the program relates `g` of the state to what it was. -/
def Moves (R : τ → τ → Prop) (g : σ → τ) (x : Faulty σ ε α) (w : World σ ε) : Prop :=
  R (g w.state) (g (x w).2.state)

theorem Leaves.moves {x : Faulty σ ε α} (h : Leaves g x) (hrefl : ∀ t, R t t) : Moves R g x w := by
  unfold Moves
  rw [h w]
  exact hrefl _

/-- What leaves the part alone comes first. -/
theorem Moves.before {x : Faulty σ ε α} {f : α → Faulty σ ε β} (hx : Leaves g x)
    (hrefl : ∀ t, R t t) (hf : ∀ a w', x w = (.ok a, w') → Moves R g (f a) w') :
    Moves R g (x >>= f) w := by
  refine bind_state (P := fun s => R (g w.state) (g s)) (fun e w' h => ?_) fun a w' h => ?_
  · rw [hx.ok h]
    exact hrefl _
  · have hrest := hf a w' h
    rwa [Moves, hx.ok h] at hrest

/-- What leaves the part alone comes last. -/
theorem Moves.after {x : Faulty σ ε α} {f : α → Faulty σ ε β} (hx : Moves R g x w)
    (hf : ∀ a, Leaves g (f a)) : Moves R g (x >>= f) w := by
  refine bind_state (P := fun s => R (g w.state) (g s)) (fun e w' h => ?_) fun a w' h => ?_
  · rwa [Moves, h] at hx
  · rw [Moves, h] at hx
    rwa [hf a w']

theorem moves_transaction {rollback : σ → σ → σ} {body : Faulty σ ε α} (hrefl : ∀ t, R t t)
    (hroll : ∀ s s', g (rollback s s') = g s)
    (hbody : ∀ a w', body w = (.ok a, w') → R (g w.state) (g w'.state)) :
    Moves R g (transaction rollback body) w := by
  unfold Moves
  rcases h : transaction rollback body w with ⟨e | a, w'⟩
  · obtain ⟨w₁, -, rfl⟩ := transaction_error h
    rw [hroll]
    exact hrefl _
  · exact hbody a w' (transaction_ok.mp h)

theorem leaves_collect {body : α → Faulty σ ε (List β)} (h : ∀ a, Leaves g (body a))
    (as : List α) : Leaves g (collect body as) := by
  induction as with
  | nil => exact leaves_pure []
  | cons a as ih => exact (h a).bind fun _ => ih.bind fun _ => leaves_pure _

end AccessService.Lib.Faulty
