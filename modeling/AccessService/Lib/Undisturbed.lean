/-
  AccessService.Lib.Undisturbed

  Programs none of whose calls runs into anything.  That a program's calls leave the later
  ones undisturbed, and what of the state it leaves alone, is shown in one pass over the
  program (`Steady`); so is total correctness, that a program returns, and what then holds
  (`Succeeds`).
-/

import AccessService.Lib.Faulty

namespace AccessService.Lib.Faulty

variable {σ ε α β τ : Type} {g : σ → τ}

-- ============================================================================
-- Later calls
-- ============================================================================

theorem keepsQuiet_throw (e : ε) : KeepsQuiet (throw e : Faulty σ ε α) := fun _ hw => hw

theorem keepsQuiet_forEach {body : α → Faulty σ ε Unit} (h : ∀ a, KeepsQuiet (body a))
    (as : List α) : KeepsQuiet (forEach body as) := by
  induction as with
  | nil => exact keepsQuiet_pure ()
  | cons a as ih => exact (h a).bind fun _ => ih

theorem keepsQuiet_transaction {rollback : σ → σ → σ} {x : Faulty σ ε α} (h : KeepsQuiet x) :
    KeepsQuiet (transaction rollback x) := by
  intro w hw
  have hquiet := h w hw
  rcases hx : transaction rollback x w with ⟨e | a, w'⟩
  · obtain ⟨w₁, hw₁, rfl⟩ := transaction_error hx
    rw [hw₁] at hquiet
    exact hquiet
  · rw [transaction_ok.mp hx] at hquiet
    exact hquiet

/-- An undisturbed read returns what it reads. -/
theorem Quiet.read_runs {w : World σ ε} (hw : Quiet w) (f : σ → α) :
    (read f : Faulty σ ε α) w = (.ok (f w.state), Faulty.afterCall w w.state) :=
  (hw.call_runs rfl).1

-- ============================================================================
-- Later calls, and a part of the state
-- ============================================================================

/-- The program leaves later calls alone, and `g` of the state. -/
structure Steady (g : σ → τ) (x : Faulty σ ε α) : Prop where
  quiet : KeepsQuiet x
  leaves : Leaves g x

theorem steady_pure (a : α) : Steady g (Pure.pure a : Faulty σ ε α) :=
  ⟨keepsQuiet_pure a, leaves_pure a⟩

theorem steady_call {f : σ → Except ε (α × σ)} (h : ∀ s a s', f s = .ok (a, s') → g s' = g s) :
    Steady g (call f) :=
  ⟨keepsQuiet_call f, leaves_call h⟩

theorem steady_read (f : σ → α) : Steady g (read f : Faulty σ ε α) :=
  ⟨keepsQuiet_call _, leaves_read f⟩

theorem steady_write {f : σ → σ} (h : ∀ s, g (f s) = g s) :
    Steady g (write f : Faulty σ ε Unit) :=
  ⟨keepsQuiet_call _, leaves_write h⟩

theorem Steady.bind {x : Faulty σ ε α} {f : α → Faulty σ ε β} (hx : Steady g x)
    (hf : ∀ a, Steady g (f a)) : Steady g (x >>= f) :=
  ⟨hx.quiet.bind fun a => (hf a).quiet, hx.leaves.bind fun a => (hf a).leaves⟩

theorem steady_when {c : Prop} [Decidable c] {x : Faulty σ ε Unit} (hx : Steady g x) :
    Steady g (when c x) :=
  ⟨keepsQuiet_when hx.quiet, leaves_when hx.leaves⟩

theorem steady_forEach {body : α → Faulty σ ε Unit} (h : ∀ a, Steady g (body a)) (as : List α) :
    Steady g (forEach body as) :=
  ⟨keepsQuiet_forEach (fun a => (h a).quiet) as, leaves_forEach (fun a => (h a).leaves) as⟩

theorem steady_tryCatch {x : Faulty σ ε α} {handler : ε → Faulty σ ε α} (hx : Steady g x)
    (hh : ∀ e, Steady g (handler e)) : Steady g (tryCatch x handler) :=
  ⟨keepsQuiet_tryCatch hx.quiet fun e => (hh e).quiet,
    leaves_tryCatch hx.leaves fun e => (hh e).leaves⟩

theorem steady_transaction {rollback : σ → σ → σ} {x : Faulty σ ε α} (h : Steady g x)
    (hroll : ∀ s s', g s' = g s → g (rollback s s') = g s) : Steady g (transaction rollback x) :=
  ⟨keepsQuiet_transaction h.quiet, leaves_transaction h.leaves hroll⟩

/-- A run, with what it keeps. -/
theorem Steady.ok {x : Faulty σ ε α} (h : Steady g x) {w w' : World σ ε} {r : Except ε α}
    (hw : Quiet w) (hx : x w = (r, w')) : Quiet w' ∧ g w'.state = g w.state := by
  have hquiet := h.quiet w hw
  rw [hx] at hquiet
  exact ⟨hquiet, h.leaves.ok hx⟩

theorem Steady.comp {υ : Type} (f : τ → υ) {x : Faulty σ ε α} (h : Steady g x) :
    Steady (fun s => f (g s)) x :=
  ⟨h.quiet, h.leaves.comp f⟩

-- ============================================================================
-- Total correctness
-- ============================================================================

/-- Undisturbed, and from a state with `P`, the program returns into `Q`. -/
def Succeeds (P : σ → Prop) (x : Faulty σ ε α) (Q : α → σ → Prop) : Prop :=
  ∀ w, Quiet w → P w.state → ∃ a w', x w = (.ok a, w') ∧ Quiet w' ∧ Q a w'.state

section Succeeds

variable {P P' : σ → Prop} {Q Q' : α → σ → Prop} {R : β → σ → Prop}

theorem succeeds_pure {a : α} (h : ∀ s, P s → Q a s) :
    Succeeds P (Pure.pure a : Faulty σ ε α) Q :=
  fun w hw hP => ⟨a, w, rfl, hw, h w.state hP⟩

theorem succeeds_call {f : σ → Except ε (α × σ)}
    (h : ∀ s, P s → ∃ a s', f s = .ok (a, s') ∧ Q a s') : Succeeds P (call f) Q := by
  intro w hw hP
  obtain ⟨a, s', hf, hQ⟩ := h w.state hP
  exact ⟨a, afterCall w s', (hw.call_runs hf).1, hw.afterCall s', hQ⟩

theorem succeeds_read {f : σ → α} (h : ∀ s, P s → Q (f s) s) :
    Succeeds P (read f : Faulty σ ε α) Q :=
  succeeds_call fun s hP => ⟨f s, s, rfl, h s hP⟩

theorem succeeds_write {f : σ → σ} {Q : Unit → σ → Prop} (h : ∀ s, P s → Q () (f s)) :
    Succeeds P (write f : Faulty σ ε Unit) Q :=
  succeeds_call fun s hP => ⟨(), f s, rfl, h s hP⟩

theorem Succeeds.bind {x : Faulty σ ε α} {f : α → Faulty σ ε β} (hx : Succeeds P x Q)
    (hf : ∀ a, Succeeds (Q a) (f a) R) : Succeeds P (x >>= f) R := by
  intro w hw hP
  obtain ⟨a, w₁, hrun, hw₁, hQ⟩ := hx w hw hP
  obtain ⟨b, w₂, hrest, hw₂, hR⟩ := hf a w₁ hw₁ hQ
  exact ⟨b, w₂, (bind_runs hrun).trans hrest, hw₂, hR⟩

theorem Succeeds.mono {x : Faulty σ ε α} (h : Succeeds P x Q) (hP : ∀ s, P' s → P s)
    (hQ : ∀ a s, Q a s → Q' a s) : Succeeds P' x Q' := by
  intro w hw hw'
  obtain ⟨a, w', hrun, hquiet, hpost⟩ := h w hw (hP w.state hw')
  exact ⟨a, w', hrun, hquiet, hQ a w'.state hpost⟩

theorem succeeds_when {c : Prop} [Decidable c] {x : Faulty σ ε Unit} {Q : Unit → σ → Prop}
    (hx : c → Succeeds P x Q) (hnot : ∀ s, P s → ¬c → Q () s) : Succeeds P (when c x) Q := by
  unfold when
  split
  next hc => exact hx hc
  next hc => exact succeeds_pure fun s hs => hnot s hs hc

theorem succeeds_forEach {body : α → Faulty σ ε Unit} {as : List α}
    (h : ∀ a ∈ as, Succeeds P (body a) fun _ => P) :
    Succeeds P (forEach body as) fun _ => P := by
  induction as with
  | nil => exact succeeds_pure fun _ hs => hs
  | cons a as ih =>
    exact (h a List.mem_cons_self).bind fun _ => ih fun b hb => h b (List.mem_cons_of_mem _ hb)

/-- What each result of the body has, the collected ones have. -/
theorem succeeds_collect {body : α → Faulty σ ε (List β)} {as : List α} {q : β → Prop}
    (h : ∀ a ∈ as, Succeeds P (body a) fun bs s => P s ∧ ∀ b ∈ bs, q b) :
    Succeeds P (collect body as) fun bs s => P s ∧ ∀ b ∈ bs, q b := by
  induction as with
  | nil => exact succeeds_pure fun s hs => ⟨hs, fun _ hb => absurd hb List.not_mem_nil⟩
  | cons a as ih =>
    have hrest := ih fun b hb => h b (List.mem_cons_of_mem _ hb)
    refine (h a List.mem_cons_self).bind fun bs w hw hbs => ?_
    obtain ⟨bs', w', hrun, hquiet, hP, hbs'⟩ := hrest w hw hbs.1
    refine ⟨bs ++ bs', w', bind_runs hrun, hquiet, hP, fun b hb => ?_⟩
    exact (List.mem_append.mp hb).elim (hbs.2 b) (hbs' b)

theorem Succeeds.tryCatch {x : Faulty σ ε α} {handler : ε → Faulty σ ε α}
    (h : Succeeds P x Q) : Succeeds P (tryCatch x handler) Q := by
  intro w hw hP
  obtain ⟨a, w', hrun, hquiet, hQ⟩ := h w hw hP
  refine ⟨a, w', ?_, hquiet, hQ⟩
  rw [Faulty.tryCatch, hrun]

theorem Succeeds.transaction {rollback : σ → σ → σ} {x : Faulty σ ε α} (h : Succeeds P x Q) :
    Succeeds P (transaction rollback x) Q := by
  intro w hw hP
  obtain ⟨a, w', hrun, hquiet, hQ⟩ := h w hw hP
  exact ⟨a, w', transaction_ok.mpr hrun, hquiet, hQ⟩

end Succeeds

-- ============================================================================
-- Transactions
-- ============================================================================

theorem preserves_transaction {P : σ → Prop} {rollback : σ → σ → σ} {x : Faulty σ ε α}
    (hx : Preserves P x) (hroll : ∀ s s', P s → P (rollback s s')) :
    Preserves P (transaction rollback x) := by
  intro w hw
  rcases h : transaction rollback x w with ⟨e | a, w'⟩
  · obtain ⟨w₁, -, rfl⟩ := transaction_error h
    exact hroll _ _ hw
  · have hmid := hx w hw
    rw [transaction_ok.mp h] at hmid
    exact hmid

end AccessService.Lib.Faulty
