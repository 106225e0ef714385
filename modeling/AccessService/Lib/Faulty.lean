/-
  AccessService.Lib.Faulty

  Sequential programs over a shared state that make calls, any of which may
  throw.  Which calls throw is part of the world the program runs in: one entry
  for each call to come, and none once the list is used up.

  Reasoning is by what a successful run did (`bind_ok` and its like), by reads
  that leave the state alone (`Reads`), and by triples with one postcondition
  for a return and one for an exception.
-/

import Mathlib.Logic.Basic

namespace AccessService.Lib

variable {σ ε α β : Type}

structure World (σ ε : Type) where
  state : σ
  /-- What the calls to come run into. -/
  faults : List (Option ε)

/-- No call runs into anything: programs can be computed in this world. -/
def World.calm (s : σ) : World σ ε := ⟨s, []⟩

/-- A program: it returns or throws, and leaves a world. -/
def Faulty (σ ε α : Type) : Type := World σ ε → Except ε α × World σ ε

namespace Faulty

def pure (a : α) : Faulty σ ε α := fun w => (.ok a, w)

def bind (x : Faulty σ ε α) (f : α → Faulty σ ε β) : Faulty σ ε β := fun w =>
  match x w with
  | (.ok a, w') => f a w'
  | (.error e, w') => (.error e, w')

instance : Monad (Faulty σ ε) where
  pure := Faulty.pure
  bind := Faulty.bind

-- ============================================================================
-- Programs
-- ============================================================================

def throw (e : ε) : Faulty σ ε α := fun w => (.error e, w)

/-- One call: it throws the fault of the world, or what `f` throws, and then
    leaves the state as it was. -/
def call (f : σ → Except ε (α × σ)) : Faulty σ ε α := fun w =>
  match w.faults with
  | some e :: faults => (.error e, { w with faults := faults })
  | faults =>
    match f w.state with
    | .ok (a, s) => (.ok a, { state := s, faults := faults.tail })
    | .error e => (.error e, { w with faults := faults.tail })

/-- A step that is no call. -/
def modify (f : σ → α × σ) : Faulty σ ε α := fun w =>
  match f w.state with
  | (a, s) => (.ok a, { w with state := s })

/-- A call that reads. -/
def read (f : σ → α) : Faulty σ ε α := call fun s => .ok (f s, s)

/-- A call that writes. -/
def write (f : σ → σ) : Faulty σ ε Unit := call fun s => .ok ((), f s)

def when (c : Prop) [Decidable c] (x : Faulty σ ε Unit) : Faulty σ ε Unit :=
  if c then x else Pure.pure ()

def tryCatch (x : Faulty σ ε α) (handler : ε → Faulty σ ε α) : Faulty σ ε α := fun w =>
  match x w with
  | (.ok a, w') => (.ok a, w')
  | (.error e, w') => handler e w'

/-- `finally`: an exception of the finalizer wins. -/
def tryFinally (x : Faulty σ ε α) (finalizer : Faulty σ ε Unit) : Faulty σ ε α := fun w =>
  match x w with
  | (r, w') =>
    match finalizer w' with
    | (.ok (), w'') => (r, w'')
    | (.error e, w'') => (.error e, w'')

/-- An exception undoes the writes; `rollback` says what of the state they are,
    from the state before and the state after. -/
def transaction (rollback : σ → σ → σ) (x : Faulty σ ε α) : Faulty σ ε α := fun w =>
  match x w with
  | (.ok a, w') => (.ok a, w')
  | (.error e, w') => (.error e, { w' with state := rollback w.state w'.state })

/-- A program on a part of the state. -/
def zoom {τ : Type} (get : σ → τ) (set : σ → τ → σ) (x : Faulty τ ε α) : Faulty σ ε α := fun w =>
  match x ⟨get w.state, w.faults⟩ with
  | (r, v) => (r, ⟨set w.state v.state, v.faults⟩)

/-- The results of the body on each element, in order. -/
def collect (body : α → Faulty σ ε (List β)) : List α → Faulty σ ε (List β)
  | [] => Pure.pure []
  | a :: as => do
    let bs ← body a
    let bs' ← collect body as
    Pure.pure (bs ++ bs')

def forEach (body : α → Faulty σ ε Unit) : List α → Faulty σ ε Unit
  | [] => Pure.pure ()
  | a :: as => do
    body a
    forEach body as

-- ============================================================================
-- Laws
-- ============================================================================

theorem bind_pure (x : Faulty σ ε α) : x >>= Pure.pure = x := by
  funext w
  show Faulty.bind x Faulty.pure w = x w
  unfold Faulty.bind
  rcases x w with ⟨_ | _, _⟩ <;> rfl

instance : LawfulMonad (Faulty σ ε) :=
  LawfulMonad.mk' _
    (fun x => bind_pure x)
    (fun _ _ => rfl)
    (fun x f g => by
      funext w
      show Faulty.bind (Faulty.bind x f) g w = Faulty.bind x (fun a => Faulty.bind (f a) g) w
      unfold Faulty.bind
      rcases x w with ⟨_ | _, _⟩ <;> rfl)

-- ============================================================================
-- Successful runs
-- ============================================================================

section Ok

variable {w w' : World σ ε} {a a' : α} {b : β}

@[simp] theorem pure_ok :
    (Pure.pure a : Faulty σ ε α) w = (.ok a', w') ↔ a = a' ∧ w = w' := by
  show ((.ok a, w) : Except ε α × World σ ε) = (.ok a', w') ↔ _
  simp

@[simp] theorem throw_ok {e : ε} : (throw e : Faulty σ ε α) w ≠ (.ok a, w') := nofun

@[simp] theorem bind_ok {x : Faulty σ ε α} {f : α → Faulty σ ε β} :
    (x >>= f) w = (.ok b, w') ↔ ∃ a w₁, x w = (.ok a, w₁) ∧ f a w₁ = (.ok b, w') := by
  show Faulty.bind x f w = _ ↔ _
  unfold Faulty.bind
  rcases x w with ⟨_ | a, w₁⟩
  · simp
  · constructor
    · exact fun h => ⟨a, w₁, rfl, h⟩
    · rintro ⟨a', w₂, heq, h⟩
      cases heq
      exact h

theorem bind_runs {x : Faulty σ ε α} {f : α → Faulty σ ε β} {w₁ : World σ ε}
    (h : x w = (.ok a, w₁)) : (x >>= f) w = f a w₁ := by
  show Faulty.bind x f w = _
  rw [Faulty.bind, h]

/-- The outcome of a run, with the world it leaves. -/
theorem run_eq {x : Faulty σ ε α} {r : Except ε α} (h : (x w).1 = r) : x w = (r, (x w).2) :=
  Prod.ext h rfl

/-- A sequence throws in its first part, or runs its second. -/
theorem bind_cases {x : Faulty σ ε α} {f : α → Faulty σ ε β} {w w' : World σ ε} {r : Except ε β}
    (h : (x >>= f) w = (r, w')) :
    (∃ e, x w = (.error e, w') ∧ r = .error e) ∨ ∃ a w₁, x w = (.ok a, w₁) ∧ f a w₁ = (r, w') := by
  change Faulty.bind x f w = _ at h
  unfold Faulty.bind at h
  rcases hx : x w with ⟨e | a, w₁⟩
  · rw [hx] at h
    obtain ⟨rfl, rfl⟩ := Prod.mk.inj h
    exact .inl ⟨e, rfl, rfl⟩
  · rw [hx] at h
    exact .inr ⟨a, w₁, rfl, h⟩

theorem when_ok {c : Prop} [Decidable c] {x : Faulty σ ε Unit} {u : Unit}
    (h : when c x w = (.ok u, w')) : (c ∧ x w = (.ok u, w')) ∨ (¬c ∧ w' = w) := by
  unfold when at h
  split at h
  next hc => exact .inl ⟨hc, h⟩
  next hc => exact .inr ⟨hc, (pure_ok.mp h).2.symm⟩

theorem call_ok {f : σ → Except ε (α × σ)} (h : call f w = (.ok a, w')) :
    f w.state = .ok (a, w'.state) := by
  unfold call at h
  split at h
  · cases h
  · split at h
    next hf => cases h; exact hf
    · cases h

theorem read_ok {f : σ → α} (h : read f w = (.ok a, w')) :
    a = f w.state ∧ w'.state = w.state := by
  obtain ⟨hval, hstate⟩ := Prod.mk.inj (Except.ok.inj (call_ok h))
  exact ⟨hval.symm, hstate.symm⟩

theorem write_ok {f : σ → σ} {u : Unit} (h : write f w = (.ok u, w')) :
    w'.state = f w.state := by
  exact (Prod.mk.inj (Except.ok.inj (call_ok h))).2.symm

theorem modify_ok {f : σ → α × σ} (h : modify f w = (.ok a, w')) :
    a = (f w.state).1 ∧ w' = { w with state := (f w.state).2 } := by
  obtain ⟨hval, hworld⟩ := Prod.mk.inj h
  exact ⟨(Except.ok.inj hval).symm, hworld.symm⟩

theorem transaction_ok {rollback : σ → σ → σ} {x : Faulty σ ε α} :
    transaction rollback x w = (.ok a, w') ↔ x w = (.ok a, w') := by
  unfold transaction
  split
  next hx => rw [hx]
  next hx => simp [hx]

theorem zoom_ok {τ : Type} {get : σ → τ} {set : σ → τ → σ} {x : Faulty τ ε α} :
    zoom get set x w = (.ok a, w') ↔
      ∃ v, x ⟨get w.state, w.faults⟩ = (.ok a, v) ∧ w' = ⟨set w.state v.state, v.faults⟩ := by
  unfold zoom
  rcases hx : x ⟨get w.state, w.faults⟩ with ⟨r, v⟩
  simp only [Prod.mk.injEq]
  constructor
  · rintro ⟨rfl, rfl⟩
    exact ⟨v, ⟨rfl, rfl⟩, rfl⟩
  · rintro ⟨v', ⟨rfl, rfl⟩, rfl⟩
    exact ⟨rfl, rfl⟩

theorem call_error {f : σ → Except ε (α × σ)} {e : ε} (h : call f w = (.error e, w')) :
    w'.state = w.state := by
  unfold call at h
  split at h
  · obtain ⟨-, rfl⟩ := Prod.mk.inj h
    rfl
  · split at h
    · cases h
    · obtain ⟨-, rfl⟩ := Prod.mk.inj h
      rfl

theorem read_error {f : σ → α} {e : ε} (h : read f w = (.error e, w')) : w'.state = w.state :=
  call_error h

theorem write_error {f : σ → σ} {e : ε} (h : write f w = (.error e, w')) : w'.state = w.state :=
  call_error h

theorem tryCatch_cases {x : Faulty σ ε α} {handler : ε → Faulty σ ε α} {r : Except ε α}
    (h : tryCatch x handler w = (r, w')) :
    (∃ a, x w = (.ok a, w') ∧ r = .ok a) ∨
      ∃ e w₁, x w = (.error e, w₁) ∧ handler e w₁ = (r, w') := by
  unfold tryCatch at h
  split at h
  next a w₁ hx =>
    obtain ⟨rfl, rfl⟩ := Prod.mk.inj h
    exact .inl ⟨a, hx, rfl⟩
  next e w₁ hx => exact .inr ⟨e, w₁, hx, h⟩

/-- A call that fails over to a value. -/
theorem tryCatch_pure_ok {x : Faulty σ ε α} (h : tryCatch x (fun _ => Pure.pure a') w = (.ok a, w')) :
    x w = (.ok a, w') ∨ ∃ e, x w = (.error e, w') ∧ a = a' := by
  unfold tryCatch at h
  split at h
  next hx =>
    obtain ⟨hval, rfl⟩ := Prod.mk.inj h
    rw [hx, hval]
    exact .inl rfl
  next e w₁ hx =>
    obtain ⟨rfl, rfl⟩ := pure_ok.mp h
    exact .inr ⟨e, hx, rfl⟩

/-- A return past a handler that throws. -/
theorem tryCatch_throw_ok {x : Faulty σ ε α} {e : ε → ε}
    (h : tryCatch x (fun e' => throw (e e')) w = (.ok a, w')) : x w = (.ok a, w') := by
  unfold tryCatch at h
  split at h
  next hx => exact hx.trans h
  · exact absurd h throw_ok

end Ok

-- ============================================================================
-- Reads
-- ============================================================================

/-- The program leaves the state alone and returns, if it does, what `g` reads. -/
def Reads (x : Faulty σ ε α) (g : σ → α) : Prop :=
  ∀ w, (x w).2.state = w.state ∧ ∀ a, (x w).1 = .ok a → a = g w.state

theorem Reads.ok {x : Faulty σ ε α} {g : σ → α} (h : Reads x g) {w w' : World σ ε} {a : α}
    (hx : x w = (.ok a, w')) : a = g w.state ∧ w'.state = w.state := by
  have hw := h w
  rw [hx] at hw
  exact ⟨hw.2 a rfl, hw.1⟩

theorem reads_pure (a : α) : Reads (Pure.pure a : Faulty σ ε α) fun _ => a :=
  fun _ => ⟨rfl, fun _ h => (Except.ok.inj h).symm⟩

theorem reads_read (f : σ → α) : Reads (read f : Faulty σ ε α) f := by
  intro w
  simp only [read, call]
  split
  · exact ⟨rfl, nofun⟩
  · exact ⟨rfl, fun _ h => (Except.ok.inj h).symm⟩

theorem Reads.bind {x : Faulty σ ε α} {g : σ → α} {f : α → Faulty σ ε β} {k : α → σ → β}
    (hx : Reads x g) (hf : ∀ a, Reads (f a) (k a)) :
    Reads (x >>= f) fun s => k (g s) s := by
  intro w
  show (Faulty.bind x f w).2.state = _ ∧ ∀ b, (Faulty.bind x f w).1 = _ → _
  unfold Faulty.bind
  obtain ⟨hstate, hval⟩ := hx w
  generalize x w = r at hstate hval
  obtain ⟨_ | a, w₁⟩ := r
  · exact ⟨hstate, nofun⟩
  · obtain ⟨hstate', hval'⟩ := hf a w₁
    obtain rfl := hval a rfl
    simp only at hstate hstate' hval' ⊢
    rw [hstate] at hstate' hval'
    exact ⟨hstate', hval'⟩

theorem reads_collect {body : α → Faulty σ ε (List β)} {g : α → σ → List β}
    (h : ∀ a, Reads (body a) (g a)) (as : List α) :
    Reads (collect body as) fun s => as.flatMap (g · s) := by
  induction as with
  | nil => exact reads_pure []
  | cons a as ih =>
    have hrest : ∀ bs, Reads (collect body as >>= fun bs' => Pure.pure (bs ++ bs'))
        fun s => bs ++ as.flatMap (g · s) :=
      fun bs => ih.bind fun bs' => reads_pure (bs ++ bs')
    exact (h a).bind hrest

-- ============================================================================
-- Undisturbed runs
-- ============================================================================

/-- No call to come runs into anything. -/
def Quiet (w : World σ ε) : Prop := ∀ fault ∈ w.faults, fault = none

/-- The program's calls leave later calls alone. -/
def KeepsQuiet (x : Faulty σ ε α) : Prop := ∀ w, Quiet w → Quiet (x w).2

theorem KeepsQuiet.ok {x : Faulty σ ε α} (h : KeepsQuiet x) {w w' : World σ ε} {a : α}
    (hw : Quiet w) (hx : x w = (.ok a, w')) : Quiet w' := by
  have hquiet := h w hw
  rwa [hx] at hquiet

theorem keepsQuiet_pure (a : α) : KeepsQuiet (Pure.pure a : Faulty σ ε α) := fun _ hw => hw

/-- A call that meets no fault does what it says. -/
theorem call_quiet {f : σ → Except ε (α × σ)} {w : World σ ε} (hw : Quiet w) :
    call f w = match f w.state with
      | .ok (a, s) => (.ok a, ⟨s, w.faults.tail⟩)
      | .error e => (.error e, ⟨w.state, w.faults.tail⟩) := by
  unfold call
  split
  next e faults hfaults =>
    have hnone := hw (some e) (by rw [hfaults]; exact List.mem_cons_self)
    cases hnone
  · rfl

theorem keepsQuiet_call (f : σ → Except ε (α × σ)) : KeepsQuiet (call f) := by
  intro w hw
  have htail : ∀ fault ∈ w.faults.tail, fault = none :=
    fun fault hmem => hw fault (List.mem_of_mem_tail hmem)
  rw [call_quiet hw]
  split
  · exact htail
  · exact htail

theorem KeepsQuiet.bind {x : Faulty σ ε α} {f : α → Faulty σ ε β} (hx : KeepsQuiet x)
    (hf : ∀ a, KeepsQuiet (f a)) : KeepsQuiet (x >>= f) := by
  intro w hw
  show Quiet (Faulty.bind x f w).2
  unfold Faulty.bind
  have hquiet := hx w hw
  rcases h : x w with ⟨e | a, w₁⟩
  · rw [h] at hquiet
    exact hquiet
  · rw [h] at hquiet
    exact hf a w₁ hquiet

theorem keepsQuiet_when {c : Prop} [Decidable c] {x : Faulty σ ε Unit} (hx : KeepsQuiet x) :
    KeepsQuiet (when c x) := by
  unfold when
  split
  · exact hx
  · exact keepsQuiet_pure ()

theorem keepsQuiet_tryCatch {x : Faulty σ ε α} {handler : ε → Faulty σ ε α}
    (hx : KeepsQuiet x) (hh : ∀ e, KeepsQuiet (handler e)) :
    KeepsQuiet (tryCatch x handler) := by
  intro w hw
  unfold tryCatch
  have hquiet := hx w hw
  rcases h : x w with ⟨e | a, w₁⟩
  · rw [h] at hquiet
    exact hh e w₁ hquiet
  · rw [h] at hquiet
    exact hquiet

theorem keepsQuiet_collect {body : α → Faulty σ ε (List β)} (h : ∀ a, KeepsQuiet (body a))
    (as : List α) : KeepsQuiet (collect body as) := by
  induction as with
  | nil => exact keepsQuiet_pure []
  | cons a as ih => exact (h a).bind fun _ => ih.bind fun _ => keepsQuiet_pure _

-- ============================================================================
-- Calm worlds
-- ============================================================================

@[simp] theorem calm_state (s : σ) : (.calm s : World σ ε).state = s := rfl

theorem bind_throws {x : Faulty σ ε α} {f : α → Faulty σ ε β} {w w' : World σ ε} {e : ε}
    (h : x w = (.error e, w')) : (x >>= f) w = (.error e, w') := by
  show Faulty.bind x f w = _
  rw [Faulty.bind, h]

theorem call_calm (f : σ → Except ε (α × σ)) (s : σ) :
    call f (.calm s) = match f s with
      | .ok (a, s') => (.ok a, .calm s')
      | .error e => (.error e, .calm s) := rfl

theorem read_calm (f : σ → α) (s : σ) :
    (read f : Faulty σ ε α) (.calm s) = (.ok (f s), .calm s) := rfl

/-- In a calm world the program returns, and the world stays calm. -/
def Completes (x : Faulty σ ε α) : Prop := ∀ s, ∃ a s', x (.calm s) = (.ok a, .calm s')

theorem completes_pure (a : α) : Completes (Pure.pure a : Faulty σ ε α) := fun s => ⟨a, s, rfl⟩

theorem completes_read (f : σ → α) : Completes (read f : Faulty σ ε α) := fun s => ⟨f s, s, rfl⟩

theorem completes_write (f : σ → σ) : Completes (write f : Faulty σ ε Unit) :=
  fun s => ⟨(), f s, rfl⟩

theorem Completes.bind {x : Faulty σ ε α} {f : α → Faulty σ ε β} (hx : Completes x)
    (hf : ∀ a, Completes (f a)) : Completes (x >>= f) := by
  intro s
  obtain ⟨a, s', hrun⟩ := hx s
  rw [bind_runs hrun]
  exact hf a s'

theorem completes_when {c : Prop} [Decidable c] {x : Faulty σ ε Unit} (hx : Completes x) :
    Completes (when c x) := by
  unfold when
  split
  · exact hx
  · exact completes_pure ()

theorem Completes.tryCatch {x : Faulty σ ε α} {handler : ε → Faulty σ ε α} (hx : Completes x) :
    Completes (tryCatch x handler) := by
  intro s
  obtain ⟨a, s', hrun⟩ := hx s
  refine ⟨a, s', ?_⟩
  unfold Faulty.tryCatch
  rw [hrun]

theorem Completes.transaction {rollback : σ → σ → σ} {x : Faulty σ ε α} (hx : Completes x) :
    Completes (transaction rollback x) := by
  intro s
  obtain ⟨a, s', hrun⟩ := hx s
  exact ⟨a, s', transaction_ok.mpr hrun⟩

/-- In a calm world the program returns, or throws `e` and nothing else, and the world
    stays calm. -/
def OnlyThrows (e : ε) (x : Faulty σ ε α) : Prop :=
  ∀ s, (∃ a s', x (.calm s) = (.ok a, .calm s')) ∨ ∃ s', x (.calm s) = (.error e, .calm s')

theorem onlyThrows_pure {e : ε} (a : α) : OnlyThrows e (Pure.pure a : Faulty σ ε α) :=
  fun s => .inl ⟨a, s, rfl⟩

theorem onlyThrows_call {e : ε} {f : σ → Except ε (α × σ)}
    (h : ∀ s e', f s = .error e' → e' = e) : OnlyThrows e (call f) := by
  intro s
  rw [call_calm]
  rcases hf : f s with e' | ⟨a, s'⟩
  · rw [h s e' hf]
    exact .inr ⟨s, rfl⟩
  · exact .inl ⟨a, s', rfl⟩

theorem onlyThrows_write {e : ε} (f : σ → σ) : OnlyThrows e (write f) :=
  fun s => .inl ⟨(), f s, rfl⟩

theorem OnlyThrows.bind {e : ε} {x : Faulty σ ε α} {f : α → Faulty σ ε β}
    (hx : OnlyThrows e x) (hf : ∀ a, OnlyThrows e (f a)) : OnlyThrows e (x >>= f) := by
  intro s
  rcases hx s with ⟨a, s', hrun⟩ | ⟨s', hrun⟩
  · rw [bind_runs hrun]
    exact hf a s'
  · exact .inr ⟨s', bind_throws hrun⟩

-- ============================================================================
-- The next call
-- ============================================================================

/-- The call number `i` from here, counted from 0, runs into something. -/
def ThrowsAt (w : World σ ε) (i : Nat) : Prop := ∃ e, w.faults[i]? = some (some e)

instance (w : World σ ε) (i : Nat) : Decidable (ThrowsAt w i) :=
  match h : w.faults[i]? with
  | some (some e) => .isTrue ⟨e, h⟩
  | some none => .isFalse fun ⟨_, h'⟩ => by rw [h] at h'; cases h'
  | none => .isFalse fun ⟨_, h'⟩ => by rw [h] at h'; cases h'

/-- The world once the next call has been made. -/
def afterCall (w : World σ ε) (s : σ) : World σ ε := ⟨s, w.faults.tail⟩

theorem throwsAt_afterCall {w : World σ ε} {s : σ} {i : Nat} :
    ThrowsAt (afterCall w s) i ↔ ThrowsAt w (i + 1) := by
  simp only [ThrowsAt, afterCall, List.getElem?_tail]

/-- A call that runs into something changes nothing. -/
theorem call_throws {f : σ → Except ε (α × σ)} {w : World σ ε} (h : ThrowsAt w 0) :
    ∃ e, call f w = (.error e, afterCall w w.state) := by
  obtain ⟨e, he⟩ := h
  obtain ⟨s, faults⟩ := w
  rcases faults with _ | ⟨fault, faults⟩
  · cases he
  · obtain rfl := Option.some.inj he
    exact ⟨e, rfl⟩

theorem not_throwsAt_of_ok {f : σ → Except ε (α × σ)} {w w' : World σ ε} {a : α}
    (h : call f w = (.ok a, w')) : ¬ThrowsAt w 0 := by
  intro hthrows
  obtain ⟨e, he⟩ := call_throws (f := f) hthrows
  cases h.symm.trans he

/-- A call that runs into nothing does what it says. -/
theorem call_runs {f : σ → Except ε (α × σ)} {w : World σ ε} {a : α} {s : σ}
    (h : ¬ThrowsAt w 0) (hf : f w.state = .ok (a, s)) : call f w = (.ok a, afterCall w s) := by
  unfold call
  split
  next e faults hfaults =>
    refine absurd ⟨e, ?_⟩ h
    rw [hfaults]
    rfl
  · rw [hf]
    rfl

theorem Quiet.not_throwsAt {w : World σ ε} (hw : Quiet w) (i : Nat) : ¬ThrowsAt w i := by
  rintro ⟨e, he⟩
  cases hw _ (List.mem_of_getElem? he)

theorem Quiet.afterCall {w : World σ ε} (hw : Quiet w) (s : σ) : Quiet (Faulty.afterCall w s) :=
  fun fault hmem => hw fault (List.mem_of_mem_tail hmem)

/-- An undisturbed call that its function lets through. -/
theorem Quiet.call_runs {f : σ → Except ε (α × σ)} {w : World σ ε} {a : α} {s : σ}
    (hw : Quiet w) (hf : f w.state = .ok (a, s)) :
    call f w = (.ok a, Faulty.afterCall w s) ∧ Quiet (Faulty.afterCall w s) :=
  ⟨Faulty.call_runs (hw.not_throwsAt 0) hf, hw.afterCall s⟩

/-- A call uses up one entry. -/
theorem call_throwsAt {f : σ → Except ε (α × σ)} {w w' : World σ ε} {r : Except ε α} {i : Nat}
    (h : call f w = (r, w')) : ThrowsAt w' i ↔ ThrowsAt w (i + 1) := by
  have htail : w'.faults = w.faults.tail := by
    unfold call at h
    split at h
    next hfaults =>
      rw [← (Prod.mk.inj h).2, hfaults]
      rfl
    · split at h
      · rw [← (Prod.mk.inj h).2]
      · rw [← (Prod.mk.inj h).2]
  rw [ThrowsAt, ThrowsAt, htail, List.getElem?_tail]

/-- A write throws only what it runs into. -/
theorem write_error_throwsAt {f : σ → σ} {w w' : World σ ε} {e : ε}
    (h : write f w = (.error e, w')) : ThrowsAt w 0 := by
  by_cases hthrows : ThrowsAt w 0
  · exact hthrows
  · have hruns : write f w = _ := call_runs hthrows rfl
    cases hruns.symm.trans h

theorem call_bind_throws {f : σ → Except ε (α × σ)} {k : α → Faulty σ ε β} {w : World σ ε}
    (h : ThrowsAt w 0) : ∃ e, (call f >>= k) w = (.error e, afterCall w w.state) := by
  obtain ⟨e, he⟩ := call_throws (f := f) h
  refine ⟨e, ?_⟩
  show Faulty.bind (call f) k w = _
  rw [Faulty.bind, he]

theorem call_bind_runs {f : σ → Except ε (α × σ)} {k : α → Faulty σ ε β} {w : World σ ε}
    {a : α} {s : σ} (h : ¬ThrowsAt w 0) (hf : f w.state = .ok (a, s)) :
    (call f >>= k) w = k a (afterCall w s) := by
  show Faulty.bind (call f) k w = _
  rw [Faulty.bind, call_runs h hf]

/-- Where a program that ends with `pure ()` throws, its first part did. -/
theorem bind_unit_error {x : Faulty σ ε α} {w w' : World σ ε} {e : ε}
    (h : (x >>= fun _ => Pure.pure ()) w = (.error e, w')) : x w = (.error e, w') := by
  change Faulty.bind x _ w = _ at h
  unfold Faulty.bind at h
  rcases hx : x w with ⟨e' | a, w₁⟩
  · rw [hx] at h
    cases h
    rfl
  · rw [hx] at h
    cases h

-- ============================================================================
-- What a program keeps, however it ends
-- ============================================================================

/-- The program leaves a state with `P` in `P`, whether it returns or throws. -/
def Preserves (P : σ → Prop) (x : Faulty σ ε α) : Prop :=
  ∀ w, P w.state → P (x w).2.state

section Preserves

variable {P : σ → Prop}

theorem preserves_pure (a : α) : Preserves P (Pure.pure a : Faulty σ ε α) := fun _ h => h

theorem preserves_throw (e : ε) : Preserves P (throw e : Faulty σ ε α) := fun _ h => h

theorem preserves_call {f : σ → Except ε (α × σ)}
    (h : ∀ s a s', P s → f s = .ok (a, s') → P s') : Preserves P (call f) := by
  intro w hw
  unfold call
  split
  · exact hw
  · split
    next hf => exact h _ _ _ hw hf
    · exact hw

theorem preserves_write {f : σ → σ} (h : ∀ s, P s → P (f s)) :
    Preserves P (write f : Faulty σ ε Unit) := by
  refine preserves_call fun s a s' hs hf => ?_
  obtain ⟨-, rfl⟩ := Prod.mk.inj (Except.ok.inj hf)
  exact h s hs

theorem Reads.preserves {x : Faulty σ ε α} {g : σ → α} (h : Reads x g) : Preserves P x := by
  intro w hw
  rw [(h w).1]
  exact hw

theorem Preserves.bind {x : Faulty σ ε α} {f : α → Faulty σ ε β} (hx : Preserves P x)
    (hf : ∀ a, Preserves P (f a)) : Preserves P (x >>= f) := by
  intro w hw
  show P (Faulty.bind x f w).2.state
  unfold Faulty.bind
  have hmid := hx w hw
  rcases h : x w with ⟨e | a, w₁⟩
  · rw [h] at hmid
    exact hmid
  · rw [h] at hmid
    exact hf a w₁ hmid

theorem preserves_when {c : Prop} [Decidable c] {x : Faulty σ ε Unit} (hx : Preserves P x) :
    Preserves P (when c x) := by
  unfold when
  split
  · exact hx
  · exact preserves_pure ()

theorem preserves_tryCatch {x : Faulty σ ε α} {handler : ε → Faulty σ ε α}
    (hx : Preserves P x) (hh : ∀ e, Preserves P (handler e)) :
    Preserves P (tryCatch x handler) := by
  intro w hw
  unfold tryCatch
  have hmid := hx w hw
  rcases h : x w with ⟨e | a, w₁⟩
  · rw [h] at hmid
    exact hh e w₁ hmid
  · rw [h] at hmid
    exact hmid

theorem preserves_forEach {body : α → Faulty σ ε Unit} {as : List α}
    (h : ∀ a ∈ as, Preserves P (body a)) : Preserves P (forEach body as) := by
  induction as with
  | nil => exact preserves_pure ()
  | cons a as ih =>
    exact (h a List.mem_cons_self).bind fun _ => ih fun b hb => h b (List.mem_cons_of_mem _ hb)

/-- A sequence ends where its first part has thrown, or where its second part ends. -/
theorem bind_state {x : Faulty σ ε α} {f : α → Faulty σ ε β} {w : World σ ε}
    (herror : ∀ e w', x w = (.error e, w') → P w'.state)
    (hok : ∀ a w', x w = (.ok a, w') → P (f a w').2.state) : P ((x >>= f) w).2.state := by
  show P (Faulty.bind x f w).2.state
  unfold Faulty.bind
  rcases hx : x w with ⟨e | a, w₁⟩
  · exact herror e w₁ hx
  · exact hok a w₁ hx

/-- A program that begins with a write: either the write throws and nothing has
    happened, or what it brings about is there in the end. -/
theorem call_bind_preserves {f : σ → Except ε (α × σ)} {k : α → Faulty σ ε β} {w : World σ ε}
    {a : α} {s : σ} (hf : f w.state = .ok (a, s)) (hs : P s) (hk : Preserves P (k a)) :
    (ThrowsAt w 0 ∧ ((call f >>= k) w).2.state = w.state) ∨
      (¬ThrowsAt w 0 ∧ P ((call f >>= k) w).2.state) := by
  by_cases h : ThrowsAt w 0
  · obtain ⟨e, he⟩ := call_bind_throws (f := f) (k := k) h
    rw [he]
    exact .inl ⟨h, rfl⟩
  · rw [call_bind_runs h hf]
    exact .inr ⟨h, hk _ hs⟩

end Preserves

-- ============================================================================
-- What a program leaves alone
-- ============================================================================

/-- The program leaves `g` of the state as it is, whether it returns or throws. -/
def Leaves {τ : Type} (g : σ → τ) (x : Faulty σ ε α) : Prop := ∀ w, g (x w).2.state = g w.state

section Leaves

variable {τ : Type} {g : σ → τ}

theorem Leaves.ok {x : Faulty σ ε α} (h : Leaves g x) {w w' : World σ ε} {r : Except ε α}
    (hx : x w = (r, w')) : g w'.state = g w.state := by
  have hw := h w
  rwa [hx] at hw

/-- What depends on what is left alone is preserved. -/
theorem Leaves.preserves {P : σ → Prop} {x : Faulty σ ε α} (h : Leaves g x)
    (hP : ∀ s s', g s' = g s → P s → P s') : Preserves P x :=
  fun w hw => hP w.state _ (h w) hw

/-- What is left alone in detail is left alone in any view of it. -/
theorem Leaves.comp {υ : Type} (f : τ → υ) {x : Faulty σ ε α} (h : Leaves g x) :
    Leaves (fun s => f (g s)) x :=
  fun w => congrArg f (h w)

theorem Reads.leaves {x : Faulty σ ε α} {f : σ → α} (h : Reads x f) : Leaves g x :=
  fun w => congrArg g (h w).1

theorem leaves_pure (a : α) : Leaves g (Pure.pure a : Faulty σ ε α) := fun _ => rfl

theorem leaves_throw (e : ε) : Leaves g (throw e : Faulty σ ε α) := fun _ => rfl

theorem leaves_read (f : σ → α) : Leaves g (read f : Faulty σ ε α) := (reads_read f).leaves

theorem leaves_call {f : σ → Except ε (α × σ)}
    (h : ∀ s a s', f s = .ok (a, s') → g s' = g s) : Leaves g (call f) := by
  intro w
  unfold call
  split
  · rfl
  · split
    next hf => exact h _ _ _ hf
    · rfl

theorem leaves_write {f : σ → σ} (h : ∀ s, g (f s) = g s) :
    Leaves g (write f : Faulty σ ε Unit) := by
  refine leaves_call fun s a s' hf => ?_
  obtain ⟨-, rfl⟩ := Prod.mk.inj (Except.ok.inj hf)
  exact h s

theorem leaves_modify {f : σ → α × σ} (h : ∀ s, g (f s).2 = g s) :
    Leaves g (modify f : Faulty σ ε α) :=
  fun w => h w.state

theorem Leaves.bind {x : Faulty σ ε α} {f : α → Faulty σ ε β} (hx : Leaves g x)
    (hf : ∀ a, Leaves g (f a)) : Leaves g (x >>= f) := by
  intro w
  show g (Faulty.bind x f w).2.state = _
  unfold Faulty.bind
  have hmid := hx w
  rcases h : x w with ⟨e | a, w₁⟩
  · rw [h] at hmid
    exact hmid
  · rw [h] at hmid
    exact (hf a w₁).trans hmid

theorem leaves_when {c : Prop} [Decidable c] {x : Faulty σ ε Unit} (hx : Leaves g x) :
    Leaves g (when c x) := by
  unfold when
  split
  · exact hx
  · exact leaves_pure ()

theorem leaves_zoom {υ : Type} {get : σ → υ} {set : σ → υ → σ} {x : Faulty υ ε α}
    (h : ∀ s t, g (set s t) = g s) : Leaves g (zoom get set x) :=
  fun w => h w.state _

theorem leaves_forEach {body : α → Faulty σ ε Unit} (h : ∀ a, Leaves g (body a)) (as : List α) :
    Leaves g (forEach body as) := by
  induction as with
  | nil => exact leaves_pure ()
  | cons a as ih => exact (h a).bind fun _ => ih

theorem leaves_tryCatch {x : Faulty σ ε α} {handler : ε → Faulty σ ε α} (hx : Leaves g x)
    (hh : ∀ e, Leaves g (handler e)) : Leaves g (tryCatch x handler) := by
  intro w
  unfold tryCatch
  have hmid := hx w
  rcases h : x w with ⟨e | a, w₁⟩
  · rw [h] at hmid
    exact (hh e w₁).trans hmid
  · rw [h] at hmid
    exact hmid

/-- A transaction that throws leaves what the rollback brings back. -/
theorem transaction_error {rollback : σ → σ → σ} {x : Faulty σ ε α} {w w' : World σ ε} {e : ε}
    (h : transaction rollback x w = (.error e, w')) :
    ∃ w₁, x w = (.error e, w₁) ∧ w' = { w₁ with state := rollback w.state w₁.state } := by
  unfold transaction at h
  split at h
  · cases h
  next hx =>
    obtain ⟨he, rfl⟩ := Prod.mk.inj h
    exact ⟨_, hx.trans (by rw [he]), rfl⟩

theorem leaves_transaction {rollback : σ → σ → σ} {x : Faulty σ ε α} (hx : Leaves g x)
    (hroll : ∀ s s', g s' = g s → g (rollback s s') = g s) :
    Leaves g (transaction rollback x) := by
  intro w
  have hmid := hx w
  rcases h : transaction rollback x w with ⟨e | a, w'⟩
  · obtain ⟨w₁, hw₁, rfl⟩ := transaction_error h
    rw [hw₁] at hmid
    exact hroll _ _ hmid
  · rw [transaction_ok.mp h] at hmid
    exact hmid

end Leaves

-- ============================================================================
-- Triples
-- ============================================================================

/-- The outcome is a return into `Q` or an exception into `E`. -/
def Ends (Q : α → σ → Prop) (E : σ → Prop) : Except ε α × World σ ε → Prop
  | (.ok a, w) => Q a w.state
  | (.error _, w) => E w.state

/-- From a state with `P`, the program returns into `Q` or throws into `E`. -/
def Triple (P : σ → Prop) (x : Faulty σ ε α) (Q : α → σ → Prop) (E : σ → Prop) : Prop :=
  ∀ w, P w.state → Ends Q E (x w)

section Triple

variable {P P' : σ → Prop} {Q : α → σ → Prop} {R : β → σ → Prop} {E : σ → Prop}
  {x : Faulty σ ε α}

theorem Triple.of_ok (h : Triple P x Q E) {w w' : World σ ε} {a : α} (hP : P w.state)
    (hx : x w = (.ok a, w')) : Q a w'.state := by
  have hw := h w hP
  rwa [hx] at hw

theorem Triple.of_error (h : Triple P x Q E) {w w' : World σ ε} {e : ε} (hP : P w.state)
    (hx : x w = (.error e, w')) : E w'.state := by
  have hw := h w hP
  rwa [hx] at hw

theorem triple_pure {a : α} (h : ∀ s, P s → Q a s) :
    Triple P (Pure.pure a : Faulty σ ε α) Q E :=
  fun w hw => h w.state hw

theorem Triple.bind {f : α → Faulty σ ε β} (hx : Triple P x Q E)
    (hf : ∀ a, Triple (Q a) (f a) R E) : Triple P (x >>= f) R E := by
  intro w hw
  show Ends R E (Faulty.bind x f w)
  unfold Faulty.bind
  have hw' := hx w hw
  rcases h : x w with ⟨_ | a, w'⟩
  · rw [h] at hw'
    exact hw'
  · rw [h] at hw'
    exact hf a w' hw'

theorem triple_call {f : σ → Except ε (α × σ)} (hE : ∀ s, P s → E s)
    (hQ : ∀ s a s', P s → f s = .ok (a, s') → Q a s') : Triple P (call f) Q E := by
  intro w hw
  unfold call
  split
  · exact hE _ hw
  · split
    next hf => exact hQ _ _ _ hw hf
    · exact hE _ hw

theorem triple_read {f : σ → α} (hE : ∀ s, P s → E s) (hQ : ∀ s, P s → Q (f s) s) :
    Triple P (read f : Faulty σ ε α) Q E := by
  refine triple_call hE fun s a s' hs h => ?_
  cases h
  exact hQ s hs

theorem triple_write {f : σ → σ} {Q : Unit → σ → Prop} (hE : ∀ s, P s → E s)
    (hQ : ∀ s, P s → Q () (f s)) : Triple P (write f : Faulty σ ε Unit) Q E := by
  refine triple_call hE fun s a s' hs h => ?_
  cases h
  exact hQ s hs

/-- The program throws. -/
def Throws (x : Faulty σ ε α) (w : World σ ε) : Prop := ∃ e w', x w = (.error e, w')

theorem tryFinally_state (x : Faulty σ ε α) (finalizer : Faulty σ ε Unit) (w : World σ ε) :
    (tryFinally x finalizer w).2 = (finalizer (x w).2).2 := by
  unfold tryFinally
  rcases x w with ⟨r, w₁⟩
  simp only
  rcases finalizer w₁ with ⟨_ | _, w₂⟩ <;> rfl

/-- What a program leaves alone is still there, however it ends. -/
theorem Leaves.triple {τ : Type} {g : σ → τ} {c : τ} (h : Leaves g x) :
    Triple (fun s => g s = c) x (fun _ s => g s = c) fun s => g s = c := by
  intro w hw
  have hw' := (h w).trans hw
  rcases hx : x w with ⟨_ | a, w'⟩
  · rw [hx] at hw'
    exact hw'
  · rw [hx] at hw'
    exact hw'

theorem Reads.triple {g : σ → α} (h : Reads x g) (hE : ∀ s, P s → E s)
    (hQ : ∀ s, P s → Q (g s) s) : Triple P x Q E := by
  intro w hw
  obtain ⟨hstate, hval⟩ := h w
  rcases hx : x w with ⟨_ | a, w'⟩
  · rw [hx] at hstate
    show E w'.state
    rw [hstate]
    exact hE _ hw
  · rw [hx] at hstate hval
    show Q a w'.state
    rw [hval a rfl, hstate]
    exact hQ _ hw

theorem Triple.tryCatch {handler : ε → Faulty σ ε α} {F : σ → Prop} (hx : Triple P x Q F)
    (hh : ∀ e, Triple F (handler e) Q E) : Triple P (tryCatch x handler) Q E := by
  intro w hw
  unfold Faulty.tryCatch
  have hw' := hx w hw
  rcases h : x w with ⟨e | a, w'⟩
  · rw [h] at hw'
    exact hh e w' hw'
  · rw [h] at hw'
    exact hw'

theorem Triple.tryFinally {finalizer : Faulty σ ε Unit} {Q' : α → σ → Prop} {E' : σ → Prop}
    (hx : Triple P x Q' E') (hok : ∀ a, Triple (Q' a) finalizer (fun _ => Q a) E)
    (herror : Triple E' finalizer (fun _ => E) E) : Triple P (tryFinally x finalizer) Q E := by
  intro w hw
  unfold Faulty.tryFinally
  have hw' := hx w hw
  rcases h : x w with ⟨e | a, w'⟩
  · rw [h] at hw'
    have hfin := herror w' hw'
    simp only
    rcases h' : finalizer w' with ⟨_ | _, w''⟩
    · rw [h'] at hfin
      exact hfin
    · rw [h'] at hfin
      exact hfin
  · rw [h] at hw'
    have hfin := hok a w' hw'
    simp only
    rcases h' : finalizer w' with ⟨_ | _, w''⟩
    · rw [h'] at hfin
      exact hfin
    · rw [h'] at hfin
      exact hfin

/-- An exception inside a transaction leaves the state rolled back. -/
theorem Triple.transaction {rollback : σ → σ → σ} {F : σ → Prop} (hx : Triple P x Q F)
    (hE : ∀ s s', P s → F s' → E (rollback s s')) :
    Triple P (transaction rollback x) Q E := by
  intro w hw
  unfold Faulty.transaction
  have hw' := hx w hw
  rcases h : x w with ⟨e | a, w'⟩
  · rw [h] at hw'
    exact hE _ _ hw hw'
  · rw [h] at hw'
    exact hw'

end Triple

end Faulty

end AccessService.Lib
