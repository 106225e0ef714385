/-
  AccessService.Accounts.ConcurrentStatusEvents

  Transactions of `synchronizeEmployeeStatus` about one employee, interleaved statement by
  statement at READ COMMITTED.  A statement sees what has been committed; an UPDATE waits
  for the lock on its row, writes the committed row, and keeps the lock until the end of
  its transaction.  `findById` and `findOne` take no lock.

  The statements about invitations and security events touch neither the employee nor the
  user, so they are left out: a commit comes at any time after the employee is written.
-/

import AccessService.Accounts.StatusEvents

namespace AccessService.Accounts

open AccessService.Js AccessService.Lib AccessService.Lib.Transition AccessService.Pg
open AccessService.Persistence

-- ============================================================================
-- Statements
-- ============================================================================

/-- How far a transaction is, with the rows it holds and has written. -/
inductive StatusPhase where
  | begun
  /-- The event has been found to be new. -/
  | checked
  | linked (user : Option UserRow)
  | wroteUser (user : UserRow)
  | wroteEmployee (employee : EmployeeRow) (user : Option UserRow)
  | committed
  | aborted
  deriving DecidableEq

def StatusPhase.locksUser : StatusPhase → Bool
  | .wroteUser _ | .wroteEmployee _ (some _) => true
  | _ => false

def StatusPhase.locksEmployee : StatusPhase → Bool
  | .wroteEmployee _ _ => true
  | _ => false

/-- The next statement is the UPDATE of the employee. -/
def StatusPhase.writesEmployee : StatusPhase → Bool
  | .linked none | .wroteUser _ => true
  | _ => false

def StatusPhase.isOpen : StatusPhase → Bool
  | .committed | .aborted => false
  | _ => true

structure StatusTransaction where
  change : StatusChange
  phase : StatusPhase := .begun
  deriving DecidableEq

/-- The committed rows, and the transactions. -/
structure StatusRace where
  account : LinkedAccount
  transactions : List StatusTransaction
  deriving DecidableEq

def EmployeeRow.received (employee : EmployeeRow) (change : StatusChange) : EmployeeRow :=
  employee.changed change.event.employeeStatus (toString change.sourceVersion.val)

namespace StatusRace

/-- No transaction has a lock. -/
def unlocked (s : StatusRace) (locks : StatusPhase → Bool) : Bool :=
  s.transactions.all fun t => !locks t.phase

/-- The next statement of a transaction, if it need not wait: where it leads, and what is
    committed afterwards. -/
def statement (s : StatusRace) (t : StatusTransaction) : Option (StatusPhase × LinkedAccount) :=
  match t.phase with
  | .begun =>
    -- a stale event ends the transaction
    if s.account.employee.isStale t.change.sourceVersion then some (.committed, s.account)
    else some (.checked, s.account)
  | .checked => some (.linked s.account.user, s.account)
  | .linked none =>
    if s.unlocked StatusPhase.locksEmployee then
      some (.wroteEmployee (s.account.employee.received t.change) none, s.account)
    else none
  | .linked (some user) =>
    if s.unlocked StatusPhase.locksUser then
      (s.account.user.bind (t.change.event.update user).apply).map fun user' =>
        (.wroteUser user', s.account)
    else none
  | .wroteUser user =>
    if s.unlocked StatusPhase.locksEmployee then
      some (.wroteEmployee (s.account.employee.received t.change) (some user), s.account)
    else none
  | .wroteEmployee employee user => some (.committed, ⟨employee, user.or s.account.user⟩)
  | .committed | .aborted => none

def put (s : StatusRace) (i : Nat) (t : StatusTransaction) (phase : StatusPhase)
    (account : LinkedAccount) : StatusRace where
  account := account
  transactions := s.transactions.set i { t with phase := phase }

end StatusRace

inductive StatusTurn where
  | next (i : Nat)
  | abort (i : Nat)
  deriving DecidableEq

def statusRaces : System StatusRace StatusTurn where
  init s := ∀ t ∈ s.transactions, t.phase = .begun
  step s
    | .next i => (s.transactions[i]?).bind fun t =>
      (s.statement t).map fun (phase, account) => s.put i t phase account
    | .abort i => (s.transactions[i]?).bind fun t =>
      if t.phase.isOpen then some (s.put i t .aborted s.account) else none

-- ============================================================================
-- A transaction alone
-- ============================================================================

/-- The statements up to the commit. -/
def statusTurns (account : LinkedAccount) (change : StatusChange) : List StatusTurn :=
  if account.employee.isStale change.sourceVersion then [.next 0]
  else List.replicate (if account.user.isSome then 5 else 4) (.next 0)

theorem execute_alone (account : LinkedAccount) (change : StatusChange) :
    statusRaces.execute ⟨account, [{ change := change }]⟩ (statusTurns account change) =
      some ⟨statusRegister.receive account change, [⟨change, .committed⟩]⟩ := by
  obtain ⟨employee, user⟩ := account
  unfold statusTurns
  by_cases hstale : employee.isStale change.sourceVersion = true
  · have hreceive : statusRegister.receive ⟨employee, user⟩ change = ⟨employee, user⟩ :=
      if_pos hstale
    rw [if_pos hstale, hreceive]
    simp [System.execute, statusRaces, StatusRace.statement, StatusRace.put, hstale]
  · have hreceive : statusRegister.receive ⟨employee, user⟩ change =
        LinkedAccount.apply change ⟨employee, user⟩ :=
      if_neg hstale
    rw [if_neg hstale, hreceive]
    cases user with
    | none =>
      simp [List.replicate, System.execute, statusRaces, StatusRace.statement, StatusRace.put, hstale,
        StatusRace.unlocked, StatusPhase.locksEmployee, LinkedAccount.apply, EmployeeRow.received]
    | some user =>
      simp [List.replicate, System.execute, statusRaces, StatusRace.statement, StatusRace.put, hstale,
        StatusRace.unlocked, StatusPhase.locksEmployee, StatusPhase.locksUser,
        EmployeeEvent.update_apply, LinkedAccount.apply, EmployeeRow.received]

/-- Alone, a transaction does what the service does. -/
theorem synchronizeEmployeeStatus_alone {ctx : AccountContext} {fresh : FreshInvitation}
    {payload : EmployeeStatusPayload} {event : EmployeeEvent} {b : Bool}
    {w w' : World AccountStore AccountError} {account : LinkedAccount} (hevent : event ≠ .other)
    (hfound : linkedAccount ctx payload.id w.state = some account)
    (h : ProvisioningApplicationService.synchronizeEmployeeStatus ctx fresh event payload w =
      (.ok b, w')) :
    ∃ account', linkedAccount ctx payload.id w'.state = some account' ∧
      statusRaces.execute ⟨account, [{ change := ⟨event, hevent, payload.sourceVersion⟩ }]⟩
          (statusTurns account ⟨event, hevent, payload.sourceVersion⟩) =
        some ⟨account', [⟨⟨event, hevent, payload.sourceVersion⟩, .committed⟩]⟩ :=
  ⟨_, linkedAccount_synchronized hevent hfound h, execute_alone _ _⟩

-- ============================================================================
-- Versions
-- ============================================================================

section Versions

variable {employee : EmployeeRow} {change change' : StatusChange} {v v' : SafeInteger}

theorem EmployeeRow.isStale_of_le (h : employee.isStale v = true) (hle : v'.val ≤ v.val) :
    employee.isStale v' = true := by
  have hcast : (v'.val : ℚ) ≤ v.val := Int.cast_le.mpr hle
  unfold EmployeeRow.isStale at h ⊢
  cases hstored : employee.currentStoredVersion with
  | nan => rw [hstored, JsNumber.le_nan_right] at h; cases h
  | negInf => rw [hstored] at h; cases h
  | posInf => rfl
  | fin q =>
    rw [hstored, JsNumber.le_fin, decide_eq_true_eq] at h
    rw [JsNumber.le_fin, decide_eq_true_eq]
    exact hcast.trans h

@[simp] theorem EmployeeRow.isStale_received :
    (employee.received change).isStale v = true ↔ v.val ≤ change.sourceVersion.val := by
  unfold EmployeeRow.isStale EmployeeRow.received
  rw [EmployeeRow.currentStoredVersion_changed, JsNumber.le_fin, decide_eq_true_eq]
  exact Int.cast_le

/-- What was stale stays so when a newer event is written. -/
theorem EmployeeRow.isStale_received_of (hnew : employee.isStale change.sourceVersion = false)
    (h : employee.isStale v = true) : (employee.received change).isStale v = true := by
  rw [EmployeeRow.isStale_received]
  by_contra hlt
  have hstale := EmployeeRow.isStale_of_le h (not_le.mp hlt).le
  rw [hnew] at hstale
  cases hstale

theorem EmployeeRow.received_received :
    (employee.received change).received change' = employee.received change' :=
  congrArg LinkedAccount.employee (LinkedAccount.apply_apply change change' ⟨employee, none⟩)

theorem EmployeeRow.received_not_older (hnew : employee.isStale change.sourceVersion = false) :
    JsNumber.lt (employee.received change).currentStoredVersion employee.currentStoredVersion =
      false := by
  unfold EmployeeRow.received
  rw [EmployeeRow.currentStoredVersion_changed]
  unfold EmployeeRow.isStale at hnew
  cases hstored : employee.currentStoredVersion with
  | nan => exact JsNumber.lt_nan_right _
  | negInf => rfl
  | posInf => rw [hstored] at hnew; cases hnew
  | fin q =>
    rw [hstored, JsNumber.le_fin, decide_eq_false_iff_not] at hnew
    rw [JsNumber.lt_fin, decide_eq_false_iff_not]
    exact fun hlt => hnew hlt.le

end Versions

-- ============================================================================
-- Moves
-- ============================================================================

/-- What a turn makes of a transaction and of what is committed. -/
inductive StatusMove (s : StatusRace) (t : StatusTransaction) :
    StatusPhase → LinkedAccount → Prop where
  | proceeds {phase} (hlocks : phase.locksEmployee = false) (hopen : phase ≠ .committed) :
      StatusMove s t phase s.account
  | dropped (hstale : s.account.employee.isStale t.change.sourceVersion = true) :
      StatusMove s t .committed s.account
  | writes {user} (hwrites : t.phase.writesEmployee = true)
      (hunlocked : s.unlocked StatusPhase.locksEmployee = true) :
      StatusMove s t (.wroteEmployee (s.account.employee.received t.change) user) s.account
  | commits {employee user} (hphase : t.phase = .wroteEmployee employee user) :
      StatusMove s t .committed ⟨employee, user.or s.account.user⟩

variable {start s s' : StatusRace} {t : StatusTransaction} {turn : StatusTurn}

theorem StatusRace.statement_move {phase : StatusPhase} {account : LinkedAccount}
    (h : s.statement t = some (phase, account)) : StatusMove s t phase account := by
  unfold StatusRace.statement at h
  split at h
  · split at h
    next hstale =>
      cases h
      exact .dropped hstale
    · cases h
      exact .proceeds rfl nofun
  · cases h
    exact .proceeds rfl nofun
  next hphase =>
    split at h
    next hunlocked =>
      cases h
      exact .writes (by rw [hphase]; rfl) hunlocked
    · cases h
  · split at h
    · obtain ⟨user, -, heq⟩ := Option.map_eq_some_iff.mp h
      cases heq
      exact .proceeds rfl nofun
    · cases h
  next hphase =>
    split at h
    next hunlocked =>
      cases h
      exact .writes (by rw [hphase]; rfl) hunlocked
    · cases h
  next hphase =>
    cases h
    exact .commits hphase
  · cases h
  · cases h

theorem statusRaces_step (h : statusRaces.step s turn = some s') :
    ∃ i t phase account, s.transactions[i]? = some t ∧ s' = s.put i t phase account ∧
      StatusMove s t phase account ∧ (t.phase.writesEmployee = true → phase ≠ .aborted →
        turn = .next i) := by
  cases turn with
  | next i =>
    obtain ⟨t, ht, hmap⟩ := Option.bind_eq_some_iff.mp h
    obtain ⟨⟨phase, account⟩, hstatement, rfl⟩ := Option.map_eq_some_iff.mp hmap
    exact ⟨i, t, phase, account, ht, rfl, StatusRace.statement_move hstatement, fun _ _ => rfl⟩
  | abort i =>
    obtain ⟨t, ht, habort⟩ := Option.bind_eq_some_iff.mp h
    split at habort
    · cases habort
      exact ⟨i, t, .aborted, s.account, ht, rfl, .proceeds rfl nofun,
        fun _ hne => absurd rfl hne⟩
    · cases habort

-- ============================================================================
-- Runs in which only newer events are written
-- ============================================================================

/-- The transaction whose statement runs. -/
def StatusRace.running (s : StatusRace) : StatusTurn → Option StatusTransaction
  | .next i => s.transactions[i]?
  | .abort _ => none

/-- When a transaction writes the employee, the row is still older than its event: no newer
    event has been committed since the transaction found the employee. -/
def WritesNewer (s : StatusRace) (turn : StatusTurn) (_ : StatusRace) : Prop :=
  ∀ t ∈ s.running turn, t.phase.writesEmployee = true →
    s.account.employee.isStale t.change.sourceVersion = false

instance (s : StatusRace) (turn : StatusTurn) (s' : StatusRace) :
    Decidable (WritesNewer s turn s') :=
  inferInstanceAs (Decidable (∀ t ∈ s.running turn, t.phase.writesEmployee = true →
    s.account.employee.isStale t.change.sourceVersion = false))

/-- The stored version is not lower after a step. -/
def NotLower (s : StatusRace) (_ : StatusTurn) (s' : StatusRace) : Prop :=
  JsNumber.lt s'.account.employee.currentStoredVersion
    s.account.employee.currentStoredVersion = false

def StatusRace.events (s : StatusRace) : List StatusChange := s.transactions.map (·.change)

/-- The employee is as it was at the start, or as an event of the race that was new then
    has left it. -/
structure StatusRace.Sound (start s : StatusRace) : Prop where
  events : s.events = start.events
  stored : s.account.employee = start.account.employee ∨ ∃ change ∈ start.events,
    start.account.employee.isStale change.sourceVersion = false ∧
      s.account.employee = start.account.employee.received change
  later : ∀ v, start.account.employee.isStale v = true → s.account.employee.isStale v = true
  written : ∀ (i : Nat) (t : StatusTransaction) employee user, s.transactions[i]? = some t →
    t.phase = .wroteEmployee employee user →
      employee = s.account.employee.received t.change ∧
        s.account.employee.isStale t.change.sourceVersion = false
  locked : ∀ (i j : Nat) (t t' : StatusTransaction), s.transactions[i]? = some t →
    s.transactions[j]? = some t' →
    t.phase.locksEmployee = true → t'.phase.locksEmployee = true → i = j
  settled : ∀ (i : Nat) (t : StatusTransaction), s.transactions[i]? = some t → t.phase = .committed →
    s.account.employee.isStale t.change.sourceVersion = true

theorem StatusRace.put_row {i j : Nat} {t' : StatusTransaction} {phase : StatusPhase}
    {account : LinkedAccount} (ht : s.transactions[i]? = some t) :
    (s.put i t phase account).transactions[j]? = some t' ↔
      (j = i ∧ t' = { t with phase := phase }) ∨ (j ≠ i ∧ s.transactions[j]? = some t') :=
  Rows.getElem?_set_row ht

theorem StatusRace.put_events {i : Nat} {phase : StatusPhase} {account : LinkedAccount}
    (ht : s.transactions[i]? = some t) : (s.put i t phase account).events = s.events := by
  have hchange : s.events[i]? = some t.change := by
    rw [StatusRace.events, List.getElem?_map, ht]
    rfl
  have hset : (s.put i t phase account).events = s.events.set i t.change := List.map_set
  rw [hset]
  refine List.ext_getElem? fun j => ?_
  by_cases hj : j = i
  · rw [hj, Rows.getElem?_set_self hchange, hchange]
  · rw [Rows.getElem?_set_ne hj]

theorem StatusRace.Sound.init (hinit : statusRaces.init start) : start.Sound start where
  events := rfl
  stored := .inl rfl
  later _ h := h
  written i t employee user ht hphase := by
    rw [hinit t (List.mem_of_getElem? ht)] at hphase
    cases hphase
  locked i j t t' ht _ hlocks _ := by
    rw [hinit t (List.mem_of_getElem? ht)] at hlocks
    cases hlocks
  settled i t ht hphase := by
    rw [hinit t (List.mem_of_getElem? ht)] at hphase
    cases hphase

/-- The account stays, and the transaction comes into no lock. -/
theorem StatusRace.Sound.same {i : Nat} {phase : StatusPhase} (h : start.Sound s)
    (ht : s.transactions[i]? = some t) (hlocks : phase.locksEmployee = false)
    (hsettled : phase = .committed →
      s.account.employee.isStale t.change.sourceVersion = true) :
    start.Sound (s.put i t phase s.account) where
  events := (StatusRace.put_events ht).trans h.events
  stored := h.stored
  later := h.later
  written j t' employee user ht' hphase := by
    rcases (StatusRace.put_row ht).mp ht' with ⟨-, rfl⟩ | ⟨-, hold⟩
    · simp only at hphase
      rw [hphase] at hlocks
      cases hlocks
    · exact h.written j t' employee user hold hphase
  locked j k t' t'' ht' ht'' hlocks' hlocks'' := by
    rcases (StatusRace.put_row ht).mp ht' with ⟨-, rfl⟩ | ⟨-, hold'⟩
    · exact absurd hlocks' (by simp [hlocks])
    · rcases (StatusRace.put_row ht).mp ht'' with ⟨-, rfl⟩ | ⟨-, hold''⟩
      · exact absurd hlocks'' (by simp [hlocks])
      · exact h.locked j k t' t'' hold' hold'' hlocks' hlocks''
  settled j t' ht' hphase := by
    rcases (StatusRace.put_row ht).mp ht' with ⟨-, rfl⟩ | ⟨-, hold⟩
    · exact hsettled hphase
    · exact h.settled j t' hold hphase

/-- The transaction writes the employee, which no other has written. -/
theorem StatusRace.Sound.write {i : Nat} {user : Option UserRow} (h : start.Sound s)
    (ht : s.transactions[i]? = some t) (hunlocked : s.unlocked StatusPhase.locksEmployee = true)
    (hnew : s.account.employee.isStale t.change.sourceVersion = false) :
    start.Sound
      (s.put i t (.wroteEmployee (s.account.employee.received t.change) user) s.account) where
  events := (StatusRace.put_events ht).trans h.events
  stored := h.stored
  later := h.later
  written j t' employee user ht' hphase := by
    rcases (StatusRace.put_row ht).mp ht' with ⟨-, rfl⟩ | ⟨-, hold⟩
    · cases hphase
      exact ⟨rfl, hnew⟩
    · exact h.written j t' employee user hold hphase
  locked j k t' t'' ht' ht'' hlocks' hlocks'' := by
    have hfree : ∀ t' : StatusTransaction, t' ∈ s.transactions →
        t'.phase.locksEmployee = false := by
      intro t' hmem
      simpa using List.all_eq_true.mp hunlocked t' hmem
    rcases (StatusRace.put_row ht).mp ht' with ⟨rfl, -⟩ | ⟨-, hold'⟩
    · rcases (StatusRace.put_row ht).mp ht'' with ⟨rfl, -⟩ | ⟨-, hold''⟩
      · rfl
      · rw [hfree t'' (List.mem_of_getElem? hold'')] at hlocks''
        cases hlocks''
    · rw [hfree t' (List.mem_of_getElem? hold')] at hlocks'
      cases hlocks'
  settled j t' ht' hphase := by
    rcases (StatusRace.put_row ht).mp ht' with ⟨-, rfl⟩ | ⟨-, hold⟩
    · cases hphase
    · exact h.settled j t' hold hphase

/-- The transaction that has written the employee commits. -/
theorem StatusRace.Sound.commit {i : Nat} {employee : EmployeeRow} {user user' : Option UserRow}
    (h : start.Sound s) (ht : s.transactions[i]? = some t)
    (hphase : t.phase = .wroteEmployee employee user) :
    start.Sound (s.put i t .committed ⟨employee, user'⟩) := by
  obtain ⟨rfl, hnew⟩ := h.written i t employee user ht hphase
  have hlocks : t.phase.locksEmployee = true := by rw [hphase]; rfl
  have hold : start.account.employee.isStale t.change.sourceVersion = false := by
    by_contra hstale
    have hstale' := h.later _ (Bool.not_eq_false _ ▸ hstale)
    rw [hnew] at hstale'
    cases hstale'
  have hmem : t.change ∈ start.events := by
    rw [← h.events]
    exact List.mem_map_of_mem (List.mem_of_getElem? ht)
  have hreceived : s.account.employee.received t.change =
      start.account.employee.received t.change := by
    rcases h.stored with hsame | ⟨change, -, -, hsame⟩
    · rw [hsame]
    · rw [hsame, EmployeeRow.received_received]
  refine ⟨(StatusRace.put_events ht).trans h.events, .inr ⟨t.change, hmem, hold, hreceived⟩,
    fun v hv => EmployeeRow.isStale_received_of hnew (h.later v hv), ?_, ?_, ?_⟩
  · intro j t' employee user'' ht' hphase'
    rcases (StatusRace.put_row ht).mp ht' with ⟨-, rfl⟩ | ⟨hne, hother⟩
    · cases hphase'
    · exact absurd (h.locked j i t' t hother ht (by rw [hphase']; rfl) hlocks) hne
  · intro j k t' t'' ht' ht'' hlocks' hlocks''
    rcases (StatusRace.put_row ht).mp ht' with ⟨-, rfl⟩ | ⟨hne, hother⟩
    · cases hlocks'
    · exact absurd (h.locked j i t' t hother ht hlocks' hlocks) hne
  · intro j t' ht' hphase'
    rcases (StatusRace.put_row ht).mp ht' with ⟨-, rfl⟩ | ⟨-, hother⟩
    · exact EmployeeRow.isStale_received.mpr le_rfl
    · exact EmployeeRow.isStale_received_of hnew (h.settled j t' hother hphase')

theorem StatusRace.Sound.step (h : start.Sound s) (hstep : statusRaces.step s turn = some s')
    (hnewer : WritesNewer s turn s') : start.Sound s' ∧ NotLower s turn s' := by
  obtain ⟨i, t, phase, account, ht, rfl, hmove, hturn⟩ := statusRaces_step hstep
  have hsame : JsNumber.lt s.account.employee.currentStoredVersion
      s.account.employee.currentStoredVersion = false := JsNumber.lt_irrefl _
  cases hmove with
  | proceeds hlocks hopen => exact ⟨h.same ht hlocks fun heq => absurd heq hopen, hsame⟩
  | dropped hstale => exact ⟨h.same ht rfl fun _ => hstale, hsame⟩
  | writes hwrites hunlocked =>
    have hrunning : s.running turn = some t := by rw [hturn hwrites nofun]; exact ht
    have hnew := hnewer t hrunning hwrites
    exact ⟨h.write ht hunlocked hnew, hsame⟩
  | commits hphase =>
    refine ⟨h.commit ht hphase, ?_⟩
    obtain ⟨rfl, hnew⟩ := h.written i t _ _ ht hphase
    exact EmployeeRow.received_not_older hnew

/-- The row once all events have been handled: what the newest leaves, if it was new. -/
def EmployeeRow.settled (employee : EmployeeRow) (newest : StatusChange) : EmployeeRow :=
  if employee.isStale newest.sourceVersion then employee else employee.received newest

theorem StatusRace.Sound.settles {newest : StatusChange} (h : start.Sound s)
    (hcommitted : ∀ t ∈ s.transactions, t.phase = .committed) (hnewest : newest ∈ start.events)
    (hmax : ∀ change ∈ start.events, change.sourceVersion.val ≤ newest.sourceVersion.val)
    (hdistinct : ∀ change ∈ start.events, change.sourceVersion.val = newest.sourceVersion.val →
      change = newest) :
    s.account.employee = start.account.employee.settled newest := by
  have hmem : newest ∈ s.events := h.events ▸ hnewest
  obtain ⟨t, ht, rfl⟩ := List.mem_map.mp hmem
  obtain ⟨i, hi⟩ := List.mem_iff_getElem?.mp ht
  have hstale := h.settled i t hi (hcommitted t ht)
  unfold EmployeeRow.settled
  rcases h.stored with hsame | ⟨change, hchange, hnew, hsame⟩
  · rw [← hsame, if_pos hstale]
  · rw [hsame, EmployeeRow.isStale_received] at hstale
    have heq := hdistinct change hchange (le_antisymm (hmax change hchange) hstale)
    rw [hsame, ← heq, if_neg (by simp [hnew])]

/-- In a run in which a transaction writes the employee only over an older event, the stored
    version never decreases, and when all have committed the newest event is stored. -/
theorem newest_status_wins (start s : StatusRace) {turns : List StatusTurn}
    (hinit : statusRaces.init start) (hrun : statusRaces.execute start turns = some s)
    (hnewer : statusRaces.Along WritesNewer start turns) :
    statusRaces.Along NotLower start turns ∧
      ((∀ t ∈ s.transactions, t.phase = .committed) →
        ∀ newest ∈ start.events,
          (∀ change ∈ start.events, change.sourceVersion.val ≤ newest.sourceVersion.val) →
          (∀ change ∈ start.events, change.sourceVersion.val = newest.sourceVersion.val →
            change = newest) →
          s.account.employee = start.account.employee.settled newest) := by
  have hkeeps : ∀ r turn r', start.Sound r → statusRaces.step r turn = some r' →
      WritesNewer r turn r' → start.Sound r' ∧ NotLower r turn r' :=
    fun _ _ _ hsound hstep hq => hsound.step hstep hq
  have hsound : start.Sound s :=
    System.Along.invariant (fun r turn r' hr hst hq => (hkeeps r turn r' hr hst hq).1)
      (.init hinit) hrun hnewer
  refine ⟨?_, fun hcommitted newest hnewest hmax hdistinct =>
    hsound.settles hcommitted hnewest hmax hdistinct⟩
  exact System.Along.imp (fun r turn r' hr hst hq => (hkeeps r turn r' hr hst hq).2)
    (fun r turn r' hr hst hq => (hkeeps r turn r' hr hst hq).1) (.init hinit) hnewer

-- ============================================================================
-- Two events at once
-- ============================================================================

/-- A suspension and the reactivation that follows it. -/
def sampleRace : StatusRace where
  account := ⟨{ toEmployeeReference := sampleEmployee }, some sampleAccount⟩
  transactions := [{ change := suspendedSample.change }, { change := reactivatedSample.change }]

def oneAfterTheOther : List StatusTurn :=
  List.replicate 5 (.next 0) ++ List.replicate 5 (.next 1)

/-- The reactivation runs between the suspension's check and its writes. -/
def overtaken : List StatusTurn :=
  [.next 0] ++ List.replicate 5 (.next 1) ++ List.replicate 4 (.next 0)

theorem newest_status_wins_sample :
    ∃ s, statusRaces.execute sampleRace oneAfterTheOther = some s ∧
      statusRaces.Along NotLower sampleRace oneAfterTheOther ∧
      s.account.employee = sampleRace.account.employee.settled reactivatedSample.change := by
  have hinit : statusRaces.init sampleRace := by
    show ∀ t ∈ sampleRace.transactions, t.phase = .begun
    decide
  have hsome : (statusRaces.execute sampleRace oneAfterTheOther).isSome = true := by
    decide +kernel
  obtain ⟨s, hs⟩ := Option.isSome_iff_exists.mp hsome
  have hresult := newest_status_wins sampleRace s hinit hs (by decide +kernel)
  refine ⟨s, hs, hresult.1, hresult.2 ?_ reactivatedSample.change (by decide) ?_ ?_⟩
  · have hcommitted : ∀ r ∈ statusRaces.execute sampleRace oneAfterTheOther,
        ∀ t ∈ r.transactions, t.phase = .committed := by
      decide +kernel
    exact hcommitted s hs
  · decide
  · decide

/-- The older event is stored over the newer one. -/
theorem not_newest_status_wins :
    ¬∀ (start s : StatusRace) (turns : List StatusTurn), statusRaces.init start →
        statusRaces.execute start turns = some s →
        (∀ t ∈ s.transactions, t.phase = .committed) →
        ∀ newest ∈ start.events,
          (∀ change ∈ start.events, change.sourceVersion.val ≤ newest.sourceVersion.val) →
          (∀ change ∈ start.events, change.sourceVersion.val = newest.sourceVersion.val →
            change = newest) →
          s.account.employee = start.account.employee.settled newest := by
  intro h
  have hinit : statusRaces.init sampleRace := by
    show ∀ t ∈ sampleRace.transactions, t.phase = .begun
    decide
  have hsome : (statusRaces.execute sampleRace overtaken).isSome = true := by decide +kernel
  obtain ⟨s, hs⟩ := Option.isSome_iff_exists.mp hsome
  have hend : ∀ r ∈ statusRaces.execute sampleRace overtaken,
      (∀ t ∈ r.transactions, t.phase = .committed) ∧
        r.account.employee ≠ sampleRace.account.employee.settled reactivatedSample.change := by
    decide +kernel
  obtain ⟨hcommitted, hne⟩ := hend s hs
  exact hne (h sampleRace s overtaken hinit hs hcommitted reactivatedSample.change (by decide)
    (by decide) (by decide))

end AccessService.Accounts
