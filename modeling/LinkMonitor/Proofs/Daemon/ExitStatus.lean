import LinkMonitor.Proofs.Daemon.Attention
import LinkMonitor.Proofs.Daemon.Ledger

/-!
# What the exit status means

A run that ends with status 0 has written all its records to the file; it ends so exactly if the
store was opened, nothing fatal happened and the last save worked.
-/

namespace LinkMonitor

namespace LoopEvent

/-- A failure of the store that ends the loop. -/
def isFatal : LoopEvent → Bool
  | reload (.error e) => !e.isTransient
  | save isLast (.error e) => isLast || !e.isTransient
  | _ => false

theorem isFatal_of_isQuiet {e : LoopEvent} (h : e.isQuiet = true) : e.isFatal = false := by
  cases e <;> first | rfl | cases h

end LoopEvent

namespace ControlLoop

open CheckRecord

variable {around : Surroundings} {config : DaemonConfig} {o : Operation} {l l' : ControlLoop}
  {h h' : Host} {r : Except LoopError Unit}

/-! ### Before the last save -/

def NoLastSave (l : ControlLoop) : Prop := ∀ records, .save true (.ok records) ∉ l.events

/-- The loop has a store, and nothing fatal has happened to it. -/
structure Alive (l : ControlLoop) : Prop where
  opened : ∃ records, .opened (.ok records) ∈ l.events
  harmless : ∀ e ∈ l.events, e.isFatal = false
  noLastSave : NoLastSave l

theorem NoLastSave.of_quiet (h : NoLastSave l) (calm : Quiet l l') : NoLastSave l' := by
  intro records after
  rcases calm.mem_events.2 after with old | quiet
  · exact h records old
  · cases quiet

theorem Alive.of_quiet (alive : Alive l) (calm : Quiet l l') : Alive l' := by
  obtain ⟨records, opened⟩ := alive.opened
  refine ⟨⟨records, calm.mem_events.1 opened⟩, fun e after => ?_, alive.noLastSave.of_quiet calm⟩
  rcases calm.mem_events.2 after with old | quiet
  · exact alive.harmless e old
  · exact LoopEvent.isFatal_of_isQuiet quiet

theorem NoLastSave.of_append {e : LoopEvent} (h : NoLastSave l)
    (events : l'.events = l.events ++ [e]) (other : ∀ records, e ≠ .save true (.ok records)) :
    NoLastSave l' := by
  intro records after
  rw [events, List.mem_append, List.mem_singleton] at after
  rcases after with old | new
  · exact h records old
  · exact other records new.symm

theorem Alive.of_append {e : LoopEvent} (alive : Alive l) (events : l'.events = l.events ++ [e])
    (other : ∀ records, e ≠ .save true (.ok records)) (harmless : e.isFatal = false) : Alive l' := by
  obtain ⟨records, opened⟩ := alive.opened
  refine ⟨⟨records, ?_⟩, fun f after => ?_, alive.noLastSave.of_append events other⟩
  · rw [events]
    exact List.mem_append_left _ opened
  · rw [events, List.mem_append, List.mem_singleton] at after
    rcases after with old | rfl
    · exact alive.harmless f old
    · exact harmless

/-- Before the last save an operation that works keeps the loop alive; one that fails does not put the
last save behind it. -/
theorem Alive.of_effect (alive : Alive l) (inner : o ≠ .save true)
    (effect : Effect around l h o r l' h') : NoLastSave l' ∧ (r = .ok () → Alive l') := by
  cases effect with
  | quiet idle calm others => exact ⟨alive.noLastSave.of_quiet calm, fun _ => alive.of_quiet calm⟩
  | @appended _ m _ _ _ batch checked begun calm others =>
    have after : Alive (appendBatch batch m) := (alive.of_quiet calm).of_append rfl (by simp) rfl
    exact ⟨after.noLastSave, fun _ => after⟩
  | @saved isLast s _ ran =>
    cases isLast with
    | true => exact absurd rfl inner
    | false =>
      have after (l' : ControlLoop)
          (events : l'.events = l.events ++ [.save false (.ok s.records)]) : Alive l' :=
        alive.of_append events (by simp) rfl
      exact ⟨(after _ rfl).noLastSave, fun _ => after _ rfl⟩
  | @notSaved isLast e _ _ _ retrySave ran files outcome =>
    refine ⟨alive.noLastSave.of_append rfl (by simp), fun worked => ?_⟩
    refine alive.of_append rfl (by simp) ?_
    rw [outcome] at worked
    rw [LoopEvent.isFatal]
    by_contra fatal
    rw [Bool.not_eq_false] at fatal
    rw [if_pos fatal] at worked
    cases worked
  | reloaded loaded files =>
    exact ⟨alive.noLastSave.of_append rfl (by simp), fun _ => alive.of_append rfl (by simp) rfl⟩
  | @notReloaded e _ _ state loaded files outcome =>
    refine ⟨alive.noLastSave.of_append rfl (by simp), fun worked => ?_⟩
    refine alive.of_append rfl (by simp) ?_
    rw [outcome] at worked
    rw [LoopEvent.isFatal]
    by_contra fatal
    rw [if_neg (by simpa using fatal)] at worked
    cases worked

/-! ### What the file holds -/

/-- Nothing but the loop changes the file at the path. -/
structure LeavesFile (around : Surroundings) (path : Path) : Prop where
  wait : ∀ number timeout h, ((around.duringWait number timeout).run h).2.files.contentAt path =
    h.files.contentAt path
  waitEnd : ∀ number h, (around.atWaitEnd number h).2.files.contentAt path = h.files.contentAt path
  checks : ∀ number h, ((around.afterChecks number).run h).2.files.contentAt path =
    h.files.contentAt path
  between : ∀ events h, (around.between events h).2.files.contentAt path = h.files.contentAt path

theorem Disturbed.contentAt {path : Path} (alone : LeavesFile around path)
    (others : Disturbed around h h') : h'.files.contentAt path = h.files.contentAt path := by
  induction others with
  | sameFiles same => rw [same]
  | wait number timeout h => exact alone.wait number timeout h
  | waitEnd number h => exact alone.waitEnd number h
  | checks number h => exact alone.checks number h
  | between events h => exact alone.between events h
  | trans first later ih ih' => exact ih'.trans ih

/-- The file holds what was last read or written. With the unsaved records that is what the first
reading found and all batches. -/
structure Complete (config : DaemonConfig) (l : ControlLoop) (h : Host) : Prop where
  placed : Placed config l
  balanced : Balanced l
  holds : Store.Holds h.files config.storePath l.ledger.base
  whole : ∃ initial, .opened (.ok initial) ∈ l.events ∧
    (l.ledger.base ++ l.unsaved).map canonical = (initial ++ l.batches.flatten).map canonical

theorem Complete.of_effect (alone : LeavesFile around config.storePath)
    (complete : Complete config l h) (effect : Effect around l h o r l' h') :
    Complete config l' h' := by
  have placed := complete.placed.of_effect effect
  have balanced := complete.balanced.of_effect effect
  obtain ⟨⟨rfl, s, store, own⟩, ⟨s₀, store', records, -⟩, holds, initial, opened, whole⟩ := complete
  obtain rfl : s = s₀ := Option.some.inj (store.symm.trans store')
  cases effect with
  | quiet idle calm others =>
    refine ⟨placed, balanced, ?_, initial, calm.mem_events.1 opened, ?_⟩
    · rw [calm.ledger]
      exact holds.of_contentAt fun bytes content => (others.contentAt alone).trans content
    · rw [calm.ledger, calm.unsaved, calm.batches]
      exact whole
  | @appended _ m _ _ _ batch checked begun calm others =>
    have ledger : (appendBatch batch m).ledger = m.ledger.next (.batch batch) :=
      ledger_of_append rfl
    refine ⟨placed, balanced, ?_, initial, List.mem_append_left _ (calm.mem_events.1 opened), ?_⟩
    · rw [ledger, calm.ledger]
      exact holds.of_contentAt fun bytes content => (others.contentAt alone).trans content
    · rw [ledger, batches_appendBatch, calm.ledger, calm.batches, appendBatch, calm.unsaved]
      simp only [Ledger.next, ← List.append_assoc, List.flatten_append, List.flatten_singleton,
        List.map_append] at whole ⊢
      rw [whole]
  | @saved isLast s' _ ran =>
    rw [store, Option.getD_some] at ran
    obtain ⟨-, -, same, written⟩ := Store.save_ok l.config.storePath ran
    refine ⟨placed, balanced, ?_, initial, List.mem_append_left _ opened, ?_⟩
    · rw [ledger_of_append rfl]
      exact same ▸ written own
    · rw [ledger_of_append rfl, batches_of_append rfl]
      simpa [Ledger.next, LoopEvent.batch?, same, records] using whole
  | notSaved retrySave ran files outcome =>
    refine ⟨placed, balanced, ?_, initial, List.mem_append_left _ opened, ?_⟩
    · rw [ledger_of_append rfl, files]
      exact holds.of_extends (Store.save_error ran)
    · rw [ledger_of_append rfl, batches_of_append rfl]
      simpa [Ledger.next, LoopEvent.batch?] using whole
  | @reloaded fresh _ loaded files =>
    have read := holds.load_eq loaded
    -- Nobody else has written the file, so the reload reads the base once more and changes nothing.
    refine ⟨placed, balanced, ?_, initial, List.mem_append_left _ opened, ?_⟩
    · rw [ledger_of_append rfl, files]
      obtain ⟨bytes, s', content, decoded, found⟩ := holds
      refine ⟨bytes, s', content, decoded, ?_⟩
      simp [Ledger.next, read, found]
    · rw [ledger_of_append rfl, batches_of_append rfl]
      simpa [Ledger.next, LoopEvent.batch?, read, Function.comp_def] using whole
  | notReloaded state loaded files outcome =>
    refine ⟨placed, balanced, ?_, initial, List.mem_append_left _ opened, ?_⟩
    · rw [ledger_of_append rfl, files]
      exact holds
    · rw [ledger_of_append rfl, batches_of_append rfl]
      simpa [Ledger.next, LoopEvent.batch?] using whole

/-! ### The end of a run -/

variable {pid : Int} {requests : List ControlRequest}

theorem noLastSave_newLoop (config : DaemonConfig) (pid : Int) (requests : List ControlRequest) :
    NoLastSave ((Service.newLoop config pid).receive requests) := by
  have start : NoLastSave (Service.newLoop config pid) := by
    simp [NoLastSave, Service.newLoop]
  exact start.of_quiet (Quiet.receive requests _)

/-- What has been opened is alive, and holds what the file holds. -/
theorem complete_of_openStore
    (ran : openStore.run ((Service.newLoop config pid).receive requests) h = (.ok true, l, h')) :
    Alive l ∧ Complete config l h' := by
  have balanced := balanced_of_openStore ran
  rcases openStore_cases ran with ⟨e, failed, -, -⟩ | ⟨s, k, -, opened, files, shape⟩
  · cases failed
  · obtain ⟨own, -, holds⟩ := Store.loadOrCreate_ok opened
    have events : l.events = ((Service.newLoop config pid).receive requests).events ++
        [.opened (.ok s.records)] := by rw [shape]
    have member : .opened (.ok s.records) ∈ l.events := by
      rw [events]
      exact List.mem_append_right _ (List.mem_singleton_self _)
    have ledger : l.ledger = ⟨s.records, []⟩ := by
      rw [ledger_of_append events, ledger_newLoop]
      rfl
    have calm := Quiet.receive requests (Service.newLoop config pid)
    have batches : l.batches = [] := by
      rw [batches_of_append events, calm.batches]
      rfl
    have unsaved : l.unsaved = [] := by
      rw [shape]
      rfl
    refine ⟨⟨⟨s.records, member⟩, fun e he => ?_, ?_⟩, ⟨?_, balanced, ?_, s.records, member, ?_⟩⟩
    · rw [events, List.mem_append, List.mem_singleton] at he
      rcases he with old | rfl
      · rcases calm.mem_events.2 old with made | quiet
        · simp only [Service.newLoop, List.mem_singleton] at made
          rw [made]
          rfl
        · exact LoopEvent.isFatal_of_isQuiet quiet
      · rfl
    · exact (noLastSave_newLoop config pid requests).of_append events (by simp)
    · rw [shape]
      exact ⟨rfl, s, rfl, own⟩
    · rw [ledger, files]
      exact holds
    · rw [ledger, unsaved, batches]
      simp

theorem steps_alive (fuel : Nat) :
    Step.Maintains (fun l _ => Alive l ∧ Placed config l) (fun _ l _ => NoLastSave l)
      (steps around fuel) := by
  refine steps_maintains (fun o inner l h ⟨alive, placed⟩ => ?_) fuel
  rcases ran : (o.perform around).run l h with ⟨r, l', h'⟩
  have effect := perform_effect ran
  have after := alive.of_effect inner effect
  cases r with
  | ok _ => exact ⟨after.2 rfl, placed.of_effect effect⟩
  | error e => exact after.1

theorem steps_complete (alone : LeavesFile around config.storePath) (fuel : Nat) :
    Step.Maintains (Complete config) (fun _ => Complete config) (steps around fuel) := by
  refine steps_maintains (fun o _ => ?_) fuel
  apply Step.maintains_of_result
  intro l h r l' h' complete ran
  exact complete.of_effect alone (perform_effect ran)

/-- A last save that works: the store is in the file, and nothing is unsaved. -/
theorem lastSave_ok (around : Surroundings) (ran : (save true).run l h = (.ok (), l', h'))
    (placed : Placed config l) :
    ∃ s, l'.events = l.events ++ [.save true (.ok s.records)] ∧ l'.store = some s ∧
      l'.unsaved = [] ∧ Store.Holds h'.files config.storePath s.records := by
  obtain ⟨-, s₀, store, own⟩ := placed
  cases save_effect around ran with
  | quiet idle => cases idle
  | @saved _ s _ saving =>
    rw [store, Option.getD_some] at saving
    obtain ⟨-, -, same, written⟩ := Store.save_ok config.storePath saving
    exact ⟨s, rfl, rfl, rfl, same ▸ written own⟩
  | notSaved retrySave saving files outcome => cases outcome

/-- A last save that fails is not a save. -/
theorem lastSave_error (around : Surroundings) {e : LoopError}
    (ran : (save true).run l h = (.error e, l', h'))
    (before : NoLastSave l) : NoLastSave l' := by
  cases save_effect around ran with
  | quiet idle => cases idle
  | notSaved retrySave saving files outcome => exact before.of_append rfl (by simp)

/-- The store was opened, nothing fatal happened to it, and the last save worked. -/
def EndedWell (l : ControlLoop) : Prop :=
  (∃ records, .opened (.ok records) ∈ l.events) ∧ (∀ e ∈ l.events, e.isFatal = false) ∧
    ∃ records, .save true (.ok records) ∈ l.events

/-- What the run has written: everything that its store has, and all that its cycles gave. -/
structure AllWritten (around : Surroundings) (config : DaemonConfig) (h₀ : Host) (l : ControlLoop)
    (h : Host) : Prop where
  unsaved : l.unsaved = []
  holds : ∃ s, l.store = some s ∧ Store.Holds h.files config.storePath s.records
  /-- There has been a cycle at every boundary that a wait has reached. -/
  cycles : l.cycleTimes = l.boundaries
  gives : EachGives around config l.cycleTimes l.batches
  /-- If nobody else has written the file then it has what was found when the run started, and all
  batches behind it. -/
  whole : LeavesFile around config.storePath → ∃ s k k', around.onStart.run h₀ = (.ok (), k) ∧
    (Store.loadOrCreate config.storePath).run k = (.ok s, k') ∧
    Store.Holds h.files config.storePath (s.records ++ l.batches.flatten)

/-- Passes that stop end with a last save, which gives status 0 if it works. -/
theorem work_ok {fuel status : Nat} (alive : Alive l) (complete : Complete config l h)
    (ran : (work around fuel).run l h = (.ok (some status), l', h')) :
    status = 0 ∧ l'.state = .stopped ∧ EndedWell l' ∧ l'.unsaved = [] ∧
      (∃ s, l'.store = some s ∧ Store.Holds h'.files config.storePath s.records) ∧
      (LeavesFile around config.storePath → ∃ initial, .opened (.ok initial) ∈ l'.events ∧
        Store.Holds h'.files config.storePath (initial ++ l'.batches.flatten)) := by
  rcases work_cases ran with ⟨e, -, broken⟩ | ⟨-, running⟩ | ⟨m, k, j, stopped, files, last⟩
  · cases broken
  · cases running
  · obtain ⟨⟨⟨first, opened⟩, harmless, -⟩, placed⟩ :=
      (steps_alive fuel).ok ⟨alive, complete.placed⟩ stopped
    rcases last with ⟨e, -, broken⟩ | ⟨n, i, saved, same, rfl, after⟩
    · cases broken
    · cases same
      obtain ⟨s, events, store, unsaved, holds⟩ := lastSave_ok around saved placed
      refine ⟨rfl, rfl, ⟨⟨first, ?_⟩, fun e he => ?_, s.records, ?_⟩, unsaved, ⟨s, store, ?_⟩, ?_⟩
      · rw [events]
        exact List.mem_append_left _ opened
      · rw [events, List.mem_append, List.mem_singleton] at he
        rcases he with old | rfl
        · exact harmless e old
        · rfl
      · rw [events]
        exact List.mem_append_right _ (List.mem_singleton_self _)
      · rw [after]
        exact holds
      · intro alone
        have before := (steps_complete alone fuel).ok complete stopped
        -- The steps end before the stop is noted; that note is one more effect before the last save.
        have asking : Effect around m k (.enter .stopRequested) (.ok ())
            { m with state := .stopRequested } j :=
          .quiet rfl (.of_fields rfl rfl rfl rfl rfl) (.sameFiles files)
        obtain ⟨-, -, written, initial, member, whole⟩ :=
          (before.of_effect alone asking).of_effect alone (save_effect around saved)
        refine ⟨initial, member, ?_⟩
        rw [unsaved, List.append_nil] at whole
        obtain ⟨bytes, t, content, decoded, found⟩ := written
        exact ⟨bytes, t, after ▸ content, decoded, found.trans whole⟩

/-- Passes that break down have not seen the last save. -/
theorem work_error {fuel : Nat} {e : LoopError} (alive : Alive l) (placed : Placed config l)
    (ran : (work around fuel).run l h = (.error e, l', h')) : NoLastSave l' := by
  rcases work_cases ran with ⟨e', broken, -⟩ | ⟨-, running⟩ | ⟨m, k, j, stopped, files, last⟩
  · exact (steps_alive fuel).error ⟨alive, placed⟩ broken
  · cases running
  · have before := ((steps_alive fuel).ok ⟨alive, placed⟩ stopped).1.noLastSave
    rcases last with ⟨e', failed, -⟩ | ⟨n, i, -, same, -⟩
    · exact lastSave_error around failed before
    · cases same

/-- In a run that ends with status 0 there is a cycle at every boundary that is reached, and each cycle has
its batch. -/
theorem run_eachGives {fuel : Nat}
    (ran : (run around fuel).run ((Service.newLoop config pid).receive requests) h =
      (.ok (some 0), l, h')) :
    l.cycleTimes = l.boundaries ∧ EachGives around config l.cycleTimes l.batches := by
  obtain ⟨obedient, idle | ⟨-, one⟩⟩ := run_obedient (attentive_newLoop config pid requests) ran
  · exact (run_accounted (accounted_newLoop around config pid requests) ran).eachGives obedient idle
  · cases one _ rfl

/-- What a run opens is what its file gave when it started. -/
theorem run_loadOrCreate {fuel : Nat} {r : Except LoopError (Option Nat)} {initial : List CheckRecord}
    (ran : (run around fuel).run ((Service.newLoop config pid).receive requests) h = (r, l, h'))
    (opened : .opened (.ok initial) ∈ l.events) :
    ∃ s k k', around.onStart.run h = (.ok (), k) ∧
      (Store.loadOrCreate config.storePath).run k = (.ok s, k') ∧ s.records = initial := by
  have fresh : .opened (.ok initial) ∉ ((Service.newLoop config pid).receive requests).events := by
    simp [receive, Service.newLoop]
  obtain ⟨k, started, found⟩ := run_opened fresh ran opened
  rw [show ((Service.newLoop config pid).receive requests).config = config from rfl] at found
  rcases gave : (Store.loadOrCreate config.storePath).run k with ⟨e | s, k'⟩
  · rw [gave] at found
    cases found
  · rw [gave] at found
    exact ⟨s, k, k', started, gave, (Except.ok.inj found).symm⟩

/-- A run that returns has stopped. Its status is 0 if the store was opened, nothing fatal happened to
it and the last save worked, and 1 otherwise; its events tell what has come of each of these. With status
0 nothing is unsaved, the file holds the records of the store, and there is one batch for each cycle, which
is all that the cycle gave; if nobody else has written the file, it holds the records that it gave in the
beginning, then those of all batches. -/
theorem status_eq_zero_iff_written (around : Surroundings) (config : DaemonConfig) (pid : Int)
    (requests : List ControlRequest) (fuel status : Nat) (h h' : Host) (l : ControlLoop)
    (ran : (run around fuel).run ((Service.newLoop config pid).receive requests) h =
      (.ok (some status), l, h')) :
    l.state = .stopped ∧ (status = 0 ∨ status = 1) ∧ (status = 0 ↔ EndedWell l) ∧
      Truthful config l ∧ (status = 0 → AllWritten around config h l h') := by
  have truthful := run_truthful (truthful_newLoop config pid requests) ran
  have failed (stopped : l.state = .stopped) (one : status = 1) (none : NoLastSave l) :
      l.state = .stopped ∧ (status = 0 ∨ status = 1) ∧ (status = 0 ↔ EndedWell l) ∧
        Truthful config l ∧ (status = 0 → AllWritten around config h l h') := by
    subst one
    refine ⟨stopped, .inr rfl, ⟨fun zero => absurd zero (by decide), ?_⟩, truthful, fun zero => ?_⟩
    · rintro ⟨-, -, records, last⟩
      exact absurd last (none records)
    · exact absurd zero (by decide)
  rcases run_cases ran with ⟨e, broken, -⟩ | ⟨k, -, ⟨closed, same⟩ | ⟨m, j, opened, passed⟩⟩
  · cases broken
  · cases same
    rcases openStore_cases closed with ⟨e, -, -, rfl⟩ | ⟨s, i, worked, -⟩
    · refine failed rfl rfl ?_
      exact (noLastSave_newLoop config pid requests).of_append rfl (by simp)
    · cases worked
  · obtain ⟨alive, complete⟩ := complete_of_openStore opened
    rcases onStoreError_cases passed with whole | ⟨e, n, i, broken, same, rfl, -⟩
    · obtain ⟨rfl, stopped, well, unsaved, holds, written⟩ := work_ok alive complete whole
      obtain ⟨cycles, gives⟩ := run_eachGives ran
      refine ⟨stopped, .inl rfl, ⟨fun _ => well, fun _ => rfl⟩, truthful,
        fun _ => ⟨unsaved, holds, cycles, gives, ?_⟩⟩
      intro alone
      obtain ⟨initial, first, filled⟩ := written alone
      obtain ⟨s, k, k', started, gave, rfl⟩ := run_loadOrCreate ran first
      exact ⟨s, k, k', started, gave, filled⟩
    · cases same
      have noLast := work_error alive complete.placed broken
      exact failed rfl rfl noLast

/-- A stop is requested in the third wait. -/
def twoCycles : Surroundings :=
  { silence with duringWait := fun number _ => pure (if number = 2 then [.stop] else []) }

theorem leavesFile_twoCycles (path : Path) : LeavesFile twoCycles path := by
  refine ⟨fun number timeout h => ?_, fun number h => rfl, fun number h => rfl, fun events h => rfl⟩
  simp [twoCycles]

/-- In both cycles all four checks run out of time. -/
theorem status_eq_zero_iff_written_twoCycles :
    ∃ l h', (run twoCycles 4).run ((Service.newLoop Cycle.everyCheck 1).receive []) {} =
        (.ok (some 0), l, h') ∧ EndedWell l ∧
      Store.Holds h'.files Cycle.everyCheck.storePath
        (Cycle.everyCheck.enabled.map (Cycle.timeoutRecord Cycle.everyCheck 60) ++
          Cycle.everyCheck.enabled.map (Cycle.timeoutRecord Cycle.everyCheck 120)) := by
  have ended : ((run twoCycles 4).run ((Service.newLoop Cycle.everyCheck 1).receive []) {}).1 =
      .ok (some 0) := by decide +kernel
  have batches :
      ((run twoCycles 4).run ((Service.newLoop Cycle.everyCheck 1).receive []) {}).2.1.batches =
        [Cycle.everyCheck.enabled.map (Cycle.timeoutRecord Cycle.everyCheck 60),
          Cycle.everyCheck.enabled.map (Cycle.timeoutRecord Cycle.everyCheck 120)] := by
    decide +kernel
  have empty : ((Store.loadOrCreate Cycle.everyCheck.storePath).run {}).1.map Store.records =
      .ok [] := by decide +kernel
  generalize ran : (run twoCycles 4).run ((Service.newLoop Cycle.everyCheck 1).receive []) {} = result
    at ended batches
  obtain ⟨r, l, h'⟩ := result
  cases ended
  obtain ⟨-, -, well, -, written⟩ :=
    status_eq_zero_iff_written twoCycles Cycle.everyCheck 1 [] 4 0 {} h' l ran
  obtain ⟨s, k, k', started, gave, holds⟩ := (written rfl).whole (leavesFile_twoCycles _)
  cases started
  rw [gave] at empty
  rw [batches, Except.ok.inj empty] at holds
  exact ⟨l, h', rfl, well.mp rfl, by simpa using holds⟩

end ControlLoop
end LinkMonitor
