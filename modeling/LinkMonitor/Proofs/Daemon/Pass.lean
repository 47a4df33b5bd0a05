import LinkMonitor.Proofs.Daemon.Effect

/-!
# The passes of a run

A run opens its store and then goes from pass to pass. Every pass begins by looking for requests: a
stop ends the run, a reload takes the place of the wait.
-/

namespace LinkMonitor

/-- The event comes from a pass, and is no request. -/
def LoopEvent.isInner : LoopEvent → Bool
  | wait .. | elapsed _ | cycle .. | batch _ | reload _ | save false _ => true
  | made _ | requested _ | opened _ | save true _ => false

namespace ControlLoop

open Step

variable {around : Surroundings} {l m p start : ControlLoop} {h h₀ j q : Host} {n fuel : Nat}
  {reloads : Bool}

/-! ### Passes one after the other -/

theorem step_run (around : Surroundings) (l : ControlLoop) (h : Host) :
    (step around).run l h =
      (if l.signals.reloadRequested then reload else waitAndCycle around).run
        { l with signals := l.signals.takeReload.2 } h := by
  rw [step, run_bind, run_takeReload]
  rfl

theorem steps_zero_run (around : Surroundings) (l : ControlLoop) (h : Host) :
    (steps around 0).run l h = (.ok l.signals.stopRequested, l, h) := rfl

theorem steps_succ_run (around : Surroundings) (fuel : Nat) (l : ControlLoop) (h : Host) :
    (steps around (fuel + 1)).run l h = match (interlude around).run l h with
      | (_, l, h) =>
        if l.signals.stopRequested then (.ok true, l, h)
        else match (step around).run l h with
          | (.ok (), l, h) => (steps around fuel).run l h
          | (.error e, l, h) => (.error e, l, h) := by
  rw [steps, run_bind, run_interlude]
  dsimp only
  rw [run_bind, run_loop]
  dsimp only
  split
  · rfl
  · rw [run_bind]
    rcases (step around).run _ _ with ⟨r, l, h⟩
    cases r <;> rfl

/-- The passes end with a stop before the next one, or when this one fails, or after it. -/
theorem steps_succ_cases {fuel : Nat} {l l' : ControlLoop} {h h' : Host} {r : Except LoopError Bool}
    (ran : (steps around (fuel + 1)).run l h = (r, l', h')) :
    ∃ p q, (interlude around).run l h = (.ok (), p, q) ∧
      ((p.signals.stopRequested = true ∧ r = .ok true ∧ l' = p ∧ h' = q) ∨
        p.signals.stopRequested = false ∧
          ((∃ e, (step around).run p q = (.error e, l', h') ∧ r = .error e) ∨
            ∃ m k, (step around).run p q = (.ok (), m, k) ∧
              (steps around fuel).run m k = (r, l', h'))) := by
  rw [steps_succ_run] at ran
  refine ⟨_, _, run_interlude around l h, ?_⟩
  rw [run_interlude] at ran
  generalize l.receive (around.between l.events.length h).1 = p at ran ⊢
  dsimp only at ran
  split at ran
  · next stop =>
    cases ran
    exact .inl ⟨stop, rfl, rfl, rfl⟩
  · next running =>
    refine .inr ⟨Bool.eq_false_iff.mpr running, ?_⟩
    rcases stepped : (step around).run p (around.between l.events.length h).2 with ⟨_ | _, m, k⟩
    · rw [stepped] at ran
      cases ran
      exact .inl ⟨_, rfl, rfl⟩
    · rw [stepped] at ran
      exact .inr ⟨m, k, rfl, ran⟩

/-- A pass that works is followed by the next ones. -/
theorem steps_succ_of_step {fuel : Nat} {l p m : ControlLoop} {h q k : Host}
    (entered : (interlude around).run l h = (.ok (), p, q))
    (running : p.signals.stopRequested = false) (worked : (step around).run p q = (.ok (), m, k)) :
    (steps around (fuel + 1)).run l h = (steps around fuel).run m k := by
  rw [steps_succ_run, entered]
  dsimp only
  rw [if_neg (by simp [running]), worked]

/-- Passes that do not stop are followed by the next ones. -/
theorem steps_add {n : Nat} {l m : ControlLoop} {h k : Host}
    (ran : (steps around n).run l h = (.ok false, m, k)) (fuel : Nat) :
    (steps around (n + fuel)).run l h = (steps around fuel).run m k := by
  induction n generalizing l h with
  | zero =>
    rw [steps_zero_run, Prod.mk.injEq, Prod.mk.injEq] at ran
    obtain ⟨-, rfl, rfl⟩ := ran
    rw [Nat.zero_add]
  | succ n ih =>
    obtain ⟨p, q, entered, ⟨-, stopped, -, -⟩ | ⟨running, broken | later⟩⟩ := steps_succ_cases ran
    · cases stopped
    · obtain ⟨e, -, failed⟩ := broken
      cases failed
    · obtain ⟨i, j, worked, rest⟩ := later
      rw [Nat.succ_add, steps_succ_of_step entered running worked, ih rest]

/-- Passes that come to the same end are followed by the same. -/
theorem passes_of_steps {first second : Nat}
    (same : (steps around first).run m j = (steps around second).run l h) :
    (passes around first).run m j = (passes around second).run l h := by
  have whole : (work around first).run m j = (work around second).run l h := by
    rw [work, run_bind, same, ControlLoop.work, run_bind]
  rw [passes, onStoreError_run, whole, passes, onStoreError_run]

/-- A failure of the store in the passes ends the run. -/
theorem passes_of_error {e : StoreError}
    (failed : (steps around fuel).run m j = (.error (.store e), l, h)) :
    ∃ h', h'.files = h.files ∧
      (passes around fuel).run m j = (.ok (some 1), { l with state := .stopped }, h') := by
  rw [passes, onStoreError_run, work, run_bind, failed]
  refine ⟨_, ?_, rfl⟩
  rfl

/-- A stop that has been requested is followed by the last save. -/
theorem passes_of_stop (fuel : Nat) (entered : (interlude around).run l h = (.ok (), p, q))
    (stop : p.signals.stopRequested = true)
    (saves : ∀ journal, ∃ s k, (p.store.getD {}).save.run { q with journal } = (.ok s, k)) :
    ∃ s k l' h' journal, (p.store.getD {}).save.run { q with journal } = (.ok s, k) ∧
      (passes around (fuel + 1)).run l h = (.ok (some 0), l', h') ∧
      l'.events = p.events ++ [.save true (.ok s.records)] ∧ h'.files = k.files := by
  rw [passes, onStoreError_run, work, run_bind, steps_succ_run, entered]
  dsimp only
  rw [if_pos stop]
  simp only [if_true, finish, run_bind, run_enter, run_loop, Action.info, run_note]
  generalize q.journal ++ _ = journal
  obtain ⟨s, k, saved⟩ := saves journal
  simp only [save, run_bind, run_theStore, run_attempt, saved]
  exact ⟨s, k, _, _, journal, saved, rfl, rfl, rfl⟩

/-! ### The beginning of a pass -/

/-- The beginning of a pass: whether it is a reload, and `none` if there is a stop instead. -/
def beginPass (around : Surroundings) : Step (Option Bool) := do
  interlude around
  if (← loop).signals.stopRequested then return none
  return some (← takeReload)

theorem beginPass_iff : (beginPass around).run p q = (.ok (some reloads), l, h) ↔
    ∃ m, (interlude around).run p q = (.ok (), m, h) ∧ m.signals.stopRequested = false ∧
      m.signals.reloadRequested = reloads ∧ l = { m with signals := m.signals.takeReload.2 } := by
  rw [beginPass, run_bind, run_interlude]
  generalize p.receive (around.between p.events.length q).1 = m
  generalize (around.between p.events.length q).2 = k
  dsimp only
  rw [run_bind, run_loop]
  dsimp only
  constructor
  · intro begun
    split at begun
    · cases begun
    · next running =>
      rw [run_bind, run_takeReload] at begun
      cases begun
      exact ⟨m, rfl, Bool.eq_false_iff.mpr running, rfl, rfl⟩
  · rintro ⟨_, same, running, rfl, rfl⟩
    cases same
    rw [if_neg (by simp [running]), run_bind, run_takeReload]
    rfl

theorem steps_of_beginPass (begun : (beginPass around).run p q = (.ok (some reloads), l, h))
    (fuel : Nat) :
    (steps around (fuel + 1)).run p q =
      match (if reloads then reload else waitAndCycle around).run l h with
      | (.ok (), l, h) => (steps around fuel).run l h
      | (.error e, l, h) => (.error e, l, h) := by
  obtain ⟨m, entered, running, rfl, rfl⟩ := beginPass_iff.mp begun
  rw [steps_succ_run, entered]
  dsimp only
  rw [if_neg (by simp [running]), step_run]

/-- What every request keeps, all of them keep. -/
theorem requestAll_keeps {P : ControlSignals → Prop} (kept : ∀ s r, P s → P (s.request r))
    {s : ControlSignals} (before : P s) (rs : List ControlRequest) : P (s.requestAll rs) := by
  induction rs generalizing s with
  | nil => exact before
  | cons r rs ih => exact ih (kept s r before)

theorem requestAll_stopRequested {s : ControlSignals} (stop : s.stopRequested = true)
    (rs : List ControlRequest) : (s.requestAll rs).stopRequested = true := by
  refine requestAll_keeps (P := fun s => s.stopRequested = true) (fun s r before => ?_) stop rs
  cases r
  · rfl
  · exact before

/-- Where a pass begins no stop has been requested before. -/
theorem steps_zero_of_interlude (entered : (interlude around).run l h = (.ok (), p, q))
    (running : p.signals.stopRequested = false) :
    (steps around 0).run l h = (.ok false, l, h) := by
  rw [steps_zero_run]
  cases stop : l.signals.stopRequested with
  | false => rfl
  | true =>
    cases entered
    rw [receive, requestAll_stopRequested stop] at running
    cases running

/-! ### What waits come to -/

/-- The loop when it begins to wait. -/
def beginWait (timeout : Number) (l : ControlLoop) : ControlLoop :=
  { l with events := l.events ++ [.wait timeout l.view?], waits := l.waits + 1 }

/-- The loop when it leaves a wait, and these requests have come in last. -/
def leaveWait (late : List ControlRequest) (l : ControlLoop) : ControlLoop :=
  { l.receive late with signals := (l.receive late).signals.clearWoken }

/-- What a wait comes to. If it is not cut short, it has heard nothing until its boundary. -/
inductive Waited (around : Surroundings) (l : ControlLoop) (h : Host) :
    Except LoopError (Option Int) → ControlLoop → Host → Prop
  | unplanned (e : NumberError) : Waited around l h (.error (.number e)) l h
  | broken {timeout e h'} (slept : (around.duringWait l.waits timeout).run h = (.error e, h')) :
      Waited around l h (.error e) (beginWait timeout l) h'
  | interrupted {timeout rs k} (m : ControlLoop)
      (slept : (around.duringWait l.waits timeout).run h = (.ok rs, k))
      (heard : (beginWait timeout l).receive rs = m) (woken : m.signals.woken = true) :
      Waited around l h (.ok none) (leaveWait (around.atWaitEnd l.waits k).1 m)
        (around.atWaitEnd l.waits k).2
  | elapsed {timeout boundary rs k} (m n : ControlLoop)
      (found : nextBoundary l.config.period l.lastBoundary h.clock = .ok boundary)
      (slept : (around.duringWait l.waits timeout).run h = (.ok rs, k))
      (heard : (beginWait timeout l).receive rs = m) (undisturbed : m.signals.woken = false)
      (left : leaveWait (around.atWaitEnd l.waits k).1
        { m with events := m.events ++ [.elapsed boundary] } = n) :
      Waited around l h (.ok (some boundary)) { n with lastBoundary := some boundary }
        (around.atWaitEnd l.waits k).2

theorem waitForBoundary_waited {r : Except LoopError (Option Int)} {l' : ControlLoop} {h' : Host}
    (ran : (waitForBoundary around).run l h = (r, l', h')) : Waited around l h r l' h' := by
  rw [waitForBoundary, run_bind, run_loop] at ran
  dsimp only at ran
  rw [run_bind, run_onHost, show Action.clock.run h = (.ok h.clock, h) from rfl] at ran
  dsimp only at ran
  rw [run_bind, run_ofNumber] at ran
  rcases found : nextBoundary l.config.period l.lastBoundary h.clock with e | boundary
  · rw [found] at ran
    cases ran
    exact .unplanned e
  rw [found] at ran
  dsimp only [Except.mapError] at ran
  rw [run_bind, run_ofNumber] at ran
  rcases left : timeUntil boundary h.clock with e | timeout
  · rw [left] at ran
    cases ran
    exact .unplanned e
  rw [left] at ran
  dsimp only [Except.mapError] at ran
  simp only [run_bind, run_record, run_change, run_onHost] at ran
  rcases slept : (around.duringWait l.waits timeout).run h with ⟨e | rs, k⟩
  · rw [slept] at ran
    cases ran
    exact .broken slept
  rw [slept] at ran
  dsimp only at ran
  simp only [run_request, run_loop] at ran
  rw [show { l with events := _, waits := _ : ControlLoop } = beginWait timeout l from rfl] at ran
  generalize heard : (beginWait timeout l).receive rs = m at ran
  split at ran
  · next woken =>
    cases ran
    exact .interrupted m slept heard woken
  · next asleep =>
    cases ran
    exact .elapsed m _ found slept heard (Bool.eq_false_iff.mpr asleep) rfl

/-! ### What cycles come to -/

/-- Requests come in, then the cycle fails, or more requests come in and it ends with a save if one is
due. -/
theorem cycle_cases {timestamp : Int} {r : Except LoopError Unit} {l' : ControlLoop} {h' : Host}
    (ran : (cycle around timestamp).run l h = (r, l', h')) :
    ∃ rs q x m k, (produce around timestamp).run (l.receive rs) q = (x, m, k) ∧
      ((∃ e, x = .error e ∧ r = .error e ∧ l' = m) ∨
        ∃ rs' q', x = .ok () ∧ saveIfDue.run (m.receive rs') q' = (r, l', h')) := by
  rw [cycle, run_bind, run_interlude] at ran
  dsimp only at ran
  rw [run_bind] at ran
  rcases produced : (produce around timestamp).run (l.receive (around.between l.events.length h).1)
    (around.between l.events.length h).2 with ⟨x, m, k⟩
  rw [produced] at ran
  refine ⟨_, _, x, m, k, produced, ?_⟩
  cases x with
  | error e =>
    cases ran
    exact .inl ⟨e, rfl, rfl, rfl⟩
  | ok _ =>
    dsimp only at ran
    rw [run_bind, run_interlude] at ran
    exact .inr ⟨_, _, rfl, ran⟩

theorem saveIfDue_cases {r : Except LoopError Unit} {l' : ControlLoop} {h' : Host}
    (ran : saveIfDue.run l h = (r, l', h')) :
    (l.isSaveDue = true ∧ (save false).run l h = (r, l', h')) ∨
      (l.isSaveDue = false ∧ r = .ok () ∧ l' = l) := by
  rw [saveIfDue, run_bind, run_loop] at ran
  dsimp only at ran
  split at ran
  · next due => exact .inl ⟨due, ran⟩
  · next early =>
    cases ran
    exact .inr ⟨Bool.eq_false_iff.mpr early, rfl, rfl⟩

/-- The wait of a pass fails, or it is cut short, or its cycle follows. -/
theorem waitAndCycle_waited {r : Except LoopError Unit} {l' : ControlLoop} {h' : Host}
    (ran : (waitAndCycle around).run l h = (r, l', h')) :
    ∃ x m k, (waitForBoundary around).run l h = (x, m, k) ∧
      ((∃ e, x = .error e ∧ r = .error e ∧ l' = m) ∨ (x = .ok none ∧ r = .ok () ∧ l' = m) ∨
        ∃ timestamp, x = .ok (some timestamp) ∧ (cycle around timestamp).run m k = (r, l', h')) := by
  rw [waitAndCycle, run_bind] at ran
  rcases waited : (waitForBoundary around).run l h with ⟨x, m, k⟩
  rw [waited] at ran
  refine ⟨x, m, k, rfl, ?_⟩
  rcases x with e | _ | timestamp
  · cases ran
    exact .inl ⟨e, rfl, rfl, rfl⟩
  · cases ran
    exact .inr (.inl ⟨rfl, rfl, rfl⟩)
  · exact .inr (.inr ⟨timestamp, rfl, ran⟩)

/-! ### What is noted -/

/-- What a reload of the loop on the host tells. -/
def reloadOutcome (l : ControlLoop) (h : Host) : Except StoreError (List CheckRecord) :=
  ((Store.load l.config.storePath).run h).1.map Store.records

theorem reload_events (around : Surroundings) {r : Except LoopError Unit} {l' : ControlLoop}
    {h' : Host} (ran : reload.run l h = (r, l', h')) :
    l'.events = l.events ++ [.reload (reloadOutcome l h)] := by
  cases reload_effect around ran with
  | quiet idle => cases idle
  | reloaded loaded files =>
    rw [reloadOutcome, loaded]
    rfl
  | notReloaded state loaded files outcome =>
    rw [reloadOutcome, loaded]
    rfl

theorem save_events (around : Surroundings) {isLast : Bool} {r : Except LoopError Unit}
    {l' : ControlLoop} {h' : Host} (ran : (save isLast).run l h = (r, l', h')) :
    ∃ x, l'.events = l.events ++ [.save isLast x] := by
  cases save_effect around ran with
  | quiet idle => cases idle
  | saved => exact ⟨_, rfl⟩
  | notSaved => exact ⟨_, rfl⟩

theorem perform_keepsConfig {config : DaemonConfig} {o : Operation} :
    Maintains (fun l _ => l.config = config) (fun _ l _ => l.config = config) (o.perform around) :=
  maintains_of_result fun same ran => (perform_effect ran).config_eq.trans same

theorem waitAndCycle_config {r : Except LoopError Unit} {l' : ControlLoop} {h' : Host}
    (ran : (waitAndCycle around).run l h = (r, l', h')) : l'.config = l.config :=
  (waitAndCycle_maintains fun _ _ _ => perform_keepsConfig).result rfl ran

/-- A pass without a reload adds none to the events. -/
theorem waitAndCycle_events {r : Except LoopError Unit} {l' : ControlLoop} {h' : Host}
    (ran : (waitAndCycle around).run l h = (r, l', h')) :
    ∃ es, l'.events = l.events ++ es ∧ ∀ e ∈ es, e.isReload = false := by
  have kept : Maintains
      (fun m _ => ∃ es, m.events = l.events ++ es ∧ ∀ e ∈ es, e.isReload = false)
      (fun _ m _ => ∃ es, m.events = l.events ++ es ∧ ∀ e ∈ es, e.isReload = false)
      (waitAndCycle around) := by
    refine waitAndCycle_maintains fun o _ other => maintains_of_result fun before ran => ?_
    obtain ⟨es, events, none⟩ := before
    obtain ⟨fs, more, none'⟩ := (perform_effect ran).exists_events
    refine ⟨es ++ fs, by rw [more, events, List.append_assoc], fun e member => ?_⟩
    rcases List.mem_append.mp member with old | new
    · exact none e old
    · exact none' other e new
  exact kept.result ⟨[], by simp, List.forall_mem_nil _⟩ ran

/-! ### The passes that a run comes to -/

/-- A run up to the beginning of its pass of number `n`, the first one being 0: whether that pass is a
reload, and `none` if the run does not come to it. -/
def untilPass (around : Surroundings) (n : Nat) : Step (Option Bool) := do
  onHost id around.onStart
  if !(← openStore) then return none
  if ← steps around n then return none
  beginPass around

/-- The run comes to its pass of number `n`, with this loop and on this host. -/
def ComesTo (around : Surroundings) (start : ControlLoop) (h₀ : Host) (n : Nat) (reloads : Bool)
    (l : ControlLoop) (h : Host) : Prop :=
  (untilPass around n).run start h₀ = (.ok (some reloads), l, h)

theorem comesTo_iff : ComesTo around start h₀ n reloads l h ↔
    ∃ k m j p q, around.onStart.run h₀ = (.ok (), k) ∧ openStore.run start k = (.ok true, m, j) ∧
      (steps around n).run m j = (.ok false, p, q) ∧
      (beginPass around).run p q = (.ok (some reloads), l, h) := by
  rw [ComesTo, untilPass, run_bind, run_onHost]
  constructor
  · intro comes
    rcases started : around.onStart.run h₀ with ⟨_ | _, k⟩
    · rw [started] at comes
      cases comes
    rw [started] at comes
    dsimp only at comes
    rw [run_bind] at comes
    rcases opened : openStore.run start k with ⟨y, m, j⟩
    rw [opened] at comes
    rcases openStore_cases opened with ⟨e, rfl, -, -⟩ | ⟨s, i, rfl, -, -, -⟩
    · cases comes
    simp only [Bool.not_true, Bool.false_eq_true, if_false] at comes
    rw [run_bind] at comes
    rcases passed : (steps around n).run m j with ⟨z, p, q⟩
    rw [passed] at comes
    rcases z with e | stopped | _
    · cases comes
    · exact ⟨k, m, j, p, q, rfl, opened, passed, comes⟩
    · cases comes
  · rintro ⟨k, m, j, p, q, started, opened, passed, begun⟩
    rw [started]
    dsimp only
    rw [run_bind, opened]
    simp only [Bool.not_true, Bool.false_eq_true, if_false]
    rw [run_bind, passed]
    exact begun

theorem run_of_openStore (started : around.onStart.run h₀ = (.ok (), h))
    (opened : openStore.run start h = (.ok true, m, j)) (fuel : Nat) :
    (run around fuel).run start h₀ = (passes around fuel).run m j := by
  simp only [run, run_bind, run_onHost, started, opened, if_true]

/-- The run makes the pass that it comes to, and goes on from there. -/
theorem ComesTo.steps_run (comes : ComesTo around start h₀ n reloads l h) :
    ∃ m j, (∀ fuel, (run around fuel).run start h₀ = (passes around fuel).run m j) ∧
      ∀ fuel, (steps around (n + 1 + fuel)).run m j =
        match (if reloads then reload else waitAndCycle around).run l h with
        | (.ok (), l, h) => (steps around fuel).run l h
        | (.error e, l, h) => (.error e, l, h) := by
  obtain ⟨k, m, j, p, q, started, opened, passed, begun⟩ := comesTo_iff.mp comes
  refine ⟨m, j, run_of_openStore started opened, fun fuel => ?_⟩
  rw [Nat.add_assoc, steps_add passed, Nat.add_comm 1 fuel]
  exact steps_of_beginPass begun fuel

/-- What holds once the store is open, and is maintained up to a pass, holds when the run comes to it. -/
theorem ComesTo.of_maintains {P : ControlLoop → Host → Prop}
    {E : LoopError → ControlLoop → Host → Prop} (comes : ComesTo around start h₀ n reloads l h)
    (opened : ∀ {k m j}, openStore.run start k = (.ok true, m, j) → P m j)
    (passed : Maintains P E (steps around n)) (entered : Maintains P E (interlude around))
    (taken : Maintains P E takeReload) : P l h := by
  obtain ⟨k, m, j, p, q, -, opening, passing, begun⟩ := comesTo_iff.mp comes
  have before : P p q := passed.ok (opened opening) passing
  have beginning : Maintains P E (beginPass around) := by
    refine maintains_bind entered fun _ => ?_
    refine maintains_bind maintains_loop fun l => ?_
    refine maintains_ite (maintains_pure none) ?_
    exact maintains_bind taken fun reloads => maintains_pure (some reloads)
  exact beginning.ok before begun

theorem ComesTo.config_eq (comes : ComesTo around start h₀ n reloads l h) :
    l.config = start.config := by
  have kept {o : Operation} := @perform_keepsConfig around start.config o
  refine comes.of_maintains (P := fun l _ => l.config = start.config) (fun opened => ?_)
    (steps_maintains (fun o _ => kept) n) (kept (o := .interlude))
    (maintains_of_discard (kept (o := .takeReload)))
  rcases openStore_cases opened with ⟨e, -, -, rfl⟩ | ⟨s, i, -, -, -, rfl⟩ <;> rfl

/-- Between two passes that a run comes to there is the first of them, and what is requested before the
second one. -/
theorem ComesTo.next {reloads' : Bool} {l' : ControlLoop} {h' : Host}
    (comes : ComesTo around start h₀ n reloads l h)
    (later : ComesTo around start h₀ (n + 1) reloads' l' h') :
    ∃ m k, ∃ rs : List ControlRequest,
      (if reloads then reload else waitAndCycle around).run l h = (.ok (), m, k) ∧
        l'.events = m.events ++ rs.map .requested := by
  obtain ⟨k, m, j, p, q, started, opened, passed, begun⟩ := comesTo_iff.mp comes
  obtain ⟨k', m', j', p', q', started', opened', passed', begun'⟩ := comesTo_iff.mp later
  cases started.symm.trans started'
  cases opened.symm.trans opened'
  rw [steps_add passed, steps_of_beginPass begun] at passed'
  rcases worked : (if reloads then reload else waitAndCycle around).run l h with ⟨e | _, i, k⟩
  · rw [worked] at passed'
    cases passed'
  · rw [worked] at passed'
    dsimp only at passed'
    rw [steps_zero_run, Prod.mk.injEq, Prod.mk.injEq] at passed'
    obtain ⟨-, rfl, rfl⟩ := passed'
    obtain ⟨_, entered, -, -, rfl⟩ := beginPass_iff.mp begun'
    cases entered
    exact ⟨i, k, _, rfl, rfl⟩

/-! ### The passes that the events come from -/

section Adds

variable {past es fs : List LoopEvent} {e : LoopEvent} {l' : ControlLoop} {h' : Host}

/-- The step adds the event behind the given ones. -/
def Adds (s : Step Unit) (l : ControlLoop) (h : Host) (past : List LoopEvent) (e : LoopEvent) : Prop :=
  ∃ r l' h', s.run l h = (r, l', h') ∧ l.events <+: past ∧ past ++ [e] <+: l'.events

theorem not_concat_within (past : List LoopEvent) (e : LoopEvent) : ¬past ++ [e] <+: past := by
  intro within
  have := within.length_le
  simp at this

/-- Up to some time the event has not come yet, or it has. -/
theorem within_or_concat_within (part : fs <+: es) (whole : past ++ [e] <+: es) :
    fs <+: past ∨ past ++ [e] <+: fs := by
  rcases List.prefix_or_prefix_of_prefix part whole with short | long
  · rcases List.prefix_concat_iff.mp short with same | done
    · exact .inr (same ▸ List.prefix_refl _)
    · exact .inl done
  · exact .inr long

theorem mem_of_concat_within (before : fs <+: past) (within : past ++ [e] <+: fs ++ es) :
    e ∈ es := by
  obtain ⟨gs, rfl⟩ := before
  rw [List.append_assoc, List.prefix_append_right_inj] at within
  exact within.subset (List.mem_append_right _ (List.mem_singleton_self e))

theorem perform_keepsWithin (es : List LoopEvent) (o : Operation) :
    Maintains (fun m _ => es <+: m.events) (fun _ m _ => es <+: m.events) (o.perform around) :=
  maintains_of_result fun before ran => before.trans (perform_extends ran)

theorem steps_extends {r : Except LoopError Bool}
    (ran : (steps around fuel).run l h = (r, l', h')) : l.events <+: l'.events :=
  (steps_maintains (fun o _ => perform_keepsWithin l.events o) fuel).result (List.prefix_refl _) ran

theorem step_extends {r : Except LoopError Unit}
    (ran : (step around).run l h = (r, l', h')) : l.events <+: l'.events :=
  (step_maintains fun o _ => perform_keepsWithin l.events o).result (List.prefix_refl _) ran

theorem run_extends {r : Except LoopError (Option Nat)}
    (ran : (run around fuel).run l h = (r, l', h')) : l.events <+: l'.events := by
  have opening {r m k j} (opened : openStore.run l k = (r, m, j)) : l.events <+: m.events := by
    rcases openStore_cases opened with ⟨x, -, -, rfl⟩ | ⟨s, i, -, -, -, rfl⟩ <;>
      exact List.prefix_append _ _
  rcases run_cases ran with ⟨x, -, rfl⟩ | ⟨k, -, ⟨closed, -⟩ | ⟨m, j, opened, passed⟩⟩
  · exact List.prefix_refl _
  · exact opening closed
  · exact (opening opened).trans (passes_extends passed)

/-- What comes between two passes is a request. -/
theorem interlude_within (before : m.events <+: past) (inner : e.isInner = true)
    (entered : (interlude around).run m j = (.ok (), p, q)) (within : p.events <+: es)
    (whole : past ++ [e] <+: es) : p.events <+: past := by
  rcases within_or_concat_within within whole with done | known
  · exact done
  · cases entered
    obtain ⟨r, -, rfl⟩ := List.mem_map.mp (mem_of_concat_within before known)
    cases inner

/-- An event that some passes add comes from one of them. -/
theorem steps_adds {r : Except LoopError Bool} (ran : (steps around fuel).run m j = (r, l', h'))
    (before : m.events <+: past) (inner : e.isInner = true) (whole : past ++ [e] <+: l'.events) :
    ∃ n reloads p q l h, n < fuel ∧ (steps around n).run m j = (.ok false, p, q) ∧
      (beginPass around).run p q = (.ok (some reloads), l, h) ∧
      Adds (if reloads then reload else waitAndCycle around) l h past e := by
  have longer := not_concat_within past e
  induction fuel generalizing m j with
  | zero =>
    cases ran
    exact absurd (whole.trans before) longer
  | succ fuel ih =>
    obtain ⟨p, q, entered, ⟨-, -, rfl, -⟩ | ⟨running, passed⟩⟩ := steps_succ_cases ran
    · have old := interlude_within before inner entered (List.prefix_refl _) whole
      exact absurd (whole.trans old) longer
    have begun := beginPass_iff.mpr ⟨p, entered, running, rfl, rfl⟩
    -- If the first pass does not reach the event, then its own events are all before it.
    have pass {x i k} (ran : (step around).run p q = (x, i, k)) (within : i.events <+: l'.events) :
        i.events <+: past ∨ Adds (if p.signals.reloadRequested then reload else waitAndCycle around)
          { p with signals := p.signals.takeReload.2 } q past e := by
      have old := interlude_within before inner entered ((step_extends ran).trans within) whole
      rw [step_run] at ran
      exact (within_or_concat_within within whole).imp_right fun new => ⟨x, i, k, ran, old, new⟩
    have first := steps_zero_of_interlude entered running
    rcases passed with ⟨e', broken, -⟩ | ⟨i, k, worked, later⟩
    · rcases pass broken (List.prefix_refl _) with done | added
      · exact absurd (whole.trans done) longer
      · exact ⟨0, _, m, j, _, q, Nat.succ_pos fuel, first, begun, added⟩
    · rcases pass worked (steps_extends later) with done | added
      · obtain ⟨n, reloads, p', q', l, h, less, passing, found⟩ := ih later done
        refine ⟨n + 1, reloads, p', q', l, h, Nat.succ_lt_succ less, ?_, found⟩
        rw [steps_succ_of_step entered running worked, passing]
      · exact ⟨0, _, m, j, _, q, Nat.succ_pos fuel, first, begun, added⟩

/-- The passes add all such events; the last save is none. -/
theorem work_adds {r : Except LoopError (Option Nat)}
    (ran : (work around fuel).run m j = (r, l', h')) (inner : e.isInner = true)
    (whole : past ++ [e] <+: l'.events) :
    ∃ r l h, (steps around fuel).run m j = (r, l, h) ∧ past ++ [e] <+: l.events := by
  rcases work_cases ran with ⟨x, broken, -⟩ | ⟨running, -⟩ | ⟨i, k, k', stopped, -, last⟩
  · exact ⟨_, _, _, broken, whole⟩
  · exact ⟨_, _, _, running, whole⟩
  · refine ⟨_, _, _, stopped, ?_⟩
    obtain ⟨x, events⟩ : ∃ x, l'.events = i.events ++ [.save true x] := by
      rcases last with ⟨x, failed, -⟩ | ⟨n, k, saved, -, rfl, -⟩
      · obtain ⟨y, events⟩ := save_events around failed
        exact ⟨y, events⟩
      · obtain ⟨y, events⟩ := save_events around saved
        exact ⟨y, events⟩
    rw [events] at whole
    rcases List.prefix_concat_iff.mp whole with same | within
    · rw [List.singleton_inj.mp (List.append_inj' same rfl).2] at inner
      cases inner
    · exact within

/-- An event that a run adds, other than a request or one of its beginning and its end, comes from a pass
that the run comes to. -/
theorem run_adds {r : Except LoopError (Option Nat)}
    (ran : (run around fuel).run start h₀ = (r, l', h')) (before : start.events <+: past)
    (inner : e.isInner = true) (whole : past ++ [e] <+: l'.events) :
    ∃ n reloads l h, n < fuel ∧ ComesTo around start h₀ n reloads l h ∧
      Adds (if reloads then reload else waitAndCycle around) l h past e := by
  have longer := not_concat_within past e
  rcases run_cases ran with ⟨x, -, rfl⟩ | ⟨k, started, ⟨closed, -⟩ | ⟨m, j, opened, passed⟩⟩
  · exact absurd (whole.trans before) longer
  · rcases openStore_cases closed with ⟨x, -, -, rfl⟩ | ⟨s, i, worked, -⟩
    · rw [List.mem_singleton.mp (mem_of_concat_within before whole)] at inner
      cases inner
    · cases worked
  · obtain ⟨r', m', k', worked, events⟩ : ∃ r' m' k', (work around fuel).run m j = (r', m', k') ∧
        l'.events = m'.events := by
      rcases onStoreError_cases passed with whole | ⟨x, m', k', broken, -, rfl, -⟩
      · exact ⟨_, _, _, whole, rfl⟩
      · exact ⟨_, _, _, broken, rfl⟩
    rw [events] at whole
    obtain ⟨r', l, h, passing, whole⟩ := work_adds worked inner whole
    have opening : m.events <+: past := by
      rcases openStore_cases opened with ⟨x, failed, -⟩ | ⟨s, i, -, -, -, rfl⟩
      · cases failed
      · rcases within_or_concat_within (steps_extends passing) whole with done | known
        · exact done
        · rw [List.mem_singleton.mp (mem_of_concat_within before known)] at inner
          cases inner
    obtain ⟨n, reloads, p, q, l, h, less, first, begun, added⟩ :=
      steps_adds passing opening inner whole
    exact ⟨n, reloads, l, h, less,
      comesTo_iff.mpr ⟨k, m, j, p, q, started, opened, first, begun⟩, added⟩

end Adds

end ControlLoop
end LinkMonitor
