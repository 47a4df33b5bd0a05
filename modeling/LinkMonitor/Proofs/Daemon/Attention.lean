import LinkMonitor.Daemon.Service
import LinkMonitor.Proofs.Daemon.Outlook
import LinkMonitor.Proofs.Daemon.Pass

/-!
# The loop attends to its signals

Between two steps the signals of a loop say what its events make due, so each event is allowed when it
comes. A stop that is due ends the run with the last save, unless a failure of the store comes before or
the cycle that is still to finish breaks down.
-/

namespace LinkMonitor.ControlLoop

open Step

variable {around : Surroundings} {l l' m start : ControlLoop} {h h' h₀ : Host} {stage : Stage}
  {e : LoopEvent} {α : Type}

/-- What the events so far make due. -/
def outlook (l : ControlLoop) : Outlook := Outlook.after {} l.events

theorem outlook_of_append {es : List LoopEvent} (events : l'.events = l.events ++ es) :
    l'.outlook = l.outlook.after es := by
  rw [outlook, events, Outlook.after_append, outlook]

/-! ### Signals and events -/

/-- The events were allowed, and the signals say what they make due. -/
structure Attentive (stage : Stage) (l : ControlLoop) : Prop where
  obedient : Obedient l.events
  outlook_eq : l.outlook = ⟨l.signals.reloadRequested, l.signals.stopRequested, stage, false⟩

namespace Attentive

theorem of_event {stage' : Stage} (before : Attentive stage l)
    (events : l'.events = l.events ++ [e]) (allowed : e.Allowed l.outlook)
    (next : l.outlook.next e =
      ⟨l'.signals.reloadRequested, l'.signals.stopRequested, stage', false⟩) :
    Attentive stage' l' := by
  refine ⟨?_, (outlook_of_append events).trans next⟩
  rw [events]
  exact before.obedient.snoc allowed

theorem of_fields (before : Attentive stage l) (events : l'.events = l.events)
    (reload : l'.signals.reloadRequested = l.signals.reloadRequested)
    (stop : l'.signals.stopRequested = l.signals.stopRequested) : Attentive stage l' := by
  refine ⟨events ▸ before.obedient, ?_⟩
  rw [outlook, events, reload, stop]
  exact before.outlook_eq

theorem receive (before : Attentive stage l) (rs : List ControlRequest) :
    Attentive stage (l.receive rs) := by
  induction rs generalizing l with
  | nil => exact before.of_fields (List.append_nil _) rfl rfl
  | cons r rs ih =>
    have first : Attentive stage
        { l with signals := l.signals.request r, events := l.events ++ [.requested r] } := by
      refine before.of_event rfl ?_ ?_
      · rw [before.outlook_eq]
        exact ⟨rfl, trivial⟩
      · rw [before.outlook_eq]
        cases r <;> rfl
    refine (ih first).of_fields ?_ rfl rfl
    exact List.append_cons _ _ _

theorem leaveWait (before : Attentive stage l) (late : List ControlRequest) :
    Attentive stage (leaveWait late l) :=
  (before.receive late).of_fields rfl rfl rfl

end Attentive

/-- The last thing that has happened is that a cycle has started. -/
def CutShort (l : ControlLoop) : Prop :=
  ∃ others timestamp view, l.events = others ++ [.cycle timestamp view]

/-- What a failure leaves: no last save, and after a stop nothing fails but the cycle in hand or a
save. -/
structure BrokenOff (e : LoopError) (l : ControlLoop) : Prop where
  obedient : Obedient l.events
  notEnded : l.outlook.ended = false
  place : CutShort l ∨ l.outlook.stage = .idle ∧ (l.outlook.stopDue = true →
    ∃ others x, e = .store x ∧ x.isTransient = false ∧
      l.events = others ++ [.save false (.error x)])

/-- The loop after a step. If the step worked then its result tells the stage. -/
def Heeds (stage : α → Stage) (r : Except LoopError α) (l : ControlLoop) : Prop :=
  match r with
  | .ok x => Attentive (stage x) l
  | .error e => BrokenOff e l

/-- The stage after a wait with this result. -/
def stageOf : Option Int → Stage
  | none => .idle
  | some boundary => .called boundary

theorem Attentive.brokenOff (before : Attentive .idle l)
    (running : l.signals.stopRequested = false) (e : LoopError) : BrokenOff e l := by
  refine ⟨before.obedient, ?_, .inr ⟨?_, fun stopped => ?_⟩⟩
  · rw [before.outlook_eq]
  · rw [before.outlook_eq]
  · rw [before.outlook_eq, running] at stopped
    cases stopped

theorem Attentive.brokenOff_of_cutShort (before : Attentive stage l) (cut : CutShort l)
    (e : LoopError) : BrokenOff e l := by
  refine ⟨before.obedient, ?_, .inl cut⟩
  rw [before.outlook_eq]

/-! ### Steps -/

/-- Any request wakes the loop. -/
theorem requests_eq_nil {s : ControlSignals} {rs : List ControlRequest}
    (asleep : (s.requestAll rs).woken = false) : rs = [] := by
  cases rs with
  | nil => rfl
  | cons r rs =>
    have woken (s : ControlSignals) (r : ControlRequest) : (s.request r).woken = true := by
      cases r <;> rfl
    have awake : ((s.request r).requestAll rs).woken = true :=
      requestAll_keeps (P := fun s => s.woken = true) (fun s r _ => woken s r) (woken s r) rs
    rw [show s.requestAll (r :: rs) = (s.request r).requestAll rs from rfl, awake] at asleep
    cases asleep

theorem save_heeds (around : Surroundings) {r : Except LoopError Unit} (before : Attentive .idle l)
    (ran : (save false).run l h = (r, l', h')) : Heeds (fun _ => .idle) r l' := by
  have allowed (x : Except StoreError (List CheckRecord)) :
      (LoopEvent.save false x).Allowed l.outlook := by
    rw [before.outlook_eq]
    exact ⟨rfl, nofun, rfl⟩
  cases save_effect around ran with
  | quiet idle => cases idle
  | saved saving => exact before.of_event rfl (allowed _) before.outlook_eq
  | @notSaved _ x _ _ _ retrySave saving files outcome =>
    have after : Attentive .idle
        { l with events := l.events ++ [.save false (.error x)], retrySave } :=
      before.of_event rfl (allowed _) before.outlook_eq
    rw [outcome, Bool.false_or]
    cases transient : x.isTransient with
    | true => exact after
    | false =>
      refine ⟨after.obedient, ?_, .inr ⟨?_, fun _ => ⟨l.events, x, rfl, transient, rfl⟩⟩⟩
      · rw [after.outlook_eq]
      · rw [after.outlook_eq]

theorem reload_heeds (around : Surroundings) {r : Except LoopError Unit}
    (before : Attentive .idle l)
    (due : l.signals.reloadRequested = true) (running : l.signals.stopRequested = false)
    (ran : reload.run { l with signals := l.signals.takeReload.2 } h = (r, l', h')) :
    Heeds (fun _ => .idle) r l' := by
  have allowed (x : Except StoreError (List CheckRecord)) :
      (LoopEvent.reload x).Allowed l.outlook := by
    rw [before.outlook_eq, due, running]
    exact ⟨rfl, rfl, rfl, rfl⟩
  have next (x : Except StoreError (List CheckRecord)) :
      l.outlook.next (.reload x) = ⟨false, l.signals.stopRequested, .idle, false⟩ := by
    rw [before.outlook_eq]
    rfl
  cases reload_effect around ran with
  | quiet idle => cases idle
  | reloaded loaded files => exact before.of_event rfl (allowed _) (next _)
  | @notReloaded x _ _ state loaded files outcome =>
    have after : Attentive .idle
        { l with
          signals := l.signals.takeReload.2
          events := l.events ++ [.reload (.error x)]
          state } :=
      before.of_event rfl (allowed _) (next _)
    rw [outcome]
    cases x.isTransient with
    | true => exact after
    | false => exact after.brokenOff running _

/-- Nothing has been requested that is still due. -/
def NothingDue (l : ControlLoop) : Prop :=
  l.signals.reloadRequested = false ∧ l.signals.stopRequested = false

theorem Waited.heeds {r : Except LoopError (Option Int)} (waited : Waited around l h r l' h')
    (before : Attentive .idle l) (idle : NothingDue l) : Heeds stageOf r l' := by
  have waiting (timeout : Number) : Attentive .idle (beginWait timeout l) := by
    refine before.of_event rfl ?_ before.outlook_eq
    rw [before.outlook_eq]
    exact ⟨rfl, idle.1, idle.2, rfl⟩
  cases waited with
  | unplanned e => exact before.brokenOff idle.2 _
  | broken slept => exact (waiting _).brokenOff idle.2 _
  | @interrupted timeout rs _ m slept heard woken =>
    have after := (waiting timeout).receive rs
    rw [heard] at after
    exact after.leaveWait _
  | @elapsed timeout boundary rs k m n found slept heard undisturbed left =>
    subst heard left
    have after := (waiting timeout).receive rs
    -- A request that had come before the end of the wait would have cut it short.
    obtain rfl := requests_eq_nil undisturbed
    have ended : Attentive (.called boundary)
        { (beginWait timeout l).receive [] with
          events := ((beginWait timeout l).receive []).events ++ [.elapsed boundary] } := by
      refine after.of_event rfl ?_ ?_
      · rw [after.outlook_eq]
        exact ⟨rfl, idle.1, idle.2, rfl⟩
      · rw [after.outlook_eq]
        rfl
    exact (ended.leaveWait _).of_fields rfl rfl rfl

theorem Produced.heeds {timestamp : Int} {r : Except LoopError Unit}
    (produced : Produced around l h timestamp r l' h') (before : Attentive (.called timestamp) l) :
    Heeds (fun _ => .idle) r l' := by
  have begun : Attentive (.inCycle timestamp) (beginCycle timestamp l) := by
    refine before.of_event rfl ?_ ?_
    · rw [before.outlook_eq]
      exact ⟨rfl, rfl⟩
    · rw [before.outlook_eq]
      rfl
  have cut : CutShort (beginCycle timestamp l) := ⟨_, _, _, rfl⟩
  cases produced with
  | unchecked checked => exact begun.brokenOff_of_cutShort cut _
  | broken checked heard => exact begun.brokenOff_of_cutShort cut _
  | @appended batch rs _ _ checked heard =>
    have asked := begun.receive rs
    refine asked.of_event rfl ?_ ?_
    · rw [asked.outlook_eq]
      exact ⟨rfl, timestamp, rfl⟩
    · rw [asked.outlook_eq]
      rfl

theorem cycle_heeds {timestamp : Int} {r : Except LoopError Unit}
    (before : Attentive (.called timestamp) l)
    (ran : (cycle around timestamp).run l h = (r, l', h')) : Heeds (fun _ => .idle) r l' := by
  obtain ⟨rs, q, x, m, k, produced, outcome⟩ := cycle_cases ran
  have after := (produce_produced produced).heeds (before.receive rs)
  rcases outcome with ⟨e, rfl, rfl, rfl⟩ | ⟨rs', q', rfl, ended⟩
  · exact after
  · have asked := Attentive.receive after rs'
    rcases saveIfDue_cases ended with ⟨-, saved⟩ | ⟨-, rfl, rfl⟩
    · exact save_heeds around asked saved
    · exact asked

theorem waitAndCycle_heeds {r : Except LoopError Unit} (before : Attentive .idle l)
    (idle : NothingDue l) (ran : (waitAndCycle around).run l h = (r, l', h')) :
    Heeds (fun _ => .idle) r l' := by
  obtain ⟨x, m, k, waited, outcome⟩ := waitAndCycle_waited ran
  have after := (waitForBoundary_waited waited).heeds before idle
  rcases outcome with ⟨e, rfl, rfl, rfl⟩ | ⟨rfl, rfl, rfl⟩ | ⟨timestamp, rfl, cycled⟩
  · exact after
  · exact after
  · exact cycle_heeds after cycled

/-- A pass that is not stopped is attentive. -/
theorem step_heeds {r : Except LoopError Unit} (before : Attentive .idle l)
    (running : l.signals.stopRequested = false) (ran : (step around).run l h = (r, l', h')) :
    Heeds (fun _ => .idle) r l' := by
  rw [step_run] at ran
  cases due : l.signals.reloadRequested with
  | true =>
    rw [due, if_pos rfl] at ran
    exact reload_heeds around before due running ran
  | false =>
    rw [due, if_neg Bool.false_ne_true] at ran
    have same : Attentive .idle { l with signals := l.signals.takeReload.2 } :=
      before.of_fields rfl due.symm rfl
    exact waitAndCycle_heeds same ⟨rfl, running⟩ ran

theorem interlude_heeds (before : Attentive stage l)
    (ran : (interlude around).run l h = (.ok (), l', h')) : Attentive stage l' := by
  cases ran
  exact before.receive _

/-- Any number of passes is attentive, and tells whether a stop has been requested. -/
theorem steps_heeds {fuel : Nat} {r : Except LoopError Bool} (before : Attentive .idle l)
    (ran : (steps around fuel).run l h = (r, l', h')) :
    Heeds (fun _ => .idle) r l' ∧ ∀ stopped, r = .ok stopped → l'.signals.stopRequested = stopped := by
  induction fuel generalizing l h with
  | zero =>
    cases ran
    exact ⟨before, fun _ same => Except.ok.inj same⟩
  | succ fuel ih =>
    obtain ⟨p, q, entered, ⟨stopped, rfl, rfl, rfl⟩ | ⟨running, rest⟩⟩ := steps_succ_cases ran
    · refine ⟨interlude_heeds before entered, fun _ same => ?_⟩
      rw [stopped, Except.ok.inj same]
    · have asked := interlude_heeds before entered
      rcases rest with ⟨e, broken, rfl⟩ | ⟨i, k, worked, later⟩
      · exact ⟨step_heeds asked running broken, by simp⟩
      · exact ih (step_heeds asked running worked) later

/-! ### The end of a run -/

/-- The run has ended in a cycle that has brought no batch. -/
def BrokenInCycle (r : Except LoopError (Option Nat)) (l : ControlLoop) : Prop :=
  CutShort l ∧ ∀ status, r = .ok status → status = some 1

/-- After a stop a run ends with the last save, unless a failure of the store or of the cycle in hand has
ended it before. -/
inductive Ending (r : Except LoopError (Option Nat)) (l : ControlLoop) : Prop
  | saved {status others x} (ended : r = .ok (some status))
      (events : l.events = others ++ [.save true x]) (once : ∀ y, .save true y ∉ others)
  | failed {others e} (last : LoopEvent) (ended : r = .ok (some 1))
      (events : l.events = others ++ [last])
      (fatal : last = .opened (.error e) ∨ last = .save false (.error e) ∧ e.isTransient = false)
      (unsaved : ∀ y, .save true y ∉ l.events)
  | broken (inCycle : BrokenInCycle r l) (unsaved : ∀ y, .save true y ∉ l.events)

/-- A run leaves no cycle without its batch, unless it breaks down there. If it has been stopped then it
has come to its end. -/
structure Concluded (r : Except LoopError (Option Nat)) (l : ControlLoop) : Prop where
  obedient : Obedient l.events
  place : l.outlook.stage = .idle ∨ BrokenInCycle r l
  after_stop : l.outlook.stopDue = true → Ending r l

theorem Attentive.noLastSave (before : Attentive stage l) :
    ∀ x, .save true x ∉ l.events := by
  refine before.obedient.noLastSave ?_
  rw [← outlook, before.outlook_eq]

theorem Attentive.concluded {r : Except LoopError (Option Nat)} (before : Attentive .idle l)
    (running : l.signals.stopRequested = false) : Concluded r l := by
  refine ⟨before.obedient, .inl ?_, fun stopped => ?_⟩
  · rw [before.outlook_eq]
  · rw [before.outlook_eq, running] at stopped
    cases stopped

theorem BrokenOff.concluded {e : LoopError} {r : Except LoopError (Option Nat)}
    (broken : BrokenOff e l) (events : l'.events = l.events)
    (ended : ∀ x, e = .store x → r = .ok (some 1))
    (failed : ∀ status, r = .ok status → status = some 1) : Concluded r l' := by
  have none : ∀ y, .save true y ∉ l'.events := by
    rw [events]
    exact broken.obedient.noLastSave broken.notEnded
  have same : l'.outlook = l.outlook := by rw [outlook, events, outlook]
  refine ⟨events ▸ broken.obedient, ?_, fun stopped => ?_⟩
  · rw [same]
    rcases broken.place with cut | ⟨idle, -⟩
    · exact .inr ⟨by rwa [CutShort, events], failed⟩
    · exact .inl idle
  · rw [same] at stopped
    rcases broken.place with cut | ⟨-, after_stop⟩
    · exact .broken ⟨by rwa [CutShort, events], failed⟩ none
    · obtain ⟨others, x, rfl, fatal, last⟩ := after_stop stopped
      exact .failed _ (ended x rfl) (events.trans last) (.inr ⟨rfl, fatal⟩) none

theorem exists_of_lastSave_error (around : Surroundings) {e : LoopError}
    (ran : (save true).run l h = (.error e, l', h')) : ∃ x, e = .store x := by
  cases save_effect around ran with
  | quiet idle => cases idle
  | notSaved retrySave saving files outcome => exact ⟨_, Except.error.inj outcome⟩

theorem Attentive.concluded_of_lastSave {status : Nat} {r : Except LoopError (Option Nat)}
    {x : Except StoreError (List CheckRecord)} (before : Attentive .idle l)
    (stopped : l.signals.stopRequested = true) (events : l'.events = l.events ++ [.save true x])
    (ended : r = .ok (some status)) : Concluded r l' := by
  have allowed : (LoopEvent.save true x).Allowed l.outlook := by
    rw [before.outlook_eq, stopped]
    exact ⟨rfl, fun _ => rfl, rfl⟩
  refine ⟨events ▸ before.obedient.snoc allowed, .inl ?_, fun _ => .saved ended events before.noLastSave⟩
  rw [outlook_of_append events, before.outlook_eq]
  rfl

theorem passes_concluded {fuel : Nat} {r : Except LoopError (Option Nat)}
    (before : Attentive .idle l) (ran : (passes around fuel).run l h = (r, l', h')) :
    Concluded r l' := by
  rw [passes, onStoreError_run] at ran
  rcases worked : (work around fuel).run l h with ⟨x, m, k⟩
  rw [worked] at ran
  rcases work_cases worked with ⟨e, broken, rfl⟩ | ⟨running, rfl⟩ | ⟨p, q, j, stopped, -, last⟩
  · have off : BrokenOff e m := (steps_heeds before broken).1
    cases e with
    | store x =>
      cases ran
      exact off.concluded rfl (fun _ _ => rfl) (by simp)
    | number _ | cycle _ | file _ | outside _ _ =>
      cases ran
      exact off.concluded rfl (by simp) (by simp)
  · cases ran
    obtain ⟨after, told⟩ := steps_heeds before running
    exact Attentive.concluded after (told false rfl)
  · obtain ⟨after, told⟩ := steps_heeds before stopped
    have asked : Attentive .idle { p with state := .stopRequested } := after.of_fields rfl rfl rfl
    rcases last with ⟨e, failed, rfl⟩ | ⟨n, i, saved, rfl, rfl, -⟩
    · obtain ⟨x, events⟩ := save_events around failed
      obtain ⟨y, rfl⟩ := exists_of_lastSave_error around failed
      cases ran
      exact asked.concluded_of_lastSave (told true rfl) events rfl
    · obtain ⟨x, events⟩ := save_events around saved
      cases ran
      exact asked.concluded_of_lastSave (told true rfl) events rfl

theorem openStore_heeds {r : Except LoopError Bool} (before : Attentive .idle l)
    (ran : openStore.run l h = (r, l', h')) : Attentive .idle l' := by
  have allowed (x : Except StoreError (List CheckRecord)) :
      (LoopEvent.opened x).Allowed l.outlook := by
    rw [before.outlook_eq]
    exact ⟨rfl, rfl⟩
  rcases openStore_cases ran with ⟨e, -, -, rfl⟩ | ⟨s, k, -, -, -, rfl⟩
  · exact before.of_event rfl (allowed _) before.outlook_eq
  · exact before.of_event rfl (allowed _) before.outlook_eq

theorem run_concluded {fuel : Nat} {r : Except LoopError (Option Nat)} {k : Host}
    (before : Attentive .idle start) (started : around.onStart.run h₀ = (.ok (), k))
    (ran : (run around fuel).run start h₀ = (r, l, h)) : Concluded r l := by
  rcases opened : openStore.run start k with ⟨y, m, j⟩
  have after := openStore_heeds before opened
  rcases openStore_cases opened with ⟨e, rfl, -, shape⟩ | ⟨s, i, rfl, -, -, -⟩
  · rw [run, run_bind, run_onHost, started] at ran
    dsimp only at ran
    rw [run_bind, opened] at ran
    cases ran
    refine ⟨after.obedient, .inl ?_, fun _ => ?_⟩
    · rw [after.outlook_eq]
    · exact .failed _ rfl (by rw [shape]) (.inl rfl) after.noLastSave
  · rw [run_of_openStore started opened] at ran
    exact passes_concluded after ran

theorem run_obedient {fuel : Nat} {r : Except LoopError (Option Nat)}
    (before : Attentive .idle start) (ran : (run around fuel).run start h₀ = (r, l, h)) :
    Obedient l.events ∧ (l.outlook.stage = .idle ∨ BrokenInCycle r l) := by
  rcases started : around.onStart.run h₀ with ⟨e | _, k⟩
  · rw [run, run_bind, run_onHost, started] at ran
    cases ran
    refine ⟨before.obedient, .inl ?_⟩
    rw [before.outlook_eq]
  · have concluded := run_concluded before started ran
    exact ⟨concluded.obedient, concluded.place⟩

/-- Where a pass begins nothing is due but the reload that it makes. -/
theorem ComesTo.outlook_eq {n : Nat} {reloads : Bool} (comes : ComesTo around start h₀ n reloads l h)
    (before : Attentive .idle start) :
    Obedient l.events ∧ l.outlook = ⟨reloads, false, .idle, false⟩ := by
  obtain ⟨k, m, j, p, q, -, opened, passed, begun⟩ := comesTo_iff.mp comes
  obtain ⟨i, entered, running, due, rfl⟩ := beginPass_iff.mp begun
  have after : Attentive .idle p := (steps_heeds (openStore_heeds before opened) passed).1
  have asked := interlude_heeds after entered
  have found := asked.outlook_eq
  rw [due, running] at found
  exact ⟨asked.obedient, found⟩

/-- A pass without a reload that works is attentive, too. -/
theorem ComesTo.waitAndCycle_attentive {n : Nat} (comes : ComesTo around start h₀ n false l h)
    (before : Attentive .idle start) (ran : (waitAndCycle around).run l h = (.ok (), l', h')) :
    Attentive .idle l' := by
  obtain ⟨obedient, outlook⟩ := comes.outlook_eq before
  obtain ⟨k, m, j, p, q, -, -, -, begun⟩ := comesTo_iff.mp comes
  obtain ⟨i, -, running, -, rfl⟩ := beginPass_iff.mp begun
  refine waitAndCycle_heeds ⟨obedient, ?_⟩ ⟨rfl, running⟩ ran
  rw [outlook]
  exact congrArg (Outlook.mk false · .idle false) running.symm

theorem attentive_newLoop (config : DaemonConfig) (pid : Int) (requests : List ControlRequest) :
    Attentive .idle ((Service.newLoop config pid).receive requests) := by
  have made : Attentive .idle (Service.newLoop config pid) :=
    ⟨Obedient.nil.snoc ⟨rfl, rfl⟩, rfl⟩
  exact made.receive requests

end LinkMonitor.ControlLoop
