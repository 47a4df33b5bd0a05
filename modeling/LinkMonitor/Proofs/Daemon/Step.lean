import LinkMonitor.Daemon.Loop
import LinkMonitor.Proofs.Host.Action

/-!
# Steps of the loop

What the parts of a step do when they are run, the operations that a run is made of, and how what
each operation maintains carries over to a run.
-/

namespace LinkMonitor.ControlLoop
namespace Step

variable {ε α β : Type}

@[simp] theorem run_pure (x : α) (l : ControlLoop) (h : Host) :
    (pure x : Step α).run l h = (.ok x, l, h) := rfl

theorem run_bind (s : Step α) (f : α → Step β) (l : ControlLoop) (h : Host) :
    (s >>= f).run l h = match s.run l h with
      | (.ok x, l, h) => (f x).run l h
      | (.error e, l, h) => (.error e, l, h) := by
  show StateT.run (ExceptT.run s >>= ExceptT.bindCont f) (l, h) = _
  rw [StateT.run_bind]
  show (match StateT.run (ExceptT.run s) (l, h) with
    | (r, c) => StateT.run (ExceptT.bindCont f r) c) =
    (match StateT.run (ExceptT.run s) (l, h) with
    | (.ok x, l, h) => (f x).run l h
    | (.error e, l, h) => (.error e, l, h))
  rcases StateT.run (ExceptT.run s) (l, h) with ⟨r, l, h⟩
  cases r <;> rfl

theorem run_onHost (f : ε → LoopError) (a : Action ε α) (l : ControlLoop) (h : Host) :
    (onHost f a).run l h = match a.run h with
      | (.ok x, h) => (.ok x, l, h)
      | (.error e, h) => (.error (f e), l, h) := rfl

theorem run_ofNumber (x : Except NumberError α) (l : ControlLoop) (h : Host) :
    (ofNumber x).run l h = (x.mapError .number, l, h) := by
  cases x <;> rfl

@[simp] theorem run_attempt (a : Action ε α) (l : ControlLoop) (h : Host) :
    (attempt a).run l h = (.ok (a.run h).1, l, (a.run h).2) := rfl

@[simp] theorem run_loop (l : ControlLoop) (h : Host) : loop.run l h = (.ok l, l, h) := rfl

@[simp] theorem run_change (f : ControlLoop → ControlLoop) (l : ControlLoop) (h : Host) :
    (change f).run l h = (.ok (), f l, h) := rfl

@[simp] theorem run_note (level : NoticeLevel) (text : String) (l : ControlLoop) (h : Host) :
    (note (Action.write level .general text)).run l h =
      (.ok (), l, { h with journal := h.journal ++ [⟨level, .general, text⟩] }) := rfl

@[simp] theorem run_record (e : LoopEvent) (l : ControlLoop) (h : Host) :
    (record e).run l h = (.ok (), { l with events := l.events ++ [e] }, h) := rfl

@[simp] theorem run_enter (state : DaemonState) (l : ControlLoop) (h : Host) :
    (enter state).run l h = (.ok (), { l with state }, h) := rfl

@[simp] theorem run_request (rs : List ControlRequest) (l : ControlLoop) (h : Host) :
    (request rs).run l h = (.ok (), l.receive rs, h) := rfl

@[simp] theorem run_interlude (around : Surroundings) (l : ControlLoop) (h : Host) :
    (interlude around).run l h =
      (.ok (), l.receive (around.between l.events.length h).1,
        (around.between l.events.length h).2) := rfl

@[simp] theorem run_takeReload (l : ControlLoop) (h : Host) :
    takeReload.run l h =
      (.ok l.signals.takeReload.1, { l with signals := l.signals.takeReload.2 }, h) := rfl

@[simp] theorem run_theStore (l : ControlLoop) (h : Host) :
    theStore.run l h = (.ok (l.store.getD {}), l, h) := rfl

/-! ### Maintained properties -/

/-- Where `P` holds before the step it holds afterwards, and where the step fails `E` does. -/
def Maintains (P : ControlLoop → Host → Prop) (E : LoopError → ControlLoop → Host → Prop)
    (s : Step α) : Prop :=
  ∀ l h, P l h → match s.run l h with
    | (.ok _, l, h) => P l h
    | (.error e, l, h) => E e l h

variable {P : ControlLoop → Host → Prop} {E : LoopError → ControlLoop → Host → Prop}

theorem maintains_pure (x : α) : Maintains P E (pure x : Step α) := fun _ _ hp => hp

theorem maintains_loop : Maintains P E loop := fun _ _ hp => hp

theorem maintains_bind {s : Step α} {f : α → Step β} (hs : Maintains P E s)
    (hf : ∀ x, Maintains P E (f x)) : Maintains P E (s >>= f) := by
  intro l h hp
  have first := hs l h hp
  rw [run_bind]
  generalize s.run l h = result at first ⊢
  obtain ⟨r, l, h⟩ := result
  cases r with
  | error e => exact first
  | ok x => exact hf x l h first

theorem maintains_of_discard {s : Step α} (hs : Maintains P E (do let _ ← s)) :
    Maintains P E s := by
  intro l h hp
  have whole := hs l h hp
  rw [run_bind] at whole
  generalize s.run l h = result at whole ⊢
  obtain ⟨r, l, h⟩ := result
  cases r <;> exact whole

theorem maintains_ite {c : Prop} [Decidable c] {s t : Step α} (hs : Maintains P E s)
    (ht : Maintains P E t) : Maintains P E (if c then s else t) := by
  split
  · exact hs
  · exact ht

theorem Maintains.ok {s : Step α} (hs : Maintains P E s) {l l' : ControlLoop} {h h' : Host} {x : α}
    (hp : P l h) (hr : s.run l h = (.ok x, l', h')) : P l' h' := by
  have := hs l h hp
  rwa [hr] at this

theorem Maintains.error {s : Step α} (hs : Maintains P E s) {l l' : ControlLoop} {h h' : Host}
    {e : LoopError} (hp : P l h) (hr : s.run l h = (.error e, l', h')) : E e l' h' := by
  have := hs l h hp
  rwa [hr] at this

/-- What holds afterwards whether the step works or not. -/
theorem maintains_of_result {s : Step α} (hs : ∀ {l h r l' h'}, P l h → s.run l h = (r, l', h') →
    P l' h') : Maintains P (fun _ => P) s := by
  intro l h hp
  rcases ran : s.run l h with ⟨r, l', h'⟩
  have after := hs hp ran
  cases r <;> exact after

theorem Maintains.result {s : Step α} (hs : Maintains P (fun _ => P) s) {l l' : ControlLoop}
    {h h' : Host} {r : Except LoopError α} (hp : P l h) (hr : s.run l h = (r, l', h')) : P l' h' := by
  have := hs l h hp
  rw [hr] at this
  cases r <;> exact this

end Step

open Step

/-! ### Operations -/

/-- The steps that a run is made of. -/
inductive Operation
  | interlude
  | takeReload
  | reload
  | wait
  | produce (timestamp : Int)
  | save (isLast : Bool)
  | enter (state : DaemonState)
  | note (level : NoticeLevel) (text : String)

def Operation.perform (around : Surroundings) : Operation → Step Unit
  | interlude => Step.interlude around
  | takeReload => do let _ ← Step.takeReload
  | reload => ControlLoop.reload
  | wait => do let _ ← waitForBoundary around
  | produce timestamp => ControlLoop.produce around timestamp
  | save isLast => ControlLoop.save isLast
  | enter state => Step.enter state
  | note level text => Step.note (Action.write level .general text)

variable {around : Surroundings} {P : ControlLoop → Host → Prop}
  {E : LoopError → ControlLoop → Host → Prop}

theorem cycle_maintains
    (hop : ∀ o, o ≠ .save true → o ≠ .reload → Maintains P E (Operation.perform around o))
    (timestamp : Int) : Maintains P E (cycle around timestamp) := by
  refine maintains_bind (hop .interlude (by simp) (by simp)) fun _ => ?_
  refine maintains_bind (hop (.produce timestamp) (by simp) (by simp)) fun _ => ?_
  refine maintains_bind (hop .interlude (by simp) (by simp)) fun _ => ?_
  refine maintains_bind maintains_loop fun l => ?_
  exact maintains_ite (hop (.save false) (by simp) (by simp)) (maintains_pure ())

/-- A pass without a reload. -/
def waitAndCycle (around : Surroundings) : Step Unit := do
  match ← waitForBoundary around with
  | none => return ()
  | some timestamp => cycle around timestamp

theorem waitAndCycle_maintains
    (hop : ∀ o, o ≠ .save true → o ≠ .reload → Maintains P E (Operation.perform around o)) :
    Maintains P E (waitAndCycle around) := by
  refine maintains_bind (maintains_of_discard (hop .wait (by simp) (by simp))) fun timestamp? => ?_
  cases timestamp? with
  | none => exact maintains_pure ()
  | some timestamp => exact cycle_maintains hop timestamp

theorem step_maintains_of_parts (taken : Maintains P E takeReload) (reloaded : Maintains P E reload)
    (waited : Maintains P E (waitAndCycle around)) : Maintains P E (step around) :=
  maintains_bind taken fun _ => maintains_ite reloaded waited

theorem step_maintains (hop : ∀ o, o ≠ .save true → Maintains P E (Operation.perform around o)) :
    Maintains P E (step around) := by
  refine step_maintains_of_parts (maintains_of_discard (hop .takeReload (by simp))) ?_ ?_
  · exact hop .reload (by simp)
  · exact waitAndCycle_maintains fun o inner _ => hop o inner

/-- What a pass and the time before it maintain, any number of passes maintains. -/
theorem steps_maintains_of_step (entered : Maintains P E (interlude around))
    (stepped : Maintains P E (step around)) (fuel : Nat) : Maintains P E (steps around fuel) := by
  induction fuel with
  | zero => exact maintains_bind maintains_loop fun l => maintains_pure _
  | succ fuel ih =>
    refine maintains_bind entered fun _ => ?_
    refine maintains_bind maintains_loop fun l => ?_
    exact maintains_ite (maintains_pure true) (maintains_bind stepped fun _ => ih)

/-- What all operations but the last save maintain, any number of passes maintains. -/
theorem steps_maintains (hop : ∀ o, o ≠ .save true → Maintains P E (Operation.perform around o))
    (fuel : Nat) : Maintains P E (steps around fuel) :=
  steps_maintains_of_step (hop .interlude (by simp)) (step_maintains hop) fuel

theorem finish_maintains (entered : ∀ state, Maintains P E (enter state))
    (noted : ∀ level text, Maintains P E (note (Action.write level .general text)))
    (saved : Maintains P E (save true)) : Maintains P E finish := by
  refine maintains_bind (entered .stopRequested) fun _ => ?_
  refine maintains_bind maintains_loop fun l => ?_
  exact maintains_bind (noted _ _) fun _ => saved

/-- What follows the passes. -/
theorem ending_maintains (entered : ∀ state, Maintains P E (enter state))
    (noted : ∀ level text, Maintains P E (note (Action.write level .general text)))
    (saved : Maintains P E (save true)) (stopped : Bool) : Maintains P E (if stopped then do
      finish
      enter .stopped
      let l ← loop
      note (Action.info ("Daemon stopped after " ++ toString l.cycles ++ " cycles"))
      return some 0
    else return none) := by
  refine maintains_ite ?_ (maintains_pure none)
  refine maintains_bind (finish_maintains entered noted saved) fun _ => ?_
  refine maintains_bind (entered .stopped) fun _ => ?_
  refine maintains_bind maintains_loop fun l => ?_
  exact maintains_bind (noted _ _) fun _ => maintains_pure _

theorem work_maintains (hop : ∀ o, Maintains P E (Operation.perform around o)) (fuel : Nat) :
    Maintains P E (work around fuel) :=
  maintains_bind (steps_maintains (fun o _ => hop o) fuel) <|
    ending_maintains (fun state => hop (.enter state)) (fun level text => hop (.note level text))
      (hop (.save true))

end LinkMonitor.ControlLoop
