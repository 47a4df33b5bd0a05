import LinkMonitor.Proofs.Daemon.Step
import LinkMonitor.Proofs.Store.Load

/-!
# What an operation does

Everything that an operation of the loop can do to the store, to the unsaved records and to the
files. Most operations do nothing to the first two, and leave the files to the surroundings.
-/

namespace LinkMonitor

namespace LoopEvent

/-- The event does not concern the store. -/
def isQuiet : LoopEvent → Bool
  | made _ | requested _ | wait .. | elapsed _ | cycle .. => true
  | opened _ | batch _ | reload _ | save .. => false

/-- An attempt to read the file again, whether it works or not. -/
def isReload : LoopEvent → Bool
  | reload _ => true
  | _ => false

theorem isReload_of_isQuiet {e : LoopEvent} (quiet : e.isQuiet = true) : e.isReload = false := by
  cases e <;> first | rfl | cases quiet

end LoopEvent

namespace ControlLoop

/-! ### Quiet changes -/

structure Quiet (l l' : ControlLoop) : Prop where
  config : l'.config = l.config
  store : l'.store = l.store
  unsaved : l'.unsaved = l.unsaved
  cycles : l'.cycles = l.cycles
  events : ∃ es, (∀ e ∈ es, e.isQuiet = true) ∧ l'.events = l.events ++ es

namespace Quiet

variable {l m n : ControlLoop}

theorem of_fields (config : m.config = l.config) (store : m.store = l.store)
    (unsaved : m.unsaved = l.unsaved) (cycles : m.cycles = l.cycles) (events : m.events = l.events) :
    Quiet l m :=
  ⟨config, store, unsaved, cycles, [], by simp, by simp [events]⟩

theorem refl (l : ControlLoop) : Quiet l l := of_fields rfl rfl rfl rfl rfl

theorem trans (first : Quiet l m) (later : Quiet m n) : Quiet l n := by
  obtain ⟨es, quiet, events⟩ := first.events
  obtain ⟨fs, quiet', events'⟩ := later.events
  refine ⟨later.config.trans first.config, later.store.trans first.store,
    later.unsaved.trans first.unsaved, later.cycles.trans first.cycles, es ++ fs, ?_, ?_⟩
  · intro e he
    rcases List.mem_append.mp he with there | here
    · exact quiet e there
    · exact quiet' e here
  · rw [events', events, List.append_assoc]

theorem receive (rs : List ControlRequest) (l : ControlLoop) : Quiet l (l.receive rs) := by
  refine ⟨rfl, rfl, rfl, rfl, rs.map .requested, fun e he => ?_, rfl⟩
  obtain ⟨r, -, rfl⟩ := List.mem_map.mp he
  rfl

theorem of_event {e : LoopEvent} (quiet : e.isQuiet = true) (l : ControlLoop) :
    Quiet l { l with events := l.events ++ [e] } :=
  ⟨rfl, rfl, rfl, rfl, [e], by simpa, rfl⟩

theorem mem_events {e : LoopEvent} (calm : Quiet l m) :
    (e ∈ l.events → e ∈ m.events) ∧ (e ∈ m.events → e ∈ l.events ∨ e.isQuiet = true) := by
  obtain ⟨es, quiet, events⟩ := calm.events
  rw [events]
  refine ⟨fun before => List.mem_append_left _ before, fun after => ?_⟩
  rcases List.mem_append.mp after with old | new
  · exact .inl old
  · exact .inr (quiet e new)

end Quiet

/-- What the surroundings make of a host in the course of a run; the loop changes the rest of it. -/
inductive Disturbed (around : Surroundings) : Host → Host → Prop
  | sameFiles {h h' : Host} (same : h'.files = h.files) : Disturbed around h h'
  | wait (number : Nat) (timeout : Number) (h : Host) :
      Disturbed around h ((around.duringWait number timeout).run h).2
  | waitEnd (number : Nat) (h : Host) : Disturbed around h (around.atWaitEnd number h).2
  | checks (number : Nat) (h : Host) : Disturbed around h ((around.afterChecks number).run h).2
  | between (events : Nat) (h : Host) : Disturbed around h (around.between events h).2
  | trans {h h' h'' : Host} (first : Disturbed around h h') (later : Disturbed around h' h'') :
      Disturbed around h h''

/-! ### What a cycle comes to -/

/-- The loop when a cycle begins. -/
def beginCycle (timestamp : Int) (l : ControlLoop) : ControlLoop :=
  { l with events := l.events ++ [.cycle timestamp l.view?] }

/-- What a cycle comes to: unless it fails, its batch is behind all that it has heard. -/
inductive Produced (around : Surroundings) (l : ControlLoop) (h : Host) (timestamp : Int) :
    Except LoopError Unit → ControlLoop → Host → Prop
  | unchecked {e h'}
      (checked : (Cycle.run l.config (around.transport (l.cycles + 1)) timestamp).run h =
        (.error e, h')) :
      Produced around l h timestamp (.error (.cycle e)) (beginCycle timestamp l) h'
  | broken {batch e k h'}
      (checked : (Cycle.run l.config (around.transport (l.cycles + 1)) timestamp).run h =
        (.ok batch, k))
      (heard : (around.afterChecks (l.cycles + 1)).run k = (.error e, h')) :
      Produced around l h timestamp (.error e) (beginCycle timestamp l) h'
  | appended {batch rs k h'}
      (checked : (Cycle.run l.config (around.transport (l.cycles + 1)) timestamp).run h =
        (.ok batch, k))
      (heard : (around.afterChecks (l.cycles + 1)).run k = (.ok rs, h')) :
      Produced around l h timestamp (.ok ())
        (appendBatch batch ((beginCycle timestamp l).receive rs)) h'

section Produced

open Step

variable {around : Surroundings} {l l' : ControlLoop} {h h' : Host} {timestamp : Int}

theorem produce_produced {r : Except LoopError Unit}
    (ran : (produce around timestamp).run l h = (r, l', h')) :
    Produced around l h timestamp r l' h' := by
  rw [produce, run_bind, run_loop] at ran
  dsimp only at ran
  simp only [run_bind, run_record, run_onHost] at ran
  rcases checked : (Cycle.run l.config (around.transport (l.cycles + 1)) timestamp).run h with
    ⟨e | batch, k⟩
  · rw [checked] at ran
    cases ran
    exact .unchecked checked
  rw [checked] at ran
  dsimp only at ran
  rcases heard : (around.afterChecks (l.cycles + 1)).run k with ⟨e | rs, j⟩
  · rw [heard] at ran
    cases ran
    exact .broken checked heard
  rw [heard] at ran
  dsimp only at ran
  simp only [run_request, run_change] at ran
  cases ran
  exact .appended checked heard

theorem Quiet.beginCycle (timestamp : Int) (l : ControlLoop) :
    Quiet l (l.beginCycle timestamp) :=
  .of_event rfl l

end Produced

/-! ### Effects -/

/-- Only these operations deal with the file of the store. -/
def Operation.isFiling : Operation → Bool
  | save _ | reload => true
  | interlude | takeReload | wait | produce _ | enter _ | note .. => false

/-- An operation on a loop and a host, its result, and the loop and the host afterwards. -/
inductive Effect (around : Surroundings) (l : ControlLoop) (h : Host) :
    Operation → Except LoopError Unit → ControlLoop → Host → Prop
  | quiet {o r l' h'} (idle : o.isFiling = false) (calm : Quiet l l')
      (others : Disturbed around h h') : Effect around l h o r l' h'
  | appended {timestamp m k h'} {rs : List ControlRequest} (batch : List CheckRecord)
      (checked : (Cycle.run l.config (around.transport (l.cycles + 1)) timestamp).run h =
        (.ok batch, k))
      (begun : m = (beginCycle timestamp l).receive rs) (calm : Quiet l m)
      (others : Disturbed around h h') :
      Effect around l h (.produce timestamp) (.ok ()) (appendBatch batch m) h'
  | saved {isLast s h'} (ran : (l.store.getD {}).save.run h = (.ok s, h')) :
      Effect around l h (.save isLast) (.ok ())
        { l with
          events := l.events ++ [.save isLast (.ok s.records)]
          store := some s
          retrySave := false
          unsaved := [] } h'
  | notSaved {isLast e k r h'} (retrySave : Bool)
      (ran : (l.store.getD {}).save.run h = (.error e, k)) (files : h'.files = k.files)
      (outcome : r = if isLast || !e.isTransient then .error (.store e) else .ok ()) :
      Effect around l h (.save isLast) r
        { l with events := l.events ++ [.save isLast (.error e)], retrySave } h'
  | reloaded {fresh h'} (loaded : ((Store.load l.config.storePath).run h).1 = .ok fresh)
      (files : h'.files = h.files) :
      Effect around l h .reload (.ok ())
        { l with
          events := l.events ++ [.reload (.ok fresh.records)]
          store := some (fresh.append l.unsaved)
          state := .running } h'
  | notReloaded {e r h'} (state : DaemonState)
      (loaded : ((Store.load l.config.storePath).run h).1 = .error e)
      (files : h'.files = h.files)
      (outcome : r = if e.isTransient then .ok () else .error (.store e)) :
      Effect around l h .reload r
        { l with events := l.events ++ [.reload (.error e)], state } h'

variable {around : Surroundings}

/-- The loop and the host have come from those given without any effect on the store. -/
def Calm (around : Surroundings) (l : ControlLoop) (h : Host) (l' : ControlLoop) (h' : Host) :
    Prop :=
  Quiet l l' ∧ Disturbed around h h'

namespace Calm

open Step

variable {l₀ : ControlLoop} {h₀ : Host} {α ε : Type}

theorem refl (l : ControlLoop) (h : Host) : Calm around l h l h := ⟨.refl l, .sameFiles rfl⟩

/-- A step that is calm from anywhere, also if it fails. -/
abbrev Keeps (around : Surroundings) (l₀ : ControlLoop) (h₀ : Host) (s : Step α) : Prop :=
  Maintains (Calm around l₀ h₀) (fun _ => Calm around l₀ h₀) s

theorem keeps_change {f : ControlLoop → ControlLoop} (hf : ∀ l, Quiet l (f l)) :
    Keeps around l₀ h₀ (change f) := fun l _ ⟨calm, others⟩ => ⟨calm.trans (hf l), others⟩

theorem keeps_record {e : LoopEvent} (quiet : e.isQuiet = true) : Keeps around l₀ h₀ (record e) :=
  keeps_change (Quiet.of_event quiet)

theorem keeps_request (rs : List ControlRequest) : Keeps around l₀ h₀ (request rs) :=
  keeps_change (Quiet.receive rs)

theorem keeps_onHost {f : ε → LoopError} {a : Action ε α}
    (ha : ∀ h, Disturbed around h (a.run h).2) : Keeps around l₀ h₀ (onHost f a) := by
  intro l h ⟨calm, others⟩
  have after := others.trans (ha h)
  rw [run_onHost]
  generalize a.run h = result at after ⊢
  obtain ⟨r, k⟩ := result
  cases r <;> exact ⟨calm, after⟩

theorem keeps_ofNumber (x : Except NumberError α) : Keeps around l₀ h₀ (ofNumber x) := by
  intro l h calm
  cases x <;> exact calm

theorem keeps_hear {f : Host → List ControlRequest × Host}
    (hf : ∀ h, Disturbed around h (f h).2) : Keeps around l₀ h₀ (hear f) :=
  fun l h ⟨calm, others⟩ => ⟨calm.trans (.receive _ l), others.trans (hf h)⟩

theorem keeps_endWait (number : Nat) : Keeps around l₀ h₀ (endWait around number) := by
  refine maintains_bind (keeps_hear fun h => .waitEnd number h) fun _ => ?_
  exact keeps_change fun l => .of_fields rfl rfl rfl rfl rfl

theorem keeps_waitForBoundary : Keeps around l₀ h₀ (waitForBoundary around) := by
  refine maintains_bind maintains_loop fun l => ?_
  refine maintains_bind (keeps_onHost fun h => .sameFiles rfl) fun now => ?_
  refine maintains_bind (keeps_ofNumber _) fun boundary => ?_
  refine maintains_bind (keeps_ofNumber _) fun timeout => ?_
  refine maintains_bind (keeps_record rfl) fun _ => ?_
  refine maintains_bind (keeps_change fun l => .of_fields rfl rfl rfl rfl rfl) fun _ => ?_
  refine maintains_bind (keeps_onHost fun h => .wait _ _ h) fun rs => ?_
  refine maintains_bind (keeps_request rs) fun _ => ?_
  refine maintains_bind maintains_loop fun l => ?_
  refine maintains_ite (maintains_bind (keeps_endWait _) fun _ => maintains_pure none) ?_
  refine maintains_bind (keeps_record rfl) fun _ => ?_
  refine maintains_bind (keeps_endWait _) fun _ => ?_
  refine maintains_bind (keeps_change fun l => .of_fields rfl rfl rfl rfl rfl) fun _ => ?_
  exact maintains_pure _

end Calm

open Step

/-- A cycle appends all that its checks gave, or nothing. -/
theorem produce_effect {l l' : ControlLoop} {h h' : Host} {r : Except LoopError Unit}
    {timestamp : Int} (ran : (produce around timestamp).run l h = (r, l', h')) :
    Effect around l h (.produce timestamp) r l' h' := by
  have begun := Quiet.beginCycle timestamp l
  have kept := Cycle.run_keepsFiles l.config (around.transport (l.cycles + 1)) timestamp h
  have heard (k : Host) : Disturbed around k ((around.afterChecks (l.cycles + 1)).run k).2 :=
    .checks (l.cycles + 1) k
  cases produce_produced ran with
  | unchecked checked =>
    rw [checked] at kept
    exact .quiet rfl begun (.sameFiles kept)
  | @broken batch e k _ checked asked =>
    rw [checked] at kept
    have later := heard k
    rw [asked] at later
    exact .quiet rfl begun (.trans (.sameFiles kept) later)
  | @appended batch rs k _ checked asked =>
    rw [checked] at kept
    have later := heard k
    rw [asked] at later
    exact .appended batch checked rfl (begun.trans (.receive rs _)) (.trans (.sameFiles kept) later)

theorem save_effect (around : Surroundings) {l l' : ControlLoop} {h h' : Host}
    {r : Except LoopError Unit} {isLast : Bool}
    (ran : (save isLast).run l h = (r, l', h')) : Effect around l h (.save isLast) r l' h' := by
  simp only [save, run_bind, run_theStore, run_attempt] at ran
  generalize result : (l.store.getD {}).save.run h = outcome at ran
  obtain ⟨x, k⟩ := outcome
  cases x with
  | ok s =>
    cases ran
    exact .saved result
  | error e =>
    dsimp only at ran
    rw [run_bind, run_record] at ran
    dsimp only at ran
    by_cases fatal : (isLast || !e.isTransient) = true
    · rw [if_pos fatal] at ran
      cases ran
      exact .notSaved l.retrySave result rfl (if_pos fatal).symm
    · rw [if_neg fatal] at ran
      cases ran
      exact .notSaved true result rfl (if_neg fatal).symm

/-- A reload that cannot load keeps the store, the records and the files. It ends the loop unless the
failure may pass. -/
theorem reload_of_error {l : ControlLoop} {h : Host} {e : StoreError}
    (loaded : ((Store.load l.config.storePath).run h).1 = .error e) :
    ∃ h', h'.files = h.files ∧ reload.run l h =
      if e.isTransient then
        (.ok (), { l with events := l.events ++ [.reload (.error e)], state := .running }, h')
      else (.error (.store e),
        { l with events := l.events ++ [.reload (.error e)], state := .reloadPending }, h') := by
  simp only [reload, run_bind, run_loop, run_enter, Action.info, run_note, run_attempt]
  generalize h.journal ++ _ = journal
  have same := Store.load_result_journal l.config.storePath h journal
  have files := @Store.load_keepsFiles l.config.storePath false { h with journal }
  generalize (Store.load l.config.storePath).run { h with journal } = outcome at same files ⊢
  obtain ⟨x, k⟩ := outcome
  obtain rfl : x = .error e := same.trans loaded
  dsimp only
  rw [run_bind, run_record]
  dsimp only
  cases e.isTransient with
  | true =>
    refine ⟨_, ?_, rfl⟩
    exact files
  | false => exact ⟨k, files, rfl⟩

theorem reload_effect (around : Surroundings) {l l' : ControlLoop} {h h' : Host}
    {r : Except LoopError Unit} (ran : reload.run l h = (r, l', h')) :
    Effect around l h .reload r l' h' := by
  cases loaded : ((Store.load l.config.storePath).run h).1 with
  | error e =>
    obtain ⟨k, files, failed⟩ := reload_of_error loaded
    rw [failed] at ran
    by_cases passing : e.isTransient = true
    · rw [if_pos passing] at ran
      cases ran
      exact .notReloaded .running loaded files (if_pos passing).symm
    · rw [if_neg passing] at ran
      cases ran
      exact .notReloaded .reloadPending loaded files (if_neg passing).symm
  | ok fresh =>
    simp only [reload, run_bind, run_loop, run_enter, Action.info, run_note, run_attempt] at ran
    generalize started : h.journal ++ _ = journal at ran
    have same := Store.load_result_journal l.config.storePath h journal
    have files := @Store.load_keepsFiles l.config.storePath false { h with journal }
    generalize (Store.load l.config.storePath).run { h with journal } = outcome at ran same files
    obtain ⟨x, k⟩ := outcome
    obtain rfl : x = .ok fresh := same.trans loaded
    cases ran
    exact .reloaded loaded files

/-- Every operation has one of the effects. -/
theorem perform_effect {o : Operation} {l l' : ControlLoop} {h h' : Host}
    {r : Except LoopError Unit} (ran : (o.perform around).run l h = (r, l', h')) :
    Effect around l h o r l' h' := by
  cases o with
  | interlude =>
    cases ran
    exact .quiet rfl (Quiet.receive _ l) (.between _ h)
  | takeReload =>
    cases ran
    exact .quiet rfl (.of_fields rfl rfl rfl rfl rfl) (.sameFiles rfl)
  | reload => exact reload_effect around ran
  | wait =>
    have calm : Calm.Keeps around l h (do let _ ← waitForBoundary around) :=
      maintains_bind Calm.keeps_waitForBoundary fun _ => maintains_pure ()
    have after := calm l h (Calm.refl l h)
    rw [show (do let _ ← waitForBoundary around : Step Unit).run l h = _ from ran] at after
    cases r <;> exact .quiet rfl after.1 after.2
  | produce timestamp => exact produce_effect ran
  | save isLast => exact save_effect around ran
  | enter state =>
    cases ran
    exact .quiet rfl (.of_fields rfl rfl rfl rfl rfl) (.sameFiles rfl)
  | note level text =>
    cases ran
    exact .quiet rfl (Quiet.refl l) (.sameFiles rfl)

theorem Effect.config_eq {o : Operation} {l l' : ControlLoop} {h h' : Host}
    {r : Except LoopError Unit} (effect : Effect around l h o r l' h') : l'.config = l.config := by
  cases effect with
  | quiet idle calm others => exact calm.config
  | appended batch checked begun calm others => exact calm.config
  | saved ran => rfl
  | notSaved retrySave ran files outcome => rfl
  | reloaded loaded files => rfl
  | notReloaded state loaded files outcome => rfl

/-- Events are only added, and an operation that is no reload adds none. -/
theorem Effect.exists_events {o : Operation} {l l' : ControlLoop} {h h' : Host}
    {r : Except LoopError Unit} (effect : Effect around l h o r l' h') :
    ∃ es, l'.events = l.events ++ es ∧ (o ≠ .reload → ∀ e ∈ es, e.isReload = false) := by
  cases effect with
  | quiet idle calm others =>
    obtain ⟨es, quiet, events⟩ := calm.events
    exact ⟨es, events, fun _ e member => LoopEvent.isReload_of_isQuiet (quiet e member)⟩
  | @appended _ m _ _ _ batch checked begun calm others =>
    obtain ⟨es, quiet, events⟩ := calm.events
    refine ⟨es ++ [.batch batch], ?_, fun _ e member => ?_⟩
    · rw [appendBatch, events, List.append_assoc]
    · rcases List.mem_append.mp member with old | new
      · exact LoopEvent.isReload_of_isQuiet (quiet e old)
      · rw [List.mem_singleton.mp new]
        rfl
  | saved ran => exact ⟨_, rfl, fun _ => by simp [LoopEvent.isReload]⟩
  | notSaved retrySave ran files outcome => exact ⟨_, rfl, fun _ => by simp [LoopEvent.isReload]⟩
  | reloaded loaded files => exact ⟨_, rfl, fun other => absurd rfl other⟩
  | notReloaded state loaded files outcome => exact ⟨_, rfl, fun other => absurd rfl other⟩

/-! ### A whole run -/

/-- A loop whose store cannot be opened is stopped. -/
theorem openStore_of_error {l : ControlLoop} {h k : Host} {e : StoreError}
    (failed : (Store.loadOrCreate l.config.storePath).run h = (.error e, k)) :
    ∃ h', h'.files = k.files ∧ openStore.run l h = (.ok false,
      { l with events := l.events ++ [.opened (.error e)], state := .stopped }, h') := by
  simp only [openStore, run_bind, run_loop, run_attempt, failed]
  refine ⟨_, ?_, rfl⟩
  rfl

/-- The store is opened, or the loop is stopped without one. -/
theorem openStore_cases {l l' : ControlLoop} {h h' : Host} {r : Except LoopError Bool}
    (ran : openStore.run l h = (r, l', h')) :
    (∃ e, r = .ok false ∧ ((Store.loadOrCreate l.config.storePath).run h).1 = .error e ∧
      l' = { l with events := l.events ++ [.opened (.error e)], state := .stopped }) ∨
    ∃ s k, r = .ok true ∧ (Store.loadOrCreate l.config.storePath).run h = (.ok s, k) ∧
      h'.files = k.files ∧
      l' = { l with
        events := l.events ++ [.opened (.ok s.records)], store := some s, state := .running } := by
  simp only [openStore, run_bind, run_loop, run_attempt] at ran
  generalize (Store.loadOrCreate l.config.storePath).run h = outcome at ran ⊢
  obtain ⟨x, k⟩ := outcome
  cases x with
  | error e =>
    cases ran
    exact .inl ⟨e, rfl, rfl, rfl⟩
  | ok s =>
    dsimp only at ran
    simp only [run_bind, run_record, run_change] at ran
    split at ran
    · cases ran
      exact .inr ⟨s, k, rfl, rfl, rfl, rfl⟩
    · cases ran
      exact .inr ⟨s, k, rfl, rfl, rfl, rfl⟩

/-- A run ends before the store is opened, or when that fails, or after its passes. -/
theorem run_cases {fuel : Nat} {l l' : ControlLoop} {h h' : Host}
    {r : Except LoopError (Option Nat)}
    (ran : (run around fuel).run l h = (r, l', h')) :
    (∃ e, r = .error e ∧ l' = l) ∨
    ∃ k, around.onStart.run h = (.ok (), k) ∧
      ((openStore.run l k = (.ok false, l', h') ∧ r = .ok (some 1)) ∨
        ∃ m j, openStore.run l k = (.ok true, m, j) ∧
          (passes around fuel).run m j = (r, l', h')) := by
  simp only [run, run_bind, run_onHost] at ran
  generalize around.onStart.run h = started at ran
  obtain ⟨x, k⟩ := started
  cases x with
  | error e =>
    cases ran
    exact .inl ⟨_, rfl, rfl⟩
  | ok _ =>
    refine .inr ⟨k, rfl, ?_⟩
    dsimp only at ran
    rcases opened : openStore.run l k with ⟨y, m, j⟩
    rw [opened] at ran
    rcases openStore_cases opened with ⟨e, rfl, -, -⟩ | ⟨s, i, rfl, -, -, -⟩
    · cases ran
      exact .inl ⟨rfl, rfl⟩
    · exact .inr ⟨m, j, rfl, ran⟩

theorem onStoreError_run (a : Step (Option Nat)) (l : ControlLoop) (h : Host) :
    (onStoreError a).run l h = match a.run l h with
      | (.error (.store _), l, h) =>
        (.ok (some 1), { l with state := .stopped },
          { h with journal := h.journal ++
            [⟨.error, .general, "Fatal store error, stopping the daemon"⟩] })
      | r => r := by
  rw [show (onStoreError a).run l h = onStoreError a (l, h) from rfl, onStoreError]
  rcases a.run l h with ⟨x | status, m, k⟩
  · cases x <;> rfl
  · rfl

theorem onStoreError_cases {a : Step (Option Nat)} {l l' : ControlLoop} {h h' : Host}
    {r : Except LoopError (Option Nat)} (ran : (onStoreError a).run l h = (r, l', h')) :
    a.run l h = (r, l', h') ∨
      ∃ e m k, a.run l h = (.error (.store e), m, k) ∧ r = .ok (some 1) ∧
        l' = { m with state := .stopped } ∧ h'.files = k.files := by
  rw [onStoreError_run] at ran
  generalize a.run l h = outcome at ran ⊢
  obtain ⟨x | status, m, k⟩ := outcome
  · cases x with
    | store e =>
      cases ran
      exact .inr ⟨e, m, k, rfl, rfl, rfl, rfl⟩
    | number e => exact .inl ran
    | cycle e => exact .inl ran
    | file e => exact .inl ran
    | outside kind message => exact .inl ran
  · exact .inl ran

/-- What every operation keeps, the passes of a run keep. -/
theorem passes_keeps {P : ControlLoop → Prop} {fuel : Nat} {l l' : ControlLoop} {h h' : Host}
    {r : Except LoopError (Option Nat)}
    (kept : ∀ (o : Operation) {l l' h h' r}, P l → (o.perform around).run l h = (r, l', h') → P l')
    (before : P l) (ran : (passes around fuel).run l h = (r, l', h')) : P l' := by
  have working : Maintains (fun l _ => P l) (fun _ l _ => P l) (work around fuel) :=
    work_maintains (fun o => maintains_of_result (kept o)) fuel
  rcases onStoreError_cases ran with whole | ⟨e, m, k, broken, -, rfl, -⟩
  · exact working.result before whole
  · have after : P m := working.error before broken
    exact kept (.enter .stopped) (h := k) after rfl

theorem perform_extends {o : Operation} {l l' : ControlLoop} {h h' : Host}
    {r : Except LoopError Unit} (ran : (o.perform around).run l h = (r, l', h')) :
    l.events <+: l'.events := by
  obtain ⟨es, events, -⟩ := (perform_effect ran).exists_events
  exact events ▸ List.prefix_append _ es

theorem passes_extends {fuel : Nat} {l l' : ControlLoop} {h h' : Host}
    {r : Except LoopError (Option Nat)}
    (ran : (passes around fuel).run l h = (r, l', h')) : l.events <+: l'.events :=
  passes_keeps (P := fun m => l.events <+: m.events)
    (fun _ _ _ _ _ _ before ran => before.trans (perform_extends ran)) (List.prefix_refl _) ran

/-- The passes break down or do not end, or they stop and the last save decides. -/
theorem work_cases {fuel : Nat} {l l' : ControlLoop} {h h' : Host}
    {r : Except LoopError (Option Nat)} (ran : (work around fuel).run l h = (r, l', h')) :
    (∃ e, (steps around fuel).run l h = (.error e, l', h') ∧ r = .error e) ∨
    ((steps around fuel).run l h = (.ok false, l', h') ∧ r = .ok none) ∨
    ∃ m k j, (steps around fuel).run l h = (.ok true, m, k) ∧ j.files = k.files ∧
      ((∃ e, (save true).run { m with state := .stopRequested } j = (.error e, l', h') ∧
          r = .error e) ∨
        ∃ n i, (save true).run { m with state := .stopRequested } j = (.ok (), n, i) ∧
          r = .ok (some 0) ∧ l' = { n with state := .stopped } ∧ h'.files = i.files) := by
  rw [work, run_bind] at ran
  generalize (steps around fuel).run l h = result at ran
  obtain ⟨x, m, k⟩ := result
  cases x with
  | error e =>
    cases ran
    exact .inl ⟨e, rfl, rfl⟩
  | ok stopped =>
    cases stopped with
    | false =>
      cases ran
      exact .inr (.inl ⟨rfl, rfl⟩)
    | true =>
      refine .inr (.inr ?_)
      dsimp only at ran
      simp only [if_true, finish, run_bind, run_enter, run_loop, Action.info, run_note] at ran
      generalize k.journal ++ _ = journal at ran
      refine ⟨m, k, { k with journal }, rfl, rfl, ?_⟩
      generalize (save true).run { m with state := .stopRequested } { k with journal } = outcome
        at ran
      obtain ⟨y, n, i⟩ := outcome
      cases y with
      | error e =>
        cases ran
        exact .inl ⟨e, rfl, rfl⟩
      | ok _ =>
        cases ran
        exact .inr ⟨n, i, rfl, rfl, rfl, rfl⟩

end ControlLoop
end LinkMonitor
