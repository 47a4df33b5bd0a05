import LinkMonitor.Daemon.Service
import LinkMonitor.Proofs.Daemon.Cycle
import LinkMonitor.Proofs.Daemon.Outlook
import LinkMonitor.Proofs.Daemon.Pass
import Mathlib.Data.List.Forall2

/-!
# What the events of a loop are worth

The events of a loop are noted by the loop itself. A batch among them is everything that the checks of its
cycle gave, what the store was opened with is what the file gave at that time, and each attempt to read or
to write the file has come to what is told of it.
-/

namespace LinkMonitor

namespace LoopEvent

def batch? : LoopEvent → Option (List CheckRecord)
  | batch records => some records
  | _ => none

def cycle? : LoopEvent → Option Int
  | cycle timestamp _ => some timestamp
  | _ => none

def elapsed? : LoopEvent → Option Int
  | elapsed boundary => some boundary
  | _ => none

theorem batch?_of_isQuiet {e : LoopEvent} (quiet : e.isQuiet = true) : e.batch? = none := by
  cases e <;> first | rfl | cases quiet

end LoopEvent

namespace Stage

/-- The cycle that has started and is still without its batch. -/
def inHand : Stage → List Int
  | inCycle timestamp => [timestamp]
  | idle | called _ => []

/-- The boundary that has been reached and whose batch is still to come. -/
def reached : Stage → List Int
  | inCycle timestamp | called timestamp => [timestamp]
  | idle => []

end Stage

/-! ### What is told of the file -/

/-- What the event tells of the file has happened: the store gave it when it was read or written. -/
def LoopEvent.Happened (config : DaemonConfig) : LoopEvent → Prop
  | .opened x => ∃ h, x = ((Store.loadOrCreate config.storePath).run h).1.map Store.records
  | .reload x => ∃ h, x = ((Store.load config.storePath).run h).1.map Store.records
  | .save _ x => ∃ (s : Store) (h : Host), s.path = some config.storePath ∧
      x = (s.save.run h).1.map Store.records
  | .made _ | .requested _ | .wait _ _ | .elapsed _ | .cycle _ _ | .batch _ => True

theorem LoopEvent.happened_of_isQuiet {config : DaemonConfig} {e : LoopEvent} (quiet : e.isQuiet = true) :
    e.Happened config := by
  cases e <;> trivial

/-! ### Batches -/

/-- If the event is a batch then it is what its cycle gave. The cycle has the number of the batch, and
nothing but requests has come since it started. -/
def LoopEvent.Given (around : Surroundings) (config : DaemonConfig) (past : List LoopEvent)
    (e : LoopEvent) : Prop :=
  ∀ b, e = .batch b → ∃ timestamp, (Outlook.after {} past).stage = .inCycle timestamp ∧
    Cycle.Gives config (around.transport ((past.filterMap batch?).length + 1)) timestamp b

/-- Every batch is what its cycle gave. -/
def Told (around : Surroundings) (config : DaemonConfig) (es : List LoopEvent) : Prop :=
  ∀ past e rest, es = past ++ e :: rest → e.Given around config past

/-- The batches come from cycles at these times, one from each. The first cycle has the number 1. -/
def EachGives (around : Surroundings) (config : DaemonConfig) (times : List Int)
    (batches : List (List CheckRecord)) : Prop :=
  List.Forall₂ (fun c b => Cycle.Gives config (around.transport c.2) c.1 b) (times.zipIdx 1) batches

variable {around : Surroundings} {config : DaemonConfig} {es fs : List LoopEvent} {e : LoopEvent}

namespace EachGives

variable {times : List Int} {batches : List (List CheckRecord)}

theorem length_eq (each : EachGives around config times batches) : times.length = batches.length := by
  rw [← List.Forall₂.length_eq each, List.length_zipIdx]

theorem snoc {timestamp : Int} {b : List CheckRecord} (each : EachGives around config times batches)
    (gives : Cycle.Gives config (around.transport (batches.length + 1)) timestamp b) :
    EachGives around config (times ++ [timestamp]) (batches ++ [b]) := by
  rw [EachGives, List.zipIdx_append, each.length_eq, Nat.add_comm]
  exact List.rel_append each (.cons gives .nil)

end EachGives

namespace Told

theorem nil : Told around config [] := by
  intro past e rest split
  exact absurd split.symm (by simp)

theorem snoc (told : Told around config es) (given : e.Given around config es) :
    Told around config (es ++ [e]) :=
  forall_split_snoc told given

theorem append_others (told : Told around config es) (others : ∀ e ∈ fs, e.batch? = none) :
    Told around config (es ++ fs) := by
  induction fs generalizing es with
  | nil => rwa [List.append_nil]
  | cons e fs ih =>
    obtain ⟨other, others⟩ := List.forall_mem_cons.mp others
    rw [List.append_cons]
    refine ih (told.snoc ?_) others
    rintro b rfl
    cases other

theorem of_append (told : Told around config (es ++ fs)) : Told around config es :=
  forall_split_of_append told

theorem gives {b : List CheckRecord} (told : Told around config es) (member : .batch b ∈ es) :
    ∃ number timestamp, Cycle.Gives config (around.transport number) timestamp b := by
  obtain ⟨past, rest, split⟩ := List.append_of_mem member
  obtain ⟨timestamp, -, gives⟩ := told past _ rest split b rfl
  exact ⟨_, timestamp, gives⟩

/-- Every boundary that is reached has its cycle, and the cycle its batch, one after the other. Only the
last ones can be without. -/
theorem exists_eachGives (told : Told around config es) (obedient : Obedient es) :
    ∃ times, es.filterMap LoopEvent.elapsed? = times ++ (Outlook.after {} es).stage.reached ∧
      es.filterMap LoopEvent.cycle? = times ++ (Outlook.after {} es).stage.inHand ∧
      EachGives around config times (es.filterMap LoopEvent.batch?) := by
  induction es using List.reverseRecOn with
  | nil => exact ⟨[], rfl, rfl, .nil⟩
  | append_singleton es e ih =>
    obtain ⟨times, boundaries, cycles, each⟩ := ih told.of_append obedient.of_append
    have allowed := (obedient es e [] rfl).2
    rw [Outlook.after_append, Outlook.after_cons, Outlook.after_nil, List.filterMap_append,
      List.filterMap_append, List.filterMap_append, boundaries, cycles]
    have others : es.filterMap LoopEvent.batch? ++ [] = es.filterMap LoopEvent.batch? :=
      List.append_nil _
    cases e with
    | elapsed boundary =>
      rw [allowed.2.2]
      exact ⟨times, by simp [Stage.reached, Outlook.next, LoopEvent.elapsed?], List.append_nil _,
        others.symm ▸ each⟩
    | cycle timestamp view =>
      rw [show (Outlook.after {} es).stage = .called timestamp from allowed]
      exact ⟨times, List.append_nil _, by simp [Stage.inHand, Outlook.next, LoopEvent.cycle?],
        others.symm ▸ each⟩
    | batch b =>
      obtain ⟨timestamp, started, gives⟩ := told es _ [] rfl b rfl
      rw [started]
      exact ⟨times ++ [timestamp], by simp [Stage.reached, Outlook.next, LoopEvent.elapsed?],
        by simp [Stage.inHand, Outlook.next, LoopEvent.cycle?], each.snoc gives⟩
    | requested r =>
      cases r <;> exact ⟨times, List.append_nil _, List.append_nil _, others.symm ▸ each⟩
    | save isLast _ =>
      cases isLast <;> exact ⟨times, List.append_nil _, List.append_nil _, others.symm ▸ each⟩
    | made _ | opened _ | wait _ _ | reload _ =>
      exact ⟨times, List.append_nil _, List.append_nil _, others.symm ▸ each⟩

end Told

namespace ControlLoop

variable {l l' start : ControlLoop} {h h' : Host} {o : Operation}

/-- All batches of a run, the first one first. -/
def batches (l : ControlLoop) : List (List CheckRecord) := l.events.filterMap LoopEvent.batch?

/-- The times of all cycles of a run, the first one first. -/
def cycleTimes (l : ControlLoop) : List Int := l.events.filterMap LoopEvent.cycle?

/-- The boundaries that the waits of a run have reached, the first one first. -/
def boundaries (l : ControlLoop) : List Int := l.events.filterMap LoopEvent.elapsed?

theorem batches_of_append (events : l'.events = l.events ++ [e]) :
    l'.batches = l.batches ++ e.batch?.toList := by
  rw [batches, events, List.filterMap_append, batches]
  cases e <;> rfl

theorem batches_appendBatch (batch : List CheckRecord) (l : ControlLoop) :
    (appendBatch batch l).batches = l.batches ++ [batch] :=
  batches_of_append (e := .batch batch) rfl

theorem batches_of_others (events : l'.events = l.events ++ es)
    (others : ∀ e ∈ es, e.batch? = none) : l'.batches = l.batches := by
  rw [batches, events, List.filterMap_append, List.filterMap_eq_nil_iff.mpr others, List.append_nil,
    batches]

theorem Quiet.batches (calm : Quiet l l') : l'.batches = l.batches := by
  obtain ⟨es, quiet, events⟩ := calm.events
  exact batches_of_others events fun e he => LoopEvent.batch?_of_isQuiet (quiet e he)

/-- The batches of a loop are those of its cycles. -/
structure Accounted (around : Surroundings) (config : DaemonConfig) (l : ControlLoop) : Prop where
  config_eq : l.config = config
  cycles_eq : l.cycles = l.batches.length
  told : Told around config l.events

namespace Accounted

/-- Events other than batches may be noted. -/
theorem of_others (before : Accounted around config l) (config_eq : l'.config = l.config)
    (cycles : l'.cycles = l.cycles) (events : l'.events = l.events ++ es)
    (others : ∀ e ∈ es, e.batch? = none) : Accounted around config l' := by
  refine ⟨config_eq.trans before.config_eq, ?_, ?_⟩
  · rw [cycles, batches_of_others events others, before.cycles_eq]
  · rw [events]
    exact before.told.append_others others

theorem of_event (before : Accounted around config l) (config_eq : l'.config = l.config)
    (cycles : l'.cycles = l.cycles) (events : l'.events = l.events ++ [e]) (other : e.batch? = none) :
    Accounted around config l' :=
  before.of_others config_eq cycles events (List.forall_mem_singleton.mpr other)

theorem of_quiet (before : Accounted around config l) (calm : Quiet l l') :
    Accounted around config l' := by
  obtain ⟨es, quiet, events⟩ := calm.events
  exact before.of_others calm.config calm.cycles events fun e member =>
    LoopEvent.batch?_of_isQuiet (quiet e member)

theorem of_effect {r : Except LoopError Unit} (before : Accounted around config l)
    (effect : Effect around l h o r l' h') : Accounted around config l' := by
  cases effect with
  | quiet idle calm others => exact before.of_quiet calm
  | @appended timestamp m k _ rs batch checked begun calm others =>
    have asked := before.of_quiet calm
    refine ⟨asked.config_eq, ?_, asked.told.snoc ?_⟩
    · rw [batches_appendBatch, List.length_append, ← asked.cycles_eq]
      rfl
    · rintro b same
      obtain rfl := LoopEvent.batch.inj same
      rw [before.config_eq] at checked
      refine ⟨timestamp, ?_, h, k, ?_⟩
      · rw [begun, receive, Outlook.after_append,
          Outlook.stage_after_requests LoopEvent.isRequest_of_mem_map, beginCycle, Outlook.after_append]
        rfl
      · rw [show (m.events.filterMap LoopEvent.batch?).length = l.cycles by
          rw [← calm.cycles, asked.cycles_eq, ControlLoop.batches]]
        exact checked
  | saved ran => exact before.of_event rfl rfl rfl rfl
  | notSaved retrySave ran files outcome => exact before.of_event rfl rfl rfl rfl
  | reloaded loaded files => exact before.of_event rfl rfl rfl rfl
  | notReloaded state loaded files outcome => exact before.of_event rfl rfl rfl rfl

theorem of_openStore {r : Except LoopError Bool} (before : Accounted around config l)
    (ran : openStore.run l h = (r, l', h')) : Accounted around config l' := by
  rcases openStore_cases ran with ⟨e, -, -, rfl⟩ | ⟨s, k, -, -, -, rfl⟩
  · exact before.of_event rfl rfl rfl rfl
  · exact before.of_event rfl rfl rfl rfl

end Accounted

theorem accounted_newLoop (around : Surroundings) (config : DaemonConfig) (pid : Int)
    (requests : List ControlRequest) :
    Accounted around config ((Service.newLoop config pid).receive requests) := by
  have made : Accounted around config (Service.newLoop config pid) :=
    ⟨rfl, rfl, Told.nil.snoc nofun⟩
  exact made.of_quiet (.receive requests _)

/-- At the end of a run, however it ends, each of its batches is all that one of its cycles gave. -/
theorem run_accounted {fuel : Nat} {r : Except LoopError (Option Nat)}
    (before : Accounted around config start) (ran : (run around fuel).run start h = (r, l, h')) :
    Accounted around config l := by
  rcases run_cases ran with ⟨x, -, rfl⟩ | ⟨k, -, ⟨closed, -⟩ | ⟨m, j, opened, passed⟩⟩
  · exact before
  · exact before.of_openStore closed
  · exact passes_keeps (fun o _ _ _ _ _ before ran => before.of_effect (perform_effect ran))
      (before.of_openStore opened) passed

theorem perform_keepsAccounted (o : Operation) : Step.Maintains (fun l _ => Accounted around config l)
    (fun _ l _ => Accounted around config l) (o.perform around) :=
  Step.maintains_of_result fun before ran => before.of_effect (perform_effect ran)

theorem waitAndCycle_accounted {r : Except LoopError Unit} (before : Accounted around config l)
    (ran : (waitAndCycle around).run l h = (r, l', h')) : Accounted around config l' :=
  (waitAndCycle_maintains fun o _ _ => perform_keepsAccounted o).result before ran

theorem ComesTo.accounted {n : Nat} {reloads : Bool} (comes : ComesTo around start h n reloads l h')
    (before : Accounted around config start) : Accounted around config l :=
  comes.of_maintains (P := fun l _ => Accounted around config l) before.of_openStore
    (steps_maintains (fun o _ => perform_keepsAccounted o) n) (perform_keepsAccounted .interlude)
    (Step.maintains_of_discard (perform_keepsAccounted .takeReload))

/-- A loop that has nothing in hand has had a cycle at every boundary, and a batch from each. -/
theorem Accounted.eachGives (accounted : Accounted around config l) (obedient : Obedient l.events)
    (idle : (Outlook.after {} l.events).stage = .idle) :
    l.cycleTimes = l.boundaries ∧ EachGives around config l.cycleTimes l.batches := by
  obtain ⟨times, boundaries, cycles, each⟩ := accounted.told.exists_eachGives obedient
  rw [idle, Stage.reached, List.append_nil] at boundaries
  rw [idle, Stage.inHand, List.append_nil] at cycles
  rw [cycleTimes, cycles, ControlLoop.boundaries, boundaries]
  exact ⟨rfl, each⟩

/-! ### The opening -/

theorem Effect.opened_mem {r : Except LoopError Unit} (effect : Effect around l h o r l' h')
    {x : Except StoreError (List CheckRecord)} (member : .opened x ∈ l'.events) :
    .opened x ∈ l.events := by
  have old (calm : Quiet l l') : .opened x ∈ l.events :=
    (calm.mem_events.2 member).resolve_right nofun
  cases effect with
  | quiet idle calm others => exact old calm
  | appended batch checked begun calm others =>
    have before := (List.mem_append.mp member).resolve_right (by simp)
    exact (calm.mem_events.2 before).resolve_right nofun
  | saved => exact (List.mem_append.mp member).resolve_right (by simp)
  | notSaved => exact (List.mem_append.mp member).resolve_right (by simp)
  | reloaded => exact (List.mem_append.mp member).resolve_right (by simp)
  | notReloaded => exact (List.mem_append.mp member).resolve_right (by simp)

/-- The opening of a run tells what its file gave when the run started, or that there was a failure. -/
theorem run_opened {fuel : Nat} {r : Except LoopError (Option Nat)}
    {x : Except StoreError (List CheckRecord)} (fresh : .opened x ∉ start.events)
    (ran : (run around fuel).run start h = (r, l, h')) (member : .opened x ∈ l.events) :
    ∃ k, around.onStart.run h = (.ok (), k) ∧
      x = ((Store.loadOrCreate start.config.storePath).run k).1.map Store.records := by
  have opening {y : Except LoopError Bool} {m : ControlLoop} {k j : Host}
      (opened : openStore.run start k = (y, m, j)) (member : .opened x ∈ m.events) :
      x = ((Store.loadOrCreate start.config.storePath).run k).1.map Store.records := by
    rcases openStore_cases opened with ⟨e, -, failed, rfl⟩ | ⟨s, i, -, found, -, rfl⟩
    · have same := (List.mem_append.mp member).resolve_left fresh
      rw [failed, LoopEvent.opened.inj (List.mem_singleton.mp same)]
      rfl
    · have same := (List.mem_append.mp member).resolve_left fresh
      rw [found, LoopEvent.opened.inj (List.mem_singleton.mp same)]
      rfl
  rcases run_cases ran with ⟨e, -, rfl⟩ | ⟨k, started, ⟨closed, -⟩ | ⟨m, j, opened, passed⟩⟩
  · exact absurd member fresh
  · exact ⟨k, started, opening closed member⟩
  · refine ⟨k, started, opening opened ?_⟩
    exact passes_keeps (P := fun l => .opened x ∈ l.events → .opened x ∈ m.events)
      (fun o _ _ _ _ _ before ran member => before ((perform_effect ran).opened_mem member)) id passed
      member

/-! ### Attempts to read and to write -/

/-- The loop still has its configuration, and its store belongs to the file that this names. -/
def Placed (config : DaemonConfig) (l : ControlLoop) : Prop :=
  l.config = config ∧ ∃ s, l.store = some s ∧ s.path = some config.storePath

theorem Placed.of_effect (placed : Placed config l) (effect : Effect around l h o r l' h') :
    Placed config l' := by
  obtain ⟨rfl, s, store, own⟩ := placed
  refine ⟨effect.config_eq, ?_⟩
  cases effect with
  | quiet idle calm others => exact ⟨s, calm.store.trans store, own⟩
  | appended batch checked begun calm others =>
    refine ⟨s.append batch, ?_, own⟩
    rw [appendBatch, calm.store, store]
    rfl
  | @saved isLast s' _ ran =>
    rw [store, Option.getD_some] at ran
    exact ⟨s', rfl, (Store.save_ok l.config.storePath ran).1.trans own⟩
  | notSaved retrySave ran files outcome => exact ⟨s, store, own⟩
  | @reloaded fresh _ loaded files =>
    obtain ⟨bytes, -, decoded⟩ := Store.load_ok loaded
    exact ⟨_, rfl, (Store.decodeFile_eq_ok decoded).1⟩
  | notReloaded state loaded files outcome => exact ⟨s, store, own⟩

/-- All that the events tell of the file has happened. -/
def Truthful (config : DaemonConfig) (l : ControlLoop) : Prop := ∀ e ∈ l.events, e.Happened config

theorem Truthful.of_quiet (truthful : Truthful config l) (calm : Quiet l l') : Truthful config l' := by
  intro e member
  rcases calm.mem_events.2 member with old | quiet
  · exact truthful e old
  · exact LoopEvent.happened_of_isQuiet quiet

theorem Truthful.of_append (truthful : Truthful config l) (events : l'.events = l.events ++ [e])
    (happened : e.Happened config) : Truthful config l' := by
  rw [Truthful, events]
  exact List.forall_mem_append.mpr ⟨truthful, List.forall_mem_singleton.mpr happened⟩

theorem Truthful.of_effect {r : Except LoopError Unit} (truthful : Truthful config l)
    (placed : Placed config l) (effect : Effect around l h o r l' h') : Truthful config l' := by
  obtain ⟨rfl, s, store, own⟩ := placed
  cases effect with
  | quiet idle calm others => exact truthful.of_quiet calm
  | appended batch checked begun calm others =>
    exact (truthful.of_quiet calm).of_append (e := .batch batch) rfl trivial
  | saved ran =>
    rw [store, Option.getD_some] at ran
    exact truthful.of_append rfl ⟨s, h, own, by rw [ran]; rfl⟩
  | notSaved retrySave ran files outcome =>
    rw [store, Option.getD_some] at ran
    exact truthful.of_append rfl ⟨s, h, own, by rw [ran]; rfl⟩
  | reloaded loaded files => exact truthful.of_append rfl ⟨h, by rw [loaded]; rfl⟩
  | notReloaded state loaded files outcome => exact truthful.of_append rfl ⟨h, by rw [loaded]; rfl⟩

theorem Truthful.of_openStore {r : Except LoopError Bool} (truthful : Truthful l.config l)
    (ran : openStore.run l h = (r, l', h')) : Truthful l.config l' := by
  rcases openStore_cases ran with ⟨e, -, failed, rfl⟩ | ⟨s, k, -, found, -, rfl⟩
  · exact truthful.of_append rfl ⟨h, by rw [failed]; rfl⟩
  · exact truthful.of_append rfl ⟨h, by rw [found]; rfl⟩

/-- A store that is opened belongs to the file. -/
theorem placed_of_openStore (ran : openStore.run l h = (.ok true, l', h')) : Placed l.config l' := by
  rcases openStore_cases ran with ⟨e, failed, -, -⟩ | ⟨s, k, -, found, -, rfl⟩
  · cases failed
  · exact ⟨rfl, s, rfl, (Store.loadOrCreate_ok found).1⟩

/-- At the end of a run, however it ends, its events tell what has come of each attempt to read the file
and of each to write it. -/
theorem run_truthful {fuel : Nat} {r : Except LoopError (Option Nat)}
    (before : Truthful start.config start) (ran : (run around fuel).run start h = (r, l, h')) :
    Truthful start.config l := by
  rcases run_cases ran with ⟨x, -, rfl⟩ | ⟨k, -, ⟨closed, -⟩ | ⟨m, j, opened, passed⟩⟩
  · exact before
  · exact before.of_openStore closed
  · refine (passes_keeps (P := fun l => Placed start.config l ∧ Truthful start.config l) ?_
      ⟨placed_of_openStore opened, before.of_openStore opened⟩ passed).2
    intro o l l' h h' r ⟨placed, truthful⟩ ran
    have effect := perform_effect ran
    exact ⟨placed.of_effect effect, truthful.of_effect placed effect⟩

theorem truthful_newLoop (config : DaemonConfig) (pid : Int) (requests : List ControlRequest) :
    Truthful config ((Service.newLoop config pid).receive requests) := by
  have made : Truthful config (Service.newLoop config pid) := List.forall_mem_singleton.mpr trivial
  exact made.of_quiet (.receive requests _)

end ControlLoop
end LinkMonitor
