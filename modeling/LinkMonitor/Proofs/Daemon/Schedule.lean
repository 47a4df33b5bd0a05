import LinkMonitor.Proofs.Daemon.Ledger
import LinkMonitor.Proofs.Daemon.Pass
import LinkMonitor.Proofs.Numeric.FloorDiv

/-!
# The times of the cycles

Whatever the clock does, cycles take place at multiples of the period, each of them a period after the
one before or later, and all records of a batch have the time of its cycle.
-/

namespace LinkMonitor
namespace ControlLoop

open Step

variable {around : Surroundings} {l l' m : ControlLoop} {h h' : Host} {period : Int}

/-! ### The next boundary -/

theorem nextBoundary_ok {last : Option Int} {now : Number} {b : Int}
    (found : nextBoundary period last now = .ok b) :
    (∃ k, now.floorDiv period = .ok k ∧ (k + 1) * period ≤ b) ∧
      (∀ t, last = some t → t + period ≤ b) ∧
      ((∀ t, last = some t → period ∣ t) → period ∣ b) := by
  obtain ⟨k, quotient, found⟩ := ok_of_bind found
  cases last with
  | none =>
    cases found
    exact ⟨⟨k, quotient, le_refl _⟩, by simp, fun _ => Dvd.intro_left _ rfl⟩
  | some t =>
    cases found
    refine ⟨⟨k, quotient, le_max_left _ _⟩, fun t' same => ?_, fun multiple => ?_⟩
    · cases same
      exact le_max_right _ _
    · rcases max_choice ((k + 1) * period) (t + period) with new | next
      · rw [new]
        exact Dvd.intro_left _ rfl
      · rw [next]
        exact dvd_add (multiple t rfl) (dvd_refl _)

/-- From a reading of the clock there is a next boundary, and it is still ahead. -/
theorem exists_nextBoundary {now : Number} {v : Rat} (reading : now.IsReading v)
    (pos : 0 < period) (small : period < 2 ^ 53) (last : Option Int) :
    ∃ b, nextBoundary period last now = .ok b ∧ v < b := by
  have quotient := reading.floorDiv pos small
  obtain ⟨b, found⟩ : ∃ b, nextBoundary period last now = .ok b := by
    rw [nextBoundary, quotient]
    cases last <;> exact ⟨_, rfl⟩
  refine ⟨b, found, ?_⟩
  obtain ⟨⟨k, same, least⟩, -, -⟩ := nextBoundary_ok found
  rw [quotient] at same
  cases same
  have pos' : (0 : Rat) < period := by exact_mod_cast pos
  have least' : (((v / period).floor + 1) * period : Rat) ≤ b := by exact_mod_cast least
  have ahead : v / period < (v / period).floor + 1 := Int.lt_floor_add_one (v / period)
  rw [div_lt_iff₀ pos'] at ahead
  linarith

/-! ### Changes that leave the schedule alone -/

/-- Neither the boundary nor the cycles nor the batches are different. -/
structure SameSchedule (l l' : ControlLoop) : Prop where
  config : l'.config = l.config
  lastBoundary : l'.lastBoundary = l.lastBoundary
  cycleTimes : l'.cycleTimes = l.cycleTimes
  batches : l'.batches = l.batches

namespace SameSchedule

theorem refl (l : ControlLoop) : SameSchedule l l := ⟨rfl, rfl, rfl, rfl⟩

theorem trans {l m n : ControlLoop} (first : SameSchedule l m) (later : SameSchedule m n) :
    SameSchedule l n :=
  ⟨later.config.trans first.config, later.lastBoundary.trans first.lastBoundary,
    later.cycleTimes.trans first.cycleTimes, later.batches.trans first.batches⟩

/-- Other events may be noted. -/
theorem of_events {es : List LoopEvent} (config : l'.config = l.config)
    (lastBoundary : l'.lastBoundary = l.lastBoundary) (events : l'.events = l.events ++ es)
    (others : ∀ e ∈ es, e.cycle? = none ∧ e.batch? = none) : SameSchedule l l' := by
  refine ⟨config, lastBoundary, ?_, batches_of_others events fun e he => (others e he).2⟩
  rw [ControlLoop.cycleTimes, events, List.filterMap_append,
    List.filterMap_eq_nil_iff.mpr fun e he => (others e he).1, List.append_nil]
  rfl

/-- Any event that is neither a cycle nor a batch may be noted. -/
theorem of_event {e : LoopEvent} (config : l'.config = l.config)
    (lastBoundary : l'.lastBoundary = l.lastBoundary) (events : l'.events = l.events ++ [e])
    (noCycle : e.cycle? = none) (noBatch : e.batch? = none) : SameSchedule l l' := by
  refine of_events config lastBoundary events fun e' member => ?_
  rw [List.mem_singleton.mp member]
  exact ⟨noCycle, noBatch⟩

theorem of_fields (config : l'.config = l.config) (lastBoundary : l'.lastBoundary = l.lastBoundary)
    (events : l'.events = l.events) : SameSchedule l l' :=
  @of_events l l' [] config lastBoundary (by rw [events, List.append_nil]) (by simp)

theorem receive (rs : List ControlRequest) (l : ControlLoop) : SameSchedule l (l.receive rs) := by
  refine of_events rfl rfl rfl fun e he => ?_
  obtain ⟨r, -, rfl⟩ := List.mem_map.mp he
  exact ⟨rfl, rfl⟩

theorem leaveWait (late : List ControlRequest) (l : ControlLoop) :
    SameSchedule l (leaveWait late l) :=
  (receive late l).trans (.of_fields rfl rfl rfl)

end SameSchedule

/-- Only waits and cycles change the schedule. -/
theorem sameSchedule_perform {o : Operation} {r : Except LoopError Unit} (noWait : o ≠ .wait)
    (noCycle : ∀ timestamp, o ≠ .produce timestamp)
    (ran : (o.perform around).run l h = (r, l', h')) : SameSchedule l l' := by
  cases o with
  | wait => exact absurd rfl noWait
  | produce timestamp => exact absurd rfl (noCycle timestamp)
  | interlude =>
    cases ran
    exact .receive _ l
  | takeReload =>
    cases ran
    exact .of_fields rfl rfl rfl
  | enter state =>
    cases ran
    exact .of_fields rfl rfl rfl
  | note level text =>
    cases ran
    exact .refl l
  | save isLast =>
    cases save_effect around ran with
    | quiet idle => cases idle
    | saved => exact .of_event rfl rfl rfl rfl rfl
    | notSaved => exact .of_event rfl rfl rfl rfl rfl
  | reload =>
    cases reload_effect around ran with
    | quiet idle => cases idle
    | reloaded => exact .of_event rfl rfl rfl rfl rfl
    | notReloaded => exact .of_event rfl rfl rfl rfl rfl

theorem cycleTimes_appendBatch (batch : List CheckRecord) (l : ControlLoop) :
    (appendBatch batch l).cycleTimes = l.cycleTimes := by
  simp [cycleTimes, appendBatch, LoopEvent.cycle?]

/-! ### Waits and cycles -/

/-- A wait that is not cut short sets the boundary; any other changes nothing. -/
theorem waitForBoundary_cases {r : Except LoopError (Option Int)}
    (ran : (waitForBoundary around).run l h = (r, l', h')) :
    (SameSchedule l l' ∧ ∀ b, r ≠ .ok (some b)) ∨
    ∃ b m, nextBoundary l.config.period l.lastBoundary h.clock = .ok b ∧ SameSchedule l m ∧
      r = .ok (some b) ∧ l' = { m with lastBoundary := some b } := by
  have waiting (timeout : Number) : SameSchedule l (beginWait timeout l) :=
    .of_event rfl rfl rfl rfl rfl
  cases waitForBoundary_waited ran with
  | unplanned e => exact .inl ⟨.refl l, by simp⟩
  | broken slept => exact .inl ⟨waiting _, by simp⟩
  | @interrupted timeout rs _ m slept heard woken =>
    have asked := (waiting timeout).trans (.receive rs _)
    rw [heard] at asked
    exact .inl ⟨asked.trans (.leaveWait _ m), by simp⟩
  | @elapsed timeout boundary rs k m n found slept heard undisturbed left =>
    have asked := (waiting timeout).trans (.receive rs _)
    rw [heard] at asked
    have noted : SameSchedule m { m with events := m.events ++ [.elapsed boundary] } :=
      .of_event rfl rfl rfl rfl rfl
    refine .inr ⟨boundary, n, found, asked.trans (noted.trans ?_), rfl, rfl⟩
    exact left ▸ .leaveWait _ _

/-- A cycle notes its time, and unless it fails it has a batch of records of this time. -/
theorem produce_cases {timestamp : Int} {r : Except LoopError Unit}
    (ran : (produce around timestamp).run l h = (r, l', h')) :
    l'.config = l.config ∧ l'.lastBoundary = l.lastBoundary ∧
      l'.cycleTimes = l.cycleTimes ++ [timestamp] ∧
      ((∃ e, r = .error e ∧ l'.batches = l.batches) ∨
        ∃ batch, r = .ok () ∧ l'.batches = l.batches ++ [batch] ∧ batch ≠ [] ∧
          ∀ r ∈ batch, r.timestamp = timestamp) := by
  have noted : (beginCycle timestamp l).cycleTimes = l.cycleTimes ++ [timestamp] ∧
      (beginCycle timestamp l).batches = l.batches := by
    simp [beginCycle, cycleTimes, batches, LoopEvent.cycle?, LoopEvent.batch?]
  cases produce_produced ran with
  | unchecked checked => exact ⟨rfl, rfl, noted.1, .inl ⟨_, rfl, noted.2⟩⟩
  | broken checked heard => exact ⟨rfl, rfl, noted.1, .inl ⟨_, rfl, noted.2⟩⟩
  | @appended batch rs _ _ checked heard =>
    have asked := SameSchedule.receive rs (beginCycle timestamp l)
    obtain ⟨asMany, stamped⟩ := Cycle.run_records checked
    refine ⟨rfl, rfl, ?_, .inr ⟨batch, rfl, ?_, ?_, stamped⟩⟩
    · rw [cycleTimes_appendBatch, asked.cycleTimes, noted.1]
    · rw [batches_appendBatch, asked.batches, noted.2]
    · rw [← List.length_pos_iff, asMany]
      exact List.length_pos_of_ne_nil l.config.enabled_ne_nil

/-- A pass without a reload changes nothing about the schedule, or it reaches the next boundary and has
a cycle then. -/
theorem waitAndCycle_cases {r : Except LoopError Unit}
    (ran : (waitAndCycle around).run l h = (r, l', h')) :
    SameSchedule l l' ∨
    ∃ b m k x p q, nextBoundary l.config.period l.lastBoundary h.clock = .ok b ∧ SameSchedule l m ∧
      (produce around b).run { m with lastBoundary := some b } k = (x, p, q) ∧ SameSchedule p l' ∧
      (r = .ok () → x = .ok ()) := by
  obtain ⟨x, n, k, waited, outcome⟩ := waitAndCycle_waited ran
  rcases waitForBoundary_cases waited with ⟨same, other⟩ | ⟨b, m, found, same, rfl, rfl⟩
  · rcases outcome with ⟨e, -, -, rfl⟩ | ⟨-, -, rfl⟩ | ⟨b, reached, -⟩
    · exact .inl same
    · exact .inl same
    · exact absurd reached (other b)
  · rcases outcome with ⟨e, failed, -⟩ | ⟨short, -⟩ | ⟨b', reached, cycled⟩
    · cases failed
    · cases short
    obtain rfl : b = b' := Option.some.inj (Except.ok.inj reached)
    obtain ⟨rs, q, x, p, q', produced, outcome⟩ := cycle_cases cycled
    refine .inr ⟨b, _, q, x, p, q', found, same.trans (.receive rs m), produced, ?_⟩
    rcases outcome with ⟨e, rfl, rfl, rfl⟩ | ⟨rs', i, rfl, ended⟩
    · exact ⟨.refl _, nofun⟩
    · have asked := SameSchedule.receive rs' p
      rcases saveIfDue_cases ended with ⟨-, saved⟩ | ⟨-, rfl, rfl⟩
      · have saving : ((Operation.save false).perform around).run (p.receive rs') i = (r, l', h') := saved
        exact ⟨asked.trans (sameSchedule_perform (by simp) (by simp) saving), fun _ => rfl⟩
      · exact ⟨asked, fun _ => rfl⟩

/-! ### The schedule -/

/-- A batch of the cycle at the given time. -/
def Stamped (timestamp : Int) (batch : List CheckRecord) : Prop :=
  batch ≠ [] ∧ ∀ r ∈ batch, r.timestamp = timestamp

/-- Cycles take place on boundaries of the period, a period apart or more. The batches come from the
first of them, one from each; only the last cycle can be without. -/
structure OnSchedule (period : Int) (l : ControlLoop) : Prop where
  multiple : ∀ t ∈ l.cycleTimes, period ∣ t
  spaced : l.cycleTimes.Pairwise fun s t => s + period ≤ t
  stamped : List.Forall₂ Stamped (l.cycleTimes.take l.batches.length) l.batches
  complete : l.cycleTimes.length ≤ l.batches.length + 1

/-- Between two passes no cycle is without its batch, and none has been later than the last boundary. -/
structure Punctual (period : Int) (l : ControlLoop) : Prop where
  config : l.config.period = period
  boundary : ∀ b, l.lastBoundary = some b → period ∣ b
  multiple : ∀ t ∈ l.cycleTimes, period ∣ t
  spaced : l.cycleTimes.Pairwise fun s t => s + period ≤ t
  reached : ∀ t ∈ l.cycleTimes, ∃ b, l.lastBoundary = some b ∧ t ≤ b
  stamped : List.Forall₂ Stamped l.cycleTimes l.batches

theorem Punctual.onSchedule (punctual : Punctual period l) : OnSchedule period l := by
  have length := punctual.stamped.length_eq
  refine ⟨punctual.multiple, punctual.spaced, ?_, by omega⟩
  rw [List.take_of_length_le length.le]
  exact punctual.stamped

theorem Punctual.of_same (punctual : Punctual period l) (same : SameSchedule l l') :
    Punctual period l' := by
  obtain ⟨config, boundary, multiple, spaced, reached, stamped⟩ := punctual
  constructor
  · rw [same.config, config]
  · rwa [same.lastBoundary]
  · rwa [same.cycleTimes]
  · rwa [same.cycleTimes]
  · rwa [same.cycleTimes, same.lastBoundary]
  · rwa [same.cycleTimes, same.batches]

theorem OnSchedule.of_same (on : OnSchedule period l) (same : SameSchedule l l') :
    OnSchedule period l' := by
  obtain ⟨multiple, spaced, stamped, complete⟩ := on
  constructor
  · rwa [same.cycleTimes]
  · rwa [same.cycleTimes]
  · rwa [same.cycleTimes, same.batches]
  · rwa [same.cycleTimes, same.batches]

/-- The next boundary is beyond all cycles so far. -/
theorem Punctual.beyond {now : Number} {b : Int} (punctual : Punctual period l)
    (found : nextBoundary period l.lastBoundary now = .ok b) :
    ∀ t ∈ l.cycleTimes, t + period ≤ b := by
  intro t member
  obtain ⟨last, boundary, before⟩ := punctual.reached t member
  have gap := (nextBoundary_ok found).2.1 last boundary
  omega

/-- Operations other than waits and cycles. -/
theorem punctual_perform (around : Surroundings) (period : Int) {o : Operation} (noWait : o ≠ .wait)
    (noCycle : ∀ timestamp, o ≠ .produce timestamp) :
    Maintains (fun l _ => Punctual period l) (fun _ l _ => OnSchedule period l)
      (o.perform around) := by
  intro l h punctual
  rcases ran : (o.perform around).run l h with ⟨r, l', h'⟩
  have after := punctual.of_same (sameSchedule_perform noWait noCycle ran)
  cases r with
  | ok _ => exact after
  | error e => exact after.onSchedule

/-- A cycle on the boundary that has just been waited for, which is beyond all cycles so far. -/
theorem produce_punctual {b : Int} {r : Except LoopError Unit} (punctual : Punctual period m)
    (multiple : period ∣ b) (beyond : ∀ t ∈ m.cycleTimes, t + period ≤ b)
    (ran : (produce around b).run { m with lastBoundary := some b } h = (r, l', h')) :
    OnSchedule period l' ∧ (r = .ok () → Punctual period l') := by
  obtain ⟨config, last, times, outcome⟩ := produce_cases ran
  change l'.cycleTimes = m.cycleTimes ++ [b] at times
  have multiples : ∀ t ∈ l'.cycleTimes, period ∣ t := by
    intro t member
    rw [times, List.mem_append, List.mem_singleton] at member
    rcases member with old | rfl
    · exact punctual.multiple t old
    · exact multiple
  have spaced : l'.cycleTimes.Pairwise fun s t => s + period ≤ t := by
    rw [times, List.pairwise_append]
    refine ⟨punctual.spaced, List.pairwise_singleton _ _, fun s earlier t now => ?_⟩
    rw [List.mem_singleton.mp now]
    exact beyond s earlier
  have length := punctual.stamped.length_eq
  rcases outcome with ⟨e, rfl, same⟩ | ⟨batch, rfl, more, filled, stamped⟩
  · -- The run ends here, so this is the one cycle that may be without a batch.
    change l'.batches = m.batches at same
    refine ⟨⟨multiples, spaced, ?_, ?_⟩, nofun⟩
    · rw [times, same, ← length, List.take_left' rfl]
      exact punctual.stamped
    · rw [times, same, ← length, List.length_append]
      exact le_refl _
  · have positive : 0 < period := punctual.config ▸ m.config.period_pos
    have whole : Punctual period l' := by
      refine ⟨config ▸ punctual.config, fun b' same => ?_, multiples, spaced, fun t member => ?_, ?_⟩
      · rw [last] at same
        exact Option.some.inj same ▸ multiple
      · refine ⟨b, last, ?_⟩
        rw [times, List.mem_append, List.mem_singleton] at member
        rcases member with old | rfl
        · have := beyond t old
          omega
        · exact le_refl _
      · rw [times, more]
        exact List.rel_append punctual.stamped (.cons ⟨filled, stamped⟩ .nil)
    exact ⟨whole.onSchedule, fun _ => whole⟩

/-- A pass without a reload keeps the schedule, and unless it fails it leaves no cycle without its
batch. -/
theorem waitAndCycle_punctual (around : Surroundings) (period : Int) :
    Maintains (fun l _ => Punctual period l) (fun _ l _ => OnSchedule period l)
      (waitAndCycle around) := by
  intro l h punctual
  rcases ran : (waitAndCycle around).run l h with ⟨r, l', h'⟩
  rcases waitAndCycle_cases ran with same | ⟨b, m, k, x, p, q, found, same, produced, later, works⟩
  · have kept := punctual.of_same same
    cases r with
    | error e => exact kept.onSchedule
    | ok _ => exact kept
  · rw [punctual.config] at found
    have before := punctual.of_same same
    have beyond : ∀ t ∈ m.cycleTimes, t + period ≤ b :=
      same.cycleTimes ▸ punctual.beyond found
    have multiple := (nextBoundary_ok found).2.2 punctual.boundary
    obtain ⟨on, whole⟩ := produce_punctual before multiple beyond produced
    cases r with
    | error e => exact on.of_same later
    | ok _ => exact (whole (works rfl)).of_same later

/-! ### Whole runs -/

theorem steps_punctual (around : Surroundings) (period : Int) (fuel : Nat) :
    Maintains (fun l _ => Punctual period l) (fun _ l _ => OnSchedule period l)
      (steps around fuel) := by
  have other {o : Operation} := @punctual_perform around period o
  refine steps_maintains_of_step (other (o := .interlude) (by simp) (by simp)) ?_ fuel
  refine step_maintains_of_parts ?_ ?_ (waitAndCycle_punctual around period)
  · exact maintains_of_discard (other (o := .takeReload) (by simp) (by simp))
  · exact other (o := .reload) (by simp) (by simp)

theorem work_punctual (around : Surroundings) (period : Int) (fuel : Nat) :
    Maintains (fun l _ => Punctual period l) (fun _ l _ => OnSchedule period l)
      (work around fuel) := by
  have other {o : Operation} := @punctual_perform around period o
  refine maintains_bind (steps_punctual around period fuel) (ending_maintains ?_ ?_ ?_)
  · intro state
    exact other (o := .enter state) (by simp) (by simp)
  · intro level text
    exact other (o := .note level text) (by simp) (by simp)
  · exact other (o := .save true) (by simp) (by simp)

theorem punctual_newLoop (config : DaemonConfig) (pid : Int) (requests : List ControlRequest) :
    Punctual config.period ((Service.newLoop config pid).receive requests) := by
  have times : (Service.newLoop config pid).cycleTimes = [] := rfl
  have batches : (Service.newLoop config pid).batches = [] := rfl
  have start : Punctual config.period (Service.newLoop config pid) := by
    refine ⟨rfl, nofun, ?_, ?_, ?_, ?_⟩ <;> simp [times, batches]
  exact start.of_same (.receive requests _)

theorem punctual_of_openStore {r : Except LoopError Bool} (before : Punctual period l)
    (opened : openStore.run l h = (r, l', h')) : Punctual period l' := by
  rcases openStore_cases opened with ⟨e, -, -, rfl⟩ | ⟨s, k, -, -, -, rfl⟩
  · exact before.of_same (.of_event rfl rfl rfl rfl rfl)
  · exact before.of_same (.of_event rfl rfl rfl rfl rfl)

theorem ComesTo.punctual {start : ControlLoop} {h₀ : Host} {n : Nat} {reloads : Bool}
    (comes : ComesTo around start h₀ n reloads l h) (before : Punctual period start) :
    Punctual period l := by
  have other {o : Operation} := @punctual_perform around period o
  refine comes.of_maintains (P := fun l _ => Punctual period l) (fun opened => ?_)
    (steps_punctual around period n) ?_ ?_
  · exact punctual_of_openStore before opened
  · exact other (o := .interlude) (by simp) (by simp)
  · exact maintains_of_discard (other (o := .takeReload) (by simp) (by simp))

theorem run_onSchedule {start : ControlLoop} {fuel : Nat} {r : Except LoopError (Option Nat)}
    (before : Punctual period start) (ran : (run around fuel).run start h = (r, l', h')) :
    OnSchedule period l' := by
  rcases run_cases ran with ⟨e, -, rfl⟩ | ⟨k, -, ⟨closed, -⟩ | ⟨m, j, opened, passed⟩⟩
  · exact before.onSchedule
  · exact (punctual_of_openStore before closed).onSchedule
  · have working := work_punctual around period fuel m j (punctual_of_openStore before opened)
    rcases onStoreError_cases passed with whole | ⟨e, p, q, broken, -, rfl, -⟩
    · rw [whole] at working
      cases r with
      | error e => exact working
      | ok status => exact working.onSchedule
    · rw [broken] at working
      exact working.of_same (.of_fields rfl rfl rfl)

theorem exists_time_of_batch {ts : List Int} {bs : List (List CheckRecord)}
    (stamped : List.Forall₂ Stamped ts bs) {b : List CheckRecord} (member : b ∈ bs) :
    ∃ t ∈ ts, Stamped t b := by
  induction stamped with
  | nil => cases member
  | @cons t c ts bs first rest ih =>
    rcases List.mem_cons.mp member with rfl | later
    · exact ⟨t, by simp, first⟩
    · obtain ⟨s, among, its⟩ := ih later
      exact ⟨s, List.mem_cons_of_mem _ among, its⟩

/-- Batches that belong to cycles in this order are in the order of time. -/
theorem OnSchedule.batches_spaced (on : OnSchedule period l) :
    l.batches.Pairwise fun b c => ∀ r ∈ b, ∀ s ∈ c, r.timestamp + period ≤ s.timestamp := by
  have times := on.spaced.sublist (List.take_sublist l.batches.length l.cycleTimes)
  have stamped := on.stamped
  generalize l.cycleTimes.take l.batches.length = ts at times stamped
  generalize l.batches = bs at stamped ⊢
  induction stamped with
  | nil => exact .nil
  | @cons t b ts bs first rest ih =>
    rw [List.pairwise_cons] at times ⊢
    refine ⟨fun c later r hr s hs => ?_, ih times.2⟩
    obtain ⟨u, among, its⟩ := exists_time_of_batch rest later
    rw [first.2 r hr, its.2 s hs]
    exact times.1 u among

/-- Whatever the clock and the signals do, the cycles of a run are on schedule. -/
theorem cycles_on_schedule (around : Surroundings) (config : DaemonConfig) (pid : Int)
    (requests : List ControlRequest) (h₀ : Host) (small : config.period < 2 ^ 53) :
    (∀ n l h v,
      ComesTo around ((Service.newLoop config pid).receive requests) h₀ n false l h →
      h.clock.IsReading v →
      ∃ b, nextBoundary config.period l.lastBoundary h.clock = .ok b ∧ v < b ∧ config.period ∣ b ∧
        (∀ t ∈ l.cycleTimes, t + config.period ≤ b) ∧
        ∀ r l' h', (waitAndCycle around).run l h = (r, l', h') →
          l'.cycleTimes = l.cycleTimes ∨ l'.cycleTimes = l.cycleTimes ++ [b]) ∧
    ∀ fuel r l h',
      (run around fuel).run ((Service.newLoop config pid).receive requests) h₀ = (r, l, h') →
      OnSchedule config.period l ∧
        l.batches.Pairwise fun b c => ∀ r ∈ b, ∀ s ∈ c, r.timestamp + config.period ≤ s.timestamp := by
  have start := punctual_newLoop config pid requests
  refine ⟨fun n l h v comes reading => ?_, fun fuel r l h' ran => ?_⟩
  · have punctual := comes.punctual start
    obtain ⟨b, found, ahead⟩ := exists_nextBoundary reading config.period_pos small l.lastBoundary
    have multiple := (nextBoundary_ok found).2.2 punctual.boundary
    refine ⟨b, found, ahead, multiple, punctual.beyond found, fun r l' h' ran => ?_⟩
    rcases waitAndCycle_cases ran with same | ⟨b', m, k, x, p, q, found', same, produced, later, -⟩
    · exact .inl same.cycleTimes
    · rw [punctual.config, found] at found'
      cases found'
      obtain ⟨-, -, times, -⟩ := produce_cases produced
      refine .inr (later.cycleTimes.trans ?_)
      rw [times, ← same.cycleTimes]
      rfl
  · have on := run_onSchedule start ran
    exact ⟨on, on.batches_spaced⟩

/-- The clock jumps ahead in the first wait, falls back in the second one and then stands still; a
stop is requested in the fourth one. -/
def unsteady : Surroundings :=
  { silence with
    duringWait := fun number _ => do
      match number with
      | 0 => do
        Action.setClock (.whole 1000)
        return []
      | 1 => do
        Action.setClock (.float (.finite (21 / 2)))
        return []
      | 2 => return []
      | _ => return [.stop] }

theorem cycles_on_schedule_unsteady :
    (∃ l h b, ComesTo unsteady ((Service.newLoop sampleConfig 1).receive []) {} 2 false l h ∧
      h.clock = .float (.finite (21 / 2)) ∧ l.cycleTimes = [60, 1020] ∧
      nextBoundary 60 l.lastBoundary h.clock = .ok b ∧ (21 / 2 : Rat) < b) ∧
    ∃ l h', (run unsteady 5).run ((Service.newLoop sampleConfig 1).receive []) {} =
        (.ok (some 0), l, h') ∧ l.cycleTimes = [60, 1020, 1080] ∧ OnSchedule 60 l := by
  let start := (Service.newLoop sampleConfig 1).receive []
  obtain ⟨waits, runs⟩ := cycles_on_schedule unsteady sampleConfig 1 [] {} (by decide)
  constructor
  · let arrived := (untilPass unsteady 2).run start {}
    have comes : ComesTo unsteady start {} 2 false arrived.2.1 arrived.2.2 :=
      Prod.ext (by decide +kernel) rfl
    have clock : arrived.2.2.clock = .float (.finite (21 / 2)) := by decide +kernel
    have times : arrived.2.1.cycleTimes = [60, 1020] := by decide +kernel
    have reading : arrived.2.2.clock.IsReading (21 / 2) := by
      rw [clock]
      exact .float rfl (by norm_num [abs_lt])
    obtain ⟨b, found, ahead, -⟩ := waits 2 _ _ _ comes reading
    exact ⟨_, _, b, comes, clock, times, found, ahead⟩
  · have ended : ((run unsteady 5).run start {}).1 = .ok (some 0) := by decide +kernel
    have times : ((run unsteady 5).run start {}).2.1.cycleTimes = [60, 1020, 1080] := by
      decide +kernel
    exact ⟨_, _, Prod.ext ended rfl, times, (runs 5 _ _ _ rfl).1⟩

end ControlLoop
end LinkMonitor
