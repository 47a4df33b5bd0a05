import LinkMonitor.Proofs.Daemon.Account

/-!
# Where the records of the store come from

The events of a loop tell which records were last read from the file or written to it, and which
batches have come since the last save. Between any two steps the store has the former, followed by
the latter.
-/

namespace LinkMonitor

structure Ledger where
  /-- The records that were last read or written. -/
  base : List CheckRecord := []
  /-- The batches since the last save that worked, the first one first. -/
  batches : List (List CheckRecord) := []

namespace Ledger

def next (g : Ledger) : LoopEvent → Ledger
  | .opened (.ok records) | .reload (.ok records) => { g with base := records }
  | .batch records => { g with batches := g.batches ++ [records] }
  | .save _ (.ok records) => ⟨records, []⟩
  | _ => g

theorem next_of_isQuiet (g : Ledger) {e : LoopEvent} (h : e.isQuiet = true) : g.next e = g := by
  cases e <;> first | rfl | cases h

theorem foldl_next_of_isQuiet (g : Ledger) {es : List LoopEvent}
    (h : ∀ e ∈ es, e.isQuiet = true) : es.foldl next g = g := by
  refine List.foldlRecOn es next (motive := fun later => later = g) rfl fun later same e member => ?_
  rw [next_of_isQuiet later (h e member), same]

/-- The batches are among the events. -/
theorem batch_mem_of_foldl_next {g : Ledger} {es : List LoopEvent} {b : List CheckRecord}
    (member : b ∈ (es.foldl next g).batches) : b ∈ g.batches ∨ .batch b ∈ es := by
  induction es generalizing g with
  | nil => exact .inl member
  | cons e es ih =>
    rcases ih member with old | later
    · cases e with
      | batch records =>
        rcases List.mem_append.mp old with old | new
        · exact .inl old
        · exact .inr (List.mem_singleton.mp new ▸ List.mem_cons_self)
      | save isLast outcome =>
        cases outcome with
        | ok records => cases old
        | error e => exact .inl old
      | opened outcome => cases outcome <;> exact .inl old
      | reload outcome => cases outcome <;> exact .inl old
      | _ => exact .inl old
    · exact .inr (List.mem_cons_of_mem e later)

end Ledger

namespace ControlLoop

def ledger (l : ControlLoop) : Ledger := l.events.foldl Ledger.next {}

theorem ledger_of_append {l l' : ControlLoop} {e : LoopEvent} (h : l'.events = l.events ++ [e]) :
    l'.ledger = l.ledger.next e := by
  rw [ledger, h, List.foldl_append]
  rfl

theorem Quiet.ledger {l l' : ControlLoop} (h : Quiet l l') : l'.ledger = l.ledger := by
  obtain ⟨es, quiet, events⟩ := h.events
  rw [ControlLoop.ledger, events, List.foldl_append]
  exact Ledger.foldl_next_of_isQuiet _ quiet

/-- The store has what was last read or written, and then the unsaved records, which are those of the
batches since the last save. -/
def Balanced (l : ControlLoop) : Prop :=
  ∃ s, l.store = some s ∧ s.records = l.ledger.base ++ l.unsaved ∧
    l.unsaved = l.ledger.batches.flatten

variable {around : Surroundings} {config : DaemonConfig}

theorem Balanced.of_quiet {l l' : ControlLoop} (h : Balanced l) (calm : Quiet l l') :
    Balanced l' := by
  obtain ⟨s, store, records, unsaved⟩ := h
  refine ⟨s, calm.store.trans store, ?_, ?_⟩
  · rw [calm.ledger, calm.unsaved, records]
  · rw [calm.ledger, calm.unsaved, unsaved]

theorem Balanced.of_effect {o : Operation} {l l' : ControlLoop} {h h' : Host}
    {r : Except LoopError Unit} (balanced : Balanced l) (effect : Effect around l h o r l' h') :
    Balanced l' := by
  cases effect with
  | quiet idle calm others => exact balanced.of_quiet calm
  | @appended _ m _ _ _ batch checked begun calm others =>
    obtain ⟨s, store, records, unsaved⟩ := balanced.of_quiet calm
    have ledger : (appendBatch batch m).ledger = m.ledger.next (.batch batch) :=
      ledger_of_append rfl
    refine ⟨s.append batch, ?_, ?_, ?_⟩
    · rw [appendBatch, store]
      rfl
    · rw [ledger]
      simp [Store.append, records, Ledger.next, appendBatch]
    · rw [ledger]
      simp [Ledger.next, appendBatch, unsaved]
  | @saved _ s _ ran =>
    refine ⟨s, rfl, ?_, ?_⟩
    · rw [ledger_of_append rfl]
      simp [Ledger.next]
    · rw [ledger_of_append rfl]
      rfl
  | notSaved retrySave ran files outcome =>
    obtain ⟨s, store, records, unsaved⟩ := balanced
    refine ⟨s, store, ?_, ?_⟩
    · rw [ledger_of_append rfl]
      exact records
    · rw [ledger_of_append rfl]
      exact unsaved
  | @reloaded fresh _ loaded files =>
    obtain ⟨s, store, records, unsaved⟩ := balanced
    refine ⟨fresh.append l.unsaved, rfl, ?_, ?_⟩
    · rw [ledger_of_append rfl]
      rfl
    · rw [ledger_of_append rfl]
      exact unsaved
  | notReloaded state loaded files outcome =>
    obtain ⟨s, store, records, unsaved⟩ := balanced
    refine ⟨s, store, ?_, ?_⟩
    · rw [ledger_of_append rfl]
      exact records
    · rw [ledger_of_append rfl]
      exact unsaved

/-! ### Loops that a run can reach -/

/-- The loops between two steps: the store of a new loop has been opened, and operations have been
performed since, in any order, on any hosts, and with any result. -/
inductive Reached (around : Surroundings) (config : DaemonConfig) : ControlLoop → Prop
  | opened {pid : Int} {requests : List ControlRequest} {l : ControlLoop} {h h' : Host}
      (ran : openStore.run ((Service.newLoop config pid).receive requests) h = (.ok true, l, h')) :
      Reached around config l
  | performed {l l' : ControlLoop} {h h' : Host} {r : Except LoopError Unit} (o : Operation)
      (before : Reached around config l) (ran : (o.perform around).run l h = (r, l', h')) :
      Reached around config l'

/-- A new loop has no records, and the events before the store is opened do not change that. -/
theorem ledger_newLoop (config : DaemonConfig) (pid : Int) (requests : List ControlRequest) :
    ((Service.newLoop config pid).receive requests).ledger = {} :=
  (Quiet.receive requests (Service.newLoop config pid)).ledger

/-- The opening of a new loop: its store is what the file gave. -/
theorem newLoop_opened {pid : Int} {requests : List ControlRequest} {l : ControlLoop} {h h' : Host}
    (ran : openStore.run ((Service.newLoop config pid).receive requests) h = (.ok true, l, h')) :
    ∃ s k, (Store.loadOrCreate config.storePath).run h = (.ok s, k) ∧ l.store = some s ∧
      l.unsaved = [] ∧ l.ledger = ⟨s.records, []⟩ := by
  rcases openStore_cases ran with ⟨e, failed, -, -⟩ | ⟨s, k, -, found, -, rfl⟩
  · cases failed
  · refine ⟨s, k, found, rfl, rfl, ?_⟩
    rw [ledger_of_append rfl, ledger_newLoop]
    rfl

theorem balanced_of_openStore {pid : Int} {requests : List ControlRequest} {l : ControlLoop}
    {h h' : Host}
    (ran : openStore.run ((Service.newLoop config pid).receive requests) h = (.ok true, l, h')) :
    Balanced l := by
  obtain ⟨s, k, -, store, unsaved, ledger⟩ := newLoop_opened ran
  refine ⟨s, store, ?_, ?_⟩
  · rw [ledger, unsaved, List.append_nil]
  · rw [ledger, unsaved, List.flatten_nil]

theorem Reached.balanced {l : ControlLoop} (h : Reached around config l) : Balanced l := by
  induction h with
  | opened ran => exact balanced_of_openStore ran
  | performed o before ran ih => exact ih.of_effect (perform_effect ran)

theorem Reached.accounted {l : ControlLoop} (h : Reached around config l) :
    Accounted around config l := by
  induction h with
  | opened ran => exact (accounted_newLoop around config _ _).of_openStore ran
  | performed o before ran ih => exact ih.of_effect (perform_effect ran)

theorem passes_reached {l l' : ControlLoop} {h h' : Host} {r : Except LoopError (Option Nat)}
    {fuel : Nat} (reached : Reached around config l)
    (ran : (passes around fuel).run l h = (r, l', h')) : Reached around config l' :=
  passes_keeps (fun o _ _ _ _ _ before ran => before.performed o ran) reached ran

theorem run_reached (config : DaemonConfig) (pid : Int) (requests : List ControlRequest)
    {fuel : Nat} {l : ControlLoop} {h h' : Host} {r : Except LoopError (Option Nat)}
    (ran : (run around fuel).run ((Service.newLoop config pid).receive requests) h = (r, l, h')) :
    l.store = none ∨ Reached around config l := by
  rcases run_cases ran with ⟨e, -, rfl⟩ | ⟨k, -, ⟨closed, -⟩ | ⟨m, j, opened, passed⟩⟩
  · exact .inl rfl
  · rcases openStore_cases closed with ⟨e, -, -, rfl⟩ | ⟨s, i, worked, -⟩
    · exact .inl rfl
    · cases worked
  · exact .inr (passes_reached (.opened opened) passed)

/-! ### What an operation does to the records -/

/-- The store is the same, and so are the unsaved records and the ledger. -/
structure SameRecords (l l' : ControlLoop) : Prop where
  store : l'.store = l.store
  unsaved : l'.unsaved = l.unsaved
  ledger : l'.ledger = l.ledger

theorem Quiet.sameRecords {l l' : ControlLoop} (calm : Quiet l l') : SameRecords l l' :=
  ⟨calm.store, calm.unsaved, calm.ledger⟩

/-- What the operations do when the store is `s`. -/
structure KeepsRecords (around : Surroundings) (l : ControlLoop) (s : Store) : Prop where
  /-- A cycle puts all that its checks gave behind the store and the unsaved records, or it fails. -/
  produce : ∀ timestamp h r l' h', (produce around timestamp).run l h = (r, l', h') →
    match (Cycle.run l.config (around.transport (l.cycles + 1)) timestamp).run h with
    | (.error e, _) => r = .error (.cycle e) ∧ SameRecords l l'
    | (.ok batch, k) =>
      match ((around.afterChecks (l.cycles + 1)).run k).1 with
      | .error e => r = .error e ∧ SameRecords l l'
      | .ok _ => r = .ok () ∧ (∃ s', l'.store = some s' ∧ s'.records = s.records ++ batch) ∧
        l'.unsaved = l.unsaved ++ batch ∧
        l'.ledger = ⟨l.ledger.base, l.ledger.batches ++ [batch]⟩
  /-- A save changes no record. If it works then nothing is unsaved. -/
  save : ∀ isLast h r l' h', (save isLast).run l h = (r, l', h') →
    ∃ s', l'.store = some s' ∧ s'.records = s.records ∧
      match (s.save.run h).1 with
      | .ok _ => l'.ledger = ⟨s.records, []⟩ ∧ l'.unsaved = []
      | .error _ => l'.ledger = l.ledger ∧ l'.unsaved = l.unsaved
  /-- A reload that works puts all unsaved records behind what it has read. -/
  reload : ∀ h r l' h', reload.run l h = (r, l', h') → l'.unsaved = l.unsaved ∧
    ∃ s', l'.store = some s' ∧
      match ((Store.load l.config.storePath).run h).1 with
      | .ok fresh => r = .ok () ∧ s'.records = fresh.records ++ l.unsaved ∧
        l'.ledger = ⟨fresh.records, l.ledger.batches⟩
      | .error _ => s' = s ∧ l'.ledger = l.ledger
  others : ∀ (o : Operation) h r l' h', o.isFiling = false → (∀ timestamp, o ≠ .produce timestamp) →
    (o.perform around).run l h = (r, l', h') → SameRecords l l'

theorem keepsRecords_of_store {l : ControlLoop} {s : Store} (store : l.store = some s) :
    KeepsRecords around l s where
  produce timestamp h r l' h' ran := by
    have begun := Quiet.beginCycle timestamp l
    cases produce_produced ran with
    | unchecked checked =>
      rw [checked]
      exact ⟨rfl, begun.sameRecords⟩
    | broken checked heard =>
      rw [checked]
      dsimp only
      rw [heard]
      exact ⟨rfl, begun.sameRecords⟩
    | @appended batch rs _ _ checked heard =>
      have asked := begun.trans (.receive rs _)
      rw [checked]
      dsimp only
      rw [heard]
      refine ⟨rfl, ⟨s.append batch, ?_, rfl⟩, ?_, ?_⟩
      · rw [appendBatch, asked.store, store]
        rfl
      · rw [appendBatch, asked.unsaved]
      · rw [ledger_of_append rfl, asked.ledger]
        rfl
  save isLast h r l' h' ran := by
    cases save_effect around ran with
    | quiet idle => cases idle
    | @saved _ s' _ saving =>
      rw [store, Option.getD_some] at saving
      obtain ⟨-, -, same, -⟩ := Store.save_ok l.config.storePath saving
      rw [saving]
      refine ⟨_, rfl, same, ?_, rfl⟩
      rw [ledger_of_append rfl, ← same]
      rfl
    | notSaved retrySave saving files outcome =>
      rw [store, Option.getD_some] at saving
      rw [saving]
      refine ⟨s, store, rfl, ?_, rfl⟩
      rw [ledger_of_append rfl]
      rfl
  reload h r l' h' ran := by
    cases reload_effect around ran with
    | quiet idle => cases idle
    | reloaded loaded files =>
      rw [loaded]
      refine ⟨rfl, _, rfl, rfl, rfl, ?_⟩
      rw [ledger_of_append rfl]
      rfl
    | notReloaded state loaded files outcome =>
      rw [loaded]
      refine ⟨rfl, s, store, rfl, ?_⟩
      rw [ledger_of_append rfl]
      rfl
  others o h r l' h' idle noCycle ran := by
    cases perform_effect ran with
    | quiet _ calm => exact calm.sameRecords
    | @appended timestamp => exact absurd rfl (noCycle timestamp)
    | saved => cases idle
    | notSaved => cases idle
    | reloaded => cases idle
    | notReloaded => cases idle

/-- Between any two steps the store has the records that were last read or written, then those of
every batch since the last save, once each, and each batch is all that a cycle gave. The store is opened
with what the file gives. A cycle appends its batch, a save does not change the records, and a reload puts
all unsaved ones behind what it has read. Every run goes through such loops only. -/
theorem store_eq_base_append_batches (around : Surroundings) (config : DaemonConfig) :
    (∀ pid requests h l h',
      openStore.run ((Service.newLoop config pid).receive requests) h = (.ok true, l, h') →
      Reached around config l ∧ ∃ s k, (Store.loadOrCreate config.storePath).run h = (.ok s, k) ∧
        l.store = some s ∧ l.unsaved = [] ∧ l.ledger = ⟨s.records, []⟩) ∧
    (∀ l, Reached around config l → l.config = config ∧ ∃ s, l.store = some s ∧
      s.records = l.ledger.base ++ l.unsaved ∧ l.unsaved = l.ledger.batches.flatten ∧
      (∀ b ∈ l.ledger.batches, ∃ number timestamp,
        Cycle.Gives config (around.transport number) timestamp b) ∧
      KeepsRecords around l s) ∧
    ∀ pid requests fuel h r l h',
      (run around fuel).run ((Service.newLoop config pid).receive requests) h = (r, l, h') →
        l.store = none ∨ Reached around config l := by
  refine ⟨fun pid requests h l h' ran => ⟨.opened ran, newLoop_opened ran⟩, fun l reached => ?_,
    fun pid requests fuel h r l h' => run_reached config pid requests⟩
  obtain ⟨config_eq, -, told⟩ := reached.accounted
  obtain ⟨s, store, records, unsaved⟩ := reached.balanced
  refine ⟨config_eq, s, store, records, unsaved, fun b member => ?_, keepsRecords_of_store store⟩
  rcases Ledger.batch_mem_of_foldl_next member with none | noted
  · cases none
  · exact told.gives noted

/-! ### A loop with an unsaved batch -/

/-- No probe comes back, and nothing else happens. -/
def silence : Surroundings where
  duringWait _ _ := pure []
  transport _ _ := .pending
  afterChecks _ := pure []

/-- All four checks have run out of time in the first cycle. -/
theorem store_eq_base_append_batches_silence :
    ∃ l s, Reached silence Cycle.everyCheck l ∧ l.store = some s ∧
      l.unsaved = Cycle.everyCheck.enabled.map (Cycle.timeoutRecord Cycle.everyCheck 60) ∧
      s.records = l.ledger.base ++ l.unsaved ∧ l.ledger.base = [] := by
  have worked : (openStore.run ((Service.newLoop Cycle.everyCheck 1).receive []) {}).1 = .ok true := by
    decide +kernel
  have fresh : (openStore.run ((Service.newLoop Cycle.everyCheck 1).receive []) {}).2.1.cycles = 0 ∧
      (openStore.run ((Service.newLoop Cycle.everyCheck 1).receive []) {}).2.1.ledger.base = [] := by
    decide +kernel
  have checked : ((Cycle.run Cycle.everyCheck (silence.transport 1) 60).run
      (openStore.run ((Service.newLoop Cycle.everyCheck 1).receive []) {}).2.2).1 =
      .ok (Cycle.everyCheck.enabled.map (Cycle.timeoutRecord Cycle.everyCheck 60)) := by
    decide +kernel
  generalize ran : openStore.run ((Service.newLoop Cycle.everyCheck 1).receive []) {} = result
    at worked fresh checked
  obtain ⟨r, m, k⟩ := result
  obtain rfl : r = .ok true := worked
  obtain ⟨first, empty⟩ := fresh
  obtain ⟨opening, between, -⟩ := store_eq_base_append_batches silence Cycle.everyCheck
  obtain ⟨reached, -, -, -, -, unsaved, -⟩ := opening 1 [] {} m k ran
  obtain ⟨config_eq, s, store, records, -, -, keeps⟩ := between m reached
  rcases cycled : (produce silence 60).run m k with ⟨r, l, h⟩
  have produced := keeps.produce 60 k r l h cycled
  rw [config_eq, show m.cycles = 0 from first] at produced
  rcases gave : (Cycle.run Cycle.everyCheck (silence.transport 1) 60).run k with ⟨x, j⟩
  rw [gave] at checked produced
  obtain rfl : x = .ok _ := checked
  obtain ⟨-, ⟨s', store', records'⟩, unsaved', ledger⟩ := produced
  refine ⟨l, s', reached.performed (.produce 60) cycled, store', ?_, ?_, ?_⟩
  · rw [unsaved', unsaved, List.nil_append]
  · rw [records', ledger, unsaved', records, List.append_assoc]
  · rw [ledger]
    exact empty

end ControlLoop
end LinkMonitor
