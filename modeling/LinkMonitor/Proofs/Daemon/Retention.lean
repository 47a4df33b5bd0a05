import LinkMonitor.Proofs.Daemon.Account
import Mathlib.Data.List.Induction

/-!
# Batches stay in the store

A batch that has been appended stays in the store until the file is read again.
-/

namespace LinkMonitor.ControlLoop

variable {around : Surroundings} {l l' start : ControlLoop} {h h' h₀ : Host}

/-- The batches since the last attempt to read the file again. -/
def recentBatches (es : List LoopEvent) : List (List CheckRecord) :=
  es.foldl (fun bs e => if e.isReload then [] else bs ++ e.batch?.toList) []

theorem recentBatches_snoc (es : List LoopEvent) (e : LoopEvent) : recentBatches (es ++ [e]) =
    if e.isReload then [] else recentBatches es ++ e.batch?.toList :=
  List.foldl_append

/-- Events that bring no batch do not add one. -/
theorem recentBatches_subset {es fs : List LoopEvent} (others : ∀ e ∈ fs, e.batch? = none) :
    recentBatches (es ++ fs) ⊆ recentBatches es := by
  induction fs using List.reverseRecOn with
  | nil =>
    rw [List.append_nil]
    exact List.Subset.refl _
  | append_singleton fs e ih =>
    rw [List.forall_mem_append] at others
    rw [← List.append_assoc, recentBatches_snoc]
    split
    · exact List.nil_subset _
    · rw [others.2 e (List.mem_singleton_self e), Option.toList_none, List.append_nil]
      exact ih others.1

theorem mem_recentBatches {past rest : List LoopEvent} {b : List CheckRecord}
    (none : ∀ e ∈ rest, e.isReload = false) : b ∈ recentBatches (past ++ .batch b :: rest) := by
  induction rest using List.reverseRecOn with
  | nil =>
    rw [recentBatches_snoc]
    exact List.mem_append_right _ (List.mem_singleton_self b)
  | append_singleton rest e ih =>
    rw [List.forall_mem_append] at none
    rw [← List.cons_append, ← List.append_assoc, recentBatches_snoc,
      none.2 e (List.mem_singleton_self e)]
    exact List.mem_append_left _ (ih none.1)

/-- The store has every batch since the last attempt to read the file again. -/
def KeepsBatches (l : ControlLoop) : Prop :=
  ∃ s, l.store = some s ∧ ∀ b ∈ recentBatches l.events, b <:+: s.records

theorem KeepsBatches.of_others {es : List LoopEvent} (keeps : KeepsBatches l)
    (events : l'.events = l.events ++ es) (others : ∀ e ∈ es, e.batch? = none)
    (records : l'.store.map Store.records = l.store.map Store.records) : KeepsBatches l' := by
  obtain ⟨s, store, kept⟩ := keeps
  rw [store] at records
  obtain ⟨t, after, same⟩ := Option.map_eq_some_iff.mp records
  refine ⟨t, after, fun b recent => ?_⟩
  rw [events] at recent
  rw [same]
  exact kept b (recentBatches_subset others recent)

theorem KeepsBatches.of_reload {s : Store} {x : Except StoreError (List CheckRecord)}
    (events : l'.events = l.events ++ [.reload x]) (store : l'.store = some s) :
    KeepsBatches l' := by
  refine ⟨s, store, fun b recent => ?_⟩
  rw [events, recentBatches_snoc] at recent
  cases recent

theorem KeepsBatches.of_effect {o : Operation} {r : Except LoopError Unit}
    (keeps : KeepsBatches l) (effect : Effect around l h o r l' h') : KeepsBatches l' := by
  have calm {m : ControlLoop} (quiet : Quiet l m) : KeepsBatches m := by
    obtain ⟨es, calm, events⟩ := quiet.events
    refine keeps.of_others events (fun e member => ?_) (by rw [quiet.store])
    exact LoopEvent.batch?_of_isQuiet (calm e member)
  cases effect with
  | quiet idle quiet others => exact calm quiet
  | appended batch checked begun quiet others =>
    obtain ⟨s, store, kept⟩ := calm quiet
    refine ⟨s.append batch, by rw [appendBatch, store]; rfl, fun b recent => ?_⟩
    rw [appendBatch, recentBatches_snoc] at recent
    rcases List.mem_append.mp recent with old | new
    · exact (kept b old).trans (List.prefix_append _ _).isInfix
    · rw [List.mem_singleton.mp new]
      exact (List.suffix_append _ _).isInfix
  | saved ran =>
    refine keeps.of_others rfl (by simp [LoopEvent.batch?]) ?_
    obtain ⟨s, store, -⟩ := keeps
    rw [store, Option.getD_some] at ran
    obtain ⟨-, -, same, -⟩ := Store.save_ok l.config.storePath ran
    simp [store, same]
  | notSaved => exact keeps.of_others rfl (by simp [LoopEvent.batch?]) rfl
  | reloaded => exact .of_reload rfl rfl
  | notReloaded =>
    obtain ⟨s, store, -⟩ := keeps
    exact .of_reload rfl store

/-- At the end of a run the store has every batch since the last attempt to read the file again. -/
theorem run_keepsBatches {fuel : Nat} {r : Except LoopError (Option Nat)}
    (fresh : recentBatches start.events = [])
    (ran : (run around fuel).run start h₀ = (r, l, h)) :
    ∀ b ∈ recentBatches l.events, ∃ s, l.store = some s ∧ b <:+: s.records := by
  have opened (x : Except StoreError (List CheckRecord)) :
      recentBatches (start.events ++ [.opened x]) = [] := by
    rw [recentBatches_snoc, fresh]
    rfl
  rcases run_cases ran with ⟨e, -, rfl⟩ | ⟨k, -, ⟨closed, -⟩ | ⟨m, j, opening, passed⟩⟩
  · simp [fresh]
  · rcases openStore_cases closed with ⟨e, -, -, rfl⟩ | ⟨s, i, impossible, -⟩
    · simp [opened]
    · cases impossible
  · rcases openStore_cases opening with ⟨e, impossible, -, -⟩ | ⟨s, i, -, -, -, rfl⟩
    · cases impossible
    · obtain ⟨t, store, kept⟩ : KeepsBatches l :=
        passes_keeps (fun o _ _ _ _ _ before ran => before.of_effect (perform_effect ran))
          ⟨s, rfl, by simp [opened]⟩ passed
      exact fun b recent => ⟨t, store, kept b recent⟩

theorem recentBatches_newLoop (config : DaemonConfig) (pid : Int) (requests : List ControlRequest) :
    recentBatches ((Service.newLoop config pid).receive requests).events = [] := by
  have others : ∀ e ∈ requests.map LoopEvent.requested, e.batch? = none := by
    intro e member
    obtain ⟨r, -, rfl⟩ := List.mem_map.mp member
    rfl
  exact List.subset_nil.mp (recentBatches_subset others)

end LinkMonitor.ControlLoop
