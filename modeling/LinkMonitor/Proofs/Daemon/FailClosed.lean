import LinkMonitor.Proofs.Daemon.Ledger
import LinkMonitor.Proofs.Daemon.Pass
import LinkMonitor.Proofs.Store.Open

/-!
# Files that cannot be understood

A file that has content but holds no store ends the run, whether the loop comes upon it when it opens
its store or at a reload. Nothing is written any more, so the file stays for inspection. A reload that
cannot read the file changes nothing, and the run goes on.
-/

namespace LinkMonitor.ControlLoop

open Step

variable {around : Surroundings} {l l' m p start : ControlLoop} {h h' h₀ j q : Host} {n fuel : Nat}

/-! ### Every reload is come to -/

/-- A reload of a run is come to by a pass. -/
theorem comesTo_of_event {fuel : Nat} {r : Except LoopError (Option Nat)}
    {x : Except StoreError (List CheckRecord)}
    (ran : (run around fuel).run start h₀ = (r, l', h')) (member : .reload x ∈ l'.events) :
    .reload x ∈ start.events ∨
      ∃ n l h, n < fuel ∧ ComesTo around start h₀ n true l h ∧ x = reloadOutcome l h := by
  obtain ⟨past, rest, split⟩ := List.append_of_mem member
  have whole : past ++ [.reload x] <+: l'.events := ⟨rest, by rw [split, List.append_assoc]; rfl⟩
  rcases within_or_concat_within (run_extends ran) whole with before | old
  · obtain ⟨n, reloads, l, h, less, comes, r', i, k, passed, old, new⟩ :=
      run_adds ran before rfl whole
    refine .inr ⟨n, l, h, less, ?_⟩
    cases reloads with
    | true =>
      rw [if_pos rfl] at passed
      rw [reload_events around passed] at new
      have same := List.mem_singleton.mp (mem_of_concat_within old new)
      exact ⟨comes, LoopEvent.reload.inj same⟩
    | false =>
      rw [if_neg Bool.false_ne_true] at passed
      obtain ⟨es, events, none⟩ := waitAndCycle_events passed
      rw [events] at new
      cases none _ (mem_of_concat_within old new)
  · exact .inl (old.subset (List.mem_append_right _ (List.mem_singleton_self _)))

/-! ### The end of the run -/

/-- A file that has content but holds no store is fatal when the loop opens its store. -/
theorem run_of_invalid_open {bytes : List UInt8} (started : around.onStart.run h₀ = (.ok (), h))
    (reads : Store.Reads h start.config.storePath bytes) (filled : bytes ≠ [])
    (invalid : ¬Store.IsStoreFile bytes) :
    ∃ e, Store.Rejected start.config.storePath bytes e ∧ ∀ fuel, ∃ h', h'.files = h.files ∧
      (run around fuel).run start h₀ = (.ok (some 1),
        { start with events := start.events ++ [.opened (.error e)], state := .stopped }, h') := by
  obtain ⟨e, failed, cause⟩ := Store.load_of_invalid reads invalid
  have occupied := Store.not_vacant_of_content reads.content filled
  have same := Store.loadOrCreate_of_occupied occupied
  have kept := @Store.load_keepsFiles start.config.storePath false h
  obtain ⟨h', files, closed⟩ := openStore_of_error (same.trans (Prod.ext failed rfl))
  refine ⟨e, cause, fun fuel => ⟨h', files.trans kept, ?_⟩⟩
  rw [run, run_bind, run_onHost, started]
  dsimp only
  rw [run_bind, closed]
  rfl

/-- A file that cannot be understood is fatal at any reload. -/
theorem ComesTo.run_of_invalid {bytes : List UInt8} (due : ComesTo around start h₀ n true l h)
    (reads : Store.Reads h start.config.storePath bytes) (invalid : ¬Store.IsStoreFile bytes) :
    ∃ e, Store.Rejected start.config.storePath bytes e ∧ ∀ fuel, n < fuel →
      ∃ h', h'.files = h.files ∧ (run around fuel).run start h₀ = (.ok (some 1),
        { l with events := l.events ++ [.reload (.error e)], state := .stopped }, h') := by
  obtain ⟨e, failed, cause⟩ := Store.load_of_invalid reads invalid
  rw [← due.config_eq] at failed
  obtain ⟨k, files, reloaded⟩ := reload_of_error failed
  rw [if_neg (by simp [cause.isTransient])] at reloaded
  obtain ⟨m, j, whole, passed⟩ := due.steps_run
  refine ⟨e, cause, fun fuel later => ?_⟩
  obtain ⟨rest, rfl⟩ : ∃ rest, fuel = n + 1 + rest := Nat.exists_eq_add_of_le later
  have broken := passed rest
  rw [if_pos rfl, reloaded] at broken
  obtain ⟨h', same, ended⟩ := passes_of_error broken
  refine ⟨h', same.trans files, ?_⟩
  rw [whole, ended]

/-- A failure that may pass changes nothing, and the run goes on. -/
theorem ComesTo.run_of_transient {e : StoreError} (due : ComesTo around start h₀ n true l h)
    (failed : ((Store.load start.config.storePath).run h).1 = .error e)
    (transient : e.isTransient = true) :
    ∃ h', h'.files = h.files ∧ ∀ fuel, (run around (n + 1 + fuel)).run start h₀ =
      (passes around fuel).run
        { l with events := l.events ++ [.reload (.error e)], state := .running } h' := by
  rw [← due.config_eq] at failed
  obtain ⟨k, files, reloaded⟩ := reload_of_error failed
  rw [if_pos transient] at reloaded
  obtain ⟨m, j, whole, passed⟩ := due.steps_run
  refine ⟨k, files, fun fuel => ?_⟩
  have next := passed fuel
  rw [if_pos rfl, reloaded] at next
  rw [whole]
  exact passes_of_steps next

/-- A file that has content but holds no store is fatal and stays. If the loop comes upon it when it
opens its store, or at a reload, then the run ends with status 1 in that very pass, whatever is still
unsaved: this failure is the last event, so there is neither a cycle nor a save after it. A reload that
fails on the way to the file, or finds none, keeps the loop as it is, and the run goes on. There are
no reloads in a run but those that its passes come to. -/
theorem invalid_file_ends_run (around : Surroundings) (start : ControlLoop) (h₀ : Host) :
    (∀ h bytes, around.onStart.run h₀ = (.ok (), h) → Store.Reads h start.config.storePath bytes →
      bytes ≠ [] → ¬Store.IsStoreFile bytes →
      ∃ e, Store.Rejected start.config.storePath bytes e ∧ ∀ fuel, ∃ h', h'.files = h.files ∧
        (run around fuel).run start h₀ = (.ok (some 1),
          { start with events := start.events ++ [.opened (.error e)], state := .stopped }, h')) ∧
    (∀ n l h, ComesTo around start h₀ n true l h →
      (∀ bytes, Store.Reads h start.config.storePath bytes → ¬Store.IsStoreFile bytes →
        ∃ e, Store.Rejected start.config.storePath bytes e ∧ ∀ fuel, n < fuel →
          ∃ h', h'.files = h.files ∧ (run around fuel).run start h₀ = (.ok (some 1),
            { l with events := l.events ++ [.reload (.error e)], state := .stopped }, h')) ∧
      ∀ e, ((Store.load start.config.storePath).run h).1 = .error e → e.isTransient = true →
        ∃ h', h'.files = h.files ∧ ∀ fuel, (run around (n + 1 + fuel)).run start h₀ =
          (passes around fuel).run
            { l with events := l.events ++ [.reload (.error e)], state := .running } h') ∧
    ∀ fuel r l' h' x, (run around fuel).run start h₀ = (r, l', h') → .reload x ∈ l'.events →
      .reload x ∈ start.events ∨
        ∃ n l h, n < fuel ∧ ComesTo around start h₀ n true l h ∧ x = reloadOutcome l h := by
  refine ⟨fun h bytes started reads filled invalid => ?_, fun n l h due => ⟨?_, ?_⟩, ?_⟩
  · exact run_of_invalid_open started reads filled invalid
  · intro bytes reads invalid
    exact due.run_of_invalid reads invalid
  · intro e failed transient
    exact due.run_of_transient failed transient
  · intro fuel r l' h' x ran member
    exact comesTo_of_event ran member

/-- In the second wait the files are replaced and a reload is requested. -/
def tampering (t : FileTree) : Surroundings :=
  { silence with
    duringWait := fun number _ => do
      if number = 0 then return []
      Action.setFiles t
      return [.reload] }

/-- A loop that does not save after its first cycle. -/
def savingLate : ControlLoop :=
  Service.newLoop { sampleConfig with saveEvery := 5, saveEvery_pos := by decide } 1

/-- With a record unsaved, the loop ends at three zero bytes, and goes on without a file. -/
theorem invalid_file_ends_run_tampering :
    (∃ l h', (run (tampering Store.zerosAtChecks.files) 3).run savingLate {} =
        (.ok (some 1), l, h') ∧ l.state = .stopped ∧ h'.files = Store.zerosAtChecks.files ∧
      l.unsaved = [Cycle.timeoutRecord sampleConfig 60 ⟨.icmp, .v4⟩]) ∧
    ∃ l h', (∀ fuel, (run (tampering {}) (3 + fuel)).run savingLate {} =
        (passes (tampering {}) fuel).run l h') ∧ l.state = .running ∧ h'.files = {} ∧
      l.unsaved = [Cycle.timeoutRecord sampleConfig 60 ⟨.icmp, .v4⟩] := by
  constructor
  · let around := tampering Store.zerosAtChecks.files
    let arrived := (untilPass around 2).run savingLate {}
    have due : ComesTo around savingLate {} 2 true arrived.2.1 arrived.2.2 :=
      Prod.ext (by decide +kernel) rfl
    have found : arrived.2.2.files = Store.zerosAtChecks.files := by decide +kernel
    have unsaved : arrived.2.1.unsaved = [Cycle.timeoutRecord sampleConfig 60 ⟨.icmp, .v4⟩] := by
      decide +kernel
    have reads : Store.Reads arrived.2.2 savingLate.config.storePath [0, 0, 0] := by
      refine ⟨by decide +kernel, ?_⟩
      rw [found]
      rfl
    have broken : Deflate.inflate [0, 0, 0] = .invalid := by cbv
    have invalid : ¬Store.IsStoreFile [0, 0, 0] := Store.not_isStoreFile broken (by simp)
    obtain ⟨-, atReload, -⟩ := invalid_file_ends_run around savingLate {}
    obtain ⟨e, -, ends⟩ := (atReload 2 _ _ due).1 [0, 0, 0] reads invalid
    obtain ⟨h', files, ended⟩ := ends 3 (by decide)
    exact ⟨_, h', ended, rfl, files.trans found, unsaved⟩
  · let around := tampering {}
    let arrived := (untilPass around 2).run savingLate {}
    have due : ComesTo around savingLate {} 2 true arrived.2.1 arrived.2.2 :=
      Prod.ext (by decide +kernel) rfl
    have found : arrived.2.2.files = {} := by decide +kernel
    have unsaved : arrived.2.1.unsaved = [Cycle.timeoutRecord sampleConfig 60 ⟨.icmp, .v4⟩] := by
      decide +kernel
    have gone : ((Store.load savingLate.config.storePath).run arrived.2.2).1 =
        .error (.missing savingLate.config.storePath) := by decide +kernel
    obtain ⟨-, atReload, -⟩ := invalid_file_ends_run around savingLate {}
    obtain ⟨h', files, goesOn⟩ := (atReload 2 _ _ due).2 _ gone rfl
    exact ⟨_, h', goesOn, rfl, files.trans found, unsaved⟩

end LinkMonitor.ControlLoop
