import LinkMonitor.Daemon.Cycle
import LinkMonitor.Host.Basic

/-!
# Actions on a host

What the actions do when they are run, and which of them leave the files of the host alone.
-/

namespace LinkMonitor
namespace Action

variable {ε δ α β : Type}

@[simp] theorem run_pure (x : α) (h : Host) : (pure x : Action ε α).run h = (.ok x, h) := rfl

theorem run_bind (a : Action ε α) (f : α → Action ε β) (h : Host) :
    (a >>= f).run h = match a.run h with
      | (.ok x, h) => (f x).run h
      | (.error e, h) => (.error e, h) := by
  show StateT.run (ExceptT.run a >>= ExceptT.bindCont f) h = _
  rw [StateT.run_bind]
  show (match StateT.run (ExceptT.run a) h with
    | (r, h) => StateT.run (ExceptT.bindCont f r) h) = _
  rw [Action.run]
  rcases StateT.run (ExceptT.run a) h with ⟨r, h⟩
  cases r <;> rfl

theorem run_bind_ok {a : Action ε α} {f : α → Action ε β} {h h' : Host} {y : β}
    (ran : (a >>= f).run h = (.ok y, h')) :
    ∃ x k, a.run h = (.ok x, k) ∧ (f x).run k = (.ok y, h') := by
  rw [run_bind] at ran
  generalize a.run h = result at ran ⊢
  obtain ⟨r, k⟩ := result
  cases r with
  | error e => cases ran
  | ok x => exact ⟨x, k, rfl, ran⟩

theorem run_mapError (f : ε → δ) (a : Action ε α) (h : Host) :
    (a.mapError f).run h = match a.run h with
      | (.ok x, h) => (.ok x, h)
      | (.error e, h) => (.error (f e), h) := by
  have mapped : (a.mapError f).run h = ((a.run h).1.mapError f, (a.run h).2) := rfl
  rw [mapped]
  rcases a.run h with ⟨r, k⟩
  cases r <;> rfl

theorem run_of_mapError_ok {f : ε → δ} {a : Action ε α} {h h' : Host} {x : α}
    (ran : (a.mapError f).run h = (.ok x, h')) : a.run h = (.ok x, h') := by
  rw [run_mapError] at ran
  rcases result : a.run h with ⟨_ | y, k⟩
  · rw [result] at ran
    cases ran
  · rw [result] at ran
    cases ran
    rfl

@[simp] theorem run_attempt (a : Action ε α) (h : Host) :
    (attempt a : Action δ (Except ε α)).run h = (.ok (a.run h).1, (a.run h).2) := rfl

@[simp] theorem run_ofExcept (x : Except ε α) (h : Host) : (ofExcept x).run h = (x, h) := rfl

@[simp] theorem run_files (h : Host) : (files : Action ε FileTree).run h = (.ok h.files, h) := rfl

@[simp] theorem run_get (h : Host) : (get : Action ε Host).run h = (.ok h, h) := rfl

@[simp] theorem run_changeFiles (f : FileTree → Except ε FileTree) (h : Host) :
    (changeFiles f).run h = match f h.files with
      | .ok t => (.ok (), { h with files := t })
      | .error e => (.error e, h) := rfl

@[simp] theorem run_changeFilesPartly (f : FileTree → FileTree × Except ε Unit) (h : Host) :
    (changeFilesPartly f).run h = ((f h.files).2, { h with files := (f h.files).1 }) := rfl

@[simp] theorem run_write (level : NoticeLevel) (topic : NoticeTopic) (text : String) (h : Host) :
    (write level topic text : Action ε Unit).run h =
      (.ok (), { h with journal := h.journal ++ [⟨level, topic, text⟩] }) := rfl

/-- An action whose result is announced in the journal. -/
theorem run_announced (a : Action ε α) (level : NoticeLevel) (text : α → String) (h : Host) :
    (do let x ← a; write level .general (text x); return x : Action ε α).run h =
      match a.run h with
      | (.ok x, h) => (.ok x, { h with journal := h.journal ++ [⟨level, .general, text x⟩] })
      | (.error e, h) => (.error e, h) := by
  rw [run_bind]
  rcases a.run h with ⟨r, k⟩
  cases r <;> rfl

/-- A list of actions has one result each. -/
theorem of_mapM_ok {f : α → Action ε β} {xs : List α} {ys : List β} {h h' : Host}
    (ran : (xs.mapM f).run h = (.ok ys, h')) :
    ys.length = xs.length ∧ ∀ y ∈ ys, ∃ x ∈ xs, ∃ k k', (f x).run k = (.ok y, k') := by
  induction xs generalizing ys h with
  | nil =>
    cases ran
    simp
  | cons x xs ih =>
    rw [List.mapM_cons] at ran
    obtain ⟨y, k, first, ran⟩ := run_bind_ok ran
    obtain ⟨zs, j, rest, ran⟩ := run_bind_ok ran
    cases ran
    obtain ⟨length, members⟩ := ih rest
    refine ⟨by simp [length], fun z hz => ?_⟩
    rcases List.mem_cons.mp hz with rfl | later
    · exact ⟨x, by simp, h, k, first⟩
    · obtain ⟨w, member, ran⟩ := members z later
      exact ⟨w, List.mem_cons_of_mem _ member, ran⟩

/-- A list of actions whose results do not depend on the host. -/
theorem mapM_eq_map {f : α → Action ε β} {g : α → β} {xs : List α}
    (each : ∀ x ∈ xs, ∀ h, ∃ k, (f x).run h = (.ok (g x), k)) (h : Host) :
    ∃ k, (xs.mapM f).run h = (.ok (xs.map g), k) := by
  induction xs generalizing h with
  | nil => exact ⟨h, rfl⟩
  | cons x xs ih =>
    obtain ⟨k, first⟩ := each x (by simp) h
    obtain ⟨j, rest⟩ := ih (fun y member => each y (by simp [member])) k
    rw [List.mapM_cons, run_bind, first]
    dsimp only
    rw [run_bind, rest]
    exact ⟨j, rfl⟩

/-! ### Files that stay as they are -/

/-- The files of the host are the same afterwards, also if the action fails. -/
def KeepsFiles (a : Action ε α) : Prop := ∀ h, (a.run h).2.files = h.files

theorem keepsFiles_pure (x : α) : KeepsFiles (pure x : Action ε α) := fun _ => rfl

theorem keepsFiles_throw (e : ε) : KeepsFiles (throw e : Action ε α) := fun _ => rfl

theorem keepsFiles_ofExcept (x : Except ε α) : KeepsFiles (ofExcept x) := fun _ => rfl

theorem keepsFiles_write (level : NoticeLevel) (topic : NoticeTopic) (text : String) :
    KeepsFiles (write level topic text : Action ε Unit) := fun _ => rfl

theorem keepsFiles_recordProbe (o : ProbeOrder) : KeepsFiles (recordProbe o : Action ε Unit) :=
  fun _ => rfl

theorem keepsFiles_attempt {a : Action ε α} (ha : KeepsFiles a) :
    KeepsFiles (attempt a : Action δ (Except ε α)) := ha

theorem keepsFiles_bind {a : Action ε α} {f : α → Action ε β} (ha : KeepsFiles a)
    (hf : ∀ x, KeepsFiles (f x)) : KeepsFiles (a >>= f) := by
  intro h
  have first := ha h
  rw [run_bind]
  generalize a.run h = result at first ⊢
  obtain ⟨r, k⟩ := result
  cases r with
  | error e => exact first
  | ok x => exact (hf x k).trans first

theorem keepsFiles_mapM {f : α → Action ε β} (hf : ∀ x, KeepsFiles (f x)) (xs : List α) :
    KeepsFiles (xs.mapM f) := by
  induction xs with
  | nil => exact keepsFiles_pure _
  | cons x xs ih =>
    rw [List.mapM_cons]
    exact keepsFiles_bind (hf x) fun _ => keepsFiles_bind ih fun _ => keepsFiles_pure _

end Action

theorem Check.execute_keepsFiles (transport : Transport) (c : Combination) (target : String)
    (timeout : Binary64) (timestamp : Int) :
    (Check.execute transport c target timeout timestamp).KeepsFiles := by
  refine Action.keepsFiles_bind (Action.keepsFiles_recordProbe _) fun _ => ?_
  dsimp only
  split
  · exact Action.keepsFiles_bind (Action.keepsFiles_write _ _ _) fun _ =>
      Action.keepsFiles_ofExcept _
  · exact Action.keepsFiles_ofExcept _

theorem Cycle.settle_keepsFiles (config : DaemonConfig) (timestamp : Int)
    (x : Combination × Except CheckError CheckRecord) :
    (Cycle.settle config timestamp x).KeepsFiles := by
  obtain ⟨c, r⟩ := x
  cases r with
  | ok r => exact Action.keepsFiles_pure _
  | error e =>
    exact Action.keepsFiles_bind (Action.keepsFiles_write _ _ _) fun _ => Action.keepsFiles_pure _

theorem Cycle.run_keepsFiles (config : DaemonConfig) (transport : Transport) (timestamp : Int) :
    (Cycle.run config transport timestamp).KeepsFiles := by
  refine Action.keepsFiles_bind (Action.keepsFiles_mapM (fun c => ?_) _) fun results => ?_
  · exact Action.keepsFiles_bind
      (Action.keepsFiles_attempt (Check.execute_keepsFiles _ _ _ _ _)) fun _ =>
        Action.keepsFiles_pure _
  · dsimp only
    split
    · exact Action.keepsFiles_throw _
    · refine Action.keepsFiles_bind (Action.keepsFiles_mapM (fun x => ?_) _) fun records => ?_
      · exact Cycle.settle_keepsFiles config timestamp x
      · exact Action.keepsFiles_bind (Action.keepsFiles_write _ _ _) fun _ =>
          Action.keepsFiles_pure _

end LinkMonitor
