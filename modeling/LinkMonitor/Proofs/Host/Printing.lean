import LinkMonitor.Proofs.Host.Action

/-!
# Actions that print

An action that does nothing but print succeeds under a condition or breaks off with a failure. Such
actions are put together with `bind` and `forM`.
-/

namespace LinkMonitor.Action

variable {ε δ α β : Type}

@[simp] theorem run_printLine (channel : Channel) (line : String) (h : Host) :
    (printLine channel line : Action ε Unit).run h =
      (.ok (), { h with printed := h.printed ++ [(channel, line)] }) := rfl

theorem run_forM_cons (f : α → Action ε Unit) (x : α) (xs : List α) (h : Host) :
    ((x :: xs).forM f).run h = (f x >>= fun _ => xs.forM f).run h := rfl

theorem run_printLines (channel : Channel) (lines : List String) (h : Host) :
    (printLines channel lines : Action ε Unit).run h =
      (.ok (), { h with printed := h.printed ++ lines.map fun line => (channel, line) }) := by
  unfold printLines
  induction lines generalizing h with
  | nil => simp
  | cons line lines ih =>
    rw [run_forM_cons, run_bind, run_printLine]
    dsimp only
    rw [ih]
    simp

/-- On this host, whatever has been printed, the action does nothing but print. It succeeds if the
condition holds; if not, one of the given failures breaks it off. -/
def PrintsIf (h : Host) (condition : Prop) (failure : ε → Prop) (a : Action ε α) : Prop :=
  ∀ before,
    (condition ∧ ∃ x printed, a.run { h with printed := before } = (.ok x, { h with printed })) ∨
    (¬condition ∧ ∃ e printed, failure e ∧
      a.run { h with printed := before } = (.error e, { h with printed }))

namespace PrintsIf

variable {h : Host} {p q : Prop} {failure : ε → Prop} {a : Action ε α} {f : α → Action ε β}

theorem congr (prints : PrintsIf h p failure a) (same : p ↔ q) : PrintsIf h q failure a := by
  rwa [propext same] at prints

theorem of_run (ran : ∀ k, ∃ x printed, a.run k = (.ok x, { k with printed })) :
    PrintsIf h True failure a := by
  intro before
  obtain ⟨x, printed, ran⟩ := ran { h with printed := before }
  exact .inl ⟨trivial, x, printed, ran⟩

theorem pure (x : α) : PrintsIf h True failure (pure x : Action ε α) :=
  of_run fun k => ⟨x, k.printed, rfl⟩

theorem line (channel : Channel) (line : String) :
    PrintsIf h True failure (printLine channel line : Action ε Unit) :=
  of_run fun _ => ⟨(), _, rfl⟩

theorem lines (channel : Channel) (lines : List String) :
    PrintsIf h True failure (printLines channel lines : Action ε Unit) :=
  of_run fun k => ⟨(), _, run_printLines channel lines k⟩

/-- What comes second may rely on the condition of what comes first. -/
theorem bind (first : PrintsIf h p failure a) (second : p → ∀ x, PrintsIf h q failure (f x)) :
    PrintsIf h (p ∧ q) failure (a >>= f) := by
  intro before
  rw [run_bind]
  rcases first before with ⟨holds, x, printed, ran⟩ | ⟨fails, e, printed, cause, ran⟩
  · rw [ran]
    dsimp only
    rcases second holds x printed with
      ⟨holds', y, printed', ran'⟩ | ⟨fails', e, printed', cause, ran'⟩
    · exact .inl ⟨⟨holds, holds'⟩, y, printed', ran'⟩
    · exact .inr ⟨fun both => fails' both.2, e, printed', cause, ran'⟩
  · rw [ran]
    exact .inr ⟨fun both => fails both.1, e, printed, cause, rfl⟩

/-- Something that cannot fail, and then the rest. -/
theorem andThen (first : PrintsIf h True failure a) (second : ∀ x, PrintsIf h q failure (f x)) :
    PrintsIf h q failure (a >>= f) :=
  (first.bind fun _ => second).congr (by simp)

theorem forM {f : α → Action ε Unit} {p : α → Prop} {xs : List α}
    (each : ∀ x ∈ xs, PrintsIf h (p x) failure (f x)) :
    PrintsIf h (∀ x ∈ xs, p x) failure (xs.forM f) := by
  induction xs with
  | nil => exact (PrintsIf.pure ()).congr (by simp)
  | cons x xs ih =>
    have rest := ih fun y later => each y (List.mem_cons_of_mem _ later)
    have both := (each x (List.mem_cons_self ..)).bind fun _ _ => rest
    exact both.congr (by simp)

theorem mapError {failure' : δ → Prop} {g : ε → δ} (prints : PrintsIf h p failure a)
    (account : ∀ e, failure e → failure' (g e)) : PrintsIf h p failure' (a.mapError g) := by
  intro before
  rw [run_mapError]
  rcases prints before with ⟨holds, x, printed, ran⟩ | ⟨fails, e, printed, cause, ran⟩
  · rw [ran]
    exact .inl ⟨holds, x, printed, rfl⟩
  · rw [ran]
    exact .inr ⟨fails, g e, printed, account e cause, rfl⟩

variable {x : Except δ α} {g : δ → ε}

/-- A value that is there is handed on. -/
theorem of_ok {v : α} (found : x = .ok v) (rest : PrintsIf h p failure (f v)) :
    PrintsIf h p failure ((ofExcept x).mapError g >>= f) := by
  intro before
  rw [run_bind, run_mapError, run_ofExcept, found]
  exact rest before

/-- A value that is not there breaks the action off. -/
theorem of_error {e : δ} (failed : x = .error e) (cause : failure (g e)) (fails : ¬p) :
    PrintsIf h p failure ((ofExcept x).mapError g >>= f) := by
  intro before
  rw [run_bind, run_mapError, run_ofExcept, failed]
  exact .inr ⟨fails, g e, before, cause, rfl⟩

end PrintsIf
end LinkMonitor.Action
