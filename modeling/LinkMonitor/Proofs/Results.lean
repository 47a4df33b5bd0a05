/-!
# Results

What the result of a computation that may fail tells about its parts.
-/

namespace LinkMonitor

variable {ε α β : Type}

theorem ok_of_bind {x : Except ε α} {f : α → Except ε β} {b : β} (h : (x >>= f) = .ok b) :
    ∃ a, x = .ok a ∧ f a = .ok b := by
  cases x with
  | error e => cases h
  | ok a => exact ⟨a, rfl, h⟩

theorem error_of_bind {x : Except ε α} {f : α → Except ε β} {e : ε} (h : (x >>= f) = .error e) :
    x = .error e ∨ ∃ a, x = .ok a ∧ f a = .error e := by
  cases x with
  | error e' => cases h; exact .inl rfl
  | ok a => exact .inr ⟨a, rfl, h⟩

/-- A list of computations succeeds if each of them does. -/
theorem mapM_eq_ok_iff {f : α → Except ε β} {xs : List α} {ys : List β} :
    xs.mapM f = .ok ys ↔ xs.map f = ys.map .ok := by
  induction xs generalizing ys with
  | nil =>
    rw [List.mapM_nil, List.map_nil, List.nil_eq, List.map_eq_nil_iff]
    exact ⟨fun h => by cases h; rfl, fun h => by rw [h]; rfl⟩
  | cons x xs ih =>
    rw [List.mapM_cons, List.map_cons]
    constructor
    · intro h
      obtain ⟨y, first, h⟩ := ok_of_bind h
      obtain ⟨rest, others, h⟩ := ok_of_bind h
      cases h
      rw [first, ih.mp others, List.map_cons]
    · intro h
      obtain ⟨y, rest, rfl, first, others⟩ := List.map_eq_cons_iff.mp h.symm
      rw [← first, ih.mpr others.symm]
      rfl

/-- The first computation that fails decides. -/
theorem mapM_eq_error_iff {f : α → Except ε β} {xs : List α} {e : ε} :
    xs.mapM f = .error e ↔ ∃ before x after,
      xs = before ++ x :: after ∧ (∀ b ∈ before, ∃ y, f b = .ok y) ∧ f x = .error e := by
  constructor
  · intro h
    induction xs with
    | nil => cases h
    | cons x xs ih =>
      rw [List.mapM_cons] at h
      rcases error_of_bind h with first | ⟨y, first, h⟩
      · exact ⟨[], x, xs, rfl, nofun, first⟩
      · rcases error_of_bind h with others | ⟨_, _, h⟩
        · obtain ⟨before, z, after, rfl, fine, fails⟩ := ih others
          exact ⟨x :: before, z, after, rfl, List.forall_mem_cons.mpr ⟨⟨y, first⟩, fine⟩, fails⟩
        · cases h
  · rintro ⟨before, x, after, rfl, fine, fails⟩
    induction before with
    | nil =>
      rw [List.nil_append, List.mapM_cons, fails]
      rfl
    | cons b before ih =>
      rw [List.forall_mem_cons] at fine
      obtain ⟨⟨y, first⟩, fine⟩ := fine
      rw [List.cons_append, List.mapM_cons, first]
      change (before ++ x :: after).mapM f >>= _ = _
      rw [ih fine]
      rfl

theorem mem_of_mapM_eq_ok {f : α → Except ε β} {xs : List α} {ys : List β}
    (h : xs.mapM f = .ok ys) (y : β) : y ∈ ys ↔ ∃ x ∈ xs, f x = .ok y := by
  rw [← List.mem_map, mapM_eq_ok_iff.mp h]
  simp

end LinkMonitor
