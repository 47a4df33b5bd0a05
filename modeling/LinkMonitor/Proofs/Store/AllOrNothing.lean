import LinkMonitor.Proofs.Store.Save

/-!
# All or nothing

A save replaces the file at its target in one step, or it fails and leaves files and store alone. This
holds wherever it fails: before the temporary file is there, at any of its pieces, also at a record in
the middle that has no encoding, and on the way from the last piece to the rename.
-/

namespace LinkMonitor.Store

open FileTree

/-- The failures of a save, with what they are due to. -/
inductive SaveFailure (path : Option Path) (s : Store) (h : Host) : StoreError → Prop
  | readonly (set : s.readonly = true) : SaveFailure path s h .readonlySave
  | noPath (writable : s.readonly = false) (homeless : (path <|> s.path) = none) :
    SaveFailure path s h .noPathToSaveTo
  | writing {target : Path} {e : StoreError} (writable : s.readonly = false)
    (found : (path <|> s.path) = some target) (failed : WriteFailure s target h e) :
    SaveFailure path s h e

/-- No file has come, gone or changed. Only directories on the way to the target may be new. -/
structure Untouched (target? : Option Path) (t u : FileTree) : Prop where
  kept : ∀ l e, t.find? l = some e → u.find? l = some e
  readable : ∀ p bytes, t.contentAt p = .ok bytes → u.contentAt p = .ok bytes
  noNewFile : ∀ l bytes, u.find? l = some (.file bytes) → t.find? l = some (.file bytes)
  newDirectory : ∀ l, t.find? l = none → u.find? l = some .directory →
    ∃ target names, target? = some target ∧ names <+: target.parent.names ∧
      u.resolve ⟨target.root, names⟩ = .ok l

theorem Untouched.refl (target? : Option Path) (t : FileTree) : Untouched target? t t where
  kept _ _ found := found
  readable _ _ content := content
  noNewFile _ _ found := found
  newDirectory _ missing found := by rw [missing] at found; cases found

theorem untouched_of_adds {target : Path} {t u : FileTree}
    (adds : AddsDirectories target.parent t u) : Untouched (some target) t u where
  kept := adds.extended
  readable _ _ := contentAt_of_extends adds.extended
  noNewFile l bytes found := by
    cases before : t.find? l with
    | none => cases (adds.added l _ before found).1
    | some e => rw [adds.extended l e before] at found; exact found
  newDirectory l missing found := by
    obtain ⟨-, names, part, reached⟩ := adds.added l _ missing found
    exact ⟨target, names, rfl, part, reached⟩

/-- A save that fails leaves files and store as they were. One that succeeds has changed the file at
its target and no other, in one replacement, and has noted place and hash. -/
theorem saveInPlace_replaces_or_untouched (path : Option Path) (s : Store) (h : Host) :
    match (saveInPlace path).run s h with
    | (.error e, s', h') =>
      SaveFailure path s h e ∧ s' = s ∧ h' = { h with files := h'.files } ∧
        Untouched (path <|> s.path) h.files h'.files
    | (.ok (), s', h') =>
      ∃ target envelope, s.readonly = false ∧ (path <|> s.path) = some target ∧
        Envelope.encodeBytes s.version s.records = .ok envelope ∧
        Nonempty (Replacement target (Deflate.deflate envelope) h.files h'.files) ∧
        h' = { h with files := h'.files } ∧
        s' = { s with
          path := some target
          fileHash := some (Bytes.hex (Sha256.digest (Deflate.deflate envelope))) } := by
  rw [saveInPlace_run]
  cases writable : s.readonly with
  | true => exact ⟨.readonly writable, rfl, rfl, .refl _ _⟩
  | false =>
    rw [if_neg (by decide)]
    cases found : (path <|> s.path) with
    | none => exact ⟨.noPath writable found, rfl, rfl, .refl _ _⟩
    | some target =>
      dsimp only
      rcases writeTo_run s target h with
        ⟨e, t, failed, adds, ran⟩ | ⟨envelope, t, encoded, -, replacement, ran⟩
      · rw [ran]
        exact ⟨.writing writable found failed, rfl, rfl, untouched_of_adds adds⟩
      · rw [ran]
        exact ⟨target, envelope, rfl, rfl, encoded, replacement, rfl, rfl⟩

end LinkMonitor.Store
