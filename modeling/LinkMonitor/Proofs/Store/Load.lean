import LinkMonitor.Proofs.Envelope.Grammar
import LinkMonitor.Proofs.Store.Save

/-!
# Loading a store

What is read from a file, what a file holds after a save, and what is at the path after a store has
been opened.
-/

namespace LinkMonitor.Store

open CheckRecord

variable {path : Path} {t u : FileTree} {records : List CheckRecord}

theorem decodeFile_eq_ok {readonly : Bool} {bytes : List UInt8} {s : Store}
    (h : decodeFile path readonly bytes = .ok s) :
    s.path = some path ∧ s.readonly = readonly ∧ AllCanonical s.records := by
  obtain ⟨⟨envelope, hash⟩, -, h⟩ := ok_of_bind h
  dsimp only at h
  split at h
  · next decoded => cases h; exact ⟨rfl, rfl, Envelope.decode_allCanonical decoded⟩
  · cases h

theorem decodeFile_deflate (path : Path) {version : FormatVersion} {envelope : List UInt8}
    (readonly : Bool) (h : Envelope.encodeBytes version records = .ok envelope) :
    decodeFile path readonly (Deflate.deflate envelope) =
      .ok { records := records.map canonical, version, path := some path, readonly
            fileHash := some (Bytes.hex (Sha256.digest (Deflate.deflate envelope))) } := by
  rw [decodeFile, readEnvelope_eq, Deflate.inflate_deflate]
  simp only [List.isEmpty_nil, if_true, bind, Except.bind, Envelope.decode_of_encodeBytes h]
  rfl

/-! ### What a file holds -/

/-- The file at the path decodes to the records, with the canonical text of their targets. -/
def Holds (t : FileTree) (path : Path) (records : List CheckRecord) : Prop :=
  ∃ bytes s, t.contentAt path = .ok bytes ∧ decodeFile path false bytes = .ok s ∧
    s.records = records.map canonical

theorem Holds.of_contentAt (h : Holds t path records) (same : ∀ bytes,
    t.contentAt path = .ok bytes → u.contentAt path = .ok bytes) : Holds u path records := by
  obtain ⟨bytes, s, content, decoded, found⟩ := h
  exact ⟨bytes, s, same bytes content, decoded, found⟩

theorem Holds.of_extends (h : Holds t path records) (extended : t.Extends u) :
    Holds u path records :=
  h.of_contentAt fun _ => FileTree.contentAt_of_extends extended

/-- A save leaves the records and the place of the store as they are. -/
theorem save_ok (path : Path) {s s' : Store} {h h' : Host} (ran : s.save.run h = (.ok s', h')) :
    s'.path = s.path ∧ s'.readonly = s.readonly ∧ s'.records = s.records ∧
      (s.path = some path → Holds h'.files path s.records) := by
  obtain ⟨target, envelope, -, own, encoded, -, content, rfl⟩ := save_eq_ok ran
  refine ⟨own.symm, rfl, rfl, fun here => ?_⟩
  obtain rfl : target = path := Option.some.inj (own.symm.trans here)
  exact ⟨_, _, content, decodeFile_deflate target false encoded, rfl⟩

/-- A save that fails takes nothing away. -/
theorem save_error {s : Store} {h h' : Host} {e : StoreError} (ran : s.save.run h = (.error e, h')) :
    h.files.Extends h'.files := by
  rw [save_run] at ran
  split at ran
  · cases ran; exact FileTree.Extends.refl _
  · split at ran
    · cases ran; exact FileTree.Extends.refl _
    · next target found =>
      rcases writeTo_run s target h with
        ⟨e, t, -, adds, failed⟩ | ⟨envelope, t, -, -, -, saved⟩
      · rw [failed] at ran
        cases ran
        exact adds.extended
      · rw [saved] at ran
        cases ran

/-! ### Loading and opening -/

theorem readStoreFile_run (path : Path) (h : Host) :
    (readStoreFile path).run h = match h.readFault with
      | some fault => (.error (.unreadable path ⟨fault, .path path⟩), h)
      | none => (readBytes path h.files, h) := rfl

theorem readStoreFile_keepsFiles (path : Path) : (readStoreFile path).KeepsFiles := by
  intro h
  rw [readStoreFile_run]
  split <;> rfl

theorem load_keepsFiles (path : Path) {readonly : Bool} : (load path readonly).KeepsFiles := by
  refine Action.keepsFiles_bind (readStoreFile_keepsFiles path) fun bytes => ?_
  refine Action.keepsFiles_bind (Action.keepsFiles_ofExcept _) fun store => ?_
  dsimp only
  split
  · exact Action.keepsFiles_bind (Action.keepsFiles_write _ _ _) fun _ => Action.keepsFiles_pure _
  · exact Action.keepsFiles_pure _

theorem load_result (path : Path) {readonly : Bool} (h : Host) :
    ((load path readonly).run h).1 =
      ((readStoreFile path).run h).1 >>= decodeFile path readonly := by
  rw [load, Action.run_bind]
  generalize (readStoreFile path).run h = read
  obtain ⟨r, k⟩ := read
  cases r with
  | error e => rfl
  | ok bytes =>
    show _ = decodeFile path readonly bytes
    dsimp only
    rw [Action.run_bind, Action.run_ofExcept]
    cases decodeFile path readonly bytes with
    | error e => rfl
    | ok store =>
      dsimp only
      split <;> rfl

/-- A load does not look at the journal. -/
theorem load_result_journal (path : Path) (h : Host) (journal : List Notice) :
    ((load path).run { h with journal }).1 = ((load path).run h).1 := by
  have same : ((readStoreFile path).run { h with journal }).1 = ((readStoreFile path).run h).1 := by
    rw [readStoreFile_run, readStoreFile_run]
    cases h.readFault <;> rfl
  rw [load_result, load_result, same]

theorem readBytes_eq {bytes : List UInt8} (content : t.contentAt path = .ok bytes) :
    readBytes path t = .ok bytes := by
  rw [readBytes, content]

/-- A file that can be read and understood is loaded, whatever else the host is like. -/
theorem load_run {readonly : Bool} {bytes : List UInt8} {s : Store} {h : Host}
    (content : h.files.contentAt path = .ok bytes) (calm : h.readFault = none)
    (decoded : decodeFile path readonly bytes = .ok s) :
    ((load path readonly).run h).1 = .ok s ∧ ((load path readonly).run h).2.files = h.files := by
  have read : (readStoreFile path).run h = (.ok bytes, h) := by
    rw [readStoreFile_run, calm, readBytes_eq content]
  rw [load, Action.run_bind, read]
  dsimp only
  rw [Action.run_bind, Action.run_ofExcept, decoded]
  dsimp only
  split
  · exact ⟨rfl, rfl⟩
  · exact ⟨rfl, rfl⟩

theorem load_ok {s : Store} {h : Host} (loaded : ((load path).run h).1 = .ok s) :
    ∃ bytes, h.files.contentAt path = .ok bytes ∧ decodeFile path false bytes = .ok s := by
  rw [load_result] at loaded
  obtain ⟨bytes, read, decoded⟩ := ok_of_bind loaded
  refine ⟨bytes, ?_, decoded⟩
  rw [readStoreFile_run] at read
  split at read
  · cases read
  · dsimp only at read
    rw [readBytes] at read
    split at read
    · next content => rw [content, Except.ok.inj read]
    · cases read

/-- What is read from a file are the records that it holds. -/
theorem Holds.load_eq {h : Host} {s : Store} (holds : Holds h.files path records)
    (loaded : ((load path).run h).1 = .ok s) : s.records = records.map canonical := by
  obtain ⟨bytes, u, content, decoded, found⟩ := holds
  obtain ⟨bytes', content', decoded'⟩ := load_ok loaded
  rw [content] at content'
  cases content'
  rw [decoded] at decoded'
  cases decoded'
  exact found

/-- The file at the path is a store of the version. -/
def HasVersion (t : FileTree) (path : Path) (version : FormatVersion) : Prop :=
  ∃ bytes s, t.contentAt path = .ok bytes ∧ decodeFile path false bytes = .ok s ∧ s.version = version

namespace HasVersion

variable {version : FormatVersion}

theorem of_contentAt (has : HasVersion t path version)
    (same : u.contentAt path = t.contentAt path) : HasVersion u path version := by
  obtain ⟨bytes, s, content, decoded, found⟩ := has
  exact ⟨bytes, s, same.trans content, decoded, found⟩

theorem of_extends (has : HasVersion t path version) (extended : t.Extends u) :
    HasVersion u path version := by
  obtain ⟨bytes, s, content, decoded, found⟩ := has
  exact ⟨bytes, s, FileTree.contentAt_of_extends extended content, decoded, found⟩

theorem unique {other : FormatVersion} (has : HasVersion t path version)
    (has' : HasVersion t path other) : version = other := by
  obtain ⟨bytes, s, content, decoded, rfl⟩ := has
  obtain ⟨bytes', s', content', decoded', rfl⟩ := has'
  cases content.symm.trans content'
  cases decoded.symm.trans decoded'
  rfl

theorem of_load {h : Host} {s : Store} (loaded : ((load path).run h).1 = .ok s) :
    HasVersion h.files path s.version := by
  obtain ⟨bytes, content, decoded⟩ := load_ok loaded
  exact ⟨bytes, s, content, decoded, rfl⟩

/-- A save keeps the version of the store, and gives it to the file. -/
theorem of_save {s s' : Store} {h h' : Host} (ran : s.save.run h = (.ok s', h'))
    (own : s.path = some path) : s'.version = s.version ∧ HasVersion h'.files path s.version := by
  obtain ⟨target, envelope, -, found, encoded, -, content, rfl⟩ := save_eq_ok ran
  obtain rfl : target = path := Option.some.inj (found.symm.trans own)
  exact ⟨rfl, _, _, content, decodeFile_deflate target false encoded, rfl⟩

end HasVersion

theorem create_ok {s : Store} {h h' : Host} (ran : (create path).run h = (.ok s, h')) :
    s.path = some path ∧ s.readonly = false ∧ Holds h'.files path s.records := by
  have written {k : Host} (ran : (do
      let store ← save { path := some path }
      Action.info ("Created new store at " ++ path.text ++ " (version " ++
        toString store.version.tag ++ ")")
      return store : Action StoreError Store).run k = (.ok s, h')) :
      s.path = some path ∧ s.readonly = false ∧ Holds h'.files path s.records := by
    obtain ⟨store, j, saved, ran⟩ := Action.run_bind_ok ran
    cases ran
    obtain ⟨own, writable, records, holds⟩ := save_ok path saved
    exact ⟨own, writable, records ▸ holds rfl⟩
  obtain ⟨t, k, -, ran⟩ := Action.run_bind_ok ran
  dsimp only at ran
  split at ran
  · obtain ⟨_, _, thrown, -⟩ := Action.run_bind_ok ran
    cases thrown
  · exact written ran
  · split at ran
    · obtain ⟨_, _, thrown, -⟩ := Action.run_bind_ok ran
      cases thrown
    · split at ran
      · obtain ⟨_, _, thrown, -⟩ := Action.run_bind_ok ran
        cases thrown
      · exact written ran

theorem loadOrCreate_ok {s : Store} {h h' : Host} (ran : (loadOrCreate path).run h = (.ok s, h')) :
    s.path = some path ∧ s.readonly = false ∧ Holds h'.files path s.records := by
  obtain ⟨result, k, attempted, ran⟩ := Action.run_bind_ok ran
  rw [Action.run_attempt, Prod.mk.injEq] at attempted
  obtain ⟨outcome, rfl⟩ := attempted
  cases result with
  | ok store =>
    cases ran
    obtain ⟨bytes, content, decoded⟩ := load_ok (Except.ok.inj outcome)
    obtain ⟨own, writable, canonical⟩ := decodeFile_eq_ok decoded
    refine ⟨own, writable, bytes, s, ?_, decoded, (map_canonical_of_allCanonical canonical).symm⟩
    rw [load_keepsFiles path h]
    exact content
  | error e =>
    split at ran
    · next same => cases same
    · obtain ⟨_, j, -, ran⟩ := Action.run_bind_ok ran
      exact create_ok ran
    · obtain ⟨t, j, -, ran⟩ := Action.run_bind_ok ran
      have created (e : StoreError) (isEmpty : Bool) (ran : (if isEmpty then do
            Action.info ("Store file " ++ path.text ++ " is empty, initializing it")
            create path
          else throw e : Action StoreError Store).run j = (.ok s, h')) :
          s.path = some path ∧ s.readonly = false ∧ Holds h'.files path s.records := by
        split at ran
        · obtain ⟨_, i, -, ran⟩ := Action.run_bind_ok ran
          exact create_ok ran
        · cases ran
      exact created _ _ ran

end LinkMonitor.Store
