import LinkMonitor.Proofs.Command.Reader

/-!
# Maintenance of a store

`rewrite` and `migrate` keep the history that a store holds. A store with a record that the current
version has no room for is left as it is.
-/

namespace LinkMonitor.Program

open Markup Store

/-! ### What is said -/

/-- The text of a path in the middle of a message. -/
theorem printable_around {path : Path} {front back : String} (untagged : Untagged path.text.toList)
    (before : '[' ∉ front.toList) (opened : '[' ∉ back.toList) (closed : ']' ∉ back.toList) :
    Printable [] (front ++ path.text ++ back).toList := by
  rw [String.toList_append, String.toList_append, List.append_assoc]
  exact ((untagged.append_right opened closed).append_left before).printable []

theorem printable_rewrote {path : Path} (untagged : Untagged path.text.toList) (count tag : Nat) :
    Printable [] ("Rewrote " ++ path.text ++ " (" ++ toString count ++ " checks, version " ++
      toString tag ++ ")").toList := by
  have shape : "Rewrote " ++ path.text ++ " (" ++ toString count ++ " checks, version " ++
      toString tag ++ ")" = "Rewrote " ++ path.text ++
        (" (" ++ toString count ++ " checks, version " ++ toString tag ++ ")") := by
    simp only [String.append_assoc]
  rw [shape]
  apply printable_around untagged
  · decide
  · simp only [String.toList_append, List.mem_append, notMem_natText (c := '[') (by decide)]
    decide
  · simp only [String.toList_append, List.mem_append, notMem_natText (c := ']') (by decide)]
    decide

theorem printable_migrated {path : Path} (untagged : Untagged path.text.toList) (old new : Nat) :
    Printable [] ("Migrated " ++ path.text ++ " from version " ++ toString old ++ " to " ++
      toString new).toList := by
  have shape : "Migrated " ++ path.text ++ " from version " ++ toString old ++ " to " ++
      toString new = "Migrated " ++ path.text ++
        (" from version " ++ toString old ++ " to " ++ toString new) := by
    simp only [String.append_assoc]
  rw [shape]
  apply printable_around untagged
  · decide
  · simp only [String.toList_append, List.mem_append, notMem_natText (c := '[') (by decide)]
    decide
  · simp only [String.toList_append, List.mem_append, notMem_natText (c := ']') (by decide)]
    decide

theorem printable_upToDate (version : Nat) :
    Printable [] ("Store is already at version " ++ toString version ++
      ", nothing to do").toList := by
  refine Untagged.printable (untagged_of_notMem ?_) []
  simp only [String.toList_append, List.mem_append, notMem_natText (c := '[') (by decide)]
  decide

/-! ### One run of a command -/

variable {config : DaemonConfig} {h : Host} {s : Store} {bytes envelope : List UInt8}

/-- What a command needs to keep a store: the file can be read, no step of a save is struck, there is
room for the name of the temporary file, and the messages can be printed. -/
structure Maintainable (config : DaemonConfig) (h : Host) (bytes : List UInt8) : Prop where
  reads : Reads h config.storePath bytes
  faultless : Faultless h
  short : (temporaryName config.storePath.name 0).utf8ByteSize ≤ FileTree.maxNameSize
  untagged : Untagged config.storePath.text.toList

theorem save_run_ok (keeps : Maintainable config h bytes) (own : s.path = some config.storePath)
    (writable : s.readonly = false)
    (encoded : Envelope.encodeBytes s.version s.records = .ok envelope) :
    ∃ fileHash files, (save s).run h =
        (.ok { s with path := some config.storePath, fileHash }, { h with files }) ∧
      files.contentAt config.storePath = .ok (Deflate.deflate envelope) := by
  obtain ⟨fileHash, files, ran, content⟩ :=
    save_of_content keeps.reads.content keeps.faultless keeps.short own writable encoded
  refine ⟨fileHash, files, ?_, content⟩
  rw [save, Action.run_mapError, ran]

theorem rewrite_run (keeps : Maintainable config h bytes)
    (decoded : decodeFile config.storePath false bytes = .ok s)
    (encoded : Envelope.encodeBytes s.version s.records = .ok envelope) :
    ∃ files journal printed, (rewrite config).run h = (.ok 0, { h with files, journal, printed }) ∧
      files.contentAt config.storePath = .ok (Deflate.deflate envelope) := by
  obtain ⟨own, writable, -⟩ := decodeFile_eq_ok decoded
  obtain ⟨journal, loading⟩ := load_run_ok keeps.reads decoded
  have keeps' : Maintainable config { h with journal } bytes :=
    ⟨⟨keeps.reads.calm, keeps.reads.content⟩, keeps.faultless, keeps.short, keeps.untagged⟩
  obtain ⟨fileHash, files, saving, content⟩ := save_run_ok keeps' own writable encoded
  obtain ⟨printed, saying⟩ := say_run
    (printable_rewrote keeps.untagged s.size s.version.tag) { h with journal, files }
  refine ⟨files, journal, printed, ?_, content⟩
  rw [rewrite, Action.run_bind, loading]
  dsimp only
  rw [Action.run_bind, saving]
  dsimp only
  rw [Action.run_bind, show size { s with path := some config.storePath, fileHash } = s.size from rfl,
    saying]
  rfl

theorem migrate_run_of_lt (keeps : Maintainable config h bytes)
    (decoded : decodeFile config.storePath false bytes = .ok s) (legacy : s.version = .v0)
    (early : ∀ r ∈ s.records, r.timestamp < 0x8000000000000000)
    (encoded : Envelope.encodeBytes .v1 s.records = .ok envelope) :
    ∃ files journal printed, (migrate config).run h = (.ok 0, { h with files, journal, printed }) ∧
      files.contentAt config.storePath = .ok (Deflate.deflate envelope) := by
  obtain ⟨own, writable, -⟩ := decodeFile_eq_ok decoded
  obtain ⟨journal, loading⟩ := load_run_ok keeps.reads decoded
  obtain ⟨journal', migrating⟩ := migrate_of_lt writable legacy early { h with journal }
  have keeps' : Maintainable config { h with journal := journal' } bytes :=
    ⟨⟨keeps.reads.calm, keeps.reads.content⟩, keeps.faultless, keeps.short, keeps.untagged⟩
  obtain ⟨fileHash, files, saving, content⟩ :=
    save_run_ok (s := { s with version := .v1 }) keeps' own writable encoded
  obtain ⟨printed, saying⟩ := say_run
    (printable_migrated keeps.untagged s.version.tag FormatVersion.v1.tag)
    { h with journal := journal', files }
  refine ⟨files, journal', printed, ?_, content⟩
  rw [migrate, Action.run_bind, loading]
  dsimp only
  rw [Action.run_bind, Action.run_mapError, migrating]
  dsimp only
  rw [Action.run_bind, saving]
  dsimp only
  rw [Action.run_bind, saying]
  rfl

theorem migrate_run_of_le (keeps : Maintainable config h bytes)
    (decoded : decodeFile config.storePath false bytes = .ok s) (legacy : s.version = .v0)
    {r : CheckRecord} (member : r ∈ s.records) (late : 0x8000000000000000 ≤ r.timestamp) :
    ∃ t journal, (migrate config).run h =
      (.error (.store (.encoding (.timestampTooLate t))), { h with journal }) := by
  obtain ⟨-, writable, -⟩ := decodeFile_eq_ok decoded
  obtain ⟨journal, loading⟩ := load_run_ok keeps.reads decoded
  obtain ⟨t, journal', migrating⟩ := migrate_of_le writable legacy member late { h with journal }
  refine ⟨t, journal', ?_⟩
  rw [migrate, Action.run_bind, loading]
  dsimp only
  rw [Action.run_bind, Action.run_mapError, migrating]

theorem migrate_run_of_current (keeps : Maintainable config h bytes)
    (decoded : decodeFile config.storePath false bytes = .ok s) (current : s.version = .current) :
    ∃ journal printed, (migrate config).run h = (.ok 0, { h with journal, printed }) := by
  obtain ⟨-, writable, -⟩ := decodeFile_eq_ok decoded
  obtain ⟨journal, loading⟩ := load_run_ok keeps.reads decoded
  have migrating := migrate_of_current writable current { h with journal }
  obtain ⟨printed, saying⟩ := say_run (printable_upToDate s.version.tag) { h with journal }
  refine ⟨journal, printed, ?_⟩
  rw [migrate, Action.run_bind, loading]
  dsimp only
  rw [Action.run_bind, Action.run_mapError, migrating]
  dsimp only
  rw [Action.run_bind, saying]
  rfl

theorem say_files (markup : String) (h : Host) : ((say markup).run h).2.files = h.files := by
  obtain ⟨printed, ran⟩ := Console.printWrapped_run .output markup h
  rw [say, Action.run_mapError, ran]
  cases Markup.plainText h.emoji markup <;> rfl

theorem files_of_say {markup : String} {k : Host} {status : Nat}
    (ran : (do
      say markup
      return 0 : Run Nat).run h = (.ok status, k)) : k.files = h.files := by
  obtain ⟨_, j, saying, ran⟩ := Action.run_bind_ok ran
  cases ran
  have same := say_files markup h
  rwa [saying] at same

/-- Once the command has ended the file is of the current version, whether it was before or not. -/
theorem migrate_hasVersion {k : Host} {status : Nat} (ran : (migrate config).run h = (.ok status, k)) :
    HasVersion k.files config.storePath .current := by
  obtain ⟨s, i, loading, ran⟩ := Action.run_bind_ok ran
  have loaded := Action.run_of_mapError_ok loading
  have files := @load_keepsFiles config.storePath false h
  rw [loaded] at files
  have found := congrArg Prod.fst loaded
  obtain ⟨bytes, -, decoded⟩ := load_ok found
  obtain ⟨own, writable, -⟩ := decodeFile_eq_ok decoded
  obtain ⟨result, j, migrating, ran⟩ := Action.run_bind_ok ran
  have migrated := Action.run_of_mapError_ok migrating
  cases version : s.version with
  | v1 =>
    rw [migrate_of_current writable version] at migrated
    cases migrated
    have has := HasVersion.of_load found
    rw [version] at has
    exact has.of_contentAt (by rw [files_of_say ran, files])
  | v0 =>
    by_cases early : ∀ r ∈ s.records, r.timestamp < 0x8000000000000000
    · obtain ⟨journal, upgraded⟩ := migrate_of_lt writable version early i
      rw [upgraded] at migrated
      cases migrated
      obtain ⟨s', m, saving, ran⟩ := Action.run_bind_ok ran
      have saved := HasVersion.of_save (Action.run_of_mapError_ok saving) own
      exact saved.2.of_contentAt (by rw [files_of_say ran])
    · push Not at early
      obtain ⟨r, member, late⟩ := early
      obtain ⟨t, journal, refused⟩ := migrate_of_le writable version member late i
      rw [refused] at migrated
      cases migrated

/-! ### The history in the file -/

/-- The file at the path is loaded as a store of the version with the records. -/
def LoadsAs (h : Host) (path : Path) (version : FormatVersion) (records : List CheckRecord) : Prop :=
  ∃ s, ((Store.load path).run h).1 = .ok s ∧ s.version = version ∧ s.records = records

/-- The file at the path is one compressed stream of the envelope. -/
def Inflates (h : Host) (path : Path) (envelope : List UInt8) : Prop :=
  ∃ bytes, h.files.contentAt path = .ok bytes ∧ Deflate.inflate bytes = .finished envelope []

/-- What the commands for maintenance do with a store. -/
structure KeepsHistory (path : Path) (s : Store) (h : Host) (rewrite migrate : Run Nat) : Prop where
  /-- A second rewrite changes nothing about the envelope. -/
  rewritten : ∃ h' h'' envelope, rewrite.run h = (.ok 0, h') ∧
    LoadsAs h' path s.version s.records ∧ Inflates h' path envelope ∧
    rewrite.run h' = (.ok 0, h'') ∧ Inflates h'' path envelope
  migrated : s.version = .v0 → (∀ r ∈ s.records, r.timestamp < 0x8000000000000000) →
    ∃ h', migrate.run h = (.ok 0, h') ∧ LoadsAs h' path .current s.records
  refused : s.version = .v0 → (∃ r ∈ s.records, 0x8000000000000000 ≤ r.timestamp) →
    ∃ h', migrate.run h = (.ok 1, h') ∧ h'.files = h.files
  upToDate : s.version = .current → ∃ h', migrate.run h = (.ok 0, h') ∧ h'.files = h.files

theorem loadsAs_of_canonical {path : Path} {version : FormatVersion} {records : List CheckRecord}
    (reads : Reads h path (Deflate.deflate envelope))
    (encoded : Envelope.encodeBytes version records = .ok envelope)
    (canonical : CheckRecord.AllCanonical records) : LoadsAs h path version records := by
  obtain ⟨s, decoded, version, records⟩ := decodeFile_of_canonical path false encoded canonical
  exact ⟨s, (load_run reads.content reads.calm decoded).1, version, records⟩

theorem rewrite_twice (keeps : Maintainable config h bytes)
    (decoded : decodeFile config.storePath false bytes = .ok s) :
    ∃ h' h'' envelope, (rewrite config).run h = (.ok 0, h') ∧
      LoadsAs h' config.storePath s.version s.records ∧ Inflates h' config.storePath envelope ∧
      (rewrite config).run h' = (.ok 0, h'') ∧ Inflates h'' config.storePath envelope := by
  obtain ⟨-, -, canonical⟩ := decodeFile_eq_ok decoded
  obtain ⟨envelope, encoded⟩ := exists_encodeBytes_of_decodeFile decoded
  obtain ⟨files, journal, printed, first, content⟩ := rewrite_run keeps decoded encoded
  have reads : Reads { h with files, journal, printed } config.storePath (Deflate.deflate envelope) :=
    ⟨keeps.reads.calm, content⟩
  have keeps' : Maintainable config { h with files, journal, printed } (Deflate.deflate envelope) :=
    ⟨reads, keeps.faultless, keeps.short, keeps.untagged⟩
  -- What is rewritten the second time is what was written the first time.
  obtain ⟨s', decoded', version, records⟩ :=
    decodeFile_of_canonical config.storePath false encoded canonical
  have encoded' : Envelope.encodeBytes s'.version s'.records = .ok envelope := by
    rw [version, records, encoded]
  obtain ⟨files', journal', printed', second, content'⟩ := rewrite_run keeps' decoded' encoded'
  exact ⟨_, _, envelope, first, loadsAs_of_canonical reads encoded canonical,
    ⟨_, content, Deflate.inflate_deflate envelope⟩, second,
    ⟨_, content', Deflate.inflate_deflate envelope⟩⟩

/-- For every file that can be loaded: `rewrite` keeps version and records, `migrate` takes the records
to the current version or, if one of them has no room there, leaves all files as they are. -/
theorem maintenance_keepsHistory {settings : Settings} (transport : Transport)
    {args args' : List String} {store : Option String}
    (rewrites : ReaderCommand.parse args = .ok ⟨store, .rewrite⟩)
    (migrates : ReaderCommand.parse args' = .ok ⟨store, .migrate⟩)
    (configured : configuration settings store = .ok config)
    (loaded : ((Store.load config.storePath).run h).1 = .ok s)
    (untagged : Untagged config.storePath.text.toList) (faultless : Faultless h)
    (short : (temporaryName config.storePath.name 0).utf8ByteSize ≤ FileTree.maxNameSize) :
    KeepsHistory config.storePath s h (reader settings transport args)
      (reader settings transport args') := by
  obtain ⟨bytes, reads, decoded⟩ := reads_of_load loaded
  obtain ⟨-, -, canonical⟩ := decodeFile_eq_ok decoded
  obtain ⟨few, fit⟩ := fits_of_decodeFile decoded
  have keeps : Maintainable config h bytes := ⟨reads, faultless, short, untagged⟩
  rw [reader_eq rewrites configured (by decide), reader_eq migrates configured (by decide)]
  constructor
  · obtain ⟨h', h'', envelope, first, loads, inflates, second, inflates'⟩ :=
      rewrite_twice keeps decoded
    exact ⟨h', h'', envelope, tellingStoreErrors_of_ok first, loads, inflates,
      tellingStoreErrors_of_ok second, inflates'⟩
  · intro legacy early
    rw [legacy] at fit
    obtain ⟨envelope, encoded⟩ := Envelope.exists_encodeBytes few (Envelope.fits_of_upgrade fit early)
    obtain ⟨files, journal, printed, ran, content⟩ := migrate_run_of_lt keeps decoded legacy early encoded
    exact ⟨_, tellingStoreErrors_of_ok ran,
      loadsAs_of_canonical ⟨reads.calm, content⟩ encoded canonical⟩
  · rintro legacy ⟨r, member, late⟩
    obtain ⟨t, journal, failed⟩ := migrate_run_of_le keeps decoded legacy member late
    have untagged' : '[' ∉ (StoreError.encoding (.timestampTooLate t)).message.toList := by
      show '[' ∉ ("Timestamp " ++ toString t ++ " does not fit the V1 layout").toList
      simp only [String.toList_append, List.mem_append,
        notMem_intText (c := '[') (by decide) (by decide)]
      decide
    obtain ⟨printed, told⟩ := tellingStoreErrors_of_store failed untagged'
    exact ⟨_, told, rfl⟩
  · intro current
    obtain ⟨journal, printed, ran⟩ := migrate_run_of_current keeps decoded current
    exact ⟨_, tellingStoreErrors_of_ok ran, rfl⟩

/-- A file of version 0 with a record that is too late for version 1. -/
def legacyHost : Host where
  files := ⟨[(["checks"], .file (Deflate.deflate
    (Envelope.header .v0 2 ++ Envelope.body Envelope.legacyFields)))]⟩

theorem maintenance_keepsHistory_legacy :
    ∃ h' h'' envelope records,
      (reader checksSettings (fun _ => .pending) ["rewrite"]).run legacyHost = (.ok 0, h') ∧
      LoadsAs h' checksPath .v0 records ∧ Inflates h' checksPath envelope ∧ records.length = 2 ∧
      (reader checksSettings (fun _ => .pending) ["rewrite"]).run h' = (.ok 0, h'') ∧
      Inflates h'' checksPath envelope ∧
      ∃ k, (reader checksSettings (fun _ => .pending) ["migrate"]).run legacyHost = (.ok 1, k) ∧
        k.files = legacyHost.files := by
  obtain ⟨config, configured, place, -⟩ := configuration_checksSettings
  have content : legacyHost.files.contentAt checksPath = .ok (Deflate.deflate
      (Envelope.header .v0 2 ++ Envelope.body Envelope.legacyFields)) := rfl
  obtain ⟨s, decoded, version, records⟩ := decodeFile_of_decode checksPath false
    (Deflate.inflate_deflate _)
    (Envelope.decode_header_body (by decide) Envelope.legacyFields_wellFormed)
  have loaded : ((Store.load config.storePath).run legacyHost).1 = .ok s := by
    rw [place]
    exact (load_run content rfl decoded).1
  have rewrites : ReaderCommand.parse ["rewrite"] = .ok ⟨none, .rewrite⟩ := by decide +kernel
  have migrates : ReaderCommand.parse ["migrate"] = .ok ⟨none, .migrate⟩ := by decide +kernel
  have keeps := maintenance_keepsHistory (fun _ => .pending) rewrites migrates configured loaded
    (by rw [place]; exact untagged_of_notMem (by decide)) (fun _ => rfl) (by rw [place]; decide)
  rw [place] at keeps
  obtain ⟨h', h'', envelope, first, loads, inflates, second, inflates'⟩ := keeps.rewritten
  have late : ∃ r ∈ s.records, 0x8000000000000000 ≤ r.timestamp := by
    rw [records]
    exact ⟨_, List.mem_cons_of_mem _ (List.mem_cons_self ..), by decide⟩
  obtain ⟨k, refused, same⟩ := keeps.refused version late
  rw [version, records] at loads
  exact ⟨h', h'', envelope, _, first, loads, inflates, rfl, second, inflates', k, refused, same⟩

end LinkMonitor.Program
