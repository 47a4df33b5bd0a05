import LinkMonitor.Proofs.Store.AllOrNothing

/-!
# Operations on a store

Everything that a program does with a store it has, whatever comes of it: records are added, the store
is migrated or saved, or it is asked about itself and its file. `Effect` says once what each of these
does to store and host.
-/

namespace LinkMonitor.Store

inductive Operation
  | addCheck (record : CheckRecord)
  | addChecks (batch : List CheckRecord)
  | migrate
  | save (path : Option Path)
  | canonicalBytes
  | displayHash
  | sizeInMemory
  | hashOfFile (path : Option Path)
  | sizeOnDisk (path : Option Path)
  | compressionRatio (path : Option Path)

/-- What an operation that succeeds gives back. -/
inductive Answer
  | nothing
  | changed (yes : Bool)
  | bytes (bytes : List UInt8)
  | hash (text : String)
  | size (count : Nat)
  | ratio (value : Binary64)

/-- An answer that leaves store and host alone. -/
def InPlace.tell (f : Store → FileTree → Except StoreError Answer) : InPlace Answer := fun (s, h) =>
  (f s h.files, s, h)

namespace Operation

def perform : Operation → InPlace Answer
  | addCheck record => do
    InPlace.setStore ((← InPlace.store).append [record])
    return .nothing
  | addChecks batch => do
    InPlace.setStore ((← InPlace.store).append batch)
    return .nothing
  | migrate => do return .changed (← migrateInPlace)
  | save path => do
    saveInPlace path
    return .nothing
  | canonicalBytes => InPlace.tell fun s _ => .bytes <$> s.canonicalBytes
  | displayHash => InPlace.tell fun s _ => .hash <$> s.displayHash
  | sizeInMemory => InPlace.tell fun s _ => .size <$> s.sizeInMemory
  | hashOfFile path => InPlace.tell fun s t => .hash <$> s.hashOfFile t path
  | sizeOnDisk path => InPlace.tell fun s t => .size <$> s.sizeOnDisk t path
  | compressionRatio path => InPlace.tell fun s t => .ratio <$> s.compressionRatio t path

/-- The records that an operation adds. -/
def added : Operation → List CheckRecord
  | addCheck record => [record]
  | addChecks batch => batch
  | _ => []

/-- Whether an operation only asks. -/
def isQuery : Operation → Bool
  | addCheck _ | addChecks _ | migrate | save _ => false
  | _ => true

theorem added_of_isQuery {o : Operation} (query : o.isQuery = true) : o.added = [] := by
  cases o <;> first | rfl | cases query

end Operation

/-! ### Migration -/

variable {version next : FormatVersion} {records : List CheckRecord}

theorem upgradeAll_of_last (last : version.next? = none) :
    upgradeAll version records = pure (version, records) := by
  rw [upgradeAll.eq_def]
  split
  · rfl
  · next later => rw [last] at later; cases later

/-- A step to the next version is announced before it is taken. -/
theorem upgradeAll_of_next (later : version.next? = some next) (h : Host) :
    (upgradeAll version records).run h =
      let announced : Host := { h with journal := h.journal ++
        [⟨.info, .general, Envelope.upgradeNotice records.length version next⟩] }
      match Envelope.upgrade version records with
      | .error e => (.error (.encoding e), announced)
      | .ok (version, records) => (upgradeAll version records).run announced := by
  rw [upgradeAll.eq_def]
  split
  · next last => rw [last] at later; cases later
  · next other same =>
    obtain rfl : other = next := Option.some.inj (same.symm.trans later)
    rw [Action.info, Action.run_bind, Action.run_write]
    cases Envelope.upgrade version records <;> rfl

/-- Records that reach the current version are the same records there. -/
theorem upgradeAll_run (version : FormatVersion) (records : List CheckRecord) (h : Host) :
    ∃ journal, (upgradeAll version records).run h = (.ok (.current, records), { h with journal }) ∨
      ∃ e, (upgradeAll version records).run h = (.error (.encoding e), { h with journal }) := by
  induction version, records using upgradeAll.induct generalizing h with
  | case1 version records last =>
    have current : version = .current := by
      cases version with
      | v0 => cases last
      | v1 => rfl
    rw [upgradeAll_of_last last, current]
    exact ⟨h.journal, .inl rfl⟩
  | case2 version records next later ih =>
    rw [upgradeAll_of_next later]
    dsimp only
    cases upgraded : Envelope.upgrade version records with
    | error e => exact ⟨_, .inr ⟨e, rfl⟩⟩
    | ok result =>
      obtain rfl := Envelope.upgrade_eq_ok later upgraded
      exact ih _ _ upgraded _

theorem migrateInPlace_run (s : Store) (h : Host) :
    migrateInPlace.run s h =
      if s.readonly then (.error .readonlyMigration, s, h)
      else if !s.needsMigration then (.ok false, s, h)
      else match (upgradeAll s.version s.records).run h with
        | (.ok (version, records), h) => (.ok true, { s with version, records }, h)
        | (.error e, h) => (.error e, s, h) := by
  have stored : InPlace.store.run s h = (.ok s, s, h) := rfl
  rw [migrateInPlace, InPlace.run_bind, stored]
  dsimp only
  split
  · rfl
  · split
    · rfl
    · have acted : (InPlace.act (upgradeAll s.version s.records)).run s h =
          (((upgradeAll s.version s.records).run h).1, s,
            ((upgradeAll s.version s.records).run h).2) := rfl
      rw [InPlace.run_bind, acted]
      rcases (upgradeAll s.version s.records).run h with ⟨r, k⟩
      cases r <;> rfl

/-! ### What an operation does -/

/-- What an operation on a store makes of it and of the host, and what it gives back. -/
inductive Effect (s : Store) (h : Host) : Operation → Except StoreError Answer × Store × Host → Prop
  | addCheck (record : CheckRecord) :
    Effect s h (.addCheck record) (.ok .nothing, s.append [record], h)
  | addChecks (batch : List CheckRecord) :
    Effect s h (.addChecks batch) (.ok .nothing, s.append batch, h)
  | migrated {journal : List Notice} (writable : s.readonly = false)
    (outdated : s.needsMigration = true) :
    Effect s h .migrate (.ok (.changed true), { s with version := .current }, { h with journal })
  | upToDate (writable : s.readonly = false) (current : s.needsMigration = false) :
    Effect s h .migrate (.ok (.changed false), s, h)
  | saved {path : Option Path} {target : Path} {envelope : List UInt8} {u : FileTree}
    {fileHash : Option String} (writable : s.readonly = false)
    (found : (path <|> s.path) = some target)
    (encoded : Envelope.encodeBytes s.version s.records = .ok envelope)
    (replaced : Nonempty (Replacement target (Deflate.deflate envelope) h.files u)) :
    Effect s h (.save path)
      (.ok .nothing, { s with path := some target, fileHash }, { h with files := u })
  | failed {o : Operation} {e : StoreError} {target? : Option Path} {u : FileTree}
    {journal : List Notice} (idle : o.added = []) (untouched : Untouched target? h.files u)
    (locked : s.readonly = true → u = h.files) :
    Effect s h o (.error e, s, { h with files := u, journal })
  | told {o : Operation} {answer : Answer} (query : o.isQuery = true) :
    Effect s h o (.ok answer, s, h)

variable {s : Store} {h : Host}

theorem effect_tell {o : Operation} {f : Store → FileTree → Except StoreError Answer}
    (query : o.isQuery = true) : Effect s h o ((InPlace.tell f).run s h) := by
  have told : (InPlace.tell f).run s h = (f s h.files, s, h) := rfl
  rw [told]
  cases f s h.files with
  | ok answer => exact .told query
  | error e => exact .failed (Operation.added_of_isQuery query) (.refl none h.files) fun _ => rfl

theorem effect_migrate (s : Store) (h : Host) :
    Effect s h .migrate (Operation.migrate.perform.run s h) := by
  rw [Operation.perform, InPlace.run_bind, migrateInPlace_run]
  by_cases locked : s.readonly = true
  · rw [if_pos locked]
    exact .failed (by rfl) (.refl none h.files) fun _ => rfl
  have writable : s.readonly = false := Bool.eq_false_iff.mpr locked
  rw [if_neg locked]
  cases outdated : s.needsMigration with
  | false => exact .upToDate writable outdated
  | true =>
    obtain ⟨journal, ran | ⟨e, ran⟩⟩ := upgradeAll_run s.version s.records h
    · rw [ran]
      exact .migrated writable outdated
    · rw [ran]
      exact .failed (by rfl) (.refl none h.files) fun _ => rfl

theorem effect_save (path : Option Path) (s : Store) (h : Host) :
    Effect s h (.save path) ((Operation.save path).perform.run s h) := by
  have outcome := saveInPlace_replaces_or_untouched path s h
  rw [Operation.perform, InPlace.run_bind]
  generalize ran : (saveInPlace path).run s h = result at outcome ⊢
  obtain ⟨r, s', h'⟩ := result
  cases r with
  | error e =>
    obtain ⟨-, rfl, host, untouched⟩ := outcome
    rw [host]
    refine .failed (by rfl) untouched fun locked => ?_
    rw [saveInPlace_run, if_pos locked] at ran
    cases ran
    rfl
  | ok _ =>
    obtain ⟨target, envelope, writable, found, encoded, replaced, host, rfl⟩ := outcome
    rw [host]
    exact .saved writable found encoded replaced

theorem perform_effect (o : Operation) (s : Store) (h : Host) : Effect s h o (o.perform.run s h) := by
  cases o with
  | addCheck record => exact .addCheck record
  | addChecks batch => exact .addChecks batch
  | migrate => exact effect_migrate s h
  | save path => exact effect_save path s h
  | canonicalBytes | displayHash | sizeInMemory | hashOfFile path | sizeOnDisk path
  | compressionRatio path =>
    rw [Operation.perform]
    exact effect_tell rfl

namespace Effect

variable {o : Operation} {r : Except StoreError Answer} {s' : Store} {h' : Host}

theorem records_eq (effect : Effect s h o (r, s', h')) : s'.records = s.records ++ o.added := by
  cases effect with
  | addCheck record => rfl
  | addChecks batch => rfl
  | migrated | upToDate | saved => exact (List.append_nil _).symm
  | failed idle => rw [idle, List.append_nil]
  | told query => rw [Operation.added_of_isQuery query, List.append_nil]

theorem readonly_eq (effect : Effect s h o (r, s', h')) : s'.readonly = s.readonly := by
  cases effect <;> rfl

theorem version_eq (effect : Effect s h o (r, s', h')) :
    s'.version = s.version ∨
      o = .migrate ∧ r = .ok (.changed true) ∧ s.needsMigration = true ∧ s'.version = .current := by
  cases effect with
  | migrated writable outdated => exact .inr ⟨rfl, rfl, outdated, rfl⟩
  | addCheck | addChecks | upToDate | saved | failed | told => exact .inl rfl

theorem store_of_error {e : StoreError} (effect : Effect s h o (.error e, s', h')) : s' = s := by
  cases effect
  rfl

/-- A readonly store is neither migrated nor saved. -/
theorem of_locked (effect : Effect s h o (r, s', h')) (locked : s.readonly = true) :
    s'.version = s.version ∧ h'.files = h.files := by
  cases effect with
  | migrated writable | saved writable => rw [locked] at writable; cases writable
  | failed idle untouched same => exact ⟨rfl, same locked⟩
  | addCheck | addChecks | upToDate | told => exact ⟨rfl, rfl⟩

end Effect

end LinkMonitor.Store
