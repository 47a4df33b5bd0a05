import LinkMonitor.Proofs.Envelope.Representable
import LinkMonitor.Proofs.Store.Operation

/-!
# Migrations

A migration takes all records of a store to the current version, or leaves the store and all files as
they are.
-/

namespace LinkMonitor.Store

variable {s : Store}

theorem migrateInPlace_of_locked (locked : s.readonly = true) (h : Host) :
    migrateInPlace.run s h = (.error .readonlyMigration, s, h) := by
  rw [migrateInPlace_run, if_pos locked]

theorem migrateInPlace_of_current (writable : s.readonly = false) (current : s.version = .current)
    (h : Host) : migrateInPlace.run s h = (.ok false, s, h) := by
  have recent : s.needsMigration = false := by rw [needsMigration, current]; rfl
  rw [migrateInPlace_run, writable, if_neg (by decide), recent, if_pos (by decide)]

/-- What becomes of an outdated store is up to the one step that it has before it. -/
theorem migrateInPlace_of_legacy (writable : s.readonly = false) (legacy : s.version = .v0)
    (h : Host) :
    ∃ journal, migrateInPlace.run s h = match Envelope.upgrade .v0 s.records with
      | .ok (_, records) => (.ok true, { s with version := .v1, records }, { h with journal })
      | .error e => (.error (.encoding e), s, { h with journal }) := by
  have outdated : s.needsMigration = true := by rw [needsMigration, legacy]; rfl
  rw [migrateInPlace_run, writable, if_neg (by decide), outdated, if_neg (by decide), legacy,
    upgradeAll_of_next rfl]
  cases upgraded : Envelope.upgrade .v0 s.records with
  | error e => exact ⟨_, rfl⟩
  | ok result =>
    obtain rfl := Envelope.upgrade_eq_ok rfl upgraded
    dsimp only
    rw [upgradeAll_of_last rfl]
    exact ⟨_, rfl⟩

/-- Early records reach the current version. -/
theorem migrateInPlace_of_lt (writable : s.readonly = false) (legacy : s.version = .v0)
    (early : ∀ r ∈ s.records, r.timestamp < 0x8000000000000000) (h : Host) :
    ∃ journal, migrateInPlace.run s h = (.ok true, { s with version := .v1 }, { h with journal }) := by
  obtain ⟨journal, ran⟩ := migrateInPlace_of_legacy writable legacy h
  rw [Envelope.upgrade_of_lt early] at ran
  exact ⟨journal, ran⟩

/-- A single late record keeps a store from the current version. -/
theorem migrateInPlace_of_le (writable : s.readonly = false) (legacy : s.version = .v0)
    {r : CheckRecord} (member : r ∈ s.records) (late : 0x8000000000000000 ≤ r.timestamp)
    (h : Host) :
    ∃ before first after journal, s.records = before ++ first :: after ∧
      (∀ x ∈ before, x.timestamp < 0x8000000000000000) ∧ 0x8000000000000000 ≤ first.timestamp ∧
      migrateInPlace.run s h =
        (.error (.encoding (.timestampTooLate first.timestamp)), s, { h with journal }) := by
  obtain ⟨journal, ran⟩ := migrateInPlace_of_legacy writable legacy h
  obtain ⟨before, first, after, split, early, here, refused⟩ := Envelope.upgrade_of_le member late
  rw [refused] at ran
  exact ⟨before, first, after, journal, split, early, here, ran⟩

/-! ### The migrated store as a result -/

theorem migrate_run (s : Store) (h : Host) :
    s.migrate.run h =
      ((migrateInPlace.run s h).1.map fun changed => (changed, (migrateInPlace.run s h).2.1),
        (migrateInPlace.run s h).2.2) := rfl

theorem migrate_of_current (writable : s.readonly = false) (current : s.version = .current)
    (h : Host) : s.migrate.run h = (.ok (false, s), h) := by
  rw [migrate_run, migrateInPlace_of_current writable current]
  rfl

theorem migrate_of_lt (writable : s.readonly = false) (legacy : s.version = .v0)
    (early : ∀ r ∈ s.records, r.timestamp < 0x8000000000000000) (h : Host) :
    ∃ journal, s.migrate.run h = (.ok (true, { s with version := .v1 }), { h with journal }) := by
  obtain ⟨journal, ran⟩ := migrateInPlace_of_lt writable legacy early h
  rw [migrate_run, ran]
  exact ⟨journal, rfl⟩

theorem migrate_of_le (writable : s.readonly = false) (legacy : s.version = .v0) {r : CheckRecord}
    (member : r ∈ s.records) (late : 0x8000000000000000 ≤ r.timestamp) (h : Host) :
    ∃ t journal, s.migrate.run h = (.error (.encoding (.timestampTooLate t)), { h with journal }) := by
  obtain ⟨-, first, -, journal, -, -, -, ran⟩ := migrateInPlace_of_le writable legacy member late h
  rw [migrate_run, ran]
  exact ⟨first.timestamp, journal, rfl⟩

/-! ### All that can come of a migration -/

/-- Records that were decoded from an older version and have been migrated are encoded in the current
one, and decoded from there as they are. -/
theorem decode_migrated {h h' : Host} {s' : Store} {envelope : List UInt8}
    (decoded : Envelope.decode envelope = .ok (.v0, s.records)) (legacy : s.version = .v0)
    (migrated : migrateInPlace.run s h = (.ok true, s', h')) :
    ∃ upgraded, Envelope.encodeBytes s'.version s'.records = .ok upgraded ∧
      Envelope.decode upgraded = .ok (.current, s.records) := by
  have writable : s.readonly = false := by
    by_contra locked
    rw [migrateInPlace_of_locked (by simpa using locked)] at migrated
    cases migrated
  have early : ∀ r ∈ s.records, r.timestamp < 0x8000000000000000 := by
    intro r member
    by_contra late
    obtain ⟨-, first, -, journal, -, -, -, refused⟩ :=
      migrateInPlace_of_le writable legacy member (Int.not_lt.mp late) h
    rw [refused] at migrated
    cases migrated
  obtain ⟨journal, ran⟩ := migrateInPlace_of_lt writable legacy early h
  rw [ran] at migrated
  cases migrated
  obtain ⟨few, fit⟩ := Envelope.fits_of_decode decoded
  obtain ⟨upgraded, encoded⟩ :=
    Envelope.exists_encodeBytes few (Envelope.fits_of_upgrade fit early)
  refine ⟨upgraded, encoded, ?_⟩
  rw [Envelope.decode_of_encodeBytes encoded,
    CheckRecord.map_canonical_of_allCanonical (Envelope.decode_allCanonical decoded)]
  rfl

/-- A migration never touches a file. A readonly store is refused and a current one is left alone. Of
an older one either all records reach the current version as they are, or, exactly if one of them is too
late for it, the first such record is complained about and the store stays as it was. What was decoded
from an envelope of the older version and reaches the current one has an envelope there, which decodes
to the same records. -/
theorem migration_upgrades_or_untouched (s : Store) (h : Host) :
    (s.readonly = true → migrateInPlace.run s h = (.error .readonlyMigration, s, h)) ∧
    (s.readonly = false → s.version = .current → migrateInPlace.run s h = (.ok false, s, h)) ∧
    (s.readonly = false → s.version ≠ .current →
      (∃ journal, (∀ r ∈ s.records, r.timestamp < 0x8000000000000000) ∧
        migrateInPlace.run s h = (.ok true, { s with version := .current }, { h with journal })) ∨
      ∃ before first after journal, s.records = before ++ first :: after ∧
        (∀ r ∈ before, r.timestamp < 0x8000000000000000) ∧ 0x8000000000000000 ≤ first.timestamp ∧
        migrateInPlace.run s h =
          (.error (.encoding (.timestampTooLate first.timestamp)), s, { h with journal })) ∧
    ∀ envelope s' h', Envelope.decode envelope = .ok (.v0, s.records) → s.version = .v0 →
      migrateInPlace.run s h = (.ok true, s', h') →
      ∃ upgraded, Envelope.encodeBytes s'.version s'.records = .ok upgraded ∧
        Envelope.decode upgraded = .ok (.current, s.records) := by
  refine ⟨fun locked => migrateInPlace_of_locked locked h,
    fun writable current => migrateInPlace_of_current writable current h, fun writable older => ?_,
    fun envelope s' h' decoded legacy migrated => decode_migrated decoded legacy migrated⟩
  have legacy : s.version = .v0 := by
    cases known : s.version with
    | v0 => rfl
    | v1 => exact absurd known older
  by_cases early : ∀ r ∈ s.records, r.timestamp < 0x8000000000000000
  · obtain ⟨journal, ran⟩ := migrateInPlace_of_lt writable legacy early h
    exact .inl ⟨journal, early, ran⟩
  · push Not at early
    obtain ⟨r, member, late⟩ := early
    exact .inr (migrateInPlace_of_le writable legacy member late h)

/-- The later one of two records of version 0 keeps both from the current version; the other one reaches
it alone. -/
theorem migration_upgrades_or_untouched_legacy :
    let both : Store := { records := Envelope.legacyFields.map Layout.Fields.record, version := .v0 }
    let alone : Store :=
      { records := (Envelope.legacyFields.take 1).map Layout.Fields.record, version := .v0 }
    (∃ e journal, migrateInPlace.run both {} =
      (.error (.encoding (.timestampTooLate e)), both, { journal })) ∧
    ∃ s h upgraded, migrateInPlace.run alone {} = (.ok true, s, h) ∧
      Envelope.encodeBytes s.version s.records = .ok upgraded ∧
      Envelope.decode upgraded = .ok (.current, alone.records) := by
  intro both alone
  constructor
  · obtain ⟨-, -, older, -⟩ := migration_upgrades_or_untouched both {}
    rcases older rfl (by decide) with
      ⟨journal, early, -⟩ | ⟨-, first, -, journal, -, -, -, refused⟩
    · exact absurd (early _ (List.mem_cons_of_mem _ (List.mem_cons_self ..))) (by decide)
    · exact ⟨first.timestamp, journal, refused⟩
  · obtain ⟨-, -, older, decodes⟩ := migration_upgrades_or_untouched alone {}
    have few : (Envelope.legacyFields.take 1).length ≤ 0xffffffff := by decide
    have decoded := Envelope.decode_header_body few fun f member =>
      Envelope.legacyFields_wellFormed f (List.mem_of_mem_take member)
    rcases older rfl (by decide) with
      ⟨journal, -, migrated⟩ | ⟨before, first, after, -, split, -, late, -⟩
    · obtain ⟨upgraded, encoded, read⟩ := decodes _ _ _ decoded rfl migrated
      exact ⟨_, _, upgraded, migrated, encoded, read⟩
    · have member : first ∈ alone.records := split ▸ List.mem_append_right _ (List.mem_cons_self ..)
      rw [List.mem_singleton.mp member] at late
      exact absurd late (by decide)

end LinkMonitor.Store
