import LinkMonitor.Proofs.Envelope.NormalForm

/-!
# Records that have an encoding

A layout has room for the timestamps of a range, and for everything else. What was decoded from a
version lies in its range, so that it can be encoded again; an upgrade is refused exactly if a timestamp
leaves the range of the next version.
-/

namespace LinkMonitor

/-- The timestamps that the layout of a version has room for. -/
def FormatVersion.Fits : FormatVersion → Int → Prop
  | .v0, t => 0 ≤ t ∧ t < 0x10000000000000000
  | .v1, t => -0x8000000000000000 ≤ t ∧ t < 0x8000000000000000

namespace Envelope

open Layout

variable {version : FormatVersion} {records : List CheckRecord}

theorem exists_encode?_iff (version : FormatVersion) (r : CheckRecord) :
    (∃ bytes, Layout.encode? version r = some bytes) ↔ version.Fits r.timestamp := by
  cases version with
  | v0 =>
    show (∃ bytes, encodeFlagged? r = some bytes) ↔ _
    unfold encodeFlagged? FormatVersion.Fits
    simp
  | v1 =>
    show (∃ bytes, encodeTagged? r = some bytes) ↔ _
    unfold encodeTagged? FormatVersion.Fits
    simp

theorem exists_mapM_encodeRecord (fit : ∀ r ∈ records, version.Fits r.timestamp) :
    ∃ pieces, records.mapM (encodeRecord version) = .ok pieces := by
  induction records with
  | nil => exact ⟨[], rfl⟩
  | cons r records ih =>
    obtain ⟨piece, encoded⟩ := (exists_encode?_iff version r).mpr (fit r (by simp))
    obtain ⟨pieces, others⟩ := ih fun s member => fit s (by simp [member])
    refine ⟨piece :: pieces, ?_⟩
    rw [List.mapM_cons, encodeRecord, encoded, others]
    rfl

theorem exists_encodeBytes (few : records.length ≤ 0xffffffff)
    (fit : ∀ r ∈ records, version.Fits r.timestamp) :
    ∃ bytes, encodeBytes version records = .ok bytes := by
  obtain ⟨pieces, encoded⟩ := exists_mapM_encodeRecord fit
  exact ⟨_, encodeBytes_of_pieces few encoded⟩

/-- What was decoded from a version has its encoding in it. -/
theorem fits_of_decode {bytes : List UInt8} (decoded : decode bytes = .ok (version, records)) :
    records.length ≤ 0xffffffff ∧ ∀ r ∈ records, version.Fits r.timestamp := by
  rcases decode_cases bytes with ⟨version', fields, few, wellFormed, -, found⟩ | ⟨e, failed, -⟩
  · rw [decoded] at found
    cases found
    refine ⟨by rwa [List.length_map], fun r member => ?_⟩
    obtain ⟨f, among, rfl⟩ := List.mem_map.mp member
    exact (exists_encode?_iff version f.record).mp
      ⟨_, Fields.encode?_record (wellFormed f among)⟩
  · rw [decoded] at failed
    cases failed

/-! ### Upgrades -/

theorem upgrade_of_lt (early : ∀ r ∈ records, r.timestamp < 0x8000000000000000) :
    upgrade .v0 records = .ok (.v1, records) := by
  have none : records.find? (fun r => 0x8000000000000000 ≤ r.timestamp) = none := by
    rw [List.find?_eq_none]
    intro r member
    have := early r member
    simpa using this
  rw [upgrade, none]

/-- The first record that is too late keeps all of them from the new version. -/
theorem upgrade_of_le {r : CheckRecord} (member : r ∈ records)
    (late : 0x8000000000000000 ≤ r.timestamp) :
    ∃ before first after, records = before ++ first :: after ∧
      (∀ x ∈ before, x.timestamp < 0x8000000000000000) ∧ 0x8000000000000000 ≤ first.timestamp ∧
      upgrade .v0 records = .error (.timestampTooLate first.timestamp) := by
  have some : (records.find? fun r => 0x8000000000000000 ≤ r.timestamp).isSome = true := by
    rw [List.find?_isSome]
    exact ⟨r, member, by simpa using late⟩
  obtain ⟨first, found⟩ := Option.isSome_iff_exists.mp some
  obtain ⟨here, before, after, split, early⟩ := List.find?_eq_some_iff_append.mp found
  refine ⟨before, first, after, split, fun x among => ?_, by simpa using here, by rw [upgrade, found]⟩
  simpa using early x among

/-- Records that fit the old layout, and are early enough for an upgrade, fit the new one. -/
theorem fits_of_upgrade (fit : ∀ r ∈ records, FormatVersion.v0.Fits r.timestamp)
    (early : ∀ r ∈ records, r.timestamp < 0x8000000000000000) :
    ∀ r ∈ records, FormatVersion.v1.Fits r.timestamp := by
  intro r member
  obtain ⟨nonneg, -⟩ := fit r member
  have bound := early r member
  exact ⟨by omega, bound⟩

end Envelope
end LinkMonitor
