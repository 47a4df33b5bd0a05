import LinkMonitor.Proofs.Envelope.Representable
import LinkMonitor.Proofs.Files.Named
import LinkMonitor.Proofs.Store.Peek

/-!
# Saving what was loaded

A store that was loaded can be saved again; what is in its file afterwards are the records that were
loaded.
-/

namespace LinkMonitor.Store

open CheckRecord

variable {path : Path} {readonly : Bool} {bytes envelope : List UInt8} {s : Store} {h : Host}

/-! ### Loads -/

theorem load_run_of_reads (reads : Reads h path bytes)
    (decoded : decodeFile path readonly bytes = .ok s) :
    ∃ journal, (load path readonly).run h = (.ok s, { h with journal }) := by
  rw [load, Action.run_bind, readStoreFile_of_reads reads]
  dsimp only
  rw [Action.run_bind, Action.run_ofExcept, decoded]
  dsimp only
  split
  · exact ⟨_, rfl⟩
  · exact ⟨h.journal, rfl⟩

theorem reads_of_load (loaded : ((load path readonly).run h).1 = .ok s) :
    ∃ bytes, Reads h path bytes ∧ decodeFile path readonly bytes = .ok s := by
  rw [load_result] at loaded
  obtain ⟨bytes, read, decoded⟩ := ok_of_bind loaded
  refine ⟨bytes, ?_, decoded⟩
  rw [readStoreFile_run] at read
  cases calm : h.readFault with
  | some fault =>
    rw [calm] at read
    cases read
  | none =>
    rw [calm] at read
    dsimp only at read
    refine ⟨calm, ?_⟩
    rw [readBytes] at read
    split at read
    · next content => rw [content, Except.ok.inj read]
    · cases read

theorem decodeFile_of_decode (path : Path) (readonly : Bool) {version : FormatVersion}
    {records : List CheckRecord} (whole : Deflate.inflate bytes = .finished envelope [])
    (decoded : Envelope.decode envelope = .ok (version, records)) :
    ∃ s, decodeFile path readonly bytes = .ok s ∧ s.version = version ∧ s.records = records := by
  rw [decodeFile, readEnvelope_eq, whole]
  simp only [List.isEmpty_nil, if_true, bind, Except.bind, decoded]
  exact ⟨_, rfl, rfl, rfl⟩

/-- The file is loaded as the same store whether or not it may be changed. -/
theorem decodeFile_readonly (decoded : decodeFile path readonly bytes = .ok s) (other : Bool) :
    decodeFile path other bytes = .ok { s with readonly := other } := by
  obtain ⟨⟨envelope, hash⟩, read, decoded⟩ := ok_of_bind decoded
  dsimp only at decoded
  cases known : Envelope.decode envelope with
  | error e =>
    rw [known] at decoded
    cases decoded
  | ok found =>
    rw [known] at decoded
    cases decoded
    rw [decodeFile, read]
    simp only [bind, Except.bind, known]
    rfl

/-- What a file holds has room in the layout of its version. -/
theorem fits_of_decodeFile (decoded : decodeFile path readonly bytes = .ok s) :
    s.records.length ≤ 0xffffffff ∧ ∀ r ∈ s.records, s.version.Fits r.timestamp := by
  rcases decodeFile_stream path readonly bytes with
    ⟨e, failed, -⟩ | ⟨envelope, -, ⟨s', ran, known⟩ | ⟨e, failed, -⟩⟩
  · rw [decoded] at failed
    cases failed
  · rw [decoded] at ran
    cases ran
    exact Envelope.fits_of_decode known
  · rw [decoded] at failed
    cases failed

theorem exists_encodeBytes_of_decodeFile (decoded : decodeFile path readonly bytes = .ok s) :
    ∃ envelope, Envelope.encodeBytes s.version s.records = .ok envelope := by
  obtain ⟨few, fit⟩ := fits_of_decodeFile decoded
  exact Envelope.exists_encodeBytes few fit

/-! ### Saves -/

/-- Where a file can be read it can be replaced, as long as nothing strikes the save. -/
theorem save_of_content (content : h.files.contentAt path = .ok bytes) (faultless : Faultless h)
    (short : (temporaryName path.name 0).utf8ByteSize ≤ FileTree.maxNameSize)
    (own : s.path = some path) (writable : s.readonly = false)
    (encoded : Envelope.encodeBytes s.version s.records = .ok envelope) :
    ∃ fileHash files, s.save.run h = (.ok { s with path := some path, fileHash }, { h with files }) ∧
      files.contentAt path = .ok (Deflate.deflate envelope) := by
  have ready : Ready path h := ready_of_content (suitable_of_content content short) faultless content
  have target : (none <|> s.path) = some path := own
  rw [save_run, writable, if_neg (by decide), target]
  dsimp only
  rcases writeTo_run s path h with
    ⟨e, t, failed, -, -⟩ | ⟨envelope', t, encoded', -, ⟨replacement⟩, ran⟩
  · cases failed with
    | unprepared e cause => exact absurd ready cause
    | unwritable e cause => exact absurd ready cause
    | encoding e cause =>
      rw [encoded] at cause
      cases cause
  · rw [encoded] at encoded'
    cases encoded'
    rw [ran]
    exact ⟨_, t, rfl, replacement.contentAt⟩

/-- A file with the encoding of canonical records holds these. -/
theorem decodeFile_of_canonical (path : Path) (readonly : Bool) {version : FormatVersion}
    {records : List CheckRecord} (encoded : Envelope.encodeBytes version records = .ok envelope)
    (canonical : AllCanonical records) :
    ∃ s, decodeFile path readonly (Deflate.deflate envelope) = .ok s ∧ s.version = version ∧
      s.records = records :=
  ⟨_, decodeFile_deflate path readonly encoded, rfl, map_canonical_of_allCanonical canonical⟩

end LinkMonitor.Store
