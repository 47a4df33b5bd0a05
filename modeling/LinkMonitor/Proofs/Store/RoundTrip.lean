import LinkMonitor.Proofs.Store.Load

/-!
# Loading what was saved

A store that has been saved can be loaded again, and comes back as it was. The hash that the save has
noted, the one that the load notes and the one of the file agree.
-/

namespace LinkMonitor.Store

/-- The loaded store is the saved one, with the canonical text of its targets. -/
structure Restored (saved loaded : Store) : Prop where
  version : loaded.version = saved.version
  records : loaded.records = saved.records.map CheckRecord.canonical
  path : loaded.path = saved.path
  fileHash : loaded.fileHash = saved.fileHash
  canonicalBytes : loaded.canonicalBytes = saved.canonicalBytes
  displayHash : loaded.displayHash = saved.displayHash

theorem canonicalBytes_eq_ok {s : Store} {envelope : List UInt8}
    (encoded : Envelope.encodeBytes s.version s.records = .ok envelope) :
    s.canonicalBytes = .ok envelope := by
  rw [canonicalBytes, encoded]

theorem hashOfFile_eq_ok (s : Store) {t : FileTree} {target : Path} {bytes : List UInt8}
    (content : t.contentAt target = .ok bytes) :
    s.hashOfFile t (some target) = .ok (Bytes.hex (Sha256.digest bytes)) := by
  rw [← hashOf_eq]
  show (do return hashOf (← readBytes target t)) = _
  rw [readBytes_eq content]
  rfl

/-- A store that is saved once more leaves the content of its file as it is, also if that fails. -/
theorem content_after_save {s : Store} {target : Path} {h : Host} {envelope : List UInt8}
    (own : s.path = some target) (encoded : Envelope.encodeBytes s.version s.records = .ok envelope)
    (content : h.files.contentAt target = .ok (Deflate.deflate envelope)) :
    (s.save.run h).2.files.contentAt target = .ok (Deflate.deflate envelope) := by
  cases ran : s.save.run h with
  | mk r k =>
    cases r with
    | error e => exact FileTree.contentAt_of_extends (save_error ran) content
    | ok s' =>
      obtain ⟨target', envelope', -, found, encoded', -, content', -⟩ := save_eq_ok ran
      obtain rfl : target = target' := Option.some.inj (own.symm.trans found)
      rw [encoded] at encoded'
      cases encoded'
      exact content'

/-- Whatever host the file is loaded on, as long as it has not changed and can be read: the store that
comes back is the one that was saved, and saving it again does not change what the file holds. -/
theorem load_of_save (path : Option Path) (s s' : Store) (h h' : Host)
    (saved : (s.save path).run h = (.ok s', h')) :
    ∃ target bytes envelope, (path <|> s.path) = some target ∧ s'.path = some target ∧
      s'.version = s.version ∧ s'.records = s.records ∧
      h'.files.contentAt target = .ok bytes ∧ Deflate.inflate bytes = .finished envelope [] ∧
      s'.canonicalBytes = .ok envelope ∧ s'.fileHash = some (Bytes.hex (Sha256.digest bytes)) ∧
      ∀ (k : Host) (readonly : Bool), k.files.contentAt target = .ok bytes → k.readFault = none →
        ∃ loaded, ((load target readonly).run k).1 = .ok loaded ∧
          ((load target readonly).run k).2.files = k.files ∧
          loaded.readonly = readonly ∧ Restored s' loaded ∧
          s'.hashOfFile k.files (some target) = .ok (Bytes.hex (Sha256.digest bytes)) ∧
          loaded.hashOfFile k.files (some target) = .ok (Bytes.hex (Sha256.digest bytes)) ∧
          ∀ j : Host, j.files.contentAt target = .ok bytes →
            (∃ bytes', (loaded.save.run j).2.files.contentAt target = .ok bytes' ∧
              Deflate.inflate bytes' = Deflate.inflate bytes) ∧
            (readonly = false → Faultless j → ∃ again, (loaded.save.run j).1 = .ok again) := by
  obtain ⟨target, envelope, -, found, encoded, suitable, content, rfl⟩ := save_eq_ok saved
  refine ⟨target, Deflate.deflate envelope, envelope, found, rfl, rfl, rfl, content,
    Deflate.inflate_deflate envelope, canonicalBytes_eq_ok encoded, rfl, ?_⟩
  intro k readonly unchanged calm
  have encoded' := Envelope.encodeBytes_map_canonical encoded
  obtain ⟨result, files⟩ := load_run unchanged calm (decodeFile_deflate target readonly encoded)
  refine ⟨_, result, files, rfl, ?_, hashOfFile_eq_ok _ unchanged, hashOfFile_eq_ok _ unchanged, ?_⟩
  · have same : Envelope.encodeBytes s.version (s.records.map CheckRecord.canonical) =
        Envelope.encodeBytes s.version s.records := encoded'.trans encoded.symm
    constructor
    · rfl
    · rfl
    · rfl
    · rfl
    · simp only [canonicalBytes, same]
    · simp only [displayHash, canonicalBytes, same]
  · intro j there
    constructor
    · exact ⟨_, content_after_save rfl encoded' there, rfl⟩
    · intro writable faultless
      exact exists_save writable rfl (ready_of_content suitable faultless there) encoded'

def checksPath : Path := ⟨"", ["checks"]⟩

theorem ready_checksPath : Ready checksPath {} := by
  have made : ({} : FileTree).makeDirectories checksPath.parent = ({}, .ok ()) := by
    have here : ({} : FileTree).resolve checksPath.parent = .ok [] := rfl
    exact FileTree.makeDirectories_of_directory here rfl
  constructor
  · exact ⟨⟨"checks", rfl, by decide⟩, by decide, by decide⟩
  · exact fun _ => rfl
  · rw [made]
  · rw [made]; exact ⟨[], rfl⟩
  · rw [made]; exact ⟨["checks"], rfl, by decide⟩

theorem load_of_save_twoRecords :
    ∃ s' h' loaded,
      (save { records := Envelope.twoRecords } (some checksPath)).run {} = (.ok s', h') ∧
      ((load checksPath).run { files := h'.files }).1 = .ok loaded ∧
      loaded.records = Envelope.twoRecords ∧ loaded.fileHash = s'.fileHash := by
  let s : Store := { records := Envelope.twoRecords }
  obtain ⟨envelope, encoded⟩ : ∃ envelope, Envelope.encodeBytes s.version s.records = .ok envelope :=
    ⟨_, rfl⟩
  obtain ⟨s', ran⟩ : ∃ s', ((s.save (some checksPath)).run {}).1 = .ok s' :=
    exists_save rfl rfl ready_checksPath encoded
  obtain ⟨target, bytes, -, found, -, -, records, content, -, -, -, restore⟩ :=
    load_of_save (some checksPath) s s' {} _ (Prod.ext ran rfl)
  obtain rfl : checksPath = target := Option.some.inj found
  obtain ⟨loaded, result, -, -, restored, -⟩ :=
    restore { files := ((s.save (some checksPath)).run {}).2.files } false content rfl
  refine ⟨s', _, loaded, Prod.ext ran rfl, result, ?_, restored.fileHash⟩
  rw [restored.records, records]
  exact CheckRecord.map_canonical_of_allCanonical (by
    simp [CheckRecord.AllCanonical, s, Envelope.twoRecords, Target.ofAddress])

end LinkMonitor.Store
