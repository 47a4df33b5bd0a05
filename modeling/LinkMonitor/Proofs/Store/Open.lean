import LinkMonitor.Proofs.Store.AllOrNothing
import LinkMonitor.Proofs.Store.Load
import LinkMonitor.Proofs.Store.RoundTrip

/-!
# Opening a store

A file with content is never replaced in the course of opening: where it cannot be loaded, opening
fails as loading does. Only where there is no file, or an empty one, a new store is written.
-/

namespace LinkMonitor

/-! ### What is at a path -/

namespace FileTree

variable {t : FileTree} {p : Path}

/-- There is nothing, a directory or a file. A directory has a size of its own. -/
theorem contentAt_cases (t : FileTree) (p : Path) :
    (∃ fault, t.contentAt p = .error ⟨fault, .path p⟩ ∧ t.sizeAt p = .error ⟨fault, .path p⟩ ∧
      (fault = .noEntry → t.pathExists p = .ok false)) ∨
    (t.contentAt p = .error ⟨.isDirectory, .path p⟩ ∧ t.sizeAt p = .ok 4096) ∨
    ∃ bytes, t.contentAt p = .ok bytes ∧ t.sizeAt p = .ok bytes.length ∧
      t.pathExists p = .ok true := by
  rw [contentAt, sizeAt, pathExists]
  rcases t.entryAt p with fault | ⟨l, _ | bytes⟩
  · refine .inl ⟨fault, rfl, rfl, fun missing => ?_⟩
    rw [missing]
  · exact .inr (.inl ⟨rfl, rfl⟩)
  · exact .inr (.inr ⟨bytes, rfl, rfl, rfl⟩)

theorem of_contentAt {bytes : List UInt8} (content : t.contentAt p = .ok bytes) :
    t.sizeAt p = .ok bytes.length ∧ t.pathExists p = .ok true := by
  rcases contentAt_cases t p with ⟨fault, failed, -⟩ | ⟨failed, -⟩ | ⟨bytes', found, size, there⟩
  · rw [content] at failed
    cases failed
  · rw [content] at failed
    cases failed
  · rw [content] at found
    cases found
    exact ⟨size, there⟩

theorem contentAt_of_sizeAt_zero (empty : t.sizeAt p = .ok 0) : t.contentAt p = .ok [] := by
  rcases contentAt_cases t p with ⟨fault, -, failed, -⟩ | ⟨-, size⟩ | ⟨bytes, content, size, -⟩
  · rw [empty] at failed
    cases failed
  · rw [empty] at size
    cases size
  · rw [empty] at size
    have nothing : bytes = [] := List.eq_nil_of_length_eq_zero (Except.ok.inj size).symm
    rw [content, nothing]

/-- There is nothing at the path. -/
def IsMissing (t : FileTree) (p : Path) : Prop := t.contentAt p = .error ⟨.noEntry, .path p⟩

theorem isMissing_of_fault {e : FileError} (failed : t.contentAt p = .error e)
    (fault : e.fault = .noEntry) : t.IsMissing p := by
  rcases contentAt_cases t p with ⟨fault', same, -⟩ | ⟨same, -⟩ | ⟨bytes, content, -⟩
  · rw [failed] at same
    cases same
    rw [IsMissing, failed, show fault' = .noEntry from fault]
  · rw [failed] at same
    cases same
    cases fault
  · rw [failed] at content
    cases content

theorem IsMissing.pathExists (missing : t.IsMissing p) : t.pathExists p = .ok false := by
  rcases contentAt_cases t p with ⟨fault, same, -, gone⟩ | ⟨same, -⟩ | ⟨bytes, content, -⟩
  · rw [missing] at same
    cases same
    exact gone rfl
  · rw [missing] at same
    cases same
  · rw [missing] at content
    cases content

end FileTree

namespace Store

open FileTree

variable {path : Path} {h : Host}

/-! ### Which files are stores -/

/-- One complete compressed stream with nothing behind it, whose content is an envelope. -/
def IsStoreFile (bytes : List UInt8) : Prop :=
  ∃ envelope, Deflate.inflate bytes = .finished envelope [] ∧ Envelope.IsEnvelope envelope

theorem not_isStoreFile {bytes : List UInt8} {result : Deflate.Inflated}
    (found : Deflate.inflate bytes = result) (other : ∀ envelope, result ≠ .finished envelope []) :
    ¬IsStoreFile bytes := by
  rintro ⟨envelope, whole, -⟩
  exact other envelope (found.symm.trans whole)

/-- Why bytes are no store file. -/
inductive Rejected (path : Path) (bytes : List UInt8) : StoreError → Prop
  | notCompressed (found : Deflate.inflate bytes = .invalid) :
    Rejected path bytes (.notCompressed path)
  | truncated (found : Deflate.inflate bytes = .truncated) : Rejected path bytes (.truncated path)
  | bytesBehindStream {output rest : List UInt8} (more : rest ≠ [])
    (found : Deflate.inflate bytes = .finished output rest) :
    Rejected path bytes (.bytesBehindStream path rest.length)
  | decoding {envelope : List UInt8} {e : DecodeError}
    (found : Deflate.inflate bytes = .finished envelope [])
    (refused : Envelope.Refused envelope e) : Rejected path bytes (.decoding e)

/-- What is read from a file is its store, or what is wrong with it. -/
theorem decodeFile_cases (path : Path) (readonly : Bool) (bytes : List UInt8) :
    (IsStoreFile bytes ∧ ∃ s, decodeFile path readonly bytes = .ok s) ∨
    ¬IsStoreFile bytes ∧ ∃ e, decodeFile path readonly bytes = .error e ∧ Rejected path bytes e := by
  have shape := readEnvelope_eq path bytes
  rw [decodeFile]
  cases found : Deflate.inflate bytes with
  | invalid =>
    rw [found] at shape
    refine .inr ⟨not_isStoreFile found (by simp), .notCompressed path, ?_, .notCompressed found⟩
    rw [shape]
    rfl
  | truncated =>
    rw [found] at shape
    refine .inr ⟨not_isStoreFile found (by simp), .truncated path, ?_, .truncated found⟩
    rw [shape]
    rfl
  | finished output rest =>
    rw [found] at shape
    cases rest with
    | cons b others =>
      refine .inr ⟨not_isStoreFile found (by simp), _, ?_, .bytesBehindStream (by simp) found⟩
      rw [shape]
      rfl
    | nil =>
      rw [shape]
      rcases Envelope.decode_cases output with
        ⟨version, fields, few, wellFormed, whole, decoded⟩ | ⟨e, failed, refused⟩
      · refine .inl ⟨⟨output, found, version, fields, few, wellFormed, whole⟩, ?_⟩
        simp only [List.isEmpty_nil, if_true, bind, Except.bind, decoded]
        exact ⟨_, rfl⟩
      · refine .inr ⟨?_, .decoding e, ?_, .decoding found refused⟩
        · rintro ⟨envelope, whole, version, fields, few, wellFormed, rfl⟩
          rw [found] at whole
          cases whole
          rw [Envelope.decode_header_body few wellFormed] at failed
          cases failed
        · simp only [List.isEmpty_nil, if_true, bind, Except.bind, failed]
          rfl

/-! ### Loading -/

/-- The file can be read, and has these bytes. -/
structure Reads (h : Host) (path : Path) (bytes : List UInt8) : Prop where
  calm : h.readFault = none
  content : h.files.contentAt path = .ok bytes

/-- Why a file cannot be read. -/
inductive Unread (path : Path) (h : Host) : StoreError → Prop
  | missing (gone : h.files.IsMissing path) : Unread path h (.missing path)
  | unreadable (e : FileError) (kept : ¬(h.readFault = none ∧ h.files.IsMissing path)) :
    Unread path h (.unreadable path e)

/-- How a load can go: the file is a store, or it is something else, or it cannot be read. -/
inductive Loaded (path : Path) (h : Host) : Except StoreError Store → Prop
  | store {bytes : List UInt8} {s : Store} (reads : Reads h path bytes) (valid : IsStoreFile bytes) :
    Loaded path h (.ok s)
  | rejected {bytes : List UInt8} {e : StoreError} (reads : Reads h path bytes)
    (invalid : ¬IsStoreFile bytes) (cause : Rejected path bytes e) : Loaded path h (.error e)
  | unread {e : StoreError} (silent : ∀ bytes, ¬Reads h path bytes) (cause : Unread path h e) :
    Loaded path h (.error e)

theorem load_outcome (path : Path) (h : Host) : Loaded path h ((load path).run h).1 := by
  rw [load_result, readStoreFile_run]
  cases calm : h.readFault with
  | some fault =>
    refine .unread (fun bytes reads => ?_) (.unreadable _ fun kept => ?_)
    · rw [reads.calm] at calm
      cases calm
    · rw [kept.1] at calm
      cases calm
  | none =>
    dsimp only
    rw [readBytes]
    cases content : h.files.contentAt path with
    | error e =>
      refine .unread (fun bytes reads => ?_) ?_
      · rw [reads.content] at content
        cases content
      · split
        · next fault => exact .missing (isMissing_of_fault content fault)
        · next other =>
          refine .unreadable e ?_
          rintro ⟨-, missing⟩
          apply other
          rw [FileTree.IsMissing, content] at missing
          rw [Except.error.inj missing]
    | ok bytes =>
      have reads : Reads h path bytes := ⟨calm, content⟩
      show Loaded path h (decodeFile path false bytes)
      rcases decodeFile_cases path false bytes with ⟨valid, s, decoded⟩ | ⟨invalid, e, failed, cause⟩
      · rw [decoded]
        exact .store reads valid
      · rw [failed]
        exact .rejected reads invalid cause

theorem load_of_invalid {bytes : List UInt8} (reads : Reads h path bytes)
    (invalid : ¬IsStoreFile bytes) :
    ∃ e, ((load path).run h).1 = .error e ∧ Rejected path bytes e := by
  have outcome := load_outcome path h
  have same {bytes' : List UInt8} (reads' : Reads h path bytes') : bytes' = bytes :=
    Except.ok.inj (reads'.content.symm.trans reads.content)
  generalize ((load path).run h).1 = result at outcome ⊢
  cases outcome with
  | store reads' valid =>
    obtain rfl := same reads'
    exact absurd valid invalid
  | rejected reads' _ cause =>
    obtain rfl := same reads'
    exact ⟨_, rfl, cause⟩
  | unread silent cause => exact absurd reads (silent bytes)

theorem Rejected.isTransient {bytes : List UInt8} {e : StoreError}
    (rejected : Rejected path bytes e) : e.isTransient = false := by
  cases rejected <;> rfl

theorem Unread.isTransient {e : StoreError} (unread : Unread path h e) : e.isTransient = true := by
  cases unread <;> rfl

theorem load_error_host {readonly : Bool} {e : StoreError} {k : Host}
    (failed : (load path readonly).run h = (.error e, k)) : k = h := by
  rw [load, Action.run_bind] at failed
  have reading : ((readStoreFile path).run h).2 = h := by
    rw [readStoreFile_run]
    split <;> rfl
  generalize (readStoreFile path).run h = read at failed reading
  obtain ⟨x, j⟩ := read
  obtain rfl : j = h := reading
  cases x with
  | error e' =>
    cases failed
    rfl
  | ok bytes =>
    dsimp only at failed
    rw [Action.run_bind, Action.run_ofExcept] at failed
    cases decoded : decodeFile path readonly bytes with
    | error e' =>
      rw [decoded] at failed
      cases failed
      rfl
    | ok s =>
      rw [decoded] at failed
      dsimp only at failed
      split at failed <;> cases failed

theorem peekVersion_keepsFiles (path : Path) : (peekVersion path).KeepsFiles := by
  refine Action.keepsFiles_bind (readStoreFile_keepsFiles path) fun bytes => ?_
  split
  · exact Action.keepsFiles_throw _
  · split
    · exact Action.keepsFiles_pure _
    · exact Action.keepsFiles_throw _

/-! ### Creating -/

/-- There is no file, or an empty one. -/
def Vacant (t : FileTree) (path : Path) : Prop := t.IsMissing path ∨ t.contentAt path = .ok []

theorem not_vacant_of_content {t : FileTree} {bytes : List UInt8}
    (content : t.contentAt path = .ok bytes) (filled : bytes ≠ []) : ¬Vacant t path := by
  rintro (missing | empty)
  · rw [FileTree.IsMissing, content] at missing
    cases missing
  · rw [content] at empty
    exact filled (Except.ok.inj empty)

theorem create_of_content {bytes : List UInt8} (content : h.files.contentAt path = .ok bytes)
    (filled : bytes ≠ []) : (create path).run h = (.error (.alreadyExists path), h) := by
  obtain ⟨size, there⟩ := of_contentAt content
  have pos : bytes.length > 0 := List.length_pos_of_ne_nil filled
  rw [create, Action.run_bind, Action.run_files]
  simp only [there, size, if_pos pos]
  rfl

/-- Where nothing is lost a new store is saved; a notice about it comes afterwards. -/
theorem create_of_vacant (vacant : Vacant h.files path) :
    ∃ text : Store → String, (create path).run h = match (save { path := some path }).run h with
      | (.ok s, h) => (.ok s, { h with journal := h.journal ++ [⟨.info, .general, text s⟩] })
      | (.error e, h) => (.error e, h) := by
  have shape : ∃ text : Store → String, (create path).run h = (do
      let s ← save { path := some path }
      Action.write .info .general (text s)
      return s : Action StoreError Store).run h := by
    rw [create, Action.run_bind, Action.run_files]
    rcases vacant with missing | empty
    · simp only [missing.pathExists]
      exact ⟨_, rfl⟩
    · obtain ⟨size, there⟩ := of_contentAt empty
      simp only [there, size, List.length_nil]
      exact ⟨_, rfl⟩
  obtain ⟨text, same⟩ := shape
  refine ⟨text, ?_⟩
  rw [same, Action.run_announced]
  generalize (save { path := some path }).run h = result
  obtain ⟨r, k⟩ := result
  cases r <;> rfl

/-- What comes of a new store: it is empty, of the current version, and what the file holds. If it does
not come about the system is to blame, and all files are as they were. -/
def Fresh (path : Path) (h : Host) : Except StoreError Store × Host → Prop
  | (.ok s, h') => s.records = [] ∧ s.version = .current ∧
    ∃ bytes, h'.files.contentAt path = .ok bytes ∧ decodeFile path false bytes = .ok s
  | (.error e, h') => e.isTransient = true ∧ ¬(Ready path h ∧ h.readFault = none) ∧
    Untouched (some path) h.files h'.files

theorem save_empty (path : Path) (h : Host) : Fresh path h ((save { path := some path }).run h) := by
  rw [save_run, if_neg Bool.false_ne_true, show (none <|> some path) = some path from rfl]
  dsimp only
  rcases writeTo_run { path := some path } path h with
    ⟨e, t, failed, adds, ran⟩ | ⟨envelope, t, encoded, -, ⟨replacement⟩, ran⟩
  · have untouched := untouched_of_adds adds
    rw [ran]
    cases failed with
    | unprepared e cause => exact ⟨rfl, fun ready => cause ready.1, untouched⟩
    | unwritable e cause => exact ⟨rfl, fun ready => cause ready.1, untouched⟩
    | encoding e cause => cases cause
  · rw [ran]
    exact ⟨rfl, rfl, _, replacement.contentAt, decodeFile_deflate path false encoded⟩

theorem create_fresh (vacant : Vacant h.files path) : Fresh path h ((create path).run h) := by
  have saved := save_empty path h
  obtain ⟨text, ran⟩ := create_of_vacant vacant
  rw [ran]
  generalize (save { path := some path }).run h = result at saved ⊢
  obtain ⟨r, k⟩ := result
  cases r <;> exact saved

/-! ### Loading or creating -/

/-- Creating does not look at the journal, and what comes of it does not depend on it. -/
theorem create_fresh_journal (vacant : Vacant h.files path) (journal : List Notice) :
    Fresh path h ((create path).run { h with journal }) := by
  have created := create_fresh (h := { h with journal }) vacant
  generalize (create path).run { h with journal } = result at created ⊢
  obtain ⟨r, k⟩ := result
  cases r with
  | ok s => exact created
  | error e =>
    obtain ⟨passing, unready, untouched⟩ := created
    refine ⟨passing, ?_, untouched⟩
    rintro ⟨ready, calm⟩
    refine unready ⟨?_, calm⟩
    exact ⟨ready.suitable, ready.faultless, ready.made, ready.outer, ready.free⟩

/-- What a failed load leaves to create: the file is missing, or what was no stream is empty. -/
def Creatable (t : FileTree) (path : Path) (e : StoreError) : Prop :=
  (∃ p, e = .missing p) ∨ e.isDecompression = true ∧ t.sizeAt path = .ok 0

/-- After a load that has failed the store is created, or that failure is the outcome. -/
theorem loadOrCreate_of_error {e : StoreError} {k : Host}
    (failed : (load path).run h = (.error e, k)) :
    (Creatable k.files path e ∧ ∃ text : String, (loadOrCreate path).run h =
      (create path).run { k with journal := k.journal ++ [⟨.info, .general, text⟩] }) ∨
    (¬Creatable k.files path e ∧ (loadOrCreate path).run h = (.error e, k)) := by
  rw [loadOrCreate, Action.run_bind, Action.run_attempt, failed]
  dsimp only
  split
  · next same => cases same
  · next p same => exact .inl ⟨.inl ⟨p, Except.error.inj same⟩, _, rfl⟩
  · next e' other same =>
    cases same
    simp only [Action.run_bind, Action.run_files]
    have refuse (full : ¬(e.isDecompression = true ∧ k.files.sizeAt path = .ok 0)) :
        ¬Creatable k.files path e := by
      rintro (⟨p, rfl⟩ | found)
      · exact other p rfl
      · exact full found
    cases size : k.files.sizeAt path with
    | error fault =>
      simp only [Bool.and_false]
      refine .inr ⟨refuse ?_, rfl⟩
      rintro ⟨-, zero⟩
      rw [size] at zero
      cases zero
    | ok n =>
      by_cases empty : (e.isDecompression && n == 0) = true
      · rw [if_pos empty]
        rw [Bool.and_eq_true, beq_iff_eq] at empty
        exact .inl ⟨.inr ⟨empty.1, empty.2 ▸ size⟩, _, rfl⟩
      · rw [if_neg empty]
        rw [Bool.and_eq_true, beq_iff_eq] at empty
        refine .inr ⟨refuse ?_, rfl⟩
        rintro ⟨kind, zero⟩
        rw [size] at zero
        exact empty ⟨kind, Except.ok.inj zero⟩

/-- Where there is anything that could be lost, opening is loading. -/
theorem loadOrCreate_of_occupied (occupied : ¬Vacant h.files path) :
    (loadOrCreate path).run h = (load path).run h := by
  have outcome := load_outcome path h
  rcases loaded : (load path).run h with ⟨r, k⟩
  rw [loaded] at outcome
  cases outcome with
  | store reads valid =>
    rw [loadOrCreate, Action.run_bind, Action.run_attempt, loaded]
    rfl
  | unread silent cause =>
    rcases loadOrCreate_of_error loaded with ⟨creatable, -⟩ | ⟨-, ran⟩
    · cases cause with
      | missing gone => exact absurd (.inl gone) occupied
      | unreadable e => rcases creatable with ⟨p, same⟩ | ⟨kind, -⟩ <;> contradiction
    · exact ran
  | @rejected bytes e reads invalid cause =>
    obtain rfl := load_error_host loaded
    rcases loadOrCreate_of_error loaded with ⟨⟨p, rfl⟩ | ⟨-, empty⟩, -⟩ | ⟨-, ran⟩
    · cases cause
    · exact absurd (.inr (contentAt_of_sizeAt_zero empty)) occupied
    · exact ran

/-- Where nothing could be lost, opening is creating, unless the system keeps the file from being
read. -/
theorem loadOrCreate_fresh (vacant : Vacant h.files path) :
    Fresh path h ((loadOrCreate path).run h) := by
  have outcome := load_outcome path h
  rcases loaded : (load path).run h with ⟨r, k⟩
  rw [loaded] at outcome
  have created {e : StoreError} (failed : (load path).run h = (.error e, k))
      (creatable : Creatable h.files path e) : Fresh path h ((loadOrCreate path).run h) := by
    obtain rfl := load_error_host failed
    rcases loadOrCreate_of_error failed with ⟨-, text, ran⟩ | ⟨other, -⟩
    · rw [ran]
      exact create_fresh_journal vacant _
    · exact absurd creatable other
  have empty {bytes : List UInt8} (reads : Reads h path bytes) : bytes = [] := by
    rcases vacant with missing | none
    · rw [FileTree.IsMissing, reads.content] at missing
      cases missing
    · rw [reads.content] at none
      exact Except.ok.inj none
  -- An empty file is a stream that has been cut off, so it is never loaded.
  have unfinished : Deflate.inflate [] = .truncated := by cbv
  cases outcome with
  | store reads valid =>
    obtain rfl := empty reads
    obtain ⟨envelope, whole, -⟩ := valid
    rw [unfinished] at whole
    cases whole
  | @rejected bytes e reads invalid cause =>
    obtain rfl := empty reads
    have truncated : e = .truncated path := by
      cases cause <;> simp_all
    refine created loaded (.inr ⟨?_, (of_contentAt reads.content).1⟩)
    rw [truncated]
    rfl
  | @unread e silent cause =>
    cases cause with
    | missing gone => exact created loaded (.inl ⟨path, rfl⟩)
    | unreadable e kept =>
      obtain rfl := load_error_host loaded
      rcases loadOrCreate_of_error loaded with ⟨creatable, -⟩ | ⟨-, ran⟩
      · rcases creatable with ⟨p, same⟩ | ⟨kind, -⟩ <;> contradiction
      · rw [ran]
        refine ⟨rfl, ?_, .refl _ _⟩
        rintro ⟨-, calm⟩
        rcases vacant with missing | none
        · exact kept ⟨calm, missing⟩
        · exact silent [] ⟨calm, none⟩

/-- Opening a store overwrites nothing. A file that has content is left as it is, along with all other
files, by loading, by looking at its version, by creating, which is refused, and by loading or
creating, which is loading then, whatever the content may be. Only where there is no file or an empty
one is anything written, and then a new store comes of it unless the system is to blame. -/
theorem opening_overwrites_nothing (path : Path) (h : Host) :
    (∀ bytes, h.files.contentAt path = .ok bytes → bytes ≠ [] →
      (∀ readonly, ((load path readonly).run h).2.files = h.files) ∧
      ((peekVersion path).run h).2.files = h.files ∧
      (create path).run h = (.error (.alreadyExists path), h) ∧
      (loadOrCreate path).run h = (load path).run h ∧
      Loaded path h ((loadOrCreate path).run h).1) ∧
    (¬Vacant h.files path → (loadOrCreate path).run h = (load path).run h ∧
      ((loadOrCreate path).run h).2.files = h.files) ∧
    (Vacant h.files path → Fresh path h ((loadOrCreate path).run h)) := by
  have kept : ((load path).run h).2.files = h.files := load_keepsFiles path h
  refine ⟨fun bytes content filled => ?_, fun occupied => ?_, loadOrCreate_fresh⟩
  · have same := loadOrCreate_of_occupied (not_vacant_of_content content filled)
    have outcome : Loaded path h ((loadOrCreate path).run h).1 := by
      rw [same]
      exact load_outcome path h
    exact ⟨fun readonly => load_keepsFiles path h, peekVersion_keepsFiles path h,
      create_of_content content filled, same, outcome⟩
  · have same := loadOrCreate_of_occupied occupied
    refine ⟨same, ?_⟩
    rw [same]
    exact kept

/-- A file of three bytes that are no stream. -/
def zerosAtChecks : Host := { files := ⟨[(["checks"], .file [0, 0, 0])]⟩ }

/-- The file stays, and where there is nothing a store comes to be. -/
theorem opening_overwrites_nothing_checks :
    (create checksPath).run zerosAtChecks = (.error (.alreadyExists checksPath), zerosAtChecks) ∧
    ((loadOrCreate checksPath).run zerosAtChecks).2.files = zerosAtChecks.files ∧
    ∃ s h', (loadOrCreate checksPath).run {} = (.ok s, h') ∧ s.records = [] := by
  have content : zerosAtChecks.files.contentAt checksPath = .ok [0, 0, 0] := rfl
  have full := opening_overwrites_nothing checksPath zerosAtChecks
  obtain ⟨-, -, refused, -, -⟩ := full.1 [0, 0, 0] content (by decide)
  obtain ⟨-, kept⟩ := full.2.1 (not_vacant_of_content content (by decide))
  have fresh := (opening_overwrites_nothing checksPath {}).2.2 (.inl rfl)
  refine ⟨refused, kept, ?_⟩
  generalize (loadOrCreate checksPath).run {} = result at fresh ⊢
  obtain ⟨r, h'⟩ := result
  cases r with
  | ok s => exact ⟨s, h', rfl, fresh.1⟩
  | error e => exact absurd ⟨ready_checksPath, rfl⟩ fresh.2.1

end Store
end LinkMonitor
