import LinkMonitor.Deflate.Deflater
import LinkMonitor.Deflate.Inflate
import LinkMonitor.Digest.Blake2b
import LinkMonitor.Digest.Sha256
import LinkMonitor.Envelope.Basic
import LinkMonitor.Host.Basic
import LinkMonitor.Store.Error
import LinkMonitor.Text.Hexadecimal

/-!
# Stores

A store is a history of checks with a format version. It lives in one file, a compressed envelope.
A save writes a temporary file next to the target and renames it, so that the target holds either the
old or the new content. A store of an older version keeps that version until it is migrated.
-/

namespace LinkMonitor

structure Store where
  records : List CheckRecord := []
  version : FormatVersion := .current
  path : Option Path := none
  readonly : Bool := false
  /-- SHA-256 of the file that was last read or written. -/
  fileHash : Option String := none
  deriving DecidableEq

namespace Store

def size (s : Store) : Nat := s.records.length

/-- The store as diagnostics show it. -/
def text (s : Store) : String :=
  "Store(path=" ++ (s.path.map Path.text).getD "None" ++ ", version=" ++ s.version.name ++
    ", checks=" ++ toString s.size ++ ", readonly=" ++ (if s.readonly then "True" else "False") ++
    ")"

def append (s : Store) (batch : List CheckRecord) : Store :=
  { s with records := s.records ++ batch }

def needsMigration (s : Store) : Bool := s.version.isOutdated

/-! ### Reading -/

/-- Files are read in pieces of this many bytes. -/
def readSize : Nat := 65536

/-- A store file as far as it has been read. -/
structure Reading where
  inflater : Deflate.Inflater := .start
  hasher : Sha256.Hasher := {}

/-- Goes on with the next piece, unless the stream turns out invalid. -/
def Reading.next? (r : Reading) (piece : List UInt8) : Option Reading :=
  match (r.inflater.feed piece).run none with
  | (_, .invalid) => none
  | (inflater, _) => some ⟨inflater, r.hasher.update piece⟩

/-- The envelope in the bytes of a store file, and the SHA-256 of these. -/
def readEnvelope (path : Path) (bytes : List UInt8) : Except StoreError (List UInt8 × String) :=
  match (Bytes.pieces readSize bytes).foldlM Reading.next? {} with
  | none => .error (.notCompressed path)
  | some ⟨inflater, hasher⟩ =>
    if !inflater.isDone then .error (.truncated path)
    else if inflater.bits.rest.isEmpty then
      .ok (inflater.output.reverse, Bytes.hex hasher.digest)
    else .error (.bytesBehindStream path inflater.bits.rest.length)

def decodeFile (path : Path) (readonly : Bool) (bytes : List UInt8) : Except StoreError Store := do
  let (envelope, hash) ← readEnvelope path bytes
  match Envelope.decode envelope with
  | .ok (version, records) =>
    return { records, version, path := some path, readonly, fileHash := some hash }
  | .error e => throw (.decoding e)

def readBytes (path : Path) (t : FileTree) : Except StoreError (List UInt8) :=
  match t.contentAt path with
  | .ok bytes => .ok bytes
  | .error e => .error (if e.fault = .noEntry then .missing path else .unreadable path e)

/-- The bytes of a store file, unless something keeps them from being read. -/
def readStoreFile (path : Path) : Action StoreError (List UInt8) := fun h =>
  match h.readFault with
  | some fault => (.error (.unreadable path ⟨fault, .path path⟩), h)
  | none => (readBytes path h.files, h)

def compatibilityNotice (path : Path) (version : FormatVersion) : String :=
  "Store " ++ path.text ++ " has version " ++ toString version.tag ++ ", current is " ++
    toString FormatVersion.current.tag ++ "; running in compatibility mode until it is migrated"

def load (path : Path) (readonly : Bool := false) : Action StoreError Store := do
  let bytes ← readStoreFile path
  let store ← Action.ofExcept (decodeFile path readonly bytes)
  if store.needsMigration then Action.warn (compatibilityNotice path store.version)
  return store

/-- The version of a store file, from no more of it than that takes. -/
def peekVersion (path : Path) : Action StoreError FormatVersion := do
  let bytes ← readStoreFile path
  match Deflate.inflateFront Envelope.versionPrefixSize Deflate.Inflater.start bytes with
  | none => throw (.notCompressed path)
  | some front =>
    match Envelope.readVersion front with
    | .ok version => return version
    | .error e => throw (.decoding e)

/-! ### Writing -/

/-- The name of a temporary file for `name`, the `k`-th choice. -/
def temporaryName (name : String) (k : Nat) : String :=
  "." ++ name ++ "." ++ padLeft 8 '0' (toString k) ++ ".tmp"

/-- A location for a temporary file next to the target, where nothing is yet. -/
def temporaryLocation (t : FileTree) (directory : Location) (name : String) : Location :=
  let free (k : Nat) : Bool := (t.find? (directory ++ [temporaryName name k])).isNone
  let k := ((List.range (t.entries.length + 1)).find? free).getD 0
  directory ++ [temporaryName name k]

/-- Makes the directories for a target and chooses the temporary file, which is empty. -/
def prepare (target : Path) : Action FileError Location := do
  let faults := (← get).saveFaults
  if let some fault := faults .makeDirectories then throw ⟨fault, .path target.parent⟩
  Action.changeFilesPartly fun t => t.makeDirectories target.parent
  let t ← Action.files
  let directory ← Action.ofExcept (FileTree.blame target.parent (t.resolve target.parent))
  let temporary := temporaryLocation t directory target.name
  if (temporaryName target.name 0).utf8ByteSize > FileTree.maxNameSize then
    throw ⟨.nameTooLong, .temporary⟩
  if let some fault := faults .prepare then throw ⟨fault, .temporary⟩
  Action.setFiles (t.insert temporary (.file []))
  return temporary

/-- A temporary file that is being written. -/
structure Writer where
  deflater : Deflate.Deflater := {}
  /-- The hash of what has been written. -/
  hasher : Sha256.Hasher := {}
  /-- The number of pieces that have been written. -/
  pieces : Nat := 0

def Writer.write (temporary : Location) (w : Writer) (bytes : List UInt8) :
    Action FileError Writer := do
  if let some fault := (← get).saveFaults (.write w.pieces) then throw ⟨fault, .none⟩
  Action.changeFiles fun t => .ok (t.appendTo temporary bytes)
  return { w with hasher := w.hasher.update bytes, pieces := w.pieces + 1 }

/-- Writes what has been compressed, if it is anything. -/
def Writer.put (temporary : Location) (target : Path) (w : Writer) (bytes : List UInt8) :
    Action StoreError Writer :=
  if bytes.isEmpty then return w
  else (w.write temporary bytes).mapError (.unwritable target)

/-- Compresses chunks and writes what comes out, as long as the encoder does not fail. -/
def writeChunks (temporary : Location) (target : Path) :
    Envelope.Chunks → Writer → Action StoreError Writer
  | .done, w => return w
  | .failed e, _ => throw (.encoding e)
  | .next chunk rest, w => do
    let (bytes, deflater) := w.deflater.compress chunk
    let w ← Writer.put temporary target { w with deflater } bytes
    writeChunks temporary target rest w

/-- Writes the whole stream into the temporary file and returns its hash. -/
def fill (temporary : Location) (target : Path) (chunks : Envelope.Chunks) :
    Action StoreError String := do
  let w ← writeChunks temporary target chunks {}
  let w ← (w.write temporary w.deflater.finish).mapError (.unwritable target)
  return Bytes.hex w.hasher.digest

/-- Puts the temporary file in the place of the target. -/
def rename (temporary : Location) (target : Path) (t : FileTree) : Except FileFault FileTree := do
  if target.names.getLast? = none ∨ target.names.getLast? = some ".." then throw .busy
  let l ← t.resolve target
  match t.find? l, t.find? temporary with
  | some .directory, _ => throw .isDirectory
  | _, some entry => return (t.erase temporary).insert l entry
  | _, none => throw .noEntry

/-- Makes the temporary file durable and readable, and renames it. -/
def install (temporary : Location) (target : Path) : Action FileError Unit := do
  let faults := (← get).saveFaults
  if let some fault := faults .sync then throw ⟨fault, .none⟩
  if let some fault := faults .setMode then throw ⟨fault, .temporary⟩
  if let some fault := faults .rename then throw ⟨fault, .renaming target⟩
  Action.changeFiles fun t =>
    match rename temporary target t with
    | .ok t => .ok t
    | .error fault => .error ⟨fault, .renaming target⟩

/-- Fills the temporary file and puts it in the place of the target. -/
def replace (s : Store) (temporary : Location) (target : Path) : Action StoreError String := do
  let hash ← fill temporary target (Envelope.chunks s.version s.records)
  (install temporary target).mapError (.unwritable target)
  return hash

/-- Removes the temporary file, if it is still there. -/
def discard (temporary : Location) : Action StoreError Unit :=
  Action.changeFiles fun t =>
    .ok (if (t.find? temporary).isSome then t.erase temporary else t)

/-- Writes the content to `target`, in one replacement of the file, and returns the hash of the
file. -/
def writeTo (s : Store) (target : Path) : Action StoreError String := do
  let temporary ← (prepare target).mapError (.unprepared target)
  let outcome ← Action.attempt (s.replace temporary target)
  discard temporary
  Action.ofExcept outcome

/-- What works on a store in place and on the host. Both keep what has been changed when it fails. -/
abbrev InPlace := ExceptT StoreError (StateM (Store × Host))

namespace InPlace

def run {α : Type} (x : InPlace α) (s : Store) (h : Host) : Except StoreError α × Store × Host :=
  Id.run (StateT.run (ExceptT.run x) (s, h))

def store : InPlace Store := fun (s, h) => (.ok s, s, h)

def setStore (s : Store) : InPlace Unit := fun (_, h) => (.ok (), s, h)

def act {α : Type} (a : Action StoreError α) : InPlace α := fun (s, h) =>
  let (r, h) := a.run h
  (r, s, h)

end InPlace

/-- Writes the store to the given path, or to its own. Place and hash of the file are noted when all
is done. -/
def saveInPlace (path : Option Path := none) : InPlace Unit := do
  let s ← InPlace.store
  if s.readonly then throw .readonlySave
  match path <|> s.path with
  | none => throw .noPathToSaveTo
  | some target => do
    let hash ← InPlace.act (s.writeTo target)
    InPlace.setStore { s with path := some target, fileHash := some hash }

/-- The store after it has been saved. -/
def save (s : Store) (path : Option Path := none) : Action StoreError Store := fun h =>
  let (r, s, h) := (saveInPlace path).run s h
  (r.map fun () => s, h)

/-- Writes a new, empty store, unless there is a file with content. -/
def create (path : Path) : Action StoreError Store := do
  let t ← Action.files
  match t.pathExists path with
  | .error e => throw (.uninspectable path e)
  | .ok false => pure ()
  | .ok true =>
    match t.sizeAt path with
    | .error e => throw (.uninspectable path e)
    | .ok size => if size > 0 then throw (.alreadyExists path)
  let store ← save { path := some path }
  Action.info ("Created new store at " ++ path.text ++ " (version " ++
    toString store.version.tag ++ ")")
  return store

/-- Loads a store; where there is no file, or an empty one, it is created. -/
def loadOrCreate (path : Path) : Action StoreError Store := do
  match ← Action.attempt (load path) with
  | .ok store => return store
  | .error (.missing _) => do
    Action.info ("No store at " ++ path.text ++ ", creating one")
    create path
  | .error e => do
    let isEmpty := match (← Action.files).sizeAt path with
      | .ok size => size == 0
      | .error _ => false
    if e.isDecompression && isEmpty then
      Action.info ("Store file " ++ path.text ++ " is empty, initializing it")
      create path
    else throw e

/-! ### Migration -/

/-- The records in the current version, which they reach version by version. -/
def upgradeAll (version : FormatVersion) (records : List CheckRecord) :
    Action StoreError (FormatVersion × List CheckRecord) :=
  match _ : version.next? with
  | none => return (version, records)
  | some next => do
    Action.info (Envelope.upgradeNotice records.length version next)
    match _ : Envelope.upgrade version records with
    | .error e => throw (.encoding e)
    | .ok (version, records) => upgradeAll version records
termination_by FormatVersion.current.tag - version.tag
decreasing_by exact Envelope.fewer_left_of_upgrade ‹_› ‹_›

/-- Brings the store to the current version, and tells whether that is a change. Version and records
are noted when all is done. -/
def migrateInPlace : InPlace Bool := do
  let s ← InPlace.store
  if s.readonly then throw .readonlyMigration
  if !s.needsMigration then return false
  let (version, records) ← InPlace.act (upgradeAll s.version s.records)
  InPlace.setStore { s with version, records }
  return true

/-- Whether the store has changed, and the store after it has been migrated. -/
def migrate (s : Store) : Action StoreError (Bool × Store) := fun h =>
  let (r, s, h) := migrateInPlace.run s h
  (r.map fun changed => (changed, s), h)

/-! ### Facts about a store -/

/-- The envelope of the present content. -/
def canonicalBytes (s : Store) : Except StoreError (List UInt8) :=
  match Envelope.encodeBytes s.version s.records with
  | .ok bytes => .ok bytes
  | .error e => .error (.encoding e)

/-- Fingerprint of the content, whatever the file looks like. -/
def displayHash (s : Store) : Except StoreError String := do
  return Bytes.hex (Blake2b.digest 16 (← s.canonicalBytes))

def sizeInMemory (s : Store) : Except StoreError Nat := do return (← s.canonicalBytes).length

def requirePath (s : Store) (path : Option Path) : Except StoreError Path :=
  match path <|> s.path with
  | some p => .ok p
  | none => .error .noPath

def hashOf (bytes : List UInt8) : String :=
  Bytes.hex ((Bytes.pieces readSize bytes).foldl Sha256.Hasher.update {}).digest

/-- SHA-256 of the file as it is now. -/
def hashOfFile (s : Store) (t : FileTree) (path : Option Path := none) :
    Except StoreError String := do
  return hashOf (← readBytes (← s.requirePath path) t)

def sizeOnDisk (s : Store) (t : FileTree) (path : Option Path := none) : Except StoreError Nat := do
  let p ← s.requirePath path
  match t.sizeAt p with
  | .ok n => return n
  | .error e => throw (if e.fault = .noEntry then .missing p else .unmeasurable p e)

/-- Size of the file for one byte of the envelope. -/
def compressionRatio (s : Store) (t : FileTree) (path : Option Path := none) :
    Except StoreError Binary64 := do
  let disk ← s.sizeOnDisk t path
  return Binary64.ofRatio disk (← s.sizeInMemory)

end Store
end LinkMonitor
