import LinkMonitor.Envelope.Layout

/-!
# Envelopes

The uncompressed content of a store file: the magic `NPLS`, the tag of the version, the number of
records in four bytes, and the records one after the other with nothing behind them.
-/

namespace LinkMonitor.Envelope

def magic : List UInt8 := [0x4e, 0x50, 0x4c, 0x53]

/-- The bytes that tell a store and its version. -/
def versionPrefixSize : Nat := 5

def headerSize : Nat := 9

/-- A chunk of records ends as soon as it has this many bytes. -/
def chunkSize : Nat := 65536

def header (version : FormatVersion) (count : Nat) : List UInt8 :=
  magic ++ Bytes.bigEndian 1 version.tag ++ Bytes.bigEndian 4 count

def encodeRecord (version : FormatVersion) (r : CheckRecord) : Except EncodeError (List UInt8) :=
  match Layout.encode? version r with
  | some bytes => .ok bytes
  | none => .error (.unrepresentable r)

/-- What an encoder yields one after the other: chunks, and at last an end or a failure. -/
inductive Chunks
  | done
  | failed (error : EncodeError)
  | next (chunk : List UInt8) (rest : Chunks)

/-- All chunks, unless there is a failure behind them. -/
def Chunks.collect : Chunks → Except EncodeError (List (List UInt8))
  | done => .ok []
  | failed e => .error e
  | next chunk rest => return chunk :: (← rest.collect)

/-- The chunks of records. Before them come pieces of `size` bytes, the last one first, which wait for
their chunk to be full. -/
def recordChunks (version : FormatVersion) (waiting : List (List UInt8)) (size : Nat) :
    List CheckRecord → Chunks
  | [] => if waiting.isEmpty then .done else .next waiting.reverse.flatten .done
  | r :: rest =>
    match encodeRecord version r with
    | .error e => .failed e
    | .ok piece =>
      if chunkSize ≤ size + piece.length then
        .next (piece :: waiting).reverse.flatten (recordChunks version [] 0 rest)
      else recordChunks version (piece :: waiting) (size + piece.length) rest

/-- The chunks of an envelope: the header, then chunks that end between records. -/
def chunks (version : FormatVersion) (records : List CheckRecord) : Chunks :=
  if records.length > 0xffffffff then .failed (.tooMany records.length)
  else .next (header version records.length) (recordChunks version [] 0 records)

def encode (version : FormatVersion) (records : List CheckRecord) :
    Except EncodeError (List (List UInt8)) :=
  (chunks version records).collect

def encodeBytes (version : FormatVersion) (records : List CheckRecord) :
    Except EncodeError (List UInt8) :=
  List.flatten <$> encode version records

/-- The version that the first bytes of an envelope tell. -/
def readVersion (bytes : List UInt8) : Except DecodeError FormatVersion :=
  match bytes with
  | a :: b :: c :: d :: tag :: _ =>
    if [a, b, c, d] = magic then
      match FormatVersion.ofTag? tag.toNat with
      | some version => .ok version
      | none => .error (.unsupportedVersion tag.toNat)
    else .error (.badMagic [a, b, c, d])
  | _ => .error (.tooShort bytes.length)

/-- The next `count` records, after those read before, which are given last one first. -/
def decodeRecords (version : FormatVersion) :
    Nat → List CheckRecord → Cursor → Except DecodeError (List CheckRecord × Cursor)
  | 0, before, c => .ok (before.reverse, c)
  | count + 1, before, c =>
    match Layout.decode version c with
    | .error e => .error e
    | .ok (r, c) => decodeRecords version count (r :: before) c

def decode (bytes : List UInt8) : Except DecodeError (FormatVersion × List CheckRecord) := do
  let version ← readVersion bytes
  match Bytes.take? headerSize bytes with
  | none => throw .truncatedHeader
  | some (header, rest) =>
    let count := Bytes.ofBigEndian (header.drop versionPrefixSize)
    let (records, c) ← decodeRecords version count [] ⟨rest, headerSize⟩
    if c.rest.isEmpty then return (version, records)
    else throw (.trailingBytes c.rest.length count)

/-- The same records one version later; the current version is left as it is. -/
def upgrade (version : FormatVersion) (records : List CheckRecord) :
    Except EncodeError (FormatVersion × List CheckRecord) :=
  match version with
  | .v1 => .ok (.v1, records)
  | .v0 =>
    match records.find? fun r => 0x8000000000000000 ≤ r.timestamp with
    | some r => .error (.timestampTooLate r.timestamp)
    | none => .ok (.v1, records)

theorem upgrade_eq_ok {version next : FormatVersion} {records : List CheckRecord}
    {result : FormatVersion × List CheckRecord} (later : version.next? = some next)
    (h : upgrade version records = .ok result) : result = (next, records) := by
  cases version with
  | v1 => cases later
  | v0 =>
    cases later
    rw [upgrade] at h
    split at h <;> cases h
    rfl

theorem fewer_left_of_upgrade {version next : FormatVersion} {records : List CheckRecord}
    {result : FormatVersion × List CheckRecord} (later : version.next? = some next)
    (h : upgrade version records = .ok result) :
    FormatVersion.current.tag - result.1.tag < FormatVersion.current.tag - version.tag := by
  obtain ⟨after, within⟩ := FormatVersion.tag_next? later
  rw [upgrade_eq_ok later h]
  dsimp only
  omega

/-- What is announced before records are taken from one version to the next. -/
def upgradeNotice (count : Nat) (version next : FormatVersion) : String :=
  "Migrating " ++ toString count ++ " checks from store version " ++ toString version.tag ++
    " to " ++ toString next.tag

end LinkMonitor.Envelope
