import LinkMonitor.Envelope.Layout
import LinkMonitor.Files.Tree

/-!
# Failures of a store
-/

namespace LinkMonitor

inductive StoreError
  | missing (path : Path)
  | unreadable (path : Path) (error : FileError)
  | uninspectable (path : Path) (error : FileError)
  | unmeasurable (path : Path) (error : FileError)
  | unprepared (path : Path) (error : FileError)
  | unwritable (path : Path) (error : FileError)
  | noPathToSaveTo
  | noPath
  /-- The file is no compressed stream. -/
  | notCompressed (path : Path)
  /-- The file ends within its compressed stream. -/
  | truncated (path : Path)
  | bytesBehindStream (path : Path) (count : Nat)
  | decoding (error : DecodeError)
  | encoding (error : EncodeError)
  | alreadyExists (path : Path)
  | readonlySave
  | readonlyMigration
  deriving DecidableEq

namespace StoreError

def message : StoreError → String
  | missing p => "No store at " ++ p.text
  | unreadable p e => "Could not read " ++ p.text ++ ": " ++ e.message
  | uninspectable p e => "Could not inspect " ++ p.text ++ ": " ++ e.message
  | unmeasurable p e => "Could not stat " ++ p.text ++ ": " ++ e.message
  | unprepared p e => "Could not prepare " ++ p.text ++ " for writing: " ++ e.message
  | unwritable p e => "Could not write store to " ++ p.text ++ ": " ++ e.message
  | noPathToSaveTo => "The store has no path to save to"
  | noPath => "The store has no path"
  | notCompressed p => "Store " ++ p.text ++ " is not a valid zlib stream"
  | truncated p => "Store " ++ p.text ++ " is truncated or empty"
  | bytesBehindStream p n =>
    "Store " ++ p.text ++ " has " ++ toString n ++ " bytes after the compressed stream"
  | decoding e => e.message
  | encoding e => e.message
  | alreadyExists p => "A store already exists at " ++ p.text
  | readonlySave => "Tried to save a readonly store"
  | readonlyMigration => "Cannot migrate a readonly store"

/-- The failures of reading or writing at the system's level: they may pass. -/
def isTransient : StoreError → Bool
  | missing _ | unreadable .. | uninspectable .. | unmeasurable .. | unprepared .. | unwritable ..
  | noPathToSaveTo | noPath => true
  | _ => false

/-- The failures to find a whole compressed stream. -/
def isDecompression : StoreError → Bool
  | notCompressed _ | truncated _ => true
  | _ => false

end StoreError
end LinkMonitor
