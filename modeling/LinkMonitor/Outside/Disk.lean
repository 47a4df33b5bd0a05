import LinkMonitor.Host.Basic

/-!
# The disk

Only the files at the paths of interest, and the directories above them, are carried from the disk into
a file tree and back.
-/

namespace LinkMonitor
namespace Disk

/-- What lies below a location, whose own path on the disk is `text`: locations in a tree, and paths. -/
def placesBelow (l : Location) (text : String) : List String → List (Location × String)
  | [] => []
  | name :: names =>
    let l := if name = ".." then FileTree.parentOf l else l ++ [name]
    let text := if text.isEmpty || text.endsWith "/" then text ++ name else text ++ "/" ++ name
    (l, text) :: placesBelow l text names

/-- All that a path passes through, the outermost directory first. -/
def places (p : Path) : List (Location × String) :=
  placesBelow (if p.root.isEmpty then [] else ["/"]) p.root p.names

def faultOf : IO.Error → FileFault
  | .permissionDenied .. => .notPermitted
  | _ => .inputOutput

/-- What the disk has at a path. A file that cannot be read looks empty. -/
def look (path : String) : IO (Option Entry × Option FileFault) := do
  let path := System.mkFilePath [path]
  if ← path.isDir then return (some .directory, none)
  else if ← path.pathExists then
    match ← (IO.FS.readBinFile path).toBaseIO with
    | .ok bytes => return (some (.file bytes.toList), none)
    | .error e => return (some (.file []), some (faultOf e))
  else return (none, none)

/-- The tree of what is at the paths, and why some file could not be read. -/
def load (paths : List Path) : IO (FileTree × Option FileFault) := do
  let mut tree : FileTree := {}
  let mut fault := none
  for (l, path) in paths.flatMap places do
    let (entry, failure) ← look path
    if let some entry := entry then tree := tree.insert l entry
    if failure.isSome then fault := failure
  return (tree, fault)

/-- Replaces a file at one stroke. -/
def replace (path : String) (bytes : List UInt8) : IO Unit := do
  let temporary := System.mkFilePath [path ++ ".tmp"]
  IO.FS.writeBinFile temporary ⟨bytes.toArray⟩
  IO.setAccessRights temporary ⟨⟨true, true, false⟩, ⟨true, false, false⟩, ⟨true, false, false⟩⟩
  IO.FS.rename temporary (System.mkFilePath [path])

/-- Makes the disk differ at the paths as the second tree differs from the first. -/
def save (paths : List Path) (before after : FileTree) : IO Unit :=
  for (l, path) in paths.flatMap places do
    match before.find? l, after.find? l with
    | none, some .directory => IO.FS.createDirAll (System.mkFilePath [path])
    | some (.file _), none => IO.FS.removeFile (System.mkFilePath [path])
    | old, some (.file bytes) => if old != some (.file bytes) then replace path bytes
    | _, _ => pure ()

end Disk
end LinkMonitor
