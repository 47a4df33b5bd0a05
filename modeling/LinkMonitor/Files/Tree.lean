import LinkMonitor.Files.Path
import LinkMonitor.Text.Quoted

/-!
# File trees

Directories and files under the current directory and under the root. Paths are resolved name by
name: every name but the last has to lead to a directory, and two dots lead to its parent.
-/

namespace LinkMonitor

/-- The kinds of failure that the system reports, with their numbers. -/
inductive FileFault
  | noEntry
  | busy
  | alreadyThere
  | notDirectory
  | isDirectory
  | noSpace
  | nameTooLong
  | inputOutput
  | notPermitted
  deriving DecidableEq, Repr

namespace FileFault

def number : FileFault → Nat
  | noEntry => 2
  | inputOutput => 5
  | notPermitted => 13
  | busy => 16
  | alreadyThere => 17
  | notDirectory => 20
  | isDirectory => 21
  | noSpace => 28
  | nameTooLong => 36

def text : FileFault → String
  | noEntry => "No such file or directory"
  | inputOutput => "Input/output error"
  | notPermitted => "Permission denied"
  | busy => "Device or resource busy"
  | alreadyThere => "File exists"
  | notDirectory => "Not a directory"
  | isDirectory => "Is a directory"
  | noSpace => "No space left on device"
  | nameTooLong => "File name too long"

end FileFault

/-- What a failed operation was about. -/
inductive FileSubject
  | none
  | path (path : Path)
  | temporary
  /-- A temporary file was to become the file at `path`. -/
  | renaming (path : Path)
  deriving DecidableEq, Repr

structure FileError where
  fault : FileFault
  subject : FileSubject
  deriving DecidableEq, Repr

/-- Temporary files have no names of interest. -/
def FileError.message (e : FileError) : String :=
  let subject := match e.subject with
    | .none => ""
    | .path p => ": " ++ Text.quoted p.text
    | .temporary => ": '<tmp>'"
    | .renaming p => ": '<tmp>' -> " ++ Text.quoted p.text
  "[Errno " ++ toString e.fault.number ++ "] " ++ e.fault.text ++ subject

inductive Entry
  | directory
  | file (bytes : List UInt8)
  deriving DecidableEq, Repr

/-- The names that lead to an entry; those under the root start with a slash. -/
abbrev Location := List String

structure FileTree where
  entries : List (Location × Entry) := []
  deriving DecidableEq, Repr

namespace FileTree

/-- The current directory and the root always exist. -/
def isTop (l : Location) : Bool := l.isEmpty || l == ["/"]

def find? (t : FileTree) (l : Location) : Option Entry :=
  if isTop l then some .directory else t.entries.lookup l

def insert (t : FileTree) (l : Location) (e : Entry) : FileTree :=
  if t.entries.any fun p => p.1 == l then
    ⟨t.entries.map fun p => if p.1 == l then (l, e) else p⟩
  else ⟨t.entries ++ [(l, e)]⟩

/-- Puts bytes behind those that a file has already. -/
def appendTo (t : FileTree) (l : Location) (bytes : List UInt8) : FileTree :=
  match t.find? l with
  | some (.file before) => t.insert l (.file (before ++ bytes))
  | _ => t.insert l (.file bytes)

def erase (t : FileTree) (l : Location) : FileTree := ⟨t.entries.filter fun p => p.1 != l⟩

/-- Without the entry and everything below it. -/
def eraseAll (t : FileTree) (l : Location) : FileTree :=
  ⟨t.entries.filter fun p => !l.isPrefixOf p.1⟩

def maxNameSize : Nat := 255

def maxPathSize : Nat := 4095

def parentOf (l : Location) : Location := if isTop l then l else l.dropLast

/-- Follows names from a location that has been reached. -/
def walk (t : FileTree) (l : Location) : List String → Except FileFault Location
  | [] => .ok l
  | name :: names =>
    match t.find? l with
    | none => .error .noEntry
    | some (.file _) => .error .notDirectory
    | some .directory =>
      if name = ".." then walk t (parentOf l) names
      else if name.utf8ByteSize > maxNameSize then .error .nameTooLong
      else walk t (l ++ [name]) names

/-- Where a path leads; nothing needs to be there. -/
def resolve (t : FileTree) (p : Path) : Except FileFault Location :=
  if p.text.utf8ByteSize > maxPathSize then .error .nameTooLong
  else walk t (if p.root.isEmpty then [] else ["/"]) p.names

/-- What is at a path, which has to be something. -/
def entryAt (t : FileTree) (p : Path) : Except FileFault (Location × Entry) := do
  let l ← t.resolve p
  match t.find? l with
  | some e => return (l, e)
  | none => throw .noEntry

def blame {α : Type} (p : Path) : Except FileFault α → Except FileError α
  | .ok a => .ok a
  | .error fault => .error ⟨fault, .path p⟩

/-- Whether there is something at a path. -/
def pathExists (t : FileTree) (p : Path) : Except FileError Bool :=
  match t.entryAt p with
  | .ok _ => .ok true
  | .error .noEntry | .error .notDirectory => .ok false
  | .error fault => .error ⟨fault, .path p⟩

def isDirectory (t : FileTree) (p : Path) : Bool :=
  match t.entryAt p with
  | .ok (_, .directory) => true
  | _ => false

/-- The size of a directory is the size of its own block. -/
def sizeAt (t : FileTree) (p : Path) : Except FileError Nat :=
  blame p do
    match (← t.entryAt p).2 with
    | .file bytes => return bytes.length
    | .directory => return 4096

def contentAt (t : FileTree) (p : Path) : Except FileError (List UInt8) :=
  blame p do
    match (← t.entryAt p).2 with
    | .file bytes => return bytes
    | .directory => throw .isDirectory

/-- Replaces or creates a file. -/
def putFile (t : FileTree) (p : Path) (bytes : List UInt8) : Except FileError FileTree :=
  blame p do
    let l ← t.resolve p
    match t.find? l with
    | some .directory => throw .isDirectory
    | _ => if (t.find? (parentOf l)).isSome then return t.insert l (.file bytes) else throw .noEntry

def removeFile (t : FileTree) (p : Path) : Except FileError FileTree :=
  blame p do
    match ← t.entryAt p with
    | (_, .directory) => throw .isDirectory
    | (l, .file _) => return t.erase l

/-- Removes a directory with all it holds. -/
def removeTree (t : FileTree) (p : Path) : Except FileError FileTree :=
  blame p do
    match ← t.entryAt p with
    | (l, .directory) => return t.eraseAll l
    | (_, .file _) => throw .notDirectory

def makeDirectory (t : FileTree) (p : Path) : Except FileFault FileTree := do
  let l ← t.resolve p
  match t.find? l with
  | some _ => throw .alreadyThere
  | none => return t.insert l .directory

/-- A directory that exists already is as good as a new one. -/
def ensureDirectory (t : FileTree) (p : Path) : Except FileError FileTree :=
  match t.makeDirectory p with
  | .ok t => .ok t
  | .error fault => if t.isDirectory p then .ok t else .error ⟨fault, .path p⟩

/-- Makes the directories of a path from the outermost missing one on. Those made before a failure
stay. -/
def ensureDirectories (t : FileTree) (root : String) (namesReversed : List String) :
    FileTree × Except FileError Unit :=
  let p : Path := ⟨root, namesReversed.reverse⟩
  match t.makeDirectory p, namesReversed with
  | .error .noEntry, _ :: outer =>
    match t.ensureDirectories root outer with
    | (t, .error e) => (t, .error e)
    | (t, .ok ()) =>
      match t.ensureDirectory p with
      | .ok t => (t, .ok ())
      | .error e => (t, .error e)
  | _, _ =>
    match t.ensureDirectory p with
    | .ok t => (t, .ok ())
    | .error e => (t, .error e)
termination_by namesReversed.length

def makeDirectories (t : FileTree) (p : Path) : FileTree × Except FileError Unit :=
  t.ensureDirectories p.root p.names.reverse

end FileTree
end LinkMonitor
