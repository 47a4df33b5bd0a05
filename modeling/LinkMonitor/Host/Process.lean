import LinkMonitor.Files.Path

/-!
# Processes

What a process table tells about the running programs.
-/

namespace LinkMonitor

structure ProcessInfo where
  pid : Int
  name : String
  cmdline : List String := []
  deriving DecidableEq, Repr

/-- Why the system keeps something about a process to itself. -/
inductive ProcessFault
  /-- The process is gone, or only its exit status is left. -/
  | gone
  | denied
  deriving DecidableEq, Repr

/-- A row of the process table, with what happens when it is looked at. -/
structure ProcessRow where
  pid : Int
  name : Option String := none
  cmdline : Option (List String) := none
  openFault : Option ProcessFault := none
  nameFault : Option ProcessFault := none
  cmdlineFault : Option ProcessFault := none
  deriving DecidableEq, Repr

namespace ProcessInfo

/-- Whether a process runs the program `name`: by its own name, by the file it was started from, or
as the script of an interpreter. -/
def isRunning (p : ProcessInfo) (name : String) : Bool :=
  p.name == name ||
    match p.cmdline with
    | [] => false
    | program :: arguments =>
      let base := Path.baseName program
      base == name || ("python".isPrefixOf base &&
        match arguments with
        | [] => false
        | script :: _ => Path.baseName script == name)

end ProcessInfo

namespace ProcessRow

/-- The row as a snapshot of the whole table shows it: what is kept back is left empty. -/
def snapshot (r : ProcessRow) : ProcessInfo := ⟨r.pid, r.name.getD "", r.cmdline.getD []⟩

/-- The row when it is looked at on its own. -/
def inspect? (r : ProcessRow) : Option ProcessInfo :=
  if r.openFault.isSome || r.nameFault.isSome then none
  else match r.cmdlineFault with
    | some .gone => none
    | some .denied => some ⟨r.pid, r.name.getD "", []⟩
    | none => some ⟨r.pid, r.name.getD "", r.cmdline.getD []⟩

end ProcessRow
end LinkMonitor
