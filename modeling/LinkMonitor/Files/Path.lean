import LinkMonitor.Text.Blank

/-!
# Paths

A path is a root, which is empty for a relative path, and the names below it. Empty names and single
dots are dropped when a text is read; two dots are kept.
-/

namespace LinkMonitor

structure Path where
  root : String
  names : List String
  deriving DecidableEq, Repr, Inhabited

namespace Path

/-- Exactly two slashes at the start are a root of their own. -/
def rootOf (s : List Char) : String :=
  match (s.takeWhile (· == '/')).length with
  | 0 => ""
  | 2 => "//"
  | _ => "/"

def ofString (text : String) : Path :=
  let names := (Text.splitAt (· == '/') text.toList).filter fun n => !n.isEmpty && n != ['.']
  ⟨rootOf text.toList, names.map String.ofList⟩

def text (p : Path) : String :=
  if p.root.isEmpty && p.names.isEmpty then "."
  else p.root ++ String.intercalate "/" p.names

/-- The path without its last name. -/
def parent (p : Path) : Path := ⟨p.root, p.names.dropLast⟩

/-- The last name, empty if there is none. -/
def name (p : Path) : String := p.names.getLast?.getD ""

/-- The part of a text after its last slash. -/
def baseName (text : String) : String :=
  String.ofList ((text.toList.reverse.takeWhile (· != '/')).reverse)

end Path
end LinkMonitor
