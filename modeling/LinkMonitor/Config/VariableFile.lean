import LinkMonitor.Text.Blank

/-!
# Variable files

A variable file assigns values to names, one assignment after the other: `NAME=value`, with blanks
around both, an optional `export` before the name, quotes around either, and a comment after a hash
sign. A name may stand alone, without a value. A line that reads as nothing of this kind is skipped.

Values may refer to other variables, as `${NAME}` or `${NAME:-default}`: those assigned further up, or
those of the environment.
-/

namespace LinkMonitor

/-- Names in the order of their first assignment, with the last value of each. -/
abbrev Variables := List (String × Option String)

namespace VariableFile

/-- Reading fails where it stands. -/
abbrev Reader := StateT (List Char) (Except (List Char))

variable {α : Type}

def refuse : Reader α := fun s => .error s

def next? : Reader (Option Char) := fun s => .ok (s.head?, s)

/-- The characters up to the first one without the property. -/
def span (p : Char → Bool) : Reader (List Char) := fun s => .ok (s.takeWhile p, s.dropWhile p)

/-- What is left of the text when `f` has taken something from its start; all of it otherwise. -/
def drop (f : List Char → Option (List Char)) : Reader Unit := fun s => .ok ((), (f s).getD s)

def ofOption (f : List Char → Option (α × List Char)) : Reader α := fun s =>
  match f s with
  | some r => .ok r
  | none => .error s

/-- Blanks within a line. -/
def isGap (c : Char) : Bool := Text.isBlank c && c != '\n'

def isLineChar (c : Char) : Bool := c != '\n'

/-- What follows the word `export`. -/
def afterExport? (s : List Char) : Option (List Char) :=
  let word := "export".toList
  let rest := s.drop word.length
  if word.isPrefixOf s && (rest.head?.map isGap).getD false then some (rest.dropWhile isGap) else none

/-- What follows a comment: the end of its line. -/
def afterComment? (s : List Char) : Option (List Char) :=
  let rest := s.dropWhile isGap
  if rest.head? == some '#' then some (rest.dropWhile isLineChar) else none

/-- Text up to a closing quote, and what follows it. A quote behind a backslash closes the text only if
no quote further on does. -/
def closeQuote? (q : Char) : List Char → Option (List Char × List Char)
  | [] => none
  | [c] => if c = q then some ([], []) else none
  | c :: d :: rest =>
    if c = q then some ([], d :: rest)
    else if c = '\\' ∧ d = q then
      match closeQuote? q rest with
      | some (text, rest) => some (c :: d :: text, rest)
      | none => some ([c], rest)
    else (closeQuote? q (d :: rest)).map fun p => (c :: p.1, p.2)

/-- The text with its escapes replaced. -/
def unescape (meaning? : Char → Option Char) : List Char → List Char
  | [] => []
  | [c] => [c]
  | c :: d :: rest =>
    match (if c = '\\' then meaning? d else none) with
    | some e => e :: unescape meaning? rest
    | none => c :: unescape meaning? (d :: rest)

/-- Escapes between single quotes. -/
def plainEscape? (c : Char) : Option Char := if c = '\\' ∨ c = '\'' then some c else none

/-- Escapes between double quotes. -/
def controlEscape? : Char → Option Char
  | '\\' => some '\\'
  | '\'' => some '\''
  | '"' => some '"'
  | 'a' => some '\x07'
  | 'b' => some '\x08'
  | 'f' => some '\x0c'
  | 'n' => some '\n'
  | 'r' => some '\r'
  | 't' => some '\t'
  | 'v' => some '\x0b'
  | _ => none

/-- A text without the comment behind it: blanks and a hash sign. -/
def beforeComment : List Char → List Char
  | [] => []
  | c :: rest =>
    if Text.isBlank c && (rest.dropWhile Text.isBlank).head? == some '#' then []
    else c :: beforeComment rest

def trimEnd (s : List Char) : List Char := (s.reverse.dropWhile Text.isBlank).reverse

def quotedName? (s : List Char) : Option (List Char × List Char) :=
  match (s.drop 1).takeWhile (· != '\''), (s.drop 1).dropWhile (· != '\'') with
  | c :: name, _ :: rest => some (c :: name, rest)
  | _, _ => none

def bareName? (s : List Char) : Option (List Char × List Char) :=
  let inName (c : Char) : Bool := c != '=' && c != '#' && !Text.isBlank c
  match s.takeWhile inName with
  | [] => none
  | name => some (name, s.dropWhile inName)

/-- The name of an assignment; there is none before a comment. -/
def readName : Reader (Option String) := do
  match ← next? with
  | some '#' => return none
  | some '\'' => return some (String.ofList (← ofOption quotedName?))
  | _ => return some (String.ofList (← ofOption bareName?))

def readText : Reader (List Char) := do
  match ← next? with
  | some '\'' => return unescape plainEscape? (← ofOption fun s => closeQuote? '\'' (s.drop 1))
  | some '"' => return unescape controlEscape? (← ofOption fun s => closeQuote? '"' (s.drop 1))
  | _ => return trimEnd (beforeComment (← span isLineChar))

/-- The value behind an equals sign, if there is one. -/
def readValue : Reader (Option String) := do
  match ← next? with
  | some '=' =>
    drop fun s => some ((s.drop 1).dropWhile isGap)
    return some (String.ofList (← readText))
  | _ => return none

def endLine : Reader Unit := do
  drop fun s => some (s.dropWhile isGap)
  match ← next? with
  | none => return ()
  | some '\n' => drop fun s => some (s.drop 1)
  | some _ => refuse

/-- One assignment, and the line it ends on. -/
def readAssignment : Reader (Option (String × Option String)) := do
  drop fun s => some (s.dropWhile Text.isBlank)
  match ← next? with
  | none => return none
  | some _ =>
    drop afterExport?
    let name? ← readName
    drop fun s => some (s.dropWhile isGap)
    let value? ← readValue
    drop afterComment?
    endLine
    return name?.map fun name => (name, value?)

/-- The first assignment, or nothing for a line that cannot be read, and the rest of the text. -/
def split (s : List Char) : Option (String × Option String) × List Char :=
  match readAssignment s with
  | .ok r => r
  | .error stop => (none, (stop.dropWhile isLineChar).drop 1)

/-- All assignments of a text. -/
def assignments (s : List Char) : List (String × Option String) :=
  let (found, rest) := split s
  if rest.length < s.length then found.toList ++ assignments rest else found.toList
termination_by s.length

/-! ### References to variables -/

/-- A reference behind its opening brace: the name, the default, and the text that follows. -/
def reference? (s : List Char) : Option (String × String × List Char) :=
  let inName (c : Char) : Bool := c != '}' && c != ':'
  let name := String.ofList (s.takeWhile inName)
  match s.dropWhile inName with
  | '}' :: rest => some (name, "", rest)
  | ':' :: '-' :: rest =>
    match rest.dropWhile (· != '}') with
    | _ :: after => some (name, String.ofList (rest.takeWhile (· != '}')), after)
    | [] => none
  | _ => none

/-- The text with its references replaced by their values. -/
def expand (value : String → String → String) (s : List Char) : List Char :=
  match s with
  | [] => []
  | c :: rest =>
    match (if c = '$' ∧ rest.head? = some '{' then reference? (rest.drop 1) else none) with
    | none => c :: expand value rest
    | some (name, default, after) =>
      if after.length ≤ rest.length then (value name default).toList ++ expand value after
      else []
termination_by s.length

/-- What a reference stands for: a variable without a value is empty. -/
def resolve (environment : List (String × String)) (assigned : Variables) (name default : String) :
    String :=
  match assigned.lookup name with
  | some value => value.getD ""
  | none => (environment.reverse.lookup name).getD default

/-- A name keeps the place of its first assignment. -/
def assign (vars : Variables) (name : String) (value : Option String) : Variables :=
  if vars.any fun v => v.1 == name then
    vars.map fun v => if v.1 == name then (name, value) else v
  else vars ++ [(name, value)]

def assignExpanded (environment : List (String × String)) (vars : Variables)
    (assignment : String × Option String) : Variables :=
  let value := assignment.2.map fun text =>
    String.ofList (expand (resolve environment vars) text.toList)
  assign vars assignment.1 value

/-- All line ends as newlines. -/
def unifyLines : List Char → List Char
  | [] => []
  | '\r' :: '\n' :: rest => '\n' :: unifyLines rest
  | '\r' :: rest => '\n' :: unifyLines rest
  | c :: rest => c :: unifyLines rest

/-- The variables of a file that is read in the given environment. -/
def read (environment : List (String × String)) (text : String) : Variables :=
  (assignments (unifyLines text.toList)).foldl (assignExpanded environment) []

end VariableFile
end LinkMonitor
