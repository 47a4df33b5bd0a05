import LinkMonitor.Text.DecimalDigit
import LinkMonitor.Text.Quoted

/-!
# Options on a command line

Options begin with a dash. A long name may be shortened as long as it stays the only one that begins
this way; a value follows as the next word or behind an equals sign. Two dashes end the options. The
first word that is no option is the command, where there is one, and takes all words behind it with it.
Words that nothing asks for are collected.
-/

namespace LinkMonitor

/-- What an option does. -/
inductive OptionKind
  | help
  | flag
  /-- Takes a value; the function tells what is wrong with it. -/
  | value (complaint? : String → Option String)

structure CommandOption where
  names : List String
  kind : OptionKind

namespace CommandOption

def name (o : CommandOption) : String := o.names.getLastD ""

/-- The option as complaints name it. -/
def title (o : CommandOption) : String := String.intercalate "/" o.names

def help : CommandOption := ⟨["-h", "--help"], .help⟩

def flag (name : String) : CommandOption := ⟨[name], .flag⟩

def value (name : String) (complaint? : String → Option String := fun _ => none) : CommandOption :=
  ⟨[name], .value complaint?⟩

end CommandOption

/-- What a program accepts on its command line. -/
structure CommandGrammar where
  program : String
  options : List CommandOption
  commands : List String := []

/-- What ends the reading of a command line. -/
inductive CommandStop
  | help (usage : String)
  | refused (usage program reason : String)
  deriving DecidableEq, Repr

/-- What has been read. -/
structure CommandWords where
  /-- The options by their full names, the last one first; flags have no value. -/
  options : List (String × Option String) := []
  /-- The command and the words behind it. -/
  command : Option (String × List String) := none
  /-- Words that nothing has asked for. -/
  extras : List String := []

namespace CommandWords

def has (w : CommandWords) (option : String) : Bool := w.options.any fun o => o.1 == option

def value? (w : CommandWords) (option : String) : Option String :=
  (w.options.lookup option).getD none

end CommandWords

namespace CommandGrammar

/-- An option as the usage line shows it. -/
def optionUsage (o : CommandOption) : String :=
  let placeholder := match o.kind with
    | .value _ => " " ++ String.ofList ((o.name.toList.dropWhile (· == '-')).map Char.toUpper)
    | _ => ""
  "[" ++ o.names.headD "" ++ placeholder ++ "]"

def usage (g : CommandGrammar) : String :=
  let commands :=
    if g.commands.isEmpty then [] else ["\x7b" ++ String.intercalate "," g.commands ++ "\x7d ..."]
  "usage: " ++ String.intercalate " " (g.program :: g.options.map optionUsage ++ commands)

def refuse {α : Type} (g : CommandGrammar) (reason : String) : Except CommandStop α :=
  .error (.refused g.usage g.program reason)

/-- What a word turns out to be before the words around it are looked at. -/
inductive Mark
  | word
  /-- An option, the name it was found under, and the value behind an equals sign. -/
  | option (option : CommandOption) (name : List Char) (value : Option (List Char))
  | unknownOption
  | separator

/-- All names of options, each with its option. -/
def allNames (g : CommandGrammar) : List (List Char × CommandOption) :=
  g.options.flatMap fun o => o.names.map fun n => (n.toList, o)

/-- The parts before and behind the first equals sign. -/
def splitValue (s : List Char) : List Char × Option (List Char) :=
  match s.dropWhile (· != '=') with
  | [] => (s, none)
  | _ :: value => (s.takeWhile (· != '='), some value)

/-- The options that a word may mean when it is a shortened name, or a short name with its value. -/
def candidates (g : CommandGrammar) (s : List Char) :
    List (CommandOption × List Char × Option (List Char)) :=
  if "--".toList.isPrefixOf s then
    let (start, value) := splitValue s
    g.allNames.filterMap fun (name, o) =>
      if start.isPrefixOf name then some (o, name, value) else none
  else
    g.allNames.filterMap fun (name, o) =>
      if name == s.take 2 then some (o, name, some (s.drop 2))
      else if s.isPrefixOf name then some (o, name, none)
      else none

/-- Whether a word with a dash is a number below zero. -/
def isNegativeNumber (s : List Char) : Bool :=
  let isDigit (c : Char) : Bool := (Text.digitValue? c).isSome
  match s with
  | '-' :: rest =>
    let places := rest.dropWhile isDigit
    match places with
    | [] => !rest.isEmpty
    | '.' :: places => !places.isEmpty && places.all isDigit
    | _ => false
  | _ => false

def markDashed (g : CommandGrammar) (s : List Char) : Except CommandStop Mark :=
  let named? (name : List Char) := g.allNames.lookup name
  let (start, value) := splitValue s
  match named? s, named? start with
  | some o, _ => .ok (.option o s none)
  | none, some o => .ok (.option o start value)
  | none, none =>
    if s.length = 1 then .ok .word
    else match g.candidates s with
      | [(o, name, value)] => .ok (.option o name value)
      | [] => .ok (if isNegativeNumber s || s.contains ' ' then .word else .unknownOption)
      | several =>
        g.refuse ("ambiguous option: " ++ String.ofList s ++ " could match " ++
          String.intercalate ", " (several.map fun c => String.ofList c.2.1))

/-- Marks all words; behind a separator no word is an option. -/
def mark (g : CommandGrammar) : List String → Except CommandStop (List (String × Mark))
  | [] => .ok []
  | s :: rest =>
    if s = "--" then .ok ((s, .separator) :: rest.map fun s => (s, .word))
    else do
      let m ← if s.startsWith "-" then g.markDashed s.toList else pure .word
      return (s, m) :: (← g.mark rest)

def complain {α : Type} (g : CommandGrammar) (o : CommandOption) (reason : String) :
    Except CommandStop α :=
  g.refuse ("argument " ++ o.title ++ ": " ++ reason)

def ignored (value : List Char) : String :=
  "ignored explicit argument " ++ Text.quoted (String.ofList value)

/-- An option without a value that has one all the same. Behind a short name it may be further short
options, all of which ask for help. -/
def refuseValue (g : CommandGrammar) (o : CommandOption) (isShort : Bool) :
    List Char → Except CommandStop Unit
  | [] => g.complain o (ignored [])
  | c :: rest =>
    if isShort && (g.allNames.lookup ['-', c]).isSome then
      if rest.isEmpty then .error (.help g.usage) else refuseValue g o isShort rest
    else g.complain o (ignored (c :: rest))

/-- Takes an option whose value, if it needs one, may be the next word. The result tells whether that
word was taken. -/
def takeOption (g : CommandGrammar) (o : CommandOption) (name : List Char)
    (value? : Option (List Char)) (next? : Option String) (w : CommandWords) :
    Except CommandStop (Bool × CommandWords) :=
  let keep (value? : Option String) : CommandWords :=
    { w with options := (o.name, value?) :: w.options }
  match o.kind, value? with
  | .value complaint?, some value =>
    let value := String.ofList value
    if value = "--" then .ok (false, keep none)
    else match complaint? value with
      | some reason => g.complain o reason
      | none => .ok (false, keep (some value))
  | .value complaint?, none =>
    match next? with
    | none => g.complain o "expected one argument"
    | some value =>
      match complaint? value with
      | some reason => g.complain o reason
      | none => .ok (true, keep (some value))
  | _, some value => do
    g.refuseValue o (name.length = 2) value
    return (false, w)
  | .help, none => .error (.help g.usage)
  | .flag, none => .ok (false, keep none)

/-- The next word, if it can be the value of an option. -/
def nextWord? : List (String × Mark) → Option String
  | (s, .word) :: _ => some s
  | _ => none

/-- Reads marked words. -/
def consume (g : CommandGrammar) : List (String × Mark) → CommandWords →
    Except CommandStop CommandWords
  | [], w => .ok w
  | (s, m) :: rest, w =>
    let words := rest.map Prod.fst
    let isCommand := !g.commands.isEmpty && w.command.isNone
    let skip (more : List String) : CommandWords := { w with extras := w.extras ++ more }
    match m with
    | .unknownOption => g.consume rest (skip [s])
    | .option o name value? =>
      match g.takeOption o name value? (nextWord? rest) w, rest with
      | .error e, _ => .error e
      | .ok (true, w), _ :: rest => g.consume rest w
      | .ok (_, w), rest => g.consume rest w
    | .word =>
      if isCommand then .ok { w with command := some (s, words) } else g.consume rest (skip [s])
    | .separator =>
      if isCommand && !rest.isEmpty then .ok { w with command := some (s, words) }
      else .ok (skip (s :: words))
termination_by ws => ws.length

/-- What is wrong with the name of a command. -/
def checkCommand (g : CommandGrammar) (name : String) : Except CommandStop Unit :=
  if g.commands.contains name then .ok ()
  else g.refuse ("argument command: invalid choice: " ++ Text.quoted name ++
    " (choose from " ++ String.intercalate ", " (g.commands.map Text.quoted) ++ ")")

def read (g : CommandGrammar) (args : List String) : Except CommandStop CommandWords := do
  let w ← g.consume (← g.mark args) {}
  if let some (name, _) := w.command then g.checkCommand name
  return w

/-- Refuses words that nothing has asked for. -/
def refuseExtras (g : CommandGrammar) (extras : List String) : Except CommandStop Unit :=
  if extras.isEmpty then .ok ()
  else g.refuse ("unrecognized arguments: " ++ String.intercalate " " extras)

end CommandGrammar
end LinkMonitor
