import LinkMonitor.Check.Combination
import LinkMonitor.Text.Lowercase

/-!
# Enabled checks

Reading of entries such as `http-v4`. An entry is a set of tokens, each the name of a kind or of a
stack, in any order and case, between dashes, plus signs, underscores, slashes and blanks; it has to
name exactly one kind and exactly one stack.
-/

namespace LinkMonitor

/-- Why an entry, or a list of entries, enables nothing. -/
inductive EntryError
  | unknownToken (token entry : String)
  | ambiguous (entry : String) (kinds : List CheckKind) (families : List IpStack)
  | missingKind (entry : String)
  | missingStack (entry : String)
  | nothingEnabled
  deriving DecidableEq, Repr

namespace EntryError

def valueList (values : List String) : String :=
  "[" ++ String.intercalate ", " (values.map Text.quoted) ++ "]"

def message : EntryError → String
  | unknownToken token entry =>
    "Unknown token " ++ Text.quoted token ++ " in check " ++ Text.quoted entry
  | ambiguous entry kinds families =>
    "Check " ++ Text.quoted entry ++ " names more than one kind or stack: " ++
      valueList (kinds.map CheckKind.value) ++ " / " ++ valueList (families.map IpStack.value)
  | missingKind entry => "Check " ++ Text.quoted entry ++ " is missing a kind (http|icmp)"
  | missingStack entry => "Check " ++ Text.quoted entry ++ " is missing a stack (v4|v6)"
  | nothingEnabled => "No checks are enabled"

end EntryError

namespace EnabledChecks

/-- What a token names. -/
inductive Token
  | kind (kind : CheckKind)
  | stack (stack : IpStack)
  deriving DecidableEq, Repr

namespace Token

def ofString? (s : String) : Option Token :=
  if s = "http" ∨ s = "https" then some (kind .http)
  else if s = "icmp" ∨ s = "ping" then some (kind .icmp)
  else if s = "v4" ∨ s = "ipv4" then some (stack .v4)
  else if s = "v6" ∨ s = "ipv6" then some (stack .v6)
  else none

end Token

def isSeparator (c : Char) : Bool :=
  c == '-' || c == '+' || c == '_' || c == '/' || Text.isBlank c

/-- The words of an entry, in lower case. -/
def tokens (entry : String) : List String :=
  let s := (Text.lower (Text.strip entry)).toList
  ((Text.splitAt isSeparator s).filter (!·.isEmpty)).map String.ofList

def readToken (entry token : String) : Except EntryError Token :=
  match Token.ofString? token with
  | some t => .ok t
  | none => .error (.unknownToken token entry)

/-- The kinds that are named, in the order of their values. -/
def kindsOf (ts : List Token) : List CheckKind := CheckKind.all.filter fun k => ts.contains (.kind k)

/-- The stacks that are named, in the order of their values. -/
def stacksOf (ts : List Token) : List IpStack := IpStack.all.filter fun s => ts.contains (.stack s)

def parseEntry (entry : String) : Except EntryError Combination := do
  let ts ← (tokens entry).mapM (readToken entry)
  match kindsOf ts, stacksOf ts with
  | [kind], [stack] => return ⟨kind, stack⟩
  | kinds, families =>
    if kinds.length > 1 ∨ families.length > 1 then throw (.ambiguous entry kinds families)
    else if kinds.isEmpty then throw (.missingKind entry)
    else throw (.missingStack entry)

def isBlankEntry (entry : String) : Bool := entry.toList.all Text.isBlank

/-- The combinations of the entries that are not blank, each once, in the order of first mention. -/
def parseEntries (entries : List String) : Except EntryError (List Combination) := do
  let cs ← (entries.filter fun e => !isBlankEntry e).mapM parseEntry
  if cs.isEmpty then throw .nothingEnabled else return cs.eraseDups

/-- Entries between commas. -/
def parse (text : String) : Except EntryError (List Combination) :=
  parseEntries ((Text.splitAt (· == ',') text.toList).map String.ofList)

/-- The text that reads as the given combinations. -/
def text (cs : List Combination) : String := String.intercalate "," (cs.map Combination.value)

end EnabledChecks
end LinkMonitor
