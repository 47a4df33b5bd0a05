import LinkMonitor.Console.Emoji

/-!
# Markup

Texts for the console may hold tags in square brackets: `[red]` opens a style, `[/red]` closes it and
`[/]` closes the one that was opened last. A backslash before a tag makes it plain text. The plain text
of a markup has no tags, its emoji codes are replaced, and it holds no control characters that move the
cursor.
-/

namespace LinkMonitor

/-- A closing tag that closes nothing; positions count characters from the start of the text. -/
inductive MarkupError
  | unmatched (tag : String) (position : Nat)
  | nothingOpen (position : Nat)
  deriving DecidableEq, Repr

def MarkupError.message : MarkupError → String
  | unmatched tag position =>
    "closing tag '" ++ tag ++ "' at position " ++ toString position ++ " doesn't match any open tag"
  | nothingOpen position =>
    "closing tag '[/]' at position " ++ toString position ++ " has nothing to close"

namespace Markup

/-- What stands between the brackets of a tag, and what follows it. -/
def tag? (s : List Char) : Option (List Char × List Char) :=
  let startsTag (c : Char) : Bool := c.isLower || c == '#' || c == '/' || c == '@'
  match s with
  | '[' :: c :: rest =>
    let inTag (d : Char) : Bool := d != '[' && d != ']'
    match startsTag c, rest.dropWhile inTag with
    | true, ']' :: after => some (c :: rest.takeWhile inTag, after)
    | _, _ => none
  | _ => none

inductive Piece
  | plain (text : List Char)
  | tag (text : List Char) (position : Nat)
  deriving DecidableEq, Repr

/-- The pieces of a run of backslashes and the tag behind it: two backslashes are one, and an odd one
makes the tag plain. -/
def tagPieces (backslashes : Nat) (tag : List Char) (position : Nat) : List Piece :=
  let kept := if backslashes < 2 then [] else [Piece.plain (List.replicate (backslashes / 2) '\\')]
  let last :=
    if backslashes % 2 = 0 then Piece.tag tag (position + backslashes)
    else Piece.plain ('[' :: (tag ++ [']']))
  kept ++ [last]

def plainPiece (reversed : List Char) : List Piece :=
  if reversed.isEmpty then [] else [.plain reversed.reverse]

/-- Plain text and tags in turn. The plain text in hand is reversed; `fuel` is no less than the number
of characters left. -/
def piecesFrom : Nat → Nat → List Char → List Char → List Piece
  | 0, _, plain, _ => plainPiece plain
  | fuel + 1, position, plain, s =>
    let backslashes := (s.takeWhile (· == '\\')).length
    match tag? (s.drop backslashes), s with
    | some (tag, after), _ =>
      plainPiece plain ++ tagPieces backslashes tag position ++
        piecesFrom fuel (position + (s.length - after.length)) [] after
    | none, [] => plainPiece plain
    | none, c :: rest => piecesFrom fuel (position + 1) (c :: plain) rest

def pieces (s : List Char) : List Piece := piecesFrom (s.length + 1) 0 [] s

/-- Plain text between tags: a backslash before a bracket is dropped. -/
def unescape : List Char → List Char
  | '\\' :: '[' :: rest => '[' :: unescape rest
  | c :: rest => c :: unescape rest
  | [] => []

/-- The name of a tag: what stands before an equals sign. -/
def nameOf (tag : List Char) : String := String.ofList (tag.takeWhile (· != '='))

def normal (name : String) : String := Text.lower (Text.strip name)

/-- The open tags after a further tag; the last one opened stands first. -/
def follow (opened : List String) (tag : List Char) (position : Nat) :
    Except MarkupError (List String) :=
  match (nameOf tag).toList with
  | '/' :: name =>
    let name := normal (String.ofList name)
    if name.isEmpty then
      match opened with
      | [] => .error (.nothingOpen position)
      | _ :: rest => .ok rest
    else if opened.contains name then .ok (opened.erase name)
    else .error (.unmatched (String.ofList ('[' :: (tag ++ [']']))) position)
  | name => .ok (normal (String.ofList name) :: opened)

def plainOf (known : Emoji.Known) : List String → List Piece → Except MarkupError (List Char)
  | _, [] => .ok []
  | opened, .plain s :: rest => do
    return Emoji.replaceCodes known (unescape s) ++ (← plainOf known opened rest)
  | opened, .tag tag position :: rest => do plainOf known (← follow opened tag position) rest

/-- Bell, backspace, vertical tab, form feed and carriage return. -/
def isControl (c : Char) : Bool :=
  let n := c.toNat
  n == 7 || n == 8 || n == 11 || n == 12 || n == 13

def plainText (known : Emoji.Known) (markup : String) : Except MarkupError (List Char) := do
  return (← plainOf known [] (pieces markup.toList)).filter fun c => !isControl c

end Markup
end LinkMonitor
