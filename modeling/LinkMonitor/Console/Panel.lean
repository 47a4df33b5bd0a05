import LinkMonitor.Console.Markup
import LinkMonitor.Console.Wrap

/-!
# Panels

A box with round corners around some lines, as wide as the widest of them, with one blank at either
side. A title stands in the middle of the top border, between two blanks.
-/

namespace LinkMonitor.Panel

/-- The cells of a line of the console. -/
def consoleWidth : Nat := 200

/-- The greatest width of the text in a panel: both borders and both blanks are left. -/
def maxTextWidth : Nat := consoleWidth - 4

def dashes (n : Nat) : List Char := List.replicate n '─'

/-- The top border between its corners; the title, if there is one, leaves at least one dash at
either side. -/
def topEdge (inner : Nat) (title : Option (List Char)) : List Char :=
  match title with
  | none => dashes inner
  | some title =>
    let room := inner - 2
    let title := if Text.cellLength title ≤ room then title else Wrap.crop room title
    let excess := room - Text.cellLength title
    dashes (1 + excess / 2) ++ title ++ dashes (excess - excess / 2 + 1)

/-- The lines of a panel around a plain text, with a plain title. -/
def draw (text : List Char) (title : Option (List Char)) : List (List Char) :=
  let widest := ((Wrap.lines text).map Text.cellLength).foldl max 0
  let textWidth := min maxTextWidth (max widest ((title.map Text.cellLength).getD 0))
  let inner := textWidth + 2
  let row (line : List Char) : List Char := "│ ".toList ++ Wrap.pad textWidth line ++ " │".toList
  ['╭' :: (topEdge inner title ++ ['╮'])] ++ (Wrap.wrap textWidth text).map row ++
    ['╰' :: (dashes inner ++ ['╯'])]

/-- The title of a markup: one line, with a blank at either side; none if it is empty. -/
def titleOf (known : Emoji.Known) (markup : String) : Except MarkupError (Option (List Char)) :=
  if markup.isEmpty then .ok none
  else do
    let text ← Markup.plainText known markup
    let flat := text.map fun c => if c = '\n' then ' ' else c
    return some (' ' :: (flat ++ [' ']))

/-- The panel around a markup. -/
def ofMarkup (known : Emoji.Known) (markup title : String) : Except MarkupError (List String) := do
  return (draw (← Markup.plainText known markup) (← titleOf known title)).map String.ofList

end LinkMonitor.Panel
