import LinkMonitor.Text.Blank
import LinkMonitor.Text.CellWidth

/-!
# Wrapping

Lines that are wider than the console are broken before the first word that does not fit. A word that
is wider than a whole line is broken wherever the line is full.
-/

namespace LinkMonitor.Wrap

def trimEnd (s : List Char) : List Char := (s.reverse.dropWhile Text.isBlank).reverse

/-- The words of a line, each with the blanks behind it; the first one also with those before it. -/
def words : Nat → List Char → List (List Char)
  | 0, _ => []
  | fuel + 1, s =>
    let lead := s.takeWhile Text.isBlank
    let body := s.dropWhile Text.isBlank
    let word := body.takeWhile fun c => !Text.isBlank c
    let behind := body.dropWhile fun c => !Text.isBlank c
    if word.isEmpty then []
    else (lead ++ word ++ behind.takeWhile Text.isBlank) ::
      words fuel (behind.dropWhile Text.isBlank)

/-- A word in pieces of at most `width` cells; `piece` is the piece in hand, reversed. -/
def chop (width : Nat) : List Char → Nat → List Char → List (List Char)
  | piece, _, [] => [piece.reverse]
  | piece, cells, c :: rest =>
    let w := Text.cellWidth c
    if cells + w ≤ width then chop width (c :: piece) (cells + w) rest
    else piece.reverse :: chop width [c] w rest

/-- Lines of a paragraph: `line` is the line in hand, of so many cells. -/
def fill (width : Nat) : List Char → Nat → List (List Char) → List (List Char)
  | line, _, [] => [line]
  | line, cells, word :: rest =>
    let size := Text.cellLength (trimEnd word)
    if cells + size ≤ width then fill width (line ++ word) (cells + Text.cellLength word) rest
    else
      let before := if line.isEmpty then [] else [line]
      if size ≤ width then before ++ fill width word (Text.cellLength word) rest
      else
        let pieces := chop width [] 0 word
        let last := pieces.getLastD []
        before ++ pieces.dropLast ++ fill width last (Text.cellLength last) rest

/-- A line without breaks as lines of at most `width` cells. -/
def wrapLine (width : Nat) (s : List Char) : List (List Char) :=
  (fill width [] 0 (words (s.length + 1) s)).map trimEnd

def lines (s : List Char) : List (List Char) := Text.splitAt (· == '\n') s

def wrap (width : Nat) (s : List Char) : List (List Char) := (lines s).flatMap (wrapLine width)

/-- The first characters that fill exactly `width` cells; a blank stands for half of a wide one. -/
def crop : Nat → List Char → List Char
  | _, [] => []
  | 0, _ :: _ => []
  | width, c :: rest =>
    let w := Text.cellWidth c
    if w ≤ width then c :: crop (width - w) rest else [' ']

/-- Filled up with blanks. -/
def pad (width : Nat) (s : List Char) : List Char :=
  s ++ List.replicate (width - Text.cellLength s) ' '

end LinkMonitor.Wrap
