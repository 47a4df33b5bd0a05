import LinkMonitor.Text.Blank
import LinkMonitor.Text.Lowercase

/-!
# Emoji codes

A code is a name between colons, without blanks, such as `:bee:`. Codes whose name the console knows
become the emoji of that name; all others stay as they are, both colons included.
-/

namespace LinkMonitor.Emoji

/-- The emoji that a console knows, each by its name in lower case. -/
abbrev Known := String → Option String

/-- Those that can stand between the colons of an address, and no others. -/
def ofAddress : Known := fun name =>
  [("a", "🅰"), ("b", "🅱"), ("ab", "🆎"), ("abc", "🔤"), ("abcd", "🔡"), ("bed", "🛏"),
   ("bee", "🐝"), ("cd", "💿"), ("100", "💯"), ("1234", "🔢")].lookup name

/-- A name without the ending that asks for a presentation, and the selector of that presentation. -/
def presentation (code : List Char) : List Char × List Char :=
  let text := "-text".toList
  let emoji := "-emoji".toList
  if text.isSuffixOf code then (code.take (code.length - text.length), ['\uFE0E'])
  else if emoji.isSuffixOf code then (code.take (code.length - emoji.length), ['\uFE0F'])
  else (code, [])

/-- The emoji for what stands between two colons. -/
def ofCode? (known : Known) (code : List Char) : Option (List Char) :=
  let (name, selector) := presentation code
  (known (Text.lower (String.ofList name))).map fun emoji => emoji.toList ++ selector

def inCode (c : Char) : Bool := c != ':' && !Text.isBlank c

/-- The text with its codes replaced, from left to right. -/
def replaceCodes (known : Known) : List Char → List Char
  | [] => []
  | c :: rest =>
    if c = ':' then
      match _h : rest.dropWhile inCode with
      | [] => c :: replaceCodes known rest
      | d :: after =>
        if d = ':' then
          let code := rest.takeWhile inCode
          ((ofCode? known code).getD (':' :: (code ++ [':']))) ++ replaceCodes known after
        else c :: replaceCodes known rest
    else c :: replaceCodes known rest
termination_by s => s.length
decreasing_by
  all_goals try simp
  have := (List.dropWhile_suffix (l := rest) inCode).length_le
  simp_all
  omega

end LinkMonitor.Emoji
