import LinkMonitor.Console.Panel
import LinkMonitor.Host.Basic

/-!
# Printing on the console

Markup is printed as plain text, wrapped at the width of the console unless lines are to be kept whole.
-/

namespace LinkMonitor.Console

/-- What becomes of markup on the console of the host. -/
def shown {α : Type} (f : Emoji.Known → Except MarkupError α) : Action MarkupError α := fun h =>
  (f h.emoji, h)

def printWrapped (channel : Channel) (markup : String) : Action MarkupError Unit := do
  let text ← shown fun known => Markup.plainText known markup
  Action.printLines channel ((Wrap.wrap Panel.consoleWidth text).map String.ofList)

def printWhole (channel : Channel) (markup : String) : Action MarkupError Unit := do
  let text ← shown fun known => Markup.plainText known markup
  Action.printLines channel ((Wrap.lines text).map String.ofList)

end LinkMonitor.Console
