/-
DueTime.Command.Palette — colored text on a terminal.

Text is painted by writing an escape sequence before it and one that ends
all painting after it. A palette that is off paints nothing.
-/
namespace DueTime.Command

/-- A way to paint text. -/
inductive Paint
  | bold
  | dim
  | green
  | yellow
  | red
  | blue
  | cyan
  | gray
  deriving Repr, DecidableEq

/-- The escape sequence that begins the painting. -/
def Paint.sequence : Paint → String
  | bold => "\x1b[1m"
  | dim => "\x1b[2m"
  | green => "\x1b[32m"
  | yellow => "\x1b[33m"
  | red => "\x1b[31m"
  | blue => "\x1b[34m"
  | cyan => "\x1b[36m"
  | gray => "\x1b[90m"

/-- The escape sequence that ends all painting. -/
def resetSequence : String :=
  "\x1b[0m"

/-- Whether to paint at all. -/
structure Palette where
  enabled : Bool
  deriving Repr, DecidableEq

namespace Palette

/-- The text, painted. -/
def paint (p : Palette) (paint : Paint) (text : String) : String :=
  if p.enabled then paint.sequence ++ text ++ resetSequence else text

/-- The text, painted in two ways. -/
def paintBold (p : Palette) (color : Paint) (text : String) : String :=
  p.paint .bold (p.paint color text)

end Palette

end DueTime.Command
