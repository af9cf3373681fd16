/-
DueTime.Text.Expect — taking a known text off the front of another.
-/
namespace DueTime.Text

/-- What is left when the given text is taken off the front; nothing when
it does not stand there. -/
def expect : List Char → List Char → Option (List Char)
  | [], cs => some cs
  | t :: text, c :: cs => if t = c then expect text cs else none
  | _ :: _, [] => none

/-- Takes the given text off the front as often as it stands there, up to
a number of times. -/
def expectUpTo (text : List Char) : Nat → List Char → List Char
  | 0, cs => cs
  | times + 1, cs =>
    match expect text cs with
    | some rest => expectUpTo text times rest
    | none => cs

/-- Takes a text that is not empty off the front as often as it stands
there. -/
def expectAll (text cs : List Char) : List Char :=
  expectUpTo text cs.length cs

end DueTime.Text
