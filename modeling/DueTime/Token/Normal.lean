/-
DueTime.Token.Normal — the normal form of a token.

Two tokens that differ only in case and in their blanks have one normal
form: the words of the token joined by single spaces, in lower case. The
grammar is stated on normal forms alone.
-/
import DueTime.Text.Lowercase

namespace DueTime.Token

/-- The words joined by single spaces, then lowered as one text: a sigma
at the end of a word sees the space after it. -/
def normalChars (cs : List Char) : List Char :=
  Text.lower (Text.unwords (Text.words cs))

/-- The normal form of a token. -/
def normalize (token : String) : String :=
  String.ofList (normalChars token.toList)

end DueTime.Token
