/-
DueTime.Token.Feature — coarse features of a normalized token.

A rule of the grammar names the features that a token must have before
the rule is tried at all. A feature may be asked for only where every
token the rule accepts has it, so that asking never changes an answer. All
of them look at ASCII alone, as the grammar does.
-/
namespace DueTime.Token

/-- Something that a token has or lacks, told at a glance. -/
inductive Feature
  | hasDigits
  | hasColon
  | signed
  | hasWord
  | weekdayish
  deriving Repr, DecidableEq, Inhabited

/-- The text occurs somewhere in the characters, in one piece. -/
def occursIn (text : List Char) : List Char → Bool
  | [] => text.isEmpty
  | c :: cs => text.isPrefixOf (c :: cs) || occursIn text cs

/-- The three letters that every name of a weekday begins with. -/
def weekdayStems : List (List Char) :=
  ["mon", "tue", "wed", "thu", "fri", "sat", "sun"].map String.toList

namespace Feature

/-- All features, in the order in which they are listed. -/
def all : List Feature :=
  [hasDigits, hasColon, signed, hasWord, weekdayish]

/-- The name that a report gives the feature. -/
def label : Feature → String
  | hasDigits => "HAS_DIGITS"
  | hasColon => "HAS_COLON"
  | signed => "SIGNED"
  | hasWord => "HAS_WORD"
  | weekdayish => "WEEKDAYISH"

/-- The normalized token has the feature: a digit, a colon, a sign in
front, a letter, or the stem of a weekday anywhere. -/
def presentIn (token : List Char) : Feature → Bool
  | hasDigits => token.any Char.isDigit
  | hasColon => token.contains ':'
  | signed => token.head? == some '+' || token.head? == some '-'
  | hasWord => token.any Char.isAlpha
  | weekdayish => weekdayStems.any (occursIn · token)

/-- The features of a normalized token, in their order. -/
def detect (token : List Char) : List Feature :=
  all.filter (presentIn token)

end Feature

end DueTime.Token
