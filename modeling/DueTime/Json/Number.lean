/-
DueTime.Json.Number — JSON numbers, and how large they may be.

A number is read as a significand of 64 bits and a power of ten. Digits
that no longer fit into the significand are dropped; those before the
point still count for the power. The number is refused when its value is
beyond the numbers of double precision: when the significand, rounded to
53 bits, times the power of ten, also rounded to 53 bits, is too large to
be rounded to one of them.
-/
import DueTime.Json.Error
import DueTime.Text.Digits

namespace DueTime.Json

/-! ## Double precision -/

/-- The number rounded to 53 binary digits, a half to the even side. -/
def roundToDouble (n : Nat) : Nat :=
  let unit := Nat.pow 2 (n.log2 - 52)
  let (quotient, rest) := (n / unit, n % unit)
  let up := unit < 2 * rest || (unit == 2 * rest && quotient % 2 == 1)
  (if up then quotient + 1 else quotient) * unit

/-- Numbers from this one on are rounded beyond double precision: it is
half a unit above the largest. -/
def doubleLimit : Nat :=
  Nat.pow 2 1024 - Nat.pow 2 970

/-- The significand times the power of ten is beyond double precision. -/
def tooLarge (significand : Nat) (exponent : Int) : Bool :=
  significand != 0 && 0 ≤ exponent &&
    (308 < exponent ||
      doubleLimit ≤ roundToDouble significand * roundToDouble (Nat.pow 10 exponent.toNat))

/-! ## Digits -/

/-- Takes digits into a number as long as it stays within a limit, and
gives the digits left over. -/
def absorb (limit n : Nat) : List Char → Nat × List Char
  | [] => (n, [])
  | c :: cs =>
    let next := 10 * n + Text.digitValue c
    if limit < next then (n, c :: cs) else absorb limit next cs

/-- The largest significand: the largest number of 64 bits. -/
def maxSignificand : Nat :=
  18446744073709551615

/-- The largest exponent that is read: the largest number of 31 bits. -/
def maxExponent : Nat :=
  2147483647

/-- A run of digits and what follows it. -/
def digitRun (cs : List Char) : List Char × List Char :=
  (cs.takeWhile Char.isDigit, cs.dropWhile Char.isDigit)

/-! ## Reading -/

/-- Reads the exponent of a number, behind its `e`. -/
def readExponent (significand : Nat) (exponent : Int) (cs : List Char) :
    Except Error (List Char) :=
  let (negative, cs) := match cs with
    | '+' :: cs => (false, cs)
    | '-' :: cs => (true, cs)
    | cs => (false, cs)
  match digitRun cs with
  | ([], []) => .error (.before .endInValue [])
  | ([], rest) => .error (.atHead .invalidNumber rest)
  | (digits, rest) =>
    match absorb maxExponent 0 digits with
    | (n, []) =>
      if tooLarge significand (exponent + if negative then -(n : Int) else n) then
        .error (.before .numberOutOfRange rest)
      else .ok rest
    | (_, more) =>
      if significand != 0 && !negative then .error (.atHead .numberOutOfRange (more ++ rest))
      else .ok rest

/-- Reads what may follow the digits before and after the point. -/
def readScale (significand : Nat) (exponent : Int) (cs : List Char) :
    Except Error (List Char) :=
  match cs with
  | 'e' :: rest | 'E' :: rest => readExponent significand exponent rest
  | rest =>
    if tooLarge significand exponent then .error (.before .numberOutOfRange rest) else .ok rest

/-- Reads the digits behind the point. -/
def readFraction (significand : Nat) (exponent : Int) (cs : List Char) :
    Except Error (List Char) :=
  match digitRun cs with
  | ([], []) => .error (.before .endInValue [])
  | ([], rest) => .error (.atHead .invalidNumber rest)
  | (digits, rest) =>
    let (significand, more) := absorb maxSignificand significand digits
    readScale significand (exponent - (digits.length - more.length : Nat)) rest

/-- Reads a number without its sign: a zero, or digits that do not begin
with one, then a fraction and an exponent, either of which may be left
out. Gives what follows the number. -/
def readNumber (cs : List Char) : Except Error (List Char) :=
  match digitRun cs with
  | ([], []) => .error (.before .endInValue [])
  | ([], rest) => .error (.atHead .invalidNumber rest)
  | ('0' :: digit :: digits, rest) =>
    .error (.atHead .invalidNumber (digit :: digits ++ rest))
  | (digits, rest) =>
    let (significand, more) := absorb maxSignificand 0 digits
    match rest with
    | '.' :: rest => readFraction significand more.length rest
    | rest => readScale significand more.length rest

end DueTime.Json
