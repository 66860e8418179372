import Playback.Json.Basic
import Playback.Text.Numeral

/-!
This module contains the lax reading of values as typed fields: which values count as a whole number,
a truth value or a text, and which are refused.
-/

namespace Playback

namespace Json

private def trimNumeral (cs : List Char) : List Char :=
  Text.dropEndWhile Text.isNumeralBlank (cs.dropWhile Text.isNumeralBlank)

/--
What is left of a numeral behind zeros and underscores, where `last` is the character in front. A zero
stays in front of a point and at the end, and a minus may follow the zeros.
-/
private def behindZeros? (last : Char) : List Char → Option (List Char)
  | [] => some [last]
  | c :: cs =>
    if c == '0' || c == '_' then behindZeros? c cs
    else if c == '.' then some (last :: c :: cs)
    else if c == '-' || c.isDigit then some (c :: cs)
    else none

/--
A numeral without the zeros in front, among which underscores may stand. It has to start with a digit.
-/
private def dropZeros? : List Char → Option (List Char)
  | [] => none
  | c :: cs =>
    if c == '0' then behindZeros? c cs
    else if c.isDigit then some (c :: cs)
    else none

/--
A numeral without a fraction of zeros. Any other fraction stays.
-/
private def dropZeroFraction (cs : List Char) : List Char :=
  match cs.dropWhile (· != '.') with
  | '.' :: '0' :: zeros => if zeros.all (· == '0') then cs.takeWhile (· != '.') else cs
  | _ => cs

/--
A numeral without underscores, if each of them stands alone between two other characters. If one does
not, all of them stay.
-/
private def joinGroups (cs : List Char) : List Char :=
  let groups := Text.splitOn '_' cs
  if groups.any (·.isEmpty) then cs else groups.flatten

/--
The digits of a number that starts with no zero, unless it is zero.
-/
private def plainDigits? (cs : List Char) : Option Nat :=
  if cs == ['0'] || (cs.all Char.isDigit && !cs.isEmpty && cs.head? != some '0') then
    some (Text.digitsValue cs)
  else none

/--
The whole number that a numeral in its plain form stands for. The form is limited in length, its sign
included.
-/
private def plainInt? (cs : List Char) : Option Int :=
  if Text.maxDigits < cs.length then none
  else
    match cs with
    | '-' :: digits => (plainDigits? digits).map fun n => -(n : Int)
    | digits => (plainDigits? digits).map fun n => (n : Int)

/--
The whole number a text writes: a sign, ASCII digits with single underscores between them, and
possibly a fraction of zeros. Zeros in front do not count, and neither do underscores among them; a
number without a minus may have it behind these zeros.
-/
def intOfText? (s : String) : Option Int := do
  let (minus, cs) := Text.takeSign (trimNumeral s.toList)
  let plain := joinGroups (dropZeroFraction (← dropZeros? cs))
  plainInt? (if minus then '-' :: plain else plain)

/--
The bound below which the size of a floating point number has to be, for it to count as a whole one.
-/
def wholeBound : Nat := 9223372036854775808

/--
Whole numbers, truth values as zero and one, floating point numbers of limited size without a
fraction, and texts that write a whole number.
-/
def asInt? : Json → Option Int
  | .int n => some n
  | .bool b => some (if b then 1 else 0)
  | .float x => x.toInt?.filter fun n => n.natAbs < wholeBound
  | .str s => intOfText? s
  | _ => none

/--
Truth values, zero and one, and the usual words in any case.
-/
def asBool? : Json → Option Bool
  | .bool b => some b
  | .int n => ofInt? n
  | .float x => x.toInt?.bind ofInt?
  | .str s =>
    let word := s.toLower
    if ["1", "true", "t", "yes", "y", "on"].contains word then some true
    else if ["0", "false", "f", "no", "n", "off"].contains word then some false
    else none
  | _ => none
where
  ofInt? (n : Int) : Option Bool :=
    if n = 0 then some false else if n = 1 then some true else none

def asText? : Json → Option String
  | .str s => some s
  | _ => none

def asObject? : Json → Option Fields
  | .obj fields => some fields
  | _ => none

def asList? (item? : Json → Option α) : Json → Option (List α)
  | .arr items => items.mapM item?
  | _ => none

end Json

/--
The value of a field that goes by the first of several names that occurs.
-/
def Fields.first? (fields : Fields) : List String → Option Json
  | [] => none
  | name :: names => (fields.get? name).or (fields.first? names)

/--
Read a field that goes by one of several names. An absent field takes the default, and a value that
cannot be read is refused.
-/
def Fields.read? (fields : Fields) (names : List String) (fallback : α)
    (read? : Json → Option α) : Option α :=
  match fields.first? names with
  | none => some fallback
  | some json => read? json

end Playback
