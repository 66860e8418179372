import Playback.Text.Blank
import Playback.Text.Digit
import Playback.Text.Quoted
import Playback.Number.Binary64

/-!
This module contains the logic to read whole and decimal numbers that people and programs write.
-/

namespace Playback.Text

/--
White space around numerals. The information separators do not belong to it.
-/
def isNumeralBlank (c : Char) : Bool :=
  isBlank c && !(0x1C ≤ c.toNat && c.toNat ≤ 0x1F)

/--
The greatest count of digits a whole number is read from or written with.
-/
def maxDigits : Nat := 4300

inductive NumeralFault where
  | notWhole (text : String)
  | notDecimal (text : String)
  | tooManyDigits (count : Nat)
deriving DecidableEq

def tooManyDigitsMessage (count : Nat) : String :=
  s!"Exceeds the limit ({maxDigits} digits) for integer string conversion: value has {count} digits"
    ++ "; use sys.set_int_max_str_digits() to increase the limit"

def NumeralFault.message : NumeralFault → String
  | .notWhole text =>
    "invalid literal for int() with base 10: " ++ String.ofList ((quoted text).toList.take 200)
  | .notDecimal text => "could not convert string to float: " ++ quoted text
  | .tooManyDigits count => tooManyDigitsMessage count

/--
Take an optional sign. The result tells whether it is a minus.
-/
def takeSign : List Char → Bool × List Char
  | '-' :: cs => (true, cs)
  | '+' :: cs => (false, cs)
  | cs => (false, cs)

/--
Take digits with single underscores between them. There is no result if an underscore stands
anywhere else.
-/
def takeDigits? (isDigit : Char → Bool) (cs : List Char) : Option (List Char × List Char) :=
  let run := cs.takeWhile fun c => c == '_' || isDigit c
  let groups := splitOn '_' run
  if run.contains '_' && groups.any (·.isEmpty) then none
  else some (groups.flatten, cs.dropWhile fun c => c == '_' || isDigit c)

def readInt (s : String) : Except NumeralFault Int :=
  let (minus, cs) := takeSign (s.toList.dropWhile isNumeralBlank)
  match takeDigits? isDecimal cs with
  | none => .error (.notWhole s)
  | some (digits, rest) =>
    if maxDigits < digits.length then .error (.tooManyDigits digits.length)
    else if digits.isEmpty || !rest.all isNumeralBlank then .error (.notWhole s)
    else .ok (if minus then -(digitsValue digits : Int) else digitsValue digits)

def readExponent? : List Char → Option Int
  | [] => some 0
  | c :: cs =>
    if c == 'e' || c == 'E' then
      let (minus, cs) := takeSign cs
      match takeDigits? isDecimal cs with
      | some (digits, []) =>
        if digits.isEmpty then none
        else some (if minus then -(digitsValue digits : Int) else digitsValue digits)
      | _ => none
    else none

def readUnsigned? (minus : Bool) (cs : List Char) : Option Binary64 :=
  let lower := cs.map Char.toLower
  if lower == "inf".toList || lower == "infinity".toList then some (.infinity minus)
  else if lower == "nan".toList then some .nan
  else do
    let (whole, rest) ← takeDigits? isDecimal cs
    let (fraction, rest) ←
      match rest with
      | '.' :: rest => takeDigits? isDecimal rest
      | rest => some ([], rest)
    if whole.isEmpty && fraction.isEmpty then none
    else
      let exponent ← readExponent? rest
      some (.ofDecimal minus (digitsValue (whole ++ fraction)) (exponent - fraction.length))

def readDecimal (s : String) : Except NumeralFault Binary64 :=
  let cs := dropEndWhile isNumeralBlank (s.toList.dropWhile isNumeralBlank)
  let (minus, cs) := takeSign cs
  match readUnsigned? minus cs with
  | some x => .ok x
  | none => .error (.notDecimal s)

end Playback.Text
