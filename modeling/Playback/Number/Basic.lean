import Playback.Number.Shortest

/-!
This module contains numbers that are either whole or floating point, as configurations and
measurements hold them.
-/

namespace Playback

inductive Number where
  | whole (n : Int)
  | float (x : Binary64)
deriving DecidableEq, Inhabited

namespace Number

def toBinary64 : Number → Binary64
  | .whole n => .ofInt n
  | .float x => x

/--
Every number but zero counts as given.
-/
def isNonzero : Number → Bool
  | .whole n => n != 0
  | .float x => !x.isZero

def toGeneralText (n : Number) : String :=
  n.toBinary64.toGeneralText

/--
Whether a rational number is greater than a number. Nothing is greater than what is no number.
-/
def isExceededBy (n : Number) (q : Rat) : Bool :=
  match n with
  | .whole n => (n : Rat) < q
  | .float x =>
    match x.toRat? with
    | some r => r < q
    | none => x.isInfinite && x.negative

end Number

/--
The sum of two numbers as floating point numbers add up. A sum beyond all of them is exact.
-/
def floatSum (a b : Rat) : Rat :=
  (Binary64.ofRat (a + b)).toRat?.getD (a + b)

end Playback
