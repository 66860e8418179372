import Playback.Text.Quoted

/-!
This module contains the logic to write a text with percent signs in place of characters that may not
stand in an address, and to find the characters that are not ASCII.
-/

namespace Playback.Text

/--
A byte behind a percent sign, in two upper case hexadecimal digits.
-/
def percentByte (b : UInt8) : List Char :=
  '%' :: (hexPadded 2 b.toNat).map Char.toUpper

def percentEncode (isSafe : Char → Bool) (cs : List Char) : List Char :=
  cs.flatMap fun c =>
    if isSafe c then [c] else (String.singleton c).toUTF8.toList.flatMap percentByte

def isAscii (c : Char) : Bool := c.toNat < 0x80

/--
The first run of characters that are not ASCII: how many characters stand in front of it, and the
characters of the run.
-/
structure ForeignRun where
  start : Nat
  first : Char
  others : List Char
deriving DecidableEq

def foreignRun? (cs : List Char) : Option ForeignRun :=
  let isForeign := fun c => !isAscii c
  match cs.dropWhile isAscii with
  | [] => none
  | c :: rest => some ⟨(cs.takeWhile isAscii).length, c, rest.takeWhile isForeign⟩

def escapedByNumber (c : Char) : List Char :=
  if c.toNat < 0x100 then '\\' :: 'x' :: hexPadded 2 c.toNat
  else if c.toNat < 0x10000 then '\\' :: 'u' :: hexPadded 4 c.toNat
  else '\\' :: 'U' :: hexPadded 8 c.toNat

def ForeignRun.message (run : ForeignRun) : String :=
  let subject :=
    if run.others.isEmpty then
      s!"character '{String.ofList (escapedByNumber run.first)}' in position {run.start}"
    else s!"characters in position {run.start}-{run.start + run.others.length}"
  s!"'ascii' codec can't encode {subject}: ordinal not in range(128)"

end Playback.Text
