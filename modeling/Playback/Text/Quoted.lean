import Playback.Text.Printable

/-!
This module contains the logic to show a text in quotes, as it appears inside error messages.
-/

namespace Playback.Text

/--
The lower case hexadecimal form of a number, with zeros in front up to a width.
-/
def hexPadded (width n : Nat) : List Char :=
  let digits := Nat.toDigits 16 n
  List.replicate (width - digits.length) '0' ++ digits

namespace Quoted

def escape (quote c : Char) : List Char :=
  if c == quote || c == '\\' then ['\\', c]
  else if c == '\n' then ['\\', 'n']
  else if c == '\r' then ['\\', 'r']
  else if c == '\t' then ['\\', 't']
  else if isPrintable c then [c]
  else if c.toNat < 0x100 then '\\' :: 'x' :: hexPadded 2 c.toNat
  else if c.toNat < 0x10000 then '\\' :: 'u' :: hexPadded 4 c.toNat
  else '\\' :: 'U' :: hexPadded 8 c.toNat

/--
Single quotes are used unless the text has a single quote and no double quote.
-/
def delimiter (cs : List Char) : Char :=
  if cs.contains '\'' && !cs.contains '"' then '"' else '\''

end Quoted

def quoted (s : String) : String :=
  let cs := s.toList
  let quote := Quoted.delimiter cs
  String.ofList (quote :: cs.flatMap (Quoted.escape quote) ++ [quote])

end Playback.Text
