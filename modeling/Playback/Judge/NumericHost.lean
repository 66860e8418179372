import Playback.Pattern.Basic
import Playback.Text.Lines

/-!
This module contains the hosts that are written as numbers: four decimal numbers between points, or up
to eight hexadecimal ones between colons.
-/

namespace Playback.NumericHost

open Pattern

/--
A host that is taken for four numbers: digits with points between them, whatever the numbers are.
-/
def fourNumbers : Pattern :=
  let number := plus (.char Char.isDigit)
  let point := Pattern.text "."
  number ++ point ++ number ++ point ++ number ++ point ++ number ++ textEnd

/--
Whether a text is a number below 256 that starts with no zero, unless it is zero.
-/
def isOctet (cs : List Char) : Bool :=
  !cs.isEmpty && cs.length ≤ 3 && cs.all Char.isDigit && (cs == ['0'] || cs.head? != some '0')
    && Text.digitsValue cs < 256

def isDotted (cs : List Char) : Bool :=
  let parts := Text.splitOn '.' cs
  parts.length == 4 && parts.all isOctet

/--
Whether a text is a hexadecimal number of up to four digits.
-/
def isHextet (cs : List Char) : Bool :=
  let isHex := fun (c : Char) =>
    c.isDigit || ('a' ≤ c && c ≤ 'f') || ('A' ≤ c && c ≤ 'F')
  !cs.isEmpty && cs.length ≤ 4 && cs.all isHex

/--
The parts between the colons of a host. Four decimal numbers at the end count as two parts.
-/
def colonParts? (cs : List Char) : Option (List (List Char)) :=
  let parts := Text.splitOn ':' cs
  let last := parts.getLastD []
  if last.contains '.' then
    if isDotted last then some (parts.dropLast ++ [['0'], ['0']]) else none
  else some parts

/--
The parts on one side of a gap, where a text that is next to nothing has one empty part.
-/
def besideGap (parts : List (List Char)) : List (List Char) :=
  if parts == [[]] then [] else parts

/--
Whether parts make a whole host: eight numbers, or fewer of them around one gap.
-/
def isComplete (parts : List (List Char)) : Bool :=
  let inner := (parts.drop 1).dropLast
  if inner.contains [] then
    let front := parts.take (1 + inner.idxOf [])
    let back := parts.drop (2 + inner.idxOf [])
    let numbers := besideGap front ++ besideGap back
    numbers.length < 8 && numbers.all isHextet
  else parts.length == 8 && parts.all isHextet

/--
Whether a text is a host of hexadecimal numbers. The name of an interface may follow a percent sign.
-/
def isColoned (cs : List Char) : Bool :=
  let interface := cs.dropWhile (· != '%')
  let interfaceOk := interface.isEmpty || (interface.length != 1 && interface.count '%' == 1)
  let host := cs.takeWhile (· != '%')
  interfaceOk && 3 ≤ (Text.splitOn ':' host).length && (colonParts? host).any isComplete

end Playback.NumericHost
