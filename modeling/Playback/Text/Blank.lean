import Playback.Text.Lines

/-!
This module contains the class of white space and the functions that remove it: trimming at both
ends and cutting into words.
-/

namespace Playback.Text

/--
White space of every script, the information separators `U+001C` to `U+001F` included.
-/
def isBlank (c : Char) : Bool :=
  let n := c.toNat
  (0x09 ≤ n && n ≤ 0x0D) || (0x1C ≤ n && n ≤ 0x20) || n == 0x85 || n == 0xA0 || n == 0x1680
    || (0x2000 ≤ n && n ≤ 0x200A) || n == 0x2028 || n == 0x2029 || n == 0x202F || n == 0x205F
    || n == 0x3000

/--
A list without the characters at its end that have a property. It is defined here as what runs is built
on the core library alone; the laws of `List.rdropWhile` hold for it.
-/
def dropEndWhile (p : Char → Bool) (cs : List Char) : List Char :=
  (cs.reverse.dropWhile p).reverse

def trimEnd (cs : List Char) : List Char :=
  dropEndWhile isBlank cs

def trim (cs : List Char) : List Char :=
  trimEnd (cs.dropWhile isBlank)

def trimmed (s : String) : String :=
  String.ofList (trim s.toList)

def isBlankText (s : String) : Bool :=
  s.toList.all isBlank

/--
The maximal runs of characters that are not white space.
-/
def words (cs : List Char) : List (List Char) :=
  (splitWhen isBlank cs).filter fun word => !word.isEmpty

end Playback.Text
