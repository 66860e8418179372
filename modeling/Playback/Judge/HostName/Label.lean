import Playback.Judge.HostName.Composite
import Playback.Judge.HostName.Context
import Playback.Judge.HostName.Direction
import Playback.Judge.HostName.Letter
import Playback.Judge.HostName.Punycode
import Playback.Text.Lines

/-!
This module contains the names of hosts in every script, and how they are written in ASCII.
-/

namespace Playback.HostName

/--
Whether every character may stand where it stands behind the characters `before`, of which the last one
comes first.
-/
def isSpelled (before : List Char) : List Char → Bool
  | [] => true
  | c :: after =>
    (isLetter c || fitsContext before c after) && isSpelled (c :: before) after

/--
Hyphens stand neither at an end of a label, nor third and fourth.
-/
def isHyphenated (cs : List Char) : Bool :=
  cs.head? != some '-' && cs.getLast? != some '-' && (cs.drop 2).take 2 != ['-', '-']

def isLabel (cs : List Char) : Bool :=
  !cs.isEmpty && isHyphenated cs && !cs.head?.any Text.isMark && isSpelled [] cs
    && isComposed cs && isReadable cs

/--
The start of the labels that are written in ASCII although they are not.
-/
def foreignMark : List Char := ['x', 'n', '-', '-']

def maxLabelLength : Nat := 63

def maxLength : Nat := 253

def ofAscii? (cs : List Char) : Option (List Char) :=
  if foreignMark.isPrefixOf cs then
    let code := cs.drop foreignMark.length
    if code.isEmpty || code.getLast? == some '-' then none else Punycode.decode? code
  else some cs

/--
A label in ASCII. Labels that are too long are no labels, also if they are written in ASCII already.
-/
def labelInAscii? (cs : List Char) : Option (List Char) :=
  if maxLabelLength < cs.length then none
  else if cs.all Text.isAscii then
    if (ofAscii? cs).any isLabel then some cs else none
  else
    let ascii := foreignMark ++ Punycode.encode cs
    if isLabel cs && ascii.length ≤ maxLabelLength then some ascii else none

def isPoint (c : Char) : Bool := ['.', '\u3002', '\uFF0E', '\uFF61'].contains c

/--
A name of lower case letters in ASCII.
-/
def inAscii? (cs : List Char) : Option (List Char) := do
  let labels := Text.splitWhen isPoint cs
  -- There may be a point behind the last label, which does not count for the length.
  let isClosed := labels.getLast? == some []
  let ascii ← (if isClosed then labels.dropLast else labels).mapM labelInAscii?
  let name := ['.'].intercalate ascii
  if name.isEmpty || maxLength < name.length then none
  else some (if isClosed then name ++ ['.'] else name)

end Playback.HostName
