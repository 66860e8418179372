/-!
This module contains the logic to take a line of options apart into words the way a shell does:
words end at white space, quotes keep white space inside a word, and a backslash takes away the
meaning of the next character.
-/

namespace Playback.Text

inductive ShellFault where
  | openQuote
  | openEscape
deriving DecidableEq

def ShellFault.message : ShellFault → String
  | .openQuote => "No closing quotation"
  | .openEscape => "No escaped character"

namespace Shell

inductive Mode where
  | plain
  /-- It stands between single quotes, where nothing but the closing quote has a meaning. -/
  | single
  | double
  | escaped
  | doubleEscaped
deriving DecidableEq

def isSeparator (c : Char) : Bool :=
  c == ' ' || c == '\t' || c == '\r' || c == '\n'

/--
The words from a point inside a line. The word that the point is in, if it is in one, is reversed.
-/
def wordsFrom (mode : Mode) (word : Option (List Char)) :
    List Char → Except ShellFault (List (List Char))
  | [] =>
    match mode with
    | .plain => .ok (word.map List.reverse).toList
    | .single | .double => .error .openQuote
    | .escaped | .doubleEscaped => .error .openEscape
  | c :: cs =>
    let sofar := word.getD []
    match mode with
    | .plain =>
      if isSeparator c then
        (wordsFrom .plain none cs).map ((word.map List.reverse).toList ++ ·)
      else if c == '\'' then wordsFrom .single (some sofar) cs
      else if c == '"' then wordsFrom .double (some sofar) cs
      else if c == '\\' then wordsFrom .escaped (some sofar) cs
      else wordsFrom .plain (some (c :: sofar)) cs
    | .single =>
      if c == '\'' then wordsFrom .plain (some sofar) cs
      else wordsFrom .single (some (c :: sofar)) cs
    | .double =>
      if c == '"' then wordsFrom .plain (some sofar) cs
      else if c == '\\' then wordsFrom .doubleEscaped (some sofar) cs
      else wordsFrom .double (some (c :: sofar)) cs
    | .escaped => wordsFrom .plain (some (c :: sofar)) cs
    | .doubleEscaped =>
      if c == '"' || c == '\\' then wordsFrom .double (some (c :: sofar)) cs
      else wordsFrom .double (some (c :: '\\' :: sofar)) cs

end Shell

def shellWords (line : String) : Except ShellFault (List String) :=
  (Shell.wordsFrom .plain none line.toList).map (·.map String.ofList)

end Playback.Text
