import Playback.Text.Word

/-!
This module contains the logic to find words and bracketed parts in a line of program text.
-/

namespace Playback.Source

def firstWord (cs : List Char) : List Char :=
  match cs with
  | [] => []
  | c :: rest => if Text.isIdentStart c then c :: rest.takeWhile Text.isWordChar else []

def isAmong (words : List String) (cs : List Char) : Bool :=
  words.contains (String.ofList cs)

def bracketStep (c : Char) : Int :=
  if c == '(' || c == '[' || c == '{' then 1
  else if c == ')' || c == ']' || c == '}' then -1
  else 0

/--
Cut a text at the separators where as many brackets have been opened as closed.
-/
def splitTopLevelWhen (isSep : Char → Bool) (cs : List Char) : List (List Char) :=
  go 0 cs
where
  go (depth : Int) : List Char → List (List Char)
    | [] => [[]]
    | c :: cs =>
      let depth := depth + bracketStep c
      let parts := go depth cs
      if isSep c && depth == 0 then [] :: parts
      else (c :: parts.headD []) :: parts.tail

def splitTopLevel (sep : Char) (cs : List Char) : List (List Char) :=
  splitTopLevelWhen (· == sep) cs

/--
The text up to the parenthesis that closes the current group, or all of it if none does. `depth`
counts the groups that are open inside the current one.
-/
def untilClosed (depth : Nat) : List Char → List Char
  | [] => []
  | '(' :: cs => '(' :: untilClosed (depth + 1) cs
  | ')' :: cs =>
    match depth with
    | 0 => []
    | depth + 1 => ')' :: untilClosed depth cs
  | c :: cs => c :: untilClosed depth cs

/--
The text inside the first group in parentheses. There is none if no parenthesis is opened.
-/
def parenContents? (cs : List Char) : Option (List Char) :=
  match cs.dropWhile (· != '(') with
  | [] => none
  | _ :: rest => some (untilClosed 0 rest)

end Playback.Source
