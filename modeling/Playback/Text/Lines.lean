/-!
This module contains the logic to cut a text at separators and to put the parts together again.
A text of `n` separators has `n + 1` parts.
-/

namespace Playback.Text

/--
What holds of the characters of a text is decided along the text, and not by going through all
characters that there are.
-/
instance decidableForallMem (cs : List Char) (p : Char → Prop) [DecidablePred p] :
    Decidable (∀ c ∈ cs, p c) :=
  List.decidableBAll p cs

/--
Cut a text at every character that satisfies `isSep`. The separators belong to no part.
-/
def splitWhen (isSep : Char → Bool) : List Char → List (List Char)
  | [] => [[]]
  | c :: cs =>
    if isSep c then
      [] :: splitWhen isSep cs
    else
      match splitWhen isSep cs with
      | [] => [[c]]
      | part :: parts => (c :: part) :: parts

def splitOn (sep : Char) (cs : List Char) : List (List Char) :=
  splitWhen (· == sep) cs

theorem splitWhen_ne_nil (isSep : Char → Bool) (cs : List Char) : splitWhen isSep cs ≠ [] := by
  cases cs with
  | nil => simp [splitWhen]
  | cons c cs =>
    simp only [splitWhen]
    split
    · simp
    · split <;> simp

/--
The lines of a text. A final newline is followed by one more, empty line.
-/
def lines (s : String) : List String :=
  (splitOn '\n' s.toList).map String.ofList

/--
The lines of a text whose last line may or may not be ended by a newline.
-/
def closedLines (s : String) : List String :=
  let ls := lines s
  if ls.getLast? == some "" then ls.dropLast else ls

def unlines (ls : List String) : String :=
  "\n".intercalate ls

def unifyLineEnds : List Char → List Char
  | '\r' :: '\n' :: cs => '\n' :: unifyLineEnds cs
  | '\r' :: cs => '\n' :: unifyLineEnds cs
  | c :: cs => c :: unifyLineEnds cs
  | [] => []

end Playback.Text
