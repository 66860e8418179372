import Playback.Json.Display

/-!
This module contains the input of a traced program: a fixed text that is delivered once, line by line or
in pieces. The end of it is not an end of file but a signal that more input is needed.
-/

namespace Playback.Monitor

structure Supply where
  rest : List Char
deriving DecidableEq

namespace Supply

def firstLine : List Char → List Char
  | [] => []
  | c :: cs => if c == '\n' then [c] else c :: firstLine cs

/--
Deliver a piece of the input from its front. There is nothing to deliver if the piece is empty.
-/
def deliver? (supply : Supply) (piece : List Char) : Option (String × Supply) :=
  if piece.isEmpty then none
  else some (String.ofList piece, ⟨supply.rest.drop piece.length⟩)

/--
The front of a piece. A limit that is negative or not given takes all of it.
-/
def limited (limit : Option Int) (piece : List Char) : List Char :=
  match limit with
  | some n => if 0 ≤ n then piece.take n.toNat else piece
  | none => piece

def readLine? (supply : Supply) (limit : Option Int) : Option (String × Supply) :=
  supply.deliver? (limited limit (firstLine supply.rest))

def read? (supply : Supply) (limit : Option Int) : Option (String × Supply) :=
  supply.deliver? (limited limit supply.rest)

def readLines (supply : Supply) : List String × Supply :=
  -- Each line has a character, so there are no more lines than characters.
  go supply.rest.length supply
where
  go : Nat → Supply → List String × Supply
    | 0, supply => ([], supply)
    | fuel + 1, supply =>
      match supply.readLine? none with
      | none => ([], supply)
      | some (line, supply) =>
        let (lines, supply) := go fuel supply
        (line :: lines, supply)

/--
The input that a value gives. Null gives no input, and only texts give any.
-/
def ofJson? : Json → Option Supply
  | .null => some ⟨[]⟩
  | .str s => some ⟨s.toList⟩
  | _ => none

end Supply

end Playback.Monitor
