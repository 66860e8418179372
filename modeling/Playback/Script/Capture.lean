import Playback.Script.Names
import Playback.Text.Blank

/-!
This module contains the logic to make JavaScript programs capture their execution. A call that reads
every bound name follows each line whose end lies between two statements. Lines are only added, never
changed.
-/

namespace Playback.Script

def statementLists : List String :=
  ["program", "statement_block", "switch_case", "switch_default"]

/--
Whether a node reaches over the end of a row.
-/
def spansEnd (row : Nat) (node : Node) : Bool :=
  node.startRow ≤ row && row < node.endRow

/--
Let a node claim the ends of the rows that it reaches over. Each end is mapped to the kind of the node
that it belongs to.
-/
def claim (owners : Nat → Option String) (node : Node) : Nat → Option String :=
  -- What has been claimed before is claimed again.
  fun row => if spansEnd row node then some node.kind else owners row

/--
The kinds of the nodes that the ends of rows belong to after a walk.
-/
def owners (root : Node) : Nat → Option String :=
  root.preorder.foldl claim fun _ => none

/--
Whether the end of a row lies between two statements, given the kind of the node that it belongs to. An
end of nobody is one of the program.
-/
def isSafe (owner : Option String) : Bool :=
  statementLists.contains (owner.getD "program")

def safeRows (root : Node) : List Nat :=
  let owners := owners root
  (List.range (root.endRow + 1)).filter fun row => isSafe (owners row)

/--
The call that captures a row. Rows count from zero and reported lines from one.
-/
def captureCall (names : List String) (row : Nat) : String :=
  let getters := ", ".intercalate (names.map fun name => s!"\"{name}\": () => {name}")
  s!";__capture({row + 1}, \x7b{getters}\x7d);"

/--
Whether a line holds code. A line that starts a comment does not.
-/
def holdsCode (line : String) : Bool :=
  let cs := Text.trim line.toList
  !cs.isEmpty && !(['/', '/'].isPrefixOf cs)

def captureLines (rows : List Nat) (call : Nat → String) (row : Nat) : List String → List String
  | [] => []
  | line :: lines =>
    let rest := captureLines rows call (row + 1) lines
    if holdsCode line && rows.contains row then line :: call row :: rest else line :: rest

def instrument (source : String) (root : Node) (hasError : Bool) : String :=
  -- A program that the grammar rejects stays as it is.
  if hasError then source
  else
    let names := bindingNames source.toUTF8.toList root
    Text.unlines (captureLines (safeRows root) (captureCall names) 0 (Text.lines source))

end Playback.Script
