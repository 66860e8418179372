import Playback.Cpp.Declaration
import Playback.Text.Slice

/-!
This module contains the scopes that the braces of C and C++ open, the names they declare, and which
of the names are visible at a place.
-/

namespace Playback.Cpp

/--
A structure whose definition is being read: its name, if it has one already, and the text of its body
so far, nested bodies left out.
-/
structure StructHead where
  name : Option String
  openedAt : Nat
  body : List Char := []
deriving DecidableEq

inductive ScopeKind where
  | block
  | expression
  | struct (head : StructHead)
deriving DecidableEq

namespace ScopeKind

def isBlock : ScopeKind → Bool
  | .block => true
  | _ => false

def isStruct : ScopeKind → Bool
  | .struct _ => true
  | _ => false

end ScopeKind

/--
A scope and its names, the most recently declared first.
-/
structure Scope where
  kind : ScopeKind
  declared : List Declared := []
deriving DecidableEq

namespace Scope

/--
Declare a name. A name that is declared again counts as declared just now.
-/
def declare (scope : Scope) (d : Declared) : Scope :=
  { scope with declared := d :: scope.declared.filter (·.name != d.name) }

def declareAll (scope : Scope) (ds : List Declared) : Scope :=
  ds.foldl declare scope

end Scope

/--
Keep the first occurrence of each name that has not been seen before.
-/
def firstOfEachName (seen : List String) : List Declared → List Declared
  | [] => []
  | d :: ds =>
    if seen.contains d.name then firstOfEachName seen ds
    else d :: firstOfEachName (d.name :: seen) ds

/--
The names that are visible in nested scopes, the innermost scope first, and within a scope the most
recently declared one first. A name hides the names declared before it, and a limit cuts the list.
-/
def visible (limit : Int) (scopes : List Scope) (globals : Scope) : List Declared :=
  let blocks := (scopes ++ [globals]).filter (·.kind.isBlock)
  Text.takeUpTo limit (firstOfEachName [] (blocks.flatMap Scope.declared))

end Playback.Cpp
