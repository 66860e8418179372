import Playback.Cpp.Rewrite
import Playback.Cpp.Support
import Playback.Java.Rewrite
import Playback.Language
import Playback.Script.Capture

/-!
This module contains the logic to turn a program into the one that is run in order to trace it.
-/

namespace Playback

namespace Script

/--
What a grammar makes of a program: a syntax tree, and whether some of the program did not fit it.
-/
structure SyntaxTree where
  root : Node
  hasError : Bool := false

def SyntaxTree.empty : SyntaxTree :=
  { root := .mk "program" 0 0 0 0 true none [] }

end Script

/--
The program that is run in order to trace a program. Python is traced from outside, so its programs
stay as they are.
-/
def instrument (language : Language) (source : String) (tree : Script.SyntaxTree) : String :=
  match language with
  | .cpp | .c =>
    Cpp.support Cpp.defaultMaxText ++ "\n" ++ Cpp.rewrite source Cpp.defaultMaxTraced
  | .java => Java.rewrite source ++ "\n" ++ Java.support Java.defaultMaxText
  | .javascript => Script.instrument source tree.root tree.hasError
  | .python => source

end Playback
