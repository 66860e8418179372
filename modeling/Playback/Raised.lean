import Playback.Fault
import Playback.Json.Display
import Playback.Json.Writer

/-!
This module contains the errors and signals that come up while a program runs, and how far each of them
goes.
-/

namespace Playback

/--
How far a raised error or signal goes.
-/
inductive Severity where
  | failure
  | inputExhausted
  | stepCeiling
  | exit
  /-- Any other signal that ends the program. -/
  | abort
deriving DecidableEq

structure Raised where
  severity : Severity
  name : String
  message : String
deriving DecidableEq

namespace Raised

def inputExhausted : Raised :=
  ⟨.inputExhausted, "InputExhausted", Fault.inputExhaustedMessage⟩

def stepCeiling (limit : Int) : Raised :=
  ⟨.stepCeiling, "StepCeilingExceeded", Fault.stepLimitMessage limit⟩

def ofWriteFault (fault : Json.WriteFault) : Raised :=
  ⟨.failure, "ValueError", fault.message⟩

/--
What the error of a name is, given the argument that it is made of if there is one. Errors of a key
show it as it would stand in a program, errors of syntax always show something, and errors of text
conversion and groups of errors cannot be made of one argument. Some names stand for the same error.
-/
def ofName (name : String) (argument : Option Json) : Raised :=
  let text := (argument.map Json.display).getD ""
  let given := if argument.isSome then 1 else 0
  let missing (maker : String) (count : Nat) : Raised :=
    ⟨.failure, "TypeError", s!"{maker} takes exactly {count} arguments ({given} given)"⟩
  match name with
  | "InputExhausted" => argument.elim inputExhausted fun _ => { inputExhausted with message := text }
  | "SystemExit" => ⟨.exit, name, text⟩
  | "KeyboardInterrupt" | "GeneratorExit" | "BaseException" => ⟨.abort, name, text⟩
  | "KeyError" => ⟨.failure, name, (argument.map Json.nested).getD ""⟩
  | "SyntaxError" | "IndentationError" | "TabError" => ⟨.failure, name, (argument.getD .null).display⟩
  | "EnvironmentError" | "IOError" => ⟨.failure, "OSError", text⟩
  | "UnicodeDecodeError" | "UnicodeEncodeError" => missing "function" 5
  | "UnicodeTranslateError" => missing "function" 4
  | "BaseExceptionGroup" | "ExceptionGroup" => missing "BaseExceptionGroup.__new__()" 2
  | _ => ⟨.failure, name, text⟩

def describe (r : Raised) : String :=
  r.name ++ ": " ++ r.message

end Raised

end Playback
