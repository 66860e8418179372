import Playback.Language
import Playback.Number.Basic
import Playback.Text.Quoted

/-!
This module contains the reasons why a program is not traced, or not traced to its end, and what is
said about each of them.
-/

namespace Playback

inductive Fault where
  | unsupportedLanguage (name : String)
  | malformedRecord (line reason : String)
  | noTraceProduced (message output : String)
  | midTraceFailure (message : String)
  | executionTimeout (seconds : Number) (output : String)
  | judgeUnavailable (message : String)
  | sourceRejected (message : String)
  | other (message : String)
  | inputExhausted (message : String)
  | stepCeilingExceeded (limit : Int)
deriving DecidableEq

namespace Fault

def timeoutMessage : String := "Execution timed out"

def stepLimitMessage (limit : Int) : String :=
  s!"Step limit exceeded (max {limit} steps)"

def inputExhaustedMessage : String := "Input exhausted"

/--
The start of a malformed record is shown, followed by the reason if there is one.
-/
def malformedRecordMessage (line reason : String) : String :=
  let shown := Text.quoted (String.ofList (line.toList.take 80))
  String.ofList (Text.trimEnd ("Malformed trace record: " ++ shown ++ " " ++ reason).toList)

def message : Fault → String
  | .unsupportedLanguage name =>
    "Unsupported language: " ++ name ++ ". Supported: "
      ++ ", ".intercalate (Language.all.map Language.name)
  | .malformedRecord line reason => malformedRecordMessage line reason
  | .noTraceProduced message _ => message
  | .midTraceFailure message => message
  | .executionTimeout seconds _ =>
    if seconds.isNonzero then timeoutMessage ++ " after " ++ seconds.toGeneralText ++ "s"
    else timeoutMessage
  | .judgeUnavailable message => message
  | .sourceRejected message => message
  | .other message => message
  | .inputExhausted message => message
  | .stepCeilingExceeded limit => stepLimitMessage limit

/--
Signals that end a traced program pass through the handlers that the program has for its own errors.
-/
def isSignal : Fault → Bool
  | .inputExhausted _ | .stepCeilingExceeded _ => true
  | _ => false

end Fault

end Playback
