import Playback.Fault
import Playback.Pattern.Basic

/-!
This module contains the screening of program texts before they run. It refuses empty and oversized
texts and, per language, texts in which a dangerous operation occurs. It looks at the text only.
-/

namespace Playback.Screening

open Pattern

structure Danger where
  label : String
  pattern : Pattern

def call (word : Pattern) : Pattern := wordBoundary ++ word ++ blanks ++ text "("

def alone (word : String) : Pattern := wordBoundary ++ text word ++ wordBoundary

def hostModules : Pattern := oneOf ["os", "subprocess", "sys"]

def pythonDangers : List Danger :=
  [⟨"import of os/subprocess/sys",
     lineStart ++ blanks ++ text "import" ++ plus blank
       ++ .star (.char fun c => Text.isWordChar c || [' ', '\t', ',', '.'].contains c)
       ++ wordBoundary ++ hostModules ++ wordBoundary⟩,
   ⟨"import from os/subprocess/sys",
     wordBoundary ++ text "from" ++ plus blank ++ hostModules ++ .star (text "." ++ plus wordChar)
       ++ plus blank ++ text "import" ++ wordBoundary⟩,
   ⟨"importlib", alone "importlib"⟩,
   ⟨"__import__", alone "__import__"⟩,
   ⟨"eval()", call (text "eval")⟩,
   ⟨"exec()", call (text "exec")⟩,
   ⟨"open()", call (text "open")⟩]

def javascriptDangers : List Danger :=
  [⟨"require of a host module",
     call (text "require") ++ blanks ++ among "'\""
       ++ oneOf ["fs", "child_process", "os", "vm", "net", "http", "https"]
       ++ among "'\"" ++ blanks ++ text ")"⟩,
   ⟨"import statement",
     lineStart ++ blanks ++ text "import" ++ plus blank ++ .star lineChar ++ plus blank
       ++ text "from" ++ wordBoundary⟩,
   ⟨"eval()", call (text "eval")⟩,
   ⟨"Function()", call (text "Function")⟩,
   ⟨"process.env/kill/dlopen",
     wordBoundary ++ text "process." ++ oneOf ["env", "kill", "dlopen"] ++ wordBoundary⟩]

def nativeDangers : List Danger :=
  [⟨"system()", call (text "system")⟩,
   ⟨"exec*()", call (text "exec" ++ among "lv" ++ opt (text "p") ++ opt (text "e"))⟩,
   ⟨"fork()", call (text "fork")⟩,
   ⟨"popen()", call (text "popen")⟩]

def javaDangers : List Danger :=
  [⟨"Runtime.getRuntime", alone "Runtime.getRuntime"⟩,
   ⟨"ProcessBuilder", alone "ProcessBuilder"⟩,
   ⟨"System.exit", call (text "System.exit")⟩]

/--
The dangerous operations of a language, in the order in which they are looked for.
-/
def dangers : Language → List Danger
  | .python => pythonDangers
  | .javascript => javascriptDangers
  | .cpp => nativeDangers
  | .c => nativeDangers
  | .java => javaDangers

inductive Rejection where
  | empty
  | tooLong (limit : Int)
  | dangerous (label : String)
deriving DecidableEq

def Rejection.message : Rejection → String
  | .empty => "Code cannot be empty"
  | .tooLong limit => s!"Code is too long (max {limit} characters)"
  | .dangerous label => "Code contains potentially dangerous operation: " ++ label

def Rejection.fault (r : Rejection) : Fault :=
  .sourceRejected r.message

def defaultMaxLength : Int := 50000

/--
The reason to refuse a program text, if there is one. Nothing is known about the operations of a
language that is not given.
-/
def rejection? (source : String) (language : Option Language) (maxLength : Int) (screen : Bool) :
    Option Rejection :=
  let cs := source.toList
  if cs.all Text.isBlank then some .empty
  else if maxLength < cs.length then some (.tooLong maxLength)
  else if screen then
    ((language.elim [] dangers).find? (·.pattern.occursIn cs)).map (.dangerous ·.label)
  else none

end Playback.Screening
