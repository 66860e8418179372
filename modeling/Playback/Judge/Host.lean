import Playback.Judge.Verdict
import Playback.Process

/-!
This module contains the logic to have a program judged by the compilers and interpreters of this
host: its text is put into a directory of its own, compiled if its language asks for it, and run.
-/

namespace Playback.Judge

structure Host where
  timeout : Number := .float (.ofInt 10)
  python : String
  directory : String
  /-- What comes of each command, counted in the order in which they are run. -/
  perform : Nat → Command → ProcessOutcome

structure Recipe where
  file : String
  compiler : Option (List String) := none
  program : List String
deriving DecidableEq

namespace Host

def recipe (host : Host) (options : List String) : Language → Recipe
  | .cpp =>
    { file := "main.cpp"
      compiler := some (["g++", "-std=c++17"] ++ options ++ ["main.cpp", "-o", "main"])
      program := [host.directory ++ "/main"] }
  | .c =>
    { file := "main.c"
      compiler := some (["gcc"] ++ options ++ ["main.c", "-o", "main", "-lm"])
      program := [host.directory ++ "/main"] }
  | .java =>
    { file := "Main.java"
      compiler := some (["javac"] ++ options ++ ["Main.java"])
      program := ["java", "-cp", host.directory, "Main"] }
  | .javascript => { file := "main.js", program := ["node", "main.js"] }
  | .python => { file := "main.py", program := [host.python, "main.py"] }

def compileTimeout : Number := .float (.ofInt 30)

def compileFailed (output : String) : Verdict :=
  { compileOutput := .str output, status := .str "Compilation Error", statusId := .int compileErrorId }

def compilerVerdict? : ProcessOutcome → Option Verdict
  | .finished stdout stderr exitCode _ =>
    if exitCode = 0 then none else some (compileFailed (if stderr == "" then stdout else stderr))
  | .timedOut _ _ => some (compileFailed "Compilation timed out")
  | .unstartable message => some (.unavailable message)

def programVerdict : ProcessOutcome → Verdict
  | .finished stdout stderr exitCode elapsed =>
    let (status, id) :=
      if exitCode = 0 then ("Accepted", acceptedId) else ("Runtime Error (NZEC)", runtimeErrorId)
    { stdout := .str stdout, stderr := .str stderr, status := .str status, statusId := .int id
      time := .float elapsed }
  | .timedOut stdout _ =>
    { Verdict.late with stdout := .str (capturedText stdout), statusId := .int timeLimitId }
  | .unstartable message => .unavailable message

/--
Have a program judged. The commands that were run come with the verdict.
-/
def submit (host : Host) (submission : Submission) : Except Breakdown Verdict × List Command :=
  match Text.shellWords (submission.compilerOptions.getD "") with
  | .error fault => (.error (.compilerOptions fault), [])
  | .ok options =>
    let recipe := host.recipe options submission.language
    let files := [(recipe.file, submission.source)]
    let program : Command :=
      { arguments := recipe.program, timeout := host.timeout, input := some submission.stdin, files }
    match recipe.compiler with
    | none => (.ok (programVerdict (host.perform 0 program)), [program])
    | some arguments =>
      let compiler : Command := { arguments, timeout := compileTimeout, files }
      match compilerVerdict? (host.perform 0 compiler) with
      | some verdict => (.ok verdict, [compiler])
      | none => (.ok (programVerdict (host.perform 1 program)), [compiler, program])

def judge (host : Host) : Judge :=
  { submit := fun submission => (host.submit submission).1 }

end Host

end Playback.Judge
