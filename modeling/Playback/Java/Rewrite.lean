import Playback.Java.Support
import Playback.Pattern.Basic
import Playback.Source.Code
import Playback.Source.Scan

/-!
This module contains the logic to make Java programs report their execution. A call that names the
variable a line touches follows the statements of method bodies. Lines are only added, never changed.
-/

namespace Playback.Java

open Pattern

def notTraced : List String :=
  ["return", "break", "continue", "throw", "for", "while", "switch", "case", "default", "class",
   "interface", "enum", "record", "static", "public", "private", "protected", "abstract"]

def keywords : List String :=
  ["return", "new", "throw", "else", "case", "default", "this", "super", "true", "false", "null",
   "instanceof"]

def assigns : Pattern := text "=" ++ notBefore '='

def declaration : Pattern :=
  blanks ++ opt (text "final" ++ plus blank)
    ++ plus (.char fun c => Text.isWordChar c || c == '.')
    ++ opt (text "<" ++ .star (except "=") ++ text ">") ++ .star (text "[]")
    ++ plus blank ++ .capture "name" (plus wordChar) ++ blanks ++ assigns

/--
A name and a new value, possibly computed from the old one.
-/
def assignment : Pattern :=
  blanks ++ .capture "name" (plus wordChar) ++ blanks
    ++ opt (among "-+*/%&|^" <|> text "<<" <|> (text ">>" ++ opt (text ">"))) ++ assigns

/--
A name that is counted up or down, or just stands there.
-/
def count : Pattern :=
  let sign := opt (oneOf ["++", "--"])
  blanks ++ sign ++ .capture "name" (plus wordChar) ++ sign ++ blanks ++ text ";" ++ textEnd

def typeHeader : Pattern :=
  wordBoundary ++ oneOf ["class", "interface", "enum", "record"] ++ plus blank ++ plus wordChar

def anonymousClass : Pattern :=
  wordBoundary ++ text "new" ++ plus blank ++ plus (.char fun c => Text.isWordChar c || c == '.')
    ++ blanks ++ opt (text "<" ++ .star (except ">") ++ text ">") ++ blanks
    ++ text "(" ++ .star (except ";") ++ text ")" ++ blanks ++ text "\x7b" ++ textEnd

def initializer : Pattern := notAfter "=!<>" ++ assigns

def exit : Pattern :=
  wordBoundary ++ oneOf ["return", "break", "continue", "throw"] ++ wordBoundary

def touched? (code : List Char) : Option String :=
  [declaration, assignment, count].findSome? fun p => do
    let place ← p.matchAt? code
    let name := place.captured "name"
    if Source.isAmong keywords name then none else some (String.ofList name)

def startsWithAny (heads : List String) (cs : List Char) : Bool :=
  heads.any fun head => head.toList.isPrefixOf cs

def traceCall (lineNo : Nat) : Option String → String
  | none => s!"__PT_Helper.trace({lineNo});"
  | some name => s!"__PT_Helper.trace({lineNo}, \"{name}\", {name});"

def traceCall? (lineNo : Nat) (code nextCode : List Char) : Option String :=
  if Source.isAmong notTraced (Source.firstWord code) || exit.occursIn code then none
  -- A call may not stand in front of the rest of the statement.
  else if Source.isAmong ["else", "catch", "finally"] (Source.firstWord nextCode) then none
  else if code.getLast? == some '{' then
    -- The values of an array are no statements.
    if initializer.occursIn code && !(text "->").occursIn code then none
    -- The call of another constructor has to come first.
    else if startsWithAny ["super(", "this("] nextCode then none
    else some (traceCall lineNo none)
  else if code.getLast? == some ';' then some (traceCall lineNo (touched? code))
  else none

/--
The state of a rewrite: how many braces are open, the depth of the method that is open, the depths of
the bodies of the open types, the innermost first, and the code of the last line that had any.
-/
structure State where
  level : Int := 0
  methodLevel : Option Int := none
  typeLevels : List Int := []
  lastCode : List Char := []
deriving DecidableEq

def followBraces (code : List Char) (s : State) : State :=
  let opens := code.count '{'
  let closes := code.count '}'
  let level := s.level + opens - closes
  -- A brace at the start of a line belongs to the code in front of the line.
  let header := if code.head? == some '{' then s.lastCode else code
  let opensType :=
    opens != 0 && (typeHeader.occursIn header || anonymousClass.occursIn header)
  let methodLevel :=
    if opens != 0 && !opensType && header.contains '(' && s.methodLevel.isNone then some s.level
    else s.methodLevel
  let typeLevels := if opensType then (s.level + 1) :: s.typeLevels else s.typeLevels
  { level
    methodLevel :=
      if closes != 0 && methodLevel.any (level ≤ ·) then none else methodLevel
    typeLevels := typeLevels.dropWhile (level < ·)
    lastCode := code }

/--
Whether the current place is inside the body of a method, and not directly inside the body of a type.
-/
def inMethod (s : State) : Bool :=
  s.methodLevel.any (· < s.level) && s.typeLevels.head? != some s.level

/--
Read a line of code. The result holds the line to add behind it.
-/
def readLine (lineNo : Nat) (code nextCode : List Char) (s : State) : State × Option String :=
  let s := followBraces code s
  if startsWithAny ["package", "import", "@"] code || !inMethod s then (s, none)
  else (s, traceCall? lineNo code nextCode)

def rewriteLines (lineNo : Nat) (s : State) : List (String × List Char) → List String
  | [] => []
  | (line, code) :: rest =>
    -- Lines without code are passed over.
    if code.isEmpty then line :: rewriteLines (lineNo + 1) s rest
    else
      let nextCode := ((rest.find? fun next => !next.2.isEmpty).map Prod.snd).getD []
      let (s, added) := readLine lineNo code nextCode s
      line :: added.toList ++ rewriteLines (lineNo + 1) s rest

/--
The program that reports its execution, without the class it calls.
-/
def rewrite (source : String) : String :=
  let lines := Text.lines source
  let codes := Source.codeLines false (lines.map String.toList)
  Text.unlines (rewriteLines 1 {} (lines.zip codes))

end Playback.Java
