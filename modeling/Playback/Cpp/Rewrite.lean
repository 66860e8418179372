import Playback.Cpp.Dumper
import Playback.Cpp.Scope
import Playback.Source.Code

/-!
This module contains the logic to make C and C++ programs report their execution. A call that names
the visible variables follows each ordinary statement of a function body, and structures get
functions that write them out. Lines are only added, never changed.
-/

namespace Playback.Cpp

open Pattern

def notTracedAfter : List String :=
  ["return", "class", "struct", "for", "while", "switch", "case", "default", "typedef", "throw",
   "break", "continue", "goto", "template", "enum", "union", "using", "namespace"]

def blockWords : List String := ["else", "do", "try"]

def structHeader : Pattern :=
  .capture "typedef" (opt (text "typedef" ++ plus blank)) ++ oneOf ["struct", "class"]
    ++ opt (plus blank ++ .capture "name" identifier) ++ blanks
    ++ opt (text "final" ++ blanks) ++ opt (text ":" ++ .star (except "\x7b")) ++ textEnd

/--
The end of a header that introduces the body of a lambda expression.
-/
def lambdaEnd : Pattern :=
  dimension ++ blanks ++ opt (text "(" ++ .star (except ")") ++ text ")") ++ blanks
    ++ opt (text "mutable" ++ blanks)
    ++ opt (text "->" ++ blanks
      ++ plus (.char fun c =>
        Text.isWordChar c || Text.isBlank c || [':', '<', '>', ',', '*', '&'].contains c))
    ++ textEnd

/--
The end of a header that introduces the body of a function.
-/
def functionEnd : Pattern :=
  text ")" ++ blanks ++ .star (oneOf ["const", "noexcept", "override", "final"] ++ blanks)
    ++ textEnd

def loopHeader : Pattern := text "for" ++ blanks ++ text "("

/--
The state of a rewrite: the open scopes, the innermost first, the names and structures of the file,
and the code of the last line that had any.
-/
structure State where
  scopes : List Scope := []
  globals : Scope := { kind := .block }
  structs : List Struct := []
  lastCode : List Char := []
deriving DecidableEq

def topLevelKind (lineNo : Nat) (lastCode header : List Char) : ScopeKind :=
  let struct? : Option StructHead := do
    let place ← structHeader.matchAt? header
    if "template".toList.isPrefixOf lastCode then none
    else
      let name := place.captured? "name"
      if name.isSome || !(place.captured "typedef").isEmpty then
        some { name := name.map String.ofList, openedAt := lineNo }
      else none
  match struct? with
  | some head => .struct head
  | none =>
    if header.contains '(' && functionEnd.occursIn header && !lambdaEnd.occursIn header then .block
    else .expression

def nestedKind (header : List Char) : ScopeKind :=
  if lambdaEnd.occursIn header then .expression
  else
    let last := header.getLast?
    if last == some ')' || functionEnd.occursIn header then .block
    else if (Text.words header).getLast?.any (Source.isAmong blockWords) then .block
    else if last.any fun c => [';', ':', '{', '}'].contains c then .block
    else .expression

/--
The kind of the scope that a brace opens, given what it stands in and the text in front of it.
-/
def openedKind (lineNo : Nat) (scopes : List Scope) (lastCode header : List Char) : ScopeKind :=
  match scopes with
  | [] => topLevelKind lineNo lastCode header
  | parent :: _ => if parent.kind.isBlock then nestedKind header else .expression

/--
The names that a block declares by its header: the variables of a loop, or the parameters if the
line starts outside of everything.
-/
def headerNames (atTop : Bool) (header : List Char) : List String :=
  if loopHeader.startsText header then loopVariables header
  else if atTop then parameters header
  else []

def openScope (atTop : Bool) (kind : ScopeKind) (header : List Char) : Scope :=
  let scope : Scope := { kind }
  if kind.isBlock then
    scope.declareAll ((headerNames atTop header).map fun name => ⟨name, .variable⟩)
  else scope

/--
Add text to the body of the structure whose members are being read, if any.
-/
def addToBody (text : List Char) : List Scope → List Scope
  | { kind := .struct head, declared } :: rest =>
    { kind := .struct { head with body := head.body ++ text }, declared } :: rest
  | scopes => scopes

/--
What has happened to the scopes within a line: the scopes that are open now, which kinds of scopes
were opened, which structures were closed and the code behind each of them, and the least depth.
-/
structure Braces where
  scopes : List Scope
  openedBlock : Bool := false
  openedStruct : Bool := false
  closed : List (StructHead × List Char) := []
  minDepth : Nat
deriving DecidableEq

/--
Follow the braces of a line. `before` is the code in front of the current character, reversed.
-/
def followBraces (lineNo : Nat) (atTop : Bool) (lastCode : List Char) (before : List Char) :
    Braces → List Char → Braces
  | b, [] => { b with scopes := addToBody [' '] b.scopes }
  | b, c :: cs =>
    let next :=
      if c == '{' then
        let shown := Text.trim before.reverse
        -- A brace at the start of a line belongs to the code in front of the line.
        let header := if shown.isEmpty then lastCode else shown
        let kind := openedKind lineNo b.scopes lastCode header
        { b with
          scopes := openScope atTop kind header :: b.scopes
          openedBlock := b.openedBlock || kind.isBlock
          openedStruct := b.openedStruct || kind.isStruct }
      else if c == '}' then
        match b.scopes with
        | [] => b
        | scope :: rest =>
          { b with
            scopes := addToBody [';'] rest
            closed :=
              match scope.kind with
              | .struct head => b.closed ++ [(head, cs)]
              | _ => b.closed
            minDepth := min b.minDepth rest.length }
      else { b with scopes := addToBody [c] b.scopes }
    followBraces lineNo atTop lastCode (c :: before) next cs

/--
The structure that a closing brace completes.
-/
def closeStruct? (head : StructHead) (trailer : List Char) : Option Struct := do
  -- A structure without a name takes the one that follows the brace.
  let name ← head.name.or
    (((blanks ++ .capture "name" identifier).matchAt? trailer).map fun place =>
      String.ofList (place.captured "name"))
  return { name, fields := structFields head.body }

/--
The line that lets the function of the structure being read see its fields, if the structure has just
been opened.
-/
def friendLines (lineNo : Nat) (scopes : List Scope) : List String :=
  match scopes.getLast? with
  | some { kind := .struct head, .. } =>
    if head.openedAt == lineNo then (head.name.map friendLine).toList else []
  | _ => []

/--
Declare names in the scope that stands at a depth, counted from the outermost one.
-/
def declareAt (depth : Nat) (ds : List Declared) (scopes : List Scope) : List Scope :=
  scopes.modify (scopes.length - depth) (·.declareAll ds)

/--
Take note of the names that a statement declares, unless its scope was closed within the line.
-/
def noteDeclarations (code : List Char) (before : List Scope) (b : Braces) (s : State) : State :=
  if b.minDepth < before.length then s
  else
    match before with
    | scope :: _ =>
      if scope.kind.isBlock then
        { s with scopes := declareAt before.length (declarations code true) s.scopes }
      else s
    | [] =>
      if s.scopes.isEmpty && !b.openedBlock && !b.openedStruct then
        { s with globals := s.globals.declareAll (declarations code false) }
      else s

def isTraced (code nextCode lastCode : List Char) (before scopes : List Scope)
    (openedBlock : Bool) : Bool :=
  if !(scopes.head?.any (·.kind.isBlock)) then false
  -- The header of a function is reported.
  else if before.isEmpty && openedBlock then true
  else if !(before.head?.any (·.kind.isBlock)) then false
  -- A call can only stand behind a semicolon or a brace.
  else if !(code.getLast?.any fun c => [';', '{', '}'].contains c) then false
  else if Source.isAmong notTracedAfter (Source.firstWord code) then false
  else
    -- A call may stand neither in front of `else` or `catch` nor in front of the end of a `do` loop.
    let nextWord := Source.firstWord nextCode
    if Source.isAmong ["else", "catch"] nextWord then false
    else !(Source.isAmong ["while"] nextWord
      && (code.head? == some '}' || Source.isAmong ["do"] (Source.firstWord lastCode)))

def traceCall (lineNo : Nat) (names : List Declared) : String :=
  -- Arrays are written out in front of the call.
  let arrays := (names.filter (·.shape == .array)).map fun d =>
    s!"__pt_dump_array(\"{d.name}\", {d.name});"
  let arguments := (names.filter (·.shape == .variable)).map fun d => s!", \"{d.name}\", {d.name}"
  " ".intercalate (arrays ++ [s!"__pt_trace_impl({lineNo}{String.join arguments});"])

/--
Read a line of code. The result holds the lines to add behind it.
-/
def readLine (maxTraced : Int) (lineNo : Nat) (code nextCode : List Char) (s : State) :
    State × List String :=
  let before := s.scopes
  let b := followBraces lineNo before.isEmpty s.lastCode []
    { scopes := before, minDepth := before.length } code
  let structs := b.closed.filterMap fun (head, trailer) => closeStruct? head trailer
  let s := noteDeclarations code before b
    { s with scopes := b.scopes, structs := s.structs ++ structs }
  let call :=
    if isTraced code nextCode s.lastCode before s.scopes b.openedBlock then
      [traceCall lineNo (visible maxTraced s.scopes s.globals)]
    else []
  ({ s with lastCode := code },
    friendLines lineNo s.scopes ++ structs.flatMap (dumperDeclarations ·.name) ++ call)

def rewriteLines (maxTraced : Int) (lineNo : Nat) (s : State) :
    List (String × List Char) → List String
  | [] => s.structs.flatMap dumperDefinition
  | (line, code) :: rest =>
    -- Lines without code and directives are passed over.
    if code.isEmpty || code.head? == some '#' then
      line :: rewriteLines maxTraced (lineNo + 1) s rest
    else
      let nextCode := ((rest.find? fun next => !next.2.isEmpty).map Prod.snd).getD []
      let (s, added) := readLine maxTraced lineNo code nextCode s
      line :: added ++ rewriteLines maxTraced (lineNo + 1) s rest

def defaultMaxTraced : Int := 20

/--
The program that reports its execution. The limit bounds the variables that one call names.
-/
def rewrite (source : String) (maxTraced : Int) : String :=
  let lines := Text.lines source
  let codes := Source.codeLines false (lines.map String.toList)
  Text.unlines (rewriteLines maxTraced 1 {} (lines.zip codes))

end Playback.Cpp
