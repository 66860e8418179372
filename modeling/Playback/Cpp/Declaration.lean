import Playback.Pattern.Basic
import Playback.Source.Scan

/-!
This module contains the logic to recognise the declarations of C and C++ in a line of code: which
names a statement, a parameter list or a loop header declares. It looks at the text only, so unusual
declarations can be missed.
-/

namespace Playback.Cpp

open Pattern

/--
What a declared name stands for. The extent of an array is known when the program is compiled.
-/
inductive Shape where
  | variable
  | array
deriving DecidableEq

structure Declared where
  name : String
  shape : Shape
deriving DecidableEq

def notTypes : List String :=
  ["return", "delete", "throw", "else", "new", "goto", "case", "using", "namespace", "typedef",
   "if", "for", "while", "switch", "do", "sizeof", "break", "continue", "default", "public",
   "private", "protected", "template", "friend", "operator", "co_return", "co_yield", "enum",
   "union", "class", "static_assert"]

def specifierWords : List String :=
  ["const", "static", "unsigned", "signed", "long", "short", "struct", "volatile", "mutable",
   "register", "constexpr", "inline", "extern"]

def specifiers : Pattern := .star (oneOf specifierWords ++ plus blank)

/--
A name with its qualifiers, template arguments, and a `const` behind it.
-/
def typeName : Pattern :=
  .star (identifier ++ text "::") ++ identifier
    ++ opt (blanks ++ text "<" ++ .star (except ";=()\x7b\x7d") ++ text ">")
    ++ opt (plus blank ++ text "const")

/--
A type and, apart from it, the first of the declared names.
-/
def declaration : Pattern :=
  .capture "type" (specifiers ++ typeName)
    ++ .capture "rest"
      ((blank <|> among "*&" <|> after '>') ++ blanks ++ .star (among "*&") ++ blanks
        ++ .char Text.isIdentStart ++ .star lineChar)
    ++ textEnd

def dimension : Pattern := text "[" ++ .star (except "]") ++ text "]"

/--
One declared name with its sizes and what follows them.
-/
def declarator : Pattern :=
  blanks ++ .star (among "*&") ++ blanks ++ opt (text "const" ++ plus blank)
    ++ .capture "name" identifier ++ blanks ++ .capture "dims" (.star dimension) ++ blanks
    ++ .capture "tail" (.star lineChar) ++ textEnd

/--
A size that is blank, a number, or a name in upper case.
-/
def fixedSize : Pattern :=
  let upper := fun (c : Char) => c == '_' || c.isUpper
  blanks
    ++ opt (plus digit <|> (.char upper ++ .star (.char fun c => upper c || c.isDigit)))
    ++ blanks ++ textEnd

def sizes (dims : List Char) : List (List Char) :=
  ((Text.splitOn ']' dims).dropLast).map (·.drop 1)

inductive Part where
  | declares (declared : Declared)
  | nothing
  | notDeclaration
deriving DecidableEq

def readPart (isChar allowCall isFirst : Bool) (part : List Char) : Part :=
  match declarator.matchAt? part with
  | none => .nothing
  | some place =>
    let name := place.captured "name"
    let tail := Text.trim (place.captured "tail")
    if Source.isAmong notTypes name then .nothing
    else if tail.head?.any fun c => !(['=', '(', '{'].contains c) then
      -- A first part with an unknown tail shows that the statement is no declaration.
      if isFirst then .notDeclaration else .nothing
    else if tail.head? == some '(' && !allowCall then .notDeclaration
    else
      let sizes := sizes (place.captured "dims")
      if sizes.isEmpty || (isChar && sizes.length == 1) then
        .declares ⟨String.ofList name, .variable⟩
      else if sizes.all fixedSize.startsText then .declares ⟨String.ofList name, .array⟩
      -- The extent of the array is only known at run time.
      else .nothing

/--
The names declared by the parts of a declaration. There are none if one of the parts shows that it
is no declaration.
-/
def collect : List Part → Option (List Declared)
  | [] => some []
  | .declares d :: parts => (collect parts).map (d :: ·)
  | .nothing :: parts => collect parts
  | .notDeclaration :: _ => none

def declarations (code : List Char) (allowCall : Bool) : List Declared :=
  let statement := Text.trim ((Source.splitTopLevel ';' (Text.trim code)).headD [])
  match declaration.matchAt? statement with
  | none => []
  | some place =>
    let type := place.captured "type"
    let words := Text.words type
    if Source.isAmong notTypes (Source.firstWord type)
        || words.getLast?.any (Source.isAmong notTypes) then []
    else
      let isChar := words.contains "char".toList
      match Source.splitTopLevel ',' (place.captured "rest") with
      | [] => []
      | first :: rest =>
        (collect (readPart isChar allowCall true first
          :: rest.map (readPart isChar allowCall false))).getD []

def parameterName : Pattern :=
  .capture "name" identifier ++ blanks ++ .star dimension ++ blanks ++ textEnd

def parameter? (part : List Char) : Option String :=
  let part := Text.trim (part.takeWhile (· != '='))
  if part == [] || part == ['.', '.', '.'] then none
  -- A lone word is a type, unless it is a pointer or a reference.
  else if (Text.words part).length < 2 && !part.any (fun c => c == '*' || c == '&') then none
  else
    match parameterName.search? part with
    | none => none
    | some (skipped, place) =>
      let name := place.captured "name"
      if Source.isAmong notTypes name || skipped == 0 then none else some (String.ofList name)

def parameters (header : List Char) : List String :=
  match Source.parenContents? header with
  | none => []
  | some inside =>
    if inside == [] || Text.trim inside == "void".toList then []
    else (Source.splitTopLevel ',' inside).filterMap parameter?

def loneColon : Pattern := notAfter ":" ++ text ":" ++ notBefore ':'

/--
The names that a loop header declares, either in front of its first semicolon or in front of the
colon of a range.
-/
def loopVariables (header : List Char) : List String :=
  match Source.parenContents? header with
  | none => []
  | some inside =>
    let init :=
      if inside.contains ';' then inside.takeWhile (· != ';')
      else
        match loneColon.search? inside with
        | some (skipped, _) => inside.take skipped
        | none => inside
    (declarations init true).map Declared.name

end Playback.Cpp
