import Playback.Cpp.Rewrite
import Playback.Proofs.Source.Name

/-!
This module contains a fragment of C++: variables and functions, and functions with declarations,
assignments, conditions and loops. A program of it is a list of lines, and each line has a report that
should follow it, which names the variables that are in scope there.
-/

namespace Playback.Cpp

def modifiers : List String := ["unsigned", "signed", "long", "short"]

def builtins : List String :=
  modifiers
    ++ ["bool", "char", "char8_t", "char16_t", "char32_t", "wchar_t", "int", "float", "double", "void"]

def otherKeywords : List String :=
  ["alignas", "alignof", "and", "and_eq", "asm", "auto", "bitand", "bitor", "break", "case", "catch",
   "class", "compl", "concept", "const", "const_cast", "consteval", "constexpr", "constinit",
   "continue", "co_await", "co_return", "co_yield", "decltype", "default", "delete", "do",
   "dynamic_cast", "else", "enum", "explicit", "export", "extern", "false", "for", "friend", "goto",
   "if", "inline", "mutable", "namespace", "new", "noexcept", "not", "not_eq", "nullptr", "operator",
   "or", "or_eq", "private", "protected", "public", "register", "reinterpret_cast", "requires",
   "return", "sizeof", "static", "static_assert", "static_cast", "struct", "switch", "template",
   "this", "thread_local", "throw", "true", "try", "typedef", "typeid", "typename", "union", "using",
   "virtual", "volatile", "while", "xor", "xor_eq"]

def keywords : List String := builtins ++ otherKeywords

abbrev Name := Source.Name [] keywords

theorem Name.freeWord (x : Name) : Source.FreeWord keywords x.chars :=
  Source.Name.freeWord (by simp)

abbrev Operand := Source.Operand [] keywords

inductive TypeName where
  | builtin (front : List String) (word : String) (hfront : ∀ m ∈ front, m ∈ modifiers)
      (hword : word ∈ builtins)
  | named (name : Name)

def TypeName.chars : TypeName → List Char
  | builtin front word _ _ => front.flatMap (fun m => m.toList ++ [' ']) ++ word.toList
  | named name => name.chars

structure Parameter where
  type : TypeName
  name : Name

/--
The variable of a loop with its first value, what has to hold for the loop to go on, and the next value.
-/
structure Counter where
  type : TypeName
  name : Name
  start : Operand
  condition : Operand
  update : Operand

inductive Block where
  | done
  | declare (type : TypeName) (x : Name) (e : Operand) (rest : Block)
  | assign (x : Name) (e : Operand) (rest : Block)
  | ifThen (e : Operand) (inner rest : Block)
  | whileDo (e : Operand) (inner rest : Block)
  | forDo (counter : Counter) (inner rest : Block)

inductive Item where
  | global (type : TypeName) (g : Name) (e : Operand)
  | function (type : TypeName) (f : Name) (parameters : List Parameter) (body : Block)

inductive Line where
  | functionHeader (type : TypeName) (f : Name) (parameters : List Parameter)
  | declaration (type : TypeName) (x : Name) (e : Operand)
  | assignment (x : Name) (e : Operand)
  | ifHeader (e : Operand)
  | whileHeader (e : Operand)
  | forHeader (counter : Counter)
  | closing

def Parameter.code (p : Parameter) : List Char :=
  p.type.chars ++ ' ' :: p.name.chars

def parameterList (parameters : List Parameter) : List Char :=
  [',', ' '].intercalate (parameters.map Parameter.code)

def binding (x : Name) (e : Operand) : List Char :=
  x.chars ++ ' ' :: '=' :: ' ' :: e.chars

/--
The code of a line in front of a brace that it opens.
-/
def Line.header? : Line → Option (List Char)
  | functionHeader type f parameters =>
    some (type.chars ++ ' ' :: (f.chars ++ '(' :: (parameterList parameters ++ [')'])))
  | ifHeader e => some (['i', 'f', ' ', '('] ++ e.chars ++ [')'])
  | whileHeader e => some (['w', 'h', 'i', 'l', 'e', ' ', '('] ++ e.chars ++ [')'])
  | forHeader c =>
    some (['f', 'o', 'r', ' ', '('] ++ (c.type.chars ++ ' ' :: binding c.name c.start) ++ [';', ' ']
      ++ c.condition.chars ++ [';', ' '] ++ binding c.name c.update ++ [')'])
  | _ => none

def Line.code : Line → List Char
  | declaration type x e => type.chars ++ ' ' :: (binding x e ++ [';'])
  | assignment x e => binding x e ++ [';']
  | closing => ['\x7d']
  | line => (line.header?.getD []) ++ [' ', '\x7b']

section Reports

/--
The names in scope inside nested blocks. The innermost block comes first, and within a block the name
that has been declared last. A name hides the names declared before it.
-/
def inScope (blocks : List (List String)) : List String :=
  blocks.flatten.eraseDups

def call (lineNo : Nat) (names : List String) : String :=
  "__pt_trace_impl(" ++ toString lineNo ++ String.join (names.map fun x => ", \"" ++ x ++ "\", " ++ x)
    ++ ");"

/--
What should follow a line that is reported: a call with the variables in scope, at most as many as the
limit says.
-/
def reports (limit : Nat) (blocks : List (List String)) (lineNo : Nat) : List String :=
  [call lineNo ((inScope blocks).take limit)]

def silent (_ : Nat) : List String := []

def Block.startsWithWhile : Block → Bool
  | whileDo _ _ _ => true
  | _ => false

variable (limit : Nat)

/--
What should follow the end of a block, given the blocks that it stands in and the statements behind it.
A loop behind it could be the end of another one, and so nothing is reported in front of it.
-/
def afterBlock (blocks : List (List String)) (rest : Block) : Nat → List String :=
  if rest.startsWithWhile then silent else reports limit blocks

/--
The lines of a block with what should follow each of them. The names of the block so far are given, and
the names of the blocks around it.
-/
def Block.script (names : List String) (outer : List (List String)) :
    Block → List (Line × (Nat → List String))
  | done => []
  | declare type x e rest =>
    (.declaration type x e, reports limit ((x.name :: names) :: outer))
      :: rest.script (x.name :: names) outer
  | assign x e rest => (.assignment x e, reports limit (names :: outer)) :: rest.script names outer
  | ifThen e inner rest =>
    (.ifHeader e, reports limit ([] :: names :: outer)) :: inner.script [] (names :: outer)
      ++ (.closing, afterBlock limit (names :: outer) rest) :: rest.script names outer
  | whileDo e inner rest =>
    (.whileHeader e, silent) :: inner.script [] (names :: outer)
      ++ (.closing, afterBlock limit (names :: outer) rest) :: rest.script names outer
  | forDo counter inner rest =>
    (.forHeader counter, silent) :: inner.script [counter.name.name] (names :: outer)
      ++ (.closing, afterBlock limit (names :: outer) rest) :: rest.script names outer

/--
The names that parameters declare, the last one first.
-/
def parameterNames (parameters : List Parameter) : List String :=
  (parameters.map (·.name.name)).reverse

/--
The lines of a program with what should follow each of them. The variables outside of functions that
have been declared so far are given.
-/
def programScript (globals : List String) : List Item → List (Line × (Nat → List String))
  | [] => []
  | .global type g e :: items =>
    (.declaration type g e, silent) :: programScript (g.name :: globals) items
  | .function type f parameters body :: items =>
    (.functionHeader type f parameters, reports limit [parameterNames parameters, globals])
      :: body.script limit (parameterNames parameters) [globals]
      ++ (.closing, silent) :: programScript globals items

end Reports

end Playback.Cpp
