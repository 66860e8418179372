import Playback.Java.Rewrite
import Playback.Proofs.Source.Name

/-!
This module contains a fragment of Java: classes with fields and methods, and methods with declarations,
assignments, increments, calls, returns, conditions and loops. A program of it is a list of lines, and
each line has a report that should follow it.
-/

namespace Playback.Java

def primitives : List String :=
  ["boolean", "byte", "short", "int", "long", "char", "float", "double", "void"]

/--
Words that name nothing: the keywords, the literals that are words, and `record`.
-/
def reserved : List String :=
  primitives
    ++ ["abstract", "assert", "break", "case", "catch", "class", "const", "continue", "default", "do",
      "else", "enum", "extends", "final", "finally", "for", "goto", "if", "implements", "import",
      "instanceof", "interface", "native", "new", "package", "private", "protected", "public", "return",
      "static", "strictfp", "super", "switch", "synchronized", "this", "throw", "throws", "transient",
      "try", "volatile", "while", "true", "false", "null", "record"]

abbrev Name := Source.Name ['$'] reserved

abbrev Operand := Source.Operand ['$'] reserved

inductive TypeName where
  | primitive (word : String) (h : word ∈ primitives)
  | named (name : Name)

def TypeName.chars : TypeName → List Char
  | primitive word _ => word.toList
  | named name => name.chars

inductive Statement where
  | declaration (type : TypeName) (x : Name) (e : Operand)
  | assignment (x : Name) (e : Operand)
  | increment (x : Name)
  | call (m : Name) (e : Operand)
  | returning (e : Operand)

inductive Block where
  | done
  | statement (s : Statement) (rest : Block)
  | ifThen (e : Operand) (inner rest : Block)
  | whileDo (e : Operand) (inner rest : Block)

structure Parameter where
  type : TypeName
  name : Name

inductive Member where
  | field (type : TypeName) (f : Name) (e : Operand)
  | method (type : TypeName) (m : Name) (parameters : List Parameter) (body : Block)

structure Class where
  name : Name
  members : List Member

inductive Line where
  | classHeader (c : Name)
  | field (type : TypeName) (f : Name) (e : Operand)
  | methodHeader (type : TypeName) (m : Name) (parameters : List Parameter)
  | statement (s : Statement)
  | ifHeader (e : Operand)
  | whileHeader (e : Operand)
  | closing

def Block.lines : Block → List Line
  | done => []
  | statement s rest => .statement s :: rest.lines
  | ifThen e inner rest => .ifHeader e :: inner.lines ++ .closing :: rest.lines
  | whileDo e inner rest => .whileHeader e :: inner.lines ++ .closing :: rest.lines

def Member.lines : Member → List Line
  | field type f e => [.field type f e]
  | method type m parameters body => .methodHeader type m parameters :: body.lines ++ [.closing]

def Class.lines (c : Class) : List Line :=
  .classHeader c.name :: c.members.flatMap Member.lines ++ [.closing]

def programLines (classes : List Class) : List Line :=
  classes.flatMap Class.lines

def binding (x : Name) (e : Operand) : List Char :=
  x.chars ++ [' ', '=', ' '] ++ e.chars ++ [';']

def Statement.code : Statement → List Char
  | declaration type x e => type.chars ++ [' '] ++ binding x e
  | assignment x e => binding x e
  | increment x => x.chars ++ ['+', '+', ';']
  | call m e => m.chars ++ ['('] ++ e.chars ++ [')', ';']
  | returning e => ['r', 'e', 't', 'u', 'r', 'n', ' '] ++ e.chars ++ [';']

def Parameter.code (p : Parameter) : List Char :=
  p.type.chars ++ [' '] ++ p.name.chars

def Line.code : Line → List Char
  | classHeader c => ['c', 'l', 'a', 's', 's', ' '] ++ c.chars ++ [' ', '{']
  | field type f e => type.chars ++ [' '] ++ binding f e
  | methodHeader type m parameters =>
    type.chars ++ [' '] ++ m.chars ++ ['('] ++ [',', ' '].intercalate (parameters.map Parameter.code)
      ++ [')', ' ', '{']
  | statement s => s.code
  | ifHeader e => ['i', 'f', ' ', '('] ++ e.chars ++ [')', ' ', '{']
  | whileHeader e => ['w', 'h', 'i', 'l', 'e', ' ', '('] ++ e.chars ++ [')', ' ', '{']
  | closing => ['}']

def Statement.report : Statement → Nat → List String
  | declaration _ x _ => fun n => [s!"__PT_Helper.trace({n}, \"{x.name}\", {x.name});"]
  | assignment x _ => fun n => [s!"__PT_Helper.trace({n}, \"{x.name}\", {x.name});"]
  | increment x => fun n => [s!"__PT_Helper.trace({n}, \"{x.name}\", {x.name});"]
  | call _ _ => fun n => [s!"__PT_Helper.trace({n});"]
  | returning _ => fun _ => []

def Line.report : Line → Nat → List String
  | methodHeader _ _ _ => fun n => [s!"__PT_Helper.trace({n});"]
  | statement s => s.report
  | ifHeader _ => fun n => [s!"__PT_Helper.trace({n});"]
  | _ => fun _ => []

/--
What follows a line with the given number. A line that starts like an import or a package declaration is
taken for one, even if it is a statement or a header of a method.
-/
def Line.shown (line : Line) (n : Nat) : List String :=
  if startsWithAny ["package", "import"] line.code then [] else line.report n

end Playback.Java
