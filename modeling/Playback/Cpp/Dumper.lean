import Playback.Cpp.Declaration

/-!
This module contains the functions that are added to a program to write out its structures: their
declarations, and a definition per structure that writes every field and follows it.
-/

namespace Playback.Cpp

structure Struct where
  name : String
  fields : List String
deriving DecidableEq

def maxDepth : Nat := 3

/--
Members that are no fields start with one of these words.
-/
def notFields : List String := ["static", "using", "typedef", "friend", "enum", "template"]

def accessLabel : Pattern :=
  .blanks ++ .oneOf ["public", "private", "protected"] ++ .blanks ++ .text ":"

def memberFields (member : List Char) : List String :=
  let member :=
    match accessLabel.matchAt? member with
    | some place => place.rest
    | none => member
  let member := Text.trim member
  if member.isEmpty || member.contains '(' || loneColon.occursIn member then []
  else if Source.isAmong notFields (Source.firstWord member) then []
  else (declarations (member ++ [';']) true).map Declared.name

def structFields (body : List Char) : List String :=
  (Text.splitOn ';' body).flatMap memberFields

/--
The line that lets the function for a structure see its private fields.
-/
def friendLine (name : String) : String :=
  s!"    friend void __pt_dump_{name}(const {name}*, int, std::set<const void*>&);"

def dumperDeclarations (name : String) : List String :=
  [s!"template <> struct __pt_has_dumper<{name}> : std::true_type \x7b\x7d;",
   s!"void __pt_dump_{name}(const {name}* p, int depth, std::set<const void*>& visited);",
   s!"inline void __pt_try_dump(const {name}& v) \x7b std::set<const void*> visited; __pt_dump_{name}(std::addressof(v), 0, visited); \x7d",
   s!"inline void __pt_try_dump({name}* const& v) \x7b std::set<const void*> visited; __pt_dump_{name}(v, 0, visited); \x7d",
   s!"inline void __pt_recurse_field(const {name}& v, int depth, std::set<const void*>& visited) \x7b __pt_dump_{name}(std::addressof(v), depth, visited); \x7d",
   s!"inline void __pt_recurse_field({name}* const& v, int depth, std::set<const void*>& visited) \x7b __pt_dump_{name}(v, depth, visited); \x7d"]

def fieldLine (separator field : String) : String :=
  "    os << \"" ++ separator ++ "\\\"" ++ field ++ "\\\":\" << __pt_to_json(p->" ++ field ++ ");"

/--
The lines that write the fields. All but the first one have a comma in front.
-/
def fieldLines : List String → List String
  | [] => []
  | field :: fields => fieldLine "" field :: fields.map (fieldLine ",")

def dumperDefinition (s : Struct) : List String :=
  ["",
   s!"void __pt_dump_{s.name}(const {s.name}* p, int depth, std::set<const void*>& visited) \x7b",
   s!"    if (!p || depth > {maxDepth} || visited.count(p)) return;",
   "    visited.insert(p);",
   "    std::ostringstream os;",
   "    os << \"HEAPPUT:\" << __pt_ref(p) << \":\x7b\\\"type\\\":\\\"" ++ s.name
     ++ "\\\",\\\"value\\\":\x7b\";"]
  ++ fieldLines s.fields
  ++ ["    os << \"\x7d\x7d\";", "    std::cout << os.str() << std::endl;"]
  ++ s.fields.map (fun field => s!"    __pt_recurse_field(p->{field}, depth + 1, visited);")
  ++ ["\x7d"]

end Playback.Cpp
