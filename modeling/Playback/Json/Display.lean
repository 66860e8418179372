import Playback.Json.Basic
import Playback.Text.Quoted

/-!
This module contains the form in which values are shown inside other texts: texts as they are, and
everything else in a notation of its own.
-/

namespace Playback.Json

mutual

/--
The form of a value inside another one, where texts stand in quotes.
-/
def nested : Json → String
  | .null => "None"
  | .bool true => "True"
  | .bool false => "False"
  | .int n => toString n
  | .float x => x.toText
  | .str s => Text.quoted s
  | .arr items => "[" ++ ", ".intercalate (nestedItems items) ++ "]"
  | .obj fields => "\x7b" ++ ", ".intercalate (nestedFields fields) ++ "\x7d"

@[inherit_doc nested]
def nestedItems : List Json → List String
  | [] => []
  | item :: items => nested item :: nestedItems items

@[inherit_doc nested]
def nestedFields : List (String × Json) → List String
  | [] => []
  | (name, item) :: fields => (Text.quoted name ++ ": " ++ nested item) :: nestedFields fields

end

def typeName : Json → String
  | .null => "NoneType"
  | .bool _ => "bool"
  | .int _ => "int"
  | .float _ => "float"
  | .str _ => "str"
  | .arr _ => "list"
  | .obj _ => "dict"

def display : Json → String
  | .str s => s
  | json => nested json

end Playback.Json
