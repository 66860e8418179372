import Playback.Json.Basic
import Playback.Json.Coerce
import Playback.Number.Basic

/-!
This module contains the look-up of named values in objects. What is absent, or of another kind than
the one that is looked for, has its usual value.
-/

namespace Playback

namespace Json

/--
The value of a field, or null if there is none.
-/
def get (json : Json) (name : String) : Json :=
  (json.field? name).getD .null

def items : Json → List Json
  | .arr items => items
  | _ => []

def fields : Json → Fields
  | .obj fields => fields
  | _ => []

/--
A whole number. True and false are one and zero.
-/
def whole? : Json → Option Int
  | .int n => some n
  | .bool b => some (if b then 1 else 0)
  | _ => none

def number? : Json → Option Number
  | .float x => some (.float x)
  | json => json.whole?.map .whole

def text (json : Json) (name : String) (usual : String := "") : String :=
  (json.get name).asText?.getD usual

def list (json : Json) (name : String) : List Json :=
  (json.get name).items

def flag (json : Json) (name : String) (usual : Bool := false) : Bool :=
  match json.get name with
  | .bool b => b
  | _ => usual

def integer (json : Json) (name : String) (usual : Int) : Int :=
  (json.get name).whole?.getD usual

def number (json : Json) (name : String) (usual : Number) : Number :=
  (json.get name).number?.getD usual

def value (json : Json) (name : String) (usual : Json) : Json :=
  (json.field? name).getD usual

end Json

def Number.toJson : Number → Json
  | .whole n => .int n
  | .float x => .float x

def Fields.ofTexts (pairs : List (String × String)) : Fields :=
  pairs.map fun (name, text) => (name, .str text)

end Playback
