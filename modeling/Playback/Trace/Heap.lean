import Playback.Json.Coerce
import Playback.Trace.Record

/-!
This module contains the objects of a run: their latest form under stable ids, in the order in which
the ids were first seen.
-/

namespace Playback

/--
The latest known form of an object.
-/
structure HeapEntry where
  id : String
  type : String := Record.defaultType
  value : Json := .null
deriving DecidableEq, Inhabited

namespace HeapEntry

/--
Read the type of an object. What is absent or empty stands for the default, and everything else has
to be a text.
-/
def typeName? (json : Json) : Option String :=
  if json.isTruthy then json.asText? else some Record.defaultType

def ofJson? (json : Json) : Option HeapEntry := do
  let fields ← json.asObject?
  let id ← (fields.get? "id").bind Json.asText?
  let type ← fields.read? ["type"] Record.defaultType Json.asText?
  return { id, type, value := (fields.get? "value").getD .null }

/--
The exported form. An absent value is left out.
-/
def toJson (entry : HeapEntry) : Json :=
  .obj <| [("id", .str entry.id), ("type", .str entry.type)]
    ++ if entry.value = .null then [] else [("value", entry.value)]

end HeapEntry

/--
The objects of a run. Ids are never removed.
-/
structure Heap where
  entries : List HeapEntry := []
deriving DecidableEq, Inhabited

namespace Heap

/--
Replace an entry of the same id in place, or add the entry at the end.
-/
def putEntry (entry : HeapEntry) : List HeapEntry → List HeapEntry
  | [] => [entry]
  | e :: rest => if e.id == entry.id then entry :: rest else e :: putEntry entry rest

def put (heap : Heap) (entry : HeapEntry) : Heap :=
  ⟨putEntry entry heap.entries⟩

def merge (heap : Heap) (entries : List HeapEntry) : Heap :=
  entries.foldl put heap

def get? (heap : Heap) (id : String) : Option HeapEntry :=
  heap.entries.find? (·.id == id)

def contains (heap : Heap) (id : String) : Bool :=
  heap.entries.any (·.id == id)

def ids (heap : Heap) : List String :=
  heap.entries.map HeapEntry.id

def size (heap : Heap) : Nat :=
  heap.entries.length

end Heap

end Playback
