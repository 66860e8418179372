import Playback.Number.Basic
import Playback.Raised

/-!
This module contains the values of a running Python program and the objects they refer to. Objects have
an identity of their own, may be shared, may refer to each other in circles, and change over time.
-/

namespace Playback

abbrev Handle := String

inductive Value where
  | none
  | bool (b : Bool)
  | int (n : Int)
  | float (x : Binary64)
  | text (s : String)
  /-- A container or an object with fields. -/
  | ref (object : Handle)
  /-- A value without fields of its own, known by how it is shown. -/
  | other (shown : String)
  /-- A function, a class, a module or a stream. -/
  | plumbing (shown : String)
  /-- A value that raises an error when it is asked for its text. -/
  | unshown (raised : Raised) (isUserObject : Bool)
deriving DecidableEq, Inhabited

namespace Value

/--
Whether a value has an identity that a trace follows.
-/
def isReference : Value → Bool
  | ref _ => true
  | _ => false

/--
Whether a value belongs to the program, and not to the machinery that runs it.
-/
def isUserObject : Value → Bool
  | plumbing _ => false
  | unshown _ isUserObject => isUserObject
  | _ => true

end Value

/--
The text that a program gives for an object, or what is raised when it is asked for one.
-/
abbrev Shown := Except Raised String

inductive Key where
  | none
  | bool (b : Bool)
  | int (n : Int)
  | float (x : Binary64)
  | text (s : String)
  | tuple (parts : List Key)
  /-- Any other object, known by its text and by its text inside of other keys. -/
  | other (object : Handle) (shown nested : Shown)
deriving Inhabited

namespace Key

mutual

/--
The form of a key inside another one, where texts stand in quotes. A whole number of too many digits has
no text.
-/
def nested : Key → Shown
  | .none => .ok "None"
  | .bool true => .ok "True"
  | .bool false => .ok "False"
  | .int n => ((Json.int n).write? Option.none).mapError Raised.ofWriteFault
  | .float x => .ok x.toText
  | .text s => .ok (Text.quoted s)
  | .tuple [part] => (nested part).map fun text => "(" ++ text ++ ",)"
  | .tuple parts => (nestedAll parts).map fun texts => "(" ++ ", ".intercalate texts ++ ")"
  | .other _ _ nested => nested

@[inherit_doc nested]
def nestedAll : List Key → Except Raised (List String)
  | [] => .ok []
  | part :: parts => do
    let text ← nested part
    let texts ← nestedAll parts
    return text :: texts

end

def display : Key → Shown
  | .text s => .ok s
  | .other _ shown _ => shown
  | key => nested key

/--
The number a key stands for, if it is one. Truth values count as zero and one.
-/
def number? : Key → Option Number
  | .bool b => some (.whole (if b then 1 else 0))
  | .int n => some (.whole n)
  | .float x => some (.float x)
  | _ => Option.none

/--
Whether two numbers are equal, whatever their kind. What is no number equals nothing.
-/
def sameNumber : Number → Number → Bool
  | .whole a, .whole b => a == b
  | .whole a, .float y => y.toInt? == some a
  | .float x, .whole b => x.toInt? == some b
  | .float x, .float y => !x.isNaN && (x == y || (x.isZero && y.isZero))

mutual

/--
Whether two keys find the same entry.
-/
def same : Key → Key → Bool
  | .none, .none => true
  | .text a, .text b => a == b
  | .tuple as, .tuple bs => sameAll as bs
  | .other a _ _, .other b _ _ => a == b
  | a, b =>
    match a.number?, b.number? with
    | some m, some n => sameNumber m n
    | _, _ => false

@[inherit_doc same]
def sameAll : List Key → List Key → Bool
  | [], [] => true
  | a :: as, b :: bs => same a b && sameAll as bs
  | _, _ => false

end

end Key

inductive Body where
  | elements (items : List Value)
  | entries (pairs : List (Key × Value))
  | fields (pairs : List (String × Value))
deriving Inhabited

/--
Set the value of the first entry that `isKey` accepts, or add an entry at the end.
-/
def setEntry (isKey : κ → Bool) (key : κ) (value : Value) : List (κ × Value) → List (κ × Value)
  | [] => [(key, value)]
  | (k, v) :: rest => if isKey k then (k, value) :: rest else (k, v) :: setEntry isKey key value rest

namespace Body

/--
The entries of a dictionary that is built from pairs. A key that occurs again keeps its place and
takes the new value.
-/
def ofEntries (pairs : List (Key × Value)) : Body :=
  .entries (pairs.foldl (fun es (k, v) => setEntry (·.same k) k v es) [])

def ofFields (pairs : List (String × Value)) : Body :=
  .fields (pairs.foldl (fun es (k, v) => setEntry (· == k) k v es) [])

end Body

structure Object where
  typeName : String
  body : Body
deriving Inhabited

abbrev Memory := List (Handle × Object)

inductive Change where
  | append (value : Value)
  | pop
  | setItem (key : Key) (value : Value)
  | deleteItem (key : Key)
  | setField (name : String) (value : Value)
  | deleteField (name : String)

namespace Change

/--
The index of an element. A negative key counts from the end.
-/
def index? (key : Key) (size : Nat) : Option Nat :=
  match key with
  | .int n => if 0 ≤ n then some n.toNat else if n.natAbs ≤ size then some (size - n.natAbs) else none
  | _ => none

/--
What an object holds after a change. A change that does not fit the object leaves it as it is.
-/
def apply : Change → Body → Body
  | .append v, .elements items => .elements (items ++ [v])
  | .pop, .elements items => .elements items.dropLast
  | .setItem k v, .elements items =>
    match index? k items.length with
    | some i => .elements (items.set i v)
    | none => .elements items
  | .deleteItem k, .elements items =>
    match index? k items.length with
    | some i => .elements (items.eraseIdx i)
    | none => .elements items
  | .setItem k v, .entries pairs => .entries (setEntry (·.same k) k v pairs)
  | .deleteItem k, .entries pairs => .entries (pairs.filter fun pair => !pair.1.same k)
  | .setField n v, .fields pairs => .fields (setEntry (· == n) n v pairs)
  | .deleteField n, .fields pairs => .fields (pairs.filter fun pair => pair.1 != n)
  | _, body => body

end Change

def Memory.change (memory : Memory) (handle : Handle) (change : Change) : Memory :=
  memory.map fun (h, object) =>
    if h == handle then (h, { object with body := change.apply object.body }) else (h, object)

end Playback
