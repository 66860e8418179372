import Playback.Object.Kind
import Playback.Object.Memory

/-!
This module contains the logic to show the values of a program as scalars, texts and references, and to
write down the objects that references lead to.
-/

namespace Playback

/--
How much of a value is shown: how deep references are followed, how many elements of a container and
how many characters of a text are kept.
-/
structure Limits where
  maxDepth : Int := 3
  maxItems : Int := 20
  maxText : Int := 50
deriving DecidableEq

/--
What has been written down: the objects, which identities have been named, in order, and which ids have
been visited by the current dump.
-/
structure Encoder where
  heap : Heap := {}
  named : List Handle := []
  visited : List String := []
deriving DecidableEq

def mapThrough (f : σ → α → σ × β) (s : σ) : List α → σ × List β
  | [] => (s, [])
  | a :: as =>
    let (s, b) := f s a
    let (s, bs) := mapThrough f s as
    (s, b :: bs)

/--
Take steps that may fail, up to the first one that does. What it has done by then stays done.
-/
def mapUntil (f : σ → α → σ × Except ε β) (s : σ) : List α → σ × Except ε (List β)
  | [] => (s, .ok [])
  | a :: as =>
    match f s a with
    | (s, .error e) => (s, .error e)
    | (s, .ok b) =>
      let (s, bs) := mapUntil f s as
      (s, bs.map (b :: ·))

namespace Body

/--
The parts of an object that are shown, each with its name. Elements have no names, and fields whose names
start with two underscores are not shown.
-/
def parts (limits : Limits) : Body → List (Shown × Value)
  | .elements items => (Text.takeUpTo limits.maxItems items).map fun v => (.ok "", v)
  | .entries pairs =>
    (Text.takeUpTo limits.maxItems pairs).map fun pair => (pair.1.display, pair.2)
  | .fields pairs =>
    (Text.takeUpTo limits.maxItems (pairs.filter fun pair => !"__".isPrefixOf pair.1)).map
      fun pair => (.ok pair.1, pair.2)

/--
The form of what an object holds, given what is shown of its parts.
-/
def form : Body → Fields → Json
  | .elements _, shown => .arr (shown.map Prod.snd)
  | .entries _, shown | .fields _, shown => .obj (Fields.ofList shown)

end Body

namespace Encoder

def idOf (n : Nat) : String := "obj" ++ toString n

/--
The id of an object. An object that has no id yet is named now.
-/
def identify (s : Encoder) (object : Handle) : Encoder × String :=
  match s.named.idxOf? object with
  | some n => (s, idOf n)
  | none => ({ s with named := s.named ++ [object] }, idOf s.named.length)

def scalar (limits : Limits) : Value → Except Raised Json
  | .none => .ok (.str "None")
  | .bool b => .ok (.bool b)
  | .int n => .ok (.int n)
  | .float x => .ok (if x.isFinite then .float x else .str x.toText)
  | .text t => .ok (.str (truncated limits.maxText t))
  | .other shown | .plumbing shown => .ok (.str (truncated limits.maxText shown))
  | .unshown raised _ => .error raised
  | .ref _ => .ok (.str ValueKind.ellipsis)

/--
Encode a part of an object. The text of its name is asked for before its value is looked at.
-/
def encodePart (encode : Encoder → Value → Encoder × Except Raised Json) (s : Encoder)
    (part : Shown × Value) : Encoder × Except Raised (String × Json) :=
  match part.1 with
  | .error raised => (s, .error raised)
  | .ok name =>
    let (s, shown) := encode s part.2
    (s, shown.map (name, ·))

def encodeBody (encode : Encoder → Value → Encoder × Except Raised Json) (limits : Limits)
    (s : Encoder) (body : Body) : Encoder × Except Raised Json :=
  let (s, shown) := mapUntil (encodePart encode) s (body.parts limits)
  (s, shown.map body.form)

/--
Encode a value. `room` counts the levels of references that may still be followed.
-/
def encodeWithin (memory : Memory) (limits : Limits) :
    Nat → Encoder → Value → Encoder × Except Raised Json
  | 0, s, v => (s, scalar limits v)
  | room + 1, s, .ref object =>
    let (s, id) := s.identify object
    if s.visited.contains id then (s, .ok (.str id))
    else
      -- The object is written down now, after the objects it leads to.
      let s := { s with visited := id :: s.visited }
      match memory.lookup object with
      | none => (s, .ok (.str id))
      | some { typeName, body } =>
        match encodeBody (encodeWithin memory limits room) limits s body with
        | (s, .error raised) => (s, .error raised)
        | (s, .ok value) =>
          let type := if typeName == "" then Record.defaultType else typeName
          ({ s with heap := s.heap.put { id, type, value } }, .ok (.str id))
  | _ + 1, s, v => (s, scalar limits v)

def roomAt (limits : Limits) (depth : Int) : Nat :=
  (limits.maxDepth - depth + 1).toNat

/--
Encode a value that stands at the given depth, as part of the current dump.
-/
def encode (memory : Memory) (limits : Limits) (depth : Int) (s : Encoder) (v : Value) :
    Encoder × Except Raised Json :=
  encodeWithin memory limits (roomAt limits depth) s v

def startDump (s : Encoder) (visited : List String) : Encoder :=
  { s with visited }

end Encoder

end Playback
