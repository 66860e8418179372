import Playback.Text.Utf8

/-!
This module contains the syntax trees of JavaScript programs, as a grammar reads them: nodes that know
their place in the program text, in bytes and in rows.
-/

namespace Playback.Script

inductive Node where
  | mk (kind : String) (startByte endByte startRow endRow : Nat) (named : Bool)
      (field : Option String) (children : List Node)
deriving Inhabited

namespace Node

def kind : Node → String
  | mk kind _ _ _ _ _ _ _ => kind

def startByte : Node → Nat
  | mk _ n _ _ _ _ _ _ => n

def endByte : Node → Nat
  | mk _ _ n _ _ _ _ _ => n

def startRow : Node → Nat
  | mk _ _ _ n _ _ _ _ => n

def endRow : Node → Nat
  | mk _ _ _ _ n _ _ _ => n

def named : Node → Bool
  | mk _ _ _ _ _ b _ _ => b

def field : Node → Option String
  | mk _ _ _ _ _ _ f _ => f

def children : Node → List Node
  | mk _ _ _ _ _ _ _ cs => cs

def child? (node : Node) (name : String) : Option Node :=
  node.children.find? (·.field == some name)

def text (source : List UInt8) (node : Node) : String :=
  Text.decodeUtf8 ((source.take node.endByte).drop node.startByte)

mutual

/--
The count of a node and of everything below it.
-/
def size : Node → Nat
  | .mk _ _ _ _ _ _ _ children => sizeAll children + 1

@[inherit_doc size]
def sizeAll : List Node → Nat
  | [] => 0
  | node :: nodes => size node + sizeAll nodes

end

theorem size_eq (node : Node) : node.size = sizeAll node.children + 1 := by
  cases node
  rw [size, children]

theorem sizeAll_append (nodes more : List Node) :
    sizeAll (nodes ++ more) = sizeAll nodes + sizeAll more := by
  induction nodes with
  | nil => rw [List.nil_append, sizeAll, Nat.zero_add]
  | cons node nodes ih =>
    rw [List.cons_append, sizeAll, sizeAll, ih]
    omega

/--
The nodes that a walk comes by, given the ones it still has to visit, the next one in front. What is
below a node is put in front of all that waits already.
-/
def walk : List Node → List Node
  | [] => []
  | node :: pending => node :: walk (node.children ++ pending)
termination_by pending => sizeAll pending
decreasing_by
  rw [sizeAll_append, sizeAll, size_eq]
  omega

def preorder (node : Node) : List Node :=
  walk [node]

end Node

end Playback.Script
