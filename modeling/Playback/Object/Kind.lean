import Playback.Text.Slice
import Playback.Trace.Heap

/-!
This module contains the kinds of values that a trace shows: scalars, texts, references to objects,
and the mark of what has been left out.
-/

namespace Playback

inductive ValueKind where
  | scalar
  | text
  | reference
  | omitted
deriving DecidableEq

namespace ValueKind

def name : ValueKind → String
  | .scalar => "scalar"
  | .text => "text"
  | .reference => "reference"
  | .omitted => "omitted"

/--
What stands for a value that has been left out, and for the end of a text that has been cut.
-/
def ellipsis : String := "..."

def ofJson (isKnown : String → Bool) : Json → ValueKind
  | .null | .bool _ | .int _ | .float _ => .scalar
  | .str s => if s == ellipsis then .omitted else if isKnown s then .reference else .text
  | .arr _ | .obj _ => .text

end ValueKind

/--
A text cut to a length, with a mark at its end if something is missing.
-/
def truncated (limit : Int) (s : String) : String :=
  if limit < s.length then
    String.ofList (Text.takeUpTo limit s.toList) ++ ValueKind.ellipsis
  else s

end Playback
