/-!
This module contains the logic to replace every occurrence of a text by another one.
-/

namespace Playback.Text

/--
Replace the occurrences of `needle` from left to right. A replacement is not searched again, and
occurrences do not overlap. Nothing is replaced if `needle` is empty.
-/
def replaceAll (needle replacement : List Char) (cs : List Char) : List Char :=
  if needle.isEmpty then cs else go 0 cs
where
  go : Nat → List Char → List Char
    | _, [] => []
    | skip + 1, _ :: cs => go skip cs
    | 0, c :: cs =>
      if needle.isPrefixOf (c :: cs) then
        replacement ++ go (needle.length - 1) cs
      else
        c :: go 0 cs

def replaced (needle replacement s : String) : String :=
  String.ofList (replaceAll needle.toList replacement.toList s.toList)

end Playback.Text
