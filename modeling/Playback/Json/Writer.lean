import Playback.Json.Basic
import Playback.Text.Numeral
import Playback.Text.Quoted

/-!
This module contains the logic to write values as text. The text is ASCII: other characters are
written as the escapes of their UTF-16 units.
-/

namespace Playback.Json

namespace Writer

def escapeUnit (n : Nat) : List Char :=
  '\\' :: 'u' :: Text.hexPadded 4 n

def escape (c : Char) : List Char :=
  if c == '"' || c == '\\' then ['\\', c]
  else if c == '\n' then ['\\', 'n']
  else if c == '\r' then ['\\', 'r']
  else if c == '\t' then ['\\', 't']
  else if c.toNat == 8 then ['\\', 'b']
  else if c.toNat == 12 then ['\\', 'f']
  else if 0x20 ≤ c.toNat && c.toNat < 0x7F then [c]
  else if c.toNat < 0x10000 then escapeUnit c.toNat
  else
    let n := c.toNat - 0x10000
    escapeUnit (0xD800 + n / 0x400) ++ escapeUnit (0xDC00 + n % 0x400)

def string (s : String) : String :=
  String.ofList ('"' :: s.toList.flatMap escape ++ ['"'])

/--
The text of a floating point number. The format is extended by names for what is no number.
-/
def float (x : Binary64) : String :=
  if x.isNaN then "NaN"
  else if x.isInfinite then (if x.negative then "-Infinity" else "Infinity")
  else x.toText

/--
Where the parts of a container stand: all on one line, or each on its own line with a count of
blanks per level in front.
-/
inductive Layout where
  | flat
  | indented (width : Nat)
deriving DecidableEq

/--
A negative width puts parts on lines of their own without blanks in front.
-/
def Layout.ofIndent : Option Int → Layout
  | none => .flat
  | some width => .indented width.toNat

def Layout.lineBreak (layout : Layout) (level : Nat) : String :=
  match layout with
  | .flat => ""
  | .indented width => "\n" ++ String.ofList (List.replicate (width * level) ' ')

def Layout.separator (layout : Layout) (level : Nat) : String :=
  match layout with
  | .flat => ", "
  | .indented _ => "," ++ layout.lineBreak level

mutual

def value (layout : Layout) (level : Nat) : Json → String
  | .null => "null"
  | .bool true => "true"
  | .bool false => "false"
  | .int n => toString n
  | .float x => float x
  | .str s => string s
  | .arr [] => "[]"
  | .arr (item :: items) =>
    "[" ++ layout.lineBreak (level + 1) ++ value layout (level + 1) item
      ++ restItems layout (level + 1) items ++ layout.lineBreak level ++ "]"
  | .obj [] => "\x7b\x7d"
  | .obj ((name, item) :: fields) =>
    "\x7b" ++ layout.lineBreak (level + 1) ++ string name ++ ": "
      ++ value layout (level + 1) item ++ restFields layout (level + 1) fields
      ++ layout.lineBreak level ++ "\x7d"

def restItems (layout : Layout) (level : Nat) : List Json → String
  | [] => ""
  | item :: items =>
    layout.separator level ++ value layout level item ++ restItems layout level items

def restFields (layout : Layout) (level : Nat) : List (String × Json) → String
  | [] => ""
  | (name, item) :: fields =>
    layout.separator level ++ string name ++ ": " ++ value layout level item
      ++ restFields layout level fields

end

end Writer

/--
The text of a value, on one line if there is no indent.
-/
def write (indent : Option Int) (json : Json) : String :=
  Writer.value (.ofIndent indent) 0 json

mutual

/--
Whether a value can be written: it holds no whole number of too many digits.
-/
def isWritable : Json → Bool
  | .int n => (Nat.toDigits 10 n.natAbs).length ≤ Text.maxDigits
  | .arr items => areWritable items
  | .obj fields => haveWritable fields
  | _ => true

@[inherit_doc isWritable]
def areWritable : List Json → Bool
  | [] => true
  | item :: items => isWritable item && areWritable items

@[inherit_doc isWritable]
def haveWritable : List (String × Json) → Bool
  | [] => true
  | (_, item) :: fields => isWritable item && haveWritable fields

end

inductive WriteFault where
  | tooManyDigits
deriving DecidableEq

def WriteFault.message : WriteFault → String
  | .tooManyDigits =>
    s!"Exceeds the limit ({Text.maxDigits} digits) for integer string conversion"
      ++ "; use sys.set_int_max_str_digits() to increase the limit"

def write? (indent : Option Int) (json : Json) : Except WriteFault String :=
  if json.isWritable then .ok (json.write indent) else .error .tooManyDigits

end Playback.Json
