import Playback.Json.Basic
import Playback.Text.Numeral

/-!
This module contains the logic to read values from text, and the faults of texts that hold no value
together with the places where they show.
-/

namespace Playback.Json

inductive Syntax where
  | byteOrderMark
  | value
  | propertyName
  | colon
  | comma
  | unterminated
  | control
  | escape
  | unicodeEscape
  | extraData
deriving DecidableEq

def Syntax.message : Syntax → String
  | .byteOrderMark => "Unexpected UTF-8 BOM (decode using utf-8-sig)"
  | .value => "Expecting value"
  | .propertyName => "Expecting property name enclosed in double quotes"
  | .colon => "Expecting ':' delimiter"
  | .comma => "Expecting ',' delimiter"
  | .unterminated => "Unterminated string starting at"
  | .control => "Invalid control character at"
  | .escape => "Invalid \\escape"
  | .unicodeEscape => "Invalid \\uXXXX escape"
  | .extraData => "Extra data"

/--
Why a text is not read: a fault at a position, or a whole number of too many digits.
-/
inductive ReadFault where
  | malformed (fault : Syntax) (position : Nat)
  | tooManyDigits (count : Nat)
deriving DecidableEq

/--
The line and the column of a position, both counted from one.
-/
def lineAndColumn (text : List Char) (position : Nat) : Nat × Nat :=
  let before := text.take position
  (before.count '\n' + 1, (before.reverse.takeWhile (· != '\n')).length + 1)

def ReadFault.message (text : String) : ReadFault → String
  | .malformed fault position =>
    let (line, column) := lineAndColumn text.toList position
    s!"{fault.message}: line {line} column {column} (char {position})"
  | .tooManyDigits count => Text.tooManyDigitsMessage count

namespace Reader

/--
A place in a text: how many characters stand before it, and those that follow.
-/
structure Cursor where
  position : Nat
  rest : List Char

namespace Cursor

def advance (n : Nat) (c : Cursor) : Cursor :=
  ⟨c.position + n, c.rest.drop n⟩

def skipBlanks (c : Cursor) : Cursor :=
  let isBlank (ch : Char) := ch == ' ' || ch == '\t' || ch == '\n' || ch == '\r'
  c.advance (c.rest.takeWhile isBlank).length

def fail (fault : Syntax) (c : Cursor) : Except ReadFault α :=
  .error (.malformed fault c.position)

end Cursor

def hexValue? (c : Char) : Option Nat :=
  if c.isDigit then some (c.toNat - '0'.toNat)
  else if 'a' ≤ c && c ≤ 'f' then some (c.toNat - 'a'.toNat + 10)
  else if 'A' ≤ c && c ≤ 'F' then some (c.toNat - 'A'.toNat + 10)
  else none

/--
The unit that four hexadecimal digits write.
-/
def unit? : List Char → Option (Nat × List Char)
  | a :: b :: c :: d :: rest => do
    -- The text may not end right behind the digits.
    if rest.isEmpty then none
    else
      let a ← hexValue? a
      let b ← hexValue? b
      let c ← hexValue? c
      let d ← hexValue? d
      some (((a * 16 + b) * 16 + c) * 16 + d, rest)
  | _ => none

def isHighSurrogate (n : Nat) : Bool := 0xD800 ≤ n && n ≤ 0xDBFF

def isLowSurrogate (n : Nat) : Bool := 0xDC00 ≤ n && n ≤ 0xDFFF

/--
The character of a unit. A surrogate without its partner has none and is shown as replaced.
-/
def unitChar (n : Nat) : Char :=
  if isHighSurrogate n || isLowSurrogate n then '\uFFFD' else Char.ofNat n

/--
Whether four characters and one more follow an escape mark, as they do if the escape is one half of
a pair whose other half may follow.
-/
def pairFollows : List Char → Bool
  | '\\' :: 'u' :: _ :: _ :: _ :: _ :: _ :: _ => true
  | _ => false

def simpleEscape? : Char → Option Char
  | '"' => some '"'
  | '\\' => some '\\'
  | '/' => some '/'
  | 'b' => some (Char.ofNat 8)
  | 'f' => some (Char.ofNat 12)
  | 'n' => some '\n'
  | 'r' => some '\r'
  | 't' => some '\t'
  | _ => none

/--
Read the characters of a string up to its closing quote. `opening` is the position of the opening
quote, and `done` holds the characters read so far, the last one first.
-/
def stringBody (opening : Nat) : Nat → List Char → Cursor → Except ReadFault (String × Cursor)
  | 0, _, _ => .error (.malformed .unterminated opening)
  | fuel + 1, done, cursor =>
    match cursor.rest with
    | [] => .error (.malformed .unterminated opening)
    | '"' :: _ => .ok (String.ofList done.reverse, cursor.advance 1)
    | '\\' :: [] => .error (.malformed .unterminated opening)
    | '\\' :: 'u' :: rest =>
      match unit? rest with
      | none => (cursor.advance 1).fail .unicodeEscape
      | some (high, after) =>
        -- Two units that belong together make one character.
        if isHighSurrogate high && pairFollows after then
          match unit? (after.drop 2) with
          | none => (cursor.advance 7).fail .unicodeEscape
          | some (low, _) =>
            if isLowSurrogate low then
              let c := Char.ofNat (0x10000 + (high - 0xD800) * 0x400 + (low - 0xDC00))
              stringBody opening fuel (c :: done) (cursor.advance 12)
            else
              stringBody opening fuel (unitChar high :: done) (cursor.advance 6)
        else
          stringBody opening fuel (unitChar high :: done) (cursor.advance 6)
    | '\\' :: c :: _ =>
      match simpleEscape? c with
      | none => cursor.fail .escape
      | some c => stringBody opening fuel (c :: done) (cursor.advance 2)
    | c :: _ =>
      if c.toNat < 0x20 then cursor.fail .control
      else stringBody opening fuel (c :: done) (cursor.advance 1)

def string (cursor : Cursor) : Except ReadFault (String × Cursor) :=
  stringBody cursor.position cursor.rest.length [] (cursor.advance 1)

def digitRun (cs : List Char) : List Char :=
  cs.takeWhile Char.isDigit

def fractionLength : List Char → Nat
  | '.' :: rest => if (digitRun rest).isEmpty then 0 else 1 + (digitRun rest).length
  | _ => 0

def exponentLength : List Char → Nat
  | [] => 0
  | c :: rest =>
    if c == 'e' || c == 'E' then
      let signLength :=
        match rest with
        | '+' :: _ | '-' :: _ => 1
        | _ => 0
      let digits := digitRun (rest.drop signLength)
      if digits.isEmpty then 0 else 1 + signLength + digits.length
    else 0

def takeMinus : List Char → Bool × List Char
  | '-' :: rest => (true, rest)
  | rest => (false, rest)

/--
The whole part at the front of a number. Nothing belongs to it behind a zero in front.
-/
def wholeDigits : List Char → List Char
  | '0' :: _ => ['0']
  | rest => digitRun rest

/--
Read a number. A fraction or an exponent makes it a floating point number.
-/
def number (cursor : Cursor) : Except ReadFault (Json × Cursor) :=
  let (minus, body) := takeMinus cursor.rest
  let whole := wholeDigits body
  if whole.isEmpty then
    cursor.fail .value
  else
    let tail := body.drop whole.length
    let fraction := tail.take (fractionLength tail)
    let tail := tail.drop fraction.length
    let exponent := tail.take (exponentLength tail)
    let length := (if minus then 1 else 0) + whole.length + fraction.length + exponent.length
    let after := cursor.advance length
    if fraction.isEmpty && exponent.isEmpty then
      if Text.maxDigits < whole.length then .error (.tooManyDigits whole.length)
      else
        let n := Text.digitsValue whole
        .ok (.int (if minus then -(n : Int) else n), after)
    else
      let power := (Text.readExponent? exponent).getD 0
      let digits := whole ++ fraction.drop 1
      let places := fraction.length - 1
      .ok (.float (.ofDecimal minus (Text.digitsValue digits) (power - places)), after)

def keywords : List (List Char × Json) :=
  [("null".toList, .null), ("true".toList, .bool true), ("false".toList, .bool false),
   ("NaN".toList, .float .nan), ("Infinity".toList, .float (.infinity false)),
   ("-Infinity".toList, .float (.infinity true))]

mutual

def value : Nat → Cursor → Except ReadFault (Json × Cursor)
  | 0, cursor => cursor.fail .value
  | fuel + 1, cursor =>
    match cursor.rest with
    | '"' :: _ => do
      let (s, cursor) ← string cursor
      return (.str s, cursor)
    | '{' :: _ =>
      let cursor := (cursor.advance 1).skipBlanks
      match cursor.rest with
      | '}' :: _ => .ok (.obj [], cursor.advance 1)
      | _ => fields fuel [] cursor
    | '[' :: _ =>
      let cursor := (cursor.advance 1).skipBlanks
      match cursor.rest with
      | ']' :: _ => .ok (.arr [], cursor.advance 1)
      | _ => items fuel [] cursor
    | rest =>
      match keywords.find? fun keyword => keyword.1.isPrefixOf rest with
      | some (word, json) => .ok (json, cursor.advance word.length)
      | none => number cursor

/--
Read the items of an array up to its closing bracket. `done` holds the items before, the last one
first.
-/
def items : Nat → List Json → Cursor → Except ReadFault (Json × Cursor)
  | 0, _, cursor => cursor.fail .value
  | fuel + 1, done, cursor => do
    let (item, cursor) ← value fuel cursor
    let cursor := cursor.skipBlanks
    match cursor.rest with
    | ']' :: _ => return (.arr (item :: done).reverse, cursor.advance 1)
    | ',' :: _ => items fuel (item :: done) (cursor.advance 1).skipBlanks
    | _ => cursor.fail .comma

def fields : Nat → Fields → Cursor → Except ReadFault (Json × Cursor)
  | 0, _, cursor => cursor.fail .value
  | fuel + 1, done, cursor =>
    match cursor.rest with
    | '"' :: _ => do
      let (name, cursor) ← string cursor
      let cursor := cursor.skipBlanks
      match cursor.rest with
      | ':' :: _ =>
        let (item, cursor) ← value fuel (cursor.advance 1).skipBlanks
        -- A name that occurs again replaces the value it had.
        let done := done.set name item
        let cursor := cursor.skipBlanks
        match cursor.rest with
        | '}' :: _ => return (.obj done, cursor.advance 1)
        | ',' :: _ => fields fuel done (cursor.advance 1).skipBlanks
        | _ => cursor.fail .comma
      | _ => cursor.fail .colon
    | _ => cursor.fail .propertyName

end

end Reader

/--
Read the one value that a text holds, with white space around it.
-/
def read (text : String) : Except ReadFault Json := do
  let cs := text.toList
  if cs.head? == some '\uFEFF' then
    .error (.malformed .byteOrderMark 0)
  else
    let start : Reader.Cursor := ⟨0, cs⟩
    -- Of two steps, at least one reads a character, so the bound is never met.
    let (json, cursor) ← Reader.value (2 * cs.length + 2) start.skipBlanks
    let cursor := cursor.skipBlanks
    if cursor.rest.isEmpty then return json else cursor.fail .extraData

end Playback.Json
