import Playback.Fault
import Playback.Json.Reader
import Playback.Text.Replace

/-!
This module contains the records that a traced program prints among its own output, one a line, and
the logic to read them and the values they carry.
-/

namespace Playback

/--
One line of the output of a traced program.
-/
inductive Record where
  | lineMark (line : Nat)
  | varBind (name rawValue : String)
  | heapPut (id rawJson : String)
  /-- Output of the program itself. -/
  | plainText (text : String)
deriving DecidableEq

namespace Record

def dropReturns (s : String) : String :=
  String.ofList (Text.dropEndWhile (· == '\r') s.toList)

def afterMark? (mark : String) (cs : List Char) : Option (List Char) :=
  if mark.toList.isPrefixOf cs then some (cs.drop mark.length) else none

/--
Cut a text at its first colon into a name and a payload. The name is not empty, and the payload
reaches to the end of the line.
-/
def named? (cs : List Char) : Option (String × String) :=
  let name := cs.takeWhile (· != ':')
  match cs.drop name.length with
  | ':' :: rest =>
    let payload := rest.takeWhile (· != '\n')
    let tail := rest.drop payload.length
    if name.isEmpty || !(tail == [] || tail == ['\n']) then none
    else some (String.ofList name, String.ofList payload)
  | _ => none

/--
Read one line. What is no record is output of the program.
-/
def parse (line : String) : Except Text.NumeralFault Record :=
  let line := dropReturns line
  let cs := line.toList
  match (afterMark? "HEAPPUT:" cs).bind named? with
  | some (id, payload) => .ok (.heapPut id payload)
  | none =>
    match (afterMark? "VARBIND:" cs).bind named? with
    | some (name, payload) => .ok (.varBind name payload)
    | none =>
      match afterMark? "LINEMARK:" cs with
      | none => .ok (.plainText line)
      | some rest =>
        let digits := rest.takeWhile Text.isDecimal
        if digits.isEmpty then .ok (.plainText line)
        -- A number of too many digits cannot be read.
        else if Text.maxDigits < digits.length then .error (.tooManyDigits digits.length)
        else .ok (.lineMark (Text.digitsValue digits))

def defaultType : String := "object"

def decodePayload (rawJson : String) : Except Fault (Json × Json) :=
  match Json.read rawJson with
  | .error fault => .error (.malformedRecord rawJson (fault.message rawJson))
  | .ok (.obj fields) =>
    -- The type may be a value of any kind.
    let type := (fields.lookup "type").getD .null
    .ok (if type.isTruthy then type else .str defaultType, (fields.lookup "value").getD .null)
  | .ok _ => .error (.malformedRecord rawJson "payload is not an object")

/--
Whether a text has at least two characters and stands in double quotes.
-/
def isQuoted (cs : List Char) : Bool :=
  2 ≤ cs.length && cs.head? == some '"' && cs.getLast? == some '"'

/--
The value a variable is bound to.
-/
def cleanValue (raw : String) : Json :=
  let raw := dropReturns raw
  let cs := raw.toList
  if isQuoted cs then
    -- Quoted text loses its quotes and escapes.
    let inner := (cs.drop 1).dropLast
    match Json.read raw with
    | .ok (.str s) => .str s
    | .ok _ => .str (String.ofList inner)
    | .error _ => .str (String.ofList (Text.replaceAll ['\\', '"'] ['"'] inner))
  else if cs.head? == some '[' || cs.head? == some '{' then
    -- Arrays and objects are read if they can be.
    match Json.read raw with
    | .ok json => json
    | .error _ => .str raw
  else .str raw

end Record

end Playback
