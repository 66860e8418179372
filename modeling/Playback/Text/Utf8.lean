/-!
This module contains the logic to read bytes as text. Bytes that are no text are shown as replaced, one
replacement for each longest start of a character that is not completed.
-/

namespace Playback.Text

namespace Utf8

/--
A character whose first bytes have been read: how many more bytes it takes, the bounds of the next
one, and the bits so far.
-/
structure Partial where
  missing : Nat
  low : Nat
  high : Nat
  bits : Nat
deriving DecidableEq

/--
What a byte starts that follows a complete character: a character of one byte, a longer one, or
nothing.
-/
inductive Start where
  | char (c : Char)
  | longer (p : Partial)
  | nothing
deriving DecidableEq

def start (b : Nat) : Start :=
  if b < 0x80 then .char (Char.ofNat b)
  else if b < 0xC2 then .nothing
  else if b < 0xE0 then .longer ⟨1, 0x80, 0xBF, b - 0xC0⟩
  else if b < 0xF0 then
    .longer ⟨2, if b = 0xE0 then 0xA0 else 0x80, if b = 0xED then 0x9F else 0xBF, b - 0xE0⟩
  else if b < 0xF5 then
    .longer ⟨3, if b = 0xF0 then 0x90 else 0x80, if b = 0xF4 then 0x8F else 0xBF, b - 0xF0⟩
  else .nothing

/--
The characters of bytes. `partial?` is the character that is being read.
-/
def decode : Option Partial → List UInt8 → List Char
  | none, [] => []
  | some _, [] => ['\uFFFD']
  | none, b :: bs =>
    match start b.toNat with
    | .char c => c :: decode none bs
    | .longer p => decode (some p) bs
    | .nothing => '\uFFFD' :: decode none bs
  | some p, b :: bs =>
    if p.low ≤ b.toNat && b.toNat ≤ p.high then
      let bits := p.bits * 64 + (b.toNat - 0x80)
      if p.missing ≤ 1 then Char.ofNat bits :: decode none bs
      else decode (some ⟨p.missing - 1, 0x80, 0xBF, bits⟩) bs
    else
      match start b.toNat with
      | .char c => '\uFFFD' :: c :: decode none bs
      | .longer p => '\uFFFD' :: decode (some p) bs
      | .nothing => '\uFFFD' :: '\uFFFD' :: decode none bs

end Utf8

def decodeUtf8 (bytes : List UInt8) : String :=
  String.ofList (Utf8.decode none bytes)

end Playback.Text
