import Playback.Text.Percent

/-!
This module contains the logic to write the letters of every script in ASCII: the ASCII characters of a
text in their order, and behind a hyphen how the others are put in between. The others are put in by
ascending code points, and those of one code point from the front to the back, so that each of them is
found by one number: how many places are passed over after the one before it.
-/

namespace Playback.Punycode

/--
A character that is put in at a place of the text that is there already.
-/
structure Insertion where
  code : Nat
  position : Nat
deriving DecidableEq

/--
What the number for an insertion depends on: the place right behind the last insertion, the length of
the text, and how numbers are written.
-/
structure Cursor where
  code : Nat := 128
  position : Nat := 0
  size : Nat
  bias : Nat := 72
  /-- By how much larger than the next number the last one is expected to be. -/
  damp : Nat := 700
deriving DecidableEq

/--
The digit from which on another digit follows. It depends on the place of the digit in its number,
which is counted in steps of 36.
-/
def threshold (bias place : Nat) : Nat := min 26 (max 1 (place - bias))

theorem threshold_pos (bias place : Nat) : 0 < threshold bias place := by
  unfold threshold; omega

def settledBias (divisions delta : Nat) : Nat :=
  if 455 < delta then settledBias (divisions + 36) (delta / 35)
  else divisions + 36 * delta / (delta + 38)
termination_by delta
decreasing_by omega

def Cursor.behind (cursor : Cursor) (delta : Nat) (insertion : Insertion) : Cursor :=
  let size := cursor.size + 1
  let scaled := delta / cursor.damp
  { code := insertion.code
    position := insertion.position + 1
    size
    bias := settledBias 0 (scaled + scaled / size)
    damp := 2 }

/--
The number of places between the cursor and an insertion. There is a place in front of each character
and one at the end for every code point.
-/
def Cursor.distance (cursor : Cursor) (insertion : Insertion) : Nat :=
  (insertion.code - cursor.code) * (cursor.size + 1) + insertion.position - cursor.position

def Cursor.insertionAt (cursor : Cursor) (delta : Nat) : Insertion :=
  let place := cursor.position + delta
  ⟨cursor.code + place / (cursor.size + 1), place % (cursor.size + 1)⟩

/--
The digits are the letters and then the usual digits.
-/
def digitChar (digit : Nat) : Char :=
  Char.ofNat (if digit < 26 then 'a'.toNat + digit else '0'.toNat + (digit - 26))

def digitValue? (c : Char) : Option Nat :=
  if 'a' ≤ c && c ≤ 'z' then some (c.toNat - 'a'.toNat)
  else if '0' ≤ c && c ≤ '9' then some (c.toNat - '0'.toNat + 26)
  else none

/--
The digits of a number from the digit at `place` on. The last digit is the one below its threshold.
-/
def digits (bias place n : Nat) : List Char :=
  let limit := threshold bias place
  if n < limit then [digitChar n]
  else
    digitChar (limit + (n - limit) % (36 - limit))
      :: digits bias (place + 36) ((n - limit) / (36 - limit))
termination_by n
decreasing_by
  have := threshold_pos bias place
  exact Nat.lt_of_le_of_lt (Nat.div_le_self _ _) (by omega)

def writeInsertions (cursor : Cursor) : List Insertion → List Char
  | [] => []
  | insertion :: rest =>
    let delta := cursor.distance insertion
    digits cursor.bias 36 delta ++ writeInsertions (cursor.behind delta insertion) rest

/--
The insertions that lead from the ASCII characters of a text to the text. A character is put in behind
the characters in front of it that are there already: those of code points that are not greater.
-/
def insertions (cs : List Char) : List Insertion :=
  let foreign := cs.zipIdx.filter fun (c, _) => !Text.isAscii c
  (foreign.mergeSort fun a b => a.1 ≤ b.1).map fun (c, index) =>
    ⟨c.toNat, (cs.take index).countP (· ≤ c)⟩

def encode (cs : List Char) : List Char :=
  let ascii := cs.filter Text.isAscii
  let front := if ascii.isEmpty then [] else ascii ++ ['-']
  front ++ writeInsertions { size := ascii.length } (insertions cs)

structure Pending where
  value : Nat := 0
  weight : Nat := 1
  place : Nat := 36
deriving DecidableEq

/--
Read the numbers for insertions and insert the characters. Nothing is read if the last number is not
complete or a number leads beyond the last code point.
-/
def insertAll? (cursor : Cursor) (label : List Char) (pending : Pending) :
    List Char → Option (List Char)
  | [] => if pending.place = 36 then some label else none
  | c :: rest =>
    match digitValue? c with
    | none => none
    | some digit =>
      let limit := threshold cursor.bias pending.place
      let value := pending.value + digit * pending.weight
      if limit ≤ digit then
        insertAll? cursor label ⟨value, pending.weight * (36 - limit), pending.place + 36⟩ rest
      else
        let insertion := cursor.insertionAt value
        if insertion.code.isValidChar then
          let label := label.insertIdx insertion.position (Char.ofNat insertion.code)
          insertAll? (cursor.behind value insertion) label {} rest
        else none

/--
Read a text that is written in ASCII. The last hyphen ends the ASCII characters.
-/
def decode? (cs : List Char) : Option (List Char) :=
  let numbers := (cs.reverse.takeWhile (· != '-')).reverse
  let ascii := (cs.take (cs.length - numbers.length)).dropLast
  insertAll? { size := ascii.length } ascii {} numbers

end Playback.Punycode
