/-!
This module contains floating point numbers of 64 bits as bit patterns, and the exact conversions
between them and rational numbers. All rounding goes to the nearest number, ties to the one with an
even significand.
-/

namespace Playback

/--
A floating point number with 11 bits of exponent and 52 bits of fraction, given by its bits.
-/
structure Binary64 where
  bits : UInt64
deriving DecidableEq, Inhabited

namespace Binary64

def pow2 (n : Nat) : Nat := Nat.pow 2 n

def pow10 (n : Nat) : Nat := Nat.pow 10 n

/--
The sign bit. Zero has one too.
-/
def negative (x : Binary64) : Bool :=
  pow2 63 ≤ x.bits.toNat

def unsigned (x : Binary64) : Nat :=
  x.bits.toNat % pow2 63

/--
The unsigned bits of infinity. Those of finite numbers are smaller, those of the others greater.
-/
def infinityBits : Nat := 0x7FF * pow2 52

def isFinite (x : Binary64) : Bool :=
  x.unsigned < infinityBits

def isNaN (x : Binary64) : Bool :=
  infinityBits < x.unsigned

def isInfinite (x : Binary64) : Bool :=
  x.unsigned == infinityBits

def isZero (x : Binary64) : Bool :=
  x.unsigned == 0

def ofUnsigned (negative : Bool) (n : Nat) : Binary64 :=
  ⟨UInt64.ofNat (if negative then n + pow2 63 else n)⟩

def infinity (negative : Bool) : Binary64 :=
  ofUnsigned negative infinityBits

def nan : Binary64 :=
  ofUnsigned false (infinityBits + pow2 51)

/--
A finite number is `significand * 2 ^ exponent` up to its sign.
-/
def significand (x : Binary64) : Nat :=
  if x.unsigned < pow2 52 then x.unsigned else pow2 52 + x.unsigned % pow2 52

@[inherit_doc significand]
def exponent (x : Binary64) : Int :=
  if x.unsigned < pow2 52 then -1074 else (x.unsigned / pow2 52 : Nat) - 1075

def ratio (x : Binary64) : Nat × Nat :=
  if 0 ≤ x.exponent then (x.significand * pow2 x.exponent.toNat, 1)
  else (x.significand, pow2 (-x.exponent).toNat)

/--
The quotient of two numbers rounded to the nearest natural number, a half to the even one.
-/
def roundDiv (num den : Nat) : Nat :=
  let q := num / den
  let r := num % den
  if 2 * r > den || (2 * r == den && q % 2 == 1) then q + 1 else q

/--
The exponent whose unit is the last place of the quotient of two positive numbers.
-/
def unitExponent (num den : Nat) : Int :=
  let e : Int := (num.log2 : Int) - den.log2 - 52
  let reachesTop :=
    if 0 ≤ e then den * pow2 e.toNat * pow2 52 ≤ num else den * pow2 52 ≤ num * pow2 (-e).toNat
  max (if reachesTop then e else e - 1) (-1074)

def ofRatio (negative : Bool) (num den : Nat) : Binary64 :=
  if num == 0 || den == 0 then
    ofUnsigned negative 0
  else
    let e := unitExponent num den
    let q :=
      if 0 ≤ e then roundDiv num (den * pow2 e.toNat) else roundDiv (num * pow2 (-e).toNat) den
    -- A carry out of the significand moves into the exponent by itself.
    ofUnsigned negative (min ((e + 1074).toNat * pow2 52 + q) infinityBits)

def ofDecimal (negative : Bool) (digits : Nat) (exponent : Int) : Binary64 :=
  -- Far outside the range of finite numbers, the count of digits decides alone.
  let magnitude := (Nat.toDigits 10 digits).length + exponent
  if digits == 0 || magnitude < -330 then ofUnsigned negative 0
  else if 310 < magnitude then infinity negative
  else if 0 ≤ exponent then ofRatio negative (digits * pow10 exponent.toNat) 1
  else ofRatio negative digits (pow10 (-exponent).toNat)

def ofInt (n : Int) : Binary64 :=
  ofRatio (n < 0) n.natAbs 1

def scale (factor : Nat) (x : Binary64) : Binary64 :=
  if x.isFinite then
    let (num, den) := x.ratio
    ofRatio x.negative (num * factor) den
  else x

def toRat? (x : Binary64) : Option Rat :=
  if x.isFinite then
    let (num, den) := x.ratio
    some (mkRat (if x.negative then -(num : Int) else num) den)
  else none

def ofRat (q : Rat) : Binary64 :=
  ofRatio (q.num < 0) q.num.natAbs q.den

/--
A finite number without a fractional part.
-/
def toInt? (x : Binary64) : Option Int :=
  if x.isFinite then
    let (num, den) := x.ratio
    if num % den == 0 then some (if x.negative then -((num / den : Nat) : Int) else (num / den : Nat))
    else none
  else none

end Binary64

end Playback
