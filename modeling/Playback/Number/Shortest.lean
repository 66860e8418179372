import Playback.Number.Binary64

/-!
This module contains the decimal text of floating point numbers: the fewest digits that read back as
the same number, and a rounded form with a fixed count of significant digits.
-/

namespace Playback

/--
A positive decimal number in scientific form: the first digit stands before the point, the others
behind it, and the whole is multiplied by a power of ten.
-/
structure Scientific where
  digits : List Char
  exponent : Int
deriving DecidableEq

namespace Scientific

/--
Move the power of ten that belongs to `n * 10 ^ exponent` behind the first digit of `n`, and drop
zeros at the end.
-/
def ofScaled (n : Nat) (exponent : Int) : Scientific :=
  let digits := Nat.toDigits 10 n
  let kept := (digits.reverse.dropWhile (· == '0')).reverse
  ⟨if kept.isEmpty then ['0'] else kept, exponent + (digits.length - 1 : Nat)⟩

/--
The form without an exponent. `fraction` is what a number without decimals ends with.
-/
def positional (fraction : List Char) (s : Scientific) : List Char :=
  if 0 ≤ s.exponent then
    let whole := s.exponent.toNat + 1
    if s.digits.length ≤ whole then
      s.digits ++ List.replicate (whole - s.digits.length) '0' ++ fraction
    else
      s.digits.take whole ++ '.' :: s.digits.drop whole
  else
    '0' :: '.' :: List.replicate ((-s.exponent).toNat - 1) '0' ++ s.digits

def exponential (s : Scientific) : List Char :=
  let mantissa :=
    match s.digits with
    | [] => []
    | [d] => [d]
    | d :: ds => d :: '.' :: ds
  let power := Nat.toDigits 10 s.exponent.natAbs
  let padded := if power.length < 2 then '0' :: power else power
  mantissa ++ 'e' :: (if s.exponent < 0 then '-' else '+') :: padded

end Scientific

namespace Binary64

/--
The largest `k` with `10 ^ k ≤ num / den`, for positive numbers.
-/
def decimalExponent (num den : Nat) : Int :=
  let guess : Int := ((Nat.toDigits 10 num).length : Int) - (Nat.toDigits 10 den).length
  let reached :=
    if 0 ≤ guess then den * pow10 guess.toNat ≤ num else den ≤ num * pow10 (-guess).toNat
  if reached then guess else guess - 1

def inUnits (unit : Int) (num den : Nat) : Nat × Nat :=
  if 0 ≤ unit then (num, den * pow10 unit.toNat) else (num * pow10 (-unit).toNat, den)

/--
The ends of the interval of rational numbers that round to a finite positive number, all over one
denominator: lower end, number, upper end and denominator.
-/
def roundingInterval (x : Binary64) : Nat × Nat × Nat × Nat :=
  let m := x.significand
  let below := if m == pow2 52 && -1074 < x.exponent then 1 else 2
  let e := x.exponent - 2
  let (up, den) := if 0 ≤ e then (pow2 e.toNat, 1) else (1, pow2 (-e).toNat)
  ((4 * m - below) * up, 4 * m * up, (4 * m + 2) * up, den)

/--
The decimal number with the given unit in the last place that is nearest to `x` among those that
read back as `x`, if there is one.
-/
def onGrid? (x : Binary64) (unit : Int) : Option Nat :=
  let (low, mid, high, den) := x.roundingInterval
  let closed := x.significand % 2 == 0
  let (num, scaled) := inUnits unit mid den
  let q := num / scaled
  let inside (n : Nat) : Bool :=
    let (lowNum, _) := inUnits unit low den
    let (highNum, _) := inUnits unit high den
    if closed then lowNum ≤ n * scaled && n * scaled ≤ highNum
    else lowNum < n * scaled && n * scaled < highNum
  let lower := if q != 0 && inside q then some q else none
  let upper := if inside (q + 1) then some (q + 1) else none
  match lower, upper with
  | some a, some b =>
    let r := 2 * (num % scaled)
    if r < scaled || (r == scaled && a % 2 == 0) then some a else some b
  | some a, none => some a
  | none, b => b

/--
The fewest digits that read back as a positive finite number, and the nearest of those. Seventeen
digits always suffice.
-/
def shortest (x : Binary64) : Scientific :=
  let (num, den) := x.ratio
  let top := decimalExponent num den
  go x top 17 0
where
  go (x : Binary64) (top : Int) : Nat → Nat → Scientific
    | 0, _ => ⟨['0'], 0⟩
    | fuel + 1, places =>
      let unit := top - places
      match onGrid? x unit with
      | some n => Scientific.ofScaled n unit
      | none => go x top fuel (places + 1)

def rounded (count : Nat) (x : Binary64) : Scientific :=
  let (num, den) := x.ratio
  let unit := decimalExponent num den - (count - 1 : Nat)
  let (scaledNum, scaledDen) := inUnits unit num den
  Scientific.ofScaled (roundDiv scaledNum scaledDen) unit

def textWith (zeroText : List Char) (write : Binary64 → List Char) (x : Binary64) : String :=
  if x.isNaN then "nan"
  else
    let body :=
      if x.isInfinite then "inf".toList else if x.isZero then zeroText else write x
    String.ofList (if x.negative then '-' :: body else body)

/--
The shortest text that reads back: positional from `10 ^ -4` up to `10 ^ 16`, with a fraction of
zero for whole numbers.
-/
def toText (x : Binary64) : String :=
  textWith ['0', '.', '0'] (fun x =>
    let s := x.shortest
    if -4 ≤ s.exponent && s.exponent < 16 then s.positional ['.', '0'] else s.exponential) x

theorem toText_of_not_finite {x : Binary64} (h : x.isFinite = false) :
    x.toText ∈ ["nan", "inf", "-inf"] := by
  unfold toText textWith
  split
  · decide
  · next hnan =>
    have hinfinite : x.isInfinite = true := by
      unfold isNaN at hnan
      unfold isFinite at h
      unfold isInfinite
      simp at *
      omega
    rw [hinfinite, if_pos rfl]
    cases x.negative with
    | false => decide
    | true => decide

/--
The text with six significant digits at most: positional from `10 ^ -4` up to `10 ^ 6`, and without
a fraction of zero.
-/
def toGeneralText (x : Binary64) : String :=
  textWith ['0'] (fun x =>
    let s := x.rounded 6
    if -4 ≤ s.exponent && s.exponent < 6 then s.positional [] else s.exponential) x

end Binary64

end Playback
