import Mathlib.Algebra.Order.Field.Basic
import Mathlib.Algebra.Order.Field.Rat
import Mathlib.Tactic.Linarith
import Mathlib.Tactic.Ring
import Playback.Number.Basic

/-!
This module contains the order of rounded numbers: rounding never turns two numbers around. Magnitudes are
measured in units of `2 ^ -1074`, the smallest positive number there is, so that they are natural numbers.
-/

namespace Playback

namespace Binary64

theorem pow2_eq (n : Nat) : pow2 n = 2 ^ n := rfl

theorem pow2_pos (n : Nat) : 0 < pow2 n := Nat.two_pow_pos n

theorem pow2_le_pow2 {m n : Nat} (h : m ≤ n) : pow2 m ≤ pow2 n := Nat.pow_le_pow_right (by decide) h

theorem pow2_lt_pow2 {m n : Nat} (h : m < n) : pow2 m < pow2 n := Nat.pow_lt_pow_right (by decide) h

theorem pow2_succ (n : Nat) : pow2 (n + 1) = 2 * pow2 n := Nat.pow_succ'

theorem pow2_add (m n : Nat) : pow2 (m + n) = pow2 m * pow2 n := Nat.pow_add 2 m n

/--
Whether a natural number is nearest to a quotient, and even if another one is as near.
-/
structure Nearest (q num den : Nat) : Prop where
  below : 2 * num ≤ 2 * (q * den) + den
  above : 2 * (q * den) ≤ 2 * num + den
  even : 2 * num = 2 * (q * den) + den ∨ 2 * (q * den) = 2 * num + den → q % 2 = 0

theorem nearest_roundDiv (num : Nat) {den : Nat} (hden : 0 < den) :
    Nearest (roundDiv num den) num den := by
  have hmod := Nat.mod_lt num hden
  have hdiv := Nat.div_add_mod num den
  rw [Nat.mul_comm] at hdiv
  unfold roundDiv
  dsimp only
  generalize num / den = q at hdiv ⊢
  generalize num % den = r at hdiv hmod ⊢
  split
  · next h =>
    simp only [gt_iff_lt, Bool.or_eq_true, Bool.and_eq_true, decide_eq_true_eq, beq_iff_eq] at h
    constructor
    · rw [Nat.add_mul]
      omega
    · rw [Nat.add_mul]
      omega
    · rw [Nat.add_mul]
      omega
  · next h =>
    simp only [gt_iff_lt, Bool.or_eq_true, Bool.and_eq_true, decide_eq_true_eq, beq_iff_eq] at h
    constructor
    · omega
    · omega
    · omega

namespace Nearest

variable {q num den q' num' den' : Nat}

theorem mono (h : Nearest q num den) (h' : Nearest q' num' den') (hden : 0 < den) (hden' : 0 < den')
    (hle : num * den' ≤ num' * den) : q ≤ q' := by
  by_contra hlt
  have hproduct : (q' + 1) * (den * den') ≤ q * (den * den') := Nat.mul_le_mul_right _ (by omega)
  have habove : 2 * (q * den) * den' ≤ (2 * num + den) * den' := Nat.mul_le_mul_right _ h.above
  have hbelow : 2 * num' * den ≤ (2 * (q' * den') + den') * den := Nat.mul_le_mul_right _ h'.below
  -- Between the two quotients there is room for both halves only if they are the same half.
  have htie : 2 * (q * den) * den' = (2 * num + den) * den' := by nlinarith
  have htie' : 2 * num' * den = (2 * (q' * den') + den') * den := by nlinarith
  have heven : q % 2 = 0 := h.even (.inr (Nat.eq_of_mul_eq_mul_right hden' htie))
  have heven' : q' % 2 = 0 := h'.even (.inl (Nat.eq_of_mul_eq_mul_right hden htie'))
  have hsucc : q * (den * den') = (q' + 1) * (den * den') := by nlinarith
  have heq : q = q' + 1 := Nat.eq_of_mul_eq_mul_right (Nat.mul_pos hden hden') hsucc
  omega

theorem eq (h : Nearest q num den) (h' : Nearest q' num den) (hden : 0 < den) : q = q' :=
  Nat.le_antisymm (h.mono h' hden hden (Nat.le_refl _)) (h'.mono h hden hden (Nat.le_refl _))

theorem mul_right (h : Nearest q num den) {c : Nat} (hc : 0 < c) : Nearest q (num * c) (den * c) where
  below := by
    have := Nat.mul_le_mul_right c h.below
    linarith
  above := by
    have := Nat.mul_le_mul_right c h.above
    linarith
  even := by
    rintro (heq | heq)
    · refine h.even (.inl (Nat.eq_of_mul_eq_mul_right hc ?_))
      linarith
    · refine h.even (.inr (Nat.eq_of_mul_eq_mul_right hc ?_))
      linarith

theorem whole (n : Nat) (hden : 0 < den) : Nearest n (n * den) den where
  below := by omega
  above := by omega
  even := by omega

end Nearest

theorem lt_scale {a b c d num den : Nat} (h : num * 2 ^ a < den * 2 ^ b) (hle : b + c ≤ d + a) :
    num * pow2 c < den * 2 ^ d := by
  rw [pow2_eq]
  have hpow : 2 ^ (b + c) ≤ 2 ^ (d + a) := Nat.pow_le_pow_right (by decide) hle
  suffices hscaled : num * 2 ^ c * 2 ^ a < den * 2 ^ d * 2 ^ a from Nat.lt_of_mul_lt_mul_right hscaled
  calc
    num * 2 ^ c * 2 ^ a = num * 2 ^ a * 2 ^ c := by ring
    _ < den * 2 ^ b * 2 ^ c := Nat.mul_lt_mul_of_pos_right h (Nat.two_pow_pos c)
    _ = den * 2 ^ (b + c) := by ring
    _ ≤ den * 2 ^ (d + a) := Nat.mul_le_mul_left den hpow
    _ = den * 2 ^ d * 2 ^ a := by ring

theorem le_scale {a b c d num den : Nat} (h : den * 2 ^ b ≤ num * 2 ^ a) (hle : d + a ≤ b + c) :
    den * 2 ^ d ≤ num * pow2 c := by
  rw [pow2_eq]
  have hpow : 2 ^ (d + a) ≤ 2 ^ (b + c) := Nat.pow_le_pow_right (by decide) hle
  have hpos : 0 < 2 ^ a := Nat.two_pow_pos a
  refine Nat.le_of_mul_le_mul_right ?_ hpos
  calc
    den * 2 ^ d * 2 ^ a = den * 2 ^ (d + a) := by ring
    _ ≤ den * 2 ^ (b + c) := Nat.mul_le_mul_left den hpow
    _ = den * 2 ^ b * 2 ^ c := by ring
    _ ≤ num * 2 ^ a * 2 ^ c := Nat.mul_le_mul_right _ h
    _ = num * 2 ^ c * 2 ^ a := by ring

theorem unitExponent_eq (num den : Nat) :
    let e : Int := (num.log2 : Int) - den.log2 - 52
    unitExponent num den
      =
    max (if den * 2 ^ (e.toNat + 52) ≤ num * 2 ^ (-e).toNat then e else e - 1) (-1074) := by
  unfold unitExponent
  dsimp only
  generalize (num.log2 : Int) - den.log2 - 52 = e
  by_cases he : 0 ≤ e
  · have hzero : (-e).toNat = 0 := by omega
    simp only [he, if_true, pow2_eq, hzero, Nat.pow_add, Nat.pow_zero, Nat.mul_one, Nat.mul_assoc]
  · have hzero : e.toNat = 0 := by omega
    simp only [he, if_false, pow2_eq, hzero, Nat.zero_add]

/--
The exponent of the unit in the last place of a quotient, counted from that of the smallest number.
-/
def unitPlace (num den : Nat) : Nat :=
  (unitExponent num den + 1074).toNat

def unitCount (num den : Nat) : Nat :=
  roundDiv (num * pow2 1074) (den * pow2 (unitPlace num den))

def units (num den : Nat) : Nat :=
  unitCount num den * pow2 (unitPlace num den)

section Quotient

variable {num den : Nat} (hnum : 0 < num) (hden : 0 < den)
include hnum hden

/-
The unit exponent is chosen such that the significand has as many bits as there is room for.
-/
theorem unitPlace_spec :
    num * pow2 1074 < den * 2 ^ (53 + unitPlace num den)
      ∧ (unitPlace num den = 0 ∨ den * 2 ^ (52 + unitPlace num den) ≤ num * pow2 1074) := by
  have hnumLog := Nat.log2_self_le (Nat.ne_of_gt hnum)
  have hnumLog' : num < 2 ^ (num.log2 + 1) := Nat.lt_log2_self
  have hdenLog := Nat.log2_self_le (Nat.ne_of_gt hden)
  have hdenLog' : den < 2 ^ (den.log2 + 1) := Nat.lt_log2_self
  -- Each logarithm is exact up to a factor of two, which bounds the quotient from both sides.
  have hupper : num * 2 ^ den.log2 < den * 2 ^ (num.log2 + 1) := by
    calc
      num * 2 ^ den.log2 < 2 ^ (num.log2 + 1) * 2 ^ den.log2 :=
        Nat.mul_lt_mul_of_pos_right hnumLog' (Nat.two_pow_pos _)
      _ ≤ 2 ^ (num.log2 + 1) * den := Nat.mul_le_mul_left _ hdenLog
      _ = den * 2 ^ (num.log2 + 1) := Nat.mul_comm ..
  have hlower : den * 2 ^ num.log2 ≤ num * 2 ^ (den.log2 + 1) := by
    calc
      den * 2 ^ num.log2 ≤ 2 ^ (den.log2 + 1) * num := Nat.mul_le_mul (Nat.le_of_lt hdenLog') hnumLog
      _ = num * 2 ^ (den.log2 + 1) := Nat.mul_comm ..
  unfold unitPlace
  rw [unitExponent_eq]
  generalize num.log2 = n at hupper hlower ⊢
  generalize den.log2 = d at hupper hlower ⊢
  split
  · next h =>
    refine ⟨lt_scale hupper (by omega), ?_⟩
    by_cases hsmall : (n : Int) - d - 52 ≤ -1074
    · left
      omega
    · right
      exact le_scale h (by omega)
  · next h =>
    rw [Nat.not_le] at h
    refine ⟨lt_scale h (by omega), ?_⟩
    by_cases hsmall : (n : Int) - d - 52 - 1 ≤ -1074
    · left
      omega
    · right
      exact le_scale hlower (by omega)

theorem unitCount_le : unitCount num den ≤ 2 ^ 53 := by
  have hpos : 0 < den * pow2 (unitPlace num den) := Nat.mul_pos hden (pow2_pos _)
  refine (nearest_roundDiv _ hpos).mono (.whole _ hpos) hpos hpos (Nat.mul_le_mul_right _ ?_)
  calc
    num * pow2 1074 ≤ den * 2 ^ (53 + unitPlace num den) := Nat.le_of_lt (unitPlace_spec hnum hden).1
    _ = 2 ^ 53 * (den * 2 ^ unitPlace num den) := by ring

theorem le_unitCount (hplace : unitPlace num den ≠ 0) : 2 ^ 52 ≤ unitCount num den := by
  have hpos : 0 < den * pow2 (unitPlace num den) := Nat.mul_pos hden (pow2_pos _)
  refine Nearest.mono (.whole _ hpos) (nearest_roundDiv _ hpos) hpos hpos (Nat.mul_le_mul_right _ ?_)
  calc
    2 ^ 52 * (den * 2 ^ unitPlace num den) = den * 2 ^ (52 + unitPlace num den) := by ring
    _ ≤ num * pow2 1074 := (unitPlace_spec hnum hden).2.resolve_left hplace

omit hnum in
theorem roundDiv_eq_unitCount :
    (if 0 ≤ unitExponent num den then roundDiv num (den * pow2 (unitExponent num den).toNat)
      else roundDiv (num * pow2 (-unitExponent num den).toNat) den)
      =
    unitCount num den := by
  have hmin : -1074 ≤ unitExponent num den := by
    rw [unitExponent_eq]
    exact Int.le_max_right ..
  have hpos : 0 < den * pow2 (unitPlace num den) := Nat.mul_pos hden (pow2_pos _)
  split
  · next h =>
    have hplace : unitPlace num den = (unitExponent num den).toNat + 1074 := by
      unfold unitPlace
      omega
    refine Nearest.eq ?_ (nearest_roundDiv _ hpos) hpos
    rw [hplace, pow2_add, ← Nat.mul_assoc]
    exact (nearest_roundDiv num (Nat.mul_pos hden (pow2_pos _))).mul_right (pow2_pos 1074)
  · next h =>
    have hplace : 1074 = (-unitExponent num den).toNat + unitPlace num den := by
      unfold unitPlace
      omega
    have hscaled := (nearest_roundDiv (num * pow2 (-unitExponent num den).toNat) hden).mul_right
      (pow2_pos (unitPlace num den))
    rw [Nat.mul_assoc, ← pow2_add, ← hplace] at hscaled
    exact hscaled.eq (nearest_roundDiv _ hpos) hpos

theorem ofRatio_eq :
    ofRatio false num den
      =
    ofUnsigned false (min (unitPlace num den * pow2 52 + unitCount num den) infinityBits) := by
  unfold ofRatio
  have hnone : ¬ (num == 0 || den == 0) = true := by
    simp
    omega
  rw [if_neg hnone]
  dsimp only
  rw [roundDiv_eq_unitCount hden]
  rfl

end Quotient

section Order

variable {num den num' den' : Nat} (hnum : 0 < num) (hden : 0 < den) (hnum' : 0 < num')
  (hden' : 0 < den') (hle : num * den' ≤ num' * den)
include hnum hden hnum' hden' hle

theorem unitPlace_mono : unitPlace num den ≤ unitPlace num' den' := by
  by_contra hlt
  have hlower := (unitPlace_spec hnum hden).2.resolve_left (by omega)
  have hupper := (unitPlace_spec hnum' hden').1
  have hpow : 2 ^ (53 + unitPlace num' den') ≤ 2 ^ (52 + unitPlace num den) :=
    Nat.pow_le_pow_right (by decide) (by omega)
  have hbelow : num * pow2 1074 * den' < den * 2 ^ (52 + unitPlace num den) * den' := by
    calc
      num * pow2 1074 * den' = num * den' * pow2 1074 := by ring
      _ ≤ num' * den * pow2 1074 := Nat.mul_le_mul_right _ hle
      _ = num' * pow2 1074 * den := by ring
      _ < den' * 2 ^ (53 + unitPlace num' den') * den := Nat.mul_lt_mul_of_pos_right hupper hden
      _ ≤ den' * 2 ^ (52 + unitPlace num den) * den := by gcongr
      _ = den * 2 ^ (52 + unitPlace num den) * den' := by ring
  exact absurd (Nat.mul_le_mul_right den' hlower) (Nat.not_le.mpr hbelow)

theorem units_mono : units num den ≤ units num' den' := by
  unfold units
  rcases Nat.lt_or_eq_of_le (unitPlace_mono hnum hden hnum' hden' hle) with hlt | heq
  · -- A full count of the smaller unit is as much as the least count of the next one.
    calc
      unitCount num den * pow2 (unitPlace num den) ≤ 2 ^ 53 * pow2 (unitPlace num den) :=
        Nat.mul_le_mul_right _ (unitCount_le hnum hden)
      _ = 2 ^ 52 * pow2 (unitPlace num den + 1) := by
        rw [pow2_succ]
        ring
      _ ≤ 2 ^ 52 * pow2 (unitPlace num' den') := Nat.mul_le_mul_left _ (pow2_le_pow2 hlt)
      _ ≤ unitCount num' den' * pow2 (unitPlace num' den') :=
        Nat.mul_le_mul_right _ (le_unitCount hnum' hden' (by omega))
  · rw [heq]
    refine Nat.mul_le_mul_right _ ?_
    have hpos : 0 < den * pow2 (unitPlace num den) := Nat.mul_pos hden (pow2_pos _)
    have hpos' : 0 < den' * pow2 (unitPlace num' den') := Nat.mul_pos hden' (pow2_pos _)
    refine (nearest_roundDiv _ hpos).mono (nearest_roundDiv _ hpos') hpos hpos' ?_
    rw [heq]
    calc
      num * pow2 1074 * (den' * pow2 (unitPlace num' den'))
          = num * den' * (pow2 1074 * pow2 (unitPlace num' den')) := by ring
      _ ≤ num' * den * (pow2 1074 * pow2 (unitPlace num' den')) := Nat.mul_le_mul_right _ hle
      _ = num' * pow2 1074 * (den * pow2 (unitPlace num' den')) := by ring

end Order

/-
How a pattern of bits is read. A count of `2 ^ 53` units has been carried into the exponent.
-/
section Bits

theorem unsigned_ofUnsigned {n : Nat} (h : n ≤ infinityBits) : (ofUnsigned false n).unsigned = n := by
  have hinfinity : infinityBits < 2 ^ 63 := by decide
  unfold unsigned ofUnsigned pow2
  simp
  omega

theorem negative_ofUnsigned {n : Nat} (h : n ≤ infinityBits) : (ofUnsigned false n).negative = false := by
  have hinfinity : infinityBits < 2 ^ 63 := by decide
  unfold negative ofUnsigned pow2
  simp
  omega

theorem exponent_ge (x : Binary64) : -1074 ≤ x.exponent := by
  unfold exponent
  split
  · omega
  · next h =>
    have : 0 < x.unsigned / pow2 52 := Nat.div_pos (by omega) (pow2_pos _)
    omega

theorem ratio_spec (x : Binary64) :
    0 < x.ratio.2
      ∧ x.ratio.1 * pow2 1074 = x.significand * pow2 (x.exponent + 1074).toNat * x.ratio.2 := by
  have hge := x.exponent_ge
  unfold ratio
  split
  · have hplace : (x.exponent + 1074).toNat = x.exponent.toNat + 1074 := by omega
    rw [hplace, pow2_add, Nat.mul_one, Nat.mul_assoc]
    exact ⟨Nat.one_pos, rfl⟩
  · have hplace : 1074 = (x.exponent + 1074).toNat + (-x.exponent).toNat := by omega
    rw [Nat.mul_assoc, ← pow2_add, ← hplace]
    exact ⟨pow2_pos _, rfl⟩

def ofUnits (n : Nat) : Rat :=
  (n : Rat) / (pow2 1074 : Nat)

theorem toRat?_ofUnsigned {n : Nat} (h : n < infinityBits) :
    (ofUnsigned false n).toRat?
      =
    some (ofUnits ((ofUnsigned false n).significand
      * pow2 ((ofUnsigned false n).exponent + 1074).toNat)) := by
  have hfinite : (ofUnsigned false n).isFinite = true := by
    unfold isFinite
    rw [unsigned_ofUnsigned (Nat.le_of_lt h), decide_eq_true_eq]
    exact h
  have hratio := (ofUnsigned false n).ratio_spec
  unfold toRat? ofUnits
  rw [if_pos hfinite, negative_ofUnsigned (Nat.le_of_lt h)]
  generalize (ofUnsigned false n).ratio = ratio at hratio
  rcases ratio with ⟨num, den⟩
  have hden : (den : Rat) ≠ 0 := Nat.cast_ne_zero.mpr (Nat.ne_of_gt hratio.1)
  have hone : ((pow2 1074 : Nat) : Rat) ≠ 0 := Nat.cast_ne_zero.mpr (Nat.ne_of_gt (pow2_pos _))
  simp only [Bool.false_eq_true, if_false, Rat.mkRat_eq_div]
  rw [Option.some_inj, Int.cast_natCast, div_eq_div_iff hden hone]
  exact_mod_cast hratio.2

variable {place count : Nat}

theorem significand_exponent_ofUnsigned (hcount : count ≤ 2 ^ 53) (hnormal : place ≠ 0 → 2 ^ 52 ≤ count)
    (h : place * pow2 52 + count < infinityBits) :
    let x := ofUnsigned false (place * pow2 52 + count)
    x.significand * pow2 (x.exponent + 1074).toNat = count * pow2 place := by
  intro x
  have hunsigned : x.unsigned = place * pow2 52 + count := unsigned_ofUnsigned (Nat.le_of_lt h)
  have hpow : pow2 52 = 2 ^ 52 := rfl
  unfold significand exponent
  rw [hunsigned]
  by_cases hsub : count < 2 ^ 52
  · obtain rfl : place = 0 := by
      by_contra hplace
      have := hnormal hplace
      omega
    have hsmall : 0 * pow2 52 + count < pow2 52 := by omega
    rw [if_pos hsmall, if_pos hsmall]
    simp [pow2_eq]
  · have hlarge : ¬ place * pow2 52 + count < pow2 52 := by omega
    rw [if_neg hlarge, if_neg hlarge, hpow]
    by_cases hcarry : count = 2 ^ 53
    · -- A full count is carried into the exponent, and no fraction is left.
      have hdiv : (place * 2 ^ 52 + count) / 2 ^ 52 = place + 2 := by omega
      have hmod : (place * 2 ^ 52 + count) % 2 ^ 52 = 0 := by omega
      have hplace : (((place + 2 : Nat) : Int) - 1075 + 1074).toNat = place + 1 := by omega
      rw [hdiv, hmod, hplace, hcarry, pow2_succ]
      ring
    · have hdiv : (place * 2 ^ 52 + count) / 2 ^ 52 = place + 1 := by omega
      have hmod : 2 ^ 52 + (place * 2 ^ 52 + count) % 2 ^ 52 = count := by omega
      have hplace : (((place + 1 : Nat) : Int) - 1075 + 1074).toNat = place := by omega
      rw [hdiv, hmod, hplace]

/--
The magnitude that has no number any more, `2 ^ 1024`.
-/
def overflow : Nat := pow2 2098

theorem overflow_eq (hplace : place = 2045) : overflow = 2 ^ 53 * pow2 place := by
  have hpow : pow2 53 = 2 ^ 53 := rfl
  rw [hplace, ← hpow, ← pow2_add]
  rfl

theorem lt_overflow (hplace : place < 2045) (hcount : count ≤ 2 ^ 53) : count * pow2 place < overflow := by
  calc
    count * pow2 place ≤ pow2 53 * pow2 place := Nat.mul_le_mul_right _ hcount
    _ = pow2 (53 + place) := (pow2_add 53 place).symm
    _ < pow2 2098 := pow2_lt_pow2 (by omega)

theorem overflow_le (hplace : 2045 < place) : overflow ≤ pow2 (52 + place) :=
  pow2_le_pow2 (by omega)

theorem finite_iff (hcount : count ≤ 2 ^ 53) (hnormal : place ≠ 0 → 2 ^ 52 ≤ count) :
    place * pow2 52 + count < infinityBits ↔ count * pow2 place < overflow := by
  have hinfinity : infinityBits = 2047 * 2 ^ 52 := rfl
  have hpow : pow2 52 = 2 ^ 52 := rfl
  rw [hinfinity, hpow]
  rcases Nat.lt_trichotomy place 2045 with hlt | heq | hgt
  · have hbelow := lt_overflow hlt hcount
    omega
  · rw [overflow_eq heq, Nat.mul_lt_mul_right (pow2_pos _)]
    omega
  · have hlarge := hnormal (by omega)
    have habove : overflow ≤ count * pow2 place := by
      calc
        overflow ≤ pow2 (52 + place) := overflow_le hgt
        _ = pow2 52 * pow2 place := pow2_add 52 place
        _ ≤ count * pow2 place := Nat.mul_le_mul_right _ hlarge
    omega

theorem toRat?_infinity : (ofUnsigned false infinityBits).toRat? = none := rfl

end Bits

theorem toRat?_ofRatio {num den : Nat} (hnum : 0 < num) (hden : 0 < den) :
    (ofRatio false num den).toRat?
      =
    if units num den < overflow then some (ofUnits (units num den)) else none := by
  unfold units
  have hcount := unitCount_le hnum hden
  have hnormal := fun h => le_unitCount hnum hden h
  rw [ofRatio_eq hnum hden]
  split
  · next h =>
    have hfinite := (finite_iff hcount hnormal).mpr h
    rw [Nat.min_eq_left (Nat.le_of_lt hfinite), toRat?_ofUnsigned hfinite,
      significand_exponent_ofUnsigned hcount hnormal hfinite]
  · next h =>
    have hinfinite := mt (finite_iff hcount hnormal).mp h
    rw [Nat.min_eq_right (Nat.not_lt.mp hinfinite), toRat?_infinity]

/-
A quotient that is rounded beyond all numbers is itself not smaller than any of them.
-/
theorem le_of_overflow {num den place count : Nat} (hnum : 0 < num) (hden : 0 < den)
    (hplace : place ≤ unitPlace num den) (hcount : count ≤ 2 ^ 53)
    (hfinite : count * pow2 place < overflow) (hover : overflow ≤ units num den) :
    count * pow2 place * den ≤ num * pow2 1074 := by
  have hcount' := unitCount_le hnum hden
  unfold units at hover
  -- Only with the largest unit is there a quotient that is rounded up to the overflow.
  rcases Nat.lt_trichotomy (unitPlace num den) 2045 with hlt | heq | hgt
  · exact absurd (lt_overflow hlt hcount') (Nat.not_lt.mpr hover)
  · rw [overflow_eq heq] at hover hfinite
    have hfull : 2 ^ 53 ≤ unitCount num den := Nat.le_of_mul_le_mul_right hover (pow2_pos _)
    have hpos : 0 < den * pow2 (unitPlace num den) := Nat.mul_pos hden (pow2_pos _)
    have habove : 2 * (unitCount num den * (den * pow2 (unitPlace num den)))
        ≤ 2 * (num * pow2 1074) + den * pow2 (unitPlace num den) := (nearest_roundDiv _ hpos).above
    -- A number below the overflow is half a unit away from it at least.
    have hhalf : 2 * (count * pow2 place) ≤ (2 ^ 54 - 1) * pow2 (unitPlace num den) := by
      rcases Nat.lt_or_eq_of_le hplace with hbelow | hsame
      · calc
          2 * (count * pow2 place) = count * pow2 (place + 1) := by
            rw [pow2_succ]
            ring
          _ ≤ (2 ^ 54 - 1) * pow2 (unitPlace num den) :=
            Nat.mul_le_mul (by omega) (pow2_le_pow2 hbelow)
      · rw [hsame] at hfinite ⊢
        have hlt : count < 2 ^ 53 := Nat.lt_of_mul_lt_mul_right hfinite
        rw [← Nat.mul_assoc]
        exact Nat.mul_le_mul_right _ (by omega)
    have hscaled := Nat.mul_le_mul_right den hhalf
    have hcounted := Nat.mul_le_mul_right (den * pow2 (unitPlace num den)) hfull
    have hcomm : (2 ^ 54 - 1) * pow2 (unitPlace num den) * den
        = (2 ^ 54 - 1) * (den * pow2 (unitPlace num den)) := by ring
    rw [hcomm, Nat.mul_assoc] at hscaled
    omega
  · have hlower := (unitPlace_spec hnum hden).2.resolve_left (by omega)
    calc
      count * pow2 place * den ≤ pow2 (52 + unitPlace num den) * den :=
        Nat.mul_le_mul_right _ (Nat.le_of_lt (Nat.lt_of_lt_of_le hfinite (overflow_le hgt)))
      _ = den * pow2 (52 + unitPlace num den) := Nat.mul_comm ..
      _ ≤ num * pow2 1074 := hlower

end Binary64

section Sum

open Binary64

theorem ofUnits_nonneg (n : Nat) : 0 ≤ ofUnits n :=
  div_nonneg (Nat.cast_nonneg _) (Nat.cast_nonneg _)

theorem ofUnits_le_ofUnits {m n : Nat} (h : m ≤ n) : ofUnits m ≤ ofUnits n :=
  div_le_div_of_nonneg_right (Nat.cast_le.mpr h) (Nat.cast_nonneg _)

theorem ofUnits_le {n : Nat} {q : Rat} (hq : 0 < q) (h : n * q.den ≤ q.num.natAbs * pow2 1074) :
    ofUnits n ≤ q := by
  have hunit : (0 : Rat) < (pow2 1074 : Nat) := Nat.cast_pos.mpr (pow2_pos _)
  have hden : (0 : Rat) < q.den := Nat.cast_pos.mpr q.den_pos
  have hnum : ((q.num.natAbs : Nat) : Rat) = q * q.den := by
    rw [Rat.mul_den_eq_num, Nat.cast_natAbs, abs_of_pos (Rat.num_pos.mpr hq)]
  have hcast : (n : Rat) * q.den ≤ q.num.natAbs * (pow2 1074 : Nat) := by exact_mod_cast h
  rw [hnum] at hcast
  unfold ofUnits
  rw [div_le_iff₀ hunit]
  refine le_of_mul_le_mul_right ?_ hden
  calc
    (n : Rat) * q.den ≤ q * q.den * (pow2 1074 : Nat) := hcast
    _ = q * (pow2 1074 : Nat) * q.den := by ring

theorem toRat?_ofRat {q : Rat} (hq : 0 < q) :
    (ofRat q).toRat?
      =
    if units q.num.natAbs q.den < overflow then some (ofUnits (units q.num.natAbs q.den)) else none := by
  have hnum : 0 < q.num := Rat.num_pos.mpr hq
  have hsign : decide (q.num < 0) = false := decide_eq_false (by omega)
  unfold ofRat
  rw [hsign]
  exact toRat?_ofRatio (by omega) q.den_pos

/--
A positive number rounded as a sum is. One that is rounded beyond all numbers stays exact.
-/
theorem floatSum_eq {a b : Rat} (h : 0 < a + b) :
    floatSum a b
      =
    if units (a + b).num.natAbs (a + b).den < overflow then
      ofUnits (units (a + b).num.natAbs (a + b).den)
    else a + b := by
  unfold floatSum
  rw [toRat?_ofRat h]
  split
  · rfl
  · rfl

theorem floatSum_of_zero {a b : Rat} (h : a + b = 0) : floatSum a b = 0 := by
  have hpattern : ofRat 0 = ofUnsigned false 0 := rfl
  have hsignificand : (ofUnsigned false 0).significand = 0 := rfl
  unfold floatSum
  rw [h, hpattern, toRat?_ofUnsigned (by decide), hsignificand, Nat.zero_mul, ofUnits, Nat.cast_zero,
    zero_div, Option.getD_some]

theorem floatSum_nonneg {a b : Rat} (h : 0 ≤ a + b) : 0 ≤ floatSum a b := by
  rcases eq_or_lt_of_le h with hzero | hpos
  · rw [floatSum_of_zero hzero.symm]
  · rw [floatSum_eq hpos]
    split
    · exact ofUnits_nonneg _
    · exact h

theorem floatSum_mono {a b c d : Rat} (h : 0 ≤ a + b) (hle : a + b ≤ c + d) :
    floatSum a b ≤ floatSum c d := by
  rcases eq_or_lt_of_le h with hzero | hpos
  · rw [floatSum_of_zero hzero.symm]
    exact floatSum_nonneg (h.trans hle)
  · have hpos' : 0 < c + d := lt_of_lt_of_le hpos hle
    rw [floatSum_eq hpos, floatSum_eq hpos']
    generalize a + b = p at hpos hle ⊢
    generalize c + d = q at hpos' hle ⊢
    have hnum : 0 < p.num := Rat.num_pos.mpr hpos
    have hnum' : 0 < q.num := Rat.num_pos.mpr hpos'
    have hcross : p.num.natAbs * q.den ≤ q.num.natAbs * p.den := by
      rw [Rat.le_iff] at hle
      zify
      rwa [abs_of_pos hnum, abs_of_pos hnum']
    have hunits := units_mono (by omega) p.den_pos (by omega) q.den_pos hcross
    split
    · next hfinite =>
      split
      · exact ofUnits_le_ofUnits hunits
      · next hinfinite =>
        -- The greater sum is exact, and it is not smaller than any number.
        refine ofUnits_le hpos' (le_of_overflow (by omega) q.den_pos ?_ ?_ hfinite (Nat.not_lt.mp hinfinite))
        · exact unitPlace_mono (by omega) p.den_pos (by omega) q.den_pos hcross
        · exact unitCount_le (by omega) p.den_pos
    · next hinfinite =>
      rw [if_neg]
      · exact hle
      · omega

end Sum

theorem Number.isExceededBy_mono {n : Number} {p q : Rat} (hle : p ≤ q)
    (h : n.isExceededBy p = true) : n.isExceededBy q = true := by
  cases n with
  | whole n =>
    rw [isExceededBy, decide_eq_true_eq] at h ⊢
    exact lt_of_lt_of_le h hle
  | float x =>
    rw [isExceededBy] at h ⊢
    cases hvalue : x.toRat? with
    | none =>
      rw [hvalue] at h
      exact h
    | some r =>
      rw [hvalue, decide_eq_true_eq] at h
      rw [decide_eq_true_eq]
      exact lt_of_lt_of_le h hle

end Playback
