import Playback.Json.Reader
import Playback.Json.Writer
import Playback.Proofs.Trace.Parse

/-!
This module contains the proof that a text is read again from the form in which it is written between
quotes, unit by unit.
-/

namespace Playback.Json

open Text Reader

theorem ok_congr_position {α : Type} {a : α} {rest : List Char} {p q : Nat} (h : p = q) :
    (Except.ok (a, ⟨p, rest⟩) : Except ReadFault (α × Cursor)) = .ok (a, ⟨q, rest⟩) := by
  rw [h]

theorem hexPadded_succ {width : Nat} (hwidth : 0 < width) (n : Nat) :
    hexPadded (width + 1) n = hexPadded width (n / 16) ++ [(n % 16).digitChar] := by
  unfold hexPadded
  dsimp only
  by_cases h : n < 16
  · rw [Nat.toDigits_of_lt_base h, Nat.div_eq_of_lt h, Nat.mod_eq_of_lt h, Nat.toDigits_zero]
    obtain ⟨k, rfl⟩ : ∃ k, width = k + 1 := ⟨width - 1, by omega⟩
    simp [List.replicate_succ']
  · rw [Nat.toDigits_of_base_le (by decide) (by omega), List.length_append, List.length_singleton,
      Nat.add_sub_add_right, List.append_assoc]

theorem hexPadded_four {n : Nat} (h : n < 0x10000) :
    hexPadded 4 n
      =
    [(n / 4096).digitChar, (n / 256 % 16).digitChar, (n / 16 % 16).digitChar, (n % 16).digitChar] := by
  have hone : n / 16 / 16 / 16 < 16 := by omega
  rw [hexPadded_succ (by decide), hexPadded_succ (by decide), hexPadded_succ (by decide), hexPadded,
    Nat.toDigits_of_lt_base hone]
  simp [Nat.div_div_eq_div_mul]

theorem hexValue?_digitChar {d : Nat} (h : d < 16) : hexValue? d.digitChar = some d := by
  have hall : ∀ d < 16, hexValue? (Nat.digitChar d) = some d := by decide
  exact hall d h

theorem unit?_hexPadded {n : Nat} (h : n < 0x10000) {rest : List Char} (hrest : rest ≠ []) :
    unit? (hexPadded 4 n ++ rest) = some (n, rest) := by
  have hempty : rest.isEmpty = false := by simpa using hrest
  rw [hexPadded_four h]
  dsimp only [List.cons_append, List.nil_append, unit?]
  rw [hempty, hexValue?_digitChar (by omega), hexValue?_digitChar (by omega),
    hexValue?_digitChar (by omega), hexValue?_digitChar (by omega)]
  simp
  omega

theorem toNat_valid (c : Char) : c.toNat < 0xD800 ∨ 0xDFFF < c.toNat ∧ c.toNat < 0x110000 := c.valid

theorem unitChar_toNat (c : Char) : unitChar c.toNat = c := by
  have h := toNat_valid c
  have hnot : (isHighSurrogate c.toNat || isLowSurrogate c.toNat) = false := by
    unfold isHighSurrogate isLowSurrogate
    simp
    omega
  unfold unitChar
  rw [hnot, if_neg Bool.false_ne_true, Char.ofNat_toNat]

theorem isHighSurrogate_toNat (c : Char) : isHighSurrogate c.toNat = false := by
  have h := toNat_valid c
  unfold isHighSurrogate
  simp
  omega

theorem length_escapeUnit {n : Nat} (h : n < 0x10000) : (Writer.escapeUnit n).length = 6 := by
  unfold Writer.escapeUnit
  rw [hexPadded_four h]
  rfl

theorem stringBody_plain (opening fuel : Nat) (done : List Char) (position : Nat) {c : Char}
    (hquote : c ≠ '"') (hslash : c ≠ '\\') (hplain : ¬ c.toNat < 0x20) (rest : List Char) :
    stringBody opening (fuel + 1) done ⟨position, c :: rest⟩
      =
    stringBody opening fuel (c :: done) ⟨position + 1, rest⟩ := by
  rw [stringBody]
  split
  · next h => cases h
  · next h => exact absurd (List.cons.inj h).1 hquote
  · next h => exact absurd (List.cons.inj h).1 hslash
  · next h => exact absurd (List.cons.inj h).1 hslash
  · next h => exact absurd (List.cons.inj h).1 hslash
  · next h =>
    rw [← (List.cons.inj h).1, if_neg hplain]
    rfl

theorem stringBody_unit (opening fuel : Nat) (done : List Char) (position : Nat) {c : Char}
    (h : c.toNat < 0x10000) {rest : List Char} (hrest : rest ≠ []) :
    stringBody opening (fuel + 1) done ⟨position, Writer.escapeUnit c.toNat ++ rest⟩
      =
    stringBody opening fuel (c :: done) ⟨position + 6, rest⟩ := by
  have hadvance : Cursor.advance 6 ⟨position, Writer.escapeUnit c.toNat ++ rest⟩
      = ⟨position + 6, rest⟩ := by
    rw [Cursor.advance, List.drop_left' (length_escapeUnit h)]
  rw [stringBody, hadvance]
  unfold Writer.escapeUnit
  simp only [List.cons_append, unit?_hexPadded h hrest]
  rw [isHighSurrogate_toNat, Bool.false_and, if_neg Bool.false_ne_true, unitChar_toNat]

/-
The halves of a pair are put together only if something follows both of them.
-/
theorem stringBody_pair (opening fuel : Nat) (done : List Char) (position : Nat) {c : Char}
    (h : 0x10000 ≤ c.toNat) {rest : List Char} (hrest : rest ≠ []) :
    stringBody opening (fuel + 1) done
        ⟨position, Writer.escapeUnit (0xD800 + (c.toNat - 0x10000) / 0x400)
          ++ Writer.escapeUnit (0xDC00 + (c.toNat - 0x10000) % 0x400) ++ rest⟩
      =
    stringBody opening fuel (c :: done) ⟨position + 12, rest⟩ := by
  have hvalid := toNat_valid c
  obtain ⟨x, hx⟩ : ∃ x, c.toNat = 0x10000 + x := ⟨c.toNat - 0x10000, by omega⟩
  rw [hx, Nat.add_sub_cancel_left]
  have hhigh : 0xD800 + x / 0x400 < 0x10000 := by omega
  have hlow : 0xDC00 + x % 0x400 < 0x10000 := by omega
  have hadvance : Cursor.advance 12 ⟨position, Writer.escapeUnit (0xD800 + x / 0x400)
      ++ Writer.escapeUnit (0xDC00 + x % 0x400) ++ rest⟩ = ⟨position + 12, rest⟩ := by
    rw [Cursor.advance, List.drop_left']
    rw [List.length_append, length_escapeUnit hhigh, length_escapeUnit hlow]
  have hishigh : isHighSurrogate (0xD800 + x / 0x400) = true := by
    unfold isHighSurrogate
    simp
    omega
  have hislow : isLowSurrogate (0xDC00 + x % 0x400) = true := by
    unfold isLowSurrogate
    simp
    omega
  have hfollows : pairFollows (Writer.escapeUnit (0xDC00 + x % 0x400) ++ rest) = true := by
    obtain ⟨r, rest, rfl⟩ := List.exists_cons_of_ne_nil hrest
    unfold Writer.escapeUnit
    rw [hexPadded_four hlow]
    rfl
  -- Put together, the halves are the character again.
  have hchar : Char.ofNat (0x10000 + (0xD800 + x / 0x400 - 0xD800) * 0x400
      + (0xDC00 + x % 0x400 - 0xDC00)) = c := by
    have hsum : 0x10000 + (0xD800 + x / 0x400 - 0xD800) * 0x400 + (0xDC00 + x % 0x400 - 0xDC00)
        = c.toNat := by omega
    rw [hsum, Char.ofNat_toNat]
  have hunit : unit? (hexPadded 4 (0xD800 + x / 0x400)
      ++ (Writer.escapeUnit (0xDC00 + x % 0x400) ++ rest))
        = some (0xD800 + x / 0x400, Writer.escapeUnit (0xDC00 + x % 0x400) ++ rest) :=
    unit?_hexPadded hhigh (by simp [hrest])
  have hnext : unit? ((Writer.escapeUnit (0xDC00 + x % 0x400) ++ rest).drop 2)
      = some (0xDC00 + x % 0x400, rest) :=
    unit?_hexPadded hlow hrest
  rw [stringBody, hadvance, Writer.escapeUnit]
  simp only [List.cons_append, List.append_assoc, hunit, hnext]
  rw [hishigh, hfollows, hislow, Bool.true_and, if_pos rfl, if_pos rfl, hchar]

theorem stringBody_escape (opening fuel : Nat) (done : List Char) (position : Nat) (c : Char)
    {rest : List Char} (hrest : rest ≠ []) :
    stringBody opening (fuel + 1) done ⟨position, Writer.escape c ++ rest⟩
      =
    stringBody opening fuel (c :: done) ⟨position + (Writer.escape c).length, rest⟩ := by
  have hcontrol : ∀ n, (c.toNat == n) = true → c = Char.ofNat n := by
    intro n h
    rw [← eq_of_beq h, Char.ofNat_toNat]
  unfold Writer.escape
  split
  · next h =>
    rw [Bool.or_eq_true, beq_iff_eq, beq_iff_eq] at h
    rcases h with rfl | rfl
    · rfl
    · rfl
  split
  · next h =>
    rw [eq_of_beq h]
    rfl
  split
  · next h =>
    rw [eq_of_beq h]
    rfl
  split
  · next h =>
    rw [eq_of_beq h]
    rfl
  split
  · next h =>
    rw [hcontrol 8 h]
    rfl
  split
  · next h =>
    rw [hcontrol 12 h]
    rfl
  -- All that is left is printable or written by its units.
  split
  · next hquote _ _ _ _ _ hplain =>
    rw [Bool.or_eq_true, beq_iff_eq, beq_iff_eq, not_or] at hquote
    rw [Bool.and_eq_true, decide_eq_true_eq, decide_eq_true_eq] at hplain
    apply stringBody_plain opening fuel done position hquote.1 hquote.2
    omega
  split
  · next h =>
    rw [length_escapeUnit h]
    exact stringBody_unit opening fuel done position h hrest
  · next h =>
    have hvalid := toNat_valid c
    rw [List.length_append, length_escapeUnit (by omega), length_escapeUnit (by omega)]
    exact stringBody_pair opening fuel done position (by omega) hrest

theorem escape_ne_nil (c : Char) : Writer.escape c ≠ [] := by
  unfold Writer.escape
  iterate 8
    split
    · exact List.cons_ne_nil _ _
  apply List.append_ne_nil_of_left_ne_nil
  exact List.cons_ne_nil _ _

/--
What it is that characters are read again from a form that they have between quotes, with something
behind it.
-/
structure Escaping (escape : Char → List Char) : Prop where
  ne_nil : ∀ c, escape c ≠ []
  stringBody : ∀ (opening fuel : Nat) (done : List Char) (position : Nat) (c : Char) {rest : List Char},
    rest ≠ [] →
      stringBody opening (fuel + 1) done ⟨position, escape c ++ rest⟩
        =
      stringBody opening fuel (c :: done) ⟨position + (escape c).length, rest⟩

theorem escaping_escape : Escaping Writer.escape where
  ne_nil := escape_ne_nil
  stringBody := stringBody_escape

structure Quotes (quote : List Char) (s : String) : Prop where
  head : ∃ cs, quote = '"' :: cs
  string : ∀ position rest,
    Reader.string ⟨position, quote ++ rest⟩ = .ok (s, ⟨position + quote.length, rest⟩)

namespace Escaping

variable {escape : Char → List Char}

theorem stringBody_flatMap (h : Escaping escape) (opening fuel : Nat) (done : List Char) (position : Nat)
    (cs rest : List Char) (hfuel : cs.length < fuel) :
    Reader.stringBody opening fuel done ⟨position, cs.flatMap escape ++ '"' :: rest⟩
      =
    .ok (String.ofList (done.reverse ++ cs), ⟨position + (cs.flatMap escape).length + 1, rest⟩) := by
  induction cs generalizing fuel done position with
  | nil =>
    obtain ⟨fuel, rfl⟩ : ∃ k, fuel = k + 1 := ⟨fuel - 1, by simp at hfuel; omega⟩
    rw [List.append_nil]
    rfl
  | cons c cs ih =>
    rw [List.length_cons] at hfuel
    obtain ⟨fuel, rfl⟩ : ∃ k, fuel = k + 1 := ⟨fuel - 1, by omega⟩
    have hposition : position + (escape c).length + (cs.flatMap escape).length + 1
        = position + ((c :: cs).flatMap escape).length + 1 := by
      rw [List.flatMap_cons, List.length_append]
      omega
    rw [← hposition, List.flatMap_cons, List.append_assoc, h.stringBody _ _ _ _ _ (by simp),
      ih fuel _ _ (by omega), List.reverse_cons, List.append_assoc, List.singleton_append]

theorem length_le_flatMap (h : Escaping escape) (cs : List Char) :
    cs.length ≤ (cs.flatMap escape).length := by
  induction cs with
  | nil => exact Nat.le_refl 0
  | cons c cs ih =>
    have := List.length_pos_iff.mpr (h.ne_nil c)
    rw [List.flatMap_cons, List.length_cons, List.length_append]
    omega

theorem quotes (h : Escaping escape) (s : String) :
    Quotes ('"' :: s.toList.flatMap escape ++ ['"']) s := by
  have hlength := h.length_le_flatMap s.toList
  refine ⟨⟨_, rfl⟩, ?_⟩
  intro position rest
  unfold Reader.string
  simp only [List.cons_append, List.append_assoc, List.nil_append, Cursor.advance, List.drop_succ_cons,
    List.drop_zero]
  rw [h.stringBody_flatMap, List.reverse_nil, List.nil_append, String.ofList_toList]
  · simp only [List.length_cons, List.length_append, List.length_nil]
    exact ok_congr_position (by omega)
  · simp only [List.length_cons, List.length_append]
    omega

end Escaping

theorem quotes_string (s : String) : Quotes (Writer.string s).toList s := by
  rw [Writer.string, String.toList_ofList]
  exact escaping_escape.quotes s

end Playback.Json
