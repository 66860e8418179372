import Playback.Proofs.Pattern.Run

/-!
This module contains when a match can be found at a place: each part of a pattern takes a piece of the text
in one of the ways that it has, and the rest of the pattern decides between them.
-/

namespace Playback.Pattern

variable {next : Place → Option Place} {before : Option Char} {rest : List Char}
  {captures : List (String × List Char)}

theorem lastOf_eq (before : Option Char) (cs : List Char) : lastOf before cs = cs.getLast?.or before := by
  induction cs generalizing before with
  | nil => rfl
  | cons c cs ih =>
    rw [lastOf, ih]
    cases cs with
    | nil => rfl
    | cons d cs => simp [List.getLast?_cons]

theorem isSome_run_text (s : String) :
    ((text s).run next ⟨before, rest, captures⟩).isSome = true
      ↔
    ∃ back, rest = s.toList ++ back ∧ (next ⟨lastOf before s.toList, back, captures⟩).isSome = true := by
  constructor
  · intro h
    rcases Option.isSome_iff_exists.mp h with ⟨place, hplace⟩
    rcases exists_of_run_text hplace with ⟨back, hback⟩
    dsimp only at hback
    rw [hback, run_text_append] at h
    exact ⟨back, hback, h⟩
  · rintro ⟨back, rfl, h⟩
    rw [run_text_append]
    exact h

theorem isSome_run_oneOf (words : List String) :
    ((oneOf words).run next ⟨before, rest, captures⟩).isSome = true
      ↔
    ∃ word ∈ words, ∃ back, rest = word.toList ++ back
      ∧ (next ⟨lastOf before word.toList, back, captures⟩).isSome = true := by
  rw [run_oneOf, List.findSome?_isSome_iff]
  simp only [isSome_run_text]

theorem isSome_run_char (accepts : Char → Bool) :
    ((char accepts).run next ⟨before, rest, captures⟩).isSome = true
      ↔
    ∃ c back, rest = c :: back ∧ accepts c = true ∧ (next ⟨some c, back, captures⟩).isSome = true := by
  cases rest with
  | nil => simp
  | cons c rest =>
    rw [run_char_cons]
    by_cases hc : accepts c = true
    · simp [hc]
    · simp [hc]

theorem isSome_run_look (holds : Option Char → List Char → Bool) :
    ((look holds).run next ⟨before, rest, captures⟩).isSome = true
      ↔
    holds before rest = true ∧ (next ⟨before, rest, captures⟩).isSome = true := by
  rw [run]
  by_cases h : holds before rest = true
  · simp [h]
  · simp [h]

theorem isSome_repeatThen_char (accepts : Char → Bool) (bound : List Char) :
    (repeatThen (char accepts).run next bound ⟨before, rest, captures⟩).isSome = true
      ↔
    ∃ word back, rest = word ++ back ∧ word.length ≤ bound.length ∧ (∀ c ∈ word, accepts c = true)
      ∧ (next ⟨lastOf before word, back, captures⟩).isSome = true := by
  induction bound generalizing before rest with
  | nil =>
    constructor
    · exact fun h => ⟨[], rest, rfl, Nat.le_refl _, by simp, h⟩
    · rintro ⟨word, back, rfl, hbound, _, h⟩
      rw [List.length_nil, Nat.le_zero, List.length_eq_zero_iff] at hbound
      rw [hbound] at h ⊢
      exact h
  | cons d bound ih =>
    rw [repeatThen, Option.isSome_or, Bool.or_eq_true, isSome_run_char]
    simp only [ih]
    constructor
    · rintro (⟨c, _, rfl, hc, word, back, rfl, hbound, hword, h⟩ | h)
      · refine ⟨c :: word, back, rfl, by simpa using hbound, ?_, h⟩
        rw [List.forall_mem_cons]
        exact ⟨hc, hword⟩
      · exact ⟨[], rest, rfl, Nat.zero_le _, by simp, h⟩
    · rintro ⟨word, back, rfl, hbound, hword, h⟩
      cases word with
      | nil => exact .inr h
      | cons c word =>
        rw [List.forall_mem_cons] at hword
        exact .inl ⟨c, word ++ back, rfl, hword.1, word, back, rfl, by simpa using hbound, hword.2, h⟩

/-
A repetition may take any piece of the text that is made of its characters.
-/
theorem isSome_run_star_char (accepts : Char → Bool) :
    ((star (char accepts)).run next ⟨before, rest, captures⟩).isSome = true
      ↔
    ∃ word back, rest = word ++ back ∧ (∀ c ∈ word, accepts c = true)
      ∧ (next ⟨lastOf before word, back, captures⟩).isSome = true := by
  rw [run, isSome_repeatThen_char]
  constructor
  · rintro ⟨word, back, heq, _, h⟩
    exact ⟨word, back, heq, h⟩
  · rintro ⟨word, back, rfl, h⟩
    exact ⟨word, back, rfl, by simp, h⟩

theorem isSome_run_plus_char (accepts : Char → Bool) :
    ((plus (char accepts)).run next ⟨before, rest, captures⟩).isSome = true
      ↔
    ∃ word back, rest = word ++ back ∧ word ≠ [] ∧ (∀ c ∈ word, accepts c = true)
      ∧ (next ⟨lastOf before word, back, captures⟩).isSome = true := by
  rw [run_plus, isSome_run_char]
  simp only [isSome_run_star_char]
  constructor
  · rintro ⟨c, _, rfl, hc, word, back, rfl, hword, h⟩
    refine ⟨c :: word, back, rfl, by simp, ?_, h⟩
    rw [List.forall_mem_cons]
    exact ⟨hc, hword⟩
  · rintro ⟨word, back, rfl, hne, hword, h⟩
    cases word with
    | nil => contradiction
    | cons c word =>
      rw [List.forall_mem_cons] at hword
      exact ⟨c, word ++ back, rfl, hword.1, word, back, rfl, hword.2, h⟩

end Playback.Pattern
