import Playback.Proofs.Source.Name
import Playback.Proofs.Text.Blank

/-!
This module contains how matches run on words: a pattern for one of several words or for an identifier
takes a whole word, if the match cannot go on in the middle of it.
-/

namespace Playback.Pattern

open Source

variable {next : Place → Option Place} {before : Option Char} {captures : List (String × List Char)}

theorem run_plus_blank {rest : List Char} (hrest : rest.head?.any Text.isBlank = false) :
    (plus blank).run next ⟨before, ' ' :: rest, captures⟩ = next ⟨some ' ', rest, captures⟩ := by
  rw [run_plus, blank, run_char_cons, if_pos (by decide), run_star_char_skip hrest]

/-
If the match cannot go on in front of a blank, it goes on behind all of them.
-/
theorem run_plus_blank_stuck {gap rest : List Char} (hne : gap ≠ [])
    (hgap : ∀ c ∈ gap, Text.isBlank c = true) (hrest : rest.head?.any Text.isBlank = false)
    (hstuck : ∀ before c more, Text.isBlank c = true → next ⟨before, c :: more, captures⟩ = none) :
    (plus blank).run next ⟨before, gap ++ rest, captures⟩
      =
    next ⟨lastOf before gap, rest, captures⟩ := by
  cases gap with
  | nil => contradiction
  | cons c gap =>
    rw [List.forall_mem_cons] at hgap
    rw [run_plus, blank, List.cons_append, run_char_cons, if_pos hgap.1, run_star_char_stuck hgap.2 hrest]
    · rfl
    · rintro front d back rfl
      exact hstuck _ d _ (hgap.2 d (by simp))

theorem run_plus_blank_eq_none {c : Char} (hc : Text.isBlank c = false) (rest : List Char) :
    (plus blank).run next ⟨before, c :: rest, captures⟩ = none := by
  rw [run_plus, blank, run_char_cons, if_neg (by simp [hc])]

theorem run_oneOf_word {words : List String}
    (hwords : ∀ s ∈ words, ∀ c ∈ s.toList, Text.isWordChar c = true) {word rest : List Char}
    (hword : ∀ c ∈ word, Text.isWordChar c = true) (hrest : rest.head?.any Text.isWordChar = false)
    (hnext : ∀ before c more, Text.isWordChar c = true → next ⟨before, c :: more, captures⟩ = none) :
    (oneOf words).run next ⟨before, word ++ rest, captures⟩
      =
    if isAmong words word then next ⟨lastOf before word, rest, captures⟩ else none := by
  rw [run_oneOf]
  induction words with
  | nil => rfl
  | cons s words ih =>
    rw [List.forall_mem_cons] at hwords
    rw [List.findSome?_cons, ih hwords.2]
    by_cases hs : word = s.toList
    · have hmem : isAmong (s :: words) word = true := by simp [isAmong, hs]
      rw [if_pos hmem, hs, run_text_append]
      cases next ⟨lastOf before s.toList, rest, captures⟩ with
      | none => simp
      | some r => rfl
    · have hne : String.ofList word ≠ s := by
        rintro rfl
        simp at hs
      rw [run_text_of_ne hwords.1 hword hrest hs fun c more hc => hnext _ c more hc]
      simp [isAmong, hne]

variable {reserved : List String} {word rest : List Char} (h : FreeWord reserved word)
  (hrest : rest.head?.any Text.isWordChar = false)
include h hrest

theorem run_identifier_stuck
    (hstuck : ∀ before c more, before.any Text.isWordChar = true → Text.isWordChar c = true →
      next ⟨before, c :: more, captures⟩ = none) :
    identifier.run next ⟨before, word ++ rest, captures⟩ = next ⟨lastOf before word, rest, captures⟩ := by
  rcases h.exists_cons with ⟨c, back, rfl, hstart, hback⟩
  rw [identifier, run_append, List.cons_append, run_char_cons, if_pos hstart, wordChar,
    run_star_char_stuck hback hrest]
  · rfl
  · rintro front d more rfl
    apply hstuck
    · rcases List.eq_nil_or_concat front with rfl | ⟨front, e, rfl⟩
      · exact Text.isWordChar_of_isIdentStart hstart
      · rw [List.concat_eq_append, lastOf_append]
        exact hback e (by simp)
    · exact hback d (by simp)

theorem run_capture_identifier {name : String} {r : Place}
    (hnext : next ⟨lastOf before word, rest, (name, word) :: captures⟩ = some r) :
    (capture name identifier).run next ⟨before, word ++ rest, captures⟩ = some r := by
  rcases h.exists_cons with ⟨c, back, rfl, hstart, hback⟩
  rw [run, identifier, run_append, List.cons_append, run_char_cons, if_pos hstart, wordChar]
  apply run_star_char_some hback hrest
  have htake : (c :: (back ++ rest)).take ((c :: (back ++ rest)).length - rest.length) = c :: back := by
    rw [← List.cons_append, List.length_append, Nat.add_sub_cancel, List.take_left]
  dsimp only
  rw [htake]
  exact hnext

end Playback.Pattern
