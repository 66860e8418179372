import Playback.Proofs.Pattern.Local
import Playback.Screening

/-!
This module contains the result that nothing can be hidden from the screening by what stands around it: a text
that is refused is refused with other lines before and after it, too.
-/

namespace Playback.Screening

open Pattern

theorem local_call (word : Pattern) : (call word).Local ↔ word.Local := by
  simp [call, blanks, blank]

theorem local_alone (word : String) : (alone word).Local := by
  simp [alone]

theorem local_of_mem_dangers (language : Language) : ∀ d ∈ dangers language, d.pattern.Local := by
  cases language
  all_goals
    simp [dangers, pythonDangers, javascriptDangers, nativeDangers, javaDangers, local_call, local_alone,
      hostModules, blanks, blank, wordChar, lineChar, among]

/-
A text is refused if it is blank, too long, or if a dangerous operation occurs in it.
-/
theorem isSome_rejection?_iff (source : String) (language : Option Language) (maxLength : Int) :
    (rejection? source language maxLength true).isSome = true
      ↔
    source.toList.all Text.isBlank = true ∨ maxLength < source.toList.length
      ∨ ∃ d ∈ language.elim [] dangers, d.pattern.occursIn source.toList = true := by
  unfold rejection?
  dsimp only
  split
  · next hblank => simp [hblank]
  · next hblank =>
    split
    · next hlong => simp [hlong]
    · next hlong =>
      rw [if_pos rfl, Option.isSome_map, List.find?_isSome]
      simp [hblank, hlong]

/--
A text that is refused, though it is not blank, is refused as a part of a longer one, if it has lines of its
own there.
-/
theorem rejection?_between_lines {source : String} {language : Option Language} {maxLength : Int}
    (hsource : Text.isBlankText source = false)
    (h : (rejection? source language maxLength true).isSome = true) (above below : String) :
    (rejection? (above ++ "\n" ++ source ++ "\n" ++ below) language maxLength true).isSome = true := by
  have htext : (above ++ "\n" ++ source ++ "\n" ++ below).toList
      = above.toList ++ '\n' :: source.toList ++ '\n' :: below.toList := by
    simp
  rw [isSome_rejection?_iff] at h ⊢
  rw [htext]
  right
  rcases h with hblank | hlong | ⟨d, hd, hoccurs⟩
  · rw [Text.isBlankText, hblank] at hsource
    contradiction
  · left
    simp only [List.length_append, List.length_cons]
    omega
  · right
    refine ⟨d, hd, occursIn_between_lines ?_ hoccurs above.toList below.toList⟩
    cases language with
    | none => contradiction
    | some language => exact local_of_mem_dangers language d hd

/--
A call that an unfinished text in front of it tries to hide is found.
-/
theorem rejection?_between_lines_quoted :
    Text.isBlankText "eval (x)" = false
      ∧ (rejection? "eval (x)" (some .python) defaultMaxLength true).isSome = true
      ∧ (rejection? ("s = '''" ++ "\n" ++ "eval (x)" ++ "\n" ++ "'''") (some .python)
          defaultMaxLength true).isSome = true :=
  have hsource : Text.isBlankText "eval (x)" = false := by decide +kernel
  have h : (rejection? "eval (x)" (some .python) defaultMaxLength true).isSome = true := by decide +kernel
  ⟨hsource, h, rejection?_between_lines hsource h "s = '''" "'''"⟩

end Playback.Screening
