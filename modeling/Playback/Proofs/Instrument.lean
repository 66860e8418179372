import Playback.Proofs.Cpp.Added
import Playback.Proofs.Java.Added
import Playback.Proofs.Script.Added

/-!
This module contains the result that a program that reports its execution is the program itself with
whole lines added to it.
-/

namespace Playback

/--
The lines of a program come back unchanged, complete and in order. Behind each of them there is at most
one call, and it has the number of that line. A call in a JavaScript program takes as many lines as the
names in it.
-/
theorem lines_instrumented (source : String) :
    (∀ maxTraced, ∃ woven, ∃ structs : List Cpp.Struct,
      Text.lines (Cpp.rewrite source maxTraced)
          = Source.weave woven ++ structs.flatMap Cpp.dumperDefinition
        ∧ Source.Weaves Cpp.Added source woven)
    ∧ (∃ woven,
      Text.lines (Java.rewrite source) = Source.weave woven ∧ Source.Weaves Java.Added source woven)
    ∧ ∀ root hasError,
      let names := Script.bindingNames source.toUTF8.toList root
      (∃ woven,
        Text.lines (Script.instrument source root hasError) = Source.weave woven
          ∧ Source.Weaves (fun lineNo _ => Script.Added names lineNo) source woven)
      ∧ ((∀ name ∈ names, '\n' ∉ name.toList) →
        ∀ row, Text.lines (Script.captureCall names row) = [Script.captureCall names row]) := by
  refine ⟨Cpp.exists_weave_rewrite source, Java.exists_weave_rewrite source, fun root hasError => ?_⟩
  exact ⟨Script.exists_weave_instrument source root hasError, Script.lines_captureCall⟩

/--
A name may reach over several lines of the program if a tree says so, and one of them may read like the
call behind another line.
-/
theorem lines_instrumented_fails :
    let source := "x\n;__capture(7, \x7b\x7d);\ny"
    let root := Script.Node.mk "program" 0 22 0 2 true none
      [.mk "variable_declarator" 0 22 0 0 true none [.mk "identifier" 0 22 0 0 true (some "name") []]]
    ¬ ∃ woven,
      Text.lines (Script.instrument source root false) = Source.weave woven
        ∧ Source.Weaves (fun lineNo _ _ added =>
            ∀ more ∈ added, ∀ names row, more = Script.captureCall names row → lineNo = row + 1)
          source woven := by
  intro source root
  rintro ⟨woven, hout, hwoven⟩
  have hcount : (Text.lines (Script.instrument source root false)).count ";__capture(7, \x7b\x7d);" = 7 := by
    decide +kernel
  have hlines : Text.lines source = ["x", ";__capture(7, \x7b\x7d);", "y"] := by
    decide +kernel
  have hcall : ";__capture(7, \x7b\x7d);" = Script.captureCall [] 6 := by
    decide +kernel
  have hthree : ∃ a b c, woven = [("x", a), (";__capture(7, \x7b\x7d);", b), ("y", c)] := by
    have hown := hwoven.own_lines
    rw [hlines] at hown
    rcases woven with _ | ⟨⟨_, a⟩, _ | ⟨⟨_, b⟩, _ | ⟨⟨_, c⟩, rest⟩⟩⟩
    · simp at hown
    · simp at hown
    · simp at hown
    · simp at hown
      exact ⟨a, b, c, by simp [hown]⟩
  rcases hthree with ⟨a, b, c, rfl⟩
  -- Behind a line among the first three there is no call with another number.
  have hadded : ∀ (lineNo : Nat) (added : List String), lineNo ≠ 7 →
      (∀ more ∈ added, ∀ names row, more = Script.captureCall names row → lineNo = row + 1) →
      added.count ";__capture(7, \x7b\x7d);" = 0 := by
    intro lineNo added hne h
    rw [List.count_eq_zero]
    intro hmem
    exact hne (h _ hmem [] 6 hcall)
  have ha := hadded 1 a (by decide) hwoven.followed.2.1
  have hb := hadded 2 b (by decide) hwoven.followed.2.2.2.1
  have hc := hadded 3 c (by decide) hwoven.followed.2.2.2.2.2.1
  rw [hout] at hcount
  simp [Source.weave, ha, hb, hc] at hcount

end Playback
