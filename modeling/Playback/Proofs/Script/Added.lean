import Playback.Proofs.Source.Weave
import Playback.Script.Capture

/-!
This module contains what is added to a JavaScript program that captures its execution: the lines of at
most one call behind each line, with the number of that line.
-/

namespace Playback.Script

/--
What may be added behind a line: one call with the number of the line that reads the given names, and
nothing behind a blank line or one that starts a comment.
-/
structure Added (names : List String) (lineNo : Nat) (line : String) (added : List String) : Prop where
  one_call : added = [] ∨ ∃ row, lineNo = row + 1 ∧ added = Text.lines (captureCall names row)
  blank : Text.isBlankText line = true → added = []
  comment : ['/', '/'] <+: Text.trim line.toList → added = []

theorem Added.nil (names : List String) (lineNo : Nat) (line : String) :
    Added names lineNo line [] where
  one_call := .inl rfl
  blank _ := rfl
  comment _ := rfl

theorem Added.of_holdsCode (names : List String) {row : Nat} {line : String}
    (h : holdsCode line = true) :
    Added names (row + 1) line (Text.lines (captureCall names row)) where
  one_call := .inr ⟨row, rfl, rfl⟩
  blank hblank := by
    have htrim : Text.trim line.toList = [] :=
      Text.trim_eq_nil (by simpa [Text.isBlankText] using hblank)
    simp [holdsCode, htrim] at h
  comment hcomment := by
    rw [← List.isPrefixOf_iff_prefix] at hcomment
    simp [holdsCode, hcomment] at h

theorem exists_weave_captureLines (rows : List Nat) (names : List String) (row : Nat)
    (inComment : Bool) {ls : List String} (h : ∀ line ∈ ls, '\n' ∉ line.toList) :
    ∃ woven,
      woven.map Prod.fst = ls
        ∧ (captureLines rows (captureCall names) row ls).flatMap Text.lines = Source.weave woven
        ∧ Source.EachFollowed (fun lineNo _ => Added names lineNo) (row + 1) inComment woven := by
  induction ls generalizing row inComment with
  | nil => exact ⟨[], rfl, rfl, trivial⟩
  | cons line ls ih =>
    rw [List.forall_mem_cons] at h
    rcases ih (row + 1) (Source.endsInComment inComment line) h.2 with ⟨woven, hown, hout, hadded⟩
    rw [captureLines]
    split
    · next hcaptured =>
      rw [Bool.and_eq_true] at hcaptured
      refine ⟨(line, Text.lines (captureCall names row)) :: woven, by rw [List.map_cons, hown], ?_,
        fun more => Text.newline_not_mem_of_mem_lines, .of_holdsCode names hcaptured.1, hadded⟩
      rw [List.flatMap_cons, List.flatMap_cons, hout, Text.lines_of_not_mem h.1]
      rfl
    · refine ⟨(line, []) :: woven, by rw [List.map_cons, hown], ?_, by simp, .nil .., hadded⟩
      rw [List.flatMap_cons, hout, Text.lines_of_not_mem h.1]
      rfl

theorem captureLines_nil (call : Nat → String) (row : Nat) (ls : List String) :
    captureLines [] call row ls = ls := by
  induction ls generalizing row with
  | nil => rfl
  | cons line ls ih => simp [captureLines, ih]

theorem captureLines_ne_nil {rows : List Nat} {call : Nat → String} {row : Nat} {ls : List String}
    (h : ls ≠ []) : captureLines rows call row ls ≠ [] := by
  cases ls with
  | nil => contradiction
  | cons line ls =>
    rw [captureLines]
    split <;> simp

theorem exists_weave_instrument (source : String) (root : Node) (hasError : Bool) :
    ∃ woven,
      Text.lines (instrument source root hasError) = Source.weave woven
        ∧ Source.Weaves (fun lineNo _ => Added (bindingNames source.toUTF8.toList root) lineNo) source
          woven := by
  -- A program that the grammar rejects is one without a row to capture.
  have hout : ∃ rows,
      Text.lines (instrument source root hasError)
        =
      (captureLines rows (captureCall (bindingNames source.toUTF8.toList root)) 0
        (Text.lines source)).flatMap Text.lines := by
    unfold instrument
    split
    · refine ⟨[], ?_⟩
      rw [captureLines_nil, Text.flatMap_lines]
      exact fun line => Text.newline_not_mem_of_mem_lines
    · refine ⟨safeRows root, ?_⟩
      dsimp only
      rw [Text.lines_unlines (captureLines_ne_nil (Text.lines_ne_nil source))]
  rcases hout with ⟨rows, hout⟩
  rcases exists_weave_captureLines rows (bindingNames source.toUTF8.toList root) 0 false
    (fun line hline => Text.newline_not_mem_of_mem_lines hline) with ⟨woven, hown, hwoven, hadded⟩
  exact ⟨woven, by rw [hout, hwoven], .of_rewritten hown hadded⟩

theorem captureCall_eq (names : List String) (row : Nat) :
    captureCall names row
      =
    ";__capture(" ++ toString (row + 1) ++ ", \x7b"
      ++ ", ".intercalate (names.map fun name => "\"" ++ name ++ "\": () => " ++ name)
      ++ "\x7d);" :=
  rfl

theorem lines_captureCall {names : List String} (h : ∀ name ∈ names, '\n' ∉ name.toList) (row : Nat) :
    Text.lines (captureCall names row) = [captureCall names row] := by
  have hgetters : '\n' ∉ (", ".intercalate
      (names.map fun name => "\"" ++ name ++ "\": () => " ++ name)).toList := by
    apply Text.newline_not_mem_intercalate (by simp)
    rw [List.forall_mem_map]
    intro name hname
    simp [h name hname]
  apply Text.lines_of_not_mem
  rw [captureCall_eq]
  simpa using hgetters

end Playback.Script
