import Playback.Java.Rewrite
import Playback.Proofs.Pattern.Captures
import Playback.Proofs.Source.Weave

/-!
This module contains what is added to a Java program that reports its execution: at most one call behind
each line, with the number of that line.
-/

namespace Playback.Java

open Pattern

theorem touched?_isWordChar {code : List Char} {name : String} (h : touched? code = some name) :
    ∀ c ∈ name.toList, Text.isWordChar c = true := by
  unfold touched? at h
  rcases List.exists_of_findSome?_eq_some h with ⟨p, hp, hname⟩
  have hcaptures : p.CapturesOnly "name" (Text.isWordChar · = true) := by
    simp only [List.mem_cons, List.not_mem_nil, or_false] at hp
    rcases hp with rfl | rfl | rfl
    · simp [declaration, assigns, CapturesOnly, TakesOnly, blanks, blank, wordChar, except, notBefore,
        plus]
    · simp [assignment, assigns, CapturesOnly, TakesOnly, blanks, blank, wordChar, among, notBefore,
        plus]
    · simp [count, CapturesOnly, TakesOnly, blanks, blank, wordChar, textEnd, plus]
  cases hplace : p.matchAt? code with
  | none =>
    rw [hplace] at hname
    contradiction
  | some place =>
    rw [hplace] at hname
    simp only [Option.bind_eq_bind, Option.bind_some] at hname
    split at hname
    · contradiction
    · rw [Option.some_inj] at hname
      rw [← hname, String.toList_ofList]
      exact (reaches_of_matchAt? hplace).captured rfl hcaptures

theorem traceCall_none (lineNo : Nat) :
    traceCall lineNo none = "__PT_Helper.trace(" ++ toString lineNo ++ ");" :=
  rfl

theorem traceCall_some (lineNo : Nat) (name : String) :
    traceCall lineNo (some name)
      =
    "__PT_Helper.trace(" ++ toString lineNo ++ ", \"" ++ name ++ "\", " ++ name ++ ");" :=
  rfl

theorem newline_not_mem_traceCall (lineNo : Nat) {name : Option String}
    (h : ∀ x ∈ name, '\n' ∉ x.toList) : '\n' ∉ (traceCall lineNo name).toList := by
  cases name with
  | none =>
    rw [traceCall_none]
    simp
  | some name =>
    have hname := h name rfl
    rw [traceCall_some]
    simp [hname]

theorem traceCall?_eq {lineNo : Nat} {code nextCode : List Char} {call : String}
    (h : traceCall? lineNo code nextCode = some call) :
    ∃ name, call = traceCall lineNo name ∧ ∀ x ∈ name, '\n' ∉ x.toList := by
  unfold traceCall? at h
  split at h
  · contradiction
  · split at h
    · contradiction
    · split at h
      · split at h
        · contradiction
        · split at h
          · contradiction
          · rw [Option.some_inj] at h
            exact ⟨none, h.symm, by simp⟩
      · split at h
        · rw [Option.some_inj] at h
          refine ⟨touched? code, h.symm, fun name hname => ?_⟩
          intro hmem
          have hword := touched?_isWordChar hname '\n' hmem
          contradiction
        · contradiction

/--
What may be added behind a line: one call with the number of the line, and nothing behind a line
without code.
-/
structure Added (lineNo : Nat) (inComment : Bool) (line : String) (added : List String) : Prop where
  one_call : added = [] ∨ ∃ name, added = [traceCall lineNo name]
  blank : Text.isBlankText line = true → added = []
  comment : Source.OnlyComment inComment line.toList → added = []

theorem Added.of_code {lineNo : Nat} {inComment : Bool} {line : String} {added : List String}
    (hcall : added = [] ∨ ∃ name, added = [traceCall lineNo name])
    (hcode : Source.codeIn inComment line ≠ []) : Added lineNo inComment line added where
  one_call := hcall
  blank h := absurd (Source.codeIn_eq_nil_of_blank h) hcode
  comment h := absurd h.codeIn_eq_nil hcode

theorem Added.nil (lineNo : Nat) (inComment : Bool) (line : String) :
    Added lineNo inComment line [] where
  one_call := .inl rfl
  blank _ := rfl
  comment _ := rfl

theorem readLine_added (lineNo : Nat) (code nextCode : List Char) (s : State) :
    ((readLine lineNo code nextCode s).2 = none
      ∨ ∃ name, (readLine lineNo code nextCode s).2 = some (traceCall lineNo name)
        ∧ ∀ x ∈ name, '\n' ∉ x.toList) := by
  unfold readLine
  dsimp only
  split
  · exact .inl rfl
  · dsimp only
    cases hcall : traceCall? lineNo code nextCode with
    | none => exact .inl rfl
    | some call =>
      rcases traceCall?_eq hcall with ⟨name, rfl, hname⟩
      exact .inr ⟨name, rfl, hname⟩

theorem exists_weave_rewriteLines (lineNo : Nat) (inComment : Bool) (s : State) (ls : List String) :
    ∃ woven,
      woven.map Prod.fst = ls
        ∧ rewriteLines lineNo s (ls.zip (Source.codeLines inComment (ls.map String.toList)))
          = Source.weave woven
        ∧ Source.EachFollowed Added lineNo inComment woven := by
  induction ls generalizing lineNo inComment s with
  | nil => exact ⟨[], rfl, rfl, trivial⟩
  | cons line ls ih =>
    rw [Source.codeLines_cons, List.zip_cons_cons, rewriteLines]
    split
    · rcases ih (lineNo + 1) (Source.endsInComment inComment line) s with ⟨woven, hown, hout, hadded⟩
      refine ⟨(line, []) :: woven, by rw [List.map_cons, hown], ?_, by simp, .nil .., hadded⟩
      rw [hout]
      rfl
    · next hcode =>
      rw [List.isEmpty_iff] at hcode
      dsimp only
      generalize (((ls.zip _).find? _).map Prod.snd).getD [] = nextCode
      have hread := readLine_added lineNo (Source.codeIn inComment line) nextCode s
      generalize readLine lineNo (Source.codeIn inComment line) nextCode s = result at hread
      rcases result with ⟨next, added⟩
      dsimp only at hread
      rcases ih (lineNo + 1) (Source.endsInComment inComment line) next with
        ⟨woven, hown, hout, hadded⟩
      refine ⟨(line, added.toList) :: woven, by rw [List.map_cons, hown], ?_, ?_, ?_, hadded⟩
      · rw [hout]
        rfl
      · rcases hread with rfl | ⟨name, rfl, hname⟩
        · simp
        · simpa using newline_not_mem_traceCall lineNo hname
      · apply Added.of_code _ hcode
        rcases hread with rfl | ⟨name, rfl, _⟩
        · exact .inl rfl
        · exact .inr ⟨name, rfl⟩

theorem exists_weave_rewrite (source : String) :
    ∃ woven, Text.lines (rewrite source) = Source.weave woven ∧ Source.Weaves Added source woven := by
  rcases exists_weave_rewriteLines 1 false {} (Text.lines source) with ⟨woven, hown, hout, hadded⟩
  have hlines := Source.lines_unlines_weave hown hadded (List.forall_mem_nil _)
  rw [List.append_nil] at hlines
  refine ⟨woven, ?_, .of_rewritten hown hadded⟩
  unfold rewrite
  dsimp only
  rw [hout, hlines]

end Playback.Java
