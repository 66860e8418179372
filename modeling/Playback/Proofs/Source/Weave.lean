import Playback.Proofs.Text.Blank
import Playback.Proofs.Text.Lines
import Playback.Source.Code

/-!
This module contains what it means that lines are only added to a program: the lines of the program,
each one followed by lines that may be added there.
-/

namespace Playback.Source

def codeIn (inComment : Bool) (line : String) : List Char :=
  Text.trim (codeOf (if inComment then .blockComment else .code) line.toList).1

def endsInComment (inComment : Bool) (line : String) : Bool :=
  (codeOf (if inComment then .blockComment else .code) line.toList).2

theorem codeLines_cons (inComment : Bool) (line : String) (rest : List String) :
    codeLines inComment ((line :: rest).map String.toList)
      =
    codeIn inComment line :: codeLines (endsInComment inComment line) (rest.map String.toList) :=
  rfl

/--
Whether a text holds comments and white space only. A block comment may be open in front of it.
-/
inductive OnlyComment : Bool → List Char → Prop where
  | done {inComment : Bool} : OnlyComment inComment []
  | blank {c : Char} {cs : List Char} (hc : Text.isBlank c = true) (h : OnlyComment false cs) :
      OnlyComment false (c :: cs)
  | line {cs : List Char} : OnlyComment false ('/' :: '/' :: cs)
  | opens {cs : List Char} (h : OnlyComment true cs) : OnlyComment false ('/' :: '*' :: cs)
  | inside {c : Char} {cs : List Char} (hc : ¬ ['*', '/'] <+: c :: cs) (h : OnlyComment true cs) :
      OnlyComment true (c :: cs)
  | closes {cs : List Char} (h : OnlyComment false cs) : OnlyComment true ('*' :: '/' :: cs)

theorem codeOf_code_of_blank {c : Char} (hc : Text.isBlank c = true) (cs : List Char) :
    codeOf .code (c :: cs) = (c :: (codeOf .code cs).1, (codeOf .code cs).2) := by
  have hslash : c ≠ '/' := by
    rintro rfl
    contradiction
  have hquote : ¬ (c == '"' || c == '\'') = true := by
    rw [Bool.or_eq_true, beq_iff_eq, beq_iff_eq]
    rintro (rfl | rfl) <;> contradiction
  rw [codeOf, if_neg hquote]
  · rintro rest rfl
    contradiction
  · rintro rest rfl
    contradiction

theorem OnlyComment.isBlank_codeOf {inComment : Bool} {cs : List Char}
    (h : OnlyComment inComment cs) :
    ∀ c ∈ (codeOf (if inComment then .blockComment else .code) cs).1, Text.isBlank c = true := by
  induction h with
  | @done inComment => cases inComment <;> simp [codeOf]
  | @blank c cs hc _ ih =>
    have hcode := codeOf_code_of_blank hc cs
    simp_all
  | line => simp [codeOf]
  | opens _ ih => simpa [codeOf] using ih
  | @inside c cs hc _ ih =>
    rw [if_pos rfl] at ih ⊢
    rw [codeOf]
    · exact ih
    · rintro rest rfl rfl
      apply hc
      simp
  | closes _ ih => simpa [codeOf] using ih

theorem OnlyComment.codeIn_eq_nil {inComment : Bool} {line : String}
    (h : OnlyComment inComment line.toList) : codeIn inComment line = [] :=
  Text.trim_eq_nil h.isBlank_codeOf

theorem onlyComment_of_blank {inComment : Bool} {cs : List Char}
    (h : ∀ c ∈ cs, Text.isBlank c = true) : OnlyComment inComment cs := by
  induction cs with
  | nil => exact .done
  | cons c cs ih =>
    rw [List.forall_mem_cons] at h
    cases inComment with
    | false => exact .blank h.1 (ih h.2)
    | true =>
      refine .inside ?_ (ih h.2)
      rw [List.cons_prefix_cons]
      rintro ⟨rfl, _⟩
      have hc := h.1
      contradiction

theorem codeIn_eq_nil_of_blank {inComment : Bool} {line : String}
    (h : Text.isBlankText line = true) : codeIn inComment line = [] := by
  apply OnlyComment.codeIn_eq_nil
  apply onlyComment_of_blank
  simpa [Text.isBlankText] using h

/--
Whether each line is followed by whole lines that may be added behind it. `Added` says what may be
added, given the number of the line and whether a block comment is open in front of it.
-/
def EachFollowed (Added : Nat → Bool → String → List String → Prop) :
    Nat → Bool → List (String × List String) → Prop
  | _, _, [] => True
  | lineNo, inComment, (line, added) :: rest =>
    (∀ more ∈ added, '\n' ∉ more.toList)
      ∧ Added lineNo inComment line added
      ∧ EachFollowed Added (lineNo + 1) (endsInComment inComment line) rest

def weave (woven : List (String × List String)) : List String :=
  woven.flatMap fun (line, added) => line :: added

theorem EachFollowed.newline_not_mem {Added : Nat → Bool → String → List String → Prop} {lineNo : Nat}
    {inComment : Bool} {woven : List (String × List String)}
    (h : EachFollowed Added lineNo inComment woven)
    (hown : ∀ line ∈ woven.map Prod.fst, '\n' ∉ line.toList) :
    ∀ line ∈ weave woven, '\n' ∉ line.toList := by
  induction woven generalizing lineNo inComment with
  | nil => simp [weave]
  | cons entry woven ih =>
    rcases entry with ⟨line, added⟩
    rw [List.map_cons, List.forall_mem_cons] at hown
    have hrest := ih h.2.2 hown.2
    rw [weave, List.flatMap_cons, List.cons_append, List.forall_mem_cons, List.forall_mem_append]
    exact ⟨hown.1, h.1, hrest⟩

/--
Whether lines are those of a program, each one with whole lines that may be added behind it. What is left
without the added lines is the program.
-/
structure Weaves (Added : Nat → Bool → String → List String → Prop) (source : String)
    (woven : List (String × List String)) : Prop where
  own_lines : woven.map Prod.fst = Text.lines source
  source_eq : Text.unlines (woven.map Prod.fst) = source
  followed : EachFollowed Added 1 false woven

theorem Weaves.of_rewritten {Added : Nat → Bool → String → List String → Prop} {source : String}
    {woven : List (String × List String)} (hown : woven.map Prod.fst = Text.lines source)
    (hfollowed : EachFollowed Added 1 false woven) : Weaves Added source woven where
  own_lines := hown
  source_eq := by rw [hown, Text.unlines_lines]
  followed := hfollowed

/-
Putting the lines of a program and whole lines together makes a text of just these lines.
-/
theorem lines_unlines_weave {Added : Nat → Bool → String → List String → Prop} {source : String}
    {woven : List (String × List String)} {tail : List String}
    (hown : woven.map Prod.fst = Text.lines source) (hfollowed : EachFollowed Added 1 false woven)
    (htail : ∀ line ∈ tail, '\n' ∉ line.toList) :
    Text.lines (Text.unlines (weave woven ++ tail)) = weave woven ++ tail := by
  rw [Text.lines_unlines, Text.flatMap_lines]
  · rw [List.forall_mem_append]
    refine ⟨hfollowed.newline_not_mem ?_, htail⟩
    rw [hown]
    exact fun line hline => Text.newline_not_mem_of_mem_lines hline
  · cases woven with
    | nil => exact absurd hown.symm (Text.lines_ne_nil source)
    | cons entry woven => simp [weave]

end Playback.Source
