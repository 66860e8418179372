import Playback.Proofs.Source.Weave

/-!
This module contains programs that are laid out with one piece of code a line, blank lines and white space
left aside, and what a rewrite adds to such a program.
-/

namespace Playback.Source

/--
Whether lines that are not blank hold the given pieces of code in order, with white space around them.
-/
def Holds (codes : List (List Char)) (lines : List String) : Prop :=
  (lines.map fun line => Text.trim line.toList).filter (!·.isEmpty) = codes
deriving Decidable

/--
The given lines, each one that is not blank with its report behind it.
-/
def reported (lineNo : Nat) : List String → List (Nat → List String) → List (String × List String)
  | [], _ => []
  | line :: lines, reports =>
    if (Text.trim line.toList).isEmpty then (line, []) :: reported (lineNo + 1) lines reports
    else
      (line, reports.headD (fun _ => []) lineNo) :: reported (lineNo + 1) lines reports.tail

def Bare (cs : List Char) : Prop :=
  ∀ c ∈ cs, c ≠ '"' ∧ c ≠ '\'' ∧ c ≠ '/'

theorem Bare.codeOf_eq {cs : List Char} (h : Bare cs) : codeOf .code cs = (cs, false) := by
  induction cs with
  | nil => rfl
  | cons c cs ih =>
    have hc := h c (by simp)
    rw [codeOf, if_neg (by simp [hc]), ih fun d hd => h d (List.mem_cons_of_mem c hd)]
    · rintro rest rfl
      simp at hc
    · rintro rest rfl
      simp at hc

theorem Bare.of_trim {cs : List Char} (h : Bare (Text.trim cs)) : Bare cs := by
  intro c hc
  rcases Text.isBlank_or_mem_trim hc with hblank | htrim
  · refine ⟨?_, ?_, ?_⟩
    all_goals
      rintro rfl
      contradiction
  · exact h c htrim

theorem Bare.codeIn_eq {line : String} (h : Bare (Text.trim line.toList)) :
    codeIn false line = Text.trim line.toList ∧ endsInComment false line = false := by
  have hcode := h.of_trim.codeOf_eq
  simp [codeIn, endsInComment, hcode]

theorem codeLines_eq {lines : List String} (h : ∀ line ∈ lines, Bare (Text.trim line.toList)) :
    codeLines false (lines.map String.toList) = lines.map fun line => Text.trim line.toList := by
  induction lines with
  | nil => rfl
  | cons line lines ih =>
    rw [List.forall_mem_cons] at h
    rw [codeLines_cons, h.1.codeIn_eq.1, h.1.codeIn_eq.2, ih h.2, List.map_cons]

theorem Holds.cases {codes : List (List Char)} {line : String} {lines : List String}
    (h : Holds codes (line :: lines)) :
    (Text.trim line.toList = [] ∧ Holds codes lines)
      ∨ ∃ rest, Text.trim line.toList ≠ [] ∧ codes = Text.trim line.toList :: rest ∧ Holds rest lines := by
  unfold Holds at h ⊢
  rw [List.map_cons, List.filter_cons] at h
  split at h
  · next hne => exact .inr ⟨_, by simpa using hne, h.symm, rfl⟩
  · next heq => exact .inl ⟨by simpa using heq, h⟩

theorem Holds.bare {codes : List (List Char)} {lines : List String} (h : Holds codes lines)
    (hbare : ∀ code ∈ codes, Bare code) : ∀ line ∈ lines, Bare (Text.trim line.toList) := by
  intro line hline
  by_cases hempty : Text.trim line.toList = []
  · rw [hempty]
    simp [Bare]
  · apply hbare
    rw [← h, List.mem_filter]
    exact ⟨List.mem_map_of_mem hline, by simpa using hempty⟩

theorem Holds.next_code {codes : List (List Char)} {lines : List String} (h : Holds codes lines) :
    (((lines.zip (lines.map fun line => Text.trim line.toList)).find? fun next =>
      !next.2.isEmpty).map Prod.snd).getD [] = codes.headD [] := by
  induction lines generalizing codes with
  | nil =>
    unfold Holds at h
    rw [← h]
    rfl
  | cons line lines ih =>
    rw [List.map_cons, List.zip_cons_cons, List.find?_cons]
    rcases h.cases with ⟨hempty, hrest⟩ | ⟨rest, hne, rfl, _⟩
    · simp only [hempty, List.isEmpty_nil, Bool.not_true]
      exact ih hrest
    · rw [← List.isEmpty_eq_false_iff] at hne
      simp only [hne, Bool.not_false]
      rfl

section Runs

variable {σ : Type} (read : Nat → List Char → List Char → σ → σ × List String)

/--
Whether reading pieces of code one after the other takes a state to another one and adds the given
reports. `read` gets the number of a line, its code and the code that follows.
-/
inductive Runs : σ → List (List Char) → List (Nat → List String) → σ → Prop where
  | nil {s : σ} : Runs s [] [] s
  | cons {s next last : σ} {code : List Char} {codes : List (List Char)} {report : Nat → List String}
      {reports : List (Nat → List String)}
      (h : ∀ lineNo, read lineNo code (codes.headD []) s = (next, report lineNo))
      (hrest : Runs next codes reports last) : Runs s (code :: codes) (report :: reports) last

variable {read}

/-
A rewrite that passes over blank lines and adds what reading a piece of code gives behind its line adds
the reports of the run.
-/
theorem Runs.rewrite_eq {rewriteFrom : Nat → σ → List (String × List Char) → List String} {s last : σ}
    {codes : List (List Char)} {reports : List (Nat → List String)} (hruns : Runs read s codes reports last)
    (hend : ∀ n, rewriteFrom n last [] = [])
    (hskip : ∀ n s line rest, rewriteFrom n s ((line, []) :: rest) = line :: rewriteFrom (n + 1) s rest)
    (hread : ∀ n s line rest, ∀ code ∈ codes, code ≠ [] →
      rewriteFrom n s ((line, code) :: rest)
        =
      let next := ((rest.find? fun next => !next.2.isEmpty).map Prod.snd).getD []
      line :: (read n code next s).2 ++ rewriteFrom (n + 1) (read n code next s).1 rest)
    (lineNo : Nat) {lines : List String} (hlines : Holds codes lines) :
    rewriteFrom lineNo s (lines.zip (lines.map fun line => Text.trim line.toList))
      =
    weave (reported lineNo lines reports) := by
  induction lines generalizing s codes reports lineNo with
  | nil =>
    unfold Holds at hlines
    subst hlines
    cases hruns with
    | nil => exact hend lineNo
  | cons line lines ih =>
    rw [List.map_cons, List.zip_cons_cons, reported]
    rcases hlines.cases with ⟨hempty, hrest⟩ | ⟨rest, hne, rfl, hrest⟩
    · rw [hempty, hskip, if_pos (by simp), ih hruns hread (lineNo + 1) hrest]
      rfl
    · cases hruns with
      | cons h hnext =>
        rw [hread _ _ _ _ _ List.mem_cons_self hne, if_neg (by simp [hne])]
        dsimp only
        have hnone := ih hnext (fun n s line rest code hcode => hread n s line rest code
          (List.mem_cons_of_mem _ hcode)) (lineNo + 1) hrest
        rw [hrest.next_code, h lineNo, hnone]
        rfl

end Runs

end Playback.Source
