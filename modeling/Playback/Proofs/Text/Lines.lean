import Mathlib.Data.List.Basic
import Playback.Text.Lines

/-!
This module contains the laws of lines: what becomes of the lines of a text when the text goes on
behind a newline.
-/

namespace Playback.Text

theorem splitWhen_cons (isSep : Char → Bool) (c : Char) (cs : List Char) :
    splitWhen isSep (c :: cs)
      =
    if isSep c then [] :: splitWhen isSep cs else (splitWhen isSep cs).modifyHead (c :: ·) := by
  rw [splitWhen]
  split
  · rfl
  · cases hparts : splitWhen isSep cs with
    | nil => exact absurd hparts (splitWhen_ne_nil isSep cs)
    | cons part parts => rfl

theorem splitWhen_append_cons {isSep : Char → Bool} {sep : Char} (hsep : isSep sep = true)
    (cs more : List Char) :
    splitWhen isSep (cs ++ sep :: more) = splitWhen isSep cs ++ splitWhen isSep more := by
  induction cs with
  | nil => rw [List.nil_append, splitWhen_cons, if_pos hsep, splitWhen, List.singleton_append]
  | cons c cs ih =>
    rw [List.cons_append, splitWhen_cons, splitWhen_cons, ih]
    split
    · rw [List.cons_append]
    · -- The text in front of the separator has at least one part to which the character belongs.
      cases hparts : splitWhen isSep cs with
      | nil => exact absurd hparts (splitWhen_ne_nil isSep cs)
      | cons part parts => rfl

theorem splitWhen_eq_singleton {isSep : Char → Bool} {cs : List Char}
    (h : ∀ c ∈ cs, isSep c = false) : splitWhen isSep cs = [cs] := by
  induction cs with
  | nil => rfl
  | cons c cs ih =>
    rw [List.forall_mem_cons] at h
    rw [splitWhen_cons, h.1, ih h.2]
    rfl

theorem splitWhen_congr {p q : Char → Bool} {cs : List Char} (h : ∀ c ∈ cs, p c = q c) :
    splitWhen p cs = splitWhen q cs := by
  induction cs with
  | nil => rfl
  | cons c cs ih =>
    rw [List.forall_mem_cons] at h
    rw [splitWhen_cons, splitWhen_cons, h.1, ih h.2]

theorem eq_false_of_mem_splitWhen {isSep : Char → Bool} {cs part : List Char}
    (h : part ∈ splitWhen isSep cs) : ∀ c ∈ part, isSep c = false := by
  induction cs generalizing part with
  | nil =>
    rw [splitWhen, List.mem_singleton] at h
    simp [h]
  | cons c cs ih =>
    rw [splitWhen_cons] at h
    split at h
    · rw [List.mem_cons] at h
      rcases h with rfl | hpart
      · simp
      · exact ih hpart
    · next hc =>
      cases hparts : splitWhen isSep cs with
      | nil => exact absurd hparts (splitWhen_ne_nil isSep cs)
      | cons first parts =>
        rw [hparts, List.modifyHead_cons, List.mem_cons] at h
        rcases h with rfl | hpart
        · rw [List.forall_mem_cons]
          exact ⟨by simpa using hc, ih (by rw [hparts]; apply List.mem_cons_self)⟩
        · exact ih (by rw [hparts]; exact List.mem_cons_of_mem first hpart)

theorem isSep_or_mem_splitWhen (isSep : Char → Bool) {c : Char} {cs : List Char} (h : c ∈ cs) :
    isSep c = true ∨ ∃ part ∈ splitWhen isSep cs, c ∈ part := by
  by_cases hc : isSep c = true
  · exact .inl hc
  · rcases List.append_of_mem h with ⟨front, back, rfl⟩
    right
    induction front with
    | nil =>
      rw [List.nil_append, splitWhen_cons, if_neg hc]
      cases hparts : splitWhen isSep back with
      | nil => exact absurd hparts (splitWhen_ne_nil isSep back)
      | cons part parts => exact ⟨c :: part, by simp, List.mem_cons_self⟩
    | cons d front ih =>
      rcases ih (by simp) with ⟨part, hpart, hmem⟩
      rw [List.cons_append, splitWhen_cons]
      split
      · exact ⟨part, List.mem_cons_of_mem _ hpart, hmem⟩
      · cases hparts : splitWhen isSep (front ++ c :: back) with
        | nil => exact absurd hparts (splitWhen_ne_nil isSep _)
        | cons first parts =>
          rw [hparts, List.mem_cons] at hpart
          rcases hpart with rfl | hpart
          · exact ⟨d :: part, by simp, List.mem_cons_of_mem d hmem⟩
          · exact ⟨part, by simp [hpart], hmem⟩

theorem lines_append_newline (s more : String) :
    lines (s ++ "\n" ++ more) = lines s ++ lines more := by
  have hchars : (s ++ "\n" ++ more).toList = s.toList ++ '\n' :: more.toList := by simp
  unfold lines splitOn
  rw [hchars, splitWhen_append_cons rfl, List.map_append]

theorem lines_ne_nil (s : String) : lines s ≠ [] := by
  unfold lines splitOn
  rw [ne_eq, List.map_eq_nil_iff]
  apply splitWhen_ne_nil

theorem lines_of_not_mem {line : String} (h : '\n' ∉ line.toList) : lines line = [line] := by
  unfold lines splitOn
  rw [splitWhen_eq_singleton]
  · simp
  · intro c hc
    rw [beq_eq_false_iff_ne]
    intro heq
    rw [heq] at hc
    exact h hc

@[simp]
theorem newline_not_mem_toDigits (n : Nat) : '\n' ∉ Nat.toDigits 10 n := by
  intro h
  have hdigit := Nat.isDigit_of_mem_toDigits (by decide) (by decide) h
  contradiction

theorem newline_not_mem_intercalate {sep : String} {parts : List String} (hsep : '\n' ∉ sep.toList)
    (h : ∀ part ∈ parts, '\n' ∉ part.toList) : '\n' ∉ (sep.intercalate parts).toList := by
  induction parts with
  | nil => simp
  | cons part parts ih =>
    rw [List.forall_mem_cons] at h
    cases parts with
    | nil => simpa using h.1
    | cons next parts =>
      have hrest := ih h.2
      simp_all

theorem flatMap_splitWhen_newline (cs : List Char) :
    (splitWhen (· == '\n') cs).flatMap (· ++ ['\n']) = cs ++ ['\n'] := by
  induction cs with
  | nil => rfl
  | cons c cs ih =>
    rw [splitWhen_cons, List.cons_append, ← ih]
    split
    · next hsep => simp [eq_of_beq hsep]
    · cases hparts : splitWhen (· == '\n') cs with
      | nil => exact absurd hparts (splitWhen_ne_nil _ cs)
      | cons part parts => rfl

theorem join_lines (s : String) : String.join ((lines s).map (· ++ "\n")) = s ++ "\n" := by
  have hchars := flatMap_splitWhen_newline s.toList
  unfold lines splitOn
  rw [← String.toList_inj, String.toList_join, String.toList_append, List.flatMap_map,
    List.flatMap_map]
  simpa using hchars

theorem newline_not_mem_of_mem_lines {s line : String} (h : line ∈ lines s) :
    '\n' ∉ line.toList := by
  unfold lines splitOn at h
  rw [List.mem_map] at h
  rcases h with ⟨part, hpart, rfl⟩
  intro hc
  rw [String.toList_ofList] at hc
  have hne := eq_false_of_mem_splitWhen hpart '\n' hc
  contradiction

theorem lines_unlines {ls : List String} (hne : ls ≠ []) : lines (unlines ls) = ls.flatMap lines := by
  induction ls with
  | nil => contradiction
  | cons line ls ih =>
    cases ls with
    | nil => simp [unlines]
    | cons next ls =>
      have hfront : unlines (line :: next :: ls) = line ++ "\n" ++ unlines (next :: ls) := by
        simp [unlines]
      rw [hfront, lines_append_newline, ih (by simp), List.flatMap_cons (x := line)]

theorem flatMap_lines {ls : List String} (h : ∀ line ∈ ls, '\n' ∉ line.toList) :
    ls.flatMap lines = ls := by
  induction ls with
  | nil => rfl
  | cons line ls ih =>
    rw [List.forall_mem_cons] at h
    rw [List.flatMap_cons, lines_of_not_mem h.1, ih h.2, List.singleton_append]

theorem unlines_append_newline {ls : List String} (hne : ls ≠ []) :
    unlines ls ++ "\n" = String.join (ls.map (· ++ "\n")) := by
  induction ls with
  | nil => contradiction
  | cons line ls ih =>
    cases ls with
    | nil => simp [unlines]
    | cons next ls =>
      have hfront : unlines (line :: next :: ls) = line ++ "\n" ++ unlines (next :: ls) := by
        simp [unlines]
      rw [hfront, String.append_assoc, ih (by simp)]
      simp

theorem unlines_lines (s : String) : unlines (lines s) = s := by
  have h := unlines_append_newline (lines_ne_nil s)
  rw [join_lines, String.append_left_inj] at h
  exact h

theorem mem_of_mem_lines {s line : String} (h : line ∈ lines s) {c : Char} (hc : c ∈ line.toList)
    (hne : c ≠ '\n') : c ∈ s.toList := by
  have hjoin : c ∈ (String.join ((lines s).map (· ++ "\n"))).toList := by
    rw [String.toList_join, List.mem_flatMap]
    exact ⟨line ++ "\n", List.mem_map_of_mem h, by simp [hc]⟩
  rw [join_lines] at hjoin
  simpa [hne] using hjoin

theorem closedLines_append_newline (s more : String) :
    closedLines (s ++ "\n" ++ more) = lines s ++ closedLines more := by
  unfold closedLines
  dsimp only
  rw [lines_append_newline, List.getLast?_append_of_ne_nil _ (lines_ne_nil more)]
  split
  · rw [List.dropLast_append_of_ne_nil (lines_ne_nil more)]
  · rfl

theorem closedLines_empty : closedLines "" = [] := by
  decide +kernel

theorem closedLines_prefix_lines (s : String) : closedLines s <+: lines s := by
  unfold closedLines
  dsimp only
  split
  · apply List.dropLast_prefix
  · apply List.prefix_rfl

/--
Whether whatever is added to a text begins on a new line.
-/
def AtLineStart (s : String) : Prop :=
  s.toList.getLast?.getD '\n' = '\n'
deriving Decidable

theorem atLineStart_append_newline (s more : String) :
    AtLineStart (s ++ "\n" ++ more) ↔ AtLineStart more := by
  unfold AtLineStart
  have hchars : (s ++ "\n" ++ more).toList = (s.toList ++ ['\n']) ++ more.toList := by simp
  rw [hchars, List.getLast?_append, List.getLast?_concat]
  cases more.toList.getLast? with
  | none => rfl
  | some c => rfl

theorem AtLineStart.eq_empty {s : String} (h : AtLineStart s) (hnone : '\n' ∉ s.toList) :
    s = "" := by
  unfold AtLineStart at h
  cases hlast : s.toList.getLast? with
  | none => simpa using hlast
  | some c =>
    rw [hlast] at h
    rw [Option.getD_some] at h
    rw [h] at hlast
    exact absurd (List.mem_of_getLast? hlast) hnone

/-
Every text ends in a part without a newline, and in front of that there is nothing or a newline.
-/
theorem exists_eq_append_newline (s : String) :
    '\n' ∉ s.toList ∨ ∃ front rest, s = front ++ "\n" ++ rest ∧ '\n' ∉ rest.toList := by
  by_cases h : '\n' ∈ s.toList
  · rcases List.eq_append_cons_of_mem (List.mem_reverse.mpr h) with ⟨rest, front, heq, hrest⟩
    right
    refine ⟨String.ofList front.reverse, String.ofList rest.reverse, ?_, by simpa using hrest⟩
    rw [List.reverse_eq_iff] at heq
    rw [← String.toList_inj, heq]
    simp
  · exact .inl h

theorem AtLineStart.eq_empty_or {s : String} (h : AtLineStart s) :
    s = "" ∨ ∃ front, s = front ++ "\n" := by
  rcases exists_eq_append_newline s with hnone | ⟨front, rest, rfl, hrest⟩
  · exact .inl (h.eq_empty hnone)
  · rw [atLineStart_append_newline] at h
    rw [h.eq_empty hrest]
    exact .inr ⟨front, by simp⟩

theorem AtLineStart.append {s : String} (h : AtLineStart s) (more : String) :
    AtLineStart (s ++ more) ↔ AtLineStart more := by
  rcases h.eq_empty_or with rfl | ⟨front, rfl⟩
  · rw [String.empty_append]
  · apply atLineStart_append_newline

theorem closedLines_append {s : String} (h : AtLineStart s) (more : String) :
    closedLines (s ++ more) = closedLines s ++ closedLines more := by
  rcases h.eq_empty_or with rfl | ⟨front, rfl⟩
  · rw [String.empty_append, closedLines_empty, List.nil_append]
  · have hfront := closedLines_append_newline front ""
    rw [String.append_empty, closedLines_empty, List.append_nil] at hfront
    rw [closedLines_append_newline, hfront]

/-
The lines of a text stay as they are if the text goes on behind a newline.
-/
theorem closedLines_prefix_append {s more : String}
    (h : AtLineStart s ∨ ∃ rest, more = "\n" ++ rest) :
    closedLines s <+: closedLines (s ++ more) := by
  rcases h with hs | ⟨rest, rfl⟩
  · rw [closedLines_append hs]
    apply List.prefix_append
  · rw [← String.append_assoc, closedLines_append_newline]
    apply (closedLines_prefix_lines s).trans
    apply List.prefix_append

end Playback.Text
