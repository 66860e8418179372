import Playback.Proofs.Json.Escapes
import Playback.Proofs.Text.Replace
import Playback.Script.Prelude

/-!
This module contains what the program in front of a JavaScript program supplies as input: the lines of the
input, with whatever looks like one of the places of the template filled in as well.
-/

namespace Playback.Script

open Json
open Text (replaceAll replaced fill closedLines)

/--
A place of the template and the value for it: the place begins with an underscore, the value has none, and
both are written as they are.
-/
structure Filling (place value : String) : Prop where
  starts : place.toList.head? = some '_'
  plain : Unescaped place.toList
  plain_value : Unescaped value.toList
  unmarked : '_' ∉ value.toList

namespace Filling

variable {place value : String}

theorem ne_nil (h : Filling place value) : place.toList ≠ [] := by
  intro hnil
  have hstarts := h.starts
  rw [hnil] at hstarts
  contradiction

theorem not_mem (h : Filling place value) {c : Char} (hc : Writer.escape c ≠ [c]) :
    c ∉ place.toList :=
  fun hmem => hc (h.plain c hmem)

theorem replaceAll_escapes (h : Filling place value) (cs : List Char) :
    replaceAll place.toList value.toList (cs.flatMap Writer.escape)
      =
    (replaceAll place.toList value.toList cs).flatMap Writer.escape := by
  have hne := h.ne_nil
  induction cs using Text.replaceAll_induction hne with
  | nil => rw [List.flatMap_nil, Text.replaceAll_nil hne, List.flatMap_nil]
  | found cs ih =>
    rw [List.flatMap_append, h.plain.flatMap_escape, Text.replaceAll_append hne, ih,
      Text.replaceAll_append hne, List.flatMap_append, h.plain_value.flatMap_escape]
  | kept c cs hnot ih =>
    rw [List.flatMap_cons, Text.replaceAll_cons hne hnot, List.flatMap_cons, ← ih]
    -- Only an underscore can begin an occurrence, and no escape has one in it.
    by_cases hc : c = '_'
    · have hescape : Writer.escape c = [c] := by
        rw [hc]
        decide
      rw [hescape, List.singleton_append, Text.replaceAll_cons hne, List.singleton_append]
      intro hprefix
      refine hnot (h.plain.isPrefix_of_escapes ?_)
      rw [List.flatMap_cons, hescape]
      exact hprefix
    · apply Text.replaceAll_append_of_head hne
      intro d hd
      rw [h.starts]
      rintro hstart
      cases hstart
      exact not_mem_escape (.inl hc) (by decide) hd

theorem replaceAll_append_of_ne (h : Filling place value) {front : List Char}
    (hfront : '_' ∉ front) (back : List Char) :
    replaceAll place.toList value.toList (front ++ back)
      =
    front ++ replaceAll place.toList value.toList back := by
  apply Text.replaceAll_append_of_head h.ne_nil
  intro c hc
  rw [h.starts]
  rintro hstart
  cases hstart
  exact hfront hc

theorem replaceAll_of_not_mem (h : Filling place value) {cs : List Char} (hcs : '_' ∉ cs) :
    replaceAll place.toList value.toList cs = cs := by
  have hall := h.replaceAll_append_of_ne hcs []
  rw [Text.replaceAll_nil h.ne_nil, List.append_nil] at hall
  exact hall

theorem replaceAll_string (h : Filling place value) (s : String) (rest : List Char) :
    replaceAll place.toList value.toList ((Writer.string s).toList ++ rest)
      =
    (Writer.string (replaced place value s)).toList ++ replaceAll place.toList value.toList rest := by
  have hquote : '"' ∉ place.toList := h.not_mem (by decide)
  have htext : ∀ (s : String) (rest : List Char),
      (Writer.string s).toList ++ rest = ['"'] ++ (s.toList.flatMap Writer.escape ++ '"' :: rest) := by
    intro s rest
    rw [Writer.string, String.toList_ofList]
    simp
  rw [htext, h.replaceAll_append_of_ne (by decide), Text.replaceAll_append_cons h.ne_nil hquote,
    h.replaceAll_escapes, htext, Text.toList_replaced]

theorem replaceAll_items (h : Filling place value) (ls : List String) :
    replaceAll place.toList value.toList (writtenItems .flat 1 (ls.map .str) ++ [']'])
      =
    writtenItems .flat 1 ((ls.map (replaced place value)).map .str) ++ [']'] := by
  induction ls with
  | nil => exact h.replaceAll_of_not_mem (by decide)
  | cons line ls ih =>
    have htext : ∀ (s : String) (items : List Json),
        writtenItems .flat 1 (.str s :: items) ++ [']']
          = [',', ' '] ++ ((Writer.string s).toList ++ (writtenItems .flat 1 items ++ [']'])) := by
      intro s items
      rw [writtenItems_cons, written, Writer.value]
      simp [pauseAt]
    rw [List.map_cons, htext, h.replaceAll_append_of_ne (by decide), h.replaceAll_string, ih,
      List.map_cons, List.map_cons, htext]

/-
The array is made of nothing but brackets, commas and blanks apart from its texts.
-/
theorem replaced_write (h : Filling place value) (ls : List String) :
    replaced place value ((Json.arr (ls.map .str)).write none)
      =
    (Json.arr ((ls.map (replaced place value)).map .str)).write none := by
  rw [← String.toList_inj, Text.toList_replaced]
  change replaceAll _ _ (written .flat 0 (.arr (ls.map .str))) = written .flat 0 (.arr _)
  cases ls with
  | nil =>
    have htext : written .flat 0 (.arr []) = ['[', ']'] := by
      rw [written, Writer.value]
      rfl
    rw [List.map_nil, List.map_nil, List.map_nil, htext, h.replaceAll_of_not_mem (by decide)]
  | cons line ls =>
    have htext : ∀ (s : String) (items : List Json),
        written .flat 0 (.arr (.str s :: items))
          = ['['] ++ ((Writer.string s).toList ++ (writtenItems .flat 1 items ++ [']'])) := by
      intro s items
      rw [written_arr, written, Writer.value]
      simp [gapAt, Writer.Layout.lineBreak]
    rw [List.map_cons, htext, h.replaceAll_append_of_ne (by decide), h.replaceAll_string,
      h.replaceAll_items, List.map_cons, List.map_cons, htext]

end Filling

/-
Filling in the places behind the input takes the text of its lines to the text of other lines.
-/
theorem fill_write {values : List (String × String)} (h : ∀ pair ∈ values, Filling pair.1 pair.2)
    (ls : List String) :
    fill ((Json.arr (ls.map .str)).write none) values
      =
    (Json.arr ((ls.map (fill · values)).map .str)).write none := by
  induction values generalizing ls with
  | nil =>
    have hsame : ls.map (fill · []) = ls := List.map_id ls
    rw [hsame]
    rfl
  | cons pair values ih =>
    rcases pair with ⟨place, value⟩
    rw [List.forall_mem_cons] at h
    have hlines : (ls.map (replaced place value)).map (fill · values)
        = ls.map (fill · ((place, value) :: values)) := by
      rw [List.map_map]
      rfl
    rw [Text.fill_cons, h.1.replaced_write, ih h.2, hlines]

theorem underscore_not_mem_toString (n : Int) : '_' ∉ (toString n).toList := by
  intro hmem
  rcases mem_toString hmem with hdigit | hminus
  · contradiction
  · contradiction

theorem filling_preludeValues (maxSteps : Int) :
    ∀ pair ∈ preludeValues maxSteps, Filling pair.1 pair.2 := by
  unfold preludeValues
  simp only [List.forall_mem_cons, List.not_mem_nil, false_imp_iff, implies_true, and_true]
  refine ⟨?_, ?_, ?_, ?_, ?_, ?_, ?_⟩
  · exact ⟨by decide, by decide, unescaped_toString maxSteps, underscore_not_mem_toString maxSteps⟩
  · exact ⟨by decide, by decide, by decide, by decide⟩
  · exact ⟨by decide, by decide, by decide, by decide⟩
  · exact ⟨by decide, by decide, by decide, by decide⟩
  · exact ⟨by decide, by decide, by decide, by decide⟩
  · exact ⟨by decide, by decide, by decide, by decide⟩
  · exact ⟨by decide, by decide, by decide, by decide⟩

/-
The characters of a long line are looked at one by one only if it is given by them.
-/
theorem not_isInfix_ofList {needle : List Char} (cs : List Char)
    (h : (cs.tails.all fun tail => !needle.isPrefixOf tail) = true) :
    ¬ needle <:+: (String.ofList cs).toList := by
  rw [String.toList_ofList, List.infix_iff_prefix_suffix]
  rintro ⟨tail, hprefix, hsuffix⟩
  rw [List.all_eq_true] at h
  have hnot := h tail (List.mem_tails _ _ |>.mpr hsuffix)
  rw [List.isPrefixOf_iff_prefix.mpr hprefix] at hnot
  contradiction

def inputOpening : String := "var __inputLines = "

/-
How the lines of the template stand around the input.
-/
theorem preludeLines_eq :
    ∃ front back,
      preludeLines = front ++ "var __inputLines = __PT_INPUT__;" :: "var __inputPos = 0;" :: back
        ∧ front ≠ [] ∧ back ≠ []
        ∧ (∀ line ∈ front, ¬ "__PT_".toList <:+: line.toList ∧ ¬ inputOpening.toList <:+: line.toList)
        ∧ ∀ line ∈ back, ¬ "__PT_INPUT__".toList <:+: line.toList := by
  refine ⟨preludeLines.take 10, preludeLines.drop 12, rfl, by decide, by decide, ?_, ?_⟩
  · simp only [preludeLines, List.take_succ_cons, List.take_zero, List.forall_mem_cons, List.not_mem_nil,
      false_imp_iff, implies_true, and_true]
    repeat' apply And.intro
    all_goals exact not_isInfix_ofList _ (by decide +kernel)
  · simp only [preludeLines, List.drop_succ_cons, List.drop_zero, List.forall_mem_cons, List.not_mem_nil,
      false_imp_iff, implies_true, and_true]
    repeat' apply And.intro
    all_goals exact not_isInfix_ofList _ (by decide +kernel)

theorem inputOpening_not_isInfix {front : List String}
    (h : ∀ line ∈ front, ¬ inputOpening.toList <:+: line.toList) :
    ¬ inputOpening.toList <:+: (Text.unlines front ++ "\n" ++ "var __inputLines =").toList := by
  intro hinfix
  rw [String.toList_append, String.toList_append, List.append_assoc] at hinfix
  rcases Text.infix_of_infix_append_cons (by decide) hinfix with hfront | hopening
  · exact Text.not_isInfix_unlines (by decide) (by decide) h hfront
  · revert hopening
    decide

section Places

variable (maxSteps : Int)

def places : List String :=
  "__PT_INPUT__" :: (preludeValues maxSteps).map Prod.fst

theorem places_eq :
    places maxSteps
      =
    ["__PT_INPUT__", "__PT_MAX_STEPS__", "__PT_MAX_TEXT__", "__PT_MAX_ITEMS__", "__PT_STEP_LIMIT__",
      "__PT_INPUT_EXHAUSTED__", "__PT_OBJ_PREFIX__", "__PT_GLOBAL_FRAME__"] := rfl

theorem place_not_isInfix {line : String} (h : ¬ "__PT_".toList <:+: line.toList) :
    ∀ place ∈ places maxSteps, ¬ place.toList <:+: line.toList := by
  have hstart : ∀ place ∈ places maxSteps, "__PT_".toList <+: place.toList := by
    rw [places_eq]
    decide
  intro place hplace hinfix
  exact h ((hstart place hplace).isInfix.trans hinfix)

theorem place_within {c : Char} (hc : c ∈ ['\n', ' ', ';']) :
    ∀ place ∈ places maxSteps, place.toList ≠ [] ∧ c ∉ place.toList := by
  rw [places_eq]
  revert c
  decide

theorem place_within_later {c : Char} (hc : c ∈ ['\n', ' ', ';']) :
    ∀ place ∈ (preludeValues maxSteps).map Prod.fst, place.toList ≠ [] ∧ c ∉ place.toList :=
  fun place hplace => place_within maxSteps hc place (List.mem_cons_of_mem _ hplace)

variable (input : String)

theorem fill_line {line : String} (h : ¬ "__PT_INPUT__".toList <:+: line.toList) :
    fill line (("__PT_INPUT__", input) :: preludeValues maxSteps) = fill line (preludeValues maxSteps) := by
  rw [Text.fill_cons, Text.replaced_eq_self h]

theorem fill_plainLine {line : String} (h : ¬ "__PT_".toList <:+: line.toList) :
    fill line (("__PT_INPUT__", input) :: preludeValues maxSteps) = line :=
  Text.fill_eq_self (place_not_isInfix maxSteps h)

theorem fill_inputLine :
    fill "var __inputLines = __PT_INPUT__;" (("__PT_INPUT__", input) :: preludeValues maxSteps)
      =
    inputOpening ++ fill input (preludeValues maxSteps) ++ ";" := by
  have hline : "var __inputLines = __PT_INPUT__;"
      = "var __inputLines =" ++ " " ++ "__PT_INPUT__" ++ ";" ++ "" := by
    simp
  have hopening : inputOpening = "var __inputLines =" ++ " " := by
    simp [inputOpening]
  have hsame : ∀ line : String, ¬ "__PT_".toList <:+: line.toList →
      replaced "__PT_INPUT__" input line = line ∧ fill line (preludeValues maxSteps) = line := by
    intro line hnot
    have hplaces := place_not_isInfix maxSteps hnot
    unfold places at hplaces
    rw [List.forall_mem_cons] at hplaces
    exact ⟨Text.replaced_eq_self hplaces.1, Text.fill_eq_self hplaces.2⟩
  have hfront := hsame "var __inputLines =" (by decide)
  have hback := hsame "" (by decide)
  rw [hline, Text.fill_cons, Text.replaced_append (c := ';') rfl (by decide) (by decide),
    Text.replaced_append (c := ' ') rfl (by decide) (by decide), Text.replaced_self (by decide), hfront.1,
    hback.1, Text.fill_append rfl (place_within_later maxSteps (c := ';') (by decide)),
    Text.fill_append rfl (place_within_later maxSteps (c := ' ') (by decide)), hfront.2, hback.2, hopening,
    String.append_empty]

/-
The template is filled in line by line. Only one of its lines has the place of the input.
-/
theorem fill_inputLines {front back : List String} (hfrontne : front ≠ []) (hbackne : back ≠ [])
    (hfront : ∀ line ∈ front, ¬ "__PT_".toList <:+: line.toList)
    (hback : ∀ line ∈ back, ¬ "__PT_INPUT__".toList <:+: line.toList) :
    fill (Text.unlines (front ++ "var __inputLines = __PT_INPUT__;" :: "var __inputPos = 0;" :: back))
        (("__PT_INPUT__", input) :: preludeValues maxSteps)
      =
    Text.unlines front ++ "\n" ++ inputOpening ++ fill input (preludeValues maxSteps) ++ ";\nvar __inputPos"
      ++ (" = 0;" ++ "\n" ++ Text.unlines (back.map (fill · (preludeValues maxSteps)))) := by
  have hwithin : ∀ place ∈ (("__PT_INPUT__", input) :: preludeValues maxSteps).map Prod.fst,
      place.toList ≠ [] ∧ '\n' ∉ place.toList :=
    place_within maxSteps (by decide)
  have hbefore : front.map (fill · (("__PT_INPUT__", input) :: preludeValues maxSteps)) = front.map id :=
    List.map_congr_left fun line hline => fill_plainLine maxSteps input (hfront line hline)
  have hafter : back.map (fill · (("__PT_INPUT__", input) :: preludeValues maxSteps))
      = back.map (fill · (preludeValues maxSteps)) :=
    List.map_congr_left fun line hline => fill_line maxSteps input (hback line hline)
  have hposition : fill "var __inputPos = 0;" (("__PT_INPUT__", input) :: preludeValues maxSteps)
      = "var __inputPos" ++ " = 0;" := by
    rw [fill_plainLine maxSteps input (by decide)]
    simp
  have hend : ";\nvar __inputPos" = ";" ++ "\n" ++ "var __inputPos" := by
    simp
  have hbackne : back.map (fill · (preludeValues maxSteps)) ≠ [] := by
    simpa using hbackne
  rw [List.map_id] at hbefore
  rw [Text.fill_unlines hwithin (by simp), List.map_append, List.map_cons, List.map_cons, hbefore, hafter,
    hposition, fill_inputLine, Text.unlines_append hfrontne (by simp), Text.unlines_cons (by simp),
    Text.unlines_cons hbackne, hend]
  simp only [String.append_assoc]

theorem prelude_eq :
    ∃ front back : String,
      ¬ inputOpening.toList <:+: (front ++ "var __inputLines =").toList
        ∧ ∀ stdin,
          prelude stdin maxSteps
            =
          front ++ inputOpening
            ++ (Json.arr (((closedLines stdin).map (fill · (preludeValues maxSteps))).map .str)).write none
            ++ ";\nvar __inputPos" ++ back := by
  rcases preludeLines_eq with ⟨front, back, hlines, hfrontne, hbackne, hfront, hback⟩
  refine ⟨Text.unlines front ++ "\n",
    " = 0;" ++ "\n" ++ Text.unlines (back.map (fill · (preludeValues maxSteps))),
    inputOpening_not_isInfix fun line hline => (hfront line hline).2, ?_⟩
  intro stdin
  rw [← fill_write (filling_preludeValues maxSteps), prelude, preludeTemplate, hlines, ← Text.unlines,
    fill_inputLines maxSteps _ hfrontne hbackne (fun line hline => (hfront line hline).1) hback]

/--
The input stands in one line of the program, which is the same for every input everywhere else. What is read
there are the lines of the input with the other places of the template filled in, so it is the input exactly
if none of its lines has such a place.
-/
theorem prelude_input :
    ∃ front back : String,
      ¬ inputOpening.toList <:+: (front ++ "var __inputLines =").toList
        ∧ ∀ stdin, ∃ text,
          prelude stdin maxSteps = front ++ inputOpening ++ text ++ ";\nvar __inputPos" ++ back
            ∧ '\n' ∉ text.toList
            ∧ Json.read text
                = .ok (.arr ((closedLines stdin).map fun line => .str (fill line (preludeValues maxSteps))))
            ∧ (Json.read text = .ok (.arr ((closedLines stdin).map .str))
                ↔
              ∀ line ∈ closedLines stdin, ∀ place ∈ (preludeValues maxSteps).map Prod.fst,
                ¬ place.toList <:+: line.toList) := by
  rcases prelude_eq maxSteps with ⟨front, back, hopening, hprelude⟩
  refine ⟨front, back, hopening, ?_⟩
  intro stdin
  generalize hlines : (closedLines stdin).map (fill · (preludeValues maxSteps)) = filled
  have hread := read_texts filled
  have hfilled : (closedLines stdin).map (fun line => Json.str (fill line (preludeValues maxSteps)))
      = filled.map .str := by
    rw [← hlines, List.map_map]
    rfl
  refine ⟨(Json.arr (filled.map .str)).write none, ?_, newline_not_mem_write filled, ?_, ?_⟩
  · rw [hprelude, hlines]
  · rw [hread, hfilled]
  · -- An underscore goes with each place that is filled in, and none comes back.
    have hmark : ∀ pair ∈ preludeValues maxSteps, '_' ∈ pair.1.toList ∧ '_' ∉ pair.2.toList := by
      intro pair hpair
      have hfilling := filling_preludeValues maxSteps pair hpair
      exact ⟨List.mem_of_head? hfilling.starts, hfilling.unmarked⟩
    have hsame : filled = closedLines stdin
        ↔ ∀ line ∈ closedLines stdin, fill line (preludeValues maxSteps) = line := by
      rw [← hlines]
      nth_rewrite 2 [← List.map_id (closedLines stdin)]
      exact List.map_inj_left
    rw [hread, Except.ok.injEq, Json.arr.injEq,
      (List.map_injective_iff.mpr fun _ _ h => Json.str.inj h).eq_iff, hsame]
    refine forall₂_congr fun line _ => ?_
    exact Text.fill_eq_self_iff hmark line

theorem prelude_input_fails :
    closedLines "__PT_MAX_STEPS__\n" = ["__PT_MAX_STEPS__"]
      ∧ (∃ front back,
          ¬ inputOpening.toList <:+: (front ++ "var __inputLines =").toList
            ∧ prelude "__PT_MAX_STEPS__\n" 5
                = front ++ inputOpening ++ "[\"5\"]" ++ ";\nvar __inputPos" ++ back)
      ∧ Json.read "[\"5\"]" = .ok (.arr [.str "5"]) := by
  have hlines : closedLines "__PT_MAX_STEPS__\n" = ["__PT_MAX_STEPS__"] := by
    decide
  have hfilled : fill "__PT_MAX_STEPS__" (preludeValues 5) = "5" := by
    decide
  have htext : (Json.arr [.str "5"]).write none = "[\"5\"]" := by
    decide
  have hread := read_texts ["5"]
  rw [List.map_singleton, htext] at hread
  rcases prelude_eq 5 with ⟨front, back, hopening, hprelude⟩
  refine ⟨hlines, ⟨front, back, hopening, ?_⟩, hread⟩
  rw [hprelude, hlines, List.map_singleton, hfilled, List.map_singleton, htext]

end Places

end Playback.Script
