import Playback.Proofs.Pattern.Search
import Playback.Proofs.Screening.Padding
import Playback.Proofs.Text.Blank

/-!
This module contains which imports of host modules the screening of Python programs finds: those that begin a
line. One that stands behind another statement of its line, or behind the colon that opens a block, is passed
over.
-/

namespace Playback.Screening

open Pattern

section Grammar

/--
Whether what stands behind a text begins a line.
-/
def EndsLine (front : List Char) : Prop :=
  front = [] ∨ ∃ above, front = above ++ ['\n']

def isGap (c : Char) : Bool :=
  c == ' ' || c == '\t'

/--
ASCII names with dots between them.
-/
inductive DottedName : List Char → Prop where
  | name {part : List Char} (hhead : part.head?.any Text.isIdentStart = true)
      (hpart : ∀ c ∈ part, (c == '_' || c.isAlphanum) = true) : DottedName part
  | dot {m part : List Char} (hm : DottedName m) (hpart : DottedName part) :
      DottedName (m ++ '.' :: part)

/--
The names of modules with commas between them.
-/
inductive ModuleList : List (List Char) → List Char → Prop where
  | last {m : List Char} (hm : DottedName m) : ModuleList [m] m
  | more {m gap gap' rest : List Char} {ms : List (List Char)} (hm : DottedName m)
      (hgap : ∀ c ∈ gap, isGap c = true) (hgap' : ∀ c ∈ gap', isGap c = true)
      (hrest : ModuleList ms rest) : ModuleList (m :: ms) (m ++ gap ++ ',' :: gap' ++ rest)

/--
A statement that imports modules.
-/
inductive ImportStatement : List (List Char) → List Char → Prop where
  | intro {ms : List (List Char)} {gap list : List Char} (hne : gap ≠ [])
      (hgap : ∀ c ∈ gap, isGap c = true) (hlist : ModuleList ms list) :
      ImportStatement ms ("import".toList ++ gap ++ list)

/--
Whether a simple statement may stand behind a text: at the start of a line, or behind a semicolon or colon
that no quote and no comment stands in front of.
-/
inductive BeginsStatement : List Char → Prop where
  | line {front : List Char} (hfront : EndsLine front) : BeginsStatement front
  | behind {above line : List Char} {sep : Char} (habove : EndsLine above)
      (hline : ∀ c ∈ line, c ∉ ['\n', '\'', '"', '#']) (hsep : sep ∈ [';', ':']) :
      BeginsStatement (above ++ line ++ [sep])

end Grammar

section HostImport

/--
The modules that give a program access to the host.
-/
def hostNames : List String := ["os", "subprocess", "sys"]

def isListChar (c : Char) : Bool :=
  Text.isWordChar c || [' ', '\t', ',', '.'].contains c

/--
A line up to a host module that it imports, whatever is imported in front of it.
-/
structure HostImport where
  indent : List Char
  gap : List Char
  others : List Char
  host : String
  indent_blank : ∀ c ∈ indent, Text.isBlank c = true
  gap_ne_nil : gap ≠ []
  gap_blank : ∀ c ∈ gap, Text.isBlank c = true
  others_listed : ∀ c ∈ others, isListChar c = true
  apart : (gap ++ others).getLast?.any Text.isWordChar = false
  host_mem : host ∈ hostNames

def HostImport.chars (i : HostImport) : List Char :=
  i.indent ++ "import".toList ++ i.gap ++ i.others ++ i.host.toList

def ImportsHost (cs : List Char) : Prop :=
  ∃ front back, ∃ i : HostImport, cs = front ++ i.chars ++ back ∧ EndsLine front
    ∧ back.head?.any Text.isWordChar = false

theorem all_lastOf_iff (front : List Char) :
    (lastOf none front).all (· == '\n') = true ↔ EndsLine front := by
  unfold EndsLine
  rw [lastOf_eq, Option.or_none]
  rcases List.eq_nil_or_concat front with rfl | ⟨above, c, rfl⟩
  · simp
  · simp

theorem lastOf_eq_getLast? {cs : List Char} (hne : cs ≠ []) (before : Option Char) :
    lastOf before cs = cs.getLast? := by
  rw [lastOf_eq, List.getLast?_eq_some_getLast hne, Option.some_or]

theorem any_head_host {host : String} (h : host ∈ hostNames) (back : List Char) :
    (host.toList ++ back).head?.any Text.isWordChar = true := by
  simp only [hostNames, List.mem_cons, List.not_mem_nil, or_false] at h
  rcases h with rfl | rfl | rfl
  all_goals rfl

theorem any_lastOf_host {host : String} (h : host ∈ hostNames) (before : Option Char) :
    (lastOf before host.toList).any Text.isWordChar = true := by
  simp only [hostNames, List.mem_cons, List.not_mem_nil, or_false] at h
  rcases h with rfl | rfl | rfl
  all_goals rfl

/-
The pattern for the import of a host module occurs in the texts with a line that imports one.
-/
theorem occursIn_import_iff (cs : List Char) :
    (pythonDangers.head (by simp [pythonDangers])).pattern.occursIn cs = true ↔ ImportsHost cs := by
  rw [occursIn_iff]
  simp only [pythonDangers, List.head_cons, run_append, blanks, blank, lineStart, wordBoundary, hostModules,
    isSome_run_look, isSome_run_star_char, isSome_run_plus_char, isSome_run_text, isSome_run_oneOf,
    Option.isSome_some, and_true]
  constructor
  · rintro ⟨front, _, rfl, hfront, indent, _, rfl, hindent, _, rfl, gap, _, rfl, hne, hgap, others, _, rfl,
      hothers, hapart, host, hhost, back, rfl, hback⟩
    rw [any_head_host hhost, ← lastOf_append, lastOf_eq_getLast? (by simp [hne])] at hapart
    rw [any_lastOf_host hhost] at hback
    refine ⟨front, back, ⟨indent, gap, others, host, hindent, hne, hgap, hothers, ?_, hhost⟩, ?_,
      (all_lastOf_iff front).mp hfront, ?_⟩
    · simpa using hapart
    · simp [HostImport.chars]
    · simpa using hback
  · rintro ⟨front, back, ⟨indent, gap, others, host, hindent, hne, hgap, hothers, hapart, hhost⟩, rfl,
      hfront, hback⟩
    refine ⟨front, _, by rw [List.append_assoc], (all_lastOf_iff front).mpr hfront, indent, _,
      by simp only [HostImport.chars, List.append_assoc], hindent, _, rfl, gap, _, rfl, hne, hgap, others,
      _, rfl, hothers, ?_, host, hhost, back, rfl, ?_⟩
    · rw [any_head_host hhost, ← lastOf_append, lastOf_eq_getLast? (by simp [hne]), hapart]
      rfl
    · rw [any_lastOf_host hhost, hback]
      rfl

/-
An operation is found in a Python program if a line of it imports a host module, or if another one is found.
-/
theorem exists_pythonDanger_iff (cs : List Char) :
    (∃ d ∈ pythonDangers, d.pattern.occursIn cs = true)
      ↔
    ImportsHost cs ∨ ∃ d ∈ pythonDangers.tail, d.pattern.occursIn cs = true := by
  rw [← occursIn_import_iff]
  exact List.exists_mem_cons_iff (·.pattern.occursIn cs = true) _ pythonDangers.tail

end HostImport

section Lines

theorem EndsLine.append_cons {front : List Char} (h : EndsLine front) (above : List Char) :
    EndsLine (above ++ '\n' :: front) := by
  rcases h with rfl | ⟨lines, rfl⟩
  · exact .inr ⟨above, rfl⟩
  · exact .inr ⟨above ++ '\n' :: lines, by simp⟩

theorem EndsLine.of_append_cons {front cs : List Char} {sep : Char} (h : EndsLine (front ++ sep :: cs))
    (hsep : sep ≠ '\n') : ∃ above, cs = above ++ ['\n'] := by
  rcases h with hnil | ⟨above, heq⟩
  · simp at hnil
  · have hlast := congrArg List.getLast? heq
    rcases List.eq_nil_or_concat cs with rfl | ⟨cs, c, rfl⟩
    · simp [hsep] at hlast
    · rw [List.concat_eq_append, ← List.cons_append, ← List.append_assoc, List.getLast?_concat,
        List.getLast?_concat, Option.some_inj] at hlast
      exact ⟨cs, by rw [hlast, List.concat_eq_append]⟩

theorem HostImport.not_mem_chars (i : HostImport) {sep : Char} (hsep : sep ∈ [';', ':']) :
    sep ∉ i.chars := by
  have hplain : Text.isBlank sep = false ∧ isListChar sep = false ∧ sep ∉ "import".toList
      ∧ ∀ host ∈ hostNames, sep ∉ host.toList := by
    revert sep
    decide +kernel
  rcases hplain with ⟨hblank, hlisted, himport, hhost⟩
  simp only [chars, List.mem_append, not_or]
  refine ⟨⟨⟨⟨?_, himport⟩, ?_⟩, ?_⟩, hhost i.host i.host_mem⟩
  · exact fun h => by simp [i.indent_blank sep h] at hblank
  · exact fun h => by simp [i.gap_blank sep h] at hblank
  · exact fun h => by simp [i.others_listed sep h] at hlisted

/-
A piece of a text that a character is no part of stands in front of it or behind it.
-/
theorem append_cons_eq_append {sep : Char} {front rest more word back : List Char} (hword : sep ∉ word)
    (h : front ++ sep :: rest = more ++ word ++ back) (hne : word ≠ []) :
    (∃ cs, front = more ++ word ++ cs ∧ back = cs ++ sep :: rest)
      ∨ ∃ cs, more = front ++ sep :: cs ∧ rest = cs ++ word ++ back := by
  rw [List.append_assoc] at h
  rcases List.append_eq_append_iff.mp h with ⟨between, rfl, hrest⟩ | ⟨between, rfl, hrest⟩
  · rcases List.cons_eq_append_iff.mp hrest with ⟨_, hword'⟩ | ⟨cs, rfl, hcs⟩
    · rcases List.append_eq_cons_iff.mp hword' with ⟨hnil, _⟩ | ⟨_, rfl, _⟩
      · contradiction
      · simp at hword
    · exact .inr ⟨cs, rfl, by rw [hcs, List.append_assoc]⟩
  · rcases List.append_eq_append_iff.mp hrest with ⟨cs, rfl, hback⟩ | ⟨tail, rfl, htail⟩
    · exact .inl ⟨cs, by rw [List.append_assoc], hback⟩
    · rcases List.cons_eq_append_iff.mp htail with ⟨rfl, hback⟩ | ⟨_, rfl, _⟩
      · exact .inl ⟨[], by simp, hback⟩
      · simp at hword

theorem HostImport.chars_ne_nil (i : HostImport) : i.chars ≠ [] := by
  simp [chars]

theorem importsHost_append_cons {front rest : List Char} {sep : Char} (hsep : sep ∈ [';', ':']) :
    ImportsHost (front ++ sep :: rest)
      ↔
    ImportsHost front ∨ ∃ above below, rest = above ++ '\n' :: below ∧ ImportsHost below := by
  have hplain : Text.isWordChar sep = false ∧ sep ≠ '\n' := by
    revert sep
    decide +kernel
  constructor
  · rintro ⟨more, back, i, heq, hmore, hback⟩
    rcases append_cons_eq_append (i.not_mem_chars hsep) heq i.chars_ne_nil with
      ⟨cs, rfl, rfl⟩ | ⟨cs, rfl, rfl⟩
    · refine .inl ⟨more, cs, i, rfl, hmore, ?_⟩
      cases cs with
      | nil => rfl
      | cons c cs => exact hback
    · -- Behind the separator, the line that the import begins is another one.
      rcases hmore.of_append_cons hplain.2 with ⟨above, rfl⟩
      exact .inr ⟨above, i.chars ++ back, by simp, [], back, i, rfl, .inl rfl, hback⟩
  · rintro (⟨more, back, i, rfl, hmore, hback⟩ | ⟨above, _, rfl, more, back, i, rfl, hmore, hback⟩)
    · refine ⟨more, back ++ sep :: rest, i, by simp, hmore, ?_⟩
      cases back with
      | nil => exact hplain.1
      | cons c back => exact hback
    · refine ⟨front ++ sep :: above ++ '\n' :: more, back, i, by simp, ?_, hback⟩
      exact hmore.append_cons _

end Lines

section Statements

theorem isListChar_of_isGap {c : Char} (h : isGap c = true) : isListChar c = true := by
  simp only [isGap, Bool.or_eq_true, beq_iff_eq] at h
  rcases h with rfl | rfl
  all_goals rfl

theorem isBlank_of_isGap {c : Char} (h : isGap c = true) : Text.isBlank c = true := by
  simp only [isGap, Bool.or_eq_true, beq_iff_eq] at h
  rcases h with rfl | rfl
  all_goals rfl

theorem DottedName.listed {m : List Char} (h : DottedName m) : ∀ c ∈ m, isListChar c = true := by
  induction h with
  | name _ hpart =>
    intro c hc
    have hname := hpart c hc
    unfold isListChar Text.isWordChar Text.isAlphanumeric
    rw [Bool.or_eq_true] at hname
    rcases hname with hunderscore | halpha
    · simp [hunderscore]
    · simp [halpha]
  | dot _ _ ihm ihpart =>
    simp only [List.forall_mem_append, List.forall_mem_cons]
    exact ⟨ihm, rfl, ihpart⟩

theorem ModuleList.listed {ms : List (List Char)} {list : List Char} (h : ModuleList ms list) :
    ∀ c ∈ list, isListChar c = true := by
  induction h with
  | last hm => exact hm.listed
  | more hm hgap hgap' _ ih =>
    simp only [List.forall_mem_append, List.forall_mem_cons]
    exact ⟨⟨⟨hm.listed, fun c hc => isListChar_of_isGap (hgap c hc)⟩,
      rfl, fun c hc => isListChar_of_isGap (hgap' c hc)⟩, ih⟩

theorem any_getLast?_append {p : Char → Bool} {front back : List Char}
    (hfront : front.getLast?.any p = false) (hback : back.getLast?.any p = false) :
    (front ++ back).getLast?.any p = false := by
  rw [List.getLast?_append]
  cases hlast : back.getLast? with
  | none => exact hfront
  | some c =>
    rw [hlast] at hback
    exact hback

theorem any_getLast?_of_isGap {gap : List Char} (h : ∀ c ∈ gap, isGap c = true) :
    gap.getLast?.any Text.isWordChar = false := by
  cases hlast : gap.getLast? with
  | none => rfl
  | some c => exact Text.isWordChar_of_isBlank (isBlank_of_isGap (h c (List.mem_of_getLast? hlast)))

/-
A module of a list stands by itself: no word goes on to its left or to its right.
-/
theorem ModuleList.exists_append {ms : List (List Char)} {list m : List Char} (h : ModuleList ms list)
    (hm : m ∈ ms) :
    ∃ others rest, list = others ++ m ++ rest ∧ others.getLast?.any Text.isWordChar = false
      ∧ rest.head?.any Text.isWordChar = false := by
  induction h with
  | last _ =>
    rw [List.mem_singleton] at hm
    exact ⟨[], [], by simp [hm], rfl, rfl⟩
  | @more m' gap gap' list ms _ hgap hgap' _ ih =>
    rcases List.mem_cons.mp hm with rfl | hm
    · refine ⟨[], gap ++ ',' :: gap' ++ list, by simp, rfl, ?_⟩
      cases gap with
      | nil => rfl
      | cons c gap => exact Text.isWordChar_of_isBlank (isBlank_of_isGap (hgap c (by simp)))
    · rcases ih hm with ⟨others, rest, rfl, hapart, hrest⟩
      refine ⟨m' ++ gap ++ ',' :: gap' ++ others, rest, by simp, ?_, hrest⟩
      apply any_getLast?_append _ hapart
      rw [List.append_cons]
      apply any_getLast?_append _ (any_getLast?_of_isGap hgap')
      rw [List.getLast?_concat]
      rfl

variable {ms : List (List Char)} {front indent statement back : List Char}

theorem ImportStatement.newline_not_mem (h : ImportStatement ms statement) : '\n' ∉ statement := by
  rcases h with ⟨_, hgap, hlist⟩
  simp only [List.mem_append, not_or]
  refine ⟨⟨by decide +kernel, ?_⟩, ?_⟩
  · intro hmem
    have hnewline := hgap '\n' hmem
    contradiction
  · intro hmem
    have hnewline := hlist.listed '\n' hmem
    revert hnewline
    decide +kernel

/-
The import of a host module that begins a line is found.
-/
theorem importsHost_of_endsLine (hfront : EndsLine front)
    (hindent : ∀ c ∈ indent, Text.isBlank c = true ∧ c ≠ '\n')
    (h : ImportStatement ms statement) (hhost : ∃ host ∈ hostNames, host.toList ∈ ms)
    (hback : back.head?.any Text.isWordChar = false) :
    ImportsHost (front ++ indent ++ statement ++ back) := by
  rcases h with ⟨hne, hgap, hlist⟩
  rcases hhost with ⟨host, hhost, hmem⟩
  rcases hlist.exists_append hmem with ⟨others, rest, rfl, hapart, hrest⟩
  have hlisted := hlist.listed
  simp only [List.forall_mem_append] at hlisted
  let i : HostImport :=
    { indent, gap := _, others, host
      indent_blank := fun c hc => (hindent c hc).1
      gap_ne_nil := hne
      gap_blank := fun c hc => isBlank_of_isGap (hgap c hc)
      others_listed := hlisted.1.1
      apart := any_getLast?_append (any_getLast?_of_isGap hgap) hapart
      host_mem := hhost }
  refine ⟨front, rest ++ back, i, by simp [i, HostImport.chars], hfront, ?_⟩
  cases rest with
  | nil => exact hback
  | cons c rest => exact hrest

/-
A piece without line breaks puts off the lines that follow.
-/
theorem exists_newline_append_iff {word : List Char} (hword : '\n' ∉ word) (p : List Char → Prop) :
    (∃ above below, word ++ back = above ++ '\n' :: below ∧ p below)
      ↔
    ∃ above below, back = above ++ '\n' :: below ∧ p below := by
  constructor
  · rintro ⟨above, below, heq, hbelow⟩
    rcases List.append_eq_append_iff.mp heq with ⟨rest, rfl, hback⟩ | ⟨rest, rfl, hrest⟩
    · exact ⟨rest, below, hback, hbelow⟩
    · rcases List.cons_eq_append_iff.mp hrest with ⟨_, hback⟩ | ⟨_, rfl, _⟩
      · exact ⟨[], below, hback, hbelow⟩
      · simp at hword
  · rintro ⟨above, below, rfl, hbelow⟩
    exact ⟨word ++ above, below, by rw [List.append_assoc], hbelow⟩

/-
A statement that imports a host module is found if it begins a line. Otherwise the text in front of it and
the lines behind its own decide alone.
-/
theorem importsHost_statement_iff (hfront : BeginsStatement front)
    (hindent : ∀ c ∈ indent, Text.isBlank c = true ∧ c ≠ '\n')
    (h : ImportStatement ms statement) (hhost : ∃ host ∈ hostNames, host.toList ∈ ms)
    (hback : back.head?.any Text.isWordChar = false) :
    ImportsHost (front ++ indent ++ statement ++ back)
      ↔
    EndsLine front ∨ ImportsHost front
      ∨ ∃ above below, back = above ++ '\n' :: below ∧ ImportsHost below := by
  cases hfront with
  | line hfront =>
    have hfound := importsHost_of_endsLine hfront hindent h hhost hback
    exact iff_of_true hfound (.inl hfront)
  | @behind above line sep _ _ hsep =>
    have hplain : sep ≠ '\n' := by
      rintro rfl
      simp at hsep
    -- No line begins behind the separator.
    have hline : ¬ EndsLine (above ++ line ++ [sep]) := by
      intro hends
      rcases hends.of_append_cons hplain with ⟨_, hnil⟩
      simp at hnil
    have hword : '\n' ∉ indent ++ statement := by
      rw [List.mem_append, not_or]
      exact ⟨fun hmem => (hindent '\n' hmem).2 rfl, h.newline_not_mem⟩
    have hsource : above ++ line ++ [sep] ++ indent ++ statement ++ back
        = above ++ line ++ sep :: (indent ++ statement ++ back) := by
      simp
    rw [hsource, importsHost_append_cons hsep, exists_newline_append_iff hword, or_iff_right hline,
      importsHost_append_cons hsep]
    simp

/--
The import of a host module leads to the refusal of a program if it begins a line. Behind a semicolon or
a colon it makes no difference: such a program is refused only if another line imports a host module, if it
is too long, or if another dangerous operation is found in it.

Here a line ends in a newline, and spaces and tabs stand between words. Behind a carriage return an import
is passed over too, and so is one whose modules are parted by a form feed or by a backslash at the end of a
line.
-/
theorem import_rejected_iff (hfront : BeginsStatement front)
    (hindent : ∀ c ∈ indent, Text.isBlank c = true ∧ c ≠ '\n')
    (h : ImportStatement ms statement) (hhost : ∃ host ∈ hostNames, host.toList ∈ ms)
    (hback : back.head?.any Text.isWordChar = false) (maxLength : Int) :
    let source := front ++ indent ++ statement ++ back
    (rejection? (String.ofList source) (some .python) maxLength true).isSome = true
      ↔
    EndsLine front ∨ ImportsHost front
      ∨ (∃ above below, back = above ++ '\n' :: below ∧ ImportsHost below)
      ∨ maxLength < source.length ∨ ∃ d ∈ pythonDangers.tail, d.pattern.occursIn source = true := by
  intro source
  have hblank : ¬ source.all Text.isBlank = true := by
    intro hall
    have hletter := List.all_eq_true.mp hall 'i' (by rcases h with ⟨_, _, _⟩; simp [source])
    contradiction
  have hdangers : (some Language.python).elim [] dangers = pythonDangers := rfl
  rw [isSome_rejection?_iff, String.toList_ofList, hdangers, exists_pythonDanger_iff,
    importsHost_statement_iff hfront hindent h hhost hback, or_iff_right hblank, or_left_comm, or_assoc,
    or_assoc]

/--
A line that imports a host module among other ones is found, whatever stands above it.
-/
theorem import_rejected_iff_listed :
    BeginsStatement "x = 1\n".toList
      ∧ ImportStatement ["math".toList, "subprocess".toList] "import math,\tsubprocess".toList
      ∧ (rejection? "x = 1\n    import math,\tsubprocess # y" (some .python) defaultMaxLength true).isSome
        = true := by
  have hfront : EndsLine "x = 1\n".toList := .inr ⟨"x = 1".toList, rfl⟩
  have hmath : DottedName "math".toList := .name rfl (by decide +kernel)
  have hhost : DottedName "subprocess".toList := .name rfl (by decide +kernel)
  have hnone : ∀ c ∈ "".toList, isGap c = true := by decide
  have htab : ∀ c ∈ "\t".toList, isGap c = true := by decide
  have hspace : ∀ c ∈ " ".toList, isGap c = true := by decide
  have hlist : ModuleList ["math".toList, "subprocess".toList] "math,\tsubprocess".toList :=
    .more hmath hnone htab (.last hhost)
  have hstatement : ImportStatement ["math".toList, "subprocess".toList]
      "import math,\tsubprocess".toList := .intro (by decide) hspace hlist
  have hsource : String.ofList ("x = 1\n".toList ++ "    ".toList ++ "import math,\tsubprocess".toList
      ++ " # y".toList) = "x = 1\n    import math,\tsubprocess # y" := by decide +kernel
  refine ⟨.line hfront, hstatement, ?_⟩
  rw [← hsource]
  exact (import_rejected_iff (.line hfront) (by decide +kernel) hstatement
    ⟨"subprocess", by decide, by simp⟩ rfl defaultMaxLength).mpr (.inl hfront)

/--
An import of a host module that stands behind another statement of its line is passed over.
-/
theorem import_passed_over :
    BeginsStatement "x = 1;".toList ∧ (∀ c ∈ " ".toList, Text.isBlank c = true ∧ c ≠ '\n')
      ∧ ImportStatement ["os".toList] "import os".toList
      ∧ "x = 1; import os".toList = "x = 1;".toList ++ " ".toList ++ "import os".toList
      ∧ rejection? "x = 1; import os" (some .python) defaultMaxLength true = none := by
  have habove : EndsLine "".toList := .inl rfl
  have hline : ∀ c ∈ "x = 1".toList, c ∉ ['\n', '\'', '"', '#'] := by decide
  have hsemicolon : ';' ∈ [';', ':'] := by decide
  have hfront : BeginsStatement "x = 1;".toList := .behind habove hline hsemicolon
  have hhost : DottedName "os".toList := .name rfl (by decide +kernel)
  have hspace : ∀ c ∈ " ".toList, isGap c = true := by decide
  have hstatement : ImportStatement ["os".toList] "import os".toList :=
    .intro (by decide) hspace (.last hhost)
  exact ⟨hfront, by decide +kernel, hstatement, by decide +kernel, by decide +kernel⟩

end Statements

end Playback.Screening
