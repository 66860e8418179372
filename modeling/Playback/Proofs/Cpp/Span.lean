import Mathlib.Data.List.Chain
import Playback.Proofs.Cpp.Body
import Playback.Proofs.Source.Automaton

/-!
This module contains a structure at the start of a C++ program, on as many lines as there are: in every layout,
what is read of its body is the text between its braces, up to white space.
-/

namespace Playback.Cpp

open Pattern Source

section Header

def behindStructName : Place → Option Place :=
  blanks.run ((opt (text "final" ++ blanks)).run ((opt (text ":" ++ .star (except "\x7b"))).run
    (textEnd.run some)))

def behindStruct : Place → Option Place :=
  (opt (plus blank ++ .capture "name" identifier)).run behindStructName

theorem run_behindStruct (n : Name) (before : Option Char) :
    behindStruct ⟨before, ' ' :: n.chars, [("typedef", [])]⟩
      =
    some ⟨lastOf (some ' ') n.chars, [], [("name", n.chars), ("typedef", [])]⟩ := by
  have hhead : n.chars.head?.any Text.isBlank = false := by
    have hblank : (n.chars ++ []).head?.any Text.isBlank = false :=
      Text.isBlank_head_word n.freeWord.ne_nil n.freeWord.isWordChar
    rwa [List.append_nil] at hblank
  have hend : behindStructName ⟨lastOf (some ' ') n.chars, [], [("name", n.chars), ("typedef", [])]⟩
      = some ⟨lastOf (some ' ') n.chars, [], [("name", n.chars), ("typedef", [])]⟩ := rfl
  have hname : (capture "name" identifier).run behindStructName ⟨some ' ', n.chars ++ [], [("typedef", [])]⟩
      = some ⟨lastOf (some ' ') n.chars, [], [("name", n.chars), ("typedef", [])]⟩ :=
    run_capture_identifier n.freeWord rfl hend
  rw [List.append_nil] at hname
  rw [behindStruct, run_opt, run_append, run_plus_blank hhead, hname, Option.some_or]

/-
The header of a structure is recognised, and the name in it.
-/
theorem matchAt?_structWords (n : Name) :
    ∃ before, structHeader.matchAt? (structWords n)
      = some ⟨before, [], [("name", n.chars), ("typedef", [])]⟩ := by
  have hrun : structHeader.matchAt? (structWords n)
      = (capture "typedef" (opt (text "typedef" ++ plus blank))).run
        ((oneOf ["struct", "class"]).run behindStruct) ⟨none, structWords n, []⟩ := rfl
  have hwords : structWords n = "struct".toList ++ ' ' :: n.chars := rfl
  have hstruct : (oneOf ["struct", "class"]).run behindStruct ⟨none, structWords n, [("typedef", [])]⟩
      = some ⟨lastOf (some ' ') n.chars, [], [("name", n.chars), ("typedef", [])]⟩ := by
    rw [run_oneOf, List.findSome?_cons, hwords, run_text_append, run_behindStruct]
  have hnone : ∀ next : Place → Option Place,
      (text "typedef" ++ plus blank).run next ⟨none, structWords n, []⟩ = none := by
    intro next
    rw [run_append]
    exact run_text_of_head 't' rfl rfl
  refine ⟨lastOf (some ' ') n.chars, ?_⟩
  rw [hrun, run, run_opt, hnone, Option.none_or]
  dsimp only
  rw [Nat.sub_self, List.take_zero]
  exact hstruct

theorem topLevelKind_structWords (lineNo : Nat) {lastCode : List Char}
    (hlast : "template".toList.isPrefixOf lastCode = false) (n : Name) :
    topLevelKind lineNo lastCode (structWords n) = .struct { name := some n.name, openedAt := lineNo } := by
  rcases matchAt?_structWords n with ⟨before, hmatch⟩
  unfold topLevelKind
  rw [hmatch]
  dsimp only [Option.bind_eq_bind, Option.bind_some]
  rw [hlast]
  rfl

end Header

section Clean

/--
Whether a character can stand in front of another one without starting a comment.
-/
def StartsNoComment (c d : Char) : Prop :=
  c = '/' → d ≠ '/' ∧ d ≠ '*'

/--
Whether a text has no literals, no comments and no directives.
-/
structure Clean (cs : List Char) : Prop where
  plain : ∀ c ∈ cs, c ≠ '"' ∧ c ≠ '\'' ∧ c ≠ '#'
  uncommented : cs.IsChain StartsNoComment

variable {cs front rest : List Char}

theorem startsNoComment_of_isBlank {c d : Char} (h : Text.isBlank c = true ∨ Text.isBlank d = true) :
    StartsNoComment c d := by
  rintro rfl
  rcases h with hc | hd
  · contradiction
  · constructor <;> rintro rfl <;> contradiction

theorem Clean.of_append_left (h : Clean (front ++ rest)) : Clean front where
  plain c hc := h.plain c (List.mem_append_left rest hc)
  uncommented := (List.isChain_append.mp h.uncommented).1

theorem Clean.of_append_right (h : Clean (front ++ rest)) : Clean rest where
  plain c hc := h.plain c (List.mem_append_right front hc)
  uncommented := (List.isChain_append.mp h.uncommented).2.1

theorem Clean.append (hfront : Clean front) (hrest : Clean rest)
    (h : ∀ c ∈ front.getLast?, ∀ d ∈ rest.head?, StartsNoComment c d) : Clean (front ++ rest) where
  plain := by
    rw [List.forall_mem_append]
    exact ⟨hfront.plain, hrest.plain⟩
  uncommented := List.isChain_append.mpr ⟨hfront.uncommented, hrest.uncommented, h⟩

/-
A text without literals and comments is its own code, if no comment starts at its end.
-/
theorem codeOf_append (hplain : ∀ c ∈ front, c ≠ '"' ∧ c ≠ '\'' ∧ c ≠ '#')
    (hchain : (front ++ rest.take 1).IsChain StartsNoComment) :
    codeOf .code (front ++ rest) = (front ++ (codeOf .code rest).1, (codeOf .code rest).2) := by
  induction front with
  | nil => rfl
  | cons c front ih =>
    rw [List.forall_mem_cons] at hplain
    rw [List.cons_append, List.isChain_cons] at hchain
    have hslash : c = '/' → ∀ d ∈ (front ++ rest).head?, d ≠ '/' ∧ d ≠ '*' := by
      intro hc d hd
      apply hchain.1 d _ hc
      cases front with
      | nil =>
        cases rest with
        | nil => contradiction
        | cons e rest => exact hd
      | cons e front => exact hd
    rw [List.cons_append, codeOf_char ⟨hplain.1.1, hplain.1.2.1⟩ hslash, ih hplain.2 hchain.2]
    rfl

theorem codeOf_clean (h : Clean cs) : codeOf .code cs = (cs, false) := by
  have hcode : codeOf .code (cs ++ []) = (cs ++ [], false) :=
    codeOf_append h.plain (by simpa using h.uncommented)
  rwa [List.append_nil] at hcode

theorem isChain_squeezeFrom (afterBlank : Bool) :
    (Text.squeezeFrom afterBlank cs).IsChain StartsNoComment ↔ cs.IsChain StartsNoComment := by
  have hblank : ∀ {c} {cs : List Char}, Text.isBlank c = true →
      ((c :: cs).IsChain StartsNoComment ↔ cs.IsChain StartsNoComment) := by
    intro c cs hc
    rw [List.isChain_cons]
    exact and_iff_right fun d _ => startsNoComment_of_isBlank (.inl hc)
  induction cs generalizing afterBlank with
  | nil => rfl
  | cons c cs ih =>
    rw [Text.squeezeFrom]
    split
    · next hc =>
      rw [hblank hc]
      split
      · exact ih true
      · exact (hblank rfl).trans (ih true)
    · rw [List.isChain_cons, List.isChain_cons]
      refine and_congr ?_ (ih false)
      -- The character behind this one is kept, or it is white space on both sides.
      cases cs with
      | nil => rfl
      | cons d cs =>
        by_cases hd : Text.isBlank d = true
        · have hleft : ∀ e ∈ (Text.squeezeFrom false (d :: cs)).head?, StartsNoComment c e := by
            intro e he
            rw [← Text.squeeze, Text.squeeze_blank hd, List.head?_cons, Option.mem_some] at he
            rw [← he]
            exact startsNoComment_of_isBlank (.inr rfl)
          have hright : ∀ e ∈ (d :: cs).head?, StartsNoComment c e := by
            intro e he
            cases he
            exact startsNoComment_of_isBlank (.inr hd)
          exact iff_of_true hleft hright
        · rw [Text.squeezeFrom_solid (by simpa using hd)]
          rfl

theorem clean_of_squeeze {more : List Char} (hcs : Clean cs) (h : Text.squeeze more = Text.squeeze cs) :
    Clean more where
  plain c hc := by
    by_cases hblank : Text.isBlank c = true
    · refine ⟨?_, ?_, ?_⟩ <;> rintro rfl <;> contradiction
    · rw [Bool.not_eq_true] at hblank
      rw [← Text.mem_squeeze hblank, h, Text.mem_squeeze hblank] at hc
      exact hcs.plain c hc
  uncommented := by
    rw [← isChain_squeezeFrom false, ← Text.squeeze, h, Text.squeeze, isChain_squeezeFrom]
    exact hcs.uncommented

theorem Clean.of_plain (h : ∀ c ∈ cs, c ≠ '"' ∧ c ≠ '\'' ∧ c ≠ '#' ∧ c ≠ '/') : Clean cs where
  plain c hc := ⟨(h c hc).1, (h c hc).2.1, (h c hc).2.2.1⟩
  uncommented := by
    induction cs with
    | nil => exact .nil
    | cons c cs ih =>
      rw [List.forall_mem_cons] at h
      rw [List.isChain_cons]
      exact ⟨fun _ _ hc => absurd hc h.1.2.2.2, ih h.2⟩

end Clean

section Codes

def codesOf (cs : List Char) : List (List Char) :=
  codeLines false (Text.splitOn '\n' cs)

theorem codes_eq (source : String) : codes source = codesOf source.toList := by
  rw [codes, codesOf, Text.lines, List.map_map]
  congr 1
  rw [List.map_congr_left (g := id) (by simp), List.map_id]

def ended (ls : List (List Char)) : List Char :=
  ls.flatMap (· ++ ['\n'])

theorem ended_cons (l : List Char) (ls : List (List Char)) (rest : List Char) :
    ended (l :: ls) ++ rest = l ++ '\n' :: (ended ls ++ rest) := by
  simp [ended]

/-
A text is made of lines that end with a newline, and of what stands behind them.
-/
theorem exists_ended (cs : List Char) :
    ∃ ls last, cs = ended ls ++ last ∧ (∀ l ∈ ls, '\n' ∉ l) ∧ '\n' ∉ last := by
  induction cs with
  | nil => exact ⟨[], [], rfl, by simp, by simp⟩
  | cons c cs ih =>
    rcases ih with ⟨ls, last, rfl, hls, hlast⟩
    by_cases hc : '\n' = c
    · refine ⟨[] :: ls, last, by rw [ended_cons, hc, List.nil_append], ?_, hlast⟩
      rw [List.forall_mem_cons]
      exact ⟨by simp, hls⟩
    · cases ls with
      | nil => exact ⟨[], c :: last, rfl, hls, by simp [hc, hlast]⟩
      | cons l ls =>
        rw [List.forall_mem_cons] at hls
        refine ⟨(c :: l) :: ls, last, by rw [ended_cons, ended_cons, List.cons_append], ?_, hlast⟩
        rw [List.forall_mem_cons]
        exact ⟨by simp [hc, hls.1], hls.2⟩

variable {line front inside : List Char} {ls : List (List Char)}

theorem splitOn_line (hline : '\n' ∉ line) (rest : List Char) :
    Text.splitOn '\n' (line ++ '\n' :: rest) = line :: Text.splitOn '\n' rest := by
  have hsingle : Text.splitWhen (· == '\n') line = [line] := by
    apply Text.splitWhen_eq_singleton
    intro c hc
    rw [beq_eq_false_iff_ne]
    rintro rfl
    exact hline hc
  rw [Text.splitOn, Text.splitWhen_append_cons rfl, hsingle]
  rfl

theorem splitOn_cons {c : Char} (hc : c ≠ '\n') {rest first : List Char} {more : List (List Char)}
    (hrest : Text.splitOn '\n' rest = first :: more) :
    Text.splitOn '\n' (c :: rest) = (c :: first) :: more := by
  rw [Text.splitOn, Text.splitWhen_cons, if_neg (by simpa using hc), ← Text.splitOn, hrest]
  rfl

theorem splitOn_append (hfront : '\n' ∉ front) {rest first : List Char} {more : List (List Char)}
    (hrest : Text.splitOn '\n' rest = first :: more) :
    Text.splitOn '\n' (front ++ rest) = (front ++ first) :: more := by
  induction front with
  | nil => exact hrest
  | cons c front ih =>
    rw [List.mem_cons, not_or] at hfront
    exact splitOn_cons (Ne.symm hfront.1) (ih hfront.2)

theorem codesOf_ended (hclean : ∀ l ∈ ls, Clean l) (hls : ∀ l ∈ ls, '\n' ∉ l) (rest : List Char) :
    codesOf (ended ls ++ rest) = ls.map Text.trim ++ codesOf rest := by
  induction ls with
  | nil => rfl
  | cons l ls ih =>
    rw [List.forall_mem_cons] at hclean hls
    rw [ended_cons, codesOf, splitOn_line hls.1, codeLines, if_neg (by simp), codeOf_clean hclean.1, List.map_cons,
      List.cons_append, ← ih hclean.2 hls.2]
    rfl

/-
A brace behind a clean text is code, and so is the text.
-/
theorem codeOf_brace {c : Char} (hc : c = '{' ∨ c = '}') (hclean : Clean front) (rest : List Char) :
    codeOf .code (front ++ c :: rest)
      =
    (front ++ c :: (codeOf .code rest).1, (codeOf .code rest).2) := by
  have hbrace : ∀ c ∈ ['{', '}'], c ≠ '"' ∧ c ≠ '\'' ∧ c ≠ '/' ∧ c ≠ '*' := by decide
  rcases hbrace c (by simpa using hc) with ⟨hquote, happostrophe, hslash, hasterisk⟩
  have hchain : (front ++ (c :: rest).take 1).IsChain StartsNoComment := by
    rw [List.isChain_append]
    refine ⟨hclean.uncommented, .singleton c, ?_⟩
    intro d _ e he
    cases he
    exact fun _ => ⟨hslash, hasterisk⟩
  rw [codeOf_append hclean.plain hchain, codeOf_char ⟨hquote, happostrophe⟩ fun h => absurd h hslash]

/-
The code of a line that starts with a clean text and a brace. `first` is the rest of the line.
-/
theorem codesOf_brace {c : Char} (hc : c = '{' ∨ c = '}') (hclean : Clean front) (hfront : '\n' ∉ front)
    {rest first : List Char} {more : List (List Char)} (hrest : Text.splitOn '\n' rest = first :: more) :
    codesOf (front ++ c :: rest)
      =
    (front.dropWhile Text.isBlank ++ c :: Text.trimEnd (codeOf .code first).1)
      :: codeLines (codeOf .code first).2 more := by
  have hbrace : ∀ c ∈ ['{', '}'], c ≠ '\n' ∧ Text.isBlank c = false := by decide
  rcases hbrace c (by simpa using hc) with ⟨hnewline, hblank⟩
  have hsplit : Text.splitOn '\n' (c :: rest) = (c :: first) :: more :=
    splitOn_cons hnewline hrest
  have htrim : ∀ back, Text.trim (front ++ c :: back)
      = front.dropWhile Text.isBlank ++ c :: Text.trimEnd back := by
    intro back
    rw [Text.trim, List.dropWhile_append]
    split
    · next hempty =>
      rw [List.isEmpty_iff] at hempty
      rw [hempty, List.dropWhile_cons_of_neg (by simp [hblank])]
      exact Text.trimEnd_append_cons hblank [] back
    · exact Text.trimEnd_append_cons hblank _ back
  rw [codesOf, splitOn_append hfront hsplit, codeLines, if_neg (by simp), codeOf_brace hc hclean]
  dsimp only
  rw [htrim]

theorem isPassedOver_append_cons {c : Char} (hc : c ≠ '#') (hclean : Clean front) (rest : List Char) :
    isPassedOver (front ++ c :: rest) = false := by
  have hhead : (front ++ c :: rest).head? ≠ some '#' := by
    cases front with
    | nil => simpa using hc
    | cons d front => simpa using (hclean.plain d List.mem_cons_self).2.2
  rw [isPassedOver, beq_eq_false_iff_ne.mpr hhead]
  simp

theorem isPassedOver_of_clean (hclean : Clean front) : isPassedOver front = front.isEmpty := by
  cases front with
  | nil => rfl
  | cons c front =>
    have hnil : Clean [] := .of_plain (by simp)
    exact isPassedOver_append_cons (hclean.plain c List.mem_cons_self).2.2 hnil front

theorem Clean.dropWhile (hclean : Clean front) : Clean (front.dropWhile Text.isBlank) := by
  rw [← List.takeWhile_append_dropWhile (p := Text.isBlank) (l := front)] at hclean
  exact hclean.of_append_right

theorem Clean.trim (hclean : Clean front) : Clean (Text.trim front) := by
  rcases Text.exists_trim_append front with ⟨start, back, _, _, heq⟩
  rw [heq] at hclean
  exact hclean.of_append_right.of_append_left

theorem Clean.of_ended (h : Clean (ended ls ++ rest)) : (∀ l ∈ ls, Clean l) ∧ Clean rest := by
  induction ls with
  | nil => exact ⟨by simp, h⟩
  | cons l ls ih =>
    rw [ended_cons] at h
    have hrest : Clean (['\n'] ++ (ended ls ++ rest)) := h.of_append_right
    rw [List.forall_mem_cons]
    exact ⟨⟨h.of_append_left, (ih hrest.of_append_right).1⟩, (ih hrest.of_append_right).2⟩

/-
What stands in front of a closing brace is read line by line, up to white space.
-/
theorem exists_upToBrace (hinside : Clean inside) (rest : List Char) :
    ∃ read, UpToBrace read (codesOf (inside ++ '}' :: rest))
      ∧ Text.squeezeFrom true read = Text.squeezeFrom true inside ∧ '\n' ∉ read := by
  rcases exists_ended inside with ⟨ls, last, rfl, hls, hlast⟩
  rcases hinside.of_ended with ⟨hcleans, hclean⟩
  rw [List.append_assoc, codesOf_ended hcleans hls]
  clear hinside
  -- The induction is on the lines in front of the one with the brace. Blank lines are passed over.
  induction ls with
  | nil =>
    cases hrest : Text.splitOn '\n' rest with
    | nil => exact absurd hrest (Text.splitWhen_ne_nil _ _)
    | cons first more =>
      refine ⟨last.dropWhile Text.isBlank, ?_, ?_, ?_⟩
      · rw [List.map_nil, List.nil_append, codesOf_brace (.inr rfl) hclean hlast hrest]
        exact .here (isPassedOver_append_cons (by decide) hclean.dropWhile _)
      · have hdrop := Text.squeezeFrom_dropWhile last []
        rwa [List.append_nil, List.append_nil] at hdrop
      · exact fun hmem => hlast ((List.dropWhile_sublist _).subset hmem)
  | cons l ls ih =>
    rw [List.forall_mem_cons] at hls hcleans
    rcases ih hls.2 hcleans.2 with ⟨read, hread, hsqueeze, hnewline⟩
    have hpassed := isPassedOver_of_clean hcleans.1.trim
    rw [List.map_cons, List.cons_append, ended_cons]
    by_cases hblank : Text.trim l = []
    · refine ⟨read, .skip (by rw [hblank]; rfl) hread, ?_, hnewline⟩
      rw [Text.squeezeFrom_of_trim_eq_nil hblank, hsqueeze]
    · refine ⟨Text.trim l ++ ' ' :: read, .next (hpassed.trans (List.isEmpty_eq_false_iff.mpr hblank)) hread,
        Text.squeezeFrom_trim_append l hsqueeze, ?_⟩
      have hline : '\n' ∉ Text.trim l := fun hmem => hls.1 (Text.mem_of_mem_trim hmem)
      simp [hline, hnewline]

/-
A pair of braces with what stands between them, on one line or on several ones.
-/
theorem exists_braces (hfront : Clean front) (hline : '\n' ∉ front) (hinside : Clean inside)
    (rest : List Char) :
    ∃ read first codes,
      codesOf (front ++ '{' :: (inside ++ '}' :: rest))
          = (front.dropWhile Text.isBlank ++ '{' :: first) :: codes
        ∧ ((∃ trailer, first = read ++ '}' :: trailer)
          ∨ ∃ later, read = first ++ ' ' :: later ∧ UpToBrace later codes)
        ∧ Text.squeeze read = Text.squeeze inside ∧ '\n' ∉ read := by
  rcases exists_ended inside with ⟨ls, last, rfl, hls, hlast⟩
  rcases hinside.of_ended with ⟨hcleans, hclean⟩
  cases ls with
  | nil =>
    cases hrest : Text.splitOn '\n' rest with
    | nil => exact absurd hrest (Text.splitWhen_ne_nil _ _)
    | cons first more =>
      have hclosing : Text.splitOn '\n' (last ++ '}' :: rest) = (last ++ '}' :: first) :: more :=
        splitOn_append hlast (splitOn_cons (by decide) hrest)
      have hcodes := codesOf_brace (.inl rfl) hfront hline hclosing
      rw [codeOf_brace (.inr rfl) hclean, Text.trimEnd_append_cons (by decide)] at hcodes
      exact ⟨last, _, _, hcodes, .inl ⟨_, rfl⟩, rfl, hlast⟩
  | cons l ls =>
    rw [List.forall_mem_cons] at hls hcleans
    have hlater : Clean (ended ls ++ last) := by
      rw [ended_cons] at hinside
      have hbehind : Clean (['\n'] ++ (ended ls ++ last)) := hinside.of_append_right
      exact hbehind.of_append_right
    rcases exists_upToBrace hlater rest with ⟨later, hread, hsqueeze, hnewline⟩
    have hsplit := splitOn_line hls.1 (ended ls ++ last ++ '}' :: rest)
    have hcodes := codesOf_brace (.inl rfl) hfront hline hsplit
    rw [codeOf_clean hcleans.1] at hcodes
    refine ⟨Text.trimEnd l ++ ' ' :: later, _, _, ?_, .inr ⟨later, rfl, hread⟩, ?_, ?_⟩
    · rw [ended_cons, List.append_assoc, List.cons_append]
      exact hcodes
    · rw [ended_cons]
      exact Text.squeezeFrom_trimEnd_append l hsqueeze
    · have htrim : '\n' ∉ Text.trimEnd l := fun hmem => hls.1 (Text.mem_of_mem_trimEnd hmem)
      simp [htrim, hnewline]

end Codes

section Structure

theorem readLines_passedOver {codes : List (List Char)} (hcodes : ∀ code ∈ codes, isPassedOver code = true)
    (maxTraced : Int) (lineNo : Nat) (s : State) : readLines maxTraced lineNo s codes = s := by
  induction codes generalizing lineNo with
  | nil => rfl
  | cons code codes ih =>
    rw [List.forall_mem_cons] at hcodes
    rw [readLines, if_pos hcodes.1, ih hcodes.2]

theorem clean_of_madeOf {signs cs : List Char} (h : MadeOf signs cs)
    (hsigns : ∀ c ∈ ['"', '\'', '#', '/'], c ∉ signs) : Clean cs := by
  have hplain : ∀ c ∈ ['"', '\'', '#', '/'], Text.isWordChar c = false := by decide
  apply Clean.of_plain
  intro c hc
  refine ⟨?_, ?_, ?_, ?_⟩
  all_goals
    rintro rfl
    exact h.not_mem (hplain _ (by simp)) (hsigns _ (by simp)) hc

theorem clean_structWords (n : Name) : Clean (structWords n) :=
  clean_of_madeOf (madeOf_structWords n) (by decide)

theorem clean_of_blank {gap : List Char} (hgap : ∀ c ∈ gap, Text.isBlank c = true) : Clean gap := by
  apply Clean.of_plain
  intro c hc
  have hblank := hgap c hc
  refine ⟨?_, ?_, ?_, ?_⟩
  all_goals
    rintro rfl
    contradiction

theorem Clean.append_blank {front gap : List Char} (hfront : Clean front)
    (hgap : ∀ c ∈ gap, Text.isBlank c = true) : Clean (front ++ gap) :=
  hfront.append (clean_of_blank hgap) fun _ _ d hd =>
    startsNoComment_of_isBlank (.inr (hgap d (List.mem_of_mem_head? hd)))

theorem trim_structWords (n : Name) {gap : List Char} (hgap : ∀ c ∈ gap, Text.isBlank c = true) :
    Text.trim (structWords n ++ gap) = structWords n := by
  rw [Text.trim_of_head (by rfl), Text.trimEnd_append_of_blank (isHeader_structWords n).last hgap]

theorem introduces_structWords (n : Name) {gap : List Char} (hgap : ∀ c ∈ gap, Text.isBlank c = true)
    (lastCode : List Char) : Introduces lastCode (structWords n ++ gap) (structWords n) where
  opening := by
    rw [List.mem_append, not_or]
    exact ⟨(isHeader_structWords n).opening, fun hmem => absurd (hgap _ hmem) (by decide)⟩
  closing := by
    rw [List.mem_append, not_or]
    exact ⟨(isHeader_structWords n).closing, fun hmem => absurd (hgap _ hmem) (by decide)⟩
  shown := by rw [trim_structWords n hgap, if_neg (by simp [structWords])]

/-
The header of a structure on a line of its own opens nothing.
-/
theorem readLine_structWords (n : Name) (maxTraced : Int) (lineNo : Nat) :
    (readLine maxTraced lineNo (structWords n) [] {}).1.scopes = []
      ∧ (readLine maxTraced lineNo (structWords n) [] {}).1.structs = []
      ∧ (readLine maxTraced lineNo (structWords n) [] {}).1.lastCode = structWords n := by
  have hbraces : State.braces {} lineNo (structWords n) = { scopes := [], minDepth := 0 } :=
    followBraces_plain [] rfl (isHeader_structWords n).opening (isHeader_structWords n).closing
  refine ⟨?_, ?_, rfl⟩
  · rw [scopes_readLine rfl, hbraces]
  · rw [structs_readLine, hbraces]
    rfl

variable {gap inside rest : List Char}

/-
A structure at the start of a program has the fields that stand between its braces, on whichever lines it
stands.
-/
theorem exists_structs (n : Name) (hgap : ∀ c ∈ gap, Text.isBlank c = true) (hinside : Clean inside)
    (h : openBraces 0 inside = some 0) {source : String}
    (hsource : source.toList = structWords n ++ (gap ++ '{' :: (inside ++ '}' :: rest))) (maxTraced : Int) :
    ∃ read, Text.squeeze read = Text.squeeze inside ∧ '\n' ∉ read
      ∧ [{ name := n.name, fields := structFields (memberText 0 read) }]
        <+: (readLines maxTraced 1 {} (codes source)).structs := by
  have hbalanced : ∀ {read}, Text.squeeze read = Text.squeeze inside → openBraces 0 read = some 0 := by
    intro read hread
    rw [← openBraces_squeezeFrom false, ← Text.squeeze, hread, Text.squeeze, openBraces_squeezeFrom, h]
  rcases exists_ended gap with ⟨ls, last, rfl, hls, hlast⟩
  rw [List.forall_mem_append] at hgap
  rw [codes_eq, hsource, List.append_assoc]
  -- The brace stands on the line of the header, or the header has a line of its own and blank lines may
  -- follow.
  cases ls with
  | nil =>
    have hfront : Clean (structWords n ++ last) := (clean_structWords n).append_blank hgap.2
    have hline : '\n' ∉ structWords n ++ last := by
      rw [List.mem_append, not_or]
      exact ⟨(madeOf_structWords n).not_mem rfl (by decide), hlast⟩
    rcases exists_braces hfront hline hinside rest with
      ⟨read, first, codes, hcodes, hread, hsqueeze, hnewline⟩
    refine ⟨read, hsqueeze, hnewline, ?_⟩
    have hdefined := structs_definition (s := {}) rfl (introduces_structWords n hgap.2 [])
      (topLevelKind_structWords 1 rfl n) (isPassedOver_append_cons (by decide) hfront first) hread
      (hbalanced hsqueeze) maxTraced
    have htext : structWords n ++ (ended [] ++ (last ++ '{' :: (inside ++ '}' :: rest)))
        = structWords n ++ last ++ '{' :: (inside ++ '}' :: rest) := by simp [ended]
    rw [htext, hcodes]
    exact hdefined
  | cons l ls =>
    have hblank : ∀ line ∈ l :: ls, ∀ c ∈ line, Text.isBlank c = true := fun line hline c hc =>
      hgap.1 c (List.mem_flatMap.mpr ⟨line, hline, List.mem_append_left _ hc⟩)
    rw [List.forall_mem_cons] at hls hblank
    rcases exists_braces (clean_of_blank hgap.2) hlast hinside rest with
      ⟨read, first, codes, hcodes, hread, hsqueeze, hnewline⟩
    refine ⟨read, hsqueeze, hnewline, ?_⟩
    have hcleans : ∀ line ∈ (structWords n ++ l) :: ls, Clean line := by
      rw [List.forall_mem_cons]
      exact ⟨(clean_structWords n).append_blank hblank.1,
        fun line hline => clean_of_blank (hblank.2 line hline)⟩
    have hlines : ∀ line ∈ (structWords n ++ l) :: ls, '\n' ∉ line := by
      rw [List.forall_mem_cons, List.mem_append, not_or]
      exact ⟨⟨(madeOf_structWords n).not_mem rfl (by decide), hls.1⟩, hls.2⟩
    have htext : structWords n ++ (ended (l :: ls) ++ (last ++ '{' :: (inside ++ '}' :: rest)))
        = ended ((structWords n ++ l) :: ls) ++ (last ++ '{' :: (inside ++ '}' :: rest)) := by
      simp [ended]
    have hpassed : ∀ code ∈ ls.map Text.trim, isPassedOver code = true := by
      rw [List.forall_mem_map]
      intro line hline
      rw [Text.trim_eq_nil (hblank.2 line hline)]
      rfl
    have hheader : isPassedOver (structWords n) = false := rfl
    -- Behind a header on a line of its own, the state knows it as the last code.
    rcases readLine_structWords n maxTraced 1 with ⟨hscopes, hstructs, hlastCode⟩
    rw [htext, codesOf_ended hcleans hlines, List.map_cons, trim_structWords n hblank.1, hcodes,
      List.dropWhile_eq_nil_iff.mpr hgap.2, List.cons_append, readLines, hheader, if_neg (by simp),
      readLines_append, readLines_passedOver hpassed]
    have hbrace : isPassedOver ([] ++ '{' :: first) = false :=
      isPassedOver_append_cons (by decide) (.of_plain (by simp)) first
    have hdefined := structs_definition hscopes (introduces_alone _)
      (topLevelKind_structWords (1 + 1 + (ls.map Text.trim).length) (by rw [hlastCode]; rfl) n) hbrace hread
      (hbalanced hsqueeze) maxTraced
    rw [hstructs] at hdefined
    exact hdefined

end Structure

end Playback.Cpp
