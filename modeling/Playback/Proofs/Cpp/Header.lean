import Playback.Proofs.Cpp.Declarator
import Playback.Proofs.Cpp.Parameter

/-!
This module contains what is made of the headers of the C++ fragment: the names that parameters, loops and
statements declare, and the kind of the scope that a header opens.
-/

namespace Playback.Cpp

open Pattern Source

section Types

variable {reserved : List String} {word : List Char}

theorem freeWord_builtin {w : String} (hw : w ∈ builtins) : FreeWord otherKeywords w.toList where
  starts := by
    have h : ∀ w ∈ builtins, w.toList.head?.any Text.isIdentStart = true := by decide
    exact h w hw
  isWordChar := by
    have h : ∀ w ∈ builtins, ∀ c ∈ w.toList, Text.isWordChar c = true := by decide
    exact h w hw
  free := by
    have h : ∀ w ∈ builtins, isAmong otherKeywords w.toList = false := by
      simp [isAmong, builtins, modifiers, otherKeywords]
    exact h w hw

theorem freeWord_modifier {m : String} (hm : m ∈ modifiers) : FreeWord otherKeywords m.toList :=
  freeWord_builtin (List.mem_append_left _ hm)

theorem mem_specifierWords_of_modifiers : ∀ m ∈ modifiers, m ∈ specifierWords := by
  decide

theorem TypeName.exists_typeText (type : TypeName) :
    ∃ front word, type.chars = typeText front word ∧ (∀ m ∈ front, m ∈ modifiers)
      ∧ FreeWord otherKeywords word := by
  cases type with
  | builtin front word hfront hword => exact ⟨front, word.toList, rfl, hfront, freeWord_builtin hword⟩
  | named name =>
    exact ⟨[], name.chars, rfl, by simp, name.freeWord.of_subset fun _ => mem_keywords⟩

theorem TypeName.exists_qualified (type : TypeName) :
    ∃ front word, type.chars = typeText front word ∧ (∀ m ∈ front, m ∈ specifierWords) ∧ IsQualified word := by
  rcases type.exists_typeText with ⟨front, word, htype, hfront, hword⟩
  exact ⟨front, word, htype, fun m hm => mem_specifierWords_of_modifiers m (hfront m hm),
    .name (hword.of_subset mem_otherKeywords_of_notTypes)⟩

theorem TypeName.exists_first (type : TypeName) :
    ∃ first more, type.chars = first ++ more ∧ FreeWord otherKeywords first
      ∧ more.head?.any Text.isWordChar = false := by
  rcases type.exists_typeText with ⟨front, word, htype, hfront, hword⟩
  cases front with
  | nil => exact ⟨word, [], by simpa [typeText] using htype, hword, rfl⟩
  | cons m front =>
    exact ⟨m.toList, ' ' :: typeText front word, by rw [htype, typeText_cons],
      freeWord_modifier (hfront m List.mem_cons_self), rfl⟩

theorem TypeName.exists_first_append (type : TypeName) (rest : List Char) :
    ∃ first more, type.chars ++ ' ' :: rest = first ++ more ∧ FreeWord otherKeywords first
      ∧ more.head?.any Text.isWordChar = false := by
  rcases type.exists_first with ⟨first, more, hparts, hfree, hmore⟩
  refine ⟨first, more ++ ' ' :: rest, by rw [hparts, List.append_assoc], hfree, ?_⟩
  cases more with
  | nil => rfl
  | cons c more => exact hmore

end Types

section Signs

theorem madeOf_name (x : Name) {signs : List Char} : MadeOf signs x.chars :=
  .of_word x.freeWord.isWordChar

theorem madeOf_operand (e : Operand) {signs : List Char} (hsigns : [' ', '+', '<'] ⊆ signs) :
    MadeOf signs e.chars :=
  (Operand.freeText (by simp)).madeOf.of_subset hsigns

theorem madeOf_type (type : TypeName) : MadeOf [' '] type.chars := by
  rcases type.exists_typeText with ⟨front, word, htype, hfront, hword⟩
  rw [htype]
  clear htype
  induction front with
  | nil => exact .of_word hword.isWordChar
  | cons m front ih =>
    rw [List.forall_mem_cons] at hfront
    rw [typeText_cons]
    exact .append (.of_word (freeWord_modifier hfront.1).isWordChar) (.cons (by decide) (ih hfront.2))

theorem madeOf_parameter (p : Parameter) : MadeOf [' '] p.code :=
  (madeOf_type p.type).append (.cons (by decide) (madeOf_name p.name))

end Signs

theorem isBlank_head_type (type : TypeName) (rest : List Char) :
    (type.chars ++ rest).head?.any Text.isBlank = false := by
  rcases type.exists_first with ⟨first, more, htype, hfirst, _⟩
  rw [htype, List.append_assoc]
  exact Text.isBlank_head_word hfirst.ne_nil hfirst.isWordChar

theorem isBlank_last_parameter (p : Parameter) : p.code.getLast?.any Text.isBlank = false := by
  have hcode : p.code = p.type.chars ++ [' '] ++ p.name.chars := by simp [Parameter.code]
  rw [hcode]
  exact isBlank_last_word p.name.freeWord _

/-
A type and a name are read as the name.
-/
theorem readsAs_parameter (p : Parameter) : ReadsAs p.code [p.name.name] where
  plain c hc := ((madeOf_parameter p).plain rfl (by decide) c hc : c ≠ ',' ∧ _).2
  head := isBlank_head_type p.type _
  last := isBlank_last_parameter p
  apart := ⟨' ', by simp [Parameter.code], rfl⟩
  read lead hlead := by
    have hx := p.name.freeWord
    have hmade : MadeOf [' '] (lead ++ p.code) :=
      .append (fun c hc => .inr (by simp [hlead c hc])) (madeOf_parameter p)
    have hmany : IsMany p.code := by
      rcases p.type.exists_qualified with ⟨front, word, htype, hfront, hword⟩
      left
      rw [Parameter.code, Text.words_append_cons rfl, htype, words_typeText hfront hword,
        Text.words_word hx.ne_nil hx.isWordChar]
      simp
    have hpart : Text.trim ((lead ++ p.code).takeWhile (· != '=')) = p.code :=
      trim_part hlead ((madeOf_parameter p).not_mem rfl (by decide)) (isBlank_head_type p.type _)
        (isBlank_last_parameter p)
    have hbracket : '[' ∉ p.type.chars ++ [' '] := by
      simp [(madeOf_type p.type).not_mem (c := '[') rfl (by decide)]
    have hword := parameter?_of_word hx hpart hmany hbracket rfl
    rw [not_isAmong_notTypes hx] at hword
    rw [splitTopLevel_of_not_mem (hmade.not_mem rfl (by decide)), List.filterMap_cons, hword]
    rfl

theorem parameterList_eq (parameters : List Parameter) :
    parameterList parameters = listed (parameters.map Parameter.code) :=
  rfl

theorem madeOf_parameterList (parameters : List Parameter) :
    MadeOf [' ', ','] (parameterList parameters) := by
  rw [parameterList_eq]
  induction parameters with
  | nil => exact .nil
  | cons p parameters ih =>
    have hp : MadeOf [' ', ','] p.code := (madeOf_parameter p).of_subset (by decide)
    cases parameters with
    | nil =>
      rw [List.map_singleton, listed_singleton]
      exact hp
    | cons q parameters =>
      rw [List.map_cons, List.map_cons, listed_cons_cons]
      exact hp.append (.cons (by decide) (.cons (by decide) ih))

theorem parameters_eq {front : List Char} (hfront : '(' ∉ front) (parameters : List Parameter) :
    Cpp.parameters (front ++ '(' :: (parameterList parameters ++ [')']))
      =
    parameters.map (·.name.name) := by
  have hread : ∀ entry ∈ parameters.map fun p => (p.code, [p.name.name]), ReadsAs entry.1 entry.2 := by
    intro entry hentry
    rcases List.mem_map.mp hentry with ⟨p, _, rfl⟩
    exact readsAs_parameter p
  have hlisted := parameters_listed hfront hread []
  rw [List.map_map, List.flatMap_map] at hlisted
  rw [parameterList_eq]
  exact hlisted.trans List.map_eq_flatMap.symm

section Bindings

variable (type : TypeName) (x : Name) (e : Operand)

theorem madeOf_binding : MadeOf [' ', '+', '<', '='] (binding x e) :=
  (madeOf_name x).append (.cons (by decide) (.cons (by decide) (.cons (by decide)
    (madeOf_operand e (by decide)))))

theorem madeOf_value : MadeOf [' ', '+', '<'] (' ' :: e.chars) :=
  .cons (by decide) (madeOf_operand e (by decide))

def Declarator.binding : Declarator where
  lead := .space
  name := x
  space := [' ']
  sizes := []
  room := []
  initializer :=
    some (.assigned
      { chars := ' ' :: e.chars
        line := (madeOf_value e).not_mem rfl (by decide)
        balanced := .of_plain fun c hc => ((madeOf_value e).plain rfl (by decide) c hc : c ≠ ',' ∧ _).2 }
      fun sep hsep => by
        have hplain : ∀ sep ∈ [',', ';'], Text.isWordChar sep = false
            ∧ ∀ c ∈ [' ', '+', '<'], c ≠ sep ∧ bracketStep c = 0 := by decide
        exact .of_plain ((madeOf_value e).plain (hplain sep hsep).1 (hplain sep hsep).2))
  hspace := isGap_space
  hroom := isGap_nil

theorem chars_binding : (Declarator.binding x e).chars = ' ' :: Cpp.binding x e := by
  simp [Declarator.chars, Declarator.binding, Declarator.tail, Lead.chars, Lead.space, dimensions,
    Initializer.chars, Cpp.binding]

/-
A type, a name and an equals sign declare the name, up to the end of the text or of the statement.
-/
theorem declarations_binding_append {tail : List Char} (htail : tail = [] ∨ ∃ more, tail = ';' :: more)
    (allowCall : Bool) :
    declarations (type.chars ++ ' ' :: binding x e ++ tail) allowCall = [⟨x.name, .variable⟩] := by
  rcases type.exists_qualified with ⟨front, word, htype, hfront, hword⟩
  have hlead : (Declarator.binding x e).lead.chars ≠ [] := by simp [Declarator.binding, Lead.space, Lead.chars]
  have hall := declarations_joined hfront hword hlead [] htail allowCall
  rw [joined_singleton, chars_binding, ← htype] at hall
  rw [hall]
  rfl

theorem declarations_binding (allowCall : Bool) :
    declarations (type.chars ++ ' ' :: binding x e) allowCall = [⟨x.name, .variable⟩] := by
  have hall := declarations_binding_append type x e (.inl rfl) allowCall
  rwa [List.append_nil] at hall

theorem declarations_declaration (allowCall : Bool) :
    declarations (Line.declaration type x e).code allowCall = [⟨x.name, .variable⟩] := by
  have hall := declarations_binding_append type x e (.inr ⟨[], rfl⟩) allowCall
  rwa [List.append_assoc, List.cons_append] at hall

theorem declarations_assignment (allowCall : Bool) :
    declarations (Line.assignment x e).code allowCall = [] := by
  have hx := x.freeWord.of_subset mem_keywords_of_specifierWords
  rw [Line.code, binding, List.append_assoc, List.cons_append, List.cons_append]
  exact declarations_eq_nil hx (.inl rfl) _ allowCall

end Bindings

section Kinds

variable {header front : List Char}

theorem occursIn_lambdaEnd (h : '[' ∉ header) : lambdaEnd.occursIn header = false := by
  rw [Bool.eq_false_iff]
  intro hoccurs
  rcases (occursIn_iff lambdaEnd header).mp hoccurs with ⟨front, rest, rfl, hrun⟩
  rcases Option.isSome_iff_exists.mp hrun with ⟨place, hplace⟩
  rcases exists_of_run_text (s := "[") hplace with ⟨more, hmore⟩
  dsimp only at hmore
  rw [hmore] at h
  simp at h

theorem occursIn_functionEnd (front : List Char) : functionEnd.occursIn (front ++ [')']) = true := by
  rw [occursIn_iff]
  exact ⟨front, [')'], rfl, rfl⟩

theorem nestedKind_eq (h : '[' ∉ front) : nestedKind (front ++ [')']) = .block := by
  have hbracket : '[' ∉ front ++ [')'] := by simp [h]
  unfold nestedKind
  rw [occursIn_lambdaEnd hbracket]
  simp

def structKeyword : Pattern :=
  .capture "typedef" (opt (text "typedef" ++ plus blank)) ++ oneOf ["struct", "class"]
    ++ opt (plus blank ++ .capture "name" identifier) ++ blanks ++ opt (text "final" ++ blanks)

theorem takesOnly_structKeyword :
    structKeyword.TakesOnly fun c => Text.isBlank c = true ∨ Text.isWordChar c = true := by
  have hblank : blank.TakesOnly fun c => Text.isBlank c = true ∨ Text.isWordChar c = true :=
    fun _ hc => .inl hc
  have hname : identifier.TakesOnly fun c => Text.isBlank c = true ∨ Text.isWordChar c = true :=
    takesOnly_identifier.imp fun _ hc => .inr hc
  have hkeyword : (oneOf ["struct", "class"]).TakesOnly
      fun c => Text.isBlank c = true ∨ Text.isWordChar c = true := takesOnly_oneOf (by decide)
  simp only [structKeyword, takesOnly_append, takesOnly_opt, takesOnly_plus, takesOnly_text, TakesOnly, blanks,
    hblank, hname, hkeyword, and_true]
  decide

theorem rest_of_run_textEnd {next : Place → Option Place} {place r : Place}
    (h : textEnd.run next place = some r) : ∀ c ∈ place.rest, c = '\n' := by
  rw [textEnd, run] at h
  split at h
  · next hend =>
    rw [Bool.or_eq_true, beq_iff_eq, beq_iff_eq] at hend
    rcases hend with hend | hend <;> simp [hend]
  · contradiction

/-
There is no opening brace in the header of a structure.
-/
theorem not_mem_of_matchAt?_structHeader {place : Place} (h : structHeader.matchAt? header = some place) :
    '{' ∉ header := by
  have hkeyword : structKeyword.TakesOnly (· ≠ '{') := by
    apply takesOnly_structKeyword.imp
    rintro c hc rfl
    revert hc
    decide
  have hbases : (opt (text ":" ++ .star (except "\x7b"))).TakesOnly (· ≠ '{') := by
    simp [except, TakesOnly]
  change (structKeyword ++ opt (text ":" ++ .star (except "\x7b"))).run (textEnd.run some) _ = _ at h
  rcases exists_reaches_of_run h with ⟨a, ha, hend⟩
  rcases ha.taken ⟨hkeyword, hbases⟩ with ⟨taken, htaken, hnone⟩
  dsimp only at htaken
  rw [htaken, List.mem_append, not_or]
  exact ⟨fun hmem => hnone _ hmem rfl, fun hmem => absurd (rest_of_run_textEnd hend _ hmem) (by decide)⟩

/-
The header of a function is none of a structure, since there is a parenthesis in it.
-/
theorem matchAt?_structHeader (hparen : '(' ∈ header) (hcolon : ':' ∉ header) :
    structHeader.matchAt? header = none := by
  rw [Option.eq_none_iff_forall_ne_some]
  intro r hr
  change structKeyword.run ((opt (text ":" ++ .star (except "\x7b"))).run (textEnd.run some)) _ = _ at hr
  rcases exists_reaches_of_run hr with ⟨a, ha, hnext⟩
  rcases ha.taken takesOnly_structKeyword with ⟨taken, htaken, hnone⟩
  dsimp only at htaken
  have hrest : '(' ∈ a.rest := by
    rw [htaken, List.mem_append] at hparen
    exact hparen.resolve_left fun hmem => absurd (hnone _ hmem) (by decide)
  rw [run_opt, run_append, Option.or_eq_some_iff] at hnext
  rcases hnext with hbase | ⟨_, hend⟩
  · rcases exists_of_run_text hbase with ⟨more, hmore⟩
    apply hcolon
    rw [htaken, hmore]
    simp
  · exact absurd (rest_of_run_textEnd hend _ hrest) (by decide)

theorem topLevelKind_eq (lineNo : Nat) (lastCode : List Char) (hbracket : '[' ∉ front)
    (hcolon : ':' ∉ front) (hparen : '(' ∈ front) :
    topLevelKind lineNo lastCode (front ++ [')']) = .block := by
  have hnone : structHeader.matchAt? (front ++ [')']) = none :=
    matchAt?_structHeader (by simp [hparen]) (by simp [hcolon])
  unfold topLevelKind
  rw [hnone, occursIn_lambdaEnd (by simp [hbracket]), occursIn_functionEnd]
  simp only [Option.bind_eq_bind, Option.bind_none]
  rw [if_pos]
  simp [hparen]

end Kinds

section Made

variable (type : TypeName) (x : Name) (e : Operand)

theorem madeOf_assignment : MadeOf [' ', '+', '<', '=', ';'] (Line.assignment x e).code :=
  ((madeOf_binding x e).of_subset (by decide)).append (.cons (by decide) .nil)

theorem madeOf_declaration : MadeOf [' ', '+', '<', '=', ';'] (Line.declaration type x e).code :=
  ((madeOf_type type).of_subset (by decide)).append (.cons (by decide) (madeOf_assignment x e))

theorem getLast?_assignment : (Line.assignment x e).code.getLast? = some ';' := by
  rw [Line.code, List.getLast?_concat]

theorem getLast?_declaration : (Line.declaration type x e).code.getLast? = some ';' := by
  rw [Line.code, ← List.cons_append, ← List.append_assoc, List.getLast?_concat]

end Made

section Headers

variable {line : Line} {front : List Char}

structure Line.Front (line : Line) (front : List Char) : Prop where
  code : line.code = front ++ [')'] ++ [' ', '{']
  head : front.head?.any Text.isBlank = false
  made : MadeOf [' ', '+', '<', '=', ';', ',', '('] front
  paren : '(' ∈ front

theorem Line.Front.ne_nil (h : line.Front front) : front ≠ [] := by
  rintro rfl
  simpa using h.paren

theorem Line.Front.getLast?_code (h : line.Front front) : line.code.getLast? = some '{' := by
  have hsplit : front ++ [')'] ++ [' ', '{'] = front ++ [')', ' '] ++ ['{'] := by simp
  rw [h.code, hsplit, List.getLast?_concat]

theorem Line.front_function (type : TypeName) (f : Name) (parameters : List Parameter) :
    (functionHeader type f parameters).Front
      (type.chars ++ ' ' :: (f.chars ++ '(' :: parameterList parameters)) where
  code := by simp [Line.code, header?]
  head := isBlank_head_type type _
  made := ((madeOf_type type).of_subset (by decide)).append (.cons (by decide) ((madeOf_name f).append
    (.cons (by decide) ((madeOf_parameterList parameters).of_subset (by decide)))))
  paren := by simp

theorem Line.front_if (e : Operand) : (ifHeader e).Front (['i', 'f', ' ', '('] ++ e.chars) where
  code := rfl
  head := rfl
  made := .word_cons ['i', 'f'] (by decide) (by decide) (.cons (by decide) (madeOf_operand e (by decide)))
  paren := by simp

theorem Line.front_while (e : Operand) :
    (whileHeader e).Front (['w', 'h', 'i', 'l', 'e', ' ', '('] ++ e.chars) where
  code := rfl
  head := rfl
  made := .word_cons ['w', 'h', 'i', 'l', 'e'] (by decide) (by decide)
    (.cons (by decide) (madeOf_operand e (by decide)))
  paren := by simp

def Counter.code (c : Counter) : List Char :=
  (c.type.chars ++ ' ' :: binding c.name c.start) ++ [';', ' '] ++ c.condition.chars ++ [';', ' ']
    ++ binding c.name c.update

theorem Counter.madeOf (c : Counter) : MadeOf [' ', '+', '<', '=', ';'] c.code := by
  have hbinding : ∀ e, MadeOf [' ', '+', '<', '=', ';'] (binding c.name e) :=
    fun e => (madeOf_binding c.name e).of_subset (by decide)
  have hseparator : MadeOf [' ', '+', '<', '=', ';'] [';', ' '] :=
    .cons (by decide) (.cons (by decide) .nil)
  have hstart : MadeOf [' ', '+', '<', '=', ';'] (c.type.chars ++ ' ' :: binding c.name c.start) :=
    ((madeOf_type c.type).of_subset (by decide)).append (.cons (by decide) (hbinding c.start))
  exact (((hstart.append hseparator).append (madeOf_operand c.condition (by decide))).append
    hseparator).append (hbinding c.update)

theorem Line.front_for (c : Counter) : (forHeader c).Front (['f', 'o', 'r', ' ', '('] ++ c.code) where
  code := by simp [Line.code, header?, Counter.code]
  head := rfl
  made := .word_cons ['f', 'o', 'r'] (by decide) (by decide)
    (.cons (by decide) (c.madeOf.of_subset (by decide)))
  paren := by simp

theorem Line.Front.madeOf {line : Line} {front : List Char} (h : line.Front front) :
    MadeOf [' ', '+', '<', '=', ';', ',', '(', ')', '{', '}'] line.code := by
  rw [h.code]
  exact ((h.made.of_subset (by decide)).append (.cons (by decide) .nil)).append
    (.cons (by decide) (.cons (by decide) .nil))

theorem Line.madeOf (line : Line) :
    MadeOf [' ', '+', '<', '=', ';', ',', '(', ')', '{', '}'] line.code := by
  cases line with
  | functionHeader type f parameters => exact (front_function type f parameters).madeOf
  | declaration type x e => exact (madeOf_declaration type x e).of_subset (by decide)
  | assignment x e => exact (madeOf_assignment x e).of_subset (by decide)
  | ifHeader e => exact (front_if e).madeOf
  | whileHeader e => exact (front_while e).madeOf
  | forHeader counter => exact (front_for counter).madeOf
  | closing => exact .cons (by decide) .nil

theorem headerNames_nested {header : List Char} (h : loopHeader.startsText header = false) :
    headerNames false header = [] := by
  unfold headerNames
  rw [h]
  rfl

theorem headerNames_for (c : Counter) :
    headerNames false (['f', 'o', 'r', ' ', '('] ++ c.code ++ [')']) = [c.name.name] := by
  have hcode : ['f', 'o', 'r', ' ', '('] ++ c.code ++ [')']
      = ['f', 'o', 'r', ' '] ++ '(' :: (c.code ++ ')' :: []) := by
    simp
  have hstart : loopHeader.startsText (['f', 'o', 'r', ' '] ++ '(' :: (c.code ++ ')' :: [])) = true := rfl
  have hparts : c.code = (c.type.chars ++ ' ' :: binding c.name c.start) ++ ';' ::
      (' ' :: (c.condition.chars ++ ([';', ' '] ++ binding c.name c.update))) := by
    simp [Counter.code]
  have hsemicolon : ∀ d ∈ c.type.chars ++ ' ' :: binding c.name c.start, (d != ';') = true := by
    have hmade : MadeOf [' ', '+', '<', '='] (c.type.chars ++ ' ' :: binding c.name c.start) :=
      ((madeOf_type c.type).of_subset (by decide)).append (.cons (by decide) (madeOf_binding _ _))
    intro d hd
    rw [bne_iff_ne]
    rintro rfl
    exact hmade.not_mem rfl (by decide) hd
  have htake : c.code.takeWhile (· != ';') = c.type.chars ++ ' ' :: binding c.name c.start := by
    rw [hparts, List.takeWhile_append_of_pos hsemicolon, List.takeWhile_cons_of_neg (by simp),
      List.append_nil]
  unfold headerNames
  rw [hcode, hstart, if_pos rfl, loopVariables,
    parenContents?_append (by decide) (c.madeOf.not_mem rfl (by decide)) (c.madeOf.not_mem rfl (by decide))]
  dsimp only
  rw [if_pos (by simp [hparts]), htake, declarations_binding]
  rfl

theorem startsText_loopHeader (type : TypeName) (rest : List Char) :
    loopHeader.startsText (type.chars ++ ' ' :: rest) = false := by
  rcases type.exists_first_append rest with ⟨first, more, hparts, hfree, hmore⟩
  have hnone : loopHeader.matchAt? (first ++ more) = none := by
    apply run_text_of_ne (by decide) hfree.isWordChar hmore (hfree.ne_of_mem (by decide))
    intro c back hc
    have hblank : (c :: back).head?.any Text.isBlank = false := Text.isBlank_of_isWordChar hc
    rw [blanks, blank, run_star_char_skip hblank]
    apply run_text_of_not_prefix
    rintro ⟨tail, htail⟩
    cases htail
    contradiction
  rw [hparts, startsText, hnone]
  rfl

theorem headerNames_function (type : TypeName) (f : Name) (parameters : List Parameter) :
    headerNames true (type.chars ++ ' ' :: (f.chars ++ '(' :: parameterList parameters) ++ [')'])
      =
    parameters.map (·.name.name) := by
  have hcode : type.chars ++ ' ' :: (f.chars ++ '(' :: parameterList parameters) ++ [')']
      = type.chars ++ ' ' :: f.chars ++ '(' :: (parameterList parameters ++ [')']) := by
    simp
  have hparen : '(' ∉ type.chars ++ ' ' :: f.chars := by
    have hmade : MadeOf [' '] (type.chars ++ ' ' :: f.chars) :=
      (madeOf_type type).append (.cons (by decide) (madeOf_name f))
    exact hmade.not_mem rfl (by decide)
  unfold headerNames
  rw [List.append_assoc, List.cons_append, startsText_loopHeader, ← List.cons_append,
    ← List.append_assoc, hcode]
  exact parameters_eq hparen parameters

end Headers

end Playback.Cpp
