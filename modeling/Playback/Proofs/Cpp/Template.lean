import Playback.Proofs.Cpp.Parameter

/-!
This module contains the result about parameters whose types have template arguments: the list is cut at
the commas of the arguments as well, and the last name in front of such a comma may be read as a parameter.
-/

namespace Playback.Cpp

open Source

section Types

/--
A type: a name with its qualifiers, and template arguments perhaps.
-/
inductive TemplateType where
  | name (n : QualifiedName [])
  | template (n : QualifiedName []) (argument : TemplateType) (others : List TemplateType)

mutual

def TemplateType.chars : TemplateType → List Char
  | .name n => n.chars
  | .template n argument others => n.chars ++ '<' :: (argument.chars ++ (argumentsChars others ++ ['>']))

def TemplateType.argumentsChars : List TemplateType → List Char
  | [] => []
  | argument :: others => ',' :: ' ' :: (argument.chars ++ argumentsChars others)

end

def TemplateType.isTemplate : TemplateType → Bool
  | .name _ => false
  | .template _ _ _ => true

/--
Whether a text is a part of a type between its commas: names with the signs between them.
-/
structure IsPiece (cs : List Char) : Prop where
  ne_nil : cs ≠ []
  made : MadeOf [':', '<', '>'] cs
  named : ∀ w ∈ runs cs, w = [] ∨ FreeWord [] w

def pieced (first : List Char) (others : List (List Char)) : List Char :=
  first ++ others.flatMap fun piece => ',' :: ' ' :: piece

variable {cs first rest : List Char} {others : List (List Char)}

theorem IsPiece.append_cons (hfront : IsPiece first) {c : Char} (hc : c ∈ [':', '<', '>'])
    (hmade : MadeOf [':', '<', '>'] rest) (hnamed : ∀ w ∈ runs rest, w = [] ∨ FreeWord [] w) :
    IsPiece (first ++ c :: rest) where
  ne_nil := by simp
  made := hfront.made.append (.cons hc hmade)
  named := by
    have hword : ∀ c ∈ [':', '<', '>'], Text.isWordChar c = false := by decide
    rw [runs_append_cons (hword c hc), List.forall_mem_append]
    exact ⟨hfront.named, hnamed⟩

theorem IsPiece.close (h : IsPiece cs) : IsPiece (cs ++ ['>']) :=
  h.append_cons (by simp) .nil (by simp [runs, Text.splitWhen])

theorem isPiece_word {word : List Char} (h : FreeWord [] word) : IsPiece word where
  ne_nil := h.ne_nil
  made := .of_word h.isWordChar
  named := by simp [runs_word h.isWordChar, h]

theorem QualifiedName.isPiece (n : QualifiedName []) : IsPiece n.chars := by
  unfold QualifiedName.chars
  induction n.qualifiers with
  | nil => exact isPiece_word (n.name.freeWord (by simp))
  | cons qualifier qualifiers ih =>
    have hrest : IsPiece (qualifier.chars ++ ':' :: ':' :: (qualifiers.flatMap
        (fun qualifier => qualifier.chars ++ [':', ':']) ++ n.name.chars)) := by
      apply (isPiece_word (qualifier.freeWord (by simp))).append_cons (by simp) (.cons (by simp) ih.made)
      rw [runs_cons_of_not rfl, List.forall_mem_cons]
      exact ⟨.inl rfl, ih.named⟩
    simpa using hrest

/-
The last one of several pieces can be closed.
-/
theorem exists_pieced_close (hfirst : IsPiece first) (hothers : ∀ piece ∈ others, IsPiece piece) :
    ∃ start more, pieced first others ++ ['>'] = pieced start more ∧ IsPiece start
      ∧ ∀ piece ∈ more, IsPiece piece := by
  rcases List.eq_nil_or_concat others with rfl | ⟨front, last, rfl⟩
  · exact ⟨first ++ ['>'], [], by simp [pieced], hfirst.close, by simp⟩
  · rw [List.concat_eq_append, List.forall_mem_append, List.forall_mem_singleton] at hothers
    refine ⟨first, front ++ [last ++ ['>']], by simp [pieced], hfirst, ?_⟩
    rw [List.forall_mem_append, List.forall_mem_singleton]
    exact ⟨hothers.1, hothers.2.close⟩

mutual

theorem TemplateType.exists_pieced : ∀ type : TemplateType,
    ∃ first others, type.chars = pieced first others ∧ IsPiece first ∧ ∀ piece ∈ others, IsPiece piece
  | .name n => ⟨n.chars, [], by simp [TemplateType.chars, pieced], n.isPiece, by simp⟩
  | .template n argument others => by
    rcases argument.exists_pieced with ⟨first, more, hargument, hfirst, hmore⟩
    rcases TemplateType.exists_pieces others with ⟨rest, hothers, hrest⟩
    have hstart : IsPiece (n.chars ++ '<' :: first) :=
      n.isPiece.append_cons (by simp) hfirst.made hfirst.named
    have hall : ∀ piece ∈ more ++ rest, IsPiece piece := by
      rw [List.forall_mem_append]
      exact ⟨hmore, hrest⟩
    rcases exists_pieced_close hstart hall with ⟨start, back, heq, hgood⟩
    refine ⟨start, back, ?_, hgood⟩
    rw [← heq, TemplateType.chars, hargument, hothers]
    simp [pieced]

theorem TemplateType.exists_pieces : ∀ arguments : List TemplateType,
    ∃ pieces : List (List Char), argumentsChars arguments = pieces.flatMap (fun piece => ',' :: ' ' :: piece)
      ∧ ∀ piece ∈ pieces, IsPiece piece
  | [] => ⟨[], rfl, by simp⟩
  | argument :: others => by
    rcases argument.exists_pieced with ⟨first, more, hargument, hfirst, hmore⟩
    rcases TemplateType.exists_pieces others with ⟨rest, hothers, hrest⟩
    refine ⟨first :: (more ++ rest), ?_, ?_⟩
    · rw [TemplateType.argumentsChars, hargument, hothers]
      simp [pieced]
    · rw [List.forall_mem_cons, List.forall_mem_append]
      exact ⟨hfirst, hmore, hrest⟩

end

theorem TemplateType.getLast_chars {type : TemplateType} (h : type.isTemplate = true) :
    type.chars.getLast? = some '>' := by
  cases type with
  | name n => contradiction
  | template n argument others =>
    rw [TemplateType.chars, List.append_cons, ← List.append_assoc, ← List.append_assoc, List.getLast?_concat]

end Types

section Parts

variable {lead cs piece gap x : List Char} {constant : Bool}

def wordAtEnd? (cs : List Char) : Option String :=
  let word := (cs.reverse.takeWhile Text.isWordChar).reverse
  if word.isEmpty || isAmong notTypes word then none else some (String.ofList word)

def isParameterChar (c : Char) : Bool :=
  Text.isWordChar c || Text.isBlank c || isSign c || [':', '<', '>'].contains c

def qualified (constant : Bool) (cs : List Char) : List Char :=
  if constant then ['c', 'o', 'n', 's', 't', ' '] ++ cs else cs

theorem isParameterChar_of_isWordChar {c : Char} (hc : Text.isWordChar c = true) :
    isParameterChar c = true := by
  simp [isParameterChar, hc]

theorem bracketStep_of_isParameterChar {c : Char} (hc : isParameterChar c = true) : bracketStep c = 0 := by
  unfold bracketStep
  rw [if_neg, if_neg]
  all_goals
    simp only [Bool.or_eq_true, beq_iff_eq]
    rintro ((rfl | rfl) | rfl) <;> contradiction

theorem isParameterChar_qualified (h : ∀ c ∈ cs, isParameterChar c = true) :
    ∀ c ∈ qualified constant cs, isParameterChar c = true := by
  have hconst : ∀ c ∈ ['c', 'o', 'n', 's', 't', ' '], isParameterChar c = true := by decide
  cases constant with
  | true => exact List.forall_mem_append.mpr ⟨hconst, h⟩
  | false => exact h

theorem head_qualified (h : cs.head?.any Text.isBlank = false) :
    (qualified constant cs).head?.any Text.isBlank = false := by
  cases constant with
  | true => rfl
  | false => exact h

theorem qualified_append (cs rest : List Char) :
    qualified constant (cs ++ rest) = qualified constant cs ++ rest := by
  cases constant with
  | true => exact (List.append_assoc _ _ _).symm
  | false => rfl

theorem getLast?_qualified (hne : cs ≠ []) : (qualified constant cs).getLast? = cs.getLast? := by
  cases constant with
  | true => exact List.getLast?_append_of_ne_nil _ hne
  | false => rfl

theorem IsPiece.isBlank (h : IsPiece piece) : ∀ c ∈ piece, Text.isBlank c = false := by
  have hsigns : ∀ c ∈ [':', '<', '>'], Text.isBlank c = false := by decide
  exact fun c hc => (h.made c hc).elim Text.isBlank_of_isWordChar (hsigns c)

theorem IsPiece.isSign (h : IsPiece piece) : ∀ c ∈ piece, isSign c = false := by
  have hsigns : ∀ c ∈ [':', '<', '>'], Cpp.isSign c = false := by decide
  exact fun c hc => (h.made c hc).elim isSign_of_isWordChar (hsigns c)

theorem IsPiece.isParameterChar (h : IsPiece piece) : ∀ c ∈ piece, isParameterChar c = true := by
  have hsigns : ∀ c ∈ [':', '<', '>'], Cpp.isParameterChar c = true := by decide
  exact fun c hc => (h.made c hc).elim isParameterChar_of_isWordChar (hsigns c)

theorem IsPiece.head_append (h : IsPiece piece) (rest : List Char) :
    (piece ++ rest).head?.any Text.isBlank = false := by
  cases hpiece : piece with
  | nil => exact absurd hpiece h.ne_nil
  | cons c back => exact h.isBlank c (by simp [hpiece])

theorem trim_qualified (hlead : ∀ c ∈ lead, c = ' ') (hchars : ∀ c ∈ cs, isParameterChar c = true)
    (hhead : cs.head?.any Text.isBlank = false) (hne : cs ≠ [])
    (hlast : cs.getLast?.any Text.isBlank = false) :
    Text.trim ((lead ++ qualified constant cs).takeWhile (· != '=')) = qualified constant cs := by
  apply trim_part hlead
  · exact fun hmem => absurd (isParameterChar_qualified hchars _ hmem) (by decide)
  · exact head_qualified hhead
  · rw [getLast?_qualified hne]
    exact hlast

theorem IsPiece.last (h : IsPiece piece) : piece.getLast?.any Text.isBlank = false := by
  cases hlast : piece.getLast? with
  | none => rfl
  | some c => exact h.isBlank c (List.mem_of_getLast? hlast)

theorem IsPiece.trim (h : IsPiece piece) (hlead : ∀ c ∈ lead, c = ' ') (constant : Bool) :
    Text.trim ((lead ++ qualified constant piece).takeWhile (· != '=')) = qualified constant piece :=
  trim_qualified hlead h.isParameterChar (by simpa using h.head_append []) h.ne_nil h.last

theorem not_isMany_of_solid (hblank : ∀ c ∈ cs, Text.isBlank c = false) (hsign : ∀ c ∈ cs, isSign c = false) :
    ¬ IsMany cs := by
  rw [IsMany, not_or, Nat.not_le, List.any_eq_true]
  constructor
  · by_cases hne : cs = []
    · rw [hne]
      decide
    · rw [Text.words_solid hne hblank, List.length_singleton]
      decide
  · rintro ⟨c, hc, hsigned⟩
    rw [hsign c hc] at hsigned
    contradiction

theorem isMany_append_blank {front rest : List Char} {c : Char} (hc : Text.isBlank c = true)
    (hfront : ∃ c ∈ front, Text.isBlank c = false) (hrest : ∃ c ∈ rest, Text.isBlank c = false) :
    IsMany (front ++ c :: rest) := by
  have hbefore : 0 < (Text.words front).length := Text.words_pos hfront
  have hbehind : 0 < (Text.words rest).length := Text.words_pos hrest
  left
  rw [Text.words_append_cons hc, List.length_append]
  omega

theorem isMany_const (h : ∃ c ∈ cs, Text.isBlank c = false) : IsMany (qualified true cs) := by
  have hconst : qualified true cs = ['c', 'o', 'n', 's', 't'] ++ ' ' :: cs := by simp [qualified]
  rw [hconst]
  exact isMany_append_blank rfl ⟨'c', List.mem_cons_self, rfl⟩ h

theorem exists_wordAtEnd (cs : List Char) :
    ∃ front word, cs = front ++ word ∧ (∀ c ∈ word, Text.isWordChar c = true)
      ∧ front.getLast?.any Text.isWordChar = false
      ∧ wordAtEnd? cs
        = if word.isEmpty || isAmong notTypes word then none else some (String.ofList word) := by
  refine ⟨(cs.reverse.dropWhile Text.isWordChar).reverse, (cs.reverse.takeWhile Text.isWordChar).reverse,
    ?_, ?_, ?_, rfl⟩
  · rw [← List.reverse_append, List.takeWhile_append_dropWhile, List.reverse_reverse]
  · intro c hc
    exact List.mem_takeWhile_imp (List.mem_reverse.mp hc)
  · rw [List.getLast?_reverse]
    cases hdrop : cs.reverse.dropWhile Text.isWordChar with
    | nil => rfl
    | cons c back =>
      have hhead := List.head?_dropWhile_not Text.isWordChar cs.reverse
      rw [hdrop] at hhead
      simpa using hhead

theorem lastOf_eq_getLast? (cs : List Char) : Pattern.lastOf none cs = cs.getLast? := by
  rcases List.eq_nil_or_concat cs with rfl | ⟨front, c, rfl⟩
  · rfl
  · rw [List.concat_eq_append, Pattern.lastOf_append, List.getLast?_concat]
    rfl

/-
The part in front of the first comma of a constant type is taken for a parameter with the word at its end.
-/
theorem parameter?_const (hlead : ∀ c ∈ lead, c = ' ') (h : IsPiece piece) :
    parameter? (lead ++ qualified true piece) = wordAtEnd? piece := by
  rcases exists_wordAtEnd piece with ⟨front, word, heq, hword, hfront, hend⟩
  have hsolid : ∃ c ∈ piece, Text.isBlank c = false := by
    rcases List.exists_mem_of_ne_nil _ h.ne_nil with ⟨c, hc⟩
    exact ⟨c, hc, h.isBlank c hc⟩
  -- Even if the part is a single word, there is the space behind `const` in front of it.
  have hgap : ∃ more c, ['c', 'o', 'n', 's', 't', ' '] ++ front = more ++ [c] ∧ Text.isWordChar c = false := by
    rcases List.eq_nil_or_concat front with rfl | ⟨more, c, rfl⟩
    · exact ⟨['c', 'o', 'n', 's', 't'], ' ', by simp, rfl⟩
    · rw [List.concat_eq_append, List.getLast?_concat] at hfront
      exact ⟨['c', 'o', 'n', 's', 't', ' '] ++ more, c, by simp, hfront⟩
  rcases hgap with ⟨more, c, hmore, hc⟩
  have hcode : qualified true piece = more ++ c :: word := by
    rw [qualified, if_pos rfl, heq, ← List.append_assoc, hmore, List.append_assoc, List.singleton_append]
  have hpart := h.trim hlead true
  have hmany := isMany_const hsolid
  have hbracket : '[' ∉ qualified true piece :=
    fun hmem => absurd (isParameterChar_qualified h.isParameterChar _ hmem) (by decide)
  have hlast : (qualified true piece).getLast?.any Text.isBlank = false := by
    rw [getLast?_qualified h.ne_nil]
    exact h.last
  rw [hend, hcode]
  rw [hcode] at hpart hbracket hmany hlast
  have hbefore : '[' ∉ more ++ [c] := fun hmem => hbracket (by
    rw [List.append_cons]
    exact List.mem_append_left _ hmem)
  cases word with
  | nil =>
    rw [List.getLast?_concat] at hlast
    exact parameter?_of_last hpart hbefore hc hlast
  | cons d back =>
    have hrun : d :: back ∈ runs piece := by
      have hmem := @mem_runs front (d :: back) [] hword (by rw [lastOf_eq_getLast?]; exact hfront) rfl
      rw [List.append_nil, ← heq] at hmem
      exact hmem
    have hfree : FreeWord [] (d :: back) := (h.named _ hrun).resolve_left (by simp)
    exact parameter?_of_word hfree hpart hmany hbefore hc

theorem parameter?_piece (hlead : ∀ c ∈ lead, c = ' ') (h : IsPiece piece) :
    parameter? (lead ++ piece) = none :=
  parameter?_of_single (h.trim hlead false) (not_isMany_of_solid h.isBlank h.isSign)

theorem isParameterChar_append_name (hx : FreeWord keywords x)
    (hgap : ∀ c ∈ gap, Text.isBlank c = true ∨ isSign c = true) :
    ∀ c ∈ gap ++ x, isParameterChar c = true := by
  rw [List.forall_mem_append]
  refine ⟨fun c hc => ?_, fun c hc => isParameterChar_of_isWordChar (hx.isWordChar c hc)⟩
  rcases hgap c hc with hblank | hsign
  · simp [isParameterChar, hblank]
  · simp [isParameterChar, hsign]

variable (hx : FreeWord keywords x) (hgap : ∀ c ∈ gap, Text.isBlank c = true ∨ isSign c = true)
include hx hgap

theorem isMany_qualified (h : IsPiece piece) (hmany : gap ≠ [] ∨ constant = true) :
    IsMany (qualified constant (piece ++ (gap ++ x))) := by
  have hpiece : ∃ c ∈ piece, Text.isBlank c = false := by
    rcases List.exists_mem_of_ne_nil _ h.ne_nil with ⟨c, hc⟩
    exact ⟨c, hc, h.isBlank c hc⟩
  have hname : ∃ c ∈ x, Text.isBlank c = false := by
    rcases List.exists_mem_of_ne_nil _ hx.ne_nil with ⟨c, hc⟩
    exact ⟨c, hc, Text.isBlank_of_isWordChar (hx.isWordChar c hc)⟩
  cases constant with
  | true =>
    apply isMany_const
    rcases hpiece with ⟨c, hc, hblank⟩
    exact ⟨c, List.mem_append_left _ hc, hblank⟩
  | false =>
    cases gap with
    | nil => simp at hmany
    | cons c gap =>
      rw [List.forall_mem_cons] at hgap
      rcases hgap.1 with hc | hc
      · apply isMany_append_blank hc hpiece
        rcases hname with ⟨c, hc, hblank⟩
        exact ⟨c, List.mem_append_right _ hc, hblank⟩
      · right
        simp [qualified, hc]

/-
The last part of a type is read as the name behind it, unless both are one word.
-/
theorem parameter?_last (hlead : ∀ c ∈ lead, c = ' ') (h : IsPiece piece)
    (hapart : (piece ++ gap).getLast?.any Text.isWordChar = false) :
    parameter? (lead ++ qualified constant (piece ++ (gap ++ x)))
      =
    if gap.isEmpty && !constant then none else some (String.ofList x) := by
  have hchars : ∀ c ∈ piece ++ (gap ++ x), isParameterChar c = true :=
    List.forall_mem_append.mpr ⟨h.isParameterChar, isParameterChar_append_name hx hgap⟩
  have hlast : (piece ++ (gap ++ x)).getLast?.any Text.isBlank = false := by
    rw [← List.append_assoc]
    exact isBlank_last_word hx _
  have hpart := @trim_qualified _ _ constant hlead hchars (h.head_append _) (by simp [h.ne_nil]) hlast
  -- White space, a sign or `const` makes the part more than one word.
  by_cases hmany : gap ≠ [] ∨ constant = true
  · have hbefore : ∃ more c, piece ++ gap = more ++ [c] ∧ Text.isWordChar c = false := by
      rcases List.eq_nil_or_concat (piece ++ gap) with hnil | ⟨more, c, hmore⟩
      · exact absurd (List.append_eq_nil_iff.mp hnil).1 h.ne_nil
      · rw [hmore, List.concat_eq_append, List.getLast?_concat] at hapart
        exact ⟨more, c, by rw [hmore, List.concat_eq_append], hapart⟩
    rcases hbefore with ⟨more, c, hmore, hc⟩
    have hcode : qualified constant (piece ++ (gap ++ x)) = qualified constant more ++ c :: x := by
      rw [← List.append_assoc, hmore, List.append_assoc, qualified_append, List.singleton_append]
    have hbracket : '[' ∉ qualified constant more ++ [c] := by
      intro hmem
      have hall : '[' ∈ qualified constant (piece ++ (gap ++ x)) := by
        rw [hcode, List.append_cons]
        exact List.mem_append_left x hmem
      exact absurd (isParameterChar_qualified hchars _ hall) (by decide)
    have hgapped : (gap.isEmpty && !constant) = false := by
      rcases hmany with hne | rfl
      · simp [hne]
      · simp
    have hmany := isMany_qualified hx hgap h hmany
    rw [hcode] at hpart hmany ⊢
    rw [parameter?_of_word hx hpart hmany hbracket hc, not_isAmong_notTypes hx, hgapped]
  · rw [not_or, not_not, Bool.not_eq_true] at hmany
    rcases hmany with ⟨rfl, rfl⟩
    apply parameter?_of_single hpart
    apply not_isMany_of_solid
    · exact List.forall_mem_append.mpr
        ⟨h.isBlank, fun c hc => Text.isBlank_of_isWordChar (hx.isWordChar c hc)⟩
    · exact List.forall_mem_append.mpr
        ⟨h.isSign, fun c hc => isSign_of_isWordChar (hx.isWordChar c hc)⟩

end Parts

section Cut

variable {lead first gap x : List Char} {others : List (List Char)}

theorem pieced_nil (first : List Char) : pieced first [] = first :=
  List.append_nil first

theorem pieced_cons (first other : List Char) (others : List (List Char)) :
    pieced first (other :: others) = first ++ ',' :: ' ' :: pieced other others := by
  simp [pieced]

theorem sealed_qualified (hlead : ∀ c ∈ lead, c = ' ') {cs : List Char}
    (h : ∀ c ∈ cs, isParameterChar c = true) (constant : Bool) :
    Sealed ',' (lead ++ qualified constant cs) := by
  apply Sealed.of_class (fun _ => bracketStep_of_isParameterChar) (by decide)
  rw [List.forall_mem_append]
  exact ⟨fun c hc => by rw [hlead c hc]; rfl, isParameterChar_qualified h⟩

theorem parameter?_first (hlead : ∀ c ∈ lead, c = ' ') (hfirst : IsPiece first) (constant : Bool) :
    parameter? (lead ++ qualified constant first) = if constant then wordAtEnd? first else none := by
  cases constant with
  | true => exact parameter?_const hlead hfirst
  | false => exact parameter?_piece hlead hfirst

variable (hx : FreeWord keywords x) (hgap : ∀ c ∈ gap, Text.isBlank c = true ∨ isSign c = true)
include hx hgap

theorem filterMap_last (hlead : ∀ c ∈ lead, c = ' ') (hfirst : IsPiece first) (constant : Bool)
    (hapart : (first ++ gap).getLast?.any Text.isWordChar = false) :
    (splitTopLevel ',' (lead ++ qualified constant (first ++ (gap ++ x)))).filterMap parameter?
      =
    if gap.isEmpty && !constant then [] else [String.ofList x] := by
  have hchars : ∀ c ∈ first ++ (gap ++ x), isParameterChar c = true :=
    List.forall_mem_append.mpr ⟨hfirst.isParameterChar, isParameterChar_append_name hx hgap⟩
  rw [(sealed_qualified hlead hchars constant).splitTopLevel_eq rfl, List.filterMap_cons,
    parameter?_last hx hgap hlead hfirst hapart]
  split <;> simp_all

/-
The name of a parameter is read from its last part, and of the parts in front of it only the first one, if
it is constant, is taken for a parameter.
-/
theorem filterMap_pieced (hlead : ∀ c ∈ lead, c = ' ') (hfirst : IsPiece first) (constant : Bool)
    (hothers : ∀ piece ∈ others, IsPiece piece)
    (hapart : (pieced first others ++ gap).getLast?.any Text.isWordChar = false) :
    (splitTopLevel ',' (lead ++ qualified constant (pieced first others ++ (gap ++ x)))).filterMap parameter?
      =
    (if constant && !others.isEmpty then (wordAtEnd? first).toList else [])
      ++ (if gap.isEmpty && (!constant || !others.isEmpty) then [] else [String.ofList x]) := by
  -- The induction is on the parts behind the first one, which alone may be constant.
  induction others generalizing first lead constant with
  | nil =>
    rw [pieced_nil] at hapart ⊢
    simpa using filterMap_last hx hgap hlead hfirst constant hapart
  | cons other others ih =>
    rw [List.forall_mem_cons] at hothers
    have hrest : (pieced other others ++ gap).getLast?.any Text.isWordChar = false := by
      have hcode : pieced first (other :: others) ++ gap
          = (first ++ [',', ' ']) ++ (pieced other others ++ gap) := by
        rw [pieced_cons]
        simp
      rwa [hcode, List.getLast?_append_of_ne_nil _ (by simp [pieced, hothers.1.ne_nil])] at hapart
    have hspace : ∀ c ∈ [' '], c = ' ' := by simp
    have hnext := ih hspace hothers.1 false hothers.2 hrest
    have hcode : lead ++ qualified constant (pieced first (other :: others) ++ (gap ++ x))
        = lead ++ qualified constant first
          ++ ',' :: ([' '] ++ qualified false (pieced other others ++ (gap ++ x))) := by
      rw [pieced_cons, List.append_assoc, qualified_append]
      simp [qualified]
    rw [hcode, (sealed_qualified hlead hfirst.isParameterChar constant).splitTopLevel_append_cons rfl,
      List.filterMap_cons, parameter?_first hlead hfirst constant, hnext]
    cases constant with
    | true => cases wordAtEnd? first <;> simp
    | false => simp

end Cut

section Parameters

/--
A parameter whose type may have template arguments. White space and signs stand between the type and the
name, unless the type ends with a bracket.
-/
structure TypedParameter where
  constant : Bool
  type : TemplateType
  gap : List Char
  name : Name
  hgap : ∀ c ∈ gap, Text.isBlank c = true ∨ isSign c = true
  apart : gap ≠ [] ∨ type.isTemplate = true

def TypedParameter.code (p : TypedParameter) : List Char :=
  qualified p.constant (p.type.chars ++ (p.gap ++ p.name.chars))

def TypedParameter.isCut (p : TypedParameter) : Bool :=
  p.type.chars.contains ','

/--
The word in front of the first comma of a constant type, which is taken for a parameter.
-/
def TypedParameter.mistaken? (p : TypedParameter) : Option String :=
  if p.constant && p.isCut then wordAtEnd? (p.type.chars.takeWhile (· != ',')) else none

/--
The names that are read from a parameter.
-/
def TypedParameter.reported (p : TypedParameter) : List String :=
  p.mistaken?.toList ++ if p.gap.isEmpty && (!p.constant || p.isCut) then [] else [p.name.name]

variable {first : List Char} {others : List (List Char)}

theorem IsPiece.comma_not_mem (h : IsPiece first) : ',' ∉ first :=
  h.made.not_mem rfl (by decide)

theorem contains_comma (hfirst : IsPiece first) : (pieced first others).contains ',' = !others.isEmpty := by
  cases others with
  | nil => simpa [pieced] using hfirst.comma_not_mem
  | cons other others => simp [pieced]

theorem takeWhile_comma (hfirst : IsPiece first) (hothers : others ≠ []) :
    (pieced first others).takeWhile (· != ',') = first := by
  cases others with
  | nil => contradiction
  | cons other others =>
    have hnone : ∀ c ∈ first, (c != ',') = true := by
      intro c hc
      rw [bne_iff_ne]
      rintro rfl
      exact hfirst.comma_not_mem hc
    rw [pieced_cons, List.takeWhile_append_of_pos hnone, List.takeWhile_cons_of_neg (by simp), List.append_nil]

theorem TypedParameter.getLast?_append_gap (p : TypedParameter) :
    (p.type.chars ++ p.gap).getLast?.any Text.isWordChar = false := by
  rcases List.eq_nil_or_concat p.gap with hnil | ⟨front, c, hconcat⟩
  · rw [hnil, List.append_nil, TemplateType.getLast_chars (p.apart.resolve_left fun hne => hne hnil)]
    rfl
  · rw [hconcat, List.concat_eq_append, ← List.append_assoc, List.getLast?_concat]
    rcases p.hgap c (by simp [hconcat]) with hblank | hsign
    · exact Text.isWordChar_of_isBlank hblank
    · rw [isSign_iff] at hsign
      rcases hsign with rfl | rfl <;> rfl

theorem plain_pieced (hfirst : IsPiece first) (hothers : ∀ piece ∈ others, IsPiece piece) :
    ∀ c ∈ pieced first others, bracketStep c = 0 := by
  have hpiece : ∀ {piece}, IsPiece piece → ∀ c ∈ piece, bracketStep c = 0 :=
    fun h c hc => bracketStep_of_isParameterChar (h.isParameterChar c hc)
  unfold pieced
  rw [List.forall_mem_append]
  refine ⟨hpiece hfirst, fun c hc => ?_⟩
  rcases List.mem_flatMap.mp hc with ⟨piece, hmem, hc⟩
  rcases List.mem_cons.mp hc with rfl | hc
  · rfl
  · rcases List.mem_cons.mp hc with rfl | hc
    · rfl
    · exact hpiece (hothers piece hmem) c hc

theorem TemplateType.ne_nil (type : TemplateType) : type.chars ≠ [] := by
  rcases type.exists_pieced with ⟨first, others, htype, hfirst, _⟩
  simp [htype, pieced, hfirst.ne_nil]

theorem TemplateType.head_append (type : TemplateType) (rest : List Char) :
    (type.chars ++ rest).head?.any Text.isBlank = false := by
  rcases type.exists_pieced with ⟨first, others, htype, hfirst, _⟩
  rw [htype, pieced, List.append_assoc]
  exact hfirst.head_append _

theorem TypedParameter.plain (p : TypedParameter) : ∀ c ∈ p.code, bracketStep c = 0 := by
  rcases p.type.exists_pieced with ⟨first, others, htype, hfirst, hothers⟩
  have hname := isParameterChar_append_name p.name.freeWord p.hgap
  have hall : ∀ c ∈ p.type.chars ++ (p.gap ++ p.name.chars), bracketStep c = 0 := by
    rw [htype, List.forall_mem_append]
    exact ⟨plain_pieced hfirst hothers, fun c hc => bracketStep_of_isParameterChar (hname c hc)⟩
  have hconst : ∀ c ∈ ['c', 'o', 'n', 's', 't', ' '], bracketStep c = 0 := by decide
  unfold TypedParameter.code qualified
  split
  · exact List.forall_mem_append.mpr ⟨hconst, hall⟩
  · exact hall

theorem TypedParameter.exists_not_isWordChar (p : TypedParameter) :
    ∃ c ∈ p.code, Text.isWordChar c = false := by
  have hlast := p.getLast?_append_gap
  rcases List.eq_nil_or_concat (p.type.chars ++ p.gap) with hnil | ⟨front, c, hconcat⟩
  · exact absurd (List.append_eq_nil_iff.mp hnil).1 p.type.ne_nil
  · rw [hconcat, List.concat_eq_append, List.getLast?_concat] at hlast
    refine ⟨c, ?_, hlast⟩
    rw [TypedParameter.code, ← List.append_assoc, hconcat, List.concat_eq_append, qualified_append,
      qualified_append]
    simp

theorem readsAs_typed (p : TypedParameter) : ReadsAs p.code p.reported where
  plain := p.plain
  head := head_qualified (p.type.head_append _)
  last := by
    have hx : FreeWord keywords p.name.chars := p.name.freeWord
    rw [TypedParameter.code, getLast?_qualified (by simp [p.type.ne_nil]), ← List.append_assoc]
    exact isBlank_last_word hx _
  apart := p.exists_not_isWordChar
  read lead hlead := by
    rcases p.type.exists_pieced with ⟨first, others, htype, hfirst, hothers⟩
    have hapart := p.getLast?_append_gap
    rw [htype] at hapart
    have hread :=
      filterMap_pieced p.name.freeWord p.hgap hlead hfirst p.constant hothers hapart
    have hname : String.ofList p.name.chars = p.name.name := rfl
    rw [TypedParameter.code, htype, hread, hname]
    unfold TypedParameter.reported TypedParameter.mistaken? TypedParameter.isCut
    rw [htype, contains_comma hfirst]
    cases others with
    | nil => simp
    | cons other others =>
      rw [takeWhile_comma hfirst (by simp)]
      cases p.constant <;> simp

end Parameters

section Headers

/--
A function header: what stands in front of the parentheses, the parameters between them, and what follows.
-/
structure TypedHeader where
  front : List Char
  parameters : List TypedParameter
  back : List Char
  hfront : '(' ∉ front

def TypedHeader.code (h : TypedHeader) : List Char :=
  h.front ++ '(' :: (listed (h.parameters.map TypedParameter.code) ++ ')' :: h.back)

theorem parameters_reported (h : TypedHeader) :
    parameters h.code = h.parameters.flatMap TypedParameter.reported := by
  have hread : ∀ entry ∈ h.parameters.map fun p => (p.code, p.reported), ReadsAs entry.1 entry.2 := by
    intro entry hentry
    rcases List.mem_map.mp hentry with ⟨p, _, rfl⟩
    exact readsAs_typed p
  have hlisted := parameters_listed h.hfront hread h.back
  rw [List.map_map, List.flatMap_map] at hlisted
  exact hlisted

theorem TypedParameter.reported_of_gap {p : TypedParameter} (hgap : p.gap ≠ []) :
    p.reported = p.mistaken?.toList ++ [p.name.name] := by
  simp [reported, hgap]

/-
Every parameter is reported, and so nothing else is if there are as many names as parameters.
-/
theorem length_reported {parameters : List TypedParameter} (hgap : ∀ p ∈ parameters, p.gap ≠ []) :
    parameters.length ≤ (parameters.flatMap TypedParameter.reported).length
      ∧ ((parameters.flatMap TypedParameter.reported).length = parameters.length →
        ∀ p ∈ parameters, p.mistaken? = none) := by
  induction parameters with
  | nil => simp
  | cons p parameters ih =>
    rw [List.forall_mem_cons] at hgap
    rcases ih hgap.2 with ⟨hle, heq⟩
    rw [List.flatMap_cons, List.length_append, p.reported_of_gap hgap.1, List.length_append,
      List.length_singleton, List.length_cons]
    refine ⟨by omega, fun hlength => ?_⟩
    rw [List.forall_mem_cons]
    refine ⟨?_, heq (by omega)⟩
    rw [← Option.toList_eq_nil_iff, ← List.length_eq_zero_iff]
    omega

theorem reported_eq_names_iff {parameters : List TypedParameter} (hgap : ∀ p ∈ parameters, p.gap ≠ []) :
    parameters.flatMap TypedParameter.reported = parameters.map (·.name.name)
      ↔ ∀ p ∈ parameters, p.mistaken? = none := by
  constructor
  · intro heq
    apply (length_reported hgap).2
    rw [heq, List.length_map]
  · intro hnone
    rw [List.map_eq_flatMap]
    apply List.flatMap_congr
    intro p hp
    rw [p.reported_of_gap (hgap p hp), hnone p hp]
    rfl

/--
The names that are read from a header are the ones of its parameters in order, but for this: the word in
front of the first comma of a constant type is taken for a parameter too, and a name right behind the bracket
of a type is lost. Where white space or a sign stands behind each type, the names are read correctly exactly
if no word is taken for a parameter.
-/
theorem parameters_typed (h : TypedHeader) :
    parameters h.code = h.parameters.flatMap TypedParameter.reported
      ∧ ((∀ p ∈ h.parameters, p.gap ≠ []) →
        (parameters h.code = h.parameters.map (·.name.name) ↔ ∀ p ∈ h.parameters, p.mistaken? = none)) := by
  refine ⟨parameters_reported h, fun hgap => ?_⟩
  rw [parameters_reported]
  exact reported_eq_names_iff hgap

theorem parameters_typed_const :
    parameters "int f(const S<T>& m, K *n)".toList = ["m", "n"] := by
  have hread := (parameters_typed
    ⟨['i', 'n', 't', ' ', 'f'],
      [⟨true, .template ⟨[], ⟨['S'], rfl, by decide, rfl⟩⟩ (.name ⟨[], ⟨['T'], rfl, by decide, rfl⟩⟩) [],
          ['&', ' '], ⟨['m'], rfl, by decide, rfl⟩, by decide, by decide⟩,
        ⟨false, .name ⟨[], ⟨['K'], rfl, by decide, rfl⟩⟩, [' ', '*'], ⟨['n'], rfl, by decide, rfl⟩,
          by decide, by decide⟩],
      [], by decide⟩).2 (by simp)
  exact hread.mpr (by simp [TypedParameter.mistaken?, TypedParameter.isCut]; decide)

/--
The word in front of the comma in the type of a constant table is taken for a parameter.
-/
theorem parameters_typed_fails :
    parameters "void f(const std::map<std::string, int>& m)".toList = ["string", "m"] := by
  decide +kernel

end Headers

end Playback.Cpp
