import Playback.Proofs.Cpp.Plain
import Playback.Proofs.Cpp.Span

/-!
This module contains the result about the fields of structures: the function for a structure writes and
follows its data members in order and nothing of its methods, in every layout of the definition.
-/

namespace Playback.Cpp

open Pattern Source

section Members

/--
A type of one word: one that is built in, or a name.
-/
abbrev TypeWord := Source.Name [] otherKeywords

inductive FieldForm where
  | plain
  | pointer
  | array (size : List Char) (hne : size ≠ []) (hsize : ∀ c ∈ size, c.isDigit = true)

namespace FieldForm

def before : FieldForm → List Char
  | pointer => ['*']
  | _ => []

def behind : FieldForm → List Char
  | array size _ _ => '[' :: (size ++ [']'])
  | _ => []

def around (form : FieldForm) (name : Name) : List Char :=
  form.before ++ (name.chars ++ form.behind)

end FieldForm

/--
A member of a structure: a data member, or a method with its body.
-/
inductive StructMember where
  | field (type : TypeWord) (form : FieldForm) (name : Name)
  | method (type : TypeWord) (name : Name) (parameters : List Parameter) (body : List Char)
      (hclean : Clean body) (hbalanced : openBraces 0 body = some 0)

namespace StructMember

def front : StructMember → List Char
  | field type form name => type.chars ++ ' ' :: form.around name
  | method type name parameters _ _ _ =>
    type.chars ++ ' ' :: (name.chars ++ '(' :: (parameterList parameters ++ [')', ' ']))

def code : StructMember → List Char
  | m@(field ..) => m.front ++ [';']
  | m@(method _ _ _ body _ _) => m.front ++ '{' :: ' ' :: (body ++ [' ', '}'])

def fields : StructMember → List String
  | field _ _ name => [name.name]
  | method .. => []

end StructMember

/--
The text between the braces of a structure: its members with a space in front of each of them and one more space
at the end.
-/
def membersText (members : List StructMember) : List Char :=
  ' ' :: members.flatMap fun m => m.code ++ [' ']

def definitionTail (members : List StructMember) : List Char :=
  ' ' :: '{' :: (membersText members ++ ['}', ';'])

end Members

section Text

theorem TypeWord.freeWord (type : TypeWord) : FreeWord otherKeywords type.chars :=
  Source.Name.freeWord (by simp)

theorem madeOf_typeWord (type : TypeWord) {signs : List Char} : MadeOf signs type.chars :=
  .of_word (TypeWord.freeWord type).isWordChar

theorem FieldForm.madeOf_around (form : FieldForm) (name : Name) :
    MadeOf ['*', '[', ']'] (form.around name) := by
  cases form with
  | plain => exact MadeOf.nil.append ((madeOf_name name).append .nil)
  | pointer => exact (MadeOf.cons (by decide) .nil).append ((madeOf_name name).append .nil)
  | array size hne hsize =>
    have hword : ∀ c ∈ size, Text.isWordChar c = true := by
      intro c hc
      simp [Text.isWordChar, Text.isAlphanumeric, Char.isAlphanum, hsize c hc]
    exact MadeOf.nil.append ((madeOf_name name).append
      (.cons (by decide) ((MadeOf.of_word hword).append (.cons (by decide) .nil))))

theorem StructMember.madeOf_front (m : StructMember) :
    MadeOf [' ', '*', '[', ']', ',', '(', ')'] m.front := by
  cases m with
  | field type form name =>
    exact (madeOf_typeWord type).append
      (.cons (by decide) ((form.madeOf_around name).of_subset (by decide)))
  | method type name parameters body hclean hbalanced =>
    exact (madeOf_typeWord type).append (.cons (by decide) ((madeOf_name name).append (.cons (by decide)
      (((madeOf_parameterList parameters).of_subset (by decide)).append
        (.cons (by decide) (.cons (by decide) .nil))))))

theorem StructMember.clean_code (m : StructMember) : Clean m.code := by
  have hfront : Clean m.front := clean_of_madeOf m.madeOf_front (by decide)
  have hslash : ∀ c ∈ m.front.getLast?, ∀ d, StartsNoComment c d := by
    rintro c hc d rfl
    exact absurd (List.mem_of_getLast? hc) (m.madeOf_front.not_mem rfl (by decide))
  have hplain : ∀ cs ∈ [[';'], ['{', ' '], [' ', '}']],
      ∀ c ∈ cs, c ≠ '"' ∧ c ≠ '\'' ∧ c ≠ '#' ∧ c ≠ '/' := by decide
  cases m with
  | field type form name =>
    exact hfront.append (.of_plain (hplain _ (by simp))) fun c hc d _ => hslash c hc d
  | method type name parameters body hclean hbalanced =>
    have hinside : Clean (body ++ [' ', '}']) := by
      apply hclean.append (.of_plain (hplain _ (by simp)))
      rintro c _ d ⟨rfl⟩
      exact startsNoComment_of_isBlank (.inr rfl)
    have hbody : Clean (['{', ' '] ++ (body ++ [' ', '}'])) := by
      apply Clean.append (.of_plain (hplain _ (by simp))) hinside
      rintro c ⟨rfl⟩ d _
      exact startsNoComment_of_isBlank (.inl rfl)
    exact hfront.append hbody fun c hc d _ => hslash c hc d

/-
A member is read as what stands in front of its semicolon or its body.
-/
theorem StructMember.read_code (m : StructMember) :
    openBraces 0 m.code = some 0 ∧ memberText 0 m.code = m.front ++ [';'] := by
  have hopen : '{' ∉ m.front := m.madeOf_front.not_mem rfl (by decide)
  have hclose : '}' ∉ m.front := m.madeOf_front.not_mem rfl (by decide)
  have hfront := openBraces_plain hopen hclose 0
  have hread := memberText_append hfront
  rw [memberText_plain hopen hclose] at hread
  cases m with
  | field type form name =>
    rw [code, openBraces_append, hfront, hread]
    exact ⟨rfl, rfl⟩
  | method type name parameters body hclean hbalanced =>
    have hbody := openBraces_succ hbalanced
    have hinside : openBraces 0 ('{' :: ' ' :: (body ++ [' ', '}'])) = openBraces 1 (body ++ [' ', '}']) := rfl
    have htext : memberText 0 ('{' :: ' ' :: (body ++ [' ', '}'])) = memberText 1 (body ++ [' ', '}']) := rfl
    rw [code, openBraces_append, hfront, hread, Option.bind_some, hinside, htext, openBraces_append, hbody,
      memberText_append hbody, memberText_succ hbalanced]
    exact ⟨rfl, rfl⟩

def readText (members : List StructMember) : List Char :=
  ' ' :: members.flatMap fun m => m.front ++ [';', ' ']

theorem membersText_cons (m : StructMember) (members : List StructMember) :
    membersText (m :: members) = ' ' :: (m.code ++ membersText members) := by
  simp [membersText]

theorem readText_cons (m : StructMember) (members : List StructMember) :
    readText (m :: members) = ' ' :: m.front ++ ';' :: readText members := by
  simp [readText]

theorem clean_membersText (members : List StructMember) : Clean (membersText members) := by
  have hspace : Clean [' '] := clean_of_blank (by simp [Text.isBlank_space])
  induction members with
  | nil => exact hspace
  | cons m members ih =>
    rw [membersText_cons]
    have hrest : Clean (m.code ++ membersText members) := by
      apply m.clean_code.append ih
      rintro c _ d ⟨rfl⟩
      exact startsNoComment_of_isBlank (.inr rfl)
    apply hspace.append hrest
    rintro c ⟨rfl⟩ d _
    exact startsNoComment_of_isBlank (.inl rfl)

theorem read_membersText (members : List StructMember) :
    openBraces 0 (membersText members) = some 0 ∧ memberText 0 (membersText members) = readText members := by
  induction members with
  | nil => exact ⟨rfl, rfl⟩
  | cons m members ih =>
    rw [membersText_cons, readText_cons, openBraces_blank Text.isBlank_space, openBraces_append,
      m.read_code.1, Option.bind_some, ih.1, memberText_blank Text.isBlank_space, if_pos rfl,
      memberText_append m.read_code.1, m.read_code.2, ih.2]
    exact ⟨rfl, by simp⟩

end Text

section Labels

/-
There is a colon where a pattern with one matches.
-/
theorem colon_mem_of_reaches {p : Pattern} {a b : Place} (h : Reaches (p ++ text ":") a b) : ':' ∈ a.rest := by
  cases h with
  | seq hp hcolon =>
    rcases hp.taken (takesOnly_true p) with ⟨front, heq, _⟩
    cases hcolon with
    | seq hchar _ =>
      cases hchar with
      | @char _ c rest _ ha hc =>
        have hc : (c == ':') = true := hc
        rw [heq, ha, eq_of_beq hc]
        simp

variable {cs : List Char} (hcolon : ':' ∉ cs)
include hcolon

theorem matchAt?_accessLabel : accessLabel.matchAt? cs = none := by
  rw [Option.eq_none_iff_forall_ne_some]
  intro place hplace
  exact hcolon (colon_mem_of_reaches (reaches_of_matchAt? hplace))

theorem occursIn_loneColon : loneColon.occursIn cs = false := by
  rw [Bool.eq_false_iff]
  intro hoccurs
  rcases (occursIn_iff loneColon cs).mp hoccurs with ⟨front, rest, rfl, hrun⟩
  rcases Option.isSome_iff_exists.mp hrun with ⟨place, hplace⟩
  cases reaches_of_run hplace with
  | seq hfront _ =>
    have hmem : ':' ∈ rest := colon_mem_of_reaches hfront
    exact hcolon (List.mem_append_right front hmem)

/-
Without a label, a member has the fields that are declared by it as a statement.
-/
theorem memberFields_eq :
    memberFields cs
      =
    let member := Text.trim cs
    if member.isEmpty || member.contains '(' || isAmong notFields (firstWord member) then []
    else (declarations (member ++ [';']) true).map Declared.name := by
  have hlone : loneColon.occursIn (Text.trim cs) = false :=
    occursIn_loneColon fun hmem => hcolon (Text.mem_of_mem_trim hmem)
  unfold memberFields
  rw [matchAt?_accessLabel hcolon]
  dsimp only
  rw [hlone, Bool.or_false]
  cases (Text.trim cs).isEmpty || (Text.trim cs).contains '(' <;> rfl

end Labels

section Parts

def TypeWord.qualified (type : TypeWord) : QualifiedName notTypes where
  qualifiers := []
  name := { type with free := ((TypeWord.freeWord type).of_subset mem_otherKeywords_of_notTypes).free }

namespace FieldForm

theorem plain_of_isDigit {c : Char} (hc : c.isDigit = true) : bracketStep c = 0 ∧ c ≠ '\n' := by
  have hword : Text.isWordChar c = true := by
    simp [Text.isWordChar, Text.isAlphanumeric, Char.isAlphanum, hc]
  refine ⟨bracketStep_of_isWordChar hword, ?_⟩
  rintro rfl
  contradiction

def sizes : FieldForm → List Size
  | array size _ hsize => [⟨size, fun c hc => plain_of_isDigit (hsize c hc)⟩]
  | _ => []

theorem isFixed_sizes (form : FieldForm) : form.sizes.all Size.isFixed = true := by
  cases form with
  | plain => rfl
  | pointer => rfl
  | array size hne hsize =>
    have hdecimal : ∀ c ∈ size, Text.isDecimal c = true := by
      intro c hc
      simp [Text.isDecimal, Text.digitValue?, hsize c hc]
    have hconstant : isConstant size = true := by
      rw [isConstant, Bool.or_eq_true, List.all_eq_true]
      exact .inl hdecimal
    have hfixed : isFixedSize ([] ++ (size ++ [])) = true :=
      isFixedSize_append (by simp) (.inr hconstant) (by simp)
    rw [List.nil_append, List.append_nil] at hfixed
    simpa [sizes, Size.isFixed] using hfixed

def declarator (form : FieldForm) (name : Name) {gap : List Char} (hgap : IsGap gap) : Declarator where
  lead :=
    { front := gap
      signs := form.before
      back := []
      hfront := hgap
      hsigns := by cases form <;> simp [before, isSign]
      hback := isGap_nil }
  name
  space := []
  sizes := form.sizes
  room := []
  initializer := none
  hspace := isGap_nil
  hroom := isGap_nil

theorem chars_declarator (form : FieldForm) (name : Name) {gap : List Char} (hgap : IsGap gap) :
    (form.declarator name hgap).chars = gap ++ form.around name := by
  cases form <;> simp [Declarator.chars, declarator, Lead.chars, sizes, dimensions, Size.code, around, behind,
    Declarator.tail]

theorem solid_around (form : FieldForm) (name : Name) : ∀ c ∈ form.around name, Text.isBlank c = false := by
  have hsigns : ∀ c ∈ ['*', '[', ']'], Text.isBlank c = false := by decide
  exact fun c hc => (form.madeOf_around name c hc).elim Text.isBlank_of_isWordChar (hsigns c)

theorem around_ne_nil (form : FieldForm) (name : Name) : form.around name ≠ [] := by
  simp [around, name.freeWord.ne_nil]

end FieldForm

variable (type : TypeWord) (form : FieldForm) (name : Name) {lead gap : List Char}

theorem declarations_field (hgap : IsGap gap) (hne : gap ≠ []) :
    (declarations (type.chars ++ (gap ++ form.around name) ++ [';']) true).map Declared.name
      =
    [name.name] := by
  let s : PlainDeclaration :=
    { type := TypeWord.qualified type
      first := form.declarator name hgap
      others := []
      apart := by simp [Lead.chars, FieldForm.declarator, hne] }
  have hcode : s.code = type.chars ++ (gap ++ form.around name) ++ [';'] := by
    rw [← form.chars_declarator name hgap, ← joined_singleton]
    rfl
  have hdeclared : ∃ shape, (form.declarator name hgap).declared? s.isChar = some ⟨name.name, shape⟩ := by
    unfold Declarator.declared?
    split
    · exact ⟨_, rfl⟩
    · have hfixed : (form.declarator name hgap).sizes.all Size.isFixed = true := form.isFixed_sizes
      rw [if_pos hfixed]
      exact ⟨_, rfl⟩
  rcases hdeclared with ⟨shape, hshape⟩
  rw [← hcode, declarations_plain, if_neg (by simp), PlainDeclaration.declarators, List.filterMap_cons, hshape]
  rfl

theorem trim_field (hlead : ∀ c ∈ lead, Text.isBlank c = true) :
    Text.trim (lead ++ (type.chars ++ (gap ++ form.around name)))
      =
    type.chars ++ (gap ++ form.around name) := by
  have htype := type.freeWord
  have hsolid := form.solid_around name
  have hname : ∃ c ∈ form.around name, Text.isBlank c = false := by
    rcases List.exists_mem_of_ne_nil _ (form.around_ne_nil name) with ⟨c, hc⟩
    exact ⟨c, hc, hsolid c hc⟩
  have hend : Text.trim ([] ++ (form.around name ++ [])) = form.around name :=
    Text.trim_append (by simp) hsolid (by simp)
  rw [List.append_nil, List.nil_append, Text.trim_of_head (Text.isBlank_head_solid hsolid)] at hend
  rw [Text.trim_blank_append hlead, Text.trim_of_head (Text.isBlank_head_word htype.ne_nil htype.isWordChar),
    ← List.append_assoc, Text.trimEnd_append hname, hend, List.append_assoc]

/-
A data member declares its name, whatever white space stands around its type.
-/
theorem memberFields_field (hlead : ∀ c ∈ lead, Text.isBlank c = true) (hgap : IsGap gap) (hne : gap ≠ []) :
    memberFields (lead ++ (type.chars ++ (gap ++ form.around name))) = [name.name] := by
  have htype := type.freeWord
  -- The member has neither a label nor a parenthesis.
  have habsent : ∀ c ∈ [':', '('], c ∉ lead ∧ c ∉ type.chars ++ (gap ++ form.around name) := by
    have hsigns : ∀ c ∈ [':', '('],
        Text.isBlank c = false ∧ Text.isWordChar c = false ∧ c ∉ ['*', '[', ']'] := by decide
    intro c hc
    rcases hsigns c hc with ⟨hblank, hword, hsign⟩
    have hnone : ∀ {cs : List Char}, (∀ d ∈ cs, Text.isBlank d = true) → c ∉ cs := by
      intro cs hcs hmem
      rw [hcs c hmem] at hblank
      contradiction
    rw [List.mem_append, not_or, List.mem_append, not_or]
    exact ⟨hnone hlead, (madeOf_typeWord type).not_mem hword hsign, hnone hgap.isBlank,
      (form.madeOf_around name).not_mem hword hsign⟩
  have hcolon : ':' ∉ lead ++ (type.chars ++ (gap ++ form.around name)) := by
    rw [List.mem_append, not_or]
    exact habsent ':' (by simp)
  have hparen : (type.chars ++ (gap ++ form.around name)).contains '(' = false := by
    rw [List.contains_eq_mem, decide_eq_false_iff_not]
    exact (habsent '(' (by simp)).2
  have hfirst : firstWord (type.chars ++ (gap ++ form.around name)) = type.chars := by
    apply htype.firstWord_append
    cases gap with
    | nil => contradiction
    | cons c gap => exact Text.isWordChar_of_isBlank (hgap.isBlank c List.mem_cons_self)
  have hfree : isAmong notFields type.chars = false := (htype.of_subset (by decide)).free
  rw [memberFields_eq hcolon, trim_field type form name hlead]
  dsimp only
  rw [hparen, hfirst, hfree, if_neg (by simp [htype.ne_nil]), declarations_field type form name hgap hne]

/-
The words of a data member with the white space between them, in any layout.
-/
theorem exists_of_squeeze_field {part : List Char}
    (hpart : Text.squeeze part = Text.squeeze (' ' :: (StructMember.field type form name).front)) :
    ∃ lead gap, part = lead ++ (type.chars ++ (gap ++ form.around name))
      ∧ (∀ c ∈ lead, Text.isBlank c = true) ∧ (∀ c ∈ gap, Text.isBlank c = true) ∧ gap ≠ [] := by
  have hsolid := form.solid_around name
  have htype : ∀ c ∈ type.chars, Text.isBlank c = false :=
    fun c hc => Text.isBlank_of_isWordChar (type.freeWord.isWordChar c hc)
  have hhead : (type.chars ++ ' ' :: form.around name).head?.any Text.isBlank = false :=
    Text.isBlank_head_word type.freeWord.ne_nil type.freeWord.isWordChar
  rw [StructMember.front, Text.squeeze_blank Text.isBlank_space, Text.squeezeFrom_of_head hhead,
    Text.squeeze_word htype, Text.squeeze_blank Text.isBlank_space,
    Text.squeezeFrom_of_head (Text.isBlank_head_solid hsolid), Text.squeeze_solid hsolid] at hpart
  rcases Text.squeeze_eq_space_cons hpart with ⟨lead, behindLead, rfl, _, hlead, htail⟩
  rcases Text.squeeze_eq_word_append htype htail with ⟨behindType, rfl, hbehind⟩
  rcases Text.squeeze_eq_space_cons hbehind with ⟨gap, last, rfl, hne, hgap, hlast⟩
  rw [← List.append_nil (form.around name)] at hlast
  rcases Text.squeeze_eq_word_append hsolid hlast with ⟨back, rfl, hback⟩
  exact ⟨lead, gap, by rw [Text.squeeze_eq_nil hback, List.append_nil], hlead, hgap, hne⟩

theorem mem_of_squeeze_eq {part front : List Char} (hpart : Text.squeeze part = Text.squeeze front) {c : Char}
    (hc : Text.isBlank c = false) : c ∈ part ↔ c ∈ front := by
  rw [← Text.mem_squeeze hc, hpart, Text.mem_squeeze hc]

theorem memberFields_front (m : StructMember) {part : List Char}
    (hpart : Text.squeeze part = Text.squeeze (' ' :: m.front)) (hline : '\n' ∉ part) :
    memberFields part = m.fields := by
  cases m with
  | field type form name =>
    rcases exists_of_squeeze_field type form name hpart with ⟨lead, gap, rfl, hlead, hgap, hne⟩
    refine memberFields_field type form name hlead (fun c hc => ⟨hgap c hc, ?_⟩) hne
    rintro rfl
    exact hline (by simp [hc])
  | method type name parameters body hclean hbalanced =>
    have hmade := (StructMember.method type name parameters body hclean hbalanced).madeOf_front
    have hcolon : ':' ∉ part := by
      rw [mem_of_squeeze_eq hpart rfl]
      simp [hmade.not_mem (c := ':') rfl (by decide)]
    have hparen : '(' ∈ part := by
      rw [mem_of_squeeze_eq hpart rfl]
      simp [StructMember.front]
    have htrim : '(' ∈ Text.trim part := (Text.isBlank_or_mem_trim hparen).resolve_left (by decide)
    rw [memberFields_eq hcolon]
    dsimp only
    rw [if_pos (by simp [htrim])]
    rfl

theorem memberFields_blank {part : List Char} (hpart : Text.squeeze part = [' ']) : memberFields part = [] := by
  rcases Text.squeeze_eq_space_cons hpart with ⟨gap, back, rfl, _, hgap, hback⟩
  rw [Text.squeeze_eq_nil hback, List.append_nil]
  have hcolon : ':' ∉ gap := fun hmem => absurd (hgap ':' hmem) (by decide)
  rw [memberFields_eq hcolon, Text.trim_eq_nil hgap]
  rfl

/-
What is read between the braces has the fields of the members, whatever its white space.
-/
theorem structFields_readText {members : List StructMember} {body : List Char}
    (hbody : Text.squeeze body = Text.squeeze (readText members)) (hline : '\n' ∉ body) :
    structFields body = members.flatMap StructMember.fields := by
  have hsemicolon : Text.isBlank ';' = false := rfl
  have hsplit : ∀ {part : List Char}, ';' ∉ part → Text.splitOn ';' part = [part] := by
    intro part hpart
    apply Text.splitWhen_eq_singleton
    intro c hc
    rw [beq_eq_false_iff_ne]
    rintro rfl
    exact hpart hc
  -- The induction is on the members: the first semicolon of the body ends the first of them.
  induction members generalizing body with
  | nil =>
    have hblank : Text.squeeze body = [' '] := hbody
    have hnone : ';' ∉ body := by
      rw [mem_of_squeeze_eq hbody hsemicolon]
      simp [readText]
    rw [structFields, hsplit hnone, List.flatMap_singleton, memberFields_blank hblank]
    rfl
  | cons m members ih =>
    rw [readText_cons, Text.squeeze, Text.squeeze, Text.squeezeFrom_append_cons hsemicolon] at hbody
    rcases Text.squeezeFrom_eq_append_cons hsemicolon hbody with ⟨part, rest, rfl, hpart, hrest⟩
    rw [List.mem_append, List.mem_cons, not_or, not_or] at hline
    have hnone : ';' ∉ part := by
      rw [mem_of_squeeze_eq hpart hsemicolon]
      simp [m.madeOf_front.not_mem (c := ';') rfl (by decide)]
    rw [structFields, Text.splitOn, Text.splitWhen_append_cons rfl, ← Text.splitOn, hsplit hnone,
      List.flatMap_append, List.flatMap_singleton, memberFields_front m hpart hline.1, List.flatMap_cons]
    exact congrArg (m.fields ++ ·) (ih hrest hline.2.2)

end Parts

section Result

/-
A text that is laid out like the rest of a definition has a pair of braces with the members in it.
-/
theorem exists_of_squeeze_definition {members : List StructMember} {tail : List Char}
    (htail : Text.squeeze tail = Text.squeeze (definitionTail members)) :
    ∃ gap inside back, tail = gap ++ '{' :: (inside ++ '}' :: back) ∧ (∀ c ∈ gap, Text.isBlank c = true)
      ∧ Text.squeeze inside = Text.squeeze (membersText members) := by
  have hbrace : Text.isBlank '{' = false ∧ Text.isBlank '}' = false := ⟨rfl, rfl⟩
  have hdefinition : definitionTail members = [' '] ++ '{' :: (membersText members ++ '}' :: [';']) := rfl
  rw [hdefinition, Text.squeeze, Text.squeeze, Text.squeezeFrom_append_cons hbrace.1, Text.squeeze,
    Text.squeezeFrom_append_cons hbrace.2] at htail
  rcases Text.squeezeFrom_eq_append_cons hbrace.1 htail with ⟨gap, behind, rfl, hgap, hbehind⟩
  rcases Text.squeezeFrom_eq_append_cons hbrace.2 hbehind with ⟨inside, back, rfl, hinside, _⟩
  have hspace : Text.squeeze gap = [' '] := hgap
  rcases Text.squeeze_eq_space_cons hspace with ⟨blanks, none, rfl, _, hblanks, hnone⟩
  rw [Text.squeeze_eq_nil hnone, List.append_nil]
  exact ⟨blanks, inside, back, rfl, hblanks, hinside⟩

/-
Every field is written by a line of its own, which has a comma in front of the field unless it is the first
one.
-/
theorem fieldLines_eq_mapIdx (fields : List String) :
    fieldLines fields = fields.mapIdx fun i field => fieldLine (if i = 0 then "" else ",") field := by
  cases fields with
  | nil => rfl
  | cons field fields =>
    rw [fieldLines, List.mapIdx_cons]
    congr 1
    apply List.ext_getElem
    · rw [List.length_map, List.length_mapIdx]
    · intro i hi hi'
      rw [List.getElem_map, List.getElem_mapIdx, if_neg (Nat.succ_ne_zero i)]

/--
The function for a structure at the start of a program writes the data members in order, each by a line of
its own, and follows them in the same way. It does nothing else, whatever the methods are and in every layout
of the definition: white space behind the name may be any other white space.
-/
theorem rewrite_fields (n : Name) (members : List StructMember) {tail rest : List Char}
    (htail : Text.squeeze tail = Text.squeeze (definitionTail members)) {source : String}
    (hsource : source.toList = structWords n ++ tail ++ rest) (maxTraced : Int) :
    let fields := members.flatMap StructMember.fields
    let opening :=
      ["",
       "void __pt_dump_" ++ n.name ++ "(const " ++ n.name
         ++ "* p, int depth, std::set<const void*>& visited) \x7b",
       "    if (!p || depth > 3 || visited.count(p)) return;",
       "    visited.insert(p);",
       "    std::ostringstream os;",
       "    os << \"HEAPPUT:\" << __pt_ref(p) << \":\x7b\\\"type\\\":\\\"" ++ n.name
         ++ "\\\",\\\"value\\\":\x7b\";"]
    let writes := fields.mapIdx fun i field =>
      "    os << \"" ++ (if i = 0 then "" else ",") ++ "\\\"" ++ field ++ "\\\":\" << __pt_to_json(p->" ++ field
        ++ ");"
    let closing := ["    os << \"\x7d\x7d\";", "    std::cout << os.str() << std::endl;"]
    let follows := fields.map fun field => "    __pt_recurse_field(p->" ++ field ++ ", depth + 1, visited);"
    ∃ woven, ∃ others : List Struct,
      rewrite source maxTraced
          = Text.unlines (weave woven ++ (opening ++ writes ++ closing ++ follows ++ ["\x7d"])
            ++ others.flatMap dumperDefinition)
        ∧ woven.map Prod.fst = Text.lines source := by
  intro fields opening writes closing follows
  rcases exists_of_squeeze_definition htail with ⟨gap, inside, back, rfl, hgap, hinside⟩
  have hbalanced : openBraces 0 inside = some 0 := by
    rw [← openBraces_squeezeFrom false, ← Text.squeeze, hinside, Text.squeeze, openBraces_squeezeFrom]
    exact (read_membersText members).1
  have hclean := clean_of_squeeze (clean_membersText members) hinside
  have htext : source.toList = structWords n ++ (gap ++ '{' :: (inside ++ '}' :: (back ++ rest))) := by
    rw [hsource]
    simp
  rcases exists_structs n hgap hclean hbalanced htext maxTraced with ⟨read, hread, hline, hstructs⟩
  have hbody : Text.squeeze (memberText 0 read) = Text.squeeze (readText members) := by
    have hsame : ∀ cs, Text.squeeze (memberText 0 cs) = Text.squeeze (memberText 0 (Text.squeeze cs)) :=
      fun cs => (squeezeFrom_memberText (by simp) cs).symm
    rw [hsame, hread, hinside, ← hsame, (read_membersText members).2]
  have hbodyLine : '\n' ∉ memberText 0 read :=
    fun hmem => (mem_of_mem_memberText hmem).elim hline (by decide)
  rw [structFields_readText hbody hbodyLine] at hstructs
  rcases hstructs with ⟨others, hothers⟩
  rcases exists_woven maxTraced 1 {} ((Text.lines source).zip (codes source)) with ⟨woven, hout, hown, _⟩
  have hdumper : dumperDefinition { name := n.name, fields }
      = opening ++ writes ++ closing ++ follows ++ ["\x7d"] := by
    unfold dumperDefinition
    dsimp only
    rw [fieldLines_eq_mapIdx]
    rfl
  rw [map_snd_zip_codes, ← hothers, List.singleton_append, List.flatMap_cons, hdumper,
    ← List.append_assoc] at hout
  exact ⟨woven, others, congrArg Text.unlines hout, hown.trans (map_fst_zip_codes source)⟩

/--
A structure with its brace on a line of its own, a data member that is spread over two lines, and a method with
nested braces.
-/
theorem rewrite_fields_spread :
    let int : TypeWord := ⟨['i', 'n', 't'], rfl, by decide, by decide⟩
    let node : Name := ⟨['N'], rfl, by decide, by decide⟩
    let members : List StructMember :=
      [.field int (.array ['2'] (by decide) (by decide)) ⟨['a'], rfl, by decide, by decide⟩,
        .field ⟨['N'], rfl, by decide, by decide⟩ .pointer ⟨['n'], rfl, by decide, by decide⟩,
        .method int ⟨['f'], rfl, by decide, by decide⟩
          [⟨.named node, ⟨['b'], rfl, by decide, by decide⟩⟩]
          "if (n) \x7b int c; \x7d return a[0];".toList (.of_plain (by decide +kernel)) (by decide +kernel)]
    let tail :=
      (Text.unlines ["", "", "\x7b", "  int a[2];", "  N", "    *n; int f(N b)", "  \x7b",
        "    if (n) \x7b int c; \x7d", "    return a[0];", "  \x7d", "\x7d;"]).toList
    let source := Text.unlines ["struct N", "", "\x7b", "  int a[2];", "  N", "    *n; int f(N b)", "  \x7b",
      "    if (n) \x7b int c; \x7d", "    return a[0];", "  \x7d", "\x7d; N g;"]
    Text.squeeze tail = Text.squeeze (definitionTail members)
      ∧ source.toList = structWords node ++ tail ++ " N g;".toList
      ∧ ∃ woven, ∃ others : List Struct,
        rewrite source defaultMaxTraced
            = Text.unlines (weave woven
              ++ ["",
                "void __pt_dump_N(const N* p, int depth, std::set<const void*>& visited) \x7b",
                "    if (!p || depth > 3 || visited.count(p)) return;",
                "    visited.insert(p);",
                "    std::ostringstream os;",
                "    os << \"HEAPPUT:\" << __pt_ref(p) << \":\x7b\\\"type\\\":\\\"N\\\",\\\"value\\\":\x7b\";",
                "    os << \"\\\"a\\\":\" << __pt_to_json(p->a);",
                "    os << \",\\\"n\\\":\" << __pt_to_json(p->n);",
                "    os << \"\x7d\x7d\";",
                "    std::cout << os.str() << std::endl;",
                "    __pt_recurse_field(p->a, depth + 1, visited);",
                "    __pt_recurse_field(p->n, depth + 1, visited);",
                "\x7d"]
              ++ others.flatMap dumperDefinition)
          ∧ woven.map Prod.fst = Text.lines source := by
  intro int node members tail source
  have htail : Text.squeeze tail = Text.squeeze (definitionTail members) := by
    decide +kernel
  have hsource : source.toList = structWords node ++ tail ++ " N g;".toList := by
    decide +kernel
  exact ⟨htail, hsource, rewrite_fields node members htail hsource defaultMaxTraced⟩

end Result

end Playback.Cpp
