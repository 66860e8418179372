import Playback.Proofs.Cpp.Calls
import Playback.Proofs.Cpp.Header

/-!
This module contains a fragment of C++ with structures: what stands outside of functions, the code of its
lines, and what the headers in it declare where they have a line of their own.
-/

namespace Playback.Cpp

open Source

section Programs

inductive Statement where
  | declare (type : TypeName) (x : Name) (e : Operand)
  | assign (x : Name) (e : Operand)

structure Member where
  type : TypeName
  name : Name

/--
Where the brace behind a header stands: on the same line behind some spaces, or on the next line.
-/
inductive Brace where
  | behind (spaces : Nat)
  | apart

inductive Entry where
  | forward (n : Name)
  | struct (n : Name) (brace : Brace) (members : List Member)
  | global (type : TypeName) (g : Name) (e : Operand)
  | function (type : TypeName) (f : Name) (parameters : List Parameter) (brace : Brace)
      (body : List Statement)

def Statement.line : Statement → Line
  | declare type x e => .declaration type x e
  | assign x e => .assignment x e

def Member.code (m : Member) : List Char :=
  m.type.chars ++ ' ' :: (m.name.chars ++ [';'])

def structWords (n : Name) : List Char :=
  ['s', 't', 'r', 'u', 'c', 't'] ++ ' ' :: n.chars

def functionFront (type : TypeName) (f : Name) (parameters : List Parameter) : List Char :=
  type.chars ++ ' ' :: (f.chars ++ '(' :: parameterList parameters)

def Brace.codes (header : List Char) : Brace → List (List Char)
  | behind spaces => [header ++ List.replicate spaces ' ' ++ ['{']]
  | apart => [header, ['{']]

/--
The names that a header declares if it has a line of its own.
-/
def Brace.unbraced (names : List String) : Brace → List String
  | behind _ => []
  | apart => names

def Entry.codes : Entry → List (List Char)
  | forward n => [structWords n ++ [';']]
  | struct n brace members => brace.codes (structWords n) ++ members.map Member.code ++ [['}', ';']]
  | global type g e => [(Line.declaration type g e).code]
  | function type f parameters brace body =>
    brace.codes (functionFront type f parameters ++ [')']) ++ body.map (·.line.code) ++ [['}']]

def Statement.declared : Statement → List String
  | declare _ x _ => [x.name]
  | assign _ _ => []

def Entry.variables : Entry → List String
  | global _ g _ => [g.name]
  | function _ _ parameters _ body => parameters.map (·.name.name) ++ body.flatMap Statement.declared
  | _ => []

/--
The names of structures on lines without a brace.
-/
def Entry.unbraced : Entry → List String
  | forward n => [n.name]
  | struct n brace _ => brace.unbraced [n.name]
  | _ => []

def Entry.outside : Entry → List String
  | global _ g _ => [g.name]
  | entry => entry.unbraced

theorem Entry.mem_outside {entry : Entry} {x : String} (h : x ∈ entry.outside) :
    x ∈ entry.variables ∨ x ∈ entry.unbraced := by
  cases entry with
  | global type g e => exact .inl h
  | forward n => exact .inr h
  | struct n brace members => exact .inr h
  | function type f parameters brace body => exact .inr h

end Programs

section Lines

theorem Member.madeOf (m : Member) : MadeOf [' ', ';'] m.code :=
  ((madeOf_type m.type).of_subset (by decide)).append
    (.cons (by decide) ((madeOf_name m.name).append (.cons (by decide) .nil)))

theorem Statement.madeOf (statement : Statement) : MadeOf [' ', '+', '<', '=', ';'] statement.line.code := by
  cases statement with
  | declare type x e => exact madeOf_declaration type x e
  | assign x e => exact madeOf_assignment x e

theorem Statement.declarations_code (statement : Statement) :
    declarations statement.line.code true = statement.declared.map (⟨·, .variable⟩) := by
  cases statement with
  | declare type x e => exact declarations_declaration type x e true
  | assign x e => exact declarations_assignment x e true

theorem madeOf_structWords (n : Name) : MadeOf [' '] (structWords n) :=
  .word_cons _ (by decide) (by simp) (madeOf_name n)

theorem madeOf_functionFront (type : TypeName) (f : Name) (parameters : List Parameter) :
    MadeOf [' ', ',', '('] (functionFront type f parameters) :=
  ((madeOf_type type).of_subset (by decide)).append (.cons (by decide) ((madeOf_name f).append
    (.cons (by decide) ((madeOf_parameterList parameters).of_subset (by decide)))))

theorem Brace.madeOf {header : List Char} {signs : List Char} (hmade : MadeOf signs header)
    (hsigns : signs ⊆ [' ', '+', '<', '=', ';', ',', '(', ')', '{', '}']) (brace : Brace) :
    ∀ code ∈ brace.codes header, MadeOf [' ', '+', '<', '=', ';', ',', '(', ')', '{', '}'] code := by
  have hheader := hmade.of_subset hsigns
  cases brace with
  | behind spaces =>
    have hspaces : MadeOf [' ', '+', '<', '=', ';', ',', '(', ')', '{', '}'] (List.replicate spaces ' ') :=
      fun c hc => .inr (by simp [List.eq_of_mem_replicate hc])
    rw [codes, List.forall_mem_singleton]
    exact (hheader.append hspaces).append (.cons (by decide) .nil)
  | apart =>
    rw [codes, List.forall_mem_cons, List.forall_mem_singleton]
    exact ⟨hheader, .cons (by decide) .nil⟩

theorem Entry.madeOf (entry : Entry) :
    ∀ code ∈ entry.codes, MadeOf [' ', '+', '<', '=', ';', ',', '(', ')', '{', '}'] code := by
  have hstruct : ∀ n, MadeOf [' ', ';'] (structWords n ++ [';']) := fun n =>
    ((madeOf_structWords n).of_subset (by decide)).append (.cons (by decide) .nil)
  have hfunction : ∀ type f parameters,
      MadeOf [' ', ',', '(', ')'] (functionFront type f parameters ++ [')']) :=
    fun type f parameters =>
      ((madeOf_functionFront type f parameters).of_subset (by decide)).append (.cons (by decide) .nil)
  cases entry with
  | forward n => simpa [codes] using (hstruct n).of_subset (by decide)
  | global type g e => simpa [codes] using (madeOf_declaration type g e).of_subset (by decide)
  | struct n brace members =>
    rw [codes, List.forall_mem_append, List.forall_mem_append, List.forall_mem_map, List.forall_mem_singleton]
    exact ⟨⟨brace.madeOf (madeOf_structWords n) (by decide),
      fun m _ => m.madeOf.of_subset (by decide)⟩, .cons (by decide) (.cons (by decide) .nil)⟩
  | function type f parameters brace body =>
    rw [codes, List.forall_mem_append, List.forall_mem_append, List.forall_mem_map, List.forall_mem_singleton]
    exact ⟨⟨brace.madeOf (hfunction type f parameters) (by decide),
      fun statement _ => statement.madeOf.of_subset (by decide)⟩, .cons (by decide) .nil⟩

end Lines

section Headers

def Declarator.bare (x : Name) (initializer : Option Initializer) : Declarator where
  lead := .space
  name := x
  space := []
  sizes := []
  room := []
  initializer
  hspace := isGap_nil
  hroom := isGap_nil

theorem Declarator.chars_bare (x : Name) (initializer : Option Initializer) :
    (bare x initializer).chars = ' ' :: (x.chars ++ (initializer.map Initializer.chars).getD []) := by
  simp [chars, bare, tail, Lead.chars, Lead.space, dimensions]

theorem Declarator.lead_bare (x : Name) (initializer : Option Initializer) :
    (bare x initializer).lead.chars ≠ [] := by
  simp [bare, Lead.chars, Lead.space]

/-
The name of a structure is taken for the one of a variable whose type is `struct`.
-/
theorem declarations_structWords (n : Name) {tail : List Char}
    (htail : tail = [] ∨ ∃ more, tail = ';' :: more) :
    declarations (structWords n ++ tail) false = [⟨n.name, .variable⟩] := by
  have hfront : ∀ m ∈ [], m ∈ specifierWords := by simp
  have hword : IsQualified ['s', 't', 'r', 'u', 'c', 't'] := .name ⟨rfl, by decide, by decide⟩
  have hall := declarations_joined hfront hword (Declarator.lead_bare n none) [] htail false
  rw [joined_singleton, Declarator.chars_bare, Option.map_none, Option.getD_none, List.append_nil] at hall
  exact hall

/-
A function header on a line of its own declares nothing.
-/
theorem declarations_functionFront (type : TypeName) (f : Name) (parameters : List Parameter) :
    declarations (functionFront type f parameters ++ [')']) false = [] := by
  rcases type.exists_qualified with ⟨front, word, htype, hfront, hword⟩
  have hmade := madeOf_parameterList parameters
  let inside : Value :=
    { chars := parameterList parameters
      line := hmade.not_mem rfl (by decide)
      balanced := .of_plain fun c hc => (hmade.plain rfl (by decide) c hc : c ≠ ';' ∧ _).2 }
  have hlead := Declarator.lead_bare f (some (.called inside))
  have hall := declarations_joined hfront hword hlead [] (.inl rfl) false
  rw [joined_singleton, Declarator.chars_bare, ← htype] at hall
  have hcode : functionFront type f parameters ++ [')']
      = type.chars ++ ' ' :: (f.chars ++ (Initializer.called inside).chars) ++ [] := by
    simp [functionFront, Initializer.chars, inside]
  rw [hcode]
  exact hall

theorem isBlock_structWords (lineNo : Nat) (lastCode : List Char) (n : Name) :
    (topLevelKind lineNo lastCode (structWords n)).isBlock = false := by
  have hparen : '(' ∉ structWords n := by
    have hname : '(' ∉ n.chars := fun hmem => absurd (n.freeWord.isWordChar _ hmem) (by decide)
    simp [structWords, hname]
  rw [isBlock_topLevelKind lineNo ⟨structWords n, lastCode⟩, OpenBrace.isFunction]
  simp [hparen]

end Headers

section Openings

/--
Whether a text can be the header of a scope, and what it declares where it has a line of its own.
-/
structure IsHeader (header : List Char) (outside : List String) : Prop where
  head : header.head?.any Text.isBlank = false
  last : header.getLast?.any Text.isBlank = false
  ne_nil : header ≠ []
  opening : '{' ∉ header
  closing : '}' ∉ header
  declares : declarations header false = outside.map (⟨·, .variable⟩)

/--
Whether a text is the header of a brace behind a piece of code, given the last code in front of the line.
-/
structure Introduces (lastCode front header : List Char) : Prop where
  opening : '{' ∉ front
  closing : '}' ∉ front
  shown : (if (Text.trim front).isEmpty then lastCode else Text.trim front) = header

section Introduced

variable {header : List Char} {outside : List String} (h : IsHeader header outside)
include h

theorem IsHeader.introduces (spaces : Nat) (lastCode : List Char) :
    Introduces lastCode (header ++ List.replicate spaces ' ') header where
  opening := by
    rw [List.mem_append, not_or]
    exact ⟨h.opening, fun hmem => absurd (List.eq_of_mem_replicate hmem) (by decide)⟩
  closing := by
    rw [List.mem_append, not_or]
    exact ⟨h.closing, fun hmem => absurd (List.eq_of_mem_replicate hmem) (by decide)⟩
  shown := by
    have hhead : (header ++ List.replicate spaces ' ').head?.any Text.isBlank = false := by
      rw [List.head?_append_of_ne_nil _ h.ne_nil]
      exact h.head
    have hblank : ∀ c ∈ List.replicate spaces ' ', Text.isBlank c = true := by
      intro c hc
      rw [List.eq_of_mem_replicate hc]
      rfl
    rw [Text.trim_of_head hhead, Text.trimEnd_append_of_blank h.last hblank, if_neg (by simp [h.ne_nil])]

omit h in
theorem introduces_alone (header : List Char) : Introduces header [] header where
  opening := by simp
  closing := by simp
  shown := rfl

end Introduced

theorem isHeader_structWords (n : Name) : IsHeader (structWords n) [n.name] where
  head := rfl
  last := by
    have hcode : structWords n = ['s', 't', 'r', 'u', 'c', 't', ' '] ++ n.chars := by simp [structWords]
    rw [hcode]
    exact isBlank_last_word n.freeWord _
  ne_nil := by simp [structWords]
  opening := (madeOf_structWords n).not_mem rfl (by decide)
  closing := (madeOf_structWords n).not_mem rfl (by decide)
  declares := by
    have hcode := declarations_structWords n (.inl rfl)
    rwa [List.append_nil] at hcode

theorem isHeader_functionFront (type : TypeName) (f : Name) (parameters : List Parameter) :
    IsHeader (functionFront type f parameters ++ [')']) [] where
  head := by
    rw [functionFront, List.append_assoc]
    exact isBlank_head_type type _
  last := by rw [List.getLast?_concat]; rfl
  ne_nil := by simp
  opening := by
    simp [(madeOf_functionFront type f parameters).not_mem (c := '{') rfl (by decide)]
  closing := by
    simp [(madeOf_functionFront type f parameters).not_mem (c := '}') rfl (by decide)]
  declares := declarations_functionFront type f parameters

end Openings

end Playback.Cpp
