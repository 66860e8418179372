import Playback.Proofs.Cpp.Declarator

/-!
This module contains the result about plain declarations: a type of one name with its qualifiers, and names
behind it with pointer and reference signs, sizes and values.
-/

namespace Playback.Cpp

open Source

/--
A statement that declares names of one type. Something stands between the type and the first of the names.
-/
structure PlainDeclaration where
  type : QualifiedName notTypes
  first : Declarator
  others : List Declarator
  apart : first.lead.chars ≠ []

namespace PlainDeclaration

variable (s : PlainDeclaration)

def declarators : List Declarator :=
  s.first :: s.others

def code : List Char :=
  s.type.chars ++ joined s.declarators ++ [';']

def isChar : Bool :=
  s.type.chars == "char".toList

end PlainDeclaration

/-
The parts of a declaration declare what each of them does, unless calls are not allowed and one of them
looks like a call.
-/
theorem collect_parts (isChar allowCall : Bool) (ds : List Declarator) :
    collect (ds.map (·.part isChar allowCall))
      =
    if ds.any Declarator.isCall && !allowCall then none
    else some (ds.filterMap (·.declared? isChar)) := by
  induction ds with
  | nil => rfl
  | cons d ds ih =>
    rw [List.map_cons, List.any_cons, List.filterMap_cons]
    cases hcall : d.isCall && !allowCall with
    | true =>
      rw [Declarator.part, hcall]
      rw [Bool.and_eq_true] at hcall
      simp [collect, hcall.1, hcall.2]
    | false =>
      have hrest : ((d.isCall || ds.any Declarator.isCall) && !allowCall)
          = (ds.any Declarator.isCall && !allowCall) := by
        rw [Bool.and_or_distrib_right, hcall, Bool.false_or]
      rw [Declarator.part, hcall, hrest]
      cases hdeclared : d.declared? isChar with
      | none =>
        simp only [Bool.false_eq_true, if_false, collect, ih]
      | some declared =>
        simp only [Bool.false_eq_true, if_false, collect, ih]
        split <;> rfl

/--
A plain declaration declares its names in order. A name without sizes is a variable, and so is a text, which
is an array of characters; another array is declared if its extent is known. Where calls are not allowed,
a value in parentheses makes it no declaration at all.
-/
theorem declarations_plain (s : PlainDeclaration) (allowCall : Bool) :
    declarations s.code allowCall
      =
    if s.declarators.any Declarator.isCall && !allowCall then []
    else s.declarators.filterMap (·.declared? s.isChar) := by
  have hfront : ∀ m ∈ [], m ∈ specifierWords := by simp
  have hjoined := declarations_joined hfront s.type.isQualified s.apart s.others (.inr ⟨[], rfl⟩) allowCall
  rw [typeText, List.flatMap_nil, List.nil_append, collect_parts] at hjoined
  rw [PlainDeclaration.code, PlainDeclaration.declarators, hjoined]
  split <;> rfl

/--
A pointer, an array of two extents with its values in braces, a value in parentheses, and an array whose
extent is not known.
-/
theorem declarations_plain_mixed :
    let type : QualifiedName notTypes :=
      ⟨[⟨"std".toList, rfl, by decide, by decide⟩], ⟨"string".toList, rfl, by decide, by decide⟩⟩
    let zero : Value := ⟨" 0".toList, by decide, by decide⟩
    let four : Value := ⟨['4'], by decide, by decide⟩
    let both : Value := ⟨"f(1, 2), 3".toList, by decide, by decide⟩
    let pointer : Declarator :=
      ⟨⟨[' '], ['*'], [], isGap_space, by decide, isGap_nil⟩, ⟨['p'], rfl, by decide, by decide⟩, [], [],
        [' '], some (.assigned zero (by decide)), isGap_nil, isGap_space⟩
    let array : Declarator :=
      ⟨.space, ⟨['a'], rfl, by decide, by decide⟩, [], [⟨['N'], by decide⟩, ⟨" 2 ".toList, by decide⟩], [],
        some (.braced both), isGap_nil, isGap_nil⟩
    let called : Declarator :=
      ⟨.space, ⟨['b'], rfl, by decide, by decide⟩, [], [], [], some (.called four), isGap_nil, isGap_nil⟩
    let unknown : Declarator :=
      ⟨.space, ⟨['c'], rfl, by decide, by decide⟩, [], [⟨['n'], by decide⟩], [], none, isGap_nil, isGap_nil⟩
    let s : PlainDeclaration := ⟨type, pointer, [array, called, unknown], by decide⟩
    s.code = "std::string *p = 0, a[N][ 2 ]\x7bf(1, 2), 3\x7d, b(4), c[n];".toList
      ∧ declarations s.code true = [⟨"p", .variable⟩, ⟨"a", .array⟩, ⟨"b", .variable⟩]
      ∧ declarations s.code false = [] := by
  intro type zero four both pointer array called unknown s
  refine ⟨by decide +kernel, ?_, ?_⟩
  · rw [declarations_plain]
    decide +kernel
  · rw [declarations_plain]
    decide +kernel

end Playback.Cpp
