import Playback.Cpp.Declaration
import Playback.Proofs.Pattern.Words

/-!
This module contains what stands between a type and a name, the pointer and reference signs with white
space around them, and what ends a declared name.
-/

namespace Playback.Cpp

open Pattern

section Gaps

def IsGap (cs : List Char) : Prop :=
  ∀ c ∈ cs, Text.isBlank c = true ∧ c ≠ '\n'

def isSign (c : Char) : Bool :=
  "*&".toList.contains c

/--
What stands between a type and a name: pointer and reference signs, with white space on both sides.
-/
structure Lead where
  front : List Char
  signs : List Char
  back : List Char
  hfront : IsGap front
  hsigns : ∀ c ∈ signs, isSign c = true
  hback : IsGap back

def Lead.chars (lead : Lead) : List Char :=
  lead.front ++ (lead.signs ++ lead.back)

def Lead.space : Lead where
  front := [' ']
  signs := []
  back := []
  hfront := by simp [IsGap, Text.isBlank]
  hsigns := by simp
  hback := by simp [IsGap]

variable {gap rest : List Char} {lead : Lead}

theorem isGap_nil : IsGap [] := by
  simp [IsGap]

theorem isGap_space : IsGap [' '] :=
  Lead.space.hfront

theorem IsGap.append (hgap : IsGap gap) (hrest : IsGap rest) : IsGap (gap ++ rest) := by
  unfold IsGap
  rw [List.forall_mem_append]
  exact ⟨hgap, hrest⟩

theorem IsGap.isBlank (h : IsGap gap) : ∀ c ∈ gap, Text.isBlank c = true :=
  fun c hc => (h c hc).1

theorem IsGap.newline_not_mem (h : IsGap gap) : '\n' ∉ gap :=
  fun hmem => (h _ hmem).2 rfl

/-
A text behind white space starts with a blank or as it does without it.
-/
theorem head_append_of_blank (h : ∀ c ∈ gap, Text.isBlank c = true) {p : Char → Bool}
    (hp : ∀ c, Text.isBlank c = true → p c = false) (hrest : rest.head?.any p = false) :
    (gap ++ rest).head?.any p = false := by
  cases gap with
  | nil => exact hrest
  | cons c gap => exact hp c (h c List.mem_cons_self)

theorem head_of_blank {back : List Char} (hback : ∀ c ∈ back, Text.isBlank c = true) {p : Char → Bool}
    (hp : ∀ c, p c = true → Text.isBlank c = false) : back.head?.any p = false := by
  cases back with
  | nil => rfl
  | cons c back =>
    rw [List.head?_cons, Option.any_some, Bool.eq_false_iff]
    intro hc
    have hblank := hp c hc
    rw [hback c List.mem_cons_self] at hblank
    contradiction

theorem isSign_iff {c : Char} : isSign c = true ↔ c = '*' ∨ c = '&' := by
  simp [isSign]

theorem isSign_eq : isSign = fun c => c == '*' || c == '&' := by
  funext c
  rw [Bool.eq_iff_iff, isSign_iff, Bool.or_eq_true, beq_iff_eq, beq_iff_eq]

theorem isSign_of_isBlank {c : Char} (hc : Text.isBlank c = true) : isSign c = false := by
  rw [Bool.eq_false_iff, ne_eq, isSign_iff]
  rintro (rfl | rfl) <;> contradiction

theorem isSign_of_isWordChar {c : Char} (hc : Text.isWordChar c = true) : isSign c = false := by
  rw [Bool.eq_false_iff, ne_eq, isSign_iff]
  rintro (rfl | rfl) <;> contradiction

theorem isBlank_of_isSign {c : Char} (hc : isSign c = true) : Text.isBlank c = false := by
  rcases isSign_iff.mp hc with rfl | rfl <;> rfl

theorem isIdentStart_of_isSign {c : Char} (hc : isSign c = true) : Text.isIdentStart c = false := by
  rcases isSign_iff.mp hc with rfl | rfl <;> rfl

theorem bracketStep_of_isSign {c : Char} (hc : isSign c = true) : Source.bracketStep c = 0 := by
  rcases isSign_iff.mp hc with rfl | rfl <;> rfl

theorem isIdentStart_of_isBlank {c : Char} (hc : Text.isBlank c = true) : Text.isIdentStart c = false := by
  rw [Bool.eq_false_iff]
  intro hstart
  have hword := Text.isWordChar_of_isBlank hc
  rw [Text.isWordChar_of_isIdentStart hstart] at hword
  contradiction

theorem Lead.exists_tail (h : lead.chars ≠ []) :
    ∃ c, ∃ tail : Lead, lead.chars = c :: tail.chars ∧ (Text.isBlank c = true ∨ isSign c = true) := by
  rcases lead with ⟨front, signs, back, hfront, hsigns, hback⟩
  cases front with
  | cons c front =>
    have htail : IsGap front := fun d hd => hfront d (List.mem_cons_of_mem c hd)
    exact ⟨c, ⟨front, signs, back, htail, hsigns, hback⟩, rfl, .inl (hfront c List.mem_cons_self).1⟩
  | nil =>
    cases signs with
    | cons c signs =>
      have htail : ∀ d ∈ signs, isSign d = true := fun d hd => hsigns d (List.mem_cons_of_mem c hd)
      exact ⟨c, ⟨[], signs, back, isGap_nil, htail, hback⟩, rfl, .inr (hsigns c List.mem_cons_self)⟩
    | nil =>
      cases back with
      | cons c back =>
        have htail : IsGap back := fun d hd => hback d (List.mem_cons_of_mem c hd)
        exact ⟨c, ⟨[], [], back, isGap_nil, hsigns, htail⟩, rfl, .inl (hback c List.mem_cons_self).1⟩
      | nil => contradiction

theorem Lead.newline_not_mem (lead : Lead) : '\n' ∉ lead.chars := by
  have hsigns : '\n' ∉ lead.signs := by
    intro hmem
    have hsign := lead.hsigns _ hmem
    contradiction
  simp [Lead.chars, lead.hfront.newline_not_mem, hsigns, lead.hback.newline_not_mem]

theorem Lead.head (h : lead.chars ≠ []) (rest : List Char) {p : Char → Bool}
    (hblank : ∀ c, Text.isBlank c = true → p c = false) (hsign : ∀ c, isSign c = true → p c = false) :
    (lead.chars ++ rest).head?.any p = false := by
  rcases Lead.exists_tail h with ⟨c, tail, hchars, hc⟩
  rw [hchars]
  exact hc.elim (hblank c) (hsign c)

/-
White space stands in front of the first sign, or in front of the name.
-/
theorem Lead.exists_gap (lead : Lead) (rest : List Char) :
    ∃ gap more, lead.chars ++ rest = gap ++ more ∧ IsGap gap
      ∧ ((gap = lead.chars ∧ more = rest) ∨ ∃ c back, more = c :: back ∧ isSign c = true) := by
  cases hcs : lead.signs with
  | nil =>
    refine ⟨lead.chars, rest, rfl, ?_, .inl ⟨rfl, rfl⟩⟩
    rw [Lead.chars, hcs, List.nil_append]
    exact lead.hfront.append lead.hback
  | cons c signs =>
    have hsigns := lead.hsigns
    rw [hcs] at hsigns
    refine ⟨lead.front, c :: (signs ++ (lead.back ++ rest)), by simp [Lead.chars, hcs], lead.hfront, .inr ?_⟩
    exact ⟨c, _, rfl, hsigns c List.mem_cons_self⟩

/-
A match passes over what stands between a type and a name.
-/
theorem run_lead {next : Place → Option Place} {before : Option Char}
    {captures : List (String × List Char)} {r : Place} (lead : Lead)
    (hblank : rest.head?.any Text.isBlank = false) (hsign : rest.head?.any isSign = false)
    (h : next ⟨lastOf before lead.chars, rest, captures⟩ = some r) :
    blanks.run ((star (among "*&")).run (blanks.run next)) ⟨before, lead.chars ++ rest, captures⟩
      =
    some r := by
  have hamong : among "*&" = char isSign := rfl
  have hback : (lead.back ++ rest).head?.any isSign = false :=
    head_append_of_blank lead.hback.isBlank (fun c => isSign_of_isBlank) hsign
  rw [hamong, blanks, blank]
  cases hcs : lead.signs with
  | nil =>
    rw [Lead.chars, hcs, List.nil_append] at h ⊢
    apply run_star_char_some (lead.hfront.append lead.hback).isBlank hblank
    rw [run_star_char_skip hsign, run_star_char_skip hblank]
    exact h
  | cons c signs =>
    have hhead : (lead.signs ++ (lead.back ++ rest)).head?.any Text.isBlank = false := by
      rw [hcs]
      exact isBlank_of_isSign (lead.hsigns c (by rw [hcs]; apply List.mem_cons_self))
    rw [Lead.chars, lastOf_append, lastOf_append] at h
    rw [Lead.chars, List.append_assoc, List.append_assoc]
    apply run_star_char_some lead.hfront.isBlank hhead
    apply run_star_char_some lead.hsigns hback
    exact run_star_char_some lead.hback.isBlank hblank h

end Gaps

section Ends

/--
Whether a text ends what has been declared so far: there is nothing left, or a value, a size or the next
name follows.
-/
def EndsName (cs : List Char) : Prop :=
  ∀ c, cs.head? = some c → c ∈ ['=', '(', '[', '{', ',']

theorem EndsName.head {rest : List Char} (h : EndsName rest) {p : Char → Bool}
    (hp : ∀ c ∈ ['=', '(', '[', '{', ','], p c = false) : rest.head?.any p = false := by
  unfold EndsName at h
  cases hc : rest.head? with
  | none => rfl
  | some c => exact hp c (h c hc)

end Ends

end Playback.Cpp
