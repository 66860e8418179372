import Playback.Proofs.Cpp.Lead
import Playback.Proofs.Pattern.Repetition
import Playback.Proofs.Source.Nesting

/-!
This module contains the sizes of arrays: what the patterns make of the brackets behind a name, and when
the extent of an array is known.
-/

namespace Playback.Cpp

open Pattern Source

section Constants

def isMacroStart (c : Char) : Bool :=
  c == '_' || c.isUpper

def isMacroChar (c : Char) : Bool :=
  isMacroStart c || c.isDigit

def isConstant (cs : List Char) : Bool :=
  cs.all Text.isDecimal || (cs.head?.any isMacroStart && cs.all isMacroChar)

/--
Whether a size is known when the program is compiled: it is blank, a number, or the name of a macro.
-/
def isFixedSize (cs : List Char) : Bool :=
  let core := Text.trim cs
  core.isEmpty || isConstant core

theorem isBlank_of_isMacroChar {c : Char} (h : isMacroChar c = true) : Text.isBlank c = false := by
  apply Text.isBlank_of_isWordChar
  simp only [isMacroChar, isMacroStart, Bool.or_eq_true, beq_iff_eq] at h
  rcases h with (rfl | hupper) | hdigit
  · rfl
  · have halpha : c.isAlpha = true := Bool.or_eq_true_iff.mpr (.inl hupper)
    simp [Text.isWordChar, Text.isAlphanumeric, Char.isAlphanum, halpha]
  · simp [Text.isWordChar, Text.isAlphanumeric, Char.isAlphanum, hdigit]

theorem isBlank_of_isConstant {cs : List Char} (h : isConstant cs = true) :
    ∀ c ∈ cs, Text.isBlank c = false := by
  rw [isConstant, Bool.or_eq_true, Bool.and_eq_true, List.all_eq_true, List.all_eq_true] at h
  rcases h with hdigits | hupper
  · exact fun c hc => Text.isBlank_of_isDecimal (hdigits c hc)
  · exact fun c hc => isBlank_of_isMacroChar (hupper.2 c hc)

def constant : Pattern :=
  plus digit <|> (.char isMacroStart ++ .star (.char isMacroChar))

theorem fixedSize_eq : fixedSize = blanks ++ opt constant ++ blanks ++ textEnd :=
  rfl

theorem exists_constant {a b : Place} (h : Reaches constant a b) :
    ∃ core, a.rest = core ++ b.rest ∧ isConstant core = true := by
  cases h with
  | left h =>
    have hdigits : (plus digit).TakesOnly (Text.isDecimal · = true) := by simp [digit, TakesOnly]
    rcases h.taken hdigits with ⟨core, heq, hcore⟩
    refine ⟨core, heq, ?_⟩
    rw [isConstant, Bool.or_eq_true, List.all_eq_true]
    exact .inl hcore
  | right h =>
    cases h with
    | seq hfirst hrest =>
      cases hfirst with
      | @char _ c rest _ ha hc =>
        have hchars : (star (char isMacroChar)).TakesOnly (isMacroChar · = true) := fun c hc => hc
        rcases hrest.taken hchars with ⟨core, heq, hcore⟩
        refine ⟨c :: core, by rw [ha]; exact congrArg _ heq, ?_⟩
        rw [isConstant, Bool.or_eq_true, Bool.and_eq_true, List.all_eq_true, List.all_eq_true,
          List.forall_mem_cons, List.forall_mem_cons]
        exact .inr ⟨hc, by rw [isMacroChar, hc]; rfl, hcore⟩

theorem exists_opt_constant {a b : Place} (h : Reaches (opt constant) a b) :
    ∃ core, a.rest = core ++ b.rest ∧ (core = [] ∨ isConstant core = true) := by
  cases h with
  | left h =>
    rcases exists_constant h with ⟨core, heq, hcore⟩
    exact ⟨core, heq, .inr hcore⟩
  | right h =>
    cases h with
    | empty => exact ⟨[], rfl, .inl rfl⟩

theorem isFixedSize_append {front core back : List Char} (hfront : ∀ c ∈ front, Text.isBlank c = true)
    (hcore : core = [] ∨ isConstant core = true) (hback : ∀ c ∈ back, Text.isBlank c = true) :
    isFixedSize (front ++ (core ++ back)) = true := by
  have hsolid : ∀ c ∈ core, Text.isBlank c = false := by
    rcases hcore with rfl | hconstant
    · simp
    · exact isBlank_of_isConstant hconstant
  rw [isFixedSize, Text.trim_append hfront hsolid hback, Bool.or_eq_true, List.isEmpty_iff]
  exact hcore

theorem isFixedSize_of_reaches {cs : List Char} {place : Place} (hline : '\n' ∉ cs)
    (h : Reaches fixedSize ⟨none, cs, []⟩ place) : isFixedSize cs = true := by
  have hblanks : blanks.TakesOnly (Text.isBlank · = true) := fun c hc => hc
  rw [fixedSize_eq] at h
  cases h with
  | @seq _ _ _ last _ h hend =>
    cases h with
    | @seq _ _ _ middle _ h hback =>
      cases h with
      | seq hfront hcore =>
        rcases hfront.taken hblanks with ⟨front, hcs, hfront⟩
        rcases exists_opt_constant hcore with ⟨core, hmiddle, hcore⟩
        rcases hback.taken hblanks with ⟨back, hlast, hblank⟩
        rw [hmiddle, hlast] at hcs
        dsimp only at hcs
        cases hend with
        | look hholds =>
          rw [Bool.or_eq_true, beq_iff_eq, beq_iff_eq] at hholds
          rcases hholds with hnil | hnewline
          · rw [hnil, List.append_nil] at hcs
            rw [hcs]
            exact isFixedSize_append hfront hcore hblank
          · rw [hcs, hnewline] at hline
            simp at hline

theorem isSome_run_constant {next : Place → Option Place} {core back : List Char} {before : Option Char}
    (hne : core ≠ []) (hcore : isConstant core = true) (hback : ∀ c ∈ back, Text.isBlank c = true)
    (hnext : ∀ before, (next ⟨before, back, []⟩).isSome = true) :
    (constant.run next ⟨before, core ++ back, []⟩).isSome = true := by
  cases core with
  | nil => contradiction
  | cons c core =>
    rcases Option.isSome_iff_exists.mp (hnext (lastOf (some c) core)) with ⟨r, hr⟩
    rw [isConstant, Bool.or_eq_true, Bool.and_eq_true, List.all_eq_true, List.all_eq_true,
      List.forall_mem_cons, List.forall_mem_cons] at hcore
    rw [constant, run_orElse, Option.isSome_or, Bool.or_eq_true]
    rcases hcore with ⟨hc, hdigits⟩ | ⟨hc, _, hupper⟩
    · left
      rw [run_plus, digit, List.cons_append, run_char_cons, if_pos hc,
        run_star_char_some hdigits (head_of_blank hback fun d => Text.isBlank_of_isDecimal) hr]
      rfl
    · right
      have hc : isMacroStart c = true := hc
      rw [run_append, List.cons_append, run_char_cons, if_pos hc,
        run_star_char_some hupper (head_of_blank hback fun d => isBlank_of_isMacroChar) hr]
      rfl

theorem startsText_fixedSize_append {front core back : List Char}
    (hfront : ∀ c ∈ front, Text.isBlank c = true) (hcore : core = [] ∨ isConstant core = true)
    (hback : ∀ c ∈ back, Text.isBlank c = true) : fixedSize.startsText (front ++ (core ++ back)) = true := by
  have hend : ∀ before, blanks.run (textEnd.run some) ⟨before, back, []⟩
      = some ⟨lastOf before back, [], []⟩ := by
    intro before
    rw [← List.append_nil back]
    apply run_star_char_some hback rfl
    simp [textEnd, run]
  change (blanks.run ((opt constant).run (blanks.run (textEnd.run some)))
    ⟨none, front ++ (core ++ back), []⟩).isSome = true
  rw [Option.isSome_iff_exists]
  cases core with
  | nil =>
    have hall : ∀ c ∈ front ++ back, Text.isBlank c = true := by
      rw [List.forall_mem_append]
      exact ⟨hfront, hback⟩
    rw [List.nil_append, ← List.append_nil (front ++ back)]
    exact ⟨_, run_star_char_some hall rfl rfl⟩
  | cons c core =>
    have hconstant : isConstant (c :: core) = true := hcore.resolve_left (by simp)
    have hhead : (c :: core ++ back).head?.any Text.isBlank = false :=
      isBlank_of_isConstant hconstant c List.mem_cons_self
    have hnext : ∀ before, (blanks.run (textEnd.run some) ⟨before, back, []⟩).isSome = true := by
      intro before
      rw [hend]
      rfl
    have hrun : (constant.run (blanks.run (textEnd.run some))
        ⟨lastOf none front, c :: core ++ back, []⟩).isSome = true :=
      isSome_run_constant (by simp) hconstant hback hnext
    rcases Option.isSome_iff_exists.mp hrun with ⟨r, hr⟩
    refine ⟨r, run_star_char_some hfront hhead ?_⟩
    rw [run_opt, hr, Option.some_or]

/-
A size is found to be known exactly if it is.
-/
theorem startsText_fixedSize {cs : List Char} (hline : '\n' ∉ cs) :
    fixedSize.startsText cs = isFixedSize cs := by
  rw [Bool.eq_iff_iff]
  constructor
  · intro h
    rcases Option.isSome_iff_exists.mp h with ⟨place, hplace⟩
    exact isFixedSize_of_reaches hline (reaches_of_matchAt? hplace)
  · intro h
    rw [isFixedSize, Bool.or_eq_true, List.isEmpty_iff] at h
    rcases Text.exists_trim_append cs with ⟨front, back, hfront, hback, heq⟩
    rw [heq]
    exact startsText_fixedSize_append hfront h hback

end Constants

section Sizes

structure Size where
  chars : List Char
  plain : ∀ c ∈ chars, bracketStep c = 0 ∧ c ≠ '\n'

def Size.code (size : Size) : List Char :=
  '[' :: (size.chars ++ [']'])

def dimensions (sizes : List Size) : List Char :=
  sizes.flatMap Size.code

def Size.isFixed (size : Size) : Bool :=
  isFixedSize size.chars

theorem Size.not_mem_of_bracketStep {c : Char} (size : Size) (hc : bracketStep c ≠ 0) : c ∉ size.chars :=
  fun hmem => hc (size.plain c hmem).1

theorem sizes_dimensions (sizes : List Size) : Cpp.sizes (dimensions sizes) = sizes.map Size.chars := by
  induction sizes with
  | nil => rfl
  | cons size sizes ih =>
    have hsplit : Text.splitOn ']' (dimensions (size :: sizes))
        = ('[' :: size.chars) :: Text.splitOn ']' (dimensions sizes) := by
      have hsize : Text.splitOn ']' ('[' :: size.chars) = ['[' :: size.chars] := by
        apply Text.splitWhen_eq_singleton
        intro c hc
        rw [beq_eq_false_iff_ne]
        rintro rfl
        rw [List.mem_cons] at hc
        exact hc.elim (by decide) (size.not_mem_of_bracketStep (by decide))
      have hcode : dimensions (size :: sizes) = ('[' :: size.chars) ++ ']' :: dimensions sizes := by
        simp [dimensions, Size.code]
      rw [hcode, Text.splitOn, Text.splitWhen_append_cons (by simp), ← Text.splitOn, hsize]
      rfl
    have hne : Text.splitOn ']' (dimensions sizes) ≠ [] := Text.splitWhen_ne_nil _ _
    unfold Cpp.sizes at ih ⊢
    rw [hsplit, List.dropLast_cons_of_ne_nil hne, List.map_cons, ih]
    rfl

theorem Size.startsText_fixedSize (size : Size) : fixedSize.startsText size.chars = size.isFixed :=
  Cpp.startsText_fixedSize fun hmem => (size.plain _ hmem).2 rfl

variable {next : Place → Option Place} {before : Option Char} {captures : List (String × List Char)}
  {rest : List Char}

theorem consumes_dimension : dimension.Consumes :=
  ((consumes_text (by simp)).append_left _).append_left _

theorem run_dimension {r : Place} (size : Size)
    (h : next ⟨lastOf before size.code, rest, captures⟩ = some r) :
    dimension.run next ⟨before, size.code ++ rest, captures⟩ = some r := by
  have hexcept : except "]" = char fun c => !"]".toList.contains c := rfl
  have hcode : size.code ++ rest = "[".toList ++ (size.chars ++ ("]".toList ++ rest)) := by
    simp [Size.code]
  have hlast : lastOf before size.code
      = lastOf (lastOf (lastOf before "[".toList) size.chars) "]".toList := by
    simp [Size.code, lastOf, lastOf_append]
  rw [hlast] at h
  rw [dimension, run_append, run_append, hcode, run_text_append, hexcept]
  apply run_star_char_some
  · intro c hc
    have hne : c ≠ ']' := by
      rintro rfl
      exact size.not_mem_of_bracketStep (by decide) hc
    simp [hne]
  · simp
  · rw [run_text_append]
    exact h

theorem run_dimension_of_head (h : rest.head?.any (· == '[') = false) :
    dimension.run next ⟨before, rest, captures⟩ = none := by
  rw [dimension, run_append, run_append]
  exact run_text_of_head '[' (by simp) h

theorem run_dimensions {r : Place} (sizes : List Size) (hrest : rest.head?.any (· == '[') = false)
    (h : next ⟨lastOf before (dimensions sizes), rest, captures⟩ = some r) :
    (star dimension).run next ⟨before, dimensions sizes ++ rest, captures⟩ = some r := by
  induction sizes generalizing before with
  | nil =>
    rw [dimensions, List.flatMap_nil, List.nil_append, run_star_of_none fun k => run_dimension_of_head hrest]
    exact h
  | cons size sizes ih =>
    have hcode : dimensions (size :: sizes) = size.code ++ dimensions sizes := rfl
    rw [hcode, lastOf_append] at h
    rw [hcode, List.append_assoc, run_star_eq consumes_dimension, run_dimension size (ih h), Option.some_or]

theorem run_capture_dimensions {name : String} {r : Place} (sizes : List Size)
    (hrest : rest.head?.any (· == '[') = false)
    (h : next ⟨lastOf before (dimensions sizes), rest, (name, dimensions sizes) :: captures⟩ = some r) :
    (capture name (star dimension)).run next ⟨before, dimensions sizes ++ rest, captures⟩ = some r := by
  rw [run]
  apply run_dimensions sizes hrest
  dsimp only
  rw [List.length_append, Nat.add_sub_cancel, List.take_left]
  exact h

theorem getLast_dimensions {sizes : List Size} (h : sizes ≠ []) : (dimensions sizes).getLast? = some ']' := by
  rcases List.eq_nil_or_concat sizes with rfl | ⟨sizes, size, rfl⟩
  · contradiction
  · have hcode : dimensions (sizes.concat size) = dimensions sizes ++ ('[' :: size.chars) ++ [']'] := by
      simp [dimensions, Size.code]
    rw [hcode, List.getLast?_concat]

theorem newline_not_mem_dimensions (sizes : List Size) : '\n' ∉ dimensions sizes := by
  rw [dimensions, List.mem_flatMap]
  rintro ⟨size, _, hmem⟩
  have hsize : '\n' ∉ size.chars := fun hmem => (size.plain _ hmem).2 rfl
  simp [Size.code, hsize] at hmem

theorem sealed_dimensions (sizes : List Size) {sep : Char} (hsep : bracketStep sep = 0) :
    Sealed sep (dimensions sizes) := by
  induction sizes with
  | nil => exact .of_plain (by simp [dimensions])
  | cons size sizes ih =>
    have hplain : Balanced size.chars := .of_plain fun c hc => (size.plain c hc).1
    exact (hplain.bracketed rfl rfl hsep).append ih

end Sizes

end Playback.Cpp
