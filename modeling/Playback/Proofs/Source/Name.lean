import Mathlib.Data.List.TakeWhile
import Playback.Proofs.Pattern.Run
import Playback.Proofs.Text.Lines
import Playback.Source.Scan

/-!
This module contains the names and the sums that programs are made of, and the words in their text.
-/

namespace Playback.Source

/--
The characters of a name: letters and digits of ASCII, the underscore, and what else a language allows.
-/
def isNameChar (also : List Char) (c : Char) : Bool :=
  c == '_' || c.isAlphanum || also.contains c

structure Name (also : List Char) (reserved : List String) where
  chars : List Char
  starts : chars.head?.any (fun c => isNameChar also c && !c.isDigit) = true
  named : ∀ c ∈ chars, isNameChar also c = true
  free : isAmong reserved chars = false

def Name.name {also : List Char} {reserved : List String} (x : Name also reserved) : String :=
  String.ofList x.chars

/--
A text of names, whole numbers, spaces, plus signs and less-than signs. A run of the characters of names
in it is no reserved word.
-/
structure Operand (also : List Char) (reserved : List String) where
  chars : List Char
  allowed : ∀ c ∈ chars, isNameChar also c = true ∨ c = ' ' ∨ c = '+' ∨ c = '<'
  free : ∀ word ∈ Text.splitWhen (fun c => !isNameChar also c) chars, isAmong reserved word = false

def runs (cs : List Char) : List (List Char) :=
  Text.splitWhen (fun c => !Text.isWordChar c) cs

theorem runs_cons_of_not {c : Char} (hc : Text.isWordChar c = false) (cs : List Char) :
    runs (c :: cs) = [] :: runs cs := by
  unfold runs
  rw [Text.splitWhen_cons, if_pos (by simp [hc])]

theorem runs_append_cons {c : Char} (hc : Text.isWordChar c = false) (front rest : List Char) :
    runs (front ++ c :: rest) = runs front ++ runs rest := by
  unfold runs
  rw [Text.splitWhen_append_cons (by simp [hc])]

theorem runs_word {word : List Char} (h : ∀ c ∈ word, Text.isWordChar c = true) :
    runs word = [word] := by
  unfold runs
  rw [Text.splitWhen_eq_singleton]
  intro c hc
  simp [h c hc]

/-
A word between two places that are no part of a word is one of the runs.
-/
theorem mem_runs {front word rest : List Char} (hword : ∀ c ∈ word, Text.isWordChar c = true)
    (hbefore : (Pattern.lastOf none front).any Text.isWordChar = false)
    (hafter : rest.head?.any Text.isWordChar = false) : word ∈ runs (front ++ (word ++ rest)) := by
  have hrest : word ∈ runs (word ++ rest) := by
    cases rest with
    | nil => rw [List.append_nil, runs_word hword, List.mem_singleton]
    | cons c rest =>
      rw [runs_append_cons (by simpa using hafter), runs_word hword]
      apply List.mem_cons_self
  rcases List.eq_nil_or_concat front with rfl | ⟨front, c, rfl⟩
  · exact hrest
  · rw [List.concat_eq_append, Pattern.lastOf_append] at hbefore
    rw [List.concat_eq_append, List.append_assoc, List.singleton_append,
      runs_append_cons (by simpa [Pattern.lastOf] using hbefore), List.mem_append]
    exact .inr hrest

/-
A pattern that looks for words between two places that are no part of a word finds runs only.
-/
theorem exists_mem_runs_of_run {words : List String} {next : Pattern.Place → Option Pattern.Place}
    {front rest : List Char} (hwords : ∀ w ∈ words, w.toList ≠ [] ∧ ∀ c ∈ w.toList, Text.isWordChar c = true)
    (hnext : ∀ before rest captures, before.any Text.isWordChar = true →
      (next ⟨before, rest, captures⟩).isSome = true → rest.head?.any Text.isWordChar = false)
    (h : (Pattern.wordBoundary.run ((Pattern.oneOf words).run next)
      ⟨Pattern.lastOf none front, rest, []⟩).isSome = true) :
    ∃ w ∈ words, w.toList ∈ runs (front ++ rest) := by
  rw [Pattern.wordBoundary, Pattern.run] at h
  split at h
  · next hboundary =>
    rw [Pattern.run_oneOf, List.isSome_findSome?, List.any_eq_true] at h
    rcases h with ⟨w, hw, hrun⟩
    rcases Option.isSome_iff_exists.mp hrun with ⟨r, hr⟩
    rcases Pattern.exists_of_run_text hr with ⟨more, rfl⟩
    rw [Pattern.run_text_append] at hrun
    rcases hwords w hw with ⟨hne, hchars⟩
    rcases Pattern.lastOf_eq_some hne (Pattern.lastOf none front) with ⟨c, hc, hlast⟩
    have hafter := hnext _ _ _ (by simp [hlast, hchars c hc]) hrun
    have hhead : (w.toList ++ more).head?.any Text.isWordChar = true := by
      cases hw : w.toList with
      | nil => contradiction
      | cons d rest => exact hchars d (by simp [hw])
    rw [hhead, bne_iff_ne, ne_eq, Bool.not_eq_true] at hboundary
    exact ⟨w, hw, mem_runs hchars hboundary hafter⟩
  · contradiction

theorem occursIn_eq_false (words : List String) {p : Pattern}
    {next : Pattern.Place → Option Pattern.Place} {code : List Char}
    (hp : p.run some = Pattern.wordBoundary.run ((Pattern.oneOf words).run next))
    (hwords : ∀ w ∈ words, w.toList ≠ [] ∧ ∀ c ∈ w.toList, Text.isWordChar c = true)
    (hnext : ∀ before rest captures, before.any Text.isWordChar = true →
      (next ⟨before, rest, captures⟩).isSome = true → rest.head?.any Text.isWordChar = false)
    (h : ∀ w ∈ runs code, isAmong words w = false) : p.occursIn code = false := by
  rw [Bool.eq_false_iff]
  intro hoccurs
  rcases (Pattern.occursIn_iff p code).mp hoccurs with ⟨front, rest, rfl, hrun⟩
  rw [hp] at hrun
  rcases exists_mem_runs_of_run hwords hnext hrun with ⟨w, hw, hmem⟩
  have havoid := h _ hmem
  simp [isAmong, hw] at havoid

/-
The first word of a text is one of its runs, if there is one.
-/
theorem firstWord_mem_runs {cs : List Char} (h : firstWord cs ≠ []) : firstWord cs ∈ runs cs := by
  unfold firstWord at h ⊢
  split at h
  · contradiction
  · next c rest =>
    split at h
    · next hc =>
      rw [if_pos hc]
      have hmem := @mem_runs [] (c :: rest.takeWhile Text.isWordChar) (rest.dropWhile Text.isWordChar)
      rw [List.nil_append, List.cons_append, List.takeWhile_append_dropWhile] at hmem
      apply hmem
      · rw [List.forall_mem_cons]
        exact ⟨Text.isWordChar_of_isIdentStart hc, fun d => List.mem_takeWhile_imp⟩
      · rfl
      · have hhead := List.head?_dropWhile_not Text.isWordChar rest
        cases hdrop : (rest.dropWhile Text.isWordChar).head? with
        | none => rfl
        | some d =>
          rw [hdrop] at hhead
          simpa using hhead
    · contradiction

structure FreeWord (reserved : List String) (cs : List Char) : Prop where
  starts : cs.head?.any Text.isIdentStart = true
  isWordChar : ∀ c ∈ cs, Text.isWordChar c = true
  free : isAmong reserved cs = false

namespace FreeWord

variable {reserved more : List String} {word rest : List Char}

theorem ne_nil (h : FreeWord reserved word) : word ≠ [] := by
  rintro rfl
  simpa using h.starts

theorem ne_of_mem (h : FreeWord reserved word) {s : String} (hs : s ∈ reserved) : word ≠ s.toList := by
  rintro rfl
  have hfree := h.free
  simp [isAmong, hs] at hfree

theorem of_subset (h : FreeWord reserved word) (hmore : ∀ w ∈ more, w ∈ reserved) :
    FreeWord more word where
  starts := h.starts
  isWordChar := h.isWordChar
  free := by
    rw [isAmong, Bool.eq_false_iff, ne_eq, List.contains_iff_mem]
    intro hmem
    have hfree := h.free
    rw [isAmong, List.contains_iff_mem.mpr (hmore _ hmem)] at hfree
    contradiction

theorem exists_cons (h : FreeWord reserved word) :
    ∃ c back, word = c :: back ∧ Text.isIdentStart c = true ∧ ∀ d ∈ back, Text.isWordChar d = true := by
  cases word with
  | nil => exact absurd rfl h.ne_nil
  | cons c back =>
    have hback := h.isWordChar
    rw [List.forall_mem_cons] at hback
    exact ⟨c, back, rfl, h.starts, hback.2⟩

theorem firstWord_append (h : FreeWord reserved word) (hrest : rest.head?.any Text.isWordChar = false) :
    firstWord (word ++ rest) = word := by
  rcases h.exists_cons with ⟨c, back, rfl, hstart, hback⟩
  rw [List.cons_append, firstWord, if_pos hstart, List.takeWhile_append_of_pos hback]
  cases rest with
  | nil => simp
  | cons d rest =>
    rw [List.takeWhile_cons_of_neg (by simpa using hrest), List.append_nil]

end FreeWord

/--
Whether a text is made of words that are not reserved, of numbers and of the signs between them.
-/
structure FreeText (reserved : List String) (cs : List Char) : Prop where
  allowed : ∀ c ∈ cs, Text.isWordChar c = true ∨ c = ' ' ∨ c = '+' ∨ c = '<'
  free : ∀ word ∈ runs cs, isAmong reserved word = false

section Allowed

variable {also : List Char} {reserved : List String}

theorem isWordChar_of_isNameChar {c : Char} (h : isNameChar also c = true) (halso : c ∉ also) :
    Text.isWordChar c = true := by
  simp [isNameChar, halso] at h
  simp only [Text.isWordChar, Text.isAlphanumeric, Bool.or_eq_true, beq_iff_eq]
  tauto

theorem Name.freeWord {x : Name also reserved} (h : ∀ c ∈ x.chars, c ∉ also) :
    FreeWord reserved x.chars where
  starts := by
    have hstarts := x.starts
    cases hhead : x.chars.head? with
    | none =>
      rw [hhead] at hstarts
      contradiction
    | some c =>
      have hc := h c (List.mem_of_mem_head? hhead)
      rw [hhead] at hstarts
      simp [isNameChar, hc, Char.isAlphanum] at hstarts
      simp only [Option.any_some, Text.isIdentStart, Bool.or_eq_true, beq_iff_eq]
      rcases hstarts with ⟨hunderscore | halpha | hdigit, hnone⟩
      · exact .inl hunderscore
      · exact .inr halpha
      · rw [hdigit] at hnone
        contradiction
  isWordChar c hc := isWordChar_of_isNameChar (x.named c hc) (h c hc)
  free := x.free

theorem Operand.freeText {e : Operand also reserved} (h : ∀ c ∈ e.chars, c ∉ also) :
    FreeText reserved e.chars where
  allowed c hc := (e.allowed c hc).imp_left fun hname => isWordChar_of_isNameChar hname (h c hc)
  free := by
    have hruns : runs e.chars = Text.splitWhen (fun c => !isNameChar also c) e.chars := by
      apply Text.splitWhen_congr
      intro c hc
      rcases e.allowed c hc with hname | rfl | rfl | rfl
      · rw [hname, isWordChar_of_isNameChar hname (h c hc)]
      all_goals
        have halso := h _ hc
        simp [isNameChar, halso]
        rfl
    rw [hruns]
    exact e.free

end Allowed

def MadeOf (signs cs : List Char) : Prop :=
  ∀ c ∈ cs, Text.isWordChar c = true ∨ c ∈ signs

namespace MadeOf

variable {signs front rest : List Char}

theorem nil : MadeOf signs [] := by
  simp [MadeOf]

theorem append (hfront : MadeOf signs front) (hrest : MadeOf signs rest) :
    MadeOf signs (front ++ rest) := by
  unfold MadeOf
  rw [List.forall_mem_append]
  exact ⟨hfront, hrest⟩

theorem cons {c : Char} (hc : c ∈ signs) (hrest : MadeOf signs rest) : MadeOf signs (c :: rest) := by
  unfold MadeOf
  rw [List.forall_mem_cons]
  exact ⟨.inr hc, hrest⟩

theorem of_subset (h : MadeOf signs rest) {more : List Char} (hsigns : signs ⊆ more) :
    MadeOf more rest :=
  fun c hc => (h c hc).imp_right fun hsign => hsigns hsign

theorem not_mem (h : MadeOf signs rest) {c : Char} (hword : Text.isWordChar c = false)
    (hc : c ∉ signs) : c ∉ rest := by
  intro hmem
  rcases h c hmem with hchar | hsign
  · rw [hchar] at hword
    contradiction
  · exact hc hsign

theorem of_word (h : ∀ c ∈ rest, Text.isWordChar c = true) : MadeOf signs rest :=
  fun c hc => .inl (h c hc)

theorem word_cons (word : List Char) (hword : ∀ c ∈ word, Text.isWordChar c = true) {c : Char}
    (hc : c ∈ signs) (hrest : MadeOf signs rest) : MadeOf signs (word ++ c :: rest) :=
  (of_word hword).append (cons hc hrest)

end MadeOf

theorem bracketStep_of_isWordChar {c : Char} (h : Text.isWordChar c = true) : bracketStep c = 0 := by
  unfold bracketStep
  rw [if_neg, if_neg]
  all_goals
    simp only [Bool.or_eq_true, beq_iff_eq]
    rintro ((rfl | rfl) | rfl) <;> contradiction

theorem MadeOf.plain {signs cs : List Char} (h : MadeOf signs cs) {sep : Char}
    (hsep : Text.isWordChar sep = false) (hsigns : ∀ c ∈ signs, c ≠ sep ∧ bracketStep c = 0) :
    ∀ c ∈ cs, c ≠ sep ∧ bracketStep c = 0 := by
  intro c hc
  rcases h c hc with hword | hsign
  · refine ⟨?_, bracketStep_of_isWordChar hword⟩
    rintro rfl
    rw [hword] at hsep
    contradiction
  · exact hsigns c hsign

theorem FreeText.madeOf {reserved : List String} {cs : List Char} (h : FreeText reserved cs) :
    MadeOf [' ', '+', '<'] cs :=
  fun c hc => (h.allowed c hc).imp_right fun hsign => by simpa using hsign

end Playback.Source
