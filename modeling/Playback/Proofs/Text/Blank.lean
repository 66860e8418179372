import Mathlib.Data.List.DropRight
import Mathlib.Data.List.TakeWhile
import Playback.Proofs.Text.Lines
import Playback.Text.Blank
import Playback.Text.Digit
import Playback.Text.Word

/-!
This module contains the laws of white space: it is no part of a word, and trimming takes nothing else
away.
-/

namespace Playback.Text

theorem toNat_of_isAlphanum {c : Char} (h : c.isAlphanum = true) :
    (48 ≤ c.toNat ∧ c.toNat ≤ 57) ∨ (65 ≤ c.toNat ∧ c.toNat ≤ 90)
      ∨ (97 ≤ c.toNat ∧ c.toNat ≤ 122) := by
  have hval : c.toNat = c.val.toNat := rfl
  delta Char.isAlphanum Char.isAlpha Char.isUpper Char.isLower Char.isDigit at h
  simp [UInt32.le_iff_toNat_le] at h
  omega

def foreignBlanks : List Nat :=
  [0x85, 0xA0, 0x1680, 0x2000, 0x2001, 0x2002, 0x2003, 0x2004, 0x2005, 0x2006, 0x2007, 0x2008, 0x2009,
    0x200A, 0x2028, 0x2029, 0x202F, 0x205F, 0x3000]

theorem inRanges_of_mem_foreignBlanks : ∀ n ∈ foreignBlanks, inRanges n alphanumericRanges = false := by
  decide +kernel

theorem isWordChar_of_isBlank {c : Char} (h : isBlank c = true) : isWordChar c = false := by
  rw [Bool.eq_false_iff]
  intro hword
  unfold isWordChar isAlphanumeric at hword
  unfold isBlank at h
  simp only [Bool.or_eq_true, Bool.and_eq_true, decide_eq_true_eq, beq_iff_eq] at h hword
  rcases hword with rfl | halpha | ⟨hlarge, hranges⟩
  · revert h
    decide
  · have hcode := toNat_of_isAlphanum halpha
    omega
  · have hmem : c.toNat ∈ foreignBlanks := by
      simp only [foreignBlanks, List.mem_cons, List.not_mem_nil, or_false]
      omega
    rw [inRanges_of_mem_foreignBlanks _ hmem] at hranges
    contradiction

theorem isBlank_of_isWordChar {c : Char} (h : isWordChar c = true) : isBlank c = false := by
  rw [Bool.eq_false_iff]
  intro hblank
  rw [isWordChar_of_isBlank hblank] at h
  contradiction

theorem isBlank_head_word {word rest : List Char} (hne : word ≠ [])
    (hword : ∀ c ∈ word, isWordChar c = true) : (word ++ rest).head?.any isBlank = false := by
  cases word with
  | nil => contradiction
  | cons c word => exact isBlank_of_isWordChar (hword c List.mem_cons_self)

theorem dropEndWhile_eq_rdropWhile (p : Char → Bool) (cs : List Char) :
    dropEndWhile p cs = cs.rdropWhile p :=
  rfl

theorem dropEndWhile_append {p : Char → Bool} {back : List Char} (h : ∀ c ∈ back, p c = true)
    (front : List Char) : dropEndWhile p (front ++ back) = dropEndWhile p front := by
  simp only [dropEndWhile_eq_rdropWhile]
  induction back using List.reverseRecOn with
  | nil => rw [List.append_nil]
  | append_singleton back c ih =>
    rw [List.forall_mem_append, List.forall_mem_singleton] at h
    rw [← List.append_assoc, List.rdropWhile_concat_pos p _ _ h.2, ih h.1]

theorem trimEnd_eq_rdropWhile (cs : List Char) : trimEnd cs = cs.rdropWhile isBlank :=
  dropEndWhile_eq_rdropWhile isBlank cs

theorem trim_eq_nil {cs : List Char} (h : ∀ c ∈ cs, isBlank c = true) : trim cs = [] := by
  unfold trim
  rw [List.dropWhile_eq_nil_iff.mpr h]
  rfl

theorem trim_of_head {cs : List Char} (h : cs.head?.any isBlank = false) : trim cs = trimEnd cs := by
  rw [trim]
  cases cs with
  | nil => rfl
  | cons c cs => rw [List.dropWhile_cons_of_neg (by simpa using h)]

theorem trim_blank_append {lead : List Char} (hlead : ∀ c ∈ lead, isBlank c = true) (cs : List Char) :
    trim (lead ++ cs) = trim cs := by
  rw [trim, List.dropWhile_append_of_pos hlead, trim]

theorem isBlank_or_mem_trim {c : Char} {cs : List Char} (h : c ∈ cs) :
    isBlank c = true ∨ c ∈ trim cs := by
  by_cases hblank : isBlank c = true
  · exact .inl hblank
  · right
    have hfront : c ∈ cs.dropWhile isBlank := by
      rw [← List.takeWhile_append_dropWhile (p := isBlank) (l := cs), List.mem_append] at h
      exact h.resolve_left fun htake => hblank (List.mem_takeWhile_imp htake)
    rw [← List.rdropWhile_append_rtakeWhile (p := isBlank) (l := cs.dropWhile isBlank),
      List.mem_append] at hfront
    exact hfront.resolve_right fun htake => hblank (List.mem_rtakeWhile_imp htake)

theorem mem_of_mem_trimEnd {c : Char} {cs : List Char} (h : c ∈ trimEnd cs) : c ∈ cs :=
  (List.rdropWhile_prefix isBlank cs).subset h

theorem mem_of_mem_trim {c : Char} {cs : List Char} (h : c ∈ trim cs) : c ∈ cs :=
  (List.dropWhile_sublist isBlank).subset (mem_of_mem_trimEnd h)

theorem trimEnd_append_cons {c : Char} (hc : isBlank c = false) (front rest : List Char) :
    trimEnd (front ++ c :: rest) = front ++ c :: trimEnd rest := by
  simp only [trimEnd_eq_rdropWhile]
  induction rest using List.reverseRecOn with
  | nil => rw [List.rdropWhile_concat_neg _ _ _ (by simp [hc]), List.rdropWhile_nil]
  | append_singleton more d ih =>
    rw [← List.cons_append, ← List.append_assoc, List.rdropWhile_concat, List.rdropWhile_concat, ih]
    split
    · rfl
    · simp

theorem trim_cons {c : Char} (hc : isBlank c = false) (rest : List Char) :
    trim (c :: rest) = c :: trimEnd rest := by
  rw [trim, List.dropWhile_cons_of_neg (by simp [hc])]
  exact trimEnd_append_cons hc [] rest

theorem trim_append_cons {word : List Char} (hne : word ≠ [])
    (hword : word.head?.any isBlank = false) {c : Char} (hc : isBlank c = false) (rest : List Char) :
    trim (word ++ c :: rest) = word ++ c :: trimEnd rest := by
  cases word with
  | nil => contradiction
  | cons d word =>
    rw [trim, List.cons_append, List.dropWhile_cons_of_neg (by simpa using hword), ← List.cons_append,
      trimEnd_append_cons hc]

theorem trim_eq_self {cs : List Char} (hhead : cs.head?.any isBlank = false)
    (hlast : cs.getLast?.any isBlank = false) : trim cs = cs := by
  rcases List.eq_nil_or_concat cs with rfl | ⟨front, c, rfl⟩
  · rfl
  · rw [List.concat_eq_append] at hhead hlast ⊢
    rw [List.getLast?_concat] at hlast
    cases front with
    | nil => exact trim_cons hlast []
    | cons d front => exact trim_append_cons (List.cons_ne_nil d front) hhead hlast []

theorem trimEnd_append {rest : List Char} (h : ∃ c ∈ rest, isBlank c = false) (front : List Char) :
    trimEnd (front ++ rest) = front ++ trimEnd rest := by
  rcases h with ⟨c, hmem, hc⟩
  rcases List.append_of_mem hmem with ⟨more, back, rfl⟩
  rw [← List.append_assoc, trimEnd_append_cons hc, trimEnd_append_cons hc, List.append_assoc]

theorem trimEnd_eq_nil {cs : List Char} (h : ∀ c ∈ cs, isBlank c = true) : trimEnd cs = [] :=
  List.rdropWhile_eq_nil_iff.mpr h

theorem trimEnd_append_of_blank {front back : List Char} (hfront : front.getLast?.any isBlank = false)
    (hback : ∀ c ∈ back, isBlank c = true) : trimEnd (front ++ back) = front := by
  rcases List.eq_nil_or_concat front with rfl | ⟨front, c, rfl⟩
  · exact trimEnd_eq_nil hback
  · rw [List.concat_eq_append, List.getLast?_concat] at hfront
    rw [List.concat_eq_append, List.append_assoc, List.singleton_append, trimEnd_append_cons hfront,
      trimEnd_eq_nil hback]

theorem getLast_trimEnd (cs : List Char) : (trimEnd cs).getLast?.any isBlank = false := by
  by_cases hnil : trimEnd cs = []
  · rw [hnil]
    rfl
  · rw [List.getLast?_eq_some_getLast hnil, Option.any_some, Bool.eq_false_iff]
    exact List.rdropWhile_last_not isBlank cs hnil

theorem trimEnd_trimEnd (cs : List Char) : trimEnd (trimEnd cs) = trimEnd cs :=
  List.rdropWhile_idempotent isBlank cs

theorem exists_trimEnd_append (cs : List Char) :
    ∃ back, (∀ c ∈ back, isBlank c = true) ∧ cs = trimEnd cs ++ back := by
  refine ⟨cs.rtakeWhile isBlank, fun c hc => List.mem_rtakeWhile_imp hc, ?_⟩
  rw [trimEnd_eq_rdropWhile, List.rdropWhile_append_rtakeWhile]

theorem digitZeros_of_mem_foreignBlanks :
    ∀ n ∈ foreignBlanks, digitZeros.find? (fun z => z ≤ n && n < z + 10) = none := by
  decide +kernel

theorem isBlank_of_isDecimal {c : Char} (h : isDecimal c = true) : isBlank c = false := by
  rw [Bool.eq_false_iff]
  intro hblank
  unfold isDecimal digitValue? at h
  split at h
  · next hdigit =>
    have hword : isWordChar c = true := by simp [isWordChar, isAlphanumeric, Char.isAlphanum, hdigit]
    rw [isBlank_of_isWordChar hword] at hblank
    contradiction
  · split at h
    · contradiction
    · have hmem : c.toNat ∈ foreignBlanks := by
        unfold isBlank at hblank
        simp only [Bool.or_eq_true, Bool.and_eq_true, decide_eq_true_eq, beq_iff_eq] at hblank
        simp only [foreignBlanks, List.mem_cons, List.not_mem_nil, or_false]
        omega
      rw [digitZeros_of_mem_foreignBlanks _ hmem] at h
      contradiction

/--
Trimming leaves what stands between white space.
-/
theorem trim_append {front core back : List Char} (hfront : ∀ c ∈ front, isBlank c = true)
    (hcore : ∀ c ∈ core, isBlank c = false) (hback : ∀ c ∈ back, isBlank c = true) :
    trim (front ++ (core ++ back)) = core := by
  rw [trim_blank_append hfront]
  cases core with
  | nil => exact trim_eq_nil hback
  | cons c core =>
    have hlast : (c :: core).getLast?.any isBlank = false := by
      rw [List.getLast?_eq_some_getLast (List.cons_ne_nil c core)]
      exact hcore _ (List.getLast_mem _)
    rw [trim_of_head (by simpa using hcore c List.mem_cons_self), trimEnd_append_of_blank hlast hback]

theorem exists_trim_append (cs : List Char) :
    ∃ front back, (∀ c ∈ front, isBlank c = true) ∧ (∀ c ∈ back, isBlank c = true)
      ∧ cs = front ++ (trim cs ++ back) := by
  rcases exists_trimEnd_append (cs.dropWhile isBlank) with ⟨back, hback, heq⟩
  refine ⟨cs.takeWhile isBlank, back, fun c hc => List.mem_takeWhile_imp hc, hback, ?_⟩
  rw [trim, ← heq, List.takeWhile_append_dropWhile]

theorem isBlank_head_trim (cs : List Char) : (trim cs).head?.any isBlank = false := by
  have hhead := List.head?_dropWhile_not isBlank cs
  rcases exists_trimEnd_append (cs.dropWhile isBlank) with ⟨back, _, heq⟩
  rw [trim]
  cases htrim : trimEnd (cs.dropWhile isBlank) with
  | nil => rfl
  | cons c rest =>
    rw [heq, htrim, List.cons_append, List.head?_cons] at hhead
    simpa using hhead

theorem trim_trim (cs : List Char) : trim (trim cs) = trim cs :=
  trim_eq_self (isBlank_head_trim cs) (getLast_trimEnd _)

theorem words_append_cons {c : Char} (hc : isBlank c = true) (front rest : List Char) :
    words (front ++ c :: rest) = words front ++ words rest := by
  unfold words
  rw [splitWhen_append_cons hc, List.filter_append]

theorem words_solid {word : List Char} (hne : word ≠ []) (hword : ∀ c ∈ word, isBlank c = false) :
    words word = [word] := by
  unfold words
  rw [splitWhen_eq_singleton hword, List.filter_cons_of_pos (by simpa using hne)]
  rfl

theorem words_word {word : List Char} (hne : word ≠ []) (hword : ∀ c ∈ word, isWordChar c = true) :
    words word = [word] :=
  words_solid hne fun c hc => isBlank_of_isWordChar (hword c hc)

theorem words_pos {cs : List Char} (h : ∃ c ∈ cs, isBlank c = false) : 0 < (words cs).length := by
  induction cs with
  | nil => simp at h
  | cons d cs ih =>
    unfold words at ih ⊢
    rw [splitWhen_cons]
    cases hd : isBlank d with
    | true =>
      rw [List.exists_mem_cons_iff, hd] at h
      rw [if_pos rfl, List.filter_cons_of_neg (by simp)]
      exact ih (h.resolve_left (by simp))
    | false =>
      cases hparts : splitWhen isBlank cs with
      | nil => exact absurd hparts (splitWhen_ne_nil isBlank cs)
      | cons part parts => simp

end Playback.Text
