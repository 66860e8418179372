import Playback.Proofs.Text.Blank

/-!
This module contains texts that differ in the amount of white space only. Where each run of white space is
squeezed to a single space, such texts become the same, and so the words of one of them are found in the
other.
-/

namespace Playback.Text

/--
A text with a single space for each run of white space. `afterBlank` says whether there is white space in
front of the text, to which a run at its start belongs.
-/
def squeezeFrom (afterBlank : Bool) : List Char → List Char
  | [] => []
  | c :: cs =>
    if isBlank c then
      if afterBlank then squeezeFrom true cs else ' ' :: squeezeFrom true cs
    else c :: squeezeFrom false cs

def squeeze (cs : List Char) : List Char :=
  squeezeFrom false cs

section Squeezing

theorem isBlank_space : isBlank ' ' = true :=
  rfl

variable {afterBlank : Bool} {c : Char} {cs gap rest more : List Char}

theorem squeezeFrom_blank (hc : isBlank c = true) (cs : List Char) :
    squeezeFrom true (c :: cs) = squeezeFrom true cs := by
  rw [squeezeFrom, if_pos hc, if_pos rfl]

theorem squeeze_blank (hc : isBlank c = true) (cs : List Char) :
    squeeze (c :: cs) = ' ' :: squeezeFrom true cs := by
  rw [squeeze, squeezeFrom, if_pos hc, if_neg (by simp)]

theorem squeezeFrom_solid (hc : isBlank c = false) (cs : List Char) :
    squeezeFrom afterBlank (c :: cs) = c :: squeeze cs := by
  rw [squeezeFrom, if_neg (by simp [hc]), squeeze]

theorem squeezeFrom_of_head (h : cs.head?.any isBlank = false) : squeezeFrom afterBlank cs = squeeze cs := by
  cases cs with
  | nil => rfl
  | cons c cs => rw [squeeze, squeezeFrom_solid h, squeezeFrom_solid h]

theorem isBlank_head_solid (h : ∀ c ∈ cs, isBlank c = false) : cs.head?.any isBlank = false := by
  cases cs with
  | nil => rfl
  | cons c cs => exact h c List.mem_cons_self

theorem squeezeFrom_blanks_append (hgap : ∀ c ∈ gap, isBlank c = true) (cs : List Char) :
    squeezeFrom true (gap ++ cs) = squeezeFrom true cs := by
  induction gap with
  | nil => rfl
  | cons c gap ih =>
    rw [List.forall_mem_cons] at hgap
    rw [List.cons_append, squeezeFrom_blank hgap.1, ih hgap.2]

/-
A run of white space is as good as a single space.
-/
theorem squeezeFrom_gap_append (hne : gap ≠ []) (hgap : ∀ c ∈ gap, isBlank c = true) (cs : List Char) :
    squeezeFrom afterBlank (gap ++ cs) = squeezeFrom afterBlank (' ' :: cs) := by
  cases gap with
  | nil => contradiction
  | cons c gap =>
    rw [List.forall_mem_cons] at hgap
    rw [List.cons_append, squeezeFrom, if_pos hgap.1, squeezeFrom, if_pos isBlank_space,
      squeezeFrom_blanks_append hgap.2]

theorem squeezeFrom_append_congr (h : ∀ afterBlank, squeezeFrom afterBlank rest = squeezeFrom afterBlank more)
    (front : List Char) :
    squeezeFrom afterBlank (front ++ rest) = squeezeFrom afterBlank (front ++ more) := by
  induction front generalizing afterBlank with
  | nil => exact h afterBlank
  | cons c front ih => rw [List.cons_append, List.cons_append, squeezeFrom, squeezeFrom, ih, ih]

theorem squeezeFrom_append_cons (hc : isBlank c = false) (front rest : List Char) :
    squeezeFrom afterBlank (front ++ c :: rest) = squeezeFrom afterBlank front ++ c :: squeeze rest := by
  induction front generalizing afterBlank with
  | nil => exact squeezeFrom_solid hc rest
  | cons d front ih =>
    rw [List.cons_append, squeezeFrom, squeezeFrom, ih, ih]
    split
    · split <;> rfl
    · rfl

theorem squeeze_word (h : ∀ c ∈ cs, isBlank c = false) (rest : List Char) :
    squeeze (cs ++ rest) = cs ++ squeeze rest := by
  induction cs with
  | nil => rfl
  | cons c cs ih =>
    rw [List.forall_mem_cons] at h
    rw [List.cons_append, squeeze, squeezeFrom_solid h.1, ih h.2, List.cons_append]

theorem squeeze_solid (h : ∀ c ∈ cs, isBlank c = false) : squeeze cs = cs := by
  have hword := squeeze_word h []
  rwa [List.append_nil, squeeze, squeeze, squeezeFrom, List.append_nil] at hword

theorem mem_squeezeFrom (hc : isBlank c = false) : c ∈ squeezeFrom afterBlank cs ↔ c ∈ cs := by
  have hspace : c ≠ ' ' := by
    rintro rfl
    contradiction
  induction cs generalizing afterBlank with
  | nil => rfl
  | cons d cs ih =>
    rw [squeezeFrom]
    split
    · next hd =>
      have hne : c ≠ d := by
        rintro rfl
        rw [hd] at hc
        contradiction
      rw [List.mem_cons, or_iff_right hne]
      split
      · exact ih
      · rw [List.mem_cons, or_iff_right hspace]
        exact ih
    · rw [List.mem_cons, List.mem_cons]
      exact or_congr_right ih

theorem mem_squeeze (hc : isBlank c = false) : c ∈ squeeze cs ↔ c ∈ cs :=
  mem_squeezeFrom hc

end Squeezing

section Found

variable {afterBlank : Bool} {c : Char} {cs front word rest : List Char}

theorem squeezeFrom_eq_append_cons (hc : isBlank c = false)
    (h : squeezeFrom afterBlank cs = front ++ c :: rest) :
    ∃ start back, cs = start ++ c :: back ∧ squeezeFrom afterBlank start = front ∧ squeeze back = rest := by
  have hspace : c ≠ ' ' := by
    rintro rfl
    contradiction
  fun_induction squeezeFrom afterBlank cs generalizing front with
  | case1 => simp at h
  | case2 d cs hd ih =>
    rcases ih h with ⟨start, back, rfl, hstart, hback⟩
    exact ⟨d :: start, back, rfl, by rw [squeezeFrom_blank hd, hstart], hback⟩
  | case3 afterBlank d cs hd hafter ih =>
    rw [Bool.not_eq_true] at hafter
    subst hafter
    -- The space that is written here is not the character in question.
    cases front with
    | nil => exact absurd (List.cons.inj h).1.symm hspace
    | cons e front =>
      rw [List.cons_append, List.cons.injEq] at h
      rcases ih h.2 with ⟨start, back, rfl, hstart, hback⟩
      refine ⟨d :: start, back, rfl, ?_, hback⟩
      have hblank := squeeze_blank hd start
      rw [squeeze] at hblank
      rw [hblank, hstart, h.1]
  | case4 afterBlank d cs hd ih =>
    rw [Bool.not_eq_true] at hd
    cases front with
    | nil =>
      rw [List.nil_append, List.cons.injEq] at h
      exact ⟨[], cs, by rw [h.1, List.nil_append], rfl, h.2⟩
    | cons e front =>
      rw [List.cons_append, List.cons.injEq] at h
      rcases ih h.2 with ⟨start, back, rfl, hstart, hback⟩
      refine ⟨d :: start, back, rfl, ?_, hback⟩
      rw [squeezeFrom_solid hd, squeeze, hstart, h.1]

theorem squeeze_eq_nil (h : squeeze cs = []) : cs = [] := by
  cases cs with
  | nil => rfl
  | cons c cs =>
    rw [squeeze, squeezeFrom] at h
    split at h
    · simp at h
    · contradiction

theorem squeeze_eq_space_cons (h : squeeze cs = ' ' :: rest) :
    ∃ gap back, cs = gap ++ back ∧ gap ≠ [] ∧ (∀ c ∈ gap, isBlank c = true)
      ∧ squeeze back = rest := by
  cases cs with
  | nil => contradiction
  | cons c cs =>
    by_cases hc : isBlank c = true
    · rw [squeeze_blank hc, List.cons.injEq] at h
      have hhead : (cs.dropWhile isBlank).head?.any isBlank = false := by
        have hdrop := List.head?_dropWhile_not isBlank cs
        cases heq : (cs.dropWhile isBlank).head? with
        | none => rfl
        | some d =>
          rw [heq] at hdrop
          simpa using hdrop
      refine ⟨c :: cs.takeWhile isBlank, cs.dropWhile isBlank, ?_, by simp, ?_, ?_⟩
      · rw [List.cons_append, List.takeWhile_append_dropWhile]
      · rw [List.forall_mem_cons]
        exact ⟨hc, fun d => List.mem_takeWhile_imp⟩
      · have hsolid : squeezeFrom true (cs.dropWhile isBlank) = squeeze (cs.dropWhile isBlank) :=
          squeezeFrom_of_head hhead
        rw [← hsolid, ← h.2]
        have hblanks : ∀ d ∈ cs.takeWhile isBlank, isBlank d = true := fun d => List.mem_takeWhile_imp
        have hdrop := squeezeFrom_blanks_append hblanks (cs.dropWhile isBlank)
        rw [← hdrop, List.takeWhile_append_dropWhile]
    · rw [Bool.not_eq_true] at hc
      rw [squeeze, squeezeFrom_solid hc, List.cons.injEq] at h
      rw [h.1] at hc
      contradiction

theorem squeeze_eq_word_append (hword : ∀ c ∈ word, isBlank c = false) (h : squeeze cs = word ++ rest) :
    ∃ back, cs = word ++ back ∧ squeeze back = rest := by
  induction word generalizing cs with
  | nil => exact ⟨cs, rfl, h⟩
  | cons c word ih =>
    rw [List.forall_mem_cons] at hword
    have hfirst : squeezeFrom false cs = [] ++ c :: (word ++ rest) := h
    rcases squeezeFrom_eq_append_cons hword.1 hfirst with ⟨start, back, rfl, hstart, hback⟩
    rcases ih hword.2 hback with ⟨more, rfl, hmore⟩
    have hnil : start = [] := squeeze_eq_nil hstart
    exact ⟨more, by rw [hnil]; rfl, hmore⟩

end Found

section Lines

variable {afterBlank : Bool} {line rest more : List Char}

/-
At the end of a line, and at its start, white space makes no difference.
-/
theorem squeezeFrom_trimEnd_append (line : List Char)
    (h : squeezeFrom true rest = squeezeFrom true more) :
    squeezeFrom afterBlank (trimEnd line ++ ' ' :: rest) = squeezeFrom afterBlank (line ++ '\n' :: more) := by
  rcases exists_trimEnd_append line with ⟨back, hback, heq⟩
  have hgap : ∀ c ∈ back ++ ['\n'], isBlank c = true := by
    rw [List.forall_mem_append, List.forall_mem_singleton]
    exact ⟨hback, rfl⟩
  have hline : line ++ '\n' :: more = trimEnd line ++ (back ++ ['\n'] ++ more) := by
    conv_lhs => rw [heq]
    simp
  rw [hline]
  apply squeezeFrom_append_congr
  intro afterBlank
  rw [squeezeFrom_gap_append (by simp) hgap, squeezeFrom, squeezeFrom, h, if_pos isBlank_space,
    if_pos isBlank_space]

theorem squeezeFrom_dropWhile (line rest : List Char) :
    squeezeFrom true (line.dropWhile isBlank ++ rest) = squeezeFrom true (line ++ rest) := by
  have hblanks : ∀ c ∈ line.takeWhile isBlank, isBlank c = true := fun c => List.mem_takeWhile_imp
  have hdrop := squeezeFrom_blanks_append hblanks (line.dropWhile isBlank ++ rest)
  rw [← List.append_assoc, List.takeWhile_append_dropWhile] at hdrop
  exact hdrop.symm

theorem squeezeFrom_trim_append (line : List Char) (h : squeezeFrom true rest = squeezeFrom true more) :
    squeezeFrom true (trim line ++ ' ' :: rest) = squeezeFrom true (line ++ '\n' :: more) := by
  rw [trim, squeezeFrom_trimEnd_append _ h, squeezeFrom_dropWhile]

theorem squeezeFrom_of_trim_eq_nil (hline : trim line = []) (rest : List Char) :
    squeezeFrom true (line ++ '\n' :: rest) = squeezeFrom true rest := by
  rcases exists_trim_append line with ⟨front, back, hfront, hback, heq⟩
  have hgap : ∀ c ∈ line ++ ['\n'], isBlank c = true := by
    rw [heq, hline, List.nil_append, List.forall_mem_append, List.forall_mem_append, List.forall_mem_singleton]
    exact ⟨⟨hfront, hback⟩, rfl⟩
  have hsplit : line ++ '\n' :: rest = line ++ ['\n'] ++ rest := by simp
  rw [hsplit, squeezeFrom_blanks_append hgap]

end Lines

end Playback.Text
