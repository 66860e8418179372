import Mathlib.Data.List.Infix
import Playback.Proofs.Source.Scan
import Playback.Proofs.Text.Blank

/-!
This module contains texts whose brackets are all closed, and how a text that is made of them is cut at
separators: a separator inside of brackets does not count.
-/

namespace Playback.Source

/--
How many more brackets a text opens than it closes.
-/
def nesting (cs : List Char) : Int :=
  cs.foldr (fun c depth => bracketStep c + depth) 0

/--
Whether a text closes as many brackets as it opens, and never more than it has opened so far.
-/
structure Balanced (cs : List Char) : Prop where
  closed : nesting cs = 0
  opened : ∀ front, front <+: cs → 0 ≤ nesting front

/--
Whether the brackets of a text are closed and a separator stands inside of them only.
-/
structure Sealed (sep : Char) (cs : List Char) : Prop extends Balanced cs where
  inside : ∀ front, front ++ [sep] <+: cs → 0 < nesting front

section Nesting

variable {cs front rest : List Char} {sep : Char}

theorem balanced_iff_inits :
    Balanced cs ↔ nesting cs = 0 ∧ ∀ front ∈ cs.inits, 0 ≤ nesting front := by
  simp only [List.mem_inits]
  exact ⟨fun h => ⟨h.closed, h.opened⟩, fun ⟨closed, opened⟩ => ⟨closed, opened⟩⟩

theorem sealed_iff_inits :
    Sealed sep cs ↔ Balanced cs ∧ ∀ front ∈ cs.inits, front ++ [sep] <+: cs → 0 < nesting front := by
  simp only [List.mem_inits]
  constructor
  · exact fun h => ⟨h.toBalanced, fun front _ hpart => h.inside front hpart⟩
  · rintro ⟨hbalanced, hinside⟩
    exact ⟨hbalanced, fun front hpart => hinside front ((List.prefix_append front [sep]).trans hpart) hpart⟩

instance : Decidable (Balanced cs) :=
  decidable_of_iff _ balanced_iff_inits.symm

instance : Decidable (Sealed sep cs) :=
  decidable_of_iff _ sealed_iff_inits.symm

@[simp]
theorem nesting_nil : nesting [] = 0 :=
  rfl

@[simp]
theorem nesting_cons (c : Char) (cs : List Char) : nesting (c :: cs) = bracketStep c + nesting cs :=
  rfl

@[simp]
theorem nesting_append (front rest : List Char) : nesting (front ++ rest) = nesting front + nesting rest := by
  induction front with
  | nil => simp
  | cons c front ih => rw [List.cons_append, nesting_cons, nesting_cons, ih, Int.add_assoc]

theorem nesting_of_plain (h : ∀ c ∈ cs, bracketStep c = 0) : nesting cs = 0 := by
  induction cs with
  | nil => rfl
  | cons c cs ih =>
    rw [List.forall_mem_cons] at h
    rw [nesting_cons, h.1, ih h.2]
    rfl

theorem Balanced.of_plain (h : ∀ c ∈ cs, bracketStep c = 0) : Balanced cs where
  closed := nesting_of_plain h
  opened _ hfront := Int.le_of_eq (nesting_of_plain fun c hc => h c (hfront.subset hc)).symm

theorem Sealed.of_plain (h : ∀ c ∈ cs, c ≠ sep ∧ bracketStep c = 0) : Sealed sep cs where
  toBalanced := .of_plain fun c hc => (h c hc).2
  inside front hfront := absurd rfl (h sep (hfront.subset (by simp))).1

theorem Sealed.of_class {p : Char → Bool} (hp : ∀ c, p c = true → bracketStep c = 0) (hsep : p sep = false)
    (h : ∀ c ∈ cs, p c = true) : Sealed sep cs := by
  apply Sealed.of_plain
  intro c hc
  refine ⟨?_, hp c (h c hc)⟩
  rintro rfl
  rw [h c hc] at hsep
  contradiction

theorem prefix_or_exists_append (h : front <+: cs ++ rest) :
    front <+: cs ∨ ∃ more, front = cs ++ more ∧ more <+: rest := by
  rcases h with ⟨back, hback⟩
  rcases List.append_eq_append_iff.mp hback with ⟨more, rfl, _⟩ | ⟨more, rfl, rfl⟩
  · exact .inl (List.prefix_append front more)
  · exact .inr ⟨more, rfl, List.prefix_append more back⟩

theorem Balanced.of_append (h : Balanced (front ++ rest)) (hrest : ∀ c ∈ rest, bracketStep c = 0) :
    Balanced front where
  closed := by
    have hclosed := h.closed
    rwa [nesting_append, nesting_of_plain hrest, Int.add_zero] at hclosed
  opened start hstart := h.opened start (hstart.trans (List.prefix_append front rest))

theorem Sealed.of_append (h : Sealed sep (front ++ rest)) (hrest : ∀ c ∈ rest, bracketStep c = 0) :
    Sealed sep front where
  toBalanced := h.toBalanced.of_append hrest
  inside start hstart := h.inside start (hstart.trans (List.prefix_append front rest))

theorem Balanced.append (hfront : Balanced front) (hrest : Balanced rest) : Balanced (front ++ rest) where
  closed := by rw [nesting_append, hfront.closed, hrest.closed, Int.add_zero]
  opened start hpart := by
    rcases prefix_or_exists_append hpart with hshort | ⟨more, rfl, hmore⟩
    · exact hfront.opened start hshort
    · rw [nesting_append, hfront.closed, Int.zero_add]
      exact hrest.opened more hmore

theorem Sealed.append (hfront : Sealed sep front) (hrest : Sealed sep rest) : Sealed sep (front ++ rest) where
  toBalanced := hfront.toBalanced.append hrest.toBalanced
  inside start hpart := by
    rcases prefix_or_exists_append hpart with hshort | ⟨more, heq, hmore⟩
    · exact hfront.inside start hshort
    · rcases List.append_eq_append_iff.mp heq with ⟨back, rfl, hback⟩ | ⟨back, rfl, rfl⟩
      · -- The separator is the last character of the front.
        cases back with
        | nil =>
          rw [List.nil_append] at hback
          rw [← hback] at hmore
          have hinside := hrest.inside [] hmore
          contradiction
        | cons c back =>
          refine hfront.inside start ?_
          rw [List.cons_append, List.cons.injEq] at hback
          rw [← hback.1]
          simp
      · rw [nesting_append, hfront.closed, Int.zero_add]
        exact hrest.inside back hmore

/-
Inside of a pair of brackets, a separator may stand anywhere.
-/
theorem Balanced.bracketed (h : Balanced cs) {opening closing : Char} (hopening : bracketStep opening = 1)
    (hclosing : bracketStep closing = -1) (hsep : bracketStep sep = 0) :
    Sealed sep (opening :: (cs ++ [closing])) where
  closed := by simp [hopening, hclosing, h.closed]
  opened front hpart := by
    rcases List.prefix_cons_iff.mp hpart with rfl | ⟨more, rfl, hmore⟩
    · simp
    · rcases List.prefix_concat_iff.mp hmore with rfl | hshort
      · simp [hopening, hclosing, h.closed]
      · -- Such a front has the opening bracket and a front of the text inside.
        have hopened := h.opened more hshort
        rw [nesting_cons, hopening]
        omega
  inside front hpart := by
    cases front with
    | nil =>
      rw [List.nil_append, List.cons_prefix_cons] at hpart
      rw [hpart.1, hopening] at hsep
      contradiction
    | cons c more =>
      rw [List.cons_append, List.cons_prefix_cons] at hpart
      rcases List.prefix_concat_iff.mp hpart.2 with heq | hshort
      · rw [(List.append_singleton_inj.mp heq).2, hclosing] at hsep
        contradiction
      · have hopened := h.opened more ((List.prefix_append more [sep]).trans hshort)
        rw [nesting_cons, hpart.1, hopening]
        omega

theorem bracketStep_of_isBlank {c : Char} (h : Text.isBlank c = true) : bracketStep c = 0 := by
  unfold bracketStep
  rw [if_neg, if_neg]
  all_goals
    simp only [Bool.or_eq_true, beq_iff_eq]
    rintro ((rfl | rfl) | rfl) <;> contradiction

theorem Balanced.trimEnd (h : Balanced cs) : Balanced (Text.trimEnd cs) := by
  rcases Text.exists_trimEnd_append cs with ⟨back, hback, hcs⟩
  rw [hcs] at h
  exact h.of_append fun c hc => bracketStep_of_isBlank (hback c hc)

theorem Sealed.trimEnd (h : Sealed sep cs) : Sealed sep (Text.trimEnd cs) := by
  rcases Text.exists_trimEnd_append cs with ⟨back, hback, hcs⟩
  rw [hcs] at h
  exact h.of_append fun c hc => bracketStep_of_isBlank (hback c hc)

end Nesting

section Split

variable {sep : Char} {cs front : List Char}

theorem go_ne_nil (isSep : Char → Bool) (depth : Int) (cs : List Char) :
    splitTopLevelWhen.go isSep depth cs ≠ [] := by
  unfold splitTopLevelWhen.go
  cases cs with
  | nil => simp
  | cons c cs =>
    dsimp only
    split <;> simp

theorem splitTopLevel_ne_nil (sep : Char) (cs : List Char) : splitTopLevel sep cs ≠ [] :=
  go_ne_nil (· == sep) 0 cs

/-
A character is either a separator that cuts, and an empty part is put in front, or it belongs to the first
part.
-/
theorem exists_go_cons (sep c : Char) (depth : Int) (cs : List Char) :
    ∃ part parts, splitTopLevelWhen.go (· == sep) (depth + bracketStep c) cs = part :: parts
      ∧ ((c = sep ∧ depth + bracketStep c = 0
            ∧ splitTopLevelWhen.go (· == sep) depth (c :: cs) = [] :: part :: parts)
        ∨ (¬(c = sep ∧ depth + bracketStep c = 0)
            ∧ splitTopLevelWhen.go (· == sep) depth (c :: cs) = (c :: part) :: parts)) := by
  have hne := go_ne_nil (· == sep) (depth + bracketStep c) cs
  rcases List.exists_cons_of_ne_nil hne with ⟨part, parts, hparts⟩
  refine ⟨part, parts, hparts, ?_⟩
  rw [splitTopLevelWhen.go, hparts]
  by_cases hcut : c = sep ∧ depth + bracketStep c = 0
  · exact .inl ⟨hcut.1, hcut.2, if_pos (by simpa using hcut)⟩
  · exact .inr ⟨hcut, if_neg (by simpa using hcut)⟩

theorem go_sealed (h : Sealed sep cs) (hsep : bracketStep sep = 0) {back : List Char}
    (hcs : cs = front ++ back) (rest : List Char) :
    splitTopLevelWhen.go (· == sep) (nesting front) (back ++ rest)
      =
    (back ++ (splitTopLevel sep rest).headD []) :: (splitTopLevel sep rest).tail := by
  induction back generalizing front with
  | nil =>
    rw [List.append_nil] at hcs
    rw [← hcs, h.closed, List.nil_append, List.nil_append]
    change splitTopLevel sep rest = _
    rcases List.exists_cons_of_ne_nil (splitTopLevel_ne_nil sep rest) with ⟨part, parts, hparts⟩
    rw [hparts]
    rfl
  | cons c back ih =>
    have hc : (c == sep && nesting front + bracketStep c == 0) = false := by
      rw [Bool.and_eq_false_imp, beq_iff_eq]
      rintro rfl
      have hinside := h.inside front (by rw [hcs]; simp)
      rw [hsep, beq_eq_false_iff_ne]
      omega
    have hrest := @ih (front ++ [c]) (by rw [hcs]; simp)
    rw [nesting_append, nesting_cons, nesting_nil, Int.add_zero] at hrest
    rw [List.cons_append, splitTopLevelWhen.go, hc, hrest]
    rfl

/-
Cutting a text begins behind all of its front whose brackets are closed.
-/
theorem splitTopLevel_append (h : Sealed sep front) (hsep : bracketStep sep = 0) (rest : List Char) :
    splitTopLevel sep (front ++ rest)
      =
    (front ++ (splitTopLevel sep rest).headD []) :: (splitTopLevel sep rest).tail :=
  go_sealed h hsep (List.nil_append front).symm rest

theorem splitTopLevel_cons_self (hsep : bracketStep sep = 0) (rest : List Char) :
    splitTopLevel sep (sep :: rest) = [] :: splitTopLevel sep rest := by
  unfold splitTopLevel splitTopLevelWhen
  rw [splitTopLevelWhen.go, hsep]
  simp

theorem go_append_cons (hsep : bracketStep sep = 0) {depth : Int} (h : depth + nesting front = 0)
    (rest : List Char) :
    splitTopLevelWhen.go (· == sep) depth (front ++ sep :: rest)
      =
    splitTopLevelWhen.go (· == sep) depth front ++ splitTopLevel sep rest := by
  induction front generalizing depth with
  | nil =>
    rw [nesting_nil, Int.add_zero] at h
    rw [h]
    exact splitTopLevel_cons_self hsep rest
  | cons c front ih =>
    rw [nesting_cons, ← Int.add_assoc] at h
    rw [List.cons_append, splitTopLevelWhen.go, splitTopLevelWhen.go, ih h]
    split
    · rfl
    · have hne := go_ne_nil (· == sep) (depth + bracketStep c) front
      rcases List.exists_cons_of_ne_nil hne with ⟨part, parts, hparts⟩
      rw [hparts]
      rfl

/-
A separator behind a text that opens as many brackets as it closes always counts.
-/
theorem splitTopLevel_append_cons (h : nesting front = 0) (hsep : bracketStep sep = 0) (rest : List Char) :
    splitTopLevel sep (front ++ sep :: rest) = splitTopLevel sep front ++ splitTopLevel sep rest :=
  go_append_cons hsep (by rw [h, Int.add_zero]) rest

theorem Sealed.splitTopLevel_eq (h : Sealed sep cs) (hsep : bracketStep sep = 0) :
    splitTopLevel sep cs = [cs] := by
  have hsplit := splitTopLevel_append h hsep []
  rw [List.append_nil] at hsplit
  rw [hsplit]
  exact congrArg (· :: []) (List.append_nil cs)

theorem Sealed.splitTopLevel_append_cons (h : Sealed sep front) (hsep : bracketStep sep = 0)
    (rest : List Char) : splitTopLevel sep (front ++ sep :: rest) = front :: splitTopLevel sep rest := by
  rw [Source.splitTopLevel_append_cons h.closed hsep, h.splitTopLevel_eq hsep, List.singleton_append]

/-
Parts whose brackets are closed are found again between their separators.
-/
theorem splitTopLevel_intercalate (hsep : bracketStep sep = 0) {parts : List (List Char)}
    (hne : parts ≠ []) (hparts : ∀ part ∈ parts, Sealed sep part) :
    splitTopLevel sep ([sep].intercalate parts) = parts := by
  induction parts with
  | nil => contradiction
  | cons part parts ih =>
    rw [List.forall_mem_cons] at hparts
    cases parts with
    | nil => rw [List.intercalate_singleton, hparts.1.splitTopLevel_eq hsep]
    | cons other parts =>
      rw [List.intercalate_cons_cons, List.append_assoc, List.singleton_append,
        hparts.1.splitTopLevel_append_cons hsep, ih (by simp) hparts.2]

end Split

end Playback.Source
