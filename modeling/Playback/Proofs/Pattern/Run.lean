import Mathlib.Data.List.Basic
import Playback.Pattern.Basic

/-!
This module contains how matches of patterns run: where the parts of a pattern take a match, and when
they leave no way to go on.
-/

namespace Playback.Pattern

def lastOf (before : Option Char) : List Char → Option Char
  | [] => before
  | c :: cs => lastOf (some c) cs

theorem lastOf_append (before : Option Char) (front rest : List Char) :
    lastOf before (front ++ rest) = lastOf (lastOf before front) rest := by
  induction front generalizing before with
  | nil => rfl
  | cons c front ih => exact ih (some c)

theorem lastOf_eq_some {cs : List Char} (hne : cs ≠ []) (before : Option Char) :
    ∃ c ∈ cs, lastOf before cs = some c := by
  induction cs generalizing before with
  | nil => contradiction
  | cons c cs ih =>
    by_cases h : cs = []
    · rw [h]
      exact ⟨c, by simp, rfl⟩
    · rcases ih h (some c) with ⟨d, hd, hlast⟩
      exact ⟨d, List.mem_cons_of_mem c hd, hlast⟩

section Run

variable {next : Place → Option Place} {before : Option Char} {captures : List (String × List Char)}

@[simp]
theorem run_append (p q : Pattern) (place : Place) :
    (p ++ q).run next place = p.run (q.run next) place :=
  rfl

@[simp]
theorem run_orElse (p q : Pattern) (place : Place) :
    (p <|> q).run next place = (p.run next place).or (q.run next place) :=
  rfl

@[simp]
theorem run_opt (p : Pattern) (place : Place) :
    (opt p).run next place = (p.run next place).or (next place) :=
  rfl

@[simp]
theorem run_plus (p : Pattern) (place : Place) :
    (plus p).run next place = p.run ((star p).run next) place :=
  rfl

@[simp]
theorem run_char_nil (accepts : Char → Bool) :
    (char accepts).run next ⟨before, [], captures⟩ = none :=
  rfl

@[simp]
theorem run_char_cons (accepts : Char → Bool) (c : Char) (rest : List Char) :
    (char accepts).run next ⟨before, c :: rest, captures⟩
      =
    if accepts c then next ⟨some c, rest, captures⟩ else none :=
  rfl

/-
A repetition that cannot begin goes on at once.
-/
theorem run_star_of_none {p : Pattern} {place : Place} (h : ∀ k, p.run k place = none) :
    (star p).run next place = next place := by
  unfold run
  cases place.rest with
  | nil => rfl
  | cons c rest => rw [repeatThen, h, Option.none_or]

theorem repeatThen_char_some {accepts : Char → Bool} {word rest bound : List Char} {r : Place}
    (hword : ∀ c ∈ word, accepts c = true) (hrest : rest.head?.any accepts = false)
    (hbound : word.length ≤ bound.length) (h : next ⟨lastOf before word, rest, captures⟩ = some r) :
    repeatThen (char accepts).run next bound ⟨before, word ++ rest, captures⟩ = some r := by
  induction word generalizing before bound with
  | nil =>
    cases bound with
    | nil => exact h
    | cons c bound =>
      rw [repeatThen, List.nil_append]
      cases rest with
      | nil => exact h
      | cons d rest =>
        rw [run_char_cons, if_neg (by simpa using hrest), Option.none_or]
        exact h
  | cons c word ih =>
    cases bound with
    | nil => simp at hbound
    | cons d bound =>
      rw [List.forall_mem_cons] at hword
      rw [repeatThen, List.cons_append, run_char_cons, if_pos hword.1,
        ih hword.2 (by simpa using hbound) h, Option.some_or]

/-
Characters are taken as long as there are some, and so the match goes on behind them if it can.
-/
theorem run_star_char_some {accepts : Char → Bool} {word rest : List Char} {r : Place}
    (hword : ∀ c ∈ word, accepts c = true) (hrest : rest.head?.any accepts = false)
    (h : next ⟨lastOf before word, rest, captures⟩ = some r) :
    (star (char accepts)).run next ⟨before, word ++ rest, captures⟩ = some r := by
  apply repeatThen_char_some hword hrest _ h
  simp

theorem run_blanks_space {rest : List Char} {r : Place} (hrest : rest.head?.any Text.isBlank = false)
    (h : next ⟨some ' ', rest, captures⟩ = some r) :
    blanks.run next ⟨before, ' ' :: rest, captures⟩ = some r := by
  have hblank : ∀ c ∈ [' '], Text.isBlank c = true := by decide
  exact run_star_char_some hblank hrest h

theorem repeatThen_char_stuck {accepts : Char → Bool} {word rest bound : List Char}
    (hword : ∀ c ∈ word, accepts c = true) (hrest : rest.head?.any accepts = false)
    (hbound : word.length ≤ bound.length)
    (hstuck : ∀ front c back, word = front ++ c :: back →
      next ⟨lastOf before front, c :: (back ++ rest), captures⟩ = none) :
    repeatThen (char accepts).run next bound ⟨before, word ++ rest, captures⟩
      =
    next ⟨lastOf before word, rest, captures⟩ := by
  induction word generalizing before bound with
  | nil =>
    cases bound with
    | nil => rfl
    | cons c bound =>
      rw [repeatThen, List.nil_append]
      cases rest with
      | nil => rfl
      | cons d rest =>
        rw [run_char_cons, if_neg (by simpa using hrest), Option.none_or]
        rfl
  | cons c word ih =>
    cases bound with
    | nil => simp at hbound
    | cons d bound =>
      rw [List.forall_mem_cons] at hword
      have hhere := hstuck [] c word rfl
      rw [lastOf] at hhere
      rw [repeatThen, List.cons_append, run_char_cons, if_pos hword.1, hhere, Option.or_none,
        ih hword.2 (by simpa using hbound)]
      · rfl
      · intro front e back heq
        exact hstuck (c :: front) e back (by rw [heq, List.cons_append])

/-
If the match cannot go on in front of any of the characters, it goes on behind them or not at all.
-/
theorem run_star_char_stuck {accepts : Char → Bool} {word rest : List Char}
    (hword : ∀ c ∈ word, accepts c = true) (hrest : rest.head?.any accepts = false)
    (hstuck : ∀ front c back, word = front ++ c :: back →
      next ⟨lastOf before front, c :: (back ++ rest), captures⟩ = none) :
    (star (char accepts)).run next ⟨before, word ++ rest, captures⟩
      =
    next ⟨lastOf before word, rest, captures⟩ := by
  apply repeatThen_char_stuck hword hrest _ hstuck
  simp

/-
If the match can go on nowhere among the characters, it cannot go on at all.
-/
theorem run_star_char_eq_none {accepts : Char → Bool} {word rest : List Char}
    (hword : ∀ c ∈ word, accepts c = true) (hrest : rest.head?.any accepts = false)
    (hnone : ∀ front back, word = front ++ back →
      next ⟨lastOf before front, back ++ rest, captures⟩ = none) :
    (star (char accepts)).run next ⟨before, word ++ rest, captures⟩ = none := by
  rw [run_star_char_stuck hword hrest fun front c back heq => hnone front (c :: back) heq]
  exact hnone word [] (List.append_nil word).symm

theorem run_star_char_skip {accepts : Char → Bool} {rest : List Char}
    (hrest : rest.head?.any accepts = false) :
    (star (char accepts)).run next ⟨before, rest, captures⟩ = next ⟨before, rest, captures⟩ := by
  have hnone : ∀ c ∈ ([] : List Char), accepts c = true := by simp
  exact run_star_char_stuck hnone hrest (by simp)

theorem run_star_lineChar_some {rest : List Char} {r : Place} (hrest : '\n' ∉ rest)
    (h : next ⟨lastOf before rest, [], captures⟩ = some r) :
    (star lineChar).run next ⟨before, rest, captures⟩ = some r := by
  have hall : ∀ c ∈ rest, (c != '\n') = true := by
    intro c hc
    rw [bne_iff_ne]
    rintro rfl
    exact hrest hc
  rw [← List.append_nil rest]
  exact run_star_char_some hall rfl h

/-
What is left of a line can be remembered as a whole.
-/
theorem run_capture_line {name : String} {rest : List Char} (hrest : '\n' ∉ rest) :
    (capture name (star lineChar)).run (textEnd.run some) ⟨before, rest, captures⟩
      =
    some ⟨lastOf before rest, [], (name, rest) :: captures⟩ := by
  rw [run]
  apply run_star_lineChar_some hrest
  simp [textEnd, run]

theorem run_chars_append (cs rest : List Char) :
    (cs.foldr (fun c p => seq (char (· == c)) p) empty).run next ⟨before, cs ++ rest, captures⟩
      =
    next ⟨lastOf before cs, rest, captures⟩ := by
  induction cs generalizing before with
  | nil => rfl
  | cons c cs ih =>
    rw [List.foldr_cons, run, List.cons_append, run_char_cons, if_pos (by simp), ih]
    rfl

@[simp]
theorem run_text_append (s : String) (rest : List Char) :
    (text s).run next ⟨before, s.toList ++ rest, captures⟩
      =
    next ⟨lastOf before s.toList, rest, captures⟩ := by
  apply run_chars_append

theorem exists_of_run_text {s : String} {place r : Place} (h : (text s).run next place = some r) :
    ∃ rest, place.rest = s.toList ++ rest := by
  unfold text at h
  generalize s.toList = cs at h
  induction cs generalizing place with
  | nil => exact ⟨place.rest, rfl⟩
  | cons c cs ih =>
    rcases place with ⟨before, rest, captures⟩
    rw [List.foldr_cons, run] at h
    cases rest with
    | nil => contradiction
    | cons d rest =>
      rw [run_char_cons] at h
      split at h
      · next hc =>
        rcases ih h with ⟨more, hmore⟩
        dsimp only at hmore
        exact ⟨more, by rw [hmore, eq_of_beq hc, List.cons_append]⟩
      · contradiction

theorem run_text_of_not_prefix {s : String} {rest : List Char} (h : ¬ s.toList <+: rest) :
    (text s).run next ⟨before, rest, captures⟩ = none := by
  rw [Option.eq_none_iff_forall_ne_some]
  intro r hr
  rcases exists_of_run_text hr with ⟨more, hmore⟩
  apply h
  dsimp only at hmore
  rw [hmore]
  apply List.prefix_append

theorem run_text_of_head {s : String} (c : Char) {rest : List Char} (hs : s.toList.head? = some c)
    (h : rest.head?.any (· == c) = false) : (text s).run next ⟨before, rest, captures⟩ = none := by
  apply run_text_of_not_prefix
  rintro ⟨back, rfl⟩
  rw [List.head?_append, hs] at h
  simp at h

/-
A word that is not the whole of another one leaves the match in the middle of a word, or does not match.
-/
theorem run_text_of_ne {s : String} (hs : ∀ c ∈ s.toList, Text.isWordChar c = true)
    {word rest : List Char} (hword : ∀ c ∈ word, Text.isWordChar c = true)
    (hrest : rest.head?.any Text.isWordChar = false) (hne : word ≠ s.toList)
    (hnext : ∀ c more, Text.isWordChar c = true →
      next ⟨lastOf before s.toList, c :: more, captures⟩ = none) :
    (text s).run next ⟨before, word ++ rest, captures⟩ = none := by
  by_cases hprefix : s.toList <+: word ++ rest
  · rcases hprefix with ⟨more, hmore⟩
    rw [← hmore, run_text_append]
    rcases List.append_eq_append_iff.mp hmore with ⟨back, rfl, hback⟩ | ⟨back, heq, hback⟩
    · cases back with
      | nil => simp at hne
      | cons c back =>
        rw [hback, List.cons_append]
        exact hnext c _ (hword c (by simp))
    · cases back with
      | nil =>
        rw [List.append_nil] at heq
        exact absurd heq.symm hne
      | cons c back =>
        have hc := hs c (by simp [heq])
        rw [hback, List.cons_append, List.head?_cons, Option.any_some, hc] at hrest
        contradiction
  · exact run_text_of_not_prefix hprefix

theorem run_capture_plus {name : String} {accepts : Char → Bool} {word rest : List Char} {r : Place}
    (hne : word ≠ []) (hword : ∀ c ∈ word, accepts c = true)
    (hrest : rest.head?.any accepts = false)
    (h : next ⟨lastOf before word, rest, (name, word) :: captures⟩ = some r) :
    (capture name (plus (char accepts))).run next ⟨before, word ++ rest, captures⟩ = some r := by
  cases word with
  | nil => contradiction
  | cons c word =>
    rw [List.forall_mem_cons] at hword
    rw [run, run_plus, List.cons_append, run_char_cons, if_pos hword.1]
    apply run_star_char_some hword.2 hrest
    have htake : (c :: (word ++ rest)).take ((c :: (word ++ rest)).length - rest.length) = c :: word := by
      rw [← List.cons_append, List.length_append, Nat.add_sub_cancel, List.take_left]
    dsimp only
    rw [htake]
    exact h

theorem run_capture_plus_stuck {name : String} {accepts : Char → Bool} {word rest : List Char}
    (hne : word ≠ []) (hword : ∀ c ∈ word, accepts c = true) (hrest : rest.head?.any accepts = false)
    (hstuck : ∀ before c more captures, accepts c = true →
      next ⟨before, c :: more, captures⟩ = none) :
    (capture name (plus (char accepts))).run next ⟨before, word ++ rest, captures⟩
      =
    next ⟨lastOf before word, rest, (name, word) :: captures⟩ := by
  cases word with
  | nil => contradiction
  | cons c word =>
    rw [List.forall_mem_cons] at hword
    rw [run, run_plus, List.cons_append, run_char_cons, if_pos hword.1,
      run_star_char_stuck hword.2 hrest]
    · have htake : (c :: (word ++ rest)).take ((c :: (word ++ rest)).length - rest.length)
          = c :: word := by
        rw [← List.cons_append, List.length_append, Nat.add_sub_cancel, List.take_left]
      dsimp only
      rw [htake]
      rfl
    · rintro front d back rfl
      exact hstuck _ d _ _ (hword.2 d (by simp))

theorem run_oneOf (words : List String) (place : Place) :
    (oneOf words).run next place = words.findSome? fun word => (text word).run next place := by
  induction words with
  | nil => rfl
  | cons word words ih =>
    cases words with
    | nil =>
      rw [oneOf, List.findSome?_cons]
      cases (text word).run next place <;> rfl
    | cons other words =>
      rw [oneOf, run, ih]
      · cases h : (text word).run next place with
        | none => rw [List.findSome?_cons (a := word), h, Option.none_or]
        | some r => rw [List.findSome?_cons (a := word), h, Option.some_or]
      · simp

end Run

/-
A search passes over a front where no match starts.
-/
theorem search?_go_append {p : Pattern} {before : Option Char} {skipped : Nat} {front rest : List Char}
    (h : ∀ more back, front = more ++ back → back ≠ [] →
      p.run some ⟨lastOf before more, back ++ rest, []⟩ = none) :
    search?.go p before skipped (front ++ rest)
      =
    search?.go p (lastOf before front) (skipped + front.length) rest := by
  induction front generalizing before skipped with
  | nil => rfl
  | cons c front ih =>
    have hhere := h [] (c :: front) rfl (by simp)
    rw [lastOf, List.cons_append] at hhere
    rw [List.cons_append, search?.go, hhere]
    dsimp only
    rw [ih]
    · rw [List.length_cons, Nat.add_right_comm, Nat.add_assoc]
      rfl
    · intro more back heq hne
      exact h (c :: more) back (by rw [heq, List.cons_append]) hne

theorem isSome_search?_go (p : Pattern) (before : Option Char) (skipped : Nat) (cs : List Char) :
    (search?.go p before skipped cs).isSome = true
      ↔
    ∃ front rest, cs = front ++ rest ∧ (p.run some ⟨lastOf before front, rest, []⟩).isSome := by
  induction cs generalizing before skipped with
  | nil =>
    unfold search?.go
    constructor
    · intro h
      split at h
      · next hrun => exact ⟨[], [], rfl, by rw [lastOf, hrun]; rfl⟩
      · contradiction
    · rintro ⟨front, rest, heq, hsome⟩
      rw [List.nil_eq, List.append_eq_nil_iff] at heq
      rw [heq.1, heq.2, lastOf] at hsome
      rcases Option.isSome_iff_exists.mp hsome with ⟨place, hrun⟩
      rw [hrun]
      rfl
  | cons c cs ih =>
    unfold search?.go
    cases hrun : p.run some ⟨before, c :: cs, []⟩ with
    | some place =>
      simp only [Option.isSome_some, true_iff]
      exact ⟨[], c :: cs, rfl, by rw [lastOf, hrun]; rfl⟩
    | none =>
      -- No match starts here, so there is a character in front of each place where one does.
      dsimp only
      rw [ih]
      constructor
      · rintro ⟨front, rest, rfl, hsome⟩
        exact ⟨c :: front, rest, rfl, hsome⟩
      · rintro ⟨front, rest, heq, hsome⟩
        cases front with
        | nil =>
          rw [List.nil_append] at heq
          rw [← heq, lastOf, hrun] at hsome
          contradiction
        | cons d front =>
          rw [List.cons_append, List.cons.injEq] at heq
          rw [← heq.1] at hsome
          exact ⟨front, rest, heq.2, hsome⟩

/-
A pattern occurs in a text where a match of it runs to its end.
-/
theorem occursIn_iff (p : Pattern) (cs : List Char) :
    p.occursIn cs = true
      ↔
    ∃ front rest, cs = front ++ rest ∧ (p.run some ⟨lastOf none front, rest, []⟩).isSome := by
  apply isSome_search?_go

end Playback.Pattern
