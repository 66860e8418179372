import Playback.Proofs.Pattern.Run

/-!
This module contains the patterns whose matches last when the text is made part of a longer one: they look at
no more than the characters next to a place, and a line break is to them what the end of a text is.
-/

namespace Playback.Pattern

/--
Whether a place of a text is found again in a longer text, in which line breaks stand around the shorter one.
What has been remembered makes no difference.
-/
structure Embedded (more : List Char) (a b : Place) : Prop where
  before : b.before = a.before ∨ (a.before = none ∧ b.before = some '\n')
  rest : b.rest = a.rest ++ '\n' :: more

/--
Whether no test of a pattern is turned off by a longer text around the line breaks.
-/
def Local : Pattern → Prop
  | .empty => True
  | .char _ => True
  | .seq p q => p.Local ∧ q.Local
  | .alt p q => p.Local ∧ q.Local
  | .star p => p.Local
  | .capture _ p => p.Local
  | .look holds => ∀ more a b, Embedded more a b → holds a.before a.rest = true →
      holds b.before b.rest = true

section Embedded

variable {more : List Char} {a b : Place} (h : Embedded more a b)
include h

theorem Embedded.any_before {p : Char → Bool} (hp : p '\n' = false) :
    b.before.any p = a.before.any p := by
  rcases h.before with hsame | ⟨hnone, hbreak⟩
  · rw [hsame]
  · rw [hnone, hbreak, Option.any_some, Option.any_none, hp]

theorem Embedded.any_head {p : Char → Bool} (hp : p '\n' = false) :
    b.rest.head?.any p = a.rest.head?.any p := by
  rw [h.rest]
  cases a.rest with
  | nil => exact hp
  | cons c rest => rfl

theorem Embedded.startsLine (ha : a.before.all (· == '\n') = true) :
    b.before.all (· == '\n') = true := by
  rcases h.before with hsame | ⟨_, hbreak⟩
  · rw [hsame]
    exact ha
  · rw [hbreak]
    rfl

end Embedded

section Local

@[simp]
theorem local_append (p q : Pattern) : (p ++ q).Local ↔ p.Local ∧ q.Local :=
  Iff.rfl

@[simp]
theorem local_char (accepts : Char → Bool) : (char accepts).Local :=
  trivial

@[simp]
theorem local_star (p : Pattern) : (star p).Local ↔ p.Local :=
  Iff.rfl

@[simp]
theorem local_opt (p : Pattern) : (opt p).Local ↔ p.Local := by
  simp [opt, Local]

@[simp]
theorem local_plus (p : Pattern) : (plus p).Local ↔ p.Local := by
  simp [plus, Local]

@[simp]
theorem local_text (s : String) : (text s).Local := by
  unfold text
  induction s.toList with
  | nil => trivial
  | cons c cs ih => exact ⟨trivial, ih⟩

@[simp]
theorem local_oneOf (words : List String) : (oneOf words).Local := by
  induction words with
  | nil => exact fun _ _ _ _ h => h
  | cons word words ih =>
    cases words with
    | nil => exact local_text word
    | cons other words => exact ⟨local_text word, ih⟩

@[simp]
theorem local_wordBoundary : wordBoundary.Local := by
  intro more a b h ha
  have hbreak : Text.isWordChar '\n' = false := by decide
  dsimp only at ha ⊢
  rw [h.any_before hbreak, h.any_head hbreak]
  exact ha

@[simp]
theorem local_lineStart : lineStart.Local :=
  fun _ _ _ h => h.startsLine

end Local

section Run

variable {more : List Char} {next other : Place → Option Place} {a b : Place}

theorem isSome_repeatThen_of_embedded {p : Pattern}
    (hp : ∀ {next other : Place → Option Place} {a b : Place},
      (∀ a b, Embedded more a b → (next a).isSome → (other b).isSome) → Embedded more a b →
      (p.run next a).isSome → (p.run other b).isSome)
    (hnext : ∀ a b, Embedded more a b → (next a).isSome → (other b).isSome)
    {bound larger : List Char} (hbound : bound.length ≤ larger.length) (hab : Embedded more a b)
    (h : (repeatThen p.run next bound a).isSome) : (repeatThen p.run other larger b).isSome := by
  induction bound generalizing larger a b with
  | nil =>
    have hdone := hnext a b hab h
    cases larger with
    | nil => exact hdone
    | cons c larger =>
      -- The repetition may go on here, but what follows it is found without that as well.
      rw [repeatThen, Option.isSome_or, hdone, Bool.or_true]
  | cons c bound ih =>
    cases larger with
    | nil => simp at hbound
    | cons d larger =>
      rw [List.length_cons, List.length_cons, Nat.add_le_add_iff_right] at hbound
      rw [repeatThen, Option.isSome_or, Bool.or_eq_true] at h ⊢
      rcases h with hagain | hdone
      · exact .inl (hp (fun a b hab => ih hbound hab) hab hagain)
      · exact .inr (hnext a b hab hdone)

/-
A match of a local pattern is found again in the longer text, if what follows the pattern is.
-/
theorem isSome_run_of_embedded {p : Pattern} (hp : p.Local)
    (hnext : ∀ a b, Embedded more a b → (next a).isSome → (other b).isSome) (hab : Embedded more a b)
    (h : (p.run next a).isSome) : (p.run other b).isSome := by
  induction p generalizing next other a b with
  | empty => exact hnext a b hab h
  | char accepts =>
    rcases a with ⟨before, rest, captures⟩
    rcases b with ⟨before', rest', captures'⟩
    have hrest := hab.rest
    dsimp only at hrest
    cases rest with
    | nil => contradiction
    | cons c rest =>
      rw [run_char_cons] at h
      rw [hrest, List.cons_append, run_char_cons]
      split at h
      · next hc =>
        have hstep : Embedded more ⟨some c, rest, captures⟩ ⟨some c, rest ++ '\n' :: more, captures'⟩ :=
          ⟨.inl rfl, rfl⟩
        rw [if_pos hc]
        exact hnext _ _ hstep h
      · contradiction
  | seq p q ihp ihq => exact ihp hp.1 (fun a b => ihq hp.2 hnext) hab h
  | alt p q ihp ihq =>
    rw [run, Option.isSome_or, Bool.or_eq_true] at h ⊢
    exact h.imp (ihp hp.1 hnext hab) (ihq hp.2 hnext hab)
  | star p ih =>
    -- A longer text only bounds the repetition later.
    refine isSome_repeatThen_of_embedded (ih hp) hnext ?_ hab h
    rw [hab.rest]
    simp
  | capture name p ih =>
    rw [run] at h ⊢
    refine ih hp ?_ hab h
    intro c d hcd
    exact hnext _ _ ⟨hcd.before, hcd.rest⟩
  | look holds =>
    rw [run] at h ⊢
    split at h
    · next hholds =>
      rw [if_pos (hp more a b hab hholds)]
      exact hnext a b hab h
    · contradiction

end Run

theorem embedded_start (front rest more : List Char) :
    Embedded more ⟨lastOf none front, rest, []⟩
      ⟨lastOf (some '\n') front, rest ++ '\n' :: more, []⟩ := by
  refine ⟨?_, rfl⟩
  cases front with
  | nil => exact .inr ⟨rfl, rfl⟩
  | cons c front => exact .inl rfl

/-
Where a local pattern occurs, it occurs still when lines are added before and after the text.
-/
theorem occursIn_between_lines {p : Pattern} (hp : p.Local) {cs : List Char} (h : p.occursIn cs = true)
    (above below : List Char) : p.occursIn (above ++ '\n' :: cs ++ '\n' :: below) = true := by
  rw [occursIn_iff] at h ⊢
  rcases h with ⟨front, rest, rfl, hrun⟩
  refine ⟨above ++ '\n' :: front, rest ++ '\n' :: below, by simp, ?_⟩
  rw [lastOf_append]
  exact isSome_run_of_embedded hp (fun _ _ _ _ => rfl) (embedded_start front rest below) hrun

end Playback.Pattern
