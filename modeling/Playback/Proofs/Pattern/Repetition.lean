import Playback.Proofs.Pattern.Captures

/-!
This module contains the law of repetition: a pattern that takes at least one character is matched once
more, or the match goes on behind what has been repeated so far.
-/

namespace Playback.Pattern

theorem Reaches.length_le {p : Pattern} {a b : Place} (h : Reaches p a b) :
    b.rest.length ≤ a.rest.length := by
  rcases h.taken (takesOnly_true p) with ⟨front, heq, _⟩
  simp [heq]

theorem repeatThen_congr {p : Pattern}
    (hp : ∀ {next other : Place → Option Place} {a : Place},
      (∀ b, Reaches p a b → next b = other b) → p.run next a = p.run other a)
    {next other : Place → Option Place} {bound : List Char} {a : Place}
    (h : ∀ b, Reaches (.star p) a b → next b = other b) :
    repeatThen p.run next bound a = repeatThen p.run other bound a := by
  induction bound generalizing a with
  | nil => exact h a .done
  | cons c bound ih =>
    rw [repeatThen, repeatThen, h a .done]
    congr 1
    exact hp fun b hb => ih fun d hd => h d (.again hb hd)

/-
A match depends on what follows only at the places that it can get to.
-/
theorem run_congr {p : Pattern} {next other : Place → Option Place} {a : Place}
    (h : ∀ b, Reaches p a b → next b = other b) : p.run next a = p.run other a := by
  induction p generalizing next other a with
  | empty => exact h a .empty
  | char accepts =>
    rcases a with ⟨before, rest, captures⟩
    cases rest with
    | nil => rfl
    | cons c rest =>
      rw [run_char_cons, run_char_cons]
      split
      · next hc => exact h _ (.char rfl hc)
      · rfl
  | seq p q ihp ihq => exact ihp fun b hb => ihq fun c hc => h c (.seq hb hc)
  | alt p q ihp ihq =>
    rw [run, run, ihp fun b hb => h b (.left hb), ihq fun b hb => h b (.right hb)]
  | star p ih => exact repeatThen_congr ih h
  | capture name p ih => exact ih fun b hb => h _ (.capture hb)
  | look holds =>
    rw [run, run]
    split
    · next hholds => exact h a (.look hholds)
    · rfl

def Consumes (p : Pattern) : Prop :=
  ∀ a b, Reaches p a b → b.rest.length < a.rest.length

theorem repeatThen_eq {p : Pattern} (hp : p.Consumes) {next : Place → Option Place}
    {bound : List Char} {a : Place} (hbound : a.rest.length ≤ bound.length) :
    repeatThen p.run next bound a = (p.run ((star p).run next) a).or (next a) := by
  -- Every repetition takes a character, so the bound lasts as long as the text.
  induction hlength : bound.length using Nat.strongRecOn generalizing bound a with
  | ind n ih =>
    cases bound with
    | nil =>
      have hnone : p.run ((star p).run next) a = none := by
        rw [Option.eq_none_iff_forall_ne_some]
        intro r hr
        rcases exists_reaches_of_run hr with ⟨b, hb, _⟩
        have hless := hp a b hb
        rw [List.length_nil] at hbound
        omega
      rw [hnone, Option.none_or]
      rfl
    | cons c bound =>
      rw [repeatThen]
      congr 1
      apply run_congr
      intro b hb
      have hless := hp a b hb
      rw [List.length_cons] at hbound hlength
      rw [run, ih bound.length (by omega) (by omega) rfl, ih b.rest.length (by omega) (Nat.le_refl _) rfl]

/-
A repetition takes its pattern once more or goes on.
-/
theorem run_star_eq {p : Pattern} (hp : p.Consumes) {next : Place → Option Place} (a : Place) :
    (star p).run next a = (p.run ((star p).run next) a).or (next a) :=
  repeatThen_eq hp (Nat.le_refl _)

theorem consumes_char (accepts : Char → Bool) : (char accepts).Consumes := by
  intro a b h
  cases h with
  | char ha _ => simp [ha]

theorem consumes_blank : blank.Consumes :=
  consumes_char Text.isBlank

theorem Consumes.append_left {p : Pattern} (h : p.Consumes) (q : Pattern) : (p ++ q).Consumes := by
  intro a c hreach
  cases hreach with
  | seq hp hq =>
    have hless := h _ _ hp
    have hle := hq.length_le
    omega

theorem consumes_text {s : String} (h : s.toList ≠ []) : (text s).Consumes := by
  unfold text
  cases hs : s.toList with
  | nil => contradiction
  | cons c cs => exact (consumes_char (· == c)).append_left _

theorem Consumes.append_right {q : Pattern} (h : q.Consumes) (p : Pattern) : (p ++ q).Consumes := by
  intro a c hreach
  cases hreach with
  | seq hp hq =>
    have hless := h _ _ hq
    have hle := hp.length_le
    omega

theorem Consumes.plus {p : Pattern} (h : p.Consumes) : (plus p).Consumes := by
  intro a c hreach
  cases hreach with
  | seq hp hstar =>
    have hless := h _ _ hp
    have hle := hstar.length_le
    omega

end Playback.Pattern
