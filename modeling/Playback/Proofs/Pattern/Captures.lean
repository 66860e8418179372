import Playback.Proofs.Pattern.Run

/-!
This module contains where a match may get to and what it remembers on its way: the text under a name is
made of the characters that the pattern of that name takes.
-/

namespace Playback.Pattern

/--
Whether a pattern can take a match from one place to another.
-/
inductive Reaches : Pattern → Place → Place → Prop where
  | empty {a : Place} : Reaches .empty a a
  | char {accepts : Char → Bool} {c : Char} {rest : List Char} {a : Place}
      (ha : a.rest = c :: rest) (h : accepts c = true) :
      Reaches (.char accepts) a { a with before := some c, rest }
  | seq {p q : Pattern} {a b c : Place} (hp : Reaches p a b) (hq : Reaches q b c) :
      Reaches (.seq p q) a c
  | left {p q : Pattern} {a b : Place} (h : Reaches p a b) : Reaches (.alt p q) a b
  | right {p q : Pattern} {a b : Place} (h : Reaches q a b) : Reaches (.alt p q) a b
  | done {p : Pattern} {a : Place} : Reaches (.star p) a a
  | again {p : Pattern} {a b c : Place} (h : Reaches p a b) (hrest : Reaches (.star p) b c) :
      Reaches (.star p) a c
  | capture {name : String} {p : Pattern} {a b : Place} (h : Reaches p a b) :
      Reaches (.capture name p) a
        { b with captures := (name, a.rest.take (a.rest.length - b.rest.length)) :: b.captures }
  | look {holds : Option Char → List Char → Bool} {a : Place} (h : holds a.before a.rest = true) :
      Reaches (.look holds) a a

theorem exists_reaches_of_repeatThen {p : Pattern}
    (hp : ∀ {next : Place → Option Place} {a r : Place}, p.run next a = some r →
      ∃ b, Reaches p a b ∧ next b = some r)
    {next : Place → Option Place} {bound : List Char} {a r : Place}
    (h : repeatThen p.run next bound a = some r) : ∃ b, Reaches (.star p) a b ∧ next b = some r := by
  induction bound generalizing a with
  | nil => exact ⟨a, .done, h⟩
  | cons c bound ih =>
    rw [repeatThen, Option.or_eq_some_iff] at h
    rcases h with hagain | ⟨_, hdone⟩
    · rcases hp hagain with ⟨b, hb, hrest⟩
      rcases ih hrest with ⟨d, hd, hnext⟩
      exact ⟨d, .again hb hd, hnext⟩
    · exact ⟨a, .done, hdone⟩

theorem exists_reaches_of_run {p : Pattern} {next : Place → Option Place} {a r : Place}
    (h : p.run next a = some r) : ∃ b, Reaches p a b ∧ next b = some r := by
  induction p generalizing next a r with
  | empty => exact ⟨a, .empty, h⟩
  | char accepts =>
    unfold run at h
    split at h
    · contradiction
    · next c rest hrest =>
      split at h
      · next hc => exact ⟨_, .char hrest hc, h⟩
      · contradiction
  | seq p q ihp ihq =>
    rcases ihp h with ⟨b, hb, hrest⟩
    rcases ihq hrest with ⟨c, hc, hnext⟩
    exact ⟨c, .seq hb hc, hnext⟩
  | alt p q ihp ihq =>
    rw [run, Option.or_eq_some_iff] at h
    rcases h with hp | ⟨_, hq⟩
    · rcases ihp hp with ⟨b, hb, hnext⟩
      exact ⟨b, .left hb, hnext⟩
    · rcases ihq hq with ⟨b, hb, hnext⟩
      exact ⟨b, .right hb, hnext⟩
  | star p ih => exact exists_reaches_of_repeatThen ih h
  | capture name p ih =>
    rcases ih h with ⟨b, hb, hnext⟩
    exact ⟨_, .capture hb, hnext⟩
  | look holds =>
    rw [run] at h
    split at h
    · next hholds => exact ⟨a, .look hholds, h⟩
    · contradiction

theorem reaches_of_run {p : Pattern} {a r : Place} (h : p.run some a = some r) : Reaches p a r := by
  rcases exists_reaches_of_run h with ⟨b, hb, hnext⟩
  rw [Option.some_inj] at hnext
  rw [← hnext]
  exact hb

theorem reaches_of_matchAt? {p : Pattern} {cs : List Char} {place : Place}
    (h : p.matchAt? cs = some place) : Reaches p ⟨none, cs, []⟩ place :=
  reaches_of_run h

theorem reaches_of_search?_go {p : Pattern} {before : Option Char} {skipped count : Nat} {cs : List Char}
    {place : Place} (h : search?.go p before skipped cs = some (count, place)) :
    ∃ before cs, Reaches p ⟨before, cs, []⟩ place := by
  fun_induction search?.go p before skipped cs with
  | case1 _ _ _ _ hrun =>
    rw [Option.some_inj, Prod.mk.injEq] at h
    rw [← h.2]
    exact ⟨_, _, reaches_of_run hrun⟩
  | case2 => contradiction
  | case3 _ _ _ _ _ ih => exact ih h

def TakesOnly (good : Char → Prop) : Pattern → Prop
  | .empty => True
  | .char accepts => ∀ c, accepts c = true → good c
  | .seq p q => p.TakesOnly good ∧ q.TakesOnly good
  | .alt p q => p.TakesOnly good ∧ q.TakesOnly good
  | .star p => p.TakesOnly good
  | .capture _ p => p.TakesOnly good
  | .look _ => True

section TakesOnly

variable {good fine : Char → Prop}

theorem TakesOnly.imp {p : Pattern} (h : p.TakesOnly good) (hfine : ∀ c, good c → fine c) :
    p.TakesOnly fine := by
  induction p with
  | empty => trivial
  | char accepts => exact fun c hc => hfine c (h c hc)
  | seq p q ihp ihq => exact ⟨ihp h.1, ihq h.2⟩
  | alt p q ihp ihq => exact ⟨ihp h.1, ihq h.2⟩
  | star p ih => exact ih h
  | capture name p ih => exact ih h
  | look holds => trivial

theorem takesOnly_true (p : Pattern) : p.TakesOnly fun _ => True := by
  induction p with
  | empty => trivial
  | char accepts => exact fun _ _ => trivial
  | seq p q ihp ihq => exact ⟨ihp, ihq⟩
  | alt p q ihp ihq => exact ⟨ihp, ihq⟩
  | star p ih => exact ih
  | capture name p ih => exact ih
  | look holds => trivial

@[simp]
theorem takesOnly_append (p q : Pattern) :
    (p ++ q).TakesOnly good ↔ p.TakesOnly good ∧ q.TakesOnly good :=
  Iff.rfl

@[simp]
theorem takesOnly_opt (p : Pattern) : (opt p).TakesOnly good ↔ p.TakesOnly good := by
  simp [opt, TakesOnly]

@[simp]
theorem takesOnly_plus (p : Pattern) : (plus p).TakesOnly good ↔ p.TakesOnly good := by
  simp [plus, TakesOnly]

@[simp]
theorem takesOnly_text (s : String) : (text s).TakesOnly good ↔ ∀ c ∈ s.toList, good c := by
  unfold text
  induction s.toList with
  | nil => simp [TakesOnly]
  | cons c cs ih => simp [TakesOnly, ih]

theorem takesOnly_oneOf {words : List String} (h : ∀ w ∈ words, ∀ c ∈ w.toList, good c) :
    (oneOf words).TakesOnly good := by
  induction words with
  | nil => trivial
  | cons word words ih =>
    rw [List.forall_mem_cons] at h
    have hword := (takesOnly_text word).mpr h.1
    cases words with
    | nil => exact hword
    | cons other words => exact ⟨hword, ih h.2⟩

theorem takesOnly_identifier : identifier.TakesOnly (Text.isWordChar · = true) :=
  ⟨fun _ hc => Text.isWordChar_of_isIdentStart hc, fun _ hc => hc⟩

end TakesOnly

def CapturesOnly (name : String) (good : Char → Prop) : Pattern → Prop
  | .empty => True
  | .char _ => True
  | .seq p q => p.CapturesOnly name good ∧ q.CapturesOnly name good
  | .alt p q => p.CapturesOnly name good ∧ q.CapturesOnly name good
  | .star p => p.CapturesOnly name good
  | .capture other p => p.CapturesOnly name good ∧ (other = name → p.TakesOnly good)
  | .look _ => True

section CapturesOnly

variable {name : String} {good : Char → Prop}

@[simp]
theorem capturesOnly_append (p q : Pattern) :
    (p ++ q).CapturesOnly name good ↔ p.CapturesOnly name good ∧ q.CapturesOnly name good :=
  Iff.rfl

@[simp]
theorem capturesOnly_orElse (p q : Pattern) :
    (p <|> q).CapturesOnly name good ↔ p.CapturesOnly name good ∧ q.CapturesOnly name good :=
  Iff.rfl

@[simp]
theorem capturesOnly_opt (p : Pattern) :
    (opt p).CapturesOnly name good ↔ p.CapturesOnly name good := by
  simp [opt, CapturesOnly]

@[simp]
theorem capturesOnly_plus (p : Pattern) :
    (plus p).CapturesOnly name good ↔ p.CapturesOnly name good := by
  simp [plus, CapturesOnly]

@[simp]
theorem capturesOnly_text (s : String) : (text s).CapturesOnly name good := by
  unfold text
  induction s.toList with
  | nil => trivial
  | cons c cs ih => exact ⟨trivial, ih⟩

@[simp]
theorem capturesOnly_oneOf (words : List String) : (oneOf words).CapturesOnly name good := by
  induction words with
  | nil => trivial
  | cons word words ih =>
    cases words with
    | nil => exact capturesOnly_text word
    | cons other words => exact ⟨capturesOnly_text word, ih⟩

@[simp]
theorem capturesOnly_identifier : identifier.CapturesOnly name good :=
  ⟨trivial, trivial⟩

end CapturesOnly

namespace Reaches

variable {good : Char → Prop} {p : Pattern} {a b : Place}

theorem taken (h : Reaches p a b) (hp : p.TakesOnly good) :
    ∃ front, a.rest = front ++ b.rest ∧ ∀ c ∈ front, good c := by
  induction h with
  | empty => exact ⟨[], rfl, by simp⟩
  | @char accepts c rest a ha h => exact ⟨[c], ha, by simpa using hp c h⟩
  | seq _ _ ihp ihq =>
    rcases ihp hp.1 with ⟨front, heq, hfront⟩
    rcases ihq hp.2 with ⟨back, heq', hback⟩
    refine ⟨front ++ back, by rw [heq, heq', List.append_assoc], ?_⟩
    rw [List.forall_mem_append]
    exact ⟨hfront, hback⟩
  | left _ ih => exact ih hp.1
  | right _ ih => exact ih hp.2
  | done => exact ⟨[], rfl, by simp⟩
  | again _ _ ih ihrest =>
    rcases ih hp with ⟨front, heq, hfront⟩
    rcases ihrest hp with ⟨back, heq', hback⟩
    refine ⟨front ++ back, by rw [heq, heq', List.append_assoc], ?_⟩
    rw [List.forall_mem_append]
    exact ⟨hfront, hback⟩
  | capture _ ih => exact ih hp
  | look _ => exact ⟨[], rfl, by simp⟩

theorem captured? {name : String} (h : Reaches p a b) (hp : p.CapturesOnly name good)
    (ha : ∀ cs, a.captured? name = some cs → ∀ c ∈ cs, good c) :
    ∀ cs, b.captured? name = some cs → ∀ c ∈ cs, good c := by
  induction h with
  | empty => exact ha
  | char _ _ => exact ha
  | seq _ _ ihp ihq => exact ihq hp.2 (ihp hp.1 ha)
  | left _ ih => exact ih hp.1 ha
  | right _ ih => exact ih hp.2 ha
  | done => exact ha
  | again _ _ ih ihrest => exact ihrest hp (ih hp ha)
  | look _ => exact ha
  | @capture other p a b h ih =>
    intro cs hcs
    unfold Place.captured? at hcs
    rw [List.lookup_cons] at hcs
    split at hcs
    · next hname =>
      rcases h.taken (hp.2 (eq_of_beq hname).symm) with ⟨front, heq, hfront⟩
      rw [Option.some_inj, heq] at hcs
      rw [← hcs]
      simpa using hfront
    · exact ih hp.1 ha cs hcs

end Reaches

theorem Reaches.captured {p : Pattern} {name : String} {good : Char → Prop} {start place : Place}
    (h : Reaches p start place) (hstart : start.captures = []) (hp : p.CapturesOnly name good) :
    ∀ c ∈ place.captured name, good c := by
  have hcaptured := h.captured? hp (by simp [Place.captured?, hstart])
  unfold Place.captured
  cases hfound : place.captured? name with
  | none => simp
  | some found => exact hcaptured found hfound

end Playback.Pattern
