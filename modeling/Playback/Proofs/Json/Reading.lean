import Playback.Proofs.Json.Strings
import Playback.Proofs.Trace.Latest

/-!
This module contains what texts stand for values, and how the texts of parts are put together to the texts
of arrays and objects.
-/

namespace Playback.Json

open Text Reader

/--
What may follow a value inside a text: nothing, what ends an item, or a line break in front of that.
-/
def Ends (rest : List Char) : Prop :=
  ∀ c ∈ rest.head?, c = ',' ∨ c = ']' ∨ c = '\x7d' ∨ c = '\n'

theorem head?_toDigits_ne_zero {n : Nat} (h : 0 < n) : (Nat.toDigits 10 n).head? ≠ some '0' := by
  induction n using Nat.strongRecOn with
  | ind n ih =>
    by_cases hlt : n < 10
    · rw [Nat.toDigits_of_lt_base hlt]
      simp
      omega
    · rw [Nat.toDigits_of_base_le (by decide) (by omega), List.head?_append_of_ne_nil _ Nat.toDigits_ne_nil]
      exact ih (n / 10) (by omega) (by omega)

theorem isDigit_of_mem_toDigits {n : Nat} : ∀ c ∈ Nat.toDigits 10 n, c.isDigit = true := by
  intro c hc
  exact Nat.isDigit_of_mem_toDigits (by decide) (by decide) hc

namespace Ends

variable {rest : List Char}

@[elab_as_elim]
theorem elim {P : List Char → Prop} (h : Ends rest) (nil : P []) (comma : ∀ rest, P (',' :: rest))
    (bracket : ∀ rest, P (']' :: rest)) (brace : ∀ rest, P ('\x7d' :: rest))
    (lineBreak : ∀ rest, P ('\n' :: rest)) : P rest := by
  cases rest with
  | nil => exact nil
  | cons c rest =>
    rcases h c rfl with rfl | rfl | rfl | rfl
    · exact comma rest
    · exact bracket rest
    · exact brace rest
    · exact lineBreak rest

theorem digitRun_eq_nil (h : Ends rest) : digitRun rest = [] :=
  h.elim rfl (fun _ => rfl) (fun _ => rfl) (fun _ => rfl) (fun _ => rfl)

theorem fractionLength_eq_zero (h : Ends rest) : fractionLength rest = 0 :=
  h.elim rfl (fun _ => rfl) (fun _ => rfl) (fun _ => rfl) (fun _ => rfl)

theorem exponentLength_eq_zero (h : Ends rest) : exponentLength rest = 0 :=
  h.elim rfl (fun _ => rfl) (fun _ => rfl) (fun _ => rfl) (fun _ => rfl)

theorem digitRun_append (h : Ends rest) {ds : List Char} (hds : ∀ c ∈ ds, c.isDigit = true) :
    digitRun (ds ++ rest) = ds := by
  unfold digitRun
  rw [List.takeWhile_append_of_pos hds]
  have := h.digitRun_eq_nil
  unfold digitRun at this
  rw [this, List.append_nil]

end Ends

theorem head?_toDigits_append (n : Nat) (rest : List Char) :
    (Nat.toDigits 10 n ++ rest).head? = (Nat.toDigits 10 n).head? :=
  List.head?_append_of_ne_nil _ Nat.toDigits_ne_nil

theorem wholeDigits_toDigits (n : Nat) {rest : List Char} (hrest : Ends rest) :
    wholeDigits (Nat.toDigits 10 n ++ rest) = Nat.toDigits 10 n := by
  rcases Nat.eq_zero_or_pos n with rfl | hpos
  · rfl
  · rw [wholeDigits, hrest.digitRun_append isDigit_of_mem_toDigits]
    intro tail h
    apply head?_toDigits_ne_zero hpos
    rw [← head?_toDigits_append n rest, h]
    rfl

theorem takeMinus_toDigits (n : Nat) (rest : List Char) :
    takeMinus (Nat.toDigits 10 n ++ rest) = (false, Nat.toDigits 10 n ++ rest) := by
  rw [takeMinus]
  intro tail h
  have hhead : (Nat.toDigits 10 n).head? = some '-' := by
    rw [← head?_toDigits_append n rest, h]
    rfl
  have hdigit := isDigit_of_mem_toDigits '-' (List.mem_of_mem_head? hhead)
  contradiction

/-
Nothing that follows the digits can make them a part of a longer number.
-/
theorem number_of_takeMinus {cursor : Cursor} {minus : Bool} {n : Nat} {rest : List Char}
    (h : takeMinus cursor.rest = (minus, Nat.toDigits 10 n ++ rest))
    (hn : (Nat.toDigits 10 n).length ≤ maxDigits) (hrest : Ends rest) :
    Reader.number cursor
      =
    .ok
      (.int (if minus then -(n : Int) else n),
       cursor.advance ((if minus then 1 else 0) + (Nat.toDigits 10 n).length)) := by
  have hempty : (Nat.toDigits 10 n).isEmpty = false := by simp
  have hlength := Nat.not_lt.mpr hn
  unfold Reader.number
  rw [h]
  dsimp only
  rw [wholeDigits_toDigits n hrest, hempty, if_neg Bool.false_ne_true, List.drop_left,
    hrest.fractionLength_eq_zero, List.take_zero, List.length_nil, List.drop_zero,
    hrest.exponentLength_eq_zero, List.take_zero, List.isEmpty_nil, Bool.and_self, if_pos rfl,
    if_neg hlength, Record.digitsValue_toDigits]
  rfl

theorem number_int (n : Int) (position : Nat) {rest : List Char}
    (hn : (Nat.toDigits 10 n.natAbs).length ≤ maxDigits) (hrest : Ends rest) :
    Reader.number ⟨position, (toString n).toList ++ rest⟩
      =
    .ok (.int n, ⟨position + (toString n).toList.length, rest⟩) := by
  cases n with
  | ofNat n =>
    have htext : (toString (Int.ofNat n)).toList = Nat.toDigits 10 n := Nat.toList_repr
    rw [htext, number_of_takeMinus (takeMinus_toDigits n rest) hn hrest, Cursor.advance]
    simp
  | negSucc n =>
    have htext : (toString (Int.negSucc n)).toList = '-' :: Nat.toDigits 10 (n + 1) := by
      change ("-" ++ Nat.repr (n + 1)).toList = _
      rw [String.toList_append, Nat.toList_repr]
      rfl
    rw [htext, number_of_takeMinus (n := n + 1) rfl hn hrest, Cursor.advance]
    simp [Nat.add_comm 1, Int.negSucc_eq]

theorem ne_of_isDigit {c d : Char} (hc : c.isDigit = true) (hd : d.isDigit = false) : ¬ d = c := by
  rintro rfl
  rw [hc] at hd
  contradiction

theorem find?_keywords_of_digit {c : Char} (h : c.isDigit = true) (cs : List Char) :
    keywords.find? (fun keyword => keyword.1.isPrefixOf (c :: cs)) = none := by
  simp [keywords, ne_of_isDigit h]

theorem find?_keywords_of_minus {c : Char} (h : c.isDigit = true) (cs : List Char) :
    keywords.find? (fun keyword => keyword.1.isPrefixOf ('-' :: c :: cs)) = none := by
  simp [keywords, ne_of_isDigit h]

/--
Whether a text is nothing but the blanks and line breaks that a writer puts between two parts.
-/
def IsGap (gap : List Char) : Prop :=
  ∀ c ∈ gap, c = ' ' ∨ c = '\n'

def Solid (c : Char) : Prop :=
  c ≠ ' ' ∧ c ≠ '\t' ∧ c ≠ '\n' ∧ c ≠ '\r'
deriving Decidable

theorem isGap_nil : IsGap [] := by
  simp [IsGap]

theorem skipBlanks_gap {gap : List Char} (hgap : IsGap gap) {c : Char} (hc : Solid c) (position : Nat)
    (cs : List Char) :
    Cursor.skipBlanks ⟨position, gap ++ c :: cs⟩ = ⟨position + gap.length, c :: cs⟩ := by
  rcases hc with ⟨hspace, htab, hline, hreturn⟩
  unfold Cursor.skipBlanks
  dsimp only
  rw [List.takeWhile_append_of_pos]
  · simp [Cursor.advance, hspace, htab, hline, hreturn]
  · intro blank hblank
    rcases hgap blank hblank with rfl | rfl
    · rfl
    · rfl

theorem skipBlanks_solid {c : Char} (h : Solid c) (position : Nat) (cs : List Char) :
    Cursor.skipBlanks ⟨position, c :: cs⟩ = ⟨position, c :: cs⟩ :=
  skipBlanks_gap isGap_nil h position cs

def Opens (c : Char) : Prop :=
  Solid c ∧ c ≠ ']' ∧ c ≠ '\uFEFF'
deriving Decidable

theorem opens_of_isDigit {c : Char} (h : c.isDigit = true) : Opens c := by
  have hne : ∀ d : Char, d.isDigit = false → c ≠ d := by
    intro d hd heq
    exact ne_of_isDigit h hd heq.symm
  exact ⟨⟨hne ' ' rfl, hne '\t' rfl, hne '\n' rfl, hne '\r' rfl⟩, hne ']' rfl,
    hne '\uFEFF' rfl⟩

theorem toList_toString_int (n : Int) :
    (∃ c cs, (toString n).toList = c :: cs ∧ c.isDigit = true)
      ∨ ∃ c cs, (toString n).toList = '-' :: c :: cs ∧ c.isDigit = true := by
  have hdigits : ∀ m : Nat, ∃ c cs, Nat.toDigits 10 m = c :: cs ∧ c.isDigit = true := by
    intro m
    obtain ⟨c, cs, h⟩ := List.exists_cons_of_ne_nil (Nat.toDigits_ne_nil (n := m) (b := 10))
    refine ⟨c, cs, h, isDigit_of_mem_toDigits (n := m) c ?_⟩
    rw [h]
    exact List.mem_cons_self
  cases n with
  | ofNat n =>
    left
    rcases hdigits n with ⟨c, cs, h, hc⟩
    exact ⟨c, cs, (Nat.toList_repr).trans h, hc⟩
  | negSucc n =>
    right
    rcases hdigits (n + 1) with ⟨c, cs, h, hc⟩
    refine ⟨c, cs, ?_, hc⟩
    change ("-" ++ Nat.repr (n + 1)).toList = _
    rw [String.toList_append, Nat.toList_repr, h]
    rfl

theorem value_toString_int (fuel : Nat) (n : Int) (position : Nat) (rest : List Char) :
    Reader.value (fuel + 1) ⟨position, (toString n).toList ++ rest⟩
      =
    Reader.number ⟨position, (toString n).toList ++ rest⟩ := by
  rcases toList_toString_int n with ⟨c, cs, h, hc⟩ | ⟨c, cs, h, hc⟩
  · rw [h, List.cons_append, Reader.value]
    split
    · next heq => cases heq; contradiction
    · next heq => cases heq; contradiction
    · next heq => cases heq; contradiction
    · dsimp only
      rw [find?_keywords_of_digit hc]
  · rw [h, List.cons_append, List.cons_append, Reader.value]
    split
    · next heq => cases heq
    · next heq => cases heq
    · next heq => cases heq
    · dsimp only
      rw [find?_keywords_of_minus hc]

structure Stands (text : List Char) (json : Json) : Prop where
  head : ∃ c cs, text = c :: cs ∧ Opens c
  value : ∀ fuel position rest, Ends rest → 2 * text.length ≤ fuel →
    Reader.value fuel ⟨position, text ++ rest⟩ = .ok (json, ⟨position + text.length, rest⟩)

/-
A text has a character at least, so there is a step left to look at it.
-/
theorem Stands.of_succ {text : List Char} {json : Json} (head : ∃ c cs, text = c :: cs ∧ Opens c)
    (value : ∀ fuel position rest, Ends rest → 2 * text.length ≤ fuel + 1 →
      Reader.value (fuel + 1) ⟨position, text ++ rest⟩
        =
      .ok (json, ⟨position + text.length, rest⟩)) :
    Stands text json := by
  refine ⟨head, ?_⟩
  intro fuel position rest hrest hfuel
  rcases head with ⟨c, cs, rfl, _⟩
  rw [List.length_cons] at hfuel
  obtain ⟨fuel, rfl⟩ : ∃ k, fuel = k + 1 := ⟨fuel - 1, by omega⟩
  exact value fuel position rest hrest hfuel

/-
Whatever has been read, nothing but white space may stand around it.
-/
theorem Stands.read {text : String} {json : Json} (h : Stands text.toList json) :
    Json.read text = .ok json := by
  have hvalue := h.value _ 0 [] (by simp [Ends]) (Nat.le_add_right _ 2)
  rcases h.head with ⟨c, cs, hhead, hsolid, _, hmark⟩
  have hstart : (some c == some '\uFEFF') = false := by simpa using hmark
  rw [hhead, List.append_nil] at hvalue
  unfold Json.read
  dsimp only
  rw [hhead, List.head?_cons, hstart, if_neg Bool.false_ne_true, skipBlanks_solid hsolid, hvalue]
  rfl

theorem stands_of_word {json : Json} (c : Char) (cs : List Char) (hopens : Opens c)
    (hread : ∀ fuel position rest, Reader.value (fuel + 1) ⟨position, c :: cs ++ rest⟩
      = .ok (json, ⟨position + (c :: cs).length, rest⟩)) :
    Stands (c :: cs) json := by
  apply Stands.of_succ
  · exact ⟨c, cs, rfl, hopens⟩
  · intro fuel position rest _ _
    exact hread fuel position rest

theorem stands_int {n : Int} (h : (Nat.toDigits 10 n.natAbs).length ≤ maxDigits) :
    Stands (toString n).toList (.int n) := by
  apply Stands.of_succ
  · rcases toList_toString_int n with ⟨c, cs, hc, hdigit⟩ | ⟨c, cs, hc, _⟩
    · exact ⟨c, cs, hc, opens_of_isDigit hdigit⟩
    · exact ⟨'-', c :: cs, hc, by decide⟩
  · intro fuel position rest hrest _
    rw [value_toString_int, number_int n position h hrest]

theorem Quotes.stands {quote : List Char} {s : String} (h : Quotes quote s) : Stands quote (.str s) := by
  rcases h.head with ⟨cs, hquote⟩
  apply Stands.of_succ
  · exact ⟨'"', cs, hquote, by decide⟩
  · intro fuel position rest _ _
    rw [hquote, List.cons_append, Reader.value]
    simp only [bind, Except.bind]
    rw [← List.cons_append, ← hquote, h.string]
    rfl

def separated (pause : List Char) (texts : List (List Char)) : List Char :=
  texts.flatMap fun text => ',' :: (pause ++ text)

theorem separated_cons (pause text : List Char) (texts : List (List Char)) :
    separated pause (text :: texts) = ',' :: (pause ++ (text ++ separated pause texts)) := by
  simp [separated]

section Containers

variable {front pause gap : List Char}

theorem items_succ {text : List Char} {item : Json} (hitem : Stands text item) (fuel : Nat)
    (done : List Json) (position : Nat) (hgap : IsGap gap) {c : Char} (hc : Solid c) {after : List Char}
    (hafter : Ends (gap ++ c :: after)) (hfuel : 2 * text.length ≤ fuel) :
    Reader.items (fuel + 1) done ⟨position, text ++ (gap ++ c :: after)⟩
      =
    let cursor : Cursor := ⟨position + text.length + gap.length, c :: after⟩
    match cursor.rest with
    | ']' :: _ => .ok (.arr (item :: done).reverse, cursor.advance 1)
    | ',' :: _ => Reader.items fuel (item :: done) (cursor.advance 1).skipBlanks
    | _ => cursor.fail .comma := by
  rw [Reader.items, hitem.value fuel position _ hafter hfuel]
  dsimp only [bind, Except.bind]
  rw [skipBlanks_gap hgap hc]
  rfl

theorem items_separated {text : List Char} {item : Json} {texts : List (List Char)} {items : List Json}
    (hitem : Stands text item) (hitems : List.Forall₂ Stands texts items) (fuel : Nat)
    (done : List Json) (position : Nat) (hpause : IsGap pause) (hgap : IsGap gap) {rest : List Char}
    (hrest : Ends (gap ++ ']' :: rest))
    (hfuel : 2 * (text.length + (separated pause texts).length) + 1 ≤ fuel) :
    Reader.items fuel done ⟨position, text ++ (separated pause texts ++ (gap ++ ']' :: rest))⟩
      =
    .ok
      (.arr (done.reverse ++ item :: items),
       ⟨position + (text.length + (separated pause texts).length + gap.length + 1), rest⟩) := by
  obtain ⟨fuel, rfl⟩ : ∃ k, fuel = k + 1 := ⟨fuel - 1, by omega⟩
  -- Each item takes one unit of fuel, which its separator makes up for.
  induction hitems generalizing text item fuel done position with
  | nil =>
    have hnil : separated pause [] = [] := rfl
    rw [hnil, List.nil_append, items_succ hitem _ _ _ hgap (by decide) hrest (by omega)]
    simp [Cursor.advance, Nat.add_assoc]
  | cons hnext hitems ih =>
    rw [separated_cons] at hfuel ⊢
    simp only [List.length_append, List.length_cons] at hfuel ⊢
    obtain ⟨fuel, rfl⟩ : ∃ k, fuel = k + 1 := ⟨fuel - 1, by omega⟩
    rcases hnext.head with ⟨c, cs, hhead, hsolid, _⟩
    have hcomma : ∀ after, Ends ([] ++ ',' :: after) := by simp [Ends]
    rw [List.cons_append, ← List.nil_append (',' :: _),
      items_succ hitem _ _ _ isGap_nil (by decide) (hcomma _) (by omega)]
    -- The reader passes over what stands in front of the next item.
    simp only [Cursor.advance, List.drop_succ_cons, List.drop_zero, List.append_assoc]
    rw [hhead, List.cons_append, skipBlanks_gap hpause hsolid, ← List.cons_append, ← hhead,
      ih hnext _ _ _ (by omega), List.reverse_cons, List.append_assoc, List.singleton_append]
    exact ok_congr_position (by simp; omega)

theorem stands_arr {text : List Char} {item : Json} {texts : List (List Char)} {items : List Json}
    (hfront : IsGap front) (hpause : IsGap pause) (hgap : IsGap gap)
    (hends : ∀ rest, Ends (gap ++ ']' :: rest)) (hitem : Stands text item)
    (hitems : List.Forall₂ Stands texts items) :
    Stands ('[' :: (front ++ (text ++ (separated pause texts ++ (gap ++ [']']))))) (.arr (item :: items)) := by
  apply Stands.of_succ
  · exact ⟨'[', _, rfl, by decide⟩
  · intro fuel position rest _ hfuel
    simp only [List.length_cons, List.length_append, List.length_nil] at hfuel ⊢
    have hread := items_separated hitem hitems fuel [] (position + 1 + front.length) hpause hgap
      (hends rest) (by omega)
    rcases hitem.head with ⟨c, cs, hhead, hsolid, hclose, _⟩
    rw [hhead, List.cons_append] at hread
    rw [Reader.value]
    simp only [Cursor.advance, List.cons_append, List.append_assoc, List.nil_append,
      List.drop_succ_cons, List.drop_zero]
    rw [hhead, List.cons_append, skipBlanks_gap hfront hsolid]
    -- A list is taken for an empty one only if no item begins behind its bracket.
    split
    · next heq => exact absurd (List.cons.inj heq).1 hclose
    · rw [hread, List.reverse_nil, List.nil_append]
      exact ok_congr_position (by simp; omega)

inductive StandsField : List Char → String × Json → Prop where
  | mk {quote blank text : List Char} {name : String} {item : Json} (hname : Quotes quote name)
      (hblank : IsGap blank) (hitem : Stands text item) :
      StandsField (quote ++ ':' :: (blank ++ text)) (name, item)

theorem StandsField.head {text : List Char} {field : String × Json} (h : StandsField text field) :
    ∃ cs, text = '"' :: cs := by
  rcases h with ⟨hname, _, _⟩
  rcases hname.head with ⟨cs, rfl⟩
  exact ⟨_, rfl⟩

theorem fields_succ {text : List Char} {field : String × Json} (hfield : StandsField text field)
    (fuel : Nat) (done : Fields) (position : Nat) (hgap : IsGap gap) {c : Char} (hc : Solid c)
    {after : List Char} (hafter : Ends (gap ++ c :: after)) (hfuel : 2 * text.length ≤ fuel) :
    Reader.fields (fuel + 1) done ⟨position, text ++ (gap ++ c :: after)⟩
      =
    let cursor : Cursor := ⟨position + text.length + gap.length, c :: after⟩
    match cursor.rest with
    | '\x7d' :: _ => .ok (.obj (done.set field.1 field.2), cursor.advance 1)
    | ',' :: _ => Reader.fields fuel (done.set field.1 field.2) (cursor.advance 1).skipBlanks
    | _ => cursor.fail .comma := by
  rcases hfield with @⟨quote, blank, text, name, item, hname, hblank, hitem⟩
  rcases hname.head with ⟨cs, hquote⟩
  rcases hitem.head with ⟨first, tail, hhead, hsolid, _⟩
  have hposition : position + quote.length + 1 + blank.length + text.length + gap.length
      = position + (quote ++ ':' :: (blank ++ text)).length + gap.length := by
    simp only [List.length_append, List.length_cons]
    omega
  simp only [List.length_append, List.length_cons] at hfuel
  rw [← hposition, List.append_assoc, hquote, List.cons_append, Reader.fields]
  simp only [bind, Except.bind]
  rw [← List.cons_append, ← hquote, hname.string]
  dsimp only
  rw [List.cons_append, skipBlanks_solid (by decide)]
  simp only [Cursor.advance, List.drop_succ_cons, List.drop_zero, List.append_assoc]
  -- The value follows the colon.
  rw [hhead, List.cons_append, skipBlanks_gap hblank hsolid, ← List.cons_append, ← hhead,
    hitem.value fuel _ _ hafter (by omega)]
  dsimp only
  rw [skipBlanks_gap hgap hc]
  rfl

theorem set_of_nodup {done fields : Fields} {name : String} {item : Json}
    (h : ((done ++ (name, item) :: fields).map Prod.fst).Nodup) :
    done.set name item = done ++ [(name, item)] := by
  have hnew : name ∉ done.map Prod.fst := by
    rw [List.map_append, List.map_cons, List.nodup_append] at h
    intro hmem
    exact h.2.2 name hmem name List.mem_cons_self rfl
  have hupsert := upsert_append_of_not_mem Prod.fst (name, item) done [] hnew
  rw [List.append_nil] at hupsert
  rw [Fields.set_eq_upsert, hupsert]
  rfl

theorem fields_separated {text : List Char} {field : String × Json} {texts : List (List Char)}
    {fields : Fields} (hfield : StandsField text field) (hfields : List.Forall₂ StandsField texts fields)
    (fuel : Nat) (done : Fields) (position : Nat) (hpause : IsGap pause) (hgap : IsGap gap)
    {rest : List Char} (hrest : Ends (gap ++ '\x7d' :: rest))
    (hnames : ((done ++ field :: fields).map Prod.fst).Nodup)
    (hfuel : 2 * (text.length + (separated pause texts).length) + 1 ≤ fuel) :
    Reader.fields fuel done ⟨position, text ++ (separated pause texts ++ (gap ++ '\x7d' :: rest))⟩
      =
    .ok
      (.obj (done ++ field :: fields),
       ⟨position + (text.length + (separated pause texts).length + gap.length + 1), rest⟩) := by
  obtain ⟨fuel, rfl⟩ : ∃ k, fuel = k + 1 := ⟨fuel - 1, by omega⟩
  induction hfields generalizing text field fuel done position with
  | nil =>
    have hnil : separated pause [] = [] := rfl
    rw [hnil, List.nil_append, fields_succ hfield _ _ _ hgap (by decide) hrest (by omega)]
    dsimp only
    rw [set_of_nodup hnames, Cursor.advance]
    simp only [List.drop_succ_cons, List.drop_zero, List.length_nil]
    exact ok_congr_position (by omega)
  | @cons nextText next texts fields hnext hfields ih =>
    have hadded : ((done ++ [field] ++ next :: fields).map Prod.fst).Nodup := by
      rw [List.append_assoc]
      exact hnames
    rw [separated_cons] at hfuel ⊢
    simp only [List.length_append, List.length_cons] at hfuel ⊢
    obtain ⟨fuel, rfl⟩ : ∃ k, fuel = k + 1 := ⟨fuel - 1, by omega⟩
    rcases hnext.head with ⟨cs, hhead⟩
    -- The comma ends the value of the field, with no gap in front of it.
    have hcomma : ∀ after, Ends ([] ++ ',' :: after) := by simp [Ends]
    rw [List.cons_append, ← List.nil_append (',' :: _),
      fields_succ hfield _ _ _ isGap_nil (by decide) (hcomma _) (by omega)]
    simp only [Cursor.advance, List.drop_succ_cons, List.drop_zero, List.append_assoc]
    rw [set_of_nodup hnames, hhead, List.cons_append, skipBlanks_gap hpause (by decide),
      ← List.cons_append, ← hhead, ih hnext _ _ hadded _ (by omega), List.append_assoc,
      List.singleton_append]
    exact ok_congr_position (by simp; omega)

theorem stands_obj {text : List Char} {field : String × Json} {texts : List (List Char)}
    {fields : Fields} (hfront : IsGap front) (hpause : IsGap pause) (hgap : IsGap gap)
    (hends : ∀ rest, Ends (gap ++ '\x7d' :: rest)) (hnames : ((field :: fields).map Prod.fst).Nodup)
    (hfield : StandsField text field) (hfields : List.Forall₂ StandsField texts fields) :
    Stands ('\x7b' :: (front ++ (text ++ (separated pause texts ++ (gap ++ ['\x7d'])))))
      (.obj (field :: fields)) := by
  apply Stands.of_succ
  · exact ⟨'\x7b', _, rfl, by decide⟩
  · intro fuel position rest _ hfuel
    simp only [List.length_cons, List.length_append, List.length_nil] at hfuel ⊢
    have hread := fields_separated hfield hfields fuel [] (position + 1 + front.length) hpause hgap
      (hends rest) hnames (by omega)
    rcases hfield.head with ⟨cs, hhead⟩
    rw [hhead, List.cons_append] at hread
    rw [Reader.value]
    simp only [Cursor.advance, List.cons_append, List.append_assoc, List.nil_append,
      List.drop_succ_cons, List.drop_zero]
    rw [hhead, List.cons_append, skipBlanks_gap hfront (by decide)]
    split
    · next heq => cases heq
    · rw [hread, List.nil_append]
      exact ok_congr_position (by simp; omega)

end Containers

end Playback.Json
