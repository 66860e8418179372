import Playback.Proofs.Java.Recognition

/-!
This module contains what the lines of the Java fragment are made of: which words are in them, and which
signs.
-/

namespace Playback.Java

open Pattern Source

section Words

/--
Whether a word is free or one of the given keywords. A primitive type is always allowed.
-/
def Known (keywords : List String) (word : List Char) : Prop :=
  isAmong reserved word = false ∨ isAmong (primitives ++ keywords) word = true

def Worded (keywords : List String) (cs : List Char) : Prop :=
  ∀ word ∈ runs cs, Known keywords word

variable {keywords : List String}

theorem Worded.append_cons {front rest : List Char} {c : Char} (hc : Text.isWordChar c = false)
    (hfront : Worded keywords front) (hrest : Worded keywords rest) :
    Worded keywords (front ++ c :: rest) := by
  unfold Worded
  rw [runs_append_cons hc, List.forall_mem_append]
  exact ⟨hfront, hrest⟩

theorem Worded.nil : Worded keywords [] := by
  unfold Worded
  rw [runs_word (by simp), List.forall_mem_singleton]
  exact .inl (by decide)

theorem Worded.cons {rest : List Char} {c : Char} (hc : Text.isWordChar c = false)
    (hrest : Worded keywords rest) : Worded keywords (c :: rest) :=
  append_cons hc nil hrest

theorem Worded.keyword {word : List Char} (hword : ∀ c ∈ word, Text.isWordChar c = true)
    (hmem : isAmong keywords word = true) : Worded keywords word := by
  unfold Worded
  rw [runs_word hword, List.forall_mem_singleton]
  right
  simp only [isAmong, List.contains_iff_mem, List.mem_append] at hmem ⊢
  exact .inr hmem

theorem Worded.behindKeyword (word : List Char) {rest : List Char} {c : Char}
    (hword : ∀ c ∈ word, Text.isWordChar c = true) (hmem : isAmong keywords word = true)
    (hc : Text.isWordChar c = false) (hrest : Worded keywords rest) :
    Worded keywords (word ++ c :: rest) :=
  append_cons hc (keyword hword hmem) hrest

theorem Worded.name {x : Name} (h : '$' ∉ x.chars) : Worded keywords x.chars := by
  have hfree : FreeWord reserved x.chars := x.freeWord (by grind)
  unfold Worded
  rw [runs_word hfree.isWordChar, List.forall_mem_singleton]
  exact .inl hfree.free

theorem Worded.operand {e : Operand} (h : '$' ∉ e.chars) : Worded keywords e.chars :=
  fun word hword => .inl ((e.freeText (by grind)).free word hword)

theorem isWordChar_primitives : ∀ word ∈ primitives, ∀ c ∈ word.toList, Text.isWordChar c = true := by
  decide

theorem Worded.type {type : TypeName} (h : '$' ∉ type.chars) : Worded keywords type.chars := by
  cases type with
  | primitive word hword =>
    unfold Worded TypeName.chars
    rw [runs_word (isWordChar_primitives word hword), List.forall_mem_singleton]
    right
    simp [isAmong, hword]
  | named x => exact .name h

theorem Worded.parameter {p : Parameter} (h : '$' ∉ p.code) : Worded keywords p.code := by
  simp only [Parameter.code, List.append_assoc, List.singleton_append, List.mem_append, List.mem_cons,
    not_or] at h ⊢
  exact append_cons rfl (.type h.1) (.name h.2.2)

/-
What holds of every parameter, and of lists that are put together, holds of a parameter list.
-/
theorem parameters_induction {P : List Char → Prop} (hnil : P [])
    (hone : ∀ p : Parameter, '$' ∉ p.code → P p.code)
    (happend : ∀ front rest, P front → P rest → P (front ++ ',' :: ' ' :: rest))
    {parameters : List Parameter} (h : '$' ∉ [',', ' '].intercalate (parameters.map Parameter.code)) :
    P ([',', ' '].intercalate (parameters.map Parameter.code)) := by
  induction parameters with
  | nil => exact hnil
  | cons p parameters ih =>
    cases parameters with
    | nil =>
      rw [List.map_cons, List.map_nil, List.intercalate_singleton] at h ⊢
      exact hone p h
    | cons q parameters =>
      rw [List.map_cons, List.map_cons, List.intercalate_cons_cons, ← List.map_cons] at h ⊢
      simp only [List.append_assoc, List.cons_append, List.nil_append, List.mem_append, List.mem_cons,
        not_or] at h ⊢
      exact happend _ _ (hone p h.1) (ih h.2.2.2)

theorem Worded.parameters {parameters : List Parameter}
    (h : '$' ∉ [',', ' '].intercalate (parameters.map Parameter.code)) :
    Worded keywords ([',', ' '].intercalate (parameters.map Parameter.code)) :=
  parameters_induction .nil (fun _ => .parameter)
    (fun _ _ hfront hrest => append_cons rfl hfront (cons rfl hrest)) h

theorem Worded.binding {x : Name} {e : Operand} (h : '$' ∉ binding x e) :
    Worded keywords (binding x e) := by
  simp only [Java.binding, List.append_assoc, List.cons_append, List.nil_append, List.mem_append,
    List.mem_cons, not_or] at h ⊢
  exact append_cons rfl (.name h.1) (cons rfl (cons rfl (append_cons rfl (.operand h.2.2.2.2.1) .nil)))

end Words

def Line.keywords : Line → List String
  | classHeader _ => ["class"]
  | statement (.returning _) => ["return"]
  | ifHeader _ => ["if"]
  | whileHeader _ => ["while"]
  | _ => []

theorem Line.worded (line : Line) (h : '$' ∉ line.code) : Worded line.keywords line.code := by
  cases line with
  | classHeader c =>
    simp [Line.code] at h
    change Worded ["class"] _
    exact .behindKeyword ['c', 'l', 'a', 's', 's'] (by decide) (by decide) rfl
      (.append_cons rfl (.name h) (.cons rfl .nil))
  | field type f e =>
    simp [Line.code] at h
    simp only [Line.code, List.append_assoc, List.singleton_append]
    exact .append_cons rfl (.type h.1) (.binding h.2)
  | methodHeader type m parameters =>
    simp [Line.code] at h
    simp only [Line.code, List.append_assoc, List.cons_append, List.nil_append]
    exact .append_cons rfl (.type h.1) (.append_cons rfl (.name h.2.1)
      (.append_cons rfl (.parameters h.2.2) (.cons rfl (.cons rfl .nil))))
  | statement s =>
    cases s with
    | declaration type x e =>
      simp [Line.code, Statement.code] at h
      simp only [Line.code, Statement.code, List.append_assoc, List.singleton_append]
      exact .append_cons rfl (.type h.1) (.binding h.2)
    | assignment x e => exact .binding h
    | increment x =>
      simp [Line.code, Statement.code] at h
      exact .append_cons rfl (.name h) (.cons rfl (.cons rfl .nil))
    | call m e =>
      simp [Line.code, Statement.code] at h
      simp only [Line.code, Statement.code, List.append_assoc, List.singleton_append]
      exact .append_cons rfl (.name h.1) (.append_cons rfl (.operand h.2) (.cons rfl .nil))
    | returning e =>
      simp [Line.code, Statement.code] at h
      change Worded ["return"] _
      exact .behindKeyword ['r', 'e', 't', 'u', 'r', 'n'] (by decide) (by decide) rfl
        (.append_cons rfl (.operand h) .nil)
  | ifHeader e =>
    simp [Line.code] at h
    change Worded ["if"] _
    exact .behindKeyword ['i', 'f'] (by decide) (by decide) rfl
      (.cons rfl (.append_cons rfl (.operand h) (.cons rfl (.cons rfl .nil))))
  | whileHeader e =>
    simp [Line.code] at h
    change Worded ["while"] _
    exact .behindKeyword ['w', 'h', 'i', 'l', 'e'] (by decide) (by decide) rfl
      (.cons rfl (.append_cons rfl (.operand h) (.cons rfl (.cons rfl .nil))))
  | closing => exact .cons rfl .nil

section Avoids

variable {keywords words : List String} {code : List Char} (h : Worded keywords code)
  (hreserved : ∀ w ∈ words, w ∈ reserved) (hother : ∀ w ∈ words, w ∉ primitives ++ keywords)
include h hreserved hother

theorem Worded.avoids : ∀ word ∈ runs code, isAmong words word = false := by
  intro word hword
  rw [Bool.eq_false_iff]
  intro hmem
  unfold isAmong at hmem
  rw [List.contains_iff_mem] at hmem
  rcases h word hword with hfree | hknown
  · rw [isAmong, List.contains_iff_mem.mpr (hreserved _ hmem)] at hfree
    contradiction
  · rw [isAmong, List.contains_iff_mem] at hknown
    exact hother _ hmem hknown

theorem Worded.avoids_firstWord : isAmong words (firstWord code) = false := by
  by_cases hfirst : firstWord code = []
  · rw [hfirst, Bool.eq_false_iff]
    intro hmem
    rw [isAmong, List.contains_iff_mem] at hmem
    exact absurd (hreserved _ hmem) (by decide)
  · exact h.avoids hreserved hother _ (firstWord_mem_runs hfirst)

end Avoids

structure Tame (next : List Char) : Prop where
  word : isAmong ["else", "catch", "finally"] (firstWord next) = false
  start : startsWithAny ["super(", "this("] next = false

theorem Worded.not_prefix {keywords : List String} {code : List Char} (h : Worded keywords code)
    (word : List Char) (hword : ∀ c ∈ word, Text.isWordChar c = true) (hreserved : String.ofList word ∈ reserved)
    (hother : String.ofList word ∉ primitives ++ keywords) {c : Char} (hc : Text.isWordChar c = false) :
    ¬ word ++ [c] <+: code := by
  rintro ⟨rest, rfl⟩
  have hmem := @mem_runs [] word (c :: rest) hword rfl (by simpa using hc)
  rw [List.nil_append] at hmem
  have havoids : isAmong [String.ofList word] word = false :=
    h.avoids (by simpa using hreserved) (by simpa using hother) word (by simpa using hmem)
  simp [isAmong] at havoids

/-
A word that is neither a type nor one of the keywords of the fragment is none of the keywords of a line.
-/
theorem not_mem_keywords {keywords : List String}
    (hkeywords : keywords ⊆ ["class", "return", "if", "while"]) (words : List String)
    (hwords : ∀ w ∈ words, w ∉ primitives ++ ["class", "return", "if", "while"]) :
    ∀ w ∈ words, w ∉ primitives ++ keywords := by
  intro w hw hmem
  apply hwords w hw
  rw [List.mem_append] at hmem ⊢
  exact hmem.imp_right fun h => hkeywords h

theorem Worded.tame {keywords : List String} {code : List Char} (h : Worded keywords code)
    (hkeywords : keywords ⊆ ["class", "return", "if", "while"]) : Tame code where
  word := h.avoids_firstWord (by decide) (not_mem_keywords hkeywords _ (by decide))
  start := by
    have hother := not_mem_keywords hkeywords ["super", "this"] (by decide)
    have hsuper := h.not_prefix ['s', 'u', 'p', 'e', 'r'] (by decide) (by decide)
      (hother "super" (by decide)) (c := '(') rfl
    have hthis := h.not_prefix ['t', 'h', 'i', 's'] (by decide) (by decide)
      (hother "this" (by decide)) (c := '(') rfl
    rw [← List.isPrefixOf_iff_prefix, Bool.not_eq_true] at hsuper hthis
    simpa [startsWithAny] using ⟨hsuper, hthis⟩

section Signs

theorem Name.freeWord {x : Name} (h : '$' ∉ x.chars) : FreeWord reserved x.chars :=
  Source.Name.freeWord (by grind)

theorem madeOf_name {x : Name} (h : '$' ∉ x.chars) {signs : List Char} : MadeOf signs x.chars :=
  .of_word (Name.freeWord h).isWordChar

theorem TypeName.isWordChar {type : TypeName} (h : '$' ∉ type.chars) :
    ∀ c ∈ type.chars, Text.isWordChar c = true := by
  cases type with
  | primitive word hword => exact isWordChar_primitives word hword
  | named x => exact (Name.freeWord h).isWordChar

theorem TypeName.ne_nil (type : TypeName) : type.chars ≠ [] := by
  cases type with
  | primitive word hword =>
    have hne : ∀ word ∈ primitives, word.toList ≠ [] := by decide
    exact hne word hword
  | named x =>
    intro hnil
    have hstarts := x.starts
    rw [show x.chars = [] from hnil] at hstarts
    contradiction

theorem TypeName.ne_final (type : TypeName) : type.chars ≠ "final".toList := by
  cases type with
  | primitive word hword =>
    have hne : ∀ word ∈ primitives, word.toList ≠ "final".toList := by decide
    exact hne word hword
  | named x =>
    intro hfinal
    have hfree := x.free
    rw [show x.chars = "final".toList from hfinal] at hfree
    revert hfree
    decide

theorem madeOf_operand {e : Operand} (h : '$' ∉ e.chars) {signs : List Char}
    (hsigns : [' ', '+', '<'] ⊆ signs) : MadeOf signs e.chars :=
  (Operand.freeText (by grind)).madeOf.of_subset hsigns

theorem madeOf_parameters {parameters : List Parameter}
    (h : '$' ∉ [',', ' '].intercalate (parameters.map Parameter.code)) :
    MadeOf [' ', ','] ([',', ' '].intercalate (parameters.map Parameter.code)) := by
  refine parameters_induction .nil (fun p hp => ?_) (fun front rest hfront hrest => ?_) h
  · simp only [Parameter.code, List.append_assoc, List.singleton_append, List.mem_append, List.mem_cons,
      not_or] at hp ⊢
    exact .append (.of_word (TypeName.isWordChar hp.1)) (.cons (by decide) (madeOf_name hp.2.2))
  · exact hfront.append (.cons (by decide) (.cons (by decide) hrest))

theorem madeOf_binding {x : Name} {e : Operand} (h : '$' ∉ binding x e) :
    MadeOf [' ', '+', '<', '=', ';'] (binding x e) := by
  simp [binding] at h ⊢
  exact (madeOf_name h.1).append (.cons (by decide) (.cons (by decide) (.cons (by decide)
    ((madeOf_operand h.2 (by decide)).append (.cons (by decide) .nil)))))

/-
A line that is no header and closes no brace has no brace in it.
-/
theorem Statement.madeOf {s : Statement} (h : '$' ∉ s.code) :
    MadeOf [' ', '+', '<', '=', ';', '(', ')'] s.code := by
  cases s with
  | declaration type x e =>
    simp [Statement.code] at h ⊢
    exact .append (.of_word (TypeName.isWordChar h.1))
      (.cons (by decide) ((madeOf_binding h.2).of_subset (by decide)))
  | assignment x e => exact (madeOf_binding h).of_subset (by decide)
  | increment x =>
    simp [Statement.code] at h
    exact (madeOf_name h).append (.cons (by decide) (.cons (by decide) (.cons (by decide) .nil)))
  | call m e =>
    simp [Statement.code] at h ⊢
    exact (madeOf_name h.1).append (.cons (by decide)
      ((madeOf_operand h.2 (by decide)).append (.cons (by decide) (.cons (by decide) .nil))))
  | returning e =>
    simp [Statement.code] at h
    exact .word_cons ['r', 'e', 't', 'u', 'r', 'n'] (by decide) (by decide)
      ((madeOf_operand h (by decide)).append (.cons (by decide) .nil))

def Line.header? : Line → Option (List Char)
  | classHeader c => some (['c', 'l', 'a', 's', 's', ' '] ++ c.chars ++ [' '])
  | methodHeader type m parameters =>
    some (type.chars ++ [' '] ++ m.chars ++ ['(']
      ++ [',', ' '].intercalate (parameters.map Parameter.code) ++ [')', ' '])
  | ifHeader e => some (['i', 'f', ' ', '('] ++ e.chars ++ [')', ' '])
  | whileHeader e => some (['w', 'h', 'i', 'l', 'e', ' ', '('] ++ e.chars ++ [')', ' '])
  | _ => none

theorem Line.code_of_header? (line : Line) {header : List Char} (h : line.header? = some header) :
    line.code = header ++ ['{'] := by
  cases line <;> simp [header?] at h <;> simp [code, ← h]

theorem Line.madeOf_header (line : Line) {header : List Char} (hheader : line.header? = some header)
    (h : '$' ∉ line.code) : MadeOf [' ', '+', '<', ',', '(', ')'] header := by
  cases line with
  | classHeader c =>
    simp [code] at h
    cases hheader
    exact .word_cons ['c', 'l', 'a', 's', 's'] (by decide) (by decide)
      ((madeOf_name h).append (.cons (by decide) .nil))
  | methodHeader type m parameters =>
    simp [code] at h
    cases hheader
    simp only [List.append_assoc, List.cons_append, List.nil_append]
    exact .word_cons _ (TypeName.isWordChar h.1) (by decide) ((madeOf_name h.2.1).append
      (.cons (by decide) (((madeOf_parameters h.2.2).of_subset (by decide)).append
        (.cons (by decide) (.cons (by decide) .nil)))))
  | ifHeader e =>
    simp [code] at h
    cases hheader
    exact .word_cons ['i', 'f'] (by decide) (by decide) (.cons (by decide)
      ((madeOf_operand h (by decide)).append (.cons (by decide) (.cons (by decide) .nil))))
  | whileHeader e =>
    simp [code] at h
    cases hheader
    exact .word_cons ['w', 'h', 'i', 'l', 'e'] (by decide) (by decide) (.cons (by decide)
      ((madeOf_operand h (by decide)).append (.cons (by decide) (.cons (by decide) .nil))))
  | field type f e => contradiction
  | statement s => contradiction
  | closing => contradiction

/-
A line outside of bodies has no brace in it.
-/
theorem madeOf_field {type : TypeName} {f : Name} {e : Operand}
    (h : '$' ∉ (Line.field type f e).code) :
    MadeOf [' ', '+', '<', '=', ';'] (Line.field type f e).code := by
  simp [Line.code] at h ⊢
  exact .word_cons _ (TypeName.isWordChar h.1) (by decide) (madeOf_binding h.2)

theorem Line.madeOf {line : Line} (h : '$' ∉ line.code) :
    MadeOf [' ', '+', '<', ',', '=', ';', '(', ')', '{', '}'] line.code := by
  cases hheader : line.header? with
  | some header =>
    rw [line.code_of_header? hheader]
    exact ((line.madeOf_header hheader h).of_subset (by decide)).append (.cons (by decide) .nil)
  | none =>
    cases line with
    | field type f e => exact (madeOf_field h).of_subset (by decide)
    | statement s => exact (Statement.madeOf h).of_subset (by decide)
    | closing => exact .cons (by decide) .nil
    | classHeader c => contradiction
    | methodHeader type m parameters => contradiction
    | ifHeader e => contradiction
    | whileHeader e => contradiction

end Signs

end Playback.Java
