import Playback.Proofs.Cpp.Declaration
import Playback.Proofs.Cpp.Size

/-!
This module contains what statements declare: a name behind its type, with sizes and a value, and several
of them one after the other. A statement that starts with a word and no name behind it declares nothing.
-/

namespace Playback.Cpp

open Pattern Source

section Values

structure Value where
  chars : List Char
  line : '\n' ∉ chars
  balanced : Balanced chars

/--
What a variable starts with. Inside of parentheses and braces there may be several values.
-/
inductive Initializer where
  | assigned (e : Value) (h : ∀ sep ∈ [',', ';'], Sealed sep e.chars)
  | called (e : Value)
  | braced (e : Value)

def Initializer.chars : Initializer → List Char
  | assigned e _ => '=' :: e.chars
  | called e => '(' :: (e.chars ++ [')'])
  | braced e => '\x7b' :: (e.chars ++ ['\x7d'])

def Initializer.isCall : Initializer → Bool
  | called _ => true
  | _ => false

theorem Value.newline_not_mem_trimEnd (e : Value) : '\n' ∉ Text.trimEnd e.chars :=
  fun hmem => e.line (Text.mem_of_mem_trimEnd hmem)

def Initializer.trimmed : Initializer → Initializer
  | assigned e h =>
    .assigned ⟨Text.trimEnd e.chars, e.newline_not_mem_trimEnd, e.balanced.trimEnd⟩
      fun sep hsep => (h sep hsep).trimEnd
  | i => i

theorem Initializer.chars_trimmed (i : Initializer) : i.trimmed.chars = Text.trimEnd i.chars := by
  cases i with
  | assigned e h => exact (Text.trimEnd_append_cons (by decide) [] e.chars).symm
  | called e => exact (Text.trimEnd_append_cons (c := ')') (by decide) ('(' :: e.chars) []).symm
  | braced e => exact (Text.trimEnd_append_cons (c := '\x7d') (by decide) ('\x7b' :: e.chars) []).symm

theorem Initializer.isCall_trimmed (i : Initializer) : i.trimmed.isCall = i.isCall := by
  cases i <;> rfl

theorem Initializer.newline_not_mem (i : Initializer) : '\n' ∉ i.chars := by
  cases i with
  | assigned e _ => simp [chars, e.line]
  | called e => simp [chars, e.line]
  | braced e => simp [chars, e.line]

theorem Initializer.sealed (i : Initializer) {sep : Char} (hsep : sep ∈ [',', ';']) : Sealed sep i.chars := by
  have hstep : ∀ sep ∈ [',', ';'], bracketStep sep = 0 := by decide
  cases i with
  | assigned e h =>
    have hplain : ∀ c ∈ ['='], c ≠ sep ∧ bracketStep c = 0 := by
      rintro c hc
      rw [List.mem_singleton] at hc
      rw [hc]
      refine ⟨?_, rfl⟩
      rintro rfl
      contradiction
    exact (Sealed.of_plain hplain).append (h sep hsep)
  | called e => exact e.balanced.bracketed rfl rfl (hstep sep hsep)
  | braced e => exact e.balanced.bracketed rfl rfl (hstep sep hsep)

theorem Initializer.exists_cons (i : Initializer) :
    ∃ c more, i.chars = c :: more ∧ c ∈ ['=', '(', '\x7b'] ∧ (c = '(' ↔ i.isCall = true) := by
  cases i with
  | assigned e h => exact ⟨_, _, rfl, by simp, by simp [isCall]⟩
  | called e => exact ⟨_, _, rfl, by simp, by simp [isCall]⟩
  | braced e => exact ⟨_, _, rfl, by simp, by simp [isCall]⟩

end Values

section Declarators

structure Declarator where
  lead : Lead
  name : Name
  space : List Char
  sizes : List Size
  room : List Char
  initializer : Option Initializer
  hspace : IsGap space
  hroom : IsGap room

namespace Declarator

variable (d : Declarator)

def tail : List Char :=
  (d.initializer.map Initializer.chars).getD []

def chars : List Char :=
  d.lead.chars ++ (d.name.chars ++ (d.space ++ (dimensions d.sizes ++ (d.room ++ d.tail))))

def isCall : Bool :=
  d.initializer.any Initializer.isCall

/--
What is declared. An array of characters is a text.
-/
def declared? (isChar : Bool) : Option Declared :=
  if d.sizes.isEmpty || (isChar && d.sizes.length == 1) then some ⟨d.name.name, .variable⟩
  else if d.sizes.all Size.isFixed then some ⟨d.name.name, .array⟩
  else none

def part (isChar allowCall : Bool) : Part :=
  if d.isCall && !allowCall then .notDeclaration
  else
    match d.declared? isChar with
    | some declared => .declares declared
    | none => .nothing

theorem tail_newline : '\n' ∉ d.tail := by
  unfold tail
  cases d.initializer with
  | none => simp
  | some i => exact i.newline_not_mem

/-
A value begins with a sign of its own.
-/
theorem tail_eq_nil_or : (d.tail = [] ∧ d.isCall = false)
    ∨ ∃ c more, d.tail = c :: more ∧ c ∈ ['=', '(', '\x7b'] ∧ (c = '(' ↔ d.isCall = true) := by
  unfold tail isCall
  cases d.initializer with
  | none => exact .inl ⟨rfl, rfl⟩
  | some i => exact .inr i.exists_cons

theorem head_tail {p : Char → Bool} (hp : ∀ c ∈ ['=', '(', '\x7b'], p c = false) :
    d.tail.head?.any p = false := by
  rcases d.tail_eq_nil_or with ⟨hnil, _⟩ | ⟨c, more, hcons, hc, _⟩
  · rw [hnil]
    rfl
  · rw [hcons]
    exact hp c hc

/-
White space stands in front of the sizes, or in front of what follows them.
-/
theorem exists_gap {more : List Char} (hmore : more = [] ∨ ∃ back, more = ',' :: back) :
    ∃ gap rest, d.space ++ (dimensions d.sizes ++ (d.room ++ (d.tail ++ more))) = gap ++ rest
      ∧ IsGap gap ∧ EndsName rest := by
  cases hsizes : d.sizes with
  | nil =>
    refine ⟨d.space ++ d.room, d.tail ++ more, by simp [dimensions], d.hspace.append d.hroom, ?_⟩
    intro c hc
    rcases d.tail_eq_nil_or with ⟨hnil, _⟩ | ⟨c', more', hcons, hc', _⟩
    · rw [hnil, List.nil_append] at hc
      rcases hmore with rfl | ⟨back, rfl⟩
      · contradiction
      · rw [List.head?_cons, Option.some_inj] at hc
        simp [← hc]
    · rw [hcons, List.cons_append, List.head?_cons, Option.some_inj] at hc
      rw [hc] at hc'
      have hsigns : ['=', '(', '\x7b'] ⊆ ['=', '(', '[', '\x7b', ','] := by simp
      exact hsigns hc'
  | cons size sizes =>
    refine ⟨d.space, dimensions (size :: sizes) ++ (d.room ++ (d.tail ++ more)), rfl, d.hspace, ?_⟩
    rintro c ⟨rfl⟩
    simp

def behindName : Place → Option Place :=
  blanks.run ((capture "dims" (.star dimension)).run (blanks.run
    ((capture "tail" (.star lineChar)).run (textEnd.run some))))

theorem run_behindName (before : Option Char) (captures : List (String × List Char)) :
    behindName ⟨before, d.space ++ (dimensions d.sizes ++ (d.room ++ d.tail)), captures⟩
      =
    some ⟨lastOf before (d.space ++ (dimensions d.sizes ++ (d.room ++ d.tail))), [],
      ("tail", d.tail) :: ("dims", dimensions d.sizes) :: captures⟩ := by
  have hblank : d.tail.head?.any Text.isBlank = false := d.head_tail (by decide)
  have htail : d.tail.head?.any (· == '[') = false := d.head_tail (by decide)
  unfold behindName
  cases hsizes : d.sizes with
  | nil =>
    -- All of the white space is taken in front of the sizes, which are missing.
    have hnil : dimensions [] = [] := rfl
    rw [hnil, List.nil_append, ← List.append_assoc]
    apply run_star_char_some (d.hspace.append d.hroom).isBlank hblank
    apply run_capture_dimensions [] htail
    rw [blanks, blank, run_star_char_skip hblank, run_capture_line d.tail_newline,
      lastOf_append before (d.space ++ d.room)]
    rfl
  | cons size sizes =>
    have hroom : (d.room ++ d.tail).head?.any (· == '[') = false := by
      apply head_append_of_blank d.hroom.isBlank _ htail
      intro c hc
      rw [beq_eq_false_iff_ne]
      rintro rfl
      contradiction
    rw [lastOf_append, lastOf_append, lastOf_append]
    apply run_star_char_some d.hspace.isBlank rfl
    apply run_capture_dimensions _ hroom
    exact run_star_char_some d.hroom.isBlank hblank (run_capture_line d.tail_newline)

theorem captured_declarator :
    ∃ place, declarator.matchAt? d.chars = some place
      ∧ place.captured "name" = d.name.chars ∧ place.captured "dims" = dimensions d.sizes
      ∧ place.captured "tail" = d.tail := by
  have hx : FreeWord keywords d.name.chars := d.name.freeWord
  generalize hmore : d.space ++ (dimensions d.sizes ++ (d.room ++ d.tail)) = more
  have hword : more.head?.any Text.isWordChar = false := by
    rcases d.exists_gap (.inl rfl) with ⟨gap, rest, heq, hgap, hends⟩
    rw [List.append_nil] at heq
    rw [← hmore, heq]
    exact head_append_of_blank hgap.isBlank (fun c => Text.isWordChar_of_isBlank) (hends.head (by decide))
  -- The name is not `const`, and so the word in front of it is left out.
  have hconst : ∀ before captures k,
      (text "const" ++ plus blank).run k ⟨before, d.name.chars ++ more, captures⟩ = none := by
    intro before captures k
    apply run_text_of_ne (by decide) hx.isWordChar hword (hx.ne_of_mem (by decide))
    exact fun c rest hc => run_plus_blank_eq_none (Text.isBlank_of_isWordChar hc) rest
  have hrun : declarator.matchAt? d.chars = blanks.run ((star (among "*&")).run (blanks.run
      ((opt (text "const" ++ plus blank)).run ((capture "name" identifier).run behindName))))
        ⟨none, d.lead.chars ++ (d.name.chars ++ more), []⟩ := by
    rw [← hmore]
    rfl
  have hname : (opt (text "const" ++ plus blank)).run ((capture "name" identifier).run behindName)
      ⟨lastOf none d.lead.chars, d.name.chars ++ more, []⟩
        = some ⟨lastOf (lastOf (lastOf none d.lead.chars) d.name.chars) more, [],
          [("tail", d.tail), ("dims", dimensions d.sizes), ("name", d.name.chars)]⟩ := by
    rw [run_opt, hconst, Option.none_or]
    apply run_capture_identifier hx hword
    rw [← hmore]
    exact d.run_behindName _ _
  have hsign : (d.name.chars ++ more).head?.any isSign = false := by
    rcases hx.exists_cons with ⟨c, back, hchars, hstart, _⟩
    rw [hchars]
    exact isSign_of_isWordChar (Text.isWordChar_of_isIdentStart hstart)
  rw [hrun, run_lead d.lead (Text.isBlank_head_word hx.ne_nil hx.isWordChar) hsign hname]
  exact ⟨_, rfl, rfl, rfl, rfl⟩

theorem readPart_chars (isChar allowCall isFirst : Bool) :
    readPart isChar allowCall isFirst d.chars = d.part isChar allowCall := by
  rcases d.captured_declarator with ⟨place, hplace, hname, hdims, htail⟩
  have hfree : isAmong notTypes d.name.chars = false :=
    not_isAmong_notTypes d.name.freeWord
  have hhead : (Text.trim d.tail).head? = d.tail.head? := by
    rcases d.tail_eq_nil_or with ⟨hnil, _⟩ | ⟨c, more, hcons, hc, _⟩
    · rw [hnil]
      rfl
    · have hblank : ∀ c ∈ ['=', '(', '\x7b'], Text.isBlank c = false := by decide
      rw [hcons, Text.trim_cons (hblank c hc)]
      rfl
  have hvalue : (d.tail.head?.any fun c => !(['=', '(', '\x7b'].contains c)) = false :=
    d.head_tail (by decide)
  have hcall : (d.tail.head? == some '(') = d.isCall := by
    rcases d.tail_eq_nil_or with ⟨hnil, hnone⟩ | ⟨c, more, hcons, _, hiff⟩
    · rw [hnil, hnone]
      rfl
    · rw [hcons, List.head?_cons, Bool.eq_iff_iff, beq_iff_eq, Option.some_inj]
      exact hiff
  unfold readPart part declared?
  rw [hplace]
  dsimp only
  rw [hname, hdims, htail, hfree, hhead, hvalue, hcall, sizes_dimensions, List.isEmpty_map,
    List.length_map, List.all_map]
  have hfixed : fixedSize.startsText ∘ Size.chars = Size.isFixed := funext Size.startsText_fixedSize
  rw [hfixed, if_neg (by simp), if_neg (by simp)]
  congr 1
  split
  · rfl
  · split <;> rfl

theorem newline_not_mem : '\n' ∉ d.chars := by
  have hname : '\n' ∉ d.name.chars := by
    intro hmem
    have hword := d.name.freeWord.isWordChar _ hmem
    contradiction
  simp [chars, d.lead.newline_not_mem, hname, d.hspace.newline_not_mem, newline_not_mem_dimensions,
    d.hroom.newline_not_mem, d.tail_newline]

theorem sealed {sep : Char} (hsep : sep ∈ [',', ';']) : Sealed sep d.chars := by
  have hstep : ∀ sep ∈ [',', ';'], bracketStep sep = 0 ∧ Text.isBlank sep = false ∧ isSign sep = false
      ∧ Text.isWordChar sep = false := by decide
  rcases hstep sep hsep with ⟨hplain, hblank, hsign, hword⟩
  have hgap : ∀ {gap : List Char}, IsGap gap → Sealed sep gap :=
    fun hgap => .of_class (fun c => bracketStep_of_isBlank) hblank hgap.isBlank
  have hlead : Sealed sep d.lead.chars :=
    (hgap d.lead.hfront).append
      ((Sealed.of_class (fun c => bracketStep_of_isSign) hsign d.lead.hsigns).append (hgap d.lead.hback))
  have hx : FreeWord keywords d.name.chars := d.name.freeWord
  have hname : Sealed sep d.name.chars :=
    .of_class (fun c => bracketStep_of_isWordChar) hword hx.isWordChar
  have htail : Sealed sep d.tail := by
    unfold tail
    cases d.initializer with
    | none => exact .of_plain (by simp)
    | some i => exact i.sealed hsep
  exact hlead.append (hname.append ((hgap d.hspace).append
    ((sealed_dimensions d.sizes hplain).append ((hgap d.hroom).append htail))))

def trimmed : Declarator :=
  match d.initializer with
  | some i => { d with initializer := some i.trimmed }
  | none =>
    if d.sizes.isEmpty then { d with space := [], room := [], hspace := isGap_nil, hroom := isGap_nil }
    else { d with room := [], hroom := isGap_nil }

theorem chars_trimmed : d.trimmed.chars = Text.trimEnd d.chars := by
  unfold trimmed
  -- A value, the last size or the name stands at the end, with white space behind it.
  cases hinit : d.initializer with
  | some i =>
    have hchars : d.chars = d.lead.chars ++ (d.name.chars ++ (d.space ++ (dimensions d.sizes ++ d.room)))
        ++ i.chars := by simp [chars, tail, hinit]
    have hsolid : ∃ c ∈ i.chars, Text.isBlank c = false := by
      have hblank : ∀ c ∈ ['=', '(', '\x7b'], Text.isBlank c = false := by decide
      rcases i.exists_cons with ⟨c, more, hcons, hc, _⟩
      exact ⟨c, by simp [hcons], hblank c hc⟩
    rw [hchars, Text.trimEnd_append hsolid, ← i.chars_trimmed]
    simp [chars, tail]
  | none =>
    have htail : d.tail = [] := by simp [tail, hinit]
    cases hsizes : d.sizes with
    | nil =>
      have hchars : d.chars = (d.lead.chars ++ d.name.chars) ++ (d.space ++ d.room) := by
        simp [chars, htail, hsizes, dimensions]
      have hx : FreeWord keywords d.name.chars := d.name.freeWord
      rw [hchars, Text.trimEnd_append_of_blank _ (d.hspace.append d.hroom).isBlank]
      · simp [chars, tail, dimensions]
      · rw [List.getLast?_append_of_ne_nil _ hx.ne_nil]
        cases hlast : d.name.chars.getLast? with
        | none => rfl
        | some c => exact Text.isBlank_of_isWordChar (hx.isWordChar c (List.mem_of_getLast? hlast))
    | cons size sizes =>
      have hchars : d.chars = (d.lead.chars ++ (d.name.chars ++ (d.space ++ dimensions (size :: sizes))))
          ++ d.room := by simp [chars, htail, hsizes]
      have hne : dimensions (size :: sizes) ≠ [] := by simp [dimensions, Size.code]
      rw [hchars, Text.trimEnd_append_of_blank _ d.hroom.isBlank]
      · simp [chars, tail]
      · rw [List.getLast?_append_of_ne_nil _ (by simp [hne]), List.getLast?_append_of_ne_nil _ (by simp [hne]),
          List.getLast?_append_of_ne_nil _ hne, getLast_dimensions (List.cons_ne_nil size sizes)]
        rfl

theorem part_trimmed (isChar allowCall : Bool) : d.trimmed.part isChar allowCall = d.part isChar allowCall := by
  unfold trimmed
  cases hinit : d.initializer with
  | some i => simp [part, isCall, declared?, hinit, i.isCall_trimmed]
  | none =>
    dsimp only
    split <;> simp [part, isCall, declared?, hinit]

theorem lead_trimmed : d.trimmed.lead = d.lead := by
  unfold trimmed
  split
  · rfl
  · split <;> rfl

end Declarator

def joined (ds : List Declarator) : List Char :=
  [','].intercalate (ds.map Declarator.chars)

theorem joined_singleton (d : Declarator) : joined [d] = d.chars := by
  rw [joined, List.map_singleton, List.intercalate_singleton]

theorem joined_cons_cons (d e : Declarator) (ds : List Declarator) :
    joined (d :: e :: ds) = d.chars ++ ',' :: joined (e :: ds) := by
  rw [joined, joined, List.map_cons, List.map_cons, List.intercalate_cons_cons, List.append_assoc]
  rfl

theorem newline_not_mem_joined (ds : List Declarator) : '\n' ∉ joined ds := by
  induction ds with
  | nil => simp [joined]
  | cons d ds ih =>
    cases ds with
    | nil =>
      rw [joined_singleton]
      exact d.newline_not_mem
    | cons e ds => simp [joined_cons_cons, d.newline_not_mem, ih]

theorem sealed_joined (ds : List Declarator) : Sealed ';' (joined ds) := by
  induction ds with
  | nil => exact .of_plain (by simp [joined])
  | cons d ds ih =>
    cases ds with
    | nil =>
      rw [joined_singleton]
      exact d.sealed (by simp)
    | cons e ds =>
      have hcomma : Sealed ';' [','] := .of_plain (by decide)
      rw [joined_cons_cons, ← List.singleton_append]
      exact (d.sealed (by simp)).append (hcomma.append ih)

theorem splitTopLevel_joined (d : Declarator) (ds : List Declarator) :
    splitTopLevel ',' (joined (d :: ds)) = (d :: ds).map Declarator.chars := by
  apply splitTopLevel_intercalate rfl (by simp)
  intro part hpart
  rcases List.mem_map.mp hpart with ⟨e, _, rfl⟩
  exact e.sealed (by simp)

/-
The first of the names stands at the beginning, and its end is known.
-/
theorem exists_first_joined (d : Declarator) (ds : List Declarator) :
    ∃ gap rest, joined (d :: ds) = d.lead.chars ++ (d.name.chars ++ (gap ++ rest)) ∧ IsGap gap
      ∧ EndsName rest ∧ '\n' ∉ rest := by
  have hfirst : ∀ {more : List Char}, more = [] ∨ (∃ back, more = ',' :: back) →
      joined (d :: ds) = d.chars ++ more → ∃ gap rest,
        joined (d :: ds) = d.lead.chars ++ (d.name.chars ++ (gap ++ rest)) ∧ IsGap gap
          ∧ EndsName rest ∧ '\n' ∉ rest := by
    intro more hmore heq
    rcases d.exists_gap hmore with ⟨gap, rest, hgapEq, hgap, hends⟩
    have hchars : joined (d :: ds) = d.lead.chars ++ (d.name.chars ++ (gap ++ rest)) := by
      rw [heq, ← hgapEq]
      simp [Declarator.chars]
    refine ⟨gap, rest, hchars, hgap, hends, ?_⟩
    have hline := newline_not_mem_joined (d :: ds)
    rw [hchars] at hline
    simp only [List.mem_append, not_or] at hline
    exact hline.2.2.2
  cases ds with
  | nil => exact hfirst (.inl rfl) (by rw [joined_singleton, List.append_nil])
  | cons e ds => exact hfirst (.inr ⟨_, rfl⟩) (joined_cons_cons d e ds)

theorem exists_solid_joined (d : Declarator) (ds : List Declarator) :
    ∃ c ∈ joined (d :: ds), Text.isBlank c = false := by
  have hx : FreeWord keywords d.name.chars := d.name.freeWord
  rcases exists_first_joined d ds with ⟨gap, rest, hchars, _⟩
  rcases hx.exists_cons with ⟨c, back, hname, hstart, _⟩
  refine ⟨c, by simp [hchars, hname], ?_⟩
  exact Text.isBlank_of_isWordChar (Text.isWordChar_of_isIdentStart hstart)

/-
The white space at the end of the last of several declared names can be left out.
-/
theorem exists_trimmed (d : Declarator) (ds : List Declarator) (isChar allowCall : Bool) :
    ∃ e es, joined (e :: es) = Text.trimEnd (joined (d :: ds)) ∧ e.lead = d.lead
      ∧ (e :: es).map (·.part isChar allowCall) = (d :: ds).map (·.part isChar allowCall) := by
  induction ds generalizing d with
  | nil =>
    refine ⟨d.trimmed, [], ?_, d.lead_trimmed, by simp [d.part_trimmed]⟩
    rw [joined_singleton, joined_singleton, d.chars_trimmed]
  | cons other ds ih =>
    rcases ih other with ⟨e, es, hchars, _, hparts⟩
    refine ⟨d, e :: es, ?_, rfl, by rw [List.map_cons, hparts]; rfl⟩
    rw [joined_cons_cons, joined_cons_cons, hchars, Text.trimEnd_append_cons (by decide)]

section Statement

variable {front : List String} (hfront : ∀ m ∈ front, m ∈ specifierWords) {type : List Char}
  (h : IsQualified type)
include hfront h

theorem madeOf_typeText : MadeOf [' ', ':'] (typeText front type) := by
  have htype : MadeOf [' ', ':'] type := by
    induction h with
    | name h => exact .of_word h.isWordChar
    | qualified h _ ih => exact .word_cons _ h.isWordChar (by simp) (.cons (by simp) ih)
  induction front with
  | nil => exact htype
  | cons m front ih =>
    rw [List.forall_mem_cons] at hfront
    rw [typeText_cons]
    exact .word_cons _ (freeWord_specifier hfront.1).isWordChar (by simp) (ih hfront.2)

theorem isBlank_head_typeText (rest : List Char) :
    (typeText front type ++ rest).head?.any Text.isBlank = false := by
  rcases exists_first_typeText hfront h with ⟨word, more, hparts, hfirst, _⟩
  rw [hparts, List.append_assoc]
  exact Text.isBlank_head_word hfirst.ne_nil hfirst.isWordChar

theorem sealed_statement (d : Declarator) (ds : List Declarator) :
    Sealed ';' (typeText front type ++ joined (d :: ds)) :=
  (Sealed.of_plain ((madeOf_typeText hfront h).plain rfl (by decide))).append (sealed_joined (d :: ds))

theorem trim_statement (d : Declarator) (ds : List Declarator) :
    Text.trim (typeText front type ++ joined (d :: ds))
      =
    typeText front type ++ Text.trimEnd (joined (d :: ds)) := by
  rw [Text.trim_of_head (isBlank_head_typeText hfront h _), Text.trimEnd_append (exists_solid_joined d ds)]

theorem trim_headD_statement {d e : Declarator} {ds es : List Declarator}
    (htrimmed : joined (e :: es) = Text.trimEnd (joined (d :: ds))) {tail : List Char}
    (htail : tail = [] ∨ ∃ more, tail = ';' :: more) :
    Text.trim ((splitTopLevel ';' (Text.trim (typeText front type ++ joined (d :: ds) ++ tail))).headD [])
      =
    typeText front type ++ joined (e :: es) := by
  rcases htail with rfl | ⟨more, rfl⟩
  · rw [List.append_nil, trim_statement hfront h, ← htrimmed,
      (sealed_statement hfront h e es).splitTopLevel_eq rfl, List.headD_cons, trim_statement hfront h, htrimmed,
      Text.trimEnd_trimEnd]
  · have hhead := isBlank_head_typeText hfront h (joined (d :: ds))
    have hne : typeText front type ++ joined (d :: ds) ≠ [] := by
      rcases exists_solid_joined d ds with ⟨c, hc, _⟩
      exact List.append_ne_nil_of_right_ne_nil _ (List.ne_nil_of_mem hc)
    rw [Text.trim_append_cons hne hhead (by decide),
      (sealed_statement hfront h d ds).splitTopLevel_append_cons rfl, List.headD_cons, trim_statement hfront h,
      htrimmed]

/-
A type and names behind it, up to the end of the text or of the statement, declare what each of the names
does.
-/
theorem declarations_joined {d : Declarator} (hlead : d.lead.chars ≠ []) (ds : List Declarator)
    {tail : List Char} (htail : tail = [] ∨ ∃ more, tail = ';' :: more) (allowCall : Bool) :
    declarations (typeText front type ++ joined (d :: ds) ++ tail) allowCall
      =
    (collect ((d :: ds).map (·.part (type == "char".toList) allowCall))).getD [] := by
  rcases exists_trimmed d ds (type == "char".toList) allowCall with ⟨e, es, htrimmed, hsame, hparts⟩
  rcases exists_first_joined e es with ⟨gap, rest, hchars, hgap, hends, hline⟩
  have hx : FreeWord keywords e.name.chars := e.name.freeWord
  have hcode := trim_headD_statement hfront h htrimmed htail
  have hsplit := splitTopLevel_joined e es
  rw [hchars] at hcode hsplit
  rw [← hsame] at hlead
  rw [declarations_eq_collect hfront h hx hlead hgap hends hline allowCall hcode hsplit, ← hparts, List.map_cons,
    List.map_map, e.readPart_chars]
  congr 3
  exact List.map_congr_left fun other _ => other.readPart_chars _ _ _

end Statement

end Declarators

section Words

/-
A statement that starts with a word and an equals sign or a parenthesis declares nothing.
-/
theorem declarations_eq_nil {word : List Char} (h : FreeWord specifierWords word) {c : Char}
    (hc : c = '=' ∨ c = '(') (rest : List Char) (allowCall : Bool) :
    declarations (word ++ ' ' :: c :: rest) allowCall = [] := by
  have hblank : (word ++ [' ']).head?.any Text.isBlank = false :=
    Text.isBlank_head_word h.ne_nil h.isWordChar
  have hsign : Text.isBlank c = false := by rcases hc with rfl | rfl <;> rfl
  have hends : ∀ rest, EndsName (c :: rest) := by
    rintro rest d ⟨rfl⟩
    rcases hc with rfl | rfl <;> simp
  have hfront : ∀ more, Text.trim (word ++ ' ' :: c :: more) = word ++ ' ' :: c :: Text.trimEnd more := by
    intro more
    have htrim := Text.trim_append_cons (by simp) hblank hsign more
    simpa using htrim
  have hsep : ';' ∉ word ++ [' ', c] := by
    have hword : ';' ∉ word := fun hmem => absurd (h.isWordChar _ hmem) (by decide)
    rcases hc with rfl | rfl <;> simp [hword]
  rcases headD_splitTopLevel hsep (Text.trimEnd rest) with ⟨more, hmore⟩
  rw [List.append_assoc, List.append_assoc, List.cons_append, List.cons_append, List.nil_append,
    List.cons_append, List.cons_append, List.nil_append] at hmore
  unfold declarations
  dsimp only
  rw [hfront, hmore, hfront, matchAt?_declaration, ← List.singleton_append,
    specified_eq_none h isGap_space (hends _)]

end Words

end Playback.Cpp
