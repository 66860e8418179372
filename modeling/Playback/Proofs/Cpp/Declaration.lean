import Playback.Proofs.Cpp.Fragment
import Playback.Proofs.Cpp.Lead
import Playback.Proofs.Pattern.Repetition
import Playback.Proofs.Source.Scan

/-!
This module contains what the patterns make of the type of a declaration: a type of one or more words and
qualifiers, with the first of the declared names behind it, is found as such, and a word that no name
follows is no type.
-/

namespace Playback.Cpp

open Pattern Source

section Types

theorem lastOf_ne_angle {reserved : List String} {word : List Char} (h : FreeWord reserved word)
    (before : Option Char) : lastOf before word ≠ some '>' := by
  rcases lastOf_eq_some h.ne_nil before with ⟨c, hc, hlast⟩
  rw [hlast]
  rintro ⟨rfl⟩
  have hword := h.isWordChar _ hc
  contradiction

def StopsInWord (k : Place → Option Place) : Prop :=
  ∀ before c rest captures, before.any Text.isWordChar = true → Text.isWordChar c = true →
    k ⟨before, c :: rest, captures⟩ = none

def behindTypeName (k : Place → Option Place) : Place → Option Place :=
  (opt (blanks ++ text "<" ++ .star (except ";=()\x7b\x7d") ++ text ">")).run
    ((opt (plus blank ++ text "const")).run k)

/--
Whether a text is a name with its qualifiers, none of which is a word that starts no type.
-/
inductive IsQualified : List Char → Prop where
  | name {word : List Char} (h : FreeWord notTypes word) : IsQualified word
  | qualified {word type : List Char} (h : FreeWord notTypes word) (htype : IsQualified type) :
      IsQualified (word ++ ':' :: ':' :: type)

structure QualifiedName (reserved : List String) where
  qualifiers : List (Source.Name [] reserved)
  name : Source.Name [] reserved

def QualifiedName.chars {reserved : List String} (type : QualifiedName reserved) : List Char :=
  type.qualifiers.flatMap (fun qualifier => qualifier.chars ++ [':', ':']) ++ type.name.chars

theorem QualifiedName.isQualified (type : QualifiedName notTypes) : IsQualified type.chars := by
  unfold QualifiedName.chars
  induction type.qualifiers with
  | nil => exact .name (type.name.freeWord (by simp))
  | cons qualifier qualifiers ih =>
    rw [List.flatMap_cons, List.append_assoc, List.append_assoc]
    exact .qualified (qualifier.freeWord (by simp)) ih

variable {k : Place → Option Place} {before : Option Char} {captures : List (String × List Char)}
  {reserved : List String} {word gap rest type : List Char}

theorem StopsInWord.behindTypeName (h : StopsInWord k) : StopsInWord (behindTypeName k) := by
  intro before c rest captures hbefore hc
  have hblank : (c :: rest).head?.any Text.isBlank = false := by simp [Text.isBlank_of_isWordChar hc]
  have hangle : ¬ "<".toList <+: c :: rest := by
    rintro ⟨more, hmore⟩
    cases hmore
    contradiction
  unfold Cpp.behindTypeName
  rw [run_opt, run_append, run_append, run_append, blanks, blank, run_star_char_skip hblank,
    run_text_of_not_prefix hangle, Option.none_or, run_opt, run_append, ← blank,
    run_plus_blank_eq_none (by simpa using hblank), Option.none_or]
  exact h before c rest captures hbefore hc

/-
White space behind a type that is followed neither by template arguments nor by `const`.
-/
theorem behindTypeName_gap (hgap : ∀ c ∈ gap, Text.isBlank c = true)
    (hblank : rest.head?.any Text.isBlank = false) (hangle : rest.head?.any (· == '<') = false)
    (hconst : ∀ before, (text "const").run k ⟨before, rest, captures⟩ = none) :
    behindTypeName k ⟨before, gap ++ rest, captures⟩ = k ⟨before, gap ++ rest, captures⟩ := by
  have hne : ∀ {d : Char}, Text.isBlank d = false → ∀ c, Text.isBlank c = true → (c == d) = false := by
    intro d hd c hc
    rw [beq_eq_false_iff_ne]
    rintro rfl
    rw [hc] at hd
    contradiction
  have htemplate : ∀ k', (blanks ++ text "<").run k' ⟨before, gap ++ rest, captures⟩ = none := by
    intro k'
    -- However much of the white space is taken, no bracket follows it.
    apply run_star_char_eq_none hgap hblank
    rintro front back rfl
    rw [List.forall_mem_append] at hgap
    apply run_text_of_head '<' (by simp)
    exact head_append_of_blank hgap.2 (hne rfl) hangle
  have hqualifier : (plus blank ++ text "const").run k ⟨before, gap ++ rest, captures⟩ = none := by
    by_cases hgap' : gap = []
    · rw [hgap', List.nil_append]
      cases rest with
      | nil => rfl
      | cons c rest => exact run_plus_blank_eq_none (by simpa using hblank) rest
    · rw [run_append, run_plus_blank_stuck hgap' hgap hblank]
      · exact hconst _
      · intro before c more hc
        exact run_text_of_head 'c' (by simp) (hne rfl c hc)
  unfold behindTypeName
  rw [run_opt, run_append, run_append, htemplate, Option.none_or, run_opt, hqualifier, Option.none_or]

theorem run_qualifier (h : FreeWord reserved word) (hrest : rest.head?.any Text.isWordChar = false)
    (k : Place → Option Place) :
    (identifier ++ text "::").run k ⟨before, word ++ rest, captures⟩
      =
    (text "::").run k ⟨lastOf before word, rest, captures⟩ := by
  rw [run_append, run_identifier_stuck h hrest]
  intro before c more _ hc
  apply run_text_of_head ':' (by simp)
  rw [List.head?_cons, Option.any_some, beq_eq_false_iff_ne]
  rintro rfl
  contradiction

/-
A type is a whole word, if no colons follow.
-/
theorem run_typeName (hk : StopsInWord k) (h : FreeWord reserved word)
    (hrest : rest.head?.any Text.isWordChar = false) (hcolon : rest.head?.any (· == ':') = false) :
    typeName.run k ⟨before, word ++ rest, captures⟩
      =
    behindTypeName k ⟨lastOf before word, rest, captures⟩ := by
  have hqualified : ∀ k',
      (identifier ++ text "::").run k' ⟨before, word ++ rest, captures⟩ = none := by
    intro k'
    rw [run_qualifier h hrest]
    exact run_text_of_head ':' (by simp) hcolon
  change (star (identifier ++ text "::")).run (identifier.run (behindTypeName k)) _ = _
  rw [run_star_of_none hqualified, run_identifier_stuck h hrest]
  exact fun before d more hbefore hd => hk.behindTypeName before d more captures hbefore hd

/-
A type is found with all of its qualifiers, if the match can go on behind it.
-/
theorem run_typeName_qualified (hk : StopsInWord k) (h : IsQualified type)
    (hrest : rest.head?.any Text.isWordChar = false) (hcolon : rest.head?.any (· == ':') = false) {r : Place}
    (hr : behindTypeName k ⟨lastOf before type, rest, captures⟩ = some r) :
    typeName.run k ⟨before, type ++ rest, captures⟩ = some r := by
  induction h generalizing before with
  | name h =>
    rw [run_typeName hk h hrest hcolon]
    exact hr
  | @qualified word type h _ ih =>
    have hconsumes : (identifier ++ text "::").Consumes :=
      (consumes_text (by simp)).append_right identifier
    have hcolons : word ++ ':' :: ':' :: type = word ++ ("::".toList ++ type) := by simp
    rw [hcolons, lastOf_append, lastOf_append] at hr
    change (star (identifier ++ text "::")).run (identifier.run (behindTypeName k)) _ = _
    rw [hcolons, List.append_assoc, List.append_assoc, run_star_eq hconsumes, run_qualifier h rfl,
      run_text_append]
    exact (congrArg (Option.or · _) (ih hr)).trans Option.some_or

theorem IsQualified.lastOf_ne_angle (h : IsQualified type) (before : Option Char) :
    lastOf before type ≠ some '>' := by
  induction h generalizing before with
  | name h => exact Cpp.lastOf_ne_angle h before
  | qualified _ _ ih =>
    rw [lastOf_append]
    exact ih _

end Types

section Rest

variable {before : Option Char} {captures : List (String × List Char)} {reserved : List String}
  {word gap rest : List Char}

def declaredNames : Place → Option Place :=
  (capture "rest"
    ((blank <|> among "*&" <|> after '>') ++ blanks ++ .star (among "*&") ++ blanks
      ++ .char Text.isIdentStart ++ .star lineChar)).run (textEnd.run some)

theorem run_separator (k : Place → Option Place) (c : Char) (hbefore : before ≠ some '>') :
    (blank <|> among "*&" <|> after '>').run k ⟨before, c :: rest, captures⟩
      =
    if Text.isBlank c || isSign c then k ⟨some c, rest, captures⟩ else none := by
  have hamong : among "*&" = char isSign := rfl
  have hafter : (before == some '>') = false := by simpa using hbefore
  rw [run_orElse, run_orElse, blank, run_char_cons, hamong, run_char_cons, after, run, hafter]
  by_cases hblank : Text.isBlank c = true
  · simp [hblank, isSign_of_isBlank hblank]
  · simp [hblank]

theorem stopsInWord_declaredNames : StopsInWord declaredNames := by
  intro before c rest captures hbefore hc
  have hangle : before ≠ some '>' := by
    rintro rfl
    contradiction
  unfold declaredNames
  rw [run, run_append, run_append, run_append, run_append, run_append, run_separator _ _ hangle, if_neg]
  simp [Text.isBlank_of_isWordChar hc, isSign_of_isWordChar hc]

/-
If no name follows, there is no declaration.
-/
theorem declaredNames_eq_none (hbefore : before ≠ some '>') (hgap : ∀ c ∈ gap, Text.isBlank c = true)
    (hends : EndsName rest) : declaredNames ⟨before, gap ++ rest, captures⟩ = none := by
  have hblank : rest.head?.any Text.isBlank = false := hends.head (by decide)
  have hsign : rest.head?.any isSign = false := hends.head (by decide)
  have hstart : rest.head?.any Text.isIdentStart = false := hends.head (by decide)
  have hamong : among "*&" = char isSign := rfl
  unfold declaredNames
  rw [run, run_append, run_append, run_append, run_append, run_append]
  cases gap with
  | nil =>
    cases rest with
    | nil =>
      have hafter : (before == some '>') = false := by simpa using hbefore
      simp [blank, hamong, after, run, hafter]
    | cons c rest =>
      rw [List.nil_append, run_separator _ _ hbefore, if_neg]
      simpa using ⟨hblank, hsign⟩
  | cons c gap =>
    rw [List.forall_mem_cons] at hgap
    rw [List.cons_append, run_separator _ _ hbefore, if_pos (by simp [hgap.1]), hamong]
    -- However many blanks and signs are taken, no name follows them.
    apply run_star_char_eq_none hgap.2 hblank
    rintro front back rfl
    rw [List.forall_mem_append] at hgap
    rw [run_star_char_skip (head_append_of_blank hgap.2.2 (fun c => isSign_of_isBlank) hsign)]
    apply run_star_char_eq_none hgap.2.2 hblank
    rintro front back rfl
    rw [List.forall_mem_append] at hgap
    have hhead := head_append_of_blank hgap.2.2.2 (fun c => isIdentStart_of_isBlank) hstart
    cases htext : back ++ rest with
    | nil => rfl
    | cons d more =>
      rw [htext] at hhead
      rw [run_char_cons, if_neg (by simpa using hhead)]

theorem declaredNames_word (h : FreeWord reserved word) {lead : Lead} (hlead : lead.chars ≠ [])
    (hline : '\n' ∉ rest) (hbefore : before ≠ some '>') :
    ∃ place, declaredNames ⟨before, lead.chars ++ (word ++ rest), captures⟩ = some place
      ∧ place.captures = ("rest", lead.chars ++ (word ++ rest)) :: captures := by
  rcases Lead.exists_tail hlead with ⟨c, tail, hchars, hc⟩
  have hblank : (word ++ rest).head?.any Text.isBlank = false :=
    Text.isBlank_head_word h.ne_nil h.isWordChar
  have hword := h.isWordChar
  rcases h.exists_cons with ⟨d, back, rfl, hstart, hback⟩
  have hsign : (d :: back ++ rest).head?.any isSign = false := isSign_of_isWordChar (hword d List.mem_cons_self)
  have hline : '\n' ∉ back ++ rest := by
    rw [List.mem_append, not_or]
    refine ⟨fun hback' => ?_, hline⟩
    have hnewline := hback _ hback'
    contradiction
  refine ⟨⟨lastOf (some d) (back ++ rest), [], ("rest", lead.chars ++ ((d :: back) ++ rest)) :: captures⟩,
    ?_, rfl⟩
  unfold declaredNames
  rw [run, run_append, run_append, run_append, run_append, run_append, hchars, List.cons_append,
    run_separator _ _ hbefore, if_pos (by simpa using hc)]
  apply run_lead tail hblank hsign
  rw [List.cons_append, run_char_cons, if_pos hstart]
  apply run_star_lineChar_some hline
  simp [textEnd, run, List.take_of_length_le]

end Rest

theorem mem_keywords {w : String} (hw : w ∈ otherKeywords) : w ∈ keywords :=
  List.mem_append_right _ hw

theorem mem_otherKeywords_of_notTypes : ∀ w ∈ notTypes, w ∈ otherKeywords := by
  simp [notTypes, otherKeywords]

theorem mem_keywords_of_specifierWords : ∀ w ∈ specifierWords, w ∈ keywords := by
  simp [specifierWords, keywords, builtins, modifiers, otherKeywords]

theorem not_isAmong_notTypes {x : List Char} (hx : FreeWord keywords x) : isAmong notTypes x = false :=
  (hx.of_subset fun w hw => mem_keywords (mem_otherKeywords_of_notTypes w hw)).free

section Declaration

variable {before : Option Char} {captures : List (String × List Char)} {reserved : List String}
  {start word gap rest : List Char}

def behindType (start : List Char) (reached : Place) : Option Place :=
  declaredNames { reached with
    captures := ("type", start.take (start.length - reached.rest.length)) :: reached.captures }

def specified (start : List Char) : Place → Option Place :=
  specifiers.run (typeName.run (behindType start))

theorem matchAt?_declaration (cs : List Char) :
    declaration.matchAt? cs = specified cs ⟨none, cs, []⟩ :=
  rfl

theorem stopsInWord_behindType (start : List Char) : StopsInWord (behindType start) :=
  fun before c rest _ => stopsInWord_declaredNames before c rest _

theorem specified_word (h : FreeWord reserved word) (hrest : rest.head?.any Text.isWordChar = false) :
    specified start ⟨before, word ++ rest, captures⟩
      =
    (if isAmong specifierWords word then
        (plus blank).run (specified start) ⟨lastOf before word, rest, captures⟩
      else none).or
      (typeName.run (behindType start) ⟨before, word ++ rest, captures⟩) := by
  have hconsumes : (oneOf specifierWords ++ plus blank).Consumes :=
    consumes_blank.plus.append_right _
  change (star (oneOf specifierWords ++ plus blank)).run _ _ = _
  rw [run_star_eq hconsumes, run_append, run_oneOf_word (by decide) h.isWordChar hrest]
  · rfl
  · exact fun before c more hc => run_plus_blank_eq_none (Text.isBlank_of_isWordChar hc) more

/-
Neither a specifier nor a type begins with another character than a word does.
-/
theorem specified_of_head (hrest : rest.head?.any Text.isIdentStart = false) :
    specified start ⟨before, rest, captures⟩ = none := by
  have hidentifier : ∀ k, identifier.run k ⟨before, rest, captures⟩ = none := by
    intro k
    cases rest with
    | nil => rfl
    | cons c rest => rw [identifier, run_append, run_char_cons, if_neg (by simpa using hrest)]
  have hqualifier : ∀ k, (identifier ++ text "::").run k ⟨before, rest, captures⟩ = none :=
    fun k => hidentifier _
  have hspecifier : ∀ k, (oneOf specifierWords ++ plus blank).run k ⟨before, rest, captures⟩ = none := by
    intro k
    rw [run_append, run_oneOf, List.findSome?_eq_none_iff]
    intro w hw
    apply run_text_of_not_prefix
    rintro ⟨more, rfl⟩
    have hstarts : ∀ w ∈ specifierWords, w.toList.head?.any Text.isIdentStart = true := by decide
    have hhead := hstarts w hw
    cases hchars : w.toList with
    | nil =>
      rw [hchars] at hhead
      contradiction
    | cons c back =>
      rw [hchars] at hhead hrest
      rw [List.cons_append, List.head?_cons] at hrest
      rw [List.head?_cons, hrest] at hhead
      contradiction
  change (star (oneOf specifierWords ++ plus blank)).run (typeName.run (behindType start)) _ = _
  rw [run_star_of_none hspecifier]
  change (star (identifier ++ text "::")).run (identifier.run (behindTypeName (behindType start))) _ = _
  rw [run_star_of_none hqualifier, hidentifier]

/-
A word that no name follows is no type.
-/
theorem specified_eq_none (h : FreeWord specifierWords word) (hgap : IsGap gap) (hends : EndsName rest) :
    specified start ⟨before, word ++ (gap ++ rest), captures⟩ = none := by
  have hword : (gap ++ rest).head?.any Text.isWordChar = false :=
    head_append_of_blank hgap.isBlank (fun c => Text.isWordChar_of_isBlank) (hends.head (by decide))
  have hcolon : (gap ++ rest).head?.any (· == ':') = false := by
    apply head_append_of_blank hgap.isBlank _ (hends.head (by decide))
    intro c hc
    rw [beq_eq_false_iff_ne]
    rintro rfl
    contradiction
  rw [specified_word h hword, h.free, run_typeName (stopsInWord_behindType start) h hword hcolon,
    behindTypeName_gap hgap.isBlank (hends.head (by decide)) (hends.head (by decide))]
  · exact declaredNames_eq_none (lastOf_ne_angle h before) hgap.isBlank hends
  · exact fun before => run_text_of_head 'c' (by simp) (hends.head (by decide))

variable {x : List Char} {lead : Lead}

theorem run_specified_lead (hx : FreeWord specifierWords x) (hlead : lead.chars ≠ []) (hgap : IsGap gap)
    (hends : EndsName rest) :
    (plus blank).run (specified start) ⟨before, lead.chars ++ (x ++ (gap ++ rest)), captures⟩ = none := by
  have hstuck : ∀ before c more, Text.isBlank c = true → specified start ⟨before, c :: more, captures⟩ = none :=
    fun before c more hc => specified_of_head (by simpa using isIdentStart_of_isBlank hc)
  rcases lead.exists_gap (x ++ (gap ++ rest)) with ⟨front, more, heq, hfront, ⟨rfl, rfl⟩ | ⟨c, back, rfl, hc⟩⟩
  · rw [run_plus_blank_stuck hlead hfront.isBlank (Text.isBlank_head_word hx.ne_nil hx.isWordChar) hstuck]
    exact specified_eq_none hx hgap hends
  · have hblank : Text.isBlank c = false := isBlank_of_isSign hc
    rw [heq]
    by_cases hnil : front = []
    · rw [hnil]
      exact run_plus_blank_eq_none hblank back
    · rw [run_plus_blank_stuck hnil hfront.isBlank (by simpa using hblank) hstuck]
      exact specified_of_head (by simpa using isIdentStart_of_isSign hc)

theorem behindType_word (start : List Char) (captures : List (String × List Char)) (hx : FreeWord keywords x)
    (hlead : lead.chars ≠ []) {more : List Char} (hline : '\n' ∉ more) (hbefore : before ≠ some '>') :
    ∃ place, behindType start ⟨before, lead.chars ++ (x ++ more), captures⟩ = some place
      ∧ place.captures = ("rest", lead.chars ++ (x ++ more))
        :: ("type", start.take (start.length - (lead.chars ++ (x ++ more)).length)) :: captures :=
  declaredNames_word hx hlead hline hbefore

theorem behindTypeName_lead (hx : FreeWord keywords x) (lead : Lead) {more : List Char}
    (hmore : more.head?.any Text.isWordChar = false) :
    behindTypeName (behindType start) ⟨before, lead.chars ++ (x ++ more), captures⟩
      =
    behindType start ⟨before, lead.chars ++ (x ++ more), captures⟩ := by
  rcases lead.exists_gap (x ++ more) with ⟨front, rest, heq, hfront, hrest⟩
  rw [heq]
  rcases hrest with ⟨_, rfl⟩ | ⟨c, back, rfl, hc⟩
  · apply behindTypeName_gap hfront.isBlank (Text.isBlank_head_word hx.ne_nil hx.isWordChar)
    · rcases hx.exists_cons with ⟨c, back, rfl, hstart, _⟩
      rw [List.cons_append, List.head?_cons, Option.any_some, beq_eq_false_iff_ne]
      rintro rfl
      contradiction
    · intro before
      apply run_text_of_ne (by decide) hx.isWordChar hmore (hx.ne_of_mem (by decide))
      exact fun c more hc => stopsInWord_behindType start _ c more _ rfl hc
  · rw [isSign_iff] at hc
    apply behindTypeName_gap hfront.isBlank
    · rcases hc with rfl | rfl <;> rfl
    · rcases hc with rfl | rfl <;> rfl
    · intro before
      apply run_text_of_head 'c' (by simp)
      rcases hc with rfl | rfl <;> rfl

def typeText (front : List String) (word : List Char) : List Char :=
  front.flatMap (fun m => m.toList ++ [' ']) ++ word

theorem typeText_cons (m : String) (front : List String) (word : List Char) :
    typeText (m :: front) word = m.toList ++ ' ' :: typeText front word := by
  simp [typeText]

theorem freeWord_specifier {m : String} (hm : m ∈ specifierWords) : FreeWord notTypes m.toList where
  starts := by
    have h : ∀ w ∈ specifierWords, w.toList.head?.any Text.isIdentStart = true := by decide
    exact h m hm
  isWordChar := by
    have h : ∀ w ∈ specifierWords, ∀ c ∈ w.toList, Text.isWordChar c = true := by decide
    exact h m hm
  free := by
    have h : ∀ w ∈ specifierWords, isAmong notTypes w.toList = false := by
      simp [isAmong, specifierWords, notTypes]
    exact h m hm

theorem IsQualified.exists_first {type : List Char} (h : IsQualified type) :
    ∃ word more, type = word ++ more ∧ FreeWord notTypes word
      ∧ (more = [] ∨ ∃ back, more = ':' :: back) := by
  cases h with
  | name h => exact ⟨type, [], (List.append_nil type).symm, h, .inl rfl⟩
  | @qualified word more h _ => exact ⟨word, ':' :: ':' :: more, rfl, h, .inr ⟨_, rfl⟩⟩

theorem exists_first_typeText {front : List String} (hfront : ∀ m ∈ front, m ∈ specifierWords)
    {type : List Char} (h : IsQualified type) :
    ∃ word more, typeText front type = word ++ more ∧ FreeWord notTypes word
      ∧ more.head?.any Text.isWordChar = false := by
  cases front with
  | nil =>
    rcases h.exists_first with ⟨word, more, rfl, hword, hmore⟩
    refine ⟨word, more, by simp [typeText], hword, ?_⟩
    rcases hmore with rfl | ⟨back, rfl⟩ <;> rfl
  | cons m front =>
    exact ⟨m.toList, ' ' :: typeText front type, typeText_cons m front type,
      freeWord_specifier (hfront m List.mem_cons_self), rfl⟩

/-
A declaration starts with the words of its type, however many of them are specifiers.
-/
theorem specified_type {front : List String} (hfront : ∀ m ∈ front, m ∈ specifierWords) {type : List Char}
    (h : IsQualified type) (hx : FreeWord keywords x) (hlead : lead.chars ≠ []) (hgap : IsGap gap)
    (hends : EndsName rest) (hline : '\n' ∉ rest) :
    ∃ place, specified start
        ⟨before, typeText front type ++ (lead.chars ++ (x ++ (gap ++ rest))), captures⟩ = some place
      ∧ place.captures = ("rest", lead.chars ++ (x ++ (gap ++ rest)))
        :: ("type", start.take (start.length - (lead.chars ++ (x ++ (gap ++ rest))).length)) :: captures := by
  have hmore : (gap ++ rest).head?.any Text.isWordChar = false :=
    head_append_of_blank hgap.isBlank (fun c => Text.isWordChar_of_isBlank) (hends.head (by decide))
  have hline : '\n' ∉ gap ++ rest := by simp [hgap.newline_not_mem, hline]
  have hword : (lead.chars ++ (x ++ (gap ++ rest))).head?.any Text.isWordChar = false := by
    apply Lead.head hlead _ fun c => Text.isWordChar_of_isBlank
    intro c hc
    rcases isSign_iff.mp hc with rfl | rfl <;> rfl
  have hcolon : (lead.chars ++ (x ++ (gap ++ rest))).head?.any (· == ':') = false := by
    apply Lead.head hlead
    · intro c hc
      rw [beq_eq_false_iff_ne]
      rintro rfl
      contradiction
    · intro c hc
      rcases isSign_iff.mp hc with rfl | rfl <;> rfl
  -- The induction is on the specifiers. What follows the type stays the same.
  induction front generalizing before with
  | nil =>
    rcases behindType_word start captures hx hlead hline (h.lastOf_ne_angle before) with
      ⟨place, hplace, hcaptures⟩
    refine ⟨place, ?_, hcaptures⟩
    have htype : typeName.run (behindType start)
        ⟨before, type ++ (lead.chars ++ (x ++ (gap ++ rest))), captures⟩ = some place := by
      apply run_typeName_qualified (stopsInWord_behindType start) h hword hcolon
      rw [behindTypeName_lead hx lead hmore]
      exact hplace
    rcases h.exists_first with ⟨word, more, rfl, hfirst, hcases⟩
    rw [typeText, List.flatMap_nil, List.nil_append, List.append_assoc]
    rw [List.append_assoc] at htype
    -- A type of one word may be taken for a specifier first, but then no type follows it.
    rcases hcases with rfl | ⟨back, rfl⟩
    · rw [List.nil_append] at htype ⊢
      rw [specified_word hfirst hword,
        run_specified_lead (hx.of_subset mem_keywords_of_specifierWords) hlead hgap hends, ite_self,
        Option.none_or]
      exact htype
    · rw [specified_word hfirst rfl, List.cons_append, run_plus_blank_eq_none rfl, ite_self, Option.none_or]
      exact htype
  | cons m front ih =>
    rw [List.forall_mem_cons] at hfront
    rcases ih hfront.2 with ⟨place, hplace, hcaptures⟩
    refine ⟨place, ?_, hcaptures⟩
    have hm : isAmong specifierWords m.toList = true := by simp [isAmong, hfront.1]
    rw [typeText_cons, List.append_assoc, List.cons_append, specified_word (freeWord_specifier hfront.1) rfl,
      if_pos hm, run_plus_blank, hplace, Option.some_or]
    rcases exists_first_typeText hfront.2 h with ⟨word, more, hparts, hfirst, _⟩
    rw [hparts, List.append_assoc]
    exact Text.isBlank_head_word hfirst.ne_nil hfirst.isWordChar

end Declaration

section Statement

variable {front : List String} (hfront : ∀ m ∈ front, m ∈ specifierWords) {type : List Char}
  (h : IsQualified type)

include h in
theorem IsQualified.solid : type ≠ [] ∧ ∀ c ∈ type, Text.isBlank c = false := by
  induction h with
  | name h => exact ⟨h.ne_nil, fun c hc => Text.isBlank_of_isWordChar (h.isWordChar c hc)⟩
  | @qualified word type h _ ih =>
    refine ⟨by simp, ?_⟩
    rw [List.forall_mem_append, List.forall_mem_cons, List.forall_mem_cons]
    exact ⟨fun c hc => Text.isBlank_of_isWordChar (h.isWordChar c hc), rfl, rfl, ih.2⟩

include h in
theorem IsQualified.not_isAmong_notTypes : isAmong notTypes type = false := by
  cases h with
  | name h => exact h.free
  | @qualified word type h _ =>
    rw [Bool.eq_false_iff, ne_eq, isAmong, List.contains_iff_mem]
    intro hmem
    have hplain : ∀ w ∈ notTypes, ':' ∉ w.toList := by decide
    exact hplain _ hmem (by simp)

include hfront h

theorem words_typeText : Text.words (typeText front type) = front.map String.toList ++ [type] := by
  induction front with
  | nil => exact Text.words_solid h.solid.1 h.solid.2
  | cons m front ih =>
    rw [List.forall_mem_cons] at hfront
    have hm := freeWord_specifier hfront.1
    rw [typeText_cons, Text.words_append_cons rfl, Text.words_word hm.ne_nil hm.isWordChar, ih hfront.2]
    rfl

theorem contains_words_typeText (s : String) (hs : s ∉ specifierWords) :
    (Text.words (typeText front type)).contains s.toList = (type == s.toList) := by
  have hnone : s.toList ∉ front.map String.toList := by
    rw [List.mem_map]
    rintro ⟨m, hm, heq⟩
    rw [String.toList_inj] at heq
    exact hs (heq ▸ hfront m hm)
  rw [words_typeText hfront h, Bool.eq_iff_iff, List.contains_iff_mem, beq_iff_eq, List.mem_append,
    List.mem_singleton]
  exact ⟨fun hmem => (hmem.resolve_left hnone).symm, fun heq => .inr heq.symm⟩

variable {x gap rest : List Char} (hx : FreeWord keywords x) {lead : Lead} (hlead : lead.chars ≠ [])
  (hgap : IsGap gap) (hends : EndsName rest) (hline : '\n' ∉ rest)
include hx hlead hgap hends hline

theorem captured_declaration :
    ∃ place,
      declaration.matchAt? (typeText front type ++ (lead.chars ++ (x ++ (gap ++ rest)))) = some place
        ∧ place.captured "type" = typeText front type
        ∧ place.captured "rest" = lead.chars ++ (x ++ (gap ++ rest)) := by
  generalize hstart : typeText front type ++ (lead.chars ++ (x ++ (gap ++ rest))) = start
  obtain ⟨place, hplace, hcaptures⟩ : ∃ place, specified start
      ⟨none, typeText front type ++ (lead.chars ++ (x ++ (gap ++ rest))), []⟩ = some place ∧ _ :=
    specified_type hfront h hx hlead hgap hends hline
  rw [hstart] at hplace
  rw [← hstart] at hcaptures
  rw [List.length_append, Nat.add_sub_cancel, List.take_left] at hcaptures
  refine ⟨place, (matchAt?_declaration start).trans hplace, ?_, ?_⟩
  · simp [Place.captured, Place.captured?, hcaptures, List.lookup_cons]
  · simp [Place.captured, Place.captured?, hcaptures]

/-
A statement declares what the parts behind its type do.
-/
theorem declarations_eq_collect {code : List Char} (allowCall : Bool)
    (hcode : Text.trim ((splitTopLevel ';' (Text.trim code)).headD [])
      = typeText front type ++ (lead.chars ++ (x ++ (gap ++ rest))))
    {part : List Char} {parts : List (List Char)}
    (hparts : splitTopLevel ',' (lead.chars ++ (x ++ (gap ++ rest))) = part :: parts) :
    declarations code allowCall
      =
    (collect (readPart (type == "char".toList) allowCall true part
      :: parts.map (readPart (type == "char".toList) allowCall false))).getD [] := by
  rcases captured_declaration hfront h hx hlead hgap hends hline with ⟨place, hplace, htype, hrest⟩
  rcases exists_first_typeText hfront h with ⟨word, more, hwords, hfirst, hmore⟩
  have hfirstWord : isAmong notTypes (firstWord (typeText front type)) = false := by
    rw [hwords, hfirst.firstWord_append hmore]
    exact hfirst.free
  have hlast : (Text.words (typeText front type)).getLast?.any (isAmong notTypes) = false := by
    rw [words_typeText hfront h, List.getLast?_concat]
    exact h.not_isAmong_notTypes
  have hchar := contains_words_typeText hfront h "char" (by decide)
  unfold declarations
  dsimp only
  rw [hcode, hplace]
  dsimp only
  rw [htype, hfirstWord, hlast, hrest, hparts, hchar]
  rfl

end Statement

end Playback.Cpp
