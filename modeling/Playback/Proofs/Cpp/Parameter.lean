import Playback.Proofs.Cpp.Declaration
import Playback.Proofs.Cpp.Size

/-!
This module contains what is read from the parameters of a function header: the word at the end of a part
of the list is a name, if something stands in front of it.
-/

namespace Playback.Cpp

open Pattern Source

section Search

/-
A match of a parameter at the end of a text takes a word and white space.
-/
theorem exists_of_run_parameterName {before : Option Char} {cs : List Char} {r : Place}
    (hbracket : '[' ∉ cs) (h : parameterName.run some ⟨before, cs, []⟩ = some r) :
    ∃ word back, cs = word ++ back ∧ (∀ c ∈ word, Text.isWordChar c = true)
      ∧ ∀ c ∈ back, Text.isBlank c = true := by
  change (capture "name" identifier).run
    (blanks.run ((star dimension).run (blanks.run (textEnd.run some)))) _ = _ at h
  have hblanks : blanks.TakesOnly (Text.isBlank · = true) := fun _ hc => hc
  rcases exists_reaches_of_run h with ⟨a, ha, h⟩
  rcases ha.taken takesOnly_identifier with ⟨word, hword, hchars⟩
  rcases exists_reaches_of_run h with ⟨b, hb, h⟩
  rcases hb.taken hblanks with ⟨front, hfront, hfrontBlank⟩
  -- There is no bracket in the text, and so the match takes no size.
  have hhead : b.rest.head?.any (· == '[') = false := by
    rw [Bool.eq_false_iff]
    intro hany
    cases hrest : b.rest with
    | nil =>
      rw [hrest] at hany
      contradiction
    | cons c rest =>
      rw [hrest, List.head?_cons, Option.any_some, beq_iff_eq] at hany
      apply hbracket
      dsimp only at hword
      rw [hword, hfront, hrest, hany]
      simp
  rw [run_star_of_none fun k => run_dimension_of_head hhead] at h
  rcases exists_reaches_of_run h with ⟨c, hc, h⟩
  rcases hc.taken hblanks with ⟨back, hback, hbackBlank⟩
  rw [textEnd, run] at h
  split at h
  · next hend =>
    refine ⟨word, front ++ (back ++ c.rest), by rw [← hback, ← hfront]; exact hword, hchars, ?_⟩
    rw [List.forall_mem_append, List.forall_mem_append]
    refine ⟨hfrontBlank, hbackBlank, ?_⟩
    rw [Bool.or_eq_true, beq_iff_eq, beq_iff_eq] at hend
    rcases hend with hend | hend
    · simp [hend]
    · rw [hend]
      decide
  · contradiction

theorem run_parameterName_of_last {front : List Char} {c : Char} (hbracket : '[' ∉ front ++ [c])
    (hword : Text.isWordChar c = false) (hblank : Text.isBlank c = false) (before : Option Char) :
    parameterName.run some ⟨before, front ++ [c], []⟩ = none := by
  rw [Option.eq_none_iff_forall_ne_some]
  intro r hr
  rcases exists_of_run_parameterName hbracket hr with ⟨word, back, heq, hwordChars, hback⟩
  have hmem : c ∈ word ∨ c ∈ back := by
    rw [← List.mem_append, ← heq]
    simp
  rcases hmem with hmem | hmem
  · rw [hwordChars c hmem] at hword
    contradiction
  · rw [hback c hmem] at hblank
    contradiction

/-
A text that ends neither with a word nor with white space has no name at its end.
-/
theorem search?_parameterName_of_last {front : List Char} {c : Char} (hbracket : '[' ∉ front ++ [c])
    (hword : Text.isWordChar c = false) (hblank : Text.isBlank c = false) :
    parameterName.search? (front ++ [c]) = none := by
  have hnone : ∀ more back, front ++ [c] = more ++ back → back ≠ [] →
      parameterName.run some ⟨lastOf none more, back ++ [], []⟩ = none := by
    intro more back heq hne
    rcases List.eq_nil_or_concat back with rfl | ⟨back, d, rfl⟩
    · contradiction
    · rw [List.concat_eq_append, ← List.append_assoc] at heq
      rcases List.append_inj' heq rfl with ⟨hparts, hlast⟩
      cases hlast
      rw [List.concat_eq_append, List.append_nil]
      apply run_parameterName_of_last _ hword hblank
      rw [hparts] at hbracket
      simp only [List.mem_append, not_or] at hbracket ⊢
      exact ⟨hbracket.1.2, hbracket.2⟩
  unfold search?
  rw [← List.append_nil (front ++ [c]), search?_go_append hnone]
  rfl

variable {reserved : List String} {x : List Char} (hx : FreeWord reserved x) {front : List Char} {c : Char}
  (hbracket : '[' ∉ front ++ [c]) (hc : Text.isWordChar c = false)
include hx hbracket hc

theorem run_parameterName_eq_none (before : Option Char) :
    parameterName.run some ⟨before, front ++ c :: x, []⟩ = none := by
  have hname : '[' ∉ x := fun hmem => absurd (hx.isWordChar _ hmem) (by decide)
  rw [Option.eq_none_iff_forall_ne_some]
  intro r hr
  have hnone : '[' ∉ front ++ c :: x := by
    rw [List.append_cons, List.mem_append, not_or]
    exact ⟨hbracket, hname⟩
  rcases exists_of_run_parameterName hnone hr with ⟨word, back, heq, hword, hback⟩
  -- The text ends with a character of the name, and so no white space stands behind the word.
  rcases List.eq_nil_or_concat x with rfl | ⟨more, d, rfl⟩
  · exact hx.ne_nil rfl
  · rcases List.eq_nil_or_concat back with rfl | ⟨blanks, e, rfl⟩
    · have hword := hword c (by rw [List.append_nil] at heq; rw [← heq]; simp)
      rw [hword] at hc
      contradiction
    · rw [List.concat_eq_append, List.concat_eq_append, ← List.cons_append, ← List.append_assoc,
        ← List.append_assoc] at heq
      have hsame := (List.append_inj' heq rfl).2
      cases hsame
      have hblank := hback d (by simp)
      rw [Text.isBlank_of_isWordChar (hx.isWordChar d (by simp))] at hblank
      contradiction

/-
The name at the end of a text is found behind the last character that is no part of it.
-/
theorem search?_parameterName :
    ∃ place, parameterName.search? (front ++ c :: x) = some (front.length + 1, place)
      ∧ place.captured "name" = x := by
  refine ⟨⟨lastOf (some c) x, [], [("name", x)]⟩, ?_, rfl⟩
  have hrun : parameterName.run some ⟨some c, x, []⟩
      = some ⟨lastOf (some c) x, [], [("name", x)]⟩ := by
    have hword : parameterName.run some ⟨some c, x ++ [], []⟩
        = some ⟨lastOf (some c) x, [], [("name", x)]⟩ :=
      run_capture_identifier hx rfl rfl
    rw [List.append_nil] at hword
    exact hword
  -- A match from further to the left would have to take the character in front of the name.
  have hearlier : ∀ more back, front ++ [c] = more ++ back → back ≠ [] →
      parameterName.run some ⟨lastOf none more, back ++ x, []⟩ = none := by
    intro more back heq hne
    rcases List.eq_nil_or_concat back with rfl | ⟨back, d, rfl⟩
    · contradiction
    · rw [List.concat_eq_append, ← List.append_assoc] at heq
      rcases List.append_inj' heq rfl with ⟨hparts, hlast⟩
      cases hlast
      rw [List.concat_eq_append, List.append_assoc]
      refine run_parameterName_eq_none hx ?_ hc _
      rw [hparts] at hbracket
      simp only [List.mem_append, not_or] at hbracket ⊢
      exact ⟨hbracket.1.2, hbracket.2⟩
  unfold search?
  rw [List.append_cons, search?_go_append hearlier, lastOf_append, lastOf, lastOf, search?.go.eq_def, hrun]
  simp

end Search

section Parts

variable {part cs front x : List Char} {c : Char}

theorem takeWhile_eq_self (h : '=' ∉ cs) : cs.takeWhile (· != '=') = cs := by
  rw [List.takeWhile_eq_self_iff]
  intro c hc
  rw [bne_iff_ne]
  rintro rfl
  exact h hc

theorem isBlank_last_word {reserved : List String} (hx : FreeWord reserved x) (front : List Char) :
    (front ++ x).getLast?.any Text.isBlank = false := by
  rw [List.getLast?_append_of_ne_nil _ hx.ne_nil]
  cases hlast : x.getLast? with
  | none => rfl
  | some c => exact Text.isBlank_of_isWordChar (hx.isWordChar c (List.mem_of_getLast? hlast))

theorem trim_part {lead : List Char} (hlead : ∀ c ∈ lead, c = ' ') (hnone : '=' ∉ cs)
    (hhead : cs.head?.any Text.isBlank = false) (hlast : cs.getLast?.any Text.isBlank = false) :
    Text.trim ((lead ++ cs).takeWhile (· != '=')) = cs := by
  have hblank : ∀ c ∈ lead, Text.isBlank c = true := fun c hc => by rw [hlead c hc]; rfl
  have hpart : '=' ∉ lead ++ cs := by
    rw [List.mem_append, not_or]
    exact ⟨fun hmem => absurd (hlead _ hmem) (by decide), hnone⟩
  rw [takeWhile_eq_self hpart, Text.trim_blank_append hblank, Text.trim_eq_self hhead hlast]

/--
Whether a text is more than one word, or a pointer or a reference.
-/
def IsMany (cs : List Char) : Prop :=
  2 ≤ (Text.words cs).length ∨ cs.any isSign = true

theorem parameter?_of_single (hpart : Text.trim (part.takeWhile (· != '=')) = cs)
    (hsingle : ¬ IsMany cs) : parameter? part = none := by
  rw [IsMany, not_or, Nat.not_le, Bool.not_eq_true] at hsingle
  unfold parameter?
  dsimp only
  rw [hpart, ← isSign_eq, hsingle.2]
  simp [hsingle.1]

theorem parameter?_of_many (hpart : Text.trim (part.takeWhile (· != '=')) = cs) (hmany : IsMany cs) :
    parameter? part
      =
    (parameterName.search? cs).bind fun (skipped, place) =>
      let name := place.captured "name"
      if isAmong notTypes name || skipped == 0 then none else some (String.ofList name) := by
  have hlone : (cs == [] || cs == ['.', '.', '.']) = false := by
    rw [Bool.or_eq_false_iff, beq_eq_false_iff_ne, beq_eq_false_iff_ne]
    constructor
    · rintro rfl
      revert hmany
      unfold IsMany
      decide
    · rintro rfl
      revert hmany
      unfold IsMany
      decide
  have hfew : (decide ((Text.words cs).length < 2) && !cs.any isSign) = false := by
    rw [Bool.and_eq_false_imp, decide_eq_true_eq, Bool.not_eq_false']
    intro hless
    exact hmany.resolve_left (by omega)
  unfold parameter?
  dsimp only
  rw [hpart, ← isSign_eq, hlone, hfew, if_neg (by simp), if_neg (by simp)]
  cases parameterName.search? cs <;> rfl

/-
A part with a word at its end declares the word.
-/
theorem parameter?_of_word {reserved : List String} (hx : FreeWord reserved x)
    (hpart : Text.trim (part.takeWhile (· != '=')) = front ++ c :: x) (hmany : IsMany (front ++ c :: x))
    (hbracket : '[' ∉ front ++ [c]) (hc : Text.isWordChar c = false) :
    parameter? part = if isAmong notTypes x then none else some (String.ofList x) := by
  rcases search?_parameterName hx hbracket hc with ⟨place, hplace, hname⟩
  rw [parameter?_of_many hpart hmany, hplace, Option.bind_some]
  dsimp only
  rw [hname]
  simp

theorem parameter?_of_last (hpart : Text.trim (part.takeWhile (· != '=')) = front ++ [c])
    (hbracket : '[' ∉ front ++ [c]) (hword : Text.isWordChar c = false) (hblank : Text.isBlank c = false) :
    parameter? part = none := by
  by_cases hmany : IsMany (front ++ [c])
  · rw [parameter?_of_many hpart hmany, search?_parameterName_of_last hbracket hword hblank]
    rfl
  · exact parameter?_of_single hpart hmany

end Parts

section Lists

/--
Whether the code of a parameter is read as these names, wherever it stands in a list.
-/
structure ReadsAs (code : List Char) (names : List String) : Prop where
  plain : ∀ c ∈ code, bracketStep c = 0
  head : code.head?.any Text.isBlank = false
  last : code.getLast?.any Text.isBlank = false
  apart : ∃ c ∈ code, Text.isWordChar c = false
  read : ∀ lead, (∀ c ∈ lead, c = ' ') →
    (splitTopLevel ',' (lead ++ code)).filterMap parameter? = names

def listed (codes : List (List Char)) : List Char :=
  [',', ' '].intercalate codes

theorem listed_singleton (code : List Char) : listed [code] = code :=
  List.intercalate_singleton

theorem listed_cons_cons (code other : List Char) (codes : List (List Char)) :
    listed (code :: other :: codes) = code ++ ',' :: ' ' :: listed (other :: codes) := by
  rw [listed, listed, List.intercalate_cons_cons, List.append_assoc]
  rfl

theorem plain_listed {codes : List (List Char)} (h : ∀ code ∈ codes, ∀ c ∈ code, bracketStep c = 0) :
    ∀ c ∈ listed codes, bracketStep c = 0 := by
  induction codes with
  | nil => simp [listed]
  | cons code codes ih =>
    rw [List.forall_mem_cons] at h
    cases codes with
    | nil =>
      rw [listed_singleton]
      exact h.1
    | cons other codes =>
      rw [listed_cons_cons, List.forall_mem_append, List.forall_mem_cons, List.forall_mem_cons]
      exact ⟨h.1, rfl, rfl, ih h.2⟩

theorem filterMap_listed {codes : List (List Char × List String)} (hne : codes ≠ [])
    (h : ∀ entry ∈ codes, ReadsAs entry.1 entry.2) {lead : List Char} (hlead : ∀ c ∈ lead, c = ' ') :
    (splitTopLevel ',' (lead ++ listed (codes.map Prod.fst))).filterMap parameter?
      =
    codes.flatMap Prod.snd := by
  induction codes generalizing lead with
  | nil => contradiction
  | cons entry codes ih =>
    rw [List.forall_mem_cons] at h
    cases codes with
    | nil =>
      rw [List.map_singleton, listed_singleton, h.1.read lead hlead]
      simp
    | cons other codes =>
      have hplain : ∀ c ∈ lead ++ entry.1, bracketStep c = 0 := by
        rw [List.forall_mem_append]
        refine ⟨fun c hc => ?_, h.1.plain⟩
        rw [hlead c hc]
        rfl
      have hspace : ∀ c ∈ [' '], c = ' ' := by simp
      have hrest := ih (by simp) h.2 hspace
      rw [List.map_cons, List.singleton_append] at hrest
      rw [List.map_cons, List.map_cons, listed_cons_cons, ← List.append_assoc,
        splitTopLevel_append_cons (nesting_of_plain hplain) rfl, List.filterMap_append, h.1.read lead hlead, hrest]
      rfl

/-
A parameter list is more than one word, and so it is not taken for `void`.
-/
theorem ReadsAs.trim_append_ne_void {code : List Char} {names : List String} (h : ReadsAs code names)
    (more : List Char) : Text.trim (code ++ more) ≠ "void".toList := by
  rcases h.apart with ⟨c, hmem, hc⟩
  have htrim : c ∈ Text.trim (code ++ more) := by
    rcases List.eq_nil_or_concat code with rfl | ⟨front, d, rfl⟩
    · contradiction
    · have hlast := h.last
      have hhead := h.head
      rw [List.concat_eq_append] at hlast hhead hmem ⊢
      rw [List.getLast?_concat] at hlast
      rw [Text.trim_of_head, List.append_assoc, List.singleton_append, Text.trimEnd_append_cons hlast]
      · rw [List.mem_append, List.mem_singleton] at hmem
        rw [List.mem_append, List.mem_cons]
        exact hmem.imp_right .inl
      · cases front with
        | nil => exact hhead
        | cons e front => exact hhead
  intro hvoid
  rw [hvoid] at htrim
  have hwords : ∀ c ∈ "void".toList, Text.isWordChar c = true := by decide
  rw [hwords c htrim] at hc
  contradiction

/-
A header is read as what its parameters are read as, one after the other.
-/
theorem parameters_listed {front : List Char} (hfront : '(' ∉ front) {codes : List (List Char × List String)}
    (h : ∀ entry ∈ codes, ReadsAs entry.1 entry.2) (back : List Char) :
    parameters (front ++ '(' :: (listed (codes.map Prod.fst) ++ ')' :: back)) = codes.flatMap Prod.snd := by
  have hplain : ∀ c ∈ listed (codes.map Prod.fst), bracketStep c = 0 := by
    apply plain_listed
    intro code hcode
    rcases List.mem_map.mp hcode with ⟨entry, hentry, rfl⟩
    exact (h entry hentry).plain
  have hopen : '(' ∉ listed (codes.map Prod.fst) := fun hmem => absurd (hplain _ hmem) (by decide)
  have hclose : ')' ∉ listed (codes.map Prod.fst) := fun hmem => absurd (hplain _ hmem) (by decide)
  unfold parameters
  rw [parenContents?_append hfront hopen hclose]
  dsimp only
  cases codes with
  | nil => rfl
  | cons entry codes =>
    have hnone : ∀ c ∈ [], c = ' ' := by simp
    have hentry := h entry List.mem_cons_self
    have hlist : ∃ more, listed ((entry :: codes).map Prod.fst) = entry.1 ++ more := by
      cases codes with
      | nil => exact ⟨[], by rw [List.map_singleton, listed_singleton, List.append_nil]⟩
      | cons other codes => exact ⟨_, listed_cons_cons _ _ _⟩
    rcases hlist with ⟨more, hmore⟩
    -- A list of parameters is neither empty nor taken for `void`.
    rw [if_neg]
    · exact filterMap_listed (by simp) h hnone
    · rw [Bool.or_eq_true, beq_iff_eq, beq_iff_eq, not_or, hmore]
      refine ⟨?_, hentry.trim_append_ne_void more⟩
      rcases hentry.apart with ⟨c, hmem, _⟩
      exact List.append_ne_nil_of_left_ne_nil (List.ne_nil_of_mem hmem) more

end Lists

end Playback.Cpp
