import Playback.Proofs.Java.Fragment
import Playback.Proofs.Text.Blank

/-!
This module contains what the patterns make of the lines of the Java fragment: which variable a line
touches, and which words are found in it.
-/

namespace Playback.Java

open Pattern Source

section Touched

variable {k : Place → Option Place} {before : Option Char} {captures : List (String × List Char)}

def behindType (k : Place → Option Place) : Place → Option Place :=
  (opt (text "<" ++ .star (except "=") ++ text ">")).run ((star (text "[]")).run ((plus blank).run k))

theorem behindType_of_not {c : Char} (hangle : c ≠ '<') (hbracket : c ≠ '[') (rest : List Char) :
    behindType k ⟨before, c :: rest, captures⟩
      =
    if Text.isBlank c then blanks.run k ⟨some c, rest, captures⟩ else none := by
  unfold behindType
  rw [run_opt, run_append, run_append, run_text_of_not_prefix, Option.none_or, run_star_of_none]
  · rfl
  · intro k
    apply run_text_of_not_prefix
    simp [hbracket.symm]
  · simp [hangle.symm]

section Word

variable {word rest : List Char} (hne : word ≠ []) (hword : ∀ c ∈ word, Text.isWordChar c = true)
include hne hword

/-
A declaration starts with a word that is a type, whatever follows it.
-/
theorem matchAt?_declaration_word (hfinal : word ≠ "final".toList) {c : Char}
    (hc : Text.isWordChar c = false) (hdot : c ≠ '.') :
    declaration.matchAt? (word ++ c :: rest)
      =
    behindType ((capture "name" (plus wordChar)).run (blanks.run (assigns.run some)))
      ⟨lastOf none word, c :: rest, []⟩ := by
  have hmodifier : ∀ k,
      (text "final").run ((plus blank).run k) ⟨none, word ++ c :: rest, []⟩ = none := by
    intro k
    apply run_text_of_ne (by decide) hword (by simpa using hc) hfinal
    intro d more hd
    rw [run_plus, blank, run_char_cons, if_neg (by simp [Text.isBlank_of_isWordChar hd])]
  change blanks.run ((opt (text "final" ++ plus blank)).run
    ((plus (.char fun c => Text.isWordChar c || c == '.')).run (behindType _))) _ = _
  rw [blanks, blank, run_star_char_skip (Text.isBlank_head_word hne hword), run_opt, run_append, ← blank,
    hmodifier, Option.none_or]
  cases word with
  | nil => contradiction
  | cons d word =>
    rw [List.forall_mem_cons] at hword
    rw [run_plus, List.cons_append, run_char_cons, if_pos (by simp [hword.1]), run_star_char_stuck]
    · rfl
    · intro e he
      simp [hword.2 e he]
    · simp [hc, hdot]
    · -- In the middle of a word there is no blank.
      rintro front e back rfl
      have he := hword.2 e (by simp)
      rw [behindType_of_not, if_neg]
      · simp [Text.isBlank_of_isWordChar he]
      · rintro rfl
        contradiction
      · rintro rfl
        contradiction

theorem matchAt?_declaration_eq_none (hfinal : word ≠ "final".toList) {c : Char}
    (hc : Text.isWordChar c = false) (hcs : c ∉ ['.', '<', '[']) (hblank : Text.isBlank c = false)
    (rest : List Char) :
    declaration.matchAt? (word ++ c :: rest) = none := by
  simp only [List.mem_cons, List.not_mem_nil, or_false, not_or] at hcs
  rw [matchAt?_declaration_word hne hword hfinal hc hcs.1, behindType_of_not hcs.2.1 hcs.2.2,
    if_neg (by simp [hblank])]

theorem matchAt?_declaration_binding (hfinal : word ≠ "final".toList) (rest : List Char) :
    declaration.matchAt? (word ++ ' ' :: '=' :: rest) = none := by
  rw [matchAt?_declaration_word hne hword hfinal rfl (by decide),
    behindType_of_not (by decide) (by decide), if_pos (by decide), blanks, blank,
    run_star_char_skip rfl]
  rfl

end Word

/-
From the blank behind the name on, a binding goes on up to its equals sign.
-/
theorem run_assigns (rest : List Char) :
    blanks.run (assigns.run some) ⟨before, ' ' :: '=' :: ' ' :: rest, captures⟩
      =
    some ⟨some '=', ' ' :: rest, captures⟩ :=
  run_blanks_space rfl rfl

def behindName : Place → Option Place :=
  blanks.run ((opt (among "-+*/%&|^" <|> text "<<" <|> (text ">>" ++ opt (text ">")))).run
    (assigns.run some))

theorem isWordChar_of_mem_operator : ∀ c ∈ "-+*/%&|^<>=".toList, Text.isWordChar c = false := by
  decide

theorem behindName_eq_none {c : Char} (hc : c ∉ "-+*/%&|^<>=".toList) (hblank : Text.isBlank c = false)
    (rest : List Char) : behindName ⟨before, c :: rest, captures⟩ = none := by
  have hassigns : assigns.run some ⟨before, c :: rest, captures⟩ = none := by
    apply run_text_of_not_prefix
    rintro ⟨more, hmore⟩
    cases hmore
    exact hc (by decide)
  have hamong : c ∉ "-+*/%&|^".toList := fun hmem => hc (by revert hmem; simp; grind)
  unfold behindName
  rw [blanks, blank, run_star_char_skip (by simpa using hblank), run_opt, run_orElse, run_orElse,
    hassigns, Option.or_none, among, run_char_cons, if_neg (by simpa using hamong), Option.none_or,
    run_append, run_text_of_not_prefix, run_text_of_not_prefix]
  · rfl
  · rintro ⟨more, hmore⟩
    cases hmore
    exact hc (by decide)
  · rintro ⟨more, hmore⟩
    cases hmore
    exact hc (by decide)

def behindCounted : Place → Option Place :=
  (opt (oneOf ["++", "--"])).run (blanks.run ((text ";").run (textEnd.run some)))

theorem run_sign_of_not {c : Char} (hplus : c ≠ '+') (hminus : c ≠ '-') (rest : List Char) :
    (opt (oneOf ["++", "--"])).run k ⟨before, c :: rest, captures⟩ = k ⟨before, c :: rest, captures⟩ := by
  rw [run_opt, run_oneOf, List.findSome?_cons, List.findSome?_cons, run_text_of_not_prefix,
    run_text_of_not_prefix]
  · rfl
  · simp [Ne.symm hminus]
  · simp [hplus.symm]

theorem behindCounted_eq_none {c : Char} (hc : c ∉ ['+', '-', ';']) (hblank : Text.isBlank c = false)
    (rest : List Char) : behindCounted ⟨before, c :: rest, captures⟩ = none := by
  simp only [List.mem_cons, List.not_mem_nil, or_false, not_or] at hc
  unfold behindCounted
  rw [run_sign_of_not hc.1 hc.2.1, blanks, blank, run_star_char_skip (by simpa using hblank),
    run_text_of_not_prefix]
  simp [Ne.symm hc.2.2]

section Touches

variable {x : List Char} (hne : x ≠ []) (hword : ∀ c ∈ x, Text.isWordChar c = true)
include hne hword

theorem captured_declaration {type : List Char} (htype : type ≠ [])
    (htypeWord : ∀ c ∈ type, Text.isWordChar c = true) (hfinal : type ≠ "final".toList)
    (rest : List Char) :
    ∃ place, declaration.matchAt? (type ++ ' ' :: (x ++ ' ' :: '=' :: ' ' :: rest)) = some place
      ∧ place.captured "name" = x := by
  refine ⟨⟨some '=', ' ' :: rest, [("name", x)]⟩, ?_, rfl⟩
  rw [matchAt?_declaration_word htype htypeWord hfinal rfl (by decide),
    behindType_of_not (by decide) (by decide), if_pos (by decide), blanks, blank,
    run_star_char_skip (Text.isBlank_head_word hne hword)]
  exact run_capture_plus hne hword rfl (run_assigns rest)

theorem matchAt?_assignment (rest : List Char) {c : Char} (hc : Text.isWordChar c = false) :
    assignment.matchAt? (x ++ c :: rest) = behindName ⟨lastOf none x, c :: rest, [("name", x)]⟩ := by
  change blanks.run ((capture "name" (plus wordChar)).run behindName) _ = _
  rw [blanks, blank, run_star_char_skip (Text.isBlank_head_word hne hword), wordChar,
    run_capture_plus_stuck hne hword (by simpa using hc)]
  intro before d more captures hd
  apply behindName_eq_none
  · intro hmem
    rw [isWordChar_of_mem_operator d hmem] at hd
    contradiction
  · exact Text.isBlank_of_isWordChar hd

theorem captured_assignment (rest : List Char) :
    ∃ place, assignment.matchAt? (x ++ ' ' :: '=' :: ' ' :: rest) = some place
      ∧ place.captured "name" = x := by
  refine ⟨⟨some '=', ' ' :: rest, [("name", x)]⟩, ?_, rfl⟩
  rw [matchAt?_assignment hne hword _ rfl]
  exact run_blanks_space rfl rfl

theorem matchAt?_count (rest : List Char) {c : Char} (hc : Text.isWordChar c = false) :
    count.matchAt? (x ++ c :: rest) = behindCounted ⟨lastOf none x, c :: rest, [("name", x)]⟩ := by
  change blanks.run ((opt (oneOf ["++", "--"])).run ((capture "name" (plus wordChar)).run behindCounted)) _
    = _
  have hsign : (opt (oneOf ["++", "--"])).run ((capture "name" (plus wordChar)).run behindCounted)
      ⟨none, x ++ c :: rest, []⟩
        =
      (capture "name" (plus wordChar)).run behindCounted ⟨none, x ++ c :: rest, []⟩ := by
    cases x with
    | nil => contradiction
    | cons d x =>
      have hd := hword d List.mem_cons_self
      rw [List.cons_append, run_sign_of_not]
      · rintro rfl
        contradiction
      · rintro rfl
        contradiction
  rw [blanks, blank, run_star_char_skip (Text.isBlank_head_word hne hword), hsign, wordChar,
    run_capture_plus_stuck hne hword (by simpa using hc)]
  intro before d more captures hd
  apply behindCounted_eq_none
  · intro hmem
    simp only [List.mem_cons, List.not_mem_nil, or_false] at hmem
    rcases hmem with rfl | rfl | rfl <;> contradiction
  · exact Text.isBlank_of_isWordChar hd

end Touches

end Touched

theorem isAmong_keywords {x : List Char} (hx : FreeWord reserved x) : isAmong keywords x = false := by
  rw [Bool.eq_false_iff]
  intro hmem
  have hreserved : ∀ word ∈ keywords, word ∈ reserved := by decide
  unfold isAmong at hmem
  rw [List.contains_iff_mem] at hmem
  have hfree := hx.free
  rw [isAmong, List.contains_iff_mem.mpr (hreserved _ hmem)] at hfree
  contradiction

section

variable {x type : List Char} (hx : FreeWord reserved x)
include hx

theorem touched?_declaration (htype : type ≠ []) (htypeWord : ∀ c ∈ type, Text.isWordChar c = true)
    (hfinal : type ≠ "final".toList) (rest : List Char) :
    touched? (type ++ ' ' :: (x ++ ' ' :: '=' :: ' ' :: rest)) = some (String.ofList x) := by
  rcases captured_declaration hx.ne_nil hx.isWordChar htype htypeWord hfinal rest with
    ⟨place, hmatch, hname⟩
  simp [touched?, hmatch, hname, isAmong_keywords hx]

theorem touched?_assignment (rest : List Char) :
    touched? (x ++ ' ' :: '=' :: ' ' :: rest) = some (String.ofList x) := by
  have hdeclaration := matchAt?_declaration_binding hx.ne_nil hx.isWordChar
    (hx.ne_of_mem (by decide)) (' ' :: rest)
  rcases captured_assignment hx.ne_nil hx.isWordChar rest with ⟨place, hmatch, hname⟩
  simp [touched?, hdeclaration, hmatch, hname, isAmong_keywords hx]

theorem touched?_increment : touched? (x ++ ['+', '+', ';']) = some (String.ofList x) := by
  have hdeclaration := matchAt?_declaration_eq_none hx.ne_nil hx.isWordChar
    (hx.ne_of_mem (by decide)) (c := '+') rfl (by decide) rfl ['+', ';']
  have hassignment := matchAt?_assignment hx.ne_nil hx.isWordChar ['+', ';'] (c := '+') rfl
  have hcount := matchAt?_count hx.ne_nil hx.isWordChar ['+', ';'] (c := '+') rfl
  have hnone : behindName ⟨lastOf none x, ['+', '+', ';'], [("name", x)]⟩ = none := rfl
  have hsome : behindCounted ⟨lastOf none x, ['+', '+', ';'], [("name", x)]⟩
      = some ⟨some ';', [], [("name", x)]⟩ := rfl
  rw [hnone] at hassignment
  rw [hsome] at hcount
  simp [touched?, hdeclaration, hassignment, hcount, Place.captured, Place.captured?,
    isAmong_keywords hx]

theorem touched?_call (rest : List Char) : touched? (x ++ '(' :: rest) = none := by
  have hdeclaration := matchAt?_declaration_eq_none hx.ne_nil hx.isWordChar
    (hx.ne_of_mem (by decide)) (c := '(') rfl (by decide) rfl rest
  have hassignment := matchAt?_assignment hx.ne_nil hx.isWordChar rest (c := '(') rfl
  have hcount := matchAt?_count hx.ne_nil hx.isWordChar rest (c := '(') rfl
  rw [behindName_eq_none (by decide) rfl] at hassignment
  rw [behindCounted_eq_none (by decide) rfl] at hcount
  simp [touched?, hdeclaration, hassignment, hcount]

end

section Words

variable {code : List Char}

theorem occursIn_exit (h : ∀ w ∈ runs code, isAmong ["return", "break", "continue", "throw"] w = false) :
    exit.occursIn code = false := by
  refine occursIn_eq_false ["return", "break", "continue", "throw"] rfl (by decide) ?_ h
  intro before rest captures hbefore hnext
  rw [wordBoundary, run] at hnext
  split at hnext
  · next hboundary => simpa [hbefore] using hboundary
  · contradiction

theorem head?_of_blank {k : Place → Option Place} (before : Option Char) (rest : List Char)
    (captures : List (String × List Char))
    (h : ((plus blank).run k ⟨before, rest, captures⟩).isSome = true) :
    rest.head?.any Text.isWordChar = false := by
  cases rest with
  | nil => rfl
  | cons c rest =>
    rw [run_plus, blank, run_char_cons] at h
    split at h
    · next hc => exact Text.isWordChar_of_isBlank hc
    · contradiction

theorem occursIn_typeHeader
    (h : ∀ w ∈ runs code, isAmong ["class", "interface", "enum", "record"] w = false) :
    typeHeader.occursIn code = false :=
  occursIn_eq_false ["class", "interface", "enum", "record"] rfl (by decide)
    (fun before rest captures _ => head?_of_blank before rest captures) h

theorem occursIn_anonymousClass (h : ∀ w ∈ runs code, isAmong ["new"] w = false) :
    anonymousClass.occursIn code = false :=
  occursIn_eq_false ["new"] rfl (by decide)
    (fun before rest captures _ => head?_of_blank before rest captures) h

theorem occursIn_initializer (h : '=' ∉ code) : initializer.occursIn code = false := by
  rw [Bool.eq_false_iff]
  intro hoccurs
  rcases (occursIn_iff initializer code).mp hoccurs with ⟨front, rest, rfl, hrun⟩
  rcases Option.isSome_iff_exists.mp hrun with ⟨place, hplace⟩
  change (notAfter "=!<>").run ((text "=").run ((notBefore '=').run some)) _ = _ at hplace
  rw [notAfter, run] at hplace
  split at hplace
  · rcases exists_of_run_text hplace with ⟨more, hmore⟩
    apply h
    dsimp only at hmore
    rw [hmore, List.mem_append]
    exact .inr (by simp)
  · contradiction

theorem occursIn_typeHeader_class {c : List Char} (hne : c ≠ [])
    (hword : ∀ d ∈ c, Text.isWordChar d = true) (rest : List Char)
    (hrest : rest.head?.any Text.isWordChar = false) :
    typeHeader.occursIn ("class".toList ++ ' ' :: (c ++ rest)) = true := by
  rw [occursIn_iff]
  refine ⟨[], "class".toList ++ ' ' :: (c ++ rest), rfl, ?_⟩
  have hname : ∃ r, (plus blank).run ((plus wordChar).run some)
      ⟨lastOf none "class".toList, ' ' :: (c ++ rest), []⟩ = some r := by
    rw [run_plus, blank, run_char_cons, if_pos (by decide),
      run_star_char_skip (Text.isBlank_head_word hne hword)]
    cases c with
    | nil => contradiction
    | cons d c =>
      rw [List.forall_mem_cons] at hword
      rw [run_plus, wordChar, List.cons_append, run_char_cons, if_pos hword.1]
      exact ⟨_, run_star_char_some hword.2 hrest rfl⟩
  rcases hname with ⟨r, hr⟩
  have hstart : (("class".toList ++ ' ' :: (c ++ rest)).head?.any Text.isWordChar) = true := rfl
  unfold typeHeader
  rw [run_append, run_append, run_append, wordBoundary, run, if_pos (by rw [hstart]; rfl), run_oneOf,
    List.findSome?_cons, lastOf, run_text_append, hr]
  rfl

end Words

end Playback.Java
