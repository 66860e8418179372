import Playback.Proofs.Cpp.Braces
import Playback.Proofs.Pattern.Search

/-!
This module contains the states that a rewrite of a C or C++ program goes through, line by line, and the
result about where it adds calls: behind a line where every open brace is taken for the one of a function
or of a block inside of one.
-/

namespace Playback.Cpp

open Pattern Source

section Course

/--
Whether a line is passed over: there is no code in it, or it is a directive.
-/
def isPassedOver (code : List Char) : Bool :=
  code.isEmpty || code.head? == some '#'

/--
The state behind some lines that are given by their code. What follows a line has no influence on it.
-/
def readLines (maxTraced : Int) (lineNo : Nat) (s : State) : List (List Char) → State
  | [] => s
  | code :: codes =>
    readLines maxTraced (lineNo + 1)
      (if isPassedOver code then s else (readLine maxTraced lineNo code [] s).1) codes

/--
The braces that are open at the end of a line, and the last code up to there.
-/
structure Nesting where
  braces : List OpenBrace := []
  lastCode : List Char := []

def Nesting.bracesBehind (nesting : Nesting) (code : List Char) : List OpenBrace :=
  followOpen nesting.lastCode [] nesting.braces code

def Nesting.read (nesting : Nesting) (code : List Char) : Nesting :=
  if isPassedOver code then nesting else { braces := nesting.bracesBehind code, lastCode := code }

def codes (source : String) : List (List Char) :=
  codeLines false ((Text.lines source).map String.toList)

/--
The code of the first lines of a program, without what is passed over.
-/
def codeUpTo (source : String) (count : Nat) : List Char :=
  (((codes source).take count).filter (!isPassedOver ·)).flatten

def stateAfter (maxTraced : Int) (source : String) (count : Nat) : State :=
  readLines maxTraced 1 {} ((codes source).take count)

def nestingAfter (source : String) (count : Nat) : Nesting :=
  ((codes source).take count).foldl Nesting.read {}

def State.scopesBehind (s : State) (lineNo : Nat) (code : List Char) : List Scope :=
  (followBraces lineNo s.scopes.isEmpty s.lastCode []
    { scopes := s.scopes, minDepth := s.scopes.length } code).scopes

theorem readLines_append (maxTraced : Int) (lineNo : Nat) (s : State) (front rest : List (List Char)) :
    readLines maxTraced lineNo s (front ++ rest)
      =
    readLines maxTraced (lineNo + front.length) (readLines maxTraced lineNo s front) rest := by
  induction front generalizing lineNo s with
  | nil => rfl
  | cons code front ih =>
    rw [List.cons_append, readLines, ih, List.length_cons, Nat.add_right_comm, Nat.add_assoc]
    rfl

end Course

section Following

structure Follows (nesting : Nesting) (s : State) : Prop where
  opened : Opened nesting.braces s.scopes
  lastCode : s.lastCode = nesting.lastCode
  worded : s.Worded

theorem follows_start : Follows {} {} where
  opened := .nil
  lastCode := rfl
  worded := ⟨by simp, ⟨by simp, by simp⟩, by simp⟩

theorem scopes_noteDeclarations {braces : List OpenBrace} {s : State} (h : Opened braces s.scopes)
    (code : List Char) (before : List Scope) (b : Braces) :
    Opened braces (noteDeclarations code before b s).scopes := by
  unfold noteDeclarations
  split
  · exact h
  · split
    · split
      · exact h.declareAt _ _
      · exact h
    · split
      · exact h
      · exact h

variable {nesting : Nesting} {s : State} (h : Follows nesting s)
include h

theorem Follows.scopesBehind (lineNo : Nat) (code : List Char) :
    Opened (nesting.bracesBehind code) (s.scopesBehind lineNo code) := by
  unfold Nesting.bracesBehind State.scopesBehind
  rw [h.lastCode]
  exact h.opened.followBraces lineNo _ _ [] code

theorem Follows.readLine (maxTraced : Int) (lineNo : Nat) {code : List Char}
    (hcode : isPassedOver code = false) :
    Follows (nesting.read code) (readLine maxTraced lineNo code [] s).1 := by
  unfold Nesting.read
  rw [hcode]
  exact ⟨scopes_noteDeclarations (h.scopesBehind lineNo code) _ _ _, rfl,
    (readLine_added maxTraced lineNo code [] h.worded).1⟩

theorem Follows.readLines (maxTraced : Int) (lineNo : Nat) (codes : List (List Char)) :
    Follows (codes.foldl Nesting.read nesting) (readLines maxTraced lineNo s codes) := by
  induction codes generalizing nesting s lineNo with
  | nil => exact h
  | cons code codes ih =>
    rw [List.foldl_cons, Cpp.readLines]
    apply ih
    cases hcode : isPassedOver code with
    | true =>
      unfold Nesting.read
      rw [hcode]
      exact h
    | false => exact h.readLine maxTraced lineNo hcode

omit h in
theorem length_braces_foldl (nesting : Nesting) (codes : List (List Char)) :
    (codes.foldl Nesting.read nesting).braces.length
      =
    braceDepth nesting.braces.length (codes.filter (!isPassedOver ·)).flatten := by
  induction codes generalizing nesting with
  | nil => rfl
  | cons code codes ih =>
    rw [List.foldl_cons, ih]
    unfold Nesting.read
    cases hcode : isPassedOver code with
    | true => rw [List.filter_cons_of_neg (by simp [hcode])]; rfl
    | false =>
      rw [List.filter_cons_of_pos (by simp [hcode]), List.flatten_cons, braceDepth_append]
      exact congrArg (braceDepth · _) (length_followOpen nesting.lastCode [] nesting.braces code)

end Following

section Lines

theorem length_codeLines (inComment : Bool) (lines : List (List Char)) :
    (codeLines inComment lines).length = lines.length := by
  induction lines generalizing inComment with
  | nil => rfl
  | cons line lines ih =>
    rw [codeLines, List.length_cons, List.length_cons]
    exact congrArg (· + 1) (ih _)

/-
A rewrite gives back each line, with what reading it adds behind it.
-/
theorem exists_woven (maxTraced : Int) (lineNo : Nat) (s : State) (lines : List (String × List Char)) :
    ∃ woven,
      rewriteLines maxTraced lineNo s lines
          = weave woven
            ++ (readLines maxTraced lineNo s (lines.map Prod.snd)).structs.flatMap dumperDefinition
        ∧ woven.map Prod.fst = lines.map Prod.fst
        ∧ ∀ i line added, woven[i]? = some (line, added) →
          ∃ code nextCode, (lines.map Prod.snd)[i]? = some code
            ∧ added =
              if isPassedOver code then []
              else
                (readLine maxTraced (lineNo + i) code nextCode
                  (readLines maxTraced lineNo s ((lines.map Prod.snd).take i))).2 := by
  induction lines generalizing lineNo s with
  | nil => exact ⟨[], rfl, rfl, by simp⟩
  | cons entry lines ih =>
    rcases entry with ⟨line, code⟩
    generalize hnext : ((lines.find? fun next => !next.2.isEmpty).map Prod.snd).getD [] = nextCode
    -- What follows a line decides what is added behind it, but not the state behind it.
    rcases ih (lineNo + 1) (if isPassedOver code then s else (readLine maxTraced lineNo code [] s).1) with
      ⟨woven, hout, hown, hadded⟩
    refine ⟨(line, if isPassedOver code then [] else (readLine maxTraced lineNo code nextCode s).2)
      :: woven, ?_, by simp [hown], ?_⟩
    · rw [rewriteLines, List.map_cons, readLines]
      cases hcode : isPassedOver code with
      | true =>
        rw [hcode] at hout
        rw [isPassedOver] at hcode
        rw [if_pos hcode]
        exact congrArg (line :: ·) hout
      | false =>
        rw [hcode] at hout
        rw [isPassedOver] at hcode
        rw [if_neg (by rw [hcode]; simp), hnext]
        have hline := congrArg (line :: (readLine maxTraced lineNo code nextCode s).2 ++ ·) hout
        exact hline.trans (by simp [weave])
    · rintro (_ | i) line' added' hentry
      · rw [List.getElem?_cons_zero, Option.some_inj, Prod.mk.injEq] at hentry
        exact ⟨code, nextCode, rfl, hentry.2.symm⟩
      · rw [List.getElem?_cons_succ] at hentry
        rcases hadded i line' added' hentry with ⟨code', nextCode', hcode', hadded'⟩
        refine ⟨code', nextCode', hcode', ?_⟩
        rw [hadded', List.map_cons, List.take_succ_cons, readLines, Nat.add_right_comm, Nat.add_assoc]

theorem map_snd_zip_codes (source : String) :
    ((Text.lines source).zip (codes source)).map Prod.snd = codes source := by
  apply List.map_snd_zip
  rw [codes, length_codeLines, List.length_map]

theorem map_fst_zip_codes (source : String) :
    ((Text.lines source).zip (codes source)).map Prod.fst = Text.lines source := by
  apply List.map_fst_zip
  rw [codes, length_codeLines, List.length_map]

theorem stateAfter_succ (maxTraced : Int) {source : String} {i : Nat} {code : List Char}
    (hcode : (codes source)[i]? = some code) (h : isPassedOver code = false) :
    stateAfter maxTraced source (i + 1)
      =
    (readLine maxTraced (1 + i) code [] (stateAfter maxTraced source i)).1 := by
  have hlength : ((codes source).take i).length = i := by
    rw [List.length_take, Nat.min_eq_left]
    exact Nat.le_of_lt (List.getElem?_eq_some_iff.mp hcode).1
  unfold stateAfter
  rw [List.take_add_one, hcode, Option.toList_some, readLines_append, hlength, readLines, h]
  rfl

end Lines

section Result

structure Stacked (braces : List OpenBrace) (scopes : List Scope) (depth : Nat) : Prop where
  layered : Layered scopes
  length_scopes : scopes.length = depth
  length_braces : braces.length = depth
  in_function : InFunction braces ↔ scopes ≠ [] ∧ ∀ scope ∈ scopes, scope.kind = .block

theorem Opened.stacked {braces : List OpenBrace} {scopes : List Scope} {depth : Nat}
    (h : Opened braces scopes) (hdepth : braces.length = depth) : Stacked braces scopes depth where
  layered := h.layered
  length_scopes := h.length_eq.trans hdepth
  length_braces := hdepth
  in_function := by
    rw [← opensBlock_iff]
    constructor
    · intro hbraces
      refine ⟨?_, h.all_block hbraces⟩
      rintro rfl
      cases h
      contradiction
    · rintro ⟨hne, hall⟩
      rw [← h.head_isBlock]
      cases scopes with
      | nil => contradiction
      | cons scope scopes =>
        rw [List.head?_cons, Option.any_some, hall scope List.mem_cons_self]
        rfl

theorem follows_after (maxTraced : Int) (source : String) (count : Nat) :
    Follows (nestingAfter source count) (stateAfter maxTraced source count) :=
  follows_start.readLines maxTraced 1 _

theorem stacked_after (maxTraced : Int) (source : String) (count : Nat) :
    Stacked (nestingAfter source count).braces (stateAfter maxTraced source count).scopes
      (braceDepth 0 (codeUpTo source count)) :=
  (follows_after maxTraced source count).opened.stacked (length_braces_foldl {} _)

theorem stacked_within (maxTraced : Int) (source : String) (count : Nat) (code : List Char) :
    Stacked ((nestingAfter source count).bracesBehind code)
      ((stateAfter maxTraced source count).scopesBehind (count + 1) code)
      (braceDepth 0 (codeUpTo source count ++ code)) := by
  apply ((follows_after maxTraced source count).scopesBehind (count + 1) code).stacked
  have hcount : (nestingAfter source count).braces.length = braceDepth 0 (codeUpTo source count) :=
    length_braces_foldl {} _
  rw [Nesting.bracesBehind, length_followOpen, hcount, braceDepth_append]

/-
A rewrite adds at most one call behind a line, only inside of a block, and it names what is visible there.
-/
theorem exists_visible_calls (source : String) (maxTraced : Int) :
    ∃ woven, ∃ structs : List Struct,
      rewrite source maxTraced = Text.unlines (weave woven ++ structs.flatMap dumperDefinition)
        ∧ woven.map Prod.fst = Text.lines source
        ∧ ∀ i line added, woven[i]? = some (line, added) →
          let after := stateAfter maxTraced source (i + 1)
          ∃ others call, added = others ++ call
            ∧ (∀ other ∈ others, ∀ lineNo names, other ≠ traceCall lineNo names)
            ∧ (call = []
              ∨ call = [traceCall (i + 1) (visible maxTraced after.scopes after.globals)]
                ∧ after.scopes.head?.any (·.kind.isBlock) = true) := by
  rcases exists_woven maxTraced 1 {} ((Text.lines source).zip (codes source)) with
    ⟨woven, hout, hown, hadded⟩
  rw [map_snd_zip_codes] at hadded
  refine ⟨woven, _, congrArg Text.unlines hout, hown.trans (map_fst_zip_codes source), ?_⟩
  intro i line added hentry after
  rcases hadded i line added hentry with ⟨code, nextCode, hcode, rfl⟩
  cases hpassed : isPassedOver code with
  | true => exact ⟨[], [], rfl, by simp, .inl rfl⟩
  | false =>
    have hafter : (readLine maxTraced (1 + i) code nextCode (stateAfter maxTraced source i)).1 = after :=
      (stateAfter_succ maxTraced hcode hpassed).symm
    rcases readLine_added maxTraced (1 + i) code nextCode (follows_after maxTraced source i).worded with
      ⟨_, others, call, hlines, hothers, hcall⟩
    rw [hafter] at hcall
    refine ⟨others, call, hlines, fun other hother => (hothers other hother).ne_traceCall, ?_⟩
    rcases hcall with hnone | ⟨hblock, hcall⟩
    · exact .inl hnone
    · rw [Nat.add_comm] at hcall
      exact .inr ⟨hcall, hblock⟩

/-
The names of an added call have been declared in the open scopes or outside of all of them.
-/
theorem exists_calls (source : String) (maxTraced : Int) :
    ∃ woven, ∃ structs : List Struct,
      rewrite source maxTraced = Text.unlines (weave woven ++ structs.flatMap dumperDefinition)
        ∧ woven.map Prod.fst = Text.lines source
        ∧ ∀ i line added, woven[i]? = some (line, added) →
          let after := stateAfter maxTraced source (i + 1)
          ∃ others call, added = others ++ call
            ∧ (∀ other ∈ others, ∀ lineNo names, other ≠ traceCall lineNo names)
            ∧ (call = []
              ∨ ∃ names, call = [traceCall (i + 1) names]
                ∧ after.scopes.head?.any (·.kind.isBlock) = true
                ∧ ∀ d ∈ names, d ∈ after.globals.declared ∨ ∃ scope ∈ after.scopes, d ∈ scope.declared) := by
  rcases exists_visible_calls source maxTraced with ⟨woven, structs, hout, hown, hcalls⟩
  refine ⟨woven, structs, hout, hown, ?_⟩
  intro i line added hentry after
  rcases hcalls i line added hentry with ⟨others, call, hlines, hothers, hcall⟩
  refine ⟨others, call, hlines, hothers, ?_⟩
  rcases hcall with hnone | ⟨hcall, hblock⟩
  · exact .inl hnone
  · exact .inr ⟨_, hcall, hblock, fun d => mem_declared_of_mem_visible⟩

/-
Every call stands inside of a function, as far as the headers of the open braces tell.
-/
theorem exists_calls_in_functions (source : String) (maxTraced : Int) :
    ∃ woven, ∃ structs : List Struct,
      rewrite source maxTraced = Text.unlines (weave woven ++ structs.flatMap dumperDefinition)
        ∧ woven.map Prod.fst = Text.lines source
        ∧ ∀ i line added, woven[i]? = some (line, added) →
          let after := stateAfter maxTraced source (i + 1)
          ∃ others call, added = others ++ call
            ∧ (∀ other ∈ others, ∀ lineNo names, other ≠ traceCall lineNo names)
            ∧ (call = []
              ∨ ∃ names, call = [traceCall (i + 1) names]
                ∧ InFunction (nestingAfter source (i + 1)).braces
                ∧ ∀ d ∈ names, d ∈ after.globals.declared ∨ ∃ scope ∈ after.scopes, d ∈ scope.declared) := by
  rcases exists_calls source maxTraced with ⟨woven, structs, hout, hown, hcalls⟩
  refine ⟨woven, structs, hout, hown, ?_⟩
  intro i line added hentry after
  rcases hcalls i line added hentry with ⟨others, call, hlines, hothers, hcall⟩
  refine ⟨others, call, hlines, hothers, ?_⟩
  rcases hcall with hnone | ⟨names, hcall, hblock, hnames⟩
  · exact .inl hnone
  · refine .inr ⟨names, hcall, ?_, hnames⟩
    rw [← opensBlock_iff, ← (follows_after maxTraced source (i + 1)).opened.head_isBlock]
    exact hblock

/--
Behind each line and within it, the scopes are blocks with other scopes in them, or a structure with
other scopes in it, and there are as many of them as open braces. Calls are added only behind a line where
every open brace is taken for the one of a function or of a block inside of one, and they name what has been
declared in the scopes of these braces or outside of all of them.
-/
theorem rewrite_calls_in_functions (source : String) (maxTraced : Int) :
    (∀ count,
      Stacked (nestingAfter source count).braces (stateAfter maxTraced source count).scopes
          (braceDepth 0 (codeUpTo source count))
        ∧ ∀ code,
          Stacked ((nestingAfter source count).bracesBehind code)
            ((stateAfter maxTraced source count).scopesBehind (count + 1) code)
            (braceDepth 0 (codeUpTo source count ++ code)))
    ∧ ∃ woven, ∃ structs : List Struct,
      rewrite source maxTraced = Text.unlines (weave woven ++ structs.flatMap dumperDefinition)
        ∧ woven.map Prod.fst = Text.lines source
        ∧ ∀ i line added, woven[i]? = some (line, added) →
          let after := stateAfter maxTraced source (i + 1)
          ∃ others call, added = others ++ call
            ∧ (∀ other ∈ others, ∀ lineNo names, other ≠ traceCall lineNo names)
            ∧ (call = []
              ∨ ∃ names, call = [traceCall (i + 1) names]
                ∧ InFunction (nestingAfter source (i + 1)).braces
                ∧ ∀ d ∈ names, d ∈ after.globals.declared ∨ ∃ scope ∈ after.scopes, d ∈ scope.declared) := by
  exact ⟨fun count => ⟨stacked_after maxTraced source count, stacked_within maxTraced source count⟩,
    exists_calls_in_functions source maxTraced⟩

/--
A lambda expression with a function among its parameters is taken for a block, and calls are added to it.
-/
theorem rewrite_calls_in_lambda :
    rewrite
        (Text.unlines ["int main() \x7b", "    auto apply = [](std::function<int(int)> f) \x7b",
          "        int y = f(1);", "        return y;", "    \x7d;", "    return 0;", "\x7d"])
        defaultMaxTraced
      =
    Text.unlines ["int main() \x7b", "__pt_trace_impl(1);",
      "    auto apply = [](std::function<int(int)> f) \x7b", "__pt_trace_impl(2, \"apply\", apply);",
      "        int y = f(1);", "__pt_trace_impl(3, \"y\", y, \"apply\", apply);", "        return y;",
      "    \x7d;", "__pt_trace_impl(5, \"apply\", apply);", "    return 0;", "\x7d"] := by
  decide +kernel

/-
A header ends like a lambda expression if neither its captures nor its parameters close their brackets
before the end.
-/
theorem occursIn_lambdaEnd_of_closed (front : List Char) {captures parameters : List Char}
    (hcaptures : ']' ∉ captures) (hparameters : ')' ∉ parameters) :
    lambdaEnd.occursIn (front ++ '[' :: (captures ++ ']' :: '(' :: (parameters ++ [')']))) = true := by
  have haccepts : ∀ {c : Char} {cs : List Char}, c ∉ cs → ∀ d ∈ cs, (!List.contains [c] d) = true := by
    intro c cs hc d hd
    rw [Bool.not_eq_true', List.contains_eq_mem, decide_eq_false_iff_not, List.mem_singleton]
    rintro rfl
    exact hc hd
  rw [occursIn_iff]
  refine ⟨front, _, rfl, ?_⟩
  unfold lambdaEnd dimension blanks blank except
  simp only [run_append]
  rw [isSome_run_text]
  refine ⟨_, rfl, ?_⟩
  rw [isSome_run_star_char]
  refine ⟨captures, _, rfl, haccepts hcaptures, ?_⟩
  rw [isSome_run_text]
  refine ⟨_, rfl, ?_⟩
  rw [isSome_run_star_char]
  refine ⟨[], _, rfl, by simp, ?_⟩
  rw [run_opt, Option.isSome_or, Bool.or_eq_true, run_append, run_append, isSome_run_text]
  left
  refine ⟨_, rfl, ?_⟩
  rw [isSome_run_star_char]
  refine ⟨parameters, _, rfl, haccepts hparameters, ?_⟩
  rw [isSome_run_text]
  refine ⟨[], rfl, ?_⟩
  -- Nothing is left but what may be left out.
  rfl

/--
No call is added behind a line inside of a structure at the top of the program, nor inside of a lambda
expression, if the header is recognised as that of one. It is if neither its captures nor its parameters
close their brackets before the end.
-/
theorem rewrite_skips_bodies (source : String) (maxTraced : Int) :
    (∀ front captures parameters : List Char, ']' ∉ captures → ')' ∉ parameters →
      lambdaEnd.occursIn (front ++ '[' :: (captures ++ ']' :: '(' :: (parameters ++ [')']))) = true)
    ∧ ∃ woven, ∃ structs : List Struct,
      rewrite source maxTraced = Text.unlines (weave woven ++ structs.flatMap dumperDefinition)
        ∧ woven.map Prod.fst = Text.lines source
        ∧ ∀ i line added, woven[i]? = some (line, added) →
          let braces := (nestingAfter source (i + 1)).braces
          (∃ b ∈ braces, lambdaEnd.occursIn b.header = true) ∨ (∃ f ∈ braces.getLast?, f.isStruct = true) →
            ∀ other ∈ added, ∀ lineNo names, other ≠ traceCall lineNo names := by
  refine ⟨fun front _ _ => occursIn_lambdaEnd_of_closed front, ?_⟩
  rcases exists_calls_in_functions source maxTraced with ⟨woven, structs, hout, hown, hcalls⟩
  refine ⟨woven, structs, hout, hown, ?_⟩
  intro i line added hentry braces hbody
  rcases hcalls i line added hentry with ⟨others, call, rfl, hothers, rfl | ⟨names, _, hfunction, _⟩⟩
  · rw [List.append_nil]
    exact hothers
  · rcases hbody with ⟨b, hb, hlambda⟩ | ⟨f, hf, hstruct⟩
    · rw [hfunction.not_lambda b hb] at hlambda
      contradiction
    · rw [hfunction.not_struct f hf] at hstruct
      contradiction

end Result

end Playback.Cpp
