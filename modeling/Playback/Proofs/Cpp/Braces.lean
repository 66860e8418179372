import Playback.Proofs.Cpp.Added

/-!
This module contains which braces are open at a place of a C or C++ program, and what they say about the
scopes of a rewrite there: an open brace stands for one scope, blocks stand around everything else that
is open, and calls are added only where every open brace is taken for the one of a function or of a block
inside of one.
-/

namespace Playback.Cpp

open Pattern Source

section Headers

/--
An open brace: the text that introduces it, and the code of the last line in front of its own.
-/
structure OpenBrace where
  header : List Char
  lastCode : List Char
deriving DecidableEq

/--
Whether a brace at the top of a file is taken for the one of a structure, which has a name or is about to
get one.
-/
def OpenBrace.isStruct (b : OpenBrace) : Bool :=
  match structHeader.matchAt? b.header with
  | none => false
  | some place =>
    !"template".toList.isPrefixOf b.lastCode
      && ((place.captured? "name").isSome || !(place.captured "typedef").isEmpty)

/--
Whether a brace at the top of a file is taken for the one of a function: there are parentheses in front
of it and the last one, with words like `const` behind it, is not the end of a lambda expression.
-/
def OpenBrace.isFunction (b : OpenBrace) : Bool :=
  !b.isStruct && (b.header.contains '(' && functionEnd.occursIn b.header
    && !lambdaEnd.occursIn b.header)

/--
Whether a brace inside a block is taken for the one of another block: a parenthesis, a word like `else` or
the end of a statement stands in front of it, and not the end of a lambda expression.
-/
def OpenBrace.isBlock (b : OpenBrace) : Bool :=
  !lambdaEnd.occursIn b.header
    && (b.header.getLast? == some ')' || functionEnd.occursIn b.header
      || (Text.words b.header).getLast?.any (isAmong blockWords)
      || b.header.getLast?.any fun c => [';', ':', '{', '}'].contains c)

def opensBlock : List OpenBrace → Bool
  | [] => false
  | [b] => b.isFunction
  | b :: outer => opensBlock outer && b.isBlock

def opensStruct : List OpenBrace → Bool
  | [b] => b.isStruct
  | _ => false

theorem opensBlock_cons_cons (b outer : OpenBrace) (braces : List OpenBrace) :
    opensBlock (b :: outer :: braces) = (opensBlock (outer :: braces) && b.isBlock) :=
  rfl

theorem isStruct_topLevelKind (lineNo : Nat) (b : OpenBrace) :
    (topLevelKind lineNo b.lastCode b.header).isStruct = b.isStruct := by
  unfold topLevelKind OpenBrace.isStruct
  cases structHeader.matchAt? b.header with
  | none =>
    dsimp only [Option.bind_eq_bind, Option.bind_none]
    split <;> rfl
  | some place =>
    dsimp only [Option.bind_eq_bind, Option.bind_some]
    cases "template".toList.isPrefixOf b.lastCode
      <;> cases (place.captured? "name").isSome || !(place.captured "typedef").isEmpty
      <;> cases b.header.contains '(' && functionEnd.occursIn b.header && !lambdaEnd.occursIn b.header
      <;> rfl

theorem isBlock_topLevelKind (lineNo : Nat) (b : OpenBrace) :
    (topLevelKind lineNo b.lastCode b.header).isBlock = b.isFunction := by
  unfold topLevelKind OpenBrace.isFunction OpenBrace.isStruct
  cases structHeader.matchAt? b.header with
  | none =>
    dsimp only [Option.bind_eq_bind, Option.bind_none]
    cases b.header.contains '(' && functionEnd.occursIn b.header && !lambdaEnd.occursIn b.header <;> rfl
  | some place =>
    dsimp only [Option.bind_eq_bind, Option.bind_some]
    cases "template".toList.isPrefixOf b.lastCode
      <;> cases (place.captured? "name").isSome || !(place.captured "typedef").isEmpty
      <;> cases b.header.contains '(' && functionEnd.occursIn b.header && !lambdaEnd.occursIn b.header
      <;> rfl

theorem isBlock_nestedKind (b : OpenBrace) : (nestedKind b.header).isBlock = b.isBlock := by
  unfold nestedKind OpenBrace.isBlock
  dsimp only
  cases lambdaEnd.occursIn b.header
    <;> cases b.header.getLast? == some ')' || functionEnd.occursIn b.header
    <;> cases (Text.words b.header).getLast?.any (isAmong blockWords)
    <;> cases b.header.getLast?.any fun c => [';', ':', '{', '}'].contains c
    <;> rfl

theorem isStruct_nestedKind (header : List Char) : (nestedKind header).isStruct = false := by
  unfold nestedKind
  dsimp only
  repeat' split
  all_goals rfl

end Headers

section Following

/--
The braces that are open behind a piece of code, the innermost one first, given those in front of it. A
closing brace too many is passed over. `before` is the code in front of the current character, reversed.
-/
def followOpen (lastCode : List Char) (before : List Char) (braces : List OpenBrace) :
    List Char → List OpenBrace
  | [] => braces
  | c :: cs =>
    let next :=
      if c == '{' then
        let shown := Text.trim before.reverse
        { header := if shown.isEmpty then lastCode else shown, lastCode } :: braces
      else if c == '}' then braces.tail
      else braces
    followOpen lastCode (c :: before) next cs

/--
How many braces are open behind a piece of code, given how many are open in front of it. A closing brace
too many is passed over.
-/
def braceDepth (depth : Nat) : List Char → Nat
  | [] => depth
  | c :: cs =>
    braceDepth (if c == '{' then depth + 1 else if c == '}' then depth - 1 else depth) cs

theorem braceDepth_append (depth : Nat) (front rest : List Char) :
    braceDepth depth (front ++ rest) = braceDepth (braceDepth depth front) rest := by
  induction front generalizing depth with
  | nil => rfl
  | cons c front ih => exact ih _

theorem length_followOpen (lastCode before : List Char) (braces : List OpenBrace) (code : List Char) :
    (followOpen lastCode before braces code).length = braceDepth braces.length code := by
  induction code generalizing before braces with
  | nil => rfl
  | cons c code ih =>
    rw [followOpen, ih, braceDepth]
    congr 1
    split
    · rfl
    · split
      · apply List.length_tail
      · rfl

end Following

section Stack

/--
Whether nested scopes are those that open braces stand for.
-/
inductive Opened : List OpenBrace → List Scope → Prop where
  | nil : Opened [] []
  | cons {b : OpenBrace} {braces : List OpenBrace} {scope : Scope} {scopes : List Scope}
      (hblock : scope.kind.isBlock = opensBlock (b :: braces))
      (hstruct : scope.kind.isStruct = opensStruct (b :: braces)) (h : Opened braces scopes) :
      Opened (b :: braces) (scope :: scopes)

/--
Whether blocks, or a single structure, stand around scopes that are none of both.
-/
def Layered (scopes : List Scope) : Prop :=
  ∃ inner outer, scopes = inner ++ outer
    ∧ (∀ scope ∈ inner, scope.kind = .expression)
    ∧ ((∀ scope ∈ outer, scope.kind = .block) ∨ ∃ scope head, outer = [scope] ∧ scope.kind = .struct head)

/--
Whether the outermost one of nested braces is taken for the one of a function and the others for those of
blocks inside of it.
-/
def InFunction (braces : List OpenBrace) : Prop :=
  ∃ inner f, braces = inner ++ [f] ∧ f.isFunction = true ∧ ∀ b ∈ inner, b.isBlock = true

theorem opensBlock_iff (braces : List OpenBrace) : opensBlock braces = true ↔ InFunction braces := by
  unfold InFunction
  induction braces with
  | nil => simp [opensBlock]
  | cons b braces ih =>
    cases braces with
    | nil =>
      constructor
      · exact fun h => ⟨[], b, rfl, h, by simp⟩
      · rintro ⟨inner, f, heq, hf, _⟩
        rcases List.singleton_eq_append_iff.mp heq with ⟨_, hf'⟩ | ⟨_, hf'⟩
        · cases hf'
          exact hf
        · simp at hf'
    | cons b' braces =>
      rw [opensBlock_cons_cons, Bool.and_eq_true, ih]
      constructor
      · rintro ⟨⟨inner, f, heq, hf, hinner⟩, hb⟩
        refine ⟨b :: inner, f, by rw [heq, List.cons_append], hf, ?_⟩
        rw [List.forall_mem_cons]
        exact ⟨hb, hinner⟩
      · rintro ⟨inner, f, heq, hf, hinner⟩
        cases inner with
        | nil => simp at heq
        | cons d inner =>
          rw [List.cons_append, List.cons.injEq] at heq
          rw [List.forall_mem_cons] at hinner
          exact ⟨⟨inner, f, heq.2, hf, hinner.2⟩, heq.1 ▸ hinner.1⟩

theorem InFunction.not_lambda {braces : List OpenBrace} (h : InFunction braces) :
    ∀ b ∈ braces, lambdaEnd.occursIn b.header = false := by
  rcases h with ⟨inner, f, rfl, hf, hinner⟩
  rw [List.forall_mem_append, List.forall_mem_singleton]
  constructor
  · intro b hb
    have hblock := hinner b hb
    unfold OpenBrace.isBlock at hblock
    rw [Bool.and_eq_true, Bool.not_eq_true'] at hblock
    exact hblock.1
  · unfold OpenBrace.isFunction at hf
    rw [Bool.and_eq_true, Bool.and_eq_true, Bool.not_eq_true', Bool.not_eq_true'] at hf
    exact hf.2.2

theorem InFunction.not_struct {braces : List OpenBrace} (h : InFunction braces) :
    ∀ f ∈ braces.getLast?, f.isStruct = false := by
  rcases h with ⟨inner, f, rfl, hf, _⟩
  rw [List.getLast?_concat]
  rintro _ ⟨rfl⟩
  unfold OpenBrace.isFunction at hf
  rw [Bool.and_eq_true, Bool.not_eq_true'] at hf
  exact hf.1

theorem kind_declareAll (scope : Scope) (ds : List Declared) :
    (scope.declareAll ds).kind = scope.kind := by
  unfold Scope.declareAll
  induction ds generalizing scope with
  | nil => rfl
  | cons d ds ih => exact ih (scope.declare d)

theorem kind_openScope (atTop : Bool) (kind : ScopeKind) (header : List Char) :
    (openScope atTop kind header).kind = kind := by
  unfold openScope
  dsimp only
  split
  · apply kind_declareAll
  · rfl

namespace Opened

variable {braces : List OpenBrace} {scopes : List Scope}

theorem length_eq (h : Opened braces scopes) : scopes.length = braces.length := by
  induction h with
  | nil => rfl
  | cons _ _ _ ih => rw [List.length_cons, List.length_cons, ih]

theorem eq_block {kind : ScopeKind} (h : kind.isBlock = true) : kind = .block := by
  cases kind with
  | block => rfl
  | expression => contradiction
  | struct head => contradiction

theorem all_block (h : Opened braces scopes) (hbraces : opensBlock braces = true) :
    ∀ scope ∈ scopes, scope.kind = .block := by
  induction h with
  | nil => simp
  | @cons b braces scope scopes hblock _ h ih =>
    rw [List.forall_mem_cons]
    refine ⟨eq_block (hblock.trans hbraces), ?_⟩
    cases h with
    | nil => simp
    | cons _ _ _ =>
      rw [opensBlock_cons_cons, Bool.and_eq_true] at hbraces
      exact ih hbraces.1

theorem head_isBlock (h : Opened braces scopes) :
    scopes.head?.any (·.kind.isBlock) = opensBlock braces := by
  cases h with
  | nil => rfl
  | cons hblock _ _ => exact hblock

theorem layered (h : Opened braces scopes) : Layered scopes := by
  induction h with
  | nil => exact ⟨[], [], rfl, by simp, .inl (by simp)⟩
  | @cons b braces scope scopes hblock hstruct h ih =>
    cases hkind : scope.kind with
    | block =>
      rw [hkind] at hblock
      have hopened : Opened (b :: braces) (scope :: scopes) := .cons (by rw [hkind]; exact hblock) hstruct h
      exact ⟨[], scope :: scopes, rfl, by simp, .inl (hopened.all_block hblock.symm)⟩
    | expression =>
      rcases ih with ⟨inner, outer, heq, hinner, houter⟩
      refine ⟨scope :: inner, outer, by rw [heq, List.cons_append], ?_, houter⟩
      rw [List.forall_mem_cons]
      exact ⟨hkind, hinner⟩
    | struct head =>
      rw [hkind] at hstruct
      cases h with
      | nil => exact ⟨[], [scope], rfl, by simp, .inr ⟨scope, head, rfl, hkind⟩⟩
      | cons _ _ _ => contradiction

theorem of_flags_eq {others : List Scope} (h : Opened braces scopes)
    (hflags : others.map (fun scope => (scope.kind.isBlock, scope.kind.isStruct))
      = scopes.map fun scope => (scope.kind.isBlock, scope.kind.isStruct)) :
    Opened braces others := by
  induction h generalizing others with
  | nil =>
    rw [List.map_nil, List.map_eq_nil_iff] at hflags
    rw [hflags]
    exact .nil
  | cons hblock hstruct _ ih =>
    rw [List.map_cons, List.map_eq_cons_iff] at hflags
    rcases hflags with ⟨other, others, rfl, hflag, hrest⟩
    rw [Prod.mk.injEq] at hflag
    exact .cons (hflag.1.trans hblock) (hflag.2.trans hstruct) (ih hrest)

theorem addToBody (h : Opened braces scopes) (text : List Char) :
    Opened braces (addToBody text scopes) := by
  apply h.of_flags_eq
  unfold Cpp.addToBody
  split <;> rfl

theorem declareAt (h : Opened braces scopes) (depth : Nat) (ds : List Declared) :
    Opened braces (declareAt depth ds scopes) := by
  apply h.of_flags_eq
  unfold Cpp.declareAt
  generalize scopes.length - depth = i
  apply List.ext_getElem?
  intro j
  rw [List.getElem?_map, List.getElem?_map, List.getElem?_modify]
  cases scopes[j]? with
  | none => rfl
  | some scope =>
    have hkind : (scope.declareAll ds).kind = scope.kind := kind_declareAll scope ds
    by_cases hj : i = j
    · simp [hj, hkind]
    · simp [hj]

/-
A brace that opens stands for the scope that is opened there.
-/
theorem openScope (h : Opened braces scopes) (lineNo : Nat) (atTop : Bool) (b : OpenBrace) :
    Opened (b :: braces)
      (openScope atTop (openedKind lineNo scopes b.lastCode b.header) b.header :: scopes) := by
  cases h with
  | nil =>
    refine .cons ?_ ?_ .nil
    · rw [kind_openScope]
      exact isBlock_topLevelKind lineNo b
    · rw [kind_openScope]
      exact isStruct_topLevelKind lineNo b
  | @cons outer braces parent scopes hblock hstruct h =>
    have hnested : openedKind lineNo (parent :: scopes) b.lastCode b.header
        = if opensBlock (outer :: braces) then nestedKind b.header else .expression := by
      rw [openedKind, hblock]
    refine .cons ?_ ?_ (.cons hblock hstruct h)
    · rw [kind_openScope, hnested, opensBlock_cons_cons]
      cases opensBlock (outer :: braces) with
      | false => rfl
      | true => exact isBlock_nestedKind b
    · rw [kind_openScope, hnested]
      split
      · exact isStruct_nestedKind b.header
      · rfl

theorem followBraces {b : Braces} (h : Opened braces b.scopes) (lineNo : Nat) (atTop : Bool)
    (lastCode before code : List Char) :
    Opened (followOpen lastCode before braces code)
      (followBraces lineNo atTop lastCode before b code).scopes := by
  induction code generalizing before braces b with
  | nil => exact h.addToBody [' ']
  | cons c code ih =>
    rw [followOpen, Cpp.followBraces]
    apply ih
    split
    · exact h.openScope lineNo atTop _
    · split
      · split
        · next hscopes =>
          rw [hscopes] at h ⊢
          cases h
          exact .nil
        · next scope rest hscopes =>
          rw [hscopes] at h
          cases h with
          | cons _ _ hrest => exact hrest.addToBody [';']
      · exact h.addToBody [c]

end Opened

end Stack

end Playback.Cpp
