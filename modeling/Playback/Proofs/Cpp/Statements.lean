import Playback.Proofs.Cpp.Scopes
import Playback.Proofs.Source.Layout

/-!
This module contains the result about the C++ fragment: behind which lines a rewrite reports, and that it
names the variables that are in scope there.
-/

namespace Playback.Cpp

open Source

section Lines

def Line.keyword : Line → List Char
  | ifHeader _ => ['i', 'f']
  | whileHeader _ => ['w', 'h', 'i', 'l', 'e']
  | forHeader _ => ['f', 'o', 'r']
  | _ => []

theorem Line.isAmong_firstWord {words : List String} (hwords : ∀ w ∈ words, w ∈ otherKeywords)
    (line : Line) : isAmong words (firstWord line.code) = isAmong words line.keyword := by
  have hempty : isAmong words [] = false := by
    rw [Bool.eq_false_iff]
    intro hmem
    rw [isAmong, List.contains_iff_mem] at hmem
    exact absurd (hwords _ hmem) (by decide)
  have htype : ∀ (type : TypeName) rest, isAmong words (firstWord (type.chars ++ ' ' :: rest)) = false := by
    intro type rest
    rcases type.exists_first_append rest with ⟨first, more, hparts, hfree, hmore⟩
    rw [hparts, hfree.firstWord_append hmore]
    exact (hfree.of_subset hwords).free
  cases line with
  | functionHeader type f parameters =>
    have hcode : (functionHeader type f parameters).code
        = type.chars ++ ' ' :: (f.chars ++ '(' :: (parameterList parameters ++ [')', ' ', '{'])) := by
      simp [code, header?]
    rw [hcode]
    exact (htype type _).trans hempty.symm
  | declaration type x e => exact (htype type _).trans hempty.symm
  | assignment x e =>
    have hx := x.freeWord.of_subset fun w hw => mem_keywords (hwords w hw)
    rw [code, binding, List.append_assoc, hx.firstWord_append rfl]
    exact hx.free.trans hempty.symm
  | ifHeader e => rfl
  | whileHeader e => rfl
  | forHeader counter => rfl
  | closing => rfl

theorem Line.isAmong_notTracedAfter (line : Line) :
    isAmong notTracedAfter (firstWord line.code) = isAmong notTracedAfter line.keyword :=
  line.isAmong_firstWord (by simp [notTracedAfter, otherKeywords])

/--
Whether a line does not keep the lines in front of it and behind it from being reported.
-/
structure Tame (code : List Char) : Prop where
  next : isAmong ["else", "catch"] (firstWord code) = false
  last : isAmong ["do"] (firstWord code) = false

theorem Line.tame (line : Line) : Tame line.code where
  next := by
    rw [line.isAmong_firstWord (by decide)]
    cases line <;> simp [Line.keyword, isAmong]
  last := by
    rw [line.isAmong_firstWord (by decide)]
    cases line <;> simp [Line.keyword, isAmong]

/-
A block that goes on with a loop, and nothing else, makes the brace in front of it look like the end of
another loop.
-/
theorem isAmong_while_headD (limit : Nat) (block : Block) (names : List String) (outer : List (List String))
    {codes : List (List Char)} (hcodes : codes.headD [] = Line.closing.code) :
    isAmong ["while"]
      (firstWord (((block.script limit names outer).map (fun entry => entry.1.code) ++ codes).headD []))
      =
    block.startsWithWhile := by
  have hwords : ∀ w ∈ ["while"], w ∈ otherKeywords := by decide
  cases block with
  | done =>
    rw [Block.script, List.map_nil, List.nil_append, hcodes, Line.isAmong_firstWord hwords]
    decide
  | declare type x e rest => exact Line.isAmong_firstWord hwords (.declaration type x e)
  | assign x e rest => exact Line.isAmong_firstWord hwords (.assignment x e)
  | ifThen e inner rest => exact Line.isAmong_firstWord hwords (.ifHeader e)
  | whileDo e inner rest => exact Line.isAmong_firstWord hwords (.whileHeader e)
  | forDo counter inner rest => exact Line.isAmong_firstWord hwords (.forHeader counter)

theorem tame_headD {script : List (Line × (Nat → List String))} {codes : List (List Char)}
    (hcodes : codes.headD [] = Line.closing.code) :
    Tame ((script.map (fun entry => entry.1.code) ++ codes).headD []) := by
  cases script with
  | nil =>
    rw [List.map_nil, List.nil_append, hcodes]
    exact Line.closing.tame
  | cons entry script => exact entry.1.tame

end Lines

section Traced

variable {code next lastCode : List Char}

theorem isTraced_inside (before after : List String) (outer inner : List (List String))
    (openedBlock : Bool) :
    isTraced code next lastCode ((before :: outer).map blockScope) ((after :: inner).map blockScope)
        openedBlock
      =
    (code.getLast?.any (fun c => [';', '{', '}'].contains c)
      && !isAmong notTracedAfter (firstWord code)
      && !isAmong ["else", "catch"] (firstWord next)
      && !(isAmong ["while"] (firstWord next)
        && (code.head? == some '}' || isAmong ["do"] (firstWord lastCode)))) := by
  have hblock : ∀ names, (blockScope names).kind.isBlock = true := fun _ => rfl
  unfold isTraced
  rw [List.map_cons, List.map_cons, if_neg (by simp [hblock]), if_neg (by simp), if_neg (by simp [hblock])]
  cases code.getLast?.any (fun c => [';', '{', '}'].contains c) with
  | false => rfl
  | true =>
    cases isAmong notTracedAfter (firstWord code) with
    | true => rfl
    | false => cases h : isAmong ["else", "catch"] (firstWord next) <;> simp [h]

end Traced

section Steps

variable {limit : Nat} {names globals : List String} {outer : List (List String)}
  {next lastCode : List Char} (lineNo : Nat) (hnext : Tame next) (hlast : Tame lastCode)

include hnext hlast in
/-
A statement within a block declares its names and is reported.
-/
theorem readLine_statement {line : Line} (xs : List String)
    (hmade : MadeOf [' ', '+', '<', '=', ';'] line.code) (hend : line.code.getLast? = some ';')
    (hcode : declarations line.code true = xs.map (⟨·, .variable⟩)) (hkeyword : line.keyword = []) :
    readLine limit lineNo line.code next (inBlocks (names :: outer) globals lastCode)
      =
    (inBlocks ((xs.reverse ++ names) :: outer) globals line.code,
      reports limit ((xs.reverse ++ names) :: outer ++ [globals]) lineNo) := by
  have hbraces : followBraces lineNo (names :: outer).isEmpty lastCode [] (bracesOf (names :: outer))
      line.code
      = bracesOf (names :: outer) :=
    followBraces_plain (names :: outer) rfl (hmade.not_mem rfl (by decide))
      (hmade.not_mem rfl (by decide))
  have hfirst : isAmong notTracedAfter (firstWord line.code) = false := by
    rw [line.isAmong_notTracedAfter, hkeyword]
    decide
  have hhead : (line.code.head? == some '}') = false := by
    rw [beq_eq_false_iff_ne]
    intro hbrace
    exact hmade.not_mem rfl (by decide) (List.mem_of_mem_head? hbrace)
  rw [readLine_eq _ _ hbraces rfl (noteDeclarations_inside [] xs rfl rfl hcode), List.nil_append,
    isTraced_inside, hend, hfirst, hnext.next, hhead, hlast.last]
  simp

/-
A header within a block opens a block with its names.
-/
theorem readLine_nested {line : Line} {front : List Char} (hline : line.Front front) {xs : List String}
    (hcode : declarations line.code true = [])
    (hnames : headerNames false (front ++ [')']) = xs) :
    readLine limit lineNo line.code next (inBlocks (names :: outer) globals lastCode)
      =
    (inBlocks (xs.reverse :: names :: outer) globals line.code,
      if isTraced line.code next lastCode ((names :: outer).map blockScope)
          ((xs.reverse :: names :: outer).map blockScope) true then
        reports limit (xs.reverse :: names :: outer ++ [globals]) lineNo
      else []) := by
  have hbracket : '[' ∉ front := hline.made.not_mem rfl (by decide)
  have hkind : openedKind lineNo ((names :: outer).map blockScope) lastCode (front ++ [')']) = .block :=
    nestedKind_eq hbracket
  have hbraces : followBraces lineNo (names :: outer).isEmpty lastCode [] (bracesOf (names :: outer))
      line.code
      = { scopes := (xs.reverse :: names :: outer).map blockScope, openedBlock := true,
          minDepth := (names :: outer).length } := by
    rw [hline.code, followBraces_header hline.ne_nil (hline.made.not_mem rfl (by decide))
      (hline.made.not_mem rfl (by decide)) hline.head hkind, List.isEmpty_cons, hnames]
  exact readLine_eq _ _ hbraces rfl (noteDeclarations_inside [xs.reverse] [] rfl rfl hcode)

theorem readLine_functionHeader (type : TypeName) (f : Name) (parameters : List Parameter) :
    readLine limit lineNo (Line.functionHeader type f parameters).code next (inBlocks [] globals lastCode)
      =
    (inBlocks [parameterNames parameters] globals (Line.functionHeader type f parameters).code,
      reports limit [parameterNames parameters, globals] lineNo) := by
  have hline := Line.front_function type f parameters
  have hkind : openedKind lineNo ([].map blockScope) lastCode
      (type.chars ++ ' ' :: (f.chars ++ '(' :: parameterList parameters) ++ [')']) = .block :=
    topLevelKind_eq lineNo lastCode (hline.made.not_mem rfl (by decide))
      (hline.made.not_mem rfl (by decide)) hline.paren
  have hbraces : followBraces lineNo true lastCode [] (bracesOf [])
      (Line.functionHeader type f parameters).code
      = { scopes := [parameterNames parameters].map blockScope, openedBlock := true, minDepth := 0 } := by
    rw [hline.code, followBraces_header hline.ne_nil (hline.made.not_mem rfl (by decide))
      (hline.made.not_mem rfl (by decide)) hline.head hkind, headerNames_function]
    rfl
  exact readLine_eq [] _ hbraces rfl (noteDeclarations_function _)

theorem readLine_global (type : TypeName) (g : Name) (e : Operand) :
    readLine limit lineNo (Line.declaration type g e).code next (inBlocks [] globals lastCode)
      =
    (inBlocks [] (g.name :: globals) (Line.declaration type g e).code, []) := by
  have hmade := madeOf_declaration type g e
  have hbraces : followBraces lineNo true lastCode [] (bracesOf []) (Line.declaration type g e).code
      = bracesOf [] :=
    followBraces_plain [] rfl (hmade.not_mem rfl (by decide)) (hmade.not_mem rfl (by decide))
  exact readLine_eq [] [] hbraces rfl
    (noteDeclarations_outside [g.name] (declarations_declaration type g e false))

theorem readLine_end :
    readLine limit lineNo Line.closing.code next (inBlocks [names] globals lastCode)
      =
    (inBlocks [] globals Line.closing.code, []) :=
  readLine_eq [names] [] (followBraces_closing names []) rfl
    (noteDeclarations_closing names [])

include hnext hlast in
theorem readLine_closing {inner : List String} :
    readLine limit lineNo Line.closing.code next (inBlocks (inner :: names :: outer) globals lastCode)
      =
    (inBlocks (names :: outer) globals Line.closing.code,
      if isAmong ["while"] (firstWord next) then []
      else reports limit (names :: outer ++ [globals]) lineNo) := by
  have hfirst : isAmong notTracedAfter (firstWord ['}']) = false := by decide
  refine (readLine_eq (inner :: names :: outer) (names :: outer)
    (followBraces_closing inner (names :: outer)) rfl
    (noteDeclarations_closing inner (names :: outer))).trans ?_
  rw [isTraced_inside, hfirst, hnext.next, hlast.last]
  cases isAmong ["while"] (firstWord next) with
  | true => rfl
  | false => rfl

theorem readLine_ifHeader (hnext : Tame next) (hlast : Tame lastCode) (e : Operand) :
    readLine limit lineNo (Line.ifHeader e).code next (inBlocks (names :: outer) globals lastCode)
      =
    (inBlocks ([] :: names :: outer) globals (Line.ifHeader e).code,
      reports limit ([] :: names :: outer ++ [globals]) lineNo) := by
  have hword : FreeWord specifierWords ['i', 'f'] := ⟨rfl, by decide, by decide⟩
  have hcode : declarations (Line.ifHeader e).code true = [] :=
    declarations_eq_nil hword (.inr rfl) _ true
  have hfirst : isAmong notTracedAfter (firstWord (Line.ifHeader e).code) = false := by
    rw [Line.isAmong_notTracedAfter, Line.keyword]
    decide
  have hend := (Line.front_if e).getLast?_code
  have hhead : (Line.ifHeader e).code.head? = some 'i' := rfl
  rw [readLine_nested lineNo (Line.front_if e) hcode (headerNames_nested rfl), isTraced_inside, hend,
    hfirst, hnext.next, hhead, hlast.last]
  simp

theorem readLine_whileHeader (e : Operand) :
    readLine limit lineNo (Line.whileHeader e).code next (inBlocks (names :: outer) globals lastCode)
      =
    (inBlocks ([] :: names :: outer) globals (Line.whileHeader e).code, []) := by
  have hword : FreeWord specifierWords ['w', 'h', 'i', 'l', 'e'] := ⟨rfl, by decide, by decide⟩
  have hcode : declarations (Line.whileHeader e).code true = [] :=
    declarations_eq_nil hword (.inr rfl) _ true
  have hfirst : isAmong notTracedAfter (firstWord (Line.whileHeader e).code) = true := by
    rw [Line.isAmong_notTracedAfter, Line.keyword]
    decide
  rw [readLine_nested lineNo (Line.front_while e) hcode (headerNames_nested rfl), isTraced_inside, hfirst]
  simp

theorem readLine_forHeader (c : Counter) :
    readLine limit lineNo (Line.forHeader c).code next (inBlocks (names :: outer) globals lastCode)
      =
    (inBlocks ([c.name.name] :: names :: outer) globals (Line.forHeader c).code, []) := by
  have hword : FreeWord specifierWords ['f', 'o', 'r'] := ⟨rfl, by decide, by decide⟩
  have hcode : declarations (Line.forHeader c).code true = [] :=
    declarations_eq_nil hword (.inr rfl) _ true
  have hfirst : isAmong notTracedAfter (firstWord (Line.forHeader c).code) = true := by
    rw [Line.isAmong_notTracedAfter, Line.keyword]
    decide
  rw [readLine_nested lineNo (Line.front_for c) hcode (headerNames_for c), isTraced_inside, hfirst]
  simp

end Steps

section Programs

variable {limit : Nat} {globals : List String} {codes : List (List Char)}
  {shown : List (Nat → List String)} {final : State}

/-
Reading the end of a block and the statements behind it.
-/
theorem runs_closing {inner names : List String} {outer : List (List String)} {rest : Block}
    (hcodes : codes.headD [] = Line.closing.code)
    (hrest : Runs (readLine limit) (inBlocks (names :: outer) globals Line.closing.code)
      ((rest.script limit names (outer ++ [globals])).map (fun entry => entry.1.code) ++ codes)
      ((rest.script limit names (outer ++ [globals])).map Prod.snd ++ shown) final)
    {lastCode : List Char} (hlast : Tame lastCode) :
    Runs (readLine limit) (inBlocks (inner :: names :: outer) globals lastCode)
      (Line.closing.code
        :: ((rest.script limit names (outer ++ [globals])).map (fun entry => entry.1.code) ++ codes))
      (afterBlock limit (names :: outer ++ [globals]) rest
        :: ((rest.script limit names (outer ++ [globals])).map Prod.snd ++ shown)) final := by
  refine .cons (fun n => ?_) hrest
  rw [readLine_closing n (tame_headD hcodes) hlast, isAmong_while_headD limit rest _ _ hcodes, afterBlock]
  split <;> rfl

/-
Reading a block reports each of its lines, and afterwards the end of the block can be read.
-/
theorem runs_block {block : Block} {names : List String} {outer : List (List String)}
    (hcodes : codes.headD [] = Line.closing.code)
    (hrest : ∀ names lastCode, Tame lastCode →
      Runs (readLine limit) (inBlocks (names :: outer) globals lastCode) codes shown final)
    {lastCode : List Char} (hlast : Tame lastCode) :
    Runs (readLine limit) (inBlocks (names :: outer) globals lastCode)
      ((block.script limit names (outer ++ [globals])).map (fun entry => entry.1.code) ++ codes)
      ((block.script limit names (outer ++ [globals])).map Prod.snd ++ shown) final := by
  -- The induction is on the statements. `hrest` goes on behind the block with whatever names it has declared.
  induction block generalizing names outer codes shown lastCode with
  | done => exact hrest names lastCode hlast
  | declare type x e rest ih =>
    refine .cons (fun n => ?_) (ih hcodes hrest (Line.declaration type x e).tame)
    exact readLine_statement n (tame_headD hcodes) hlast [x.name] (madeOf_declaration type x e)
      (getLast?_declaration type x e) (declarations_declaration type x e true) rfl
  | assign x e rest ih =>
    refine .cons (fun n => ?_) (ih hcodes hrest (Line.assignment x e).tame)
    exact readLine_statement n (tame_headD hcodes) hlast [] (madeOf_assignment x e)
      (getLast?_assignment x e) (declarations_assignment x e true) rfl
  | ifThen e inner rest ihinner ihrest =>
    simp only [Block.script, List.cons_append, List.map_cons, List.map_append, List.append_assoc]
    refine .cons (fun n => readLine_ifHeader n (tame_headD rfl) hlast e) ?_
    -- Behind the inner block stand its closing brace and the statements that follow.
    refine ihinner rfl (fun inner lastCode hlast => ?_)
      (Line.ifHeader e).tame
    exact runs_closing hcodes (ihrest hcodes hrest Line.closing.tame) hlast
  | whileDo e inner rest ihinner ihrest =>
    simp only [Block.script, List.cons_append, List.map_cons, List.map_append, List.append_assoc]
    refine .cons (fun n => readLine_whileHeader n e) ?_
    refine ihinner rfl (fun inner lastCode hlast => ?_)
      (Line.whileHeader e).tame
    exact runs_closing hcodes (ihrest hcodes hrest Line.closing.tame) hlast
  | forDo counter inner rest ihinner ihrest =>
    simp only [Block.script, List.cons_append, List.map_cons, List.map_append, List.append_assoc]
    refine .cons (fun n => readLine_forHeader n counter) ?_
    refine ihinner rfl (fun inner lastCode hlast => ?_)
      (Line.forHeader counter).tame
    exact runs_closing hcodes (ihrest hcodes hrest Line.closing.tame) hlast

theorem runs_program (limit : Nat) (items : List Item) (globals : List String) (lastCode : List Char) :
    ∃ final, final.structs = []
      ∧ Runs (readLine limit) (inBlocks [] globals lastCode)
          ((programScript limit globals items).map (fun entry => entry.1.code))
          ((programScript limit globals items).map Prod.snd) final := by
  induction items generalizing globals lastCode with
  | nil => exact ⟨_, rfl, .nil⟩
  | cons item items ih =>
    cases item with
    | global type g e =>
      rcases ih (g.name :: globals) (Line.declaration type g e).code with ⟨final, hfinal, hrest⟩
      exact ⟨final, hfinal, .cons (fun n => readLine_global n type g e) hrest⟩
    | function type f parameters body =>
      rcases ih globals Line.closing.code with ⟨final, hfinal, hrest⟩
      simp only [programScript, List.cons_append, List.map_cons, List.map_append]
      refine ⟨final, hfinal, .cons (fun n => readLine_functionHeader n type f parameters) ?_⟩
      refine runs_block rfl (fun names lastCode _ => ?_)
        (Line.functionHeader type f parameters).tame
      exact .cons (fun n => readLine_end n) hrest

end Programs

section Result

theorem Line.bare (line : Line) : Bare line.code := by
  intro c hc
  refine ⟨?_, ?_, ?_⟩
  all_goals
    rintro rfl
    exact line.madeOf.not_mem rfl (by decide) hc

theorem Line.head?_code_ne (line : Line) : line.code.head? ≠ some '#' := by
  intro hhead
  exact line.madeOf.not_mem rfl (by decide) (List.mem_of_mem_head? hhead)

/--
A rewrite follows the scopes of a program: behind each statement of a function it names the variables in
scope there, and it reports neither the headers of loops nor what stands outside of functions.
-/
theorem rewrite_scopes {items : List Item} {source : String} {limit : Nat}
    (hlayout : Holds ((programScript limit [] items).map fun entry => entry.1.code) (Text.lines source)) :
    rewrite source limit
      =
    Text.unlines
      (weave (reported 1 (Text.lines source) ((programScript limit [] items).map Prod.snd))) := by
  rcases runs_program limit items [] [] with ⟨final, hstructs, hruns⟩
  have hbare : ∀ code ∈ (programScript limit [] items).map (fun entry => entry.1.code), Bare code := by
    rw [List.forall_mem_map]
    exact fun entry _ => entry.1.bare
  have hcode : ∀ code ∈ (programScript limit [] items).map (fun entry => entry.1.code),
      code.head? ≠ some '#' := by
    rw [List.forall_mem_map]
    exact fun entry _ => entry.1.head?_code_ne
  unfold rewrite
  dsimp only
  rw [codeLines_eq (hlayout.bare hbare),
    ← @Runs.rewrite_eq _ _ (rewriteLines limit) _ _ _ _ hruns ?_ ?_ ?_ 1 _ hlayout]
  · rfl
  · intro n
    rw [rewriteLines, hstructs]
    rfl
  · exact fun _ _ _ _ => rfl
  · intro n s line rest code hmem hne
    rw [rewriteLines, if_neg (by simp [hne, hcode code hmem])]

/--
A parameter, the variable of a loop and a variable of its body, which hides the parameter. The brace in
front of the second loop is not reported, and neither are the loops.
-/
theorem rewrite_scopes_shadowed :
    let int : TypeName := .builtin [] "int" (by simp) (by decide)
    let long : TypeName := .builtin ["unsigned"] "long" (by decide) (by decide)
    let a : Name := ⟨['a'], rfl, by decide, by decide⟩
    let b : Name := ⟨['b'], rfl, by decide, by decide⟩
    let g : Name := ⟨['g'], rfl, by decide, by decide⟩
    let i : Name := ⟨['i'], rfl, by decide, by decide⟩
    let counter : Counter :=
      ⟨int, i, ⟨['0'], by decide, by decide⟩, ⟨['i', ' ', '<', ' ', 'b'], by decide, by decide⟩,
        ⟨['i', '+', '1'], by decide, by decide⟩⟩
    let body : Block :=
      .forDo counter
        (.declare int a ⟨['i'], by decide, by decide⟩
          (.ifThen ⟨['a', '<', 'g'], by decide, by decide⟩
            (.assign g ⟨['a'], by decide, by decide⟩ .done) .done))
        (.whileDo ⟨['b'], by decide, by decide⟩ .done .done)
    let items : List Item := [.global int g ⟨['1'], by decide, by decide⟩,
      .function int ⟨['f'], rfl, by decide, by decide⟩ [⟨int, a⟩, ⟨long, b⟩] body]
    let source := Text.unlines ["int g = 1;", "", "int f(int a, unsigned long b) \x7b",
      "  for (int i = 0; i < b; i = i+1) \x7b", "    int a = i;", "    if (a<g) \x7b", "      g = a;",
      "    \x7d", "  \x7d", "  while (b) \x7b", "  \x7d", "\x7d"]
    Holds ((programScript 3 [] items).map fun entry => entry.1.code) (Text.lines source)
      ∧ rewrite source 3 = Text.unlines ["int g = 1;", "", "int f(int a, unsigned long b) \x7b",
        "__pt_trace_impl(3, \"b\", b, \"a\", a, \"g\", g);",
        "  for (int i = 0; i < b; i = i+1) \x7b", "    int a = i;",
        "__pt_trace_impl(5, \"a\", a, \"i\", i, \"b\", b);", "    if (a<g) \x7b",
        "__pt_trace_impl(6, \"a\", a, \"i\", i, \"b\", b);", "      g = a;",
        "__pt_trace_impl(7, \"a\", a, \"i\", i, \"b\", b);", "    \x7d",
        "__pt_trace_impl(8, \"a\", a, \"i\", i, \"b\", b);", "  \x7d", "  while (b) \x7b", "  \x7d",
        "__pt_trace_impl(11, \"b\", b, \"a\", a, \"g\", g);", "\x7d"] := by
  intro int long a b g i counter body items source
  have hlayout : Holds ((programScript 3 [] items).map fun entry => entry.1.code) (Text.lines source) := by
    decide +kernel
  refine ⟨hlayout, ?_⟩
  have hrewrite : rewrite source 3 = _ := @rewrite_scopes _ _ 3 hlayout
  rw [hrewrite]
  decide +kernel

end Result
end Playback.Cpp
