import Playback.Proofs.Java.Lines
import Playback.Proofs.Source.Layout

/-!
This module contains the result about the Java fragment: behind which lines a rewrite reports, and which
variable it names there.
-/

namespace Playback.Java

open Pattern Source

section Braces

def atTop (lastCode : List Char) : State :=
  { lastCode }

def inClass (lastCode : List Char) : State :=
  { level := 1, typeLevels := [1], lastCode }

/--
The state in the body of a method, inside as many statements as `depth` says.
-/
def inBody (depth : Nat) (lastCode : List Char) : State :=
  { level := depth + 2, methodLevel := some 1, typeLevels := [1], lastCode }

variable {code lastCode : List Char}

theorem followBraces_plain (hopen : '{' ∉ code) (hclose : '}' ∉ code) {s : State}
    (hlevels : s.typeLevels.dropWhile (s.level < ·) = s.typeLevels) :
    followBraces code s = { s with lastCode := code } := by
  simp [followBraces, List.count_eq_zero.mpr hopen, List.count_eq_zero.mpr hclose, hlevels]

theorem followBraces_closing (depth : Nat) :
    followBraces ['}'] (inBody (depth + 1) lastCode) = inBody depth ['}'] := by
  simp [followBraces, inBody]
  omega

theorem followBraces_method_closing : followBraces ['}'] (inBody 0 lastCode) = inClass ['}'] := by
  simp [followBraces, inBody, inClass]

theorem followBraces_class_closing : followBraces ['}'] (inClass lastCode) = atTop ['}'] := by
  simp [followBraces, inClass, atTop]

section Header

variable {header : List Char} (h : MadeOf [' ', '+', '<', ',', '(', ')'] header) (hne : header ≠ [])
include h hne

theorem counts_header :
    (header ++ ['{']).count '{' = 1 ∧ (header ++ ['{']).count '}' = 0
      ∧ ((header ++ ['{']).head? == some '{') = false := by
  have hopen : '{' ∉ header := h.not_mem rfl (by decide)
  have hclose : '}' ∉ header := h.not_mem rfl (by decide)
  refine ⟨?_, ?_, ?_⟩
  · simp [List.count_append, List.count_eq_zero.mpr hopen]
  · simp [List.count_append, List.count_eq_zero.mpr hclose]
  · rw [List.head?_append_of_ne_nil _ hne, beq_eq_false_iff_ne]
    intro hhead
    exact hopen (List.mem_of_mem_head? hhead)

theorem followBraces_class
    (htype : typeHeader.occursIn (header ++ ['{']) = true) :
    followBraces (header ++ ['{']) (atTop lastCode) = inClass (header ++ ['{']) := by
  rcases counts_header h hne with ⟨hopens, hcloses, hhead⟩
  simp only [followBraces, hopens, hcloses, hhead, Bool.false_eq_true, if_false]
  simp [htype, atTop, inClass]

variable (htype : typeHeader.occursIn (header ++ ['{']) = false)
  (hanonymous : anonymousClass.occursIn (header ++ ['{']) = false)
include htype hanonymous

theorem followBraces_method (hparen : '(' ∈ header) :
    followBraces (header ++ ['{']) (inClass lastCode) = inBody 0 (header ++ ['{']) := by
  rcases counts_header h hne with ⟨hopens, hcloses, hhead⟩
  simp only [followBraces, hopens, hcloses, hhead, Bool.false_eq_true, if_false]
  simp [htype, hanonymous, hparen, inClass, inBody]

theorem followBraces_nested (depth : Nat) :
    followBraces (header ++ ['{']) (inBody depth lastCode) = inBody (depth + 1) (header ++ ['{']) := by
  rcases counts_header h hne with ⟨hopens, hcloses, hhead⟩
  simp only [followBraces, hopens, hcloses, hhead, Bool.false_eq_true, if_false]
  simp [htype, hanonymous, inBody]
  omega

end Header

end Braces

section Calls

variable {code next : List Char}

theorem traceCall?_of_notTraced (lineNo : Nat) (h : isAmong notTraced (firstWord code) = true) :
    traceCall? lineNo code next = none := by
  unfold traceCall?
  rw [if_pos (by simp [h])]

theorem traceCall?_of_worded (lineNo : Nat) {keywords : List String} (h : Worded keywords code)
    (hkeywords : ∀ w ∈ notTraced, w ∉ primitives ++ keywords) (hnext : Tame next) :
    traceCall? lineNo code next
      =
    if code.getLast? == some '{' then
      if initializer.occursIn code && !(text "->").occursIn code then none
      else some (traceCall lineNo none)
    else if code.getLast? == some ';' then some (traceCall lineNo (touched? code))
    else none := by
  have hfirst : isAmong notTraced (firstWord code) = false := h.avoids_firstWord (by decide) hkeywords
  have hexit : exit.occursIn code = false := by
    apply occursIn_exit
    apply h.avoids (by decide)
    have hsubset : ∀ w ∈ ["return", "break", "continue", "throw"], w ∈ notTraced := by decide
    exact fun w hw => hkeywords w (hsubset w hw)
  unfold traceCall?
  rw [if_neg (by simp [hfirst, hexit]), if_neg (by simp [hnext.word]), hnext.start]
  rfl

theorem traceCall?_closing (lineNo : Nat) : traceCall? lineNo ['}'] next = none := by
  unfold traceCall?
  simp

theorem traceCall?_header (lineNo : Nat) {keywords : List String} {header : List Char}
    (h : Worded keywords (header ++ ['{'])) (hkeywords : ∀ w ∈ notTraced, w ∉ primitives ++ keywords)
    (hmade : MadeOf [' ', '+', '<', ',', '(', ')'] header) (hnext : Tame next) :
    traceCall? lineNo (header ++ ['{']) next = some (traceCall lineNo none) := by
  have hequals : '=' ∉ header ++ ['{'] := by
    have hheader := hmade.not_mem (c := '=') rfl (by decide)
    simp [hheader]
  rw [traceCall?_of_worded lineNo h hkeywords hnext, if_pos (by simp), occursIn_initializer hequals]
  rfl

theorem traceCall?_semicolon (lineNo : Nat) (h : Worded [] code) (hlast : [';'] <:+ code)
    (hnext : Tame next) : traceCall? lineNo code next = some (traceCall lineNo (touched? code)) := by
  rcases hlast with ⟨front, rfl⟩
  rw [traceCall?_of_worded lineNo h (by decide) hnext, List.getLast?_concat]
  rfl

theorem traceCall?_statement (lineNo : Nat) {s : Statement} (h : '$' ∉ s.code) (hnext : Tame next) :
    (traceCall? lineNo s.code next).toList = s.report lineNo := by
  have hworded : Worded (Line.statement s).keywords s.code := (Line.statement s).worded h
  cases s with
  | declaration type x e =>
    rw [traceCall?_semicolon lineNo hworded ⟨type.chars ++ [' '] ++ x.chars ++ [' ', '=', ' '] ++ e.chars,
      by simp [Statement.code, binding]⟩ hnext]
    simp [Statement.code, binding] at h ⊢
    rw [touched?_declaration (Name.freeWord h.2.1) (TypeName.ne_nil type) (TypeName.isWordChar h.1)
      (TypeName.ne_final type)]
    rfl
  | assignment x e =>
    rw [traceCall?_semicolon lineNo hworded ⟨x.chars ++ [' ', '=', ' '] ++ e.chars, rfl⟩ hnext]
    simp [Statement.code, binding] at h ⊢
    rw [touched?_assignment (Name.freeWord h.1)]
    rfl
  | increment x =>
    rw [traceCall?_semicolon lineNo hworded ⟨x.chars ++ ['+', '+'], by simp [Statement.code]⟩ hnext]
    simp [Statement.code] at h ⊢
    rw [touched?_increment (Name.freeWord h)]
    rfl
  | call m e =>
    rw [traceCall?_semicolon lineNo hworded ⟨m.chars ++ ['('] ++ e.chars ++ [')'],
      by simp [Statement.code]⟩ hnext]
    simp [Statement.code] at h ⊢
    rw [touched?_call (Name.freeWord h.1)]
    rfl
  | returning e =>
    rw [traceCall?_of_notTraced lineNo rfl]
    rfl

end Calls

section Run

def read (lineNo : Nat) (code next : List Char) (s : State) : State × List String :=
  ((readLine lineNo code next s).1, (readLine lineNo code next s).2.toList)

theorem rewriteLines_eq_weave {s last : State} {codes : List (List Char)}
    {reports : List (Nat → List String)} (hruns : Runs read s codes reports last) (lineNo : Nat)
    {lines : List String} (hlines : Holds codes lines) :
    rewriteLines lineNo s (lines.zip (lines.map fun line => Text.trim line.toList))
      =
    weave (reported lineNo lines reports) := by
  apply hruns.rewrite_eq (fun _ => rfl) (fun _ _ _ _ => rfl) ?_ lineNo hlines
  intro n s line rest code _ hne
  rw [rewriteLines, if_neg (by simp [hne])]
  rfl

theorem readLine_eq (lineNo : Nat) (code next : List Char) (s : State) :
    readLine lineNo code next s
      =
    (followBraces code s,
      if startsWithAny ["package", "import", "@"] code || !inMethod (followBraces code s) then none
      else traceCall? lineNo code next) := by
  unfold readLine
  dsimp only
  split <;> rfl

variable {line : Line} {s next : State} {code : List Char}

theorem startsWithAny_skipped (h : '$' ∉ line.code) :
    startsWithAny ["package", "import", "@"] line.code
      =
    startsWithAny ["package", "import"] line.code := by
  have hat : ['@'].isPrefixOf line.code = false := by
    rw [Bool.eq_false_iff, ne_eq, List.isPrefixOf_iff_prefix]
    intro hat
    exact (Line.madeOf h).not_mem (c := '@') rfl (by decide) (hat.subset (by simp))
  simp [startsWithAny, hat]

theorem read_inside (line : Line) (h : '$' ∉ line.code) (lineNo : Nat) (hbraces : followBraces line.code s = next)
    (hmethod : inMethod next = true)
    (hcall : (traceCall? lineNo line.code code).toList = line.report lineNo) :
    read lineNo line.code code s = (next, line.shown lineNo) := by
  rw [read, readLine_eq, hbraces, startsWithAny_skipped h, hmethod, Bool.not_true, Bool.or_false,
    Line.shown]
  dsimp only
  split
  · rfl
  · rw [hcall]

theorem read_outside (lineNo : Nat) (hbraces : followBraces line.code s = next)
    (hmethod : inMethod next = false) (hreport : line.report lineNo = []) :
    read lineNo line.code code s = (next, line.shown lineNo) := by
  rw [read, readLine_eq, hbraces, hmethod, Bool.not_false, Bool.or_true, Line.shown, hreport]
  simp

theorem inMethod_inBody (depth : Nat) (lastCode : List Char) : inMethod (inBody depth lastCode) = true := by
  have hlevel : (1 : Int) < depth + 2 := by omega
  have hne : (1 : Int) ≠ depth + 2 := by omega
  simp [inMethod, inBody, hlevel, hne]

theorem inMethod_inClass (lastCode : List Char) : inMethod (inClass lastCode) = false := by
  simp [inMethod, inClass]

theorem inMethod_atTop (lastCode : List Char) : inMethod (atTop lastCode) = false := by
  simp [inMethod, atTop]

section Steps

variable {lastCode : List Char} (lineNo depth : Nat)

theorem read_statement {statement : Statement} (h : '$' ∉ statement.code) (hnext : Tame code) :
    read lineNo statement.code code (inBody depth lastCode)
      =
    (inBody depth statement.code, (Line.statement statement).shown lineNo) := by
  have hmade := Statement.madeOf h
  refine read_inside (.statement statement) h lineNo ?_ (inMethod_inBody depth _)
    (traceCall?_statement lineNo h hnext)
  refine followBraces_plain (hmade.not_mem rfl (by decide)) (hmade.not_mem rfl (by decide)) ?_
  have hlevel : ¬ (depth + 2 : Int) < 1 := by omega
  simp [inBody, hlevel]

theorem read_field {type : TypeName} {f : Name} {e : Operand} (h : '$' ∉ (Line.field type f e).code) :
    read lineNo (Line.field type f e).code code (inClass lastCode)
      =
    (inClass (Line.field type f e).code, (Line.field type f e).shown lineNo) := by
  have hmade := madeOf_field h
  refine read_outside lineNo ?_ (inMethod_inClass _) rfl
  exact followBraces_plain (hmade.not_mem rfl (by decide)) (hmade.not_mem rfl (by decide)) rfl

theorem read_closing :
    read lineNo Line.closing.code code (inBody (depth + 1) lastCode)
      =
    (inBody depth Line.closing.code, Line.closing.shown lineNo) := by
  refine read_inside .closing (by decide) lineNo (followBraces_closing depth) (inMethod_inBody depth _) ?_
  rw [Line.code, traceCall?_closing]
  rfl

theorem read_method_closing :
    read lineNo Line.closing.code code (inBody 0 lastCode)
      =
    (inClass Line.closing.code, Line.closing.shown lineNo) :=
  read_outside lineNo followBraces_method_closing (inMethod_inClass _) rfl

theorem read_class_closing :
    read lineNo Line.closing.code code (inClass lastCode)
      =
    (atTop Line.closing.code, Line.closing.shown lineNo) :=
  read_outside lineNo followBraces_class_closing (inMethod_atTop _) rfl

theorem occursIn_types {keywords : List String} {code : List Char} (h : Worded keywords code)
    (hkeywords : keywords ⊆ ["if", "while"]) :
    typeHeader.occursIn code = false ∧ anonymousClass.occursIn code = false := by
  have hdisjoint : ∀ w ∈ ["class", "interface", "enum", "record", "new"],
      w ∉ primitives ++ ["if", "while"] := by decide
  have hother : ∀ w ∈ ["class", "interface", "enum", "record", "new"], w ∉ primitives ++ keywords := by
    intro w hw hmem
    rw [List.mem_append] at hmem
    exact hdisjoint w hw (List.mem_append.mpr (hmem.imp_right fun hk => hkeywords hk))
  exact ⟨occursIn_typeHeader (h.avoids (by decide) fun w hw => hother w (by grind)),
    occursIn_anonymousClass (h.avoids (by decide) fun w hw => hother w (by grind))⟩

section Header

variable {header : List Char} (hheader : line.header? = some header) (h : '$' ∉ line.code)
  (hne : header ≠ [])
include hheader h hne

theorem read_nested (hkeywords : line.keywords ⊆ ["if", "while"])
    (hcall : ∀ n, (traceCall? n line.code code).toList = line.report n) :
    read lineNo line.code code (inBody depth lastCode)
      =
    (inBody (depth + 1) line.code, line.shown lineNo) := by
  have hmade := line.madeOf_header hheader h
  have hcode := line.code_of_header? hheader
  rcases occursIn_types (line.worded h) hkeywords with ⟨htype, hanonymous⟩
  refine read_inside line h lineNo ?_ (inMethod_inBody _ _) (hcall lineNo)
  rw [hcode] at htype hanonymous ⊢
  exact followBraces_nested hmade hne htype hanonymous depth

end Header

theorem read_ifHeader {e : Operand} (h : '$' ∉ (Line.ifHeader e).code) (hnext : Tame code) :
    read lineNo (Line.ifHeader e).code code (inBody depth lastCode)
      =
    (inBody (depth + 1) (Line.ifHeader e).code, (Line.ifHeader e).shown lineNo) := by
  have hworded : Worded ["if"] (Line.ifHeader e).code := Line.worded _ h
  refine read_nested lineNo depth rfl h (by simp) (by simp [Line.keywords]) fun n => ?_
  rw [Line.code_of_header? (.ifHeader e) rfl] at hworded ⊢
  rw [traceCall?_header n hworded (by decide) (Line.madeOf_header (.ifHeader e) rfl h) hnext]
  rfl

theorem read_whileHeader {e : Operand} (h : '$' ∉ (Line.whileHeader e).code) :
    read lineNo (Line.whileHeader e).code code (inBody depth lastCode)
      =
    (inBody (depth + 1) (Line.whileHeader e).code, (Line.whileHeader e).shown lineNo) := by
  refine read_nested lineNo depth rfl h (by simp) (by simp [Line.keywords]) fun n => ?_
  rw [traceCall?_of_notTraced n rfl]
  rfl

theorem read_methodHeader {type : TypeName} {m : Name} {parameters : List Parameter}
    (h : '$' ∉ (Line.methodHeader type m parameters).code) (hnext : Tame code) :
    read lineNo (Line.methodHeader type m parameters).code code (inClass lastCode)
      =
    (inBody 0 (Line.methodHeader type m parameters).code,
      (Line.methodHeader type m parameters).shown lineNo) := by
  have hworded : Worded [] (Line.methodHeader type m parameters).code := Line.worded _ h
  have hmade := Line.madeOf_header (.methodHeader type m parameters) rfl h
  have hcode := Line.code_of_header? (.methodHeader type m parameters) rfl
  rcases occursIn_types hworded (by simp) with ⟨htype, hanonymous⟩
  rw [hcode] at hworded htype hanonymous
  refine read_inside _ h lineNo ?_ (inMethod_inBody _ _) ?_
  · rw [hcode]
    exact followBraces_method hmade (by simp) htype hanonymous (by simp)
  · rw [hcode, traceCall?_header lineNo hworded (by decide) hmade hnext]
    rfl

theorem read_classHeader {c : Name} (h : '$' ∉ (Line.classHeader c).code) :
    read lineNo (Line.classHeader c).code code (atTop lastCode)
      =
    (inClass (Line.classHeader c).code, (Line.classHeader c).shown lineNo) := by
  have hmade := Line.madeOf_header (.classHeader c) rfl h
  have hcode := Line.code_of_header? (.classHeader c) rfl
  refine read_outside lineNo ?_ (inMethod_inClass _) rfl
  rw [hcode]
  apply followBraces_class hmade (by simp)
  simp [Line.code] at h
  have hfree := Name.freeWord h
  have hclass := occursIn_typeHeader_class hfree.ne_nil hfree.isWordChar [' ', '{'] rfl
  simpa using hclass

end Steps

theorem Line.tame (line : Line) (h : '$' ∉ line.code) : Tame line.code := by
  apply (line.worded h).tame
  cases line with
  | statement s => cases s <;> simp [Line.keywords]
  | _ => simp [Line.keywords]

theorem tame_headD {ls : List Line} {codes : List (List Char)} (h : ∀ line ∈ ls, '$' ∉ line.code)
    (hcodes : Tame (codes.headD [])) : Tame ((ls.map Line.code ++ codes).headD []) := by
  cases ls with
  | nil => exact hcodes
  | cons line ls => exact line.tame (h line List.mem_cons_self)

theorem tame_closing (codes : List (List Char)) : Tame ((Line.closing.code :: codes).headD []) :=
  Line.tame .closing (by decide)

section Programs

variable {codes : List (List Char)} {reports : List (Nat → List String)} {final : State}

/-
Reading the statements of a block reports each of them, and afterwards the place is the one in front of
the block.
-/
theorem runs_block {block : Block} (h : ∀ line ∈ block.lines, '$' ∉ line.code) {depth : Nat}
    (hcodes : Tame (codes.headD []))
    (hrest : ∀ lastCode, Runs read (inBody depth lastCode) codes reports final)
    (lastCode : List Char) :
    Runs read (inBody depth lastCode) (block.lines.map Line.code ++ codes)
      (block.lines.map Line.shown ++ reports) final := by
  induction block generalizing depth codes reports lastCode with
  | done => exact hrest lastCode
  | statement s rest ih =>
    rw [Block.lines, List.forall_mem_cons] at h
    exact .cons (fun n => read_statement n depth h.1 (tame_headD h.2 hcodes)) (ih h.2 hcodes hrest _)
  | ifThen e inner rest ihinner ihrest =>
    simp only [Block.lines, List.cons_append, List.forall_mem_cons, List.forall_mem_append] at h
    simp only [Block.lines, List.cons_append, List.map_cons, List.map_append, List.append_assoc]
    refine .cons (fun n => read_ifHeader n depth h.1 (tame_headD h.2.1 (tame_closing _))) ?_
    refine ihinner h.2.1 (tame_closing _) (fun last => ?_) _
    exact .cons (fun n => read_closing n depth) (ihrest h.2.2.2 hcodes hrest _)
  | whileDo e inner rest ihinner ihrest =>
    simp only [Block.lines, List.cons_append, List.forall_mem_cons, List.forall_mem_append] at h
    simp only [Block.lines, List.cons_append, List.map_cons, List.map_append, List.append_assoc]
    refine .cons (fun n => read_whileHeader n depth h.1) ?_
    refine ihinner h.2.1 (tame_closing _) (fun last => ?_) _
    exact .cons (fun n => read_closing n depth) (ihrest h.2.2.2 hcodes hrest _)

theorem runs_members {members : List Member}
    (h : ∀ line ∈ members.flatMap Member.lines, '$' ∉ line.code)
    (hrest : ∀ lastCode, Runs read (inClass lastCode) codes reports final) (lastCode : List Char) :
    Runs read (inClass lastCode) ((members.flatMap Member.lines).map Line.code ++ codes)
      ((members.flatMap Member.lines).map Line.shown ++ reports) final := by
  induction members generalizing lastCode with
  | nil => exact hrest lastCode
  | cons member members ih =>
    rw [List.flatMap_cons, List.forall_mem_append] at h
    rw [List.flatMap_cons, List.map_append, List.map_append, List.append_assoc, List.append_assoc]
    cases member with
    | field type f e =>
      rw [Member.lines, List.forall_mem_singleton] at h
      exact .cons (fun n => read_field n h.1) (ih h.2 _)
    | method type m parameters body =>
      simp only [Member.lines, List.cons_append, List.forall_mem_cons, List.forall_mem_append] at h
      simp only [Member.lines, List.cons_append, List.map_cons, List.map_append, List.append_assoc]
      refine .cons (fun n => read_methodHeader n h.1.1 (tame_headD h.1.2.1 (tame_closing _))) ?_
      refine runs_block h.1.2.1 (tame_closing _) (fun last => ?_) _
      exact .cons (fun n => read_method_closing n) (ih h.2 _)

theorem runs_program {classes : List Class} (h : ∀ line ∈ programLines classes, '$' ∉ line.code)
    (lastCode : List Char) :
    ∃ final, Runs read (atTop lastCode) ((programLines classes).map Line.code)
      ((programLines classes).map Line.shown) final := by
  induction classes generalizing lastCode with
  | nil => exact ⟨_, .nil⟩
  | cons c classes ih =>
    simp only [programLines, List.flatMap_cons, Class.lines, List.cons_append, List.forall_mem_cons,
      List.forall_mem_append] at h
    simp only [programLines, List.flatMap_cons, Class.lines, List.cons_append, List.map_cons,
      List.map_append, List.append_assoc]
    rcases ih h.2.2 Line.closing.code with ⟨final, hfinal⟩
    refine ⟨final, .cons (fun n => read_classHeader n h.1) (runs_members h.2.1.1 (fun last => ?_) _)⟩
    exact .cons (fun n => read_class_closing n) hfinal

end Programs

theorem Line.bare (h : '$' ∉ line.code) : Bare line.code := by
  have hmade := Line.madeOf h
  intro c hc
  refine ⟨?_, ?_, ?_⟩
  all_goals
    rintro rfl
    exact hmade.not_mem rfl (by decide) hc

end Run

/--
Behind each line of code a rewrite adds just the report of that line, at every depth of nesting and for
all names, unless the line starts like an import or a package declaration.

Programs with a dollar sign are left out: it may stand in a name, but no pattern takes it for the character
of a word. A variable with such a name is not reported, and a name like `return$` is taken for the word in
front of the sign.
-/
theorem rewrite_program {classes : List Class} {source : String}
    (hlayout : Holds ((programLines classes).map Line.code) (Text.lines source))
    (hdollar : '$' ∉ source.toList) :
    rewrite source
      =
    Text.unlines (weave (reported 1 (Text.lines source) ((programLines classes).map Line.shown))) := by
  have hcodes : ∀ line ∈ programLines classes, '$' ∉ line.code := by
    intro line hline hmem
    have hcode : line.code ∈ (programLines classes).map Line.code := List.mem_map_of_mem hline
    rw [← hlayout, List.mem_filter, List.mem_map] at hcode
    rcases hcode with ⟨⟨text, htext, heq⟩, _⟩
    rw [← heq] at hmem
    exact hdollar (Text.mem_of_mem_lines htext (Text.mem_of_mem_trim hmem) (by decide))
  rcases runs_program hcodes [] with ⟨final, hruns⟩
  unfold rewrite
  dsimp only
  rw [codeLines_eq (hlayout.bare (by simpa using fun line hline => Line.bare (hcodes line hline))),
    ← rewriteLines_eq_weave hruns 1 hlayout]
  rfl

/--
A loop in a method: the loop itself and the end of a block are not reported.
-/
theorem rewrite_program_loop :
    let int : TypeName := .primitive "int" (by decide)
    let i : Name := ⟨['i'], rfl, by decide, by decide⟩
    let n : Name := ⟨['n'], rfl, by decide, by decide⟩
    let total : Name := ⟨['t', 'o', 't', 'a', 'l'], rfl, by decide, by decide⟩
    let body : Block :=
      .statement (.declaration int i ⟨['0'], by decide, by decide⟩)
        (.whileDo ⟨['i', ' ', '<', ' ', 'n'], by decide, by decide⟩
          (.statement (.increment i)
            (.statement (.assignment total ⟨['t', 'o', 't', 'a', 'l', '+', 'i'], by decide, by decide⟩)
              .done))
          (.statement (.returning ⟨['i'], by decide, by decide⟩) .done))
    let classes : List Class := [⟨⟨['S', 'u', 'm'], rfl, by decide, by decide⟩,
      [.field int total ⟨['1'], by decide, by decide⟩,
        .method int ⟨['u', 'p'], rfl, by decide, by decide⟩ [⟨int, n⟩] body]⟩]
    let source := Text.unlines ["class Sum \x7b", "  int total = 1;", "", "  int up(int n) \x7b", "    int i = 0;",
      "    while (i < n) \x7b", "      i++;", "      total = total+i;", "    \x7d", "    return i;", "  \x7d",
      "\x7d"]
    Holds ((programLines classes).map Line.code) (Text.lines source) ∧ '$' ∉ source.toList
      ∧ rewrite source = Text.unlines ["class Sum \x7b", "  int total = 1;", "", "  int up(int n) \x7b",
        "__PT_Helper.trace(4);", "    int i = 0;", "__PT_Helper.trace(5, \"i\", i);",
        "    while (i < n) \x7b", "      i++;", "__PT_Helper.trace(7, \"i\", i);",
        "      total = total+i;", "__PT_Helper.trace(8, \"total\", total);", "    \x7d", "    return i;",
        "  \x7d", "\x7d"] := by
  intro int i n total body classes source
  have hlayout : Holds ((programLines classes).map Line.code) (Text.lines source) := by decide +kernel
  have hdollar : '$' ∉ source.toList := by decide +kernel
  refine ⟨hlayout, hdollar, ?_⟩
  rw [rewrite_program hlayout hdollar]
  decide +kernel

/--
An assignment to a variable whose name starts with `import` is taken for an import, and so it is not
reported.
-/
theorem rewrite_program_fails :
    let int : TypeName := .primitive "int" (by decide)
    let a : Name := ⟨['a'], rfl, by decide, by decide⟩
    let m : Name := ⟨['m'], rfl, by decide, by decide⟩
    let imported : Name := ⟨['i', 'm', 'p', 'o', 'r', 't', 'e', 'd'], rfl, by decide, by decide⟩
    let classes : List Class := [⟨⟨['A'], rfl, by decide, by decide⟩,
      [.method int m [⟨int, a⟩] (.statement (.assignment imported ⟨['5'], by decide, by decide⟩) .done)]⟩]
    let source := Text.unlines ["class A \x7b", "    int m(int a) \x7b", "        imported = 5;",
      "    \x7d", "\x7d"]
    Holds ((programLines classes).map Line.code) (Text.lines source)
      ∧ rewrite source
        ≠ Text.unlines (weave (reported 1 (Text.lines source) ((programLines classes).map Line.report))) := by
  decide +kernel

end Playback.Java
