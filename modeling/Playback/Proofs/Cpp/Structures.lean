import Playback.Proofs.Cpp.Entry
import Playback.Proofs.Cpp.Scopes
import Playback.Proofs.Source.Layout

/-!
This module contains the result about C++ programs with structures: a call names variables of the program
only, and the structures whose names stand on lines without a brace.
-/

namespace Playback.Cpp

open Source

section Course

/--
Whether reading pieces of code goes through states of a kind, whichever lines they stand on, and ends in a
state of another kind.
-/
def Keeps (maxTraced : Int) (good : State → Prop) : List (List Char) → (State → Prop) → State → Prop
  | [], final, s => final s
  | code :: codes, final, s =>
    good s ∧ ∀ lineNo, Keeps maxTraced good codes final (readLine maxTraced lineNo code [] s).1

variable {maxTraced : Int} {good final : State → Prop}

theorem keeps_append {front rest : List (List Char)} {s : State} :
    Keeps maxTraced good (front ++ rest) final s
      ↔ Keeps maxTraced good front (Keeps maxTraced good rest final) s := by
  induction front generalizing s with
  | nil => rfl
  | cons code front ih => simp only [List.cons_append, Keeps, ih]

theorem Keeps.imp {codes : List (List Char)} {s : State} (h : Keeps maxTraced good codes final s)
    {other : State → Prop} (himp : ∀ s, final s → other s) : Keeps maxTraced good codes other s := by
  induction codes generalizing s with
  | nil => exact himp s h
  | cons code codes ih => exact ⟨h.1, fun lineNo => ih (h.2 lineNo)⟩

/-
Lines that are passed over change nothing, and so the states behind all lines are of the kind.
-/
theorem Keeps.readLines {codes all : List (List Char)} {s : State}
    (h : Keeps maxTraced good codes final s) (hfinal : ∀ s, final s → good s)
    (hall : all.filter (!isPassedOver ·) = codes) (lineNo : Nat) :
    final (readLines maxTraced lineNo s all)
      ∧ ∀ count, good (readLines maxTraced lineNo s (all.take count)) := by
  have hgood : ∀ {codes s}, Keeps maxTraced good codes final s → good s := by
    intro codes s h
    cases codes with
    | nil => exact hfinal s h
    | cons code codes => exact h.1
  induction all generalizing codes s lineNo with
  | nil =>
    subst hall
    exact ⟨h, fun count => by rw [List.take_nil]; exact hfinal s h⟩
  | cons code all ih =>
    -- Either the line is passed over, or it is the first of the pieces.
    have hstep : ∃ rest, Keeps maxTraced good rest final
          (if isPassedOver code then s else (readLine maxTraced lineNo code [] s).1)
        ∧ all.filter (!isPassedOver ·) = rest := by
      cases hcode : isPassedOver code with
      | true =>
        rw [List.filter_cons_of_neg (by simp [hcode])] at hall
        exact ⟨codes, h, hall⟩
      | false =>
        rw [List.filter_cons_of_pos (by simp [hcode])] at hall
        subst hall
        exact ⟨_, h.2 lineNo, rfl⟩
    rcases hstep with ⟨rest, hrest, hall⟩
    rcases ih hrest hall (lineNo + 1) with ⟨hend, htake⟩
    refine ⟨hend, fun count => ?_⟩
    cases count with
    | zero => exact hgood h
    | succ count => exact htake count

end Course

section States

structure InBlocks (blocks : List (List String)) (globals : List String) (s : State) : Prop where
  scopes : s.scopes = blocks.map blockScope
  globals : s.globals = blockScope globals

def IsOther (scope : Scope) : Prop :=
  scope.kind.isBlock = false ∧ scope.declared = []

structure InOther (globals : List String) (s : State) : Prop where
  scopes : ∃ scope, s.scopes = [scope] ∧ IsOther scope
  globals : s.globals = blockScope globals

theorem noteDeclarations_structs (code : List Char) (before : List Scope) (b : Braces) (s : State)
    (structs : List Struct) :
    noteDeclarations code before b { s with structs }
      =
    { noteDeclarations code before b s with structs } := by
  unfold noteDeclarations
  split
  · rfl
  · split
    · split <;> rfl
    · split <;> rfl

/-
The structures that have been closed so far have no influence on the scopes.
-/
theorem exists_readLine_structs (maxTraced : Int) (lineNo : Nat) (code next : List Char) (s : State)
    (structs : List Struct) :
    ∃ more, (readLine maxTraced lineNo code next { s with structs }).1
      = { (readLine maxTraced lineNo code next s).1 with structs := more } := by
  unfold readLine
  dsimp only
  generalize followBraces lineNo s.scopes.isEmpty s.lastCode [] _ code = b
  generalize b.closed.filterMap _ = closed
  have hframe := noteDeclarations_structs code s.scopes b
    { s with scopes := b.scopes, structs := s.structs ++ closed } (structs ++ closed)
  rw [hframe]
  exact ⟨_, rfl⟩

variable {blocks after : List (List String)} {globals globals' : List String} {s : State} {lineNo : Nat}
  {code : List Char}

theorem InBlocks.eq_inBlocks (h : InBlocks blocks globals s) :
    s = { inBlocks blocks globals s.lastCode with structs := s.structs } := by
  rcases s with ⟨scopes, globals, structs, lastCode⟩
  rcases h with ⟨rfl, rfl⟩
  rfl

/-
A line is read in two steps: the braces open and close blocks, and the statement declares names.
-/
theorem InBlocks.readLine (h : InBlocks blocks globals s) (maxTraced : Int) {b : Braces}
    (hbraces : followBraces lineNo blocks.isEmpty s.lastCode [] (bracesOf blocks) code = b)
    (hclosed : b.closed = [])
    (hnoted : noteDeclarations code (blocks.map blockScope) b
      { scopes := b.scopes, globals := blockScope globals, lastCode := s.lastCode }
        = inBlocks after globals' s.lastCode) :
    InBlocks after globals' (readLine maxTraced lineNo code [] s).1 := by
  have hread := @readLine_eq 0 lineNo code [] s.lastCode globals blocks after b globals' hbraces hclosed hnoted
  rcases exists_readLine_structs maxTraced lineNo code [] (inBlocks blocks globals s.lastCode) s.structs with
    ⟨more, hmore⟩
  have hfst : (Cpp.readLine maxTraced lineNo code [] (inBlocks blocks globals s.lastCode)).1
      = inBlocks after globals' code := congrArg Prod.fst hread
  rw [h.eq_inBlocks, hmore, hfst]
  exact ⟨rfl, rfl⟩

end States

section Steps

variable {names globals : List String} {outer : List (List String)} {s : State} {code : List Char}
  (maxTraced : Int) (lineNo : Nat)

theorem InBlocks.readLine_outside (h : InBlocks [] globals s) (hopen : '{' ∉ code) (hclose : '}' ∉ code)
    {xs : List String} (hcode : declarations code false = xs.map (⟨·, .variable⟩)) :
    InBlocks [] (xs.reverse ++ globals) (Cpp.readLine maxTraced lineNo code [] s).1 :=
  h.readLine maxTraced (followBraces_plain [] rfl hopen hclose) rfl (noteDeclarations_outside xs hcode)

theorem InBlocks.readLine_inside (h : InBlocks (names :: outer) globals s) (hopen : '{' ∉ code)
    (hclose : '}' ∉ code) {xs : List String} (hcode : declarations code true = xs.map (⟨·, .variable⟩)) :
    InBlocks ((xs.reverse ++ names) :: outer) globals (Cpp.readLine maxTraced lineNo code [] s).1 :=
  h.readLine maxTraced (followBraces_plain (names :: outer) rfl hopen hclose) rfl
    (noteDeclarations_inside [] xs rfl rfl hcode)

theorem InBlocks.readLine_closing (h : InBlocks (names :: outer) globals s) :
    InBlocks outer globals (Cpp.readLine maxTraced lineNo ['}'] [] s).1 :=
  h.readLine maxTraced (followBraces_closing names outer) rfl (noteDeclarations_closing names outer)

/-
A brace opens a scope with the text in front of it as its header, or else with the last code.
-/
theorem followBraces_opening {lastCode front header : List Char}
    (hheader : Introduces lastCode front header) (blocks : List (List String)) (atTop : Bool) :
    let kind := openedKind lineNo (blocks.map blockScope) lastCode header
    followBraces lineNo atTop lastCode [] (bracesOf blocks) (front ++ ['{'])
      =
    { scopes := addToBody [' '] (openScope atTop kind header :: blocks.map blockScope),
      openedBlock := kind.isBlock, openedStruct := kind.isStruct, minDepth := blocks.length } := by
  intro kind
  rw [followBraces_append blocks rfl hheader.opening hheader.closing, followBraces, if_pos (by decide)]
  dsimp only
  rw [List.append_nil, List.reverse_reverse, hheader.shown]
  rfl

theorem InBlocks.readLine_block {front header : List Char} (h : InBlocks [] globals s)
    (hheader : Introduces s.lastCode front header)
    (hkind : topLevelKind lineNo s.lastCode header = .block) :
    InBlocks [(headerNames true header).reverse] globals
      (Cpp.readLine maxTraced lineNo (front ++ ['{']) [] s).1 := by
  have hbraces := followBraces_opening lineNo hheader [] true
  have hkind : openedKind lineNo ([].map blockScope) s.lastCode header = .block := hkind
  dsimp only at hbraces
  rw [hkind, openScope_block] at hbraces
  exact h.readLine maxTraced hbraces rfl (noteDeclarations_function _)

theorem exists_addToBody (text : List Char) {scope : Scope} (h : IsOther scope) :
    ∃ other, addToBody text [scope] = [other] ∧ IsOther other := by
  unfold addToBody
  split
  · next heq =>
    cases heq
    exact ⟨_, rfl, rfl, h.2⟩
  · exact ⟨scope, rfl, h⟩

theorem isOther_openScope {kind : ScopeKind} (hkind : kind.isBlock = false) (atTop : Bool)
    (header : List Char) : IsOther (openScope atTop kind header) := by
  unfold openScope
  dsimp only
  rw [hkind]
  exact ⟨hkind, rfl⟩

/-
Where no names are noted, a line changes the scopes by its braces only.
-/
theorem readLine_unnoted {b : Braces}
    (hbraces : followBraces lineNo s.scopes.isEmpty s.lastCode []
      { scopes := s.scopes, minDepth := s.scopes.length } code = b)
    (hnoted : ∀ t : State, t.scopes = b.scopes → noteDeclarations code s.scopes b t = t) :
    (readLine maxTraced lineNo code [] s).1.scopes = b.scopes
      ∧ (readLine maxTraced lineNo code [] s).1.globals = s.globals := by
  unfold readLine
  dsimp only
  rw [hbraces, hnoted _ rfl]
  exact ⟨rfl, rfl⟩

/-
A brace at the top of a file that is not taken for the one of a function opens a scope without names.
-/
theorem InBlocks.readLine_other {front header : List Char} (h : InBlocks [] globals s)
    (hheader : Introduces s.lastCode front header)
    (hkind : (topLevelKind lineNo s.lastCode header).isBlock = false) :
    InOther globals (Cpp.readLine maxTraced lineNo (front ++ ['{']) [] s).1 := by
  have hbraces := followBraces_opening lineNo hheader [] true
  have hempty : s.scopes = [] := h.scopes
  have hother := isOther_openScope hkind true header
  rcases exists_addToBody [' '] hother with ⟨scope, hscope, hscopeOther⟩
  dsimp only at hbraces
  rw [List.map_nil, openedKind, hscope] at hbraces
  have hread := @readLine_unnoted s (front ++ ['{']) maxTraced lineNo
  rw [hempty] at hread
  have hread := hread hbraces fun t ht => by
    unfold noteDeclarations
    dsimp only at ht ⊢
    rw [if_neg (by simp), ht]
    rfl
  exact ⟨⟨scope, hread.1, hscopeOther⟩, hread.2.trans h.globals⟩

theorem followBraces_other {b : Braces} {before : List Char} {lastCode : List Char} {atTop : Bool}
    (h : ∃ scope, b.scopes = [scope] ∧ IsOther scope) (hopen : '{' ∉ code) (hclose : '}' ∉ code) :
    ∃ scope, followBraces lineNo atTop lastCode before b code = { b with scopes := [scope] }
      ∧ IsOther scope := by
  induction code generalizing before b with
  | nil =>
    rcases h with ⟨scope, hscopes, hother⟩
    rcases exists_addToBody [' '] hother with ⟨other, heq, hnext⟩
    refine ⟨other, ?_, hnext⟩
    rw [followBraces, hscopes, heq]
  | cons c code ih =>
    rw [List.mem_cons, not_or] at hopen hclose
    rcases h with ⟨scope, hscopes, hother⟩
    rcases exists_addToBody [c] hother with ⟨other, heq, hnext⟩
    rw [followBraces, if_neg (by simpa using Ne.symm hopen.1), if_neg (by simpa using Ne.symm hclose.1),
      hscopes, heq]
    exact ih ⟨other, rfl, hnext⟩ hopen.2 hclose.2

theorem InOther.readLine_inside (h : InOther globals s) (hopen : '{' ∉ code) (hclose : '}' ∉ code) :
    InOther globals (Cpp.readLine maxTraced lineNo code [] s).1 := by
  rcases h.scopes with ⟨scope, hscopes, hother⟩
  have hstart : ∃ scope, ({ scopes := s.scopes, minDepth := s.scopes.length } : Braces).scopes = [scope]
      ∧ IsOther scope := ⟨scope, hscopes, hother⟩
  rcases followBraces_other lineNo hstart hopen hclose with ⟨after, hbraces, hafter⟩
  have hread := readLine_unnoted maxTraced lineNo hbraces fun t _ => by
    unfold noteDeclarations
    rw [hscopes]
    dsimp only
    rw [if_neg (by simp), hother.1]
    rfl
  exact ⟨⟨after, hread.1, hafter⟩, hread.2.trans h.globals⟩

theorem InOther.readLine_closing (h : InOther globals s) :
    InBlocks [] globals (Cpp.readLine maxTraced lineNo ['}', ';'] [] s).1 := by
  rcases h.scopes with ⟨scope, hscopes, hother⟩
  have hread := @readLine_unnoted s ['}', ';'] maxTraced lineNo _ rfl fun t _ => by
    unfold noteDeclarations
    rw [hscopes, if_pos (by simp [followBraces, addToBody])]
  rw [hscopes] at hread
  exact ⟨hread.1, hread.2.trans h.globals⟩

end Steps

section Entries

variable {P : String → Prop}

structure State.Names (P : String → Prop) (s : State) : Prop where
  globals : ∀ d ∈ s.globals.declared, P d.name
  scopes : ∀ scope ∈ s.scopes, ∀ d ∈ scope.declared, P d.name

theorem mem_of_mem_blockScope {names : List String} {d : Declared} (h : d ∈ (blockScope names).declared) :
    d.name ∈ names := by
  rcases List.mem_map.mp (firstOfEachName_subset _ _ h) with ⟨x, hx, rfl⟩
  exact hx

variable {globals : List String} {s : State} (hglobals : ∀ x ∈ globals, P x)
include hglobals

theorem InBlocks.names {blocks : List (List String)} (h : InBlocks blocks globals s)
    (hblocks : ∀ xs ∈ blocks, ∀ x ∈ xs, P x) : s.Names P where
  globals d hd := by
    rw [h.globals] at hd
    exact hglobals _ (mem_of_mem_blockScope hd)
  scopes scope hscope d hd := by
    rw [h.scopes] at hscope
    rcases List.mem_map.mp hscope with ⟨xs, hxs, rfl⟩
    exact hblocks xs hxs _ (mem_of_mem_blockScope hd)

theorem InOther.names (h : InOther globals s) : s.Names P where
  globals d hd := by
    rw [h.globals] at hd
    exact hglobals _ (mem_of_mem_blockScope hd)
  scopes scope hscope d hd := by
    rcases h.scopes with ⟨other, hscopes, hother⟩
    rw [hscopes, List.mem_singleton] at hscope
    rw [hscope, hother.2] at hd
    contradiction

theorem keeps_members (maxTraced : Int) (members : List Member) (h : InOther globals s) :
    Keeps maxTraced (State.Names P) (members.map Member.code) (InOther globals) s := by
  induction members generalizing s with
  | nil => exact h
  | cons m members ih =>
    have hmade := m.madeOf
    refine ⟨h.names hglobals, fun lineNo => ih ?_⟩
    exact h.readLine_inside maxTraced lineNo (hmade.not_mem rfl (by decide)) (hmade.not_mem rfl (by decide))

theorem keeps_body (maxTraced : Int) (body : List Statement) {xs : List String}
    (h : InBlocks [xs] globals s) (hxs : ∀ x ∈ xs, P x) (hbody : ∀ x ∈ body.flatMap Statement.declared, P x) :
    Keeps maxTraced (State.Names P) (body.map (·.line.code))
      (fun t => ∃ ys, InBlocks [ys] globals t ∧ ∀ y ∈ ys, P y) s := by
  induction body generalizing s xs with
  | nil => exact ⟨xs, h, hxs⟩
  | cons statement body ih =>
    rw [List.flatMap_cons, List.forall_mem_append] at hbody
    have hmade := statement.madeOf
    refine ⟨h.names hglobals (by simpa using hxs), fun lineNo => ?_⟩
    refine ih (h.readLine_inside maxTraced lineNo (hmade.not_mem rfl (by decide))
      (hmade.not_mem rfl (by decide)) statement.declarations_code) ?_ hbody.2
    rw [List.forall_mem_append]
    exact ⟨fun x hx => hbody.1 x (List.mem_reverse.mp hx), hxs⟩

/-
A header with its brace leads to a state inside of the scope, if the brace does.
-/
theorem keeps_opening (maxTraced : Int) {header : List Char} {outside : List String}
    (hheader : IsHeader header outside) (brace : Brace) (hP : ∀ x ∈ brace.unbraced outside, P x)
    {inside : List String → State → Prop}
    (hinside : ∀ globals s lineNo front, InBlocks [] globals s → Introduces s.lastCode front header →
      inside globals (readLine maxTraced lineNo (front ++ ['{']) [] s).1)
    (h : InBlocks [] globals s) :
    Keeps maxTraced (State.Names P) (brace.codes header)
      (inside ((brace.unbraced outside).reverse ++ globals)) s := by
  have hknown : s.Names P := h.names hglobals (by simp)
  cases brace with
  | behind spaces =>
    exact ⟨hknown, fun lineNo => hinside globals s lineNo _ h (hheader.introduces spaces s.lastCode)⟩
  | apart =>
    refine ⟨hknown, fun lineNo => ?_⟩
    have hnext := h.readLine_outside maxTraced lineNo hheader.opening hheader.closing hheader.declares
    have hnames : ∀ x ∈ outside.reverse ++ globals, P x := by
      rw [List.forall_mem_append]
      exact ⟨fun x hx => hP x (List.mem_reverse.mp hx), hglobals⟩
    exact ⟨hnext.names hnames (by simp),
      fun lineNo => hinside _ _ lineNo [] hnext (introduces_alone header)⟩

theorem keeps_struct (maxTraced : Int) (n : Name) (brace : Brace) (members : List Member)
    (hunbraced : ∀ x ∈ brace.unbraced [n.name], P x) (h : InBlocks [] globals s) :
    Keeps maxTraced (State.Names P) (Entry.struct n brace members).codes
      (InBlocks [] ((brace.unbraced [n.name]).reverse ++ globals)) s := by
  have hnames : ∀ x ∈ (brace.unbraced [n.name]).reverse ++ globals, P x := by
    rw [List.forall_mem_append]
    exact ⟨fun x hx => hunbraced x (List.mem_reverse.mp hx), hglobals⟩
  have hinside : ∀ globals s lineNo front, InBlocks [] globals s →
      Introduces s.lastCode front (structWords n) →
        InOther globals (readLine maxTraced lineNo (front ++ ['{']) [] s).1 :=
    fun _ s lineNo _ h hheader =>
      h.readLine_other maxTraced lineNo hheader (isBlock_structWords lineNo s.lastCode n)
  rw [Entry.codes, List.append_assoc, keeps_append]
  apply (keeps_opening hglobals maxTraced (isHeader_structWords n) brace hunbraced hinside h).imp
  intro t ht
  rw [keeps_append]
  apply (keeps_members hnames maxTraced members ht).imp
  exact fun t ht => ⟨ht.names hnames, fun lineNo => ht.readLine_closing maxTraced lineNo⟩

theorem keeps_function (maxTraced : Int) (type : TypeName) (f : Name) (parameters : List Parameter)
    (brace : Brace) (body : List Statement) (hparameters : ∀ x ∈ parameters.map (·.name.name), P x)
    (hbody : ∀ x ∈ body.flatMap Statement.declared, P x) (h : InBlocks [] globals s) :
    Keeps maxTraced (State.Names P) (Entry.function type f parameters brace body).codes
      (InBlocks [] globals) s := by
  have hmade := madeOf_functionFront type f parameters
  -- The brace opens a block with the names of the parameters.
  have hinside : ∀ globals s lineNo front, InBlocks [] globals s →
      Introduces s.lastCode front (functionFront type f parameters ++ [')']) →
        InBlocks [(parameters.map (·.name.name)).reverse] globals
          (readLine maxTraced lineNo (front ++ ['{']) [] s).1 := by
    intro globals s lineNo front h hheader
    have hkind := topLevelKind_eq lineNo s.lastCode (hmade.not_mem rfl (by decide))
      (hmade.not_mem rfl (by decide)) (by simp [functionFront])
    rw [← headerNames_function type f parameters]
    exact h.readLine_block maxTraced lineNo hheader hkind
  have hnone : brace.unbraced [] = [] := by cases brace <;> rfl
  have hopened := keeps_opening hglobals maxTraced (isHeader_functionFront type f parameters) brace
    (by simp [hnone]) hinside h
  rw [Entry.codes, List.append_assoc, keeps_append]
  apply hopened.imp
  intro t ht
  rw [hnone, List.reverse_nil, List.nil_append] at ht
  rw [keeps_append]
  apply (keeps_body hglobals maxTraced body ht (fun x hx => hparameters x (List.mem_reverse.mp hx)) hbody).imp
  rintro t ⟨ys, ht, hys⟩
  exact ⟨ht.names hglobals (by simpa using hys), fun lineNo => ht.readLine_closing maxTraced lineNo⟩

theorem keeps_entry (maxTraced : Int) (entry : Entry) (hvariables : ∀ x ∈ entry.variables, P x)
    (hunbraced : ∀ x ∈ entry.unbraced, P x) (h : InBlocks [] globals s) :
    Keeps maxTraced (State.Names P) entry.codes (InBlocks [] (entry.outside.reverse ++ globals)) s := by
  have hknown : s.Names P := h.names hglobals (by simp)
  cases entry with
  | forward n =>
    have hmade : MadeOf [' ', ';'] (structWords n ++ [';']) :=
      ((madeOf_structWords n).of_subset (by decide)).append (.cons (by decide) .nil)
    have hcode : declarations (structWords n ++ [';']) false = [n.name].map (⟨·, .variable⟩) :=
      declarations_structWords n (.inr ⟨[], rfl⟩)
    exact ⟨hknown, fun lineNo => h.readLine_outside maxTraced lineNo (hmade.not_mem rfl (by decide))
      (hmade.not_mem rfl (by decide)) hcode⟩
  | struct n brace members => exact keeps_struct hglobals maxTraced n brace members hunbraced h
  | global type g e =>
    have hmade := madeOf_declaration type g e
    have hcode : declarations (Line.declaration type g e).code false = [g.name].map (⟨·, .variable⟩) :=
      declarations_declaration type g e false
    exact ⟨hknown, fun lineNo => h.readLine_outside maxTraced lineNo (hmade.not_mem rfl (by decide))
      (hmade.not_mem rfl (by decide)) hcode⟩
  | function type f parameters brace body =>
    rw [Entry.variables, List.forall_mem_append] at hvariables
    exact keeps_function hglobals maxTraced type f parameters brace body hvariables.1 hvariables.2 h

end Entries

section Result

/--
Whether a name is the one of a variable, or of a structure on a line without a brace.
-/
def IsReported (entries : List Entry) (x : String) : Prop :=
  x ∈ entries.flatMap Entry.variables ∨ x ∈ entries.flatMap Entry.unbraced

theorem keeps_program (maxTraced : Int) {P : String → Prop} {entries : List Entry} {globals : List String}
    {s : State} (hglobals : ∀ x ∈ globals, P x)
    (hentries : ∀ entry ∈ entries, ∀ x, x ∈ entry.variables ∨ x ∈ entry.unbraced → P x)
    (h : InBlocks [] globals s) :
    Keeps maxTraced (State.Names P) (entries.flatMap Entry.codes)
      (fun t => InBlocks [] ((entries.flatMap Entry.outside).reverse ++ globals) t ∧ t.Names P) s := by
  induction entries generalizing globals s with
  | nil => exact ⟨h, h.names hglobals (by simp)⟩
  | cons entry entries ih =>
    rw [List.forall_mem_cons] at hentries
    have hnext : ∀ x ∈ entry.outside.reverse ++ globals, P x := by
      rw [List.forall_mem_append]
      exact ⟨fun x hx => hentries.1 x (Entry.mem_outside (List.mem_reverse.mp hx)), hglobals⟩
    rw [List.flatMap_cons, keeps_append]
    apply (keeps_entry hglobals maxTraced entry (fun x hx => hentries.1 x (.inl hx))
      (fun x hx => hentries.1 x (.inr hx)) h).imp
    intro t ht
    rw [List.flatMap_cons, List.reverse_append, List.append_assoc]
    exact ih hnext hentries.2 ht

variable {entries : List Entry} {source : String}
  (hlayout : Holds (entries.flatMap Entry.codes) (Text.lines source))
include hlayout

/-
The code of a program is the one of its entries, blank lines left aside.
-/
theorem filter_codes : (codes source).filter (!isPassedOver ·) = entries.flatMap Entry.codes := by
  -- The entries have no character in them that starts a comment, a literal or a directive.
  have hmade : ∀ code ∈ entries.flatMap Entry.codes,
      MadeOf [' ', '+', '<', '=', ';', ',', '(', ')', '{', '}'] code := by
    intro code hcode
    rcases List.mem_flatMap.mp hcode with ⟨entry, _, hcode⟩
    exact entry.madeOf code hcode
  have hbare : ∀ code ∈ entries.flatMap Entry.codes, Bare code := by
    intro code hcode c hc
    refine ⟨?_, ?_, ?_⟩
    all_goals
      rintro rfl
      exact (hmade code hcode).not_mem rfl (by decide) hc
  have hdirective : ∀ code ∈ entries.flatMap Entry.codes, (code.head? == some '#') = false := by
    intro code hcode
    rw [beq_eq_false_iff_ne]
    intro hhead
    exact (hmade code hcode).not_mem rfl (by decide) (List.mem_of_mem_head? hhead)
  rw [codes, codeLines_eq (hlayout.bare hbare)]
  unfold Holds at hlayout
  rw [← hlayout] at hdirective ⊢
  apply List.filter_congr
  intro code hcode
  rw [isPassedOver]
  cases hempty : code.isEmpty with
  | true => rfl
  | false =>
    rw [hdirective code (List.mem_filter.mpr ⟨hcode, by simp [hempty]⟩)]
    rfl

/-
Behind every line, the names that a rewrite knows are those of variables and of structures on lines without
a brace, and at the end it knows the latter as names outside of functions.
-/
theorem names_stateAfter (maxTraced : Int) :
    (stateAfter maxTraced source (Text.lines source).length).globals
        = blockScope (entries.flatMap Entry.outside).reverse
      ∧ ∀ count, (stateAfter maxTraced source count).Names (IsReported entries) := by
  have hstart : InBlocks [] [] ({} : State) := ⟨rfl, rfl⟩
  have hentries : ∀ entry ∈ entries, ∀ x, x ∈ entry.variables ∨ x ∈ entry.unbraced → IsReported entries x :=
    fun entry hentry x hx => hx.imp (fun hx => List.mem_flatMap.mpr ⟨entry, hentry, hx⟩)
      fun hx => List.mem_flatMap.mpr ⟨entry, hentry, hx⟩
  have hkeeps := keeps_program maxTraced (by simp) hentries hstart
  rcases hkeeps.readLines (fun _ h => h.2) (filter_codes hlayout) 1 with ⟨hend, hall⟩
  refine ⟨?_, hall⟩
  have hlength : (codes source).take (Text.lines source).length = codes source := by
    apply List.take_of_length_le
    rw [codes, length_codeLines, List.length_map]
  rw [stateAfter, hlength, hend.1.globals, List.append_nil]

/--
What a call names is a variable of the program, or a structure whose name stands on a line without a brace:
such a line is taken for a declaration outside of functions.
-/
theorem rewrite_names_variables (maxTraced : Int) :
    (stateAfter maxTraced source (Text.lines source).length).globals
        = blockScope (entries.flatMap Entry.outside).reverse
      ∧ ∃ woven, ∃ structs : List Struct,
        rewrite source maxTraced = Text.unlines (weave woven ++ structs.flatMap dumperDefinition)
          ∧ woven.map Prod.fst = Text.lines source
          ∧ ∀ i line added, woven[i]? = some (line, added) →
            ∃ others call, added = others ++ call
              ∧ (∀ other ∈ others, ∀ lineNo names, other ≠ traceCall lineNo names)
              ∧ (call = []
                ∨ ∃ names, call = [traceCall (i + 1) names]
                  ∧ ∀ d ∈ names,
                    d.name ∈ entries.flatMap Entry.variables ∨ d.name ∈ entries.flatMap Entry.unbraced) := by
  rcases names_stateAfter hlayout maxTraced with ⟨hglobals, hnames⟩
  refine ⟨hglobals, ?_⟩
  rcases exists_calls source maxTraced with ⟨woven, structs, hout, hown, hcalls⟩
  refine ⟨woven, structs, hout, hown, ?_⟩
  intro i line added hentry
  rcases hcalls i line added hentry with ⟨others, call, hlines, hothers, hcall⟩
  refine ⟨others, call, hlines, hothers, ?_⟩
  rcases hcall with hnone | ⟨names, hcall, _, hdeclared⟩
  · exact .inl hnone
  · refine .inr ⟨names, hcall, fun d hd => ?_⟩
    rcases hdeclared d hd with hglobal | ⟨scope, hscope, hlocal⟩
    · exact (hnames (i + 1)).globals d hglobal
    · exact (hnames (i + 1)).scopes scope hscope d hlocal

end Result

/--
A structure with its brace on the same line and a function with its brace on the next one.
-/
theorem rewrite_names_variables_braced :
    let int : TypeName := .builtin [] "int" (by simp) (by decide)
    let node : Name := ⟨['N'], rfl, by decide, by decide⟩
    let g : Name := ⟨['g'], rfl, by decide, by decide⟩
    let n : Name := ⟨['n'], rfl, by decide, by decide⟩
    let x : Name := ⟨['x'], rfl, by decide, by decide⟩
    let entries : List Entry :=
      [.struct node (.behind 1) [⟨int, x⟩], .global int g ⟨['1'], by decide, by decide⟩,
        .function int ⟨['f'], rfl, by decide, by decide⟩ [⟨.named node, n⟩] .apart
          [.declare int x ⟨['g', '+', '1'], by decide, by decide⟩,
            .assign g ⟨['x'], by decide, by decide⟩]]
    let source := Text.unlines ["struct N \x7b", "  int x;", "\x7d;", "", "int g = 1;", "int f(N n)", "\x7b",
      "  int x = g+1;", "  g = x;", "\x7d"]
    Holds (entries.flatMap Entry.codes) (Text.lines source)
      ∧ (stateAfter defaultMaxTraced source 10).globals = blockScope ["g"]
      ∧ ∃ woven, ∃ structs : List Struct,
        rewrite source defaultMaxTraced = Text.unlines (weave woven ++ structs.flatMap dumperDefinition)
          ∧ woven.map Prod.fst = Text.lines source
          ∧ ∀ i line added, woven[i]? = some (line, added) →
            ∃ others call, added = others ++ call
              ∧ (∀ other ∈ others, ∀ lineNo names, other ≠ traceCall lineNo names)
              ∧ (call = []
                ∨ ∃ names, call = [traceCall (i + 1) names]
                  ∧ ∀ d ∈ names, d.name ∈ ["g", "n", "x"] ∨ d.name ∈ []) := by
  intro int node g n x entries source
  have hlayout : Holds (entries.flatMap Entry.codes) (Text.lines source) := by
    decide +kernel
  have hlength : (Text.lines source).length = 10 := by
    decide +kernel
  have houtside : (entries.flatMap Entry.outside).reverse = ["g"] := rfl
  have hvariables : entries.flatMap Entry.variables = ["g", "n", "x"] := rfl
  have hunbraced : entries.flatMap Entry.unbraced = [] := rfl
  have hnames := rewrite_names_variables hlayout defaultMaxTraced
  rw [hlength, houtside, hvariables, hunbraced] at hnames
  exact ⟨hlayout, hnames⟩

/--
A structure that is only declared is named in every call, as if it were a variable.
-/
theorem rewrite_names_variables_fails :
    rewrite (Text.unlines ["struct Node;", "int main() \x7b", "    int x = 1;", "\x7d"]) defaultMaxTraced
      =
    Text.unlines ["struct Node;", "int main() \x7b", "__pt_trace_impl(2, \"Node\", Node);", "    int x = 1;",
      "__pt_trace_impl(3, \"x\", x, \"Node\", Node);", "\x7d"] := by
  decide +kernel

end Playback.Cpp
