import Playback.Cpp.Rewrite
import Playback.Proofs.Pattern.Captures

/-!
This module contains the invariant that every name a rewrite of a C or C++ program knows is made of word
characters: the names of variables, of structures and of their fields.
-/

namespace Playback.Cpp

open Pattern

def IsWord (name : String) : Prop :=
  ∀ c ∈ name.toList, Text.isWordChar c = true

theorem IsWord.newline_not_mem {name : String} (h : IsWord name) : '\n' ∉ name.toList := by
  intro hc
  have hword := h '\n' hc
  contradiction

theorem isWord_captured {p : Pattern} {start place : Place} (h : Reaches p start place)
    (hstart : start.captures = []) (hp : p.CapturesOnly "name" (Text.isWordChar · = true)) :
    IsWord (String.ofList (place.captured "name")) := by
  unfold IsWord
  rw [String.toList_ofList]
  exact h.captured hstart hp

theorem capturesOnly_declarator : declarator.CapturesOnly "name" (Text.isWordChar · = true) := by
  simp [declarator, dimension, CapturesOnly, blanks, blank, among, except, lineChar, textEnd,
    takesOnly_identifier]

theorem isWord_of_readPart {isChar allowCall isFirst : Bool} {part : List Char} {d : Declared}
    (h : readPart isChar allowCall isFirst part = .declares d) : IsWord d.name := by
  unfold readPart at h
  split at h
  · contradiction
  · next place hplace =>
    have hname := isWord_captured (reaches_of_matchAt? hplace) rfl capturesOnly_declarator
    dsimp only at h
    grind

theorem isWord_of_collect {parts : List Part} {ds : List Declared} (h : collect parts = some ds)
    (hparts : ∀ d, .declares d ∈ parts → IsWord d.name) : ∀ d ∈ ds, IsWord d.name := by
  fun_induction collect parts generalizing ds with
  | case1 =>
    rw [Option.some_inj] at h
    simp [← h]
  | case2 d parts ih =>
    rw [Option.map_eq_some_iff] at h
    rcases h with ⟨rest, hrest, rfl⟩
    rw [List.forall_mem_cons]
    refine ⟨hparts d (by simp), ih hrest fun e he => hparts e ?_⟩
    exact List.mem_cons_of_mem _ he
  | case3 parts ih => exact ih h fun e he => hparts e (List.mem_cons_of_mem _ he)
  | case4 => contradiction

theorem isWord_of_mem_declarations {code : List Char} {allowCall : Bool} {d : Declared}
    (h : d ∈ declarations code allowCall) : IsWord d.name := by
  unfold declarations at h
  dsimp only at h
  split at h
  · contradiction
  · next place _ =>
    split at h
    · contradiction
    · split at h
      · contradiction
      · next first rest _ =>
        generalize hds : collect _ = ds at h
        cases ds with
        | none => contradiction
        | some ds =>
          refine isWord_of_collect hds ?_ d h
          intro e he
          rw [List.mem_cons, List.mem_map] at he
          rcases he with hfirst | ⟨part, _, hpart⟩
          · exact isWord_of_readPart hfirst.symm
          · exact isWord_of_readPart hpart

theorem isWord_of_parameter? {part : List Char} {name : String} (h : parameter? part = some name) :
    IsWord name := by
  unfold parameter? at h
  dsimp only at h
  split at h
  · contradiction
  · split at h
    · contradiction
    · split at h
      · contradiction
      · next skipped place hsearch =>
        split at h
        · contradiction
        · rw [Option.some_inj] at h
          rcases reaches_of_search?_go hsearch with ⟨before, cs, hreaches⟩
          rw [← h]
          apply isWord_captured hreaches rfl
          simp [parameterName, dimension, CapturesOnly, blanks, blank, except, textEnd,
            takesOnly_identifier]

theorem isWord_of_mem_headerNames {atTop : Bool} {header : List Char} {name : String}
    (h : name ∈ headerNames atTop header) : IsWord name := by
  unfold headerNames at h
  split at h
  · unfold loopVariables at h
    split at h
    · contradiction
    · rw [List.mem_map] at h
      rcases h with ⟨d, hd, rfl⟩
      exact isWord_of_mem_declarations hd
  · split at h
    · unfold parameters at h
      split at h
      · contradiction
      · split at h
        · contradiction
        · rw [List.mem_filterMap] at h
          rcases h with ⟨part, _, hname⟩
          exact isWord_of_parameter? hname
    · contradiction

theorem isWord_of_mem_structFields {body : List Char} {field : String}
    (h : field ∈ structFields body) : IsWord field := by
  unfold structFields at h
  rw [List.mem_flatMap] at h
  rcases h with ⟨member, _, hfield⟩
  have hmem : ∃ code, ∃ d ∈ declarations code true, d.name = field := by
    unfold memberFields at hfield
    dsimp only at hfield
    split at hfield
    all_goals
      split at hfield
      · contradiction
      · split at hfield
        · contradiction
        · exact ⟨_, List.mem_map.mp hfield⟩
  rcases hmem with ⟨code, d, hd, rfl⟩
  exact isWord_of_mem_declarations hd

/-
A brace opens a structure at the top of a file only behind the header of one.
-/
theorem exists_place_of_topLevelKind {lineNo : Nat} {lastCode header : List Char} {head : StructHead}
    (h : topLevelKind lineNo lastCode header = .struct head) :
    ∃ place, structHeader.matchAt? header = some place
      ∧ head = { name := (place.captured? "name").map String.ofList, openedAt := lineNo } := by
  unfold topLevelKind at h
  dsimp only at h
  split at h
  · next found hfound =>
    rw [ScopeKind.struct.injEq] at h
    rw [Option.bind_eq_bind, Option.bind_eq_some_iff] at hfound
    rcases hfound with ⟨place, hplace, hfound⟩
    split at hfound
    · contradiction
    · split at hfound
      · rw [Option.some_inj] at hfound
        exact ⟨place, hplace, h.symm.trans hfound.symm⟩
      · contradiction
  · split at h <;> contradiction

theorem isWord_of_topLevelKind {lineNo : Nat} {lastCode header : List Char} {head : StructHead}
    (h : topLevelKind lineNo lastCode header = .struct head) : ∀ name ∈ head.name, IsWord name := by
  rcases exists_place_of_topLevelKind h with ⟨place, hplace, rfl⟩
  intro name hname
  rw [Option.mem_def, Option.map_eq_some_iff] at hname
  rcases hname with ⟨cs, hcs, rfl⟩
  have hcaptured : place.captured "name" = cs := by rw [Place.captured, hcs, Option.getD_some]
  rw [← hcaptured]
  apply isWord_captured (reaches_of_matchAt? hplace) rfl
  simp [structHeader, CapturesOnly, blanks, blank, except, textEnd, takesOnly_identifier]

theorem isWord_of_openedKind {lineNo : Nat} {scopes : List Scope} {lastCode header : List Char}
    {head : StructHead} (h : openedKind lineNo scopes lastCode header = .struct head) :
    ∀ name ∈ head.name, IsWord name := by
  unfold openedKind at h
  split at h
  · exact isWord_of_topLevelKind h
  · unfold nestedKind at h
    dsimp only at h
    split at h
    · repeat (split at h; contradiction)
      contradiction
    · contradiction

structure Scope.Worded (scope : Scope) : Prop where
  declared : ∀ d ∈ scope.declared, IsWord d.name
  head : ∀ head, scope.kind = .struct head → ∀ name ∈ head.name, IsWord name

structure Struct.Worded (s : Struct) : Prop where
  name : IsWord s.name
  fields : ∀ field ∈ s.fields, IsWord field

structure State.Worded (s : State) : Prop where
  scopes : ∀ scope ∈ s.scopes, scope.Worded
  globals : s.globals.Worded
  structs : ∀ struct ∈ s.structs, struct.Worded

namespace Scope.Worded

variable {scope : Scope} {scopes : List Scope}

theorem declare (h : scope.Worded) {d : Declared} (hd : IsWord d.name) :
    (scope.declare d).Worded where
  declared := by
    unfold Scope.declare
    rw [List.forall_mem_cons]
    exact ⟨hd, fun e he => h.declared e (List.mem_of_mem_filter he)⟩
  head := h.head

theorem declareAll (h : scope.Worded) {ds : List Declared} (hds : ∀ d ∈ ds, IsWord d.name) :
    (scope.declareAll ds).Worded := by
  unfold Scope.declareAll
  induction ds generalizing scope with
  | nil => exact h
  | cons d ds ih =>
    rw [List.forall_mem_cons] at hds
    exact ih (h.declare hds.1) hds.2

theorem openScope {atTop : Bool} {kind : ScopeKind} {header : List Char}
    (hkind : ∀ head, kind = .struct head → ∀ name ∈ head.name, IsWord name) :
    (openScope atTop kind header).Worded := by
  have hempty : Scope.Worded { kind } := ⟨by simp, hkind⟩
  unfold Cpp.openScope
  dsimp only
  split
  · apply hempty.declareAll
    rw [List.forall_mem_map]
    exact fun name hname => isWord_of_mem_headerNames hname
  · exact hempty

theorem addToBody (h : ∀ scope ∈ scopes, scope.Worded) (text : List Char) :
    ∀ scope ∈ addToBody text scopes, scope.Worded := by
  unfold Cpp.addToBody
  split
  · next head declared rest =>
    rw [List.forall_mem_cons] at h ⊢
    refine ⟨⟨h.1.declared, ?_⟩, h.2⟩
    intro other hother
    cases hother
    exact h.1.head head rfl
  · exact h

end Scope.Worded

theorem Struct.Worded.of_closeStruct? {head : StructHead} {trailer : List Char} {struct : Struct}
    (h : closeStruct? head trailer = some struct) (hhead : ∀ name ∈ head.name, IsWord name) :
    struct.Worded := by
  unfold closeStruct? at h
  rw [Option.bind_eq_bind, Option.bind_eq_some_iff] at h
  rcases h with ⟨name, hname, hstruct⟩
  cases hstruct
  refine ⟨?_, fun field => isWord_of_mem_structFields⟩
  rw [Option.or_eq_some_iff, Option.map_eq_some_iff] at hname
  rcases hname with hown | ⟨_, place, hplace, rfl⟩
  · exact hhead name hown
  · apply isWord_captured (reaches_of_matchAt? hplace) rfl
    simp [CapturesOnly, blanks, blank, takesOnly_identifier]

structure Braces.Worded (b : Braces) : Prop where
  scopes : ∀ scope ∈ b.scopes, scope.Worded
  closed : ∀ entry ∈ b.closed, ∀ name ∈ entry.1.name, IsWord name

theorem Braces.Worded.followBraces {b : Braces} (h : b.Worded) (lineNo : Nat) (atTop : Bool)
    (lastCode before cs : List Char) : (followBraces lineNo atTop lastCode before b cs).Worded := by
  induction cs generalizing before b with
  | nil => exact ⟨Scope.Worded.addToBody h.scopes [' '], h.closed⟩
  | cons c cs ih =>
    rw [Cpp.followBraces]
    apply ih
    split
    · refine ⟨?_, h.closed⟩
      rw [List.forall_mem_cons]
      exact ⟨.openScope fun head hkind => isWord_of_openedKind hkind, h.scopes⟩
    · split
      · split
        · exact h
        · next scope rest hscopes =>
          have hscope := h.scopes
          rw [hscopes, List.forall_mem_cons] at hscope
          refine ⟨Scope.Worded.addToBody hscope.2 [';'], ?_⟩
          dsimp only
          split
          · next head hkind =>
            rw [List.forall_mem_append, List.forall_mem_singleton]
            exact ⟨h.closed, hscope.1.head head hkind⟩
          · exact h.closed
      · exact ⟨Scope.Worded.addToBody h.scopes [c], h.closed⟩

theorem State.Worded.noteDeclarations {s : State} (h : s.Worded) (code : List Char)
    (before : List Scope) (b : Braces) : (noteDeclarations code before b s).Worded := by
  unfold Cpp.noteDeclarations
  split
  · exact h
  · split
    · split
      · refine ⟨?_, h.globals, h.structs⟩
        unfold declareAt
        intro scope hscope
        rw [List.mem_iff_getElem?] at hscope
        rcases hscope with ⟨i, hi⟩
        rw [List.getElem?_modify, Option.map_eq_map, Option.map_eq_some_iff] at hi
        rcases hi with ⟨old, hold, rfl⟩
        have hworded := h.scopes old (List.mem_of_getElem? hold)
        split
        · exact hworded.declareAll fun d hd => isWord_of_mem_declarations hd
        · exact hworded
      · exact h
    · split
      · refine ⟨h.scopes, ?_, h.structs⟩
        exact h.globals.declareAll fun d hd => isWord_of_mem_declarations hd
      · exact h

theorem firstOfEachName_subset (seen : List String) (ds : List Declared) :
    firstOfEachName seen ds ⊆ ds := by
  fun_induction firstOfEachName seen ds with
  | case1 => simp
  | case2 _ d ds _ ih => exact List.subset_cons_of_subset d ih
  | case3 _ d ds _ ih => exact List.cons_subset_cons d ih

/-
A visible name has been declared in one of the open scopes or outside of all of them.
-/
theorem mem_declared_of_mem_visible {limit : Int} {scopes : List Scope} {globals : Scope} {d : Declared}
    (hd : d ∈ visible limit scopes globals) :
    d ∈ globals.declared ∨ ∃ scope ∈ scopes, d ∈ scope.declared := by
  unfold visible at hd
  dsimp only at hd
  have hall := firstOfEachName_subset _ _ (Text.takeUpTo_subset _ _ hd)
  rw [List.mem_flatMap] at hall
  rcases hall with ⟨scope, hscope, hdeclared⟩
  have hmem := List.mem_of_mem_filter hscope
  rw [List.mem_append, List.mem_singleton] at hmem
  rcases hmem with hopen | rfl
  · exact .inr ⟨scope, hopen, hdeclared⟩
  · exact .inl hdeclared

theorem State.Worded.isWord_of_mem_visible {s : State} (h : s.Worded) {limit : Int} {d : Declared}
    (hd : d ∈ visible limit s.scopes s.globals) : IsWord d.name := by
  rcases mem_declared_of_mem_visible hd with hglobal | ⟨scope, hscope, hdeclared⟩
  · exact h.globals.declared d hglobal
  · exact (h.scopes scope hscope).declared d hdeclared

end Playback.Cpp
