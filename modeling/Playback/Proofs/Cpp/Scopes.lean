import Playback.Proofs.Cpp.Added
import Playback.Proofs.Cpp.Header

/-!
This module contains the state of a rewrite inside nested blocks that declare variables only: what braces
and declarations make of it, and which variables are visible in it.
-/

namespace Playback.Cpp

section Scopes

theorem firstOfEachName_congr {seen more : List String} (h : ∀ x, x ∈ seen ↔ x ∈ more)
    (ds : List Declared) : firstOfEachName seen ds = firstOfEachName more ds := by
  induction ds generalizing seen more with
  | nil => rfl
  | cons d ds ih =>
    simp only [firstOfEachName, List.contains_iff_mem, h]
    have hnext : ∀ x, x ∈ d.name :: seen ↔ x ∈ d.name :: more := by simp [h]
    rw [ih h, ih hnext]

theorem filter_firstOfEachName (seen : List String) (ds : List Declared) (x : String) :
    (firstOfEachName seen ds).filter (·.name != x) = firstOfEachName (x :: seen) ds := by
  induction ds generalizing seen with
  | nil => rfl
  | cons d ds ih =>
    simp only [firstOfEachName, List.contains_iff_mem, List.mem_cons]
    by_cases hseen : d.name ∈ seen
    · rw [if_pos hseen, if_pos (.inr hseen), ih]
    · rw [if_neg hseen]
      by_cases hx : d.name = x
      · rw [List.filter_cons_of_neg (by simp [hx]), if_pos (.inl hx), ih, hx]
        exact firstOfEachName_congr (by simp) ds
      · rw [List.filter_cons_of_pos (by simp [hx]), if_neg (by simp [hx, hseen]), ih]
        congr 1
        exact firstOfEachName_congr (by simp [or_left_comm]) ds

theorem firstOfEachName_append_congr {ds es : List Declared}
    (h : ∀ seen, firstOfEachName seen ds = firstOfEachName seen es) (seen : List String)
    (front : List Declared) :
    firstOfEachName seen (front ++ ds) = firstOfEachName seen (front ++ es) := by
  induction front generalizing seen with
  | nil => exact h seen
  | cons d front ih => rw [List.cons_append, List.cons_append, firstOfEachName, firstOfEachName, ih, ih]

/-
Names that are left out beforehand would be left out anyway.
-/
theorem firstOfEachName_append {seen more : List String} (h : more ⊆ seen) (ds es : List Declared) :
    firstOfEachName seen (firstOfEachName more ds ++ es) = firstOfEachName seen (ds ++ es) := by
  induction ds generalizing seen more with
  | nil => rfl
  | cons d ds ih =>
    rw [List.cons_append, firstOfEachName]
    by_cases hmore : d.name ∈ more
    · rw [if_pos (by simpa using hmore), ih h, firstOfEachName, if_pos (by simpa using h hmore)]
    · rw [if_neg (by simpa using hmore), List.cons_append, firstOfEachName, firstOfEachName]
      by_cases hseen : d.name ∈ seen
      · rw [if_pos (by simpa using hseen), if_pos (by simpa using hseen)]
        exact ih (List.cons_subset.mpr ⟨hseen, h⟩)
      · rw [if_neg (by simpa using hseen), if_neg (by simpa using hseen), ih]
        exact List.cons_subset_cons d.name h

theorem map_name_firstOfEachName (seen : List String) (ds : List Declared) :
    (firstOfEachName seen ds).map Declared.name
      =
    ((ds.map Declared.name).filter (!seen.contains ·)).eraseDups := by
  induction ds generalizing seen with
  | nil => rfl
  | cons d ds ih =>
    rw [List.map_cons, firstOfEachName]
    by_cases hseen : d.name ∈ seen
    · rw [if_pos (by simpa using hseen), ih, List.filter_cons_of_neg (by simpa using hseen)]
    · have htests : ∀ x, (!(d.name :: seen).contains x) = (!(x == d.name) && !seen.contains x) := by
        intro x
        rw [List.contains_cons, Bool.not_or]
      rw [if_neg (by simpa using hseen), List.filter_cons_of_pos (by simpa using hseen),
        List.eraseDups_cons, List.filter_filter, List.map_cons, ih]
      simp only [htests]

theorem firstOfEachName_map (seen names : List String) :
    firstOfEachName seen (names.map (⟨·, .variable⟩))
      =
    ((names.filter (!seen.contains ·)).eraseDups).map (⟨·, .variable⟩) := by
  have hnames := map_name_firstOfEachName seen (names.map (⟨·, .variable⟩))
  have hname : Declared.name ∘ (⟨·, .variable⟩) = id := rfl
  have hvariables : ∀ d ∈ firstOfEachName seen (names.map (⟨·, .variable⟩)), ⟨d.name, .variable⟩ = d := by
    intro d hd
    rcases List.mem_map.mp (firstOfEachName_subset _ _ hd) with ⟨name, _, rfl⟩
    rfl
  rw [List.map_map, hname, List.map_id] at hnames
  rw [← hnames, List.map_map]
  exact ((List.map_congr_left hvariables).trans (List.map_id _)).symm

def blockScope (names : List String) : Scope :=
  { kind := .block, declared := firstOfEachName [] (names.map (⟨·, .variable⟩)) }

theorem declare_blockScope (x : String) (names : List String) :
    (blockScope names).declare ⟨x, .variable⟩ = blockScope (x :: names) := by
  unfold blockScope Scope.declare
  rw [filter_firstOfEachName]
  rfl

theorem declareAll_blockScope (xs names : List String) :
    (blockScope names).declareAll (xs.map (⟨·, .variable⟩)) = blockScope (xs.reverse ++ names) := by
  unfold Scope.declareAll
  induction xs generalizing names with
  | nil => rfl
  | cons x xs ih =>
    rw [List.map_cons, List.foldl_cons, declare_blockScope, ih, List.reverse_cons, List.append_assoc]
    rfl

theorem firstOfEachName_declared (blocks : List (List String)) (seen : List String) :
    firstOfEachName seen ((blocks.map blockScope).flatMap Scope.declared)
      =
    firstOfEachName seen (blocks.flatten.map (⟨·, .variable⟩)) := by
  induction blocks generalizing seen with
  | nil => rfl
  | cons names blocks ih =>
    rw [List.map_cons, List.flatMap_cons, blockScope, firstOfEachName_append (List.nil_subset seen),
      firstOfEachName_append_congr ih, List.flatten_cons, List.map_append]

theorem visible_eq (limit : Nat) (blocks : List (List String)) (globals : List String) :
    visible limit (blocks.map blockScope) (blockScope globals)
      =
    ((inScope (blocks ++ [globals])).take limit).map (⟨·, .variable⟩) := by
  have hscopes : (blocks.map blockScope ++ [blockScope globals]).filter (·.kind.isBlock)
      = (blocks ++ [globals]).map blockScope := by
    have hall : blocks.map blockScope ++ [blockScope globals] = (blocks ++ [globals]).map blockScope := by
      simp
    rw [hall, List.filter_eq_self]
    intro scope hscope
    rw [List.mem_map] at hscope
    rcases hscope with ⟨names, _, rfl⟩
    rfl
  unfold visible
  dsimp only
  rw [hscopes, firstOfEachName_declared, firstOfEachName_map, Text.takeUpTo_of_nonneg (by omega), inScope,
    List.map_take, List.filter_eq_self.mpr (by simp)]
  rfl

end Scopes

section Braces

variable {lineNo : Nat} {atTop : Bool} {lastCode before : List Char} {b : Braces}

theorem addToBody_blocks (text : List Char) (blocks : List (List String)) :
    addToBody text (blocks.map blockScope) = blocks.map blockScope := by
  cases blocks <;> rfl

/-
Text without braces changes nothing, as long as no structure is open.
-/
theorem followBraces_append (blocks : List (List String)) (hb : b.scopes = blocks.map blockScope)
    {front : List Char} (hopen : '{' ∉ front) (hclose : '}' ∉ front) (rest : List Char) :
    followBraces lineNo atTop lastCode before b (front ++ rest)
      =
    followBraces lineNo atTop lastCode (front.reverse ++ before) b rest := by
  induction front generalizing before with
  | nil => rfl
  | cons c front ih =>
    rw [List.mem_cons, not_or] at hopen hclose
    have hbody : { b with scopes := addToBody [c] b.scopes } = b := by
      rw [hb, addToBody_blocks, ← hb]
    rw [List.cons_append, followBraces, if_neg (by simpa using Ne.symm hopen.1),
      if_neg (by simpa using Ne.symm hclose.1), hbody, ih hopen.2 hclose.2, List.reverse_cons,
      List.append_assoc]
    rfl

theorem followBraces_nil (blocks : List (List String)) (hb : b.scopes = blocks.map blockScope) :
    followBraces lineNo atTop lastCode before b [] = b := by
  rw [followBraces, hb, addToBody_blocks, ← hb]

theorem followBraces_plain (blocks : List (List String)) (hb : b.scopes = blocks.map blockScope)
    {code : List Char} (hopen : '{' ∉ code) (hclose : '}' ∉ code) :
    followBraces lineNo atTop lastCode [] b code = b := by
  rw [← List.append_nil code, followBraces_append blocks hb hopen hclose,
    followBraces_nil blocks hb]

def bracesOf (blocks : List (List String)) : Braces :=
  { scopes := blocks.map blockScope, minDepth := blocks.length }

theorem followBraces_closing (names : List String) (blocks : List (List String)) :
    followBraces lineNo atTop lastCode [] (bracesOf (names :: blocks)) ['}']
      =
    { bracesOf blocks with minDepth := blocks.length } := by
  rw [followBraces, if_neg (by decide), if_pos (by decide), followBraces_nil blocks]
  · simp [bracesOf, addToBody_blocks, blockScope]
  · simp [bracesOf, addToBody_blocks]

theorem openScope_block (header : List Char) :
    openScope atTop .block header = blockScope (headerNames atTop header).reverse := by
  have hempty : ({ kind := .block } : Scope) = blockScope [] := rfl
  have hblock : ScopeKind.block.isBlock = true := rfl
  unfold openScope
  dsimp only
  rw [if_pos hblock, hempty, declareAll_blockScope, List.append_nil]

theorem followBraces_header {blocks : List (List String)} {front : List Char} (hne : front ≠ [])
    (hopen : '{' ∉ front) (hclose : '}' ∉ front) (hblank : front.head?.any Text.isBlank = false)
    (hkind : openedKind lineNo (blocks.map blockScope) lastCode (front ++ [')']) = .block) :
    followBraces lineNo atTop lastCode [] (bracesOf blocks) (front ++ [')'] ++ [' ', '{'])
      =
    { scopes := ((headerNames atTop (front ++ [')'])).reverse :: blocks).map blockScope,
      openedBlock := true, minDepth := blocks.length } := by
  have hcode : front ++ [')'] ++ [' ', '{'] = front ++ [')', ' '] ++ '{' :: [] := by simp
  have htrim : Text.trim (front ++ [')', ' ']) = front ++ [')'] :=
    Text.trim_append_cons hne hblank rfl [' ']
  rw [hcode, followBraces_append blocks rfl (by simp [hopen]) (by simp [hclose]), followBraces,
    if_pos (by decide)]
  dsimp only
  rw [List.append_nil, List.reverse_reverse, htrim, if_neg (by simp), bracesOf, hkind, openScope_block,
    followBraces_nil ((headerNames atTop (front ++ [')'])).reverse :: blocks) rfl]
  rfl

end Braces

section Reading

variable {limit lineNo : Nat} {code next lastCode : List Char} {blocks after : List (List String)}
  {globals names : List String}

def inBlocks (blocks : List (List String)) (globals : List String) (lastCode : List Char) : State :=
  { scopes := blocks.map blockScope, globals := blockScope globals, lastCode }

theorem friendLines_blocks (lineNo : Nat) (blocks : List (List String)) :
    friendLines lineNo (blocks.map blockScope) = [] := by
  rw [friendLines]
  cases hlast : (blocks.map blockScope).getLast? with
  | none => rfl
  | some scope =>
    have hscope := List.mem_of_getLast? hlast
    rw [List.mem_map] at hscope
    rcases hscope with ⟨names, _, rfl⟩
    rfl

theorem traceCall_variables (lineNo : Nat) (names : List String) :
    traceCall lineNo (names.map (⟨·, .variable⟩)) = call lineNo names := by
  have harrays : (names.map (⟨·, .variable⟩ : String → Declared)).filter (·.shape == .array) = [] := by
    rw [List.filter_eq_nil_iff]
    simp
  have hvariables : (names.map (⟨·, .variable⟩ : String → Declared)).filter (·.shape == .variable)
      = names.map (⟨·, .variable⟩) := by
    rw [List.filter_eq_self]
    simp
  rw [traceCall_eq, harrays, hvariables, List.map_map, List.map_nil, List.nil_append,
    String.intercalate_singleton]
  rfl

/-
A line is read in two steps: the braces open and close blocks, and the statement declares names.
-/
theorem readLine_eq (blocks after : List (List String)) {b : Braces} {globals' : List String}
    (hbraces : followBraces lineNo blocks.isEmpty lastCode [] (bracesOf blocks) code = b)
    (hclosed : b.closed = [])
    (hnoted : noteDeclarations code (blocks.map blockScope) b
      { scopes := b.scopes, globals := blockScope globals, lastCode } = inBlocks after globals' lastCode) :
    readLine limit lineNo code next (inBlocks blocks globals lastCode)
      =
    (inBlocks after globals' code,
      if isTraced code next lastCode (blocks.map blockScope) (after.map blockScope) b.openedBlock then
        reports limit (after ++ [globals']) lineNo
      else []) := by
  have hstart : followBraces lineNo (blocks.map blockScope).isEmpty lastCode []
      { scopes := blocks.map blockScope, minDepth := (blocks.map blockScope).length } code = b := by
    rw [← hbraces, bracesOf, List.isEmpty_map, List.length_map]
  unfold readLine inBlocks
  dsimp only
  rw [hstart, hclosed, List.filterMap_nil, List.append_nil, hnoted]
  unfold inBlocks
  dsimp only
  rw [friendLines_blocks, visible_eq, traceCall_variables]
  rfl

end Reading

section Noted

variable {code lastCode : List Char} {globals : List String}

theorem declareAt_blocks (opened : List (List String)) (names xs : List String)
    (outer : List (List String)) :
    declareAt (names :: outer).length (xs.map (⟨·, .variable⟩))
        ((opened ++ names :: outer).map blockScope)
      =
    (opened ++ (xs.reverse ++ names) :: outer).map blockScope := by
  have hdepth : ((opened ++ names :: outer).map blockScope).length - (names :: outer).length
      = opened.length := by
    simp
  unfold declareAt
  rw [hdepth]
  clear hdepth
  induction opened with
  | nil => exact congrArg (· :: outer.map blockScope) (declareAll_blockScope xs names)
  | cons block opened ih => exact congrArg (blockScope block :: ·) ih

theorem noteDeclarations_inside (opened : List (List String)) {outer : List (List String)}
    {names : List String} (xs : List String) {b : Braces}
    (hscopes : b.scopes = (opened ++ names :: outer).map blockScope)
    (hmin : b.minDepth = (names :: outer).length)
    (hcode : declarations code true = xs.map (⟨·, .variable⟩)) :
    noteDeclarations code ((names :: outer).map blockScope) b
        { scopes := b.scopes, globals := blockScope globals, lastCode }
      =
    inBlocks (opened ++ (xs.reverse ++ names) :: outer) globals lastCode := by
  have hblock : (blockScope names).kind.isBlock = true := rfl
  have hlength : ((names :: outer).map blockScope).length = (names :: outer).length := List.length_map ..
  unfold noteDeclarations
  rw [hmin, hlength, if_neg (Nat.lt_irrefl _), List.map_cons]
  dsimp only
  rw [if_pos hblock, hcode, hscopes, declareAt_blocks]
  rfl

theorem noteDeclarations_closing (names : List String) (outer : List (List String)) :
    noteDeclarations code ((names :: outer).map blockScope)
        { bracesOf outer with minDepth := outer.length }
        { scopes := outer.map blockScope, globals := blockScope globals, lastCode }
      =
    inBlocks outer globals lastCode := by
  unfold noteDeclarations
  rw [if_pos (by simp)]
  rfl

theorem noteDeclarations_function (names : List String) :
    noteDeclarations code []
        { scopes := [names].map blockScope, openedBlock := true, minDepth := 0 }
        { scopes := [names].map blockScope, globals := blockScope globals, lastCode }
      =
    inBlocks [names] globals lastCode :=
  rfl

theorem noteDeclarations_outside (xs : List String)
    (hcode : declarations code false = xs.map (⟨·, .variable⟩)) :
    noteDeclarations code [] (bracesOf [])
        { scopes := [], globals := blockScope globals, lastCode }
      =
    inBlocks [] (xs.reverse ++ globals) lastCode := by
  unfold noteDeclarations
  rw [if_neg (by simp [bracesOf])]
  dsimp only
  rw [if_pos (by simp [bracesOf]), hcode, declareAll_blockScope]
  rfl

end Noted

end Playback.Cpp
