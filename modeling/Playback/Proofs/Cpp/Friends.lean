import Playback.Proofs.Cpp.Body

/-!
This module contains where the structures stand in a program for which a rewrite adds functions, and the
result about the line that lets such a function see the fields: it stands inside of the structure if the
closing brace stands on a later line than the opening one, and it is missing otherwise.
-/

namespace Playback.Cpp

open Source

section Stretches

def headerOf (lastCode front : List Char) : List Char :=
  if (Text.trim front).isEmpty then lastCode else Text.trim front

/--
A stretch of a program from the brace that opens a structure up to some place: the name of the structure, if
it stands in front of the brace, the lines of the brace and of the place, counted from zero, with the code in
front of both on these lines, and the code between them.
-/
structure Stretch where
  name : Option String
  first : Nat
  front : List Char
  between : List Char
  last : Nat
  inside : List Char

def Stretch.extend (d : Stretch) (c : Char) : Stretch :=
  { d with between := d.between ++ [c], inside := d.inside ++ [c] }

def Stretch.atNextLine (d : Stretch) : Stretch :=
  { d with last := d.last + 1, inside := [] }

/--
Whether a program has a stretch, with the given number of braces open at its end inside of the structure.
-/
structure Stretch.StandsIn (d : Stretch) (source : String) (depth : Nat) : Prop where
  brace : ∃ rest, (codes source)[d.first]? = some (d.front ++ '{' :: rest)
    ∧ isPassedOver (d.front ++ '{' :: rest) = false
  outside : braceDepth 0 (codeUpTo source d.first ++ d.front) = 0
  kind : topLevelKind (d.first + 1) (nestingAfter source d.first).lastCode
      (headerOf (nestingAfter source d.first).lastCode d.front)
    = .struct { name := d.name, openedAt := d.first + 1 }
  spans : codeUpTo source d.last ++ d.inside = codeUpTo source d.first ++ (d.front ++ '{' :: d.between)
  inner : openBraces 0 d.between = some depth
  ordered : d.first ≤ d.last

/--
Whether a stretch is the definition of a structure up to its closing brace, with the given code behind that
brace on its line.
-/
structure Stretch.IsDefinition (d : Stretch) (source : String) (trailer : List Char) : Prop where
  stands : d.StandsIn source 0
  closes : (codes source)[d.last]? = some (d.inside ++ '}' :: trailer)
  counts : isPassedOver (d.inside ++ '}' :: trailer) = false

variable {source : String} {d e : Stretch} {depth after : Nat}

theorem braceDepth_of_openBraces {cs : List Char} (h : openBraces depth cs = some after) (outer : Nat) :
    braceDepth (depth + outer) cs = after + outer := by
  induction cs generalizing depth with
  | nil =>
    cases h
    rfl
  | cons c cs ih =>
    rcases openBraces_cons h with ⟨rfl, hrest⟩ | ⟨pred, rfl, rfl, hrest⟩ | ⟨hopen, hclose, hrest⟩
    · rw [braceDepth, if_pos (by decide), Nat.add_right_comm]
      exact ih hrest
    · have hpred : pred + 1 + outer - 1 = pred + outer := by omega
      rw [braceDepth, if_neg (by decide), if_pos (by decide), hpred]
      exact ih hrest
    · rw [braceDepth, if_neg (by simpa using hopen), if_neg (by simpa using hclose)]
      exact ih hrest

/-
Behind the first place of a character, the rest of a text is determined.
-/
theorem rest_eq_of_append_cons {c : Char} {front other rest more : List Char} (hfront : c ∉ front)
    (hother : c ∉ other) (h : front ++ c :: rest = other ++ c :: more) : rest = more := by
  have hindex := congrArg (List.idxOf c) h
  rw [List.idxOf_append_of_notMem hfront, List.idxOf_append_of_notMem hother, List.idxOf_cons_self,
    List.idxOf_cons_self] at hindex
  exact (List.cons.inj (List.append_inj_right h hindex)).2

theorem not_mem_of_topLevelKind {lineNo : Nat} {lastCode header : List Char} {head : StructHead}
    (h : topLevelKind lineNo lastCode header = .struct head) : '{' ∉ header := by
  rcases exists_place_of_topLevelKind h with ⟨place, hplace, _⟩
  exact not_mem_of_matchAt?_structHeader hplace

namespace Stretch.StandsIn

/-
A stretch goes on to the next character, as long as that does not close the structure.
-/
theorem extend {c : Char} (h : d.StandsIn source depth) (hc : openBraces depth [c] = some after) :
    (d.extend c).StandsIn source after :=
  { h with
    spans := by
      dsimp only [Stretch.extend]
      rw [← List.append_assoc, h.spans]
      simp
    inner := by
      dsimp only [Stretch.extend]
      rw [openBraces_append, h.inner]
      exact hc }

/-
The first opening brace on its line is the one of the structure.
-/
theorem not_mem_front (h : d.StandsIn source depth) : '{' ∉ d.front := by
  have hheader := not_mem_of_topLevelKind h.kind
  unfold headerOf at hheader
  intro hmem
  have htrim : '{' ∈ Text.trim d.front := (Text.isBlank_or_mem_trim hmem).resolve_left (by decide)
  rw [if_neg (by simpa using List.ne_nil_of_mem htrim)] at hheader
  exact hheader htrim

theorem braceDepth_closed (h : d.StandsIn source 0) :
    braceDepth 0 (codeUpTo source d.last ++ (d.inside ++ ['}'])) = 0 := by
  have hbetween : braceDepth 1 d.between = 1 := braceDepth_of_openBraces h.inner 1
  have hcode : codeUpTo source d.last ++ (d.inside ++ ['}'])
      = (codeUpTo source d.first ++ d.front) ++ '{' :: (d.between ++ ['}']) := by
    rw [← List.append_assoc, h.spans]
    simp
  rw [hcode, braceDepth_append, h.outside]
  exact (braceDepth_append 1 d.between ['}']).trans (by rw [hbetween]; rfl)

end Stretch.StandsIn

end Stretches

section Places

/--
Whether the line that lets a function see the fields of a structure is added behind the line of the opening
brace, if the structure has its name there.
-/
def Stretch.Befriended (maxTraced : Int) (source : String) (d : Stretch) : Prop :=
  friendLines (d.first + 1) (stateAfter maxTraced source (d.first + 1)).scopes
    = (d.name.map friendLine).toList

/--
Whether what has been read of a structure, and the code behind its closing brace, belong to a definition in a
program, and such a line is added for it if it ends on a later line.
-/
def Defines (maxTraced : Int) (source : String) (head : StructHead) (trailer : List Char) : Prop :=
  ∃ d : Stretch, d.IsDefinition source trailer ∧ head.name = d.name ∧ head.openedAt = d.first + 1
    ∧ (d.first < d.last → d.Befriended maxTraced source)

/--
Whether scopes are those at a place of a program, as far as structures are concerned: none is open there, or
the one that is open at the top of the file has been opened by a brace in front of the place.
-/
inductive Accounted (maxTraced : Int) (source : String) (count : Nat) (done : List Char)
    (kinds : List ScopeKind) : Prop where
  | outside (hkinds : ∀ kind ∈ kinds, kind.isStruct = false)
      (hdepth : kinds.length = braceDepth 0 (codeUpTo source count ++ done)) :
      Accounted maxTraced source count done kinds
  | inside (d : Stretch) (inner : List ScopeKind) (head : StructHead)
      (hkinds : kinds = inner ++ [.struct head]) (hinner : ∀ kind ∈ inner, kind.isStruct = false)
      (hhead : head.name = d.name ∧ head.openedAt = d.first + 1)
      (hplace : d.last = count ∧ d.inside = done) (hstands : d.StandsIn source inner.length)
      (hfriend : d.first < count → d.Befriended maxTraced source) :
      Accounted maxTraced source count done kinds

def addText (text : List Char) : List ScopeKind → List ScopeKind
  | .struct head :: kinds => .struct (head.read text) :: kinds
  | kinds => kinds

theorem map_kind_addToBody (text : List Char) (scopes : List Scope) :
    (addToBody text scopes).map Scope.kind = addText text (scopes.map Scope.kind) := by
  unfold addToBody
  split
  · rfl
  · next hother =>
    cases scopes with
    | nil => rfl
    | cons scope scopes =>
      rcases scope with ⟨kind, declared⟩
      cases kind with
      | struct head => exact absurd rfl (hother head declared scopes)
      | block => rfl
      | expression => rfl

theorem addText_of_not_struct {kinds : List ScopeKind} (h : ∀ kind ∈ kinds, kind.isStruct = false)
    (text : List Char) : addText text kinds = kinds := by
  unfold addText
  split
  · exact absurd (h _ List.mem_cons_self) (by simp [ScopeKind.isStruct])
  · rfl

theorem isStruct_openedKind (lineNo : Nat) (parent : Scope) (scopes : List Scope)
    (lastCode header : List Char) :
    (openedKind lineNo (parent :: scopes) lastCode header).isStruct = false := by
  rw [openedKind]
  split
  · exact isStruct_nestedKind header
  · rfl

namespace Accounted

variable {maxTraced : Int} {source : String} {count : Nat} {done rest : List Char} {kinds : List ScopeKind}

theorem addText (h : Accounted maxTraced source count done kinds) (text : List Char) :
    Accounted maxTraced source count done (addText text kinds) := by
  cases h with
  | outside hkinds hdepth =>
    rw [addText_of_not_struct hkinds]
    exact .outside hkinds hdepth
  | inside d inner head hkinds hinner hhead hplace hstands hfriend =>
    subst hkinds
    cases inner with
    | nil => exact .inside d [] (head.read text) rfl hinner hhead hplace hstands hfriend
    | cons kind inner =>
      refine .inside d (kind :: inner) head ?_ hinner hhead hplace hstands hfriend
      cases kind with
      | struct _ => exact absurd (hinner _ List.mem_cons_self) (by simp [ScopeKind.isStruct])
      | block => rfl
      | expression => rfl

theorem length_step {n : Nat} (h : n = braceDepth 0 (codeUpTo source count ++ done)) (c : Char) :
    braceDepth n [c] = braceDepth 0 (codeUpTo source count ++ (done ++ [c])) := by
  rw [h, ← List.append_assoc, braceDepth_append 0 (codeUpTo source count ++ done)]

/-
A character that is no brace.
-/
theorem plain {c : Char} (hopen : c ≠ '{') (hclose : c ≠ '}')
    (h : Accounted maxTraced source count done kinds) :
    Accounted maxTraced source count (done ++ [c]) kinds := by
  cases h with
  | outside hkinds hdepth =>
    refine .outside hkinds ?_
    rw [← length_step hdepth, braceDepth, if_neg (by simpa using hopen), if_neg (by simpa using hclose)]
    rfl
  | inside d inner head hkinds hinner hhead hplace hstands hfriend =>
    rcases hplace with ⟨rfl, rfl⟩
    have hc : openBraces inner.length [c] = some inner.length :=
      openBraces_plain (by simpa using hopen.symm) (by simpa using hclose.symm) _
    exact .inside (d.extend c) inner head hkinds hinner hhead ⟨rfl, rfl⟩ (hstands.extend hc) hfriend

/-
An opening brace.
-/
theorem opening {scopes : List Scope} (h : Accounted maxTraced source count done (scopes.map Scope.kind))
    (hcode : (codes source)[count]? = some (done ++ '{' :: rest))
    (hpassed : isPassedOver (done ++ '{' :: rest) = false) :
    let lastCode := (nestingAfter source count).lastCode
    Accounted maxTraced source count (done ++ ['{'])
      (openedKind (count + 1) scopes lastCode (headerOf lastCode done) :: scopes.map Scope.kind) := by
  intro lastCode
  cases h with
  | inside d inner head hkinds hinner hhead hplace hstands hfriend =>
    rcases hplace with ⟨rfl, rfl⟩
    cases scopes with
    | nil => simp at hkinds
    | cons parent scopes =>
      have hkind := isStruct_openedKind (d.last + 1) parent scopes lastCode (headerOf lastCode d.inside)
      generalize openedKind (d.last + 1) (parent :: scopes) lastCode (headerOf lastCode d.inside) = kind
        at hkind ⊢
      have hc : openBraces inner.length ['{'] = some (inner.length + 1) := rfl
      refine .inside (d.extend '{') (kind :: inner) head ?_ ?_ hhead ⟨rfl, rfl⟩ (hstands.extend hc) hfriend
      · rw [hkinds, List.cons_append]
      · rw [List.forall_mem_cons]
        exact ⟨hkind, hinner⟩
  | outside hkinds hdepth =>
    cases scopes with
    | cons parent scopes =>
      refine .outside ?_ ?_
      · rw [List.forall_mem_cons]
        exact ⟨isStruct_openedKind _ parent scopes _ _, hkinds⟩
      · rw [← length_step hdepth]
        rfl
    | nil =>
      -- No scope is open in front of the brace, so this is the top of the file.
      cases hkind : openedKind (count + 1) [] lastCode (headerOf lastCode done) with
      | struct head =>
        rcases exists_place_of_topLevelKind hkind with ⟨place, _, rfl⟩
        let d : Stretch :=
          { name := (place.captured? "name").map String.ofList, first := count, front := done, between := [],
            last := count, inside := done ++ ['{'] }
        have hstands : d.StandsIn source 0 :=
          { brace := ⟨rest, hcode, hpassed⟩
            outside := hdepth.symm
            kind := hkind
            spans := by rfl
            inner := rfl
            ordered := Nat.le_refl count }
        exact .inside d [] _ rfl (by simp) ⟨rfl, rfl⟩ ⟨rfl, rfl⟩ hstands
          fun h => absurd h (Nat.lt_irrefl count)
      | block =>
        refine .outside (by simp [ScopeKind.isStruct]) ?_
        rw [← length_step hdepth]
        rfl
      | expression =>
        refine .outside (by simp [ScopeKind.isStruct]) ?_
        rw [← length_step hdepth]
        rfl

/-
A closing brace too many.
-/
theorem closing_nothing (h : Accounted maxTraced source count done []) :
    Accounted maxTraced source count (done ++ ['}']) [] := by
  cases h with
  | inside d inner head hkinds => simp at hkinds
  | outside hkinds hdepth =>
    refine .outside hkinds ?_
    rw [← length_step hdepth]
    rfl

/-
A closing brace ends the definition of the structure whose scope it closes.
-/
theorem closing {kind : ScopeKind} (h : Accounted maxTraced source count done (kind :: kinds))
    (hcode : (codes source)[count]? = some (done ++ '}' :: rest))
    (hpassed : isPassedOver (done ++ '}' :: rest) = false) :
    Accounted maxTraced source count (done ++ ['}']) kinds
      ∧ ∀ head, kind = .struct head → Defines maxTraced source head rest := by
  cases h with
  | outside hkinds hdepth =>
    rw [List.forall_mem_cons] at hkinds
    refine ⟨.outside hkinds.2 ?_, ?_⟩
    · rw [← length_step hdepth]
      rfl
    · rintro head rfl
      exact absurd hkinds.1 (by simp [ScopeKind.isStruct])
  | inside d inner head hkinds hinner hhead hplace hstands hfriend =>
    rcases hplace with ⟨rfl, rfl⟩
    cases inner with
    | nil =>
      -- The brace closes the structure.
      rw [List.nil_append, List.cons.injEq] at hkinds
      rcases hkinds with ⟨rfl, rfl⟩
      refine ⟨.outside (by simp) hstands.braceDepth_closed.symm, ?_⟩
      rintro other hother
      cases hother
      exact ⟨d, ⟨hstands, hcode, hpassed⟩, hhead.1, hhead.2, hfriend⟩
    | cons first inner =>
      -- The brace closes a scope inside of the structure.
      rw [List.cons_append, List.cons.injEq] at hkinds
      rcases hkinds with ⟨rfl, rfl⟩
      rw [List.forall_mem_cons] at hinner
      have hc : openBraces (inner.length + 1) ['}'] = some inner.length := rfl
      refine ⟨.inside (d.extend '}') inner head rfl hinner.2 hhead ⟨rfl, rfl⟩ (hstands.extend hc) hfriend,
        ?_⟩
      rintro other rfl
      exact absurd hinner.1 (by simp [ScopeKind.isStruct])

end Accounted

/--
Whether what has happened to the scopes within a line is accounted for up to a place of it.
-/
structure Within (maxTraced : Int) (source : String) (count : Nat) (done : List Char) (b : Braces) : Prop where
  scopes : Accounted maxTraced source count done (b.scopes.map Scope.kind)
  closed : ∀ entry ∈ b.closed, Defines maxTraced source entry.1 entry.2

theorem Within.followBraces {maxTraced : Int} {source : String} {count : Nat} {done rest lastCode : List Char}
    {b : Braces} (h : Within maxTraced source count done b)
    (hlast : lastCode = (nestingAfter source count).lastCode)
    (hcode : (codes source)[count]? = some (done ++ rest)) (hpassed : isPassedOver (done ++ rest) = false)
    (atTop : Bool) :
    Within maxTraced source count (done ++ rest)
      (followBraces (count + 1) atTop lastCode done.reverse b rest) := by
  -- The induction is on what is left of the line: what has been read grows by one character in each step.
  induction rest generalizing done b with
  | nil =>
    refine ⟨?_, h.closed⟩
    rw [List.append_nil]
    dsimp only [Cpp.followBraces]
    rw [map_kind_addToBody]
    exact h.scopes.addText [' ']
  | cons c rest ih =>
    have hsplit : done ++ c :: rest = (done ++ [c]) ++ rest := by simp
    have hbefore : c :: done.reverse = (done ++ [c]).reverse := by simp
    have hnextCode : (codes source)[count]? = some ((done ++ [c]) ++ rest) := by rw [hcode, hsplit]
    have hnextPassed : isPassedOver ((done ++ [c]) ++ rest) = false := by rw [← hsplit, hpassed]
    rw [Cpp.followBraces, hbefore, List.reverse_reverse, hsplit]
    refine ih ?_ hnextCode hnextPassed
    by_cases hopen : c = '{'
    · subst hopen
      rw [if_pos (by decide)]
      refine ⟨?_, h.closed⟩
      dsimp only
      rw [List.map_cons, kind_openScope, hlast]
      exact h.scopes.opening hcode hpassed
    · rw [if_neg (by simpa using hopen)]
      by_cases hclose : c = '}'
      · subst hclose
        rw [if_pos (by decide)]
        have hscopes := h.scopes
        split
        · next hnone =>
          rw [hnone, List.map_nil] at hscopes
          refine ⟨?_, h.closed⟩
          rw [hnone, List.map_nil]
          exact hscopes.closing_nothing
        · next scope scopes hsome =>
          rw [hsome, List.map_cons] at hscopes
          rcases hscopes.closing hcode hpassed with ⟨hafter, hdefines⟩
          constructor
          · dsimp only
            rw [map_kind_addToBody]
            exact hafter.addText [';']
          · dsimp only
            -- Only the scope of a structure adds to what has been closed.
            split
            · next head hkind =>
              rw [List.forall_mem_append, List.forall_mem_singleton]
              exact ⟨h.closed, hdefines head hkind⟩
            · exact h.closed
      · rw [if_neg (by simpa using hclose)]
        refine ⟨?_, h.closed⟩
        dsimp only
        rw [map_kind_addToBody]
        exact (h.scopes.plain hopen hclose).addText [c]

end Places

section Lines

variable {maxTraced : Int} {source : String} {count : Nat} {code : List Char} {kinds : List ScopeKind}

theorem codeUpTo_succ (hcode : (codes source)[count]? = some code) (hpassed : isPassedOver code = false) :
    codeUpTo source (count + 1) = codeUpTo source count ++ code := by
  unfold codeUpTo
  rw [List.take_add_one, hcode, Option.toList_some, List.filter_append, List.flatten_append,
    List.filter_cons_of_pos (by simp [hpassed]), List.filter_nil, List.flatten_singleton]

/-
What is passed over changes nothing.
-/
theorem unchanged_succ (maxTraced : Int)
    (h : ∀ code, (codes source)[count]? = some code → isPassedOver code = true) :
    codeUpTo source (count + 1) = codeUpTo source count
      ∧ stateAfter maxTraced source (count + 1) = stateAfter maxTraced source count := by
  unfold codeUpTo stateAfter
  rw [List.take_add_one]
  cases hcode : (codes source)[count]? with
  | none =>
    rw [Option.toList_none, List.append_nil]
    exact ⟨rfl, rfl⟩
  | some code =>
    have hpassed := h code hcode
    rw [Option.toList_some, List.filter_append, List.filter_cons_of_neg (by simp [hpassed]), List.filter_nil,
      List.append_nil, readLines_append, readLines, hpassed, if_pos rfl, readLines]
    exact ⟨rfl, rfl⟩

theorem map_kind_declareAt (depth : Nat) (ds : List Declared) (scopes : List Scope) :
    (declareAt depth ds scopes).map Scope.kind = scopes.map Scope.kind := by
  unfold declareAt
  generalize scopes.length - depth = i
  induction scopes generalizing i with
  | nil => simp
  | cons scope scopes ih =>
    cases i with
    | zero =>
      rw [List.modify_zero_cons, List.map_cons, List.map_cons, kind_declareAll]
    | succ i => rw [List.modify_succ_cons, List.map_cons, List.map_cons, ih]

theorem map_kind_noteDeclarations (code : List Char) (before : List Scope) (b : Braces) (s : State) :
    (noteDeclarations code before b s).scopes.map Scope.kind = s.scopes.map Scope.kind := by
  unfold noteDeclarations
  split
  · rfl
  · split
    · split
      · apply map_kind_declareAt
      · rfl
    · split <;> rfl

theorem map_kind_readLine (maxTraced : Int) (lineNo : Nat) (code next : List Char) (s : State) :
    (readLine maxTraced lineNo code next s).1.scopes.map Scope.kind
      =
    (s.braces lineNo code).scopes.map Scope.kind :=
  map_kind_noteDeclarations ..

/-
Whether the line that lets a function see the fields is added depends on the outermost scope only.
-/
theorem friendLines_inside (lineNo : Nat) {scopes : List Scope} {inner : List ScopeKind} {head : StructHead}
    (hkinds : scopes.map Scope.kind = inner ++ [.struct head]) :
    friendLines lineNo scopes
      = if head.openedAt == lineNo then (head.name.map friendLine).toList else [] := by
  have hlast : scopes.getLast?.map Scope.kind = some (.struct head) := by
    rw [← List.getLast?_map, hkinds, List.getLast?_concat]
  rw [Option.map_eq_some_iff] at hlast
  rcases hlast with ⟨⟨kind, declared⟩, hscope, rfl⟩
  rw [friendLines, hscope]

theorem friendLines_outside (lineNo : Nat) {scopes : List Scope}
    (hkinds : ∀ kind ∈ scopes.map Scope.kind, kind.isStruct = false) : friendLines lineNo scopes = [] := by
  unfold friendLines
  split
  · next head declared hlast =>
    have hkind := hkinds _ (List.mem_map_of_mem (List.mem_of_getLast? hlast))
    contradiction
  · rfl

/-
At the end of a line, what is known of the scopes is known at the start of the next one.
-/
theorem Accounted.atNextLine {done : List Char}
    (h : Accounted maxTraced source count done
      ((stateAfter maxTraced source (count + 1)).scopes.map Scope.kind))
    (hcode : codeUpTo source (count + 1) = codeUpTo source count ++ done) :
    Accounted maxTraced source (count + 1) []
      ((stateAfter maxTraced source (count + 1)).scopes.map Scope.kind) := by
  cases h with
  | outside hkinds hdepth => exact .outside hkinds (by rw [List.append_nil, hcode, hdepth])
  | inside d inner head hkinds hinner hhead hplace hstands hfriend =>
    rcases hplace with ⟨rfl, rfl⟩
    have hnext : d.atNextLine.StandsIn source inner.length :=
      { hstands with
        spans := by
          dsimp only [Stretch.atNextLine]
          rw [List.append_nil, hcode, hstands.spans]
        ordered := Nat.le_succ_of_le hstands.ordered }
    refine .inside d.atNextLine inner head hkinds hinner hhead ⟨rfl, rfl⟩ hnext ?_
    intro hfirst
    rcases Nat.lt_succ_iff_lt_or_eq.mp hfirst with hearlier | heq
    · exact hfriend hearlier
    · have hlines := friendLines_inside (d.first + 1) hkinds
      rw [hhead.2, beq_self_eq_true, if_pos rfl, hhead.1] at hlines
      dsimp only [Stretch.atNextLine] at heq
      rw [← heq] at hlines
      exact hlines

theorem name_of_closeStruct? {head : StructHead} {trailer : List Char} {s : Struct}
    (h : closeStruct? head trailer = some s) : ∀ name, head.name = some name → name = s.name := by
  intro name hname
  unfold closeStruct? at h
  rw [hname] at h
  cases h
  rfl

/-
Behind every line, what is open is accounted for, and the structures that have been closed are those of the
program.
-/
theorem accounted_after (maxTraced : Int) (source : String) (count : Nat) :
    Accounted maxTraced source count [] ((stateAfter maxTraced source count).scopes.map Scope.kind)
      ∧ ∀ s ∈ (stateAfter maxTraced source count).structs,
        ∃ head trailer, Defines maxTraced source head trailer ∧ closeStruct? head trailer = some s := by
  induction count with
  | zero => exact ⟨.outside (by simp [stateAfter, readLines]) rfl, by simp [stateAfter, readLines]⟩
  | succ count ih =>
    by_cases hcode : ∀ code, (codes source)[count]? = some code → isPassedOver code = true
    · -- A line that is passed over leaves everything as it was.
      rcases unchanged_succ maxTraced hcode with ⟨hsame, hstate⟩
      rw [← hstate] at ih
      exact ⟨ih.1.atNextLine (by rw [hsame, List.append_nil]), ih.2⟩
    · rw [Classical.not_forall] at hcode
      rcases hcode with ⟨code, hcode⟩
      rw [Classical.not_imp, Bool.not_eq_true] at hcode
      rcases hcode with ⟨hcode, hpassed⟩
      have hfollows := follows_after maxTraced source count
      have hstart : Within maxTraced source count []
          { scopes := (stateAfter maxTraced source count).scopes,
            minDepth := (stateAfter maxTraced source count).scopes.length } := ⟨ih.1, by simp⟩
      have hline := hstart.followBraces hfollows.lastCode hcode hpassed
        (stateAfter maxTraced source count).scopes.isEmpty
      have hstate := stateAfter_succ maxTraced hcode hpassed
      rw [Nat.add_comm 1 count] at hstate
      constructor
      · apply Accounted.atNextLine ?_ (codeUpTo_succ hcode hpassed)
        rw [hstate, map_kind_readLine]
        exact hline.scopes
      · rw [hstate, structs_readLine, List.forall_mem_append]
        refine ⟨ih.2, ?_⟩
        intro s hs
        rcases List.mem_filterMap.mp hs with ⟨entry, hentry, hclose⟩
        exact ⟨entry.1, entry.2, hline.closed entry hentry, hclose⟩

end Lines

section Result

variable {maxTraced : Int} {source : String} {d : Stretch}

/-
A structure with both braces on one line is not open behind that line, and no other one has been opened there.
-/
theorem friendLines_closed {trailer : List Char} (hdefinition : d.IsDefinition source trailer)
    (hsame : d.first = d.last) :
    friendLines (d.first + 1) (stateAfter maxTraced source (d.first + 1)).scopes = [] := by
  cases (accounted_after maxTraced source (d.first + 1)).1 with
  | outside hkinds hdepth => exact friendLines_outside _ hkinds
  | inside e inner head hkinds hinner hhead hplace hstands hfriend =>
    rw [friendLines_inside _ hkinds, if_neg]
    rw [hhead.2, beq_iff_eq, Nat.add_right_cancel_iff]
    intro hfirst
    -- The first brace on its line opens both, so the open structure would have been closed already.
    have hcode := hdefinition.closes
    have hd := hdefinition.stands.spans
    have he := hstands.spans
    rw [← hsame] at hd hcode
    rw [hplace.1, hplace.2, List.append_nil, codeUpTo_succ hcode hdefinition.counts, hfirst,
      List.append_right_inj] at he
    rw [List.append_right_inj] at hd
    rw [hd, List.append_assoc, List.cons_append] at he
    have hbetween := rest_eq_of_append_cons hdefinition.stands.not_mem_front hstands.not_mem_front he
    have hinner := hstands.inner
    rw [← hbetween, openBraces_append, hdefinition.stands.inner] at hinner
    contradiction

theorem head?_friendLine (name : String) : (friendLine name).toList.head? = some ' ' := by
  delta friendLine
  simp [toString]

theorem friendLine_not_mem_dumperDeclarations (name other : String) :
    friendLine name ∉ dumperDeclarations other := by
  have hhead := head?_friendLine name
  generalize friendLine name = line at hhead
  intro hline
  delta dumperDeclarations at hline
  simp only [List.mem_cons, List.not_mem_nil, or_false] at hline
  rcases hline with rfl | rfl | rfl | rfl | rfl | rfl <;> simp [toString] at hhead

/-
Of the lines that are added behind a line, the first ones decide whether a function may see the fields.
-/
theorem friendLine_mem_readLine (maxTraced : Int) (lineNo : Nat) (code next : List Char) (s : State)
    (name : String) :
    friendLine name ∈ (readLine maxTraced lineNo code next s).2
      ↔ friendLine name ∈ friendLines lineNo (readLine maxTraced lineNo code next s).1.scopes := by
  have hcall : ∀ names, friendLine name ≠ traceCall lineNo names := by
    intro names heq
    have hhead := head?_friendLine name
    rw [heq, head?_traceCall] at hhead
    contradiction
  unfold readLine
  dsimp only
  rw [List.mem_append, List.mem_append, or_assoc]
  refine or_iff_left ?_
  rintro (hdeclaration | hcalls)
  · rcases List.mem_flatMap.mp hdeclaration with ⟨s, _, hline⟩
    exact friendLine_not_mem_dumperDeclarations name s.name hline
  · split at hcalls
    · exact hcall _ (List.mem_singleton.mp hcalls)
    · contradiction

/--
Each function that is defined at the end of a rewrite is the one of a structure whose definition stands in the
program. If the structure has its name in front of the brace, the line that lets the function see the fields is
added behind the line of this brace, and thus inside of the structure, exactly if the closing brace stands on a
later line.
-/
theorem rewrite_friends (source : String) (maxTraced : Int) :
    ∃ woven, ∃ structs : List Struct,
      rewrite source maxTraced = Text.unlines (weave woven ++ structs.flatMap dumperDefinition)
        ∧ woven.map Prod.fst = Text.lines source
        ∧ ∀ s ∈ structs, ∃ d : Stretch, ∃ body trailer, d.IsDefinition source trailer
          ∧ closeStruct? { name := d.name, openedAt := d.first + 1, body } trailer = some s
          ∧ ∀ name, d.name = some name →
            name = s.name
              ∧ ∃ line added, woven[d.first]? = some (line, added)
                ∧ (friendLine s.name ∈ added ↔ d.first < d.last) := by
  rcases exists_woven maxTraced 1 {} ((Text.lines source).zip (codes source)) with
    ⟨woven, hout, hown, hadded⟩
  rw [map_snd_zip_codes] at hadded hout
  rw [map_fst_zip_codes] at hown
  refine ⟨woven, _, congrArg Text.unlines hout, hown, ?_⟩
  intro s hs
  -- What holds behind every line is used behind the last one.
  have hall := (accounted_after maxTraced source (codes source).length).2
  unfold stateAfter at hall
  rw [List.take_length] at hall
  rcases hall s hs with ⟨⟨_, _, body⟩, trailer, ⟨d, hdefinition, rfl, rfl, hfriend⟩, hclose⟩
  have hname := name_of_closeStruct? hclose
  refine ⟨d, body, trailer, hdefinition, hclose, fun name hgiven => ⟨hname name hgiven, ?_⟩⟩
  rw [hname name hgiven] at hgiven
  rcases hdefinition.stands.brace with ⟨rest, hcode, hpassed⟩
  have hlength : d.first < woven.length := by
    have hlines : (codes source).length = (woven.map Prod.fst).length := by
      rw [hown, codes, length_codeLines, List.length_map]
    rw [List.length_map] at hlines
    rw [← hlines]
    exact (List.getElem?_eq_some_iff.mp hcode).1
  have hentry : woven[d.first]? = some (woven[d.first].1, woven[d.first].2) := List.getElem?_eq_getElem hlength
  refine ⟨_, _, hentry, ?_⟩
  rcases hadded d.first _ _ hentry with ⟨code, nextCode, hsame, hlines⟩
  rw [hcode, Option.some_inj] at hsame
  subst hsame
  have hstate : (readLine maxTraced (1 + d.first) (d.front ++ '{' :: rest) nextCode
      (stateAfter maxTraced source d.first)).1 = stateAfter maxTraced source (d.first + 1) :=
    (stateAfter_succ maxTraced hcode hpassed).symm
  rw [stateAfter] at hstate
  rw [hlines, hpassed, if_neg (by simp), friendLine_mem_readLine, hstate, Nat.add_comm 1 d.first]
  constructor
  · intro hmem
    rcases Nat.lt_or_eq_of_le hdefinition.stands.ordered with hlater | hsame
    · exact hlater
    · rw [friendLines_closed hdefinition hsame] at hmem
      contradiction
  · intro hlater
    rw [hfriend hlater, hgiven]
    exact List.mem_singleton_self _

/--
A class with both braces on one line gets a function that reads its private field, and no line that lets the
function see it.
-/
theorem rewrite_friends_fails :
    rewrite (Text.unlines ["class A \x7b int x; \x7d;", "int main() \x7b A a; \x7d"]) defaultMaxTraced
      =
    Text.unlines (["class A \x7b int x; \x7d;"] ++ dumperDeclarations "A" ++ ["int main() \x7b A a; \x7d"]
      ++ dumperDefinition { name := "A", fields := ["x"] }) := by
  apply congrArg Text.unlines
  decide +kernel

end Result

end Playback.Cpp
