import Playback.Proofs.Cpp.Calls
import Playback.Proofs.Cpp.Scopes
import Playback.Proofs.Trace.Latest

/-!
This module contains what a program declares on the way to a place, without anything left out, and the result
that the visible names are those that are found there: a name is looked up in the innermost block first, and
in a block its last declaration counts.
-/

namespace Playback.Cpp

open Source

section History

/--
An open brace and what has been declared behind it, the last declaration first.
-/
structure Frame where
  brace : OpenBrace
  declared : List Declared := []

def braceBehind (lastCode before : List Char) : OpenBrace :=
  let shown := Text.trim before.reverse
  { header := if shown.isEmpty then lastCode else shown, lastCode }

def openFrame (atTop : Bool) (brace : OpenBrace) (frames : List Frame) : List Frame :=
  let declared :=
    if opensBlock (brace :: frames.map Frame.brace) then
      ((headerNames atTop brace.header).map fun name => ⟨name, .variable⟩).reverse
    else []
  { brace, declared } :: frames

/--
The open braces behind a piece of code with what has been declared behind each of them.
-/
def followFrames (atTop : Bool) (lastCode before : List Char) (frames : List Frame) :
    List Char → List Frame
  | [] => frames
  | c :: cs =>
    let next :=
      if c == '{' then openFrame atTop (braceBehind lastCode before) frames
      else if c == '}' then frames.tail
      else frames
    followFrames atTop lastCode (c :: before) next cs

def Frame.note (frame : Frame) (ds : List Declared) : Frame :=
  { frame with declared := ds.reverse ++ frame.declared }

/--
Note names behind the brace that stands at a depth, counted from the outermost one.
-/
def noteAt (depth : Nat) (ds : List Declared) (frames : List Frame) : List Frame :=
  frames.modify (frames.length - depth) (·.note ds)

/--
The least count of braces that are open on the way through a piece of code.
-/
def lowestDepth (depth : Nat) : List Char → Nat
  | [] => depth
  | c :: cs => min depth (lowestDepth (braceDepth depth [c]) cs)

def opensNone (lastCode before : List Char) (braces : List OpenBrace) : List Char → Bool
  | [] => true
  | c :: cs =>
    let next := followOpen lastCode before braces [c]
    (c != '{' || !(opensBlock next || opensStruct next)) && opensNone lastCode (c :: before) next cs

/--
All that has been declared on the way to a place: behind each open brace, and outside of all of them. The last
declaration comes first.
-/
structure History where
  frames : List Frame := []
  globals : List Declared := []
  lastCode : List Char := []

namespace History

def framesBehind (h : History) (code : List Char) : List Frame :=
  followFrames h.frames.isEmpty h.lastCode [] h.frames code

/--
Take note of the names that a line declares: in the scope that it begins in, if that is a block and is not
closed on the way, or outside of everything, if the line opens neither a function nor a structure.
-/
def noteCode (h : History) (code : List Char) (before : List Frame) : History :=
  if lowestDepth before.length code < before.length then h
  else
    match before with
    | _ :: _ =>
      if opensBlock (before.map Frame.brace) then
        { h with frames := noteAt before.length (declarations code true) h.frames }
      else h
    | [] =>
      if h.frames.isEmpty && opensNone h.lastCode [] [] code then
        { h with globals := (declarations code false).reverse ++ h.globals }
      else h

def readCode (h : History) (code : List Char) : History :=
  { ({ h with frames := h.framesBehind code } : History).noteCode code h.frames with lastCode := code }

def read (h : History) (code : List Char) : History :=
  if isPassedOver code then h else h.readCode code

end History

def historyAfter (source : String) (count : Nat) : History :=
  ((codes source).take count).foldl History.read {}

/--
What has been declared in the open blocks, the innermost one first.
-/
def blockLogs : List Frame → List (List Declared)
  | [] => []
  | frame :: outer =>
    if opensBlock ((frame :: outer).map Frame.brace) then frame.declared :: blockLogs outer
    else blockLogs outer

end History

section Frames

/--
Whether scopes know of what has been declared behind the braces that opened them: all names, each one as it
has been declared last.
-/
structure Recorded (frames : List Frame) (scopes : List Scope) : Prop where
  opened : Opened (frames.map Frame.brace) scopes
  declared : scopes.map Scope.declared = frames.map fun frame => firstOfEachName [] frame.declared

theorem declared_declareAll {scope : Scope} {log : List Declared}
    (h : scope.declared = firstOfEachName [] log) (ds : List Declared) :
    (scope.declareAll ds).declared = firstOfEachName [] (ds.reverse ++ log) := by
  unfold Scope.declareAll
  induction ds generalizing scope log with
  | nil => exact h
  | cons d ds ih =>
    have hdeclare : (scope.declare d).declared = firstOfEachName [] (d :: log) := by
      rw [Scope.declare, h, filter_firstOfEachName]
      rfl
    rw [List.foldl_cons, ih hdeclare, List.reverse_cons, List.append_assoc]
    rfl

theorem declared_openScope (atTop : Bool) (kind : ScopeKind) (header : List Char) :
    (openScope atTop kind header).declared
      =
    firstOfEachName []
      (if kind.isBlock then ((headerNames atTop header).map (⟨·, .variable⟩)).reverse else []) := by
  unfold openScope
  dsimp only
  split
  · have hnone : ({ kind } : Scope).declared = firstOfEachName [] [] := rfl
    rw [declared_declareAll hnone, List.append_nil]
  · rfl

theorem declared_addToBody (text : List Char) (scopes : List Scope) :
    (addToBody text scopes).map Scope.declared = scopes.map Scope.declared := by
  unfold addToBody
  split <;> rfl

theorem map_brace_noteAt (depth : Nat) (ds : List Declared) (frames : List Frame) :
    (noteAt depth ds frames).map Frame.brace = frames.map Frame.brace := by
  unfold noteAt
  generalize frames.length - depth = i
  induction frames generalizing i with
  | nil => simp
  | cons frame frames ih =>
    cases i with
    | zero => rfl
    | succ i => rw [List.modify_succ_cons, List.map_cons, List.map_cons, ih]

theorem map_declared_modify {frames : List Frame} {scopes : List Scope}
    (h : scopes.map Scope.declared = frames.map fun frame => firstOfEachName [] frame.declared) (i : Nat)
    (ds : List Declared) :
    (scopes.modify i (·.declareAll ds)).map Scope.declared
      =
    (frames.modify i (·.note ds)).map fun frame => firstOfEachName [] frame.declared := by
  induction frames generalizing scopes i with
  | nil =>
    rw [List.map_nil, List.map_eq_nil_iff] at h
    rw [h]
    simp
  | cons frame frames ih =>
    rw [List.map_cons, List.map_eq_cons_iff] at h
    rcases h with ⟨scope, scopes, rfl, hscope, hscopes⟩
    cases i with
    | zero =>
      rw [List.modify_zero_cons, List.modify_zero_cons, List.map_cons, List.map_cons, hscopes,
        declared_declareAll hscope]
      rfl
    | succ i =>
      rw [List.modify_succ_cons, List.modify_succ_cons, List.map_cons, List.map_cons, ih hscopes, hscope]

namespace Recorded

variable {frames : List Frame} {scopes : List Scope}

theorem addToBody (h : Recorded frames scopes) (text : List Char) :
    Recorded frames (addToBody text scopes) where
  opened := h.opened.addToBody text
  declared := (declared_addToBody text scopes).trans h.declared

theorem openScope (h : Recorded frames scopes) (lineNo : Nat) (atTop : Bool) (b : OpenBrace) :
    Recorded (openFrame atTop b frames)
      (openScope atTop (openedKind lineNo scopes b.lastCode b.header) b.header :: scopes) where
  opened := h.opened.openScope lineNo atTop b
  declared := by
    have hopened := h.opened.openScope lineNo atTop b
    cases hopened with
    | cons hblock _ _ =>
      rw [kind_openScope] at hblock
      rw [List.map_cons, declared_openScope, hblock, h.declared]
      rfl

theorem tail {scope : Scope} (h : Recorded frames (scope :: scopes)) : Recorded frames.tail scopes := by
  rcases h with ⟨hopened, hdeclared⟩
  cases frames with
  | nil => cases hopened
  | cons frame frames =>
    rw [List.map_cons, List.map_cons, List.cons.injEq] at hdeclared
    cases hopened with
    | cons _ _ hrest => exact ⟨hrest, hdeclared.2⟩

theorem length_eq (h : Recorded frames scopes) : scopes.length = frames.length := by
  rw [h.opened.length_eq, List.length_map]

theorem isEmpty_eq (h : Recorded frames scopes) : scopes.isEmpty = frames.isEmpty := by
  rw [Bool.eq_iff_iff, List.isEmpty_iff_length_eq_zero, List.isEmpty_iff_length_eq_zero, h.length_eq]

theorem eq_nil (h : Recorded frames []) : frames = [] :=
  List.length_eq_zero_iff.mp h.length_eq.symm

theorem followBraces {b : Braces} (h : Recorded frames b.scopes) (lineNo : Nat) (atTop : Bool)
    (lastCode before code : List Char) :
    Recorded (followFrames atTop lastCode before frames code)
      (followBraces lineNo atTop lastCode before b code).scopes := by
  induction code generalizing before frames b with
  | nil => exact h.addToBody [' ']
  | cons c code ih =>
    rw [followFrames, Cpp.followBraces]
    apply ih
    split
    · exact h.openScope lineNo atTop (braceBehind lastCode before)
    · split
      · split
        · next hscopes =>
          rw [hscopes] at h ⊢
          rw [h.eq_nil]
          exact ⟨.nil, rfl⟩
        · next scope rest hscopes =>
          rw [hscopes] at h
          exact h.tail.addToBody [';']
      · exact h.addToBody [c]

/-
Names are noted in the same scope on both sides.
-/
theorem declareAt (h : Recorded frames scopes) (depth : Nat) (ds : List Declared) :
    Recorded (noteAt depth ds frames) (declareAt depth ds scopes) where
  opened := by
    rw [map_brace_noteAt]
    exact h.opened.declareAt depth ds
  declared := by
    unfold Cpp.declareAt noteAt
    rw [h.length_eq]
    exact map_declared_modify h.declared (frames.length - depth) ds

end Recorded

end Frames

section Guards

variable {b : Braces} (lineNo : Nat) (atTop : Bool) (lastCode before : List Char)

theorem lowestDepth_le (depth : Nat) (code : List Char) : lowestDepth depth code ≤ depth := by
  cases code with
  | nil => exact Nat.le_refl _
  | cons c code => exact Nat.min_le_left _ _

theorem length_addToBody (text : List Char) (scopes : List Scope) :
    (addToBody text scopes).length = scopes.length := by
  unfold addToBody
  split <;> rfl

/-
The least depth within a line is the one on the way through its code.
-/
theorem minDepth_followBraces (h : b.minDepth ≤ b.scopes.length) (code : List Char) :
    (followBraces lineNo atTop lastCode before b code).minDepth
      =
    min b.minDepth (lowestDepth b.scopes.length code) := by
  induction code generalizing before b with
  | nil => exact (Nat.min_eq_left h).symm
  | cons c code ih =>
    rw [followBraces, lowestDepth, ← Nat.min_assoc, Nat.min_eq_left h, braceDepth, braceDepth]
    split
    · rw [ih _ (Nat.le_succ_of_le h)]
      rfl
    · split
      · cases hscopes : b.scopes with
        | nil =>
          rw [hscopes] at h
          rw [ih _ (by rw [hscopes]; exact h), hscopes]
          rfl
        | cons scope rest =>
          -- What is read behind the brace starts with the depth that the brace leaves.
          have hlowest := lowestDepth_le rest.length code
          rw [ih, length_addToBody, List.length_cons, Nat.add_sub_cancel, Nat.min_assoc,
            Nat.min_eq_right hlowest]
          rw [length_addToBody]
          exact Nat.min_le_right _ _
      · rw [ih, length_addToBody]
        rw [length_addToBody]
        exact h

/-
A block or a structure is opened within a line if its code opens one.
-/
theorem opened_followBraces {braces : List OpenBrace} (h : Opened braces b.scopes) (code : List Char) :
    (!(followBraces lineNo atTop lastCode before b code).openedBlock
        && !(followBraces lineNo atTop lastCode before b code).openedStruct)
      =
    (!b.openedBlock && !b.openedStruct && opensNone lastCode before braces code) := by
  induction code generalizing before b braces with
  | nil => simp [followBraces, opensNone]
  | cons c code ih =>
    rw [followBraces, opensNone, followOpen, followOpen]
    split
    · next hc =>
      -- The new scope is a block or a structure just where its brace is taken for one.
      have hopened := h.openScope lineNo atTop (braceBehind lastCode before)
      rw [ih (c :: before) hopened]
      cases hopened with
      | cons hblock hstruct _ =>
        rw [kind_openScope] at hblock hstruct
        have hbrace : (c != '{') = false := by simpa using hc
        dsimp only [braceBehind] at hblock hstruct ⊢
        rw [hblock, hstruct, hbrace, Bool.false_or, Bool.not_or, Bool.not_or, Bool.not_or]
        ac_rfl
    · next hc =>
      have hplain : (c != '{') = true := by simpa using hc
      rw [hplain, Bool.true_or, Bool.true_and]
      split
      · cases hscopes : b.scopes with
        | nil =>
          have hnone := h
          rw [hscopes] at hnone
          cases hnone
          exact ih (c :: before) h
        | cons scope rest =>
          rw [hscopes] at h
          cases h with
          | cons _ _ hrest => exact ih (c :: before) (hrest.addToBody [';'])
      · exact ih (c :: before) (h.addToBody [c])

end Guards

section Reading

structure Remembers (s : State) (h : History) : Prop where
  recorded : Recorded h.frames s.scopes
  globals_kind : s.globals.kind = .block
  globals_declared : s.globals.declared = firstOfEachName [] h.globals
  lastCode : s.lastCode = h.lastCode

theorem remembers_start : Remembers {} {} where
  recorded := ⟨.nil, rfl⟩
  globals_kind := rfl
  globals_declared := rfl
  lastCode := rfl

namespace Remembers

variable {s : State} {h : History}

theorem scopesBehind (hs : Remembers s h) (lineNo : Nat) (code : List Char) :
    Recorded (h.framesBehind code) (s.scopesBehind lineNo code) := by
  unfold History.framesBehind State.scopesBehind
  rw [hs.recorded.isEmpty_eq, hs.lastCode]
  exact hs.recorded.followBraces lineNo _ _ [] code

theorem declareGlobals (hs : Remembers s h) (ds : List Declared) :
    Remembers { s with globals := s.globals.declareAll ds } { h with globals := ds.reverse ++ h.globals } where
  recorded := hs.recorded
  globals_kind := (kind_declareAll s.globals ds).trans hs.globals_kind
  globals_declared := declared_declareAll hs.globals_declared ds
  lastCode := hs.lastCode

/-
The names that a line declares are noted on both sides, or on none.
-/
theorem noteDeclarations (hs : Remembers s h) {code : List Char} {b : Braces} {before : List Scope}
    {frames : List Frame} (hbefore : Recorded frames before)
    (hlowest : b.minDepth = min before.length (lowestDepth before.length code))
    (hopened : (!b.openedBlock && !b.openedStruct) = opensNone h.lastCode [] (frames.map Frame.brace) code) :
    Remembers (noteDeclarations code before b s) (h.noteCode code frames) := by
  have hkept : b.minDepth < before.length ↔ lowestDepth frames.length code < frames.length := by
    rw [hlowest, hbefore.length_eq]
    omega
  unfold Cpp.noteDeclarations History.noteCode
  simp only [hkept]
  split
  · exact hs
  · cases before with
    | nil =>
      -- Outside of everything, what the line opens decides, and what is open behind it.
      rw [hbefore.eq_nil, List.map_nil] at hopened
      rw [hbefore.eq_nil, Bool.and_assoc, hopened, hs.recorded.isEmpty_eq]
      dsimp only
      split
      · exact hs.declareGlobals (declarations code false)
      · exact hs
    | cons scope outer =>
      have hblock := hbefore.opened.head_isBlock
      have hlength := hbefore.length_eq
      rw [List.head?_cons, Option.any_some] at hblock
      cases frames with
      | nil => contradiction
      | cons frame frames =>
        dsimp only
        rw [hblock, hlength]
        split
        · exact { hs with recorded := hs.recorded.declareAt _ _ }
        · exact hs

/-
Reading a line makes the same of the state as of what has been declared.
-/
theorem readLine (hs : Remembers s h) (maxTraced : Int) (lineNo : Nat) (code : List Char) :
    Remembers (readLine maxTraced lineNo code [] s).1 (h.readCode code) := by
  have hbehind := hs.scopesBehind lineNo code
  have hlowest := minDepth_followBraces (b := { scopes := s.scopes, minDepth := s.scopes.length })
    lineNo s.scopes.isEmpty s.lastCode [] (Nat.le_refl _) code
  have hopened := opened_followBraces (b := { scopes := s.scopes, minDepth := s.scopes.length })
    lineNo s.scopes.isEmpty s.lastCode [] hs.recorded.opened code
  rw [Bool.not_false, Bool.true_and, Bool.true_and] at hopened
  have hnoted (structs : List Struct) :=
    ({ hs with recorded := hbehind } :
      Remembers { s with scopes := s.scopesBehind lineNo code, structs }
        { h with frames := h.framesBehind code }).noteDeclarations hs.recorded hlowest
      (hopened.trans (by rw [hs.lastCode]))
  exact ⟨(hnoted _).recorded, (hnoted _).globals_kind, (hnoted _).globals_declared, rfl⟩

theorem readLines (hs : Remembers s h) (maxTraced : Int) (lineNo : Nat) (codes : List (List Char)) :
    Remembers (readLines maxTraced lineNo s codes) (codes.foldl History.read h) := by
  induction codes generalizing s h lineNo with
  | nil => exact hs
  | cons code codes ih =>
    rw [List.foldl_cons, Cpp.readLines]
    apply ih
    unfold History.read
    split
    · exact hs
    · exact hs.readLine maxTraced lineNo code

end Remembers

theorem remembers_after (maxTraced : Int) (source : String) (count : Nat) :
    Remembers (stateAfter maxTraced source count) (historyAfter source count) :=
  remembers_start.readLines maxTraced 1 _

end Reading

section Names

theorem mem_firstOfEachName_iff {seen : List String} {ds : List Declared} {d : Declared} :
    d ∈ firstOfEachName seen ds ↔ d.name ∉ seen ∧ ds.find? (·.name == d.name) = some d := by
  induction ds generalizing seen with
  | nil => simp [firstOfEachName]
  | cons e ds ih =>
    rw [firstOfEachName, List.find?_cons]
    by_cases hname : e.name = d.name
    · by_cases hseen : d.name ∈ seen
      · simp [hname, hseen, ih]
      · simp [hname, hseen, ih, eq_comm]
    · have hne : d ≠ e := fun heq => hname (by rw [heq])
      have htest : (e.name == d.name) = false := by simpa using hname
      by_cases hseen : e.name ∈ seen
      · simp [htest, hseen, ih]
      · simp [htest, hseen, ih, hne, Ne.symm hname]

/-
The first declaration of a name stands in the first list that declares the name.
-/
theorem exists_of_mem_firstOfEachName {logs : List (List Declared)} {d : Declared}
    (h : d ∈ firstOfEachName [] logs.flatten) :
    ∃ inner later earlier outer, logs = inner ++ (later ++ d :: earlier) :: outer
      ∧ (∀ log ∈ inner, ∀ e ∈ log, e.name ≠ d.name) ∧ ∀ e ∈ later, e.name ≠ d.name := by
  have hfound := (mem_firstOfEachName_iff.mp h).2
  rw [List.find?_flatten_eq_some_iff] at hfound
  rcases hfound with ⟨_, inner, later, earlier, outer, hlogs, hinner, hlater⟩
  exact ⟨inner, later, earlier, outer, hlogs, by simpa using hinner, by simpa using hlater⟩

theorem Recorded.firstOfEachName_blocks {frames : List Frame} {scopes : List Scope}
    (h : Recorded frames scopes) (seen : List String) (log : List Declared) :
    firstOfEachName seen
        ((scopes.filter (·.kind.isBlock)).flatMap Scope.declared ++ firstOfEachName [] log)
      =
    firstOfEachName seen ((blockLogs frames).flatten ++ log) := by
  induction frames generalizing scopes seen with
  | nil =>
    rw [List.length_eq_zero_iff.mp h.length_eq]
    have hlog := firstOfEachName_append (List.nil_subset seen) log []
    rw [List.append_nil, List.append_nil] at hlog
    exact hlog
  | cons frame frames ih =>
    rcases h with ⟨hopened, hdeclared⟩
    cases hopened with
    | cons hblock _ hrest =>
      -- The names of a scope are a part of its log that may be left out beforehand.
      rw [List.map_cons, List.map_cons, List.cons.injEq] at hdeclared
      have hih := ih ⟨hrest, hdeclared.2⟩
      rw [List.filter_cons, blockLogs, hblock, List.map_cons]
      split
      · rw [List.flatMap_cons, hdeclared.1, List.append_assoc, firstOfEachName_append (List.nil_subset seen),
          firstOfEachName_append_congr hih, List.flatten_cons, List.append_assoc]
      · exact hih seen

end Names

section Result

/--
Whether a list shows names that are declared in nested blocks, the innermost one first, up to a limit: each
name once, in the order of the declarations, and with the shape that it has been declared with last in the
innermost block that declares it. The last declaration of each block comes first.
-/
structure Shows (limit : Nat) (logs : List (List Declared)) (shown : List Declared) : Prop where
  nodup : (shown.map Declared.name).Nodup
  names : shown.map Declared.name = (logs.flatten.map Declared.name).eraseDups.take limit
  shapes : ∀ d ∈ shown, ∃ inner later earlier outer, logs = inner ++ (later ++ d :: earlier) :: outer
    ∧ (∀ log ∈ inner, ∀ e ∈ log, e.name ≠ d.name) ∧ ∀ e ∈ later, e.name ≠ d.name

theorem shows_take_firstOfEachName (limit : Nat) (logs : List (List Declared)) :
    Shows limit logs ((firstOfEachName [] logs.flatten).take limit) where
  names := by
    rw [List.map_take, map_name_firstOfEachName, List.filter_eq_self.mpr (by simp)]
  nodup := by
    rw [List.map_take, map_name_firstOfEachName]
    exact (nodup_eraseDups _).sublist (List.take_sublist limit _)
  shapes d hd := exists_of_mem_firstOfEachName (List.mem_of_mem_take hd)

theorem Recorded.shows_visible {frames : List Frame} {scopes : List Scope} (h : Recorded frames scopes)
    {globals : Scope} {log : List Declared} (hkind : globals.kind = .block)
    (hdeclared : globals.declared = firstOfEachName [] log) (limit : Nat) :
    Shows limit (blockLogs frames ++ [log]) (visible limit scopes globals) := by
  have hblock : globals.kind.isBlock = true := by rw [hkind]; rfl
  have hblocks : [globals].filter (·.kind.isBlock) = [globals] := by
    rw [List.filter_singleton, hblock, cond_true]
  have hvisible : visible limit scopes globals
      = (firstOfEachName [] (blockLogs frames ++ [log]).flatten).take limit := by
    unfold visible
    dsimp only
    rw [Text.takeUpTo_of_nonneg (by omega), List.filter_append, hblocks, List.flatMap_append,
      List.flatMap_singleton, hdeclared, h.firstOfEachName_blocks, List.flatten_append,
      List.flatten_singleton]
    rfl
  rw [hvisible]
  exact shows_take_firstOfEachName limit _

/--
Behind each line and within it, the visible names are those that the program has declared in the open blocks
and outside of everything, each one once and up to the limit. They are looked up in the innermost block first,
where the last declaration counts. The calls that a rewrite adds name them all.
-/
theorem visible_shows_declared (source : String) (limit : Nat) :
    (∀ count,
      let s := stateAfter limit source count
      let h := historyAfter source count
      Shows limit (blockLogs h.frames ++ [h.globals]) (visible limit s.scopes s.globals)
        ∧ ∀ code,
          Shows limit (blockLogs (h.framesBehind code) ++ [h.globals])
            (visible limit (s.scopesBehind (count + 1) code) s.globals))
    ∧ ∃ woven, ∃ structs : List Struct,
      rewrite source limit = Text.unlines (weave woven ++ structs.flatMap dumperDefinition)
        ∧ woven.map Prod.fst = Text.lines source
        ∧ ∀ i line added, woven[i]? = some (line, added) →
          let after := stateAfter limit source (i + 1)
          ∃ others call, added = others ++ call
            ∧ (∀ other ∈ others, ∀ lineNo names, other ≠ traceCall lineNo names)
            ∧ (call = [] ∨ call = [traceCall (i + 1) (visible limit after.scopes after.globals)]) := by
  constructor
  · intro count s h
    have hs : Remembers s h := remembers_after limit source count
    exact ⟨hs.recorded.shows_visible hs.globals_kind hs.globals_declared limit, fun code =>
      (hs.scopesBehind (count + 1) code).shows_visible hs.globals_kind hs.globals_declared limit⟩
  · rcases exists_visible_calls source limit with ⟨woven, structs, hout, hown, hcalls⟩
    refine ⟨woven, structs, hout, hown, ?_⟩
    intro i line added hentry after
    rcases hcalls i line added hentry with ⟨others, call, hlines, hothers, hcall⟩
    exact ⟨others, call, hlines, hothers, hcall.imp_right And.left⟩

/-
An array outside of everything is hidden by a variable in a function, which is declared again behind another
one.
-/
example :
    let source := Text.unlines ["int x[2];", "int main() \x7b", "int x = 1;", "int y = 2;", "int x = 3;"]
    let s := stateAfter defaultMaxTraced source 5
    visible defaultMaxTraced s.scopes s.globals = [⟨"x", .variable⟩, ⟨"y", .variable⟩] := by
  decide +kernel

end Result

end Playback.Cpp
