import Playback.Proofs.Cpp.Names
import Playback.Proofs.Source.Weave

/-!
This module contains what is added to a C or C++ program that reports its execution: the functions for
its structures, and at most one call behind each line, with the number of that line.
-/

namespace Playback.Cpp

section Text

theorem traceCall_eq (lineNo : Nat) (names : List Declared) :
    traceCall lineNo names
      =
    " ".intercalate
      ((names.filter (·.shape == .array)).map
          (fun d => "__pt_dump_array(\"" ++ d.name ++ "\", " ++ d.name ++ ");")
        ++ ["__pt_trace_impl(" ++ toString lineNo
          ++ String.join ((names.filter (·.shape == .variable)).map
            fun d => ", \"" ++ d.name ++ "\", " ++ d.name)
          ++ ");"]) :=
  rfl

theorem newline_not_mem_traceCall (lineNo : Nat) {names : List Declared}
    (h : ∀ d ∈ names, IsWord d.name) : '\n' ∉ (traceCall lineNo names).toList := by
  have hnames : ∀ d ∈ names, '\n' ∉ d.name.toList := fun d hd => (h d hd).newline_not_mem
  have harguments : '\n' ∉ (String.join ((names.filter (·.shape == .variable)).map
      fun d => ", \"" ++ d.name ++ "\", " ++ d.name)).toList := by
    rw [String.toList_join]
    simp
    grind
  rw [traceCall_eq]
  apply Text.newline_not_mem_intercalate (by simp)
  rw [List.forall_mem_append, List.forall_mem_map, List.forall_mem_singleton]
  refine ⟨fun d hd => ?_, by simpa using harguments⟩
  have hd := hnames d (List.mem_of_mem_filter hd)
  simp [hd]

theorem newline_not_mem_friendLine {name : String} (h : IsWord name) :
    '\n' ∉ (friendLine name).toList := by
  delta friendLine
  simp [toString, h.newline_not_mem]

theorem newline_not_mem_dumperDeclarations {name : String} (h : IsWord name) :
    ∀ line ∈ dumperDeclarations name, '\n' ∉ line.toList := by
  delta dumperDeclarations
  simp only [toString, List.forall_mem_cons, String.toList_append, List.mem_append, not_or,
    List.not_mem_nil, false_implies, implies_true, and_true]
  and_intros
  all_goals first
    | rw [String.toList_ofList]; decide
    | exact h.newline_not_mem

theorem newline_not_mem_fieldLine {separator field : String} (hseparator : '\n' ∉ separator.toList)
    (h : IsWord field) : '\n' ∉ (fieldLine separator field).toList := by
  delta fieldLine
  simp [hseparator, h.newline_not_mem]

theorem newline_not_mem_fieldLines {fields : List String} (h : ∀ field ∈ fields, IsWord field) :
    ∀ line ∈ fieldLines fields, '\n' ∉ line.toList := by
  cases fields with
  | nil => simp [fieldLines]
  | cons field fields =>
    rw [List.forall_mem_cons] at h
    rw [fieldLines, List.forall_mem_cons, List.forall_mem_map]
    exact ⟨newline_not_mem_fieldLine (by simp) h.1,
      fun other hother => newline_not_mem_fieldLine (by simp) (h.2 other hother)⟩

theorem newline_not_mem_dumperDefinition {s : Struct} (h : s.Worded) :
    ∀ line ∈ dumperDefinition s, '\n' ∉ line.toList := by
  have hname := h.name.newline_not_mem
  have hfields : ∀ field ∈ s.fields, '\n' ∉ field.toList :=
    fun field hfield => (h.fields field hfield).newline_not_mem
  unfold dumperDefinition
  simp only [List.forall_mem_append]
  refine ⟨⟨⟨⟨?_, newline_not_mem_fieldLines h.fields⟩, ?_⟩, ?_⟩, by simp⟩
  · simp [toString, hname]
  · simp
  · simpa [toString] using hfields

theorem head?_traceCall (lineNo : Nat) (names : List Declared) :
    (traceCall lineNo names).toList.head? = some '_' := by
  rw [traceCall_eq, String.toList_intercalate]
  cases names.filter (·.shape == .array) with
  | nil => simp
  | cons d arrays => simp

end Text

/--
The lines that are added for structures: one that lets the function of a structure see its fields, and
the declarations of such functions.
-/
def ForStruct (line : String) : Prop :=
  ∃ name, IsWord name ∧ (line = friendLine name ∨ line ∈ dumperDeclarations name)

theorem ForStruct.newline_not_mem {line : String} (h : ForStruct line) : '\n' ∉ line.toList := by
  rcases h with ⟨name, hname, rfl | hline⟩
  · exact newline_not_mem_friendLine hname
  · exact newline_not_mem_dumperDeclarations hname line hline

theorem ForStruct.ne_traceCall {line : String} (h : ForStruct line) (lineNo : Nat)
    (names : List Declared) : line ≠ traceCall lineNo names := by
  have hhead : line.toList.head? ≠ some '_' := by
    rcases h with ⟨name, _, rfl | hline⟩
    · delta friendLine
      simp [toString]
    · delta dumperDeclarations at hline
      simp only [List.mem_cons, List.not_mem_nil, or_false] at hline
      rcases hline with rfl | rfl | rfl | rfl | rfl | rfl <;> simp [toString]
  rintro rfl
  exact hhead (head?_traceCall lineNo names)

/--
What may be added behind a line: lines for structures and one call with the number of the line, and
nothing behind a line without code or a directive.
-/
structure Added (lineNo : Nat) (inComment : Bool) (line : String) (added : List String) : Prop where
  one_call : ∃ others call, added = others ++ call
    ∧ (∀ other ∈ others, ∀ n names, other ≠ traceCall n names)
    ∧ (call = [] ∨ ∃ names, call = [traceCall lineNo names])
  blank : Text.isBlankText line = true → added = []
  comment : Source.OnlyComment inComment line.toList → added = []
  directive : (Source.codeIn inComment line).head? = some '#' → added = []

theorem Added.nil (lineNo : Nat) (inComment : Bool) (line : String) :
    Added lineNo inComment line [] where
  one_call := ⟨[], [], rfl, by simp, .inl rfl⟩
  blank _ := rfl
  comment _ := rfl
  directive _ := rfl

theorem forStruct_of_mem_friendLines {lineNo : Nat} {scopes : List Scope}
    (h : ∀ scope ∈ scopes, scope.Worded) {line : String} (hline : line ∈ friendLines lineNo scopes) :
    ForStruct line := by
  unfold friendLines at hline
  split at hline
  · next head _ hlast =>
    split at hline
    · rw [Option.mem_toList, Option.map_eq_some_iff] at hline
      rcases hline with ⟨name, hname, rfl⟩
      have hworded := h _ (List.mem_of_getLast? hlast)
      exact ⟨name, hworded.head head rfl name hname, .inl rfl⟩
    · contradiction
  · contradiction

/-
All that reading a line adds: lines for the structure that it opens and for those that it closes, and
inside of a block one call with the names that are visible behind the line.
-/
theorem readLine_added (maxTraced : Int) (lineNo : Nat) (code nextCode : List Char) {s : State}
    (h : s.Worded) :
    let after := (readLine maxTraced lineNo code nextCode s).1
    after.Worded
      ∧ ∃ others call, (readLine maxTraced lineNo code nextCode s).2 = others ++ call
        ∧ (∀ other ∈ others, ForStruct other)
        ∧ (call = []
          ∨ after.scopes.head?.any (·.kind.isBlock) = true
            ∧ call = [traceCall lineNo (visible maxTraced after.scopes after.globals)]) := by
  unfold readLine
  dsimp only
  -- The names stay worded when the braces are followed, the structures are closed and the names are noted.
  have hbraces : Braces.Worded { scopes := s.scopes, minDepth := s.scopes.length } :=
    ⟨h.scopes, by simp⟩
  have hafter := hbraces.followBraces lineNo s.scopes.isEmpty s.lastCode [] code
  generalize followBraces lineNo s.scopes.isEmpty s.lastCode [] _ code = b at hafter
  generalize hclosed : b.closed.filterMap _ = structs
  have hstructs : ∀ struct ∈ structs, struct.Worded := by
    intro struct hstruct
    rw [← hclosed, List.mem_filterMap] at hstruct
    rcases hstruct with ⟨⟨head, trailer⟩, hentry, hclose⟩
    exact .of_closeStruct? hclose (hafter.closed _ hentry)
  have hopened : State.Worded { s with scopes := b.scopes, structs := s.structs ++ structs } := by
    refine ⟨hafter.scopes, h.globals, ?_⟩
    rw [List.forall_mem_append]
    exact ⟨h.structs, hstructs⟩
  have hnoted := hopened.noteDeclarations code s.scopes b
  generalize noteDeclarations code s.scopes b _ = noted at hnoted
  refine ⟨⟨hnoted.scopes, hnoted.globals, hnoted.structs⟩, _, _, rfl, ?_, ?_⟩
  · rw [List.forall_mem_append]
    refine ⟨fun line => forStruct_of_mem_friendLines hnoted.scopes, fun line hline => ?_⟩
    rw [List.mem_flatMap] at hline
    rcases hline with ⟨struct, hstruct, hline⟩
    exact ⟨struct.name, (hstructs struct hstruct).name, .inr hline⟩
  · split
    · next htraced =>
      refine .inr ⟨?_, rfl⟩
      unfold isTraced at htraced
      split at htraced
      · contradiction
      · next hblock => simpa using hblock
    · exact .inl rfl

theorem exists_weave_rewriteLines (maxTraced : Int) (lineNo : Nat) (inComment : Bool) {s : State}
    (h : s.Worded) (ls : List String) :
    ∃ woven, ∃ structs : List Struct,
      woven.map Prod.fst = ls
        ∧ rewriteLines maxTraced lineNo s
            (ls.zip (Source.codeLines inComment (ls.map String.toList)))
          = Source.weave woven ++ structs.flatMap dumperDefinition
        ∧ (∀ struct ∈ structs, struct.Worded)
        ∧ Source.EachFollowed Added lineNo inComment woven := by
  induction ls generalizing lineNo inComment s with
  | nil => exact ⟨[], s.structs, rfl, rfl, h.structs, trivial⟩
  | cons line ls ih =>
    rw [Source.codeLines_cons, List.zip_cons_cons, rewriteLines]
    split
    · rcases ih (lineNo + 1) (Source.endsInComment inComment line) h with
        ⟨woven, structs, hown, hout, hstructs, hadded⟩
      refine ⟨(line, []) :: woven, structs, by rw [List.map_cons, hown], ?_, hstructs, by simp,
        .nil .., hadded⟩
      rw [hout]
      rfl
    · next hcode =>
      rw [Bool.or_eq_true, List.isEmpty_iff, beq_iff_eq, not_or] at hcode
      dsimp only
      generalize (((ls.zip _).find? _).map Prod.snd).getD [] = nextCode
      have hread := readLine_added maxTraced lineNo (Source.codeIn inComment line) nextCode h
      generalize readLine maxTraced lineNo (Source.codeIn inComment line) nextCode s = result at hread
      rcases result with ⟨next, added⟩
      dsimp only at hread
      rcases hread with ⟨hnext, others, call, rfl, hothers, hcall⟩
      rcases ih (lineNo + 1) (Source.endsInComment inComment line) hnext with
        ⟨woven, structs, hown, hout, hstructs, hadded⟩
      refine ⟨(line, others ++ call) :: woven, structs, by rw [List.map_cons, hown], ?_, hstructs, ?_,
        ?_, hadded⟩
      · rw [hout]
        simp [Source.weave]
      · rw [List.forall_mem_append]
        refine ⟨fun line hline => (hothers line hline).newline_not_mem, ?_⟩
        rcases hcall with rfl | ⟨_, rfl⟩
        · simp
        · simpa using newline_not_mem_traceCall lineNo fun d => hnext.isWord_of_mem_visible
      · refine ⟨⟨others, call, rfl, fun line hline => (hothers line hline).ne_traceCall, ?_⟩, ?_, ?_, ?_⟩
        · rcases hcall with rfl | ⟨_, rfl⟩
          · exact .inl rfl
          · exact .inr ⟨_, rfl⟩
        · exact fun hblank => absurd (Source.codeIn_eq_nil_of_blank hblank) hcode.1
        · exact fun hcomment => absurd hcomment.codeIn_eq_nil hcode.1
        · exact fun hdirective => absurd hdirective hcode.2

theorem exists_weave_rewrite (source : String) (maxTraced : Int) :
    ∃ woven, ∃ structs : List Struct,
      Text.lines (rewrite source maxTraced)
          = Source.weave woven ++ structs.flatMap dumperDefinition
        ∧ Source.Weaves Added source woven := by
  have hstart : State.Worded {} := ⟨by simp, ⟨by simp, by simp⟩, by simp⟩
  rcases exists_weave_rewriteLines maxTraced 1 false hstart (Text.lines source) with
    ⟨woven, structs, hown, hout, hstructs, hadded⟩
  refine ⟨woven, structs, ?_, .of_rewritten hown hadded⟩
  unfold rewrite
  dsimp only
  rw [hout, Source.lines_unlines_weave hown hadded]
  intro line hline
  rw [List.mem_flatMap] at hline
  rcases hline with ⟨struct, hstruct, hline⟩
  exact newline_not_mem_dumperDefinition (hstructs struct hstruct) line hline

end Playback.Cpp
