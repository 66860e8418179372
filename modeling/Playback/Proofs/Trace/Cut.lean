import Playback.Proofs.Text.Lines
import Playback.Proofs.Trace.Coherence

/-!
This module contains the comparison of a run that was cut short with the whole run: a lower ceiling
or a shorter text leads to the same steps, only fewer of them.
-/

namespace Playback

/--
Whether steps are the first ones of others, where the last of them may show less of the output.
-/
def CutFrom (steps whole : List Step) : Prop :=
  ∃ front last output rest, steps = front ++ [last]
    ∧ whole = front ++ { last with output } :: rest
    ∧ last.output.toList <+: output.toList

namespace Record

theorem before_prefix_before_append (k : Nat) (records more : List Record) :
    before k records <+: before k (records ++ more) := by
  rw [before_append]
  split
  · apply List.prefix_rfl
  · next h =>
    rw [before_eq_self k records (by omega)]
    apply List.prefix_append

/-
The step at which a row of records is cut is the only one that can tell what follows.
-/
theorem cutFrom_map_stepAt (cumulative : Bool) (k count : Nat) (records more : List Record)
    (hk : k ≤ (marks records).length) (hcount : k < count) :
    CutFrom ((List.range (k + 1)).map (stepAt cumulative records))
      ((List.range count).map (stepAt cumulative (records ++ more))) := by
  have hfront : (List.range k).map (stepAt cumulative (records ++ more))
      = (List.range k).map (stepAt cumulative records) := by
    apply List.map_congr_left
    intro j hj
    rw [List.mem_range] at hj
    apply stepAt_append
    omega
  rcases Nat.exists_eq_add_of_le hcount with ⟨left, rfl⟩
  refine ⟨(List.range k).map (stepAt cumulative records), stepAt cumulative records k,
    printed (before k (records ++ more)),
    ((List.range left).map (k + 1 + ·)).map (stepAt cumulative (records ++ more)), ?_, ?_, ?_⟩
  · rw [List.range_succ, List.map_append, List.map_singleton]
  · rw [List.range_add, List.range_succ, List.map_append, List.map_append, hfront,
      List.map_singleton, stepAt_append_of_le cumulative k records more hk, List.append_assoc,
      List.singleton_append]
  · rw [stepAt_output]
    apply printed_prefix
    apply before_prefix_before_append

end Record

namespace Timeline

theorem steps_take_of_ofWire {text : String} {cumulative : Bool} {few many : Int}
    {short long : Timeline} (hle : few ≤ many)
    (hshort : ofWire text cumulative few = .ok short)
    (hlong : ofWire text cumulative many = .ok long) :
    short.steps = long.steps.take (max 1 few).toNat := by
  rw [steps_of_ofWire hshort, steps_of_ofWire hlong, ← List.map_take, List.take_range,
    ← Nat.min_assoc]
  congr 3
  omega

theorem cutFrom_of_ofWire {text more : String} {cumulative : Bool} {maxSteps : Int}
    {short long : Timeline} (hmore : Text.AtLineStart text ∨ ∃ rest, more = "\n" ++ rest)
    (hshort : ofWire text cumulative maxSteps = .ok short)
    (hlong : ofWire (text ++ more) cumulative maxSteps = .ok long) :
    CutFrom short.steps long.steps := by
  rcases Text.closedLines_prefix_append hmore with ⟨lines, hlines⟩
  rw [steps_of_ofWire hshort, steps_of_ofWire hlong, ← hlines, Record.ofLines_append]
  generalize Record.ofLines (Text.closedLines text) = records
  have hcount : min (max 1 maxSteps).toNat ((Record.marks records).length + 1)
      = min ((max 1 maxSteps).toNat - 1) (Record.marks records).length + 1 := by
    omega
  rw [hcount]
  apply Record.cutFrom_map_stepAt
  · omega
  · rw [Record.marks_append, List.length_append]
    omega

/--
A replay under a lower ceiling has the first steps of one under a higher ceiling. A replay of the
first lines of a text has the first steps of a replay of the whole text, apart from output that goes
to the last of these steps.
-/
theorem ofRaw_wire_cut (text : String) (cumulative : Bool) :
    (∀ (few many : Int) (short long : Timeline), 1 ≤ few → few ≤ many →
        ofRaw (.wire text cumulative) few = .ok short →
        ofRaw (.wire text cumulative) many = .ok long →
        short.steps = long.steps.take few.toNat)
      ∧ ∀ (more : String) (maxSteps : Int) (short long : Timeline),
          (Text.AtLineStart text ∨ ∃ rest, more = "\n" ++ rest) →
          ofRaw (.wire text cumulative) maxSteps = .ok short →
          ofRaw (.wire (text ++ more) cumulative) maxSteps = .ok long →
          CutFrom short.steps long.steps := by
  constructor
  · intro few many short long hfew hle hshort hlong
    have hceiling : max 1 few = few := by omega
    rw [← hceiling]
    exact steps_take_of_ofWire hle hshort hlong
  · intro more maxSteps short long hmore hshort hlong
    exact cutFrom_of_ofWire hmore hshort hlong

theorem ofRaw_wire_cut_running :
    let text := "VARBIND:x:1\nLINEMARK:7\nhello\n"
    let more := "world\nLINEMARK:3\nLINEMARK:8\n"
    let opened : Step :=
      { currentLine := 7
        executedLines := [7]
        frames := [{ name := wireFrameName, bindings := [("x", .str "1")] }]
        output := "hello\n" }
    let next : Step :=
      { opened with
        currentLine := 3
        executedLines := [3, 7]
        frames := [{ name := wireFrameName }]
        output := "hello\nworld\n" }
    let short : Timeline := { steps := [.initial, opened] }
    let long : Timeline :=
      { steps := [.initial, { opened with output := next.output }, next], truncated := true }
    let cut : Timeline :=
      { steps := [.initial, { opened with output := next.output }], truncated := true }
    ofRaw (.wire text false) 3 = .ok short
      ∧ ofRaw (.wire (text ++ more) false) 3 = .ok long
      ∧ ofRaw (.wire (text ++ more) false) 2 = .ok cut
      ∧ cut.steps = long.steps.take 2
      ∧ CutFrom short.steps long.steps := by
  intro text more opened next short long cut
  have hshort : ofRaw (.wire text false) 3 = .ok short := by decide +kernel
  have hlong : ofRaw (.wire (text ++ more) false) 3 = .ok long := by decide +kernel
  have hcut : ofRaw (.wire (text ++ more) false) 2 = .ok cut := by decide +kernel
  have hmore : Text.AtLineStart text := by decide +kernel
  refine ⟨hshort, hlong, hcut, ?_, ?_⟩
  · exact (ofRaw_wire_cut (text ++ more) false).1 2 3 cut long (by decide) (by decide) hcut hlong
  · exact (ofRaw_wire_cut text false).2 more 3 short long (.inl hmore) hshort hlong

end Timeline

end Playback
