import Playback.Proofs.Text.Lines
import Playback.Proofs.Trace.Faults

/-!
This module contains the proof that a replay tells the output of a program from the records about
it, as long as each record begins on a line of its own: the steps are those of the records alone,
and what they show as output is all that the program printed.
-/

namespace Playback

/--
Two rows that are merged into one. Each of them keeps its order.
-/
inductive Interleaved {α : Type} : List α → List α → List α → Prop where
  | nil : Interleaved [] [] []
  | left {a : α} {as bs cs : List α} (h : Interleaved as bs cs) : Interleaved (a :: as) bs (a :: cs)
  | right {b : α} {as bs cs : List α} (h : Interleaved as bs cs) :
    Interleaved as (b :: bs) (b :: cs)

namespace Interleaved

variable {α β : Type} {as bs cs : List α}

theorem right_self (bs : List α) : Interleaved [] bs bs := by
  induction bs with
  | nil => exact .nil
  | cons b bs ih => exact .right ih

theorem append_right (h : Interleaved as bs cs) (ls : List α) :
    Interleaved as (ls ++ bs) (ls ++ cs) := by
  induction ls with
  | nil => exact h
  | cons l ls ih => exact .right ih

theorem mem_or_mem (h : Interleaved as bs cs) : ∀ c ∈ cs, c ∈ as ∨ c ∈ bs := by
  induction h with
  | nil => simp
  | left h ih =>
    intro c hc
    rw [List.mem_cons] at hc
    rcases hc with rfl | hc
    · simp
    · rcases ih c hc with hmem | hmem
      · simp [hmem]
      · simp [hmem]
  | right h ih =>
    intro c hc
    rw [List.mem_cons] at hc
    rcases hc with rfl | hc
    · simp
    · rcases ih c hc with hmem | hmem
      · simp [hmem]
      · simp [hmem]

theorem filterMap (h : Interleaved as bs cs) (f : α → Option β) :
    Interleaved (as.filterMap f) (bs.filterMap f) (cs.filterMap f) := by
  induction h with
  | nil => exact .nil
  | @left a as bs cs h ih =>
    cases hf : f a with
    | none => simpa [hf] using ih
    | some b => simpa [hf] using ih.left
  | @right a as bs cs h ih =>
    cases hf : f a with
    | none => simpa [hf] using ih
    | some b => simpa [hf] using ih.right

theorem eq_right (h : Interleaved [] bs cs) : cs = bs := by
  generalize has : ([] : List α) = as at h
  induction h with
  | nil => rfl
  | left h ih => contradiction
  | right h ih => rw [ih has]

theorem eq_left (h : Interleaved as [] cs) : cs = as := by
  generalize hbs : ([] : List α) = bs at h
  induction h with
  | nil => rfl
  | left h ih => rw [ih hbs]
  | right h ih => contradiction

theorem filterMap_eq_right (h : Interleaved as bs cs) {f : α → Option β}
    (has : ∀ a ∈ as, f a = none) : cs.filterMap f = bs.filterMap f := by
  have hmap := h.filterMap f
  rw [List.filterMap_eq_nil_iff.mpr has] at hmap
  exact hmap.eq_right

theorem filterMap_eq_left (h : Interleaved as bs cs) {f : α → Option β}
    (hbs : ∀ b ∈ bs, f b = none) : cs.filterMap f = as.filterMap f := by
  have hmap := h.filterMap f
  rw [List.filterMap_eq_nil_iff.mpr hbs] at hmap
  exact hmap.eq_left

end Interleaved

namespace Record

def isReport (record : Record) : Bool :=
  record.output?.isNone

theorem filterMap_filter_isReport {β : Type} {f : Record → Option β}
    (h : ∀ text, f (.plainText text) = none) (records : List Record) :
    (records.filter isReport).filterMap f = records.filterMap f := by
  rw [List.filterMap_filter]
  apply List.filterMap_congr
  intro record _
  cases record with
  | plainText text => simp [isReport, output?, h]
  | _ => rfl

theorem isReport_of_line? {record : Record} {line : Nat} (h : record.line? = some line) :
    record.isReport = true := by
  cases record with
  | lineMark line => rfl
  | _ => contradiction

theorem marks_filter_isReport (records : List Record) :
    marks (records.filter isReport) = marks records := by
  apply filterMap_filter_isReport
  simp [line?]

theorem bindings_filter_isReport (records : List Record) :
    bindings (records.filter isReport) = bindings records := by
  unfold bindings
  rw [filterMap_filter_isReport]
  simp [binding?]

theorem objects_filter_isReport (records : List Record) :
    objects (records.filter isReport) = objects records := by
  unfold objects
  rw [filterMap_filter_isReport]
  simp [object?]

theorem before_filter_isReport (k : Nat) (records : List Record) :
    before k (records.filter isReport) = (before k records).filter isReport := by
  induction records generalizing k with
  | nil => rfl
  | cons record records ih =>
    cases hline : record.line? with
    | none =>
      rw [before_cons_of_none _ _ hline, List.filter_cons, List.filter_cons, ← ih]
      split
      · rw [before_cons_of_none _ _ hline]
      · rfl
    | some line =>
      have hreport := isReport_of_line? hline
      rw [List.filter_cons_of_pos hreport]
      cases k with
      | zero => rw [before_zero_cons _ hline, before_zero_cons _ hline, List.filter_nil]
      | succ k =>
        rw [before_cons_of_some _ _ hline, before_cons_of_some _ _ hline,
          List.filter_cons_of_pos hreport, ih]

theorem sinceMark_filter_isReport (records : List Record) :
    sinceMark (records.filter isReport) = (sinceMark records).filter isReport := by
  induction records using List.reverseRecOn with
  | nil => rfl
  | append_singleton records record ih =>
    rw [List.filter_append]
    cases hline : record.line? with
    | none =>
      rw [sinceMark_concat _ _ hline, List.filter_append, ← ih]
      by_cases hreport : record.isReport = true
      · rw [List.filter_cons_of_pos hreport, List.filter_nil, sinceMark_concat _ _ hline]
      · rw [List.filter_cons_of_neg hreport, List.filter_nil, List.append_nil, List.append_nil]
    | some line =>
      rw [List.filter_cons_of_pos (isReport_of_line? hline), List.filter_nil,
        sinceMark_concat_of_some _ hline, sinceMark_concat_of_some _ hline, List.filter_nil]

/-
Apart from what it shows as output, a step is made of the other records alone.
-/
theorem stepAt_filter_isReport (cumulative : Bool) (k : Nat) (records : List Record) :
    stepAt cumulative records k
      =
    { stepAt cumulative (records.filter isReport) k with
      output := printed (before k records) } := by
  cases k with
  | zero => rfl
  | succ k =>
    dsimp only [stepAt]
    rw [before_filter_isReport, marks_filter_isReport, objects_filter_isReport]
    cases cumulative with
    | false => simp [sinceMark_filter_isReport, bindings_filter_isReport]
    | true => simp [bindings_filter_isReport]

theorem filter_isReport_of_complete {records : List Record}
    (h : ∀ record ∈ records, record.Complete) : records.filter isReport = records := by
  rw [List.filter_eq_self]
  intro record hrecord
  rw [isReport, output?_of_complete (h record hrecord)]
  rfl

/--
Output of a program as steps show it: each line without the carriage returns at its end, and with a
newline.
-/
def shownOutput (output : String) : String :=
  String.join ((Text.closedLines output).map fun line => dropReturns line ++ "\n")

theorem printed_plainText (output : String) :
    printed ((Text.closedLines output).map fun line => .plainText (dropReturns line))
      =
    shownOutput output := by
  unfold printed shownOutput
  rw [List.filterMap_map, ← List.filterMap_eq_map]
  rfl

end Record

inductive Piece where
  /-- Output of the program itself, which may end anywhere. -/
  | output (text : String)
  /-- A record on a line that ends behind it. -/
  | report (record : Record)
deriving DecidableEq

namespace Piece

def text : Piece → String
  | .output text => text
  | .report record => record.written ++ "\n"

def output? : Piece → Option String
  | .output text => some text
  | .report _ => none

def report? : Piece → Option Record
  | .output _ => none
  | .report record => some record

def transcript (pieces : List Piece) : String :=
  String.join (pieces.map text)

def ownOutput (pieces : List Piece) : String :=
  String.join (pieces.filterMap output?)

def reports (pieces : List Piece) : List Record :=
  pieces.filterMap report?

/--
What is printed in front of a line mark, where `k` line marks stand before that one. If there is no
such mark, this is all.
-/
def before : Nat → List Piece → List Piece
  | _, [] => []
  | k, piece :: pieces =>
    match piece.report?.bind Record.line?, k with
    | none, k => piece :: before k pieces
    | some _, 0 => []
    | some _, k + 1 => piece :: before k pieces

/--
Whether every record begins on a line of its own if the pieces are printed behind `start`.
-/
def SeparateBehind (start : String) (pieces : List Piece) : Prop :=
  ∀ front record back, pieces = front ++ .report record :: back →
    Text.AtLineStart (start ++ transcript front)

variable {pieces : List Piece}

theorem transcript_cons (piece : Piece) (pieces : List Piece) :
    transcript (piece :: pieces) = piece.text ++ transcript pieces := by
  unfold transcript
  rw [List.map_cons, String.join_cons]

theorem transcript_append (front back : List Piece) :
    transcript (front ++ back) = transcript front ++ transcript back := by
  unfold transcript
  rw [List.map_append, String.join_append]

theorem ownOutput_cons_output (text : String) (pieces : List Piece) :
    ownOutput (.output text :: pieces) = text ++ ownOutput pieces := by
  have hown :
      (Piece.output text :: pieces).filterMap output? = text :: pieces.filterMap output? := rfl
  unfold ownOutput
  rw [hown, String.join_cons]

theorem separateBehind_cons (start : String) (piece : Piece) (pieces : List Piece) :
    SeparateBehind start (piece :: pieces)
      ↔
    (piece.report?.isSome → Text.AtLineStart start)
      ∧ SeparateBehind (start ++ piece.text) pieces := by
  constructor
  · intro h
    constructor
    · intro hreport
      cases piece with
      | output text => cases hreport
      | report record =>
        specialize h [] record pieces rfl
        rw [transcript, List.map_nil, String.join_nil, String.append_empty] at h
        exact h
    · intro front record back heq
      specialize h (piece :: front) record back (by rw [heq]; rfl)
      rw [transcript_cons, ← String.append_assoc] at h
      exact h
  · rintro ⟨hstart, hpieces⟩ front record back heq
    cases front with
    | nil =>
      rw [List.nil_append, List.cons.injEq] at heq
      rw [transcript, List.map_nil, String.join_nil, String.append_empty]
      apply hstart
      rw [heq.1]
      rfl
    | cons first front =>
      rw [List.cons_append, List.cons.injEq] at heq
      rw [transcript_cons, ← heq.1, ← String.append_assoc]
      exact hpieces front record back heq.2

instance decidableSeparateBehind (start : String) :
    (pieces : List Piece) → Decidable (SeparateBehind start pieces)
  | [] => isTrue (by intro front record back heq; simp at heq)
  | piece :: pieces =>
    have := decidableSeparateBehind (start ++ piece.text) pieces
    decidable_of_iff' _ (separateBehind_cons start piece pieces)

namespace SeparateBehind

theorem behind_newline (done : String) {rest : String}
    (h : SeparateBehind (done ++ "\n" ++ rest) pieces) : SeparateBehind rest pieces := by
  intro front record back heq
  specialize h front record back heq
  rw [String.append_assoc, Text.atLineStart_append_newline] at h
  exact h

theorem behind_report {start : String} {record : Record}
    (h : SeparateBehind start (.report record :: pieces)) :
    Text.AtLineStart start ∧ SeparateBehind "" pieces := by
  rw [separateBehind_cons, text, ← String.append_assoc] at h
  refine ⟨h.1 rfl, behind_newline (start ++ record.written) ?_⟩
  rw [String.append_empty]
  exact h.2

theorem of_append {start : String} {front back : List Piece}
    (h : SeparateBehind start (front ++ back)) : SeparateBehind start front := by
  intro first record rest heq
  apply h first record (rest ++ back)
  rw [heq, List.append_assoc, List.cons_append]

/-
What the program prints of itself is in front of each record at the beginning of a line, too.
-/
theorem atLineStart_ownOutput {start : String} (h : SeparateBehind start pieces)
    (hend : Text.AtLineStart (start ++ transcript pieces)) :
    Text.AtLineStart (start ++ ownOutput pieces) := by
  induction pieces generalizing start with
  | nil => exact hend
  | cons piece pieces ih =>
    rw [transcript_cons] at hend
    cases piece with
    | output text =>
      rw [ownOutput_cons_output, ← String.append_assoc]
      rw [separateBehind_cons] at h
      apply ih h.2
      rw [String.append_assoc]
      exact hend
    | report record =>
      have hown : ownOutput (.report record :: pieces) = ownOutput pieces := rfl
      rw [text, ← String.append_assoc, ← String.append_assoc,
        Text.atLineStart_append_newline] at hend
      rw [hown, h.behind_report.1.append]
      have hrest := ih h.behind_report.2
      rw [String.empty_append, String.empty_append] at hrest
      exact hrest hend

end SeparateBehind

theorem closedLines_transcript_cons {record : Record} (h : record.Complete) (pieces : List Piece) :
    Text.closedLines (transcript (.report record :: pieces))
      =
    record.written :: Text.closedLines (transcript pieces) := by
  rw [transcript_cons, text, Text.closedLines_append_newline,
    Text.lines_of_not_mem (Record.newline_not_mem_written h), List.singleton_append]

/-
The lines of a program go on where a piece of its output leaves off, so the induction is on the
pieces that come behind the beginning of a line.
-/
theorem interleaved_closedLines (hcomplete : ∀ record ∈ reports pieces, record.Complete)
    {start : String} (hstart : '\n' ∉ start.toList) (hseparate : SeparateBehind start pieces) :
    Interleaved ((reports pieces).map Record.written)
      (Text.closedLines (start ++ ownOutput pieces))
      (Text.closedLines (start ++ transcript pieces)) := by
  induction pieces generalizing start with
  | nil => apply Interleaved.right_self
  | cons piece pieces ih =>
    cases piece with
    | output text =>
      have hreports : reports (.output text :: pieces) = reports pieces := rfl
      rw [hreports] at hcomplete ⊢
      rw [transcript_cons, ownOutput_cons_output, Piece.text, ← String.append_assoc,
        ← String.append_assoc]
      have hbehind := ((separateBehind_cons _ _ _).mp hseparate).2
      rw [Piece.text] at hbehind
      rcases Text.exists_eq_append_newline (start ++ text) with hnone | ⟨done, rest, heq, hrest⟩
      · exact ih hcomplete hnone hbehind
      · -- What the piece ends are lines of the program. Its rest goes on in the next pieces.
        have hassoc (more : String) :
            done ++ "\n" ++ rest ++ more = done ++ "\n" ++ (rest ++ more) := String.append_assoc
        rw [heq] at hbehind ⊢
        rw [hassoc, hassoc, Text.closedLines_append_newline, Text.closedLines_append_newline]
        apply Interleaved.append_right
        exact ih hcomplete hrest (hbehind.behind_newline done)
    | report record =>
      have hreports : reports (.report record :: pieces) = record :: reports pieces := rfl
      have hown : ownOutput (.report record :: pieces) = ownOutput pieces := rfl
      rw [hreports, List.forall_mem_cons] at hcomplete
      -- Nothing of the program is left on the line on which the record begins.
      rw [hseparate.behind_report.1.eq_empty hstart, hreports, hown, String.empty_append,
        String.empty_append, closedLines_transcript_cons hcomplete.1]
      apply Interleaved.left
      have hnone : '\n' ∉ "".toList := by decide
      have hrest := ih hcomplete.2 hnone hseparate.behind_report.2
      rw [String.empty_append, String.empty_append] at hrest
      exact hrest

theorem interleaved_transcript (hcomplete : ∀ record ∈ reports pieces, record.Complete)
    (hseparate : SeparateBehind "" pieces) :
    Interleaved ((reports pieces).map Record.written) (Text.closedLines (ownOutput pieces))
      (Text.closedLines (transcript pieces)) := by
  have hnone : '\n' ∉ "".toList := by decide
  have hlines := interleaved_closedLines hcomplete hnone hseparate
  rw [String.empty_append, String.empty_append] at hlines
  exact hlines

/-
Lines of the program are read as its output, and the lines of records as these records.
-/
theorem interleaved_ofLines (hcomplete : ∀ record ∈ reports pieces, record.Complete)
    (hplain : ∀ line ∈ Text.closedLines (ownOutput pieces), ¬ Record.HasMark line)
    (hseparate : SeparateBehind "" pieces) :
    Interleaved (reports pieces)
      ((Text.closedLines (ownOutput pieces)).map fun line => .plainText (Record.dropReturns line))
      (Record.ofLines (Text.closedLines (transcript pieces))) := by
  -- What is read line by line is merged as the lines are.
  have hrecords := (interleaved_transcript hcomplete hseparate).filterMap
    fun line => (Record.parse line).toOption
  have hreports : ((reports pieces).map Record.written).filterMap
      (fun line => (Record.parse line).toOption) = reports pieces := by
    rw [List.filterMap_map]
    conv =>
      rhs
      rw [← List.filterMap_some (l := reports pieces)]
    apply List.filterMap_congr
    intro record hrecord
    simp [Record.parse_written (hcomplete record hrecord), Except.toOption]
  have houtput : (Text.closedLines (ownOutput pieces)).filterMap
      (fun line => (Record.parse line).toOption)
        =
      (Text.closedLines (ownOutput pieces)).map
        fun line => .plainText (Record.dropReturns line) := by
    rw [← List.filterMap_eq_map]
    apply List.filterMap_congr
    intro line hline
    simp [Record.parse_of_not_hasMark (hplain line hline), Except.toOption]
  rw [hreports, houtput] at hrecords
  exact hrecords

theorem before_cons_of_none {piece : Piece} (k : Nat) (pieces : List Piece)
    (h : piece.report?.bind Record.line? = none) :
    before k (piece :: pieces) = piece :: before k pieces := by
  simp [before, h]

theorem marks_reports_cons (piece : Piece) (pieces : List Piece) :
    Record.marks (reports (piece :: pieces))
      =
    (piece.report?.bind Record.line?).toList ++ Record.marks (reports pieces) := by
  cases piece with
  | output text => rfl
  | report record => exact Record.marks_cons record (reports pieces)

theorem eq_lineMark_of_some {piece : Piece} {line : Nat}
    (h : piece.report?.bind Record.line? = some line) : piece = .report (.lineMark line) := by
  cases piece with
  | output text => cases h
  | report record =>
    cases record with
    | lineMark line' => rw [Option.some.inj h]
    | _ => cases h

/-
What is printed stops in front of a line mark or at its end.
-/
theorem before_eq (k : Nat) (pieces : List Piece) :
    ∃ rest, pieces = before k pieces ++ rest
      ∧ Record.marks (reports (before k pieces)) = (Record.marks (reports pieces)).take k
      ∧ (rest = [] ∨ ∃ line more, rest = .report (.lineMark line) :: more) := by
  induction pieces generalizing k with
  | nil => exact ⟨[], rfl, by simp [before, reports, Record.marks], .inl rfl⟩
  | cons piece pieces ih =>
    cases hline : piece.report?.bind Record.line? with
    | none =>
      rcases ih k with ⟨rest, heq, hmarks, hrest⟩
      refine ⟨rest, ?_, ?_, hrest⟩
      · rw [before_cons_of_none k pieces hline, List.cons_append, ← heq]
      · rw [before_cons_of_none k pieces hline, marks_reports_cons, marks_reports_cons, hmarks,
          hline]
        rfl
    | some line =>
      cases k with
      | zero =>
        -- This is the line mark that everything else stands behind.
        have hbefore : before 0 (piece :: pieces) = [] := by simp [before, hline]
        refine ⟨piece :: pieces, ?_, ?_, ?_⟩
        · rw [hbefore, List.nil_append]
        · rw [hbefore, List.take_zero]
          rfl
        · exact .inr ⟨line, pieces, by rw [eq_lineMark_of_some hline]⟩
      | succ k =>
        have hbefore : before (k + 1) (piece :: pieces) = piece :: before k pieces := by
          simp [before, hline]
        rcases ih k with ⟨rest, heq, hmarks, hrest⟩
        refine ⟨rest, ?_, ?_, hrest⟩
        · rw [hbefore, List.cons_append, ← heq]
        · rw [hbefore, marks_reports_cons, marks_reports_cons, hmarks, hline]
          rfl

theorem ownOutput_append (front back : List Piece) :
    ownOutput (front ++ back) = ownOutput front ++ ownOutput back := by
  unfold ownOutput
  rw [List.filterMap_append, String.join_append]

theorem reports_append (front back : List Piece) :
    reports (front ++ back) = reports front ++ reports back := by
  apply List.filterMap_append

section Separate

variable (hcomplete : ∀ record ∈ reports pieces, record.Complete)
  (hplain : ∀ line ∈ Text.closedLines (ownOutput pieces), ¬ Record.HasMark line)
  (hseparate : SeparateBehind "" pieces)

include hcomplete hplain hseparate

theorem filter_ofLines :
    (Record.ofLines (Text.closedLines (transcript pieces))).filter Record.isReport
      =
    reports pieces := by
  rw [← Record.filter_isReport_of_complete hcomplete, ← List.filterMap_eq_filter]
  apply (interleaved_ofLines hcomplete hplain hseparate).filterMap_eq_left
  simp [Record.isReport, Record.output?, Option.guard]

theorem marks_ofLines :
    Record.marks (Record.ofLines (Text.closedLines (transcript pieces)))
      =
    Record.marks (reports pieces) := by
  rw [← filter_ofLines hcomplete hplain hseparate, Record.marks_filter_isReport]

theorem printed_ofLines :
    Record.printed (Record.ofLines (Text.closedLines (transcript pieces)))
      =
    Record.shownOutput (ownOutput pieces) := by
  rw [← Record.printed_plainText]
  unfold Record.printed
  congr 1
  apply (interleaved_ofLines hcomplete hplain hseparate).filterMap_eq_right
  intro record hrecord
  exact Record.output?_of_complete (hcomplete record hrecord)

/-
A line mark stands at the beginning of a line, so the lines up to it are those of what is printed up
to it.
-/
theorem printed_before {k : Nat} (hk : k ≤ (Record.marks (reports pieces)).length) :
    Record.printed (Record.before k (Record.ofLines (Text.closedLines (transcript pieces))))
      =
    Record.shownOutput (ownOutput (before k pieces)) := by
  rcases before_eq k pieces with ⟨rest, heq, hmarks, hrest⟩
  generalize before k pieces = front at heq hmarks
  have hlength : (Record.marks (reports front)).length = k := by
    rw [hmarks, List.length_take]
    omega
  rcases hrest with rfl | ⟨line, more, rfl⟩
  · -- There is no line mark with this number, and all of the output is shown.
    rw [List.append_nil] at heq
    rw [heq] at hcomplete hplain hseparate ⊢
    rw [Record.before_eq_self, printed_ofLines hcomplete hplain hseparate]
    rw [marks_ofLines hcomplete hplain hseparate]
    omega
  · rw [heq] at hcomplete hplain hseparate ⊢
    have hstart := hseparate front (.lineMark line) more rfl
    have hfront := hseparate.of_append
    rw [String.empty_append] at hstart
    have hown := hfront.atLineStart_ownOutput
    rw [String.empty_append, String.empty_append] at hown
    rw [ownOutput_append, Text.closedLines_append (hown hstart)] at hplain
    rw [reports_append] at hcomplete
    have hplain' : ∀ l ∈ Text.closedLines (ownOutput front), ¬ Record.HasMark l := by
      intro l hl
      exact hplain l (List.mem_append_left _ hl)
    have hcomplete' : ∀ record ∈ reports front, record.Complete := by
      intro record hrecord
      exact hcomplete record (List.mem_append_left _ hrecord)
    have hmark : (Record.lineMark line).Complete :=
      hcomplete (.lineMark line) (List.mem_append_right _ (by simp [reports, report?]))
    have hlines : Record.ofLines (Text.closedLines (transcript (.report (.lineMark line) :: more)))
        = .lineMark line :: Record.ofLines (Text.closedLines (transcript more)) := by
      rw [closedLines_transcript_cons hmark,
        Record.ofLines_cons_of_parse (Record.parse_written hmark)]
    have hfrontMarks := marks_ofLines hcomplete' hplain' hfront
    rw [transcript_append, Text.closedLines_append hstart, Record.ofLines_append, hlines,
      Record.before_append_mark, Record.before_eq_self, printed_ofLines hcomplete' hplain' hfront]
    all_goals
      rw [hfrontMarks]
      omega

theorem not_blocks_of_separate :
    ∀ line ∈ Text.closedLines (transcript pieces), ∀ fault, ¬ Record.Blocks line fault := by
  intro line hline
  rcases (interleaved_transcript hcomplete hseparate).mem_or_mem line hline with hwritten | hown
  · rw [List.mem_map] at hwritten
    rcases hwritten with ⟨record, hrecord, rfl⟩
    apply Record.not_blocks_of_parse (Record.parse_written (hcomplete record hrecord))
    rintro id rawJson rfl
    exact (hcomplete _ hrecord).2
  · apply Record.not_blocks_of_parse (Record.parse_of_not_hasMark (hplain line hown))
    intro id rawJson h
    cases h

/--
If every record begins on a line of its own and no line of the program looks like a record, the
program is shown as it ran: there is a step for each line mark, what it tells is what the records
tell, and its output is all that the program printed up to the next line mark and nothing else.
-/
theorem ofRaw_transcript (cumulative : Bool) {maxSteps : Int}
    (hroom : (Record.marks (reports pieces)).length < maxSteps) :
    Timeline.ofRaw (.wire (transcript pieces) cumulative) maxSteps
      =
    .ok
      { steps :=
          (List.range ((Record.marks (reports pieces)).length + 1)).map fun k =>
            { Record.stepAt cumulative (reports pieces) k with
              output := Record.shownOutput (ownOutput (before k pieces)) }
        heap := ⟨Record.objects (reports pieces)⟩
        status := .complete
        truncated := false } := by
  have hmarks := marks_ofLines hcomplete hplain hseparate
  have hreports := filter_ofLines hcomplete hplain hseparate
  rcases Timeline.exists_ofWire_of_not_blocks (not_blocks_of_separate hcomplete hplain hseparate)
    cumulative maxSteps with ⟨timeline, htimeline⟩
  rcases Timeline.exists_shows_of_ofWire htimeline with ⟨replay, hshows, heq, _⟩
  have hroom' : (Record.marks (reports pieces)).length ≤ (max 1 maxSteps).toNat - 1 := by omega
  have hsteps : replay.steps
      = (List.range ((Record.marks (reports pieces)).length + 1)).map fun k =>
          { Record.stepAt cumulative (reports pieces) k with
            output := Record.shownOutput (ownOutput (before k pieces)) } := by
    rw [hshows.steps_eq, hmarks, Nat.min_eq_right (by omega)]
    apply List.map_congr_left
    intro k hk
    rw [List.mem_range] at hk
    rw [Record.stepAt_filter_isReport, hreports,
      printed_before hcomplete hplain hseparate (by omega)]
  have hheap : replay.heap = ⟨Record.objects (reports pieces)⟩ := by
    have hobjects := hshows.heap
    rw [Record.before_eq_self _ _ (by rw [hmarks]; exact hroom'),
      ← Record.objects_filter_isReport, hreports] at hobjects
    rw [← hobjects]
  rw [Timeline.ofRaw, htimeline, heq, hsteps, hheap, hmarks, decide_eq_false]
  omega

end Separate

theorem ofRaw_transcript_unfinished :
    let pieces :=
      [.report (.varBind "x" "1"), .report (.lineMark 7), .output "hel", .output "lo\nbye"]
    let opened : Step :=
      { currentLine := 7
        executedLines := [7]
        frames := [{ name := Timeline.wireFrameName, bindings := [("x", .str "1")] }]
        output := "hello\nbye\n" }
    (∀ record ∈ reports pieces, record.Complete)
      ∧ (∀ line ∈ Text.closedLines (ownOutput pieces), ¬ Record.HasMark line)
      ∧ SeparateBehind "" pieces
      ∧ ((Record.marks (reports pieces)).length : Int) < 2
      ∧ Timeline.ofRaw (.wire (transcript pieces) false) 2
          =
        .ok { steps := [.initial, opened] } := by
  intro pieces opened
  have hcomplete : ∀ record ∈ reports pieces, record.Complete := by decide +kernel
  have hplain : ∀ line ∈ Text.closedLines (ownOutput pieces), ¬ Record.HasMark line := by
    decide +kernel
  have hseparate : SeparateBehind "" pieces := by decide +kernel
  have hroom : ((Record.marks (reports pieces)).length : Int) < 2 := by decide
  refine ⟨hcomplete, hplain, hseparate, hroom, ?_⟩
  rw [ofRaw_transcript hcomplete hplain hseparate false hroom]
  decide +kernel

/--
A record that is printed behind an unfinished line is lost, and its text is shown as output.
-/
theorem ofRaw_transcript_loses :
    let pieces := [.output "hello", .report (.lineMark 1)]
    (∀ record ∈ reports pieces, record.Complete)
      ∧ (∀ line ∈ Text.closedLines (ownOutput pieces), ¬ Record.HasMark line)
      ∧ ((Record.marks (reports pieces)).length : Int) < defaultMaxSteps
      ∧ (Record.marks (reports pieces)).length = 1
      ∧ Record.shownOutput (ownOutput pieces) = "hello\n"
      ∧ Timeline.ofRaw (.wire (transcript pieces) false) defaultMaxSteps
          =
        .ok { steps := [{ Step.initial with output := "helloLINEMARK:1\n" }] } := by
  decide +kernel

end Piece

end Playback
