import Playback.Monitor.Supply

/-!
This module contains what a program gets of its input, however it asks for it: everything comes once and in
order, lines end where they should, and a call without an answer asks for nothing or finds nothing left.
-/

namespace Playback.Monitor.Supply

section Call

/--
A call for input. Going on to the next line takes a whole line.
-/
inductive Call where
  | readLine (limit : Option Int)
  | read (limit : Option Int)
  | next
deriving DecidableEq

def Call.limit : Call → Option Int
  | .readLine limit => limit
  | .read limit => limit
  | .next => none

def Call.takesLine : Call → Bool
  | .readLine _ => true
  | .read _ => false
  | .next => true

def answer? (supply : Supply) : Call → Option (String × Supply)
  | .readLine limit => supply.readLine? limit
  | .read limit => supply.read? limit
  | .next => supply.readLine? none

/--
Answer one call after the other. A call without an answer takes nothing.
-/
def serve (supply : Supply) : List Call → List (Option String) × Supply
  | [] => ([], supply)
  | call :: calls =>
    match supply.answer? call with
    | some (text, supply) =>
      let (answers, supply) := supply.serve calls
      (some text :: answers, supply)
    | none =>
      let (answers, supply) := supply.serve calls
      (none :: answers, supply)

def delivered (answers : List (Option String)) : String :=
  String.join (answers.filterMap id)

end Call

section Piece

theorem firstLine_isPrefix (cs : List Char) : firstLine cs <+: cs := by
  induction cs with
  | nil => exact List.prefix_rfl
  | cons c cs ih =>
    unfold firstLine
    split
    · simp
    · rw [List.prefix_cons_inj]
      exact ih

theorem firstLine_eq_nil_iff (cs : List Char) : firstLine cs = [] ↔ cs = [] := by
  cases cs with
  | nil => simp [firstLine]
  | cons c cs =>
    unfold firstLine
    split
    · simp
    · simp

/-
A newline ends the first line of a text.
-/
theorem newline_not_mem_dropLast_firstLine (cs : List Char) : '\n' ∉ (firstLine cs).dropLast := by
  induction cs with
  | nil => simp [firstLine]
  | cons c cs ih =>
    unfold firstLine
    split
    · simp
    · next hc =>
      cases hline : firstLine cs with
      | nil => simp
      | cons d line =>
        rw [hline] at ih
        rw [List.dropLast_cons_cons, List.mem_cons, not_or]
        exact ⟨fun heq => hc (beq_iff_eq.mpr heq.symm), ih⟩

theorem limited_isPrefix (limit : Option Int) (piece : List Char) : limited limit piece <+: piece := by
  unfold limited
  split
  · split
    · apply List.take_prefix
    · exact List.prefix_rfl
  · exact List.prefix_rfl

theorem limited_eq_nil_iff (limit : Option Int) (piece : List Char) :
    limited limit piece = [] ↔ limit = some 0 ∨ piece = [] := by
  unfold limited
  split
  · next n =>
    split
    · rw [List.take_eq_nil_iff, Option.some_inj]
      grind
    · grind
  · simp

theorem newline_not_mem_dropLast_of_isPrefix {piece front : List Char} (h : front <+: piece)
    (hpiece : '\n' ∉ piece.dropLast) : '\n' ∉ front.dropLast := by
  rcases h with ⟨more, rfl⟩
  cases more with
  | nil => rwa [List.append_nil] at hpiece
  | cons c more =>
    rw [List.dropLast_append_of_ne_nil (by simp)] at hpiece
    exact fun hmem => hpiece (List.mem_append_left _ ((List.dropLast_subset front) hmem))

end Piece

section Step

variable {supply after : Supply} {call : Call} {text : String}

def asked (supply : Supply) (call : Call) : List Char :=
  limited call.limit (if call.takesLine then firstLine supply.rest else supply.rest)

theorem answer?_eq (supply : Supply) (call : Call) :
    supply.answer? call = supply.deliver? (supply.asked call) := by
  cases call with
  | readLine limit => rfl
  | read limit => rfl
  | next => rfl

theorem asked_isPrefix (supply : Supply) (call : Call) : supply.asked call <+: supply.rest := by
  unfold asked
  apply (limited_isPrefix _ _).trans
  split
  · apply firstLine_isPrefix
  · exact List.prefix_rfl

theorem deliver?_eq_none_iff (supply : Supply) (piece : List Char) :
    supply.deliver? piece = none ↔ piece = [] := by
  cases piece with
  | nil => simp [deliver?]
  | cons c piece => simp [deliver?]

/-
There is no answer exactly if no character is asked for or none is left.
-/
theorem answer?_eq_none_iff : supply.answer? call = none ↔ call.limit = some 0 ∨ supply.rest = [] := by
  rw [answer?_eq, deliver?_eq_none_iff, asked, limited_eq_nil_iff]
  split
  · rw [firstLine_eq_nil_iff]
  · rfl

variable (h : supply.answer? call = some (text, after))
include h

theorem eq_of_answer? :
    text = String.ofList (supply.asked call) ∧ supply.rest = text.toList ++ after.rest := by
  rw [answer?_eq, deliver?] at h
  split at h
  · contradiction
  · rw [Option.some_inj, Prod.mk.injEq] at h
    refine ⟨h.1.symm, ?_⟩
    rw [← h.1, ← h.2, String.toList_ofList]
    exact (List.prefix_iff_eq_append.mp (asked_isPrefix supply call)).symm

theorem newline_not_mem_of_answer? (hline : call.takesLine = true) : '\n' ∉ text.toList.dropLast := by
  rw [(eq_of_answer? h).1, String.toList_ofList, asked, if_pos hline]
  exact newline_not_mem_dropLast_of_isPrefix (limited_isPrefix _ _) (newline_not_mem_dropLast_firstLine _)

end Step

section Run

/-
What has been delivered is the front of the input.
-/
theorem delivered_serve (supply : Supply) (calls : List Call) :
    (delivered (supply.serve calls).1).toList ++ (supply.serve calls).2.rest = supply.rest := by
  induction calls generalizing supply with
  | nil => simp [serve, delivered]
  | cons call calls ih =>
    rw [serve]
    split
    · next text after hanswer =>
      have hfront := ih after
      rw [(eq_of_answer? hanswer).2, ← hfront]
      simp [delivered]
    · exact ih supply

theorem serve_append (supply : Supply) (calls more : List Call) :
    supply.serve (calls ++ more)
      =
    ((supply.serve calls).1 ++ ((supply.serve calls).2.serve more).1,
      ((supply.serve calls).2.serve more).2) := by
  induction calls generalizing supply with
  | nil => rfl
  | cons call calls ih =>
    rw [List.cons_append, serve, serve]
    split
    · next text after _ => rw [ih after]; rfl
    · rw [ih supply]; rfl

theorem length_serve (supply : Supply) (calls : List Call) : (supply.serve calls).1.length = calls.length := by
  induction calls generalizing supply with
  | nil => rfl
  | cons call calls ih =>
    rw [serve]
    split
    · next text after _ => exact congrArg (· + 1) (ih after)
    · exact congrArg (· + 1) (ih supply)

theorem head?_serve (supply : Supply) (call : Call) (calls : List Call) :
    (supply.serve (call :: calls)).1.head? = some ((supply.answer? call).map Prod.fst) := by
  rw [serve]
  split
  · next hanswer => rw [hanswer]; rfl
  · next hanswer => rw [hanswer]; rfl

/-
The answer to a call is the one that the input left by the calls before it gives.
-/
theorem serve_getElem? (supply : Supply) {calls : List Call} {i : Nat} {call : Call}
    (h : calls[i]? = some call) :
    ∃ before : Supply, (delivered ((supply.serve calls).1.take i)).toList ++ before.rest = supply.rest
      ∧ (supply.serve calls).1[i]? = some ((before.answer? call).map Prod.fst) := by
  rcases List.getElem?_eq_some_iff.mp h with ⟨hi, hcall⟩
  have hlength : (supply.serve (calls.take i)).1.length = i := by
    rw [length_serve, List.length_take, Nat.min_eq_left (Nat.le_of_lt hi)]
  -- The calls are cut in front of the given one, which is then the first of the rest.
  have hcalls : calls = calls.take i ++ call :: calls.drop (i + 1) := by
    rw [← hcall, List.getElem_cons_drop, List.take_append_drop]
  refine ⟨(supply.serve (calls.take i)).2, ?_, ?_⟩
  · rw [hcalls, serve_append, List.take_left' hlength, ← hcalls]
    apply delivered_serve
  · rw [hcalls, serve_append, List.getElem?_append_right (Nat.le_of_eq hlength), hlength, Nat.sub_self,
      ← List.head?_eq_getElem?, head?_serve, ← hcalls]

/--
What is delivered, one answer after the other, is the front of the input, and what is left is the rest of it.
An answer to a call for a line goes on to the end of the line at most, and a call has no answer exactly
if it asks for no character or all of the input has been delivered before.
-/
theorem serve_answers (data : String) (calls : List Call) :
    let (answers, left) := serve ⟨data.toList⟩ calls
    delivered answers ++ String.ofList left.rest = data
      ∧ ∀ i call, calls[i]? = some call →
        ∃ answer, answers[i]? = some answer
          ∧ (answer = none ↔ call.limit = some 0 ∨ delivered (answers.take i) = data)
          ∧ ∀ text, answer = some text → call.takesLine = true → '\n' ∉ text.toList.dropLast := by
  constructor
  · rw [← String.toList_inj, String.toList_append, String.toList_ofList]
    apply delivered_serve
  · intro i call hcall
    rcases serve_getElem? ⟨data.toList⟩ hcall with ⟨before, hdelivered, hanswer⟩
    have hdone : before.rest = [] ↔ delivered ((serve ⟨data.toList⟩ calls).1.take i) = data := by
      rw [← String.toList_inj]
      constructor
      · intro hnil
        rw [hnil, List.append_nil] at hdelivered
        exact hdelivered
      · intro hall
        rw [hall] at hdelivered
        exact List.append_right_eq_self.mp hdelivered
    refine ⟨_, hanswer, ?_, ?_⟩
    · rw [Option.map_eq_none_iff, answer?_eq_none_iff, hdone]
    · intro text htext hline
      rw [Option.map_eq_some_iff] at htext
      rcases htext with ⟨⟨_, after⟩, htext, rfl⟩
      exact newline_not_mem_of_answer? htext hline

/--
A call that asks for no character has no answer, though the input is still to be delivered.
-/
theorem serve_nothing_asked :
    serve ⟨"ab".toList⟩ [.read (some 0), .readLine (some 0), .read none]
      =
    ([none, none, some "ab"], ⟨[]⟩) := by
  decide +kernel

end Run

end Playback.Monitor.Supply
