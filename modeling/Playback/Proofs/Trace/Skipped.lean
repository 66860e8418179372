import Playback.Proofs.Trace.Payload

/-!
This module contains what becomes of a document if some of its items cannot be read as steps: objects are
passed over one by one, but any other item takes the whole document with it.
-/

namespace Playback

namespace Fields

theorem get?_cons (name other : String) (value : Json) (fields : Fields) :
    get? ((name, value) :: fields) other = if other = name then some value else fields.get? other := by
  unfold get?
  rw [List.lookup_cons]
  split
  · next h => rw [if_pos (beq_iff_eq.mp h)]
  · next h => rw [if_neg (beq_eq_false_iff_ne.mp h)]

theorem get?_set (fields : Fields) (name other : String) (value : Json) :
    (fields.set name value).get? other = if other = name then some value else fields.get? other := by
  induction fields with
  | nil => exact get?_cons name other value []
  | cons field fields ih =>
    rcases field with ⟨n, v⟩
    rw [set]
    split
    · next h =>
      rw [eq_of_beq h, get?_cons, get?_cons]
      split
      · rfl
      · rfl
    · next h =>
      rw [get?_cons, ih, get?_cons]
      split
      · next hother =>
        rw [if_neg]
        rintro rfl
        simp [hother] at h
      · rfl

end Fields

namespace Timeline

def isStep (item : Json) : Bool :=
  (Step.ofJson? item).isSome

theorem isSome_asObject?_of_isStep {item : Json} (h : isStep item = true) :
    item.asObject?.isSome = true := by
  cases item with
  | obj fields => rfl
  | _ => contradiction

theorem filterMap_ofJson?_filter_isStep (items : List Json) :
    (items.filter isStep).filterMap Step.ofJson? = items.filterMap Step.ofJson? := by
  rw [List.filterMap_filter]
  congr 1
  funext item
  unfold isStep
  cases Step.ofJson? item with
  | none => rfl
  | some step => rfl

/--
Whether the fields of a document are the given items as its steps, and a status and a flag that can be
read. Fields of other names do not matter, and neither does the order.
-/
structure Carries (fields : Fields) (items : List Json) (status : RunStatus) (truncated : Bool) :
    Prop where
  steps : fields.get? "steps" = some (.arr items)
  status : fields.read? ["status"] .complete RunStatus.ofJson? = some status
  truncated : fields.read? ["truncated"] false Json.asBool? = some truncated

namespace Carries

variable {fields : Fields} {items : List Json} {status : RunStatus} {truncated : Bool}

theorem set (h : Carries fields items status truncated) (others : List Json) :
    Carries (fields.set "steps" (.arr others)) others status truncated where
  steps := by rw [Fields.get?_set, if_pos rfl]
  status := by
    rw [← h.status]
    simp [Fields.read?, Fields.first?, Fields.get?_set]
  truncated := by
    rw [← h.truncated]
    simp [Fields.read?, Fields.first?, Fields.get?_set]

theorem ofJson?_eq (h : Carries fields items status truncated) :
    Payload.ofJson? (.obj fields)
      =
    if items.all (·.asObject?.isSome) then some { steps := items, status, truncated } else none := by
  have hsteps : fields.read? ["steps"] [] (Json.asList? fun step => step.asObject?.map Json.obj)
      = if items.all (·.asObject?.isSome) then some items else none := by
    simp only [Fields.read?, Fields.first?, h.steps, Option.some_or]
    exact mapM_asObject? items
  change (fields.read? ["steps"] [] _).bind _ = _
  rw [hsteps]
  cases items.all (·.asObject?.isSome) with
  | false => rfl
  | true =>
    change (fields.read? ["status"] .complete RunStatus.ofJson?).bind _ = _
    rw [h.status]
    change (fields.read? ["truncated"] false Json.asBool?).bind _ = _
    rw [h.truncated]
    rfl

theorem ofDocument_eq (h : Carries fields items status truncated) (maxSteps : Int) :
    ofDocument (.obj fields) maxSteps
      =
    if items.all (·.asObject?.isSome) then ofPayload { steps := items, status, truncated } maxSteps
    else {} := by
  unfold ofDocument
  rw [h.ofJson?_eq]
  cases items.all (·.asObject?.isSome) with
  | false => rfl
  | true => rfl

end Carries

theorem ofPayload_filter_isStep (payload : Payload) (maxSteps : Int) :
    ofPayload { payload with steps := payload.steps.filter isStep } maxSteps
      =
    ofPayload payload maxSteps := by
  unfold ofPayload
  dsimp only
  rw [filterMap_ofJson?_filter_isStep]

/-
Only a document without steps can look as if it had never been read.
-/
theorem ofPayload_eq_empty_iff (payload : Payload) (maxSteps : Int) :
    ofPayload payload maxSteps = {}
      ↔
    (∀ item ∈ payload.steps, isStep item = false)
      ∧ payload.status = .complete ∧ payload.truncated = false ∧ 0 ≤ maxSteps := by
  have hnone : (∀ item ∈ payload.steps, isStep item = false)
      ↔ payload.steps.filterMap Step.ofJson? = [] := by
    simp [isStep, List.filterMap_eq_nil_iff]
  rw [hnone]
  unfold ofPayload
  dsimp only
  generalize payload.steps.filterMap Step.ofJson? = steps
  constructor
  · intro h
    rw [mk.injEq] at h
    rcases h with ⟨hsteps, _, hstatus, htruncated⟩
    rw [Bool.or_eq_false_iff, decide_eq_false_iff_not] at htruncated
    have hlength := congrArg List.length hsteps
    rw [length_repair, if_neg htruncated.2, List.length_nil] at hlength
    rw [hlength] at htruncated
    exact ⟨List.length_eq_zero_iff.mp hlength, hstatus, htruncated.1, by omega⟩
  · rintro ⟨rfl, hstatus, htruncated, hmax⟩
    have hroom : ¬ maxSteps < ([] : List Step).length := by simpa using hmax
    rw [if_neg hroom, hstatus, htruncated, decide_eq_false hroom]
    rfl

/--
A document gives the same steps as without the items that cannot be read as steps exactly if all of them
are objects, or if there is nothing else to be lost. A single item of another kind takes all the others with
it. In any case there is an answer.
-/
theorem ofRaw_document_skips_iff {fields : Fields} {items : List Json} {status : RunStatus}
    {truncated : Bool} (h : Carries fields items status truncated) (maxSteps : Int) :
    let kept := fields.set "steps" (.arr (items.filter isStep))
    let timeline := ofDocument (.obj fields) maxSteps
    ofRaw (.document (.obj fields)) maxSteps = .ok timeline
      ∧ (¬ (∀ item ∈ items, item.asObject?.isSome = true) → timeline = {})
      ∧ (ofRaw (.document (.obj fields)) maxSteps = ofRaw (.document (.obj kept)) maxSteps
          ↔ (∀ item ∈ items, item.asObject?.isSome = true)
            ∨ ((∀ item ∈ items, isStep item = false)
              ∧ status = .complete ∧ truncated = false ∧ 0 ≤ maxSteps)) := by
  intro kept timeline
  have hkept : ofDocument (.obj kept) maxSteps
      = ofPayload { steps := items, status, truncated } maxSteps := by
    -- What is left are objects, and so the document can be read.
    have hobjects : (items.filter isStep).all (·.asObject?.isSome) = true := by
      rw [List.all_eq_true]
      intro item hitem
      exact isSome_asObject?_of_isStep (List.mem_filter.mp hitem).2
    rw [(h.set _).ofDocument_eq, if_pos hobjects]
    exact ofPayload_filter_isStep { steps := items, status, truncated } maxSteps
  have htimeline : timeline = _ := h.ofDocument_eq maxSteps
  refine ⟨rfl, ?_, ?_⟩
  · intro hnot
    rw [htimeline, if_neg]
    simpa using hnot
  · have hanswers : ofRaw (.document (.obj fields)) maxSteps = ofRaw (.document (.obj kept)) maxSteps
        ↔ timeline = ofPayload { steps := items, status, truncated } maxSteps := by
      rw [← hkept]
      unfold ofRaw
      rw [Except.ok.injEq]
    rw [hanswers, htimeline, ← List.all_eq_true]
    split
    · next hall => simp [hall]
    · next hall =>
      rw [eq_comm, ofPayload_eq_empty_iff]
      simp [hall]

theorem ofRaw_document_skips_iff_objects :
    let items : List Json :=
      [.obj [("currentLine", .int 3)], .obj [("currentLine", .str "three")], .obj [("frames", .null)],
        .obj [("output", .str "five")]]
    let fields : Fields := [("truncated", .bool true), ("steps", .arr items), ("status", .str "timeout")]
    let kept := fields.set "steps" (.arr (items.filter isStep))
    Carries fields items .timeout true
      ∧ (items.filter isStep).length = 2
      ∧ ofRaw (.document (.obj fields)) 1 = ofRaw (.document (.obj kept)) 1 := by
  intro items fields kept
  have hfields : Carries fields items .timeout true := ⟨rfl, by decide, rfl⟩
  have hobjects : ∀ item ∈ items, item.asObject?.isSome = true := by decide
  exact ⟨hfields, by decide, (ofRaw_document_skips_iff hfields 1).2.2.mpr (.inl hobjects)⟩

theorem ofRaw_document_skips_fails :
    let items : List Json := [.obj [("currentLine", .int 3)], .int 5]
    let fields : Fields := [("steps", .arr items), ("status", .str "complete"), ("truncated", .bool false)]
    let kept := fields.set "steps" (.arr (items.filter isStep))
    Carries fields items .complete false
      ∧ isStep (.int 5) = false
      ∧ (ofRaw (.document (.obj fields)) 1000).map (·.steps) = .ok []
      ∧ (ofRaw (.document (.obj kept)) 1000).map (·.steps)
          = .ok [{ currentLine := 3, executedLines := [] }] :=
  ⟨⟨rfl, by decide, rfl⟩, by decide, rfl, rfl⟩

end Timeline

end Playback
