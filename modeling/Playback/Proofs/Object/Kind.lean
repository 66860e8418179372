import Playback.Proofs.Object.Effects

/-!
This module contains which encoded values give away the kind of what they stand for. Texts stand for
themselves, next to the ids of objects and the mark of what is left out, so a text that reads like one of
those is taken for it.
-/

namespace Playback

theorem Heap.contains_iff (heap : Heap) (id : String) : heap.contains id = true ↔ id ∈ heap.ids := by
  simp [contains, ids]

/--
Whether a text reads like the mark of what is left out or like the id of an entry.
-/
def Heap.Mistakes (heap : Heap) (text : String) : Prop :=
  text = ValueKind.ellipsis ∨ heap.contains text = true

namespace Value

/--
Whether a kind tells what a value is: that of a reference for references alone, that of a text for every
text, and never that of what is left out.
-/
structure Recovered (v : Value) (kind : ValueKind) : Prop where
  reference : kind = .reference ↔ v.isReference = true
  omitted : kind ≠ .omitted
  text : ∀ t, v = .text t → kind = .text

variable {v : Value} {heap : Heap}

theorem recovered_of_reference (h : v.isReference = true) : v.Recovered .reference where
  reference := by simp [h]
  omitted := by decide
  text := by
    rintro t rfl
    contradiction

theorem recovered_text_iff (h : v.isReference = false) (text : String) :
    v.Recovered (ValueKind.ofJson heap.contains (.str text)) ↔ ¬ heap.Mistakes text := by
  rw [ValueKind.ofJson, Heap.Mistakes, not_or]
  split
  · next hmark =>
    rw [beq_iff_eq] at hmark
    constructor
    · intro hrecovered
      exact absurd rfl hrecovered.omitted
    · intro hfree
      exact absurd hmark hfree.1
  · next hmark =>
    rw [beq_iff_eq] at hmark
    split
    · next hknown =>
      constructor
      · intro hrecovered
        rw [hrecovered.reference.mp rfl] at h
        contradiction
      · intro hfree
        exact absurd hknown hfree.2
    · next hknown =>
      constructor
      · intro _
        exact ⟨hmark, hknown⟩
      · intro _
        exact ⟨by simp [h], by decide, fun _ _ => rfl⟩

theorem recovered_scalar (h : v.isReference = false) {limits : Limits} {json : Json}
    (hshown : Encoder.scalar limits v = .ok json) (htext : ∀ text, json ≠ .str text) :
    v.Recovered (ValueKind.ofJson heap.contains json) := by
  have hkind : ValueKind.ofJson heap.contains json = .scalar := by
    cases v with
    | bool b =>
      cases hshown
      rfl
    | int n =>
      cases hshown
      rfl
    | float x =>
      rw [Encoder.scalar, Except.ok.injEq] at hshown
      split at hshown
      · cases hshown
        rfl
      · exact absurd hshown.symm (htext _)
    | ref object => contradiction
    | unshown raised isUserObject => contradiction
    | _ =>
      cases hshown
      exact absurd rfl (htext _)
  rw [hkind]
  refine ⟨by simp [h], by decide, ?_⟩
  rintro t rfl
  cases hshown
  exact absurd rfl (htext _)

end Value

namespace Encoder

variable {memory : Memory} {limits : Limits} {s : Encoder}

theorem idOf_ne {text : String} (h : text.toList.head? ≠ some 'o') (n : Nat) : idOf n ≠ text := by
  rintro rfl
  apply h
  rw [idOf, String.toList_append]
  rfl

theorem encodeWithin_of_not_reference (memory : Memory) (limits : Limits) (room : Nat) (s : Encoder)
    {v : Value} (h : v.isReference = false) :
    encodeWithin memory limits room s v = (s, scalar limits v) := by
  unfold encodeWithin
  split
  · rfl
  · contradiction
  · rfl

/-
An object that has been visited has an entry already, and any other one gets it now.
-/
theorem id_mem_encodeWithin (memory : Memory) (limits : Limits) (room : Nat) (s : Encoder) (v : Value)
    (hroom : room ≠ 0) (hv : v.isReference = true) (hmemory : v.isIn memory = true)
    (hvisited : ∀ id ∈ s.visited, id ∈ s.heap.ids) {json : Json}
    (hshown : (encodeWithin memory limits room s v).2 = .ok json) :
    ∃ n, json = .str (idOf n) ∧ idOf n ∈ (encodeWithin memory limits room s v).1.heap.ids := by
  have hid : ∀ s object, ∃ n, (identify s object).2 = idOf n := by
    intro s object
    rcases identify_spec s object with ⟨n, more, hidentify, _⟩
    exact ⟨n, by rw [hidentify]⟩
  revert hroom hv hmemory hvisited hshown
  apply encodeWithin_induction (motive := fun room s v _ result =>
    room ≠ 0 → v.isReference = true → v.isIn memory = true → (∀ id ∈ s.visited, id ∈ s.heap.ids) →
      result.2 = .ok json → ∃ n, json = .str (idOf n) ∧ idOf n ∈ result.1.heap.ids)
  · intro room s v hplain hroom hv
    rcases hplain with hzero | hscalar
    · exact absurd hzero hroom
    · rw [hscalar] at hv
      contradiction
  · intro room s object hseen _ _ _ hvisited hshown
    cases hshown
    rcases hid s object with ⟨n, hn⟩
    refine ⟨n, by rw [hn], ?_⟩
    rw [heap_identify, ← hn]
    exact hvisited _ hseen
  · intro room s object hmissing _ _ hmemory
    rw [Value.isIn, hmissing] at hmemory
    contradiction
  · intro room s object found last raised _ _ _ _ _ _ _ _ hshown
    contradiction
  · intro room s object found last value _ _ _ _ storing _ _ _ _ hshown
    cases hshown
    rcases hid s object with ⟨n, hn⟩
    refine ⟨n, by rw [hn], ?_⟩
    rw [Heap.mem_ids_put, ← hn]
    exact .inl rfl

def names : List String := ["None", "nan", "inf", "-inf"]

theorem scalar_mem_names {v : Value} {text : String} (hv : v.isReference = false)
    (hchosen : ¬ ∃ text, v = .text text ∨ v = .other text ∨ v = .plumbing text)
    (h : scalar limits v = .ok (.str text)) : text ∈ names := by
  cases v with
  | none =>
    cases h
    decide
  | bool b => cases h
  | int n => cases h
  | float x =>
    rw [scalar, Except.ok.injEq] at h
    split at h
    · contradiction
    · next hfinite =>
      injection h with h
      rw [← h]
      rw [Bool.not_eq_true] at hfinite
      exact List.mem_cons_of_mem _ (Binary64.toText_of_not_finite hfinite)
  | ref object => contradiction
  | unshown raised isUserObject => contradiction
  | text t => exact absurd ⟨t, .inl rfl⟩ hchosen
  | other t => exact absurd ⟨t, .inr (.inl rfl)⟩ hchosen
  | plumbing t => exact absurd ⟨t, .inr (.inr rfl)⟩ hchosen

theorem not_mistakes_of_own {heap : Heap} (hids : ∀ id ∈ heap.ids, ∃ n, id = idOf n) {text : String}
    (h : text ∈ names) : ¬ heap.Mistakes text := by
  have hstart : ∀ text ∈ names, text.toList.head? ≠ some 'o' := by decide
  have hmark : ∀ text ∈ names, text ≠ ValueKind.ellipsis := by decide
  rintro (heq | hknown)
  · exact hmark text h heq
  · rw [Heap.contains_iff] at hknown
    rcases hids text hknown with ⟨n, hn⟩
    exact idOf_ne (hstart text h) n hn.symm

/--
What an encoder shows of a value that no depth hides tells the kind of the value, unless the value is no
reference and its text reads like the mark of what is left out or like the id of an entry. If all entries
are the encoder's own, such a value has a text that the program chose.
-/
theorem kind_recovered_iff (memory : Memory) (limits : Limits) (s : Encoder) (visited : List String)
    (v : Value) (hdepth : 0 ≤ limits.maxDepth) (hmemory : v.isIn memory = true)
    (hvisited : ∀ id ∈ visited, id ∈ s.heap.ids) (json : Json)
    (hshown : (encode memory limits 0 (s.startDump visited) v).2 = .ok json) :
    let heap := (encode memory limits 0 (s.startDump visited) v).1.heap
    let kind := ValueKind.ofJson heap.contains json
    (v.Recovered kind
        ↔ v.isReference = true ∨ ∀ text, scalar limits v = .ok (.str text) → ¬ s.heap.Mistakes text)
      ∧ ((∀ id ∈ s.heap.ids, ∃ n, id = idOf n) →
          v.Recovered kind ∨ ∃ text, v = .text text ∨ v = .other text ∨ v = .plumbing text) := by
  intro heap kind
  by_cases hv : v.isReference = true
  · have hroom : roomAt limits 0 ≠ 0 := by
      rw [ne_eq, roomAt_eq_zero_iff]
      omega
    rcases id_mem_encodeWithin memory limits _ (s.startDump visited) v hroom hv hmemory hvisited hshown
      with ⟨n, hjson, hentry⟩
    -- No id reads like the mark, and the one that is shown has an entry.
    have hkind : kind = .reference := by
      have hmark : (idOf n == ValueKind.ellipsis) = false :=
        beq_eq_false_iff_ne.mpr (idOf_ne (by decide) n)
      have hknown := (Heap.contains_iff _ _).mpr hentry
      change ValueKind.ofJson _ json = _
      rw [hjson, ValueKind.ofJson, hmark, if_neg Bool.false_ne_true]
      exact if_pos hknown
    have hrecovered : v.Recovered kind := by
      rw [hkind]
      exact Value.recovered_of_reference hv
    exact ⟨iff_of_true hrecovered (.inl hv), fun _ => .inl hrecovered⟩
  · rw [Bool.not_eq_true] at hv
    have hresult : encode memory limits 0 (s.startDump visited) v = (s.startDump visited, scalar limits v) :=
      encodeWithin_of_not_reference memory limits _ _ hv
    have hscalar : scalar limits v = .ok json := by
      rw [← hshown, hresult]
    have hkind : kind = ValueKind.ofJson s.heap.contains json := by
      change ValueKind.ofJson (encode _ _ _ _ _).1.heap.contains json = _
      rw [hresult]
      rfl
    have hiff : v.Recovered kind
        ↔ ∀ text, scalar limits v = .ok (.str text) → ¬ s.heap.Mistakes text := by
      rw [hkind, hscalar]
      by_cases htext : ∃ text, json = .str text
      · rcases htext with ⟨text, rfl⟩
        rw [Value.recovered_text_iff hv]
        simp
      · rw [not_exists] at htext
        apply iff_of_true
        · exact Value.recovered_scalar hv hscalar htext
        · intro text heq
          exact absurd (Except.ok.inj heq) (htext text)
    refine ⟨?_, ?_⟩
    · rw [hiff, hv]
      simp
    · intro hids
      -- All other texts are names that neither the mark nor an id can be mistaken for.
      by_cases hchosen : ∃ text, v = .text text ∨ v = .other text ∨ v = .plumbing text
      · exact .inr hchosen
      · left
        rw [hiff]
        intro text htext
        exact not_mistakes_of_own hids (scalar_mem_names hv hchosen htext)

theorem kind_recovered_iff_alike :
    let memory : Memory := [("a", { typeName := "list", body := .elements [.ref "a", .text "obj0"] })]
    let limits : Limits := { maxDepth := 0, maxText := 4 }
    let s := (encode memory limits 0 (startDump {} []) (.ref "a")).1
    let kind := fun v json =>
      ValueKind.ofJson (encode memory limits 0 (s.startDump ["obj0"]) v).1.heap.contains json
    let shown : List (Value × Json) :=
      [(.ref "a", .str "obj0"), (.text "obj0", .str "obj0"), (.text "obj00", .str "obj0..."),
       (.text "Obj0", .str "Obj0"), (.none, .str "None"), (.bool true, .bool true)]
    0 ≤ limits.maxDepth ∧ (∀ p ∈ shown, p.1.isIn memory = true) ∧ (∀ id ∈ ["obj0"], id ∈ s.heap.ids)
      ∧ (∀ p ∈ shown, (encode memory limits 0 (s.startDump ["obj0"]) p.1).2.toOption = some p.2)
      ∧ shown.map (fun p => kind p.1 p.2) = [.reference, .reference, .text, .text, .text, .scalar]
      ∧ ∀ p ∈ shown,
          p.1.Recovered (kind p.1 p.2)
            ↔ p.1.isReference = true
              ∨ ∀ text, scalar limits p.1 = .ok (.str text) → ¬ s.heap.Mistakes text := by
  intro memory limits s kind shown
  have hdepth : 0 ≤ limits.maxDepth := by decide
  have hmemory : ∀ p ∈ shown, p.1.isIn memory = true := by decide
  have hvisited : ∀ id ∈ ["obj0"], id ∈ s.heap.ids := by decide +kernel
  have hanswers : ∀ p ∈ shown,
      (encode memory limits 0 (s.startDump ["obj0"]) p.1).2.toOption = some p.2 := by
    decide +kernel
  refine ⟨hdepth, hmemory, hvisited, hanswers, by decide +kernel, ?_⟩
  intro p hp
  have hshown := eq_ok_of_toOption (hanswers p hp)
  exact (kind_recovered_iff memory limits s ["obj0"] p.1 hdepth (hmemory p hp) hvisited p.2 hshown).1

/--
A text may be the id of an object that has been written down, and it may be the mark itself.
-/
theorem kind_recovered_fails :
    let memory : Memory := [("a", { typeName := "list", body := .elements [.int 1] })]
    let s := (encode memory {} 0 (startDump {} []) (.ref "a")).1
    let kind := fun v =>
      let result := encode memory {} 0 (s.startDump []) v
      result.2.toOption.map (ValueKind.ofJson result.1.heap.contains)
    kind (.text "obj0") = some .reference ∧ ¬ (Value.text "obj0").Recovered .reference
      ∧ kind (.text "...") = some .omitted ∧ ¬ (Value.text "...").Recovered .omitted := by
  intro memory s kind
  refine ⟨by decide +kernel, ?_, by decide +kernel, ?_⟩
  · intro h
    have := h.text "obj0" rfl
    contradiction
  · intro h
    exact h.omitted rfl

end Encoder

end Playback
