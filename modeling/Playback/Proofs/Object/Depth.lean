import Playback.Proofs.Object.Encoding

/-!
This module contains how deep a dump meets the objects that it writes down. A dump follows references
depth first and writes an object down for the place where it meets it first. An object that it meets
first at the deepest level is written down without its references, even if a variable leads straight to
it.
-/

namespace Playback

/--
The objects that a dump has met, the last one first. Each comes with the count of levels of references
that were left below it when it was met.
-/
abbrev Met := List (Handle × Nat)

/--
Follow a value depth first while levels are left, and meet every object once.
-/
def Value.follow (memory : Memory) (limits : Limits) : Nat → Met → Value → Met
  | room + 1, met, .ref object =>
    if (met.lookup object).isSome then met
    else
      ((memory.lookup object).elim [] (·.body.kept limits)).foldl (follow memory limits room)
        ((object, room) :: met)
  | _, met, _ => met

def followAll (memory : Memory) (limits : Limits) (values : List Value) : Met :=
  values.foldl (Value.follow memory limits (Encoder.roomAt limits 0)) []

section Follow

variable (memory : Memory) (limits : Limits)

theorem lookup_foldl {step : Met → Value → Met} {object : Handle} {left : Nat}
    (hstep : ∀ met v, met.lookup object = some left → (step met v).lookup object = some left)
    (values : List Value) {met : Met} (h : met.lookup object = some left) :
    (values.foldl step met).lookup object = some left := by
  induction values generalizing met with
  | nil => exact h
  | cons v values ih => exact ih (hstep met v h)

/-
Whatever a dump meets later, an object stays where it was met first.
-/
theorem lookup_follow {object : Handle} {left : Nat} (room : Nat) (met : Met) (v : Value)
    (h : met.lookup object = some left) :
    (v.follow memory limits room met).lookup object = some left := by
  induction room generalizing met v with
  | zero => exact h
  | succ room ih =>
    cases v with
    | ref target =>
      unfold Value.follow
      split
      · exact h
      · next hnew =>
        apply lookup_foldl ih
        have hne : (object == target) = false := by
          rw [beq_eq_false_iff_ne]
          rintro rfl
          exact hnew (by rw [h]; rfl)
        rw [List.lookup_cons, hne]
        exact h
    | _ => exact h

theorem isSome_lookup_follow (room : Nat) (met : Met) (target : Handle) :
    (((Value.ref target).follow memory limits (room + 1) met).lookup target).isSome := by
  unfold Value.follow
  split
  · next hmet => exact hmet
  · rw [lookup_foldl (lookup_follow memory limits room) _ List.lookup_cons_self]
    rfl

theorem isSome_lookup_foldl_follow {room : Nat} {values : List Value} {object : Handle}
    (h : .ref object ∈ values) (met : Met) :
    ((values.foldl (Value.follow memory limits (room + 1)) met).lookup object).isSome := by
  rcases List.append_of_mem h with ⟨before, after, rfl⟩
  rw [List.foldl_append, List.foldl_cons]
  rcases Option.isSome_iff_exists.mp (isSome_lookup_follow memory limits room _ object)
    with ⟨left, hleft⟩
  rw [lookup_foldl (lookup_follow memory limits (room + 1)) after hleft]
  rfl

end Follow

theorem Heap.get?_put (heap : Heap) (entry : HeapEntry) (id : String) :
    (heap.put entry).get? id = if entry.id = id then some entry else heap.get? id := by
  unfold get? put
  dsimp only
  induction heap.entries with
  | nil => by_cases h : entry.id = id <;> simp [putEntry, h]
  | cons e entries ih =>
    unfold putEntry
    by_cases hsame : e.id = entry.id
    · by_cases h : entry.id = id <;> simp [hsame, h]
    · rw [if_neg (by simpa using hsame), List.find?_cons, List.find?_cons, ih]
      by_cases h : e.id = id
      · have hne : entry.id ≠ id := by
          rintro rfl
          exact hsame h
        simp [h, hne]
      · simp only [beq_eq_false_iff_ne.mpr h]

namespace Encoder

def idOf? (s : Encoder) (object : Handle) : Option String :=
  (s.named.idxOf? object).map idOf

theorem idOf_injective {m n : Nat} (h : idOf m = idOf n) : m = n := by
  unfold idOf at h
  rw [String.append_right_inj] at h
  have hdigits : Nat.toDigits 10 m = Nat.toDigits 10 n := by
    simpa using congrArg String.toList h
  rw [← Nat.ofDigitChars_ten_toDigits (n := m), hdigits, Nat.ofDigitChars_ten_toDigits]

variable {s t : Encoder}

theorem eq_of_idOf? {a b : Handle} {id : String} (ha : s.idOf? a = some id) (hb : s.idOf? b = some id) :
    a = b := by
  unfold idOf? at ha hb
  rw [Option.map_eq_some_iff] at ha hb
  rcases ha with ⟨m, hm, rfl⟩
  rcases hb with ⟨n, hn, heq⟩
  rw [idOf_injective heq] at hn
  rw [List.idxOf?_eq_some_iff] at hm hn
  rcases hm with ⟨hlt, rfl, _⟩
  exact hn.2.1

theorem Extends.idOf? (h : s.Extends t) {object : Handle} {id : String}
    (hid : s.idOf? object = some id) : t.idOf? object = some id := by
  unfold Encoder.idOf? at hid ⊢
  rw [Option.map_eq_some_iff] at hid ⊢
  rcases hid with ⟨n, hn, rfl⟩
  rcases h.named with ⟨more, heq⟩
  refine ⟨n, ?_, rfl⟩
  rw [← heq, List.idxOf?, List.findIdx?_append]
  rw [List.idxOf?] at hn
  rw [hn, Option.some_or]

theorem idOf?_identify (s : Encoder) (object : Handle) :
    (s.identify object).1.idOf? object = some (s.identify object).2 := by
  unfold identify Encoder.idOf?
  cases hfind : s.named.idxOf? object with
  | none =>
    have hnew : (s.named ++ [object]).idxOf? object = some s.named.length := by
      rw [List.idxOf?] at hfind
      rw [List.idxOf?, List.findIdx?_append, hfind]
      simp
    rw [hnew]
    rfl
  | some n =>
    rw [hfind]
    rfl

theorem continues_identify (s : Encoder) (object : Handle) : s.Continues (s.identify object).1 := by
  rcases identify_spec s object with ⟨n, more, hidentify, _⟩
  rw [hidentify]
  exact .name s more

theorem visited_identify (s : Encoder) (object : Handle) :
    (s.identify object).1.visited = s.visited := by
  rcases identify_spec s object with ⟨n, more, hidentify, _⟩
  rw [hidentify]

theorem heap_identify (s : Encoder) (object : Handle) : (s.identify object).1.heap = s.heap := by
  rcases identify_spec s object with ⟨n, more, hidentify, _⟩
  rw [hidentify]

/--
What is shown of a value that an object holds, if as many levels of references are left below the
object. Where none is left, references are left out.
-/
inductive Appears (limits : Limits) (s : Encoder) : Nat → Value → Json → Prop where
  | omitted {object : Handle} : Appears limits s 0 (.ref object) (.str ValueKind.ellipsis)
  | reference {left : Nat} {object : Handle} {id : String} (h : s.idOf? object = some id) :
      Appears limits s (left + 1) (.ref object) (.str id)
  | scalar {left : Nat} {value : Value} {json : Json} (h : value.isReference = false)
      (hshown : scalar limits value = .ok json) : Appears limits s left value json

theorem Appears.mono {limits : Limits} {left : Nat} {value : Value} {json : Json}
    (hextends : s.Extends t) (h : s.Appears limits left value json) : t.Appears limits left value json := by
  cases h with
  | omitted => exact .omitted
  | reference h => exact .reference (hextends.idOf? h)
  | scalar h hshown => exact .scalar h hshown

def Writes (memory : Memory) (limits : Limits) (s : Encoder) (object : Handle) (left : Nat) : Prop :=
  ∀ found, memory.lookup object = some found →
    ∃ id entry, s.idOf? object = some id ∧ s.heap.get? id = some entry
      ∧ Displays limits (s.Appears limits left) found.body entry.value

theorem Extends.visit (s : Encoder) (visited : List String) : s.Extends { s with visited } where
  named := List.prefix_rfl
  ids := List.prefix_rfl
  distinct := id

variable {memory : Memory} {limits : Limits} {pending : List Handle} {met : Met}

theorem Writes.imp {object : Handle} {left : Nat} (hextends : s.Extends t)
    (hget : ∀ id, s.idOf? object = some id → t.heap.get? id = s.heap.get? id)
    (h : s.Writes memory limits object left) : t.Writes memory limits object left := by
  intro found hlookup
  rcases h found hlookup with ⟨id, entry, hid, hentry, hdisplays⟩
  refine ⟨id, entry, hextends.idOf? hid, ?_, ?_⟩
  · rw [hget id hid, hentry]
  · apply hdisplays.imp
    intro value json
    apply Appears.mono hextends

/--
What holds of an encoder while it follows values: it has visited what has been met, and has written down
all of it for the place where it was met, but for the pending objects.
-/
structure Follows (memory : Memory) (limits : Limits) (pending : List Handle) (met : Met)
    (s : Encoder) : Prop where
  visited : met.map (fun place => s.idOf? place.1) = s.visited.map some
  writes : ∀ object left, met.lookup object = some left → object ∉ pending →
    s.Writes memory limits object left

namespace Follows

theorem startDump (memory : Memory) (limits : Limits) (s : Encoder) :
    Follows memory limits [] [] (s.startDump []) where
  visited := rfl
  writes := by
    intro object left hlookup
    contradiction

/-
The ids of all that has been met are there, so naming more objects leaves them alone.
-/
theorem idOf?_eq (h : Follows memory limits pending met s) (hextends : s.Extends t) :
    met.map (fun place => t.idOf? place.1) = met.map (fun place => s.idOf? place.1) := by
  apply List.map_congr_left
  intro place hplace
  have hmem : s.idOf? place.1 ∈ s.visited.map some := by
    rw [← h.visited]
    exact List.mem_map_of_mem hplace
  rw [List.mem_map] at hmem
  rcases hmem with ⟨id, _, hid⟩
  rw [← hid, hextends.idOf? hid.symm]

theorem identify (h : Follows memory limits pending met s) (object : Handle) :
    Follows memory limits pending met (s.identify object).1 where
  visited := by
    rw [h.idOf?_eq (continues_identify s object).toExtends, h.visited, visited_identify]
  writes := by
    intro target left hlookup hdone
    apply (h.writes target left hlookup hdone).imp (continues_identify s object).toExtends
    intro id _
    rw [heap_identify]

theorem contains_visited_iff (h : Follows memory limits pending met s) {object : Handle} {id : String}
    (hid : s.idOf? object = some id) : s.visited.contains id = (met.lookup object).isSome := by
  have hvisited : id ∈ s.visited ↔ some id ∈ met.map (fun place => s.idOf? place.1) := by
    rw [h.visited]
    simp
  rw [Bool.eq_iff_iff, List.contains_iff_mem, List.lookup_isSome_iff, hvisited, List.mem_map]
  constructor
  · rintro ⟨place, hplace, heq⟩
    refine ⟨place, hplace, ?_⟩
    rw [beq_iff_eq]
    exact eq_of_idOf? hid heq
  · rintro ⟨place, hplace, heq⟩
    rw [beq_iff_eq] at heq
    exact ⟨place, hplace, by rw [← heq, hid]⟩

/-
An object that is met is pending at first.
-/
theorem visit (h : Follows memory limits pending met s) {object : Handle} {id : String}
    (hid : s.idOf? object = some id) (left : Nat) :
    Follows memory limits (object :: pending) ((object, left) :: met)
      { s with visited := id :: s.visited } where
  visited := by
    rw [List.map_cons, List.map_cons, ← h.visited, ← hid]
    rfl
  writes := by
    intro target room hlookup hdone
    rw [List.mem_cons, not_or] at hdone
    rw [List.lookup_cons, beq_eq_false_iff_ne.mpr hdone.1] at hlookup
    exact (h.writes target room hlookup hdone.2).imp (.visit s _) fun _ _ => rfl

theorem missing {object : Handle} (h : Follows memory limits (object :: pending) met s)
    (hlookup : memory.lookup object = none) : Follows memory limits pending met s where
  visited := h.visited
  writes := by
    intro target left htarget hdone
    by_cases heq : target = object
    · intro found hfound
      rw [heq, hlookup] at hfound
      contradiction
    · exact h.writes target left htarget (by simp [heq, hdone])

/-
The entry of the object that was pending leaves the entries of all others alone.
-/
theorem put {object : Handle} {left : Nat} {found : Object} {entry : HeapEntry}
    (h : Follows memory limits (object :: pending) met s) (hlookup : memory.lookup object = some found)
    (hid : s.idOf? object = some entry.id) (hmet : met.lookup object = some left)
    (hdisplays : Displays limits (s.Appears limits left) found.body entry.value) :
    Follows memory limits pending met { s with heap := s.heap.put entry } where
  visited := by
    rw [h.idOf?_eq (.put s entry), h.visited]
  writes := by
    intro target room htarget hdone
    by_cases heq : target = object
    · subst heq
      rw [hmet, Option.some_inj] at htarget
      subst htarget
      intro found' hlookup'
      rw [hlookup, Option.some_inj] at hlookup'
      subst hlookup'
      refine ⟨entry.id, entry, hid, ?_, ?_⟩
      · rw [Heap.get?_put, if_pos rfl]
      · apply hdisplays.imp
        intro value json
        apply Appears.mono (.put s entry)
    · have hwrites := h.writes target room htarget (by simp [heq, hdone])
      apply hwrites.imp (.put s entry)
      intro id hid'
      rw [Heap.get?_put, if_neg]
      intro hsame
      rw [← hsame] at hid'
      exact heq (eq_of_idOf? hid' hid)

end Follows

theorem encodeWithin_follow (memory : Memory) (limits : Limits) (room : Nat) (pending : List Handle)
    (met : Met) (s : Encoder) (v : Value) (h : Follows memory limits pending met s) :
    s.Continues (encodeWithin memory limits room s v).1
      ∧ Results
          (fun t json => Follows memory limits pending (v.follow memory limits room met) t
            ∧ t.Appears limits room v json)
          (fun _ => True) (encodeWithin memory limits room s v) := by
  have hplain : ∀ pending met s room v, Follows memory limits pending met s → v.isReference = false →
      Results (fun t json => Follows memory limits pending met t ∧ t.Appears limits room v json)
        (fun _ => True) (s, scalar limits v) := by
    intro pending met s room v h hv
    apply results_scalar _ trivial
    intro json hshown
    exact ⟨h, .scalar hv hshown⟩
  induction room generalizing pending met s v with
  | zero =>
    cases v with
    | ref object => exact ⟨.refl s, h, .omitted⟩
    | _ => exact ⟨.refl s, hplain pending met s 0 _ h rfl⟩
  | succ room ih =>
    cases v with
    | ref object =>
      -- While its values are followed, the object is pending.
      have hnew := h.identify object
      have hid := idOf?_identify s object
      have hcontinues := continues_identify s object
      unfold encodeWithin Value.follow
      dsimp only
      rw [hnew.contains_visited_iff hid]
      split
      · exact ⟨hcontinues, hnew, .reference hid⟩
      · next hfresh =>
        have hvisit := hnew.visit hid room
        have hnext := hcontinues.trans (.visit _ (s.identify object).2)
        cases hlookup : memory.lookup object with
        | none => exact ⟨hnext, hvisit.missing hlookup, .reference hid⟩
        | some found =>
          rcases encodeBody_spec limits (J := fun _ => True) (R := fun t => t.Appears limits room) Appears.mono
            (fun _ _ _ => trivial) found.body (fun v _ met s => ih (object :: pending) met s v) _ _ hvisit
            with ⟨hinner, hresults⟩
          dsimp only
          split
          · next hbroken =>
            rw [hbroken] at hinner
            exact ⟨hnext.trans hinner, trivial⟩
          · next t value hshown =>
            rw [hshown] at hinner hresults
            rcases hresults with ⟨hlast, hdisplays⟩
            have hname := hinner.idOf? hid
            have hhere : ((object, room) :: met).lookup object = some room := List.lookup_cons_self
            have hmet := lookup_foldl (lookup_follow memory limits room) (found.body.kept limits) hhere
            exact ⟨(hnext.trans hinner).trans (.put _ _), hlast.put hlookup hname hmet hdisplays,
              .reference hname⟩
    | _ => exact ⟨.refl s, hplain pending met s (room + 1) _ h rfl⟩

end Encoder

namespace Body

/--
The values of an object that are shown. Of several entries under one key the last one is.
-/
def shown (limits : Limits) : Body → List Value
  | .elements items => Text.takeUpTo limits.maxItems items
  | .entries pairs =>
    (latest Prod.fst (namedEntries (Text.takeUpTo limits.maxItems pairs))).map Prod.snd
  | .fields pairs =>
    (latest Prod.fst
      (Text.takeUpTo limits.maxItems (pairs.filter fun pair => !"__".isPrefixOf pair.1))).map Prod.snd

end Body

def Json.parts : Json → List Json
  | .arr items => items
  | .obj fields => fields.map Prod.snd
  | _ => []

theorem Displays.forall₂_parts {limits : Limits} {stands : Value → Json → Prop} {body : Body}
    {json : Json} (h : Displays limits stands body json) :
    List.Forall₂ stands (body.shown limits) json.parts := by
  cases h with
  | elements h => exact h
  | entries _ h =>
    unfold Body.shown Json.parts
    rw [List.forall₂_map_left_iff, List.forall₂_map_right_iff]
    exact h.imp fun _ _ hnamed => hnamed.2
  | fields h =>
    unfold Body.shown Json.parts
    rw [List.forall₂_map_left_iff, List.forall₂_map_right_iff]
    exact h.imp fun _ _ hnamed => hnamed.2

namespace Encoder

variable {limits : Limits} {s : Encoder}

/--
Whether a value that is a reference is shown by the id of its object.
-/
def Refers (s : Encoder) (value : Value) (json : Json) : Prop :=
  ∀ object, value = .ref object → ∃ id, s.idOf? object = some id ∧ json = .str id

theorem idOf?_ne_ellipsis (s : Encoder) (object : Handle) : s.idOf? object ≠ some ValueKind.ellipsis := by
  unfold idOf?
  rw [ne_eq, Option.map_eq_some_iff]
  rintro ⟨n, _, heq⟩
  have := congrArg String.toList heq
  simp [idOf, ValueKind.ellipsis] at this

theorem Appears.refers {left : Nat} {value : Value} {json : Json} (hleft : left ≠ 0)
    (h : s.Appears limits left value json) : s.Refers value json := by
  cases h with
  | omitted => contradiction
  | @reference _ object id h =>
    intro target heq
    rw [Value.ref.injEq] at heq
    exact ⟨id, by rw [← heq, h], rfl⟩
  | scalar h =>
    rintro target rfl
    contradiction

theorem Appears.isReference_eq_false {value : Value} {json : Json} (h : s.Appears limits 0 value json)
    (hrefers : s.Refers value json) : value.isReference = false := by
  cases h with
  | omitted =>
    rcases hrefers _ rfl with ⟨id, hid, heq⟩
    rw [Json.str.injEq] at heq
    rw [← heq] at hid
    exact absurd hid (idOf?_ne_ellipsis s _)
  | scalar h => exact h

/-
With no level left below an object, all of its references are shown only if it has none.
-/
theorem refers_iff_of_appears {left : Nat} {values : List Value} {parts : List Json}
    (h : List.Forall₂ (s.Appears limits left) values parts) :
    List.Forall₂ s.Refers values parts ↔ left ≠ 0 ∨ ∀ v ∈ values, v.isReference = false := by
  constructor
  · intro hall
    by_cases hleft : left = 0
    · subst hleft
      have hnone : List.Forall₂ (fun v _ => v.isReference = false ∧ True) values parts :=
        List.Forall₂.mp (fun _ _ happears hrefers => ⟨happears.isReference_eq_false hrefers, trivial⟩)
          h hall
      rw [List.forall₂_and_left] at hnone
      exact .inr hnone.1
    · exact .inl hleft
  · rintro (hleft | hnone)
    · exact h.imp fun _ _ happears => happears.refers hleft
    · have hboth := (List.forall₂_and_left values parts).mpr ⟨hnone, h⟩
      apply hboth.imp
      rintro v json ⟨hv, _⟩ object rfl
      contradiction

/--
The entry of an object that a variable leads to shows the values of the object as far as the dump had
levels left where it met the object first. So it shows every reference by an id, unless the dump met the
object at the deepest level and the object has references. All of this is about dumps that no error
breaks off.
-/
theorem entry_refers_iff (memory : Memory) (limits : Limits) (s : Encoder) (values : List Value)
    (hdepth : 0 ≤ limits.maxDepth) (object : Handle) (found : Object)
    (hvalue : .ref object ∈ values) (hlookup : memory.lookup object = some found)
    (hdone : (mapUntil (encode memory limits 0) (s.startDump []) values).2.isOk) :
    let t := (mapUntil (encode memory limits 0) (s.startDump []) values).1
    ∃ id entry left,
      t.idOf? object = some id ∧ t.heap.get? id = some entry
        ∧ (followAll memory limits values).lookup object = some left
        ∧ Displays limits (t.Appears limits left) found.body entry.value
        ∧ (List.Forall₂ t.Refers (found.body.shown limits) entry.value.parts
            ↔ left ≠ 0 ∨ ∀ v ∈ found.body.shown limits, v.isReference = false) := by
  intro t
  have hroom : ∃ room, roomAt limits 0 = room + 1 := ⟨limits.maxDepth.toNat, by unfold roomAt; omega⟩
  rcases hroom with ⟨room, hroom⟩
  have hstep : ∀ v ∈ values, ∀ met u, Follows memory limits [] met u →
      u.Continues (encode memory limits 0 u v).1
        ∧ Results
            (fun t json => Follows memory limits [] (v.follow memory limits (roomAt limits 0) met) t
              ∧ t.Appears limits (roomAt limits 0) v json)
            (fun _ => True) (encode memory limits 0 u v) := by
    intro v _ met u
    exact encodeWithin_follow memory limits (roomAt limits 0) [] met u v
  have hall := mapUntil_history (R := fun u => Appears limits u (roomAt limits 0)) Continues.refl
    Continues.trans (fun hcontinues => Appears.mono hcontinues.toExtends) values hstep [] _
    (.startDump memory limits s)
  rcases hall.2.of_isOk hdone with ⟨shown, _, hfollows, _⟩
  -- The variable is followed, so its object is met at some level.
  have hmet : ((followAll memory limits values).lookup object).isSome := by
    unfold followAll
    rw [hroom]
    exact isSome_lookup_foldl_follow memory limits hvalue []
  rcases Option.isSome_iff_exists.mp hmet with ⟨left, hleft⟩
  rcases hfollows.writes object left hleft List.not_mem_nil found hlookup
    with ⟨id, entry, hid, hentry, hdisplays⟩
  exact ⟨id, entry, left, hid, hentry, hleft, hdisplays, refers_iff_of_appears hdisplays.forall₂_parts⟩

theorem entry_refers_iff_shared :
    let memory : Memory :=
      [("a", { typeName := "list", body := .elements [.ref "b", .int 1] }),
       ("b", { typeName := "dict", body := .entries [(.text "c", .ref "c"), (.none, .ref "a")] }),
       ("c", { typeName := "Node", body := .fields [("next", .ref "a"), ("__tag", .ref "b")] })]
    let limits : Limits := { maxDepth := 1 }
    let values : List Value := [.text "x", .ref "c", .ref "b", .ref "a"]
    let dumped := mapUntil (encode memory limits 0) (startDump {} []) values
    let t := dumped.1
    (0 : Int) ≤ 1 ∧ .ref "a" ∈ values
      ∧ (memory.lookup "a").isSome
      ∧ dumped.2.toOption = some [.str "x", .str "obj0", .str "obj2", .str "obj1"]
      ∧ t.heap.get? "obj1" = some { id := "obj1", type := "list", value := .arr [.str "...", .int 1] }
      ∧ t.heap.get? "obj2"
        = some { id := "obj2", type := "dict", value := .obj [("c", .str "obj0"), ("None", .str "obj1")] }
      ∧ ∃ id entry left,
        t.idOf? "a" = some id ∧ t.heap.get? id = some entry
          ∧ (followAll memory limits values).lookup "a" = some left
          ∧ Displays limits (t.Appears limits left) (.elements [.ref "b", .int 1]) entry.value
          ∧ (List.Forall₂ t.Refers [.ref "b", .int 1] entry.value.parts
              ↔ left ≠ 0 ∨ ∀ v ∈ [Value.ref "b", .int 1], v.isReference = false) := by
  intro memory limits values dumped t
  refine ⟨by decide, by decide, by decide, by decide +kernel, by decide +kernel, by decide +kernel, ?_⟩
  exact entry_refers_iff memory limits {} values (by decide) "a"
    { typeName := "list", body := .elements [.ref "b", .int 1] } (by decide) rfl
    (by decide +kernel)

/--
The first variable leads to the object of the second one at the deepest level, so the entry of the second
one leaves out what is right below it.
-/
theorem entry_refers_fails :
    let memory : Memory :=
      [("a", { typeName := "list", body := .elements [.ref "b"] }),
       ("b", { typeName := "list", body := .elements [.ref "c"] }),
       ("c", { typeName := "list", body := .elements [.ref "d"] }),
       ("d", { typeName := "list", body := .elements [.ref "e"] }),
       ("e", { typeName := "list", body := .elements [.int 1] })]
    let t := (mapUntil (encode memory {} 0) (startDump {} []) [.ref "a", .ref "d"]).1
    t.idOf? "d" = some "obj3"
      ∧ t.heap.get? "obj3" = some { id := "obj3", type := "list", value := .arr [.str "..."] }
      ∧ ¬ List.Forall₂ t.Refers [.ref "e"] [.str "..."] := by
  intro memory t
  refine ⟨by decide +kernel, by decide +kernel, ?_⟩
  intro h
  cases h with
  | cons hhead _ =>
    rcases hhead "e" rfl with ⟨id, hid, heq⟩
    rw [Json.str.injEq] at heq
    rw [← heq] at hid
    exact idOf?_ne_ellipsis t "e" hid

end Encoder

end Playback
