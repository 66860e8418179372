import Playback.Proofs.Json.Reading

/-!
This module contains the proof that a value is read again from its own text, if it holds no floating point
number, no whole number of too many digits and no name twice.
-/

namespace Playback.Json

open Text Reader

/--
A value that its own text can stand for: a whole number is as it was when it is read, but a floating point
number may not be, and of two fields of one name only one is kept.
-/
inductive Plain : Json → Prop where
  | null : Plain .null
  | bool (b : Bool) : Plain (.bool b)
  | int (n : Int) : Plain (.int n)
  | str (s : String) : Plain (.str s)
  | arr {items : List Json} (h : ∀ item ∈ items, Plain item) : Plain (.arr items)
  | obj {fields : Fields} (hnames : (fields.map Prod.fst).Nodup)
      (h : ∀ field ∈ fields, Plain field.2) : Plain (.obj fields)

theorem plain_arr_iff {items : List Json} : Plain (.arr items) ↔ ∀ item ∈ items, Plain item :=
  ⟨fun | .arr h => h, .arr⟩

theorem plain_obj_iff {fields : Fields} :
    Plain (.obj fields) ↔ (fields.map Prod.fst).Nodup ∧ ∀ field ∈ fields, Plain field.2 :=
  ⟨fun | .obj hnames h => ⟨hnames, h⟩, fun h => .obj h.1 h.2⟩

def gapAt (layout : Writer.Layout) (level : Nat) : List Char :=
  (layout.lineBreak level).toList

def pauseAt (layout : Writer.Layout) (level : Nat) : List Char :=
  match layout with
  | .flat => [' ']
  | .indented _ => gapAt layout level

theorem isGap_gapAt (layout : Writer.Layout) (level : Nat) : IsGap (gapAt layout level) := by
  unfold gapAt Writer.Layout.lineBreak
  cases layout with
  | flat => exact isGap_nil
  | indented width =>
    intro c hc
    rw [String.toList_append, List.mem_append] at hc
    rcases hc with hbreak | hblank
    · exact .inr (List.mem_singleton.mp hbreak)
    · rw [String.toList_ofList] at hblank
      exact .inl (List.eq_of_mem_replicate hblank)

theorem isGap_pauseAt (layout : Writer.Layout) (level : Nat) : IsGap (pauseAt layout level) := by
  cases layout with
  | flat => simp [IsGap, pauseAt]
  | indented width => exact isGap_gapAt _ level

theorem ends_gapAt (layout : Writer.Layout) (level : Nat) {c : Char} (hc : c = ']' ∨ c = '\x7d')
    (rest : List Char) : Ends (gapAt layout level ++ c :: rest) := by
  unfold Ends gapAt Writer.Layout.lineBreak
  cases layout with
  | flat => rcases hc with rfl | rfl <;> simp
  | indented width => simp

def written (layout : Writer.Layout) (level : Nat) (json : Json) : List Char :=
  (Writer.value layout level json).toList

def writtenItems (layout : Writer.Layout) (level : Nat) (items : List Json) : List Char :=
  (Writer.restItems layout level items).toList

def writtenFields (layout : Writer.Layout) (level : Nat) (fields : Fields) : List Char :=
  (Writer.restFields layout level fields).toList

section Written

variable (layout : Writer.Layout) (level : Nat)

theorem toList_separator : (layout.separator level).toList = ',' :: pauseAt layout level := by
  unfold Writer.Layout.separator pauseAt gapAt
  cases layout with
  | flat => simp
  | indented width => simp

theorem written_arr (item : Json) (items : List Json) :
    written layout level (.arr (item :: items))
      =
    '[' :: (gapAt layout (level + 1) ++ (written layout (level + 1) item
      ++ (writtenItems layout (level + 1) items ++ (gapAt layout level ++ [']'])))) := by
  simp [written, writtenItems, Writer.value, gapAt]

theorem written_obj (name : String) (item : Json) (fields : Fields) :
    written layout level (.obj ((name, item) :: fields))
      =
    '\x7b' :: (gapAt layout (level + 1) ++ ((Writer.string name).toList
      ++ ':' :: ' ' :: (written layout (level + 1) item
        ++ (writtenFields layout (level + 1) fields ++ (gapAt layout level ++ ['\x7d']))))) := by
  simp [written, writtenFields, Writer.value, gapAt]

theorem writtenItems_cons (item : Json) (items : List Json) :
    writtenItems layout level (item :: items)
      =
    ',' :: (pauseAt layout level ++ (written layout level item ++ writtenItems layout level items)) := by
  simp [written, writtenItems, Writer.restItems, toList_separator]

theorem writtenFields_cons (name : String) (item : Json) (fields : Fields) :
    writtenFields layout level ((name, item) :: fields)
      =
    ',' :: (pauseAt layout level ++ ((Writer.string name).toList
      ++ ':' :: ' ' :: (written layout level item ++ writtenFields layout level fields))) := by
  simp [written, writtenFields, Writer.restFields, toList_separator]

end Written

structure Reads (layout : Writer.Layout) (json : Json) : Prop where
  head : ∀ level, ∃ c cs, written layout level json = c :: cs ∧ Opens c
  value : ∀ level fuel position rest, Ends rest → 2 * (written layout level json).length ≤ fuel →
    Reader.value fuel ⟨position, written layout level json ++ rest⟩
      =
    .ok (json, ⟨position + (written layout level json).length, rest⟩)

theorem reads_iff {layout : Writer.Layout} {json : Json} :
    Reads layout json ↔ ∀ level, Stands (written layout level json) json :=
  ⟨fun h level => ⟨h.head level, h.value level⟩,
    fun h => ⟨fun level => (h level).head, fun level => (h level).value⟩⟩

theorem writtenItems_eq_separated (layout : Writer.Layout) (level : Nat) (items : List Json) :
    writtenItems layout level items
      =
    separated (pauseAt layout level) (items.map (written layout level)) := by
  induction items with
  | nil => rfl
  | cons item items ih => rw [writtenItems_cons, ih, List.map_cons, separated_cons]

def writtenField (layout : Writer.Layout) (level : Nat) (field : String × Json) : List Char :=
  (Writer.string field.1).toList ++ ':' :: ' ' :: written layout level field.2

theorem writtenFields_eq_separated (layout : Writer.Layout) (level : Nat) (fields : Fields) :
    writtenFields layout level fields
      =
    separated (pauseAt layout level) (fields.map (writtenField layout level)) := by
  induction fields with
  | nil => rfl
  | cons field fields ih =>
    rw [writtenFields_cons, ih, List.map_cons, separated_cons, writtenField, List.append_assoc]
    rfl

section Parts

variable {layout : Writer.Layout}

theorem reads_null : Reads layout .null := by
  rw [reads_iff]
  intro level
  rw [written, Writer.value]
  exact stands_of_word 'n' ['u', 'l', 'l'] (by decide) (fun _ _ _ => rfl)

theorem reads_bool (b : Bool) : Reads layout (.bool b) := by
  rw [reads_iff]
  intro level
  cases b with
  | false =>
    rw [written, Writer.value]
    exact stands_of_word 'f' ['a', 'l', 's', 'e'] (by decide) (fun _ _ _ => rfl)
  | true =>
    rw [written, Writer.value]
    exact stands_of_word 't' ['r', 'u', 'e'] (by decide) (fun _ _ _ => rfl)

theorem reads_int {n : Int} (h : (Nat.toDigits 10 n.natAbs).length ≤ maxDigits) :
    Reads layout (.int n) := by
  rw [reads_iff]
  intro level
  rw [written, Writer.value]
  exact stands_int h

theorem reads_str (s : String) : Reads layout (.str s) := by
  rw [reads_iff]
  intro level
  rw [written, Writer.value]
  exact (quotes_string s).stands

theorem reads_arr {items : List Json} (h : ∀ item ∈ items, Reads layout item) :
    Reads layout (.arr items) := by
  rw [reads_iff]
  intro level
  cases items with
  | nil =>
    rw [written, Writer.value]
    exact stands_of_word '[' [']'] (by decide) (fun _ _ _ => rfl)
  | cons item items =>
    rw [List.forall_mem_cons] at h
    rw [written_arr, writtenItems_eq_separated]
    apply stands_arr (isGap_gapAt layout _) (isGap_pauseAt layout _) (isGap_gapAt layout _)
    · exact ends_gapAt layout level (.inl rfl)
    · exact reads_iff.mp h.1 _
    · rw [List.forall₂_map_left_iff, List.forall₂_same]
      intro item hitem
      exact reads_iff.mp (h.2 item hitem) _

theorem standsField_writtenField {field : String × Json} (h : Reads layout field.2) (level : Nat) :
    StandsField (writtenField layout level field) field :=
  .mk (quotes_string field.1) (by simp [IsGap] : IsGap [' ']) (reads_iff.mp h level)

theorem reads_obj {fields : Fields} (hnames : (fields.map Prod.fst).Nodup)
    (h : ∀ field ∈ fields, Reads layout field.2) : Reads layout (.obj fields) := by
  rw [reads_iff]
  intro level
  cases fields with
  | nil =>
    rw [written, Writer.value]
    exact stands_of_word '\x7b' ['\x7d'] (by decide) (fun _ _ _ => rfl)
  | cons field fields =>
    have htext : written layout level (.obj (field :: fields))
        = '\x7b' :: (gapAt layout (level + 1) ++ (writtenField layout (level + 1) field
          ++ (separated (pauseAt layout (level + 1)) (fields.map (writtenField layout (level + 1)))
            ++ (gapAt layout level ++ ['\x7d'])))) := by
      rw [written_obj, writtenFields_eq_separated, writtenField, List.append_assoc]
      rfl
    rw [List.forall_mem_cons] at h
    rw [htext]
    apply stands_obj (isGap_gapAt layout _) (isGap_pauseAt layout _) (isGap_gapAt layout _)
    · exact ends_gapAt layout level (.inr rfl)
    · exact hnames
    · exact standsField_writtenField h.1 _
    · rw [List.forall₂_map_left_iff, List.forall₂_same]
      intro field hfield
      exact standsField_writtenField (h.2 field hfield) _

end Parts

theorem areWritable_iff (items : List Json) :
    areWritable items = true ↔ ∀ item ∈ items, item.isWritable = true := by
  induction items with
  | nil => simp [areWritable]
  | cons item items ih => rw [areWritable, Bool.and_eq_true, ih, List.forall_mem_cons]

theorem haveWritable_iff (fields : Fields) :
    haveWritable fields = true ↔ ∀ field ∈ fields, field.2.isWritable = true := by
  induction fields with
  | nil => simp [haveWritable]
  | cons field fields ih => rw [haveWritable, Bool.and_eq_true, ih, List.forall_mem_cons]

theorem reads_of_plain (layout : Writer.Layout) {json : Json} (h : Plain json)
    (hwritable : json.isWritable = true) : Reads layout json := by
  induction h with
  | null => exact reads_null
  | bool b => exact reads_bool b
  | int n =>
    rw [isWritable, decide_eq_true_eq] at hwritable
    exact reads_int hwritable
  | str s => exact reads_str s
  | arr h ih =>
    rw [isWritable, areWritable_iff] at hwritable
    apply reads_arr
    intro item hitem
    exact ih item hitem (hwritable item hitem)
  | obj hnames h ih =>
    rw [isWritable, haveWritable_iff] at hwritable
    apply reads_obj hnames
    intro field hfield
    exact ih field hfield (hwritable field hfield)

/--
What is read from the text of a value is the value, however the text is indented.
-/
theorem read_write (indent : Option Int) {json : Json} (h : Plain json)
    (hwritable : json.isWritable = true) : read (json.write indent) = .ok json :=
  (reads_iff.mp (reads_of_plain (.ofIndent indent) h hwritable) 0).read

/--
Whether a value can be written and is read again as it was.
-/
def Survives (json : Json) : Prop :=
  ∃ text, json.write? none = .ok text ∧ Json.read text = .ok json

theorem survives_iff {json : Json} (h : json.Plain) : json.Survives ↔ json.isWritable = true := by
  unfold Survives write?
  constructor
  · rintro ⟨text, hwrite, _⟩
    split at hwrite
    · next hwritable => exact hwritable
    · contradiction
  · intro hwritable
    rw [if_pos hwritable]
    exact ⟨_, rfl, read_write none h hwritable⟩

/--
A property that texts have, and containers if all that they hold has it.
-/
structure Admits (P : Json → Prop) : Prop where
  str : ∀ s, P (.str s)
  arr : ∀ items, (∀ item ∈ items, P item) → P (.arr items)
  obj : ∀ fields : Fields, (fields.map Prod.fst).Nodup → (∀ field ∈ fields, P field.2) → P (.obj fields)

theorem admits_plain : Admits Plain where
  str := .str
  arr _ h := .arr h
  obj _ hnames h := .obj hnames h

theorem admits_isWritable : Admits fun json => json.isWritable = true where
  str _ := rfl
  arr items h := by
    rw [isWritable, areWritable_iff]
    exact h
  obj fields _ h := by
    rw [isWritable, haveWritable_iff]
    exact h

end Playback.Json
