import Playback.Proofs.Json.Escapes
import Playback.Proofs.Text.Blank

/-!
This module contains the forms in which traced programs print texts, objects and lines, and the proof that
the reader of records reads from them what has been printed.
-/

namespace Playback

namespace Emitter

open Json

/--
The form of one character between quotes. Characters that are not ASCII are printed as they are.
-/
def escape (c : Char) : List Char :=
  if c == '"' || c == '\\' then ['\\', c]
  else if c == '\n' then ['\\', 'n']
  else if c == '\r' then ['\\', 'r']
  else if c == '\t' then ['\\', 't']
  else if c.toNat < 0x20 then Writer.escapeUnit c.toNat
  else [c]

def quoted (s : String) : String :=
  String.ofList ('"' :: s.toList.flatMap escape ++ ['"'])

inductive Item where
  | int (n : Int)
  | text (s : String)
deriving DecidableEq

namespace Item

def shown : Item → String
  | .int n => toString n
  | .text s => quoted s

def toJson : Item → Json
  | .int n => .int n
  | .text s => .str s

end Item

def listed (items : List Item) : String :=
  "[" ++ ",".intercalate (items.map Item.shown) ++ "]"

def payload (type : String) (items : List Item) : String :=
  "\x7b\"type\":" ++ quoted type ++ ",\"value\":" ++ listed items ++ "\x7d"

def returns (count : Nat) : String :=
  String.ofList (List.replicate count '\r')

theorem escaping_escape : Escaping escape where
  ne_nil c := by
    unfold escape
    iterate 5
      split
      · exact List.cons_ne_nil _ _
    exact List.cons_ne_nil _ _
  stringBody opening fuel done position c rest hrest := by
    unfold escape
    split
    · next h =>
      rw [Bool.or_eq_true, beq_iff_eq, beq_iff_eq] at h
      rcases h with rfl | rfl
      · rfl
      · rfl
    split
    · next h =>
      rw [eq_of_beq h]
      rfl
    split
    · next h =>
      rw [eq_of_beq h]
      rfl
    split
    · next h =>
      rw [eq_of_beq h]
      rfl
    -- Of the control characters that are left, the digits are read.
    split
    · next h =>
      rw [length_escapeUnit (by omega)]
      exact stringBody_unit opening fuel done position (by omega) hrest
    · next hquote _ _ _ hplain =>
      rw [Bool.or_eq_true, beq_iff_eq, beq_iff_eq, not_or] at hquote
      exact stringBody_plain opening fuel done position hquote.1 hquote.2 hplain rest

theorem toList_quoted (s : String) : (quoted s).toList = '"' :: s.toList.flatMap escape ++ ['"'] :=
  String.toList_ofList

theorem quotes_quoted (s : String) : Quotes (quoted s).toList s := by
  rw [toList_quoted]
  exact escaping_escape.quotes s

theorem stands_shown {item : Item}
    (h : ∀ n, item = .int n → (Nat.toDigits 10 n.natAbs).length ≤ Text.maxDigits) :
    Stands item.shown.toList item.toJson := by
  cases item with
  | int n => exact stands_int (h n rfl)
  | text s => exact (quotes_quoted s).stands

theorem toList_intercalate_shown (item : Item) (items : List Item) :
    (",".intercalate ((item :: items).map Item.shown)).toList
      =
    item.shown.toList ++ separated [] (items.map fun item => item.shown.toList) := by
  induction items generalizing item with
  | nil => simp [separated]
  | cons next items ih =>
    rw [List.map_cons, List.map_cons, String.intercalate_cons_cons, ← List.map_cons, String.toList_append,
      String.toList_append, ih, List.map_cons, separated_cons, List.append_assoc]
    rfl

/--
Whether a text has no control character in it, so that it stays on its line.
-/
def OnLine (cs : List Char) : Prop :=
  ∀ c ∈ cs, 0x20 ≤ c.toNat

instance (cs : List Char) : Decidable (OnLine cs) :=
  inferInstanceAs (Decidable (∀ c ∈ cs, 0x20 ≤ c.toNat))

theorem onLine_append {cs ds : List Char} : OnLine (cs ++ ds) ↔ OnLine cs ∧ OnLine ds :=
  List.forall_mem_append

theorem onLine_escape (c : Char) : OnLine (escape c) := by
  have hchars : ∀ d ∈ escapeChars, 0x20 ≤ d.toNat := by decide
  unfold escape
  split
  · next h =>
    rw [Bool.or_eq_true, beq_iff_eq, beq_iff_eq] at h
    rcases h with rfl | rfl
    · decide
    · decide
  split
  · decide
  split
  · decide
  split
  · decide
  split
  · next h =>
    intro d hd
    exact hchars d (mem_escapeUnit (by omega) d hd)
  · next h =>
    intro d hd
    rw [List.mem_singleton] at hd
    rw [hd]
    omega

theorem onLine_quoted (s : String) : OnLine (quoted s).toList := by
  rw [toList_quoted, onLine_append]
  refine ⟨?_, by decide⟩
  intro d hd
  rw [List.mem_cons, List.mem_flatMap] at hd
  rcases hd with rfl | ⟨c, _, hd⟩
  · decide
  · exact onLine_escape c d hd

theorem onLine_shown (item : Item) : OnLine item.shown.toList := by
  cases item with
  | int n =>
    intro c hc
    rcases mem_toString hc with hdigit | rfl
    · have hrange : 48 ≤ c.toNat ∧ c.toNat ≤ 57 := by
        rw [Char.isDigit_iff_toNat] at hdigit
        exact hdigit
      omega
    · decide
  | text s => exact onLine_quoted s

theorem onLine_listed (items : List Item) : OnLine (listed items).toList := by
  rw [listed, String.toList_append, String.toList_append, onLine_append, onLine_append]
  refine ⟨⟨by decide, ?_⟩, by decide⟩
  cases items with
  | nil => decide
  | cons item items =>
    rw [toList_intercalate_shown, onLine_append]
    refine ⟨onLine_shown item, ?_⟩
    intro c hc
    simp only [separated, List.nil_append, List.mem_flatMap, List.mem_map, List.mem_cons] at hc
    rcases hc with ⟨_, ⟨next, _, rfl⟩, rfl | hc⟩
    · decide
    · exact onLine_shown next c hc

theorem onLine_payload (type : String) (items : List Item) : OnLine (payload type items).toList := by
  simp only [payload, String.toList_append, onLine_append]
  exact ⟨⟨⟨⟨by decide, onLine_quoted type⟩, by decide⟩, onLine_listed items⟩, by decide⟩

/--
A name that the reader of records finds again in front of a payload.
-/
structure Named (name : String) : Prop where
  nonempty : name ≠ ""
  colon : ':' ∉ name.toList
  newline : '\n' ∉ name.toList

instance (name : String) : Decidable (Named name) :=
  decidable_of_iff (name ≠ "" ∧ ':' ∉ name.toList ∧ '\n' ∉ name.toList)
    ⟨fun ⟨h₁, h₂, h₃⟩ => ⟨h₁, h₂, h₃⟩, fun ⟨h₁, h₂, h₃⟩ => ⟨h₁, h₂, h₃⟩⟩

theorem Named.separable {name rawValue : String} (h : Named name) (hline : OnLine rawValue.toList) :
    Record.Separable name rawValue where
  nonempty := h.nonempty
  colon := h.colon
  name_newline := h.newline
  newline hmem := absurd (hline '\n' hmem) (by decide)
  returns hlast := absurd (hline '\r' (List.mem_of_getLast? hlast)) (by decide)

theorem cleanValue_quoted (s : String) : Record.cleanValue (quoted s) = .str s := by
  have hreturns : Record.dropReturns (quoted s) = quoted s := by
    apply Record.dropReturns_eq_self
    rw [toList_quoted, List.getLast?_concat]
    decide
  have hquoted : Record.isQuoted (quoted s).toList = true := by
    rw [Record.isQuoted, toList_quoted, List.getLast?_concat]
    simp
  unfold Record.cleanValue
  dsimp only
  rw [hreturns, if_pos hquoted, (quotes_quoted s).stands.read]

theorem complete_varBind {name : String} (h : Named name) (s : String) :
    (Record.varBind name (quoted s)).Complete :=
  h.separable (onLine_quoted s)

theorem isTruthy_str {s : String} (h : s ≠ "") : Json.isTruthy (.str s) = true := by
  simpa [Json.isTruthy] using h

section Payload

variable {items : List Item}
  (h : ∀ n, .int n ∈ items → (Nat.toDigits 10 n.natAbs).length ≤ Text.maxDigits)

include h

theorem stands_listed :
    Stands (listed items).toList (.arr (items.map Item.toJson)) := by
  have hitem : ∀ item ∈ items, Stands item.shown.toList item.toJson := by
    intro item hmem
    apply stands_shown
    rintro n rfl
    exact h n hmem
  cases items with
  | nil => exact stands_of_word '[' [']'] (by decide) (fun _ _ _ => rfl)
  | cons item items =>
    have htext : (listed (item :: items)).toList
        = '[' :: ([] ++ (item.shown.toList
            ++ (separated [] (items.map fun item => item.shown.toList) ++ ([] ++ [']'])))) := by
      rw [listed, String.toList_append, String.toList_append, toList_intercalate_shown]
      simp
    rw [List.forall_mem_cons] at hitem
    rw [htext]
    apply stands_arr isGap_nil isGap_nil isGap_nil (by simp [Ends]) hitem.1
    rw [List.forall₂_map_left_iff, List.forall₂_map_right_iff, List.forall₂_same]
    exact hitem.2

theorem stands_payload (type : String) :
    Stands (payload type items).toList
      (.obj [("type", .str type), ("value", .arr (items.map Item.toJson))]) := by
  have htext : (payload type items).toList
      = '\x7b' :: ([] ++ (((quoted "type").toList ++ ':' :: ([] ++ (quoted type).toList))
          ++ (separated [] [(quoted "value").toList ++ ':' :: ([] ++ (listed items).toList)]
            ++ ([] ++ ['\x7d'])))) := by
    have htype : (quoted "type").toList = "\"type\"".toList := by decide
    have hvalue : (quoted "value").toList = "\"value\"".toList := by decide
    rw [htype, hvalue]
    -- No blanks stand between the parts.
    simp [payload, separated]
  rw [htext]
  apply stands_obj isGap_nil isGap_nil isGap_nil (by simp [Ends]) (by simp)
  · exact .mk (quotes_quoted "type") isGap_nil (quotes_quoted type).stands
  · exact .cons (.mk (quotes_quoted "value") isGap_nil (stands_listed h)) .nil

theorem decodePayload_payload {type : String} (htype : type ≠ "") :
    Record.decodePayload (payload type items) = .ok (.str type, .arr (items.map Item.toJson)) := by
  rw [Record.decodePayload, (stands_payload h type).read]
  change Except.ok (if Json.isTruthy (.str type) then Json.str type else _, _) = _
  rw [if_pos (isTruthy_str htype)]
  rfl

theorem complete_heapPut {id type : String} (hid : Named id) (htype : type ≠ "") :
    (Record.heapPut id (payload type items)).Complete := by
  refine ⟨hid.separable (onLine_payload type items), ?_⟩
  unfold Record.object?
  dsimp only
  rw [decodePayload_payload h htype]
  dsimp only
  rw [HeapEntry.typeName?, if_pos (isTruthy_str htype)]
  rfl

end Payload

theorem parse_append_returns (line : String) (count : Nat) :
    Record.parse (line ++ returns count) = Record.parse line := by
  have hdrop : Record.dropReturns (line ++ returns count) = Record.dropReturns line := by
    unfold Record.dropReturns returns
    rw [String.toList_append, String.toList_ofList, Text.dropEndWhile_append]
    intro c hc
    rw [List.eq_of_mem_replicate hc]
    rfl
  unfold Record.parse
  dsimp only
  rw [hdrop]

/--
What the reader of records reads from a line of a traced program is what has been printed, whatever a text
has in it: quotes, escapes, control characters, colons or the marks of records.
-/
theorem parse_emitted (name id s type : String) (items : List Item) (n count : Nat)
    (hname : Named name) (hid : Named id) (htype : type ≠ "")
    (hitems : ∀ m, .int m ∈ items → (toString m.natAbs).length ≤ Text.maxDigits)
    (hn : (toString n).length ≤ Text.maxDigits) :
    (Record.parse ("VARBIND:" ++ name ++ ":" ++ quoted s ++ returns count)
          = .ok (.varBind name (quoted s))
        ∧ Record.cleanValue (quoted s) = .str s)
      ∧ (Record.parse ("HEAPPUT:" ++ id ++ ":" ++ payload type items ++ returns count)
          = .ok (.heapPut id (payload type items))
        ∧ Record.decodePayload (payload type items) = .ok (.str type, .arr (items.map Item.toJson)))
      ∧ Record.parse ("LINEMARK:" ++ toString n ++ returns count) = .ok (.lineMark n) := by
  have hdigits : ∀ m, .int m ∈ items → (Nat.toDigits 10 m.natAbs).length ≤ Text.maxDigits := by
    intro m hm
    rw [← Nat.toList_repr, String.length_toList]
    exact hitems m hm
  have hline : (Record.lineMark n).Complete := hn
  have hbind := Record.parse_written (complete_varBind hname s)
  have hput := Record.parse_written (complete_heapPut hdigits hid htype)
  have hmark := Record.parse_written hline
  -- Each line is that of a record, with carriage returns behind it that are dropped.
  simp only [Record.written, ← String.append_assoc] at hbind hput hmark
  simp only [parse_append_returns]
  exact ⟨⟨hbind, cleanValue_quoted s⟩, ⟨hput, decodePayload_payload hdigits htype⟩, hmark⟩

theorem parse_emitted_marks :
    let s := "\"a\\\n\r\tHEAPPUT:b:\x01\x7f\u20ac\\"
    let items : List Item := [.int (-70), .text "1,\"]\x7d", .int 0, .text "", .text "LINEMARK:1"]
    quoted s = "\"\\\"a\\\\\\n\\r\\tHEAPPUT:b:\\u0001\x7f\u20ac\\\\\""
      ∧ payload "list" items
        = "\x7b\"type\":\"list\",\"value\":[-70,\"1,\\\"]\x7d\",0,\"\",\"LINEMARK:1\"]\x7d"
      ∧ Named "x y" ∧ Named "obj0" ∧ "list" ≠ ""
      ∧ (∀ m, .int m ∈ items → (toString m.natAbs).length ≤ Text.maxDigits)
      ∧ (toString 12).length ≤ Text.maxDigits
      ∧ Record.parse ("VARBIND:x y:" ++ quoted s ++ "\r\r") = .ok (.varBind "x y" (quoted s))
      ∧ Record.cleanValue (quoted s) = .str s
      ∧ Record.parse ("HEAPPUT:obj0:" ++ payload "list" items ++ "\r\r")
        = .ok (.heapPut "obj0" (payload "list" items))
      ∧ Record.decodePayload (payload "list" items) = .ok (.str "list", .arr (items.map Item.toJson))
      ∧ Record.parse "LINEMARK:12\r\r" = .ok (.lineMark 12) := by
  intro s items
  have hx : Named "x y" := by decide
  have hid : Named "obj0" := by decide
  have hitems : ∀ m, .int m ∈ items → (toString m.natAbs).length ≤ Text.maxDigits := by
    intro m hm
    simp [items] at hm
    rcases hm with rfl | rfl
    · decide
    · decide
  have hn : (toString 12).length ≤ Text.maxDigits := by decide
  have htype : "list" ≠ "" := by decide
  rcases parse_emitted "x y" "obj0" s "list" items 12 2 hx hid htype hitems hn
    with ⟨⟨hbind, hclean⟩, ⟨hput, hdecode⟩, hmark⟩
  exact ⟨by decide +kernel, by decide +kernel, hx, hid, htype, hitems, hn, hbind, hclean, hput, hdecode,
    hmark⟩

end Emitter

end Playback
