import Playback.Proofs.Trace.Records

/-!
This module contains what lines are read as: the lines with the mark of a record, the lines without
any, and the lines that records are written on, which are read as the records they are written from.
-/

namespace Playback

namespace Record

theorem dropReturns_isPrefix (line : String) : (dropReturns line).toList <+: line.toList := by
  unfold dropReturns
  rw [String.toList_ofList]
  apply List.rdropWhile_prefix

theorem dropReturns_eq_self {line : String} (h : line.toList.getLast? ≠ some '\r') :
    dropReturns line = line := by
  unfold dropReturns
  rw [← String.toList_inj, String.toList_ofList]
  change List.rdropWhile _ _ = _
  rw [List.rdropWhile_eq_self_iff]
  intro hne hlast
  apply h
  rw [List.getLast?_eq_some_getLast hne, eq_of_beq hlast]

theorem afterMark?_eq_some_iff (mark : String) (cs rest : List Char) :
    afterMark? mark cs = some rest ↔ cs = mark.toList ++ rest := by
  unfold afterMark?
  rw [← String.length_toList]
  constructor
  · intro h
    split at h
    · next hprefix =>
      rw [List.isPrefixOf_iff_prefix] at hprefix
      rcases hprefix with ⟨tail, rfl⟩
      rw [List.drop_left, Option.some.injEq] at h
      rw [h]
    · contradiction
  · intro h
    rw [h, if_pos, List.drop_left]
    rw [List.isPrefixOf_iff_prefix]
    apply List.prefix_append

theorem parse_of_heapMark {line id rawJson : String} {rest : List Char}
    (h : (dropReturns line).toList = "HEAPPUT:".toList ++ rest)
    (hnamed : named? rest = some (id, rawJson)) : parse line = .ok (.heapPut id rawJson) := by
  rw [← afterMark?_eq_some_iff] at h
  unfold parse
  dsimp only
  rw [h, Option.bind_some, hnamed]

/-
No two of the marks of records begin with the same character.
-/
theorem parse_of_bindMark {line name rawValue : String} {rest : List Char}
    (h : (dropReturns line).toList = "VARBIND:".toList ++ rest)
    (hnamed : named? rest = some (name, rawValue)) : parse line = .ok (.varBind name rawValue) := by
  have hheap : afterMark? "HEAPPUT:" (dropReturns line).toList = none := by
    rw [h]
    rfl
  rw [← afterMark?_eq_some_iff] at h
  unfold parse
  dsimp only
  rw [hheap, h, Option.bind_some, hnamed]
  rfl

theorem parse_of_lineMark {line : String} {rest : List Char}
    (h : (dropReturns line).toList = "LINEMARK:".toList ++ rest) :
    parse line
      =
    let digits := rest.takeWhile Text.isDecimal
    if digits.isEmpty then .ok (.plainText (dropReturns line))
    else if Text.maxDigits < digits.length then .error (.tooManyDigits digits.length)
    else .ok (.lineMark (Text.digitsValue digits)) := by
  have hheap : afterMark? "HEAPPUT:" (dropReturns line).toList = none := by
    rw [h]
    rfl
  have hbind : afterMark? "VARBIND:" (dropReturns line).toList = none := by
    rw [h]
    rfl
  rw [← afterMark?_eq_some_iff] at h
  unfold parse
  dsimp only
  rw [hheap, hbind, h]
  rfl

theorem parse_of_not_lineMark {line : String}
    (h : afterMark? "LINEMARK:" (dropReturns line).toList = none) :
    ∃ record, parse line = .ok record := by
  unfold parse
  dsimp only
  rw [h]
  split
  · exact ⟨_, rfl⟩
  · split
    · exact ⟨_, rfl⟩
    · exact ⟨_, rfl⟩

/--
The digits that the number of a line mark is read from.
-/
def markDigits (line : String) : List Char :=
  ((afterMark? "LINEMARK:" (dropReturns line).toList).getD []).takeWhile Text.isDecimal

theorem parse_eq_error_iff (line : String) (fault : Text.NumeralFault) :
    parse line = .error fault
      ↔
    Text.maxDigits < (markDigits line).length
      ∧ fault = .tooManyDigits (markDigits line).length := by
  unfold markDigits
  cases hrest : afterMark? "LINEMARK:" (dropReturns line).toList with
  | none =>
    rcases parse_of_not_lineMark hrest with ⟨record, hparse⟩
    simp [hparse]
  | some rest =>
    rw [afterMark?_eq_some_iff] at hrest
    rw [parse_of_lineMark hrest, Option.getD_some]
    dsimp only
    generalize rest.takeWhile Text.isDecimal = digits
    split
    · next hempty =>
      rw [List.isEmpty_iff] at hempty
      simp [hempty]
    · split
      · next hlength => simp [hlength, eq_comm]
      · next hlength => simp [hlength]

def HasMark (line : String) : Prop :=
  ∃ mark ∈ ["HEAPPUT:", "VARBIND:", "LINEMARK:"], mark.toList <+: line.toList
deriving Decidable

theorem parse_of_not_hasMark {line : String} (h : ¬ HasMark line) :
    parse line = .ok (.plainText (dropReturns line)) := by
  have hnone : ∀ mark ∈ ["HEAPPUT:", "VARBIND:", "LINEMARK:"],
      afterMark? mark (dropReturns line).toList = none := by
    intro mark hmark
    rw [Option.eq_none_iff_forall_ne_some]
    intro rest hrest
    rw [afterMark?_eq_some_iff] at hrest
    apply h
    refine ⟨mark, hmark, ?_⟩
    apply List.IsPrefix.trans _ (dropReturns_isPrefix line)
    rw [hrest]
    apply List.prefix_append
  unfold parse
  dsimp only
  rw [hnone "HEAPPUT:" (by simp), hnone "VARBIND:" (by simp), hnone "LINEMARK:" (by simp)]
  rfl

def written : Record → String
  | .lineMark line => "LINEMARK:" ++ toString line
  | .varBind name rawValue => "VARBIND:" ++ (name ++ ":" ++ rawValue)
  | .heapPut id rawJson => "HEAPPUT:" ++ (id ++ ":" ++ rawJson)
  | .plainText text => text

/--
A name and a payload that can be told apart on one line.
-/
structure Separable (name payload : String) : Prop where
  nonempty : name ≠ ""
  colon : ':' ∉ name.toList
  name_newline : '\n' ∉ name.toList
  newline : '\n' ∉ payload.toList
  returns : payload.toList.getLast? ≠ some '\r'

instance (name payload : String) : Decidable (Separable name payload) :=
  decidable_of_iff
    (name ≠ "" ∧ ':' ∉ name.toList ∧ '\n' ∉ name.toList ∧ '\n' ∉ payload.toList
      ∧ payload.toList.getLast? ≠ some '\r')
    ⟨fun ⟨h₁, h₂, h₃, h₄, h₅⟩ => ⟨h₁, h₂, h₃, h₄, h₅⟩,
      fun ⟨h₁, h₂, h₃, h₄, h₅⟩ => ⟨h₁, h₂, h₃, h₄, h₅⟩⟩

namespace Separable

variable {name payload : String}

theorem named?_eq (h : Separable name payload) :
    Record.named? (name ++ ":" ++ payload).toList = some (name, payload) := by
  have hchars : (name ++ ":" ++ payload).toList = name.toList ++ ':' :: payload.toList := by simp
  have hname : (name.toList ++ ':' :: payload.toList).takeWhile (· != ':') = name.toList := by
    rw [List.takeWhile_append_of_pos]
    · simp
    · intro c hc
      rw [bne_iff_ne]
      rintro rfl
      exact h.colon hc
  have hpayload : payload.toList.takeWhile (· != '\n') = payload.toList := by
    rw [List.takeWhile_eq_self_iff]
    intro c hc
    rw [bne_iff_ne]
    rintro rfl
    exact h.newline hc
  unfold Record.named?
  dsimp only
  rw [hchars, hname, List.drop_left]
  simp [hpayload, h.nonempty]

theorem dropReturns_append (h : Separable name payload) (mark : String) :
    dropReturns (mark ++ (name ++ ":" ++ payload)) = mark ++ (name ++ ":" ++ payload) := by
  have hchars : (mark ++ (name ++ ":" ++ payload)).toList
      = (mark ++ name).toList ++ [':'] ++ payload.toList := by
    simp
  apply dropReturns_eq_self
  rw [hchars, List.getLast?_append, List.getLast?_concat]
  cases hlast : payload.toList.getLast? with
  | none => decide
  | some c =>
    rw [← hlast]
    rw [Option.or_of_isSome]
    · exact h.returns
    · simp [hlast]

theorem newline_not_mem (h : Separable name payload) {mark : String} (hmark : '\n' ∉ mark.toList) :
    '\n' ∉ (mark ++ (name ++ ":" ++ payload)).toList := by
  simp [hmark, h.name_newline, h.newline]

end Separable

theorem digitsValue_toDigits (n : Nat) : Text.digitsValue (Nat.toDigits 10 n) = n := by
  have hfold : ∀ (cs : List Char) (start : Nat), (∀ c ∈ cs, c.isDigit = true) →
      cs.foldl (fun n c => n * 10 + (Text.digitValue? c).getD 0) start
        =
      Nat.ofDigitChars 10 cs start := by
    intro cs
    induction cs with
    | nil => simp
    | cons c cs ih =>
      intro start h
      rw [List.forall_mem_cons] at h
      rw [List.foldl_cons, Nat.ofDigitChars_cons, ih _ h.2, Text.digitValue?, if_pos h.1,
        Option.getD_some, Nat.mul_comm]
  unfold Text.digitsValue
  rw [hfold, Nat.ofDigitChars_ten_toDigits]
  intro c hc
  exact Nat.isDigit_of_mem_toDigits (by decide) (by decide) hc

theorem all_isDecimal_toDigits (n : Nat) : ∀ c ∈ Nat.toDigits 10 n, Text.isDecimal c = true := by
  intro c hc
  have hdigit := Nat.isDigit_of_mem_toDigits (by decide) (by decide) hc
  simp [Text.isDecimal, Text.digitValue?, hdigit]

/--
Whether a record can be written on a line from which it is read again, and describes an object if it
is to describe one.
-/
def Complete : Record → Prop
  | .lineMark line => (toString line).length ≤ Text.maxDigits
  | .varBind name rawValue => Separable name rawValue
  | .heapPut id rawJson =>
    Separable id rawJson ∧ (object? (.heapPut id rawJson)).isSome = true
  | .plainText _ => False

instance : DecidablePred Complete
  | .lineMark line => inferInstanceAs (Decidable ((toString line).length ≤ Text.maxDigits))
  | .varBind name rawValue => inferInstanceAs (Decidable (Separable name rawValue))
  | .heapPut id rawJson =>
    inferInstanceAs
      (Decidable (Separable id rawJson ∧ (object? (.heapPut id rawJson)).isSome = true))
  | .plainText _ => inferInstanceAs (Decidable False)

theorem parse_written {record : Record} (h : record.Complete) :
    parse record.written = .ok record := by
  cases record with
  | lineMark line =>
    have hchars :
        (written (.lineMark line)).toList = "LINEMARK:".toList ++ Nat.toDigits 10 line := by
      simp [written]
    -- The line ends in a digit, so there is no carriage return to drop.
    have hreturns : dropReturns (written (.lineMark line)) = written (.lineMark line) := by
      apply dropReturns_eq_self
      rw [hchars, List.getLast?_append_of_ne_nil _ Nat.toDigits_ne_nil]
      intro hlast
      have := all_isDecimal_toDigits line '\r' (List.mem_of_getLast? hlast)
      contradiction
    have hdigits : (Nat.toDigits 10 line).takeWhile Text.isDecimal = Nat.toDigits 10 line := by
      rw [List.takeWhile_eq_self_iff]
      exact all_isDecimal_toDigits line
    have hlength : (Nat.toDigits 10 line).length ≤ Text.maxDigits := by
      rw [← Nat.toList_repr, String.length_toList]
      exact h
    rw [parse_of_lineMark (by rw [hreturns, hchars])]
    dsimp only
    rw [hdigits, digitsValue_toDigits, if_neg, if_neg]
    · omega
    · simp
  | varBind name rawValue =>
    have hseparable : Separable name rawValue := h
    apply parse_of_bindMark _ hseparable.named?_eq
    rw [written, hseparable.dropReturns_append, String.toList_append]
  | heapPut id rawJson =>
    have hseparable : Separable id rawJson := h.1
    apply parse_of_heapMark _ hseparable.named?_eq
    rw [written, hseparable.dropReturns_append, String.toList_append]
  | plainText text => exact h.elim

theorem newline_not_mem_written {record : Record} (h : record.Complete) :
    '\n' ∉ record.written.toList := by
  cases record with
  | lineMark line =>
    rw [written, String.toList_append, List.mem_append, not_or]
    refine ⟨by decide, ?_⟩
    intro hmem
    rw [show (toString line).toList = Nat.toDigits 10 line from Nat.toList_repr] at hmem
    have := all_isDecimal_toDigits line '\n' hmem
    contradiction
  | varBind name rawValue =>
    have hseparable : Separable name rawValue := h
    apply hseparable.newline_not_mem
    decide
  | heapPut id rawJson =>
    apply h.1.newline_not_mem
    decide
  | plainText text => exact h.elim

theorem output?_of_complete {record : Record} (h : record.Complete) : record.output? = none := by
  cases record with
  | plainText text => exact h.elim
  | _ => rfl

end Record

end Playback
