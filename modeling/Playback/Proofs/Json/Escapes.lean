import Playback.Proofs.Json.RoundTrip

/-!
This module contains what the texts that are written for values consist of: characters that stand for
themselves, and escapes.
-/

namespace Playback.Json

def escapeChars : List Char :=
  ['"', '\\', 'n', 'r', 't', 'b', 'f', 'u', '0', '1', '2', '3', '4', '5', '6', '7', '8', '9', 'a', 'b', 'c',
    'd', 'e', 'f']

theorem mem_escapeUnit {n : Nat} (hn : n < 0x10000) : ∀ d ∈ Writer.escapeUnit n, d ∈ escapeChars := by
  have hdigit : ∀ d < 16, Nat.digitChar d ∈ escapeChars := by decide
  unfold Writer.escapeUnit
  rw [hexPadded_four hn]
  simp only [List.forall_mem_cons, List.not_mem_nil, false_imp_iff, implies_true, and_true]
  exact ⟨by decide, by decide, hdigit _ (by omega), hdigit _ (by omega), hdigit _ (by omega),
    hdigit _ (by omega)⟩

theorem escape_cases (c : Char) :
    Writer.escape c = [c]
      ∨ (Writer.escape c).head? = some '\\' ∧ ∀ d ∈ Writer.escape c, d ∈ escapeChars := by
  have hvalid := toNat_valid c
  unfold Writer.escape
  split
  · next h =>
    right
    rw [Bool.or_eq_true, beq_iff_eq, beq_iff_eq] at h
    rcases h with rfl | rfl
    · decide
    · decide
  split
  · exact .inr (by decide)
  split
  · exact .inr (by decide)
  split
  · exact .inr (by decide)
  split
  · exact .inr (by decide)
  split
  · exact .inr (by decide)
  split
  · exact .inl rfl
  split
  · next h => exact .inr ⟨rfl, mem_escapeUnit h⟩
  · right
    refine ⟨rfl, ?_⟩
    rw [List.forall_mem_append]
    exact ⟨mem_escapeUnit (by omega), mem_escapeUnit (by omega)⟩

theorem not_mem_escape {c d : Char} (h : c ≠ d ∨ Writer.escape d ≠ [d]) (hd : d ∉ escapeChars) :
    d ∉ Writer.escape c := by
  rcases escape_cases c with hplain | ⟨-, hchars⟩
  · rw [hplain, List.mem_singleton]
    rintro rfl
    rcases h with hne | hescape
    · exact hne rfl
    · exact hescape hplain
  · exact fun hmem => hd (hchars d hmem)

def Unescaped (cs : List Char) : Prop :=
  ∀ c ∈ cs, Writer.escape c = [c]

instance (cs : List Char) : Decidable (Unescaped cs) :=
  inferInstanceAs (Decidable (∀ c ∈ cs, Writer.escape c = [c]))

theorem Unescaped.flatMap_escape {cs : List Char} (h : Unescaped cs) : cs.flatMap Writer.escape = cs := by
  induction cs with
  | nil => rfl
  | cons c cs ih =>
    unfold Unescaped at h
    rw [List.forall_mem_cons] at h
    rw [List.flatMap_cons, h.1, ih h.2, List.singleton_append]

/-
An escape begins with a character that is itself written as an escape.
-/
theorem Unescaped.isPrefix_of_escapes {needle cs : List Char} (hneedle : Unescaped needle)
    (h : needle <+: cs.flatMap Writer.escape) : needle <+: cs := by
  induction cs generalizing needle with
  | nil => exact h
  | cons c cs ih =>
    cases needle with
    | nil => exact List.nil_prefix
    | cons d needle =>
      unfold Unescaped at hneedle
      rw [List.forall_mem_cons] at hneedle
      rw [List.flatMap_cons] at h
      rcases escape_cases c with hplain | ⟨hhead, -⟩
      · rw [hplain, List.singleton_append, List.cons_prefix_cons] at h
        rw [List.cons_prefix_cons]
        exact ⟨h.1, ih hneedle.2 h.2⟩
      · obtain ⟨tail, hescape⟩ : ∃ tail, Writer.escape c = '\\' :: tail :=
          List.head?_eq_some_iff.mp hhead
        rw [hescape, List.cons_append, List.cons_prefix_cons] at h
        rw [h.1] at hneedle
        exact absurd hneedle.1 (by decide)

theorem escape_of_isDigit {c : Char} (h : c.isDigit = true) : Writer.escape c = [c] := by
  have hne : ∀ d : Char, d.isDigit = false → (c == d) = false := by
    intro d hd
    rw [beq_eq_false_iff_ne]
    exact fun heq => ne_of_isDigit h hd heq.symm
  have hrange : 48 ≤ c.toNat ∧ c.toNat ≤ 57 := by
    rw [Char.isDigit_iff_toNat] at h
    exact h
  have hback : (c.toNat == 8) = false := beq_eq_false_iff_ne.mpr (by omega)
  have hfeed : (c.toNat == 12) = false := beq_eq_false_iff_ne.mpr (by omega)
  have hlower : 32 ≤ c.toNat := by omega
  have hupper : c.toNat < 127 := by omega
  unfold Writer.escape
  simp [hne '"' rfl, hne '\\' rfl, hne '\n' rfl, hne '\r' rfl, hne '\t' rfl, hback, hfeed, hlower,
    hupper]

theorem mem_toString {n : Int} {c : Char} (hc : c ∈ (toString n).toList) : c.isDigit = true ∨ c = '-' := by
  cases n with
  | ofNat n =>
    rw [show (toString (Int.ofNat n)).toList = Nat.toDigits 10 n from Nat.toList_repr] at hc
    exact .inl (isDigit_of_mem_toDigits c hc)
  | negSucc n =>
    have htext : (toString (Int.negSucc n)).toList = '-' :: Nat.toDigits 10 (n + 1) := by
      change ("-" ++ Nat.repr (n + 1)).toList = _
      rw [String.toList_append, Nat.toList_repr]
      rfl
    rw [htext, List.mem_cons] at hc
    rcases hc with rfl | hc
    · exact .inr rfl
    · exact .inl (isDigit_of_mem_toDigits c hc)

theorem unescaped_toString (n : Int) : Unescaped (toString n).toList := by
  intro c hc
  rcases mem_toString hc with hdigit | rfl
  · exact escape_of_isDigit hdigit
  · decide

theorem read_texts (ls : List String) :
    read ((Json.arr (ls.map .str)).write none) = .ok (.arr (ls.map .str)) := by
  apply read_write none
  · rw [plain_arr_iff]
    simp [Plain.str]
  · rw [isWritable, areWritable_iff]
    simp [isWritable]

theorem newline_not_mem_string (s : String) : '\n' ∉ (Writer.string s).toList := by
  have hescape : ∀ c, '\n' ∉ Writer.escape c :=
    fun c => not_mem_escape (.inr (by decide)) (by decide)
  rw [Writer.string, String.toList_ofList]
  simp [hescape]

theorem newline_not_mem_writtenItems (ls : List String) (level : Nat) :
    '\n' ∉ writtenItems .flat level (ls.map .str) := by
  induction ls with
  | nil => simp [writtenItems, Writer.restItems]
  | cons line ls ih =>
    rw [List.map_cons, writtenItems_cons, written, Writer.value]
    simp [pauseAt, newline_not_mem_string, ih]

theorem newline_not_mem_write (ls : List String) : '\n' ∉ ((Json.arr (ls.map .str)).write none).toList := by
  change '\n' ∉ written .flat 0 (.arr (ls.map .str))
  cases ls with
  | nil =>
    rw [List.map_nil, written, Writer.value]
    decide
  | cons line ls =>
    rw [List.map_cons, written_arr, written, Writer.value]
    simp [gapAt, Writer.Layout.lineBreak, newline_not_mem_string, newline_not_mem_writtenItems]

end Playback.Json
