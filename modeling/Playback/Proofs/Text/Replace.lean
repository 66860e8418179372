import Mathlib.Data.List.Infix
import Playback.Proofs.Text.Lines
import Playback.Text.Template

/-!
This module contains the laws of replacing a text: where occurrences of it end up, and what is left alone.
-/

namespace Playback.Text

section Replace

variable {needle value : List Char}

theorem go_eq_drop (skip : Nat) (cs : List Char) :
    replaceAll.go needle value skip cs = replaceAll.go needle value 0 (cs.drop skip) := by
  induction cs generalizing skip with
  | nil =>
    cases skip with
    | zero => rfl
    | succ skip => rw [List.drop_nil, replaceAll.go, replaceAll.go]
  | cons c cs ih =>
    cases skip with
    | zero => rfl
    | succ skip => rw [replaceAll.go, ih, List.drop_succ_cons]

variable (hneedle : needle ≠ [])
include hneedle

theorem replaceAll_eq_go (cs : List Char) :
    replaceAll needle value cs = replaceAll.go needle value 0 cs := by
  unfold replaceAll
  rw [if_neg]
  simpa using hneedle

theorem replaceAll_nil : replaceAll needle value [] = [] := by
  rw [replaceAll_eq_go hneedle, replaceAll.go]

theorem replaceAll_append (cs : List Char) :
    replaceAll needle value (needle ++ cs) = value ++ replaceAll needle value cs := by
  rw [replaceAll_eq_go hneedle, replaceAll_eq_go hneedle]
  cases needle with
  | nil => contradiction
  | cons c needle =>
    have hprefix : (c :: needle).isPrefixOf (c :: (needle ++ cs)) = true := by
      rw [List.isPrefixOf_iff_prefix]
      exact List.prefix_append (c :: needle) cs
    rw [List.cons_append, replaceAll.go, if_pos hprefix, go_eq_drop, List.length_cons,
      Nat.add_sub_cancel, List.drop_left]

theorem replaceAll_cons {c : Char} {cs : List Char} (h : ¬ needle <+: c :: cs) :
    replaceAll needle value (c :: cs) = c :: replaceAll needle value cs := by
  rw [replaceAll_eq_go hneedle, replaceAll_eq_go hneedle, replaceAll.go, if_neg]
  rw [List.isPrefixOf_iff_prefix]
  exact h

/-
A text begins with an occurrence, behind which the search goes on, or with a character that is kept.
-/
@[elab_as_elim]
theorem replaceAll_induction {P : List Char → Prop} (nil : P [])
    (found : ∀ cs, P cs → P (needle ++ cs))
    (kept : ∀ c cs, ¬ needle <+: c :: cs → P cs → P (c :: cs)) (cs : List Char) : P cs := by
  induction hlength : cs.length using Nat.strongRecOn generalizing cs with
  | ind n ih =>
    subst hlength
    cases cs with
    | nil => exact nil
    | cons c cs =>
      by_cases hprefix : needle <+: c :: cs
      · rcases hprefix with ⟨rest, hrest⟩
        have hpos := List.length_pos_iff.mpr hneedle
        rw [← hrest]
        refine found rest (ih _ ?_ rest rfl)
        rw [← hrest, List.length_append]
        omega
      · exact kept c cs hprefix (ih _ (by simp) cs rfl)

theorem replaceAll_eq_self {cs : List Char} (h : ¬ needle <:+: cs) : replaceAll needle value cs = cs := by
  induction cs with
  | nil => exact replaceAll_nil hneedle
  | cons c cs ih =>
    rw [List.infix_cons_iff, not_or] at h
    rw [replaceAll_cons hneedle h.1, ih h.2]

omit hneedle in
theorem prefix_of_prefix_append_cons {c : Char} (hc : c ∉ needle) {front back : List Char}
    (h : needle <+: front ++ c :: back) : needle <+: front := by
  rcases h with ⟨rest, hrest⟩
  rw [List.append_eq_append_iff] at hrest
  rcases hrest with ⟨tail, hfront, -⟩ | ⟨tail, hneedle, hback⟩
  · exact ⟨tail, hfront.symm⟩
  · cases tail with
    | nil =>
      rw [hneedle, List.append_nil]
    | cons d tail =>
      rw [List.cons_append, List.cons.injEq] at hback
      refine absurd ?_ hc
      rw [hneedle, hback.1]
      simp

omit hneedle in
theorem infix_of_infix_append_cons {c : Char} (hc : c ∉ needle) {front back : List Char}
    (h : needle <:+: front ++ c :: back) : needle <:+: front ∨ needle <:+: back := by
  induction front with
  | nil =>
    rw [List.nil_append, List.infix_cons_iff] at h
    rcases h with hprefix | hback
    · have hnil : needle <+: [] := prefix_of_prefix_append_cons hc hprefix
      exact .inl hnil.isInfix
    · exact .inr hback
  | cons d front ih =>
    rw [List.cons_append, List.infix_cons_iff] at h
    rw [List.infix_cons_iff]
    rcases h with hprefix | hrest
    · exact .inl (.inl (prefix_of_prefix_append_cons hc hprefix))
    · exact (ih hrest).imp_left .inr

/-
No occurrence goes across a character that the text to be replaced does not have.
-/
theorem replaceAll_append_cons {c : Char} (hc : c ∉ needle) (front back : List Char) :
    replaceAll needle value (front ++ c :: back)
      =
    replaceAll needle value front ++ c :: replaceAll needle value back := by
  induction front using replaceAll_induction hneedle with
  | nil =>
    rw [List.nil_append, replaceAll_nil hneedle, List.nil_append, replaceAll_cons hneedle]
    intro hprefix
    have hnil : needle <+: [] := prefix_of_prefix_append_cons hc hprefix
    exact hneedle (List.prefix_nil.mp hnil)
  | found front ih =>
    rw [List.append_assoc, replaceAll_append hneedle, ih, replaceAll_append hneedle, List.append_assoc]
  | kept d front hnot ih =>
    rw [List.cons_append, replaceAll_cons hneedle, ih, replaceAll_cons hneedle hnot, List.cons_append]
    intro hprefix
    exact hnot (prefix_of_prefix_append_cons hc hprefix)

/-
No occurrence begins where its first character is missing.
-/
theorem replaceAll_append_of_head {front : List Char} (h : ∀ c ∈ front, needle.head? ≠ some c)
    (back : List Char) :
    replaceAll needle value (front ++ back) = front ++ replaceAll needle value back := by
  induction front with
  | nil => rfl
  | cons c front ih =>
    rw [List.forall_mem_cons] at h
    rw [List.cons_append, replaceAll_cons hneedle, ih h.2, List.cons_append]
    rintro ⟨rest, hrest⟩
    cases needle with
    | nil => exact hneedle rfl
    | cons d needle => exact h.1 (congrArg some (List.cons.inj hrest).1)

theorem count_replaceAll_le {mark : Char} (hvalue : mark ∉ value) (cs : List Char) :
    (replaceAll needle value cs).count mark ≤ cs.count mark := by
  induction cs using replaceAll_induction hneedle with
  | nil => rw [replaceAll_nil hneedle]
  | found cs ih =>
    rw [replaceAll_append hneedle, List.count_append, List.count_append,
      List.count_eq_zero_of_not_mem hvalue]
    omega
  | kept c cs hnot ih =>
    rw [replaceAll_cons hneedle hnot, List.count_cons, List.count_cons]
    omega

theorem count_replaceAll_lt {mark : Char} (hmark : mark ∈ needle) (hvalue : mark ∉ value)
    {cs : List Char} (h : needle <:+: cs) : (replaceAll needle value cs).count mark < cs.count mark := by
  induction cs using replaceAll_induction hneedle with
  | nil => exact absurd (List.infix_nil.mp h) hneedle
  | found cs _ =>
    have hle := count_replaceAll_le hneedle hvalue cs
    have hpos := List.count_pos_iff.mpr hmark
    rw [replaceAll_append hneedle, List.count_append, List.count_append,
      List.count_eq_zero_of_not_mem hvalue]
    omega
  | kept c cs hnot ih =>
    have hlt := ih ((List.infix_cons_iff.mp h).resolve_left hnot)
    rw [replaceAll_cons hneedle hnot, List.count_cons, List.count_cons]
    omega

end Replace

section Fill

theorem toList_replaced (needle value s : String) :
    (replaced needle value s).toList = replaceAll needle.toList value.toList s.toList :=
  String.toList_ofList

theorem toList_ne_nil_of_not_isInfix {s t : String} (h : ¬ s.toList <:+: t.toList) : s.toList ≠ [] := by
  intro hnil
  rw [hnil] at h
  exact h List.nil_infix

theorem replaced_eq_self {needle value s : String} (h : ¬ needle.toList <:+: s.toList) :
    replaced needle value s = s := by
  rw [← String.toList_inj, toList_replaced, replaceAll_eq_self (toList_ne_nil_of_not_isInfix h) h]

theorem replaced_self {needle : String} (h : needle.toList ≠ []) (value : String) :
    replaced needle value needle = value := by
  have hself : replaceAll needle.toList value.toList (needle.toList ++ [])
      = value.toList ++ replaceAll needle.toList value.toList [] :=
    replaceAll_append h []
  rw [List.append_nil, replaceAll_nil h, List.append_nil] at hself
  rw [← String.toList_inj, toList_replaced, hself]

theorem fill_cons (s place value : String) (values : List (String × String)) :
    fill s ((place, value) :: values) = fill (replaced place value s) values := rfl

theorem fill_eq_self {values : List (String × String)} {s : String}
    (h : ∀ place ∈ values.map Prod.fst, ¬ place.toList <:+: s.toList) : fill s values = s := by
  induction values with
  | nil => rfl
  | cons pair values ih =>
    rcases pair with ⟨place, value⟩
    rw [List.map_cons, List.forall_mem_cons] at h
    rw [fill_cons, replaced_eq_self h.1, ih h.2]

section Marked

variable {mark : Char} {values : List (String × String)}
  (hmark : ∀ pair ∈ values, mark ∈ pair.1.toList ∧ mark ∉ pair.2.toList)
include hmark

theorem count_fill_le (s : String) : (fill s values).toList.count mark ≤ s.toList.count mark := by
  induction values generalizing s with
  | nil => exact Nat.le_refl _
  | cons pair values ih =>
    rcases pair with ⟨place, value⟩
    rw [List.forall_mem_cons] at hmark
    calc
      (fill s ((place, value) :: values)).toList.count mark
          ≤ (replaced place value s).toList.count mark := ih hmark.2 _
      _ ≤ s.toList.count mark := by
        rw [toList_replaced]
        exact count_replaceAll_le (List.ne_nil_of_mem hmark.1.1) hmark.1.2 s.toList

/-
Each place has a mark that no value has. The marks grow fewer with the first place that is filled in, so
nothing that comes later makes up for it.
-/
theorem fill_eq_self_iff (s : String) :
    fill s values = s ↔ ∀ place ∈ values.map Prod.fst, ¬ place.toList <:+: s.toList := by
  refine ⟨?_, fill_eq_self⟩
  intro h
  induction values with
  | nil => simp
  | cons pair values ih =>
    rcases pair with ⟨place, value⟩
    rw [List.forall_mem_cons] at hmark
    rw [fill_cons] at h
    have hnot : ¬ place.toList <:+: s.toList := by
      intro hinfix
      have hle := count_fill_le hmark.2 (replaced place value s)
      have hlt := count_replaceAll_lt (List.ne_nil_of_mem hmark.1.1) hmark.1.1 hmark.1.2 hinfix
      rw [h, toList_replaced] at hle
      exact absurd hlt (Nat.not_lt.mpr hle)
    rw [replaced_eq_self hnot] at h
    rw [List.map_cons, List.forall_mem_cons]
    exact ⟨hnot, ih hmark.2 h⟩

end Marked

theorem replaced_append {c : Char} {sep : String} (hsep : sep.toList = [c]) {place : String}
    (hplace : place.toList ≠ []) (hc : c ∉ place.toList) (value front back : String) :
    replaced place value (front ++ sep ++ back)
      =
    replaced place value front ++ sep ++ replaced place value back := by
  rw [← String.toList_inj]
  simp only [toList_replaced, String.toList_append, hsep, List.append_assoc, List.singleton_append]
  exact replaceAll_append_cons hplace hc front.toList back.toList

theorem fill_append {c : Char} {sep : String} (hsep : sep.toList = [c])
    {values : List (String × String)}
    (h : ∀ place ∈ values.map Prod.fst, place.toList ≠ [] ∧ c ∉ place.toList) (front back : String) :
    fill (front ++ sep ++ back) values = fill front values ++ sep ++ fill back values := by
  induction values generalizing front back with
  | nil => rfl
  | cons pair values ih =>
    rcases pair with ⟨place, value⟩
    rw [List.map_cons, List.forall_mem_cons] at h
    rw [fill_cons, fill_cons, fill_cons, replaced_append hsep h.1.1 h.1.2, ih h.2]

theorem unlines_cons {line : String} {ls : List String} (hne : ls ≠ []) :
    unlines (line :: ls) = line ++ "\n" ++ unlines ls := by
  cases ls with
  | nil => contradiction
  | cons next ls => simp [unlines]

theorem unlines_append {front back : List String} (hfront : front ≠ []) (hback : back ≠ []) :
    unlines (front ++ back) = unlines front ++ "\n" ++ unlines back := by
  induction front with
  | nil => contradiction
  | cons line front ih =>
    cases front with
    | nil =>
      rw [List.singleton_append, unlines_cons hback]
      simp [unlines]
    | cons next front =>
      have hnext : next :: front ≠ [] := List.cons_ne_nil next front
      rw [List.cons_append, unlines_cons (List.append_ne_nil_of_left_ne_nil hnext back), ih hnext,
        unlines_cons hnext]
      simp [String.append_assoc]

theorem not_isInfix_unlines {needle : List Char} (hneedle : needle ≠ []) (hline : '\n' ∉ needle)
    {ls : List String} (h : ∀ line ∈ ls, ¬ needle <:+: line.toList) :
    ¬ needle <:+: (unlines ls).toList := by
  induction ls with
  | nil => exact fun hinfix => hneedle (List.infix_nil.mp hinfix)
  | cons line ls ih =>
    rw [List.forall_mem_cons] at h
    cases ls with
    | nil => simpa [unlines] using h.1
    | cons next ls =>
      intro hinfix
      rw [unlines_cons (List.cons_ne_nil next ls), String.toList_append, String.toList_append,
        List.append_assoc] at hinfix
      rcases infix_of_infix_append_cons hline hinfix with hfirst | hrest
      · exact h.1 hfirst
      · exact ih h.2 hrest

theorem fill_unlines {values : List (String × String)}
    (h : ∀ place ∈ values.map Prod.fst, place.toList ≠ [] ∧ '\n' ∉ place.toList) {ls : List String}
    (hne : ls ≠ []) : fill (unlines ls) values = unlines (ls.map (fill · values)) := by
  induction ls with
  | nil => contradiction
  | cons line ls ih =>
    cases ls with
    | nil => simp [unlines]
    | cons next ls =>
      have hnext : next :: ls ≠ [] := List.cons_ne_nil next ls
      have hfilled : (next :: ls).map (fill · values) ≠ [] := by simp
      rw [unlines_cons hnext, fill_append rfl h, ih hnext, List.map_cons (a := line), unlines_cons hfilled]

end Fill

end Playback.Text
