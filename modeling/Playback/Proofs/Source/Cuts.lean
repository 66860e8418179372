import Playback.Proofs.Source.Nesting

/-!
This module contains where a text is cut at its separators: behind every front that opens as many brackets
as it closes, and nowhere else. Nothing is lost, and the brackets of the parts are closed if the brackets of
the text are.
-/

namespace Playback.Source

section Brackets

def openingBrackets : List Char :=
  ['(', '[', '{']

def closingBrackets : List Char :=
  [')', ']', '}']

def openings (cs : List Char) : Nat :=
  cs.countP openingBrackets.contains

def closings (cs : List Char) : Nat :=
  cs.countP closingBrackets.contains

/--
Whether each bracket of a text has a partner of its own kind, such that no two pairs overlap.
-/
inductive Matched : List Char → Prop where
  | nil : Matched []
  | plain {c : Char} {cs : List Char} (hc : c ∉ openingBrackets ++ closingBrackets) (rest : Matched cs) :
      Matched (c :: cs)
  | group {opening closing : Char} {inside cs : List Char}
      (pair : (opening, closing) ∈ openingBrackets.zip closingBrackets) (inner : Matched inside)
      (rest : Matched cs) : Matched (opening :: (inside ++ closing :: cs))

/--
Whether a place is inside of a pair of brackets, given the text and the part of it in front of the place.
-/
inductive InGroup : List Char → List Char → Prop where
  | intro {opening closing : Char} {before start inside after : List Char}
      (hopening : opening ∈ openingBrackets) (hclosing : closing ∈ closingBrackets)
      (hinside : Balanced inside) (hstart : start <+: inside) :
      InGroup (before ++ opening :: (inside ++ closing :: after)) (before ++ opening :: start)

variable {c : Char} {cs front : List Char}

theorem bracketStep_of_mem_opening (h : c ∈ openingBrackets) : bracketStep c = 1 := by
  simp only [openingBrackets, List.mem_cons, List.not_mem_nil, or_false] at h
  rcases h with rfl | rfl | rfl <;> rfl

theorem bracketStep_of_mem_closing (h : c ∈ closingBrackets) : bracketStep c = -1 := by
  simp only [closingBrackets, List.mem_cons, List.not_mem_nil, or_false] at h
  rcases h with rfl | rfl | rfl <;> rfl

theorem bracketStep_of_not_mem (h : c ∉ openingBrackets ++ closingBrackets) : bracketStep c = 0 := by
  simp only [openingBrackets, closingBrackets, List.mem_append, List.mem_cons, List.not_mem_nil, or_false,
    not_or] at h
  simp [bracketStep, h]

theorem openings_append (front rest : List Char) :
    openings (front ++ rest) = openings front + openings rest :=
  List.countP_append

theorem closings_append (front rest : List Char) :
    closings (front ++ rest) = closings front + closings rest :=
  List.countP_append

theorem bracketStep_eq (c : Char) : bracketStep c = openings [c] - closings [c] := by
  simp only [bracketStep, openings, closings, openingBrackets, closingBrackets]
  grind

theorem nesting_eq (cs : List Char) : nesting cs = openings cs - closings cs := by
  induction cs with
  | nil => rfl
  | cons c cs ih =>
    rw [nesting_cons, ih, bracketStep_eq, show c :: cs = [c] ++ cs from rfl, openings_append, closings_append]
    omega

theorem nesting_eq_zero_iff : nesting cs = 0 ↔ openings cs = closings cs := by
  rw [nesting_eq]
  omega

theorem Matched.balanced (h : Matched cs) : Balanced cs := by
  induction h with
  | nil => exact .of_plain (by simp)
  | @plain c cs hc _ ih =>
    have hplain : Balanced [c] := .of_plain (by simpa using bracketStep_of_not_mem hc)
    exact hplain.append ih
  | @group opening closing inside cs pair _ _ ihInside ihRest =>
    have hpair := List.of_mem_zip pair
    have hgroup := ihInside.bracketed (bracketStep_of_mem_opening hpair.1)
      (bracketStep_of_mem_closing hpair.2) (show bracketStep ',' = 0 from rfl)
    have happend := hgroup.toBalanced.append ihRest
    rwa [List.cons_append, List.append_assoc] at happend

theorem InGroup.nesting_pos (h : InGroup cs front) (hcs : Balanced cs) : 0 < nesting front := by
  rcases h with ⟨hopening, _, hinside, hstart⟩
  have hbefore := hcs.opened _ (List.prefix_append ..)
  have hstart := hinside.opened _ hstart
  rw [nesting_append, nesting_cons, bracketStep_of_mem_opening hopening]
  omega

end Brackets

section Cuts

/--
Whether a text is cut at the separator behind a front: the front is the first parts, joined, and more parts
follow.
-/
def CutBehind (sep : Char) (cs front : List Char) : Prop :=
  ∃ parts more, parts ≠ [] ∧ more ≠ []
    ∧ splitTopLevel sep cs = parts ++ more ∧ front = [sep].intercalate parts

variable {sep : Char} {cs front part : List Char}

theorem intercalate_append {parts more : List (List Char)} (hparts : parts ≠ []) (hmore : more ≠ []) :
    [sep].intercalate (parts ++ more) = [sep].intercalate parts ++ sep :: [sep].intercalate more := by
  induction parts with
  | nil => contradiction
  | cons part parts ih =>
    cases parts with
    | nil =>
      rw [List.singleton_append, List.intercalate_cons_of_ne_nil hmore, List.intercalate_singleton,
        List.append_assoc, List.singleton_append]
    | cons other parts =>
      rw [List.cons_append, List.intercalate_cons_of_ne_nil (by simp), ih (by simp),
        List.intercalate_cons_cons, List.append_assoc _ _ (sep :: _)]

theorem intercalate_splitTopLevel (sep : Char) (cs : List Char) :
    [sep].intercalate (splitTopLevel sep cs) = cs := by
  unfold splitTopLevel splitTopLevelWhen
  generalize (0 : Int) = depth
  induction cs generalizing depth with
  | nil => rfl
  | cons c cs ih =>
    rcases exists_go_cons sep c depth cs with ⟨part, parts, hparts, ⟨rfl, _, hcut⟩ | ⟨_, hkept⟩⟩
    · rw [hcut, List.intercalate_cons_cons, ← hparts, ih]
      rfl
    · rw [hkept, List.intercalate_cons_cons_left, ← hparts, ih]

/-
The depth at a cut is zero, counted from any depth that the scan starts with.
-/
theorem nesting_of_go_eq_append (hsep : bracketStep sep = 0) {depth : Int}
    {parts more : List (List Char)} (hparts : parts ≠ []) (hmore : more ≠ [])
    (h : splitTopLevelWhen.go (· == sep) depth cs = parts ++ more) :
    depth + nesting ([sep].intercalate parts) = 0 := by
  -- The induction is on the text, since the depth differs from one character to the next.
  induction cs generalizing depth parts with
  | nil =>
    rcases List.cons_eq_append_iff.mp h with ⟨hnil, _⟩ | ⟨before, _, hbefore⟩
    · contradiction
    · exact absurd (List.append_eq_nil_iff.mp hbefore.symm).2 hmore
  | cons c cs ih =>
    rcases exists_go_cons sep c depth cs with
      ⟨part, others, hothers, ⟨rfl, hdepth, hcut⟩ | ⟨_, hkept⟩⟩
    · rw [hcut] at h
      rcases List.cons_eq_append_iff.mp h with ⟨hnil, _⟩ | ⟨before, rfl, hbefore⟩
      · contradiction
      · rw [hsep, Int.add_zero] at hdepth
        cases before with
        | nil => simpa using hdepth
        | cons first before =>
          have hrest := ih (by simp) (hothers.trans hbefore)
          rw [List.intercalate_cons_cons, List.nil_append, List.singleton_append, nesting_cons]
          omega
    · rw [hkept] at h
      rcases List.cons_eq_append_iff.mp h with ⟨hnil, _⟩ | ⟨before, rfl, hbefore⟩
      · contradiction
      · rw [hbefore, ← List.cons_append] at hothers
        have hrest := ih (by simp) hothers
        rw [List.intercalate_cons_cons_left, nesting_cons]
        omega

theorem nesting_of_splitTopLevel_eq_append (hsep : bracketStep sep = 0) {parts more : List (List Char)}
    (hparts : parts ≠ []) (hmore : more ≠ []) (h : splitTopLevel sep cs = parts ++ more) :
    nesting ([sep].intercalate parts) = 0 := by
  rw [← nesting_of_go_eq_append hsep hparts hmore h, Int.zero_add]

theorem cutBehind_iff (hsep : bracketStep sep = 0) :
    CutBehind sep cs front ↔ nesting front = 0 ∧ ∃ back, cs = front ++ sep :: back := by
  constructor
  · rintro ⟨parts, more, hparts, hmore, hsplit, rfl⟩
    refine ⟨nesting_of_splitTopLevel_eq_append hsep hparts hmore hsplit, [sep].intercalate more, ?_⟩
    rw [← intercalate_append hparts hmore, ← hsplit, intercalate_splitTopLevel]
  · rintro ⟨hnesting, back, rfl⟩
    exact ⟨splitTopLevel sep front, splitTopLevel sep back, splitTopLevel_ne_nil sep front,
      splitTopLevel_ne_nil sep back, splitTopLevel_append_cons hnesting hsep back,
      (intercalate_splitTopLevel sep front).symm⟩

/-
Parts are joined to a front of depth zero, whatever follows them.
-/
theorem exists_front_of_splitTopLevel_eq_append (hsep : bracketStep sep = 0)
    {parts more : List (List Char)} (hmore : more ≠ []) (h : splitTopLevel sep cs = parts ++ more) :
    ∃ front, nesting front = 0
      ∧ ∀ rest, rest ≠ [] → [sep].intercalate (parts ++ rest) = front ++ [sep].intercalate rest := by
  by_cases hparts : parts = []
  · exact ⟨[], rfl, by simp [hparts]⟩
  · refine ⟨[sep].intercalate parts ++ [sep], ?_, ?_⟩
    · rw [nesting_append, nesting_of_splitTopLevel_eq_append hsep hparts hmore h]
      simp [hsep]
    · intro rest hrest
      rw [intercalate_append hparts hrest, List.append_assoc, List.singleton_append]

/-
A part lies between two places of depth zero, or reaches up to the end of the text.
-/
theorem exists_of_mem_splitTopLevel (hsep : bracketStep sep = 0) (h : part ∈ splitTopLevel sep cs) :
    ∃ front back, cs = front ++ (part ++ back) ∧ nesting front = 0
      ∧ (back = [] ∨ nesting (front ++ part) = 0) := by
  rcases List.append_of_mem h with ⟨parts, more, hsplit⟩
  rcases exists_front_of_splitTopLevel_eq_append hsep (by simp) hsplit with ⟨front, hnesting, hfront⟩
  have hcs := intercalate_splitTopLevel sep cs
  rw [hsplit, hfront _ (by simp)] at hcs
  cases more with
  | nil =>
    refine ⟨front, [], ?_, hnesting, .inl rfl⟩
    rw [← hcs, List.intercalate_singleton, List.append_nil]
  | cons other more =>
    refine ⟨front, sep :: [sep].intercalate (other :: more), ?_, hnesting, .inr ?_⟩
    · rw [← hcs, List.intercalate_cons_cons, List.append_assoc, List.singleton_append]
    · rw [← List.singleton_append, ← List.append_assoc] at hsplit
      have hcut := nesting_of_splitTopLevel_eq_append hsep (by simp) (by simp) hsplit
      rwa [hfront _ (by simp), List.intercalate_singleton] at hcut

theorem nesting_of_mem_splitTopLevel (hsep : bracketStep sep = 0) (h : nesting cs = 0)
    (hpart : part ∈ splitTopLevel sep cs) : nesting part = 0 := by
  rcases exists_of_mem_splitTopLevel hsep hpart with ⟨front, back, rfl, hfront, rfl | hback⟩
  · rwa [List.append_nil, nesting_append, hfront, Int.zero_add] at h
  · rwa [nesting_append, hfront, Int.zero_add] at hback

theorem Balanced.of_mem_splitTopLevel (h : Balanced cs) (hsep : bracketStep sep = 0)
    (hpart : part ∈ splitTopLevel sep cs) : Balanced part where
  closed := nesting_of_mem_splitTopLevel hsep h.closed hpart
  opened start hstart := by
    rcases exists_of_mem_splitTopLevel hsep hpart with ⟨front, back, rfl, hfront, _⟩
    have hprefix := (List.prefix_append_right_inj front).mpr (hstart.trans (List.prefix_append part back))
    have hopened := h.opened (front ++ start) hprefix
    rwa [nesting_append, hfront, Int.zero_add] at hopened

theorem Matched.of_mem_splitTopLevel (h : Matched cs) (hsep : bracketStep sep = 0) :
    ∀ part ∈ splitTopLevel sep cs, Matched part := by
  induction h with
  | nil => simp [splitTopLevel, splitTopLevelWhen, splitTopLevelWhen.go, Matched.nil]
  | @plain c cs hc _ ih =>
    rcases exists_go_cons sep c 0 cs with ⟨first, others, hothers, hcons⟩
    rw [bracketStep_of_not_mem hc, Int.add_zero] at hothers
    unfold splitTopLevel splitTopLevelWhen at ih ⊢
    rw [hothers, List.forall_mem_cons] at ih
    rcases hcons with ⟨_, _, hcut⟩ | ⟨_, hkept⟩
    · rw [hcut, List.forall_mem_cons, List.forall_mem_cons]
      exact ⟨.nil, ih⟩
    · rw [hkept, List.forall_mem_cons]
      exact ⟨.plain hc ih.1, ih.2⟩
  | @group opening closing inside cs pair inner _ _ ih =>
    -- The group belongs to the first part, whatever that part has behind it.
    have hpair := List.of_mem_zip pair
    have hgroup := inner.balanced.bracketed (bracketStep_of_mem_opening hpair.1)
      (bracketStep_of_mem_closing hpair.2) hsep
    have hsplit := splitTopLevel_append hgroup hsep cs
    rw [List.cons_append, List.append_assoc, List.singleton_append] at hsplit
    rcases List.exists_cons_of_ne_nil (splitTopLevel_ne_nil sep cs) with ⟨first, others, hothers⟩
    rw [hothers, List.forall_mem_cons] at ih
    rw [hsplit, hothers, List.forall_mem_cons, List.cons_append, List.append_assoc, List.singleton_append]
    exact ⟨.group pair inner ih.1, ih.2⟩

/--
A text is its parts, joined by the separator, and it is cut at a separator exactly if there are as many
opening as closing brackets in front of it. If the brackets of the text are balanced, be it in number only
or as pairs, the ones of each part are, and no separator inside of brackets is cut.
-/
theorem splitTopLevel_cuts {sep : Char} (hsep : sep ∉ openingBrackets ++ closingBrackets)
    (cs : List Char) :
    [sep].intercalate (splitTopLevel sep cs) = cs
      ∧ (∀ front back, cs = front ++ sep :: back →
          (CutBehind sep cs front ↔ openings front = closings front))
      ∧ (∀ front, CutBehind sep cs front → ∃ back, cs = front ++ sep :: back)
      ∧ (openings cs = closings cs → ∀ part ∈ splitTopLevel sep cs, openings part = closings part)
      ∧ (Balanced cs →
          (∀ part ∈ splitTopLevel sep cs, Balanced part)
            ∧ ∀ front, InGroup cs front → ¬CutBehind sep cs front)
      ∧ (Matched cs → Balanced cs ∧ ∀ part ∈ splitTopLevel sep cs, Matched part) := by
  have hstep := bracketStep_of_not_mem hsep
  refine ⟨intercalate_splitTopLevel sep cs, ?_, ?_, ?_, ?_, ?_⟩
  · intro front back hcs
    rw [cutBehind_iff hstep, nesting_eq_zero_iff]
    exact and_iff_left ⟨back, hcs⟩
  · intro front hcut
    exact ((cutBehind_iff hstep).mp hcut).2
  · intro hcs part hpart
    exact nesting_eq_zero_iff.mp
      (nesting_of_mem_splitTopLevel hstep (nesting_eq_zero_iff.mpr hcs) hpart)
  · intro hcs
    refine ⟨fun part => hcs.of_mem_splitTopLevel hstep, ?_⟩
    intro front hgroup hcut
    have hpos := hgroup.nesting_pos hcs
    rw [((cutBehind_iff hstep).mp hcut).1] at hpos
    contradiction
  · intro hcs
    exact ⟨hcs.balanced, hcs.of_mem_splitTopLevel hstep⟩

/--
The first comma stands where one more bracket is closed than opened, the second one where the counts are
equal again. The commas of a call are apart from the one behind it.
-/
theorem splitTopLevel_cuts_calls :
    let torn := ['a', ')', ',', 'b', '(', ',', 'c']
    let call := ['f', '(', 'a', ',', 'b', ')', ',', 'c']
    ',' ∉ openingBrackets ++ closingBrackets
      ∧ splitTopLevel ',' torn = [['a', ')', ',', 'b', '('], ['c']]
      ∧ ¬CutBehind ',' torn ['a', ')'] ∧ CutBehind ',' torn ['a', ')', ',', 'b', '(']
      ∧ splitTopLevel ',' call = [['f', '(', 'a', ',', 'b', ')'], ['c']]
      ∧ Matched call ∧ InGroup call ['f', '(', 'a'] ∧ ¬CutBehind ',' call ['f', '(', 'a'] := by
  intro torn call
  have hsep : ',' ∉ openingBrackets ++ closingBrackets := by decide
  have htorn := (splitTopLevel_cuts hsep torn).2.1
  have hinside : Balanced ['a', ',', 'b'] := .of_plain (by decide)
  have hletter : ∀ c ∈ ['a', ',', 'b', 'c', 'f'], c ∉ openingBrackets ++ closingBrackets := by decide
  have hcall : Matched call := by
    refine .plain (hletter _ (by decide)) (@Matched.group '(' ')' ['a', ',', 'b'] [',', 'c'] (by decide) ?_ ?_)
    · refine .plain (hletter _ (by decide)) (.plain (hletter _ (by decide)) ?_)
      exact .plain (hletter _ (by decide)) .nil
    · exact .plain (hletter _ (by decide)) (.plain (hletter _ (by decide)) .nil)
  have hgroup : InGroup call ['f', '(', 'a'] :=
    @InGroup.intro '(' ')' ['f'] ['a'] ['a', ',', 'b'] [',', 'c'] (by decide) (by decide) hinside (by decide)
  have hclosed := (splitTopLevel_cuts hsep call).2.2.2.2.1 hcall.balanced
  exact ⟨hsep, by decide, (htorn ['a', ')'] _ rfl).not.mpr (by decide),
    (htorn ['a', ')', ',', 'b', '('] _ rfl).mpr (by decide), by decide, hcall, hgroup,
    hclosed.2 _ hgroup⟩

end Cuts

end Playback.Source
