import Mathlib.Data.List.Chain
import Playback.Proofs.Script.Preorder
import Playback.Script.Capture

/-!
This module contains the proof that the end of a row belongs to the innermost node that reaches over it,
although all that a walk does is to let one node after the other claim the row ends in its reach.
-/

namespace Playback.Script

theorem spansEnd_iff (row : Nat) (node : Node) :
    spansEnd row node = true ↔ node.startRow ≤ row ∧ row < node.endRow := by
  simp [spansEnd]

namespace Node

/--
A tree that lies in the rows of a text: no node ends in a row before the one it starts in, children lie in
the rows of their parent, and each child ends at most in the row that the next one starts in.
-/
inductive LaidOut : Node → Prop where
  | intro {node : Node} (rows : node.startRow ≤ node.endRow)
      (within : ∀ child ∈ node.children,
        node.startRow ≤ child.startRow ∧ child.endRow ≤ node.endRow)
      (ordered : node.children.IsChain fun child next => child.endRow ≤ next.startRow)
      (below : ∀ child ∈ node.children, LaidOut child) : LaidOut node

/--
The innermost node that reaches over the end of a row: there is no deeper one.
-/
structure Innermost (root : Node) (row : Nat) (path : List Nat) (node : Node) : Prop where
  found : root.nodeAt? path = some node
  spans : spansEnd row node = true
  deepest : ∀ otherPath other, root.nodeAt? otherPath = some other → spansEnd row other = true →
    otherPath.length ≤ path.length

/-
Not only neighbours are in order.
-/
theorem pairwise_of_ordered {nodes : List Node} (hrows : ∀ node ∈ nodes, node.startRow ≤ node.endRow)
    (hordered : nodes.IsChain fun node next => node.endRow ≤ next.startRow) :
    nodes.Pairwise fun node next => node.endRow ≤ next.startRow := by
  induction nodes with
  | nil => exact .nil
  | cons node nodes ih =>
    rw [List.forall_mem_cons] at hrows
    have hrest := ih hrows.2 hordered.tail
    refine .cons ?_ hrest
    intro other hother
    cases nodes with
    | nil => contradiction
    | cons next nodes =>
      rw [List.isChain_cons_cons] at hordered
      rw [List.forall_mem_cons] at hrows
      rcases List.mem_cons.mp hother with rfl | hother
      · exact hordered.1
      · have := List.rel_of_pairwise_cons hrest hother
        omega

namespace LaidOut

variable {root : Node} {row : Nat}

theorem rows (h : LaidOut root) : root.startRow ≤ root.endRow := by
  cases h
  assumption

theorem child (h : LaidOut root) {child : Node} (hchild : child ∈ root.children) : LaidOut child := by
  cases h with
  | intro _ _ _ below => exact below child hchild

theorem childAt (h : LaidOut root) {i : Nat} {child : Node} (hchild : root.children[i]? = some child) :
    LaidOut child :=
  h.child (List.mem_of_getElem? hchild)

theorem spans_of_child (h : LaidOut root) {child : Node} (hchild : child ∈ root.children)
    (hspans : spansEnd row child = true) : spansEnd row root = true := by
  cases h with
  | intro _ within _ _ =>
    rw [spansEnd_iff] at *
    have := within child hchild
    omega

theorem spans_of_nodeAt? (h : LaidOut root) {path : List Nat} {node : Node}
    (hnode : root.nodeAt? path = some node) (hspans : spansEnd row node = true) :
    spansEnd row root = true := by
  induction path generalizing root with
  | nil =>
    rw [nodeAt?_nil, Option.some.injEq] at hnode
    rw [hnode]
    exact hspans
  | cons i path ih =>
    rcases nodeAt?_cons_eq_some_iff.mp hnode with ⟨child, hchild, hnode⟩
    have hmem := List.mem_of_getElem? hchild
    apply h.spans_of_child hmem
    exact ih (h.child hmem) hnode

theorem pairwise (h : LaidOut root) :
    root.children.Pairwise fun child next => child.endRow ≤ next.startRow := by
  cases h with
  | intro _ _ ordered below =>
    exact pairwise_of_ordered (fun child hchild => (below child hchild).rows) ordered

/-
Two children never reach over the end of the same row.
-/
theorem index_eq_of_spans (h : LaidOut root) {i j : Nat} {child other : Node}
    (hchild : root.children[i]? = some child) (hother : root.children[j]? = some other)
    (hspans : spansEnd row child = true) (hotherSpans : spansEnd row other = true) : i = j := by
  have hpairwise := List.pairwise_iff_getElem.mp h.pairwise
  rw [List.getElem?_eq_some_iff] at hchild hother
  rcases hchild with ⟨hi, rfl⟩
  rcases hother with ⟨hj, rfl⟩
  rw [spansEnd_iff] at hspans hotherSpans
  rcases Nat.lt_trichotomy i j with hlt | heq | hgt
  · have := hpairwise i j hi hj hlt
    omega
  · exact heq
  · have := hpairwise j i hj hi hgt
    omega

theorem innermost_nil_iff (h : LaidOut root) {node : Node} :
    Innermost root row [] node
      ↔
    node = root ∧ spansEnd row root = true ∧ ∀ child ∈ root.children, spansEnd row child = false := by
  constructor
  · rintro ⟨hfound, hspans, hdeepest⟩
    rw [nodeAt?_nil, Option.some.injEq] at hfound
    refine ⟨hfound.symm, by rw [hfound]; exact hspans, ?_⟩
    intro child hchild
    rw [← Bool.not_eq_true]
    intro hchildSpans
    rcases List.getElem?_of_mem hchild with ⟨i, hi⟩
    have := hdeepest [i] child (nodeAt?_cons_eq_some_iff.mpr ⟨child, hi, rfl⟩) hchildSpans
    contradiction
  · rintro ⟨rfl, hspans, hchildren⟩
    refine ⟨rfl, hspans, ?_⟩
    intro otherPath other hother hotherSpans
    cases otherPath with
    | nil => exact Nat.le_refl _
    | cons i path =>
      rcases nodeAt?_cons_eq_some_iff.mp hother with ⟨child, hchild, hother⟩
      have hmem := List.mem_of_getElem? hchild
      have := (h.child hmem).spans_of_nodeAt? hother hotherSpans
      rw [hchildren child hmem] at this
      contradiction

theorem innermost_cons_iff (h : LaidOut root) {i : Nat} {path : List Nat} {node : Node} :
    Innermost root row (i :: path) node
      ↔
    ∃ child, root.children[i]? = some child ∧ Innermost child row path node := by
  constructor
  · rintro ⟨hfound, hspans, hdeepest⟩
    rcases nodeAt?_cons_eq_some_iff.mp hfound with ⟨child, hchild, hnode⟩
    refine ⟨child, hchild, hnode, hspans, ?_⟩
    intro otherPath other hother hotherSpans
    have := hdeepest (i :: otherPath) other (nodeAt?_cons_eq_some_iff.mpr ⟨child, hchild, hother⟩)
      hotherSpans
    rw [List.length_cons, List.length_cons] at this
    omega
  · rintro ⟨child, hchild, hnode, hspans, hdeepest⟩
    refine ⟨nodeAt?_cons_eq_some_iff.mpr ⟨child, hchild, hnode⟩, hspans, ?_⟩
    intro otherPath other hother hotherSpans
    cases otherPath with
    | nil => apply Nat.zero_le
    | cons j otherPath =>
      -- Whatever else reaches over the end of the row is below the same child.
      rcases nodeAt?_cons_eq_some_iff.mp hother with ⟨otherChild, hotherChild, hother⟩
      have hchildSpans := (h.childAt hchild).spans_of_nodeAt? hnode hspans
      have hotherChildSpans := (h.childAt hotherChild).spans_of_nodeAt? hother hotherSpans
      have hindex := h.index_eq_of_spans hchild hotherChild hchildSpans hotherChildSpans
      rw [hindex, hotherChild, Option.some.injEq] at hchild
      rw [hchild] at hother
      have := hdeepest otherPath other hother hotherSpans
      rw [List.length_cons, List.length_cons]
      omega

theorem exists_innermost (h : LaidOut root) (hspans : spansEnd row root = true) :
    ∃ path node, Innermost root row path node := by
  induction h with
  | @intro root rows within ordered below ih =>
    have h : LaidOut root := .intro rows within ordered below
    by_cases hchildren : ∃ child ∈ root.children, spansEnd row child = true
    · rcases hchildren with ⟨child, hchild, hchildSpans⟩
      rcases ih child hchild hchildSpans with ⟨path, node, hnode⟩
      rcases List.getElem?_of_mem hchild with ⟨i, hi⟩
      exact ⟨i :: path, node, h.innermost_cons_iff.mpr ⟨child, hi, hnode⟩⟩
    · refine ⟨[], root, h.innermost_nil_iff.mpr ⟨rfl, hspans, ?_⟩⟩
      intro child hchild
      rw [← Bool.not_eq_true]
      exact fun hchildSpans => hchildren ⟨child, hchild, hchildSpans⟩

theorem innermost_unique (h : LaidOut root) {path otherPath : List Nat} {node other : Node}
    (hnode : Innermost root row path node) (hother : Innermost root row otherPath other) :
    path = otherPath := by
  induction path generalizing root otherPath with
  | nil =>
    have hlength := hnode.deepest otherPath other hother.found hother.spans
    exact (List.length_eq_zero_iff.mp (Nat.le_zero.mp hlength)).symm
  | cons i path ih =>
    cases otherPath with
    | nil =>
      have hlength := hother.deepest (i :: path) node hnode.found hnode.spans
      contradiction
    | cons j otherPath =>
      rcases h.innermost_cons_iff.mp hnode with ⟨child, hchild, hnode⟩
      rcases h.innermost_cons_iff.mp hother with ⟨otherChild, hotherChild, hother⟩
      have hlaid := h.childAt hchild
      have hotherLaid := h.childAt hotherChild
      have hindex := h.index_eq_of_spans hchild hotherChild
        (hlaid.spans_of_nodeAt? hnode.found hnode.spans)
        (hotherLaid.spans_of_nodeAt? hother.found hother.spans)
      rw [hindex, hotherChild, Option.some.injEq] at hchild
      rw [hchild] at hother
      rw [hindex, ih hlaid hnode hother]

theorem node_eq_of_innermost (h : LaidOut root) {path otherPath : List Nat} {node other : Node}
    (hnode : Innermost root row path node) (hother : Innermost root row otherPath other) :
    node = other := by
  have hfound := hnode.found
  rw [h.innermost_unique hnode hother, hother.found, Option.some.injEq] at hfound
  exact hfound.symm

theorem spansEnd_eq_false (h : LaidOut root) (hroot : spansEnd row root = false) :
    ∀ node ∈ root.preorder, spansEnd row node = false := by
  induction h with
  | @intro root rows within ordered below ih =>
    have h : LaidOut root := .intro rows within ordered below
    rw [preorder_eq, List.forall_mem_cons]
    refine ⟨hroot, ?_⟩
    intro node hnode
    rcases List.mem_flatMap.mp hnode with ⟨child, hchild, hnode⟩
    refine ih child hchild ?_ node hnode
    rw [← Bool.not_eq_true] at *
    exact fun hspans => hroot (h.spans_of_child hchild hspans)

end LaidOut

end Node

/-
A walk leaves the end of a row to whom it belongs if it comes by no node that reaches over it.
-/
theorem foldl_claim_of_not_spans {row : Nat} {nodes : List Node}
    (h : ∀ node ∈ nodes, spansEnd row node = false) (owners : Nat → Option String) :
    nodes.foldl claim owners row = owners row := by
  induction nodes generalizing owners with
  | nil => rfl
  | cons node nodes ih =>
    rw [List.forall_mem_cons] at h
    rw [List.foldl_cons, ih h.2, claim, h.1]
    rfl

namespace Node.LaidOut

variable {root : Node} {row : Nat}

theorem foldl_claim_flatMap_preorder {nodes : List Node} (h : ∀ node ∈ nodes, LaidOut node)
    (hspans : ∀ node ∈ nodes, spansEnd row node = false) (owners : Nat → Option String) :
    (nodes.flatMap preorder).foldl claim owners row = owners row := by
  apply foldl_claim_of_not_spans
  intro node hnode
  rcases List.mem_flatMap.mp hnode with ⟨child, hchild, hnode⟩
  exact (h child hchild).spansEnd_eq_false (hspans child hchild) node hnode

/-
The walk comes by the innermost node after all that it is in, and nothing that comes later reaches over
the end of the row. So the last claim is the one that counts.
-/
theorem foldl_claim_preorder (h : LaidOut root) {path : List Nat} {node : Node}
    (hnode : Innermost root row path node) (owners : Nat → Option String) :
    root.preorder.foldl claim owners row = some node.kind := by
  induction path generalizing root owners with
  | nil =>
    rcases h.innermost_nil_iff.mp hnode with ⟨rfl, hspans, hchildren⟩
    rw [preorder_eq, List.foldl_cons, foldl_claim_flatMap_preorder (fun child => h.child) hchildren,
      claim, if_pos hspans]
  | cons i path ih =>
    rcases h.innermost_cons_iff.mp hnode with ⟨child, hchild, hnode⟩
    have hlaid := h.childAt hchild
    have hspans := hlaid.spans_of_nodeAt? hnode.found hnode.spans
    rcases List.getElem?_eq_some_iff.mp hchild with ⟨hi, hget⟩
    have hchildren : root.children = root.children.take i ++ child :: root.children.drop (i + 1) := by
      rw [← hget, List.getElem_cons_drop, List.take_append_drop]
    -- The siblings that come later start where this one ends, or below.
    have hlater : ∀ other ∈ root.children.drop (i + 1), spansEnd row other = false := by
      intro other hother
      have hpairwise := h.pairwise
      rw [hchildren, List.pairwise_append] at hpairwise
      have hbehind := List.rel_of_pairwise_cons hpairwise.2.1 hother
      rw [← Bool.not_eq_true, spansEnd_iff]
      rw [spansEnd_iff] at hspans
      omega
    rw [preorder_eq, List.foldl_cons, hchildren, List.flatMap_append, List.flatMap_cons,
      List.foldl_append, List.foldl_append, foldl_claim_flatMap_preorder _ hlater, ih hlaid hnode]
    exact fun other hother => h.child (List.mem_of_mem_drop hother)

theorem owners_eq_some (h : LaidOut root) {path : List Nat} {node : Node}
    (hnode : Innermost root row path node) : owners root row = some node.kind :=
  h.foldl_claim_preorder hnode _

theorem owners_eq_none (h : LaidOut root) (hspans : spansEnd row root = false) :
    owners root row = none :=
  foldl_claim_of_not_spans (h.spansEnd_eq_false hspans) _

end Node.LaidOut

/--
The end of a row of a program lies between two statements exactly if the innermost node that reaches over
it is one that holds a list of statements, or if there is no node that reaches over it. If there is one,
one of them is the innermost.
-/
theorem mem_safeRows_iff {root : Node} (h : root.LaidOut) (row : Nat) :
    (row ∈ safeRows root
        ↔ row ≤ root.endRow
          ∧ ((∃ path node, root.Innermost row path node
                ∧ node.kind ∈ ["program", "statement_block", "switch_case", "switch_default"])
            ∨ ∀ path node, root.nodeAt? path = some node → spansEnd row node = false))
      ∧ ((∃ path node, root.nodeAt? path = some node ∧ spansEnd row node = true)
          → ∃! path, ∃ node, root.Innermost row path node) := by
  constructor
  · have hrange : row ∈ safeRows root ↔ row ≤ root.endRow ∧ isSafe (owners root row) = true := by
      unfold safeRows
      rw [List.mem_filter, List.mem_range, Nat.lt_succ_iff]
    rw [hrange, and_congr_right_iff]
    intro _
    by_cases hspans : spansEnd row root = true
    · rcases h.exists_innermost hspans with ⟨path, node, hnode⟩
      rw [h.owners_eq_some hnode, isSafe, Option.getD_some, List.contains_iff_mem]
      constructor
      · intro hkind
        exact .inl ⟨path, node, hnode, hkind⟩
      · rintro (⟨otherPath, other, hother, hkind⟩ | hnone)
        · rw [h.node_eq_of_innermost hnode hother]
          exact hkind
        · have := hnone [] root rfl
          rw [hspans] at this
          contradiction
    · rw [Bool.not_eq_true] at hspans
      rw [h.owners_eq_none hspans]
      refine iff_of_true rfl (.inr ?_)
      intro path node hnode
      rw [← Bool.not_eq_true] at *
      exact fun hnodeSpans => hspans (h.spans_of_nodeAt? hnode hnodeSpans)
  · rintro ⟨path, node, hnode, hspans⟩
    rcases h.exists_innermost (h.spans_of_nodeAt? hnode hspans) with ⟨path, node, hinnermost⟩
    refine ⟨path, ⟨node, hinnermost⟩, ?_⟩
    rintro otherPath ⟨other, hother⟩
    exact h.innermost_unique hother hinnermost

/--
The second and the third row of this program end within an object.
-/
theorem mem_safeRows_iff_block :
    let object : Node := .mk "object" 13 27 1 3 true none []
    let block : Node := .mk "statement_block" 7 31 0 4 true (some "consequence") [object]
    let branch : Node := .mk "if_statement" 0 31 0 4 true none [block]
    let call : Node := .mk "expression_statement" 32 36 5 5 true none []
    let root : Node := .mk "program" 0 36 0 5 true none [branch, call]
    root.LaidOut ∧ root.Innermost 3 [0, 0] block ∧ 3 ∈ safeRows root
      ∧ (∃! path, ∃ node, root.Innermost 2 path node) ∧ safeRows root = [0, 3, 4, 5] := by
  intro object block branch call root
  have hobject : object.LaidOut :=
    .intro (by decide) (by decide) (by decide) (by simp [object, Node.children])
  have hblock : block.LaidOut :=
    .intro (by decide) (by decide) (by decide) (by simp [block, Node.children, hobject])
  have hbranch : branch.LaidOut :=
    .intro (by decide) (by decide) (by decide) (by simp [branch, Node.children, hblock])
  have hcall : call.LaidOut :=
    .intro (by decide) (by decide) (by decide) (by simp [call, Node.children])
  have hroot : root.LaidOut :=
    .intro (by decide) (by decide) (by decide) (by simp [root, Node.children, hbranch, hcall])
  have hinnermost : root.Innermost 3 [0, 0] block := by
    refine hroot.innermost_cons_iff.mpr ⟨branch, rfl, ?_⟩
    refine hbranch.innermost_cons_iff.mpr ⟨block, rfl, ?_⟩
    exact hblock.innermost_nil_iff.mpr ⟨rfl, by decide, by decide⟩
  have hsafe := (mem_safeRows_iff hroot 3).1.mpr ⟨by decide, .inl ⟨[0, 0], block, hinnermost, by decide⟩⟩
  have hunique := (mem_safeRows_iff hroot 2).2 ⟨[], root, rfl, by decide⟩
  exact ⟨hroot, hinnermost, hsafe, hunique, by decide +kernel⟩

end Playback.Script
