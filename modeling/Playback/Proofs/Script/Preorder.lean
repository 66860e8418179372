import Mathlib.Logic.ExistsUnique
import Playback.Script.Tree

/-!
This module contains the order in which a walk comes by the nodes of a tree. The walk has nothing but a stack
of nodes that wait, and still it lists a node, then the listings of its children from the first to the last.
-/

namespace Playback.Script

namespace Node

theorem walk_append (nodes more : List Node) : walk (nodes ++ more) = walk nodes ++ walk more := by
  fun_induction walk nodes with
  | case1 => rfl
  | case2 node pending ih => rw [List.cons_append, walk, ← List.append_assoc, ih, List.cons_append]

theorem walk_eq_flatMap (nodes : List Node) : walk nodes = nodes.flatMap preorder := by
  induction nodes with
  | nil => rw [walk, List.flatMap_nil]
  | cons node nodes ih =>
    rw [← List.singleton_append, walk_append, ih, List.flatMap_append, List.flatMap_singleton, preorder]

theorem preorder_eq (node : Node) : node.preorder = node :: node.children.flatMap preorder := by
  rw [preorder, walk, List.append_nil, walk_eq_flatMap]

/--
The node at a place in a tree. The place says which child to go down to, from the root on.
-/
def nodeAt? : Node → List Nat → Option Node
  | node, [] => some node
  | node, i :: path => node.children[i]?.bind (·.nodeAt? path)

theorem nodeAt?_nil (node : Node) : node.nodeAt? [] = some node :=
  rfl

theorem nodeAt?_cons_eq_some_iff {root node : Node} {i : Nat} {path : List Nat} :
    root.nodeAt? (i :: path) = some node
      ↔
    ∃ child, root.children[i]? = some child ∧ child.nodeAt? path = some node := by
  rw [nodeAt?, Option.bind_eq_some_iff]

theorem size_lt_of_mem_children {node child : Node} (h : child ∈ node.children) :
    child.size < node.size := by
  rcases List.append_of_mem h with ⟨front, back, hchildren⟩
  rw [size_eq node, hchildren, sizeAll_append, sizeAll]
  omega

/-
What holds of a node if it holds of its children holds of every node.
-/
@[elab_as_elim]
theorem children_induction {motive : Node → Prop}
    (step : ∀ node, (∀ child ∈ node.children, motive child) → motive node) (node : Node) :
    motive node :=
  step node fun child _ => children_induction step child
termination_by node.size
decreasing_by exact size_lt_of_mem_children ‹child ∈ node.children›

section Listing

mutual

/--
A node, and behind it the listings of its children, from the first to the last.
-/
def listing : Node → List Node
  | .mk kind startByte endByte startRow endRow named field children =>
    .mk kind startByte endByte startRow endRow named field children :: listingAll children

@[inherit_doc listing]
def listingAll : List Node → List Node
  | [] => []
  | node :: nodes => listing node ++ listingAll nodes

end

/--
A loop over a stack and the nodes that it comes by. A turn takes the last node off the stack and puts the
children of the node on it, the last one first.
-/
inductive Unwinds : List Node → List Node → Prop where
  | done : Unwinds [] []
  | turn {stack nodes : List Node} {node : Node} (rest : Unwinds (stack ++ node.children.reverse) nodes) :
      Unwinds (stack ++ [node]) (node :: nodes)

theorem listing_eq (node : Node) : node.listing = node :: listingAll node.children := by
  cases node
  rw [listing, children]

theorem listingAll_append (nodes more : List Node) :
    listingAll (nodes ++ more) = listingAll nodes ++ listingAll more := by
  induction nodes with
  | nil => rw [listingAll, List.nil_append, List.nil_append]
  | cons node nodes ih => rw [List.cons_append, listingAll, listingAll, ih, List.append_assoc]

/-
Whatever waits is listed behind the node on top and all that is below it.
-/
theorem walk_eq_listingAll (pending : List Node) : walk pending = listingAll pending := by
  fun_induction walk pending with
  | case1 => rw [listingAll]
  | case2 node pending ih => rw [listingAll, listing_eq, ih, listingAll_append, List.cons_append]

theorem preorder_eq_listing (node : Node) : node.preorder = node.listing := by
  rw [preorder, walk_eq_listingAll, listingAll, listingAll, List.append_nil]

theorem unwinds_walk (pending : List Node) : Unwinds pending.reverse (walk pending) := by
  fun_induction walk pending with
  | case1 => exact .done
  | case2 node pending ih =>
    rw [List.reverse_append] at ih
    rw [List.reverse_cons]
    exact .turn ih

/-
The loop ends, and it ends in one way only.
-/
theorem unwinds_iff {stack nodes : List Node} : Unwinds stack nodes ↔ nodes = walk stack.reverse := by
  constructor
  · intro h
    induction h with
    | done => rw [List.reverse_nil, walk]
    | @turn stack nodes node _ ih =>
      rw [List.reverse_append, List.reverse_singleton, List.singleton_append, walk, ih, List.reverse_append,
        List.reverse_reverse]
  · rintro rfl
    have hrun := unwinds_walk stack.reverse
    rwa [List.reverse_reverse] at hrun

end Listing

section Places

mutual

/--
The places of a node and of everything below it, in the order of the listing.
-/
def places : Node → List (List Nat)
  | .mk _ _ _ _ _ _ _ children => [] :: placesFrom 0 children

def placesFrom : Nat → List Node → List (List Nat)
  | _, [] => []
  | i, node :: nodes => (places node).map (i :: ·) ++ placesFrom (i + 1) nodes

end

theorem places_eq (node : Node) : node.places = [] :: placesFrom 0 node.children := by
  cases node
  rw [places, children]

theorem mem_placesFrom_iff {i : Nat} {nodes : List Node} {path : List Nat} :
    path ∈ placesFrom i nodes
      ↔
    ∃ k child rest, nodes[k]? = some child ∧ rest ∈ child.places ∧ path = (i + k) :: rest := by
  induction nodes generalizing i with
  | nil => simp [placesFrom]
  | cons node nodes ih =>
    rw [placesFrom, List.mem_append, List.mem_map, ih]
    constructor
    · rintro (⟨rest, hrest, rfl⟩ | ⟨k, child, rest, hchild, hrest, rfl⟩)
      · exact ⟨0, node, rest, rfl, hrest, rfl⟩
      · exact ⟨k + 1, child, rest, hchild, hrest, by rw [Nat.add_right_comm, Nat.add_assoc]⟩
    · rintro ⟨k, child, rest, hchild, hrest, rfl⟩
      cases k with
      | zero =>
        rw [List.getElem?_cons_zero, Option.some.injEq] at hchild
        exact .inl ⟨rest, hchild ▸ hrest, rfl⟩
      | succ k => exact .inr ⟨k, child, rest, hchild, hrest, by rw [Nat.add_right_comm, Nat.add_assoc]⟩

theorem mem_places_iff {root : Node} {path : List Nat} :
    path ∈ root.places ↔ ∃ node, root.nodeAt? path = some node := by
  induction path generalizing root with
  | nil => exact iff_of_true (by rw [places_eq]; exact List.mem_cons_self) ⟨root, rfl⟩
  | cons i path ih =>
    rw [places_eq]
    constructor
    · intro hmem
      rcases List.mem_cons.mp hmem with hnil | hmem
      · contradiction
      · rcases mem_placesFrom_iff.mp hmem with ⟨k, child, rest, hchild, hrest, heq⟩
        rw [Nat.zero_add, List.cons.injEq] at heq
        rcases heq with ⟨rfl, rfl⟩
        rcases ih.mp hrest with ⟨node, hnode⟩
        exact ⟨node, nodeAt?_cons_eq_some_iff.mpr ⟨child, hchild, hnode⟩⟩
    · rintro ⟨node, hnode⟩
      rcases nodeAt?_cons_eq_some_iff.mp hnode with ⟨child, hchild, hnode⟩
      refine List.mem_cons_of_mem _ (mem_placesFrom_iff.mpr ?_)
      exact ⟨i, child, path, hchild, ih.mpr ⟨node, hnode⟩, by rw [Nat.zero_add]⟩

/-
The places are in the order of a dictionary, where a place comes in front of all that it is the start of.
-/
theorem pairwise_placesFrom {nodes : List Node} (h : ∀ node ∈ nodes, node.places.Pairwise (· < ·))
    (i : Nat) : (placesFrom i nodes).Pairwise (· < ·) := by
  induction nodes generalizing i with
  | nil => exact .nil
  | cons node nodes ih =>
    rw [List.forall_mem_cons] at h
    rw [placesFrom, List.pairwise_append, List.pairwise_map]
    refine ⟨h.1.imp fun hlt => List.cons_lt_cons_self.mpr hlt, ih h.2 (i + 1), ?_⟩
    intro path hpath other hother
    rcases List.mem_map.mp hpath with ⟨rest, _, rfl⟩
    rcases mem_placesFrom_iff.mp hother with ⟨k, child, otherRest, _, _, rfl⟩
    rw [List.cons_lt_cons_iff]
    omega

theorem pairwise_places (node : Node) : node.places.Pairwise (· < ·) := by
  induction node using children_induction with
  | step node ih =>
    rw [places_eq]
    refine .cons ?_ (pairwise_placesFrom ih 0)
    intro path hpath
    rcases mem_placesFrom_iff.mp hpath with ⟨k, child, rest, _, _, rfl⟩
    exact List.nil_lt_cons _ _

theorem map_nodeAt?_placesFrom {root : Node} {front nodes : List Node}
    (hroot : root.children = front ++ nodes)
    (h : ∀ node ∈ nodes, node.places.map node.nodeAt? = node.listing.map some) :
    (placesFrom front.length nodes).map root.nodeAt? = (listingAll nodes).map some := by
  induction nodes generalizing front with
  | nil => rw [placesFrom, listingAll, List.map_nil, List.map_nil]
  | cons node nodes ih =>
    rw [List.forall_mem_cons] at h
    have hrest := @ih (front ++ [node]) (by rw [hroot, List.append_assoc, List.singleton_append]) h.2
    rw [List.length_append, List.length_singleton] at hrest
    rw [placesFrom, listingAll, List.map_append, List.map_append, hrest, List.map_map, ← h.1]
    congr 1
    apply List.map_congr_left
    intro path _
    rw [Function.comp_apply, nodeAt?, hroot, List.getElem?_append_right (Nat.le_refl _), Nat.sub_self]
    rfl

theorem map_nodeAt?_places (node : Node) : node.places.map node.nodeAt? = node.listing.map some := by
  induction node using children_induction with
  | step node ih =>
    rw [places_eq, listing_eq, List.map_cons, List.map_cons, nodeAt?_nil]
    exact congrArg (some node :: ·) (map_nodeAt?_placesFrom (List.nil_append node.children).symm ih)

theorem lt_iff_of_getElem?_places {root : Node} {n m : Nat} {path other : List Nat}
    (hpath : root.places[n]? = some path) (hother : root.places[m]? = some other) :
    n < m ↔ path < other := by
  have hpairwise := List.pairwise_iff_getElem.mp root.pairwise_places
  rcases List.getElem?_eq_some_iff.mp hpath with ⟨hn, rfl⟩
  rcases List.getElem?_eq_some_iff.mp hother with ⟨hm, rfl⟩
  refine ⟨hpairwise n m hn hm, ?_⟩
  intro hlt
  rcases Nat.lt_trichotomy n m with hnm | rfl | hmn
  · exact hnm
  · exact absurd hlt (List.lt_irrefl _)
  · exact absurd hlt (List.lt_asymm (hpairwise m n hm hn hmn))

/-
No place is listed twice.
-/
theorem mem_places_iff_existsUnique {root : Node} {path : List Nat} :
    path ∈ root.places ↔ ∃! n : Nat, root.places[n]? = some path := by
  constructor
  · intro hpath
    rcases List.getElem?_of_mem hpath with ⟨n, hn⟩
    refine ⟨n, hn, ?_⟩
    intro m hm
    have hnm := mt (lt_iff_of_getElem?_places hn hm).mp (List.lt_irrefl path)
    have hmn := mt (lt_iff_of_getElem?_places hm hn).mp (List.lt_irrefl path)
    omega
  · rintro ⟨n, hn, _⟩
    exact List.mem_of_getElem? hn

end Places

/--
A walk lists the nodes of a tree in the order of the recursive listing, and so does a loop over a stack,
which comes to an end. The places of the listed nodes are all places of the tree, each of them once: the
place of a node comes before all that are below it, and what is below one child before what is below a later
one.
-/
theorem preorder_visits (root : Node) :
    root.preorder = root.listing
      ∧ (∀ nodes, Unwinds [root] nodes ↔ nodes = root.listing)
      ∧ ∃ places : List (List Nat),
          root.preorder.map some = places.map root.nodeAt?
            ∧ (∀ path, (∃ node, root.nodeAt? path = some node) ↔ ∃! n : Nat, places[n]? = some path)
            ∧ (∀ (n m i : Nat) (path down : List Nat),
                places[n]? = some path → places[m]? = some (path ++ i :: down) → n < m)
            ∧ ∀ (n m i j : Nat) (path down other : List Nat), i < j →
                places[n]? = some (path ++ i :: down) → places[m]? = some (path ++ j :: other) →
                  n < m := by
  refine ⟨root.preorder_eq_listing, ?_, root.places, ?_, ?_, ?_, ?_⟩
  · intro nodes
    rw [unwinds_iff, ← preorder_eq_listing, preorder, List.reverse_singleton]
  · rw [preorder_eq_listing, map_nodeAt?_places]
  · intro path
    rw [← mem_places_iff, mem_places_iff_existsUnique]
  · intro n m i path down hn hm
    have hlt : path ++ [] < path ++ i :: down := List.append_left_lt (List.nil_lt_cons i down)
    rw [List.append_nil] at hlt
    exact (lt_iff_of_getElem?_places hn hm).mpr hlt
  · intro n m i j path down other hij hn hm
    refine (lt_iff_of_getElem?_places hn hm).mpr (List.append_left_lt ?_)
    exact List.cons_lt_cons_iff.mpr (.inl hij)

end Node

end Playback.Script
