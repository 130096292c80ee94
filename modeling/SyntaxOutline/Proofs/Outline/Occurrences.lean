import Mathlib.Algebra.Ring.Nat
import Mathlib.Data.List.Nodup
import SyntaxOutline.Proofs.Outline.Paths

/-!
# The iterator after some of its calls

The stack of the iterator holds siblings from all levels above the node that comes next. Their
listings, from the top of the stack to its bottom, are what is still to come (`Iterator.toList_eq`),
and a call takes the first node off this list, so that it stays a rest of the pre-order for ever.

A node may occur several times in an outline, so that its occurrences are told apart by their paths:

* `Iterator.after` : the iterator after a number of calls.
* `places` : the paths to all occurrences, in the order of the listing.
* `nodeCount_withChildren`, `height_withChildren` : further children in the number of nodes and in
  the height.
-/

namespace SyntaxOutline.Outline

/-! ## Calls -/

namespace Iterator

/-- The iterator after one call, which at the end changes nothing. -/
def step (it : Iterator) : Iterator :=
  match it.next? with
  | some (_, rest) => rest
  | none => it

/-- The iterator after a number of calls. -/
def after (it : Iterator) : Nat → Iterator
  | 0 => it
  | k + 1 => it.step.after k

/-- A call yields the first of the nodes still to come. -/
theorem map_fst_next? (it : Iterator) : it.next?.map Prod.fst = it.toList.head? := by
  obtain ⟨stack⟩ := it
  cases stack with
  | nil => rw [toList, next?, Option.map_none, List.head?_nil]
  | cons o stack => rw [toList, next?, Option.map_some, List.head?_cons]

theorem toList_step (it : Iterator) : it.step.toList = it.toList.tail := by
  obtain ⟨stack⟩ := it
  cases stack with
  | nil => rw [step, next?, toList, List.tail_nil]
  | cons o stack => rw [step, next?, toList, List.tail_cons]

theorem toList_after (it : Iterator) (k : Nat) : (it.after k).toList = it.toList.drop k := by
  induction k generalizing it with
  | zero => rw [after, List.drop_zero]
  | succ k ih => rw [after, ih, toList_step, List.drop_tail]

end Iterator

theorem toList_iterator_eq (o : Outline) : o.iterator.toList = o.preorder := by
  rw [Iterator.toList_eq, iterator, preorderAll, preorderAll, List.append_nil]

theorem toList_after_iterator (o : Outline) (k : Nat) :
    (o.iterator.after k).toList = o.preorder.drop k := by
  rw [Iterator.toList_after, toList_iterator_eq]

theorem map_fst_next?_after (o : Outline) (k : Nat) :
    (o.iterator.after k).next?.map Prod.fst = o.preorder[k]? := by
  rw [Iterator.map_fst_next?, toList_after_iterator, List.head?_drop]

/-- The calls yield nothing from the number of nodes on. -/
theorem next?_after_eq_none_iff {o : Outline} {k : Nat} :
    (o.iterator.after k).next? = none ↔ o.nodeCount ≤ k := by
  rw [← Option.map_eq_none_iff, map_fst_next?_after, List.getElem?_eq_none_iff,
    nodeCount_eq_length]

/-! ## Occurrences -/

mutual

/-- The paths to the nodes, in the order of the listing. -/
def places : Outline → List (List Nat)
  | ⟨_, _, _, children⟩ => [] :: placesFrom 0 children

/-- The paths to the nodes of several outlines, the first of which is the child with index `i`. -/
def placesFrom (i : Nat) : List Outline → List (List Nat)
  | [] => []
  | o :: os => o.places.map (i :: ·) ++ placesFrom (i + 1) os

end

theorem places_eq (o : Outline) : o.places = [] :: placesFrom 0 o.children := by
  obtain ⟨content, span, kind, children⟩ := o
  rw [places]

theorem mem_placesFrom_iff {i : Nat} {os : List Outline} {path : List Nat} :
    path ∈ placesFrom i os ↔
      ∃ j child rest, path = (i + j) :: rest ∧ os[j]? = some child ∧ rest ∈ child.places := by
  induction os generalizing i with
  | nil => simp [placesFrom]
  | cons o os ih =>
    rw [placesFrom, List.mem_append, List.mem_map, ih]
    constructor
    · rintro (⟨rest, hrest, rfl⟩ | ⟨j, child, rest, rfl, hchild, hrest⟩)
      · exact ⟨0, o, rest, rfl, rfl, hrest⟩
      · exact ⟨j + 1, child, rest, by rw [Nat.add_assoc, Nat.add_comm 1], hchild, hrest⟩
    · rintro ⟨j, child, rest, rfl, hchild, hrest⟩
      cases j with
      | zero =>
        cases hchild
        exact Or.inl ⟨rest, hrest, rfl⟩
      | succ j =>
        exact Or.inr ⟨j, child, rest, by rw [Nat.add_assoc, Nat.add_comm 1], hchild, hrest⟩

/-- The places of an outline are the paths that lead to a node. -/
theorem mem_places_iff {o : Outline} {path : List Nat} :
    path ∈ o.places ↔ (o.at? path).isSome := by
  induction path generalizing o with
  | nil => simp [places_eq, at?]
  | cons i path ih =>
    rw [places_eq, List.mem_cons, mem_placesFrom_iff, Option.isSome_iff_exists]
    constructor
    · rintro (hnil | ⟨j, child, rest, hpath, hchild, hrest⟩)
      · cases hnil
      · rw [Nat.zero_add] at hpath
        cases hpath
        obtain ⟨x, hx⟩ := Option.isSome_iff_exists.mp (ih.mp hrest)
        exact ⟨x, at?_cons_eq_some_iff.mpr ⟨child, hchild, hx⟩⟩
    · rintro ⟨x, hx⟩
      obtain ⟨child, hchild, hx⟩ := at?_cons_eq_some_iff.mp hx
      have hrest : path ∈ child.places := ih.mpr (Option.isSome_iff_exists.mpr ⟨x, hx⟩)
      exact Or.inr ⟨i, child, path, by rw [Nat.zero_add], hchild, hrest⟩

mutual

theorem nodup_places : ∀ o : Outline, o.places.Nodup
  | ⟨content, span, kind, children⟩ => by
    rw [places, List.nodup_cons]
    refine ⟨?_, nodup_placesFrom 0 children⟩
    intro hmem
    obtain ⟨j, child, rest, hpath, -⟩ := mem_placesFrom_iff.mp hmem
    cases hpath

theorem nodup_placesFrom (i : Nat) : ∀ os : List Outline, (placesFrom i os).Nodup
  | [] => by
    rw [placesFrom]
    exact List.nodup_nil
  | o :: os => by
    rw [placesFrom]
    refine List.Nodup.append ?_ (nodup_placesFrom (i + 1) os) ?_
    · exact (nodup_places o).map fun path path' h => (List.cons.inj h).2
    · -- the first steps of the paths tell the outlines apart
      intro path hfirst hrest
      obtain ⟨rest, -, rfl⟩ := List.mem_map.mp hfirst
      obtain ⟨j, child, rest', hpath, -⟩ := mem_placesFrom_iff.mp hrest
      have hi : i = i + 1 + j := (List.cons.inj hpath).1
      omega

end

mutual

/-- What the places lead to is the listing. -/
theorem map_at?_places : ∀ o : Outline, o.places.map o.at? = o.preorder.map some
  | ⟨content, span, kind, children⟩ => by
    rw [places, preorder, List.map_cons, List.map_cons]
    congr 1
    apply map_placesFrom
    intro j child hchild path
    rw [Nat.zero_add, at?, hchild, Option.bind_some]

theorem map_placesFrom {i : Nat} {follow : List Nat → Option Outline} : ∀ {os : List Outline},
    (∀ j child, os[j]? = some child → ∀ path, follow ((i + j) :: path) = child.at? path) →
    (placesFrom i os).map follow = (preorderAll os).map some
  | [], _ => by rw [placesFrom, preorderAll, List.map_nil, List.map_nil]
  | o :: os, h => by
    have hfirst : follow ∘ (i :: ·) = o.at? := funext fun path => h 0 o rfl path
    rw [placesFrom, preorderAll, List.map_append, List.map_append, List.map_map, hfirst,
      map_at?_places o]
    congr 1
    apply map_placesFrom
    intro j child hchild path
    rw [Nat.add_assoc, Nat.add_comm 1]
    exact h (j + 1) child hchild path

end

/-! ## Number of nodes and height -/

theorem length_preorderAll (os : List Outline) :
    (preorderAll os).length = (os.map nodeCount).sum := by
  induction os with
  | nil => rw [preorderAll, List.length_nil, List.map_nil, List.sum_nil]
  | cons o os ih =>
    rw [preorderAll, List.length_append, ih, List.map_cons, List.sum_cons, nodeCount_eq_length]

theorem nodeCount_eq_sum (o : Outline) : o.nodeCount = 1 + (o.children.map nodeCount).sum := by
  rw [nodeCount_eq_length, preorder_eq, List.length_cons, length_preorderAll, Nat.add_comm]

theorem nodeCount_withChildren (o : Outline) (os : List Outline) :
    (o.withChildren os).nodeCount = o.nodeCount + (os.map nodeCount).sum := by
  rw [nodeCount_eq_sum, nodeCount_eq_sum o, withChildren, List.map_append, List.sum_append,
    Nat.add_assoc]

theorem heights_append (os ps : List Outline) :
    heights (os ++ ps) = max (heights os) (heights ps) := by
  induction os with
  | nil => rw [List.nil_append, heights, Nat.zero_max]
  | cons o os ih => rw [List.cons_append, heights, heights, ih, Nat.max_assoc]

theorem heights_eq (os : List Outline) :
    heights os = (os.map fun o => 1 + o.height).foldr max 0 := by
  induction os with
  | nil => rw [heights, List.map_nil, List.foldr_nil]
  | cons o os ih => rw [heights, ih, List.map_cons, List.foldr_cons, Nat.add_comm]

theorem height_withChildren (o : Outline) (os : List Outline) :
    (o.withChildren os).height = max o.height ((os.map fun o => 1 + o.height).foldr max 0) := by
  rw [height_eq, height_eq o, withChildren, heights_append, heights_eq os]

mutual

theorem height_lt_length_preorder : ∀ o : Outline, o.height < o.preorder.length
  | ⟨content, span, kind, children⟩ => by
    rw [height, preorder, List.length_cons]
    exact Nat.lt_succ_of_le (heights_le_length_preorderAll children)

theorem heights_le_length_preorderAll : ∀ os : List Outline,
    heights os ≤ (preorderAll os).length
  | [] => by
    rw [heights]
    exact Nat.zero_le _
  | o :: os => by
    have hfirst := height_lt_length_preorder o
    have hrest := heights_le_length_preorderAll os
    rw [heights, preorderAll, List.length_append]
    omega

end

theorem height_lt_nodeCount (o : Outline) : o.height < o.nodeCount := by
  rw [nodeCount_eq_length]
  exact height_lt_length_preorder o

/-- **The iterator.** After any number of calls, the nodes still to come are the pre-order without
as many of its first nodes, and the next call yields the first of them, or nothing for ever once all
have been yielded. Each occurrence of a node, told by its path, is yielded once. The number of nodes
and the height follow the children. -/
theorem iterator_preorder (o : Outline) :
    (∀ k, (o.iterator.after k).toList = o.preorder.drop k ∧
        (o.iterator.after k).next?.map Prod.fst = o.preorder[k]? ∧
        ((o.iterator.after k).next? = none ↔ o.nodeCount ≤ k)) ∧
      (∃ paths : List (List Nat), paths.Nodup ∧ (∀ path, path ∈ paths ↔ (o.at? path).isSome) ∧
        paths.map o.at? = o.preorder.map some) ∧
      o.nodeCount = 1 + (o.children.map nodeCount).sum ∧ o.height < o.nodeCount ∧
      ∀ os, (o.withChildren os).nodeCount = o.nodeCount + (os.map nodeCount).sum ∧
        (o.withChildren os).height = max o.height ((os.map fun o => 1 + o.height).foldr max 0) := by
  refine ⟨?_, ?_, nodeCount_eq_sum o, height_lt_nodeCount o, ?_⟩
  · intro k
    exact ⟨toList_after_iterator o k, map_fst_next?_after o k, next?_after_eq_none_iff⟩
  · exact ⟨o.places, nodup_places o, fun path => mem_places_iff, map_at?_places o⟩
  · intro os
    exact ⟨nodeCount_withChildren o os, height_withChildren o os⟩

end SyntaxOutline.Outline
