import SyntaxOutline.Outline.Basic

/-!
# Outlines in pre-order

* `Outline.preorder` : a node before its children, the children in order.
* `Outline.Iterator` : the same order one node at a time, with the nodes still to be entered on a
  stack.
* `Outline.nodeCount` : how many nodes the iterator yields.
-/

namespace SyntaxOutline.Outline

mutual

/-- The node, then the listings of its children. -/
def preorder : Outline → List Outline
  | ⟨content, span, kind, children⟩ => ⟨content, span, kind, children⟩ :: preorderAll children

/-- The listings of several outlines, one behind the other. -/
def preorderAll : List Outline → List Outline
  | [] => []
  | o :: os => o.preorder ++ preorderAll os

end

/-! ## One node at a time -/

/-- The outlines still to be listed, the next one on top. -/
structure Iterator where
  stack : List Outline

/-- The iterator at the root of an outline. -/
def iterator (o : Outline) : Iterator := ⟨[o]⟩

/-- Takes the top of the stack and puts its children in its place. -/
def Iterator.next? : Iterator → Option (Outline × Iterator)
  | ⟨[]⟩ => none
  | ⟨o :: stack⟩ => some (o, ⟨o.children ++ stack⟩)

mutual

/-- The number of nodes, which bounds the steps of an iterator. -/
def size : Outline → Nat
  | ⟨_, _, _, children⟩ => sizes children + 1

def sizes : List Outline → Nat
  | [] => 0
  | o :: os => o.size + sizes os

end

theorem sizes_append (os ps : List Outline) : sizes (os ++ ps) = sizes os + sizes ps := by
  induction os with
  | nil => simp [sizes]
  | cons o os ih => simp [sizes, ih, Nat.add_assoc]

theorem size_eq (o : Outline) : o.size = sizes o.children + 1 := by
  obtain ⟨_, _, _, children⟩ := o
  rw [size]

namespace Iterator

/-- The nodes that the iterator still yields, in its order. -/
def toList : Iterator → List Outline
  | ⟨[]⟩ => []
  | ⟨o :: stack⟩ => o :: toList ⟨o.children ++ stack⟩
termination_by it => sizes it.stack
decreasing_by
  simp only [sizes_append, sizes, size_eq o]
  omega

/-- How many nodes the iterator still yields. -/
def count (it : Iterator) : Nat := it.toList.length

end Iterator

/-- The number of nodes that the iterator yields. -/
def nodeCount (o : Outline) : Nat := o.iterator.count

end SyntaxOutline.Outline
