import SyntaxOutline.Span

/-!
# Outlines

An outline is a tree of nodes, each with a content, a span in the source, perhaps a kind, and
children in source order.
-/

namespace SyntaxOutline

/-- A node of an outline with everything below it. -/
structure Outline where
  content : String
  span : Span
  kind : Option String
  children : List Outline
deriving Repr

namespace Outline

/-- A node without kind and children. -/
def leaf (content : String) (span : Span) : Outline := ⟨content, span, none, []⟩

instance : Inhabited Outline := ⟨leaf "" default⟩

def withKind (o : Outline) (kind : String) : Outline := { o with kind := some kind }

/-- The node with further children behind its own. -/
def withChildren (o : Outline) (children : List Outline) : Outline :=
  { o with children := o.children ++ children }

def isLeaf (o : Outline) : Bool := o.children.isEmpty

/-- The node reached by a path of child indexes. -/
def at? (o : Outline) : List Nat → Option Outline
  | [] => some o
  | i :: path => o.children[i]?.bind (·.at? path)

/-! ## Height -/

mutual

/-- The number of steps down to the deepest node. -/
def height : Outline → Nat
  | ⟨_, _, _, children⟩ => heights children

/-- The height of a node with the given children. -/
def heights : List Outline → Nat
  | [] => 0
  | o :: os => max (o.height + 1) (heights os)

end

/-! ## Equality -/

mutual

def decEq : (a b : Outline) → Decidable (a = b)
  | ⟨c, s, k, os⟩, ⟨c', s', k', os'⟩ =>
    match decEqList os os' with
    | isTrue h =>
      if h' : c = c' ∧ s = s' ∧ k = k' then
        isTrue (by obtain ⟨rfl, rfl, rfl⟩ := h'; rw [h])
      else isFalse (by intro e; injection e; simp_all)
    | isFalse h => isFalse (by intro e; injection e; contradiction)

def decEqList : (a b : List Outline) → Decidable (a = b)
  | [], [] => isTrue rfl
  | [], _ :: _ => isFalse (by simp)
  | _ :: _, [] => isFalse (by simp)
  | o :: os, o' :: os' =>
    match decEq o o', decEqList os os' with
    | isTrue h, isTrue h' => isTrue (by rw [h, h'])
    | isFalse h, _ => isFalse (by simp [h])
    | _, isFalse h => isFalse (by simp [h])

end

instance : DecidableEq Outline := decEq

end Outline

end SyntaxOutline
