import SyntaxOutline.LineEnding
import SyntaxOutline.Outline.Json
import SyntaxOutline.Outline.Preorder
import SyntaxOutline.Source.Tree
import SyntaxOutline.Walk.Options

/-!
# Walking a source tree

A walk enters the nodes in pre-order and makes an outline of the same shape. At each node it checks
the depth, then the number of nodes entered so far, then takes the text and marks its line endings.
The first check that fails ends the walk.

* `WalkOptions.enter` : what happens at one node.
* `SourceTree.walk` : the outline of a tree, or why there is none.
-/

namespace SyntaxOutline

/-- Enters a node at the given depth as the node of the given number: the outline node without
children. -/
def WalkOptions.enter (o : WalkOptions) (depth count : Nat) (label : Label) :
    Except WalkFailure Outline :=
  match o.limits.allowsDepth depth, o.limits.allowsCount count with
  | false, _ => .error (.limitExceeded .depth (o.limits.maxDepth.getD 0) label.span)
  | _, false => .error (.limitExceeded .nodes (o.limits.maxNodes.getD 0) label.span)
  | true, true => do
    let text ← label.text
    return ⟨LineEnding.mark text, label.span, if o.includeKinds then label.kind else none, []⟩

namespace SourceTree

mutual

/-- Walks a tree at the given depth, with the number of nodes entered before; gives the outline and
the number of nodes entered after. -/
def walkFrom (o : WalkOptions) (depth count : Nat) : SourceTree → Except WalkFailure (Outline × Nat)
  | .leaf label => do
    let node ← o.enter depth (count + 1) label
    return (node, count + 1)
  | .container label children => do
    let node ← o.enter depth (count + 1) label
    let (children, count) ← walkAll o (depth + 1) (count + 1) children
    return ({ node with children }, count)

/-- Walks several trees one behind the other. -/
def walkAll (o : WalkOptions) (depth count : Nat) :
    List SourceTree → Except WalkFailure (List Outline × Nat)
  | [] => .ok ([], count)
  | t :: ts => do
    let (outline, count) ← walkFrom o depth count t
    let (outlines, count) ← walkAll o depth count ts
    return (outline :: outlines, count)

end

/-- The outline of a tree. -/
def walk (o : WalkOptions) (t : SourceTree) : Except WalkFailure Outline :=
  (walkFrom o 0 0 t).map (·.1)

/-- The outline of a tree without limits and without kinds. -/
def outline (t : SourceTree) : Except WalkFailure Outline := t.walk {}

/-- The outline of a tree as compact JSON. -/
def serialize (o : WalkOptions) (t : SourceTree) : Except OutlineFailure String :=
  Outline.compactOf (t.walk o)

end SourceTree

end SyntaxOutline
