import SyntaxOutline.Walk.Tree

/-!
# Source graphs

The nodes of a source graph name their children by number, so that nodes may be shared and may lie
on cycles. A walk that goes round a cycle ends only if a limit stops it.

* `SourceGraph.walkFrom` : a walk that goes down at most a given number of levels.
* `SourceGraph.walk` : the outline from a root, `none` if the walk does not end.
-/

namespace SyntaxOutline

/-- A node with the numbers of its children, if it is a container. -/
structure GraphNode where
  label : Label
  children : Option (List Nat)

/-- Source nodes by number. -/
structure SourceGraph where
  nodes : Array GraphNode

/-- The outcome of a walk that may not end: `none` if it does not, otherwise a result or a
failure. -/
abbrev Outcome (α : Type) := Option (Except WalkFailure α)

namespace Outcome

variable {α β : Type}

/-- Goes on with the result of a walk that ended well. -/
def andThen : Outcome α → (α → Outcome β) → Outcome β
  | none, _ => none
  | some (.error failure), _ => some (.error failure)
  | some (.ok value), next => next value

end Outcome

namespace SourceGraph

/-- Walks from several nodes one behind the other, given how to walk from one of them with the
number of nodes entered before. -/
def walkEach (walk : Nat → Nat → Outcome (Outline × Nat)) :
    Nat → List Nat → Outcome (List Outline × Nat)
  | count, [] => some (.ok ([], count))
  | count, id :: ids =>
    (walk count id).andThen fun (outline, count) =>
      (walkEach walk count ids).andThen fun (outlines, count) =>
        some (.ok (outline :: outlines, count))

/-- Walks from the node with the given number, going down at most `levels` levels; `none` if that
is not enough, or if there is no such node. -/
def walkFrom (g : SourceGraph) (o : WalkOptions) :
    (levels depth count id : Nat) → Outcome (Outline × Nat)
  | 0, _, _, _ => none
  | levels + 1, depth, count, id =>
    match g.nodes[id]? with
    | none => none
    | some node =>
      Outcome.andThen (some (o.enter depth (count + 1) node.label)) fun outline =>
        (walkEach (walkFrom g o levels (depth + 1)) (count + 1) (node.children.getD [])).andThen
          fun (children, count) => some (.ok ({ outline with children }, count))

/-- How many levels a walk can go down before it has passed a limit or gone round a cycle. -/
def levels (g : SourceGraph) (o : WalkOptions) : Nat :=
  match o.limits.maxDepth, o.limits.maxNodes with
  | some depth, some nodes => min depth.toNat nodes.toNat + 2
  | some depth, none => depth.toNat + 2
  | none, some nodes => nodes.toNat + 2
  | none, none => g.nodes.size + 1

/-- The outline from the node with the given number, `none` if the walk does not end. -/
def walk (g : SourceGraph) (o : WalkOptions) (root : Nat) : Outcome Outline :=
  (g.walkFrom o (g.levels o) 0 0 root).andThen fun (outline, _) => some (.ok outline)

end SourceGraph

end SyntaxOutline
