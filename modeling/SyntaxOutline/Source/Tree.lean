import SyntaxOutline.Walk.Failure

/-!
# Source trees

A source tree is what a walk goes through: nodes with a text, which may be impossible to give, a
span and perhaps a kind. A container has children, possibly none; a leaf has not.
-/

namespace SyntaxOutline

/-- What a source node says about itself. -/
structure Label where
  text : Except WalkFailure String
  span : Span
  kind : Option String

/-- A finite tree of source nodes. -/
inductive SourceTree where
  | leaf (label : Label)
  | container (label : Label) (children : List SourceTree)

namespace SourceTree

def label : SourceTree → Label
  | .leaf label => label
  | .container label _ => label

/-- The children of a container. -/
def children? : SourceTree → Option (List SourceTree)
  | .leaf _ => none
  | .container _ children => some children

/-- The node reached by a path of child indexes through containers. -/
def at? (t : SourceTree) : List Nat → Option SourceTree
  | [] => some t
  | i :: path => t.children?.bind fun children => children[i]?.bind (·.at? path)

end SourceTree

end SyntaxOutline
