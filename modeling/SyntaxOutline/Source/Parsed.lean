import SyntaxOutline.Source.Tree
import SyntaxOutline.Text.Utf8

/-!
# Parsed trees

A parser gives a tree of kinds and byte ranges without the text. Laid over a text, each node has the
bytes of its range, unless the range does not fit that text.
-/

namespace SyntaxOutline

/-- A node of a parser's tree: its kind, where it starts and stops, and its children. -/
inductive ParsedTree where
  | node (kind : String) (start stop : UInt64) (children : List ParsedTree)

namespace ParsedTree

/-- The text of a range, or why the range does not fit. -/
def textOf (source : String) (kind : String) (start stop : UInt64) : Except WalkFailure String :=
  match Text.slice? source.toList start.toNat stop.toNat with
  | some chars => .ok (String.ofList chars)
  | none =>
    .error (.malformed (.ofRange start stop)
      (kind ++ s!" node does not fit a {Text.utf8Length source.toList}-byte source"
        ++ " on character boundaries"))

def labelOf (source : String) (kind : String) (start stop : UInt64) : Label where
  text := textOf source kind start stop
  span := .ofRange start stop
  kind := some kind

mutual

/-- The tree laid over a text; a node is a container exactly if it has children. -/
def toSource (source : String) : ParsedTree → SourceTree
  | .node kind start stop [] => .leaf (labelOf source kind start stop)
  | .node kind start stop (child :: children) =>
    .container (labelOf source kind start stop) (toSource source child :: toSources source children)

def toSources (source : String) : List ParsedTree → List SourceTree
  | [] => []
  | t :: ts => toSource source t :: toSources source ts

end

end ParsedTree

end SyntaxOutline
