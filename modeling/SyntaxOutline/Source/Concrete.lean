import SyntaxOutline.Source.Tree
import SyntaxOutline.Text.Utf8

/-!
# Concrete syntax trees

A concrete syntax tree holds the source text in its tokens: the text of a node is that of its
tokens, one behind the other, and every element begins where the one before it ends.

* `ConcreteTree.chars` : the text of an element.
* `ConcreteTree.toSource` : the element as a source tree, at its offset in the whole text.
-/

namespace SyntaxOutline

/-- An element of a concrete syntax tree, with kinds of type `κ`. -/
inductive ConcreteTree (κ : Type) where
  | token (kind : κ) (text : String)
  | node (kind : κ) (children : List (ConcreteTree κ))

namespace ConcreteTree

variable {κ : Type}

mutual

/-- The text of an element. -/
def chars : ConcreteTree κ → List Char
  | .token _ text => text.toList
  | .node _ children => charsAll children

/-- The texts of several elements, one behind the other. -/
def charsAll : List (ConcreteTree κ) → List Char
  | [] => []
  | t :: ts => t.chars ++ charsAll ts

end

/-- What an element at the given offset says about itself, given how kinds are shown. -/
def labelOf (showKind : κ → String) (offset : Nat) (kind : κ) (text : List Char) : Label where
  text := .ok (String.ofList text)
  span := ⟨UInt64.ofNat offset, UInt64.ofNat (Text.utf8Length text)⟩
  kind := some (showKind kind)

mutual

/-- The element at the given offset as a source tree. -/
def toSource (showKind : κ → String) (offset : Nat) : ConcreteTree κ → SourceTree
  | .token kind text => .leaf (labelOf showKind offset kind text.toList)
  | .node kind children =>
    .container (labelOf showKind offset kind (charsAll children))
      (toSources showKind offset children)

/-- Elements one behind the other, the first at the given offset. -/
def toSources (showKind : κ → String) (offset : Nat) : List (ConcreteTree κ) → List SourceTree
  | [] => []
  | t :: ts =>
    toSource showKind offset t :: toSources showKind (offset + Text.utf8Length t.chars) ts

end

end ConcreteTree

end SyntaxOutline
