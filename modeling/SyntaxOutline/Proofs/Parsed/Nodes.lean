import SyntaxOutline.Proofs.Walk.Listing
import SyntaxOutline.Source.Parsed

/-!
# The nodes of a parsed tree

The nodes of a parser's tree are reached by paths of child indexes, and listed in pre-order. Laying
the tree over a text changes neither.

* `at?_toSource` : what a path leads to.
* `listing_toSource` : the nodes in the order in which a walk enters them.
-/

namespace SyntaxOutline.ParsedTree

def kind : ParsedTree → String
  | .node kind _ _ _ => kind

def start : ParsedTree → UInt64
  | .node _ start _ _ => start

def stop : ParsedTree → UInt64
  | .node _ _ stop _ => stop

def children : ParsedTree → List ParsedTree
  | .node _ _ _ children => children

/-- The node reached by a path of child indexes. -/
def at? (t : ParsedTree) : List Nat → Option ParsedTree
  | [] => some t
  | i :: path => t.children[i]?.bind (·.at? path)

mutual

/-- The node, then the listings of its children. -/
def preorder : ParsedTree → List ParsedTree
  | .node kind start stop children => .node kind start stop children :: preorderAll children

/-- The listings of several trees, one behind the other. -/
def preorderAll : List ParsedTree → List ParsedTree
  | [] => []
  | t :: ts => t.preorder ++ preorderAll ts

end

/-- What a node says about itself over a text. -/
def labelIn (source : String) (t : ParsedTree) : Label := labelOf source t.kind t.start t.stop

theorem at?_append (t : ParsedTree) (path rest : List Nat) :
    t.at? (path ++ rest) = (t.at? path).bind (·.at? rest) := by
  induction path generalizing t with
  | nil => rfl
  | cons i path ih =>
    rw [List.cons_append, at?, at?]
    cases t.children[i]? with
    | none => rfl
    | some child => exact ih child

section

variable (source : String)

theorem toSources_eq (ts : List ParsedTree) : toSources source ts = ts.map (toSource source) := by
  induction ts with
  | nil => rw [toSources, List.map_nil]
  | cons t ts ih => rw [toSources, ih, List.map_cons]

/-- A node without children is a leaf, any other a container. -/
theorem toSource_eq (t : ParsedTree) :
    t.toSource source =
      if t.children = [] then .leaf (t.labelIn source)
      else .container (t.labelIn source) (t.children.map (toSource source)) := by
  obtain ⟨kind, start, stop, _ | ⟨child, children⟩⟩ := t
  · rw [toSource]
    rfl
  · rw [toSource, toSources_eq]
    rfl

theorem label_toSource (t : ParsedTree) : (t.toSource source).label = t.labelIn source := by
  rw [toSource_eq]
  split
  · rfl
  · rfl

/-- A path leads to the same node over a text. -/
theorem at?_toSource (t : ParsedTree) (path : List Nat) :
    (t.toSource source).at? path = (t.at? path).map (toSource source) := by
  induction path generalizing t with
  | nil => rfl
  | cons i path ih =>
    rw [SourceTree.at?, at?, toSource_eq]
    split
    · rename_i hnil
      rw [hnil]
      rfl
    · rw [SourceTree.children?, Option.bind_some, List.getElem?_map]
      cases t.children[i]? with
      | none => rfl
      | some child => exact ih child

mutual

theorem listing_toSource (depth : Nat) : ∀ t : ParsedTree,
    ((t.toSource source).listing depth).map Prod.snd = t.preorder.map (labelIn source)
  | .node kind start stop [] => by
    rw [toSource, SourceTree.listing, preorder, preorderAll]
    rfl
  | .node kind start stop (child :: children) => by
    rw [toSource, SourceTree.listing, preorder, List.map_cons, List.map_cons, ← toSources,
      listings_toSources (depth + 1) (child :: children)]
    rfl

theorem listings_toSources (depth : Nat) : ∀ ts : List ParsedTree,
    (SourceTree.listings depth (toSources source ts)).map Prod.snd =
      (preorderAll ts).map (labelIn source)
  | [] => by
    rw [toSources, SourceTree.listings, preorderAll]
    rfl
  | t :: ts => by
    rw [toSources, SourceTree.listings, preorderAll, List.map_append, List.map_append,
      listing_toSource depth t, listings_toSources depth ts]

end

end

end SyntaxOutline.ParsedTree
