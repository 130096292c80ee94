import SyntaxOutline.Proofs.Concrete.Positions
import SyntaxOutline.Proofs.Parsed.Nodes

/-!
# Walking a part of a source

In the walk of a whole source a node is entered at some depth and behind some number of nodes; in a
walk of its own it is entered first, and at depth zero. If the walk of the whole succeeds, this
makes no difference: the walk of the part gives the same part of the outline. The outline of the
part mirrors it (`Mirrors.rel_at?`), and a part of an outline is neither higher nor larger than the
whole, so that it lies within the limits too.

* `Descends` : what a path leads to in the outline is the outline of what it leads to in the source.
* `SourceTree.descends_of_walk` : this holds of every walk that succeeds.
* `ConcreteTree.sourceAt?_append`, `ParsedTree.sourceAt?_append` : an element within a larger tree
  is a source whose paths go on in the tree.
-/

namespace SyntaxOutline

/-- The outline has the paths of the source, and the walk of what a path leads to in the source
gives what the path leads to in the outline. -/
structure Descends (o : WalkOptions) (sourceAt? : List Nat → Option SourceTree) (n : Outline) :
    Prop where
  paths : ∀ path, (sourceAt? path).isSome ↔ (n.at? path).isSome
  walks : ∀ path source x, sourceAt? path = some source → n.at? path = some x →
    source.walk o = .ok x

/-! ## Source trees -/

namespace SourceTree

/-- Along a path, what is reached in the outline mirrors what is reached in the tree. -/
theorem Mirrors.rel_at? {includeKinds : Bool} {t : SourceTree} {n : Outline}
    (h : Mirrors includeKinds t n) (path : List Nat) :
    Option.Rel (Mirrors includeKinds) (t.at? path) (n.at? path) := by
  induction path generalizing t n with
  | nil => exact .some h
  | cons i path ih =>
    rw [SourceTree.at?, Outline.at?]
    cases h with
    | leaf text => exact .none
    | @container label s children outlines text below =>
      rw [children?, Option.bind_some]
      have hchild := rel_getElem? below i
      generalize children[i]? = child, outlines[i]? = outline at hchild ⊢
      cases hchild with
      | none => exact .none
      | some hmirrors => exact ih hmirrors

/-- A part of an outline that lies within the limits lies within them for itself. -/
theorem walk_of_mirrors_at? {o : WalkOptions} {t x : SourceTree} {n m : Outline} {path : List Nat}
    (h : t.walk o = .ok n) (hm : n.at? path = some m) (hmirrors : Mirrors o.includeKinds x m) :
    x.walk o = .ok m := by
  obtain ⟨hdepth, hcount⟩ := fits_of_walk h
  apply walk_within hmirrors
  · apply hdepth.mono
    have hheight := Outline.height_at?_add_le hm
    omega
  · exact hcount.mono (Outline.nodeCount_at?_le hm)

theorem descends_of_walk {o : WalkOptions} {t : SourceTree} {n : Outline} (h : t.walk o = .ok n) :
    Descends o t.at? n := by
  have hmirrors := mirrors_of_walk h
  constructor
  · intro path
    have hrel := hmirrors.rel_at? path
    generalize t.at? path = source, n.at? path = outline at hrel
    cases hrel with
    | none => exact Iff.rfl
    | some _ => exact Iff.rfl
  · intro path source x hsource hx
    have hrel := hmirrors.rel_at? path
    rw [hsource, hx] at hrel
    cases hrel with
    | some hpart => exact walk_of_mirrors_at? h hx hpart

end SourceTree

/-! ## Elements within a larger tree -/

section

variable {κ : Type} (showKind : κ → String)

/-- The element that a path leads to, at its offset in the whole text. -/
def ConcreteTree.sourceAt? (root : ConcreteTree κ) (path : List Nat) : Option SourceTree :=
  (root.at? path).map (toSource showKind (root.offsetAt path))

theorem ConcreteTree.sourceAt?_append {root : ConcreteTree κ} {start : List Nat}
    {source : SourceTree} (h : root.sourceAt? showKind start = some source) (path : List Nat) :
    root.sourceAt? showKind (start ++ path) = source.at? path := by
  obtain ⟨e, he, rfl⟩ := Option.map_eq_some_iff.mp h
  rw [sourceAt?, at?_append, he, Option.bind_some, offsetAt_append he, at?_toSource]

end

/-- The node that a path leads to, laid over a text. -/
def ParsedTree.sourceAt? (text : String) (root : ParsedTree) (path : List Nat) :
    Option SourceTree :=
  (root.at? path).map (toSource text)

theorem ParsedTree.sourceAt?_append {text : String} {root : ParsedTree} {start : List Nat}
    {source : SourceTree} (h : root.sourceAt? text start = some source) (path : List Nat) :
    root.sourceAt? text (start ++ path) = source.at? path := by
  obtain ⟨e, he, rfl⟩ := Option.map_eq_some_iff.mp h
  rw [sourceAt?, at?_append, he, Option.bind_some, at?_toSource]

/-- **Descending.** If a walk succeeds, the same walk of any part of the source succeeds with the
same part of the outline, and both have the same paths. This holds of source trees, and of elements
of concrete syntax trees and of parsed trees, wherever they stand in a larger tree. -/
theorem walk_descends (o : WalkOptions) :
    (∀ (t : SourceTree) n, t.walk o = .ok n → Descends o t.at? n) ∧
      (∀ (κ : Type) (showKind : κ → String) (root : ConcreteTree κ) start source n,
        root.sourceAt? showKind start = some source → source.walk o = .ok n →
        Descends o (fun path => root.sourceAt? showKind (start ++ path)) n) ∧
      ∀ text (root : ParsedTree) start source n,
        root.sourceAt? text start = some source → source.walk o = .ok n →
        Descends o (fun path => root.sourceAt? text (start ++ path)) n := by
  refine ⟨?_, ?_, ?_⟩
  · intro t n h
    exact SourceTree.descends_of_walk h
  · intro κ showKind root start source n hsource h
    rw [funext (ConcreteTree.sourceAt?_append showKind hsource)]
    exact SourceTree.descends_of_walk h
  · intro text root start source n hsource h
    rw [funext (ParsedTree.sourceAt?_append hsource)]
    exact SourceTree.descends_of_walk h

/-- A parsed tree over a text with a letter of two bytes. -/
def ParsedTree.heading : ParsedTree :=
  .node "document" 0 5 [.node "heading" 0 5 [.node "mark" 0 1 [], .node "inline" 2 4 []]]

/-- With limits that are just wide enough for the whole, the list of a call is walked for itself. In
the inner node of a line the empty token is walked, and in a heading the letter; their spans are
those in the whole text. -/
theorem walk_descends_parts :
    (SourceTree.call.walk ⟨⟨some 2, some 4⟩, true⟩ = .ok SourceTree.callOutline ∧
        ∃ source x, SourceTree.call.at? [1] = some source ∧
          SourceTree.callOutline.at? [1] = some x ∧
          source.walk ⟨⟨some 2, some 4⟩, true⟩ = .ok x) ∧
      (∃ source, ConcreteTree.line.sourceAt? id [1] = some source ∧
        source.walk ⟨⟨some 2, some 4⟩, true⟩ = .ok ⟨"x", ⟨2, 1⟩, some "line",
          [⟨"x", ⟨2, 1⟩, some "word", []⟩, ⟨"", ⟨3, 0⟩, some "mark", []⟩,
            ⟨"", ⟨3, 0⟩, some "empty", []⟩]⟩ ∧
        ∃ part, ConcreteTree.line.sourceAt? id [1, 1] = some part ∧
          part.walk ⟨⟨some 2, some 4⟩, true⟩ = .ok ⟨"", ⟨3, 0⟩, some "mark", []⟩) ∧
      ∃ source, ParsedTree.heading.sourceAt? "# é\n" [0] = some source ∧
        source.walk ⟨⟨some 2, some 4⟩, true⟩ = .ok ⟨"# éLF", ⟨0, 5⟩, some "heading",
          [⟨"#", ⟨0, 1⟩, some "mark", []⟩, ⟨"é", ⟨2, 2⟩, some "inline", []⟩]⟩ ∧
        ∃ part, ParsedTree.heading.sourceAt? "# é\n" [0, 1] = some part ∧
          part.walk ⟨⟨some 2, some 4⟩, true⟩ = .ok ⟨"é", ⟨2, 2⟩, some "inline", []⟩ := by
  obtain ⟨htree, hconcrete, hparsed⟩ := walk_descends ⟨⟨some 2, some 4⟩, true⟩
  have hcall : SourceTree.call.walk ⟨⟨some 2, some 4⟩, true⟩ = .ok SourceTree.callOutline := rfl
  refine ⟨⟨hcall, _, _, rfl, rfl, (htree _ _ hcall).walks [1] _ _ rfl rfl⟩, ?_, ?_⟩
  · refine ⟨_, rfl, rfl, _, rfl, ?_⟩
    exact (hconcrete String id ConcreteTree.line [1] _ _ rfl rfl).walks [1] _ _ rfl rfl
  · refine ⟨_, rfl, rfl, _, rfl, ?_⟩
    exact (hparsed "# é\n" ParsedTree.heading [0] _ _ rfl rfl).walks [1] _ _ rfl rfl

end SyntaxOutline
