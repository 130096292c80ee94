import SyntaxOutline.Proofs.Concrete.Outline
import SyntaxOutline.Proofs.Text.LineEndings

/-!
# The contents of a node and of its tokens

The outline of a node holds the text of the node, and so do the outlines of its tokens, one behind
the other; but line endings are marked in each for itself. A line ending across the border of two
tokens, with nothing but empty tokens and nodes between them, is one line ending of the node and
none of the tokens.

* `tokenContents` : the contents of the tokens of an element, as an outline holds them.
* `tokenContents_toOutline` : they are the marked texts of the tokens.
* `walk_tokenContents` : how they compare with the content of the element.
-/

namespace SyntaxOutline.ConcreteTree

variable {κ : Type}

mutual

/-- The contents of the tokens of an element in its outline, in pre-order. An outline does not tell
a token from a node without children: the element does. -/
def tokenContents : ConcreteTree κ → Outline → List String
  | .token _ _, x => [x.content]
  | .node _ children, x => tokenContentsAll children x.children

def tokenContentsAll : List (ConcreteTree κ) → List Outline → List String
  | t :: ts, x :: xs => t.tokenContents x ++ tokenContentsAll ts xs
  | _, _ => []

end

mutual

theorem tokenContents_toOutline (showKind : κ → String) (includeKinds : Bool) (offset : Nat) :
    ∀ t : ConcreteTree κ,
      t.tokenContents (t.toOutline showKind includeKinds offset) = t.tokens.map LineEnding.mark
  | .token kind text => by rw [toOutline, tokenContents, tokens, List.map_singleton]
  | .node kind children => by
    rw [toOutline, tokenContents, tokens, tokenContentsAll_toOutlines]

theorem tokenContentsAll_toOutlines (showKind : κ → String) (includeKinds : Bool) (offset : Nat) :
    ∀ ts : List (ConcreteTree κ),
      tokenContentsAll ts (toOutlines showKind includeKinds offset ts) =
        (tokensAll ts).map LineEnding.mark
  | [] => by
    rw [tokensAll, List.map_nil, toOutlines, tokenContentsAll]
    nofun
  | t :: ts => by
    rw [toOutlines, tokenContentsAll, tokensAll, List.map_append, tokenContents_toOutline,
      tokenContentsAll_toOutlines]

end

/-- **Tokens.** Without limits the walk of a tree succeeds. Whatever outline a walk gives, it holds
every element of the tree, and the contents of the tokens of an element, put together, have more
bytes than the content of the element by the number of line endings that lie across the border of
two of the tokens. So they are the same text if and only if there is no such border. -/
theorem walk_tokenContents (showKind : κ → String) (t : ConcreteTree κ) :
    (∀ includeKinds, ∃ n, (t.toSource showKind 0).walk ⟨{}, includeKinds⟩ = .ok n) ∧
      ∀ o n, (t.toSource showKind 0).walk o = .ok n → ∀ path e, t.at? path = some e →
        ∃ x, n.at? path = some x ∧
          (String.join (e.tokenContents x)).utf8ByteSize =
            x.content.utf8ByteSize + LineEnding.partings e.tokens ∧
          (String.join (e.tokenContents x) = x.content ↔ LineEnding.partings e.tokens = 0) := by
  constructor
  · intro includeKinds
    exact ⟨_, walk_eq_ok_iff.mpr
      ⟨rfl, SourceTree.depthFits_default _, SourceTree.countFits_default _⟩⟩
  · intro o n hwalk path e he
    obtain ⟨rfl, -⟩ := walk_eq_ok_iff.mp hwalk
    refine ⟨e.toOutline showKind o.includeKinds (0 + t.offsetAt path), ?_, ?_⟩
    · rw [at?_toOutline, he, Option.map_some]
    · rw [tokenContents_toOutline, toOutline_eq]
      exact ⟨LineEnding.utf8ByteSize_join_mark e.tokens, LineEnding.join_mark_eq_iff e.tokens⟩

/-- Two line endings across borders. The first has an empty token and an empty node between its
return and its feed, and the second lies within an inner node. -/
def borders : ConcreteTree String :=
  .node "root" [.token "word" "a\r", .node "gap" [.token "mark" "", .node "empty" []],
    .node "lines" [.token "end" "\n\r", .token "end" "\nb\r"], .token "word" "c"]

/-- The outline of the two line endings. -/
def bordersOutline : Outline :=
  ⟨"aLFLFb\rc", ⟨0, 8⟩, none, [⟨"a\r", ⟨0, 2⟩, none, []⟩,
    ⟨"", ⟨2, 0⟩, none, [⟨"", ⟨2, 0⟩, none, []⟩, ⟨"", ⟨2, 0⟩, none, []⟩]⟩,
    ⟨"LFLFb\r", ⟨2, 5⟩, none, [⟨"LF\r", ⟨2, 2⟩, none, []⟩, ⟨"LFb\r", ⟨4, 3⟩, none, []⟩]⟩,
    ⟨"c", ⟨7, 1⟩, none, []⟩]⟩

/-- The tokens have two bytes more than the root, one more than the inner node that holds one of the
borders, and none more than the empty one. -/
theorem walk_tokenContents_borders :
    (borders.toSource id 0).walk {} = .ok bordersOutline ∧
      borders.tokenContents bordersOutline = ["a\r", "", "LF\r", "LFb\r", "c"] ∧
      (String.join (borders.tokenContents bordersOutline)).utf8ByteSize =
        bordersOutline.content.utf8ByteSize + 2 ∧
      (∃ e x, borders.at? [2] = some e ∧ bordersOutline.at? [2] = some x ∧
        (String.join (e.tokenContents x)).utf8ByteSize = x.content.utf8ByteSize + 1 ∧
        String.join (e.tokenContents x) ≠ x.content) ∧
      ∃ e x, borders.at? [1] = some e ∧ bordersOutline.at? [1] = some x ∧
        String.join (e.tokenContents x) = x.content := by
  have hwalk : (borders.toSource id 0).walk {} = .ok bordersOutline := rfl
  have hnodes := (walk_tokenContents id borders).2 {} _ hwalk
  obtain ⟨x, hx, hsize, -⟩ := hnodes [] _ rfl
  obtain ⟨x₂, hx₂, hsize₂, hsame₂⟩ := hnodes [2] _ rfl
  obtain ⟨x₁, hx₁, -, hsame₁⟩ := hnodes [1] _ rfl
  cases hx
  exact ⟨hwalk, rfl, hsize, ⟨_, x₂, rfl, hx₂, hsize₂, mt hsame₂.mp nofun⟩,
    _, x₁, rfl, hx₁, hsame₁.mpr rfl⟩

end SyntaxOutline.ConcreteTree
