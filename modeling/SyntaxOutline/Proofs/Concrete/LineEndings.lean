import SyntaxOutline.Proofs.Concrete.Positions
import SyntaxOutline.Proofs.Text.LineEndings

/-!
# Outlines do not depend on the line-ending convention

If a carriage return is put in front of every line feed, token by token, the text of every element
changes in the same way, across the borders of its tokens (`text_addReturns`). So a walk gives the
same outline but for the spans, which grow by the returns that they take in.

* `Outline.withoutSpans` : what is left of an outline if spans do not count.
* `withoutSpans_addReturns` : this is the same for both conventions.
-/

namespace SyntaxOutline

/-! ## Outlines without spans -/

namespace Outline

mutual

/-- The outline with an empty span in place of each of its spans. -/
def withoutSpans : Outline → Outline
  | ⟨content, _, kind, children⟩ => ⟨content, ⟨0, 0⟩, kind, withoutSpansAll children⟩

def withoutSpansAll : List Outline → List Outline
  | [] => []
  | o :: os => o.withoutSpans :: withoutSpansAll os

end

mutual

theorem levels_withoutSpans (depth : Nat) : ∀ o : Outline,
    o.withoutSpans.levels depth = (o.levels depth).map fun p => (p.1, p.2.withoutSpans)
  | ⟨content, span, kind, children⟩ => by
    rw [withoutSpans, levels, levels, List.map_cons, levelsAll_withoutSpans, withoutSpans]

theorem levelsAll_withoutSpans (depth : Nat) : ∀ os : List Outline,
    levelsAll depth (withoutSpansAll os) =
      (levelsAll depth os).map fun p => (p.1, p.2.withoutSpans)
  | [] => by rw [withoutSpansAll, levelsAll, List.map_nil]
  | o :: os => by
    rw [withoutSpansAll, levelsAll, levelsAll, List.map_append, levels_withoutSpans,
      levelsAll_withoutSpans]

end

theorem height_withoutSpans (o : Outline) : o.withoutSpans.height = o.height := by
  have hle : ∀ h, o.withoutSpans.height ≤ h ↔ o.height ≤ h := by
    intro h
    rw [height_le_iff, height_le_iff, levels_withoutSpans]
    exact List.forall_mem_map
  exact Nat.le_antisymm ((hle _).mpr (Nat.le_refl _)) ((hle _).mp (Nat.le_refl _))

theorem nodeCount_withoutSpans (o : Outline) : o.withoutSpans.nodeCount = o.nodeCount := by
  rw [nodeCount_eq, nodeCount_eq, levels_withoutSpans, List.length_map]

end Outline

namespace ConcreteTree

variable {κ : Type}

/-! ## Trees with returns -/

mutual

/-- The element with a carriage return in front of every line feed of its tokens. -/
def addReturns : ConcreteTree κ → ConcreteTree κ
  | .token kind text => .token kind (LineEnding.addReturns text)
  | .node kind children => .node kind (addReturnsAll children)

def addReturnsAll : List (ConcreteTree κ) → List (ConcreteTree κ)
  | [] => []
  | t :: ts => t.addReturns :: addReturnsAll ts

end

theorem addReturnsAll_eq (ts : List (ConcreteTree κ)) : addReturnsAll ts = ts.map addReturns := by
  induction ts with
  | nil => rw [addReturnsAll, List.map_nil]
  | cons t ts ih => rw [addReturnsAll, ih, List.map_cons]

theorem kind_addReturns (t : ConcreteTree κ) : t.addReturns.kind = t.kind := by
  cases t with
  | token kind text => rw [addReturns, ConcreteTree.kind, ConcreteTree.kind]
  | node kind children => rw [addReturns, ConcreteTree.kind, ConcreteTree.kind]

theorem children_addReturns (t : ConcreteTree κ) :
    t.addReturns.children = t.children.map addReturns := by
  cases t with
  | token kind text => rw [addReturns, children, children, List.map_nil]
  | node kind children => rw [addReturns, ConcreteTree.children, addReturnsAll_eq,
      ConcreteTree.children]

mutual

theorem tokens_addReturns : ∀ t : ConcreteTree κ,
    t.addReturns.tokens = t.tokens.map LineEnding.addReturns
  | .token kind text => by rw [addReturns, tokens, tokens, List.map_singleton]
  | .node kind children => by
    rw [addReturns, tokens, tokens, addReturnsAll_eq, tokensAll_addReturns]

theorem tokensAll_addReturns : ∀ ts : List (ConcreteTree κ),
    tokensAll (ts.map addReturns) = (tokensAll ts).map LineEnding.addReturns
  | [] => rfl
  | t :: ts => by
    rw [List.map_cons, tokensAll, tokensAll, List.map_append, tokens_addReturns,
      tokensAll_addReturns]

end

/-- The text changes as its tokens do, although a token may end between a return and a feed. -/
theorem text_addReturns (t : ConcreteTree κ) :
    t.addReturns.text = LineEnding.addReturns t.text := by
  rw [text, tokens_addReturns, text, LineEnding.addReturns_join]

theorem tokensBefore_addReturns (t : ConcreteTree κ) (path : List Nat) :
    t.addReturns.tokensBefore path = (t.tokensBefore path).map LineEnding.addReturns := by
  induction path generalizing t with
  | nil => rfl
  | cons i path ih =>
    rw [tokensBefore, tokensBefore, children_addReturns, ← List.map_take, tokensAll_addReturns,
      List.getElem?_map, List.map_append]
    cases t.children[i]? with
    | none => rfl
    | some child => rw [Option.map_some, Option.elim_some, ih, Option.elim_some]

theorem at?_addReturns (t : ConcreteTree κ) (path : List Nat) :
    t.addReturns.at? path = (t.at? path).map addReturns := by
  induction path generalizing t with
  | nil => rfl
  | cons i path ih =>
    rw [at?, at?, children_addReturns, List.getElem?_map]
    cases t.children[i]? with
    | none => rfl
    | some child => exact ih child

/-- An element further on has as many more bytes in front of it as there are line feeds there. -/
theorem offsetAt_addReturns (t : ConcreteTree κ) (path : List Nat) :
    t.addReturns.offsetAt path =
      t.offsetAt path + LineEnding.feeds (String.join (t.tokensBefore path)) := by
  rw [offsetAt, tokensBefore_addReturns, ← LineEnding.addReturns_join,
    LineEnding.utf8ByteSize_addReturns, offsetAt]

theorem utf8ByteSize_text_addReturns (t : ConcreteTree κ) :
    t.addReturns.text.utf8ByteSize = t.text.utf8ByteSize + LineEnding.feeds t.text := by
  rw [text_addReturns, LineEnding.utf8ByteSize_addReturns]

/-! ## Outlines of trees with returns -/

section

variable (showKind : κ → String) (includeKinds : Bool)

mutual

/-- The outlines of an element in the two conventions differ in nothing but spans, wherever the
element stands. -/
theorem withoutSpans_addReturns (offset offset' : Nat) : ∀ t : ConcreteTree κ,
    ¬ ['\r', '\n'] <:+: t.text.toList →
    (t.addReturns.toOutline showKind includeKinds offset').withoutSpans =
      (t.toOutline showKind includeKinds offset).withoutSpans
  | .token kind text, h => by
    rw [toOutline_eq, toOutline_eq, Outline.withoutSpans, Outline.withoutSpans, text_addReturns,
      LineEnding.mark_addReturns h, kind_addReturns, children_addReturns, children, List.map_nil,
      toOutlines, toOutlines]
  | .node kind children, h => by
    have hchildren : ¬ ['\r', '\n'] <:+: (String.join (tokensAll children)).toList := h
    rw [toOutline_eq, toOutline_eq, Outline.withoutSpans, Outline.withoutSpans, text_addReturns,
      LineEnding.mark_addReturns h, kind_addReturns, children_addReturns, ConcreteTree.children,
      withoutSpansAll_addReturns offset offset' children hchildren]

theorem withoutSpansAll_addReturns (offset offset' : Nat) : ∀ ts : List (ConcreteTree κ),
    ¬ ['\r', '\n'] <:+: (String.join (tokensAll ts)).toList →
    Outline.withoutSpansAll (toOutlines showKind includeKinds offset' (ts.map addReturns)) =
      Outline.withoutSpansAll (toOutlines showKind includeKinds offset ts)
  | [], _ => by rw [List.map_nil, toOutlines, toOutlines]
  | t :: ts, h => by
    rw [tokensAll, String.join_append, String.toList_append] at h
    have hhead : ¬ ['\r', '\n'] <:+: t.text.toList := fun hpair =>
      h (hpair.trans (List.prefix_append _ _).isInfix)
    have htail : ¬ ['\r', '\n'] <:+: (String.join (tokensAll ts)).toList := fun hpair =>
      h (hpair.trans (List.suffix_append _ _).isInfix)
    rw [List.map_cons, toOutlines, toOutlines, Outline.withoutSpansAll, Outline.withoutSpansAll,
      withoutSpans_addReturns _ _ t hhead, withoutSpansAll_addReturns _ _ ts htail]

end

end

/-- **Line endings.** Let no carriage return stand in front of a line feed in the text of a tree,
and let one be put in front of every feed, token by token. A walk of the new tree succeeds if and
only if one of the old tree does, and the outlines then agree in everything but spans. The span of a
node gets longer by the feeds in the text of the node, and its start moves by the feeds in front of
it; in words of 64 bits, and without any loss if the new text is short enough for them. -/
theorem walk_addReturns (showKind : κ → String) (t : ConcreteTree κ)
    (hpair : ¬ ['\r', '\n'] <:+: t.text.toList) (o : WalkOptions) :
    ((∃ n', (t.addReturns.toSource showKind 0).walk o = .ok n') ↔
        ∃ n, (t.toSource showKind 0).walk o = .ok n) ∧
      ∀ n n', (t.toSource showKind 0).walk o = .ok n →
        (t.addReturns.toSource showKind 0).walk o = .ok n' →
        n'.withoutSpans = n.withoutSpans ∧
          ∀ path x, n.at? path = some x → ∃ e x', t.at? path = some e ∧ n'.at? path = some x' ∧
            x'.span.length = x.span.length + UInt64.ofNat (LineEnding.feeds e.text) ∧
            x'.span.start =
              x.span.start + UInt64.ofNat (LineEnding.feeds (String.join (t.tokensBefore path))) ∧
            (t.addReturns.text.utf8ByteSize < UInt64.size →
              x'.span.length.toNat = x.span.length.toNat + LineEnding.feeds e.text) := by
  have hsame := withoutSpans_addReturns showKind o.includeKinds 0 0 t hpair
  refine ⟨?_, ?_⟩
  · have hheight := congrArg Outline.height hsame
    have hcount := congrArg Outline.nodeCount hsame
    rw [Outline.height_withoutSpans, Outline.height_withoutSpans] at hheight
    rw [Outline.nodeCount_withoutSpans, Outline.nodeCount_withoutSpans] at hcount
    simp only [walk_eq_ok_iff, exists_eq_left, hheight, hcount]
  · intro n n' hn hn'
    obtain ⟨rfl, -⟩ := walk_eq_ok_iff.mp hn
    obtain ⟨rfl, -⟩ := walk_eq_ok_iff.mp hn'
    refine ⟨hsame, ?_⟩
    intro path x hx
    rw [at?_toOutline, Option.map_eq_some_iff] at hx
    obtain ⟨e, he, rfl⟩ := hx
    have he' : t.addReturns.at? path = some e.addReturns := by
      rw [at?_addReturns, he, Option.map_some]
    refine ⟨e, e.addReturns.toOutline showKind o.includeKinds (0 + t.addReturns.offsetAt path), he,
      by rw [at?_toOutline, he', Option.map_some], ?_, ?_, ?_⟩
    · rw [toOutline_eq, toOutline_eq]
      exact (congrArg UInt64.ofNat (utf8ByteSize_text_addReturns e)).trans (UInt64.ofNat_add _ _)
    · rw [toOutline_eq, toOutline_eq, Nat.zero_add, Nat.zero_add]
      exact (congrArg UInt64.ofNat (offsetAt_addReturns t path)).trans (UInt64.ofNat_add _ _)
    · intro hsize
      have hfits' : t.addReturns.offsetAt path + e.addReturns.text.utf8ByteSize < UInt64.size :=
        Nat.lt_of_le_of_lt (offsetAt_add_le he') hsize
      have hfits : t.offsetAt path + e.text.utf8ByteSize < UInt64.size := by
        rw [offsetAt_addReturns, utf8ByteSize_text_addReturns] at hfits'
        omega
      rw [toOutline_eq, toOutline_eq, Nat.zero_add, Nat.zero_add]
      dsimp only
      rw [Span.toNat_ofBytes_length hfits', Span.toNat_ofBytes_length hfits,
        utf8ByteSize_text_addReturns]

/-- Two lines with a lone return in each: behind a letter of two bytes, and right behind the feed of
the first line, in a token of its own. -/
def lines : ConcreteTree String :=
  .node "root" [.token "word" "é\r", .node "line" [.token "end" "x\n", .token "lone" "\r"],
    .token "end" "y\n"]

/-- The outline of the two lines, given the spans of its nodes in pre-order. -/
def linesOutline (root word line first lone last : Span) : Outline :=
  ⟨"é\rxLF\ryLF", root, none, [⟨"é\r", word, none, []⟩,
    ⟨"xLF\r", line, none, [⟨"xLF", first, none, []⟩, ⟨"\r", lone, none, []⟩]⟩,
    ⟨"yLF", last, none, []⟩]⟩

/-- Both trees are walked, and neither if three nodes are the limit. The inner node takes in one
return, the whole tree two. -/
theorem walk_addReturns_lines :
    ¬ ['\r', '\n'] <:+: lines.text.toList ∧
      (lines.toSource id 0).walk {} =
        .ok (linesOutline ⟨0, 8⟩ ⟨0, 3⟩ ⟨3, 3⟩ ⟨3, 2⟩ ⟨5, 1⟩ ⟨6, 2⟩) ∧
      (lines.addReturns.toSource id 0).walk {} =
        .ok (linesOutline ⟨0, 10⟩ ⟨0, 3⟩ ⟨3, 4⟩ ⟨3, 3⟩ ⟨6, 1⟩ ⟨7, 3⟩) ∧
      (linesOutline ⟨0, 10⟩ ⟨0, 3⟩ ⟨3, 4⟩ ⟨3, 3⟩ ⟨6, 1⟩ ⟨7, 3⟩).withoutSpans =
        (linesOutline ⟨0, 8⟩ ⟨0, 3⟩ ⟨3, 3⟩ ⟨3, 2⟩ ⟨5, 1⟩ ⟨6, 2⟩).withoutSpans ∧
      (∃ e, lines.at? [1] = some e ∧ (4 : UInt64) = 3 + UInt64.ofNat (LineEnding.feeds e.text)) ∧
      ¬ ∃ n', (lines.addReturns.toSource id 0).walk ⟨⟨none, some 3⟩, false⟩ = .ok n' := by
  have hpair : ¬ ['\r', '\n'] <:+: lines.text.toList := by
    rw [← chars_eq]
    decide
  have hwalk : (lines.toSource id 0).walk {} =
      .ok (linesOutline ⟨0, 8⟩ ⟨0, 3⟩ ⟨3, 3⟩ ⟨3, 2⟩ ⟨5, 1⟩ ⟨6, 2⟩) := rfl
  have hwalk' : (lines.addReturns.toSource id 0).walk {} =
      .ok (linesOutline ⟨0, 10⟩ ⟨0, 3⟩ ⟨3, 4⟩ ⟨3, 3⟩ ⟨6, 1⟩ ⟨7, 3⟩) := rfl
  have hlimit : ¬ ∃ n, (lines.toSource id 0).walk ⟨⟨none, some 3⟩, false⟩ = .ok n := nofun
  obtain ⟨hsame, hspans⟩ := (walk_addReturns id lines hpair {}).2 _ _ hwalk hwalk'
  obtain ⟨e, x', he, hx', hlength, -⟩ := hspans [1] _ rfl
  cases hx'
  refine ⟨hpair, hwalk, hwalk', hsame, ⟨e, he, hlength⟩, ?_⟩
  rwa [(walk_addReturns id lines hpair ⟨⟨none, some 3⟩, false⟩).1]

end ConcreteTree

end SyntaxOutline
