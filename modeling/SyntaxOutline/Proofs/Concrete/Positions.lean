import SyntaxOutline.Proofs.Concrete.Outline

/-!
# Where the nodes of an outline stand in the source

The offsets of a concrete syntax tree add up from left to right while its texts are put together
from below. Both meet in the outline of any of its elements: every node covers its own tokens in the
whole text (`covers_toOutline`), and the children of a node lie one behind the other from its start
to its end (`tile_toOutline`).
-/

namespace SyntaxOutline.ConcreteTree

variable {κ : Type}

/-- The text in front of an element, its own, and the text behind it. -/
theorem exists_text_eq {root e : ConcreteTree κ} {path : List Nat} (h : root.at? path = some e) :
    ∃ after, root.text = String.join (root.tokensBefore path) ++ e.text ++ after := by
  obtain ⟨after, hafter⟩ := exists_tokens_eq h
  refine ⟨String.join after, ?_⟩
  rw [text, hafter, String.join_append, String.join_append]
  rfl

section

variable {root e : ConcreteTree κ} {path : List Nat} (hat : root.at? path = some e)
include hat

theorem offsetAt_add_le : root.offsetAt path + e.text.utf8ByteSize ≤ root.text.utf8ByteSize := by
  obtain ⟨after, hafter⟩ := exists_text_eq hat
  rw [hafter, String.utf8ByteSize_append, String.utf8ByteSize_append, offsetAt]
  exact Nat.le_add_right _ _

/-- The outline of an element covers the tokens of the element in the whole text. -/
theorem covers_toOutline (hsize : root.text.utf8ByteSize < UInt64.size) (showKind : κ → String)
    (includeKinds : Bool) :
    (e.toOutline showKind includeKinds (root.offsetAt path)).span.Covers root.text
      (String.join (root.tokensBefore path)) e.text := by
  have hfits : root.offsetAt path + e.text.utf8ByteSize < UInt64.size :=
    Nat.lt_of_le_of_lt (offsetAt_add_le hat) hsize
  rw [toOutline_eq]
  refine ⟨exists_text_eq hat, ?_, ?_⟩
  · exact Span.toNat_ofBytes_start hfits
  · rw [String.utf8ByteSize_append]
    exact Span.toNat_ofBytes_stop hfits

end

/-- Outlines of elements one behind the other have spans one behind the other. -/
theorem tile_toOutlines (showKind : κ → String) (includeKinds : Bool) {offset : Nat}
    {ts : List (ConcreteTree κ)}
    (h : offset + (String.join (tokensAll ts)).utf8ByteSize < UInt64.size) :
    Span.Tile (UInt64.ofNat offset)
      ((toOutlines showKind includeKinds offset ts).map Outline.span)
      (UInt64.ofNat (offset + (String.join (tokensAll ts)).utf8ByteSize)) := by
  induction ts generalizing offset with
  | nil =>
    rw [toOutlines, tokensAll]
    exact congrArg UInt64.ofNat (Nat.add_zero offset).symm
  | cons t ts ih =>
    rw [tokensAll, String.join_append, String.utf8ByteSize_append, ← Nat.add_assoc] at h ⊢
    have htile := ih h
    rw [toOutlines, List.map_cons, Span.Tile, toOutline_eq]
    refine ⟨rfl, ?_⟩
    have hstop : (Span.ofBytes offset t.text.utf8ByteSize).stop =
        UInt64.ofNat (offset + t.text.utf8ByteSize) := Span.ofBytes_stop (by unfold text; omega)
    rw [hstop]
    exact htile

/-- The children of a node lie one behind the other from its start to its end. -/
theorem tile_toOutline (showKind : κ → String) (includeKinds : Bool) {offset : Nat}
    {t : ConcreteTree κ} (h : offset + t.text.utf8ByteSize < UInt64.size) (hne : t.children ≠ []) :
    Span.Tile (t.toOutline showKind includeKinds offset).span.start
      ((t.toOutline showKind includeKinds offset).children.map Outline.span)
      (t.toOutline showKind includeKinds offset).span.stop := by
  have htext : t.text = String.join (tokensAll t.children) := by rw [text, tokens_eq t hne]
  rw [toOutline_eq]
  dsimp only
  rw [Span.ofBytes_stop h, htext]
  rw [htext] at h
  exact tile_toOutlines showKind includeKinds h

/-- **Positions.** Let any element of a tree with less than 4 GiB of text be walked, for itself but
within its tree. Without limits the walk succeeds. Whatever outline it gives, each node of it starts
behind the bytes of all tokens in front of the node, lies in the text between two characters, has
the bytes there as its content, with line endings marked, and has no gaps between its children. -/
theorem walk_positions (showKind : κ → String) (root : ConcreteTree κ)
    (hsize : root.text.utf8ByteSize < UInt32.size) (path : List Nat) (e : ConcreteTree κ)
    (hat : root.at? path = some e) :
    ∃ source, (root.toSource showKind 0).at? path = some source ∧
      (∀ includeKinds, ∃ n, source.walk ⟨{}, includeKinds⟩ = .ok n) ∧
      ∀ o n, source.walk o = .ok n → ∀ rest x, n.at? rest = some x →
        ∃ before own, before = String.join (root.tokensBefore (path ++ rest)) ∧
          x.span.Covers root.text before own ∧ x.span.stop.toNat ≤ root.text.utf8ByteSize ∧
          root.text.toUTF8.extract x.span.range.1.toNat x.span.range.2.toNat = own.toUTF8 ∧
          x.content = LineEnding.mark own ∧
          (x.children ≠ [] →
            Span.Tile x.span.start (x.children.map Outline.span) x.span.stop) := by
  have hword : root.text.utf8ByteSize < UInt64.size := Nat.lt_trans hsize (by decide)
  refine ⟨e.toSource showKind (root.offsetAt path), ?_, ?_, ?_⟩
  · rw [at?_toSource, hat, Nat.zero_add, Option.map_some]
  · intro includeKinds
    refine ⟨_, walk_eq_ok_iff.mpr ⟨rfl, ?_, ?_⟩⟩
    · intro max hmax
      cases hmax
    · intro max hmax
      cases hmax
  · intro o n hwalk rest x hx
    obtain ⟨rfl, -⟩ := walk_eq_ok_iff.mp hwalk
    rw [at?_toOutline, Option.map_eq_some_iff, ← offsetAt_append hat] at hx
    obtain ⟨e', he', rfl⟩ := hx
    have hat' : root.at? (path ++ rest) = some e' := by rw [at?_append, hat, Option.bind_some, he']
    have hcovers := covers_toOutline hat' hword showKind o.includeKinds
    refine ⟨_, e'.text, rfl, hcovers, hcovers.stop_le, hcovers.extract_eq, ?_, ?_⟩
    · rw [toOutline_eq]
    · intro hne
      apply tile_toOutline
      · exact Nat.lt_of_le_of_lt (offsetAt_add_le hat') hword
      · intro hnil
        apply hne
        rw [toOutline_eq, hnil, toOutlines]

/-- A line with an empty token and an empty node in it, between a letter of two bytes and the end of
the line. -/
def line : ConcreteTree String :=
  .node "root" [.token "word" "é",
    .node "line" [.token "word" "x", .token "mark" "", .node "empty" []], .token "end" "\r\n"]

/-- The outline of the inner node. -/
def lineOutline : Outline :=
  ⟨"x", ⟨2, 1⟩, none, [⟨"x", ⟨2, 1⟩, none, []⟩, ⟨"", ⟨3, 0⟩, none, []⟩, ⟨"", ⟨3, 0⟩, none, []⟩]⟩

/-- The inner node is walked. It stands behind the two bytes of the letter, and its three children
fill it, two of them with nothing. -/
theorem walk_positions_line :
    line.text.utf8ByteSize < UInt32.size ∧ (line.at? [1]).isSome ∧
      ∃ source, (line.toSource id 0).at? [1] = some source ∧ source.walk {} = .ok lineOutline ∧
        (∃ own, lineOutline.span.Covers line.text "é" own ∧
          lineOutline.content = LineEnding.mark own) ∧
        Span.Tile lineOutline.span.start (lineOutline.children.map Outline.span)
          lineOutline.span.stop ∧
        ∃ own, Span.Covers ⟨3, 0⟩ line.text "éx" own ∧ "" = LineEnding.mark own := by
  have hsize : line.text.utf8ByteSize < UInt32.size := by decide
  obtain ⟨source, hsource, -, hnodes⟩ := walk_positions id line hsize [1] _ rfl
  have hwalk : source.walk {} = .ok lineOutline := by
    cases hsource
    rfl
  obtain ⟨_, own, rfl, hcovers, -, -, hcontent, htile⟩ := hnodes {} lineOutline hwalk [] _ rfl
  obtain ⟨_, own', rfl, hcovers', -, -, hcontent', -⟩ := hnodes {} lineOutline hwalk [1] _ rfl
  exact ⟨hsize, rfl, source, hsource, hwalk, ⟨own, hcovers, hcontent⟩, htile nofun,
    own', hcovers', hcontent'⟩

end SyntaxOutline.ConcreteTree
