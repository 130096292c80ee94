import SyntaxOutline.Proofs.Text.Slices
import SyntaxOutline.Proofs.Walk.Descent

/-!
# Parsed trees over a text

A parsed tree may be laid over any text, also over one that it was not made from. A walk of it
succeeds if and only if every node fits the text, and then each node of the outline holds the bytes
in the range of its node; otherwise the walk ends at the first node that does not fit. Whether a
node fits is a matter of its own range: its parent may fit where it does not.

* `Fits` : the range lies in the text, between characters.
* `Fits.exists_text`, `text_of_not_fits` : a node has a text if and only if it fits.
* `outline_fits` : the outcome of every walk without limits.
-/

namespace SyntaxOutline.ParsedTree

/-- The range of the node lies in the text, and both of its ends fall between characters. -/
structure Fits (source : String) (t : ParsedTree) : Prop where
  ordered : t.start ≤ t.stop
  within : t.stop.toNat ≤ source.utf8ByteSize
  start : (⟨t.start.toNat⟩ : String.Pos.Raw).IsValid source
  stop : (⟨t.stop.toNat⟩ : String.Pos.Raw).IsValid source

/-- The reason given for a node that does not fit: its kind and the size of the text. -/
def misfit (source : String) (t : ParsedTree) : String :=
  t.kind ++ s!" node does not fit a {source.utf8ByteSize}-byte source" ++ " on character boundaries"

/-! ## One node -/

section

variable {source : String} {t : ParsedTree}

theorem fits_iff_exists_slice? :
    t.Fits source ↔ ∃ own, Text.slice? source.toList t.start.toNat t.stop.toNat = some own := by
  rw [Text.exists_slice?_iff]
  constructor
  · rintro ⟨ordered, -, start, stop⟩
    exact ⟨UInt64.le_iff_toNat_le.mp ordered, start, stop⟩
  · rintro ⟨ordered, start, stop⟩
    exact ⟨UInt64.le_iff_toNat_le.mpr ordered, stop.le_rawEndPos, start, stop⟩

/-- A node that fits has the text that its span covers. -/
theorem Fits.exists_text (h : t.Fits source) :
    ∃ before own, (Span.ofRange t.start t.stop).Covers source before own ∧
      (t.labelIn source).text = .ok own := by
  obtain ⟨own, hslice⟩ := fits_iff_exists_slice?.mp h
  obtain ⟨before, after, htext, hbefore, hown⟩ := Text.slice?_eq_some_iff.mp hslice
  refine ⟨String.ofList before, String.ofList own, ⟨⟨String.ofList after, ?_⟩, ?_, ?_⟩, ?_⟩
  · rw [← String.ofList_append, ← String.ofList_append, ← htext, String.ofList_toList]
  · rw [Text.utf8ByteSize_ofList, hbefore]
    rfl
  · rw [← String.ofList_append, Text.utf8ByteSize_ofList, hown]
    exact congrArg (fun range => range.2.toNat) (Span.range_ofRange h.ordered)
  · simp only [labelIn, labelOf, textOf, hslice]

theorem text_of_not_fits (h : ¬ t.Fits source) :
    (t.labelIn source).text =
      .error (.malformed (.ofRange t.start t.stop) (t.misfit source)) := by
  rw [fits_iff_exists_slice?, not_exists] at h
  have hslice := Option.eq_none_iff_forall_ne_some.mpr h
  simp only [labelIn, labelOf, textOf, hslice, misfit, Text.utf8Length_toList]

theorem exists_text_iff : (∃ s, (t.labelIn source).text = .ok s) ↔ t.Fits source := by
  constructor
  · rintro ⟨s, hs⟩
    by_contra hfits
    rw [text_of_not_fits hfits] at hs
    cases hs
  · intro h
    obtain ⟨before, own, -, hown⟩ := h.exists_text
    exact ⟨own, hown⟩

/-- A node of an outline holds the bytes in the range of the parsed node that it mirrors. -/
theorem holds_of_mirrors {includeKinds : Bool} {x : Outline}
    (h : SourceTree.Mirrors includeKinds (t.toSource source) x) :
    x.span.range = (t.start, t.stop) ∧
      ∃ own, source.toUTF8.extract t.start.toNat t.stop.toNat = own.toUTF8 ∧
        x.content = LineEnding.mark own := by
  have hspan := h.span_eq
  obtain ⟨s, htext, hcontent⟩ := h.exists_text
  rw [label_toSource] at hspan htext
  have hfits : t.Fits source := exists_text_iff.mp ⟨s, htext⟩
  obtain ⟨before, own, hcovers, hown⟩ := hfits.exists_text
  obtain rfl : own = s := by simpa [hown] using htext
  have hrange := Span.range_ofRange hfits.ordered
  have hbytes := hcovers.extract_eq
  rw [hrange] at hbytes
  exact ⟨by rw [hspan]; exact hrange, own, hbytes, hcontent⟩

end

/-! ## All nodes -/

section

variable (source : String) (t : ParsedTree)

theorem exists_outline_iff :
    (∃ n, (t.toSource source).outline = .ok n) ↔ ∀ x ∈ t.preorder, x.Fits source := by
  rw [SourceTree.exists_outline_iff, listing_toSource, List.forall_mem_map]
  simp only [exists_text_iff]

/-- The walk ends at the first node that does not fit. -/
theorem outline_of_not_fits {before after : List ParsedTree} {x : ParsedTree}
    (hlisting : t.preorder = before ++ x :: after) (hbefore : ∀ y ∈ before, y.Fits source)
    (hx : ¬ x.Fits source) :
    (t.toSource source).outline =
      .error (.malformed (.ofRange x.start x.stop) (x.misfit source)) := by
  have hlabels := listing_toSource source 0 t
  rw [hlisting, List.map_append, List.map_cons] at hlabels
  refine SourceTree.outline_eq_error hlabels ?_ (text_of_not_fits hx)
  rw [List.forall_mem_map]
  intro y hy
  exact exists_text_iff.mpr (hbefore y hy)

theorem exists_first_misfit (h : ¬ ∀ x ∈ t.preorder, x.Fits source) :
    ∃ before x after, t.preorder = before ++ x :: after ∧ (∀ y ∈ before, y.Fits source) ∧
      ¬ x.Fits source := by
  classical
  obtain ⟨x, hx⟩ : ∃ x, t.preorder.find? (fun x => ¬ x.Fits source) = some x := by
    rw [← Option.isSome_iff_exists, List.find?_isSome]
    simpa using h
  obtain ⟨hmisfit, before, after, hlisting, hbefore⟩ := List.find?_eq_some_iff_append.mp hx
  exact ⟨before, x, after, hlisting, by simpa using hbefore, by simpa using hmisfit⟩

/-- **Fitting.** Without limits the walk of a parsed tree over a text succeeds if and only if every
node fits the text. The outline then has the paths of the tree, and each of its nodes has the range
of the node at the same path and the bytes of the text there as its content, with line endings
marked. Otherwise the walk fails at the first node in pre-order that does not fit, with the span of
its range, which is empty if the range is inverted, and a reason that names its kind and the size of
the text. -/
theorem outline_fits :
    ((∃ n, (t.toSource source).outline = .ok n) ↔ ∀ x ∈ t.preorder, x.Fits source) ∧
      (∀ n, (t.toSource source).outline = .ok n → ∀ path,
        ((t.at? path).isSome ↔ (n.at? path).isSome) ∧
        ∀ e x, t.at? path = some e → n.at? path = some x →
          x.span.range = (e.start, e.stop) ∧
            ∃ own, source.toUTF8.extract e.start.toNat e.stop.toNat = own.toUTF8 ∧
              x.content = LineEnding.mark own) ∧
      ((¬ ∀ x ∈ t.preorder, x.Fits source) →
        ∃ before x after, t.preorder = before ++ x :: after ∧ (∀ y ∈ before, y.Fits source) ∧
          ¬ x.Fits source ∧
          ∃ span, (t.toSource source).outline = .error (.malformed span (x.misfit source)) ∧
            span.start = x.start ∧
            span.length.toNat = max x.stop.toNat x.start.toNat - x.start.toNat) := by
  refine ⟨exists_outline_iff source t, ?_, ?_⟩
  · intro n hn path
    have hpaths := (SourceTree.descends_of_walk hn).paths path
    have hrel := (SourceTree.mirrors_of_walk hn).rel_at? path
    rw [at?_toSource] at hpaths hrel
    refine ⟨by rwa [Option.isSome_map] at hpaths, ?_⟩
    intro e x he hx
    rw [he, hx, Option.map_some] at hrel
    cases hrel with
    | some hmirrors => exact holds_of_mirrors hmirrors
  · intro h
    obtain ⟨before, x, after, hlisting, hbefore, hx⟩ := exists_first_misfit source t h
    exact ⟨before, x, after, hlisting, hbefore, hx, _,
      outline_of_not_fits source t hlisting hbefore hx, rfl, Span.toNat_ofRange_length _ _⟩

end

/-- The heading is walked over its text. Over another text of the same size its mark splits a
letter, although the nodes above it fit, and this is what the walk reports. -/
theorem outline_fits_heading :
    (∃ n, (heading.toSource "# é\n").outline = .ok n ∧
        ∃ x own, n.at? [0, 1] = some x ∧ x.span.range = (2, 4) ∧
          "# é\n".toUTF8.extract 2 4 = own.toUTF8 ∧ x.content = LineEnding.mark own) ∧
      (¬ ∀ x ∈ heading.preorder, x.Fits "éé\n") ∧
      (∃ before x after, heading.preorder = before ++ x :: after ∧
        (∀ y ∈ before, y.Fits "éé\n") ∧ ¬ x.Fits "éé\n" ∧
        ∃ span, (heading.toSource "éé\n").outline = .error (.malformed span (x.misfit "éé\n"))) ∧
      (heading.toSource "éé\n").outline = .error (.malformed ⟨0, 1⟩
        "mark node does not fit a 5-byte source on character boundaries") := by
  have hok : (heading.toSource "# é\n").outline = .ok ⟨"# éLF", ⟨0, 5⟩, none,
      [⟨"# éLF", ⟨0, 5⟩, none, [⟨"#", ⟨0, 1⟩, none, []⟩, ⟨"é", ⟨2, 2⟩, none, []⟩]⟩]⟩ := rfl
  have hmisfit : ¬ ∀ x ∈ heading.preorder, x.Fits "éé\n" := by
    rw [← (outline_fits "éé\n" heading).1]
    nofun
  obtain ⟨hrange, own, hbytes, hcontent⟩ :=
    ((outline_fits "# é\n" heading).2.1 _ hok [0, 1]).2 _ _ rfl rfl
  obtain ⟨before, x, after, hlisting, hbefore, hx, span, herror, -⟩ :=
    (outline_fits "éé\n" heading).2.2 hmisfit
  exact ⟨⟨_, hok, _, own, rfl, hrange, hbytes, hcontent⟩, hmisfit,
    ⟨before, x, after, hlisting, hbefore, hx, span, herror⟩, rfl⟩

end SyntaxOutline.ParsedTree
