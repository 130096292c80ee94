import SyntaxOutline.Proofs.Outline.Paths
import SyntaxOutline.Proofs.Outline.RoundTrip

/-!
# Outlines that are read and written again

An outline is written with two brackets a level, but a node may be read from an object without a
list of children, which takes only one. So a text can hold an outline one level higher than the
texts that are written for outlines can, and this is the only exception: what was read is written
and read back, unless its lowest nodes stand in the last bracket that can be opened.

* `writtenAt?` : the value from which a node was read.
* `nesting_writtenAt?` : each step of a path takes two brackets.
* `ofJson?_bareText` : every outline up to height 63 has a text that is read as it.
* `ofJson?_reread` : what becomes of an outline that was read.
-/

namespace SyntaxOutline.Outline

open Json (Literal Tree Writes WritesItems named)

/-! ## Nodes in the text that was read -/

/-- The values written for the children of a node. -/
def childValues : Tree → List Tree
  | .object ms =>
    match named "Children" ms with
    | [.array items] => items
    | _ => []
  | _ => []

/-- The value written for the node that a path leads to. -/
def writtenAt? (v : Tree) : List Nat → Option Tree
  | [] => some v
  | i :: path => (childValues v)[i]?.bind (writtenAt? · path)

theorem Represents.forall₂_childValues {v : Tree} {o : Outline} (h : Represents v o) :
    List.Forall₂ Represents (childValues v) o.children := by
  cases h with
  | object names content start length kind children represent =>
    rcases children with ⟨hnone, rfl⟩ | hsome
    · simpa only [childValues, hnone] using represent
    · simpa only [childValues, hsome] using represent

/-- Every node was read from a value that represents it. -/
theorem Represents.exists_writtenAt? {v : Tree} {o x : Outline} {path : List Nat}
    (h : Represents v o) (hx : o.at? path = some x) :
    ∃ w, writtenAt? v path = some w ∧ Represents w x := by
  induction path generalizing v o with
  | nil =>
    cases hx
    exact ⟨v, rfl, h⟩
  | cons i path ih =>
    obtain ⟨child, hchild, hx⟩ := at?_cons_eq_some_iff.mp hx
    obtain ⟨value, hvalue, hrepresents⟩ := exists_left_of_getElem? h.forall₂_childValues hchild
    obtain ⟨w, hw, hx⟩ := ih hrepresents hx
    exact ⟨w, by rw [writtenAt?, hvalue, Option.bind_some, hw], hx⟩

/-! ## Brackets -/

theorem nesting_lt_of_mem_named {name : String} {ms : List (Literal × Tree)} {v : Tree}
    (h : v ∈ named name ms) : v.nesting < (Tree.object ms).nesting := by
  simp only [named, List.mem_map, List.mem_filter] at h
  obtain ⟨m, ⟨hm, -⟩, rfl⟩ := h
  rw [Tree.nesting]
  exact Nat.lt_succ_of_le (Json.memberNesting_le_iff.mp (Nat.le_refl _) m hm)

/-- The values of children stand in the list of children and in the object. -/
theorem nesting_childValues {v w : Tree} (h : w ∈ childValues v) : w.nesting + 2 ≤ v.nesting := by
  cases v with
  | object ms =>
    rw [childValues] at h
    split at h
    · rename_i items hitems
      have hlist : (Tree.array items).nesting < (Tree.object ms).nesting :=
        nesting_lt_of_mem_named (hitems ▸ List.mem_singleton_self _)
      have hitem := Json.itemNesting_le_iff.mp (Nat.le_refl _) w h
      rw [Tree.nesting] at hlist
      omega
    · cases h
  | _ => cases h

theorem nesting_writtenAt? {v w : Tree} {path : List Nat} (h : writtenAt? v path = some w) :
    w.nesting + 2 * path.length ≤ v.nesting := by
  induction path generalizing v with
  | nil =>
    cases h
    exact Nat.le_refl _
  | cons i path ih =>
    rw [writtenAt?, Option.bind_eq_some_iff] at h
    obtain ⟨child, hchild, h⟩ := h
    have hbelow := ih h
    have hstep := nesting_childValues (List.mem_of_getElem? hchild)
    rw [List.length_cons]
    omega

theorem Represents.nesting_pos {v : Tree} {o : Outline} (h : Represents v o) : 0 < v.nesting := by
  obtain ⟨ms, rfl⟩ := h.exists_object
  rw [Tree.nesting]
  exact Nat.succ_pos _

/-- The deepest node takes one bracket, and each level above it two. -/
theorem Represents.height_le_nesting {v : Tree} {o : Outline} (h : Represents v o) :
    2 * o.height + 1 ≤ v.nesting := by
  obtain ⟨path, x, hlength, hx⟩ := o.exists_at?_height
  obtain ⟨w, hw, hrepresents⟩ := h.exists_writtenAt? hx
  have hpath := nesting_writtenAt? hw
  have hpos := hrepresents.nesting_pos
  omega

/-- In the last bracket no list of children can be opened. -/
theorem Represents.named_children_eq_nil {ms : List (Literal × Tree)} {o : Outline}
    (h : Represents (.object ms) o) (hnesting : (Tree.object ms).nesting ≤ 1) :
    named "Children" ms = [] := by
  cases h with
  | object names content start length kind children represent =>
    rcases children with ⟨hnone, -⟩ | hsome
    · exact hnone
    · rename_i items
      have hlist : (Tree.array items).nesting < (Tree.object ms).nesting :=
        nesting_lt_of_mem_named (hsome ▸ List.mem_singleton_self _)
      rw [Tree.nesting] at hlist
      omega

/-! ## Texts that are read -/

section

variable {s : String} {n : Outline} (h : ofJson? s = .ok n)
include h

theorem exists_spelled : ∃ v : Tree, v.Spells s ∧ Represents v n := by
  obtain ⟨rest, hread, hblank⟩ := Json.exists_rest_of_readWhole h
  obtain ⟨v, ⟨-, hv⟩, hspaced⟩ := readNode_readsOnly _ _ _ _ hread
  exact ⟨v, ⟨rest, hblank, hspaced⟩, hv⟩

theorem nesting_lt_of_spelled {v : Tree} (hs : v.Spells s) (hv : Represents v n) :
    v.nesting < 128 := by
  by_contra hdeep
  obtain ⟨unread, herror⟩ := (ofJson?_within hs hv).2 hdeep
  rw [h] at herror
  cases herror

/-- A node at depth 63 was written without a list of children. -/
theorem exists_written_leaf {v : Tree} (hs : v.Spells s) (hv : Represents v n) {path : List Nat}
    (hlength : path.length = 63) {x : Outline} (hx : n.at? path = some x) :
    ∃ ms, writtenAt? v path = some (.object ms) ∧ Represents (.object ms) x ∧
      named "Children" ms = [] := by
  obtain ⟨w, hw, hrepresents⟩ := hv.exists_writtenAt? hx
  obtain ⟨ms, rfl⟩ := hrepresents.exists_object
  have hpath := nesting_writtenAt? hw
  have hroom := nesting_lt_of_spelled h hs hv
  exact ⟨ms, hw, hrepresents, hrepresents.named_children_eq_nil (by omega)⟩

end

/-! ## Texts without empty lists of children -/

mutual

/-- The JSON value of an outline, without a list of children where there are none. -/
def bareJson : Outline → Json
  | ⟨content, span, kind, []⟩ => .object (front content span kind)
  | ⟨content, span, kind, o :: os⟩ =>
    .object (front content span kind ++ [("Children", .array (bareJson o :: bareJsons os))])

def bareJsons : List Outline → List Json
  | [] => []
  | o :: os => bareJson o :: bareJsons os

end

/-- The outline as JSON without blanks and without empty lists. -/
def bareText (o : Outline) : String := o.bareJson.compact

mutual

/-- Without empty lists, one bracket less is open at once. -/
theorem exists_bare : ∀ o : Outline,
    ∃ v, Writes o.bareJson v ∧ Represents v o ∧ v.nesting = 2 * o.height + 1
  | ⟨content, span, kind, []⟩ => by
    obtain ⟨ms, hms, hfront⟩ := exists_front content span kind
    refine ⟨.object ms, ?_, hfront.represents_leaf, ?_⟩
    · rw [bareJson]
      exact .object hms
    · rw [Tree.nesting, hfront.flat, height, heights]
  | ⟨content, span, kind, o :: os⟩ => by
    obtain ⟨v, hv, hrepresents, hnesting⟩ := exists_bare o
    obtain ⟨vs, hvs, represent, hnestings⟩ := exists_bare_all os
    obtain ⟨ms, hms, hobject, hmembers⟩ :=
      exists_members content span kind (.cons hv hvs) (.cons hrepresents represent)
    refine ⟨.object ms, ?_, hobject, ?_⟩
    · rw [bareJson]
      exact hms
    · rw [Tree.nesting, hmembers, Tree.itemNesting, height, heights]
      omega

theorem exists_bare_all : ∀ os : List Outline,
    ∃ vs, WritesItems (bareJsons os) vs ∧ List.Forall₂ Represents vs os ∧
      Tree.itemNesting vs = 2 * heights os - 1
  | [] => by
    refine ⟨[], ?_, .nil, ?_⟩
    · rw [bareJsons]
      exact .nil
    · rw [Tree.itemNesting, heights]
  | o :: os => by
    obtain ⟨v, hv, hrepresents, hnesting⟩ := exists_bare o
    obtain ⟨vs, hvs, represent, hnestings⟩ := exists_bare_all os
    refine ⟨v :: vs, ?_, .cons hrepresents represent, ?_⟩
    · rw [bareJsons]
      exact .cons hv hvs
    · rw [Tree.itemNesting, heights]
      omega

end

/-- An outline up to height 63 can be read from a text without empty lists. -/
theorem ofJson?_bareText {o : Outline} (h : o.height ≤ 63) : ofJson? o.bareText = .ok o := by
  obtain ⟨v, hv, hrepresents, hnesting⟩ := exists_bare o
  exact (ofJson?_within hv.spells_compact hrepresents).1 (by omega)

/-! ## Written again -/

/-- **Reading and writing again.** An outline that was read has height at most 63. Below 63 its
compact text is read back as the same outline. At 63 its compact text is refused because too many
brackets are open at once; and whatever value the text spells for it, in that value every node at
depth 63 stands without a list of children. -/
theorem ofJson?_reread (s : String) (n : Outline) (h : ofJson? s = .ok n) :
    n.height ≤ 63 ∧ (n.height ≠ 63 → ofJson? n.compact = .ok n) ∧
      (n.height = 63 →
        (∃ f, ofJson? n.compact = .error f ∧ f.cause.message = "recursion limit exceeded") ∧
        (∃ v : Tree, v.Spells s ∧ Represents v n) ∧
        ∀ v : Tree, v.Spells s → Represents v n → ∀ path x, path.length = 63 →
          n.at? path = some x → ∃ ms, writtenAt? v path = some (.object ms) ∧
            Represents (.object ms) x ∧ named "Children" ms = []) := by
  obtain ⟨v, hs, hv⟩ := exists_spelled h
  have hheight : n.height ≤ 63 := by
    have hnesting := hv.height_le_nesting
    have hroom := nesting_lt_of_spelled h hs hv
    omega
  refine ⟨hheight, ?_, ?_⟩
  · intro hne
    exact (ofJson?_texts_of_height_le n (by omega)).1
  · intro heq
    obtain ⟨w, hw, hrepresents, hnesting⟩ := exists_written n
    refine ⟨(ofJson?_spelled (spells_compact hw) hrepresents hnesting).2 (by omega),
      ⟨v, hs, hv⟩, ?_⟩
    intro v hs hv path x hlength hx
    exact exists_written_leaf h hs hv hlength hx

/-- The chain of height 62 is read and written again. The chain of height 63 can be read, from a
text in which its last node has no list of children, but not written again. -/
theorem ofJson?_reread_chain :
    (ofJson? (chain 62).bareText = .ok (chain 62) ∧
        ofJson? (chain 62).compact = .ok (chain 62)) ∧
      ofJson? (chain 63).bareText = .ok (chain 63) ∧ (chain 63).height = 63 ∧
      (∃ f, ofJson? (chain 63).compact = .error f ∧
        f.cause.message = "recursion limit exceeded") ∧
      ((chain 63).at? (List.replicate 63 0)).isSome ∧
      ∃ v : Tree, v.Spells (chain 63).bareText ∧
        ∃ ms, writtenAt? v (List.replicate 63 0) = some (.object ms) ∧
          named "Children" ms = [] := by
  have hlow : ofJson? (chain 62).bareText = .ok (chain 62) :=
    ofJson?_bareText (by rw [height_chain]; decide)
  have hhigh : ofJson? (chain 63).bareText = .ok (chain 63) :=
    ofJson?_bareText (Nat.le_of_eq (height_chain 63))
  have hlast : (chain 63).at? (List.replicate 63 0) = some (chain 0) := rfl
  obtain ⟨-, hsame, -⟩ := ofJson?_reread _ _ hlow
  obtain ⟨-, -, hexception⟩ := ofJson?_reread _ _ hhigh
  obtain ⟨hrefused, ⟨v, hs, hv⟩, hleaves⟩ := hexception (height_chain 63)
  obtain ⟨ms, hms, -, hnone⟩ := hleaves v hs hv _ _ List.length_replicate hlast
  refine ⟨⟨hlow, hsame ?_⟩, hhigh, height_chain 63, hrefused, ?_, v, hs, ms, hms, hnone⟩
  · rw [height_chain]
    decide
  · rw [hlast]
    rfl

end SyntaxOutline.Outline
