import SyntaxOutline.Proofs.Text.Spans
import SyntaxOutline.Proofs.Walk.Limits
import SyntaxOutline.Source.Concrete

/-!
# The outline of a concrete syntax tree

The elements of a concrete syntax tree are reached by paths of child indexes. In front of each
element stand some tokens (`tokensBefore`), and their bytes are its offset. A walk of an element has
no choice but to give the outline `toOutline` of it, or to pass a limit; in that outline the same
paths lead to the outlines of the same elements, each at its own offset.

* `at?_toSource`, `at?_toOutline` : what a path leads to.
* `walk_eq_ok_iff` : when a walk succeeds, and with which outline.
-/

namespace SyntaxOutline.ConcreteTree

variable {κ : Type}

/-! ## Elements and tokens -/

def kind : ConcreteTree κ → κ
  | .token kind _ => kind
  | .node kind _ => kind

def children : ConcreteTree κ → List (ConcreteTree κ)
  | .token _ _ => []
  | .node _ children => children

/-- The element reached by a path of child indexes. -/
def at? (t : ConcreteTree κ) : List Nat → Option (ConcreteTree κ)
  | [] => some t
  | i :: path => t.children[i]?.bind (·.at? path)

mutual

/-- The texts of the tokens of an element, in order. -/
def tokens : ConcreteTree κ → List String
  | .token _ text => [text]
  | .node _ children => tokensAll children

def tokensAll : List (ConcreteTree κ) → List String
  | [] => []
  | t :: ts => t.tokens ++ tokensAll ts

end

/-- The texts of the tokens in front of the element that a path leads to. -/
def tokensBefore (t : ConcreteTree κ) : List Nat → List String
  | [] => []
  | i :: path =>
    tokensAll (t.children.take i) ++ t.children[i]?.elim [] (·.tokensBefore path)

/-- The tokens of an element, one behind the other. -/
def text (t : ConcreteTree κ) : String := String.join t.tokens

/-- The offset of the element that a path leads to. -/
def offsetAt (t : ConcreteTree κ) (path : List Nat) : Nat :=
  (String.join (t.tokensBefore path)).utf8ByteSize

theorem at?_append (t : ConcreteTree κ) (path rest : List Nat) :
    t.at? (path ++ rest) = (t.at? path).bind (·.at? rest) := by
  induction path generalizing t with
  | nil => rfl
  | cons i path ih =>
    rw [List.cons_append, at?, at?]
    cases t.children[i]? with
    | none => rfl
    | some child => exact ih child

theorem tokensBefore_append {t e : ConcreteTree κ} {path : List Nat} (h : t.at? path = some e)
    (rest : List Nat) :
    t.tokensBefore (path ++ rest) = t.tokensBefore path ++ e.tokensBefore rest := by
  induction path generalizing t with
  | nil =>
    cases h
    rfl
  | cons i path ih =>
    rw [at?] at h
    rw [List.cons_append, tokensBefore, tokensBefore]
    cases hchild : t.children[i]? with
    | none => simp [hchild] at h
    | some child =>
      rw [hchild] at h
      simp only [Option.elim_some, ih h, List.append_assoc]

theorem offsetAt_append {t e : ConcreteTree κ} {path : List Nat} (h : t.at? path = some e)
    (rest : List Nat) : t.offsetAt (path ++ rest) = t.offsetAt path + e.offsetAt rest := by
  unfold offsetAt
  rw [tokensBefore_append h, String.join_append, String.utf8ByteSize_append]

theorem tokensAll_append (ts us : List (ConcreteTree κ)) :
    tokensAll (ts ++ us) = tokensAll ts ++ tokensAll us := by
  induction ts with
  | nil => simp [tokensAll]
  | cons t ts ih => simp [tokensAll, ih]

theorem tokens_eq (t : ConcreteTree κ) : t.children ≠ [] → t.tokens = tokensAll t.children := by
  intro h
  cases t with
  | token kind text => exact absurd rfl h
  | node kind children => simp [tokens, ConcreteTree.children]

/-- The tokens in front of an element, its own, and those behind it. -/
theorem exists_tokens_eq {t e : ConcreteTree κ} {path : List Nat} (h : t.at? path = some e) :
    ∃ after, t.tokens = t.tokensBefore path ++ e.tokens ++ after := by
  induction path generalizing t with
  | nil =>
    cases h
    exact ⟨[], by simp [tokensBefore]⟩
  | cons i path ih =>
    rw [at?] at h
    cases hchild : t.children[i]? with
    | none => simp [hchild] at h
    | some child =>
      rw [hchild] at h
      obtain ⟨after, hafter⟩ := ih h
      obtain ⟨hi, hget⟩ := List.getElem?_eq_some_iff.mp hchild
      have hsplit : t.children = t.children.take i ++ child :: t.children.drop (i + 1) := by
        rw [← hget, List.getElem_cons_drop, List.take_append_drop]
      have hne : t.children ≠ [] := by
        intro hnil
        simp [hnil] at hi
      refine ⟨after ++ tokensAll (t.children.drop (i + 1)), ?_⟩
      rw [tokens_eq t hne, tokensBefore, hchild, Option.elim_some]
      nth_rewrite 1 [hsplit]
      rw [tokensAll_append, tokensAll, hafter]
      simp only [List.append_assoc]

/-! ## Texts -/

mutual

theorem chars_eq : ∀ t : ConcreteTree κ, t.chars = t.text.toList
  | .token kind text => by
    rw [ConcreteTree.text, chars, tokens, String.toList_join]
    simp
  | .node kind children => by
    rw [ConcreteTree.text, chars, tokens, charsAll_eq]

theorem charsAll_eq : ∀ ts : List (ConcreteTree κ),
    charsAll ts = (String.join (tokensAll ts)).toList
  | [] => rfl
  | t :: ts => by
    rw [charsAll, tokensAll, String.join_append, String.toList_append, chars_eq, charsAll_eq]
    rfl

end

theorem utf8Length_chars (t : ConcreteTree κ) :
    Text.utf8Length t.chars = t.text.utf8ByteSize := by
  rw [chars_eq, Text.utf8Length_toList]

/-! ## Outlines -/

mutual

/-- The outline of an element at the given offset. -/
def toOutline (showKind : κ → String) (includeKinds : Bool) (offset : Nat) :
    ConcreteTree κ → Outline
  | .token kind text =>
    ⟨LineEnding.mark text, .ofBytes offset text.utf8ByteSize,
      if includeKinds then some (showKind kind) else none, []⟩
  | .node kind children =>
    ⟨LineEnding.mark (text (.node kind children)),
      .ofBytes offset (text (.node kind children)).utf8ByteSize,
      if includeKinds then some (showKind kind) else none,
      toOutlines showKind includeKinds offset children⟩

/-- The outlines of elements one behind the other, the first at the given offset. -/
def toOutlines (showKind : κ → String) (includeKinds : Bool) (offset : Nat) :
    List (ConcreteTree κ) → List Outline
  | [] => []
  | t :: ts =>
    toOutline showKind includeKinds offset t ::
      toOutlines showKind includeKinds (offset + t.text.utf8ByteSize) ts

end

section

variable (showKind : κ → String) (includeKinds : Bool)

theorem toOutline_eq (offset : Nat) (t : ConcreteTree κ) :
    t.toOutline showKind includeKinds offset =
      ⟨LineEnding.mark t.text, .ofBytes offset t.text.utf8ByteSize,
        if includeKinds then some (showKind t.kind) else none,
        toOutlines showKind includeKinds offset t.children⟩ := by
  cases t with
  | token kind text =>
    have htext : (token kind text).text = text := by simp [ConcreteTree.text, tokens]
    rw [toOutline, htext, ConcreteTree.kind, children, toOutlines]
  | node kind children => rw [toOutline, ConcreteTree.kind, ConcreteTree.children]

theorem labelOf_toList (offset : Nat) (kind : κ) (text : String) :
    labelOf showKind offset kind text.toList =
      ⟨.ok text, .ofBytes offset text.utf8ByteSize, some (showKind kind)⟩ := by
  rw [labelOf, String.ofList_toList, Text.utf8Length_toList]
  rfl

theorem charsAll_children (kind : κ) (children : List (ConcreteTree κ)) :
    charsAll children = (text (.node kind children)).toList := by
  rw [charsAll_eq, text, tokens]

mutual

/-- The outline has the shape, the texts and the spans of the tree that is walked. -/
theorem mirrors_toOutline (offset : Nat) : ∀ t : ConcreteTree κ,
    SourceTree.Mirrors includeKinds (t.toSource showKind offset)
      (t.toOutline showKind includeKinds offset)
  | .token kind text => by
    rw [toSource, toOutline, labelOf_toList]
    exact .leaf rfl
  | .node kind children => by
    rw [toSource, toOutline, charsAll_children kind children, labelOf_toList]
    exact .container rfl (mirrors_toOutlines offset children)

theorem mirrors_toOutlines (offset : Nat) : ∀ ts : List (ConcreteTree κ),
    List.Forall₂ (SourceTree.Mirrors includeKinds) (toSources showKind offset ts)
      (toOutlines showKind includeKinds offset ts)
  | [] => by
    rw [toSources, toOutlines]
    exact .nil
  | t :: ts => by
    rw [toSources, toOutlines, utf8Length_chars]
    exact .cons (mirrors_toOutline offset t) (mirrors_toOutlines _ ts)

end

end

/-- A walk of an element succeeds if and only if the outline of the element lies within the limits,
and then gives this outline. -/
theorem walk_eq_ok_iff {showKind : κ → String} {o : WalkOptions} {offset : Nat}
    {t : ConcreteTree κ} {n : Outline} :
    (t.toSource showKind offset).walk o = .ok n ↔
      n = t.toOutline showKind o.includeKinds offset ∧ o.DepthFits n.height ∧
        o.CountFits n.nodeCount := by
  have hmirrors := mirrors_toOutline showKind o.includeKinds offset t
  constructor
  · intro h
    exact ⟨(SourceTree.mirrors_of_walk h).unique hmirrors, SourceTree.fits_of_walk h⟩
  · rintro ⟨rfl, hdepth, hcount⟩
    exact SourceTree.walk_within hmirrors hdepth hcount

/-! ## Paths -/

/-- Elements one behind the other with their offsets, the first at the given one. -/
def located (offset : Nat) : List (ConcreteTree κ) → List (Nat × ConcreteTree κ)
  | [] => []
  | t :: ts => (offset, t) :: located (offset + t.text.utf8ByteSize) ts

theorem getElem?_located (offset : Nat) (ts : List (ConcreteTree κ)) (i : Nat) :
    (located offset ts)[i]? =
      ts[i]?.map (offset + (String.join (tokensAll (ts.take i))).utf8ByteSize, ·) := by
  induction ts generalizing offset i with
  | nil => simp [located]
  | cons t ts ih =>
    rw [located]
    cases i with
    | zero => simp [tokensAll]
    | succ i =>
      rw [List.getElem?_cons_succ, List.getElem?_cons_succ, ih, List.take_succ_cons, tokensAll,
        String.join_append, String.utf8ByteSize_append, Nat.add_assoc]
      rfl

theorem offsetAt_cons {t child : ConcreteTree κ} {i : Nat} (h : t.children[i]? = some child)
    (path : List Nat) :
    t.offsetAt (i :: path) =
      (String.join (tokensAll (t.children.take i))).utf8ByteSize + child.offsetAt path := by
  unfold offsetAt
  rw [tokensBefore, h, Option.elim_some, String.join_append, String.utf8ByteSize_append]

section

variable (showKind : κ → String) (includeKinds : Bool)

theorem toSources_eq (offset : Nat) (ts : List (ConcreteTree κ)) :
    toSources showKind offset ts =
      (located offset ts).map fun p => p.2.toSource showKind p.1 := by
  induction ts generalizing offset with
  | nil => rw [toSources, located, List.map_nil]
  | cons t ts ih => rw [toSources, located, List.map_cons, utf8Length_chars, ih]

theorem toOutlines_eq (offset : Nat) (ts : List (ConcreteTree κ)) :
    toOutlines showKind includeKinds offset ts =
      (located offset ts).map fun p => p.2.toOutline showKind includeKinds p.1 := by
  induction ts generalizing offset with
  | nil => rw [toOutlines, located, List.map_nil]
  | cons t ts ih => rw [toOutlines, located, List.map_cons, ih]

/-- A path leads to the same element in the tree that is walked. -/
theorem at?_toSource (offset : Nat) (t : ConcreteTree κ) (path : List Nat) :
    (t.toSource showKind offset).at? path =
      (t.at? path).map (toSource showKind (offset + t.offsetAt path)) := by
  induction path generalizing offset t with
  | nil => simp [SourceTree.at?, at?, offsetAt, tokensBefore]
  | cons i path ih =>
    rw [SourceTree.at?, at?]
    cases t with
    | token kind text =>
      rw [toSource]
      rfl
    | node kind children =>
      have hchildren : (ConcreteTree.node kind children).children = children := rfl
      rw [toSource, SourceTree.children?, Option.bind_some, toSources_eq, List.getElem?_map,
        getElem?_located, hchildren]
      cases hchild : children[i]? with
      | none => rfl
      | some child =>
        simp only [Option.map_some, Option.bind_some]
        rw [ih, offsetAt_cons (t := .node kind children) hchild, Nat.add_assoc, hchildren]

/-- A path leads to the outline of the same element in the outline. -/
theorem at?_toOutline (offset : Nat) (t : ConcreteTree κ) (path : List Nat) :
    (t.toOutline showKind includeKinds offset).at? path =
      (t.at? path).map (toOutline showKind includeKinds (offset + t.offsetAt path)) := by
  induction path generalizing offset t with
  | nil => simp [Outline.at?, at?, offsetAt, tokensBefore]
  | cons i path ih =>
    rw [Outline.at?, at?, toOutline_eq, toOutlines_eq, List.getElem?_map, getElem?_located]
    cases hchild : t.children[i]? with
    | none => rfl
    | some child =>
      simp only [Option.map_some, Option.bind_some]
      rw [ih, offsetAt_cons hchild, Nat.add_assoc]

end

end SyntaxOutline.ConcreteTree
