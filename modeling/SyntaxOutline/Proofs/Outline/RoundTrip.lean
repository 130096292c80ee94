import SyntaxOutline.Proofs.Json.Written
import SyntaxOutline.Proofs.Outline.Read

/-!
# Outlines that are written and read back

An outline is written as a tree that represents it (`exists_written`), and each level takes two
brackets: those of the object and those of its list of children. So the texts of an outline are read
back as that outline if its height is at most 62, and refused as too deep above it.
-/

namespace SyntaxOutline.Outline

open Json (Literal Tree Writes WritesItems WritesMembers named named_concat named_concat_of_ne)

/-! ## Members as they are written -/

/-- The members of a node in front of its children. -/
def front (content : String) (span : Span) (kind : Option String) : List (String × Json) :=
  ("Content", .string content) :: span.members
    ++ match kind with
      | some k => [("Kind", .string k)]
      | none => []

theorem toJson_eq (content : String) (span : Span) (kind : Option String)
    (children : List Outline) : toJson ⟨content, span, kind, children⟩ =
      .object (front content span kind ++ [("Children", .array (toJsons children))]) := by
  cases kind with
  | none => rw [toJson, front]
  | some kind => rw [toJson, front]

/-- The members say all about a node but its children, and no bracket is open in them. -/
structure Fronts (ms : List (Literal × Tree)) (content : String) (span : Span)
    (kind : Option String) : Prop where
  names : ∀ m ∈ ms, ∃ name ∈ fieldNames, m.1.value? = some name
  content : ∃ v, named "Content" ms = [v] ∧ v.IsText content
  start : ∃ v, named "Start" ms = [v] ∧ v.IsWord span.start
  length : ∃ v, named "Length" ms = [v] ∧ v.IsWord span.length
  kind : named "Kind" ms = [] ∧ kind = none ∨
    ∃ v, named "Kind" ms = [v] ∧ v.IsOptional Tree.IsText kind
  children : named "Children" ms = []
  flat : Tree.memberNesting ms = 0

theorem exists_front (content : String) (span : Span) (kind : Option String) :
    ∃ ms, WritesMembers (front content span kind) ms ∧ Fronts ms content span kind := by
  obtain ⟨nameContent, htContent, hvContent⟩ := Json.exists_literal "Content"
  obtain ⟨nameStart, htStart, hvStart⟩ := Json.exists_literal "Start"
  obtain ⟨nameLength, htLength, hvLength⟩ := Json.exists_literal "Length"
  obtain ⟨nameKind, htKind, hvKind⟩ := Json.exists_literal "Kind"
  obtain ⟨l, htl, hvl⟩ := Json.exists_literal content
  obtain ⟨start, htstart, hstart⟩ := Json.exists_numeral span.start
  obtain ⟨length, htlength, hlength⟩ := Json.exists_numeral span.length
  have hl : (Tree.string l).IsText content := ⟨l, rfl, hvl⟩
  cases kind with
  | none =>
    refine ⟨[(nameContent, .string l), (nameStart, .number start), (nameLength, .number length)],
      .cons htContent (.string htl) (.cons htStart (.number htstart)
        (.cons htLength (.number htlength) .nil)), ?_⟩
    refine ⟨?_, ⟨_, ?_, hl⟩, ⟨_, ?_, hstart⟩, ⟨_, ?_, hlength⟩, Or.inl ⟨?_, rfl⟩, ?_, ?_⟩
    · simp [fieldNames, hvContent, hvStart, hvLength]
    · simp [named, hvContent, hvStart, hvLength]
    · simp [named, hvContent, hvStart, hvLength]
    · simp [named, hvContent, hvStart, hvLength]
    · simp [named, hvContent, hvStart, hvLength]
    · simp [named, hvContent, hvStart, hvLength]
    · simp [Tree.memberNesting, Tree.nesting]
  | some kind =>
    obtain ⟨k, htk, hvk⟩ := Json.exists_literal kind
    have hk : (Tree.string k).IsOptional Tree.IsText (some kind) := ⟨k, rfl, hvk⟩
    refine ⟨[(nameContent, .string l), (nameStart, .number start), (nameLength, .number length),
      (nameKind, .string k)], .cons htContent (.string htl) (.cons htStart (.number htstart)
        (.cons htLength (.number htlength) (.cons htKind (.string htk) .nil))), ?_⟩
    refine ⟨?_, ⟨_, ?_, hl⟩, ⟨_, ?_, hstart⟩, ⟨_, ?_, hlength⟩, Or.inr ⟨_, ?_, hk⟩, ?_, ?_⟩
    · simp [fieldNames, hvContent, hvStart, hvLength, hvKind]
    · simp [named, hvContent, hvStart, hvLength, hvKind]
    · simp [named, hvContent, hvStart, hvLength, hvKind]
    · simp [named, hvContent, hvStart, hvLength, hvKind]
    · simp [named, hvContent, hvStart, hvLength, hvKind]
    · simp [named, hvContent, hvStart, hvLength, hvKind]
    · simp [Tree.memberNesting, Tree.nesting]

section

variable {ms : List (Literal × Tree)} {content : String} {span : Span} {kind : Option String}

/-- Without a list of children the members make up a leaf. -/
theorem Fronts.represents_leaf (h : Fronts ms content span kind) :
    Represents (.object ms) ⟨content, span, kind, []⟩ := by
  refine .object ?_ h.content h.start h.length h.kind (Or.inl ⟨h.children, rfl⟩) .nil
  intro m hm
  obtain ⟨name, hfield, hname⟩ := h.names m hm
  exact ⟨name, hname, fun hnot => absurd hfield hnot⟩

/-- A list of children behind the members makes up a node with these children. -/
theorem Fronts.represents (h : Fronts ms content span kind) {name : Literal}
    (hname : name.value? = some "Children") {vs : List Tree} {children : List Outline}
    (represent : List.Forall₂ Represents vs children) :
    Represents (.object (ms ++ [(name, .array vs)])) ⟨content, span, kind, children⟩ := by
  have hother : ∀ field, field ≠ "Children" →
      named field (ms ++ [(name, .array vs)]) = named field ms := fun field hne =>
    named_concat_of_ne hname hne.symm
  have hlist : named "Children" (ms ++ [(name, .array vs)]) = [.array vs] := by
    rw [named_concat hname, h.children, List.nil_append]
  refine .object ?_ ?_ ?_ ?_ ?_ (Or.inr hlist) represent
  · intro m hm
    rcases List.mem_append.mp hm with hm | hm
    · obtain ⟨field, hfield, hm⟩ := h.names m hm
      exact ⟨field, hm, fun hnot => absurd hfield hnot⟩
    · rw [List.mem_singleton.mp hm]
      exact ⟨"Children", hname, fun hnot => absurd (by decide) hnot⟩
  · rw [hother _ (by decide)]
    exact h.content
  · rw [hother _ (by decide)]
    exact h.start
  · rw [hother _ (by decide)]
    exact h.length
  · rw [hother _ (by decide)]
    exact h.kind

theorem Fronts.memberNesting_concat (h : Fronts ms content span kind) (name : Literal)
    (vs : List Tree) :
    Tree.memberNesting (ms ++ [(name, .array vs)]) = Tree.itemNesting vs + 1 := by
  have hflat := h.flat
  clear h
  induction ms with
  | nil => simp [Tree.memberNesting, Tree.nesting]
  | cons m ms ih =>
    rw [Tree.memberNesting] at hflat
    rw [List.cons_append, Tree.memberNesting, ih (by omega)]
    omega

end

/-- The members of a node as they are written: those of content, start and length, the kind if it
has one, and the children. -/
theorem exists_members (content : String) (span : Span) (kind : Option String)
    {children : List Outline} {js : List Json} {vs : List Tree} (hvs : WritesItems js vs)
    (represent : List.Forall₂ Represents vs children) :
    ∃ ms, Writes (.object (front content span kind ++ [("Children", .array js)])) (.object ms) ∧
      Represents (.object ms) ⟨content, span, kind, children⟩ ∧
      Tree.memberNesting ms = Tree.itemNesting vs + 1 := by
  obtain ⟨ms, hms, hfront⟩ := exists_front content span kind
  obtain ⟨name, htext, hname⟩ := Json.exists_literal "Children"
  exact ⟨ms ++ [(name, .array vs)], .object (hms.append (.cons htext (.array hvs) .nil)),
    hfront.represents hname represent, hfront.memberNesting_concat name vs⟩

mutual

/-- An outline is written as a tree that represents it, with two brackets a level. -/
theorem exists_written : ∀ o : Outline,
    ∃ v, Writes o.toJson v ∧ Represents v o ∧ v.nesting = 2 * o.height + 2
  | ⟨content, span, kind, children⟩ => by
    obtain ⟨vs, hvs, represent, hnesting⟩ := exists_written_all children
    obtain ⟨ms, hms, hrepresents, hmembers⟩ := exists_members content span kind hvs represent
    refine ⟨.object ms, by rwa [toJson_eq], hrepresents, ?_⟩
    rw [Tree.nesting, hmembers, hnesting, height]

theorem exists_written_all : ∀ os : List Outline,
    ∃ vs, WritesItems (toJsons os) vs ∧ List.Forall₂ Represents vs os ∧
      Tree.itemNesting vs = 2 * heights os
  | [] => by
    refine ⟨[], ?_, .nil, ?_⟩
    · rw [toJsons]
      exact .nil
    · rw [Tree.itemNesting, heights]
  | o :: os => by
    obtain ⟨v, hv, hrepresents, hnesting⟩ := exists_written o
    obtain ⟨vs, hvs, represent, hnestings⟩ := exists_written_all os
    refine ⟨v :: vs, ?_, .cons hrepresents represent, ?_⟩
    · rw [toJsons]
      exact .cons hv hvs
    · rw [Tree.itemNesting, heights, hnesting, hnestings]
      omega

end

theorem spells_compact {o : Outline} {v : Tree} (h : Writes o.toJson v) : v.Spells o.compact :=
  h.spells_compact

theorem spells_pretty {o : Outline} {v : Tree} (h : Writes o.toJson v) : v.Spells o.pretty :=
  h.spells_pretty

/-- A text that spells a written outline is read back up to height 62 and refused as too deep from
height 63 on. -/
theorem ofJson?_spelled {o : Outline} {v : Tree} {s : String} (hs : v.Spells s)
    (hv : Represents v o) (hnesting : v.nesting = 2 * o.height + 2) :
    (o.height ≤ 62 → ofJson? s = .ok o) ∧
      (63 ≤ o.height →
        ∃ f, ofJson? s = .error f ∧ f.cause.message = "recursion limit exceeded") := by
  have hwithin := ofJson?_within hs hv
  constructor
  · intro h
    exact hwithin.1 (by omega)
  · intro h
    obtain ⟨unread, he⟩ := hwithin.2 (by omega)
    exact ⟨_, he, rfl⟩

theorem ofJson?_texts_of_height_le (o : Outline) (h : o.height ≤ 62) :
    ofJson? o.compact = .ok o ∧ ofJson? o.pretty = .ok o := by
  obtain ⟨v, hv, hrepresents, hnesting⟩ := exists_written o
  exact ⟨(ofJson?_spelled (spells_compact hv) hrepresents hnesting).1 h,
    (ofJson?_spelled (spells_pretty hv) hrepresents hnesting).1 h⟩

/-- **Round trip.** Both texts of an outline are read back as that outline if its height is at most
62; from height 63 on both are refused because too many brackets are open at once. -/
theorem ofJson?_compact_and_pretty (o : Outline) :
    (o.height ≤ 62 → ofJson? o.compact = .ok o ∧ ofJson? o.pretty = .ok o) ∧
      (63 ≤ o.height →
        (∃ f, ofJson? o.compact = .error f ∧ f.cause.message = "recursion limit exceeded") ∧
        ∃ f, ofJson? o.pretty = .error f ∧ f.cause.message = "recursion limit exceeded") := by
  obtain ⟨v, hv, hrepresents, hnesting⟩ := exists_written o
  have hcompact := ofJson?_spelled (spells_compact hv) hrepresents hnesting
  have hpretty := ofJson?_spelled (spells_pretty hv) hrepresents hnesting
  exact ⟨fun h => ⟨hcompact.1 h, hpretty.1 h⟩, fun h => ⟨hcompact.2 h, hpretty.2 h⟩⟩

/-- Nodes one below the other, the last one `n` steps down; its content needs escapes, and its
length is the largest word. -/
def chain : Nat → Outline
  | 0 => ⟨"\"é\x01\n\\", ⟨7, 18446744073709551615⟩, some "leaf", []⟩
  | n + 1 => ⟨"", ⟨0, 0⟩, none, [chain n]⟩

theorem height_chain (n : Nat) : (chain n).height = n := by
  induction n with
  | zero => rfl
  | succ n ih => rw [chain, height, heights, heights, ih, Nat.max_zero]

/-- The boundary is met on both sides. -/
theorem ofJson?_chain :
    ((chain 62).height ≤ 62 ∧ ofJson? (chain 62).compact = .ok (chain 62) ∧
        ofJson? (chain 62).pretty = .ok (chain 62)) ∧
      (63 ≤ (chain 63).height ∧
        (∃ f, ofJson? (chain 63).compact = .error f ∧
          f.cause.message = "recursion limit exceeded") ∧
        ∃ f, ofJson? (chain 63).pretty = .error f ∧
          f.cause.message = "recursion limit exceeded") := by
  have hlow : (chain 62).height ≤ 62 := Nat.le_of_eq (height_chain 62)
  have hhigh : 63 ≤ (chain 63).height := Nat.le_of_eq (height_chain 63).symm
  exact ⟨⟨hlow, (ofJson?_compact_and_pretty (chain 62)).1 hlow⟩, hhigh,
    (ofJson?_compact_and_pretty (chain 63)).2 hhigh⟩

end SyntaxOutline.Outline
