import SyntaxOutline.Proofs.Outline.RoundTrip

/-!
# Outlines can be told from their compact texts

Reading a whole text stops at a fixed number of open brackets, but the reader of a node takes the
number as an argument. Given room for the brackets of an outline, it reads the compact text of the
outline and leaves exactly what follows it (`readNode_compact`). So two compact texts that begin the
same text are read by one and the same reader, and belong to the same outline.
-/

namespace SyntaxOutline.Outline

theorem toList_compact (o : Outline) : o.compact.toList = o.toJson.compactChars :=
  String.toList_ofList

/-- With room for two brackets a level, the compact text of an outline is read back whatever follows
it, and what follows it is left. -/
theorem readNode_compact (o : Outline) (room : Nat) (hroom : 2 * o.height + 2 ≤ room)
    (rest : List Char) : readNode room (o.compact.toList ++ rest) = .ok (o, rest) := by
  obtain ⟨v, hwrites, hrepresents, hnesting⟩ := exists_written o
  have hspaced := hwrites.spaced_compact rest
  rw [toList_compact]
  apply (readNode_within room hrepresents hspaced).1
  omega

/-- **Compact texts.** An outline and what follows its compact text are determined by the two
together, whatever the height of the outline. In particular no two outlines have the same text. -/
theorem compact_append_eq_iff (n m : Outline) (r q : String) :
    (n.compact ++ r = m.compact ++ q ↔ n = m ∧ r = q) ∧ (n.compact = m.compact ↔ n = m) := by
  have hinj : ∀ r q : String, n.compact ++ r = m.compact ++ q → n = m ∧ r = q := by
    intro r q h
    -- one reader with room for both outlines reads both sides
    have hn := n.readNode_compact (2 * max n.height m.height + 2) (by omega) r.toList
    have hm := m.readNode_compact (2 * max n.height m.height + 2) (by omega) q.toList
    rw [← String.toList_append, h, String.toList_append, hm] at hn
    simp only [Except.ok.injEq, Prod.mk.injEq] at hn
    exact ⟨hn.1.symm, (String.toList_injective hn.2).symm⟩
  refine ⟨⟨hinj r q, ?_⟩, ⟨?_, ?_⟩⟩
  · rintro ⟨rfl, rfl⟩
    rfl
  · intro h
    exact (hinj "" "" (congrArg (· ++ "") h)).1
  · rintro rfl
    rfl

end SyntaxOutline.Outline
