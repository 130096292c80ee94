import SyntaxOutline.Proofs.Toml.Commands
import SyntaxOutline.Proofs.Toml.Keys
import SyntaxOutline.Proofs.Toml.Scalars

/-!
# Reading values

A value that is consistent and keeps to the limits is read up to where it ends
(`Tree.exists_readValue`), and one more bracket than may be open is refused (`readValue_brackets`).
For each state of the reader there is a lemma on what it does once the next characters are known;
the induction is on the value.
-/

namespace SyntaxOutline.Toml

/-- What was read is what is written, as far as it is a string, a whole number or a truth value; its
numbers are in range, and no name leads into it. -/
structure Tree.Stands (t : Tree) (v : Value) : Prop where
  scalar : ∀ s, t.scalar? = some s → v = s
  inner : v.inner = []
  inRange : NumberRange.wide.holds v = true

/-- In addition, an inline table has what it gives to its keys. -/
structure Tree.StandsInside (t : Tree) (v : Value) : Prop extends t.Stands v where
  table : ∀ members, t = .table members →
    ∃ entries, v = .table .inline entries ∧ Mirrors Tree.Stands members.contents entries

section

variable {rest : List Char}

/-! ## Strings and unquoted values -/

theorem readValue_string (room : Nat) (l : Literal) (hrest : Ends rest) :
    readValue room (l.text ++ rest) =
      .ok (⟨.upTo (l.text ++ rest) rest, .string l.value⟩, rest) := by
  have hbody := readString_body l hrest
  rw [Literal.text, List.cons_append]
  cases hquote : l.quote with
  | double =>
    rw [hquote, Quote.char] at hbody
    rw [Quote.char, readValue, hbody]
    rfl
  | single =>
    rw [hquote, Quote.char] at hbody
    rw [Quote.char, readValue, hbody]
    rfl

/-- A character of an unquoted value opens no string, array or table. -/
theorem readValue_of_readScalar {text : List Char} {v : Value}
    (hrun : ∃ c cs, text = c :: cs ∧ isRunChar c = true)
    (h : readScalar (text ++ rest) = .ok (v, rest)) (room : Nat) :
    readValue room (text ++ rest) = .ok (⟨.upTo (text ++ rest) rest, v⟩, rest) := by
  obtain ⟨c, cs, rfl, hc⟩ := hrun
  have hquotes : c ≠ '"' ∧ c ≠ '\'' ∧ c ≠ '[' ∧ c ≠ '\x7b' := by
    refine ⟨?_, ?_, ?_, ?_⟩ <;> (rintro rfl; cases hc)
  rw [List.cons_append] at h ⊢
  rw [readValue]
  · rw [h]
    rfl
  all_goals simp_all

theorem Number.exists_text (n : Number) : ∃ c cs, n.text = c :: cs ∧ isRunChar c = true := by
  have hne : n.text ≠ [] := by
    cases n with
    | whole s digits plain => simp [Number.text, Digits.text]
    | marked base digits => exact List.cons_ne_nil _ _
    | decimal d => simp [Number.text, Decimal.text, Digits.text]
    | infinite s => simp [Number.text]
    | notANumber s => simp [Number.text]
  obtain ⟨c, cs, htext⟩ := List.exists_cons_of_ne_nil hne
  exact ⟨c, cs, htext, Number.isRunChar_text (htext ▸ List.mem_cons_self)⟩

theorem Tree.exists_boolean (b : Bool) :
    ∃ c cs, (Tree.boolean b).text = c :: cs ∧ isRunChar c = true := by
  cases b with
  | true => exact ⟨_, _, rfl, rfl⟩
  | false => exact ⟨_, _, rfl, rfl⟩

theorem Datetime.exists_run (d : Datetime) : ∃ c cs, d.text = c :: cs ∧ isRunChar c = true := by
  obtain ⟨c, cs, htext, hdigit⟩ := d.exists_text
  exact ⟨c, cs, htext, isRunChar_of_isDigit hdigit⟩

/-- No blank, comment or closing bracket begins a value. -/
theorem Tree.exists_text (t : Tree) : ∃ c cs, t.text = c :: cs ∧ IsSolid c ∧ c ≠ ']' := by
  have hrun : ∀ text : List Char, (∃ c cs, text = c :: cs ∧ isRunChar c = true) →
      ∃ c cs, text = c :: cs ∧ IsSolid c ∧ c ≠ ']' := by
    rintro text ⟨c, cs, rfl, hc⟩
    refine ⟨c, cs, rfl, ⟨?_, ?_, ?_, ?_, ?_⟩, ?_⟩ <;> (rintro rfl; cases hc)
  cases t with
  | string l =>
    refine ⟨l.quote.char, l.body, rfl, l.quote.isSolid_char, ?_⟩
    cases l.quote <;> decide
  | number n => exact hrun _ n.exists_text
  | boolean b => exact hrun _ (Tree.exists_boolean b)
  | datetime d => exact hrun _ d.exists_run
  | array items => exact ⟨'[', items.text, rfl, by decide, by decide⟩
  | table members => exact ⟨'\x7b', members.text, rfl, by decide, by decide⟩

theorem skipGap_tree (g : Gap) (t : Tree) (cs : List Char) :
    skipGap (g.text ++ (t.text ++ cs)) = .ok (t.text ++ cs) := by
  obtain ⟨c, more, htext, hc, -⟩ := t.exists_text
  rw [htext]
  exact skipGap_append g hc _

/-! ## Arrays -/

section

variable {value : Reader (Located Value)} {fuel : Nat} {item : Located Value}

theorem readItems_done (gap : Gap) :
    readItems value (fuel + 1) (gap.text ++ ']' :: rest) = .ok ([], rest) := by
  rw [readItems, skipGap_append gap (by decide) rest]
  rfl

/-- Behind a value of an array there is a comma, or the array ends. -/
theorem readItems_tree {t : Tree} (before : Gap) {behind : List Char}
    (hitem : value (t.text ++ behind) = .ok (item, behind)) :
    readItems value (fuel + 1) (before.text ++ (t.text ++ behind)) =
      skipGap behind >>= fun
        | ',' :: rest => readItems value fuel rest >>= fun found => .ok (item :: found.1, found.2)
        | ']' :: rest => .ok ([item], rest)
        | [] => fail .unclosedArray []
        | rest => fail .expectedComma rest := by
  obtain ⟨c, cs, htext, -, hc⟩ := t.exists_text
  rw [readItems, skipGap_tree before t, ok_bind]
  rw [htext] at hitem ⊢
  split
  · contradiction
  · rename_i he
    exact absurd (List.cons.inj he).1 hc
  · rw [hitem]
    rfl

end

/-! ## Inline tables -/

section

variable {value : Reader (Located Value)} {fuel : Nat} {entries next : Entries}

theorem readEntries_done (gap : Gap) :
    readEntries value (fuel + 1) entries (gap.text ++ '\x7d' :: rest) = .ok (entries, rest) := by
  rw [readEntries, skipGap_append gap (by decide) rest]
  rfl

/-- Behind a value of an inline table there is a comma, or the table ends. -/
theorem readEntries_entry {entry : List Char} (hhead : ∃ c cs, entry = c :: cs ∧ c ∉ marks)
    (before : Gap) {behind : List Char}
    (hentry : readEntry value entries (entry ++ behind) = .ok (next, behind)) :
    readEntries value (fuel + 1) entries (before.text ++ (entry ++ behind)) =
      skipGap behind >>= fun
        | ',' :: rest => readEntries value fuel next rest
        | '\x7d' :: rest => .ok (next, rest)
        | [] => fail .unclosedTable []
        | rest => fail .expectedComma rest := by
  obtain ⟨c, cs, rfl, hc⟩ := hhead
  rw [readEntries, List.cons_append, skipGap_append before (isSolid_of_not_mem hc), ok_bind]
  split
  · contradiction
  · rename_i he
    rw [(List.cons.inj he).1] at hc
    exact absurd (by decide) hc
  · rw [← List.cons_append, hentry]
    rfl

end

/-- What is written for a key of an inline table and its value. -/
def entryText (key : DottedKey) (left right : Spaces) (t : Tree) : List Char :=
  keyText key left right ++ t.text

theorem exists_entryText (key : DottedKey) (left right : Spaces) (t : Tree) :
    ∃ c cs, entryText key left right t = c :: cs ∧ c ∉ marks := by
  obtain ⟨c, cs, htext, hc⟩ := key.exists_text
  refine ⟨c, cs ++ (left.chars ++ '=' :: right.chars) ++ t.text, ?_, hc⟩
  rw [entryText, keyText, htext]
  rfl

/-- A key of an inline table is given its value. -/
theorem exists_readEntry {value : Reader (Located Value)} {p : Progress Tree} {entries : Entries}
    (h : p.Holds Tree.Stands entries) (htable : p.table = []) {key : DottedKey} {t : Tree}
    (hfits : (Command.value key.path key.key t).Fits p) (hkey : key.Bounded) (left right : Spaces)
    {found : Located Value} (hvalue : value (t.text ++ rest) = .ok (found, rest))
    (hstands : t.Stands found.value) :
    ∃ next, readEntry value entries (entryText key left right t ++ rest) = .ok (next, rest) ∧
      ((Command.value key.path key.key t).next p).Holds Tree.Stands next := by
  have hends := endsKey_spaces left (c := '=') (.inl rfl) (right.chars ++ (t.text ++ rest))
  obtain ⟨path, last, hread, hpath, hlast⟩ := readDotted_text key hkey hends
  have htext : entryText key left right t ++ rest =
      key.text ++ (left.chars ++ '=' :: (right.chars ++ (t.text ++ rest))) := by
    simp [entryText, keyText]
  have hroot : List.map Key.name [] = p.table := htable.symm
  have hright : skipGap (right.chars ++ (t.text ++ rest)) = .ok (t.text ++ rest) :=
    skipGap_tree ⟨[], right⟩ t rest
  rw [← hpath, ← hlast] at hfits ⊢
  obtain ⟨next, hnext, hholds⟩ := h.value hfits hstands hstands.inner hstands.inRange hroot
  rw [Entries.within] at hnext
  refine ⟨next, ?_, hholds⟩
  rw [htext, readEntry, hread, ok_bind]
  dsimp only
  rw [skipGap_spaces left (by decide)]
  change (skipGap (right.chars ++ (t.text ++ rest)) >>= _) = _
  rw [hright, ok_bind, hvalue, ok_bind, hnext]
  rfl

/-! ## Values -/

theorem Tree.stands_of_scalar? {t : Tree} {v : Value}
    (hscalar : t.scalar? = none ∨ t.scalar? = some v) (hinner : v.inner = [])
    (hrange : NumberRange.wide.holds v = true) : t.Stands v where
  scalar := by
    intro s hs
    rcases hscalar with h | h
    · rw [h] at hs
      cases hs
    · rw [h] at hs
      exact Option.some.inj hs
  inner := hinner
  inRange := hrange

theorem Number.stands {n : Number} (h : n.InRange) : (Tree.number n).Stands n.numeral.toValue := by
  refine Tree.stands_of_scalar? ?_ ?_ (Number.holds_iff_inRange.mpr h)
  · cases n with
    | whole s digits plain => exact .inr rfl
    | marked base digits => exact .inr rfl
    | decimal d => exact .inl rfl
    | infinite s => exact .inl rfl
    | notANumber s => exact .inl rfl
  · cases n.numeral with
    | whole i => rfl
    | decimal negative digits exponent =>
      rw [Numeral.toValue]
      cases Binary64.ofDecimal digits exponent <;> rfl
    | special x => rfl

/-- No more brackets may be open at once than there is room for, whatever follows them. -/
theorem readValue_brackets (room : Nat) (cs : List Char) :
    readValue room (List.replicate (room + 1) '[' ++ cs) = fail .tooDeep ('[' :: cs) := by
  induction room with
  | zero => rfl
  | succ room ih =>
    rw [List.replicate_succ, List.cons_append, readValue]
    have hgap : skipGap (List.replicate (room + 1) '[' ++ cs) =
        .ok (List.replicate (room + 1) '[' ++ cs) :=
      skipGap_append {} (c := '[') (by decide) (List.replicate room '[' ++ cs)
    rw [readItems, hgap]
    change ((readValue room (List.replicate (room + 1) '[' ++ cs) >>= _) >>= _) = _
    rw [ih]
    rfl

mutual

/-- **Values.** A value that is consistent and keeps to the limits is read. -/
theorem Tree.exists_readValue : ∀ (t : Tree) {room : Nat} {rest : List Char}, t.Bounded room →
    t.Consistent → Ends rest →
    ∃ found, readValue room (t.text ++ rest) = .ok (found, rest) ∧ t.StandsInside found.value
  | .string l, room, _, _, _, hrest =>
    ⟨_, readValue_string room l hrest, Tree.stands_of_scalar? (.inr rfl) rfl rfl, nofun⟩
  | .number n, room, _, hb, _, hrest =>
    ⟨_, readValue_of_readScalar n.exists_text (readScalar_number n hrest) room, Number.stands hb,
      nofun⟩
  | .boolean b, room, _, _, _, hrest =>
    ⟨_, readValue_of_readScalar (Tree.exists_boolean b) (readScalar_boolean b hrest) room,
      Tree.stands_of_scalar? (.inr rfl) rfl rfl, nofun⟩
  | .datetime d, room, _, _, _, hrest =>
    ⟨_, readValue_of_readScalar d.exists_run (readScalar_datetime d hrest) room,
      Tree.stands_of_scalar? (.inl rfl) rfl rfl, nofun⟩
  | .array _, 0, _, hb, _, _ => hb.elim
  | .array items, room + 1, rest, hb, hc, _ => by
    have hfuel : items.text.length < (items.text ++ rest).length + 1 := by
      rw [List.length_append]
      omega
    obtain ⟨found, hfound, hrange⟩ := Items.exists_readItems items hb hc hfuel rest
    refine ⟨⟨.upTo ('[' :: (items.text ++ rest)) rest, .array false found⟩, ?_, ?_⟩
    · rw [Tree.text, List.cons_append, readValue, hfound]
      rfl
    · exact ⟨Tree.stands_of_scalar? (.inl rfl) rfl hrange, nofun⟩
  | .table _, 0, _, hb, _, _ => hb.elim
  | .table members, room + 1, rest, hb, hc, _ => by
    have hfuel : members.text.length < (members.text ++ rest).length + 1 := by
      rw [List.length_append]
      omega
    obtain ⟨found, hfound, hholds⟩ :=
      Members.exists_readEntries members hb hc.1 Progress.Holds.start rfl hc.2 hfuel rest
    refine ⟨⟨.upTo ('\x7b' :: (members.text ++ rest)) rest, .table .inline found⟩, ?_, ?_, ?_⟩
    · rw [Tree.text, List.cons_append, readValue, hfound]
      rfl
    · exact Tree.stands_of_scalar? (.inl rfl) rfl hholds.inRange
    · rintro _ ⟨⟩
      exact ⟨found, rfl, hholds.mirrors⟩

theorem Items.exists_readItems : ∀ (items : Items) {room fuel : Nat}, items.Bounded room →
    items.Consistent → items.text.length < fuel → ∀ rest,
    ∃ found, readItems (readValue room) fuel (items.text ++ rest) = .ok (found, rest) ∧
      NumberRange.wide.holdsItems found = true
  | _, _, 0, _, _, hfuel, _ => absurd hfuel (Nat.not_lt_zero _)
  | .done gap, _, fuel + 1, _, _, _, rest => by
    refine ⟨[], ?_, rfl⟩
    rw [Items.text, List.append_assoc]
    exact readItems_done gap
  | .last before item after, room, fuel + 1, hb, hc, _, rest => by
    have hrest : Ends (after.text ++ ']' :: rest) := (ends_cons (by decide) rest).gap after
    obtain ⟨found, hfound, hstands⟩ := Tree.exists_readValue item hb hc hrest
    refine ⟨[found], ?_, ?_⟩
    · simp only [Items.text, List.append_assoc, List.singleton_append]
      rw [readItems_tree before hfound, skipGap_append after (by decide) rest]
      rfl
    · rw [NumberRange.holdsItems, hstands.inRange]
      rfl
  | .more before item after items, room, fuel + 1, hb, hc, hfuel, rest => by
    have hrest : Ends (after.text ++ ',' :: (items.text ++ rest)) :=
      (ends_cons (by decide) _).gap after
    have hless : items.text.length < fuel := by
      simp only [Items.text, List.length_append, List.length_cons] at hfuel
      omega
    obtain ⟨found, hfound, hstands⟩ := Tree.exists_readValue item hb.1 hc.1 hrest
    obtain ⟨others, hothers, hrange⟩ := Items.exists_readItems items hb.2 hc.2 hless rest
    refine ⟨found :: others, ?_, ?_⟩
    · simp only [Items.text, List.append_assoc, List.cons_append]
      rw [readItems_tree before hfound, skipGap_append after (by decide)]
      change (readItems (readValue room) fuel (items.text ++ rest) >>= _) = _
      rw [hothers]
      rfl
    · rw [NumberRange.holdsItems, hstands.inRange, hrange]
      rfl

theorem Members.exists_readEntries : ∀ (members : Members) {room fuel : Nat} {p : Progress Tree}
    {entries : Entries}, members.Bounded room → members.Consistent →
    p.Holds Tree.Stands entries → p.table = [] → Command.AllFit p members.commands →
    members.text.length < fuel → ∀ rest,
    ∃ found, readEntries (readValue room) fuel entries (members.text ++ rest) = .ok (found, rest) ∧
      (Command.all p members.commands).Holds Tree.Stands found
  | _, _, 0, _, _, _, _, _, _, _, hfuel, _ => absurd hfuel (Nat.not_lt_zero _)
  | .done gap, _, fuel + 1, _, entries, _, _, h, _, _, _, rest => by
    refine ⟨entries, ?_, h⟩
    rw [Members.text, List.append_assoc]
    exact readEntries_done gap
  | .last before key left right value after, room, fuel + 1, p, entries, hb, hc, h, htable, hfits,
      _, rest => by
    have hrest : Ends (after.text ++ '\x7d' :: rest) := (ends_cons (by decide) rest).gap after
    obtain ⟨v, hv, hstands⟩ := Tree.exists_readValue value hb.2 hc hrest
    obtain ⟨next, hnext, hholds⟩ :=
      exists_readEntry h htable hfits.1 hb.1 left right hv hstands.toStands
    refine ⟨next, ?_, hholds⟩
    have htext : (Members.last before key left right value after).text ++ rest =
        before.text ++ (entryText key left right value ++ (after.text ++ '\x7d' :: rest)) := by
      simp [Members.text, entryText]
    rw [htext, readEntries_entry (exists_entryText key left right value) before hnext,
      skipGap_append after (by decide) rest]
    rfl
  | .more before key left right value after members, room, fuel + 1, p, entries, hb, hc, h, htable,
      hfits, hfuel, rest => by
    have hrest : Ends (after.text ++ ',' :: (members.text ++ rest)) :=
      (ends_cons (by decide) _).gap after
    have hless : members.text.length < fuel := by
      simp only [Members.text, List.length_append, List.length_cons] at hfuel
      omega
    obtain ⟨v, hv, hstands⟩ := Tree.exists_readValue value hb.2.1 hc.1 hrest
    obtain ⟨next, hnext, hholds⟩ :=
      exists_readEntry h htable hfits.1 hb.1 left right hv hstands.toStands
    obtain ⟨found, hfound, hlast⟩ :=
      Members.exists_readEntries members hb.2.2 hc.2 hholds htable hfits.2 hless rest
    refine ⟨found, ?_, hlast⟩
    have htext : (Members.more before key left right value after members).text ++ rest =
        before.text ++ (entryText key left right value ++
          (after.text ++ ',' :: (members.text ++ rest))) := by
      simp [Members.text, entryText]
    rw [htext, readEntries_entry (exists_entryText key left right value) before hnext,
      skipGap_append after (by decide)]
    exact hfound

end

end

end SyntaxOutline.Toml
