import SyntaxOutline.Proofs.Json.Brackets

/-!
# Reading any value

`readValue` reads exactly the texts of trees that have a value and whose brackets fit in the room.

* `readValue_reads` : on the text of such a tree it gives the value, and if only the room is
  missing, it fails for that reason.
* `readValue_readsOnly` : whatever it succeeds on is the text of such a tree.
-/

namespace SyntaxOutline.Json

/-- The value that is written. -/
abbrev Tree.Denotes (v : Tree) (j : Json) : Prop := v.value? = some j

/-! ## Values and nesting of several trees -/

theorem itemValues?_eq_some_iff {vs : List Tree} {js : List Json} :
    Tree.itemValues? vs = some js ↔ List.Forall₂ Tree.Denotes vs js := by
  induction vs generalizing js with
  | nil => simp [Tree.itemValues?, eq_comm]
  | cons v vs ih =>
    simp only [Tree.itemValues?, bind, pure, Option.bind_eq_some_iff, Option.some.injEq, ih,
      List.forall₂_cons_left_iff]
    constructor
    · rintro ⟨j, hj, js', hjs, rfl⟩
      exact ⟨j, js', hj, hjs, rfl⟩
    · rintro ⟨j, js', hj, hjs, rfl⟩
      exact ⟨j, hj, js', hjs, rfl⟩

/-- A member has the given name and value. -/
def HasValue (m : Literal × Tree) (p : String × Json) : Prop :=
  m.1.value? = some p.1 ∧ m.2.value? = some p.2

theorem memberValues?_eq_some_iff {ms : List (Literal × Tree)} {ps : List (String × Json)} :
    Tree.memberValues? ms = some ps ↔ List.Forall₂ HasValue ms ps := by
  induction ms generalizing ps with
  | nil => simp [Tree.memberValues?, eq_comm]
  | cons m ms ih =>
    obtain ⟨k, v⟩ := m
    simp only [Tree.memberValues?, bind, pure, Option.bind_eq_some_iff, Option.some.injEq, ih,
      List.forall₂_cons_left_iff]
    constructor
    · rintro ⟨name, hname, j, hj, ps', hps, rfl⟩
      exact ⟨(name, j), ps', ⟨hname, hj⟩, hps, rfl⟩
    · rintro ⟨⟨name, j⟩, ps', ⟨hname, hj⟩, hps, rfl⟩
      exact ⟨name, hname, j, hj, ps', hps, rfl⟩

theorem itemNesting_le_iff {vs : List Tree} {room : Nat} :
    Tree.itemNesting vs ≤ room ↔ ∀ v ∈ vs, v.nesting ≤ room := by
  induction vs with
  | nil => simp [Tree.itemNesting]
  | cons v vs ih =>
    rw [Tree.itemNesting, Nat.max_le, ih]
    simp

theorem memberNesting_le_iff {ms : List (Literal × Tree)} {room : Nat} :
    Tree.memberNesting ms ≤ room ↔ ∀ m ∈ ms, m.2.nesting ≤ room := by
  induction ms with
  | nil => simp [Tree.memberNesting]
  | cons m ms ih =>
    obtain ⟨k, v⟩ := m
    rw [Tree.memberNesting, Nat.max_le, ih]
    simp

theorem nesting_array_le_iff {vs : List Tree} {room : Nat} :
    (Tree.array vs).nesting ≤ room + 1 ↔ ∀ v ∈ vs, v.nesting ≤ room := by
  rw [Tree.nesting, Nat.succ_le_succ_iff, itemNesting_le_iff]

theorem nesting_object_le_iff {ms : List (Literal × Tree)} {room : Nat} :
    (Tree.object ms).nesting ≤ room + 1 ↔ ∀ m ∈ ms, m.2.nesting ≤ room := by
  rw [Tree.nesting, Nat.succ_le_succ_iff, memberNesting_le_iff]

/-! ## Scalars -/

theorem readScalar_word {w : Char} {ws rest : List Char} {j : Json} {t : Token}
    (htext : t.text = w :: ws)
    (h : ∀ cs, readScalar (w :: cs) = (do return (j, ← readWord ws cs))) :
    readScalar (t.text ++ rest) = .ok (j, rest) := by
  rw [htext, List.cons_append, h, readWord_eq_ok_iff.mpr rfl]
  rfl

theorem readScalar_number (n : Numeral) {num : Number} (hn : n.number? = some num)
    {rest : List Char} (hrest : Ends rest) :
    readScalar (n.text ++ rest) = .ok (.number num, rest) := by
  have hread : readNumber n.negative (n.unsigned ++ rest) = .ok (num, rest) :=
    (readNumber_unsigned n (hrest.endsAt n) num rest).mpr ⟨hn, rfl⟩
  unfold Numeral.text
  cases hneg : n.negative with
  | true =>
    rw [hneg] at hread
    rw [if_pos rfl, List.cons_append, readScalar, if_neg (by decide), if_neg (by decide),
      if_neg (by decide), if_pos rfl, hread]
    rfl
  | false =>
    rw [hneg] at hread
    rw [if_neg (by decide)]
    obtain ⟨d, ds, hds⟩ := List.exists_cons_of_ne_nil n.whole.nonempty
    have hd : d.isDigit = true := n.whole.digits d (by rw [hds]; exact List.mem_cons_self)
    have hcons : n.unsigned ++ rest = d :: (ds ++ n.tail ++ rest) := by
      rw [Numeral.unsigned, hds]
      simp
    rw [hcons] at hread ⊢
    rw [readScalar, if_neg (isDigit_ne hd (by decide)), if_neg (isDigit_ne hd (by decide)),
      if_neg (isDigit_ne hd (by decide)), if_neg (isDigit_ne hd (by decide)), if_pos hd, hread]
    rfl

theorem readScalar_string {s : Literal} {value : String} (hs : s.value? = some value)
    (rest : List Char) :
    readScalar ((Token.string s).text ++ rest) = .ok (.string value, rest) := by
  have hread : readString (s.text ++ '"' :: rest) = .ok (value, rest) :=
    readString_eq_ok_iff.mpr ⟨s, hs, rfl⟩
  have hcons : (Token.string s).text ++ rest = '"' :: (s.text ++ '"' :: rest) := by
    simp [Token.text]
  rw [hcons, readScalar, if_neg (by decide), if_neg (by decide), if_neg (by decide),
    if_neg (by decide), if_neg (by decide), if_pos rfl, hread]
  rfl

/-- What is read as a scalar is the text of one token. -/
theorem exists_token_of_readScalar {cs rest : List Char} {j : Json}
    (h : readScalar cs = .ok (j, rest)) :
    ∃ (v : Tree) (t : Token), v.tokens = [t] ∧ v.value? = some j ∧ v.nesting = 0 ∧
      cs = t.text ++ rest := by
  cases cs with
  | nil => exact absurd h failHere_ne_ok
  | cons c cs =>
    rw [readScalar] at h
    split at h
    · rename_i hc
      obtain ⟨rest', hrest, he⟩ := bind_eq_ok_iff.mp h
      cases he
      rw [hc, readWord_eq_ok_iff.mp hrest]
      exact ⟨.null, .null, by rw [Tree.tokens], by rw [Tree.value?], by rw [Tree.nesting], rfl⟩
    split at h
    · rename_i hc
      obtain ⟨rest', hrest, he⟩ := bind_eq_ok_iff.mp h
      cases he
      rw [hc, readWord_eq_ok_iff.mp hrest]
      exact ⟨.bool true, .bool true, by rw [Tree.tokens], by rw [Tree.value?], by rw [Tree.nesting],
        rfl⟩
    split at h
    · rename_i hc
      obtain ⟨rest', hrest, he⟩ := bind_eq_ok_iff.mp h
      cases he
      rw [hc, readWord_eq_ok_iff.mp hrest]
      exact ⟨.bool false, .bool false, by rw [Tree.tokens], by rw [Tree.value?],
        by rw [Tree.nesting], rfl⟩
    split at h
    · rename_i hc
      obtain ⟨⟨num, rest'⟩, hnum, he⟩ := bind_eq_ok_iff.mp h
      cases he
      obtain ⟨n, hneg, rfl, hn⟩ := exists_numeral_of_readNumber hnum
      refine ⟨.number n, .number n, by rw [Tree.tokens], ?_, by rw [Tree.nesting], ?_⟩
      · rw [Tree.value?, hn]
        rfl
      · rw [hc, Token.text, Numeral.text, if_pos hneg]
        rfl
    split at h
    · obtain ⟨⟨num, rest'⟩, hnum, he⟩ := bind_eq_ok_iff.mp h
      cases he
      obtain ⟨n, hneg, hcs, hn⟩ := exists_numeral_of_readNumber hnum
      refine ⟨.number n, .number n, by rw [Tree.tokens], ?_, by rw [Tree.nesting], ?_⟩
      · rw [Tree.value?, hn]
        rfl
      · rw [hcs, Token.text, Numeral.text, if_neg (by simp [hneg])]
    split at h
    · rename_i hc
      obtain ⟨⟨value, rest'⟩, hvalue, he⟩ := bind_eq_ok_iff.mp h
      cases he
      obtain ⟨s, hs, rfl⟩ := readString_eq_ok_iff.mp hvalue
      refine ⟨.string s, .string s, by rw [Tree.tokens], ?_, by rw [Tree.nesting], ?_⟩
      · rw [Tree.value?, hs]
        rfl
      · rw [hc]
        simp [Token.text]
    · exact absurd h failNext_ne_ok

/-! ## Values -/

theorem readValue_scalar (room : Nat) {cs mid : List Char} {c : Char}
    (h : skipBlanks cs = c :: mid) (hsquare : c ≠ '[') (hcurly : c ≠ '\x7b') :
    readValue room cs = readScalar (c :: mid) := by
  cases room with
  | zero =>
    rw [readValue, h]
    split
    · rename_i he
      cases he
      exact absurd rfl hsquare
    · rename_i he
      cases he
      exact absurd rfl hcurly
    · rfl
  | succ room =>
    rw [readValue, h]
    split
    · rename_i he
      cases he
      exact absurd rfl hsquare
    · rename_i he
      cases he
      exact absurd rfl hcurly
    · rfl

/-- A tree of one token is read without room. -/
theorem readValue_token (room : Nat) {t : Token} {c : Char} {cs' cs rest : List Char} {j : Json}
    (htext : t.text = c :: cs') (hblank : isBlank c = false) (hsquare : c ≠ '[')
    (hcurly : c ≠ '\x7b') (hread : readScalar (t.text ++ rest) = .ok (j, rest))
    (h : Spaced [t] cs rest) : readValue room cs = .ok (j, rest) := by
  obtain ⟨mid, hmid, rfl⟩ := (spaced_cons_iff ⟨c, cs', htext, hblank⟩).mp h
  rw [htext, List.cons_append] at hmid hread
  rw [readValue_scalar room hmid hsquare hcurly, hread]

theorem takes_readPair {room : Nat} {value : Reader Json} (hvalue : Reads room value Tree.Denotes)
    {ms : List (Literal × Tree)} {ps : List (String × Json)} (hms : List.Forall₂ HasValue ms ps)
    (state : List (String × Json)) : Takes room (readPair value) state ms (state ++ ps) := by
  induction hms generalizing state with
  | nil =>
    rw [List.append_nil]
    exact .nil
  | @cons m p ms ps hm hms ih =>
    obtain ⟨k, v⟩ := m
    obtain ⟨name, j⟩ := p
    have htail :
        Takes room (readPair value) (state ++ [(name, j)]) ms (state ++ (name, j) :: ps) := by
      simpa using ih (state ++ [(name, j)])
    refine .cons hm.1 ?_ htail
    intro cs rest h hrest
    exact readColon_within hvalue hm.2 h hrest rfl

/-- A tree without brackets is read without room. -/
theorem readValue_flat (room : Nat) {v : Tree} (hflat : v.nesting = 0) {j : Json}
    (hv : v.value? = some j) {cs rest : List Char} (h : Spaced v.tokens cs rest)
    (hrest : Ends rest) : readValue room cs = .ok (j, rest) := by
  cases v with
  | null =>
    rw [Tree.value?] at hv
    rw [Tree.tokens] at h
    cases hv
    exact readValue_token room rfl (by decide) (by decide) (by decide)
      (readScalar_word rfl (fun _ => rfl)) h
  | bool b =>
    rw [Tree.value?] at hv
    rw [Tree.tokens] at h
    cases hv
    cases b with
    | true =>
      exact readValue_token room rfl (by decide) (by decide) (by decide)
        (readScalar_word rfl (fun _ => rfl)) h
    | false =>
      exact readValue_token room rfl (by decide) (by decide) (by decide)
        (readScalar_word rfl (fun _ => rfl)) h
  | number n =>
    rw [Tree.value?] at hv
    rw [Tree.tokens] at h
    obtain ⟨num, hnum, rfl⟩ := Option.map_eq_some_iff.mp hv
    obtain ⟨c, cs', htext, hc⟩ := n.exists_head
    have hread := readScalar_number n hnum hrest
    rcases hc with rfl | hc
    · exact readValue_token room (t := .number n) htext (by decide) (by decide) (by decide) hread h
    · exact readValue_token room (t := .number n) htext (isBlank_of_isDigit hc)
        (isDigit_ne hc (by decide)) (isDigit_ne hc (by decide)) hread h
  | string s =>
    rw [Tree.value?] at hv
    rw [Tree.tokens] at h
    obtain ⟨value, hvalue, rfl⟩ := Option.map_eq_some_iff.mp hv
    exact readValue_token room rfl (by decide) (by decide) (by decide)
      (readScalar_string hvalue rest) h
  | array vs =>
    rw [Tree.nesting] at hflat
    cases hflat
  | object ms =>
    rw [Tree.nesting] at hflat
    cases hflat

theorem Tree.flat_or_bracket (v : Tree) :
    v.nesting = 0 ∨ (∃ vs, v = .array vs) ∨ ∃ ms, v = .object ms := by
  cases v with
  | array vs => exact Or.inr (Or.inl ⟨vs, rfl⟩)
  | object ms => exact Or.inr (Or.inr ⟨ms, rfl⟩)
  | _ => exact Or.inl (by rw [Tree.nesting])

/-- **Values.** The text of a tree with a value is read if there is room for its brackets. -/
theorem readValue_reads (room : Nat) : Reads room (readValue room) Tree.Denotes := by
  induction room with
  | zero =>
    intro v j cs rest (hv : v.value? = some j) h hrest
    rcases v.flat_or_bracket with hflat | ⟨vs, rfl⟩ | ⟨ms, rfl⟩
    · exact (within_ok (readValue_flat 0 hflat hv h hrest)).congr (by simp [hflat])
    · rw [Tree.tokens_array] at h
      obtain ⟨mid, hmid, -⟩ := (spaced_mark (by decide)).mp h
      rw [readValue, hmid]
      exact within_failNext.congr (by simp [Tree.nesting])
    · rw [Tree.tokens_object] at h
      obtain ⟨mid, hmid, -⟩ := (spaced_mark (by decide)).mp h
      rw [readValue, hmid]
      exact within_failNext.congr (by simp [Tree.nesting])
  | succ room ih =>
    intro v j cs rest (hv : v.value? = some j) h hrest
    rcases v.flat_or_bracket with hflat | ⟨vs, rfl⟩ | ⟨ms, rfl⟩
    · exact (within_ok (readValue_flat _ hflat hv h hrest)).congr (by simp [hflat])
    · rw [Tree.value?] at hv
      obtain ⟨js, hjs, rfl⟩ := Option.map_eq_some_iff.mp hv
      rw [Tree.tokens_array] at h
      obtain ⟨mid, hmid, hitems⟩ := (spaced_mark (by decide)).mp h
      rw [readValue, hmid]
      have hread := readItems_within ih (itemValues?_eq_some_iff.mp hjs) hitems
      refine Within.congr (hread.bind_ok ?_) nesting_array_le_iff
      rfl
    · rw [Tree.value?] at hv
      obtain ⟨ps, hps, rfl⟩ := Option.map_eq_some_iff.mp hv
      rw [Tree.tokens_object] at h
      obtain ⟨mid, hmid, hmembers⟩ := (spaced_mark (by decide)).mp h
      rw [readValue, hmid]
      have htakes := takes_readPair ih (memberValues?_eq_some_iff.mp hps) []
      have hread := readMembers_within htakes hmembers
      refine Within.congr (hread.bind_ok ?_) nesting_object_le_iff
      rfl

theorem exists_tree_of_readScalar (room : Nat) {cs rest : List Char} {j : Json}
    (h : readScalar (skipBlanks cs) = .ok (j, rest)) :
    ∃ v : Tree, (v.nesting ≤ room ∧ v.Denotes j) ∧ Spaced v.tokens cs rest := by
  obtain ⟨v, t, ht, hv, hflat, hcs⟩ := exists_token_of_readScalar h
  refine ⟨v, ⟨by omega, hv⟩, ?_⟩
  rw [← v.spaced_skipBlanks_iff, ht]
  exact ⟨[], rest, by simp [Blank], by simpa using hcs, rfl⟩

theorem readPair_keeps {room : Nat} {value : Reader Json}
    (hvalue : ReadsOnly room value Tree.Denotes) :
    Keeps room (readPair value) (List.Forall₂ HasValue) := by
  intro pre state k name cs next rest hinv hk h
  obtain ⟨v, j, ⟨hfits, hv⟩, rfl, hspaced⟩ :=
    exists_value_of_readColon hvalue h fun _ _ => rfl
  exact ⟨v, ⟨hfits, List.rel_append hinv (.cons ⟨hk, hv⟩ .nil)⟩, hspaced⟩

/-- What is read as a value is the text of a tree with that value, for whose brackets there is
room. -/
theorem readValue_readsOnly (room : Nat) : ReadsOnly room (readValue room) Tree.Denotes := by
  induction room with
  | zero =>
    intro cs j rest h
    rw [readValue] at h
    split at h
    · exact absurd h failNext_ne_ok
    · exact absurd h failNext_ne_ok
    · exact exists_tree_of_readScalar 0 h
  | succ room ih =>
    intro cs j rest h
    rw [readValue] at h
    split at h
    · rename_i mid hmid
      obtain ⟨⟨js, rest'⟩, hitems, he⟩ := bind_eq_ok_iff.mp h
      cases he
      obtain ⟨vs, ⟨hnesting, hvalues⟩, hspaced⟩ := exists_items_of_readItems ih hitems
      refine ⟨.array vs, ⟨nesting_array_le_iff.mpr hnesting, ?_⟩, ?_⟩
      · rw [Tree.Denotes, Tree.value?, itemValues?_eq_some_iff.mpr hvalues]
        rfl
      · rw [Tree.tokens_array]
        exact (spaced_mark (by decide)).mpr ⟨mid, hmid, hspaced⟩
    · rename_i mid hmid
      obtain ⟨⟨ps, rest'⟩, hmembers, he⟩ := bind_eq_ok_iff.mp h
      cases he
      obtain ⟨ms, ⟨hnesting, hvalues⟩, hspaced⟩ :=
        exists_members_of_readMembers (readPair_keeps ih) .nil hmembers
      refine ⟨.object ms, ⟨nesting_object_le_iff.mpr hnesting, ?_⟩, ?_⟩
      · rw [Tree.Denotes, Tree.value?, memberValues?_eq_some_iff.mpr hvalues]
        rfl
      · rw [Tree.tokens_object]
        exact (spaced_mark (by decide)).mpr ⟨mid, hmid, hspaced⟩
    · exact exists_tree_of_readScalar _ h

end SyntaxOutline.Json
