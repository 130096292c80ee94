import SyntaxOutline.Json.Skip
import SyntaxOutline.Proofs.Json.Values

/-!
# Skipping values

A value is skipped if and only if it is the text of a tree (`skipValue_tree`,
`exists_tree_of_skipValue`). Strings need not be Unicode, numbers may be out of range and brackets
may nest to any depth, because a tree says nothing about that.

Lists and objects differ only in what stands in front of the value of an element (`Names`), and are
followed together. `Skips` leads from before a tree to behind it with the same brackets open; in the
other direction `ValueSkipped`, `OpenedSkipped` and `PassedSkipped` find the trees that were skipped
from each state.
-/

namespace SyntaxOutline.Json

/-! ## Strings -/

theorem skipEscape_eq_ok_iff {cs rest : List Char} :
    skipEscape cs = .ok rest ↔ ∃ p : Piece, '\\' :: cs = p.text ++ rest := by
  constructor
  · intro h
    cases cs with
    | nil => exact absurd h failHere_ne_ok
    | cons c cs =>
      rw [skipEscape] at h
      split at h
      · rename_i hu
        cases hread : readHexEscape cs with
        | error failure =>
          rw [hread] at h
          cases h
        | ok found =>
          rw [hread] at h
          cases h
          obtain ⟨x, y, z, w, rfl, hd⟩ := readHexEscape_eq_ok_iff.mp hread
          exact ⟨.hex x y z w _ hd, by rw [hu]; rfl⟩
      · split at h
        · rename_i hs
          cases h
          obtain ⟨found, hfound⟩ := Option.isSome_iff_exists.mp hs
          exact ⟨.simple c found (simpleEscape?_eq_some_iff.mp hfound), rfl⟩
        · exact absurd h failNext_ne_ok
  · rintro ⟨p, h⟩
    cases p with
    | plain c allowed =>
      obtain ⟨hc, -⟩ := List.cons.inj h
      exact absurd hc.symm allowed.2.1
    | simple letter c names =>
      obtain ⟨-, rfl⟩ := List.cons.inj h
      have hu : letter ≠ 'u' := by
        rintro rfl
        simp [escapes] at names
      simp [skipEscape, hu, simpleEscape?_eq_some_iff.mpr names]
    | hex a b c d n digits =>
      obtain ⟨-, rfl⟩ := List.cons.inj h
      have hread : readHexEscape (a :: b :: c :: d :: rest) = .ok (n, rest) :=
        readHexEscape_eq_ok_iff.mpr ⟨a, b, c, d, rfl, digits⟩
      have hescape : skipEscape ('u' :: a :: b :: c :: d :: rest) =
          (readHexEscape (a :: b :: c :: d :: rest)).map (·.2) := rfl
      rw [hread] at hescape
      exact hescape

/-- A piece of a string is skipped in one step. -/
theorem skipChars_piece (p : Piece) (fuel : Nat) (cs : List Char) :
    skipChars (fuel + 1) (p.text ++ cs) = skipChars fuel cs := by
  have escaped : ∀ tail, p.text ++ cs = '\\' :: tail →
      skipChars (fuel + 1) (p.text ++ cs) = skipChars fuel cs := by
    intro tail htail
    have hescape : skipEscape tail = .ok cs := skipEscape_eq_ok_iff.mpr ⟨p, htail.symm⟩
    rw [htail, skipChars, if_neg (by decide), if_pos rfl, hescape, ok_bind]
  cases p with
  | plain c allowed =>
    obtain ⟨hquote, hslash, hlow⟩ := allowed
    show skipChars (fuel + 1) (c :: cs) = _
    rw [skipChars, if_neg hquote, if_neg hslash, if_neg (by omega)]
  | simple letter c names => exact escaped _ rfl
  | hex a b c d n digits => exact escaped _ rfl

/-- What is skipped in one step is the closing quote or a piece. -/
theorem exists_piece_of_skipChars {fuel : Nat} {cs rest : List Char}
    (h : skipChars (fuel + 1) cs = .ok rest) :
    cs = '"' :: rest ∨ ∃ (p : Piece) (mid : List Char), cs = p.text ++ mid ∧
      skipChars fuel mid = .ok rest := by
  cases cs with
  | nil => exact absurd h failHere_ne_ok
  | cons c cs =>
    rw [skipChars] at h
    split at h
    · rename_i hquote
      cases h
      exact Or.inl (by rw [hquote])
    · rename_i hquote
      refine Or.inr ?_
      split at h
      · rename_i hslash
        obtain ⟨mid, hmid, h⟩ := bind_eq_ok_iff.mp h
        obtain ⟨p, hp⟩ := skipEscape_eq_ok_iff.mp hmid
        exact ⟨p, mid, by rw [hslash, hp], h⟩
      · rename_i hslash
        split at h
        · exact absurd h failHere_ne_ok
        · rename_i hlow
          exact ⟨.plain c ⟨hquote, hslash, by omega⟩, cs, rfl, h⟩

theorem skipChars_text (s : Literal) {fuel : Nat} (hfuel : s.length < fuel) (rest : List Char) :
    skipChars fuel (s.text ++ '"' :: rest) = .ok rest := by
  induction s generalizing fuel with
  | nil =>
    obtain ⟨fuel, rfl⟩ := Nat.exists_eq_succ_of_ne_zero (Nat.ne_of_gt hfuel)
    rfl
  | cons p s ih =>
    obtain ⟨fuel, rfl⟩ := Nat.exists_eq_succ_of_ne_zero (Nat.ne_of_gt (Nat.zero_lt_of_lt hfuel))
    have htext : Literal.text (p :: s) ++ '"' :: rest =
        p.text ++ (Literal.text s ++ '"' :: rest) := by
      simp [Literal.text]
    rw [htext, skipChars_piece]
    exact ih (Nat.lt_of_succ_lt_succ hfuel)

theorem exists_literal_of_skipChars {fuel : Nat} {cs rest : List Char}
    (h : skipChars fuel cs = .ok rest) : ∃ s : Literal, cs = s.text ++ '"' :: rest := by
  induction fuel generalizing cs with
  | zero => exact absurd h (by rw [skipChars]; exact failHere_ne_ok)
  | succ fuel ih =>
    rcases exists_piece_of_skipChars h with rfl | ⟨p, mid, rfl, hmid⟩
    · exact ⟨[], rfl⟩
    · obtain ⟨s, rfl⟩ := ih hmid
      exact ⟨p :: s, by simp [Literal.text]⟩

theorem Literal.length_le (s : Literal) : s.length ≤ s.text.length := by
  induction s with
  | nil => simp
  | cons p s ih =>
    have hpos : 0 < p.text.length := by
      cases p <;> simp [Piece.text]
    simp only [Literal.text, List.flatMap_cons, List.length_append, List.length_cons] at ih ⊢
    omega

/-- **Strings.** Skipping behind the opening quote succeeds exactly on the pieces of a string with
the closing quote behind them. -/
theorem skipString_eq_ok_iff {cs rest : List Char} :
    skipString cs = .ok rest ↔ ∃ s : Literal, cs = s.text ++ '"' :: rest := by
  constructor
  · exact exists_literal_of_skipChars
  · rintro ⟨s, rfl⟩
    have hlength := s.length_le
    apply skipChars_text
    simp only [List.length_append, List.length_cons]
    omega

/-! ## Numbers -/

theorem countDigits_cons {c : Char} (hc : c.isDigit = true) (cs : List Char) :
    (countDigits (c :: cs)).2 = (countDigits cs).2 := by
  simp [countDigits, hc]

theorem skipExponent_digits (sign : Sign) (ds : Digits) {rest : List Char} (hrest : NoDigit rest) :
    skipExponent (sign.text ++ ds.chars ++ rest) = .ok rest := by
  obtain ⟨chars, hne, hds⟩ := ds
  obtain ⟨d, ds, rfl⟩ := List.exists_cons_of_ne_nil hne
  have hd : d.isDigit = true := hds d List.mem_cons_self
  have hcount := countDigits_append hds hrest
  have hcons := countDigits_cons hd (ds ++ rest)
  rw [List.append_assoc, List.cons_append, skipExponent, exponentSign_text sign hd]
  dsimp only
  rw [if_pos hd, ← hcons, ← List.cons_append, hcount]

theorem exists_exponent_of_skipExponent {mark : Char} (hmark : isExponentMark mark = true)
    {cs rest : List Char} (h : skipExponent cs = .ok rest) :
    ∃ e : Exponent, mark :: cs = e.text ++ rest ∧ NoDigit rest := by
  obtain ⟨sign, hsign⟩ := exists_sign cs
  unfold skipExponent at h
  generalize (exponentSign cs).2 = tail at h hsign
  cases tail with
  | nil => exact absurd h failHere_ne_ok
  | cons c tail =>
    dsimp only at h
    by_cases hc : c.isDigit = true
    · obtain ⟨ds, r, he, hr⟩ := exists_digits_of_isDigit hc tail
      rw [if_pos hc, ← countDigits_cons hc, he, countDigits_append ds.digits hr] at h
      cases h
      exact ⟨⟨mark, isExponentMark_iff.mp hmark, sign, ds⟩,
        by rw [hsign, he]; simp [Exponent.text], hr⟩
    · rw [if_neg hc] at h
      exact absurd h failNext_ne_ok

theorem skipScale_exponent (e : Exponent) {rest : List Char} (hrest : NoDigit rest) :
    skipScale (e.text ++ rest) = .ok rest := by
  rw [Exponent.text, List.cons_append, List.cons_append, skipScale,
    if_pos (isExponentMark_iff.mpr e.isMark)]
  exact skipExponent_digits e.sign e.digits hrest

theorem skipScale_end {rest : List Char} (h : ∀ c ∈ rest.head?, isExponentMark c = false) :
    skipScale rest = .ok rest := by
  cases rest with
  | nil => rfl
  | cons c rest => rw [skipScale, if_neg (by simp [h c rfl])]

theorem exists_exponent_of_skipScale {cs rest : List Char} (h : skipScale cs = .ok rest) :
    (∃ e : Exponent, cs = e.text ++ rest ∧ NoDigit rest) ∨
      (cs = rest ∧ ∀ c ∈ cs.head?, isExponentMark c = false) := by
  cases cs with
  | nil =>
    cases h
    exact Or.inr ⟨rfl, by simp⟩
  | cons c cs =>
    rw [skipScale] at h
    by_cases hc : isExponentMark c = true
    · rw [if_pos hc] at h
      exact Or.inl (exists_exponent_of_skipExponent hc h)
    · rw [if_neg hc] at h
      cases h
      exact Or.inr ⟨rfl, by simpa using hc⟩

theorem skipTail_point (f : Digits) {r : List Char} (hr : NoDigit r) :
    skipTail ('.' :: (f.chars ++ r)) = skipScale r := by
  have hlength : f.chars.length ≠ 0 := fun h => f.nonempty (List.eq_nil_of_length_eq_zero h)
  rw [skipTail, if_pos rfl, countDigits_append f.digits hr]
  dsimp only
  rw [if_neg hlength]

theorem skipTail_of_ne {c : Char} (hc : c ≠ '.') (cs : List Char) :
    skipTail (c :: cs) = skipScale (c :: cs) := by
  rw [skipTail, if_neg hc]

/-- What follows the whole part of a numeral is skipped. -/
theorem skipTail_tail (n : Numeral) {rest : List Char} (h : n.EndsAt rest) :
    skipTail (n.tail ++ rest) = .ok rest := by
  obtain ⟨hdigit, hmark, hpoint⟩ := h
  cases hf : n.fraction with
  | some f =>
    cases he : n.exponent with
    | some e =>
      have htail : n.tail ++ rest = '.' :: (f.chars ++ (e.text ++ rest)) := by
        simp [Numeral.tail, hf, he]
      rw [htail, skipTail_point f (noDigit_exponent e rest), skipScale_exponent e hdigit]
    | none =>
      have htail : n.tail ++ rest = '.' :: (f.chars ++ rest) := by
        simp [Numeral.tail, hf, he]
      rw [htail, skipTail_point f hdigit, skipScale_end (hmark he)]
  | none =>
    cases he : n.exponent with
    | some e =>
      have htail : n.tail ++ rest = e.text ++ rest := by
        simp [Numeral.tail, hf, he]
      have hscale := skipScale_exponent e hdigit
      rw [Exponent.text, List.cons_append, List.cons_append] at hscale
      rw [htail, Exponent.text, List.cons_append, List.cons_append, skipTail_of_ne e.mark_ne_point,
        hscale]
    | none =>
      have htail : n.tail ++ rest = rest := by
        simp [Numeral.tail, hf, he]
      rw [htail]
      cases rest with
      | nil => rfl
      | cons c rest => rw [skipTail_of_ne (hpoint he hf c rfl), skipScale_end (hmark he)]

/-- What is skipped behind the whole part is a fraction and an exponent, either of which may be
missing. -/
theorem exists_tail_of_skipTail {cs rest : List Char} (hcs : NoDigit cs)
    (h : skipTail cs = .ok rest) (negative : Bool) (whole : Digits)
    (hzero : whole.chars.head? = some '0' → whole.chars = ['0']) :
    ∃ fraction exponent,
      cs = (Numeral.mk negative whole hzero fraction exponent).tail ++ rest := by
  cases cs with
  | nil =>
    cases h
    exact ⟨none, none, rfl⟩
  | cons c cs =>
    by_cases hpoint : c = '.'
    · subst hpoint
      obtain ⟨ds, r, rfl, hds, hr⟩ := exists_digits_append cs
      by_cases hne : ds = []
      · rw [skipTail, if_pos rfl, countDigits_append hds hr, hne] at h
        exact absurd h failNext_ne_ok
      · rw [skipTail_point ⟨ds, hne, hds⟩ hr] at h
        rcases exists_exponent_of_skipScale h with ⟨e, rfl, -⟩ | ⟨rfl, -⟩
        · exact ⟨some ⟨ds, hne, hds⟩, some e, by simp [Numeral.tail]⟩
        · exact ⟨some ⟨ds, hne, hds⟩, none, by simp [Numeral.tail]⟩
    · rw [skipTail_of_ne hpoint] at h
      rcases exists_exponent_of_skipScale h with ⟨e, he, -⟩ | ⟨rfl, -⟩
      · exact ⟨none, some e, by simp [Numeral.tail, he]⟩
      · exact ⟨none, none, rfl⟩

theorem skipNumber_whole (n : Numeral) {r : List Char} (hr : NoDigit r) :
    skipNumber (n.whole.chars ++ r) = skipTail r := by
  obtain ⟨_, ⟨ds, hne, hds⟩, hzero, _, _⟩ := n
  obtain ⟨d, ds, rfl⟩ := List.exists_cons_of_ne_nil hne
  dsimp only at hzero ⊢
  have hd : d.isDigit = true := hds d List.mem_cons_self
  by_cases hd0 : d = '0'
  · subst hd0
    obtain ⟨-, rfl⟩ : '0' = '0' ∧ ds = [] := by simpa using hzero rfl
    rw [List.singleton_append, skipNumber.eq_def]
    dsimp only
    rw [if_pos rfl]
    cases r with
    | nil => rfl
    | cons c r =>
      have hc : c.isDigit = false := hr c rfl
      dsimp only
      rw [if_neg (by simp [hc])]
  · have hcount := countDigits_append hds hr
    rw [List.cons_append] at hcount ⊢
    rw [skipNumber.eq_def]
    dsimp only
    rw [if_neg hd0, if_pos hd, ← countDigits_cons hd, hcount]

theorem skipNumber_unsigned (n : Numeral) {rest : List Char} (h : n.EndsAt rest) :
    skipNumber (n.unsigned ++ rest) = .ok rest := by
  rw [Numeral.unsigned, List.append_assoc, skipNumber_whole n (noDigit_tail n h.1)]
  exact skipTail_tail n h

theorem exists_whole_of_skipNumber {cs rest : List Char} (h : skipNumber cs = .ok rest) :
    ∃ (whole : Digits) (r : List Char), cs = whole.chars ++ r ∧ NoDigit r ∧
      (whole.chars.head? = some '0' → whole.chars = ['0']) := by
  cases cs with
  | nil => exact absurd h failHere_ne_ok
  | cons c cs =>
    rw [skipNumber.eq_def] at h
    dsimp only at h
    by_cases hzero : c = '0'
    · refine exists_whole (by rw [hzero]; rfl) fun _ => ?_
      intro d hd
      cases cs with
      | nil => cases hd
      | cons d' cs =>
        cases hd
        rw [if_pos hzero] at h
        dsimp only at h
        split at h
        · exact absurd h failNext_ne_ok
        · rename_i hdigit
          simpa using hdigit
    · rw [if_neg hzero] at h
      by_cases hc : c.isDigit = true
      · exact exists_whole hc fun he => absurd he hzero
      · rw [if_neg hc] at h
        exact absurd h failNext_ne_ok

/-- What is skipped as a number is a numeral, of either sign. -/
theorem exists_numeral_of_skipNumber {cs rest : List Char} (h : skipNumber cs = .ok rest)
    (negative : Bool) : ∃ n : Numeral, n.negative = negative ∧ cs = n.unsigned ++ rest := by
  obtain ⟨whole, r, rfl, hr, hzero⟩ := exists_whole_of_skipNumber h
  rw [skipNumber_whole ⟨negative, whole, hzero, none, none⟩ hr] at h
  obtain ⟨fraction, exponent, rfl⟩ := exists_tail_of_skipTail hr h negative whole hzero
  exact ⟨⟨negative, whole, hzero, fraction, exponent⟩, rfl,
    by rw [Numeral.unsigned, List.append_assoc]⟩

/-! ## Scalars -/

theorem skipScalar_number (n : Numeral) {rest : List Char} (hrest : Ends rest) :
    skipScalar (n.text ++ rest) = .ok rest := by
  have hskip := skipNumber_unsigned n (hrest.endsAt n)
  unfold Numeral.text
  cases hneg : n.negative with
  | true =>
    rw [if_pos rfl, List.cons_append, skipScalar, if_neg (by decide), if_neg (by decide),
      if_neg (by decide), if_pos rfl, hskip]
  | false =>
    rw [if_neg (by decide)]
    obtain ⟨d, ds, hds⟩ := List.exists_cons_of_ne_nil n.whole.nonempty
    have hd : d.isDigit = true := n.whole.digits d (by rw [hds]; exact List.mem_cons_self)
    have hcons : n.unsigned ++ rest = d :: (ds ++ n.tail ++ rest) := by
      rw [Numeral.unsigned, hds]
      simp
    rw [hcons] at hskip ⊢
    rw [skipScalar, if_neg (isDigit_ne hd (by decide)), if_neg (isDigit_ne hd (by decide)),
      if_neg (isDigit_ne hd (by decide)), if_neg (isDigit_ne hd (by decide)), if_pos hd, hskip]

/-- A tree without brackets is one token, which is skipped. -/
theorem exists_token_skipScalar {v : Tree} (hflat : v.nesting = 0) {rest : List Char}
    (hrest : Ends rest) :
    ∃ t c cs, v.tokens = [t] ∧ t.text = c :: cs ∧ isBlank c = false ∧ c ≠ '[' ∧ c ≠ '\x7b' ∧
      skipScalar (t.text ++ rest) = .ok rest := by
  cases v with
  | null => exact ⟨.null, 'n', _, by rw [Tree.tokens], rfl, by decide, by decide, by decide, rfl⟩
  | bool b =>
    cases b with
    | true =>
      exact ⟨.bool true, 't', _, by rw [Tree.tokens], rfl, by decide, by decide, by decide, rfl⟩
    | false =>
      exact ⟨.bool false, 'f', _, by rw [Tree.tokens], rfl, by decide, by decide, by decide, rfl⟩
  | number n =>
    obtain ⟨c, cs, htext, hc⟩ := n.exists_head
    refine ⟨.number n, c, cs, by rw [Tree.tokens], htext, ?_, ?_, ?_, skipScalar_number n hrest⟩
    · rcases hc with rfl | hc
      · decide
      · exact isBlank_of_isDigit hc
    · rcases hc with rfl | hc
      · decide
      · exact isDigit_ne hc (by decide)
    · rcases hc with rfl | hc
      · decide
      · exact isDigit_ne hc (by decide)
  | string s =>
    refine ⟨.string s, '"', _, by rw [Tree.tokens], rfl, by decide, by decide, by decide, ?_⟩
    have hcons : (Token.string s).text ++ rest = '"' :: (s.text ++ '"' :: rest) := by
      simp [Token.text]
    rw [hcons, skipScalar, if_neg (by decide), if_neg (by decide), if_neg (by decide),
      if_neg (by decide), if_neg (by decide), if_pos rfl]
    exact skipString_eq_ok_iff.mpr ⟨s, rfl⟩
  | array vs =>
    rw [Tree.nesting] at hflat
    cases hflat
  | object ms =>
    rw [Tree.nesting] at hflat
    cases hflat

/-- What is skipped as a scalar is the text of one token. -/
theorem exists_token_of_skipScalar {cs rest : List Char} (h : skipScalar cs = .ok rest) :
    ∃ (v : Tree) (t : Token), v.tokens = [t] ∧ cs = t.text ++ rest := by
  cases cs with
  | nil => exact absurd h failHere_ne_ok
  | cons c cs =>
    rw [skipScalar] at h
    split at h
    · rename_i hc
      rw [hc, readWord_eq_ok_iff.mp h]
      exact ⟨.null, .null, by rw [Tree.tokens], rfl⟩
    split at h
    · rename_i hc
      rw [hc, readWord_eq_ok_iff.mp h]
      exact ⟨.bool true, .bool true, by rw [Tree.tokens], rfl⟩
    split at h
    · rename_i hc
      rw [hc, readWord_eq_ok_iff.mp h]
      exact ⟨.bool false, .bool false, by rw [Tree.tokens], rfl⟩
    split at h
    · rename_i hc
      obtain ⟨n, hneg, rfl⟩ := exists_numeral_of_skipNumber h true
      refine ⟨.number n, .number n, by rw [Tree.tokens], ?_⟩
      rw [hc, Token.text, Numeral.text, if_pos hneg]
      rfl
    split at h
    · obtain ⟨n, hneg, hcs⟩ := exists_numeral_of_skipNumber h false
      refine ⟨.number n, .number n, by rw [Tree.tokens], ?_⟩
      rw [hcs, Token.text, Numeral.text, if_neg (by simp [hneg])]
    split at h
    · rename_i hc
      obtain ⟨s, rfl⟩ := skipString_eq_ok_iff.mp h
      refine ⟨.string s, .string s, by rw [Tree.tokens], ?_⟩
      rw [hc]
      simp [Token.text]
    · exact absurd h failNext_ne_ok

/-! ## Elements of a bracket -/

def Bracket.opening : Bracket → Char
  | .square => '['
  | .curly => '\x7b'

/-- What stands in front of the value of an element: nothing in a list, the name and colon of a
member in an object. -/
inductive Names : Bracket → List Token → Prop where
  | square : Names .square []
  | curly (k : Literal) : Names .curly [.string k, .mark ':']

/-- The elements after the first one, each with what stands in front of its value, and the closing
bracket. -/
def elementTokens (b : Bracket) : List (List Token × Tree) → List Token
  | [] => [.mark b.close]
  | (ts, v) :: es => .mark ',' :: (ts ++ v.tokens ++ elementTokens b es)

/-- What follows the opening bracket. -/
def openedTokens (b : Bracket) : List (List Token × Tree) → List Token
  | [] => [.mark b.close]
  | (ts, v) :: es => ts ++ v.tokens ++ elementTokens b es

theorem elementTokens_items (vs : List Tree) :
    elementTokens .square (vs.map ([], ·)) = Tree.itemTokens vs := by
  induction vs with
  | nil => rw [Tree.itemTokens]; rfl
  | cons v vs ih =>
    rw [Tree.itemTokens, ← ih]
    rfl

theorem elementTokens_members (ms : List (Literal × Tree)) :
    elementTokens .curly (ms.map fun m => ([.string m.1, .mark ':'], m.2)) =
      Tree.memberTokens ms := by
  induction ms with
  | nil => rw [Tree.memberTokens]; rfl
  | cons m ms ih =>
    obtain ⟨k, v⟩ := m
    rw [Tree.memberTokens, ← ih]
    simp [elementTokens]

theorem openedTokens_items (vs : List Tree) :
    openedTokens .square (vs.map ([], ·)) = Tree.listTokens vs := by
  cases vs with
  | nil => rfl
  | cons v vs =>
    rw [Tree.listTokens, ← elementTokens_items]
    rfl

theorem openedTokens_members (ms : List (Literal × Tree)) :
    openedTokens .curly (ms.map fun m => ([.string m.1, .mark ':'], m.2)) =
      Tree.objectTokens ms := by
  cases ms with
  | nil => rfl
  | cons m ms =>
    obtain ⟨k, v⟩ := m
    rw [Tree.objectTokens, ← elementTokens_members]
    simp [openedTokens]

/-- A tree with brackets is an opening bracket and elements that nest less. -/
theorem Tree.exists_elements {v : Tree} {n : Nat} (hle : v.nesting ≤ n + 1) (h : v.nesting ≠ 0) :
    ∃ b es, (∀ e ∈ es, Names b e.1 ∧ e.2.nesting ≤ n) ∧
      v.tokens = .mark b.opening :: openedTokens b es := by
  rcases v.flat_or_bracket with hflat | ⟨vs, rfl⟩ | ⟨ms, rfl⟩
  · exact absurd hflat h
  · have hvs := nesting_array_le_iff.mp hle
    refine ⟨.square, vs.map ([], ·), ?_, ?_⟩
    · intro e he
      obtain ⟨v, hv, rfl⟩ := List.mem_map.mp he
      exact ⟨.square, hvs v hv⟩
    · rw [Tree.tokens_array, openedTokens_items]
      rfl
  · have hms := nesting_object_le_iff.mp hle
    refine ⟨.curly, ms.map fun m => ([.string m.1, .mark ':'], m.2), ?_, ?_⟩
    · intro e he
      obtain ⟨m, hm, rfl⟩ := List.mem_map.mp he
      exact ⟨.curly m.1, hms m hm⟩
    · rw [Tree.tokens_object, openedTokens_members]
      rfl

/-- Elements between brackets make up a tree. -/
theorem exists_tree_of_elements {b : Bracket} {es : List (List Token × Tree)}
    (hes : ∀ e ∈ es, Names b e.1) :
    ∃ v : Tree, v.tokens = .mark b.opening :: openedTokens b es := by
  cases b with
  | square =>
    obtain ⟨vs, hvs⟩ : ∃ vs : List Tree, es = vs.map ([], ·) := by
      induction es with
      | nil => exact ⟨[], rfl⟩
      | cons e es ih =>
        obtain ⟨ts, v⟩ := e
        obtain ⟨vs, rfl⟩ := ih fun e he => hes e (List.mem_cons_of_mem _ he)
        cases hes _ List.mem_cons_self with
        | square => exact ⟨v :: vs, rfl⟩
    refine ⟨.array vs, ?_⟩
    rw [Tree.tokens_array, ← openedTokens_items, ← hvs]
    rfl
  | curly =>
    obtain ⟨ms, hms⟩ : ∃ ms : List (Literal × Tree),
        es = ms.map fun m => ([.string m.1, .mark ':'], m.2) := by
      induction es with
      | nil => exact ⟨[], rfl⟩
      | cons e es ih =>
        obtain ⟨ts, v⟩ := e
        obtain ⟨ms, rfl⟩ := ih fun e he => hes e (List.mem_cons_of_mem _ he)
        cases hes _ List.mem_cons_self with
        | curly k => exact ⟨(k, v) :: ms, rfl⟩
    refine ⟨.object ms, ?_⟩
    rw [Tree.tokens_object, ← openedTokens_members, ← hms]
    rfl

theorem ends_of_elementTokens {b : Bracket} {es : List (List Token × Tree)} {cs rest : List Char}
    (h : Spaced (elementTokens b es) cs rest) : Ends cs := by
  cases es with
  | nil =>
    rw [elementTokens] at h
    exact ends_of_mark (by cases b <;> decide) (by cases b <;> decide) h
  | cons e es =>
    rw [elementTokens] at h
    exact ends_of_mark (by decide) (by decide) h

theorem skipBlanks_idem (cs : List Char) : skipBlanks (skipBlanks cs) = skipBlanks cs := by
  obtain ⟨blanks, hb, hcs⟩ := exists_blank_append cs
  conv_rhs => rw [hcs, skipBlanks_append hb]

section

variable {b : Bracket} {ts : List Token} {v : Tree} {cs mid : List Char}

theorem Names.spaced_skipBlanks_iff (h : Names b ts) :
    Spaced (ts ++ v.tokens) (skipBlanks cs) mid ↔ Spaced (ts ++ v.tokens) cs mid := by
  cases h with
  | square => exact v.spaced_skipBlanks_iff
  | curly k =>
    simp only [List.cons_append, spaced_string, skipBlanks_idem]

/-- An element does not begin with the closing bracket. -/
theorem Names.skipBlanks_eq_cons (h : Names b ts) (hcs : Spaced (ts ++ v.tokens) cs mid) :
    ∃ c tail, skipBlanks cs = c :: tail ∧ c ≠ b.close := by
  cases h with
  | square => exact v.skipBlanks_eq_cons hcs
  | curly k =>
    obtain ⟨tail, htail, -⟩ := spaced_string.mp hcs
    exact ⟨'"', _, htail, by decide⟩

end

theorem skipName_curly_eq_ok_iff {cs rest : List Char} :
    skipName .curly cs = .ok rest ↔ ∃ k : Literal, Spaced [.string k, .mark ':'] cs rest := by
  constructor
  · intro h
    rw [skipName] at h
    split at h
    · exact absurd h failHere_ne_ok
    · rename_i c cs' hcs
      split at h
      · rename_i hc
        obtain ⟨mid, hmid, hcolon⟩ := bind_eq_ok_iff.mp h
        obtain ⟨k, rfl⟩ := skipString_eq_ok_iff.mp hmid
        refine ⟨k, spaced_string.mpr ⟨mid, by rw [hcs, hc], ?_⟩⟩
        split at hcolon
        · exact absurd hcolon failHere_ne_ok
        · rename_i d ds hds
          split at hcolon
          · rename_i hd
            cases hcolon
            exact (spaced_mark (by decide)).mpr ⟨_, by rw [hds, hd], rfl⟩
          · exact absurd hcolon failNext_ne_ok
      · exact absurd h failNext_ne_ok
  · rintro ⟨k, h⟩
    obtain ⟨mid, hmid, h⟩ := spaced_string.mp h
    obtain ⟨mid', hmid', rfl⟩ := (spaced_mark (by decide)).mp h
    rw [skipName, hmid]
    dsimp only
    rw [if_pos rfl, skipString_eq_ok_iff.mpr ⟨k, rfl⟩, ok_bind, hmid']
    rfl

theorem skipName_eq_ok_iff {b : Bracket} {cs rest : List Char} :
    skipName b cs = .ok rest ↔ ∃ ts, Names b ts ∧ Spaced ts cs rest := by
  cases b with
  | square =>
    constructor
    · intro h
      cases h
      exact ⟨[], .square, rfl⟩
    · rintro ⟨ts, hts, h⟩
      cases hts
      exact congrArg Except.ok h
  | curly =>
    rw [skipName_curly_eq_ok_iff]
    constructor
    · rintro ⟨k, h⟩
      exact ⟨_, .curly k, h⟩
    · rintro ⟨ts, hts, h⟩
      cases hts with
      | curly k => exact ⟨k, h⟩

/-! ## One step -/

section

variable (fuel : Nat) (bs : List Bracket) {cs mid rest : List Char}

theorem skipFrom_scalar {c : Char} (h : skipBlanks cs = c :: mid) (hsquare : c ≠ '[')
    (hcurly : c ≠ '\x7b') (hscalar : skipScalar (c :: mid) = .ok rest) :
    skipFrom (fuel + 1) .value bs cs = skipFrom fuel .passed bs rest := by
  rw [skipFrom, h]
  split
  · rename_i he
    cases he
    exact absurd rfl hsquare
  · rename_i he
    cases he
    exact absurd rfl hcurly
  · rw [hscalar, ok_bind]

variable (b : Bracket)

theorem skipFrom_opening (h : skipBlanks cs = b.opening :: mid) :
    skipFrom (fuel + 1) .value bs cs = skipFrom fuel .opened (b :: bs) mid := by
  cases b <;> rw [skipFrom, h] <;> rfl

theorem skipFrom_opened_close (h : skipBlanks cs = b.close :: mid) :
    skipFrom (fuel + 1) .opened (b :: bs) cs = skipFrom fuel .passed bs mid := by
  rw [skipFrom, h]
  dsimp only
  rw [if_pos rfl]

theorem skipFrom_opened_enter {c : Char} (h : skipBlanks cs = c :: mid) (hc : c ≠ b.close)
    (hname : skipName b (c :: mid) = .ok rest) :
    skipFrom (fuel + 1) .opened (b :: bs) cs = skipFrom fuel .value (b :: bs) rest := by
  rw [skipFrom, h]
  dsimp only
  rw [if_neg hc, hname, ok_bind]

theorem skipFrom_passed_close (h : skipBlanks cs = b.close :: mid) :
    skipFrom (fuel + 1) .passed (b :: bs) cs = skipFrom fuel .passed bs mid := by
  have hcomma : b.close ≠ ',' := by cases b <;> decide
  rw [skipFrom, h]
  dsimp only
  rw [if_neg hcomma, if_pos rfl]

theorem skipFrom_passed_comma (h : skipBlanks cs = ',' :: mid)
    (hname : skipName b mid = .ok rest) :
    skipFrom (fuel + 1) .passed (b :: bs) cs = skipFrom fuel .value (b :: bs) rest := by
  rw [skipFrom, h]
  dsimp only
  rw [if_pos rfl, hname, ok_bind]

end

section

variable {fuel : Nat} {b : Bracket} {bs : List Bracket} {cs rest : List Char}

/-- Before a value: a bracket is opened or a scalar is skipped. -/
theorem skipFrom_value_cases (h : skipFrom (fuel + 1) .value bs cs = .ok rest) :
    (∃ b mid, skipBlanks cs = b.opening :: mid ∧ skipFrom fuel .opened (b :: bs) mid = .ok rest) ∨
      ∃ mid, skipScalar (skipBlanks cs) = .ok mid ∧ skipFrom fuel .passed bs mid = .ok rest := by
  rw [skipFrom] at h
  split at h
  · rename_i mid hmid
    exact Or.inl ⟨.square, mid, hmid, h⟩
  · rename_i mid hmid
    exact Or.inl ⟨.curly, mid, hmid, h⟩
  · exact Or.inr (bind_eq_ok_iff.mp h)

/-- Behind an opening bracket: it is closed, or the first element begins. -/
theorem skipFrom_opened_cases (h : skipFrom (fuel + 1) .opened (b :: bs) cs = .ok rest) :
    (∃ mid, skipBlanks cs = b.close :: mid ∧ skipFrom fuel .passed bs mid = .ok rest) ∨
      ∃ mid, skipName b (skipBlanks cs) = .ok mid ∧
        skipFrom fuel .value (b :: bs) mid = .ok rest := by
  rw [skipFrom] at h
  split at h
  · exact absurd h failHere_ne_ok
  · rename_i c mid hmid
    rw [hmid]
    split at h
    · rename_i hc
      exact Or.inl ⟨mid, by rw [hc], h⟩
    · exact Or.inr (bind_eq_ok_iff.mp h)

/-- Behind an element: the bracket is closed, or the next element begins behind a comma. -/
theorem skipFrom_passed_cases (h : skipFrom (fuel + 1) .passed (b :: bs) cs = .ok rest) :
    (∃ mid, skipBlanks cs = b.close :: mid ∧ skipFrom fuel .passed bs mid = .ok rest) ∨
      ∃ tail mid, skipBlanks cs = ',' :: tail ∧ skipName b tail = .ok mid ∧
        skipFrom fuel .value (b :: bs) mid = .ok rest := by
  rw [skipFrom] at h
  split at h
  · exact absurd h failHere_ne_ok
  · rename_i c tail htail
    split at h
    · rename_i hc
      obtain ⟨mid, hmid, h⟩ := bind_eq_ok_iff.mp h
      exact Or.inr ⟨tail, mid, by rw [htail, hc], hmid, h⟩
    · split at h
      · rename_i hc
        exact Or.inl ⟨tail, by rw [htail, hc], h⟩
      · exact absurd h failNext_ne_ok

end

/-! ## Trees are skipped -/

/-- From before the tree to behind it, with the same brackets open. Fuel of more than twice the
length of the text is enough, and as much is left for what follows. -/
def Skips (v : Tree) : Prop :=
  ∀ fuel bs cs rest, Spaced v.tokens cs rest → Ends rest → 2 * cs.length < fuel →
    ∃ left, 2 * rest.length < left ∧ skipFrom fuel .value bs cs = skipFrom left .passed bs rest

section

variable {b : Bracket} {bs : List Bracket} {cs rest : List Char}

/-- The elements after the first one. -/
theorem skipFrom_elements {es : List (List Token × Tree)}
    (hes : ∀ e ∈ es, Names b e.1 ∧ Skips e.2) {fuel : Nat}
    (h : Spaced (elementTokens b es) cs rest) (hfuel : 2 * cs.length < fuel) :
    ∃ left, 2 * rest.length < left ∧
      skipFrom fuel .passed (b :: bs) cs = skipFrom left .passed bs rest := by
  induction es generalizing fuel cs with
  | nil =>
    obtain ⟨fuel, rfl⟩ := Nat.exists_eq_succ_of_ne_zero (Nat.ne_of_gt (Nat.zero_lt_of_lt hfuel))
    rw [elementTokens] at h
    obtain ⟨mid, hmid, rfl⟩ := (spaced_mark (by cases b <;> decide)).mp h
    have hlength := length_lt_of_skipBlanks hmid
    exact ⟨fuel, by omega, skipFrom_passed_close fuel bs b hmid⟩
  | cons e es ih =>
    obtain ⟨ts, v⟩ := e
    obtain ⟨fuel, rfl⟩ := Nat.exists_eq_succ_of_ne_zero (Nat.ne_of_gt (Nat.zero_lt_of_lt hfuel))
    obtain ⟨⟨hname, hv⟩, hes⟩ := List.forall_mem_cons.mp hes
    rw [elementTokens] at h
    obtain ⟨tail, htail, h⟩ := (spaced_mark (by decide)).mp h
    obtain ⟨mid', hfirst, hrest⟩ := spaced_append.mp h
    obtain ⟨mid, hnamed, hvalue⟩ := spaced_append.mp hfirst
    have hstep := skipFrom_passed_comma fuel bs b htail (skipName_eq_ok_iff.mpr ⟨ts, hname, hnamed⟩)
    have htail' := length_lt_of_skipBlanks htail
    have hmid := hnamed.length_le
    obtain ⟨left, hleft, hskip⟩ :=
      hv fuel (b :: bs) mid mid' hvalue (ends_of_elementTokens hrest) (by omega)
    obtain ⟨last, hlast, hlasts⟩ := ih hes hrest hleft
    exact ⟨last, hlast, by rw [hstep, hskip, hlasts]⟩

/-- The elements behind the opening bracket, which takes a step without reading anything. -/
theorem skipFrom_opened {es : List (List Token × Tree)}
    (hes : ∀ e ∈ es, Names b e.1 ∧ Skips e.2) {fuel : Nat}
    (h : Spaced (openedTokens b es) cs rest) (hfuel : 2 * cs.length + 1 < fuel) :
    ∃ left, 2 * rest.length < left ∧
      skipFrom fuel .opened (b :: bs) cs = skipFrom left .passed bs rest := by
  obtain ⟨fuel, rfl⟩ := Nat.exists_eq_succ_of_ne_zero (Nat.ne_of_gt (Nat.zero_lt_of_lt hfuel))
  cases es with
  | nil =>
    rw [openedTokens] at h
    obtain ⟨mid, hmid, rfl⟩ := (spaced_mark (by cases b <;> decide)).mp h
    have hlength := length_lt_of_skipBlanks hmid
    exact ⟨fuel, by omega, skipFrom_opened_close fuel bs b hmid⟩
  | cons e es =>
    obtain ⟨ts, v⟩ := e
    obtain ⟨⟨hname, hv⟩, hes⟩ := List.forall_mem_cons.mp hes
    obtain ⟨mid', hfirst, hrest⟩ := spaced_append.mp h
    obtain ⟨c, tail, hc, hne⟩ := hname.skipBlanks_eq_cons hfirst
    obtain ⟨mid, hnamed, hvalue⟩ := spaced_append.mp (hname.spaced_skipBlanks_iff.mpr hfirst)
    rw [hc] at hnamed
    have hstep :=
      skipFrom_opened_enter fuel bs b hc hne (skipName_eq_ok_iff.mpr ⟨ts, hname, hnamed⟩)
    have hlength := length_lt_of_skipBlanks hc
    have hmid := hnamed.length_le
    rw [List.length_cons] at hmid
    obtain ⟨left, hleft, hskip⟩ :=
      hv fuel (b :: bs) mid mid' hvalue (ends_of_elementTokens hrest) (by omega)
    obtain ⟨last, hlast, hlasts⟩ := skipFrom_elements hes hrest hleft
    exact ⟨last, hlast, by rw [hstep, hskip, hlasts]⟩

end

theorem skips_of_flat {v : Tree} (hflat : v.nesting = 0) : Skips v := by
  intro fuel bs cs rest h hrest hfuel
  obtain ⟨fuel, rfl⟩ := Nat.exists_eq_succ_of_ne_zero (Nat.ne_of_gt (Nat.zero_lt_of_lt hfuel))
  obtain ⟨t, c, cs', hv, htext, hblank, hsquare, hcurly, hskip⟩ :=
    exists_token_skipScalar hflat hrest
  rw [hv] at h
  obtain ⟨mid, hmid, he⟩ := (spaced_cons_iff ⟨c, cs', htext, hblank⟩).mp h
  cases he
  rw [htext, List.cons_append] at hmid hskip
  have hlength := length_lt_of_skipBlanks hmid
  rw [List.length_append] at hlength
  exact ⟨fuel, by omega, skipFrom_scalar fuel bs hmid hsquare hcurly hskip⟩

theorem skips_of_nesting_le (n : Nat) {v : Tree} (hn : v.nesting ≤ n) : Skips v := by
  induction n generalizing v with
  | zero => exact skips_of_flat (Nat.le_zero.mp hn)
  | succ n ih =>
    by_cases hflat : v.nesting = 0
    · exact skips_of_flat hflat
    · intro fuel bs cs rest h hrest hfuel
      obtain ⟨b, es, hes, hv⟩ := v.exists_elements hn hflat
      obtain ⟨fuel, rfl⟩ := Nat.exists_eq_succ_of_ne_zero (Nat.ne_of_gt (Nat.zero_lt_of_lt hfuel))
      rw [hv] at h
      obtain ⟨mid, hmid, h⟩ := (spaced_mark (by cases b <;> decide)).mp h
      have hlength := length_lt_of_skipBlanks hmid
      rw [skipFrom_opening fuel bs b hmid]
      exact skipFrom_opened (fun e he => ⟨(hes e he).1, ih (hes e he).2⟩) h (by omega)

/-! ## What is skipped is a tree -/

section

variable (fuel : Nat)

/-- What is skipped from before a value is a tree, and the rest is skipped from behind it. -/
def ValueSkipped : Prop :=
  ∀ {bs cs rest}, skipFrom fuel .value bs cs = .ok rest →
    ∃ (v : Tree) (mid : List Char), Spaced v.tokens cs mid ∧
      ∃ left < fuel, skipFrom left .passed bs mid = .ok rest

/-- What is skipped from behind an opening bracket is the elements in it. -/
def OpenedSkipped : Prop :=
  ∀ {b bs cs rest}, skipFrom fuel .opened (b :: bs) cs = .ok rest →
    ∃ es mid, (∀ e ∈ es, Names b e.1) ∧ Spaced (openedTokens b es) cs mid ∧
      ∃ left < fuel, skipFrom left .passed bs mid = .ok rest

/-- What is skipped from behind an element is the other elements of the bracket. -/
def PassedSkipped : Prop :=
  ∀ {b bs cs rest}, skipFrom fuel .passed (b :: bs) cs = .ok rest →
    ∃ es mid, (∀ e ∈ es, Names b e.1) ∧ Spaced (elementTokens b es) cs mid ∧
      ∃ left < fuel, skipFrom left .passed bs mid = .ok rest

variable {fuel}

/-- An element behind its name, and the elements after it. -/
theorem exists_element (hvalue : ValueSkipped fuel) (hpassed : ∀ left < fuel, PassedSkipped left)
    {b : Bracket} {bs : List Bracket} {cs start rest : List Char}
    (hname : skipName b cs = .ok start) (h : skipFrom fuel .value (b :: bs) start = .ok rest) :
    ∃ ts v es mid, Names b ts ∧ (∀ e ∈ es, Names b e.1) ∧
      Spaced (ts ++ Tree.tokens v ++ elementTokens b es) cs mid ∧
      ∃ left < fuel, skipFrom left .passed bs mid = .ok rest := by
  obtain ⟨ts, hts, hnamed⟩ := skipName_eq_ok_iff.mp hname
  obtain ⟨v, mid, hv, left, hleft, h⟩ := hvalue h
  obtain ⟨es, mid', hes, hspaced, last, hlast, h⟩ := hpassed left hleft h
  exact ⟨ts, v, es, mid', hts, hes,
    spaced_append.mpr ⟨mid, spaced_append.mpr ⟨start, hnamed, hv⟩, hspaced⟩,
    last, Nat.lt_trans hlast hleft, h⟩

end

theorem valueSkipped_succ {fuel : Nat} (hopened : OpenedSkipped fuel) :
    ValueSkipped (fuel + 1) := by
  intro bs cs rest h
  rcases skipFrom_value_cases h with ⟨b, mid, hmid, h⟩ | ⟨mid, hscalar, h⟩
  · obtain ⟨es, mid', hes, hspaced, left, hleft, h⟩ := hopened h
    obtain ⟨v, hv⟩ := exists_tree_of_elements hes
    refine ⟨v, mid', ?_, left, Nat.lt_succ_of_lt hleft, h⟩
    rw [hv]
    exact (spaced_mark (by cases b <;> decide)).mpr ⟨mid, hmid, hspaced⟩
  · obtain ⟨v, t, ht, hcs⟩ := exists_token_of_skipScalar hscalar
    refine ⟨v, mid, ?_, fuel, Nat.lt_succ_self fuel, h⟩
    rw [← v.spaced_skipBlanks_iff, ht]
    exact ⟨[], mid, by simp [Blank], by simpa using hcs, rfl⟩

theorem openedSkipped_succ {fuel : Nat} (hvalue : ValueSkipped fuel)
    (hpassed : ∀ left < fuel, PassedSkipped left) : OpenedSkipped (fuel + 1) := by
  intro b bs cs rest h
  rcases skipFrom_opened_cases h with ⟨mid, hmid, h⟩ | ⟨start, hname, h⟩
  · refine ⟨[], mid, by simp, ?_, fuel, Nat.lt_succ_self fuel, h⟩
    exact (spaced_mark (by cases b <;> decide)).mpr ⟨mid, hmid, rfl⟩
  · obtain ⟨ts, v, es, mid, hts, hes, hspaced, left, hleft, h⟩ :=
      exists_element hvalue hpassed hname h
    refine ⟨(ts, v) :: es, mid, List.forall_mem_cons.mpr ⟨hts, hes⟩, ?_, left,
      Nat.lt_succ_of_lt hleft, h⟩
    obtain ⟨mid', hfirst, hrest⟩ := spaced_append.mp hspaced
    exact spaced_append.mpr ⟨mid', hts.spaced_skipBlanks_iff.mp hfirst, hrest⟩

theorem passedSkipped_succ {fuel : Nat} (hvalue : ValueSkipped fuel)
    (hpassed : ∀ left < fuel, PassedSkipped left) : PassedSkipped (fuel + 1) := by
  intro b bs cs rest h
  rcases skipFrom_passed_cases h with ⟨mid, hmid, h⟩ | ⟨tail, start, htail, hname, h⟩
  · refine ⟨[], mid, by simp, ?_, fuel, Nat.lt_succ_self fuel, h⟩
    exact (spaced_mark (by cases b <;> decide)).mpr ⟨mid, hmid, rfl⟩
  · obtain ⟨ts, v, es, mid, hts, hes, hspaced, left, hleft, h⟩ :=
      exists_element hvalue hpassed hname h
    refine ⟨(ts, v) :: es, mid, List.forall_mem_cons.mpr ⟨hts, hes⟩, ?_, left,
      Nat.lt_succ_of_lt hleft, h⟩
    exact (spaced_mark (by decide)).mpr ⟨tail, htail, hspaced⟩

-- the three states call each other with less fuel, so one induction carries all of them
theorem skipped (fuel : Nat) : ValueSkipped fuel ∧ OpenedSkipped fuel ∧ PassedSkipped fuel := by
  induction fuel using Nat.strongRecOn with
  | ind fuel ih =>
    cases fuel with
    | zero =>
      refine ⟨?_, ?_, ?_⟩
      · intro bs cs rest h
        exact absurd h failHere_ne_ok
      · intro b bs cs rest h
        exact absurd h failHere_ne_ok
      · intro b bs cs rest h
        exact absurd h failHere_ne_ok
    | succ fuel =>
      obtain ⟨hvalue, hopened, -⟩ := ih fuel (Nat.lt_succ_self fuel)
      have hpassed : ∀ left < fuel, PassedSkipped left := fun left hleft =>
        (ih left (Nat.lt_succ_of_lt hleft)).2.2
      exact ⟨valueSkipped_succ hopened, openedSkipped_succ hvalue hpassed,
        passedSkipped_succ hvalue hpassed⟩

/-! ## Values -/

/-- **Values.** The text of a tree is skipped, whatever its strings, numbers and depth. -/
theorem skipValue_tree {v : Tree} {cs rest : List Char} (h : Spaced v.tokens cs rest)
    (hrest : Ends rest) : skipValue cs = .ok rest := by
  obtain ⟨left, hleft, hskip⟩ :=
    skips_of_nesting_le v.nesting (Nat.le_refl _) (2 * cs.length + 2) [] cs rest h hrest (by omega)
  obtain ⟨left, rfl⟩ := Nat.exists_eq_succ_of_ne_zero (Nat.ne_of_gt (Nat.zero_lt_of_lt hleft))
  rw [skipValue, hskip, skipFrom_passed_nil]

/-- What is skipped as a value is the text of a tree. -/
theorem exists_tree_of_skipValue {cs rest : List Char} (h : skipValue cs = .ok rest) :
    ∃ v : Tree, Spaced v.tokens cs rest := by
  obtain ⟨v, mid, hspaced, left, -, hmid⟩ := (skipped _).1 h
  cases left with
  | zero => exact absurd hmid failHere_ne_ok
  | succ left =>
    rw [skipFrom_passed_nil] at hmid
    cases hmid
    exact ⟨v, hspaced⟩

end SyntaxOutline.Json
