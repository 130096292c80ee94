import SyntaxOutline.Proofs.Json.Grammar
import SyntaxOutline.Proofs.Json.Outcome

/-!
# Reading words and strings

The readers of words and strings succeed exactly on the texts that the grammar writes for them.

* `readWord_eq_ok_iff` : a word.
* `readString_eq_ok_iff` : a string behind its opening quote, with the text it stands for.

A character of a string is written by one piece, or by two if it is a surrogate pair (`Stands`). The
reader takes one character a step, so that both directions follow from what one step does
(`readChars_stands`, `exists_stands_of_readChars`).
-/

namespace SyntaxOutline.Json

theorem readWord_eq_ok_iff {ws cs rest : List Char} :
    readWord ws cs = .ok rest ↔ cs = ws ++ rest := by
  induction ws generalizing cs with
  | nil => simp [readWord]
  | cons w ws ih =>
    cases cs with
    | nil => simp [readWord, failHere]
    | cons c cs =>
      by_cases h : c = w
      · simp [readWord, h, ih]
      · simp [readWord, h, failNext]

/-! ## Escapes -/

theorem simpleEscape?_eq_some_iff {letter c : Char} :
    simpleEscape? letter = some c ↔ (letter, c) ∈ escapes := by
  constructor
  · intro h
    unfold simpleEscape? at h
    split at h <;> cases h <;> decide
  · intro h
    have hall : ∀ pair ∈ escapes, simpleEscape? pair.1 = some pair.2 := by decide
    exact hall (letter, c) h

theorem isLeading_iff {n : Nat} : isLeading n = true ↔ Leads n := by
  simp only [isLeading, Leads, decide_eq_true_eq]
  omega

theorem isTrailing_iff {n : Nat} : isTrailing n = true ↔ Trails n := by
  simp only [isTrailing, Trails, decide_eq_true_eq]
  omega

theorem joinSurrogates_eq (leading trailing : Nat) :
    joinSurrogates leading trailing = pairChar leading trailing := by
  have harg : (leading - 0xD800) * 0x400 + (trailing - 0xDC00) + 0x10000 =
      0x10000 + (leading - 0xD800) * 2 ^ 10 + (trailing - 0xDC00) := by omega
  rw [joinSurrogates, pairChar, ← harg]

theorem readHexEscape_eq_ok_iff {cs rest : List Char} {n : Nat} :
    readHexEscape cs = .ok (n, rest) ↔
      ∃ a b c d, cs = a :: b :: c :: d :: rest ∧ Text.ofDigits? 16 [a, b, c, d] = some n := by
  have hex : readHexEscape cs = .ok (n, rest) ↔ hexEscape? cs = some (n, rest) := by
    unfold readHexEscape
    cases hexEscape? cs with
    | none =>
      dsimp only
      split <;> simp
    | some found => simp
  rw [hex]
  constructor
  · intro h
    unfold hexEscape? at h
    split at h
    · rename_i a b c d tail
      obtain ⟨m, hm, he⟩ := Option.map_eq_some_iff.mp h
      cases he
      exact ⟨a, b, c, d, rfl, hm⟩
    · cases h
  · rintro ⟨a, b, c, d, rfl, h⟩
    simp [hexEscape?, h]

theorem readTrailing_eq_ok_iff {n : Nat} {cs rest : List Char} {found : Char} :
    readTrailing n cs = .ok (found, rest) ↔
      ∃ m a b c d, cs = '\\' :: 'u' :: a :: b :: c :: d :: rest ∧
        Text.ofDigits? 16 [a, b, c, d] = some m ∧ Trails m ∧ found = pairChar n m := by
  constructor
  · intro h
    unfold readTrailing at h
    split at h
    · exact absurd h failHere_ne_ok
    · exact absurd h failHere_ne_ok
    · rename_i tail
      obtain ⟨⟨m, tail'⟩, hm, hb⟩ := bind_eq_ok_iff.mp h
      obtain ⟨a, b, c, d, rfl, hd⟩ := readHexEscape_eq_ok_iff.mp hm
      dsimp only at hb
      split at hb
      · rename_i ht
        simp only [pure, Except.pure, Except.ok.injEq, Prod.mk.injEq] at hb
        obtain ⟨rfl, rfl⟩ := hb
        exact ⟨m, a, b, c, d, rfl, hd, isTrailing_iff.mp ht, joinSurrogates_eq n m⟩
      · exact absurd hb failHere_ne_ok
    · exact absurd h failNext_ne_ok
    · exact absurd h failNext_ne_ok
  · rintro ⟨m, a, b, c, d, rfl, hd, ht, hfound⟩
    have hm : readHexEscape (a :: b :: c :: d :: rest) = .ok (m, rest) :=
      readHexEscape_eq_ok_iff.mpr ⟨a, b, c, d, rfl, hd⟩
    rw [readTrailing, hm, ok_bind]
    dsimp only
    rw [if_pos (isTrailing_iff.mpr ht), hfound, joinSurrogates_eq]
    rfl

theorem readUnicode_eq_ok_iff {cs rest : List Char} {found : Char} :
    readUnicode cs = .ok (found, rest) ↔
      ∃ n mid, readHexEscape cs = .ok (n, mid) ∧ ¬ Trails n ∧
        ((Leads n ∧ readTrailing n mid = .ok (found, rest)) ∨
          (¬ Leads n ∧ found = Char.ofNat n ∧ mid = rest)) := by
  constructor
  · intro h
    obtain ⟨⟨n, mid⟩, hn, hb⟩ := bind_eq_ok_iff.mp h
    refine ⟨n, mid, hn, ?_⟩
    dsimp only at hb
    split at hb
    · exact absurd hb failHere_ne_ok
    · rename_i ht
      refine ⟨mt isTrailing_iff.mpr ht, ?_⟩
      split at hb
      · rename_i hl
        exact Or.inl ⟨isLeading_iff.mp hl, hb⟩
      · rename_i hl
        cases hb
        exact Or.inr ⟨mt isLeading_iff.mpr hl, rfl, rfl⟩
  · rintro ⟨n, mid, hn, ht, ⟨hl, h⟩ | ⟨hl, rfl, rfl⟩⟩
    · rw [readUnicode, hn, ok_bind]
      dsimp only
      rw [if_neg (mt isTrailing_iff.mp ht), if_pos (isLeading_iff.mpr hl), h]
    · rw [readUnicode, hn, ok_bind]
      dsimp only
      rw [if_neg (mt isTrailing_iff.mp ht), if_neg (mt isLeading_iff.mp hl)]
      rfl

/-! ## Characters -/

/-- The pieces write the one character `c`. -/
inductive Stands : Literal → Char → Prop where
  | plain {c : Char} (h) : Stands [.plain c h] c
  | simple {letter c : Char} (h) : Stands [.simple letter c h] c
  | hex {a b c d : Char} {n : Nat} (h) (ht : ¬ Trails n) (hl : ¬ Leads n) :
      Stands [.hex a b c d n h] (Char.ofNat n)
  | pair {a b c d a' b' c' d' : Char} {n m : Nat} (h) (h') (ht : ¬ Trails n) (hl : Leads n)
      (hm : Trails m) : Stands [.hex a b c d n h, .hex a' b' c' d' m h'] (pairChar n m)

theorem Stands.text_pos {ps : Literal} {c : Char} (h : Stands ps c) : 0 < ps.text.length := by
  cases h <;> simp [Literal.text, Piece.text]

theorem chars?_append {ps : Literal} {c : Char} (h : Stands ps c) (s : Literal) :
    Literal.chars? (ps ++ s) = (Literal.chars? s).map (c :: ·) := by
  cases h with
  | plain h => rfl
  | simple h => rfl
  | hex h ht hl =>
    rw [List.singleton_append, Literal.chars?.eq_def]
    simp [ht, hl]
  | pair h h' ht hl hm => simp [Literal.chars?, ht, hl, hm]

/-- A literal that stands for a text is empty or begins with the pieces of a character. -/
theorem chars?_eq_some {s : Literal} {value : List Char} (h : s.chars? = some value) :
    (s = [] ∧ value = []) ∨
      ∃ ps c s' more, s = ps ++ s' ∧ Stands ps c ∧ Literal.chars? s' = some more ∧
        value = c :: more := by
  unfold Literal.chars? at h
  split at h
  · cases h
    exact Or.inl ⟨rfl, rfl⟩
  · rename_i c hc s
    obtain ⟨more, hm, rfl⟩ := Option.map_eq_some_iff.mp h
    exact Or.inr ⟨_, c, s, more, rfl, .plain hc, hm, rfl⟩
  · rename_i letter c hc s
    obtain ⟨more, hm, rfl⟩ := Option.map_eq_some_iff.mp h
    exact Or.inr ⟨[.simple letter c hc], c, s, more, rfl, .simple hc, hm, rfl⟩
  · rename_i a b c d n hn s
    split at h
    · cases h
    · rename_i ht
      split at h
      · rename_i hl
        split at h
        · rename_i a' b' c' d' m hm s
          split at h
          · rename_i htm
            obtain ⟨more, hmore, rfl⟩ := Option.map_eq_some_iff.mp h
            exact Or.inr ⟨[.hex a b c d n hn, .hex a' b' c' d' m hm], _, s, more, rfl,
              .pair hn hm ht hl htm, hmore, rfl⟩
          · cases h
        · cases h
      · rename_i hl
        obtain ⟨more, hmore, rfl⟩ := Option.map_eq_some_iff.mp h
        exact Or.inr ⟨[.hex a b c d n hn], _, s, more, rfl,
          .hex hn ht hl, hmore, rfl⟩

/-- What is read behind a backslash is the pieces of a character. -/
theorem exists_stands_of_readEscape {cs rest : List Char} {c : Char}
    (h : readEscape cs = .ok (c, rest)) :
    ∃ ps, Stands ps c ∧ '\\' :: cs = Literal.text ps ++ rest := by
  cases cs with
  | nil => exact absurd h failHere_ne_ok
  | cons letter cs =>
    rw [readEscape] at h
    split at h
    · rename_i hu
      subst hu
      obtain ⟨n, mid, hn, ht, ⟨hl, hm⟩ | ⟨hl, hc, rfl⟩⟩ := readUnicode_eq_ok_iff.mp h
      · obtain ⟨x, y, z, w, rfl, hd⟩ := readHexEscape_eq_ok_iff.mp hn
        obtain ⟨m, x', y', z', w', rfl, hd', htm, hc⟩ := readTrailing_eq_ok_iff.mp hm
        rw [hc]
        exact ⟨_, .pair hd hd' ht hl htm, rfl⟩
      · obtain ⟨x, y, z, w, rfl, hd⟩ := readHexEscape_eq_ok_iff.mp hn
        rw [hc]
        exact ⟨_, .hex hd ht hl, rfl⟩
    · split at h
      · rename_i hs
        cases h
        exact ⟨_, .simple (simpleEscape?_eq_some_iff.mp hs), rfl⟩
      · exact absurd h failNext_ne_ok

/-! ## Whole strings -/

/-- The pieces of a character are taken in one step. -/
theorem readChars_stands {ps : Literal} {c : Char} (h : Stands ps c) (fuel : Nat)
    {rest more rest' : List Char} (hmore : readChars fuel rest = .ok (more, rest')) :
    readChars (fuel + 1) (ps.text ++ rest) = .ok (c :: more, rest') := by
  have escaped : ∀ cs, readEscape cs = .ok (c, rest) →
      readChars (fuel + 1) ('\\' :: cs) = .ok (c :: more, rest') := by
    intro cs hcs
    rw [readChars, if_neg (by decide), if_pos rfl, hcs, ok_bind]
    dsimp only
    rw [hmore]
    rfl
  cases h with
  | plain h =>
    obtain ⟨hq, hb, hlow⟩ := h
    simp only [Literal.text, Piece.text, List.flatMap_cons, List.flatMap_nil, List.append_nil,
      List.singleton_append]
    rw [readChars, if_neg hq, if_neg hb, if_neg (by omega), hmore]
    rfl
  | @simple letter c h =>
    have hu : letter ≠ 'u' := by
      rintro rfl
      simp [escapes] at h
    refine escaped (letter :: rest) ?_
    rw [readEscape, if_neg hu, simpleEscape?_eq_some_iff.mpr h]
  | @hex a b c d n h ht hl =>
    refine escaped ('u' :: a :: b :: c :: d :: rest) ?_
    rw [readEscape, if_pos rfl]
    exact readUnicode_eq_ok_iff.mpr
      ⟨n, rest, readHexEscape_eq_ok_iff.mpr ⟨a, b, c, d, rfl, h⟩, ht, Or.inr ⟨hl, rfl, rfl⟩⟩
  | @pair a b c d a' b' c' d' n m h h' ht hl hm =>
    refine escaped ('u' :: a :: b :: c :: d :: '\\' :: 'u' :: a' :: b' :: c' :: d' :: rest) ?_
    rw [readEscape, if_pos rfl]
    exact readUnicode_eq_ok_iff.mpr
      ⟨n, _, readHexEscape_eq_ok_iff.mpr ⟨a, b, c, d, rfl, h⟩, ht,
        Or.inl ⟨hl, readTrailing_eq_ok_iff.mpr ⟨m, a', b', c', d', rfl, h', hm, rfl⟩⟩⟩

/-- What is taken in one step is the closing quote or the pieces of a character. -/
theorem exists_stands_of_readChars {fuel : Nat} {cs value rest : List Char}
    (h : readChars (fuel + 1) cs = .ok (value, rest)) :
    (value = [] ∧ cs = '"' :: rest) ∨
      ∃ ps c mid more, Stands ps c ∧ cs = Literal.text ps ++ mid ∧
        readChars fuel mid = .ok (more, rest) ∧ value = c :: more := by
  cases cs with
  | nil => exact absurd h failHere_ne_ok
  | cons c cs =>
    rw [readChars] at h
    split at h
    · rename_i hq
      cases h
      exact Or.inl ⟨rfl, by rw [hq]⟩
    · rename_i hq
      refine Or.inr ?_
      split at h
      · rename_i hb
        obtain ⟨⟨found, mid⟩, hfound, hm⟩ := bind_eq_ok_iff.mp h
        obtain ⟨⟨more, rest'⟩, hmore, he⟩ := bind_eq_ok_iff.mp hm
        cases he
        obtain ⟨ps, hps, hcs⟩ := exists_stands_of_readEscape hfound
        exact ⟨ps, found, mid, more, hps, by rw [hb, hcs], hmore, rfl⟩
      · rename_i hb
        split at h
        · exact absurd h failHere_ne_ok
        · rename_i hlow
          obtain ⟨⟨more, rest'⟩, hmore, he⟩ := bind_eq_ok_iff.mp h
          cases he
          exact ⟨[.plain c ⟨hq, hb, by omega⟩], c, cs, more, .plain _, rfl, hmore, rfl⟩

theorem readChars_text {s : Literal} {value : List Char} (h : s.chars? = some value) (fuel : Nat)
    (hfuel : value.length < fuel) (rest : List Char) :
    readChars fuel (s.text ++ '"' :: rest) = .ok (value, rest) := by
  induction value generalizing s fuel with
  | nil =>
    obtain ⟨fuel, rfl⟩ := Nat.exists_eq_succ_of_ne_zero (Nat.ne_of_gt hfuel)
    rcases chars?_eq_some h with ⟨rfl, -⟩ | ⟨_, _, _, _, _, _, _, hv⟩
    · rfl
    · cases hv
  | cons c more ih =>
    obtain ⟨fuel, rfl⟩ := Nat.exists_eq_succ_of_ne_zero (Nat.ne_of_gt (Nat.zero_lt_of_lt hfuel))
    rcases chars?_eq_some h with ⟨-, hv⟩ | ⟨ps, c', s', more', rfl, hps, hs', hv⟩
    · cases hv
    · cases hv
      have hmore := ih hs' fuel (by simpa using hfuel)
      simpa [Literal.text] using readChars_stands hps fuel hmore

theorem exists_literal_of_readChars {fuel : Nat} {cs value rest : List Char}
    (h : readChars fuel cs = .ok (value, rest)) :
    ∃ s : Literal, s.chars? = some value ∧ cs = s.text ++ '"' :: rest := by
  induction fuel generalizing cs value with
  | zero => exact absurd h (by rw [readChars]; exact failHere_ne_ok)
  | succ fuel ih =>
    rcases exists_stands_of_readChars h with ⟨rfl, rfl⟩ | ⟨ps, c, mid, more, hps, rfl, hm, rfl⟩
    · exact ⟨[], rfl, rfl⟩
    · obtain ⟨s, hs, rfl⟩ := ih hm
      refine ⟨ps ++ s, ?_, ?_⟩
      · rw [chars?_append hps, hs]
        rfl
      · simp [Literal.text]

theorem length_le_text {s : Literal} {value : List Char} (h : s.chars? = some value) :
    value.length ≤ s.text.length := by
  induction value generalizing s with
  | nil => simp
  | cons c more ih =>
    rcases chars?_eq_some h with ⟨-, hv⟩ | ⟨ps, c', s', more', rfl, hps, hs', hv⟩
    · cases hv
    · cases hv
      have hmore := ih hs'
      have hpos := hps.text_pos
      simp only [Literal.text, List.flatMap_append, List.length_append, List.length_cons] at *
      omega

/-- **Strings.** Reading behind the opening quote succeeds exactly on the pieces of a string that
stands for a text, with the closing quote behind them. -/
theorem readString_eq_ok_iff {cs rest : List Char} {value : String} :
    readString cs = .ok (value, rest) ↔
      ∃ s : Literal, s.value? = some value ∧ cs = s.text ++ '"' :: rest := by
  constructor
  · intro h
    obtain ⟨⟨found, rest'⟩, hfound, he⟩ := bind_eq_ok_iff.mp h
    cases he
    obtain ⟨s, hs, hcs⟩ := exists_literal_of_readChars hfound
    exact ⟨s, by rw [Literal.value?, hs]; rfl, hcs⟩
  · rintro ⟨s, hs, rfl⟩
    obtain ⟨found, hfound, rfl⟩ := Option.map_eq_some_iff.mp hs
    have hlen := length_le_text hfound
    have hread := readChars_text hfound (s.text ++ '"' :: rest).length
      (by simp only [List.length_append, List.length_cons]; omega) rest
    rw [readString, hread]
    rfl

end SyntaxOutline.Json
