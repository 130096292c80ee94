import SyntaxOutline.Proofs.Toml.Blanks

/-!
# Reading strings

What the grammar spells as a string, on one line or over several, is read as what it stands for
(`readString_body`).
-/

namespace SyntaxOutline.Toml

/-! ## Digits -/

section

variable {base : Nat}

/-- What holds of the digits in both cases holds of every digit. -/
theorem Digit.of_forall {size : Nat} {P : Char → Nat → Prop} (hbase : base ≤ size)
    (h : ∀ n < size, ∀ capital : Bool,
      P (if capital then (Nat.digitChar n).toUpper else Nat.digitChar n) n)
    (d : Digit base) : P d.char d.value :=
  h d.value (Nat.lt_of_lt_of_le d.value.isLt hbase) d.capital

theorem hexDigit?_char (hbase : base ≤ 16) (d : Digit base) :
    Text.hexDigit? d.char = some d.value.val :=
  Digit.of_forall (P := fun c n => Text.hexDigit? c = some n) hbase (by decide) d

theorem ofDigits?_chars (hbase : base ≤ 16) (ds : List (Digit base)) :
    Text.ofDigits? base (ds.map Digit.char) = some (Digit.number ds) := by
  rw [Text.ofDigits?, Digit.number]
  generalize 0 = n
  induction ds generalizing n with
  | nil => rfl
  | cons d ds ih =>
    rw [List.map_cons, List.foldl_cons, List.foldl_cons, Option.bind_some, hexDigit?_char hbase,
      Option.bind_some, if_pos d.value.isLt]
    exact ih _

end

/-! ## Strings on one line -/

theorem scalar?_toNat (c : Char) : Text.scalar? c.toNat = some c := by
  have hvalid : c.toNat.isValidChar := c.valid
  rw [Text.scalar?, if_pos hvalid, Char.ofNat_toNat]

theorem readCode_digits {digits : List (Digit 16)} {c : Char}
    (hwrites : Digit.number digits = c.toNat) (cs : List Char) :
    readCode digits.length (digits.map Digit.char ++ cs) = .ok (c, cs) := by
  have hlength : (digits.map Digit.char).length = digits.length := List.length_map _
  have htake : (digits.map Digit.char ++ cs).take digits.length = digits.map Digit.char :=
    List.take_left' hlength
  have hdrop : (digits.map Digit.char ++ cs).drop digits.length = cs := List.drop_left' hlength
  rw [readCode, htake, hdrop, if_pos hlength, ofDigits?_chars (by decide), hwrites,
    Option.bind_some, scalar?_toNat]

theorem readEscape_body (e : Escape) (cs : List Char) :
    readEscape (e.body ++ cs) = .ok (e.char, cs) := by
  cases e with
  | named letter c names =>
    simp only [escapes, List.mem_cons, List.not_mem_nil, or_false, Prod.mk.injEq] at names
    rcases names with ⟨rfl, rfl⟩ | ⟨rfl, rfl⟩ | ⟨rfl, rfl⟩ | ⟨rfl, rfl⟩ | ⟨rfl, rfl⟩ | ⟨rfl, rfl⟩ |
      ⟨rfl, rfl⟩ | ⟨rfl, rfl⟩ <;> rfl
  | code letter digits c width writes =>
    have hread := readCode_digits writes cs
    simp only [codeWidths, List.mem_cons, List.not_mem_nil, or_false, Prod.mk.injEq] at width
    rcases width with ⟨rfl, hlength⟩ | ⟨rfl, hlength⟩ | ⟨rfl, hlength⟩
    all_goals
      rw [hlength] at hread
      exact hread

theorem readBasic_pieces (pieces : List (Piece .double)) (rest : List Char) {fuel : Nat}
    (hfuel : (pieces.flatMap Piece.text).length < fuel) :
    readBasic fuel (pieces.flatMap Piece.text ++ '"' :: rest) =
      .ok (pieces.map Piece.char, rest) := by
  obtain ⟨fuel, rfl⟩ := Nat.exists_eq_succ_of_ne_zero (Nat.ne_of_gt (Nat.zero_lt_of_lt hfuel))
  induction pieces generalizing fuel with
  | nil => rfl
  | cons piece pieces ih =>
    rw [List.flatMap_cons, List.length_append] at hfuel
    rw [List.flatMap_cons, List.append_assoc, List.map_cons]
    cases piece with
    | plain c printed ne noSlash =>
      have hlength : (Piece.plain c printed ne noSlash).text.length = 1 := rfl
      have hquote : c ≠ '"' := ne
      obtain ⟨fuel, rfl⟩ := Nat.exists_eq_succ_of_ne_zero (n := fuel) (by omega)
      rw [Piece.text, List.singleton_append, readBasic, if_neg hquote, if_neg (noSlash rfl),
        if_pos (isPlain_iff.mpr printed), ih fuel (by omega)]
      rfl
    | escape e double =>
      have hlength : (Piece.escape e double).text.length = e.body.length + 1 := rfl
      obtain ⟨fuel, rfl⟩ := Nat.exists_eq_succ_of_ne_zero (n := fuel) (by omega)
      rw [Piece.text, List.cons_append, readBasic, if_neg (by decide), if_pos rfl,
        readEscape_body, ok_bind]
      dsimp only
      rw [ih fuel (by omega)]
      rfl

theorem readLiteral_pieces (pieces : List (Piece .single)) (rest : List Char) :
    readLiteral (pieces.flatMap Piece.text ++ '\'' :: rest) =
      .ok (pieces.map Piece.char, rest) := by
  induction pieces with
  | nil => rfl
  | cons piece pieces ih =>
    rw [List.flatMap_cons, List.append_assoc, List.map_cons]
    cases piece with
    | plain c printed ne noSlash =>
      have hquote : c ≠ '\'' := ne
      rw [Piece.text, List.singleton_append, readLiteral, if_neg hquote,
        if_pos (isPlain_iff.mpr printed), ih]
      rfl
    | escape e double => cases double

/-! ## Strings over several lines -/

section

variable {q : Quote} {rest : List Char}

theorem Quote.isSolid_char (q : Quote) : IsSolid q.char := by
  cases q with
  | double => decide
  | single => decide

theorem Quote.isPlain_char (q : Quote) : isPlain q.char = true := by
  cases q with
  | double => rfl
  | single => rfl

theorem Quote.char_ne_slash (q : Quote) : q.char ≠ '\\' := by
  cases q with
  | double => decide
  | single => decide

theorem takeWhile_quotes {quote : Char} (k : Nat) (hrest : ∀ c ∈ rest.head?, c ≠ quote) :
    (List.replicate k quote ++ rest).takeWhile (· == quote) = List.replicate k quote := by
  refine takeWhile_run (fun c hc => ?_) fun c hc => ?_
  · simp [List.eq_of_mem_replicate hc]
  · simp [hrest c hc]

theorem closing?_of_lt {quote : Char} {k : Nat} (hk : k < 3) (hrest : ∀ c ∈ rest.head?, c ≠ quote) :
    closing? quote (List.replicate k quote ++ rest) = none := by
  have hcount : ((List.replicate k quote).take 5).length < 3 := by
    rw [List.length_take, List.length_replicate]
    omega
  rw [closing?, takeWhile_quotes k hrest, if_pos hcount]

theorem closing?_of_le {quote : Char} {k : Nat} (hk : k ≤ 2)
    (hrest : ∀ c ∈ rest.head?, c ≠ quote) :
    closing? quote (List.replicate (k + 3) quote ++ rest) =
      some (List.replicate k quote, rest) := by
  have hcount : ((List.replicate (k + 3) quote).take 5).length = k + 3 := by
    rw [List.length_take, List.length_replicate]
    omega
  rw [closing?, takeWhile_quotes (k + 3) hrest, hcount, if_neg (by omega), Nat.add_sub_cancel,
    List.drop_left' List.length_replicate]

/-- With enough fuel, the characters of a string are read up to the rest. -/
def ReadsLong (q : Quote) (size : Nat) (cs found rest : List Char) : Prop :=
  ∀ fuel, size < fuel → readLong q.char fuel cs = .ok (found, rest)

theorem ReadsLong.mono {size size' : Nat} {cs found : List Char}
    (h : ReadsLong q size cs found rest) (hle : size ≤ size') : ReadsLong q size' cs found rest :=
  fun fuel hfuel => h fuel (Nat.lt_of_le_of_lt hle hfuel)

theorem ReadsLong.plain {size : Nat} {cs found : List Char} (h : ReadsLong q size cs found rest)
    {c : Char} (hclosing : closing? q.char (c :: cs) = none) (hslash : q = .double → c ≠ '\\')
    (hplain : isPlain c = true ∨ (lineEnd? (c :: cs)).isSome = true) :
    ReadsLong q (size + 1) (c :: cs) (c :: found) rest := by
  intro fuel hfuel
  obtain ⟨fuel, rfl⟩ := Nat.exists_eq_succ_of_ne_zero (n := fuel) (by omega)
  have hnot : ¬ (c = '\\' ∧ q.char = '"') := by
    rintro ⟨hc, hq⟩
    cases q with
    | double => exact hslash rfl hc
    | single => exact absurd hq (by decide)
  rw [readLong, hclosing]
  dsimp only
  rw [if_neg hnot, if_pos hplain, h fuel (by omega)]
  rfl

theorem ReadsLong.quotes {size : Nat} {cs found : List Char} (h : ReadsLong q size cs found rest)
    (hhead : ∀ c ∈ cs.head?, c ≠ q.char) {k : Nat} (hk : k < 3) :
    ReadsLong q (size + k) (List.replicate k q.char ++ cs) (List.replicate k q.char ++ found)
      rest := by
  induction k with
  | zero => exact h
  | succ k ih =>
    have hclosing := closing?_of_lt hk hhead
    rw [List.replicate_succ, List.cons_append] at hclosing ⊢
    rw [List.cons_append]
    exact (ih (by omega)).plain hclosing (fun _ => q.char_ne_slash) (.inl q.isPlain_char)

theorem closing?_cons {c : Char} {quote : Char} (hc : c ≠ quote) (cs : List Char) :
    closing? quote (c :: cs) = none :=
  closing?_of_lt (k := 0) (by decide) (by simpa using hc)

theorem Escape.exists_body (e : Escape) :
    ∃ c cs, e.body = c :: cs ∧ isSpace c = false ∧ c ≠ '\n' ∧ c ≠ '\r' := by
  have hnamed : ∀ pair ∈ escapes, isSpace pair.1 = false ∧ pair.1 ≠ '\n' ∧ pair.1 ≠ '\r' := by
    decide
  have hcode : ∀ pair ∈ codeWidths, isSpace pair.1 = false ∧ pair.1 ≠ '\n' ∧ pair.1 ≠ '\r' := by
    decide
  cases e with
  | named letter c names => exact ⟨letter, [], rfl, hnamed _ names⟩
  | code letter digits c width writes =>
    exact ⟨letter, digits.map Digit.char, rfl, hcode _ width⟩

/-- An escape is no backslash at the end of a line. -/
theorem joinLine?_body (e : Escape) (cs : List Char) : joinLine? (e.body ++ cs) = none := by
  obtain ⟨c, more, hbody, hspace, hfeed, hreturn⟩ := e.exists_body
  rw [joinLine?, hbody, List.cons_append, skipSpaces_cons hspace, lineEnd?_cons hfeed hreturn]
  rfl

theorem IsPrinted.ne_lineEnd {c : Char} (h : IsPrinted c) : c ≠ '\n' ∧ c ≠ '\r' := by
  constructor
  · rintro rfl
    exact absurd h (by decide)
  · rintro rfl
    exact absurd h (by decide)

theorem LineEnd.ne_quote {c : Char} (hc : c = '\n' ∨ c = '\r') (q : Quote) : c ≠ q.char := by
  have hsolid := q.isSolid_char
  rcases hc with rfl | rfl
  · exact hsolid.2.2.2.1.symm
  · exact hsolid.2.2.2.2.symm

theorem ReadsLong.lineEnd {size : Nat} {cs found : List Char} (h : ReadsLong q size cs found rest)
    (e : LineEnd) : ReadsLong q (size + e.text.length) (e.text ++ cs) (e.text ++ found) rest := by
  have hfeed := h.plain (c := '\n') (closing?_cons (LineEnd.ne_quote (.inl rfl) q) cs)
    (fun _ => by decide) (.inr rfl)
  cases e with
  | feed => exact hfeed
  | returnFeed =>
    exact hfeed.plain (closing?_cons (LineEnd.ne_quote (.inr rfl) q) _) (fun _ => by decide)
      (.inr rfl)

/-- The first character of a piece is no quote. -/
theorem LongPiece.head_ne (p : LongPiece q) (cs : List Char) :
    ∀ c ∈ (p.text ++ cs).head?, c ≠ q.char := by
  cases p with
  | piece p =>
    cases p with
    | plain c printed ne noSlash =>
      rintro _ ⟨⟩
      exact ne
    | escape e double =>
      rintro _ ⟨⟩
      exact q.char_ne_slash.symm
  | lineEnd e =>
    obtain ⟨c, more, htext, hc⟩ := e.exists_text
    rw [LongPiece.text, htext]
    rintro _ ⟨⟩
    exact LineEnd.ne_quote hc q
  | join spaces stop double =>
    rintro _ ⟨⟩
    exact q.char_ne_slash.symm

/-- A piece is read in front of what follows it, which a join may have shortened. -/
theorem ReadsLong.piece {size : Nat} {cs found joined : List Char} (p : LongPiece q)
    (h : p.isJoin = false → ReadsLong q size cs found rest)
    (hjoined : p.isJoin = true → ReadsLong q size (skipBlankLines cs) joined rest) :
    ReadsLong q (size + p.text.length) (p.text ++ cs)
      (p.chars ++ if p.isJoin then joined else found) rest := by
  cases p with
  | piece p =>
    cases p with
    | plain c printed ne noSlash =>
      exact (h rfl).plain (closing?_cons ne cs) noSlash (.inl (isPlain_iff.mpr printed))
    | escape e double =>
      cases double
      intro fuel hfuel
      obtain ⟨fuel, rfl⟩ := Nat.exists_eq_succ_of_ne_zero (n := fuel) (by omega)
      have hlength : (LongPiece.piece (.escape e rfl)).text.length = e.body.length + 1 := rfl
      have hcs := h rfl fuel (by omega)
      change readLong '"' fuel cs = _ at hcs
      change readLong '"' (fuel + 1) ('\\' :: (e.body ++ cs)) = .ok (e.char :: found, rest)
      rw [readLong, closing?_cons (by decide)]
      dsimp only
      rw [if_pos ⟨rfl, rfl⟩, joinLine?_body]
      dsimp only
      rw [readEscape_body, ok_bind]
      dsimp only
      rw [hcs]
      rfl
  | lineEnd e => exact (h rfl).lineEnd e
  | join spaces stop double =>
    cases double
    intro fuel hfuel
    obtain ⟨fuel, rfl⟩ := Nat.exists_eq_succ_of_ne_zero (n := fuel) (by omega)
    have hcs := hjoined rfl fuel (by simp only [LongPiece.text, List.length_cons] at hfuel; omega)
    have hjoin : joinLine? (spaces.chars ++ stop.text ++ cs) = some (skipBlankLines cs) := by
      obtain ⟨c, more, htext, hc⟩ := stop.exists_text
      have hspace : isSpace c = false := by rcases hc with rfl | rfl <;> rfl
      have hend := lineEnd?_text stop cs
      rw [joinLine?, List.append_assoc, skipSpaces_append]
      rw [htext, List.cons_append] at hend ⊢
      rw [skipSpaces_cons hspace, hend]
      rfl
    change readLong '"' fuel _ = _ at hcs
    change readLong '"' (fuel + 1) ('\\' :: (spaces.chars ++ stop.text ++ cs)) = .ok (joined, rest)
    rw [readLong, closing?_cons (by decide)]
    dsimp only
    rw [if_pos ⟨rfl, rfl⟩, hjoin]
    exact hcs

theorem skipBlankLines_cons {c : Char} (hspace : isSpace c = false) (hfeed : c ≠ '\n')
    (hreturn : c ≠ '\r') (cs : List Char) : skipBlankLines (c :: cs) = c :: cs := by
  rw [skipBlankLines]
  · simp [hspace, hfeed]
  · intro cs' hc
    exact absurd hc hreturn

/-- Blanks behind a join are skipped. -/
theorem Segment.skipBlankLines_text {s : Segment q} (h : s.isBlank = true) (cs : List Char) :
    skipBlankLines (s.text ++ cs) = skipBlankLines cs := by
  obtain ⟨k, p⟩ := s
  simp only [Segment.isBlank, Bool.and_eq_true, beq_iff_eq] at h
  obtain ⟨hk, hp⟩ := h
  rw [Segment.text]
  dsimp only
  rw [hk, List.replicate_zero, List.nil_append]
  cases p with
  | piece p =>
    cases p with
    | plain c printed ne noSlash =>
      have hc : c = ' ' ∨ c = '\t' := by simpa [LongPiece.isBlank] using hp
      rcases hc with rfl | rfl <;> rfl
    | escape e double => cases hp
  | lineEnd e =>
    cases e with
    | feed => rfl
    | returnFeed => rfl
  | join spaces stop double => cases hp

/-- A segment that is no line end begins with none, and with a blank only if it is one. -/
theorem Segment.exists_text {s : Segment q} (h : ∀ e, s ≠ ⟨0, .lineEnd e⟩) :
    ∃ c cs, s.text = c :: cs ∧ c ≠ '\n' ∧ c ≠ '\r' ∧ (s.isBlank = false → isSpace c = false) := by
  have hslash : '\\' ≠ '\n' ∧ '\\' ≠ '\r' := by decide
  obtain ⟨⟨k, hk⟩, p⟩ := s
  cases k with
  | succ k =>
    have hsolid := q.isSolid_char
    exact ⟨q.char, _, rfl, hsolid.2.2.2.1, hsolid.2.2.2.2, fun _ => hsolid.isSpace⟩
  | zero =>
    cases p with
    | piece p =>
      cases p with
      | plain c printed ne noSlash =>
        exact ⟨c, [], rfl, printed.ne_lineEnd.1, printed.ne_lineEnd.2, fun hblank => hblank⟩
      | escape e double => exact ⟨'\\', _, rfl, hslash.1, hslash.2, fun _ => rfl⟩
    | lineEnd e => exact absurd rfl (h e)
    | join spaces stop double => exact ⟨'\\', _, rfl, hslash.1, hslash.2, fun _ => rfl⟩

theorem skipBlankLines_close (q : Quote) (k : Nat) (cs : List Char) :
    skipBlankLines (List.replicate (k + 3) q.char ++ cs) =
      List.replicate (k + 3) q.char ++ cs := by
  rw [List.replicate_succ, List.cons_append]
  exact skipBlankLines_cons q.isSolid_char.isSpace q.isSolid_char.2.2.2.1 q.isSolid_char.2.2.2.2 _

/-- The segments of a string are read up to its closing quotes, with and without a join in front.
The induction is on the segments; a join needs the second statement for those behind it. -/
theorem readsLong_segments (segments : List (Segment q)) {k : Nat} (hk : k ≤ 2)
    (hrest : ∀ c ∈ rest.head?, c ≠ q.char) :
    let close := List.replicate (k + 3) q.char ++ rest
    let size := (segments.flatMap Segment.text).length
    ReadsLong q size (segments.flatMap Segment.text ++ close)
        (Segment.allChars false segments ++ List.replicate k q.char) rest ∧
      ReadsLong q size (skipBlankLines (segments.flatMap Segment.text ++ close))
        (Segment.allChars true segments ++ List.replicate k q.char) rest := by
  intro close
  induction segments with
  | nil =>
    have hclose : ReadsLong q 0 close (List.replicate k q.char) rest := by
      intro fuel hfuel
      obtain ⟨fuel, rfl⟩ := Nat.exists_eq_succ_of_ne_zero (Nat.ne_of_gt hfuel)
      have hclosing := closing?_of_le hk hrest
      change readLong q.char (fuel + 1) (List.replicate (k + 3) q.char ++ rest) = _
      rw [List.replicate_succ, List.cons_append] at hclosing ⊢
      rw [readLong, hclosing]
    refine ⟨hclose, ?_⟩
    change ReadsLong q 0 (skipBlankLines close) _ rest
    rw [skipBlankLines_close]
    exact hclose
  | cons s segments ih =>
    obtain ⟨ih, ihJoined⟩ := ih
    have htext : (s :: segments).flatMap Segment.text ++ close =
        s.text ++ (segments.flatMap Segment.text ++ close) := by
      rw [List.flatMap_cons, List.append_assoc]
    have hlength : ((s :: segments).flatMap Segment.text).length =
        (segments.flatMap Segment.text).length + s.piece.text.length + s.quotes := by
      rw [List.flatMap_cons, List.length_append, Segment.text, List.length_append,
        List.length_replicate]
      omega
    have hhere : ReadsLong q ((s :: segments).flatMap Segment.text).length
        (s.text ++ (segments.flatMap Segment.text ++ close))
        (s.chars ++ Segment.allChars s.piece.isJoin segments ++ List.replicate k q.char) rest := by
      have hpiece := (ReadsLong.piece s.piece (fun _ => ih) fun _ => ihJoined).quotes
        (s.piece.head_ne _) s.quotes.isLt
      rw [hlength, Segment.text, Segment.chars, List.append_assoc, List.append_assoc,
        List.append_assoc]
      cases hjoin : s.piece.isJoin with
      | true => simpa only [hjoin, if_true] using hpiece
      | false => simpa only [hjoin, Bool.false_eq_true, if_false] using hpiece
    refine ⟨by rwa [htext], ?_⟩
    rw [htext]
    by_cases hblank : s.isBlank = true
    · rw [Segment.allChars, hblank, Segment.skipBlankLines_text hblank]
      exact ihJoined.mono (by omega)
    · have hends : ∀ e, s ≠ ⟨0, .lineEnd e⟩ := by
        rintro e rfl
        exact hblank rfl
      obtain ⟨c, more, hhead, hfeed, hreturn, hspace⟩ := Segment.exists_text hends
      have hskip : skipBlankLines (s.text ++ (segments.flatMap Segment.text ++ close)) =
          s.text ++ (segments.flatMap Segment.text ++ close) := by
        rw [hhead, List.cons_append,
          skipBlankLines_cons (hspace (by simpa using hblank)) hfeed hreturn]
      rw [hskip, Segment.allChars, if_neg (by simpa using hblank)]
      exact hhere

theorem dropFirstLineEnd_segments (segments : List (Segment q)) (k : Nat) (cs : List Char) :
    dropFirstLineEnd (segments.flatMap Segment.text ++ (List.replicate (k + 3) q.char ++ cs)) =
      (Segment.dropFirstEnd segments).flatMap Segment.text ++
        (List.replicate (k + 3) q.char ++ cs) := by
  unfold Segment.dropFirstEnd
  split
  · rename_i e segments
    have htext : Segment.text (⟨0, .lineEnd e⟩ : Segment q) = e.text := rfl
    rw [List.flatMap_cons, htext, List.append_assoc, dropFirstLineEnd, lineEnd?_text]
    rfl
  · rename_i hfirst
    have hnone : lineEnd? (segments.flatMap Segment.text ++
        (List.replicate (k + 3) q.char ++ cs)) = none := by
      cases segments with
      | nil =>
        exact lineEnd?_cons q.isSolid_char.2.2.2.1 q.isSolid_char.2.2.2.2 _
      | cons s segments =>
        have hends : ∀ e, s ≠ ⟨0, .lineEnd e⟩ := by
          rintro e rfl
          exact hfirst e segments rfl
        obtain ⟨c, more, hhead, hfeed, hreturn, -⟩ := Segment.exists_text hends
        rw [List.flatMap_cons, hhead, List.cons_append, List.cons_append,
          lineEnd?_cons hfeed hreturn]
    rw [dropFirstLineEnd, hnone]
    rfl

/-- A string on one line does not begin with three quotes. -/
theorem isPrefixOf_pieces (pieces : List (Piece q)) (hrest : ∀ c ∈ rest.head?, c ≠ q.char) :
    [q.char, q.char].isPrefixOf (pieces.flatMap Piece.text ++ q.char :: rest) = false := by
  have hhead : ∀ {c : Char} {cs : List Char}, c ≠ q.char → [q.char, q.char].isPrefixOf (c :: cs) =
      false := by
    intro c cs hc
    have hbeq : (q.char == c) = false := by simpa using hc.symm
    simp [List.isPrefixOf, hbeq]
  cases pieces with
  | nil =>
    cases rest with
    | nil => simp [List.isPrefixOf]
    | cons c rest =>
      have hbeq : (q.char == c) = false := by simpa using (hrest c rfl).symm
      simp [List.isPrefixOf, hbeq]
  | cons piece pieces =>
    cases piece with
    | plain c printed ne noSlash => exact hhead ne
    | escape e double => exact hhead q.char_ne_slash.symm

/-- **Strings.** A string is read behind its first quote. -/
theorem readString_body (l : Literal) (hrest : Ends rest) :
    readString l.quote.char (l.body ++ rest) = .ok (l.value, rest) := by
  have hquote : ∀ c ∈ rest.head?, c ≠ l.quote.char := by
    intro c hc
    have hmarks : ∀ d ∈ [' ', '\t', '\n', '\r', '#', ',', ']', '\x7d'], ∀ q : Quote,
        d ≠ q.char := by
      intro d hd q
      cases q with
      | double =>
        rintro rfl
        exact absurd hd (by decide)
      | single =>
        rintro rfl
        exact absurd hd (by decide)
    exact hmarks c (hrest.head hc) l.quote
  cases l with
  | line q pieces =>
    have hquotes := isPrefixOf_pieces pieces hquote
    rw [readString, Literal.body, Literal.quote, List.append_assoc, List.singleton_append]
    dsimp only
    rw [hquotes]
    cases q with
    | double =>
      have hfuel : (pieces.flatMap Piece.text).length <
          (pieces.flatMap Piece.text ++ '"' :: rest).length + 1 := by
        rw [List.length_append]
        omega
      rw [if_neg (by decide), Quote.char, if_pos rfl, readBasic_pieces pieces rest hfuel]
      rfl
    | single =>
      rw [if_neg (by decide), Quote.char, if_neg (by decide), readLiteral_pieces]
      rfl
  | long q segments k =>
    have hquotes : ∀ cs, [q.char, q.char].isPrefixOf (q.char :: q.char :: cs) = true := by
      simp [List.isPrefixOf]
    have hread := (readsLong_segments (Segment.dropFirstEnd segments) (Nat.le_of_lt_succ k.isLt)
      hquote).1
    rw [readString, Literal.body, Literal.quote]
    dsimp only
    rw [List.cons_append, List.cons_append, if_pos (hquotes _)]
    change (readLong q.char _ (dropFirstLineEnd
      (segments.flatMap Segment.text ++ List.replicate (k.val + 3) q.char ++ rest)) >>= _) = _
    rw [List.append_assoc, dropFirstLineEnd_segments, hread _ _, ok_bind]
    · rfl
    · simp only [List.drop_succ_cons, List.drop_zero, dropFirstLineEnd_segments]
      rw [List.length_append]
      omega

end

end SyntaxOutline.Toml
