import SyntaxOutline.Proofs.Toml.Strings

/-!
# Reading numbers

What the grammar spells as a number is read as what it stands for (`numeral?_text`), and a number in
range has a value in range (`Number.holds_iff_inRange`).
-/

namespace SyntaxOutline.Toml

open Json (Sign)

/-! ## Digits of numbers -/

section

variable {base : Nat}

theorem Digit.isDigit_char (d : Digit 10) : d.char.isDigit = true :=
  of_forall (P := fun c _ => c.isDigit = true) (Nat.le_refl 10) (by decide) d

theorem Digit.char_eq_zero_iff (d : Digit 10) : d.char = '0' ↔ d.value.val = 0 :=
  of_forall (P := fun c n => c = '0' ↔ n = 0) (Nat.le_refl 10) (by decide) d

theorem Digit.isRunChar_char (hbase : base ≤ 16) (d : Digit base) : isRunChar d.char = true :=
  of_forall (P := fun c _ => isRunChar c = true) hbase (by decide) d

theorem Digits.mem_text {ds : Digits base} {c : Char} (h : c ∈ ds.text) :
    c = '_' ∨ ∃ d : Digit base, c = d.char := by
  rw [Digits.text, List.mem_cons] at h
  rcases h with rfl | h
  · exact .inr ⟨_, rfl⟩
  · obtain ⟨⟨gap, d⟩, -, hc⟩ := List.mem_flatMap.mp h
    dsimp only at hc
    split at hc
    · have hcases : c = '_' ∨ c = d.char := by simpa using hc
      rcases hcases with hc | hc
      · exact .inl hc
      · exact .inr ⟨d, hc⟩
    · exact .inr ⟨d, by simpa using hc⟩

theorem Digits.isDigitOrUnderscore {ds : Digits 10} {c : Char} (h : c ∈ ds.text) :
    isDigitOrUnderscore c = true := by
  rcases mem_text h with rfl | ⟨d, rfl⟩
  · rfl
  · rw [Toml.isDigitOrUnderscore, d.isDigit_char, Bool.true_or]

theorem Digits.isRunChar (hbase : base ≤ 16) {ds : Digits base} {c : Char} (h : c ∈ ds.text) :
    isRunChar c = true := by
  rcases mem_text h with rfl | ⟨d, rfl⟩
  · rfl
  · exact d.isRunChar_char hbase

/-- Underscores are left out. -/
theorem groupDigits?_text {isDigit : Char → Bool}
    (hdigit : ∀ d : Digit base, isDigit d.char = true) (hgap : isDigit '_' = false)
    (ds : Digits base) : groupDigits? isDigit ds.text = some (ds.list.map Digit.char) := by
  obtain ⟨first, others⟩ := ds
  induction others generalizing first with
  | nil =>
    change groupDigits? isDigit [first.char] = some [first.char]
    rw [groupDigits?, if_pos (hdigit first)]
  | cons other others ih =>
    obtain ⟨gap, d⟩ := other
    have hrest := ih d
    cases gap with
    | true =>
      change groupDigits? isDigit (first.char :: '_' :: Digits.text ⟨d, others⟩) = _
      rw [groupDigits?, if_pos (hdigit first), hrest]
      rfl
    | false =>
      have hne : d.char ≠ '_' := by
        intro he
        have hd := hdigit d
        rw [he, hgap] at hd
        cases hd
      change groupDigits? isDigit (first.char :: Digits.text ⟨d, others⟩) = _
      rw [groupDigits?, if_pos (hdigit first), hrest]
      · rfl
      · rintro ⟨⟩
      · intro cs he
        exact hne (List.cons.inj he).1

theorem wholeDigits?_text {ds : Digits 10} (h : ds.NoLeadingZero) :
    wholeDigits? ds.text = some (ds.list.map Digit.char) := by
  rw [wholeDigits?, groupDigits?_text Digit.isDigit_char rfl]
  split
  · rename_i d more heq
    obtain ⟨first, others⟩ := ds
    obtain ⟨hfirst, hmore⟩ := List.cons.inj (Option.some.inj heq)
    have hnone : others = [] := h ((Digit.char_eq_zero_iff _).mp hfirst)
    rw [hnone] at hmore
    cases hmore
  · rfl

theorem marked?_text (hbase : base ≤ 16) (ds : Digits base) :
    marked? base ds.text = some ds.number := by
  have hdigit : ∀ d : Digit base, (Text.hexDigit? d.char).any (· < base) = true := by
    intro d
    rw [hexDigit?_char hbase]
    simp
  have hgap : (Text.hexDigit? '_').any (· < base) = false := rfl
  rw [marked?, groupDigits?_text hdigit hgap, Option.bind_some, ofDigits?_chars hbase]
  rfl

end

/-! ## Numbers -/

/-- The value of a number, as the reader sorts it. -/
def Number.numeral : Number → Numeral
  | .whole sign digits _ => .whole (signed sign digits.number)
  | .marked _ digits => .whole digits.number
  | .decimal d => .decimal (decide (d.sign = .minus)) d.significand d.power
  | .infinite sign => .special (.infinite (decide (sign = .minus)))
  | .notANumber _ => .special .notANumber

theorem Digits.first_ne (ds : Digits 10) {c : Char} (hc : c.isDigit = false) :
    ds.first.char ≠ c := by
  rintro rfl
  rw [Digit.isDigit_char] at hc
  cases hc

theorem sign_digits (s : Sign) (ds : Digits 10) (tail : List Char) :
    sign (s.text ++ (ds.text ++ tail)) =
      (decide (s ≠ .none), decide (s = .minus), ds.text ++ tail) := by
  cases s with
  | none =>
    unfold sign
    split
    · rename_i he
      exact absurd (List.cons.inj he).1 (ds.first_ne rfl)
    · rename_i he
      exact absurd (List.cons.inj he).1 (ds.first_ne rfl)
    · rfl
  | plus => rfl
  | minus => rfl

theorem exponent?_text (s : Sign) (ds : Digits 10) :
    exponent? (s.text ++ ds.text) = some (signed s ds.number) := by
  have hsign := sign_digits s ds []
  rw [List.append_nil] at hsign
  rw [exponent?, hsign]
  dsimp only
  rw [groupDigits?_text Digit.isDigit_char rfl, Option.bind_some, ofDigits?_chars (by decide)]
  simp [signed, Digits.number]

/-- Behind its sign, a number that begins with a digit is read by its digits, unless a mark of a
base follows. -/
theorem numeral?_digits (s : Sign) {ds : Digits 10} (hds : ds.NoLeadingZero) {tail : List Char}
    (htail : ∀ c ∈ tail.head?, isDigitOrUnderscore c = false ∧ c ∉ ['x', 'o', 'b']) :
    numeral? (s.text ++ (ds.text ++ tail)) =
      if tail = [] then some (.whole (signed s ds.number))
      else (fraction? tail).bind fun found =>
        (Text.ofDigits? 10 (ds.list.map Digit.char ++ found.1)).map fun n =>
          .decimal (decide (s = .minus)) n (found.2 - found.1.length) := by
  have hdigits : ∀ c ∈ ds.text, isDigitOrUnderscore c = true :=
    fun c hc => Digits.isDigitOrUnderscore hc
  have hfirst : ∀ {c : Char} {cs : List Char}, ds.text ++ tail = c :: cs → c.isDigit = true := by
    intro c cs he
    rw [← (List.cons.inj he).1]
    exact Digit.isDigit_char _
  have hsecond : ∀ {c d : Char} {cs : List Char}, ds.text ++ tail = d :: c :: cs →
      c ∉ ['x', 'o', 'b'] := by
    intro c d cs he hc
    have hmem : Digits.othersText ds.others ++ tail = c :: cs := (List.cons.inj he).2
    cases hothers : Digits.othersText ds.others with
    | nil =>
      rw [hothers, List.nil_append] at hmem
      exact (htail c (by rw [hmem]; rfl)).2 hc
    | cons e more =>
      rw [hothers] at hmem
      obtain rfl : e = c := (List.cons.inj hmem).1
      have hdigit : isDigitOrUnderscore e = true := hdigits e (by rw [Digits.text, hothers]; simp)
      have hmarks : ∀ c ∈ ['x', 'o', 'b'], isDigitOrUnderscore c = false :=
        List.all_iff_forall_prop.mp rfl
      rw [hmarks e hc] at hdigit
      cases hdigit
  have htake := takeWhile_run hdigits fun c hc => (htail c hc).1
  have hdrop := dropWhile_run hdigits fun c hc => (htail c hc).1
  rw [numeral?, sign_digits]
  dsimp only
  split
  · rename_i he
    exact absurd (hfirst he) (by decide)
  · rename_i he
    exact absurd (hfirst he) (by decide)
  · rename_i he
    exact absurd (hsecond he) (by decide)
  · rename_i he
    exact absurd (hsecond he) (by decide)
  · rename_i he
    exact absurd (hsecond he) (by decide)
  · rw [htake, hdrop, wholeDigits?_text hds]
    cases tail with
    | nil =>
      change (Text.ofDigits? 10 (ds.list.map Digit.char)).bind _ = _
      rw [ofDigits?_chars (by decide)]
      simp [signed, Digits.number]
    | cons c tail =>
      rw [if_neg (List.cons_ne_nil c tail)]
      change (fraction? (c :: tail)).bind (fun found =>
        (Text.ofDigits? 10 (ds.list.map Digit.char ++ found.1)).bind fun n => some _) = _
      congr 1
      funext found
      cases Text.ofDigits? 10 (ds.list.map Digit.char ++ found.1) with
      | none => rfl
      | some n => rfl

theorem fraction?_tail (d : Decimal) : fraction? d.tail =
    some (d.behind.map Digit.char, d.exponent.elim 0 fun e => signed e.sign e.digits.number) := by
  have hmark : ∀ e : Exponent, isDigitOrUnderscore e.mark = false ∧ e.mark ≠ '.' := by
    intro e
    rcases e.isMark with h | h
    · rw [h]
      decide
    · rw [h]
      decide
  obtain ⟨s, whole, plain, fraction, exponent, isDecimal⟩ := d
  cases fraction with
  | none =>
    cases exponent with
    | none => rcases isDecimal with h | h <;> cases h
    | some e =>
      change fraction? (e.mark :: (e.sign.text ++ e.digits.text)) = _
      rw [fraction?.eq_2 _ _ (hmark e).2, if_pos e.isMark,
        exponent?_text]
      rfl
  | some f =>
    have hdigits : ∀ c ∈ f.text, isDigitOrUnderscore c = true :=
      fun c hc => Digits.isDigitOrUnderscore hc
    cases exponent with
    | none =>
      have hend : ∀ c ∈ ([] : List Char).head?, isDigitOrUnderscore c = false := by
        rintro _ ⟨⟩
      change fraction? ('.' :: (f.text ++ [])) = _
      rw [fraction?, takeWhile_run hdigits hend, dropWhile_run hdigits hend,
        groupDigits?_text Digit.isDigit_char rfl]
      rfl
    | some e =>
      have hend : ∀ c ∈ e.text.head?, isDigitOrUnderscore c = false := by
        rintro _ ⟨⟩
        exact (hmark e).1
      change fraction? ('.' :: (f.text ++ e.text)) = _
      rw [fraction?, takeWhile_run hdigits hend, dropWhile_run hdigits hend,
        groupDigits?_text Digit.isDigit_char rfl]
      change (if e.mark = 'e' ∨ e.mark = 'E' then
        (exponent? (e.sign.text ++ e.digits.text)).map _ else none) = _
      rw [if_pos e.isMark, exponent?_text]
      rfl

/-- What follows the whole part begins with a point or the mark of an exponent. -/
theorem Decimal.head_tail (d : Decimal) :
    d.tail ≠ [] ∧ ∀ c ∈ d.tail.head?, c = '.' ∨ c = 'e' ∨ c = 'E' := by
  obtain ⟨s, whole, plain, fraction, exponent, isDecimal⟩ := d
  cases fraction with
  | none =>
    cases exponent with
    | none => rcases isDecimal with h | h <;> cases h
    | some e =>
      refine ⟨List.cons_ne_nil _ _, ?_⟩
      rintro _ ⟨⟩
      exact .inr e.isMark
  | some f =>
    refine ⟨List.cons_ne_nil _ _, ?_⟩
    rintro _ ⟨⟩
    exact .inl rfl

/-- The number is read from its text. -/
theorem numeral?_text (n : Number) : numeral? n.text = some n.numeral := by
  cases n with
  | whole s digits plain =>
    have htail : ∀ c ∈ ([] : List Char).head?,
        isDigitOrUnderscore c = false ∧ c ∉ ['x', 'o', 'b'] := by
      rintro _ ⟨⟩
    have hread := numeral?_digits s plain htail
    rwa [List.append_nil, if_pos rfl] at hread
  | marked base digits =>
    have hread : ∀ {size : Nat}, size ≤ 16 → ∀ ds : Digits size,
        (marked? size ds.text).map (fun n => Numeral.whole n) = some (.whole ds.number) := by
      intro size hsize ds
      rw [marked?_text hsize]
      rfl
    cases base with
    | hexadecimal => exact hread (by decide) digits
    | octal => exact hread (by decide) digits
    | binary => exact hread (by decide) digits
  | decimal d =>
    have htail : ∀ c ∈ d.tail.head?, isDigitOrUnderscore c = false ∧ c ∉ ['x', 'o', 'b'] := by
      intro c hc
      rcases d.head_tail.2 c hc with rfl | rfl | rfl <;> decide
    change numeral? (d.sign.text ++ (d.whole.text ++ d.tail)) = _
    rw [numeral?_digits d.sign d.plain htail, if_neg d.head_tail.1, fraction?_tail,
      Option.bind_some]
    dsimp only
    rw [← List.map_append, ofDigits?_chars (by decide), List.length_map]
    rfl
  | infinite s => cases s <;> rfl
  | notANumber s => cases s <;> rfl

/-- The range of numbers is that of the reader. -/
theorem Number.holds_iff_inRange {n : Number} :
    NumberRange.wide.holds n.numeral.toValue = true ↔ n.InRange := by
  have hinteger : ∀ i : Int, NumberRange.wide.holds (.integer i) = true ↔
      ∀ j ∈ some i, -2 ^ 127 ≤ j ∧ j < 2 ^ 128 := by
    intro i
    rw [NumberRange.holds, Bool.and_eq_true, decide_eq_true_eq, decide_eq_true_eq]
    simp only [Option.mem_some, forall_eq']
    rfl
  cases n with
  | whole s digits plain => exact hinteger _
  | marked base digits => exact hinteger _
  | decimal d =>
    have hrange : d.InRange ↔ Binary64.ofDecimal d.significand d.power ≠ none := by
      rw [Ne, Binary64.ofDecimal_eq_none_iff]
      exact Nat.not_le.symm
    rw [Number.numeral, Numeral.toValue, Number.InRange, hrange]
    cases Binary64.ofDecimal d.significand d.power with
    | none => simp [NumberRange.holds]
    | some x => simp [NumberRange.holds]
  | infinite s => exact iff_of_true rfl nofun
  | notANumber s => exact iff_of_true rfl nofun

end SyntaxOutline.Toml
