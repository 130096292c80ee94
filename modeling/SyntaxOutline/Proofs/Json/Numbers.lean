import SyntaxOutline.Proofs.Json.Grammar
import SyntaxOutline.Proofs.Json.Outcome

/-!
# Reading numbers

A number is read as far as it goes, so that what stands behind it must not continue it
(`Numeral.EndsAt`). Under this condition the reader gives exactly the number that the numeral stands
for, and fails if that is out of range (`readNumber_unsigned`); conversely every text on which it
succeeds begins with such a numeral (`exists_numeral_of_readNumber`).
-/

namespace SyntaxOutline.Json

/-! ## Runs of digits -/

/-- The text does not begin with a digit. -/
def NoDigit (cs : List Char) : Prop := ∀ c ∈ cs.head?, c.isDigit = false

theorem le_ofDigitChars (ds : List Char) (n : Nat) : n ≤ Nat.ofDigitChars 10 ds n := by
  rw [Nat.ofDigitChars_eq_ofDigitChars_zero]
  have : n ≤ 10 ^ ds.length * n := Nat.le_mul_of_pos_left n (Nat.pow_pos (by decide))
  omega

theorem fitting_nil (n : Nat) : fitting n [] = 0 :=
  Nat.findGreatest_zero

theorem fitting_le (n : Nat) (ds : List Char) : fitting n ds ≤ ds.length :=
  Nat.findGreatest_le _

theorem not_lt_of_fitting_lt {n k : Nat} {ds : List Char} (h : fitting n ds < k)
    (hk : k ≤ ds.length) : ¬ Nat.ofDigitChars 10 (ds.take k) n < 2 ^ 64 :=
  Nat.findGreatest_is_greatest (P := fun k => Nat.ofDigitChars 10 (ds.take k) n < 2 ^ 64) h hk

theorem appended_lt {n : Nat} (hn : n < 2 ^ 64) (ds : List Char) : appended n ds < 2 ^ 64 := by
  have hzero : Nat.ofDigitChars 10 (ds.take 0) n < 2 ^ 64 := by simpa using hn
  exact Nat.findGreatest_spec (P := fun k => Nat.ofDigitChars 10 (ds.take k) n < 2 ^ 64)
    (Nat.zero_le _) hzero

theorem fitting_cons_of_lt {n : Nat} {d : Char} (ds : List Char)
    (h : n * 10 + digitValue d < 2 ^ 64) :
    fitting n (d :: ds) = fitting (n * 10 + digitValue d) ds + 1 := by
  have htake : ∀ k, Nat.ofDigitChars 10 ((d :: ds).take (k + 1)) n =
      Nat.ofDigitChars 10 (ds.take k) (n * 10 + digitValue d) := by
    intro k
    rw [List.take_succ_cons, Nat.ofDigitChars_cons, Nat.mul_comm 10 n]
    rfl
  refine Nat.findGreatest_eq_iff.mpr ⟨Nat.succ_le_succ (fitting_le _ ds), fun _ => ?_, ?_⟩
  · rw [htake]
    exact appended_lt h ds
  · intro k hk hlength
    obtain ⟨j, rfl⟩ : ∃ j, k = j + 1 := ⟨k - 1, by omega⟩
    rw [htake]
    exact not_lt_of_fitting_lt (Nat.succ_lt_succ_iff.mp hk) (Nat.le_of_succ_le_succ hlength)

theorem fitting_cons_of_ge {n : Nat} {d : Char} (ds : List Char)
    (h : 2 ^ 64 ≤ n * 10 + digitValue d) : fitting n (d :: ds) = 0 := by
  refine Nat.findGreatest_eq_iff.mpr ⟨Nat.zero_le _, fun hne => absurd rfl hne, ?_⟩
  intro k hk _
  obtain ⟨j, rfl⟩ : ∃ j, k = j + 1 := ⟨k - 1, by omega⟩
  rw [List.take_succ_cons, Nat.ofDigitChars_cons, Nat.mul_comm 10 n]
  exact Nat.not_lt.mpr (Nat.le_trans h (le_ofDigitChars _ _))

/-- Digits are taken as long as they fit. -/
theorem gather_append {ds r : List Char} (hds : ∀ c ∈ ds, c.isDigit = true) (hr : NoDigit r)
    (n count : Nat) :
    gather n count (ds ++ r) =
      (appended n ds, count + fitting n ds, ds.drop (fitting n ds) ++ r) := by
  unfold appended
  induction ds generalizing n count with
  | nil =>
    cases r with
    | nil => simp [gather, fitting_nil]
    | cons c r =>
      have hc : c.isDigit = false := hr c rfl
      simp [gather, hc, fitting_nil]
  | cons d ds ih =>
    have hd : d.isDigit = true := hds d List.mem_cons_self
    by_cases hfit : n * 10 + digitValue d < UInt64.size
    · have htail := ih (fun c hc => hds c (List.mem_cons_of_mem _ hc)) (n * 10 + digitValue d)
        (count + 1)
      rw [List.cons_append, gather, if_pos ⟨hd, hfit⟩, htail, fitting_cons_of_lt ds hfit,
        List.take_succ_cons, List.drop_succ_cons, Nat.ofDigitChars_cons, Nat.mul_comm 10 n,
        Nat.add_assoc, Nat.add_comm 1]
      rfl
    · rw [List.cons_append, gather, if_neg fun h => hfit h.2,
        fitting_cons_of_ge ds (Nat.not_lt.mp hfit)]
      simp

theorem countDigits_append {ds r : List Char} (hds : ∀ c ∈ ds, c.isDigit = true) (hr : NoDigit r) :
    countDigits (ds ++ r) = (ds.length, r) := by
  rw [countDigits, takeWhile_run hds hr, dropWhile_run hds hr]

/-- Every text is a run of digits and something that does not begin with a digit. -/
theorem exists_digits_append (cs : List Char) :
    ∃ ds r, cs = ds ++ r ∧ (∀ c ∈ ds, c.isDigit = true) ∧ NoDigit r := by
  refine ⟨cs.takeWhile Char.isDigit, cs.dropWhile Char.isDigit,
    List.takeWhile_append_dropWhile.symm, List.all_eq_true.mp List.all_takeWhile, ?_⟩
  intro c hc
  have := List.head?_dropWhile_not Char.isDigit cs
  rw [Option.mem_def.mp hc] at this
  simpa using this

theorem gatherExponent_of_lt {ds r : List Char} (hds : ∀ c ∈ ds, c.isDigit = true)
    (hr : NoDigit r) {n : Nat} (hn : Nat.ofDigitChars 10 ds n < Nat.pow 2 31) :
    gatherExponent n (ds ++ r) = .ok (Nat.ofDigitChars 10 ds n, r) := by
  induction ds generalizing n with
  | nil =>
    cases r with
    | nil => simp [gatherExponent]
    | cons c r =>
      have hc : c.isDigit = false := hr c rfl
      simp [gatherExponent, hc]
  | cons d ds ih =>
    have hd : d.isDigit = true := hds d List.mem_cons_self
    rw [Nat.ofDigitChars_cons, Nat.mul_comm 10 n] at hn ⊢
    have hfit : n * 10 + digitValue d < Nat.pow 2 31 := Nat.lt_of_le_of_lt (le_ofDigitChars ds _) hn
    rw [List.cons_append, gatherExponent, if_pos hd, if_pos hfit]
    exact ih (fun c hc => hds c (List.mem_cons_of_mem _ hc)) hn

theorem gatherExponent_of_ge {ds r : List Char} (hds : ∀ c ∈ ds, c.isDigit = true)
    (hr : NoDigit r) {n : Nat} (hlt : n < Nat.pow 2 31)
    (hn : Nat.pow 2 31 ≤ Nat.ofDigitChars 10 ds n) :
    ∃ left, gatherExponent n (ds ++ r) = .error left ∧ (countDigits left).2 = r := by
  induction ds generalizing n with
  | nil =>
    rw [Nat.ofDigitChars_nil] at hn
    omega
  | cons d ds ih =>
    have hd : d.isDigit = true := hds d List.mem_cons_self
    have hds' : ∀ c ∈ ds, c.isDigit = true := fun c hc => hds c (List.mem_cons_of_mem _ hc)
    rw [Nat.ofDigitChars_cons, Nat.mul_comm 10 n] at hn
    rw [List.cons_append, gatherExponent, if_pos hd]
    by_cases hfit : n * 10 + digitValue d < Nat.pow 2 31
    · rw [if_pos hfit]
      exact ih hds' hfit hn
    · rw [if_neg hfit]
      exact ⟨ds ++ r, rfl, by rw [countDigits_append hds' hr]⟩

/-! ## What a reader of numbers gives -/

/-- The result is the given number with the given rest, and no result if there is no number. -/
def Yields (result : Except Failure (Number × List Char)) (number : Option Number)
    (rest : List Char) : Prop :=
  ∀ num rest', result = .ok (num, rest') ↔ number = some num ∧ rest' = rest

theorem yields_ok (num : Number) (rest : List Char) : Yields (.ok (num, rest)) (some num) rest := by
  intro num' rest'
  simp [eq_comm]

theorem yields_error (failure : Failure) (rest : List Char) :
    Yields (.error failure) none rest := by
  intro num' rest'
  simp

theorem yields_toFloat (negative : Bool) (significand : Nat) (exponent : Int) (rest : List Char) :
    Yields (toFloat negative significand exponent rest)
      ((Binary64.scaled significand exponent).map (.float negative)) rest := by
  unfold toFloat
  generalize Binary64.scaled significand exponent = found
  cases found with
  | none => exact yields_error _ _
  | some x => exact yields_ok _ _

theorem yields_wholeNumber (negative : Bool) (significand : Nat) (rest : List Char) :
    Yields (wholeNumber negative significand rest)
      (if negative = false then some (.integer significand)
        else if significand = 0 ∨ Nat.pow 2 63 < significand then
          (Binary64.scaled significand 0).map (.float negative)
        else some (.integer (-significand))) rest := by
  unfold wholeNumber
  split
  · exact yields_ok _ _
  · rename_i hneg
    have hneg : negative = true := by simpa using hneg
    subst hneg
    split
    · exact yields_toFloat _ _ _ _
    · exact yields_ok _ _

theorem exponentSign_text (sign : Sign) {d : Char} (hd : d.isDigit = true) (cs : List Char) :
    exponentSign (sign.text ++ d :: cs) = (decide (sign = .minus), d :: cs) := by
  cases sign with
  | none =>
    have hplus : d ≠ '+' := by
      rintro rfl
      cases hd
    have hminus : d ≠ '-' := by
      rintro rfl
      cases hd
    simp [Sign.text, exponentSign, hplus, hminus]
  | plus => simp [Sign.text, exponentSign]
  | minus => simp [Sign.text, exponentSign]

/-- The exponent behind its mark. -/
theorem yields_readExponent (negative : Bool) (significand : Nat) (exponent : Int) (e : Exponent)
    {rest : List Char} (hrest : NoDigit rest) :
    Yields (readExponent negative significand exponent (e.sign.text ++ e.digits.chars ++ rest))
      (if e.digits.toNat < Nat.pow 2 31 then
        (Binary64.scaled significand (if e.sign = .minus then exponent - e.digits.toNat
          else exponent + e.digits.toNat)).map (.float negative)
      else if significand ≠ 0 ∧ e.sign ≠ .minus then none
      else some (.float negative .zero)) rest := by
  obtain ⟨mark, isMark, sign, ds, hne, hds⟩ := e
  obtain ⟨d, ds, rfl⟩ := List.exists_cons_of_ne_nil hne
  have hd : d.isDigit = true := hds d List.mem_cons_self
  have hds' : ∀ c ∈ ds, c.isDigit = true := fun c hc => hds c (List.mem_cons_of_mem _ hc)
  have hvalue : (Digits.mk (d :: ds) hne hds).toNat = Nat.ofDigitChars 10 ds (digitValue d) := by
    simp [Digits.toNat, Nat.ofDigitChars_cons, digitValue]
  dsimp only
  rw [hvalue, readExponent, List.append_assoc, List.cons_append, exponentSign_text sign hd]
  dsimp only
  rw [if_pos hd]
  by_cases hlt : Nat.ofDigitChars 10 ds (digitValue d) < Nat.pow 2 31
  · rw [gatherExponent_of_lt hds' hrest hlt, if_pos hlt]
    dsimp only
    simpa using yields_toFloat negative significand _ rest
  · have hdigit : digitValue d < Nat.pow 2 31 :=
      calc digitValue d ≤ 57 - '0'.toNat := Nat.sub_le_sub_right (Char.isDigit_iff_toNat.mp hd).2 _
        _ < Nat.pow 2 31 := by decide
    obtain ⟨left, hleft, hcount⟩ := gatherExponent_of_ge hds' hrest hdigit (by omega)
    rw [hleft, if_neg hlt]
    dsimp only
    by_cases hout : significand ≠ 0 ∧ sign ≠ .minus
    · rw [if_pos (by simpa using hout), if_pos hout]
      exact yields_error _ _
    · rw [if_neg (by simpa using hout), if_neg hout, hcount]
      exact yields_ok _ _

/-- The fraction behind its point, if no exponent follows. -/
theorem readFraction_append (negative : Bool) (significand : Nat) (exponent : Int) (f : Digits)
    {r : List Char} (hr : NoDigit r) :
    readFraction negative significand exponent (f.chars ++ r) =
      readScale negative (appended significand f.chars) (exponent - fitting significand f.chars)
        r := by
  obtain ⟨ds, hne, hds⟩ := f
  obtain ⟨d, ds, rfl⟩ := List.exists_cons_of_ne_nil hne
  have hd : d.isDigit = true := hds d List.mem_cons_self
  have hleft : ∀ c ∈ (d :: ds).drop (fitting significand (d :: ds)), c.isDigit = true :=
    fun c hc => hds c (List.mem_of_mem_drop hc)
  have hgather := gather_append hds hr significand 0
  rw [List.cons_append] at hgather ⊢
  rw [readFraction]
  dsimp only
  rw [if_pos hd, hgather]
  dsimp only
  rw [countDigits_append hleft hr, Nat.zero_add]

/-- The whole part. -/
theorem readNumber_whole (n : Numeral) (negative : Bool) {r : List Char} (hr : NoDigit r) :
    readNumber negative (n.whole.chars ++ r) = readTail negative n.front.1 n.front.2 r := by
  obtain ⟨_, ⟨ds, hne, hds⟩, hzero, _, _⟩ := n
  obtain ⟨d, ds, rfl⟩ := List.exists_cons_of_ne_nil hne
  dsimp only [Numeral.front] at hzero ⊢
  have hd : d.isDigit = true := hds d List.mem_cons_self
  by_cases hd0 : d = '0'
  · subst hd0
    obtain ⟨-, rfl⟩ : '0' = '0' ∧ ds = [] := by simpa using hzero rfl
    rw [List.singleton_append, readNumber.eq_def]
    dsimp only
    rw [if_pos rfl]
    cases r with
    | nil => rfl
    | cons c r =>
      have hc : c.isDigit = false := hr c rfl
      dsimp only
      rw [if_neg (by simp [hc])]
      rfl
  · have hleft : ∀ c ∈ (d :: ds).drop (fitting 0 (d :: ds)), c.isDigit = true :=
      fun c hc => hds c (List.mem_of_mem_drop hc)
    have hgather := gather_append hds hr 0 0
    rw [List.cons_append] at hgather ⊢
    rw [readNumber.eq_def]
    dsimp only
    rw [if_neg hd0, if_pos hd, hgather]
    dsimp only
    rw [countDigits_append hleft hr, List.length_drop]

/-! ## Numerals -/

/-- What stands behind a numeral does not continue it. -/
def Numeral.EndsAt (n : Numeral) (rest : List Char) : Prop :=
  NoDigit rest ∧
    (n.exponent = none → ∀ c ∈ rest.head?, isExponentMark c = false) ∧
    (n.exponent = none → n.fraction = none → ∀ c ∈ rest.head?, c ≠ '.')

theorem isExponentMark_iff {c : Char} : isExponentMark c = true ↔ c = 'e' ∨ c = 'E' := by
  simp [isExponentMark]

theorem Exponent.mark_ne_point (e : Exponent) : e.mark ≠ '.' := by
  rcases e.isMark with h | h
  · rw [h]
    decide
  · rw [h]
    decide

theorem noDigit_exponent (e : Exponent) (rest : List Char) : NoDigit (e.text ++ rest) := by
  intro c hc
  have hmark : e.mark = c := by simpa [Exponent.text] using hc
  rw [← hmark]
  rcases e.isMark with h | h
  · rw [h]
    rfl
  · rw [h]
    rfl

theorem readScale_mark (negative : Bool) (significand : Nat) (exponent : Int) (e : Exponent)
    (rest : List Char) :
    readScale negative significand exponent (e.text ++ rest) =
      readExponent negative significand exponent (e.sign.text ++ e.digits.chars ++ rest) := by
  rw [Exponent.text, List.cons_append, List.cons_append, readScale,
    if_pos (isExponentMark_iff.mpr e.isMark)]

theorem readScale_end (negative : Bool) (significand : Nat) (exponent : Int) {rest : List Char}
    (h : ∀ c ∈ rest.head?, isExponentMark c = false) :
    readScale negative significand exponent rest = toFloat negative significand exponent rest := by
  cases rest with
  | nil => rfl
  | cons c rest => rw [readScale, if_neg (by simp [h c rfl])]

theorem readTail_end (negative : Bool) (significand dropped : Nat) {rest : List Char}
    (hmark : ∀ c ∈ rest.head?, isExponentMark c = false) (hpoint : ∀ c ∈ rest.head?, c ≠ '.') :
    readTail negative significand dropped rest =
      if dropped = 0 then wholeNumber negative significand rest
      else toFloat negative significand dropped rest := by
  cases rest with
  | nil => rfl
  | cons c rest => rw [readTail, if_neg (hpoint c rfl), if_neg (by simp [hmark c rfl])]

theorem Numeral.decimal_lt_limit (n : Numeral) : n.decimal.1 < Binary64.limit := by
  have hfront : n.front.1 < 2 ^ 64 := appended_lt (Nat.pow_pos (by decide)) _
  have hlt : n.decimal.1 < 2 ^ 64 := by
    unfold decimal
    split
    · exact hfront
    · exact appended_lt hfront _
  exact Nat.lt_trans hlt Binary64.two_pow_lt_limit

/-- The numbers that are too large are those for which no double is found. -/
theorem Numeral.float?_eq (n : Numeral) (exponent : Int) :
    n.float? exponent = (Binary64.scaled n.decimal.1 exponent).map (.float n.negative) := by
  rw [float?]
  split
  · rename_i hlarge
    rw [(Binary64.scaled_eq_none_iff n.decimal_lt_limit).mpr hlarge]
    rfl
  · rfl

/-- What follows the whole part gives the number of the numeral. -/
theorem yields_readTail (n : Numeral) {rest : List Char} (h : n.EndsAt rest) :
    Yields (readTail n.negative n.front.1 n.front.2 (n.tail ++ rest)) n.number? rest := by
  obtain ⟨hdigit, hmark, hpoint⟩ := h
  cases hf : n.fraction with
  | some f =>
    have hdec : n.decimal =
        (appended n.front.1 f.chars, (n.front.2 : Int) - (fitting n.front.1 f.chars : Int)) := by
      simp only [Numeral.decimal, hf]
    cases he : n.exponent with
    | some e =>
      have htail : n.tail ++ rest = '.' :: (f.chars ++ (e.text ++ rest)) := by
        simp [Numeral.tail, hf, he]
      rw [htail, readTail, if_pos rfl, readFraction_append _ _ _ f (noDigit_exponent e rest),
        readScale_mark]
      simpa only [Numeral.number?, he, Numeral.float?_eq, hdec] using
        yields_readExponent n.negative _ _ e hdigit
    | none =>
      have htail : n.tail ++ rest = '.' :: (f.chars ++ rest) := by
        simp [Numeral.tail, hf, he]
      rw [htail, readTail, if_pos rfl, readFraction_append _ _ _ f hdigit,
        readScale_end _ _ _ (hmark he)]
      simpa only [Numeral.number?, he, hf, Option.isNone_some, Bool.false_eq_true, false_and,
        if_false, Numeral.float?_eq, hdec] using yields_toFloat n.negative _ _ rest
  | none =>
    have hdec : n.decimal = (n.front.1, (n.front.2 : Int)) := by
      simp only [Numeral.decimal, hf]
    cases he : n.exponent with
    | some e =>
      have htail : n.tail ++ rest = e.mark :: (e.sign.text ++ e.digits.chars ++ rest) := by
        simp [Numeral.tail, hf, he, Exponent.text]
      rw [htail, readTail, if_neg e.mark_ne_point, if_pos (isExponentMark_iff.mpr e.isMark)]
      simpa only [Numeral.number?, he, Numeral.float?_eq, hdec] using
        yields_readExponent n.negative _ _ e hdigit
    | none =>
      have htail : n.tail ++ rest = rest := by
        simp [Numeral.tail, hf, he]
      rw [htail, readTail_end _ _ _ (hmark he) (hpoint he hf)]
      simp only [Numeral.number?, he, hf, Option.isNone_none, true_and, Numeral.float?_eq, hdec]
      split
      · exact yields_wholeNumber n.negative n.front.1 rest
      · exact yields_toFloat n.negative n.front.1 n.front.2 rest

theorem noDigit_tail (n : Numeral) {rest : List Char} (h : NoDigit rest) :
    NoDigit (n.tail ++ rest) := by
  cases hf : n.fraction with
  | some f =>
    intro c hc
    have hpoint : c = '.' := by simpa [Numeral.tail, hf, eq_comm] using hc
    rw [hpoint]
    rfl
  | none =>
    cases he : n.exponent with
    | some e =>
      have htail : n.tail = e.text := by simp [Numeral.tail, hf, he]
      rw [htail]
      exact noDigit_exponent e rest
    | none =>
      have htail : n.tail = [] := by simp [Numeral.tail, hf, he]
      rw [htail]
      exact h

/-- **Numbers.** Reading a numeral behind its sign gives its number, if it is in range. -/
theorem readNumber_unsigned (n : Numeral) {rest : List Char} (h : n.EndsAt rest) :
    Yields (readNumber n.negative (n.unsigned ++ rest)) n.number? rest := by
  rw [Numeral.unsigned, List.append_assoc, readNumber_whole n n.negative (noDigit_tail n h.1)]
  exact yields_readTail n h

/-! ## What was read is a numeral -/

theorem exists_digits_of_isDigit {c : Char} (hc : c.isDigit = true) (cs : List Char) :
    ∃ (ds : Digits) (r : List Char), c :: cs = ds.chars ++ r ∧ NoDigit r := by
  obtain ⟨ds, r, he, hds, hr⟩ := exists_digits_append (c :: cs)
  have hne : ds ≠ [] := by
    rintro rfl
    rw [List.nil_append] at he
    rw [← he] at hr
    exact absurd (hr c rfl) (by simp [hc])
  exact ⟨⟨ds, hne, hds⟩, r, he, hr⟩

theorem exists_sign (cs : List Char) : ∃ sign : Sign, cs = sign.text ++ (exponentSign cs).2 := by
  unfold exponentSign
  split
  · exact ⟨.plus, rfl⟩
  · exact ⟨.minus, rfl⟩
  · exact ⟨.none, rfl⟩

theorem exists_exponent_of_readExponent {negative : Bool} {significand : Nat} {exponent : Int}
    {mark : Char} {cs : List Char} {result : Number × List Char}
    (hmark : isExponentMark mark = true)
    (h : readExponent negative significand exponent cs = .ok result) :
    ∃ (e : Exponent) (rest : List Char), mark :: cs = e.text ++ rest ∧ NoDigit rest := by
  obtain ⟨sign, hsign⟩ := exists_sign cs
  unfold readExponent at h
  dsimp only at h
  generalize (exponentSign cs).2 = tail at h hsign
  cases tail with
  | nil => exact absurd h failHere_ne_ok
  | cons c tail =>
    dsimp only at h
    by_cases hc : c.isDigit = true
    · obtain ⟨ds, r, he, hr⟩ := exists_digits_of_isDigit hc tail
      exact ⟨⟨mark, isExponentMark_iff.mp hmark, sign, ds⟩, r,
        by rw [hsign, he]; simp [Exponent.text], hr⟩
    · rw [if_neg hc] at h
      exact absurd h failNext_ne_ok

theorem exists_exponent_of_readScale {negative : Bool} {significand : Nat} {exponent : Int}
    {cs : List Char} {result : Number × List Char}
    (h : readScale negative significand exponent cs = .ok result) :
    (∃ (e : Exponent) (rest : List Char), cs = e.text ++ rest ∧ NoDigit rest) ∨
      ∀ c ∈ cs.head?, isExponentMark c = false := by
  cases cs with
  | nil => exact Or.inr (by simp)
  | cons c cs =>
    by_cases hc : isExponentMark c = true
    · rw [readScale, if_pos hc] at h
      exact Or.inl (exists_exponent_of_readExponent hc h)
    · exact Or.inr (by simpa using hc)

/-- What is read behind the whole part is a fraction and an exponent, either of which may be
missing. -/
theorem exists_tail_of_readTail {negative : Bool} {significand dropped : Nat} {cs : List Char}
    {result : Number × List Char} (hcs : NoDigit cs)
    (h : readTail negative significand dropped cs = .ok result) (whole : Digits)
    (hzero : whole.chars.head? = some '0' → whole.chars = ['0']) :
    ∃ fraction exponent rest,
      cs = (Numeral.mk negative whole hzero fraction exponent).tail ++ rest ∧
      (Numeral.mk negative whole hzero fraction exponent).EndsAt rest := by
  cases cs with
  | nil => exact ⟨none, none, [], rfl, hcs, by simp, by simp⟩
  | cons c cs =>
    rw [readTail] at h
    by_cases hpoint : c = '.'
    · rw [if_pos hpoint] at h
      subst hpoint
      cases cs with
      | nil => exact absurd h failNext_ne_ok
      | cons d ds =>
        by_cases hd : d.isDigit = true
        · obtain ⟨f, r, he, hr⟩ := exists_digits_of_isDigit hd ds
          rw [he, readFraction_append _ _ _ f hr] at h
          rcases exists_exponent_of_readScale h with ⟨e, rest, rfl, hrest⟩ | hnone
          · exact ⟨some f, some e, rest, by rw [he]; simp [Numeral.tail], hrest, by simp, by simp⟩
          · exact ⟨some f, none, r, by rw [he]; simp [Numeral.tail], hr, fun _ => hnone, by simp⟩
        · rw [readFraction] at h
          dsimp only at h
          rw [if_neg hd] at h
          exact absurd h failNext_ne_ok
    · rw [if_neg hpoint] at h
      by_cases hmark : isExponentMark c = true
      · rw [if_pos hmark] at h
        obtain ⟨e, rest, he, hrest⟩ := exists_exponent_of_readExponent hmark h
        exact ⟨none, some e, rest, by rw [he]; simp [Numeral.tail], hrest, by simp, by simp⟩
      · exact ⟨none, none, c :: cs, rfl, hcs, by simpa using hmark, by simpa using hpoint⟩

/-- Digits are the whole part of a number if no digit follows a leading zero. -/
theorem exists_whole {c : Char} (hc : c.isDigit = true) {cs : List Char}
    (hzero : c = '0' → NoDigit cs) :
    ∃ (whole : Digits) (r : List Char), c :: cs = whole.chars ++ r ∧ NoDigit r ∧
      (whole.chars.head? = some '0' → whole.chars = ['0']) := by
  by_cases h : c = '0'
  · subst h
    exact ⟨⟨['0'], by simp, by simp⟩, cs, rfl, hzero rfl, fun _ => rfl⟩
  · obtain ⟨ds, r, he, hr⟩ := exists_digits_of_isDigit hc cs
    obtain ⟨d, ds', hds⟩ := List.exists_cons_of_ne_nil ds.nonempty
    have hd : c = d := by
      rw [hds] at he
      exact (List.cons.inj he).1
    refine ⟨ds, r, he, hr, fun hhead => absurd ?_ h⟩
    rw [hds] at hhead
    rw [hd]
    exact Option.some.inj hhead

theorem exists_whole_of_readNumber {negative : Bool} {cs : List Char} {result : Number × List Char}
    (h : readNumber negative cs = .ok result) :
    ∃ (whole : Digits) (r : List Char), cs = whole.chars ++ r ∧ NoDigit r ∧
      (whole.chars.head? = some '0' → whole.chars = ['0']) := by
  cases cs with
  | nil => exact absurd h failHere_ne_ok
  | cons c cs =>
    rw [readNumber.eq_def] at h
    dsimp only at h
    by_cases hzero : c = '0'
    · refine exists_whole (by rw [hzero]; rfl) fun _ => ?_
      intro d hd
      cases cs with
      | nil => cases hd
      | cons d' cs =>
        cases hd
        rw [if_pos hzero] at h
        dsimp only at h
        split at h
        · exact absurd h failNext_ne_ok
        · rename_i hdigit
          simpa using hdigit
    · rw [if_neg hzero] at h
      by_cases hc : c.isDigit = true
      · exact exists_whole hc fun he => absurd he hzero
      · rw [if_neg hc] at h
        exact absurd h failNext_ne_ok

/-- What is read as a number is a numeral that is in range and that the rest does not continue. -/
theorem exists_numeral_of_readNumber {negative : Bool} {cs rest : List Char} {num : Number}
    (h : readNumber negative cs = .ok (num, rest)) :
    ∃ n : Numeral, n.negative = negative ∧ cs = n.unsigned ++ rest ∧ n.number? = some num := by
  obtain ⟨whole, r, rfl, hr, hzero⟩ := exists_whole_of_readNumber h
  have htail := h
  rw [readNumber_whole ⟨negative, whole, hzero, none, none⟩ negative hr] at htail
  obtain ⟨fraction, exponent, rest', rfl, hends⟩ := exists_tail_of_readTail hr htail whole hzero
  rw [← List.append_assoc] at h
  obtain ⟨hnum, rfl⟩ := (readNumber_unsigned _ hends num rest).mp h
  exact ⟨_, rfl, by rw [Numeral.unsigned, List.append_assoc], hnum⟩

end SyntaxOutline.Json
