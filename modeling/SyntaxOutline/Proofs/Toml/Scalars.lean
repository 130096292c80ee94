import SyntaxOutline.Proofs.Toml.Dates

/-!
# Reading unquoted values

Numbers, dates and truth values are read from one run of characters, in the order truth value, date
or time, number. So a number must not look like a date (`isNoDate_number`).

* `readScalar_number`, `readScalar_datetime`, `readScalar_boolean` : what the grammar spells is
  read.
-/

namespace SyntaxOutline.Toml

open Json (Sign)

/-! ## Runs -/

section

variable {cs run rest : List Char}

theorem isRunChar_of_isDigit {c : Char} (h : c.isDigit = true) : isRunChar c = true := by
  simp [isRunChar, Char.isAlphanum, h]

theorem isRunChar_fixed {width n : Nat} {c : Char} (h : c ∈ fixed width n) : isRunChar c = true :=
  isRunChar_of_isDigit (isDigit_fixed h)

theorem Ends.isRunChar (h : Ends rest) : ∀ c ∈ rest.head?, isRunChar c = false :=
  h.head_of_all (List.all_iff_forall_prop.mp rfl)

/-- Behind a blank, a value that has ended is not continued by a digit. -/
theorem Ends.isDigit {c : Char} (h : Ends (' ' :: c :: cs)) : c.isDigit = false := by
  have hmarks : ∀ d ∈ [' ', '\t', '\n', '\r', '#', ',', ']', '\x7d'], d.isDigit = false :=
    List.all_iff_forall_prop.mp rfl
  have hskip : Ends (c :: cs) := h
  exact hmarks c (hskip.head rfl)

/-- A run of characters ends where the value does. -/
theorem splitRun_text (hrun : ∀ c ∈ run, isRunChar c = true) (hrest : Ends rest) :
    splitRun (run ++ rest) = (run, rest) := by
  rw [splitRun, takeWhile_run hrun hrest.isRunChar, dropWhile_run hrun hrest.isRunChar]
  split
  · rw [if_neg (by simp [hrest.isDigit])]
  · rfl

theorem Sign.isRunChar_text {s : Sign} {c : Char} (h : c ∈ s.text) : isRunChar c = true := by
  cases s with
  | none => cases h
  | plus =>
    obtain rfl : c = '+' := by simpa [Sign.text] using h
    rfl
  | minus =>
    obtain rfl : c = '-' := by simpa [Sign.text] using h
    rfl

theorem Exponent.isRunChar_text {e : Exponent} {c : Char} (h : c ∈ e.text) :
    isRunChar c = true := by
  rw [Exponent.text, List.mem_cons, List.mem_append] at h
  rcases h with rfl | h | h
  · rcases e.isMark with h | h <;> (rw [h]; rfl)
  · exact Sign.isRunChar_text h
  · exact Digits.isRunChar (by decide) h

theorem Number.isRunChar_text {n : Number} {c : Char} (h : c ∈ n.text) : isRunChar c = true := by
  cases n with
  | whole s digits plain =>
    rcases List.mem_append.mp h with h | h
    · exact Sign.isRunChar_text h
    · exact Digits.isRunChar (by decide) h
  | marked base digits =>
    have hsize : base.size ≤ 16 := by cases base <;> decide
    have hcases : c = '0' ∨ c = base.mark ∨ c ∈ digits.text := by simpa [Number.text] using h
    rcases hcases with rfl | rfl | h
    · rfl
    · cases base <;> rfl
    · exact Digits.isRunChar hsize h
  | decimal d =>
    rw [Number.text, Decimal.text, List.mem_append, List.mem_append, Decimal.tail,
      List.mem_append] at h
    rcases h with h | h | h | h
    · exact Sign.isRunChar_text h
    · exact Digits.isRunChar (by decide) h
    · cases hf : d.fraction with
      | none =>
        rw [hf] at h
        cases h
      | some f =>
        rw [hf, Option.elim_some, List.mem_cons] at h
        rcases h with rfl | h
        · rfl
        · exact Digits.isRunChar (by decide) h
    · cases he : d.exponent with
      | none =>
        rw [he] at h
        cases h
      | some e =>
        rw [he] at h
        exact Exponent.isRunChar_text h
  | infinite s =>
    rcases List.mem_append.mp h with h | h
    · exact Sign.isRunChar_text h
    · have hall : ∀ c ∈ ['i', 'n', 'f'], isRunChar c = true := List.all_iff_forall_prop.mp rfl
      exact hall c h
  | notANumber s =>
    rcases List.mem_append.mp h with h | h
    · exact Sign.isRunChar_text h
    · have hall : ∀ c ∈ ['n', 'a', 'n'], isRunChar c = true := List.all_iff_forall_prop.mp rfl
      exact hall c h

theorem Date.isRunChar_text {d : Date} {c : Char} (h : c ∈ d.text) : isRunChar c = true := by
  simp only [Date.text, List.mem_append, List.mem_cons] at h
  rcases h with h | rfl | h | rfl | h
  · exact isRunChar_fixed h
  · rfl
  · exact isRunChar_fixed h
  · rfl
  · exact isRunChar_fixed h

theorem Seconds.isRunChar_text {s : Seconds} {c : Char} (h : c ∈ s.text) : isRunChar c = true := by
  rw [Seconds.text, List.mem_cons, List.mem_append] at h
  rcases h with rfl | h | h
  · rfl
  · exact isRunChar_fixed h
  · split at h
    · cases h
    · rcases List.mem_cons.mp h with rfl | h
      · rfl
      · obtain ⟨d, -, rfl⟩ := List.mem_map.mp h
        exact d.isRunChar_char (by decide)

theorem Clock.isRunChar_text {t : Clock} {c : Char} (h : c ∈ t.text) : isRunChar c = true := by
  simp only [Clock.text, List.mem_append, List.mem_cons] at h
  rcases h with h | rfl | h | h
  · exact isRunChar_fixed h
  · rfl
  · exact isRunChar_fixed h
  · cases hs : t.seconds with
    | none =>
      rw [hs] at h
      cases h
    | some s =>
      rw [hs] at h
      exact Seconds.isRunChar_text h

theorem Offset.isRunChar_text {offset : Option Offset} {c : Char}
    (h : c ∈ offset.elim [] Offset.text) : isRunChar c = true := by
  cases offset with
  | none => cases h
  | some o =>
    cases o with
    | universal mark isMark =>
      obtain rfl : c = mark := by simpa [Offset.text] using h
      rcases isMark with rfl | rfl <;> rfl
    | shifted west hour minute hour_lt minute_lt =>
      simp only [Option.elim_some, Offset.text, List.mem_append, List.mem_cons] at h
      rcases h with rfl | h | rfl | h
      · cases west <;> rfl
      · exact isRunChar_fixed h
      · rfl
      · exact isRunChar_fixed h

/-- A date and a time are split off together, also with a blank between them. -/
theorem splitRun_datetime (d : Datetime) (hrest : Ends rest) :
    splitRun (d.text ++ rest) = (d.text, rest) := by
  cases d with
  | date d => exact splitRun_text (fun c hc => Date.isRunChar_text hc) hrest
  | time t => exact splitRun_text (fun c hc => Clock.isRunChar_text hc) hrest
  | both d mark isMark t offset =>
    have htime : ∀ c ∈ t.text ++ offset.elim [] Offset.text, isRunChar c = true := by
      intro c hc
      rcases List.mem_append.mp hc with hc | hc
      · exact Clock.isRunChar_text hc
      · exact Offset.isRunChar_text hc
    have hboth : isRunChar mark = true →
        splitRun (d.text ++ mark :: (t.text ++ offset.elim [] Offset.text) ++ rest) =
          (d.text ++ mark :: (t.text ++ offset.elim [] Offset.text), rest) := by
      intro hmark
      refine splitRun_text (fun c hc => ?_) hrest
      rcases List.mem_append.mp hc with hc | hc
      · exact Date.isRunChar_text hc
      · rcases List.mem_cons.mp hc with rfl | hc
        · exact hmark
        · exact htime c hc
    rcases isMark with rfl | rfl | rfl
    · exact hboth rfl
    · exact hboth rfl
    · have hdate := date?_text d []
      rw [List.append_nil] at hdate
      obtain ⟨c, more, htext, hdigit⟩ : ∃ c more, t.text ++ offset.elim [] Offset.text = c :: more ∧
          c.isDigit = true := by
        have hmem : Nat.digitChar (t.hour / 10 % 10) ∈ fixed 2 t.hour := by simp [fixed]
        exact ⟨_, _, rfl, isDigit_fixed hmem⟩
      have hhead : ∀ e ∈ (' ' :: (c :: more ++ rest)).head?, isRunChar e = false := by
        rintro _ ⟨⟩
        rfl
      rw [htext] at htime
      rw [Datetime.text, htext, List.append_assoc, List.cons_append, splitRun,
        takeWhile_run (fun c hc => Date.isRunChar_text hc) hhead,
        dropWhile_run (fun c hc => Date.isRunChar_text hc) hhead, hdate]
      change (if c.isDigit then (_ ++ ' ' :: (c :: more ++ rest).takeWhile isRunChar,
        (c :: more ++ rest).dropWhile isRunChar) else _) = _
      rw [if_pos hdigit, takeWhile_run htime hrest.isRunChar, dropWhile_run htime hrest.isRunChar]

/-! ## Unquoted values -/

/-- The text begins with digits, behind which no date or time can go on. -/
def IsNoDate (cs : List Char) : Prop :=
  ∃ run tail, cs = run ++ tail ∧ (∀ c ∈ run, isDigitOrUnderscore c = true) ∧
    ∀ c ∈ tail.head?, c.isDigit = false ∧ (run = [] ∨ c ≠ '-' ∧ c ≠ ':')

/-- What follows a fixed count of digits is no mark of a date or a time. -/
theorem IsNoDate.char? (h : IsNoDate cs) {width n : Nat} (hread : fixedDigits? (width + 1) cs =
    some (n, rest)) {c : Char} (hc : c = '-' ∨ c = ':') : char? c rest = none := by
  obtain ⟨run, tail, rfl, hrun, htail⟩ := h
  rw [fixedDigits?] at hread
  split at hread
  · rename_i hdigits
    obtain ⟨m, -, hm⟩ := Option.map_eq_some_iff.mp hread
    obtain rfl : (run ++ tail).drop (width + 1) = rest := (Prod.mk.inj hm).2
    have hall := List.all_eq_true.mp hdigits.2
    have hlength : width + 1 ≤ run.length := by
      by_contra hlt
      have htake := hdigits.1
      rw [List.length_take, List.length_append] at htake
      obtain ⟨e, more, rfl⟩ := List.exists_cons_of_length_pos (l := tail) (by omega)
      have hmem : e ∈ (run ++ e :: more).take (width + 1) := by
        rw [List.take_append]
        obtain ⟨k, hk⟩ : ∃ k, width + 1 - run.length = k + 1 := ⟨width - run.length, by omega⟩
        rw [hk]
        simp
      have hdigit := hall e hmem
      rw [(htail e rfl).1] at hdigit
      cases hdigit
    have hne : ∀ e ∈ ((run ++ tail).drop (width + 1)).head?, e ≠ c := by
      rw [List.drop_append_of_le_length hlength]
      intro e he
      cases hdrop : run.drop (width + 1) with
      | nil =>
        rw [hdrop, List.nil_append] at he
        rcases (htail e he).2 with hnil | hmarks
        · rw [hnil] at hlength
          exact absurd hlength (by simp)
        · rintro rfl
          rcases hc with rfl | rfl
          · exact hmarks.1 rfl
          · exact hmarks.2 rfl
      | cons e' more =>
        rw [hdrop] at he
        obtain rfl : e' = e := Option.some.inj he
        have hdigit := hrun e' (List.mem_of_mem_drop (hdrop ▸ List.mem_cons_self))
        rintro rfl
        rcases hc with rfl | rfl
        · cases hdigit
        · cases hdigit
    cases hdrop : (run ++ tail).drop (width + 1) with
    | nil => rfl
    | cons e more =>
      rw [hdrop] at hne
      rw [Toml.char?, if_neg (hne e rfl)]
  · cases hread

theorem IsNoDate.isDatetime (h : IsNoDate cs) : isDatetime cs = false := by
  have hdate : date? cs = none := by
    rw [date?]
    cases hread : fixedDigits? 4 cs with
    | none => rfl
    | some r => simp [h.char? hread (.inl rfl)]
  have htime : time? cs = none := by
    rw [time?]
    cases hread : fixedDigits? 2 cs with
    | none => rfl
    | some r => simp [h.char? hread (.inr rfl)]
  rw [Toml.isDatetime, hdate, htime]
  rfl

theorem isNoDate_of_head (h : ∀ c ∈ cs.head?, c.isDigit = false) : IsNoDate cs :=
  ⟨[], cs, rfl, by simp, fun c hc => ⟨h c hc, .inl rfl⟩⟩

theorem isNoDate_signed (s : Sign) (ds : Digits 10) {tail : List Char}
    (htail : ∀ c ∈ tail.head?, c.isDigit = false ∧ c ≠ '-' ∧ c ≠ ':') :
    IsNoDate (s.text ++ (ds.text ++ tail)) := by
  cases s with
  | none =>
    exact ⟨ds.text, tail, rfl, fun c hc => Digits.isDigitOrUnderscore hc,
      fun c hc => ⟨(htail c hc).1, .inr (htail c hc).2⟩⟩
  | plus =>
    refine isNoDate_of_head ?_
    rintro _ ⟨⟩
    rfl
  | minus =>
    refine isNoDate_of_head ?_
    rintro _ ⟨⟩
    rfl

theorem isNoDate_number (n : Number) : IsNoDate n.text := by
  cases n with
  | whole s digits plain =>
    have htail : ∀ c ∈ ([] : List Char).head?, c.isDigit = false ∧ c ≠ '-' ∧ c ≠ ':' := by
      rintro _ ⟨⟩
    have hnone := isNoDate_signed s digits htail
    rwa [List.append_nil] at hnone
  | marked base digits =>
    refine ⟨['0'], base.mark :: digits.text, rfl, List.all_iff_forall_prop.mp rfl, ?_⟩
    rintro _ ⟨⟩
    cases base <;> exact ⟨rfl, .inr (by decide)⟩
  | decimal d =>
    refine isNoDate_signed d.sign d.whole fun c hc => ?_
    rcases d.head_tail.2 c hc with rfl | rfl | rfl <;> decide
  | infinite s =>
    refine isNoDate_of_head fun c hc => ?_
    cases s <;> (cases hc; rfl)
  | notANumber s =>
    refine isNoDate_of_head fun c hc => ?_
    cases s <;> (cases hc; rfl)

/-- A run that is no truth value is a date, a time or a number. -/
theorem readScalar_of_splitRun (hsplit : splitRun cs = (run, rest))
    (hhead : ∀ c ∈ run.head?, c ≠ 't' ∧ c ≠ 'f') :
    readScalar cs =
      if isDatetime run then .ok (.datetime (String.ofList run), rest)
      else match numeral? run with
        | some n => .ok (n.toValue, rest)
        | none => fail .expectedValue cs := by
  have hword : run ≠ ['t', 'r', 'u', 'e'] ∧ run ≠ ['f', 'a', 'l', 's', 'e'] := by
    constructor
    · rintro rfl
      exact (hhead 't' rfl).1 rfl
    · rintro rfl
      exact (hhead 'f' rfl).2 rfl
  rw [readScalar, hsplit]
  dsimp only
  rw [if_neg hword.1]
  exact if_neg hword.2

theorem Number.head_text (n : Number) : ∀ c ∈ n.text.head?, c ≠ 't' ∧ c ≠ 'f' := by
  have hdigits : ∀ (s : Sign) (ds : Digits 10) (tail : List Char),
      ∀ c ∈ (s.text ++ (ds.text ++ tail)).head?, c ≠ 't' ∧ c ≠ 'f' := by
    intro s ds tail c hc
    cases s with
    | none =>
      cases hc
      exact ⟨ds.first_ne rfl, ds.first_ne rfl⟩
    | plus =>
      cases hc
      decide
    | minus =>
      cases hc
      decide
  cases n with
  | whole s digits plain =>
    have hhead := hdigits s digits []
    rwa [List.append_nil] at hhead
  | marked base digits =>
    rintro _ ⟨⟩
    decide
  | decimal d => exact hdigits d.sign d.whole d.tail
  | infinite s =>
    intro c hc
    cases s <;> (cases hc; decide)
  | notANumber s =>
    intro c hc
    cases s <;> (cases hc; decide)

/-- **Numbers.** A number is read with its value. -/
theorem readScalar_number (n : Number) (hrest : Ends rest) :
    readScalar (n.text ++ rest) = .ok (n.numeral.toValue, rest) := by
  have hsplit := splitRun_text (fun c hc => Number.isRunChar_text (n := n) hc) hrest
  rw [readScalar_of_splitRun hsplit n.head_text, (isNoDate_number n).isDatetime, numeral?_text]
  rfl

theorem Datetime.exists_text (d : Datetime) : ∃ c cs, d.text = c :: cs ∧ c.isDigit = true := by
  have hfixed : ∀ (width n : Nat) (more : List Char),
      ∃ c cs, fixed (width + 1) n ++ more = c :: cs ∧ c.isDigit = true := by
    intro width n more
    have hpos : 0 < (fixed (width + 1) n).length := by
      rw [length_fixed]
      omega
    obtain ⟨c, cs, htext⟩ := List.exists_cons_of_length_pos hpos
    exact ⟨c, cs ++ more, by rw [htext]; rfl, isDigit_fixed (htext ▸ List.mem_cons_self)⟩
  cases d with
  | date d => exact hfixed 3 d.year _
  | time t => exact hfixed 1 t.hour _
  | both d mark isMark t offset =>
    rw [Datetime.text, Date.text, List.append_assoc]
    exact hfixed 3 d.year _

/-- **Dates and times.** -/
theorem readScalar_datetime (d : Datetime) (hrest : Ends rest) :
    readScalar (d.text ++ rest) = .ok (.datetime (String.ofList d.text), rest) := by
  have hhead : ∀ c ∈ d.text.head?, c ≠ 't' ∧ c ≠ 'f' := by
    obtain ⟨c, cs, htext, hdigit⟩ := d.exists_text
    rw [htext]
    rintro _ ⟨⟩
    constructor
    · rintro rfl
      cases hdigit
    · rintro rfl
      cases hdigit
  rw [readScalar_of_splitRun (splitRun_datetime d hrest) hhead, isDatetime_text]
  rfl

theorem readScalar_boolean (b : Bool) (hrest : Ends rest) :
    readScalar ((Tree.boolean b).text ++ rest) = .ok (.boolean b, rest) := by
  have hrun : ∀ c ∈ (Tree.boolean b).text, isRunChar c = true := by
    cases b <;> exact List.all_iff_forall_prop.mp rfl
  have hsplit := splitRun_text hrun hrest
  cases b with
  | true =>
    rw [readScalar, hsplit]
    rfl
  | false =>
    rw [readScalar, hsplit]
    rfl

end

end SyntaxOutline.Toml
