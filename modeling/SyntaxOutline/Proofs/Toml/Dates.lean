import SyntaxOutline.Proofs.Toml.Numbers

/-!
# Reading dates and times

What the grammar spells as a date, a time or both is one for the reader (`isDatetime_text`).
-/

namespace SyntaxOutline.Toml

section

variable {cs : List Char}

theorem length_fixed (width n : Nat) : (fixed width n).length = width := by
  induction width generalizing n with
  | zero => rfl
  | succ width ih => rw [fixed, List.length_append, ih, List.length_singleton]

theorem isDigit_fixed {width n : Nat} {c : Char} (h : c ∈ fixed width n) : c.isDigit = true := by
  induction width generalizing n with
  | zero => cases h
  | succ width ih =>
    rw [fixed, List.mem_append, List.mem_singleton] at h
    rcases h with h | rfl
    · exact ih h
    · have hall : ∀ m < 10, (Nat.digitChar m).isDigit = true := by decide
      exact hall _ (Nat.mod_lt _ (by decide))

theorem ofDigits?_fixed {width n : Nat} (h : n < 10 ^ width) :
    Text.ofDigits? 10 (fixed width n) = some n := by
  induction width generalizing n with
  | zero =>
    obtain rfl : n = 0 := Nat.lt_one_iff.mp h
    rfl
  | succ width ih =>
    have hall : ∀ m < 10, Text.hexDigit? (Nat.digitChar m) = some m := by decide
    have hlast : n % 10 < 10 := Nat.mod_lt _ (by decide)
    have hfront := ih (Nat.div_lt_of_lt_mul (by rwa [Nat.pow_succ, Nat.mul_comm] at h))
    rw [Text.ofDigits?] at hfront
    rw [Text.ofDigits?, fixed, List.foldl_append, hfront, List.foldl_cons, List.foldl_nil,
      Option.bind_some, hall _ hlast, Option.bind_some, if_pos hlast, Nat.div_add_mod']

theorem fixedDigits?_fixed {width n : Nat} (h : n < 10 ^ width) (cs : List Char) :
    fixedDigits? width (fixed width n ++ cs) = some (n, cs) := by
  have hlength := length_fixed width n
  have htake : (fixed width n ++ cs).take width = fixed width n := List.take_left' hlength
  have hdrop : (fixed width n ++ cs).drop width = cs := List.drop_left' hlength
  have hdigits : (fixed width n).all Char.isDigit = true :=
    List.all_eq_true.mpr fun c hc => isDigit_fixed hc
  rw [fixedDigits?, htake, hdrop, if_pos ⟨hlength, hdigits⟩, ofDigits?_fixed h]
  rfl

theorem char?_cons (c : Char) (cs : List Char) : char? c (c :: cs) = some cs := by
  rw [char?, if_pos rfl]

theorem isLeapYear_iff {year : Nat} : isLeapYear year = true ↔ IsLeap year := by
  simp only [isLeapYear, IsLeap, Bool.and_eq_true, Bool.or_eq_true, beq_iff_eq, bne_iff_ne]
  omega

theorem daysIn_eq {year month : Nat} (hpos : 1 ≤ month) (hle : month ≤ 12) :
    daysIn year month = (monthDays year).getD (month - 1) 0 := by
  have hmonth : month = 1 ∨ month = 2 ∨ month = 3 ∨ month = 4 ∨ month = 5 ∨ month = 6 ∨ month = 7 ∨
      month = 8 ∨ month = 9 ∨ month = 10 ∨ month = 11 ∨ month = 12 := by
    omega
  rcases hmonth with rfl | rfl | rfl | rfl | rfl | rfl | rfl | rfl | rfl | rfl | rfl | rfl
  case inr.inl => simp [daysIn, monthDays, isLeapYear_iff]
  all_goals rfl

theorem date?_text (d : Date) (cs : List Char) : date? (d.text ++ cs) = some cs := by
  obtain ⟨year, month, day, year_lt, month_pos, month_le, day_pos, day_le⟩ := d
  have hday : day ≤ daysIn year month := by rwa [daysIn_eq month_pos month_le]
  have hall : ∀ leap : Bool, ∀ m < 12, ([31, if leap then 29 else 28, 31, 30, 31, 30, 31, 31, 30,
      31, 30, 31].getD m 0) < 100 := by
    decide
  have hday_lt : day < 10 ^ 2 := by
    refine Nat.lt_of_le_of_lt day_le ?_
    have := hall (decide (IsLeap year)) (month - 1) (by omega)
    simpa [monthDays] using this
  rw [Date.text, List.append_assoc, List.cons_append, List.append_assoc, List.cons_append, date?,
    fixedDigits?_fixed year_lt]
  simp only [Option.bind_eq_bind, Option.bind_some, char?_cons]
  rw [fixedDigits?_fixed (Nat.lt_of_le_of_lt month_le (by decide))]
  simp only [Option.bind_some, char?_cons]
  rw [fixedDigits?_fixed hday_lt]
  simp only [Option.bind_some]
  rw [if_pos ⟨month_pos, month_le, day_pos, hday⟩]

/-- What follows a time does not continue it. -/
def EndsTime (cs : List Char) : Prop := ∀ c ∈ cs.head?, c ≠ ':' ∧ c ≠ '.' ∧ c.isDigit = false

theorem subsecond?_text {fraction : List (Digit 10)} (hcs : EndsTime cs) :
    subsecond? ((if fraction.isEmpty then [] else '.' :: fraction.map Digit.char) ++ cs) =
      some cs := by
  cases fraction with
  | nil =>
    change subsecond? cs = some cs
    unfold subsecond?
    split
    · exact absurd rfl (hcs '.' rfl).2.1
    · rfl
  | cons d fraction =>
    have hdigits : ∀ c ∈ fraction.map Digit.char, c.isDigit = true := by
      intro c hc
      obtain ⟨e, -, rfl⟩ := List.mem_map.mp hc
      exact e.isDigit_char
    change (if d.char.isDigit then some ((fraction.map Digit.char ++ cs).dropWhile Char.isDigit)
      else none) = some cs
    rw [if_pos d.isDigit_char, dropWhile_run hdigits fun c hc => (hcs c hc).2.2]

theorem time?_text (t : Clock) (hcs : EndsTime cs) : time? (t.text ++ cs) = some cs := by
  obtain ⟨hour, minute, seconds, hour_lt, minute_lt⟩ := t
  have hhour : hour < 10 ^ 2 := by omega
  have hminute : minute < 10 ^ 2 := by omega
  rw [Clock.text, List.append_assoc, List.cons_append, List.append_assoc, time?,
    fixedDigits?_fixed hhour]
  simp only [Option.bind_eq_bind, Option.bind_some, char?_cons]
  rw [fixedDigits?_fixed hminute]
  simp only [Option.bind_some]
  rw [if_pos ⟨Nat.le_of_lt_succ hour_lt, Nat.le_of_lt_succ minute_lt⟩]
  cases seconds with
  | none =>
    rw [Option.elim_none, List.nil_append]
    split
    · exact absurd rfl (hcs ':' rfl).1
    · rfl
  | some s =>
    obtain ⟨count, fraction, count_le⟩ := s
    have hcount : count < 10 ^ 2 := by omega
    rw [Option.elim_some, Seconds.text, List.cons_append, List.append_assoc]
    change (fixedDigits? 2 (fixed 2 count ++ (_ ++ cs))).bind _ = some cs
    rw [fixedDigits?_fixed hcount, Option.bind_some]
    dsimp only
    rw [if_pos count_le, subsecond?_text hcs]

theorem isOffset_text (o : Offset) : isOffset o.text = true := by
  cases o with
  | universal mark isMark => rcases isMark with rfl | rfl <;> rfl
  | shifted west hour minute hour_lt minute_lt =>
    have hhour : hour < 10 ^ 2 := by omega
    have hminute : minute < 10 ^ 2 := by omega
    have hrest := fixedDigits?_fixed hminute []
    rw [List.append_nil] at hrest
    have hmark : ∀ c, (c == '+' || c == '-') = true → c ≠ 'Z' ∧ c ≠ 'z' := by
      rintro c hc
      constructor
      · rintro rfl
        cases hc
      · rintro rfl
        cases hc
    rw [Offset.text]
    generalize hc : (if west then '-' else '+' : Char) = c
    have hsign : (c == '+' || c == '-') = true := by
      cases west <;> (subst hc; rfl)
    rw [isOffset, hsign, fixedDigits?_fixed hhour, Bool.true_and]
    · simp only [hrest, Bool.and_eq_true, decide_eq_true_eq]
      omega
    · rintro rfl
      exact absurd rfl (hmark _ hsign).1
    · rintro rfl
      exact absurd rfl (hmark _ hsign).2

theorem endsTime_offset (offset : Option Offset) : EndsTime (offset.elim [] Offset.text) := by
  cases offset with
  | none => rintro _ ⟨⟩
  | some o =>
    cases o with
    | universal mark isMark =>
      rintro _ ⟨⟩
      rcases isMark with rfl | rfl <;> decide
    | shifted west hour minute hour_lt minute_lt =>
      rintro _ ⟨⟩
      cases west <;> decide

theorem date?_clock (t : Clock) : date? t.text = none := by
  have hnone : fixedDigits? 4 t.text = none := by
    obtain ⟨hour, minute, seconds, hour_lt, minute_lt⟩ := t
    have htake : ':' ∈ (Clock.text ⟨hour, minute, seconds, hour_lt, minute_lt⟩).take 4 := by
      rw [Clock.text, List.take_append, length_fixed]
      simp
    rw [fixedDigits?, if_neg]
    rintro ⟨-, hall⟩
    exact absurd (List.all_eq_true.mp hall ':' htake) (by decide)
  rw [date?, hnone]
  rfl

theorem isDatetime_text (d : Datetime) : isDatetime d.text = true := by
  cases d with
  | date d =>
    have hdate := date?_text d []
    rw [List.append_nil] at hdate
    rw [Datetime.text, isDatetime, hdate]
  | time t =>
    have hend : EndsTime [] := by rintro _ ⟨⟩
    have htime := time?_text t hend
    rw [List.append_nil] at htime
    rw [Datetime.text, isDatetime, date?_clock, htime]
    rfl
  | both d mark isMark t offset =>
    have hmark : (mark == 'T' || mark == 't' || mark == ' ') = true := by
      rcases isMark with rfl | rfl | rfl <;> rfl
    rw [Datetime.text, isDatetime, date?_text]
    dsimp only
    rw [hmark, time?_text t (endsTime_offset offset), Bool.true_and]
    cases offset with
    | none => rfl
    | some o =>
      rw [Option.elim_some]
      split
      · rfl
      · rename_i he
        rw [← Option.some.inj he]
        exact isOffset_text o
      · rename_i he
        cases he

end

end SyntaxOutline.Toml
