import Mathlib.Tactic.Ring
import SyntaxOutline.Number.Binary64

/-!
# The range of the doubles

A number is beyond the doubles if the nearest of them would be infinite. The doubles end halfway
between the largest one and the power of two behind it, and that halfway point is already beyond
them, because the largest mantissa is odd (`round_eq_none_iff`). So a decimal is in range just if it
lies below this bound, however many digits it has (`ofDecimal_eq_none_iff`).
-/

namespace SyntaxOutline.Binary64

/-- The least number beyond the doubles. -/
@[irreducible]
def limit : Nat := 2 ^ 1024 - 2 ^ 970

/-- The number in units of `2 ^ -1074`. -/
def units (x : Binary64) : Nat := x.mantissa * 2 ^ x.scale

theorem limit_pos : 0 < limit := by decide +kernel

theorem unit_pos : 0 < Nat.pow 2 1074 := by decide +kernel

theorem limit_units : limit * Nat.pow 2 1074 = (2 ^ 54 - 1) * 2 ^ 2044 := by decide +kernel

/-! ## Rounding -/

/-- An odd quotient is rounded up from its half on. -/
theorem roundDiv_even_of_odd {num den : Nat} (hodd : num / den % 2 = 1) :
    roundDiv .even num den = num / den + 1 ↔ (2 * (num / den) + 1) * den ≤ 2 * num := by
  have hdiv := Nat.div_add_mod num den
  have hmul : (2 * (num / den) + 1) * den = 2 * (den * (num / den)) + den := by ring
  rw [hmul]
  unfold roundDiv
  dsimp only
  split
  · omega
  · split
    · omega
    · rw [if_neg (by omega)]
      omega

theorem roundDiv_even_le (num den : Nat) : roundDiv .even num den ≤ num / den + 1 := by
  unfold roundDiv
  dsimp only
  split
  · omega
  · split
    · omega
    · split
      · omega
      · omega

section

variable {units den : Nat}

/-- The scale that a quotient is given before it is rounded. -/
def scaleOf (units den : Nat) : Nat := (units / den).log2 - 52

/-- The scale that a quotient has afterwards. -/
def roundedScale (units den : Nat) : Nat :=
  if roundDiv .even units (den * 2 ^ scaleOf units den) = 2 ^ 53 then scaleOf units den + 1
  else scaleOf units den

/-- Rounding gives a double with the rounded scale, unless this is past the last one. -/
theorem exists_round_eq (num den : Nat) : ∃ x : Binary64,
    x.units = roundDiv .even (num * Nat.pow 2 1074) (den * 2 ^ scaleOf (num * Nat.pow 2 1074) den) *
      2 ^ scaleOf (num * Nat.pow 2 1074) den ∧
    round num den =
      if roundedScale (num * Nat.pow 2 1074) den ≤ maxScale then some x else none := by
  unfold round roundedScale scaleOf
  generalize num * Nat.pow 2 1074 = units
  dsimp only
  by_cases hcarry : roundDiv .even units (den * Nat.pow 2 ((units / den).log2 - 52)) = Nat.pow 2 53
  · have hcarry' : roundDiv .even units (den * 2 ^ ((units / den).log2 - 52)) = 2 ^ 53 := hcarry
    rw [if_pos hcarry, if_pos hcarry']
    refine ⟨_, ?_, rfl⟩
    change 2 ^ 52 * 2 ^ ((units / den).log2 - 52 + 1) = _
    rw [hcarry', Nat.pow_succ]
    ring
  · have hcarry' : ¬ roundDiv .even units (den * 2 ^ ((units / den).log2 - 52)) = 2 ^ 53 := hcarry
    rw [if_neg hcarry, if_neg hcarry']
    exact ⟨_, rfl, rfl⟩

theorem round_eq_none_iff_scale {num : Nat} :
    round num den = none ↔ maxScale < roundedScale (num * Nat.pow 2 1074) den := by
  obtain ⟨x, -, hround⟩ := exists_round_eq num den
  rw [hround]
  simp only [ite_eq_right_iff, reduceCtorEq, imp_false, Nat.not_le]

theorem lt_two_pow_scaleOf (units den : Nat) : units / den < 2 ^ (scaleOf units den + 53) := by
  have hlog : units / den < 2 ^ ((units / den).log2 + 1) := Nat.lt_log2_self
  exact hlog.trans_le (Nat.pow_le_pow_right (by decide) (by unfold scaleOf; omega))

theorem two_pow_scaleOf_le (hpos : 0 < scaleOf units den) :
    2 ^ (scaleOf units den + 52) ≤ units / den := by
  have hne : units / den ≠ 0 := by
    intro hzero
    rw [scaleOf, hzero] at hpos
    exact absurd hpos (by decide)
  have hlog := Nat.log2_self_le hne
  have hexponent : scaleOf units den + 52 = (units / den).log2 := by
    unfold scaleOf at hpos ⊢
    omega
  rwa [hexponent]

/-- At the last scale a quotient is carried on from the half behind the largest mantissa. -/
theorem roundDiv_last_iff {k : Nat} (hden : 0 < den) (hscale : scaleOf units den = k + 1) :
    roundDiv .even units (den * 2 ^ (k + 1)) = 2 ^ 53 ↔
      (2 ^ 54 - 1) * (den * 2 ^ k) ≤ units := by
  have hpos : 0 < den * 2 ^ (k + 1) := Nat.mul_pos hden (Nat.two_pow_pos _)
  have hquotient : units / (den * 2 ^ (k + 1)) < 2 ^ 53 := by
    have hlt := lt_two_pow_scaleOf units den
    rw [hscale, Nat.pow_add] at hlt
    rw [← Nat.div_div_eq_div_mul]
    exact Nat.div_lt_of_lt_mul hlt
  have hstep : den * 2 ^ (k + 1) = 2 * (den * 2 ^ k) := by ring
  have hdiv := Nat.div_add_mod units (den * 2 ^ (k + 1))
  have hmod := Nat.mod_lt units hpos
  by_cases hlast : units / (den * 2 ^ (k + 1)) = 2 ^ 53 - 1
  · have hodd : roundDiv .even units (den * 2 ^ (k + 1)) = _ ↔ _ :=
      roundDiv_even_of_odd (by rw [hlast]; decide)
    rw [hlast, hstep] at hodd
    rw [hstep]
    omega
  · have hle := roundDiv_even_le units (den * 2 ^ (k + 1))
    have hsmall : den * 2 ^ (k + 1) * (units / (den * 2 ^ (k + 1))) ≤
        den * 2 ^ (k + 1) * (2 ^ 53 - 2) :=
      Nat.mul_le_mul_left _ (by omega)
    generalize units / (den * 2 ^ (k + 1)) = quotient at *
    omega

/-- The last scale is passed from the half behind the largest mantissa on. -/
theorem lt_roundedScale_iff {k : Nat} (hden : 0 < den) :
    k + 1 < roundedScale units den ↔ (2 ^ 54 - 1) * (den * 2 ^ k) ≤ units := by
  have hstep : 2 ^ 53 * (den * 2 ^ k) = den * 2 ^ (k + 53) := by
    rw [Nat.pow_add]
    ring
  have hunit : 0 < den * 2 ^ k := Nat.mul_pos hden (Nat.two_pow_pos _)
  rcases Nat.lt_trichotomy (scaleOf units den) (k + 1) with hlow | hlast | hhigh
  · have hlt : units < den * 2 ^ (k + 53) := by
      rw [Nat.mul_comm, ← Nat.div_lt_iff_lt_mul hden]
      refine (lt_two_pow_scaleOf units den).trans_le (Nat.pow_le_pow_right (by decide) ?_)
      omega
    have hscale : roundedScale units den ≤ k + 1 := by
      unfold roundedScale
      split
      · omega
      · omega
    omega
  · rw [← roundDiv_last_iff hden hlast, roundedScale, hlast]
    by_cases hcarry : roundDiv .even units (den * 2 ^ (k + 1)) = 2 ^ 53
    · rw [if_pos hcarry]
      exact iff_of_true (Nat.lt_succ_self _) hcarry
    · rw [if_neg hcarry]
      exact iff_of_false (Nat.lt_irrefl _) hcarry
  · have hle : den * 2 ^ (k + 54) ≤ units := by
      rw [Nat.mul_comm]
      refine Nat.le_trans (Nat.mul_le_mul_right _ ?_) (Nat.div_mul_le_self units den)
      refine Nat.le_trans (Nat.pow_le_pow_right (by decide) ?_) (two_pow_scaleOf_le (by omega))
      omega
    have hscale : k + 1 < roundedScale units den := by
      unfold roundedScale
      split
      · omega
      · omega
    have hdouble : den * 2 ^ (k + 54) = 2 * (den * 2 ^ (k + 53)) := by ring
    omega

end

/-- A quotient is too large for a double if it reaches the bound. -/
theorem round_eq_none_iff {num den : Nat} (hden : 0 < den) :
    round num den = none ↔ limit * den ≤ num := by
  have hlast : ∃ k, maxScale = k + 1 ∧ limit * Nat.pow 2 1074 = (2 ^ 54 - 1) * 2 ^ k :=
    ⟨2044, rfl, limit_units⟩
  obtain ⟨k, hscale, hunits⟩ := hlast
  have hmul : (2 ^ 54 - 1) * (den * 2 ^ k) = limit * den * Nat.pow 2 1074 := by
    calc (2 ^ 54 - 1) * (den * 2 ^ k) = (2 ^ 54 - 1) * 2 ^ k * den := by ring
      _ = limit * den * Nat.pow 2 1074 := by
        rw [← hunits]
        exact Nat.mul_right_comm _ _ _
  rw [round_eq_none_iff_scale, hscale, lt_roundedScale_iff hden, hmul]
  exact Nat.mul_le_mul_right_iff unit_pos

/-! ## Decimals -/

theorem limit_le_ten_pow : limit ≤ 10 ^ 400 := by decide +kernel

theorem ten_pow_pred_length_le {n : Nat} (hn : n ≠ 0) :
    10 ^ ((Nat.toDigits 10 n).length - 1) ≤ n := by
  have hpos : 0 < (Nat.toDigits 10 n).length := Nat.length_toDigits_pos
  by_cases hone : (Nat.toDigits 10 n).length = 1
  · rw [hone]
    exact Nat.pos_of_ne_zero hn
  · have hlength := Nat.length_toDigits_le_iff (b := 10) (n := n)
      (k := (Nat.toDigits 10 n).length - 1) (by decide) (by omega)
    omega

theorem lt_ten_pow_length (n : Nat) : n < 10 ^ (Nat.toDigits 10 n).length :=
  (Nat.length_toDigits_le_iff (by decide) Nat.length_toDigits_pos).mp (Nat.le_refl _)

/-- A decimal is too large for a double if it reaches the bound. Of the two powers of ten, one is
one. -/
theorem ofDecimal_eq_none_iff {digits : Nat} {exponent : Int} :
    ofDecimal digits exponent = none ↔
      limit * 10 ^ (-exponent).toNat ≤ digits * 10 ^ exponent.toNat := by
  have hpos : 0 < 10 ^ (-exponent).toNat := Nat.pow_pos (by decide)
  unfold ofDecimal
  by_cases hzero : digits = 0
  · have hlimit := Nat.mul_pos limit_pos hpos
    rw [if_pos hzero, hzero, Nat.zero_mul]
    simp only [reduceCtorEq, false_iff]
    omega
  · have hlow := ten_pow_pred_length_le hzero
    have hhigh := lt_ten_pow_length digits
    rw [if_neg hzero]
    dsimp only
    generalize (Nat.toDigits 10 digits).length = length at *
    split
    · -- the first digit alone is beyond the bound
      refine iff_of_true rfl ?_
      calc limit * 10 ^ (-exponent).toNat
          ≤ 10 ^ 400 * 10 ^ (-exponent).toNat := Nat.mul_le_mul_right _ limit_le_ten_pow
        _ = 10 ^ (400 + (-exponent).toNat) := by rw [Nat.pow_add]
        _ ≤ 10 ^ (length - 1 + exponent.toNat) := Nat.pow_le_pow_right (by decide) (by omega)
        _ = 10 ^ (length - 1) * 10 ^ exponent.toNat := Nat.pow_add ..
        _ ≤ digits * 10 ^ exponent.toNat := Nat.mul_le_mul_right _ hlow
    · split
      · -- the number is less than one
        refine iff_of_false (by simp) (Nat.not_le.mpr ?_)
        calc digits * 10 ^ exponent.toNat
            < 10 ^ length * 10 ^ exponent.toNat :=
              Nat.mul_lt_mul_of_pos_right hhigh (Nat.pow_pos (by decide))
          _ = 10 ^ (length + exponent.toNat) := (Nat.pow_add ..).symm
          _ ≤ 10 ^ (-exponent).toNat := Nat.pow_le_pow_right (by decide) (by omega)
          _ ≤ limit * 10 ^ (-exponent).toNat := Nat.le_mul_of_pos_left _ limit_pos
      · split
        · have hdown : (-exponent).toNat = 0 := by omega
          rw [hdown, Nat.pow_zero]
          exact round_eq_none_iff Nat.one_pos
        · have hup : exponent.toNat = 0 := by omega
          rw [hup, Nat.pow_zero, Nat.mul_one]
          exact round_eq_none_iff hpos

/-! ## Products and quotients -/

/-- The double nearest to a whole number in range. -/
def nearest (n : Nat) : Binary64 := (ofNat n).getD zero

section

variable {num den : Nat} {x y : Binary64}

theorem le_roundDiv_even (num den : Nat) : num / den ≤ roundDiv .even num den := by
  unfold roundDiv
  dsimp only
  split
  · omega
  · split
    · omega
    · split
      · omega
      · omega

theorem units_of_round (h : round num den = some x) : x.units =
    roundDiv .even (num * Nat.pow 2 1074) (den * 2 ^ scaleOf (num * Nat.pow 2 1074) den) *
      2 ^ scaleOf (num * Nat.pow 2 1074) den := by
  obtain ⟨y, hunits, hround⟩ := exists_round_eq num den
  rw [h] at hround
  split at hround
  · rw [Option.some.inj hround, hunits]
  · cases hround

theorem ofNat_eq_none_iff {n : Nat} : ofNat n = none ↔ limit ≤ n := by
  rw [ofNat, round_eq_none_iff Nat.one_pos, Nat.mul_one]

theorem ofNat_eq_some {n : Nat} (h : n < limit) : ofNat n = some (nearest n) := by
  cases hn : ofNat n with
  | none => exact absurd (ofNat_eq_none_iff.mp hn) (Nat.not_le.mpr h)
  | some x => rw [nearest, hn, Option.getD_some]

/-- No whole number from one on is rounded below one. -/
theorem two_pow_le_units_nearest {n : Nat} (hpos : 0 < n) (h : n < limit) :
    Nat.pow 2 1074 ≤ (nearest n).units := by
  rw [units_of_round (ofNat_eq_some h)]
  have hle : Nat.pow 2 1074 ≤ n * Nat.pow 2 1074 := Nat.le_mul_of_pos_left _ hpos
  generalize n * Nat.pow 2 1074 = units at *
  generalize hexponent : 1074 = t at *
  rw [Nat.one_mul]
  refine Nat.le_trans ?_ (Nat.mul_le_mul_right _ (le_roundDiv_even _ _))
  by_cases hscale : scaleOf units 1 ≤ t
  · have hsplit : Nat.pow 2 t = 2 ^ (t - scaleOf units 1) * 2 ^ scaleOf units 1 := by
      rw [← Nat.pow_add, Nat.sub_add_cancel hscale]
      rfl
    rw [hsplit] at hle ⊢
    exact Nat.mul_le_mul_right _ ((Nat.le_div_iff_mul_le (Nat.two_pow_pos _)).mpr hle)
  · have hlog : 2 ^ (scaleOf units 1 + 52) ≤ units / 1 := two_pow_scaleOf_le (by omega)
    rw [Nat.div_one, Nat.pow_add, Nat.mul_comm] at hlog
    have hquotient : 1 ≤ units / 2 ^ scaleOf units 1 :=
      Nat.le_trans (by decide) ((Nat.le_div_iff_mul_le (Nat.two_pow_pos _)).mpr hlog)
    calc Nat.pow 2 t ≤ 1 * 2 ^ scaleOf units 1 := by
          rw [Nat.one_mul]
          exact Nat.pow_le_pow_right (by decide) (by omega)
      _ ≤ units / 2 ^ scaleOf units 1 * 2 ^ scaleOf units 1 := Nat.mul_le_mul_right _ hquotient

theorem nearest_zero : nearest 0 = zero := by decide +kernel

theorem isZero_nearest_iff {n : Nat} (h : n < limit) :
    (nearest n).isZero = true ↔ n = 0 := by
  constructor
  · intro hzero
    by_contra hn
    have hle := two_pow_le_units_nearest (Nat.pos_of_ne_zero hn) h
    have hmantissa : (nearest n).mantissa = 0 := by simpa [isZero] using hzero
    rw [units, hmantissa, Nat.zero_mul] at hle
    exact absurd hle (Nat.not_le.mpr unit_pos)
  · rintro rfl
    rw [nearest_zero]
    rfl

/-- What was rounded lies below the bound. -/
theorem units_lt_of_round (h : round num den = some x) :
    x.units < limit * Nat.pow 2 1074 := by
  have hlast : ∃ k, maxScale = k + 1 ∧ limit * Nat.pow 2 1074 = (2 ^ 54 - 1) * 2 ^ k :=
    ⟨2044, rfl, limit_units⟩
  obtain ⟨k, hmax, hlimit⟩ := hlast
  have hsome : ¬ maxScale < roundedScale (num * Nat.pow 2 1074) den := by
    rw [← round_eq_none_iff_scale, h]
    simp
  rw [hlimit, units_of_round h]
  rw [hmax, roundedScale] at hsome
  generalize num * Nat.pow 2 1074 = units at *
  have hquotient : units / (den * 2 ^ scaleOf units den) < 2 ^ 53 := by
    have hlt := lt_two_pow_scaleOf units den
    rw [Nat.pow_add] at hlt
    rw [← Nat.div_div_eq_div_mul]
    exact Nat.div_lt_of_lt_mul hlt
  have hle := roundDiv_even_le units (den * 2 ^ scaleOf units den)
  generalize roundDiv .even units (den * 2 ^ scaleOf units den) = mantissa at *
  have hpos : 0 < 2 ^ k := Nat.two_pow_pos k
  by_cases hcarry : mantissa = 2 ^ 53
  · rw [if_pos hcarry] at hsome
    have hscale : 2 ^ scaleOf units den ≤ 2 ^ k := Nat.pow_le_pow_right (by decide) (by omega)
    calc mantissa * 2 ^ scaleOf units den ≤ 2 ^ 53 * 2 ^ k := by
          rw [hcarry]
          exact Nat.mul_le_mul_left _ hscale
      _ < (2 ^ 54 - 1) * 2 ^ k := Nat.mul_lt_mul_of_pos_right (by decide) hpos
  · rw [if_neg hcarry] at hsome
    have hscale : 2 ^ scaleOf units den ≤ 2 ^ (k + 1) :=
      Nat.pow_le_pow_right (by decide) (by omega)
    calc mantissa * 2 ^ scaleOf units den ≤ (2 ^ 53 - 1) * 2 ^ (k + 1) :=
          Nat.mul_le_mul (by omega) hscale
      _ = (2 ^ 54 - 2) * 2 ^ k := by
          rw [Nat.pow_succ]
          omega
      _ < (2 ^ 54 - 1) * 2 ^ k := Nat.mul_lt_mul_of_pos_right (by decide) hpos

theorem mul_eq_none_iff : x.mul y = none ↔ limit * Nat.pow 2 2148 ≤ x.units * y.units := by
  have hpos : 0 < Nat.pow 2 2148 := by decide +kernel
  have hunits : x.mantissa * y.mantissa * Nat.pow 2 (x.scale + y.scale) = x.units * y.units := by
    change x.mantissa * y.mantissa * 2 ^ (x.scale + y.scale) = _
    rw [units, units, Nat.pow_add]
    ring
  rw [mul, round_eq_none_iff hpos, hunits]

/-- Dividing by one or more keeps in range. -/
theorem exists_div (hx : x.units < limit * Nat.pow 2 1074) (hy : Nat.pow 2 1074 ≤ y.units) :
    ∃ z, x.div y = some z ∧ z.units < limit * Nat.pow 2 1074 := by
  have hpos : 0 < y.units := Nat.lt_of_lt_of_le unit_pos hy
  cases hz : x.div y with
  | none =>
    have hle : limit * y.units ≤ x.units := (round_eq_none_iff hpos).mp hz
    exact absurd (Nat.le_trans (Nat.mul_le_mul_left limit hy) hle) (Nat.not_le.mpr hx)
  | some z => exact ⟨z, rfl, units_lt_of_round hz⟩

theorem ten_pow_lt_limit {k : Nat} (h : k ≤ 308) : Nat.pow 10 k < limit := by
  have hlast : ∃ m, k ≤ m ∧ 10 ^ m < limit := ⟨308, h, by decide +kernel⟩
  obtain ⟨m, hle, hlt⟩ := hlast
  exact Nat.lt_of_le_of_lt (Nat.pow_le_pow_right (by decide) hle) hlt

theorem two_pow_lt_limit : 2 ^ 64 < limit := by decide +kernel

theorem scaleDown_ne_none (hx : x.units < limit * Nat.pow 2 1074) (exponent : Nat) :
    x.scaleDown exponent ≠ none := by
  have hdiv : ∀ x : Binary64, x.units < limit * Nat.pow 2 1074 → ∀ k ≤ 308,
      ∃ z, (ofNat (Nat.pow 10 k)).bind x.div = some z ∧ z.units < limit * Nat.pow 2 1074 := by
    intro x hx k hk
    have hlt := ten_pow_lt_limit hk
    rw [ofNat_eq_some hlt, Option.bind_some]
    exact exists_div hx (two_pow_le_units_nearest (Nat.pow_pos (by decide)) hlt)
  induction exponent using Nat.strongRecOn generalizing x with
  | ind exponent ih =>
    unfold scaleDown
    split
    · rename_i hnear
      obtain ⟨z, hz, -⟩ := hdiv x hx exponent hnear
      rw [hz]
      exact Option.some_ne_none z
    · split
      · exact Option.some_ne_none x
      · obtain ⟨z, hz, hlt⟩ := hdiv x hx 308 (Nat.le_refl _)
        rw [← Option.bind_assoc, hz, Option.bind_some]
        exact ih _ (by omega) hlt

end

/-- A scaled number is too large if its exponent is and it is not zero, or if the two doubles that
are multiplied reach the bound. -/
theorem scaled_eq_none_iff {significand : Nat} {exponent : Int} (h : significand < limit) :
    scaled significand exponent = none ↔ significand ≠ 0 ∧ 0 ≤ exponent ∧
      (308 < exponent ∨ limit * Nat.pow 2 2148 ≤
        (nearest significand).units * (nearest (Nat.pow 10 exponent.toNat)).units) := by
  have hfinite : (nearest significand).units < limit * Nat.pow 2 1074 :=
    units_lt_of_round (ofNat_eq_some h)
  rw [scaled, ofNat_eq_some h, Option.bind_some]
  by_cases hnegative : exponent < 0
  · rw [if_pos hnegative]
    refine iff_of_false (scaleDown_ne_none hfinite _) ?_
    omega
  · rw [if_neg hnegative]
    by_cases hnear : exponent ≤ 308
    · rw [if_pos hnear, ofNat_eq_some (ten_pow_lt_limit (by omega)), Option.bind_some,
        mul_eq_none_iff]
      constructor
      · intro hle
        refine ⟨?_, by omega, .inr hle⟩
        rintro rfl
        rw [nearest_zero, units, zero, Nat.zero_mul, Nat.zero_mul] at hle
        exact absurd hle (Nat.not_le.mpr (Nat.mul_pos limit_pos (by decide +kernel)))
      · rintro ⟨-, -, hfar | hle⟩
        · omega
        · exact hle
    · rw [if_neg hnear]
      by_cases hzero : significand = 0
      · rw [if_pos ((isZero_nearest_iff h).mpr hzero)]
        exact iff_of_false (Option.some_ne_none _) fun hlarge => hlarge.1 hzero
      · rw [if_neg (mt (isZero_nearest_iff h).mp hzero)]
        exact iff_of_true rfl ⟨hzero, by omega, .inl (by omega)⟩

end SyntaxOutline.Binary64
