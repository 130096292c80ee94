/-!
# Finite doubles

A finite non-negative double is held as a mantissa and a scale over natural numbers, so that
reading and writing numbers needs no machine arithmetic. Every operation is the exact one followed
by rounding to the nearest double, a tie going to the even mantissa.

* `Binary64.round` : the double nearest to a fraction, `none` if that is infinite.
* `Binary64.mul`, `Binary64.div` : rounded product and quotient.
* `Binary64.scaled` : a double near a decimal, made from the rounded factors.
* `Binary64.ofDecimal` : the double nearest to a decimal.
-/

namespace SyntaxOutline

/-- The number `mantissa * 2 ^ scale / 2 ^ 1074`. The doubles are those with a mantissa below
`2 ^ 53`, and at least `2 ^ 52` unless the scale is zero. -/
structure Binary64 where
  mantissa : Nat
  scale : Nat
deriving DecidableEq, Repr

/-- Which neighbour a number halfway between two of them goes to. -/
inductive Tie where
  | even
  | up
deriving DecidableEq, Repr

namespace Binary64

/-- The quotient rounded to the nearest whole number. -/
def roundDiv (tie : Tie) (num den : Nat) : Nat :=
  let q := num / den
  let r := num % den
  if 2 * r < den then q
  else if den < 2 * r then q + 1
  else
    match tie with
    | .even => if q % 2 = 0 then q else q + 1
    | .up => q + 1

/-- The largest scale of a finite double. -/
def maxScale : Nat := 2045

/-- The double nearest to `num / den`, `none` if it lies beyond the largest one. -/
def round (num den : Nat) : Option Binary64 :=
  let units := num * Nat.pow 2 1074
  let scale := (units / den).log2 - 52
  let mantissa := roundDiv .even units (den * Nat.pow 2 scale)
  let result : Binary64 :=
    if mantissa = Nat.pow 2 53 then ⟨Nat.pow 2 52, scale + 1⟩ else ⟨mantissa, scale⟩
  if result.scale ≤ maxScale then some result else none

def zero : Binary64 := ⟨0, 0⟩

def isZero (x : Binary64) : Bool := x.mantissa == 0

/-- The rounded product. -/
def mul (x y : Binary64) : Option Binary64 :=
  round (x.mantissa * y.mantissa * Nat.pow 2 (x.scale + y.scale)) (Nat.pow 2 2148)

/-- The rounded quotient. -/
def div (x y : Binary64) : Option Binary64 :=
  round (x.mantissa * Nat.pow 2 x.scale) (y.mantissa * Nat.pow 2 y.scale)

/-- The double nearest to a whole number. -/
def ofNat (n : Nat) : Option Binary64 := round n 1

/-- Divides by a power of ten in steps of at most `10 ^ 308`. -/
def scaleDown (x : Binary64) (exponent : Nat) : Option Binary64 :=
  if exponent ≤ 308 then (ofNat (Nat.pow 10 exponent)).bind x.div
  else if x.isZero then some x
  else
    (ofNat (Nat.pow 10 308)).bind fun step => (x.div step).bind fun y =>
      scaleDown y (exponent - 308)
termination_by exponent

/-- A double near `significand * 10 ^ exponent`: both factors are rounded, and so is the result.
`none` if it is not finite. -/
def scaled (significand : Nat) (exponent : Int) : Option Binary64 :=
  (ofNat significand).bind fun x =>
    if exponent < 0 then x.scaleDown exponent.natAbs
    else if exponent ≤ 308 then (ofNat (Nat.pow 10 exponent.toNat)).bind x.mul
    else if x.isZero then some x
    else none

/-- The double nearest to `digits * 10 ^ exponent`, `none` if it lies beyond the largest one. A
decimal whose first digit stands 400 places away from the point is beyond the largest double or
below half of the smallest. -/
def ofDecimal (digits : Nat) (exponent : Int) : Option Binary64 :=
  if digits = 0 then some zero
  else
    let lead := (Nat.toDigits 10 digits).length + exponent
    if 400 < lead then none
    else if lead < -400 then some zero
    else if 0 ≤ exponent then round (digits * Nat.pow 10 exponent.toNat) 1
    else round digits (Nat.pow 10 (-exponent).toNat)

end Binary64

end SyntaxOutline
