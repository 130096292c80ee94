import SyntaxOutline.Number.Binary64

/-!
# The shortest decimal of a double

Among the decimals that round to a double, the one with the fewest digits stands for it, and among
those the nearest. A `DecimalLayout` says which of two equally near ones is taken, and how the
digits are laid out.

* `Binary64.shortest` : digits and exponent of that decimal.
* `DecimalLayout.render` : its text.
-/

namespace SyntaxOutline

namespace Binary64

/-- Whether `d * 10 ^ p` (with `p` split into the powers `up / down` of ten) rounds to `x`: it lies
between the midpoints to the neighbours of `x`, which belong to `x` when its mantissa is even.
All three numbers are counted in quarters of the unit of `x`. -/
def hits (x : Binary64) (d up down : Nat) : Bool :=
  let below :=
    if x.mantissa = Nat.pow 2 52 ∧ 0 < x.scale then 4 * x.mantissa - 1 else 4 * x.mantissa - 2
  let above := 4 * x.mantissa + 2
  let unit := Nat.pow 2 x.scale * down
  let value := 4 * d * up * Nat.pow 2 1074
  if x.mantissa % 2 = 0 then below * unit ≤ value ∧ value ≤ above * unit
  else below * unit < value ∧ value < above * unit

/-- The exponent of the leading decimal digit of a positive number `num / den`. -/
def leadExponent (num den : Nat) : Int :=
  if den ≤ num then (Nat.toDigits 10 (num / den)).length - 1
  else -(((List.range 400).find? fun k => den ≤ num * Nat.pow 10 k).getD 400 : Int)

/-- The closest `digits * 10 ^ exponent` to `x` from the grid of the given exponent, if it rounds to
`x`. -/
def onGrid? (tie : Tie) (x : Binary64) (exponent : Int) : Option Nat :=
  let up := Nat.pow 10 exponent.toNat
  let down := Nat.pow 10 (-exponent).toNat
  let num := x.mantissa * Nat.pow 2 x.scale * down
  let den := Nat.pow 2 1074 * up
  let low := num / den
  match x.hits low up down, x.hits (low + 1) up down with
  | true, true => some (Binary64.roundDiv tie num den)
  | true, false => some low
  | false, true => some (low + 1)
  | false, false => none

/-- Divides out powers of ten. `fuel` bounds their number. -/
def trimZeros : Nat → Nat → Int → Nat × Int
  | 0, d, p => (d, p)
  | fuel + 1, d, p => if d ≠ 0 ∧ d % 10 = 0 then trimZeros fuel (d / 10) (p + 1) else (d, p)

/-- The decimal `d * 10 ^ p` with the fewest digits that rounds to `x`, as the pair of `d` and `p`;
seventeen digits always suffice. -/
def shortest (tie : Tie) (x : Binary64) : Nat × Int :=
  if x.isZero then (0, 0)
  else
    let lead := leadExponent (x.mantissa * Nat.pow 2 x.scale) (Nat.pow 2 1074)
    let found := (List.range 17).findSome? fun (n : Nat) =>
      (x.onGrid? tie (lead - n)).map fun d => (d, lead - (n : Int))
    match found with
    | some (d, p) => trimZeros 20 d p
    | none => (0, 0)

end Binary64

/-- How a double is written. A decimal is written out in full or not by the exponent of its leading
digit; if not, it has one digit before the point and a signed exponent after `e`. -/
structure DecimalLayout where
  inFull : Int → Bool
  /-- Which of two equally near decimals is taken. -/
  tie : Tie

namespace DecimalLayout

/-- Every number in full, the larger of two equally near ones. -/
def full : DecimalLayout := ⟨fun _ => true, .up⟩

/-- The text of `d * 10 ^ p`; a whole number written in full keeps one zero after the point. -/
def digits (layout : DecimalLayout) (d : Nat) (p : Int) : String :=
  let ds := Nat.toDigits 10 d
  let lead := p + ds.length - 1
  let chars :=
    if layout.inFull lead then
      if 0 ≤ p then ds ++ List.replicate p.toNat '0' ++ ['.', '0']
      else if 0 ≤ lead then ds.take (lead.toNat + 1) ++ '.' :: ds.drop (lead.toNat + 1)
      else '0' :: '.' :: List.replicate (-lead - 1).toNat '0' ++ ds
    else
      let tail := if ds.length ≤ 1 then [] else '.' :: ds.drop 1
      let sign := if lead < 0 then '-' else '+'
      ds.take 1 ++ tail ++ 'e' :: sign :: Nat.toDigits 10 lead.natAbs
  String.ofList chars

/-- The text of a signed double. -/
def render (layout : DecimalLayout) (negative : Bool) (x : Binary64) : String :=
  let (d, p) := x.shortest layout.tie
  (if negative then "-" else "") ++ layout.digits d p

end DecimalLayout

/-- A double of any kind. -/
inductive Double where
  | finite (negative : Bool) (magnitude : Binary64)
  | infinite (negative : Bool)
  | notANumber
deriving DecidableEq, Repr

/-- The text of a double: the shortest decimal, or the name of the special value. -/
def Double.render (layout : DecimalLayout) : Double → String
  | .finite negative magnitude => layout.render negative magnitude
  | .infinite negative => if negative then "-inf" else "inf"
  | .notANumber => "NaN"

end SyntaxOutline
