import SyntaxOutline.Text.CharSet

/-!
# The bytes of sets of characters

In UTF-8 the characters of a range are those whose first byte runs through a range, and so does the
second, and so on, once the range is cut into parts for which this is true.

* `CharSet.byteRanges` : the ranges of bytes for a whole set.
-/

namespace SyntaxOutline.CharSet

/-- The bytes of the character with the given number. -/
def bytes (n : Nat) : List Nat :=
  if n < 0x80 then [n]
  else if n < 0x800 then [0xC0 + n / 64, 0x80 + n % 64]
  else if n < 0x10000 then [0xE0 + n / 4096, 0x80 + n / 64 % 64, 0x80 + n % 64]
  else [0xF0 + n / 262144, 0x80 + n / 4096 % 64, 0x80 + n / 64 % 64, 0x80 + n % 64]

/-- Where the range from `a` to `b` must be cut, given by the last number in front of the cut, so
that each of its bytes runs through a range: between numbers of different lengths, and between
blocks of numbers that share their first bytes. -/
def cut? (a b : Nat) : Option Nat :=
  let lengths := [0x7F, 0x7FF, 0xFFFF].find? fun top => a ≤ top && top < b
  let blocks := [64, 4096, 262144].findSome? fun size =>
    if a / size = b / size then none
    else if a % size ≠ 0 then some (a / size * size + size - 1)
    else if b % size ≠ size - 1 then some (b / size * size - 1)
    else none
  lengths <|> if b ≤ 0x7F then none else blocks

/-- The ranges of the first, second, … byte of the characters from `a` to `b`, one list for each
part after cutting. The numbers between `0xD800` and `0xDFFF` are no characters. `fuel` bounds the
number of cuts in a row. -/
def cutRanges : Nat → Nat → Nat → List (List (Nat × Nat))
  | 0, _, _ => []
  | fuel + 1, a, b =>
    if a < 0xE000 ∧ 0xD7FF < b then cutRanges fuel a 0xD7FF ++ cutRanges fuel 0xE000 b
    else if b < a then []
    else
      match cut? a b with
      | some last => cutRanges fuel a last ++ cutRanges fuel (last + 1) b
      | none => [(bytes a).zip (bytes b)]

def byteRanges (s : CharSet) : List (List (Nat × Nat)) :=
  s.ranges.flatMap fun (a, b) => cutRanges 64 a b

/-- Whether all characters of the set are ASCII. -/
def isAscii (s : CharSet) : Bool := s.ranges.all fun (_, b) => b < 0x80

end SyntaxOutline.CharSet
