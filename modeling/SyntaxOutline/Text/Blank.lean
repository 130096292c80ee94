/-!
# Blanks

The characters that count as white space, texts without those at their ends, and the words between
them.
-/

namespace SyntaxOutline.Text

/-- The first and last members of the ranges of blanks. -/
def blankRanges : List (Nat × Nat) := [
  (0x9, 0xd), (0x20, 0x20), (0x85, 0x85), (0xa0, 0xa0), (0x1680, 0x1680), (0x2000, 0x200a),
  (0x2028, 0x2029), (0x202f, 0x202f), (0x205f, 0x205f), (0x3000, 0x3000)]

def isBlank (c : Char) : Bool :=
  blankRanges.any fun (first, last) => first ≤ c.toNat && c.toNat ≤ last

/-- The text without the blanks at its ends. -/
def trim (s : String) : String :=
  String.ofList ((s.toList.dropWhile isBlank).reverse.dropWhile isBlank).reverse

/-- The words of a text, with blanks between them. -/
def words (s : String) : List String :=
  ((s.map fun c => if isBlank c then ' ' else c).splitOn " ").filter (· ≠ "")

end SyntaxOutline.Text
