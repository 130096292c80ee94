/-!
# Texts measured in bytes

A text is a list of characters; offsets into it count the bytes of its UTF-8 form. This module has
the length of a text in that measure and the cuts that fall between two characters.
-/

namespace SyntaxOutline.Text

/-- The number of bytes of the UTF-8 form. -/
def utf8Length : List Char → Nat
  | [] => 0
  | c :: cs => c.utf8Size + utf8Length cs

/-- What follows the first `n` bytes; `none` if they end inside a character or past the end. -/
def dropBytes : Nat → List Char → Option (List Char)
  | 0, cs => some cs
  | _ + 1, [] => none
  | n + 1, c :: cs => if c.utf8Size ≤ n + 1 then dropBytes (n + 1 - c.utf8Size) cs else none

/-- The first `n` bytes; `none` if they end inside a character or past the end. -/
def takeBytes : Nat → List Char → Option (List Char)
  | 0, _ => some []
  | _ + 1, [] => none
  | n + 1, c :: cs =>
    if c.utf8Size ≤ n + 1 then (takeBytes (n + 1 - c.utf8Size) cs).map (c :: ·) else none

/-- The bytes from offset `start` up to offset `stop`; `none` unless `start ≤ stop` and both are
character boundaries of the text. -/
def slice? (text : List Char) (start stop : Nat) : Option (List Char) :=
  if start ≤ stop then (dropBytes start text).bind (takeBytes (stop - start)) else none

/-- The value of a hexadecimal digit of either case. -/
def hexDigit? (c : Char) : Option Nat :=
  if c.isDigit then some (c.toNat - '0'.toNat)
  else if 'a' ≤ c ∧ c ≤ 'f' then some (c.toNat - 'a'.toNat + 10)
  else if 'A' ≤ c ∧ c ≤ 'F' then some (c.toNat - 'A'.toNat + 10)
  else none

/-- The number that a list of digits of the given base writes; `none` at a character that is not a
digit of that base. -/
def ofDigits? (base : Nat) : List Char → Option Nat :=
  List.foldl
    (fun acc c => acc.bind fun n => (hexDigit? c).bind fun d =>
      if d < base then some (n * base + d) else none)
    (some 0)

/-- The character with the given number; `none` for a surrogate or a number past the last one. -/
def scalar? (n : Nat) : Option Char :=
  if n.isValidChar then some (Char.ofNat n) else none

end SyntaxOutline.Text
