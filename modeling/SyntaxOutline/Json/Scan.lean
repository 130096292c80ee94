import SyntaxOutline.Json.Failure

/-!
# Words, strings and numbers of a JSON text

Each reader starts behind what tells its kind of value apart: a string behind the opening quote, a
word behind its first letter, a number behind its minus sign.
-/

namespace SyntaxOutline.Json

def isBlank (c : Char) : Bool := c == ' ' || c == '\n' || c == '\t' || c == '\r'

/-- The text without the blanks at its front. -/
def skipBlanks (cs : List Char) : List Char := cs.dropWhile isBlank

/-- Reads the letters of a word. -/
def readWord : List Char → List Char → Except Failure (List Char)
  | [], cs => .ok cs
  | _ :: _, [] => failHere .endOfValue []
  | w :: ws, c :: cs => if c = w then readWord ws cs else failNext .expectedIdent (c :: cs)

/-! ## Strings -/

/-- The four digits of a hexadecimal escape, and what follows them. -/
def hexEscape? : List Char → Option (Nat × List Char)
  | a :: b :: c :: d :: rest => (Text.ofDigits? 16 [a, b, c, d]).map (·, rest)
  | _ => none

/-- Reads the digits of a hexadecimal escape, which are four bytes whatever they hold. -/
def readHexEscape (cs : List Char) : Except Failure (Nat × List Char) :=
  match hexEscape? cs with
  | some found => .ok found
  | none =>
    if Text.utf8Length cs < 4 then .error ⟨.endOfString, 0⟩
    else .error ⟨.invalidEscape, Text.utf8Length cs - 4⟩

/-- The first half of a surrogate pair. -/
def isLeading (n : Nat) : Bool := 0xD800 ≤ n ∧ n ≤ 0xDBFF

/-- The second half of a surrogate pair. -/
def isTrailing (n : Nat) : Bool := 0xDC00 ≤ n ∧ n ≤ 0xDFFF

/-- The character that a surrogate pair stands for. -/
def joinSurrogates (leading trailing : Nat) : Char :=
  Char.ofNat ((leading - 0xD800) * 0x400 + (trailing - 0xDC00) + 0x10000)

/-- Reads the second half of a pair. -/
def readTrailing (leading : Nat) : Reader Char
  | [] => failHere .endOfString []
  | '\\' :: [] => failHere .endOfString []
  | '\\' :: 'u' :: cs => do
    let (trailing, rest) ← readHexEscape cs
    if isTrailing trailing then return (joinSurrogates leading trailing, rest)
    else failHere .loneSurrogate rest
  | '\\' :: cs => failNext .endOfHexEscape cs
  | cs => failNext .endOfHexEscape cs

/-- Reads a hexadecimal escape, or two of them for a character outside the basic plane. -/
def readUnicode (cs : List Char) : Except Failure (Char × List Char) := do
  let (n, rest) ← readHexEscape cs
  if isTrailing n then failHere .loneSurrogate rest
  else if isLeading n then readTrailing n rest
  else return (Char.ofNat n, rest)

/-- The character that a letter behind a backslash stands for. -/
def simpleEscape? : Char → Option Char
  | '"' => some '"'
  | '\\' => some '\\'
  | '/' => some '/'
  | 'b' => some '\x08'
  | 'f' => some '\x0c'
  | 'n' => some '\n'
  | 'r' => some '\r'
  | 't' => some '\t'
  | _ => none

/-- Reads what stands behind a backslash. -/
def readEscape : Reader Char
  | [] => failHere .endOfString []
  | c :: cs =>
    if c = 'u' then readUnicode cs
    else
      match simpleEscape? c with
      | some found => .ok (found, cs)
      | none => failNext .invalidEscape (c :: cs)

/-- Reads the characters of a string up to its closing quote. `fuel` bounds their number. -/
def readChars : Nat → Reader (List Char)
  | 0, cs => failHere .endOfString cs
  | _, [] => failHere .endOfString []
  | fuel + 1, c :: cs =>
    if c = '"' then .ok ([], cs)
    else if c = '\\' then do
      let (found, rest) ← readEscape cs
      let (more, rest) ← readChars fuel rest
      return (found :: more, rest)
    else if c.toNat < 0x20 then failHere .controlCharacter cs
    else do
      let (more, rest) ← readChars fuel cs
      return (c :: more, rest)

/-- Reads a string behind its opening quote; a string has fewer characters than the text. -/
def readString (cs : List Char) : Except Failure (String × List Char) := do
  let (found, rest) ← readChars cs.length cs
  return (String.ofList found, rest)

/-! ## Numbers -/

/-- The value of a decimal digit. -/
def digitValue (c : Char) : Nat := c.toNat - '0'.toNat

/-- Appends decimal digits to a number as long as it stays below `2 ^ 64`: the number, how many
digits were taken, and the rest. -/
def gather (n count : Nat) : List Char → Nat × Nat × List Char
  | [] => (n, count, [])
  | c :: cs =>
    if c.isDigit ∧ n * 10 + digitValue c < UInt64.size then
      gather (n * 10 + digitValue c) (count + 1) cs
    else (n, count, c :: cs)

/-- The number of digits at the front, and what follows them. -/
def countDigits (cs : List Char) : Nat × List Char :=
  ((cs.takeWhile Char.isDigit).length, cs.dropWhile Char.isDigit)

/-- The double of a signed decimal, or the failure behind it. -/
def toFloat (negative : Bool) (significand : Nat) (exponent : Int) (rest : List Char) :
    Except Failure (Number × List Char) :=
  (Binary64.scaled significand exponent).elim (failHere .numberOutOfRange rest) fun x =>
    .ok (.float negative x, rest)

/-- Appends decimal digits to an exponent as long as it stays below `2 ^ 31`; if it does not, the
text behind the digit that passes the bound is on the right. -/
def gatherExponent (n : Nat) : List Char → Except (List Char) (Nat × List Char)
  | [] => .ok (n, [])
  | c :: cs =>
    if c.isDigit then
      if n * 10 + digitValue c < Nat.pow 2 31 then gatherExponent (n * 10 + digitValue c) cs
      else .error cs
    else .ok (n, c :: cs)

/-- Splits the sign off an exponent: whether it is negative, and the rest. -/
def exponentSign : List Char → Bool × List Char
  | '+' :: cs => (false, cs)
  | '-' :: cs => (true, cs)
  | cs => (false, cs)

/-- Reads the exponent of a number behind its mark. An exponent past the bound is out of range,
unless the number is zero or divided. -/
def readExponent (negative : Bool) (significand : Nat) (exponent : Int) (cs : List Char) :
    Except Failure (Number × List Char) :=
  let (down, cs) := exponentSign cs
  match cs with
  | [] => failHere .endOfValue []
  | c :: rest =>
    if c.isDigit then
      match gatherExponent (digitValue c) rest with
      | .ok (n, rest) =>
        toFloat negative significand (if down then exponent - n else exponent + n) rest
      | .error rest =>
        if significand ≠ 0 ∧ !down then failHere .numberOutOfRange rest
        else .ok (.float negative .zero, (countDigits rest).2)
    else failNext .invalidNumber (c :: rest)

def isExponentMark (c : Char) : Bool := c == 'e' || c == 'E'

/-- Reads an exponent if there is one. -/
def readScale (negative : Bool) (significand : Nat) (exponent : Int) :
    List Char → Except Failure (Number × List Char)
  | [] => toFloat negative significand exponent []
  | c :: cs =>
    if isExponentMark c then readExponent negative significand exponent cs
    else toFloat negative significand exponent (c :: cs)

/-- Reads the fraction of a number behind its point. Digits that no longer fit in 64 bits are
dropped. -/
def readFraction (negative : Bool) (significand : Nat) (exponent : Int) (cs : List Char) :
    Except Failure (Number × List Char) :=
  match cs with
  | [] => failNext .endOfValue []
  | c :: rest =>
    if c.isDigit then
      let (n, taken, cs) := gather significand 0 cs
      readScale negative n (exponent - taken) (countDigits cs).2
    else failNext .invalidNumber (c :: rest)

/-- The whole number of a sign and a significand. Zero with a minus sign, and a negative number
below the least 64-bit one, are doubles. -/
def wholeNumber (negative : Bool) (significand : Nat) (rest : List Char) :
    Except Failure (Number × List Char) :=
  if negative = false then .ok (.integer significand, rest)
  else if significand = 0 ∨ Nat.pow 2 63 < significand then toFloat true significand 0 rest
  else .ok (.integer (-significand), rest)

/-- Reads what follows the whole part of a number, of which `dropped` digits did not fit. -/
def readTail (negative : Bool) (significand dropped : Nat) (cs : List Char) :
    Except Failure (Number × List Char) :=
  match cs with
  | [] =>
    if dropped = 0 then wholeNumber negative significand []
    else toFloat negative significand dropped []
  | c :: rest =>
    if c = '.' then readFraction negative significand dropped rest
    else if isExponentMark c then readExponent negative significand dropped rest
    else if dropped = 0 then wholeNumber negative significand (c :: rest)
    else toFloat negative significand dropped (c :: rest)

/-- Reads a number behind its sign. -/
def readNumber (negative : Bool) (cs : List Char) : Except Failure (Number × List Char) :=
  match cs with
  | [] => failHere .endOfValue []
  | c :: rest =>
    if c = '0' then
      match rest with
      | d :: _ => if d.isDigit then failNext .invalidNumber rest else readTail negative 0 0 rest
      | [] => readTail negative 0 0 []
    else if c.isDigit then
      let (n, _, cs) := gather 0 0 cs
      let (dropped, cs) := countDigits cs
      readTail negative n dropped cs
    else failNext .invalidNumber (c :: rest)

end SyntaxOutline.Json
