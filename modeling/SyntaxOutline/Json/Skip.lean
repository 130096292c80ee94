import SyntaxOutline.Json.Scan

/-!
# Skipping a JSON value

A value that nobody wants is checked for its grammar only: escapes need not name characters, numbers
may be of any size, and brackets may nest to any depth, which is why the open ones are kept on a
list.
-/

namespace SyntaxOutline.Json

/-- Skips what stands behind a backslash. -/
def skipEscape : List Char → Except Failure (List Char)
  | [] => failHere .endOfString []
  | c :: cs =>
    if c = 'u' then (readHexEscape cs).map (·.2)
    else if (simpleEscape? c).isSome then .ok cs
    else failNext .invalidEscape (c :: cs)

/-- Skips the characters of a string and its closing quote. `fuel` bounds their number. -/
def skipChars : Nat → List Char → Except Failure (List Char)
  | 0, cs => failHere .endOfString cs
  | _, [] => failHere .endOfString []
  | fuel + 1, c :: cs =>
    if c = '"' then .ok cs
    else if c = '\\' then do skipChars fuel (← skipEscape cs)
    else if c.toNat < 0x20 then failHere .controlCharacter (c :: cs)
    else skipChars fuel cs

/-- Skips a string behind its opening quote. -/
def skipString (cs : List Char) : Except Failure (List Char) := skipChars cs.length cs

/-- Skips an exponent behind its mark. -/
def skipExponent (cs : List Char) : Except Failure (List Char) :=
  match (exponentSign cs).2 with
  | [] => failHere .invalidNumber []
  | c :: rest => if c.isDigit then .ok (countDigits rest).2 else failNext .invalidNumber (c :: rest)

/-- Skips an exponent if there is one. -/
def skipScale : List Char → Except Failure (List Char)
  | [] => .ok []
  | c :: cs => if isExponentMark c then skipExponent cs else .ok (c :: cs)

/-- Skips what follows the whole part of a number. -/
def skipTail : List Char → Except Failure (List Char)
  | [] => .ok []
  | c :: cs =>
    if c = '.' then
      let (digits, rest) := countDigits cs
      if digits = 0 then failNext .invalidNumber rest else skipScale rest
    else skipScale (c :: cs)

/-- Skips a number behind its sign. -/
def skipNumber : List Char → Except Failure (List Char)
  | [] => failHere .invalidNumber []
  | c :: cs =>
    if c = '0' then
      match cs with
      | d :: _ => if d.isDigit then failNext .invalidNumber cs else skipTail cs
      | [] => .ok []
    else if c.isDigit then skipTail (countDigits cs).2
    else failNext .invalidNumber (c :: cs)

/-- An open bracket. -/
inductive Bracket where
  | square
  | curly
deriving DecidableEq, Repr

namespace Bracket

def close : Bracket → Char
  | .square => ']'
  | .curly => '\x7d'

/-- The text ends while the bracket is open. -/
def unclosed : Bracket → Cause
  | .square => .endOfList
  | .curly => .endOfObject

/-- An element is followed by neither a comma nor the closing bracket. -/
def unseparated : Bracket → Cause
  | .square => .expectedCommaOrBracket
  | .curly => .expectedCommaOrBrace

end Bracket

/-- Skips what precedes a value inside a bracket: nothing in a list, the name and colon of a member
in an object. -/
def skipName : Bracket → List Char → Except Failure (List Char)
  | .square, cs => .ok cs
  | .curly, cs =>
    match skipBlanks cs with
    | [] => failHere .endOfObject []
    | c :: cs =>
      if c = '"' then do
        match skipBlanks (← skipString cs) with
        | [] => failHere .endOfObject []
        | c :: cs => if c = ':' then .ok cs else failNext .expectedColon (c :: cs)
      else failNext .keyNotString (c :: cs)

/-- Where a skipping reader stands. -/
inductive SkipState where
  /-- Before a value. -/
  | value
  /-- Behind an opening bracket. -/
  | opened
  /-- Behind a value. -/
  | passed

/-- Skips a value that is neither a list nor an object. -/
def skipScalar : List Char → Except Failure (List Char)
  | [] => failHere .endOfValue []
  | c :: cs =>
    if c = 'n' then readWord ['u', 'l', 'l'] cs
    else if c = 't' then readWord ['r', 'u', 'e'] cs
    else if c = 'f' then readWord ['a', 'l', 's', 'e'] cs
    else if c = '-' then skipNumber cs
    else if c.isDigit then skipNumber (c :: cs)
    else if c = '"' then skipString cs
    else failNext .expectedValue (c :: cs)

/-- Skips on from a state, with the open brackets, the innermost first. Every step but the one
behind an opening bracket reads something, so `fuel` is enough if it is twice the length of the
text. -/
def skipFrom : Nat → SkipState → List Bracket → List Char → Except Failure (List Char)
  | 0, _, _, cs => failHere .endOfValue cs
  | fuel + 1, .value, brackets, cs =>
    match skipBlanks cs with
    | '[' :: cs => skipFrom fuel .opened (.square :: brackets) cs
    | '\x7b' :: cs => skipFrom fuel .opened (.curly :: brackets) cs
    | cs => do skipFrom fuel .passed brackets (← skipScalar cs)
  | _ + 1, .opened, [], cs => .ok cs
  | fuel + 1, .opened, bracket :: brackets, cs =>
    match skipBlanks cs with
    | [] => failHere bracket.unclosed []
    | c :: cs =>
      if c = bracket.close then skipFrom fuel .passed brackets cs
      else do skipFrom fuel .value (bracket :: brackets) (← skipName bracket (c :: cs))
  | _ + 1, .passed, [], cs => .ok cs
  | fuel + 1, .passed, bracket :: brackets, cs =>
    match skipBlanks cs with
    | [] => failHere bracket.unclosed []
    | c :: cs =>
      if c = ',' then do skipFrom fuel .value (bracket :: brackets) (← skipName bracket cs)
      else if c = bracket.close then skipFrom fuel .passed brackets cs
      else failNext bracket.unseparated (c :: cs)

theorem skipFrom_passed_nil (fuel : Nat) (cs : List Char) :
    skipFrom (fuel + 1) .passed [] cs = .ok cs := by
  rw [skipFrom]

/-- Skips a value of any depth. -/
def skipValue (cs : List Char) : Except Failure (List Char) :=
  skipFrom (2 * cs.length + 2) .value [] cs

end SyntaxOutline.Json
