import SyntaxOutline.Number.Shortest

/-!
# JSON values and their text

* `Json.compact` : the text without blanks.
* `Json.pretty` : the text with one member or element a line, indented by two spaces a level.

Both write the same escapes: quote, backslash and the characters below U+0020; every other character
stands for itself.
-/

namespace SyntaxOutline

/-- Decimals from `1e-5` up to `1e16` are written in full, and of two equally near ones the even one
is taken. -/
def Json.floatLayout : DecimalLayout := ⟨fun lead => -5 ≤ lead ∧ lead ≤ 15, .even⟩

/-- A number: a whole number, or a double where the text has a fraction, an exponent or more digits
than 64 bits hold. -/
inductive Json.Number where
  | integer (i : Int)
  | float (negative : Bool) (magnitude : Binary64)
deriving DecidableEq, Repr

/-- A JSON value; the members of an object keep their order, and names may repeat. -/
inductive Json where
  | null
  | bool (b : Bool)
  | number (n : Json.Number)
  | string (s : String)
  | array (items : List Json)
  | object (members : List (String × Json))

namespace Json

/-- The JSON value of a word. -/
def word (n : UInt64) : Json := .number (.integer n.toNat)

def Number.render : Number → List Char
  | .integer i => (toString i).toList
  | .float negative magnitude => (floatLayout.render negative magnitude).toList

/-! ## Strings -/

/-- A digit of base sixteen, in lower case. -/
def hexChar (n : Nat) : Char := Nat.digitChar (n % 16)

/-- How a character is written inside a string. -/
def escapeChar (c : Char) : List Char :=
  if c = '"' then ['\\', '"']
  else if c = '\\' then ['\\', '\\']
  else if c = '\x08' then ['\\', 'b']
  else if c = '\x0c' then ['\\', 'f']
  else if c = '\n' then ['\\', 'n']
  else if c = '\r' then ['\\', 'r']
  else if c = '\t' then ['\\', 't']
  else if c.toNat < 0x20 then ['\\', 'u', '0', '0', hexChar (c.toNat / 16), hexChar c.toNat]
  else [c]

/-- The string literal of a text. -/
def quote (s : String) : List Char :=
  '"' :: s.toList.flatMap escapeChar ++ ['"']

/-! ## Compact text -/

mutual

def compactChars : Json → List Char
  | .null => ['n', 'u', 'l', 'l']
  | .bool true => ['t', 'r', 'u', 'e']
  | .bool false => ['f', 'a', 'l', 's', 'e']
  | .number n => n.render
  | .string s => quote s
  | .array [] => ['[', ']']
  | .array (item :: items) => '[' :: compactChars item ++ compactItems items
  | .object [] => ['\x7b', '\x7d']
  | .object ((name, value) :: members) =>
    '\x7b' :: quote name ++ ':' :: compactChars value ++ compactMembers members

/-- The elements after the first one, and the closing bracket. -/
def compactItems : List Json → List Char
  | [] => [']']
  | item :: items => ',' :: compactChars item ++ compactItems items

/-- The members after the first one, and the closing brace. -/
def compactMembers : List (String × Json) → List Char
  | [] => ['\x7d']
  | (name, value) :: members =>
    ',' :: quote name ++ ':' :: compactChars value ++ compactMembers members

end

/-- The text without blanks. -/
def compact (v : Json) : String := String.ofList v.compactChars

/-! ## Indented text -/

/-- A new line at the given level. -/
def newLine (level : Nat) : List Char := '\n' :: List.replicate (2 * level) ' '

mutual

def prettyChars (level : Nat) : Json → List Char
  | .null => ['n', 'u', 'l', 'l']
  | .bool true => ['t', 'r', 'u', 'e']
  | .bool false => ['f', 'a', 'l', 's', 'e']
  | .number n => n.render
  | .string s => quote s
  | .array [] => ['[', ']']
  | .array (item :: items) =>
    '[' :: newLine (level + 1) ++ prettyChars (level + 1) item ++ prettyItems level items
  | .object [] => ['\x7b', '\x7d']
  | .object ((name, value) :: members) =>
    '\x7b' :: newLine (level + 1) ++ quote name ++ ':' :: ' ' :: prettyChars (level + 1) value
      ++ prettyMembers level members

/-- The elements after the first one of a list at the given level, and the closing bracket. -/
def prettyItems (level : Nat) : List Json → List Char
  | [] => newLine level ++ [']']
  | item :: items =>
    ',' :: newLine (level + 1) ++ prettyChars (level + 1) item ++ prettyItems level items

/-- The members after the first one of an object at the given level, and the closing brace. -/
def prettyMembers (level : Nat) : List (String × Json) → List Char
  | [] => newLine level ++ ['\x7d']
  | (name, value) :: members =>
    ',' :: newLine (level + 1) ++ quote name ++ ':' :: ' ' :: prettyChars (level + 1) value
      ++ prettyMembers level members

end

/-- The text with one member or element a line. -/
def pretty (v : Json) : String := String.ofList (v.prettyChars 0)

end Json

end SyntaxOutline
