import SyntaxOutline.Json.Value
import SyntaxOutline.Mismatch
import SyntaxOutline.Text.Utf8

/-!
# Why a JSON text cannot be read

A failure carries its cause and the number of bytes that were still unread, from which line and
column follow once the whole text is known.
-/

namespace SyntaxOutline.Json

/-- What is wrong with a text. -/
inductive Cause where
  | endOfValue
  | endOfString
  | endOfObject
  | endOfList
  | expectedColon
  | expectedCommaOrBrace
  | expectedCommaOrBracket
  | expectedIdent
  | expectedValue
  | keyNotString
  | trailingComma
  | trailingCharacters
  | invalidNumber
  | numberOutOfRange
  | invalidEscape
  | endOfHexEscape
  | loneSurrogate
  | controlCharacter
  | tooDeep
  /-- A value of another shape than the reader wants. -/
  | shape (mismatch : Mismatch)
deriving DecidableEq, Repr

def Cause.message : Cause → String
  | .endOfValue => "EOF while parsing a value"
  | .endOfString => "EOF while parsing a string"
  | .endOfObject => "EOF while parsing an object"
  | .endOfList => "EOF while parsing a list"
  | .expectedColon => "expected `:`"
  | .expectedCommaOrBrace => "expected `,` or `\x7d`"
  | .expectedCommaOrBracket => "expected `,` or `]`"
  | .expectedIdent => "expected ident"
  | .expectedValue => "expected value"
  | .keyNotString => "key must be a string"
  | .trailingComma => "trailing comma"
  | .trailingCharacters => "trailing characters"
  | .invalidNumber => "invalid number"
  | .numberOutOfRange => "number out of range"
  | .invalidEscape => "invalid escape"
  | .endOfHexEscape => "unexpected end of hex escape"
  | .loneSurrogate => "lone leading surrogate in hex escape"
  | .controlCharacter => "control character (\\u0000-\\u001F) found while parsing a string"
  | .tooDeep => "recursion limit exceeded"
  | .shape mismatch => mismatch.message floatLayout

/-- A cause, and how many bytes of the text were unread when it was found. -/
structure Failure where
  cause : Cause
  unread : Nat
deriving DecidableEq, Repr

/-- A reader takes a value from the front of a text and leaves the rest. -/
abbrev Reader (α : Type) := List Char → Except Failure (α × List Char)

/-- Fails at the end of what was read. -/
def failHere {α : Type} (cause : Cause) (rest : List Char) : Except Failure α :=
  .error ⟨cause, Text.utf8Length rest⟩

/-- Fails at the byte that comes next, counting it as read. -/
def failNext {α : Type} (cause : Cause) (rest : List Char) : Except Failure α :=
  .error ⟨cause, Text.utf8Length rest - 1⟩

/-- A place in a text: the line counted from one, and the bytes of that line up to the place. -/
structure Position where
  line : Nat
  column : Nat
deriving DecidableEq, Repr

/-- The place after `count` bytes of a text, reached from `place`. -/
def Position.advance (place : Position) : Nat → List Char → Position
  | _, [] => place
  | 0, _ :: _ => place
  | count + 1, c :: cs =>
    if c = '\n' then Position.advance ⟨place.line + 1, 0⟩ count cs
    else if c.utf8Size ≤ count + 1 then
      Position.advance ⟨place.line, place.column + c.utf8Size⟩ (count + 1 - c.utf8Size) cs
    else ⟨place.line, place.column + (count + 1)⟩

/-- Where in the text the failure is. -/
def Failure.position (failure : Failure) (text : List Char) : Position :=
  Position.advance ⟨1, 0⟩ (Text.utf8Length text - failure.unread) text

/-- The cause and its place in the text. -/
def Failure.message (failure : Failure) (text : String) : String :=
  let place := failure.position text.toList
  failure.cause.message ++ s!" at line {place.line} column {place.column}"

end SyntaxOutline.Json
