import SyntaxOutline.Toml.Value

/-!
# Why a TOML text cannot be read
-/

namespace SyntaxOutline.Toml

inductive Cause where
  | expectedKey
  | expectedEquals
  | expectedValue
  | expectedLineEnd
  | expectedComma
  | unclosedHeader
  | unclosedString
  | unclosedArray
  | unclosedTable
  | invalidCharacter
  | invalidEscape
  | duplicateKey (key : String)
  | tooDeep
deriving DecidableEq, Repr

def Cause.message : Cause → String
  | .expectedKey => "key expected"
  | .expectedEquals => "`=` expected behind a key"
  | .expectedValue => "value expected"
  | .expectedLineEnd => "line end expected"
  | .expectedComma => "`,` expected between values"
  | .unclosedHeader => "table header is not closed"
  | .unclosedString => "string is not closed"
  | .unclosedArray => "array is not closed"
  | .unclosedTable => "inline table is not closed"
  | .invalidCharacter => "invalid character"
  | .invalidEscape => "invalid escape"
  | .duplicateKey key => s!"duplicate key `{key}`"
  | .tooDeep => "keys or values are nested too deeply"

/-- A cause, and how many bytes of the text were unread when it was found. -/
structure Failure where
  cause : Cause
  unread : Nat
deriving DecidableEq, Repr

/-- A reader takes a value from the front of a text and leaves the rest. -/
abbrev Reader (α : Type) := List Char → Except Failure (α × List Char)

/-- Fails in front of `rest`. -/
def fail {α : Type} (cause : Cause) (rest : List Char) : Except Failure α :=
  .error ⟨cause, Text.utf8Length rest⟩

end SyntaxOutline.Toml
