import SyntaxOutline.Number.Shortest
import SyntaxOutline.Text.Utf8

/-!
# TOML values

A value and a key know the region of the text they were written in, and a table knows how it came
about, because that decides what may be added to it.
-/

namespace SyntaxOutline.Toml

/-- A stretch of a text. Both ends count the bytes from there to the end of the text. -/
structure Region where
  start : Nat
  stop : Nat
deriving DecidableEq, Repr, Inhabited

/-- The region from the front of `cs` to the front of `rest`. -/
def Region.upTo (cs rest : List Char) : Region := ⟨Text.utf8Length cs, Text.utf8Length rest⟩

/-- Something written in a region. -/
structure Located (α : Type) where
  region : Region
  value : α

/-- A key and its value. -/
structure Entry (α : Type) where
  key : String
  keyRegion : Region
  region : Region
  value : α

/-- How a table came about. -/
inductive Origin where
  /-- By a header of its own. -/
  | header
  /-- By the header of a table inside it. -/
  | implied
  /-- By a dotted key. -/
  | dotted
  /-- Between braces. -/
  | inline
deriving DecidableEq, Repr

inductive Value where
  | string (s : String)
  | integer (i : Int)
  | float (x : Double)
  /-- A decimal beyond the largest double. -/
  | overflow (negative : Bool)
  | boolean (b : Bool)
  | datetime (text : String)
  /-- A list; a list of tables made by headers can be added to. -/
  | array (extensible : Bool) (items : List (Located Value))
  | table (origin : Origin) (entries : List (Entry Value))

/-- The entries of a table. -/
abbrev Entries := List (Entry Value)

/-- What kind of value it is. -/
def Value.typeName : Value → String
  | .string _ => "string"
  | .integer _ => "integer"
  | .float _ => "float"
  | .overflow _ => "float"
  | .boolean _ => "boolean"
  | .datetime _ => "datetime"
  | .array .. => "array"
  | .table .. => "table"

/-! ## Numbers in range

A number may be written with any count of digits. Which numbers are in range is asked in two ways:
every document can be read whose numbers are common, and a value that is taken without regard to its
type may be a little larger.
-/

/-- A range of numbers: the bits of whole numbers without and with a minus sign. Decimals are in
range unless they overflow. -/
structure NumberRange where
  bits : Nat
  negativeBits : Nat

namespace NumberRange

/-- Whole numbers of 64 bits with a sign. -/
def common : NumberRange := ⟨63, 63⟩

/-- Whole numbers of 128 bits with or without a sign. -/
def wide : NumberRange := ⟨128, 127⟩

mutual

/-- Whether all numbers in a value are in range. -/
def holds (r : NumberRange) : Value → Bool
  | .integer i => -Nat.pow 2 r.negativeBits ≤ i && i < Nat.pow 2 r.bits
  | .overflow _ => false
  | .array _ items => r.holdsItems items
  | .table _ entries => r.holdsEntries entries
  | _ => true

def holdsItems (r : NumberRange) : List (Located Value) → Bool
  | [] => true
  | ⟨_, value⟩ :: items => r.holds value && r.holdsItems items

def holdsEntries (r : NumberRange) : List (Entry Value) → Bool
  | [] => true
  | ⟨_, _, _, value⟩ :: entries => r.holds value && r.holdsEntries entries

end

end NumberRange

/-! ## Tables -/

namespace Entries

def get? (entries : Entries) (key : String) : Option (Entry Value) :=
  entries.find? (·.key == key)

/-- Puts an entry in place of the one with its key. -/
def replace (entries : Entries) (entry : Entry Value) : Entries :=
  entries.map fun e => if e.key == entry.key then entry else e

end Entries

end SyntaxOutline.Toml
