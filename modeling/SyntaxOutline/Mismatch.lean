import SyntaxOutline.Number.Shortest
import SyntaxOutline.Text.Quoted

/-!
# Values of another shape than expected

A reader that knows which shape of value it wants reports what it found instead. The causes are the
same for every notation; the layout of decimals in the texts is the notation's own.
-/

namespace SyntaxOutline

/-- A value as it is named in a report. -/
inductive Found where
  | null
  | boolean (b : Bool)
  | integer (i : Int)
  | float (x : Double)
  | text (s : String)
  | sequence
  | map
deriving DecidableEq, Repr

def Found.describe (layout : DecimalLayout) : Found → String
  | .null => "null"
  | .boolean b => s!"boolean `{b}`"
  | .integer i => s!"integer `{i}`"
  | .float x => "floating point `" ++ x.render layout ++ "`"
  | .text s => "string " ++ Text.quoted s
  | .sequence => "sequence"
  | .map => "map"

/-- Why a value was refused. -/
inductive Mismatch where
  /-- A value of another type. -/
  | type (found : Found) (expected : String)
  /-- A value of the right type, outside the range. -/
  | value (found : Found) (expected : String)
  /-- A list that ends too early. -/
  | length (count : Nat) (expected : String)
  | missingField (name : String)
  | duplicateField (name : String)
  /-- A name that is none of the known ones. -/
  | unknownVariant (name : String) (known : List String)
deriving DecidableEq, Repr

namespace Mismatch

/-- The known names as a choice. -/
def choice : List String → String
  | [] => "there are no variants"
  | [a] => s!"expected `{a}`"
  | [a, b] => s!"expected `{a}` or `{b}`"
  | names => "expected one of " ++ ", ".intercalate (names.map fun n => s!"`{n}`")

def message (layout : DecimalLayout) : Mismatch → String
  | .type found expected => "invalid type: " ++ found.describe layout ++ ", expected " ++ expected
  | .value found expected => "invalid value: " ++ found.describe layout ++ ", expected " ++ expected
  | .length count expected => s!"invalid length {count}, expected {expected}"
  | .missingField name => s!"missing field `{name}`"
  | .duplicateField name => s!"duplicate field `{name}`"
  | .unknownVariant name known => s!"unknown variant `{name}`, " ++ choice known

end Mismatch

end SyntaxOutline
