import SyntaxOutline.Mismatch
import SyntaxOutline.Toml.Value

/-!
# Taking values out of a TOML document

A value of another shape than wanted is reported with the region it was written in. A record is
taken from a table, whose keys are visited in alphabetical order, or from an array of its fields in
their own order; what is missing keeps its initial value. Other keys of a table are ignored if their
numbers are in range, and what is left over of an array is not looked at.
-/

namespace SyntaxOutline.Toml

/-- Why a value was refused. -/
inductive Objection where
  | shape (mismatch : Mismatch)
  | wantedStringOrTable
  | wantedOneElement
  | wantedOnlyOneElement
  | wantedEmptyTable
  | wantedEmptyArray
  | wantedTable (found : String)
  | numberOutOfRange
deriving DecidableEq, Repr

def Objection.message : Objection → String
  | .shape mismatch => mismatch.message .full
  | .wantedStringOrTable => "wanted string or table"
  | .wantedOneElement => "wanted exactly 1 element, found 0 elements"
  | .wantedOnlyOneElement => "wanted exactly 1 element, more than 1 element"
  | .wantedEmptyTable => "expected empty table"
  | .wantedEmptyArray => "expected empty array"
  | .wantedTable found => s!"expected table, found {found}"
  | .numberOutOfRange => "number out of range"

/-- An objection, and where the value was written. -/
structure Misfit where
  region : Region
  objection : Objection
deriving DecidableEq, Repr

/-- A decoder takes something from a value written in a region. -/
abbrev Decoder (α : Type) := Region → Value → Except Misfit α

/-- The value as it is named in a report. A date counts as a map. -/
def Value.found : Value → Found
  | .string s => .text s
  | .integer i => .integer i
  | .float x => .float x
  | .overflow negative => .float (.infinite negative)
  | .boolean b => .boolean b
  | .datetime _ => .map
  | .array .. => .sequence
  | .table .. => .map

/-- Refuses a value of another type. -/
def refuse {α : Type} (expected : String) : Decoder α := fun region value =>
  .error ⟨region, .shape (.type value.found expected)⟩

/-- A truth value. -/
def flag : Decoder Bool
  | _, .boolean b => .ok b
  | region, value => refuse "a boolean" region value

/-- A whole number of 64 bits. -/
def word : Decoder UInt64
  | region, .integer i =>
    if 0 ≤ i ∧ i < UInt64.size then .ok (UInt64.ofNat i.toNat)
    else .error ⟨region, .shape (.value (.integer i) "usize")⟩
  | region, value => refuse "usize" region value

/-! ## Records -/

/-- A field of a record of type `σ`: its name, and how a value is put in its place. -/
structure Field (σ : Type) where
  name : String
  put : Decoder (σ → σ)

/-- A field that takes its value with the given decoder. -/
def Field.of {σ α : Type} (name : String) (decoder : Decoder α) (put : α → σ → σ) : Field σ where
  name
  put region value := (decoder region value).map put

/-- How a record of type `σ` is taken from a value. -/
structure Record (σ : Type) where
  /-- The record as it is named in reports. -/
  title : String
  initial : σ
  /-- The fields in their own order. -/
  fields : List (Field σ)
  /-- The fields in alphabetical order. -/
  sorted : List (Field σ)

namespace Record

variable {σ : Type}

/-- The first entry of another key with a number that is out of range. -/
def outOfRange? (r : Record σ) (entries : Entries) : Option (Entry Value) :=
  entries.find? fun entry =>
    !(r.fields.any (·.name == entry.key)) && !(NumberRange.wide.holds entry.value)

/-- Takes the fields from a table. -/
def ofEntries (r : Record σ) (entries : Entries) : Except Misfit σ := do
  let record ← r.sorted.foldlM
    (fun record field =>
      match entries.get? field.name with
      | some entry => (field.put entry.region entry.value).map (· record)
      | none => .ok record)
    r.initial
  match r.outOfRange? entries with
  | some entry => .error ⟨entry.region, .numberOutOfRange⟩
  | none => return record

/-- Takes the fields from the values of an array. -/
def ofItems (r : Record σ) (items : List (Located Value)) : Except Misfit σ :=
  (r.fields.zip items).foldlM
    (fun record (field, item) => (field.put item.region item.value).map (· record))
    r.initial

/-- Takes the record from a value. A date counts as a map of other keys. -/
def decode (r : Record σ) : Decoder σ
  | _, .table _ entries => r.ofEntries entries
  | _, .array _ items => r.ofItems items
  | _, .datetime _ => .ok r.initial
  | region, value => refuse r.title region value

end Record

/-! ## Choices -/

/-- A choice among names: the name, or a table of one key with that name and an empty table. -/
def variant {α : Type} (ofName? : String → Option α) (names : List String) : Decoder α
  | region, .string s =>
    match ofName? s with
    | some a => .ok a
    | none => .error ⟨region, .shape (.unknownVariant s names)⟩
  | region, .table _ [] => .error ⟨region, .wantedOneElement⟩
  | _, .table _ [entry] =>
    match ofName? entry.key, entry.value with
    | none, _ => .error ⟨entry.keyRegion, .shape (.unknownVariant entry.key names)⟩
    | some a, .table _ [] => .ok a
    | some _, .table _ (_ :: _) => .error ⟨entry.region, .wantedEmptyTable⟩
    | some a, .array _ [] => .ok a
    | some _, .array _ (_ :: _) => .error ⟨entry.region, .wantedEmptyArray⟩
    | some _, value => .error ⟨entry.region, .wantedTable value.typeName⟩
  | region, .table .. => .error ⟨region, .wantedOnlyOneElement⟩
  | region, _ => .error ⟨region, .wantedStringOrTable⟩

end SyntaxOutline.Toml
