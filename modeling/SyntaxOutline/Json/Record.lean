import SyntaxOutline.Json.Read
import SyntaxOutline.Json.Skip

/-!
# Records in JSON

A record is read from an object of its fields in any order, or from a list of its fields in their
own order. Members with other names are skipped. A record whose fields are required must have all of
them; otherwise what is missing keeps its initial value.
-/

namespace SyntaxOutline.Json

/-- A field of a record of type `σ`: its name, and how its value is read into the record. The reader
is told how many brackets it may open. -/
structure Field (σ : Type) where
  name : String
  read : Nat → Reader (σ → σ)

/-- A field whose value is read on its own and then put in place. -/
def Field.of {σ α : Type} (name : String) (read : Nat → Reader α) (put : α → σ → σ) : Field σ where
  name
  read room cs := do
    let (value, rest) ← read room cs
    return (put value, rest)

/-- How a record of type `σ` is read. -/
structure Record (σ : Type) where
  /-- The record as it is named in reports. -/
  title : String
  initial : σ
  fields : List (Field σ)
  required : Bool

/-- Fails with a report on an object whose inside was read up to `cs`. The report stands behind the
blanks that follow, and behind the closing brace if it comes next. -/
def failInObject {α : Type} (reason : Mismatch) (cs : List Char) : Except Failure α :=
  match skipBlanks cs with
  | '\x7d' :: rest => failHere (.shape reason) rest
  | rest => failHere (.shape reason) rest

namespace Record

variable {σ : Type}

/-- What has been read of a record: the record so far, and the names of the fields found. -/
structure Progress (σ : Type) where
  record : σ
  seen : List String

/-- Reads a member behind its name. -/
def member (r : Record σ) (room : Nat) (progress : Progress σ) (name : String) :
    Reader (Progress σ) := fun cs =>
  match r.fields.find? (·.name == name) with
  | none => do
    let rest ← skipValue (← readColon cs)
    return (progress, rest)
  | some field =>
    if name ∈ progress.seen then failInObject (.duplicateField name) cs
    else do
      let (update, rest) ← field.read room (← readColon cs)
      return (⟨update progress.record, name :: progress.seen⟩, rest)

/-- Reads an object behind its opening brace. -/
def readObject (r : Record σ) (room : Nat) : Reader σ := fun cs => do
  let (progress, rest) ← readMembers (r.member room) (cs.length + 1) true ⟨r.initial, []⟩ cs
  match r.fields.find? fun field => r.required && !progress.seen.contains field.name with
  | some field => failHere (.shape (.missingField field.name)) rest
  | none => return (progress.record, rest)

/-- Reads the closing bracket of a list whose elements have all been read. -/
def closeList (cs : List Char) : Except Failure (List Char) :=
  match skipBlanks cs with
  | [] => failHere .endOfList []
  | c :: cs =>
    if c = ']' then .ok cs
    else if c = ',' then
      match skipBlanks cs with
      | ']' :: rest => failNext .trailingComma (']' :: rest)
      | rest => failNext .trailingCharacters rest
    else failNext .trailingCharacters (c :: cs)

/-- Reads the fields of a list in their order; `count` of them have been read before. -/
def readFields (r : Record σ) (room : Nat) : List (Field σ) → Nat → σ → Reader σ
  | [], _, record, cs => do return (record, ← closeList cs)
  | field :: fields, count, record, cs => do
    match ← nextItem (count == 0) cs with
    | .close rest =>
      if r.required then
        let wanted := r.title ++ s!" with {r.fields.length} elements"
        failHere (.shape (.length count wanted)) rest
      else return (record, rest)
    | .enter cs =>
      let (update, rest) ← field.read room cs
      readFields r room fields (count + 1) (update record) rest

/-- Reads a record. -/
def read (r : Record σ) (room : Nat) : Reader σ := fun cs =>
  match skipBlanks cs, room with
  | [], _ => failHere .endOfValue []
  | '[' :: cs, 0 => failNext .tooDeep ('[' :: cs)
  | '[' :: cs, room + 1 => r.readFields room r.fields 0 r.initial cs
  | '\x7b' :: cs, 0 => failNext .tooDeep ('\x7b' :: cs)
  | '\x7b' :: cs, room + 1 => r.readObject room cs
  | cs, _ => mismatch r.title cs

end Record

end SyntaxOutline.Json
