import SyntaxOutline.Toml.Scalar
import SyntaxOutline.Toml.Scan

/-!
# TOML documents

A document is read line by line into the entries of its root table. Dotted keys and headers make the
tables they pass through; a table is made once only:

* a key is given a value once;
* a header opens a table that is new, or that was only implied by headers before;
* a dotted key adds to a table made by dotted keys, and passes through those and implied ones;
* nothing is added to an inline table or to a list between brackets.

Main statements: `Entries.insert` and `Entries.within` are these rules, `ofText?` reads a document.
-/

namespace SyntaxOutline.Toml

/-! ## Adding to tables -/

/-- Changes the last table of a list of tables. -/
def changeLast (change : Entries → Except Cause Entries) (refused : Cause) :
    List (Located Value) → Except Cause (List (Located Value))
  | [] => .error refused
  | [⟨region, .table origin entries⟩] => do return [⟨region, .table origin (← change entries)⟩]
  | [_] => .error refused
  | item :: items => do return item :: (← changeLast change refused items)

namespace Entries

/-- Adds a key and its value, which must be new. -/
def addNew (entries : Entries) (key : Key) (value : Located Value) : Except Cause Entries :=
  match entries.get? key.name with
  | some _ => .error (.duplicateKey key.name)
  | none => .ok (entries ++ [⟨key.name, key.region, value.region, value.value⟩])

/-- Adds a value under a dotted key. -/
def insert : List Key → Key → Located Value → Entries → Except Cause Entries
  | [], key, value, entries => entries.addNew key value
  | part :: path, key, value, entries =>
    match entries.get? part.name with
    | none => do
      let inner ← insert path key value []
      return entries ++ [⟨part.name, part.region, part.region, .table .dotted inner⟩]
    | some entry =>
      match entry.value with
      | .table origin inner =>
        if origin = .dotted ∨ (origin = .implied ∧ path.length ≠ 0) then do
          let inner ← insert path key value inner
          return entries.replace { entry with value := .table origin inner }
        else .error (.duplicateKey part.name)
      | .array true items =>
        if path.length = 0 then .error (.duplicateKey part.name)
        else do
          let items ← changeLast (insert path key value) (.duplicateKey part.name) items
          return entries.replace { entry with value := .array true items }
      | _ => .error (.duplicateKey part.name)

/-- Changes the table that a path of headers leads to: into the last table where it meets a list of
tables, making implied tables where it meets nothing. -/
def within (change : Entries → Except Cause Entries) : List Key → Entries → Except Cause Entries
  | [], entries => change entries
  | part :: path, entries =>
    match entries.get? part.name with
    | none => do
      let inner ← within change path []
      return entries ++ [⟨part.name, part.region, part.region, .table .implied inner⟩]
    | some entry =>
      match entry.value with
      | .table origin inner =>
        if origin = .inline then .error (.duplicateKey part.name)
        else do
          return entries.replace { entry with value := .table origin (← within change path inner) }
      | .array true items => do
        let items ← changeLast (within change path) (.duplicateKey part.name) items
        return entries.replace { entry with value := .array true items }
      | _ => .error (.duplicateKey part.name)

/-- Opens the table of a header. -/
def openTable (key : Key) (region : Region) (entries : Entries) : Except Cause Entries :=
  match entries.get? key.name with
  | none => .ok (entries ++ [⟨key.name, key.region, region, .table .header []⟩])
  | some entry =>
    match entry.value with
    | .table .implied inner =>
      .ok (entries.replace ⟨key.name, key.region, region, .table .header inner⟩)
    | _ => .error (.duplicateKey key.name)

/-- Opens a further table in the list of tables of a header. -/
def openItem (key : Key) (region : Region) (entries : Entries) : Except Cause Entries :=
  match entries.get? key.name with
  | none =>
    .ok (entries ++ [⟨key.name, key.region, region, .array true [⟨region, .table .header []⟩]⟩])
  | some entry =>
    match entry.value with
    | .array true items =>
      let items := items ++ [⟨region, .table .header []⟩]
      .ok (entries.replace { entry with value := .array true items })
    | _ => .error (.duplicateKey key.name)

end Entries

/-! ## Values -/

/-- Takes a result of the table rules over into a reader at `rest`. -/
def settle {α : Type} (result : Except Cause α) (rest : List Char) : Except Failure α :=
  match result with
  | .ok value => .ok value
  | .error cause => fail cause rest

/-- Reads the values of an array behind its bracket; `fuel` bounds their number. -/
def readItems (value : Reader (Located Value)) : Nat → Reader (List (Located Value))
  | 0, cs => fail .unclosedArray cs
  | fuel + 1, cs => do
    match ← skipGap cs with
    | [] => fail .unclosedArray []
    | ']' :: rest => return ([], rest)
    | cs =>
      let (item, rest) ← value cs
      match ← skipGap rest with
      | ',' :: rest =>
        let (items, rest) ← readItems value fuel rest
        return (item :: items, rest)
      | ']' :: rest => return ([item], rest)
      | [] => fail .unclosedArray []
      | rest => fail .expectedComma rest

/-- Reads a key, an equals sign and a value, and adds them to the entries. Lines may end before and
behind the equals sign. -/
def readEntry (value : Reader (Located Value)) (entries : Entries) : Reader Entries := fun cs => do
  let ((path, key), rest) ← readDotted cs
  match ← skipGap rest with
  | '=' :: rest =>
    let (found, rest) ← value (← skipGap rest)
    return (← settle (entries.insert path key found) cs, rest)
  | rest => fail .expectedEquals rest

/-- Reads the entries of an inline table behind its brace; `fuel` bounds their number. -/
def readEntries (value : Reader (Located Value)) : Nat → Entries → Reader Entries
  | 0, _, cs => fail .unclosedTable cs
  | fuel + 1, entries, cs => do
    match ← skipGap cs with
    | [] => fail .unclosedTable []
    | '\x7d' :: rest => return (entries, rest)
    | cs =>
      let (entries, rest) ← readEntry value entries cs
      match ← skipGap rest with
      | ',' :: rest => readEntries value fuel entries rest
      | '\x7d' :: rest => return (entries, rest)
      | [] => fail .unclosedTable []
      | rest => fail .expectedComma rest

/-- How deep arrays and inline tables may be nested. -/
def maxRoom : Nat := 80

/-- Reads a value in which no more brackets than `room` are open at once. -/
def readValue : Nat → Reader (Located Value)
  | room, cs => do
    let (value, rest) ← match cs, room with
      | '"' :: rest, _ => do
        let (s, rest) ← readString '"' rest
        pure (Value.string s, rest)
      | '\'' :: rest, _ => do
        let (s, rest) ← readString '\'' rest
        pure (Value.string s, rest)
      | '[' :: _, 0 => fail .tooDeep cs
      | '\x7b' :: _, 0 => fail .tooDeep cs
      | '[' :: rest, room + 1 => do
        let (items, rest) ← readItems (readValue room) (rest.length + 1) rest
        pure (Value.array false items, rest)
      | '\x7b' :: rest, room + 1 => do
        let (entries, rest) ← readEntries (readValue room) (rest.length + 1) [] rest
        pure (Value.table .inline entries, rest)
      | cs, _ => readScalar cs
    return (⟨.upTo cs rest, value⟩, rest)

/-! ## Lines -/

/-- A header: its path, its last key, and whether it is of a list of tables. -/
structure Header where
  path : List Key
  key : Key
  isItem : Bool
  region : Region

/-- Reads a header. -/
def readHeader (cs : List Char) : Except Failure (Header × List Char) := do
  match cs with
  | '[' :: '[' :: rest =>
    let ((path, key), rest) ← readDotted (skipSpaces rest)
    match skipSpaces rest with
    | ']' :: ']' :: rest => return (⟨path, key, true, .upTo cs rest⟩, rest)
    | rest => fail .unclosedHeader rest
  | _ =>
    let ((path, key), rest) ← readDotted (skipSpaces (cs.drop 1))
    match skipSpaces rest with
    | ']' :: rest => return (⟨path, key, false, .upTo cs rest⟩, rest)
    | rest => fail .unclosedHeader rest

/-- Reads the lines of a document under the header that is open, adding to the entries; every line
reads something, so `fuel` is enough if it is the length of the text. -/
def readLines : Nat → List Key → Entries → List Char → Except Failure Entries
  | 0, _, entries, _ => .ok entries
  | fuel + 1, current, entries, cs => do
    match ← skipGap cs with
    | [] => return entries
    | '[' :: rest =>
      let line := '[' :: rest
      let (header, rest) ← readHeader line
      let change := if header.isItem then Entries.openItem else Entries.openTable
      let entries ← settle (entries.within (change header.key header.region) header.path) line
      let rest ← readLineEnd rest
      readLines fuel (header.path ++ [header.key]) entries rest
    | line =>
      let ((path, key), rest) ← readDotted line
      match skipSpaces rest with
      | '=' :: rest =>
        let (value, rest) ← readValue maxRoom (skipSpaces rest)
        let entries ← settle (entries.within (Entries.insert path key value) current) line
        let rest ← readLineEnd rest
        readLines fuel current entries rest
      | rest => fail .expectedEquals rest

/-- The entries of the document that a text holds. A byte order mark in front is skipped. -/
def ofText? (text : String) : Except Failure Entries :=
  let cs := text.toList
  let body := match cs with
    | '\ufeff' :: rest => rest
    | cs => cs
  readLines (body.length + 1) [] [] body

/-- Whether a text is TOML in which all numbers are common. -/
def isCommon (text : String) : Bool :=
  match ofText? text with
  | .ok entries => NumberRange.common.holdsEntries entries
  | .error _ => false

end SyntaxOutline.Toml
