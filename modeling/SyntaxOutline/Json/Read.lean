import SyntaxOutline.Json.Scan

/-!
# Reading JSON values

Readers for the elements of a list and the members of an object take the reader of one element as an
argument, and the readers of nested values recurse on the room that is left: the number of brackets
that may still be opened.

* `readItems`, `readMembers` : the inside of a list and of an object.
* `readValue` : any value.
* `mismatch` : the report on a value of the wrong type.
* `readWhole` : a text that holds one value and nothing else.
-/

namespace SyntaxOutline.Json

/-- The number of brackets that may be open at once. -/
def maxRoom : Nat := 127

/-! ## Lists and objects -/

/-- What comes next inside a bracket. -/
inductive Next where
  /-- The closing bracket, with the text behind it. -/
  | close (rest : List Char)
  /-- An element, with the text it is read from: for a member, the text behind the quote that opens
  its name. -/
  | enter (rest : List Char)

/-- Finds the next element of a list. -/
def nextItem (first : Bool) (cs : List Char) : Except Failure Next :=
  match skipBlanks cs with
  | [] => failHere .endOfList []
  | c :: cs =>
    if c = ']' then .ok (.close cs)
    else if first then .ok (.enter (c :: cs))
    else if c = ',' then
      match skipBlanks cs with
      | [] => failHere .endOfValue []
      | d :: ds => if d = ']' then failNext .trailingComma (d :: ds) else .ok (.enter (d :: ds))
    else failNext .expectedCommaOrBracket (c :: cs)

/-- Reads the elements of a list behind its opening bracket. A list has fewer elements than
characters, so `fuel` is enough if it is the length of the text. -/
def readItems {α : Type} (item : Reader α) : Nat → Bool → Reader (List α)
  | 0, _, cs => failHere .endOfList cs
  | fuel + 1, first, cs => do
    match ← nextItem first cs with
    | .close rest => return ([], rest)
    | .enter cs =>
      let (value, rest) ← item cs
      let (values, rest) ← readItems item fuel false rest
      return (value :: values, rest)

/-- Finds the next member of an object. -/
def nextMember (first : Bool) (cs : List Char) : Except Failure Next :=
  match skipBlanks cs with
  | [] => failHere .endOfObject []
  | c :: cs =>
    if c = '\x7d' then .ok (.close cs)
    else if first then
      if c = '"' then .ok (.enter cs) else failNext .keyNotString (c :: cs)
    else if c = ',' then
      match skipBlanks cs with
      | [] => failHere .endOfValue []
      | d :: ds =>
        if d = '"' then .ok (.enter ds)
        else if d = '\x7d' then failNext .trailingComma (d :: ds)
        else failNext .keyNotString (d :: ds)
    else failNext .expectedCommaOrBrace (c :: cs)

/-- Reads the colon between the name and the value of a member. -/
def readColon (cs : List Char) : Except Failure (List Char) :=
  match skipBlanks cs with
  | [] => failHere .endOfObject []
  | c :: cs => if c = ':' then .ok cs else failNext .expectedColon (c :: cs)

/-- Reads the members of an object behind its opening brace, updating a state by each of them;
`member` starts behind the name. An object has fewer members than characters, so `fuel` is enough if
it is the length of the text. -/
def readMembers {σ : Type} (member : σ → String → Reader σ) : Nat → Bool → σ → Reader σ
  | 0, _, _, cs => failHere .endOfObject cs
  | fuel + 1, first, state, cs => do
    match ← nextMember first cs with
    | .close rest => return (state, rest)
    | .enter cs =>
      let (name, rest) ← readString cs
      let (state, rest) ← member state name rest
      readMembers member fuel false state rest

/-! ## Scalars -/

/-- The report on the value at the front of a text, where another type was wanted. A list or an
object is reported in front of its bracket, every other value behind it. -/
def mismatch {α : Type} (expected : String) (cs : List Char) : Except Failure α :=
  match cs with
  | [] => failHere .expectedValue []
  | c :: rest =>
    if c = 'n' then do
      failHere (.shape (.type .null expected)) (← readWord ['u', 'l', 'l'] rest)
    else if c = 't' then do
      failHere (.shape (.type (.boolean true) expected)) (← readWord ['r', 'u', 'e'] rest)
    else if c = 'f' then do
      failHere (.shape (.type (.boolean false) expected)) (← readWord ['a', 'l', 's', 'e'] rest)
    else if c = '"' then do
      let (s, rest) ← readString rest
      failHere (.shape (.type (.text s) expected)) rest
    else if c = '[' then failHere (.shape (.type .sequence expected)) cs
    else if c = '\x7b' then failHere (.shape (.type .map expected)) cs
    else if c = '-' ∨ c.isDigit then do
      let (numeral, rest) ← if c = '-' then readNumber true rest else readNumber false cs
      failHere (.shape (.type (found numeral) expected)) rest
    else failNext .expectedValue cs
where
  /-- The number as it is named in a report. -/
  found : Number → Found
    | .integer i => .integer i
    | .float negative magnitude => .float (.finite negative magnitude)

/-- Reads a string. -/
def readText (cs : List Char) : Except Failure (String × List Char) :=
  match skipBlanks cs with
  | [] => failHere .endOfValue []
  | c :: cs => if c = '"' then readString cs else mismatch "a string" (c :: cs)

/-- Reads `true` or `false`. -/
def readFlag (cs : List Char) : Except Failure (Bool × List Char) :=
  match skipBlanks cs with
  | [] => failHere .endOfValue []
  | c :: cs =>
    if c = 't' then do return (true, ← readWord ['r', 'u', 'e'] cs)
    else if c = 'f' then do return (false, ← readWord ['a', 'l', 's', 'e'] cs)
    else mismatch "a boolean" (c :: cs)

/-- The word that a number is, or why it is none. -/
def Number.toWord : Number → Except Mismatch UInt64
  | .integer i =>
    if 0 ≤ i ∧ i < UInt64.size then .ok (UInt64.ofNat i.toNat)
    else .error (.value (.integer i) "usize")
  | .float negative magnitude => .error (.type (.float (.finite negative magnitude)) "usize")

/-- Reads a word: a whole number of 64 bits. -/
def readWordValue (cs : List Char) : Except Failure (UInt64 × List Char) :=
  match skipBlanks cs with
  | [] => failHere .endOfValue []
  | c :: cs =>
    if c = '-' ∨ c.isDigit then do
      let (numeral, rest) ← if c = '-' then readNumber true cs else readNumber false (c :: cs)
      match numeral.toWord with
      | .ok n => return (n, rest)
      | .error reason => failHere (.shape reason) rest
    else mismatch "usize" (c :: cs)

/-- Reads `null` as nothing and anything else with the given reader. -/
def readOptional {α : Type} (reader : Reader α) (cs : List Char) :
    Except Failure (Option α × List Char) :=
  match skipBlanks cs with
  | 'n' :: cs => do return (none, ← readWord ['u', 'l', 'l'] cs)
  | cs => do
    let (value, rest) ← reader cs
    return (some value, rest)

/-! ## Any value -/

/-- Reads a value that is neither a list nor an object. -/
def readScalar : Reader Json
  | [] => failHere .endOfValue []
  | c :: cs =>
    if c = 'n' then do return (.null, ← readWord ['u', 'l', 'l'] cs)
    else if c = 't' then do return (.bool true, ← readWord ['r', 'u', 'e'] cs)
    else if c = 'f' then do return (.bool false, ← readWord ['a', 'l', 's', 'e'] cs)
    else if c = '-' then do
      let (numeral, rest) ← readNumber true cs
      return (.number numeral, rest)
    else if c.isDigit then do
      let (numeral, rest) ← readNumber false (c :: cs)
      return (.number numeral, rest)
    else if c = '"' then do
      let (s, rest) ← readString cs
      return (.string s, rest)
    else failNext .expectedValue (c :: cs)

/-- Reads the value of a member behind its name and adds it to the members read so far. -/
def readPair (value : Reader Json) (members : List (String × Json)) (name : String) :
    Reader (List (String × Json)) := fun cs => do
  let (found, rest) ← value (← readColon cs)
  return (members ++ [(name, found)], rest)

/-- Reads a value in which no more brackets than `room` are open at once. -/
def readValue : Nat → Reader Json
  | 0, cs =>
    match skipBlanks cs with
    | '[' :: rest => failNext .tooDeep ('[' :: rest)
    | '\x7b' :: rest => failNext .tooDeep ('\x7b' :: rest)
    | cs => readScalar cs
  | room + 1, cs =>
    match skipBlanks cs with
    | '[' :: rest => do
      let (items, rest) ← readItems (readValue room) (rest.length + 1) true rest
      return (.array items, rest)
    | '\x7b' :: rest => do
      let (members, rest) ← readMembers (readPair (readValue room)) (rest.length + 1) true [] rest
      return (.object members, rest)
    | cs => readScalar cs

/-! ## Whole texts -/

/-- Reads a text that holds one value and nothing else. -/
def readWhole {α : Type} (reader : Reader α) (text : String) : Except Failure α := do
  let (value, rest) ← reader text.toList
  match skipBlanks rest with
  | [] => return value
  | c :: cs => failNext .trailingCharacters (c :: cs)

end SyntaxOutline.Json
