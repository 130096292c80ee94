import SyntaxOutline.Outline.Basic
import SyntaxOutline.Walk.Failure

/-!
# Outlines in JSON

A node is an object of its content, the start and length of its span, its kind if it has one, and
its children. Reading takes the members in any order and ignores others, but keeps every member that
is not content, kind or children until the object ends, because the span is taken from among them.

* `Outline.toJson` and its texts `Outline.compact`, `Outline.pretty`.
* `Outline.ofJson?` : the outline that a text holds; `Outline.ofText?` reports on the text if it
  holds none.
-/

namespace SyntaxOutline.Outline

mutual

/-- The JSON value of an outline. -/
def toJson : Outline → Json
  | ⟨content, span, kind, children⟩ =>
    .object (("Content", .string content) :: span.members
      ++ (match kind with
        | some k => [("Kind", .string k)]
        | none => [])
      ++ [("Children", .array (toJsons children))])

def toJsons : List Outline → List Json
  | [] => []
  | o :: os => o.toJson :: toJsons os

end

/-- The outline as JSON without blanks. -/
def compact (o : Outline) : String := o.toJson.compact

/-- The outline as indented JSON. -/
def pretty (o : Outline) : String := o.toJson.pretty

/-- The compact JSON of what a walk gives. -/
def compactOf (walked : Except WalkFailure Outline) : Except OutlineFailure String :=
  (walked.mapError .walk).map compact

/-! ## Reading -/

/-- The members of a node read so far. -/
structure Members where
  content : Option String := none
  kind : Option (Option String) := none
  children : Option (List Outline) := none
  /-- Every other member, in order. -/
  others : List (String × Json) := []

/-- The word that a member holds, or why it holds none. -/
def wordOf : Json → Except Mismatch UInt64
  | .null => .error (.type .null "usize")
  | .bool b => .error (.type (.boolean b) "usize")
  | .number n => n.toWord
  | .string s => .error (.type (.text s) "usize")
  | .array _ => .error (.type .sequence "usize")
  | .object _ => .error (.type .map "usize")

/-- Takes start and length from the other members of a node, each of which must occur once. -/
def spanOf : Option UInt64 → Option UInt64 → List (String × Json) → Except Mismatch Span
  | none, _, [] => .error (.missingField "Start")
  | some _, none, [] => .error (.missingField "Length")
  | some start, some length, [] => .ok ⟨start, length⟩
  | start, length, (name, value) :: members =>
    if name = "Start" then
      if start.isSome then .error (.duplicateField "Start")
      else do spanOf (some (← wordOf value)) length members
    else if name = "Length" then
      if length.isSome then .error (.duplicateField "Length")
      else do spanOf start (some (← wordOf value)) members
    else spanOf start length members

/-- The node that the members make up. -/
def ofMembers (m : Members) : Except Mismatch Outline :=
  match m.content with
  | none => .error (.missingField "Content")
  | some content => do
    let span ← spanOf none none m.others
    return ⟨content, span, m.kind.getD none, m.children.getD []⟩

/-- Reads a member of a node behind its name, with the readers for its children and for members of
other names. -/
def readMember (readChildren : Json.Reader (List Outline)) (readOther : Json.Reader Json)
    (m : Members) (name : String) : Json.Reader Members := fun cs =>
  if name = "Content" then
    if m.content.isSome then Json.failInObject (.duplicateField name) cs
    else do
      let (content, rest) ← Json.readText (← Json.readColon cs)
      return ({ m with content := some content }, rest)
  else if name = "Kind" then
    if m.kind.isSome then Json.failInObject (.duplicateField name) cs
    else do
      let (kind, rest) ← Json.readOptional Json.readText (← Json.readColon cs)
      return ({ m with kind := some kind }, rest)
  else if name = "Children" then
    if m.children.isSome then Json.failInObject (.duplicateField name) cs
    else do
      let (children, rest) ← readChildren (← Json.readColon cs)
      return ({ m with children := some children }, rest)
  else do
    let (value, rest) ← readOther (← Json.readColon cs)
    return ({ m with others := m.others ++ [(name, value)] }, rest)

/-- Reads a node behind its opening brace. -/
def readBody (readChildren : Json.Reader (List Outline)) (readOther : Json.Reader Json) :
    Json.Reader Outline := fun cs => do
  let (members, rest) ←
    Json.readMembers (readMember readChildren readOther) (cs.length + 1) true {} cs
  match ofMembers members with
  | .ok o => return (o, rest)
  | .error reason => Json.failHere (.shape reason) rest

/-- Reads the list of children if no bracket may be opened any more. -/
def refuseList (cs : List Char) : Except Json.Failure (List Outline × List Char) :=
  match Json.skipBlanks cs with
  | [] => Json.failHere .endOfValue []
  | '[' :: rest => Json.failNext .tooDeep ('[' :: rest)
  | cs => Json.mismatch "a sequence" cs

/-- Reads a list of children, each with the given reader. -/
def readList (child : Json.Reader Outline) (cs : List Char) :
    Except Json.Failure (List Outline × List Char) :=
  match Json.skipBlanks cs with
  | [] => Json.failHere .endOfValue []
  | '[' :: rest => Json.readItems child (rest.length + 1) true rest
  | cs => Json.mismatch "a sequence" cs

/-- How a node is named in reports. -/
def title : String := "struct VisualizationNode"

/-- Reads a node in which no more brackets than `room` are open at once. -/
def readNode : Nat → Json.Reader Outline
  | room, cs =>
    match Json.skipBlanks cs, room with
    | [], _ => Json.failHere .endOfValue []
    | '\x7b' :: rest, 0 => Json.failNext .tooDeep ('\x7b' :: rest)
    | '\x7b' :: rest, 1 => readBody refuseList (Json.readValue 0) rest
    | '\x7b' :: rest, room + 2 =>
      readBody (readList (readNode room)) (Json.readValue (room + 1)) rest
    | cs, _ => Json.mismatch title cs

/-- The outline that a JSON text holds. -/
def ofJson? (text : String) : Except Json.Failure Outline :=
  Json.readWhole (readNode Json.maxRoom) text

/-- The outline that a JSON text holds, with a failure that knows the text. -/
def ofText? (text : String) : Except OutlineFailure Outline :=
  (ofJson? text).mapError (.json · text)

end SyntaxOutline.Outline
