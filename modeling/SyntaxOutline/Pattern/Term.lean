import SyntaxOutline.Pattern.Basic

/-!
# Written patterns

A pattern as it is written, with the region of the text that each part takes up. What a part means
depends on the flags in force where it stands.
-/

namespace SyntaxOutline.Pattern

/-- A part of a text, by the numbers of characters before its start and before its end. -/
structure Region where
  start : Nat
  stop : Nat
deriving DecidableEq, Repr

/-- What a letter between `(?` and `)` turns on or off. -/
inductive Flag where
  /-- Letters stand for both cases. -/
  | anyCase
  /-- `^` and `$` stand for the ends of lines. -/
  | lines
  /-- `.` stands for a line feed too. -/
  | dotAll
  /-- Repetitions prefer few. -/
  | few
  /-- Classes have characters beyond ASCII. -/
  | unicode
  /-- A carriage return ends a line too. -/
  | anyLineEnd
  /-- Blanks and comments between the parts are skipped. -/
  | loose
deriving DecidableEq, Repr

/-- Flags with whether they are turned on. -/
abbrev FlagChanges := List (Flag × Bool)

/-- A character that stands for itself. -/
structure Literal where
  char : Char
  /-- Whether it is written as the number of a byte. -/
  byte : Bool
  region : Region
deriving DecidableEq, Repr

/-- The classes with a letter of their own. -/
inductive LetterClass where
  | digit
  | blank
  | word
deriving DecidableEq, Repr

/-- A set of characters by name. -/
inductive Query where
  | named (name : String)
  | valued (name value : String)
  /-- The characters that have another value. -/
  | otherValued (name value : String)
deriving DecidableEq, Repr

/-- Whether what is asked for are the characters outside of the set. -/
def Query.isInverse : Query → Bool
  | .otherValued _ _ => true
  | _ => false

inductive SetOperation where
  | inter
  | diff
  | symmDiff
deriving DecidableEq, Repr

/-- A written set of characters. -/
inductive SetTerm where
  | nothing (region : Region)
  | char (l : Literal)
  | range (first last : Literal) (region : Region)
  | listed (set : CharSet) (negated : Bool) (region : Region)
  | letter (kind : LetterClass) (negated : Bool) (region : Region)
  | query (query : Query) (negated : Bool) (region : Region)
  | bracket (negated : Bool) (body : SetTerm) (region : Region)
  | union (items : List SetTerm) (region : Region)
  | combine (operation : SetOperation) (left right : SetTerm) (region : Region)
deriving Repr

def SetTerm.region : SetTerm → Region
  | .nothing region => region
  | .char l => l.region
  | .range _ _ region => region
  | .listed _ _ region => region
  | .letter _ _ region => region
  | .query _ _ region => region
  | .bracket _ _ region => region
  | .union _ region => region
  | .combine _ _ _ region => region

/-- The union of items; `region` is where they are if there are none. -/
def SetTerm.ofItems (region : Region) : List SetTerm → SetTerm
  | [] => .nothing region
  | [item] => item
  | first :: rest =>
    .union (first :: rest) ⟨first.region.start, ((rest.getLast?).getD first).region.stop⟩

/-- A written spot, which may depend on flags. -/
inductive SpotTerm where
  | caret
  | dollar
  | textStart
  | textEnd
  | word (side : WordSide)
deriving DecidableEq, Repr

inductive Term where
  | empty (region : Region)
  | flags (changes : FlagChanges) (region : Region)
  | literal (l : Literal)
  | dot (region : Region)
  | spot (kind : SpotTerm) (region : Region)
  | set (s : SetTerm)
  | times (part : Term) (least : Nat) (most : Option Nat) (few : Bool) (region : Region)
  | group (noted : Bool) (changes : FlagChanges) (part : Term) (region : Region)
  | branches (parts : List Term) (region : Region)
  | sequence (parts : List Term) (region : Region)
deriving Repr

namespace Term

def region : Term → Region
  | .empty region => region
  | .flags _ region => region
  | .literal l => l.region
  | .dot region => region
  | .spot _ region => region
  | .set s => s.region
  | .times _ _ _ _ region => region
  | .group _ _ _ region => region
  | .branches _ region => region
  | .sequence _ region => region

/-- Parts in a row. -/
def ofParts (region : Region) : List Term → Term
  | [] => .empty region
  | [part] => part
  | parts => .sequence parts region

/-- Whether a repetition may follow. -/
def isRepeatable : Term → Bool
  | .empty _ => false
  | .flags _ _ => false
  | _ => true

end Term

/-! ## Depth -/

mutual

/-- The region of the first part of a set that lies more than `room` levels deep. -/
def SetTerm.tooDeep? (room : Nat) : SetTerm → Option Region
  | .bracket _ body region =>
    match room with
    | 0 => some region
    | room + 1 => body.tooDeep? room
  | .union items region =>
    match room with
    | 0 => some region
    | room + 1 => SetTerm.anyTooDeep? room items
  | .combine _ left right region =>
    match room with
    | 0 => some region
    | room + 1 => left.tooDeep? room <|> right.tooDeep? room
  | _ => none

def SetTerm.anyTooDeep? (room : Nat) : List SetTerm → Option Region
  | [] => none
  | item :: items => item.tooDeep? room <|> SetTerm.anyTooDeep? room items

end

mutual

/-- The region of the first part that lies more than `room` levels deep. -/
def Term.tooDeep? (room : Nat) : Term → Option Region
  | .set s => s.tooDeep? room
  | .times part _ _ _ region =>
    match room with
    | 0 => some region
    | room + 1 => part.tooDeep? room
  | .group _ _ part region =>
    match room with
    | 0 => some region
    | room + 1 => part.tooDeep? room
  | .branches parts region =>
    match room with
    | 0 => some region
    | room + 1 => Term.anyTooDeep? room parts
  | .sequence parts region =>
    match room with
    | 0 => some region
    | room + 1 => Term.anyTooDeep? room parts
  | _ => none

def Term.anyTooDeep? (room : Nat) : List Term → Option Region
  | [] => none
  | part :: parts => part.tooDeep? room <|> Term.anyTooDeep? room parts

end

end SyntaxOutline.Pattern
