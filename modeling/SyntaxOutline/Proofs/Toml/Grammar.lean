import Mathlib.Data.Bool.AllAny
import Mathlib.Data.List.Infix
import SyntaxOutline.Proofs.Json.Grammar
import SyntaxOutline.Toml.Value

/-!
# The grammar of TOML

A document is described as it is written, with its blanks, comments, quotes and underscores, and
`Document.text` is the text of it. Nothing here is read, so that a text is valid or not whatever the
reader makes of it.

* `Literal`, `DottedKey`, `Number`, `Datetime` : strings, keys, numbers, dates and times.
* `Tree` : values.
* `Command.Fits`, `Contents` : which headers and keys may follow one another, and what a document
  gives to its keys.
* `Document` : whole documents. A valid one is `Document.Consistent`, and one that keeps to the
  limits of the reader is `Document.Bounded`.
-/

namespace SyntaxOutline.Toml

/-! ## Blanks and comments -/

/-- Blanks inside a line. -/
structure Spaces where
  chars : List Char
  blank : ∀ c ∈ chars, c = ' ' ∨ c = '\t'

def Spaces.none : Spaces := ⟨[], by simp⟩

def Spaces.one : Spaces := ⟨[' '], by simp⟩

inductive LineEnd where
  | feed
  | returnFeed

def LineEnd.text : LineEnd → List Char
  | .feed => ['\n']
  | .returnFeed => ['\r', '\n']

/-- The character stands for itself in comments and strings: a tab, or no control character. -/
def IsPrinted (c : Char) : Prop := c = '\t' ∨ 0x20 ≤ c.toNat ∧ c.toNat ≠ 0x7F

instance (c : Char) : Decidable (IsPrinted c) := inferInstanceAs (Decidable (_ ∨ _))

structure Comment where
  chars : List Char
  printed : ∀ c ∈ chars, IsPrinted c

/-- What may follow on a line: blanks, and perhaps a comment. -/
structure Tail where
  spaces : Spaces := .none
  comment : Option Comment := none

def Tail.text (t : Tail) : List Char :=
  t.spaces.chars ++ t.comment.elim [] fun comment => '#' :: comment.chars

/-- Lines with nothing but a comment, and blanks in front of what follows them. -/
structure Gap where
  lines : List (Tail × LineEnd) := []
  spaces : Spaces := .none

def Gap.text (g : Gap) : List Char :=
  (g.lines.flatMap fun line => line.1.text ++ line.2.text) ++ g.spaces.chars

/-! ## Digits -/

/-- A digit; those above nine are letters of either case. -/
structure Digit (base : Nat) where
  value : Fin base
  capital : Bool := false

namespace Digit

variable {base : Nat}

def char (d : Digit base) : Char :=
  if d.capital then (Nat.digitChar d.value).toUpper else Nat.digitChar d.value

/-- The number that digits write. -/
def number (ds : List (Digit base)) : Nat := ds.foldl (fun n d => n * base + d.value) 0

end Digit

/-- The digits of a number. Single underscores may stand between them. -/
structure Digits (base : Nat) where
  first : Digit base
  /-- The other digits, and whether there is an underscore in front of each. -/
  others : List (Bool × Digit base) := []

namespace Digits

variable {base : Nat}

def othersText (others : List (Bool × Digit base)) : List Char :=
  others.flatMap fun other => if other.1 then ['_', other.2.char] else [other.2.char]

def text (ds : Digits base) : List Char := ds.first.char :: othersText ds.others

def list (ds : Digits base) : List (Digit base) := ds.first :: ds.others.map Prod.snd

def number (ds : Digits base) : Nat := Digit.number ds.list

/-- No zero stands in front of other digits. -/
def NoLeadingZero (ds : Digits base) : Prop := ds.first.value.val = 0 → ds.others = []

end Digits

/-! ## Strings -/

inductive Quote where
  | double
  | single

def Quote.char : Quote → Char
  | .double => '"'
  | .single => '\''

/-- The letters that stand behind a backslash, each with the character it stands for. -/
def escapes : List (Char × Char) :=
  [('b', '\x08'), ('t', '\t'), ('n', '\n'), ('f', '\x0c'), ('r', '\r'), ('e', '\x1b'), ('"', '"'),
    ('\\', '\\')]

/-- The letters behind a backslash that are followed by the number of a character, each with the
count of its digits. -/
def codeWidths : List (Char × Nat) := [('x', 2), ('u', 4), ('U', 8)]

inductive Escape where
  | named (letter c : Char) (names : (letter, c) ∈ escapes)
  | code (letter : Char) (digits : List (Digit 16)) (c : Char)
      (width : (letter, digits.length) ∈ codeWidths) (writes : Digit.number digits = c.toNat)

namespace Escape

/-- The escape behind its backslash. -/
def body : Escape → List Char
  | .named letter .. => [letter]
  | .code letter digits .. => letter :: digits.map Digit.char

def char : Escape → Char
  | .named _ c _ => c
  | .code _ _ c .. => c

end Escape

/-- A piece of a string: a character that stands for itself, or an escape, which there is between
double quotes only. -/
inductive Piece (q : Quote) where
  | plain (c : Char) (printed : IsPrinted c) (ne : c ≠ q.char) (noSlash : q = .double → c ≠ '\\')
  | escape (e : Escape) (double : q = .double)

namespace Piece

variable {q : Quote}

def text : Piece q → List Char
  | .plain c .. => [c]
  | .escape e _ => '\\' :: e.body

def char : Piece q → Char
  | .plain c .. => c
  | .escape e _ => e.char

end Piece

/-- A piece of a string over several lines. A backslash at the end of a line joins it to the next
one. -/
inductive LongPiece (q : Quote) where
  | piece (p : Piece q)
  | lineEnd (e : LineEnd)
  | join (spaces : Spaces) (stop : LineEnd) (double : q = .double)

namespace LongPiece

variable {q : Quote}

def text : LongPiece q → List Char
  | .piece p => p.text
  | .lineEnd e => e.text
  | .join spaces stop _ => '\\' :: (spaces.chars ++ stop.text)

def chars : LongPiece q → List Char
  | .piece p => [p.char]
  | .lineEnd e => e.text
  | .join .. => []

/-- The piece is a blank or a line end, so that a join in front takes it away. -/
def isBlank : LongPiece q → Bool
  | .piece (.plain c ..) => c == ' ' || c == '\t'
  | .lineEnd _ => true
  | _ => false

def isJoin : LongPiece q → Bool
  | .join .. => true
  | _ => false

end LongPiece

/-- A part of a string over several lines. No three quotes stand in a row before its end. -/
structure Segment (q : Quote) where
  quotes : Fin 3 := 0
  piece : LongPiece q

namespace Segment

variable {q : Quote}

def text (s : Segment q) : List Char := List.replicate s.quotes q.char ++ s.piece.text

def chars (s : Segment q) : List Char := List.replicate s.quotes q.char ++ s.piece.chars

def isBlank (s : Segment q) : Bool := s.quotes.val == 0 && s.piece.isBlank

/-- The characters of all segments. Behind a join, blanks are taken away up to the next character
that is none. -/
def allChars : Bool → List (Segment q) → List Char
  | _, [] => []
  | joined, s :: segments =>
    if joined && s.isBlank then allChars true segments
    else s.chars ++ allChars s.piece.isJoin segments

/-- The line end that follows the opening quotes is no part of the string. -/
def dropFirstEnd : List (Segment q) → List (Segment q)
  | ⟨0, .lineEnd _⟩ :: segments => segments
  | segments => segments

end Segment

/-- A string between quotes, or between three of them. Up to two quotes may stand at the end of the
latter. -/
inductive Literal where
  | line (q : Quote) (pieces : List (Piece q))
  | long (q : Quote) (segments : List (Segment q)) (quotes : Fin 3)

namespace Literal

/-- The literal behind its first quote. -/
def body : Literal → List Char
  | .line q pieces => pieces.flatMap Piece.text ++ [q.char]
  | .long q segments quotes =>
    q.char :: q.char :: (segments.flatMap Segment.text ++ List.replicate (quotes.val + 3) q.char)

def quote : Literal → Quote
  | .line q _ => q
  | .long q .. => q

def text (l : Literal) : List Char := l.quote.char :: l.body

def chars : Literal → List Char
  | .line _ pieces => pieces.map Piece.char
  | .long q segments quotes =>
    Segment.allChars false (Segment.dropFirstEnd segments) ++ List.replicate quotes q.char

def value (l : Literal) : String := String.ofList l.chars

end Literal

/-! ## Keys -/

/-- The character needs no quotes in a key. -/
def IsBareChar (c : Char) : Prop := c.isAlphanum = true ∨ c = '_' ∨ c = '-'

instance (c : Char) : Decidable (IsBareChar c) := inferInstanceAs (Decidable (_ ∨ _))

/-- One part of a key. -/
inductive KeyPart where
  | bare (chars : List Char) (nonempty : chars ≠ []) (bare : ∀ c ∈ chars, IsBareChar c)
  | quoted (q : Quote) (pieces : List (Piece q))

namespace KeyPart

def text : KeyPart → List Char
  | .bare chars .. => chars
  | .quoted q pieces => (Literal.line q pieces).text

def name : KeyPart → String
  | .bare chars .. => String.ofList chars
  | .quoted q pieces => (Literal.line q pieces).value

end KeyPart

/-- A part of a key that a point follows. -/
structure FrontPart where
  part : KeyPart
  left : Spaces := .none
  right : Spaces := .none

def FrontPart.text (f : FrontPart) : List Char :=
  f.part.text ++ (f.left.chars ++ '.' :: f.right.chars)

structure DottedKey where
  fronts : List FrontPart := []
  last : KeyPart

namespace DottedKey

def text (k : DottedKey) : List Char := k.fronts.flatMap FrontPart.text ++ k.last.text

/-- The names of all parts but the last. -/
def path (k : DottedKey) : List String := k.fronts.map fun f => f.part.name

def key (k : DottedKey) : String := k.last.name

/-- The key has no more than eighty parts. -/
def Bounded (k : DottedKey) : Prop := k.fronts.length < 80

end DottedKey

/-! ## Numbers -/

open Json (Sign)

inductive Base where
  | hexadecimal
  | octal
  | binary

def Base.mark : Base → Char
  | .hexadecimal => 'x'
  | .octal => 'o'
  | .binary => 'b'

def Base.size : Base → Nat
  | .hexadecimal => 16
  | .octal => 8
  | .binary => 2

/-- A number with its sign. -/
def signed (sign : Sign) (n : Nat) : Int := if sign = .minus then -n else n

structure Exponent where
  mark : Char := 'e'
  isMark : mark = 'e' ∨ mark = 'E' := by decide
  sign : Sign := .none
  digits : Digits 10

def Exponent.text (e : Exponent) : List Char := e.mark :: (e.sign.text ++ e.digits.text)

/-- A number with a fraction or an exponent. -/
structure Decimal where
  sign : Sign := .none
  whole : Digits 10
  plain : whole.NoLeadingZero
  fraction : Option (Digits 10)
  exponent : Option Exponent
  isDecimal : fraction.isSome = true ∨ exponent.isSome = true

namespace Decimal

/-- What follows the whole part. -/
def tail (d : Decimal) : List Char :=
  (d.fraction.elim [] fun f => '.' :: f.text) ++ d.exponent.elim [] Exponent.text

def text (d : Decimal) : List Char := d.sign.text ++ (d.whole.text ++ d.tail)

/-- The digits behind the point. -/
def behind (d : Decimal) : List (Digit 10) := d.fraction.elim [] Digits.list

def significand (d : Decimal) : Nat := Digit.number (d.whole.list ++ d.behind)

/-- The exponent of ten that belongs to the significand. -/
def power (d : Decimal) : Int :=
  (d.exponent.elim 0 fun e => signed e.sign e.digits.number) - d.behind.length

/-- The number is not too large to be rounded to a double. -/
def InRange (d : Decimal) : Prop :=
  d.significand * Nat.pow 10 d.power.toNat < Binary64.limit * Nat.pow 10 (-d.power).toNat

end Decimal

inductive Number where
  | whole (sign : Sign) (digits : Digits 10) (plain : digits.NoLeadingZero)
  | marked (base : Base) (digits : Digits base.size)
  | decimal (d : Decimal)
  | infinite (sign : Sign)
  | notANumber (sign : Sign)

namespace Number

def text : Number → List Char
  | .whole sign digits _ => sign.text ++ digits.text
  | .marked base digits => '0' :: base.mark :: digits.text
  | .decimal d => d.text
  | .infinite sign => sign.text ++ ['i', 'n', 'f']
  | .notANumber sign => sign.text ++ ['n', 'a', 'n']

/-- The whole number that is written. -/
def integer? : Number → Option Int
  | .whole sign digits _ => some (signed sign digits.number)
  | .marked _ digits => some digits.number
  | _ => none

/-- Whole numbers have at most 128 bits, with or without a sign. -/
def InRange : Number → Prop
  | .decimal d => d.InRange
  | n => ∀ i ∈ n.integer?, -2 ^ 127 ≤ i ∧ i < 2 ^ 128

end Number

/-! ## Dates and times -/

/-- A number in a fixed count of decimal digits. -/
def fixed : Nat → Nat → List Char
  | 0, _ => []
  | width + 1, n => fixed width (n / 10) ++ [Nat.digitChar (n % 10)]

/-- Every fourth year is a leap year, but of those that end a century only every fourth. -/
def IsLeap (year : Nat) : Prop := 4 ∣ year ∧ (100 ∣ year → 400 ∣ year)

instance (year : Nat) : Decidable (IsLeap year) := inferInstanceAs (Decidable (_ ∧ _))

/-- How many days the months of a year have. -/
def monthDays (year : Nat) : List Nat :=
  [31, if IsLeap year then 29 else 28, 31, 30, 31, 30, 31, 31, 30, 31, 30, 31]

structure Date where
  year : Nat
  month : Nat
  day : Nat
  year_lt : year < 10000
  month_pos : 1 ≤ month
  month_le : month ≤ 12
  day_pos : 1 ≤ day
  day_le : day ≤ (monthDays year).getD (month - 1) 0

def Date.text (d : Date) : List Char :=
  fixed 4 d.year ++ '-' :: (fixed 2 d.month ++ '-' :: fixed 2 d.day)

/-- The seconds of a time, and perhaps digits of a fraction of them. The last one may be a leap
second. -/
structure Seconds where
  count : Nat
  fraction : List (Digit 10) := []
  count_le : count ≤ 60

def Seconds.text (s : Seconds) : List Char :=
  ':' :: (fixed 2 s.count ++
    if s.fraction.isEmpty then [] else '.' :: s.fraction.map Digit.char)

structure Clock where
  hour : Nat
  minute : Nat
  seconds : Option Seconds
  hour_lt : hour < 24
  minute_lt : minute < 60

def Clock.text (t : Clock) : List Char :=
  fixed 2 t.hour ++ ':' :: (fixed 2 t.minute ++ t.seconds.elim [] Seconds.text)

/-- How far a time is from universal time. -/
inductive Offset where
  | universal (mark : Char) (isMark : mark = 'Z' ∨ mark = 'z')
  | shifted (west : Bool) (hour minute : Nat) (hour_lt : hour < 24) (minute_lt : minute < 60)

def Offset.text : Offset → List Char
  | .universal mark _ => [mark]
  | .shifted west hour minute .. =>
    (if west then '-' else '+') :: (fixed 2 hour ++ ':' :: fixed 2 minute)

inductive Datetime where
  | date (d : Date)
  | time (t : Clock)
  | both (d : Date) (mark : Char) (isMark : mark = 'T' ∨ mark = 't' ∨ mark = ' ') (t : Clock)
      (offset : Option Offset)

def Datetime.text : Datetime → List Char
  | .date d => d.text
  | .time t => t.text
  | .both d mark _ t offset => d.text ++ mark :: (t.text ++ offset.elim [] Offset.text)

/-! ## Values -/

mutual

/-- A value as it is written. -/
inductive Tree where
  | string (l : Literal)
  | number (n : Number)
  | boolean (b : Bool)
  | datetime (d : Datetime)
  | array (items : Items)
  | table (members : Members)

/-- The values of an array behind its bracket. A comma may stand behind the last one. -/
inductive Items where
  | done (gap : Gap)
  | last (before : Gap) (item : Tree) (after : Gap)
  | more (before : Gap) (item : Tree) (after : Gap) (items : Items)

/-- The keys and values of an inline table behind its brace. -/
inductive Members where
  | done (gap : Gap)
  | last (before : Gap) (key : DottedKey) (left right : Spaces) (value : Tree) (after : Gap)
  | more (before : Gap) (key : DottedKey) (left right : Spaces) (value : Tree) (after : Gap)
      (members : Members)

end

/-- A key and what stands between it and its value. -/
def keyText (key : DottedKey) (left right : Spaces) : List Char :=
  key.text ++ (left.chars ++ '=' :: right.chars)

mutual

def Tree.text : Tree → List Char
  | .string l => l.text
  | .number n => n.text
  | .boolean b => if b then ['t', 'r', 'u', 'e'] else ['f', 'a', 'l', 's', 'e']
  | .datetime d => d.text
  | .array items => '[' :: items.text
  | .table members => '\x7b' :: members.text

def Items.text : Items → List Char
  | .done gap => gap.text ++ [']']
  | .last before item after => before.text ++ (item.text ++ (after.text ++ [']']))
  | .more before item after items =>
    before.text ++ (item.text ++ (after.text ++ ',' :: items.text))

def Members.text : Members → List Char
  | .done gap => gap.text ++ ['\x7d']
  | .last before key left right value after =>
    before.text ++ (keyText key left right ++ (value.text ++ (after.text ++ ['\x7d'])))
  | .more before key left right value after members =>
    before.text ++ (keyText key left right ++ (value.text ++ (after.text ++ ',' :: members.text)))

end

/-- The value of a string, a whole number or a truth value. -/
def Tree.scalar? : Tree → Option Value
  | .string l => some (.string l.value)
  | .number n => n.integer?.map .integer
  | .boolean b => some (.boolean b)
  | _ => none

mutual

/-- The value keeps to the limits of the reader: its numbers are in range, no more brackets than
`room` are open at once, and no key has too many parts. -/
def Tree.Bounded : Nat → Tree → Prop
  | _, .string _ => True
  | _, .number n => n.InRange
  | _, .boolean _ => True
  | _, .datetime _ => True
  | 0, .array _ => False
  | room + 1, .array items => items.Bounded room
  | 0, .table _ => False
  | room + 1, .table members => members.Bounded room

def Items.Bounded : Nat → Items → Prop
  | _, .done _ => True
  | room, .last _ item _ => item.Bounded room
  | room, .more _ item _ items => item.Bounded room ∧ items.Bounded room

def Members.Bounded : Nat → Members → Prop
  | _, .done _ => True
  | room, .last _ key _ _ value _ => key.Bounded ∧ value.Bounded room
  | room, .more _ key _ _ value _ members =>
    key.Bounded ∧ value.Bounded room ∧ members.Bounded room

end

/-! ## Tables

A name leads from a table into a table inside it, or into the last table of a list.
-/

/-- What a name stands for. -/
inductive Slot (α : Type) where
  | value (a : α)
  | table (origin : Origin)
  /-- A list of tables. -/
  | list

namespace Slot

variable {α : Type}

/-- Headers can lead through it. -/
def isOpen : Slot α → Bool
  | .value _ => false
  | .table origin => origin != .inline
  | .list => true

def isTable (origin : Origin) : Slot α → Bool
  | .table found => found == origin
  | _ => false

def isList : Slot α → Bool
  | .list => true
  | _ => false

end Slot

/-- What the names along a path stand for, at every path. -/
abbrev Contents (α : Type) := List String → Option (Slot α)

namespace Contents

variable {α : Type}

/-- Nothing but the root table. -/
def empty : Contents α := fun q => if q = [] then some (.table .header) else none

def set (path : List String) (slot : Slot α) (c : Contents α) : Contents α :=
  fun q => if q = path then some slot else c q

/-- Makes the tables along a path that are missing. -/
def pass (origin : Origin) (path : List String) (c : Contents α) : Contents α :=
  fun q => (c q).or (if q <+: path then some (.table origin) else none)

/-- Takes away everything below a path. -/
def clear (path : List String) (c : Contents α) : Contents α :=
  fun q => if path <+: q then none else c q

/-- Everything on the path is missing, or is as wanted. -/
def Along (wanted : Slot α → Bool) (paths : List (List String)) (c : Contents α) : Prop :=
  ∀ q ∈ paths, (c q).all wanted = true

instance (wanted : Slot α → Bool) (paths : List (List String)) (c : Contents α) :
    Decidable (c.Along wanted paths) :=
  inferInstanceAs (Decidable (∀ q ∈ paths, _))

end Contents

/-- What a line does: it opens a table, opens a further table of a list, or gives a value to a key
under the header that is open. -/
inductive Command (α : Type) where
  | table (path : List String) (key : String)
  | item (path : List String) (key : String)
  | value (path : List String) (key : String) (a : α)

/-- How far a document has come: the header that is open, and what there is. -/
structure Progress (α : Type) where
  table : List String := []
  contents : Contents α := .empty

namespace Command

variable {α : Type}

/-- The command may follow. A header opens a table that is new or was only implied by the headers of
tables inside it, or one more table of a list that headers made. A key is given one value, and in
front of its last point there are only tables that dotted keys made. -/
def Fits (p : Progress α) : Command α → Prop
  | .table path key =>
    p.contents.Along Slot.isOpen path.inits ∧
      p.contents.Along (Slot.isTable .implied) [path ++ [key]]
  | .item path key =>
    p.contents.Along Slot.isOpen path.inits ∧ p.contents.Along Slot.isList [path ++ [key]]
  | .value path key _ =>
    p.contents.Along (Slot.isTable .dotted) (path.inits.tail.map (p.table ++ ·)) ∧
      (p.contents (p.table ++ (path ++ [key]))).isNone = true

instance (p : Progress α) (command : Command α) : Decidable (command.Fits p) :=
  match command with
  | .table .. => inferInstanceAs (Decidable (_ ∧ _))
  | .item .. => inferInstanceAs (Decidable (_ ∧ _))
  | .value .. => inferInstanceAs (Decidable (_ ∧ _))

def next (p : Progress α) : Command α → Progress α
  | .table path key =>
    { table := path ++ [key]
      contents := (p.contents.pass .implied path).set (path ++ [key]) (.table .header) }
  | .item path key =>
    { table := path ++ [key]
      contents :=
        ((p.contents.pass .implied path).clear (path ++ [key])).set (path ++ [key]) .list }
  | .value path key a =>
    { table := p.table
      contents :=
        (p.contents.pass .dotted (p.table ++ path)).set (p.table ++ (path ++ [key])) (.value a) }

/-- Where commands lead one after the other. -/
def all (p : Progress α) (commands : List (Command α)) : Progress α := commands.foldl next p

/-- Every command fits where those in front of it have come to. -/
def AllFit : Progress α → List (Command α) → Prop
  | _, [] => True
  | p, command :: commands => command.Fits p ∧ AllFit (command.next p) commands

instance decidableAllFit : (p : Progress α) → (commands : List (Command α)) →
    Decidable (AllFit p commands)
  | _, [] => inferInstanceAs (Decidable True)
  | p, command :: commands =>
    have := decidableAllFit (command.next p) commands
    inferInstanceAs (Decidable (_ ∧ _))

end Command

/-- What the keys of an inline table are given. -/
def Members.commands : Members → List (Command Tree)
  | .done _ => []
  | .last _ key _ _ value _ => [.value key.path key.key value]
  | .more _ key _ _ value _ members => .value key.path key.key value :: members.commands

/-- What an inline table gives to its keys. -/
def Members.contents (members : Members) : Contents Tree :=
  (Command.all {} members.commands).contents

mutual

/-- No key of an inline table is given twice. -/
def Tree.Consistent : Tree → Prop
  | .array items => items.Consistent
  | .table members => members.Consistent ∧ Command.AllFit {} members.commands
  | _ => True

def Items.Consistent : Items → Prop
  | .done _ => True
  | .last _ item _ => item.Consistent
  | .more _ item _ items => item.Consistent ∧ items.Consistent

def Members.Consistent : Members → Prop
  | .done _ => True
  | .last _ _ _ _ value _ => value.Consistent
  | .more _ _ _ _ value _ members => value.Consistent ∧ members.Consistent

end

/-! ## Documents -/

inductive Statement where
  | table (left : Spaces) (key : DottedKey) (right : Spaces)
  | item (left : Spaces) (key : DottedKey) (right : Spaces)
  | value (key : DottedKey) (left right : Spaces) (tree : Tree)

namespace Statement

def text : Statement → List Char
  | .table left key right => '[' :: (left.chars ++ (key.text ++ (right.chars ++ [']'])))
  | .item left key right => '[' :: '[' :: (left.chars ++ (key.text ++ (right.chars ++ [']', ']'])))
  | .value key left right tree => keyText key left right ++ tree.text

def command : Statement → Command Tree
  | .table _ key _ => .table key.path key.key
  | .item _ key _ => .item key.path key.key
  | .value key _ _ tree => .value key.path key.key tree

/-- Brackets may be open eighty at once. -/
def Bounded : Statement → Prop
  | .table _ key _ => key.Bounded
  | .item _ key _ => key.Bounded
  | .value key _ _ tree => key.Bounded ∧ tree.Bounded 80

def Consistent : Statement → Prop
  | .value _ _ _ tree => tree.Consistent
  | _ => True

end Statement

/-- A statement, what stands in front of it, and the rest of its line. -/
structure Row where
  gap : Gap := {}
  statement : Statement
  tail : Tail := {}
  stop : LineEnd := .feed

def Row.text (r : Row) : List Char :=
  r.gap.text ++ (r.statement.text ++ (r.tail.text ++ r.stop.text))

/-- A document. Its last line has no end. -/
structure Document where
  /-- There is a byte order mark. -/
  mark : Bool := false
  rows : List Row := []
  gap : Gap := {}
  last : Option Statement := none
  tail : Tail := {}

namespace Document

/-- The document without its byte order mark. -/
def body (d : Document) : List Char :=
  d.rows.flatMap Row.text ++ (d.gap.text ++ (d.last.elim [] Statement.text ++ d.tail.text))

def text (d : Document) : List Char := if d.mark then '\ufeff' :: d.body else d.body

def statements (d : Document) : List Statement := d.rows.map Row.statement ++ d.last.toList

def commands (d : Document) : List (Command Tree) := d.statements.map Statement.command

/-- What the document gives to its keys. -/
def contents (d : Document) : Contents Tree :=
  (Command.all {} d.commands).contents

def Bounded (d : Document) : Prop := ∀ s ∈ d.statements, s.Bounded

/-- No table and no key is defined twice. -/
def Consistent (d : Document) : Prop :=
  Command.AllFit {} d.commands ∧ ∀ s ∈ d.statements, s.Consistent

end Document

end SyntaxOutline.Toml
