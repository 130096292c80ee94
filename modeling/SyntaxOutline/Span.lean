import SyntaxOutline.Json.Record

/-!
# Spans of source text

A span is a start offset and a length, both counted in bytes and both 64-bit words. Its end is the
sum of the two, held at the largest word where the sum would pass it.
-/

namespace SyntaxOutline

/-- The sum of two words, held at the largest word. -/
def addHeld (x y : UInt64) : UInt64 :=
  if x.toNat + y.toNat < UInt64.size then x + y else UInt64.ofNat (UInt64.size - 1)

/-- The difference of two words, held at zero. -/
def subHeld (x y : UInt64) : UInt64 :=
  if y ≤ x then x - y else 0

/-- A stretch of source text. -/
structure Span where
  start : UInt64
  length : UInt64
deriving DecidableEq, Repr, Inhabited

namespace Span

/-- The offset behind the last byte. -/
def stop (s : Span) : UInt64 := addHeld s.start s.length

def isEmpty (s : Span) : Bool := s.length == 0

/-- The offsets where the span begins and ends. -/
def range (s : Span) : UInt64 × UInt64 := (s.start, s.stop)

/-- Whether `t` lies within `s`. -/
def contains (s t : Span) : Bool := s.start ≤ t.start && t.stop ≤ s.stop

/-- The span between two offsets, empty if the second does not lie behind the first. -/
def ofRange (start stop : UInt64) : Span := ⟨start, subHeld stop start⟩

/-- Both ends with two dots between. -/
def display (s : Span) : String := s!"{s.start}..{s.stop}"

/-! ## JSON -/

/-- The members of a span. -/
def members (s : Span) : List (String × Json) :=
  [("Start", .word s.start), ("Length", .word s.length)]

def toJson (s : Span) : Json := .object s.members

/-- A span in JSON has both of its fields. -/
def record : Json.Record Span where
  title := "struct SourceSpan"
  initial := default
  fields := [
    .of "Start" (fun _ => Json.readWordValue) fun n s => { s with start := n },
    .of "Length" (fun _ => Json.readWordValue) fun n s => { s with length := n }]
  required := true

def ofJson? (text : String) : Except Json.Failure Span :=
  Json.readWhole (record.read Json.maxRoom) text

end Span

end SyntaxOutline
