import SyntaxOutline.Unicode.Lookup

/-!
# Patterns

A pattern fits some stretches of a text. Whether it fits any of them is found by following, for all
places of the text at once, the places at which a stretch can end. A set of places is held as a
number: the place behind the first `i` characters belongs to it if bit `i` is set.

* `Pattern.occursIn` : whether a pattern fits some stretch of a text.
-/

namespace SyntaxOutline

/-- What the characters on both sides of a place say about a word. -/
inductive WordSide where
  /-- One of them is a word's, the other is not. -/
  | edge
  | noEdge
  | start
  | stop
  /-- The one before is no word's. -/
  | startHalf
  /-- The one behind is no word's. -/
  | stopHalf
deriving DecidableEq, Repr

/-- What can be asked of a place in a text. -/
inductive Spot where
  | textStart
  | textEnd
  /-- Lines end in a line feed. -/
  | lineStart
  | lineEnd
  /-- Lines end in a line feed, a carriage return, or both in turn. -/
  | anyLineStart
  | anyLineEnd
  | word (letters : CharSet) (side : WordSide)
deriving DecidableEq, Repr

/-- Whether a place is such a spot, by the characters before and behind it. -/
def Spot.holds (before behind : Option Char) : Spot → Bool
  | .textStart => before.isNone
  | .textEnd => behind.isNone
  | .lineStart => before.isNone || before == some '\n'
  | .lineEnd => behind.isNone || behind == some '\n'
  | .anyLineStart =>
    before.isNone || before == some '\n' || (before == some '\r' && behind != some '\n')
  | .anyLineEnd =>
    behind.isNone || behind == some '\r' || (behind == some '\n' && before != some '\r')
  | .word letters side =>
    let left := before.any letters.contains
    let right := behind.any letters.contains
    match side with
    | .edge => left != right
    | .noEdge => left == right
    | .start => !left && right
    | .stop => left && !right
    | .startHalf => !left
    | .stopHalf => !right

inductive Pattern where
  /-- Fits the empty stretch. -/
  | empty
  /-- Fits just the characters, of which there is at least one. -/
  | literal (cs : List Char)
  /-- Fits one character of the set. `plain` tells sets for ASCII texts from those for all texts. -/
  | chars (set : CharSet) (plain : Bool)
  /-- Fits the empty stretch at such a spot. -/
  | spot (s : Spot)
  /-- Fits what its part fits; a search notes where that is, under the number. -/
  | noted (number : Nat) (p : Pattern)
  | seq (p q : Pattern)
  | either (p q : Pattern)
  /-- Fits as many stretches in a row as the bounds allow, and prefers few of them or many. -/
  | times (p : Pattern) (least : Nat) (most : Option Nat) (few : Bool)
deriving DecidableEq, Repr

/-! ## Following places -/

/-- A pattern laid over a text: at which places of the text its parts fit. -/
inductive Track where
  /-- Stays at the places of the set. -/
  | stay (places : Nat)
  /-- Goes one character on from the places of the set. -/
  | step (places : Nat)
  | seq (a b : Track)
  | either (a b : Track)
  | times (a : Track) (least : Nat) (most : Option Nat)
deriving DecidableEq, Repr

namespace Track

/-- The set of the places at which the list has `true`. -/
def places (marks : List Bool) : Nat := marks.foldr (fun mark set => 2 * set + mark.toNat) 0

/-- Takes a step again and again. -/
def exactly (f : Nat → Nat) : Nat → Nat → Nat
  | 0, set => set
  | count + 1, set => if f set = set then set else exactly f count (f set)

/-- The places that are reached by some number of steps: `reached` without the ones still to take,
and `fresh` those of them from which no step was taken yet. -/
def upTo (f : Nat → Nat) : Nat → Nat → Nat → Nat
  | 0, reached, _ => reached
  | count + 1, reached, fresh =>
    let next := f fresh
    let new := next ^^^ (next &&& reached)
    if new = 0 then reached else upTo f count (reached ||| new) new

/-- The places at which a stretch can end that begins at a place of the set. A text of `size`
characters lets a step go on at most `size` times, so that more than `size + 1` steps in a row lead
to where `size + 1` lead. -/
def ends (size : Nat) : Track → Nat → Nat
  | .stay places, set => set &&& places
  | .step places, set => (set &&& places) <<< 1
  | .seq a b, set => b.ends size (a.ends size set)
  | .either a b, set => a.ends size set ||| b.ends size set
  | .times a least most, set =>
    let first := exactly (a.ends size) (min least (size + 1)) set
    let more := match most with
      | some most => min (most - least) size
      | none => size
    upTo (a.ends size) more first first

end Track

namespace Pattern

/-- The characters before and behind each place of a text. -/
def surroundings (before : Option Char) : List Char → List (Option Char × Option Char)
  | [] => [(before, none)]
  | c :: cs => (before, some c) :: surroundings (some c) cs

/-- All places of a text of the given size. -/
def allPlaces (size : Nat) : Nat := Nat.pow 2 (size + 1) - 1

/-- The pattern laid over a text. -/
def track (text : List Char) : Pattern → Track
  | .empty => .stay (allPlaces text.length)
  | .literal cs =>
    cs.foldr (fun c rest => .seq (.step (Track.places (text.map (· == c)))) rest)
      (.stay (allPlaces text.length))
  | .chars set _ => .step (Track.places (text.map set.contains))
  | .spot s =>
    .stay (Track.places ((surroundings none text).map fun (before, behind) =>
      s.holds before behind))
  | .noted _ p => p.track text
  | .seq p q => .seq (p.track text) (q.track text)
  | .either p q => .either (p.track text) (q.track text)
  | .times p least most _ => .times (p.track text) least most

/-- Whether the pattern fits some stretch of a text. -/
def occursIn (p : Pattern) (text : List Char) : Bool :=
  (p.track text).ends text.length (allPlaces text.length) != 0

end Pattern

end SyntaxOutline
