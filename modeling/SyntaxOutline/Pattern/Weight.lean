import Std.Data.HashMap
import SyntaxOutline.Pattern.Normal
import SyntaxOutline.Text.ByteRanges

/-!
# The weight of a pattern

A search follows a pattern byte by byte, forward to where a stretch ends and backward to where it
begins. For that the pattern is written out as states with edges between them, all counted parts as
often as they count. The weight of a pattern is the number of bytes that its states take up.

States are numbered in the order in which they are written. States for the bytes of a set are shared
as far as a memory of limited size allows, and what it keeps depends on those numbers.

* `Pattern.writeOut` : what writing out a pattern adds.
* `Pattern.isLight` : whether a pattern can be searched for.
-/

namespace SyntaxOutline

inductive Direction where
  | forward
  | backward
deriving DecidableEq, Repr

/-- What is written out so far: the number of states, and the bytes of the edges that leave them. -/
structure Load where
  states : Nat
  edges : Nat
deriving DecidableEq, Repr

namespace Load

/-- The bytes of an edge for a range of bytes. -/
def edge : Nat := 8

/-- The bytes of an edge that reads nothing. -/
def link : Nat := 4

/-- The load with further states and the bytes of further edges. -/
def add (l : Load) (states edges : Nat) : Load := ⟨l.states + states, l.edges + edges⟩

def weight (l : Load) : Nat := 32 * l.states + l.edges

/-- The largest weight of what is searched for. -/
def maxWeight : Nat := 10 * Nat.pow 2 20

def isLight (l : Load) : Bool := l.weight ≤ maxWeight

/-- Writes something out again and again, as long as it is of use. -/
def repeated (write : Load → Load) : Nat → Load → Load
  | 0, l => l
  | count + 1, l => if l.isLight then repeated write count (write l) else l

end Load

/-! ## Sets -/

/-- The load while a set is written out, and the states that are remembered: in each slot at most
one, by what leaves it or leads to it. -/
structure Draft where
  load : Load
  slots : Std.HashMap Nat (List Nat × Nat)

namespace Draft

/-- The slot of a key, by a hash of its numbers. -/
def slot (size : Nat) (key : List Nat) : Nat :=
  let start : UInt64 := 14695981039346656037
  (key.foldl (fun h n => (h ^^^ n.toUInt64) * 1099511628211) start).toNat % size

/-- The number of the state for a key: the one that is remembered, or a new one. -/
def stateFor (d : Draft) (size : Nat) (key : List Nat) (edges : Nat) : Nat × Draft :=
  let slot := slot size key
  match (d.slots[slot]?).filter fun (held, _) => held = key with
  | some (_, state) => (state, d)
  | none =>
    let state := d.load.states
    (state, ⟨d.load.add 1 edges, d.slots.insert slot (key, state)⟩)

/-- What can follow each first range. -/
def fork (lists : List (List (Nat × Nat))) : List ((Nat × Nat) × List (List (Nat × Nat))) :=
  (lists.splitBy fun a b => a.head? == b.head?).filterMap fun group =>
    (group.head?.bind List.head?).map fun range => (range, group.map List.tail)

/-- Writes out states from which one of the lists is read up to the state `stop`. Gives the number
of the first of them. -/
def forward (stop : Nat) : Nat → List (List (Nat × Nat)) → Draft → Nat × Draft
  | 0, _, d => (stop, d)
  | length + 1, lists, d =>
    match fork lists with
    | [] => (stop, d)
    | ranges =>
      let (key, d) := ranges.foldl (fun (key, d) ((a, b), rests) =>
        let (next, d) := forward stop length rests d
        (next :: b :: a :: key, d)) ([], d)
      d.stateFor 10000 key.reverse (Load.edge * ranges.length)

/-- Writes out states from which a list is read backward up to the state `stop`, and a link to the
first of them. -/
def backward (stop : Nat) (d : Draft) (list : List (Nat × Nat)) : Draft :=
  let (_, d) := list.foldl (fun (state, d) (a, b) => d.stateFor 1000 [state, a, b] 0) (stop, d)
  { d with load := d.load.add 0 Load.link }

end Draft

/-- Writes out one character of a set. ASCII characters share a state. -/
def CharSet.writeOut (s : CharSet) (direction : Direction) (l : Load) : Load :=
  if s.isAscii then l.add 2 (Load.edge * s.ranges.length)
  else
    match direction with
    | .forward => (Draft.forward l.states 4 s.byteRanges ⟨l.add 1 0, ∅⟩).2.load
    | .backward => (s.byteRanges.foldl (Draft.backward (l.states + 1)) ⟨l.add 2 0, ∅⟩).load

/-! ## Words -/

namespace Load

/-- The lists of words between the empty ones. -/
def between : List (List Nat) → List (List (List Nat))
  | [] => [[]]
  | [] :: words => [] :: between words
  | word :: words =>
    match between words with
    | [] => [[word]]
    | chunk :: chunks => (word :: chunk) :: chunks

/-- The lists of words between the empty ones, where those in front of all others are one. -/
def chunks (words : List (List Nat)) : List (List (List Nat)) :=
  match words with
  | [] :: rest => [] :: between (rest.dropWhile (· == []))
  | words => between words

/-- Writes out a choice among words of at most the given length. Words with the same first byte go
on together, unless one of them ends in between. -/
def addWords : Nat → List (List Nat) → Load → Load
  | 0, _, l => l
  | length + 1, words, l =>
    let chunks := chunks words
    let l := chunks.foldl (fun l chunk =>
      let firsts := (chunk.filterMap List.head?).eraseDups
      let l := firsts.foldl (fun l first =>
        let rests := (chunk.filter (·.head? == some first)).map List.tail
        if rests.all List.isEmpty then l else addWords length rests l) l
      match firsts with
      | [] => l
      | [_] => l.add 1 0
      | _ => l.add 1 (edge * firsts.length)) l
    l.add 1 (link * ((chunks.filter (· ≠ [])).length + chunks.length - 1))

end Load

/-! ## Patterns -/

namespace Pattern

/-- The least number of characters of a stretch that the pattern fits, if no set in it is empty. -/
def leastLength? : Pattern → Option Nat
  | .empty => some 0
  | .literal cs => some cs.length
  | .chars set _ => if set.ranges = [] then none else some 1
  | .spot _ => some 0
  | .noted _ p => p.leastLength?
  | .seq p q => return (← p.leastLength?) + (← q.leastLength?)
  | .either p q => return min (← p.leastLength?) (← q.leastLength?)
  | .times p least _ _ => return (← p.leastLength?) * least

/-- Whether the parts of the pattern tell that it begins at such a spot only. -/
def beginsAt (s : Spot) : Pattern → Bool
  | .empty => false
  | .literal _ => false
  | .chars _ _ => false
  | .spot t => t = s
  | .noted _ p => p.beginsAt s
  | .seq p q => p.beginsAt s || (p.fitsEmptyOnly && q.beginsAt s)
  | .either p q => p.beginsAt s && q.beginsAt s
  | .times p least _ _ => 0 < least && p.beginsAt s

/-- Whether the parts of the pattern tell that it ends at such a spot only. -/
def endsAt (s : Spot) : Pattern → Bool
  | .empty => false
  | .literal _ => false
  | .chars _ _ => false
  | .spot t => t = s
  | .noted _ p => p.endsAt s
  | .seq p q => q.endsAt s || (q.fitsEmptyOnly && p.endsAt s)
  | .either p q => p.endsAt s && q.endsAt s
  | .times p least _ _ => 0 < least && p.endsAt s

/-- The bytes of literals, in the order in which they are read, if all the patterns are literals. -/
def words? (direction : Direction) (ps : List Pattern) : Option (List (List Nat)) :=
  (ps.mapM literal?).map fun texts => texts.map fun cs =>
    let bytes := cs.flatMap fun c => CharSet.bytes c.toNat
    match direction with
    | .forward => bytes
    | .backward => bytes.reverse

def isChoice : Pattern → Bool
  | .either _ _ => true
  | _ => false

/-- Writes out a pattern. Only a forward search notes where parts are. The states that join the
branches of a choice are written behind the second branch; `before` is the number of branches before
the pattern in the same choice. -/
def writeOut (direction : Direction) (before : Nat) : Pattern → Load → Load
  | .empty, l => l.add 1 0
  | .literal cs, l => l.add (Text.utf8Length cs) 0
  | .chars set _, l => set.writeOut direction l
  | .spot _, l => l.add 1 0
  | .noted _ p, l =>
    match direction with
    | .forward => (p.writeOut direction 0 (l.add 1 0)).add 1 0
    | .backward => p.writeOut direction 0 l
  | .seq p q, l =>
    match direction with
    | .forward => q.writeOut direction 0 (p.writeOut direction 0 l)
    | .backward => p.writeOut direction 0 (q.writeOut direction 0 l)
  | .either p q, l =>
    match if before = 0 then words? direction (p :: q.branches) else none with
    | some words =>
      Load.addWords ((words.map List.length).foldl max 0) words (l.add 1 0)
    | none =>
      let l := (p.writeOut direction 0 l).add (if before = 1 then 2 else 0) Load.link
      if q.isChoice then q.writeOut direction (before + 1) l
      else (q.writeOut direction 0 l).add (if before = 0 then 2 else 0) Load.link
  | .times p least most _, l =>
    let part := p.writeOut direction 0
    let fork := 2 * Load.link
    match most with
    | none =>
      if 0 < least then (Load.repeated part least l).add 1 fork
      else if p.leastLength?.any (0 < ·) then (part (l.add 1 0)).add 0 fork
      else (part l).add 3 (2 * fork)
    | some most =>
      if least = 0 ∧ most = 1 then (part (l.add 1 0)).add 1 fork
      else
        let first := if least = 0 then l.add 1 0 else Load.repeated part least l
        if most ≤ least then first
        else Load.repeated (fun l => part (l.add 1 fork)) (most - least) (first.add 1 0)

/-- A pattern written out for a search from any place, or from one end of the text only if it fits
nowhere else. -/
def load (direction : Direction) (p : Pattern) : Load :=
  let anywhere : Load := ⟨3, Load.edge + 2 * Load.link⟩
  match direction with
  | .forward =>
    let start := if p.beginsAt .textStart then ⟨1, 0⟩ else anywhere
    (p.writeOut direction 0 (start.add 1 0)).add 2 0
  | .backward =>
    let start := if p.endsAt .textEnd then ⟨1, 0⟩ else anywhere
    (p.writeOut direction 0 start).add 1 0

/-- Whether a pattern can be searched for in both directions. -/
def isLight (p : Pattern) : Bool := (p.load .forward).isLight && (p.load .backward).isLight

end Pattern

end SyntaxOutline
