import SyntaxOutline.Pattern.Basic

/-!
# Patterns in normal form

Patterns that are put together are brought into a form without needless parts: no row directly in a
row, no choice directly in a choice, literals joined, a choice among characters made a set, and what
all branches of a choice begin with taken out of it.

* `Pattern.oneOf`, `Pattern.inRow`, `Pattern.choice`, `Pattern.repeating` : how patterns are put
  together.
-/

namespace SyntaxOutline.Pattern

/-- Fits one character of a set. -/
def oneOf (s : CharSet) (plain : Bool) : Pattern :=
  match s.ranges with
  | [] => .chars .empty true
  | [(a, b)] => if a = b then .literal [Char.ofNat a] else .chars s plain
  | _ => .chars s plain

/-! ## Rows -/

/-- The patterns that stand in a row. -/
def parts : Pattern → List Pattern
  | .empty => []
  | .seq p q => p :: q.parts
  | p => [p]

def ofParts : List Pattern → Pattern
  | [] => .empty
  | [p] => p
  | p :: ps => .seq p (ofParts ps)

/-- Puts a pattern in front of others; literals next to each other are one. -/
def inFront : Pattern → List Pattern → List Pattern
  | .literal cs, .literal ds :: ps => .literal (cs ++ ds) :: ps
  | p, ps => p :: ps

/-- Patterns in a row. -/
def inRow (ps : List Pattern) : Pattern := ofParts ((ps.flatMap parts).foldr inFront [])

/-! ## Choices -/

/-- The patterns among which there is a choice. -/
def branches : Pattern → List Pattern
  | .either p q => p :: q.branches
  | p => [p]

def ofBranches : List Pattern → Pattern
  | [] => .chars .empty true
  | [p] => p
  | p :: ps => .either p (ofBranches ps)

def literal? : Pattern → Option (List Char)
  | .literal cs => some cs
  | _ => none

/-- The set of a literal of one character. -/
def letterSet? : Pattern → Option CharSet
  | .literal [c] => some (.singleton c)
  | _ => none

def set? : Pattern → Option CharSet
  | .chars s _ => some s
  | _ => none

/-- The set that all the branches together are, if they are letters only or sets only. -/
def asSet? (ps : List Pattern) : Option CharSet :=
  (ps.mapM letterSet? <|> ps.mapM set?).map CharSet.unions

/-- Any of some patterns, none of which is a choice. -/
def anyOf : List Pattern → Pattern
  | [p] => p
  | ps =>
    match asSet? ps with
    | some s => oneOf s false
    | none => ofBranches ps

/-- The parts of a row. -/
def row? : Pattern → Option (List Pattern)
  | .seq p q => some (p :: q.parts)
  | _ => none

/-- What two lists begin with. -/
def commonFront : List Pattern → List Pattern → List Pattern
  | p :: ps, q :: qs => if p = q then p :: commonFront ps qs else []
  | _, _ => []

/-- What several rows begin with. -/
def sharedFront (ps : List Pattern) : List Pattern :=
  match ps.mapM row? with
  | some (first :: second :: rest) => (second :: rest).foldl commonFront first
  | _ => []

/-- Any of some patterns. What they share at the front is taken out; what remains of them shares
nothing further. -/
def choice (ps : List Pattern) : Pattern :=
  let ps := ps.flatMap branches
  match sharedFront ps with
  | [] => anyOf ps
  | front =>
    let rests := ps.map fun p => inRow (p.parts.drop front.length)
    inRow (front ++ [anyOf (rests.flatMap branches)])

/-! ## Repetitions -/

/-- Whether a pattern fits empty stretches only. -/
def fitsEmptyOnly : Pattern → Bool
  | .empty => true
  | .literal _ => false
  | .chars _ _ => false
  | .spot _ => true
  | .noted _ p => p.fitsEmptyOnly
  | .seq p q => p.fitsEmptyOnly && q.fitsEmptyOnly
  | .either p q => p.fitsEmptyOnly && q.fitsEmptyOnly
  | .times p _ _ _ => p.fitsEmptyOnly

/-- A pattern some times in a row. Empty stretches in a row are one. -/
def repeating (p : Pattern) (least : Nat) (most : Option Nat) (few : Bool) : Pattern :=
  let (least, most) :=
    if p.fitsEmptyOnly then (min least 1, some (min (most.getD 1) 1)) else (least, most)
  if most = some 0 then .empty
  else if least = 1 ∧ most = some 1 then p
  else .times p least most few

end SyntaxOutline.Pattern
