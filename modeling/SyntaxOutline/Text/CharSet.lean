import SyntaxOutline.Text.Blank
import SyntaxOutline.Text.Utf8

/-!
# Sets of characters

A set of characters is held as ranges of their numbers, so that it can be taken apart and compared.

* `CharSet.contains` : whether a character belongs to a set.
* `CharSet.union`, `CharSet.compl`, `CharSet.inter`, `CharSet.diff`, `CharSet.symmDiff` : the
  operations.
* `CharSet.ofText` : the set that a table in text form lists.
-/

namespace SyntaxOutline

/-- A set of characters: the first and last numbers of its ranges, in increasing order and with gaps
between them. -/
structure CharSet where
  ranges : List (Nat × Nat)
deriving DecidableEq, Repr

namespace CharSet

/-- The number of the last character. -/
def lastNumber : Nat := 0x10FFFF

def contains (s : CharSet) (c : Char) : Bool :=
  s.ranges.any fun (first, last) => first ≤ c.toNat && c.toNat ≤ last

/-! ## Operations -/

/-- Joins the ranges that touch. No range starts before the one in front of it. -/
def joinFrom : Nat × Nat → List (Nat × Nat) → List (Nat × Nat)
  | range, [] => [range]
  | (a, b), (c, d) :: rest =>
    if c ≤ b + 1 then joinFrom (a, max b d) rest else (a, b) :: joinFrom (c, d) rest

/-- The set of ranges in any order. -/
def ofRanges (ranges : List (Nat × Nat)) : CharSet :=
  match ranges.mergeSort fun a b => a.1 ≤ b.1 with
  | [] => ⟨[]⟩
  | range :: rest => ⟨joinFrom range rest⟩

def empty : CharSet := ⟨[]⟩

def singleton (c : Char) : CharSet := ⟨[(c.toNat, c.toNat)]⟩

def union (s t : CharSet) : CharSet := ofRanges (s.ranges ++ t.ranges)

def unions (sets : List CharSet) : CharSet := ofRanges (sets.flatMap ranges)

/-- The number of the next character: none has one from `0xD800` to `0xDFFF`. -/
def after (n : Nat) : Nat := if n = 0xD7FF then 0xE000 else n + 1

/-- The number of the character before. -/
def before (n : Nat) : Nat := if n = 0xE000 then 0xD7FF else n - 1

/-- The range between two numbers, whichever is the larger one. -/
def rangeOf (a b : Nat) : Nat × Nat := (min a b, max a b)

/-- The ranges between neighbours and the one behind the last. Ranges that end and begin on both
sides of the numbers that no character has are taken to have both of their ends between them. -/
def gapsFrom (last : Nat) : List (Nat × Nat) → List (Nat × Nat)
  | [] => if last < lastNumber then [(after last, lastNumber)] else []
  | (a, b) :: rest => rangeOf (after last) (before a) :: gapsFrom b rest

/-- The characters that are not in the set. -/
def compl (s : CharSet) : CharSet :=
  match s.ranges with
  | [] => ⟨[(0, lastNumber)]⟩
  | (a, b) :: rest => ⟨(if 0 < a then [(0, before a)] else []) ++ gapsFrom b rest⟩

/-- What is common to two lists of ranges in increasing order. -/
def interRanges : List (Nat × Nat) → List (Nat × Nat) → List (Nat × Nat)
  | [], _ => []
  | _, [] => []
  | (a, b) :: s, (c, d) :: t =>
    let rest := if b < d then interRanges s ((c, d) :: t) else interRanges ((a, b) :: s) t
    if max a c ≤ min b d then (max a c, min b d) :: rest else rest
termination_by s t => s.length + t.length

def inter (s t : CharSet) : CharSet := ⟨interRanges s.ranges t.ranges⟩

/-- What the first of two lists of ranges in increasing order has beyond the second. -/
def diffRanges : List (Nat × Nat) → List (Nat × Nat) → List (Nat × Nat)
  | [], _ => []
  | s, [] => s
  | (a, b) :: s, (c, d) :: t =>
    if d < a then diffRanges ((a, b) :: s) t
    else if b < c then (a, b) :: diffRanges s ((c, d) :: t)
    else
      let rest := if d < b then diffRanges ((after d, b) :: s) t else diffRanges s ((c, d) :: t)
      if a < c then (a, before c) :: rest else rest
termination_by s t => s.length + t.length

def diff (s t : CharSet) : CharSet := ⟨diffRanges s.ranges t.ranges⟩

def symmDiff (s t : CharSet) : CharSet := (s.union t).diff (s.inter t)

/-! ## Tables -/

/-- The numbers from `a` to `b`, each by itself, with one left out after each. -/
def everyOther (a b : Nat) : List (Nat × Nat) :=
  (List.range ((b - a) / 2 + 1)).map fun i => (a + 2 * i, a + 2 * i)

/-- The number that hexadecimal digits stand for. -/
def number (digits : String) : Nat := (Text.ofDigits? 16 digits.toList).getD 0

/-- The ranges of one item of a table: `61`, `41-5a`, or `100-136/2` for every other one. -/
def item (text : String) : List (Nat × Nat) :=
  match text.splitOn "/" with
  | [range] =>
    match range.splitOn "-" with
    | [a, b] => [(number a, number b)]
    | _ => [(number range, number range)]
  | range :: _ =>
    match range.splitOn "-" with
    | [a, b] => everyOther (number a) (number b)
    | _ => []
  | [] => []

/-- The set that a table lists, with blanks between its items. -/
def ofText (table : String) : CharSet := ofRanges ((Text.words table).flatMap item)

end CharSet

end SyntaxOutline
