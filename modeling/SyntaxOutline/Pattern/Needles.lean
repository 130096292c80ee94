import SyntaxOutline.Pattern.Normal
import SyntaxOutline.Text.ByteRanges

/-!
# Texts to look for

Some patterns fit just a few texts. Finding these needs no states, so that such a pattern can be
searched for whatever its weight. Which texts they are is told by what the stretches that a pattern
fits can begin with. That is collected within limits and in the order of preference, so that a text
is of no use behind one that it begins with.

* `Pattern.needles` : what the stretches that a pattern fits begin with.
* `Pattern.isPlain` : whether a search for a pattern is one for a few texts.
-/

namespace SyntaxOutline

/-- The bytes that a stretch begins with; `whole` if there are no others in it. -/
structure Needle where
  bytes : List Nat
  whole : Bool
deriving DecidableEq, Repr

/-- What stretches begin with; `none` if that can be too much to tell. -/
abbrev Needles := Option (List Needle)

namespace Needle

/-- The needle with other bytes behind it, perhaps. -/
def asStart (n : Needle) : Needle := { n with whole := false }

/-- At most `size` bytes of the needle. -/
def take (size : Nat) (n : Needle) : Needle :=
  if n.bytes.length ≤ size then n else ⟨n.bytes.take size, false⟩

/-- Makes one of neighbours with the same bytes. -/
def merge : List Needle → List Needle
  | [] => []
  | [n] => [n]
  | m :: n :: ns =>
    if m.bytes = n.bytes then merge (⟨m.bytes, m.whole && n.whole⟩ :: ns) else m :: merge (n :: ns)
termination_by ns => ns.length

/-- Leaves out what begins with an earlier needle. -/
def minimal (ns : List Needle) : List Needle :=
  (ns.foldl (fun kept n =>
    if kept.any fun m => m.bytes.isPrefixOf n.bytes then kept else n :: kept) []).reverse

end Needle

namespace Needles

/-- The most needles that are collected. -/
def maxCount : Nat := 250

/-- The most bytes of a needle. -/
def maxLength : Nat := 100

/-- The most members of a set that are collected, and repetitions that are followed. -/
def maxSteps : Nat := 10

/-- The empty text. -/
def nothing : Needles := some [⟨[], true⟩]

/-- Whether none of the needles is whole. -/
def areStarts (a : Needles) : Bool := a.all fun ns => ns.all fun n => !n.whole

def asStarts (a : Needles) : Needles := a.map fun ns => ns.map Needle.asStart

/-- What begins as the first says and goes on as the second says. If there are too many needles, the
second is not followed. -/
def append (a b : Needles) : Needles :=
  match a with
  | none => none
  | some ms =>
    match b.filter fun ns => ms.length * ns.length ≤ maxCount with
    | none => if ms.any fun m => m.bytes.isEmpty then none else some (ms.map Needle.asStart)
    | some ns =>
      let joined := ms.flatMap fun m =>
        if m.whole then ns.map fun n => ⟨m.bytes ++ n.bytes, n.whole⟩ else [m]
      some ((Needle.merge joined).map (Needle.take maxLength))

/-- What begins as the first says and goes on as the second says, if anything goes on. -/
def follow (a : Needles) (b : Unit → Needles) : Needles :=
  if a.areStarts then a else a.append (b ())

/-- What begins as one of the two says. If there are too many needles, shorter ones are tried. -/
def union (a b : Needles) : Needles :=
  match a, b with
  | some ms, some ns =>
    if ms.length + ns.length ≤ maxCount then some (Needle.merge (ms ++ ns))
    else
      let ms := Needle.merge (ms.map (Needle.take 4))
      let ns := Needle.merge (ns.map (Needle.take 4))
      if ms.length + ns.length ≤ maxCount then some (Needle.merge (ms ++ ns)) else none
  | _, _ => none

/-- The members of a set, unless there are too many. -/
def ofSet (s : CharSet) : Needles :=
  let sizes := s.ranges.map fun (a, b) => b - a + 1
  if maxSteps < sizes.foldl (· + ·) 0 then none
  else
    let members := s.ranges.flatMap fun (a, b) => (List.range (b - a + 1)).map (a + ·)
    some (members.map fun n => ⟨CharSet.bytes n, true⟩)

/-! ## Choosing needles -/

/-- Bytes that are seen often: those of most small letters, some digits and marks, and those that a
character beyond ASCII begins with. -/
def isFrequent (byte : Nat) : Bool :=
  0x80 ≤ byte || "\n\r (),-./0129:_abcdefghilmnoprstuvxy|".toList.any fun c => c.toNat == byte

/-- What two lists begin with. -/
def commonBytes : List Nat → List Nat → List Nat
  | a :: as, b :: bs => if a = b then a :: commonBytes as bs else []
  | _, _ => []

/-- What all needles begin with. -/
def front (ns : List Needle) : List Nat :=
  match ns.map Needle.bytes with
  | [] => []
  | first :: rest => rest.foldl commonBytes first

/-- Shortens needles as long as there are too many: to the sizes given, each with the number of
needles that is not too many for it. -/
def shorten : List (Nat × Nat) → List Needle → List Needle
  | [], ns => ns
  | (size, enough) :: steps, ns =>
    if ns.length ≤ enough then ns
    else shorten steps (Needle.minimal (ns.map (Needle.take size)))

/-- The needles that a search looks for: fewer or shorter ones may do, but whole ones are kept if
the others would be found too often. -/
def chosen (ns : List Needle) : List Needle :=
  let least := Needle.minimal ns
  let front := front least
  let isRare := front.head?.any fun byte => !isFrequent byte
  if 1 < ns.length ∧ front.length ≤ 3 ∧ isRare then Needle.merge (least.map (Needle.take 1))
  else
    let isWhole := fun (ns : List Needle) => ns.all Needle.whole
    let isQuick := isWhole least && least.length ≤ 16
    let kept :=
      if 4 < front.length ∨ (1 < front.length ∧ ¬ isQuick) then
        Needle.merge (least.map (Needle.take front.length))
      else least
    let short := shorten [(5, 10), (4, 10), (3, 64), (2, 64), (1, 10)] kept
    let isPoor := short.isEmpty || short.any (fun n => n.bytes.length ≤ 2) || 64 < short.length
    if isWhole kept && isPoor then kept else short

/-- Whether looking for needles finds all that there is to find. -/
def suffice (a : Needles) : Bool :=
  match a with
  | none => false
  | some ns =>
    let chosen := chosen ns
    !ns.isEmpty && ns.all (fun n => !n.bytes.isEmpty) && chosen.all Needle.whole

end Needles

namespace Pattern

/-- How deep the parts of a pattern are nested. -/
def height : Pattern → Nat
  | .noted _ p => p.height + 1
  | .seq p q => max p.height q.height + 1
  | .either p q => max p.height q.height + 1
  | .times p _ _ _ => p.height + 1
  | _ => 1

/-- What the stretches that a pattern of at most the given height fits begin with. -/
def needlesWithin : Nat → Pattern → Needles
  | 0, _ => none
  | height + 1, p =>
    match p with
    | .empty => .nothing
    | .literal cs =>
      some [Needle.take Needles.maxLength ⟨cs.flatMap fun c => CharSet.bytes c.toNat, true⟩]
    | .chars set _ => .ofSet set
    | .spot _ => .nothing
    | .noted _ p => needlesWithin height p
    | .seq p q =>
      (p :: q.parts).foldl (fun before p => before.follow fun _ => needlesWithin height p) .nothing
    | .either p q =>
      (p :: q.branches).foldl (fun before p =>
        if before.isNone then none else before.union (needlesWithin height p)) (some [])
    | .times p least most few =>
      let part := needlesWithin height p
      if least = 0 then
        let part := if most = some 1 then part else part.asStarts
        if few then Needles.nothing.union part else part.union .nothing
      else
        let count := min least Needles.maxSteps
        let row := (List.replicate count part).foldl
          (fun before part => before.follow fun _ => part) .nothing
        if most = some least ∧ least ≤ Needles.maxSteps then row else row.asStarts

/-- What the stretches that a pattern fits begin with. -/
def needles (p : Pattern) : Needles := p.needlesWithin p.height

/-- Whether a pattern has neither spots nor parts whose place is noted. -/
def isBare : Pattern → Bool
  | .spot _ => false
  | .noted _ _ => false
  | .seq p q => p.isBare && q.isBare
  | .either p q => p.isBare && q.isBare
  | .times p _ _ _ => p.isBare
  | _ => true

/-- How many literals are looked for as such. -/
def manyWords : Nat := 3000

/-- Whether a search for a pattern is one for a few texts, or for many literals. -/
def isPlain (p : Pattern) : Bool :=
  let isList := p.branches.all fun p => p.literal?.isSome
  p.isBare && (p.needles.suffice || (isList && manyWords ≤ p.branches.length))

end Pattern

end SyntaxOutline
