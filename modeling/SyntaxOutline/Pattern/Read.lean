import SyntaxOutline.Pattern.Scan

/-!
# Reading a written pattern

* `Term.ofText` : the pattern that a text writes.
-/

namespace SyntaxOutline.Pattern

open Reader

/-! ## Sets -/

/-- The sets that are written as a name between `[:` and `:]`. -/
def asciiSets : List (String × CharSet) := [
  ("alnum", .ofText "30-39 41-5a 61-7a"), ("alpha", .ofText "41-5a 61-7a"),
  ("ascii", .ofText "0-7f"), ("blank", .ofText "9 20"), ("cntrl", .ofText "0-1f 7f"),
  ("digit", .ofText "30-39"), ("graph", .ofText "21-7e"), ("lower", .ofText "61-7a"),
  ("print", .ofText "20-7e"), ("punct", .ofText "21-2f 3a-40 5b-60 7b-7e"),
  ("space", .ofText "9-d 20"), ("upper", .ofText "41-5a"),
  ("word", .ofText "30-39 41-5a 5f 61-7a"), ("xdigit", .ofText "30-39 41-46 61-66")]

/-- Reads a name between `[:` and `:]` if there is a known one. -/
def readAsciiSet? : Reader (Option SetTerm) := do
  let start ← here
  match (← get).rest with
  | '[' :: ':' :: cs =>
    let (negated, cs) := match cs with
      | '^' :: cs => (true, cs)
      | cs => (false, cs)
    let name := cs.takeWhile (· != ':')
    if [':', ']'].isPrefixOf (cs.drop name.length) then
      match asciiSets.lookup (String.ofList name) with
      | some set =>
        pass (name.length + if negated then 5 else 4)
        return some (.listed set negated (← since start))
      | none => return none
    else return none
  | _ => return none

/-- Reads a character or an escape inside a set. -/
def readSetAtom : Reader Atom := do
  match ← next? with
  | some '\\' => readEscape
  | some c =>
    let region ← nextRegion
    pass 1
    return .literal ⟨c, false, region⟩
  | none => fail .setUnclosed (← since (← here))

/-- An atom as a member of a set. -/
def Atom.setTerm : Atom → Reader SetTerm
  | .literal l => return .char l
  | .letter kind negated region => return .letter kind negated region
  | .query q negated region => return .query q negated region
  | .spot _ region => fail .setEscape region

/-- An atom as an end of a range. -/
def Atom.rangeEnd : Atom → Reader Literal
  | .literal l => return l
  | atom => fail .setRangeEnd atom.region

/-- Reads a member of a set or a range of them; `opening` is where the set is opened. -/
def readSetItem (opening : Region) : Reader SetTerm := do
  let first ← readSetAtom
  skipGap
  match ← next? with
  | none => fail .setUnclosed opening
  | some c =>
    let behind ← afterNext?
    if c ≠ '-' ∨ behind = some ']' ∨ behind = some '-' then first.setTerm
    else
      passWithGap
      if (← next?).isNone then fail .setUnclosed opening
      let last ← readSetAtom
      let region : Region := ⟨first.region.start, last.region.stop⟩
      let first ← first.rangeEnd
      let last ← last.rangeEnd
      if last.char < first.char then fail .setRangeOrder region
      return .range first last region

/-- Reads the hyphens in front of a set, which stand for themselves; `start` is where the set is
opened. -/
def readHyphens (start : Nat) : Nat → Reader (List SetTerm)
  | 0 => return []
  | fuel + 1 => do
    if (← next?) = some '-' then
      let region ← nextRegion
      passWithGap
      if (← next?).isNone then fail .setUnclosed ⟨start, start⟩
      return .char ⟨'-', false, region⟩ :: (← readHyphens start fuel)
    else return []

/-- The operation that is written next. -/
def nextOperation? : Reader (Option SetOperation) := do
  match (← get).rest with
  | '&' :: '&' :: _ => return some .inter
  | '-' :: '-' :: _ => return some .diff
  | '~' :: '~' :: _ => return some .symmDiff
  | _ => return none

/-- An operation with its left side, still to be joined with the right one. -/
abbrev Pending := Option (SetOperation × SetTerm)

/-- The members read so far, the last one first, joined with what is pending. They begin at
`place`. -/
def Pending.join (pending : Pending) (place : Nat) (items : List SetTerm) : SetTerm :=
  let right := SetTerm.ofItems ⟨place, place⟩ items.reverse
  match pending with
  | none => right
  | some (operation, left) =>
    .combine operation left right ⟨left.region.start, right.region.stop⟩

mutual

/-- Reads a set in brackets. -/
def readBracket : Nat → Reader SetTerm
  | 0 => do fail .setUnclosed (← since (← here))
  | fuel + 1 => do
    let start ← here
    let orUnclosed : Reader Unit := do
      if (← next?).isNone then fail .setUnclosed (← since start)
    passWithGap
    orUnclosed
    let negated := (← next?) = some '^'
    if negated then
      passWithGap
      orUnclosed
    let place ← here
    let hyphens ← readHyphens start fuel
    let front ←
      if hyphens.isEmpty ∧ (← next?) = some ']' then do
        let region ← nextRegion
        passWithGap
        orUnclosed
        pure [SetTerm.char ⟨']', false, region⟩]
      else pure hyphens
    let opening ← since start
    let body ← readSetItems opening fuel none place front.reverse
    return .bracket negated body (← since start)

/-- Reads the members of a set up to its closing bracket, with the operations between them. `place`
is where the members behind the last operation begin, and `items` are those read so far, the last
one first. -/
def readSetItems (opening : Region) : Nat → Pending → Nat → List SetTerm → Reader SetTerm
  | 0, _, _, _ => fail .setUnclosed opening
  | fuel + 1, pending, place, items => do
    skipGap
    match ← nextOperation? with
    | some operation =>
      pass 2
      readSetItems opening fuel (some (operation, pending.join place items)) (← here) []
    | none =>
      match ← next? with
      | none => fail .setUnclosed opening
      | some ']' =>
        pass 1
        return pending.join place items
      | some '[' =>
        match ← readAsciiSet? with
        | some item => readSetItems opening fuel pending place (item :: items)
        | none =>
          let item ← readBracket fuel
          readSetItems opening fuel pending place (item :: items)
      | some _ =>
        let item ← readSetItem opening
        readSetItems opening fuel pending place (item :: items)

end

/-! ## Groups -/

def flagOf? (c : Char) : Option Flag :=
  match c with
  | 'i' => some .anyCase
  | 'm' => some .lines
  | 's' => some .dotAll
  | 'U' => some .few
  | 'u' => some .unicode
  | 'R' => some .anyLineEnd
  | 'x' => some .loose
  | _ => none

/-- The flags read so far with where they are, and where a hyphen is if there was one. -/
structure FlagItems where
  flags : List (Flag × Bool × Region)
  hyphen : Option Region

/-- Reads flags up to `:` or `)`. -/
def readFlags : Nat → FlagItems → Reader FlagItems
  | 0, items => return items
  | fuel + 1, items => do
    match ← next? with
    | none => fail .flagEnd (← since (← here))
    | some c =>
      if c = ':' ∨ c = ')' then return items
      else
        let region ← nextRegion
        let items ←
          if c = '-' then
            match items.hyphen with
            | some first => fail (.flagNegationTwice first) region
            | none => pure { items with hyphen := some region }
          else
            match flagOf? c with
            | none => fail .flagUnknown region
            | some flag =>
              match items.flags.find? fun (f, _, _) => f == flag with
              | some (_, _, first) => fail (.flagTwice first) region
              | none =>
                pure { items with flags := items.flags ++ [(flag, items.hyphen.isNone, region)] }
        pass 1
        if (← next?).isNone then fail .flagEnd (← since (← here))
        if (← next?) = some ':' ∨ (← next?) = some ')' then
          if c = '-' then fail .flagNegationLast region
        readFlags fuel items

def isNameStart (c : Char) : Bool := c == '_' || Unicode.letter.contains c

def isNameChar (c : Char) : Bool :=
  isNameStart c || c == '.' || c == '[' || c == ']' || Unicode.number.contains c

/-- Reads the name of a group up to `>`. -/
def readName : Reader Unit := do
  if (← next?).isNone then fail .nameUnclosed (← since (← here))
  let start ← here
  let rest := (← get).rest
  let name := rest.takeWhile (· != '>')
  let good := match name with
    | [] => 0
    | c :: cs => if isNameStart c then (cs.takeWhile isNameChar).length + 1 else 0
  pass good
  if good < name.length then fail .nameCharacter (← nextRegion)
  if (← next?).isNone then fail .nameUnclosed (← since (← here))
  let region ← since start
  pass 1
  if name.isEmpty then fail .nameEmpty region
  let text := String.ofList name
  match (← get).names.lookup text with
  | some first => fail (.nameTwice first) region
  | none => modify fun c => { c with names := (text, region) :: c.names }

/-- What an opening parenthesis begins. -/
inductive Opening where
  /-- Flags for the rest of the enclosing group. -/
  | flags (changes : FlagChanges)
  | group (noted : Bool) (changes : FlagChanges)

/-- Reads an opening parenthesis and what belongs to it. -/
def readOpening : Reader Opening := do
  let start ← here
  pass 1
  skipGap
  for mark in ["?=", "?!", "?<=", "?<!"] do
    if ← passText mark then fail .lookAround (← since start)
  let inside ← here
  if (← passText "?P<") || (← passText "?<") then
    readName
    return .group true []
  else if ← passText "?" then
    if (← next?).isNone then fail .groupUnclosed ⟨start, start + 1⟩
    let items ← readFlags (← enough) ⟨[], none⟩
    let changes := items.flags.map fun (flag, on, _) => (flag, on)
    let closed := (← next?) = some ')'
    pass 1
    if closed then
      if items.flags.isEmpty ∧ items.hyphen.isNone then fail .repetitionOfNothing ⟨inside, inside⟩
      return .flags changes
    else return .group false changes
  else return .group true []

/-! ## Repetitions -/

/-- The part in front of a repetition and those before it. -/
def repeated (parts : List Term) : Reader (Term × List Term) := do
  match parts with
  | part :: before =>
    if part.isRepeatable then return (part, before)
    else fail .repetitionOfNothing (← since (← here))
  | [] => fail .repetitionOfNothing (← since (← here))

/-- Goes over a question mark behind a repetition, which makes it prefer few. -/
def passFew : Reader Bool := passText "?"

/-- Reads the counts of a repetition in braces and whether it prefers few. -/
def readCounts : Reader (Nat × Option Nat × Bool) := do
  let start ← here
  let orUnclosed : Reader Unit := do
    if (← next?).isNone then fail .countUnclosed (← since start)
  passWithGap
  orUnclosed
  let least ← readCount
  orUnclosed
  let counts ←
    if (← next?) = some ',' then do
      passWithGap
      orUnclosed
      if (← next?) = some '\x7d' then pure (← liftExcept least, none)
      else do
        let least ← liftExcept least
        let most ← liftExcept (← readCount)
        pure (least, some most)
    else do
      let count ← liftExcept least
      pure (count, some count)
  if (← next?) ≠ some '\x7d' then fail .countUnclosed (← since start)
  passWithGap
  let few ← passFew
  match counts with
  | (least, some most) => if most < least then fail .countOrder (← since start)
  | _ => pure ()
  return (counts.1, counts.2, few)
where
  liftExcept {α : Type} (e : Except Failure α) : Reader α :=
    match e with
    | .ok a => return a
    | .error f => throw f

/-! ## Parts -/

/-- Reads a character, an escape, or a sign that stands for a set or a spot. -/
def readAtom : Reader Term := do
  let region ← nextRegion
  match ← next? with
  | some '\\' =>
    match ← readEscape with
    | .literal l => return .literal l
    | .spot kind region => return .spot kind region
    | .letter kind negated region => return .set (.letter kind negated region)
    | .query q negated region => return .set (.query q negated region)
  | some '.' =>
    pass 1
    return .dot region
  | some '^' =>
    pass 1
    return .spot .caret region
  | some '$' =>
    pass 1
    return .spot .dollar region
  | some c =>
    pass 1
    return .literal ⟨c, false, region⟩
  | none => return .empty region

/-- Sets whether gaps are skipped. -/
def setLoose (loose : Bool) : Reader Unit := modify fun c => { c with loose := loose }

/-- Whether gaps are skipped after a change of flags. -/
def looseAfter (changes : FlagChanges) (loose : Bool) : Bool := (changes.lookup .loose).getD loose

mutual

/-- Reads parts up to a bar, a closing parenthesis or the end. `parts` are those read so far, the
last one first. -/
def readParts : Nat → List Term → Reader (List Term)
  | 0, parts => return parts.reverse
  | fuel + 1, parts => do
    skipGap
    let start ← here
    match ← next? with
    | none => return parts.reverse
    | some ')' => return parts.reverse
    | some '|' => return parts.reverse
    | some '(' =>
      match ← readOpening with
      | .flags changes =>
        setLoose (looseAfter changes (← get).loose)
        readParts fuel (.flags changes (← since start) :: parts)
      | .group isNoted changes =>
        let loose := (← get).loose
        setLoose (looseAfter changes loose)
        let part ← readBranches fuel
        if (← next?).isNone then fail .groupUnclosed ⟨start, start + 1⟩
        setLoose loose
        pass 1
        readParts fuel (.group isNoted changes part (← since start) :: parts)
    | some '[' =>
      let set ← readBracket (2 * (← enough))
      readParts fuel (.set set :: parts)
    | some '?' => readRepetition fuel parts 0 (some 1)
    | some '*' => readRepetition fuel parts 0 none
    | some '+' => readRepetition fuel parts 1 none
    | some '\x7b' =>
      let (part, before) ← repeated parts
      let (least, most, few) ← readCounts
      readParts fuel (.times part least most few (← since part.region.start) :: before)
    | some _ =>
      let part ← readAtom
      readParts fuel (part :: parts)

/-- Goes on behind the sign of a repetition. -/
def readRepetition : Nat → List Term → Nat → Option Nat → Reader (List Term)
  | 0, parts, _, _ => return parts.reverse
  | fuel + 1, parts, least, most => do
    let (part, before) ← repeated parts
    pass 1
    let few ← passFew
    readParts fuel (.times part least most few (← since part.region.start) :: before)

/-- Reads branches with bars between them up to a closing parenthesis or the end. -/
def readBranches : Nat → Reader Term
  | 0 => return .empty (← since (← here))
  | fuel + 1 => do
    let start ← here
    let parts ← readParts fuel []
    let first := Term.ofParts (← since start) parts
    let others ← readOtherBranches fuel
    if others.isEmpty then return first
    return .branches (first :: others) (← since start)

/-- Reads the branches behind bars. -/
def readOtherBranches : Nat → Reader (List Term)
  | 0 => return []
  | fuel + 1 => do
    if (← next?) = some '|' then
      pass 1
      let start ← here
      let parts ← readParts fuel []
      let branch := Term.ofParts (← since start) parts
      return branch :: (← readOtherBranches fuel)
    else return []

end

/-- How deep parts may be nested. -/
def maxDepth : Nat := 250

/-- Reads a whole pattern. -/
def readPattern : Reader Term := do
  let term ← readBranches (4 * (← enough))
  if (← next?).isSome then fail .groupUnopened (← nextRegion)
  match term.tooDeep? maxDepth with
  | some region => fail (.tooDeep maxDepth) region
  | none => return term

/-- The pattern that a text writes. -/
def Term.ofText (text : String) : Except Failure Term :=
  (readPattern.run ⟨text.length, text.toList, 0, false, []⟩).map (·.1)

end SyntaxOutline.Pattern
