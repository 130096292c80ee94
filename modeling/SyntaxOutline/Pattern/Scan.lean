import SyntaxOutline.Pattern.Failure

/-!
# Characters, numbers and escapes of a written pattern
-/

namespace SyntaxOutline.Pattern

/-- How far a pattern is read. -/
structure Cursor where
  /-- The number of characters of the whole pattern. -/
  size : Nat
  rest : List Char
  /-- The number of characters read. -/
  place : Nat
  /-- Whether blanks and comments are skipped. -/
  loose : Bool
  /-- The names of groups so far, and where they are. -/
  names : List (String × Region)
deriving Repr

/-- A reader moves the cursor or fails. -/
abbrev Reader := StateT Cursor (Except Failure)

namespace Reader

def fail {α : Type} (cause : Cause) (region : Region) : Reader α :=
  throw ⟨cause, region⟩

def here : Reader Nat := return (← get).place

/-- The next character. -/
def next? : Reader (Option Char) := return (← get).rest.head?

/-- The region of the next character. -/
def nextRegion : Reader Region := return ⟨(← get).place, (← get).place + 1⟩

/-- The region from a place up to here. -/
def since (start : Nat) : Reader Region := return ⟨start, (← get).place⟩

/-- Goes over a number of characters, which must be there. -/
def pass (count : Nat) : Reader Unit :=
  modify fun c => { c with rest := c.rest.drop count, place := c.place + count }

/-- Enough fuel for a loop that reads a character each time. -/
def enough : Reader Nat := return (← get).size + 1

/-- Goes over a text if it comes next. -/
def passText (text : String) : Reader Bool := do
  if text.toList.isPrefixOf (← get).rest then
    pass text.length
    return true
  else return false

/-- The number of blanks and characters of comments at the front. -/
def gapLength (inComment : Bool) : List Char → Nat
  | [] => 0
  | c :: cs =>
    if inComment then gapLength (c != '\n') cs + 1
    else if Text.isBlank c then gapLength false cs + 1
    else if c = '#' then gapLength true cs + 1
    else 0

/-- Skips blanks and comments where they do not count. -/
def skipGap : Reader Unit := do
  if (← get).loose then pass (gapLength false (← get).rest)

/-- Goes over a character and the gap behind it. -/
def passWithGap : Reader Unit := do
  pass 1
  skipGap

/-- The character behind the next one and the gap between them. A comment does not end a gap. -/
def afterNext? : Reader (Option Char) := do
  let behind := (← get).rest.drop 1
  if (← get).loose then
    let skipped := behind.dropWhile Text.isBlank
    let skipped := match skipped with
      | '#' :: cs => cs.dropWhile Text.isBlank
      | cs => cs
    return skipped.head? <|> behind.head?
  else return behind.head?

end Reader

open Reader

/-! ## Numbers -/

/-- Reads digits with gaps between them, as many as there are. `fuel` bounds their number. -/
def readDigits : Nat → Reader (List Char)
  | 0 => return []
  | fuel + 1 => do
    match ← next? with
    | some c =>
      if c.isDigit then
        passWithGap
        return c :: (← readDigits fuel)
      else return []
    | none => return []

/-- Skips blanks in front of a number. -/
def skipBlanks : Reader Unit := do
  pass ((← get).rest.takeWhile Text.isBlank).length

/-- Skips blanks behind a number, with the gaps between them. -/
def skipBlanksWithGaps : Nat → Reader Unit
  | 0 => return ()
  | fuel + 1 => do
    match ← next? with
    | some c =>
      if Text.isBlank c then
        passWithGap
        skipBlanksWithGaps fuel
    | none => return ()

/-- The largest count of a repetition. -/
def maxCount : Nat := 4294967295

/-- Reads a count. What is wrong with it is left for later, when the text behind it is known. -/
def readCount : Reader (Except Failure Nat) := do
  skipBlanks
  let start ← here
  let digits ← readDigits (← enough)
  let region ← since start
  skipBlanksWithGaps (← enough)
  if digits.isEmpty then return .error ⟨.countEmpty, region⟩
  match Text.ofDigits? 10 digits with
  | some n => if n ≤ maxCount then return .ok n else return .error ⟨.decimalTooLarge, region⟩
  | none => return .error ⟨.decimalTooLarge, region⟩

/-! ## Escapes -/

/-- The character of hexadecimal digits. -/
def codeChar? (digits : List Char) : Option Char :=
  (Text.ofDigits? 16 digits).bind Text.scalar?

def isHexDigit (c : Char) : Bool := (Text.hexDigit? c).isSome

/-- Reads a given number of hexadecimal digits with gaps between them. -/
def readCodeDigits : Nat → Reader (List Char)
  | 0 => return []
  | count + 1 => do
    match ← next? with
    | none => fail .escapeEnd (← since (← here))
    | some c =>
      if isHexDigit c then
        passWithGap
        return c :: (← readCodeDigits count)
      else fail .codeDigit (← nextRegion)

/-- Reads hexadecimal digits up to a closing brace; `start` is where the opening one is. -/
def readBracedDigits (start : Nat) : Nat → Reader (List Char)
  | 0 => do fail .escapeEnd (← since start)
  | fuel + 1 => do
    match ← next? with
    | none => fail .escapeEnd (← since start)
    | some c =>
      if c = '\x7d' then return []
      else if isHexDigit c then
        passWithGap
        return c :: (← readBracedDigits start fuel)
      else fail .codeDigit (← nextRegion)

/-- Reads a character by its number, behind a backslash and a letter. `escape` is where the
backslash is, and `width` how many digits there are without braces. -/
def readCode (escape width : Nat) : Reader Literal := do
  passWithGap
  match ← next? with
  | none => fail .escapeEnd (← since (← here))
  | some '\x7b' =>
    let start ← here
    let inside := start + 1
    passWithGap
    let digits ← readBracedDigits start (← enough)
    let stop ← here
    passWithGap
    if digits.isEmpty then fail .codeEmpty (← since start)
    match codeChar? digits with
    | some c => return ⟨c, false, ← since escape⟩
    | none => fail .codeNoCharacter ⟨inside, stop⟩
  | some _ =>
    let start ← here
    let digits ← readCodeDigits width
    match codeChar? digits with
    | some c => return ⟨c, width = 2, ← since escape⟩
    | none => fail .codeNoCharacter (← since start)

/-- Reads the name of a set up to a closing brace. -/
def readQueryName : Nat → Reader (List Char)
  | 0 => do fail .escapeEnd (← since (← here))
  | fuel + 1 => do
    match ← next? with
    | none => fail .escapeEnd (← since (← here))
    | some c =>
      if c = '\x7d' then
        pass 1
        return []
      else
        passWithGap
        return c :: (← readQueryName fuel)

/-- What a name with or without a value asks for. -/
def queryOf (name : String) : Query :=
  match name.splitOn "!=" with
  | first :: second :: rest => .otherValued first ("!=".intercalate (second :: rest))
  | _ =>
    match name.splitOn ":" with
    | first :: second :: rest => .valued first (":".intercalate (second :: rest))
    | _ =>
      match name.splitOn "=" with
      | first :: second :: rest => .valued first ("=".intercalate (second :: rest))
      | _ => .named name

/-- Reads the name of a set, behind a backslash and `p` or `P`. -/
def readQuery : Reader Query := do
  passWithGap
  match ← next? with
  | none => fail .escapeEnd (← since (← here))
  | some '\x7b' =>
    passWithGap
    let name ← readQueryName (← enough)
    return queryOf (String.ofList name)
  | some '\\' => fail .queryEscape (← nextRegion)
  | some c =>
    passWithGap
    return .named (String.singleton c)

/-- Whether a backslash in front of a character always makes it stand for itself. -/
def isEscapable (c : Char) : Bool := c.toNat < 0x80 && !c.isAlphanum && c != '<' && c != '>'

/-- The sides of words by their names in braces. -/
def wordSideOf? (name : String) : Option WordSide :=
  if name = "start" then some .start
  else if name = "end" then some .stop
  else if name = "start-half" then some .startHalf
  else if name = "end-half" then some .stopHalf
  else none

def isSideLetter (c : Char) : Bool := c.isAlpha || c == '-'

/-- Reads the letters of a name in braces. -/
def readSideLetters : Nat → Reader (List Char)
  | 0 => return []
  | fuel + 1 => do
    match ← next? with
    | some c =>
      if isSideLetter c then
        passWithGap
        return c :: (← readSideLetters fuel)
      else return []
    | none => return []

/-- Reads the side of a word in braces, behind `\b` at `escape`. Braces with anything but letters in
them are left for a count. -/
def readWordSide (escape : Nat) : Reader WordSide := do
  match ← next? with
  | some '\x7b' =>
    let before ← get
    let start ← here
    passWithGap
    match ← next? with
    | none => fail .wordSideEnd (← since escape)
    | some c =>
      if isSideLetter c then
        let inside ← here
        let name ← readSideLetters (← enough)
        match ← next? with
        | some '\x7d' =>
          let stop ← here
          pass 1
          match wordSideOf? (String.ofList name) with
          | some side => return side
          | none => fail .wordSideUnknown ⟨inside, stop⟩
        | _ => fail .wordSideUnclosed (← since start)
      else
        set before
        return .edge
  | _ => return .edge

/-- A part that is not made of other parts. -/
inductive Atom where
  | literal (l : Literal)
  | spot (kind : SpotTerm) (region : Region)
  | letter (kind : LetterClass) (negated : Bool) (region : Region)
  | query (query : Query) (negated : Bool) (region : Region)

def Atom.region : Atom → Region
  | .literal l => l.region
  | .spot _ region => region
  | .letter _ _ region => region
  | .query _ _ region => region

/-- Reads a backslash and what belongs to it. -/
def readEscape : Reader Atom := do
  let start ← here
  pass 1
  match ← next? with
  | none => fail .escapeEnd (← since start)
  | some c =>
    if c.isDigit then fail .backreference ⟨start, (← here) + 1⟩
    else if c = 'x' then return .literal (← readCode start 2)
    else if c = 'u' then return .literal (← readCode start 4)
    else if c = 'U' then return .literal (← readCode start 8)
    else if c = 'p' ∨ c = 'P' then
      let query ← readQuery
      return .query query (c = 'P') (← since start)
    else
      pass 1
      let region ← since start
      let letter (kind : LetterClass) (negated : Bool) : Reader Atom :=
        return .letter kind negated region
      let literal (char : Char) : Reader Atom := return .literal ⟨char, false, region⟩
      let spot (kind : SpotTerm) : Reader Atom := return .spot kind region
      match c with
      | 'd' => letter .digit false
      | 'D' => letter .digit true
      | 's' => letter .blank false
      | 'S' => letter .blank true
      | 'w' => letter .word false
      | 'W' => letter .word true
      | 'a' => literal '\x07'
      | 'f' => literal '\x0c'
      | 't' => literal '\t'
      | 'n' => literal '\n'
      | 'r' => literal '\r'
      | 'v' => literal '\x0b'
      | 'A' => spot .textStart
      | 'z' => spot .textEnd
      | 'b' =>
        let side ← readWordSide start
        return .spot (.word side) (← since start)
      | 'B' => spot (.word .noEdge)
      | '<' => spot (.word .start)
      | '>' => spot (.word .stop)
      | c => if isEscapable c then literal c else fail .escapeUnknown region

end SyntaxOutline.Pattern
