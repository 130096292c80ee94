import SyntaxOutline.Toml.Failure

/-!
# Blanks, keys and strings of a TOML text
-/

namespace SyntaxOutline.Toml

/-! ## Blanks and comments -/

def isSpace (c : Char) : Bool := c == ' ' || c == '\t'

def skipSpaces (cs : List Char) : List Char := cs.dropWhile isSpace

/-- The text behind a line ending. -/
def lineEnd? : List Char → Option (List Char)
  | '\n' :: cs => some cs
  | '\r' :: '\n' :: cs => some cs
  | _ => none

/-- Whether a character may stand in a comment or a string as it is. -/
def isPlain (c : Char) : Bool := c == '\t' || (0x20 ≤ c.toNat && c.toNat != 0x7F)

/-- Skips a comment if there is one, up to the end of its line. -/
def skipComment : List Char → Except Failure (List Char)
  | '#' :: cs =>
    match cs.dropWhile isPlain with
    | [] => .ok []
    | rest => if (lineEnd? rest).isSome then .ok rest else fail .invalidCharacter rest
  | cs => .ok cs

/-- Skips blanks, comments and line endings. Every step reads something, so `fuel` is enough if it
is the length of the text. -/
def skipLines : Nat → List Char → Except Failure (List Char)
  | 0, cs => .ok cs
  | fuel + 1, cs => do
    let rest ← skipComment (skipSpaces cs)
    match lineEnd? rest with
    | some rest => skipLines fuel rest
    | none => .ok rest

/-- Skips everything between values inside brackets. -/
def skipGap (cs : List Char) : Except Failure (List Char) := skipLines (cs.length + 1) cs

/-- Reads the rest of a line that must be blank but for a comment. -/
def readLineEnd (cs : List Char) : Except Failure (List Char) := do
  let rest ← skipComment (skipSpaces cs)
  match rest with
  | [] => return []
  | rest =>
    match lineEnd? rest with
    | some rest => return rest
    | none => fail .expectedLineEnd rest

/-! ## Strings -/

/-- The character written by a number of hexadecimal digits. -/
def readCode (digits : Nat) (cs : List Char) : Except Failure (Char × List Char) :=
  let code := cs.take digits
  match if code.length = digits then (Text.ofDigits? 16 code).bind Text.scalar? else none with
  | some c => .ok (c, cs.drop digits)
  | none => fail .invalidEscape cs

/-- Reads what stands behind a backslash. -/
def readEscape : Reader Char
  | 'b' :: cs => .ok ('\x08', cs)
  | 't' :: cs => .ok ('\t', cs)
  | 'n' :: cs => .ok ('\n', cs)
  | 'f' :: cs => .ok ('\x0c', cs)
  | 'r' :: cs => .ok ('\r', cs)
  | 'e' :: cs => .ok ('\x1b', cs)
  | '"' :: cs => .ok ('"', cs)
  | '\\' :: cs => .ok ('\\', cs)
  | 'x' :: cs => readCode 2 cs
  | 'u' :: cs => readCode 4 cs
  | 'U' :: cs => readCode 8 cs
  | cs => fail .invalidEscape cs

/-- Skips blanks and line endings. -/
def skipBlankLines : List Char → List Char
  | '\r' :: '\n' :: cs => skipBlankLines cs
  | c :: cs => if isSpace c || c == '\n' then skipBlankLines cs else c :: cs
  | [] => []

/-- The text behind a line ending that a backslash takes away, with the blanks that follow it. -/
def joinLine? (cs : List Char) : Option (List Char) :=
  (lineEnd? (skipSpaces cs)).map skipBlankLines

/-- Reads the characters of a string on one line, up to its quote. `fuel` bounds their number. -/
def readBasic : Nat → Reader (List Char)
  | 0, cs => fail .unclosedString cs
  | _, [] => fail .unclosedString []
  | fuel + 1, c :: cs =>
    if c = '"' then .ok ([], cs)
    else if c = '\\' then do
      let (found, rest) ← readEscape cs
      let (more, rest) ← readBasic fuel rest
      return (found :: more, rest)
    else if isPlain c then do
      let (more, rest) ← readBasic fuel cs
      return (c :: more, rest)
    else fail .invalidCharacter (c :: cs)

/-- Reads the characters of a literal string on one line, up to its quote. -/
def readLiteral : Reader (List Char)
  | [] => fail .unclosedString []
  | c :: cs =>
    if c = '\'' then .ok ([], cs)
    else if isPlain c then do
      let (more, rest) ← readLiteral cs
      return (c :: more, rest)
    else fail .invalidCharacter (c :: cs)

/-- The end of a string over several lines: three quotes, before which up to two more belong to the
string. Gives those and the text behind. -/
def closing? (quote : Char) (cs : List Char) : Option (List Char × List Char) :=
  let count := ((cs.takeWhile (· == quote)).take 5).length
  if count < 3 then none else some (List.replicate (count - 3) quote, cs.drop count)

/-- Reads the characters of a string over several lines, up to its quotes. `fuel` bounds their
number. -/
def readLong (quote : Char) : Nat → Reader (List Char)
  | 0, cs => fail .unclosedString cs
  | _, [] => fail .unclosedString []
  | fuel + 1, c :: cs =>
    match closing? quote (c :: cs) with
    | some (last, rest) => .ok (last, rest)
    | none =>
      if c = '\\' ∧ quote = '"' then
        match joinLine? cs with
        | some rest => readLong quote fuel rest
        | none => do
          let (found, rest) ← readEscape cs
          let (more, rest) ← readLong quote fuel rest
          return (found :: more, rest)
      else if isPlain c ∨ (lineEnd? (c :: cs)).isSome then do
        let (more, rest) ← readLong quote fuel cs
        return (c :: more, rest)
      else fail .invalidCharacter (c :: cs)

/-- Takes away the line ending that follows the opening quotes of a string over several lines. -/
def dropFirstLineEnd (cs : List Char) : List Char := (lineEnd? cs).getD cs

/-- Reads a string behind its first quote. -/
def readString (quote : Char) (cs : List Char) : Except Failure (String × List Char) := do
  let (found, rest) ←
    if [quote, quote].isPrefixOf cs then
      let body := dropFirstLineEnd (cs.drop 2)
      readLong quote (body.length + 1) body
    else if quote = '"' then readBasic (cs.length + 1) cs
    else readLiteral cs
  return (String.ofList found, rest)

/-! ## Keys -/

/-- One part of a dotted key. -/
structure Key where
  name : String
  region : Region

def isBare (c : Char) : Bool := c.isAlphanum || c == '_' || c == '-'

/-- Reads one part of a key. -/
def readKey (cs : List Char) : Except Failure (Key × List Char) :=
  match cs with
  | '"' :: rest => do
    let (found, rest) ← readBasic (rest.length + 1) rest
    return (⟨String.ofList found, .upTo cs rest⟩, rest)
  | '\'' :: rest => do
    let (found, rest) ← readLiteral rest
    return (⟨String.ofList found, .upTo cs rest⟩, rest)
  | cs =>
    let found := cs.takeWhile isBare
    let rest := cs.dropWhile isBare
    if found.isEmpty then fail .expectedKey cs else .ok (⟨String.ofList found, .upTo cs rest⟩, rest)

/-- How many parts a key may have behind its first one. -/
def maxParts : Nat := 79

/-- Reads the parts of a key behind those already read; `room` is how many more it may have. -/
def readPath (path : List Key) (last : Key) : Nat → Reader (List Key × Key)
  | room, cs =>
    match skipSpaces cs, room with
    | '.' :: rest, 0 => fail .tooDeep rest
    | '.' :: rest, room + 1 => do
      let (key, rest) ← readKey (skipSpaces rest)
      readPath (path ++ [last]) key room rest
    | _, _ => .ok ((path, last), cs)

/-- Reads a key: the parts before the last one, and the last one. -/
def readDotted (cs : List Char) : Except Failure ((List Key × Key) × List Char) := do
  let (first, rest) ← readKey cs
  readPath [] first maxParts rest

end SyntaxOutline.Toml
