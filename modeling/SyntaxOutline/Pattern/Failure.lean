import SyntaxOutline.Pattern.Term

/-!
# Why a pattern cannot be used

* `Failure.report` : the cause below the text of the pattern, with marks under the region it is in.
-/

namespace SyntaxOutline.Pattern

inductive Cause where
  | setEscape
  | setRangeOrder
  | setRangeEnd
  | setUnclosed
  | decimalEmpty
  | decimalTooLarge
  | codeEmpty
  | codeNoCharacter
  | codeDigit
  | escapeEnd
  | escapeUnknown
  | flagNegationLast
  | flagTwice (first : Region)
  | flagNegationTwice (first : Region)
  | flagEnd
  | flagUnknown
  | nameTwice (first : Region)
  | nameEmpty
  | nameCharacter
  | nameUnclosed
  | groupUnclosed
  | groupUnopened
  | tooDeep (limit : Nat)
  | countOrder
  | countEmpty
  | countUnclosed
  | repetitionOfNothing
  | wordSideUnclosed
  | wordSideUnknown
  | wordSideEnd
  | queryEscape
  | backreference
  | lookAround
  | unicodeOff
  | brokenCharacters
  | queryName
  | queryValue
deriving DecidableEq, Repr

namespace Cause

def message : Cause → String
  | .setEscape => "invalid escape sequence found in character class"
  | .setRangeOrder => "invalid character class range, the start must be <= the end"
  | .setRangeEnd => "invalid range boundary, must be a literal"
  | .setUnclosed => "unclosed character class"
  | .decimalEmpty => "decimal literal empty"
  | .decimalTooLarge => "decimal literal invalid"
  | .codeEmpty => "hexadecimal literal empty"
  | .codeNoCharacter => "hexadecimal literal is not a Unicode scalar value"
  | .codeDigit => "invalid hexadecimal digit"
  | .escapeEnd => "incomplete escape sequence, reached end of pattern prematurely"
  | .escapeUnknown => "unrecognized escape sequence"
  | .flagNegationLast => "dangling flag negation operator"
  | .flagTwice _ => "duplicate flag"
  | .flagNegationTwice _ => "flag negation operator repeated"
  | .flagEnd => "expected flag but got end of regex"
  | .flagUnknown => "unrecognized flag"
  | .nameTwice _ => "duplicate capture group name"
  | .nameEmpty => "empty capture group name"
  | .nameCharacter => "invalid capture group character"
  | .nameUnclosed => "unclosed capture group name"
  | .groupUnclosed => "unclosed group"
  | .groupUnopened => "unopened group"
  | .tooDeep limit => s!"exceed the maximum number of nested parentheses/brackets ({limit})"
  | .countOrder => "invalid repetition count range, the start must be <= the end"
  | .countEmpty => "repetition quantifier expects a valid decimal"
  | .countUnclosed => "unclosed counted repetition"
  | .repetitionOfNothing => "repetition operator missing expression"
  | .wordSideUnclosed =>
    "special word boundary assertion is either unclosed or contains an invalid character"
  | .wordSideUnknown =>
    "unrecognized special word boundary assertion, " ++
      "valid choices are: start, end, start-half or end-half"
  | .wordSideEnd =>
    "found either the beginning of a special word boundary or a bounded repetition on a \\b " ++
      "with an opening brace, but no closing brace"
  | .queryEscape => "invalid Unicode character class"
  | .backreference => "backreferences are not supported"
  | .lookAround => "look-around, including look-ahead and look-behind, is not supported"
  | .unicodeOff => "Unicode not allowed here"
  | .brokenCharacters => "pattern can match invalid UTF-8"
  | .queryName => "Unicode property not found"
  | .queryValue => "Unicode property value not found"

/-- The region of what stands in the way. -/
def other? : Cause → Option Region
  | .flagTwice first => some first
  | .flagNegationTwice first => some first
  | .nameTwice first => some first
  | _ => none

end Cause

/-- A cause and the region it is in. -/
structure Failure where
  cause : Cause
  region : Region
deriving DecidableEq, Repr

/-! ## Reports -/

/-- A place in a text, both numbers counted from one. -/
structure LinePlace where
  line : Nat
  column : Nat
deriving DecidableEq, Repr

/-- The place behind the first `count` characters. -/
def linePlace (text : List Char) (count : Nat) : LinePlace :=
  (text.take count).foldl
    (fun place c => if c = '\n' then ⟨place.line + 1, 1⟩ else ⟨place.line, place.column + 1⟩) ⟨1, 1⟩

/-- The lines of a text without their ends. A text that ends in a line ending has no line behind
it. -/
def linesOf (text : String) : List String :=
  match (text.splitOn "\n").reverse with
  | [] => []
  | last :: before =>
    let ended := before.reverse.map fun line =>
      if line.endsWith "\r" then (line.dropEnd 1).copy else line
    if last = "" then ended else ended ++ [last]

/-- A count of the same character. -/
def copies (count : Nat) (c : Char) : String := String.ofList (List.replicate count c)

/-- Marks under columns of a line, from left to right. An empty region has one mark. -/
def marks (regions : List (LinePlace × LinePlace)) : String :=
  String.ofList (regions.foldl
    (fun line (start, stop) =>
      line ++ List.replicate (start.column - 1 - line.length) ' ' ++
        List.replicate (max 1 (stop.column - start.column)) '^') [])

/-- The lines of a pattern, those with regions on them followed by the marks. Lines are numbered if
there are several. -/
def annotated (text : String) (regions : List (LinePlace × LinePlace)) : String :=
  let lines := linesOf text
  let count := lines.length + if text.endsWith "\n" then 1 else 0
  let width := if count ≤ 1 then 0 else (toString count).length
  let indent := copies (if width = 0 then 4 else width + 2) ' '
  String.join ((lines.zipIdx 1).map fun (line, number) =>
    let head :=
      if width = 0 then indent
      else copies (width - (toString number).length) ' ' ++ toString number ++ ": "
    let here := regions.filter fun (start, _) => start.line = number
    head ++ line ++ "\n" ++ if here.isEmpty then "" else indent ++ marks here ++ "\n")

/-- The failure, as told about the text of the pattern. -/
def Failure.report (text : String) (f : Failure) : String :=
  let regions := match f.cause.other? with
    | none => [f.region]
    | some other => if other.start ≤ f.region.start then [other, f.region] else [f.region, other]
  let places := regions.map fun r => (linePlace text.toList r.start, linePlace text.toList r.stop)
  let (inLine, across) := places.partition fun (start, stop) => start.line = stop.line
  let notes := across.map fun (start, stop) =>
    s!"on line {start.line} (column {start.column}) through line {stop.line} " ++
      s!"(column {stop.column - 1})"
  let divider := copies 79 '~' ++ "\n"
  let body := annotated text inLine
  let framed :=
    if text.toList.contains '\n' then
      divider ++ body ++ divider ++
        if notes.isEmpty then "" else "\n".intercalate notes ++ "\n"
    else body
  "regex parse error:\n" ++ framed ++ "error: " ++ f.cause.message

end SyntaxOutline.Pattern
