import SyntaxOutline.Toml.Failure

/-!
# Numbers, dates and truth values of a TOML text

These are written without quotes as one run of letters, digits and signs, and told apart by their
form.
-/

namespace SyntaxOutline.Toml

/-! ## Numbers -/

/-- The digits of a number in which single underscores may stand between two of them. -/
def groupDigits? (isDigit : Char → Bool) : List Char → Option (List Char)
  | [] => none
  | [c] => if isDigit c then some [c] else none
  | c :: '_' :: cs => if isDigit c then (groupDigits? isDigit cs).map (c :: ·) else none
  | c :: cs => if isDigit c then (groupDigits? isDigit cs).map (c :: ·) else none

/-- A whole number behind a mark of its base. -/
def marked? (base : Nat) (cs : List Char) : Option Nat :=
  (groupDigits? (fun c => (Text.hexDigit? c).any (· < base)) cs).bind (Text.ofDigits? base)

def isDigitOrUnderscore (c : Char) : Bool := c.isDigit || c == '_'

/-- The digits of a whole number without a superfluous zero in front. -/
def wholeDigits? (cs : List Char) : Option (List Char) :=
  match groupDigits? Char.isDigit cs with
  | some ('0' :: _ :: _) => none
  | found => found

/-- Splits a sign off: whether there is one, whether it is a minus, and the rest. -/
def sign : List Char → Bool × Bool × List Char
  | '+' :: cs => (true, false, cs)
  | '-' :: cs => (true, true, cs)
  | cs => (false, false, cs)

/-- The exponent of a number, behind its mark. -/
def exponent? (cs : List Char) : Option Int :=
  let (_, negative, digits) := sign cs
  ((groupDigits? Char.isDigit digits).bind (Text.ofDigits? 10)).map fun n =>
    if negative then -n else n

/-- The digits behind the point and the exponent of a number. -/
def fraction? : List Char → Option (List Char × Int)
  | '.' :: cs =>
    match groupDigits? Char.isDigit (cs.takeWhile isDigitOrUnderscore),
      cs.dropWhile isDigitOrUnderscore with
    | some digits, [] => some (digits, 0)
    | some digits, c :: rest =>
      if c = 'e' ∨ c = 'E' then (exponent? rest).map (digits, ·) else none
    | none, _ => none
  | c :: cs => if c = 'e' ∨ c = 'E' then (exponent? cs).map ([], ·) else none
  | [] => none

/-- A number of the right form: a whole number or a decimal. -/
inductive Numeral where
  | whole (i : Int)
  | decimal (negative : Bool) (digits : Nat) (exponent : Int)
  | special (x : Double)

/-- The number that a run of characters writes. -/
def numeral? (cs : List Char) : Option Numeral :=
  let (signed, negative, body) := sign cs
  match signed, body with
  | _, ['i', 'n', 'f'] => some (.special (.infinite negative))
  | _, ['n', 'a', 'n'] => some (.special .notANumber)
  | false, '0' :: 'x' :: digits => (marked? 16 digits).map fun n => .whole n
  | false, '0' :: 'o' :: digits => (marked? 8 digits).map fun n => .whole n
  | false, '0' :: 'b' :: digits => (marked? 2 digits).map fun n => .whole n
  | _, body => do
    let whole ← wholeDigits? (body.takeWhile isDigitOrUnderscore)
    match body.dropWhile isDigitOrUnderscore with
    | [] =>
      let n ← Text.ofDigits? 10 whole
      return .whole (if negative then -n else n)
    | rest =>
      let (digits, exponent) ← fraction? rest
      let n ← Text.ofDigits? 10 (whole ++ digits)
      return .decimal negative n (exponent - digits.length)

/-- The value of a number. -/
def Numeral.toValue : Numeral → Value
  | .whole i => .integer i
  | .decimal negative digits exponent =>
    match Binary64.ofDecimal digits exponent with
    | some x => .float (.finite negative x)
    | none => .overflow negative
  | .special x => .float x

/-! ## Dates and times -/

/-- Reads a number of exactly the given count of digits. -/
def fixedDigits? (count : Nat) (cs : List Char) : Option (Nat × List Char) :=
  let digits := cs.take count
  if digits.length = count ∧ digits.all Char.isDigit then
    (Text.ofDigits? 10 digits).map (·, cs.drop count)
  else none

/-- Reads the given character. -/
def char? (c : Char) : List Char → Option (List Char)
  | d :: cs => if d = c then some cs else none
  | [] => none

def isLeapYear (year : Nat) : Bool := year % 4 == 0 && (year % 100 != 0 || year % 400 == 0)

def daysIn (year month : Nat) : Nat :=
  if month = 2 then if isLeapYear year then 29 else 28
  else if month = 4 ∨ month = 6 ∨ month = 9 ∨ month = 11 then 30
  else 31

/-- Reads a day of the calendar. -/
def date? (cs : List Char) : Option (List Char) := do
  let (year, cs) ← fixedDigits? 4 cs
  let (month, cs) ← fixedDigits? 2 (← char? '-' cs)
  let (day, cs) ← fixedDigits? 2 (← char? '-' cs)
  if 1 ≤ month ∧ month ≤ 12 ∧ 1 ≤ day ∧ day ≤ daysIn year month then some cs else none

/-- Reads a fraction of a second if there is one. -/
def subsecond? : List Char → Option (List Char)
  | '.' :: cs =>
    match cs with
    | c :: rest => if c.isDigit then some (rest.dropWhile Char.isDigit) else none
    | [] => none
  | cs => some cs

/-- Reads a time of the day; the seconds may be missing. -/
def time? (cs : List Char) : Option (List Char) := do
  let (hour, cs) ← fixedDigits? 2 cs
  let (minute, cs) ← fixedDigits? 2 (← char? ':' cs)
  if hour ≤ 23 ∧ minute ≤ 59 then
    match cs with
    | ':' :: cs =>
      let (second, cs) ← fixedDigits? 2 cs
      if second ≤ 60 then subsecond? cs else none
    | cs => some cs
  else none

/-- Whether the text is an offset from universal time. -/
def isOffset : List Char → Bool
  | ['Z'] => true
  | ['z'] => true
  | c :: cs =>
    (c == '+' || c == '-') &&
      match fixedDigits? 2 cs with
      | some (hour, ':' :: cs) =>
        match fixedDigits? 2 cs with
        | some (minute, []) => hour ≤ 23 && minute ≤ 59
        | _ => false
      | _ => false
  | [] => false

/-- Whether the text is a date, a time, or both with a separator between and perhaps an offset. -/
def isDatetime (cs : List Char) : Bool :=
  match date? cs with
  | some [] => true
  | some (c :: rest) =>
    (c == 'T' || c == 't' || c == ' ') &&
      match time? rest with
      | some [] => true
      | some rest => isOffset rest
      | none => false
  | none => time? cs == some []

/-! ## Runs -/

/-- A character of an unquoted value. -/
def isRunChar (c : Char) : Bool :=
  c.isAlphanum || c == '+' || c == '-' || c == '_' || c == '.' || c == ':'

/-- Splits an unquoted value off; a date and a time may have a blank between them. -/
def splitRun (cs : List Char) : List Char × List Char :=
  let run := cs.takeWhile isRunChar
  match date? run, cs.dropWhile isRunChar with
  | some [], ' ' :: c :: rest =>
    if c.isDigit then
      (run ++ ' ' :: (c :: rest).takeWhile isRunChar, (c :: rest).dropWhile isRunChar)
    else (run, ' ' :: c :: rest)
  | _, rest => (run, rest)

/-- Reads an unquoted value. -/
def readScalar (cs : List Char) : Except Failure (Value × List Char) :=
  let (run, rest) := splitRun cs
  if run = ['t', 'r', 'u', 'e'] then .ok (.boolean true, rest)
  else if run = ['f', 'a', 'l', 's', 'e'] then .ok (.boolean false, rest)
  else if isDatetime run then .ok (.datetime (String.ofList run), rest)
  else
    match numeral? run with
    | some n => .ok (n.toValue, rest)
    | none => fail .expectedValue cs

end SyntaxOutline.Toml
