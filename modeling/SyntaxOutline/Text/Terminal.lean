/-!
# Texts for a terminal

A text that comes from outside may hold control sequences, which begin with the escape character and
tell a terminal what to do. A plain text has none of them, and no control characters but white
space.

* `Terminal.Mode.next` : how a control sequence goes on.
* `Terminal.plain` : a text without its control sequences.
-/

namespace SyntaxOutline.Terminal

/-- Where in a control sequence a text stands. -/
inductive Mode where
  /-- Outside. -/
  | ground
  /-- Behind the escape character. -/
  | escape
  | escapeIntermediate
  /-- In a sequence of parameters that ends with a letter. -/
  | paramEntry
  | param
  | paramIntermediate
  | paramIgnore
  /-- In a string for the device, at its own parameters. -/
  | deviceEntry
  | deviceParam
  | deviceIntermediate
  | deviceIgnore
  | deviceText
  /-- In a string for the operating system, which the bell ends. -/
  | systemText
  /-- In any other string. -/
  | otherText
deriving DecidableEq, Repr

def escapeChar : Char := '\x1b'

/-- A control character that ends every sequence. -/
def isCancel (c : Char) : Bool := c == '\x18' || c == '\x1a'

def isControl (c : Char) : Bool := c.toNat < 0x20

def delete : Char := '\x7f'

/-- Whether the byte that ends a string is among those of the character. -/
def holdsTerminator (c : Char) : Bool :=
  (String.singleton c).toUTF8.toList.contains 0x9c

namespace Mode

/-- Whether control characters inside a sequence act at once. -/
def actsAtOnce : Mode → Bool
  | .ground | .escape | .escapeIntermediate => true
  | .paramEntry | .param | .paramIntermediate | .paramIgnore => true
  | _ => false

/-- The mode behind the escape character and one more. -/
def afterEscape (c : Char) : Mode :=
  if '\x20' ≤ c ∧ c ≤ '\x2f' then .escapeIntermediate
  else if c = '[' then .paramEntry
  else if c = ']' then .systemText
  else if c = 'P' then .deviceEntry
  else if c = 'X' ∨ c = '^' ∨ c = '_' then .otherText
  else .ground

/-- The mode behind a printable ASCII character. -/
def afterPrintable (c : Char) : Mode → Mode
  | .ground => .ground
  | .escape => afterEscape c
  | .escapeIntermediate => if c ≤ '\x2f' then .escapeIntermediate else .ground
  | .paramEntry =>
    if c ≤ '\x2f' then .paramIntermediate else if c ≤ '\x3f' then .param else .ground
  | .param =>
    if c ≤ '\x2f' then .paramIntermediate
    else if c ≤ '\x3b' then .param
    else if c ≤ '\x3f' then .paramIgnore
    else .ground
  | .paramIntermediate =>
    if c ≤ '\x2f' then .paramIntermediate else if c ≤ '\x3f' then .paramIgnore else .ground
  | .paramIgnore => if c ≤ '\x3f' then .paramIgnore else .ground
  | .deviceEntry =>
    if c ≤ '\x2f' then .deviceIntermediate else if c ≤ '\x3f' then .deviceParam else .deviceText
  | .deviceParam =>
    if c ≤ '\x2f' then .deviceIntermediate
    else if c ≤ '\x3b' then .deviceParam
    else if c ≤ '\x3f' then .deviceIgnore
    else .deviceText
  | .deviceIntermediate =>
    if c ≤ '\x2f' then .deviceIntermediate
    else if c ≤ '\x3f' then .deviceIgnore
    else .deviceText
  | .deviceIgnore => .deviceIgnore
  | .deviceText => .deviceText
  | .systemText => .systemText
  | .otherText => .otherText

/-- The mode behind a character beyond ASCII, in which a string may end. -/
def afterWide (c : Char) : Mode → Mode
  | .deviceIgnore => if holdsTerminator c then .ground else .deviceIgnore
  | .deviceText => if holdsTerminator c then .ground else .deviceText
  | .otherText => if holdsTerminator c then .ground else .otherText
  | mode => mode

/-- The mode behind a character. -/
def next (mode : Mode) (c : Char) : Mode :=
  if c = escapeChar then .escape
  else if isCancel c then .ground
  else if isControl c then
    if mode = .systemText ∧ c = '\x07' then .ground else mode
  else if c = delete then mode
  else if c < delete then mode.afterPrintable c
  else mode.afterWide c

end Mode

/-- White space among the control characters. -/
def isLayout (c : Char) : Bool := c == '\t' || c == '\n' || c == '\x0c' || c == '\r'

/-- Whether a character is kept in a mode: outside of sequences all but control characters, and
white space wherever control characters act at once. -/
def isKept (mode : Mode) (c : Char) : Bool :=
  if isControl c then mode.actsAtOnce && isLayout c else mode == .ground && c != delete

/-- Removes control sequences. Once a character has been kept, those behind it are kept as well
until one comes that would not be kept outside of sequences; only then does the sequence go on that
white space may have broken into. -/
def strip : Mode → Bool → List Char → List Char
  | _, _, [] => []
  | mode, true, c :: cs =>
    if isKept .ground c then c :: strip (if delete < c then .ground else mode) true cs
    else strip (mode.next c) false cs
  | mode, false, c :: cs =>
    if isKept mode c then c :: strip (mode.next c) true cs
    else strip (mode.next c) false cs

/-- The text without control sequences. -/
def plain (s : String) : String := String.ofList (strip .ground false s.toList)

end SyntaxOutline.Terminal
