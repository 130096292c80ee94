import SyntaxOutline.Pattern.Meaning
import SyntaxOutline.Text.Terminal

/-!
# Log lines and filters

What a program does is told in log lines. A filter says, by the name of the part that wrote a line,
which lines are shown.

* `LogLine.display`, `LogLine.stamp` : a line as it is listed, and as it is printed.
* `LogFilter.ofSpec` : the filter of a specification such as `warn`, `engine=debug,config=off` or
  `debug/[0-9]+ bytes`.
* `LogFilter.shows` : the longest target decides, and the pattern must occur in the message.
-/

namespace SyntaxOutline

/-- The levels of log lines, the gravest first. -/
inductive LogLevel where
  | error
  | warn
  | info
  | debug
  | trace
deriving DecidableEq, Repr

namespace LogLevel

def name : LogLevel → String
  | .error => "ERROR"
  | .warn => "WARN"
  | .info => "INFO"
  | .debug => "DEBUG"
  | .trace => "TRACE"

/-- How much is shown with this level as the bound. -/
def rank : LogLevel → Nat
  | .error => 1
  | .warn => 2
  | .info => 3
  | .debug => 4
  | .trace => 5

def all : List LogLevel := [.error, .warn, .info, .debug, .trace]

end LogLevel

/-- A log line: its level, the part of the program that wrote it, and its text. -/
structure LogLine where
  level : LogLevel
  target : String
  message : String
deriving DecidableEq, Repr

namespace LogLine

def display (l : LogLine) : String := l.level.name ++ " " ++ l.target ++ ": " ++ l.message

/-- The level and the target in front of a printed line, the level padded to five letters. -/
def heading (l : LogLine) : String :=
  let padding := String.ofList (List.replicate (5 - l.level.name.length) ' ')
  "[" ++ l.level.name ++ padding ++ " " ++ l.target ++ "] "

/-- The message with its further lines indented by four blanks. -/
def indented (l : LogLine) : String :=
  String.ofList (l.message.toList.flatMap fun c =>
    if c = '\n' then ['\n', ' ', ' ', ' ', ' '] else [c])

/-- The line as it is printed, with its end. Control sequences are taken out of the message. -/
def stamp (l : LogLine) : String := l.heading ++ Terminal.plain (l.indented ++ "\n")

end LogLine

/-! ## Filters -/

/-- Lines whose target begins with `target` (all lines if there is none) are shown up to the given
rank. -/
structure LogRule where
  target : Option String
  rank : Nat
deriving DecidableEq, Repr

/-- Rules with different targets, and a pattern that must occur in messages. -/
structure LogFilter where
  rules : List LogRule := []
  pattern : Pattern := .empty
deriving DecidableEq, Repr

/-- What is wrong with a specification. -/
inductive SpecFault where
  /-- An item, or the level of an item, means nothing. -/
  | meaningless (part : String)
  | tooManySlashes (spec : String)
  | badPattern (fault : Pattern.Fault)
deriving DecidableEq, Repr

def SpecFault.message : SpecFault → String
  | .meaningless part => s!"invalid logging spec '{part}'"
  | .tooManySlashes spec => s!"invalid logging spec '{spec}' (too many '/'s)"
  | .badPattern fault => "invalid regex filter - " ++ fault.message

namespace LogFilter

/-- The rank that the name of a level, in any case, stands for. -/
def rankOf? (s : String) : Option Nat :=
  let upper := s.map Char.toUpper
  if upper = "OFF" then some 0 else (LogLevel.all.find? (·.name == upper)).map LogLevel.rank

/-- The rule of one item of a specification. An item is the name of a level, a target, or both with
an equals sign between. -/
def ruleOf (item : String) : Except SpecFault LogRule :=
  match item.splitOn "=" with
  | [name] =>
    match rankOf? name with
    | some rank => .ok ⟨none, rank⟩
    | none => .ok ⟨some name, LogLevel.trace.rank⟩
  | [target, level] =>
    let level := Text.trim level
    if level = "" then .ok ⟨some target, LogLevel.trace.rank⟩
    else
      match rankOf? level with
      | some rank => .ok ⟨some target, rank⟩
      | none => .error (.meaningless level)
  | _ => .error (.meaningless item)

/-- Adds a rule in place of the one for the same target. -/
def insert (f : LogFilter) (rule : LogRule) : LogFilter :=
  if f.rules.any (·.target == rule.target) then
    { f with rules := f.rules.map fun r => if r.target == rule.target then rule else r }
  else { f with rules := f.rules ++ [rule] }

/-- Adds the rules of items with commas between, and tells what is wrong with them. -/
def addItems (f : LogFilter) (items : String) : LogFilter × List SpecFault :=
  (((items.splitOn ",").map Text.trim).filter (· ≠ "")).foldl
    (fun (f, faults) item =>
      match ruleOf item with
      | .ok rule => (f.insert rule, faults)
      | .error fault => (f, faults ++ [fault]))
    (f, [])

/-- A filter without rules shows errors only. -/
def orErrors (f : LogFilter) : LogFilter :=
  if f.rules.isEmpty then { f with rules := [⟨none, LogLevel.error.rank⟩] } else f

/-- The filter of a specification, and what is wrong with it. A specification has items and may have
a slash and a pattern behind them. -/
def ofSpec (spec : String) : LogFilter × List SpecFault :=
  match spec.splitOn "/" with
  | [items] =>
    let (f, faults) := addItems {} items
    (f.orErrors, faults)
  | [items, text] =>
    let (f, faults) := addItems {} items
    match Pattern.ofText text with
    | .ok pattern => ({ f.orErrors with pattern := pattern }, faults)
    | .error fault => (f.orErrors, faults ++ [.badPattern fault])
  | _ => (orErrors {}, [.tooManySlashes spec])

/-- The bytes of a rule's target. -/
def weight (rule : LogRule) : Nat := (rule.target.getD "").utf8ByteSize

def fits (target : String) (rule : LogRule) : Bool :=
  match rule.target with
  | some name => name.isPrefixOf target
  | none => true

/-- Whether a line is shown: the rule with the longest target that fits decides, and a line that no
rule fits is not shown. The pattern of the filter must occur in the message. -/
def shows (f : LogFilter) (l : LogLine) : Bool :=
  let fitting := f.rules.filter (fits l.target)
  let best := fitting.foldl
    (fun best rule =>
      match best with
      | none => some rule
      | some other => if weight other ≤ weight rule then some rule else some other)
    (none : Option LogRule)
  match best with
  | some rule => l.level.rank ≤ rule.rank && f.pattern.occursIn l.message.toList
  | none => false

end LogFilter

end SyntaxOutline
