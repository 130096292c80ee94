import SyntaxOutline.Grammar
import SyntaxOutline.Settings.Basic
import SyntaxOutline.Text.Terminal

/-!
# Command-line arguments

Arguments are taken from left to right. The value of an option may be attached to it or be the next
argument; in that case it waits until the next argument has been recognised, so that an argument
that means nothing is reported before a value that is wrong.

* `Arguments.parse` : what the arguments ask for.
* `Arguments.override` : the settings with what the arguments change.
-/

namespace SyntaxOutline

/-- What a run was told on the command line. -/
structure Arguments where
  grammar : Option Grammar := none
  pretty : Bool := false
  kinds : Bool := false
  maxDepth : Option UInt64 := none
  maxNodes : Option UInt64 := none
  config : Option String := none
  file : Option String := none
deriving DecidableEq, Repr, Inhabited

/-- The settings with what the arguments change. -/
def Arguments.override (a : Arguments) (s : Settings) : Settings where
  grammar := a.grammar.getD s.grammar
  output := {
    pretty := a.pretty || s.output.pretty
    includeKinds := a.kinds || s.output.includeKinds }
  limits := {
    maxDepth := a.maxDepth <|> s.limits.maxDepth
    maxNodes := a.maxNodes <|> s.limits.maxNodes }

namespace Arguments

/-! ## Options -/

/-- What takes a value. -/
inductive Slot where
  | grammar
  | maxDepth
  | maxNodes
  | config
  | file
deriving DecidableEq, Repr

def Slot.display : Slot → String
  | .grammar => "--grammar <GRAMMAR>"
  | .maxDepth => "--max-depth <N>"
  | .maxNodes => "--max-nodes <N>"
  | .config => "--config <PATH>"
  | .file => "[FILE]"

/-- What takes no value. -/
inductive Switch where
  | pretty
  | kinds
  | help
  | version
deriving DecidableEq, Repr

def Switch.display : Switch → String
  | .pretty => "--pretty"
  | .kinds => "--kinds"
  | .help => "--help"
  | .version => "--version"

/-- The option of a long name. -/
def long? : String → Option (Slot ⊕ Switch)
  | "grammar" => some (.inl .grammar)
  | "max-depth" => some (.inl .maxDepth)
  | "max-nodes" => some (.inl .maxNodes)
  | "config" => some (.inl .config)
  | "pretty" => some (.inr .pretty)
  | "kinds" => some (.inr .kinds)
  | "help" => some (.inr .help)
  | "version" => some (.inr .version)
  | _ => none

/-- The option of a letter. -/
def short? : Char → Option (Slot ⊕ Switch)
  | 'g' => some (.inl .grammar)
  | 'h' => some (.inr .help)
  | 'V' => some (.inr .version)
  | _ => none

/-! ## Outcomes -/

/-- What is wrong with the arguments. -/
inductive Fault where
  | unexpected (argument : String)
  | unexpectedValue (value : String) (switch : Switch)
  | missingValue (slot : Slot)
  | invalidValue (value : String) (slot : Slot) (reason : String)
  | repeated (option : String)
deriving DecidableEq, Repr

/-- The line behind every report. -/
def hint : String := "\n\nFor more information, try '"

/-- The report on a fault. Control sequences are taken out of what was given, each time on its own;
a reason is not set apart from what follows it. -/
def Fault.report : Fault → String
  | .unexpected argument =>
    "error: unexpected argument '" ++ Terminal.plain argument ++ "' found" ++ hint ++ "--help'.\n"
  | .unexpectedValue value switch =>
    "error: unexpected value '" ++ Terminal.plain value ++ "' for '" ++ switch.display
      ++ "' found; no more were expected" ++ hint ++ "--help'.\n"
  | .missingValue slot =>
    "error: a value is required for '" ++ slot.display ++ "' but none was supplied" ++ hint
      ++ "--help'.\n"
  | .invalidValue value slot reason =>
    "error: invalid value '" ++ Terminal.plain value ++ "' for '" ++ slot.display ++ "'"
      ++ Terminal.plain (": " ++ reason ++ hint) ++ "--help'.\n"
  | .repeated option =>
    s!"error: the argument '{option}' cannot be used multiple times" ++ hint ++ "--help'.\n"

/-- What ends the reading of arguments early. -/
inductive Halt where
  | help
  | version
  | fault (fault : Fault)
deriving DecidableEq, Repr

/-! ## Values -/

/-- Reads decimal digits behind those of `n`, up to the largest word. -/
def wordDigits (n : Nat) : List Char → Except String UInt64
  | [] => .ok (UInt64.ofNat n)
  | c :: cs =>
    if c.isDigit then
      let n := n * 10 + (c.toNat - '0'.toNat)
      if n < UInt64.size then wordDigits n cs else .error "number too large to fit in target type"
    else .error "invalid digit found in string"

/-- The word that a text writes in decimal, perhaps behind a plus sign. -/
def wordOf (text : String) : Except String UInt64 :=
  match text.toList with
  | [] => .error "cannot parse integer from empty string"
  | ['+'] => .error "invalid digit found in string"
  | '+' :: cs => wordDigits 0 cs
  | cs => wordDigits 0 cs

/-- Puts a value into its slot. -/
def fill (a : Arguments) (slot : Slot) (value : String) : Except Fault Arguments :=
  let word (put : UInt64 → Arguments) : Except Fault Arguments :=
    match wordOf value with
    | .ok n => .ok (put n)
    | .error reason => .error (.invalidValue value slot reason)
  match slot with
  | .grammar =>
    match Grammar.ofName value with
    | .ok g => .ok { a with grammar := some g }
    | .error e => .error (.invalidValue value slot e.message)
  | .maxDepth => word fun n => { a with maxDepth := some n }
  | .maxNodes => word fun n => { a with maxNodes := some n }
  | .config =>
    if value = "" then .error (.missingValue slot) else .ok { a with config := some value }
  | .file =>
    if value = "" then .error (.missingValue slot) else .ok { a with file := some value }

/-- Whether a slot has been filled. -/
def isFilled (a : Arguments) : Slot → Bool
  | .grammar => a.grammar.isSome
  | .maxDepth => a.maxDepth.isSome
  | .maxNodes => a.maxNodes.isSome
  | .config => a.config.isSome
  | .file => a.file.isSome

/-! ## Reading -/

/-- Where the reading of arguments stands. -/
structure State where
  taken : Arguments := {}
  /-- The slot last named and the value it was given, which have not been checked. -/
  waiting : Option (Slot × Option String) := none
  /-- The waiting slot takes the next argument as its value. -/
  wantsValue : Bool := false
  /-- Everything that follows is a file. -/
  onlyFiles : Bool := false
  hasFile : Bool := false

/-- Fills a slot for the first time. -/
def State.accept (s : State) (slot : Slot) (value : String) : Except Halt State :=
  if s.taken.isFilled slot then .error (.fault (.repeated slot.display))
  else
    match s.taken.fill slot value with
    | .ok taken => .ok { s with taken }
    | .error fault => .error (.fault fault)

/-- Checks the value that waits. -/
def State.settle (s : State) : Except Halt State :=
  match s.waiting with
  | none => .ok { s with wantsValue := false }
  | some (slot, none) => .error (.fault (.missingValue slot))
  | some (slot, some value) =>
    State.accept { s with waiting := none, wantsValue := false } slot value

/-- Names a slot, with its value if that is attached. -/
def State.name (s : State) (slot : Slot) (attached : Option String) : Except Halt State := do
  let s ← s.settle
  match attached with
  | some value => s.accept slot value
  | none => return { s with waiting := some (slot, none), wantsValue := true }

/-- Turns a switch on. -/
def State.turn (s : State) (switch : Switch) : Except Halt State := do
  let s ← s.settle
  match switch with
  | .help => .error .help
  | .version => .error .version
  | .pretty =>
    if s.taken.pretty then .error (.fault (.repeated switch.display))
    else return { s with taken := { s.taken with pretty := true } }
  | .kinds =>
    if s.taken.kinds then .error (.fault (.repeated switch.display))
    else return { s with taken := { s.taken with kinds := true } }

/-- Takes an argument behind two dashes: a name, and a value if an equals sign stands behind it. -/
def State.takeLong (s : State) (body : List Char) : Except Halt State :=
  let name := String.ofList (body.takeWhile (· != '='))
  let value? := match body.dropWhile (· != '=') with
    | [] => none
    | _ :: value => some (String.ofList value)
  match long? name, value? with
  | some (.inl slot), _ => s.name slot value?
  | some (.inr switch), none => s.turn switch
  | some (.inr switch), some value => .error (.fault (.unexpectedValue value switch))
  | none, _ => .error (.fault (.unexpected ("--" ++ name)))

/-- Takes the letters behind a dash. A letter that takes a value takes what follows it, without an
equals sign in front. -/
def State.takeShort (s : State) : List Char → Except Halt State
  | [] => .ok s
  | c :: cs =>
    match short? c with
    | some (.inl slot) =>
      match cs with
      | [] => s.name slot none
      | '=' :: value => s.name slot (some (String.ofList value))
      | value => s.name slot (some (String.ofList value))
    | some (.inr switch) => do (← s.turn switch).takeShort cs
    | none => .error (.fault (.unexpected (String.ofList ['-', c])))

/-- Takes a file. -/
def State.takeFile (s : State) (argument : String) : Except Halt State :=
  if s.hasFile then .error (.fault (.unexpected argument))
  else do
    let s ← s.settle
    return { s with waiting := some (.file, some argument), hasFile := true }

/-- Takes the next argument. -/
def State.take (s : State) (argument : String) : Except Halt State :=
  if s.onlyFiles then s.takeFile argument
  else
    match argument.toList with
    | ['-', '-'] => .ok { s with onlyFiles := true }
    | '-' :: '-' :: body => s.takeLong body
    | '-' :: c :: cs => s.takeShort (c :: cs)
    | _ =>
      match s.wantsValue, s.waiting with
      | true, some (slot, _) =>
        .ok { s with waiting := some (slot, some argument), wantsValue := false }
      | _, _ => s.takeFile argument

/-- What the arguments ask for. -/
def parse (arguments : List String) : Except Halt Arguments := do
  let s ← arguments.foldlM State.take {}
  return (← s.settle).taken

end Arguments

end SyntaxOutline
