import SyntaxOutline.Settings.Basic
import SyntaxOutline.Toml.Decode
import SyntaxOutline.Toml.Document
import SyntaxOutline.Toml.Report

/-!
# Settings in TOML

* `Settings.toToml` : the text of settings.
* `Settings.ofToml?` : the settings that a text holds. Keys that mean nothing here are ignored.
-/

namespace SyntaxOutline

/-! ## Reading -/

def Limits.toml : Toml.Record Limits :=
  let maxDepth : Toml.Field Limits := .of "max_depth" Toml.word fun n l => l.withMaxDepth n
  let maxNodes : Toml.Field Limits := .of "max_nodes" Toml.word fun n l => l.withMaxNodes n
  { title := "struct WalkLimits"
    initial := {}
    fields := [maxDepth, maxNodes]
    sorted := [maxDepth, maxNodes] }

def OutputSettings.toml : Toml.Record OutputSettings :=
  let pretty : Toml.Field OutputSettings := .of "pretty" Toml.flag fun b s => { s with pretty := b }
  let includeKinds : Toml.Field OutputSettings :=
    .of "include_kinds" Toml.flag fun b s => { s with includeKinds := b }
  { title := "struct OutputConfig"
    initial := {}
    fields := [pretty, includeKinds]
    sorted := [includeKinds, pretty] }

namespace Settings

def toml : Toml.Record Settings :=
  let grammar : Toml.Field Settings :=
    .of "grammar" (Toml.variant Grammar.ofKey? Grammar.keys) fun g s => { s with grammar := g }
  let output : Toml.Field Settings :=
    .of "output" OutputSettings.toml.decode fun o s => { s with output := o }
  let limits : Toml.Field Settings :=
    .of "limits" Limits.toml.decode fun l s => { s with limits := l }
  { title := "struct Config"
    initial := {}
    fields := [grammar, output, limits]
    sorted := [grammar, limits, output] }

/-- Why a text holds no settings. -/
inductive TomlFailure where
  /-- The text is no TOML. -/
  | malformed (failure : Toml.Failure)
  /-- A value was refused in a text with a number that is not common. -/
  | outOfRange (misfit : Toml.Misfit)
  /-- A value was refused. -/
  | illShaped (misfit : Toml.Misfit)
deriving DecidableEq, Repr

/-- The text is at fault as TOML, whatever settings it was meant to hold. -/
def TomlFailure.isSyntax : TomlFailure → Bool
  | .illShaped _ => false
  | _ => true

/-- The report on a text. -/
def TomlFailure.message (text : String) : TomlFailure → String
  | .malformed failure =>
    Toml.report text ⟨failure.unread, failure.unread⟩ failure.cause.message
  | .outOfRange misfit => Toml.report text misfit.region misfit.objection.message
  | .illShaped misfit => Toml.report text misfit.region misfit.objection.message

/-- The settings that a text holds. -/
def ofToml? (text : String) : Except TomlFailure Settings :=
  match Toml.ofText? text with
  | .error failure => .error (.malformed failure)
  | .ok entries =>
    match toml.ofEntries entries with
    | .ok settings => .ok settings
    | .error misfit =>
      if Toml.NumberRange.common.holdsEntries entries then .error (.illShaped misfit)
      else .error (.outOfRange misfit)

/-! ## Writing -/

/-- A line of a limit that is set. -/
def limitLine (name : String) : Option UInt64 → String
  | some n => s!"{name} = {n}\n"
  | none => ""

/-- The text of settings: the grammar, then a table for the output and one for the limits. -/
def toToml (s : Settings) : String :=
  "grammar = \"" ++ s.grammar.key ++ "\"\n"
    ++ s!"\n[output]\npretty = {s.output.pretty}\ninclude_kinds = {s.output.includeKinds}\n"
    ++ "\n[limits]\n" ++ limitLine "max_depth" s.limits.maxDepth
    ++ limitLine "max_nodes" s.limits.maxNodes

end Settings

end SyntaxOutline
