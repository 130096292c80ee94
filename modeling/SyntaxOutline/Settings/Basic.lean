import SyntaxOutline.Grammar
import SyntaxOutline.Walk.Options

/-!
# Settings

What a run can be told beforehand: the grammar, how the output looks, and the limits of the walk.
Everything has a default.
-/

namespace SyntaxOutline

/-- How the output looks. -/
structure OutputSettings where
  pretty : Bool := false
  includeKinds : Bool := false
deriving DecidableEq, Repr, Inhabited

structure Settings where
  grammar : Grammar := .markdown
  output : OutputSettings := {}
  limits : Limits := {}
deriving DecidableEq, Repr, Inhabited

/-- The options of the walk. -/
def Settings.walkOptions (s : Settings) : WalkOptions where
  limits := s.limits
  includeKinds := s.output.includeKinds

/-! ## JSON -/

def OutputSettings.toJson (s : OutputSettings) : Json :=
  .object [("pretty", .bool s.pretty), ("include_kinds", .bool s.includeKinds)]

def OutputSettings.record : Json.Record OutputSettings where
  title := "struct OutputConfig"
  initial := {}
  fields := [
    .of "pretty" (fun _ => Json.readFlag) fun b s => { s with pretty := b },
    .of "include_kinds" (fun _ => Json.readFlag) fun b s => { s with includeKinds := b }]
  required := false

namespace Settings

def toJson (s : Settings) : Json :=
  .object [("grammar", s.grammar.toJson), ("output", s.output.toJson), ("limits", s.limits.toJson)]

def record : Json.Record Settings where
  title := "struct Config"
  initial := {}
  fields := [
    .of "grammar" Grammar.read fun g s => { s with grammar := g },
    .of "output" OutputSettings.record.read fun o s => { s with output := o },
    .of "limits" Limits.record.read fun l s => { s with limits := l }]
  required := false

def ofJson? (text : String) : Except Json.Failure Settings :=
  Json.readWhole (record.read Json.maxRoom) text

end Settings

end SyntaxOutline
