import SyntaxOutline.Grammar
import SyntaxOutline.Log
import SyntaxOutline.Source.Parsed
import SyntaxOutline.Walk.Tree

/-!
# Rendering a source text

Rendering parses a text with a grammar and walks the tree. The parser is given from outside. Every
step is told in the log, whether or not the steps behind it fail.

* `render` : the outline of a text.
* `renderJson` : its JSON. The compact text is written straight from the walk; the indented one from
  the rendered outline.
-/

namespace SyntaxOutline

/-- What a parser makes of a text. -/
inductive Parse where
  /-- A tree, and whether it has places the grammar could not make sense of. -/
  | tree (root : ParsedTree) (hasErrors : Bool)
  /-- The grammar could not be loaded, for the given reason. -/
  | unloadable (reason : String)
  /-- The parser gave no tree. -/
  | nothing

/-- A parser for each grammar. -/
abbrev Parser := Grammar → String → Parse

/-- Why a text could not be rendered. -/
inductive RenderFailure where
  | language (grammar : Grammar) (reason : String)
  | noTree (grammar : Grammar)
  | outline (failure : OutlineFailure)
deriving DecidableEq, Repr

/-- A walk that fails leaves no outline. -/
def RenderFailure.ofWalk (failure : WalkFailure) : RenderFailure := .outline (.walk failure)

def RenderFailure.message : RenderFailure → String
  | .language grammar reason => "failed to load the " ++ grammar.name ++ " grammar: " ++ reason
  | .noTree grammar => "the " ++ grammar.name ++ " parser produced no syntax tree"
  | .outline failure => failure.message

/-- The reason why a grammar of the given version cannot be loaded. -/
def incompatibleVersion (version : Nat) : String :=
  s!"Incompatible language version {version}. Expected minimum 13, maximum 15"

/-- A result and the log lines written on the way to it. -/
structure Logged (α : Type) where
  result : α
  log : List LogLine

namespace Render

def line (message : String) : LogLine := ⟨.debug, "syntaxviz_engine::render", message⟩

def parsedLine (source : String) (grammar : Grammar) (hasErrors : Bool) : LogLine :=
  line (s!"parsed {source.utf8ByteSize} bytes with the " ++ grammar.name
    ++ s!" grammar (errors: {hasErrors})")

def walkingLine (options : WalkOptions) : LogLine := line ("walking with " ++ options.describe)

/-- The line on an outline of so many nodes and such a height. -/
def closingLine (count height : Nat) : LogLine := line s!"rendered {count} nodes, height {height}"

def renderedLine (outline : Outline) : LogLine := closingLine outline.nodeCount outline.height

/-- Parses a text. -/
def parse (parser : Parser) (source : String) (grammar : Grammar) :
    Logged (Except RenderFailure SourceTree) :=
  match parser grammar source with
  | .tree root hasErrors => ⟨.ok (root.toSource source), [parsedLine source grammar hasErrors]⟩
  | .unloadable reason => ⟨.error (.language grammar reason), []⟩
  | .nothing => ⟨.error (.noTree grammar), []⟩

end Render

open Render

/-- The outline of a text. -/
def render (parser : Parser) (source : String) (grammar : Grammar) (options : WalkOptions) :
    Logged (Except RenderFailure Outline) :=
  match parse parser source grammar with
  | ⟨.error failure, log⟩ => ⟨.error failure, log⟩
  | ⟨.ok tree, log⟩ =>
    match tree.walk options with
    | .ok outline => ⟨.ok outline, log ++ [walkingLine options, renderedLine outline]⟩
    | .error failure => ⟨.error (.ofWalk failure), log ++ [walkingLine options]⟩

/-- The compact JSON of a text's outline, written straight from the walk. -/
def renderCompact (parser : Parser) (source : String) (grammar : Grammar) (options : WalkOptions) :
    Logged (Except RenderFailure String) :=
  match parse parser source grammar with
  | ⟨.error failure, log⟩ => ⟨.error failure, log⟩
  | ⟨.ok tree, log⟩ =>
    match tree.serialize options with
    | .ok text => ⟨.ok text, log ++ [walkingLine options]⟩
    | .error failure => ⟨.error (.outline failure), log ++ [walkingLine options]⟩

/-- The JSON of a text's outline. -/
def renderJson (parser : Parser) (source : String) (grammar : Grammar) (options : WalkOptions)
    (indented : Bool) : Logged (Except RenderFailure String) :=
  if indented then
    let rendered := render parser source grammar options
    ⟨rendered.result.map Outline.pretty, rendered.log⟩
  else renderCompact parser source grammar options

end SyntaxOutline
