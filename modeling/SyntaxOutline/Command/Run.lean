import SyntaxOutline.Command.Arguments
import SyntaxOutline.Settings.Store

/-!
# A run of the program

A run loads settings, reads a source and renders it, in this order, and stops at the first stage
that fails. It depends on nothing but its surroundings and its arguments.

* `Command.execute` : the stages.
* `Command.run` : exit status and what is printed.
-/

namespace SyntaxOutline.Command

/-- All that a run can see. -/
structure Surroundings where
  files : Files
  home : String
  input : ByteArray
  /-- The specification of the log filter, if one is given. -/
  logSpec : Option String
  parser : Parser

/-- Which stage of a run failed, and why. -/
inductive RunFailure where
  | configNotFound (path : String)
  | config (failure : Settings.LoadFailure)
  | source (name : String) (error : FileError)
  | rendering (failure : RenderFailure)

/-- What went wrong, with its causes behind it. -/
def RunFailure.message : RunFailure → String
  | .configNotFound path => "Config file not found: " ++ path
  | .config failure => failure.message ++ ": " ++ failure.reason
  | .source name error => "Failed to read " ++ name ++ ": " ++ error.message
  | .rendering failure =>
    "Failed to render syntax tree: " ++ failure.message ++
      match failure with
      | .language _ reason => ": " ++ reason
      | _ => ""

/-- The settings of a run: those of the file that was named, which must be there, or of the file in
the home directory. -/
def loadSettings (s : Surroundings) (config : Option String) :
    Logged (Except RunFailure Settings) :=
  let load (path : String) : Logged (Except RunFailure Settings) :=
    match Settings.load s.files path with
    | ⟨.ok settings, log⟩ => ⟨.ok (settings.getD {}), log⟩
    | ⟨.error failure, log⟩ => ⟨.error (.config failure), log⟩
  match config with
  | some path => if s.files.exists? path then load path else ⟨.error (.configNotFound path), []⟩
  | none => load (Settings.homePath s.home)

/-- The file that a source is read from, `none` if it is read from the input, as `-` also says. -/
def sourceFile? (file : Option String) : Option String :=
  file.filter fun path => !Files.sameParts path "-"

/-- The source text: of a file or of the input. -/
def readSource (s : Surroundings) (file : Option String) : Except RunFailure String :=
  match sourceFile? file with
  | none =>
    match Files.decode s.input with
    | .ok text => .ok text
    | .error error => .error (.source "stdin" error)
  | some path =>
    match s.files.readText path with
    | .ok text => .ok text
    | .error error => .error (.source path error)

def usingLine (grammar : Grammar) : LogLine :=
  ⟨.info, "syntaxviz", "Using " ++ grammar.name ++ " grammar"⟩

/-- The stages of a run with the given arguments: the text to print. -/
def execute (s : Surroundings) (a : Arguments) : Logged (Except RunFailure String) :=
  match loadSettings s a.config with
  | ⟨.error failure, log⟩ => ⟨.error failure, log⟩
  | ⟨.ok settings, log⟩ =>
    let settings := a.override settings
    let log := log ++ [usingLine settings.grammar]
    match readSource s a.file with
    | .error failure => ⟨.error failure, log⟩
    | .ok source =>
      let pretty := settings.output.pretty
      match renderJson s.parser source settings.grammar settings.walkOptions pretty with
      | ⟨.ok text, rendering⟩ => ⟨.ok text, log ++ rendering⟩
      | ⟨.error failure, rendering⟩ => ⟨.error (.rendering failure), log ++ rendering⟩

/-! ## Status and texts -/

/-- What a run leaves behind: its exit status and what it printed. -/
structure Result where
  status : Nat
  output : String
  errors : String
deriving DecidableEq, Repr

def version : String := "syntaxviz 0.1.0\n"

def help : String :=
  "Print a source file's syntax tree as JSON\n\nUsage: syntaxviz [OPTIONS] [FILE]\n\n"
    ++ "Arguments:\n  [FILE]  Source file to visualize; stdin when omitted or `-`\n\n"
    ++ "Options:\n"
    ++ "  -g, --grammar <GRAMMAR>  Grammar to parse with: markdown, markdown-inline\n"
    ++ "      --pretty             Indent the JSON output\n"
    ++ "      --kinds              Include each node's parser kind as \"Kind\"\n"
    ++ "      --max-depth <N>      Fail if the tree nests deeper than this (root is depth 0)\n"
    ++ "      --max-nodes <N>      Fail if the tree has more nodes than this\n"
    ++ "      --config <PATH>      Config file to use instead of ~/.config/syntaxviz/config.toml\n"
    ++ "  -h, --help               Print help\n"
    ++ "  -V, --version            Print version\n"

/-- The log filter of a run, and warnings about the parts of its specification that mean nothing. -/
def logFilter (s : Surroundings) : LogFilter × String :=
  let (filter, faults) := LogFilter.ofSpec (s.logSpec.getD "warn")
  (filter, String.join (faults.map fun f => "warning: " ++ f.message ++ ", ignoring it\n"))

/-- The log lines that a filter lets through. -/
def printLog (filter : LogFilter) (log : List LogLine) : String :=
  String.join ((log.filter filter.shows).map LogLine.stamp)

/-- Runs the program with the given arguments. The log filter is set up before they are looked
at. -/
def run (s : Surroundings) (arguments : List String) : Result :=
  let (filter, warnings) := logFilter s
  match Arguments.parse arguments with
  | .error .help => ⟨0, help, warnings⟩
  | .error .version => ⟨0, version, warnings⟩
  | .error (.fault fault) => ⟨2, "", warnings ++ fault.report⟩
  | .ok a =>
    match execute s a with
    | ⟨.ok text, log⟩ => ⟨0, text ++ "\n", warnings ++ printLog filter log⟩
    | ⟨.error failure, log⟩ =>
      ⟨1, "", warnings ++ printLog filter log ++ "Error: " ++ failure.message ++ "\n"⟩

/-! ## Needs -/

/-- What a run may look at in the world. -/
structure Needs where
  files : List String
  input : Bool
deriving DecidableEq, Repr

/-- What a run with the given arguments may look at. -/
def needs (home : String) (arguments : List String) : Needs :=
  match Arguments.parse arguments with
  | .error _ => ⟨[], false⟩
  | .ok a =>
    let source := sourceFile? a.file
    ⟨a.config.getD (Settings.homePath home) :: source.toList, source.isNone⟩

end SyntaxOutline.Command
