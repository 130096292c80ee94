import SyntaxOutline.Files
import SyntaxOutline.Log
import SyntaxOutline.Render
import SyntaxOutline.Settings.Toml

/-!
# Settings in files

* `Settings.load` : the settings of a file, if there is one.
* `Settings.save` : writes settings to a file, making the directories above it.
* `Settings.homePath` : the file in the home directory.
-/

namespace SyntaxOutline.Settings

/-- Why the settings of a file could not be loaded. -/
inductive LoadFailure where
  | unreadable (path : String) (error : FileError)
  | unparsable (path : String) (text : String) (failure : TomlFailure)

/-- What caused the failure. -/
def LoadFailure.reason : LoadFailure → String
  | .unreadable _ error => error.message
  | .unparsable _ text failure => failure.message text

def LoadFailure.message : LoadFailure → String
  | .unreadable path error => "Failed to read config file at " ++ path ++ ": " ++ error.message
  | .unparsable path text failure =>
    "Failed to parse config file at " ++ path ++ ": " ++ failure.message text

def line (message : String) : LogLine := ⟨.debug, "syntaxviz_config", message⟩

/-- The settings of a file, `none` if there is no file. -/
def load (files : Files) (path : String) : Logged (Except LoadFailure (Option Settings)) :=
  if files.exists? path then
    match files.readText path with
    | .error error => ⟨.error (.unreadable path error), []⟩
    | .ok text =>
      match ofToml? text with
      | .error failure => ⟨.error (.unparsable path text failure), []⟩
      | .ok settings => ⟨.ok (some settings), [line ("Loaded config from " ++ path)]⟩
  else ⟨.ok none, [line ("No config file at " ++ path)]⟩

/-- Writes settings to a file. Gives the store afterwards, and why it failed if it did. -/
def save (files : Files) (path : String) (settings : Settings) : Files × Except FileError Unit :=
  let (files, made) :=
    match Files.parent? path with
    | some dir => files.makeDirectories dir
    | none => (files, .ok ())
  match made with
  | .error error => (files, .error error)
  | .ok () =>
    match files.write path settings.toToml.toUTF8 with
    | .error error => (files, .error error)
    | .ok files => (files, .ok ())

/-- The file of settings in a home directory. -/
def homePath (home : String) : String := home ++ "/.config/syntaxviz/config.toml"

end SyntaxOutline.Settings
