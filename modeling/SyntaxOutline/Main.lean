import SyntaxOutline.Command.Run

/-!
# The program

The outer layer: it gathers what a run may look at, runs it, prints what it says and exits with its
status. Parsers are not part of the program, so `main` runs with one that makes nothing of any text.
-/

namespace SyntaxOutline

/-- What stands at a path, if anything can be read there. -/
def fetch (path : String) : IO (Option FileNode) :=
  try
    return some (.file (← IO.FS.readBinFile path))
  catch
    | .inappropriateType _ 21 _ => return some .directory
    | _ => return none

/-- The file store with what stands at a path. -/
def gather (files : Files) (path : String) : IO Files := do
  match ← fetch path with
  | none => return files
  | some .directory => return (files.makeDirectories path).1
  | some (.file content) =>
    let files := (files.makeDirectories ((Files.parent? path).getD "")).1
    return (files.write path content).toOption.getD files

/-- Runs the program with a parser. -/
def runWith (parser : Parser) (arguments : List String) : IO UInt32 := do
  let home := (← IO.getEnv "HOME").getD ""
  let needs := Command.needs home arguments
  let files ← needs.files.foldlM gather Files.empty
  let input ← if needs.input then (← IO.getStdin).readBinToEnd else pure ByteArray.empty
  let logSpec ← IO.getEnv "RUST_LOG"
  let result := Command.run { files, home, input, logSpec, parser } arguments
  IO.print result.output
  IO.eprint result.errors
  return UInt32.ofNat result.status

end SyntaxOutline

def main (arguments : List String) : IO UInt32 :=
  SyntaxOutline.runWith (fun _ _ => .nothing) arguments
