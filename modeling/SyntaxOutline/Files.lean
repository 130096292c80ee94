/-!
# Files

A file store holds files and directories under absolute locations, and knows which directory
relative paths start from. Paths may have empty parts, `.` and `..`; a path and each of its parts
may not be longer than a bound.

* `Files.read`, `Files.readText` : the content of a file.
* `Files.write` : sets the content of a file.
* `Files.makeDirectories` : makes a directory and those above it.
-/

namespace SyntaxOutline

/-- Why the file store refused. -/
inductive FileError where
  | notFound
  | alreadyExists
  | notDirectory
  | isDirectory
  | nameTooLong
  | notName
  | notText
deriving DecidableEq, Repr

def FileError.message : FileError → String
  | .notFound => "No such file or directory (os error 2)"
  | .alreadyExists => "File exists (os error 17)"
  | .notDirectory => "Not a directory (os error 20)"
  | .isDirectory => "Is a directory (os error 21)"
  | .nameTooLong => "File name too long (os error 36)"
  | .notName => "file name contained an unexpected NUL byte"
  | .notText => "stream did not contain valid UTF-8"

/-- The names of the directories down to a place, and its own. -/
abbrev Location := List String

inductive FileNode where
  | file (content : ByteArray)
  | directory

/-- A file store with its working directory. -/
structure Files where
  base : Location
  nodes : List (Location × FileNode)

namespace Files

/-- What is there on every system. Only files and directories: a device does not keep what is
written to it, so the store has none. -/
def systemNodes : List (Location × FileNode) :=
  [(["dev"], .directory), (["tmp"], .directory)]

/-- The place of the working directory. The names on the way hold a slash, so that no path spells
them. -/
def workingPlace : Location := ["/", "/"]

/-- An empty working directory. -/
def empty : Files :=
  ⟨workingPlace, (["/"], .directory) :: (workingPlace, .directory) :: systemNodes⟩

/-- What is at a location; the top is a directory. -/
def node? (f : Files) (loc : Location) : Option FileNode :=
  match loc with
  | [] => some .directory
  | loc => (f.nodes.find? (·.1 == loc)).map (·.2)

/-- Puts something at a location. -/
def put (f : Files) (loc : Location) (node : FileNode) : Files :=
  { f with nodes := (loc, node) :: f.nodes.filter (·.1 != loc) }

/-! ## Paths -/

/-- The parts of a path between slashes. -/
def parts (path : String) : List String := (path.toList.splitOn '/').map String.ofList

def isAbsolute (path : String) : Bool := path.startsWith '/'

/-- How many bytes a part of a path may have. -/
def maxPart : Nat := 255

/-- How many bytes a path may have. -/
def maxPath : Nat := 4095

/-- Refuses what cannot be a path at all. -/
def checkPath (path : String) : Except FileError Unit :=
  if path.toList.contains '\x00' then .error .notName
  else if path = "" then .error .notFound
  else if maxPath < path.utf8ByteSize then .error .nameTooLong
  else .ok ()

/-- Goes from a location along the parts of a path. Every part is looked up in a directory. -/
def follow (f : Files) : Location → List String → Except FileError Location
  | loc, [] => .ok loc
  | loc, part :: rest =>
    match f.node? loc with
    | none => .error .notFound
    | some (.file _) => .error .notDirectory
    | some .directory =>
      if part = "" ∨ part = "." then f.follow loc rest
      else if part = ".." then f.follow loc.dropLast rest
      else if maxPart < part.utf8ByteSize then .error .nameTooLong
      else f.follow (loc ++ [part]) rest

/-- Where a path starts. -/
def start (f : Files) (path : String) : Location := if isAbsolute path then [] else f.base

/-- The location that a path leads to, whether or not anything is there. -/
def locate (f : Files) (path : String) : Except FileError Location := do
  checkPath path
  f.follow (f.start path) (parts path)

/-- The parts of a path that name something: without empty ones, and without `.` unless it stands
first. -/
def namedParts (path : String) : List String :=
  match parts path with
  | [] => []
  | first :: rest =>
    (if first = "" then [] else [first]) ++ rest.filter fun part => part ≠ "" ∧ part ≠ "."

/-- Whether two paths are written the same way but for empty parts and `.`. -/
def sameParts (path other : String) : Bool :=
  isAbsolute path == isAbsolute other && namedParts path == namedParts other

/-- The path of some parts. -/
def joinParts (absolute : Bool) (names : List String) : String :=
  (if absolute then "/" else "") ++ "/".intercalate names

/-- The path of the directory that holds a path; the top and the empty path have none. -/
def parent? (path : String) : Option String :=
  match namedParts path with
  | [] => none
  | names => some (joinParts (isAbsolute path) names.dropLast)

/-! ## Reading -/

def exists? (f : Files) (path : String) : Bool :=
  match f.locate path with
  | .ok loc => (f.node? loc).isSome
  | .error _ => false

/-- The content of a file. -/
def read (f : Files) (path : String) : Except FileError ByteArray := do
  match f.node? (← f.locate path) with
  | none => .error .notFound
  | some .directory => .error .isDirectory
  | some (.file content) => return content

/-- The text of bytes in UTF-8. -/
def decode (content : ByteArray) : Except FileError String :=
  match String.fromUTF8? content with
  | some text => .ok text
  | none => .error .notText

/-- The content of a file as text. -/
def readText (f : Files) (path : String) : Except FileError String := do
  decode (← f.read path)

/-! ## Writing -/

/-- The parts of a path without the empty ones behind the last slash, in reverse. -/
def reversedParts (path : String) : List String := (parts path).reverse.dropWhile (· == "")

/-- Sets the content of a file, which may be new, in a directory that is there. A path that ends in
a slash, in `.` or in `..` cannot name a file. -/
def write (f : Files) (path : String) (content : ByteArray) : Except FileError Files := do
  checkPath path
  let dir ← f.follow (f.start path) (reversedParts path).tail.reverse
  match f.node? dir with
  | none => .error .notFound
  | some (.file _) => .error .notDirectory
  | some .directory =>
    match reversedParts path with
    | [] => .error .isDirectory
    | name :: _ =>
      if path.endsWith '/' ∨ name = "." ∨ name = ".." then .error .isDirectory
      else
        match f.node? (← f.follow dir [name]) with
        | some .directory => .error .isDirectory
        | _ => return f.put (dir ++ [name]) (.file content)

/-- Makes the directories of a path one below the other, the parts in `above` being there. Gives the
store afterwards, with whatever was made before a failure. -/
def makeParts (f : Files) (absolute : Bool) (above : List String) :
    List String → Files × Except FileError Unit
  | [] => (f, .ok ())
  | part :: rest =>
    match f.locate (joinParts absolute (above ++ [part])) with
    | .error e => (f, .error e)
    | .ok loc =>
      match f.node? loc with
      | some .directory => f.makeParts absolute (above ++ [part]) rest
      | some (.file _) => (f, .error (if rest.isEmpty then .alreadyExists else .notDirectory))
      | none => (f.put loc .directory).makeParts absolute (above ++ [part]) rest

/-- Makes a directory and those above it. The empty path stands for the working directory. -/
def makeDirectories (f : Files) (path : String) : Files × Except FileError Unit :=
  if path = "" then (f, .ok ())
  else
    match checkPath path with
    | .error e => (f, .error e)
    | .ok () => f.makeParts (isAbsolute path) [] (namedParts path)

end Files

end SyntaxOutline
