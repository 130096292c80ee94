import SyntaxOutline.Json.Read

/-!
# Grammars

The grammars a source can be parsed with. On the command line a grammar goes by its name. In JSON
and in settings files it goes by its key, which is not listed but made from its title.

* `Grammar.key_eq_name` : the keys are the names.
-/

namespace SyntaxOutline

inductive Grammar where
  | markdown
  | markdownInline
deriving DecidableEq, Repr, Inhabited

namespace Grammar

def all : List Grammar := [.markdown, .markdownInline]

/-! ## Names -/

def name : Grammar → String
  | .markdown => "markdown"
  | .markdownInline => "markdown-inline"

def names : List String := all.map name

/-- The grammar of a name. -/
def ofName? (s : String) : Option Grammar := all.find? (·.name == s)

/-- The report on a name that is no grammar's. -/
def unknown (s : String) : String :=
  s!"unknown grammar `{s}` (expected one of: " ++ ", ".intercalate names ++ ")"

/-- A name that is no grammar's. -/
structure UnknownName where
  name : String
deriving DecidableEq, Repr

def UnknownName.message (e : UnknownName) : String := unknown e.name

/-- The grammar of a name that was asked for. -/
def ofName (s : String) : Except UnknownName Grammar :=
  match ofName? s with
  | some g => .ok g
  | none => .error ⟨s⟩

/-! ## Keys -/

/-- The words of a grammar, each with a capital in front. -/
def title : Grammar → String
  | .markdown => "Markdown"
  | .markdownInline => "MarkdownInline"

/-- A character of a title as it stands in a key. -/
def keyChar (c : Char) : Char := if c = '_' then '-' else c.toLower

/-- A title in lower case, with a hyphen before each word but the first. Titles are ASCII. -/
def hyphenated (title : String) : String :=
  match title.toList with
  | [] => ""
  | c :: cs =>
    let inside (c : Char) : List Char := if c.isUpper then ['-', keyChar c] else [keyChar c]
    String.ofList (keyChar c :: cs.flatMap inside)

def key (g : Grammar) : String := hyphenated g.title

def keys : List String := all.map key

/-- The grammar of a key. -/
def ofKey? (s : String) : Option Grammar := all.find? (·.key == s)

theorem key_eq_name (g : Grammar) : g.key = g.name := by
  cases g with
  | markdown => rfl
  | markdownInline => rfl

theorem ofKey?_eq_ofName? (s : String) : ofKey? s = ofName? s := by
  simp only [ofKey?, ofName?, key_eq_name]

/-! ## JSON -/

def toJson (g : Grammar) : Json := .string g.key

/-- Reads the key of a grammar behind its opening quote. -/
def readName (cs : List Char) : Except Json.Failure (Grammar × List Char) := do
  let (s, rest) ← Json.readString cs
  match ofKey? s with
  | some g => return (g, rest)
  | none => Json.failHere (.shape (.unknownVariant s keys)) rest

/-- Reads the name of the one member of an object behind its opening brace. -/
def readKey (cs : List Char) : Except Json.Failure (Grammar × List Char) :=
  match Json.skipBlanks cs with
  | [] => Json.failHere .endOfObject []
  | '"' :: cs => readName cs
  | '\x7d' :: cs => Json.failNext .expectedValue ('\x7d' :: cs)
  | cs => Json.failNext .keyNotString cs

/-- Reads `null`. -/
def readNull (cs : List Char) : Except Json.Failure (List Char) :=
  match Json.skipBlanks cs with
  | [] => Json.failHere .endOfValue []
  | c :: cs => if c = 'n' then Json.readWord ['u', 'l', 'l'] cs else Json.mismatch "unit" (c :: cs)

/-- Reads a grammar: its key, or an object whose one member is null and goes by that key. -/
def read (room : Nat) : Json.Reader Grammar := fun cs =>
  match Json.skipBlanks cs, room with
  | [], _ => Json.failHere .endOfValue []
  | '"' :: cs, _ => readName cs
  | '\x7b' :: cs, 0 => Json.failNext .tooDeep ('\x7b' :: cs)
  | '\x7b' :: cs, _ + 1 => do
    let (g, rest) ← readKey cs
    match Json.skipBlanks (← readNull (← Json.readColon rest)) with
    | [] => Json.failHere .endOfObject []
    | c :: cs => if c = '\x7d' then return (g, cs) else Json.failHere .expectedValue (c :: cs)
  | cs, _ => Json.failNext .expectedValue cs

def ofJson? (text : String) : Except Json.Failure Grammar :=
  Json.readWhole (read Json.maxRoom) text

end Grammar

end SyntaxOutline
