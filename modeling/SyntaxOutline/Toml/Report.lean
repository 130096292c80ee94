import SyntaxOutline.Toml.Value

/-!
# Reports on a TOML text

A report quotes the line where a region starts and underlines the region in it.
-/

namespace SyntaxOutline.Toml

/-- The lines of a text, without their line feeds. -/
def splitLines : List Char → List (List Char)
  | [] => [[]]
  | c :: cs =>
    if c = '\n' then [] :: splitLines cs
    else
      match splitLines cs with
      | [] => [[c]]
      | line :: lines => (c :: line) :: lines

/-- The line and column, both counted from zero, that follow the first `count` bytes of a text when
`line` and `column` are at its front. Columns count characters. -/
def locate (line column : Nat) : Nat → List Char → Nat × Nat
  | 0, _ => (line, column)
  | _ + 1, [] => (line, column)
  | count + 1, c :: cs =>
    if c = '\n' then locate (line + 1) 0 count cs
    else locate line (column + 1) (count + 1 - c.utf8Size) cs

/-- The report on a region of a text. The underline covers the bytes of the region as far as its
first line goes, and at least one. -/
def report (text : String) (region : Region) (message : String) : String :=
  let cs := text.toList
  let (line, column) := locate 0 0 (Text.utf8Length cs - region.start) cs
  let content := ((splitLines cs)[line]?).getD []
  let width := max 1 (min (region.start - region.stop) (Text.utf8Length content - column))
  let lineNumber := toString (line + 1)
  let margin := String.ofList (List.replicate (lineNumber.length + 1) ' ')
  let indent := String.ofList (List.replicate (column + 1) ' ')
  let underline := String.ofList (List.replicate width '^')
  s!"TOML parse error at line {line + 1}, column {column + 1}\n" ++ margin ++ "|\n"
    ++ lineNumber ++ " | " ++ String.ofList content ++ "\n"
    ++ margin ++ "|" ++ indent ++ underline ++ "\n" ++ message ++ "\n"

end SyntaxOutline.Toml
