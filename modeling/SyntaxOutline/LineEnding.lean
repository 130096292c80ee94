/-!
# Line endings

A line feed, or a carriage return with a line feed behind it, ends a line. Marking a text writes
`LF` for each line ending, in two passes: the first takes the carriage return off, the second writes
the mark.
-/

namespace SyntaxOutline.LineEnding

/-- What is written for a line ending. -/
def marker : String := "LF"

/-- Takes the carriage return off every line ending. -/
def unify : List Char → List Char
  | '\r' :: '\n' :: cs => '\n' :: unify cs
  | c :: cs => c :: unify cs
  | [] => []

/-- Writes the marker for every line feed. -/
def markFeeds : List Char → List Char
  | [] => []
  | c :: cs => if c = '\n' then marker.toList ++ markFeeds cs else c :: markFeeds cs

/-- Writes the marker for every line ending. -/
def mark (s : String) : String :=
  String.ofList (markFeeds (unify s.toList))

end SyntaxOutline.LineEnding
