import SyntaxOutline.Json.Failure
import SyntaxOutline.Span

/-!
# How outlines fail

A walk fails at a node, and the JSON text of an outline at a place in it. Whoever goes from a tree
to JSON or back meets both, so `OutlineFailure` holds either one.
-/

namespace SyntaxOutline

/-- Which limit was passed. -/
inductive Limit where
  | depth
  | nodes
deriving DecidableEq, Repr

def Limit.display : Limit → String
  | .depth => "depth"
  | .nodes => "node count"

/-- Why a walk has no result. -/
inductive WalkFailure where
  /-- A node cannot give its text. -/
  | malformed (span : Span) (reason : String)
  /-- The node at `span` is the first one past a limit. -/
  | limitExceeded (limit : Limit) (max : UInt64) (span : Span)
deriving DecidableEq, Repr

def WalkFailure.message : WalkFailure → String
  | .malformed span reason => "malformed syntax node at " ++ span.display ++ ": " ++ reason
  | .limitExceeded limit max span =>
    "input too large or possibly cyclic: " ++ limit.display ++ s!" limit of {max} exceeded at "
      ++ span.display

/-- Why there is no outline, or no text of it. -/
inductive OutlineFailure where
  | walk (failure : WalkFailure)
  /-- The JSON text could not be read. -/
  | json (failure : Json.Failure) (text : String)
deriving DecidableEq, Repr

def OutlineFailure.message : OutlineFailure → String
  | .walk failure => failure.message
  | .json failure text => "failed to encode visualization tree: " ++ failure.message text

end SyntaxOutline
