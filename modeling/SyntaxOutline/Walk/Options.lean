import SyntaxOutline.Json.Record

/-!
# Options of a walk

The limits bound how deep a walk goes and how many nodes it enters; either may be absent.
-/

namespace SyntaxOutline

/-- Bounds on a walk. -/
structure Limits where
  maxDepth : Option UInt64 := none
  maxNodes : Option UInt64 := none
deriving DecidableEq, Repr, Inhabited

namespace Limits

def withMaxDepth (l : Limits) (n : UInt64) : Limits := { l with maxDepth := some n }

def withMaxNodes (l : Limits) (n : UInt64) : Limits := { l with maxNodes := some n }

/-- Nodes at this depth may be entered. -/
def allowsDepth (l : Limits) (depth : Nat) : Bool :=
  match l.maxDepth with
  | some max => depth ≤ max.toNat
  | none => true

/-- As many nodes as this may be entered. -/
def allowsCount (l : Limits) (count : Nat) : Bool :=
  match l.maxNodes with
  | some max => count ≤ max.toNat
  | none => true

/-! ## Texts -/

def bound (n : Option UInt64) : Json :=
  match n with
  | some n => .word n
  | none => .null

def toJson (l : Limits) : Json :=
  .object [("max_depth", bound l.maxDepth), ("max_nodes", bound l.maxNodes)]

def record : Json.Record Limits where
  title := "struct WalkLimits"
  initial := {}
  fields := [
    .of "max_depth" (fun _ => Json.readOptional Json.readWordValue)
      fun n l => { l with maxDepth := n },
    .of "max_nodes" (fun _ => Json.readOptional Json.readWordValue)
      fun n l => { l with maxNodes := n }]
  required := false

def ofJson? (text : String) : Except Json.Failure Limits :=
  Json.readWhole (record.read Json.maxRoom) text

/-- A bound as the log shows it. -/
def showBound : Option UInt64 → String
  | some n => s!"Some({n})"
  | none => "None"

end Limits

/-- What a walk is told: its limits, and whether it records the kinds of nodes. -/
structure WalkOptions where
  limits : Limits := {}
  includeKinds : Bool := false
deriving DecidableEq, Repr, Inhabited

/-- The options as the log shows them. -/
def WalkOptions.describe (o : WalkOptions) : String :=
  "WalkOptions \x7b limits: WalkLimits \x7b max_depth: " ++ Limits.showBound o.limits.maxDepth
    ++ ", max_nodes: " ++ Limits.showBound o.limits.maxNodes
    ++ " \x7d, include_kinds: " ++ toString o.includeKinds ++ " \x7d"

end SyntaxOutline
