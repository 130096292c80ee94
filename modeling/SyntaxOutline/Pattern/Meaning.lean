import SyntaxOutline.Pattern.Needles
import SyntaxOutline.Pattern.Read
import SyntaxOutline.Pattern.Weight
import SyntaxOutline.Unicode.Folding

/-!
# The meaning of a written pattern

* `Pattern.ofText` : the pattern that a text means, or what is wrong with the text.
-/

namespace SyntaxOutline.Pattern

/-- The flags in force. -/
structure Flags where
  anyCase : Bool := false
  lines : Bool := false
  dotAll : Bool := false
  few : Bool := false
  unicode : Bool := true
  anyLineEnd : Bool := false
deriving DecidableEq, Repr

namespace Flags

def change (f : Flags) : Flag × Bool → Flags
  | (.anyCase, on) => { f with anyCase := on }
  | (.lines, on) => { f with lines := on }
  | (.dotAll, on) => { f with dotAll := on }
  | (.unicode, on) => { f with unicode := on }
  | (.anyLineEnd, on) => { f with anyLineEnd := on }
  | (.few, on) => { f with few := on }
  | (.loose, _) => f

def changeAll (f : Flags) (changes : FlagChanges) : Flags := changes.foldl change f

/-- The set with both cases of its members if cases do not count. -/
def closed (f : Flags) (s : CharSet) : CharSet :=
  if ¬ f.anyCase then s
  else if f.unicode then Unicode.Folding.close s
  else Unicode.Folding.closeAscii s

/-- The set or the characters outside of it. Without characters beyond ASCII those would be single
bytes, which may be parts of other characters. -/
def negated (f : Flags) (isNegated : Bool) (region : Region) (s : CharSet) :
    Except Failure CharSet :=
  if ¬ isNegated then .ok s
  else if f.unicode then .ok s.compl
  else .error ⟨.brokenCharacters, region⟩

def letterSet (f : Flags) : LetterClass → CharSet
  | .digit => if f.unicode then Unicode.digit else .ofText "30-39"
  | .blank => if f.unicode then Unicode.blank else .ofText "9-d 20"
  | .word => if f.unicode then Unicode.word else .ofText "30-39 41-5a 5f 61-7a"

/-- Refuses a single byte beyond ASCII where characters beyond ASCII are off. -/
def checkByte (f : Flags) (l : Literal) : Except Failure Unit :=
  if ¬ f.unicode ∧ l.byte ∧ 0x7F < l.char.toNat then .error ⟨.brokenCharacters, l.region⟩
  else .ok ()

/-- Refuses a member of a set beyond ASCII where those are off. -/
def checkMember (f : Flags) (l : Literal) : Except Failure Unit := do
  f.checkByte l
  if ¬ f.unicode ∧ 0x7F < l.char.toNat then .error ⟨.unicodeOff, l.region⟩

/-- The set that a query asks for. -/
def querySet (f : Flags) (query : Query) (region : Region) : Except Failure CharSet :=
  if ¬ f.unicode then .error ⟨.unicodeOff, region⟩
  else
    let found := match query with
      | .named name => Unicode.named name
      | .valued name value => Unicode.valued name value
      | .otherValued name value => Unicode.valued name value
    match found with
    | .ok s => .ok s
    | .error .name => .error ⟨.queryName, region⟩
    | .error .value => .error ⟨.queryValue, region⟩

end Flags

def SetOperation.apply : SetOperation → CharSet → CharSet → CharSet
  | .inter, s, t => s.inter t
  | .diff, s, t => s.diff t
  | .symmDiff, s, t => s.symmDiff t

mutual

/-- The set that a written set means. -/
def SetTerm.meaning (f : Flags) : SetTerm → Except Failure CharSet
  | .nothing _ => .ok .empty
  | .char l => do
    f.checkMember l
    return .singleton l.char
  | .range first last _ => do
    f.checkMember first
    f.checkMember last
    return ⟨[(first.char.toNat, last.char.toNat)]⟩
  | .listed s isNegated region => f.negated isNegated region (f.closed s)
  | .letter kind isNegated region => f.negated isNegated region (f.letterSet kind)
  | .query q isNegated region => do
    f.negated (isNegated != q.isInverse) region (f.closed (← f.querySet q region))
  | .bracket isNegated body region => do
    f.negated isNegated region (f.closed (← body.meaning f))
  | .union items _ => return CharSet.unions (← SetTerm.meanings f items)
  | .combine operation left right _ => do
    let s ← left.meaning f
    let t ← right.meaning f
    return operation.apply (f.closed s) (f.closed t)

def SetTerm.meanings (f : Flags) : List SetTerm → Except Failure (List CharSet)
  | [] => return []
  | item :: items => return (← item.meaning f) :: (← SetTerm.meanings f items)

end

/-- The spot that a written spot means. -/
def SpotTerm.meaning (f : Flags) : SpotTerm → Spot
  | .caret => if f.lines then if f.anyLineEnd then .anyLineStart else .lineStart else .textStart
  | .dollar => if f.lines then if f.anyLineEnd then .anyLineEnd else .lineEnd else .textEnd
  | .textStart => .textStart
  | .textEnd => .textEnd
  | .word side => .word (f.letterSet .word) side

/-- Every character that a dot stands for. -/
def Flags.dotSet (f : Flags) : CharSet :=
  if f.dotAll then CharSet.empty.compl
  else if f.anyLineEnd then (CharSet.ofText "a d").compl
  else (CharSet.ofText "a").compl

/-- One character of a set. -/
def Flags.oneOf (f : Flags) (s : CharSet) : Pattern := Pattern.oneOf s (!f.unicode)

mutual

/-- The pattern that a written one means, and the flags in force behind it. -/
def Term.meaning (f : Flags) : Term → Except Failure (Pattern × Flags)
  | .empty _ => return (.empty, f)
  | .flags changes _ => return (.empty, f.changeAll changes)
  | .literal l => do
    f.checkByte l
    return (f.oneOf (f.closed (.singleton l.char)), f)
  | .dot region =>
    if f.unicode then return (f.oneOf f.dotSet, f) else .error ⟨.brokenCharacters, region⟩
  | .spot kind _ => return (.spot (kind.meaning f), f)
  | .set s => return (f.oneOf (← s.meaning f), f)
  | .times part least most few _ => do
    let (p, f) ← part.meaning f
    return (repeating p least most (few != f.few), f)
  | .group isNoted changes part region => do
    let (p, _) ← part.meaning (f.changeAll changes)
    return (if isNoted then .noted region.start p else p, f)
  | .branches parts _ => do
    let (ps, f) ← Term.meanings f parts
    return (choice ps, f)
  | .sequence parts _ => do
    let (ps, f) ← Term.meanings f parts
    return (inRow ps, f)

/-- The meanings of parts, each with the flags in force behind the one before. -/
def Term.meanings (f : Flags) : List Term → Except Failure (List Pattern × Flags)
  | [] => return ([], f)
  | part :: parts => do
    let (p, f) ← part.meaning f
    let (ps, f) ← Term.meanings f parts
    return (p :: ps, f)

end

/-- What is wrong with a text for a pattern. -/
inductive Fault where
  | failure (text : String) (f : Failure)
  | tooHeavy
deriving DecidableEq, Repr

def Fault.message : Fault → String
  | .failure text f => f.report text
  | .tooHeavy => s!"Compiled regex exceeds size limit of {Load.maxWeight} bytes."

/-- The pattern that a text means. -/
def ofText (text : String) : Except Fault Pattern :=
  match (Term.ofText text).bind (Term.meaning {}) with
  | .error f => .error (.failure text f)
  | .ok (p, _) => if p.isLight || p.isPlain then .ok p else .error .tooHeavy

end SyntaxOutline.Pattern
