import Mathlib.Data.Nat.Find
import SyntaxOutline.Json.Read
import SyntaxOutline.Proofs.Number.Range

/-!
# The grammar of JSON texts

A text is a row of tokens with blanks between them, and the tokens are those of a syntax tree. A
tree keeps the spelling of its strings and numbers, so that what a text says can be stated without
reading it: the tables of blanks and escapes, the surrogate pairs and the range of numbers stand
here once more, and the readers are proved to agree with them.

* `Literal`, `Numeral` : strings and numbers as they are written, with the text or number they stand
  for; a string need not be Unicode and a number may be out of range.
* `Tree` : values as they are written, with their tokens and the number of brackets open at once.
* `Spaced` : a text that begins with the given tokens, blanks in front of each.
* `Tree.Spells` : a text that holds one value and nothing else.
-/

namespace SyntaxOutline.Json

/-! ## Strings -/

/-- The letters that stand behind a backslash, each with the character it stands for. -/
def escapes : List (Char × Char) :=
  [('"', '"'), ('\\', '\\'), ('/', '/'), ('b', '\x08'), ('f', '\x0c'), ('n', '\n'), ('r', '\r'),
    ('t', '\t')]

/-- A piece of a string: a character that stands for itself, a letter behind a backslash, or four
hexadecimal digits behind a backslash and a `u`. -/
inductive Piece where
  | plain (c : Char) (allowed : c ≠ '"' ∧ c ≠ '\\' ∧ 0x20 ≤ c.toNat)
  | simple (letter c : Char) (names : (letter, c) ∈ escapes)
  | hex (a b c d : Char) (n : Nat) (digits : Text.ofDigits? 16 [a, b, c, d] = some n)

/-- The pieces of a string between its quotes. -/
abbrev Literal := List Piece

def Piece.text : Piece → List Char
  | .plain c _ => [c]
  | .simple letter _ _ => ['\\', letter]
  | .hex a b c d _ _ => ['\\', 'u', a, b, c, d]

/-- The number is the first half of a surrogate pair. -/
def Leads (n : Nat) : Prop := 0xD800 ≤ n ∧ n < 0xDC00

/-- The number is the second half of a surrogate pair. -/
def Trails (n : Nat) : Prop := 0xDC00 ≤ n ∧ n < 0xE000

instance (n : Nat) : Decidable (Leads n) := inferInstanceAs (Decidable (_ ∧ _))

instance (n : Nat) : Decidable (Trails n) := inferInstanceAs (Decidable (_ ∧ _))

/-- The character of a surrogate pair: each half has ten bits of it, counted from the end of the
basic plane. -/
def pairChar (leading trailing : Nat) : Char :=
  Char.ofNat (0x10000 + (leading - 0xD800) * 2 ^ 10 + (trailing - 0xDC00))

namespace Literal

/-- The string without its quotes. -/
def text (s : Literal) : List Char := s.flatMap Piece.text

/-- The characters that the pieces stand for; `none` if half of a surrogate pair stands alone. -/
def chars? : Literal → Option (List Char)
  | [] => some []
  | .plain c _ :: s => (chars? s).map (c :: ·)
  | .simple _ c _ :: s => (chars? s).map (c :: ·)
  | .hex _ _ _ _ n _ :: s =>
    if Trails n then none
    else if Leads n then
      match s with
      | .hex _ _ _ _ m _ :: s =>
        if Trails m then (chars? s).map (pairChar n m :: ·) else none
      | _ => none
    else (chars? s).map (Char.ofNat n :: ·)

/-- The text that the string stands for. -/
def value? (s : Literal) : Option String := s.chars?.map String.ofList

end Literal

/-! ## Numbers -/

/-- One or more decimal digits. -/
structure Digits where
  chars : List Char
  nonempty : chars ≠ []
  digits : ∀ c ∈ chars, c.isDigit = true

/-- The number that the digits write. -/
def Digits.toNat (ds : Digits) : Nat := Nat.ofDigitChars 10 ds.chars 0

/-- The sign of an exponent, if it has one. -/
inductive Sign where
  | none
  | plus
  | minus
deriving DecidableEq

def Sign.text : Sign → List Char
  | .none => []
  | .plus => ['+']
  | .minus => ['-']

/-- The exponent of a number. -/
structure Exponent where
  mark : Char
  isMark : mark = 'e' ∨ mark = 'E'
  sign : Sign
  digits : Digits

def Exponent.text (e : Exponent) : List Char := e.mark :: e.sign.text ++ e.digits.chars

/-- A number as it is written: no zero stands in front of the other digits of the whole part. -/
structure Numeral where
  negative : Bool
  whole : Digits
  noLeadingZero : whole.chars.head? = some '0' → whole.chars = ['0']
  fraction : Option Digits
  exponent : Option Exponent

/-- How many of the digits can be appended to a number so that it stays below `2 ^ 64`. -/
def fitting (n : Nat) (ds : List Char) : Nat :=
  Nat.findGreatest (fun k => Nat.ofDigitChars 10 (ds.take k) n < 2 ^ 64) ds.length

/-- The number with as many of the digits appended as fit. -/
def appended (n : Nat) (ds : List Char) : Nat := Nat.ofDigitChars 10 (ds.take (fitting n ds)) n

/-- The number is too large for a double. Significand and power of ten are doubles of their own, so
that the bound is on the product of these. -/
def TooLarge (significand : Nat) (exponent : Int) : Prop :=
  significand ≠ 0 ∧ 0 ≤ exponent ∧ (308 < exponent ∨ Binary64.limit * Nat.pow 2 2148 ≤
    (Binary64.nearest significand).units * (Binary64.nearest (Nat.pow 10 exponent.toNat)).units)

instance (significand : Nat) (exponent : Int) : Decidable (TooLarge significand exponent) :=
  inferInstanceAs (Decidable (_ ∧ _))

namespace Numeral

/-- What follows the whole part. -/
def tail (n : Numeral) : List Char :=
  (match n.fraction with
    | none => []
    | some f => '.' :: f.chars)
  ++ match n.exponent with
    | none => []
    | some e => e.text

/-- The number without its sign. -/
def unsigned (n : Numeral) : List Char := n.whole.chars ++ n.tail

def text (n : Numeral) : List Char := if n.negative then '-' :: n.unsigned else n.unsigned

/-- The number has neither sign nor fraction nor exponent. -/
def IsPlain (n : Numeral) : Prop := n.negative = false ∧ n.fraction = none ∧ n.exponent = none

/-- The number that the leading digits of the whole part write as long as they fit in 64 bits, and
how many digits are left out. -/
def front (n : Numeral) : Nat × Nat :=
  (appended 0 n.whole.chars, n.whole.chars.length - fitting 0 n.whole.chars)

/-- Significand and decimal exponent of the number in front of its own exponent: digits of the
fraction are appended as long as they fit in 64 bits. -/
def decimal (n : Numeral) : Nat × Int :=
  match n.fraction with
  | none => (n.front.1, n.front.2)
  | some f => (appended n.front.1 f.chars, n.front.2 - fitting n.front.1 f.chars)

/-- The double with the sign of the number, `none` if it is too large. -/
def float? (n : Numeral) (exponent : Int) : Option Number :=
  if TooLarge n.decimal.1 exponent then none
  else (Binary64.scaled n.decimal.1 exponent).map (.float n.negative)

/-- The number that is written: a whole number if it fits in 64 bits, otherwise a double. `none` if
the double is out of range. -/
def number? (n : Numeral) : Option Number :=
  match n.exponent with
  | none =>
    if n.fraction.isNone ∧ n.front.2 = 0 then
      if n.negative = false then some (.integer n.front.1)
      else if n.front.1 = 0 ∨ Nat.pow 2 63 < n.front.1 then n.float? 0
      else some (.integer (-n.front.1))
    else n.float? n.decimal.2
  | some e =>
    if e.digits.toNat < Nat.pow 2 31 then
      n.float? (if e.sign = .minus then n.decimal.2 - e.digits.toNat
        else n.decimal.2 + e.digits.toNat)
    else if n.decimal.1 ≠ 0 ∧ e.sign ≠ .minus then none
    else some (.float n.negative .zero)

end Numeral

/-! ## Values -/

/-- A value as it is written. -/
inductive Tree where
  | null
  | bool (b : Bool)
  | number (n : Numeral)
  | string (s : Literal)
  | array (items : List Tree)
  | object (members : List (Literal × Tree))

/-- What a text is made of. -/
inductive Token where
  /-- A bracket, a comma or a colon. -/
  | mark (c : Char)
  | null
  | bool (b : Bool)
  | number (n : Numeral)
  | string (s : Literal)

def Token.text : Token → List Char
  | .mark c => [c]
  | .null => ['n', 'u', 'l', 'l']
  | .bool true => ['t', 'r', 'u', 'e']
  | .bool false => ['f', 'a', 'l', 's', 'e']
  | .number n => n.text
  | .string s => '"' :: s.text ++ ['"']

namespace Tree

mutual

def tokens : Tree → List Token
  | .null => [.null]
  | .bool b => [.bool b]
  | .number n => [.number n]
  | .string s => [.string s]
  | .array [] => [.mark '[', .mark ']']
  | .array (v :: vs) => .mark '[' :: v.tokens ++ itemTokens vs
  | .object [] => [.mark '\x7b', .mark '\x7d']
  | .object ((name, v) :: ms) =>
    .mark '\x7b' :: .string name :: .mark ':' :: v.tokens ++ memberTokens ms

/-- The elements after the first one, and the closing bracket. -/
def itemTokens : List Tree → List Token
  | [] => [.mark ']']
  | v :: vs => .mark ',' :: v.tokens ++ itemTokens vs

/-- The members after the first one, and the closing brace. -/
def memberTokens : List (Literal × Tree) → List Token
  | [] => [.mark '\x7d']
  | (name, v) :: ms => .mark ',' :: .string name :: .mark ':' :: v.tokens ++ memberTokens ms

end

mutual

/-- How many brackets are open at once. -/
def nesting : Tree → Nat
  | .null => 0
  | .bool _ => 0
  | .number _ => 0
  | .string _ => 0
  | .array vs => itemNesting vs + 1
  | .object ms => memberNesting ms + 1

def itemNesting : List Tree → Nat
  | [] => 0
  | v :: vs => max v.nesting (itemNesting vs)

def memberNesting : List (Literal × Tree) → Nat
  | [] => 0
  | (_, v) :: ms => max v.nesting (memberNesting ms)

end

mutual

/-- The value that is written; `none` if a string in it is not Unicode or a number out of range. -/
def value? : Tree → Option Json
  | .null => some .null
  | .bool b => some (.bool b)
  | .number n => n.number?.map .number
  | .string s => s.value?.map .string
  | .array vs => (itemValues? vs).map .array
  | .object ms => (memberValues? ms).map .object

def itemValues? : List Tree → Option (List Json)
  | [] => some []
  | v :: vs => do return (← v.value?) :: (← itemValues? vs)

def memberValues? : List (Literal × Tree) → Option (List (String × Json))
  | [] => some []
  | (name, v) :: ms => do return (← name.value?, ← v.value?) :: (← memberValues? ms)

end

end Tree

/-! ## Texts -/

/-- The characters that may stand between tokens. -/
def blankChars : List Char := [' ', '\t', '\n', '\r']

/-- All characters are blanks. -/
def Blank (cs : List Char) : Prop := ∀ c ∈ cs, c ∈ blankChars

/-- The text `cs` begins with the tokens, with blanks in front of each, and goes on with `rest`. -/
def Spaced : List Token → List Char → List Char → Prop
  | [], cs, rest => cs = rest
  | t :: ts, cs, rest =>
    ∃ blanks mid, Blank blanks ∧ cs = blanks ++ t.text ++ mid ∧ Spaced ts mid rest

/-- The text holds the value and nothing else. -/
def Tree.Spells (v : Tree) (s : String) : Prop :=
  ∃ blanks, Blank blanks ∧ Spaced v.tokens s.toList blanks

/-! ## Blanks -/

theorem isBlank_iff {c : Char} : isBlank c = true ↔ c ∈ blankChars := by
  simp only [isBlank, blankChars, Bool.or_eq_true, beq_iff_eq, List.mem_cons, List.not_mem_nil,
    or_false]
  grind

theorem skipBlanks_append {blanks cs : List Char} (h : Blank blanks) :
    skipBlanks (blanks ++ cs) = skipBlanks cs :=
  List.dropWhile_append_of_pos fun c hc => isBlank_iff.mpr (h c hc)

theorem skipBlanks_cons {c : Char} {cs : List Char} (h : isBlank c = false) :
    skipBlanks (c :: cs) = c :: cs :=
  List.dropWhile_cons_of_neg (by simp [h])

theorem exists_blank_append (cs : List Char) :
    ∃ blanks, Blank blanks ∧ cs = blanks ++ skipBlanks cs :=
  ⟨cs.takeWhile isBlank, fun c hc => isBlank_iff.mp (List.all_eq_true.mp List.all_takeWhile c hc),
    List.takeWhile_append_dropWhile.symm⟩

theorem blank_append {bs cs : List Char} (hb : Blank bs) (hc : Blank cs) : Blank (bs ++ cs) := by
  intro c h
  rcases List.mem_append.mp h with h | h
  · exact hb c h
  · exact hc c h

theorem skipBlanks_eq_nil_iff {cs : List Char} : skipBlanks cs = [] ↔ Blank cs := by
  constructor
  · intro h
    obtain ⟨blanks, hb, he⟩ := exists_blank_append cs
    rw [h, List.append_nil] at he
    exact he ▸ hb
  · intro h
    rw [← List.append_nil cs, skipBlanks_append h]
    rfl

/-! ## Spaced tokens -/

/-- The text of the token does not begin with a blank. -/
def Token.Solid (t : Token) : Prop := ∃ c cs, t.text = c :: cs ∧ isBlank c = false

theorem spaced_append {ts us : List Token} {cs rest : List Char} :
    Spaced (ts ++ us) cs rest ↔ ∃ mid, Spaced ts cs mid ∧ Spaced us mid rest := by
  induction ts generalizing cs with
  | nil => simp [Spaced]
  | cons t ts ih =>
    simp only [List.cons_append, Spaced, ih]
    constructor
    · rintro ⟨blanks, mid, hb, he, mid', h, h'⟩
      exact ⟨mid', ⟨blanks, mid, hb, he, h⟩, h'⟩
    · rintro ⟨mid', ⟨blanks, mid, hb, he, h⟩, h'⟩
      exact ⟨blanks, mid, hb, he, mid', h, h'⟩

theorem spaced_cons_iff {t : Token} (ht : t.Solid) {ts : List Token} {cs rest : List Char} :
    Spaced (t :: ts) cs rest ↔ ∃ mid, skipBlanks cs = t.text ++ mid ∧ Spaced ts mid rest := by
  obtain ⟨c, cs', htext, hc⟩ := ht
  constructor
  · rintro ⟨blanks, mid, hb, rfl, h⟩
    refine ⟨mid, ?_, h⟩
    rw [List.append_assoc, skipBlanks_append hb, htext, List.cons_append, skipBlanks_cons hc]
  · rintro ⟨mid, he, h⟩
    obtain ⟨blanks, hb, hcs⟩ := exists_blank_append cs
    exact ⟨blanks, mid, hb, by rw [hcs, he, List.append_assoc], h⟩

theorem spaced_skipBlanks {t : Token} {ts : List Token} {cs rest : List Char}
    (h : Spaced (t :: ts) (skipBlanks cs) rest) : Spaced (t :: ts) cs rest := by
  obtain ⟨blanks, mid, hb, he, h⟩ := h
  obtain ⟨blanks', hb', hcs⟩ := exists_blank_append cs
  exact ⟨blanks' ++ blanks, mid, blank_append hb' hb,
    by rw [hcs, he, List.append_assoc, List.append_assoc, List.append_assoc], h⟩

theorem spaced_mark {c : Char} (hc : isBlank c = false) {ts : List Token} {cs rest : List Char} :
    Spaced (.mark c :: ts) cs rest ↔ ∃ mid, skipBlanks cs = c :: mid ∧ Spaced ts mid rest :=
  spaced_cons_iff ⟨c, [], rfl, hc⟩

theorem spaced_string {s : Literal} {ts : List Token} {cs rest : List Char} :
    Spaced (.string s :: ts) cs rest ↔
      ∃ mid, skipBlanks cs = '"' :: (s.text ++ '"' :: mid) ∧ Spaced ts mid rest := by
  rw [spaced_cons_iff ⟨'"', _, rfl, by decide⟩]
  simp [Token.text]

theorem Spaced.length_le {ts : List Token} {cs rest : List Char} (h : Spaced ts cs rest) :
    rest.length ≤ cs.length := by
  induction ts generalizing cs with
  | nil =>
    simp only [Spaced] at h
    simp [h]
  | cons t ts ih =>
    obtain ⟨blanks, mid, -, rfl, h⟩ := h
    have hmid := ih h
    simp only [List.length_append]
    omega

theorem length_lt_of_skipBlanks {cs mid : List Char} {c : Char} (h : skipBlanks cs = c :: mid) :
    mid.length < cs.length := by
  have hle : (skipBlanks cs).length ≤ cs.length := (List.dropWhile_sublist isBlank).length_le
  rw [h, List.length_cons] at hle
  omega

end SyntaxOutline.Json
