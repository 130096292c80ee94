import SyntaxOutline.Outline.Json

/-!
# Indentation

The indented text of a JSON value is the compact one with spaces and newlines added between tokens.
What lies between tokens is told by a scan that follows quotes and backslashes (`Place`), so that
the text can be stripped without reading it (`stripLayout`).

`LaidOut cs ds` is what the scan keeps track of: from outside of string literals it gets outside
again, `ds` is left of `cs`, and no other control character is met than newlines on the way. It
composes along `++` (`LaidOut.append`), so it holds of the indented text of every value
(`laidOut_pretty`).
-/

namespace SyntaxOutline.Json

/-! ## Inside and outside of string literals -/

/-- Where a scan of a text stands: outside of string literals, inside of one, or inside of one
behind a backslash. -/
inductive Place where
  | outside
  | inside
  | escaped
deriving DecidableEq, Repr

/-- Where the scan stands behind a character. -/
def Place.next : Place → Char → Place
  | .outside, c => if c = '"' then .inside else .outside
  | .inside, c => if c = '"' then .outside else if c = '\\' then .escaped else .inside
  | .escaped, _ => .inside

/-- Where the scan stands behind a text. -/
def Place.behind (p : Place) (cs : List Char) : Place := cs.foldl Place.next p

/-- The characters of a text with the places where they stand. -/
def placed : Place → List Char → List (Place × Char)
  | _, [] => []
  | p, c :: cs => (p, c) :: placed (p.next c) cs

/-- The character is a space or a newline outside of string literals. -/
def isLayout (q : Place × Char) : Bool := q.1 == .outside && (q.2 == ' ' || q.2 == '\n')

/-- What is left of a text without spaces and newlines outside of string literals. -/
def strip (p : Place) (cs : List Char) : List Char :=
  ((placed p cs).filter fun q => !isLayout q).map Prod.snd

/-- The text without spaces and newlines outside of string literals. -/
def stripLayout (s : String) : String := String.ofList (strip .outside s.toList)

theorem placed_append (p : Place) (cs ds : List Char) :
    placed p (cs ++ ds) = placed p cs ++ placed (p.behind cs) ds := by
  induction cs generalizing p with
  | nil => rfl
  | cons c cs ih =>
    rw [List.cons_append, placed, placed, ih, List.cons_append]
    rfl

theorem strip_append (p : Place) (cs ds : List Char) :
    strip p (cs ++ ds) = strip p cs ++ strip (p.behind cs) ds := by
  unfold strip
  rw [placed_append, List.filter_append, List.map_append]

theorem map_snd_placed (p : Place) (cs : List Char) : (placed p cs).map Prod.snd = cs := by
  induction cs generalizing p with
  | nil => rfl
  | cons c cs ih => rw [placed, List.map_cons, ih]

/-- Where no layout is met, nothing is taken out. -/
theorem strip_eq_self {p : Place} {cs : List Char} (h : ∀ q ∈ placed p cs, isLayout q = false) :
    strip p cs = cs := by
  unfold strip
  rw [List.filter_eq_self.mpr fun q hq => by simp [h q hq], map_snd_placed]

theorem Place.behind_append (p : Place) (cs ds : List Char) :
    p.behind (cs ++ ds) = (p.behind cs).behind ds :=
  List.foldl_append

/-! ## Texts that are laid out -/

/-- Between string literals, the text `cs` is `ds` with spaces and newlines added, and these
newlines are its only control characters. -/
structure LaidOut (cs ds : List Char) : Prop where
  behind : Place.outside.behind cs = .outside
  strip : strip .outside cs = ds
  controls : ∀ q ∈ placed .outside cs, q.2.toNat < 0x20 → q = (.outside, '\n')

theorem LaidOut.append {cs ds cs' ds' : List Char} (h : LaidOut cs ds) (h' : LaidOut cs' ds') :
    LaidOut (cs ++ cs') (ds ++ ds') := by
  refine ⟨?_, ?_, ?_⟩
  · rw [Place.behind_append, h.behind, h'.behind]
  · rw [strip_append, h.strip, h.behind, h'.strip]
  · intro q hq
    rw [placed_append, h.behind] at hq
    rcases List.mem_append.mp hq with hq | hq
    · exact h.controls q hq
    · exact h'.controls q hq

theorem laidOut_nil : LaidOut [] [] := ⟨rfl, rfl, by simp [placed]⟩

/-- A character between string literals that is no blank and no control character. -/
def IsMark (c : Char) : Prop := 0x20 < c.toNat ∧ c ≠ '"'

instance (c : Char) : Decidable (IsMark c) := inferInstanceAs (Decidable (_ ∧ _))

/-- Whether all characters are marks can be computed. -/
theorem isMark_of_all {cs : List Char} (h : cs.all (fun c => decide (IsMark c)) = true) :
    ∀ c ∈ cs, IsMark c :=
  fun c hc => of_decide_eq_true (List.all_eq_true.mp h c hc)

theorem laidOut_mark {c : Char} (h : IsMark c) : LaidOut [c] [c] := by
  have hspace : c ≠ ' ' := by
    rintro rfl
    exact absurd h.1 (by decide)
  have hnewline : c ≠ '\n' := by
    rintro rfl
    exact absurd h.1 (by decide)
  refine ⟨?_, ?_, ?_⟩
  · simp [Place.behind, Place.next, h.2]
  · simp [Json.strip, placed, isLayout, hspace, hnewline]
  · intro q hq hlt
    simp only [placed, List.mem_singleton] at hq
    subst hq
    exact absurd h.1 (Nat.not_lt.mpr (Nat.le_of_lt hlt))

theorem laidOut_marks {cs : List Char} (h : ∀ c ∈ cs, IsMark c) : LaidOut cs cs := by
  induction cs with
  | nil => exact laidOut_nil
  | cons c cs ih =>
    have hcs : ∀ d ∈ cs, IsMark d := fun d hd => h d (List.mem_cons_of_mem c hd)
    exact (laidOut_mark (h c List.mem_cons_self)).append (ih hcs)

theorem laidOut_space : LaidOut [' '] [] := by
  refine ⟨rfl, rfl, ?_⟩
  simp [placed]

theorem laidOut_newLine (level : Nat) : LaidOut (newLine level) [] := by
  have hspaces : ∀ n, LaidOut (List.replicate n ' ') [] := by
    intro n
    induction n with
    | zero => exact laidOut_nil
    | succ n ih => exact laidOut_space.append ih
  have hnewline : LaidOut ['\n'] [] := by
    refine ⟨rfl, rfl, ?_⟩
    simp [placed]
  exact hnewline.append (hspaces (2 * level))

/-! ## String literals -/

/-- Inside of a string literal, the text neither leaves it nor has control characters. -/
structure Quoted (cs : List Char) : Prop where
  behind : Place.inside.behind cs = .inside
  within : ∀ q ∈ placed .inside cs, q.1 ≠ .outside ∧ 0x20 ≤ q.2.toNat

theorem Quoted.append {cs ds : List Char} (h : Quoted cs) (h' : Quoted ds) :
    Quoted (cs ++ ds) := by
  refine ⟨?_, ?_⟩
  · rw [Place.behind_append, h.behind, h'.behind]
  · intro q hq
    rw [placed_append, h.behind] at hq
    rcases List.mem_append.mp hq with hq | hq
    · exact h.within q hq
    · exact h'.within q hq

/-- A letter behind a backslash. -/
theorem quoted_simple {c : Char} (h : 0x20 ≤ c.toNat) : Quoted ['\\', c] := by
  refine ⟨rfl, ?_⟩
  simp [placed, Place.next, h]

theorem quoted_plain {c : Char} (h : 0x20 ≤ c.toNat) (hquote : c ≠ '"') (hslash : c ≠ '\\') :
    Quoted [c] := by
  refine ⟨?_, ?_⟩
  · simp [Place.behind, Place.next, hquote, hslash]
  · simp [placed, h]

theorem hexChar_plain : ∀ n < 16,
    0x20 ≤ (hexChar n).toNat ∧ hexChar n ≠ '"' ∧ hexChar n ≠ '\\' := by
  decide

theorem quoted_hexChar (n : Nat) : Quoted [hexChar n] := by
  have hmod : hexChar n = hexChar (n % 16) := by
    unfold hexChar
    rw [Nat.mod_mod]
  obtain ⟨h, hquote, hslash⟩ := hexChar_plain (n % 16) (Nat.mod_lt n (by decide))
  rw [hmod]
  exact quoted_plain h hquote hslash

theorem quoted_escapeChar (c : Char) : Quoted (escapeChar c) := by
  unfold escapeChar
  split
  · exact quoted_simple (by decide)
  split
  · exact quoted_simple (by decide)
  split
  · exact quoted_simple (by decide)
  split
  · exact quoted_simple (by decide)
  split
  · exact quoted_simple (by decide)
  split
  · exact quoted_simple (by decide)
  split
  · exact quoted_simple (by decide)
  split
  · have hzero : Quoted ['0'] := quoted_plain (by decide) (by decide) (by decide)
    have hu : Quoted ['\\', 'u'] := quoted_simple (by decide)
    exact hu.append (hzero.append (hzero.append
      ((quoted_hexChar (c.toNat / 16)).append (quoted_hexChar c.toNat))))
  · rename_i hquote hslash _ _ _ _ _ hcontrol
    exact quoted_plain (Nat.le_of_not_lt hcontrol) hquote hslash

theorem quoted_escape (cs : List Char) : Quoted (cs.flatMap escapeChar) := by
  induction cs with
  | nil => exact ⟨rfl, by simp [placed]⟩
  | cons c cs ih =>
    rw [List.flatMap_cons]
    exact (quoted_escapeChar c).append ih

/-- Nothing is taken out of a string literal. -/
theorem laidOut_quote (s : String) : LaidOut (quote s) (quote s) := by
  have hinner := quoted_escape s.toList
  have hbehind : Place.outside.behind ('"' :: s.toList.flatMap escapeChar) = .inside :=
    hinner.behind
  have hplaced : placed .outside (quote s) =
      (.outside, '"') :: (placed .inside (s.toList.flatMap escapeChar) ++ [(.inside, '"')]) := by
    rw [quote, placed_append, hbehind]
    rfl
  have hchars : ∀ q ∈ placed .outside (quote s), isLayout q = false ∧ 0x20 ≤ q.2.toNat := by
    intro q hq
    rw [hplaced, List.mem_cons, List.mem_append, List.mem_singleton] at hq
    rcases hq with rfl | hq | rfl
    · decide
    · obtain ⟨hplace, hle⟩ := hinner.within q hq
      exact ⟨by simp [isLayout, hplace], hle⟩
    · decide
  refine ⟨?_, ?_, ?_⟩
  · rw [quote, Place.behind_append, hbehind]
    rfl
  · exact strip_eq_self fun q hq => (hchars q hq).1
  · intro q hq hlt
    exact absurd hlt (Nat.not_lt.mpr (hchars q hq).2)

/-! ## Numbers -/

/-- A character that numbers are written with. -/
def isNumberChar (c : Char) : Bool := c.isDigit || ['-', '+', '.', 'e'].contains c

theorem isMark_of_isNumberChar {c : Char} (h : isNumberChar c = true) : IsMark c := by
  rcases Bool.or_eq_true_iff.mp h with hdigit | hmember
  · obtain ⟨hle, -⟩ := Char.isDigit_iff_toNat.mp hdigit
    have hzero : '0'.toNat = 48 := rfl
    refine ⟨by omega, ?_⟩
    rintro rfl
    exact absurd hdigit (by decide)
  · have hcases : c = '-' ∨ c = '+' ∨ c = '.' ∨ c = 'e' := by simpa using hmember
    rcases hcases with rfl | rfl | rfl | rfl <;> decide

theorem isNumberChar_of_mem_toDigits {n : Nat} {c : Char} (h : c ∈ Nat.toDigits 10 n) :
    isNumberChar c = true := by
  simp [isNumberChar, Nat.isDigit_of_mem_toDigits (by decide) (by decide) h]

theorem isNumberChar_digits (layout : DecimalLayout) (d : Nat) (p : Int) :
    ∀ c ∈ (layout.digits d p).toList, isNumberChar c = true := by
  have hdigits : ∀ n, ∀ c ∈ Nat.toDigits 10 n, isNumberChar c = true :=
    fun n c => isNumberChar_of_mem_toDigits
  have htake : ∀ n k, ∀ c ∈ (Nat.toDigits 10 n).take k, isNumberChar c = true :=
    fun n k c hc => hdigits n c (List.mem_of_mem_take hc)
  have hdrop : ∀ n k, ∀ c ∈ (Nat.toDigits 10 n).drop k, isNumberChar c = true :=
    fun n k c hc => hdigits n c (List.mem_of_mem_drop hc)
  have hzeros : ∀ k, ∀ c ∈ List.replicate k '0', isNumberChar c = true := by
    intro k c hc
    rw [List.eq_of_mem_replicate hc]
    rfl
  unfold DecimalLayout.digits
  simp only [String.toList_ofList]
  split
  · split
    · simp only [List.forall_mem_append]
      exact ⟨⟨hdigits _, hzeros _⟩, List.all_eq_true.mp rfl⟩
    split
    · simp only [List.forall_mem_append, List.forall_mem_cons]
      exact ⟨htake _ _, rfl, hdrop _ _⟩
    · simp only [List.cons_append, List.forall_mem_append, List.forall_mem_cons]
      exact ⟨rfl, rfl, hzeros _, hdigits _⟩
  · simp only [List.forall_mem_append, List.forall_mem_cons]
    refine ⟨⟨htake _ _, ?_⟩, rfl, ?_, hdigits _⟩
    · split
      · simp
      · rw [List.forall_mem_cons]
        exact ⟨rfl, hdrop _ _⟩
    · split <;> rfl

theorem isNumberChar_render (n : Number) : ∀ c ∈ n.render, isNumberChar c = true := by
  cases n with
  | integer i =>
    cases i with
    | ofNat n =>
      intro c hc
      have hrender : (Number.integer n).render = Nat.toDigits 10 n := Nat.toList_repr
      exact isNumberChar_of_mem_toDigits (hrender ▸ hc)
    | negSucc n =>
      intro c hc
      have hrender : (Number.integer (Int.negSucc n)).render = '-' :: Nat.toDigits 10 (n + 1) := by
        change ("-" ++ (n + 1).repr).toList = _
        rw [String.toList_append, Nat.toList_repr]
        rfl
      rw [hrender] at hc
      rcases List.mem_cons.mp hc with rfl | hc
      · decide
      · exact isNumberChar_of_mem_toDigits hc
  | float negative magnitude =>
    change ∀ c ∈ ((if negative then "-" else "") ++ floatLayout.digits _ _).toList, _
    rw [String.toList_append, List.forall_mem_append]
    refine ⟨?_, isNumberChar_digits _ _ _⟩
    cases negative <;> exact List.all_eq_true.mp rfl

theorem laidOut_number (n : Number) : LaidOut n.render n.render :=
  laidOut_marks fun c hc => isMark_of_isNumberChar (isNumberChar_render n c hc)

/-! ## Values -/

theorem laidOut_colon {cs ds : List Char} (h : LaidOut cs ds) :
    LaidOut (':' :: ' ' :: cs) (':' :: ds) :=
  (laidOut_mark (by decide)).append (laidOut_space.append h)

/-- A bracket or a comma, and the new line behind it. -/
theorem laidOut_mark_newLine {c : Char} (hc : IsMark c) (level : Nat) :
    LaidOut (c :: newLine level) [c] :=
  (laidOut_mark hc).append (laidOut_newLine level)

mutual

/-- The indented text of a value is the compact one, laid out. -/
theorem laidOut_pretty (level : Nat) : ∀ j : Json,
    LaidOut (j.prettyChars level) j.compactChars
  | .null => by
    rw [prettyChars, compactChars]
    exact laidOut_marks (isMark_of_all (by decide))
  | .bool true => by
    rw [prettyChars, compactChars]
    exact laidOut_marks (isMark_of_all (by decide))
  | .bool false => by
    rw [prettyChars, compactChars]
    exact laidOut_marks (isMark_of_all (by decide))
  | .number n => by
    rw [prettyChars, compactChars]
    exact laidOut_number n
  | .string s => by
    rw [prettyChars, compactChars]
    exact laidOut_quote s
  | .array [] => by
    rw [prettyChars, compactChars]
    exact laidOut_marks (isMark_of_all (by decide))
  | .array (item :: items) => by
    rw [prettyChars, compactChars]
    have hopen := laidOut_mark_newLine (c := '[') (by decide) (level + 1)
    exact (hopen.append (laidOut_pretty (level + 1) item)).append (laidOut_prettyItems level items)
  | .object [] => by
    rw [prettyChars, compactChars]
    exact laidOut_marks (isMark_of_all (by decide))
  | .object ((name, value) :: members) => by
    rw [prettyChars, compactChars]
    have hopen := laidOut_mark_newLine (c := '\x7b') (by decide) (level + 1)
    have hvalue := laidOut_colon (laidOut_pretty (level + 1) value)
    exact ((hopen.append (laidOut_quote name)).append hvalue).append
      (laidOut_prettyMembers level members)

theorem laidOut_prettyItems (level : Nat) : ∀ items : List Json,
    LaidOut (prettyItems level items) (compactItems items)
  | [] => by
    rw [prettyItems, compactItems]
    exact (laidOut_newLine level).append (laidOut_mark (by decide))
  | item :: items => by
    rw [prettyItems, compactItems]
    have hcomma := laidOut_mark_newLine (c := ',') (by decide) (level + 1)
    exact (hcomma.append (laidOut_pretty (level + 1) item)).append (laidOut_prettyItems level items)

theorem laidOut_prettyMembers (level : Nat) : ∀ members : List (String × Json),
    LaidOut (prettyMembers level members) (compactMembers members)
  | [] => by
    rw [prettyMembers, compactMembers]
    exact (laidOut_newLine level).append (laidOut_mark (by decide))
  | (name, value) :: members => by
    rw [prettyMembers, compactMembers]
    have hcomma := laidOut_mark_newLine (c := ',') (by decide) (level + 1)
    have hvalue := laidOut_colon (laidOut_pretty (level + 1) value)
    exact ((hcomma.append (laidOut_quote name)).append hvalue).append
      (laidOut_prettyMembers level members)

end

/-- What is left of a text that is laid out has no control characters. -/
theorem LaidOut.control_not_mem {cs ds : List Char} (h : LaidOut cs ds) :
    ∀ c ∈ ds, 0x20 ≤ c.toNat := by
  intro c hc
  rw [← h.strip, Json.strip, List.mem_map] at hc
  obtain ⟨q, hq, rfl⟩ := hc
  obtain ⟨hplaced, hkept⟩ := List.mem_filter.mp hq
  refine Nat.le_of_not_lt fun hlt => ?_
  rw [h.controls q hplaced hlt] at hkept
  exact absurd hkept (by decide)

end SyntaxOutline.Json

namespace SyntaxOutline.Outline

open Json (Place placed stripLayout LaidOut)

/-- The first line of an indented outline is its opening brace. -/
theorem newline_mem_pretty (o : Outline) : '\n' ∈ o.pretty.toList := by
  obtain ⟨content, span, kind, children⟩ := o
  have hobject : ∃ members, toJson ⟨content, span, kind, children⟩ =
      .object (("Content", .string content) :: members) := by
    rw [toJson.eq_def]
    exact ⟨_, rfl⟩
  obtain ⟨members, hmembers⟩ := hobject
  rw [pretty, Json.pretty, String.toList_ofList, hmembers, Json.prettyChars]
  simp [Json.newLine]

/-- **Indentation.** Without the spaces and newlines outside of string literals, the indented text
of an outline is the compact one. The compact text has no control characters, and so is a single
line; those of the indented text are newlines outside of string literals. -/
theorem stripLayout_pretty (o : Outline) :
    stripLayout o.pretty = o.compact ∧
      (∀ c ∈ o.compact.toList, 0x20 ≤ c.toNat) ∧
      '\n' ∈ o.pretty.toList ∧
      ∀ q ∈ placed .outside o.pretty.toList, q.2.toNat < 0x20 → q = (.outside, '\n') := by
  have hpretty : o.pretty.toList = o.toJson.prettyChars 0 := String.toList_ofList
  have hcompact : o.compact.toList = o.toJson.compactChars := String.toList_ofList
  have h := Json.laidOut_pretty 0 o.toJson
  refine ⟨?_, ?_, newline_mem_pretty o, ?_⟩
  · rw [stripLayout, hpretty, h.strip, compact, Json.compact]
  · rw [hcompact]
    exact h.control_not_mem
  · rw [hpretty]
    exact h.controls

end SyntaxOutline.Outline
