import SyntaxOutline.Proofs.Settings.Given

/-!
# Settings survive being written

The text of settings is a document of one key and two tables (`Settings.toList_toToml`) that gives
all of them, so they are read back (`Settings.ofToml?_toToml`).
-/

namespace SyntaxOutline

open Toml

/-! ## Plain keys and values -/

namespace Toml

/-- The decimal digits of a number. -/
def Digits.ofNat (n : Nat) : Digits 10 :=
  if h : n < 10 then ⟨⟨⟨n, h⟩, false⟩, []⟩
  else
    let front := ofNat (n / 10)
    ⟨front.first, front.others ++ [(false, ⟨⟨n % 10, Nat.mod_lt n (by decide)⟩, false⟩)]⟩
termination_by n
decreasing_by omega

theorem Digits.text_ofNat (n : Nat) : (Digits.ofNat n).text = Nat.toDigits 10 n := by
  induction n using Nat.strongRecOn with
  | ind n ih =>
    rw [Digits.ofNat]
    split
    · rename_i h
      rw [Nat.toDigits_of_lt_base h]
      rfl
    · rename_i h
      rw [Nat.toDigits_of_base_le (by decide) (by omega), ← ih (n / 10) (by omega)]
      simp [Digits.text, Digits.othersText, Digit.char]

theorem Digits.number_ofNat (n : Nat) : (Digits.ofNat n).number = n := by
  induction n using Nat.strongRecOn with
  | ind n ih =>
    rw [Digits.ofNat]
    split
    · simp [Digits.number, Digits.list, Digit.number]
    · have hfront := ih (n / 10) (by omega)
      simp only [Digits.number, Digits.list, Digit.number] at hfront ⊢
      rw [List.map_append, ← List.cons_append, List.foldl_append, hfront]
      simp only [List.map_cons, List.map_nil, List.foldl_cons, List.foldl_nil]
      omega

theorem Digits.noLeadingZero_ofNat (n : Nat) : (Digits.ofNat n).NoLeadingZero := by
  induction n using Nat.strongRecOn with
  | ind n ih =>
    intro hzero
    rw [Digits.ofNat] at hzero ⊢
    split
    · rfl
    · rename_i h
      rw [dif_neg h] at hzero
      -- digits that begin with a zero write zero, but the front is not zero
      have hothers := ih (n / 10) (by omega) hzero
      have hnumber := Digits.number_ofNat (n / 10)
      rw [Digits.number, Digits.list, hothers] at hnumber
      have hfront : (Digits.ofNat (n / 10)).first.value.val = n / 10 := by
        simpa [Digit.number] using hnumber
      dsimp only at hzero
      omega

/-- A whole number in plain digits. -/
def Tree.word (n : UInt64) : Tree :=
  .number (.whole .none (.ofNat n.toNat) (Digits.noLeadingZero_ofNat _))

theorem Tree.text_word (n : UInt64) : (Tree.word n).text = (toString n).toList :=
  (Digits.text_ofNat n.toNat).trans Nat.toList_repr.symm

theorem Tree.scalar?_word (n : UInt64) : (Tree.word n).scalar? = some (.integer n.toNat) := by
  have hsigned : signed .none (Digits.ofNat n.toNat).number = n.toNat := by
    rw [Digits.number_ofNat]
    rfl
  exact congrArg (fun i => some (Value.integer i)) hsigned

theorem Tree.bounded_word (n : UInt64) (room : Nat) : (Tree.word n).Bounded room := by
  intro i hi
  obtain rfl : (n.toNat : Int) = i := by
    have hscalar := Tree.scalar?_word n
    rw [Tree.word, Tree.scalar?, Option.mem_def.mp hi] at hscalar
    cases hscalar
    rfl
  have hlt := n.toNat_lt
  omega

/-- The character stands for itself between double quotes. -/
def IsVerbatim (c : Char) : Prop := IsPrinted c ∧ c ≠ Quote.double.char ∧ c ≠ '\\'

instance (c : Char) : Decidable (IsVerbatim c) := inferInstanceAs (Decidable (_ ∧ _))

def Piece.verbatim (c : Char) (h : IsVerbatim c) : Piece .double :=
  .plain c h.1 h.2.1 fun _ => h.2.2

/-- A string between double quotes without escapes. -/
def Literal.verbatim (s : String) (h : ∀ c ∈ s.toList, IsVerbatim c) : Literal :=
  .line .double (s.toList.pmap Piece.verbatim h)

theorem Literal.text_verbatim {s : String} (h : ∀ c ∈ s.toList, IsVerbatim c) :
    (Literal.verbatim s h).text = '"' :: (s.toList ++ ['"']) := by
  have hpieces : ∀ (cs : List Char) (h : ∀ c ∈ cs, IsVerbatim c),
      (cs.pmap Piece.verbatim h).flatMap Piece.text = cs := by
    intro cs h
    induction cs with
    | nil => rfl
    | cons c cs ih =>
      rw [List.pmap, List.flatMap_cons, ih]
      rfl
  rw [Literal.verbatim, Literal.text, Literal.body, hpieces]
  rfl

theorem Literal.value_verbatim {s : String} (h : ∀ c ∈ s.toList, IsVerbatim c) :
    (Literal.verbatim s h).value = s := by
  have hchars : (s.toList.pmap Piece.verbatim h).map Piece.char = s.toList := by
    rw [List.map_pmap]
    exact (List.pmap_eq_map h).trans (List.map_id _)
  rw [Literal.verbatim, Literal.value, Literal.chars, hchars, String.ofList_toList]

/-- The name needs no quotes as a key. -/
def IsBareKey (name : String) : Prop := name.toList ≠ [] ∧ ∀ c ∈ name.toList, IsBareChar c

instance (name : String) : Decidable (IsBareKey name) :=
  have : Decidable (∀ c ∈ name.toList, IsBareChar c) := List.decidableBAll _ _
  inferInstanceAs (Decidable (_ ∧ _))

def DottedKey.bare (name : String) (h : IsBareKey name) : DottedKey :=
  ⟨[], .bare name.toList h.1 h.2⟩

theorem DottedKey.bounded_bare {name : String} (h : IsBareKey name) :
    (DottedKey.bare name h).Bounded :=
  Nat.zero_lt_succ 79

/-- A line that gives a value to a key. -/
def Row.assign (key : DottedKey) (t : Tree) : Row :=
  { statement := .value key .one .one t }

/-- An empty line, and a header behind it. -/
def Row.heading (key : DottedKey) : Row :=
  { gap := { lines := [({}, .feed)] }, statement := .table .none key .none }

theorem Row.text_assign {name : String} (h : IsBareKey name) (t : Tree) :
    (Row.assign (.bare name h) t).text = name.toList ++ (" = ".toList ++ (t.text ++ ['\n'])) := by
  simp [Row.assign, Row.text, Gap.text, Tail.text, LineEnd.text, Statement.text, keyText,
    Spaces.none, Spaces.one, DottedKey.bare, DottedKey.text, KeyPart.text]

theorem Row.text_heading {name : String} (h : IsBareKey name) :
    (Row.heading (.bare name h)).text = "\n[".toList ++ (name.toList ++ "]\n".toList) := by
  simp [Row.heading, Row.text, Gap.text, Tail.text, LineEnd.text, Statement.text, Spaces.none,
    DottedKey.bare, DottedKey.text, KeyPart.text]

end Toml

/-! ## The document -/

theorem Grammar.isVerbatim_name (g : Grammar) : ∀ c ∈ g.name.toList, IsVerbatim c := by
  cases g with
  | markdown => exact List.all_iff_forall_prop.mp rfl
  | markdownInline => exact List.all_iff_forall_prop.mp rfl

namespace Settings

/-- The lines of a limit that is set. -/
def limitRows (key : DottedKey) (limit : Option UInt64) : List Row :=
  limit.toList.map fun n => .assign key (.word n)

theorem toList_limitLine {name : String} (h : IsBareKey name) (limit : Option UInt64) :
    (limitLine name limit).toList = (limitRows (.bare name h) limit).flatMap Row.text := by
  cases limit with
  | none => rfl
  | some n =>
    change (name ++ " = " ++ toString n ++ "\n").toList = _
    simp only [limitRows, Option.toList_some, List.map_cons, List.map_nil, List.flatMap_cons,
      List.flatMap_nil, Row.text_assign, Tree.text_word, String.toList_append, List.append_assoc,
      List.append_nil]
    rfl

def grammarKey : DottedKey := .bare "grammar" (by decide)

def outputKey : DottedKey := .bare "output" (by decide)

def prettyKey : DottedKey := .bare "pretty" (by decide)

def kindsKey : DottedKey := .bare "include_kinds" (by decide)

def limitsKey : DottedKey := .bare "limits" (by decide)

def depthKey : DottedKey := .bare "max_depth" (by decide)

def nodesKey : DottedKey := .bare "max_nodes" (by decide)

/-- The document that settings are written as. -/
def document (s : Settings) : Document where
  rows :=
    [.assign grammarKey (.string (.verbatim s.grammar.name s.grammar.isVerbatim_name)),
      .heading outputKey, .assign prettyKey (.boolean s.output.pretty),
      .assign kindsKey (.boolean s.output.includeKinds), .heading limitsKey] ++
    (limitRows depthKey s.limits.maxDepth ++ limitRows nodesKey s.limits.maxNodes)

theorem toList_toString (b : Bool) : (toString b).toList = (Tree.boolean b).text := by
  cases b with
  | true => rfl
  | false => rfl

/-- Settings are written as a document. -/
theorem toList_toToml (s : Settings) : s.toToml.toList = s.document.text := by
  have hdepth := toList_limitLine (show IsBareKey "max_depth" by decide) s.limits.maxDepth
  have hnodes := toList_limitLine (show IsBareKey "max_nodes" by decide) s.limits.maxNodes
  have hgrammar : (Tree.string (.verbatim s.grammar.name s.grammar.isVerbatim_name)).text =
      '"' :: (s.grammar.name.toList ++ ['"']) := Literal.text_verbatim _
  have htext : s.document.text = s.document.rows.flatMap Row.text := List.append_nil _
  rw [htext]
  -- `delta`, because the equation that `simp` would make of this definition takes seconds
  delta toToml
  simp only [String.toList_append, hdepth, hnodes, hgrammar, document, grammarKey, outputKey,
    prettyKey, kindsKey, limitsKey, Row.text_assign, Row.text_heading, Grammar.key_eq_name,
    toList_toString, List.flatMap_append, List.flatMap_cons, List.append_assoc, List.cons_append,
    List.nil_append]
  rfl

theorem keeps_limitRows {name : String} (h : IsBareKey name) (limit : Option UInt64) :
    ∀ r ∈ limitRows (.bare name h) limit, r.statement.Bounded ∧ r.statement.Consistent := by
  cases limit with
  | none =>
    intro r hr
    cases hr
  | some n =>
    intro r hr
    obtain rfl := List.mem_singleton.mp hr
    exact ⟨⟨DottedKey.bounded_bare h, Tree.bounded_word n 80⟩, trivial⟩

theorem keeps_rows (s : Settings) :
    ∀ r ∈ s.document.rows, r.statement.Bounded ∧ r.statement.Consistent := by
  have hassign : ∀ {name : String} (h : IsBareKey name) {t : Tree}, t.Bounded 80 → t.Consistent →
      (Row.assign (.bare name h) t).statement.Bounded ∧
        (Row.assign (.bare name h) t).statement.Consistent :=
    fun h t hbounded hconsistent => ⟨⟨DottedKey.bounded_bare h, hbounded⟩, hconsistent⟩
  have hheading : ∀ {name : String} (h : IsBareKey name),
      (Row.heading (.bare name h)).statement.Bounded ∧
        (Row.heading (.bare name h)).statement.Consistent :=
    fun h => ⟨DottedKey.bounded_bare h, trivial⟩
  rw [document, List.forall_mem_append, List.forall_mem_append]
  refine ⟨?_, keeps_limitRows _ _, keeps_limitRows _ _⟩
  simp only [List.forall_mem_cons]
  exact ⟨hassign _ trivial trivial, hheading _, hassign _ trivial trivial,
    hassign _ trivial trivial, hheading _, List.forall_mem_nil _⟩

theorem keeps_document (s : Settings) :
    ∀ statement ∈ s.document.statements, statement.Bounded ∧ statement.Consistent :=
  Document.forall_statements rfl s.keeps_rows

theorem consistent_document (s : Settings) : s.document.Consistent := by
  refine ⟨?_, fun statement h => (s.keeps_document statement h).2⟩
  obtain ⟨g, ⟨p, k⟩, ⟨_ | d, _ | n⟩⟩ := s <;> exact of_decide_eq_true rfl

/-- All settings are written. -/
def written (s : Settings) : Written :=
  ⟨some s.grammar, some s.output.pretty, some s.output.includeKinds, s.limits.maxDepth,
    s.limits.maxNodes⟩

theorem settings_written (s : Settings) : s.written.settings = s := by
  obtain ⟨g, ⟨p, k⟩, ⟨_ | d, _ | n⟩⟩ := s <;> rfl

theorem isGiven_document (s : Settings) : s.written.IsGiven s.document.contents := by
  have hgrammar := congrArg (fun name => some (Value.string name))
    (Literal.value_verbatim s.grammar.isVerbatim_name)
  obtain ⟨g, ⟨p, k⟩, ⟨_ | d, _ | n⟩⟩ := s
  all_goals
    constructor
    · exact Contents.gives_some rfl hgrammar
    · exact Contents.mayHoldTable_of_header rfl
    · exact Contents.gives_some rfl rfl
    · exact Contents.gives_some rfl rfl
    · exact Contents.mayHoldTable_of_header rfl
    · first | exact Contents.gives_none rfl | exact Contents.gives_some rfl (Tree.scalar?_word _)
    · first | exact Contents.gives_none rfl | exact Contents.gives_some rfl (Tree.scalar?_word _)

/-- Settings that were written are read back. -/
theorem ofToml?_toToml (s : Settings) : ofToml? s.toToml = .ok s := by
  have hbounded : s.document.Bounded := fun statement h => (s.keeps_document statement h).1
  rw [ofToml?_of_given s.toList_toToml s.consistent_document hbounded s.isGiven_document,
    settings_written]

end Settings

end SyntaxOutline
