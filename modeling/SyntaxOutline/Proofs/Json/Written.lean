import SyntaxOutline.Proofs.Json.Typed

/-!
# Values as they are written

`Writes j v` says that the tree `v` spells its strings and numbers as the value `j` is written. The
compact and the indented text of `j` are then the tokens of `v` with nothing but blanks between them
(`Writes.spaced_compact`, `Writes.spaced_pretty`), so that everything known about reading `v` holds
of both texts.
-/

namespace SyntaxOutline.Json

/-! ## Strings and words -/

theorem ofDigits?_control : ∀ n < 0x20,
    Text.ofDigits? 16 ['0', '0', hexChar (n / 16), hexChar n] = some n := by
  decide

/-- Every character is written by a single piece. -/
theorem exists_piece (c : Char) : ∃ p : Piece, p.text = escapeChar c ∧ Stands [p] c := by
  unfold escapeChar
  split
  · rename_i h
    subst h
    exact ⟨.simple '"' '"' (by decide), rfl, .simple (by decide)⟩
  split
  · rename_i h
    subst h
    exact ⟨.simple '\\' '\\' (by decide), rfl, .simple (by decide)⟩
  split
  · rename_i h
    subst h
    exact ⟨.simple 'b' '\x08' (by decide), rfl, .simple (by decide)⟩
  split
  · rename_i h
    subst h
    exact ⟨.simple 'f' '\x0c' (by decide), rfl, .simple (by decide)⟩
  split
  · rename_i h
    subst h
    exact ⟨.simple 'n' '\n' (by decide), rfl, .simple (by decide)⟩
  split
  · rename_i h
    subst h
    exact ⟨.simple 'r' '\r' (by decide), rfl, .simple (by decide)⟩
  split
  · rename_i h
    subst h
    exact ⟨.simple 't' '\t' (by decide), rfl, .simple (by decide)⟩
  split
  · rename_i h
    have hstands : Stands [.hex _ _ _ _ c.toNat (ofDigits?_control c.toNat h)]
        (Char.ofNat c.toNat) :=
      .hex _ (by simp [Trails]; omega) (by simp [Leads]; omega)
    rw [Char.ofNat_toNat] at hstands
    exact ⟨_, rfl, hstands⟩
  · rename_i hquote hslash _ _ _ _ _ hcontrol
    exact ⟨.plain c ⟨hquote, hslash, Nat.le_of_not_lt hcontrol⟩, rfl, .plain _⟩

theorem exists_chars (cs : List Char) :
    ∃ l : Literal, l.text = cs.flatMap escapeChar ∧ l.chars? = some cs := by
  induction cs with
  | nil => exact ⟨[], rfl, rfl⟩
  | cons c cs ih =>
    obtain ⟨p, hp, hstands⟩ := exists_piece c
    obtain ⟨l, hl, hchars⟩ := ih
    refine ⟨p :: l, ?_, ?_⟩
    · rw [Literal.text, List.flatMap_cons, hp, List.flatMap_cons]
      exact congrArg _ hl
    · have happend := chars?_append hstands l
      rw [hchars] at happend
      exact happend

/-- Every text is written by a literal that stands for it. -/
theorem exists_literal (s : String) :
    ∃ l : Literal, l.text = s.toList.flatMap escapeChar ∧ l.value? = some s := by
  obtain ⟨l, hl, hchars⟩ := exists_chars s.toList
  refine ⟨l, hl, ?_⟩
  rw [Literal.value?, hchars, Option.map_some, String.ofList_toList]

/-- Only zero is written with a leading zero. -/
theorem toDigits_eq_of_head? {n : Nat} (h : (Nat.toDigits 10 n).head? = some '0') :
    Nat.toDigits 10 n = ['0'] := by
  induction n using Nat.strongRecOn with
  | ind n ih =>
    by_cases hn : n < 10
    · rw [Nat.toDigits_of_lt_base hn] at h ⊢
      rw [Option.some.inj h]
    · have hle : 10 ≤ n := Nat.le_of_not_lt hn
      rw [Nat.toDigits_of_base_le (by decide) hle,
        List.head?_append_of_ne_nil _ Nat.toDigits_ne_nil] at h
      have hzero : Nat.ofDigitChars 10 (Nat.toDigits 10 (n / 10)) 0 = 0 := by
        rw [ih (n / 10) (by omega) h]
        rfl
      rw [Nat.ofDigitChars_ten_toDigits] at hzero
      omega

theorem render_integer (n : Nat) : (Number.integer n).render = Nat.toDigits 10 n :=
  Nat.toList_repr

/-- Every word is written by plain digits. -/
theorem exists_numeral (w : UInt64) :
    ∃ n : Numeral, n.text = (Number.integer w.toNat).render ∧ (Tree.number n).IsWord w := by
  let whole : Digits := ⟨Nat.toDigits 10 w.toNat, Nat.toDigits_ne_nil,
    fun _ => Nat.isDigit_of_mem_toDigits (by decide) (by decide)⟩
  let n : Numeral := ⟨false, whole, toDigits_eq_of_head?, none, none⟩
  refine ⟨n, ?_, n, rfl, ⟨rfl, rfl, rfl⟩, Nat.ofDigitChars_ten_toDigits⟩
  rw [render_integer]
  show Nat.toDigits 10 w.toNat ++ ([] ++ []) = _
  rw [List.append_nil, List.append_nil]

/-! ## Values -/

mutual

/-- The tree spells its strings and numbers as the value is written. -/
inductive Writes : Json → Tree → Prop where
  | null : Writes .null .null
  | bool (b : Bool) : Writes (.bool b) (.bool b)
  | number {num : Number} {n : Numeral} (h : n.text = num.render) : Writes (.number num) (.number n)
  | string {s : String} {l : Literal} (h : l.text = s.toList.flatMap escapeChar) :
      Writes (.string s) (.string l)
  | array {js : List Json} {vs : List Tree} (h : WritesItems js vs) : Writes (.array js) (.array vs)
  | object {ps : List (String × Json)} {ms : List (Literal × Tree)} (h : WritesMembers ps ms) :
      Writes (.object ps) (.object ms)

inductive WritesItems : List Json → List Tree → Prop where
  | nil : WritesItems [] []
  | cons {j : Json} {v : Tree} {js : List Json} {vs : List Tree} (head : Writes j v)
      (tail : WritesItems js vs) : WritesItems (j :: js) (v :: vs)

inductive WritesMembers : List (String × Json) → List (Literal × Tree) → Prop where
  | nil : WritesMembers [] []
  | cons {s : String} {l : Literal} {j : Json} {v : Tree} {ps : List (String × Json)}
      {ms : List (Literal × Tree)} (name : l.text = s.toList.flatMap escapeChar)
      (head : Writes j v) (tail : WritesMembers ps ms) :
      WritesMembers ((s, j) :: ps) ((l, v) :: ms)

end

theorem WritesMembers.append {ps qs : List (String × Json)} {ms ns : List (Literal × Tree)} :
    WritesMembers ps ms → WritesMembers qs ns → WritesMembers (ps ++ qs) (ms ++ ns)
  | .nil, h => h
  | .cons name head tail, h => .cons name head (tail.append h)

/-! ## Texts of written values -/

theorem blank_nil : Blank [] := by
  simp [Blank]

theorem blank_newLine (level : Nat) : Blank (newLine level) := by
  intro c hc
  rcases List.mem_cons.mp hc with rfl | hc
  · decide
  · rw [List.eq_of_mem_replicate hc]
    decide

theorem blank_space : Blank [' '] := by
  simp [Blank, blankChars]

section

variable {blanks : List Char} {ts : List Token} {mid rest : List Char}

theorem spaced_blank_token (hb : Blank blanks) {t : Token} (h : Spaced ts mid rest) :
    Spaced (t :: ts) (blanks ++ (t.text ++ mid)) rest :=
  ⟨blanks, mid, hb, (List.append_assoc _ _ _).symm, h⟩

theorem spaced_blank_quote (hb : Blank blanks) {s : String} {l : Literal}
    (hl : l.text = s.toList.flatMap escapeChar) (h : Spaced ts mid rest) :
    Spaced (.string l :: ts) (blanks ++ (quote s ++ mid)) rest := by
  have hquote : quote s = (Token.string l).text := by
    rw [quote, Token.text, hl]
  rw [hquote]
  exact spaced_blank_token hb h

theorem spaced_token {t : Token} (h : Spaced ts mid rest) : Spaced (t :: ts) (t.text ++ mid) rest :=
  spaced_blank_token blank_nil h

theorem spaced_quote {s : String} {l : Literal} (hl : l.text = s.toList.flatMap escapeChar)
    (h : Spaced ts mid rest) : Spaced (.string l :: ts) (quote s ++ mid) rest :=
  spaced_blank_quote blank_nil hl h

/-- A value behind blanks, and what follows it. -/
theorem spaced_blank_value (hb : Blank blanks) {v : Tree} {cs : List Char}
    (hv : Spaced v.tokens (cs ++ mid) mid) (h : Spaced ts mid rest) :
    Spaced (v.tokens ++ ts) (blanks ++ (cs ++ mid)) rest := by
  refine spaced_append.mpr ⟨mid, ?_, h⟩
  rw [← v.spaced_skipBlanks_iff, skipBlanks_append hb, v.spaced_skipBlanks_iff]
  exact hv

end

mutual

/-- The compact text is the tokens without blanks. -/
theorem Writes.spaced_compact {j : Json} {v : Tree} (h : Writes j v) (rest : List Char) :
    Spaced v.tokens (j.compactChars ++ rest) rest := by
  cases h with
  | null =>
    rw [Tree.tokens, compactChars]
    exact spaced_token rfl
  | bool b =>
    rw [Tree.tokens]
    cases b with
    | true =>
      rw [compactChars]
      exact spaced_token rfl
    | false =>
      rw [compactChars]
      exact spaced_token rfl
  | @number num n h =>
    rw [Tree.tokens, compactChars, ← h]
    exact spaced_token rfl
  | string h =>
    rw [Tree.tokens, compactChars]
    exact spaced_quote h rfl
  | array h =>
    rw [Tree.tokens_array]
    cases h with
    | nil =>
      rw [Tree.listTokens, compactChars]
      exact spaced_token (spaced_token rfl)
    | cons head tail =>
      rw [Tree.listTokens, compactChars]
      simp only [List.cons_append, List.append_assoc]
      have hitems := spaced_append.mpr ⟨_, head.spaced_compact _, tail.spaced_compact rest⟩
      exact spaced_token hitems
  | object h =>
    rw [Tree.tokens_object]
    cases h with
    | nil =>
      rw [Tree.objectTokens, compactChars]
      exact spaced_token (spaced_token rfl)
    | cons name head tail =>
      rw [Tree.objectTokens, compactChars]
      simp only [List.cons_append, List.append_assoc]
      have hmembers := spaced_append.mpr ⟨_, head.spaced_compact _, tail.spaced_compact rest⟩
      exact spaced_token (spaced_quote name (spaced_token hmembers))

theorem WritesItems.spaced_compact {js : List Json} {vs : List Tree} (h : WritesItems js vs)
    (rest : List Char) : Spaced (Tree.itemTokens vs) (compactItems js ++ rest) rest := by
  cases h with
  | nil =>
    rw [Tree.itemTokens, compactItems]
    exact spaced_token rfl
  | cons head tail =>
    rw [Tree.itemTokens, compactItems]
    simp only [List.cons_append, List.append_assoc]
    have hitems := spaced_append.mpr ⟨_, head.spaced_compact _, tail.spaced_compact rest⟩
    exact spaced_token hitems

theorem WritesMembers.spaced_compact {ps : List (String × Json)} {ms : List (Literal × Tree)}
    (h : WritesMembers ps ms) (rest : List Char) :
    Spaced (Tree.memberTokens ms) (compactMembers ps ++ rest) rest := by
  cases h with
  | nil =>
    rw [Tree.memberTokens, compactMembers]
    exact spaced_token rfl
  | cons name head tail =>
    rw [Tree.memberTokens, compactMembers]
    simp only [List.cons_append, List.append_assoc]
    have hmembers := spaced_append.mpr ⟨_, head.spaced_compact _, tail.spaced_compact rest⟩
    exact spaced_token (spaced_quote name (spaced_token hmembers))

end

mutual

/-- The indented text is the tokens with new lines and spaces between them. -/
theorem Writes.spaced_pretty {j : Json} {v : Tree} (h : Writes j v) (level : Nat)
    (rest : List Char) : Spaced v.tokens (j.prettyChars level ++ rest) rest := by
  cases h with
  | null =>
    rw [Tree.tokens, prettyChars]
    exact spaced_token rfl
  | bool b =>
    rw [Tree.tokens]
    cases b with
    | true =>
      rw [prettyChars]
      exact spaced_token rfl
    | false =>
      rw [prettyChars]
      exact spaced_token rfl
  | @number num n h =>
    rw [Tree.tokens, prettyChars, ← h]
    exact spaced_token rfl
  | string h =>
    rw [Tree.tokens, prettyChars]
    exact spaced_quote h rfl
  | array h =>
    rw [Tree.tokens_array]
    cases h with
    | nil =>
      rw [Tree.listTokens, prettyChars]
      exact spaced_token (spaced_token rfl)
    | cons head tail =>
      rw [Tree.listTokens, prettyChars]
      simp only [List.cons_append, List.append_assoc]
      have hitems := spaced_blank_value (blank_newLine (level + 1))
        (head.spaced_pretty (level + 1) _) (tail.spaced_pretty level rest)
      exact spaced_token hitems
  | object h =>
    rw [Tree.tokens_object]
    cases h with
    | nil =>
      rw [Tree.objectTokens, prettyChars]
      exact spaced_token (spaced_token rfl)
    | cons name head tail =>
      rw [Tree.objectTokens, prettyChars]
      simp only [List.cons_append, List.append_assoc]
      have hmembers := spaced_blank_value blank_space
        (head.spaced_pretty (level + 1) _) (tail.spaced_pretty level rest)
      exact spaced_token
        (spaced_blank_quote (blank_newLine (level + 1)) name (spaced_token hmembers))

theorem WritesItems.spaced_pretty {js : List Json} {vs : List Tree} (h : WritesItems js vs)
    (level : Nat) (rest : List Char) :
    Spaced (Tree.itemTokens vs) (prettyItems level js ++ rest) rest := by
  cases h with
  | nil =>
    rw [Tree.itemTokens, prettyItems, List.append_assoc]
    exact spaced_blank_token (blank_newLine level) rfl
  | cons head tail =>
    rw [Tree.itemTokens, prettyItems]
    simp only [List.cons_append, List.append_assoc]
    have hitems := spaced_blank_value (blank_newLine (level + 1))
      (head.spaced_pretty (level + 1) _) (tail.spaced_pretty level rest)
    exact spaced_token hitems

theorem WritesMembers.spaced_pretty {ps : List (String × Json)} {ms : List (Literal × Tree)}
    (h : WritesMembers ps ms) (level : Nat) (rest : List Char) :
    Spaced (Tree.memberTokens ms) (prettyMembers level ps ++ rest) rest := by
  cases h with
  | nil =>
    rw [Tree.memberTokens, prettyMembers, List.append_assoc]
    exact spaced_blank_token (blank_newLine level) rfl
  | cons name head tail =>
    rw [Tree.memberTokens, prettyMembers]
    simp only [List.cons_append, List.append_assoc]
    have hmembers := spaced_blank_value blank_space
      (head.spaced_pretty (level + 1) _) (tail.spaced_pretty level rest)
    exact spaced_token
      (spaced_blank_quote (blank_newLine (level + 1)) name (spaced_token hmembers))

end

theorem Writes.spells_compact {j : Json} {v : Tree} (h : Writes j v) : v.Spells j.compact := by
  refine ⟨[], blank_nil, ?_⟩
  have hspaced := h.spaced_compact []
  rwa [List.append_nil, ← String.toList_ofList (l := j.compactChars)] at hspaced

theorem Writes.spells_pretty {j : Json} {v : Tree} (h : Writes j v) : v.Spells j.pretty := by
  refine ⟨[], blank_nil, ?_⟩
  have hspaced := h.spaced_pretty 0 []
  rwa [List.append_nil, ← String.toList_ofList (l := j.prettyChars 0)] at hspaced

/-- What is written as a tree that stands for it is read back from both texts. -/
theorem Decodes.readWhole_texts {α : Type} {reader : Reader α} {R : Tree → α → Prop}
    (h : Decodes reader R) {j : Json} {a : α} (hwrites : ∃ v, Writes j v ∧ R v a) :
    readWhole reader j.compact = .ok a ∧ readWhole reader j.pretty = .ok a := by
  obtain ⟨v, hwrites, hv⟩ := hwrites
  exact ⟨h.readWhole_eq_ok_iff.mpr ⟨v, hwrites.spells_compact, hv⟩,
    h.readWhole_eq_ok_iff.mpr ⟨v, hwrites.spells_pretty, hv⟩⟩

end SyntaxOutline.Json
