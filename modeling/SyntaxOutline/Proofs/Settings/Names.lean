import SyntaxOutline.Proofs.Settings.Forms

/-!
# Names of grammars

A grammar is asked for by its name on the command line, and by its key in JSON: as a string, or as
the name of the one member of an object. Keys are made from titles and names are listed, so that the
two need not agree; they do (`key_eq_name`), and each way of asking decides in the same way about
every text.

* `Resolves` : a result is the grammar that goes by a name, or else a failure that reports the name.
* `resolves_ofName`, `Quotes.resolves`, `Wraps.resolves` : the three ways of asking.
* `names_agree` : they agree on every name.
-/

namespace SyntaxOutline.Grammar

open Json (Literal Tree)

/-- The text is a string that stands for the name. -/
def Quotes (text name : String) : Prop := ∃ v : Tree, v.Spells text ∧ v.IsText name

/-- The text is an object whose one member goes by the name and is null. -/
def Wraps (text name : String) : Prop :=
  ∃ k : Literal, (Tree.object [(k, .null)]).Spells text ∧ k.value? = some name

/-- The report of a reader that a name is no grammar's. -/
def Reports (name : String) (failure : Json.Failure) : Prop :=
  failure.cause = .shape (.unknownVariant name keys)

/-- The result is the grammar that goes by the name; if none does, it is a failure that reports
it. -/
structure Resolves {ε : Type} (name : String) (reports : ε → Prop) (result : Except ε Grammar) :
    Prop where
  known : ∀ g : Grammar, name = g.name → result = .ok g
  unknown : (∀ g : Grammar, name ≠ g.name) → ∃ e, result = .error e ∧ reports e

theorem Resolves.eq_ok_iff {ε : Type} {name : String} {reports : ε → Prop}
    {result : Except ε Grammar} (h : Resolves name reports result) (g : Grammar) :
    result = .ok g ↔ name = g.name := by
  constructor
  · intro hresult
    by_contra hne
    by_cases hknown : ∃ other : Grammar, name = other.name
    · obtain ⟨other, hother⟩ := hknown
      rw [h.known other hother] at hresult
      cases hresult
      exact hne hother
    · obtain ⟨e, he, -⟩ := h.unknown (not_exists.mp hknown)
      rw [he] at hresult
      cases hresult
  · exact h.known g

/-! ## The command line -/

theorem ofName?_eq_none {s : String} (h : ∀ g : Grammar, s ≠ g.name) : ofName? s = none := by
  cases hs : ofName? s with
  | none => rfl
  | some g => exact absurd (ofName?_eq_some_iff.mp hs) (h g)

theorem resolves_ofName (s : String) : Resolves s (fun e => e = UnknownName.mk s) (ofName s) where
  known g hg := by
    rw [ofName, ofName?_eq_some_iff.mpr hg]
  unknown h := by
    rw [ofName, ofName?_eq_none h]
    exact ⟨_, rfl, rfl⟩

/-! ## JSON -/

theorem ofJson?_eq_ok_iff_represents {text : String} {g : Grammar} :
    ofJson? text = .ok g ↔ ∃ v : Tree, v.Spells text ∧ Represents v g :=
  (decodes 126).readWhole_eq_ok_iff

theorem readName_unknown {s : String} (h : ∀ g : Grammar, s ≠ g.name) {l : Literal}
    (hl : l.value? = some s) (rest : List Char) :
    readName (l.text ++ '"' :: rest) =
      Json.failHere (.shape (.unknownVariant s keys)) rest := by
  rw [readName, Json.readString_eq_ok_iff.mpr ⟨l, hl, rfl⟩, ok_bind]
  dsimp only
  rw [ofKey?_eq_ofName?, ofName?_eq_none h]

/-- A text is refused with the report on the name, whatever stands behind it. -/
theorem exists_reports {text s : String} {rest : List Char}
    (h : read Json.maxRoom text.toList = Json.failHere (.shape (.unknownVariant s keys)) rest) :
    ∃ e, ofJson? text = .error e ∧ Reports s e := by
  refine ⟨⟨_, Text.utf8Length rest⟩, ?_, rfl⟩
  rw [ofJson?, Json.readWhole, h]
  rfl

theorem Quotes.resolves {text s : String} (h : Quotes text s) :
    Resolves s (Reports s) (ofJson? text) where
  known g hg := by
    obtain ⟨v, hspells, hv⟩ := h
    rw [hg] at hv
    exact ofJson?_eq_ok_iff_represents.mpr ⟨v, hspells, Or.inl hv⟩
  unknown hs := by
    obtain ⟨_, ⟨rest, -, hspaced⟩, l, rfl, hl⟩ := h
    rw [Tree.tokens] at hspaced
    obtain ⟨mid, hmid, -⟩ := Json.spaced_string.mp hspaced
    have hread : read Json.maxRoom text.toList =
        Json.failHere (.shape (.unknownVariant s keys)) mid := by
      unfold read
      rw [hmid]
      exact readName_unknown hs hl mid
    exact exists_reports hread

theorem Wraps.resolves {text s : String} (h : Wraps text s) :
    Resolves s (Reports s) (ofJson? text) where
  known g hg := by
    obtain ⟨k, hspells, hk⟩ := h
    rw [hg] at hk
    exact ofJson?_eq_ok_iff_represents.mpr ⟨_, hspells, Or.inr ⟨k, rfl, hk⟩⟩
  unknown hs := by
    obtain ⟨k, ⟨rest, -, hspaced⟩, hk⟩ := h
    rw [tokens_object_null] at hspaced
    obtain ⟨inside, hinside, hspaced⟩ := (Json.spaced_mark (by decide)).mp hspaced
    obtain ⟨mid, hmid, -⟩ := Json.spaced_string.mp hspaced
    -- the name is refused before anything behind it is looked at
    have hkey : readKey inside = Json.failHere (.shape (.unknownVariant s keys)) mid := by
      unfold readKey
      rw [hmid]
      exact readName_unknown hs hk mid
    have hread : read Json.maxRoom text.toList =
        Json.failHere (.shape (.unknownVariant s keys)) mid := by
      unfold read
      rw [hinside]
      change (readKey inside >>= _) = _
      rw [hkey]
      rfl
    exact exists_reports hread

theorem quotes_compact (s : String) : Quotes (Json.string s).compact s := by
  obtain ⟨l, htl, hvl⟩ := Json.exists_literal s
  exact ⟨.string l, (Json.Writes.string htl).spells_compact, l, rfl, hvl⟩

theorem wraps_compact (s : String) : Wraps (Json.object [(s, .null)]).compact s := by
  obtain ⟨k, htk, hvk⟩ := Json.exists_literal s
  exact ⟨k, (Json.Writes.object (.cons htk .null .nil)).spells_compact, hvk⟩

/-- **Names.** A name is asked for on the command line, by a string in JSON that stands for it, or
by an object with the one member of that name: as it is written, or with other escapes and blanks.
Each finds a grammar just if the name is that grammar's, and reports every other name as it was
given. -/
theorem names_agree (s : String) :
    (Quotes (Json.string s).compact s ∧ Wraps (Json.object [(s, .null)]).compact s) ∧
    ∀ text wrapped, Quotes text s → Wraps wrapped s →
      (∀ g : Grammar, (ofName s = .ok g ↔ s = g.name) ∧ (ofJson? text = .ok g ↔ s = g.name) ∧
        (ofJson? wrapped = .ok g ↔ s = g.name)) ∧
      ((∀ g : Grammar, s ≠ g.name) → ofName s = .error ⟨s⟩ ∧
        (∃ e, ofJson? text = .error e ∧ Reports s e) ∧
        ∃ e, ofJson? wrapped = .error e ∧ Reports s e) := by
  refine ⟨⟨quotes_compact s, wraps_compact s⟩, fun text wrapped htext hwrapped => ⟨?_, ?_⟩⟩
  · intro g
    exact ⟨(resolves_ofName s).eq_ok_iff g, htext.resolves.eq_ok_iff g,
      hwrapped.resolves.eq_ok_iff g⟩
  · intro h
    obtain ⟨_, hname, rfl⟩ := (resolves_ofName s).unknown h
    exact ⟨hname, htext.resolves.unknown h, hwrapped.resolves.unknown h⟩

/-- A name with one of its letters escaped, and a title with a line feed, which is no name. -/
theorem names_agree_escaped :
    (Quotes "\"mark\\u0064own\"" "markdown" ∧ ofJson? "\"mark\\u0064own\"" = .ok .markdown ∧
      Wraps "\x7b\"markdown\":null\x7d" "markdown" ∧
      ofJson? "\x7b\"markdown\":null\x7d" = .ok .markdown) ∧
    (∀ g : Grammar, "Markdown\n" ≠ g.name) ∧ ofName "Markdown\n" = .error ⟨"Markdown\n"⟩ ∧
      ∃ e, ofJson? "\"Markdown\\n\"" = .error e ∧ Reports "Markdown\n" e := by
  let l : Literal := [.plain 'm' (by decide), .plain 'a' (by decide), .plain 'r' (by decide),
    .plain 'k' (by decide), .hex '0' '0' '6' '4' 0x64 (by decide), .plain 'o' (by decide),
    .plain 'w' (by decide), .plain 'n' (by decide)]
  have hquotes : Quotes "\"mark\\u0064own\"" "markdown" :=
    ⟨.string l, ⟨[], Json.blank_nil, Json.spaced_text [.string l]⟩, l, rfl, by decide⟩
  have hwraps : Wraps "\x7b\"markdown\":null\x7d" "markdown" := wraps_compact "markdown"
  have hunknown : ∀ g : Grammar, "Markdown\n" ≠ g.name := by
    intro g
    cases g <;> decide
  have hfound := ((names_agree "markdown").2 _ _ hquotes hwraps).1 .markdown
  have hrefused := ((names_agree "Markdown\n").2 _ _ (quotes_compact "Markdown\n")
    (wraps_compact "Markdown\n")).2 hunknown
  exact ⟨⟨hquotes, hfound.2.1.mpr rfl, hwraps, hfound.2.2.mpr rfl⟩, hunknown, hrefused.1,
    hrefused.2.1⟩

end SyntaxOutline.Grammar
