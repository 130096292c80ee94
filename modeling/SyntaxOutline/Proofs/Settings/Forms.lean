import SyntaxOutline.Proofs.Json.Records
import SyntaxOutline.Proofs.Json.Written
import SyntaxOutline.Settings.Basic
import SyntaxOutline.Span

/-!
# Spans, limits and settings in JSON

`Represents` says which trees stand for a span, limits or settings. A record is an object with any
of its fields, in any order and with other members between them, or a list of its first fields; what
is missing has its default, except that a span has both of its fields. The settings are a record of
records, so that each level may have either form.

* `Span.decodes`, `Limits.decodes`, `Settings.decodes` : the readers accept exactly these trees.
* `Settings.Alike` : trees that give the same fields at every level stand for the same settings.
* `Settings.exists_written` : the tree that settings are written as stands for them.
-/

namespace SyntaxOutline

open Json (Literal Tree Decodes Given Spaced Writes named)

/-- An object of two members is written as a tree that gives both of them. -/
theorem Json.exists_written_pair {first second : String} (hne : first ≠ second) {j j' : Json}
    {v v' : Tree} (hv : Writes j v) (hv' : Writes j' v') :
    ∃ t given, Writes (.object [(first, j), (second, j')]) t ∧ t.Gives [first, second] given ∧
      given first = some v ∧ given second = some v' := by
  obtain ⟨k, htk, hvk⟩ := Json.exists_literal first
  obtain ⟨k', htk', hvk'⟩ := Json.exists_literal second
  refine ⟨.object [(k, v), (k', v')], _, .object (.cons htk hv (.cons htk' hv' .nil)),
    .object ?_ ?_, ?_, ?_⟩
  · simp [hvk, hvk']
  · simp [named, hvk, hvk', hne, hne.symm]
  · simp [named, hvk]
  · simp [named, hvk, hvk', hne]

/-! ## Spans -/

namespace Span

/-- What the fields tell about a span, where a field that is not given is zero. -/
def Tells (given : String → Option Tree) (s : Span) : Prop :=
  Given Tree.IsWord 0 (given "Start") s.start ∧ Given Tree.IsWord 0 (given "Length") s.length

/-- The tree gives both fields of the span. -/
def Represents (v : Tree) (s : Span) : Prop :=
  ∃ given, v.Gives ["Start", "Length"] given ∧
    (∃ x, given "Start" = some x ∧ x.IsWord s.start) ∧
    ∃ x, given "Length" = some x ∧ x.IsWord s.length

theorem describes (room : Nat) : record.Describes room Tells := by
  have hfields : record.fields =
      [.of "Start" (fun _ => Json.readWordValue) fun n s => { s with start := n },
        .of "Length" (fun _ => Json.readWordValue) fun n s => { s with length := n }] := rfl
  refine Json.Record.describes_pair start length Json.readWordValue_decodes hfields (by decide)
    (fun _ _ => ⟨rfl, rfl⟩) (fun _ _ => ⟨rfl, rfl⟩) ?_
  rintro ⟨_, _⟩ ⟨_, _⟩ hstart hlength
  cases hstart
  cases hlength
  rfl

theorem isForm_iff {v : Tree} {s : Span} : record.IsForm Tells v s ↔ Represents v s := by
  constructor
  · rintro ⟨given, hgives, hrequired, hstart, hlength⟩
    have hall := hrequired rfl
    rw [record, List.forall_mem_cons, List.forall_mem_singleton] at hall
    obtain ⟨x, hx⟩ : ∃ x, given "Start" = some x := Option.ne_none_iff_exists'.mp hall.1
    obtain ⟨y, hy⟩ : ∃ y, given "Length" = some y := Option.ne_none_iff_exists'.mp hall.2
    rw [hx] at hstart
    rw [hy] at hlength
    exact ⟨given, hgives, ⟨x, hx, hstart⟩, y, hy, hlength⟩
  · rintro ⟨given, hgives, ⟨x, hx, hstart⟩, y, hy, hlength⟩
    refine ⟨given, hgives, fun _ => ?_, ?_, ?_⟩
    · rw [record, List.forall_mem_cons, List.forall_mem_singleton]
      exact ⟨Option.ne_none_iff_exists'.mpr ⟨x, hx⟩, Option.ne_none_iff_exists'.mpr ⟨y, hy⟩⟩
    · rw [hx]
      exact hstart
    · rw [hy]
      exact hlength

theorem decodes (room : Nat) : Decodes (record.read (room + 1)) Represents :=
  (Json.Record.decodes (describes room)).congr isForm_iff

/-- A span is written as an object that represents it. -/
theorem exists_written (s : Span) : ∃ v, Writes s.toJson v ∧ Represents v s := by
  obtain ⟨n, htn, hn⟩ := Json.exists_numeral s.start
  obtain ⟨m, htm, hm⟩ := Json.exists_numeral s.length
  obtain ⟨t, given, hwrites, hgives, hstart, hlength⟩ :=
    Json.exists_written_pair (show "Start" ≠ "Length" by decide) (.number htn) (.number htm)
  exact ⟨t, hwrites, given, hgives, ⟨.number n, hstart, hn⟩, .number m, hlength, hm⟩

end Span

/-! ## Limits -/

namespace Limits

/-- What the fields tell about the limits. -/
def Tells (given : String → Option Tree) (l : Limits) : Prop :=
  Given (Tree.IsOptional Tree.IsWord) ({} : Limits).maxDepth (given "max_depth") l.maxDepth ∧
    Given (Tree.IsOptional Tree.IsWord) ({} : Limits).maxNodes (given "max_nodes") l.maxNodes

/-- The tree gives any of the limits. -/
def Represents (v : Tree) (l : Limits) : Prop :=
  ∃ given, v.Gives ["max_depth", "max_nodes"] given ∧ Tells given l

/-- The trees give the same limits. -/
def Alike : Tree → Tree → Prop := Tree.Alike ["max_depth", "max_nodes"]

theorem describes (room : Nat) : record.Describes room Tells := by
  have hfields : record.fields =
      [.of "max_depth" (fun _ => Json.readOptional Json.readWordValue)
          fun n l => { l with maxDepth := n },
        .of "max_nodes" (fun _ => Json.readOptional Json.readWordValue)
          fun n l => { l with maxNodes := n }] := rfl
  refine Json.Record.describes_pair maxDepth maxNodes Json.readOptionalWord_decodes hfields
    (by decide) (fun _ _ => ⟨rfl, rfl⟩) (fun _ _ => ⟨rfl, rfl⟩) ?_
  rintro ⟨_, _⟩ ⟨_, _⟩ hdepth hnodes
  cases hdepth
  cases hnodes
  rfl

theorem decodes (room : Nat) : Decodes (record.read (room + 1)) Represents :=
  (Json.Record.decodes (describes room)).congr (Json.Record.isForm_iff_of_not_required rfl)

theorem Alike.represents {v w : Tree} (h : Alike v w) {l : Limits} (hv : Represents v l) :
    Represents w l :=
  (describes 0).tells_of_alike h hv

theorem exists_written_bound (n : Option UInt64) :
    ∃ v, Writes (bound n) v ∧ v.IsOptional Tree.IsWord n := by
  cases n with
  | none => exact ⟨.null, .null, rfl⟩
  | some n =>
    obtain ⟨m, htm, hm⟩ := Json.exists_numeral n
    exact ⟨.number m, .number htm, hm⟩

/-- Limits are written as an object that represents them. -/
theorem exists_written (l : Limits) : ∃ v, Writes l.toJson v ∧ Represents v l := by
  obtain ⟨v, hwv, hv⟩ := exists_written_bound l.maxDepth
  obtain ⟨w, hww, hw⟩ := exists_written_bound l.maxNodes
  obtain ⟨t, given, hwrites, hgives, hdepth, hnodes⟩ :=
    Json.exists_written_pair (show "max_depth" ≠ "max_nodes" by decide) hwv hww
  exact ⟨t, hwrites, given, hgives, Json.given_of_some hdepth hv, Json.given_of_some hnodes hw⟩

end Limits

/-! ## Output settings -/

namespace OutputSettings

/-- What the fields tell about the output. -/
def Tells (given : String → Option Tree) (s : OutputSettings) : Prop :=
  Given Tree.IsFlag ({} : OutputSettings).pretty (given "pretty") s.pretty ∧
    Given Tree.IsFlag ({} : OutputSettings).includeKinds (given "include_kinds") s.includeKinds

/-- The tree gives any of the output settings. -/
def Represents (v : Tree) (s : OutputSettings) : Prop :=
  ∃ given, v.Gives ["pretty", "include_kinds"] given ∧ Tells given s

/-- The trees give the same output settings. -/
def Alike : Tree → Tree → Prop := Tree.Alike ["pretty", "include_kinds"]

theorem describes (room : Nat) : record.Describes room Tells := by
  have hfields : record.fields =
      [.of "pretty" (fun _ => Json.readFlag) fun b s => { s with pretty := b },
        .of "include_kinds" (fun _ => Json.readFlag) fun b s => { s with includeKinds := b }] := rfl
  refine Json.Record.describes_pair pretty includeKinds Json.readFlag_decodes hfields (by decide)
    (fun _ _ => ⟨rfl, rfl⟩) (fun _ _ => ⟨rfl, rfl⟩) ?_
  rintro ⟨_, _⟩ ⟨_, _⟩ hpretty hkinds
  cases hpretty
  cases hkinds
  rfl

theorem decodes (room : Nat) : Decodes (record.read (room + 1)) Represents :=
  (Json.Record.decodes (describes room)).congr (Json.Record.isForm_iff_of_not_required rfl)

theorem Alike.represents {v w : Tree} (h : Alike v w) {s : OutputSettings}
    (hv : Represents v s) : Represents w s :=
  (describes 0).tells_of_alike h hv

/-- Output settings are written as an object that represents them. -/
theorem exists_written (s : OutputSettings) : ∃ v, Writes s.toJson v ∧ Represents v s := by
  obtain ⟨t, given, hwrites, hgives, hpretty, hkinds⟩ := Json.exists_written_pair
    (show "pretty" ≠ "include_kinds" by decide) (.bool s.pretty) (.bool s.includeKinds)
  exact ⟨t, hwrites, given, hgives, Json.given_of_some hpretty rfl, Json.given_of_some hkinds rfl⟩

end OutputSettings

/-! ## Grammars -/

namespace Grammar

/-- The value is the name of the grammar, or an object whose one member has that name and is
null. -/
def Represents (v : Tree) (g : Grammar) : Prop :=
  v.IsText g.name ∨ ∃ k : Literal, v = .object [(k, .null)] ∧ k.value? = some g.name

theorem ofName?_eq_some_iff {s : String} {g : Grammar} : ofName? s = some g ↔ s = g.name := by
  constructor
  · intro h
    have hname := List.find?_some h
    exact (beq_iff_eq.mp hname).symm
  · rintro rfl
    cases g <;> rfl

theorem readName_eq_ok_iff {cs rest : List Char} {g : Grammar} :
    readName cs = .ok (g, rest) ↔
      ∃ l : Literal, l.value? = some g.name ∧ cs = l.text ++ '"' :: rest := by
  rw [← Json.readString_eq_ok_iff]
  constructor
  · intro h
    obtain ⟨⟨s, mid⟩, hs, h⟩ := bind_eq_ok_iff.mp h
    dsimp only at h
    split at h
    · rename_i g' hg
      cases h
      rw [ofKey?_eq_ofName?] at hg
      rw [hs, ofName?_eq_some_iff.mp hg]
    · exact absurd h Json.failHere_ne_ok
  · intro h
    rw [readName, h, ok_bind]
    dsimp only
    rw [ofKey?_eq_ofName?, ofName?_eq_some_iff.mpr rfl]
    rfl

theorem readKey_eq_ok_iff {cs rest : List Char} {g : Grammar} :
    readKey cs = .ok (g, rest) ↔
      ∃ l : Literal, l.value? = some g.name ∧ Spaced [.string l] cs rest := by
  simp only [Json.spaced_string]
  constructor
  · intro h
    unfold readKey at h
    split at h
    · exact absurd h Json.failHere_ne_ok
    · rename_i mid hmid
      obtain ⟨l, hl, rfl⟩ := readName_eq_ok_iff.mp h
      exact ⟨l, hl, rest, hmid, rfl⟩
    · exact absurd h Json.failNext_ne_ok
    · exact absurd h Json.failNext_ne_ok
  · rintro ⟨l, hl, mid, hmid, rfl⟩
    unfold readKey
    rw [hmid]
    exact readName_eq_ok_iff.mpr ⟨l, hl, rfl⟩

theorem readNull_eq_ok_iff {cs rest : List Char} :
    readNull cs = .ok rest ↔ Spaced [.null] cs rest := by
  rw [Json.spaced_cons_iff ⟨'n', _, rfl, by decide⟩]
  constructor
  · intro h
    unfold readNull at h
    split at h
    · exact absurd h Json.failHere_ne_ok
    · rename_i c tail hc
      split at h
      · rename_i hn
        refine ⟨rest, ?_, rfl⟩
        rw [hc, hn, Json.readWord_eq_ok_iff.mp h]
        rfl
      · exact absurd h Json.mismatch_ne_ok
  · rintro ⟨mid, hmid, rfl⟩
    rw [readNull, hmid]
    exact Json.readWord_eq_ok_iff.mpr rfl

/-- The name and the colon, the null value and the closing brace of the object. -/
theorem tokens_object_null (k : Literal) :
    (Tree.object [(k, .null)]).tokens =
      .mark '\x7b' :: ([.string k] ++ ([.mark ':'] ++ ([.null] ++ [.mark '\x7d']))) := by
  simp [Tree.tokens, Tree.memberTokens]

theorem decodes (room : Nat) : Decodes (read (room + 1)) Represents := by
  constructor
  · rintro v g cs rest (⟨l, rfl, hl⟩ | ⟨k, rfl, hk⟩) hcs -
    · rw [Tree.tokens] at hcs
      obtain ⟨mid, hmid, rfl⟩ := Json.spaced_string.mp hcs
      unfold read
      rw [hmid]
      exact readName_eq_ok_iff.mpr ⟨l, hl, rfl⟩
    · rw [tokens_object_null] at hcs
      obtain ⟨inside, hinside, hcs⟩ := (Json.spaced_mark (by decide)).mp hcs
      obtain ⟨key, hkey, hcs⟩ := Json.spaced_append.mp hcs
      obtain ⟨colon, hcolon, hcs⟩ := Json.spaced_append.mp hcs
      obtain ⟨null, hnull, hcs⟩ := Json.spaced_append.mp hcs
      obtain ⟨last, hlast, rfl⟩ := (Json.spaced_mark (by decide)).mp hcs
      obtain ⟨colon', hcolon', rfl⟩ := (Json.spaced_mark (by decide)).mp hcolon
      unfold read
      rw [hinside]
      refine bind_eq_ok_iff.mpr ⟨(g, key), readKey_eq_ok_iff.mpr ⟨k, hk, hkey⟩, ?_⟩
      refine bind_eq_ok_iff.mpr ⟨colon', Json.readColon_eq_ok_iff.mpr hcolon', ?_⟩
      refine bind_eq_ok_iff.mpr ⟨null, readNull_eq_ok_iff.mpr hnull, ?_⟩
      rw [hlast]
      rfl
  · intro cs g rest h
    unfold read at h
    split at h
    · exact absurd h Json.failHere_ne_ok
    · rename_i mid hmid
      obtain ⟨l, hl, rfl⟩ := readName_eq_ok_iff.mp h
      refine ⟨.string l, Or.inl ⟨l, rfl, hl⟩, ?_⟩
      rw [Tree.tokens]
      exact Json.spaced_string.mpr ⟨rest, hmid, rfl⟩
    · exact absurd h Json.failNext_ne_ok
    · rename_i inside _ hinside _
      obtain ⟨⟨g', key⟩, hkey, h⟩ := bind_eq_ok_iff.mp h
      obtain ⟨colon, hcolon, h⟩ := bind_eq_ok_iff.mp h
      obtain ⟨null, hnull, h⟩ := bind_eq_ok_iff.mp h
      split at h
      · exact absurd h Json.failHere_ne_ok
      · rename_i c last hlast
        split at h
        · rename_i hc
          cases h
          obtain ⟨k, hk, hkey⟩ := readKey_eq_ok_iff.mp hkey
          refine ⟨.object [(k, .null)], Or.inr ⟨k, rfl, hk⟩, ?_⟩
          rw [tokens_object_null]
          refine (Json.spaced_mark (by decide)).mpr ⟨inside, hinside, ?_⟩
          have hcolon := Json.readColon_eq_ok_iff.mp hcolon
          refine Json.spaced_append.mpr ⟨key, hkey, Json.spaced_append.mpr ⟨colon, ?_, ?_⟩⟩
          · exact (Json.spaced_mark (by decide)).mpr ⟨colon, hcolon, rfl⟩
          · refine Json.spaced_append.mpr ⟨null, readNull_eq_ok_iff.mp hnull, ?_⟩
            exact (Json.spaced_mark (by decide)).mpr ⟨_, by rw [hlast, hc], rfl⟩
        · exact absurd h Json.failHere_ne_ok
    · exact absurd h Json.failNext_ne_ok

/-- A grammar is written as its name. -/
theorem exists_written (g : Grammar) : ∃ v, Writes g.toJson v ∧ Represents v g := by
  obtain ⟨l, htl, hvl⟩ := Json.exists_literal g.name
  rw [toJson, key_eq_name]
  exact ⟨.string l, .string htl, Or.inl ⟨l, rfl, hvl⟩⟩

end Grammar

/-! ## Settings -/

namespace Settings

/-- What the fields tell about the settings. -/
def Tells (given : String → Option Tree) (s : Settings) : Prop :=
  Given Grammar.Represents ({} : Settings).grammar (given "grammar") s.grammar ∧
    Given OutputSettings.Represents ({} : Settings).output (given "output") s.output ∧
    Given Limits.Represents ({} : Settings).limits (given "limits") s.limits

/-- The tree gives any of the settings. -/
def Represents (v : Tree) (s : Settings) : Prop :=
  ∃ given, v.Gives ["grammar", "output", "limits"] given ∧ Tells given s

/-- The trees give the same settings, where each of the records in them may have either form. -/
def Alike (v w : Tree) : Prop :=
  ∃ given other, v.Gives ["grammar", "output", "limits"] given ∧
    w.Gives ["grammar", "output", "limits"] other ∧ given "grammar" = other "grammar" ∧
    Option.Rel OutputSettings.Alike (given "output") (other "output") ∧
    Option.Rel Limits.Alike (given "limits") (other "limits")

theorem describes (room : Nat) : record.Describes (room + 1) Tells where
  distinct := by decide
  initial := ⟨rfl, rfl, rfl⟩
  fields := by
    rw [record, List.forall_mem_cons, List.forall_mem_cons, List.forall_mem_singleton]
    refine ⟨?_, ?_, ?_⟩
    · exact Json.Field.fits_of (Grammar.decodes room)
        (fun h hv => Json.exists_of_given h.1 hv) (fun hv _ _ h => ⟨hv, h.2⟩)
    · exact Json.Field.fits_of (OutputSettings.decodes room)
        (fun h hv => Json.exists_of_given h.2.1 hv) (fun hv _ _ h => ⟨h.1, hv, h.2.2⟩)
    · exact Json.Field.fits_of (Limits.decodes room)
        (fun h hv => Json.exists_of_given h.2.2 hv) (fun hv _ _ h => ⟨h.1, h.2.1, hv⟩)
  unique := by
    rintro given ⟨grammar, output, limits⟩ ⟨grammar', output', limits'⟩ h h'
    have hgrammar : grammar = grammar' := (Grammar.decodes room).given_unique h.1 h'.1
    have houtput : output = output' := (OutputSettings.decodes room).given_unique h.2.1 h'.2.1
    have hlimits : limits = limits' := (Limits.decodes room).given_unique h.2.2 h'.2.2
    rw [hgrammar, houtput, hlimits]
  congr := by
    intro given given' s hsame h
    rw [record, List.forall_mem_cons, List.forall_mem_cons, List.forall_mem_singleton] at hsame
    have hgrammar : given "grammar" = given' "grammar" := hsame.1
    have houtput : given "output" = given' "output" := hsame.2.1
    have hlimits : given "limits" = given' "limits" := hsame.2.2
    rw [Tells, ← hgrammar, ← houtput, ← hlimits]
    exact h

theorem decodes (room : Nat) : Decodes (record.read (room + 2)) Represents :=
  (Json.Record.decodes (describes room)).congr (Json.Record.isForm_iff_of_not_required rfl)

theorem Alike.represents {v w : Tree} (h : Alike v w) {s : Settings} (hv : Represents v s) :
    Represents w s := by
  obtain ⟨given, given', hgives, hgives', hsame, houtputs, hlimitss⟩ := h
  obtain ⟨given'', hgives'', hgrammar, houtput, hlimits⟩ := hv
  obtain rfl := hgives.unique hgives''
  rw [hsame] at hgrammar
  have houtput' := Json.given_of_rel houtputs (fun ho => ho.represents) houtput
  have hlimits' := Json.given_of_rel hlimitss (fun hl => hl.represents) hlimits
  exact ⟨given', hgives', hgrammar, houtput', hlimits'⟩

/-- Settings are written as an object that represents them. -/
theorem exists_written (s : Settings) : ∃ v, Writes s.toJson v ∧ Represents v s := by
  obtain ⟨grammar, htGrammar, hvGrammar⟩ := Json.exists_literal "grammar"
  obtain ⟨output, htOutput, hvOutput⟩ := Json.exists_literal "output"
  obtain ⟨limits, htLimits, hvLimits⟩ := Json.exists_literal "limits"
  obtain ⟨g, hwg, hg⟩ := s.grammar.exists_written
  obtain ⟨o, hwo, ho⟩ := s.output.exists_written
  obtain ⟨l, hwl, hl⟩ := s.limits.exists_written
  refine ⟨.object [(grammar, g), (output, o), (limits, l)],
    .object (.cons htGrammar hwg (.cons htOutput hwo (.cons htLimits hwl .nil))),
    _, .object ?_ ?_, ?_, ?_, ?_⟩
  · simp [hvGrammar, hvOutput, hvLimits]
  · simp [named, hvGrammar, hvOutput, hvLimits]
  · exact Json.given_of_some (by simp [named, hvGrammar, hvOutput, hvLimits]) hg
  · exact Json.given_of_some (by simp [named, hvGrammar, hvOutput, hvLimits]) ho
  · exact Json.given_of_some (by simp [named, hvGrammar, hvOutput, hvLimits]) hl

end Settings

/-! ## Whole texts -/

theorem Span.ofJson?_eq_ok_iff_represents {text : String} {s : Span} :
    ofJson? text = .ok s ↔ ∃ v : Tree, v.Spells text ∧ Represents v s :=
  (decodes 126).readWhole_eq_ok_iff

theorem Limits.ofJson?_eq_ok_iff_represents {text : String} {l : Limits} :
    ofJson? text = .ok l ↔ ∃ v : Tree, v.Spells text ∧ Represents v l :=
  (decodes 126).readWhole_eq_ok_iff

theorem Settings.ofJson?_eq_ok_iff_represents {text : String} {s : Settings} :
    ofJson? text = .ok s ↔ ∃ v : Tree, v.Spells text ∧ Represents v s :=
  (decodes 125).readWhole_eq_ok_iff

/-- **Forms.** The texts of spans, limits and settings are read back. What is read is exactly the
texts of the trees that represent something: both fields of a span, and any of the others, with the
default for each field that is not given. So texts that give the same fields, one as a list and the
other as an object, are read as the same limits or settings, and so are the records inside of
these. -/
theorem Settings.ofJson?_forms :
    ((∀ s : Span, Span.ofJson? s.toJson.compact = .ok s ∧ Span.ofJson? s.toJson.pretty = .ok s) ∧
      (∀ l : Limits,
        Limits.ofJson? l.toJson.compact = .ok l ∧ Limits.ofJson? l.toJson.pretty = .ok l) ∧
      ∀ s : Settings, ofJson? s.toJson.compact = .ok s ∧ ofJson? s.toJson.pretty = .ok s) ∧
    ((∀ text s, Span.ofJson? text = .ok s ↔ ∃ v : Tree, v.Spells text ∧ Span.Represents v s) ∧
      (∀ text l, Limits.ofJson? text = .ok l ↔
        ∃ v : Tree, v.Spells text ∧ Limits.Represents v l) ∧
      ∀ text s, ofJson? text = .ok s ↔ ∃ v : Tree, v.Spells text ∧ Represents v s) ∧
    ((∀ {v w : Tree} {text text' l}, v.Spells text → w.Spells text' → Limits.Alike v w →
        Limits.Represents v l → Limits.ofJson? text = .ok l ∧ Limits.ofJson? text' = .ok l) ∧
      ∀ {v w : Tree} {text text' s}, v.Spells text → w.Spells text' → Alike v w →
        Represents v s → ofJson? text = .ok s ∧ ofJson? text' = .ok s) := by
  refine ⟨⟨fun s => (Span.decodes 126).readWhole_texts s.exists_written,
      fun l => (Limits.decodes 126).readWhole_texts l.exists_written,
      fun s => (decodes 125).readWhole_texts s.exists_written⟩,
    ⟨fun _ _ => Span.ofJson?_eq_ok_iff_represents, fun _ _ => Limits.ofJson?_eq_ok_iff_represents,
      fun _ _ => Settings.ofJson?_eq_ok_iff_represents⟩, ?_, ?_⟩
  · intro v w text text' l hv hw halike hl
    exact ⟨Limits.ofJson?_eq_ok_iff_represents.mpr ⟨v, hv, hl⟩,
      Limits.ofJson?_eq_ok_iff_represents.mpr ⟨w, hw, halike.represents hl⟩⟩
  · intro v w text text' s hv hw halike hs
    exact ⟨ofJson?_eq_ok_iff_represents.mpr ⟨v, hv, hs⟩,
      ofJson?_eq_ok_iff_represents.mpr ⟨w, hw, halike.represents hs⟩⟩

/-- The first fields as lists in a list, and the same fields as objects in an object, in another
order and with members between them that are no fields. -/
theorem Settings.ofJson?_forms_nested :
    ofJson? "[\"markdown-inline\",[true]]" =
        .ok { grammar := .markdownInline, output := { pretty := true } } ∧
      ofJson? ("\x7b\"output\":\x7b\"x\":[null],\"pretty\":true\x7d,\"y\":[]," ++
          "\"grammar\":\"markdown-inline\"\x7d") =
        .ok { grammar := .markdownInline, output := { pretty := true } } := by
  obtain ⟨grammar, htGrammar, hvGrammar⟩ := Json.exists_literal "grammar"
  obtain ⟨output, htOutput, hvOutput⟩ := Json.exists_literal "output"
  obtain ⟨pretty, htPretty, hvPretty⟩ := Json.exists_literal "pretty"
  obtain ⟨x, htx, hvx⟩ := Json.exists_literal "x"
  obtain ⟨y, hty, hvy⟩ := Json.exists_literal "y"
  obtain ⟨name, htName, hvName⟩ := Json.exists_literal "markdown-inline"
  have hlist : (Tree.array [.string name, .array [.bool true]]).Spells
      "[\"markdown-inline\",[true]]" :=
    (Writes.array (.cons (.string htName)
      (.cons (.array (.cons (.bool true) .nil)) .nil))).spells_compact
  have hobject : (Tree.object [(output, .object [(x, .array [.null]), (pretty, .bool true)]),
      (y, .array []), (grammar, .string name)]).Spells
      ("\x7b\"output\":\x7b\"x\":[null],\"pretty\":true\x7d,\"y\":[]," ++
        "\"grammar\":\"markdown-inline\"\x7d") :=
    (Writes.object (.cons htOutput (.object (.cons htx (.array (.cons .null .nil))
      (.cons htPretty (.bool true) .nil))) (.cons hty (.array .nil)
      (.cons htGrammar (.string htName) .nil)))).spells_compact
  have houtputs : OutputSettings.Alike (.array [.bool true])
      (.object [(x, .array [.null]), (pretty, .bool true)]) := by
    refine ⟨_, _, .array (by simp), .object ?_ ?_, ?_⟩
    · simp [hvx, hvPretty]
    · simp [named, hvx, hvPretty]
    · simp [named, hvx, hvPretty, List.lookup_cons]
  refine ofJson?_forms.2.2.2 hlist hobject ⟨_, _, .array (by simp), .object ?_ ?_, ?_, ?_, ?_⟩
    ⟨_, .array (by simp), Or.inl ⟨name, rfl, hvName⟩, ⟨_, .array (by simp), rfl, rfl⟩, rfl⟩
  · simp [hvOutput, hvy, hvGrammar]
  · simp [named, hvOutput, hvy, hvGrammar]
  · simp [named, hvOutput, hvy, hvGrammar]
  · simpa [named, hvOutput, hvy, hvGrammar, List.lookup_cons] using Option.Rel.some houtputs
  · simp [named, hvOutput, hvy, hvGrammar, List.lookup_cons]

end SyntaxOutline
