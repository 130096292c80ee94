import SyntaxOutline.Proofs.Toml.Documents
import SyntaxOutline.Settings.Toml

/-!
# Settings that a document gives

A document may give any of the settings, in any order and in tables of any form, among keys and
tables that mean nothing here. What it gives is taken from it, and all other settings have their
defaults (`Settings.ofToml?_of_given`).

* `Settings.Written` : the settings that are given.
* `Settings.Written.IsGiven` : they are what the contents of a document give.
-/

namespace SyntaxOutline

open Toml

/-! ## Taking records from a document -/

namespace Toml

section

variable {σ α : Type} {entries : Entries} {record : σ}

/-- What a field makes of the record that the fields before it gave. -/
def Field.take (field : Field σ) (entries : Entries) (record : σ) : Except Misfit σ :=
  match entries.get? field.name with
  | some entry => (field.put entry.region entry.value).map (· record)
  | none => .ok record

theorem Field.take_of {name : String} {decoder : Decoder α} {put : α → σ → σ} {entry : Entry Value}
    {a : α} (hget : entries.get? name = some entry)
    (hdecode : decoder entry.region entry.value = .ok a) :
    (Field.of name decoder put).take entries record = .ok (put a record) := by
  rw [Field.take, Field.of, hget]
  dsimp only
  rw [hdecode]
  rfl

/-- If the slot is what stands under the name of a field, the field puts it into the record. -/
theorem Field.take_slot {name : String} {decoder : Decoder α} {toValue : α → Value}
    {slot : Option α} (hslot : (entries.get? name).map Entry.value = slot.map toValue)
    (hdecode : ∀ region a, decoder region (toValue a) = .ok a) (put : α → σ → σ) (record : σ) :
    (Field.of name decoder put).take entries record = .ok (slot.elim record (put · record)) := by
  cases slot with
  | none =>
    have hget : entries.get? name = none := by simpa using hslot
    rw [Field.take, Field.of, hget]
    rfl
  | some a =>
    obtain ⟨⟨_, _, region, value⟩, hget, rfl⟩ := Option.map_eq_some_iff.mp hslot
    exact Field.take_of hget (hdecode region a)

/-- If all numbers are in range, the record is what the fields make of it one after the other. -/
theorem Record.ofEntries_eq (r : Record σ) (hrange : NumberRange.wide.holdsEntries entries = true) :
    r.ofEntries entries =
      r.sorted.foldlM (fun record field => field.take entries record) r.initial := by
  have hnone : r.outOfRange? entries = none := by
    refine List.find?_eq_none.mpr fun e he => ?_
    simp [NumberRange.holdsEntries_eq_true_iff.mp hrange e he]
  rw [Record.ofEntries, hnone]
  change (r.sorted.foldlM (fun record field => field.take entries record) r.initial >>= pure) = _
  rw [bind_pure]

theorem Record.ofEntries_nil (r : Record σ) : r.ofEntries [] = .ok r.initial := by
  rw [r.ofEntries_eq rfl]
  induction r.sorted with
  | nil => rfl
  | cons field fields ih => exact ih

end

theorem flag_boolean (region : Region) (b : Bool) : flag region (.boolean b) = .ok b := rfl

theorem word_toNat (region : Region) (w : UInt64) : word region (.integer w.toNat) = .ok w := by
  have hlt : (w.toNat : Int) < UInt64.size := by exact_mod_cast w.toNat_lt
  rw [word, if_pos ⟨Int.natCast_nonneg _, hlt⟩, Int.toNat_natCast, UInt64.ofNat_toNat]

/-! ## What a name is given -/

namespace Contents

/-- The name is given the value, or nothing. -/
def Gives (c : Contents Tree) (name : String) (value : Option Value) : Prop :=
  Option.Rel (fun slot v => ∃ t, slot = .value t ∧ t.scalar? = some v) (c [name]) value

/-- The name stands for a table, of whatever form, or for nothing. -/
def MayHoldTable (c : Contents Tree) (name : String) : Prop :=
  ∀ slot ∈ c [name], (∃ origin, slot = .table origin) ∨ ∃ members, slot = .value (.table members)

/-- What the table of a name gives to its keys. -/
def table (c : Contents Tree) (name : String) : Contents Tree :=
  match c [name] with
  | some (.value (.table members)) => members.contents
  | _ => c.under name

end Contents

section

variable {σ α : Type} {c : Contents Tree} {entries : Entries} {name : String}

theorem Contents.gives_some {t : Tree} {v : Value} (h : c [name] = some (.value t))
    (hv : t.scalar? = some v) : c.Gives name (some v) := by
  rw [Contents.Gives, h]
  exact .some ⟨t, rfl, hv⟩

theorem Contents.gives_none (h : c [name] = none) : c.Gives name none := by
  rw [Contents.Gives, h]
  exact .none

theorem Contents.mayHoldTable_of_header {origin : Origin} (h : c [name] = some (.table origin)) :
    c.MayHoldTable name := by
  intro slot hslot
  rw [Option.mem_def, h] at hslot
  exact .inl ⟨origin, (Option.some.inj hslot).symm⟩

theorem Mirrors.value_eq (h : Mirrors Tree.Stands c entries) {value : Option Value}
    (hgives : c.Gives name value) : (entries.get? name).map Entry.value = value := by
  rw [Contents.Gives] at hgives
  cases hget : entries.get? name with
  | none =>
    rw [h.eq_none hget] at hgives
    cases hgives
    rfl
  | some entry =>
    obtain ⟨slot, hslot, hmatches⟩ := h.exists_slot hget
    rw [hslot] at hgives
    cases hgives with
    | some hvalue =>
      obtain ⟨t, rfl, hscalar⟩ := hvalue
      exact congrArg some (Tree.Stands.scalar hmatches _ hscalar)

/-- The record of a field is taken from the table of its name, if there is one. -/
theorem Field.take_table (h : Mirrors Tree.StandsInside c entries)
    (hrange : NumberRange.wide.holdsEntries entries = true) (htable : c.MayHoldTable name)
    {r : Record α} {a : α}
    (ha : ∀ inner, Mirrors Tree.Stands (c.table name) inner →
      NumberRange.wide.holdsEntries inner = true → r.ofEntries inner = .ok a)
    {put : α → σ → σ} {record : σ} (hput : put r.initial record = record) :
    (Field.of name r.decode put).take entries record = .ok (put a record) := by
  cases hget : entries.get? name with
  | none =>
    have hnone : c.table name = c.under name := by rw [Contents.table, h.eq_none hget]
    have hunder := (h.under_of_none hget).imp fun _ _ => Tree.StandsInside.toStands
    rw [← hnone] at hunder
    have hinitial := r.ofEntries_nil.symm.trans (ha [] hunder rfl)
    rw [Field.take, Field.of, hget, ← Except.ok.inj hinitial, hput]
  | some entry =>
    obtain ⟨slot, hslot, hmatches⟩ := h.exists_slot hget
    have hinner := NumberRange.holdsEntries_eq_true_iff.mp hrange entry
      (List.mem_of_find?_eq_some hget)
    refine Field.take_of hget ?_
    rcases htable slot hslot with ⟨origin, rfl⟩ | ⟨members, rfl⟩
    · obtain ⟨horigin, inner, hvalue⟩ := hmatches
      have hheader : c.table name = c.under name := by rw [Contents.table, hslot]
      have hunder := (h.under_of_some hget).imp fun _ _ => Tree.StandsInside.toStands
      rw [hvalue, inner_table horigin, ← hheader] at hunder
      rw [hvalue] at hinner ⊢
      exact ha inner hunder hinner
    · obtain ⟨inner, hvalue, hmirrors⟩ := Tree.StandsInside.table hmatches members rfl
      have hmembers : c.table name = members.contents := by rw [Contents.table, hslot]
      rw [← hmembers] at hmirrors
      rw [hvalue] at hinner ⊢
      exact ha inner hmirrors hinner

/-- A record of two fields of one kind is taken from what they are given. -/
theorem Record.ofEntries_pair (h : Mirrors Tree.Stands c entries)
    (hrange : NumberRange.wide.holdsEntries entries = true) {r : Record σ} {decoder : Decoder α}
    {toValue : α → Value} (hdecode : ∀ region a, decoder region (toValue a) = .ok a)
    {first second : String} {put put' : α → σ → σ}
    (hsorted : r.sorted = [.of first decoder put, .of second decoder put']) {a b : Option α}
    (hfirst : c.Gives first (a.map toValue)) (hsecond : c.Gives second (b.map toValue)) :
    let record := a.elim r.initial (put · r.initial)
    r.ofEntries entries = .ok (b.elim record (put' · record)) := by
  intro record
  rw [r.ofEntries_eq hrange, hsorted, List.foldlM_cons,
    Field.take_slot (h.value_eq hfirst) hdecode, ok_bind, List.foldlM_cons,
    Field.take_slot (h.value_eq hsecond) hdecode, ok_bind, List.foldlM_nil]
  rfl

end

end Toml

/-! ## Settings -/

theorem Grammar.variant_name (region : Region) (g : Grammar) :
    variant Grammar.ofKey? Grammar.keys region (.string g.name) = .ok g := by
  cases g with
  | markdown => rfl
  | markdownInline => rfl

namespace Settings

/-- The settings that a file gives, each of which may be missing. -/
structure Written where
  grammar : Option Grammar := none
  pretty : Option Bool := none
  includeKinds : Option Bool := none
  maxDepth : Option UInt64 := none
  maxNodes : Option UInt64 := none
deriving DecidableEq, Repr

namespace Written

/-- The settings that are written, and the default of every other one. -/
def settings (w : Written) : Settings :=
  let default : Settings := {}
  { grammar := w.grammar.getD default.grammar
    output :=
      { pretty := w.pretty.getD default.output.pretty
        includeKinds := w.includeKinds.getD default.output.includeKinds }
    limits :=
      { maxDepth := w.maxDepth.or default.limits.maxDepth
        maxNodes := w.maxNodes.or default.limits.maxNodes } }

/-- The contents give the settings that are written and no others. Whatever else they hold is not
asked for. -/
structure IsGiven (w : Written) (c : Contents Tree) : Prop where
  grammar : c.Gives "grammar" (w.grammar.map fun g => .string g.name)
  output : c.MayHoldTable "output"
  pretty : (c.table "output").Gives "pretty" (w.pretty.map .boolean)
  includeKinds : (c.table "output").Gives "include_kinds" (w.includeKinds.map .boolean)
  limits : c.MayHoldTable "limits"
  maxDepth : (c.table "limits").Gives "max_depth" (w.maxDepth.map fun n => .integer n.toNat)
  maxNodes : (c.table "limits").Gives "max_nodes" (w.maxNodes.map fun n => .integer n.toNat)

namespace IsGiven

variable {w : Written} {c : Contents Tree} {entries : Entries}

theorem ofEntries_output (h : w.IsGiven c)
    (hmirrors : Mirrors Tree.Stands (c.table "output") entries)
    (hrange : NumberRange.wide.holdsEntries entries = true) :
    OutputSettings.toml.ofEntries entries = .ok w.settings.output := by
  have hsorted : OutputSettings.toml.sorted = [.of "include_kinds" flag fun b s =>
    { s with includeKinds := b }, .of "pretty" flag fun b s => { s with pretty := b }] := rfl
  rw [Record.ofEntries_pair hmirrors hrange flag_boolean hsorted h.includeKinds h.pretty]
  obtain ⟨-, _ | _, _ | _, -, -⟩ := w <;> rfl

theorem ofEntries_limits (h : w.IsGiven c)
    (hmirrors : Mirrors Tree.Stands (c.table "limits") entries)
    (hrange : NumberRange.wide.holdsEntries entries = true) :
    Limits.toml.ofEntries entries = .ok w.settings.limits := by
  have hsorted : Limits.toml.sorted = [.of "max_depth" word fun n l => l.withMaxDepth n,
    .of "max_nodes" word fun n l => l.withMaxNodes n] := rfl
  rw [Record.ofEntries_pair hmirrors hrange word_toNat hsorted h.maxDepth h.maxNodes]
  obtain ⟨-, -, -, _ | _, _ | _⟩ := w <;> rfl

theorem ofEntries (h : w.IsGiven c) (hmirrors : Mirrors Tree.StandsInside c entries)
    (hrange : NumberRange.wide.holdsEntries entries = true) :
    toml.ofEntries entries = .ok w.settings := by
  have hsorted : toml.sorted = [.of "grammar" (variant Grammar.ofKey? Grammar.keys) fun g s =>
      { s with grammar := g }, .of "limits" Limits.toml.decode fun l s => { s with limits := l },
      .of "output" OutputSettings.toml.decode fun o s => { s with output := o }] := rfl
  have hgrammar := (hmirrors.imp fun _ _ => Tree.StandsInside.toStands).value_eq h.grammar
  rw [Record.ofEntries_eq toml hrange, hsorted, List.foldlM_cons,
    Field.take_slot hgrammar Grammar.variant_name, ok_bind, List.foldlM_cons,
    Field.take_table hmirrors hrange h.limits fun _ => h.ofEntries_limits, ok_bind,
    List.foldlM_cons, Field.take_table hmirrors hrange h.output fun _ => h.ofEntries_output,
    ok_bind, List.foldlM_nil]
  all_goals
    obtain ⟨_ | _, -, -, -, -⟩ := w <;> rfl

end IsGiven

end Written

/-- The settings that a document gives are taken from it. -/
theorem ofToml?_of_given {text : String} {d : Document} (htext : text.toList = d.text)
    (hconsistent : d.Consistent) (hbounded : d.Bounded) {w : Written}
    (hgiven : w.IsGiven d.contents) : ofToml? text = .ok w.settings := by
  obtain ⟨entries, hread, hholds⟩ := d.exists_ofText? htext hconsistent hbounded
  rw [ofToml?, hread]
  dsimp only
  rw [hgiven.ofEntries hholds.mirrors hholds.inRange]

end Settings

end SyntaxOutline
