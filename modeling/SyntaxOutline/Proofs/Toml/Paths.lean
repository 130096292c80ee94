import SyntaxOutline.Proofs.Toml.Entries
import SyntaxOutline.Proofs.Toml.Grammar

/-!
# What stands at a path

The reader keeps nested tables, the grammar only says what stands at each path. Where both agree
(`Mirrors`), an operation along a path is carried out if the grammar allows it, and they agree
afterwards (`Mirrors.exists_insert`, `Mirrors.exists_within`).
-/

namespace SyntaxOutline.Toml

/-! ## What stands at a path -/

/-- The entries that names lead to inside a value: those of a table, or of the last table of a
list. -/
def Value.inner : Value → Entries
  | .table origin entries => if origin = .inline then [] else entries
  | .array true items =>
    match items.getLast? with
    | some ⟨_, .table _ entries⟩ => entries
    | _ => []
  | _ => []

/-- What stands at the end of a path. -/
def Entries.at? : List String → Entries → Option Value
  | [], _ => none
  | name :: path, entries =>
    ((entries.get? name).map Entry.value).bind fun v =>
      if path = [] then some v else Entries.at? path v.inner

/-- The value is what the slot says, where `R` tells what it is to be if the slot has a value. -/
def Slot.Matches {α : Type} (R : α → Value → Prop) : Slot α → Value → Prop
  | .value a, v => R a v
  | .table origin, v => origin ≠ .inline ∧ ∃ entries, v = .table origin entries
  | .list, v =>
    ∃ items region origin entries, v = .array true (items ++ [⟨region, .table origin entries⟩])

/-- At every path stands what the contents say. -/
def Mirrors {α : Type} (R : α → Value → Prop) (c : Contents α) (entries : Entries) : Prop :=
  ∀ name path, Option.Rel (Slot.Matches R) (c (name :: path)) (entries.at? (name :: path))

namespace Contents

variable {α : Type}

/-- The contents of the table of a name. -/
def under (name : String) (c : Contents α) : Contents α := fun q => c (name :: q)

/-- Puts contents into the table of a name, which is made if it is missing. -/
def enter (c : Contents α) (name : String) (origin : Origin) (inside : Contents α) : Contents α
  | [] => c []
  | n :: q =>
    if n = name then
      if q = [] then (c [name]).or (some (.table origin)) else inside q
    else c (n :: q)

end Contents

section

variable {α : Type} {R : α → Value → Prop} {c d : Contents α} {entries : Entries} {name : String}

theorem at?_nil (path : List String) : Entries.at? path [] = none := by
  cases path with
  | nil => rfl
  | cons name path => rfl

theorem at?_cons_of_some {entry : Entry Value} (h : entries.get? name = some entry)
    (path : List String) : entries.at? (name :: path) =
      if path = [] then some entry.value else Entries.at? path entry.value.inner := by
  rw [Entries.at?, h]
  rfl

theorem at?_cons_of_none (h : entries.get? name = none) (path : List String) :
    entries.at? (name :: path) = none := by
  rw [Entries.at?, h]
  rfl

theorem Mirrors.imp {R' : α → Value → Prop} (himp : ∀ a v, R a v → R' a v)
    (h : Mirrors R c entries) : Mirrors R' c entries := by
  intro name path
  have hrel := h name path
  generalize c (name :: path) = found at hrel ⊢
  generalize entries.at? (name :: path) = value at hrel ⊢
  cases hrel with
  | none => exact .none
  | @some slot v hmatches =>
    refine .some ?_
    cases slot with
    | value a => exact himp a v hmatches
    | table origin => exact hmatches
    | list => exact hmatches

theorem Mirrors.congr (h : Mirrors R c entries)
    (heq : ∀ name path, d (name :: path) = c (name :: path)) : Mirrors R d entries := by
  intro name path
  rw [heq]
  exact h name path

/-- What stands under a name that has no entry. -/
theorem Mirrors.eq_none (h : Mirrors R c entries) (hget : entries.get? name = none)
    (path : List String) : c (name :: path) = none := by
  have hrel := h name path
  rw [at?_cons_of_none hget] at hrel
  cases hslot : c (name :: path) with
  | none => rfl
  | some slot =>
    rw [hslot] at hrel
    cases hrel

theorem Mirrors.get?_eq_none (h : Mirrors R c entries) (hnone : c [name] = none) :
    entries.get? name = none := by
  have hrel := h name []
  rw [hnone] at hrel
  cases hget : entries.get? name with
  | none => rfl
  | some entry =>
    rw [at?_cons_of_some hget, if_pos rfl] at hrel
    cases hrel

theorem Mirrors.exists_slot (h : Mirrors R c entries) {entry : Entry Value}
    (hget : entries.get? name = some entry) :
    ∃ slot, c [name] = some slot ∧ slot.Matches R entry.value := by
  have hrel := h name []
  rw [at?_cons_of_some hget, if_pos rfl] at hrel
  cases hslot : c [name] with
  | none =>
    rw [hslot] at hrel
    cases hrel
  | some slot =>
    rw [hslot] at hrel
    cases hrel with
    | some hmatches => exact ⟨slot, rfl, hmatches⟩

theorem mirrors_nil (h : ∀ name path, c (name :: path) = none) : Mirrors R c [] := by
  intro name path
  rw [h, at?_nil]
  exact .none

theorem Mirrors.under_of_none (h : Mirrors R c entries) (hget : entries.get? name = none) :
    Mirrors R (c.under name) [] :=
  mirrors_nil fun n path => h.eq_none hget (n :: path)

theorem Mirrors.under_of_some (h : Mirrors R c entries) {entry : Entry Value}
    (hget : entries.get? name = some entry) : Mirrors R (c.under name) entry.value.inner := by
  intro n path
  have hrel := h name (n :: path)
  rwa [at?_cons_of_some hget, if_neg (List.cons_ne_nil n path)] at hrel

/-- A new entry for a name changes what stands at the paths through it. -/
theorem Mirrors.put (h : Mirrors R c entries) {entry : Entry Value} (hkey : entry.key = name)
    (hne : ∀ n, n ≠ name → ∀ path, d (n :: path) = c (n :: path)) {slot : Slot α}
    (hslot : d [name] = some slot) (hmatches : slot.Matches R entry.value)
    (hunder : Mirrors R (d.under name) entry.value.inner) : Mirrors R d (entries.put entry) := by
  subst hkey
  intro n path
  by_cases hn : n = entry.key
  · subst hn
    rw [at?_cons_of_some (get?_put_self entry)]
    cases path with
    | nil =>
      rw [hslot, if_pos rfl]
      exact .some hmatches
    | cons m path =>
      rw [if_neg (List.cons_ne_nil m path)]
      exact hunder m path
  · rw [hne n hn, Entries.at?, get?_put_of_ne (Ne.symm hn)]
    exact h n path

theorem inner_table {origin : Origin} (h : origin ≠ .inline) (inner : Entries) :
    (Value.table origin inner).inner = inner := if_neg h

theorem inner_list (items : List (Located Value)) (region : Region) (origin : Origin)
    (inner : Entries) :
    (Value.array true (items ++ [⟨region, .table origin inner⟩])).inner = inner := by
  rw [Value.inner, List.getLast?_concat]

theorem changeLast_concat {op : Entries → Except Cause Entries} {refused : Cause}
    (items : List (Located Value)) {region : Region} {origin : Origin} {inner inner' : Entries}
    (h : op inner = .ok inner') :
    changeLast op refused (items ++ [⟨region, .table origin inner⟩]) =
      .ok (items ++ [⟨region, .table origin inner'⟩]) := by
  induction items with
  | nil =>
    rw [List.nil_append, changeLast, h]
    rfl
  | cons item items ih =>
    rw [List.cons_append, changeLast, ih]
    · rfl
    · intro region' origin' entries' _ hnil
      simp at hnil
    · intro hnil
      simp at hnil

/-- A name can be entered if it is missing, or if the operation enters what it stands for. -/
def Slot.isEntered (enters : Origin → Bool) (entersList : Bool) : Slot α → Bool
  | .value _ => false
  | .table origin => enters origin
  | .list => entersList

/-- An operation inside the table of a name changes what stands under the name. -/
theorem Mirrors.exists_inside (h : Mirrors R c entries) {part : Key} {made : Origin}
    (hmade : made ≠ .inline) {enters : Origin → Bool} {entersList : Bool}
    (henters : (c [part.name]).all (Slot.isEntered enters entersList) = true)
    {op : Entries → Except Cause Entries}
    (hop : ∀ inner, Mirrors R (c.under part.name) inner →
      ∃ next, op inner = .ok next ∧ Mirrors R d next) :
    ∃ next, entries.alter part.name (Entries.inside part made enters entersList op) = .ok next ∧
      Mirrors R (c.enter part.name made d) next := by
  have hne : ∀ n, n ≠ part.name → ∀ path,
      c.enter part.name made d (n :: path) = c (n :: path) := by
    intro n hn path
    rw [Contents.enter, if_neg hn]
  have hself : c.enter part.name made d [part.name] =
      (c [part.name]).or (some (.table made)) := by
    rw [Contents.enter, if_pos rfl, if_pos rfl]
  have hunder : ∀ {inner}, Mirrors R d inner →
      Mirrors R ((c.enter part.name made d).under part.name) inner := by
    intro inner hinner
    refine hinner.congr fun n path => ?_
    rw [Contents.under, Contents.enter, if_pos rfl, if_neg (List.cons_ne_nil n path)]
  cases hget : entries.get? part.name with
  | none =>
    obtain ⟨inner, hinner, hmirrors⟩ := hop [] (h.under_of_none hget)
    rw [h.eq_none hget, Option.none_or] at hself
    refine ⟨entries.put ⟨part.name, part.region, part.region, .table made inner⟩, alter_eq_ok ?_,
      ?_⟩
    · rw [hget, Entries.inside, hinner]
      rfl
    · refine h.put rfl hne hself ⟨hmade, inner, rfl⟩ ?_
      rw [inner_table hmade]
      exact hunder hmirrors
  | some entry =>
    obtain ⟨slot, hslot, hmatches⟩ := h.exists_slot hget
    have hkey := key_of_get? hget
    have hsub := h.under_of_some hget
    rw [hslot, Option.all_some] at henters
    rw [hslot, Option.some_or] at hself
    obtain ⟨key, keyRegion, region, value⟩ := entry
    cases slot with
    | value a => cases henters
    | table origin =>
      obtain ⟨horigin, inner, rfl⟩ := hmatches
      rw [inner_table horigin] at hsub
      obtain ⟨inner', hinner, hmirrors⟩ := hop inner hsub
      refine ⟨entries.put ⟨key, keyRegion, region, .table origin inner'⟩, alter_eq_ok ?_, ?_⟩
      · have henters : enters origin = true := henters
        rw [hget, Entries.inside]
        dsimp only
        rw [if_pos henters, hinner]
        rfl
      · refine h.put hkey hne hself ⟨horigin, inner', rfl⟩ ?_
        rw [inner_table horigin]
        exact hunder hmirrors
    | list =>
      obtain ⟨items, itemRegion, origin, inner, rfl⟩ := hmatches
      rw [inner_list] at hsub
      obtain ⟨inner', hinner, hmirrors⟩ := hop inner hsub
      refine ⟨entries.put ⟨key, keyRegion, region,
        .array true (items ++ [⟨itemRegion, .table origin inner'⟩])⟩, alter_eq_ok ?_, ?_⟩
      · have henters : entersList = true := henters
        rw [hget, Entries.inside]
        dsimp only
        rw [if_pos henters, changeLast_concat items hinner]
        rfl
      · refine h.put hkey hne hself ⟨items, itemRegion, origin, inner', rfl⟩ ?_
        rw [inner_list]
        exact hunder hmirrors

/-! ## Operations along a path -/

/-- A key that is new is given its value. The induction is on the path, one table at a time. -/
theorem Mirrors.exists_insert (h : Mirrors R c entries) {path : List Key} {key : Key}
    {value : Located Value} {a : α} (ha : R a value.value) (hinner : value.value.inner = [])
    (hdotted : c.Along (Slot.isTable .dotted) (path.map Key.name).inits.tail)
    (hnew : c (path.map Key.name ++ [key.name]) = none) :
    ∃ next, entries.insert path key value = .ok next ∧
      Mirrors R ((c.pass .dotted (path.map Key.name)).set (path.map Key.name ++ [key.name])
        (.value a)) next := by
  induction path generalizing c entries with
  | nil =>
    have hget := h.get?_eq_none hnew
    have hself : (c.pass .dotted []).set [key.name] (.value a) [key.name] = some (.value a) :=
      if_pos rfl
    rw [insert_nil]
    refine ⟨entries.put ⟨key.name, key.region, value.region, value.value⟩, alter_eq_ok ?_, ?_⟩
    · rw [hget]
      rfl
    · refine h.put rfl (fun n hn path => ?_) hself ha ?_
      · simp [Contents.set, Contents.pass, hn]
      · rw [hinner]
        refine mirrors_nil fun n path => ?_
        simp [Contents.under, Contents.set, Contents.pass, h.eq_none hget]
  | cons part path ih =>
    have halong : ∀ q ∈ (path.map Key.name).inits,
        (c (part.name :: q)).all (Slot.isTable .dotted) = true := by
      intro q hq
      refine hdotted (part.name :: q) ?_
      rw [List.map_cons, List.inits_cons, List.tail_cons]
      exact List.mem_map_of_mem hq
    have henters : (c [part.name]).all (Slot.isEntered
        (fun origin => decide (origin = .dotted ∨ (origin = .implied ∧ path.length ≠ 0)))
        (decide (path.length ≠ 0))) = true := by
      have hfirst := halong [] (by simp)
      cases hslot : c [part.name] with
      | none => rfl
      | some slot =>
        rw [hslot] at hfirst
        cases slot with
        | table origin =>
          obtain rfl : origin = .dotted := eq_of_beq hfirst
          rfl
        | value a => cases hfirst
        | list => cases hfirst
    have hmade : Origin.dotted ≠ .inline := by decide
    rw [insert_cons]
    obtain ⟨next, hnext, hmirrors⟩ := h.exists_inside hmade henters fun inner hunder =>
      ih hunder (fun q hq => halong q (List.mem_of_mem_tail hq)) hnew
    refine ⟨next, hnext, hmirrors.congr fun n q => ?_⟩
    rw [Contents.enter]
    by_cases hn : n = part.name
    · subst hn
      cases q with
      | nil => simp [Contents.set, Contents.pass]
      | cons m q => simp [Contents.set, Contents.pass, Contents.under]
    · simp [Contents.set, Contents.pass, hn]

end

namespace Contents

variable {α : Type}

/-- The contents of the table at the end of a path. -/
def below (path : List String) (c : Contents α) : Contents α := fun q => c (path ++ q)

/-- Puts contents into the table at the end of a path; tables that are missing are implied. -/
def graft (c : Contents α) (path : List String) (inside : Contents α) : Contents α := fun q =>
  if path <+: q ∧ q ≠ path then inside (q.drop path.length) else c.pass .implied path q

theorem graft_append (c : Contents α) (path : List String) (inside : Contents α) {q : List String}
    (hq : q ≠ []) : c.graft path inside (path ++ q) = inside q := by
  rw [graft, if_pos ⟨List.prefix_append path q, by simpa using hq⟩, List.drop_left]

theorem graft_of_not (c : Contents α) (path : List String) (inside : Contents α) {q : List String}
    (hq : ∀ r, r ≠ [] → q ≠ path ++ r) : c.graft path inside q = c.pass .implied path q := by
  rw [graft, if_neg]
  rintro ⟨⟨r, rfl⟩, hne⟩
  refine hq r ?_ rfl
  rintro rfl
  exact hne (List.append_nil path)

end Contents

section

variable {α : Type} {R : α → Value → Prop} {c d : Contents α} {entries : Entries}

/-- A change is made in the table that headers lead to. -/
theorem Mirrors.exists_within (h : Mirrors R c entries) {path : List Key}
    (hopen : c.Along Slot.isOpen (path.map Key.name).inits)
    {change : Entries → Except Cause Entries}
    (hchange : ∀ inner, Mirrors R (c.below (path.map Key.name)) inner →
      ∃ next, change inner = .ok next ∧ Mirrors R d next) :
    ∃ next, entries.within change path = .ok next ∧
      Mirrors R (c.graft (path.map Key.name) d) next := by
  induction path generalizing c entries with
  | nil =>
    obtain ⟨next, hnext, hmirrors⟩ := hchange entries h
    refine ⟨next, hnext, hmirrors.congr fun n q => ?_⟩
    exact c.graft_append [] d (List.cons_ne_nil n q)
  | cons part path ih =>
    have halong : ∀ q ∈ (path.map Key.name).inits,
        (c (part.name :: q)).all Slot.isOpen = true := by
      intro q hq
      refine hopen (part.name :: q) ?_
      rw [List.map_cons, List.inits_cons]
      exact List.mem_cons_of_mem _ (List.mem_map_of_mem hq)
    have henters : (c [part.name]).all (Slot.isEntered (fun origin => decide (origin ≠ .inline))
        true) = true := by
      have hfirst := halong [] (by simp)
      cases hslot : c [part.name] with
      | none => rfl
      | some slot =>
        rw [hslot] at hfirst
        cases slot with
        | table origin => simpa [Slot.isOpen, Slot.isEntered] using hfirst
        | value a => cases hfirst
        | list => rfl
    have hmade : Origin.implied ≠ .inline := by decide
    rw [within_cons]
    obtain ⟨next, hnext, hmirrors⟩ := h.exists_inside hmade henters fun inner hunder =>
      ih hunder halong hchange
    refine ⟨next, hnext, hmirrors.congr fun n q => ?_⟩
    rw [Contents.enter, List.map_cons]
    by_cases hn : n = part.name
    · subst hn
      cases q with
      | nil => simp [Contents.graft, Contents.pass]
      | cons m q => simp [Contents.graft, Contents.pass, Contents.under]
    · simp [Contents.graft, Contents.pass, hn, Ne.symm hn]

theorem Mirrors.exists_openTable (h : Mirrors R c entries) {key : Key}
    (himplied : (c [key.name]).all (Slot.isTable .implied) = true) (region : Region) :
    ∃ next, entries.openTable key region = .ok next ∧
      Mirrors R (c.set [key.name] (.table .header)) next := by
  have hne : ∀ n, n ≠ key.name → ∀ path,
      c.set [key.name] (.table .header) (n :: path) = c (n :: path) := by
    intro n hn path
    simp [Contents.set, hn]
  have hself : c.set [key.name] (.table .header) [key.name] = some (.table .header) := if_pos rfl
  have hunder : ∀ {inner}, Mirrors R (c.under key.name) inner →
      Mirrors R ((c.set [key.name] (.table .header)).under key.name) inner := by
    intro inner hinner
    refine hinner.congr fun n path => ?_
    simp [Contents.under, Contents.set]
  rw [openTable_eq]
  cases hget : entries.get? key.name with
  | none =>
    refine ⟨entries.put ⟨key.name, key.region, region, .table .header []⟩, alter_eq_ok ?_, ?_⟩
    · rw [hget]
      rfl
    · exact h.put rfl hne hself ⟨by decide, [], rfl⟩ (hunder (h.under_of_none hget))
  | some entry =>
    obtain ⟨slot, hslot, hmatches⟩ := h.exists_slot hget
    have hsub := h.under_of_some hget
    rw [hslot] at himplied
    obtain ⟨name, keyRegion, entryRegion, value⟩ := entry
    cases slot with
    | value a => cases himplied
    | list => cases himplied
    | table origin =>
      obtain rfl : origin = .implied := eq_of_beq himplied
      obtain ⟨-, inner, rfl⟩ := hmatches
      refine ⟨entries.put ⟨key.name, key.region, region, .table .header inner⟩, alter_eq_ok ?_, ?_⟩
      · rw [hget]
        rfl
      · exact h.put rfl hne hself ⟨by decide, inner, rfl⟩ (hunder hsub)

theorem Mirrors.exists_openItem (h : Mirrors R c entries) {key : Key}
    (hlist : (c [key.name]).all Slot.isList = true) (region : Region) :
    ∃ next, entries.openItem key region = .ok next ∧
      Mirrors R ((c.clear [key.name]).set [key.name] .list) next := by
  have hne : ∀ n, n ≠ key.name → ∀ path,
      (c.clear [key.name]).set [key.name] .list (n :: path) = c (n :: path) := by
    intro n hn path
    simp [Contents.set, Contents.clear, hn, Ne.symm hn]
  have hself : (c.clear [key.name]).set [key.name] .list [key.name] = some .list := if_pos rfl
  have hunder : Mirrors R (((c.clear [key.name]).set [key.name] .list).under key.name) [] := by
    refine mirrors_nil fun n path => ?_
    simp [Contents.under, Contents.set, Contents.clear]
  rw [openItem_eq]
  cases hget : entries.get? key.name with
  | none =>
    refine ⟨entries.put ⟨key.name, key.region, region,
      .array true ([] ++ [⟨region, .table .header []⟩])⟩, alter_eq_ok ?_, ?_⟩
    · rw [hget]
      rfl
    · exact h.put rfl hne hself ⟨[], region, .header, [], rfl⟩ hunder
  | some entry =>
    obtain ⟨slot, hslot, hmatches⟩ := h.exists_slot hget
    have hkey := key_of_get? hget
    rw [hslot] at hlist
    obtain ⟨name, keyRegion, entryRegion, value⟩ := entry
    cases slot with
    | value a => cases hlist
    | table origin => cases hlist
    | list =>
      obtain ⟨items, itemRegion, origin, inner, rfl⟩ := hmatches
      refine ⟨entries.put ⟨name, keyRegion, entryRegion, .array true
        ((items ++ [⟨itemRegion, .table origin inner⟩]) ++ [⟨region, .table .header []⟩])⟩,
        alter_eq_ok ?_, ?_⟩
      · rw [hget]
        rfl
      · refine h.put hkey hne hself ⟨_, region, .header, [], rfl⟩ ?_
        rw [inner_list]
        exact hunder

end

end SyntaxOutline.Toml
