import SyntaxOutline.Proofs.Toml.Paths

/-!
# Carrying out commands

A command that fits is carried out by the reader, and what stands at the paths afterwards is as the
grammar says (`Progress.Holds.table`, `Progress.Holds.item`, `Progress.Holds.value`).
-/

namespace SyntaxOutline.Toml

/-! ## Numbers in range -/

namespace NumberRange

variable {r : NumberRange}

theorem holdsEntries_eq_true_iff {entries : Entries} :
    r.holdsEntries entries = true ↔ ∀ e ∈ entries, r.holds e.value = true := by
  induction entries with
  | nil => simp [holdsEntries]
  | cons e entries ih =>
    obtain ⟨key, keyRegion, region, value⟩ := e
    rw [holdsEntries, Bool.and_eq_true, ih, List.forall_mem_cons]

theorem holdsItems_eq_true_iff {items : List (Located Value)} :
    r.holdsItems items = true ↔ ∀ item ∈ items, r.holds item.value = true := by
  induction items with
  | nil => simp [holdsItems]
  | cons item items ih =>
    obtain ⟨region, value⟩ := item
    rw [holdsItems, Bool.and_eq_true, ih, List.forall_mem_cons]

/-- The operation puts no number that is out of range into the entries. -/
def Keeps (r : NumberRange) (op : Entries → Except Cause Entries) : Prop :=
  ∀ entries next, op entries = .ok next → r.holdsEntries entries = true →
    r.holdsEntries next = true

theorem holdsEntries_put {entries : Entries} (h : r.holdsEntries entries = true)
    {entry : Entry Value} (hentry : r.holds entry.value = true) :
    r.holdsEntries (entries.put entry) = true := by
  rw [holdsEntries_eq_true_iff] at h ⊢
  intro e he
  rw [Entries.put] at he
  split at he
  · rcases List.mem_append.mp he with he | he
    · exact h e he
    · rwa [List.mem_singleton.mp he]
  · obtain ⟨old, hold, hnew⟩ := List.mem_map.mp he
    split at hnew
    · rwa [← hnew]
    · rw [← hnew]
      exact h old hold

theorem keeps_alter {name : String} {change : Option (Entry Value) → Except Cause (Entry Value)}
    (hchange : ∀ found entry, change found = .ok entry → (∀ e ∈ found, r.holds e.value = true) →
      r.holds entry.value = true) : r.Keeps (Entries.alter name change) := by
  intro entries next hnext h
  rw [Entries.alter] at hnext
  cases hfound : change (entries.get? name) with
  | error cause =>
    rw [hfound] at hnext
    cases hnext
  | ok entry =>
    rw [hfound] at hnext
    cases hnext
    refine holdsEntries_put h (hchange _ _ hfound fun e he => ?_)
    exact holdsEntries_eq_true_iff.mp h e (List.mem_of_find?_eq_some he)

theorem holdsItems_changeLast {op : Entries → Except Cause Entries} (hop : r.Keeps op)
    {refused : Cause} {items next : List (Located Value)}
    (hnext : changeLast op refused items = .ok next) (h : r.holdsItems items = true) :
    r.holdsItems next = true := by
  induction items generalizing next with
  | nil => cases hnext
  | cons item items ih =>
    rw [holdsItems_eq_true_iff, List.forall_mem_cons] at h
    unfold changeLast at hnext
    split at hnext
    · rename_i hcons
      cases hcons
    · rename_i region origin entries hcons
      cases hcons
      obtain ⟨inner, hinner, ⟨⟩⟩ := bind_eq_ok_iff.mp hnext
      simpa [holdsItems, holds] using hop _ _ hinner (by simpa [holds] using h.1)
    · cases hnext
    · rename_i hcons
      cases hcons
      obtain ⟨more, hmore, ⟨⟩⟩ := bind_eq_ok_iff.mp hnext
      have hmore' := ih hmore (holdsItems_eq_true_iff.mpr h.2)
      rw [holdsItems_eq_true_iff, List.forall_mem_cons]
      exact ⟨h.1, holdsItems_eq_true_iff.mp hmore'⟩

theorem keeps_inside {part : Key} {made : Origin} {enters : Origin → Bool} {entersList : Bool}
    {op : Entries → Except Cause Entries} (hop : r.Keeps op) :
    r.Keeps (Entries.alter part.name (Entries.inside part made enters entersList op)) := by
  refine keeps_alter fun found entry hentry h => ?_
  cases found with
  | none =>
    obtain ⟨inner, hinner, ⟨⟩⟩ := bind_eq_ok_iff.mp hentry
    exact hop _ _ hinner rfl
  | some old =>
    have hold := h old rfl
    rw [Entries.inside] at hentry
    split at hentry
    · rename_i origin inner hvalue
      rw [hvalue] at hold
      split at hentry
      · obtain ⟨inner', hinner, ⟨⟩⟩ := bind_eq_ok_iff.mp hentry
        exact hop _ _ hinner hold
      · cases hentry
    · rename_i items hvalue
      rw [hvalue] at hold
      split at hentry
      · obtain ⟨items', hitems, ⟨⟩⟩ := bind_eq_ok_iff.mp hentry
        exact holdsItems_changeLast hop hitems hold
      · cases hentry
    · cases hentry

theorem keeps_insert (path : List Key) (key : Key) {value : Located Value}
    (hvalue : r.holds value.value = true) : r.Keeps (Entries.insert path key value) := by
  induction path with
  | nil =>
    rw [insert_nil]
    refine keeps_alter fun found entry hentry _ => ?_
    cases found with
    | none =>
      cases hentry
      exact hvalue
    | some old => cases hentry
  | cons part path ih =>
    rw [insert_cons]
    exact keeps_inside ih

theorem keeps_within {change : Entries → Except Cause Entries} (hchange : r.Keeps change)
    (path : List Key) : r.Keeps (Entries.within change path) := by
  induction path with
  | nil => exact hchange
  | cons part path ih =>
    rw [within_cons]
    exact keeps_inside ih

theorem keeps_openTable (key : Key) (region : Region) :
    r.Keeps (Entries.openTable key region) := by
  rw [openTable_eq]
  refine keeps_alter fun found entry hentry h => ?_
  cases found with
  | none =>
    cases hentry
    rfl
  | some old =>
    have hold := h old rfl
    rw [Entries.opened] at hentry
    split at hentry
    · rename_i inner hvalue
      cases hentry
      rwa [hvalue] at hold
    · cases hentry

theorem keeps_openItem (key : Key) (region : Region) : r.Keeps (Entries.openItem key region) := by
  rw [openItem_eq]
  refine keeps_alter fun found entry hentry h => ?_
  cases found with
  | none =>
    cases hentry
    rfl
  | some old =>
    have hold := h old rfl
    rw [Entries.listed] at hentry
    split at hentry
    · rename_i items hvalue
      cases hentry
      rw [hvalue] at hold
      refine holdsItems_eq_true_iff.mpr fun item hitem => ?_
      rcases List.mem_append.mp hitem with hitem | hitem
      · exact holdsItems_eq_true_iff.mp hold item hitem
      · rw [List.mem_singleton.mp hitem]
        rfl
    · cases hentry

end NumberRange

/-! ## Commands -/

namespace Contents

variable {α : Type} {c : Contents α} {path : List String} {key : String}

theorem empty_cons (name : String) (path : List String) :
    (empty : Contents α) (name :: path) = none := if_neg (List.cons_ne_nil name path)

theorem set_self (slot : Slot α) : c.set path slot path = some slot := if_pos rfl

theorem set_of_ne {q : List String} (h : q ≠ path) (slot : Slot α) : c.set path slot q = c q :=
  if_neg h

/-- What is missing on the way to a header is implied by it, and then open. -/
theorem isOpen_pass (h : c.Along Slot.isOpen path.inits) {q : List String} (hq : q <+: path) :
    (c.pass .implied path q).any Slot.isOpen = true := by
  have hslot := h q ((List.mem_inits q path).mpr hq)
  rw [pass, if_pos hq]
  cases hc : c q with
  | none => rfl
  | some slot =>
    rw [hc] at hslot
    exact hslot

theorem ne_append_key {q : List String} (hq : q <+: path) : q ≠ path ++ [key] := by
  rintro rfl
  have hle := hq.length_le
  rw [List.length_append, List.length_singleton] at hle
  omega

/-- A header is open if all tables in front of it are. -/
theorem isOpen_set (h : ∀ q, q <+: path → (c q).any Slot.isOpen = true) {slot : Slot α}
    (hslot : slot.isOpen = true) {q : List String} (hq : q <+: path ++ [key]) :
    (c.set (path ++ [key]) slot q).any Slot.isOpen = true := by
  rcases List.prefix_concat_iff.mp hq with rfl | hq
  · rw [set_self]
    exact hslot
  · rw [set_of_ne (ne_append_key hq)]
    exact h q hq

theorem not_append_prefix {r : List String} (hr : r ≠ []) : ¬ path ++ r <+: path := by
  intro hle
  have hlength := hle.length_le
  have hpos := List.length_pos_iff.mpr hr
  rw [List.length_append] at hlength
  omega

/-- Contents are compared at the paths behind a header and at all others. -/
theorem graft_eq {inside d : Contents α} (hbehind : ∀ r, r ≠ [] → inside r = d (path ++ r))
    (hother : ∀ q, (∀ r, r ≠ [] → q ≠ path ++ r) → c.pass .implied path q = d q) :
    c.graft path inside = d := by
  funext q
  by_cases hq : ∃ r, r ≠ [] ∧ q = path ++ r
  · obtain ⟨r, hr, rfl⟩ := hq
    rw [graft_append c path inside hr, hbehind r hr]
  · have hnot : ∀ r, r ≠ [] → q ≠ path ++ r := fun r hr he => hq ⟨r, hr, he⟩
    rw [graft_of_not c path inside hnot, hother q hnot]

theorem graft_table (slot : Slot α) : c.graft path ((c.below path).set [key] slot) =
    (c.pass .implied path).set (path ++ [key]) slot := by
  refine graft_eq (fun r hr => ?_) fun q hq => ?_
  · simp [set, pass, below, not_append_prefix hr]
  · rw [set_of_ne (hq [key] (List.cons_ne_nil _ _))]

theorem graft_item (slot : Slot α) : c.graft path (((c.below path).clear [key]).set [key] slot) =
    ((c.pass .implied path).clear (path ++ [key])).set (path ++ [key]) slot := by
  refine graft_eq (fun r hr => ?_) fun q hq => ?_
  · simp [set, clear, pass, below, not_append_prefix hr, List.prefix_append_right_inj]
  · have hnot : ¬ path ++ [key] <+: q := by
      rintro ⟨r, rfl⟩
      exact hq (key :: r) (List.cons_ne_nil _ _) (by simp)
    rw [set_of_ne (hq [key] (List.cons_ne_nil _ _)), clear, if_neg hnot]

/-- Under a header that is open, a dotted key implies no table. -/
theorem graft_value {table : List String} (hopen : ∀ q, q <+: table → c q ≠ none) (slot : Slot α) :
    c.graft table (((c.below table).pass .dotted path).set (path ++ [key]) slot) =
      (c.pass .dotted (table ++ path)).set (table ++ (path ++ [key])) slot := by
  refine graft_eq (fun r hr => ?_) fun q hq => ?_
  · simp [set, pass, below, List.prefix_append_right_inj]
  · rw [set_of_ne (hq _ (by simp)), pass, pass]
    by_cases hon : q <+: table
    · obtain ⟨slot, hslot⟩ := Option.ne_none_iff_exists'.mp (hopen q hon)
      rw [hslot]
      rfl
    · have hnot : ¬ q <+: table ++ path := by
        intro hle
        rcases List.prefix_or_prefix_of_prefix hle (List.prefix_append table path) with h | h
        · exact hon h
        · obtain ⟨r, rfl⟩ := h
          refine hq r ?_ rfl
          rintro rfl
          exact hon (by simp)
      rw [if_neg hon, if_neg hnot]

end Contents

/-- The entries are what the document has come to, and their numbers are in range. The header that
is open can still be entered. -/
structure Progress.Holds {α : Type} (R : α → Value → Prop) (p : Progress α) (entries : Entries) :
    Prop where
  mirrors : Mirrors R p.contents entries
  isOpen : ∀ q, q <+: p.table → (p.contents q).any Slot.isOpen = true
  inRange : NumberRange.wide.holdsEntries entries = true

namespace Progress.Holds

variable {α : Type} {R : α → Value → Prop} {p : Progress α} {entries : Entries}

theorem start : Holds R ({} : Progress α) [] where
  mirrors := mirrors_nil Contents.empty_cons
  isOpen := by
    intro q hq
    obtain rfl := List.prefix_nil.mp hq
    rfl
  inRange := rfl

section

variable {path : List Key} {key : Key}

/-- A header opens its table. -/
theorem table (h : p.Holds R entries)
    (hfits : (Command.table (path.map Key.name) key.name).Fits p) (region : Region) :
    ∃ next, entries.within (Entries.openTable key region) path = .ok next ∧
      ((Command.table (path.map Key.name) key.name).next p).Holds R next := by
  obtain ⟨hopen, himplied⟩ := hfits
  have hself := himplied _ (List.mem_singleton_self _)
  obtain ⟨next, hnext, hmirrors⟩ := h.mirrors.exists_within hopen fun inner hinner =>
    hinner.exists_openTable hself region
  rw [Contents.graft_table] at hmirrors
  have hrange := NumberRange.keeps_within (NumberRange.keeps_openTable key region) path _ _ hnext
    h.inRange
  refine ⟨next, hnext, hmirrors, fun q hq => ?_, hrange⟩
  exact Contents.isOpen_set (fun q hq => Contents.isOpen_pass hopen hq) rfl hq

/-- A header opens a further table of its list. -/
theorem item (h : p.Holds R entries)
    (hfits : (Command.item (path.map Key.name) key.name).Fits p) (region : Region) :
    ∃ next, entries.within (Entries.openItem key region) path = .ok next ∧
      ((Command.item (path.map Key.name) key.name).next p).Holds R next := by
  obtain ⟨hopen, hlist⟩ := hfits
  have hself := hlist _ (List.mem_singleton_self _)
  obtain ⟨next, hnext, hmirrors⟩ := h.mirrors.exists_within hopen fun inner hinner =>
    hinner.exists_openItem hself region
  rw [Contents.graft_item] at hmirrors
  have hrange := NumberRange.keeps_within (NumberRange.keeps_openItem key region) path _ _ hnext
    h.inRange
  refine ⟨next, hnext, hmirrors, fun q hq => Contents.isOpen_set (fun q hq => ?_) rfl hq, hrange⟩
  have hnot : ¬ path.map Key.name ++ [key.name] <+: q := by
    intro hle
    exact Contents.not_append_prefix (List.cons_ne_nil _ _) (hle.trans hq)
  rw [Contents.clear, if_neg hnot]
  exact Contents.isOpen_pass hopen hq

/-- A key under the header that is open is given its value. -/
theorem value (h : p.Holds R entries) {a : α} {found : Located Value}
    (hfits : (Command.value (path.map Key.name) key.name a).Fits p) (ha : R a found.value)
    (hinner : found.value.inner = []) (hrange : NumberRange.wide.holds found.value = true)
    {table : List Key} (htable : table.map Key.name = p.table) :
    ∃ next, entries.within (Entries.insert path key found) table = .ok next ∧
      ((Command.value (path.map Key.name) key.name a).next p).Holds R next := by
  obtain ⟨hdotted, hnew⟩ := hfits
  have hsome : ∀ q, q <+: p.table → p.contents q ≠ none := by
    intro q hq hnone
    have hopen := h.isOpen q hq
    rw [hnone] at hopen
    cases hopen
  have hopen : p.contents.Along Slot.isOpen (table.map Key.name).inits := by
    intro q hq
    rw [htable, List.mem_inits] at hq
    have hslot := h.isOpen q hq
    cases hc : p.contents q with
    | none => rfl
    | some slot =>
      rw [hc] at hslot
      exact hslot
  have halong : (p.contents.below (table.map Key.name)).Along (Slot.isTable .dotted)
      (path.map Key.name).inits.tail := by
    intro q hq
    rw [htable]
    exact hdotted _ (List.mem_map_of_mem hq)
  have hnone : p.contents.below (table.map Key.name) (path.map Key.name ++ [key.name]) = none := by
    rw [htable]
    exact Option.isNone_iff_eq_none.mp hnew
  obtain ⟨next, hnext, hmirrors⟩ := h.mirrors.exists_within hopen fun inner hmirrors =>
    hmirrors.exists_insert ha hinner halong hnone
  rw [htable, Contents.graft_value hsome] at hmirrors
  refine ⟨next, hnext, hmirrors, fun q hq => ?_, ?_⟩
  · have hne : q ≠ p.table ++ (path.map Key.name ++ [key.name]) := by
      rintro rfl
      exact Contents.not_append_prefix (by simp) hq
    have hslot := h.isOpen q hq
    dsimp only [Command.next]
    rw [Contents.set_of_ne hne, Contents.pass]
    cases hc : p.contents q with
    | none => exact absurd hc (hsome q hq)
    | some slot =>
      rw [hc] at hslot
      exact hslot
  · exact NumberRange.keeps_within (NumberRange.keeps_insert path key hrange) table _ _ hnext
      h.inRange

end

end Progress.Holds

end SyntaxOutline.Toml
