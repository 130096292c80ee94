import SyntaxOutline.Outline.Json
import SyntaxOutline.Proofs.Json.Typed
import SyntaxOutline.Proofs.Outline.Paths

/-!
# Objects that represent outlines

`Represents` says which JSON objects stand for an outline, by the members that have a given name:
order, repeats of unknown members and what stands inside of them do not matter.

A reader goes through the members one after the other instead. `Adds` is what a single member does
to the members read so far, and `Collects` describes these members by the part of the object that
was read. The two views agree:

* `Collects.exists_adds`, `Collects.concat` : one more member.
* `Represents.exists_collects`, `Collects.represents` : an object represents an outline if and only
  if its members can be collected and make it up.
-/

namespace SyntaxOutline

open Json (Literal Tree)

namespace Outline

open Json (named named_concat named_concat_of_ne)

/-- The names of the members that a node is made of. -/
def fieldNames : List String := ["Content", "Start", "Length", "Kind", "Children"]

/-- The value is an object that stands for the outline: one content, start and length, at most one
kind and list of children, and other members with any value. -/
inductive Represents : Tree → Outline → Prop where
  | object {ms : List (Literal × Tree)} {o : Outline} {items : List Tree}
      (names : ∀ m ∈ ms, ∃ name, m.1.value? = some name ∧
        (name ∉ fieldNames → ∃ j, m.2.value? = some j))
      (content : ∃ v, named "Content" ms = [v] ∧ v.IsText o.content)
      (start : ∃ v, named "Start" ms = [v] ∧ v.IsWord o.span.start)
      (length : ∃ v, named "Length" ms = [v] ∧ v.IsWord o.span.length)
      (kind : named "Kind" ms = [] ∧ o.kind = none ∨
        ∃ v, named "Kind" ms = [v] ∧ v.IsOptional Tree.IsText o.kind)
      (children : named "Children" ms = [] ∧ items = [] ∨ named "Children" ms = [.array items])
      (represent : List.Forall₂ Represents items o.children) : Represents (.object ms) o

/-! ## Members read one after the other -/

/-- The names of the members that are read in place; all others are kept until the object ends. -/
def placedNames : List String := ["Content", "Kind", "Children"]

theorem placedNames_subset : placedNames ⊆ fieldNames := by
  decide

section

variable (child : Tree → Outline → Prop)

/-- What a member does to the members read so far. -/
inductive Adds (m : Members) : String → Tree → Members → Prop where
  | content {v : Tree} {s : String} (free : m.content = none) (holds : v.IsText s) :
      Adds m "Content" v { m with content := some s }
  | kind {v : Tree} {s : Option String} (free : m.kind = none)
      (holds : v.IsOptional Tree.IsText s) : Adds m "Kind" v { m with kind := some s }
  | children {v : Tree} {os : List Outline} (free : m.children = none)
      (holds : v.IsList child os) : Adds m "Children" v { m with children := some os }
  | other {name : String} {v : Tree} {j : Json} (unplaced : name ∉ placedNames)
      (holds : v.value? = some j) :
      Adds m name v { m with others := m.others ++ [(name, j)] }

/-- The members that are not read in place. -/
def unplaced (ms : List (Literal × Tree)) : List (Literal × Tree) :=
  ms.filter fun m => ∀ name ∈ placedNames, m.1.value? ≠ some name

/-- The members read from the front of an object. -/
structure Collects (ms : List (Literal × Tree)) (m : Members) : Prop where
  names : ∀ p ∈ ms, ∃ name, p.1.value? = some name
  content : List.Forall₂ Tree.IsText (named "Content" ms) m.content.toList
  kind : List.Forall₂ (Tree.IsOptional Tree.IsText) (named "Kind" ms) m.kind.toList
  children : List.Forall₂ (Tree.IsList child) (named "Children" ms) m.children.toList
  others : List.Forall₂ Json.HasValue (unplaced ms) m.others

end

section

variable {pre : List (Literal × Tree)} {k : Literal} {name : String} {v : Tree}

theorem unplaced_concat (hk : k.value? = some name) (h : name ∉ placedNames) :
    unplaced (pre ++ [(k, v)]) = unplaced pre ++ [(k, v)] := by
  simpa [unplaced, hk] using List.forall_mem_ne.mpr h

theorem unplaced_concat_of_mem (hk : k.value? = some name) (h : name ∈ placedNames) :
    unplaced (pre ++ [(k, v)]) = unplaced pre := by
  simp [unplaced, hk, h]

end

theorem forall₂_concat_left_iff {α β : Type} {R : α → β → Prop} {as : List α} {a : α}
    {bs : List β} :
    List.Forall₂ R (as ++ [a]) bs ↔ ∃ bs' b, List.Forall₂ R as bs' ∧ R a b ∧ bs = bs' ++ [b] := by
  induction as generalizing bs with
  | nil => simp [List.forall₂_cons_left_iff, and_comm]
  | cons a' as ih =>
    simp only [List.cons_append, List.forall₂_cons_left_iff, ih]
    constructor
    · rintro ⟨b', _, hb', ⟨bs', b, hbs, hb, rfl⟩, rfl⟩
      exact ⟨b' :: bs', b, ⟨b', bs', hb', hbs, rfl⟩, hb, rfl⟩
    · rintro ⟨_, b, ⟨b', bs', hb', hbs, rfl⟩, hb, rfl⟩
      exact ⟨b', bs' ++ [b], hb', ⟨bs', b, hbs, hb, rfl⟩, rfl⟩

/-- A slot for one value is filled by the last of the values if there was none before. -/
theorem forall₂_slot_iff {α : Type} {P : Tree → α → Prop} {vs : List Tree} {v : Tree}
    {a : Option α} :
    List.Forall₂ P (vs ++ [v]) a.toList ↔ vs = [] ∧ ∃ x, P v x ∧ a = some x := by
  constructor
  · intro h
    have hlength := h.length_eq
    cases a with
    | none => simp at hlength
    | some x =>
      have hvs : vs = [] := by simpa using hlength
      subst hvs
      exact ⟨rfl, x, by simpa using h, rfl⟩
  · rintro ⟨rfl, x, hx, rfl⟩
    exact .cons hx .nil

variable {child : Tree → Outline → Prop}

section

variable {pre : List (Literal × Tree)} {k : Literal} {name : String} {v : Tree} {m next : Members}

/-- **One more member.** The members in front of it were collected, and it adds itself to them. -/
theorem Collects.exists_adds (hk : k.value? = some name)
    (h : Collects child (pre ++ [(k, v)]) next) :
    ∃ m, Collects child pre m ∧ Adds child m name v next := by
  obtain ⟨names, content, kind, children, others⟩ := h
  have names' : ∀ p ∈ pre, ∃ name, p.1.value? = some name := fun p hp =>
    names p (List.mem_append_left _ hp)
  obtain ⟨content', kind', children', others'⟩ := next
  by_cases hplaced : name ∈ placedNames
  · rw [unplaced_concat_of_mem hk hplaced] at others
    simp only [placedNames, List.mem_cons, List.not_mem_nil, or_false] at hplaced
    rcases hplaced with rfl | rfl | rfl
    · rw [named_concat_of_ne hk (by decide)] at kind children
      rw [named_concat hk, forall₂_slot_iff] at content
      obtain ⟨hnone, s, hs, rfl⟩ := content
      refine ⟨⟨none, kind', children', others'⟩, ⟨names', ?_, kind, children, others⟩, ?_⟩
      · simp [hnone]
      · exact .content rfl hs
    · rw [named_concat_of_ne hk (by decide)] at content children
      rw [named_concat hk, forall₂_slot_iff] at kind
      obtain ⟨hnone, s, hs, rfl⟩ := kind
      refine ⟨⟨content', none, children', others'⟩, ⟨names', content, ?_, children, others⟩, ?_⟩
      · simp [hnone]
      · exact .kind rfl hs
    · rw [named_concat_of_ne hk (by decide)] at content kind
      rw [named_concat hk, forall₂_slot_iff] at children
      obtain ⟨hnone, os, hos, rfl⟩ := children
      refine ⟨⟨content', kind', none, others'⟩, ⟨names', content, kind, ?_, others⟩, ?_⟩
      · simp [hnone]
      · exact .children rfl hos
  · have hne := List.forall_mem_ne.mpr hplaced
    rw [named_concat_of_ne hk (hne _ (by decide))] at content kind children
    rw [unplaced_concat hk hplaced] at others
    obtain ⟨ps, ⟨name', j⟩, hps, hj, rfl⟩ := forall₂_concat_left_iff.mp others
    have hname : name = name' := Option.some.inj (hk.symm.trans hj.1)
    subst hname
    exact ⟨⟨content', kind', children', ps⟩, ⟨names', content, kind, children, hps⟩,
      .other hplaced hj.2⟩

theorem named_eq_nil_of_free {α : Type} {P : Tree → α → Prop} {vs : List Tree} {a : Option α}
    (h : List.Forall₂ P vs a.toList) (hfree : a = none) : vs = [] := by
  subst hfree
  exact List.forall₂_nil_right_iff.mp h

theorem Collects.concat (hk : k.value? = some name) (h : Collects child pre m)
    (hadds : Adds child m name v next) : Collects child (pre ++ [(k, v)]) next := by
  obtain ⟨names, content, kind, children, others⟩ := h
  have names' : ∀ p ∈ pre ++ [(k, v)], ∃ name, p.1.value? = some name := by
    intro p hp
    rcases List.mem_append.mp hp with hp | hp
    · exact names p hp
    · rw [List.mem_singleton.mp hp]
      exact ⟨name, hk⟩
  cases hadds with
  | content free holds =>
    rw [← named_concat_of_ne hk (v := v) (by decide)] at kind children
    rw [← unplaced_concat_of_mem hk (v := v) (by decide)] at others
    refine ⟨names', ?_, kind, children, others⟩
    rw [named_concat hk, forall₂_slot_iff]
    exact ⟨named_eq_nil_of_free content free, _, holds, rfl⟩
  | kind free holds =>
    rw [← named_concat_of_ne hk (v := v) (by decide)] at content children
    rw [← unplaced_concat_of_mem hk (v := v) (by decide)] at others
    refine ⟨names', content, ?_, children, others⟩
    rw [named_concat hk, forall₂_slot_iff]
    exact ⟨named_eq_nil_of_free kind free, _, holds, rfl⟩
  | children free holds =>
    rw [← named_concat_of_ne hk (v := v) (by decide)] at content kind
    rw [← unplaced_concat_of_mem hk (v := v) (by decide)] at others
    refine ⟨names', content, kind, ?_, others⟩
    rw [named_concat hk, forall₂_slot_iff]
    exact ⟨named_eq_nil_of_free children free, _, holds, rfl⟩
  | other hplaced holds =>
    have hne := List.forall_mem_ne.mpr hplaced
    rw [← named_concat_of_ne hk (v := v) (hne _ (by decide))] at content kind children
    refine ⟨names', content, kind, children, ?_⟩
    rw [unplaced_concat hk hplaced]
    exact List.rel_append others (.cons ⟨hk, holds⟩ .nil)

theorem Collects.eq_empty (h : Collects child [] m) : m = {} := by
  obtain ⟨-, content, kind, children, others⟩ := h
  obtain ⟨content', kind', children', others'⟩ := m
  have hcontent := List.forall₂_nil_left_iff.mp content
  have hkind := List.forall₂_nil_left_iff.mp kind
  have hchildren := List.forall₂_nil_left_iff.mp children
  have hothers : others' = [] := List.forall₂_nil_left_iff.mp others
  simp only [Option.toList_eq_nil_iff] at hcontent hkind hchildren
  rw [hcontent, hkind, hchildren, hothers]

end

/-! ## The span among the other members -/

/-- The values of the given name among members that were kept. -/
def valuesOf (name : String) (ps : List (String × Json)) : List Json :=
  (ps.filter fun p => p.1 = name).map Prod.snd

/-- A word is known already, or exactly one of the values is one. -/
def Settles (known : Option UInt64) (js : List Json) (w : UInt64) : Prop :=
  match known with
  | some w' => js = [] ∧ w' = w
  | none => ∃ j, js = [j] ∧ wordOf j = .ok w

theorem valuesOf_cons (name name' : String) (j : Json) (ps : List (String × Json)) :
    valuesOf name ((name', j) :: ps) =
      if name' = name then j :: valuesOf name ps else valuesOf name ps := by
  unfold valuesOf
  by_cases h : name' = name <;> simp [h]

theorem settles_cons_iff {known : Option UInt64} {j : Json} {js : List Json} {w : UInt64} :
    Settles known (j :: js) w ↔
      known = none ∧ ∃ w', wordOf j = .ok w' ∧ Settles (some w') js w := by
  cases known with
  | none =>
    constructor
    · rintro ⟨j', he, hw⟩
      cases he
      exact ⟨rfl, w, hw, rfl, rfl⟩
    · rintro ⟨-, w', hw, rfl, rfl⟩
      exact ⟨j, rfl, hw⟩
  | some w' => simp [Settles]

/-- A word is taken where none is known yet. -/
theorem take_eq_ok_iff {α : Type} {known : Option UInt64} {reason : Mismatch}
    {word : Except Mismatch UInt64} {f : UInt64 → Except Mismatch α} {a : α} :
    (if known.isSome = true then .error reason else word >>= f) = .ok a ↔
      known = none ∧ ∃ w, word = .ok w ∧ f w = .ok a := by
  cases known with
  | none => simp [bind_eq_ok_iff]
  | some w => simp

theorem spanOf_eq_ok_iff {start length : Option UInt64} {ps : List (String × Json)} {span : Span} :
    spanOf start length ps = .ok span ↔
      Settles start (valuesOf "Start" ps) span.start ∧
        Settles length (valuesOf "Length" ps) span.length := by
  induction ps generalizing start length with
  | nil =>
    obtain ⟨start', length'⟩ := span
    cases start with
    | none => simp [spanOf, valuesOf, Settles]
    | some start =>
      cases length with
      | none => simp [spanOf, valuesOf, Settles]
      | some length => simp [spanOf, valuesOf, Settles]
  | cons p ps ih =>
    obtain ⟨name, j⟩ := p
    rw [spanOf, valuesOf_cons, valuesOf_cons]
    by_cases hstart : name = "Start"
    · subst hstart
      rw [if_pos rfl, if_pos rfl, take_eq_ok_iff, settles_cons_iff]
      simp only [ih]
      constructor
      · rintro ⟨hnone, w, hw, hs, hl⟩
        exact ⟨⟨hnone, w, hw, hs⟩, hl⟩
      · rintro ⟨⟨hnone, w, hw, hs⟩, hl⟩
        exact ⟨hnone, w, hw, hs, hl⟩
    · rw [if_neg hstart, if_neg hstart]
      by_cases hlength : name = "Length"
      · subst hlength
        rw [if_pos rfl, if_pos rfl, take_eq_ok_iff, settles_cons_iff]
        simp only [ih]
        constructor
        · rintro ⟨hnone, w, hw, hs, hl⟩
          exact ⟨hs, hnone, w, hw, hl⟩
        · rintro ⟨hs, hnone, w, hw, hl⟩
          exact ⟨hnone, w, hw, hs, hl⟩
      · rw [if_neg hlength, if_neg hlength]
        exact ih

theorem wordOf_eq_ok_iff {j : Json} {w : UInt64} :
    wordOf j = .ok w ↔ ∃ num : Json.Number, j = .number num ∧ num.toWord = .ok w := by
  cases j <;> simp [wordOf]

theorem named_unplaced {name : String} (h : name ∉ placedNames) (ms : List (Literal × Tree)) :
    named name (unplaced ms) = named name ms := by
  unfold named unplaced
  rw [List.filter_filter]
  congr 1
  apply List.filter_congr
  intro m _
  by_cases hm : m.1.value? = some name
  · simpa [hm] using List.forall_mem_ne.mpr h
  · simp [hm]

theorem forall₂_named {ms : List (Literal × Tree)} {ps : List (String × Json)}
    (h : List.Forall₂ Json.HasValue ms ps) (name : String) :
    List.Forall₂ Tree.Denotes (named name ms) (valuesOf name ps) := by
  induction h with
  | nil => exact .nil
  | @cons m p ms ps hm hms ih =>
    obtain ⟨name', j⟩ := p
    have hname : m.1.value? = some name' := hm.1
    rw [valuesOf_cons]
    by_cases he : name' = name
    · have hcons : named name (m :: ms) = m.2 :: named name ms := by simp [named, hname, he]
      rw [if_pos he, hcons]
      exact .cons hm.2 ih
    · have hcons : named name (m :: ms) = named name ms := by simp [named, hname, he]
      rw [if_neg he, hcons]
      exact ih

/-- The values of a name hold a word if and only if there is one value, and it is a word. -/
theorem settles_iff_isWord {vs : List Tree} {js : List Json} {w : UInt64}
    (h : List.Forall₂ Tree.Denotes vs js) :
    Settles none js w ↔ ∃ v, vs = [v] ∧ v.IsWord w := by
  constructor
  · rintro ⟨j, rfl, hw⟩
    obtain ⟨num, rfl, hnum⟩ := wordOf_eq_ok_iff.mp hw
    obtain ⟨v, vs', hv, hvs', rfl⟩ := List.forall₂_cons_right_iff.mp h
    obtain rfl := List.forall₂_nil_right_iff.mp hvs'
    exact ⟨v, rfl, Tree.isWord_iff.mpr ⟨num, hv, hnum⟩⟩
  · rintro ⟨v, rfl, hw⟩
    obtain ⟨num, hv, hnum⟩ := Tree.isWord_iff.mp hw
    obtain ⟨j, js', hj, hjs', rfl⟩ := List.forall₂_cons_left_iff.mp h
    obtain rfl := List.forall₂_nil_left_iff.mp hjs'
    have he : j = .number num := Option.some.inj (hj.symm.trans hv)
    exact ⟨j, rfl, wordOf_eq_ok_iff.mpr ⟨num, he, hnum⟩⟩

theorem ofMembers_eq_ok_iff {m : Members} {o : Outline} :
    ofMembers m = .ok o ↔
      m.content = some o.content ∧ spanOf none none m.others = .ok o.span ∧
        m.kind.getD none = o.kind ∧ m.children.getD [] = o.children := by
  obtain ⟨content, span, kind, children⟩ := o
  unfold ofMembers
  cases m.content with
  | none => simp
  | some content' =>
    simp only [bind_eq_ok_iff, pure, Except.pure, Except.ok.injEq, Outline.mk.injEq,
      Option.some.injEq]
    constructor
    · rintro ⟨span', hspan, rfl, rfl, hkind, hchildren⟩
      exact ⟨rfl, hspan, hkind, hchildren⟩
    · rintro ⟨rfl, hspan, hkind, hchildren⟩
      exact ⟨span, hspan, rfl, rfl, hkind, hchildren⟩

/-- What the members of an object that were collected say about its span. -/
theorem Collects.spanOf_eq_ok_iff {ms : List (Literal × Tree)} {m : Members} {span : Span}
    (h : Collects child ms m) :
    spanOf none none m.others = .ok span ↔
      (∃ v, named "Start" ms = [v] ∧ v.IsWord span.start) ∧
        ∃ v, named "Length" ms = [v] ∧ v.IsWord span.length := by
  have hstart := forall₂_named h.others "Start"
  have hlength := forall₂_named h.others "Length"
  rw [named_unplaced (by decide)] at hstart hlength
  rw [Outline.spanOf_eq_ok_iff, settles_iff_isWord hstart, settles_iff_isWord hlength]

/-! ## The two views -/

theorem mem_named {ms : List (Literal × Tree)} {m : Literal × Tree} (hm : m ∈ ms) {name : String}
    (hname : m.1.value? = some name) : m.2 ∈ named name ms := by
  simp only [named, List.mem_map, List.mem_filter]
  exact ⟨m, ⟨hm, by simpa using hname⟩, rfl⟩

theorem mem_unplaced {ms : List (Literal × Tree)} {m : Literal × Tree} {name : String}
    (hname : m.1.value? = some name) : m ∈ unplaced ms ↔ m ∈ ms ∧ name ∉ placedNames := by
  simp [unplaced, hname, List.forall_mem_ne]

/-- The members that are kept have values: either any, or those of start and length. -/
theorem exists_hasValue {ms : List (Literal × Tree)} {start length : UInt64}
    (names : ∀ m ∈ ms, ∃ name, m.1.value? = some name ∧
      (name ∉ fieldNames → ∃ j, m.2.value? = some j))
    (hstart : ∃ v, named "Start" ms = [v] ∧ v.IsWord start)
    (hlength : ∃ v, named "Length" ms = [v] ∧ v.IsWord length) :
    ∀ m ∈ unplaced ms, ∃ p, Json.HasValue m p := by
  have word : ∀ {name m w}, m ∈ ms → m.1.value? = some name →
      (∃ v, named name ms = [v] ∧ v.IsWord w) → ∃ p, Json.HasValue m p := by
    rintro name m w hm hname ⟨v, hv, hword⟩
    have hmem := mem_named hm hname
    rw [hv, List.mem_singleton] at hmem
    obtain ⟨num, hnum, -⟩ := Tree.isWord_iff.mp hword
    exact ⟨(name, .number num), hname, hmem ▸ hnum⟩
  intro m hm
  obtain ⟨name, hname, hvalue⟩ := names m (List.mem_of_mem_filter hm)
  obtain ⟨hmem, hplaced⟩ := (mem_unplaced hname).mp hm
  by_cases hfield : name ∈ fieldNames
  · have hcases : name = "Start" ∨ name = "Length" := by
      simp only [fieldNames, placedNames, List.mem_cons, List.not_mem_nil] at hfield hplaced
      grind
    rcases hcases with rfl | rfl
    · exact word hmem hname hstart
    · exact word hmem hname hlength
  · obtain ⟨j, hj⟩ := hvalue hfield
    exact ⟨(name, j), hname, hj⟩

theorem exists_eq_singleton {α : Type} {P : Tree → α → Prop} {vs : List Tree} {a : α}
    (h : List.Forall₂ P vs (some a).toList) : ∃ v, vs = [v] ∧ P v a := by
  obtain ⟨v, vs', hv, hvs', rfl⟩ := List.forall₂_cons_right_iff.mp h
  obtain rfl := List.forall₂_nil_right_iff.mp hvs'
  exact ⟨v, rfl, hv⟩

theorem Represents.exists_collects {ms : List (Literal × Tree)} {o : Outline}
    (h : Represents (.object ms) o) : ∃ m, Collects Represents ms m ∧ ofMembers m = .ok o := by
  obtain ⟨names, content, start, length, kind, children, represent⟩ := h
  rename_i items
  obtain ⟨v, hcontent, hv⟩ := content
  obtain ⟨ps, hps⟩ := exists_forall₂ (exists_hasValue names start length)
  obtain ⟨kind', hkind, hkind'⟩ : ∃ kind' : Option (Option String),
      List.Forall₂ (Tree.IsOptional Tree.IsText) (named "Kind" ms) kind'.toList ∧
        kind'.getD none = o.kind := by
    rcases kind with ⟨hnone, hkind⟩ | ⟨v, hsome, hv⟩
    · exact ⟨none, by simp [hnone], hkind.symm⟩
    · exact ⟨some o.kind, by simpa [hsome] using hv, rfl⟩
  obtain ⟨children', hchildren, hchildren'⟩ : ∃ children' : Option (List Outline),
      List.Forall₂ (Tree.IsList Represents) (named "Children" ms) children'.toList ∧
        children'.getD [] = o.children := by
    rcases children with ⟨hnone, rfl⟩ | hsome
    · exact ⟨none, by simp [hnone], (List.forall₂_nil_left_iff.mp represent).symm⟩
    · exact ⟨some o.children, by simpa [hsome] using ⟨items, rfl, represent⟩, rfl⟩
  have hcollects : Collects Represents ms ⟨some o.content, kind', children', ps⟩ :=
    ⟨fun m hm => (names m hm).imp fun _ h => h.1, by simpa [hcontent] using hv, hkind, hchildren,
      hps⟩
  exact ⟨_, hcollects, ofMembers_eq_ok_iff.mpr
    ⟨rfl, hcollects.spanOf_eq_ok_iff.mpr ⟨start, length⟩, hkind', hchildren'⟩⟩

theorem Collects.represents {ms : List (Literal × Tree)} {m : Members} {o : Outline}
    (h : Collects Represents ms m) (hm : ofMembers m = .ok o) : Represents (.object ms) o := by
  obtain ⟨hcontent, hspan, hkind, hchildren⟩ := ofMembers_eq_ok_iff.mp hm
  obtain ⟨start, length⟩ := h.spanOf_eq_ok_iff.mp hspan
  obtain ⟨names, content, kind, children, others⟩ := h
  obtain ⟨content', kind', children', others'⟩ := m
  dsimp only at hcontent hkind hchildren content kind children
  have hnames : ∀ p ∈ ms, ∃ name, p.1.value? = some name ∧
      (name ∉ fieldNames → ∃ j, p.2.value? = some j) := by
    intro p hp
    obtain ⟨name, hname⟩ := names p hp
    refine ⟨name, hname, fun hfield => ?_⟩
    have hplaced : name ∉ placedNames := fun h => hfield (placedNames_subset h)
    obtain ⟨q, -, hq⟩ := Json.exists_of_forall₂ others ((mem_unplaced hname).mpr ⟨hp, hplaced⟩)
    exact ⟨q.2, hq.2⟩
  have hkind' : named "Kind" ms = [] ∧ o.kind = none ∨
      ∃ v, named "Kind" ms = [v] ∧ v.IsOptional Tree.IsText o.kind := by
    rw [← hkind]
    cases kind' with
    | none => exact Or.inl ⟨List.forall₂_nil_right_iff.mp kind, rfl⟩
    | some s => exact Or.inr (exists_eq_singleton kind)
  obtain ⟨items, hitems, represent⟩ : ∃ items,
      (named "Children" ms = [] ∧ items = [] ∨ named "Children" ms = [.array items]) ∧
        List.Forall₂ Represents items o.children := by
    rw [← hchildren]
    cases children' with
    | none => exact ⟨[], Or.inl ⟨List.forall₂_nil_right_iff.mp children, rfl⟩, .nil⟩
    | some os =>
      obtain ⟨v, hv, items, rfl, represent⟩ := exists_eq_singleton children
      exact ⟨items, Or.inr hv, represent⟩
  rw [hcontent] at content
  exact .object hnames (exists_eq_singleton content) start length hkind' hitems represent

end Outline

end SyntaxOutline
