import Mathlib.Data.List.Induction
import SyntaxOutline.Proofs.Json.Skipping
import SyntaxOutline.Proofs.Json.Typed

/-!
# Reading records

A record is written as an object or as a list. `Tree.Gives` says what either form gives for each
field, and `Record.Describes` what has to be known about the single fields: a relation between what
is given and the record that holds of the initial record and is kept by every field that is read.
From this the reader of the record follows for both forms at once (`Record.decodes`).

* `Tree.Gives` : the fields in an object, in any order and with other members between them, or in a
  list, which holds the first few fields in their own order.
* `Tree.Alike` : two trees that give the same.
* `Given` : a field has what is given for it, and its default otherwise.
-/

namespace SyntaxOutline.Json

/-! ## What is given for each field -/

/-- What the tree gives for each of the fields. An object gives each of them at most once, and may
have other members of any name and value. A list has no more elements than there are fields. -/
inductive Tree.Gives (names : List String) : Tree → (String → Option Tree) → Prop where
  | object {ms : List (Literal × Tree)} (unicode : ∀ m ∈ ms, ∃ name, m.1.value? = some name)
      (once : ∀ name ∈ names, (named name ms).length ≤ 1) :
      Gives names (.object ms) fun name => (named name ms).head?
  | array {vs : List Tree} (bound : vs.length ≤ names.length) :
      Gives names (.array vs) fun name => (names.zip vs).lookup name

/-- The field has the value that is given for it, and its default if there is none. -/
def Given {α : Type} (R : Tree → α → Prop) (fallback : α) : Option Tree → α → Prop
  | none, a => a = fallback
  | some v, a => R v a

theorem Decodes.given_unique {α : Type} {reader : Reader α} {R : Tree → α → Prop}
    (h : Decodes reader R) {fallback a b : α} {slot : Option Tree} (ha : Given R fallback slot a)
    (hb : Given R fallback slot b) : a = b := by
  cases slot with
  | none => exact Eq.trans ha (Eq.symm hb)
  | some v => exact h.unique ha hb

/-! ## Trees that give the same fields -/

/-- Both trees give the same for each of the fields. -/
def Tree.Alike (names : List String) (v w : Tree) : Prop :=
  ∃ given given', v.Gives names given ∧ w.Gives names given' ∧
    ∀ name ∈ names, given name = given' name

theorem Tree.Gives.unique {names : List String} {v : Tree} {given given' : String → Option Tree}
    (h : v.Gives names given) (h' : v.Gives names given') : given = given' := by
  cases h with
  | object =>
    cases h'
    rfl
  | array =>
    cases h'
    rfl

section

variable {α : Type} {R : Tree → α → Prop} {fallback a : α} {slot slot' : Option Tree}

theorem exists_of_given (h : Given R fallback slot a) {v : Tree} (hv : slot = some v) :
    ∃ a, R v a := by
  subst hv
  exact ⟨a, h⟩

theorem given_of_some {v : Tree} (hv : slot = some v) (h : R v a) : Given R fallback slot a := by
  subst hv
  exact h

theorem given_of_rel {inner : Tree → Tree → Prop} (hrel : Option.Rel inner slot slot')
    (hinner : ∀ {v w}, inner v w → R v a → R w a) (h : Given R fallback slot a) :
    Given R fallback slot' a := by
  cases hrel with
  | none => exact h
  | some hvw => exact hinner hvw h

end

section

variable {σ : Type} (room : Nat) (Tells : (String → Option Tree) → σ → Prop)

/-- The update adds the value of a field to what is told. -/
def Puts (name : String) (v : Tree) (update : σ → σ) : Prop :=
  ∀ {given s}, Tells given s → Tells (Function.update given name (some v)) (update s)

/-- The field is read from every text of the tree, always with the same update. -/
def Field.Accepts (f : Field σ) (v : Tree) : Prop :=
  ∃ update, Puts Tells f.name v update ∧ ∀ {cs rest}, Spaced v.tokens cs rest → Ends rest →
    f.read room cs = .ok (update, rest)

/-- The field is read from exactly the values for which something is told. -/
structure Field.Fits (f : Field σ) : Prop where
  accepts : ∀ {given s v}, Tells given s → given f.name = some v → f.Accepts room Tells v
  only : ∀ {cs update rest}, f.read room cs = .ok (update, rest) →
    ∃ v, Puts Tells f.name v update ∧ Spaced v.tokens cs rest

/-- The relation tells the record from what is given for its fields, and from nothing else. -/
structure Record.Describes (r : Record σ) : Prop where
  distinct : (r.fields.map Field.name).Nodup
  initial : Tells (fun _ => none) r.initial
  fields : ∀ f ∈ r.fields, f.Fits room Tells
  unique : ∀ {given s s'}, Tells given s → Tells given s' → s = s'
  congr : ∀ {given given' s}, (∀ f ∈ r.fields, given f.name = given' f.name) → Tells given s →
    Tells given' s

/-- The tree gives fields that make up the record, and all of them if they are required. -/
def Record.IsForm (r : Record σ) (v : Tree) (s : σ) : Prop :=
  ∃ given, v.Gives (r.fields.map Field.name) given ∧
    (r.required = true → ∀ f ∈ r.fields, given f.name ≠ none) ∧ Tells given s

variable {room Tells}

/-- A field whose value is read on its own. -/
theorem Field.fits_of {α : Type} {name : String} {read : Nat → Reader α} {put : α → σ → σ}
    {R : Tree → α → Prop} (hread : Decodes (read room) R)
    (hgiven : ∀ {given s v}, Tells given s → given name = some v → ∃ a, R v a)
    (hput : ∀ {v a}, R v a → Puts Tells name v (put a)) :
    (Field.of name read put).Fits room Tells := by
  constructor
  · intro given s v htells hv
    obtain ⟨a, ha⟩ := hgiven htells hv
    refine ⟨put a, hput ha, fun {cs rest} hspaced hrest => ?_⟩
    exact bind_eq_ok_iff.mpr ⟨(a, rest), hread.reads ha hspaced hrest, rfl⟩
  · intro cs update rest h
    obtain ⟨⟨a, mid⟩, ha, he⟩ := bind_eq_ok_iff.mp h
    cases he
    obtain ⟨v, hv, hspaced⟩ := hread.only ha
    exact ⟨v, hput hv, hspaced⟩

end

namespace Record

variable {σ : Type} {r : Record σ} {room : Nat} {Tells : (String → Option Tree) → σ → Prop}

/-! ## Objects -/

section

variable (r Tells)

/-- The record reached when the members have been read: they say what it is, and the names of the
fields among them have been noted. -/
structure Reached (ms : List (Literal × Tree)) (p : Progress σ) : Prop where
  unicode : ∀ m ∈ ms, ∃ name, m.1.value? = some name
  once : ∀ f ∈ r.fields, (named f.name ms).length ≤ 1
  tells : Tells (fun name => (named name ms).head?) p.record
  seen : ∀ f ∈ r.fields, f.name ∈ p.seen ↔ named f.name ms ≠ []

end

theorem Describes.reached_nil (h : r.Describes room Tells) : r.Reached Tells [] ⟨r.initial, []⟩ :=
  ⟨by simp, by simp [named], h.initial, by simp [named]⟩

theorem unicode_concat {pre : List (Literal × Tree)}
    (h : ∀ m ∈ pre, ∃ name, m.1.value? = some name) {k : Literal} {name : String}
    (hk : k.value? = some name) (v : Tree) :
    ∀ m ∈ pre ++ [(k, v)], ∃ name, m.1.value? = some name := by
  intro m hm
  rcases List.mem_append.mp hm with hm | hm
  · exact h m hm
  · rw [List.mem_singleton.mp hm]
    exact ⟨name, hk⟩

section

variable {pre : List (Literal × Tree)} {p : Progress σ} {k : Literal} {v : Tree}

/-- A member that is no field changes nothing. -/
theorem Reached.skip (h : r.Describes room Tells) (hpre : r.Reached Tells pre p) {name : String}
    (hk : k.value? = some name) (hname : ∀ f ∈ r.fields, f.name ≠ name) :
    r.Reached Tells (pre ++ [(k, v)]) p := by
  have hsame : ∀ f ∈ r.fields, named f.name (pre ++ [(k, v)]) = named f.name pre := fun f hf =>
    named_concat_of_ne hk (hname f hf).symm
  refine ⟨unicode_concat hpre.unicode hk v, ?_, ?_, ?_⟩
  · intro f hf
    rw [hsame f hf]
    exact hpre.once f hf
  · refine h.congr (fun f hf => ?_) hpre.tells
    rw [hsame f hf]
  · intro f hf
    rw [hsame f hf]
    exact hpre.seen f hf

/-- A field that has not been seen is put in place. -/
theorem Reached.put (h : r.Describes room Tells) (hpre : r.Reached Tells pre p) {f : Field σ}
    (hf : f ∈ r.fields) (hk : k.value? = some f.name) (hfree : f.name ∉ p.seen) {update : σ → σ}
    (hputs : Puts Tells f.name v update) :
    r.Reached Tells (pre ++ [(k, v)]) ⟨update p.record, f.name :: p.seen⟩ := by
  have hnone : named f.name pre = [] := by
    by_contra hne
    exact hfree ((hpre.seen f hf).mpr hne)
  have hself : named f.name (pre ++ [(k, v)]) = [v] := by
    rw [named_concat hk, hnone, List.nil_append]
  have hother : ∀ {name}, name ≠ f.name → named name (pre ++ [(k, v)]) = named name pre :=
    fun hne => named_concat_of_ne hk hne.symm
  refine ⟨unicode_concat hpre.unicode hk v, ?_, ?_, ?_⟩
  · intro g hg
    by_cases hgf : g.name = f.name
    · rw [hgf, hself]
      simp
    · rw [hother hgf]
      exact hpre.once g hg
  · refine h.congr (fun g _ => ?_) (hputs hpre.tells)
    by_cases hgf : g.name = f.name
    · rw [hgf, Function.update_self, hself]
      rfl
    · rw [Function.update_of_ne hgf, hother hgf]
  · intro g hg
    by_cases hgf : g.name = f.name
    · simp [hgf, hself]
    · have hseen := hpre.seen g hg
      simp only [List.mem_cons, hgf, false_or, hother hgf]
      exact hseen

theorem find?_eq_some {name : String} {f : Field σ}
    (h : r.fields.find? (·.name == name) = some f) : f ∈ r.fields ∧ f.name = name :=
  ⟨List.mem_of_find?_eq_some h, by simpa using List.find?_some h⟩

theorem find?_eq_none {name : String} (h : r.fields.find? (·.name == name) = none) :
    ∀ f ∈ r.fields, f.name ≠ name := by
  simpa using List.find?_eq_none.mp h

/-- One more member is read if it is no field, or a field that accepts its value and has not been
read before. -/
theorem Reached.exists_next (h : r.Describes room Tells) (hpre : r.Reached Tells pre p)
    {name : String} (hk : k.value? = some name)
    (hfield : ∀ f ∈ r.fields, f.name = name → f.Accepts room Tells v ∧ named f.name pre = []) :
    ∃ next, r.Reached Tells (pre ++ [(k, v)]) next ∧
      ∀ {cs rest}, Spaced (.mark ':' :: v.tokens) cs rest → Ends rest →
        r.member room p name cs = .ok (next, rest) := by
  cases hfind : r.fields.find? (·.name == name) with
  | none =>
    refine ⟨p, hpre.skip h hk (find?_eq_none hfind), fun {cs rest} hcs hrest => ?_⟩
    obtain ⟨mid, hmid, hspaced⟩ := (spaced_mark (by decide)).mp hcs
    have hskip := skipValue_tree hspaced hrest
    rw [member, hfind]
    dsimp only
    rw [readColon_eq_ok_iff.mpr hmid, ok_bind, hskip]
    rfl
  | some f =>
    obtain ⟨hf, rfl⟩ := find?_eq_some hfind
    obtain ⟨⟨update, hputs, hread⟩, hnone⟩ := hfield f hf rfl
    have hfree : f.name ∉ p.seen := fun hseen => (hpre.seen f hf).mp hseen hnone
    refine ⟨_, hpre.put h hf hk hfree hputs, fun {cs rest} hcs hrest => ?_⟩
    obtain ⟨mid, hmid, hspaced⟩ := (spaced_mark (by decide)).mp hcs
    rw [member, hfind]
    dsimp only
    rw [if_neg hfree, readColon_eq_ok_iff.mpr hmid, ok_bind, hread hspaced hrest]
    rfl

/-- A member that is read leads to the record with its value. -/
theorem Reached.exists_of_member (h : r.Describes room Tells) (hpre : r.Reached Tells pre p)
    {name : String} (hk : k.value? = some name) {cs rest : List Char} {next : Progress σ}
    (hmember : r.member room p name cs = .ok (next, rest)) :
    ∃ v, r.Reached Tells (pre ++ [(k, v)]) next ∧ Spaced (.mark ':' :: v.tokens) cs rest := by
  rw [member] at hmember
  split at hmember
  · rename_i hfind
    obtain ⟨mid, hmid, hvalue⟩ := bind_eq_ok_iff.mp hmember
    obtain ⟨rest', hskip, he⟩ := bind_eq_ok_iff.mp hvalue
    cases he
    obtain ⟨v, hspaced⟩ := exists_tree_of_skipValue hskip
    refine ⟨v, hpre.skip h hk (find?_eq_none hfind), ?_⟩
    exact (spaced_mark (by decide)).mpr ⟨mid, readColon_eq_ok_iff.mp hmid, hspaced⟩
  · rename_i f hfind
    obtain ⟨hf, rfl⟩ := find?_eq_some hfind
    split at hmember
    · exact absurd hmember failInObject_ne_ok
    · rename_i hfree
      obtain ⟨mid, hmid, hvalue⟩ := bind_eq_ok_iff.mp hmember
      obtain ⟨⟨update, rest'⟩, hread, he⟩ := bind_eq_ok_iff.mp hvalue
      cases he
      obtain ⟨v, hputs, hspaced⟩ := (h.fields f hf).only hread
      refine ⟨v, hpre.put h hf hk hfree hputs, ?_⟩
      exact (spaced_mark (by decide)).mpr ⟨mid, readColon_eq_ok_iff.mp hmid, hspaced⟩

end

/-- Members with fields that are accepted are read one after the other. There is always room,
because members that are no fields are skipped. -/
theorem exists_takes (h : r.Describes room Tells) {n : Nat} {ms : List (Literal × Tree)}
    (hn : ∀ m ∈ ms, m.2.nesting ≤ n) (unicode : ∀ m ∈ ms, ∃ name, m.1.value? = some name)
    (once : ∀ f ∈ r.fields, (named f.name ms).length ≤ 1)
    (hfields : ∀ f ∈ r.fields, ∀ v ∈ named f.name ms, f.Accepts room Tells v) :
    ∃ last, Takes n (r.member room) ⟨r.initial, []⟩ ms last ∧ r.Reached Tells ms last := by
  induction ms using List.reverseRecOn with
  | nil => exact ⟨_, .nil, h.reached_nil⟩
  | append_singleton pre m ih =>
    obtain ⟨k, v⟩ := m
    obtain ⟨name, hk⟩ := unicode (k, v) (by simp)
    have hsub : ∀ {name : String} {w}, w ∈ named name pre → w ∈ named name (pre ++ [(k, v)]) := by
      intro name w hw
      simp only [named, List.filter_append, List.map_append]
      exact List.mem_append_left _ hw
    have honce : ∀ f ∈ r.fields, (named f.name pre).length ≤ 1 := by
      intro f hf
      have hle := once f hf
      simp only [named, List.filter_append, List.map_append, List.length_append] at hle ⊢
      omega
    obtain ⟨last, htakes, hreached⟩ := ih (fun m hm => hn m (List.mem_append_left _ hm))
      (fun m hm => unicode m (List.mem_append_left _ hm)) honce
      (fun f hf w hw => hfields f hf w (hsub hw))
    have hfield : ∀ f ∈ r.fields, f.name = name →
        f.Accepts room Tells v ∧ named f.name pre = [] := by
      rintro f hf rfl
      have hle := once f hf
      have haccepts := hfields f hf v
      rw [named_concat hk] at hle haccepts
      refine ⟨haccepts (by simp), List.eq_nil_of_length_eq_zero ?_⟩
      simp only [List.length_append, List.length_cons, List.length_nil] at hle
      omega
    obtain ⟨next, hnext, hmember⟩ := hreached.exists_next h hk hfield
    refine ⟨next, htakes.concat hk fun {cs rest} hcs hrest => ?_, hnext⟩
    have hfits : v.nesting ≤ n := hn (k, v) (by simp)
    exact (within_ok (hmember hcs hrest)).congr (iff_true_intro hfits)

/-- The fields that are found missing at the end of an object. -/
theorem find?_missing_eq_none_iff {p : Progress σ} :
    (r.fields.find? fun f => r.required && !p.seen.contains f.name) = none ↔
      (r.required = true → ∀ f ∈ r.fields, f.name ∈ p.seen) := by
  rw [List.find?_eq_none]
  simp only [Bool.and_eq_true, Bool.not_eq_true', List.contains_eq_mem, decide_eq_false_iff_not,
    not_and, not_not]
  constructor
  · intro h hrequired f hf
    exact h f hf hrequired
  · intro h f hf hrequired
    exact h hrequired f hf

theorem mem_named_iff_head? {name : String} {ms : List (Literal × Tree)}
    (h : (named name ms).length ≤ 1) {v : Tree} :
    v ∈ named name ms ↔ (named name ms).head? = some v := by
  cases hms : named name ms with
  | nil => simp
  | cons w ws =>
    rw [hms, List.length_cons] at h
    have hws : ws = [] := List.eq_nil_of_length_eq_zero (by omega)
    subst hws
    simp [eq_comm]

theorem readObject_reads (h : r.Describes room Tells) {ms : List (Literal × Tree)} {s : σ}
    (hform : r.IsForm Tells (.object ms) s) {cs rest : List Char}
    (hcs : Spaced (Tree.objectTokens ms) cs rest) : r.readObject room cs = .ok (s, rest) := by
  obtain ⟨given, hgives, hrequired, htells⟩ := hform
  cases hgives with
  | object unicode once =>
    have honce : ∀ f ∈ r.fields, (named f.name ms).length ≤ 1 := fun f hf =>
      once f.name (List.mem_map_of_mem hf)
    have hfields : ∀ f ∈ r.fields, ∀ v ∈ named f.name ms, f.Accepts room Tells v := by
      intro f hf v hv
      exact (h.fields f hf).accepts htells ((mem_named_iff_head? (honce f hf)).mp hv)
    obtain ⟨last, htakes, hreached⟩ := exists_takes h
      (memberNesting_le_iff.mp (Nat.le_refl _)) unicode honce hfields
    have hread := (readMembers_within htakes hcs).1 (memberNesting_le_iff.mp (Nat.le_refl _))
    have hmissing : (r.fields.find? fun f => r.required && !last.seen.contains f.name) = none := by
      refine find?_missing_eq_none_iff.mpr fun hreq f hf => (hreached.seen f hf).mpr ?_
      have hsome := hrequired hreq f hf
      simpa using hsome
    rw [readObject, hread, ok_bind]
    dsimp only
    rw [hmissing, h.unique hreached.tells htells]
    rfl

theorem exists_object_of_readObject (h : r.Describes room Tells) {s : σ} {cs rest : List Char}
    (hread : r.readObject room cs = .ok (s, rest)) :
    ∃ ms, r.IsForm Tells (.object ms) s ∧ Spaced (Tree.objectTokens ms) cs rest := by
  obtain ⟨⟨p, rest'⟩, hmembers, hread⟩ := bind_eq_ok_iff.mp hread
  have hkeeps : KeepsWith (fun _ => True) (r.member room) (r.Reached Tells) := by
    intro pre p k name cs next rest hpre hk hmember
    obtain ⟨v, hnext, hspaced⟩ := hpre.exists_of_member h hk hmember
    exact ⟨v, ⟨trivial, hnext⟩, hspaced⟩
  obtain ⟨ms, ⟨-, hreached⟩, hspaced⟩ :=
    exists_members_of_keepsWith hkeeps h.reached_nil hmembers
  dsimp only at hread
  split at hread
  · exact absurd hread failHere_ne_ok
  · rename_i hmissing
    cases hread
    refine ⟨ms, ⟨_, .object hreached.unicode ?_, ?_, hreached.tells⟩, hspaced⟩
    · intro name hname
      obtain ⟨f, hf, rfl⟩ := List.mem_map.mp hname
      exact hreached.once f hf
    · intro hrequired f hf
      have hseen := find?_missing_eq_none_iff.mp hmissing hrequired f hf
      simpa using (hreached.seen f hf).mp hseen

/-! ## Lists -/

end Record

/-- The elements of a list that are left, behind its opening bracket or behind an element. -/
def Tree.itemsFrom (first : Bool) (vs : List Tree) : List Token :=
  if first then listTokens vs else itemTokens vs

section

variable {first : Bool} {v : Tree} {vs : List Tree} {cs start mid rest : List Char}

theorem spaced_itemsFrom_nil_iff :
    Spaced (Tree.itemsFrom first []) cs rest ↔ skipBlanks cs = ']' :: rest := by
  have hclose : Tree.itemsFrom first [] = [.mark ']'] := by
    cases first with
    | true => rw [Tree.itemsFrom, if_pos rfl, Tree.listTokens]
    | false => rw [Tree.itemsFrom, if_neg (by decide), Tree.itemTokens]
  rw [hclose, spaced_mark (by decide)]
  constructor
  · rintro ⟨mid, hmid, rfl⟩
    exact hmid
  · intro h
    exact ⟨rest, h, rfl⟩

theorem nextItem_of_cons (h : Spaced (Tree.itemsFrom first (v :: vs)) cs rest) :
    ∃ start mid, nextItem first cs = .ok (.enter start) ∧ Spaced v.tokens start mid ∧ Ends mid ∧
      Spaced (Tree.itemsFrom false vs) mid rest := by
  cases first with
  | true =>
    rw [Tree.itemsFrom, if_pos rfl, Tree.listTokens] at h
    obtain ⟨mid, hfirst, hrest⟩ := spaced_append.mp h
    obtain ⟨c, tail, hc, hne⟩ := v.skipBlanks_eq_cons hfirst
    exact ⟨_, mid, nextItem_first hc hne, v.spaced_skipBlanks_iff.mpr hfirst,
      ends_of_itemTokens hrest, hrest⟩
  | false =>
    rw [Tree.itemsFrom, if_neg (by decide), Tree.itemTokens, List.cons_append] at h
    obtain ⟨tail, htail, h⟩ := (spaced_mark (by decide)).mp h
    obtain ⟨mid, hfirst, hrest⟩ := spaced_append.mp h
    obtain ⟨c, tail', hc, hne⟩ := v.skipBlanks_eq_cons hfirst
    exact ⟨_, mid, nextItem_comma htail hc hne, v.spaced_skipBlanks_iff.mpr hfirst,
      ends_of_itemTokens hrest, hrest⟩

theorem spaced_of_close (h : nextItem first cs = .ok (.close rest)) :
    Spaced (Tree.itemsFrom first []) cs rest := by
  rw [spaced_itemsFrom_nil_iff]
  rcases nextItem_eq_ok h with ⟨mid, hmid, he⟩ | ⟨-, he⟩ | ⟨-, mid, -, he⟩
  · cases he
    exact hmid
  · cases he
  · cases he

theorem spaced_of_enter (h : nextItem first cs = .ok (.enter start))
    (hv : Spaced v.tokens start mid) (hvs : Spaced (Tree.itemsFrom false vs) mid rest) :
    Spaced (Tree.itemsFrom first (v :: vs)) cs rest := by
  rcases nextItem_eq_ok h with ⟨mid', -, he⟩ | ⟨rfl, he⟩ | ⟨rfl, tail, htail, he⟩
  · cases he
  · cases he
    rw [Tree.itemsFrom, if_pos rfl, Tree.listTokens]
    exact spaced_append.mpr ⟨mid, v.spaced_skipBlanks_iff.mp hv, hvs⟩
  · cases he
    rw [Tree.itemsFrom, if_neg (by decide), Tree.itemTokens, List.cons_append]
    refine (spaced_mark (by decide)).mpr ⟨tail, htail, ?_⟩
    exact spaced_append.mpr ⟨mid, v.spaced_skipBlanks_iff.mp hv, hvs⟩

end

theorem closeList_eq_ok_iff {cs rest : List Char} :
    Record.closeList cs = .ok rest ↔ skipBlanks cs = ']' :: rest := by
  constructor
  · intro h
    unfold Record.closeList at h
    split at h
    · exact absurd h failHere_ne_ok
    · rename_i c tail hc
      split at h
      · rename_i hclose
        cases h
        rw [hc, hclose]
      split at h
      · split at h
        · exact absurd h failNext_ne_ok
        · exact absurd h failNext_ne_ok
      · exact absurd h failNext_ne_ok
  · intro h
    rw [Record.closeList, h]
    rfl

section

variable {names : List String} {vs : List Tree} {ps : List (String × Tree)} {name : String}
  {v : Tree}

theorem lookup_concat (h : name ∉ ps.map Prod.fst) :
    (fun n => (ps ++ [(name, v)]).lookup n) =
      Function.update (fun n => ps.lookup n) name (some v) := by
  funext n
  rw [List.lookup_append]
  by_cases hn : n = name
  · have hnone : ps.lookup name = none := by
      rw [List.lookup_eq_none_iff]
      intro p hp
      have hne : p.1 ≠ name := fun he => h (he ▸ List.mem_map_of_mem hp)
      simpa using hne.symm
    rw [hn, hnone, Function.update_self]
    simp
  · rw [Function.update_of_ne hn]
    have hbeq : (n == name) = false := by simpa using hn
    simp [List.lookup_cons, hbeq]

theorem lookup_zip_cons_of_ne {name' : String} (h : name' ≠ name) :
    ((name :: names).zip (v :: vs)).lookup name' = (names.zip vs).lookup name' := by
  have hbeq : (name' == name) = false := by simpa using h
  rw [List.zip_cons_cons, List.lookup_cons, hbeq]

/-- The first names are those that have a value. -/
theorem lookup_zip_ne_none (h : vs.length = names.length) (hname : name ∈ names) :
    (names.zip vs).lookup name ≠ none := by
  rw [ne_eq, List.lookup_eq_none_iff]
  intro hall
  have hfst : (names.zip vs).map Prod.fst = names := List.map_fst_zip (Nat.le_of_eq h.symm)
  rw [← hfst] at hname
  obtain ⟨p, hp, rfl⟩ := List.mem_map.mp hname
  simpa using hall p hp

theorem length_le_of_lookup (hnodup : names.Nodup)
    (h : ∀ name ∈ names, (names.zip vs).lookup name ≠ none) : names.length ≤ vs.length := by
  induction names generalizing vs with
  | nil => simp
  | cons name names ih =>
    obtain ⟨hnot, hnodup⟩ := List.nodup_cons.mp hnodup
    cases vs with
    | nil => exact absurd rfl (h name List.mem_cons_self)
    | cons v vs =>
      refine Nat.succ_le_succ (ih hnodup fun name' hname' => ?_)
      have hne : name' ≠ name := fun he => hnot (he ▸ hname')
      have hsome := h name' (List.mem_cons_of_mem _ hname')
      rwa [lookup_zip_cons_of_ne hne] at hsome

end

namespace Record

variable {σ : Type} {r : Record σ} {room : Nat} {Tells : (String → Option Tree) → σ → Prop}

theorem lookup_of_mem_zip {fs : List (Field σ)} (hnodup : (fs.map Field.name).Nodup)
    {vs : List Tree} {f : Field σ} {v : Tree} (h : (f, v) ∈ fs.zip vs) :
    ((fs.map Field.name).zip vs).lookup f.name = some v := by
  induction fs generalizing vs with
  | nil => simp at h
  | cons g fs ih =>
    cases vs with
    | nil => simp at h
    | cons w vs =>
      rw [List.map_cons] at hnodup ⊢
      obtain ⟨hnot, hnodup⟩ := List.nodup_cons.mp hnodup
      rw [List.zip_cons_cons] at h
      rcases List.mem_cons.mp h with he | htail
      · cases he
        simp
      · have hmem : f.name ∈ fs.map Field.name := List.mem_map_of_mem (List.of_mem_zip htail).1
        have hne : f.name ≠ g.name := fun he => hnot (he ▸ hmem)
        rw [lookup_zip_cons_of_ne hne]
        exact ih hnodup htail

theorem readFields_close {f : Field σ} {fs : List (Field σ)} {count : Nat} {record : σ}
    {cs rest : List Char} (h : nextItem (count == 0) cs = .ok (.close rest))
    (hrequired : r.required = false) :
    r.readFields room (f :: fs) count record cs = .ok (record, rest) := by
  rw [readFields, h, ok_bind]
  dsimp only
  rw [if_neg (by simp [hrequired])]
  rfl

theorem readFields_enter {f : Field σ} {fs : List (Field σ)} {count : Nat} {record : σ}
    {cs start mid : List Char} {update : σ → σ}
    (h : nextItem (count == 0) cs = .ok (.enter start))
    (hread : f.read room start = .ok (update, mid)) :
    r.readFields room (f :: fs) count record cs =
      r.readFields room fs (count + 1) (update record) mid := by
  rw [readFields, h, ok_bind]
  dsimp only
  rw [hread, ok_bind]

/-- One step of reading the fields of a list: it is closed, or a field is read and then the rest. -/
theorem readFields_cases {f : Field σ} {fs : List (Field σ)} {count : Nat} {record s : σ}
    {cs rest : List Char} (h : r.readFields room (f :: fs) count record cs = .ok (s, rest)) :
    (nextItem (count == 0) cs = .ok (.close rest) ∧ r.required = false ∧ s = record) ∨
      ∃ start update mid, nextItem (count == 0) cs = .ok (.enter start) ∧
        f.read room start = .ok (update, mid) ∧
        r.readFields room fs (count + 1) (update record) mid = .ok (s, rest) := by
  rw [readFields] at h
  obtain ⟨next, hnext, h⟩ := bind_eq_ok_iff.mp h
  cases next with
  | close mid =>
    dsimp only at h
    split at h
    · exact absurd h failHere_ne_ok
    · rename_i hrequired
      cases h
      exact Or.inl ⟨hnext, by simpa using hrequired, rfl⟩
  | enter start =>
    obtain ⟨⟨update, mid⟩, hread, h⟩ := bind_eq_ok_iff.mp h
    exact Or.inr ⟨start, update, mid, hnext, hread, h⟩

section

variable {fs : List (Field σ)} {ps : List (String × Tree)} {record s : σ} {cs rest : List Char}

/-- The fields that are left are read from the elements that are left. The pairs are the fields that
have been read, with their values. -/
theorem readFields_reads {vs : List Tree}
    (hnodup : (ps.map Prod.fst ++ fs.map Field.name).Nodup) (hbound : vs.length ≤ fs.length)
    (hrequired : r.required = true → fs.length ≤ vs.length)
    (haccepts : ∀ p ∈ fs.zip vs, p.1.Accepts room Tells p.2) (htells : Tells (ps.lookup ·) record)
    (hcs : Spaced (Tree.itemsFrom (ps.length == 0) vs) cs rest) :
    ∃ s, r.readFields room fs ps.length record cs = .ok (s, rest) ∧
      Tells ((ps ++ (fs.map Field.name).zip vs).lookup ·) s := by
  induction fs generalizing vs ps record cs with
  | nil =>
    have hvs : vs = [] := List.eq_nil_of_length_eq_zero (Nat.le_zero.mp hbound)
    subst hvs
    have hclose : closeList cs = .ok rest :=
      closeList_eq_ok_iff.mpr (spaced_itemsFrom_nil_iff.mp hcs)
    refine ⟨record, ?_, by simpa using htells⟩
    rw [readFields, hclose]
    rfl
  | cons f fs ih =>
    cases vs with
    | nil =>
      have hnot : r.required = false := by
        by_contra htrue
        have hle := hrequired (by simpa using htrue)
        simp at hle
      refine ⟨record, readFields_close ?_ hnot, by simpa using htells⟩
      exact nextItem_close (spaced_itemsFrom_nil_iff.mp hcs)
    | cons v vs =>
      obtain ⟨start, mid, hnext, hv, hends, hvs⟩ := nextItem_of_cons hcs
      obtain ⟨⟨update, hputs, hread⟩, haccepts⟩ := List.forall_mem_cons.mp haccepts
      have hname : f.name ∉ ps.map Prod.fst := fun hmem =>
        (List.nodup_append.mp hnodup).2.2 f.name hmem f.name (by simp) rfl
      have hnext' := hputs htells
      rw [← lookup_concat hname] at hnext'
      have hlength : (ps ++ [(f.name, v)]).length = ps.length + 1 := by simp
      obtain ⟨s, hs, htells'⟩ := ih (by simpa using hnodup) (Nat.le_of_succ_le_succ hbound)
        (fun h => Nat.le_of_succ_le_succ (hrequired h)) haccepts hnext'
        (by simpa [hlength] using hvs)
      refine ⟨s, ?_, by simpa using htells'⟩
      rw [readFields_enter hnext (hread hv hends), ← hlength]
      exact hs

/-- What is read as the fields that are left is elements, no more than there are fields. -/
theorem exists_items_of_readFields (h : r.Describes room Tells) (hfs : ∀ f ∈ fs, f ∈ r.fields)
    (hnodup : (ps.map Prod.fst ++ fs.map Field.name).Nodup) (htells : Tells (ps.lookup ·) record)
    (hread : r.readFields room fs ps.length record cs = .ok (s, rest)) :
    ∃ vs, vs.length ≤ fs.length ∧ (r.required = true → vs.length = fs.length) ∧
      Tells ((ps ++ (fs.map Field.name).zip vs).lookup ·) s ∧
      Spaced (Tree.itemsFrom (ps.length == 0) vs) cs rest := by
  induction fs generalizing ps record cs with
  | nil =>
    obtain ⟨rest', hclose, he⟩ := bind_eq_ok_iff.mp hread
    cases he
    refine ⟨[], by simp, by simp, by simpa using htells, ?_⟩
    exact spaced_itemsFrom_nil_iff.mpr (closeList_eq_ok_iff.mp hclose)
  | cons f fs ih =>
    rcases readFields_cases hread with ⟨hclose, hnot, rfl⟩ | ⟨start, update, mid, henter, hf, hrest⟩
    · exact ⟨[], by simp, by simp [hnot], by simpa using htells, spaced_of_close hclose⟩
    · obtain ⟨hmem, hfs⟩ := List.forall_mem_cons.mp hfs
      obtain ⟨v, hputs, hv⟩ := (h.fields f hmem).only hf
      have hname : f.name ∉ ps.map Prod.fst := fun hmem =>
        (List.nodup_append.mp hnodup).2.2 f.name hmem f.name (by simp) rfl
      have hnext := hputs htells
      rw [← lookup_concat hname] at hnext
      have hlength : (ps ++ [(f.name, v)]).length = ps.length + 1 := by simp
      rw [← hlength] at hrest
      obtain ⟨vs, hbound, hrequired, htells', hvs⟩ := ih hfs (by simpa using hnodup) hnext hrest
      refine ⟨v :: vs, Nat.succ_le_succ hbound, fun hreq => congrArg Nat.succ (hrequired hreq),
        by simpa using htells', spaced_of_enter henter hv ?_⟩
      simpa [hlength] using hvs

end

/-! ## Records -/

section

variable {cs mid : List Char}

theorem read_array (h : skipBlanks cs = '[' :: mid) :
    r.read (room + 1) cs = r.readFields room r.fields 0 r.initial mid := by
  unfold read
  rw [h]
  rfl

theorem read_object (h : skipBlanks cs = '\x7b' :: mid) :
    r.read (room + 1) cs = r.readObject room mid := by
  unfold read
  rw [h]
  rfl

theorem exists_opening_of_read {s : σ} {rest : List Char}
    (h : r.read (room + 1) cs = .ok (s, rest)) :
    (∃ mid, skipBlanks cs = '[' :: mid) ∨ ∃ mid, skipBlanks cs = '\x7b' :: mid := by
  unfold read at h
  split at h
  · exact absurd h failHere_ne_ok
  · exact absurd h failNext_ne_ok
  · exact Or.inl ⟨_, ‹_›⟩
  · exact absurd h failNext_ne_ok
  · exact Or.inr ⟨_, ‹_›⟩
  · exact absurd h mismatch_ne_ok

end

theorem read_reads (h : r.Describes room Tells) {v : Tree} {s : σ} (hform : r.IsForm Tells v s)
    {cs rest : List Char} (hcs : Spaced v.tokens cs rest) :
    r.read (room + 1) cs = .ok (s, rest) := by
  obtain ⟨given, hgives, hrequired, htells⟩ := hform
  cases hgives with
  | @object ms unicode once =>
    rw [Tree.tokens_object] at hcs
    obtain ⟨mid, hmid, hms⟩ := (spaced_mark (by decide)).mp hcs
    rw [read_object hmid]
    exact readObject_reads h ⟨_, .object unicode once, hrequired, htells⟩ hms
  | @array vs bound =>
    rw [Tree.tokens_array] at hcs
    obtain ⟨mid, hmid, hvs⟩ := (spaced_mark (by decide)).mp hcs
    rw [read_array hmid]
    have haccepts : ∀ p ∈ r.fields.zip vs, p.1.Accepts room Tells p.2 := by
      rintro ⟨f, v⟩ hp
      have hf : f ∈ r.fields := (List.of_mem_zip hp).1
      exact (h.fields f hf).accepts htells (lookup_of_mem_zip h.distinct hp)
    have hlength : r.required = true → r.fields.length ≤ vs.length := by
      intro hreq
      rw [← List.length_map (f := Field.name)]
      refine length_le_of_lookup h.distinct fun name hname => ?_
      obtain ⟨f, hf, rfl⟩ := List.mem_map.mp hname
      exact hrequired hreq f hf
    have hinitial : Tells (([] : List (String × Tree)).lookup ·) r.initial := h.initial
    obtain ⟨s', hread, htells'⟩ := readFields_reads (by simpa using h.distinct)
      (by simpa using bound) hlength haccepts hinitial hvs
    rw [h.unique htells htells']
    exact hread

theorem exists_form_of_read (h : r.Describes room Tells) {s : σ} {cs rest : List Char}
    (hread : r.read (room + 1) cs = .ok (s, rest)) :
    ∃ v, r.IsForm Tells v s ∧ Spaced v.tokens cs rest := by
  rcases exists_opening_of_read hread with ⟨mid, hmid⟩ | ⟨mid, hmid⟩
  · rw [read_array hmid] at hread
    have hinitial : Tells (([] : List (String × Tree)).lookup ·) r.initial := h.initial
    obtain ⟨vs, hbound, hrequired, htells, hvs⟩ := exists_items_of_readFields h
      (fun _ hf => hf) (by simpa using h.distinct) hinitial hread
    refine ⟨.array vs, ⟨_, .array (by simpa using hbound), ?_, htells⟩, ?_⟩
    · intro hreq f hf
      exact lookup_zip_ne_none (by simpa using hrequired hreq) (List.mem_map_of_mem hf)
    · rw [Tree.tokens_array]
      exact (spaced_mark (by decide)).mpr ⟨mid, hmid, hvs⟩
  · rw [read_object hmid] at hread
    obtain ⟨ms, hform, hms⟩ := exists_object_of_readObject h hread
    refine ⟨.object ms, hform, ?_⟩
    rw [Tree.tokens_object]
    exact (spaced_mark (by decide)).mpr ⟨mid, hmid, hms⟩

theorem isForm_iff_of_not_required (h : r.required = false) {v : Tree} {s : σ} :
    r.IsForm Tells v s ↔
      ∃ given, v.Gives (r.fields.map Field.name) given ∧ Tells given s := by
  simp [IsForm, h]

/-- **Records.** With room for its bracket and for its fields, a record is read from exactly the
objects and lists that give its fields. -/
theorem decodes (h : r.Describes room Tells) : Decodes (r.read (room + 1)) (r.IsForm Tells) :=
  ⟨fun hform hcs _ => read_reads h hform hcs, fun hread => exists_form_of_read h hread⟩

/-- Trees that give the same fields tell of the same record. -/
theorem Describes.tells_of_alike (h : r.Describes room Tells) {v w : Tree} {s : σ}
    (halike : v.Alike (r.fields.map Field.name) w)
    (hv : ∃ given, v.Gives (r.fields.map Field.name) given ∧ Tells given s) :
    ∃ given, w.Gives (r.fields.map Field.name) given ∧ Tells given s := by
  obtain ⟨given, given', hgives, hgives', hsame⟩ := halike
  obtain ⟨given'', hgives'', htells⟩ := hv
  obtain rfl := hgives.unique hgives''
  exact ⟨given', hgives', h.congr (fun f hf => hsame f.name (List.mem_map_of_mem hf)) htells⟩

/-- A record of two fields of one kind: `get` and `get'` are what they have. -/
theorem describes_pair {α : Type} (get get' : σ → α) {read : Nat → Reader α}
    {R : Tree → α → Prop} (hread : Decodes (read room) R) {first second : String}
    {put put' : α → σ → σ} (hfields : r.fields = [.of first read put, .of second read put'])
    (hdistinct : (r.fields.map Field.name).Nodup)
    (hput : ∀ a s, get (put a s) = a ∧ get' (put a s) = get' s)
    (hput' : ∀ a s, get (put' a s) = get s ∧ get' (put' a s) = a)
    (hext : ∀ s t, get s = get t → get' s = get' t → s = t) :
    r.Describes room fun given s => Given R (get r.initial) (given first) (get s) ∧
      Given R (get' r.initial) (given second) (get' s) := by
  have hne : first ≠ second := by
    rw [hfields] at hdistinct
    simpa [Field.of] using hdistinct
  refine ⟨hdistinct, ⟨rfl, rfl⟩, ?_, ?_, ?_⟩
  · rw [hfields, List.forall_mem_cons, List.forall_mem_singleton]
    constructor
    · refine Field.fits_of hread (fun h hv => exists_of_given h.1 hv) fun {v a} hv given s h => ?_
      rw [Function.update_self, Function.update_of_ne hne.symm, (hput a s).1, (hput a s).2]
      exact ⟨hv, h.2⟩
    · refine Field.fits_of hread (fun h hv => exists_of_given h.2 hv) fun {v a} hv given s h => ?_
      rw [Function.update_self, Function.update_of_ne hne, (hput' a s).1, (hput' a s).2]
      exact ⟨h.1, hv⟩
  · intro given s s' h h'
    exact hext s s' (hread.given_unique h.1 h'.1) (hread.given_unique h.2 h'.2)
  · intro given given' s hsame h
    rw [hfields, List.forall_mem_cons, List.forall_mem_singleton] at hsame
    have hfirst : given first = given' first := hsame.1
    have hsecond : given second = given' second := hsame.2
    rw [← hfirst, ← hsecond]
    exact h

end Record

end SyntaxOutline.Json
