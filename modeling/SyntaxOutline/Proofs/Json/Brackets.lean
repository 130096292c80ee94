import Mathlib.Data.List.Forall2
import SyntaxOutline.Proofs.Json.Numbers
import SyntaxOutline.Proofs.Json.Strings

/-!
# Reading lists and objects

The readers of lists and objects take the reader of an element as an argument. What they read is
related to the grammar here once for all such readers, in both directions.

* `readItems_within`, `readMembers_within` : if the reader of an element succeeds on the trees in
  the bracket as long as there is room, the reader of the bracket does so.
* `exists_items_of_readItems`, `exists_members_of_readMembers` : if the reader of an element
  succeeds only on the texts of trees, the reader of the bracket does so.

The members of an object act on a state one after the other. Which state a list of members leads to
is `Takes` in the first direction, and an invariant of the state in the second.
-/

namespace SyntaxOutline.Json

theorem exists_of_forall₂ {α β : Type} {R : α → β → Prop} {as : List α} {bs : List β}
    (h : List.Forall₂ R as bs) {a : α} (ha : a ∈ as) : ∃ b ∈ bs, R a b := by
  induction h with
  | nil => cases ha
  | cons hab _ ih =>
    rcases List.mem_cons.mp ha with rfl | ha
    · exact ⟨_, List.mem_cons_self, hab⟩
    · obtain ⟨b, hb, hr⟩ := ih ha
      exact ⟨b, List.mem_cons_of_mem _ hb, hr⟩

/-! ## Where a value ends -/

/-- The text continues no number. -/
def Ends (cs : List Char) : Prop :=
  ∀ c ∈ cs.head?, c.isDigit = false ∧ c ≠ '.' ∧ isExponentMark c = false

theorem Ends.endsAt {cs : List Char} (h : Ends cs) (n : Numeral) : n.EndsAt cs :=
  ⟨fun c hc => (h c hc).1, fun _ c hc => (h c hc).2.2, fun _ _ c hc => (h c hc).2.1⟩

theorem ends_of_isBlank {c : Char} (h : isBlank c = true) :
    c.isDigit = false ∧ c ≠ '.' ∧ isExponentMark c = false := by
  simp only [isBlank, Bool.or_eq_true, beq_iff_eq] at h
  rcases h with ((rfl | rfl) | rfl) | rfl <;> decide

/-- A mark behind blanks, such as a comma or a closing bracket, continues no number. -/
theorem ends_of_mark {c : Char} (hblank : isBlank c = false)
    (hc : c.isDigit = false ∧ c ≠ '.' ∧ isExponentMark c = false) {ts : List Token}
    {cs rest : List Char} (h : Spaced (.mark c :: ts) cs rest) : Ends cs := by
  obtain ⟨mid, hmid, -⟩ := (spaced_mark hblank).mp h
  obtain ⟨blanks, hb, hcs⟩ := exists_blank_append cs
  rw [hmid] at hcs
  subst hcs
  cases blanks with
  | nil =>
    intro d hd
    cases hd
    exact hc
  | cons b blanks =>
    intro d hd
    cases hd
    exact ends_of_isBlank (isBlank_iff.mpr (hb _ List.mem_cons_self))

theorem ends_of_itemTokens {vs : List Tree} {cs rest : List Char}
    (h : Spaced (Tree.itemTokens vs) cs rest) : Ends cs := by
  cases vs with
  | nil =>
    rw [Tree.itemTokens] at h
    exact ends_of_mark (by decide) (by decide) h
  | cons v vs =>
    rw [Tree.itemTokens] at h
    exact ends_of_mark (by decide) (by decide) h

theorem ends_of_memberTokens {ms : List (Literal × Tree)} {cs rest : List Char}
    (h : Spaced (Tree.memberTokens ms) cs rest) : Ends cs := by
  cases ms with
  | nil =>
    rw [Tree.memberTokens] at h
    exact ends_of_mark (by decide) (by decide) h
  | cons m ms =>
    obtain ⟨name, v⟩ := m
    rw [Tree.memberTokens] at h
    exact ends_of_mark (by decide) (by decide) h

/-! ## Where a value begins -/

theorem Numeral.exists_head (n : Numeral) :
    ∃ c cs, n.text = c :: cs ∧ (c = '-' ∨ c.isDigit = true) := by
  obtain ⟨d, ds, hds⟩ := List.exists_cons_of_ne_nil n.whole.nonempty
  have hd : d.isDigit = true := n.whole.digits d (by rw [hds]; exact List.mem_cons_self)
  unfold Numeral.text Numeral.unsigned
  rw [hds]
  split
  · exact ⟨'-', _, rfl, Or.inl rfl⟩
  · exact ⟨d, _, rfl, Or.inr hd⟩

theorem isDigit_ne {c d : Char} (hc : c.isDigit = true) (hd : d.isDigit = false) : c ≠ d := by
  rintro rfl
  rw [hc] at hd
  cases hd

theorem isBlank_of_isDigit {c : Char} (hc : c.isDigit = true) : isBlank c = false := by
  by_contra h
  have := (ends_of_isBlank (by simpa using h)).1
  rw [hc] at this
  cases this

/-- The first token of a value begins with neither a blank nor a closing bracket. -/
theorem Tree.exists_head (v : Tree) :
    ∃ t ts c cs, v.tokens = t :: ts ∧ t.text = c :: cs ∧ isBlank c = false ∧ c ≠ ']' := by
  cases v with
  | null => exact ⟨_, _, _, _, by rw [Tree.tokens], rfl, by decide, by decide⟩
  | bool b =>
    cases b with
    | true => exact ⟨_, _, _, _, by rw [Tree.tokens], rfl, by decide, by decide⟩
    | false => exact ⟨_, _, _, _, by rw [Tree.tokens], rfl, by decide, by decide⟩
  | number n =>
    obtain ⟨c, cs, htext, hc⟩ := n.exists_head
    refine ⟨.number n, [], c, cs, by rw [Tree.tokens], htext, ?_⟩
    rcases hc with rfl | hc
    · decide
    · exact ⟨isBlank_of_isDigit hc, isDigit_ne hc (by decide)⟩
  | string s => exact ⟨_, _, _, _, by rw [Tree.tokens], rfl, by decide, by decide⟩
  | array vs =>
    cases vs with
    | nil => exact ⟨_, _, _, _, by rw [Tree.tokens], rfl, by decide, by decide⟩
    | cons v vs => exact ⟨_, _, _, _, by rw [Tree.tokens]; rfl, rfl, by decide, by decide⟩
  | object ms =>
    cases ms with
    | nil => exact ⟨_, _, _, _, by rw [Tree.tokens], rfl, by decide, by decide⟩
    | cons m ms =>
      obtain ⟨name, v⟩ := m
      exact ⟨_, _, _, _, by rw [Tree.tokens]; rfl, rfl, by decide, by decide⟩

theorem Tree.spaced_skipBlanks_iff (v : Tree) {cs rest : List Char} :
    Spaced v.tokens (skipBlanks cs) rest ↔ Spaced v.tokens cs rest := by
  obtain ⟨t, ts, c, cs', hv, htext, hc, -⟩ := v.exists_head
  rw [hv]
  constructor
  · exact spaced_skipBlanks
  · intro h
    obtain ⟨mid, hmid, h⟩ := (spaced_cons_iff ⟨c, cs', htext, hc⟩).mp h
    exact ⟨[], mid, by simp [Blank], by simpa using hmid, h⟩

theorem Tree.skipBlanks_eq_cons (v : Tree) {cs rest : List Char} (h : Spaced v.tokens cs rest) :
    ∃ c mid, skipBlanks cs = c :: mid ∧ c ≠ ']' := by
  obtain ⟨t, ts, c, cs', hv, htext, hc, hne⟩ := v.exists_head
  rw [hv] at h
  obtain ⟨mid, hmid, -⟩ := (spaced_cons_iff ⟨c, cs', htext, hc⟩).mp h
  exact ⟨c, cs' ++ mid, by rw [hmid, htext, List.cons_append], hne⟩

/-! ## Readers and what they read -/

section

variable {α : Type}

/-- The reader finds what a tree stands for, as long as there is room for the brackets of the
tree. -/
def Reads (room : Nat) (reader : Reader α) (R : Tree → α → Prop) : Prop :=
  ∀ v a cs rest, R v a → Spaced v.tokens cs rest → Ends rest →
    Within (v.nesting ≤ room) (reader cs) (a, rest)

/-- Whatever the reader succeeds on is the text of a tree that stands for what it finds, and there
is room for the brackets of the tree. -/
def ReadsOnly (room : Nat) (reader : Reader α) (R : Tree → α → Prop) : Prop :=
  ∀ cs a rest, reader cs = .ok (a, rest) →
    ∃ v, (v.nesting ≤ room ∧ R v a) ∧ Spaced v.tokens cs rest

end

/-! ## Lists -/

/-- What follows the opening bracket of a list. -/
def Tree.listTokens : List Tree → List Token
  | [] => [.mark ']']
  | v :: vs => v.tokens ++ itemTokens vs

theorem Tree.tokens_array (vs : List Tree) :
    (Tree.array vs).tokens = .mark '[' :: Tree.listTokens vs := by
  cases vs with
  | nil => rw [Tree.tokens, Tree.listTokens]
  | cons v vs => rw [Tree.tokens, Tree.listTokens, List.cons_append]

theorem nextItem_close {first : Bool} {cs mid : List Char} (h : skipBlanks cs = ']' :: mid) :
    nextItem first cs = .ok (.close mid) := by
  rw [nextItem, h]
  rfl

theorem nextItem_first {cs mid : List Char} {c : Char} (h : skipBlanks cs = c :: mid)
    (hc : c ≠ ']') : nextItem true cs = .ok (.enter (skipBlanks cs)) := by
  rw [nextItem, h]
  dsimp only
  rw [if_neg hc, if_pos rfl]

theorem nextItem_comma {cs mid mid' : List Char} {c : Char} (h : skipBlanks cs = ',' :: mid)
    (h' : skipBlanks mid = c :: mid') (hc : c ≠ ']') :
    nextItem false cs = .ok (.enter (skipBlanks mid)) := by
  rw [nextItem, h]
  dsimp only
  rw [if_neg (by decide), if_neg (by decide), if_pos rfl, h']
  dsimp only
  rw [if_neg hc]

/-- The three ways in which the next element of a list is found. -/
theorem nextItem_eq_ok {first : Bool} {cs : List Char} {next : Next}
    (h : nextItem first cs = .ok next) :
    (∃ mid, skipBlanks cs = ']' :: mid ∧ next = .close mid) ∨
      (first = true ∧ next = .enter (skipBlanks cs)) ∨
      (first = false ∧ ∃ mid, skipBlanks cs = ',' :: mid ∧ next = .enter (skipBlanks mid)) := by
  unfold nextItem at h
  split at h
  · exact absurd h failHere_ne_ok
  · rename_i c mid hmid
    split at h
    · rename_i hc
      cases h
      exact Or.inl ⟨mid, by rw [hmid, hc], rfl⟩
    · split at h
      · rename_i hfirst
        cases h
        exact Or.inr (Or.inl ⟨hfirst, by rw [hmid]⟩)
      · rename_i hfirst
        split at h
        · rename_i hc
          split at h
          · exact absurd h failHere_ne_ok
          · rename_i d ds hds
            split at h
            · exact absurd h failNext_ne_ok
            · cases h
              exact Or.inr (Or.inr ⟨by simpa using hfirst, mid, by rw [hmid, hc], by rw [hds]⟩)
        · exact absurd h failNext_ne_ok

section

variable {α : Type} {room : Nat} {item : Reader α} {R : Tree → α → Prop}

theorem readItems_close (fuel : Nat) {first : Bool} {cs rest : List Char}
    (h : nextItem first cs = .ok (.close rest)) :
    readItems item (fuel + 1) first cs = .ok ([], rest) := by
  rw [readItems, h, ok_bind]
  rfl

/-- An element is read, and then the rest of the list. -/
theorem readItems_enter_within {fits : Prop} {fits' : Prop} {fuel : Nat} {first : Bool}
    {cs cs' mid rest : List Char} {a : α} {as : List α} (h : nextItem first cs = .ok (.enter cs'))
    (hitem : Within fits (item cs') (a, mid))
    (hitems : Within fits' (readItems item fuel false mid) (as, rest)) :
    Within (fits ∧ fits') (readItems item (fuel + 1) first cs) (a :: as, rest) := by
  rw [readItems, h, ok_bind]
  exact hitem.bind (hitems.bind_ok rfl)

/-- The elements after the first one. -/
theorem readItems_rest_within (hitem : Reads room item R)
    {vs : List Tree} {as : List α} (hvs : List.Forall₂ R vs as) {fuel : Nat}
    (hfuel : vs.length < fuel) {cs rest : List Char} (h : Spaced (Tree.itemTokens vs) cs rest) :
    Within (∀ v ∈ vs, v.nesting ≤ room) (readItems item fuel false cs) (as, rest) := by
  induction hvs generalizing fuel cs with
  | nil =>
    obtain ⟨fuel, rfl⟩ := Nat.exists_eq_succ_of_ne_zero (Nat.ne_of_gt hfuel)
    rw [Tree.itemTokens] at h
    obtain ⟨mid, hmid, rfl⟩ := (spaced_mark (by decide)).mp h
    exact (within_ok (readItems_close fuel (nextItem_close hmid))).congr (by simp)
  | @cons v a vs as hv hvs ih =>
    obtain ⟨fuel, rfl⟩ := Nat.exists_eq_succ_of_ne_zero (Nat.ne_of_gt (Nat.zero_lt_of_lt hfuel))
    rw [Tree.itemTokens, List.cons_append] at h
    obtain ⟨mid, hmid, h⟩ := (spaced_mark (by decide)).mp h
    obtain ⟨mid', hfirst, hrest⟩ := spaced_append.mp h
    obtain ⟨c, tail, hc, hne⟩ := v.skipBlanks_eq_cons hfirst
    have hhead := hitem v a _ _ hv (v.spaced_skipBlanks_iff.mpr hfirst) (ends_of_itemTokens hrest)
    have htail := ih (Nat.lt_of_succ_lt_succ hfuel) hrest
    exact (readItems_enter_within (nextItem_comma hmid hc hne) hhead htail).congr (by simp)

theorem length_lt_of_itemTokens {vs : List Tree} {cs rest : List Char}
    (h : Spaced (Tree.itemTokens vs) cs rest) : vs.length < cs.length := by
  induction vs generalizing cs with
  | nil =>
    rw [Tree.itemTokens] at h
    obtain ⟨mid, hmid, -⟩ := (spaced_mark (by decide)).mp h
    have := length_lt_of_skipBlanks hmid
    simp only [List.length_nil]
    omega
  | cons v vs ih =>
    rw [Tree.itemTokens, List.cons_append] at h
    obtain ⟨mid, hmid, htail⟩ := (spaced_mark (by decide)).mp h
    obtain ⟨mid', hfirst, hrest⟩ := spaced_append.mp htail
    have hmid' := length_lt_of_skipBlanks hmid
    have hfirst' := hfirst.length_le
    have hrest' := ih hrest
    simp only [List.length_cons]
    omega

/-- **Lists.** The elements behind the opening bracket. -/
theorem readItems_within (hitem : Reads room item R)
    {vs : List Tree} {as : List α} (hvs : List.Forall₂ R vs as) {cs rest : List Char}
    (h : Spaced (Tree.listTokens vs) cs rest) :
    Within (∀ v ∈ vs, v.nesting ≤ room) (readItems item (cs.length + 1) true cs) (as, rest) := by
  cases hvs with
  | nil =>
    rw [Tree.listTokens] at h
    obtain ⟨mid, hmid, rfl⟩ := (spaced_mark (by decide)).mp h
    exact (within_ok (readItems_close _ (nextItem_close hmid))).congr (by simp)
  | @cons v a vs as hv hvs =>
    rw [Tree.listTokens] at h
    obtain ⟨mid, hfirst, hrest⟩ := spaced_append.mp h
    obtain ⟨c, tail, hc, hne⟩ := v.skipBlanks_eq_cons hfirst
    have hfuel : vs.length < cs.length :=
      Nat.lt_of_lt_of_le (length_lt_of_itemTokens hrest) hfirst.length_le
    have hhead := hitem v a _ _ hv (v.spaced_skipBlanks_iff.mpr hfirst) (ends_of_itemTokens hrest)
    have htail := readItems_rest_within hitem hvs hfuel hrest
    exact (readItems_enter_within (nextItem_first hc hne) hhead htail).congr (by simp)

/-- One step of reading a list: it is closed, or an element is read and then the rest. -/
theorem readItems_eq_ok {fuel : Nat} {first : Bool} {cs rest : List Char} {as : List α}
    (h : readItems item (fuel + 1) first cs = .ok (as, rest)) :
    (nextItem first cs = .ok (.close rest) ∧ as = []) ∨
      ∃ cs' a mid as', nextItem first cs = .ok (.enter cs') ∧ item cs' = .ok (a, mid) ∧
        readItems item fuel false mid = .ok (as', rest) ∧ as = a :: as' := by
  rw [readItems] at h
  obtain ⟨next, hnext, h⟩ := bind_eq_ok_iff.mp h
  cases next with
  | close mid =>
    cases h
    exact Or.inl ⟨hnext, rfl⟩
  | enter cs' =>
    obtain ⟨⟨a, mid⟩, ha, h⟩ := bind_eq_ok_iff.mp h
    obtain ⟨⟨as', rest'⟩, has, h⟩ := bind_eq_ok_iff.mp h
    cases h
    exact Or.inr ⟨cs', a, mid, as', hnext, ha, has, rfl⟩

theorem exists_items_of_readItems_rest (hitem : ReadsOnly room item R)
    {fuel : Nat} {cs rest : List Char} {as : List α}
    (h : readItems item fuel false cs = .ok (as, rest)) :
    ∃ vs, List.Forall₂ (fun v a => v.nesting ≤ room ∧ R v a) vs as ∧
      Spaced (Tree.itemTokens vs) cs rest := by
  induction fuel generalizing cs as with
  | zero => exact absurd h failHere_ne_ok
  | succ fuel ih =>
    rcases readItems_eq_ok h with ⟨hnext, rfl⟩ | ⟨cs', a, mid, as', hnext, ha, has, rfl⟩
    · rcases nextItem_eq_ok hnext with ⟨mid, hmid, he⟩ | ⟨hf, -⟩ | ⟨-, mid, -, he⟩
      · cases he
        refine ⟨[], .nil, ?_⟩
        rw [Tree.itemTokens]
        exact (spaced_mark (by decide)).mpr ⟨_, hmid, rfl⟩
      · cases hf
      · cases he
    · rcases nextItem_eq_ok hnext with ⟨mid, -, he⟩ | ⟨hf, -⟩ | ⟨-, cs'', hcs'', he⟩
      · cases he
      · cases hf
      · cases he
        obtain ⟨v, hv, hspaced⟩ := hitem _ _ _ ha
        obtain ⟨vs, hvs, hrest⟩ := ih has
        refine ⟨v :: vs, .cons hv hvs, ?_⟩
        rw [Tree.itemTokens, List.cons_append]
        refine (spaced_mark (by decide)).mpr ⟨cs'', hcs'', ?_⟩
        exact spaced_append.mpr ⟨mid, v.spaced_skipBlanks_iff.mp hspaced, hrest⟩

/-- What is read as the elements of a list is the text of trees. -/
theorem exists_items_of_readItems (hitem : ReadsOnly room item R)
    {fuel : Nat} {cs rest : List Char} {as : List α}
    (h : readItems item fuel true cs = .ok (as, rest)) :
    ∃ vs, ((∀ v ∈ vs, v.nesting ≤ room) ∧ List.Forall₂ R vs as) ∧
      Spaced (Tree.listTokens vs) cs rest := by
  simp only [← List.forall₂_and_left]
  cases fuel with
  | zero => exact absurd h failHere_ne_ok
  | succ fuel =>
    rcases readItems_eq_ok h with ⟨hnext, rfl⟩ | ⟨cs', a, mid, as', hnext, ha, has, rfl⟩
    · rcases nextItem_eq_ok hnext with ⟨mid, hmid, he⟩ | ⟨-, he⟩ | ⟨hf, -⟩
      · cases he
        refine ⟨[], .nil, ?_⟩
        rw [Tree.listTokens]
        exact (spaced_mark (by decide)).mpr ⟨_, hmid, rfl⟩
      · cases he
      · cases hf
    · rcases nextItem_eq_ok hnext with ⟨mid, -, he⟩ | ⟨-, he⟩ | ⟨hf, -⟩
      · cases he
      · cases he
        obtain ⟨v, hv, hspaced⟩ := hitem _ _ _ ha
        obtain ⟨vs, hvs, hrest⟩ := exists_items_of_readItems_rest hitem has
        refine ⟨v :: vs, .cons hv hvs, ?_⟩
        rw [Tree.listTokens]
        exact spaced_append.mpr ⟨mid, v.spaced_skipBlanks_iff.mp hspaced, hrest⟩
      · cases hf

end

/-! ## Objects -/

/-- What follows the opening brace of an object. -/
def Tree.objectTokens : List (Literal × Tree) → List Token
  | [] => [.mark '\x7d']
  | (name, v) :: ms => .string name :: .mark ':' :: v.tokens ++ memberTokens ms

theorem Tree.tokens_object (ms : List (Literal × Tree)) :
    (Tree.object ms).tokens = .mark '\x7b' :: Tree.objectTokens ms := by
  cases ms with
  | nil => rw [Tree.tokens, Tree.objectTokens]
  | cons m ms =>
    obtain ⟨name, v⟩ := m
    rw [Tree.tokens, Tree.objectTokens]
    simp only [List.cons_append]

/-- The values of the members with the given name, in order. -/
def named (name : String) (ms : List (Literal × Tree)) : List Tree :=
  (ms.filter fun m => m.1.value? = some name).map Prod.snd

section

variable {pre : List (Literal × Tree)} {k : Literal} {name : String} {v : Tree}

theorem named_concat (hk : k.value? = some name) :
    named name (pre ++ [(k, v)]) = named name pre ++ [v] := by
  simp [named, hk]

theorem named_concat_of_ne (hk : k.value? = some name) {name' : String} (h : name ≠ name') :
    named name' (pre ++ [(k, v)]) = named name' pre := by
  simp [named, hk, h]

end

theorem nextMember_close {first : Bool} {cs mid : List Char} (h : skipBlanks cs = '\x7d' :: mid) :
    nextMember first cs = .ok (.close mid) := by
  rw [nextMember, h]
  rfl

theorem nextMember_first {cs mid : List Char} (h : skipBlanks cs = '"' :: mid) :
    nextMember true cs = .ok (.enter mid) := by
  rw [nextMember, h]
  rfl

theorem nextMember_comma {cs mid mid' : List Char} (h : skipBlanks cs = ',' :: mid)
    (h' : skipBlanks mid = '"' :: mid') : nextMember false cs = .ok (.enter mid') := by
  rw [nextMember, h]
  dsimp only
  rw [if_neg (by decide), if_neg (by decide), if_pos rfl, h']
  rfl

/-- The three ways in which the next member of an object is found. -/
theorem nextMember_eq_ok {first : Bool} {cs : List Char} {next : Next}
    (h : nextMember first cs = .ok next) :
    (∃ mid, skipBlanks cs = '\x7d' :: mid ∧ next = .close mid) ∨
      (first = true ∧ ∃ mid, skipBlanks cs = '"' :: mid ∧ next = .enter mid) ∨
      (first = false ∧ ∃ mid mid', skipBlanks cs = ',' :: mid ∧ skipBlanks mid = '"' :: mid' ∧
        next = .enter mid') := by
  unfold nextMember at h
  split at h
  · exact absurd h failHere_ne_ok
  · rename_i c mid hmid
    split at h
    · rename_i hc
      cases h
      exact Or.inl ⟨mid, by rw [hmid, hc], rfl⟩
    · split at h
      · rename_i hfirst
        split at h
        · rename_i hc
          cases h
          exact Or.inr (Or.inl ⟨hfirst, mid, by rw [hmid, hc], rfl⟩)
        · exact absurd h failNext_ne_ok
      · rename_i hfirst
        split at h
        · rename_i hc
          split at h
          · exact absurd h failHere_ne_ok
          · rename_i d ds hds
            split at h
            · rename_i hd
              cases h
              exact Or.inr (Or.inr
                ⟨by simpa using hfirst, mid, ds, by rw [hmid, hc], by rw [hds, hd], rfl⟩)
            · split at h
              · exact absurd h failNext_ne_ok
              · exact absurd h failNext_ne_ok
        · exact absurd h failNext_ne_ok

theorem readColon_eq_ok_iff {cs mid : List Char} :
    readColon cs = .ok mid ↔ skipBlanks cs = ':' :: mid := by
  constructor
  · intro h
    unfold readColon at h
    split at h
    · exact absurd h failHere_ne_ok
    · rename_i c tail hc
      split at h
      · rename_i hcolon
        cases h
        rw [hc, hcolon]
      · exact absurd h failNext_ne_ok
  · intro h
    rw [readColon, h]
    rfl

section

variable {α σ : Type} {room : Nat} {reader : Reader α} {R : Tree → α → Prop}
  {f : α × List Char → Except Failure (σ × List Char)} {next : σ} {cs rest : List Char}

/-- The value of a member is read behind the colon. -/
theorem readColon_within (hreader : Reads room reader R) {v : Tree} {a : α} (hv : R v a)
    (hcs : Spaced (.mark ':' :: v.tokens) cs rest) (hrest : Ends rest)
    (hf : f (a, rest) = .ok (next, rest)) :
    Within (v.nesting ≤ room) (readColon cs >>= fun mid => reader mid >>= f) (next, rest) := by
  obtain ⟨mid, hmid, hspaced⟩ := (spaced_mark (by decide)).mp hcs
  rw [readColon_eq_ok_iff.mpr hmid, ok_bind]
  exact (hreader v a mid rest hv hspaced hrest).bind_ok hf

/-- What is read behind a colon is the value of a member, from which the next state is made. -/
theorem exists_value_of_readColon (hreader : ReadsOnly room reader R)
    (h : (readColon cs >>= fun mid => reader mid >>= f) = .ok (next, rest)) {put : α → σ}
    (hf : ∀ a left, f (a, left) = .ok (put a, left)) :
    ∃ v a, (v.nesting ≤ room ∧ R v a) ∧ next = put a ∧
      Spaced (.mark ':' :: v.tokens) cs rest := by
  obtain ⟨mid, hmid, h⟩ := bind_eq_ok_iff.mp h
  obtain ⟨⟨a, left⟩, ha, h⟩ := bind_eq_ok_iff.mp h
  rw [hf] at h
  cases h
  obtain ⟨v, hv, hspaced⟩ := hreader mid a rest ha
  exact ⟨v, a, hv, rfl, (spaced_mark (by decide)).mpr ⟨mid, readColon_eq_ok_iff.mp hmid, hspaced⟩⟩

end

theorem length_lt_of_memberTokens {ms : List (Literal × Tree)} {cs rest : List Char}
    (h : Spaced (Tree.memberTokens ms) cs rest) : ms.length < cs.length := by
  induction ms generalizing cs with
  | nil =>
    rw [Tree.memberTokens] at h
    obtain ⟨mid, hmid, -⟩ := (spaced_mark (by decide)).mp h
    have := length_lt_of_skipBlanks hmid
    simp only [List.length_nil]
    omega
  | cons m ms ih =>
    obtain ⟨name, v⟩ := m
    rw [Tree.memberTokens] at h
    obtain ⟨mid, hmid, htail⟩ := (spaced_mark (by decide)).mp h
    obtain ⟨mid', hfirst, hrest⟩ := spaced_append.mp htail
    have hmid' := length_lt_of_skipBlanks hmid
    have hfirst' := hfirst.length_le
    have hrest' := ih hrest
    simp only [List.length_cons]
    omega

section

variable {σ : Type} {member : σ → String → Reader σ}

/-- Reading the members one after the other leads from the first state to the second, as long as
there is room for their values. -/
inductive Takes (room : Nat) (member : σ → String → Reader σ) :
    σ → List (Literal × Tree) → σ → Prop where
  | nil {state : σ} : Takes room member state [] state
  | cons {state next last : σ} {k : Literal} {v : Tree} {ms : List (Literal × Tree)} {name : String}
      (hname : k.value? = some name)
      (hmember : ∀ {cs rest}, Spaced (.mark ':' :: v.tokens) cs rest → Ends rest →
        Within (v.nesting ≤ room) (member state name cs) (next, rest))
      (htail : Takes room member next ms last) : Takes room member state ((k, v) :: ms) last

/-- One more member behind the others. -/
theorem Takes.concat {room : Nat} {state next last : σ} {ms : List (Literal × Tree)}
    {k : Literal} {v : Tree} {name : String} (h : Takes room member state ms next)
    (hname : k.value? = some name)
    (hmember : ∀ {cs rest}, Spaced (.mark ':' :: v.tokens) cs rest → Ends rest →
      Within (v.nesting ≤ room) (member next name cs) (last, rest)) :
    Takes room member state (ms ++ [(k, v)]) last := by
  induction h with
  | nil => exact .cons hname hmember .nil
  | cons hname' hmember' _ ih => exact .cons hname' hmember' (ih hmember)

theorem readMembers_close (fuel : Nat) {first : Bool} {state : σ} {cs rest : List Char}
    (h : nextMember first cs = .ok (.close rest)) :
    readMembers member (fuel + 1) first state cs = .ok (state, rest) := by
  rw [readMembers, h, ok_bind]
  rfl

/-- A member is read, and then the rest of the object. -/
theorem readMembers_enter_within {fits fits' : Prop} {fuel : Nat} {first : Bool}
    {state next last : σ} {k : Literal} {name : String} {cs mid mid' rest : List Char}
    (hnext : nextMember first cs = .ok (.enter (k.text ++ '"' :: mid)))
    (hname : k.value? = some name) (hmember : Within fits (member state name mid) (next, mid'))
    (hmembers : Within fits' (readMembers member fuel false next mid') (last, rest)) :
    Within (fits ∧ fits') (readMembers member (fuel + 1) first state cs) (last, rest) := by
  have hstring : readString (k.text ++ '"' :: mid) = .ok (name, mid) :=
    readString_eq_ok_iff.mpr ⟨k, hname, rfl⟩
  rw [readMembers, hnext, ok_bind]
  dsimp only
  rw [hstring, ok_bind]
  exact hmember.bind hmembers

variable {room : Nat}

/-- The members after the first one. -/
theorem readMembers_rest_within {state last : σ} {ms : List (Literal × Tree)}
    (hms : Takes room member state ms last) {fuel : Nat} (hfuel : ms.length < fuel)
    {cs rest : List Char} (h : Spaced (Tree.memberTokens ms) cs rest) :
    Within (∀ m ∈ ms, m.2.nesting ≤ room) (readMembers member fuel false state cs)
      (last, rest) := by
  induction hms generalizing fuel cs with
  | nil =>
    obtain ⟨fuel, rfl⟩ := Nat.exists_eq_succ_of_ne_zero (Nat.ne_of_gt hfuel)
    rw [Tree.memberTokens] at h
    obtain ⟨mid, hmid, rfl⟩ := (spaced_mark (by decide)).mp h
    exact (within_ok (readMembers_close fuel (nextMember_close hmid))).congr (by simp)
  | @cons state next last k v ms name hname hmember htail ih =>
    obtain ⟨fuel, rfl⟩ := Nat.exists_eq_succ_of_ne_zero (Nat.ne_of_gt (Nat.zero_lt_of_lt hfuel))
    rw [Tree.memberTokens] at h
    obtain ⟨mid, hmid, h⟩ := (spaced_mark (by decide)).mp h
    obtain ⟨mid', hmid', h⟩ := spaced_string.mp h
    obtain ⟨mid'', hvalue, hrest⟩ := spaced_append.mp h
    have hhead := hmember hvalue (ends_of_memberTokens hrest)
    have htail := ih (Nat.lt_of_succ_lt_succ hfuel) hrest
    exact (readMembers_enter_within (nextMember_comma hmid hmid') hname hhead htail).congr (by simp)

/-- **Objects.** The members behind the opening brace. -/
theorem readMembers_within {state last : σ} {ms : List (Literal × Tree)}
    (hms : Takes room member state ms last) {cs rest : List Char}
    (h : Spaced (Tree.objectTokens ms) cs rest) :
    Within (∀ m ∈ ms, m.2.nesting ≤ room) (readMembers member (cs.length + 1) true state cs)
      (last, rest) := by
  cases hms with
  | nil =>
    rw [Tree.objectTokens] at h
    obtain ⟨mid, hmid, rfl⟩ := (spaced_mark (by decide)).mp h
    exact (within_ok (readMembers_close _ (nextMember_close hmid))).congr (by simp)
  | @cons _ next _ k v ms name hname hmember htail =>
    rw [Tree.objectTokens] at h
    obtain ⟨mid, hmid, h⟩ := spaced_string.mp h
    obtain ⟨mid', hvalue, hrest⟩ := spaced_append.mp h
    have hfuel : ms.length < cs.length := by
      have hms := length_lt_of_memberTokens hrest
      have hvalue' := hvalue.length_le
      have hmid' := length_lt_of_skipBlanks hmid
      simp only [List.length_append, List.length_cons] at hmid'
      omega
    have hhead := hmember hvalue (ends_of_memberTokens hrest)
    have htail := readMembers_rest_within htail hfuel hrest
    exact (readMembers_enter_within (nextMember_first hmid) hname hhead htail).congr (by simp)

/-- One step of reading an object: it is closed, or a member is read and then the rest. -/
theorem readMembers_eq_ok {fuel : Nat} {first : Bool} {state last : σ} {cs rest : List Char}
    (h : readMembers member (fuel + 1) first state cs = .ok (last, rest)) :
    (nextMember first cs = .ok (.close rest) ∧ last = state) ∨
      ∃ (k : Literal) (name : String) (mid : List Char) (next : σ) (mid' : List Char),
        nextMember first cs = .ok (.enter (k.text ++ '"' :: mid)) ∧ k.value? = some name ∧
        member state name mid = .ok (next, mid') ∧
        readMembers member fuel false next mid' = .ok (last, rest) := by
  rw [readMembers] at h
  obtain ⟨next, hnext, h⟩ := bind_eq_ok_iff.mp h
  cases next with
  | close mid =>
    cases h
    exact Or.inl ⟨hnext, rfl⟩
  | enter cs' =>
    obtain ⟨⟨name, mid⟩, hname, hrest⟩ := bind_eq_ok_iff.mp h
    obtain ⟨⟨next, mid'⟩, hmember, hmembers⟩ := bind_eq_ok_iff.mp hrest
    obtain ⟨k, hk, rfl⟩ := readString_eq_ok_iff.mp hname
    exact Or.inr ⟨k, name, mid, next, mid', hnext, hk, hmember, hmembers⟩

/-- Each member that is read is the text of a member whose value fits, and keeps an invariant of the
members read so far and the state they lead to. -/
def KeepsWith (fits : Tree → Prop) (member : σ → String → Reader σ)
    (Inv : List (Literal × Tree) → σ → Prop) : Prop :=
  ∀ pre state k name cs next rest, Inv pre state → Literal.value? k = some name →
    member state name cs = .ok (next, rest) →
    ∃ v, (fits v ∧ Inv (pre ++ [(k, v)]) next) ∧ Spaced (.mark ':' :: v.tokens) cs rest

/-- Each member that is read is the text of a member, and keeps an invariant of the members read so
far and the state they lead to; there is room for its brackets. -/
def Keeps (room : Nat) (member : σ → String → Reader σ) (Inv : List (Literal × Tree) → σ → Prop) :
    Prop :=
  ∀ pre state k name cs next rest, Inv pre state → Literal.value? k = some name →
    member state name cs = .ok (next, rest) →
    ∃ v, (v.nesting ≤ room ∧ Inv (pre ++ [(k, v)]) next) ∧ Spaced (.mark ':' :: v.tokens) cs rest

variable {fits : Tree → Prop} {Inv : List (Literal × Tree) → σ → Prop}

theorem exists_members_of_keepsWith_rest (hmember : KeepsWith fits member Inv)
    {fuel : Nat} {pre : List (Literal × Tree)} {state last : σ} {cs rest : List Char}
    (hinv : Inv pre state) (h : readMembers member fuel false state cs = .ok (last, rest)) :
    ∃ ms, ((∀ m ∈ ms, fits m.2) ∧ Inv (pre ++ ms) last) ∧
      Spaced (Tree.memberTokens ms) cs rest := by
  induction fuel generalizing pre state cs with
  | zero => exact absurd h failHere_ne_ok
  | succ fuel ih =>
    rcases readMembers_eq_ok h with ⟨hnext, rfl⟩ | ⟨k, name, mid, next, mid', hnext, hk, hm, hms⟩
    · rcases nextMember_eq_ok hnext with ⟨mid, hmid, he⟩ | ⟨hf, -⟩ | ⟨-, mid, mid', -, -, he⟩
      · cases he
        refine ⟨[], ⟨by simp, by rwa [List.append_nil]⟩, ?_⟩
        rw [Tree.memberTokens]
        exact (spaced_mark (by decide)).mpr ⟨_, hmid, rfl⟩
      · cases hf
      · cases he
    · rcases nextMember_eq_ok hnext with ⟨mid, -, he⟩ | ⟨hf, -⟩ | ⟨-, cs', cs'', hcs', hcs'', he⟩
      · cases he
      · cases hf
      · cases he
        obtain ⟨v, ⟨hfits, hv⟩, hspaced⟩ := hmember _ _ _ _ _ _ _ hinv hk hm
        obtain ⟨ms, ⟨hfits', hinv'⟩, hrest⟩ := ih hv hms
        refine ⟨(k, v) :: ms, ⟨List.forall_mem_cons.mpr ⟨hfits, hfits'⟩, by simpa using hinv'⟩, ?_⟩
        rw [Tree.memberTokens]
        refine (spaced_mark (by decide)).mpr ⟨cs', hcs', spaced_string.mpr ⟨mid, hcs'', ?_⟩⟩
        exact spaced_append.mpr ⟨mid', hspaced, hrest⟩

/-- What is read as the members of an object is the text of members whose values fit, and an
invariant of members read and state reached holds of them. -/
theorem exists_members_of_keepsWith (hmember : KeepsWith fits member Inv)
    {fuel : Nat} {state last : σ} {cs rest : List Char}
    (hinv : Inv [] state) (h : readMembers member fuel true state cs = .ok (last, rest)) :
    ∃ ms, ((∀ m ∈ ms, fits m.2) ∧ Inv ms last) ∧
      Spaced (Tree.objectTokens ms) cs rest := by
  cases fuel with
  | zero => exact absurd h failHere_ne_ok
  | succ fuel =>
    rcases readMembers_eq_ok h with ⟨hnext, rfl⟩ | ⟨k, name, mid, next, mid', hnext, hk, hm, hms⟩
    · rcases nextMember_eq_ok hnext with ⟨mid, hmid, he⟩ | ⟨-, mid, -, he⟩ | ⟨hf, -⟩
      · cases he
        refine ⟨[], ⟨by simp, hinv⟩, ?_⟩
        rw [Tree.objectTokens]
        exact (spaced_mark (by decide)).mpr ⟨_, hmid, rfl⟩
      · cases he
      · cases hf
    · rcases nextMember_eq_ok hnext with ⟨mid, -, he⟩ | ⟨-, cs', hcs', he⟩ | ⟨hf, -⟩
      · cases he
      · cases he
        obtain ⟨v, ⟨hfits, hv⟩, hspaced⟩ := hmember _ _ _ _ _ _ _ hinv hk hm
        obtain ⟨ms, ⟨hfits', hinv'⟩, hrest⟩ := exists_members_of_keepsWith_rest hmember hv hms
        refine ⟨(k, v) :: ms, ⟨List.forall_mem_cons.mpr ⟨hfits, hfits'⟩, by simpa using hinv'⟩, ?_⟩
        rw [Tree.objectTokens]
        exact spaced_string.mpr ⟨mid, hcs', spaced_append.mpr ⟨mid', hspaced, hrest⟩⟩
      · cases hf

/-- What is read as the members of an object is the text of members, and an invariant of members
read and state reached holds of them. -/
theorem exists_members_of_readMembers (hmember : Keeps room member Inv)
    {fuel : Nat} {state last : σ} {cs rest : List Char}
    (hinv : Inv [] state) (h : readMembers member fuel true state cs = .ok (last, rest)) :
    ∃ ms, ((∀ m ∈ ms, m.2.nesting ≤ room) ∧ Inv ms last) ∧
      Spaced (Tree.objectTokens ms) cs rest :=
  exists_members_of_keepsWith hmember hinv h

end

end SyntaxOutline.Json
