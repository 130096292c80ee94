import Mathlib.Data.List.Forall2
import SyntaxOutline.Proofs.Json.Outcome
import SyntaxOutline.Walk.Tree

/-!
# A walk by the listing of its tree

The nodes of a source tree are listed in pre-order with their depths. Whether a walk succeeds can be
told from this listing alone: each node is admitted by its depth, its place and its text, or refused
for one of them, and the first node that is refused ends the walk.

* `SourceTree.listing` : the nodes in the order in which they are entered.
* `WalkOptions.Admits`, `WalkOptions.Refuses` : the three checks of one node.
* `SourceTree.Mirrors` : the outline that a walk makes.
* `SourceTree.walk_listing` : the outcome of every walk.
-/

namespace SyntaxOutline

namespace SourceTree

mutual

/-- A node with its depth, then the listings of its children. -/
def listing (depth : Nat) : SourceTree → List (Nat × Label)
  | .leaf label => [(depth, label)]
  | .container label children => (depth, label) :: listings (depth + 1) children

/-- The listings of several trees at the same depth, one behind the other. -/
def listings (depth : Nat) : List SourceTree → List (Nat × Label)
  | [] => []
  | t :: ts => listing depth t ++ listings depth ts

end

/-- The outline has the shape of the tree, its contents are the texts with line endings marked, and
it has the kinds of the nodes if they are recorded. -/
inductive Mirrors (includeKinds : Bool) : SourceTree → Outline → Prop where
  | leaf {label : Label} {s : String} (text : label.text = .ok s) :
      Mirrors includeKinds (.leaf label)
        ⟨LineEnding.mark s, label.span, if includeKinds then label.kind else none, []⟩
  | container {label : Label} {s : String} {children : List SourceTree} {outlines : List Outline}
      (text : label.text = .ok s) (below : List.Forall₂ (Mirrors includeKinds) children outlines) :
      Mirrors includeKinds (.container label children)
        ⟨LineEnding.mark s, label.span, if includeKinds then label.kind else none, outlines⟩

theorem Mirrors.span_eq {includeKinds : Bool} {t : SourceTree} {n : Outline}
    (h : Mirrors includeKinds t n) : n.span = t.label.span := by
  cases h with
  | leaf _ => rfl
  | container _ _ => rfl

theorem Mirrors.exists_text {includeKinds : Bool} {t : SourceTree} {n : Outline}
    (h : Mirrors includeKinds t n) :
    ∃ s, t.label.text = .ok s ∧ n.content = LineEnding.mark s := by
  cases h with
  | leaf text => exact ⟨_, text, rfl⟩
  | container text _ => exact ⟨_, text, rfl⟩

end SourceTree

namespace WalkOptions

/-- The depth lies within the limit. -/
def DepthFits (o : WalkOptions) (depth : Nat) : Prop :=
  ∀ max, o.limits.maxDepth = some max → depth ≤ max.toNat

/-- The number of nodes lies within the limit. -/
def CountFits (o : WalkOptions) (count : Nat) : Prop :=
  ∀ max, o.limits.maxNodes = some max → count ≤ max.toNat

theorem DepthFits.mono {o : WalkOptions} {depth depth' : Nat} (h : o.DepthFits depth')
    (hle : depth ≤ depth') : o.DepthFits depth :=
  fun max hmax => Nat.le_trans hle (h max hmax)

theorem CountFits.mono {o : WalkOptions} {count count' : Nat} (h : o.CountFits count')
    (hle : count ≤ count') : o.CountFits count :=
  fun max hmax => Nat.le_trans hle (h max hmax)

/-- The node at place `i` of a listing, counted from zero, can be entered. -/
structure Admits (o : WalkOptions) (i : Nat) (x : Nat × Label) : Prop where
  depth : o.DepthFits x.1
  nodes : o.CountFits (i + 1)
  text : ∃ s, x.2.text = .ok s

/-- Why the node at place `i` of a listing cannot be entered: the first of the three checks that
fails. -/
inductive Refuses (o : WalkOptions) (i : Nat) (x : Nat × Label) : WalkFailure → Prop where
  | depth {max : UInt64} (limit : o.limits.maxDepth = some max) (passed : max.toNat < x.1) :
      Refuses o i x (.limitExceeded .depth max x.2.span)
  | nodes {max : UInt64} (fits : o.DepthFits x.1) (limit : o.limits.maxNodes = some max)
      (passed : max.toNat < i + 1) : Refuses o i x (.limitExceeded .nodes max x.2.span)
  | text {failure : WalkFailure} (fits : o.DepthFits x.1) (fits' : o.CountFits (i + 1))
      (fails : x.2.text = .error failure) : Refuses o i x failure

/-! ## One node -/

variable {o : WalkOptions} {i : Nat} {x : Nat × Label}

theorem allowsDepth_iff {depth : Nat} : o.limits.allowsDepth depth = true ↔ o.DepthFits depth := by
  unfold Limits.allowsDepth DepthFits
  cases o.limits.maxDepth <;> simp

theorem allowsCount_iff {count : Nat} : o.limits.allowsCount count = true ↔ o.CountFits count := by
  unfold Limits.allowsCount CountFits
  cases o.limits.maxNodes <;> simp

theorem not_depthFits_iff {depth : Nat} :
    ¬ o.DepthFits depth ↔ ∃ max, o.limits.maxDepth = some max ∧ max.toNat < depth := by
  simp [DepthFits]

theorem not_countFits_iff {count : Nat} :
    ¬ o.CountFits count ↔ ∃ max, o.limits.maxNodes = some max ∧ max.toNat < count := by
  simp [CountFits]

theorem admits_or_refuses (o : WalkOptions) (i : Nat) (x : Nat × Label) :
    o.Admits i x ∨ ∃ failure, o.Refuses i x failure := by
  by_cases hdepth : o.DepthFits x.1
  · by_cases hnodes : o.CountFits (i + 1)
    · cases htext : x.2.text with
      | ok s => exact Or.inl ⟨hdepth, hnodes, s, htext⟩
      | error failure => exact Or.inr ⟨failure, .text hdepth hnodes htext⟩
    · obtain ⟨max, limit, passed⟩ := not_countFits_iff.mp hnodes
      exact Or.inr ⟨_, .nodes hdepth limit passed⟩
  · obtain ⟨max, limit, passed⟩ := not_depthFits_iff.mp hdepth
    exact Or.inr ⟨_, .depth limit passed⟩

theorem not_admits_iff : ¬ o.Admits i x ↔ ∃ failure, o.Refuses i x failure := by
  constructor
  · intro h
    exact (o.admits_or_refuses i x).resolve_left h
  · rintro ⟨failure, h⟩ ⟨hdepth, hnodes, s, hs⟩
    cases h with
    | depth limit passed => exact absurd (hdepth _ limit) (Nat.not_le_of_lt passed)
    | nodes _ limit passed => exact absurd (hnodes _ limit) (Nat.not_le_of_lt passed)
    | text _ _ fails =>
      rw [hs] at fails
      cases fails

/-- A node that is admitted is entered. -/
theorem Admits.enter {s : String} (h : o.Admits i x) (hs : x.2.text = .ok s) :
    o.enter x.1 (i + 1) x.2 =
      .ok ⟨LineEnding.mark s, x.2.span, if o.includeKinds then x.2.kind else none, []⟩ := by
  rw [WalkOptions.enter, allowsDepth_iff.mpr h.depth, allowsCount_iff.mpr h.nodes]
  dsimp only
  rw [hs]
  rfl

/-- A node that is refused ends the walk with the reason. -/
theorem Refuses.enter {failure : WalkFailure} (h : o.Refuses i x failure) :
    o.enter x.1 (i + 1) x.2 = .error failure := by
  cases h with
  | depth limit passed =>
    have hdepth : o.limits.allowsDepth x.1 = false := by
      rw [← Bool.not_eq_true, allowsDepth_iff, not_depthFits_iff]
      exact ⟨_, limit, passed⟩
    rw [WalkOptions.enter, hdepth, limit]
    rfl
  | nodes fits limit passed =>
    have hcount : o.limits.allowsCount (i + 1) = false := by
      rw [← Bool.not_eq_true, allowsCount_iff, not_countFits_iff]
      exact ⟨_, limit, passed⟩
    rw [WalkOptions.enter, allowsDepth_iff.mpr fits, hcount, limit]
    rfl
  | text fits fits' fails =>
    rw [WalkOptions.enter, allowsDepth_iff.mpr fits, allowsCount_iff.mpr fits']
    dsimp only
    rw [fails]
    rfl

/-! ## All nodes -/

/-- Enters the nodes of a listing, the first of them at place `i`. -/
def scan (o : WalkOptions) : Nat → List (Nat × Label) → Except WalkFailure Unit
  | _, [] => .ok ()
  | i, x :: xs => do
    let _ ← o.enter x.1 (i + 1) x.2
    scan o (i + 1) xs

theorem scan_append (o : WalkOptions) (i : Nat) (xs ys : List (Nat × Label)) :
    o.scan i (xs ++ ys) = o.scan i xs >>= fun _ => o.scan (i + xs.length) ys := by
  induction xs generalizing i with
  | nil => rfl
  | cons x xs ih =>
    rw [List.cons_append, scan, scan]
    cases o.enter x.1 (i + 1) x.2 with
    | error failure => rfl
    | ok node =>
      rw [ok_bind, ok_bind, ih, List.length_cons, Nat.add_assoc, Nat.add_comm 1]

theorem scan_eq_ok {xs : List (Nat × Label)}
    (h : ∀ j x, xs[j]? = some x → o.Admits (i + j) x) : o.scan i xs = .ok () := by
  induction xs generalizing i with
  | nil => rfl
  | cons x xs ih =>
    have hx : o.Admits i x := h 0 x rfl
    obtain ⟨s, hs⟩ := hx.text
    rw [scan, hx.enter hs, ok_bind]
    apply ih
    intro j y hy
    rw [Nat.add_assoc, Nat.add_comm 1]
    exact h (j + 1) y hy

theorem admits_of_scan {xs : List (Nat × Label)} (h : o.scan i xs = .ok ()) {j : Nat}
    (hj : xs[j]? = some x) : o.Admits (i + j) x := by
  induction xs generalizing i j with
  | nil => cases hj
  | cons y xs ih =>
    rcases o.admits_or_refuses i y with hy | ⟨failure, hy⟩
    · obtain ⟨s, hs⟩ := hy.text
      rw [scan, hy.enter hs, ok_bind] at h
      cases j with
      | zero =>
        cases hj
        exact hy
      | succ j =>
        have hx := ih h hj
        rwa [Nat.add_assoc, Nat.add_comm 1] at hx
    · rw [scan, hy.enter] at h
      cases h

theorem scan_eq_error {xs : List (Nat × Label)} {j : Nat} (hj : xs[j]? = some x)
    {failure : WalkFailure} (hx : o.Refuses (i + j) x failure)
    (h : ∀ k y, k < j → xs[k]? = some y → o.Admits (i + k) y) : o.scan i xs = .error failure := by
  induction xs generalizing i j with
  | nil => cases hj
  | cons y xs ih =>
    cases j with
    | zero =>
      cases hj
      have hrefuses : o.Refuses i x failure := hx
      rw [scan, hrefuses.enter]
      rfl
    | succ j =>
      have hy : o.Admits i y := h 0 y (Nat.succ_pos j) rfl
      obtain ⟨s, hs⟩ := hy.text
      rw [scan, hy.enter hs, ok_bind]
      apply ih hj
      · rwa [Nat.add_assoc, Nat.add_comm 1]
      · intro k z hk hz
        rw [Nat.add_assoc, Nat.add_comm 1]
        exact h (k + 1) z (Nat.succ_lt_succ hk) hz

end WalkOptions

/-! ## Walks -/

section

variable {α β : Type}

/-- The result is one with the property if the scan succeeds, and the failure of the scan
otherwise. -/
def Follows (scan : Except WalkFailure Unit) (result : Except WalkFailure α) (P : α → Prop) :
    Prop :=
  (scan = .ok () → ∃ a, result = .ok a ∧ P a) ∧
    ∀ failure, scan = .error failure → result = .error failure

theorem follows_ok {result : Except WalkFailure α} {P : α → Prop} {a : α} (h : result = .ok a)
    (ha : P a) : Follows (.ok ()) result P :=
  ⟨fun _ => ⟨a, h, ha⟩, fun _ he => nomatch he⟩

theorem follows_error {failure : WalkFailure} {result : Except WalkFailure α} {P : α → Prop}
    (h : result = .error failure) : Follows (.error failure) result P := by
  constructor
  · intro he
    cases he
  · intro _ he
    cases he
    exact h

theorem Follows.bind {scan scan' : Except WalkFailure Unit} {result : Except WalkFailure α}
    {f : α → Except WalkFailure β} {P : α → Prop} {Q : β → Prop} (h : Follows scan result P)
    (h' : ∀ a, P a → Follows scan' (f a) Q) :
    Follows (scan >>= fun _ => scan') (result >>= f) Q := by
  cases scan with
  | error failure =>
    rw [h.2 failure rfl]
    exact follows_error rfl
  | ok u =>
    obtain ⟨a, ha, hP⟩ := h.1 rfl
    rw [ha]
    exact h' a hP

/-- A step behind the scan that always succeeds. -/
theorem Follows.bind_ok {scan : Except WalkFailure Unit} {result : Except WalkFailure α}
    {f : α → Except WalkFailure β} {P : α → Prop} {Q : β → Prop} (h : Follows scan result P)
    (h' : ∀ a, P a → ∃ b, f a = .ok b ∧ Q b) : Follows scan (result >>= f) Q := by
  cases scan with
  | error failure =>
    rw [h.2 failure rfl]
    exact follows_error rfl
  | ok u =>
    obtain ⟨a, ha, hP⟩ := h.1 rfl
    obtain ⟨b, hb, hQ⟩ := h' a hP
    rw [ha, ok_bind]
    exact follows_ok hb hQ

/-- A node is entered, and then the walk goes on. -/
theorem follows_enter {o : WalkOptions} {i : Nat} {x : Nat × Label}
    {scan : Except WalkFailure Unit} {f : Outline → Except WalkFailure α} {P : α → Prop}
    (h : ∀ s, x.2.text = .ok s → Follows scan
      (f ⟨LineEnding.mark s, x.2.span, if o.includeKinds then x.2.kind else none, []⟩) P) :
    Follows (o.enter x.1 (i + 1) x.2 >>= fun _ => scan) (o.enter x.1 (i + 1) x.2 >>= f) P := by
  rcases o.admits_or_refuses i x with hx | ⟨failure, hx⟩
  · obtain ⟨s, hs⟩ := hx.text
    rw [hx.enter hs]
    exact h s hs
  · rw [hx.enter]
    exact follows_error rfl

end

namespace SourceTree

mutual

/-- A walk of a tree follows the scan of its listing, and counts the nodes of the listing. -/
theorem walkFrom_follows (o : WalkOptions) (depth count : Nat) : ∀ t : SourceTree,
    Follows (o.scan count (t.listing depth)) (t.walkFrom o depth count)
      fun r => Mirrors o.includeKinds t r.1 ∧ r.2 = count + (t.listing depth).length
  | .leaf label => by
    rw [listing, walkFrom]
    refine follows_enter (x := (depth, label)) fun s hs => ?_
    exact follows_ok rfl ⟨.leaf hs, rfl⟩
  | .container label children => by
    rw [listing, walkFrom]
    refine follows_enter (x := (depth, label)) fun s hs => ?_
    refine (walkAll_follows o (depth + 1) (count + 1) children).bind_ok ?_
    rintro ⟨outlines, count'⟩ ⟨houtlines, hcount⟩
    refine ⟨_, rfl, .container hs houtlines, ?_⟩
    dsimp only at hcount ⊢
    rw [hcount, List.length_cons]
    omega

theorem walkAll_follows (o : WalkOptions) (depth count : Nat) : ∀ ts : List SourceTree,
    Follows (o.scan count (listings depth ts)) (walkAll o depth count ts)
      fun r => List.Forall₂ (Mirrors o.includeKinds) ts r.1 ∧
        r.2 = count + (listings depth ts).length
  | [] => by
    rw [listings, walkAll]
    exact follows_ok rfl ⟨.nil, rfl⟩
  | t :: ts => by
    rw [listings, walkAll, WalkOptions.scan_append]
    refine (walkFrom_follows o depth count t).bind ?_
    rintro ⟨outline, count'⟩ ⟨houtline, hcount⟩
    dsimp only at hcount ⊢
    rw [← hcount]
    refine (walkAll_follows o depth count' ts).bind_ok ?_
    rintro ⟨outlines, count''⟩ ⟨houtlines, hcount'⟩
    refine ⟨_, rfl, .cons houtline houtlines, ?_⟩
    dsimp only at hcount' ⊢
    rw [hcount', hcount, List.length_append]
    omega

end

theorem walk_follows (o : WalkOptions) (t : SourceTree) :
    Follows (o.scan 0 (t.listing 0)) (t.walk o) (Mirrors o.includeKinds t) := by
  obtain ⟨hok, herror⟩ := walkFrom_follows o 0 0 t
  refine ⟨fun h => ?_, fun failure h => ?_⟩
  · obtain ⟨⟨outline, count⟩, hwalk, houtline, -⟩ := hok h
    exact ⟨outline, by rw [walk, hwalk]; rfl, houtline⟩
  · rw [walk, herror failure h]
    rfl

theorem scan_of_walk {o : WalkOptions} {t : SourceTree} {n : Outline} (h : t.walk o = .ok n) :
    o.scan 0 (t.listing 0) = .ok () := by
  cases hscan : o.scan 0 (t.listing 0) with
  | ok u => rfl
  | error failure =>
    rw [(walk_follows o t).2 failure hscan] at h
    cases h

/-! ## Walks without limits -/

theorem depthFits_default {includeKinds : Bool} (depth : Nat) :
    WalkOptions.DepthFits ⟨{}, includeKinds⟩ depth := by
  intro max hmax
  cases hmax

theorem countFits_default {includeKinds : Bool} (count : Nat) :
    WalkOptions.CountFits ⟨{}, includeKinds⟩ count := by
  intro max hmax
  cases hmax

theorem exists_outline_iff {t : SourceTree} :
    (∃ n, t.outline = .ok n) ↔ ∀ label ∈ (t.listing 0).map Prod.snd, ∃ s, label.text = .ok s := by
  rw [List.forall_mem_map]
  constructor
  · rintro ⟨n, h⟩ x hx
    obtain ⟨i, hi⟩ := List.mem_iff_getElem?.mp hx
    exact (WalkOptions.admits_of_scan (scan_of_walk h) hi).text
  · intro h
    have hscan : WalkOptions.scan {} 0 (t.listing 0) = .ok () := by
      apply WalkOptions.scan_eq_ok
      intro i x hx
      exact ⟨depthFits_default _, countFits_default _, h x (List.mem_of_getElem? hx)⟩
    obtain ⟨n, hwalk, -⟩ := (walk_follows {} t).1 hscan
    exact ⟨n, hwalk⟩

/-- Without limits a walk fails with the failure of the first node that has no text. -/
theorem outline_eq_error {t : SourceTree} {before after : List Label} {label : Label}
    (hlisting : (t.listing 0).map Prod.snd = before ++ label :: after)
    (hbefore : ∀ label ∈ before, ∃ s, label.text = .ok s) {failure : WalkFailure}
    (hlabel : label.text = .error failure) : t.outline = .error failure := by
  obtain ⟨xs, ys, hxs, rfl, hys⟩ := List.map_eq_append_iff.mp hlisting
  obtain ⟨x, zs, rfl, rfl, -⟩ := List.map_eq_cons_iff.mp hys
  have hfront : WalkOptions.scan {} 0 xs = .ok () := by
    apply WalkOptions.scan_eq_ok
    intro i y hy
    exact ⟨depthFits_default _, countFits_default _,
      hbefore y.2 (List.mem_map_of_mem (List.mem_of_getElem? hy))⟩
  have hrefuses : WalkOptions.Refuses {} (0 + xs.length) x failure :=
    .text (depthFits_default _) (countFits_default _) hlabel
  apply (walk_follows {} t).2
  rw [hxs, WalkOptions.scan_append, hfront, ok_bind, WalkOptions.scan, hrefuses.enter, error_bind]

/-- **Walks.** If every node of the listing is admitted, the walk gives the outline that mirrors the
tree. Otherwise it fails at the first node that is not admitted, for the reason why that node is
refused. -/
theorem walk_listing (o : WalkOptions) (t : SourceTree) :
    ((∀ i x, (t.listing 0)[i]? = some x → o.Admits i x) →
        ∃ n, t.walk o = .ok n ∧ Mirrors o.includeKinds t n) ∧
      ∀ i x, (t.listing 0)[i]? = some x → ¬ o.Admits i x →
        (∀ j y, j < i → (t.listing 0)[j]? = some y → o.Admits j y) →
        ∃ failure, t.walk o = .error failure ∧ o.Refuses i x failure := by
  obtain ⟨hok, herror⟩ := walk_follows o t
  constructor
  · intro h
    apply hok
    apply WalkOptions.scan_eq_ok
    intro i x hx
    rw [Nat.zero_add]
    exact h i x hx
  · intro i x hx hnot h
    obtain ⟨failure, hrefuses⟩ := WalkOptions.not_admits_iff.mp hnot
    refine ⟨failure, ?_, hrefuses⟩
    apply herror
    apply WalkOptions.scan_eq_error hx
    · rwa [Nat.zero_add]
    · intro j y hj hy
      rw [Nat.zero_add]
      exact h j y hj hy

/-- A call with a name and a list of one argument. -/
def call : SourceTree :=
  .container ⟨.ok "f(x)\n", ⟨0, 5⟩, some "call"⟩
    [.leaf ⟨.ok "f", ⟨0, 1⟩, some "name"⟩,
      .container ⟨.ok "(x)", ⟨1, 3⟩, some "list"⟩ [.leaf ⟨.ok "x", ⟨2, 1⟩, none⟩]]

theorem listing_call : call.listing 0 =
    [(0, ⟨.ok "f(x)\n", ⟨0, 5⟩, some "call"⟩), (1, ⟨.ok "f", ⟨0, 1⟩, some "name"⟩),
      (1, ⟨.ok "(x)", ⟨1, 3⟩, some "list"⟩), (2, ⟨.ok "x", ⟨2, 1⟩, none⟩)] := by
  simp [call, listing, listings]

/-- Without limits the call is walked. With a limit of depth one and three nodes, both of which its
last node passes, that node is refused for its depth. -/
theorem walk_listing_call :
    ((∀ i x, (call.listing 0)[i]? = some x → WalkOptions.Admits ⟨⟨none, none⟩, true⟩ i x) ∧
        ∃ n, call.walk ⟨⟨none, none⟩, true⟩ = .ok n ∧ Mirrors true call n) ∧
      (¬ WalkOptions.Admits ⟨⟨some 1, some 3⟩, true⟩ 3 (2, ⟨.ok "x", ⟨2, 1⟩, none⟩) ∧
        (∀ j y, j < 3 → (call.listing 0)[j]? = some y →
          WalkOptions.Admits ⟨⟨some 1, some 3⟩, true⟩ j y) ∧
        ∃ failure, call.walk ⟨⟨some 1, some 3⟩, true⟩ = .error failure ∧
          WalkOptions.Refuses ⟨⟨some 1, some 3⟩, true⟩ 3 (2, ⟨.ok "x", ⟨2, 1⟩, none⟩) failure) := by
  have hall : ∀ i x, (call.listing 0)[i]? = some x →
      WalkOptions.Admits ⟨⟨none, none⟩, true⟩ i x := by
    intro i x hx
    have hmem := List.mem_of_getElem? hx
    rw [listing_call] at hmem
    simp only [List.mem_cons, List.not_mem_nil, or_false] at hmem
    refine ⟨?_, ?_, ?_⟩
    · intro max h
      cases h
    · intro max h
      cases h
    · rcases hmem with rfl | rfl | rfl | rfl <;> exact ⟨_, rfl⟩
  have hlast : (call.listing 0)[3]? = some (2, ⟨.ok "x", ⟨2, 1⟩, none⟩) := by
    rw [listing_call]
    rfl
  have hnot : ¬ WalkOptions.Admits ⟨⟨some 1, some 3⟩, true⟩ 3 (2, ⟨.ok "x", ⟨2, 1⟩, none⟩) := by
    intro h
    exact absurd (h.depth 1 rfl) (by decide)
  have hfirst : ∀ j y, j < 3 → (call.listing 0)[j]? = some y →
      WalkOptions.Admits ⟨⟨some 1, some 3⟩, true⟩ j y := by
    intro j y hj hy
    rw [listing_call] at hy
    have hcases : j = 0 ∨ j = 1 ∨ j = 2 := by omega
    rcases hcases with rfl | rfl | rfl <;> cases hy <;> refine ⟨?_, ?_, _, rfl⟩ <;>
      (intro max h; cases h; decide)
  exact ⟨⟨hall, (walk_listing _ call).1 hall⟩, hnot, hfirst,
    (walk_listing _ call).2 3 _ hlast hnot hfirst⟩

end SourceTree

end SyntaxOutline
