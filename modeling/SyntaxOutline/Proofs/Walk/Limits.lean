import SyntaxOutline.Proofs.Outline.Paths
import SyntaxOutline.Proofs.Walk.Listing

/-!
# Limits measured on the outline

What limits do to a walk can be told from the outline of the walk without limits: its listing has
the places, depths and spans of the listing of the tree (`Mirrors.listing`). So a walk with limits
gives the same outline if the height and the number of nodes lie within them, and otherwise fails at
the first node one past a limit.
-/

namespace SyntaxOutline.SourceTree

/-! ## The outline of a tree -/

mutual

theorem Mirrors.unique {includeKinds : Bool} : ∀ {t : SourceTree} {n n' : Outline},
    Mirrors includeKinds t n → Mirrors includeKinds t n' → n = n'
  | .leaf label, n, n', h, h' => by
    cases h with
    | leaf text =>
      cases h' with
      | leaf text' =>
        rw [text] at text'
        cases text'
        rfl
  | .container label children, n, n', h, h' => by
    cases h with
    | container text below =>
      cases h' with
      | container text' below' =>
        rw [text] at text'
        cases text'
        rw [mirrors_all_unique below below']

theorem mirrors_all_unique {includeKinds : Bool} : ∀ {ts : List SourceTree} {ns ns' : List Outline},
    List.Forall₂ (Mirrors includeKinds) ts ns → List.Forall₂ (Mirrors includeKinds) ts ns' →
    ns = ns'
  | [], ns, ns', h, h' => by
    cases h
    cases h'
    rfl
  | t :: ts, ns, ns', h, h' => by
    cases h with
    | cons head tail =>
      cases h' with
      | cons head' tail' => rw [head.unique head', mirrors_all_unique tail tail']

end

/-- A source node and the node of the outline that was made of it. -/
def Agrees (x : Nat × Label) (y : Nat × Outline) : Prop :=
  x.1 = y.1 ∧ x.2.span = y.2.span ∧ ∃ s, x.2.text = .ok s

mutual

/-- The listings of a tree and of its outline agree. -/
theorem Mirrors.listing {includeKinds : Bool} (depth : Nat) : ∀ {t : SourceTree} {n : Outline},
    Mirrors includeKinds t n → List.Forall₂ Agrees (t.listing depth) (n.levels depth)
  | .leaf label, n, h => by
    cases h with
    | leaf text =>
      rw [SourceTree.listing, Outline.levels, Outline.levelsAll]
      exact .cons ⟨rfl, rfl, _, text⟩ .nil
  | .container label children, n, h => by
    cases h with
    | container text below =>
      rw [SourceTree.listing, Outline.levels]
      exact .cons ⟨rfl, rfl, _, text⟩ (mirrors_all_listings (depth + 1) below)

theorem mirrors_all_listings {includeKinds : Bool} (depth : Nat) :
    ∀ {ts : List SourceTree} {ns : List Outline}, List.Forall₂ (Mirrors includeKinds) ts ns →
    List.Forall₂ Agrees (listings depth ts) (Outline.levelsAll depth ns)
  | [], ns, h => by
    cases h
    rw [listings, Outline.levelsAll]
    exact .nil
  | t :: ts, ns, h => by
    cases h with
    | cons head tail =>
      rw [listings, Outline.levelsAll]
      exact List.rel_append (head.listing depth) (mirrors_all_listings depth tail)

end

theorem mirrors_of_walk {o : WalkOptions} {t : SourceTree} {n : Outline} (h : t.walk o = .ok n) :
    Mirrors o.includeKinds t n := by
  obtain ⟨n', hwalk, hn'⟩ := (walk_follows o t).1 (scan_of_walk h)
  rw [h] at hwalk
  cases hwalk
  exact hn'

/-! ## Walks of trees with a known outline -/

section

variable {o : WalkOptions} {t : SourceTree} {n : Outline}

/-- A node whose counterpart in the outline lies within the limits is admitted. -/
theorem admits_of_fits (h : Mirrors o.includeKinds t n) {i : Nat}
    (hfits : ∀ y, (n.levels 0)[i]? = some y → o.DepthFits y.1 ∧ o.CountFits (i + 1))
    {x : Nat × Label} (hx : (t.listing 0)[i]? = some x) : o.Admits i x := by
  obtain ⟨y, hy, hdepth, -, htext⟩ := exists_right_of_getElem? (h.listing 0) hx
  obtain ⟨hdepths, hcount⟩ := hfits y hy
  exact ⟨hdepth ▸ hdepths, hcount, htext⟩

theorem walk_eq_ok (h : Mirrors o.includeKinds t n)
    (hfits : ∀ i y, (n.levels 0)[i]? = some y → o.DepthFits y.1 ∧ o.CountFits (i + 1)) :
    t.walk o = .ok n := by
  have hscan : o.scan 0 (t.listing 0) = .ok () := by
    apply WalkOptions.scan_eq_ok
    intro i x hx
    rw [Nat.zero_add]
    exact admits_of_fits h (hfits i) hx
  obtain ⟨n', hwalk, hn'⟩ := (walk_follows o t).1 hscan
  rw [hwalk, hn'.unique h]

/-- The walk ends at the first node of the outline that is refused. -/
theorem walk_eq_error (h : Mirrors o.includeKinds t n) {i : Nat} {y : Nat × Outline}
    (hy : (n.levels 0)[i]? = some y) {failure : WalkFailure}
    (hrefuses : ∀ x, Agrees x y → o.Refuses i x failure)
    (hfits : ∀ j z, j < i → (n.levels 0)[j]? = some z → o.DepthFits z.1 ∧ o.CountFits (j + 1)) :
    t.walk o = .error failure := by
  obtain ⟨x, hx, hxy⟩ := exists_left_of_getElem? (h.listing 0) hy
  apply (walk_follows o t).2
  apply WalkOptions.scan_eq_error hx
  · rw [Nat.zero_add]
    exact hrefuses x hxy
  · intro j z hj hz
    rw [Nat.zero_add]
    exact admits_of_fits h (fun y hy => hfits j y hj hy) hz

/-! ## The three outcomes -/

/-- Within both limits the walk gives the outline. -/
theorem walk_within (h : Mirrors o.includeKinds t n) (hdepth : o.DepthFits n.height)
    (hcount : o.CountFits n.nodeCount) : t.walk o = .ok n := by
  apply walk_eq_ok h
  intro i y hy
  constructor
  · intro max hmax
    exact Outline.height_le_iff.mp (hdepth max hmax) y (List.mem_of_getElem? hy)
  · intro max hmax
    have hle := hcount max hmax
    rw [Outline.nodeCount_eq] at hle
    have hi := (List.getElem?_eq_some_iff.mp hy).1
    omega

/-- An outline that a walk gives lies within both limits. -/
theorem fits_of_walk (h : t.walk o = .ok n) : o.DepthFits n.height ∧ o.CountFits n.nodeCount := by
  have hlisting := (mirrors_of_walk h).listing 0
  have hscan := scan_of_walk h
  constructor
  · intro max hmax
    apply Outline.height_le_iff.mpr
    intro y hy
    obtain ⟨i, hi⟩ := List.mem_iff_getElem?.mp hy
    obtain ⟨x, hx, hdepth, -⟩ := exists_left_of_getElem? hlisting hi
    rw [← hdepth]
    exact (WalkOptions.admits_of_scan hscan hx).depth max hmax
  · intro max hmax
    rw [Outline.nodeCount_eq, ← hlisting.length_eq]
    -- the last node of the listing has been admitted by its place
    by_cases hempty : (t.listing 0).length = 0
    · omega
    · have hlast := List.getElem?_eq_getElem (l := t.listing 0) (i := (t.listing 0).length - 1)
        (by omega)
      have hle := (WalkOptions.admits_of_scan hscan hlast).nodes max hmax
      omega

/-- The first node one step too deep is refused, unless the nodes run out before it. -/
theorem walk_too_deep (h : Mirrors o.includeKinds t n) {d : UInt64}
    (hd : o.limits.maxDepth = some d) {i : Nat} (hi : n.FirstAt (d.toNat + 1) i)
    (hcount : o.CountFits i) :
    ∃ x, n.iterator.toList[i]? = some x ∧
      t.walk o = .error (.limitExceeded .depth d x.span) := by
  obtain ⟨x, hx⟩ := hi.1
  refine ⟨x, by rw [Outline.toList_iterator, List.getElem?_map, hx]; rfl, ?_⟩
  apply walk_eq_error h hx
  · rintro x' ⟨hdepth, hspan, -⟩
    rw [← hspan]
    exact .depth hd (by rw [hdepth]; exact Nat.lt_succ_self _)
  · intro j z hj hz
    constructor
    · intro max hmax
      rw [hd] at hmax
      cases hmax
      exact hi.depth_le hj hz
    · intro max hmax
      have hle := hcount max hmax
      omega

/-- If the nodes run out before one is too deep, the first node past their number is refused. -/
theorem walk_too_many (h : Mirrors o.includeKinds t n)
    (hfits : ¬ (o.DepthFits n.height ∧ o.CountFits n.nodeCount))
    (hlate : ∀ d i, o.limits.maxDepth = some d → n.FirstAt (d.toNat + 1) i → ¬ o.CountFits i) :
    ∃ m x, o.limits.maxNodes = some m ∧ n.iterator.toList[m.toNat]? = some x ∧
      t.walk o = .error (.limitExceeded .nodes m x.span) := by
  obtain ⟨m, hm, hlt⟩ : ∃ m, o.limits.maxNodes = some m ∧ m.toNat < n.nodeCount := by
    by_cases hdepth : o.DepthFits n.height
    · exact WalkOptions.not_countFits_iff.mp fun hcount => hfits ⟨hdepth, hcount⟩
    · obtain ⟨d, hd, hlt⟩ := WalkOptions.not_depthFits_iff.mp hdepth
      obtain ⟨i, hi⟩ := Outline.exists_firstAt (Nat.succ_le_of_lt hlt)
      obtain ⟨m, hm, hmi⟩ := WalkOptions.not_countFits_iff.mp (hlate d i hd hi)
      obtain ⟨x, hx⟩ := hi.1
      have hlength := (List.getElem?_eq_some_iff.mp hx).1
      rw [Outline.nodeCount_eq]
      exact ⟨m, hm, Nat.lt_trans hmi hlength⟩
  -- no node up to the place `m` is too deep
  have hshallow : ∀ j y, j ≤ m.toNat → (n.levels 0)[j]? = some y → o.DepthFits y.1 := by
    intro j y hj hy d hd
    by_contra hdeep
    have hheight : d.toNat < n.height := by
      by_contra hle
      exact hdeep (Outline.height_le_iff.mp (Nat.le_of_not_lt hle) y (List.mem_of_getElem? hy))
    obtain ⟨i, hi⟩ := Outline.exists_firstAt (Nat.succ_le_of_lt hheight)
    obtain ⟨m', hm', hmi⟩ := WalkOptions.not_countFits_iff.mp (hlate d i hd hi)
    rw [hm] at hm'
    cases hm'
    exact hdeep (hi.depth_le (Nat.lt_of_le_of_lt hj hmi) hy)
  rw [Outline.nodeCount_eq] at hlt
  obtain ⟨⟨e, x⟩, hx⟩ : ∃ y, (n.levels 0)[m.toNat]? = some y := ⟨_, List.getElem?_eq_getElem hlt⟩
  refine ⟨m, x, hm, by rw [Outline.toList_iterator, List.getElem?_map, hx]; rfl, ?_⟩
  apply walk_eq_error h hx
  · rintro x' ⟨hdepth, hspan, -⟩
    rw [← hspan]
    exact .nodes (by rw [hdepth]; exact hshallow _ _ (Nat.le_refl _) hx) hm (Nat.lt_succ_self _)
  · intro j z hj hz
    refine ⟨hshallow j z (Nat.le_of_lt hj) hz, ?_⟩
    intro max hmax
    rw [hm] at hmax
    cases hmax
    exact hj

end

/-- **Limits.** Let the walk without limits give an outline. A walk with limits gives the same
outline if and only if its height and number of nodes lie within them. Otherwise it fails at the
first node one step too deep, if that comes no later than the first node past the number of nodes,
and else at the latter. -/
theorem walk_limits (o : WalkOptions) (t : SourceTree) (n : Outline)
    (h : t.walk ⟨{}, o.includeKinds⟩ = .ok n) :
    (t.walk o = .ok n ↔ o.DepthFits n.height ∧ o.CountFits n.nodeCount) ∧
      (¬ (o.DepthFits n.height ∧ o.CountFits n.nodeCount) →
        (∀ d i, o.limits.maxDepth = some d → n.FirstAt (d.toNat + 1) i → o.CountFits i →
          ∃ x, n.iterator.toList[i]? = some x ∧
            t.walk o = .error (.limitExceeded .depth d x.span)) ∧
        ((∀ d i, o.limits.maxDepth = some d → n.FirstAt (d.toNat + 1) i → ¬ o.CountFits i) →
          ∃ m x, o.limits.maxNodes = some m ∧ n.iterator.toList[m.toNat]? = some x ∧
            t.walk o = .error (.limitExceeded .nodes m x.span))) := by
  have hmirrors : Mirrors o.includeKinds t n := mirrors_of_walk (o := ⟨{}, o.includeKinds⟩) h
  refine ⟨⟨?_, fun hfits => walk_within hmirrors hfits.1 hfits.2⟩, fun hfits => ⟨?_, ?_⟩⟩
  · intro hok
    by_contra hfits
    by_cases hearly : ∃ d i, o.limits.maxDepth = some d ∧ n.FirstAt (d.toNat + 1) i ∧ o.CountFits i
    · obtain ⟨d, i, hd, hi, hcount⟩ := hearly
      obtain ⟨x, -, herror⟩ := walk_too_deep hmirrors hd hi hcount
      rw [hok] at herror
      cases herror
    · have hlate : ∀ d i, o.limits.maxDepth = some d → n.FirstAt (d.toNat + 1) i →
          ¬ o.CountFits i := fun d i hd hi hcount => hearly ⟨d, i, hd, hi, hcount⟩
      obtain ⟨m, x, -, -, herror⟩ := walk_too_many hmirrors hfits hlate
      rw [hok] at herror
      cases herror
  · intro d i hd hi hcount
    exact walk_too_deep hmirrors hd hi hcount
  · intro hlate
    exact walk_too_many hmirrors hfits hlate

/-- The outline of a call. -/
def callOutline : Outline :=
  ⟨LineEnding.mark "f(x)\n", ⟨0, 5⟩, some "call",
    [⟨LineEnding.mark "f", ⟨0, 1⟩, some "name", []⟩,
      ⟨LineEnding.mark "(x)", ⟨1, 3⟩, some "list", [⟨LineEnding.mark "x", ⟨2, 1⟩, none, []⟩]⟩]⟩

theorem callOutline_firstAt : callOutline.FirstAt 2 3 := by
  refine ⟨⟨_, rfl⟩, ?_⟩
  intro j x hj hx
  have hcases : j = 0 ∨ j = 1 ∨ j = 2 := by omega
  rcases hcases with rfl | rfl | rfl <;> cases hx

/-- The call has height two and four nodes, which are just within the limits two and four. With a
limit of depth one and three nodes the last node passes both, and its depth is reported; with a
limit of two nodes the node in front of it is past their number. -/
theorem walk_limits_call :
    call.walk ⟨{}, true⟩ = .ok callOutline ∧
      call.walk ⟨⟨some 2, some 4⟩, true⟩ = .ok callOutline ∧
      (∃ x, callOutline.iterator.toList[3]? = some x ∧
        call.walk ⟨⟨some 1, some 3⟩, true⟩ = .error (.limitExceeded .depth 1 x.span)) ∧
      ∃ x, callOutline.iterator.toList[2]? = some x ∧
        call.walk ⟨⟨some 1, some 2⟩, true⟩ = .error (.limitExceeded .nodes 2 x.span) := by
  have hwalk : call.walk ⟨{}, true⟩ = .ok callOutline := rfl
  have hheight : callOutline.height = 2 := rfl
  have hcount : callOutline.nodeCount = 4 := by
    rw [Outline.nodeCount_eq]
    rfl
  have hdeep : ∀ m, ¬ (WalkOptions.DepthFits ⟨⟨some 1, m⟩, true⟩ callOutline.height ∧
      WalkOptions.CountFits ⟨⟨some 1, m⟩, true⟩ callOutline.nodeCount) := by
    rintro m ⟨hdepth, -⟩
    exact absurd (hdepth 1 rfl) (by rw [hheight]; decide)
  refine ⟨hwalk, ?_, ?_, ?_⟩
  · refine (walk_limits ⟨⟨some 2, some 4⟩, true⟩ call callOutline hwalk).1.mpr ⟨?_, ?_⟩
    · rintro max ⟨⟩
      rw [hheight]
      decide
    · rintro max ⟨⟩
      rw [hcount]
      decide
  · refine ((walk_limits ⟨⟨some 1, some 3⟩, true⟩ call callOutline hwalk).2 (hdeep _)).1 1 3 rfl
      callOutline_firstAt ?_
    rintro max ⟨⟩
    decide
  · have hlate : ∀ (d : UInt64) i, some 1 = some d → callOutline.FirstAt (d.toNat + 1) i →
        ¬ WalkOptions.CountFits ⟨⟨some 1, some 2⟩, true⟩ i := by
      rintro d i ⟨⟩ hi hle
      obtain ⟨x, hx⟩ := hi.1
      have hcases : i = 0 ∨ i = 1 ∨ i = 2 := by
        have hle' : i ≤ 2 := hle 2 rfl
        omega
      rcases hcases with rfl | rfl | rfl <;> cases hx
    obtain ⟨m, x, hm, hx, herror⟩ :=
      ((walk_limits ⟨⟨some 1, some 2⟩, true⟩ call callOutline hwalk).2 (hdeep _)).2 hlate
    cases hm
    exact ⟨x, hx, herror⟩

end SyntaxOutline.SourceTree
