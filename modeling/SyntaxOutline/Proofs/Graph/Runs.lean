import SyntaxOutline.Proofs.Walk.Listing
import SyntaxOutline.Source.Graph

/-!
# Walks of a source graph step by step

A walk of a graph is a recursion that need not end. `SourceGraph.Enters` says which nodes it enters,
one after the other, and how it ends, without a bound on the levels it goes down: a walk that does
not end has no such derivation.

* `Enters.unique` : the nodes entered and the outcome are determined.
* `Enters.ok_induction` : the steps of a walk that succeeds.
* `enters_of_walkEach` : what the walk with a bound gives is an outcome in this sense.
* `Enters.length_le`, `Enters.depth_le` : the limits bound the number and the depth of the nodes.
* `Enters.exists_refuses` : a failure is that of the last node.
-/

namespace SyntaxOutline

namespace WalkOptions

variable {o : WalkOptions} {depth count : Nat} {label : Label}

theorem admits_of_enter {n : Outline} (h : o.enter depth (count + 1) label = .ok n) :
    o.Admits count (depth, label) := by
  rcases o.admits_or_refuses count (depth, label) with hadmits | ⟨failure, hrefuses⟩
  · exact hadmits
  · have henter := hrefuses.enter
    rw [h] at henter
    cases henter

/-- A node that is entered lies within the limits. -/
theorem fits_of_enter {n : Outline} (h : o.enter depth (count + 1) label = .ok n) :
    o.DepthFits depth ∧ o.CountFits (count + 1) :=
  ⟨(admits_of_enter h).depth, (admits_of_enter h).nodes⟩

theorem refuses_of_enter {failure : WalkFailure}
    (h : o.enter depth (count + 1) label = .error failure) :
    o.Refuses count (depth, label) failure := by
  rcases o.admits_or_refuses count (depth, label) with hadmits | ⟨failure', hrefuses⟩
  · obtain ⟨s, hs⟩ := hadmits.text
    have henter := hadmits.enter hs
    rw [h] at henter
    cases henter
  · have henter := hrefuses.enter
    rw [h] at henter
    cases henter
    exact hrefuses

/-- A node is refused for passing a limit or because it cannot give its text. -/
theorem Refuses.limit_or_text {i : Nat} {x : Nat × Label} {failure : WalkFailure}
    (h : o.Refuses i x failure) :
    (∃ limit max, failure = .limitExceeded limit max x.2.span) ∨ x.2.text = .error failure := by
  cases h with
  | depth _ _ => exact Or.inl ⟨_, _, rfl⟩
  | nodes _ _ _ => exact Or.inl ⟨_, _, rfl⟩
  | text _ _ fails => exact Or.inr fails

end WalkOptions

theorem Outcome.andThen_eq_some {α β : Type} {x : Outcome α} {f : α → Outcome β}
    {result : Except WalkFailure β} (h : x.andThen f = some result) :
    (∃ failure, x = some (.error failure) ∧ result = .error failure) ∨
      ∃ value, x = some (.ok value) ∧ f value = some result := by
  match x, h with
  | some (.error failure), h => exact Or.inl ⟨failure, rfl, (Option.some.inj h).symm⟩
  | some (.ok value), h => exact Or.inr ⟨value, rfl, h⟩

theorem Outcome.andThen_ne_none {α β : Type} {x : Outcome α} {f : α → Outcome β} (hx : x ≠ none)
    (hf : ∀ value, x = some (.ok value) → f value ≠ none) : x.andThen f ≠ none := by
  match x, hx, hf with
  | some (.error failure), _, _ => exact Option.some_ne_none _
  | some (.ok value), _, hf => exact hf value rfl

namespace SourceGraph

/-- A node that a walk comes to, and how deep it lies there. -/
structure Visit where
  depth : Nat
  id : Nat

/-- `g.Enters o depth count ids visits result` : the walks from the nodes `ids`, one behind the
other at the same depth, with `count` nodes entered before, come to `visits` in this order and end
with `result`. The last node they come to may be refused. -/
inductive Enters (g : SourceGraph) (o : WalkOptions) :
    Nat → Nat → List Nat → List Visit → Except WalkFailure (List Outline × Nat) → Prop where
  | nil {depth count : Nat} : Enters g o depth count [] [] (.ok ([], count))
  /-- The first node is refused. -/
  | refused {depth count id : Nat} {ids : List Nat} {node : GraphNode} {failure : WalkFailure}
      (found : g.nodes[id]? = some node)
      (enter : o.enter depth (count + 1) node.label = .error failure) :
      Enters g o depth count (id :: ids) [⟨depth, id⟩] (.error failure)
  /-- The walk fails below the first node. -/
  | failsBelow {depth count id : Nat} {ids : List Nat} {node : GraphNode} {outline : Outline}
      {visits : List Visit} {failure : WalkFailure} (found : g.nodes[id]? = some node)
      (enter : o.enter depth (count + 1) node.label = .ok outline)
      (children : Enters g o (depth + 1) (count + 1) (node.children.getD []) visits
        (.error failure)) :
      Enters g o depth count (id :: ids) (⟨depth, id⟩ :: visits) (.error failure)
  /-- The walk fails behind the first node. -/
  | failsBehind {depth count count' id : Nat} {ids : List Nat} {node : GraphNode}
      {outline : Outline} {outlines : List Outline} {visits visits' : List Visit}
      {failure : WalkFailure}
      (found : g.nodes[id]? = some node)
      (enter : o.enter depth (count + 1) node.label = .ok outline)
      (children : Enters g o (depth + 1) (count + 1) (node.children.getD []) visits
        (.ok (outlines, count')))
      (rest : Enters g o depth count' ids visits' (.error failure)) :
      Enters g o depth count (id :: ids) (⟨depth, id⟩ :: (visits ++ visits')) (.error failure)
  | cons {depth count count' count'' id : Nat} {ids : List Nat} {node : GraphNode}
      {outline : Outline} {outlines outlines' : List Outline} {visits visits' : List Visit}
      (found : g.nodes[id]? = some node)
      (enter : o.enter depth (count + 1) node.label = .ok outline)
      (children : Enters g o (depth + 1) (count + 1) (node.children.getD []) visits
        (.ok (outlines, count')))
      (rest : Enters g o depth count' ids visits' (.ok (outlines', count''))) :
      Enters g o depth count (id :: ids) (⟨depth, id⟩ :: (visits ++ visits'))
        (.ok ({ outline with children := outlines } :: outlines', count''))

variable {g : SourceGraph} {o : WalkOptions} {depth count : Nat} {ids : List Nat}
  {visits : List Visit} {result : Except WalkFailure (List Outline × Nat)}

/-- The nodes entered and the outcome are determined. -/
theorem Enters.unique (h : g.Enters o depth count ids visits result) {visits' : List Visit}
    {result' : Except WalkFailure (List Outline × Nat)}
    (h' : g.Enters o depth count ids visits' result') : visits = visits' ∧ result = result' := by
  -- the second derivation finds the same nodes and enters them alike, so it takes the same steps
  induction h generalizing visits' result' with
  | nil =>
    cases h'
    exact ⟨rfl, rfl⟩
  | refused found enter => cases h' <;> grind
  | failsBelow found enter _ ih => cases h' <;> grind
  | failsBehind found enter _ _ ih ihrest => cases h' <;> grind
  | cons found enter _ _ ih ihrest => cases h' <;> grind

/-- Induction over the steps of a walk that succeeds. -/
@[elab_as_elim]
theorem Enters.ok_induction
    {motive : ∀ {depth count count' : Nat} {ids : List Nat} {visits : List Visit}
      {outlines : List Outline},
      g.Enters o depth count ids visits (.ok (outlines, count')) → Prop}
    (nil : ∀ {depth count : Nat},
      motive (Enters.nil : g.Enters o depth count [] [] (.ok ([], count))))
    (cons : ∀ {depth count count' count'' id : Nat} {ids : List Nat} {node : GraphNode}
      {outline : Outline} {outlines outlines' : List Outline} {visits visits' : List Visit}
      (found : g.nodes[id]? = some node)
      (enter : o.enter depth (count + 1) node.label = .ok outline)
      (children : g.Enters o (depth + 1) (count + 1) (node.children.getD []) visits
        (.ok (outlines, count')))
      (rest : g.Enters o depth count' ids visits' (.ok (outlines', count''))),
      motive children → motive rest → motive (.cons found enter children rest))
    {depth count count' : Nat} {ids : List Nat} {visits : List Visit} {outlines : List Outline}
    (h : g.Enters o depth count ids visits (.ok (outlines, count'))) : motive h := by
  suffices hmotive : ∀ {result} (h : g.Enters o depth count ids visits result) {outlines count'}
      (hresult : result = .ok (outlines, count')), motive (hresult ▸ h) from hmotive h rfl
  clear h
  intro result h
  induction h with
  | nil =>
    rintro outlines count' ⟨⟩
    exact nil
  | refused _ _ => rintro outlines count' ⟨⟩
  | failsBelow _ _ _ _ => rintro outlines count' ⟨⟩
  | failsBehind _ _ _ _ _ _ => rintro outlines count' ⟨⟩
  | cons found enter children rest ih ihrest =>
    rintro outlines count' ⟨⟩
    exact cons found enter children rest (ih rfl) (ihrest rfl)

/-! ## The walk with a bound -/

/-- What a walk from one node can do: the node is refused, or it is entered and the walk ends as
the walks from its children do. -/
theorem walkFrom_eq_some {levels id : Nat} {result : Except WalkFailure (Outline × Nat)}
    (h : g.walkFrom o (levels + 1) depth count id = some result) :
    ∃ node, g.nodes[id]? = some node ∧
      ((∃ failure, o.enter depth (count + 1) node.label = .error failure ∧
          result = .error failure) ∨
        ∃ outline below, o.enter depth (count + 1) node.label = .ok outline ∧
          walkEach (g.walkFrom o levels (depth + 1)) (count + 1) (node.children.getD []) =
            some below ∧
          result = below.map fun r => ({ outline with children := r.1 }, r.2)) := by
  rw [walkFrom] at h
  cases found : g.nodes[id]? with
  | none =>
    rw [found] at h
    cases h
  | some node =>
    rw [found] at h
    refine ⟨node, rfl, ?_⟩
    rcases Outcome.andThen_eq_some h with ⟨failure, henter, rfl⟩ | ⟨outline, henter, hchildren⟩
    · exact Or.inl ⟨failure, Option.some.inj henter, rfl⟩
    · refine Or.inr ⟨outline, ?_⟩
      rcases Outcome.andThen_eq_some hchildren with ⟨failure, hbelow, rfl⟩ | ⟨r, hbelow, hr⟩
      · exact ⟨_, Option.some.inj henter, hbelow, rfl⟩
      · exact ⟨_, Option.some.inj henter, hbelow, (Option.some.inj hr).symm⟩

/-- A walk that ends within a bound on its levels ends as the steps say. -/
theorem enters_of_walkEach {levels : Nat}
    (h : walkEach (g.walkFrom o levels depth) count ids = some result) :
    ∃ visits, g.Enters o depth count ids visits result := by
  induction levels generalizing depth count ids result with
  | zero =>
    cases ids with
    | nil =>
      cases h
      exact ⟨[], .nil⟩
    | cons id ids => cases h
  | succ levels ih =>
    induction ids generalizing count result with
    | nil =>
      cases h
      exact ⟨[], .nil⟩
    | cons id ids ihids =>
      rcases Outcome.andThen_eq_some h with ⟨failure, hid, rfl⟩ | ⟨⟨n, count'⟩, hid, hrest⟩
      · obtain ⟨node, found, ⟨failure', enter, he⟩ | ⟨outline, below, enter, hbelow, he⟩⟩ :=
          walkFrom_eq_some hid
        · cases he
          exact ⟨_, .refused found enter⟩
        · cases below with
          | ok r => cases he
          | error failure' =>
            cases he
            obtain ⟨visits, children⟩ := ih hbelow
            exact ⟨_, .failsBelow found enter children⟩
      · obtain ⟨node, found, ⟨failure', enter, he⟩ | ⟨outline, below, enter, hbelow, he⟩⟩ :=
          walkFrom_eq_some hid
        · cases he
        · cases below with
          | error failure' => cases he
          | ok r =>
            cases he
            obtain ⟨visits, children⟩ := ih hbelow
            rcases Outcome.andThen_eq_some hrest with ⟨failure, hids, rfl⟩ | ⟨r', hids, hr'⟩
            · obtain ⟨visits', rest⟩ := ihids hids
              exact ⟨_, .failsBehind found enter children rest⟩
            · cases hr'
              obtain ⟨visits', rest⟩ := ihids hids
              exact ⟨_, .cons found enter children rest⟩

/-! ## What the limits do -/

/-- A walk that succeeds has counted the nodes it entered. -/
theorem Enters.count_eq {outlines : List Outline} {count' : Nat}
    (h : g.Enters o depth count ids visits (.ok (outlines, count'))) :
    count' = count + visits.length := by
  generalize hresult : Except.ok (outlines, count') = result at h
  induction h generalizing outlines count' with
  | nil =>
    cases hresult
    rfl
  | refused _ _ => cases hresult
  | failsBelow _ _ _ _ => cases hresult
  | failsBehind _ _ _ _ _ _ => cases hresult
  | cons _ _ _ _ ih ihrest =>
    cases hresult
    have hbelow := ih rfl
    have hrest := ihrest rfl
    simp only [List.length_cons, List.length_append]
    omega

/-- No more nodes are come to than one past the limit, and no more are entered than it allows. -/
theorem Enters.length_le {m : UInt64} (hm : o.limits.maxNodes = some m)
    (h : g.Enters o depth count ids visits result) (hcount : count ≤ m.toNat) :
    count + visits.length ≤ m.toNat + 1 ∧
      ∀ r, result = .ok r → count + visits.length ≤ m.toNat := by
  induction h with
  | nil => exact ⟨Nat.le_succ_of_le hcount, fun _ _ => hcount⟩
  | refused _ _ =>
    refine ⟨Nat.succ_le_succ hcount, ?_⟩
    rintro r ⟨⟩
  | failsBelow _ enter _ ih =>
    have hfits := (WalkOptions.fits_of_enter enter).2 m hm
    obtain ⟨hle, -⟩ := ih hfits
    refine ⟨?_, ?_⟩
    · rw [List.length_cons]
      omega
    · rintro r ⟨⟩
  | failsBehind _ enter children _ ih ihrest =>
    have hfits := (WalkOptions.fits_of_enter enter).2 m hm
    have hbelow := (ih hfits).2 _ rfl
    have hcount' := children.count_eq
    obtain ⟨hle, -⟩ := ihrest (by omega)
    refine ⟨?_, ?_⟩
    · rw [List.length_cons, List.length_append]
      omega
    · rintro r ⟨⟩
  | cons _ enter children _ ih ihrest =>
    have hfits := (WalkOptions.fits_of_enter enter).2 m hm
    have hbelow := (ih hfits).2 _ rfl
    have hcount' := children.count_eq
    have hrest := (ihrest (by omega)).2 _ rfl
    rw [List.length_cons, List.length_append]
    refine ⟨?_, fun _ _ => ?_⟩
    · omega
    · omega

/-- No node is come to that lies more than one step past the limit. -/
theorem Enters.depth_le {d : UInt64} (hd : o.limits.maxDepth = some d)
    (h : g.Enters o depth count ids visits result) (hdepth : depth ≤ d.toNat + 1) :
    ∀ v ∈ visits, v.depth ≤ d.toNat + 1 := by
  induction h with
  | nil =>
    intro v hv
    cases hv
  | refused _ _ =>
    intro v hv
    rw [List.mem_singleton.mp hv]
    exact hdepth
  | failsBelow _ enter _ ih =>
    have hfits := (WalkOptions.fits_of_enter enter).1 d hd
    intro v hv
    rcases List.mem_cons.mp hv with rfl | hv
    · exact hdepth
    · exact ih (Nat.succ_le_succ hfits) v hv
  | failsBehind _ enter _ _ ih ihrest =>
    have hfits := (WalkOptions.fits_of_enter enter).1 d hd
    intro v hv
    rcases List.mem_cons.mp hv with rfl | hv
    · exact hdepth
    · rcases List.mem_append.mp hv with hv | hv
      · exact ih (Nat.succ_le_succ hfits) v hv
      · exact ihrest hdepth v hv
  | cons _ enter _ _ ih ihrest =>
    have hfits := (WalkOptions.fits_of_enter enter).1 d hd
    intro v hv
    rcases List.mem_cons.mp hv with rfl | hv
    · exact hdepth
    · rcases List.mem_append.mp hv with hv | hv
      · exact ih (Nat.succ_le_succ hfits) v hv
      · exact ihrest hdepth v hv

/-- A walk that fails was refused the last node it came to. -/
theorem Enters.exists_refuses {failure : WalkFailure}
    (h : g.Enters o depth count ids visits (.error failure)) :
    ∃ before v node, visits = before ++ [v] ∧ g.nodes[v.id]? = some node ∧
      o.Refuses (count + before.length) (v.depth, node.label) failure := by
  generalize hresult : Except.error failure = result at h
  induction h with
  | nil => cases hresult
  | refused found enter =>
    cases hresult
    exact ⟨[], _, _, rfl, found, WalkOptions.refuses_of_enter enter⟩
  | @failsBelow depth count id ids node outline visits failure found enter _ ih =>
    cases hresult
    obtain ⟨before, v, node', rfl, found', hrefuses⟩ := ih rfl
    refine ⟨⟨depth, id⟩ :: before, v, node', rfl, found', ?_⟩
    rw [List.length_cons]
    rwa [Nat.add_right_comm] at hrefuses
  | @failsBehind depth count count' id ids node outline outlines visits visits' failure found enter
      children _ ih ihrest =>
    cases hresult
    obtain ⟨before, v, node', rfl, found', hrefuses⟩ := ihrest rfl
    refine ⟨⟨depth, id⟩ :: (visits ++ before), v, node', ?_, found', ?_⟩
    · rw [List.cons_append, List.append_assoc]
    · rw [children.count_eq] at hrefuses
      have hlength : count + (Visit.mk depth id :: (visits ++ before)).length =
          count + 1 + visits.length + before.length := by
        rw [List.length_cons, List.length_append]
        omega
      rwa [hlength]
  | cons _ _ _ _ _ _ => cases hresult

end SourceGraph

end SyntaxOutline
