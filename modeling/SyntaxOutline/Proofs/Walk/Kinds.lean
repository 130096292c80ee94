import SyntaxOutline.Proofs.Graph.Unfolding

/-!
# Walks with kinds and without

Whether kinds are recorded has no influence on where a walk goes, how it counts and how it fails:
the walk without kinds is the walk with kinds in which every kind has been taken out of the result.
This holds step by step, of a node that is entered, of the walks of trees and of those of graphs.

* `Outline.withoutKinds` : an outline with its kinds taken out.
* `RecordsKinds` : what two walks have to do with each other if one of them records kinds.
* `SourceTree.walk_withoutKinds`, `SourceGraph.walk_withoutKinds` : the two walks side by side.
* `SourceTree.kind_at?_of_walk`, `SourceGraph.kind_at?_of_walk` : the kinds that are recorded.
-/

namespace SyntaxOutline

/-! ## Outlines without kinds -/

namespace Outline

mutual

/-- The outline without the kinds of its nodes. -/
def withoutKinds : Outline → Outline
  | ⟨content, span, _, children⟩ => ⟨content, span, none, withoutKindsAll children⟩

def withoutKindsAll : List Outline → List Outline
  | [] => []
  | o :: os => o.withoutKinds :: withoutKindsAll os

end

theorem kind_withoutKinds (o : Outline) : o.withoutKinds.kind = none := by
  obtain ⟨content, span, kind, children⟩ := o
  rw [withoutKinds]

mutual

theorem preorder_withoutKinds : ∀ o : Outline,
    o.withoutKinds.preorder = o.preorder.map withoutKinds
  | ⟨content, span, kind, children⟩ => by
    rw [withoutKinds, preorder, preorder, List.map_cons, preorderAll_withoutKinds, withoutKinds]

theorem preorderAll_withoutKinds : ∀ os : List Outline,
    preorderAll (withoutKindsAll os) = (preorderAll os).map withoutKinds
  | [] => by rw [withoutKindsAll, preorderAll, List.map_nil]
  | o :: os => by
    rw [withoutKindsAll, preorderAll, preorderAll, List.map_append, preorder_withoutKinds,
      preorderAll_withoutKinds]

end

theorem kind_of_mem_preorder_withoutKinds {o x : Outline} (h : x ∈ o.withoutKinds.preorder) :
    x.kind = none := by
  rw [preorder_withoutKinds] at h
  obtain ⟨y, -, rfl⟩ := List.mem_map.mp h
  exact kind_withoutKinds y

end Outline

/-- What a walk that records kinds and one that does not have to do with each other, if the nodes of
the source have the given kinds at their paths. -/
structure RecordsKinds (kindAt? : List Nat → Option (Option String))
    (recorded plain : Except WalkFailure Outline) : Prop where
  fails : ∀ failure, recorded = .error failure ↔ plain = .error failure
  erased : ∀ n, recorded = .ok n → plain = .ok n.withoutKinds
  unrecorded : ∀ n, plain = .ok n → ∀ x ∈ n.preorder, x.kind = none
  kinds : ∀ n, recorded = .ok n → ∀ path, (n.at? path).map Outline.kind = kindAt? path

theorem recordsKinds_of_map {kindAt? : List Nat → Option (Option String)}
    {recorded plain : Except WalkFailure Outline} (h : plain = recorded.map Outline.withoutKinds)
    (hkinds : ∀ n, recorded = .ok n → ∀ path, (n.at? path).map Outline.kind = kindAt? path) :
    RecordsKinds kindAt? recorded plain := by
  subst h
  cases recorded with
  | error failure =>
    refine ⟨fun failure' => Iff.rfl, ?_, ?_, hkinds⟩
    · rintro n ⟨⟩
    · rintro n ⟨⟩
  | ok n =>
    refine ⟨fun failure => ?_, ?_, ?_, hkinds⟩
    · constructor
      · rintro ⟨⟩
      · rintro ⟨⟩
    · rintro n ⟨⟩
      rfl
    · rintro n ⟨⟩ x hx
      exact Outline.kind_of_mem_preorder_withoutKinds hx

/-! ## Trees -/

theorem WalkOptions.enter_withoutKinds (limits : Limits) (depth count : Nat) (label : Label) :
    WalkOptions.enter ⟨limits, false⟩ depth count label =
      (WalkOptions.enter ⟨limits, true⟩ depth count label).map Outline.withoutKinds := by
  unfold WalkOptions.enter
  cases limits.allowsDepth depth with
  | false => rfl
  | true =>
    cases limits.allowsCount count with
    | false => rfl
    | true =>
      cases label.text with
      | error failure => rfl
      | ok s => rfl

namespace SourceTree

/-- The kind of the node that a path leads to. -/
def kindAt? (t : SourceTree) (path : List Nat) : Option (Option String) :=
  (t.at? path).map fun x => x.label.kind

mutual

theorem walkFrom_withoutKinds (limits : Limits) (depth count : Nat) : ∀ t : SourceTree,
    t.walkFrom ⟨limits, false⟩ depth count =
      (t.walkFrom ⟨limits, true⟩ depth count).map fun r => (r.1.withoutKinds, r.2)
  | .leaf label => by
    rw [walkFrom, walkFrom, WalkOptions.enter_withoutKinds]
    cases WalkOptions.enter ⟨limits, true⟩ depth (count + 1) label with
    | error failure => rfl
    | ok node => rfl
  | .container label children => by
    rw [walkFrom, walkFrom, WalkOptions.enter_withoutKinds]
    cases WalkOptions.enter ⟨limits, true⟩ depth (count + 1) label with
    | error failure => rfl
    | ok node =>
      obtain ⟨content, span, kind, empty⟩ := node
      rw [Except.map, ok_bind, ok_bind, walkAll_withoutKinds]
      cases walkAll ⟨limits, true⟩ (depth + 1) (count + 1) children with
      | error failure => rfl
      | ok r => rfl

theorem walkAll_withoutKinds (limits : Limits) (depth count : Nat) : ∀ ts : List SourceTree,
    walkAll ⟨limits, false⟩ depth count ts =
      (walkAll ⟨limits, true⟩ depth count ts).map fun r => (Outline.withoutKindsAll r.1, r.2)
  | [] => by
    rw [walkAll, walkAll]
    rfl
  | t :: ts => by
    rw [walkAll, walkAll, walkFrom_withoutKinds]
    cases t.walkFrom ⟨limits, true⟩ depth count with
    | error failure => rfl
    | ok r =>
      obtain ⟨n, count'⟩ := r
      rw [Except.map, ok_bind, ok_bind]
      dsimp only
      rw [walkAll_withoutKinds]
      cases walkAll ⟨limits, true⟩ depth count' ts with
      | error failure => rfl
      | ok r => rfl

end

theorem walk_withoutKinds (limits : Limits) (t : SourceTree) :
    t.walk ⟨limits, false⟩ = (t.walk ⟨limits, true⟩).map Outline.withoutKinds := by
  rw [walk, walk, walkFrom_withoutKinds]
  cases t.walkFrom ⟨limits, true⟩ 0 0 with
  | error failure => rfl
  | ok r => rfl

theorem Mirrors.kind_eq {t : SourceTree} {n : Outline} (h : Mirrors true t n) :
    n.kind = t.label.kind := by
  cases h with
  | leaf _ => rfl
  | container _ _ => rfl

/-- A node of the outline has the kind of the node of the tree at the same path. -/
theorem kind_at?_of_walk {limits : Limits} {t : SourceTree} {n : Outline}
    (h : t.walk ⟨limits, true⟩ = .ok n) (path : List Nat) :
    (n.at? path).map Outline.kind = t.kindAt? path := by
  have hrel := (mirrors_of_walk h).rel_at? path
  rw [kindAt?]
  generalize t.at? path = source, n.at? path = outline at hrel ⊢
  cases hrel with
  | none => rfl
  | some hmirrors => rw [Option.map_some, Option.map_some, hmirrors.kind_eq]

end SourceTree

/-! ## Graphs -/

namespace SourceGraph

variable {g : SourceGraph}

/-- The kind of the node that a path from the given node leads to. -/
def kindAt? (g : SourceGraph) (root : Nat) (path : List Nat) : Option (Option String) :=
  (g.idAt? root path).bind fun id => g.nodes[id]?.map fun node => node.label.kind

theorem walkEach_withoutKinds {walk walk' : Nat → Nat → Outcome (Outline × Nat)}
    (h : ∀ count id, walk' count id =
      (walk count id).map (Except.map fun r => (r.1.withoutKinds, r.2)))
    (count : Nat) (ids : List Nat) :
    walkEach walk' count ids =
      (walkEach walk count ids).map (Except.map fun r => (Outline.withoutKindsAll r.1, r.2)) := by
  induction ids generalizing count with
  | nil => rfl
  | cons id ids ih =>
    rw [walkEach, walkEach, h]
    rcases walk count id with _ | (failure | ⟨n, count'⟩)
    · rfl
    · rfl
    · dsimp only [Option.map, Except.map, Outcome.andThen]
      rw [ih]
      rcases walkEach walk count' ids with _ | (failure | r) <;> rfl

theorem walkFrom_withoutKinds (g : SourceGraph) (limits : Limits) (levels depth count id : Nat) :
    g.walkFrom ⟨limits, false⟩ levels depth count id =
      (g.walkFrom ⟨limits, true⟩ levels depth count id).map
        (Except.map fun r => (r.1.withoutKinds, r.2)) := by
  induction levels generalizing depth count id with
  | zero => rfl
  | succ levels ih =>
    rw [walkFrom, walkFrom]
    cases g.nodes[id]? with
    | none => rfl
    | some node =>
      dsimp only
      rw [WalkOptions.enter_withoutKinds]
      cases WalkOptions.enter ⟨limits, true⟩ depth (count + 1) node.label with
      | error failure => rfl
      | ok outline =>
        obtain ⟨content, span, kind, empty⟩ := outline
        dsimp only [Except.map, Outcome.andThen]
        rw [walkEach_withoutKinds (fun count id => ih (depth + 1) count id)]
        rcases walkEach (g.walkFrom ⟨limits, true⟩ levels (depth + 1)) (count + 1)
          (node.children.getD []) with _ | (failure | r) <;> rfl

theorem walk_withoutKinds (g : SourceGraph) (limits : Limits) (root : Nat) :
    g.walk ⟨limits, false⟩ root =
      (g.walk ⟨limits, true⟩ root).map (Except.map Outline.withoutKinds) := by
  have hlevels : g.levels ⟨limits, false⟩ = g.levels ⟨limits, true⟩ := rfl
  rw [walk, walk, hlevels, walkFrom_withoutKinds]
  rcases g.walkFrom ⟨limits, true⟩ (g.levels ⟨limits, true⟩) 0 0 root with _ | (failure | r) <;> rfl

theorem Unfolds.exists_node {id : Nat} {t : SourceTree} (h : g.Unfolds id t) :
    ∃ node, g.nodes[id]? = some node ∧ node.label = t.label := by
  cases h with
  | leaf found => exact ⟨_, found, rfl⟩
  | container found _ => exact ⟨_, found, rfl⟩

theorem Unfolds.kindAt?_eq {root : Nat} {t : SourceTree} (h : g.Unfolds root t)
    (path : List Nat) : t.kindAt? path = g.kindAt? root path := by
  have hrel := h.rel_at? path
  rw [SourceTree.kindAt?, kindAt?]
  generalize g.idAt? root path = id, t.at? path = tree at hrel ⊢
  cases hrel with
  | none => rfl
  | some hunfolds =>
    obtain ⟨node, found, hlabel⟩ := hunfolds.exists_node
    rw [Option.map_some, Option.bind_some, found, Option.map_some, hlabel]

/-- A node of the outline has the kind of the node of the graph at the same path. -/
theorem kind_at?_of_walk {limits : Limits} {root : Nat} {n : Outline}
    (h : g.walk ⟨limits, true⟩ root = some (.ok n)) (path : List Nat) :
    (n.at? path).map Outline.kind = g.kindAt? root path := by
  obtain ⟨t, hunfolds, hwalk⟩ := exists_tree_of_walk h
  rw [SourceTree.kind_at?_of_walk hwalk, hunfolds.kindAt?_eq]

theorem rel_recordsKinds (g : SourceGraph) (limits : Limits) (root : Nat) :
    Option.Rel (RecordsKinds (g.kindAt? root)) (g.walk ⟨limits, true⟩ root)
      (g.walk ⟨limits, false⟩ root) := by
  rw [walk_withoutKinds]
  cases hwalk : g.walk ⟨limits, true⟩ root with
  | none => exact .none
  | some recorded =>
    refine .some (recordsKinds_of_map rfl ?_)
    rintro n rfl
    exact kind_at?_of_walk hwalk

end SourceGraph

/-- **Kinds.** A walk that records kinds and one that does not, with the same limits, fail alike. If
they succeed, the second gives the outline of the first without its kinds, and the first has at
every path the kind of the node of the source. This holds of trees and of graphs, cycles included,
where a walk with a limit ends. -/
theorem walk_recordsKinds (limits : Limits) :
    (∀ t : SourceTree,
        RecordsKinds t.kindAt? (t.walk ⟨limits, true⟩) (t.walk ⟨limits, false⟩)) ∧
      ∀ (g : SourceGraph) (root : Nat),
        Option.Rel (RecordsKinds (g.kindAt? root)) (g.walk ⟨limits, true⟩ root)
            (g.walk ⟨limits, false⟩ root) ∧
          (g.Closed → root < g.nodes.size → limits.maxDepth ≠ none ∨ limits.maxNodes ≠ none →
            ∃ recorded, g.walk ⟨limits, true⟩ root = some recorded) := by
  refine ⟨?_, ?_⟩
  · intro t
    apply recordsKinds_of_map (SourceTree.walk_withoutKinds limits t)
    intro n h
    exact SourceTree.kind_at?_of_walk h
  · intro g root
    refine ⟨SourceGraph.rel_recordsKinds g limits root, ?_⟩
    intro hg hroot hlimit
    exact SourceGraph.exists_walk_eq_some hg hlimit hroot

/-- The call has a kind at three of its nodes. Round the ring, two levels are not enough, with kinds
and without. -/
theorem walk_recordsKinds_call :
    (SourceTree.call.walk ⟨{}, true⟩ = .ok SourceTree.callOutline ∧
        SourceTree.call.walk ⟨{}, false⟩ = .ok SourceTree.callOutline.withoutKinds ∧
        (SourceTree.callOutline.at? [1]).map Outline.kind = some (some "list")) ∧
      SourceGraph.ring.Closed ∧
        ∃ recorded plain, SourceGraph.ring.walk ⟨⟨some 2, none⟩, true⟩ 0 = some recorded ∧
          SourceGraph.ring.walk ⟨⟨some 2, none⟩, false⟩ 0 = some plain ∧
          RecordsKinds (SourceGraph.ring.kindAt? 0) recorded plain ∧
          plain = .error (.limitExceeded .depth 2 ⟨1, 1⟩) := by
  have hcall : SourceTree.call.walk ⟨{}, true⟩ = .ok SourceTree.callOutline := rfl
  have htree := (walk_recordsKinds {}).1 SourceTree.call
  obtain ⟨hrel, hends⟩ := (walk_recordsKinds ⟨some 2, none⟩).2 SourceGraph.ring 0
  obtain ⟨recorded, hrecorded⟩ :=
    hends SourceGraph.ring_closed (by decide) (Or.inl (Option.some_ne_none 2))
  have hplain : SourceGraph.ring.walk ⟨⟨some 2, none⟩, false⟩ 0 =
      some (.error (.limitExceeded .depth 2 ⟨1, 1⟩)) := rfl
  rw [hrecorded, hplain] at hrel
  cases hrel with
  | some hkinds =>
    exact ⟨⟨hcall, htree.erased _ hcall, htree.kinds _ hcall [1]⟩, SourceGraph.ring_closed,
      recorded, _, hrecorded, hplain, hkinds, rfl⟩

end SyntaxOutline
