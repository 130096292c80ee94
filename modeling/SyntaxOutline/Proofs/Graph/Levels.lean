import Mathlib.Data.List.Perm.Subperm
import SyntaxOutline.Proofs.Graph.Cycles

/-!
# The bound on the levels of a walk

A walk of a graph is computed with a bound on the levels that it goes down. This bound is no
restriction: a walk that ends at all ends within it. With a limit, a walk comes to no node further
down. Without limits, a walk does below a node the same wherever it comes to that node, so that it
does not end if it comes to the node once more below itself. In a walk that ends, all nodes on a
path are therefore different, and there are no more levels than nodes in the graph.

* `walkEach_of_enters` : levels enough for the nodes that a walk comes to are enough for the walk.
* `Enters.length_eq` : without limits, depth and count do not matter.
* `Enters.depth_lt_levels` : no node that a walk comes to lies below the bound.
* `walk_eq_some_iff` : a walk is computed if and only if it ends.
-/

namespace SyntaxOutline

/-- No limit is set. -/
def WalkOptions.Unlimited (o : WalkOptions) : Prop :=
  o.limits.maxDepth = none ∧ o.limits.maxNodes = none

/-- Without limits, nodes are entered alike at every depth and place. -/
theorem WalkOptions.Unlimited.enter_eq {o : WalkOptions} (h : o.Unlimited)
    (depth count depth' count' : Nat) (label : Label) :
    o.enter depth count label = o.enter depth' count' label := by
  obtain ⟨hdepth, hnodes⟩ := h
  unfold WalkOptions.enter Limits.allowsDepth Limits.allowsCount
  rw [hdepth, hnodes]

namespace SourceGraph

variable {g : SourceGraph} {o : WalkOptions} {depth count : Nat} {ids : List Nat}
  {visits : List Visit} {result : Except WalkFailure (List Outline × Nat)}

/-! ## Levels enough for the nodes -/

theorem walkFrom_of_refused {levels id : Nat} {node : GraphNode} {failure : WalkFailure}
    (found : g.nodes[id]? = some node)
    (enter : o.enter depth (count + 1) node.label = .error failure) :
    g.walkFrom o (levels + 1) depth count id = some (.error failure) := by
  rw [walkFrom, found]
  dsimp only
  rw [enter]
  rfl

theorem walkFrom_of_entered {levels id : Nat} {node : GraphNode} {outline : Outline}
    (found : g.nodes[id]? = some node)
    (enter : o.enter depth (count + 1) node.label = .ok outline)
    (below : walkEach (g.walkFrom o levels (depth + 1)) (count + 1) (node.children.getD []) =
      some result) :
    g.walkFrom o (levels + 1) depth count id =
      some (result.map fun r => ({ outline with children := r.1 }, r.2)) := by
  rw [walkFrom, found]
  dsimp only
  rw [enter, Outcome.andThen, below]
  cases result with
  | error failure => rfl
  | ok r => rfl

/-- The walk from the first of several nodes succeeds, and the walks from the others follow. -/
theorem walkEach_of_entered {levels count' id : Nat} {node : GraphNode} {outline : Outline}
    {outlines : List Outline} (found : g.nodes[id]? = some node)
    (enter : o.enter depth (count + 1) node.label = .ok outline)
    (below : walkEach (g.walkFrom o levels (depth + 1)) (count + 1) (node.children.getD []) =
      some (.ok (outlines, count')))
    (behind : walkEach (g.walkFrom o (levels + 1) depth) count' ids = some result) :
    walkEach (g.walkFrom o (levels + 1) depth) count (id :: ids) =
      some (result.map fun r => ({ outline with children := outlines } :: r.1, r.2)) := by
  rw [walkEach, walkFrom_of_entered found enter below]
  dsimp only [Except.map, Outcome.andThen]
  rw [behind]
  cases result with
  | error failure => rfl
  | ok r => rfl

/-- Levels enough for a node and those behind it are one more than is needed below the node. -/
theorem exists_levels_below {levels : Nat} {v : Visit}
    (h : ∀ w ∈ v :: visits, w.depth < v.depth + levels) :
    ∃ levels', levels = levels' + 1 ∧ ∀ w ∈ visits, w.depth < v.depth + 1 + levels' := by
  have hfirst := h v List.mem_cons_self
  refine ⟨levels - 1, by omega, ?_⟩
  intro w hw
  have hlt := h w (List.mem_cons_of_mem _ hw)
  omega

/-- A walk ends within levels that are enough for every node it comes to. -/
theorem walkEach_of_enters (h : g.Enters o depth count ids visits result) {levels : Nat}
    (hlevels : ∀ v ∈ visits, v.depth < depth + levels) :
    walkEach (g.walkFrom o levels depth) count ids = some result := by
  induction h generalizing levels with
  | nil => rfl
  | refused found enter =>
    obtain ⟨levels, rfl, -⟩ := exists_levels_below hlevels
    rw [walkEach, walkFrom_of_refused found enter]
    rfl
  | failsBelow found enter _ ih =>
    obtain ⟨levels, rfl, hbelow⟩ := exists_levels_below hlevels
    rw [walkEach, walkFrom_of_entered found enter (ih hbelow)]
    rfl
  | failsBehind found enter _ _ ih ihrest | cons found enter _ _ ih ihrest =>
    have hbehind := fun v hv => hlevels v (List.mem_cons_of_mem _ (List.mem_append_right _ hv))
    obtain ⟨levels, rfl, hbelow⟩ := exists_levels_below hlevels
    have hchildren := ih fun v hv => hbelow v (List.mem_append_left _ hv)
    exact walkEach_of_entered found enter hchildren (ihrest hbehind)

/-! ## Without limits -/

/-- Without limits, walks from the same nodes come to equally many nodes and either both succeed or
both fail, whatever the depth and the count are. -/
theorem Enters.length_eq (hfree : o.Unlimited) (h : g.Enters o depth count ids visits result)
    {depth' count' : Nat} {visits' : List Visit}
    {result' : Except WalkFailure (List Outline × Nat)}
    (h' : g.Enters o depth' count' ids visits' result') :
    visits.length = visits'.length ∧ result.isOk = result'.isOk := by
  induction h generalizing depth' count' visits' result' with
  | nil =>
    cases h'
    exact ⟨rfl, rfl⟩
  | @refused depth count id _ node _ found enter =>
    have henter := hfree.enter_eq depth (count + 1) depth' (count' + 1) node.label
    cases h' <;> grind [Except.toBool]
  | @failsBelow depth count id _ node _ _ _ found enter _ ih =>
    have henter := hfree.enter_eq depth (count + 1) depth' (count' + 1) node.label
    cases h' <;> grind [Except.toBool]
  | @failsBehind depth count _ id _ node _ _ _ _ _ found enter _ _ ih ihrest =>
    have henter := hfree.enter_eq depth (count + 1) depth' (count' + 1) node.label
    cases h' <;> grind [Except.toBool]
  | @cons depth count _ _ id _ node _ _ _ _ _ found enter _ _ ih ihrest =>
    have henter := hfree.enter_eq depth (count + 1) depth' (count' + 1) node.label
    cases h' <;> grind [Except.toBool]

/-- Nodes above a walk without limits that comes to `length` nodes: different nodes of the graph,
one at each depth, from which walks come to more nodes. -/
structure Above (g : SourceGraph) (o : WalkOptions) (depth length : Nat) (above : List Nat) :
    Prop where
  nodup : above.Nodup
  length_eq : above.length = depth
  longer : ∀ a ∈ above, a < g.nodes.size ∧
    ∃ d c visits result, g.Enters o d c [a] visits result ∧ length < visits.length

theorem Above.mono {length length' : Nat} {above : List Nat} (h : g.Above o depth length above)
    (hle : length' ≤ length) : g.Above o depth length' above := by
  refine ⟨h.nodup, h.length_eq, ?_⟩
  intro a ha
  obtain ⟨hsize, d, c, visits, result, hwalk, hlt⟩ := h.longer a ha
  exact ⟨hsize, d, c, visits, result, hwalk, Nat.lt_of_le_of_lt hle hlt⟩

theorem Above.depth_le {length : Nat} {above : List Nat} (h : g.Above o depth length above) :
    depth ≤ g.nodes.size := by
  have hsubset : above ⊆ List.range g.nodes.size := by
    intro a ha
    exact List.mem_range.mpr (h.longer a ha).1
  have hle := (h.nodup.subperm hsubset).length_le
  rwa [h.length_eq, List.length_range] at hle

/-- A node that the walk comes to is none of those above, because walks from it are shorter. -/
theorem Above.cons (hfree : o.Unlimited) {length id : Nat} {above : List Nat}
    (h : g.Above o depth length above) (hwalk : g.Enters o depth count [id] visits result)
    (hid : id < g.nodes.size) (hle : visits.length ≤ length) {length' : Nat}
    (hlt : length' < visits.length) : g.Above o (depth + 1) length' (id :: above) := by
  refine ⟨List.nodup_cons.mpr ⟨?_, h.nodup⟩, by rw [List.length_cons, h.length_eq], ?_⟩
  · intro hmem
    obtain ⟨-, d, c, visits', result', hwalk', hlonger⟩ := h.longer id hmem
    have hlength := (hwalk.length_eq hfree hwalk').1
    omega
  · intro a ha
    rcases List.mem_cons.mp ha with rfl | ha
    · exact ⟨hid, depth, count, visits, result, hwalk, hlt⟩
    · exact (h.mono (by omega)).longer a ha

/-- Without limits, a walk that ends comes to no node with as many nodes above it as there are. -/
theorem Enters.depth_lt_size (hfree : o.Unlimited) (h : g.Enters o depth count ids visits result)
    {above : List Nat} (habove : g.Above o depth visits.length above) :
    ∀ v ∈ visits, v.depth < g.nodes.size := by
  induction h generalizing above with
  | nil =>
    intro v hv
    cases hv
  | refused found enter =>
    have hid := (Array.getElem?_eq_some_iff.mp found).1
    have hself := habove.cons hfree (.refused found enter) hid (Nat.le_refl _) Nat.zero_lt_one
    intro v hv
    rw [List.mem_singleton.mp hv]
    exact hself.depth_le
  | failsBelow found enter children ih =>
    have hid := (Array.getElem?_eq_some_iff.mp found).1
    have hself := habove.cons hfree (.failsBelow found enter children) hid (Nat.le_refl _)
      (Nat.lt_succ_self _)
    intro v hv
    rcases List.mem_cons.mp hv with rfl | hv
    · exact hself.depth_le
    · exact ih hself v hv
  | @failsBehind depth _ _ id _ _ _ _ visits _ _ found enter children _ ih ihrest
  | @cons depth _ _ _ id _ _ _ _ _ visits _ found enter children _ ih ihrest =>
    have hid := (Array.getElem?_eq_some_iff.mp found).1
    rw [List.length_cons, List.length_append] at habove
    have hself : g.Above o (depth + 1) visits.length (id :: above) :=
      habove.cons hfree (.cons found enter children .nil) hid (by simp) (by simp)
    intro v hv
    rcases List.mem_cons.mp hv with rfl | hv
    · exact hself.depth_le
    · rcases List.mem_append.mp hv with hv | hv
      · exact ih hself v hv
      · exact ihrest (habove.mono (by omega)) v hv

/-! ## The bound -/

/-- A node lies no deeper than there are nodes before it. -/
theorem Enters.depth_lt_length (h : g.Enters o depth count ids visits result) :
    ∀ v ∈ visits, v.depth < depth + visits.length := by
  induction h with
  | nil =>
    intro v hv
    cases hv
  | refused _ _ => simp
  | failsBelow _ _ _ ih =>
    intro v hv
    rw [List.length_cons]
    rcases List.mem_cons.mp hv with rfl | hv
    · exact Nat.lt_add_of_pos_right (Nat.succ_pos _)
    · have hlt := ih v hv
      omega
  | failsBehind _ _ _ _ ih ihrest | cons _ _ _ _ ih ihrest =>
    intro v hv
    rw [List.length_cons, List.length_append]
    rcases List.mem_cons.mp hv with rfl | hv
    · exact Nat.lt_add_of_pos_right (Nat.succ_pos _)
    · rcases List.mem_append.mp hv with hv | hv
      · have hlt := ih v hv
        omega
      · have hlt := ihrest v hv
        omega

/-- No node that a walk comes to lies below the bound on its levels. -/
theorem Enters.depth_lt_levels {root : Nat} (h : g.Enters o 0 0 [root] visits result) :
    ∀ v ∈ visits, v.depth < g.levels o := by
  intro v hv
  have hdepth : ∀ d, o.limits.maxDepth = some d → v.depth < d.toNat + 2 := fun d hd =>
    Nat.lt_succ_of_le (h.depth_le hd (Nat.zero_le _) v hv)
  have hnodes : ∀ m, o.limits.maxNodes = some m → v.depth < m.toNat + 2 := by
    intro m hm
    have hlt := h.depth_lt_length v hv
    have hle := (h.length_le hm (Nat.zero_le _)).1
    omega
  unfold levels
  cases hd : o.limits.maxDepth with
  | some d =>
    cases hm : o.limits.maxNodes with
    | some m =>
      have hlt := hdepth d hd
      have hlt' := hnodes m hm
      dsimp only
      omega
    | none => exact hdepth d hd
  | none =>
    cases hm : o.limits.maxNodes with
    | some m => exact hnodes m hm
    | none =>
      have habove : g.Above o 0 visits.length [] := by
        refine ⟨List.nodup_nil, rfl, ?_⟩
        intro a ha
        cases ha
      exact Nat.lt_succ_of_lt (h.depth_lt_size ⟨hd, hm⟩ habove v hv)

theorem walk_of_walks {root : Nat} {result : Except WalkFailure Outline}
    (h : g.Walks o root visits result) : g.walk o root = some result := by
  obtain ⟨r, henters⟩ := h.exists_enters
  have heach : walkEach (g.walkFrom o (g.levels o) 0) 0 [root] = some r := by
    apply walkEach_of_enters henters
    intro v hv
    rw [Nat.zero_add]
    exact henters.depth_lt_levels v hv
  have hsome : g.walk o root ≠ none := by
    refine Outcome.andThen_ne_none ?_ fun r _ => Option.some_ne_none _
    intro hnone
    rw [walkEach, hnone] at heach
    cases heach
  obtain ⟨result', hwalk⟩ := Option.ne_none_iff_exists'.mp hsome
  obtain ⟨visits', h'⟩ := exists_walks hwalk
  rw [hwalk, (h.unique h').2]

/-- A walk is computed if and only if it ends. -/
theorem walk_eq_some_iff {root : Nat} {result : Except WalkFailure Outline} :
    g.walk o root = some result ↔ ∃ visits, g.Walks o root visits result := by
  constructor
  · exact exists_walks
  · rintro ⟨visits, h⟩
    exact walk_of_walks h

end SourceGraph

end SyntaxOutline
