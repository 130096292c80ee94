import Mathlib.Data.Finset.Card
import Mathlib.Data.Set.Card
import SyntaxOutline.Proofs.Graph.Levels
import SyntaxOutline.Proofs.Outline.Occurrences
import SyntaxOutline.Proofs.Walk.Descent

/-!
# Unfolding a graph

A graph without cycles below a node unfolds from that node to a finite tree, in which a shared node
stands once for every path that leads to it. A walk does not notice the sharing: it takes the same
steps on the graph and on the tree. Cycles in other parts of the graph do not matter.

* `Unfolds` : the tree is the graph unfolded from a node.
* `acc_of_not_reachesCycle`, `exists_unfolds` : without cycles below a node there is such a tree.
* `enters_of_unfolds` : the walks of graph and tree take the same steps.
* `Walks.encard_paths` : a node is entered as often as there are paths to it.
* `walk_unfolding` : the walk of a graph without cycles is the walk of its unfolding.
-/

namespace SyntaxOutline

/-- A node that is entered gives its text, with line endings marked, and has no children yet. -/
theorem WalkOptions.enter_eq_ok {o : WalkOptions} {depth count : Nat} {label : Label} {n : Outline}
    (h : o.enter depth (count + 1) label = .ok n) :
    ∃ s, label.text = .ok s ∧
      n = ⟨LineEnding.mark s, label.span, if o.includeKinds then label.kind else none, []⟩ := by
  have hadmits := admits_of_enter h
  obtain ⟨s, hs⟩ := hadmits.text
  have henter := hadmits.enter hs
  rw [h] at henter
  exact ⟨s, hs, Except.ok.inj henter⟩

/-- A leaf is walked like a container without children. -/
theorem SourceTree.walkFrom_eq (o : WalkOptions) (depth count : Nat) (t : SourceTree) :
    t.walkFrom o depth count = (do
      let node ← o.enter depth (count + 1) t.label
      let (children, count) ← walkAll o (depth + 1) (count + 1) (t.children?.getD [])
      return ({ node with children }, count)) := by
  cases t with
  | leaf label =>
    rw [walkFrom, SourceTree.label]
    cases henter : o.enter depth (count + 1) label with
    | error failure => rfl
    | ok node =>
      obtain ⟨s, -, rfl⟩ := WalkOptions.enter_eq_ok henter
      rfl
  | container label children => rfl

namespace SourceGraph

/-- The tree is the graph unfolded from a node. -/
inductive Unfolds (g : SourceGraph) : Nat → SourceTree → Prop where
  | leaf {id : Nat} {label : Label} (found : g.nodes[id]? = some ⟨label, none⟩) :
      Unfolds g id (.leaf label)
  | container {id : Nat} {label : Label} {ids : List Nat} {children : List SourceTree}
      (found : g.nodes[id]? = some ⟨label, some ids⟩)
      (below : List.Forall₂ (Unfolds g) ids children) :
      Unfolds g id (.container label children)

variable {g : SourceGraph} {o : WalkOptions} {depth count root : Nat} {ids : List Nat}
  {visits : List Visit}

mutual

theorem Unfolds.unique : ∀ {t t' : SourceTree} {id : Nat}, g.Unfolds id t → g.Unfolds id t' → t = t'
  | .leaf label, t', id, h, h' => by
    cases h with
    | leaf found =>
      cases h' with
      | leaf found' =>
        rw [found] at found'
        cases found'
        rfl
      | container found' _ =>
        rw [found] at found'
        cases found'
  | .container label children, t', id, h, h' => by
    cases h with
    | container found below =>
      cases h' with
      | leaf found' =>
        rw [found] at found'
        cases found'
      | container found' below' =>
        rw [found] at found'
        cases found'
        rw [unfolds_all_unique below below']

theorem unfolds_all_unique : ∀ {ts ts' : List SourceTree} {ids : List Nat},
    List.Forall₂ g.Unfolds ids ts → List.Forall₂ g.Unfolds ids ts' → ts = ts'
  | [], ts', ids, h, h' => by
    cases h
    cases h'
    rfl
  | t :: ts, ts', ids, h, h' => by
    cases h with
    | cons head tail =>
      cases h' with
      | cons head' tail' => rw [head.unique head', unfolds_all_unique tail tail']

end

/-! ## Graphs without cycles unfold -/

/-- Where no cycle can be reached, no path through children goes on for ever. -/
theorem acc_of_not_reachesCycle (hg : g.Closed) (h : ¬ g.ReachesCycle root) :
    Acc (fun child id => g.Child id child) root := by
  classical
  -- the induction is on the number of nodes that can be reached in one step or more
  let below : Nat → Finset Nat := fun id =>
    (Finset.range g.nodes.size).filter fun x => Relation.TransGen g.Child id x
  induction hn : (below root).card using Nat.strongRecOn generalizing root with
  | ind n ih =>
    refine Acc.intro root fun child hchild => ?_
    have hfree : ¬ g.ReachesCycle child := by
      rintro ⟨id, hpath, hcycle⟩
      exact h ⟨id, .head hchild hpath, hcycle⟩
    have hsubset : below child ⊆ below root := by
      intro x hx
      obtain ⟨hsize, hpath⟩ := Finset.mem_filter.mp hx
      exact Finset.mem_filter.mpr ⟨hsize, .head hchild hpath⟩
    have hmem : child ∈ below root := by
      have ⟨node, children, found, hchildren, hin⟩ := hchild
      have hsize := hg root node found child (by rw [hchildren]; exact hin)
      exact Finset.mem_filter.mpr ⟨Finset.mem_range.mpr hsize, .single hchild⟩
    have hnot : child ∉ below child := fun hx =>
      hfree ⟨child, .refl, (Finset.mem_filter.mp hx).2⟩
    have hlt : (below child).card < (below root).card :=
      Finset.card_lt_card ⟨hsubset, fun hsup => hnot (hsup hmem)⟩
    exact ih _ (hn ▸ hlt) hfree rfl

theorem exists_unfolds (hg : g.Closed) (hroot : root < g.nodes.size)
    (h : Acc (fun child id => g.Child id child) root) : ∃ t, g.Unfolds root t := by
  induction h with
  | intro id _ ih =>
    have found : g.nodes[id]? = some g.nodes[id] := Array.getElem?_eq_getElem hroot
    generalize g.nodes[id] = node at found
    obtain ⟨label, children⟩ := node
    cases children with
    | none => exact ⟨_, .leaf found⟩
    | some ids =>
      have hbelow : ∀ child ∈ ids, ∃ t, g.Unfolds child t := by
        intro child hchild
        exact ih child ⟨_, ids, found, rfl, hchild⟩ (hg id _ found child hchild)
      obtain ⟨ts, hts⟩ := exists_forall₂ hbelow
      exact ⟨_, .container found hts⟩

/-! ## The walk of the unfolding -/

/-- One step of both walks: a node and its counterpart are entered or refused alike. -/
theorem exists_enters_cons {id : Nat} {node : GraphNode} {t : SourceTree} {ts : List SourceTree}
    (found : g.nodes[id]? = some node) (hlabel : node.label = t.label)
    (hbelow : ∃ visits, g.Enters o (depth + 1) (count + 1) (node.children.getD []) visits
      (SourceTree.walkAll o (depth + 1) (count + 1) (t.children?.getD [])))
    (hbehind : ∀ count, ∃ visits, g.Enters o depth count ids visits
      (SourceTree.walkAll o depth count ts)) :
    ∃ visits, g.Enters o depth count (id :: ids) visits
      (SourceTree.walkAll o depth count (t :: ts)) := by
  rw [SourceTree.walkAll, SourceTree.walkFrom_eq, ← hlabel]
  obtain ⟨visits, hbelow⟩ := hbelow
  cases enter : o.enter depth (count + 1) node.label with
  | error failure => exact ⟨_, .refused found enter⟩
  | ok outline =>
    generalize SourceTree.walkAll o (depth + 1) (count + 1) (t.children?.getD []) = below at hbelow
    cases below with
    | error failure => exact ⟨_, .failsBelow found enter hbelow⟩
    | ok r =>
      obtain ⟨outlines, count'⟩ := r
      obtain ⟨visits', hbehind⟩ := hbehind count'
      simp only [ok_bind, pure, Except.pure]
      generalize SourceTree.walkAll o depth count' ts = behind at hbehind
      cases behind with
      | error failure => exact ⟨_, .failsBehind found enter hbelow hbehind⟩
      | ok r => exact ⟨_, .cons found enter hbelow hbehind⟩

/-- Walks of the graph take the steps of the walks of the trees to which it unfolds. -/
theorem enters_of_unfolds (o : WalkOptions) : ∀ {ts : List SourceTree} {ids : List Nat},
    List.Forall₂ g.Unfolds ids ts → ∀ depth count,
    ∃ visits, g.Enters o depth count ids visits (SourceTree.walkAll o depth count ts)
  | [], ids, h, depth, count => by
    cases h
    exact ⟨[], .nil⟩
  | .leaf label :: ts, ids, h, depth, count => by
    cases h with
    | cons head tail =>
      cases head with
      | leaf found =>
        exact exists_enters_cons found rfl ⟨[], .nil⟩ (enters_of_unfolds o tail depth)
  | .container label children :: ts, ids, h, depth, count => by
    cases h with
    | cons head tail =>
      cases head with
      | container found below =>
        exact exists_enters_cons found rfl (enters_of_unfolds o below (depth + 1) (count + 1))
          (enters_of_unfolds o tail depth)

theorem walk_of_unfolds {t : SourceTree} (h : g.Unfolds root t) (o : WalkOptions) :
    g.walk o root = some (t.walk o) := by
  obtain ⟨visits, henters⟩ := enters_of_unfolds o (.cons h .nil) 0 0
  apply walk_eq_some_iff.mpr
  refine ⟨visits, ?_⟩
  rw [SourceTree.walkAll] at henters
  rw [SourceTree.walk]
  cases hwalk : t.walkFrom o 0 0 with
  | error failure =>
    rw [hwalk] at henters
    exact .error henters
  | ok r =>
    rw [hwalk] at henters
    exact .ok henters

/-- A walk that succeeds was the walk of a tree. -/
theorem Enters.exists_unfolds {outlines : List Outline} {count' : Nat}
    (h : g.Enters o depth count ids visits (.ok (outlines, count'))) :
    ∃ ts, List.Forall₂ g.Unfolds ids ts := by
  induction h using Enters.ok_induction with
  | nil => exact ⟨[], .nil⟩
  | @cons _ _ _ _ _ _ node _ _ _ _ _ found _ _ _ ih ihrest =>
    obtain ⟨children, hchildren⟩ := ih
    obtain ⟨ts, hts⟩ := ihrest
    obtain ⟨label, ids⟩ := node
    cases ids with
    | none => exact ⟨_, .cons (.leaf found) hts⟩
    | some ids => exact ⟨_, .cons (.container found hchildren) hts⟩

theorem exists_tree_of_walk {n : Outline} (h : g.walk o root = some (.ok n)) :
    ∃ t, g.Unfolds root t ∧ t.walk o = .ok n := by
  obtain ⟨visits, hvisits⟩ := walk_eq_some_iff.mp h
  cases hvisits with
  | ok henters =>
    obtain ⟨ts, hts⟩ := henters.exists_unfolds
    cases hts with
    | cons ht _ =>
      have hwalk := walk_of_unfolds ht o
      rw [h] at hwalk
      exact ⟨_, ht, (Option.some.inj hwalk).symm⟩

/-! ## Paths -/

/-- The node that a path of child indexes leads to. -/
def idAt? (g : SourceGraph) (id : Nat) : List Nat → Option Nat
  | [] => some id
  | i :: path =>
    (g.nodes[id]?.bind GraphNode.children).bind fun ids =>
      ids[i]?.bind fun child => g.idAt? child path

theorem idAt?_cons {id i child : Nat} {node : GraphNode} (found : g.nodes[id]? = some node)
    (hchild : (node.children.getD [])[i]? = some child) (path : List Nat) :
    g.idAt? id (i :: path) = g.idAt? child path := by
  obtain ⟨label, children⟩ := node
  cases children with
  | none => cases hchild
  | some ids =>
    have hids : ids[i]? = some child := hchild
    rw [idAt?, found, Option.bind_some, Option.bind_some, hids, Option.bind_some]

/-- Along a path, what is reached in the graph unfolds to what is reached in the tree. -/
theorem Unfolds.rel_at? {id : Nat} {t : SourceTree} (h : g.Unfolds id t) (path : List Nat) :
    Option.Rel g.Unfolds (g.idAt? id path) (t.at? path) := by
  induction path generalizing id t with
  | nil => exact .some h
  | cons i path ih =>
    rw [idAt?, SourceTree.at?]
    cases h with
    | leaf found =>
      rw [found]
      exact .none
    | @container _ label ids children found below =>
      rw [found, SourceTree.children?]
      dsimp only [Option.bind_some]
      have hchild := rel_getElem? below i
      generalize ids[i]? = child, children[i]? = tree at hchild ⊢
      cases hchild with
      | none => exact .none
      | some hunfolds => exact ih hunfolds

/-- The nodes that a walk comes to are those that the places of its outlines lead to. -/
theorem Enters.map_id {outlines : List Outline} {count' : Nat}
    (h : g.Enters o depth count ids visits (.ok (outlines, count'))) {i : Nat}
    {follow : List Nat → Option Nat}
    (hfollow : ∀ j id, ids[j]? = some id → ∀ path, follow ((i + j) :: path) = g.idAt? id path) :
    (Outline.placesFrom i outlines).map follow = visits.map fun v => some v.id := by
  induction h using Enters.ok_induction generalizing i follow with
  | nil => rw [Outline.placesFrom, List.map_nil, List.map_nil]
  | @cons _ _ _ _ id ids node _ outlines outlines' visits visits' found _ _ _ ih ihrest =>
    have hfirst : follow ∘ (i :: ·) = g.idAt? id := funext fun path => hfollow 0 id rfl path
    have hbelow : (Outline.placesFrom 0 outlines).map (g.idAt? id) =
        visits.map fun v => some v.id := by
      apply ih
      intro j child hchild path
      rw [Nat.zero_add]
      exact idAt?_cons found hchild path
    have hbehind : (Outline.placesFrom (i + 1) outlines').map follow =
        visits'.map fun v => some v.id := by
      apply ihrest
      intro j child hchild path
      rw [Nat.add_assoc, Nat.add_comm 1]
      exact hfollow (j + 1) child hchild path
    rw [Outline.placesFrom, Outline.places, List.map_append, List.map_map, hfirst, List.map_cons,
      hbelow, hbehind, idAt?, List.map_cons, List.map_append, List.cons_append]

theorem Walks.map_id {n : Outline} (h : g.Walks o root visits (.ok n)) :
    n.places.map (g.idAt? root) = visits.map fun v => some v.id := by
  cases h with
  | ok h =>
    have hplaces : (Outline.placesFrom 0 [n]).map (fun path => g.idAt? root path.tail) =
        visits.map fun v => some v.id := by
      apply h.map_id
      intro j id hj path
      obtain ⟨rfl, rfl⟩ : j = 0 ∧ root = id := by
        cases j with
        | zero => exact ⟨rfl, Option.some.inj hj⟩
        | succ j => cases hj
      rfl
    rw [Outline.placesFrom, Outline.placesFrom, List.append_nil, List.map_map] at hplaces
    exact hplaces

theorem Walks.count_id {n : Outline} (h : g.Walks o root visits (.ok n)) (id : Nat) :
    (visits.map Visit.id).count id =
      (n.places.filter fun path => g.idAt? root path == some id).length := by
  calc (visits.map Visit.id).count id
      = ((visits.map Visit.id).map some).count (some id) :=
        (List.count_map_of_injective _ _ (Option.some_injective _) _).symm
    _ = (n.places.map (g.idAt? root)).count (some id) := by
        rw [h.map_id, List.map_map]
        rfl
    _ = n.places.countP fun path => g.idAt? root path == some id := by
        rw [List.count, List.countP_map]
        rfl
    _ = (n.places.filter fun path => g.idAt? root path == some id).length :=
        List.countP_eq_length_filter

/-- What a path leads to in the graph has its counterparts in the tree and in the outline. -/
theorem Walks.mem_places {n : Outline} (h : g.Walks o root visits (.ok n)) {path : List Nat}
    {id : Nat} (hpath : g.idAt? root path = some id) : path ∈ n.places := by
  obtain ⟨t, hunfolds, hwalk⟩ := exists_tree_of_walk (walk_of_walks h)
  have hgraph := hunfolds.rel_at? path
  have htree := (SourceTree.mirrors_of_walk hwalk).rel_at? path
  rw [hpath] at hgraph
  rw [Outline.mem_places_iff]
  generalize t.at? path = tree at hgraph htree
  cases hgraph with
  | some _ =>
    generalize n.at? path = outline at htree
    cases htree with
    | some _ => rfl

/-- A walk that succeeds comes to a node once for every path that leads to it. -/
theorem Walks.encard_paths {n : Outline} (h : g.Walks o root visits (.ok n)) (id : Nat) :
    {path | g.idAt? root path = some id}.encard = (visits.map Visit.id).count id := by
  have hpaths : {path | g.idAt? root path = some id} =
      ((n.places.filter fun path => g.idAt? root path == some id).toFinset : Set (List Nat)) := by
    ext path
    rw [List.coe_toFinset, Set.mem_ofPred_eq, Set.mem_ofPred_eq, List.mem_filter, beq_iff_eq]
    exact ⟨fun hpath => ⟨h.mem_places hpath, hpath⟩, And.right⟩
  rw [hpaths, Set.encard_coe_eq_coe_finsetCard,
    List.toFinset_card_of_nodup ((Outline.nodup_places n).filter _), h.count_id]

/-- The node of an outline is made of the node that a walk came to. -/
def Emits (g : SourceGraph) (o : WalkOptions) (v : Visit) (x : Outline) : Prop :=
  ∃ node s, g.nodes[v.id]? = some node ∧ node.label.text = .ok s ∧
    x.content = LineEnding.mark s ∧ x.span = node.label.span ∧
    x.kind = if o.includeKinds then node.label.kind else none

/-- The outlines list one node for every node that the walk came to, in the same order. -/
theorem Enters.emits {outlines : List Outline} {count' : Nat}
    (h : g.Enters o depth count ids visits (.ok (outlines, count'))) :
    List.Forall₂ (g.Emits o) visits (Outline.preorderAll outlines) := by
  induction h using Enters.ok_induction with
  | nil =>
    rw [Outline.preorderAll]
    exact .nil
  | cons found enter _ _ ih ihrest =>
    obtain ⟨s, hs, rfl⟩ := WalkOptions.enter_eq_ok enter
    rw [Outline.preorderAll, Outline.preorder, List.cons_append]
    exact .cons ⟨_, s, found, hs, rfl, rfl, rfl⟩ (List.rel_append ih ihrest)

theorem Walks.emits {n : Outline} (h : g.Walks o root visits (.ok n)) :
    List.Forall₂ (g.Emits o) visits n.iterator.toList := by
  cases h with
  | ok h =>
    have hemits := h.emits
    rw [Outline.preorderAll, Outline.preorderAll, List.append_nil] at hemits
    rwa [Outline.toList_iterator_eq]

/-- **Sharing.** If no cycle can be reached from a node, the graph unfolds from it to one finite
tree, and every walk, also without limits, ends as the walk of this tree does. If the walk succeeds,
the outline lists one node for every node that the walk comes to, and it comes to a node as often as
there are paths to it. -/
theorem walk_unfolding (g : SourceGraph) (hg : g.Closed) (root : Nat) (hroot : root < g.nodes.size)
    (h : ¬ g.ReachesCycle root) :
    ∃ t, g.Unfolds root t ∧ (∀ t', g.Unfolds root t' → t' = t) ∧
      (∀ o, g.walk o root = some (t.walk o)) ∧
      ∀ o n, g.walk o root = some (.ok n) →
        ∃ visits, g.Walks o root visits (.ok n) ∧
          List.Forall₂ (g.Emits o) visits n.iterator.toList ∧
          ∀ id, {path | g.idAt? root path = some id}.encard = (visits.map Visit.id).count id := by
  obtain ⟨t, ht⟩ := exists_unfolds hg hroot (acc_of_not_reachesCycle hg h)
  refine ⟨t, ht, ?_, walk_of_unfolds ht, ?_⟩
  · intro t' ht'
    exact ht'.unique ht
  · intro o n hwalk
    obtain ⟨visits, hvisits⟩ := walk_eq_some_iff.mp hwalk
    exact ⟨visits, hvisits, hvisits.emits, hvisits.encard_paths⟩

/-- A node has a part twice and a leaf, which the part has as well. Beside them stands a node that
is its own child. -/
def shared : SourceGraph :=
  ⟨#[⟨⟨.ok "aaa", ⟨0, 3⟩, none⟩, some [1, 1, 2]⟩, ⟨⟨.ok "a", ⟨0, 1⟩, none⟩, some [2]⟩,
    ⟨⟨.ok "a", ⟨0, 1⟩, some "word"⟩, none⟩, ⟨⟨.ok "b", ⟨3, 1⟩, none⟩, some [3]⟩]⟩

theorem shared_closed : shared.Closed := by
  intro id node found child hchild
  have hid : id < 4 := (Array.getElem?_eq_some_iff.mp found).1
  have hcases : id = 0 ∨ id = 1 ∨ id = 2 ∨ id = 3 := by omega
  rcases hcases with rfl | rfl | rfl | rfl <;> cases found <;> simp_all [shared]
  omega

theorem shared_not_reachesCycle : ¬ shared.ReachesCycle 0 := by
  have hleaf : Acc (fun child id => shared.Child id child) 2 := by
    refine Acc.intro _ ?_
    rintro child ⟨node, children, ⟨⟩, ⟨⟩, -⟩
  have hpart : Acc (fun child id => shared.Child id child) 1 := by
    refine Acc.intro _ ?_
    rintro child ⟨node, children, ⟨⟩, ⟨⟩, hchild⟩
    rw [List.mem_singleton.mp hchild]
    exact hleaf
  refine not_reachesCycle_of_acc (Acc.intro _ ?_)
  rintro child ⟨node, children, ⟨⟩, ⟨⟩, hchild⟩
  have hcases : child = 1 ∨ child = 2 := by simpa using hchild
  rcases hcases with rfl | rfl
  · exact hpart
  · exact hleaf

/-- The outline of the whole, with the leaf in three places. -/
def sharedOutline : Outline :=
  ⟨LineEnding.mark "aaa", ⟨0, 3⟩, none,
    [⟨LineEnding.mark "a", ⟨0, 1⟩, none, [⟨LineEnding.mark "a", ⟨0, 1⟩, some "word", []⟩]⟩,
      ⟨LineEnding.mark "a", ⟨0, 1⟩, none, [⟨LineEnding.mark "a", ⟨0, 1⟩, some "word", []⟩]⟩,
      ⟨LineEnding.mark "a", ⟨0, 1⟩, some "word", []⟩]⟩

/-- Without limits the walk ends in spite of the cycle elsewhere, and comes to the leaf three
times. With a limit of four nodes graph and tree fail alike. -/
theorem walk_unfolding_shared :
    shared.Closed ∧ ¬ shared.ReachesCycle 0 ∧ shared.ReachesCycle 3 ∧
      ∃ t visits, shared.Unfolds 0 t ∧ t.walk ⟨{}, true⟩ = .ok sharedOutline ∧
        shared.walk ⟨{}, true⟩ 0 = some (.ok sharedOutline) ∧
        t.walk ⟨⟨none, some 4⟩, true⟩ = .error (.limitExceeded .nodes 4 ⟨0, 1⟩) ∧
        shared.Walks ⟨{}, true⟩ 0 visits (.ok sharedOutline) ∧
        List.Forall₂ (shared.Emits ⟨{}, true⟩) visits sharedOutline.iterator.toList ∧
        {path | shared.idAt? 0 path = some 2}.encard = 3 := by
  have hcycle : shared.ReachesCycle 3 :=
    ⟨3, .refl, .single ⟨_, [3], rfl, rfl, List.mem_cons_self⟩⟩
  have hwalk : shared.walk ⟨{}, true⟩ 0 = some (.ok sharedOutline) := rfl
  have hlimited : shared.walk ⟨⟨none, some 4⟩, true⟩ 0 =
      some (.error (.limitExceeded .nodes 4 ⟨0, 1⟩)) := rfl
  obtain ⟨t, ht, -, heq, hok⟩ :=
    walk_unfolding shared shared_closed 0 (by decide) shared_not_reachesCycle
  obtain ⟨visits, hvisits, hemits, hpaths⟩ := hok _ _ hwalk
  have hthree : (visits.map Visit.id).count 2 = 3 := hvisits.count_id 2
  refine ⟨shared_closed, shared_not_reachesCycle, hcycle, t, visits, ht, ?_, hwalk, ?_, hvisits,
    hemits, ?_⟩
  · exact Option.some.inj ((heq _).symm.trans hwalk)
  · exact Option.some.inj ((heq _).symm.trans hlimited)
  · rw [hpaths, hthree]
    rfl

end SourceGraph

end SyntaxOutline
