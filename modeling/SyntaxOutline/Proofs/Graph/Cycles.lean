import Mathlib.Logic.Relation
import SyntaxOutline.Proofs.Graph.Runs

/-!
# Limits stop walks on cycles

With a limit every walk of a source graph ends, because each level down uses up some of what the
limit allows. A walk that succeeds has succeeded below every node that it entered, so no cycle can
be reached from where it started.

* `walkFrom_ne_none` : the bound on the levels is enough if a limit is set.
* `Enters.acc` : from the nodes of a walk that succeeds, no path through children goes on for ever.
* `walk_bounded` : what a walk with a limit does.
-/

namespace SyntaxOutline.SourceGraph

/-- The numbers of children are numbers of nodes. -/
def Closed (g : SourceGraph) : Prop :=
  ∀ (id : Nat) (node : GraphNode), g.nodes[id]? = some node →
    ∀ child ∈ node.children.getD [], child < g.nodes.size

/-- The first node is a container, and the second is one of its children. -/
def Child (g : SourceGraph) (id child : Nat) : Prop :=
  ∃ node children, g.nodes[id]? = some node ∧ node.children = some children ∧ child ∈ children

/-- A path of children leads from the node to a node that lies on a cycle. -/
def ReachesCycle (g : SourceGraph) (root : Nat) : Prop :=
  ∃ id, Relation.ReflTransGen g.Child root id ∧ Relation.TransGen g.Child id id

/-- The walk from a node comes to `visits` in this order and ends with the given outcome. -/
inductive Walks (g : SourceGraph) (o : WalkOptions) (root : Nat) (visits : List Visit) :
    Except WalkFailure Outline → Prop where
  | ok {n : Outline} {count : Nat} (h : g.Enters o 0 0 [root] visits (.ok ([n], count))) :
      Walks g o root visits (.ok n)
  | error {failure : WalkFailure} (h : g.Enters o 0 0 [root] visits (.error failure)) :
      Walks g o root visits (.error failure)

variable {g : SourceGraph} {o : WalkOptions} {depth count root : Nat} {visits : List Visit}
  {result : Except WalkFailure Outline}

theorem Walks.exists_enters (h : g.Walks o root visits result) :
    ∃ r, g.Enters o 0 0 [root] visits r := by
  cases h with
  | ok h => exact ⟨_, h⟩
  | error h => exact ⟨_, h⟩

theorem Walks.unique (h : g.Walks o root visits result) {visits' : List Visit}
    {result' : Except WalkFailure Outline} (h' : g.Walks o root visits' result') :
    visits = visits' ∧ result = result' := by
  cases h with
  | ok h =>
    cases h' with
    | ok h' =>
      obtain ⟨hvisits, hresult⟩ := h.unique h'
      cases hresult
      exact ⟨hvisits, rfl⟩
    | error h' => cases (h.unique h').2
  | error h =>
    cases h' with
    | ok h' => cases (h.unique h').2
    | error h' =>
      obtain ⟨hvisits, hresult⟩ := h.unique h'
      cases hresult
      exact ⟨hvisits, rfl⟩

theorem exists_walks (h : g.walk o root = some result) :
    ∃ visits, g.Walks o root visits result := by
  rcases Outcome.andThen_eq_some h with ⟨failure, hwalk, rfl⟩ | ⟨⟨n, count⟩, hwalk, hn⟩
  · have heach : walkEach (g.walkFrom o (g.levels o) 0) 0 [root] = some (.error failure) := by
      rw [walkEach, hwalk]
      rfl
    obtain ⟨visits, hvisits⟩ := enters_of_walkEach heach
    exact ⟨visits, .error hvisits⟩
  · cases hn
    have heach : walkEach (g.walkFrom o (g.levels o) 0) 0 [root] = some (.ok ([n], count)) := by
      rw [walkEach, hwalk]
      rfl
    obtain ⟨visits, hvisits⟩ := enters_of_walkEach heach
    exact ⟨visits, .ok hvisits⟩

/-! ## Walks with a limit end -/

/-- So many levels down, a node is refused because of its depth or because of its place. -/
def Suffices (o : WalkOptions) (levels depth count : Nat) : Prop :=
  (∃ d, o.limits.maxDepth = some d ∧ d.toNat + 2 ≤ levels + depth) ∨
    ∃ m, o.limits.maxNodes = some m ∧ m.toNat + 2 ≤ levels + count

/-- Below a node that is entered one level less suffices, and it is not the last one. -/
theorem Suffices.below {levels : Nat} {label : Label} {n : Outline}
    (h : Suffices o (levels + 1) depth count)
    (enter : o.enter depth (count + 1) label = .ok n) {count' : Nat} (hcount : count + 1 ≤ count') :
    0 < levels ∧ Suffices o levels (depth + 1) count' := by
  obtain ⟨hdepth, hnodes⟩ := WalkOptions.fits_of_enter enter
  rcases h with ⟨d, hd, hle⟩ | ⟨m, hm, hle⟩
  · have hfits := hdepth d hd
    exact ⟨by omega, Or.inl ⟨d, hd, by omega⟩⟩
  · have hfits := hnodes m hm
    exact ⟨by omega, Or.inr ⟨m, hm, by omega⟩⟩

theorem suffices_levels (hlimit : o.limits.maxDepth ≠ none ∨ o.limits.maxNodes ≠ none) :
    0 < g.levels o ∧ Suffices o (g.levels o) 0 0 := by
  unfold levels Suffices
  cases hd : o.limits.maxDepth with
  | none =>
    cases hm : o.limits.maxNodes with
    | none => simp [hd, hm] at hlimit
    | some m => exact ⟨Nat.succ_pos _, Or.inr ⟨m, rfl, Nat.le_refl _⟩⟩
  | some d =>
    cases hm : o.limits.maxNodes with
    | none => exact ⟨Nat.succ_pos _, Or.inl ⟨d, rfl, Nat.le_refl _⟩⟩
    | some m =>
      refine ⟨Nat.succ_pos _, ?_⟩
      rcases Nat.le_total d.toNat m.toNat with hle | hle
      · have hmin : min d.toNat m.toNat = d.toNat := Nat.min_eq_left hle
        exact Or.inl ⟨d, rfl, by dsimp only; omega⟩
      · have hmin : min d.toNat m.toNat = m.toNat := Nat.min_eq_right hle
        exact Or.inr ⟨m, rfl, by dsimp only; omega⟩

/-- Walks one behind the other end if each of them does, whatever was counted before it. -/
theorem walkEach_ne_none {walk : Nat → Nat → Outcome (Outline × Nat)} {ids : List Nat}
    (hends : ∀ count' id, count ≤ count' → id ∈ ids → walk count' id ≠ none)
    (hcount : ∀ count' id n count'', walk count' id = some (.ok (n, count'')) → count' ≤ count'') :
    walkEach walk count ids ≠ none := by
  induction ids generalizing count with
  | nil => simp [walkEach]
  | cons id ids ih =>
    rw [walkEach]
    refine Outcome.andThen_ne_none (hends count id (Nat.le_refl _) List.mem_cons_self) ?_
    rintro ⟨n, count'⟩ hid
    have hle := hcount _ _ _ _ hid
    have hrest : walkEach walk count' ids ≠ none := by
      apply ih
      intro count'' id' hle' hid'
      exact hends count'' id' (Nat.le_trans hle hle') (List.mem_cons_of_mem _ hid')
    exact Outcome.andThen_ne_none hrest fun r _ => Option.some_ne_none _

theorem count_le_of_walkFrom {levels id count' : Nat} {n : Outline}
    (h : g.walkFrom o levels depth count id = some (.ok (n, count'))) : count ≤ count' := by
  have heach : walkEach (g.walkFrom o levels depth) count [id] = some (.ok ([n], count')) := by
    rw [walkEach, h]
    rfl
  obtain ⟨visits, hvisits⟩ := enters_of_walkEach heach
  rw [hvisits.count_eq]
  exact Nat.le_add_right _ _

/-- With levels that suffice for a limit, the walk from a node ends. -/
theorem walkFrom_ne_none (hg : g.Closed) {levels id : Nat} (hpos : 0 < levels)
    (h : Suffices o levels depth count) (hid : id < g.nodes.size) :
    g.walkFrom o levels depth count id ≠ none := by
  induction levels generalizing depth count id with
  | zero => omega
  | succ levels ih =>
    have found : g.nodes[id]? = some g.nodes[id] := Array.getElem?_eq_getElem hid
    rw [walkFrom, found]
    refine Outcome.andThen_ne_none (Option.some_ne_none _) fun n enter => ?_
    have hchildren : walkEach (g.walkFrom o levels (depth + 1)) (count + 1)
        (g.nodes[id].children.getD []) ≠ none := by
      apply walkEach_ne_none
      · intro count' child hle hchild
        obtain ⟨hpos', hbelow⟩ := h.below (Option.some.inj enter) hle
        exact ih hpos' hbelow (hg id _ found child hchild)
      · intro count' child n' count'' hchild
        exact count_le_of_walkFrom hchild
    exact Outcome.andThen_ne_none hchildren fun r _ => Option.some_ne_none _

/-- With a limit, the walk from every node ends. -/
theorem exists_walk_eq_some (hg : g.Closed)
    (hlimit : o.limits.maxDepth ≠ none ∨ o.limits.maxNodes ≠ none) (hroot : root < g.nodes.size) :
    ∃ result, g.walk o root = some result := by
  obtain ⟨hpos, hsuffices⟩ := suffices_levels (g := g) hlimit
  have hwalk : g.walk o root ≠ none :=
    Outcome.andThen_ne_none (walkFrom_ne_none hg hpos hsuffices hroot)
      fun r _ => Option.some_ne_none _
  exact Option.ne_none_iff_exists'.mp hwalk

/-! ## Walks on cycles fail -/

/-- From the nodes of a walk that succeeds, no path through children goes on for ever. -/
theorem Enters.acc {ids : List Nat} {r : List Outline × Nat}
    (h : g.Enters o depth count ids visits (.ok r)) :
    ∀ id ∈ ids, Acc (fun child id => g.Child id child) id := by
  generalize hresult : Except.ok r = result at h
  induction h generalizing r with
  | nil =>
    intro id hid
    cases hid
  | refused _ _ => cases hresult
  | failsBelow _ _ _ _ => cases hresult
  | failsBehind _ _ _ _ _ _ => cases hresult
  | cons found _ _ _ ih ihrest =>
    intro id hid
    rcases List.mem_cons.mp hid with rfl | hid
    · refine Acc.intro _ ?_
      rintro child ⟨node, children, hnode, hchildren, hchild⟩
      rw [found] at hnode
      cases hnode
      rw [hchildren] at ih
      exact ih rfl child hchild
    · exact ihrest rfl id hid

theorem not_reachesCycle_of_acc (h : Acc (fun child id => g.Child id child) root) :
    ¬ g.ReachesCycle root := by
  induction h with
  | intro root _ ih =>
    rintro ⟨id, hpath, hcycle⟩
    rcases Relation.ReflTransGen.cases_head hpath with rfl | ⟨child, hchild, hpath⟩
    · -- the cycle through the root is also reached from the next node on it
      obtain ⟨child, hchild, hback⟩ := Relation.TransGen.head'_iff.mp hcycle
      exact ih child hchild ⟨root, hback, hcycle⟩
    · exact ih child hchild ⟨id, hpath, hcycle⟩

/-- Where a cycle can be reached, a walk that ends has failed: it passed a limit, or came to a node
that cannot give its text. -/
theorem Walks.failure_of_reachesCycle (h : g.Walks o root visits result)
    (hcycle : g.ReachesCycle root) :
    ∃ failure, result = .error failure ∧
      ((∃ limit max span, failure = .limitExceeded limit max span) ∨
        ∃ span reason, failure = .malformed span reason ∧
          ∃ v ∈ visits, ∃ node, g.nodes[v.id]? = some node ∧ node.label.text = .error failure) := by
  cases h with
  | ok h => exact absurd hcycle (not_reachesCycle_of_acc (h.acc root List.mem_cons_self))
  | @error failure h =>
    refine ⟨failure, rfl, ?_⟩
    obtain ⟨before, v, node, rfl, found, hrefuses⟩ := h.exists_refuses
    cases failure with
    | limitExceeded limit max span => exact Or.inl ⟨limit, max, span, rfl⟩
    | malformed span reason =>
      rcases hrefuses.limit_or_text with ⟨limit, max, he⟩ | htext
      · cases he
      · exact Or.inr ⟨span, reason, rfl, v, List.mem_append_right _ List.mem_cons_self, node,
          found, htext⟩

/-- **Limits on cycles.** With a limit, the walk from every node of a graph ends. It comes to at
most one node more than the limit of nodes, and to no node deeper than one step past the limit of
depth. If a cycle can be reached, it does not succeed: it fails for a limit, or with the failure of
a node that cannot give its text. -/
theorem walk_bounded (g : SourceGraph) (hg : g.Closed) (o : WalkOptions)
    (hlimit : o.limits.maxDepth ≠ none ∨ o.limits.maxNodes ≠ none) (root : Nat)
    (hroot : root < g.nodes.size) :
    ∃ visits result, g.walk o root = some result ∧ g.Walks o root visits result ∧
      (∀ visits' result', g.Walks o root visits' result' → visits' = visits ∧ result' = result) ∧
      (∀ m, o.limits.maxNodes = some m → visits.length ≤ m.toNat + 1) ∧
      (∀ d, o.limits.maxDepth = some d → ∀ v ∈ visits, v.depth ≤ d.toNat + 1) ∧
      (g.ReachesCycle root → ∃ failure, result = .error failure ∧
        ((∃ limit max span, failure = .limitExceeded limit max span) ∨
          ∃ span reason, failure = .malformed span reason ∧
            ∃ v ∈ visits, ∃ node, g.nodes[v.id]? = some node ∧
              node.label.text = .error failure)) := by
  obtain ⟨result, hwalk⟩ := exists_walk_eq_some hg hlimit hroot
  obtain ⟨visits, hvisits⟩ := exists_walks hwalk
  obtain ⟨r, henters⟩ := hvisits.exists_enters
  refine ⟨visits, result, hwalk, hvisits, ?_, ?_, ?_, hvisits.failure_of_reachesCycle⟩
  · intro visits' result' h'
    exact h'.unique hvisits
  · intro m hm
    have hle := (henters.length_le hm (Nat.zero_le _)).1
    rwa [Nat.zero_add] at hle
  · intro d hd
    exact henters.depth_le hd (Nat.zero_le _)

/-- A node that has another one twice as its child, and is the only child of that one. -/
def ring : SourceGraph :=
  ⟨#[⟨⟨.ok "ab", ⟨0, 2⟩, none⟩, some [1, 1]⟩, ⟨⟨.ok "b", ⟨1, 1⟩, none⟩, some [0]⟩]⟩

theorem ring_closed : ring.Closed := by
  intro id node hnode child hchild
  have hid : id < 2 := (Array.getElem?_eq_some_iff.mp hnode).1
  have hcases : id = 0 ∨ id = 1 := by omega
  rcases hcases with rfl | rfl <;> cases hnode <;> simp_all [ring]

theorem ring_reachesCycle : ring.ReachesCycle 0 := by
  have hdown : ring.Child 0 1 := ⟨_, [1, 1], rfl, rfl, List.mem_cons_self⟩
  have hup : ring.Child 1 0 := ⟨_, [0], rfl, rfl, List.mem_cons_self⟩
  exact ⟨0, .refl, .tail (.single hdown) hup⟩

/-- With a limit of three nodes and none of depth, the walk round the ring comes to four nodes at
most and fails. -/
theorem walk_bounded_ring :
    ring.Closed ∧ ring.ReachesCycle 0 ∧
      ∃ visits failure, ring.walk ⟨⟨none, some 3⟩, false⟩ 0 = some (.error failure) ∧
        ring.Walks ⟨⟨none, some 3⟩, false⟩ 0 visits (.error failure) ∧ visits.length ≤ 4 ∧
        ((∃ limit max span, failure = .limitExceeded limit max span) ∨
          ∃ span reason, failure = .malformed span reason ∧
            ∃ v ∈ visits, ∃ node, ring.nodes[v.id]? = some node ∧
              node.label.text = .error failure) := by
  obtain ⟨visits, result, hwalk, hwalks, -, hnodes, -, hcycle⟩ :=
    walk_bounded ring ring_closed ⟨⟨none, some 3⟩, false⟩ (Or.inr (Option.some_ne_none 3)) 0
      (by decide)
  obtain ⟨failure, rfl, hfailure⟩ := hcycle ring_reachesCycle
  exact ⟨ring_closed, ring_reachesCycle, visits, failure, hwalk, hwalks, hnodes 3 rfl, hfailure⟩

end SyntaxOutline.SourceGraph
