import Mathlib.Data.Nat.Find
import SyntaxOutline.Outline.Preorder

/-!
# The nodes of an outline with their depths

The iterator over an outline keeps a stack of its own. What it yields is the recursive pre-order
(`toList_iterator`), so that number, depth and order of the nodes can be told from one recursive
listing, `levels`:

* `nodeCount_eq` : as many nodes as the listing has.
* `height_le_iff` : the height bounds the depths and no smaller number does.
* `exists_parent` : each node below the root comes behind a node one step higher.
-/

namespace SyntaxOutline.Outline

mutual

/-- A node with its depth, then the listings of its children. -/
def levels (depth : Nat) : Outline → List (Nat × Outline)
  | ⟨content, span, kind, children⟩ =>
    (depth, ⟨content, span, kind, children⟩) :: levelsAll (depth + 1) children

/-- The listings of several outlines at the same depth, one behind the other. -/
def levelsAll (depth : Nat) : List Outline → List (Nat × Outline)
  | [] => []
  | o :: os => levels depth o ++ levelsAll depth os

end

/-- The first node at the given depth stands at place `i` of the listing, counted from zero. -/
def FirstAt (o : Outline) (depth i : Nat) : Prop :=
  (∃ x, (o.levels 0)[i]? = some (depth, x)) ∧ ∀ j x, j < i → (o.levels 0)[j]? ≠ some (depth, x)

/-! ## The iterator -/

theorem preorder_eq (o : Outline) : o.preorder = o :: preorderAll o.children := by
  obtain ⟨content, span, kind, children⟩ := o
  rw [preorder]

theorem preorderAll_append (os ps : List Outline) :
    preorderAll (os ++ ps) = preorderAll os ++ preorderAll ps := by
  induction os with
  | nil => rw [preorderAll, List.nil_append, List.nil_append]
  | cons o os ih => rw [List.cons_append, preorderAll, preorderAll, ih, List.append_assoc]

/-- The nodes that are still to come are those of the outlines on the stack. -/
theorem Iterator.toList_eq (it : Iterator) : it.toList = preorderAll it.stack := by
  induction it using Iterator.toList.induct with
  | case1 => rw [Iterator.toList, preorderAll]
  | case2 o stack ih =>
    rw [Iterator.toList, ih, preorderAll_append, preorderAll, preorder_eq, List.cons_append]

mutual

theorem map_snd_levels (depth : Nat) : ∀ o : Outline, (o.levels depth).map Prod.snd = o.preorder
  | ⟨content, span, kind, children⟩ => by
    rw [levels, preorder, List.map_cons, map_snd_levelsAll]

theorem map_snd_levelsAll (depth : Nat) : ∀ os : List Outline,
    (levelsAll depth os).map Prod.snd = preorderAll os
  | [] => by rw [levelsAll, preorderAll, List.map_nil]
  | o :: os => by
    rw [levelsAll, preorderAll, List.map_append, map_snd_levels, map_snd_levelsAll]

end

/-- The iterator yields the nodes of the listing. -/
theorem toList_iterator (o : Outline) : o.iterator.toList = (o.levels 0).map Prod.snd := by
  rw [Iterator.toList_eq, map_snd_levels, iterator, preorderAll, preorderAll, List.append_nil]

theorem nodeCount_eq (o : Outline) : o.nodeCount = (o.levels 0).length := by
  rw [nodeCount, Iterator.count, toList_iterator, List.length_map]

/-! ## Depths -/

mutual

theorem depth_mem_levels {depth : Nat} {y : Nat × Outline} : ∀ {o : Outline}, y ∈ o.levels depth →
    depth ≤ y.1 ∧ y.1 ≤ depth + o.height
  | ⟨content, span, kind, children⟩, h => by
    rw [levels] at h
    rw [height]
    rcases List.mem_cons.mp h with rfl | h
    · exact ⟨Nat.le_refl _, Nat.le_add_right _ _⟩
    · obtain ⟨hlow, hhigh⟩ := depth_mem_levelsAll h
      omega

theorem depth_mem_levelsAll {depth : Nat} {y : Nat × Outline} : ∀ {os : List Outline},
    y ∈ levelsAll (depth + 1) os → depth + 1 ≤ y.1 ∧ y.1 ≤ depth + heights os
  | [], h => by
    rw [levelsAll] at h
    cases h
  | o :: os, h => by
    rw [levelsAll] at h
    rw [heights]
    rcases List.mem_append.mp h with h | h
    · obtain ⟨hlow, hhigh⟩ := depth_mem_levels h
      omega
    · obtain ⟨hlow, hhigh⟩ := depth_mem_levelsAll h
      omega

end

mutual

theorem exists_mem_levels (depth : Nat) : ∀ o : Outline, ∃ x, (depth + o.height, x) ∈ o.levels depth
  | ⟨content, span, kind, children⟩ => by
    rw [levels, height]
    rcases exists_mem_levelsAll depth children with hzero | ⟨x, hx⟩
    · rw [hzero]
      exact ⟨_, List.mem_cons_self⟩
    · exact ⟨x, List.mem_cons_of_mem _ hx⟩

theorem exists_mem_levelsAll (depth : Nat) : ∀ os : List Outline,
    heights os = 0 ∨ ∃ x, (depth + heights os, x) ∈ levelsAll (depth + 1) os
  | [] => by
    rw [heights]
    exact Or.inl rfl
  | o :: os => by
    refine Or.inr ?_
    rw [heights, levelsAll]
    obtain ⟨x, hx⟩ := exists_mem_levels (depth + 1) o
    by_cases hle : heights os ≤ o.height + 1
    · rw [Nat.max_eq_left hle, Nat.add_comm o.height 1, ← Nat.add_assoc]
      exact ⟨x, List.mem_append_left _ hx⟩
    · rw [Nat.max_eq_right (Nat.le_of_not_le hle)]
      rcases exists_mem_levelsAll depth os with hzero | ⟨y, hy⟩
      · omega
      · exact ⟨y, List.mem_append_right _ hy⟩

end

theorem height_le_iff {o : Outline} {h : Nat} :
    o.height ≤ h ↔ ∀ y ∈ o.levels 0, y.1 ≤ h := by
  constructor
  · intro hle y hy
    have hdepth := (depth_mem_levels hy).2
    omega
  · intro hall
    obtain ⟨x, hx⟩ := exists_mem_levels 0 o
    have hdepth := hall _ hx
    omega

/-! ## Parents -/

mutual

/-- A node below the root comes behind a node one step higher. -/
theorem exists_parent {depth e : Nat} {x : Outline} : ∀ {o : Outline} {i : Nat},
    (o.levels depth)[i]? = some (e + 1, x) → depth ≤ e →
    ∃ j y, j < i ∧ (o.levels depth)[j]? = some (e, y)
  | ⟨content, span, kind, children⟩, i, h, hlow => by
    rw [levels] at h ⊢
    cases i with
    | zero =>
      cases h
      omega
    | succ i =>
      rw [List.getElem?_cons_succ] at h
      by_cases he : e = depth
      · subst he
        exact ⟨0, _, Nat.succ_pos i, rfl⟩
      · obtain ⟨j, y, hj, hy⟩ := exists_parent_all h (by omega)
        exact ⟨j + 1, y, Nat.succ_lt_succ hj, hy⟩

theorem exists_parent_all {depth e : Nat} {x : Outline} : ∀ {os : List Outline} {i : Nat},
    (levelsAll depth os)[i]? = some (e + 1, x) → depth ≤ e →
    ∃ j y, j < i ∧ (levelsAll depth os)[j]? = some (e, y)
  | [], i, h, _ => by
    rw [levelsAll] at h
    cases h
  | o :: os, i, h, hlow => by
    rw [levelsAll] at h ⊢
    by_cases hi : i < (o.levels depth).length
    · rw [List.getElem?_append_left hi] at h
      obtain ⟨j, y, hj, hy⟩ := exists_parent h hlow
      exact ⟨j, y, hj, by rwa [List.getElem?_append_left (Nat.lt_trans hj hi)]⟩
    · have hle : (o.levels depth).length ≤ i := Nat.le_of_not_lt hi
      rw [List.getElem?_append_right hle] at h
      obtain ⟨j, y, hj, hy⟩ := exists_parent_all h hlow
      refine ⟨j + (o.levels depth).length, y, by omega, ?_⟩
      rwa [List.getElem?_append_right (Nat.le_add_left _ _), Nat.add_sub_cancel]

end

/-- In front of the first node at a depth all nodes are higher. -/
theorem FirstAt.depth_le {o : Outline} {k i : Nat} (h : o.FirstAt (k + 1) i) {j : Nat} (hj : j < i)
    {y : Nat × Outline} (hy : (o.levels 0)[j]? = some y) : y.1 ≤ k := by
  induction j using Nat.strongRecOn generalizing y with
  | ind j ih =>
    obtain ⟨e, x⟩ := y
    dsimp only
    by_contra hlt
    by_cases he : e = k + 1
    · subst he
      exact h.2 j x hj hy
    · -- a node still deeper has a parent in front of it that is not higher than `k` either
      obtain ⟨e', rfl⟩ : ∃ e', e = e' + 1 := ⟨e - 1, by omega⟩
      obtain ⟨j', y, hj', hy'⟩ := exists_parent hy (Nat.zero_le e')
      have hle := ih j' hj' (Nat.lt_trans hj' hj) hy'
      dsimp only at hle
      omega

/-- An outline has nodes at every depth up to its height. -/
theorem exists_getElem?_levels {o : Outline} {k : Nat} (h : k ≤ o.height) :
    ∃ (i : Nat) (x : Outline), (o.levels 0)[i]? = some (k, x) := by
  obtain ⟨n, hn⟩ := Nat.exists_eq_add_of_le h
  -- the induction goes up from the deepest nodes, by their parents
  induction n generalizing k with
  | zero =>
    obtain ⟨x, hx⟩ := exists_mem_levels 0 o
    rw [hn, Nat.zero_add, Nat.add_zero] at hx
    obtain ⟨i, hi⟩ := List.mem_iff_getElem?.mp hx
    exact ⟨i, x, hi⟩
  | succ n ih =>
    obtain ⟨i, x, hi⟩ := ih (k := k + 1) (by omega) (by omega)
    obtain ⟨j, y, -, hy⟩ := exists_parent hi (Nat.zero_le k)
    exact ⟨j, y, hy⟩

theorem exists_firstAt {o : Outline} {k : Nat} (h : k ≤ o.height) : ∃ i, o.FirstAt k i := by
  classical
  have hex := exists_getElem?_levels h
  refine ⟨Nat.find hex, Nat.find_spec hex, ?_⟩
  intro j x hj hx
  exact Nat.find_min hex hj ⟨x, hx⟩

end SyntaxOutline.Outline
