import Mathlib.Data.List.Forall2
import SyntaxOutline.Proofs.Outline.Levels

/-!
# Paths in outlines

What a path of child indexes leads to is a smaller outline: it is lower by at least the length of
the path, and its listing is a stretch of the listing of the whole. The longest paths have the
height as their length.

* `rel_getElem?` : the step of a path in lists that are related one by one.
* `height_at?_add_le`, `exists_at?_height` : paths and height.
* `nodeCount_at?_le` : paths and number of nodes.
-/

namespace SyntaxOutline

/-! ## Related lists -/

theorem exists_forall₂ {α β : Type} {R : α → β → Prop} {as : List α}
    (h : ∀ a ∈ as, ∃ b, R a b) : ∃ bs, List.Forall₂ R as bs := by
  induction as with
  | nil => exact ⟨[], .nil⟩
  | cons a as ih =>
    obtain ⟨b, hb⟩ := h a List.mem_cons_self
    obtain ⟨bs, hbs⟩ := ih (fun a' ha' => h a' (List.mem_cons_of_mem _ ha'))
    exact ⟨b :: bs, .cons hb hbs⟩

/-- Lists related one by one have related elements at each place, or none. -/
theorem rel_getElem? {α β : Type} {R : α → β → Prop} {xs : List α} {ys : List β}
    (h : List.Forall₂ R xs ys) (i : Nat) : Option.Rel R xs[i]? ys[i]? := by
  induction h generalizing i with
  | nil => exact .none
  | cons hxy _ ih =>
    cases i with
    | zero => exact .some hxy
    | succ i => exact ih i

section

variable {α β : Type} {R : α → β → Prop} {xs : List α} {ys : List β} (h : List.Forall₂ R xs ys)
include h

theorem exists_right_of_getElem? {i : Nat} {x : α} (hx : xs[i]? = some x) :
    ∃ y, ys[i]? = some y ∧ R x y := by
  have hrel := rel_getElem? h i
  rw [hx] at hrel
  generalize ys[i]? = y at hrel
  cases hrel with
  | some hxy => exact ⟨_, rfl, hxy⟩

theorem exists_left_of_getElem? {i : Nat} {y : β} (hy : ys[i]? = some y) :
    ∃ x, xs[i]? = some x ∧ R x y := by
  have hrel := rel_getElem? h i
  rw [hy] at hrel
  generalize xs[i]? = x at hrel
  cases hrel with
  | some hxy => exact ⟨_, rfl, hxy⟩

end

namespace Outline

theorem at?_cons_eq_some_iff {o x : Outline} {i : Nat} {path : List Nat} :
    o.at? (i :: path) = some x ↔
      ∃ child, o.children[i]? = some child ∧ child.at? path = some x := by
  rw [at?, Option.bind_eq_some_iff]

/-! ## Height -/

theorem height_eq (o : Outline) : o.height = heights o.children := by
  obtain ⟨content, span, kind, children⟩ := o
  rw [height]

theorem height_lt_heights {o : Outline} {os : List Outline} (h : o ∈ os) :
    o.height < heights os := by
  induction os with
  | nil => cases h
  | cons p os ih =>
    rw [heights]
    rcases List.mem_cons.mp h with rfl | h
    · omega
    · have hlt := ih h
      omega

/-- One of several outlines is as high as they are together. -/
theorem exists_mem_heights {os : List Outline} (h : os ≠ []) :
    ∃ o ∈ os, o.height + 1 = heights os := by
  induction os with
  | nil => exact absurd rfl h
  | cons p os ih =>
    rw [heights]
    by_cases hle : heights os ≤ p.height + 1
    · exact ⟨p, List.mem_cons_self, (Nat.max_eq_left hle).symm⟩
    · have hne : os ≠ [] := by
        rintro rfl
        rw [heights] at hle
        omega
      obtain ⟨o, ho, hheight⟩ := ih hne
      exact ⟨o, List.mem_cons_of_mem _ ho, by omega⟩

theorem height_at?_add_le {o x : Outline} {path : List Nat} (h : o.at? path = some x) :
    x.height + path.length ≤ o.height := by
  induction path generalizing o with
  | nil =>
    cases h
    exact Nat.le_refl _
  | cons i path ih =>
    obtain ⟨child, hchild, h⟩ := at?_cons_eq_some_iff.mp h
    have hbelow := ih h
    have hlt := height_lt_heights (List.mem_of_getElem? hchild)
    rw [height_eq o, List.length_cons]
    omega

theorem exists_at?_height (o : Outline) :
    ∃ path x, path.length = o.height ∧ o.at? path = some x := by
  induction hn : o.height generalizing o with
  | zero => exact ⟨[], o, rfl, rfl⟩
  | succ n ih =>
    rw [height_eq] at hn
    have hne : o.children ≠ [] := by
      intro hnil
      rw [hnil, heights] at hn
      omega
    obtain ⟨child, hmem, hheight⟩ := exists_mem_heights hne
    obtain ⟨i, hi⟩ := List.getElem?_of_mem hmem
    obtain ⟨path, x, hlength, hx⟩ := ih child (by omega)
    exact ⟨i :: path, x, by rw [List.length_cons, hlength],
      at?_cons_eq_some_iff.mpr ⟨child, hi, hx⟩⟩

/-! ## Listings -/

theorem preorder_isInfix_of_mem {o : Outline} {os : List Outline} (h : o ∈ os) :
    o.preorder <:+: preorderAll os := by
  obtain ⟨front, back, rfl⟩ := List.append_of_mem h
  rw [preorderAll_append, preorderAll]
  exact (List.prefix_append _ _).isInfix.trans (List.suffix_append _ _).isInfix

theorem preorder_isInfix_of_at? {o x : Outline} {path : List Nat} (h : o.at? path = some x) :
    x.preorder <:+: o.preorder := by
  induction path generalizing o with
  | nil =>
    cases h
    exact List.infix_rfl
  | cons i path ih =>
    obtain ⟨child, hchild, h⟩ := at?_cons_eq_some_iff.mp h
    rw [preorder_eq o]
    exact List.infix_cons
      ((ih h).trans (preorder_isInfix_of_mem (List.mem_of_getElem? hchild)))

theorem nodeCount_eq_length (o : Outline) : o.nodeCount = o.preorder.length := by
  rw [nodeCount_eq, ← map_snd_levels 0, List.length_map]

theorem nodeCount_at?_le {o x : Outline} {path : List Nat} (h : o.at? path = some x) :
    x.nodeCount ≤ o.nodeCount := by
  rw [nodeCount_eq_length, nodeCount_eq_length]
  exact (preorder_isInfix_of_at? h).length_le

end Outline

end SyntaxOutline
