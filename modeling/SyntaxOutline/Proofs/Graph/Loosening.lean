import SyntaxOutline.Proofs.Graph.Levels

/-!
# Walks with looser limits

Two walks from the same node with different limits go side by side. As long as the walk with the
tighter limits enters a node, the other enters it too and makes the same outline of it; where a node
cannot give its text, both fail alike. They part only where the first of them passes a limit, and
then the other has come to the same nodes so far, whether or not it ever ends.

* `WalkOptions.NoLooserThan` : limits at most as wide.
* `Enters.loosen` : an outcome that is not due to a limit stays.
* `Enters.isPrefix` : the nodes that the first walk comes to, the second comes to first.
* `walk_loosen` : what looser limits do to a walk.
-/

namespace SyntaxOutline

/-- The second bound is at least the first; no bound is wider than any. -/
def Limits.AtMost (bound bound' : Option UInt64) : Prop :=
  ∀ max', bound' = some max' → ∃ max, bound = some max ∧ max ≤ max'

/-- What fits within a bound fits within a wider one. -/
theorem Limits.AtMost.fits {bound bound' : Option UInt64} (h : Limits.AtMost bound bound') {k : Nat}
    (hfits : ∀ max, bound = some max → k ≤ max.toNat) :
    ∀ max', bound' = some max' → k ≤ max'.toNat := by
  intro max' hmax'
  obtain ⟨max, hmax, hle⟩ := h max' hmax'
  exact Nat.le_trans (hfits max hmax) (UInt64.le_iff_toNat_le.mp hle)

namespace WalkOptions

/-- The options differ at most in the limits, and the first have no looser ones. -/
structure NoLooserThan (o o' : WalkOptions) : Prop where
  kinds : o'.includeKinds = o.includeKinds
  depth : Limits.AtMost o.limits.maxDepth o'.limits.maxDepth
  nodes : Limits.AtMost o.limits.maxNodes o'.limits.maxNodes

/-- The outcome is not due to a limit. -/
def Firm {α : Type} (result : Except WalkFailure α) : Prop :=
  ∀ limit max span, result ≠ .error (.limitExceeded limit max span)

theorem firm_ok {α : Type} (a : α) : Firm (.ok a : Except WalkFailure α) := by
  rintro limit max span ⟨⟩

theorem firm_malformed {α : Type} (span : Span) (reason : String) :
    Firm (.error (.malformed span reason) : Except WalkFailure α) := by
  rintro limit max span ⟨⟩

theorem Firm.error {α β : Type} {failure : WalkFailure}
    (h : Firm (.error failure : Except WalkFailure α)) :
    Firm (.error failure : Except WalkFailure β) := by
  rintro limit max span ⟨⟩
  exact h limit max span rfl

namespace NoLooserThan

variable {o o' : WalkOptions} (h : o.NoLooserThan o')
include h

theorem depthFits {depth : Nat} (hfits : o.DepthFits depth) : o'.DepthFits depth :=
  h.depth.fits hfits

theorem countFits {count : Nat} (hfits : o.CountFits count) : o'.CountFits count :=
  h.nodes.fits hfits

/-- What happens at a node stays, unless it passes a limit. -/
theorem enter_eq {depth count : Nat} {label : Label} {result : Except WalkFailure Outline}
    (henter : o.enter depth (count + 1) label = result) (hfirm : Firm result) :
    o'.enter depth (count + 1) label = result := by
  subst henter
  rcases o.admits_or_refuses count (depth, label) with hadmits | ⟨failure, hrefuses⟩
  · obtain ⟨s, hs⟩ := hadmits.text
    have hadmits' : o'.Admits count (depth, label) :=
      ⟨h.depthFits hadmits.depth, h.countFits hadmits.nodes, s, hs⟩
    rw [hadmits.enter hs, hadmits'.enter hs, h.kinds]
  · rw [hrefuses.enter] at hfirm ⊢
    cases hrefuses with
    | depth _ _ => exact absurd rfl (hfirm _ _ _)
    | nodes _ _ _ => exact absurd rfl (hfirm _ _ _)
    | text fits fits' fails =>
      exact (Refuses.text (h.depthFits fits) (h.countFits fits') fails).enter

end NoLooserThan

end WalkOptions

namespace SourceGraph

open WalkOptions

variable {g : SourceGraph} {o o' : WalkOptions} {depth count : Nat} {ids : List Nat}
  {visits visits' : List Visit} {result result' : Except WalkFailure (List Outline × Nat)}

/-- A walk that does not pass a limit takes the same steps with looser limits. -/
theorem Enters.loosen (hlooser : o.NoLooserThan o') (h : g.Enters o depth count ids visits result)
    (hfirm : Firm result) : g.Enters o' depth count ids visits result := by
  induction h with
  | nil => exact .nil
  | refused found enter => exact .refused found (hlooser.enter_eq enter hfirm.error)
  | failsBelow found enter _ ih =>
    exact .failsBelow found (hlooser.enter_eq enter (firm_ok _)) (ih hfirm)
  | failsBehind found enter _ _ ih ihrest =>
    exact .failsBehind found (hlooser.enter_eq enter (firm_ok _)) (ih (firm_ok _)) (ihrest hfirm)
  | cons found enter _ _ ih ihrest =>
    exact .cons found (hlooser.enter_eq enter (firm_ok _)) (ih (firm_ok _)) (ihrest (firm_ok _))

/-- The first node that a walk comes to is the first of those it starts from. -/
theorem Enters.exists_head {id : Nat} (h : g.Enters o depth count (id :: ids) visits result) :
    ∃ rest, visits = ⟨depth, id⟩ :: rest := by
  cases h with
  | refused _ _ => exact ⟨_, rfl⟩
  | failsBelow _ _ _ => exact ⟨_, rfl⟩
  | failsBehind _ _ _ _ => exact ⟨_, rfl⟩
  | cons _ _ _ _ => exact ⟨_, rfl⟩

/-- Behind a node that is entered, a walk comes to the nodes below it, and if that succeeds to those
behind it. -/
theorem Enters.exists_below {id : Nat} {node : GraphNode} {outline : Outline}
    (h : g.Enters o depth count (id :: ids) visits result) (found : g.nodes[id]? = some node)
    (enter : o.enter depth (count + 1) node.label = .ok outline) :
    ∃ below behind r, visits = ⟨depth, id⟩ :: (below ++ behind) ∧
      g.Enters o (depth + 1) (count + 1) (node.children.getD []) below r ∧
      ∀ outlines count', r = .ok (outlines, count') →
        ∃ r', g.Enters o depth count' ids behind r' := by
  cases h with
  | refused found' enter' =>
    rw [found] at found'
    cases found'
    rw [enter] at enter'
    cases enter'
  | failsBelow found' _ children =>
    rw [found] at found'
    cases found'
    refine ⟨_, [], _, by rw [List.append_nil], children, ?_⟩
    rintro outlines count' ⟨⟩
  | failsBehind found' _ children rest | cons found' _ children rest =>
    rw [found] at found'
    cases found'
    refine ⟨_, _, _, rfl, children, ?_⟩
    rintro outlines count' ⟨⟩
    exact ⟨_, rest⟩

/-- The nodes that a walk comes to are the first that a walk with looser limits comes to. -/
theorem Enters.isPrefix (hlooser : o.NoLooserThan o')
    (h : g.Enters o depth count ids visits result)
    (h' : g.Enters o' depth count ids visits' result') : visits <+: visits' := by
  induction h generalizing visits' result' with
  | nil => exact List.nil_prefix
  | refused _ _ =>
    obtain ⟨rest, rfl⟩ := h'.exists_head
    exact List.prefix_append [_] rest
  | failsBelow found enter _ ih =>
    obtain ⟨below, behind, r, rfl, children', -⟩ :=
      h'.exists_below found (hlooser.enter_eq enter (firm_ok _))
    exact List.cons_prefix_cons.mpr ⟨rfl, (ih children').trans (List.prefix_append _ _)⟩
  | failsBehind found enter children _ ih ihrest | cons found enter children _ ih ihrest =>
    obtain ⟨below, behind, r, rfl, children', hbehind⟩ :=
      h'.exists_below found (hlooser.enter_eq enter (firm_ok _))
    -- below the node both walks take the same steps
    obtain ⟨rfl, rfl⟩ := (children.loosen hlooser (firm_ok _)).unique children'
    obtain ⟨r', rest'⟩ := hbehind _ _ rfl
    exact List.cons_prefix_cons.mpr ⟨rfl, (List.prefix_append_right_inj _).mpr (ihrest rest')⟩

variable {root : Nat} {outcome outcome' : Except WalkFailure Outline}

theorem Walks.loosen (hlooser : o.NoLooserThan o') (h : g.Walks o root visits outcome)
    (hfirm : Firm outcome) : g.Walks o' root visits outcome := by
  cases h with
  | ok h => exact .ok (h.loosen hlooser (firm_ok _))
  | error h => exact .error (h.loosen hlooser hfirm.error)

theorem Walks.isPrefix (hlooser : o.NoLooserThan o') (h : g.Walks o root visits outcome)
    (h' : g.Walks o' root visits' outcome') : visits <+: visits' := by
  obtain ⟨r, henters⟩ := h.exists_enters
  obtain ⟨r', henters'⟩ := h'.exists_enters
  exact henters.isPrefix hlooser henters'

theorem walk_of_firm (hlooser : o.NoLooserThan o') (h : g.walk o root = some outcome)
    (hfirm : Firm outcome) : g.walk o' root = some outcome := by
  obtain ⟨visits, hvisits⟩ := walk_eq_some_iff.mp h
  exact walk_eq_some_iff.mpr ⟨visits, hvisits.loosen hlooser hfirm⟩

/-- **Looser limits.** If a walk succeeds, or fails at a node that cannot give its text, it does the
same with looser limits. If it fails because the last node it came to passes a limit, the walk with
looser limits, should it end, comes to all the same nodes first. -/
theorem walk_loosen (g : SourceGraph) (root : Nat) (o o' : WalkOptions)
    (hlooser : o.NoLooserThan o') :
    (∀ n, g.walk o root = some (.ok n) → g.walk o' root = some (.ok n)) ∧
      (∀ span reason, g.walk o root = some (.error (.malformed span reason)) →
        g.walk o' root = some (.error (.malformed span reason))) ∧
      ∀ limit max span, g.walk o root = some (.error (.limitExceeded limit max span)) →
        ∃ visits, g.Walks o root visits (.error (.limitExceeded limit max span)) ∧
          ∀ result, g.walk o' root = some result →
            ∃ visits', g.Walks o' root visits' result ∧ visits <+: visits' := by
  refine ⟨?_, ?_, ?_⟩
  · intro n h
    exact walk_of_firm hlooser h (firm_ok n)
  · intro span reason h
    exact walk_of_firm hlooser h (firm_malformed span reason)
  · intro limit max span h
    obtain ⟨visits, hvisits⟩ := walk_eq_some_iff.mp h
    refine ⟨visits, hvisits, ?_⟩
    intro result h'
    obtain ⟨visits', hvisits'⟩ := walk_eq_some_iff.mp h'
    exact ⟨visits', hvisits', hvisits.isPrefix hlooser hvisits'⟩

/-- A leaf, a node with the leaf and itself as children, a node that has itself as a child behind
one that cannot give its text, and that one. -/
def knot : SourceGraph :=
  ⟨#[⟨⟨.ok "a", ⟨0, 1⟩, none⟩, none⟩, ⟨⟨.ok "ab", ⟨0, 2⟩, none⟩, some [0, 1]⟩,
    ⟨⟨.ok "abc", ⟨0, 3⟩, none⟩, some [0, 3, 2]⟩,
    ⟨⟨.error (.malformed ⟨2, 1⟩ "lost"), ⟨2, 1⟩, none⟩, none⟩]⟩

/-- The leaf is walked with limits and without. A walk that fails for a text fails for it without
limits too, although it would not end otherwise. On the cycle, the fourth node is too deep if one
level is allowed, and with two levels the walk comes to it before it fails. -/
theorem walk_loosen_knot :
    (knot.walk ⟨⟨some 0, some 1⟩, false⟩ 0 = some (.ok ⟨LineEnding.mark "a", ⟨0, 1⟩, none, []⟩) ∧
        knot.walk ⟨{}, false⟩ 0 = some (.ok ⟨LineEnding.mark "a", ⟨0, 1⟩, none, []⟩)) ∧
      (knot.walk ⟨⟨some 1, none⟩, false⟩ 2 = some (.error (.malformed ⟨2, 1⟩ "lost")) ∧
        knot.walk ⟨{}, false⟩ 2 = some (.error (.malformed ⟨2, 1⟩ "lost"))) ∧
      knot.walk ⟨⟨some 1, some 9⟩, false⟩ 1 =
          some (.error (.limitExceeded .depth 1 ⟨0, 1⟩)) ∧
        ∃ visits visits' failure,
          knot.Walks ⟨⟨some 1, some 9⟩, false⟩ 1 visits
            (.error (.limitExceeded .depth 1 ⟨0, 1⟩)) ∧
          knot.Walks ⟨⟨some 2, some 9⟩, false⟩ 1 visits' (.error failure) ∧ visits <+: visits' := by
  have hdepth : ∀ bound, Limits.AtMost bound none := by
    rintro bound max' ⟨⟩
  have hfree : ∀ limits, NoLooserThan ⟨limits, false⟩ ⟨{}, false⟩ := fun limits =>
    ⟨rfl, hdepth _, hdepth _⟩
  have hwider : NoLooserThan ⟨⟨some 1, some 9⟩, false⟩ ⟨⟨some 2, some 9⟩, false⟩ := by
    refine ⟨rfl, ?_, ?_⟩
    · rintro max' ⟨⟩
      exact ⟨1, rfl, by decide⟩
    · rintro max' ⟨⟩
      exact ⟨9, rfl, by decide⟩
  have hleaf : knot.walk ⟨⟨some 0, some 1⟩, false⟩ 0 =
      some (.ok ⟨LineEnding.mark "a", ⟨0, 1⟩, none, []⟩) := rfl
  have hlost : knot.walk ⟨⟨some 1, none⟩, false⟩ 2 =
      some (.error (.malformed ⟨2, 1⟩ "lost")) := rfl
  have hdeep : knot.walk ⟨⟨some 1, some 9⟩, false⟩ 1 =
      some (.error (.limitExceeded .depth 1 ⟨0, 1⟩)) := rfl
  obtain ⟨visits, hvisits, hlater⟩ := (walk_loosen knot 1 _ _ hwider).2.2 _ _ _ hdeep
  obtain ⟨visits', hvisits', hprefix⟩ := hlater (.error (.limitExceeded .depth 2 ⟨0, 1⟩)) rfl
  exact ⟨⟨hleaf, (walk_loosen knot 0 _ _ (hfree _)).1 _ hleaf⟩,
    ⟨hlost, (walk_loosen knot 2 _ _ (hfree _)).2.1 _ _ hlost⟩,
    hdeep, visits, visits', _, hvisits, hvisits', hprefix⟩

end SourceGraph

end SyntaxOutline
