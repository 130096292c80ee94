import Mathlib.Data.Set.Basic
import SyntaxOutline.Proofs.Text.Spans

/-!
# Offsets of spans

A span has any two words for its start and its length, so that it may reach beyond the largest word;
its end is then held there. What holds of spans is told in numbers: `toNat_stop` says where a span
ends, and the laws of half-open ranges follow from it, with their exceptions at the largest word.

* `fits_iff` : the ends of a span determine it just if its length was not cut off.
* `offsets_subset_iff` : one span contains another if it has all of its offsets.
* `offsets_range_eq_empty_iff` : no offset lies in a span without length, and none in a span that
  starts at the largest word.
* `range_laws` : all of these together.
-/

namespace SyntaxOutline.Span

/-- The span ends at the sum of its start and its length. -/
def Fits (s : Span) : Prop := s.start.toNat + s.length.toNat < UInt64.size

instance (s : Span) : Decidable s.Fits := Nat.decLt _ _

/-- The offsets of a range, in which the first end lies and the second does not. -/
def offsets (r : UInt64 × UInt64) : Set UInt64 := {x | r.1 ≤ x ∧ x < r.2}

variable {a b c : Span}

/-! ## Ends -/

theorem toNat_stop (s : Span) :
    s.stop.toNat = min (s.start.toNat + s.length.toNat) (UInt64.size - 1) := by
  unfold stop addHeld
  split
  · rename_i hfits
    have hsum : (s.start + s.length).toNat = s.start.toNat + s.length.toNat := by
      rw [UInt64.toNat_add]
      exact Nat.mod_eq_of_lt hfits
    omega
  · rename_i hheld
    have hlast : (UInt64.ofNat (UInt64.size - 1)).toNat = UInt64.size - 1 := rfl
    omega

/-- A length that was cut off is longer than the stretch between the ends. -/
theorem fits_iff (s : Span) : s.Fits ↔ s.length.toNat = s.stop.toNat - s.start.toNat := by
  have hstop := s.toNat_stop
  have hstart := s.start.toNat_lt_size
  unfold Fits
  omega

theorem eq_of_fits (ha : a.Fits) (hb : b.Fits) (hstart : a.start = b.start)
    (hstop : a.stop = b.stop) : a = b := by
  have hlength : a.length.toNat = b.length.toNat := by
    rw [(fits_iff a).mp ha, (fits_iff b).mp hb, hstart, hstop]
  cases a
  cases b
  exact congrArg₂ mk hstart (UInt64.toNat_inj.mp hlength)

theorem toNat_ofRange_length_eq (x y : UInt64) :
    (ofRange x y).length.toNat = y.toNat - x.toNat := by
  have hlength := toNat_ofRange_length x y
  omega

theorem ofRange_range_eq_iff : ofRange a.range.1 a.range.2 = a ↔ a.Fits := by
  have hlength : (ofRange a.range.1 a.range.2).length.toNat = a.stop.toNat - a.start.toNat :=
    toNat_ofRange_length_eq a.start a.stop
  rw [fits_iff, ← hlength, UInt64.toNat_inj]
  constructor
  · intro h
    rw [h]
  · intro h
    exact congrArg (mk a.start) h.symm

theorem range_ofRange_eq (x y : UInt64) : (ofRange x y).range = (x, max x y) := by
  by_cases h : x ≤ y
  · have hmax : max x y = y := if_pos h
    rw [hmax, range_ofRange h]
  · have hmax : max x y = x := if_neg h
    -- the range is inverted, so that its span has no length
    have hstop : (ofRange x y).stop = x := by
      apply UInt64.toNat_inj.mp
      have hsum := toNat_stop (ofRange x y)
      rw [toNat_ofRange_length_eq, show (ofRange x y).start = x from rfl] at hsum
      have hx := x.toNat_lt_size
      rw [UInt64.le_iff_toNat_le] at h
      omega
    rw [hmax, range, hstop]
    rfl

/-! ## Containment -/

theorem contains_iff : a.contains b = true ↔ a.start ≤ b.start ∧ b.stop ≤ a.stop := by
  simp [contains]

theorem contains_refl (s : Span) : s.contains s = true :=
  contains_iff.mpr ⟨UInt64.le_refl _, UInt64.le_refl _⟩

theorem contains_trans (hab : a.contains b = true) (hbc : b.contains c = true) :
    a.contains c = true := by
  obtain ⟨hstart, hstop⟩ := contains_iff.mp hab
  obtain ⟨hstart', hstop'⟩ := contains_iff.mp hbc
  exact contains_iff.mpr ⟨UInt64.le_trans hstart hstart', UInt64.le_trans hstop' hstop⟩

theorem ends_eq_of_contains (hab : a.contains b = true) (hba : b.contains a = true) :
    a.start = b.start ∧ a.stop = b.stop := by
  obtain ⟨hstart, hstop⟩ := contains_iff.mp hab
  obtain ⟨hstart', hstop'⟩ := contains_iff.mp hba
  exact ⟨UInt64.le_antisymm hstart hstart', UInt64.le_antisymm hstop' hstop⟩

/-! ## Offsets -/

theorem nonempty_offsets_iff {r : UInt64 × UInt64} : (offsets r).Nonempty ↔ r.1 < r.2 := by
  constructor
  · rintro ⟨x, hfirst, hlast⟩
    exact UInt64.lt_of_le_of_lt hfirst hlast
  · intro h
    exact ⟨r.1, UInt64.le_refl _, h⟩

/-- Ranges with offsets are one in the other if their ends are. -/
theorem offsets_subset_iff {r t : UInt64 × UInt64} (h : (offsets t).Nonempty) :
    offsets t ⊆ offsets r ↔ r.1 ≤ t.1 ∧ t.2 ≤ r.2 := by
  constructor
  · intro hsub
    have hfirst : t.1 ∈ offsets r := hsub ⟨UInt64.le_refl _, nonempty_offsets_iff.mp h⟩
    refine ⟨hfirst.1, UInt64.not_lt.mp fun hlt => ?_⟩
    -- the end of the outer range would be an offset of the inner one
    have hend : r.2 ∈ offsets r := hsub ⟨UInt64.le_of_lt hfirst.2, hlt⟩
    exact UInt64.lt_irrefl _ hend.2
  · rintro ⟨hfirst, hlast⟩ x ⟨hx, hx'⟩
    exact ⟨UInt64.le_trans hfirst hx, UInt64.lt_of_lt_of_le hx' hlast⟩

theorem offsets_range_eq_empty_iff :
    offsets a.range = ∅ ↔ a.length.toNat = 0 ∨ a.start.toNat = UInt64.size - 1 := by
  have hstop := a.toNat_stop
  have hstart := a.start.toNat_lt_size
  rw [← Set.not_nonempty_iff_eq_empty, nonempty_offsets_iff, UInt64.lt_iff_toNat_lt]
  change ¬ a.start.toNat < a.stop.toNat ↔ _
  omega

theorem isEmpty_iff : a.isEmpty = true ↔ a.length.toNat = 0 := by
  rw [isEmpty, beq_iff_eq, ← UInt64.toNat_inj]
  rfl

/-- **Ranges.** No sum or difference leaves the words: an end is held at the largest one, and the
length of an inverted range at zero. Containment is a preorder, and it is antisymmetric for spans
that fit; for a span with offsets it is inclusion of the offsets. A span is the span of its range
just if it fits, a range is the range of its span unless it is inverted, and emptiness of a span is
emptiness of its range unless the span has a length and starts at the largest word. -/
theorem range_laws (a b c : Span) (x y : UInt64) :
    (a.stop.toNat = min (a.start.toNat + a.length.toNat) (UInt64.size - 1) ∧
      (ofRange x y).start = x ∧ (ofRange x y).length.toNat = y.toNat - x.toNat) ∧
    (a.contains a = true ∧
      (a.contains b = true → b.contains c = true → a.contains c = true)) ∧
    (a.contains b = true → b.contains a = true →
      a.start = b.start ∧ a.stop = b.stop ∧ (a.Fits → b.Fits → a = b)) ∧
    ((offsets b.range).Nonempty → (a.contains b = true ↔ offsets b.range ⊆ offsets a.range)) ∧
    (ofRange a.range.1 a.range.2 = a ↔ a.Fits) ∧
    (ofRange x y).range = (x, max x y) ∧
    ((a.isEmpty = true ↔ offsets a.range = ∅) ↔
      ¬ (a.start.toNat = UInt64.size - 1 ∧ 0 < a.length.toNat)) := by
  refine ⟨⟨a.toNat_stop, rfl, toNat_ofRange_length_eq x y⟩, ⟨a.contains_refl, contains_trans⟩,
    fun hab hba => ?_, fun h => ?_, ofRange_range_eq_iff, range_ofRange_eq x y, ?_⟩
  · obtain ⟨hstart, hstop⟩ := ends_eq_of_contains hab hba
    exact ⟨hstart, hstop, fun ha hb => eq_of_fits ha hb hstart hstop⟩
  · rw [contains_iff, offsets_subset_iff h]
    rfl
  · rw [isEmpty_iff, offsets_range_eq_empty_iff]
    omega

/-- The span of a length that starts two offsets before the largest word. -/
def high (length : UInt64) : Span := ⟨18446744073709551613, length⟩

/-- Spans at the largest word, of which one fits and the other does not, contain each other and have
the same offsets. -/
theorem range_laws_high :
    ((high 7).contains (high 2) = true ∧ (high 2).contains (high 1) = true ∧
      (high 7).contains (high 1) = true) ∧
    ((high 2).contains (high 7) = true ∧ (high 2).stop = (high 7).stop) ∧
    ((offsets (high 7).range).Nonempty ∧ offsets (high 7).range ⊆ offsets (high 2).range) ∧
    (ofRange 18446744073709551613 18446744073709551615).Fits ∧ (high 2).Fits ∧
    ofRange 18446744073709551613 18446744073709551615 = high 2 := by
  have hdown : (high 7).contains (high 2) = true := by decide
  have hup : (high 2).contains (high 7) = true := by decide
  have hinner : (high 2).contains (high 1) = true := by decide
  have hoffsets : (offsets (high 7).range).Nonempty := nonempty_offsets_iff.mpr (by decide)
  have hfits : (high 2).Fits := by decide
  have htrans := (range_laws (high 7) (high 2) (high 1) 0 0).2.1.2 hdown hinner
  have hends := (range_laws (high 2) (high 7) (high 1) 0 0).2.2.1 hup hdown
  have hsubset := ((range_laws (high 2) (high 7) (high 1) 0 0).2.2.2.1 hoffsets).mp hup
  have heq := (range_laws (ofRange 18446744073709551613 18446744073709551615) (high 2) (high 1)
    0 0).2.2.1 (by decide) (by decide)
  exact ⟨⟨hdown, hinner, htrans⟩, ⟨hup, hends.2.1⟩, ⟨hoffsets, hsubset⟩, by decide, hfits,
    heq.2.2 (by decide) hfits⟩

end SyntaxOutline.Span
