import SyntaxOutline.Span
import SyntaxOutline.Text.Utf8

/-!
# Spans of a text

What it means that a span covers a part of a text, in characters and in bytes, and that spans lie
one behind the other. The bytes are those of the UTF-8 form of strings; `Text.utf8Length` counts the
same for lists of characters.
-/

namespace SyntaxOutline

namespace Text

theorem utf8ByteSize_ofList (cs : List Char) :
    (String.ofList cs).utf8ByteSize = utf8Length cs := by
  induction cs with
  | nil => rfl
  | cons c cs ih =>
    rw [utf8Length, String.ofList_cons, String.utf8ByteSize_append, String.utf8ByteSize_singleton,
      ih]

theorem utf8Length_toList (s : String) : utf8Length s.toList = s.utf8ByteSize := by
  rw [← utf8ByteSize_ofList, String.ofList_toList]

end Text

namespace Span

/-- The text is `before`, then `own`, then something else; and the span begins and ends with
`own`. -/
structure Covers (s : Span) (text before own : String) : Prop where
  splits : ∃ after, text = before ++ own ++ after
  start : s.start.toNat = before.utf8ByteSize
  stop : s.stop.toNat = (before ++ own).utf8ByteSize

theorem Covers.stop_le {s : Span} {text before own : String} (h : s.Covers text before own) :
    s.stop.toNat ≤ text.utf8ByteSize := by
  obtain ⟨after, rfl⟩ := h.splits
  rw [h.stop]
  simp only [String.utf8ByteSize_append]
  omega

/-- The bytes of the text between the ends of the span are those of `own`. -/
theorem Covers.extract_eq {s : Span} {text before own : String} (h : s.Covers text before own) :
    text.toUTF8.extract s.range.1.toNat s.range.2.toNat = own.toUTF8 := by
  obtain ⟨after, rfl⟩ := h.splits
  simp only [range, h.start, h.stop, String.toUTF8_eq_toByteArray, String.toByteArray_append]
  rw [ByteArray.extract_append, ByteArray.extract_append_eq_right]
  · simp
  · simp
  · simp

/-- Each span begins where the one before it ends: the first at offset `a`, and the last one ends at
offset `b`. -/
def Tile (a : UInt64) : List Span → UInt64 → Prop
  | [], b => a = b
  | s :: ss, b => s.start = a ∧ Tile s.stop ss b

/-! ## Spans of known offset and length -/

/-- The span of so many bytes at an offset. -/
def ofBytes (offset length : Nat) : Span := ⟨UInt64.ofNat offset, UInt64.ofNat length⟩

section

variable {offset length : Nat} (h : offset + length < UInt64.size)
include h

theorem toNat_ofBytes_start : (ofBytes offset length).start.toNat = offset := by
  simp only [ofBytes]
  apply UInt64.toNat_ofNat_of_lt'
  omega

theorem toNat_ofBytes_length : (ofBytes offset length).length.toNat = length := by
  simp only [ofBytes]
  apply UInt64.toNat_ofNat_of_lt'
  omega

/-- A span that fits in a word ends where its length says. -/
theorem ofBytes_stop : (ofBytes offset length).stop = UInt64.ofNat (offset + length) := by
  rw [stop, addHeld, if_pos, UInt64.ofNat_add]
  · rfl
  · rw [toNat_ofBytes_start h, toNat_ofBytes_length h]
    exact h

theorem toNat_ofBytes_stop : (ofBytes offset length).stop.toNat = offset + length := by
  rw [ofBytes_stop h]
  exact UInt64.toNat_ofNat_of_lt' h

end

/-! ## Spans of ranges -/

theorem toNat_ofRange_length (start stop : UInt64) :
    (ofRange start stop).length.toNat = max stop.toNat start.toNat - start.toNat := by
  rw [ofRange, subHeld]
  split
  · rename_i hle
    rw [UInt64.toNat_sub_of_le _ _ hle, Nat.max_eq_left (UInt64.le_iff_toNat_le.mp hle)]
  · rename_i hlt
    rw [UInt64.le_iff_toNat_le] at hlt
    rw [Nat.max_eq_right (by omega), Nat.sub_self]
    rfl

/-- A range that is not inverted is the range of its span. -/
theorem range_ofRange {start stop : UInt64} (h : start ≤ stop) :
    (ofRange start stop).range = (start, stop) := by
  have hlength : (stop - start).toNat = stop.toNat - start.toNat :=
    UInt64.toNat_sub_of_le _ _ h
  have hfits : start.toNat + (stop - start).toNat < UInt64.size := by
    have hle := UInt64.le_iff_toNat_le.mp h
    have hlt := stop.toNat_lt_size
    omega
  have hstop : (ofRange start stop).stop = stop := by
    rw [Span.stop, ofRange, subHeld, if_pos h, addHeld, if_pos hfits, UInt64.add_comm,
      UInt64.sub_add_cancel]
  rw [range, hstop, ofRange]

end Span

end SyntaxOutline
