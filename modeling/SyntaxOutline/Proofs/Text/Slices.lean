import SyntaxOutline.Proofs.Text.Spans

/-!
# Cuts between characters

A text can be cut at an offset if the bytes in front of it are those of whole characters, that is,
if the offset is a valid position in the text.

* `dropBytes_eq_some_iff`, `takeBytes_eq_some_iff` : the two sides of a cut.
* `slice?_eq_some_iff` : what lies between two cuts.
* `exists_slice?_iff` : there is such a part if both offsets are valid positions in order.
-/

namespace SyntaxOutline.Text

theorem utf8Length_append (cs ds : List Char) :
    utf8Length (cs ++ ds) = utf8Length cs + utf8Length ds := by
  induction cs with
  | nil => rw [List.nil_append, utf8Length, Nat.zero_add]
  | cons c cs ih => rw [List.cons_append, utf8Length, utf8Length, ih, Nat.add_assoc]

theorem exists_utf8Length_cons (c : Char) (cs : List Char) :
    ∃ n, utf8Length (c :: cs) = n + 1 := by
  have hpos := c.utf8Size_pos
  exact ⟨c.utf8Size - 1 + utf8Length cs, by rw [utf8Length]; omega⟩

/-! ## One cut -/

theorem dropBytes_append (front rest : List Char) :
    dropBytes (utf8Length front) (front ++ rest) = some rest := by
  induction front with
  | nil => simp [utf8Length, dropBytes]
  | cons c front ih =>
    obtain ⟨n, hn⟩ := exists_utf8Length_cons c front
    rw [hn, List.cons_append, dropBytes]
    rw [utf8Length] at hn
    rw [if_pos (by omega), ← hn, Nat.add_sub_cancel_left, ih]

theorem exists_front_of_dropBytes {n : Nat} {cs rest : List Char}
    (h : dropBytes n cs = some rest) : ∃ front, cs = front ++ rest ∧ utf8Length front = n := by
  induction cs generalizing n with
  | nil =>
    cases n with
    | zero =>
      simp only [dropBytes, Option.some.injEq] at h
      exact ⟨[], h, rfl⟩
    | succ n => cases h
  | cons c cs ih =>
    cases n with
    | zero =>
      simp only [dropBytes, Option.some.injEq] at h
      exact ⟨[], h, rfl⟩
    | succ n =>
      rw [dropBytes] at h
      split at h
      · obtain ⟨front, rfl, hlength⟩ := ih h
        exact ⟨c :: front, rfl, by rw [utf8Length]; omega⟩
      · cases h

theorem dropBytes_eq_some_iff {n : Nat} {cs rest : List Char} :
    dropBytes n cs = some rest ↔ ∃ front, cs = front ++ rest ∧ utf8Length front = n := by
  constructor
  · exact exists_front_of_dropBytes
  · rintro ⟨front, rfl, rfl⟩
    exact dropBytes_append front rest

theorem takeBytes_append (front rest : List Char) :
    takeBytes (utf8Length front) (front ++ rest) = some front := by
  induction front with
  | nil => simp [utf8Length, takeBytes]
  | cons c front ih =>
    obtain ⟨n, hn⟩ := exists_utf8Length_cons c front
    rw [hn, List.cons_append, takeBytes]
    rw [utf8Length] at hn
    rw [if_pos (by omega), ← hn, Nat.add_sub_cancel_left, ih, Option.map_some]

theorem exists_rest_of_takeBytes {n : Nat} {cs front : List Char}
    (h : takeBytes n cs = some front) : ∃ rest, cs = front ++ rest ∧ utf8Length front = n := by
  induction cs generalizing n front with
  | nil =>
    cases n with
    | zero =>
      simp only [takeBytes, Option.some.injEq] at h
      exact ⟨[], by simp [← h], by rw [← h, utf8Length]⟩
    | succ n => cases h
  | cons c cs ih =>
    cases n with
    | zero =>
      simp only [takeBytes, Option.some.injEq] at h
      exact ⟨c :: cs, by simp [← h], by rw [← h, utf8Length]⟩
    | succ n =>
      rw [takeBytes] at h
      split at h
      · obtain ⟨front', hfront, rfl⟩ := Option.map_eq_some_iff.mp h
        obtain ⟨rest, rfl, hlength⟩ := ih hfront
        exact ⟨rest, rfl, by rw [utf8Length]; omega⟩
      · cases h

theorem takeBytes_eq_some_iff {n : Nat} {cs front : List Char} :
    takeBytes n cs = some front ↔ ∃ rest, cs = front ++ rest ∧ utf8Length front = n := by
  constructor
  · exact exists_rest_of_takeBytes
  · rintro ⟨rest, rfl, rfl⟩
    exact takeBytes_append front rest

/-! ## Two cuts -/

theorem slice?_eq_some_iff {text own : List Char} {start stop : Nat} :
    slice? text start stop = some own ↔
      ∃ before after, text = before ++ own ++ after ∧ utf8Length before = start ∧
        utf8Length (before ++ own) = stop := by
  rw [slice?]
  constructor
  · intro h
    split at h
    · obtain ⟨rest, hdrop, htake⟩ := Option.bind_eq_some_iff.mp h
      obtain ⟨before, rfl, hbefore⟩ := dropBytes_eq_some_iff.mp hdrop
      obtain ⟨after, rfl, hown⟩ := takeBytes_eq_some_iff.mp htake
      refine ⟨before, after, (List.append_assoc _ _ _).symm, hbefore, ?_⟩
      rw [utf8Length_append]
      omega
    · cases h
  · rintro ⟨before, after, rfl, rfl, rfl⟩
    rw [utf8Length_append, if_pos (Nat.le_add_right _ _), Nat.add_sub_cancel_left,
      List.append_assoc, dropBytes_append, Option.bind_some, takeBytes_append]

/-- A position is valid if it lies behind the bytes of some front part of the text. -/
theorem isValid_iff {text : String} {n : Nat} :
    (⟨n⟩ : String.Pos.Raw).IsValid text ↔
      ∃ before after, text.toList = before ++ after ∧ utf8Length before = n := by
  rw [String.Pos.Raw.isValid_iff_exists_append]
  constructor
  · rintro ⟨before, after, rfl, hpos⟩
    refine ⟨before.toList, after.toList, String.toList_append, ?_⟩
    rw [utf8Length_toList]
    exact (congrArg String.Pos.Raw.byteIdx hpos).symm
  · rintro ⟨before, after, htext, rfl⟩
    refine ⟨String.ofList before, String.ofList after, ?_, ?_⟩
    · rw [← String.ofList_append, ← htext, String.ofList_toList]
    · rw [← utf8ByteSize_ofList]
      rfl

/-- There is a part between two offsets if and only if both are valid positions, the first of them
not behind the second. -/
theorem exists_slice?_iff {text : String} {start stop : Nat} :
    (∃ own, slice? text.toList start stop = some own) ↔
      start ≤ stop ∧ (⟨start⟩ : String.Pos.Raw).IsValid text ∧
        (⟨stop⟩ : String.Pos.Raw).IsValid text := by
  simp only [isValid_iff, slice?_eq_some_iff]
  constructor
  · rintro ⟨own, before, after, htext, rfl, rfl⟩
    rw [utf8Length_append]
    refine ⟨Nat.le_add_right _ _, ⟨before, own ++ after, ?_, rfl⟩, before ++ own, after, htext, ?_⟩
    · rw [htext, List.append_assoc]
    · rw [utf8Length_append]
  · rintro ⟨hle, ⟨before, rest, htext, rfl⟩, before', after, htext', rfl⟩
    -- both cuts are made in the same text, so the earlier front part begins the later one
    rcases List.append_eq_append_iff.mp (htext.symm.trans htext') with
      ⟨own, rfl, rfl⟩ | ⟨own, rfl, rfl⟩
    · exact ⟨own, before, after, htext', rfl, rfl⟩
    · rw [utf8Length_append] at hle ⊢
      have hempty : own = [] := by
        cases own with
        | nil => rfl
        | cons c cs =>
          obtain ⟨n, hn⟩ := exists_utf8Length_cons c cs
          omega
      subst hempty
      exact ⟨[], before', rest, by simpa using htext', rfl, by simp⟩

end SyntaxOutline.Text
