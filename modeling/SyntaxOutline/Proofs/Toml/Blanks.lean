import SyntaxOutline.Proofs.Json.Outcome
import SyntaxOutline.Proofs.Toml.Grammar
import SyntaxOutline.Toml.Document

/-!
# Reading blanks, comments and line ends

What stands between values is skipped (`skipGap_append`), and so is the rest of a line
(`readLineEnd_append`). A value ends where the text behind it is blank up to a mark or the end of
the line (`Ends`).
-/

namespace SyntaxOutline.Toml

/-- Texts that are not empty are no more than the characters of all of them. -/
theorem length_le_flatMap {α : Type} {text : α → List Char} (h : ∀ a, text a ≠ []) (l : List α) :
    l.length ≤ (l.flatMap text).length := by
  induction l with
  | nil => exact Nat.le_refl 0
  | cons a l ih =>
    have hpos := List.length_pos_iff.mpr (h a)
    rw [List.flatMap_cons, List.length_append, List.length_cons]
    omega

/-! ## Blanks and comments -/

theorem isSpace_iff {c : Char} : isSpace c = true ↔ c = ' ' ∨ c = '\t' := by
  simp [isSpace]

theorem isPlain_iff {c : Char} : isPlain c = true ↔ IsPrinted c := by
  simp [isPlain, IsPrinted]

section

variable {cs rest : List Char}

theorem skipSpaces_append (s : Spaces) (cs : List Char) :
    skipSpaces (s.chars ++ cs) = skipSpaces cs :=
  List.dropWhile_append_of_pos fun c hc => isSpace_iff.mpr (s.blank c hc)

theorem skipSpaces_of_head (h : ∀ c ∈ cs.head?, isSpace c = false) : skipSpaces cs = cs :=
  dropWhile_run (fun _ hc => absurd hc List.not_mem_nil) h

theorem skipSpaces_cons {c : Char} (h : isSpace c = false) (cs : List Char) :
    skipSpaces (c :: cs) = c :: cs := by
  refine skipSpaces_of_head ?_
  rintro _ ⟨⟩
  exact h

theorem lineEnd?_text (e : LineEnd) (cs : List Char) : lineEnd? (e.text ++ cs) = some cs := by
  cases e with
  | feed => rfl
  | returnFeed => rfl

theorem LineEnd.exists_text (e : LineEnd) :
    ∃ c cs, e.text = c :: cs ∧ (c = '\n' ∨ c = '\r') := by
  cases e with
  | feed => exact ⟨'\n', [], rfl, .inl rfl⟩
  | returnFeed => exact ⟨'\r', ['\n'], rfl, .inr rfl⟩

/-- The character begins neither blanks nor a comment nor a line end. -/
def IsSolid (c : Char) : Prop := c ≠ ' ' ∧ c ≠ '\t' ∧ c ≠ '#' ∧ c ≠ '\n' ∧ c ≠ '\r'

instance (c : Char) : Decidable (IsSolid c) := inferInstanceAs (Decidable (_ ∧ _))

theorem IsSolid.isSpace {c : Char} (h : IsSolid c) : isSpace c = false := by
  simp [Toml.isSpace, h.1, h.2.1]

theorem skipComment_cons {c : Char} (hc : c ≠ '#') (cs : List Char) :
    skipComment (c :: cs) = .ok (c :: cs) := by
  unfold skipComment
  split
  · rename_i he
    exact absurd (List.cons.inj he).1 hc
  · rfl

theorem lineEnd?_cons {c : Char} (hfeed : c ≠ '\n') (hreturn : c ≠ '\r') (cs : List Char) :
    lineEnd? (c :: cs) = none := by
  unfold lineEnd?
  split
  · rename_i he
    exact absurd (List.cons.inj he).1 hfeed
  · rename_i he
    exact absurd (List.cons.inj he).1 hreturn
  · rfl

/-- Blanks and a comment are skipped up to the end of the line. -/
theorem skipComment_tail (t : Tail) (e : LineEnd) (cs : List Char) :
    skipComment (skipSpaces (t.text ++ (e.text ++ cs))) = .ok (e.text ++ cs) := by
  obtain ⟨spaces, comment⟩ := t
  obtain ⟨c, more, htext, hc⟩ := e.exists_text
  have hend : lineEnd? (e.text ++ cs) = some cs := lineEnd?_text e cs
  rw [htext] at hend ⊢
  rw [Tail.text, List.append_assoc, skipSpaces_append]
  cases comment with
  | none =>
    have hspace : isSpace c = false := by rcases hc with rfl | rfl <;> rfl
    have hmark : c ≠ '#' := by rcases hc with rfl | rfl <;> decide
    rw [Option.elim_none, List.nil_append, List.cons_append, skipSpaces_cons hspace,
      skipComment_cons hmark]
  | some comment =>
    have hplain : ∀ d ∈ (c :: more ++ cs).head?, isPlain d = false := by
      rintro _ ⟨⟩
      rcases hc with rfl | rfl <;> rfl
    have hskip : (comment.chars ++ (c :: more ++ cs)).dropWhile isPlain = c :: (more ++ cs) :=
      dropWhile_run (fun d hd => isPlain_iff.mpr (comment.printed d hd)) hplain
    rw [Option.elim_some, List.cons_append, skipSpaces_cons rfl, skipComment, hskip]
    dsimp only
    rw [← List.cons_append, hend]
    rfl

/-- Blanks and a comment are skipped at the end of the text. -/
theorem skipComment_last (t : Tail) : skipComment (skipSpaces t.text) = .ok [] := by
  obtain ⟨spaces, comment⟩ := t
  rw [Tail.text, skipSpaces_append]
  cases comment with
  | none => rfl
  | some comment =>
    have hskip : (comment.chars ++ []).dropWhile isPlain = [] :=
      dropWhile_run (fun d hd => isPlain_iff.mpr (comment.printed d hd)) (by simp)
    rw [List.append_nil] at hskip
    rw [Option.elim_some, skipSpaces_cons rfl, skipComment, hskip]

/-- Lines without a statement are skipped one after the other, up to what stops there. -/
theorem skipLines_append {stop : List Char} (hstop : skipComment (skipSpaces rest) = .ok stop)
    (hnone : lineEnd? stop = none) (spaces : Spaces) (lines : List (Tail × LineEnd)) {fuel : Nat}
    (hfuel : lines.length < fuel) :
    skipLines fuel (Gap.text ⟨lines, spaces⟩ ++ rest) = .ok stop := by
  obtain ⟨fuel, rfl⟩ := Nat.exists_eq_succ_of_ne_zero (Nat.ne_of_gt (Nat.zero_lt_of_lt hfuel))
  induction lines generalizing fuel with
  | nil =>
    rw [Gap.text, List.flatMap_nil, List.nil_append, skipLines, skipSpaces_append, hstop, ok_bind,
      hnone]
  | cons line lines ih =>
    obtain ⟨t, e⟩ := line
    have htext : Gap.text ⟨(t, e) :: lines, spaces⟩ ++ rest =
        t.text ++ (e.text ++ (Gap.text ⟨lines, spaces⟩ ++ rest)) := by
      simp [Gap.text]
    rw [List.length_cons] at hfuel
    obtain ⟨fuel, rfl⟩ := Nat.exists_eq_succ_of_ne_zero (n := fuel) (by omega)
    rw [htext, skipLines, skipComment_tail, ok_bind, lineEnd?_text]
    exact ih fuel (by omega)

theorem Gap.length_lines_le (g : Gap) : g.lines.length ≤ g.text.length := by
  have hlines : g.lines.length ≤
      (g.lines.flatMap fun line => line.1.text ++ line.2.text).length := by
    refine length_le_flatMap (fun line => ?_) g.lines
    obtain ⟨c, cs, htext, -⟩ := line.2.exists_text
    simp [htext]
  rw [Gap.text, List.length_append]
  omega

theorem skipGap_append_of_stop {stop : List Char} (g : Gap)
    (hstop : skipComment (skipSpaces rest) = .ok stop) (hnone : lineEnd? stop = none) :
    skipGap (g.text ++ rest) = .ok stop := by
  refine skipLines_append hstop hnone g.spaces g.lines ?_
  have := g.length_lines_le
  rw [List.length_append]
  omega

/-- A gap is skipped up to the character behind it. -/
theorem skipGap_append (g : Gap) {c : Char} (hc : IsSolid c) (cs : List Char) :
    skipGap (g.text ++ c :: cs) = .ok (c :: cs) := by
  refine skipGap_append_of_stop g ?_ (lineEnd?_cons hc.2.2.2.1 hc.2.2.2.2 cs)
  rw [skipSpaces_cons hc.isSpace, skipComment_cons hc.2.2.1]

theorem skipGap_spaces (s : Spaces) {c : Char} (hc : IsSolid c) (cs : List Char) :
    skipGap (s.chars ++ c :: cs) = .ok (c :: cs) :=
  skipGap_append ⟨[], s⟩ hc cs

theorem readLineEnd_append (t : Tail) (e : LineEnd) (cs : List Char) :
    readLineEnd (t.text ++ (e.text ++ cs)) = .ok cs := by
  rw [readLineEnd, skipComment_tail, ok_bind]
  have hend := lineEnd?_text e cs
  obtain ⟨c, more, htext, -⟩ := e.exists_text
  rw [htext, List.cons_append] at hend ⊢
  dsimp only
  rw [hend]
  rfl

theorem readLineEnd_last (t : Tail) : readLineEnd t.text = .ok [] := by
  rw [readLineEnd, skipComment_last]
  rfl

end

/-! ## Where a value ends -/

/-- Behind a value, only blanks stand in front of a comma, a bracket, a comment or the end of the
line. -/
def Ends (rest : List Char) : Prop :=
  ∀ c ∈ (skipSpaces rest).head?, c ∈ ['\n', '\r', '#', ',', ']', '\x7d']

section

variable {rest : List Char}

theorem ends_nil : Ends [] := by
  rintro _ ⟨⟩

theorem ends_cons {c : Char} (hc : c ∈ ['\n', '\r', '#', ',', ']', '\x7d']) (cs : List Char) :
    Ends (c :: cs) := by
  have hspace : ∀ d ∈ ['\n', '\r', '#', ',', ']', '\x7d'], isSpace d = false :=
    List.all_iff_forall_prop.mp rfl
  rw [Ends, skipSpaces_cons (hspace c hc)]
  rintro _ ⟨⟩
  exact hc

theorem Ends.spaces (h : Ends rest) (s : Spaces) : Ends (s.chars ++ rest) := by
  rwa [Ends, skipSpaces_append]

theorem ends_lineEnd (e : LineEnd) (cs : List Char) : Ends (e.text ++ cs) := by
  cases e with
  | feed => exact ends_cons (by decide) _
  | returnFeed => exact ends_cons (by decide) _

theorem Ends.tail (h : Ends rest) (t : Tail) : Ends (t.text ++ rest) := by
  obtain ⟨spaces, comment⟩ := t
  rw [Tail.text, List.append_assoc]
  refine Ends.spaces ?_ spaces
  cases comment with
  | none => exact h
  | some comment => exact ends_cons (by decide) _

theorem Ends.gap (h : Ends rest) (g : Gap) : Ends (g.text ++ rest) := by
  obtain ⟨lines, spaces⟩ := g
  cases lines with
  | nil =>
    rw [Gap.text, List.flatMap_nil, List.nil_append]
    exact h.spaces spaces
  | cons line lines =>
    rw [Gap.text, List.flatMap_cons, List.append_assoc, List.append_assoc, List.append_assoc]
    exact (ends_lineEnd line.2 _).tail line.1

/-- What follows a value begins with a blank or with one of the marks. -/
theorem Ends.head (h : Ends rest) {c : Char} (hc : c ∈ rest.head?) :
    c ∈ [' ', '\t', '\n', '\r', '#', ',', ']', '\x7d'] := by
  by_cases hspace : isSpace c = true
  · rcases isSpace_iff.mp hspace with rfl | rfl <;> decide
  · obtain ⟨cs, rfl⟩ := List.head?_eq_some_iff.mp hc
    have hmark := h c (by rw [skipSpaces_cons (by simpa using hspace)]; rfl)
    exact List.mem_cons_of_mem _ (List.mem_cons_of_mem _ hmark)

/-- What holds of blanks and marks holds of what follows a value. -/
theorem Ends.head_of_all (h : Ends rest) {p : Char → Bool}
    (hp : ∀ c ∈ [' ', '\t', '\n', '\r', '#', ',', ']', '\x7d'], p c = false) :
    ∀ c ∈ rest.head?, p c = false :=
  fun c hc => hp c (h.head hc)

end

end SyntaxOutline.Toml
