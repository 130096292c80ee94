import SyntaxOutline.Proofs.Toml.Strings

/-!
# Reading keys

A key with no more parts than there may be is read up to where it ends (`readDotted_text`), and one
with more is refused (`readDotted_tooDeep`).
-/

namespace SyntaxOutline.Toml

theorem isBare_iff {c : Char} : isBare c = true ↔ IsBareChar c := by
  simp [isBare, IsBareChar, or_assoc]

/-- The marks that begin neither a key nor a part of one. -/
def marks : List Char := [' ', '\t', '\n', '\r', '#', '.', '=', ',', '[', ']', '\x7b', '\x7d']

theorem IsBareChar.not_mem {c : Char} (h : IsBareChar c) : c ∉ marks ∧ c ≠ '"' ∧ c ≠ '\'' := by
  have hmarks : ∀ d ∈ marks, ¬ IsBareChar d := List.all_iff_forall_prop.mp rfl
  refine ⟨fun hc => hmarks c hc h, ?_, ?_⟩
  · rintro rfl
    exact absurd h (by decide)
  · rintro rfl
    exact absurd h (by decide)

theorem Quote.char_not_mem (q : Quote) : q.char ∉ marks := by
  cases q with
  | double => decide
  | single => decide

theorem isSolid_of_not_mem {c : Char} (h : c ∉ marks) : IsSolid c := by
  have hsolid : c ≠ ' ' ∧ c ≠ '\t' ∧ c ≠ '\n' ∧ c ≠ '\r' ∧ c ≠ '#' := by
    simp only [marks, List.mem_cons, not_or] at h
    exact ⟨h.1, h.2.1, h.2.2.1, h.2.2.2.1, h.2.2.2.2.1⟩
  exact ⟨hsolid.1, hsolid.2.1, hsolid.2.2.2.2, hsolid.2.2.1, hsolid.2.2.2.1⟩

theorem KeyPart.exists_text (part : KeyPart) : ∃ c cs, part.text = c :: cs ∧ c ∉ marks := by
  cases part with
  | bare chars nonempty bare =>
    obtain ⟨c, cs, rfl⟩ := List.exists_cons_of_ne_nil nonempty
    exact ⟨c, cs, rfl, (bare c List.mem_cons_self).not_mem.1⟩
  | quoted q pieces => exact ⟨q.char, _, rfl, q.char_not_mem⟩

theorem DottedKey.exists_text (k : DottedKey) : ∃ c cs, k.text = c :: cs ∧ c ∉ marks := by
  obtain ⟨fronts, last⟩ := k
  cases fronts with
  | nil => exact last.exists_text
  | cons f fronts =>
    obtain ⟨c, cs, htext, hc⟩ := f.part.exists_text
    refine ⟨c, cs ++ (f.left.chars ++ '.' :: f.right.chars) ++
      DottedKey.text ⟨fronts, last⟩, ?_, hc⟩
    simp [DottedKey.text, FrontPart.text, htext]

/-- One part of a key is read up to a character that does not belong to it. -/
theorem readKey_text (part : KeyPart) {rest : List Char}
    (hrest : ∀ c ∈ rest.head?, isBare c = false) :
    ∃ region, readKey (part.text ++ rest) = .ok (⟨part.name, region⟩, rest) := by
  cases part with
  | bare chars nonempty bare =>
    have hbare : ∀ c ∈ chars, isBare c = true := fun c hc => isBare_iff.mpr (bare c hc)
    have hnot : ∀ d cs, chars ++ rest = d :: cs → d ≠ '"' ∧ d ≠ '\'' := by
      intro d cs he
      obtain ⟨c, more, rfl⟩ := List.exists_cons_of_ne_nil nonempty
      obtain rfl : c = d := (List.cons.inj he).1
      exact (bare c List.mem_cons_self).not_mem.2
    refine ⟨.upTo (chars ++ rest) rest, ?_⟩
    rw [KeyPart.text]
    unfold readKey
    split
    · rename_i he
      exact absurd rfl (hnot _ _ he).1
    · rename_i he
      exact absurd rfl (hnot _ _ he).2
    · rw [takeWhile_run hbare hrest, dropWhile_run hbare hrest]
      dsimp only
      rw [if_neg (by simpa using nonempty)]
      rfl
  | quoted q pieces =>
    have htext : (KeyPart.quoted q pieces).text ++ rest =
        q.char :: (pieces.flatMap Piece.text ++ q.char :: rest) := by
      simp [KeyPart.text, Literal.text, Literal.body, Literal.quote]
    rw [htext]
    refine ⟨.upTo (q.char :: (pieces.flatMap Piece.text ++ q.char :: rest)) rest, ?_⟩
    cases q with
    | double =>
      have hfuel : (pieces.flatMap Piece.text).length <
          (pieces.flatMap Piece.text ++ '"' :: rest).length + 1 := by
        rw [List.length_append]
        omega
      rw [Quote.char, readKey, readBasic_pieces pieces rest hfuel]
      rfl
    | single =>
      rw [Quote.char, readKey, readLiteral_pieces]
      rfl

/-- Behind a key, only blanks stand in front of what ends it. -/
def EndsKey (rest : List Char) : Prop := ∀ c ∈ (skipSpaces rest).head?, c = '=' ∨ c = ']'

theorem endsKey_spaces (s : Spaces) {c : Char} (hc : c = '=' ∨ c = ']') (cs : List Char) :
    EndsKey (s.chars ++ c :: cs) := by
  have hspace : isSpace c = false := by rcases hc with rfl | rfl <;> rfl
  rw [EndsKey, skipSpaces_append, skipSpaces_cons hspace]
  rintro _ ⟨⟩
  exact hc

/-- Blanks in front of a character that is in no key do not belong to a key. -/
theorem head_spaces (s : Spaces) {c : Char} (hc : isBare c = false) (cs : List Char) :
    ∀ d ∈ (s.chars ++ c :: cs).head?, isBare d = false := by
  obtain ⟨chars, blank⟩ := s
  cases chars with
  | nil =>
    rintro _ ⟨⟩
    exact hc
  | cons e more =>
    rintro _ ⟨⟩
    rcases blank e List.mem_cons_self with rfl | rfl <;> rfl

theorem EndsKey.head {rest : List Char} (h : EndsKey rest) :
    ∀ c ∈ rest.head?, isBare c = false := by
  intro c hc
  obtain ⟨cs, rfl⟩ := List.head?_eq_some_iff.mp hc
  by_cases hspace : isSpace c = true
  · rcases isSpace_iff.mp hspace with rfl | rfl <;> rfl
  · rcases h c (by rw [skipSpaces_cons (by simpa using hspace)]; rfl) with rfl | rfl <;> rfl

theorem readPath_end {rest : List Char} (h : EndsKey rest) (path : List Key) (last : Key)
    (room : Nat) : readPath path last room rest = .ok ((path, last), rest) := by
  unfold readPath
  split
  · rename_i he
    rcases h '.' (by rw [he]; rfl) with hc | hc <;> cases hc
  · rename_i he
    rcases h '.' (by rw [he]; rfl) with hc | hc <;> cases hc
  · rfl

theorem readPath_point (s : Spaces) (cs : List Char) (path : List Key) (last : Key) (room : Nat) :
    readPath path last (room + 1) (s.chars ++ '.' :: cs) =
      readKey (skipSpaces cs) >>= fun (key, rest) => readPath (path ++ [last]) key room rest := by
  have hpoint : isSpace '.' = false := rfl
  rw [readPath.eq_def]
  dsimp only
  rw [skipSpaces_append, skipSpaces_cons hpoint]
  rfl

theorem readPath_noRoom (s : Spaces) (cs : List Char) (path : List Key) (last : Key) :
    readPath path last 0 (s.chars ++ '.' :: cs) = fail .tooDeep cs := by
  have hpoint : isSpace '.' = false := rfl
  rw [readPath.eq_def]
  dsimp only
  rw [skipSpaces_append, skipSpaces_cons hpoint]
  rfl

/-- The part in front of a point is read, and the next part is in its place. -/
theorem readKey_front (f : FrontPart) (fronts : List FrontPart) (last : KeyPart)
    (rest : List Char) :
    ∃ region, readKey (DottedKey.text ⟨f :: fronts, last⟩ ++ rest) = .ok (⟨f.part.name, region⟩,
        f.left.chars ++ '.' :: (f.right.chars ++ (DottedKey.text ⟨fronts, last⟩ ++ rest))) ∧
      skipSpaces (f.right.chars ++ (DottedKey.text ⟨fronts, last⟩ ++ rest)) =
        DottedKey.text ⟨fronts, last⟩ ++ rest := by
  obtain ⟨c, cs, hhead, hc⟩ := DottedKey.exists_text ⟨fronts, last⟩
  have htext : DottedKey.text ⟨f :: fronts, last⟩ ++ rest = f.part.text ++
      (f.left.chars ++ '.' :: (f.right.chars ++ (DottedKey.text ⟨fronts, last⟩ ++ rest))) := by
    simp [DottedKey.text, FrontPart.text]
  obtain ⟨region, hread⟩ := readKey_text f.part (head_spaces f.left (c := '.') rfl
    (f.right.chars ++ (DottedKey.text ⟨fronts, last⟩ ++ rest)))
  rw [← htext] at hread
  refine ⟨region, hread, ?_⟩
  rw [skipSpaces_append, hhead, List.cons_append, skipSpaces_cons (isSolid_of_not_mem hc).isSpace]

/-- The parts of a key are read one after the other behind those in `before`. -/
theorem readPath_text (last : KeyPart) {rest : List Char} (hrest : EndsKey rest)
    (fronts : List FrontPart) {room : Nat} (hroom : fronts.length ≤ room) (before : List Key) :
    ∃ first mid path key, readKey (DottedKey.text ⟨fronts, last⟩ ++ rest) = .ok (first, mid) ∧
      readPath before first room mid = .ok ((before ++ path, key), rest) ∧
      path.map Key.name = DottedKey.path ⟨fronts, last⟩ ∧ key.name = last.name := by
  induction fronts generalizing room before with
  | nil =>
    obtain ⟨region, hread⟩ := readKey_text last hrest.head
    refine ⟨⟨last.name, region⟩, rest, [], ⟨last.name, region⟩, hread, ?_, rfl, rfl⟩
    rw [List.append_nil]
    exact readPath_end hrest before _ room
  | cons f fronts ih =>
    obtain ⟨room, rfl⟩ := Nat.exists_eq_succ_of_ne_zero (n := room) (by rintro rfl; cases hroom)
    obtain ⟨region, hread, hskip⟩ := readKey_front f fronts last rest
    obtain ⟨first, mid, path, key, hfirst, hpath, hnames, hkey⟩ :=
      ih (Nat.le_of_succ_le_succ hroom) (before ++ [⟨f.part.name, region⟩])
    refine ⟨_, _, ⟨f.part.name, region⟩ :: path, key, hread, ?_, ?_, hkey⟩
    · rw [readPath_point, hskip, hfirst, ok_bind]
      dsimp only
      rw [hpath, List.append_assoc, List.singleton_append]
    · rw [List.map_cons, hnames]
      rfl

/-- **Keys.** A key is read with the names of its parts. -/
theorem readDotted_text (k : DottedKey) (hk : k.Bounded) {rest : List Char} (hrest : EndsKey rest) :
    ∃ path key, readDotted (k.text ++ rest) = .ok ((path, key), rest) ∧
      path.map Key.name = k.path ∧ key.name = k.key := by
  obtain ⟨first, mid, path, key, hfirst, hpath, hnames, hkey⟩ :=
    readPath_text k.last hrest k.fronts (Nat.le_of_lt_succ hk) []
  refine ⟨path, key, ?_, hnames, hkey⟩
  rw [readDotted, hfirst, ok_bind]
  exact hpath

/-- With more points than there is room for, the parts of a key are not read to their end. -/
theorem readPath_tooDeep (last : KeyPart) (rest : List Char) (fronts : List FrontPart) {room : Nat}
    (hroom : room < fronts.length) (before : List Key) :
    ∃ first mid failure, readKey (DottedKey.text ⟨fronts, last⟩ ++ rest) = .ok (first, mid) ∧
      readPath before first room mid = .error failure ∧ failure.cause = .tooDeep := by
  induction fronts generalizing room before with
  | nil => cases hroom
  | cons f fronts ih =>
    obtain ⟨region, hread, hskip⟩ := readKey_front f fronts last rest
    cases room with
    | zero =>
      exact ⟨_, _, _, hread, readPath_noRoom f.left _ before _, rfl⟩
    | succ room =>
      obtain ⟨first, mid, failure, hfirst, hpath, hcause⟩ :=
        ih (Nat.lt_of_succ_lt_succ hroom) (before ++ [⟨f.part.name, region⟩])
      refine ⟨_, _, failure, hread, ?_, hcause⟩
      rw [readPath_point, hskip, hfirst, ok_bind]
      exact hpath

/-- No key may have more parts than the grammar grants it, whatever follows it. -/
theorem readDotted_tooDeep {k : DottedKey} (hk : ¬ k.Bounded) (rest : List Char) :
    ∃ failure, readDotted (k.text ++ rest) = .error failure ∧ failure.cause = .tooDeep := by
  have hroom : maxParts < k.fronts.length := Nat.not_lt.mp hk
  obtain ⟨first, mid, failure, hfirst, hpath, hcause⟩ :=
    readPath_tooDeep k.last rest k.fronts hroom []
  refine ⟨failure, ?_, hcause⟩
  rw [readDotted, hfirst, ok_bind]
  exact hpath

end SyntaxOutline.Toml
