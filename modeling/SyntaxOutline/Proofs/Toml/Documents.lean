import SyntaxOutline.Proofs.Toml.Values

/-!
# Reading documents

Every statement that fits is carried out by the reader (`Statement.exists_readLines`), and so are
all rows of a document one after the other (`exists_readLines_rows`). A document that is consistent
and keeps to the limits is read (`Document.exists_ofText?`).
-/

namespace SyntaxOutline.Toml

/-! ## Headers -/

section

variable (left right : Spaces) {key : DottedKey} (hkey : key.Bounded) (rest : List Char)

theorem skipSpaces_key (key : DottedKey) :
    skipSpaces (left.chars ++ (key.text ++ rest)) = key.text ++ rest := by
  obtain ⟨c, cs, htext, hc⟩ := key.exists_text
  rw [skipSpaces_append, htext, List.cons_append, skipSpaces_cons (isSolid_of_not_mem hc).isSpace]

theorem skipSpaces_close : skipSpaces (right.chars ++ ']' :: rest) = ']' :: rest := by
  rw [skipSpaces_append, skipSpaces_cons rfl]

include hkey

theorem exists_readHeader_table :
    ∃ header, readHeader ((Statement.table left key right).text ++ rest) = .ok (header, rest) ∧
      header.isItem = false ∧ header.path.map Key.name = key.path ∧
      header.key.name = key.key := by
  have hends := endsKey_spaces right (c := ']') (.inr rfl) rest
  obtain ⟨path, last, hread, hpath, hlast⟩ := readDotted_text key hkey hends
  have hskip := skipSpaces_key left (right.chars ++ ']' :: rest) key
  have htext : (Statement.table left key right).text ++ rest =
      '[' :: (left.chars ++ (key.text ++ (right.chars ++ ']' :: rest))) := by
    simp [Statement.text]
  refine ⟨⟨path, last, false, .upTo ((Statement.table left key right).text ++ rest) rest⟩, ?_, rfl,
    hpath, hlast⟩
  rw [htext]
  unfold readHeader
  split
  · rename_i cs he
    -- two brackets stand side by side only in the header of a list
    have hopen := (List.cons.inj he).2
    rw [hopen, skipSpaces_cons rfl] at hskip
    obtain ⟨c, more, hhead, hc⟩ := key.exists_text
    rw [hhead, List.cons_append] at hskip
    rw [← (List.cons.inj hskip).1] at hc
    exact absurd (by decide) hc
  · rw [List.drop_one, List.tail_cons, hskip, hread, ok_bind]
    dsimp only
    rw [skipSpaces_close]
    rfl

theorem exists_readHeader_item :
    ∃ header, readHeader ((Statement.item left key right).text ++ rest) = .ok (header, rest) ∧
      header.isItem = true ∧ header.path.map Key.name = key.path ∧
      header.key.name = key.key := by
  have hends := endsKey_spaces right (c := ']') (.inr rfl) (']' :: rest)
  obtain ⟨path, last, hread, hpath, hlast⟩ := readDotted_text key hkey hends
  have htext : (Statement.item left key right).text ++ rest =
      '[' :: '[' :: (left.chars ++ (key.text ++ (right.chars ++ ']' :: ']' :: rest))) := by
    simp [Statement.text]
  refine ⟨⟨path, last, true, .upTo ((Statement.item left key right).text ++ rest) rest⟩, ?_, rfl,
    hpath, hlast⟩
  rw [htext, readHeader, skipSpaces_key, hread, ok_bind]
  dsimp only
  rw [skipSpaces_close]
  rfl

end

/-! ## Lines -/

section

variable {cs rest stop line : List Char} {table : List Key} {entries next : Entries}

theorem readLines_nil (fuel : Nat) : readLines fuel table entries [] = .ok entries := by
  cases fuel with
  | zero => rfl
  | succ fuel => rfl

theorem readLines_header {header : Header} (hgap : skipGap cs = .ok ('[' :: line))
    (hheader : readHeader ('[' :: line) = .ok (header, rest))
    (hnext : entries.within ((if header.isItem then Entries.openItem else Entries.openTable)
      header.key header.region) header.path = .ok next)
    (hstop : readLineEnd rest = .ok stop) (fuel : Nat) :
    readLines (fuel + 1) table entries cs =
      readLines fuel (header.path ++ [header.key]) next stop := by
  rw [readLines, hgap]
  change (readHeader ('[' :: line) >>= _) = _
  rw [hheader, ok_bind]
  dsimp only
  rw [hnext]
  change (readLineEnd rest >>= _) = _
  rw [hstop, ok_bind]

theorem readLines_value {c : Char} (hc : c ∉ marks) {path : List Key} {key : Key}
    {value : Located Value} {mid behind : List Char} (hgap : skipGap cs = .ok (c :: line))
    (hkey : readDotted (c :: line) = .ok ((path, key), mid))
    (hequals : skipSpaces mid = '=' :: behind)
    (hvalue : readValue maxRoom (skipSpaces behind) = .ok (value, rest))
    (hnext : entries.within (Entries.insert path key value) table = .ok next)
    (hstop : readLineEnd rest = .ok stop) (fuel : Nat) :
    readLines (fuel + 1) table entries cs = readLines fuel table next stop := by
  rw [readLines, hgap, ok_bind]
  split
  · contradiction
  · rename_i he
    rw [(List.cons.inj he).1] at hc
    exact absurd (by decide) hc
  · rw [hkey, ok_bind]
    dsimp only
    rw [hequals]
    change (readValue maxRoom (skipSpaces behind) >>= _) = _
    rw [hvalue, ok_bind]
    dsimp only
    rw [hnext]
    change (readLineEnd rest >>= _) = _
    rw [hstop, ok_bind]

end

/-! ## Statements -/

section

variable {rest stop : List Char} {p : Progress Tree} {entries : Entries} {table : List Key}

/-- A statement that is read as a header is carried out, if the table it opens can be opened. -/
theorem Statement.exists_readLines_header {s : Statement} {header : Header} {line : List Char}
    (hline : s.text ++ rest = '[' :: line)
    (hheader : readHeader (s.text ++ rest) = .ok (header, rest))
    (hopen : ∃ next, entries.within ((if header.isItem then Entries.openItem else
      Entries.openTable) header.key header.region) header.path = .ok next ∧
        (s.command.next p).Holds Tree.StandsInside next)
    (htable : header.path.map Key.name ++ [header.key.name] = (s.command.next p).table) (gap : Gap)
    (hstop : readLineEnd rest = .ok stop) (fuel : Nat) :
    ∃ table' next, readLines (fuel + 1) table entries (gap.text ++ (s.text ++ rest)) =
        readLines fuel table' next stop ∧
      table'.map Key.name = (s.command.next p).table ∧
      (s.command.next p).Holds Tree.StandsInside next := by
  obtain ⟨next, hnext, hholds⟩ := hopen
  have hgap := skipGap_append gap (c := '[') (by decide) line
  rw [hline] at hheader ⊢
  refine ⟨header.path ++ [header.key], next, readLines_header hgap hheader hnext hstop fuel, ?_,
    hholds⟩
  rw [← htable, List.map_append]
  rfl

/-- **One statement.** A statement that fits is carried out. -/
theorem Statement.exists_readLines {s : Statement} (hbounded : s.Bounded)
    (hconsistent : s.Consistent) (h : p.Holds Tree.StandsInside entries) (hfits : s.command.Fits p)
    (htable : table.map Key.name = p.table) (gap : Gap) (hrest : Ends rest)
    (hstop : readLineEnd rest = .ok stop) (fuel : Nat) :
    ∃ table' next, readLines (fuel + 1) table entries (gap.text ++ (s.text ++ rest)) =
        readLines fuel table' next stop ∧
      table'.map Key.name = (s.command.next p).table ∧
      (s.command.next p).Holds Tree.StandsInside next := by
  cases s with
  | table left key right =>
    obtain ⟨header, hheader, hitem, hpath, hkey⟩ :=
      exists_readHeader_table left right hbounded rest
    refine exists_readLines_header rfl hheader ?_ ?_ gap hstop fuel
    · rw [hitem]
      rw [Statement.command, ← hpath, ← hkey] at hfits ⊢
      exact h.table hfits header.region
    · rw [hpath, hkey]
      rfl
  | item left key right =>
    obtain ⟨header, hheader, hitem, hpath, hkey⟩ :=
      exists_readHeader_item left right hbounded rest
    refine exists_readLines_header rfl hheader ?_ ?_ gap hstop fuel
    · rw [hitem]
      rw [Statement.command, ← hpath, ← hkey] at hfits ⊢
      exact h.item hfits header.region
    · rw [hpath, hkey]
      rfl
  | value key left right tree =>
    have hends := endsKey_spaces left (c := '=') (.inl rfl) (right.chars ++ (tree.text ++ rest))
    obtain ⟨path, last, hread, hpath, hlast⟩ := readDotted_text key hbounded.1 hends
    obtain ⟨found, hfound, hstands⟩ := tree.exists_readValue hbounded.2 hconsistent hrest
    obtain ⟨c, cs, hhead, hc⟩ := key.exists_text
    have htext : (Statement.value key left right tree).text ++ rest =
        c :: (cs ++ (left.chars ++ '=' :: (right.chars ++ (tree.text ++ rest)))) := by
      simp [Statement.text, keyText, hhead]
    have hgap := skipGap_append gap (isSolid_of_not_mem hc)
      (cs ++ (left.chars ++ '=' :: (right.chars ++ (tree.text ++ rest))))
    have hequals : skipSpaces (left.chars ++ '=' :: (right.chars ++ (tree.text ++ rest))) =
        '=' :: (right.chars ++ (tree.text ++ rest)) := by
      rw [skipSpaces_append, skipSpaces_cons rfl]
    have hvalue : skipSpaces (right.chars ++ (tree.text ++ rest)) = tree.text ++ rest := by
      obtain ⟨d, more, htree, hd, -⟩ := tree.exists_text
      rw [skipSpaces_append, htree, List.cons_append, skipSpaces_cons hd.isSpace]
    rw [hhead, List.cons_append] at hread
    rw [Statement.command, ← hpath, ← hlast] at hfits ⊢
    obtain ⟨next, hnext, hholds⟩ := h.value hfits hstands hstands.inner hstands.inRange htable
    refine ⟨table, next, ?_, htable, hholds⟩
    rw [htext]
    refine readLines_value hc hgap hread hequals ?_ hnext hstop fuel
    rw [hvalue]
    exact hfound

/-- **All rows.** The rows of a document are carried out one after the other. -/
theorem exists_readLines_rows (rows : List Row)
    (hbounded : ∀ r ∈ rows, r.statement.Bounded) (hconsistent : ∀ r ∈ rows, r.statement.Consistent)
    (h : p.Holds Tree.StandsInside entries) (htable : table.map Key.name = p.table)
    (hfits : Command.AllFit p (rows.map fun r => r.statement.command)) (rest : List Char)
    (fuel : Nat) :
    ∃ table' next, readLines (rows.length + fuel) table entries (rows.flatMap Row.text ++ rest) =
        readLines fuel table' next rest ∧
      table'.map Key.name = (Command.all p (rows.map fun r => r.statement.command)).table ∧
      (Command.all p (rows.map fun r => r.statement.command)).Holds Tree.StandsInside next := by
  induction rows generalizing p entries table with
  | nil =>
    refine ⟨table, entries, ?_, htable, h⟩
    rw [List.length_nil, Nat.zero_add, List.flatMap_nil, List.nil_append]
  | cons r rows ih =>
    obtain ⟨hhead, htail⟩ := List.forall_mem_cons.mp hbounded
    obtain ⟨hhead', htail'⟩ := List.forall_mem_cons.mp hconsistent
    have hrest : Ends (r.tail.text ++ (r.stop.text ++ (rows.flatMap Row.text ++ rest))) :=
      (ends_lineEnd r.stop _).tail r.tail
    obtain ⟨table', next, hread, htable', hnext⟩ := r.statement.exists_readLines hhead hhead' h
      hfits.1 htable r.gap hrest (readLineEnd_append r.tail r.stop _) (rows.length + fuel)
    obtain ⟨table'', last, hread', htable'', hlast⟩ := ih htail htail' hnext htable' hfits.2
    refine ⟨table'', last, ?_, htable'', hlast⟩
    have htext : (r :: rows).flatMap Row.text ++ rest = r.gap.text ++ (r.statement.text ++
        (r.tail.text ++ (r.stop.text ++ (rows.flatMap Row.text ++ rest)))) := by
      simp [Row.text]
    rw [htext, List.length_cons, Nat.add_right_comm, hread, hread']

end

/-! ## Documents -/

theorem Statement.text_ne_nil (s : Statement) : s.text ≠ [] := by
  cases s with
  | table left key right => exact List.cons_ne_nil _ _
  | item left key right => exact List.cons_ne_nil _ _
  | value key left right tree =>
    obtain ⟨c, cs, htext, -⟩ := key.exists_text
    rw [Statement.text, keyText, htext]
    exact List.cons_ne_nil _ _

/-- A byte order mark is no part of a line. -/
theorem readLines_mark (fuel : Nat) (table : List Key) (entries : Entries) (cs : List Char) :
    readLines (fuel + 1) table entries ('\ufeff' :: cs) = fail .expectedKey ('\ufeff' :: cs) := by
  have hgap : skipGap ('\ufeff' :: cs) = .ok ('\ufeff' :: cs) :=
    skipGap_append {} (c := '\ufeff') (by decide) cs
  rw [readLines, hgap]
  rfl

theorem ofText?_of_body {text : String} {d : Document} {entries : Entries}
    (htext : text.toList = d.text)
    (h : readLines (d.body.length + 1) [] [] d.body = .ok entries) :
    ofText? text = .ok entries := by
  rw [ofText?, htext, Document.text]
  cases d.mark with
  | true => exact h
  | false =>
    rw [if_neg Bool.false_ne_true]
    split
    · rename_i he
      rw [he, readLines_mark] at h
      cases h
    · exact h

theorem Command.allFit_append {α : Type} {p : Progress α} {before after : List (Command α)} :
    AllFit p (before ++ after) ↔ AllFit p before ∧ AllFit (all p before) after := by
  induction before generalizing p with
  | nil => simp [AllFit, all]
  | cons command before ih =>
    rw [List.cons_append, AllFit, AllFit, ih, and_assoc]
    rfl

namespace Document

variable {d : Document}

theorem commands_eq (d : Document) :
    d.commands = (d.rows.map fun r => r.statement.command) ++
      d.last.toList.map Statement.command := by
  rw [commands, statements, List.map_append, List.map_map]
  rfl

/-- What holds of all rows holds of all statements, if the document ends with a row. -/
theorem forall_statements (hlast : d.last = none) {P : Statement → Prop}
    (h : ∀ r ∈ d.rows, P r.statement) : ∀ s ∈ d.statements, P s := by
  intro s hs
  rw [statements, hlast, Option.toList_none, List.append_nil] at hs
  obtain ⟨r, hr, rfl⟩ := List.mem_map.mp hs
  exact h r hr

theorem length_rows_le (d : Document) : d.rows.length ≤ d.body.length := by
  have hrows : d.rows.length ≤ (d.rows.flatMap Row.text).length := by
    refine length_le_flatMap (fun r => ?_) d.rows
    simp [Row.text, r.statement.text_ne_nil]
  rw [body, List.length_append]
  omega

/-- **Documents.** A document that is consistent and keeps to the limits is read, and what it gives
to its keys is what they have. -/
theorem exists_ofText? {text : String} (htext : text.toList = d.text)
    (hconsistent : d.Consistent) (hbounded : d.Bounded) :
    ∃ entries, ofText? text = .ok entries ∧
      (Command.all {} d.commands).Holds Tree.StandsInside entries := by
  obtain ⟨hfits, hvalues⟩ := hconsistent
  have hmem : ∀ r ∈ d.rows, r.statement ∈ d.statements := fun r hr =>
    List.mem_append_left _ (List.mem_map_of_mem hr)
  rw [commands_eq, Command.allFit_append] at hfits
  obtain ⟨fuel, hfuel⟩ := Nat.exists_eq_add_of_le d.length_rows_le
  have hroot : List.map Key.name [] = ({} : Progress Tree).table := rfl
  obtain ⟨table, entries, hread, htable, hholds⟩ := exists_readLines_rows d.rows
    (fun r hr => hbounded _ (hmem r hr)) (fun r hr => hvalues _ (hmem r hr))
    Progress.Holds.start hroot hfits.1
    (d.gap.text ++ (d.last.elim [] Statement.text ++ d.tail.text)) (fuel + 1)
  have hbody : readLines (d.body.length + 1) [] [] d.body = readLines (fuel + 1) table entries
      (d.gap.text ++ (d.last.elim [] Statement.text ++ d.tail.text)) := by
    rw [hfuel]
    exact hread
  rw [commands_eq, Command.all, List.foldl_append]
  cases hlast : d.last with
  | none =>
    refine ⟨entries, ofText?_of_body htext ?_, hholds⟩
    have hgap := skipGap_append_of_stop d.gap (skipComment_last d.tail) rfl
    rw [hbody, hlast, Option.elim_none, List.nil_append, readLines, hgap]
    rfl
  | some s =>
    have hs : s ∈ d.statements := by simp [statements, hlast]
    rw [hlast] at hfits
    have hrest : Ends d.tail.text := by
      have hends := ends_nil.tail d.tail
      rwa [List.append_nil] at hends
    obtain ⟨table', last, hread', -, hholds'⟩ := s.exists_readLines (hbounded s hs) (hvalues s hs)
      hholds hfits.2.1 htable d.gap hrest (readLineEnd_last d.tail) fuel
    refine ⟨last, ofText?_of_body htext ?_, hholds'⟩
    rw [hbody, hlast, Option.elim_some, hread', readLines_nil]

end Document

end SyntaxOutline.Toml
