import SyntaxOutline.Files
import SyntaxOutline.Proofs.Json.Outcome

/-!
# What the operations of a file store change

Making directories adds directories and nothing else (`makeDirectories_grows`). Writing sets one
file, at the location that its path leads to (`write_eq_ok`). Neither takes a directory away, so a
path that leads to a location once leads there ever after (`locate_of_keeps`).

A plain path has no `.` and `..`. Where it leads can be told from the path alone (`Files.place`).
-/

namespace SyntaxOutline.Files

variable {f g : Files} {loc target : Location} {path : String} {content : ByteArray}

/-! ## Putting something at a location -/

theorem node?_put_self {node : FileNode} (h : loc ≠ []) :
    (f.put loc node).node? loc = some node := by
  cases loc with
  | nil => exact absurd rfl h
  | cons name loc => simp [node?, put]

theorem node?_put_of_ne {node : FileNode} {other : Location} (h : other ≠ loc) :
    (f.put loc node).node? other = f.node? other := by
  cases other with
  | nil => rfl
  | cons name other =>
    have hfind : (f.nodes.filter (·.1 != loc)).find? (·.1 == name :: other) =
        f.nodes.find? (·.1 == name :: other) := by
      rw [List.find?_filter]
      congr 1
      funext x
      by_cases hx : x.1 = name :: other
      · simp [hx, h]
      · simp [hx]
    have hne : (loc == name :: other) = false := by simpa using fun he => h he.symm
    simp only [node?, put, List.find?_cons, hne, hfind]

/-! ## Following paths -/

/-- The location one part of a path further on. -/
def next (loc : Location) (part : String) : Except FileError Location :=
  if part = "" ∨ part = "." then .ok loc
  else if part = ".." then .ok loc.dropLast
  else if maxPart < part.utf8ByteSize then .error .nameTooLong
  else .ok (loc ++ [part])

theorem follow_cons_eq_ok_iff {part : String} {rest : List String} :
    f.follow loc (part :: rest) = .ok target ↔
      f.node? loc = some .directory ∧
        ∃ loc', next loc part = .ok loc' ∧ f.follow loc' rest = .ok target := by
  rw [follow, next]
  cases hnode : f.node? loc with
  | none => simp
  | some node =>
    cases node with
    | file content => simp
    | directory =>
      dsimp only
      split
      · simp
      split
      · simp
      split
      · simp
      · simp

theorem follow_append_eq_ok_iff {ps qs : List String} :
    f.follow loc (ps ++ qs) = .ok target ↔
      ∃ mid, f.follow loc ps = .ok mid ∧ f.follow mid qs = .ok target := by
  induction ps generalizing loc with
  | nil => simp [follow]
  | cons part ps ih =>
    rw [List.cons_append, follow_cons_eq_ok_iff]
    simp only [ih, follow_cons_eq_ok_iff]
    constructor
    · rintro ⟨hdir, loc', hnext, mid, hps, hqs⟩
      exact ⟨mid, ⟨hdir, loc', hnext, hps⟩, hqs⟩
    · rintro ⟨mid, ⟨hdir, loc', hnext, hps⟩, hqs⟩
      exact ⟨hdir, loc', hnext, mid, hps, hqs⟩

theorem follow_name {name : String} (hempty : name ≠ "") (hdot : name ≠ ".") (hdots : name ≠ "..")
    (h : f.follow loc [name] = .ok target) : target = loc ++ [name] := by
  obtain ⟨-, loc', hnext, hrest⟩ := follow_cons_eq_ok_iff.mp h
  cases hrest
  rw [next, if_neg (by simp [hempty, hdot]), if_neg hdots] at hnext
  split at hnext
  · cases hnext
  · exact (Except.ok.inj hnext).symm

/-- No directory of the first store is missing in the second. -/
structure KeepsDirectories (f g : Files) : Prop where
  base : g.base = f.base
  kept : ∀ loc, f.node? loc = some .directory → g.node? loc = some .directory

theorem follow_of_keeps (h : f.KeepsDirectories g) {ps : List String}
    (hfollow : f.follow loc ps = .ok target) : g.follow loc ps = .ok target := by
  induction ps generalizing loc with
  | nil => exact hfollow
  | cons part ps ih =>
    obtain ⟨hdir, loc', hnext, hrest⟩ := follow_cons_eq_ok_iff.mp hfollow
    exact follow_cons_eq_ok_iff.mpr ⟨h.kept loc hdir, loc', hnext, ih hrest⟩

theorem locate_eq_ok_iff :
    f.locate path = .ok loc ↔
      checkPath path = .ok () ∧ f.follow (f.start path) (parts path) = .ok loc := by
  rw [locate, bind_eq_ok_iff]
  constructor
  · rintro ⟨u, hcheck, hfollow⟩
    exact ⟨hcheck, hfollow⟩
  · rintro ⟨hcheck, hfollow⟩
    exact ⟨(), hcheck, hfollow⟩

theorem start_eq (h : f.KeepsDirectories g) (path : String) : g.start path = f.start path := by
  rw [start, start, h.base]

theorem locate_of_keeps (h : f.KeepsDirectories g) (hlocate : f.locate path = .ok loc) :
    g.locate path = .ok loc := by
  rw [locate_eq_ok_iff] at hlocate ⊢
  rw [start_eq h]
  exact ⟨hlocate.1, follow_of_keeps h hlocate.2⟩

theorem read_eq_ok_iff :
    f.read path = .ok content ↔
      ∃ loc, f.locate path = .ok loc ∧ f.node? loc = some (.file content) := by
  rw [read, bind_eq_ok_iff]
  refine exists_congr fun loc => and_congr_right fun _ => ?_
  cases f.node? loc with
  | none => simp
  | some node =>
    cases node with
    | file content' => simp [pure, Except.pure]
    | directory => simp

theorem readText_eq_ok_iff {text : String} :
    f.readText path = .ok text ↔
      ∃ content, f.read path = .ok content ∧ decode content = .ok text := by
  rw [readText, bind_eq_ok_iff]

theorem exists?_eq_true_iff :
    f.exists? path = true ↔ ∃ loc, f.locate path = .ok loc ∧ (f.node? loc).isSome := by
  rw [exists?]
  cases f.locate path with
  | error e => simp
  | ok loc => simp

/-! ## Stores that differ in one file -/

/-- The stores have the same at every location but one, where neither has a directory. -/
structure AgreeOff (loc : Location) (f g : Files) : Prop where
  base : g.base = f.base
  same : ∀ other, other ≠ loc → g.node? other = f.node? other
  left : f.node? loc ≠ some .directory
  right : g.node? loc ≠ some .directory

namespace AgreeOff

theorem symm (h : AgreeOff loc f g) : AgreeOff loc g f :=
  ⟨h.base.symm, fun other hother => (h.same other hother).symm, h.right, h.left⟩

theorem keepsDirectories (h : AgreeOff loc f g) : f.KeepsDirectories g := by
  refine ⟨h.base, fun other hother => ?_⟩
  have hne : other ≠ loc := by
    rintro rfl
    exact h.left hother
  rwa [h.same other hne]

theorem locate_eq_ok_iff (h : AgreeOff loc f g) :
    g.locate path = .ok target ↔ f.locate path = .ok target :=
  ⟨locate_of_keeps h.symm.keepsDirectories, locate_of_keeps h.keepsDirectories⟩

theorem node?_eq (h : AgreeOff loc f g) (hpath : f.locate path ≠ .ok loc)
    (htarget : f.locate path = .ok target) : g.node? target = f.node? target := by
  refine h.same target ?_
  rintro rfl
  exact hpath htarget

/-- A path that leads elsewhere leads to the same thing in both stores. -/
theorem exists?_eq (h : AgreeOff loc f g) (hpath : f.locate path ≠ .ok loc) :
    g.exists? path = f.exists? path := by
  rw [Bool.eq_iff_iff, exists?_eq_true_iff, exists?_eq_true_iff]
  refine exists_congr fun target => ?_
  rw [h.locate_eq_ok_iff]
  refine and_congr_right fun htarget => ?_
  rw [h.node?_eq hpath htarget]

theorem readText_eq_ok_iff (h : AgreeOff loc f g) (hpath : f.locate path ≠ .ok loc)
    {text : String} : g.readText path = .ok text ↔ f.readText path = .ok text := by
  rw [Files.readText_eq_ok_iff, Files.readText_eq_ok_iff]
  refine exists_congr fun content => and_congr_left fun _ => ?_
  rw [read_eq_ok_iff, read_eq_ok_iff]
  refine exists_congr fun target => ?_
  rw [h.locate_eq_ok_iff]
  refine and_congr_right fun htarget => ?_
  rw [h.node?_eq hpath htarget]

end AgreeOff

/-! ## Making directories -/

/-- The second store has all that the first has, and beyond it only directories. -/
structure Grows (f g : Files) : Prop where
  base : g.base = f.base
  kept : ∀ loc node, f.node? loc = some node → g.node? loc = some node
  made : ∀ loc content, g.node? loc = some (.file content) → f.node? loc = some (.file content)

theorem Grows.refl (f : Files) : f.Grows f := ⟨rfl, fun _ _ h => h, fun _ _ h => h⟩

theorem Grows.trans {f' : Files} (h : f.Grows g) (h' : g.Grows f') : f.Grows f' where
  base := h'.base.trans h.base
  kept loc node hnode := h'.kept loc node (h.kept loc node hnode)
  made loc content hfile := h.made loc content (h'.made loc content hfile)

theorem Grows.keepsDirectories (h : f.Grows g) : f.KeepsDirectories g :=
  ⟨h.base, fun loc => h.kept loc .directory⟩

/-- Files that could be read are still there with their contents. -/
theorem Grows.read_eq_ok (h : f.Grows g) (hread : f.read path = .ok content) :
    g.read path = .ok content := by
  rw [read_eq_ok_iff] at hread ⊢
  obtain ⟨loc, hlocate, hfile⟩ := hread
  exact ⟨loc, locate_of_keeps h.keepsDirectories hlocate, h.kept _ _ hfile⟩

theorem grows_put_directory (h : f.node? loc = none) : f.Grows (f.put loc .directory) := by
  refine ⟨rfl, ?_, ?_⟩
  · intro other node hnode
    have hne : other ≠ loc := by
      rintro rfl
      rw [h] at hnode
      cases hnode
    rwa [node?_put_of_ne hne]
  · intro other content hfile
    by_cases hother : other = loc
    · subst hother
      have hne : other ≠ [] := by
        rintro rfl
        cases h
      rw [node?_put_self hne] at hfile
      cases hfile
    · rwa [node?_put_of_ne hother] at hfile

theorem makeParts_grows (f : Files) (absolute : Bool) (above names : List String) :
    f.Grows (f.makeParts absolute above names).1 := by
  induction names generalizing f above with
  | nil => exact .refl f
  | cons name names ih =>
    rw [makeParts]
    cases f.locate (joinParts absolute (above ++ [name])) with
    | error e => exact .refl f
    | ok loc =>
      dsimp only
      cases hnode : f.node? loc with
      | none => exact (grows_put_directory hnode).trans (ih _ _)
      | some node =>
        cases node with
        | file content => exact .refl f
        | directory => exact ih f _

/-- Making directories adds directories and nothing else, also if it fails. -/
theorem makeDirectories_grows (f : Files) (path : String) : f.Grows (f.makeDirectories path).1 := by
  rw [makeDirectories]
  split
  · exact .refl f
  · cases checkPath path with
    | error e => exact .refl f
    | ok u => exact makeParts_grows f _ _ _

/-! ## Writing -/

/-- The last part of a path is empty only if the path is, or ends in a slash. -/
theorem getLast?_splitOn {cs : List Char} (h : cs ≠ []) (hlast : cs.getLast? ≠ some '/') :
    (cs.splitOn '/').getLast? ≠ some [] := by
  induction cs with
  | nil => exact absurd rfl h
  | cons c cs ih =>
    rw [List.splitOn_cons_eq_if_modifyHead]
    cases cs with
    | nil =>
      have hc : (c == '/') = false := by simpa using hlast
      simp [hc]
    | cons d cs =>
      have hrest := ih (List.cons_ne_nil d cs) (by rwa [List.getLast?_cons_cons] at hlast)
      obtain ⟨w, ws, hw⟩ := List.exists_cons_of_ne_nil (List.splitOn_ne_nil '/' (d :: cs))
      rw [hw] at hrest ⊢
      split
      · rwa [List.getLast?_cons_cons]
      · cases ws with
        | nil => simp
        | cons w' ws =>
          rw [List.modifyHead_cons, List.getLast?_cons_cons]
          rwa [List.getLast?_cons_cons] at hrest

theorem parts_eq_reverse (h : path ≠ "") (hslash : path.endsWith '/' = false) :
    parts path = (reversedParts path).reverse := by
  have hlast : (parts path).reverse.head? ≠ some "" := by
    rw [List.head?_reverse, parts, List.getLast?_map]
    intro he
    obtain ⟨w, hw, hempty⟩ := Option.map_eq_some_iff.mp he
    have hnil : w = [] := by simpa using hempty
    refine getLast?_splitOn ?_ ?_ (hnil ▸ hw)
    · simpa using h
    · rw [String.endsWith_char_eq_getLast?] at hslash
      simpa using hslash
  rw [reversedParts]
  cases hparts : (parts path).reverse with
  | nil => rw [List.dropWhile_nil, ← hparts, List.reverse_reverse]
  | cons name names =>
    have hname : (name == "") = false := by
      rw [hparts] at hlast
      simpa using hlast
    rw [List.dropWhile_cons_of_neg (by simp [hname]), ← hparts, List.reverse_reverse]

theorem ne_empty_of_reversedParts {name : String} {names : List String}
    (h : reversedParts path = name :: names) : name ≠ "" := by
  have hhead := List.head?_dropWhile_not (· == "") (parts path).reverse
  rw [reversedParts] at h
  simpa [h] using hhead

/-- Writing succeeds only at the location that the path leads to, where no directory may be. -/
theorem write_eq_ok (h : f.write path content = .ok g) :
    ∃ loc, f.locate path = .ok loc ∧ loc ≠ [] ∧ f.node? loc ≠ some .directory ∧
      g = f.put loc (.file content) := by
  rw [write] at h
  obtain ⟨u, hcheck, h⟩ := bind_eq_ok_iff.mp h
  obtain ⟨dir, hdir, h⟩ := bind_eq_ok_iff.mp h
  have hnonempty : path ≠ "" := by
    rintro rfl
    cases hcheck
  cases hnode : f.node? dir with
  | none => simp [hnode] at h
  | some node =>
    cases node with
    | file other => simp [hnode] at h
    | directory =>
      cases hreversed : reversedParts path with
      | nil => simp [hnode, hreversed] at h
      | cons name names =>
        simp only [hnode, hreversed] at h
        split at h
        · cases h
        · rename_i hlast
          simp only [not_or, Bool.not_eq_true] at hlast
          obtain ⟨hslash, hdot, hdots⟩ := hlast
          obtain ⟨loc, hname, h⟩ := bind_eq_ok_iff.mp h
          have hlocate : f.locate path = .ok loc := by
            rw [locate_eq_ok_iff, parts_eq_reverse hnonempty hslash, hreversed, List.reverse_cons]
            rw [hreversed] at hdir
            exact ⟨hcheck, follow_append_eq_ok_iff.mpr ⟨dir, hdir, hname⟩⟩
          obtain rfl := follow_name (ne_empty_of_reversedParts hreversed) hdot hdots hname
          refine ⟨dir ++ [name], hlocate, by simp, ?_, ?_⟩
          · intro hdirectory
            simp [hdirectory] at h
          · split at h
            · cases h
            · exact (Except.ok.inj h).symm

theorem keeps_put_file (h : f.node? loc ≠ some .directory) :
    f.KeepsDirectories (f.put loc (.file content)) := by
  refine ⟨rfl, fun other hother => ?_⟩
  have hne : other ≠ loc := by
    rintro rfl
    exact h hother
  rwa [node?_put_of_ne hne]

/-! ## Plain paths -/

/-- A path without `.` and `..`. -/
def IsPlain (path : String) : Prop := ∀ part ∈ parts path, part ≠ "." ∧ part ≠ ".."

instance (path : String) : Decidable (IsPlain path) :=
  inferInstanceAs (Decidable (∀ part ∈ parts path, part ≠ "." ∧ part ≠ ".."))

/-- The location that a plain path names, if relative ones start from `base`. -/
def place (base : Location) (path : String) : Location :=
  (if isAbsolute path then [] else base) ++ (parts path).filter (· ≠ "")

theorem follow_plain {ps : List String} (hplain : ∀ part ∈ ps, part ≠ "." ∧ part ≠ "..")
    (h : f.follow loc ps = .ok target) : target = loc ++ ps.filter (· ≠ "") := by
  induction ps generalizing loc with
  | nil =>
    cases h
    simp
  | cons part ps ih =>
    have hps : ∀ part ∈ ps, part ≠ "." ∧ part ≠ ".." :=
      fun part hpart => hplain part (List.mem_cons_of_mem _ hpart)
    obtain ⟨hdot, hdots⟩ := hplain part List.mem_cons_self
    rw [← List.singleton_append, follow_append_eq_ok_iff] at h
    obtain ⟨mid, hpart, hrest⟩ := h
    rw [ih hps hrest]
    by_cases hempty : part = ""
    · subst hempty
      obtain ⟨-, loc', hnext, hmid⟩ := follow_cons_eq_ok_iff.mp hpart
      cases hnext
      cases hmid
      rw [List.filter_cons_of_neg (by simp)]
    · rw [follow_name hempty hdot hdots hpart, List.filter_cons_of_pos (by simpa using hempty),
        List.append_assoc, List.singleton_append]

/-- A plain path leads to the location that it names. -/
theorem locate_plain (hplain : IsPlain path) (h : f.locate path = .ok loc) :
    loc = place f.base path :=
  follow_plain hplain (locate_eq_ok_iff.mp h).2

end SyntaxOutline.Files
