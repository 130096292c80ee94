import SyntaxOutline.Proofs.Files.Store
import SyntaxOutline.Proofs.Settings.RoundTrip
import SyntaxOutline.Settings.Store

/-!
# Settings that are saved again and again

A save that succeeds sets one file and makes directories (`Settings.save_eq_ok`); one that fails
makes directories at most (`Settings.save_grows_of_error`). So after any number of saves, each file
holds the settings of the last save to it that succeeded, and these are loaded from there
(`Settings.load_saveAll`).
-/

namespace SyntaxOutline.Settings

variable {files files' : Files} {path : String} {s : Settings}

/-! ## One save -/

/-- Directories are made first; then the save fails, or it is the write that ends it. -/
theorem save_cases (files : Files) (path : String) (s : Settings) :
    ∃ mid, files.Grows mid ∧ ((∃ error, save files path s = (mid, .error error)) ∨
      ∃ files', mid.write path s.toToml.toUTF8 = .ok files' ∧
        save files path s = (files', .ok ())) := by
  have hwrite : ∀ mid : Files, files.Grows mid →
      (∀ error, mid.write path s.toToml.toUTF8 = .error error →
        save files path s = (mid, .error error)) →
      (∀ files', mid.write path s.toToml.toUTF8 = .ok files' →
        save files path s = (files', .ok ())) →
      ∃ mid, files.Grows mid ∧ ((∃ error, save files path s = (mid, .error error)) ∨
        ∃ files', mid.write path s.toToml.toUTF8 = .ok files' ∧
          save files path s = (files', .ok ())) := by
    intro mid hgrows herror hok
    cases hwritten : mid.write path s.toToml.toUTF8 with
    | error error => exact ⟨mid, hgrows, .inl ⟨error, herror error hwritten⟩⟩
    | ok files' => exact ⟨mid, hgrows, .inr ⟨files', hwritten, hok files' hwritten⟩⟩
  cases hparent : Files.parent? path with
  | none =>
    refine hwrite files (.refl files) (fun error hwritten => ?_) fun files' hwritten => ?_
    · simp only [save, hparent, hwritten]
    · simp only [save, hparent, hwritten]
  | some dir =>
    have hgrows := Files.makeDirectories_grows files dir
    cases hmade : files.makeDirectories dir with
    | mk mid made =>
      rw [hmade] at hgrows
      cases made with
      | error error => exact ⟨mid, hgrows, .inl ⟨error, by simp only [save, hparent, hmade]⟩⟩
      | ok u =>
        refine hwrite mid hgrows (fun error hwritten => ?_) fun files' hwritten => ?_
        · simp only [save, hparent, hmade, hwritten]
        · simp only [save, hparent, hmade, hwritten]

/-- A save that succeeds sets the content of the file that its path leads to. Only directories are
made besides. -/
theorem save_eq_ok (h : save files path s = (files', .ok ())) :
    ∃ mid loc, files.Grows mid ∧ mid.locate path = .ok loc ∧ loc ≠ [] ∧
      mid.node? loc ≠ some .directory ∧ files' = mid.put loc (.file s.toToml.toUTF8) := by
  obtain ⟨mid, hgrows, ⟨error, hsave⟩ | ⟨next, hwrite, hsave⟩⟩ := save_cases files path s
  · rw [hsave] at h
    cases h
  · rw [hsave] at h
    cases h
    obtain ⟨loc, hlocate, htop, hdirectory, rfl⟩ := Files.write_eq_ok hwrite
    exact ⟨mid, loc, hgrows, hlocate, htop, hdirectory, rfl⟩

/-- A save that fails makes directories at most. -/
theorem save_grows_of_error {error : FileError} (h : (save files path s).2 = .error error) :
    files.Grows (save files path s).1 := by
  obtain ⟨mid, hgrows, ⟨error, hsave⟩ | ⟨next, hwrite, hsave⟩⟩ := save_cases files path s
  · rwa [hsave]
  · rw [hsave] at h
    cases h

theorem decode_toUTF8 (text : String) : Files.decode text.toUTF8 = .ok text := by
  have hvalid : text.toUTF8.IsValidUTF8 := text.isValidUTF8
  rw [Files.decode, String.fromUTF8?, dif_pos hvalid]
  rfl

/-- Settings are loaded from a file just if its text holds them. -/
theorem load_eq_ok_iff {text : String} (hread : files.read path = .ok text.toUTF8) :
    (load files path).result = .ok (some s) ↔ ofToml? text = .ok s := by
  obtain ⟨loc, hlocate, hfile⟩ := Files.read_eq_ok_iff.mp hread
  have hexists : files.exists? path = true := by
    rw [Files.exists?, hlocate]
    dsimp only
    rw [hfile]
    rfl
  have htext : files.readText path = .ok text := by
    rw [Files.readText, hread, ok_bind, decode_toUTF8]
  rw [load, if_pos hexists, htext]
  dsimp only
  cases ofToml? text with
  | error failure => simp
  | ok settings => simp

/-- Settings are loaded from the file that holds their text. -/
theorem load_of_file {loc : Location} (hlocate : files.locate path = .ok loc)
    (hfile : files.node? loc = some (.file s.toToml.toUTF8)) :
    (load files path).result = .ok (some s) :=
  (load_eq_ok_iff (Files.read_eq_ok_iff.mpr ⟨loc, hlocate, hfile⟩)).mpr (ofToml?_toToml s)

/-- A save leaves the files that other paths lead to as they are. -/
theorem read_of_save (h : save files path s = (files', .ok ())) {other : String}
    {content : ByteArray} (hread : files.read other = .ok content)
    (hne : files'.locate other ≠ files'.locate path) : files'.read other = .ok content := by
  obtain ⟨mid, loc, hgrows, hlocate, -, hdirectory, rfl⟩ := save_eq_ok h
  have hkeeps : mid.KeepsDirectories (mid.put loc (.file s.toToml.toUTF8)) :=
    Files.keeps_put_file hdirectory
  obtain ⟨target, htarget, hfile⟩ := Files.read_eq_ok_iff.mp (hgrows.read_eq_ok hread)
  have hpath := Files.locate_of_keeps hkeeps hlocate
  have hother := Files.locate_of_keeps hkeeps htarget
  have hloc : target ≠ loc := by
    rintro rfl
    exact hne (hother.trans hpath.symm)
  refine Files.read_eq_ok_iff.mpr ⟨target, hother, ?_⟩
  rwa [Files.node?_put_of_ne hloc]

/-! ## Saves one after the other -/

/-- Settings that are to be saved, and where. -/
structure Save where
  path : String
  settings : Settings
deriving DecidableEq

/-- A store, and the saves to it that succeeded. -/
structure History where
  files : Files
  done : List Save

/-- One more save. -/
def History.add (h : History) (entry : Save) : History :=
  match save h.files entry.path entry.settings with
  | (files, .ok ()) => ⟨files, h.done ++ [entry]⟩
  | (files, .error _) => ⟨files, h.done⟩

/-- Many saves, one after the other. -/
def saveAll (files : Files) (entries : List Save) : History := entries.foldl History.add ⟨files, []⟩

/-- The settings of the last save to the place that a path names. -/
def lastTo (base : Location) (done : List Save) (path : String) : Option Settings :=
  (done.filter fun entry => Files.place base entry.path = Files.place base path).getLast?.map
    Save.settings

section

variable {base : Location} {done : List Save} {entry : Save}

theorem lastTo_append_self (h : Files.place base entry.path = Files.place base path) :
    lastTo base (done ++ [entry]) path = some entry.settings := by
  simp [lastTo, h]

theorem lastTo_append_of_ne (h : Files.place base entry.path ≠ Files.place base path) :
    lastTo base (done ++ [entry]) path = lastTo base done path := by
  simp [lastTo, h]

end

/-- Every path that was saved to leads to its place, and the file there holds the last settings that
were saved to it. -/
structure History.Sound (base : Location) (h : History) : Prop where
  base_eq : h.files.base = base
  located : ∀ entry ∈ h.done, h.files.locate entry.path = .ok (Files.place base entry.path)
  holds : ∀ entry ∈ h.done, ∃ s, lastTo base h.done entry.path = some s ∧
    h.files.node? (Files.place base entry.path) = some (.file s.toToml.toUTF8)

theorem History.Sound.of_grows {base : Location} {h : History} (hsound : h.Sound base)
    (hgrows : h.files.Grows files) : History.Sound base ⟨files, h.done⟩ where
  base_eq := hgrows.base.trans hsound.base_eq
  located entry hentry :=
    Files.locate_of_keeps hgrows.keepsDirectories (hsound.located entry hentry)
  holds entry hentry := by
    obtain ⟨s, hlast, hfile⟩ := hsound.holds entry hentry
    exact ⟨s, hlast, hgrows.kept _ _ hfile⟩

/-- One save keeps the history sound. -/
theorem History.Sound.add {base : Location} {h : History} (hsound : h.Sound base) {entry : Save}
    (hplain : Files.IsPlain entry.path) : (h.add entry).Sound base := by
  rw [History.add]
  split
  · rename_i files hsave
    obtain ⟨mid, loc, hgrows, hlocate, htop, hdirectory, rfl⟩ := save_eq_ok hsave
    have hmid := hsound.of_grows hgrows
    have hloc : loc = Files.place base entry.path :=
      hmid.base_eq ▸ Files.locate_plain hplain hlocate
    have hkeeps : mid.KeepsDirectories (mid.put loc (.file entry.settings.toToml.toUTF8)) :=
      Files.keeps_put_file hdirectory
    refine ⟨hmid.base_eq, fun other hother => ?_, fun other hother => ?_⟩
    · rcases List.mem_append.mp hother with hother | hother
      · exact Files.locate_of_keeps hkeeps (hmid.located other hother)
      · obtain rfl := List.mem_singleton.mp hother
        exact hloc ▸ Files.locate_of_keeps hkeeps hlocate
    -- two paths can name one file, so what counts is the place and not the path
    · by_cases hplace : Files.place base entry.path = Files.place base other.path
      · refine ⟨entry.settings, lastTo_append_self hplace, ?_⟩
        rw [← hplace, ← hloc, Files.node?_put_self htop]
      · rcases List.mem_append.mp hother with hother | hother
        · obtain ⟨s, hlast, hfile⟩ := hmid.holds other hother
          refine ⟨s, (lastTo_append_of_ne hplace).trans hlast, ?_⟩
          rwa [Files.node?_put_of_ne]
          rw [hloc]
          exact Ne.symm hplace
        · obtain rfl := List.mem_singleton.mp hother
          exact absurd rfl hplace
  · rename_i files error hsave
    have hgrows := save_grows_of_error (congrArg Prod.snd hsave)
    rw [hsave] at hgrows
    exact hsound.of_grows hgrows

/-- Many saves keep the history sound. -/
theorem History.Sound.foldl {base : Location} {h : History} (hsound : h.Sound base)
    {entries : List Save} (hplain : ∀ entry ∈ entries, Files.IsPlain entry.path) :
    (entries.foldl History.add h).Sound base := by
  induction entries generalizing h with
  | nil => exact hsound
  | cons entry entries ih =>
    exact ih (hsound.add (hplain entry List.mem_cons_self))
      fun other hother => hplain other (List.mem_cons_of_mem _ hother)

theorem saveAll_sound (files : Files) {entries : List Save}
    (hplain : ∀ entry ∈ entries, Files.IsPlain entry.path) :
    (saveAll files entries).Sound files.base := by
  have hstart : History.Sound files.base ⟨files, []⟩ := by
    refine ⟨rfl, fun entry hentry => ?_, fun entry hentry => ?_⟩
    · cases hentry
    · cases hentry
  exact hstart.foldl hplain

/-- After any saves to plain paths, each path that was saved to gives the settings of the last save
there that succeeded. A save that fails leaves all files as they were. -/
theorem load_saveAll (files : Files) (entries : List Save)
    (hplain : ∀ entry ∈ entries, Files.IsPlain entry.path) :
    (∀ entry ∈ (saveAll files entries).done, ∃ s,
      lastTo files.base (saveAll files entries).done entry.path = some s ∧
        (load (saveAll files entries).files entry.path).result = .ok (some s)) ∧
    ∀ (store : Files) (path : String) (s : Settings) (error : FileError),
      (save store path s).2 = .error error →
        (∀ loc content, (save store path s).1.node? loc = some (.file content) ↔
          store.node? loc = some (.file content)) ∧
        ∀ other content, store.read other = .ok content →
          (save store path s).1.read other = .ok content := by
  refine ⟨fun entry hentry => ?_, fun store path s error herror => ?_⟩
  · have hsound := saveAll_sound files hplain
    obtain ⟨s, hlast, hfile⟩ := hsound.holds entry hentry
    exact ⟨s, hlast, load_of_file (hsound.located entry hentry) hfile⟩
  · have hgrows := save_grows_of_error herror
    refine ⟨fun loc content => ⟨hgrows.made loc content, hgrows.kept loc _⟩, ?_⟩
    exact fun other content => hgrows.read_eq_ok

/-- Two saves to one file, a save below that file and one in place of its directory. -/
def fourSaves : List Save :=
  [⟨"a/b.toml", {}⟩, ⟨"a/b.toml/c.toml", {}⟩, ⟨"a//b.toml", { grammar := .markdownInline }⟩,
    ⟨"a", { output := { pretty := true } }⟩]

theorem load_saveAll_fourSaves :
    (∀ entry ∈ fourSaves, Files.IsPlain entry.path) ∧
      (saveAll .empty fourSaves).done =
        [⟨"a/b.toml", {}⟩, ⟨"a//b.toml", { grammar := .markdownInline }⟩] ∧
      (load (saveAll .empty fourSaves).files "a/b.toml").result =
        .ok (some { grammar := .markdownInline }) := by
  have hplain : ∀ entry ∈ fourSaves, Files.IsPlain entry.path := by decide
  have hdone : (saveAll .empty fourSaves).done =
      [⟨"a/b.toml", {}⟩, ⟨"a//b.toml", { grammar := .markdownInline }⟩] := by
    decide +kernel
  obtain ⟨s, hlast, hload⟩ :=
    (load_saveAll .empty fourSaves hplain).1 ⟨"a/b.toml", {}⟩ (by simp [hdone])
  have hs : lastTo Files.empty.base (saveAll .empty fourSaves).done "a/b.toml" =
      some { grammar := .markdownInline } := by
    rw [hdone]
    rfl
  obtain rfl := Option.some.inj (hlast.symm.trans hs)
  exact ⟨hplain, hdone, hload⟩

end SyntaxOutline.Settings
