import SyntaxOutline.Command.Run
import SyntaxOutline.Proofs.Render.Paths
import SyntaxOutline.Proofs.Settings.Saves

/-!
# What a run depends on

A run goes by the settings that were loaded, with the changes of its arguments, and by the text of
its source. What it shows is a function of these two (`Command.run_shown`), wherever they came from.

* `effective_of_save` : settings that were saved are those of a run that is pointed to their file.
* `effective_of_agreeOff`, `source_of_agreeOff` : other files do not matter.
-/

namespace SyntaxOutline.Command

/-- What a run shows: its exit status and its output. -/
def Result.shown (r : Result) : Nat × String := (r.status, r.output)

/-- The settings that a run goes by, `none` if they cannot be loaded. -/
def effective (s : Surroundings) (a : Arguments) : Option Settings :=
  (loadSettings s a.config).result.toOption.map a.override

/-- The text that a run goes by, `none` if it cannot be read. -/
def source (s : Surroundings) (file : Option String) : Option String := (readSource s file).toOption

/-- What is shown for settings and a text. -/
def outcome (parser : Parser) : Option Settings → Option String → Nat × String
  | some m, some text =>
    match (renderJson parser text m.grammar m.walkOptions m.output.pretty).result with
    | .ok json => (0, json ++ "\n")
    | .error _ => (1, "")
  | _, _ => (1, "")

/-- What a run shows is a function of its settings and its source. -/
theorem run_shown (s : Surroundings) {arguments : List String} {a : Arguments}
    (hparse : Arguments.parse arguments = .ok a) :
    (run s arguments).shown = outcome s.parser (effective s a) (source s a.file) := by
  rw [run, hparse, effective, source]
  dsimp only
  rw [execute]
  cases loadSettings s a.config with
  | mk loaded log =>
    cases loaded with
    | error failure => rfl
    | ok c =>
      cases readSource s a.file with
      | error failure => rfl
      | ok text =>
        dsimp only [Except.toOption, Option.map, outcome]
        cases renderJson s.parser text (a.override c).grammar (a.override c).walkOptions
          (a.override c).output.pretty with
        | mk rendered rendering =>
          cases rendered with
          | error failure => rfl
          | ok json => rfl

/-! ## Where settings and source come from -/

theorem toOption_eq_some_iff {ε α : Type} {x : Except ε α} {a : α} :
    x.toOption = some a ↔ x = .ok a := by
  cases x with
  | error e => simp [Except.toOption]
  | ok b => simp [Except.toOption]

theorem load_toOption (files : Files) (path : String) :
    (Settings.load files path).result.toOption =
      if files.exists? path then
        (files.readText path).toOption.bind fun text =>
          (Settings.ofToml? text).toOption.map some
      else some none := by
  rw [Settings.load]
  split
  · cases files.readText path with
    | error e => rfl
    | ok text =>
      dsimp only [Except.toOption, Option.bind]
      cases Settings.ofToml? text with
      | error failure => rfl
      | ok m => rfl
  · rfl

/-- A file that is named must be there. -/
theorem effective_named {s : Surroundings} {a : Arguments} {path : String}
    (h : a.config = some path) :
    effective s a =
      if s.files.exists? path then
        (Settings.load s.files path).result.toOption.map fun m => a.override (m.getD {})
      else none := by
  rw [effective, h, loadSettings]
  dsimp only
  split
  · cases Settings.load s.files path with
    | mk loaded log =>
      cases loaded with
      | error failure => rfl
      | ok m => rfl
  · rfl

theorem source_eq (s : Surroundings) (file : Option String) :
    source s file =
      match sourceFile? file with
      | none => (Files.decode s.input).toOption
      | some path => (s.files.readText path).toOption := by
  rw [source, readSource]
  cases sourceFile? file with
  | none => cases Files.decode s.input <;> rfl
  | some path =>
    dsimp only
    cases s.files.readText path <;> rfl

/-! ## Settings that were saved -/

/-- A run that is pointed to a file goes by the settings that were saved there. -/
theorem effective_of_save {s : Surroundings} {files : Files} {path : String} {m : Settings}
    (hsave : Settings.save files path m = (s.files, .ok ())) (file : Option String) :
    effective s { config := some path, file } = some m := by
  obtain ⟨mid, loc, -, hlocate, htop, hdirectory, hfiles⟩ := Settings.save_eq_ok hsave
  have hlocated : s.files.locate path = .ok loc := by
    rw [hfiles]
    exact Files.locate_of_keeps (Files.keeps_put_file hdirectory) hlocate
  have hfile : s.files.node? loc = some (.file m.toToml.toUTF8) := by
    rw [hfiles, Files.node?_put_self htop]
  have hexists : s.files.exists? path = true :=
    Files.exists?_eq_true_iff.mpr ⟨loc, hlocated, by rw [hfile]; rfl⟩
  rw [effective_named rfl, if_pos hexists, Settings.load_of_file hlocated hfile]
  rfl

/-- Saving settings to another file leaves a source as it is. -/
theorem source_of_save {s s' : Surroundings} {path : String} {m : Settings}
    (hsave : Settings.save s.files path m = (s'.files, .ok ())) (hinput : s'.input = s.input)
    {file : Option String} (hfile : ∀ other ∈ sourceFile? file,
      (∃ text, s.files.readText other = .ok text) ∧
        s'.files.locate other ≠ s'.files.locate path) :
    source s' file = source s file := by
  rw [source_eq, source_eq, hinput]
  cases hsource : sourceFile? file with
  | none => rfl
  | some other =>
    obtain ⟨⟨text, htext⟩, hne⟩ := hfile other hsource
    obtain ⟨content, hread, hdecode⟩ := Files.readText_eq_ok_iff.mp htext
    have hsaved : s'.files.readText other = .ok text :=
      Files.readText_eq_ok_iff.mpr ⟨content, Settings.read_of_save hsave hread hne, hdecode⟩
    dsimp only
    rw [htext, hsaved]

/-! ## Other files -/

section

variable {s s' : Surroundings} {loc : Location} (hagree : Files.AgreeOff loc s.files s'.files)
include hagree

theorem readText_of_agreeOff {path : String} (hpath : s.files.locate path ≠ .ok loc) :
    (s'.files.readText path).toOption = (s.files.readText path).toOption := by
  refine Option.ext fun text => ?_
  rw [toOption_eq_some_iff, toOption_eq_some_iff, hagree.readText_eq_ok_iff hpath]

theorem effective_of_agreeOff {a : Arguments} {path : String} (hconfig : a.config = some path)
    (hpath : s.files.locate path ≠ .ok loc) : effective s' a = effective s a := by
  rw [effective_named hconfig, effective_named hconfig, load_toOption, load_toOption,
    hagree.exists?_eq hpath, readText_of_agreeOff hagree hpath]

theorem source_of_agreeOff (hinput : s'.input = s.input) {file : Option String}
    (hfile : ∀ path ∈ sourceFile? file, s.files.locate path ≠ .ok loc) :
    source s' file = source s file := by
  rw [source_eq, source_eq, hinput]
  cases hsource : sourceFile? file with
  | none => rfl
  | some path => exact readText_of_agreeOff hagree (hfile path hsource)

end

/-! ## The whole run -/

/-- Status and output depend on the settings that a run goes by and on its source text alone.

So a run with flags can be repeated with the file that its settings are saved to; the source is the
same then if it is the input, or a file that could be read and is not the one saved to. And if a
file of settings is named, no file but this and the source matters: not the one in the home
directory, whatever it holds. -/
theorem run_of_settings_and_source :
    (∀ (s s' : Surroundings) (arguments arguments' : List String) (a a' : Arguments) (m : Settings)
        (text : String), s'.parser = s.parser →
      Arguments.parse arguments = .ok a → Arguments.parse arguments' = .ok a' →
      effective s a = some m → effective s' a' = some m →
      readSource s a.file = .ok text → readSource s' a'.file = .ok text →
        (run s' arguments').shown = (run s arguments).shown) ∧
    (∀ (s s' : Surroundings) (arguments arguments' : List String) (a : Arguments) (m : Settings)
        (path : String), s'.parser = s.parser →
      Arguments.parse arguments = .ok a → effective s a = some m →
      Settings.save s.files path m = (s'.files, .ok ()) →
      Arguments.parse arguments' = .ok { config := some path, file := a.file } →
        (source s' a.file = source s a.file →
          (run s' arguments').shown = (run s arguments).shown) ∧
        (s'.input = s.input →
          (∀ other ∈ sourceFile? a.file, (∃ text, s.files.readText other = .ok text) ∧
            s'.files.locate other ≠ s'.files.locate path) →
          source s' a.file = source s a.file)) ∧
    ∀ (s s' : Surroundings) (arguments : List String) (a : Arguments) (path : String)
        (loc : Location), s'.parser = s.parser → s'.input = s.input →
      Arguments.parse arguments = .ok a → a.config = some path →
      Files.AgreeOff loc s.files s'.files → s.files.locate path ≠ .ok loc →
      (∀ other ∈ sourceFile? a.file, s.files.locate other ≠ .ok loc) →
        (run s' arguments).shown = (run s arguments).shown := by
  refine ⟨?_, ?_, ?_⟩
  · intro s s' arguments arguments' a a' m text hparser hparse hparse' hm hm' htext htext'
    rw [run_shown s hparse, run_shown s' hparse', hparser, hm, hm', source, source, htext, htext']
  · intro s s' arguments arguments' a m path hparser hparse hm hsave hparse'
    -- the second run has no flags of its own, so it goes by just what was saved
    refine ⟨fun hsource => ?_, fun hinput hfile => source_of_save hsave hinput hfile⟩
    rw [run_shown s hparse, run_shown s' hparse', hparser, hm, effective_of_save hsave, hsource]
  · intro s s' arguments a path loc hparser hinput hparse hconfig hagree hpath hfile
    rw [run_shown s hparse, run_shown s' hparse, hparser,
      effective_of_agreeOff hagree hconfig hpath, source_of_agreeOff hagree hinput hfile]

/-- Surroundings with a text to read from the input. -/
def typing (files : Files) : Surroundings :=
  ⟨files, "/h", "word".toUTF8, none, wordParser⟩

/-- A store with an empty file of settings, and another one in the home directory. -/
def twoConfigs (content : ByteArray) : Files :=
  ⟨["w"], [(["h", ".config", "syntaxviz", "config.toml"], .file content),
    (["h", ".config", "syntaxviz"], .directory), (["h", ".config"], .directory),
    (["h"], .directory), (["w"], .directory), (["w", "c.toml"], .file .empty)]⟩

theorem agreeOff_twoConfigs (content content' : ByteArray) :
    Files.AgreeOff ["h", ".config", "syntaxviz", "config.toml"] (twoConfigs content)
      (twoConfigs content') := by
  refine ⟨rfl, fun other hother => ?_, nofun, nofun⟩
  cases other with
  | nil => rfl
  | cons name other =>
    have hne : (["h", ".config", "syntaxviz", "config.toml"] == name :: other) = false :=
      beq_false_of_ne (Ne.symm hother)
    simp only [Files.node?, twoConfigs, List.find?_cons, hne]

/-- The settings of two flags are saved and named in place of the flags; and a file of settings is
named where the one in the home directory is no TOML. -/
theorem run_of_settings_and_source_typing :
    let m : Settings := { output := ⟨true, true⟩ }
    (Arguments.parse ["--pretty", "--kinds"] = .ok { pretty := true, kinds := true } ∧
      effective (typing .empty) { pretty := true, kinds := true } = some m ∧
      (Settings.save .empty "d/c.toml" m).2 = .ok () ∧
      (run (typing (Settings.save .empty "d/c.toml" m).1) ["--config", "d/c.toml"]).shown =
        (run (typing .empty) ["--pretty", "--kinds"]).shown) ∧
    (twoConfigs .empty).locate (Settings.homePath "/h") =
        .ok ["h", ".config", "syntaxviz", "config.toml"] ∧
      (run (typing (twoConfigs "[".toUTF8)) ["--config", "c.toml"]).shown =
        (run (typing (twoConfigs .empty)) ["--config", "c.toml"]).shown := by
  intro m
  have hparse : Arguments.parse ["--pretty", "--kinds"] =
      .ok { pretty := true, kinds := true } := by rfl
  have hm : effective (typing .empty) { pretty := true, kinds := true } = some m := by
    decide +kernel
  have hsave : (Settings.save .empty "d/c.toml" m).2 = .ok () :=
    toOption_eq_some_iff.mp (by decide +kernel)
  have hrepeat := run_of_settings_and_source.2.1 (typing .empty)
    (typing (Settings.save .empty "d/c.toml" m).1) ["--pretty", "--kinds"] ["--config", "d/c.toml"]
    { pretty := true, kinds := true } m "d/c.toml" rfl hparse hm (Prod.ext rfl hsave) rfl
  have hagree := agreeOff_twoConfigs .empty "[".toUTF8
  have hnamed : (twoConfigs .empty).locate "c.toml" = .ok ["w", "c.toml"] := by rfl
  have hother := run_of_settings_and_source.2.2 (typing (twoConfigs .empty))
    (typing (twoConfigs "[".toUTF8)) ["--config", "c.toml"] { config := some "c.toml" } "c.toml"
    ["h", ".config", "syntaxviz", "config.toml"] rfl rfl rfl rfl hagree
    (by simp [typing, hnamed]) (by rintro other ⟨⟩)
  exact ⟨⟨hparse, hm, hsave, hrepeat.1 (hrepeat.2 rfl (by rintro other ⟨⟩))⟩, rfl, hother⟩

end SyntaxOutline.Command
