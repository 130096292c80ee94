import Mathlib.Logic.Basic
import SyntaxOutline.Proofs.Command.Dependence
import SyntaxOutline.Proofs.Walk.Limits

/-!
# The stages of a run

A run loads its settings, reads its source and renders it. Either every stage succeeds, and the run
prints the outline; or one of them is the first to fail, and the run prints nothing and reports that
stage, whatever would have become of the stages behind it.

* `Completes` : all three stages succeed.
* `Stops` : the first stage that fails, with the reason and the log up to there.
* `completes_or_stops`, `Completes.not_stops` : one of the two, and never both.
-/

namespace SyntaxOutline.Command

variable {s : Surroundings} {a : Arguments}

/-- The bytes of a source: the input, or the content of a file. -/
def sourceBytes (s : Surroundings) (file : Option String) : Except FileError ByteArray :=
  match sourceFile? file with
  | none => .ok s.input
  | some path => s.files.read path

/-- Every stage of the run succeeds: it goes by the settings `m`, its source is the UTF-8 form of
`text`, and the walk of the tree that the parser makes of the text gives the outline `n`. -/
structure Completes (s : Surroundings) (a : Arguments) (m : Settings) (text : String)
    (n : Outline) : Prop where
  loads : effective s a = some m
  reads : sourceBytes s a.file = .ok text.toUTF8
  walks : ∃ root hasErrors, s.parser m.grammar text = .tree root hasErrors ∧
    (root.toSource text).walk m.walkOptions = .ok n

inductive Stage where
  | config
  | source
  | rendering
deriving DecidableEq

/-- The first stage of the run that fails, why it fails, and the log up to there. Nothing is asked
of the stages behind it. -/
inductive Stops (s : Surroundings) (a : Arguments) : Stage → RunFailure → List LogLine → Prop where
  | config {failure : RunFailure} (fails : (loadSettings s a.config).result = .error failure) :
      Stops s a .config failure (loadSettings s a.config).log
  | source {m : Settings} {failure : RunFailure} (loads : effective s a = some m)
      (fails : readSource s a.file = .error failure) :
      Stops s a .source failure ((loadSettings s a.config).log ++ [usingLine m.grammar])
  | rendering {m : Settings} {text : String} {failure : RenderFailure}
      (loads : effective s a = some m) (reads : sourceBytes s a.file = .ok text.toUTF8)
      (fails : (render s.parser text m.grammar m.walkOptions).result = .error failure) :
      Stops s a .rendering (.rendering failure)
        ((loadSettings s a.config).log ++ [usingLine m.grammar] ++
          (renderJson s.parser text m.grammar m.walkOptions m.output.pretty).log)

/-- The file that settings are loaded from. -/
def settingsFile (s : Surroundings) (config : Option String) : String :=
  config.getD (Settings.homePath s.home)

/-- The message tells that the stage failed, for some cause, and names the file that was to be
read. -/
def Stage.Reports (s : Surroundings) (a : Arguments) (message : String) : Stage → Prop
  | .config =>
    message = "Config file not found: " ++ settingsFile s a.config ∨
      (∃ cause,
        message = "Failed to read config file at " ++ settingsFile s a.config ++ ": " ++ cause) ∨
      ∃ cause,
        message = "Failed to parse config file at " ++ settingsFile s a.config ++ ": " ++ cause
  | .source =>
    ∃ cause, message = "Failed to read " ++ (sourceFile? a.file).getD "stdin" ++ ": " ++ cause
  | .rendering => ∃ cause, message = "Failed to render syntax tree: " ++ cause

/-! ## Each stage on its own -/

theorem effective_eq_some_iff {m : Settings} :
    effective s a = some m ↔ ∃ c, (loadSettings s a.config).result = .ok c ∧ a.override c = m := by
  unfold effective
  rw [Option.map_eq_some_iff]
  simp only [toOption_eq_some_iff]

theorem decode_eq_ok_iff {content : ByteArray} {text : String} :
    Files.decode content = .ok text ↔ content = text.toUTF8 := by
  constructor
  · intro h
    unfold Files.decode at h
    split at h
    · rename_i text' htext
      cases h
      unfold String.fromUTF8? at htext
      split at htext
      · cases htext
        rfl
      · cases htext
    · cases h
  · rintro rfl
    exact Settings.decode_toUTF8 text

/-- A text is read from a source if and only if the source is its UTF-8 form. -/
theorem readSource_eq_ok_iff {file : Option String} {text : String} :
    readSource s file = .ok text ↔ sourceBytes s file = .ok text.toUTF8 := by
  have hsource : readSource s file = .ok text ↔ source s file = some text := by
    unfold source
    rw [toOption_eq_some_iff]
  rw [hsource, source_eq, sourceBytes]
  cases sourceFile? file with
  | none =>
    dsimp only
    rw [toOption_eq_some_iff, decode_eq_ok_iff]
    simp
  | some path =>
    dsimp only
    rw [toOption_eq_some_iff, Files.readText_eq_ok_iff]
    simp only [decode_eq_ok_iff, exists_eq_right]

theorem render_eq_ok_iff {parser : Parser} {text : String} {grammar : Grammar}
    {options : WalkOptions} {n : Outline} :
    (render parser text grammar options).result = .ok n ↔
      ∃ root hasErrors, parser grammar text = .tree root hasErrors ∧
        (root.toSource text).walk options = .ok n := by
  unfold render Render.parse
  cases parser grammar text with
  | unloadable reason => simp
  | nothing => simp
  | tree root hasErrors =>
    dsimp only
    cases hwalk : (root.toSource text).walk options with
    | error failure => simp [hwalk]
    | ok outline => simp [hwalk]

/-- Settings fail to load if the file that was named is not there, or if the file that was to be
loaded fails. -/
theorem failure_of_loadSettings {config : Option String} {failure : RunFailure}
    (h : (loadSettings s config).result = .error failure) :
    failure = .configNotFound (settingsFile s config) ∨ ∃ reason, failure = .config reason ∧
      (Settings.load s.files (settingsFile s config)).result = .error reason := by
  unfold loadSettings at h
  cases config with
  | none =>
    dsimp only at h
    split at h
    · cases h
    · rename_i reason log hload
      cases h
      exact Or.inr ⟨reason, rfl, by rw [settingsFile, Option.getD_none, hload]⟩
  | some path =>
    dsimp only at h
    split at h
    · split at h
      · cases h
      · rename_i reason log hload
        cases h
        exact Or.inr ⟨reason, rfl, by rw [settingsFile, Option.getD_some, hload]⟩
    · cases h
      exact Or.inl rfl

/-- A file that fails to load cannot be read or cannot be parsed. -/
theorem failure_of_load {files : Files} {path : String} {reason : Settings.LoadFailure}
    (h : (Settings.load files path).result = .error reason) :
    (∃ e, reason = .unreadable path e) ∨ ∃ text f, reason = .unparsable path text f := by
  unfold Settings.load at h
  split at h
  · split at h
    · cases h
      exact Or.inl ⟨_, rfl⟩
    · split at h
      · cases h
        exact Or.inr ⟨_, _, rfl⟩
      · cases h
  · cases h

theorem failure_of_readSource {file : Option String} {failure : RunFailure}
    (h : readSource s file = .error failure) :
    ∃ e, failure = .source ((sourceFile? file).getD "stdin") e := by
  unfold readSource at h
  split at h
  · rename_i hfile
    rw [hfile]
    split at h
    · cases h
    · cases h
      exact ⟨_, rfl⟩
  · rename_i path hfile
    rw [hfile]
    split at h
    · cases h
    · cases h
      exact ⟨_, rfl⟩

theorem append_twice (opening cause mark : String) :
    opening ++ cause ++ mark ++ cause = opening ++ (cause ++ mark ++ cause) := by
  simp only [String.append_assoc]

/-- The stage that fails first is the one that is reported. -/
theorem Stops.reports {stage : Stage} {failure : RunFailure} {log : List LogLine}
    (h : Stops s a stage failure log) : stage.Reports s a failure.message := by
  cases h with
  | config fails =>
    unfold Stage.Reports
    rcases failure_of_loadSettings fails with rfl | ⟨reason, rfl, hload⟩
    · exact Or.inl rfl
    · rcases failure_of_load hload with ⟨e, rfl⟩ | ⟨text, f, rfl⟩
      · exact Or.inr (Or.inl ⟨e.message ++ ": " ++ e.message, append_twice _ _ _⟩)
      · exact Or.inr (Or.inr ⟨f.message text ++ ": " ++ f.message text, append_twice _ _ _⟩)
  | source loads fails =>
    obtain ⟨e, rfl⟩ := failure_of_readSource fails
    exact ⟨e.message, rfl⟩
  | rendering loads reads fails =>
    exact ⟨_, String.append_assoc⟩

/-! ## All stages -/

section

variable {m : Settings} {text : String}

/-- Settings that cannot be loaded end the run. -/
theorem execute_of_not_loads {failure : RunFailure}
    (h : (loadSettings s a.config).result = .error failure) :
    execute s a = ⟨.error failure, (loadSettings s a.config).log⟩ := by
  unfold execute
  generalize loadSettings s a.config = loaded at h ⊢
  obtain ⟨result, log⟩ := loaded
  subst h
  rfl

/-- With settings, the run goes on to its source, and with the source to rendering. -/
theorem execute_of_loads (hloads : effective s a = some m) :
    execute s a =
      match readSource s a.file with
      | .error failure => ⟨.error failure, (loadSettings s a.config).log ++ [usingLine m.grammar]⟩
      | .ok text =>
        let rendered := renderJson s.parser text m.grammar m.walkOptions m.output.pretty
        ⟨rendered.result.mapError .rendering,
          (loadSettings s a.config).log ++ [usingLine m.grammar] ++ rendered.log⟩ := by
  obtain ⟨c, hload, rfl⟩ := effective_eq_some_iff.mp hloads
  unfold execute
  generalize loadSettings s a.config = loaded at hload ⊢
  obtain ⟨result, log⟩ := loaded
  subst hload
  dsimp only
  cases readSource s a.file with
  | error failure => rfl
  | ok text =>
    dsimp only
    cases renderJson s.parser text (a.override c).grammar (a.override c).walkOptions
      (a.override c).output.pretty with
    | mk rendered rendering =>
      cases rendered with
      | error failure => rfl
      | ok json => rfl

/-- A source that cannot be read ends the run behind the settings. -/
theorem execute_of_not_reads {failure : RunFailure} (hloads : effective s a = some m)
    (h : readSource s a.file = .error failure) :
    execute s a =
      ⟨.error failure, (loadSettings s a.config).log ++ [usingLine m.grammar]⟩ := by
  rw [execute_of_loads hloads, h]

/-- A source that can be read is rendered. -/
theorem execute_of_reads (hloads : effective s a = some m)
    (hreads : sourceBytes s a.file = .ok text.toUTF8) :
    execute s a =
      ⟨((render s.parser text m.grammar m.walkOptions).result.map
          (if m.output.pretty then Outline.pretty else Outline.compact)).mapError .rendering,
        (loadSettings s a.config).log ++ [usingLine m.grammar] ++
          (renderJson s.parser text m.grammar m.walkOptions m.output.pretty).log⟩ := by
  rw [execute_of_loads hloads, readSource_eq_ok_iff.mpr hreads, ← renderJson_result]

theorem Completes.execute {n : Outline} (h : Completes s a m text n) :
    (execute s a).result = .ok (if m.output.pretty then n.pretty else n.compact) := by
  rw [execute_of_reads h.loads h.reads, render_eq_ok_iff.mpr h.walks]
  split
  · rfl
  · rfl

theorem Stops.execute {stage : Stage} {failure : RunFailure} {log : List LogLine}
    (h : Stops s a stage failure log) : Command.execute s a = ⟨.error failure, log⟩ := by
  cases h with
  | config fails => exact execute_of_not_loads fails
  | source loads fails => exact execute_of_not_reads loads fails
  | rendering loads reads fails =>
    rw [execute_of_reads loads reads, fails]
    rfl

end

/-- No run does both. -/
theorem Completes.not_stops {m : Settings} {text : String} {n : Outline}
    (h : Completes s a m text n) {stage : Stage} {failure : RunFailure} {log : List LogLine} :
    ¬ Stops s a stage failure log := by
  intro hstops
  have hresult := h.execute
  rw [hstops.execute] at hresult
  cases hresult

theorem completes_or_stops (s : Surroundings) (a : Arguments) :
    (∃ m text n, Completes s a m text n) ∨ ∃ stage failure log, Stops s a stage failure log := by
  cases hload : (loadSettings s a.config).result with
  | error failure => exact Or.inr ⟨_, _, _, .config hload⟩
  | ok c =>
    have hloads : effective s a = some (a.override c) := effective_eq_some_iff.mpr ⟨c, hload, rfl⟩
    cases hread : readSource s a.file with
    | error failure => exact Or.inr ⟨_, _, _, .source hloads hread⟩
    | ok text =>
      have hreads := readSource_eq_ok_iff.mp hread
      cases hrender : (render s.parser text (a.override c).grammar
          (a.override c).walkOptions).result with
      | error failure => exact Or.inr ⟨_, _, _, .rendering hloads hreads hrender⟩
      | ok n => exact Or.inl ⟨_, text, n, hloads, hreads, render_eq_ok_iff.mp hrender⟩

/-! ## What a run leaves behind -/

section

variable {arguments : List String} (hparse : Arguments.parse arguments = .ok a)
include hparse

theorem run_of_execute_ok {json : String} (h : (execute s a).result = .ok json) :
    (run s arguments).status = 0 ∧ (run s arguments).output = json ++ "\n" := by
  unfold run
  rw [hparse]
  dsimp only
  generalize execute s a = executed at h ⊢
  obtain ⟨result, log⟩ := executed
  subst h
  exact ⟨rfl, rfl⟩

theorem run_of_execute_error {failure : RunFailure} {log : List LogLine}
    (h : execute s a = ⟨.error failure, log⟩) :
    run s arguments = ⟨1, "", (logFilter s).2 ++ printLog (logFilter s).1 log ++ "Error: " ++
      failure.message ++ "\n"⟩ := by
  unfold run
  rw [hparse]
  dsimp only
  rw [h]

end

/-- **Runs.** A run with valid arguments completes or stops at a first stage, and never does both.

If it completes, its status is zero and its output is the JSON of the rendered outline in the style
of its settings, with a new line behind it; the JSON is read back as that outline up to height 62,
which a limit of depth 62 or less makes sure of. If it stops, its status is one, it has no output,
and behind the log it reports the stage that failed first. -/
theorem run_completes_or_stops (s : Surroundings) (arguments : List String) (a : Arguments)
    (hparse : Arguments.parse arguments = .ok a) :
    Xor (∃ m text n, Completes s a m text n) (∃ stage failure log, Stops s a stage failure log) ∧
      (∀ m text n, Completes s a m text n →
        (render s.parser text m.grammar m.walkOptions).result = .ok n ∧
        (run s arguments).status = 0 ∧
        ∃ json, json = (if m.output.pretty then n.pretty else n.compact) ∧
          (run s arguments).output = json ++ "\n" ∧
          (n.height ≤ 62 → Outline.ofJson? json = .ok n) ∧
          ∀ d, m.limits.maxDepth = some d → d.toNat ≤ 62 → n.height ≤ 62) ∧
      ∀ stage failure log, Stops s a stage failure log →
        stage.Reports s a failure.message ∧
        run s arguments = ⟨1, "", (logFilter s).2 ++ printLog (logFilter s).1 log ++ "Error: " ++
          failure.message ++ "\n"⟩ := by
  refine ⟨?_, ?_, ?_⟩
  · rcases completes_or_stops s a with ⟨m, text, n, h⟩ | ⟨stage, failure, log, h⟩
    · exact Or.inl ⟨⟨m, text, n, h⟩, fun ⟨_, _, _, hstops⟩ => h.not_stops hstops⟩
    · exact Or.inr ⟨⟨stage, failure, log, h⟩, fun ⟨_, _, _, hcompletes⟩ => hcompletes.not_stops h⟩
  · intro m text n h
    obtain ⟨hstatus, houtput⟩ := run_of_execute_ok hparse h.execute
    refine ⟨render_eq_ok_iff.mpr h.walks, hstatus, _, rfl, houtput, ?_, ?_⟩
    · intro hheight
      obtain ⟨hcompact, hpretty⟩ := n.ofJson?_texts_of_height_le hheight
      split
      · exact hpretty
      · exact hcompact
    · intro d hd hle
      obtain ⟨root, hasErrors, -, hwalk⟩ := h.walks
      have hfits := (SourceTree.fits_of_walk hwalk).1 d hd
      omega
  · intro stage failure log h
    exact ⟨h.reports, run_of_execute_error hparse h.execute⟩

/-- Surroundings in which nothing can succeed: there is no file, the input is no text, and the
parser makes nothing of any text. -/
def hopeless : Surroundings := ⟨.empty, "/h", ⟨#[0xff]⟩, none, fun _ _ => .nothing⟩

/-- A word is typed and printed. In hopeless surroundings a file of settings that is named is
reported as missing; if none is named, the input is reported as no text, with the grammar in the
log. With a limit of no nodes the typed word cannot be rendered. -/
theorem run_completes_or_stops_typing :
    (∃ n json, Completes (typing .empty) {} {} "word" n ∧
      (run (typing .empty) []).status = 0 ∧ (run (typing .empty) []).output = json ++ "\n" ∧
      n.height ≤ 62 ∧ Outline.ofJson? json = .ok n) ∧
    (Stops hopeless { config := some "c.toml" } .config (.configNotFound "c.toml") [] ∧
      (run hopeless ["--config", "c.toml"]).shown = (1, "")) ∧
    (∃ log, Stops hopeless {} .source (.source "stdin" .notText) (log ++ [usingLine .markdown]) ∧
      (run hopeless []).shown = (1, "")) ∧
    ∃ log, Stops (typing .empty) { maxNodes := some 0 } .rendering
        (.rendering (.ofWalk (.limitExceeded .nodes 0 ⟨0, 4⟩))) log ∧
      (run (typing .empty) ["--max-nodes", "0"]).shown = (1, "") := by
  have hcompletes : Completes (typing .empty) {} {} "word" ⟨"word", ⟨0, 4⟩, none, []⟩ :=
    ⟨by decide +kernel, rfl, _, _, rfl, rfl⟩
  have hconfig : Stops hopeless { config := some "c.toml" } .config (.configNotFound "c.toml") [] :=
    .config rfl
  have hsource : Stops hopeless {} .source (.source "stdin" .notText) _ :=
    .source (m := {}) (by decide +kernel) rfl
  have hrendering : Stops (typing .empty) { maxNodes := some 0 } .rendering
      (.rendering (.ofWalk (.limitExceeded .nodes 0 ⟨0, 4⟩))) _ :=
    @Stops.rendering _ _ { limits := { maxNodes := some 0 } } "word" _ (by decide +kernel) rfl rfl
  obtain ⟨-, hok, -⟩ := run_completes_or_stops (typing .empty) [] {} rfl
  obtain ⟨-, hstatus, json, -, houtput, hread, -⟩ := hok _ _ _ hcompletes
  refine ⟨⟨_, json, hcompletes, hstatus, houtput, Nat.zero_le 62, hread (Nat.zero_le 62)⟩,
    ⟨hconfig, ?_⟩, ⟨_, hsource, ?_⟩, ⟨_, hrendering, ?_⟩⟩
  · rw [((run_completes_or_stops hopeless ["--config", "c.toml"] _ rfl).2.2 _ _ _ hconfig).2]
    rfl
  · rw [((run_completes_or_stops hopeless [] _ rfl).2.2 _ _ _ hsource).2]
    rfl
  · rw [((run_completes_or_stops (typing .empty) ["--max-nodes", "0"] _ rfl).2.2 _ _ _
      hrendering).2]
    rfl

end SyntaxOutline.Command
