import SyntaxOutline.Proofs.Outline.RoundTrip
import SyntaxOutline.Render

/-!
# Two ways to the JSON of a text

The compact JSON is written straight from the walk, the indented one from the rendered outline. Both
are the texts of the outline that rendering gives, and both fail as rendering fails. The log of the
compact way lacks the line that rendering writes last.

* `renderJson_result` : the JSON of a text is that of its rendered outline.
* `render_log` : the log of rendering, from that of the compact way.
* `ofJson?_texts` : the two texts of an outline are read alike.
-/

namespace SyntaxOutline

open Render

/-- What rendering writes behind the walk: nothing if it fails. -/
def Render.closing : Except RenderFailure Outline → List LogLine
  | .ok n => [renderedLine n]
  | .error _ => []

section

variable (parser : Parser) (source : String) (grammar : Grammar) (options : WalkOptions)

theorem renderCompact_result : (renderCompact parser source grammar options).result =
    (render parser source grammar options).result.map Outline.compact := by
  unfold renderCompact render
  rcases parse parser source grammar with ⟨failure | tree, log⟩
  · rfl
  · dsimp only
    rw [SourceTree.serialize, Outline.compactOf]
    cases tree.walk options with
    | error failure => rfl
    | ok n => rfl

/-- The JSON of a text is that of its rendered outline, or fails as rendering does. -/
theorem renderJson_result (indented : Bool) :
    (renderJson parser source grammar options indented).result =
      (render parser source grammar options).result.map
        (if indented then Outline.pretty else Outline.compact) := by
  cases indented with
  | true => rfl
  | false => exact renderCompact_result parser source grammar options

/-- Rendering writes what the compact way writes, and one more line if it succeeds. -/
theorem render_log : (render parser source grammar options).log =
    (renderCompact parser source grammar options).log ++
      closing (render parser source grammar options).result := by
  unfold renderCompact render
  rcases parse parser source grammar with ⟨failure | tree, log⟩
  · exact (List.append_nil log).symm
  · dsimp only
    rw [SourceTree.serialize, Outline.compactOf]
    cases tree.walk options with
    | error failure => exact (List.append_nil _).symm
    | ok n => exact List.append_assoc log [walkingLine options] [_] |>.symm

/-- The lines of the compact way are those on parsing and on the walk. -/
theorem mem_renderCompact_log {l : LogLine}
    (h : l ∈ (renderCompact parser source grammar options).log) :
    (∃ hasErrors, l = parsedLine source grammar hasErrors) ∨ l = walkingLine options := by
  unfold renderCompact parse at h
  cases hparser : parser grammar source with
  | unloadable reason =>
    rw [hparser] at h
    cases h
  | nothing =>
    rw [hparser] at h
    cases h
  | tree root hasErrors =>
    simp only [hparser] at h
    have hlines : l ∈ [parsedLine source grammar hasErrors, walkingLine options] := by
      cases hwalk : (root.toSource source).serialize options with
      | error failure =>
        rw [hwalk] at h
        exact h
      | ok text =>
        rw [hwalk] at h
        exact h
    rcases List.mem_cons.mp hlines with rfl | hlines
    · exact Or.inl ⟨hasErrors, rfl⟩
    · exact Or.inr (List.mem_singleton.mp hlines)

end

theorem closingLine_ne_parsedLine (count height : Nat) (source : String) (grammar : Grammar)
    (hasErrors : Bool) : closingLine count height ≠ parsedLine source grammar hasErrors := by
  intro h
  have hmessage := congrArg (fun l => l.message.toList.head?) h
  simp [closingLine, parsedLine, line, toString] at hmessage

theorem closingLine_ne_walkingLine (count height : Nat) (options : WalkOptions) :
    closingLine count height ≠ walkingLine options := by
  intro h
  have hmessage := congrArg (fun l => l.message.toList.head?) h
  simp [closingLine, walkingLine, line, toString] at hmessage

/-- The compact way writes no such line. -/
theorem closingLine_not_mem (parser : Parser) (source : String) (grammar : Grammar)
    (options : WalkOptions) (count height : Nat) :
    closingLine count height ∉ (renderCompact parser source grammar options).log := by
  intro h
  rcases mem_renderCompact_log parser source grammar options h with ⟨hasErrors, he⟩ | he
  · exact closingLine_ne_parsedLine count height source grammar hasErrors he
  · exact closingLine_ne_walkingLine count height options he

/-- The closing line is written if and only if rendering succeeds. -/
theorem closingLine_mem_render_iff (parser : Parser) (source : String) (grammar : Grammar)
    (options : WalkOptions) :
    (∃ count height, closingLine count height ∈ (render parser source grammar options).log) ↔
      ∃ n, (render parser source grammar options).result = .ok n := by
  rw [render_log]
  constructor
  · rintro ⟨count, height, h⟩
    have hclosing := (List.mem_append.mp h).resolve_left (closingLine_not_mem _ _ _ _ _ _)
    cases hresult : (render parser source grammar options).result with
    | ok n => exact ⟨n, rfl⟩
    | error failure =>
      rw [hresult] at hclosing
      cases hclosing
  · rintro ⟨n, hn⟩
    rw [hn]
    exact ⟨_, _, List.mem_append_right _ List.mem_cons_self⟩

/-- The two texts of an outline are both read back as that outline, or both refused. -/
theorem Outline.ofJson?_texts (n : Outline) :
    (ofJson? n.compact = .ok n ∧ ofJson? n.pretty = .ok n) ∨
      ∃ f f', ofJson? n.compact = .error f ∧ ofJson? n.pretty = .error f' := by
  obtain ⟨v, hv, hrepresents, hnesting⟩ := exists_written n
  have hcompact := ofJson?_spelled (spells_compact hv) hrepresents hnesting
  have hpretty := ofJson?_spelled (spells_pretty hv) hrepresents hnesting
  rcases Nat.lt_or_ge 62 n.height with hhigh | hlow
  · obtain ⟨f, hf, -⟩ := hcompact.2 hhigh
    obtain ⟨f', hf', -⟩ := hpretty.2 hhigh
    exact Or.inr ⟨f, f', hf, hf'⟩
  · exact Or.inl ⟨hcompact.1 hlow, hpretty.1 hlow⟩

/-- **Two ways to JSON.** Both texts are those of the rendered outline, with the same failure if
rendering fails. The log of rendering is that of the compact way, and behind it the closing line
with the number of nodes and the height if rendering succeeds; no other line is one of that form.
The two texts are both read back as the rendered outline, or both refused. -/
theorem renderJson_agrees (parser : Parser) (source : String) (grammar : Grammar)
    (options : WalkOptions) :
    (renderJson parser source grammar options false).result =
        (render parser source grammar options).result.map Outline.compact ∧
      (renderJson parser source grammar options true).result =
        (render parser source grammar options).result.map Outline.pretty ∧
      ((∀ n, (render parser source grammar options).result = .ok n →
          (render parser source grammar options).log =
            (renderJson parser source grammar options false).log ++
              [line s!"rendered {n.nodeCount} nodes, height {n.height}"]) ∧
        (∀ failure, (render parser source grammar options).result = .error failure →
          (render parser source grammar options).log =
            (renderJson parser source grammar options false).log) ∧
        ((∃ count height, closingLine count height ∈ (render parser source grammar options).log) ↔
          ∃ n, (render parser source grammar options).result = .ok n)) ∧
      ∀ compact pretty, (renderJson parser source grammar options false).result = .ok compact →
        (renderJson parser source grammar options true).result = .ok pretty →
        (∃ n, (render parser source grammar options).result = .ok n ∧
            Outline.ofJson? compact = .ok n ∧ Outline.ofJson? pretty = .ok n) ∨
          ∃ f f', Outline.ofJson? compact = .error f ∧ Outline.ofJson? pretty = .error f' := by
  have hcompact := renderJson_result parser source grammar options false
  have hpretty := renderJson_result parser source grammar options true
  have hlog := render_log parser source grammar options
  refine ⟨hcompact, hpretty, ⟨?_, ?_, closingLine_mem_render_iff parser source grammar options⟩, ?_⟩
  · intro n hn
    rw [hn] at hlog
    exact hlog
  · intro failure hfailure
    rw [hfailure] at hlog
    exact hlog.trans (List.append_nil _)
  · intro compact pretty hc hp
    rw [hcompact] at hc
    rw [hpretty] at hp
    cases hn : (render parser source grammar options).result with
    | error failure =>
      rw [hn] at hc
      cases hc
    | ok n =>
      rw [hn] at hc hp
      cases hc
      cases hp
      exact n.ofJson?_texts.imp_left fun h => ⟨n, rfl, h⟩

/-- A parser that takes the whole text for a word. -/
def wordParser : Parser := fun _ source =>
  .tree (.node "word" 0 (UInt64.ofNat source.utf8ByteSize) []) false

/-- The outline of a word. -/
def wordOutline : Outline := ⟨"héLF", ⟨0, 4⟩, none, []⟩

/-- The two texts of a word are read alike. With a limit of no nodes, rendering fails without the
closing line, and the compact way fails with the same reason. -/
theorem renderJson_agrees_word :
    ((render wordParser "hé\n" .markdown {}).result = .ok wordOutline ∧
      (render wordParser "hé\n" .markdown {}).log =
        (renderJson wordParser "hé\n" .markdown {} false).log ++
          [line s!"rendered {wordOutline.nodeCount} nodes, height {wordOutline.height}"] ∧
      ((∃ n, (render wordParser "hé\n" .markdown {}).result = .ok n ∧
          Outline.ofJson? wordOutline.compact = .ok n ∧
          Outline.ofJson? wordOutline.pretty = .ok n) ∨
        ∃ f f', Outline.ofJson? wordOutline.compact = .error f ∧
          Outline.ofJson? wordOutline.pretty = .error f')) ∧
    (render wordParser "hé\n" .markdown ⟨⟨none, some 0⟩, false⟩).result =
        .error (.ofWalk (.limitExceeded .nodes 0 ⟨0, 4⟩)) ∧
      (render wordParser "hé\n" .markdown ⟨⟨none, some 0⟩, false⟩).log =
        (renderJson wordParser "hé\n" .markdown ⟨⟨none, some 0⟩, false⟩ false).log := by
  have hok : (render wordParser "hé\n" .markdown {}).result = .ok wordOutline := rfl
  have herror : (render wordParser "hé\n" .markdown ⟨⟨none, some 0⟩, false⟩).result =
      .error (.ofWalk (.limitExceeded .nodes 0 ⟨0, 4⟩)) := rfl
  obtain ⟨hcompact, hpretty, hlog, hread⟩ := renderJson_agrees wordParser "hé\n" .markdown {}
  obtain ⟨-, -, hlog', -⟩ :=
    renderJson_agrees wordParser "hé\n" .markdown ⟨⟨none, some 0⟩, false⟩
  rw [hok] at hcompact hpretty
  exact ⟨⟨hok, hlog.1 _ hok, hread _ _ hcompact hpretty⟩, herror, hlog'.2.1 _ herror⟩

end SyntaxOutline
