import SourceAtlas.Analyze
import SourceAtlas.Proofs.AnchoredPrograms
import SourceAtlas.Proofs.ImportedNames
import SourceAtlas.Proofs.SourceLines

/-!
Reported positions. An entity is reported where its declaration stands and an import where its node
stands, and in the tree of a source text both stand at characters that are not blank. So the
position names a line among those that the analysis counts, and a byte of that line.
-/

open SourceAtlas.Tree SourceAtlas.TypeScript

namespace SourceAtlas

theorem anchor_in_text (source : String) (point : Point) (anchor : Anchor source point) :
    point.position.InText source := by
  obtain ⟨passed, c, rest, whole, solid, rfl⟩ := anchor
  exact solid_in_text source passed rest c whole solid

namespace Outline

theorem described_positioned (options : AnalysisOptions) (entity : Entity) (node : Node)
    (described : Describes options entity node) : positioned node.kind = true := by
  have kind := described.kind
  unfold declaredKind? at kind
  split at kind <;> simp_all [positioned]

end Outline

/-- Every declaration and every import of the tree is reported one row and one column behind where a
character of the text stands that is not blank. -/
def StandsIn (source : String) (root : Node) : Prop :=
  Throughout (fun node => positioned node.kind = true →
    ∃ point, Anchor source point ∧ node.position = point.position) root

/-- Every declaration and every import of the raw tree starts at a character of the text that is not
blank. -/
def StartsIn (source : String) (root : RawNode) : Prop :=
  root.Everywhere fun node => positioned node.kind = true → Anchor source node.start

theorem starts_stands (source : String) (root : RawNode) (starts : StartsIn source root) :
    StandsIn source root.view := by
  refine RawNode.throughout_view _ root (starts.imp ?_)
  intro node anchored placed
  rw [RawNode.view_kind] at placed
  exact ⟨node.start, anchored placed, RawNode.view_position node⟩

structure PositionsInside (source : String) (analysis : Analysis) : Prop where
  lines : analysis.metadata.lineCount = lineCount source
  entities : ∀ entity ∈ analysis.entities, entity.position.InText source
  imports : ∀ item ∈ analysis.imports, item.position.InText source

theorem tree_positions_inside (options : AnalysisOptions) (language source : String) (root : Node)
    (stands : StandsIn source root) :
    PositionsInside source (analyzeTree options language source root) := by
  refine ⟨rfl, ?_, ?_⟩
  · intro entity member
    obtain ⟨occurrence, occurs, described⟩ := Outline.entity_occurs options root entity member
    have placed := Outline.described_positioned options entity occurrence.2 described
    obtain ⟨point, anchor, position⟩ := stands occurrence occurs placed
    rw [described.position, position]
    exact anchor_in_text source point anchor
  · intro item member
    change item ∈ Outline.imports root at member
    rw [Outline.imports_outermost] at member
    obtain ⟨node, kept, rfl⟩ := List.mem_map.mp member
    obtain ⟨isImport, ancestors, occurs⟩ := outermost_member _ root node kept
    have placed : positioned node.kind = true := by
      rw [beq_iff_eq.mp isImport]
      rfl
    obtain ⟨point, anchor, position⟩ := stands (ancestors, node) occurs placed
    change node.position.InText source
    rw [position]
    exact anchor_in_text source point anchor

theorem raw_tree_starts (language : Language) (source : String) :
    StartsIn source (rawTree language source) :=
  raw_tree_anchored language source _ (List.mem_singleton.mpr rfl)

theorem analysis_of_tree (reader : TreeReader) (language : Language) (source : String)
    (options : AnalysisOptions) (root : RawNode) (analysis : Analysis)
    (read : reader.tree language source = .ok root)
    (analyzed : analyzeWith reader source language options = .ok analysis) :
    analysis = analyzeTree options language.name source root.view := by
  cases checked : options.validate with
  | error => simp [analyzeWith, checked, bind, Except.bind] at analyzed
  | ok =>
      simpa [analyzeWith, checked, read, bind, Except.bind, pure, Except.pure] using analyzed.symm

/-- Positions lie inside the source text, for every tree that stands in the text, for every reader
whose raw tree starts there, and so for every text that is analysed here. -/
theorem reported_positions_inside (source : String) (options : AnalysisOptions) :
    (∀ language root, StandsIn source root →
      PositionsInside source (analyzeTree options language source root)) ∧
    (∀ reader language root analysis, reader.tree language source = .ok root →
      StartsIn source root → analyzeWith reader source language options = .ok analysis →
      PositionsInside source analysis) ∧
    ∀ language analysis, analyze source language options = .ok analysis →
      PositionsInside source analysis := by
  have read_inside : ∀ reader language root analysis, reader.tree language source = .ok root →
      StartsIn source root → analyzeWith reader source language options = .ok analysis →
      PositionsInside source analysis := by
    intro reader language root analysis read starts analyzed
    rw [analysis_of_tree reader language source options root analysis read analyzed]
    exact tree_positions_inside options _ source _ (starts_stands source root starts)
  refine ⟨fun language root => tree_positions_inside options language source root, read_inside, ?_⟩
  intro language analysis analyzed
  exact read_inside TypeScript.reader language _ analysis rfl (raw_tree_starts language source)
    analyzed

/-- A line that is ended by a carriage return and a line feed and has a character of two bytes, and
a last line that nothing ends. -/
def unevenLines : String := "/* é */ class A {}\r\nimport \"b\""

theorem reported_positions_inside_uneven :
    ∃ analysis, analyze unevenLines .typescript {} = .ok analysis ∧
      analysis.entities.map (·.position) = [⟨1, 10⟩] ∧
      analysis.imports.map (·.position) = [⟨2, 1⟩] ∧
      sourceLines unevenLines = ["/* é */ class A {}", "import \"b\""] ∧
      PositionsInside unevenLines analysis :=
  ⟨_, rfl, by decide +kernel, by decide +kernel, by decide +kernel,
    (reported_positions_inside unevenLines {}).2.2 .typescript _ rfl⟩

end SourceAtlas
