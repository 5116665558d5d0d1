import SourceAtlas.Proofs.ClassLines
import SourceAtlas.Proofs.FlowchartLines

/-!
Both kinds of diagram, as their encoders return them. Names, types, labels and titles may hold
anything, line breaks and the words of the diagram language included, and still every entity and
every relationship has the lines that are meant for it and no others.
-/

open SourceAtlas.Text

namespace SourceAtlas

theorem diagrams_itemized (analysis : Analysis) (options : EncodeOptions) :
    (options.diagramType = .classes →
      ∃ diagram, Encoder.classes.encode analysis options = .ok diagram ∧
        Itemized diagram (ClassDiagram.diagramLength analysis options) ClassDiagram.isBlockLine
          (isEdgeLine ClassDiagram.edgeToken)
          (analysis.relationships.map fun relationship =>
            lineBody (ClassDiagram.edgeLine relationship))) ∧
    (options.diagramType = .flowchart →
      ∃ diagram, Encoder.flowchart.encode analysis options = .ok diagram ∧
        Itemized diagram (Flowchart.diagramLength analysis options) Flowchart.isNodeLine
          (isEdgeLine Flowchart.edgeToken)
          (analysis.relationships.map fun relationship =>
            lineBody (Flowchart.edgeLine relationship))) ∧
    (∀ line, ClassDiagram.isBlockLine line = true ↔
      ∃ id, Word id ∧ line = "    class ".toList ++ id ++ " \x7b".toList) ∧
    (∀ line, Flowchart.isNodeLine line = true ↔
      ∃ kind id text, Word id ∧
        line = indent.toList ++ (id ++ ((Flowchart.brackets kind).1.toList ++
          '"' :: (text ++ '"' :: (Flowchart.brackets kind).2.toList)))) ∧
    ∀ token line, isEdgeLine token line = true ↔
      ∃ kind id rest, Word id ∧
        line = indent.toList ++ (id ++ ' ' :: ((token kind).toList ++ rest)) := by
  refine ⟨?_, ?_, ClassDiagram.block_line_iff, Flowchart.node_line_iff, edge_line_iff⟩
  · intro own
    exact ⟨_, Encoder.encode_whole .classes analysis options own,
      ClassDiagram.draw_itemized analysis options⟩
  · intro own
    exact ⟨_, Encoder.encode_whole .flowchart analysis options own,
      Flowchart.draw_itemized analysis options⟩

/-- Names and labels that try to open blocks and to start lines of their own. -/
def intrusiveAnalysis : Analysis :=
  .ofParts [.named .objectClass "class", .named .interface "a \x7b\n    class b"]
    [{ kind := .aggregation, source := "class", target := "accTitle: end"
       label := some "c\n    class d \x7b", multiplicity := some "\"\u2028\"" }]

theorem diagrams_itemized_intrusive :
    (∃ diagram, Encoder.classes.encode intrusiveAnalysis {} = .ok diagram ∧
      Itemized diagram 7 ClassDiagram.isBlockLine (isEdgeLine ClassDiagram.edgeToken)
        (intrusiveAnalysis.relationships.map fun relationship =>
          lineBody (ClassDiagram.edgeLine relationship))) ∧
    ∃ diagram, Encoder.flowchart.encode intrusiveAnalysis { diagramType := .flowchart } =
        .ok diagram ∧
      Itemized diagram 4 Flowchart.isNodeLine (isEdgeLine Flowchart.edgeToken)
        (intrusiveAnalysis.relationships.map fun relationship =>
          lineBody (Flowchart.edgeLine relationship)) :=
  ⟨(diagrams_itemized intrusiveAnalysis {}).1 rfl,
    (diagrams_itemized intrusiveAnalysis { diagramType := .flowchart }).2.1 rfl⟩

end SourceAtlas
