import SourceAtlas.Analyze
import SourceAtlas.Proofs.ClassContent
import SourceAtlas.Proofs.FlowchartContent

/-!
Names in the two kinds of diagram. A node of a flowchart is called like the block of a class diagram,
unless that is a reserved word, which is written with a mark behind it. The word with its mark is no
reserved word itself. But it may be the name of another entity, and then the two entities, which
have a block each, are one node.
-/

open SourceAtlas.Text

namespace SourceAtlas.Flowchart

/-- The one is a reserved word, and the other is that word with its mark. -/
def Meets (reserved marked : String) : Prop :=
  reserved ∈ reservedIds ∧ marked = reserved ++ "_"

instance (reserved marked : String) : Decidable (Meets reserved marked) :=
  inferInstanceAs (Decidable (_ ∧ _))

theorem marked_free : ∀ word ∈ reservedIds, word ++ "_" ∉ reservedIds := by
  decide

theorem node_id_cases (name : String) :
    (identifier name ∉ reservedIds ∧ nodeId name = identifier name) ∨
      (identifier name ∈ reservedIds ∧ nodeId name = identifier name ++ "_") := by
  by_cases reserved : identifier name ∈ reservedIds
  · right
    exact ⟨reserved, if_pos (List.contains_iff_mem.mpr reserved)⟩
  · left
    exact ⟨reserved, if_neg (mt List.contains_iff_mem.mp reserved)⟩

theorem node_id_free (name : String) : nodeId name ∉ reservedIds := by
  rcases node_id_cases name with ⟨free, same⟩ | ⟨reserved, marked⟩
  · rw [same]
    exact free
  · rw [marked]
    exact marked_free _ reserved

theorem node_ids_met (name other : String) (meets : Meets (identifier name) (identifier other)) :
    nodeId name = nodeId other := by
  obtain ⟨reserved, marked⟩ := meets
  have free := marked_free _ reserved
  rw [← marked] at free
  rcases node_id_cases name with ⟨unreserved, _⟩ | ⟨_, renamed⟩
  · exact absurd reserved unreserved
  · rcases node_id_cases other with ⟨_, kept⟩ | ⟨otherReserved, _⟩
    · rw [renamed, kept, marked]
    · exact absurd otherReserved free

theorem node_ids_iff (name other : String) :
    nodeId name = nodeId other ↔ identifier name = identifier other ∨
      Meets (identifier name) (identifier other) ∨ Meets (identifier other) (identifier name) := by
  constructor
  · intro same
    rcases node_id_cases name with ⟨_, kept⟩ | ⟨reserved, marked⟩
    · rcases node_id_cases other with ⟨_, otherKept⟩ | ⟨otherReserved, otherMarked⟩
      · exact .inl (by rw [← kept, same, otherKept])
      · exact .inr (.inr ⟨otherReserved, by rw [← kept, same, otherMarked]⟩)
    · rcases node_id_cases other with ⟨_, otherKept⟩ | ⟨_, otherMarked⟩
      · exact .inr (.inl ⟨reserved, by rw [← otherKept, ← same, marked]⟩)
      · rw [marked, otherMarked, String.append_left_inj] at same
        exact .inl same
  · rintro (same | meets | meets)
    · rw [nodeId, nodeId, same]
    · exact node_ids_met name other meets
    · exact (node_ids_met other name meets).symm

/-- Two names are one node exactly when they are one identifier, or a reserved word and that word with
its mark, and no node is called by a reserved word. So entities whose blocks have different names
are one node only if these names are a reserved word and its marked form. -/
theorem node_ids_follow_identifiers :
    (∀ name other, nodeId name = nodeId other ↔ identifier name = identifier other ∨
      Meets (identifier name) (identifier other) ∨ Meets (identifier other) (identifier name)) ∧
    (∀ name, Word (nodeId name).toList ∧ nodeId name ∉ reservedIds) ∧
    ∀ analysis, ∀ entity ∈ ClassDiagram.classifiers analysis,
      ∀ other ∈ ClassDiagram.classifiers analysis,
        (ClassDiagram.blockOf entity).name ≠ (ClassDiagram.blockOf other).name →
          (nodeOf entity).id = (nodeOf other).id →
            Meets (ClassDiagram.blockOf entity).name (ClassDiagram.blockOf other).name ∨
              Meets (ClassDiagram.blockOf other).name (ClassDiagram.blockOf entity).name := by
  refine ⟨node_ids_iff, fun name => ⟨node_id_word name, node_id_free name⟩, ?_⟩
  intro analysis entity _ other _ separate merged
  rw [node_spelled, node_spelled] at merged
  exact ((node_ids_iff entity.name other.name).mp merged).resolve_left separate

/-- A class and an interface of these names. -/
def pairOf (name other : String) : Analysis :=
  .ofParts [.named .objectClass name, .named .interface other] []

theorem node_ids_follow_identifiers_reserved :
    nodeId "a.b" = nodeId "a-b" ∧ nodeId "END" ≠ nodeId "end" ∧ nodeId "end." ∉ reservedIds ∧
      (Meets "end" "end_" ∨ Meets "end_" "end") := by
  obtain ⟨same, words, separate⟩ := node_ids_follow_identifiers
  have first : .named .objectClass "end" ∈ ClassDiagram.classifiers (pairOf "end" "end.") :=
    List.mem_cons_self
  have second : .named .interface "end." ∈ ClassDiagram.classifiers (pairOf "end" "end.") :=
    List.mem_cons_of_mem _ List.mem_cons_self
  exact ⟨(same "a.b" "a-b").mpr (by decide), mt (same "END" "end").mp (by decide),
    (words "end.").2, separate _ _ first _ second (by decide) (by decide)⟩

def reservedSource : String := "class end \x7b\x7d\nclass end_ \x7b\x7d\n"

/-- Two classes with a block each are drawn as nodes of one name. -/
theorem reserved_word_merged :
    let analysis := analyzeTree {} "typescript" reservedSource
      (TypeScript.parse .typescript reservedSource)
    (ClassDiagram.classifiers analysis).map (fun entity => (ClassDiagram.blockOf entity).name) =
        ["end", "end_"] ∧
      (ClassDiagram.classifiers analysis).map (fun entity => (nodeOf entity).id) =
        ["end_", "end_"] ∧
      ¬ ∀ name other, nodeId name = nodeId other ↔ identifier name = identifier other := by
  refine ⟨by decide +kernel, by decide +kernel, ?_⟩
  intro same
  exact absurd ((same "end" "end_").mp (by decide)) (by decide)

end SourceAtlas.Flowchart
