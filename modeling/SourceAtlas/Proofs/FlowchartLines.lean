import Mathlib.Data.List.Basic
import SourceAtlas.Proofs.DrawnLines

/-!
The lines of a flowchart. Labels may hold brackets, quotes and line breaks of their own. A node is
still told from an edge by the character behind its name: a bracket here, a blank there.
-/

open SourceAtlas.Text

namespace SourceAtlas.Flowchart

theorem node_id_word (name : String) : Word (nodeId name).toList := by
  have word := identifier_word name
  simp only [nodeId]
  split
  · have suffix : Word "_".toList := by decide
    rw [String.toList_append]
    refine ⟨by simp, ?_⟩
    rw [List.forall_mem_append]
    exact ⟨word.2, suffix.2⟩
  · exact word

theorem brackets_start (kind : EntityKind) :
    ∃ c rest, (brackets kind).1.toList = c :: rest ∧ isIdentifierChar c = false ∧ c ≠ ' ' := by
  cases kind
  all_goals exact ⟨_, _, rfl, by decide, by decide⟩

theorem node_reads (entity : Entity) :
    Reads (nodeLine entity)
      (indent.toList ++ ((nodeId entity.name).toList ++ ((brackets entity.kind).1.toList ++
        '"' :: ((label entity.name).toList ++ '"' :: (brackets entity.kind).2.toList)))) := by
  have bracketed : Inline (brackets entity.kind).1.toList ∧
      Inline (brackets entity.kind).2.toList := by
    cases entity.kind <;> exact ⟨by decide, by decide⟩
  have reads := reads_plain [indent, nodeId entity.name, (brackets entity.kind).1, "\"",
    label entity.name, "\"", (brackets entity.kind).2]
    (by simpa using ⟨by decide, word_inline _ (node_id_word entity.name), bracketed.1, by decide,
      label_inline entity.name, by decide, bracketed.2⟩)
  simpa [nodeLine] using reads

def edgeTail (relationship : Relationship) : Line :=
  ((labelText? relationship.label).map fun text => ["|", text, "|"]).getD [] ++
    [" ", nodeId relationship.target]

theorem edge_tail_inline (relationship : Relationship) :
    ∀ piece ∈ edgeTail relationship, Inline piece.toList := by
  rw [edgeTail, List.forall_mem_append]
  constructor
  · cases given : labelText? relationship.label with
    | none => simp
    | some text =>
        have inline := label_written_inline label label_inline _ text given
        simpa using ⟨by decide, inline, by decide⟩
  · simpa using ⟨by decide, word_inline _ (node_id_word relationship.target)⟩

theorem edge_reads (relationship : Relationship) :
    Reads (edgeLine relationship) (edgeBody (nodeId relationship.source)
      (edgeToken relationship.kind) (edgeTail relationship)) := by
  have token : Inline (edgeToken relationship.kind).toList := by
    cases relationship.kind <;> decide
  have reads := edge_body_reads (nodeId relationship.source) (edgeToken relationship.kind)
    (edgeTail relationship) (node_id_word relationship.source) token (edge_tail_inline relationship)
  simpa [edgeLine, edgeTail] using reads

theorem draw_lined (analysis : Analysis) (options : EncodeOptions) :
    (draw analysis options).Lined := by
  simp only [Drawing.Lined, draw, List.forall_mem_append, List.forall_mem_singleton]
  refine ⟨⟨⟨?keyword, titles_lined options⟩, ?nodes⟩, ?edges⟩
  case keyword =>
    refine ⟨"flowchart".toList ++ ' ' :: (options.direction.getD .topBottom).name.toList, ?_⟩
    cases options.direction.getD .topBottom <;> exact ⟨by decide, by decide⟩
  case nodes =>
    intro line member
    obtain ⟨entity, _, same⟩ := List.mem_map.mp member
    subst same
    exact ⟨_, node_reads entity⟩
  case edges =>
    intro line member
    obtain ⟨relationship, _, same⟩ := List.mem_map.mp member
    subst same
    exact ⟨_, edge_reads relationship⟩

/-- A node is recognised by the brackets and quotes around its label. -/
def isNodeLine (line : List Char) : Bool :=
  match leadingWord? line with
  | some (_, rest) => EntityKind.all.any fun kind =>
    let opening := (brackets kind).1.toList ++ ['"']
    opening.isPrefixOf rest &&
      ('"' :: (brackets kind).2.toList).isSuffixOf (rest.drop opening.length)
  | none => false

theorem node_line_iff (line : List Char) :
    isNodeLine line = true ↔
      ∃ kind id text, Word id ∧ line = indent.toList ++ (id ++ ((brackets kind).1.toList ++
        '"' :: (text ++ '"' :: (brackets kind).2.toList))) := by
  constructor
  · intro recognised
    unfold isNodeLine at recognised
    split at recognised
    · rename_i word rest found
      obtain ⟨split, isWord, _⟩ := (leading_word_iff line _ _).mp found
      obtain ⟨kind, _, bracketed⟩ := List.any_eq_true.mp recognised
      simp only [Bool.and_eq_true] at bracketed
      obtain ⟨behind, opened⟩ := List.isPrefixOf_iff_prefix.mp bracketed.1
      obtain ⟨text, closed⟩ := List.isSuffixOf_iff_suffix.mp bracketed.2
      rw [← opened, List.drop_left] at closed
      refine ⟨kind, word, text, isWord, ?_⟩
      rw [split, ← opened, ← closed, List.append_assoc, List.singleton_append]
    · cases recognised
  · rintro ⟨kind, id, text, isWord, split⟩
    obtain ⟨c, rest, start, stops, _⟩ := brackets_start kind
    have found : leadingWord? line = some (id, (brackets kind).1.toList ++
        '"' :: (text ++ '"' :: (brackets kind).2.toList)) := by
      rw [split, start]
      exact leading_word_cons id _ c isWord stops
    rw [isNodeLine, found]
    apply List.any_eq_true.mpr
    refine ⟨kind, by cases kind <;> decide, ?_⟩
    have regroup : (brackets kind).1.toList ++ '"' :: (text ++ '"' :: (brackets kind).2.toList) =
        ((brackets kind).1.toList ++ ['"']) ++ (text ++ '"' :: (brackets kind).2.toList) := by
      simp
    rw [regroup]
    simp only [List.drop_left, Bool.and_eq_true]
    exact ⟨List.isPrefixOf_iff_prefix.mpr (List.prefix_append _ _),
      List.isSuffixOf_iff_suffix.mpr (List.suffix_append _ _)⟩

theorem node_is_node (entity : Entity) : isNodeLine (lineBody (nodeLine entity)) = true := by
  rw [reads_body _ _ (node_reads entity)]
  exact (node_line_iff _).mpr ⟨entity.kind, _, _, node_id_word entity.name, rfl⟩

theorem node_not_edge (entity : Entity) :
    isEdgeLine edgeToken (lineBody (nodeLine entity)) = false := by
  obtain ⟨c, rest, start, stops, notSpace⟩ := brackets_start entity.kind
  rw [reads_body _ _ (node_reads entity), start, isEdgeLine, List.cons_append,
    leading_word_cons _ _ c (node_id_word entity.name) stops]
  simp [List.isPrefixOf, Ne.symm notSpace]

theorem edge_is_edge (relationship : Relationship) :
    isEdgeLine edgeToken (lineBody (edgeLine relationship)) = true := by
  rw [reads_body _ _ (edge_reads relationship)]
  exact edge_body_is_edge edgeToken relationship.kind _ _ (node_id_word relationship.source)

/-- What follows the first word decides: a node's is followed by a bracket. -/
theorem not_node_of_follower (word rest : List Char) (c : Char) (isWord : Word word)
    (stops : isIdentifierChar c = false)
    (noBracket : ∀ kind, (brackets kind).1.toList.head? ≠ some c) :
    isNodeLine (indent.toList ++ (word ++ c :: rest)) = false := by
  rw [isNodeLine, leading_word_cons word rest c isWord stops]
  apply List.any_eq_false.mpr
  intro kind _ found
  obtain ⟨first, more, start, _, _⟩ := brackets_start kind
  have other := noBracket kind
  rw [start] at other found
  simp only [List.head?_cons, ne_eq, Option.some.injEq] at other
  simp [List.isPrefixOf, other] at found

theorem edge_not_node (relationship : Relationship) :
    isNodeLine (lineBody (edgeLine relationship)) = false := by
  rw [reads_body _ _ (edge_reads relationship)]
  apply not_node_of_follower _ _ ' ' (node_id_word relationship.source) (by decide)
  intro kind
  cases kind <;> decide

/-- The line that opens a flowchart. -/
def openingLine (options : EncodeOptions) : Line :=
  [DiagramType.flowchart.keyword, " ", (options.direction.getD .topBottom).name, "\n"]

theorem heading_plain (options : EncodeOptions) :
    ∀ line ∈ [openingLine options] ++ titleLines options,
      isNodeLine (lineBody line) = false ∧ isEdgeLine edgeToken (lineBody line) = false := by
  rw [List.forall_mem_append, List.forall_mem_singleton]
  constructor
  · unfold openingLine
    cases options.direction.getD .topBottom <;> exact ⟨by decide, by decide⟩
  · intro line member
    refine ⟨?_, titles_not_edge edgeToken options line member⟩
    obtain ⟨title, _, same⟩ := List.mem_map.mp member
    subst same
    rw [reads_body _ _ (title_reads title)]
    apply not_node_of_follower _ _ ':' (by decide) (by decide)
    intro kind
    cases kind <;> decide

theorem draw_nodes (analysis : Analysis) (options : EncodeOptions) :
    (draw analysis options).nodeCount =
      (draw analysis options).lines.countP (fun line => isNodeLine (lineBody line)) := by
  have heading := plain_not_counted isNodeLine _
    fun line member => (heading_plain options line member).1
  have nodes : (analysis.entities.map nodeLine).countP
      (fun line => isNodeLine (lineBody line)) = analysis.entities.length := by
    simp [List.countP_map, Function.comp_def, node_is_node]
  have edges : (analysis.relationships.map edgeLine).countP
      (fun line => isNodeLine (lineBody line)) = 0 := by
    simp [List.countP_map, Function.comp_def, edge_not_node]
  simp only [openingLine] at heading
  simp only [draw]
  rw [List.countP_append, List.countP_append, heading, nodes, edges, Nat.zero_add, Nat.add_zero]

def diagramLength (analysis : Analysis) (options : EncodeOptions) : Nat :=
  1 + (if options.effectiveTitle.isSome then 1 else 0) + analysis.entities.length +
    analysis.relationships.length

theorem draw_length (analysis : Analysis) (options : EncodeOptions) :
    (draw analysis options).lines.length = diagramLength analysis options := by
  simp only [draw, diagramLength, List.length_append, List.length_singleton, List.length_map,
    titles_length]

theorem front_not_edge (analysis : Analysis) (options : EncodeOptions) :
    ∀ line ∈ [openingLine options] ++ titleLines options ++ analysis.entities.map nodeLine,
      isEdgeLine edgeToken (lineBody line) = false := by
  rw [List.forall_mem_append]
  constructor
  · intro line member
    exact (heading_plain options line member).2
  · intro line member
    obtain ⟨entity, _, same⟩ := List.mem_map.mp member
    subst same
    exact node_not_edge entity

theorem draw_itemized (analysis : Analysis) (options : EncodeOptions) :
    Itemized { text := (draw analysis options).text
               metadata := Encoder.flowchart.metadataOf (draw analysis options) }
      (diagramLength analysis options) isNodeLine (isEdgeLine edgeToken)
      (analysis.relationships.map fun relationship => lineBody (edgeLine relationship)) := by
  have after : ∀ line ∈ analysis.relationships.map edgeLine,
      isEdgeLine edgeToken (lineBody line) = true := by
    simpa using fun relationship _ => edge_is_edge relationship
  have itemized := drawing_itemized .flowchart (draw analysis options) (draw_lined analysis options)
    isNodeLine (isEdgeLine edgeToken) _ (analysis.relationships.map edgeLine) rfl (by simp)
    (draw_nodes analysis options) (by simp [draw]) (front_not_edge analysis options) after
  rw [draw_length, List.map_map] at itemized
  exact itemized

end SourceAtlas.Flowchart
