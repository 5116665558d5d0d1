import Mathlib.Data.List.Basic
import SourceAtlas.Diagram.Encoder

/-!
Writing on a sheet with little room. Pieces are written one after the other, and the first one that
does not fit ends the writing. A drawing therefore lands on the sheet whole, or a beginning of it
does, and which of the two happens depends on the room and on nothing else.
-/

namespace SourceAtlas

namespace Writing

theorem piece_run (text : String) (sheet : Sheet) :
    (piece text).run sheet =
      if sheet.fits text then (some (), { sheet with written := sheet.written ++ text })
      else (none, sheet) := by
  change (if sheet.fits text then _ else failure : Writing Unit).run sheet = _
  split <;> rfl

-- What has broken off is not gone on with.
theorem next_run {Result : Type} (first : Writing Unit) (next : Writing Result) (sheet : Sheet) :
    (first >>= fun _ => next).run sheet =
      match first.run sheet with
      | (some (), written) => next.run written
      | (none, written) => (none, written) := by
  rw [OptionT.run_bind]
  change StateT.run (Option.elimM first.run (pure none) fun _ => next.run) sheet = _
  rw [Option.elimM, StateT.run_bind]
  change (Option.elim (first.run sheet).1 (pure none) fun _ => next.run) (first.run sheet).2 = _
  rcases first.run sheet with ⟨_ | _, written⟩ <;> rfl

theorem pieces_run (text : String) (rest : List String) (sheet : Sheet) :
    (pieces (text :: rest)).run sheet =
      if sheet.fits text then
        (pieces rest).run { sheet with written := sheet.written ++ text }
      else (none, sheet) := by
  change (piece text >>= fun _ => pieces rest).run sheet = _
  rw [next_run, piece_run]
  by_cases fits : sheet.fits text = true
  · rw [if_pos fits, if_pos fits]
  · rw [if_neg fits, if_neg fits]

theorem pieces_unlimited (written : String) (texts : List String) :
    (pieces texts).run { room := none, written } =
      (some (), { room := none, written := written ++ String.join texts }) := by
  induction texts generalizing written with
  | nil =>
      rw [String.join_nil, String.append_empty]
      rfl
  | cons text rest ih =>
      have fits : Sheet.fits { room := none, written } text = true := rfl
      rw [pieces_run, if_pos fits, ih, String.join_cons, String.append_assoc]

theorem pieces_whole (room : Nat) (written : String) (texts : List String)
    (enough : written.utf8ByteSize + (String.join texts).utf8ByteSize ≤ room) :
    (pieces texts).run { room := some room, written } =
      (some (), { room := some room, written := written ++ String.join texts }) := by
  induction texts generalizing written with
  | nil =>
      rw [String.join_nil, String.append_empty]
      rfl
  | cons text rest ih =>
      rw [String.join_cons, String.utf8ByteSize_append] at enough
      have textFits : Sheet.fits { room := some room, written } text = true := by
        simp only [Sheet.fits, Option.all_some, decide_eq_true_eq]
        omega
      have restFits : (written ++ text).utf8ByteSize + (String.join rest).utf8ByteSize ≤ room := by
        rw [String.utf8ByteSize_append]
        omega
      rw [pieces_run, if_pos textFits, ih _ restFits, String.join_cons, String.append_assoc]

/-- Too little room: what stays on the sheet are the pieces in front of the first one that does not
fit, and nothing is written behind it. -/
theorem pieces_cut (room : Nat) (written : String) (texts : List String)
    (within : written.utf8ByteSize ≤ room)
    (short : room < written.utf8ByteSize + (String.join texts).utf8ByteSize) :
    ∃ kept text rest, texts = kept ++ text :: rest ∧
      (pieces texts).run { room := some room, written } =
        (none, { room := some room, written := written ++ String.join kept }) ∧
      (written ++ String.join kept).utf8ByteSize ≤ room ∧
      room < (written ++ String.join kept).utf8ByteSize + text.utf8ByteSize := by
  induction texts generalizing written with
  | nil =>
      rw [String.join_nil, String.utf8ByteSize_empty] at short
      omega
  | cons text rest ih =>
      by_cases roomLeft : written.utf8ByteSize + text.utf8ByteSize ≤ room
      · have textFits : Sheet.fits { room := some room, written } text = true := by
          simpa [Sheet.fits] using roomLeft
        rw [String.join_cons, String.utf8ByteSize_append] at short
        obtain ⟨kept, cut, behind, split, result, held, beyond⟩ := ih (written ++ text)
          (by rw [String.utf8ByteSize_append]; exact roomLeft)
          (by rw [String.utf8ByteSize_append]; omega)
        refine ⟨text :: kept, cut, behind, by rw [split]; rfl, ?_, ?_, ?_⟩
        · rw [pieces_run, if_pos textFits, result, String.join_cons, String.append_assoc]
        · rwa [String.join_cons, ← String.append_assoc]
        · rwa [String.join_cons, ← String.append_assoc]
      · have textCut : ¬ Sheet.fits { room := some room, written } text = true := by
          simpa [Sheet.fits] using Nat.lt_of_not_le roomLeft
        refine ⟨[], text, rest, rfl, ?_, ?_, ?_⟩
        · rw [pieces_run, if_neg textCut, String.join_nil, String.append_empty]
        · simpa using within
        · simpa using Nat.lt_of_not_le roomLeft

end Writing

namespace Encoder

theorem encode_refuses (encoder : Encoder) (sheet : Sheet) (analysis : Analysis)
    (options : EncodeOptions) (other : options.diagramType ≠ encoder.diagramType) :
    encoder.encodeOn sheet analysis options =
      (.error (.invalidDiagramType options.diagramType encoder.diagramType.name), sheet) := by
  simp [encodeOn, other]

/-- The counts of a drawing, as they are reported beside its text. -/
def metadataOf (encoder : Encoder) (drawing : Drawing) : DiagramMetadata :=
  { nodeCount := drawing.nodeCount, edgeCount := drawing.edgeCount
    diagramType := encoder.diagramType }

/-- Writing a diagram is writing the pieces of its drawing, which alone can break off. -/
theorem encode_on_drawing (encoder : Encoder) (sheet : Sheet) (analysis : Analysis)
    (options : EncodeOptions) (own : options.diagramType = encoder.diagramType) :
    encoder.encodeOn sheet analysis options =
      match (Writing.pieces (encoder.draw analysis options).pieces).run sheet with
      | (some (), written) => (.ok (encoder.metadataOf (encoder.draw analysis options)), written)
      | (none, written) => (.error (.unwritten encoder.failureCode analysis), written) := by
  rw [encodeOn, if_pos own, encoder.drawn, Drawing.write, Writing.next_run]
  rcases (Writing.pieces (encoder.draw analysis options).pieces).run sheet with ⟨_ | _, written⟩
  · rfl
  · rfl

theorem encode_whole (encoder : Encoder) (analysis : Analysis) (options : EncodeOptions)
    (own : options.diagramType = encoder.diagramType) :
    encoder.encode analysis options =
      .ok { text := (encoder.draw analysis options).text
            metadata := encoder.metadataOf (encoder.draw analysis options) } := by
  rw [encode, encodeWithin, encode_on_drawing encoder _ analysis options own,
    Writing.pieces_unlimited, String.empty_append]
  rfl

/-- What an encoder of one type, whose failures carry one code, does with a sheet of some room. -/
structure WritesWithin (encoder : Encoder) (type : DiagramType) (code : String)
    (analysis : Analysis) (options : EncodeOptions) (room : Nat) : Prop where
  refused : options.diagramType ≠ type →
    encoder.encodeOn { room := some room } analysis options =
      (.error (.invalidDiagramType options.diagramType type.name),
        { room := some room, written := "" })
  whole : options.diagramType = type →
    ∃ diagram, encoder.encode analysis options = .ok diagram ∧
      ((∃ metadata, (encoder.encodeOn { room := some room } analysis options).1 = .ok metadata) ↔
        diagram.text.utf8ByteSize ≤ room) ∧
      (diagram.text.utf8ByteSize ≤ room →
        encoder.encodeOn { room := some room } analysis options =
          (.ok diagram.metadata, { room := some room, written := diagram.text })) ∧
      (room < diagram.text.utf8ByteSize →
        ∃ beginning rest, diagram.text = beginning ++ rest ∧ beginning.utf8ByteSize ≤ room ∧
          encoder.encodeOn { room := some room } analysis options =
            (.error (.unwritten code analysis), { room := some room, written := beginning }))
  unlimited : ∀ diagram, encoder.encode analysis options = .ok diagram →
    diagram.text = (encoder.draw analysis options).text
  written : ∀ reason snapshot, encoder.encode analysis options ≠ .error (.unwritten reason snapshot)

theorem encode_on_whole (encoder : Encoder) (analysis : Analysis) (options : EncodeOptions)
    (room : Nat) (own : options.diagramType = encoder.diagramType)
    (enough : (encoder.draw analysis options).text.utf8ByteSize ≤ room) :
    encoder.encodeOn { room := some room } analysis options =
      (.ok (encoder.metadataOf (encoder.draw analysis options)),
        { room := some room, written := (encoder.draw analysis options).text }) := by
  rw [encode_on_drawing encoder _ analysis options own,
    Writing.pieces_whole room "" _ (by simpa [Drawing.text] using enough), String.empty_append]
  rfl

theorem encode_on_cut (encoder : Encoder) (analysis : Analysis) (options : EncodeOptions)
    (room : Nat) (own : options.diagramType = encoder.diagramType)
    (short : room < (encoder.draw analysis options).text.utf8ByteSize) :
    ∃ beginning rest, (encoder.draw analysis options).text = beginning ++ rest ∧
      beginning.utf8ByteSize ≤ room ∧
      encoder.encodeOn { room := some room } analysis options =
        (.error (.unwritten encoder.failureCode analysis),
          { room := some room, written := beginning }) := by
  obtain ⟨kept, piece, rest, split, result, held, _⟩ :=
    Writing.pieces_cut room "" (encoder.draw analysis options).pieces (by simp)
      (by simpa [Drawing.text] using short)
  rw [String.empty_append] at held result
  refine ⟨String.join kept, String.join (piece :: rest), ?_, held, ?_⟩
  · rw [Drawing.text, split, String.join_append]
  · rw [encode_on_drawing encoder _ analysis options own, result]

theorem writes_within (encoder : Encoder) (analysis : Analysis) (options : EncodeOptions)
    (room : Nat) :
    WritesWithin encoder encoder.diagramType encoder.failureCode analysis options room where
  refused other := encode_refuses encoder _ analysis options other
  whole own := by
    refine ⟨_, encode_whole encoder analysis options own, ⟨?_, ?_⟩,
      encode_on_whole encoder analysis options room own,
      encode_on_cut encoder analysis options room own⟩
    · rintro ⟨metadata, succeeded⟩
      apply Nat.le_of_not_lt
      intro short
      obtain ⟨_, _, _, _, failed⟩ := encode_on_cut encoder analysis options room own short
      rw [failed] at succeeded
      cases succeeded
    · intro enough
      exact ⟨_, congrArg Prod.fst (encode_on_whole encoder analysis options room own enough)⟩
  unlimited diagram succeeded := by
    by_cases own : options.diagramType = encoder.diagramType
    · rw [encode_whole encoder analysis options own] at succeeded
      cases succeeded
      rfl
    · simp [encode, encodeWithin, encode_refuses encoder _ analysis options own] at succeeded
  written reason snapshot failed := by
    by_cases own : options.diagramType = encoder.diagramType
    · rw [encode_whole encoder analysis options own] at failed
      cases failed
    · simp [encode, encodeWithin, encode_refuses encoder _ analysis options own] at failed

theorem encoders_write_within (analysis : Analysis) (options : EncodeOptions) (room : Nat) :
    WritesWithin .classes .classes "CLASS_DIAGRAM_GENERATION_ERROR" analysis options room ∧
      WritesWithin .flowchart .flowchart "FLOWCHART_GENERATION_ERROR" analysis options room :=
  ⟨writes_within .classes analysis options room, writes_within .flowchart analysis options room⟩

end Encoder

end SourceAtlas
