import Mathlib.Data.List.Induction
import Mathlib.Data.List.Nodup
import SourceAtlas.Diagram.Catalogue
import SourceAtlas.Proofs.SheetWriting

/-!
Catalogues along their histories. A catalogue starts empty and goes through operations of five
sorts, two of which start it afresh and two of which only ask it something. Which encoder answers
for a type is read off the history: the last one installed for that type, unless the catalogue was
started afresh behind it.
-/

namespace SourceAtlas.Catalogue

inductive Operation where
  | new
  | default
  | register (encoder : Encoder)
  | has (type : DiagramType)
  | encode (analysis : Analysis) (options : EncodeOptions)

namespace Operation

/-- Whether nothing that was registered before survives the operation. -/
def resets : Operation → Bool
  | new => true
  | default => true
  | _ => false

def installs : Operation → List Encoder
  | default => [.classes, .flowchart]
  | register encoder => [encoder]
  | _ => []

def isQuery : Operation → Bool
  | has _ => true
  | encode _ _ => true
  | _ => false

end Operation

/-- What an operation answers. All that change the catalogue report the types it then supports. -/
inductive Answer where
  | types (supported : List DiagramType)
  | presence (present : Bool)
  | diagram (result : Except GenerationError EncodedDiagram)

def after (catalogue : Catalogue) : Operation → Catalogue
  | .new => empty
  | .default => standard
  | .register encoder => catalogue.register encoder
  | .has _ => catalogue
  | .encode _ _ => catalogue

def answer (catalogue : Catalogue) : Operation → Answer
  | .has type => .presence (catalogue.has type)
  | .encode analysis options => .diagram (catalogue.encode analysis options)
  | operation => .types (catalogue.after operation).supported

def replay (history : List Operation) : Catalogue :=
  history.foldl after empty

def answers : Catalogue → List Operation → List Answer
  | _, [] => []
  | catalogue, operation :: rest =>
    catalogue.answer operation :: answers (catalogue.after operation) rest

/-- Some operation of the history is a hit, and every operation behind it is of the kept sort. -/
def Since (kept hit : Operation → Prop) (history : List Operation) : Prop :=
  ∃ before operation later, history = before ++ operation :: later ∧ hit operation ∧
    ∀ next ∈ later, kept next

/-- An encoder of the type was installed, and the catalogue was not started afresh since. -/
def Registered (type : DiagramType) : List Operation → Prop :=
  Since (fun operation => operation.resets = false)
    fun operation => ∃ encoder ∈ operation.installs, encoder.diagramType = type

/-- The encoder was installed for the type, and since then neither was another one installed for it
nor was the catalogue started afresh. -/
def Current (type : DiagramType) (encoder : Encoder) : List Operation → Prop :=
  Since (fun operation => operation.resets = false ∧
      ∀ other ∈ operation.installs, other.diagramType ≠ type)
    fun operation => encoder ∈ operation.installs ∧ encoder.diagramType = type

theorem since_empty (kept hit : Operation → Prop) : ¬ Since kept hit [] := by
  rintro ⟨before, operation, later, split, _⟩
  simp at split

theorem since_append (kept hit : Operation → Prop) (history : List Operation)
    (operation : Operation) :
    Since kept hit (history ++ [operation]) ↔
      hit operation ∨ (kept operation ∧ Since kept hit history) := by
  constructor
  · rintro ⟨before, found, later, split, hitting, quiet⟩
    -- The hit is the last operation, or the last operation comes after it.
    rcases List.eq_nil_or_concat later with none | ⟨earlier, last, more⟩
    · subst none
      obtain ⟨-, same⟩ := List.append_inj' split rfl
      cases same
      exact Or.inl hitting
    · subst more
      rw [List.concat_eq_append, ← List.cons_append, ← List.append_assoc] at split
      obtain ⟨front, same⟩ := List.append_inj' split rfl
      cases same
      refine Or.inr ⟨quiet operation (by simp), before, found, earlier, front, hitting, ?_⟩
      intro next member
      exact quiet next (by simp [member])
  · rintro (hitting | ⟨keeps, before, found, later, split, hitting, quiet⟩)
    · exact ⟨history, operation, [], rfl, hitting, by simp⟩
    · refine ⟨before, found, later ++ [operation], by simp [split], hitting, ?_⟩
      intro next member
      rcases List.mem_append.mp member with early | last
      · exact quiet next early
      · rw [List.mem_singleton.mp last]
        exact keeps

theorem encoder_register (catalogue : Catalogue) (added : Encoder) (type : DiagramType) :
    (catalogue.register added).encoder? type =
      if added.diagramType = type then some added else catalogue.encoder? type := by
  by_cases own : added.diagramType = type
  · simp [encoder?, register, own]
  · simp [encoder?, register, own]

theorem encoder_standard (type : DiagramType) (encoder : Encoder) :
    standard.encoder? type = some encoder ↔
      encoder ∈ Operation.default.installs ∧ encoder.diagramType = type := by
  rw [standard, encoder_register, encoder_register]
  constructor
  · intro found
    split at found
    · next own =>
        cases found
        exact ⟨by simp [Operation.installs], own⟩
    · split at found
      · next own =>
          cases found
          exact ⟨by simp [Operation.installs], own⟩
      · cases found
  · rintro ⟨installed, own⟩
    rcases List.mem_cons.mp installed with first | second
    · subst first own
      rfl
    · rw [List.mem_singleton.mp second] at own ⊢
      subst own
      rfl

/-- What one operation leaves in charge of a type: what it installs for the type, or else what was
in charge before, unless the operation starts afresh. -/
theorem encoder_after (catalogue : Catalogue) (operation : Operation) (type : DiagramType)
    (encoder : Encoder) :
    (catalogue.after operation).encoder? type = some encoder ↔
      (encoder ∈ operation.installs ∧ encoder.diagramType = type) ∨
        ((operation.resets = false ∧ ∀ other ∈ operation.installs, other.diagramType ≠ type) ∧
          catalogue.encoder? type = some encoder) := by
  cases operation with
  | new => simp [after, Operation.installs, Operation.resets, empty, encoder?]
  | default => simp [after, encoder_standard, Operation.resets]
  | register added =>
      by_cases own : added.diagramType = type
      · simp only [after, encoder_register, own, ↓reduceIte, Option.some.injEq, Operation.installs,
          List.mem_singleton, forall_eq, ne_eq, not_true_eq_false, and_false, false_and, or_false]
        constructor
        · intro same
          exact ⟨same.symm, same ▸ own⟩
        · intro installed
          exact installed.1.symm
      · simp only [after, encoder_register, own, ↓reduceIte, Operation.installs,
          List.mem_singleton, forall_eq, Operation.resets, true_and, ne_eq, not_false_eq_true]
        constructor
        · exact Or.inr
        · rintro (⟨same, other⟩ | before)
          · exact absurd (same ▸ other) own
          · exact before
  | has asked => simp [after, Operation.installs, Operation.resets]
  | encode analysis options => simp [after, Operation.installs, Operation.resets]

theorem mem_supported (catalogue : Catalogue) (type : DiagramType) :
    type ∈ catalogue.supported ↔ ∃ encoder, catalogue.encoder? type = some encoder := by
  have listed : type ∈ DiagramType.all := by cases type <;> decide
  simp [supported, has, listed, Option.isSome_iff_exists]

theorem supported_after (catalogue : Catalogue) (operation : Operation) (type : DiagramType) :
    type ∈ (catalogue.after operation).supported ↔
      (∃ encoder ∈ operation.installs, encoder.diagramType = type) ∨
        (operation.resets = false ∧ type ∈ catalogue.supported) := by
  simp only [mem_supported, encoder_after]
  by_cases installed : ∃ encoder ∈ operation.installs, encoder.diagramType = type
  · simp only [installed, true_or, iff_true]
    obtain ⟨encoder, member, own⟩ := installed
    exact ⟨encoder, Or.inl ⟨member, own⟩⟩
  · have others : ∀ other ∈ operation.installs, other.diagramType ≠ type := by
      intro other member own
      exact installed ⟨other, member, own⟩
    constructor
    · rintro ⟨encoder, ⟨member, own⟩ | ⟨⟨keeps, _⟩, found⟩⟩
      · exact absurd own (others encoder member)
      · exact Or.inr ⟨keeps, encoder, found⟩
    · rintro (present | ⟨keeps, encoder, found⟩)
      · exact absurd present installed
      · exact ⟨encoder, Or.inr ⟨⟨keeps, others⟩, found⟩⟩

theorem replay_append (history : List Operation) (operation : Operation) :
    replay (history ++ [operation]) = (replay history).after operation := by
  simp [replay]

/-- The catalogue behind a history holds for each type the encoder that is current there. -/
theorem encoder_replay (history : List Operation) (type : DiagramType) (encoder : Encoder) :
    (replay history).encoder? type = some encoder ↔ Current type encoder history := by
  induction history using List.reverseRecOn with
  | nil =>
      constructor
      · intro found
        cases found
      · intro current
        exact absurd current (since_empty _ _)
  | append_singleton history operation ih =>
      rw [replay_append, encoder_after, Current, since_append, ih]
      rfl

theorem supported_replay (history : List Operation) (type : DiagramType) :
    type ∈ (replay history).supported ↔ Registered type history := by
  induction history using List.reverseRecOn with
  | nil =>
      constructor
      · intro found
        cases found
      · intro registered
        exact absurd registered (since_empty _ _)
  | append_singleton history operation ih =>
      rw [replay_append, supported_after, Registered, since_append, ih]
      rfl

theorem supported_nodup (catalogue : Catalogue) : catalogue.supported.Nodup :=
  List.Nodup.filter _ (by decide)

theorem encoder_own_type (catalogue : Catalogue) (type : DiagramType) (encoder : Encoder)
    (found : catalogue.encoder? type = some encoder) : encoder.diagramType = type := by
  have matched := List.find?_some found
  exact beq_iff_eq.mp matched

/-- An encoder stands under the type that it accepts, so it never refuses what it is given. -/
theorem encode_found (catalogue : Catalogue) (analysis : Analysis) (options : EncodeOptions)
    (encoder : Encoder) (found : catalogue.encoder? options.diagramType = some encoder) :
    ∃ diagram, encoder.encode analysis options = .ok diagram ∧
      catalogue.encode analysis options = .ok diagram := by
  have own := encoder_own_type catalogue _ encoder found
  refine ⟨_, encoder.encode_whole analysis options own.symm, ?_⟩
  rw [encode, found]
  exact encoder.encode_whole analysis options own.symm

theorem encode_missing (catalogue : Catalogue) (analysis : Analysis) (options : EncodeOptions)
    (missing : options.diagramType ∉ catalogue.supported) :
    catalogue.encode analysis options =
      .error (.invalidDiagramType options.diagramType
        (", ".intercalate (catalogue.supported.map DiagramType.name))) := by
  cases found : catalogue.encoder? options.diagramType with
  | none => rw [encode, found]; rfl
  | some encoder => exact absurd ((mem_supported catalogue _).mpr ⟨encoder, found⟩) missing

theorem query_after (catalogue : Catalogue) (operation : Operation)
    (query : operation.isQuery = true) : catalogue.after operation = catalogue := by
  cases operation with
  | has asked => rfl
  | encode analysis options => rfl
  | _ => cases query

/-- Queries may be left out of a history, wherever they stand and however many they are. -/
theorem replay_queries (history : List Operation) :
    replay history = replay (history.filter fun operation => !operation.isQuery) := by
  induction history using List.reverseRecOn with
  | nil => rfl
  | append_singleton history operation ih =>
      rw [replay_append, List.filter_append]
      by_cases query : operation.isQuery = true
      · rw [query_after _ operation query, ih]
        simp [query]
      · rw [ih, ← replay_append]
        simp [query]

/-- At every point of a history: the supported types are those registered since the catalogue was
last started afresh, each once and in the order of all types; a diagram of a supported type is what
the current encoder itself draws; every other type is refused by the catalogue, and nothing else
fails; and what is asked afterwards is answered as if the catalogue had never been queried before. -/
theorem catalogue_routes_history (history : List Operation) :
    ((replay history).supported.Nodup ∧
      (replay history).supported.Sublist DiagramType.all ∧
      ∀ type, type ∈ (replay history).supported ↔ Registered type history) ∧
    (∀ analysis options, options.diagramType ∈ (replay history).supported →
      ∃ encoder diagram, Current options.diagramType encoder history ∧
        encoder.encode analysis options = .ok diagram ∧
        (replay history).encode analysis options = .ok diagram) ∧
    (∀ analysis options, options.diagramType ∉ (replay history).supported →
      (replay history).encode analysis options =
        .error (.invalidDiagramType options.diagramType
          (", ".intercalate ((replay history).supported.map DiagramType.name)))) ∧
    ∀ later, answers (replay history) later =
      answers (replay (history.filter fun operation => !operation.isQuery)) later := by
  refine ⟨⟨supported_nodup _, List.filter_sublist, supported_replay history⟩, ?_, ?_, ?_⟩
  · intro analysis options supported
    obtain ⟨encoder, found⟩ := (mem_supported _ _).mp supported
    obtain ⟨diagram, drawn, routed⟩ := encode_found _ analysis options encoder found
    exact ⟨encoder, diagram, (encoder_replay history _ encoder).mp found, drawn, routed⟩
  · intro analysis options missing
    exact encode_missing _ analysis options missing
  · intro later
    rw [← replay_queries]

/-- A history that starts afresh without class diagrams, and asks for one all the same. -/
def narrowedHistory : List Operation :=
  [.default, .has .classes, .new, .register .flowchart, .encode (.ofParts [] []) {},
    .register .flowchart]

theorem catalogue_routes_history_narrowed :
    (replay narrowedHistory).supported = [.flowchart] ∧
    (∃ encoder diagram, Current .flowchart encoder narrowedHistory ∧
      encoder.encode (.ofParts [] []) { diagramType := .flowchart } = .ok diagram ∧
      (replay narrowedHistory).encode (.ofParts [] []) { diagramType := .flowchart } =
        .ok diagram) ∧
    (replay narrowedHistory).encode (.ofParts [] []) {} =
      .error (.invalidDiagramType .classes "flowchart") := by
  have supported : (replay narrowedHistory).supported = [.flowchart] := by decide
  obtain ⟨-, routed, refused, -⟩ := catalogue_routes_history narrowedHistory
  refine ⟨supported, routed _ { diagramType := .flowchart } (by rw [supported]; decide), ?_⟩
  rw [refused _ {} (by rw [supported]; decide), supported]
  rfl

end SourceAtlas.Catalogue
