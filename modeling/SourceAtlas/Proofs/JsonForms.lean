import Mathlib.Data.Set.List
import Mathlib.Tactic.Tauto
import SourceAtlas.Json.Model
import SourceAtlas.Proofs.JsonVariance

/-!
The JSON forms of all that is exchanged lose nothing. Each type names the keys it knows; an object
may hold others besides, a field that may be missing may be null instead, and the modifiers of an
entity may be listed in any order and more than once. However a value is given within these
bounds, it is read back as it was, and so writing it once more gives its one written form.
-/

open SourceAtlas.Json

namespace SourceAtlas

/-! The keys that each type knows, and the sizes that fit into 64 bits. -/

namespace Position

def variance : Variance := .fields [{ key := "line" }, { key := "column" }]

def Fits (position : Position) : Prop :=
  position.line < UInt64.size ∧ position.column < UInt64.size

end Position

def Property.variance : Variance :=
  .fields [{ key := "name" }, { key := "type" }, { key := "visibility" }, { key := "isStatic" },
    { key := "isReadonly" }]

def Parameter.variance : Variance :=
  .fields [{ key := "name" }, { key := "type" }, { key := "optional" },
    { key := "defaultValue", optional := true }]

def Method.variance : Variance :=
  .fields [{ key := "name" }, { key := "parameters", variance := .each Parameter.variance },
    { key := "returnType" }, { key := "visibility" }, { key := "isStatic" },
    { key := "isAbstract" }]

namespace Entity

def variance : Variance :=
  .fields [{ key := "kind" }, { key := "name" },
    { key := "properties", variance := .each Property.variance },
    { key := "methods", variance := .each Method.variance },
    { key := "position", variance := Position.variance },
    { key := "modifiers", variance := .anyOrder }, { key := "extends" }, { key := "implements" }]

def Fits (entity : Entity) : Prop := entity.position.Fits

end Entity

def Relationship.variance : Variance :=
  .fields [{ key := "type" }, { key := "from" }, { key := "to" },
    { key := "label", optional := true }, { key := "multiplicity", optional := true }]

namespace Import

def variance : Variance :=
  .fields [{ key := "module" }, { key := "names" },
    { key := "position", variance := Position.variance }]

def Fits (imported : Import) : Prop := imported.position.Fits

end Import

namespace AnalysisMetadata

def variance : Variance :=
  .fields [{ key := "language" }, { key := "lineCount" }, { key := "entityCount" },
    { key := "relationshipCount" }, { key := "analysisTimeMs" }]

def Fits (metadata : AnalysisMetadata) : Prop :=
  metadata.lineCount < UInt64.size ∧ metadata.entityCount < UInt64.size ∧
    metadata.relationshipCount < UInt64.size ∧ metadata.elapsedMs < UInt64.size

end AnalysisMetadata

namespace Analysis

def variance : Variance :=
  .fields [{ key := "entities", variance := .each Entity.variance },
    { key := "relationships", variance := .each Relationship.variance },
    { key := "imports", variance := .each Import.variance }, { key := "exports" },
    { key := "metadata", variance := AnalysisMetadata.variance }]

def Fits (analysis : Analysis) : Prop :=
  (∀ entity ∈ analysis.entities, entity.Fits) ∧ (∀ imported ∈ analysis.imports, imported.Fits) ∧
    analysis.metadata.Fits

end Analysis

namespace AnalysisOptions

def variance : Variance :=
  .fields [{ key := "includePrivate" }, { key := "includeComments" }, { key := "maxDepth" }]

def Fits (options : AnalysisOptions) : Prop := options.maxDepth < UInt64.size

end AnalysisOptions

def EncodeOptions.variance : Variance :=
  .fields [{ key := "diagramType" }, { key := "direction", optional := true },
    { key := "includeTitle" }, { key := "title", optional := true }]

namespace DiagramMetadata

def variance : Variance :=
  .fields [{ key := "nodeCount" }, { key := "edgeCount" }, { key := "generationTimeMs" },
    { key := "diagramType" }]

def Fits (metadata : DiagramMetadata) : Prop :=
  metadata.nodeCount < UInt64.size ∧ metadata.edgeCount < UInt64.size ∧
    metadata.elapsedMs < UInt64.size

end DiagramMetadata

namespace EncodedDiagram

def variance : Variance :=
  .fields [{ key := "diagramText" }, { key := "metadata", variance := DiagramMetadata.variance }]

def Fits (diagram : EncodedDiagram) : Prop := diagram.metadata.Fits

end EncodedDiagram

/-! Names are read back as what they name. -/

theorem Visibility.of_name (visibility : Visibility) :
    ofName? visibility.name = some visibility := by
  cases visibility <;> rfl

theorem Modifier.of_name (modifier : Modifier) : ofName? modifier.keyword = some modifier := by
  cases modifier <;> rfl

theorem EntityKind.of_name (kind : EntityKind) : ofName? kind.name = some kind := by
  cases kind <;> rfl

theorem RelationshipKind.of_name (kind : RelationshipKind) : ofName? kind.name = some kind := by
  cases kind <;> rfl

theorem DiagramType.of_name (type : DiagramType) : ofName? type.name = some type := by
  cases type <;> rfl

theorem Direction.of_name (direction : Direction) : ofName? direction.name = some direction := by
  cases direction <;> rfl

/-! Records. Each reads its fields one by one, and each field as the field's own type reads it. -/

theorem position_read (position : Position) (fits : position.Fits) :
    ReadAs Position.variance Position.ofJson? position.toJson position := by
  intro given allowed
  simp only [Position.variance, Variance.fields, List.forall_mem_cons] at allowed
  obtain ⟨line, column, _⟩ := allowed
  have line := require_read line rfl (size_read _ fits.1)
  have column := require_read column rfl (size_read _ fits.2)
  simp only [Position.ofJson?, line, column]
  rfl

theorem property_read (property : Property) :
    ReadAs Property.variance Property.ofJson? property.toJson property := by
  intro given allowed
  simp only [Property.variance, Variance.fields, List.forall_mem_cons] at allowed
  obtain ⟨name, type, visibility, isStatic, isReadonly, _⟩ := allowed
  have name := require_read name rfl (string_read _)
  have type := require_read type rfl (string_read _)
  have visibility := require_read visibility rfl (named_read Visibility.of_name _)
  have isStatic := require_read isStatic rfl (bool_read _)
  have isReadonly := require_read isReadonly rfl (bool_read _)
  simp only [Property.ofJson?, name, type, visibility, isStatic, isReadonly]
  rfl

theorem default_value (parameter : Parameter) :
    FieldRule.value? { key := "defaultValue", optional := true } parameter.toJson =
      parameter.defaultValue.map .string := by
  rcases parameter with ⟨_, _, _, _ | _⟩ <;> rfl

theorem parameter_read (parameter : Parameter) :
    ReadAs Parameter.variance Parameter.ofJson? parameter.toJson parameter := by
  intro given allowed
  simp only [Parameter.variance, Variance.fields, List.forall_mem_cons] at allowed
  obtain ⟨name, type, optional, defaultValue, _⟩ := allowed
  have name := require_read name rfl (string_read _)
  have type := require_read type rfl (string_read _)
  have optional := require_read optional rfl (bool_read _)
  have defaultValue := allow_read defaultValue (default_value parameter) string_read
  simp only [Parameter.ofJson?, name, type, optional, defaultValue]
  rfl

theorem method_read (method : Method) :
    ReadAs Method.variance Method.ofJson? method.toJson method := by
  intro given allowed
  simp only [Method.variance, Variance.fields, List.forall_mem_cons] at allowed
  obtain ⟨name, parameters, returnType, visibility, isStatic, isAbstract, _⟩ := allowed
  have name := require_read name rfl (string_read _)
  have parameters := require_read parameters rfl
    (list_read method.parameters fun parameter _ => parameter_read parameter)
  have returnType := require_read returnType rfl (string_read _)
  have visibility := require_read visibility rfl (named_read Visibility.of_name _)
  have isStatic := require_read isStatic rfl (bool_read _)
  have isAbstract := require_read isAbstract rfl (bool_read _)
  simp only [Method.ofJson?, name, parameters, returnType, visibility, isStatic, isAbstract]
  rfl

/-! Modifiers form a set, so only which ones are listed counts. -/

namespace Modifiers

theorem mem_to_list (modifiers : Modifiers) (asked : Modifier) :
    asked ∈ modifiers.toList ↔ modifiers.contains asked = true := by
  have listed : asked ∈ Modifier.all := by cases asked <;> decide
  simp [toList, listed]

theorem eq_of_contains (left right : Modifiers)
    (same : ∀ modifier, left.contains modifier = true ↔ right.contains modifier = true) :
    left = right := by
  have same : ∀ modifier, left.contains modifier = right.contains modifier :=
    fun modifier => Bool.eq_iff_iff.mpr (same modifier)
  cases left
  cases right
  simp only [mk.injEq]
  exact ⟨same .pub, same .priv, same .prot, same .static, same .abstract, same .readonly⟩

end Modifiers

theorem Modifier.keyword_injective : Function.Injective keyword := by
  intro left right same
  have known := Modifier.of_name left
  rw [same, Modifier.of_name] at known
  exact (Option.some.inj known).symm

theorem modifiers_read (modifiers : Modifiers) :
    ReadAs .anyOrder Modifiers.ofJson? modifiers.toJson modifiers := by
  intro given allowed
  cases given with
  | array others =>
      have allowed : ∀ item, item ∈ others ↔
          item ∈ (modifiers.toList.map Modifier.keyword).map Json.string := allowed
      -- Nothing but keywords is listed, so the array is written from some list of modifiers.
      have keywords : others ∈ Set.range (List.map fun modifier : Modifier =>
          Json.string modifier.keyword) := by
        rw [Set.range_list_map]
        intro item member
        have member := (allowed item).mp member
        simp only [List.map_map, List.mem_map, Function.comp_apply] at member
        obtain ⟨modifier, _, same⟩ := member
        exact ⟨modifier, same⟩
      obtain ⟨listed, rfl⟩ := keywords
      have reads : ReadAs (.each .exact) (list? (named? Modifier.ofName?)) _ listed :=
        list_read listed fun modifier _ => named_read Modifier.of_name modifier
      have members : ∀ modifier, modifier ∈ listed ↔ modifiers.contains modifier = true := by
        intro modifier
        have member := allowed (.string modifier.keyword)
        simpa [Modifier.keyword_injective.eq_iff, Modifiers.mem_to_list] using member
      rw [Modifiers.ofJson?, reads _ (Variance.refl _ _), Option.map_some, Option.some.injEq]
      apply Modifiers.eq_of_contains
      intro modifier
      rw [Modifiers.contains_of_list, members]
  | _ => cases allowed

theorem entity_read (entity : Entity) (fits : entity.Fits) :
    ReadAs Entity.variance Entity.ofJson? entity.toJson entity := by
  intro given allowed
  simp only [Entity.variance, Variance.fields, List.forall_mem_cons] at allowed
  obtain ⟨kind, name, properties, methods, position, modifiers, bases, interfaces, _⟩ := allowed
  have kind := require_read kind rfl (named_read EntityKind.of_name _)
  have name := require_read name rfl (string_read _)
  have properties := require_read properties rfl
    (list_read entity.properties fun property _ => property_read property)
  have methods := require_read methods rfl
    (list_read entity.methods fun method _ => method_read method)
  have position := require_read position rfl (position_read _ fits)
  have modifiers := require_read modifiers rfl (modifiers_read _)
  have bases := require_read bases rfl (strings_read _)
  have interfaces := require_read interfaces rfl (strings_read _)
  simp only [Entity.ofJson?, kind, name, properties, methods, position, modifiers, bases,
    interfaces]
  rfl

theorem label_value (relationship : Relationship) :
    FieldRule.value? { key := "label", optional := true } relationship.toJson =
      relationship.label.map .string := by
  rcases relationship with ⟨_, _, _, _ | _, _ | _⟩ <;> rfl

theorem multiplicity_value (relationship : Relationship) :
    FieldRule.value? { key := "multiplicity", optional := true } relationship.toJson =
      relationship.multiplicity.map .string := by
  rcases relationship with ⟨_, _, _, _ | _, _ | _⟩ <;> rfl

theorem relationship_read (relationship : Relationship) :
    ReadAs Relationship.variance Relationship.ofJson? relationship.toJson relationship := by
  intro given allowed
  simp only [Relationship.variance, Variance.fields, List.forall_mem_cons] at allowed
  obtain ⟨kind, source, target, label, multiplicity, _⟩ := allowed
  have kind := require_read kind rfl (named_read RelationshipKind.of_name _)
  have source := require_read source rfl (string_read _)
  have target := require_read target rfl (string_read _)
  have label := allow_read label (label_value relationship) string_read
  have multiplicity := allow_read multiplicity (multiplicity_value relationship) string_read
  simp only [Relationship.ofJson?, kind, source, target, label, multiplicity]
  rfl

theorem import_read (imported : Import) (fits : imported.Fits) :
    ReadAs Import.variance Import.ofJson? imported.toJson imported := by
  intro given allowed
  simp only [Import.variance, Variance.fields, List.forall_mem_cons] at allowed
  obtain ⟨module, names, position, _⟩ := allowed
  have module := require_read module rfl (string_read _)
  have names := require_read names rfl (strings_read _)
  have position := require_read position rfl (position_read _ fits)
  simp only [Import.ofJson?, module, names, position]
  rfl

theorem analysis_metadata_read (metadata : AnalysisMetadata) (fits : metadata.Fits) :
    ReadAs AnalysisMetadata.variance AnalysisMetadata.ofJson? metadata.toJson metadata := by
  intro given allowed
  simp only [AnalysisMetadata.variance, Variance.fields, List.forall_mem_cons] at allowed
  obtain ⟨language, lineCount, entityCount, relationshipCount, elapsedMs, _⟩ := allowed
  obtain ⟨fewLines, fewEntities, fewRelationships, short⟩ := fits
  have language := require_read language rfl (string_read _)
  have lineCount := require_read lineCount rfl (size_read _ fewLines)
  have entityCount := require_read entityCount rfl (size_read _ fewEntities)
  have relationshipCount := require_read relationshipCount rfl (size_read _ fewRelationships)
  have elapsedMs := require_read elapsedMs rfl (size_read _ short)
  simp only [AnalysisMetadata.ofJson?, language, lineCount, entityCount, relationshipCount,
    elapsedMs]
  rfl

theorem analysis_read (analysis : Analysis) (fits : analysis.Fits) :
    ReadAs Analysis.variance Analysis.ofJson? analysis.toJson analysis := by
  intro given allowed
  simp only [Analysis.variance, Variance.fields, List.forall_mem_cons] at allowed
  obtain ⟨entities, relationships, imports, exports, metadata, _⟩ := allowed
  obtain ⟨entityFits, importFits, metadataFits⟩ := fits
  have entities := require_read entities rfl
    (list_read analysis.entities fun entity member => entity_read entity (entityFits entity member))
  have relationships := require_read relationships rfl
    (list_read analysis.relationships fun relationship _ => relationship_read relationship)
  have imports := require_read imports rfl (list_read analysis.imports fun imported member =>
    import_read imported (importFits imported member))
  have exports := require_read exports rfl (strings_read _)
  have metadata := require_read metadata rfl (analysis_metadata_read _ metadataFits)
  simp only [Analysis.ofJson?, entities, relationships, imports, exports, metadata]
  rfl

theorem analysis_options_read (options : AnalysisOptions) (fits : options.Fits) :
    ReadAs AnalysisOptions.variance AnalysisOptions.ofJson? options.toJson options := by
  intro given allowed
  simp only [AnalysisOptions.variance, Variance.fields, List.forall_mem_cons] at allowed
  obtain ⟨includePrivate, includeComments, maxDepth, _⟩ := allowed
  have includePrivate := require_read includePrivate rfl (bool_read _)
  have includeComments := require_read includeComments rfl (bool_read _)
  have maxDepth := require_read maxDepth rfl (size_read _ fits)
  simp only [AnalysisOptions.ofJson?, includePrivate, includeComments, maxDepth]
  rfl

theorem direction_value (options : EncodeOptions) :
    FieldRule.value? { key := "direction", optional := true } options.toJson =
      options.direction.map fun direction => .string direction.name := by
  rcases options with ⟨_, _ | _, _, _⟩ <;> rfl

theorem title_value (options : EncodeOptions) :
    FieldRule.value? { key := "title", optional := true } options.toJson =
      options.title.map .string := by
  rcases options with ⟨_, _, _, _ | _⟩ <;> rfl

theorem encode_options_read (options : EncodeOptions) :
    ReadAs EncodeOptions.variance EncodeOptions.ofJson? options.toJson options := by
  intro given allowed
  simp only [EncodeOptions.variance, Variance.fields, List.forall_mem_cons] at allowed
  obtain ⟨diagramType, direction, includeTitle, title, _⟩ := allowed
  have diagramType := require_read diagramType rfl (named_read DiagramType.of_name _)
  have direction := allow_read direction (direction_value options)
    (named_read Direction.of_name)
  have includeTitle := require_read includeTitle rfl (bool_read _)
  have title := allow_read title (title_value options) string_read
  simp only [EncodeOptions.ofJson?, diagramType, direction, includeTitle, title]
  rfl

theorem diagram_metadata_read (metadata : DiagramMetadata) (fits : metadata.Fits) :
    ReadAs DiagramMetadata.variance DiagramMetadata.ofJson? metadata.toJson metadata := by
  intro given allowed
  simp only [DiagramMetadata.variance, Variance.fields, List.forall_mem_cons] at allowed
  obtain ⟨nodeCount, edgeCount, elapsedMs, diagramType, _⟩ := allowed
  obtain ⟨fewNodes, fewEdges, short⟩ := fits
  have nodeCount := require_read nodeCount rfl (size_read _ fewNodes)
  have edgeCount := require_read edgeCount rfl (size_read _ fewEdges)
  have elapsedMs := require_read elapsedMs rfl (size_read _ short)
  have diagramType := require_read diagramType rfl (named_read DiagramType.of_name _)
  simp only [DiagramMetadata.ofJson?, nodeCount, edgeCount, elapsedMs, diagramType]
  rfl

theorem encoded_diagram_read (diagram : EncodedDiagram) (fits : diagram.Fits) :
    ReadAs EncodedDiagram.variance EncodedDiagram.ofJson? diagram.toJson diagram := by
  intro given allowed
  simp only [EncodedDiagram.variance, Variance.fields, List.forall_mem_cons] at allowed
  obtain ⟨text, metadata, _⟩ := allowed
  have text := require_read text rfl (string_read _)
  have metadata := require_read metadata rfl (diagram_metadata_read _ fits)
  simp only [EncodedDiagram.ofJson?, text, metadata]
  rfl

/-- No type loses anything in its JSON form. Of a value nothing is asked but that its sizes fit. -/
theorem json_forms_lossless :
    Lossless Analysis.toJson Analysis.ofJson? Analysis.variance Analysis.Fits ∧
    Lossless Entity.toJson Entity.ofJson? Entity.variance Entity.Fits ∧
    Lossless Property.toJson Property.ofJson? Property.variance (fun _ => True) ∧
    Lossless Method.toJson Method.ofJson? Method.variance (fun _ => True) ∧
    Lossless Parameter.toJson Parameter.ofJson? Parameter.variance (fun _ => True) ∧
    Lossless Relationship.toJson Relationship.ofJson? Relationship.variance (fun _ => True) ∧
    Lossless Import.toJson Import.ofJson? Import.variance Import.Fits ∧
    Lossless AnalysisOptions.toJson AnalysisOptions.ofJson? AnalysisOptions.variance
      AnalysisOptions.Fits ∧
    Lossless EncodeOptions.toJson EncodeOptions.ofJson? EncodeOptions.variance (fun _ => True) ∧
    Lossless EncodedDiagram.toJson EncodedDiagram.ofJson? EncodedDiagram.variance
      EncodedDiagram.Fits :=
  ⟨lossless_of_reads _ _ _ _ analysis_read,
    lossless_of_reads _ _ _ _ entity_read,
    lossless_of_reads _ _ _ _ fun property _ => property_read property,
    lossless_of_reads _ _ _ _ fun method _ => method_read method,
    lossless_of_reads _ _ _ _ fun parameter _ => parameter_read parameter,
    lossless_of_reads _ _ _ _ fun relationship _ => relationship_read relationship,
    lossless_of_reads _ _ _ _ import_read,
    lossless_of_reads _ _ _ _ analysis_options_read,
    lossless_of_reads _ _ _ _ fun options _ => encode_options_read options,
    lossless_of_reads _ _ _ _ encoded_diagram_read⟩

def unitParameter : Parameter := { name := "unit", type := "string" }

def areaMethod : Method := { name := "area", parameters := [unitParameter] }

def shape : Entity :=
  { kind := .objectClass, name := "Shape", methods := [areaMethod]
    modifiers := { static := true, abstract := true }, bases := ["Figure"] }

-- The default value is null rather than left out.
def unitGiven : Json :=
  .object
    [("name", .string "unit"), ("type", .string "string"), ("optional", .bool false),
      ("defaultValue", .null)]

def areaGiven : Json :=
  .object
    [("name", .string "area"), ("parameters", .array [unitGiven]), ("returnType", .string "void"),
      ("visibility", .string "public"), ("isStatic", .bool false), ("isAbstract", .bool false)]

-- The position names a file, and the modifiers are out of order with one of them repeated.
def shapeGiven : Json :=
  .object
    [("kind", .string "class"), ("name", .string "Shape"), ("properties", .array []),
      ("methods", .array [areaGiven]),
      ("position", .object
        [("line", .ofNat 0), ("column", .ofNat 0), ("file", .string "shape.ts")]),
      ("modifiers", ofStrings ["abstract", "static", "abstract"]),
      ("extends", ofStrings ["Figure"]), ("implements", .array [])]

theorem unit_allowed : Parameter.variance.Allows unitParameter.toJson unitGiven :=
  (Variance.null_field _ [("name", .string "unit"), ("type", .string "string"),
    ("optional", .bool false)] [] "defaultValue" (by simp) (by simp)).1

theorem area_allowed : Method.variance.Allows areaMethod.toJson areaGiven := by
  simp only [Method.variance, Variance.fields, List.forall_mem_cons]
  exact ⟨.some rfl, .some (.cons unit_allowed .nil), .some rfl, .some rfl, .some rfl, .some rfl,
    by simp⟩

theorem shape_allowed : Entity.variance.Allows shape.toJson shapeGiven := by
  have position : Position.variance.Allows Position.origin.toJson _ :=
    Variance.unknown_field _ [("line", .ofNat 0), ("column", .ofNat 0)] [] "file"
      (.string "shape.ts") (by simp)
  have modifiers : Variance.anyOrder.Allows shape.modifiers.toJson
      (ofStrings ["abstract", "static", "abstract"]) := by
    intro item
    change item ∈ ["abstract", "static", "abstract"].map Json.string ↔
      item ∈ ["static", "abstract"].map Json.string
    simp only [List.map_cons, List.map_nil, List.mem_cons, List.not_mem_nil]
    tauto
  simp only [Entity.variance, Variance.fields, List.forall_mem_cons]
  exact ⟨.some rfl, .some rfl, .some .nil, .some (.cons area_allowed .nil), .some position,
    .some modifiers, .some rfl, .some rfl, by simp⟩

theorem json_forms_lossless_shape :
    Entity.Fits shape ∧ Entity.variance.Allows shape.toJson shapeGiven ∧
    Entity.ofJson? shapeGiven = some shape := by
  have fits : Entity.Fits shape := by simp [Entity.Fits, Position.Fits, shape, Position.origin]
  exact ⟨fits, shape_allowed, json_forms_lossless.2.1.tolerant shape fits _ shape_allowed⟩

end SourceAtlas
