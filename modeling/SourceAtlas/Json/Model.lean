import SourceAtlas.Diagram.Encoder
import SourceAtlas.Json.Decode
import SourceAtlas.Language
import SourceAtlas.Options

/-!
The JSON form of everything that is exchanged.

Each type is written with its fields in a fixed order and read from an object that has them in any
order and may have more. A field that may be missing is left out where it has no value, except in
options, where it is written as null.
-/

open SourceAtlas.Json

namespace SourceAtlas

namespace Position

def toJson (position : Position) : Json :=
  .object [("line", .ofNat position.line), ("column", .ofNat position.column)]

def ofJson? (json : Json) : Option Position := do
  return { line := ← json.require "line" size?, column := ← json.require "column" size? }

end Position

/-- A field that is left out where it has no value. -/
def Json.present (key : String) (text : Option String) : List (String × Json) :=
  text.toList.map fun text => (key, .string text)

/-- A field that is null where it has no value. -/
def Json.nullable (text : Option String) : Json :=
  (text.map Json.string).getD .null

namespace Property

def toJson (property : Property) : Json :=
  .object
    [("name", .string property.name), ("type", .string property.type),
      ("visibility", .string property.visibility.name), ("isStatic", .bool property.isStatic),
      ("isReadonly", .bool property.isReadonly)]

def ofJson? (json : Json) : Option Property := do
  return {
    name := ← json.require "name" string?
    type := ← json.require "type" string?
    visibility := ← json.require "visibility" (named? Visibility.ofName?)
    isStatic := ← json.require "isStatic" bool?
    isReadonly := ← json.require "isReadonly" bool? }

end Property

namespace Parameter

def toJson (parameter : Parameter) : Json :=
  .object
    ([("name", .string parameter.name), ("type", .string parameter.type),
      ("optional", .bool parameter.optional)] ++ present "defaultValue" parameter.defaultValue)

def ofJson? (json : Json) : Option Parameter := do
  return {
    name := ← json.require "name" string?
    type := ← json.require "type" string?
    optional := ← json.require "optional" bool?
    defaultValue := ← json.allow "defaultValue" string? }

end Parameter

namespace Method

def toJson (method : Method) : Json :=
  .object
    [("name", .string method.name),
      ("parameters", .array (method.parameters.map Parameter.toJson)),
      ("returnType", .string method.returnType), ("visibility", .string method.visibility.name),
      ("isStatic", .bool method.isStatic), ("isAbstract", .bool method.isAbstract)]

def ofJson? (json : Json) : Option Method := do
  return {
    name := ← json.require "name" string?
    parameters := ← json.require "parameters" (list? Parameter.ofJson?)
    returnType := ← json.require "returnType" string?
    visibility := ← json.require "visibility" (named? Visibility.ofName?)
    isStatic := ← json.require "isStatic" bool?
    isAbstract := ← json.require "isAbstract" bool? }

end Method

namespace Modifiers

def toJson (modifiers : Modifiers) : Json :=
  ofStrings (modifiers.toList.map Modifier.keyword)

def ofJson? (json : Json) : Option Modifiers :=
  (json.list? (named? Modifier.ofName?)).map Modifiers.ofList

end Modifiers

namespace Entity

def toJson (entity : Entity) : Json :=
  .object
    [("kind", .string entity.kind.name), ("name", .string entity.name),
      ("properties", .array (entity.properties.map Property.toJson)),
      ("methods", .array (entity.methods.map Method.toJson)),
      ("position", entity.position.toJson), ("modifiers", entity.modifiers.toJson),
      ("extends", ofStrings entity.bases), ("implements", ofStrings entity.interfaces)]

def ofJson? (json : Json) : Option Entity := do
  return {
    kind := ← json.require "kind" (named? EntityKind.ofName?)
    name := ← json.require "name" string?
    properties := ← json.require "properties" (list? Property.ofJson?)
    methods := ← json.require "methods" (list? Method.ofJson?)
    position := ← json.require "position" Position.ofJson?
    modifiers := ← json.require "modifiers" Modifiers.ofJson?
    bases := ← json.require "extends" (list? string?)
    interfaces := ← json.require "implements" (list? string?) }

end Entity

namespace Relationship

def toJson (relationship : Relationship) : Json :=
  .object
    ([("type", .string relationship.kind.name), ("from", .string relationship.source),
      ("to", .string relationship.target)] ++ present "label" relationship.label ++
      present "multiplicity" relationship.multiplicity)

def ofJson? (json : Json) : Option Relationship := do
  return {
    kind := ← json.require "type" (named? RelationshipKind.ofName?)
    source := ← json.require "from" string?
    target := ← json.require "to" string?
    label := ← json.allow "label" string?
    multiplicity := ← json.allow "multiplicity" string? }

end Relationship

namespace Import

def toJson (imported : Import) : Json :=
  .object
    [("module", .string imported.module), ("names", ofStrings imported.names),
      ("position", imported.position.toJson)]

def ofJson? (json : Json) : Option Import := do
  return {
    module := ← json.require "module" string?
    names := ← json.require "names" (list? string?)
    position := ← json.require "position" Position.ofJson? }

end Import

namespace AnalysisMetadata

def toJson (metadata : AnalysisMetadata) : Json :=
  .object
    [("language", .string metadata.language), ("lineCount", .ofNat metadata.lineCount),
      ("entityCount", .ofNat metadata.entityCount),
      ("relationshipCount", .ofNat metadata.relationshipCount),
      ("analysisTimeMs", .ofNat metadata.elapsedMs)]

def ofJson? (json : Json) : Option AnalysisMetadata := do
  return {
    language := ← json.require "language" string?
    lineCount := ← json.require "lineCount" size?
    entityCount := ← json.require "entityCount" size?
    relationshipCount := ← json.require "relationshipCount" size?
    elapsedMs := ← json.require "analysisTimeMs" size? }

end AnalysisMetadata

namespace Analysis

def toJson (analysis : Analysis) : Json :=
  .object
    [("entities", .array (analysis.entities.map Entity.toJson)),
      ("relationships", .array (analysis.relationships.map Relationship.toJson)),
      ("imports", .array (analysis.imports.map Import.toJson)),
      ("exports", ofStrings analysis.exports), ("metadata", analysis.metadata.toJson)]

def ofJson? (json : Json) : Option Analysis := do
  return {
    entities := ← json.require "entities" (list? Entity.ofJson?)
    relationships := ← json.require "relationships" (list? Relationship.ofJson?)
    imports := ← json.require "imports" (list? Import.ofJson?)
    exports := ← json.require "exports" (list? string?)
    metadata := ← json.require "metadata" AnalysisMetadata.ofJson? }

end Analysis

namespace AnalysisOptions

def toJson (options : AnalysisOptions) : Json :=
  .object
    [("includePrivate", .bool options.includePrivate),
      ("includeComments", .bool options.includeComments), ("maxDepth", .ofNat options.maxDepth)]

def ofJson? (json : Json) : Option AnalysisOptions := do
  return {
    includePrivate := ← json.require "includePrivate" bool?
    includeComments := ← json.require "includeComments" bool?
    maxDepth := ← json.require "maxDepth" size? }

end AnalysisOptions

namespace EncodeOptions

def toJson (options : EncodeOptions) : Json :=
  .object
    [("diagramType", .string options.diagramType.name),
      ("direction", nullable (options.direction.map Direction.name)),
      ("includeTitle", .bool options.includeTitle), ("title", nullable options.title)]

def ofJson? (json : Json) : Option EncodeOptions := do
  return {
    diagramType := ← json.require "diagramType" (named? DiagramType.ofName?)
    direction := ← json.allow "direction" (named? Direction.ofName?)
    includeTitle := ← json.require "includeTitle" bool?
    title := ← json.allow "title" string? }

end EncodeOptions

namespace DiagramMetadata

def toJson (metadata : DiagramMetadata) : Json :=
  .object
    [("nodeCount", .ofNat metadata.nodeCount), ("edgeCount", .ofNat metadata.edgeCount),
      ("generationTimeMs", .ofNat metadata.elapsedMs),
      ("diagramType", .string metadata.diagramType.name)]

def ofJson? (json : Json) : Option DiagramMetadata := do
  return {
    nodeCount := ← json.require "nodeCount" size?
    edgeCount := ← json.require "edgeCount" size?
    elapsedMs := ← json.require "generationTimeMs" size?
    diagramType := ← json.require "diagramType" (named? DiagramType.ofName?) }

end DiagramMetadata

namespace EncodedDiagram

def toJson (diagram : EncodedDiagram) : Json :=
  .object [("diagramText", .string diagram.text), ("metadata", diagram.metadata.toJson)]

def ofJson? (json : Json) : Option EncodedDiagram := do
  return {
    text := ← json.require "diagramText" string?
    metadata := ← json.require "metadata" DiagramMetadata.ofJson? }

end EncodedDiagram

namespace Language

def toJson (language : Language) : Json := .string language.name

def ofJson? (json : Json) : Option Language := named? ofName? json

end Language

end SourceAtlas
