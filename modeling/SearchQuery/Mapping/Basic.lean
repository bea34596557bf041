import SearchQuery.Criteria.Basic
import SearchQuery.Json.Field
import SearchQuery.Mapping.Naming

/-!
# Mapping documents to the wire

A `FieldMapping` decides how members and document types are named on the wire and how values are
written there. `MappingOptions.mapping` is the conventional one: names in camel case, type names in
the plural, and text in lower case as analyzed fields hold it.
-/

namespace SearchQuery

/-- Naming and value conventions of a document store. -/
structure FieldMapping where
  /-- The path of a member below a path, which is empty at the root. -/
  fieldName : String → Member → String
  /-- A value as it appears in a condition on a member. -/
  formatValue : Member → Json → Json
  /-- The name of a document type in the address of a search. -/
  documentType : DocumentType → String
  /-- The criteria that selects every document of a type. -/
  typeExists : DocumentType → Criteria
  /-- The path of the document inside the source of a hit, if it is nested there. -/
  documentPrefix : DocumentType → Option String

/-- The choices of the conventional mapping. -/
structure MappingOptions where
  camelCaseFieldNames : Bool
  camelCaseTypeNames : Bool
  pluralizeTypeNames : Bool
  lowerCaseAnalyzedFieldValues : Bool
  deriving DecidableEq

namespace MappingOptions

def standard : MappingOptions := ⟨true, true, true, true⟩

def memberName (options : MappingOptions) (m : Member) : String :=
  if options.camelCaseFieldNames then Naming.camelCase m.name else m.name

def fieldName (options : MappingOptions) (parent : String) (m : Member) : String :=
  if parent.isEmpty then options.memberName m else parent ++ "." ++ options.memberName m

def formatValue (options : MappingOptions) (m : Member) : Json → Json
  | .str s =>
    if options.lowerCaseAnalyzedFieldValues && m.valueType.isText then .str (Text.lower s)
    else .str s
  | v => v

def typeName (options : MappingOptions) (type : DocumentType) : String :=
  if options.camelCaseTypeNames then Naming.camelCase type.name else type.name

/-- The name of a document type, unless its plural cannot be formed. -/
def documentType? (options : MappingOptions) (type : DocumentType) : Option String :=
  if options.pluralizeTypeNames then Naming.pluralize? (options.typeName type)
  else some (options.typeName type)

def documentType (options : MappingOptions) (type : DocumentType) : String :=
  (options.documentType? type).getD (options.typeName type)

/-- A document of a type is one that has its identifier. -/
def typeExists (options : MappingOptions) (type : DocumentType) : Criteria :=
  match type.member? "id" with
  | some m => .present (options.fieldName "" m)
  | none => .matchAll

/-- The conventional mapping, with documents at one place inside the source of their hits. -/
def mapping (options : MappingOptions) (documentPrefix : Option String) : FieldMapping where
  fieldName := options.fieldName
  formatValue := options.formatValue
  documentType := options.documentType
  typeExists := options.typeExists
  documentPrefix _ := documentPrefix

/-- Read options; one that is missing is on. -/
def ofJson? (v : Json) : Option MappingOptions := do
  let members ← v.members?
  return {
    camelCaseFieldNames := ← Json.fieldOr "camel_case_field_names" true Json.bool? members
    camelCaseTypeNames := ← Json.fieldOr "camel_case_type_names" true Json.bool? members
    pluralizeTypeNames := ← Json.fieldOr "pluralize_type_names" true Json.bool? members
    lowerCaseAnalyzedFieldValues :=
      ← Json.fieldOr "lower_case_analyzed_field_values" true Json.bool? members }

end MappingOptions

end SearchQuery
