import LineagePorts.Data.Table
import LineagePorts.Entity.Basic
import LineagePorts.Instant.Text

/-!
# Stored records as data

The records of entities and relationships. Identifiers are written without their label, times as
RFC 3339 has them, and absent values are left out.
-/

namespace LineagePorts

namespace Id

variable {kind : IdKind}

def toData (id : Id kind) : Data := .text id.ulid.text

def ofData (d : Data) : Option (Id kind) := do
  match Ulid.ofText (← d.asText) with
  | .ok u => some ⟨u⟩
  | .error _ => none

end Id

namespace Instant

def toData (t : Instant) : Data := .text t.text

def ofData (d : Data) : Option Instant := d.asText.bind ofText?

end Instant

namespace PropertyValue

def kindSymbol : PropertyValue → String
  | .text _ => "string"
  | .symbol _ _ => "enum"
  | .map _ => "map"

def content : PropertyValue → Data
  | .text s => .text s
  | .symbol ordinal name =>
    .record [("ordinal", .int ordinal.toNat), ("symbolic_name", .text name)]
  | .map entries => .ofTextTable entries

def toData (v : PropertyValue) : Data :=
  .record [("kind", .text v.kindSymbol), ("value", v.content)]

def symbolOfData (r : Reading) : Data → Option PropertyValue
  | .record fields => do
    let f ← r.fields ["ordinal", "symbolic_name"] (.record fields)
    return .symbol (← f.required "ordinal" Data.asUInt32) (← f.required "symbolic_name" Data.asText)
  | _ => none

def contentOfData (r : Reading) (kind : String) (d : Data) : Option PropertyValue :=
  if kind = "string" then d.asText.map .text
  else if kind = "enum" then symbolOfData r d
  else if kind = "map" then d.asTextTable.map .map
  else none

/-- A kind and a content. In a list the kind is a plain text. In a record it may be any name, and a
content that stands in front of it is set aside until the kind is known. -/
def ofData (r : Reading) : Data → Option PropertyValue
  | .list [.text kind, value] => contentOfData r.deeper kind value
  | .record fields => do
    let f ← r.fields ["kind", "value"] (.record fields)
    let kind ← f.required "kind" r.asName
    let value ← f.find "value"
    if f.entries.head?.any (fun e => e.1 = "value") then
      contentOfData (← r.deeper.hold value) kind value
    else contentOfData r.deeper kind value
  | _ => none

end PropertyValue

namespace Properties

def toData (p : Properties) : Data := .ofTable PropertyValue.toData p

def ofData (r : Reading) (d : Data) : Option Properties :=
  d.asTable (PropertyValue.ofData r.deeper)

end Properties

namespace ExternalSource

def toData (s : ExternalSource) : Data :=
  .record [("guid", s.id.toData), ("qualified_name", .text s.qualifiedName)]

def ofData (r : Reading) (d : Data) : Option ExternalSource := do
  let f ← r.fields ["guid", "qualified_name"] d
  return {
    id := ← f.required "guid" Id.ofData
    qualifiedName := ← f.required "qualified_name" Data.asText }

end ExternalSource

namespace Entity

def toData (e : Entity) : Data :=
  .record (
    [("guid", e.id.toData),
     ("type_name", .text e.typeName),
     ("properties", e.properties.toData),
     ("created_by", .text e.createdBy)] ++
    Data.optionalField "updated_by" .text e.updatedBy ++
    [("create_time", e.createTime.toData)] ++
    Data.optionalField "update_time" Instant.toData e.updateTime ++
    [("version", .int e.version.toNat)] ++
    Data.optionalField "external_source" .text e.externalSource)

def ofData (r : Reading) (d : Data) : Option Entity := do
  let f ← r.fields ["guid", "type_name", "properties", "created_by", "updated_by", "create_time",
    "update_time", "version", "external_source"] d
  return {
    id := ← f.required "guid" Id.ofData
    typeName := ← f.required "type_name" Data.asText
    properties := ← f.required "properties" (Properties.ofData r.deeper)
    createdBy := ← f.required "created_by" Data.asText
    updatedBy := ← f.optional "updated_by" Data.asText
    createTime := ← f.required "create_time" Instant.ofData
    updateTime := ← f.optional "update_time" Instant.ofData
    version := ← f.required "version" Data.asUInt64
    externalSource := ← f.optional "external_source" Data.asText }

end Entity

namespace Relationship

def toData (r : Relationship) : Data :=
  .record (
    [("guid", r.id.toData),
     ("type_name", .text r.typeName),
     ("end1", r.end1.toData),
     ("end2", r.end2.toData),
     ("created_by", .text r.createdBy),
     ("create_time", r.createTime.toData)] ++
    Data.optionalField "external_source" .text r.externalSource)

def ofData (r : Reading) (d : Data) : Option Relationship := do
  let f ← r.fields ["guid", "type_name", "end1", "end2", "created_by", "create_time",
    "external_source"] d
  return {
    id := ← f.required "guid" Id.ofData
    typeName := ← f.required "type_name" Data.asText
    end1 := ← f.required "end1" Id.ofData
    end2 := ← f.required "end2" Id.ofData
    createdBy := ← f.required "created_by" Data.asText
    createTime := ← f.required "create_time" Instant.ofData
    externalSource := ← f.optional "external_source" Data.asText }

end Relationship

end LineagePorts
