import LineagePorts.Identifier
import LineagePorts.Instant.Basic
import LineagePorts.Table
import LineagePorts.TypeName

/-!
# Stored records

Entities with their properties, and directed relationships of a type between two entities, as the
metadata store keeps them.
-/

namespace LineagePorts

inductive PropertyValue where
  | text (s : String)
  /-- A value of an enumeration. -/
  | symbol (ordinal : UInt32) (name : String)
  | map (entries : Table String String)
deriving DecidableEq

namespace PropertyValue

def text? : PropertyValue → Option String
  | .text s => some s
  | _ => none

def symbol? : PropertyValue → Option String
  | .symbol _ name => some name
  | _ => none

def map? : PropertyValue → Option (Table String String)
  | .map entries => some entries
  | _ => none

end PropertyValue

abbrev Properties := Table String PropertyValue

namespace Properties

def text? (p : Properties) (name : String) : Option String :=
  (p.get? name).bind PropertyValue.text?

def symbol? (p : Properties) (name : String) : Option String :=
  (p.get? name).bind PropertyValue.symbol?

def map? (p : Properties) (name : String) : Option (Table String String) :=
  (p.get? name).bind PropertyValue.map?

def qualifiedName? (p : Properties) : Option String :=
  p.text? PropertyName.qualifiedName

end Properties

structure Entity where
  id : EntityId
  typeName : String
  properties : Properties
  createdBy : String
  updatedBy : Option String
  createTime : Instant
  updateTime : Option Instant
  /-- Starts at 1 and goes up with every update. -/
  version : UInt64
  externalSource : Option String
deriving DecidableEq

def Entity.qualifiedName? (e : Entity) : Option String :=
  e.properties.qualifiedName?

structure Relationship where
  id : RelationshipId
  typeName : String
  end1 : EntityId
  end2 : EntityId
  createdBy : String
  createTime : Instant
  externalSource : Option String
deriving DecidableEq

/-- The end opposite to an entity, if the entity is at one of the ends. -/
def Relationship.opposite? (r : Relationship) (id : EntityId) : Option EntityId :=
  if r.end1 = id then some r.end2
  else if r.end2 = id then some r.end1
  else none

/-- A system on whose behalf a change is made. -/
structure ExternalSource where
  id : SourceId
  qualifiedName : String
deriving DecidableEq

/-- The owner of a new entity and the type of the relationship from owner to entity. -/
structure Ownership where
  owner : EntityId
  relationshipType : String
deriving DecidableEq

end LineagePorts
