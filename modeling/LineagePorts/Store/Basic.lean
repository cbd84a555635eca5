import LineagePorts.Entity.Basic
import LineagePorts.Failure

/-!
# The state of a metadata store

The entities and relationships of a store, each under its identifier, the snapshot that lists them
in the order of the identifiers, and what can be asked of a store.
-/

namespace LineagePorts

/-- The records of a store as a list. Of several records with one identifier the last one counts. -/
structure Snapshot where
  entities : List Entity
  relationships : List Relationship
deriving DecidableEq

structure Store where
  entities : Table EntityId Entity
  relationships : Table RelationshipId Relationship
deriving DecidableEq

namespace Store

def empty : Store := ⟨.empty, .empty⟩

def ofSnapshot (s : Snapshot) : Store where
  entities := .ofList (s.entities.map fun e => (e.id, e))
  relationships := .ofList (s.relationships.map fun r => (r.id, r))

def snapshot (s : Store) : Snapshot :=
  ⟨s.entities.values, s.relationships.values⟩

def entity (s : Store) (id : EntityId) : Except Failure Entity :=
  match s.entities.get? id with
  | some e => .ok e
  | none => .error (.server (.entityNotFound id))

def typedEntity (s : Store) (id : EntityId) (typeName : String) : Except Failure Entity := do
  let e ← s.entity id
  if TypeName.isA e.typeName typeName then .ok e
  else .error (.server (.entityNotOfType id e.typeName typeName))

def relationshipType (name : String) : Except Failure RelationshipType :=
  match RelationshipType.find? name with
  | some t => .ok t
  | none => .error (.server (.unknownRelationshipType name))

/-- The entity of exactly this type that has this qualified name. -/
def findByName? (s : Store) (qualifiedName typeName : String) : Option Entity :=
  s.entities.values.find? fun e =>
    e.typeName = typeName && e.qualifiedName? = some qualifiedName

def edge? (s : Store) (start finish : EntityId) (typeName : String) :
    Option Relationship :=
  s.relationships.values.find? fun r =>
    r.typeName = typeName && r.end1 = start && r.end2 = finish

/-- The relationship of a type between two entities. The first one, if it is stored, must have the
type `startType`; neither the relationship type nor the other entity need be known. -/
def relationshipBetween (s : Store) (start finish : EntityId) (startType typeName : String) :
    Except Failure (Option Relationship) := do
  if s.entities.contains start then
    let _ ← s.typedEntity start startType
  return s.edge? start finish typeName

def relationshipsOf (s : Store) (typeName : String) : List Relationship :=
  s.relationships.values.filter fun r => r.typeName = typeName

/-- The far ends of all relationships of a type that touch an entity with either end. -/
def farEnds (s : Store) (id : EntityId) (typeName : String) : List EntityId :=
  (s.relationshipsOf typeName).filterMap fun r => r.opposite? id

/-- The entity at the far end of the only relationship of a type at an entity. -/
def traverse (s : Store) (start : EntityId) (startType : String) (type : RelationshipType) :
    Except Failure (Option Entity) := do
  let _ ← s.typedEntity start startType
  match s.farEnds start type.name with
  | [] => .ok none
  | [far] => (s.entity far).map some
  | _ => .error (.server (.severalRelationships start type.name))

/-- Whether another entity than `except?` has this type and qualified name. -/
def nameTaken (s : Store) (typeName qualifiedName : String) (except? : Option EntityId) : Bool :=
  s.entities.values.any fun e =>
    e.typeName = typeName && e.qualifiedName? = some qualifiedName && some e.id ≠ except?

end Store

end LineagePorts
