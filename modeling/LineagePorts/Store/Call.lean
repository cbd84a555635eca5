import LineagePorts.Store.Basic

/-!
# Changing a store

The four calls that change a store. A call is made by a user on behalf of an external source and
comes with a stamp: the time and the identifiers that the new records get. A call that fails leaves
no new store, and a run of calls goes on from the store before it.
-/

namespace LineagePorts

/-- A clock reading and unused identifiers, of which a call takes what it needs. -/
structure Stamp where
  now : Instant
  entity : EntityId
  relationship : RelationshipId
deriving DecidableEq

/-- The stamp of a clock reading, with identifiers that a random number and the next one
complete. -/
def Stamp.ofClock (now : Instant) (random : Nat) : Stamp where
  now := now
  entity := ⟨.ofParts now.milliseconds random⟩
  relationship := ⟨.ofParts now.milliseconds (random + 1)⟩

/-- The identity under which a call is made. -/
structure Caller where
  user : String
  source : ExternalSource
deriving DecidableEq

namespace Store

def newRelationship (stamp : Stamp) (who : Caller) (type : RelationshipType)
    (end1 end2 : EntityId) : Relationship where
  id := stamp.relationship
  typeName := type.name
  end1 := end1
  end2 := end2
  createdBy := who.user
  createTime := stamp.now
  externalSource := some who.source.qualifiedName

def addRelationship (s : Store) (r : Relationship) : Store :=
  { s with relationships := s.relationships.insert r.id r }

def putEntity (s : Store) (e : Entity) : Store :=
  { s with entities := s.entities.insert e.id e }

/-- The relationship from the owner to a new entity, provided that its type allows both ends. -/
def ownershipOf (s : Store) (stamp : Stamp) (who : Caller) (typeName : String) (o : Ownership) :
    Except Failure Relationship := do
  let type ← relationshipType o.relationshipType
  let _ ← s.typedEntity o.owner type.end1Type
  if TypeName.isA typeName type.end2Type then
    return newRelationship stamp who type o.owner stamp.entity
  else throw (.server (.cannotBeOwned typeName type.name))

/-- Fails if the properties give a name that another entity of the type has. -/
def checkName (s : Store) (typeName : String) (properties : Properties)
    (except? : Option EntityId) : Except Failure Unit :=
  match properties.qualifiedName? with
  | some name =>
    if s.nameTaken typeName name except? then throw (.server (.nameTaken typeName name))
    else return ()
  | none => return ()

def newEntity (stamp : Stamp) (who : Caller) (typeName : String) (properties : Properties) :
    Entity where
  id := stamp.entity
  typeName := typeName
  properties := properties
  createdBy := who.user
  updatedBy := none
  createTime := stamp.now
  updateTime := none
  version := 1
  externalSource := some who.source.qualifiedName

def createEntity (s : Store) (stamp : Stamp) (who : Caller) (typeName : String)
    (properties : Properties) (owner : Option Ownership) : Except Failure (EntityId × Store) := do
  s.checkName typeName properties none
  let withEntity := s.putEntity (newEntity stamp who typeName properties)
  match owner with
  | none => return (stamp.entity, withEntity)
  | some o => return (stamp.entity, withEntity.addRelationship
      (← s.ownershipOf stamp who typeName o))

def updatedEntity (stamp : Stamp) (who : Caller) (properties : Properties) (e : Entity) : Entity :=
  { e with
    properties := properties
    updatedBy := some who.user
    updateTime := some stamp.now
    version := e.version + 1
    externalSource := some who.source.qualifiedName }

/-- Replaces the properties of an entity, which must be of exactly the given type. -/
def updateEntity (s : Store) (stamp : Stamp) (who : Caller) (id : EntityId) (typeName : String)
    (properties : Properties) : Except Failure Store := do
  let e ← s.entity id
  if e.typeName ≠ typeName then throw (.server (.entityNotOfType id e.typeName typeName))
  s.checkName typeName properties (some id)
  return { s with
    entities := s.entities.insert id (updatedEntity stamp who properties e) }

/-- Removes an entity with every relationship that touches it. -/
def deleteEntity (s : Store) (id : EntityId) : Except Failure Store := do
  let _ ← s.entity id
  return {
    entities := s.entities.erase id
    relationships := s.relationships.filter fun _ r => (r.opposite? id).isNone }

/-- Creates a relationship, or answers with the one of that type between the same ends. -/
def createRelationship (s : Store) (stamp : Stamp) (who : Caller) (start finish : EntityId)
    (typeName : String) : Except Failure (RelationshipId × Store) := do
  let type ← relationshipType typeName
  let _ ← s.typedEntity start type.end1Type
  let _ ← s.typedEntity finish type.end2Type
  match s.edge? start finish type.name with
  | some r => return (r.id, s)
  | none => return (stamp.relationship,
      s.addRelationship (newRelationship stamp who type start finish))

/-- A call that changes a store. -/
inductive Call where
  | createEntity (typeName : String) (properties : Properties) (owner : Option Ownership)
  | updateEntity (id : EntityId) (typeName : String) (properties : Properties)
  | deleteEntity (id : EntityId)
  | createRelationship (start finish : EntityId) (typeName : String)
deriving DecidableEq

inductive Answer where
  | entity (id : EntityId)
  | relationship (id : RelationshipId)
  | done
deriving DecidableEq

def perform (s : Store) (stamp : Stamp) (who : Caller) : Call → Except Failure (Answer × Store)
  | .createEntity typeName properties owner =>
    (s.createEntity stamp who typeName properties owner).map fun (id, s') => (.entity id, s')
  | .updateEntity id typeName properties =>
    (s.updateEntity stamp who id typeName properties).map fun s' => (.done, s')
  | .deleteEntity id => (s.deleteEntity id).map fun s' => (.done, s')
  | .createRelationship start finish typeName =>
    (s.createRelationship stamp who start finish typeName).map
      fun (id, s') => (.relationship id, s')

/-- The store after a call, which is the store before it if the call fails. -/
def afterCall (s : Store) (stamp : Stamp) (who : Caller) (c : Call) : Store :=
  match s.perform stamp who c with
  | .ok (_, s') => s'
  | .error _ => s

end Store

/-- A call together with who makes it and with its stamp. -/
structure Issued where
  stamp : Stamp
  caller : Caller
  call : Store.Call
deriving DecidableEq

def Store.run (s : Store) (calls : List Issued) : Store :=
  calls.foldl (fun s c => s.afterCall c.stamp c.caller c.call) s

end LineagePorts
