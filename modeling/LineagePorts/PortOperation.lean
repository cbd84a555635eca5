import LineagePorts.Operation
import LineagePorts.Parameter
import LineagePorts.Port.Stored

/-!
# Operations on ports

Creating, updating, linking, finding and removing ports. An operation checks its parameters first,
asks the store next and the registry last, so that one that finds its work already done neither
asks the registry nor makes a call. Nothing is kept between operations.
-/

namespace LineagePorts.PortOperation

def checkPort (user : String) (port : Port) (action : String) : Except Failure Unit := do
  Parameter.checkUser user action
  Parameter.checkName port.displayName Parameter.displayName action
  Parameter.checkName port.qualifiedName Parameter.qualifiedName action

/-- Creates a port that the process owns. -/
def create (user : String) (port : Port) (kind : PortKind) (process : EntityId) (source : String) :
    Operation Failure EntityId := do
  Operation.ofExcept (checkPort user port "create_port")
  let externalSource ← Operation.resolve user source
  Operation.createEntity ⟨user, externalSource⟩ kind.typeName port.properties
    (some ⟨process, TypeName.processPort⟩)

def createImplementation (user : String) (implementation : PortImplementation)
    (process : EntityId) (source : String) : Operation Failure EntityId :=
  create user implementation.port .implementation process source

def createAlias (user : String) (forward : PortAlias) (process : EntityId) (source : String) :
    Operation Failure EntityId :=
  create user forward.port .alias process source

inductive Update where
  /-- The stored properties were those of the port already. -/
  | unchanged
  | updated
deriving DecidableEq

/-- Brings a stored port, of which the caller knows a copy, in line with `port`. Nothing is written
when the properties of the copy are those of `port` already. -/
def update (user : String) (known : Entity) (port : Port) (kind : PortKind) (source : String) :
    Operation Failure Update := do
  Operation.ofExcept (checkPort user port "update_port")
  if known.differsFrom port.properties then
    let externalSource ← Operation.resolve user source
    Operation.updateEntity ⟨user, externalSource⟩ known.id kind.typeName port.properties
    return .updated
  else return .unchanged

def updateImplementation (user : String) (known : Entity) (implementation : PortImplementation)
    (source : String) : Operation Failure Update :=
  update user known implementation.port .implementation source

def updateAlias (user : String) (known : Entity) (forward : PortAlias) (source : String) :
    Operation Failure Update :=
  update user known forward.port .alias source

/-- The relationship that links two entities, if there is one. -/
def linkBetween (port other : EntityId) (typeName : String) :
    Operation Failure (Option Relationship) := do
  Operation.ofExcept (← Operation.ask fun s =>
    s.relationshipBetween port other TypeName.port typeName)

/-- Links two entities unless they were found linked. The store may have changed since. -/
def linkUnless (found : Option Relationship) (user : String) (port other : EntityId)
    (typeName source : String) : Operation Failure Unit := do
  match found with
  | some _ => return ()
  | none =>
    let externalSource ← Operation.resolve user source
    let _ ← Operation.createRelationship ⟨user, externalSource⟩ port other typeName

def link (user : String) (port other : EntityId) (typeName source : String) :
    Operation Failure Unit := do
  linkUnless (← linkBetween port other typeName) user port other typeName source

def addSchema (user : String) (port schemaType : EntityId) (source : String) :
    Operation Failure Unit := do
  Operation.ofExcept (Parameter.checkUser user "add_port_schema_relationship")
  link user port schemaType TypeName.portSchema source

/-- The schema type of a port, if it has one. -/
def schemaType (user : String) (port : EntityId) : Operation Failure (Option Entity) := do
  Operation.ofExcept (Parameter.checkUser user "find_schema_type_for_port")
  let type ← Operation.ofExcept (Store.relationshipType TypeName.portSchema)
  Operation.ofExcept (← Operation.ask fun s => s.traverse port TypeName.port type)

def findTyped (user qualifiedName typeName : String) : Operation Failure (Option Entity) := do
  Operation.ofExcept (Parameter.checkUser user "find_entity")
  Operation.ofExcept (Parameter.checkName qualifiedName Parameter.qualifiedName "find_entity")
  Operation.ask fun s => s.findByName? qualifiedName typeName

def findImplementation (user qualifiedName : String) : Operation Failure (Option Entity) :=
  findTyped user qualifiedName TypeName.portImplementation

def findAlias (user qualifiedName : String) : Operation Failure (Option Entity) :=
  findTyped user qualifiedName TypeName.portAlias

/-- The port of this name. An alias goes before an implementation. -/
def find (user qualifiedName : String) : Operation Failure (Option Entity) := do
  match ← findAlias user qualifiedName with
  | some e => return some e
  | none => findImplementation user qualifiedName

def findOfKind (user qualifiedName : String) : PortKind → Operation Failure (Option Entity)
  | .implementation => findImplementation user qualifiedName
  | .alias => findAlias user qualifiedName

/-- The port of this name, provided that its stored type is the declared one. -/
def findDeclared (user : String) (portType : PortType) (qualifiedName : String) :
    Operation Failure Entity := do
  match ← find user qualifiedName with
  | none => throw (.portNotFound qualifiedName)
  | some port =>
    if port.hasPortType portType then return port
    else throw (.invalidPortType qualifiedName (port.portSymbol?.getD ""))

def checkDelegation (user delegatesTo action : String) : Except Failure Unit := do
  Parameter.checkUser user action
  Parameter.checkName delegatesTo Parameter.delegatesTo action

/-- The port that a delegation to this name would go to, so that a delegation can be checked before
the delegating port is created. -/
def target (user : String) (portType : PortType) (delegatesTo : String) :
    Operation Failure Entity := do
  Operation.ofExcept (checkDelegation user delegatesTo "find_delegation_target")
  findDeclared user portType delegatesTo

def addDelegation (user : String) (port : EntityId) (portType : PortType)
    (delegatesTo source : String) : Operation Failure Unit := do
  Operation.ofExcept (checkDelegation user delegatesTo "add_port_delegation_relationship")
  let target ← findDeclared user portType delegatesTo
  link user port target.id TypeName.portDelegation source

/-- Removes the port of this name. There need not be one. -/
def remove (user qualifiedName source : String) : Operation Failure Unit := do
  Operation.ofExcept (Parameter.checkUser user "remove_port")
  Operation.ofExcept (Parameter.checkName qualifiedName Parameter.qualifiedName "remove_port")
  match ← find user qualifiedName with
  | none => return ()
  | some port =>
    let externalSource ← Operation.resolve user source
    Operation.deleteEntity ⟨user, externalSource⟩ port.id

end LineagePorts.PortOperation
