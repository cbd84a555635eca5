import LineagePorts.PortOperation
import LineagePorts.Request.Basic
import LineagePorts.Request.Outcome

/-!
# Applying requests

A request is applied as one user on behalf of one external source. The names in it are resolved to
identifiers afresh each time.
-/

namespace LineagePorts.Request

def onPorts {α : Type} (op : Operation Failure α) : Operation RequestError α :=
  op.mapError .port

/-- Creates an entity that has a qualified name and nothing else. -/
def createNamed (user source typeName qualifiedName : String) : Operation Failure Outcome := do
  let externalSource ← Operation.resolve user source
  let properties : Properties :=
    Table.ofList [(PropertyName.qualifiedName, .text qualifiedName)]
  return .created (← Operation.createEntity ⟨user, externalSource⟩ typeName properties none)

/-- The entity of this type and name, which must exist. -/
def entityNamed (typeName qualifiedName : String) : Operation RequestError Entity := do
  match ← Operation.ask fun s => s.findByName? qualifiedName typeName with
  | some e => return e
  | none => throw (.noSuchEntity typeName qualifiedName)

/-- The port of this name, which must exist. -/
def portNamed (user qualifiedName : String) : Operation Failure Entity := do
  match ← PortOperation.find user qualifiedName with
  | some e => return e
  | none => throw (.portNotFound qualifiedName)

/-- Creates an alias. The port that it delegates to is checked before and linked after. -/
def createForward (user source : String) (process : EntityId) (forward : PortAlias) :
    Operation Failure EntityId := do
  match forward.delegatesTo with
  | none => PortOperation.createAlias user forward process source
  | some target =>
    let _ ← PortOperation.target user forward.port.portType target
    let id ← PortOperation.createAlias user forward process source
    PortOperation.addDelegation user id forward.port.portType target source
    return id

/-- Updates the stored port of the same kind and name. -/
def updateNamed (user source : String) (kind : PortKind) (port : Port) :
    Operation Failure Outcome := do
  match ← PortOperation.findOfKind user port.qualifiedName kind with
  | none => throw (.portNotFound port.qualifiedName)
  | some known =>
    match ← PortOperation.update user known port kind source with
    | .updated => return .updated
    | .unchanged => return .unchanged

/-- The port of this name, if there is one, and its schema type, if it has one. -/
def describePort (user qualifiedName : String) : Operation Failure Outcome := do
  match ← PortOperation.find user qualifiedName with
  | none => return .found none none
  | some port => return .found (some port) (← PortOperation.schemaType user port.id)

def apply (user source : String) : Request → Operation RequestError Outcome
  | .createProcess name => onPorts (createNamed user source TypeName.process name)
  | .createSchemaType name => onPorts (createNamed user source TypeName.schemaType name)
  | .createPort kind process port delegatesTo => do
    let owner ← entityNamed TypeName.process process
    match kind with
    | .implementation =>
      return .created (← onPorts (PortOperation.createImplementation user ⟨port⟩ owner.id source))
    | .alias =>
      return .created (← onPorts (createForward user source owner.id ⟨port, delegatesTo⟩))
  | .updatePort kind port => onPorts (updateNamed user source kind port)
  | .addSchema port schemaType => do
    let portEntity ← onPorts (portNamed user port)
    let schemaEntity ← entityNamed TypeName.schemaType schemaType
    onPorts (PortOperation.addSchema user portEntity.id schemaEntity.id source)
    return .linked
  | .addDelegation port portType delegatesTo => onPorts do
    let portEntity ← portNamed user port
    PortOperation.addDelegation user portEntity.id portType delegatesTo source
    return .linked
  | .removePort name => onPorts do
    PortOperation.remove user name source
    return .removed
  | .findPort name => onPorts (describePort user name)

/-- Applies a request at a desk. The trace of the desk begins anew, so that the stamps count from
the first call of this request. -/
def applyAt (user source : String) (around : Surroundings) (backend : Backend)
    (request : Request) : Outcome × Desk :=
  let (answer, desk) := (apply user source request).perform around ⟨backend, []⟩
  (.ofAnswer answer, desk)

end LineagePorts.Request
