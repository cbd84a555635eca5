import LineagePorts.Json.Reader
import LineagePorts.Port.Data

/-!
# Requests

A request names entities by their qualified names. A batch of requests is a JSON list of records,
each tagged by its operation, or of lists with the operation first. A batch is read as a whole: one
request that cannot be read makes the whole batch unreadable.
-/

namespace LineagePorts

inductive Request where
  | createProcess (qualifiedName : String)
  | createSchemaType (qualifiedName : String)
  /-- An alias may delegate to another port from the start; an implementation never does. -/
  | createPort (kind : PortKind) (process : String) (port : Port) (delegatesTo : Option String)
  | updatePort (kind : PortKind) (port : Port)
  | addSchema (port schemaType : String)
  | addDelegation (port : String) (portType : PortType) (delegatesTo : String)
  | removePort (qualifiedName : String)
  | findPort (qualifiedName : String)
deriving DecidableEq

namespace Request

def operation : Request → String
  | .createProcess _ => "create_process"
  | .createSchemaType _ => "create_schema_type"
  | .createPort _ _ _ _ => "create_port"
  | .updatePort _ _ => "update_port"
  | .addSchema _ _ => "add_schema"
  | .addDelegation _ _ _ => "add_delegation"
  | .removePort _ => "remove_port"
  | .findPort _ => "find_port"

/-- A request that consists of a qualified name. -/
def named (r : Reading) (make : String → Request) (d : Data) : Option Request := do
  let f ← r.fields ["qualified_name"] d
  return make (← f.required "qualified_name" Data.asText)

def createPortOfData (r : Reading) (d : Data) : Option Request := do
  let f ← r.fields ["kind", "process", "port", "delegates_to"] d
  return .createPort
    (← f.required "kind" (PortKind.ofData r))
    (← f.required "process" Data.asText)
    (← f.required "port" (Port.ofData r))
    (← f.optional "delegates_to" Data.asText)

def updatePortOfData (r : Reading) (d : Data) : Option Request := do
  let f ← r.fields ["kind", "port"] d
  return .updatePort (← f.required "kind" (PortKind.ofData r)) (← f.required "port" (Port.ofData r))

def addSchemaOfData (r : Reading) (d : Data) : Option Request := do
  let f ← r.fields ["port", "schema_type"] d
  return .addSchema (← f.required "port" Data.asText) (← f.required "schema_type" Data.asText)

def addDelegationOfData (r : Reading) (d : Data) : Option Request := do
  let f ← r.fields ["port", "port_type", "delegates_to"] d
  return .addDelegation
    (← f.required "port" Data.asText)
    (← f.required "port_type" (PortType.ofData r))
    (← f.required "delegates_to" Data.asText)

/-- A request of the given operation from its other fields. -/
def ofFields (r : Reading) (operation : String) (d : Data) : Option Request :=
  if operation = "create_process" then named r .createProcess d
  else if operation = "create_schema_type" then named r .createSchemaType d
  else if operation = "create_port" then createPortOfData r d
  else if operation = "update_port" then updatePortOfData r d
  else if operation = "add_schema" then addSchemaOfData r d
  else if operation = "add_delegation" then addDelegationOfData r d
  else if operation = "remove_port" then named r .removePort d
  else if operation = "find_port" then named r .findPort d
  else none

/-- A request is set aside as a whole, because its operation may stand behind the other fields. -/
def ofData (r : Reading) (d : Data) : Option Request := do
  let held ← r.hold d
  let (operation, fields) ← d.asTagged "op"
  ofFields held operation fields

def batchOfData (r : Reading) (d : Data) : Option (List Request) :=
  d.asListOf (ofData r.deeper)

def readBatch (text : String) : Option (List Request) :=
  (Json.read text).bind (batchOfData .json)

/-- What is said of a text that is no batch of requests. -/
def unreadableBatch : String := "requests must be a JSON array of tagged requests"

end Request

end LineagePorts
