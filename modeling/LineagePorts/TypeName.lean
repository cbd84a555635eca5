/-!
# Types of entities and relationships

The entity types of the metadata store with their one step of inheritance, the relationship types
with the entity type at each end, and the names of the properties of a port.
-/

namespace LineagePorts

namespace TypeName

def port : String := "Port"
def portImplementation : String := "PortImplementation"
def portAlias : String := "PortAlias"
def process : String := "Process"
def schemaType : String := "SchemaType"

def processPort : String := "ProcessPort"
def portSchema : String := "PortSchema"
def portDelegation : String := "PortDelegation"

def parent? (type : String) : Option String :=
  if type = portImplementation ∨ type = portAlias then some port else none

/-- Whether a type is the expected one or a subtype of it. A super type has no super type. -/
def isA (type expected : String) : Bool :=
  type = expected || parent? type = some expected

end TypeName

namespace PropertyName

def qualifiedName : String := "qualifiedName"
def displayName : String := "displayName"
def portType : String := "portType"
def additionalProperties : String := "additionalProperties"

end PropertyName

structure RelationshipType where
  name : String
  end1Type : String
  end2Type : String
deriving DecidableEq

namespace RelationshipType

def all : List RelationshipType :=
  [⟨TypeName.processPort, TypeName.process, TypeName.port⟩,
   ⟨TypeName.portSchema, TypeName.port, TypeName.schemaType⟩,
   ⟨TypeName.portDelegation, TypeName.port, TypeName.port⟩]

def find? (name : String) : Option RelationshipType :=
  all.find? (fun t => t.name = name)

end RelationshipType

end LineagePorts
