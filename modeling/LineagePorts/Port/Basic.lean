import LineagePorts.PortType
import LineagePorts.Table
import LineagePorts.TypeName

/-!
# Ports

A port is an input or output of a process in the lineage graph. A port implementation belongs to
its process directly, a port alias forwards to another port.
-/

namespace LineagePorts

inductive PortKind where
  | implementation
  | alias
deriving DecidableEq

def PortKind.typeName : PortKind → String
  | .implementation => TypeName.portImplementation
  | .alias => TypeName.portAlias

structure Port where
  qualifiedName : String
  displayName : String
  portType : PortType
  additionalProperties : Table String String
deriving DecidableEq

def Port.plain (qualifiedName displayName : String) (portType : PortType) : Port :=
  ⟨qualifiedName, displayName, portType, .empty⟩

def Port.addProperty (p : Port) (key value : String) : Port :=
  { p with additionalProperties := p.additionalProperties.insert key value }

structure PortImplementation where
  port : Port
deriving DecidableEq

structure PortAlias where
  port : Port
  /-- The qualified name of the port that the alias forwards to. -/
  delegatesTo : Option String
deriving DecidableEq

end LineagePorts
