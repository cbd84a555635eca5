import LineagePorts.Entity.Basic
import LineagePorts.Port.Basic

/-!
# Ports as entities

The properties with which a port is stored, and the port that stored properties stand for. Empty
additional properties are left out, and the port type is stored by its ordinal and its symbol.
-/

namespace LineagePorts

def Port.properties (p : Port) : Properties :=
  let required : Properties := Table.ofList [
    (PropertyName.qualifiedName, .text p.qualifiedName),
    (PropertyName.displayName, .text p.displayName),
    (PropertyName.portType, .symbol p.portType.ordinal p.portType.symbol)]
  if p.additionalProperties.isEmpty then required
  else required.insert PropertyName.additionalProperties (.map p.additionalProperties)

namespace Entity

/-- The symbol of the stored port type. -/
def portSymbol? (e : Entity) : Option String :=
  e.properties.symbol? PropertyName.portType

def displayName? (e : Entity) : Option String :=
  e.properties.text? PropertyName.displayName

/-- The port that an entity stands for, unless a required property is missing. -/
def port? (e : Entity) : Option Port := do
  return {
    portType := ← PortType.ofText? (← e.portSymbol?)
    qualifiedName := ← e.qualifiedName?
    displayName := ← e.displayName?
    additionalProperties :=
      (e.properties.map? PropertyName.additionalProperties).getD .empty }

/-- Whether the stored port type is the declared one, up to letter case. -/
def hasPortType (e : Entity) (t : PortType) : Bool :=
  e.portSymbol?.any t.hasName

def differsFrom (e : Entity) (candidate : Properties) : Bool :=
  e.properties ≠ candidate

end Entity

end LineagePorts
