import LineagePorts.Data.Table
import LineagePorts.Port.Basic

/-!
# Ports as data

The record of a port. Empty additional properties are left out. The records of an implementation
and of an alias have the fields of the port itself beside their own, and cannot be given as a list.
-/

namespace LineagePorts

namespace PortType

def toData (t : PortType) : Data := .text t.symbol

def ofData (r : Reading) (d : Data) : Option PortType :=
  (r.asName d).bind ofSymbol?

end PortType

namespace PortKind

def symbol : PortKind → String
  | .implementation => "implementation"
  | .alias => "alias"

def ofSymbol? (name : String) : Option PortKind :=
  [PortKind.implementation, .alias].find? (fun k => k.symbol = name)

def toData (k : PortKind) : Data := .text k.symbol

def ofData (r : Reading) (d : Data) : Option PortKind :=
  (r.asName d).bind ofSymbol?

end PortKind

namespace Port

def fields (p : Port) : List (String × Data) :=
  [("qualified_name", .text p.qualifiedName),
   ("display_name", .text p.displayName),
   ("port_type", p.portType.toData)] ++
    if p.additionalProperties.isEmpty then []
    else [("additional_properties", .ofTextTable p.additionalProperties)]

def toData (p : Port) : Data := .record p.fields

def ofData (r : Reading) (d : Data) : Option Port := do
  let f ← r.fields ["qualified_name", "display_name", "port_type", "additional_properties"] d
  return {
    qualifiedName := ← f.required "qualified_name" Data.asText
    displayName := ← f.required "display_name" Data.asText
    portType := ← f.required "port_type" (PortType.ofData r)
    additionalProperties := ← f.orElse "additional_properties" .empty Data.asTextTable }

end Port

namespace PortImplementation

def toData (p : PortImplementation) : Data := p.port.toData

def ofData (r : Reading) : Data → Option PortImplementation
  | .record fields => do
    let held ← r.hold (.record fields)
    return ⟨← Port.ofData held (.record fields)⟩
  | _ => none

end PortImplementation

namespace PortAlias

def toData (a : PortAlias) : Data :=
  .record (a.port.fields ++ Data.optionalField "delegates_to" .text a.delegatesTo)

def ofData (r : Reading) : Data → Option PortAlias
  | .record fields => do
    let own ← r.fields ["delegates_to"] (.record fields)
    let held ← r.hold (.record fields)
    return {
      port := ← Port.ofData held (.record fields)
      delegatesTo := ← own.optional "delegates_to" Data.asText }
  | _ => none

end PortAlias

end LineagePorts
