import LineagePorts.Port.Stored
import LineagePorts.Table.Lemmas

/-!
# Reading a stored port back

The properties with which a port is stored give its parts back, so that a port is known from its
properties, and the two readers of a stored port type agree on them.
-/

namespace LineagePorts

namespace PortType

theorem ofText?_symbol (t : PortType) : ofText? t.symbol = some t := by
  cases t <;> decide +kernel

theorem hasName_symbol_iff (t u : PortType) : t.hasName u.symbol = true ↔ u = t := by
  cases t <;> cases u <;> decide +kernel

end PortType

namespace Port

/-- The properties that every port has. -/
def requiredProperties (p : Port) : Properties :=
  Table.ofList [
    (PropertyName.qualifiedName, .text p.qualifiedName),
    (PropertyName.displayName, .text p.displayName),
    (PropertyName.portType, .symbol p.portType.ordinal p.portType.symbol)]

theorem get?_requiredProperties (p : Port) (name : String) :
    p.requiredProperties.get? name =
      if PropertyName.portType = name then some (.symbol p.portType.ordinal p.portType.symbol)
      else if PropertyName.displayName = name then some (.text p.displayName)
      else if PropertyName.qualifiedName = name then some (.text p.qualifiedName)
      else none := by
  simp only [requiredProperties, Table.ofList, List.foldl, Table.get?_insert, Table.get?_empty]

theorem get?_properties (p : Port) (name : String) :
    p.properties.get? name =
      if PropertyName.additionalProperties = name then
        if p.additionalProperties.isEmpty then none else some (.map p.additionalProperties)
      else p.requiredProperties.get? name := by
  have properties_eq : p.properties = if p.additionalProperties.isEmpty then p.requiredProperties
      else p.requiredProperties.insert PropertyName.additionalProperties
        (.map p.additionalProperties) := rfl
  rw [properties_eq]
  by_cases same : PropertyName.additionalProperties = name
  · subst same
    rw [if_pos rfl]
    split
    · rw [get?_requiredProperties]
      rfl
    · rw [Table.get?_insert, if_pos rfl]
  · rw [if_neg same]
    split
    · rfl
    · rw [Table.get?_insert, if_neg same]

theorem qualifiedName?_properties (p : Port) :
    p.properties.qualifiedName? = some p.qualifiedName := by
  rw [Properties.qualifiedName?, Properties.text?, get?_properties, get?_requiredProperties]
  rfl

theorem displayName?_properties (p : Port) :
    p.properties.text? PropertyName.displayName = some p.displayName := by
  rw [Properties.text?, get?_properties, get?_requiredProperties]
  rfl

theorem symbol?_properties (p : Port) :
    p.properties.symbol? PropertyName.portType = some p.portType.symbol := by
  rw [Properties.symbol?, get?_properties, get?_requiredProperties]
  rfl

theorem map?_properties (p : Port) :
    (p.properties.map? PropertyName.additionalProperties).getD .empty =
      p.additionalProperties := by
  rw [Properties.map?, get?_properties, if_pos rfl]
  split
  · rename_i isEmpty
    have nothing : p.additionalProperties.toList = [] := List.isEmpty_iff.mp isEmpty
    exact Table.ext nothing.symm
  · rfl

end Port

namespace Entity

variable {e : Entity} {p : Port}

theorem qualifiedName?_of_port (stored : e.properties = p.properties) :
    e.qualifiedName? = some p.qualifiedName := by
  rw [qualifiedName?, stored, p.qualifiedName?_properties]

theorem portSymbol?_of_port (stored : e.properties = p.properties) :
    e.portSymbol? = some p.portType.symbol := by
  rw [portSymbol?, stored, p.symbol?_properties]

theorem port?_of_port (stored : e.properties = p.properties) : e.port? = some p := by
  rw [port?, portSymbol?_of_port stored, qualifiedName?_of_port stored, displayName?, stored,
    p.displayName?_properties, p.map?_properties]
  simp only [Option.bind_eq_bind, Option.bind_some, PortType.ofText?_symbol, Option.pure_def]

theorem hasPortType_of_port (stored : e.properties = p.properties) (t : PortType) :
    e.hasPortType t = true ↔ p.portType = t := by
  rw [hasPortType, portSymbol?_of_port stored]
  exact PortType.hasName_symbol_iff t p.portType

end Entity

theorem Port.properties_injective {p q : Port} (same : p.properties = q.properties) : p = q := by
  let e : Entity := ⟨⟨.zero⟩, "", p.properties, "", none, .epoch, none, 1, none⟩
  have hp : e.port? = some p := Entity.port?_of_port rfl
  have hq : e.port? = some q := Entity.port?_of_port same
  exact Option.some.inj (hp.symm.trans hq)

end LineagePorts
