import LineagePorts.Port.Data
import LineagePorts.Proofs.Entity.Data

/-!
# Reading ports back

A port, an implementation and an alias are read back from their records as they were. The records of
the last two are set aside on the way, which the reader of a JSON text does only for records that are
not nested too deep: two levels are enough for every port.
-/

namespace LineagePorts

theorem PortType.ofData_toData (r : Reading) (t : PortType) : ofData r t.toData = some t := by
  cases t <;> rfl

theorem PortType.holdable_toData (room : Nat) (t : PortType) : t.toData.holdable room = true := by
  simp [toData, Data.holdable]

namespace Port

variable (p : Port)

theorem plainFields_fields : Data.PlainFields p.fields := by
  have always : Data.PlainFields [("qualified_name", .text p.qualifiedName),
      ("display_name", .text p.displayName), ("port_type", p.portType.toData)] :=
    ⟨trivial, trivial, trivial, trivial⟩
  rw [fields, Data.plainFields_append]
  constructor
  · exact always
  · split
    · trivial
    · exact ⟨Data.plain_ofTextTable _, trivial⟩

theorem plain_toData : p.toData.Plain := p.plainFields_fields

theorem all_holdable_fields (room : Nat) :
    p.fields.all (fun f => f.2.holdable (room + 1)) = true := by
  rw [fields, List.all_append]
  split <;> simp [Data.holdable, PortType.holdable_toData, Data.holdable_ofTextTable]

theorem names_fields :
    (p.fields.map Prod.fst).Sublist
      ["qualified_name", "display_name", "port_type", "additional_properties"] := by
  rw [fields]
  split <;> simp

/-- The fields of a port are read as that port, also when they stand among others. -/
theorem ofData_of_filter {r : Reading} {fs : List (String × Data)}
    (own : fs.filter (fun f => f.1 ∈
      ["qualified_name", "display_name", "port_type", "additional_properties"]) = p.fields) :
    ofData r (.record fs) = some p := by
  have read : r.fields ["qualified_name", "display_name", "port_type", "additional_properties"]
      (.record fs) = some ⟨p.fields⟩ := by
    rw [Reading.fields, own]
    exact if_pos (List.Nodup.sublist p.names_fields (by decide))
  rw [ofData, read]
  obtain ⟨qualifiedName, displayName, portType, additional⟩ := p
  by_cases none : additional.isEmpty
  · have empty : additional = .empty := Table.eq_empty_of_isEmpty none
    subst empty
    simp [fields, none, Fields.required, Fields.orElse, Fields.find, Data.asText,
      PortType.ofData_toData]
  · simp [fields, none, Fields.required, Fields.orElse, Fields.find, Data.asText,
      PortType.ofData_toData, Data.asTextTable_ofTextTable]

theorem filter_fields :
    p.fields.filter (fun f => f.1 ∈
      ["qualified_name", "display_name", "port_type", "additional_properties"]) = p.fields := by
  rw [List.filter_eq_self]
  intro f mem
  exact decide_eq_true (p.names_fields.subset (List.mem_map_of_mem mem))

theorem ofData_toData (r : Reading) : ofData r p.toData = some p :=
  p.ofData_of_filter p.filter_fields

end Port

theorem PortImplementation.ofData_toData {r : Reading} (enough : r.room.all (2 ≤ ·))
    (p : PortImplementation) : ofData r p.toData = some p := by
  have held : r.hold (.record p.port.fields) = some { r with spareItems := false, held := true } := by
    refine Reading.hold_of_holdable 2 ?_ enough
    rintro (_ | _ | room) fits
    · omega
    · omega
    · exact p.port.all_holdable_fields room
  have port := p.port.ofData_toData { r with spareItems := false, held := true }
  rw [Port.toData] at port
  simp [ofData, toData, Port.toData, held, port]

namespace PortAlias

variable (a : PortAlias)

theorem plain_toData : a.toData.Plain := by
  have target : Data.PlainFields (Data.optionalField "delegates_to" .text a.delegatesTo) :=
    @Data.plainFields_optionalField _ .text (fun _ => trivial) _ _
  rw [toData, Data.Plain, Data.plainFields_append]
  exact ⟨a.port.plainFields_fields, target⟩

/-- Each of the two readers of the record of an alias passes over the fields of the other. -/
theorem filter_fields :
    (a.port.fields ++ Data.optionalField "delegates_to" .text a.delegatesTo).filter (fun f => f.1 ∈
        ["qualified_name", "display_name", "port_type", "additional_properties"]) =
      a.port.fields := by
  rw [List.filter_append, a.port.filter_fields]
  cases a.delegatesTo <;> simp [Data.optionalField]

theorem filter_target :
    (a.port.fields ++ Data.optionalField "delegates_to" .text a.delegatesTo).filter
        (fun f => f.1 ∈ ["delegates_to"]) =
      Data.optionalField "delegates_to" .text a.delegatesTo := by
  rw [List.filter_append, Port.fields]
  cases a.delegatesTo <;> split <;> simp [Data.optionalField]

theorem ofData_toData {r : Reading} (enough : r.room.all (2 ≤ ·)) :
    ofData r a.toData = some a := by
  have own : r.fields ["delegates_to"] a.toData =
      some ⟨Data.optionalField "delegates_to" .text a.delegatesTo⟩ := by
    rw [toData, Reading.fields, a.filter_target]
    cases a.delegatesTo <;> simp [Data.optionalField]
  have held : r.hold a.toData = some { r with spareItems := false, held := true } := by
    refine Reading.hold_of_holdable 2 ?_ enough
    rintro (_ | _ | room) fits
    · omega
    · omega
    · simp [toData, Data.holdable, a.port.all_holdable_fields, Data.holdable_optionalText]
  have port := a.port.ofData_of_filter (r := { r with spareItems := false, held := true })
    a.filter_fields
  have read : ofData r a.toData = (r.fields ["delegates_to"] a.toData).bind fun own =>
      (r.hold a.toData).bind fun held => (Port.ofData held a.toData).bind fun port =>
        (own.optional "delegates_to" Data.asText).bind fun target => some ⟨port, target⟩ := rfl
  rw [read, own, held, Option.bind_some, Option.bind_some, toData, port]
  obtain ⟨port, target⟩ := a
  cases target <;>
    simp [Data.optionalField, Fields.optional, Fields.orElse, Fields.find, Data.asOption_text]

end PortAlias

end LineagePorts
