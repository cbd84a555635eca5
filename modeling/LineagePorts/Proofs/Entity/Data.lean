import LineagePorts.Entity.Data
import LineagePorts.Proofs.Data.Table
import LineagePorts.Proofs.Entity.Identifier
import LineagePorts.Proofs.Instant.Text

/-!
# Reading stored records back

Entities and relationships are read back from their records as they were, and their records are
plain, so that a JSON text keeps them.
-/

namespace LineagePorts

/-- A record whose fields are known and come in order is read as it stands. -/
theorem Reading.fields_of_sublist {r : Reading} {names : List String}
    {fs : List (String × Data)} (distinct : names.Nodup) (known : (fs.map Prod.fst).Sublist names) :
    r.fields names (.record fs) = some ⟨fs⟩ := by
  have kept : fs.filter (fun f => f.1 ∈ names) = fs := by
    rw [List.filter_eq_self]
    intro f mem
    exact decide_eq_true (known.subset (List.mem_map_of_mem mem))
  rw [fields, kept]
  exact if_pos (distinct.sublist known)

/-- Whatever fits into the room of a reader can be set aside by it. -/
theorem Reading.hold_of_holdable {r : Reading} {d : Data} (needed : Nat)
    (fits : ∀ room, needed ≤ room → d.holdable room = true) (enough : r.room.all (needed ≤ ·)) :
    r.hold d = some { r with spareItems := false, held := true } := by
  refine if_pos ?_
  cases limit : r.room with
  | none => rfl
  | some room =>
    rw [limit] at enough
    exact fits room (of_decide_eq_true enough)

theorem Id.ofData_toData {kind : IdKind} (id : Id kind) : ofData id.toData = some id := by
  have read := Ulid.ofText_text id.ulid
  simp [ofData, toData, Data.asText, read]

theorem Instant.ofData_toData (t : Instant) : ofData t.toData = some t := by
  rw [ofData, toData, Data.asText, Option.bind_some, ofText?_text]

theorem Instant.asOption_toData (t : Instant) : Data.asOption ofData t.toData = some (some t) := by
  have read : Data.asOption ofData t.toData = (ofData t.toData).map some := rfl
  rw [read, ofData_toData, Option.map_some]

theorem Data.asOption_text (s : String) : asOption asText (.text s) = some (some s) := rfl

namespace PropertyValue

theorem contentOfData_content (r : Reading) (v : PropertyValue) :
    contentOfData r v.kindSymbol v.content = some v := by
  cases v with
  | text s => rfl
  | symbol ordinal name =>
    have read : contentOfData r "enum" (symbol ordinal name).content =
        (Data.asUInt32 (.int ordinal.toNat)).bind fun n => some (.symbol n name) := rfl
    rw [kindSymbol, read, Data.asUInt32_toNat]
    rfl
  | map entries =>
    have read : contentOfData r "map" (map entries).content =
        (Data.asTextTable (.ofTextTable entries)).map .map := rfl
    rw [kindSymbol, read, Data.asTextTable_ofTextTable]
    rfl

theorem ofData_toData (r : Reading) (v : PropertyValue) : ofData r v.toData = some v :=
  contentOfData_content r.deeper v

theorem plain_toData (v : PropertyValue) : v.toData.Plain := by
  cases v with
  | text s => exact ⟨trivial, trivial, trivial⟩
  | symbol ordinal name =>
    have fits : (ordinal.toNat : Int).natAbs ≤ Json.largestWord := by
      have inRange := ordinal.toNat_lt
      rw [Json.largestWord]
      omega
    exact ⟨trivial, ⟨fits, trivial, trivial⟩, trivial⟩
  | map entries =>
    exact ⟨trivial, Data.plain_ofTextTable entries, trivial⟩

end PropertyValue

namespace Properties

theorem ofData_toData (r : Reading) (p : Properties) : ofData r p.toData = some p :=
  Data.asTable_ofTable (PropertyValue.ofData_toData r.deeper) p

theorem plain_toData (p : Properties) : p.toData.Plain :=
  Data.plain_ofTable PropertyValue.plain_toData p

end Properties

namespace Entity

theorem plain_toData (e : Entity) : e.toData.Plain := by
  have fits : (e.version.toNat : Int).natAbs ≤ Json.largestWord := by
    have inRange := e.version.toNat_lt
    rw [Json.largestWord]
    omega
  have first : Data.PlainFields [("guid", e.id.toData), ("type_name", .text e.typeName),
      ("properties", e.properties.toData), ("created_by", .text e.createdBy)] :=
    ⟨trivial, trivial, e.properties.plain_toData, trivial, trivial⟩
  have updatedBy : Data.PlainFields (Data.optionalField "updated_by" .text e.updatedBy) :=
    @Data.plainFields_optionalField _ .text (fun _ => trivial) _ _
  have updateTime :
      Data.PlainFields (Data.optionalField "update_time" Instant.toData e.updateTime) :=
    @Data.plainFields_optionalField _ Instant.toData (fun _ => trivial) _ _
  have source :
      Data.PlainFields (Data.optionalField "external_source" .text e.externalSource) :=
    @Data.plainFields_optionalField _ .text (fun _ => trivial) _ _
  rw [toData, Data.Plain]
  simp only [Data.plainFields_append]
  exact ⟨⟨⟨⟨⟨first, updatedBy⟩, trivial, trivial⟩, updateTime⟩, fits, trivial⟩, source⟩

theorem ofData_toData (r : Reading) (e : Entity) : ofData r e.toData = some e := by
  rw [ofData, toData, Reading.fields_of_sublist (by decide) ?known]
  case known =>
    cases e.updatedBy <;> cases e.updateTime <;> cases e.externalSource <;>
      simp [Data.optionalField]
  cases e with
  | mk id typeName properties createdBy updatedBy createTime updateTime version source =>
    cases updatedBy <;> cases updateTime <;> cases source <;>
      simp [Fields.required, Fields.optional, Fields.orElse, Fields.find, Data.optionalField,
        Data.asText, Data.asOption_text, Data.asUInt64_toNat, Id.ofData_toData,
        Instant.ofData_toData, Instant.asOption_toData, Properties.ofData_toData]

end Entity

namespace Relationship

theorem plain_toData (r : Relationship) : r.toData.Plain := by
  have source :
      Data.PlainFields (Data.optionalField "external_source" .text r.externalSource) :=
    @Data.plainFields_optionalField _ .text (fun _ => trivial) _ _
  rw [toData, Data.Plain, Data.plainFields_append]
  exact ⟨⟨trivial, trivial, trivial, trivial, trivial, trivial, trivial⟩, source⟩

theorem ofData_toData (reading : Reading) (r : Relationship) :
    ofData reading r.toData = some r := by
  rw [ofData, toData, Reading.fields_of_sublist (by decide) ?known]
  case known =>
    cases r.externalSource <;> simp [Data.optionalField]
  cases r with
  | mk id typeName end1 end2 createdBy createTime source =>
    cases source <;>
      simp [Fields.required, Fields.optional, Fields.orElse, Fields.find, Data.optionalField,
        Data.asText, Data.asOption_text, Id.ofData_toData, Instant.ofData_toData]

end Relationship

end LineagePorts
