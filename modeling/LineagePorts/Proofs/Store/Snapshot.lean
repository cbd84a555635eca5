import LineagePorts.Proofs.Entity.Data
import LineagePorts.Proofs.Store.Run
import LineagePorts.Store.File

/-!
# Snapshots read back

A snapshot is read back from the text of a store file as it was, and a store is the store of its
own snapshot when every record stands under its own identifier, as in every store that is made from
a snapshot.
-/

namespace LineagePorts

namespace Snapshot

theorem plain_toData (x : Snapshot) : x.toData.Plain := by
  have entities : (Data.list (x.entities.map Entity.toData)).Plain :=
    Data.plain_list Entity.plain_toData x.entities
  have relationships : (Data.list (x.relationships.map Relationship.toData)).Plain :=
    Data.plain_list Relationship.plain_toData x.relationships
  exact ⟨entities, relationships, trivial⟩

theorem ofData_toData (r : Reading) (x : Snapshot) : ofData r x.toData = some x := by
  have entities := Data.asListOf_map (Entity.ofData_toData r.deeper.deeper) x.entities
  have relationships :=
    Data.asListOf_map (Relationship.ofData_toData r.deeper.deeper) x.relationships
  rw [ofData, toData, Reading.fields_of_sublist (by decide) ?known]
  case known => exact .refl _
  simp [Fields.orElse, Fields.find, entities, relationships]

theorem ofFileText?_fileText (x : Snapshot) : ofFileText? x.fileText = some x := by
  have text : x.fileText = String.ofList (Json.write .pretty 0 x.toData) := rfl
  rw [ofFileText?, text, Json.read_write x.plain_toData, Option.bind_some, ofData_toData]

end Snapshot

namespace Store

theorem ofSnapshot_snapshot {s : Store} (keyed : s.Keyed) : ofSnapshot s.snapshot = s := by
  rw [ofSnapshot, snapshot, Table.ofList_values keyed.entities,
    Table.ofList_values keyed.relationships]

theorem keyed_ofSnapshot (x : Snapshot) : (ofSnapshot x).Keyed where
  entities stored := Table.key_of_get?_ofList stored
  relationships stored := Table.key_of_get?_ofList stored

end Store

end LineagePorts
