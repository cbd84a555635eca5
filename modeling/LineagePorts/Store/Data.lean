import LineagePorts.Entity.Data
import LineagePorts.Store.Basic

/-!
# Snapshots as data

The record of a snapshot, and with it the text of a store file. Either list may be left out.
-/

namespace LineagePorts.Snapshot

def toData (s : Snapshot) : Data :=
  .record [
    ("entities", .list (s.entities.map Entity.toData)),
    ("relationships", .list (s.relationships.map Relationship.toData))]

def ofData (r : Reading) (d : Data) : Option Snapshot := do
  let f ← r.fields ["entities", "relationships"] d
  return {
    entities := ← f.orElse "entities" [] (Data.asListOf (Entity.ofData r.deeper.deeper))
    relationships := ← f.orElse "relationships" []
      (Data.asListOf (Relationship.ofData r.deeper.deeper)) }

end LineagePorts.Snapshot
