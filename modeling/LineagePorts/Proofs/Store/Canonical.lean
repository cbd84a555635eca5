import LineagePorts.Proofs.Store.Snapshot

/-!
# The snapshot of a store is canonical

A snapshot may list records in any order and several of them under one identifier. The store that is
made from it keeps the last of these, and a store has one listing only, that by ascending identifiers.
Hence the snapshot of a store says which records it holds and nothing about how they came there: it is
the same for two stores, and so is the text of their files, exactly when they hold the same records.
-/

namespace LineagePorts

namespace Snapshot

/-- The last record that a snapshot gives for an entity. -/
def lastEntity? (x : Snapshot) (id : EntityId) : Option Entity :=
  x.entities.reverse.find? fun e => e.id = id

/-- The last record that a snapshot gives for a relationship. -/
def lastRelationship? (x : Snapshot) (id : RelationshipId) : Option Relationship :=
  x.relationships.reverse.find? fun r => r.id = id

/-- Records are listed by strictly ascending identifiers, and hence each identifier once. -/
structure Ascending (x : Snapshot) : Prop where
  entities : x.entities.Pairwise fun a b => a.id < b.id
  relationships : x.relationships.Pairwise fun a b => a.id < b.id

/-- A snapshot that lists, for each identifier in `x`, the last record that `x` gives for it, and
nothing else. -/
structure Settles (x y : Snapshot) : Prop where
  entities (e : Entity) : e ∈ y.entities ↔ x.lastEntity? e.id = some e
  relationships (r : Relationship) : r ∈ y.relationships ↔ x.lastRelationship? r.id = some r

theorem fileText_inj {x y : Snapshot} : x.fileText = y.fileText ↔ x = y := by
  constructor
  · intro same
    have read : some x = some y := by
      rw [← ofFileText?_fileText x, same, ofFileText?_fileText]
    exact Option.some.inj read
  · exact congrArg fileText

end Snapshot

namespace Store

/-- Both stores hold the same records, under whatever keys. -/
structure SameRecords (s t : Store) : Prop where
  entities (e : Entity) : (∃ id, s.entities.get? id = some e) ↔ ∃ id, t.entities.get? id = some e
  relationships (r : Relationship) :
    (∃ id, s.relationships.get? id = some r) ↔ ∃ id, t.relationships.get? id = some r

theorem ascending_snapshot {s : Store} (keyed : s.Keyed) : s.snapshot.Ascending where
  entities := Table.ascending_values keyed.entities
  relationships := Table.ascending_values keyed.relationships

theorem settles_ofSnapshot (x : Snapshot) : x.Settles (ofSnapshot x).snapshot where
  entities _ := Table.mem_values_ofList_iff
  relationships _ := Table.mem_values_ofList_iff

theorem SameRecords.eq {s t : Store} (same : s.SameRecords t) (keyed : s.Keyed)
    (keyed' : t.Keyed) : s = t := by
  have entities : s.entities = t.entities := by
    refine Table.eq_of_mem_values_iff keyed.entities keyed'.entities fun e => ?_
    rw [Table.mem_values_iff, Table.mem_values_iff, same.entities]
  have relationships : s.relationships = t.relationships := by
    refine Table.eq_of_mem_values_iff keyed.relationships keyed'.relationships fun r => ?_
    rw [Table.mem_values_iff, Table.mem_values_iff, same.relationships]
  cases s
  cases t
  exact congr (congrArg Store.mk entities) relationships

theorem snapshot_eq_iff {s t : Store} (keyed : s.Keyed) (keyed' : t.Keyed) :
    s.snapshot = t.snapshot ↔ s.SameRecords t := by
  constructor
  · intro same
    have equal : s = t := by
      rw [← ofSnapshot_snapshot keyed, same, ofSnapshot_snapshot keyed']
    subst equal
    exact ⟨fun _ => Iff.rfl, fun _ => Iff.rfl⟩
  · intro same
    rw [same.eq keyed keyed']

/-- A store that is made from a snapshot has the canonical one with the same records, a store is made
from its own snapshot, and after any calls two stores have one snapshot, and one file text, if and only
if they hold the same records. -/
theorem snapshot_canonical :
    (∀ x : Snapshot, (ofSnapshot x).snapshot.Ascending ∧ x.Settles (ofSnapshot x).snapshot ∧
      (ofSnapshot (ofSnapshot x).snapshot).snapshot = (ofSnapshot x).snapshot) ∧
    (∀ {s : Store}, s.Keyed → ofSnapshot s.snapshot = s) ∧
    ∀ {s t : Store}, s.Keyed → t.Keyed → ∀ calls calls' : List Issued,
      ((s.run calls).snapshot = (t.run calls').snapshot ↔
        (s.run calls).SameRecords (t.run calls')) ∧
      ((s.run calls).snapshot.fileText = (t.run calls').snapshot.fileText ↔
        (s.run calls).SameRecords (t.run calls')) := by
  refine ⟨fun x => ⟨?ascending, settles_ofSnapshot x, ?fixed⟩, ofSnapshot_snapshot, ?same⟩
  case ascending => exact ascending_snapshot (keyed_ofSnapshot x)
  case fixed => rw [ofSnapshot_snapshot (keyed_ofSnapshot x)]
  case same =>
    intro s t keyed keyed' calls calls'
    have records := snapshot_eq_iff (keyed.run calls) (keyed'.run calls')
    exact ⟨records, Snapshot.fileText_inj.trans records⟩

/-- The creation of a process at the n-th stamp. -/
def sampleCreation (n : Nat) (name : String) : Issued :=
  ⟨.ofClock .epoch (2 * n), ⟨"steward", ⟨⟨.zero⟩, "engine"⟩⟩,
    .createEntity TypeName.process (.ofList [(PropertyName.qualifiedName, .text name)]) none⟩

/-- The records of two processes, the later one first and the earlier one twice. -/
def unsortedSnapshot : Snapshot :=
  let created (n : Nat) (name : String) := (empty.run [sampleCreation n name]).entities.values
  ⟨created 1 "q" ++ created 0 "old" ++ created 0 "p", []⟩

theorem snapshot_canonical_sample :
    ofSnapshot (ofSnapshot unsortedSnapshot).snapshot = ofSnapshot unsortedSnapshot ∧
    (ofSnapshot unsortedSnapshot).snapshot.fileText =
      (empty.run [sampleCreation 1 "q", sampleCreation 0 "p"]).snapshot.fileText ∧
    (ofSnapshot unsortedSnapshot).snapshot.fileText ≠
      (empty.run [sampleCreation 1 "q", sampleCreation 0 "old"]).snapshot.fileText := by
  obtain ⟨-, back, files⟩ := snapshot_canonical
  have keyed := keyed_ofSnapshot unsortedSnapshot
  have compare := files keyed keyed_empty []
  refine ⟨back keyed, ?same, ?other⟩
  case same =>
    have equal : (ofSnapshot unsortedSnapshot).run [] =
        empty.run [sampleCreation 1 "q", sampleCreation 0 "p"] := by decide +kernel
    refine (compare _).2.mpr ?_
    rw [equal]
    exact ⟨fun _ => Iff.rfl, fun _ => Iff.rfl⟩
  case other =>
    intro same
    have listed := (compare _).1.mpr ((compare _).2.mp same)
    exact absurd listed (by decide +kernel)

end Store

end LineagePorts
