import LineagePorts.Proofs.Store.Run

/-!
# Integrity of a store

Every record stands under its own identifier, and every relationship has a known type and links two
stored entities of the types that its definition asks for. Each rule by which a call changes a store
keeps this, provided that the identifiers of new records are not in use, and so does every run.
-/

namespace LineagePorts.Store

/-- The type of a relationship is known, and both its ends are stored and of the types wanted. -/
def WellTyped (s : Store) (r : Relationship) : Prop :=
  ∃ type, RelationshipType.find? r.typeName = some type ∧
    s.HasType r.end1 type.end1Type ∧ s.HasType r.end2 type.end2Type

structure Integrity (s : Store) : Prop where
  entityId : ∀ {id e}, s.entities.get? id = some e → e.id = id
  relationshipId : ∀ {id r}, s.relationships.get? id = some r → r.id = id
  wellTyped : ∀ {id r}, s.relationships.get? id = some r → s.WellTyped r

theorem Integrity.keyed {s : Store} (sound : s.Integrity) : s.Keyed :=
  ⟨sound.entityId, sound.relationshipId⟩

instance (s : Store) (id : EntityId) (typeName : String) : Decidable (s.HasType id typeName) :=
  decidable_of_iff ((s.entities.get? id).any (fun e => TypeName.isA e.typeName typeName) = true) (by
    rw [Option.any_eq_true, HasType])

instance (s : Store) (r : Relationship) : Decidable (s.WellTyped r) :=
  decidable_of_iff (∃ type ∈ RelationshipType.find? r.typeName,
    s.HasType r.end1 type.end1Type ∧ s.HasType r.end2 type.end2Type) Iff.rfl

/-- Integrity told by the entries of the two tables, so that it can be computed. -/
theorem integrity_iff_entries {s : Store} : s.Integrity ↔
    (∀ entry ∈ s.entities.toList, entry.2.id = entry.1) ∧
      ∀ entry ∈ s.relationships.toList, entry.2.id = entry.1 ∧ s.WellTyped entry.2 := by
  constructor
  · intro sound
    refine ⟨fun entry mem => sound.entityId (Table.get?_eq_some_iff.mpr mem), fun entry mem => ?_⟩
    have stored := Table.get?_eq_some_iff.mpr mem
    exact ⟨sound.relationshipId stored, sound.wellTyped stored⟩
  · rintro ⟨entities, relationships⟩
    exact ⟨fun stored => entities _ (Table.get?_eq_some_iff.mp stored),
      fun stored => (relationships _ (Table.get?_eq_some_iff.mp stored)).1,
      fun stored => (relationships _ (Table.get?_eq_some_iff.mp stored)).2⟩

instance (s : Store) : Decidable s.Integrity :=
  decidable_of_iff _ integrity_iff_entries.symm

/-- Every entity of the first store is in the second one, with the same type. -/
def KeepsTypes (s s' : Store) : Prop :=
  ∀ id e, s.entities.get? id = some e →
    ∃ e', s'.entities.get? id = some e' ∧ e'.typeName = e.typeName

theorem HasType.mono {s s' : Store} {id : EntityId} {typeName : String} (keeps : KeepsTypes s s')
    (typed : s.HasType id typeName) : s'.HasType id typeName := by
  obtain ⟨e, stored, isA⟩ := typed
  obtain ⟨e', stored', same⟩ := keeps id e stored
  exact ⟨e', stored', same ▸ isA⟩

theorem WellTyped.mono {s s' : Store} {r : Relationship} (keeps : KeepsTypes s s')
    (typed : s.WellTyped r) : s'.WellTyped r := by
  obtain ⟨type, known, first, second⟩ := typed
  exact ⟨type, known, first.mono keeps, second.mono keeps⟩

/-- The ends of a stored relationship are stored. -/
theorem Integrity.ends_stored {s : Store} (sound : s.Integrity) {id : RelationshipId}
    {r : Relationship} (stored : s.relationships.get? id = some r) :
    (∃ e, s.entities.get? r.end1 = some e) ∧ ∃ e, s.entities.get? r.end2 = some e := by
  obtain ⟨_, _, ⟨e, first, _⟩, ⟨f, second, _⟩⟩ := sound.wellTyped stored
  exact ⟨⟨e, first⟩, ⟨f, second⟩⟩

theorem integrity_empty : Integrity empty where
  entityId stored := nomatch stored
  relationshipId stored := nomatch stored
  wellTyped stored := nomatch stored

theorem keepsTypes_putEntity {s : Store} {e : Entity} (fresh : s.entities.get? e.id = none) :
    KeepsTypes s (s.putEntity e) := by
  intro id f stored
  exact ⟨f, get?_putEntity_old fresh stored, rfl⟩

theorem Integrity.putEntity {s : Store} (sound : s.Integrity) {e : Entity}
    (fresh : s.entities.get? e.id = none) : (s.putEntity e).Integrity where
  entityId stored := (sound.keyed.putEntity e).entities stored
  relationshipId stored := sound.relationshipId stored
  wellTyped stored := (sound.wellTyped stored).mono (keepsTypes_putEntity fresh)

theorem Integrity.addRelationship {s : Store} (sound : s.Integrity) {r : Relationship}
    (typed : s.WellTyped r) : (s.addRelationship r).Integrity where
  entityId stored := sound.entityId stored
  relationshipId stored := (sound.keyed.addRelationship r).relationships stored
  wellTyped stored := by
    rcases get?_addRelationship_cases stored with ⟨rfl, rfl⟩ | old
    · exact typed
    · exact sound.wellTyped old

/-- A new relationship takes its type from the definition, and thus is of a known type. -/
theorem wellTyped_newRelationship {s : Store} {stamp : Stamp} {who : Caller} {name : String}
    {type : RelationshipType} {start finish : EntityId}
    (known : RelationshipType.find? name = some type)
    (starts : s.HasType start type.end1Type) (finishes : s.HasType finish type.end2Type) :
    s.WellTyped (newRelationship stamp who type start finish) := by
  refine ⟨type, ?_, starts, finishes⟩
  rw [newRelationship, RelationshipType.name_of_find? known]
  exact known

theorem Integrity.replace {s : Store} (sound : s.Integrity) {id : EntityId} {e e' : Entity}
    (stored : s.entities.get? id = some e) (sameId : e'.id = e.id)
    (sameType : e'.typeName = e.typeName) :
    (s.replace id e').Integrity where
  entityId found := (sound.keyed.replace (sameId.trans (sound.entityId stored))).entities found
  relationshipId found := sound.relationshipId found
  wellTyped found := by
    refine (sound.wellTyped found).mono fun k f old => ?_
    rw [get?_replace]
    split
    · rename_i same
      subst same
      obtain rfl := Option.some.inj (stored.symm.trans old)
      exact ⟨e', rfl, sameType⟩
    · exact ⟨f, old, rfl⟩

/-- No relationship is left dangling: those that touch the entity go with it. -/
theorem Integrity.without {s : Store} (sound : s.Integrity) (id : EntityId) :
    (s.without id).Integrity where
  entityId found := (sound.keyed.without id).entities found
  relationshipId found := (sound.keyed.without id).relationships found
  wellTyped found := by
    obtain ⟨old, away1, away2⟩ := relationships_without_iff.mp found
    obtain ⟨type, known, ⟨e, first, isA1⟩, ⟨f, second, isA2⟩⟩ := sound.wellTyped old
    exact ⟨type, known, ⟨e, entities_without_iff.mpr ⟨away1, first⟩, isA1⟩,
      ⟨f, entities_without_iff.mpr ⟨away2, second⟩, isA2⟩⟩

theorem Integrity.change {s s' : Store} {stamp : Stamp} {who : Caller} {call : Call}
    {answer : Answer} (sound : s.Integrity) (fresh : stamp.Fresh s call)
    (change : Change s stamp who call answer s') : s'.Integrity := by
  cases change with
  | create free => exact sound.putEntity fresh.1
  | @createOwned typeName properties o type free known owner owned =>
    refine (sound.putEntity fresh.1).addRelationship ?_
    refine wellTyped_newRelationship known (owner.mono (keepsTypes_putEntity fresh.1)) ?_
    exact ⟨newEntity stamp who typeName properties, by simp [get?_putEntity, newEntity], owned⟩
  | update stored free => exact sound.replace stored rfl rfl
  | delete stored => exact sound.without _
  | link known starts finishes absent =>
    exact sound.addRelationship (wellTyped_newRelationship known starts finishes)
  | keep known starts finishes present => exact sound

theorem Integrity.run {s : Store} (sound : s.Integrity) {calls : List Issued}
    (fresh : s.FreshRun calls) : (s.run calls).Integrity :=
  run_induction (fun sound fresh change => sound.change fresh change) sound fresh

/-- However many calls are made on an empty or a sound store, in whatever order and with whatever
success, no relationship ever dangles or links entities of the wrong types. -/
theorem no_edge_left_dangling (calls : List Issued) :
    (empty.FreshRun calls → (empty.run calls).Integrity) ∧
    ∀ x : Snapshot, (ofSnapshot x).Integrity → (ofSnapshot x).FreshRun calls →
      ((ofSnapshot x).run calls).Integrity :=
  ⟨fun fresh => integrity_empty.run fresh, fun _ sound fresh => sound.run fresh⟩

theorem no_edge_left_dangling_sample :
    (empty.FreshRun sampleRun ∧ (empty.run sampleRun).Integrity) ∧
      (ofSnapshot sampleSnapshot).Integrity ∧
      (ofSnapshot sampleSnapshot).FreshRun (sampleRun.drop 2) ∧
      ((ofSnapshot sampleSnapshot).run (sampleRun.drop 2)).Integrity := by
  have fresh : empty.FreshRun sampleRun := by decide +kernel
  have sound : (ofSnapshot sampleSnapshot).Integrity := by decide +kernel
  have later : (ofSnapshot sampleSnapshot).FreshRun (sampleRun.drop 2) := by decide +kernel
  exact ⟨⟨fresh, (no_edge_left_dangling sampleRun).1 fresh⟩, sound, later,
    (no_edge_left_dangling (sampleRun.drop 2)).2 _ sound later⟩

end LineagePorts.Store
