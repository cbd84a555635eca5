import LineagePorts.Proofs.Request.Conduct
import LineagePorts.Proofs.Request.Lookup

/-!
# Stored ports are owned and readable

The store itself lets a port stand alone, have several owners or have any properties. That each port
has one owner, and the properties of one port with names, follows from what the operations and the
requests do: they create a port only together with its owner, they never link a second one, and they
remove no process.
-/

namespace LineagePorts

/-- A process is of its own type and of no other one. -/
theorem TypeName.isA_process_iff {typeName : String} :
    TypeName.isA typeName TypeName.process = true ↔ typeName = TypeName.process :=
  TypeName.isA_iff (by decide)

namespace Store

/-- The relationship is stored and says that a process owns the entity. -/
def Owns (s : Store) (rid : RelationshipId) (r : Relationship) (id : EntityId) : Prop :=
  s.relationships.get? rid = some r ∧ r.typeName = TypeName.processPort ∧ r.end2 = id

def OwnedOnce (s : Store) (id : EntityId) : Prop :=
  ∃ rid r, s.Owns rid r id ∧ ∀ k q, s.Owns k q id → k = rid

/-- Every stored port has one owner and the properties of a port with names. -/
structure PortsInOrder (s : Store) : Prop where
  owned : ∀ {id e} (kind : PortKind), s.entities.get? id = some e → e.typeName = kind.typeName →
    s.OwnedOnce id
  readable : ∀ {id e} (kind : PortKind), s.entities.get? id = some e →
    e.typeName = kind.typeName → ∃ p : Port, e.properties = p.properties ∧
      Text.isBlank p.displayName = false ∧ Text.isBlank p.qualifiedName = false

theorem portsInOrder_empty : PortsInOrder empty where
  owned _ stored := nomatch stored
  readable _ stored := nomatch stored

theorem OwnedOnce.congr {s s' : Store} {id : EntityId}
    (same : ∀ k q, s'.Owns k q id ↔ s.Owns k q id) (once : s.OwnedOnce id) : s'.OwnedOnce id := by
  simpa only [OwnedOnce, same] using once

section Changes

variable {s : Store}

theorem owns_addRelationship_iff {r : Relationship} (fresh : s.relationships.get? r.id = none)
    {k : RelationshipId} {q : Relationship} {id : EntityId} :
    (s.addRelationship r).Owns k q id ↔ s.Owns k q id ∨
      (k = r.id ∧ q = r ∧ r.typeName = TypeName.processPort ∧ r.end2 = id) := by
  constructor
  · rintro ⟨stored, typed, owned⟩
    rcases get?_addRelationship_cases stored with ⟨rfl, rfl⟩ | old
    · exact .inr ⟨rfl, rfl, typed, owned⟩
    · exact .inl ⟨old, typed, owned⟩
  · rintro (⟨stored, typed, owned⟩ | ⟨rfl, rfl, typed, owned⟩)
    · have other : r.id ≠ k := by
        rintro rfl
        simp [fresh] at stored
      exact ⟨by rw [get?_addRelationship, if_neg other]; exact stored, typed, owned⟩
    · exact ⟨by rw [get?_addRelationship, if_pos rfl], typed, owned⟩

theorem owns_without_iff {id k' : EntityId} {k : RelationshipId} {q : Relationship} :
    (s.without id).Owns k q k' ↔ s.Owns k q k' ∧ q.end1 ≠ id ∧ q.end2 ≠ id := by
  simp only [Owns, relationships_without_iff]
  tauto

theorem PortsInOrder.putPlain (ordered : s.PortsInOrder) {e : Entity}
    (plain : ∀ kind : PortKind, e.typeName ≠ kind.typeName) : (s.putEntity e).PortsInOrder where
  owned kind stored typed := by
    rcases get?_putEntity_cases stored with ⟨rfl, rfl⟩ | old
    · exact absurd typed (plain kind)
    · exact ordered.owned kind old typed
  readable kind stored typed := by
    rcases get?_putEntity_cases stored with ⟨rfl, rfl⟩ | old
    · exact absurd typed (plain kind)
    · exact ordered.readable kind old typed

/-- A new port is owned by the relationship that comes with it, and by no other one, since nothing
ended at it before. -/
theorem PortsInOrder.putPort (ordered : s.PortsInOrder) (sound : s.Integrity) {e : Entity}
    {r : Relationship} {p : Port} (fresh : s.entities.get? e.id = none)
    (unused : s.relationships.get? r.id = none) (typed : r.typeName = TypeName.processPort)
    (ends : r.end2 = e.id) (properties : e.properties = p.properties)
    (displayed : Text.isBlank p.displayName = false)
    (named : Text.isBlank p.qualifiedName = false) :
    ((s.putEntity e).addRelationship r).PortsInOrder where
  owned {id f} kind stored isPort := by
    rcases get?_putEntity_cases stored with ⟨rfl, rfl⟩ | old
    · refine ⟨r.id, r, (owns_addRelationship_iff unused).mpr (.inr ⟨rfl, rfl, typed, ends⟩),
        fun k q owns => ?_⟩
      rcases (owns_addRelationship_iff unused).mp owns with ⟨stored', _, finish⟩ | ⟨same, _⟩
      · obtain ⟨_, g, second⟩ := sound.ends_stored stored'
        simp [finish, fresh] at second
      · exact same
    · refine (ordered.owned kind old isPort).congr fun k q => ?_
      have away : r.end2 ≠ id := by
        rintro rfl
        simp [ends, fresh] at old
      simp only [owns_addRelationship_iff (s := s.putEntity e) unused, away, and_false, or_false]
      rfl
  readable kind stored isPort := by
    rcases get?_putEntity_cases stored with ⟨rfl, rfl⟩ | old
    · exact ⟨p, properties, displayed, named⟩
    · exact ordered.readable kind old isPort

theorem PortsInOrder.replace (ordered : s.PortsInOrder) {id : EntityId} {e e' : Entity} {p : Port}
    (stored : s.entities.get? id = some e) (sameType : e'.typeName = e.typeName)
    (properties : e'.properties = p.properties) (displayed : Text.isBlank p.displayName = false)
    (named : Text.isBlank p.qualifiedName = false) : (s.replace id e').PortsInOrder where
  owned {k f} kind found typed := by
    by_cases same : id = k
    · subst same
      rw [get?_replace, if_pos rfl] at found
      obtain rfl := Option.some.inj found
      exact ordered.owned kind stored (sameType.symm.trans typed)
    · rw [get?_replace, if_neg same] at found
      exact ordered.owned kind found typed
  readable {k f} kind found typed := by
    by_cases same : id = k
    · rw [get?_replace, if_pos same] at found
      obtain rfl := Option.some.inj found
      exact ⟨p, properties, displayed, named⟩
    · rw [get?_replace, if_neg same] at found
      exact ordered.readable kind found typed

/-- To remove a port leaves all others their owners, because an owner is no port. -/
theorem PortsInOrder.without (ordered : s.PortsInOrder) (sound : s.Integrity) {id : EntityId}
    {e : Entity} {kind : PortKind} (stored : s.entities.get? id = some e)
    (isPort : e.typeName = kind.typeName) : (s.without id).PortsInOrder where
  owned {k f} kind' found typed := by
    obtain ⟨other, old⟩ := entities_without_iff.mp found
    refine (ordered.owned kind' old typed).congr fun rid r => ?_
    rw [owns_without_iff]
    refine ⟨And.left, fun owns => ⟨owns, ?_, ?_⟩⟩
    · rintro rfl
      obtain ⟨type, known, ⟨owner, first, isA⟩, _⟩ := sound.wellTyped owns.1
      rw [owns.2.1, RelationshipType.find?_processPort] at known
      obtain rfl := Option.some.inj known
      obtain rfl := Option.some.inj (first.symm.trans stored)
      exact kind.process_ne ((TypeName.isA_process_iff.mp isA).symm.trans isPort)
    · rw [owns.2.2]
      exact other
  readable kind' found typed := ordered.readable kind' (entities_without_iff.mp found).2 typed

theorem PortsInOrder.addLink (ordered : s.PortsInOrder) {r : Relationship}
    (unused : s.relationships.get? r.id = none) (typed : r.typeName ≠ TypeName.processPort) :
    (s.addRelationship r).PortsInOrder where
  owned kind stored isPort := by
    refine (ordered.owned kind stored isPort).congr fun k q => ?_
    simp [owns_addRelationship_iff unused, typed]
  readable := ordered.readable

variable {s' : Store} {user source : String}

theorem PortsInOrder.act (ordered : s.PortsInOrder) (sound : s.Integrity)
    (act : s.Act user source Permits s') : s'.PortsInOrder := by
  obtain ⟨lawful, fresh, change⟩ := act
  cases lawful with
  | plain properties typed =>
    cases change with
    | create free =>
      refine ordered.putPlain fun kind => ?_
      rcases typed with rfl | rfl
      · exact kind.process_ne
      · exact kind.schemaType_ne
  | create creates =>
    obtain ⟨kind, port, process, displayed, named⟩ := creates
    cases change with
    | createOwned free known owner owned =>
      exact ordered.putPort sound fresh.1 (fresh.2 rfl) (RelationshipType.name_of_find? known) rfl
        rfl displayed named
  | update id kind port displayed named =>
    generalize kind.typeName = typeName at change fresh
    cases change with
    | update stored free => exact ordered.replace stored rfl rfl displayed named
  | @delete e kind stored typed =>
    cases change with
    | delete found =>
      obtain ⟨id, stored'⟩ := Table.mem_values_iff.mp stored
      obtain rfl := sound.entityId stored'
      exact ordered.without sound stored' typed
  | link links =>
    obtain @⟨start, finish, typeName, typed, absent⟩ := links
    cases change with
    | link known starts finishes _ =>
      have other : typeName ≠ TypeName.processPort := by
        rcases typed with rfl | rfl <;> decide
      exact ordered.addLink fresh ((RelationshipType.name_of_find? known).trans_ne other)
    | keep known starts finishes present => exact ordered

end Changes

end Store

/-- A store that operations and requests have led to, by whatever users, for whatever sources and
with whatever success, with identifiers that were not in use. -/
inductive Backend.Served : Backend → Prop where
  | start {b : Backend} (nothing : b.store = .empty) : Served b
  | step {b : Backend} {user source : String} {ε α : Type} {op : Operation ε α}
      {around : Surroundings} (served : b.Served) (service : Service user source op)
      (fresh : b.FreshRun (around.writesFrom 0 (op.perform around ⟨b, []⟩).2.trace)) :
      Served (op.perform around ⟨b, []⟩).2.backend

theorem Backend.Served.portsInOrder {b : Backend} (served : b.Served) :
    b.store.Integrity ∧ b.store.PortsInOrder := by
  induction served with
  | start nothing =>
    rw [nothing]
    exact ⟨Store.integrity_empty, Store.portsInOrder_empty⟩
  | @step b user source ε α op around _ service fresh ih =>
    have step : ∀ {s s' : Store}, (s.Integrity ∧ s.PortsInOrder) →
        s.Act user source Store.Permits s' → s'.Integrity ∧ s'.PortsInOrder := by
      rintro s s' ⟨sound, ordered⟩ act
      have ordered' := ordered.act sound act
      obtain ⟨_, new, change⟩ := act
      exact ⟨sound.change new change, ordered'⟩
    exact (service.conduct around ⟨b, []⟩).keeps step (Desk.along_of_performed fresh) ih

/-- Wherever operations and requests lead, every stored port is owned by one process, and it stands
for one port, which has names and is what is read back. -/
theorem every_port_owned_and_readable {b : Backend} (served : b.Served) {id : EntityId}
    {e : Entity} {kind : PortKind} (stored : b.store.entities.get? id = some e)
    (typed : e.typeName = kind.typeName) :
    (∃ rid r process, b.store.Owns rid r id ∧ (∀ k q, b.store.Owns k q id → k = rid) ∧
        b.store.entities.get? r.end1 = some process ∧ process.typeName = TypeName.process) ∧
      ∃ p : Port, e.properties = p.properties ∧ (∀ q : Port, e.properties = q.properties → q = p) ∧
        Text.isBlank p.qualifiedName = false ∧ Text.isBlank p.displayName = false ∧
        e.port? = some p := by
  obtain ⟨sound, ordered⟩ := served.portsInOrder
  constructor
  · obtain ⟨rid, r, owns, only⟩ := ordered.owned kind stored typed
    obtain ⟨type, known, ⟨process, first, isA⟩, _⟩ := sound.wellTyped owns.1
    rw [owns.2.1, RelationshipType.find?_processPort] at known
    obtain rfl := Option.some.inj known
    exact ⟨rid, r, process, owns, only, first, TypeName.isA_process_iff.mp isA⟩
  · obtain ⟨p, properties, displayed, named⟩ := ordered.readable kind stored typed
    have only : ∀ q : Port, e.properties = q.properties → q = p :=
      fun q same => Port.properties_injective (same.symm.trans properties)
    exact ⟨p, properties, only, named, displayed, Entity.port?_of_port properties⟩

theorem Backend.served_sample : Backend.sample.Served := by
  let process : Request := .createProcess "p"
  let port : Request := .createPort .implementation "p" (.plain "a" "a" .input) none
  have first : Served ((process.apply "steward" "engine").perform (.sample 0)
      ⟨.memory .empty, []⟩).2.backend :=
    .step (.start rfl) (.request process) (by decide +kernel)
  have second : Served ((port.apply "steward" "engine").perform (.sample 2) ⟨_, []⟩).2.backend :=
    .step first (.request port) (by decide +kernel)
  exact second

theorem every_port_owned_and_readable_sample :
    let s := Backend.sample.store
    let id : EntityId := ⟨.ofParts 0 2⟩
    ∃ e, s.entities.get? id = some e ∧ e.typeName = PortKind.implementation.typeName ∧
      (∃ rid r process, s.Owns rid r id ∧ (∀ k q, s.Owns k q id → k = rid) ∧
        s.entities.get? r.end1 = some process ∧ process.typeName = TypeName.process) ∧
      ∃ p : Port, e.properties = p.properties ∧ (∀ q : Port, e.properties = q.properties → q = p) ∧
        Text.isBlank p.qualifiedName = false ∧ Text.isBlank p.displayName = false ∧
        e.port? = some p := by
  intro s id
  have found : (s.entities.get? id).map Entity.typeName =
      some PortKind.implementation.typeName := by decide +kernel
  obtain ⟨e, stored, typed⟩ := Option.map_eq_some_iff.mp found
  exact ⟨e, stored, typed,
    every_port_owned_and_readable Backend.served_sample stored typed⟩

end LineagePorts
