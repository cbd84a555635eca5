import LineagePorts.Proofs.Operation.Ports
import LineagePorts.Proofs.Port.Stored
import LineagePorts.Proofs.Request.Catalog
import LineagePorts.Proofs.Store.Names

/-!
# Stores and catalogs

When a store holds what a catalog says, and that each change of the records keeps the two in step
with the change of the names. Every stored entity is described: it is a process, a schema type or a
port with exactly the properties of one, and every port has an owner.
-/

namespace LineagePorts

theorem PortKind.typeName_injective {a b : PortKind} (same : a.typeName = b.typeName) : a = b := by
  cases a <;> cases b <;> first | rfl | exact absurd same (by decide)

theorem PortKind.process_ne (k : PortKind) : TypeName.process ≠ k.typeName := by
  cases k <;> decide

theorem PortKind.schemaType_ne (k : PortKind) : TypeName.schemaType ≠ k.typeName := by
  cases k <;> decide

theorem PortKind.isA_port (k : PortKind) : TypeName.isA k.typeName TypeName.port = true := by
  cases k <;> decide

def PortKey.typed (k : PortKey) : TypedName := ⟨k.kind.typeName, k.name⟩

theorem PortKey.typed_injective {a b : PortKey} (same : a.typed = b.typed) : a = b := by
  obtain ⟨kind, name⟩ := a
  obtain ⟨kind', name'⟩ := b
  obtain ⟨sameType, sameName⟩ := TypedName.mk.inj same
  have sameKind : kind = kind' := PortKind.typeName_injective sameType
  have sameName : name = name' := sameName
  rw [sameKind, sameName]

/-- The name is that of a process or a schema type. -/
inductive TypedName.IsPlain : TypedName → Prop where
  | process (name : String) : IsPlain ⟨TypeName.process, name⟩
  | schemaType (name : String) : IsPlain ⟨TypeName.schemaType, name⟩

theorem TypedName.IsPlain.ne_typed {a : TypedName} (plain : a.IsPlain) (k : PortKey) :
    a ≠ k.typed := by
  intro same
  have typed : a.typeName = k.kind.typeName := congrArg TypedName.typeName same
  cases plain with
  | process name => exact k.kind.process_ne typed
  | schemaType name => exact k.kind.schemaType_ne typed

namespace Store

/-- The entity is stored as this port under this key. -/
structure IsPort (s : Store) (e : Entity) (k : PortKey) (p : Port) : Prop where
  stored : s.entities.get? e.id = some e
  typed : e.typeName = k.kind.typeName
  properties : e.properties = p.properties
  named : p.qualifiedName = k.name

def HasPort (s : Store) (k : PortKey) (p : Port) : Prop := ∃ e, s.IsPort e k p

theorem IsPort.qualifiedName? {s : Store} {e : Entity} {k : PortKey} {p : Port}
    (port : s.IsPort e k p) : e.qualifiedName? = some k.name := by
  rw [Entity.qualifiedName?_of_port port.properties, port.named]

theorem IsPort.toNamed {s : Store} {e : Entity} {k : PortKey} {p : Port} (port : s.IsPort e k p) :
    s.Named e.id k.typed.typeName k.typed.name :=
  ⟨e, port.stored, port.typed, port.qualifiedName?⟩

theorem IsPort.hasType {s : Store} {e : Entity} {k : PortKey} {p : Port} (port : s.IsPort e k p) :
    s.HasType e.id TypeName.port :=
  ⟨e, port.stored, port.typed ▸ k.kind.isA_port⟩

theorem HasPort.hasName {s : Store} {k : PortKey} {p : Port} (port : s.HasPort k p) :
    s.HasName k.typed := by
  obtain ⟨e, port⟩ := port
  exact ⟨e.id, port.toNamed⟩

theorem HasPort.unique {s : Store} (unique : s.Unique) {k : PortKey} {p q : Port}
    (first : s.HasPort k p) (second : s.HasPort k q) : p = q := by
  obtain ⟨e, first⟩ := first
  obtain ⟨f, second⟩ := second
  have stored := first.stored
  rw [first.toNamed.id_unique unique second.toNamed, second.stored] at stored
  obtain rfl := Option.some.inj stored
  exact Port.properties_injective (first.properties.symm.trans second.properties)

/-- The entity is a process or a schema type and has a name, or it is stored as a port. -/
def Described (s : Store) (e : Entity) : Prop :=
  (∃ a : TypedName, a.IsPlain ∧ e.typeName = a.typeName ∧ e.qualifiedName? = some a.name) ∨
    ∃ k p, s.IsPort e k p

end Store

/-- The store holds exactly what the catalog says. -/
structure Represents (s : Store) (c : Catalog) : Prop where
  processes : ∀ name, name ∈ c.processes ↔ s.HasName ⟨TypeName.process, name⟩
  schemaTypes : ∀ name, name ∈ c.schemaTypes ↔ s.HasName ⟨TypeName.schemaType, name⟩
  ports : ∀ k p owner, c.ports k = some (p, owner) ↔
    s.HasPort k p ∧ s.NamesLinked TypeName.processPort ⟨TypeName.process, owner⟩ k.typed
  owned : ∀ k p, s.HasPort k p →
    ∃ owner, s.NamesLinked TypeName.processPort ⟨TypeName.process, owner⟩ k.typed
  schemaLinks : ∀ k name, (k, name) ∈ c.schemaLinks ↔
    s.NamesLinked TypeName.portSchema k.typed ⟨TypeName.schemaType, name⟩
  delegations : ∀ k k', (k, k') ∈ c.delegations ↔
    s.NamesLinked TypeName.portDelegation k.typed k'.typed
  described : ∀ id e, s.entities.get? id = some e → s.Described e

theorem represents_empty : Represents .empty .empty := by
  have nothing : ∀ id, Store.empty.entities.get? id = none := fun _ => rfl
  have noName : ∀ id typeName name, ¬ Store.empty.Named id typeName name := by
    rintro id typeName name ⟨e, stored, _⟩
    cases stored
  have noPort : ∀ k p, ¬ Store.empty.HasPort k p := by
    rintro k p ⟨e, port⟩
    exact noName _ _ _ port.toNamed
  have noLink : ∀ typeName a b, ¬ Store.empty.NamesLinked typeName a b := by
    rintro typeName a b ⟨start, finish, first, _⟩
    exact noName _ _ _ first
  refine ⟨fun name => ?_, fun name => ?_, fun k p owner => ?_, fun k p port => ?_,
    fun k name => ?_, fun k k' => ?_, fun id e stored => ?_⟩
  · simp [Catalog.empty, Store.HasName, noName]
  · simp [Catalog.empty, Store.HasName, noName]
  · simp [Catalog.empty, noPort]
  · exact absurd port (noPort k p)
  · simp [Catalog.empty, noLink]
  · simp [Catalog.empty, noLink]
  · cases stored

namespace Represents

variable {s : Store} {c : Catalog} (repr : Represents s c)

include repr

/-- A port that the catalog does not have is not in the store. -/
theorem ports_eq_none_iff {k : PortKey} : c.ports k = none ↔ ∀ p, ¬ s.HasPort k p := by
  constructor
  · intro absent p port
    obtain ⟨owner, linked⟩ := repr.owned k p port
    rw [(repr.ports k p owner).mpr ⟨port, linked⟩] at absent
    cases absent
  · intro absent
    cases found : c.ports k with
    | none => rfl
    | some entry => exact absurd ((repr.ports k entry.1 entry.2).mp found).1 (absent entry.1)

/-- An entity with the name of a key is the port of that key. -/
theorem isPort_of_named {e : Entity} {k : PortKey} (stored : s.entities.get? e.id = some e)
    (typed : e.typeName = k.kind.typeName) (named : e.qualifiedName? = some k.name) :
    ∃ p, s.IsPort e k p := by
  rcases repr.described e.id e stored with ⟨a, plain, typed', named'⟩ | ⟨k', p, port⟩
  · have same : a = k.typed := Store.Named.name_unique ⟨e, stored, typed', named'⟩
      ⟨e, stored, typed, named⟩
    exact absurd same (plain.ne_typed k)
  · have same : k'.typed = k.typed := Store.Named.name_unique port.toNamed
      ⟨e, stored, typed, named⟩
    exact ⟨p, PortKey.typed_injective same ▸ port⟩

theorem hasName_typed_iff (sound : s.Integrity) {k : PortKey} :
    s.HasName k.typed ↔ ∃ p, s.HasPort k p := by
  constructor
  · rintro ⟨id, e, stored, typed, named⟩
    have own := sound.entityId stored
    subst own
    obtain ⟨p, port⟩ := repr.isPort_of_named stored typed named
    exact ⟨p, e, port⟩
  · rintro ⟨p, port⟩
    exact port.hasName

end Represents

end LineagePorts
