import LineagePorts.Proofs.Request.Represents
import LineagePorts.Proofs.Store.Linking

/-!
# Looking names up

What the questions to a store answer when the store refines a catalog: which process, schema type or
port a name stands for, and which schema types a port has.
-/

namespace LineagePorts

/-- The store is sound and holds exactly what the catalog says. -/
structure Refines (s : Store) (c : Catalog) : Prop extends Represents s c where
  sound : s.Integrity
  unique : s.Unique

theorem refines_empty : Refines .empty .empty :=
  ⟨represents_empty, Store.integrity_empty, Store.unique_empty⟩

namespace Store

/-- Looking for a name finds the entity that has it, or nothing has it. -/
theorem findByName?_cases {s : Store} (sound : s.Integrity) (unique : s.Unique) (a : TypedName) :
    (s.findByName? a.name a.typeName = none ∧ ¬ s.HasName a) ∨
      ∃ e, s.findByName? a.name a.typeName = some e ∧ s.entities.get? e.id = some e ∧
        e.typeName = a.typeName ∧ e.qualifiedName? = some a.name := by
  cases found : s.findByName? a.name a.typeName with
  | some e => exact .inr ⟨e, rfl, (findByName?_eq_some_iff sound unique).mp found⟩
  | none =>
    refine .inl ⟨rfl, ?_⟩
    rintro ⟨id, e, stored, fits⟩
    obtain rfl := sound.entityId stored
    rw [(findByName?_eq_some_iff sound unique).mpr ⟨stored, fits⟩] at found
    cases found

theorem traverse_of_hasType {s : Store} {start : EntityId} {startType : String}
    (typed : s.HasType start startType) (type : RelationshipType) :
    s.traverse start startType type =
      match s.farEnds start type.name with
      | [] => .ok none
      | [far] => (s.entity far).map some
      | _ => .error (.server (.severalRelationships start type.name)) := by
  obtain ⟨e, found⟩ := exists_typedEntity_iff.mpr typed
  rw [traverse, found]
  rfl

end Store

namespace Refines

open Store

variable {s : Store} {c : Catalog} (refines : Refines s c)

include refines

theorem findProcess_cases (name : String) :
    (s.findByName? name TypeName.process = none ∧ name ∉ c.processes) ∨
      ∃ e, s.findByName? name TypeName.process = some e ∧ name ∈ c.processes ∧
        s.Named e.id TypeName.process name := by
  rw [refines.processes]
  rcases findByName?_cases refines.sound refines.unique ⟨TypeName.process, name⟩ with
    absent | ⟨e, found, named⟩
  · exact .inl absent
  · exact .inr ⟨e, found, ⟨e.id, e, named⟩, e, named⟩

theorem findSchemaType_cases (name : String) :
    (s.findByName? name TypeName.schemaType = none ∧ name ∉ c.schemaTypes) ∨
      ∃ e, s.findByName? name TypeName.schemaType = some e ∧ name ∈ c.schemaTypes ∧
        s.Named e.id TypeName.schemaType name := by
  rw [refines.schemaTypes]
  rcases findByName?_cases refines.sound refines.unique ⟨TypeName.schemaType, name⟩ with
    absent | ⟨e, found, named⟩
  · exact .inl absent
  · exact .inr ⟨e, found, ⟨e.id, e, named⟩, e, named⟩

/-- The port of a kind and a name is the one that the catalog has under that key. -/
theorem findPort_cases (k : PortKey) :
    (s.findByName? k.name k.kind.typeName = none ∧ c.ports k = none) ∨
      ∃ e p owner, s.findByName? k.name k.kind.typeName = some e ∧ c.ports k = some (p, owner) ∧
        s.IsPort e k p := by
  rcases findByName?_cases refines.sound refines.unique k.typed with
    ⟨found, absent⟩ | ⟨e, found, stored, typed, named⟩
  · refine .inl ⟨found, refines.ports_eq_none_iff.mpr fun p port => ?_⟩
    exact absent port.hasName
  · obtain ⟨p, port⟩ := refines.isPort_of_named stored typed named
    obtain ⟨owner, linked⟩ := refines.owned k p ⟨e, port⟩
    exact .inr ⟨e, p, owner, found, (refines.ports k p owner).mpr ⟨⟨e, port⟩, linked⟩, port⟩

/-- The alias goes before the implementation in the store and in the catalog. -/
theorem portNamed?_cases (name : String) :
    (s.portNamed? name = none ∧ c.portNamed? name = none) ∨
      ∃ e k p, s.portNamed? name = some e ∧ c.portNamed? name = some (k, p) ∧ s.IsPort e k p := by
  rw [Store.portNamed?, Catalog.portNamed?, Catalog.portAt?, Catalog.portAt?]
  rcases refines.findPort_cases ⟨.alias, name⟩ with
    ⟨noAlias, absent⟩ | ⟨e, p, owner, found, known, port⟩
  · have noAlias : s.findByName? name TypeName.portAlias = none := noAlias
    rw [noAlias, absent]
    rcases refines.findPort_cases ⟨.implementation, name⟩ with
      ⟨none_found, absent'⟩ | ⟨e, p, owner, found, known, port⟩
    · exact .inl ⟨none_found, by rw [absent']; rfl⟩
    · exact .inr ⟨e, _, p, found, by rw [known]; rfl, port⟩
  · have found : s.findByName? name TypeName.portAlias = some e := found
    exact .inr ⟨e, _, p, by rw [found]; rfl, by rw [known]; rfl, port⟩

end Refines

namespace Store

variable {s : Store}

/-- A port is at the first end of its schema links, because it is no schema type. -/
theorem Integrity.opposite?_portSchema (sound : s.Integrity) {id : EntityId}
    (isPort : s.HasType id TypeName.port) {k : RelationshipId} {r : Relationship}
    (stored : s.relationships.get? k = some r) (typed : r.typeName = TypeName.portSchema)
    {far : EntityId} : r.opposite? id = some far ↔ r.end1 = id ∧ r.end2 = far := by
  have away : r.end2 ≠ id := by
    rintro rfl
    obtain ⟨type, known, _, finishes⟩ := sound.wellTyped stored
    rw [typed, RelationshipType.find?_portSchema] at known
    obtain rfl := Option.some.inj known
    exact isPort.noSchema finishes
  rw [Relationship.opposite?, if_neg away]
  by_cases first : r.end1 = id
  · simp [first]
  · simp [first]

theorem mem_farEnds_portSchema_iff (sound : s.Integrity) {id : EntityId}
    (isPort : s.HasType id TypeName.port) {far : EntityId} :
    far ∈ s.farEnds id TypeName.portSchema ↔ s.Linked TypeName.portSchema id far := by
  simp only [farEnds, relationshipsOf, List.mem_filterMap, List.mem_filter, Table.mem_values_iff,
    decide_eq_true_eq, Linked]
  constructor
  · rintro ⟨r, ⟨⟨k, stored⟩, typed⟩, opposite⟩
    exact ⟨k, r, stored, typed, (sound.opposite?_portSchema isPort stored typed).mp opposite⟩
  · rintro ⟨k, r, stored, typed, ends⟩
    exact ⟨r, ⟨⟨k, stored⟩, typed⟩, (sound.opposite?_portSchema isPort stored typed).mpr ends⟩

/-- No schema type is listed twice, because no link is stored twice. -/
theorem nodup_farEnds_portSchema (sound : s.Integrity) (unique : s.Unique) {id : EntityId}
    (isPort : s.HasType id TypeName.port) :
    (s.farEnds id TypeName.portSchema).Nodup := by
  have distinct : s.relationships.values.Pairwise fun r r' => r.id ≠ r'.id := by
    rw [Table.values, List.pairwise_map]
    refine s.relationships.ascending.imp_of_mem fun {a b} memA memB before => ?_
    rw [sound.relationshipId (Table.get?_eq_some_iff.mpr memA),
      sound.relationshipId (Table.get?_eq_some_iff.mpr memB)]
    intro same
    exact KeyOrder.irrefl _ (same ▸ before)
  rw [farEnds, List.nodup_iff_pairwise_ne, List.pairwise_filterMap, relationshipsOf]
  refine (distinct.filter _).imp_of_mem fun {r r'} mem mem' other far opposite far' opposite' => ?_
  rintro rfl
  simp only [List.mem_filter, Table.mem_values_iff, decide_eq_true_eq] at mem mem'
  obtain ⟨⟨k, stored⟩, typed⟩ := mem
  obtain ⟨⟨k', stored'⟩, typed'⟩ := mem'
  obtain ⟨first, second⟩ := (sound.opposite?_portSchema isPort stored typed).mp opposite
  obtain ⟨first', second'⟩ := (sound.opposite?_portSchema isPort stored' typed').mp opposite'
  have same : k = k' := unique.edges stored stored' (typed.trans typed'.symm)
    (first.trans first'.symm) (second.trans second'.symm)
  rw [sound.relationshipId stored, sound.relationshipId stored'] at other
  exact other same

/-- The relationship is stored, is one of a port and a schema type, and has the entity at an end. -/
def SchemaAt (s : Store) (id : RelationshipId) (r : Relationship) (g : EntityId) : Prop :=
  s.relationships.get? id = some r ∧ r.typeName = TypeName.portSchema ∧ (r.end1 = g ∨ r.end2 = g)

/-- What following the schema links of a port leads to: nothing without a link, the schema type at the
far end of the only one, and a failure if there are two. -/
inductive Schemas (s : Store) (g : EntityId) : Except Failure (Option Entity) → Prop where
  | without (absent : ∀ id r, ¬ s.SchemaAt id r g) : Schemas s g (.ok none)
  | one {id : RelationshipId} {r : Relationship} {e : Entity} (present : s.SchemaAt id r g)
      (only : ∀ k q, s.SchemaAt k q g → k = id) (stored : s.entities.get? r.end2 = some e)
      (typed : e.typeName = TypeName.schemaType) : Schemas s g (.ok (some e))
  | several {id k : RelationshipId} {r q : Relationship} (first : s.SchemaAt id r g)
      (second : s.SchemaAt k q g) (other : id ≠ k) :
      Schemas s g (.error (.server (.severalRelationships g TypeName.portSchema)))

section Schemas

variable (sound : s.Integrity) (unique : s.Unique) {g : EntityId}
  (isPort : s.HasType g TypeName.port)

theorem SchemaAt.linked_of_end1 {id : RelationshipId} {r : Relationship} (present : s.SchemaAt id r g)
    (starts : r.end1 = g) : s.Linked TypeName.portSchema g r.end2 :=
  ⟨id, r, present.1, present.2.1, starts, rfl⟩

include sound

omit isPort in
/-- The far end of a schema link is a schema type. -/
theorem Linked.schemaType {far : EntityId} (linked : s.Linked TypeName.portSchema g far) :
    ∃ e, s.entities.get? far = some e ∧ e.typeName = TypeName.schemaType := by
  obtain ⟨id, r, stored, typed, _, rfl⟩ := linked
  obtain ⟨type, known, _, e, storedEnd, isA⟩ := sound.wellTyped stored
  rw [typed, RelationshipType.find?_portSchema] at known
  obtain rfl := Option.some.inj known
  exact ⟨e, storedEnd, (TypeName.isA_iff (by decide)).mp isA⟩

include isPort

/-- A port is where its schema links start. -/
theorem SchemaAt.starts {id : RelationshipId} {r : Relationship} (present : s.SchemaAt id r g) :
    r.end1 = g := by
  obtain ⟨stored, typed, first | second⟩ := present
  · exact first
  · obtain ⟨e, storedEnd, isSchema⟩ := Linked.schemaType sound ⟨id, r, stored, typed, rfl, second⟩
    exact absurd ⟨e, storedEnd, by rw [isSchema]; rfl⟩ isPort.noSchema

include unique

/-- Two of them lead to two schema types. -/
theorem SchemaAt.far_ne {id k : RelationshipId} {r q : Relationship} (first : s.SchemaAt id r g)
    (second : s.SchemaAt k q g) (other : id ≠ k) : r.end2 ≠ q.end2 := by
  intro same
  exact other (unique.edges first.1 second.1 (first.2.1.trans second.2.1.symm)
    ((first.starts sound isPort).trans (second.starts sound isPort).symm) same)

theorem schemas_traverse : s.Schemas g (s.traverse g TypeName.port .portSchema) := by
  have mem_iff {far : EntityId} : far ∈ s.farEnds g TypeName.portSchema ↔
      s.Linked TypeName.portSchema g far := mem_farEnds_portSchema_iff sound isPort
  have nodup := nodup_farEnds_portSchema sound unique isPort
  rw [traverse_of_hasType isPort, RelationshipType.portSchema]
  dsimp only
  generalize s.farEnds g TypeName.portSchema = ends at mem_iff nodup
  match ends with
  | [] =>
    refine .without fun id r present => ?_
    have mem := mem_iff.mpr (present.linked_of_end1 (present.starts sound isPort))
    cases mem
  | [far] =>
    have linked := mem_iff.mp List.mem_cons_self
    obtain ⟨e, storedEnd, isSchema⟩ := linked.schemaType sound
    obtain ⟨id, r, stored, typed, starts, rfl⟩ := linked
    dsimp only
    rw [entity_eq_ok_iff.mpr storedEnd]
    refine .one ⟨stored, typed, .inl starts⟩ (fun k q present => ?_) storedEnd isSchema
    have starts' := present.starts sound isPort
    have mem := mem_iff.mpr (present.linked_of_end1 starts')
    exact unique.edges present.1 stored (present.2.1.trans typed.symm) (starts'.trans starts.symm)
      (List.mem_singleton.mp mem)
  | first :: second :: rest =>
    obtain ⟨id, r, stored, typed, starts, rfl⟩ := mem_iff.mp List.mem_cons_self
    obtain ⟨k, q, stored', typed', starts', rfl⟩ :=
      mem_iff.mp (List.mem_cons_of_mem _ List.mem_cons_self)
    refine .several ⟨stored, typed, .inl starts⟩ ⟨stored', typed', .inl starts'⟩ ?_
    rintro rfl
    obtain rfl := Option.some.inj (stored.symm.trans stored')
    exact (List.nodup_cons.mp nodup).1 List.mem_cons_self

end Schemas

end Store

namespace Refines

open Store

variable {s : Store} {c : Catalog} (refines : Refines s c) {e : Entity} {k : PortKey} {p : Port}

include refines

/-- What is at the far end of a schema link has the name of a schema type. -/
theorem named_of_linked {start far : EntityId}
    (linked : s.Linked TypeName.portSchema start far) :
    ∃ name, s.Named far TypeName.schemaType name := by
  obtain ⟨f, storedEnd, isSchema⟩ := linked.schemaType refines.sound
  rcases refines.described _ f storedEnd with ⟨a, _, _, named⟩ | ⟨k', q, port⟩
  · exact ⟨a.name, f, storedEnd, isSchema, named⟩
  · exact absurd (isSchema.symm.trans port.typed) k'.kind.schemaType_ne

theorem mem_schemaTypesOf_iff (port : s.IsPort e k p) {name : String} :
    name ∈ c.schemaTypesOf k ↔
      ∃ far, s.Linked TypeName.portSchema e.id far ∧ s.Named far TypeName.schemaType name := by
  have mem_iff : name ∈ c.schemaTypesOf k ↔ (k, name) ∈ c.schemaLinks := by
    simp [Catalog.schemaTypesOf]
  rw [mem_iff, refines.schemaLinks]
  constructor
  · rintro ⟨start, far, first, second, linked⟩
    rw [first.id_unique refines.unique port.toNamed] at linked
    exact ⟨far, linked, second⟩
  · rintro ⟨far, linked, named⟩
    exact ⟨e.id, far, port.toNamed, named, linked⟩

/-- Following the schema links of a port finds its only schema type, none or too many. -/
theorem traverse_cases (port : s.IsPort e k p) :
    (s.traverse e.id TypeName.port .portSchema = .ok none ∧ c.schemaTypesOf k = ∅) ∨
      (∃ f name, s.traverse e.id TypeName.port .portSchema = .ok (some f) ∧
        c.schemaTypesOf k = {name} ∧ f.typeName = TypeName.schemaType ∧
        f.qualifiedName? = some name) ∨
      ∃ fault, s.traverse e.id TypeName.port .portSchema = .error (.server fault) ∧
        ¬ (c.schemaTypesOf k).card ≤ 1 := by
  obtain ⟨sound, unique⟩ : s.Integrity ∧ s.Unique := ⟨refines.sound, refines.unique⟩
  have isPort := port.hasType
  have leads {id : RelationshipId} {r : Relationship} (present : s.SchemaAt id r e.id) :
      s.Linked TypeName.portSchema e.id r.end2 :=
    present.linked_of_end1 (present.starts sound isPort)
  have schemas := schemas_traverse sound unique isPort
  generalize s.traverse e.id TypeName.port .portSchema = followed at schemas
  cases schemas with
  | without absent =>
    refine .inl ⟨rfl, Finset.eq_empty_of_forall_notMem fun name mem => ?_⟩
    obtain ⟨far, ⟨id, r, stored, typed, starts, _⟩, _⟩ := (refines.mem_schemaTypesOf_iff port).mp mem
    exact absent id r ⟨stored, typed, .inl starts⟩
  | @one id r f present only stored typed =>
    obtain ⟨name, f', stored', typed', named⟩ := refines.named_of_linked (leads present)
    obtain rfl := Option.some.inj (stored.symm.trans stored')
    refine .inr (.inl ⟨f, name, rfl, Finset.ext fun other => ?_, typed, named⟩)
    rw [refines.mem_schemaTypesOf_iff port, Finset.mem_singleton]
    constructor
    · rintro ⟨far, ⟨k, q, at', isLink, starts, rfl⟩, f', stored', _, named'⟩
      obtain rfl := only k q ⟨at', isLink, .inl starts⟩
      obtain rfl := Option.some.inj (present.1.symm.trans at')
      obtain rfl := Option.some.inj (stored.symm.trans stored')
      exact Option.some.inj (named'.symm.trans named)
    · rintro rfl
      exact ⟨r.end2, leads present, f, stored, typed, named⟩
  | several first second other =>
    obtain ⟨name, has⟩ := refines.named_of_linked (leads first)
    obtain ⟨name', has'⟩ := refines.named_of_linked (leads second)
    refine .inr (.inr ⟨_, rfl, Nat.not_le.mpr (Finset.one_lt_card.mpr
      ⟨name, (refines.mem_schemaTypesOf_iff port).mpr ⟨_, leads first, has⟩, name',
        (refines.mem_schemaTypesOf_iff port).mpr ⟨_, leads second, has'⟩, ?_⟩)⟩)
    rintro rfl
    exact first.far_ne sound unique isPort second other (has.id_unique unique has')

end Refines

end LineagePorts
