import LineagePorts.Proofs.Request.Represents

/-!
# Changes of a store and of its catalog

Each way in which a request changes the records of a store, beside the change of the catalog that
keeps the two in step: a new plain entity, a new port with its owner, other properties of a port, a
link, and the removal of a port.
-/

namespace LineagePorts

namespace Store

theorem isPort_putEntity_iff {s : Store} {e f : Entity} (fresh : s.entities.get? e.id = none)
    {k : PortKey} {p : Port} :
    (s.putEntity e).IsPort f k p ↔ s.IsPort f k p ∨
      (f = e ∧ e.typeName = k.kind.typeName ∧ e.properties = p.properties ∧
        p.qualifiedName = k.name) := by
  constructor
  · intro port
    rcases get?_putEntity_cases port.stored with ⟨_, rfl⟩ | old
    · exact .inr ⟨rfl, port.typed, port.properties, port.named⟩
    · exact .inl ⟨old, port.typed, port.properties, port.named⟩
  · rintro (old | ⟨rfl, typed, properties, named⟩)
    · exact ⟨get?_putEntity_old fresh old.stored, old.typed, old.properties, old.named⟩
    · exact ⟨get?_putEntity_self s f, typed, properties, named⟩

theorem Described.putEntity {s : Store} {e f : Entity} (fresh : s.entities.get? e.id = none)
    (described : s.Described f) : (s.putEntity e).Described f := by
  rcases described with plain | ⟨k, p, port⟩
  · exact .inl plain
  · exact .inr ⟨k, p, (isPort_putEntity_iff fresh).mpr (.inl port)⟩

/-- Ports are told by the entities alone. -/
theorem IsPort.congr {s s' : Store} (same : s'.entities = s.entities) {e : Entity} {k : PortKey}
    {p : Port} (port : s.IsPort e k p) : s'.IsPort e k p :=
  ⟨same ▸ port.stored, port.typed, port.properties, port.named⟩

theorem isPort_addRelationship_iff {s : Store} {r : Relationship} {e : Entity} {k : PortKey}
    {p : Port} : (s.addRelationship r).IsPort e k p ↔ s.IsPort e k p :=
  ⟨IsPort.congr (entities_addRelationship s r).symm, IsPort.congr (entities_addRelationship s r)⟩

/-- The second store has the entities of the first one and at most one link more. -/
structure AddsLink (s s' : Store) (typeName : String) (a b : TypedName) : Prop where
  entities : s'.entities = s.entities
  links : ∀ typeName' c d, s'.NamesLinked typeName' c d ↔
    s.NamesLinked typeName' c d ∨ (typeName' = typeName ∧ c = a ∧ d = b)

namespace AddsLink

variable {s s' : Store} {typeName : String} {a b : TypedName} (adds : AddsLink s s' typeName a b)

include adds

theorem hasName_iff {c : TypedName} : s'.HasName c ↔ s.HasName c := by
  simp only [HasName, Named, adds.entities]

theorem hasPort_iff {k : PortKey} {p : Port} : s'.HasPort k p ↔ s.HasPort k p :=
  ⟨fun ⟨e, port⟩ => ⟨e, port.congr adds.entities.symm⟩,
    fun ⟨e, port⟩ => ⟨e, port.congr adds.entities⟩⟩

theorem described_of {e : Entity} (described : s.Described e) : s'.Described e := by
  rcases described with plain | ⟨k, p, port⟩
  · exact .inl plain
  · exact .inr ⟨k, p, port.congr adds.entities⟩

/-- Links of other types are as before. -/
theorem links_of_ne {typeName' : String} (other : typeName' ≠ typeName) {c d : TypedName} :
    s'.NamesLinked typeName' c d ↔ s.NamesLinked typeName' c d := by
  rw [adds.links]
  exact ⟨fun h => h.resolve_right fun new => other new.1, .inl⟩

end AddsLink

end Store

namespace Represents

variable {s : Store} {c : Catalog} (repr : Represents s c)

include repr

section PutPlain

variable (sound : s.Integrity) {e : Entity} (fresh : s.entities.get? e.id = none) {a : TypedName}
  (plain : a.IsPlain) (typed : e.typeName = a.typeName) (named : e.qualifiedName? = some a.name)

include sound fresh plain typed named

omit repr sound in
theorem hasPort_putPlain_iff {k : PortKey} {p : Port} :
    (s.putEntity e).HasPort k p ↔ s.HasPort k p := by
  simp only [Store.HasPort, Store.isPort_putEntity_iff fresh]
  constructor
  · rintro ⟨f, old | ⟨_, typed', properties, name⟩⟩
    · exact ⟨f, old⟩
    · have same : a = k.typed := by
        have named' := Entity.qualifiedName?_of_port properties
        obtain ⟨t, n⟩ := a
        dsimp only at typed named
        rw [← typed, typed', Option.some.inj (named.symm.trans named'), name]
        rfl
      exact absurd same (plain.ne_typed k)
  · rintro ⟨f, old⟩
    exact ⟨f, .inl old⟩

/-- What a new plain entity changes is the one set of names that its type belongs to. -/
theorem putPlain {c' : Catalog} (samePorts : c'.ports = c.ports)
    (sameSchemaLinks : c'.schemaLinks = c.schemaLinks)
    (sameDelegations : c'.delegations = c.delegations)
    (processes : ∀ name, name ∈ c'.processes ↔
      name ∈ c.processes ∨ ⟨TypeName.process, name⟩ = a)
    (schemaTypes : ∀ name, name ∈ c'.schemaTypes ↔
      name ∈ c.schemaTypes ∨ ⟨TypeName.schemaType, name⟩ = a) :
    Represents (s.putEntity e) c' := by
  have hasPort {k : PortKey} {p : Port} : (s.putEntity e).HasPort k p ↔ s.HasPort k p :=
    hasPort_putPlain_iff fresh plain typed named
  have links {typeName : String} {b d : TypedName} :
      (s.putEntity e).NamesLinked typeName b d ↔ s.NamesLinked typeName b d :=
    Store.namesLinked_putEntity_iff fresh typed named sound
  refine ⟨fun name => ?_, fun name => ?_, fun k p owner => ?_, fun k p port => ?_,
    fun k name => ?_, fun k k' => ?_, fun id f stored => ?_⟩
  · rw [processes, repr.processes, Store.hasName_putEntity_iff fresh typed named]
  · rw [schemaTypes, repr.schemaTypes, Store.hasName_putEntity_iff fresh typed named]
  · rw [samePorts, repr.ports, hasPort, links]
  · obtain ⟨owner, linked⟩ := repr.owned k p (hasPort.mp port)
    exact ⟨owner, links.mpr linked⟩
  · rw [sameSchemaLinks, repr.schemaLinks, links]
  · rw [sameDelegations, repr.delegations, links]
  · rcases Store.get?_putEntity_cases stored with ⟨_, rfl⟩ | old
    · exact .inl ⟨a, plain, typed, named⟩
    · exact (repr.described id f old).putEntity fresh

end PutPlain

theorem putProcess (sound : s.Integrity) {e : Entity} (fresh : s.entities.get? e.id = none)
    {name : String} (typed : e.typeName = TypeName.process) (named : e.qualifiedName? = some name) :
    Represents (s.putEntity e) { c with processes := insert name c.processes } := by
  refine repr.putPlain sound fresh (.process name) typed named rfl rfl rfl (fun n => ?_) fun n => ?_
  · simp only [Finset.mem_insert, TypedName.mk.injEq, true_and, or_comm]
  · have other : TypeName.schemaType ≠ TypeName.process := by decide
    simp only [TypedName.mk.injEq, other, false_and, or_false]

theorem putSchemaType (sound : s.Integrity) {e : Entity} (fresh : s.entities.get? e.id = none)
    {name : String} (typed : e.typeName = TypeName.schemaType)
    (named : e.qualifiedName? = some name) :
    Represents (s.putEntity e) { c with schemaTypes := insert name c.schemaTypes } := by
  refine repr.putPlain sound fresh (.schemaType name) typed named rfl rfl rfl (fun n => ?_)
    fun n => ?_
  · have other : TypeName.process ≠ TypeName.schemaType := by decide
    simp only [TypedName.mk.injEq, other, false_and, or_false]
  · simp only [Finset.mem_insert, TypedName.mk.injEq, true_and, or_comm]

theorem addSchemaLink {s' : Store} {k : PortKey} {name : String}
    (adds : s.AddsLink s' TypeName.portSchema k.typed ⟨TypeName.schemaType, name⟩) :
    Represents s' { c with schemaLinks := insert (k, name) c.schemaLinks } := by
  refine ⟨fun n => ?_, fun n => ?_, fun k' p owner => ?_, fun k' p port => ?_,
    fun k' n => ?_, fun k' k'' => ?_, fun id e stored => ?_⟩
  · rw [adds.hasName_iff, ← repr.processes]
  · rw [adds.hasName_iff, ← repr.schemaTypes]
  · rw [adds.hasPort_iff, adds.links_of_ne (by decide), ← repr.ports]
  · obtain ⟨owner, linked⟩ := repr.owned k' p (adds.hasPort_iff.mp port)
    exact ⟨owner, (adds.links_of_ne (by decide)).mpr linked⟩
  · rw [adds.links, Finset.mem_insert, ← repr.schemaLinks, Prod.mk.injEq, or_comm]
    refine or_congr_right ⟨?_, ?_⟩
    · rintro ⟨rfl, rfl⟩
      exact ⟨rfl, rfl, rfl⟩
    · rintro ⟨_, sameKey, sameName⟩
      exact ⟨PortKey.typed_injective sameKey, (TypedName.mk.inj sameName).2⟩
  · rw [adds.links_of_ne (by decide), ← repr.delegations]
  · exact adds.described_of (repr.described id e (adds.entities ▸ stored))

theorem addDelegation {s' : Store} {k target : PortKey}
    (adds : s.AddsLink s' TypeName.portDelegation k.typed target.typed) :
    Represents s' (c.delegate k target) := by
  refine ⟨fun n => ?_, fun n => ?_, fun k' p owner => ?_, fun k' p port => ?_,
    fun k' n => ?_, fun k' k'' => ?_, fun id e stored => ?_⟩
  · rw [adds.hasName_iff, ← repr.processes]
    rfl
  · rw [adds.hasName_iff, ← repr.schemaTypes]
    rfl
  · rw [adds.hasPort_iff, adds.links_of_ne (by decide), ← repr.ports]
    rfl
  · obtain ⟨owner, linked⟩ := repr.owned k' p (adds.hasPort_iff.mp port)
    exact ⟨owner, (adds.links_of_ne (by decide)).mpr linked⟩
  · rw [adds.links_of_ne (by decide), ← repr.schemaLinks]
    rfl
  · rw [Catalog.delegate, Finset.mem_insert, adds.links, ← repr.delegations, Prod.mk.injEq, or_comm]
    refine or_congr_right ⟨?_, ?_⟩
    · rintro ⟨rfl, rfl⟩
      exact ⟨rfl, rfl, rfl⟩
    · rintro ⟨_, sameKey, sameTarget⟩
      exact ⟨PortKey.typed_injective sameKey, PortKey.typed_injective sameTarget⟩
  · exact adds.described_of (repr.described id e (adds.entities ▸ stored))

section PutPort

variable (sound : s.Integrity) {e : Entity} {k : PortKey} {p : Port}
  (fresh : s.entities.get? e.id = none) (typed : e.typeName = k.kind.typeName)
  (properties : e.properties = p.properties) (named : p.qualifiedName = k.name)
  (absent : c.ports k = none) {r : Relationship} {owner : String}
  (freshEdge : s.relationships.get? r.id = none) (edgeTyped : r.typeName = TypeName.processPort)
  (owns : s.Named r.end1 TypeName.process owner) (owned : r.end2 = e.id)

include fresh typed properties named

omit repr in
theorem hasPort_putPort_iff {k' : PortKey} {p' : Port} :
    ((s.putEntity e).addRelationship r).HasPort k' p' ↔ s.HasPort k' p' ∨ (k' = k ∧ p' = p) := by
  constructor
  · rintro ⟨f, port⟩
    have port := Store.isPort_addRelationship_iff.mp port
    rcases (Store.isPort_putEntity_iff fresh).mp port with old | ⟨_, typed', properties', named'⟩
    · exact .inl ⟨f, old⟩
    · have sameKind : k'.kind = k.kind := PortKind.typeName_injective (typed'.symm.trans typed)
      have samePort : p' = p := Port.properties_injective (properties'.symm.trans properties)
      have sameName : k'.name = k.name := by rw [← named', samePort, named]
      obtain ⟨kind, name⟩ := k
      obtain ⟨kind', name'⟩ := k'
      dsimp only at sameKind sameName
      exact .inr ⟨by rw [sameKind, sameName], samePort⟩
  · rintro (⟨f, old⟩ | ⟨rfl, rfl⟩)
    · exact ⟨f, Store.isPort_addRelationship_iff.mpr
        ((Store.isPort_putEntity_iff fresh).mpr (.inl old))⟩
    · exact ⟨e, ⟨Store.get?_putEntity_self s e, typed, properties, named⟩⟩

include sound freshEdge edgeTyped owns owned

omit repr in
theorem namesLinked_putPort_iff {typeName : String} {a b : TypedName} :
    ((s.putEntity e).addRelationship r).NamesLinked typeName a b ↔ s.NamesLinked typeName a b ∨
      (typeName = TypeName.processPort ∧ a = ⟨TypeName.process, owner⟩ ∧ b = k.typed) := by
  have named' : e.qualifiedName? = some k.typed.name := by
    rw [Entity.qualifiedName?_of_port properties, named]
    rfl
  have second : (s.putEntity e).Named r.end2 k.typed.typeName k.typed.name := by
    rw [owned]
    exact ⟨e, Store.get?_putEntity_self s e, typed, named'⟩
  rw [Store.namesLinked_addRelationship_iff (s := s.putEntity e) (a := ⟨TypeName.process, owner⟩)
    freshEdge (owns.putEntity fresh) second, edgeTyped,
    Store.namesLinked_putEntity_iff fresh (a := k.typed) typed named' sound]

include absent

/-- A new port comes with the link from its owner. -/
theorem putPort : Represents ((s.putEntity e).addRelationship r) (c.putPort k p owner) := by
  have hasPort {k' : PortKey} {p' : Port} : ((s.putEntity e).addRelationship r).HasPort k' p' ↔
      s.HasPort k' p' ∨ (k' = k ∧ p' = p) :=
    hasPort_putPort_iff fresh typed properties named
  have links {typeName : String} {a b : TypedName} :
      ((s.putEntity e).addRelationship r).NamesLinked typeName a b ↔ s.NamesLinked typeName a b ∨
        (typeName = TypeName.processPort ∧ a = ⟨TypeName.process, owner⟩ ∧ b = k.typed) :=
    namesLinked_putPort_iff sound fresh typed properties named freshEdge edgeTyped owns owned
  have names {b : TypedName} : ((s.putEntity e).addRelationship r).HasName b ↔
      s.HasName b ∨ b = k.typed := by
    refine Store.hasName_putEntity_iff fresh typed ?_
    rw [Entity.qualifiedName?_of_port properties, named]
    rfl
  have noPort : ∀ p', ¬ s.HasPort k p' := repr.ports_eq_none_iff.mp absent
  have noLink : ∀ typeName a, ¬ s.NamesLinked typeName a k.typed := by
    rintro typeName a ⟨start, finish, _, second, _⟩
    obtain ⟨p', port⟩ := (repr.hasName_typed_iff sound).mp ⟨finish, second⟩
    exact noPort p' port
  have away {b : TypedName} (plain : b.IsPlain) : b ≠ k.typed := plain.ne_typed k
  refine ⟨fun n => ?_, fun n => ?_, fun k' p' owner' => ?_, fun k' p' port => ?_,
    fun k' n => ?_, fun k' k'' => ?_, fun id f stored => ?_⟩
  · rw [names, or_iff_left (away (.process n)), ← repr.processes]
    rfl
  · rw [names, or_iff_left (away (.schemaType n)), ← repr.schemaTypes]
    rfl
  · rw [hasPort, links, Catalog.putPort]
    by_cases same : k' = k
    · subst same
      simp [noPort, noLink, eq_comm]
    · have other : k'.typed ≠ k.typed := fun h => same (PortKey.typed_injective h)
      simp [same, other, repr.ports]
  · rcases hasPort.mp port with old | ⟨rfl, rfl⟩
    · obtain ⟨owner', linked⟩ := repr.owned k' p' old
      exact ⟨owner', links.mpr (.inl linked)⟩
    · exact ⟨owner, links.mpr (.inr ⟨rfl, rfl, rfl⟩)⟩
  · rw [links, or_iff_left (fun h => absurd h.1 (by decide)), ← repr.schemaLinks]
    rfl
  · rw [links, or_iff_left (fun h => absurd h.1 (by decide)), ← repr.delegations]
    rfl
  · rcases Store.get?_putEntity_cases stored with ⟨_, rfl⟩ | old
    · exact .inr ⟨k, p, ⟨Store.get?_putEntity_self s f, typed, properties, named⟩⟩
    · rcases (repr.described id f old).putEntity fresh with plain | ⟨k', p', port⟩
      · exact .inl plain
      · exact .inr ⟨k', p', Store.isPort_addRelationship_iff.mpr port⟩

end PutPort

section ReplacePort

variable {e e' : Entity} {k : PortKey} {p p' : Port} {owner : String}
  (unique : s.Unique) (port : s.IsPort e k p) (same : e'.id = e.id)
  (typed : e'.typeName = e.typeName) (properties : e'.properties = p'.properties)
  (named : p'.qualifiedName = k.name)

include unique port same typed properties named

omit repr in
theorem hasPort_replacePort_iff {k' : PortKey} {q : Port} :
    (s.replace e.id e').HasPort k' q ↔ (k' ≠ k ∧ s.HasPort k' q) ∨ (k' = k ∧ q = p') := by
  have now : (s.replace e.id e').IsPort e' k p' := by
    refine ⟨?_, typed.trans port.typed, properties, named⟩
    rw [same, Store.get?_replace, if_pos rfl]
  constructor
  · rintro ⟨f, found⟩
    have stored := found.stored
    rw [Store.get?_replace] at stored
    split at stored
    · obtain rfl := Option.some.inj stored
      have sameKey : k' = k := PortKey.typed_injective (found.toNamed.name_unique now.toNamed)
      exact .inr ⟨sameKey, Port.properties_injective (found.properties.symm.trans properties)⟩
    · rename_i other
      have old : s.IsPort f k' q := ⟨stored, found.typed, found.properties, found.named⟩
      refine .inl ⟨?_, f, old⟩
      rintro rfl
      exact other (port.toNamed.id_unique unique old.toNamed)
  · rintro (⟨away, f, old⟩ | ⟨rfl, rfl⟩)
    · refine ⟨f, ?_, old.typed, old.properties, old.named⟩
      rw [Store.get?_replace, if_neg]
      · exact old.stored
      · intro sameId
        have oldNamed := sameId ▸ port.toNamed
        exact away (PortKey.typed_injective (old.toNamed.name_unique oldNamed))
    · exact ⟨e', now⟩

/-- Other properties under the same name change no name and no link. -/
theorem replacePort (sound : s.Integrity) (known : c.ports k = some (p, owner)) :
    Represents (s.replace e.id e') (c.putPort k p' owner) := by
  have hasPort {k' : PortKey} {q : Port} : (s.replace e.id e').HasPort k' q ↔
      (k' ≠ k ∧ s.HasPort k' q) ∨ (k' = k ∧ q = p') :=
    hasPort_replacePort_iff unique port same typed properties named
  have qualifiedName : e'.qualifiedName? = e.qualifiedName? := by
    rw [Entity.qualifiedName?_of_port properties, named, port.qualifiedName?]
  have names {b : TypedName} : (s.replace e.id e').HasName b ↔ s.HasName b := by
    simp only [Store.HasName, Store.named_replace_iff port.stored typed qualifiedName]
  have links {typeName : String} {a b : TypedName} :
      (s.replace e.id e').NamesLinked typeName a b ↔ s.NamesLinked typeName a b :=
    Store.namesLinked_replace_iff port.stored typed qualifiedName
  have linked : s.NamesLinked TypeName.processPort ⟨TypeName.process, owner⟩ k.typed :=
    ((repr.ports k p owner).mp known).2
  refine ⟨fun n => ?_, fun n => ?_, fun k' q owner' => ?_, fun k' q found => ?_,
    fun k' n => ?_, fun k' k'' => ?_, fun id f stored => ?_⟩
  · rw [names, ← repr.processes]
    rfl
  · rw [names, ← repr.schemaTypes]
    rfl
  · rw [hasPort, links, Catalog.putPort]
    by_cases sameKey : k' = k
    · subst sameKey
      have owner_iff : s.NamesLinked TypeName.processPort ⟨TypeName.process, owner'⟩ k'.typed ↔
          owner = owner' := by
        constructor
        · intro linked'
          have known' := (repr.ports k' p owner').mpr ⟨⟨e, port⟩, linked'⟩
          rw [known] at known'
          exact (Prod.mk.inj (Option.some.inj known')).2
        · rintro rfl
          exact linked
      simp [owner_iff, eq_comm]
    · simp [sameKey, repr.ports]
  · rcases hasPort.mp found with ⟨_, old⟩ | ⟨rfl, _⟩
    · obtain ⟨owner', linked'⟩ := repr.owned k' q old
      exact ⟨owner', links.mpr linked'⟩
    · exact ⟨owner, links.mpr linked⟩
  · rw [links, ← repr.schemaLinks]
    rfl
  · rw [links, ← repr.delegations]
    rfl
  · rw [Store.get?_replace] at stored
    split at stored
    · obtain rfl := Option.some.inj stored
      refine .inr ⟨k, p', ?_, typed.trans port.typed, properties, named⟩
      rw [same, Store.get?_replace, if_pos rfl]
    · rename_i other
      rcases repr.described id f stored with plain | ⟨k', q, old⟩
      · exact .inl plain
      · refine .inr ⟨k', q, ?_, old.typed, old.properties, old.named⟩
        rw [Store.get?_replace, sound.entityId stored, if_neg other]
        exact stored

end ReplacePort

section ErasePort

variable {e : Entity} {k : PortKey} {p : Port} (unique : s.Unique) (port : s.IsPort e k p)

include unique port

omit repr in
theorem hasPort_erasePort_iff {k' : PortKey} {q : Port} :
    (s.without e.id).HasPort k' q ↔ k' ≠ k ∧ s.HasPort k' q := by
  constructor
  · rintro ⟨f, found⟩
    obtain ⟨other, stored⟩ := Store.entities_without_iff.mp found.stored
    have old : s.IsPort f k' q := ⟨stored, found.typed, found.properties, found.named⟩
    refine ⟨?_, f, old⟩
    rintro rfl
    exact other (old.toNamed.id_unique unique port.toNamed)
  · rintro ⟨away, f, old⟩
    refine ⟨f, Store.entities_without_iff.mpr ⟨?_, old.stored⟩, old.typed, old.properties,
      old.named⟩
    intro sameId
    exact away (PortKey.typed_injective (old.toNamed.name_unique (sameId ▸ port.toNamed)))

/-- A port leaves with all its links. -/
theorem erasePort (sound : s.Integrity) : Represents (s.without e.id) (c.erasePort k) := by
  have hasPort {k' : PortKey} {q : Port} :
      (s.without e.id).HasPort k' q ↔ k' ≠ k ∧ s.HasPort k' q :=
    hasPort_erasePort_iff unique port
  have names {b : TypedName} : (s.without e.id).HasName b ↔ s.HasName b ∧ b ≠ k.typed :=
    Store.hasName_without_iff unique port.toNamed
  have links {typeName : String} {a b : TypedName} : (s.without e.id).NamesLinked typeName a b ↔
      s.NamesLinked typeName a b ∧ a ≠ k.typed ∧ b ≠ k.typed :=
    Store.namesLinked_without_iff unique port.toNamed
  have away {b : TypedName} (plain : b.IsPlain) : b ≠ k.typed := plain.ne_typed k
  have other {k' : PortKey} : k'.typed ≠ k.typed ↔ k' ≠ k :=
    not_congr ⟨PortKey.typed_injective, fun h => h ▸ rfl⟩
  refine ⟨fun n => ?_, fun n => ?_, fun k' q owner => ?_, fun k' q found => ?_,
    fun k' n => ?_, fun k' k'' => ?_, fun id f stored => ?_⟩
  · rw [names, and_iff_left (away (.process n)), ← repr.processes]
    rfl
  · rw [names, and_iff_left (away (.schemaType n)), ← repr.schemaTypes]
    rfl
  · rw [hasPort, links, other, Catalog.erasePort]
    by_cases sameKey : k' = k
    · simp [sameKey]
    · simp [sameKey, repr.ports, away (.process owner)]
  · obtain ⟨awayKey, old⟩ := hasPort.mp found
    obtain ⟨owner, linked⟩ := repr.owned k' q old
    exact ⟨owner, links.mpr ⟨linked, away (.process owner), other.mpr awayKey⟩⟩
  · rw [links, other, and_iff_left (away (.schemaType n)), ← repr.schemaLinks]
    simp [Catalog.erasePort]
  · rw [links, other, other, ← repr.delegations]
    simp [Catalog.erasePort]
  · obtain ⟨otherId, old⟩ := Store.entities_without_iff.mp stored
    rcases repr.described id f old with plain | ⟨k', q, found⟩
    · exact .inl plain
    · have sameId : f.id = id := sound.entityId old
      refine .inr ⟨k', q, ?_, found.typed, found.properties, found.named⟩
      exact Store.entities_without_iff.mpr ⟨sameId ▸ otherId, found.stored⟩

end ErasePort

end Represents

end LineagePorts
