import LineagePorts.Proofs.Store.Uniqueness

/-!
# The part of a store that belongs to some names

The entities with certain names and the relationships between them. Two stores may agree about that
part, and a change may be confined to it: then it leaves the part of other names as it was. Two
confined changes for different names lead to one store in both orders, provided that each of them
makes the same of its own part, whether it comes first or second. The relationships that lead from
the one part to the other need a look of their own: neither change makes one, and either of them may
remove one together with an entity.
-/

namespace LineagePorts

/-- The properties give one of the names. -/
def Properties.NamedIn (p : Properties) (names : List String) : Prop :=
  ∃ name ∈ names, p.qualifiedName? = some name

theorem Properties.NamedIn.not_of_apart {p : Properties} {names others : List String}
    (apart : ∀ name ∈ names, name ∉ others) (named : p.NamedIn names) : ¬ p.NamedIn others := by
  obtain ⟨name, mem, given⟩ := named
  rintro ⟨other, mem', given'⟩
  obtain rfl := Option.some.inj (given.symm.trans given')
  exact apart name mem mem'

namespace Store

def Has (s : Store) (id : EntityId) : Prop := ∃ e, s.entities.get? id = some e

/-- An entity with one of the names is stored under the identifier. -/
def Holds (s : Store) (names : List String) (id : EntityId) : Prop :=
  ∃ e, s.entities.get? id = some e ∧ e.properties.NamedIn names

/-- Two stores have the same entities with these names, and the same relationships between them. -/
structure SameFor (names : List String) (s t : Store) : Prop where
  entities : ∀ {id e}, e.properties.NamedIn names →
    (s.entities.get? id = some e ↔ t.entities.get? id = some e)
  links : ∀ {id r}, s.Holds names r.end1 → s.Holds names r.end2 →
    (s.relationships.get? id = some r ↔ t.relationships.get? id = some r)

namespace SameFor

variable {names : List String} {s t : Store}

theorem refl (names : List String) (s : Store) : SameFor names s s :=
  ⟨fun _ => Iff.rfl, fun _ _ => Iff.rfl⟩

theorem holds_iff (same : SameFor names s t) {id : EntityId} :
    s.Holds names id ↔ t.Holds names id := by
  constructor
  · rintro ⟨e, stored, named⟩
    exact ⟨e, (same.entities named).mp stored, named⟩
  · rintro ⟨e, stored, named⟩
    exact ⟨e, (same.entities named).mpr stored, named⟩

theorem symm (same : SameFor names s t) : SameFor names t s where
  entities named := (same.entities named).symm
  links first second := (same.links (same.holds_iff.mpr first) (same.holds_iff.mpr second)).symm

end SameFor

/-- The stores also show the same schema types of the entities with these names. -/
structure SameSeen (names : List String) (s t : Store) : Prop extends SameFor names s t where
  schemaLinks : ∀ {id r}, r.typeName = TypeName.portSchema → s.Holds names r.end1 →
    (s.relationships.get? id = some r ↔ t.relationships.get? id = some r)
  schemaTypes : ∀ {id r}, s.relationships.get? id = some r → r.typeName = TypeName.portSchema →
    s.Holds names r.end1 → s.entities.get? r.end2 = t.entities.get? r.end2

theorem SameSeen.refl (names : List String) (s : Store) : SameSeen names s s :=
  ⟨.refl names s, fun _ _ => Iff.rfl, fun _ _ _ => rfl⟩

/-- A schema link leads to an entity that is no port. -/
theorem Integrity.no_port_of_schemaLink {s : Store} (sound : s.Integrity) {id : RelationshipId}
    {r : Relationship} (stored : s.relationships.get? id = some r)
    (typed : r.typeName = TypeName.portSchema) :
    ∃ e, s.entities.get? r.end2 = some e ∧ TypeName.isA e.typeName TypeName.port = false := by
  obtain ⟨type, known, _, e, finish, isA⟩ := sound.wellTyped stored
  have schema : type.end2Type = TypeName.schemaType := by
    rw [typed] at known
    cases known
    rfl
  rw [schema] at isA
  exact ⟨e, finish, TypeName.isA_port_of_schemaType isA⟩

/-- The first store becomes the second one by changes that concern entities with these names. -/
structure Confined (names : List String) (s s' : Store) : Prop where
  others : ∀ {id e}, ¬ e.properties.NamedIn names →
    (s.entities.get? id = some e ↔ s'.entities.get? id = some e)
  /-- Only ports are changed or removed. -/
  plain : ∀ {id e}, s.entities.get? id = some e → TypeName.isA e.typeName TypeName.port = false →
    s'.entities.get? id = some e
  made : ∀ {id r}, s'.relationships.get? id = some r →
    s.relationships.get? id = some r ∨ s'.Holds names r.end1 ∧ s'.Holds names r.end2
  /-- A relationship is removed only with one of its ends. -/
  kept : ∀ {id r}, s.relationships.get? id = some r → s'.Has r.end1 → s'.Has r.end2 →
    s'.relationships.get? id = some r

/-- The second store has everything that the first one has, and more under these names. -/
structure Grows (names : List String) (s s' : Store) : Prop where
  entities : ∀ {id e}, s.entities.get? id = some e → s'.entities.get? id = some e
  newEntities : ∀ {id e}, s'.entities.get? id = some e →
    s.entities.get? id = some e ∨ e.properties.NamedIn names
  relationships : ∀ {id r}, s.relationships.get? id = some r → s'.relationships.get? id = some r
  newRelationships : ∀ {id r}, s'.relationships.get? id = some r →
    s.relationships.get? id = some r ∨ s'.Holds names r.end1 ∧ s'.Holds names r.end2

namespace Confined

variable {names others : List String} {s s' : Store}

theorem refl (names : List String) (s : Store) : Confined names s s where
  others _ := Iff.rfl
  plain stored _ := stored
  made := .inl
  kept stored _ _ := stored

/-- What is changed under one of the names keeps one of the names. -/
theorem holds_of_holds (confined : Confined names s s') {id : EntityId} (holds : s.Holds names id)
    (has : s'.Has id) : s'.Holds names id := by
  obtain ⟨e, stored, named⟩ := holds
  obtain ⟨f, stored'⟩ := has
  by_cases named' : f.properties.NamedIn names
  · exact ⟨f, stored', named'⟩
  · have same := (confined.others named').mpr stored'
    obtain rfl := Option.some.inj (stored.symm.trans same)
    exact absurd named named'

/-- The part of other names stays as it was, schema types of other names included. -/
theorem frame (confined : Confined names s s') (apart : ∀ name ∈ others, name ∉ names)
    (sound : s.Integrity) : SameSeen others s s' := by
  have entities {id : EntityId} {e : Entity} (named : e.properties.NamedIn others) :
      s.entities.get? id = some e ↔ s'.entities.get? id = some e :=
    confined.others (named.not_of_apart apart)
  have has {id : EntityId} (holds : s.Holds others id) : s'.Has id := by
    obtain ⟨e, stored, named⟩ := holds
    exact ⟨e, (entities named).mp stored⟩
  have old {id : RelationshipId} {r : Relationship} (starts : s.Holds others r.end1)
      (stored : s'.relationships.get? id = some r) : s.relationships.get? id = some r := by
    refine (confined.made stored).resolve_right fun new => ?_
    obtain ⟨e, first, named⟩ := starts
    obtain ⟨f, second, named'⟩ := new.1
    obtain rfl := Option.some.inj (((entities named).mp first).symm.trans second)
    exact named.not_of_apart apart named'
  have far {id : RelationshipId} {r : Relationship} (stored : s.relationships.get? id = some r)
      (typed : r.typeName = TypeName.portSchema) :
      ∃ f, s.entities.get? r.end2 = some f ∧ s'.entities.get? r.end2 = some f := by
    obtain ⟨f, finish, noPort⟩ := sound.no_port_of_schemaLink stored typed
    exact ⟨f, finish, confined.plain finish noPort⟩
  refine ⟨⟨entities, fun first second => ⟨fun stored => ?_, old first⟩⟩,
    fun typed first => ⟨fun stored => ?_, old first⟩, fun stored typed first => ?_⟩
  · exact confined.kept stored (has first) (has second)
  · obtain ⟨f, _, finish⟩ := far stored typed
    exact confined.kept stored (has first) ⟨f, finish⟩
  · obtain ⟨f, finish, finish'⟩ := far stored typed
    rw [finish, finish']

end Confined

namespace Grows

variable {names : List String} {s m s' : Store}

theorem holds (grows : Grows names s s') {id : EntityId} (holds : s.Holds names id) :
    s'.Holds names id := by
  obtain ⟨e, stored, named⟩ := holds
  exact ⟨e, grows.entities stored, named⟩

theorem trans (first : Grows names s m) (second : Grows names m s') : Grows names s s' where
  entities stored := second.entities (first.entities stored)
  newEntities stored := (second.newEntities stored).elim first.newEntities .inr
  relationships stored := second.relationships (first.relationships stored)
  newRelationships stored := by
    rcases second.newRelationships stored with old | new
    · exact (first.newRelationships old).imp_right fun ends =>
        ⟨second.holds ends.1, second.holds ends.2⟩
    · exact .inr new

/-- What grows first may then change, as far as that is confined to the same names. -/
theorem confined_trans (grows : Grows names s m) (confined : Confined names m s')
    (sound : s'.Integrity) : Confined names s s' where
  others {id e} other := by
    rw [← confined.others other]
    exact ⟨grows.entities, fun stored => (grows.newEntities stored).resolve_right other⟩
  plain stored other := confined.plain (grows.entities stored) other
  made {id r} stored := by
    rcases confined.made stored with old | new
    · refine (grows.newRelationships old).imp_right fun ends => ?_
      obtain ⟨start, finish⟩ := sound.ends_stored stored
      exact ⟨confined.holds_of_holds ends.1 start, confined.holds_of_holds ends.2 finish⟩
    · exact .inr new
  kept stored := confined.kept (grows.relationships stored)

theorem confined (grows : Grows names s s') (sound : s'.Integrity) : Confined names s s' :=
  grows.confined_trans (.refl names s') sound

end Grows

/-- Two changes in both orders: `a` and `b` are reached by one of them, `ab` and `ba` by both. -/
structure Square (names others : List String) (s a b ab ba : Store) : Prop where
  apart : ∀ name ∈ names, name ∉ others
  first : s.Confined names a
  second : s.Confined others b
  secondLater : a.Confined others ab
  firstLater : b.Confined names ba
  sameFirst : SameFor names a ba
  sameSecond : SameFor others b ab

namespace Square

variable {names others : List String} {s a b ab ba : Store}

theorem symm (square : Square names others s a b ab ba) : Square others names s b a ba ab where
  apart name mem mem' := square.apart name mem' mem
  first := square.second
  second := square.first
  secondLater := square.firstLater
  firstLater := square.secondLater
  sameFirst := square.sameSecond
  sameSecond := square.sameFirst

/-- An entity has a name of the first change, a name of the second one, or another one. -/
theorem entities_subset (square : Square names others s a b ab ba) {id : EntityId} {e : Entity}
    (stored : ab.entities.get? id = some e) : ba.entities.get? id = some e := by
  by_cases own : e.properties.NamedIn names
  · have before := (square.secondLater.others (own.not_of_apart square.apart)).mpr stored
    exact (square.sameFirst.entities own).mp before
  · refine (square.firstLater.others own).mp ?_
    by_cases other : e.properties.NamedIn others
    · exact (square.sameSecond.entities other).mpr stored
    · have before := (square.secondLater.others other).mpr stored
      exact (square.second.others other).mp ((square.first.others own).mpr before)

/-- An identifier that is taken at first and in the end was not given up by the second change. -/
theorem has_second (square : Square names others s a b ab ba) {id : EntityId} (start : s.Has id)
    (finish : ab.Has id) : b.Has id := by
  obtain ⟨e, stored⟩ := start
  obtain ⟨f, stored'⟩ := finish
  by_cases own : f.properties.NamedIn names
  · by_cases other : e.properties.NamedIn others
    · have kept := (square.first.others fun named =>
        named.not_of_apart square.apart other).mp stored
      have before := (square.secondLater.others (own.not_of_apart square.apart)).mpr stored'
      obtain rfl := Option.some.inj (kept.symm.trans before)
      exact absurd other (own.not_of_apart square.apart)
    · exact ⟨e, (square.second.others other).mp stored⟩
  · exact ⟨f, (square.firstLater.others own).mpr (square.entities_subset stored')⟩

/-- A relationship was made by the second change, or by the first one, or it was there before and
lost neither of its ends. -/
theorem relationships_subset (square : Square names others s a b ab ba) (sound : s.Integrity)
    (sound' : ab.Integrity) {id : RelationshipId} {r : Relationship}
    (stored : ab.relationships.get? id = some r) : ba.relationships.get? id = some r := by
  have ends := sound'.ends_stored stored
  have has {k : EntityId} (end_stored : ab.Has k) : ba.Has k := by
    obtain ⟨e, stored⟩ := end_stored
    exact ⟨e, square.entities_subset stored⟩
  have keep (stored : b.relationships.get? id = some r) : ba.relationships.get? id = some r :=
    square.firstLater.kept stored (has ends.1) (has ends.2)
  rcases square.secondLater.made stored with before | bySecond
  · rcases square.first.made before with old | byFirst
    · obtain ⟨start, finish⟩ := sound.ends_stored old
      exact keep (square.second.kept old (square.has_second start ends.1)
        (square.has_second finish ends.2))
    · exact (square.sameFirst.links byFirst.1 byFirst.2).mp before
  · have starts := square.sameSecond.holds_iff.mpr bySecond.1
    have finishes := square.sameSecond.holds_iff.mpr bySecond.2
    exact keep ((square.sameSecond.links starts finishes).mpr stored)

/-- Both orders lead to the same store. -/
theorem closes (square : Square names others s a b ab ba) (sound : s.Integrity)
    (soundLeft : ab.Integrity) (soundRight : ba.Integrity) : ab = ba := by
  have entities : ab.entities = ba.entities := Table.ext_get? fun id => Option.ext fun e =>
    ⟨square.entities_subset, square.symm.entities_subset⟩
  have relationships : ab.relationships = ba.relationships := Table.ext_get? fun id =>
    Option.ext fun r => ⟨square.relationships_subset sound soundLeft,
      square.symm.relationships_subset sound soundRight⟩
  cases ab
  cases ba
  rw [Store.mk.injEq]
  exact ⟨entities, relationships⟩

end Square

end Store

end LineagePorts
