import LineagePorts.Proofs.Store.Uniqueness

/-!
# A store seen by names

Which typed names a store knows and which of them it links, without the identifiers. In a sound
store each change of the records is a change of the names: one name more, one link more, or a name
less together with all its links.
-/

namespace LineagePorts

structure TypedName where
  typeName : String
  name : String
deriving DecidableEq

namespace Store

def HasName (s : Store) (a : TypedName) : Prop :=
  ∃ id, s.Named id a.typeName a.name

/-- A relationship of this type leads from the first entity to the second one. -/
def Linked (s : Store) (typeName : String) (start finish : EntityId) : Prop :=
  ∃ id r, s.relationships.get? id = some r ∧
    r.typeName = typeName ∧ r.end1 = start ∧ r.end2 = finish

def NamesLinked (s : Store) (typeName : String) (a b : TypedName) : Prop :=
  ∃ start finish, s.Named start a.typeName a.name ∧ s.Named finish b.typeName b.name ∧
    s.Linked typeName start finish

theorem Named.id_unique {s : Store} (unique : s.Unique) {id id' : EntityId}
    {typeName name : String} (first : s.Named id typeName name)
    (second : s.Named id' typeName name) : id = id' := by
  obtain ⟨e, stored, typed, named⟩ := first
  obtain ⟨e', stored', typed', named'⟩ := second
  exact unique.names stored stored' (typed.trans typed'.symm) named named'

theorem Named.name_unique {s : Store} {id : EntityId} {a b : TypedName}
    (first : s.Named id a.typeName a.name) (second : s.Named id b.typeName b.name) : a = b := by
  obtain ⟨e, stored, typed, named⟩ := first
  obtain ⟨e', stored', typed', named'⟩ := second
  obtain rfl := Option.some.inj (stored.symm.trans stored')
  obtain ⟨t, n⟩ := a
  obtain ⟨t', n'⟩ := b
  dsimp only at typed typed' named named'
  rw [← typed, ← typed', Option.some.inj (named.symm.trans named')]

theorem linked_iff_edge? {s : Store} {typeName : String} {start finish : EntityId} :
    s.Linked typeName start finish ↔ s.edge? start finish typeName ≠ none := by
  rw [Ne, edge?_eq_none_iff, Linked]
  constructor
  · rintro ⟨id, r, stored, fits⟩ absent
    exact absent id r stored fits
  · intro present
    refine Classical.byContradiction fun none_fits => present fun id r stored fits => ?_
    exact none_fits ⟨id, r, stored, fits⟩

theorem Integrity.not_linked {s : Store} (sound : s.Integrity) {id : EntityId}
    (absent : s.entities.get? id = none) {typeName : String} {start finish : EntityId}
    (linked : s.Linked typeName start finish) : start ≠ id ∧ finish ≠ id := by
  obtain ⟨k, r, stored, _, rfl, rfl⟩ := linked
  obtain ⟨⟨e, first⟩, ⟨f, second⟩⟩ := sound.ends_stored stored
  constructor
  · rintro rfl
    rw [absent] at first
    cases first
  · rintro rfl
    rw [absent] at second
    cases second

section Put

variable {s : Store} {e : Entity} {a : TypedName} (fresh : s.entities.get? e.id = none)
  (typed : e.typeName = a.typeName) (named : e.qualifiedName? = some a.name)

include fresh typed named

theorem named_putEntity_iff {id : EntityId} {b : TypedName} :
    (s.putEntity e).Named id b.typeName b.name ↔
      s.Named id b.typeName b.name ∨ (id = e.id ∧ b = a) := by
  constructor
  · rintro ⟨f, stored, typed', named'⟩
    rcases get?_putEntity_cases stored with ⟨rfl, rfl⟩ | old
    · have self : (s.putEntity f).Named f.id a.typeName a.name := ⟨f, stored, typed, named⟩
      exact .inr ⟨rfl, Named.name_unique ⟨f, stored, typed', named'⟩ self⟩
    · exact .inl ⟨f, old, typed', named'⟩
  · rintro (old | ⟨rfl, rfl⟩)
    · exact old.putEntity fresh
    · exact ⟨e, by rw [get?_putEntity, if_pos rfl], typed, named⟩

theorem hasName_putEntity_iff {b : TypedName} :
    (s.putEntity e).HasName b ↔ s.HasName b ∨ b = a := by
  simp only [HasName, named_putEntity_iff fresh typed named]
  constructor
  · rintro ⟨id, old | ⟨_, same⟩⟩
    · exact .inl ⟨id, old⟩
    · exact .inr same
  · rintro (⟨id, old⟩ | same)
    · exact ⟨id, .inl old⟩
    · exact ⟨e.id, .inr ⟨rfl, same⟩⟩

/-- A new entity has no links yet. -/
theorem namesLinked_putEntity_iff (sound : s.Integrity) {typeName : String} {b c : TypedName} :
    (s.putEntity e).NamesLinked typeName b c ↔ s.NamesLinked typeName b c := by
  simp only [NamesLinked, named_putEntity_iff fresh typed named]
  constructor
  · rintro ⟨start, finish, first, second, linked⟩
    have old : s.Linked typeName start finish := linked
    obtain ⟨away, away'⟩ := sound.not_linked fresh old
    exact ⟨start, finish, first.resolve_right fun new => away new.1,
      second.resolve_right fun new => away' new.1, old⟩
  · rintro ⟨start, finish, first, second, linked⟩
    exact ⟨start, finish, .inl first, .inl second, linked⟩

end Put

section Add

variable {s : Store} {r : Relationship} (fresh : s.relationships.get? r.id = none)

include fresh

theorem linked_addRelationship_iff {typeName : String} {start finish : EntityId} :
    (s.addRelationship r).Linked typeName start finish ↔ s.Linked typeName start finish ∨
      (typeName = r.typeName ∧ start = r.end1 ∧ finish = r.end2) := by
  constructor
  · rintro ⟨id, q, stored, rfl, rfl, rfl⟩
    rcases get?_addRelationship_cases stored with ⟨rfl, rfl⟩ | old
    · exact .inr ⟨rfl, rfl, rfl⟩
    · exact .inl ⟨id, q, old, rfl, rfl, rfl⟩
  · rintro (⟨id, q, stored, fits⟩ | ⟨rfl, rfl, rfl⟩)
    · exact ⟨id, q, get?_addRelationship_old fresh stored, fits⟩
    · exact ⟨r.id, r, by rw [get?_addRelationship, if_pos rfl], rfl, rfl, rfl⟩

theorem namesLinked_addRelationship_iff {a b : TypedName}
    (first : s.Named r.end1 a.typeName a.name) (second : s.Named r.end2 b.typeName b.name)
    {typeName : String} {c d : TypedName} :
    (s.addRelationship r).NamesLinked typeName c d ↔
      s.NamesLinked typeName c d ∨ (typeName = r.typeName ∧ c = a ∧ d = b) := by
  constructor
  · rintro ⟨start, finish, starts, finishes, linked⟩
    have starts' : s.Named start c.typeName c.name := starts
    have finishes' : s.Named finish d.typeName d.name := finishes
    rcases (linked_addRelationship_iff fresh).mp linked with old | ⟨rfl, rfl, rfl⟩
    · exact .inl ⟨start, finish, starts', finishes', old⟩
    · exact .inr ⟨rfl, starts'.name_unique first, finishes'.name_unique second⟩
  · rintro (⟨start, finish, starts, finishes, linked⟩ | ⟨rfl, rfl, rfl⟩)
    · exact ⟨start, finish, starts, finishes, (linked_addRelationship_iff fresh).mpr (.inl linked)⟩
    · exact ⟨r.end1, r.end2, first, second,
        (linked_addRelationship_iff fresh).mpr (.inr ⟨rfl, rfl, rfl⟩)⟩

end Add

section Update

variable {s : Store} {id : EntityId} {e e' : Entity} (stored : s.entities.get? id = some e)
  (typed : e'.typeName = e.typeName) (named : e'.qualifiedName? = e.qualifiedName?)

include stored typed named

theorem named_replace_iff {k : EntityId} {typeName name : String} :
    (s.replace id e').Named k typeName name ↔
      s.Named k typeName name := by
  simp only [Named, get?_replace]
  by_cases same : id = k
  · subst same
    simp [stored, typed, named]
  · simp [same]

theorem namesLinked_replace_iff {typeName : String} {a b : TypedName} :
    (s.replace id e').NamesLinked typeName a b ↔
      s.NamesLinked typeName a b := by
  simp only [NamesLinked, named_replace_iff stored typed named]
  rfl

end Update

section Delete

variable {s : Store} {id : EntityId} {a : TypedName}

theorem named_without_iff {k : EntityId} {typeName name : String} :
    (s.without id).Named k typeName name ↔ k ≠ id ∧ s.Named k typeName name := by
  simp only [Named, entities_without_iff]
  constructor
  · rintro ⟨e, ⟨other, stored⟩, fits⟩
    exact ⟨other, e, stored, fits⟩
  · rintro ⟨other, e, stored, fits⟩
    exact ⟨e, ⟨other, stored⟩, fits⟩

theorem linked_without_iff {typeName : String} {start finish : EntityId} :
    (s.without id).Linked typeName start finish ↔
      s.Linked typeName start finish ∧ start ≠ id ∧ finish ≠ id := by
  simp only [Linked, relationships_without_iff]
  constructor
  · rintro ⟨k, r, ⟨stored, away, away'⟩, typed, rfl, rfl⟩
    exact ⟨⟨k, r, stored, typed, rfl, rfl⟩, away, away'⟩
  · rintro ⟨⟨k, r, stored, typed, rfl, rfl⟩, away, away'⟩
    exact ⟨k, r, ⟨stored, away, away'⟩, typed, rfl, rfl⟩

variable (unique : s.Unique) (named : s.Named id a.typeName a.name)

include unique named

/-- In a sound store another entity has another name, and the other way round. -/
theorem Named.ne_iff {k : EntityId} {b : TypedName} (other : s.Named k b.typeName b.name) :
    k ≠ id ↔ b ≠ a := by
  constructor
  · rintro away rfl
    exact away (other.id_unique unique named)
  · rintro away rfl
    exact away (other.name_unique named)

theorem hasName_without_iff {b : TypedName} : (s.without id).HasName b ↔ s.HasName b ∧ b ≠ a := by
  simp only [HasName, named_without_iff]
  constructor
  · rintro ⟨k, away, other⟩
    exact ⟨⟨k, other⟩, (Named.ne_iff unique named other).mp away⟩
  · rintro ⟨⟨k, other⟩, away⟩
    exact ⟨k, (Named.ne_iff unique named other).mpr away, other⟩

theorem namesLinked_without_iff {typeName : String} {b c : TypedName} :
    (s.without id).NamesLinked typeName b c ↔ s.NamesLinked typeName b c ∧ b ≠ a ∧ c ≠ a := by
  simp only [NamesLinked, named_without_iff, linked_without_iff]
  constructor
  · rintro ⟨start, finish, ⟨away, first⟩, ⟨away', second⟩, linked, _⟩
    exact ⟨⟨start, finish, first, second, linked⟩, (Named.ne_iff unique named first).mp away,
      (Named.ne_iff unique named second).mp away'⟩
  · rintro ⟨⟨start, finish, first, second, linked⟩, away, away'⟩
    have away := (Named.ne_iff unique named first).mpr away
    have away' := (Named.ne_iff unique named second).mpr away'
    exact ⟨start, finish, ⟨away, first⟩, ⟨away', second⟩, linked, away, away'⟩

end Delete

end Store

end LineagePorts
