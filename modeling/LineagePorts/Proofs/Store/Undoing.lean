import LineagePorts.Port.Basic
import LineagePorts.Proofs.Store.Names

/-!
# What goes with an entity

A deletion takes an entity away together with the relationships that touch it. So it undoes the creation
of the entity, and with it every later update of the entity and every link from it or to it: as long as
nothing else is done to a store, it stays the same but for what goes with that entity.
-/

namespace LineagePorts

namespace Store

variable {s s' : Store} {id : EntityId}

theorem ext_get? {t : Store} (entities : ∀ k, s.entities.get? k = t.entities.get? k)
    (relationships : ∀ k, s.relationships.get? k = t.relationships.get? k) : s = t := by
  obtain ⟨es, rs⟩ := s
  obtain ⟨es', rs'⟩ := t
  obtain rfl : es = es' := Table.ext_get? entities
  obtain rfl : rs = rs' := Table.ext_get? relationships
  rfl

theorem get?_entities_without (s : Store) (id k : EntityId) :
    (s.without id).entities.get? k = if k = id then none else s.entities.get? k :=
  Table.get?_erase s.entities id k

theorem get?_relationships_without (s : Store) (id : EntityId) (k : RelationshipId) :
    (s.without id).relationships.get? k =
      (s.relationships.get? k).filter fun r => (r.opposite? id).isNone :=
  Table.get?_filter s.relationships _ k

section Without

theorem without_putEntity (s : Store) (e : Entity) :
    (s.putEntity e).without e.id = s.without e.id := by
  refine ext_get? (fun k => ?_) (fun k => rfl)
  rw [get?_entities_without, get?_entities_without]
  by_cases same : k = e.id
  · rw [if_pos same, if_pos same]
  · rw [if_neg same, if_neg same, get?_putEntity, if_neg (Ne.symm same)]

theorem without_replace (s : Store) (id : EntityId) (e : Entity) :
    (s.replace id e).without id = s.without id := by
  refine ext_get? (fun k => ?_) (fun k => rfl)
  rw [get?_entities_without, get?_entities_without]
  by_cases same : k = id
  · rw [if_pos same, if_pos same]
  · rw [if_neg same, if_neg same, get?_replace, if_neg (Ne.symm same)]

theorem without_addRelationship {r : Relationship} (touches : r.end1 = id ∨ r.end2 = id)
    (fresh : s.relationships.get? r.id = none) :
    (s.addRelationship r).without id = s.without id := by
  have taken : ¬ (r.opposite? id).isNone = true := by
    rw [Relationship.opposite?_isNone_iff]
    rintro ⟨away, away'⟩
    exact touches.elim away away'
  refine ext_get? (fun k => rfl) (fun k => ?_)
  rw [get?_relationships_without, get?_relationships_without, get?_addRelationship]
  by_cases same : r.id = k
  · rw [if_pos same, ← same, fresh, Option.filter_some, if_neg taken]
    rfl
  · rw [if_neg same]

/-- What is not stored can be taken away without loss: nothing touches it. -/
theorem Integrity.without_eq_self (sound : s.Integrity) (absent : s.entities.get? id = none) :
    s.without id = s := by
  refine ext_get? (fun k => ?_) (fun k => ?_)
  · rw [get?_entities_without]
    by_cases same : k = id
    · rw [if_pos same, same, absent]
    · rw [if_neg same]
  · rw [get?_relationships_without]
    cases stored : s.relationships.get? k with
    | none => rfl
    | some r =>
      have linked : s.Linked r.typeName r.end1 r.end2 := ⟨k, r, stored, rfl, rfl, rfl⟩
      have away := Relationship.opposite?_isNone_iff.mpr (sound.not_linked absent linked)
      rw [Option.filter_some, if_pos away]

end Without

/-- The second store is the first one, and besides it holds one entity, which is a port of this name,
and relationships that touch it. -/
structure Bears (s : Store) (id : EntityId) (name : String) (s' : Store) : Prop where
  without : s'.without id = s
  named : ∃ kind : PortKind, s'.Named id kind.typeName name

/-- The call updates this entity under the same name, or links it. -/
inductive Attends (id : EntityId) (name : String) : Call → Prop where
  | update (typeName : String) {properties : Properties}
      (named : properties.qualifiedName? = some name) :
      Attends id name (.updateEntity id typeName properties)
  | link {start finish : EntityId} (typeName : String) (touches : start = id ∨ finish = id) :
      Attends id name (.createRelationship start finish typeName)

namespace Bears

variable {name : String} {stamp : Stamp} {who : Caller}

theorem of_created {properties : Properties} {owner : Ownership} {answer : Answer} {kind : PortKind}
    (sound : s.Integrity) (given : properties.qualifiedName? = some name)
    (fresh : stamp.Fresh s (.createEntity kind.typeName properties (some owner)))
    (change : Change s stamp who (.createEntity kind.typeName properties (some owner)) answer s') :
    s.Bears stamp.entity name s' := by
  obtain ⟨_, named⟩ := named_of_created given (perform_eq_ok_iff.mpr change)
  refine ⟨?_, kind, named⟩
  generalize kind.typeName = typeName at change fresh
  cases change with
  | @createOwned _ _ _ type free known owned isA =>
    let e := newEntity stamp who typeName properties
    let r := newRelationship stamp who type owner.owner stamp.entity
    have unused : (s.putEntity e).relationships.get? r.id = none := fresh.2 rfl
    calc ((s.putEntity e).addRelationship r).without stamp.entity
        = (s.putEntity e).without stamp.entity := without_addRelationship (.inr rfl) unused
      _ = s.without stamp.entity := without_putEntity s e
      _ = s := sound.without_eq_self fresh.1

theorem change {call : Call} {answer : Answer} {s'' : Store} (bears : s.Bears id name s')
    (attends : Attends id name call) (fresh : stamp.Fresh s' call)
    (change : Change s' stamp who call answer s'') : s.Bears id name s'' := by
  obtain ⟨without, kind, e, stored, typed, named⟩ := bears
  cases attends with
  | @update typeName properties given =>
    cases change with
    | @update _ _ f found free =>
      obtain rfl := Option.some.inj (found.symm.trans stored)
      refine ⟨(without_replace s' id _).trans without, kind,
        updatedEntity stamp who properties f, ?_, typed, given⟩
      rw [get?_replace, if_pos rfl]
  | @link start finish typeName touches =>
    cases change with
    | @link _ _ _ type known starts finishes absent =>
      let r := newRelationship stamp who type start finish
      have unused : s'.relationships.get? r.id = none := fresh
      have apart : (s'.addRelationship r).without id = s'.without id :=
        without_addRelationship touches unused
      exact ⟨apart.trans without, kind, e, stored, typed, named⟩
    | keep known starts finishes present => exact ⟨without, kind, e, stored, typed, named⟩

/-- A port of the name can be no other one. -/
theorem id_of_named (bears : s.Bears id name s') {kind : PortKind} {k : EntityId}
    (free : ¬ s.Named k kind.typeName name) (named : s'.Named k kind.typeName name) : k = id := by
  refine Decidable.byContradiction fun other => free ?_
  rw [← bears.without]
  exact named_without_iff.mpr ⟨other, named⟩

end Bears

end Store

end LineagePorts
