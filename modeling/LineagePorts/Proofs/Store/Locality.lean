import LineagePorts.Proofs.Store.Footprint

/-!
# Questions and calls about some names

Two sound stores that agree about some names give the same answers to questions about them. A call
that concerns these names fails on both stores for the same reason, or succeeds on both with the
same answer and leaves them agreeing; on each of them it is confined to these names.
-/

namespace LineagePorts.Store

variable {names : List String} {s t : Store}

namespace SameFor

section Identifiers

variable (same : SameFor names s t) {id : EntityId} (holds : s.Holds names id)

include same holds

theorem entity_eq : s.entity id = t.entity id := by
  obtain ⟨e, stored, named⟩ := holds
  rw [entity_eq_ok_iff.mpr stored, entity_eq_ok_iff.mpr ((same.entities named).mp stored)]

theorem typedEntity_eq (typeName : String) :
    s.typedEntity id typeName = t.typedEntity id typeName := by
  rw [typedEntity, typedEntity, same.entity_eq holds]

end Identifiers

theorem checkName_eq (same : SameFor names s t) {properties : Properties}
    (named : properties.NamedIn names) (typeName : String) (except? : Option EntityId) :
    s.checkName typeName properties except? = t.checkName typeName properties except? := by
  obtain ⟨name, mem, given⟩ := named
  have taken : s.nameTaken typeName name except? = t.nameTaken typeName name except? := by
    rw [Bool.eq_iff_iff, nameTaken_eq_true_iff, nameTaken_eq_true_iff]
    constructor
    · rintro ⟨id, e, stored, typed, named, other⟩
      exact ⟨id, e, (same.entities ⟨name, mem, named⟩).mp stored, typed, named, other⟩
    · rintro ⟨id, e, stored, typed, named, other⟩
      exact ⟨id, e, (same.entities ⟨name, mem, named⟩).mpr stored, typed, named, other⟩
  rw [checkName, checkName, given]
  dsimp only
  rw [taken]

section Sound

variable (same : SameFor names s t) (sound : s.Integrity ∧ s.Unique)
  (sound' : t.Integrity ∧ t.Unique)

include same sound sound'

theorem findByName?_eq {name : String} (mem : name ∈ names) (typeName : String) :
    s.findByName? name typeName = t.findByName? name typeName := by
  refine Option.ext fun e => ?_
  rw [findByName?_eq_some_iff sound.1 sound.2, findByName?_eq_some_iff sound'.1 sound'.2]
  refine and_congr_left fun fits => same.entities ⟨name, mem, fits.2⟩

theorem edge?_eq {start finish : EntityId} (starts : s.Holds names start)
    (finishes : s.Holds names finish) (typeName : String) :
    s.edge? start finish typeName = t.edge? start finish typeName := by
  refine Option.ext fun r => ?_
  rw [edge?_eq_some_iff sound.1 sound.2, edge?_eq_some_iff sound'.1 sound'.2]
  refine and_congr_left fun ⟨_, first, second⟩ => ?_
  exact same.links (first ▸ starts) (second ▸ finishes)

theorem relationshipBetween_eq {start finish : EntityId} (starts : s.Holds names start)
    (finishes : s.Holds names finish) (startType typeName : String) :
    s.relationshipBetween start finish startType typeName =
      t.relationshipBetween start finish startType typeName := by
  have stored : s.entities.contains start = t.entities.contains start := by
    obtain ⟨e, stored, named⟩ := starts
    rw [Table.contains, Table.contains, stored, (same.entities named).mp stored]
  rw [relationshipBetween, relationshipBetween, stored, same.typedEntity_eq starts,
    same.edge?_eq sound sound' starts finishes]

end Sound

/-- A record that is put under a new identifier or in the place of one of the part. -/
theorem putEntity (same : SameFor names s t) (sound : s.Integrity) (sound' : t.Integrity)
    {e : Entity} (own : s.Has e.id → s.Holds names e.id) (own' : t.Has e.id → t.Holds names e.id) :
    SameFor names (s.putEntity e) (t.putEntity e) := by
  have entities {id : EntityId} {f : Entity} (named : f.properties.NamedIn names) :
      (s.putEntity e).entities.get? id = some f ↔ (t.putEntity e).entities.get? id = some f := by
    rw [get?_putEntity, get?_putEntity]
    split
    · exact Iff.rfl
    · exact same.entities named
  -- an end of a stored relationship was in the part before
  have before {u : Store} (own : u.Has e.id → u.Holds names e.id) {id : EntityId}
      (holds : (u.putEntity e).Holds names id) (has : u.Has id) : u.Holds names id := by
    obtain ⟨f, stored, named⟩ := holds
    rcases get?_putEntity_cases stored with ⟨rfl, rfl⟩ | old
    · exact own has
    · exact ⟨f, old, named⟩
  have after {id : EntityId} (holds : (s.putEntity e).Holds names id) :
      (t.putEntity e).Holds names id := by
    obtain ⟨f, stored, named⟩ := holds
    exact ⟨f, (entities named).mp stored, named⟩
  refine ⟨entities, fun {id r} first second => ⟨fun stored => ?_, fun stored => ?_⟩⟩
  · obtain ⟨start, finish⟩ := sound.ends_stored stored
    exact (same.links (before own first start) (before own second finish)).mp stored
  · obtain ⟨start, finish⟩ := sound'.ends_stored stored
    have starts := before own' (after first) start
    have finishes := before own' (after second) finish
    exact (same.symm.links starts finishes).mp stored

theorem addRelationship (same : SameFor names s t) (r : Relationship) :
    SameFor names (s.addRelationship r) (t.addRelationship r) where
  entities := same.entities
  links {id q} first second := by
    rw [get?_addRelationship, get?_addRelationship]
    split
    · exact Iff.rfl
    · exact same.links first second

theorem without (same : SameFor names s t) (id : EntityId) :
    SameFor names (s.without id) (t.without id) := by
  have before {k : EntityId} (holds : (s.without id).Holds names k) : s.Holds names k := by
    obtain ⟨e, stored, named⟩ := holds
    exact ⟨e, (entities_without_iff.mp stored).2, named⟩
  refine ⟨fun named => ?_, fun first second => ?_⟩
  · rw [entities_without_iff, entities_without_iff, same.entities named]
  · rw [relationships_without_iff, relationships_without_iff, same.links (before first)
      (before second)]

end SameFor

/-- A port with one of the names is stored under the identifier. -/
def HoldsPort (s : Store) (names : List String) (id : EntityId) : Prop :=
  ∃ e, s.entities.get? id = some e ∧ e.properties.NamedIn names ∧
    TypeName.isA e.typeName TypeName.port = true

theorem HoldsPort.holds {id : EntityId} (holds : s.HoldsPort names id) : s.Holds names id := by
  obtain ⟨e, stored, named, _⟩ := holds
  exact ⟨e, stored, named⟩

theorem HoldsPort.hasType {id : EntityId} (port : s.HoldsPort names id) : s.HasType id TypeName.port := by
  obtain ⟨e, stored, _, isPort⟩ := port
  exact ⟨e, stored, isPort⟩

theorem SameFor.holdsPort (same : SameFor names s t) {id : EntityId}
    (port : s.HoldsPort names id) : t.HoldsPort names id := by
  obtain ⟨e, stored, named, isPort⟩ := port
  exact ⟨e, (same.entities named).mp stored, named, isPort⟩

/-- The call is about entities with these names: it creates one, with an owner that is one of them,
it updates or deletes a port, or it links two of them. -/
inductive Concerns (s : Store) (names : List String) : Call → Prop where
  | create (typeName : String) {properties : Properties} {owner : Option Ownership}
      (named : properties.NamedIn names) (owned : ∀ o ∈ owner, s.Holds names o.owner) :
      Concerns s names (.createEntity typeName properties owner)
  | update {id : EntityId} (typeName : String) {properties : Properties}
      (port : s.HoldsPort names id) (named : properties.NamedIn names) :
      Concerns s names (.updateEntity id typeName properties)
  | delete {id : EntityId} (port : s.HoldsPort names id) : Concerns s names (.deleteEntity id)
  | link {start finish : EntityId} (typeName : String) (starts : s.Holds names start)
      (finishes : s.Holds names finish) :
      Concerns s names (.createRelationship start finish typeName)

/-- Both fail for the same reason, or both succeed with the same answer and leave stores that agree
about the names. -/
inductive Alike (names : List String) {α : Type} :
    Except Failure (α × Store) → Except Failure (α × Store) → Prop where
  | failed (e : Failure) : Alike names (.error e) (.error e)
  | done (a : α) {s t : Store} (same : SameFor names s t) : Alike names (.ok (a, s)) (.ok (a, t))

section Calls

variable (stamp : Stamp) (who : Caller)

theorem SameFor.ownershipOf_eq (same : SameFor names s t) {o : Ownership}
    (holds : s.Holds names o.owner) (typeName : String) :
    s.ownershipOf stamp who typeName o = t.ownershipOf stamp who typeName o := by
  simp only [ownershipOf, same.typedEntity_eq holds]

theorem alike_perform (same : SameFor names s t) (sound : s.Integrity ∧ s.Unique)
    (sound' : t.Integrity ∧ t.Unique) {call : Call} (concerns : s.Concerns names call)
    (fresh : stamp.Fresh s call) (fresh' : stamp.Fresh t call) :
    Alike names (s.perform stamp who call) (t.perform stamp who call) := by
  cases concerns with
  | @create typeName properties owner named owned =>
    have absent {u : Store} (fresh : u.entities.get? stamp.entity = none) :
        u.Has stamp.entity → u.Holds names stamp.entity := by
      rintro ⟨e, stored⟩
      rw [fresh] at stored
      cases stored
    have put : SameFor names (s.putEntity (newEntity stamp who typeName properties))
        (t.putEntity (newEntity stamp who typeName properties)) :=
      same.putEntity sound.1 sound'.1 (absent fresh.1) (absent fresh'.1)
    rw [perform, perform, createEntity, createEntity, same.checkName_eq named]
    cases t.checkName typeName properties none with
    | error e => exact .failed e
    | ok _ =>
      cases owner with
      | none => exact .done _ put
      | some o =>
        have owning := same.ownershipOf_eq stamp who (owned o rfl) typeName
        dsimp only [bind, Except.bind]
        rw [owning]
        cases t.ownershipOf stamp who typeName o with
        | error e => exact .failed e
        | ok r => exact .done _ (put.addRelationship r)
  | @update id typeName properties port named =>
    obtain ⟨e, stored, old, _⟩ := port
    have stored' := (same.entities old).mp stored
    obtain rfl := sound.1.entityId stored
    rw [perform, perform, updateEntity, updateEntity, entity_eq_ok_iff.mpr stored,
      entity_eq_ok_iff.mpr stored', same.checkName_eq named]
    dsimp only [bind, Except.bind]
    split
    · exact .failed _
    · cases t.checkName typeName properties (some e.id) with
      | error e => exact .failed e
      | ok _ =>
        exact .done _ (same.putEntity (e := updatedEntity stamp who properties e) sound.1 sound'.1
          (fun _ => ⟨e, stored, old⟩) (fun _ => ⟨e, stored', old⟩))
  | @delete id port =>
    rw [perform, perform, deleteEntity, deleteEntity, same.entity_eq port.holds]
    cases t.entity id with
    | error e => exact .failed e
    | ok e => exact .done _ (same.without id)
  | @link start finish typeName starts finishes =>
    rw [perform, perform, createRelationship, createRelationship]
    cases relationshipType typeName with
    | error e => exact .failed e
    | ok type =>
      dsimp only [bind, Except.bind]
      rw [same.typedEntity_eq starts, same.typedEntity_eq finishes,
        same.edge?_eq sound sound' starts finishes]
      cases t.typedEntity start type.end1Type with
      | error e => exact .failed e
      | ok _ =>
        cases t.typedEntity finish type.end2Type with
        | error e => exact .failed e
        | ok _ =>
          cases t.edge? start finish type.name with
          | some r => exact .done _ same
          | none => exact .done _ (same.addRelationship _)

end Calls

section Confined

variable {s' : Store} {stamp : Stamp} {who : Caller}

theorem grows_putEntity {e : Entity} (fresh : s.entities.get? e.id = none)
    (named : e.properties.NamedIn names) : Grows names s (s.putEntity e) where
  entities {id f} stored := by
    rw [get?_putEntity, if_neg]
    · exact stored
    · rintro rfl
      rw [fresh] at stored
      cases stored
  newEntities stored := by
    rcases get?_putEntity_cases stored with ⟨_, rfl⟩ | old
    · exact .inr named
    · exact .inl old
  relationships := id
  newRelationships := .inl

theorem grows_addRelationship {r : Relationship} (fresh : s.relationships.get? r.id = none)
    (starts : s.Holds names r.end1) (finishes : s.Holds names r.end2) :
    Grows names s (s.addRelationship r) where
  entities := id
  newEntities := .inl
  relationships {id q} stored := by
    rw [get?_addRelationship, if_neg]
    · exact stored
    · rintro rfl
      rw [fresh] at stored
      cases stored
  newRelationships stored := by
    rcases get?_addRelationship_cases stored with ⟨_, rfl⟩ | old
    · exact .inr ⟨starts, finishes⟩
    · exact .inl old

theorem confined_replace {id : EntityId} {e e' : Entity} (stored : s.entities.get? id = some e)
    (named : e.properties.NamedIn names) (isPort : TypeName.isA e.typeName TypeName.port = true)
    (named' : e'.properties.NamedIn names) : Confined names s (s.replace id e') where
  others {k f} other := by
    rw [get?_replace]
    split
    · rename_i same
      rw [← same, stored]
      constructor
      · intro found
        exact absurd (Option.some.inj found ▸ named) other
      · intro found
        exact absurd (Option.some.inj found ▸ named') other
    · exact Iff.rfl
  plain {k f} found noPort := by
    rw [get?_replace, if_neg]
    · exact found
    · rintro rfl
      obtain rfl := Option.some.inj (stored.symm.trans found)
      rw [isPort] at noPort
      cases noPort
  made := .inl
  kept found _ _ := found

theorem confined_without {id : EntityId} {e : Entity} (stored : s.entities.get? id = some e)
    (named : e.properties.NamedIn names) (isPort : TypeName.isA e.typeName TypeName.port = true) :
    Confined names s (s.without id) where
  others {k f} other := by
    rw [entities_without_iff]
    refine ⟨fun found => ⟨?_, found⟩, And.right⟩
    rintro rfl
    obtain rfl := Option.some.inj (stored.symm.trans found)
    exact other named
  plain {k f} found noPort := by
    refine entities_without_iff.mpr ⟨?_, found⟩
    rintro rfl
    obtain rfl := Option.some.inj (stored.symm.trans found)
    rw [isPort] at noPort
    cases noPort
  made found := .inl (relationships_without_iff.mp found).1
  kept found start finish := by
    obtain ⟨e, first⟩ := start
    obtain ⟨f, second⟩ := finish
    exact relationships_without_iff.mpr
      ⟨found, (entities_without_iff.mp first).1, (entities_without_iff.mp second).1⟩

/-- A call that creates something only adds to the part. -/
theorem Change.grows {typeName : String} {properties : Properties} {owner : Option Ownership}
    {answer : Answer}
    (change : Change s stamp who (.createEntity typeName properties owner) answer s')
    (fresh : stamp.Fresh s (.createEntity typeName properties owner))
    (named : properties.NamedIn names) (owned : ∀ o ∈ owner, s.Holds names o.owner) :
    Grows names s s' := by
  have put : Grows names s (s.putEntity (newEntity stamp who typeName properties)) :=
    grows_putEntity fresh.1 named
  cases change with
  | create free => exact put
  | @createOwned _ _ o type free known owner isOwned =>
    refine put.trans (grows_addRelationship (fresh.2 rfl) (put.holds (owned o rfl)) ?_)
    have stored : (s.putEntity (newEntity stamp who typeName properties)).entities.get?
        stamp.entity = some (newEntity stamp who typeName properties) := by
      rw [get?_putEntity]
      exact if_pos rfl
    exact ⟨_, stored, named⟩

theorem Change.confined {call : Call} {answer : Answer}
    (change : Change s stamp who call answer s') (concerns : s.Concerns names call)
    (fresh : stamp.Fresh s call) (sound : s'.Integrity) : Confined names s s' := by
  cases concerns with
  | create typeName named owned => exact (change.grows fresh named owned).confined sound
  | update typeName port named =>
    obtain ⟨e, stored, old, isPort⟩ := port
    cases change with
    | @update _ _ f stored' free =>
      obtain rfl := Option.some.inj (stored.symm.trans stored')
      exact confined_replace stored old isPort named
  | delete port =>
    obtain ⟨e, stored, old, isPort⟩ := port
    cases change with
    | delete stored' => exact confined_without stored old isPort
  | @link start finish typeName starts finishes =>
    cases change with
    | @link _ _ _ type known _ _ absent =>
      have added : Grows names s
          (s.addRelationship (newRelationship stamp who type start finish)) :=
        grows_addRelationship fresh starts finishes
      exact added.confined sound
    | keep known _ _ present => exact .refl names s

end Confined

end LineagePorts.Store
