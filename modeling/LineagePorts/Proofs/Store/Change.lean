import LineagePorts.Proofs.Except
import LineagePorts.Store.Call
import LineagePorts.Table.Lemmas

/-!
# What a call does to a store

The calls as a relation between the store before and the store after: each rule says under which
conditions a call succeeds, what it answers and what it leaves. A call succeeds exactly by one of
the rules, so that whatever the rules keep is kept by every run.
-/

namespace LineagePorts

namespace Store

/-- No stored entity but `except?` has the type and the name that the properties give, if any. -/
def NameFree (s : Store) (typeName : String) (properties : Properties)
    (except? : Option EntityId) : Prop :=
  ∀ id e, s.entities.get? id = some e → e.typeName = typeName →
    properties.qualifiedName?.isSome → e.qualifiedName? = properties.qualifiedName? →
    some e.id = except?

/-- An entity is stored under the identifier and is of the type or a subtype of it. -/
def HasType (s : Store) (id : EntityId) (typeName : String) : Prop :=
  ∃ e, s.entities.get? id = some e ∧ TypeName.isA e.typeName typeName = true

theorem entity_eq_ok_iff {s : Store} {id : EntityId} {e : Entity} :
    s.entity id = .ok e ↔ s.entities.get? id = some e := by
  rw [entity]
  cases s.entities.get? id <;> simp

theorem typedEntity_eq_ok_iff {s : Store} {id : EntityId} {typeName : String} {e : Entity} :
    s.typedEntity id typeName = .ok e ↔
      s.entities.get? id = some e ∧ TypeName.isA e.typeName typeName = true := by
  rw [typedEntity, Except.bind_eq_ok_iff]
  constructor
  · rintro ⟨found, stored, checked⟩
    split at checked
    · rename_i typed
      obtain rfl := Except.ok.inj checked
      exact ⟨entity_eq_ok_iff.mp stored, typed⟩
    · cases checked
  · rintro ⟨stored, typed⟩
    exact ⟨e, entity_eq_ok_iff.mpr stored, if_pos typed⟩

theorem exists_typedEntity_iff {s : Store} {id : EntityId} {typeName : String} :
    (∃ e, s.typedEntity id typeName = .ok e) ↔ s.HasType id typeName := by
  simp only [typedEntity_eq_ok_iff, HasType]

theorem relationshipType_eq_ok_iff {name : String} {type : RelationshipType} :
    relationshipType name = .ok type ↔ RelationshipType.find? name = some type := by
  rw [relationshipType]
  cases RelationshipType.find? name <;> simp

theorem nameTaken_eq_true_iff {s : Store} {typeName name : String} {except? : Option EntityId} :
    s.nameTaken typeName name except? = true ↔
      ∃ id e, s.entities.get? id = some e ∧ e.typeName = typeName ∧
        e.qualifiedName? = some name ∧ some e.id ≠ except? := by
  simp only [nameTaken, List.any_eq_true, Table.mem_values_iff, Bool.and_eq_true, decide_eq_true_eq]
  constructor
  · rintro ⟨e, ⟨id, stored⟩, ⟨typed, named⟩, other⟩
    exact ⟨id, e, stored, typed, named, other⟩
  · rintro ⟨id, e, stored, typed, named, other⟩
    exact ⟨e, ⟨id, stored⟩, ⟨typed, named⟩, other⟩

theorem checkName_eq_ok_iff {s : Store} {typeName : String} {properties : Properties}
    {except? : Option EntityId} :
    s.checkName typeName properties except? = .ok () ↔
      s.NameFree typeName properties except? := by
  rw [checkName, NameFree]
  cases given : properties.qualifiedName? with
  | none =>
    constructor
    · intro _ id e stored typed isGiven
      cases isGiven
    · intro _
      rfl
  | some name =>
    have taken : s.nameTaken typeName name except? = true ↔ _ := nameTaken_eq_true_iff
    dsimp only
    split
    · rename_i isTaken
      obtain ⟨id, e, stored, typed, named, other⟩ := taken.mp isTaken
      constructor
      · intro failed
        cases failed
      · intro free
        exact absurd (free id e stored typed rfl named) other
    · rename_i notTaken
      constructor
      · intro _ id e stored typed _ named
        exact Decidable.byContradiction fun other =>
          notTaken (taken.mpr ⟨id, e, stored, typed, named, other⟩)
      · intro _
        rfl

/-- The store with another record under the identifier of an entity. -/
def replace (s : Store) (id : EntityId) (e : Entity) : Store :=
  { s with entities := s.entities.insert id e }

/-- The store without an entity and the relationships that touch it. -/
def without (s : Store) (id : EntityId) : Store where
  entities := s.entities.erase id
  relationships := s.relationships.filter fun _ r => (r.opposite? id).isNone

/-- A call that succeeds, with its answer and the store after it. -/
inductive Change (s : Store) (stamp : Stamp) (who : Caller) : Call → Answer → Store → Prop where
  | create {typeName : String} {properties : Properties}
      (free : s.NameFree typeName properties none) :
      Change s stamp who (.createEntity typeName properties none) (.entity stamp.entity)
        (s.putEntity (newEntity stamp who typeName properties))
  | createOwned {typeName : String} {properties : Properties} {o : Ownership}
      {type : RelationshipType} (free : s.NameFree typeName properties none)
      (known : RelationshipType.find? o.relationshipType = some type)
      (owner : s.HasType o.owner type.end1Type)
      (owned : TypeName.isA typeName type.end2Type = true) :
      Change s stamp who (.createEntity typeName properties (some o)) (.entity stamp.entity)
        ((s.putEntity (newEntity stamp who typeName properties)).addRelationship
          (newRelationship stamp who type o.owner stamp.entity))
  | update {id : EntityId} {properties : Properties} {e : Entity}
      (stored : s.entities.get? id = some e)
      (free : s.NameFree e.typeName properties (some id)) :
      Change s stamp who (.updateEntity id e.typeName properties) .done
        (s.replace id (updatedEntity stamp who properties e))
  | delete {id : EntityId} {e : Entity} (stored : s.entities.get? id = some e) :
      Change s stamp who (.deleteEntity id) .done (s.without id)
  | link {start finish : EntityId} {typeName : String} {type : RelationshipType}
      (known : RelationshipType.find? typeName = some type)
      (starts : s.HasType start type.end1Type) (finishes : s.HasType finish type.end2Type)
      (absent : s.edge? start finish type.name = none) :
      Change s stamp who (.createRelationship start finish typeName)
        (.relationship stamp.relationship)
        (s.addRelationship (newRelationship stamp who type start finish))
  | keep {start finish : EntityId} {typeName : String} {type : RelationshipType}
      {r : Relationship} (known : RelationshipType.find? typeName = some type)
      (starts : s.HasType start type.end1Type) (finishes : s.HasType finish type.end2Type)
      (present : s.edge? start finish type.name = some r) :
      Change s stamp who (.createRelationship start finish typeName) (.relationship r.id) s

theorem Change.answer_of_create {s s' : Store} {stamp : Stamp} {who : Caller} {typeName : String}
    {properties : Properties} {owner : Option Ownership} {answer : Answer}
    (change : Change s stamp who (.createEntity typeName properties owner) answer s') :
    answer = .entity stamp.entity := by
  cases change <;> rfl

theorem ownershipOf_eq_ok_iff {s : Store} {stamp : Stamp} {who : Caller} {typeName : String}
    {o : Ownership} {r : Relationship} :
    s.ownershipOf stamp who typeName o = .ok r ↔
      ∃ type, RelationshipType.find? o.relationshipType = some type ∧
        s.HasType o.owner type.end1Type ∧ TypeName.isA typeName type.end2Type = true ∧
        r = newRelationship stamp who type o.owner stamp.entity := by
  simp only [ownershipOf, Except.bind_eq_ok_iff, relationshipType_eq_ok_iff]
  constructor
  · rintro ⟨type, known, owner, found, made⟩
    split at made
    · rename_i owned
      exact ⟨type, known, exists_typedEntity_iff.mp ⟨owner, found⟩, owned,
        (Except.ok.inj made).symm⟩
    · cases made
  · rintro ⟨type, known, owner, owned, rfl⟩
    obtain ⟨e, found⟩ := exists_typedEntity_iff.mpr owner
    exact ⟨type, known, e, found, if_pos owned⟩

variable {s s' : Store} {stamp : Stamp} {who : Caller}

theorem createEntity_eq_ok_iff {typeName : String} {properties : Properties}
    {owner : Option Ownership} {id : EntityId} :
    s.createEntity stamp who typeName properties owner = .ok (id, s') ↔
      Change s stamp who (.createEntity typeName properties owner) (.entity id) s' := by
  simp only [createEntity, Except.bind_eq_ok_iff]
  constructor
  · rintro ⟨_, checked, made⟩
    have free := checkName_eq_ok_iff.mp checked
    cases owner with
    | none =>
      obtain ⟨rfl, rfl⟩ := Prod.mk.inj (Except.ok.inj made)
      exact .create free
    | some o =>
      obtain ⟨r, edge, made⟩ := Except.bind_eq_ok_iff.mp made
      obtain ⟨type, known, ownerTyped, owned, rfl⟩ := ownershipOf_eq_ok_iff.mp edge
      obtain ⟨rfl, rfl⟩ := Prod.mk.inj (Except.ok.inj made)
      exact .createOwned free known ownerTyped owned
  · intro change
    cases change with
    | create free => exact ⟨(), checkName_eq_ok_iff.mpr free, rfl⟩
    | createOwned free known owner owned =>
      refine ⟨(), checkName_eq_ok_iff.mpr free, Except.bind_eq_ok_iff.mpr ⟨_, ?_, rfl⟩⟩
      exact ownershipOf_eq_ok_iff.mpr ⟨_, known, owner, owned, rfl⟩

theorem updateEntity_eq_ok_iff {id : EntityId} {typeName : String} {properties : Properties} :
    s.updateEntity stamp who id typeName properties = .ok s' ↔
      Change s stamp who (.updateEntity id typeName properties) .done s' := by
  simp only [updateEntity, Except.bind_eq_ok_iff, entity_eq_ok_iff]
  constructor
  · rintro ⟨e, stored, checked⟩
    split at checked
    · cases checked
    · rename_i same
      obtain ⟨_, free, made⟩ := Except.bind_eq_ok_iff.mp checked
      obtain rfl := Decidable.of_not_not same
      obtain rfl := Except.ok.inj made
      exact .update stored (checkName_eq_ok_iff.mp free)
  · intro change
    cases change with
    | update stored free =>
      refine ⟨_, stored, ?_⟩
      rw [if_neg (not_not_intro rfl)]
      exact Except.bind_eq_ok_iff.mpr ⟨(), checkName_eq_ok_iff.mpr free, rfl⟩

theorem deleteEntity_eq_ok_iff {id : EntityId} :
    s.deleteEntity id = .ok s' ↔ Change s stamp who (.deleteEntity id) .done s' := by
  simp only [deleteEntity, Except.bind_eq_ok_iff, entity_eq_ok_iff]
  constructor
  · rintro ⟨e, stored, made⟩
    obtain rfl := Except.ok.inj made
    exact .delete stored
  · intro change
    cases change with
    | delete stored => exact ⟨_, stored, rfl⟩

theorem createRelationship_eq_ok_iff {start finish : EntityId} {typeName : String}
    {id : RelationshipId} :
    s.createRelationship stamp who start finish typeName = .ok (id, s') ↔
      Change s stamp who (.createRelationship start finish typeName) (.relationship id) s' := by
  simp only [createRelationship, Except.bind_eq_ok_iff, relationshipType_eq_ok_iff]
  constructor
  · rintro ⟨type, known, e, starts, f, finishes, made⟩
    have hstart := exists_typedEntity_iff.mp ⟨e, starts⟩
    have hfinish := exists_typedEntity_iff.mp ⟨f, finishes⟩
    cases found : s.edge? start finish type.name with
    | none =>
      rw [found] at made
      obtain ⟨rfl, rfl⟩ := Prod.mk.inj (Except.ok.inj made)
      exact .link known hstart hfinish found
    | some r =>
      rw [found] at made
      obtain ⟨rfl, rfl⟩ := Prod.mk.inj (Except.ok.inj made)
      exact .keep known hstart hfinish found
  · intro change
    cases change with
    | link known starts finishes absent =>
      obtain ⟨e, starts⟩ := exists_typedEntity_iff.mpr starts
      obtain ⟨f, finishes⟩ := exists_typedEntity_iff.mpr finishes
      exact ⟨_, known, e, starts, f, finishes, by rw [absent]; rfl⟩
    | keep known starts finishes present =>
      obtain ⟨e, starts⟩ := exists_typedEntity_iff.mpr starts
      obtain ⟨f, finishes⟩ := exists_typedEntity_iff.mpr finishes
      exact ⟨_, known, e, starts, f, finishes, by rw [present]; rfl⟩

/-- The rules say all that a call can do when it succeeds. -/
theorem perform_eq_ok_iff {call : Call} {answer : Answer} :
    s.perform stamp who call = .ok (answer, s') ↔ Change s stamp who call answer s' := by
  cases call with
  | createEntity typeName properties owner =>
    rw [perform, Except.map_eq_ok_iff]
    constructor
    · rintro ⟨⟨id, next⟩, made, same⟩
      obtain ⟨rfl, rfl⟩ := Prod.mk.inj same
      exact createEntity_eq_ok_iff.mp made
    · intro change
      cases change with
      | create free => exact ⟨_, createEntity_eq_ok_iff.mpr (.create free), rfl⟩
      | createOwned free known owner owned =>
        exact ⟨_, createEntity_eq_ok_iff.mpr (.createOwned free known owner owned), rfl⟩
  | updateEntity id typeName properties =>
    rw [perform, Except.map_eq_ok_iff]
    constructor
    · rintro ⟨next, made, same⟩
      obtain ⟨rfl, rfl⟩ := Prod.mk.inj same
      exact updateEntity_eq_ok_iff.mp made
    · intro change
      cases change with
      | update stored free => exact ⟨_, updateEntity_eq_ok_iff.mpr (.update stored free), rfl⟩
  | deleteEntity id =>
    rw [perform, Except.map_eq_ok_iff]
    constructor
    · rintro ⟨next, made, same⟩
      obtain ⟨rfl, rfl⟩ := Prod.mk.inj same
      exact deleteEntity_eq_ok_iff.mp made
    · intro change
      cases change with
      | delete stored =>
        have made : s.deleteEntity id = .ok (s.without id) :=
          (@deleteEntity_eq_ok_iff s _ stamp who id).mpr (.delete stored)
        exact ⟨_, made, rfl⟩
  | createRelationship start finish typeName =>
    rw [perform, Except.map_eq_ok_iff]
    constructor
    · rintro ⟨⟨id, next⟩, made, same⟩
      obtain ⟨rfl, rfl⟩ := Prod.mk.inj same
      exact createRelationship_eq_ok_iff.mp made
    · intro change
      cases change with
      | link known starts finishes absent =>
        exact ⟨_, createRelationship_eq_ok_iff.mpr (.link known starts finishes absent), rfl⟩
      | keep known starts finishes present =>
        exact ⟨_, createRelationship_eq_ok_iff.mpr (.keep known starts finishes present), rfl⟩

/-- A call either leaves the store as it is or changes it by one of the rules. -/
theorem afterCall_cases (s : Store) (stamp : Stamp) (who : Caller) (call : Call) :
    s.afterCall stamp who call = s ∨
      ∃ answer, Change s stamp who call answer (s.afterCall stamp who call) := by
  rw [afterCall]
  cases made : s.perform stamp who call with
  | error e => exact .inl rfl
  | ok result => exact .inr ⟨result.1, perform_eq_ok_iff.mp made⟩

end Store

end LineagePorts
