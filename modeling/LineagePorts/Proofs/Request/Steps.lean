import LineagePorts.Proofs.Request.Perform
import LineagePorts.Proofs.Store.Refusal

/-!
# One request beside the catalog

What each request does to a store in memory that refines a catalog is what the catalog does: it is
refused in the same cases with the same code, or answers alike and leaves a store that holds what
the changed catalog says.
-/

namespace LineagePorts

/-- The outcome tells what the catalog answers. The catalog does not know the identifiers. -/
inductive Outcome.Shows : Outcome → Catalog.Answer → Prop where
  | created (id : EntityId) : Shows (.created id) .created
  | updated : Shows .updated .updated
  | unchanged : Shows .unchanged .unchanged
  | linked : Shows .linked .linked
  | removed : Shows .removed .removed
  | nothing : Shows (.found none none) (.found none ∅)
  | port {e : Entity} {k : PortKey} {p : Port} (typed : e.typeName = k.kind.typeName)
      (named : e.qualifiedName? = some k.name) (same : e.port? = some p) :
      Shows (.found (some e) none) (.found (some (k, p)) ∅)
  | portWithSchema {e f : Entity} {k : PortKey} {p : Port} {name : String}
      (typed : e.typeName = k.kind.typeName) (named : e.qualifiedName? = some k.name)
      (same : e.port? = some p) (schemaTyped : f.typeName = TypeName.schemaType)
      (schemaNamed : f.qualifiedName? = some name) :
      Shows (.found (some e) (some f)) (.found (some (k, p)) {name})
  | failed (e : RequestError) : Shows (.failed e) (.failed e.code?)

/-- What an operation answered and left, beside what the catalog did. A refusal leaves the store as
it was. -/
inductive Agrees (s : Store) (c : Catalog) : Except RequestError Outcome × Desk →
    Except Catalog.Refusal (Catalog.Answer × Catalog) → Prop where
  | done {outcome : Outcome} {s' : Store} {trace : List Event} {answer : Catalog.Answer}
      {c' : Catalog} (shows : outcome.Shows answer) (kept : Represents s' c') :
      Agrees s c (.ok outcome, ⟨.memory s', trace⟩) (.ok (answer, c'))
  | refused {e : RequestError} {trace : List Event} :
      Agrees s c (.error e, ⟨.memory s, trace⟩) (.error e.code?)

/-- A request that is performed at a new desk agrees with the catalog, provided that its calls take
identifiers that are not in use. -/
def Simulated (around : Surroundings) (s : Store) (c : Catalog)
    (op : Operation RequestError Outcome)
    (change : Except Catalog.Refusal (Catalog.Answer × Catalog)) : Prop :=
  s.FreshRun (around.issuedFrom 0 (op.perform around ⟨.memory s, []⟩).2.trace) →
    Agrees s c (op.perform around ⟨.memory s, []⟩) change

namespace Store

variable {s : Store} {stamp : Stamp} {who : Caller} {typeName name : String}
  {properties : Properties} (given : properties.qualifiedName? = some name)

include given

theorem nameFree_iff : s.NameFree typeName properties none ↔ ¬ s.HasName ⟨typeName, name⟩ := by
  constructor
  · rintro free ⟨id, e, stored, typed, named⟩
    exact free.not_named given stored typed named
  · intro absent id e stored typed _ named
    exact absurd ⟨id, e, stored, typed, named.trans given⟩ absent

/-- A new entity is stored unless its name is taken. -/
theorem createEntity_cases :
    (s.HasName ⟨typeName, name⟩ ∧
        ∃ fault, s.createEntity stamp who typeName properties none = .error (.server fault)) ∨
      (¬ s.HasName ⟨typeName, name⟩ ∧ s.createEntity stamp who typeName properties none =
        .ok (stamp.entity, s.putEntity (newEntity stamp who typeName properties))) := by
  by_cases taken : s.HasName ⟨typeName, name⟩
  · refine .inl ⟨taken, ?_⟩
    cases made : s.createEntity stamp who typeName properties none with
    | error e =>
      obtain ⟨fault, rfl⟩ := s.createEntity_failsAsServer stamp who _ _ _ e made
      exact ⟨fault, rfl⟩
    | ok result =>
      obtain ⟨id, next⟩ := result
      cases createEntity_eq_ok_iff.mp made with
      | create free => exact absurd taken ((nameFree_iff given).mp free)
  · exact .inr ⟨taken, createEntity_eq_ok_iff.mpr (.create ((nameFree_iff given).mpr taken))⟩

/-- So is one that has an owner, if the types allow it. -/
theorem createEntity_owned_cases {o : Ownership} {type : RelationshipType}
    (known : RelationshipType.find? o.relationshipType = some type)
    (owner : s.HasType o.owner type.end1Type) (owned : TypeName.isA typeName type.end2Type = true) :
    (s.HasName ⟨typeName, name⟩ ∧
        ∃ fault, s.createEntity stamp who typeName properties (some o) = .error (.server fault)) ∨
      (¬ s.HasName ⟨typeName, name⟩ ∧ s.createEntity stamp who typeName properties (some o) =
        .ok (stamp.entity, (s.putEntity (newEntity stamp who typeName properties)).addRelationship
          (newRelationship stamp who type o.owner stamp.entity))) := by
  by_cases taken : s.HasName ⟨typeName, name⟩
  · refine .inl ⟨taken, ?_⟩
    cases made : s.createEntity stamp who typeName properties (some o) with
    | error e =>
      obtain ⟨fault, rfl⟩ := s.createEntity_failsAsServer stamp who _ _ _ e made
      exact ⟨fault, rfl⟩
    | ok result =>
      obtain ⟨id, next⟩ := result
      cases createEntity_eq_ok_iff.mp made with
      | createOwned free => exact absurd taken ((nameFree_iff given).mp free)
  · exact .inr ⟨taken, createEntity_eq_ok_iff.mpr
      (.createOwned ((nameFree_iff given).mpr taken) known owner owned)⟩

end Store

namespace Request

open Operation PortOperation

variable {s : Store} {c : Catalog} (refines : Refines s c) {around : Surroundings}
  {user source : String} {id : SourceId} (granted : Granted around.registry user source id)

include granted

/-- Creating a plain entity is one call. -/
theorem perform_createNamed (typeName name : String) :
    (onPorts (createNamed user source typeName name)).perform around ⟨.memory s, []⟩ =
      match s.createEntity (around.stamp 0) ⟨user, id, source⟩ typeName (.ofName name) none with
      | .ok (entity, next) => (.ok (.created entity), ⟨.memory next,
          [.resolved user source true,
            .called ⟨user, id, source⟩ (.createEntity typeName (.ofName name) none)]⟩)
      | .error e => (.error (.port e), ⟨.memory s,
          [.resolved user source true,
            .called ⟨user, id, source⟩ (.createEntity typeName (.ofName name) none)]⟩) := by
  rw [onPorts, perform_mapError, createNamed, perform_resolve_ok granted.resolved]
  dsimp only
  rw [perform_bind, createEntity, perform_change_granted, List.countP_nil, ← Properties.ofName]
  cases s.createEntity (around.stamp 0) ⟨user, id, source⟩ typeName (.ofName name) none <;> rfl

/-- A plain entity is created unless its name is taken, and changes what its name belongs to. -/
theorem createNamed_simulated {a : TypedName} {c' : Catalog}
    (kept : ∀ e, s.entities.get? e.id = none → e.typeName = a.typeName →
      e.qualifiedName? = some a.name → Represents (s.putEntity e) c') {free : Bool}
    (free_iff : free = true ↔ ¬ s.HasName a) :
    Simulated around s c (onPorts (createNamed user source a.typeName a.name))
      (do Catalog.require free Catalog.serverFailure; return (.created, c')) := by
  have named := Properties.qualifiedName?_ofName a.name
  rw [Simulated, perform_createNamed granted]
  rcases @Store.createEntity_cases s (around.stamp 0) ⟨user, id, source⟩ a.typeName _ _ named with
    ⟨taken, fault, made⟩ | ⟨notTaken, made⟩
  · rw [made]
    intro _
    have notFree : free = false := by
      rw [← Bool.not_eq_true, free_iff]
      exact not_not_intro taken
    rw [notFree]
    exact .refused
  · rw [made, free_iff.mpr notTaken]
    intro fresh
    have unused : s.entities.get? (around.stamp 0).entity = none := fresh.1.1
    exact .done (.created _) (kept _ unused rfl named)

include refines

theorem createProcess_simulated (name : String) :
    Simulated around s c (apply user source (.createProcess name))
      (c.change (.createProcess name)) := by
  refine createNamed_simulated granted (a := ⟨TypeName.process, name⟩)
    (fun e unused typed named => refines.putProcess refines.sound unused typed named) ?_
  rw [decide_eq_true_eq, refines.processes]

theorem createSchemaType_simulated (name : String) :
    Simulated around s c (apply user source (.createSchemaType name))
      (c.change (.createSchemaType name)) := by
  refine createNamed_simulated granted (a := ⟨TypeName.schemaType, name⟩)
    (fun e unused typed named => refines.putSchemaType refines.sound unused typed named) ?_
  rw [decide_eq_true_eq, refines.schemaTypes]

end Request

end LineagePorts
