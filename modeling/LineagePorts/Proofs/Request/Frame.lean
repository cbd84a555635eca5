import LineagePorts.Proofs.Request.Commutation
import LineagePorts.Proofs.Request.Effect

/-!
# What a request leaves alone

Whoever makes a request and however it ends, all records stay as they are but the one that an update
finds, and the one that a removal finds with the relationships that touch it. What is new is what the
request is to create, and nothing else: an insertion never lands on a record, since identifiers in use
are not taken.
-/

namespace LineagePorts

namespace Store

/-- The second store has exactly these records under identifiers that the first one does not use. -/
structure Gains (s s' : Store) (es : List Entity) (rs : List Relationship) : Prop where
  entities : ∀ id e, s'.entities.get? id = some e ∧ s.entities.get? id = none ↔ e ∈ es ∧ e.id = id
  relationships : ∀ id r, s'.relationships.get? id = some r ∧ s.relationships.get? id = none ↔
    r ∈ rs ∧ r.id = id

section Gains

variable {s s' : Store} {es : List Entity} {rs : List Relationship}

theorem gains_self (s : Store) : s.Gains s [] [] where
  entities id e := by
    cases s.entities.get? id <;> simp
  relationships id r := by
    cases s.relationships.get? id <;> simp

theorem gains_putEntity {e : Entity} (fresh : s.entities.get? e.id = none) :
    s.Gains (s.putEntity e) [e] [] where
  entities id f := by
    rw [get?_putEntity, List.mem_singleton]
    by_cases same : e.id = id
    · subst same
      rw [if_pos rfl, and_iff_left fresh]
      constructor
      · intro same
        obtain rfl := Option.some.inj same
        exact ⟨rfl, rfl⟩
      · rintro ⟨rfl, _⟩
        rfl
    · have other : ¬ (f = e ∧ f.id = id) := fun h => same (h.1 ▸ h.2)
      rw [if_neg same]
      simp only [other, iff_false, not_and]
      intro stored absent
      rw [absent] at stored
      cases stored
  relationships := (gains_self s).relationships

theorem Gains.addRelationship (gains : s.Gains s' es rs) {r : Relationship}
    (old : s.relationships.get? r.id = none) (unused : s'.relationships.get? r.id = none) :
    s.Gains (s'.addRelationship r) es (rs ++ [r]) where
  entities := gains.entities
  relationships id q := by
    rw [get?_addRelationship, List.mem_append, List.mem_singleton, or_and_right,
      ← gains.relationships]
    by_cases same : r.id = id
    · subst same
      rw [if_pos rfl, and_iff_left old, unused]
      constructor
      · intro same
        obtain rfl := Option.some.inj same
        exact .inr ⟨rfl, rfl⟩
      · rintro (⟨absent, _⟩ | ⟨rfl, _⟩)
        · cases absent
        · rfl
    · have other : ¬ (q = r ∧ q.id = id) := fun h => same (h.1 ▸ h.2)
      rw [if_neg same, or_iff_left other]

theorem gains_replace {id : EntityId} {e e' : Entity} (stored : s.entities.get? id = some e) :
    s.Gains (s.replace id e') [] [] where
  entities k f := by
    simp only [List.not_mem_nil, false_and, iff_false, not_and]
    intro found absent
    rw [get?_replace] at found
    split at found
    · rename_i same
      rw [← same, stored] at absent
      cases absent
    · rw [absent] at found
      cases found
  relationships := (gains_self s).relationships

theorem gains_without (s : Store) (id : EntityId) : s.Gains (s.without id) [] [] where
  entities k e := by
    simp only [List.not_mem_nil, false_and, iff_false, not_and]
    intro stored absent
    rw [(entities_without_iff.mp stored).2] at absent
    cases absent
  relationships k r := by
    simp only [List.not_mem_nil, false_and, iff_false, not_and]
    intro stored absent
    rw [(relationships_without_iff.mp stored).1] at absent
    cases absent

theorem gains_putPort {stamp : Stamp} (unused : s.Unused stamp) (who : Caller) (kind : PortKind)
    (port : Port) (owner : EntityId) :
    s.Gains (s.putPort stamp who kind port owner) [newEntity stamp who kind.typeName port.properties]
      [newRelationship stamp who .processPort owner stamp.entity] :=
  (gains_putEntity unused.entity).addRelationship unused.relationship unused.relationship

end Gains

end Store

namespace Request

/-- What a request may create: an entity, a port with the relationship from its owner and, if it is an
alias that delegates from the start, with one to its target, or a relationship of the type that the
request is about. -/
inductive Brings : Request → List Entity → List Relationship → Prop where
  | nothing (request : Request) : Brings request [] []
  | process (name : String) (e : Entity) : Brings (.createProcess name) [e] []
  | schemaType (name : String) (e : Entity) : Brings (.createSchemaType name) [e] []
  | port (kind : PortKind) (process : String) (port : Port) (delegatesTo : Option String)
      {e : Entity} {r : Relationship} (owns : r.typeName = TypeName.processPort)
      (ends : r.end2 = e.id) : Brings (.createPort kind process port delegatesTo) [e] [r]
  | forward (process : String) (port : Port) (target : String) {e : Entity} {r l : Relationship}
      (owns : r.typeName = TypeName.processPort) (ends : r.end2 = e.id)
      (delegates : l.typeName = TypeName.portDelegation) (starts : l.end1 = e.id) :
      Brings (.createPort .alias process port (some target)) [e] [r, l]
  | schema (port schemaType : String) {r : Relationship} (typed : r.typeName = TypeName.portSchema) :
      Brings (.addSchema port schemaType) [] [r]
  | delegation (port : String) (portType : PortType) (delegatesTo : String) {r : Relationship}
      (typed : r.typeName = TypeName.portDelegation) :
      Brings (.addDelegation port portType delegatesTo) [] [r]

/-- What an effect brings is new. -/
theorem Effect.brings {user : String} {s s' : Store} {request : Request}
    (effect : request.Effect user s s') (sound : s.Integrity) (unique : s.Unique) :
    ∃ es rs, request.Brings es rs ∧ s.Gains s' es rs := by
  cases effect with
  | nothing request => exact ⟨[], [], .nothing _, Store.gains_self s⟩
  | process fresh => exact ⟨_, _, .process _ _, Store.gains_putEntity fresh⟩
  | schemaType fresh => exact ⟨_, _, .schemaType _ _, Store.gains_putEntity fresh⟩
  | port unused => exact ⟨_, _, .port _ _ _ _ rfl rfl, Store.gains_putPort unused _ _ _ _⟩
  | forward unused unused' =>
    exact ⟨_, _, .forward _ _ _ rfl rfl rfl rfl, (Store.gains_putPort unused _ _ _ _).addRelationship
      (Store.unused_of_putPort unused unused') unused'⟩
  | update updates =>
    exact ⟨[], [], .nothing _, Store.gains_replace (updates.stored sound unique)⟩
  | schema found typed unused =>
    exact ⟨_, _, .schema _ _ rfl, (Store.gains_self s).addRelationship unused unused⟩
  | delegation found known unused =>
    exact ⟨_, _, .delegation _ _ _ rfl, (Store.gains_self s).addRelationship unused unused⟩
  | remove removes => exact ⟨[], [], .nothing _, Store.gains_without s _⟩

end Request

namespace Submission

theorem effect {b : Backend} (reached : b.store.Reached) (q : Submission)
    (fresh : b.FreshRun (q.writes b)) :
    q.request.Effect q.user b.store (q.leaves b).store :=
  Request.effect_apply (d := ⟨b, []⟩) reached q.request rfl (Desk.along_of_performed fresh)

/-- A request changes the entity that it finds to update or to remove and, with the latter, the
relationships that touch it. An update keeps what the entity is and where it comes from. All that is
new is what such a request creates. -/
theorem changes_only_what_it_finds {b : Backend} (reached : b.store.Reached) (q : Submission)
    (fresh : b.FreshRun (q.writes b)) :
    let s := b.store
    let s' := (q.leaves b).store
    (∀ id e, s.entities.get? id = some e →
      (∀ f, q.request.Updates q.user s f ∨ q.request.Removes q.user s f → f.id ≠ id) →
      s'.entities.get? id = some e) ∧
    (∀ known, q.request.Updates q.user s known → ∃ e, s'.entities.get? known.id = some e ∧
      e.id = known.id ∧ e.typeName = known.typeName ∧ e.createdBy = known.createdBy ∧
      e.createTime = known.createTime) ∧
    (∀ id r, s.relationships.get? id = some r →
      (∀ f, q.request.Removes q.user s f → r.end1 ≠ f.id ∧ r.end2 ≠ f.id) →
      s'.relationships.get? id = some r) ∧
    ∃ es rs, q.request.Brings es rs ∧
      (∀ id e, s'.entities.get? id = some e ∧ s.entities.get? id = none ↔ e ∈ es ∧ e.id = id) ∧
      ∀ id r, s'.relationships.get? id = some r ∧ s.relationships.get? id = none ↔
        r ∈ rs ∧ r.id = id := by
  intro s s'
  obtain ⟨sound, unique⟩ := reached.sound
  have effect := effect reached q fresh
  obtain ⟨es, rs, brings, gains⟩ := effect.brings sound unique
  exact ⟨fun _ _ => effect.entities_kept,
    fun _ updates => effect.updated_kept updates (updates.stored sound unique),
    fun _ _ => effect.relationships_kept, es, rs, brings, gains.entities, gains.relationships⟩

/-- An implementation gets another display name. Its process and its owner relationship stay as they
are, and an alias that delegates to it comes with two relationships. -/
theorem changes_only_what_it_finds_sample :
    let b := Backend.sample
    let update : Submission :=
      ⟨"steward", "engine", .sample 4, .updatePort .implementation (.plain "a" "c" .input)⟩
    let creation : Submission :=
      ⟨"steward", "engine", .sample 4, .createPort .alias "p" (.plain "b" "b" .input) (some "a")⟩
    update.outcome b = .updated ∧
      (∃ e, (update.leaves b).store.entities.get? ⟨.ofParts 0 0⟩ = some e ∧
        b.store.entities.get? ⟨.ofParts 0 0⟩ = some e) ∧
      (∃ e, (update.leaves b).store.entities.get? ⟨.ofParts 0 2⟩ = some e ∧
        e.typeName = TypeName.portImplementation ∧ e.createdBy = "steward") ∧
      (∃ r, (update.leaves b).store.relationships.get? ⟨.ofParts 0 3⟩ = some r ∧
        b.store.relationships.get? ⟨.ofParts 0 3⟩ = some r) ∧
      creation.outcome b = .created ⟨.ofParts 0 4⟩ ∧
      ∃ es rs, creation.request.Brings es rs ∧
        (∀ id e, (creation.leaves b).store.entities.get? id = some e ∧
          b.store.entities.get? id = none ↔ e ∈ es ∧ e.id = id) ∧
        ∀ id r, (creation.leaves b).store.relationships.get? id = some r ∧
          b.store.relationships.get? id = none ↔ r ∈ rs ∧ r.id = id := by
  intro b update creation
  obtain ⟨entities, updated, relationships, _⟩ :=
    changes_only_what_it_finds Request.reached_sample update (by decide +kernel)
  obtain ⟨_, _, _, brings⟩ :=
    changes_only_what_it_finds Request.reached_sample creation (by decide +kernel)
  have known : ∃ known, b.store.findByName? "a" TypeName.portImplementation = some known ∧
      known.id = ⟨.ofParts 0 2⟩ ∧ known.typeName = TypeName.portImplementation ∧
      known.createdBy = "steward" := by
    have shown : (b.store.findByName? "a" TypeName.portImplementation).map (fun e =>
        (e.id, e.typeName, e.createdBy)) =
        some (⟨.ofParts 0 2⟩, TypeName.portImplementation, "steward") := by decide +kernel
    obtain ⟨known, found, same⟩ := Option.map_eq_some_iff.mp shown
    obtain ⟨own, same⟩ := Prod.mk.inj same
    exact ⟨known, found, own, (Prod.mk.inj same).1, (Prod.mk.inj same).2⟩
  obtain ⟨known, found, own, typed, created⟩ := known
  have updates : update.request.Updates "steward" b.store known :=
    .intro (by decide) (by decide) found
  have only : ∀ f, update.request.Updates "steward" b.store f → f = known := by
    rintro f ⟨_, _, found'⟩
    exact Option.some.inj (found'.symm.trans found)
  refine ⟨by decide +kernel, ?process, ?port, ?owner, by decide +kernel, brings⟩
  case process =>
    obtain ⟨e, stored⟩ := Option.isSome_iff_exists.mp
      (show (b.store.entities.get? ⟨.ofParts 0 0⟩).isSome = true by decide +kernel)
    refine ⟨e, entities _ e stored ?_, stored⟩
    rintro f (updates' | removes)
    · rw [only f updates', own]
      decide
    · cases removes
  case port =>
    obtain ⟨e, stored, _, sameType, sameUser, _⟩ := updated known updates
    rw [own] at stored
    exact ⟨e, stored, sameType.trans typed, sameUser.trans created⟩
  case owner =>
    obtain ⟨r, stored⟩ := Option.isSome_iff_exists.mp
      (show (b.store.relationships.get? ⟨.ofParts 0 3⟩).isSome = true by decide +kernel)
    refine ⟨r, relationships _ r stored fun f removes => ?_, stored⟩
    cases removes

end Submission

end LineagePorts
