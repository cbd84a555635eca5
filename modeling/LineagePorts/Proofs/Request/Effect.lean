import LineagePorts.Proofs.Operation.Delegation
import LineagePorts.Proofs.Request.Conduct
import LineagePorts.Proofs.Request.Represents

/-!
# The effect of a request

All that a request can do to a store, whoever makes it and however it ends: nothing, or what its call
does with what was found. An alias that delegates from the start may be created and not linked.
-/

namespace LineagePorts

namespace Store

/-- The store with a new port and the relationship from its owner. -/
def putPort (s : Store) (stamp : Stamp) (who : Caller) (kind : PortKind) (port : Port)
    (owner : EntityId) : Store :=
  (s.putEntity (newEntity stamp who kind.typeName port.properties)).addRelationship
    (newRelationship stamp who .processPort owner stamp.entity)

/-- No record has the identifiers of the stamp. -/
structure Unused (s : Store) (stamp : Stamp) : Prop where
  entity : s.entities.get? stamp.entity = none
  relationship : s.relationships.get? stamp.relationship = none

section Put

variable {s : Store} {stamp : Stamp} (unused : s.Unused stamp) {who : Caller} {kind : PortKind}
  {port : Port} {owner : EntityId}

include unused

theorem get?_relationships_putPort_old {id : RelationshipId} {r : Relationship}
    (stored : s.relationships.get? id = some r) :
    (s.putPort stamp who kind port owner).relationships.get? id = some r :=
  get?_addRelationship_old unused.relationship stored

/-- What the store with the new port does not use, the store before did not use either. -/
theorem unused_of_putPort {id : RelationshipId}
    (absent : (s.putPort stamp who kind port owner).relationships.get? id = none) :
    s.relationships.get? id = none := by
  cases stored : s.relationships.get? id with
  | none => rfl
  | some r =>
    rw [get?_relationships_putPort_old unused stored] at absent
    cases absent

end Put

end Store

namespace Request

open Store (newEntity newRelationship updatedEntity)

/-- The entity that an update finds. -/
inductive Updates (user : String) (s : Store) : Request → Entity → Prop where
  | intro {kind : PortKind} {port : Port} {known : Entity}
      (userNotBlank : Text.isBlank user = false)
      (notBlank : Text.isBlank port.qualifiedName = false)
      (found : s.findByName? port.qualifiedName kind.typeName = some known) :
      Updates user s (.updatePort kind port) known

/-- The entity that a removal finds. -/
inductive Removes (user : String) (s : Store) : Request → Entity → Prop where
  | intro {name : String} {e : Entity} (userNotBlank : Text.isBlank user = false)
      (notBlank : Text.isBlank name = false) (found : s.portNamed? name = some e) :
      Removes user s (.removePort name) e

/-- The stores that a request may leave. -/
inductive Effect (user : String) (s : Store) : Request → Store → Prop where
  | nothing (request : Request) : Effect user s request s
  | process {name : String} {stamp : Stamp} {who : Caller}
      (fresh : s.entities.get? stamp.entity = none) :
      Effect user s (.createProcess name)
        (s.putEntity (newEntity stamp who TypeName.process (.ofName name)))
  | schemaType {name : String} {stamp : Stamp} {who : Caller}
      (fresh : s.entities.get? stamp.entity = none) :
      Effect user s (.createSchemaType name)
        (s.putEntity (newEntity stamp who TypeName.schemaType (.ofName name)))
  | port {kind : PortKind} {process : String} {port : Port} {delegatesTo : Option String}
      {owner : EntityId} {stamp : Stamp} {who : Caller} (unused : s.Unused stamp) :
      Effect user s (.createPort kind process port delegatesTo)
        (s.putPort stamp who kind port owner)
  | forward {process target : String} {port : Port} {owner finish : EntityId} {stamp stamp' : Stamp}
      {who who' : Caller} (unused : s.Unused stamp)
      (unused' : (s.putPort stamp who .alias port owner).relationships.get? stamp'.relationship =
        none) :
      Effect user s (.createPort .alias process port (some target))
        ((s.putPort stamp who .alias port owner).addRelationship
          (newRelationship stamp' who' .portDelegation stamp.entity finish))
  | update {kind : PortKind} {port : Port} {known : Entity} {stamp : Stamp} {who : Caller}
      (updates : (updatePort kind port).Updates user s known) :
      Effect user s (.updatePort kind port)
        (s.replace known.id (updatedEntity stamp who port.properties known))
  | schema {port schemaType : String} {p t : Entity} {stamp : Stamp} {who : Caller}
      (found : s.portNamed? port = some p)
      (typed : s.findByName? schemaType TypeName.schemaType = some t)
      (unused : s.relationships.get? stamp.relationship = none) :
      Effect user s (.addSchema port schemaType)
        (s.addRelationship (newRelationship stamp who .portSchema p.id t.id))
  | delegation {port delegatesTo : String} {portType : PortType} {p t : Entity} {stamp : Stamp}
      {who : Caller} (found : s.portNamed? port = some p)
      (known : s.portNamed? delegatesTo = some t)
      (unused : s.relationships.get? stamp.relationship = none) :
      Effect user s (.addDelegation port portType delegatesTo)
        (s.addRelationship (newRelationship stamp who .portDelegation p.id t.id))
  | remove {name : String} {e : Entity} (removes : (removePort name).Removes user s e) :
      Effect user s (.removePort name) (s.without e.id)

section Act

variable {user source : String} {s s' : Store} {request : Request}

/-- A link is there already, or it is a new relationship of its type. -/
theorem eq_addRelationship_of_link {typeName : String} {type : RelationshipType}
    (known : RelationshipType.find? typeName = some type) {stamp : Stamp} {who : Caller}
    {start finish : EntityId} {answer : Store.Answer}
    (change : Store.Change s stamp who (.createRelationship start finish typeName) answer s') :
    s' = s ∨ s' = s.addRelationship (newRelationship stamp who type start finish) := by
  cases change with
  | link known' starts finishes absent =>
    obtain rfl := Option.some.inj (known.symm.trans known')
    exact .inr rfl
  | keep known' starts finishes present => exact .inl rfl

theorem effect_of_act (sound : s.Integrity) (unique : s.Unique)
    (act : s.Act user source (fun s => request.Makes user s) s') : request.Effect user s s' := by
  obtain ⟨makes, fresh, change⟩ := act
  cases makes with
  | process name =>
    cases change with
    | create free => exact .process fresh.1
  | schemaType name =>
    cases change with
    | create free => exact .schemaType fresh.1
  | port owned displayed named =>
    cases change with
    | createOwned free known owner owned =>
      obtain rfl := Option.some.inj (RelationshipType.find?_processPort.symm.trans known)
      exact .port ⟨fresh.1, fresh.2 rfl⟩
  | @update kind port e userNotBlank displayed named found =>
    obtain ⟨stored, _⟩ := (Store.findByName?_eq_some_iff sound unique).mp found
    generalize kind.typeName = typeName at change
    cases change with
    | update stored' free =>
      obtain rfl := Option.some.inj (stored.symm.trans stored')
      exact .update ⟨userNotBlank, named, found⟩
  | schema found typed absent =>
    rcases eq_addRelationship_of_link RelationshipType.find?_portSchema change with rfl | rfl
    · exact .nothing _
    · exact .schema found typed fresh
  | delegation found known absent =>
    rcases eq_addRelationship_of_link RelationshipType.find?_portDelegation change with rfl | rfl
    · exact .nothing _
    · exact .delegation found known fresh
  | remove userNotBlank notBlank found =>
    cases change with
    | delete stored => exact .remove ⟨userNotBlank, notBlank, found⟩

end Act

open Operation PortOperation

section Apply

variable {user source : String} {around : Surroundings} {d d' m : Desk}

/-- A port that was created is all that is new. -/
theorem eq_putPort_of_create {port : Port} {kind : PortKind} {process id : EntityId}
    (created : (create user port kind process source).perform around d = (.ok id, m))
    (fresh : d.FreshTo around m) :
    ∃ stamp who, d.store.Unused stamp ∧ id = stamp.entity ∧
      m.store = d.store.putPort stamp who kind port process := by
  obtain ⟨_, sourceId, _, issued⟩ := create_answers created
  have new := Desk.fresh_of_issued issued fresh
  have change := Desk.change_of_issue issued
  generalize m.store = s at change ⊢
  cases change with
  | createOwned free known owner owned =>
    obtain rfl := Option.some.inj (RelationshipType.find?_processPort.symm.trans known)
    exact ⟨_, _, ⟨new.1, new.2 rfl⟩, rfl, rfl⟩

theorem effect_createForward {process : String} {owner : EntityId} {port : Port} {target : String}
    {answer : Except Failure EntityId}
    (performed : (createForward user source owner ⟨port, some target⟩).perform around d =
      (answer, d'))
    (fresh : d.FreshTo around d') :
    (createPort .alias process port (some target)).Effect user d.store d'.store := by
  rcases (still_target user port.portType target around d).perform_bind _ with
    ⟨_, _, ended⟩ | ⟨_, _, went⟩
  · obtain ⟨_, rfl⟩ := Prod.mk.inj (performed.symm.trans ended)
    exact .nothing _
  have performed := went.symm.trans performed
  rw [perform_bind] at performed
  have course : Course user source Store.CreatesPort around d
    ((createAlias user ⟨port, some target⟩ owner source).perform around d) :=
    course_create port .alias owner
  generalize created : (createAlias user ⟨port, some target⟩ owner source).perform around d =
    result at course performed
  obtain ⟨first, m⟩ := result
  cases first with
  | error f =>
    obtain ⟨_, rfl⟩ := Prod.mk.inj performed
    rw [course.store_of_error]
    exact .nothing _
  | ok id =>
    have linked : Course user source
        (fun _ call => ∃ t, call = .createRelationship id t TypeName.portDelegation) around m
        (answer, d') := by
      rw [← performed]
      refine Course.bind_pure ?_ fun _ => ⟨id, rfl⟩
      exact course_addDelegation_within fun t _ _ => ⟨t.id, rfl⟩
    obtain ⟨before, later⟩ := Desk.freshTo_trans course.continues linked.continues fresh
    obtain ⟨stamp, who, unused, rfl, same⟩ := eq_putPort_of_create created before
    rcases linked.effect later with ⟨kept, _⟩ | ⟨⟨t, rfl⟩, unused', change⟩
    · rw [kept, same]
      exact .port unused
    · rw [same] at unused' change
      rcases eq_addRelationship_of_link RelationshipType.find?_portDelegation change with
        kept | added
      · rw [kept]
        exact .port unused
      · rw [added]
        exact .forward unused unused'

/-- Whatever a request does is its effect. -/
theorem effect_apply (reached : d.store.Reached) (request : Request)
    {answer : Except RequestError Outcome}
    (performed : (apply user source request).perform around d = (answer, d'))
    (fresh : d.FreshTo around d') : request.Effect user d.store d'.store := by
  obtain ⟨sound, unique⟩ := reached.sound
  cases simple : request.delegates with
  | false =>
    have course : Course user source (fun s => request.Makes user s) around d
        ((apply user source request).perform around d) := course_makes request simple
    rw [performed] at course
    rcases course.effect fresh with ⟨same, _⟩ | act
    · rw [same]
      exact .nothing _
    · exact effect_of_act sound unique act
  | true =>
    match request, simple with
    | .createPort .alias process port (some target), _ =>
      rcases (still_entityNamed TypeName.process process around d).perform_bind _ with
        ⟨_, _, ended⟩ | ⟨owner, _, went⟩
      · obtain ⟨_, rfl⟩ := Prod.mk.inj (performed.symm.trans ended)
        exact .nothing _
      · have performed := went.symm.trans performed
        let op := createForward user source owner.id ⟨port, some target⟩
        have desk := (alike_bind_pure around d (onPorts op) (f := fun id => pure (Outcome.created id))
          fun id => ⟨Outcome.created id, rfl⟩).desk
        rw [onPorts, perform_mapError] at desk
        exact effect_createForward (Prod.ext rfl (desk.symm.trans (congrArg Prod.snd performed))) fresh

end Apply

/-- The name of the port that a request creates, updates or removes. -/
def altered? : Request → Option String
  | .createPort _ _ port _ => some port.qualifiedName
  | .updatePort _ port => some port.qualifiedName
  | .removePort name => some name
  | _ => none

/-- The entity is a port of the name that the request is to alter. -/
def Targets (request : Request) (s : Store) (id : EntityId) : Prop :=
  ∃ (kind : PortKind) (name : String), request.altered? = some name ∧ s.Named id kind.typeName name

theorem Updates.stored {user : String} {s : Store} (sound : s.Integrity) (unique : s.Unique)
    {request : Request} {known : Entity} (updates : request.Updates user s known) :
    s.entities.get? known.id = some known := by
  obtain ⟨_, _, found⟩ := updates
  exact ((Store.findByName?_eq_some_iff sound unique).mp found).1

/-- What is found to be updated or removed is such a port. -/
theorem targets_of_found {user : String} {s : Store} (sound : s.Integrity) (unique : s.Unique)
    {request : Request} {f : Entity}
    (found : request.Updates user s f ∨ request.Removes user s f) : request.Targets s f.id := by
  rcases found with ⟨_, _, found⟩ | ⟨_, _, found⟩
  · obtain ⟨stored, typed, named⟩ := (Store.findByName?_eq_some_iff sound unique).mp found
    exact ⟨_, _, rfl, f, stored, typed, named⟩
  · obtain ⟨kind, named⟩ := ((Store.portNamed?_eq_some_iff sound unique).mp found).named
    exact ⟨kind, _, rfl, named⟩

/-- An entity of another name is not one. -/
theorem not_targets_of_named {request : Request} {s : Store} {id : EntityId} {e : Entity}
    (stored : s.entities.get? id = some e) {name : String} (named : e.qualifiedName? = some name)
    (other : request.altered? ≠ some name) : ¬ request.Targets s id := by
  rintro ⟨kind, name', altered, f, stored', _, named'⟩
  obtain rfl := Option.some.inj (stored.symm.trans stored')
  obtain rfl := Option.some.inj (named.symm.trans named')
  exact other altered

/-- Nor is an entity of another type. -/
theorem not_targets_of_plain {request : Request} {s : Store} {id : EntityId} {e : Entity}
    (stored : s.entities.get? id = some e) (plain : ∀ kind : PortKind, e.typeName ≠ kind.typeName) :
    ¬ request.Targets s id := by
  rintro ⟨kind, name, _, f, stored', typed, _⟩
  obtain rfl := Option.some.inj (stored.symm.trans stored')
  exact plain kind typed

theorem not_targets_of_schemaType {request : Request} {s : Store} {id : EntityId} {e : Entity}
    (stored : s.entities.get? id = some e) (typed : e.typeName = TypeName.schemaType) :
    ¬ request.Targets s id :=
  not_targets_of_plain stored fun kind isKind => kind.schemaType_ne (typed.symm.trans isKind)

namespace Effect

variable {user : String} {s s' : Store} {request : Request}
  (effect : request.Effect user s s')

include effect

theorem entities_kept {id : EntityId} {e : Entity} (stored : s.entities.get? id = some e)
    (other : ∀ f, request.Updates user s f ∨ request.Removes user s f → f.id ≠ id) :
    s'.entities.get? id = some e := by
  cases effect with
  | nothing request => exact stored
  | process fresh => exact Store.get?_putEntity_old fresh stored
  | schemaType fresh => exact Store.get?_putEntity_old fresh stored
  | port unused => exact Store.get?_putEntity_old unused.entity stored
  | forward unused unused' => exact Store.get?_putEntity_old unused.entity stored
  | @update kind port known stamp who updates =>
    rw [Store.get?_replace, if_neg (other known (.inl updates))]
    exact stored
  | schema found typed unused => exact stored
  | delegation found known unused => exact stored
  | @remove name e removes =>
    exact Store.entities_without_iff.mpr ⟨(other e (.inr removes)).symm, stored⟩

theorem relationships_kept {id : RelationshipId} {r : Relationship}
    (stored : s.relationships.get? id = some r)
    (away : ∀ f, request.Removes user s f → r.end1 ≠ f.id ∧ r.end2 ≠ f.id) :
    s'.relationships.get? id = some r := by
  cases effect with
  | nothing request => exact stored
  | process fresh => exact stored
  | schemaType fresh => exact stored
  | port unused => exact Store.get?_relationships_putPort_old unused stored
  | forward unused unused' =>
    exact Store.get?_addRelationship_old unused' (Store.get?_relationships_putPort_old unused stored)
  | update updates => exact stored
  | schema found typed unused => exact Store.get?_addRelationship_old unused stored
  | delegation found known unused => exact Store.get?_addRelationship_old unused stored
  | @remove name e removes =>
    exact Store.relationships_without_iff.mpr ⟨stored, away e removes⟩

/-- An update leaves the entity as it was or gives it other properties. -/
theorem updated_kept {known : Entity} (updates : request.Updates user s known)
    (stored : s.entities.get? known.id = some known) :
    ∃ e, s'.entities.get? known.id = some e ∧ e.id = known.id ∧ e.typeName = known.typeName ∧
      e.createdBy = known.createdBy ∧ e.createTime = known.createTime := by
  cases effect with
  | nothing request => exact ⟨known, stored, rfl, rfl, rfl, rfl⟩
  | @update kind port known' stamp who updates' =>
    obtain ⟨_, _, found⟩ := updates
    obtain ⟨_, _, found'⟩ := updates'
    obtain rfl := Option.some.inj (found.symm.trans found')
    exact ⟨Store.updatedEntity stamp who port.properties known,
      by rw [Store.get?_replace, if_pos rfl], rfl, rfl, rfl, rfl⟩
  | process fresh => cases updates
  | schemaType fresh => cases updates
  | port unused => cases updates
  | forward unused unused' => cases updates
  | schema found typed unused => cases updates
  | delegation found known unused => cases updates
  | remove removes => cases updates

section Targets

variable (sound : s.Integrity) (unique : s.Unique)

include sound unique

theorem get?_kept {id : EntityId} {e : Entity} (stored : s.entities.get? id = some e)
    (spared : ¬ request.Targets s id) : s'.entities.get? id = some e := by
  refine effect.entities_kept stored fun f found => ?_
  rintro rfl
  exact spared (targets_of_found sound unique found)

theorem linked_kept {typeName : String} {start finish : EntityId}
    (linked : s.Linked typeName start finish) (first : ¬ request.Targets s start)
    (second : ¬ request.Targets s finish) : s'.Linked typeName start finish := by
  obtain ⟨id, r, stored, typed, rfl, rfl⟩ := linked
  refine ⟨id, r, effect.relationships_kept stored fun f removes => ?_, typed, rfl, rfl⟩
  have targets := targets_of_found sound unique (.inr removes)
  constructor
  · intro same
    exact first (same ▸ targets)
  · intro same
    exact second (same ▸ targets)

end Targets

/-- A port has its name from before, unless the request was to alter that. -/
theorem named_cases (kind : PortKind) {name : String} {id : EntityId}
    (named : s'.Named id kind.typeName name) :
    s.Named id kind.typeName name ∨ request.altered? = some name := by
  obtain ⟨f, stored, typed, named⟩ := named
  cases effect with
  | nothing request => exact .inl ⟨f, stored, typed, named⟩
  | process fresh =>
    rcases Store.get?_putEntity_cases stored with ⟨_, rfl⟩ | old
    · exact absurd typed kind.process_ne
    · exact .inl ⟨f, old, typed, named⟩
  | schemaType fresh =>
    rcases Store.get?_putEntity_cases stored with ⟨_, rfl⟩ | old
    · exact absurd typed kind.schemaType_ne
    · exact .inl ⟨f, old, typed, named⟩
  | @port _ _ port _ _ _ _ unused =>
    rcases Store.get?_putEntity_cases stored with ⟨_, rfl⟩ | old
    · exact .inr (port.qualifiedName?_properties.symm.trans named)
    · exact .inl ⟨f, old, typed, named⟩
  | @forward _ _ port _ _ _ _ _ _ unused unused' =>
    rcases Store.get?_putEntity_cases stored with ⟨_, rfl⟩ | old
    · exact .inr (port.qualifiedName?_properties.symm.trans named)
    · exact .inl ⟨f, old, typed, named⟩
  | @update _ port known _ _ updates =>
    rw [Store.get?_replace] at stored
    split at stored
    · obtain rfl := Option.some.inj stored
      exact .inr (port.qualifiedName?_properties.symm.trans named)
    · exact .inl ⟨f, stored, typed, named⟩
  | schema found typed' unused => exact .inl ⟨f, stored, typed, named⟩
  | delegation found known unused => exact .inl ⟨f, stored, typed, named⟩
  | remove removes => exact .inl ⟨f, (Store.entities_without_iff.mp stored).2, typed, named⟩

section Lookup

variable (before : s.Reached) (after : s'.Reached)

include before after

/-- What is found by a name of its own is still found by it. -/
theorem findByName?_kept {name typeName : String} {e : Entity}
    (found : s.findByName? name typeName = some e) (spared : ¬ request.Targets s e.id) :
    s'.findByName? name typeName = some e := by
  obtain ⟨sound, unique⟩ := before.sound
  obtain ⟨sound', unique'⟩ := after.sound
  obtain ⟨stored, fits⟩ := (Store.findByName?_eq_some_iff sound unique).mp found
  exact (Store.findByName?_eq_some_iff sound' unique').mpr
    ⟨effect.get?_kept sound unique stored spared, fits⟩

/-- A name stands for the same port unless the request was to alter a port of that name. Else an alias
could have come before the implementation. -/
theorem portNamed?_kept {name : String} {p : Entity} (found : s.portNamed? name = some p)
    (other : request.altered? ≠ some name) : s'.portNamed? name = some p := by
  obtain ⟨sound, unique⟩ := before.sound
  obtain ⟨sound', unique'⟩ := after.sound
  obtain ⟨stored, named, typed⟩ := (Store.portNamed?_eq_some_iff sound unique).mp found
  have kept := effect.get?_kept sound unique stored (not_targets_of_named stored named other)
  refine (Store.portNamed?_eq_some_iff sound' unique').mpr ⟨kept, named, ?_⟩
  rcases typed with isAlias | ⟨isImplementation, noAlias⟩
  · exact .inl isAlias
  · refine .inr ⟨isImplementation, fun id named' => ?_⟩
    rcases effect.named_cases .alias named' with old | altered
    · exact noAlias id old
    · exact other altered

end Lookup

end Effect

end Request

end LineagePorts
