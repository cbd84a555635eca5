import LineagePorts.Proofs.Request.Steps

/-!
# Requests about ports beside the catalog

Creating, updating, linking, removing and finding ports, each beside the step of the catalog.
-/

namespace LineagePorts

open Operation

namespace Refines

variable {s : Store} {c : Catalog} (refines : Refines s c)

include refines

theorem isNone_ports_iff (k : PortKey) : (c.ports k).isNone = true ↔ ¬ s.HasName k.typed := by
  rw [Option.isNone_iff_eq_none, refines.ports_eq_none_iff, refines.hasName_typed_iff refines.sound,
    not_exists]

/-- What the store gains when a port was created for a process. -/
theorem putPort_new {stamp : Stamp} {who : Caller} {kind : PortKind} {port : Port}
    {owner : EntityId} {process : String} {id : EntityId} {s' : Store}
    (owns : s.Named owner TypeName.process process)
    (free : (c.ports ⟨kind, port.qualifiedName⟩).isNone = true)
    (made : s.createEntity stamp who kind.typeName port.properties
      (some ⟨owner, TypeName.processPort⟩) = .ok (id, s'))
    (fresh : stamp.Fresh s
      (.createEntity kind.typeName port.properties (some ⟨owner, TypeName.processPort⟩))) :
    Refines s' (c.putPort ⟨kind, port.qualifiedName⟩ port process) ∧
      ∃ e, e.id = id ∧ s'.IsPort e ⟨kind, port.qualifiedName⟩ port := by
  have change := Store.createEntity_eq_ok_iff.mp made
  have sound := refines.sound.change fresh change
  have unique := refines.unique.change refines.sound fresh change
  cases change with
  | @createOwned _ _ _ type _ known _ _ =>
    rw [RelationshipType.find?_processPort] at known
    obtain rfl := Option.some.inj known
    let e := Store.newEntity stamp who kind.typeName port.properties
    let r := Store.newRelationship stamp who .processPort owner stamp.entity
    have unused : s.entities.get? e.id = none := fresh.1
    have unusedEdge : s.relationships.get? r.id = none := fresh.2 rfl
    refine ⟨⟨?_, sound, unique⟩, e, rfl, Store.isPort_addRelationship_iff.mpr ?_⟩
    · exact refines.putPort refines.sound unused rfl rfl rfl (Option.isNone_iff_eq_none.mp free)
        unusedEdge rfl owns rfl
    · exact (Store.isPort_putEntity_iff unused).mpr (.inr ⟨rfl, rfl, rfl, rfl⟩)

end Refines

section Linking

open PortOperation

variable {s : Store} {c : Catalog} (refines : Refines s c) {around : Surroundings}
  {user source : String} {id : SourceId} (granted : Granted around.registry user source id)
  {port : Entity} {key : PortKey} {p : Port} (isPort : s.IsPort port key p) (trace : List Event)

include refines granted isPort

/-- A delegation goes to the port that the catalog has under the name, or both refuse it. -/
theorem perform_addDelegation_cases (portType : PortType) (name : String) :
    (∃ e, (addDelegation user port.id portType name source).perform around ⟨.memory s, trace⟩ =
        (.error e, ⟨.memory s, trace⟩) ∧ c.target name portType = .error (some e.code)) ∨
    ∃ target known s' added,
      (addDelegation user port.id portType name source).perform around ⟨.memory s, trace⟩ =
        (.ok (), ⟨.memory s', trace ++ added⟩) ∧
      c.target name portType = .ok target ∧ c.portNamed? name = some (target, known) ∧
      (s.FreshRun (around.issuedFrom (trace.countP Event.isCall) added) →
        Represents s' (c.delegate key target)) := by
  rw [addDelegation, ← bind_assoc, perform_bind]
  have answers := delegation_answers refines granted.notBlank around trace portType name
    "add_port_delegation_relationship"
  generalize (ofExcept (checkDelegation user name "add_port_delegation_relationship") >>= fun _ =>
    findDeclared user portType name).perform around ⟨.memory s, trace⟩ = found at answers ⊢
  generalize answer_eq : c.target name portType = answer at answers ⊢
  cases answers with
  | refused e => exact .inl ⟨e, rfl, rfl⟩
  | found same =>
    obtain ⟨known, target, named, _⟩ := same
    have isDelegation : RelationshipType.find? RelationshipType.portDelegation.name =
        some .portDelegation := rfl
    obtain ⟨s', added, linked, adds⟩ := perform_link granted s trace isDelegation isPort.hasType
      target.hasType isPort.hasType isPort.toNamed target.toNamed
    exact .inr ⟨_, known, s', added, linked, rfl, named,
      fun fresh => refines.addDelegation (adds fresh)⟩

end Linking

section Creating

open PortOperation

variable {s : Store} {c : Catalog} (refines : Refines s c) {around : Surroundings}
  {user source : String} {id : SourceId} (granted : Granted around.registry user source id)

include refines granted

/-- Creating a port is refused before it is stored, or ends with it in both. -/
theorem perform_create_cases {owner : EntityId} {process : String}
    (owns : s.Named owner TypeName.process process) (kind : PortKind) (port : Port) :
    (∃ e trace, (create user port kind owner source).perform around ⟨.memory s, []⟩ =
        (.error e, ⟨.memory s, trace⟩) ∧
      c.accept ⟨kind, port.qualifiedName⟩ port = .error (some e.code)) ∨
    ∃ entity s' call, (create user port kind owner source).perform around ⟨.memory s, []⟩ =
        (.ok entity, ⟨.memory s',
          [.resolved user source true, .called ⟨user, id, source⟩ call]⟩) ∧
      c.accept ⟨kind, port.qualifiedName⟩ port = .ok () ∧
      s.after ⟨around.stamp 0, ⟨user, id, source⟩, call⟩ = s' ∧
      ((around.stamp 0).Fresh s call →
        Refines s' (c.putPort ⟨kind, port.qualifiedName⟩ port process) ∧
          ∃ e, e.id = entity ∧ s'.IsPort e ⟨kind, port.qualifiedName⟩ port) := by
  have hasType : s.HasType owner TypeName.process := by
    obtain ⟨e, stored, typed, _⟩ := owns
    exact ⟨e, stored, by rw [typed]; decide⟩
  have owned : TypeName.isA kind.typeName TypeName.port = true := kind.isA_port
  rw [perform_create granted, Catalog.accept, Catalog.requireName, Catalog.requireName,
    Catalog.require, Catalog.require, Catalog.require]
  cases Text.isBlank port.displayName with
  | true => exact .inl ⟨_, [], rfl, rfl⟩
  | false =>
  cases Text.isBlank port.qualifiedName with
  | true => exact .inl ⟨_, [], rfl, rfl⟩
  | false =>
  rw [if_neg Bool.false_ne_true, if_neg Bool.false_ne_true, createEntity, perform_change_granted,
    List.countP_nil]
  rcases Store.createEntity_owned_cases (s := s) port.qualifiedName?_properties
    (o := ⟨owner, TypeName.processPort⟩) RelationshipType.find?_processPort hasType owned with
    ⟨taken, fault, made⟩ | ⟨free, made⟩
  · have isTaken : (c.ports ⟨kind, port.qualifiedName⟩).isNone = false := by
      rw [← Bool.not_eq_true, refines.isNone_ports_iff]
      exact not_not_intro taken
    rw [made, isTaken]
    exact .inl ⟨_, _, rfl, rfl⟩
  · have isFree : (c.ports ⟨kind, port.qualifiedName⟩).isNone = true :=
      (refines.isNone_ports_iff _).mpr free
    refine .inr ⟨_, _, _, by rw [made]; rfl, by rw [isFree]; rfl, ?_, fun fresh => ?_⟩
    · rw [Store.after, Store.afterCall, Store.perform, made]
      rfl
    · exact refines.putPort_new owns isFree made fresh

theorem create_simulated {owner : EntityId} {process : String}
    (owns : s.Named owner TypeName.process process) (kind : PortKind) (port : Port) :
    Simulated around s c
      (do return .created (← Request.onPorts (create user port kind owner source)))
      ((c.accept ⟨kind, port.qualifiedName⟩ port).map fun _ =>
        (.created, c.putPort ⟨kind, port.qualifiedName⟩ port process)) := by
  rw [Simulated, perform_bind, Request.onPorts, perform_mapError]
  rcases perform_create_cases refines granted owns kind port with
    ⟨e, trace, refused, denied⟩ | ⟨entity, s', call, made, accepted, _, kept⟩
  · rw [refused, denied]
    exact fun _ => .refused
  · rw [made, accepted]
    intro fresh
    have fresh : (around.stamp 0).Fresh s call := fresh.1
    exact .done (.created entity) (kept fresh).1.toRepresents

/-- The target of a new alias is looked up twice. When the alias is stored the target is still
there, and if the alias has its name then the alias delegates to itself. -/
theorem createForward_simulated {owner : EntityId} {process : String}
    (owns : s.Named owner TypeName.process process) (port : Port) (name : String) :
    Simulated around s c
      (do return .created (← Request.onPorts
        (Request.createForward user source owner ⟨port, some name⟩)))
      (c.target name port.portType >>= fun _ =>
        (c.accept ⟨.alias, port.qualifiedName⟩ port).map fun _ =>
          (.created, (c.putPort ⟨.alias, port.qualifiedName⟩ port process).forward
            ⟨.alias, port.qualifiedName⟩ (some name))) := by
  rw [Simulated, perform_bind, Request.onPorts, perform_mapError, Request.createForward]
  dsimp only
  rw [perform_bind, target]
  have answers := delegation_answers refines granted.notBlank around [] port.portType name
    "find_delegation_target"
  generalize (ofExcept (checkDelegation user name "find_delegation_target") >>= fun _ =>
    findDeclared user port.portType name).perform around ⟨.memory s, []⟩ = found at answers ⊢
  generalize accepted : c.target name port.portType = answer at answers ⊢
  cases answers with
  | refused e => exact fun _ => .refused
  | found _ =>
  dsimp only
  rw [perform_bind, createAlias]
  rcases perform_create_cases refines granted owns .alias port with
    ⟨e, trace, refused, denied⟩ | ⟨entity, s', call, made, allowed, after_eq, kept⟩
  · rw [refused]
    show s.FreshRun (around.issuedFrom 0 trace) → Agrees s c (.error (.port e), _)
      ((c.accept ⟨.alias, port.qualifiedName⟩ port).map _)
    rw [denied]
    exact fun _ => .refused
  rw [made]
  show _ → Agrees s c _ ((c.accept ⟨.alias, port.qualifiedName⟩ port).map _)
  rw [allowed]
  dsimp only
  rw [perform_bind]
  have course : Course user source Store.LinksPort around
      ⟨.memory s', [.resolved user source true, .called ⟨user, id, source⟩ call]⟩
      ((addDelegation user entity port.portType name source).perform around _) :=
    course_addDelegation entity port.portType name
  obtain ⟨added, after⟩ := course.continues.memory
  -- The trace is that of the creation and what the link adds, so the first call is fresh.
  have first : s.FreshRun (around.issuedFrom 0 ([.resolved user source true,
      .called ⟨user, id, source⟩ call] ++ added)) → (around.stamp 0).Fresh s call :=
    fun fresh => fresh.1
  by_cases unused : (around.stamp 0).Fresh s call
  · obtain ⟨refines', e, rfl, isPort⟩ := kept unused
    obtain ⟨_, still⟩ := Catalog.target_putPort accepted
    rcases perform_addDelegation_cases refines' granted isPort _ port.portType name with
      ⟨_, _, denied⟩ | ⟨target, known, s'', added', linked, _, named, delegates⟩
    · rw [still] at denied
      cases denied
    · rw [linked, Catalog.forward, named]
      intro fresh
      have rest : (s.after ⟨around.stamp 0, ⟨user, id, source⟩, call⟩).FreshRun
          (around.issuedFrom 1 added') := fresh.2
      rw [after_eq] at rest
      exact .done (.created e.id) (delegates rest)
  · generalize (addDelegation user entity port.portType name source).perform around
      ⟨.memory s', [.resolved user source true, .called ⟨user, id, source⟩ call]⟩ = result
      at after ⊢
    obtain ⟨answer, desk⟩ := result
    dsimp only at after
    subst after
    cases answer <;> exact fun fresh => absurd (first fresh) unused

theorem createPort_simulated (kind : PortKind) (process : String) (port : Port)
    (delegatesTo : Option String) :
    Simulated around s c (Request.apply user source (.createPort kind process port delegatesTo))
      (c.change (.createPort kind process port delegatesTo)) := by
  rw [Simulated, Request.apply, perform_bind, Request.perform_entityNamed, Desk.store,
    Backend.store, Catalog.change]
  rcases refines.findProcess_cases process with ⟨absent, unknown⟩ | ⟨owner, found, known, owns⟩
  · rw [absent, Catalog.createPort_of_notMem unknown]
    exact fun _ => .refused
  rw [found]
  cases kind with
  | implementation =>
    rw [Catalog.createPort_plain known rfl]
    exact create_simulated refines granted owns .implementation port
  | «alias» =>
    cases delegatesTo with
    | none =>
      rw [Catalog.createPort_plain known rfl]
      exact create_simulated refines granted owns .alias port
    | some name =>
      rw [Catalog.createPort_forward known rfl]
      exact createForward_simulated refines granted owns port name

end Creating

section Changing

open PortOperation

variable {s : Store} {c : Catalog} (refines : Refines s c) {around : Surroundings}
  {user source : String} {id : SourceId} (granted : Granted around.registry user source id)

include refines

/-- The name of a stored port is free for the port itself. -/
theorem updateEntity_port {e : Entity} {key : PortKey} {p port : Port} (isPort : s.IsPort e key p)
    (named : port.qualifiedName = key.name) (stamp : Stamp) (who : Caller) :
    s.updateEntity stamp who e.id key.kind.typeName port.properties =
      .ok (s.replace e.id (Store.updatedEntity stamp who port.properties e)) := by
  rw [← isPort.typed, Store.updateEntity_eq_ok_iff]
  refine .update isPort.stored fun id f stored typed _ name => ?_
  have name : f.qualifiedName? = some port.qualifiedName :=
    name.trans port.qualifiedName?_properties
  have own : e.qualifiedName? = some port.qualifiedName := by rw [isPort.qualifiedName?, named]
  rw [refines.sound.entityId stored,
    refines.unique.names stored isPort.stored typed name own]

include granted

theorem updatePort_simulated (kind : PortKind) (port : Port) :
    Simulated around s c (Request.apply user source (.updatePort kind port))
      (c.change (.updatePort kind port)) := by
  rw [Simulated, Request.apply, Request.onPorts, perform_mapError, Request.updateNamed,
    perform_bind, perform_findOfKind granted.notBlank, Catalog.change, Catalog.updatePort,
    Catalog.requireName, Catalog.requireName, Catalog.require, Catalog.require]
  cases named : Text.isBlank port.qualifiedName with
  | true => exact fun _ => .refused
  | false =>
  rw [if_neg Bool.false_ne_true]
  dsimp only
  rw [Desk.store, Backend.store]
  rcases refines.findPort_cases ⟨kind, port.qualifiedName⟩ with
    ⟨absent, unknown⟩ | ⟨e, p, owner, found, known, isPort⟩
  · dsimp only at absent
    rw [absent, unknown]
    exact fun _ => .refused
  dsimp only at found
  rw [found, known]
  dsimp only
  rw [perform_bind, perform_update granted s [] e port kind named]
  cases Text.isBlank port.displayName with
  | true => exact fun _ => .refused
  | false =>
  by_cases same : p = port
  · have still : e.properties = port.properties := by rw [isPort.properties, same]
    rw [if_neg Bool.false_ne_true, if_pos still, if_pos same]
    exact fun _ => .done .unchanged refines.toRepresents
  · have differs : e.properties ≠ port.properties := fun h =>
      same (Port.properties_injective (isPort.properties.symm.trans h))
    rw [if_neg Bool.false_ne_true, if_neg differs, perform_bind, updateEntity,
      perform_change_granted, updateEntity_port refines isPort rfl, if_neg same]
    exact fun _ => .done .updated (refines.replacePort refines.unique isPort rfl rfl rfl rfl
      refines.sound known)

theorem addSchema_simulated (port schemaType : String) :
    Simulated around s c (Request.apply user source (.addSchema port schemaType))
      (c.change (.addSchema port schemaType)) := by
  rw [Simulated, Request.apply, perform_bind, Request.onPorts, perform_mapError, Catalog.change,
    Catalog.addSchema]
  have answers := portNamed_answers refines granted.notBlank around [] port
  generalize (Request.portNamed user port).perform around ⟨.memory s, []⟩ = found at answers ⊢
  generalize c.port port = answer at answers ⊢
  cases answers with
  | refused e => exact fun _ => .refused
  | @found e key isPort =>
  dsimp only [Except.mapError]
  rw [perform_bind, Request.perform_entityNamed, Desk.store, Backend.store]
  rcases refines.findSchemaType_cases schemaType with ⟨absent, unknown⟩ | ⟨f, found, known, named⟩
  · rw [absent]
    show _ → Agrees s c _ (Catalog.require (schemaType ∈ c.schemaTypes) _ >>= _)
    rw [Catalog.require, decide_eq_false unknown]
    exact fun _ => .refused
  rw [found]
  show _ → Agrees s c _ (Catalog.require (schemaType ∈ c.schemaTypes) _ >>= _)
  rw [Catalog.require, decide_eq_true known]
  have isSchemaLink : RelationshipType.find? RelationshipType.portSchema.name =
      some .portSchema := rfl
  have schemaTyped : s.HasType f.id TypeName.schemaType := by
    obtain ⟨g, stored, typed, _⟩ := named
    exact ⟨g, stored, by rw [typed]; decide⟩
  obtain ⟨s', added, linked, adds⟩ := perform_link granted s [] isSchemaLink isPort.hasType
    schemaTyped isPort.hasType isPort.toNamed (b := ⟨TypeName.schemaType, schemaType⟩) named
  dsimp only
  rw [perform_bind, Request.onPorts, perform_mapError, perform_addSchema granted.notBlank]
  have linked : (link user e.id f.id TypeName.portSchema source).perform around ⟨.memory s, []⟩ =
      (.ok (), ⟨.memory s', [] ++ added⟩) := linked
  rw [linked]
  exact fun fresh => .done .linked (refines.addSchemaLink (adds fresh))

theorem addDelegation_simulated (port : String) (portType : PortType) (delegatesTo : String) :
    Simulated around s c (Request.apply user source (.addDelegation port portType delegatesTo))
      (c.change (.addDelegation port portType delegatesTo)) := by
  rw [Simulated, Request.apply, Request.onPorts, perform_mapError, perform_bind, Catalog.change,
    Catalog.addDelegation]
  have answers := portNamed_answers refines granted.notBlank around [] port
  generalize (Request.portNamed user port).perform around ⟨.memory s, []⟩ = found at answers ⊢
  generalize c.port port = answer at answers ⊢
  cases answers with
  | refused e => exact fun _ => .refused
  | @found e key isPort =>
  dsimp only
  rw [perform_bind]
  rcases perform_addDelegation_cases refines granted isPort [] portType delegatesTo with
    ⟨e, refused, denied⟩ | ⟨target, known, s', added, linked, accepted, _, delegates⟩
  · rw [refused]
    show _ → Agrees s c _ (c.target delegatesTo portType >>= _)
    rw [denied]
    exact fun _ => .refused
  · rw [linked]
    show _ → Agrees s c _ (c.target delegatesTo portType >>= _)
    rw [accepted]
    exact fun fresh => .done .linked (delegates fresh)

theorem removePort_simulated (name : String) :
    Simulated around s c (Request.apply user source (.removePort name))
      (c.change (.removePort name)) := by
  rw [Simulated, Request.apply, Request.onPorts, perform_mapError, perform_bind, remove,
    perform_bind, perform_ofExcept, Parameter.checkUser_of_not_blank granted.notBlank,
    Catalog.change, Catalog.removePort, Catalog.requireName, Catalog.require]
  dsimp only
  rw [perform_bind, perform_ofExcept]
  cases blank : Text.isBlank name with
  | true =>
    rw [Parameter.checkName_of_blank blank]
    exact fun _ => .refused
  | false =>
  rw [Parameter.checkName_of_not_blank blank]
  dsimp only
  rw [perform_bind, perform_find granted.notBlank, blank, if_neg Bool.false_ne_true]
  dsimp only
  rw [Desk.store, Backend.store]
  rcases refines.portNamed?_cases name with ⟨absent, unknown⟩ | ⟨e, key, p, found, known, isPort⟩
  · rw [absent, unknown]
    exact fun _ => .done .removed refines.toRepresents
  · have made : s.deleteEntity e.id = .ok (s.without e.id) := by
      rw [Store.deleteEntity, Store.entity, isPort.stored]
      rfl
    rw [found, known]
    dsimp only
    rw [perform_resolve_ok granted.resolved, deleteEntity, perform_change_granted, made]
    exact fun _ => .done .removed (refines.erasePort refines.unique isPort refines.sound)

theorem findPort_simulated (name : String) :
    Simulated around s c (Request.apply user source (.findPort name))
      (c.change (.findPort name)) := by
  rw [Simulated, Request.apply, Request.onPorts, perform_mapError, Request.describePort,
    perform_bind, perform_find granted.notBlank, Catalog.change, Catalog.findPort,
    Catalog.requireName, Catalog.require]
  cases Text.isBlank name with
  | true => exact fun _ => .refused
  | false =>
  rw [if_neg Bool.false_ne_true]
  dsimp only
  rw [Desk.store, Backend.store]
  rcases refines.portNamed?_cases name with ⟨absent, unknown⟩ | ⟨e, key, p, found, known, isPort⟩
  · rw [absent, unknown]
    exact fun _ => .done .nothing refines.toRepresents
  rw [found, known]
  dsimp only
  rw [perform_bind, perform_schemaType granted.notBlank, Desk.store, Backend.store]
  rcases refines.traverse_cases isPort with
    ⟨followed, none_linked⟩ | ⟨f, schemaName, followed, one_linked, typed, named⟩ |
    ⟨fault, followed, several⟩
  · rw [followed]
    show _ → Agrees s c _ (Catalog.require ((c.schemaTypesOf key).card ≤ 1) _ >>= _)
    rw [none_linked]
    exact fun _ => .done (.port isPort.typed isPort.qualifiedName?
      (Entity.port?_of_port isPort.properties)) refines.toRepresents
  · rw [followed]
    show _ → Agrees s c _ (Catalog.require ((c.schemaTypesOf key).card ≤ 1) _ >>= _)
    rw [one_linked]
    exact fun _ => .done (.portWithSchema isPort.typed isPort.qualifiedName?
      (Entity.port?_of_port isPort.properties) typed named) refines.toRepresents
  · rw [followed]
    show _ → Agrees s c _ (Catalog.require ((c.schemaTypesOf key).card ≤ 1) _ >>= _)
    rw [Catalog.require, decide_eq_false several]
    exact fun _ => .refused

end Changing

end LineagePorts
