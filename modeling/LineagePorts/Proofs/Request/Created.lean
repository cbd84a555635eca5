import LineagePorts.Proofs.Request.Calls

/-!
# The call that creates

A request answers that it created an entity only if its first call did. That is the call that such a
request makes, whatever was found before it, and no other call follows but one that links the new
entity.
-/

namespace LineagePorts.Request

open Operation PortOperation

/-- A call that links the entity. -/
def LinksFrom (id : EntityId) (call : Store.Call) : Prop :=
  ∃ finish typeName, call = .createRelationship id finish typeName

section Answers

variable {user source : String} {around : Surroundings} {d d' : Desk} {id : EntityId}

theorem createNamed_answers {typeName name : String} {outcome : Outcome}
    (answered : (createNamed user source typeName name).perform around d = (.ok outcome, d')) :
    ∃ id sourceId, outcome = .created id ∧ d.issue around ⟨user, sourceId, source⟩
      (.createEntity typeName (.ofName name) none) = (.ok (.entity id), d') := by
  rw [createNamed, ← bind_assoc] at answered
  obtain ⟨id, m, made, rest⟩ := perform_bind_eq_ok answered
  obtain ⟨same, rfl⟩ := Prod.mk.inj rest
  cases resolved : around.registry.resolve user source with
  | error cause =>
    rw [perform_resolve_error resolved] at made
    cases made
  | ok sourceId =>
    refine ⟨id, sourceId, (Except.ok.inj same).symm, ?_⟩
    rw [← perform_resolve_createEntity resolved typeName (.ofName name), Properties.ofName, made]
    rfl

/-- The first call of the request created the entity, and what may follow links it. -/
def CreatesFirst (user source : String) (around : Surroundings) (d d' : Desk) (request : Request)
    (id : EntityId) : Prop :=
  ∃ typeName properties owner sourceId m,
    request.Makes user d.store (.createEntity typeName properties owner) ∧
    d.issue around ⟨user, sourceId, source⟩ (.createEntity typeName properties owner) =
      (.ok (.entity id), m) ∧
    Course user source (fun _ => LinksFrom id) around m ((.ok () : Except Failure Unit), d')

theorem createsFirst_of_create {kind : PortKind} {process : String} {port : Port}
    {delegatesTo : Option String} {owner : Entity}
    (owned : d.store.findByName? process TypeName.process = some owner)
    (created : (create user port kind owner.id source).perform around d = (.ok id, d')) :
    CreatesFirst user source around d d' (.createPort kind process port delegatesTo) id := by
  obtain ⟨displayed, named⟩ := create_notBlank created
  obtain ⟨_, sourceId, _, issued⟩ := create_answers created
  exact ⟨_, _, _, sourceId, d', .port owned displayed named, issued, .still _⟩

theorem createsFirst_of_createForward {process : String} {port : Port}
    {delegatesTo : Option String} {owner : Entity}
    (owned : d.store.findByName? process TypeName.process = some owner)
    (created : (createForward user source owner.id ⟨port, delegatesTo⟩).perform around d =
      (.ok id, d')) :
    CreatesFirst user source around d d' (.createPort .alias process port delegatesTo) id := by
  cases delegatesTo with
  | none => exact createsFirst_of_create owned created
  | some target =>
    obtain ⟨_, _, rest⟩ := (still_target _ _ _ _ _).bind_eq_ok created
    obtain ⟨id', m, made, rest⟩ := perform_bind_eq_ok rest
    obtain ⟨_, m', linked, rest⟩ := perform_bind_eq_ok rest
    obtain ⟨same, rfl⟩ := Prod.mk.inj rest
    obtain rfl := Except.ok.inj same
    obtain ⟨displayed, named⟩ := create_notBlank made
    obtain ⟨_, sourceId, _, issued⟩ := create_answers made
    have course : Course user source (fun _ => LinksFrom id') around m
        ((PortOperation.addDelegation user id' port.portType target source).perform around m) :=
      course_addDelegation_within fun t _ _ => ⟨t.id, _, rfl⟩
    rw [linked] at course
    exact ⟨_, _, _, sourceId, m, .port owned displayed named, issued, course⟩

/-- No other request answers that it created an entity. -/
theorem created_answers {request : Request}
    (answered : (apply user source request).perform around d = (.ok (.created id), d')) :
    CreatesFirst user source around d d' request id := by
  cases request with
  | createProcess name =>
    obtain ⟨id', sourceId, same, issued⟩ :=
      createNamed_answers (perform_mapError_eq_ok_iff.mp answered)
    obtain rfl := Outcome.created.inj same
    exact ⟨_, _, _, sourceId, d', .process name, issued, .still _⟩
  | createSchemaType name =>
    obtain ⟨id', sourceId, same, issued⟩ :=
      createNamed_answers (perform_mapError_eq_ok_iff.mp answered)
    obtain rfl := Outcome.created.inj same
    exact ⟨_, _, _, sourceId, d', .schemaType name, issued, .still _⟩
  | createPort kind process port delegatesTo =>
    obtain ⟨owner, found, rest⟩ := (still_entityNamed _ _ _ _).bind_eq_ok answered
    have owned := entityNamed_answers found
    cases kind with
    | implementation =>
      obtain ⟨id', m, made, rest⟩ := perform_bind_eq_ok rest
      obtain ⟨same, rfl⟩ := Prod.mk.inj rest
      obtain rfl := Outcome.created.inj (Except.ok.inj same)
      exact createsFirst_of_create owned (perform_mapError_eq_ok_iff.mp made)
    | «alias» =>
      obtain ⟨id', m, made, rest⟩ := perform_bind_eq_ok rest
      obtain ⟨same, rfl⟩ := Prod.mk.inj rest
      obtain rfl := Outcome.created.inj (Except.ok.inj same)
      exact createsFirst_of_createForward owned (perform_mapError_eq_ok_iff.mp made)
  | updatePort kind port =>
    obtain ⟨found, _, rest⟩ :=
      (still_findOfKind _ _ _ _ _).bind_eq_ok (perform_mapError_eq_ok_iff.mp answered)
    cases found with
    | none => cases rest
    | some known =>
      obtain ⟨update, m, _, rest⟩ := perform_bind_eq_ok rest
      cases update <;> cases (Prod.mk.inj rest).1
  | addSchema port schemaType =>
    obtain ⟨p, _, rest⟩ := ((still_portNamed _ _).mapError _ _ _).bind_eq_ok answered
    obtain ⟨t, _, rest⟩ := (still_entityNamed _ _ _ _).bind_eq_ok rest
    obtain ⟨_, m, _, rest⟩ := perform_bind_eq_ok rest
    cases (Prod.mk.inj rest).1
  | addDelegation port portType delegatesTo =>
    obtain ⟨p, _, rest⟩ :=
      (still_portNamed _ _ _ _).bind_eq_ok (perform_mapError_eq_ok_iff.mp answered)
    obtain ⟨_, m, _, rest⟩ := perform_bind_eq_ok rest
    cases (Prod.mk.inj rest).1
  | removePort name =>
    obtain ⟨_, m, _, rest⟩ := perform_bind_eq_ok (perform_mapError_eq_ok_iff.mp answered)
    cases (Prod.mk.inj rest).1
  | findPort name =>
    obtain ⟨found, _, rest⟩ :=
      (still_find _ _ _ _).bind_eq_ok (perform_mapError_eq_ok_iff.mp answered)
    cases found with
    | none => cases (Prod.mk.inj rest).1
    | some port =>
      obtain ⟨schema, m, _, rest⟩ := perform_bind_eq_ok rest
      cases (Prod.mk.inj rest).1

end Answers

end LineagePorts.Request
