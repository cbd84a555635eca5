import LineagePorts.Proofs.Operation.PortCourses
import LineagePorts.Request.Apply

/-!
# The call of a request

Before a request makes its call it looks its names up, and what it found is what the call is about. Each
request has one call that it may make, on the store that it looked in; only an alias that delegates from
the start makes another one after it.
-/

namespace LineagePorts

/-- The properties of an entity that has a name and nothing else. -/
def Properties.ofName (name : String) : Properties :=
  Table.ofList [(PropertyName.qualifiedName, .text name)]

theorem Properties.qualifiedName?_ofName (name : String) :
    (Properties.ofName name).qualifiedName? = some name := by
  simp [ofName, qualifiedName?, text?, Table.ofList, Table.get?_insert, PropertyValue.text?]

namespace Request

open Operation PortOperation

section Questions

theorem perform_entityNamed (typeName name : String) (around : Surroundings) (desk : Desk) :
    (entityNamed typeName name).perform around desk =
      match desk.store.findByName? name typeName with
      | some e => (.ok e, desk)
      | none => (.error (.noSuchEntity typeName name), desk) := by
  rw [entityNamed, perform_bind, perform_ask]
  dsimp only
  cases desk.store.findByName? name typeName <;> rfl

theorem still_entityNamed (typeName name : String) : Still (entityNamed typeName name) := by
  intro around d
  rw [Idle, perform_entityNamed]
  split <;> rfl

theorem still_portNamed (user name : String) : Still (portNamed user name) := by
  refine (still_find _ _).bind fun found => ?_
  cases found with
  | some e => exact still_pure _
  | none => exact still_throw _

theorem still_describePort (user name : String) : Still (describePort user name) := by
  refine (still_find _ _).bind fun found => ?_
  cases found with
  | none => exact still_pure _
  | some port => exact (still_schemaType _ _).bind fun _ => still_pure _

variable {user : String} {around : Surroundings} {d d' : Desk}

theorem entityNamed_answers {typeName name : String} {e : Entity}
    (answered : (entityNamed typeName name).perform around d = (.ok e, d')) :
    d.store.findByName? name typeName = some e := by
  rw [perform_entityNamed] at answered
  split at answered
  · rename_i found
    rw [found, Except.ok.inj (Prod.mk.inj answered).1]
  · cases answered

theorem portNamed_answers {name : String} {e : Entity}
    (answered : (portNamed user name).perform around d = (.ok e, d')) :
    d.store.portNamed? name = some e := by
  obtain ⟨found, first, rest⟩ := (still_find user name around d).bind_eq_ok answered
  rw [← find_answers first]
  cases found with
  | none => cases rest
  | some f => exact congrArg some (Except.ok.inj (Prod.mk.inj rest).1)

end Questions

/-- The call that a request makes on a store, and what it found there before. -/
inductive Makes (user : String) (s : Store) : Request → Store.Call → Prop where
  | process (name : String) :
      Makes user s (.createProcess name) (.createEntity TypeName.process (.ofName name) none)
  | schemaType (name : String) :
      Makes user s (.createSchemaType name) (.createEntity TypeName.schemaType (.ofName name) none)
  | port {kind : PortKind} {process : String} {port : Port} {delegatesTo : Option String}
      {owner : Entity} (owned : s.findByName? process TypeName.process = some owner)
      (displayed : Text.isBlank port.displayName = false)
      (named : Text.isBlank port.qualifiedName = false) :
      Makes user s (.createPort kind process port delegatesTo) (.createEntity kind.typeName
        port.properties (some ⟨owner.id, TypeName.processPort⟩))
  | update {kind : PortKind} {port : Port} {known : Entity}
      (userNotBlank : Text.isBlank user = false) (displayed : Text.isBlank port.displayName = false)
      (named : Text.isBlank port.qualifiedName = false)
      (found : s.findByName? port.qualifiedName kind.typeName = some known) :
      Makes user s (.updatePort kind port) (.updateEntity known.id kind.typeName port.properties)
  | schema {port schemaType : String} {p t : Entity} (found : s.portNamed? port = some p)
      (typed : s.findByName? schemaType TypeName.schemaType = some t)
      (absent : s.edge? p.id t.id TypeName.portSchema = none) :
      Makes user s (.addSchema port schemaType) (.createRelationship p.id t.id TypeName.portSchema)
  | delegation {port delegatesTo : String} {portType : PortType} {p t : Entity}
      (found : s.portNamed? port = some p) (known : s.portNamed? delegatesTo = some t)
      (absent : s.edge? p.id t.id TypeName.portDelegation = none) :
      Makes user s (.addDelegation port portType delegatesTo)
        (.createRelationship p.id t.id TypeName.portDelegation)
  | remove {name : String} {e : Entity} (userNotBlank : Text.isBlank user = false)
      (notBlank : Text.isBlank name = false) (found : s.portNamed? name = some e) :
      Makes user s (.removePort name) (.deleteEntity e.id)

theorem Makes.permits {user : String} {s : Store} {request : Request} {call : Store.Call}
    (makes : request.Makes user s call) : s.Permits call := by
  cases makes with
  | process name => exact .plain _ (.inl rfl)
  | schemaType name => exact .plain _ (.inr rfl)
  | port owned displayed named => exact .create (.intro _ _ _ displayed named)
  | update userNotBlank displayed named found => exact .update _ _ _ displayed named
  | schema found typed absent => exact .link (.intro _ _ (.inl rfl) absent)
  | delegation found known absent => exact .link (.intro _ _ (.inr rfl) absent)
  | remove userNotBlank notBlank found =>
    obtain ⟨stored, kind, typed⟩ := Store.mem_of_portNamed? found
    exact .delete kind stored typed

/-- Only an alias that delegates from the start may take two calls. -/
def delegates : Request → Bool
  | .createPort .alias _ _ (some _) => true
  | _ => false

section Courses

variable {user source : String} {around : Surroundings} {d : Desk}

theorem course_createNamed_within {law : Store → Store.Call → Prop} {typeName name : String}
    (lawful : law d.store (.createEntity typeName (.ofName name) none)) :
    Course user source law around d
      ((createNamed user source typeName name).perform around d) := by
  rw [createNamed, ← bind_assoc]
  exact (Course.resolve_createEntity lawful).bind_pure fun _ => ⟨_, rfl⟩

theorem course_updateNamed_makes (kind : PortKind) (port : Port) :
    Course user source (fun s => (updatePort kind port).Makes user s) around d
      ((updateNamed user source kind port).perform around d) := by
  refine .after_still (still_findOfKind _ _ _) fun found answered => ?_
  obtain ⟨userNotBlank, _⟩ := findOfKind_notBlank answered
  cases found with
  | none => exact .of_still (still_throw _)
  | some known =>
    have updated : Course user source (fun s => (updatePort kind port).Makes user s) around d
        ((update user known port kind source).perform around d) :=
      course_update_within fun displayed named =>
        .update userNotBlank displayed named (findOfKind_answers answered).symm
    refine updated.bind_pure fun update => ?_
    cases update with
    | updated => exact ⟨.updated, rfl⟩
    | unchanged => exact ⟨.unchanged, rfl⟩

/-- A request makes no other call than its own. -/
theorem course_makes (request : Request) (simple : request.delegates = false) :
    Course user source (fun s => request.Makes user s) around d
      ((apply user source request).perform around d) := by
  cases request with
  | createProcess name => exact (course_createNamed_within (.process name)).mapError _
  | createSchemaType name => exact (course_createNamed_within (.schemaType name)).mapError _
  | createPort kind process port delegatesTo =>
    refine .after_still (still_entityNamed _ _) fun owner answered => ?_
    have created : Course user source
        (fun s => (createPort kind process port delegatesTo).Makes user s) around d
        ((create user port kind owner.id source).perform around d) :=
      course_create_within fun displayed named =>
        .port (entityNamed_answers answered) displayed named
    cases kind with
    | implementation => exact (created.mapError _).bind_pure fun _ => ⟨_, rfl⟩
    | «alias» =>
      cases delegatesTo with
      | none => exact (created.mapError _).bind_pure fun _ => ⟨_, rfl⟩
      | some target => cases simple
  | updatePort kind port => exact (course_updateNamed_makes kind port).mapError _
  | addSchema port schemaType =>
    refine .after_still ((still_portNamed _ _).mapError _) fun p first =>
      .after_still (still_entityNamed _ _) fun t second => ?_
    have linked : Course user source (fun s => (addSchema port schemaType).Makes user s) around d
        ((PortOperation.addSchema user p.id t.id source).perform around d) :=
      course_addSchema_within fun absent =>
        .schema (portNamed_answers (perform_mapError_eq_ok_iff.mp first))
          (entityNamed_answers second) absent
    exact (linked.mapError _).bind_pure fun _ => ⟨_, rfl⟩
  | addDelegation port portType delegatesTo =>
    refine .mapError (.after_still (still_portNamed _ _) fun p answered => ?_) _
    have linked : Course user source
        (fun s => (addDelegation port portType delegatesTo).Makes user s) around d
        ((PortOperation.addDelegation user p.id portType delegatesTo source).perform around d) :=
      course_addDelegation_within fun _ known absent =>
        .delegation (portNamed_answers answered) known absent
    exact linked.bind_pure fun _ => ⟨_, rfl⟩
  | removePort name =>
    have removed : Course user source (fun s => (removePort name).Makes user s) around d
        ((remove user name source).perform around d) :=
      course_remove_within fun userNotBlank notBlank _ found => .remove userNotBlank notBlank found
    exact (removed.bind_pure fun _ => ⟨Outcome.removed, rfl⟩).mapError _
  | findPort name => exact .of_still ((still_describePort _ _).mapError _)

end Courses

end Request

end LineagePorts
