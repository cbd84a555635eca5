import LineagePorts.Proofs.Operation.Course
import LineagePorts.Proofs.Operation.Ports
import LineagePorts.Proofs.Store.Linking

/-!
# The courses of operations on ports

Which calls the operations on ports make, told by laws: a port is created with names and an owner,
it is brought in line with another port, it is linked where it was not linked, and only ports are
removed. Questions about ports are still, and every other operation takes a course within its law.
-/

namespace LineagePorts

namespace Store

/-- A port is created with names that are not blank and with a process as its owner. -/
inductive CreatesPort (s : Store) : Call → Prop where
  | intro (kind : PortKind) (port : Port) (process : EntityId)
      (displayed : Text.isBlank port.displayName = false)
      (named : Text.isBlank port.qualifiedName = false) :
      CreatesPort s (.createEntity kind.typeName port.properties
        (some ⟨process, TypeName.processPort⟩))

/-- A port is linked to a schema type or a port that it is not linked to yet. -/
inductive LinksPort (s : Store) : Call → Prop where
  | intro (start finish : EntityId) {typeName : String}
      (typed : typeName = TypeName.portSchema ∨ typeName = TypeName.portDelegation)
      (absent : s.edge? start finish typeName = none) :
      LinksPort s (.createRelationship start finish typeName)

/-- The calls that operations on ports and requests make. -/
inductive Permits (s : Store) : Call → Prop where
  | plain {typeName : String} (properties : Properties)
      (typed : typeName = TypeName.process ∨ typeName = TypeName.schemaType) :
      Permits s (.createEntity typeName properties none)
  | create {call : Call} (creates : s.CreatesPort call) : Permits s call
  | update (id : EntityId) (kind : PortKind) (port : Port)
      (displayed : Text.isBlank port.displayName = false)
      (named : Text.isBlank port.qualifiedName = false) :
      Permits s (.updateEntity id kind.typeName port.properties)
  | delete {e : Entity} (kind : PortKind) (stored : e ∈ s.entities.values)
      (typed : e.typeName = kind.typeName) : Permits s (.deleteEntity e.id)
  | link {call : Call} (links : s.LinksPort call) : Permits s call

theorem mem_of_findByName? {s : Store} {name typeName : String} {e : Entity}
    (found : s.findByName? name typeName = some e) :
    e ∈ s.entities.values ∧ e.typeName = typeName := by
  have fits := List.find?_some found
  rw [Bool.and_eq_true, decide_eq_true_eq] at fits
  exact ⟨List.mem_of_find?_eq_some found, fits.1⟩

theorem mem_of_portNamed? {s : Store} {name : String} {e : Entity}
    (found : s.portNamed? name = some e) :
    e ∈ s.entities.values ∧ ∃ kind : PortKind, e.typeName = kind.typeName := by
  rw [portNamed?, Option.or_eq_some_iff] at found
  rcases found with asAlias | ⟨_, asImplementation⟩
  · obtain ⟨mem, typed⟩ := mem_of_findByName? asAlias
    exact ⟨mem, .alias, typed⟩
  · obtain ⟨mem, typed⟩ := mem_of_findByName? asImplementation
    exact ⟨mem, .implementation, typed⟩

theorem relationshipBetween_ok {s : Store} {start finish : EntityId} {startType typeName : String}
    {found : Option Relationship}
    (answered : s.relationshipBetween start finish startType typeName = .ok found) :
    found = s.edge? start finish typeName := by
  rw [relationshipBetween] at answered
  split at answered
  · obtain ⟨_, _, answered⟩ := Except.bind_eq_ok_iff.mp answered
    exact (Except.ok.inj answered).symm
  · exact (Except.ok.inj answered).symm

end Store

namespace PortOperation

open Operation Parameter

theorem not_blank_of_checkName {value parameter action : String}
    (checked : checkName value parameter action = .ok ()) : Text.isBlank value = false := by
  rw [checkName] at checked
  split at checked
  · cases checked
  · rename_i notBlank
    exact Bool.eq_false_iff.mpr notBlank

theorem not_blank_of_checkPort {user : String} {port : Port} {action : String}
    (checked : checkPort user port action = .ok ()) :
    Text.isBlank port.displayName = false ∧ Text.isBlank port.qualifiedName = false := by
  obtain ⟨_, _, checked⟩ := Except.bind_eq_ok_iff.mp checked
  obtain ⟨_, displayed, named⟩ := Except.bind_eq_ok_iff.mp checked
  exact ⟨not_blank_of_checkName displayed, not_blank_of_checkName named⟩

section Questions

theorem still_linkBetween (port other : EntityId) (typeName : String) :
    Still (linkBetween port other typeName) :=
  (still_ask _).bind fun _ => still_ofExcept _

theorem still_schemaType (user : String) (port : EntityId) : Still (schemaType user port) :=
  (still_ofExcept _).bind fun _ => (still_ofExcept _).bind fun _ =>
    (still_ask _).bind fun _ => still_ofExcept _

theorem still_findTyped (user name typeName : String) : Still (findTyped user name typeName) :=
  (still_ofExcept _).bind fun _ => (still_ofExcept _).bind fun _ => still_ask _

theorem still_find (user name : String) : Still (find user name) := by
  refine (still_findTyped _ _ _).bind fun found => ?_
  cases found with
  | some e => exact still_pure _
  | none => exact still_findTyped _ _ _

theorem still_findOfKind (user name : String) (kind : PortKind) :
    Still (findOfKind user name kind) := by
  cases kind <;> exact still_findTyped _ _ _

theorem still_findDeclared (user : String) (portType : PortType) (name : String) :
    Still (findDeclared user portType name) := by
  refine (still_find _ _).bind fun found => ?_
  cases found with
  | none => exact still_throw _
  | some port =>
    dsimp only
    split
    · exact still_pure _
    · exact still_throw _

theorem still_target (user : String) (portType : PortType) (delegatesTo : String) :
    Still (target user portType delegatesTo) :=
  (still_ofExcept _).bind fun _ => still_findDeclared _ _ _

end Questions

section Answers

variable {user : String} {around : Surroundings} {d d' : Desk}

/-- A blank user is told so, whatever is asked. -/
theorem perform_findTyped_of_blank (blank : Text.isBlank user = true) (name typeName : String) :
    (findTyped user name typeName).perform around d =
      (.error (.invalidParameter userId "find_entity"), d) := by
  rw [findTyped, perform_bind, perform_ofExcept, checkUser, checkName_of_blank blank]

theorem findTyped_answers {name typeName : String} {found : Option Entity}
    (answered : (findTyped user name typeName).perform around d = (.ok found, d')) :
    found = d.store.findByName? name typeName := by
  cases blank : Text.isBlank user with
  | true =>
    rw [perform_findTyped_of_blank blank] at answered
    cases answered
  | false =>
    rw [perform_findTyped blank] at answered
    split at answered
    · cases answered
    · exact (Except.ok.inj (Prod.mk.inj answered).1).symm

/-- Only a user who is not blank is answered, and only about a name that is not blank. -/
theorem findTyped_notBlank {name typeName : String} {found : Option Entity}
    (answered : (findTyped user name typeName).perform around d = (.ok found, d')) :
    Text.isBlank user = false ∧ Text.isBlank name = false := by
  cases blank : Text.isBlank user with
  | true =>
    rw [perform_findTyped_of_blank blank] at answered
    cases answered
  | false =>
    rw [perform_findTyped blank] at answered
    split at answered
    · cases answered
    · rename_i notBlank
      exact ⟨rfl, Bool.eq_false_iff.mpr notBlank⟩

theorem findOfKind_answers {name : String} {kind : PortKind} {found : Option Entity}
    (answered : (findOfKind user name kind).perform around d = (.ok found, d')) :
    found = d.store.findByName? name kind.typeName := by
  cases kind <;> exact findTyped_answers answered

theorem findOfKind_notBlank {name : String} {kind : PortKind} {found : Option Entity}
    (answered : (findOfKind user name kind).perform around d = (.ok found, d')) :
    Text.isBlank user = false ∧ Text.isBlank name = false := by
  cases kind <;> exact findTyped_notBlank answered

theorem find_answers {name : String} {found : Option Entity}
    (answered : (find user name).perform around d = (.ok found, d')) :
    found = d.store.portNamed? name := by
  have still : Still (findAlias user name) := still_findTyped _ _ _
  obtain ⟨asAlias, first, rest⟩ := (still around d).bind_eq_ok answered
  rw [Store.portNamed?, ← findTyped_answers first]
  cases asAlias with
  | some e => exact (Except.ok.inj (Prod.mk.inj rest).1).symm
  | none => exact findTyped_answers rest

theorem find_notBlank {name : String} {found : Option Entity}
    (answered : (find user name).perform around d = (.ok found, d')) :
    Text.isBlank user = false ∧ Text.isBlank name = false := by
  have still : Still (findAlias user name) := still_findTyped _ _ _
  obtain ⟨_, first, _⟩ := (still around d).bind_eq_ok answered
  exact findTyped_notBlank first

theorem findDeclared_answers {portType : PortType} {name : String} {port : Entity}
    (answered : (findDeclared user portType name).perform around d = (.ok port, d')) :
    d.store.portNamed? name = some port ∧ port.hasPortType portType = true := by
  obtain ⟨found, first, rest⟩ := (still_find user name around d).bind_eq_ok answered
  rw [← find_answers first]
  cases found with
  | none => cases rest
  | some e =>
    dsimp only at rest
    split at rest
    · rename_i declared
      obtain rfl := Except.ok.inj (Prod.mk.inj rest).1
      exact ⟨rfl, declared⟩
    · cases rest

theorem perform_linkBetween (port other : EntityId) (typeName : String) :
    (linkBetween port other typeName).perform around d =
      (d.store.relationshipBetween port other TypeName.port typeName, d) := by
  rw [linkBetween, perform_bind, perform_ask]
  exact perform_ofExcept _ _ _

theorem linkBetween_answers {port other : EntityId} {typeName : String}
    {found : Option Relationship}
    (answered : (linkBetween port other typeName).perform around d = (.ok found, d')) :
    found = d.store.edge? port other typeName := by
  rw [perform_linkBetween] at answered
  exact Store.relationshipBetween_ok (Prod.mk.inj answered).1

theorem target_answers {portType : PortType} {name : String} {port : Entity}
    (answered : (target user portType name).perform around d = (.ok port, d')) :
    Text.isBlank name = false ∧ d.store.portNamed? name = some port ∧
      port.hasPortType portType = true := by
  obtain ⟨_, checked, rest⟩ := (still_ofExcept _ around d).bind_eq_ok answered
  rw [perform_ofExcept] at checked
  obtain ⟨_, _, named⟩ := Except.bind_eq_ok_iff.mp (Prod.mk.inj checked).1
  exact ⟨not_blank_of_checkName named, findDeclared_answers rest⟩

theorem create_notBlank {source : String} {port : Port} {kind : PortKind} {process id : EntityId}
    (answered : (create user port kind process source).perform around d = (.ok id, d')) :
    Text.isBlank port.displayName = false ∧ Text.isBlank port.qualifiedName = false := by
  obtain ⟨_, checked, _⟩ := (still_ofExcept _ around d).bind_eq_ok answered
  rw [perform_ofExcept] at checked
  exact not_blank_of_checkPort (Prod.mk.inj checked).1

/-- A port that was created was created by one call that the registry granted. -/
theorem create_answers {source : String} {port : Port} {kind : PortKind} {process id : EntityId}
    (answered : (create user port kind process source).perform around d = (.ok id, d')) :
    Text.isBlank user = false ∧ ∃ sourceId, around.registry.resolve user source = .ok sourceId ∧
      d.issue around ⟨user, sourceId, source⟩ (.createEntity kind.typeName port.properties
        (some ⟨process, TypeName.processPort⟩)) = (.ok (.entity id), d') := by
  obtain ⟨_, checked, rest⟩ := (still_ofExcept _ around d).bind_eq_ok answered
  rw [perform_ofExcept] at checked
  obtain ⟨_, userChecked, _⟩ := Except.bind_eq_ok_iff.mp (Prod.mk.inj checked).1
  refine ⟨not_blank_of_checkName userChecked, ?_⟩
  cases resolved : around.registry.resolve user source with
  | error cause =>
    rw [perform_resolve_error resolved] at rest
    cases rest
  | ok sourceId =>
    refine ⟨sourceId, rfl, ?_⟩
    rw [← perform_resolve_createEntity resolved kind.typeName port.properties]
    rw [rest]
    rfl

end Answers

section Steps

variable {user source : String} {around : Surroundings} {d : Desk}

/-- The schema type of a port is looked for by following its links. -/
theorem perform_schemaType (notBlank : Text.isBlank user = false) (port : EntityId) :
    (schemaType user port).perform around d =
      (d.store.traverse port TypeName.port .portSchema, d) := by
  rw [schemaType, perform_bind, perform_ofExcept, checkUser_of_not_blank notBlank]
  dsimp only
  rw [perform_bind, perform_ofExcept, Store.relationshipType, RelationshipType.find?_portSchema]
  dsimp only
  rw [perform_bind, perform_ask]
  exact perform_ofExcept _ _ _

/-- An update of what a copy shows to be stored already is only checked. -/
theorem update_of_same {known : Entity} {port : Port} (same : known.properties = port.properties)
    (kind : PortKind) :
    update user known port kind source =
      (ofExcept (checkPort user port "update_port") >>= fun _ => pure .unchanged) := by
  have settled : known.differsFrom port.properties = false := by simp [Entity.differsFrom, same]
  rw [update, settled]
  rfl

/-- Any other update makes a call. -/
theorem update_of_ne {known : Entity} {port : Port} (differs : known.properties ≠ port.properties)
    (kind : PortKind) :
    update user known port kind source =
      (ofExcept (checkPort user port "update_port") >>= fun _ => do
        let externalSource ← resolve user source
        updateEntity ⟨user, externalSource⟩ known.id kind.typeName port.properties
        return .updated) := by
  have differs : known.differsFrom port.properties = true := by simp [Entity.differsFrom, differs]
  rw [update, differs]
  rfl

/-- A look for a link from a port finds out whether it is there. -/
theorem perform_link_of_hasType {port other : EntityId} {typeName : String}
    (typed : d.store.HasType port TypeName.port) :
    (link user port other typeName source).perform around d =
      (linkUnless (d.store.edge? port other typeName) user port other typeName source).perform
        around d := by
  rw [link, perform_bind, perform_linkBetween, Store.relationshipBetween_of_hasType typed]

/-- A link that was not found is made by one call. -/
theorem perform_linkUnless_none {id : SourceId}
    (granted : around.registry.resolve user source = .ok id) (port other : EntityId)
    (typeName : String) :
    let issued := d.issue around ⟨user, id, source⟩ (.createRelationship port other typeName)
    (linkUnless none user port other typeName source).perform around d =
      (issued.1.map fun _ => (), issued.2) := by
  have linked := perform_resolve_createRelationship granted port other typeName d
  dsimp only at linked ⊢
  rw [← linked, linkUnless, ← bind_assoc, perform_bind]
  generalize (resolve user source >>= fun x =>
    createRelationship ⟨user, x⟩ port other typeName).perform around d = result
  obtain ⟨answer, after⟩ := result
  cases answer <;> rfl

/-- A link that was not found was made by one call that the registry granted. -/
theorem linkUnless_none_answers {port other : EntityId} {typeName : String} {d' : Desk}
    (performed : (linkUnless none user port other typeName source).perform around d = (.ok (), d')) :
    ∃ id told, around.registry.resolve user source = .ok id ∧
      d.issue around ⟨user, id, source⟩ (.createRelationship port other typeName) =
        (.ok told, d') := by
  cases resolved : around.registry.resolve user source with
  | error cause =>
    rw [linkUnless, perform_resolve_error resolved] at performed
    cases performed
  | ok id =>
    rw [perform_linkUnless_none resolved] at performed
    generalize issued : d.issue around ⟨user, id, source⟩
      (.createRelationship port other typeName) = result at performed
    obtain ⟨answer, after⟩ := result
    obtain ⟨answered, rfl⟩ := Prod.mk.inj performed
    cases answer with
    | error e => cases answered
    | ok told => exact ⟨id, told, rfl, issued⟩

end Steps

section Courses

variable {user source : String} {around : Surroundings} {d : Desk}

/-- A creation keeps to any law that allows its call. -/
theorem course_create_within {law : Store → Store.Call → Prop} {port : Port} {kind : PortKind}
    {process : EntityId}
    (lawful : Text.isBlank port.displayName = false → Text.isBlank port.qualifiedName = false →
      law d.store (.createEntity kind.typeName port.properties
        (some ⟨process, TypeName.processPort⟩))) :
    Course user source law around d
      ((create user port kind process source).perform around d) := by
  refine .after_still (still_ofExcept _) fun _ checked => ?_
  rw [perform_ofExcept] at checked
  obtain ⟨displayed, named⟩ := not_blank_of_checkPort (Prod.mk.inj checked).1
  exact .resolve_createEntity (lawful displayed named)

theorem course_create (port : Port) (kind : PortKind) (process : EntityId) :
    Course user source Store.CreatesPort around d
      ((create user port kind process source).perform around d) :=
  course_create_within fun displayed named => .intro kind port process displayed named

/-- So does an update. -/
theorem course_update_within {law : Store → Store.Call → Prop} {known : Entity} {port : Port}
    {kind : PortKind}
    (lawful : Text.isBlank port.displayName = false → Text.isBlank port.qualifiedName = false →
      law d.store (.updateEntity known.id kind.typeName port.properties)) :
    Course user source law around d ((update user known port kind source).perform around d) := by
  refine .after_still (still_ofExcept _) fun _ checked => ?_
  rw [perform_ofExcept] at checked
  obtain ⟨displayed, named⟩ := not_blank_of_checkPort (Prod.mk.inj checked).1
  split
  · rw [← bind_assoc]
    exact (Course.resolve_updateEntity (lawful displayed named)).bind_pure fun _ => ⟨_, rfl⟩
  · exact .of_still (still_pure _)

theorem course_update (known : Entity) (port : Port) (kind : PortKind) :
    Course user source Store.Permits around d
      ((update user known port kind source).perform around d) :=
  course_update_within fun displayed named => .update known.id kind port displayed named

/-- So does a link, which is only made where there was none. -/
theorem course_link_within {law : Store → Store.Call → Prop} {port other : EntityId}
    {typeName : String}
    (lawful : d.store.edge? port other typeName = none →
      law d.store (.createRelationship port other typeName)) :
    Course user source law around d ((link user port other typeName source).perform around d) := by
  refine .after_still (still_linkBetween _ _ _) fun found answered => ?_
  cases found with
  | some r => exact .of_still (still_pure _)
  | none =>
    rw [linkUnless, ← bind_assoc]
    have allowed := lawful (linkBetween_answers answered).symm
    exact (Course.resolve_createRelationship allowed).bind_pure fun _ => ⟨_, rfl⟩

theorem course_addSchema_within {law : Store → Store.Call → Prop} {port schemaType : EntityId}
    (lawful : d.store.edge? port schemaType TypeName.portSchema = none →
      law d.store (.createRelationship port schemaType TypeName.portSchema)) :
    Course user source law around d
      ((addSchema user port schemaType source).perform around d) :=
  .after_still (still_ofExcept _) fun _ _ => course_link_within lawful

theorem course_addDelegation_within {law : Store → Store.Call → Prop} {port : EntityId}
    {portType : PortType} {delegatesTo : String}
    (lawful : ∀ t, d.store.portNamed? delegatesTo = some t →
      d.store.edge? port t.id TypeName.portDelegation = none →
      law d.store (.createRelationship port t.id TypeName.portDelegation)) :
    Course user source law around d
      ((addDelegation user port portType delegatesTo source).perform around d) :=
  .after_still (still_ofExcept _) fun _ _ =>
    .after_still (still_findDeclared _ _ _) fun t answered =>
      course_link_within (lawful t (findDeclared_answers answered).1)

theorem course_addSchema (port schemaType : EntityId) :
    Course user source Store.LinksPort around d
      ((addSchema user port schemaType source).perform around d) :=
  course_addSchema_within fun absent => .intro _ _ (.inl rfl) absent

theorem course_addDelegation (port : EntityId) (portType : PortType) (delegatesTo : String) :
    Course user source Store.LinksPort around d
      ((addDelegation user port portType delegatesTo source).perform around d) :=
  course_addDelegation_within fun _ _ absent => .intro _ _ (.inr rfl) absent

theorem course_remove_within {law : Store → Store.Call → Prop} {name : String}
    (lawful : Text.isBlank user = false → Text.isBlank name = false →
      ∀ e, d.store.portNamed? name = some e → law d.store (.deleteEntity e.id)) :
    Course user source law around d ((remove user name source).perform around d) := by
  refine .after_still (still_ofExcept _) fun _ userChecked =>
    .after_still (still_ofExcept _) fun _ checked =>
      .after_still (still_find _ _) fun found answered => ?_
  rw [perform_ofExcept] at userChecked checked
  cases found with
  | none => exact .of_still (still_pure _)
  | some e =>
    exact .resolve_deleteEntity (lawful (not_blank_of_checkName (Prod.mk.inj userChecked).1)
      (not_blank_of_checkName (Prod.mk.inj checked).1) e (find_answers answered).symm)

theorem course_remove (name : String) :
    Course user source Store.Permits around d ((remove user name source).perform around d) := by
  refine course_remove_within fun _ _ e found => ?_
  obtain ⟨stored, kind, typed⟩ := Store.mem_of_portNamed? found
  exact .delete kind stored typed

end Courses

end PortOperation

end LineagePorts
