import LineagePorts.Proofs.Request.Calls

/-!
# Checked calls

Which calls an operation can make at all, whatever the store answers. An operation on ports makes a
call only after it checked the user and the name that the call would store. A request makes no other
calls than the operation behind it, but for the creation of a process or a schema type, which is no
operation on ports: it takes its user and its name as they come.
-/

namespace LineagePorts

/-- A call of the user that stores no blank name and no blank user. -/
inductive Store.Checked (user : String) : Caller → Store.Call → Prop where
  | create {source : ExternalSource} {kind : PortKind} {port : Port} {owner : Option Ownership}
      (signed : Text.isBlank user = false) (named : Text.isBlank port.qualifiedName = false) :
      Checked user ⟨user, source⟩ (.createEntity kind.typeName port.properties owner)
  | update {source : ExternalSource} {id : EntityId} {kind : PortKind} {port : Port}
      (signed : Text.isBlank user = false) (named : Text.isBlank port.qualifiedName = false) :
      Checked user ⟨user, source⟩ (.updateEntity id kind.typeName port.properties)
  | delete {source : ExternalSource} {id : EntityId} :
      Checked user ⟨user, source⟩ (.deleteEntity id)
  | link {source : ExternalSource} {start finish : EntityId} {typeName : String}
      (signed : Text.isBlank user = false) :
      Checked user ⟨user, source⟩ (.createRelationship start finish typeName)

namespace Operation

variable {ε ε' α β : Type} {allowed : Caller → Store.Call → Prop}

/-- Wherever it is performed, the operation makes no call but allowed ones. -/
def Only (allowed : Caller → Store.Call → Prop) (op : Operation ε α) : Prop :=
  ∀ around d, ∃ added, (op.perform around d).2.trace = d.trace ++ added ∧
    ∀ who call, Event.called who call ∈ added → allowed who call

theorem Still.only {op : Operation ε α} (still : Still op) : op.Only allowed := by
  intro around d
  refine ⟨[], ?_, fun who call mem => nomatch mem⟩
  rw [show (op.perform around d).2 = d from still around d, List.append_nil]

/-- It is enough that each step makes allowed calls after the answers that the first one can give. -/
theorem Only.bind_of_answers {op : Operation ε α} {f : α → Operation ε β} (first : op.Only allowed)
    (second : ∀ a, (∃ around d d', op.perform around d = (.ok a, d')) → (f a).Only allowed) :
    (op >>= f).Only allowed := by
  intro around d
  obtain ⟨added, traced, within⟩ := first around d
  rw [perform_bind]
  generalize performed : op.perform around d = result at traced
  obtain ⟨answer, middle⟩ := result
  cases answer with
  | error e => exact ⟨added, traced, within⟩
  | ok a =>
    obtain ⟨more, traced', within'⟩ := second a ⟨around, d, middle, performed⟩ around middle
    refine ⟨added ++ more, ?_, fun who call mem => ?_⟩
    · rw [traced', traced, List.append_assoc]
    · rcases List.mem_append.mp mem with mem | mem
      · exact within who call mem
      · exact within' who call mem

theorem Only.bind {op : Operation ε α} {f : α → Operation ε β} (first : op.Only allowed)
    (second : ∀ a, (f a).Only allowed) : (op >>= f).Only allowed :=
  first.bind_of_answers fun a _ => second a

theorem Only.mapError {op : Operation ε α} (only : op.Only allowed) (f : ε → ε') :
    (op.mapError f).Only allowed :=
  only

theorem Only.mono {op : Operation ε α} {allowed' : Caller → Store.Call → Prop}
    (only : op.Only allowed) (weaker : ∀ who call, allowed who call → allowed' who call) :
    op.Only allowed' := by
  intro around d
  obtain ⟨added, traced, within⟩ := only around d
  exact ⟨added, traced, fun who call mem => weaker who call (within who call mem)⟩

/-- What is checked first holds of what comes after. -/
theorem only_check {x : Except ε α} {f : α → Operation ε β}
    (rest : ∀ a, x = .ok a → (f a).Only allowed) : (ofExcept x >>= f).Only allowed := by
  refine (still_ofExcept x).only.bind_of_answers fun a ⟨around, d, d', answered⟩ => rest a ?_
  rw [perform_ofExcept] at answered
  exact (Prod.mk.inj answered).1

theorem only_change {who : Caller} {call : Store.Call}
    {act : Stamp → Store → Except Failure (α × Store)} (isAllowed : allowed who call) :
    (change who call act).Only allowed := by
  intro around d
  refine ⟨[.called who call], ?_, fun who' call' mem => ?_⟩
  · rw [perform_change]
    rfl
  · obtain ⟨rfl, rfl⟩ : who' = who ∧ call' = call := by simpa using mem
    exact isAllowed

/-- Asking the registry is no call. -/
theorem only_resolve {user source : String} {f : ExternalSource → Operation Failure β}
    (rest : ∀ x, (f x).Only allowed) : (resolve user source >>= f).Only allowed := by
  refine Only.bind (fun around d => ?_) rest
  refine ⟨[.resolved user source (around.registry.resolve user source).toBool], ?_, ?_⟩
  · rw [perform_resolve]
    rfl
  · intro who call mem
    simp at mem

end Operation

namespace PortOperation

open Operation Parameter Store

variable {user source : String}

theorem not_blank_of_checkUser {action : String} (checked : checkUser user action = .ok ()) :
    Text.isBlank user = false :=
  not_blank_of_checkName checked

theorem signed_of_checkPort {port : Port} {action : String}
    (checked : checkPort user port action = .ok ()) :
    Text.isBlank user = false ∧ Text.isBlank port.qualifiedName = false := by
  obtain ⟨_, userChecked, _⟩ := Except.bind_eq_ok_iff.mp checked
  exact ⟨not_blank_of_checkUser userChecked, (not_blank_of_checkPort checked).2⟩

theorem only_create (port : Port) (kind : PortKind) (process : EntityId) :
    (create user port kind process source).Only (Checked user) := by
  refine only_check fun _ checked => only_resolve fun x => only_change ?_
  obtain ⟨signed, named⟩ := signed_of_checkPort checked
  exact .create signed named

theorem only_update (known : Entity) (port : Port) (kind : PortKind) :
    (update user known port kind source).Only (Checked user) := by
  refine only_check fun _ checked => ?_
  obtain ⟨signed, named⟩ := signed_of_checkPort checked
  split
  · exact only_resolve fun x => (only_change (.update signed named)).bind fun _ => (still_pure _).only
  · exact (still_pure _).only

theorem only_link (signed : Text.isBlank user = false) (port other : EntityId) (typeName : String) :
    (link user port other typeName source).Only (Checked user) := by
  refine (still_linkBetween _ _ _).only.bind fun found => ?_
  cases found with
  | some r => exact (still_pure _).only
  | none => exact only_resolve fun x => (only_change (.link signed)).bind fun _ => (still_pure _).only

theorem only_addSchema (port schemaType : EntityId) :
    (addSchema user port schemaType source).Only (Checked user) :=
  only_check fun _ checked => only_link (not_blank_of_checkUser checked) _ _ _

theorem only_addDelegation (port : EntityId) (portType : PortType) (delegatesTo : String) :
    (addDelegation user port portType delegatesTo source).Only (Checked user) := by
  refine only_check fun _ checked => (still_findDeclared _ _ _).only.bind fun target => ?_
  obtain ⟨_, userChecked, _⟩ := Except.bind_eq_ok_iff.mp checked
  exact only_link (not_blank_of_checkUser userChecked) _ _ _

theorem only_remove (name : String) : (remove user name source).Only (Checked user) := by
  refine only_check fun _ _ => only_check fun _ _ => (still_find _ _).only.bind fun found => ?_
  cases found with
  | none => exact (still_pure _).only
  | some port => exact only_resolve fun x => only_change .delete

end PortOperation

namespace Request

open Operation PortOperation

/-- The type and the name of the plain entity that a request creates. -/
def plain? : Request → Option (String × String)
  | .createProcess name => some (TypeName.process, name)
  | .createSchemaType name => some (TypeName.schemaType, name)
  | _ => none

/-- The calls that a request can make: its plain entity is created unchecked. -/
inductive MayMake (user : String) (request : Request) : Caller → Store.Call → Prop where
  | plain {source : ExternalSource} {typeName name : String}
      (plain : request.plain? = some (typeName, name)) :
      MayMake user request ⟨user, source⟩ (.createEntity typeName (.ofName name) none)
  | checked {who : Caller} {call : Store.Call} (ported : request.plain? = none)
      (checked : Store.Checked user who call) : MayMake user request who call

variable {user source : String}

theorem only_createNamed {allowed : Caller → Store.Call → Prop} {typeName name : String}
    (isAllowed : ∀ x, allowed ⟨user, x⟩ (.createEntity typeName (.ofName name) none)) :
    (createNamed user source typeName name).Only allowed :=
  only_resolve fun x => (only_change (isAllowed x)).bind fun _ => (still_pure _).only

theorem only_createForward (process : EntityId) (forward : PortAlias) :
    (createForward user source process forward).Only (Store.Checked user) := by
  rw [createForward]
  cases forward.delegatesTo with
  | none => exact only_create _ _ _
  | some target =>
    exact (still_target _ _ _).only.bind fun _ => (only_create _ _ _).bind fun id =>
      (only_addDelegation _ _ _).bind fun _ => (still_pure _).only

theorem only_updateNamed (kind : PortKind) (port : Port) :
    (updateNamed user source kind port).Only (Store.Checked user) := by
  refine (still_findOfKind _ _ _).only.bind fun found => ?_
  cases found with
  | none => exact (still_throw _).only
  | some known =>
    refine (only_update _ _ _).bind fun update => ?_
    cases update <;> exact (still_pure _).only

theorem only_apply (request : Request) :
    (request.apply user source).Only (request.MayMake user) := by
  cases request with
  | createProcess name => exact (only_createNamed fun _ => .plain rfl).mapError _
  | createSchemaType name => exact (only_createNamed fun _ => .plain rfl).mapError _
  | createPort kind process port delegatesTo =>
    refine Only.mono ?_ fun who call => MayMake.checked rfl
    refine (still_entityNamed _ _).only.bind fun owner => ?_
    cases kind with
    | implementation =>
      exact ((only_create _ _ _).mapError _).bind fun _ => (still_pure _).only
    | «alias» => exact ((only_createForward _ _).mapError _).bind fun _ => (still_pure _).only
  | updatePort kind port =>
    exact ((only_updateNamed kind port).mapError _).mono fun who call => MayMake.checked rfl
  | addSchema port schemaType =>
    refine Only.mono ?_ fun who call => MayMake.checked rfl
    exact ((still_portNamed _ _).mapError _).only.bind fun p =>
      (still_entityNamed _ _).only.bind fun t =>
        ((only_addSchema _ _).mapError _).bind fun _ => (still_pure _).only
  | addDelegation port portType delegatesTo =>
    refine Only.mono ?_ fun who call => MayMake.checked rfl
    exact Only.mapError ((still_portNamed _ _).only.bind fun p =>
      (only_addDelegation _ _ _).bind fun _ => (still_pure _).only) _
  | removePort name =>
    refine Only.mono ?_ fun who call => MayMake.checked rfl
    exact Only.mapError ((only_remove name).bind fun _ => (still_pure _).only) _
  | findPort name => exact ((still_describePort _ _).mapError _).only

end Request

end LineagePorts
