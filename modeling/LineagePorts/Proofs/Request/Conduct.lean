import LineagePorts.Proofs.Request.Calls

/-!
# The conduct of operations and requests

Every operation on ports and every request follows one course, but for an alias that is created with
a port to delegate to: that one follows two, the second one after the first one succeeded. What each
permitted change keeps is therefore kept by all of them.
-/

namespace LineagePorts

inductive Conduct (user source : String) (around : Surroundings) (d : Desk) {ε α : Type} :
    Except ε α × Desk → Prop where
  | single {result : Except ε α × Desk}
      (course : Course user source Store.Permits around d result) :
      Conduct user source around d result
  | double {id : EntityId} {middle : Desk} {result : Except ε α × Desk}
      (created : Course user source Store.CreatesPort around d
        ((.ok id : Except Failure EntityId), middle))
      (linked : Course user source Store.LinksPort around middle result) :
      Conduct user source around d result

namespace Conduct

open Operation

variable {user source : String} {around : Surroundings} {d : Desk} {ε ε' α β : Type}

theorem of_isOk {answer : Except ε α} {after : Desk} {other : Except ε' β}
    (conduct : Conduct user source around d (answer, after)) (same : other.isOk = answer.isOk) :
    Conduct user source around d (other, after) := by
  cases conduct with
  | single course => exact .single (course.of_isOk same)
  | double created linked => exact .double created (linked.of_isOk same)

theorem of_alike {op : Operation ε α} {other : Operation ε' β}
    (conduct : Conduct user source around d (op.perform around d))
    (alike : Alike around d op other) :
    Conduct user source around d (other.perform around d) := by
  obtain ⟨desk, success⟩ := alike
  generalize other.perform around d = result at desk success ⊢
  obtain ⟨answer, after⟩ := result
  dsimp only at desk success
  subst desk
  exact conduct.of_isOk success

theorem after_still {op : Operation ε α} {f : α → Operation ε β} (still : Still op)
    (rest : ∀ a, Conduct user source around d ((f a).perform around d)) :
    Conduct user source around d ((op >>= f).perform around d) := by
  rcases (still around d).perform_bind f with ⟨e, _, ended⟩ | ⟨a, _, went⟩
  · rw [ended]
    exact .single (.still (.error e))
  · rw [went]
    exact rest a

theorem continues {result : Except ε α × Desk} (conduct : Conduct user source around d result) :
    d.Continues around result.2 := by
  cases conduct with
  | single course => exact course.continues
  | double created linked => exact created.continues.trans linked.continues

/-- What a conduct does to the store: nothing, or one act, or one that creates a port and one that
links it. -/
theorem effect {answer : Except ε α} {after : Desk}
    (conduct : Conduct user source around d (answer, after)) (fresh : d.FreshTo around after) :
    (after.store = d.store ∧ (answer.isOk = true → after = d)) ∨
      d.store.Act user source Store.Permits after.store ∨
      ∃ s, d.store.Act user source Store.CreatesPort s ∧
        s.Act user source Store.LinksPort after.store := by
  cases conduct with
  | single course =>
    rcases course.effect fresh with same | act
    · exact .inl same
    · exact .inr (.inl act)
  | @double id middle _ created linked =>
    obtain ⟨first, second⟩ := Desk.freshTo_trans created.continues linked.continues fresh
    rcases created.effect first with ⟨_, same⟩ | act
    · obtain rfl := same rfl
      rcases linked.effect second with same | act
      · exact .inl same
      · exact .inr (.inl (act.mono fun _ => .link))
    · rcases linked.effect second with ⟨same, _⟩ | act'
      · rw [same]
        exact .inr (.inl (act.mono fun _ => .create))
      · exact .inr (.inr ⟨middle.store, act, act'⟩)

/-- What every permitted act keeps is kept. -/
theorem keeps {P : Store → Prop} {answer : Except ε α} {after : Desk}
    (step : ∀ {s s' : Store}, P s → s.Act user source Store.Permits s' → P s')
    (conduct : Conduct user source around d (answer, after)) (fresh : d.FreshTo around after)
    (start : P d.store) : P after.store := by
  rcases conduct.effect fresh with ⟨same, _⟩ | act | ⟨s, created, linked⟩
  · rw [same]
    exact start
  · exact step start act
  · exact step (step start (created.mono fun _ => .create)) (linked.mono fun _ => .link)

end Conduct

namespace Request

open Operation PortOperation

variable {user source : String} {around : Surroundings} {d : Desk}

theorem course_apply (request : Request) (simple : request.delegates = false) :
    Course user source Store.Permits around d ((apply user source request).perform around d) :=
  (course_makes request simple).mono fun _ => Makes.permits

theorem conduct_createForward (process : EntityId) (port : Port) (target : String) :
    Conduct user source around d
      ((createForward user source process ⟨port, some target⟩).perform around d) := by
  refine .after_still (still_target _ _ _) fun _ => ?_
  have created : Course user source Store.CreatesPort around d
      ((createAlias user ⟨port, some target⟩ process source).perform around d) :=
    course_create port .alias process
  rw [perform_bind]
  generalize (createAlias user ⟨port, some target⟩ process source).perform around d = result
    at created ⊢
  obtain ⟨answer, middle⟩ := result
  cases answer with
  | error e => exact .single ((created.mono fun _ => .create).of_isOk rfl)
  | ok id =>
    have linked : Course user source Store.LinksPort around middle
        ((PortOperation.addDelegation user id port.portType target source).perform
          around middle) :=
      course_addDelegation _ _ _
    exact .double created (linked.bind_pure fun _ => ⟨id, rfl⟩)

theorem conduct_apply (request : Request) :
    Conduct user source around d ((apply user source request).perform around d) := by
  cases simple : request.delegates with
  | false => exact .single (course_apply request simple)
  | true =>
    match request, simple with
    | .createPort .alias process port (some target), _ =>
      refine .after_still (still_entityNamed _ _) fun owner => ?_
      have created : Conduct user source around d
          ((createForward user source owner.id ⟨port, some target⟩).perform around d) :=
        conduct_createForward owner.id port target
      exact (created.of_alike (alike_mapError _ _ _ RequestError.port)).of_alike
        (alike_bind_pure _ _ _ fun _ => ⟨_, rfl⟩)

end Request

/-- The operations that a user can make on behalf of a source, and the requests. -/
inductive Service (user source : String) : {ε α : Type} → Operation ε α → Prop where
  | create (port : Port) (kind : PortKind) (process : EntityId) :
      Service user source (PortOperation.create user port kind process source)
  | createImplementation (implementation : PortImplementation) (process : EntityId) :
      Service user source (PortOperation.createImplementation user implementation process source)
  | createAlias (forward : PortAlias) (process : EntityId) :
      Service user source (PortOperation.createAlias user forward process source)
  | update (known : Entity) (port : Port) (kind : PortKind) :
      Service user source (PortOperation.update user known port kind source)
  | updateImplementation (known : Entity) (implementation : PortImplementation) :
      Service user source (PortOperation.updateImplementation user known implementation source)
  | updateAlias (known : Entity) (forward : PortAlias) :
      Service user source (PortOperation.updateAlias user known forward source)
  | addSchema (port schemaType : EntityId) :
      Service user source (PortOperation.addSchema user port schemaType source)
  | schemaType (port : EntityId) : Service user source (PortOperation.schemaType user port)
  | addDelegation (port : EntityId) (portType : PortType) (delegatesTo : String) :
      Service user source (PortOperation.addDelegation user port portType delegatesTo source)
  | target (portType : PortType) (delegatesTo : String) :
      Service user source (PortOperation.target user portType delegatesTo)
  | remove (name : String) : Service user source (PortOperation.remove user name source)
  | find (name : String) : Service user source (PortOperation.find user name)
  | findImplementation (name : String) :
      Service user source (PortOperation.findImplementation user name)
  | findAlias (name : String) : Service user source (PortOperation.findAlias user name)
  | describe (name : String) : Service user source (Request.describePort user name)
  | request (request : Request) : Service user source (request.apply user source)

namespace Service

open Operation PortOperation

variable {user source : String} {ε α : Type} {op : Operation ε α}

theorem conduct (service : Service user source op) (around : Surroundings) (d : Desk) :
    Conduct user source around d (op.perform around d) := by
  cases service with
  | create port kind process =>
    exact .single ((course_create port kind process).mono fun _ => .create)
  | createImplementation implementation process =>
    exact .single ((course_create implementation.port .implementation process).mono
      fun _ => .create)
  | createAlias forward process =>
    exact .single ((course_create forward.port .alias process).mono fun _ => .create)
  | update known port kind => exact .single (course_update known port kind)
  | updateImplementation known implementation =>
    exact .single (course_update known implementation.port .implementation)
  | updateAlias known forward => exact .single (course_update known forward.port .alias)
  | addSchema port schemaType =>
    exact .single ((course_addSchema port schemaType).mono fun _ => .link)
  | schemaType port => exact .single (.of_still (still_schemaType _ _))
  | addDelegation port portType delegatesTo =>
    exact .single ((course_addDelegation port portType delegatesTo).mono fun _ => .link)
  | target portType delegatesTo => exact .single (.of_still (still_target _ _ _))
  | remove name => exact .single (course_remove name)
  | find name => exact .single (.of_still (still_find _ _))
  | findImplementation name => exact .single (.of_still (still_findTyped _ _ _))
  | findAlias name => exact .single (.of_still (still_findTyped _ _ _))
  | describe name => exact .single (.of_still (Request.still_describePort _ _))
  | request request => exact Request.conduct_apply request

end Service

/-- A store in memory with a process and an implementation. -/
def Backend.sample : Backend :=
  let request (first : Nat) (b : Backend) (r : Request) : Backend :=
    (r.applyAt "steward" "engine" (.sample first) b).2.backend
  let port : Port := .plain "a" "a" .input
  request 2 (request 0 (.memory .empty) (.createProcess "p"))
    (.createPort .implementation "p" port none)

end LineagePorts
