import LineagePorts.Store.Call

/-!
# Creations that fail

Whatever a creation is refused for, the refusal is told as a failure of the server.
-/

namespace LineagePorts

/-- The only way to fail is a fault of the server. -/
def FailsAsServer {α : Type} (x : Except Failure α) : Prop :=
  ∀ e, x = .error e → ∃ fault, e = .server fault

section Closure

variable {α β : Type}

theorem failsAsServer_ok (a : α) : FailsAsServer (.ok a) :=
  fun _ failed => nomatch failed

theorem failsAsServer_error (fault : ServerFault) :
    FailsAsServer (.error (.server fault) : Except Failure α) :=
  fun _ failed => ⟨fault, (Except.error.inj failed).symm⟩

theorem FailsAsServer.bind {x : Except Failure α} {f : α → Except Failure β}
    (first : FailsAsServer x) (second : ∀ a, FailsAsServer (f a)) : FailsAsServer (x >>= f) := by
  cases x with
  | error e => exact fun e' failed => first e' (by rw [← Except.error.inj failed])
  | ok a => exact second a

end Closure

namespace Store

variable (s : Store) (stamp : Stamp) (who : Caller)

theorem entity_failsAsServer (id : EntityId) : FailsAsServer (s.entity id) := by
  rw [entity]
  split
  · exact failsAsServer_ok _
  · exact failsAsServer_error _

theorem typedEntity_failsAsServer (id : EntityId) (typeName : String) :
    FailsAsServer (s.typedEntity id typeName) := by
  refine (s.entity_failsAsServer id).bind fun e => ?_
  split
  · exact failsAsServer_ok _
  · exact failsAsServer_error _

theorem relationshipType_failsAsServer (name : String) :
    FailsAsServer (relationshipType name) := by
  rw [relationshipType]
  split
  · exact failsAsServer_ok _
  · exact failsAsServer_error _

theorem checkName_failsAsServer (typeName : String) (properties : Properties)
    (except? : Option EntityId) : FailsAsServer (s.checkName typeName properties except?) := by
  rw [checkName]
  split
  · split
    · exact failsAsServer_error _
    · exact failsAsServer_ok _
  · exact failsAsServer_ok _

theorem ownershipOf_failsAsServer (typeName : String) (o : Ownership) :
    FailsAsServer (s.ownershipOf stamp who typeName o) := by
  refine (relationshipType_failsAsServer _).bind fun type =>
    (s.typedEntity_failsAsServer _ _).bind fun _ => ?_
  split
  · exact failsAsServer_ok _
  · exact failsAsServer_error _

theorem createEntity_failsAsServer (typeName : String) (properties : Properties)
    (owner : Option Ownership) :
    FailsAsServer (s.createEntity stamp who typeName properties owner) := by
  refine (s.checkName_failsAsServer _ _ _).bind fun _ => ?_
  cases owner with
  | none => exact failsAsServer_ok _
  | some o => exact (s.ownershipOf_failsAsServer _ _ _ _).bind fun _ => failsAsServer_ok _

end Store

end LineagePorts
