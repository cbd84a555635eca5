import LineagePorts.Proofs.Request.Conduct

/-!
# Work that is done already

The operations and requests that only ask, and those whose work a store shows to be done: the stored
port is that of the update, the link is there, or no port has the name of the one to remove. They
ask the registry for nothing and make no call, whether they answer or refuse their parameters.
-/

namespace LineagePorts

/-- In this store the operation has nothing to do. -/
inductive Settled (s : Store) (user source : String) : {ε α : Type} → Operation ε α → Prop where
  | update {known : Entity} {port : Port} (kind : PortKind)
      (same : known.properties = port.properties) :
      Settled s user source (PortOperation.update user known port kind source)
  | addSchema {port schemaType : EntityId} {r : Relationship}
      (present : s.edge? port schemaType TypeName.portSchema = some r) :
      Settled s user source (PortOperation.addSchema user port schemaType source)
  | addDelegation {port : EntityId} {delegatesTo : String} {target : Entity} {r : Relationship}
      (portType : PortType) (known : s.portNamed? delegatesTo = some target)
      (present : s.edge? port target.id TypeName.portDelegation = some r) :
      Settled s user source (PortOperation.addDelegation user port portType delegatesTo source)
  | remove {name : String} (absent : s.portNamed? name = none) :
      Settled s user source (PortOperation.remove user name source)
  | find (name : String) : Settled s user source (PortOperation.find user name)
  | findTyped (name typeName : String) :
      Settled s user source (PortOperation.findTyped user name typeName)
  | schemaType (port : EntityId) : Settled s user source (PortOperation.schemaType user port)
  | target (portType : PortType) (delegatesTo : String) :
      Settled s user source (PortOperation.target user portType delegatesTo)
  | describe (name : String) : Settled s user source (Request.describePort user name)
  | requestUpdate {kind : PortKind} {port : Port} {known : Entity}
      (stored : s.findByName? port.qualifiedName kind.typeName = some known)
      (same : known.properties = port.properties) :
      Settled s user source (Request.apply user source (.updatePort kind port))
  | requestSchema {port schemaType : String} {p t : Entity} {r : Relationship}
      (known : s.portNamed? port = some p)
      (typed : s.findByName? schemaType TypeName.schemaType = some t)
      (present : s.edge? p.id t.id TypeName.portSchema = some r) :
      Settled s user source (Request.apply user source (.addSchema port schemaType))
  | requestDelegation {port delegatesTo : String} {p target : Entity} {r : Relationship}
      (portType : PortType) (named : s.portNamed? port = some p)
      (known : s.portNamed? delegatesTo = some target)
      (present : s.edge? p.id target.id TypeName.portDelegation = some r) :
      Settled s user source (Request.apply user source (.addDelegation port portType delegatesTo))
  | requestRemove {name : String} (absent : s.portNamed? name = none) :
      Settled s user source (Request.apply user source (.removePort name))
  | requestFind (name : String) : Settled s user source (Request.apply user source (.findPort name))

namespace PortOperation

open Operation

variable {user source : String} {around : Surroundings} {d : Desk}

theorem idle_update {known : Entity} {port : Port} (kind : PortKind)
    (same : known.properties = port.properties) :
    Idle around d (update user known port kind source) := by
  rw [update_of_same same]
  exact (still_ofExcept _ _ _).bind fun _ _ => still_pure _ _ _

theorem idle_link {port other : EntityId} {typeName : String} {r : Relationship}
    (present : d.store.edge? port other typeName = some r) :
    Idle around d (link user port other typeName source) := by
  refine (still_linkBetween _ _ _ _ _).bind fun found answered => ?_
  obtain rfl := linkBetween_answers answered
  rw [present]
  exact still_pure _ _ _

theorem idle_addSchema {port schemaType : EntityId} {r : Relationship}
    (present : d.store.edge? port schemaType TypeName.portSchema = some r) :
    Idle around d (addSchema user port schemaType source) :=
  (still_ofExcept _ _ _).bind fun _ _ => idle_link present

theorem idle_addDelegation {port : EntityId} {delegatesTo : String} {target : Entity}
    {r : Relationship} (portType : PortType) (known : d.store.portNamed? delegatesTo = some target)
    (present : d.store.edge? port target.id TypeName.portDelegation = some r) :
    Idle around d (addDelegation user port portType delegatesTo source) := by
  refine (still_ofExcept _ _ _).bind fun _ _ =>
    (still_findDeclared _ _ _ _ _).bind fun found answered => ?_
  obtain ⟨named, _⟩ := findDeclared_answers answered
  obtain rfl := Option.some.inj (known.symm.trans named)
  exact idle_link present

theorem idle_remove {name : String} (absent : d.store.portNamed? name = none) :
    Idle around d (remove user name source) := by
  refine (still_ofExcept _ _ _).bind fun _ _ => (still_ofExcept _ _ _).bind fun _ _ =>
    (still_find _ _ _ _).bind fun found answered => ?_
  obtain rfl := find_answers answered
  rw [absent]
  exact still_pure _ _ _

end PortOperation

namespace Request

open Operation PortOperation

variable {user source : String} {around : Surroundings} {d : Desk}

theorem idle_updateNamed {kind : PortKind} {port : Port} {known : Entity}
    (stored : d.store.findByName? port.qualifiedName kind.typeName = some known)
    (same : known.properties = port.properties) :
    Idle around d (updateNamed user source kind port) := by
  refine (still_findOfKind _ _ _ _ _).bind fun found answered => ?_
  obtain rfl := findOfKind_answers answered
  rw [stored]
  refine (idle_update kind same).bind fun update _ => ?_
  cases update with
  | updated => exact still_pure _ _ _
  | unchanged => exact still_pure _ _ _

theorem idle_schemaRequest {port schemaType : String} {p t : Entity} {r : Relationship}
    (known : d.store.portNamed? port = some p)
    (typed : d.store.findByName? schemaType TypeName.schemaType = some t)
    (present : d.store.edge? p.id t.id TypeName.portSchema = some r) :
    Idle around d (apply user source (.addSchema port schemaType)) := by
  refine ((still_portNamed _ _).mapError _ _ _).bind fun portEntity first => ?_
  refine (still_entityNamed _ _ _ _).bind fun schemaEntity second => ?_
  have named := portNamed_answers (perform_mapError_eq_ok_iff.mp first)
  obtain rfl := Option.some.inj (known.symm.trans named)
  obtain rfl := Option.some.inj (typed.symm.trans (entityNamed_answers second))
  exact ((idle_addSchema present).mapError _).bind fun _ _ => still_pure _ _ _

theorem idle_delegationRequest {port delegatesTo : String} {p target : Entity} {r : Relationship}
    (portType : PortType) (named : d.store.portNamed? port = some p)
    (known : d.store.portNamed? delegatesTo = some target)
    (present : d.store.edge? p.id target.id TypeName.portDelegation = some r) :
    Idle around d (apply user source (.addDelegation port portType delegatesTo)) := by
  refine Idle.mapError ((still_portNamed _ _ _ _).bind fun portEntity answered => ?_) _
  obtain rfl := Option.some.inj (named.symm.trans (portNamed_answers answered))
  exact (idle_addDelegation portType known present).bind fun _ _ => still_pure _ _ _

end Request

open Operation PortOperation in
theorem Settled.idle {user source : String} {ε α : Type} {op : Operation ε α} {d : Desk}
    (settled : Settled d.store user source op) (around : Surroundings) : Idle around d op := by
  cases settled with
  | update kind same => exact idle_update kind same
  | addSchema present => exact idle_addSchema present
  | addDelegation portType known present => exact idle_addDelegation portType known present
  | remove absent => exact idle_remove absent
  | find name => exact still_find _ _ _ _
  | findTyped name typeName => exact still_findTyped _ _ _ _ _
  | schemaType port => exact still_schemaType _ _ _ _
  | target portType delegatesTo => exact still_target _ _ _ _ _
  | describe name => exact Request.still_describePort _ _ _ _
  | requestUpdate stored same => exact Idle.mapError (Request.idle_updateNamed stored same) _
  | requestSchema known typed present => exact Request.idle_schemaRequest known typed present
  | requestDelegation portType named known present =>
    exact Request.idle_delegationRequest portType named known present
  | requestRemove absent =>
    exact Idle.mapError ((idle_remove absent).bind fun _ _ => still_pure _ _ _) _
  | requestFind name => exact Request.still_describePort _ _ _ _

end LineagePorts
