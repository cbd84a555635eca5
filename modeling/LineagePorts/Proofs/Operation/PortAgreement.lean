import LineagePorts.Proofs.Operation.Agreement
import LineagePorts.Proofs.Port.Stored
import LineagePorts.Proofs.Request.Represents

/-!
# Operations on ports at two desks

Every operation on ports is about the names that it is given and about the entities that it is
given. Where two desks agree about these names, its questions concur, and as a whole it keeps the
desks abreast.
-/

namespace LineagePorts

theorem Port.namedIn {port : Port} {names : List String} (mem : port.qualifiedName ∈ names) :
    port.properties.NamedIn names :=
  ⟨port.qualifiedName, mem, port.qualifiedName?_properties⟩

namespace Store

variable {names : List String} {s : Store} {e : Entity} {name : String}

theorem holds_of_findByName? (sound : s.Integrity ∧ s.Unique) {typeName : String}
    (found : s.findByName? name typeName = some e) (mem : name ∈ names) : s.Holds names e.id := by
  obtain ⟨stored, _, named⟩ := (findByName?_eq_some_iff sound.1 sound.2).mp found
  exact ⟨e, stored, name, mem, named⟩

theorem holdsPort_of_findByName? (sound : s.Integrity ∧ s.Unique) (kind : PortKind)
    (found : s.findByName? name kind.typeName = some e) (mem : name ∈ names) :
    s.HoldsPort names e.id := by
  obtain ⟨stored, typed, named⟩ := (findByName?_eq_some_iff sound.1 sound.2).mp found
  exact ⟨e, stored, ⟨name, mem, named⟩, by rw [typed]; exact kind.isA_port⟩

theorem holdsPort_of_portNamed? (sound : s.Integrity ∧ s.Unique)
    (found : s.portNamed? name = some e) (mem : name ∈ names) : s.HoldsPort names e.id := by
  rw [portNamed?, Option.or_eq_some_iff] at found
  rcases found with asAlias | ⟨_, asImplementation⟩
  · exact holdsPort_of_findByName? sound .alias asAlias mem
  · exact holdsPort_of_findByName? sound .implementation asImplementation mem

end Store

namespace PortOperation

open Operation

variable {names : List String} {user source : String} {around : Surroundings} {d d' : Desk}
  (abreast : d.Abreast names d')

include abreast

section Questions

theorem concurs_findTyped {name : String} (mem : name ∈ names) (typeName : String) :
    Concurs around d d' (findTyped user name typeName) :=
  (concurs_ofExcept _).bind fun _ _ => (concurs_ofExcept _).bind fun _ _ =>
    concurs_ask (abreast.same.findByName?_eq abreast.sound abreast.sound' mem typeName)

theorem concurs_find {name : String} (mem : name ∈ names) :
    Concurs around d d' (find user name) := by
  refine (concurs_findTyped abreast mem _).bind fun found _ => ?_
  cases found with
  | some e => exact concurs_pure _
  | none => exact concurs_findTyped abreast mem _

theorem concurs_findOfKind {name : String} (mem : name ∈ names) (kind : PortKind) :
    Concurs around d d' (findOfKind user name kind) := by
  cases kind <;> exact concurs_findTyped abreast mem _

theorem concurs_findDeclared {name : String} (mem : name ∈ names) (portType : PortType) :
    Concurs around d d' (findDeclared user portType name) := by
  refine (concurs_find abreast mem).bind fun found _ => ?_
  cases found with
  | none => exact concurs_throw _
  | some port =>
    dsimp only
    split
    · exact concurs_pure _
    · exact concurs_throw _

theorem concurs_target {name : String} (mem : name ∈ names) (portType : PortType) :
    Concurs around d d' (target user portType name) :=
  (concurs_ofExcept _).bind fun _ _ => concurs_findDeclared abreast mem portType

theorem concurs_linkBetween {start finish : EntityId} (starts : d.store.Holds names start)
    (finishes : d.store.Holds names finish) (typeName : String) :
    Concurs around d d' (linkBetween start finish typeName) := by
  refine (concurs_ask ?_).bind fun _ _ => concurs_ofExcept _
  exact abreast.same.relationshipBetween_eq abreast.sound abreast.sound' starts finishes _ _

end Questions

theorem keepsAbreast_create {port : Port} (mem : port.qualifiedName ∈ names) (kind : PortKind)
    {process : EntityId} (owner : d.store.Holds names process) :
    KeepsAbreast names around d d' (create user port kind process source) := by
  refine .after (concurs_ofExcept _) abreast fun _ _ => ?_
  refine .resolve_change (fun _ _ _ => rfl) (fun _ _ => Store.Answer.entity.inj) abreast ?_
  refine .create _ (Port.namedIn mem) fun o given => ?_
  obtain rfl := Option.some.inj given
  exact owner

theorem keepsAbreast_update {port : Port} (mem : port.qualifiedName ∈ names) (kind : PortKind)
    {known : Entity} (stored : d.store.HoldsPort names known.id) :
    KeepsAbreast names around d d' (update user known port kind source) := by
  refine .after (concurs_ofExcept _) abreast fun _ _ => ?_
  split
  · rw [← bind_assoc]
    have concerns : d.store.Concerns names
        (.updateEntity known.id kind.typeName port.properties) :=
      .update _ stored (Port.namedIn mem)
    exact (KeepsAbreast.resolve_change (f := fun _ => .done) (fun x stamp s =>
      s.perform_updateEntity stamp ⟨user, x⟩ known.id kind.typeName port.properties)
      (fun _ _ _ => rfl) abreast concerns).bind_pure fun _ => ⟨_, rfl⟩
  · exact .of_concurs (concurs_pure _) abreast

theorem keepsAbreast_link {start finish : EntityId} (starts : d.store.Holds names start)
    (finishes : d.store.Holds names finish) (typeName : String) :
    KeepsAbreast names around d d' (link user start finish typeName source) := by
  refine .after (concurs_linkBetween abreast starts finishes typeName) abreast fun found _ => ?_
  cases found with
  | some r => exact .of_concurs (concurs_pure _) abreast
  | none =>
    rw [linkUnless, ← bind_assoc]
    refine KeepsAbreast.bind_pure (.resolve_change (fun _ _ _ => rfl)
      (fun _ _ => Store.Answer.relationship.inj) abreast ?_) fun _ => ⟨_, rfl⟩
    exact .link typeName starts finishes

theorem keepsAbreast_addSchema {port schemaType : EntityId} (starts : d.store.Holds names port)
    (finishes : d.store.Holds names schemaType) :
    KeepsAbreast names around d d' (addSchema user port schemaType source) :=
  .after (concurs_ofExcept _) abreast fun _ _ => keepsAbreast_link abreast starts finishes _

theorem keepsAbreast_addDelegation {port : EntityId} (starts : d.store.Holds names port)
    {name : String} (mem : name ∈ names) (portType : PortType) :
    KeepsAbreast names around d d' (addDelegation user port portType name source) := by
  refine .after (concurs_ofExcept _) abreast fun _ _ => ?_
  refine .after (concurs_findDeclared abreast mem portType) abreast fun target answered => ?_
  have found := (findDeclared_answers answered).1
  have finishes := Store.holdsPort_of_portNamed? abreast.sound found mem
  exact keepsAbreast_link abreast starts finishes.holds _

theorem keepsAbreast_remove {name : String} (mem : name ∈ names) :
    KeepsAbreast names around d d' (remove user name source) := by
  refine .after (concurs_ofExcept _) abreast fun _ _ => ?_
  refine .after (concurs_ofExcept _) abreast fun _ _ => ?_
  refine .after (concurs_find abreast mem) abreast fun found answered => ?_
  cases found with
  | none => exact .of_concurs (concurs_pure _) abreast
  | some port =>
    have stored := Store.holdsPort_of_portNamed? abreast.sound (find_answers answered).symm mem
    exact .resolve_change (f := fun _ => .done) (fun x stamp s =>
      s.perform_deleteEntity stamp ⟨user, x⟩ port.id) (fun _ _ _ => rfl) abreast (.delete stored)

end PortOperation

end LineagePorts
