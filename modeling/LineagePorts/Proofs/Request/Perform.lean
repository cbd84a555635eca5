import LineagePorts.Proofs.Request.Changes
import LineagePorts.Proofs.Request.Conduct
import LineagePorts.Proofs.Request.Lookup

/-!
# Performing requests

What the parts of requests do to a store in memory when the user is not blank and may act for the
source: each checks its names, looks them up, and then makes at most one call.
-/

namespace LineagePorts

/-- The user is not blank, and the registry lets it act for the source. -/
structure Granted (registry : Registry) (user source : String) (id : SourceId) : Prop where
  notBlank : Text.isBlank user = false
  resolved : registry.resolve user source = .ok id

namespace Operation

/-- The call that follows a grant. -/
theorem perform_change_granted {α : Type} (who : Caller) (call : Store.Call)
    (act : Stamp → Store → Except Failure (α × Store)) (around : Surroundings) (s : Store)
    (trace : List Event) (user source : String) :
    (change who call act).perform around
        (Desk.record ⟨.memory s, trace⟩ (.resolved user source true)) =
      match act (around.stamp (trace.countP Event.isCall)) s with
      | .ok (a, next) =>
        (.ok a, ⟨.memory next, trace ++ [.resolved user source true, .called who call]⟩)
      | .error e =>
        (.error e, ⟨.memory s, trace ++ [.resolved user source true, .called who call]⟩) := by
  have count : (trace ++ [Event.resolved user source true]).countP Event.isCall =
      trace.countP Event.isCall := by
    rw [List.countP_append]
    rfl
  rw [Desk.record, perform_change_memory, count]
  cases act (around.stamp (trace.countP Event.isCall)) s with
  | error e => simp only [List.append_assoc, List.cons_append, List.nil_append]
  | ok result => simp only [List.append_assoc, List.cons_append, List.nil_append]

end Operation

namespace PortOperation

open Operation Parameter

variable {around : Surroundings} {user source : String} {id : SourceId}
  (granted : Granted around.registry user source id) (s : Store) (trace : List Event)

include granted

theorem perform_create (port : Port) (kind : PortKind) (process : EntityId) :
    (create user port kind process source).perform around ⟨.memory s, trace⟩ =
      if Text.isBlank port.displayName then
        (.error (.invalidParameter displayName "create_port"), ⟨.memory s, trace⟩)
      else if Text.isBlank port.qualifiedName then
        (.error (.invalidParameter qualifiedName "create_port"), ⟨.memory s, trace⟩)
      else
        (createEntity ⟨user, id, source⟩ kind.typeName port.properties
          (some ⟨process, TypeName.processPort⟩)).perform around
          (Desk.record ⟨.memory s, trace⟩ (.resolved user source true)) := by
  rw [create, perform_bind, perform_ofExcept, checkPort_eq granted.notBlank]
  cases Text.isBlank port.displayName with
  | true => rfl
  | false =>
    cases Text.isBlank port.qualifiedName with
    | true => rfl
    | false => exact perform_resolve_ok granted.resolved _ _

theorem perform_update (known : Entity) (port : Port) (kind : PortKind)
    (named : Text.isBlank port.qualifiedName = false) :
    (update user known port kind source).perform around ⟨.memory s, trace⟩ =
      if Text.isBlank port.displayName then
        (.error (.invalidParameter displayName "update_port"), ⟨.memory s, trace⟩)
      else if known.properties = port.properties then
        (.ok .unchanged, ⟨.memory s, trace⟩)
      else
        (updateEntity ⟨user, id, source⟩ known.id kind.typeName port.properties >>=
          fun _ => pure Update.updated).perform around
          (Desk.record ⟨.memory s, trace⟩ (.resolved user source true)) := by
  by_cases same : known.properties = port.properties
  · rw [update_of_same same, perform_bind, perform_ofExcept, checkPort_eq granted.notBlank, named]
    cases Text.isBlank port.displayName with
    | true => rfl
    | false =>
      rw [if_neg Bool.false_ne_true, if_neg Bool.false_ne_true, if_pos same]
      rfl
  · rw [update_of_ne same, perform_bind, perform_ofExcept, checkPort_eq granted.notBlank, named]
    cases Text.isBlank port.displayName with
    | true => rfl
    | false =>
      rw [if_neg Bool.false_ne_true, if_neg Bool.false_ne_true, if_neg same]
      exact perform_resolve_ok granted.resolved _ _

/-- Two entities of the types that a relationship type wants end up linked, by the link that there
was or by a new one. -/
theorem perform_link {type : RelationshipType}
    (known : RelationshipType.find? type.name = some type) {a b : TypedName}
    {start finish : EntityId} (starts : s.HasType start type.end1Type)
    (finishes : s.HasType finish type.end2Type) (isPort : s.HasType start TypeName.port)
    (first : s.Named start a.typeName a.name) (second : s.Named finish b.typeName b.name) :
    ∃ s' added, (link user start finish type.name source).perform around ⟨.memory s, trace⟩ =
        (.ok (), ⟨.memory s', trace ++ added⟩) ∧
      (s.FreshRun (around.issuedFrom (trace.countP Event.isCall) added) →
        s.AddsLink s' type.name a b) := by
  have typed : (Desk.mk (.memory s) trace).store.HasType start TypeName.port := isPort
  rw [perform_link_of_hasType typed, Desk.store, Backend.store]
  cases present : s.edge? start finish type.name with
  | some r =>
    refine ⟨s, [], by rw [List.append_nil]; rfl, fun _ => ⟨rfl, fun typeName c d => ?_⟩⟩
    have linked : s.Linked type.name start finish := Store.linked_iff_edge?.mpr (by simp [present])
    constructor
    · exact .inl
    · rintro (old | ⟨rfl, rfl, rfl⟩)
      · exact old
      · exact ⟨start, finish, first, second, linked⟩
  | none =>
    let stamp := around.stamp (trace.countP Event.isCall)
    let who : Caller := ⟨user, id, source⟩
    let edge := Store.newRelationship stamp who type start finish
    have made : s.createRelationship stamp who start finish type.name =
        .ok (stamp.relationship, s.addRelationship edge) :=
      Store.createRelationship_eq_ok_iff.mpr (.link known starts finishes present)
    refine ⟨s.addRelationship edge, [.resolved user source true,
      .called who (.createRelationship start finish type.name)], ?_, fun fresh => ⟨rfl, ?_⟩⟩
    · rw [linkUnless, perform_resolve_ok granted.resolved, perform_bind, createRelationship,
        perform_change_granted, made]
      rfl
    · intro typeName c d
      have unused : s.relationships.get? edge.id = none := fresh.1
      exact Store.namesLinked_addRelationship_iff unused first second

end PortOperation

/-- A question that changes nothing is answered like the question to the catalog, or both are
refused by one code. -/
inductive Answers {α β : Type} (desk : Desk) (related : α → β → Prop) :
    Except Failure α × Desk → Except Catalog.Refusal β → Prop where
  | found {a : α} {b : β} (same : related a b) : Answers desk related (.ok a, desk) (.ok b)
  | refused (e : Failure) : Answers desk related (.error e, desk) (.error (some e.code))

section Questions

open PortOperation Operation

variable {s : Store} {c : Catalog} (refines : Refines s c) {user : String}
  (notBlank : Text.isBlank user = false) (around : Surroundings) (trace : List Event)

include refines notBlank

theorem portNamed_answers (name : String) :
    Answers ⟨.memory s, trace⟩ (fun e found => s.IsPort e found.1 found.2)
      ((Request.portNamed user name).perform around ⟨.memory s, trace⟩) (c.port name) := by
  rw [Request.portNamed, perform_bind, perform_find notBlank, Catalog.port_eq, Desk.store,
    Backend.store]
  cases Text.isBlank name with
  | true => exact .refused (.invalidParameter _ _)
  | false =>
    rcases refines.portNamed?_cases name with ⟨absent, unknown⟩ | ⟨e, k, p, found, known, port⟩
    · rw [absent, unknown]
      exact .refused (.portNotFound name)
    · rw [found, known]
      exact .found port

/-- A name that must stand for a port of the declared type does so for both, or is refused. -/
theorem findDeclared_answers (portType : PortType) (name : String) :
    Answers ⟨.memory s, trace⟩
      (fun e key => ∃ p, s.IsPort e key p ∧ c.portNamed? name = some (key, p) ∧
        p.portType = portType)
      ((findDeclared user portType name).perform around ⟨.memory s, trace⟩)
      (c.target name portType) := by
  rw [perform_findDeclared notBlank, Catalog.target_eq, Desk.store, Backend.store]
  cases Text.isBlank name with
  | true => exact .refused (.invalidParameter _ _)
  | false =>
    rcases refines.portNamed?_cases name with ⟨absent, unknown⟩ | ⟨e, k, p, found, known, port⟩
    · rw [absent, unknown]
      exact .refused (.portNotFound name)
    · have fits := Entity.hasPortType_of_port port.properties portType
      rw [if_neg Bool.false_ne_true, if_neg Bool.false_ne_true, found, known]
      dsimp only
      by_cases same : p.portType = portType
      · rw [if_pos (fits.mpr same), if_pos same]
        exact .found ⟨p, port, rfl, same⟩
      · rw [if_neg (fun declared => same (fits.mp declared)), if_neg same]
        exact .refused (.invalidPortType _ _)

/-- So is one that a delegation gives, whatever the operation that checks it first. -/
theorem delegation_answers (portType : PortType) (name action : String) :
    Answers ⟨.memory s, trace⟩
      (fun e key => ∃ p, s.IsPort e key p ∧ c.portNamed? name = some (key, p) ∧
        p.portType = portType)
      ((ofExcept (checkDelegation user name action) >>= fun _ =>
        findDeclared user portType name).perform around ⟨.memory s, trace⟩)
      (c.target name portType) := by
  have answers := findDeclared_answers refines notBlank around trace portType name
  rw [perform_bind, perform_ofExcept, checkDelegation_eq notBlank]
  cases blank : Text.isBlank name with
  | true =>
    rw [Parameter.checkName_of_blank blank, Catalog.target_eq, blank]
    exact .refused (.invalidParameter _ _)
  | false =>
    rw [Parameter.checkName_of_not_blank blank]
    exact answers

end Questions

end LineagePorts
