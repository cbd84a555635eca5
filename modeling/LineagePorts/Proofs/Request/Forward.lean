import LineagePorts.Proofs.Request.Conduct
import LineagePorts.Proofs.Request.Changes
import LineagePorts.Proofs.Request.Lookup

/-!
# An alias that delegates from the start

Such an alias is created by two calls, and the name that it delegates to is looked up before the
first one and again before the second one. Whatever could refuse the second call was excluded before
the first one, so that it fails only if it cannot be saved. But the second look-up may find the new
alias itself: if that has the name it delegates to, it ends up delegating to itself.
-/

namespace LineagePorts

namespace Store

theorem Reached.act {s s' : Store} {user source : String} {law : Store → Call → Prop}
    (reached : s.Reached) (act : s.Act user source law s') : s'.Reached := by
  obtain ⟨_, fresh, change⟩ := act
  exact reached.change fresh change

section Lookup

variable {s : Store} (sound : s.Integrity) (unique : s.Unique) {e : Entity}
  (fresh : s.entities.get? e.id = none) (unique' : (s.putEntity e).Unique)

include sound unique fresh unique'

/-- A new entity is found by its type and name, and every other one as before. -/
theorem findByName?_putEntity (name typeName : String) :
    (s.putEntity e).findByName? name typeName =
      if e.typeName = typeName ∧ e.qualifiedName? = some name then some e
      else s.findByName? name typeName := by
  have sound' := sound.putEntity fresh
  by_cases fits : e.typeName = typeName ∧ e.qualifiedName? = some name
  · rw [if_pos fits]
    exact (findByName?_eq_some_iff sound' unique').mpr ⟨get?_putEntity_self s e, fits⟩
  · rw [if_neg fits]
    refine Option.ext fun f => ?_
    rw [findByName?_eq_some_iff sound' unique', findByName?_eq_some_iff sound unique]
    constructor
    · rintro ⟨stored, named⟩
      rcases get?_putEntity_cases stored with ⟨_, rfl⟩ | old
      · exact absurd named fits
      · exact ⟨old, named⟩
    · rintro ⟨stored, named⟩
      exact ⟨get?_putEntity_old fresh stored, named⟩

/-- A new alias takes its name over. -/
theorem portNamed?_putAlias (typed : e.typeName = TypeName.portAlias) (name : String) :
    (s.putEntity e).portNamed? name =
      if e.qualifiedName? = some name then some e else s.portNamed? name := by
  have other : TypeName.portAlias ≠ TypeName.portImplementation := by decide
  simp only [portNamed?, findByName?_putEntity sound unique fresh unique', typed, other,
    true_and, false_and, if_false]
  split <;> rfl

end Lookup

/-- The second store is the first one with a new alias and the link from its owner. -/
structure AddsAlias (s s' : Store) (e : Entity) (port : Port) : Prop where
  fresh : s.entities.get? e.id = none
  typed : e.typeName = TypeName.portAlias
  properties : e.properties = port.properties
  owned : ∃ r, r.typeName = TypeName.processPort ∧ s.relationships.get? r.id = none ∧
    s' = (s.putEntity e).addRelationship r

namespace AddsAlias

variable {s s' : Store} {e : Entity} {port : Port} (adds : s.AddsAlias s' e port)

include adds

theorem stored : s'.entities.get? e.id = some e := by
  obtain ⟨r, _, _, rfl⟩ := adds.owned
  exact get?_putEntity_self s e

theorem get?_old {id : EntityId} {f : Entity} (stored : s.entities.get? id = some f) :
    s'.entities.get? id = some f := by
  obtain ⟨r, _, _, rfl⟩ := adds.owned
  exact get?_putEntity_old adds.fresh stored

theorem hasType : s'.HasType e.id TypeName.port :=
  ⟨e, adds.stored, by rw [adds.typed]; rfl⟩

theorem portNamed?_eq (sound : s.Integrity) (unique : s.Unique) (unique' : s'.Unique)
    (name : String) :
    s'.portNamed? name = if port.qualifiedName = name then some e else s.portNamed? name := by
  obtain ⟨r, _, _, rfl⟩ := adds.owned
  have put : (s.putEntity e).Unique := ⟨unique'.names, unique.edges⟩
  have looked := portNamed?_putAlias sound unique adds.fresh put adds.typed name
  simp only [Entity.qualifiedName?_of_port adds.properties, Option.some.injEq] at looked
  exact looked

/-- A new alias delegates to nothing yet. -/
theorem not_delegating (sound : s.Integrity) {k : RelationshipId} {r : Relationship}
    (stored : s'.relationships.get? k = some r) (typed : r.typeName = TypeName.portDelegation) :
    r.end1 ≠ e.id := by
  obtain ⟨owner, owning, _, rfl⟩ := adds.owned
  rcases get?_addRelationship_cases stored with ⟨rfl, rfl⟩ | old
  · rw [owning] at typed
    exact absurd typed (by decide)
  · intro starts
    obtain ⟨⟨f, first⟩, _⟩ := sound.ends_stored old
    rw [starts, adds.fresh] at first
    cases first

theorem edge?_eq_none (sound : s.Integrity) (finish : EntityId) :
    s'.edge? e.id finish TypeName.portDelegation = none :=
  edge?_eq_none_iff.mpr fun _ _ stored fits => adds.not_delegating sound stored fits.1 fits.2.1

/-- The link that an alias asks for can be made, to the port that its name then stands for. -/
theorem change_link (sound : s.Integrity) (unique : s.Unique) (unique' : s'.Unique)
    {y : Entity} {name : String} (looked : s'.portNamed? name = some y) (stamp : Stamp)
    (who : Caller) :
    Change s' stamp who (.createRelationship e.id y.id TypeName.portDelegation)
      (.relationship stamp.relationship)
      (s'.addRelationship (newRelationship stamp who .portDelegation e.id y.id)) := by
  have finishes : s'.HasType y.id TypeName.port := by
    rw [adds.portNamed?_eq sound unique unique'] at looked
    split at looked
    · obtain rfl := Option.some.inj looked
      exact adds.hasType
    · obtain ⟨mem, kind, typed⟩ := mem_of_portNamed? looked
      obtain ⟨id, stored⟩ := Table.mem_values_iff.mp mem
      obtain rfl := sound.entityId stored
      exact ⟨y, adds.get?_old stored, by rw [typed]; exact kind.isA_port⟩
  exact .link RelationshipType.find?_portDelegation adds.hasType finishes
    (adds.edge?_eq_none sound y.id)

end AddsAlias

end Store

namespace PortOperation

open Operation

variable {user source : String} {around : Surroundings} {d m : Desk} {sourceId : SourceId}

/-- Two entities that are not linked are linked by one call. -/
theorem perform_link_new (granted : around.registry.resolve user source = .ok sourceId)
    {start : EntityId} (isPort : d.store.HasType start TypeName.port) {finish : EntityId}
    {typeName : String} (absent : d.store.edge? start finish typeName = none) :
    let issued := d.issue around ⟨user, sourceId, source⟩
      (.createRelationship start finish typeName)
    (link user start finish typeName source).perform around d =
      (issued.1.map fun _ => (), issued.2) := by
  rw [perform_link_of_hasType isPort, absent]
  exact perform_linkUnless_none granted start finish typeName

theorem perform_addDelegation_new (notBlank : Text.isBlank user = false)
    (granted : around.registry.resolve user source = .ok sourceId) {start : EntityId}
    (isPort : d.store.HasType start TypeName.port) {name : String}
    (named : Text.isBlank name = false) {y : Entity} {portType : PortType}
    (looked : d.store.portNamed? name = some y) (declared : y.hasPortType portType = true)
    (absent : d.store.edge? start y.id TypeName.portDelegation = none) :
    let issued := d.issue around ⟨user, sourceId, source⟩
      (.createRelationship start y.id TypeName.portDelegation)
    (addDelegation user start portType name source).perform around d =
      (issued.1.map fun _ => (), issued.2) := by
  have found : (findDeclared user portType name).perform around d = (.ok y, d) := by
    rw [perform_findDeclared notBlank, named, looked]
    simp [declared]
  rw [addDelegation, perform_bind, perform_ofExcept, checkDelegation_eq notBlank,
    Parameter.checkName_of_not_blank named]
  dsimp only
  rw [perform_bind, found]
  exact perform_link_new granted isPort absent

theorem create_addsAlias (sound : d.store.Integrity) (unique : d.store.Unique) {port : Port}
    {process id : EntityId}
    (created : (create user port .alias process source).perform around d = (.ok id, m))
    (fresh : d.FreshTo around m) :
    ∃ e, e.id = id ∧ d.store.AddsAlias m.store e port ∧ m.store.Unique := by
  obtain ⟨_, sourceId, granted, issued⟩ := create_answers created
  have change := Desk.change_of_issue issued
  have new := Desk.fresh_of_issued issued fresh
  have unique' := unique.change sound new change
  generalize m.store = s at change unique' ⊢
  cases change with
  | createOwned free known owner owned =>
    exact ⟨_, rfl, ⟨new.1, rfl, rfl, _, RelationshipType.name_of_find? known, new.2 rfl, rfl⟩,
      unique'⟩

end PortOperation

namespace Request

open Operation PortOperation

variable {user source : String} {around : Surroundings} {d d' : Desk}

/-- An alias was created that delegates to `x` as far as was checked, and to `y` once it is there. -/
structure Forwards (user source : String) (around : Surroundings) (d : Desk) (port : Port)
    (name : String) (m : Desk) (e x y : Entity) : Prop where
  checked : (target user port.portType name).perform around d = (.ok x, d)
  created : Course user source Store.CreatesPort around d
    ((.ok e.id : Except Failure EntityId), m)
  adds : d.store.AddsAlias m.store e port
  same : y = if port.qualifiedName = name then e else x
  change : ∀ stamp who, Store.Change m.store stamp who
    (.createRelationship e.id y.id TypeName.portDelegation) (.relationship stamp.relationship)
    (m.store.addRelationship (Store.newRelationship stamp who .portDelegation e.id y.id))

/-- After a target was found and the alias was created, the delegation is one call. -/
theorem forwards_of_created (sound : d.store.Integrity) (unique : d.store.Unique)
    {process id : EntityId} {port : Port} {name : String} {m : Desk} {x : Entity}
    (checked : (target user port.portType name).perform around d = (.ok x, d))
    (created : (create user port .alias process source).perform around d = (.ok id, m))
    (fresh : d.FreshTo around m) :
    ∃ e y sourceId, e.id = id ∧ Forwards user source around d port name m e x y ∧
      let issued := m.issue around ⟨user, sourceId, source⟩
        (.createRelationship e.id y.id TypeName.portDelegation)
      (PortOperation.addDelegation user id port.portType name source).perform around m =
        (issued.1.map fun _ => (), issued.2) := by
  have course : Course user source Store.CreatesPort around d
    ((create user port .alias process source).perform around d) := course_create port .alias process
  rw [created] at course
  obtain ⟨e, rfl, adds, unique'⟩ := create_addsAlias sound unique created fresh
  obtain ⟨notBlank, sourceId, granted, _⟩ := create_answers created
  obtain ⟨named, known, declared⟩ := target_answers checked
  let y : Entity := if port.qualifiedName = name then e else x
  have looked : m.store.portNamed? name = some y := by
    rw [adds.portNamed?_eq sound unique unique', known, ← apply_ite]
  have declared' : y.hasPortType port.portType = true := by
    by_cases taken : port.qualifiedName = name
    · simpa [y, taken] using (Entity.hasPortType_of_port adds.properties _).mpr rfl
    · simpa [y, taken] using declared
  have change := adds.change_link sound unique unique' looked
  exact ⟨e, y, sourceId, rfl, ⟨checked, course, adds, rfl, change⟩,
    perform_addDelegation_new notBlank granted adds.hasType named looked declared'
      (adds.edge?_eq_none sound y.id)⟩

/-- The request fails before its first call is done, or it ends as its second one does. -/
theorem createForward_ends (sound : d.store.Integrity) (unique : d.store.Unique)
    {process : EntityId} {port : Port} {name : String} {answer : Except Failure EntityId}
    (performed : (createForward user source process ⟨port, some name⟩).perform around d =
      (answer, d'))
    (fresh : d.FreshTo around d') :
    (answer.isOk = false ∧ Course user source Store.CreatesPort around d (answer, d')) ∨
      ∃ m e x y sourceId, Forwards user source around d port name m e x y ∧
        let issued := m.issue around ⟨user, sourceId, source⟩
          (.createRelationship e.id y.id TypeName.portDelegation)
        answer = (issued.1.map fun _ => e.id) ∧ d' = issued.2 := by
  have still : Still (target user port.portType name) := still_target _ _ _
  rcases (still around d).perform_bind _ with ⟨f, failed, ended⟩ | ⟨x, checked, went⟩
  · have ended : (createForward user source process ⟨port, some name⟩).perform around d =
        (.error f, d) := ended
    obtain ⟨rfl, rfl⟩ := Prod.mk.inj (performed.symm.trans ended)
    exact .inl ⟨rfl, .still _⟩
  · have went : (createForward user source process ⟨port, some name⟩).perform around d = _ := went
    rw [went, perform_bind] at performed
    have course : Course user source Store.CreatesPort around d
      ((createAlias user ⟨port, some name⟩ process source).perform around d) :=
      course_create port .alias process
    generalize created : (createAlias user ⟨port, some name⟩ process source).perform around d =
      result at course performed
    obtain ⟨first, m⟩ := result
    cases first with
    | error f =>
      obtain ⟨rfl, rfl⟩ := Prod.mk.inj performed
      exact .inl ⟨rfl, course⟩
    | ok id =>
      dsimp only at performed
      have linked : Course user source Store.LinksPort around m (answer, d') := by
        rw [← performed]
        exact (course_addDelegation id port.portType name).bind_pure fun _ => ⟨id, rfl⟩
      have first := (Desk.freshTo_trans course.continues linked.continues fresh).1
      obtain ⟨e, y, sourceId, rfl, forwards, issued⟩ :=
        forwards_of_created sound unique checked created first
      refine .inr ⟨m, e, x, y, sourceId, forwards, ?_⟩
      rw [perform_bind, issued] at performed
      generalize m.issue around ⟨user, sourceId, source⟩
        (.createRelationship e.id y.id TypeName.portDelegation) = result at performed ⊢
      obtain ⟨answered, after⟩ := result
      cases answered with
      | error f =>
        obtain ⟨rfl, rfl⟩ := Prod.mk.inj performed
        exact ⟨rfl, rfl⟩
      | ok told =>
        obtain ⟨rfl, rfl⟩ := Prod.mk.inj performed
        exact ⟨rfl, rfl⟩

/-- An outcome that is no failure is what the request answered. -/
theorem answered_of_applyAt {b : Backend} {request : Request} {outcome : Outcome}
    (applied : applyAt user source around b request = (outcome, d))
    (succeeded : outcome.isFailure = false) :
    (apply user source request).perform around ⟨b, []⟩ = (.ok outcome, d) := by
  rw [applyAt] at applied
  generalize (apply user source request).perform around ⟨b, []⟩ = result at applied ⊢
  obtain ⟨answer, after⟩ := result
  obtain ⟨rfl, rfl⟩ := Prod.mk.inj applied
  cases answer with
  | error e => cases succeeded
  | ok outcome => rfl

/-- Before the first call of a request the process is looked up. -/
theorem createForward_of_created {b : Backend} {process name : String} {port : Port} {id : EntityId}
    (created : applyAt user source around b (.createPort .alias process port (some name)) =
      (.created id, d)) :
    ∃ owner, (createForward user source owner ⟨port, some name⟩).perform around ⟨b, []⟩ =
      (.ok id, d) := by
  have performed := answered_of_applyAt created rfl
  obtain ⟨owner, _, rest⟩ :=
    (still_entityNamed TypeName.process process around _).bind_eq_ok performed
  obtain ⟨id', m, made, rest⟩ := perform_bind_eq_ok rest
  obtain ⟨same, rfl⟩ := Prod.mk.inj rest
  obtain rfl := Outcome.created.inj (Except.ok.inj same)
  exact ⟨owner.id, perform_mapError_eq_ok_iff.mp made⟩

/-- An alias that is created with a port to delegate to delegates once. That is to the port that was
checked, but for an alias of the very name that it delegates to. -/
theorem created_alias_delegates_once {b : Backend} (reached : b.store.Reached)
    {process name : String} {port : Port} {id : EntityId}
    (created : applyAt user source around b (.createPort .alias process port (some name)) =
      (.created id, d))
    (fresh : b.FreshRun (around.writesFrom 0 d.trace)) :
    ∃ x, (target user port.portType name).perform around ⟨b, []⟩ = (.ok x, ⟨b, []⟩) ∧
      ∃ rid r, d.store.relationships.get? rid = some r ∧
        r.typeName = TypeName.portDelegation ∧ r.end1 = id ∧
        (∀ k q, d.store.relationships.get? k = some q → q.typeName = TypeName.portDelegation →
          q.end1 = id → k = rid) ∧
        r.end2 = if port.qualifiedName = name then id else x.id := by
  obtain ⟨sound, unique⟩ := reached.sound
  obtain ⟨owner, made⟩ := createForward_of_created created
  rcases createForward_ends (d := ⟨b, []⟩) sound unique made (Desk.along_of_performed fresh) with
    ⟨failed, _⟩ | ⟨m, e, x, y, sourceId, forwards, answered, rfl⟩
  · cases failed
  refine ⟨x, forwards.checked, ?_⟩
  generalize issued : m.issue around ⟨user, sourceId, source⟩
    (.createRelationship e.id y.id TypeName.portDelegation) = result at answered ⊢
  obtain ⟨told, after⟩ := result
  cases told with
  | error f => cases answered
  | ok told =>
    obtain rfl : id = e.id := Except.ok.inj answered
    have done := Store.perform_eq_ok_iff.mpr (Desk.change_of_issue issued)
    have wanted := Store.perform_eq_ok_iff.mpr
      (forwards.change (around.stamp m.calls) ⟨user, sourceId, source⟩)
    have stored : after.store = _ := (Prod.mk.inj (Except.ok.inj (done.symm.trans wanted))).2
    dsimp only
    rw [stored]
    refine ⟨_, _, by rw [Store.get?_addRelationship, if_pos rfl], rfl, rfl,
      fun k q stored' typed starts => ?_, ?_⟩
    · rcases Store.get?_addRelationship_cases stored' with ⟨same, _⟩ | old
      · exact same
      · exact absurd starts (forwards.adds.not_delegating sound old typed)
    · simp only [Store.newRelationship, forwards.same]
      split <;> rfl

theorem reached_sample : Backend.sample.store.Reached := by
  let who : Caller := ⟨"steward", ⟨.zero⟩, "engine"⟩
  let named : Properties := .ofList [(PropertyName.qualifiedName, .text "p")]
  let owner : Ownership := ⟨⟨.ofParts 0 0⟩, TypeName.processPort⟩
  let process : Issued := ⟨.ofClock .epoch 0, who, .createEntity TypeName.process named none⟩
  let port : Issued := ⟨.ofClock .epoch 2, who,
    .createEntity TypeName.portImplementation (Port.plain "a" "a" .input).properties (some owner)⟩
  exact ⟨[process, port], by decide +kernel, by decide +kernel⟩

/-- An alias of another name delegates to the implementation that it names. -/
theorem created_alias_delegates_once_sample :
    let port : Port := .plain "b" "b" .input
    let id : EntityId := ⟨.ofParts 0 4⟩
    let d := (applyAt "steward" "engine" (.sample 4) .sample
      (.createPort .alias "p" port (some "a"))).2
    ∃ x, (target "steward" port.portType "a").perform (.sample 4) ⟨.sample, []⟩ =
        (.ok x, ⟨.sample, []⟩) ∧
      ∃ rid r, d.store.relationships.get? rid = some r ∧
        r.typeName = TypeName.portDelegation ∧ r.end1 = id ∧
        (∀ k q, d.store.relationships.get? k = some q → q.typeName = TypeName.portDelegation →
          q.end1 = id → k = rid) ∧
        r.end2 = if port.qualifiedName = "a" then id else x.id := by
  intro port id d
  have made : (applyAt "steward" "engine" (.sample 4) .sample
      (.createPort .alias "p" port (some "a"))).1 = .created id := by decide +kernel
  have created : applyAt "steward" "engine" (.sample 4) .sample
      (.createPort .alias "p" port (some "a")) = (.created id, d) := Prod.ext made rfl
  have fresh : Backend.sample.FreshRun ((Surroundings.sample 4).writesFrom 0 d.trace) := by
    decide +kernel
  exact created_alias_delegates_once reached_sample created fresh

/-- An alias of the name of an implementation, created to delegate to that name: the implementation
is what was checked, and the alias itself is what it delegates to. -/
theorem alias_of_its_target_delegates_to_itself :
    let request : Request := .createPort .alias "p" (.plain "a" "a" .input) (some "a")
    let result := request.applyAt "steward" "engine" (.sample 4) .sample
    let checked := (target "steward" .input "a").perform (.sample 4) ⟨.sample, []⟩
    Backend.sample.store.Reached ∧
      Backend.sample.FreshRun ((Surroundings.sample 4).writesFrom 0 result.2.trace) ∧
      result.1 = .created ⟨.ofParts 0 4⟩ ∧
      checked.1.map Entity.id = .ok ⟨.ofParts 0 2⟩ ∧
      (result.2.store.relationshipsOf TypeName.portDelegation).map (fun r => (r.end1, r.end2)) =
        [(⟨.ofParts 0 4⟩, ⟨.ofParts 0 4⟩)] := by
  exact ⟨reached_sample, by decide +kernel, by decide +kernel, by decide +kernel,
    by decide +kernel⟩

end Request

end LineagePorts
