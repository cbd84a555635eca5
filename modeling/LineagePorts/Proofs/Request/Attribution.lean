import LineagePorts.Proofs.Request.Settled

/-!
# Authorisation and attribution

No operation makes a call that the registry did not grant, and whatever an operation changes carries
the user and the source in whose name it was made. An operation that finds its work already done
asks for nothing and changes nothing.
-/

namespace LineagePorts

namespace Store

/-- What is new in the second store was created by the user for the source, and what has other
properties there was updated by them. -/
structure Attributed (user source : String) (s s' : Store) : Prop where
  entities : ∀ {id e}, s'.entities.get? id = some e → s.entities.get? id = none →
    e.createdBy = user ∧ e.externalSource = some source
  relationships : ∀ {id r}, s'.relationships.get? id = some r → s.relationships.get? id = none →
    r.createdBy = user ∧ r.externalSource = some source
  properties : ∀ {id e e'}, s.entities.get? id = some e → s'.entities.get? id = some e' →
    e'.properties ≠ e.properties → e'.updatedBy = some user ∧ e'.externalSource = some source

variable {user source : String} {s s' : Store}

theorem attributed_self (user source : String) (s : Store) : Attributed user source s s where
  entities stored absent := by simp [absent] at stored
  relationships stored absent := by simp [absent] at stored
  properties stored stored' differs := by simp_all

theorem attributed_putEntity {e : Entity} (fresh : s.entities.get? e.id = none)
    (created : e.createdBy = user) (origin : e.externalSource = some source) :
    Attributed user source s (s.putEntity e) where
  entities stored absent := by
    rcases get?_putEntity_cases stored with ⟨rfl, rfl⟩ | old
    · exact ⟨created, origin⟩
    · simp [absent] at old
  relationships := (attributed_self user source s).relationships
  properties old stored differs := by
    rcases get?_putEntity_cases stored with ⟨rfl, rfl⟩ | same
    · simp [fresh] at old
    · exact (attributed_self user source s).properties old same differs

theorem Attributed.addRelationship (attributed : Attributed user source s s') {r : Relationship}
    (created : r.createdBy = user) (origin : r.externalSource = some source) :
    Attributed user source s (s'.addRelationship r) where
  entities := attributed.entities
  relationships stored absent := by
    rcases get?_addRelationship_cases stored with ⟨rfl, rfl⟩ | old
    · exact ⟨created, origin⟩
    · exact attributed.relationships old absent
  properties := attributed.properties

theorem attributed_replace {id : EntityId} {e e' : Entity} (stored : s.entities.get? id = some e)
    (updated : e'.updatedBy = some user) (origin : e'.externalSource = some source) :
    Attributed user source s (s.replace id e') where
  entities {k f} found absent := by
    have other : id ≠ k := by
      rintro rfl
      simp [absent] at stored
    rw [get?_replace, if_neg other] at found
    simp [absent] at found
  relationships := (attributed_self user source s).relationships
  properties {k f f'} old found differs := by
    by_cases same : id = k
    · rw [get?_replace, if_pos same] at found
      obtain rfl := Option.some.inj found
      exact ⟨updated, origin⟩
    · rw [get?_replace, if_neg same] at found
      exact (attributed_self user source s).properties old found differs

theorem attributed_without (user source : String) (s : Store) (id : EntityId) :
    Attributed user source s (s.without id) where
  entities stored :=
    (attributed_self user source s).entities (entities_without_iff.mp stored).2
  relationships stored :=
    (attributed_self user source s).relationships (relationships_without_iff.mp stored).1
  properties old stored :=
    (attributed_self user source s).properties old (entities_without_iff.mp stored).2

/-- Whatever the law, an act is attributed to who makes it. -/
theorem Act.attributed {law : Store → Call → Prop} (act : s.Act user source law s') :
    Attributed user source s s' := by
  obtain ⟨lawful, fresh, change⟩ := act
  cases change with
  | create free => exact attributed_putEntity fresh.1 rfl rfl
  | createOwned free known owner owned =>
    refine Attributed.addRelationship ?_ rfl rfl
    exact attributed_putEntity fresh.1 rfl rfl
  | update stored free => exact attributed_replace stored rfl rfl
  | delete stored => exact attributed_without user source s _
  | link known starts finishes absent =>
    exact (attributed_self user source s).addRelationship rfl rfl
  | keep known starts finishes present => exact attributed_self user source s

/-- A link that was not there is a new relationship, and the entities are left alone. -/
theorem Act.linked (act : s.Act user source LinksPort s') :
    ∃ r : Relationship, s.relationships.get? r.id = none ∧ r.createdBy = user ∧
      r.externalSource = some source ∧ s' = s.addRelationship r := by
  obtain @⟨stamp, id, _, _, ⟨start, finish, typed, absent⟩, fresh, change⟩ := act
  cases change with
  | @link _ _ _ type known starts finishes _ =>
    exact ⟨newRelationship stamp ⟨user, id, source⟩ type start finish, fresh, rfl, rfl, rfl⟩
  | keep known starts finishes present =>
    rw [RelationshipType.name_of_find? known, absent] at present
    cases present

theorem Attributed.link {m : Store} (attributed : Attributed user source s m)
    (act : m.Act user source LinksPort s') : Attributed user source s s' := by
  obtain ⟨r, _, created, origin, rfl⟩ := act.linked
  exact attributed.addRelationship created origin

theorem putEntity_ne {e : Entity} (fresh : s.entities.get? e.id = none) :
    (s.putEntity e).entities ≠ s.entities := by
  intro same
  have stored := get?_putEntity s e e.id
  rw [same, fresh] at stored
  simp at stored

theorem addRelationship_ne {r : Relationship} (fresh : s.relationships.get? r.id = none) :
    s.addRelationship r ≠ s := by
  intro same
  have stored := get?_addRelationship s r r.id
  rw [same, fresh] at stored
  simp at stored

theorem Act.created_ne (act : s.Act user source CreatesPort s') : s'.entities ≠ s.entities := by
  obtain ⟨⟨kind, port, process, _, _⟩, fresh, change⟩ := act
  cases change with
  | createOwned free known owner owned => exact putEntity_ne fresh.1

/-- A permitted act is seen in the store. -/
theorem Act.ne (act : s.Act user source Permits s') : s' ≠ s := by
  obtain @⟨stamp, sourceId, _, _, lawful, fresh, change⟩ := act
  cases lawful with
  | plain properties typed =>
    cases change with
    | create free => exact fun same => putEntity_ne fresh.1 (congrArg Store.entities same)
  | create creates =>
    exact fun same => Act.created_ne ⟨creates, fresh, change⟩ (congrArg Store.entities same)
  | update id kind port displayed named =>
    generalize kind.typeName = typeName at change fresh
    cases change with
    | @update _ _ e stored free =>
      intro same
      have found := get?_replace s id id
        (updatedEntity stamp ⟨user, sourceId, source⟩ port.properties e)
      rw [same, stored, if_pos rfl] at found
      have version : e.version = e.version + 1 := congrArg Entity.version (Option.some.inj found)
      simp at version
  | @delete e kind stored typed =>
    cases change with
    | delete found =>
      intro same
      rw [← same] at found
      exact (entities_without_iff.mp found).1 rfl
  | link links =>
    obtain ⟨r, fresh, _, _, rfl⟩ := Act.linked ⟨links, fresh, change⟩
    exact addRelationship_ne fresh

end Store

/-- Each call is made by the user for the source, right after the registry granted it. -/
def Vouched (registry : Registry) (user source : String) (events : List Event) : Prop :=
  ∀ before who call after, events = before ++ .called who call :: after →
    before.getLast? = some (.resolved user source true) ∧
      who.user = user ∧ who.source.qualifiedName = source ∧
        registry.resolve user source = .ok who.source.id

section Vouched

variable {registry : Registry} {user source : String}

theorem vouched_nil : Vouched registry user source [] := by
  intro before who call after split
  simp at split

theorem vouched_denied : Vouched registry user source [.resolved user source false] := by
  intro before who call after split
  simp [List.cons_eq_append_iff] at split

theorem vouched_granted {id : SourceId} (granted : registry.resolve user source = .ok id)
    (call : Store.Call) :
    Vouched registry user source [.resolved user source true, .called ⟨user, id, source⟩ call] := by
  intro before who call' after split
  match before with
  | [] => simp at split
  | [e] =>
    obtain ⟨rfl, ⟨rfl, rfl⟩, rfl⟩ : .resolved user source true = e ∧
        (⟨user, id, source⟩ = who ∧ call = call') ∧ after = [] := by
      simpa using split
    exact ⟨rfl, rfl, rfl, granted⟩
  | _ :: _ :: _ => simp at split

theorem Vouched.append {es fs : List Event} (first : Vouched registry user source es)
    (second : Vouched registry user source fs) : Vouched registry user source (es ++ fs) := by
  intro before who call after split
  rcases List.append_eq_append_iff.mp split with ⟨rest, rfl, later⟩ | ⟨rest, rfl, later⟩
  · obtain ⟨asked, made⟩ := second rest who call after later
    refine ⟨?_, made⟩
    rw [List.getLast?_append, asked]
    rfl
  · cases rest with
    | nil =>
      obtain ⟨asked, _⟩ := second [] who call after later.symm
      cases asked
    | cons e rest =>
      obtain ⟨rfl, _⟩ := List.cons.inj later
      exact first before who call rest rfl

end Vouched

section Trace

variable {user source : String} {law : Store → Store.Call → Prop} {around : Surroundings}
  {d : Desk} {ε α : Type}

theorem Course.vouched {result : Except ε α × Desk}
    (course : Course user source law around d result)
    (start : Vouched around.registry user source d.trace) :
    Vouched around.registry user source result.2.trace := by
  cases course with
  | still answer => exact start
  | denied refused => exact start.append vouched_denied
  | @called id call answer granted lawful told => exact start.append (vouched_granted granted call)

theorem Conduct.vouched {result : Except ε α × Desk}
    (conduct : Conduct user source around d result)
    (start : Vouched around.registry user source d.trace) :
    Vouched around.registry user source result.2.trace := by
  cases conduct with
  | single course => exact course.vouched start
  | double created linked => exact linked.vouched (created.vouched start)

theorem Course.backend_of_refused {result : Except ε α × Desk}
    (course : Course user source law around d result) {cause : Failure}
    (refused : around.registry.resolve user source = .error cause) :
    result.2.backend = d.backend := by
  cases course with
  | still answer => rfl
  | denied refused => rfl
  | called granted lawful told =>
    rw [refused] at granted
    cases granted

theorem Conduct.backend_of_refused {result : Except ε α × Desk}
    (conduct : Conduct user source around d result) {cause : Failure}
    (refused : around.registry.resolve user source = .error cause) :
    result.2.backend = d.backend := by
  cases conduct with
  | single course => exact course.backend_of_refused refused
  | double created linked =>
    exact (linked.backend_of_refused refused).trans (created.backend_of_refused refused)

theorem Conduct.attributed {answer : Except ε α} {after : Desk}
    (conduct : Conduct user source around d (answer, after)) (fresh : d.FreshTo around after) :
    Store.Attributed user source d.store after.store := by
  rcases conduct.effect fresh with ⟨same, _⟩ | act | ⟨s, created, linked⟩
  · rw [same]
    exact Store.attributed_self user source d.store
  · exact act.attributed
  · exact created.attributed.link linked

/-- An operation that answers and leaves the store as it was did nothing at all. -/
theorem Conduct.idle {answer : Except ε α} {after : Desk}
    (conduct : Conduct user source around d (answer, after)) (fresh : d.FreshTo around after)
    (ok : answer.isOk = true) (same : after.store = d.store) : after = d := by
  rcases conduct.effect fresh with ⟨_, idle⟩ | act | ⟨s, created, linked⟩
  · exact idle ok
  · exact absurd same act.ne
  · obtain ⟨r, _, _, _, after_eq⟩ := linked.linked
    have entities : s.entities = d.store.entities := by
      rw [← same, after_eq]
      rfl
    exact absurd entities created.created_ne

end Trace

/-- Whoever performs an operation on whatever store: without the grant of the registry the store is
left alone; each call follows a grant to the same user for the same source; what is new or has other
properties carries both; and an operation that leaves the store as it was, since its work was done
already, asks the registry for nothing and makes no call. -/
theorem changes_granted_and_attributed {user source : String} {ε α : Type} {op : Operation ε α}
    (service : Service user source op) (b : Backend) (around : Surroundings) :
    let result := op.perform around ⟨b, []⟩
    let fresh := b.FreshRun (around.writesFrom 0 result.2.trace)
    (∀ cause, around.registry.resolve user source = .error cause → result.2.backend = b) ∧
      Vouched around.registry user source result.2.trace ∧
      (fresh → Store.Attributed user source b.store result.2.store) ∧
      (fresh → result.1.isOk = true → result.2.store = b.store → result.2 = ⟨b, []⟩) ∧
      (Settled b.store user source op → result.2 = ⟨b, []⟩) := by
  have conduct := service.conduct around ⟨b, []⟩
  refine ⟨fun _ => conduct.backend_of_refused, conduct.vouched vouched_nil, fun fresh => ?_,
    fun fresh => ?_, fun settled => Settled.idle (d := ⟨b, []⟩) settled around⟩
  · exact conduct.attributed (Desk.along_of_performed fresh)
  · exact conduct.idle (Desk.along_of_performed fresh)

/-- An alias that delegates is made by two calls, and each was granted. Another user gets nowhere,
and to remove a port that is not there takes no grant. -/
theorem changes_granted_and_attributed_sample :
    let request : Request := .createPort .alias "p" (.plain "b" "b" .input) (some "a")
    let made := (request.apply "steward" "engine").perform (.sample 4) ⟨.sample, []⟩
    let tried := (request.apply "guest" "engine").perform (.sample 4) ⟨.sample, []⟩
    let spared := (PortOperation.remove "guest" "b" "engine").perform (.sample 4) ⟨.sample, []⟩
    (made.2.calls = 2 ∧ Vouched (Surroundings.sample 4).registry "steward" "engine" made.2.trace ∧
      Store.Attributed "steward" "engine" Backend.sample.store made.2.store) ∧
      tried.2.backend = .sample ∧ spared.2 = ⟨.sample, []⟩ := by
  intro request made tried spared
  have forSteward := changes_granted_and_attributed
    (.request request : Service "steward" "engine" _) .sample (.sample 4)
  have forGuest := changes_granted_and_attributed
    (.request request : Service "guest" "engine" _) .sample (.sample 4)
  have removal := changes_granted_and_attributed
    (.remove "b" : Service "guest" "engine" _) .sample (.sample 4)
  have calls : made.2.calls = 2 := by decide +kernel
  have fresh : Backend.sample.FreshRun ((Surroundings.sample 4).writesFrom 0 made.2.trace) := by
    decide +kernel
  have refusal : (Surroundings.sample 4).registry.resolve "guest" "engine" =
      .error (.userNotAuthorized "guest" "act on behalf of external source engine") := by
    decide +kernel
  have absent : Backend.sample.store.portNamed? "b" = none := by decide +kernel
  exact ⟨⟨calls, forSteward.2.1, forSteward.2.2.1 fresh⟩, forGuest.1 _ refusal,
    removal.2.2.2.2 (.remove absent)⟩

end LineagePorts
