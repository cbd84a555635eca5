import LineagePorts.Proofs.Request.Ownership
import LineagePorts.Proofs.Request.Repetition

/-!
# The schema type of a port

The look for the schema type of a port tells exactly how many schema links the port has, and where the
only one leads. These links are what requests have made of the port since it was created: no other
request makes one, and none takes one away but with the port. So a port is found unless it was linked to
two schema types.
-/

namespace LineagePorts

/-- Operations and requests lead to what calls lead to. -/
theorem Backend.Served.reached {b : Backend} (served : b.Served) : b.store.Reached := by
  induction served with
  | start nothing => exact ⟨[], trivial, nothing⟩
  | step served service fresh ih =>
    exact (service.conduct _ _).keeps (fun reached act => reached.act act)
      (Desk.along_of_performed fresh) ih

namespace Store

namespace Schemas

variable {s : Store} {g : EntityId} {answer : Except Failure (Option Entity)}
  (schemas : s.Schemas g answer)

include schemas

theorem none_iff : answer = .ok none ↔ ∀ id r, ¬ s.SchemaAt id r g := by
  constructor
  · rintro rfl
    cases schemas with
    | without absent => exact absent
  · intro absent
    cases schemas with
    | without _ => rfl
    | one present only stored typed => exact absurd present (absent _ _)
    | several first second other => exact absurd first (absent _ _)

theorem some_iff : (∃ e, answer = .ok (some e)) ↔
    ∃ id r, s.SchemaAt id r g ∧ ∀ k q, s.SchemaAt k q g → k = id := by
  constructor
  · rintro ⟨e, rfl⟩
    cases schemas with
    | one present only stored typed => exact ⟨_, _, present, only⟩
  · rintro ⟨id, r, present, only⟩
    cases schemas with
    | without absent => exact absurd present (absent id r)
    | one _ _ stored typed => exact ⟨_, rfl⟩
    | several first second other =>
      exact absurd ((only _ _ first).trans (only _ _ second).symm) other

theorem error_iff : (∃ f, answer = .error f) ↔
    ∃ id r k q, s.SchemaAt id r g ∧ s.SchemaAt k q g ∧ id ≠ k := by
  constructor
  · rintro ⟨f, rfl⟩
    cases schemas with
    | several first second other => exact ⟨_, _, _, _, first, second, other⟩
  · rintro ⟨id, r, k, q, first, second, other⟩
    cases schemas with
    | without absent => exact absurd first (absent id r)
    | one present only stored typed =>
      exact absurd ((only id r first).trans (only k q second).symm) other
    | several _ _ _ => exact ⟨_, rfl⟩

/-- The schema type at the end of a link is not missed. -/
theorem error_eq {f : Failure} (told : answer = .error f) :
    f = .server (.severalRelationships g TypeName.portSchema) := by
  cases schemas with
  | without absent => cases told
  | one present only stored typed => cases told
  | several first second other => exact (Except.error.inj told).symm

theorem stored_of_some {e : Entity} (told : answer = .ok (some e)) {id : RelationshipId}
    {r : Relationship} (present : s.SchemaAt id r g) :
    s.entities.get? r.end2 = some e ∧ e.typeName = TypeName.schemaType := by
  cases schemas with
  | without absent => cases told
  | @one k q f present' only stored typed =>
    obtain rfl := Option.some.inj (Except.ok.inj told)
    obtain rfl := only id r present
    obtain rfl := Option.some.inj (present.1.symm.trans present'.1)
    exact ⟨stored, typed⟩
  | several first second other => cases told

end Schemas

/-- What is no port is refused before its links are followed. -/
theorem traverse_of_absent {s : Store} {g : EntityId} (absent : s.entities.get? g = none)
    (startType : String) (type : RelationshipType) :
    s.traverse g startType type = .error (.server (.entityNotFound g)) := by
  rw [traverse, typedEntity, entity, absent]
  rfl

theorem traverse_of_other {s : Store} {g : EntityId} {e : Entity}
    (stored : s.entities.get? g = some e) {startType : String}
    (other : TypeName.isA e.typeName startType = false) (type : RelationshipType) :
    s.traverse g startType type = .error (.server (.entityNotOfType g e.typeName startType)) := by
  rw [traverse, typedEntity, entity, stored]
  show (if _ then _ else _ : Except Failure Entity) >>= _ = _
  rw [other]
  rfl

/-- A schema link leads from the entity to the schema type of this name. -/
def HasSchema (s : Store) (g : EntityId) (name : String) : Prop :=
  ∃ far, s.Linked TypeName.portSchema g far ∧ s.Named far TypeName.schemaType name

theorem HasSchema.has {s : Store} (sound : s.Integrity) {g : EntityId} {name : String}
    (schema : s.HasSchema g name) : s.Has g := by
  obtain ⟨far, ⟨id, r, stored, _, rfl, _⟩, _⟩ := schema
  exact (sound.ends_stored stored).1

/-- Every schema link leads to a schema type that has a name. -/
def SchemasNamed (s : Store) : Prop :=
  ∀ start far, s.Linked TypeName.portSchema start far →
    ∃ name, s.Named far TypeName.schemaType name

/-- Two schema links at a port are links to two schema types, which have names of their own. -/
theorem two_schemas_iff {s : Store} (sound : s.Integrity) (unique : s.Unique)
    (named : s.SchemasNamed) {g : EntityId} (isPort : s.HasType g TypeName.port) :
    (∃ id r k q, s.SchemaAt id r g ∧ s.SchemaAt k q g ∧ id ≠ k) ↔
      ∃ name name', name ≠ name' ∧ s.HasSchema g name ∧ s.HasSchema g name' := by
  constructor
  · rintro ⟨id, r, k, q, first, second, other⟩
    have linked := first.linked_of_end1 (first.starts sound isPort)
    have linked' := second.linked_of_end1 (second.starts sound isPort)
    obtain ⟨name, has⟩ := named g r.end2 linked
    obtain ⟨name', has'⟩ := named g q.end2 linked'
    refine ⟨name, name', ?_, ⟨_, linked, has⟩, ⟨_, linked', has'⟩⟩
    rintro rfl
    exact first.far_ne sound unique isPort second other (has.id_unique unique has')
  · rintro ⟨name, name', other, ⟨far, ⟨id, r, stored, typed, starts, rfl⟩, has⟩,
      far', ⟨k, q, stored', typed', starts', rfl⟩, has'⟩
    refine ⟨id, r, k, q, ⟨stored, typed, .inl starts⟩, ⟨stored', typed', .inl starts'⟩, ?_⟩
    rintro rfl
    obtain rfl := Option.some.inj (stored.symm.trans stored')
    have same : (⟨TypeName.schemaType, name⟩ : TypedName) = ⟨TypeName.schemaType, name'⟩ :=
      has.name_unique has'
    exact other (TypedName.mk.inj same).2

end Store

namespace Request.Effect

variable {user : String} {s s' : Store} {request : Request} (effect : request.Effect user s s')

include effect

/-- Only a request for it makes a schema link. -/
theorem schemaLinks_cases {start far : EntityId} (linked : s'.Linked TypeName.portSchema start far) :
    s.Linked TypeName.portSchema start far ∨ ∃ port schemaType p t,
      request = .addSchema port schemaType ∧ s.portNamed? port = some p ∧
      s.findByName? schemaType TypeName.schemaType = some t ∧ start = p.id ∧ far = t.id := by
  have noOwner : TypeName.portSchema ≠ TypeName.processPort := by decide
  have noDelegation : TypeName.portSchema ≠ TypeName.portDelegation := by decide
  cases effect with
  | nothing request => exact .inl linked
  | process fresh => exact .inl linked
  | schemaType fresh => exact .inl linked
  | port unused =>
    rcases (Store.linked_addRelationship_iff unused.relationship).mp linked with old | ⟨other, _⟩
    · exact .inl old
    · exact absurd other noOwner
  | forward unused unused' =>
    rcases (Store.linked_addRelationship_iff unused').mp linked with linked | ⟨other, _⟩
    · rcases (Store.linked_addRelationship_iff unused.relationship).mp linked with old | ⟨other, _⟩
      · exact .inl old
      · exact absurd other noOwner
    · exact absurd other noDelegation
  | update updates => exact .inl linked
  | schema found typed unused =>
    rcases (Store.linked_addRelationship_iff unused).mp linked with old | ⟨_, starts, finishes⟩
    · exact .inl old
    · exact .inr ⟨_, _, _, _, rfl, found, typed, starts, finishes⟩
  | delegation found known unused =>
    rcases (Store.linked_addRelationship_iff unused).mp linked with old | ⟨other, _⟩
    · exact .inl old
    · exact absurd other noDelegation
  | remove removes => exact .inl (Store.linked_without_iff.mp linked).1

/-- A link stays as long as its ends do. -/
theorem linked_of_has {typeName : String} {start finish : EntityId}
    (linked : s.Linked typeName start finish) (first : s'.Has start) (second : s'.Has finish) :
    s'.Linked typeName start finish := by
  obtain ⟨id, r, stored, typed, rfl, rfl⟩ := linked
  have kept (nothing : ∀ f, ¬ request.Removes user s f) : s'.Linked typeName r.end1 r.end2 :=
    ⟨id, r, effect.relationships_kept stored fun f removes => absurd removes (nothing f), typed, rfl,
      rfl⟩
  cases request with
  | removePort name =>
    cases effect with
    | nothing request => exact ⟨id, r, stored, typed, rfl, rfl⟩
    | remove removes =>
      obtain ⟨e, first⟩ := first
      obtain ⟨e', second⟩ := second
      exact ⟨id, r, Store.relationships_without_iff.mpr ⟨stored,
        (Store.entities_without_iff.mp first).1, (Store.entities_without_iff.mp second).1⟩, typed,
        rfl, rfl⟩
  | _ => exact kept fun f removes => nomatch removes

variable (sound : s.Integrity) (unique : s.Unique)

include sound unique

/-- A schema type has its name for good. -/
theorem schemaType_named_iff {e : Entity} {id : EntityId} (stored : s.entities.get? id = some e)
    (typed : e.typeName = TypeName.schemaType) {name : String} :
    s'.Named id TypeName.schemaType name ↔ s.Named id TypeName.schemaType name := by
  have kept := effect.get?_kept sound unique stored (not_targets_of_schemaType stored typed)
  rw [Store.Named, Store.Named, kept, stored]

end Request.Effect

namespace Submission

/-- The request succeeds in linking the entity, a port that it finds by a name, to the schema type of
this name. -/
def LinksSchema (q : Submission) (b : Backend) (g : EntityId) (name : String) : Prop :=
  ∃ port p, q.request = .addSchema port name ∧ q.outcome b = .linked ∧
    b.store.portNamed? port = some p ∧ p.id = g

/-- The entity is stored all the time while the requests are made. -/
def Stays (g : EntityId) : Backend → List Submission → Prop
  | b, [] => b.store.Has g
  | b, q :: qs => b.store.Has g ∧ Stays g (q.leaves b) qs

/-- One of the requests has linked the entity to the schema type of this name, and since then it was
stored all the time. -/
def LinkedSince (g : EntityId) (name : String) : Backend → List Submission → Prop
  | _, [] => False
  | b, q :: qs => (q.LinksSchema b g name ∧ Stays g (q.leaves b) qs) ∨
      LinkedSince g name (q.leaves b) qs

variable {b : Backend} {g : EntityId} {name : String}

theorem Stays.has {qs : List Submission} (stays : Stays g b qs) : b.store.Has g := by
  cases qs with
  | nil => exact stays
  | cons q qs => exact stays.1

/-- A request to add a schema type answers that it did, or it leaves everything as it was. -/
theorem linked_or_kept {q : Submission} {port schemaType : String}
    (request : q.request = .addSchema port schemaType) :
    q.outcome b = .linked ∨ (q.leaves b).store = b.store := by
  obtain ⟨user, source, around, made⟩ := q
  obtain rfl : made = .addSchema port schemaType := request
  have course : Course user source (fun s => (Request.addSchema port schemaType).Makes user s) around
      ⟨b, []⟩ (((Request.addSchema port schemaType).apply user source).perform around ⟨b, []⟩) :=
    Request.course_makes _ rfl
  rw [outcome, leaves, Request.applyAt]
  generalize performed : ((Request.addSchema port schemaType).apply user source).perform around
    ⟨b, []⟩ = result at course
  obtain ⟨answer, d⟩ := result
  cases answer with
  | error e => exact .inr course.store_of_error
  | ok told => exact .inl (Request.addSchema_answers performed).1

section Step

variable {q : Submission} (reached : b.store.Reached) (fresh : b.FreshRun (q.writes b))

include reached fresh

/-- After a request a port has the schema types that it had, and the one that the request links it to. -/
theorem hasSchema_leaves_iff : (q.leaves b).store.HasSchema g name ↔
    (q.LinksSchema b g name ∨ b.store.HasSchema g name) ∧ (q.leaves b).store.Has g := by
  obtain ⟨sound, unique⟩ := reached.sound
  obtain ⟨sound', unique'⟩ := (reached_of_fresh reached fresh).sound
  have effect := effect reached q fresh
  constructor
  · intro schema
    refine ⟨?_, schema.has sound'⟩
    obtain ⟨far, linked, named⟩ := schema
    have old (linked : b.store.Linked TypeName.portSchema g far) : b.store.HasSchema g name := by
      obtain ⟨e, stored, typed⟩ := linked.schemaType sound
      exact ⟨far, linked, (effect.schemaType_named_iff sound unique stored typed).mp named⟩
    rcases effect.schemaLinks_cases linked with linked | ⟨port, schemaType, p, t, isRequest, found,
      known, rfl, rfl⟩
    · exact .inr (old linked)
    · rcases linked_or_kept isRequest with answered | same
      · obtain ⟨stored, typed, isName⟩ := (Store.findByName?_eq_some_iff sound unique).mp known
        obtain ⟨t', stored', _, isName'⟩ :=
          (effect.schemaType_named_iff sound unique stored typed).mp named
        obtain rfl := Option.some.inj (stored.symm.trans stored')
        obtain rfl := Option.some.inj (isName.symm.trans isName')
        exact .inl ⟨port, p, isRequest, answered, found, rfl⟩
      · rw [same] at linked
        exact .inr (old linked)
  · rintro ⟨⟨port, p, isRequest, answered, found, rfl⟩ | ⟨far, linked, named⟩, has⟩
    · obtain ⟨user, source, around, made⟩ := q
      obtain rfl : made = .addSchema port name := isRequest
      have performed := Request.answered_of_applyAt (Prod.ext answered rfl) rfl
      obtain ⟨_, p', t, _, found', known, linked⟩ := Request.addSchema_answers performed
      obtain ⟨entities, linked⟩ :=
        PortOperation.link_answers linked (Desk.along_of_performed fresh)
      obtain rfl : p = p' := Option.some.inj (found.symm.trans found')
      obtain ⟨stored, typed, named⟩ := (Store.findByName?_eq_some_iff sound unique).mp known
      refine ⟨t.id, linked, t, ?_, typed, named⟩
      rw [← stored]
      exact congrArg (fun entities => entities.get? t.id) entities
    · obtain ⟨e, stored, typed⟩ := linked.schemaType sound
      have kept := effect.get?_kept sound unique stored
        (Request.not_targets_of_schemaType stored typed)
      exact ⟨far, effect.linked_of_has linked has ⟨e, kept⟩,
        (effect.schemaType_named_iff sound unique stored typed).mpr named⟩

/-- What schema links lead to has a name, since it was found by it. -/
theorem schemasNamed_leaves (named : b.store.SchemasNamed) : (q.leaves b).store.SchemasNamed := by
  intro start far linked
  obtain ⟨sound, unique⟩ := reached.sound
  have effect := effect reached q fresh
  rcases effect.schemaLinks_cases linked with old | ⟨_, schemaType, _, t, _, _, known, _, rfl⟩
  · obtain ⟨e, stored, typed⟩ := old.schemaType sound
    obtain ⟨name, isName⟩ := named start far old
    exact ⟨name, (effect.schemaType_named_iff sound unique stored typed).mpr isName⟩
  · obtain ⟨stored, typed, isName⟩ := (Store.findByName?_eq_some_iff sound unique).mp known
    exact ⟨schemaType, (effect.schemaType_named_iff sound unique stored typed).mpr
      ⟨t, stored, typed, isName⟩⟩

end Step

section Run

variable {qs : List Submission}

theorem hasSchema_leavesAll_iff (reached : b.store.Reached) (fresh : FreshAll b qs) :
    (leavesAll b qs).store.HasSchema g name ↔
      LinkedSince g name b qs ∨ (b.store.HasSchema g name ∧ Stays g b qs) := by
  induction qs generalizing b with
  | nil =>
    have has : b.store.HasSchema g name → b.store.Has g := fun schema => schema.has reached.sound.1
    show b.store.HasSchema g name ↔ False ∨ (b.store.HasSchema g name ∧ b.store.Has g)
    tauto
  | cons q qs ih =>
    have has : b.store.HasSchema g name → b.store.Has g := fun schema => schema.has reached.sound.1
    have stays : Stays g (q.leaves b) qs → (q.leaves b).store.Has g := Stays.has
    have step : (q.leaves b).store.HasSchema g name ↔ _ := hasSchema_leaves_iff reached fresh.1
    have ih := ih (reached_of_fresh reached fresh.1) fresh.2
    rw [step] at ih
    show (leavesAll (q.leaves b) qs).store.HasSchema g name ↔
      ((q.LinksSchema b g name ∧ Stays g (q.leaves b) qs) ∨ LinkedSince g name (q.leaves b) qs) ∨
        (b.store.HasSchema g name ∧ b.store.Has g ∧ Stays g (q.leaves b) qs)
    tauto

theorem schemasNamed_leavesAll (reached : b.store.Reached) (fresh : FreshAll b qs)
    (named : b.store.SchemasNamed) : (leavesAll b qs).store.SchemasNamed := by
  induction qs generalizing b with
  | nil => exact named
  | cons q qs ih =>
    exact ih (reached_of_fresh reached fresh.1) fresh.2 (schemasNamed_leaves reached fresh.1 named)

theorem served_leavesAll (served : b.Served) (fresh : FreshAll b qs) : (leavesAll b qs).Served := by
  induction qs generalizing b with
  | nil => exact served
  | cons q qs ih => exact ih (.step served (.request q.request) fresh.1) fresh.2

end Run

/-- A request to find a port fails where the look for its schema type does. -/
theorem fails_iff_of_finds {q : Submission} (asks : q.request = .findPort name)
    (userNotBlank : Text.isBlank q.user = false) (notBlank : Text.isBlank name = false) {p : Entity}
    (found : b.store.portNamed? name = some p) :
    (q.outcome b).isFailure = true ↔
      ∃ f, b.store.traverse p.id TypeName.port .portSchema = .error f := by
  obtain ⟨user, source, around, request⟩ := q
  obtain rfl : request = .findPort name := asks
  have known : (Desk.mk b []).store.portNamed? name = some p := found
  have outcome : outcome ⟨user, source, around, .findPort name⟩ b =
      .ofAnswer ((Request.onPorts (Request.describePort user name)).perform around ⟨b, []⟩).1 := rfl
  rw [outcome, Request.onPorts, Operation.perform_mapError, Request.describePort,
    Operation.perform_bind, PortOperation.perform_find userNotBlank, notBlank,
    if_neg Bool.false_ne_true, known]
  dsimp only
  rw [Operation.perform_bind, PortOperation.perform_schemaType userNotBlank, Desk.store]
  cases b.store.traverse p.id TypeName.port .portSchema with
  | error f => exact ⟨fun _ => ⟨f, rfl⟩, fun _ => rfl⟩
  | ok told =>
    constructor
    · intro failed
      cases failed
    · rintro ⟨f, refused⟩
      cases refused

/-- Over runs of requests from the empty store, a port is found unless it was linked to two schema types
since it was created. -/
theorem fails_iff_linked_twice {qs : List Submission} (nothing : b.store = .empty)
    (fresh : FreshAll b qs) {q : Submission} {p : Entity} (asks : q.request = .findPort name)
    (notBlank : Text.isBlank q.user = false) (stands : (leavesAll b qs).store.StandsFor name p) :
    (q.outcome (leavesAll b qs)).isFailure = true ↔
      ∃ t t', t ≠ t' ∧ LinkedSince p.id t b qs ∧ LinkedSince p.id t' b qs := by
  have served := served_leavesAll (.start nothing) fresh
  have reached : b.store.Reached := Backend.Served.reached (.start nothing)
  obtain ⟨sound, unique⟩ := served.reached.sound
  have found := (Store.portNamed?_eq_some_iff sound unique).mpr stands
  have unlinked (start far : EntityId) : ¬ b.store.Linked TypeName.portSchema start far := by
    rw [nothing]
    rintro ⟨id, r, stored, _⟩
    cases stored
  have nameNotBlank : Text.isBlank name = false := by
    obtain ⟨kind, e, stored, typed, isName⟩ := stands.named
    obtain ⟨port, properties, _, notBlank⟩ := served.portsInOrder.2.readable kind stored typed
    rw [Entity.qualifiedName?_of_port properties] at isName
    rw [← Option.some.inj isName]
    exact notBlank
  have since (t : String) : (leavesAll b qs).store.HasSchema p.id t ↔ LinkedSince p.id t b qs := by
    rw [hasSchema_leavesAll_iff reached fresh, or_iff_left]
    rintro ⟨⟨far, linked, _⟩, _⟩
    exact unlinked _ _ linked
  have named := schemasNamed_leavesAll reached fresh fun start far linked =>
    absurd linked (unlinked start far)
  rw [fails_iff_of_finds asks notBlank nameNotBlank found,
    (Store.schemas_traverse sound unique stands.hasType).error_iff,
    Store.two_schemas_iff sound unique named stands.hasType]
  simp only [since]

open PortOperation in
/-- In a sound store, the look for the schema type of what is no port is refused. Of a port it tells that
there is none, or the one at the end of the only link, which starts at the port, or that there are several
links, and nothing else. Over runs of requests from the empty store, the request to find a port fails if
and only if that port was linked to two schema types since it was created. -/
theorem schema_lookup_exact :
    (∀ (d : Desk) (around : Surroundings) (user : String) (g : EntityId),
      d.store.Reached → Text.isBlank user = false →
      let s := d.store
      let found := (schemaType user g).perform around d
      found.2 = d ∧
      (s.entities.get? g = none → found.1 = .error (.server (.entityNotFound g))) ∧
      (∀ e, s.entities.get? g = some e → TypeName.isA e.typeName TypeName.port = false →
        found.1 = .error (.server (.entityNotOfType g e.typeName TypeName.port))) ∧
      (s.HasType g TypeName.port →
        (found.1 = .ok none ↔ ∀ id r, ¬ s.SchemaAt id r g) ∧
        ((∃ e, found.1 = .ok (some e)) ↔
          ∃ id r, s.SchemaAt id r g ∧ ∀ k q, s.SchemaAt k q g → k = id) ∧
        (∀ e id r, found.1 = .ok (some e) → s.SchemaAt id r g →
          r.end1 = g ∧ s.entities.get? r.end2 = some e ∧ e.typeName = TypeName.schemaType) ∧
        ((∃ f, found.1 = .error f) ↔
          ∃ id r k q, s.SchemaAt id r g ∧ s.SchemaAt k q g ∧ id ≠ k) ∧
        ∀ f, found.1 = .error f → f = .server (.severalRelationships g TypeName.portSchema))) ∧
    ∀ (b : Backend) (qs : List Submission) (question : Submission) (name : String) (p : Entity),
      b.store = .empty → FreshAll b qs → question.request = .findPort name →
      Text.isBlank question.user = false → (leavesAll b qs).store.StandsFor name p →
      ((question.outcome (leavesAll b qs)).isFailure = true ↔
        ∃ t t', t ≠ t' ∧ LinkedSince p.id t b qs ∧ LinkedSince p.id t' b qs) := by
  constructor
  · intro d around user g reached notBlank s found
    obtain ⟨sound, unique⟩ := reached.sound
    have told : found = (s.traverse g TypeName.port .portSchema, d) := perform_schemaType notBlank g
    rw [told]
    refine ⟨rfl, fun absent => Store.traverse_of_absent absent _ _,
      fun e stored other => Store.traverse_of_other stored other _, fun isPort => ?_⟩
    have schemas := Store.schemas_traverse sound unique isPort
    refine ⟨schemas.none_iff, schemas.some_iff, fun e id r told present => ?_, schemas.error_iff,
      fun f => schemas.error_eq⟩
    exact ⟨present.starts sound isPort, schemas.stored_of_some told present⟩
  · intro b qs question name p nothing fresh asks notBlank stands
    exact fails_iff_linked_twice nothing fresh asks notBlank stands

/-- An implementation is linked to a schema type, which is found then, and to another one. After it was
removed and created again, it is linked to that other one and can be found. -/
theorem schema_lookup_exact_sample :
    let b : Backend := .memory .empty
    let create (first : Nat) : Submission :=
      sample first (.createPort .implementation "p" (.plain "a" "a" .input) none)
    let once := [sample 0 (.createProcess "p"), create 2, sample 6 (.createSchemaType "t"),
      sample 8 (.createSchemaType "u"), sample 10 (.addSchema "a" "t")]
    let twice := once ++ [sample 12 (.addSchema "a" "u")]
    let anew := twice ++ [sample 14 (.removePort "a"), create 16, sample 20 (.addSchema "a" "u")]
    let question := sample 22 (.findPort "a")
    let found := (PortOperation.schemaType "steward" ⟨.ofParts 0 2⟩).perform (.sample 22)
      ⟨leavesAll b once, []⟩
    (∃ e, found.1 = .ok (some e) ∧ e.typeName = TypeName.schemaType) ∧
      ((question.outcome (leavesAll b twice)).isFailure = true ∧
        ∃ t t', t ≠ t' ∧ LinkedSince ⟨.ofParts 0 2⟩ t b twice ∧
          LinkedSince ⟨.ofParts 0 2⟩ t' b twice) ∧
      (question.outcome (leavesAll b anew)).isFailure = false ∧
        ¬ ∃ t t', t ≠ t' ∧ LinkedSince ⟨.ofParts 0 16⟩ t b anew ∧
          LinkedSince ⟨.ofParts 0 16⟩ t' b anew := by
  intro b create once twice anew question found
  obtain ⟨exact, history⟩ := schema_lookup_exact
  have served (qs : List Submission) (fresh : FreshAll b qs) : (leavesAll b qs).Served :=
    served_leavesAll (.start rfl) fresh
  have look (qs : List Submission) (fresh : FreshAll b qs) (id : EntityId)
      (known : ((leavesAll b qs).store.portNamed? "a").map Entity.id = some id) :
      ∃ p, (leavesAll b qs).store.StandsFor "a" p ∧ p.id = id := by
    obtain ⟨sound, unique⟩ := (served qs fresh).reached.sound
    obtain ⟨p, known, same⟩ := Option.map_eq_some_iff.mp known
    exact ⟨p, (Store.portNamed?_eq_some_iff sound unique).mp known, same⟩
  have tells (qs : List Submission) (fresh : FreshAll b qs) (id : EntityId) :=
    exact ⟨leavesAll b qs, []⟩ (.sample 22) "steward" id (served qs fresh).reached (by decide)
  refine ⟨?first, ?second, by decide +kernel, ?third⟩
  case first =>
    obtain ⟨_, _, _, whole⟩ := tells once (by decide +kernel) ⟨.ofParts 0 2⟩
    obtain ⟨_, some_iff, leads, _⟩ := whole (by decide +kernel)
    have isSome : found.1.map Option.isSome = .ok true := by decide +kernel
    obtain ⟨told, answered, one⟩ := Except.map_eq_ok_iff.mp isSome
    obtain ⟨e, rfl⟩ := Option.isSome_iff_exists.mp one
    obtain ⟨id, r, present, _⟩ := some_iff.mp ⟨e, answered⟩
    exact ⟨e, answered, (leads e id r answered present).2.2⟩
  case second =>
    have fresh : FreshAll b twice := by decide +kernel
    obtain ⟨p, stands, same⟩ := look twice fresh ⟨.ofParts 0 2⟩ (by decide +kernel)
    have fails : (question.outcome (leavesAll b twice)).isFailure = true := by decide +kernel
    have linked := (history b twice question "a" p rfl fresh rfl (by decide) stands).mp fails
    rw [same] at linked
    exact ⟨fails, linked⟩
  case third =>
    have fresh : FreshAll b anew := by decide +kernel
    obtain ⟨p, stands, same⟩ := look anew fresh ⟨.ofParts 0 16⟩ (by decide +kernel)
    have succeeds : (question.outcome (leavesAll b anew)).isFailure = false := by decide +kernel
    have exact := history b anew question "a" p rfl fresh rfl (by decide) stands
    rw [same, succeeds] at exact
    exact fun linked => Bool.false_ne_true (exact.mpr linked)

end Submission

end LineagePorts
