import LineagePorts.CommandLine.Program
import LineagePorts.Proofs.Request.Removal
import LineagePorts.Proofs.Store.History

/-!
# What a created outcome identifies

A request that answers with an identifier has created an entity: its first call answered with that
identifier, and the entity has the type, the name and the properties that the request asks for. An alias
may be linked by a second call, which leaves the new entity alone. The text of the identifier in the
outcome is read back as that identifier, so that a look at the store afterwards shows this entity. No
identifier has to be fresh for that; only what happens to the entity later depends on it.
-/

namespace LineagePorts

namespace Desk

/-- The calls on the way from one desk to another have done this, and the disk refused none of them. -/
def Does (around : Surroundings) (d after : Desk) (ds : List Store.Deed) : Prop :=
  ∃ added, after.trace = d.trace ++ added ∧
    d.store.deeds (around.issuedFrom d.calls added) = ds ∧
    after.store = d.store.run (around.issuedFrom d.calls added)

variable {around : Surroundings} {d middle after : Desk} {ds ds' : List Store.Deed}

theorem does_self (around : Surroundings) (d : Desk) : d.Does around d [] :=
  ⟨[], (List.append_nil _).symm, rfl, rfl⟩

theorem does_of_issue {who : Caller} {call : Store.Call} {answer : Store.Answer}
    (issued : d.issue around who call = (.ok answer, after)) :
    d.Does around after [⟨⟨around.stamp d.calls, who, call⟩, answer⟩] := by
  have made := Store.perform_eq_ok_iff.mpr (change_of_issue issued)
  refine ⟨[.resolved who.user who.source.qualifiedName true, .called who call], ?_, ?_, ?_⟩
  · exact (congrArg (·.2.trace) issued).symm
  · show Store.deeds d.store [⟨around.stamp d.calls, who, call⟩] = _
    simp only [Store.deeds, made]
  · show after.store = Store.run d.store [⟨around.stamp d.calls, who, call⟩]
    rw [Store.run_cons, Store.after, Store.afterCall, made]
    rfl

theorem Does.trans (first : d.Does around middle ds) (second : middle.Does around after ds') :
    d.Does around after (ds ++ ds') := by
  obtain ⟨added, traced, rfl, left⟩ := first
  obtain ⟨more, traced', rfl, left'⟩ := second
  have counted : middle.calls = d.calls + added.countP Event.isCall := by
    rw [calls, traced, List.countP_append]
    rfl
  have whole : around.issuedFrom d.calls (added ++ more) =
      around.issuedFrom d.calls added ++ around.issuedFrom middle.calls more := by
    rw [← Surroundings.map_writesFrom, Surroundings.writesFrom_append, List.map_append,
      Surroundings.map_writesFrom, Surroundings.map_writesFrom, counted]
  refine ⟨added ++ more, ?_, ?_, ?_⟩
  · rw [traced', traced, List.append_assoc]
  · rw [whole, Store.deeds_append, left]
  · rw [whole, Store.run_append, ← left, left']

end Desk

/-- A course that succeeds does what its law allows or nothing. -/
theorem Course.does_of_ok {user source : String} {law : Store → Store.Call → Prop}
    {around : Surroundings} {d after : Desk} {ε α : Type} {a : α}
    (course : Course user source law around d ((.ok a : Except ε α), after)) :
    ∃ ds, d.Does around after ds ∧ ∀ x ∈ ds, law d.store x.issued.call := by
  cases course with
  | still => exact ⟨[], d.does_self around, fun _ mem => nomatch mem⟩
  | @called id call _ granted lawful told =>
    generalize issued : d.issue around ⟨user, id, source⟩ call = result at told ⊢
    obtain ⟨answered, after⟩ := result
    cases answered with
    | error e => cases told
    | ok answer =>
      refine ⟨_, Desk.does_of_issue issued, fun x mem => ?_⟩
      obtain rfl := List.mem_singleton.mp mem
      exact lawful

namespace Request

/-- The request asks for an entity of this type and name, and with these properties. -/
inductive AsksFor : Request → String → String → Properties → Prop where
  | process (name : String) : AsksFor (.createProcess name) TypeName.process name (.ofName name)
  | schemaType (name : String) :
      AsksFor (.createSchemaType name) TypeName.schemaType name (.ofName name)
  | port (kind : PortKind) (process : String) (port : Port) (delegatesTo : Option String) :
      AsksFor (.createPort kind process port delegatesTo) kind.typeName port.qualifiedName
        port.properties

theorem AsksFor.qualifiedName? {request : Request} {typeName name : String}
    {properties : Properties} (asks : request.AsksFor typeName name properties) :
    properties.qualifiedName? = some name := by
  cases asks with
  | process name => exact Properties.qualifiedName?_ofName name
  | schemaType name => exact Properties.qualifiedName?_ofName name
  | port kind process port delegatesTo => exact port.qualifiedName?_properties

theorem Makes.asksFor {user typeName : String} {s : Store} {request : Request}
    {properties : Properties} {owner : Option Ownership}
    (makes : request.Makes user s (.createEntity typeName properties owner)) :
    ∃ name, request.AsksFor typeName name properties := by
  cases makes with
  | process name => exact ⟨_, .process name⟩
  | schemaType name => exact ⟨_, .schemaType name⟩
  | port owned displayed named => exact ⟨_, .port _ _ _ _⟩

end Request

/-- Links leave entities alone. -/
theorem Store.foldl_leaves_links {ds : List Store.Deed} {id : EntityId}
    (links : ∀ d ∈ ds, Request.LinksFrom id d.issued.call) (g : EntityId)
    (record : Option Entity) : ds.foldl (Store.Deed.leaves g) record = record := by
  induction ds generalizing record with
  | nil => rfl
  | cons d ds ih =>
    obtain ⟨⟨finish, typeName, call⟩, rest⟩ := List.forall_mem_cons.mp links
    have same : Store.Deed.leaves g record d = record := by rw [Store.Deed.leaves, call]
    rw [List.foldl_cons, same, ih rest]

namespace Submission

/-- The calls of the request, whatever the disk does. -/
def issued (q : Submission) (b : Backend) : List Issued := (q.writes b).map Prod.snd

/-- The request created the entity, under this identifier. -/
structure Creates (q : Submission) (b : Backend) (g : EntityId) (e : Entity) : Prop where
  asked : ∃ name, q.request.AsksFor e.typeName name e.properties ∧ e.qualifiedName? = some name
  creator : e.createdBy = q.user
  /-- The first call of the request answered with the identifier, and nothing updated or deleted the
  entity since. -/
  answered : ∃ creation later owner, b.store.deeds (q.issued b) = creation :: later ∧
    creation.issued.call = .createEntity e.typeName e.properties owner ∧
    creation.answer = .entity g ∧ e.Tells creation.issued e.typeName e.properties [] ∧
    ∀ d ∈ later, Request.LinksFrom g d.issued.call
  left : (q.leaves b).store = b.store.run (q.issued b)
  stored : (q.leaves b).store.entities.get? g = some e

theorem creates_of_outcome {q : Submission} {b : Backend} {g : EntityId}
    (created : q.outcome b = .created g) : ∃ e, q.Creates b g e := by
  have performed := Request.answered_of_applyAt (Prod.ext created rfl) rfl
  obtain ⟨typeName, properties, owner, sourceId, m, makes, issued, course⟩ :=
    Request.created_answers performed
  obtain ⟨name, asks⟩ := makes.asksFor
  obtain rfl : g = (q.around.stamp 0).entity :=
    Store.Answer.entity.inj (Desk.change_of_issue issued).answer_of_create
  let creation : Store.Deed :=
    ⟨⟨q.around.stamp 0, ⟨q.user, sourceId, q.source⟩, .createEntity typeName properties owner⟩,
      .entity (q.around.stamp 0).entity⟩
  obtain ⟨later, links, fromNew⟩ := course.does_of_ok
  obtain ⟨added, traced, deeds, left⟩ := (Desk.does_of_issue issued).trans links
  have made : q.issued b = q.around.issuedFrom 0 added := by
    rw [Submission.issued, writes, Surroundings.map_writesFrom, traced]
    rfl
  have deeds : b.store.deeds (q.issued b) = creation :: later := by
    rw [made]
    exact deeds
  have left : (q.leaves b).store = b.store.run (q.issued b) := by
    rw [made]
    exact left
  let e := Store.newEntity creation.issued.stamp creation.issued.caller typeName properties
  have stored : (q.leaves b).store.entities.get? e.id = some e := by
    rw [left, Store.get?_run, deeds, List.foldl_cons, Store.foldl_leaves_links fromNew]
    exact if_pos rfl
  exact ⟨e, ⟨name, asks, asks.qualifiedName?⟩, rfl,
    ⟨creation, later, owner, deeds, rfl, rfl, Entity.tells_new _ _ _, fromNew⟩, left, stored⟩

end Submission

/-- What is stored of an entity at every moment of a run follows from the calls so far, the text of its
identifier in an outcome is read back as that identifier, and a look at the store shows what is stored.
Whenever a request answers that it created an entity, the identifier in its outcome is the one that its
call took, and a look with that text shows the entity as it was asked for. -/
theorem identity_and_history (calls : List Issued)
    (distinct : ((Store.empty.deeds calls).filterMap Store.Deed.taken?).Nodup) (g : EntityId)
    (few : ((Store.empty.deeds calls).filterMap (Store.Deed.edition? g)).length < 2 ^ 64 - 1)
    {sofar : List Issued} (early : sofar <+: calls) :
    (Store.empty.run sofar).Follows (Store.empty.deeds sofar) g ∧
      (Outcome.created g).fields.lookup "guid" = some (.text g.text) ∧
      (∀ parameter action, Parameter.readId g.text parameter action = .ok g) ∧
      (∀ (session : CommandLine.Session) (disk : FileSystem),
        session.wired.backend.store = Store.empty.run sofar →
        CommandLine.get session g.text disk =
          match (Store.empty.run sofar).entities.get? g with
          | none => ⟨[], some (.noEntity g), disk⟩
          | some e => ⟨[Json.pretty e.toData], none, disk⟩) ∧
      ∀ (q : Submission) (b : Backend), q.outcome b = .created g →
        ∃ e, q.Creates b g e ∧ ∀ (session : CommandLine.Session) (disk : FileSystem),
          session.wired.backend = q.leaves b →
          CommandLine.get session g.text disk = ⟨[Json.pretty e.toData], none, disk⟩ := by
  obtain ⟨later, rfl⟩ := early
  rw [Store.deeds_append, List.filterMap_append] at distinct few
  rw [List.length_append] at few
  refine ⟨?follows, rfl, Parameter.readId_text g, ?get, ?created⟩
  case follows =>
    exact Store.follows_of_run (distinct.sublist (List.sublist_append_left _ _)) (by omega)
  case get =>
    intro session disk same
    cases stored : (Store.empty.run sofar).entities.get? g <;>
      simp [CommandLine.get, Parameter.readId_text, same, stored]
  case created =>
    intro q b created
    obtain ⟨e, creates⟩ := Submission.creates_of_outcome created
    refine ⟨e, creates, fun session disk same => ?_⟩
    simp [CommandLine.get, Parameter.readId_text, same, creates.stored]

/-- After the first alias got its new name, and after its end. And an alias that delegates to an
implementation is shown by the identifier that its creation answered. -/
theorem identity_and_history_sample :
    let creation := Submission.sample 4 (.createPort .alias "p" (.plain "b" "b" .input) (some "a"))
    let left := creation.leaves .sample
    let id : EntityId := ⟨.ofParts 0 4⟩
    ((Store.empty.deeds Store.sampleRun).filterMap Store.Deed.taken?).Nodup ∧
      ((Store.empty.deeds Store.sampleRun).filterMap
        (Store.Deed.edition? ⟨.ofParts 0 2⟩)).length < 2 ^ 64 - 1 ∧
      (Store.empty.run (Store.sampleRun.take 5)).Follows
        (Store.empty.deeds (Store.sampleRun.take 5)) ⟨.ofParts 0 2⟩ ∧
      (Store.empty.run Store.sampleRun).Follows (Store.empty.deeds Store.sampleRun)
        ⟨.ofParts 0 2⟩ ∧
      creation.outcome .sample = .created id ∧
      ∃ e, creation.Creates .sample id e ∧ e.qualifiedName? = some "b" ∧
        CommandLine.get ⟨⟨left, .empty⟩, "steward", "engine"⟩ id.text (.only "home") =
          ⟨[Json.pretty e.toData], none, .only "home"⟩ := by
  intro creation left id
  have distinct : ((Store.empty.deeds Store.sampleRun).filterMap Store.Deed.taken?).Nodup := by
    decide +kernel
  have few : ((Store.empty.deeds Store.sampleRun).filterMap
      (Store.Deed.edition? ⟨.ofParts 0 2⟩)).length < 2 ^ 64 - 1 := by decide +kernel
  have created : creation.outcome .sample = .created id := by decide +kernel
  obtain ⟨_, _, _, _, creates⟩ :=
    identity_and_history [] .nil id (by decide) (List.prefix_refl [])
  obtain ⟨e, isNew, shows⟩ := creates creation .sample created
  obtain ⟨name, asks, named⟩ := isNew.asked
  obtain rfl : name = "b" := by
    generalize e.typeName = typeName, e.properties = properties at asks
    cases asks
    rfl
  exact ⟨distinct, few,
    (identity_and_history Store.sampleRun distinct _ few (List.take_prefix 5 _)).1,
    (identity_and_history Store.sampleRun distinct _ few (List.prefix_refl _)).1,
    created, e, isNew, named, shows _ _ rfl⟩

end LineagePorts
