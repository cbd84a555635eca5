import LineagePorts.Proofs.Operation.PortCourses

/-!
# Linking a port

A port is linked by a look for the link and then, if it is not there, by a call that makes it. Over a
sound store the two together answer and leave what the call alone does. In between others may make
calls: as long as they delete neither end, the link is there once in the end, whoever made it.
-/

namespace LineagePorts

namespace Backend

/-- What one call of a run does: the store stays as it was, or a rule changes it. -/
theorem after_cases (b : Backend) (c : Option SaveFault × Issued) :
    (b.after c).store = b.store ∨
      ∃ answer, (b.issue c.1 c.2).1 = .ok answer ∧
        Store.Change b.store c.2.stamp c.2.caller c.2.call answer (b.after c).store := by
  have ends := b.issue_ends c.1 c.2
  rw [after]
  generalize b.issue c.1 c.2 = result at ends ⊢
  cases ends with
  | refused refusal => exact .inl rfl
  | unsaved same accepted fails => exact .inl same
  | done change => exact .inr ⟨_, rfl, change⟩

/-- No call of a run succeeds in deleting the entity. -/
def Spares (id : EntityId) : Backend → List (Option SaveFault × Issued) → Prop
  | _, [] => True
  | b, c :: cs =>
    (c.2.call = .deleteEntity id → (b.issue c.1 c.2).1.isOk = false) ∧ Spares id (b.after c) cs

instance decidableSpares (id : EntityId) :
    (b : Backend) → (calls : List (Option SaveFault × Issued)) → Decidable (b.Spares id calls)
  | _, [] => inferInstanceAs (Decidable True)
  | b, c :: cs =>
    have := decidableSpares id (b.after c) cs
    inferInstanceAs (Decidable ((_ → _) ∧ _))

theorem reached_run {b : Backend} {calls : List (Option SaveFault × Issued)}
    (reached : b.store.Reached) (fresh : b.FreshRun calls) : (b.run calls).store.Reached := by
  induction calls generalizing b with
  | nil => exact reached
  | cons c cs ih =>
    refine ih ?_ fresh.2
    rcases b.after_cases c with same | ⟨answer, _, change⟩
    · rw [same]
      exact reached
    · exact reached.change fresh.1 change

/-- A link stays while its ends are spared. -/
theorem linked_run {b : Backend} {calls : List (Option SaveFault × Issued)} {typeName : String}
    {start finish : EntityId} (linked : b.store.Linked typeName start finish)
    (fresh : b.FreshRun calls) (first : b.Spares start calls) (second : b.Spares finish calls) :
    (b.run calls).store.Linked typeName start finish := by
  induction calls generalizing b with
  | nil => exact linked
  | cons c cs ih =>
    refine ih ?_ fresh.2 first.2 second.2
    rcases b.after_cases c with same | ⟨answer, done, change⟩
    · rw [same]
      exact linked
    · refine linked.change fresh.1 change ?_ ?_
      · intro deletes
        have failed := first.1 deletes
        rw [done] at failed
        cases failed
      · intro deletes
        have failed := second.1 deletes
        rw [done] at failed
        cases failed

end Backend

/-- Others make calls while an operation is under way. -/
def Operation.meanwhile (calls : List (Option SaveFault × Issued)) : Operation Failure Unit :=
  modify fun d => { d with backend := d.backend.run calls }

namespace PortOperation

open Operation Parameter

/-- Links two entities, while others make calls between the look for the link and the link. -/
def linkAmid (calls : List (Option SaveFault × Issued)) (user : String) (port other : EntityId)
    (typeName source : String) : Operation Failure Unit := do
  let found ← linkBetween port other typeName
  Operation.meanwhile calls
  linkUnless found user port other typeName source

def addSchemaAmid (calls : List (Option SaveFault × Issued)) (user : String)
    (port schemaType : EntityId) (source : String) : Operation Failure Unit := do
  Operation.ofExcept (Parameter.checkUser user "add_port_schema_relationship")
  linkAmid calls user port schemaType TypeName.portSchema source

def addDelegationAmid (calls : List (Option SaveFault × Issued)) (user : String) (port : EntityId)
    (portType : PortType) (delegatesTo source : String) : Operation Failure Unit := do
  Operation.ofExcept (checkDelegation user delegatesTo "add_port_delegation_relationship")
  let target ← findDeclared user portType delegatesTo
  linkAmid calls user port target.id TypeName.portDelegation source

variable {user source : String} {around : Surroundings} {d d' : Desk}

/-- With nobody in between these are the operations themselves. -/
theorem perform_linkAmid_nil (port other : EntityId) (typeName : String) :
    (linkAmid [] user port other typeName source).perform around d =
      (link user port other typeName source).perform around d := by
  rw [linkAmid, link, perform_bind, perform_bind]
  generalize (linkBetween port other typeName).perform around d = result
  obtain ⟨answer, m⟩ := result
  cases answer <;> rfl

theorem perform_addSchemaAmid_nil (port schemaType : EntityId) :
    (addSchemaAmid [] user port schemaType source).perform around d =
      (addSchema user port schemaType source).perform around d := by
  rw [addSchemaAmid, addSchema, perform_bind, perform_bind]
  simp only [perform_linkAmid_nil]

theorem perform_addSchemaAmid (notBlank : Text.isBlank user = false)
    (calls : List (Option SaveFault × Issued)) (port schemaType : EntityId) :
    (addSchemaAmid calls user port schemaType source).perform around d =
      (linkAmid calls user port schemaType TypeName.portSchema source).perform around d := by
  rw [addSchemaAmid, perform_bind, perform_ofExcept, checkUser_of_not_blank notBlank]

theorem perform_addDelegationAmid_nil (port : EntityId) (portType : PortType)
    (delegatesTo : String) :
    (addDelegationAmid [] user port portType delegatesTo source).perform around d =
      (addDelegation user port portType delegatesTo source).perform around d := by
  rw [addDelegationAmid, addDelegation, perform_bind, perform_bind]
  simp only [perform_bind (findDeclared user portType delegatesTo), perform_linkAmid_nil]

/-- Where a target was found, a delegation goes there. -/
theorem perform_of_target {α : Type} {portType : PortType} {name : String} {t : Entity}
    (found : (target user portType name).perform around d = (.ok t, d')) (action : String)
    (f : Entity → Operation Failure α) :
    (ofExcept (checkDelegation user name action) >>= fun _ =>
      findDeclared user portType name >>= f).perform around d = (f t).perform around d := by
  obtain ⟨_, checked, found⟩ := (still_ofExcept _ around d).bind_eq_ok found
  rw [perform_ofExcept] at checked
  obtain ⟨_, userChecked, nameChecked⟩ := Except.bind_eq_ok_iff.mp (Prod.mk.inj checked).1
  have idle := still_findDeclared user portType name around d
  rw [Idle, found] at idle
  obtain rfl : d' = d := idle
  rw [perform_bind, perform_ofExcept, checkDelegation_eq (not_blank_of_checkName userChecked),
    checkName_of_not_blank (not_blank_of_checkName nameChecked)]
  dsimp only
  rw [perform_bind, found]

/-- To look for a link first is to make the call that links, but for a call that would change nothing
and need not be saved. -/
theorem link_as_issued (sound : d.store.Integrity) {typeName : String} {type : RelationshipType}
    (known : RelationshipType.find? typeName = some type) (fromPort : type.end1Type = TypeName.port)
    {id : SourceId} (granted : around.registry.resolve user source = .ok id) {port other : EntityId}
    (saves : (d.store.edge? port other typeName).isSome →
      d.backend.Saves (around.fault d.calls)) :
    let issued := d.issue around ⟨user, id, source⟩ (.createRelationship port other typeName)
    let result := (link user port other typeName source).perform around d
    result.1 = (issued.1.map fun _ => ()) ∧ result.2.store = issued.2.store := by
  intro issued result
  have went : result = _ := perform_bind (linkBetween port other typeName) _ around d
  have told := Store.relationshipBetween_cases sound known port other (around.stamp d.calls)
    ⟨user, id, source⟩
  rw [perform_linkBetween] at went
  rw [fromPort] at told
  rcases told with looked | ⟨r, looked, present, change⟩ | ⟨e, looked, refused⟩
  · rw [looked] at went
    have went : result = (issued.1.map fun _ => (), issued.2) :=
      went.trans (perform_linkUnless_none granted port other typeName)
    rw [went]
    exact ⟨rfl, rfl⟩
  · rw [looked] at went
    have kept : d.backend.Saves (around.fault d.calls) := by
      apply saves
      rw [present]
      rfl
    obtain ⟨after, ended, same⟩ := Desk.issue_of_saves kept change
    have ended : issued = (.ok (.relationship r.id), after) := ended
    rw [went, ended]
    exact ⟨rfl, same.symm⟩
  · rw [looked] at went
    obtain ⟨after, ended, kept⟩ := Desk.issue_of_refused refused
    have ended : issued = (.error e, after) := ended
    rw [went, ended]
    exact ⟨rfl, kept.symm⟩

/-- Wherever a link succeeds the two are linked in the end, and no entity has changed. -/
theorem link_answers {port other : EntityId} {typeName : String}
    (performed : (link user port other typeName source).perform around d = (.ok (), d'))
    (fresh : d.FreshTo around d') :
    d'.store.entities = d.store.entities ∧ d'.store.Linked typeName port other := by
  obtain ⟨found, looked, rest⟩ := (still_linkBetween _ _ _ _ _).bind_eq_ok performed
  have answers := linkBetween_answers looked
  cases found with
  | some r =>
    obtain ⟨_, rfl⟩ := Prod.mk.inj rest
    refine ⟨rfl, Store.linked_iff_edge?.mpr ?_⟩
    rw [← answers]
    exact Option.some_ne_none r
  | none =>
    obtain ⟨id, told, _, issued⟩ := linkUnless_none_answers rest
    have change := Desk.change_of_issue issued
    exact ⟨change.entities_of_link, change.linked (Desk.fresh_of_issued issued fresh)⟩

/-- A port that is linked already is not linked again. -/
theorem perform_link_linked {port other : EntityId} {typeName : String}
    (isPort : d.store.HasType port TypeName.port) (linked : d.store.Linked typeName port other) :
    (link user port other typeName source).perform around d = (.ok (), d) := by
  obtain ⟨r, present⟩ := Option.ne_none_iff_exists'.mp (Store.linked_iff_edge?.mp linked)
  rw [perform_link_of_hasType isPort, present]
  rfl

/-- Two entities of the types that are wanted end up linked, and nothing else changes. -/
theorem link_adds {typeName : String} {type : RelationshipType}
    (known : RelationshipType.find? typeName = some type) (fromPort : type.end1Type = TypeName.port)
    {id : SourceId} (granted : around.registry.resolve user source = .ok id) {port other : EntityId}
    (starts : d.store.HasType port type.end1Type) (finishes : d.store.HasType other type.end2Type)
    {result : Except Failure Unit × Desk}
    (performed : (link user port other typeName source).perform around d = result)
    (fresh : d.FreshTo around result.2) (saved : d.SavedTo around result.2) :
    result.1 = .ok () ∧ result.2.store.entities = d.store.entities ∧
      ∀ t a b, result.2.store.Linked t a b ↔
        d.store.Linked t a b ∨ (t = typeName ∧ a = port ∧ b = other) := by
  have isPort : d.store.HasType port TypeName.port := fromPort ▸ starts
  by_cases linked : d.store.Linked typeName port other
  case pos =>
    rw [perform_link_linked isPort linked] at performed
    subst performed
    refine ⟨rfl, rfl, fun t a b => ?_⟩
    constructor
    · exact .inl
    · rintro (old | ⟨rfl, rfl, rfl⟩)
      · exact old
      · exact linked
  case neg =>
    have present : d.store.edge? port other typeName = none :=
      not_ne_iff.mp fun found => linked (Store.linked_iff_edge?.mpr found)
    rw [perform_link_of_hasType isPort, present, perform_linkUnless_none granted] at performed
    subst performed
    let edge := Store.newRelationship (around.stamp d.calls) ⟨user, id, source⟩ type port other
    have unused : d.store.relationships.get? edge.id = none := Desk.fresh_of_issue fresh
    have absent : d.store.edge? port other type.name = none := by
      rw [RelationshipType.name_of_find? known]
      exact present
    obtain ⟨after, issued, same⟩ :=
      Desk.issue_of_change saved (.link known starts finishes absent)
    rw [issued]
    refine ⟨rfl, ?_, fun t a b => ?_⟩
    · dsimp only
      rw [same]
      rfl
    · dsimp only
      rw [same, Store.linked_addRelationship_iff unused]
      simp only [edge, Store.newRelationship, RelationshipType.name_of_find? known]

/-- Whoever made it, a link that was asked for is there once. -/
theorem linkedOnce_of_linkAmid {b : Backend} (reached : b.store.Reached)
    {calls : List (Option SaveFault × Issued)} (fresh : b.FreshRun calls)
    (unused : (b.run calls).store.relationships.get? (around.stamp 0).relationship = none)
    {port other : EntityId} (first : b.Spares port calls) (second : b.Spares other calls)
    {typeName : String}
    (done : (linkAmid calls user port other typeName source).perform around ⟨b, []⟩ = (.ok (), d)) :
    d.store.LinkedOnce typeName port other := by
  have later := Backend.reached_run reached fresh
  obtain ⟨found, looked, rest⟩ := (still_linkBetween _ _ _ _ _).bind_eq_ok done
  have answers := linkBetween_answers looked
  have rest : (linkUnless found user port other typeName source).perform around
      ⟨b.run calls, []⟩ = (.ok (), d) := rest
  cases found with
  | some r =>
    obtain ⟨_, rfl⟩ := Prod.mk.inj rest
    have linked : b.store.Linked typeName port other := by
      refine Store.linked_iff_edge?.mpr ?_
      intro absent
      have answers : some r = b.store.edge? port other typeName := answers
      rw [absent] at answers
      cases answers
    exact later.sound.2.linkedOnce (Backend.linked_run linked fresh first second)
  | none =>
    obtain ⟨id, told, _, issued⟩ := linkUnless_none_answers rest
    have change := Desk.change_of_issue issued
    have fresh : (around.stamp 0).Fresh (b.run calls).store
      (.createRelationship port other typeName) := unused
    exact (later.change fresh change).sound.2.linkedOnce (change.linked fresh)

/-- Adding a schema type or a delegation answers and leaves what the store's own call to link the two
would, errors included. If others make calls between the look for the link and that call, and none of
them deletes an end, then the link is there once whenever the operation succeeds. -/
theorem checked_links_are_plain_links {b : Backend} (reached : b.store.Reached) {id : SourceId}
    (notBlank : Text.isBlank user = false)
    (granted : around.registry.resolve user source = .ok id) :
    let plain (port other : EntityId) (typeName : String) := b.issue (around.fault 0)
      ⟨around.stamp 0, ⟨user, id, source⟩, .createRelationship port other typeName⟩
    (∀ port schemaType : EntityId,
      ((b.store.edge? port schemaType TypeName.portSchema).isSome → b.Saves (around.fault 0)) →
      let result := (addSchema user port schemaType source).perform around ⟨b, []⟩
      let issued := plain port schemaType TypeName.portSchema
      result.1 = (issued.1.map fun _ => ()) ∧ result.2.store = issued.2.store) ∧
    (∀ (port : EntityId) (portType : PortType) (name : String) (t : Entity),
      ((target user portType name).perform around ⟨b, []⟩).1 = .ok t →
      ((b.store.edge? port t.id TypeName.portDelegation).isSome → b.Saves (around.fault 0)) →
      let result := (addDelegation user port portType name source).perform around ⟨b, []⟩
      let issued := plain port t.id TypeName.portDelegation
      result.1 = (issued.1.map fun _ => ()) ∧ result.2.store = issued.2.store) ∧
    ∀ calls, b.FreshRun calls →
      (b.run calls).store.relationships.get? (around.stamp 0).relationship = none →
      (∀ port schemaType : EntityId, b.Spares port calls → b.Spares schemaType calls →
        let result := (addSchemaAmid calls user port schemaType source).perform around ⟨b, []⟩
        result.1 = .ok () → result.2.store.LinkedOnce TypeName.portSchema port schemaType) ∧
      ∀ (port : EntityId) (portType : PortType) (name : String) (t : Entity),
        ((target user portType name).perform around ⟨b, []⟩).1 = .ok t →
        b.Spares port calls → b.Spares t.id calls →
        let result := (addDelegationAmid calls user port portType name source).perform around ⟨b, []⟩
        result.1 = .ok () → result.2.store.LinkedOnce TypeName.portDelegation port t.id := by
  intro plain
  have sound : (Desk.mk b []).store.Integrity := reached.sound.1
  refine ⟨?_, ?_, ?_⟩
  · intro port schemaType saves result issued
    have went : result = (link user port schemaType TypeName.portSchema source).perform around
        ⟨b, []⟩ := perform_addSchema notBlank _ _ _ _ _
    rw [went]
    exact link_as_issued sound RelationshipType.find?_portSchema rfl granted saves
  · intro port portType name t found saves result issued
    have went : result = (link user port t.id TypeName.portDelegation source).perform around
        ⟨b, []⟩ := perform_of_target (Prod.ext found rfl) _ _
    rw [went]
    exact link_as_issued sound RelationshipType.find?_portDelegation rfl granted saves
  · intro calls fresh unused
    constructor
    · intro port schemaType first second result done
      have went : result = (linkAmid calls user port schemaType TypeName.portSchema source).perform
          around ⟨b, []⟩ := perform_addSchemaAmid notBlank _ _ _
      exact linkedOnce_of_linkAmid reached fresh unused first second
        (went.symm.trans (Prod.ext done rfl))
    · intro port portType name t found first second result done
      have went : result = (linkAmid calls user port t.id TypeName.portDelegation source).perform
          around ⟨b, []⟩ := perform_of_target (Prod.ext found rfl) _ _
      exact linkedOnce_of_linkAmid reached fresh unused first second
        (went.symm.trans (Prod.ext done rfl))

/-- A process with an implementation that delegates to itself, and a schema type. -/
def linkable : List Issued :=
  let who : Caller := ⟨"steward", ⟨⟨.zero⟩, "engine"⟩⟩
  let named (name : String) : Properties := .ofList [(PropertyName.qualifiedName, .text name)]
  let owner : Ownership := ⟨⟨.ofParts 0 0⟩, TypeName.processPort⟩
  let port : EntityId := ⟨.ofParts 0 2⟩
  [⟨.ofClock .epoch 0, who, .createEntity TypeName.process (named "p") none⟩,
   ⟨.ofClock .epoch 2, who, .createEntity TypeName.portImplementation
      (Port.plain "a" "a" .input).properties (some owner)⟩,
   ⟨.ofClock .epoch 4, who, .createEntity TypeName.schemaType (named "t") none⟩,
   ⟨.ofClock .epoch 6, who, .createRelationship port port TypeName.portDelegation⟩]

/-- A schema type is added that another user adds meanwhile, and a delegation that is there. -/
theorem checked_links_are_plain_links_sample :
    let b : Backend := .memory (Store.empty.run linkable)
    let around := Surroundings.sample 10
    let port : EntityId := ⟨.ofParts 0 2⟩
    let schemaType : EntityId := ⟨.ofParts 0 4⟩
    let who : Caller := ⟨"other", ⟨⟨.zero⟩, "engine"⟩⟩
    let calls : List (Option SaveFault × Issued) :=
      [(none, ⟨.ofClock .epoch 8, who, .createRelationship port schemaType TypeName.portSchema⟩)]
    let amid := (addSchemaAmid calls "steward" port schemaType "engine").perform around ⟨b, []⟩
    let again := (addDelegation "steward" port .input "a" "engine").perform around ⟨b, []⟩
    let plain := b.issue (around.fault 0)
      ⟨around.stamp 0, ⟨"steward", ⟨.zero⟩, "engine"⟩,
        .createRelationship port port TypeName.portDelegation⟩
    again.1 = .ok () ∧ (again.1 = (plain.1.map fun _ => ()) ∧ again.2.store = plain.2.store) ∧
      amid.1 = .ok () ∧ amid.2.store.LinkedOnce TypeName.portSchema port schemaType := by
  intro b around port schemaType who calls amid again plain
  have reached : b.store.Reached := ⟨linkable, by decide +kernel, rfl⟩
  have notBlank : Text.isBlank "steward" = false := by decide
  have granted : around.registry.resolve "steward" "engine" = .ok ⟨.zero⟩ := by decide
  obtain ⟨_, delegations, interrupted⟩ := checked_links_are_plain_links reached notBlank granted
  let found := (target "steward" .input "a").perform around ⟨b, []⟩
  have answered : found.1.map Entity.id = .ok port := by decide +kernel
  obtain ⟨t, told, same⟩ := Except.map_eq_ok_iff.mp answered
  have delegated := delegations port .input "a" t told fun _ => trivial
  rw [same] at delegated
  have fresh : b.FreshRun calls := by decide +kernel
  have unused : (b.run calls).store.relationships.get? (around.stamp 0).relationship = none := by
    decide +kernel
  have done : amid.1 = .ok () := by decide +kernel
  exact ⟨by decide +kernel, delegated, done, (interrupted calls fresh unused).1 port schemaType
    (by decide +kernel) (by decide +kernel) done⟩

end PortOperation

end LineagePorts
