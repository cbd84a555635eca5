import LineagePorts.Proofs.Store.Change

/-!
# Runs of calls

What is stored after each way to change a store, that records keep standing under their own
identifiers, the calls whose new identifiers are not in use, and induction over a run of such calls.
Calls of several callers that the store makes one after another are one run, in whatever order they
come.
-/

namespace LineagePorts

theorem Relationship.opposite?_isNone_iff {r : Relationship} {id : EntityId} :
    (r.opposite? id).isNone = true ↔ r.end1 ≠ id ∧ r.end2 ≠ id := by
  rw [opposite?]
  by_cases first : r.end1 = id
  · simp [first]
  · by_cases second : r.end2 = id <;> simp [first, second]

/-- Only a port has subtypes. -/
theorem TypeName.isA_iff {typeName expected : String} (other : expected ≠ port) :
    isA typeName expected = true ↔ typeName = expected := by
  have noParent : parent? typeName ≠ some expected := by
    rw [parent?]
    split
    · intro same
      exact other (Option.some.inj same).symm
    · simp
  simp [isA, noParent]

theorem TypeName.isA_port_of_schemaType {typeName : String}
    (isSchema : isA typeName schemaType = true) : isA typeName port = false := by
  rw [(isA_iff (by decide)).mp isSchema]
  decide

theorem RelationshipType.name_of_find? {name : String} {type : RelationshipType}
    (known : find? name = some type) : type.name = name := by
  have found := List.find?_some known
  exact of_decide_eq_true found

namespace Store

/-- A port is no schema type. -/
theorem HasType.noSchema {s : Store} {id : EntityId} (isPort : s.HasType id TypeName.port) :
    ¬ s.HasType id TypeName.schemaType := by
  obtain ⟨e, stored, isPort⟩ := isPort
  rintro ⟨f, stored', isSchema⟩
  obtain rfl := Option.some.inj (stored.symm.trans stored')
  rw [TypeName.isA_port_of_schemaType isSchema] at isPort
  cases isPort

theorem get?_putEntity (s : Store) (e : Entity) (id : EntityId) :
    (s.putEntity e).entities.get? id = if e.id = id then some e else s.entities.get? id :=
  Table.get?_insert s.entities e.id id e

theorem get?_addRelationship (s : Store) (r : Relationship) (id : RelationshipId) :
    (s.addRelationship r).relationships.get? id =
      if r.id = id then some r else s.relationships.get? id :=
  Table.get?_insert s.relationships r.id id r

theorem entities_addRelationship (s : Store) (r : Relationship) :
    (s.addRelationship r).entities = s.entities := rfl

/-- What is stored after a new entity was put into a store is new or was there before. -/
theorem get?_putEntity_cases {s : Store} {e f : Entity} {id : EntityId}
    (stored : (s.putEntity e).entities.get? id = some f) :
    (id = e.id ∧ f = e) ∨ s.entities.get? id = some f := by
  rw [get?_putEntity] at stored
  split at stored
  · rename_i same
    exact .inl ⟨same.symm, (Option.some.inj stored).symm⟩
  · exact .inr stored

theorem get?_putEntity_self (s : Store) (e : Entity) :
    (s.putEntity e).entities.get? e.id = some e := by
  rw [get?_putEntity, if_pos rfl]

theorem get?_putEntity_old {s : Store} {e f : Entity} {id : EntityId}
    (fresh : s.entities.get? e.id = none) (stored : s.entities.get? id = some f) :
    (s.putEntity e).entities.get? id = some f := by
  have other : e.id ≠ id := by
    rintro rfl
    rw [fresh] at stored
    cases stored
  rw [get?_putEntity, if_neg other]
  exact stored

theorem get?_addRelationship_old {s : Store} {r q : Relationship} {id : RelationshipId}
    (fresh : s.relationships.get? r.id = none) (stored : s.relationships.get? id = some q) :
    (s.addRelationship r).relationships.get? id = some q := by
  have other : r.id ≠ id := by
    rintro rfl
    rw [fresh] at stored
    cases stored
  rw [get?_addRelationship, if_neg other]
  exact stored

theorem get?_addRelationship_cases {s : Store} {r q : Relationship} {id : RelationshipId}
    (stored : (s.addRelationship r).relationships.get? id = some q) :
    (id = r.id ∧ q = r) ∨ s.relationships.get? id = some q := by
  rw [get?_addRelationship] at stored
  split at stored
  · rename_i same
    exact .inl ⟨same.symm, (Option.some.inj stored).symm⟩
  · exact .inr stored

theorem get?_replace (s : Store) (id k : EntityId) (e : Entity) :
    (s.replace id e).entities.get? k = if id = k then some e else s.entities.get? k :=
  Table.get?_insert s.entities id k e

theorem entities_without_iff {s : Store} {id k : EntityId} {e : Entity} :
    (s.without id).entities.get? k = some e ↔ k ≠ id ∧ s.entities.get? k = some e := by
  rw [without, Table.get?_erase]
  by_cases same : k = id <;> simp [same]

/-- The relationships that survive a deletion are those that do not touch the entity. -/
theorem relationships_without_iff {s : Store} {id : EntityId} {k : RelationshipId}
    {r : Relationship} :
    (s.without id).relationships.get? k = some r ↔
      s.relationships.get? k = some r ∧ r.end1 ≠ id ∧ r.end2 ≠ id := by
  rw [without, Table.get?_filter, Option.filter_eq_some_iff, Relationship.opposite?_isNone_iff]

/-- Every record stands under its own identifier. -/
structure Keyed (s : Store) : Prop where
  entities : ∀ {id e}, s.entities.get? id = some e → e.id = id
  relationships : ∀ {id r}, s.relationships.get? id = some r → r.id = id

theorem Keyed.putEntity {s : Store} (keyed : s.Keyed) (e : Entity) : (s.putEntity e).Keyed where
  entities stored := by
    rcases get?_putEntity_cases stored with ⟨rfl, rfl⟩ | old
    · rfl
    · exact keyed.entities old
  relationships stored := keyed.relationships stored

theorem Keyed.addRelationship {s : Store} (keyed : s.Keyed) (r : Relationship) :
    (s.addRelationship r).Keyed where
  entities stored := keyed.entities stored
  relationships stored := by
    rcases get?_addRelationship_cases stored with ⟨rfl, rfl⟩ | old
    · rfl
    · exact keyed.relationships old

theorem Keyed.replace {s : Store} (keyed : s.Keyed) {id : EntityId} {e : Entity}
    (sameId : e.id = id) : (s.replace id e).Keyed where
  entities stored := by
    rw [get?_replace] at stored
    split at stored
    · rename_i same
      obtain rfl := Option.some.inj stored
      exact sameId.trans same
    · exact keyed.entities stored
  relationships stored := keyed.relationships stored

theorem Keyed.without {s : Store} (keyed : s.Keyed) (id : EntityId) : (s.without id).Keyed where
  entities stored := keyed.entities (entities_without_iff.mp stored).2
  relationships stored := keyed.relationships (relationships_without_iff.mp stored).1

/-- Every call keeps this, even one whose new identifiers are in use. -/
theorem Keyed.change {s s' : Store} {stamp : Stamp} {who : Caller} {call : Call} {answer : Answer}
    (keyed : s.Keyed) (change : Change s stamp who call answer s') : s'.Keyed := by
  cases change with
  | create free => exact keyed.putEntity _
  | createOwned free known owner owned => exact (keyed.putEntity _).addRelationship _
  | @update id properties e stored free =>
    have sameId : (updatedEntity stamp who properties e).id = e.id := rfl
    exact keyed.replace (sameId.trans (keyed.entities stored))
  | delete stored => exact keyed.without _
  | link known starts finishes absent => exact keyed.addRelationship _
  | keep known starts finishes present => exact keyed

end Store

/-- The identifiers that a call takes from its stamp are not in use. -/
def Stamp.Fresh (stamp : Stamp) (s : Store) : Store.Call → Prop
  | .createEntity _ _ owner =>
    s.entities.get? stamp.entity = none ∧
      (owner.isSome → s.relationships.get? stamp.relationship = none)
  | .createRelationship _ _ _ => s.relationships.get? stamp.relationship = none
  | .updateEntity _ _ _ => True
  | .deleteEntity _ => True

instance (stamp : Stamp) (s : Store) : (call : Store.Call) → Decidable (stamp.Fresh s call)
  | .createEntity _ _ _ => inferInstanceAs (Decidable (_ ∧ (_ → _)))
  | .createRelationship _ _ _ => inferInstanceAs (Decidable (_ = none))
  | .updateEntity _ _ _ => inferInstanceAs (Decidable True)
  | .deleteEntity _ => inferInstanceAs (Decidable True)

namespace Store

def after (s : Store) (c : Issued) : Store := s.afterCall c.stamp c.caller c.call

/-- Each call of a run takes identifiers that are not in use when it is made. -/
def FreshRun : Store → List Issued → Prop
  | _, [] => True
  | s, c :: cs => c.stamp.Fresh s c.call ∧ FreshRun (s.after c) cs

instance decidableFreshRun : (s : Store) → (cs : List Issued) → Decidable (s.FreshRun cs)
  | _, [] => inferInstanceAs (Decidable True)
  | s, c :: cs =>
    have := decidableFreshRun (s.after c) cs
    inferInstanceAs (Decidable (_ ∧ _))

theorem run_cons (s : Store) (c : Issued) (cs : List Issued) :
    s.run (c :: cs) = (s.after c).run cs := rfl

theorem run_append (s : Store) (cs ds : List Issued) :
    s.run (cs ++ ds) = (s.run cs).run ds :=
  List.foldl_append

theorem freshRun_append {s : Store} {cs ds : List Issued} :
    s.FreshRun (cs ++ ds) ↔ s.FreshRun cs ∧ (s.run cs).FreshRun ds := by
  induction cs generalizing s with
  | nil => exact ⟨fun h => ⟨trivial, h⟩, fun h => h.2⟩
  | cons c cs ih =>
    rw [List.cons_append, FreshRun, FreshRun, run_cons, ih, and_assoc]

/-- What holds at first and is kept by every rule holds after a run. -/
theorem run_induction {P : Store → Prop}
    (step : ∀ {s s' : Store} {stamp : Stamp} {who : Caller} {call : Call} {answer : Answer},
      P s → stamp.Fresh s call → Change s stamp who call answer s' → P s')
    {s : Store} {calls : List Issued} (start : P s) (fresh : s.FreshRun calls) :
    P (s.run calls) := by
  induction calls generalizing s with
  | nil => exact start
  | cons c cs ih =>
    have kept : P (s.after c) := by
      rcases s.afterCall_cases c.stamp c.caller c.call with same | ⟨answer, change⟩
      · rw [after, same]
        exact start
      · exact step start fresh.1 change
    exact ih kept fresh.2

theorem keyed_empty : empty.Keyed where
  entities stored := by cases stored
  relationships stored := by cases stored

theorem Keyed.run {s : Store} (keyed : s.Keyed) (calls : List Issued) : (s.run calls).Keyed := by
  induction calls generalizing s with
  | nil => exact keyed
  | cons c cs ih =>
    have kept : (s.after c).Keyed := by
      rcases s.afterCall_cases c.stamp c.caller c.call with same | ⟨answer, change⟩
      · rw [after, same]
        exact keyed
      · exact keyed.change change
    exact ih kept

/-- A process with an alias that delegates to itself, a second alias of the same name, which is
refused, a new name for the first one, another alias of the old name, and the end of the first. -/
def sampleRun : List Issued :=
  let who : Caller := ⟨"steward", ⟨⟨.zero⟩, "engine"⟩⟩
  let named (name : String) : Properties := .ofList [(PropertyName.qualifiedName, .text name)]
  let owner : Ownership := ⟨⟨.ofParts 0 0⟩, TypeName.processPort⟩
  let aliasOf (name : String) : Call := .createEntity TypeName.portAlias (named name) (some owner)
  let first : EntityId := ⟨.ofParts 0 2⟩
  [⟨.ofClock .epoch 0, who, .createEntity TypeName.process (named "p") none⟩,
   ⟨.ofClock .epoch 2, who, aliasOf "a"⟩,
   ⟨.ofClock .epoch 4, who, .createRelationship first first TypeName.portDelegation⟩,
   ⟨.ofClock .epoch 6, who, aliasOf "a"⟩,
   ⟨.ofClock .epoch 8, who, .updateEntity first TypeName.portAlias (named "b")⟩,
   ⟨.ofClock .epoch 10, who, aliasOf "a"⟩,
   ⟨.ofClock .epoch 12, who, .deleteEntity first⟩]

/-- The process and its first alias. -/
def sampleSnapshot : Snapshot := (empty.run (sampleRun.take 2)).snapshot

end Store

end LineagePorts
