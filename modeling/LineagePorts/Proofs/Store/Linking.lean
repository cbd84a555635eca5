import LineagePorts.Proofs.Store.Names

/-!
# Looking for a link and making one

A link is looked for with fewer checks than it is made with: an entity that is not stored is not
missed, and the far end is not looked at. In a sound store this makes no difference. A link that is
found could have been made, an entity of the wrong type is refused in the same words, and what is not
there has no links. A link stays until one of its ends is deleted, and it is never there twice.
-/

namespace LineagePorts

namespace RelationshipType

def processPort : RelationshipType := ⟨TypeName.processPort, TypeName.process, TypeName.port⟩
def portSchema : RelationshipType := ⟨TypeName.portSchema, TypeName.port, TypeName.schemaType⟩
def portDelegation : RelationshipType := ⟨TypeName.portDelegation, TypeName.port, TypeName.port⟩

theorem find?_processPort : find? TypeName.processPort = some processPort := rfl

theorem find?_portSchema : find? TypeName.portSchema = some portSchema := rfl

theorem find?_portDelegation : find? TypeName.portDelegation = some portDelegation := rfl

end RelationshipType

namespace Store

variable {s s' : Store}

/-- What is not stored has no links. -/
theorem Integrity.edge?_of_absent (sound : s.Integrity) {start : EntityId}
    (absent : s.entities.get? start = none) (finish : EntityId) (typeName : String) :
    s.edge? start finish typeName = none := by
  refine edge?_eq_none_iff.mpr ?_
  rintro id r stored ⟨_, rfl, _⟩
  obtain ⟨⟨e, first⟩, _⟩ := sound.ends_stored stored
  rw [absent] at first
  cases first

/-- A link that is found has ends of the types that such a link wants. -/
theorem Integrity.typed_of_edge? (sound : s.Integrity) {type : RelationshipType}
    (known : RelationshipType.find? type.name = some type) {start finish : EntityId}
    {r : Relationship} (found : s.edge? start finish type.name = some r) :
    s.HasType start type.end1Type ∧ s.HasType finish type.end2Type := by
  obtain ⟨id, stored, typed, rfl, rfl⟩ := stored_of_edge? found
  obtain ⟨type', known', starts, finishes⟩ := sound.wellTyped stored
  rw [typed, known] at known'
  obtain rfl := Option.some.inj known'
  exact ⟨starts, finishes⟩

theorem relationshipBetween_of_hasType {start : EntityId} {startType : String}
    (typed : s.HasType start startType) (finish : EntityId) (typeName : String) :
    s.relationshipBetween start finish startType typeName =
      .ok (s.edge? start finish typeName) := by
  obtain ⟨e, found⟩ := exists_typedEntity_iff.mpr typed
  rw [relationshipBetween, found]
  cases s.entities.contains start <;> rfl

/-- What a look for a link says of making it: it may be new, it is there already and making it changes
nothing, or both are refused for one reason. -/
theorem relationshipBetween_cases (sound : s.Integrity) {typeName : String} {type : RelationshipType}
    (known : RelationshipType.find? typeName = some type) (start finish : EntityId) (stamp : Stamp)
    (who : Caller) :
    (s.relationshipBetween start finish type.end1Type typeName = .ok none) ∨
      (∃ r, s.relationshipBetween start finish type.end1Type typeName = .ok (some r) ∧
        s.edge? start finish typeName = some r ∧
        Change s stamp who (.createRelationship start finish typeName) (.relationship r.id) s) ∨
      ∃ e, s.relationshipBetween start finish type.end1Type typeName = .error e ∧
        s.perform stamp who (.createRelationship start finish typeName) = .error e := by
  obtain rfl := RelationshipType.name_of_find? known
  rw [relationshipBetween]
  by_cases stored : s.entities.contains start = true
  · rw [if_pos stored]
    cases typed : s.typedEntity start type.end1Type with
    | error e =>
      refine .inr (.inr ⟨e, rfl, ?_⟩)
      rw [perform, createRelationship, relationshipType, known]
      show Except.map _ (s.typedEntity start type.end1Type >>= _) = _
      rw [typed]
      rfl
    | ok e =>
      show (Except.ok (s.edge? start finish type.name) = _) ∨ _
      cases found : s.edge? start finish type.name with
      | none => exact .inl rfl
      | some r =>
        obtain ⟨starts, finishes⟩ := sound.typed_of_edge? known found
        exact .inr (.inl ⟨r, rfl, rfl, .keep known starts finishes found⟩)
  · rw [if_neg stored]
    have absent : s.entities.get? start = none := by
      rw [Table.contains, Bool.not_eq_true, Option.isSome_eq_false_iff, Option.isNone_iff_eq_none]
        at stored
      exact stored
    rw [sound.edge?_of_absent absent]
    exact .inl rfl

section Kept

variable {typeName : String} {start finish : EntityId}

theorem Linked.addRelationship (linked : s.Linked typeName start finish) {r : Relationship}
    (fresh : s.relationships.get? r.id = none) :
    (s.addRelationship r).Linked typeName start finish :=
  (linked_addRelationship_iff fresh).mpr (.inl linked)

/-- A call that succeeds keeps a link unless it deletes one of the ends. -/
theorem Linked.change (linked : s.Linked typeName start finish) {stamp : Stamp} {who : Caller}
    {call : Call} {answer : Answer} (fresh : stamp.Fresh s call)
    (change : Change s stamp who call answer s') (first : call ≠ .deleteEntity start)
    (second : call ≠ .deleteEntity finish) : s'.Linked typeName start finish := by
  cases change with
  | create free => exact linked
  | @createOwned typeName' properties o type free known owner owned =>
    have put : (s.putEntity (newEntity stamp who typeName' properties)).Linked typeName start finish :=
      linked
    exact put.addRelationship (fresh.2 rfl)
  | update stored free => exact linked
  | delete stored =>
    refine linked_without_iff.mpr ⟨linked, ?_, ?_⟩
    · rintro rfl
      exact first rfl
    · rintro rfl
      exact second rfl
  | link known starts finishes absent => exact linked.addRelationship fresh
  | keep known starts finishes present => exact linked

end Kept

/-- Exactly one relationship of this type leads from the first entity to the second one. -/
def LinkedOnce (s : Store) (typeName : String) (start finish : EntityId) : Prop :=
  ∃ id, ∀ k, (∃ r, s.relationships.get? k = some r ∧
    r.typeName = typeName ∧ r.end1 = start ∧ r.end2 = finish) ↔ k = id

theorem Unique.linkedOnce (unique : s.Unique) {typeName : String} {start finish : EntityId}
    (linked : s.Linked typeName start finish) : s.LinkedOnce typeName start finish := by
  obtain ⟨id, r, stored, typed, first, second⟩ := linked
  refine ⟨id, fun k => ?_⟩
  constructor
  · rintro ⟨r', stored', typed', first', second'⟩
    exact unique.edges stored' stored (typed'.trans typed.symm) (first'.trans first.symm)
      (second'.trans second.symm)
  · rintro rfl
    exact ⟨r, stored, typed, first, second⟩

/-- To make a link that may be there already leads to a store where it is. -/
theorem Change.linked {stamp : Stamp} {who : Caller} {start finish : EntityId} {typeName : String}
    {answer : Answer} (fresh : stamp.Fresh s (.createRelationship start finish typeName))
    (change : Change s stamp who (.createRelationship start finish typeName) answer s') :
    s'.Linked typeName start finish := by
  cases change with
  | @link _ _ _ type known starts finishes absent =>
    have made : (newRelationship stamp who type start finish).typeName = typeName :=
      RelationshipType.name_of_find? known
    have unused : s.relationships.get? (newRelationship stamp who type start finish).id = none :=
      fresh
    exact (linked_addRelationship_iff unused).mpr (.inr ⟨made.symm, rfl, rfl⟩)
  | @keep _ _ _ type r known starts finishes present =>
    rw [RelationshipType.name_of_find? known] at present
    refine linked_iff_edge?.mpr ?_
    rw [present]
    exact Option.some_ne_none r

/-- It changes no entity. -/
theorem Change.entities_of_link {stamp : Stamp} {who : Caller} {start finish : EntityId}
    {typeName : String} {answer : Answer}
    (change : Change s stamp who (.createRelationship start finish typeName) answer s') :
    s'.entities = s.entities := by
  cases change with
  | link known starts finishes absent => rfl
  | keep known starts finishes present => rfl

end Store

end LineagePorts
