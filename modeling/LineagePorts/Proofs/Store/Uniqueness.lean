import LineagePorts.Proofs.Store.Integrity

/-!
# Uniqueness in a store

No two entities of one type have one qualified name, and no two relationships have one type and the
same ends. A relationship of ownership is recorded without a look at the others: that it is the only
one rests on its second end, which is new, while the ends of all others are stored already.
-/

namespace LineagePorts.Store

structure Unique (s : Store) : Prop where
  names : ∀ {id id' e e' name}, s.entities.get? id = some e → s.entities.get? id' = some e' →
    e.typeName = e'.typeName → e.qualifiedName? = some name → e'.qualifiedName? = some name →
    id = id'
  edges : ∀ {id id' r r'}, s.relationships.get? id = some r → s.relationships.get? id' = some r' →
    r.typeName = r'.typeName → r.end1 = r'.end1 → r.end2 = r'.end2 → id = id'

theorem unique_empty : Unique empty where
  names stored := nomatch stored
  edges stored := nomatch stored

theorem edge?_eq_none_iff {s : Store} {start finish : EntityId} {typeName : String} :
    s.edge? start finish typeName = none ↔
      ∀ id r, s.relationships.get? id = some r →
        ¬ (r.typeName = typeName ∧ r.end1 = start ∧ r.end2 = finish) := by
  simp only [edge?, List.find?_eq_none, Table.mem_values_iff, Bool.and_eq_true, decide_eq_true_eq]
  constructor
  · rintro absent id r stored ⟨typed, first, second⟩
    exact absent r ⟨id, stored⟩ ⟨⟨typed, first⟩, second⟩
  · rintro absent r ⟨id, stored⟩ ⟨⟨typed, first⟩, second⟩
    exact absent id r stored ⟨typed, first, second⟩

theorem stored_of_edge? {s : Store} {start finish : EntityId} {typeName : String}
    {r : Relationship} (found : s.edge? start finish typeName = some r) :
    ∃ id, s.relationships.get? id = some r ∧
      r.typeName = typeName ∧ r.end1 = start ∧ r.end2 = finish := by
  have fits := List.find?_some found
  simp only [Bool.and_eq_true, decide_eq_true_eq, and_assoc] at fits
  obtain ⟨id, stored⟩ := Table.mem_values_iff.mp (List.mem_of_find?_eq_some found)
  exact ⟨id, stored, fits⟩

theorem edge?_eq_some_iff {s : Store} (sound : s.Integrity) (unique : s.Unique)
    {start finish : EntityId} {typeName : String} {r : Relationship} :
    s.edge? start finish typeName = some r ↔ s.relationships.get? r.id = some r ∧
      r.typeName = typeName ∧ r.end1 = start ∧ r.end2 = finish := by
  constructor
  · intro found
    obtain ⟨id, stored, fits⟩ := stored_of_edge? found
    rw [sound.relationshipId stored]
    exact ⟨stored, fits⟩
  · rintro ⟨stored, typed, first, second⟩
    cases found : s.edge? start finish typeName with
    | none => exact absurd ⟨typed, first, second⟩ (edge?_eq_none_iff.mp found _ r stored)
    | some q =>
      obtain ⟨id, stored', typed', first', second'⟩ := stored_of_edge? found
      obtain rfl := unique.edges stored stored' (typed.trans typed'.symm)
        (first.trans first'.symm) (second.trans second'.symm)
      rw [← stored', stored]

/-- A name that is free for a new entity is the name of no stored entity of that type. -/
theorem NameFree.not_named {s : Store} {typeName name : String} {properties : Properties}
    (free : s.NameFree typeName properties none) (given : properties.qualifiedName? = some name)
    {id : EntityId} {e : Entity} (stored : s.entities.get? id = some e)
    (typed : e.typeName = typeName) : e.qualifiedName? ≠ some name := by
  intro named
  have taken := free id e stored typed (by rw [given]; rfl) (named.trans given.symm)
  cases taken

theorem Unique.putEntity {s : Store} (unique : s.Unique) {stamp : Stamp} {who : Caller}
    {typeName : String} {properties : Properties} (free : s.NameFree typeName properties none) :
    (s.putEntity (newEntity stamp who typeName properties)).Unique where
  names stored stored' typed named named' := by
    rcases get?_putEntity_cases stored with ⟨rfl, rfl⟩ | old
    · rcases get?_putEntity_cases stored' with ⟨rfl, rfl⟩ | old'
      · rfl
      · exact absurd named' (free.not_named named old' typed.symm)
    · rcases get?_putEntity_cases stored' with ⟨rfl, rfl⟩ | old'
      · exact absurd named (free.not_named named' old typed)
      · exact unique.names old old' typed named named'
  edges stored stored' := unique.edges stored stored'

theorem Unique.addRelationship {s : Store} (unique : s.Unique) {r : Relationship}
    (absent : s.edge? r.end1 r.end2 r.typeName = none) : (s.addRelationship r).Unique where
  names stored stored' := unique.names stored stored'
  edges {id id' q q'} stored stored' typed first second := by
    have away := edge?_eq_none_iff.mp absent
    rcases get?_addRelationship_cases stored with ⟨rfl, rfl⟩ | old
    · rcases get?_addRelationship_cases stored' with ⟨rfl, rfl⟩ | old'
      · rfl
      · exact absurd ⟨typed.symm, first.symm, second.symm⟩ (away id' q' old')
    · rcases get?_addRelationship_cases stored' with ⟨rfl, rfl⟩ | old'
      · exact absurd ⟨typed, first, second⟩ (away id q old)
      · exact unique.edges old old' typed first second

/-- No stored relationship ends at an entity that is not stored. -/
theorem Integrity.edge?_eq_none {s : Store} (sound : s.Integrity) {finish : EntityId}
    (absent : s.entities.get? finish = none) (start : EntityId) (typeName : String) :
    s.edge? start finish typeName = none := by
  refine edge?_eq_none_iff.mpr fun id r stored fits => ?_
  obtain ⟨_, e, second⟩ := sound.ends_stored stored
  rw [fits.2.2, absent] at second
  cases second

theorem Unique.replace {s : Store} (unique : s.Unique) (sound : s.Integrity) {id : EntityId}
    {e e' : Entity} (sameType : e'.typeName = e.typeName)
    (free : s.NameFree e.typeName e'.properties (some id)) :
    (s.replace id e').Unique := by
  -- another entity of the type cannot have the new name
  have away : ∀ {k f name}, s.entities.get? k = some f → f.typeName = e.typeName →
      e'.qualifiedName? = some name → f.qualifiedName? = some name → id = k := by
    intro k f name old typed given named
    have given' : e'.properties.qualifiedName? = some name := given
    have same := free k f old typed (by rw [given']; rfl) (named.trans given'.symm)
    rw [← sound.entityId old, Option.some.inj same]
  refine ⟨fun {k k' f f' name} found found' typed named named' => ?_, unique.edges⟩
  rw [get?_replace] at found found'
  split at found
  · rename_i same
    obtain rfl := Option.some.inj found
    split at found'
    · rename_i same'
      exact same.symm.trans same'
    · exact same.symm.trans (away found' (typed.symm.trans sameType) named named')
  · split at found'
    · rename_i same'
      obtain rfl := Option.some.inj found'
      exact (away found (typed.trans sameType) named' named).symm.trans same'
    · exact unique.names found found' typed named named'

theorem Unique.without {s : Store} (unique : s.Unique) (id : EntityId) :
    (s.without id).Unique where
  names stored stored' :=
    unique.names (entities_without_iff.mp stored).2 (entities_without_iff.mp stored').2
  edges stored stored' :=
    unique.edges (relationships_without_iff.mp stored).1 (relationships_without_iff.mp stored').1

theorem Unique.change {s s' : Store} {stamp : Stamp} {who : Caller} {call : Call}
    {answer : Answer} (unique : s.Unique) (sound : s.Integrity) (fresh : stamp.Fresh s call)
    (change : Change s stamp who call answer s') : s'.Unique := by
  cases change with
  | create free => exact unique.putEntity free
  | createOwned free known owner owned =>
    refine (unique.putEntity free).addRelationship ?_
    exact sound.edge?_eq_none fresh.1 _ _
  | update stored free => exact unique.replace sound rfl free
  | delete stored => exact unique.without _
  | link known starts finishes absent => exact unique.addRelationship absent
  | keep known starts finishes present => exact unique

/-- Integrity and uniqueness are kept together, because the second one needs the first. -/
theorem Unique.run {s : Store} (unique : s.Unique) (sound : s.Integrity) {calls : List Issued}
    (fresh : s.FreshRun calls) : (s.run calls).Integrity ∧ (s.run calls).Unique :=
  run_induction (P := fun s => s.Integrity ∧ s.Unique)
    (fun kept fresh change => ⟨kept.1.change fresh change, kept.2.change kept.1 fresh change⟩)
    ⟨sound, unique⟩ fresh

/-- In a sound store, looking for a name in the entities in any order finds the one that has it. -/
theorem find?_named_iff {s : Store} (sound : s.Integrity) (unique : s.Unique)
    {order : List Entity} (perm : order.Perm s.entities.values) {name typeName : String}
    {e : Entity} :
    order.find? (fun e => e.typeName = typeName && e.qualifiedName? = some name) = some e ↔
      s.entities.get? e.id = some e ∧ e.typeName = typeName ∧ e.qualifiedName? = some name := by
  have mem_iff : ∀ f, f ∈ order ↔ s.entities.get? f.id = some f := by
    intro f
    rw [perm.mem_iff, Table.mem_values_iff]
    constructor
    · rintro ⟨id, stored⟩
      rw [sound.entityId stored]
      exact stored
    · exact fun stored => ⟨f.id, stored⟩
  have fits_iff : ∀ f : Entity,
      (f.typeName = typeName && f.qualifiedName? = some name : Bool) = true ↔
        f.typeName = typeName ∧ f.qualifiedName? = some name := by
    intro f
    rw [Bool.and_eq_true, decide_eq_true_eq, decide_eq_true_eq]
  constructor
  · intro found
    have fits := List.find?_some found
    exact ⟨(mem_iff e).mp (List.mem_of_find?_eq_some found), (fits_iff e).mp fits⟩
  · rintro ⟨stored, typed, named⟩
    cases found : order.find? (fun e => e.typeName = typeName && e.qualifiedName? = some name) with
    | none =>
      have missed := List.find?_eq_none.mp found e ((mem_iff e).mpr stored)
      exact absurd ((fits_iff e).mpr ⟨typed, named⟩) missed
    | some f =>
      have stored' := (mem_iff f).mp (List.mem_of_find?_eq_some found)
      have fits := List.find?_some found
      rw [fits_iff] at fits
      have same := unique.names stored' stored (fits.1.trans typed.symm) fits.2 named
      rw [same] at stored'
      rw [← stored', ← stored]

theorem findByName?_eq_some_iff {s : Store} (sound : s.Integrity) (unique : s.Unique)
    {name typeName : String} {e : Entity} :
    s.findByName? name typeName = some e ↔
      s.entities.get? e.id = some e ∧ e.typeName = typeName ∧ e.qualifiedName? = some name :=
  find?_named_iff sound unique (.refl _)

/-- An entity of this type and name is stored under the identifier. -/
def Named (s : Store) (id : EntityId) (typeName name : String) : Prop :=
  ∃ e, s.entities.get? id = some e ∧ e.typeName = typeName ∧ e.qualifiedName? = some name

instance (s : Store) (id : EntityId) (typeName name : String) :
    Decidable (s.Named id typeName name) :=
  inferInstanceAs
    (Decidable (∃ e ∈ s.entities.get? id, e.typeName = typeName ∧ e.qualifiedName? = some name))

/-- The call succeeds, and it deletes the entity or updates it to another name or to none. -/
def Releases (s : Store) (c : Issued) (id : EntityId) (name : String) : Prop :=
  (∃ result, s.perform c.stamp c.caller c.call = .ok result) ∧
    (c.call = .deleteEntity id ∨ ∃ typeName properties,
      c.call = .updateEntity id typeName properties ∧ properties.qualifiedName? ≠ some name)

theorem Named.putEntity {s : Store} {id : EntityId} {typeName name : String} {e : Entity}
    (named : s.Named id typeName name) (fresh : s.entities.get? e.id = none) :
    (s.putEntity e).Named id typeName name := by
  obtain ⟨f, stored, fits⟩ := named
  exact ⟨f, get?_putEntity_old fresh stored, fits⟩

/-- A call leaves a stored entity its name, or releases that name. -/
theorem Named.after {s : Store} {c : Issued} {id : EntityId} {typeName name : String}
    (named : s.Named id typeName name) (fresh : c.stamp.Fresh s c.call) :
    (s.after c).Named id typeName name ∨ s.Releases c id name := by
  obtain ⟨stamp, who, call⟩ := c
  rcases s.afterCall_cases stamp who call with same | ⟨answer, change⟩
  · rw [Store.after, same]
    exact .inl named
  have done := perform_eq_ok_iff.mpr change
  rw [Store.after]
  dsimp only at fresh ⊢
  generalize s.afterCall stamp who call = s' at change done ⊢
  cases change with
  | create free => exact .inl (named.putEntity fresh.1)
  | createOwned free known owner owned => exact .inl (named.putEntity fresh.1)
  | link known starts finishes absent => exact .inl named
  | keep known starts finishes present => exact .inl named
  | @delete id' e stored =>
    obtain ⟨f, stored', fits⟩ := named
    by_cases same : id = id'
    · exact .inr ⟨⟨_, done⟩, .inl (by rw [same])⟩
    · exact .inl ⟨f, entities_without_iff.mpr ⟨same, stored'⟩, fits⟩
  | @update id' properties e stored free =>
    obtain ⟨f, stored', fits⟩ := named
    by_cases same : id' = id
    · subst same
      by_cases kept : properties.qualifiedName? = some name
      · obtain rfl := Option.some.inj (stored.symm.trans stored')
        exact .inl ⟨updatedEntity stamp who properties e,
          by rw [get?_replace, if_pos rfl], fits.1, kept⟩
      · exact .inr ⟨⟨_, done⟩, .inr ⟨_, _, rfl, kept⟩⟩
    · exact .inl ⟨f, by rw [get?_replace, if_neg same]; exact stored', fits⟩

/-- Along a run, a stored entity keeps its name until a call releases it. -/
theorem Named.run {s : Store} {calls : List Issued} {id : EntityId} {typeName name : String}
    (named : s.Named id typeName name) (fresh : s.FreshRun calls) :
    (s.run calls).Named id typeName name ∨
      ∃ before c rest, calls = before ++ c :: rest ∧ (s.run before).Releases c id name := by
  induction calls generalizing s with
  | nil => exact .inl named
  | cons c cs ih =>
    rcases named.after fresh.1 with kept | released
    · rcases ih kept fresh.2 with kept | ⟨before, d, rest, split, released⟩
      · exact .inl kept
      · exact .inr ⟨c :: before, d, rest, by rw [split, List.cons_append], released⟩
    · exact .inr ⟨[], c, cs, rfl, released⟩

/-- An entity that was just created is stored with the type and name that were asked for. -/
theorem named_of_created {s s' : Store} {stamp : Stamp} {who : Caller} {typeName name : String}
    {properties : Properties} {owner : Option Ownership} {answer : Answer}
    (given : properties.qualifiedName? = some name)
    (created : s.perform stamp who (.createEntity typeName properties owner) = .ok (answer, s')) :
    answer = .entity stamp.entity ∧ s'.Named stamp.entity typeName name := by
  have change := perform_eq_ok_iff.mp created
  have stored : ∀ t : Store, (t.putEntity (newEntity stamp who typeName properties)).Named
      stamp.entity typeName name :=
    fun t => ⟨newEntity stamp who typeName properties, by simp [get?_putEntity, newEntity], rfl,
      given⟩
  cases change with
  | create free => exact ⟨rfl, stored s⟩
  | createOwned free known owner owned => exact ⟨rfl, stored s⟩

/-- No entity is created with the type and name of a stored one. -/
theorem Named.not_created {s s' : Store} {stamp : Stamp} {who : Caller} {id : EntityId}
    {typeName name : String} {properties : Properties} {owner : Option Ownership}
    {answer : Answer} (named : s.Named id typeName name)
    (given : properties.qualifiedName? = some name) :
    s.perform stamp who (.createEntity typeName properties owner) ≠ .ok (answer, s') := by
  intro created
  obtain ⟨e, stored, typed, named⟩ := named
  cases perform_eq_ok_iff.mp created with
  | create free => exact free.not_named given stored typed named
  | createOwned free known owner owned => exact free.not_named given stored typed named

/-- Of two calls that create entities of one type and name, the second one succeeds only if the
name of the first one's entity was released between them. -/
theorem released_between {before between : List Issued} {first second : Issued}
    {typeName name : String} {properties properties' : Properties} {owner owner' : Option Ownership}
    (fresh : empty.FreshRun (before ++ first :: between))
    (creates : first.call = .createEntity typeName properties owner)
    (given : properties.qualifiedName? = some name)
    (creates' : second.call = .createEntity typeName properties' owner')
    (given' : properties'.qualifiedName? = some name)
    (done : ((empty.run before).perform first.stamp first.caller first.call).isOk = true)
    (done' : ((empty.run (before ++ first :: between)).perform second.stamp second.caller
      second.call).isOk = true) :
    ∃ id next middle c rest,
      (empty.run before).perform first.stamp first.caller first.call = .ok (.entity id, next) ∧
      between = middle ++ c :: rest ∧
      (empty.run (before ++ first :: middle)).Releases c id name := by
  obtain ⟨stamp, who, call⟩ := first
  obtain ⟨stamp', who', call'⟩ := second
  dsimp only at creates creates' done done' ⊢
  subst creates creates'
  cases made : (empty.run before).perform stamp who (.createEntity typeName properties owner) with
  | error e =>
    rw [made] at done
    cases done
  | ok result =>
    obtain ⟨answer, next⟩ := result
    obtain ⟨rfl, named⟩ := named_of_created given made
    have next_eq : (empty.run before).after ⟨stamp, who, .createEntity typeName properties owner⟩ =
        next := by
      rw [after, afterCall, made]
    have later := (freshRun_append.mp fresh).2.2
    rw [next_eq] at later
    rcases named.run later with kept | ⟨middle, c, rest, split, released⟩
    · rw [run_append, run_cons, next_eq] at done'
      cases made' : (next.run between).perform stamp' who'
          (.createEntity typeName properties' owner') with
      | error e =>
        rw [made'] at done'
        cases done'
      | ok result' => exact absurd made' (kept.not_created given')
    · refine ⟨_, next, middle, c, rest, rfl, split, ?_⟩
      rw [run_append, run_cons, next_eq]
      exact released

/-- Calls lead to the store from nothing, with identifiers that were not in use. -/
def Reached (s : Store) : Prop := ∃ calls, empty.FreshRun calls ∧ s = empty.run calls

theorem Reached.sound {s : Store} (reached : s.Reached) : s.Integrity ∧ s.Unique := by
  obtain ⟨calls, fresh, rfl⟩ := reached
  exact unique_empty.run integrity_empty fresh

theorem Reached.change {s s' : Store} {stamp : Stamp} {who : Caller} {call : Call} {answer : Answer}
    (reached : s.Reached) (fresh : stamp.Fresh s call) (change : Change s stamp who call answer s') :
    s'.Reached := by
  obtain ⟨calls, made, rfl⟩ := reached
  refine ⟨calls ++ [⟨stamp, who, call⟩], freshRun_append.mpr ⟨made, fresh, trivial⟩, ?_⟩
  rw [run_append, run_cons, after, afterCall, perform_eq_ok_iff.mpr change]
  rfl

/-- Whatever callers make calls on an empty store, in whatever order: names and edges are unique,
looking for a name in any order of the entities finds exactly the one that has it, and a name is
given again only after it was released. -/
theorem names_and_edges_unique (calls : List Issued) (fresh : empty.FreshRun calls) :
    (empty.run calls).Unique ∧
    (∀ order : List Entity, order.Perm (empty.run calls).entities.values →
      ∀ name typeName e,
        order.find? (fun e => e.typeName = typeName && e.qualifiedName? = some name) = some e ↔
          (empty.run calls).entities.get? e.id = some e ∧ e.typeName = typeName ∧
            e.qualifiedName? = some name) ∧
    (∀ name typeName e, (empty.run calls).findByName? name typeName = some e ↔
      (empty.run calls).entities.get? e.id = some e ∧ e.typeName = typeName ∧
        e.qualifiedName? = some name) ∧
    ∀ before first between second rest typeName name properties properties' owner owner',
      calls = before ++ first :: between ++ second :: rest →
      first.call = .createEntity typeName properties owner →
      properties.qualifiedName? = some name →
      second.call = .createEntity typeName properties' owner' →
      properties'.qualifiedName? = some name →
      ((empty.run before).perform first.stamp first.caller first.call).isOk = true →
      ((empty.run (before ++ first :: between)).perform second.stamp second.caller
        second.call).isOk = true →
      ∃ id next middle c later,
        (empty.run before).perform first.stamp first.caller first.call = .ok (.entity id, next) ∧
        between = middle ++ c :: later ∧
        (empty.run (before ++ first :: middle)).Releases c id name := by
  obtain ⟨sound, unique⟩ := unique_empty.run integrity_empty fresh
  refine ⟨unique, fun order perm name typeName e => find?_named_iff sound unique perm,
    fun name typeName e => findByName?_eq_some_iff sound unique, ?_⟩
  rintro before first between second rest typeName name properties properties' owner owner' rfl
    creates given creates' given' done done'
  exact released_between (freshRun_append.mp fresh).1 creates given creates' given' done done'

theorem names_and_edges_unique_sample :
    (empty.FreshRun sampleRun ∧ (empty.run sampleRun).Unique) ∧
    ∃ id next middle c later,
      (empty.run (sampleRun.take 1)).perform sampleRun[1].stamp sampleRun[1].caller
        sampleRun[1].call = .ok (.entity id, next) ∧
      (sampleRun.drop 2).take 3 = middle ++ c :: later ∧
      (empty.run (sampleRun.take 1 ++ sampleRun[1] :: middle)).Releases c id "a" := by
  have fresh : empty.FreshRun sampleRun := by decide +kernel
  have history := (names_and_edges_unique sampleRun fresh).2.2.2 (sampleRun.take 1) sampleRun[1]
    ((sampleRun.drop 2).take 3) sampleRun[5] (sampleRun.drop 6) TypeName.portAlias "a" _ _ _ _
    rfl rfl (by decide +kernel) rfl (by decide +kernel) (by decide +kernel) (by decide +kernel)
  exact ⟨⟨fresh, (names_and_edges_unique sampleRun fresh).1⟩, history⟩

end LineagePorts.Store
