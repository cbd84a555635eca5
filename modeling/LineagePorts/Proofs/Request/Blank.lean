import LineagePorts.Proofs.Request.Checked
import LineagePorts.Proofs.Request.Removal

/-!
# Blank names and users

A store keeps whatever name and user a call gives it, so that a blank one is kept out only by a check
before the call. Every operation on ports makes that check, and what it stores is filled in. The
creation of a process or a schema type makes none: it is the one way for a blank name or a blank user
to come into a store, and what it stored then stays as it is, since only ports are updated.
-/

namespace LineagePorts

/-- No name and no user of the record is blank. -/
structure Entity.FilledIn (e : Entity) : Prop where
  name : ∀ {name}, e.qualifiedName? = some name → Text.isBlank name = false
  creator : Text.isBlank e.createdBy = false
  updater : ∀ {user}, e.updatedBy = some user → Text.isBlank user = false

/-- The entity is as a request created it: it has its name and its user and nothing else. -/
def Entity.PlainOf (e : Entity) (q : Submission) : Prop :=
  ∃ name, q.request.plain? = some (e.typeName, name) ∧ e.properties = .ofName name ∧
    e.createdBy = q.user ∧ e.updatedBy = none

namespace Store

/-- Whatever is stored is filled in, but for the plain entities of these requests. -/
structure FilledInBut (creations : List Submission) (s : Store) : Prop where
  entities : ∀ {id e}, s.entities.get? id = some e →
    e.FilledIn ∨ ∃ q ∈ creations, e.PlainOf q
  relationships : ∀ {id r}, s.relationships.get? id = some r → Text.isBlank r.createdBy = false

/-- Whatever is stored is filled in. -/
def FilledIn (s : Store) : Prop := s.FilledInBut []

theorem FilledIn.entity {s : Store} (filled : s.FilledIn) {id : EntityId} {e : Entity}
    (stored : s.entities.get? id = some e) : e.FilledIn := by
  rcases filled.entities stored with filled | ⟨q, mem, -⟩
  · exact filled
  · cases mem

variable {s s' : Store} {creations : List Submission}

theorem FilledInBut.mono {more : List Submission} (filled : s.FilledInBut creations)
    (further : creations ⊆ more) : s.FilledInBut more where
  entities stored := (filled.entities stored).imp_right fun ⟨q, mem, plain⟩ => ⟨q, further mem, plain⟩
  relationships := filled.relationships

theorem FilledInBut.putEntity (filled : s.FilledInBut creations) {e : Entity}
    (new : e.FilledIn ∨ ∃ q ∈ creations, e.PlainOf q) : (s.putEntity e).FilledInBut creations where
  entities stored := by
    rcases get?_putEntity_cases stored with ⟨-, rfl⟩ | old
    · exact new
    · exact filled.entities old
  relationships := filled.relationships

theorem FilledInBut.addRelationship (filled : s.FilledInBut creations) {r : Relationship}
    (new : Text.isBlank r.createdBy = false) : (s.addRelationship r).FilledInBut creations where
  entities := filled.entities
  relationships stored := by
    rcases get?_addRelationship_cases stored with ⟨-, rfl⟩ | old
    · exact new
    · exact filled.relationships old

theorem filledIn_newPort {stamp : Stamp} {user : String} {source : ExternalSource} {port : Port}
    (typeName : String) (signed : Text.isBlank user = false)
    (named : Text.isBlank port.qualifiedName = false) :
    (newEntity stamp ⟨user, source⟩ typeName port.properties).FilledIn where
  name given := by
    obtain rfl := Option.some.inj (port.qualifiedName?_properties.symm.trans given)
    exact named
  creator := signed
  updater given := by cases given

/-- A plain entity is no port, and so an entity that is updated was filled in. -/
theorem FilledInBut.creator_of_port (filled : s.FilledInBut creations) {id : EntityId} {e : Entity}
    {kind : PortKind} (stored : s.entities.get? id = some e) (typed : e.typeName = kind.typeName) :
    Text.isBlank e.createdBy = false := by
  rcases filled.entities stored with filled | ⟨⟨user, source, around, request⟩, -, name, plain, -⟩
  · exact filled.creator
  · rw [typed] at plain
    cases request with
    | createProcess n => exact absurd (congrArg Prod.fst (Option.some.inj plain)) kind.process_ne
    | createSchemaType n =>
      exact absurd (congrArg Prod.fst (Option.some.inj plain)) kind.schemaType_ne
    | _ => cases plain

theorem FilledInBut.replace (filled : s.FilledInBut creations) {id : EntityId} {e : Entity}
    (new : e.FilledIn) : (s.replace id e).FilledInBut creations where
  entities stored := by
    rw [get?_replace] at stored
    split at stored
    · exact .inl (Option.some.inj stored ▸ new)
    · exact filled.entities stored
  relationships := filled.relationships

theorem FilledInBut.without (filled : s.FilledInBut creations) (id : EntityId) :
    (s.without id).FilledInBut creations where
  entities stored := filled.entities (entities_without_iff.mp stored).2
  relationships stored := filled.relationships (relationships_without_iff.mp stored).1

/-- A checked call stores nothing blank. -/
theorem FilledInBut.change (filled : s.FilledInBut creations) {stamp : Stamp} {user : String}
    {who : Caller} {call : Call} {answer : Answer} (checked : Checked user who call)
    (change : Change s stamp who call answer s') : s'.FilledInBut creations := by
  cases checked with
  | create signed named =>
    cases change with
    | create free => exact filled.putEntity (.inl (filledIn_newPort _ signed named))
    | createOwned free known owner owned =>
      exact (filled.putEntity (.inl (filledIn_newPort _ signed named))).addRelationship signed
  | @update source id kind port signed named =>
    generalize typed : kind.typeName = typeName at change
    cases change with
    | @update _ _ e stored free =>
      have creator := filled.creator_of_port stored typed.symm
      refine filled.replace ⟨fun given => ?_, creator, fun given => ?_⟩
      · obtain rfl := Option.some.inj (port.qualifiedName?_properties.symm.trans given)
        exact named
      · obtain rfl := Option.some.inj given
        exact signed
  | delete =>
    cases change with
    | delete stored => exact filled.without _
  | link signed =>
    cases change with
    | link known starts finishes absent => exact filled.addRelationship signed
    | keep known starts finishes present => exact filled

end Store

/-- A run of checked calls stores nothing blank. -/
theorem Backend.filledInBut_run {b : Backend} {calls : List (Option SaveFault × Issued)}
    {creations : List Submission} {user : String} (filled : b.store.FilledInBut creations)
    (checked : ∀ c ∈ calls, Store.Checked user c.2.caller c.2.call) :
    (b.run calls).store.FilledInBut creations := by
  induction calls generalizing b with
  | nil => exact filled
  | cons c cs ih =>
    obtain ⟨first, rest⟩ := List.forall_mem_cons.mp checked
    refine ih ?_ rest
    rcases b.after_cases c with same | ⟨answer, -, change⟩
    · rw [same]
      exact filled
    · exact filled.change first change

/-- A call that is to be made is one of the trace. -/
theorem Surroundings.called_of_mem_writesFrom {around : Surroundings} {n : Nat}
    {events : List Event} {c : Option SaveFault × Issued}
    (mem : c ∈ around.writesFrom n events) : .called c.2.caller c.2.call ∈ events := by
  induction events generalizing n with
  | nil => cases mem
  | cons e events ih =>
    cases e with
    | resolved user source granted => exact List.mem_cons_of_mem _ (ih mem)
    | called who call =>
      rcases List.mem_cons.mp mem with rfl | mem
      · exact List.mem_cons_self
      · exact List.mem_cons_of_mem _ (ih mem)

def Outcome.isCreated : Outcome → Bool
  | .created _ => true
  | _ => false

namespace Submission

variable {b : Backend} {q : Submission}

/-- Neither the user nor the name of a plain entity is blank. -/
structure FilledIn (q : Submission) : Prop where
  user : Text.isBlank q.user = false
  name : ∀ {typeName name}, q.request.plain? = some (typeName, name) → Text.isBlank name = false

instance (q : Submission) : Decidable q.FilledIn :=
  decidable_of_iff (Text.isBlank q.user = false ∧
    (q.request.plain?.all fun named => !Text.isBlank named.2) = true) (by
    rw [Option.all_eq_true]
    constructor
    · rintro ⟨user, name⟩
      exact ⟨user, fun plain => by simpa using name _ plain⟩
    · rintro ⟨user, name⟩
      exact ⟨user, fun _ plain => by simpa using name plain⟩)

def createsPlain (q : Submission) (b : Backend) : Bool :=
  q.request.plain?.isSome && (q.outcome b).isCreated

/-- The requests that create a plain entity when they are made one after the other. -/
def plainCreations : Backend → List Submission → List Submission
  | _, [] => []
  | b, q :: qs => (if q.createsPlain b then [q] else []) ++ plainCreations (q.leaves b) qs

/-- The store at some moment while requests are made one after the other: before any of them, after
some calls of one of them, or at a later moment. -/
inductive Moment : Backend → List Submission → Store → Prop where
  | start (b : Backend) (qs : List Submission) : Moment b qs b.store
  | within {b : Backend} {q : Submission} {qs : List Submission}
      {sofar : List (Option SaveFault × Issued)} (early : sofar <+: q.writes b) :
      Moment b (q :: qs) (b.run sofar).store
  | later {b : Backend} {q : Submission} {qs : List Submission} {s : Store}
      (moment : Moment (q.leaves b) qs s) : Moment b (q :: qs) s

theorem moment_leavesAll (b : Backend) (qs : List Submission) : Moment b qs (leavesAll b qs).store := by
  induction qs generalizing b with
  | nil => exact .start b []
  | cons q qs ih => exact .later (ih (q.leaves b))

theorem mayMake_of_mem_writes {c : Option SaveFault × Issued} (mem : c ∈ q.writes b) :
    q.request.MayMake q.user c.2.caller c.2.call := by
  have only : (q.request.apply q.user q.source).Only (q.request.MayMake q.user) :=
    Request.only_apply q.request
  obtain ⟨added, traced, within⟩ := only q.around ⟨b, []⟩
  refine within _ _ ?_
  have inTrace := Surroundings.called_of_mem_writesFrom mem
  rw [Request.applyAt] at inTrace
  rwa [traced] at inTrace

theorem leaves_eq_run (q : Submission) (b : Backend) : q.leaves b = b.run (q.writes b) := by
  have conduct : Conduct q.user q.source q.around ⟨b, []⟩
      ((q.request.apply q.user q.source).perform q.around ⟨b, []⟩) :=
    Request.conduct_apply q.request
  obtain ⟨added, went⟩ := conduct.continues
  rw [leaves, writes, Request.applyAt]
  dsimp only
  rw [went]
  rfl

end Submission

/-- A plain entity is created by one call, if the registry grants it. Then it is stored as it was asked
for; and if it is not created, the store stays as it was. -/
theorem Request.createNamed_cases (user source typeName name : String) (around : Surroundings)
    (b : Backend) :
    let result := (createNamed user source typeName name).perform around ⟨b, []⟩
    (around.writesFrom 0 result.2.trace).length ≤ 1 ∧
      ((∃ e, result.1 = .error e ∧ result.2.store = b.store) ∨
        ∃ id stamp x, result.1 = .ok (.created id) ∧ result.2.store =
          b.store.putEntity (Store.newEntity stamp ⟨user, x⟩ typeName (.ofName name))) := by
  have course : Course user source (fun _ _ => True) around ⟨b, []⟩
      ((createNamed user source typeName name).perform around ⟨b, []⟩) :=
    course_createNamed_within trivial
  generalize performed : (createNamed user source typeName name).perform around ⟨b, []⟩ = made
    at course
  obtain ⟨answer, after⟩ := made
  refine ⟨course.length_writesFrom_le_one, ?_⟩
  cases answer with
  | error e => exact .inl ⟨e, rfl, course.store_of_error⟩
  | ok outcome =>
    obtain ⟨id, sourceId, rfl, issued⟩ := createNamed_answers performed
    have change := Desk.change_of_issue issued
    dsimp only
    generalize after.store = s at change
    cases change with
    | create free => exact .inr ⟨_, _, _, rfl, rfl⟩

theorem Request.apply_of_plain {request : Request} {typeName name : String}
    (plain : request.plain? = some (typeName, name)) (user source : String) :
    request.apply user source = onPorts (createNamed user source typeName name) := by
  cases request with
  | createProcess n =>
    obtain ⟨rfl, rfl⟩ := Prod.mk.inj (Option.some.inj plain)
    rfl
  | createSchemaType n =>
    obtain ⟨rfl, rfl⟩ := Prod.mk.inj (Option.some.inj plain)
    rfl
  | _ => cases plain

namespace Submission

variable {b : Backend} {q : Submission} {creations : List Submission} {s : Store}

theorem plain_cases {typeName name : String} (plain : q.request.plain? = some (typeName, name)) :
    (q.writes b).length ≤ 1 ∧
      ((q.createsPlain b = false ∧ (q.leaves b).store = b.store) ∨
        (q.createsPlain b = true ∧
          ∃ e : Entity, e.PlainOf q ∧ (q.leaves b).store = b.store.putEntity e)) := by
  have cases := Request.createNamed_cases q.user q.source typeName name q.around b
  rw [createsPlain, plain, outcome, leaves, writes, Request.applyAt, Request.apply_of_plain plain,
    Request.onPorts, Operation.perform_mapError]
  dsimp only at cases ⊢
  generalize (Request.createNamed q.user q.source typeName name).perform q.around ⟨b, []⟩ = result
    at cases ⊢
  obtain ⟨answer, after⟩ := result
  obtain ⟨few, ⟨e, rfl, same⟩ | ⟨id, stamp, x, rfl, stored⟩⟩ := cases
  · exact ⟨few, .inl ⟨rfl, same⟩⟩
  · exact ⟨few, .inr ⟨rfl, _, ⟨name, plain, rfl, rfl, rfl⟩, stored⟩⟩

/-- A request stores nothing blank but the plain entity that it creates. -/
theorem filledInBut_within (filled : b.store.FilledInBut creations)
    {sofar : List (Option SaveFault × Issued)} (early : sofar <+: q.writes b) :
    (b.run sofar).store.FilledInBut
      (creations ++ if q.createsPlain b then [q] else []) := by
  cases plain : q.request.plain? with
  | none =>
    have checked : ∀ c ∈ sofar, Store.Checked q.user c.2.caller c.2.call := by
      intro c mem
      have may := mayMake_of_mem_writes (early.subset mem)
      generalize c.2.caller = who, c.2.call = call at may ⊢
      cases may with
      | plain isPlain =>
        rw [plain] at isPlain
        cases isPlain
      | checked ported checked => exact checked
    exact (Backend.filledInBut_run filled checked).mono (List.subset_append_left _ _)
  | some named =>
    obtain ⟨few, created⟩ := plain_cases (b := b) plain
    have left : (q.leaves b).store.FilledInBut (creations ++ if q.createsPlain b then [q] else []) := by
      rcases created with ⟨refused, same⟩ | ⟨accepted, e, isPlain, stored⟩
      · rw [same]
        exact filled.mono (List.subset_append_left _ _)
      · rw [stored, accepted, if_pos rfl]
        refine (filled.mono (List.subset_append_left _ _)).putEntity (.inr ⟨q, ?_, isPlain⟩)
        exact List.mem_append_right _ List.mem_cons_self
    -- One call at most: nothing was called yet, or everything was.
    rcases sofar with _ | ⟨c, cs⟩
    · exact filled.mono (List.subset_append_left _ _)
    · have whole : c :: cs = q.writes b := by
        refine early.eq_of_length (Nat.le_antisymm early.length_le ?_)
        exact few.trans (Nat.succ_le_succ (Nat.zero_le _))
      rw [whole, ← leaves_eq_run]
      exact left

/-- At every moment whatever is stored is filled in, but for the plain entities that were created. -/
theorem Moment.filledInBut {qs : List Submission} (moment : Moment b qs s)
    (filled : b.store.FilledInBut creations) : s.FilledInBut (creations ++ plainCreations b qs) := by
  induction moment generalizing creations with
  | start b qs => exact filled.mono (List.subset_append_left _ _)
  | within early =>
    rw [plainCreations, ← List.append_assoc]
    exact (filledInBut_within filled early).mono (List.subset_append_left _ _)
  | later moment ih =>
    rw [plainCreations, ← List.append_assoc]
    refine ih ?_
    rw [leaves_eq_run]
    exact filledInBut_within filled (List.prefix_refl _)

/-- The entity that a plain creation stores is there at some moment. -/
theorem exists_moment_of_plain {qs : List Submission} (mem : q ∈ plainCreations b qs) :
    ∃ (s : Store) (id : EntityId) (e : Entity), Moment b qs s ∧ s.entities.get? id = some e ∧
      e.PlainOf q := by
  induction qs generalizing b with
  | nil => cases mem
  | cons p qs ih =>
    rcases List.mem_append.mp mem with now | later
    · cases creates : p.createsPlain b with
      | false => simp [creates] at now
      | true =>
        obtain rfl : q = p := by simpa [creates] using now
        have isSome : q.request.plain?.isSome = true := (Bool.and_eq_true_iff.mp creates).1
        obtain ⟨named, plain⟩ := Option.isSome_iff_exists.mp isSome
        obtain ⟨-, ⟨refused, -⟩ | ⟨-, e, isPlain, stored⟩⟩ := plain_cases (b := b) plain
        · rw [creates] at refused
          cases refused
        · refine ⟨_, e.id, e, .later (.start _ _), ?_, isPlain⟩
          rw [stored]
          exact Store.get?_putEntity_self _ _
    · obtain ⟨s, id, e, moment, stored, isPlain⟩ := ih later
      exact ⟨s, id, e, .later moment, stored, isPlain⟩

end Submission

theorem Entity.PlainOf.filledIn_iff {e : Entity} {q : Submission} (plain : e.PlainOf q) :
    e.FilledIn ↔ q.FilledIn := by
  obtain ⟨name, isPlain, properties, creator, updater⟩ := plain
  have named : e.qualifiedName? = some name := by
    rw [Entity.qualifiedName?, properties, Properties.qualifiedName?_ofName]
  constructor
  · intro filled
    refine ⟨creator ▸ filled.creator, fun given => ?_⟩
    rw [isPlain] at given
    obtain ⟨-, rfl⟩ := Prod.mk.inj (Option.some.inj given)
    exact filled.name named
  · intro filled
    refine ⟨fun given => ?_, creator ▸ filled.user, fun given => ?_⟩
    · rw [named] at given
      obtain rfl := Option.some.inj given
      exact filled.name isPlain
    · rw [updater] at given
      cases given

/-- However many requests are made, of whomever and over whatever registries: at every moment each
blank name and each blank user in the store is that of a process or a schema type that one of the
requests created, and so none is stored at any moment exactly when no such request had a blank one. -/
theorem blank_only_where_unchecked {b : Backend} (filled : b.store.FilledIn) (qs : List Submission) :
    (∀ s, Submission.Moment b qs s → s.FilledInBut (Submission.plainCreations b qs)) ∧
      ((∀ s, Submission.Moment b qs s → s.FilledIn) ↔
        ∀ q ∈ Submission.plainCreations b qs, q.FilledIn) := by
  have whole (s : Store) (moment : Submission.Moment b qs s) :
      s.FilledInBut (Submission.plainCreations b qs) := moment.filledInBut filled
  refine ⟨whole, ?_, ?_⟩
  · intro always q mem
    obtain ⟨s, id, e, moment, stored, plain⟩ := Submission.exists_moment_of_plain mem
    exact plain.filledIn_iff.mp ((always s moment).entity stored)
  · intro creations s moment
    refine ⟨fun stored => ?_, (whole s moment).relationships⟩
    rcases (whole s moment).entities stored with filled | ⟨q, mem, plain⟩
    · exact .inl filled
    · exact .inl (plain.filledIn_iff.mpr (creations q mem))

theorem Store.filledIn_empty : Store.empty.FilledIn where
  entities stored := by cases stored
  relationships stored := by cases stored

/-- A process, a schema type and a port with that schema type, over a source that every user may act
for. The last request is refused to a user without a name. -/
def sampleWork (process user : String) : List Submission :=
  let around (first : Nat) : Surroundings :=
    { Surroundings.sample first with registry := ⟨[⟨"engine", ⟨.zero⟩, none⟩]⟩ }
  [⟨"steward", "engine", around 0, .createProcess process⟩,
   ⟨user, "engine", around 2, .createSchemaType "s"⟩,
   ⟨"steward", "engine", around 4, .createPort .implementation process (.plain "a" "a" .input) none⟩,
   ⟨user, "engine", around 8, .addSchema "a" "s"⟩]

/-- With names and users nothing blank is ever stored, and without them something is. -/
theorem blank_only_where_unchecked_sample :
    (∀ s, Submission.Moment (.memory .empty) (sampleWork "p" "analyst") s → s.FilledIn) ∧
      (Submission.plainCreations (.memory .empty) (sampleWork "p" "analyst")).length = 2 ∧
      ¬ (∀ s, Submission.Moment (.memory .empty) (sampleWork "p" " ") s → s.FilledIn) ∧
      ¬ ∀ s, Submission.Moment (.memory .empty) (sampleWork "" "analyst") s → s.FilledIn := by
  have told (process user : String) : (∀ s,
      Submission.Moment (.memory .empty) (sampleWork process user) s → s.FilledIn) ↔
        ∀ q ∈ Submission.plainCreations (.memory .empty) (sampleWork process user), q.FilledIn :=
    (blank_only_where_unchecked (b := .memory .empty) Store.filledIn_empty _).2
  rw [told, told, told]
  decide +kernel

/-- A process without a name and a schema type of a user without one are stored. -/
theorem blank_is_stored : ¬ ∀ (qs : List Submission) (s : Store),
    Submission.Moment (.memory .empty) qs s → s.FilledIn := by
  intro never
  have filled := never (sampleWork "" " ") _ (Submission.moment_leavesAll _ _)
  have stored : ((Submission.leavesAll (.memory .empty) (sampleWork "" " ")).store.entities.get?
      ⟨.ofParts 0 0⟩).bind Entity.qualifiedName? = some "" := by decide +kernel
  obtain ⟨e, found, named⟩ := Option.bind_eq_some_iff.mp stored
  exact absurd ((filled.entity found).name named) (by decide)

end LineagePorts
