import LineagePorts.Proofs.Operation.PortAgreement
import LineagePorts.Proofs.Request.Atomicity
import LineagePorts.Proofs.Request.Settled

/-!
# Requests about different names

A request looks at nothing but the entities with the names that it mentions, the relationships
between them and the schema type of a port that it is to describe, and it changes nothing but these.
So two requests that mention no name in common answer the same in both orders and leave the same
store, if each of them is given the same stamps. That holds of requests that fail and of removals,
which take relationships with ports of other names away.
-/

namespace LineagePorts

namespace Store

variable {names : List String} {s t : Store} {id : EntityId}

section Schema

variable (seen : SameSeen names s t) (sound : s.Integrity ∧ s.Unique)
  (sound' : t.Integrity ∧ t.Unique) (port : s.HoldsPort names id)

include seen port

theorem SameSeen.linked_iff {far : EntityId} :
    s.Linked TypeName.portSchema id far ↔ t.Linked TypeName.portSchema id far := by
  constructor
  · rintro ⟨k, r, stored, typed, rfl, ends⟩
    exact ⟨k, r, (seen.schemaLinks typed port.holds).mp stored, typed, rfl, ends⟩
  · rintro ⟨k, r, stored, typed, rfl, ends⟩
    exact ⟨k, r, (seen.schemaLinks typed port.holds).mpr stored, typed, rfl, ends⟩

include sound sound'

theorem SameSeen.perm_farEnds :
    (s.farEnds id TypeName.portSchema).Perm (t.farEnds id TypeName.portSchema) := by
  have port' := seen.toSameFor.holdsPort port
  have nodup := nodup_farEnds_portSchema sound.1 sound.2 port.hasType
  have nodup' := nodup_farEnds_portSchema sound'.1 sound'.2 port'.hasType
  refine (List.perm_ext_iff_of_nodup nodup nodup').mpr fun far => ?_
  rw [mem_farEnds_portSchema_iff sound.1 port.hasType,
    mem_farEnds_portSchema_iff sound'.1 port'.hasType, seen.linked_iff port]

/-- The schema type of a port is the same: there is one, there is none, or there are too many. -/
theorem SameSeen.traverse_eq :
    s.traverse id TypeName.port .portSchema = t.traverse id TypeName.port .portSchema := by
  have perm := seen.perm_farEnds sound sound' port
  have far_entity {far : EntityId} (mem : far ∈ s.farEnds id TypeName.portSchema) :
      s.entity far = t.entity far := by
    obtain ⟨k, r, stored, typed, rfl, rfl⟩ :=
      (mem_farEnds_portSchema_iff sound.1 port.hasType).mp mem
    rw [entity, entity, seen.schemaTypes stored typed port.holds]
  rw [traverse_of_hasType port.hasType, traverse_of_hasType (seen.toSameFor.holdsPort port).hasType]
  simp only [RelationshipType.portSchema] at perm far_entity ⊢
  generalize s.farEnds id TypeName.portSchema = ends at perm far_entity ⊢
  cases ends with
  | nil => rw [List.nil_perm.mp perm]
  | cons far more =>
    cases more with
    | nil =>
      rw [← List.singleton_perm.mp perm]
      exact congrArg (Except.map some) (far_entity List.mem_cons_self)
    | cons second rest =>
      have several := perm.length_eq
      generalize t.farEnds id TypeName.portSchema = ends at several ⊢
      rcases ends with _ | ⟨_, _ | ⟨_, _⟩⟩
      · cases several
      · cases several
      · rfl

end Schema

end Store

namespace Request

open Operation PortOperation

/-- The qualified names that a request mentions. -/
def names : Request → List String
  | .createProcess name => [name]
  | .createSchemaType name => [name]
  | .createPort _ process port delegatesTo =>
    process :: port.qualifiedName :: delegatesTo.toList
  | .updatePort _ port => [port.qualifiedName]
  | .addSchema port schemaType => [port, schemaType]
  | .addDelegation port _ delegatesTo => [port, delegatesTo]
  | .removePort name => [name]
  | .findPort name => [name]

variable {names : List String} {user source : String} {around : Surroundings} {d d' m : Desk}
  (abreast : d.Abreast names d')

include abreast

theorem concurs_entityNamed {name : String} (mem : name ∈ names) (typeName : String) :
    Concurs around d d' (entityNamed typeName name) := by
  have same := abreast.same.findByName?_eq abreast.sound abreast.sound' mem typeName
  refine (concurs_ask same).bind fun found _ => ?_
  cases found with
  | some e => exact concurs_pure _
  | none => exact concurs_throw _

theorem concurs_portNamed {name : String} (mem : name ∈ names) :
    Concurs around d d' (portNamed user name) := by
  refine (concurs_find abreast mem).bind fun found _ => ?_
  cases found with
  | some e => exact concurs_pure _
  | none => exact concurs_throw _

theorem concurs_schemaType (seen : Store.SameSeen names d.store d'.store) {port : EntityId}
    (stored : d.store.HoldsPort names port) :
    Concurs around d d' (schemaType user port) := by
  refine (concurs_ofExcept _).bind fun _ _ => (concurs_ofExcept _).bind fun type typed => ?_
  rw [perform_ofExcept] at typed
  obtain rfl : RelationshipType.portSchema = type := Except.ok.inj (Prod.mk.inj typed).1
  exact (concurs_ask (seen.traverse_eq abreast.sound abreast.sound' stored)).bind fun _ _ =>
    concurs_ofExcept _

theorem concurs_describePort (seen : Store.SameSeen names d.store d'.store) {name : String}
    (mem : name ∈ names) : Concurs around d d' (describePort user name) := by
  refine (concurs_find abreast mem).bind fun found answered => ?_
  cases found with
  | none => exact concurs_pure _
  | some port =>
    have stored := Store.holdsPort_of_portNamed? abreast.sound (find_answers answered).symm mem
    exact (concurs_schemaType abreast seen stored).bind fun _ _ => concurs_pure _

theorem keepsAbreast_createNamed {name : String} (mem : name ∈ names) (typeName : String) :
    KeepsAbreast names around d d' (createNamed user source typeName name) := by
  rw [createNamed, ← bind_assoc]
  have named := Properties.qualifiedName?_ofName name
  refine KeepsAbreast.bind_pure (.resolve_change (fun _ _ _ => rfl)
    (fun _ _ => Store.Answer.entity.inj) abreast (.create typeName ⟨name, mem, named⟩ ?_))
    fun _ => ⟨_, rfl⟩
  intro o given
  cases given

theorem keepsAbreast_updateNamed {port : Port} (mem : port.qualifiedName ∈ names)
    (kind : PortKind) :
    KeepsAbreast names around d d' (updateNamed user source kind port) := by
  refine .after (concurs_findOfKind abreast mem kind) abreast fun found answered => ?_
  cases found with
  | none => exact .of_concurs (concurs_throw _) abreast
  | some known =>
    have stored := Store.holdsPort_of_findByName? abreast.sound kind
      (findOfKind_answers answered).symm mem
    refine (keepsAbreast_update abreast mem kind stored).bind_pure fun update => ?_
    cases update with
    | updated => exact ⟨.updated, rfl⟩
    | unchanged => exact ⟨.unchanged, rfl⟩

omit abreast in
/-- A port that was created adds to its own names, and is stored under one of them. -/
theorem grows_of_created {port : Port} {kind : PortKind} {process id : EntityId}
    (created : (create user port kind process source).perform around d = (.ok id, m))
    (fresh : d.FreshTo around m) (mem : port.qualifiedName ∈ names)
    (owner : d.store.Holds names process) :
    d.store.Grows names m.store ∧ m.store.Holds names id := by
  obtain ⟨_, sourceId, _, issued⟩ := create_answers created
  have change := Desk.change_of_issue issued
  obtain ⟨told, e, stored, _, named⟩ :=
    Store.named_of_created port.qualifiedName?_properties (Store.perform_eq_ok_iff.mpr change)
  obtain rfl := Store.Answer.entity.inj told
  refine ⟨change.grows (Desk.fresh_of_issued issued fresh) (Port.namedIn mem) fun o given => ?_,
    e, stored, port.qualifiedName, mem, named⟩
  obtain rfl := Option.some.inj given
  exact owner

/-- The delegation of a new alias is made between entities that have these names by then. -/
theorem keepsAbreast_createForward {port : Port} (mem : port.qualifiedName ∈ names)
    {process : EntityId} (owner : d.store.Holds names process) {name : String}
    (mem' : name ∈ names) :
    KeepsAbreast names around d d' (createForward user source process ⟨port, some name⟩) := by
  have course (d : Desk) : Course user source Store.CreatesPort around d
      ((createAlias user ⟨port, some name⟩ process source).perform around d) :=
    course_create port .alias process
  have course' (id : EntityId) (d : Desk) : Course user source Store.LinksPort around d
      ((PortOperation.addDelegation user id port.portType name source >>= fun _ =>
        pure id).perform around d) :=
    (course_addDelegation id port.portType name).bind_pure fun _ => ⟨id, rfl⟩
  have created : KeepsAbreast names around d d'
      (createAlias user ⟨port, some name⟩ process source) :=
    keepsAbreast_create abreast mem .alias owner
  refine .after (concurs_target abreast mem' _) abreast fun _ _ => ?_
  refine created.bind_of_grows (fun d => (course d).continues)
    (fun id d => (course' id d).continues) fun id m m' performed fresh abreast => ?_
  obtain ⟨grows, holds⟩ := grows_of_created performed fresh mem owner
  exact ⟨grows, (keepsAbreast_addDelegation abreast holds mem' port.portType).bind_pure fun _ =>
    ⟨id, rfl⟩⟩

omit abreast in
theorem keepsAbreast_apply (request : Request) (abreast : d.Abreast request.names d')
    (seen : Store.SameSeen request.names d.store d'.store) :
    KeepsAbreast request.names around d d' (apply user source request) := by
  cases request with
  | createProcess name =>
    exact (keepsAbreast_createNamed abreast List.mem_cons_self _).mapError _
  | createSchemaType name =>
    exact (keepsAbreast_createNamed abreast List.mem_cons_self _).mapError _
  | createPort kind process port delegatesTo =>
    have mem : port.qualifiedName ∈ (createPort kind process port delegatesTo).names :=
      List.mem_cons_of_mem _ List.mem_cons_self
    have owning : process ∈ (createPort kind process port delegatesTo).names := List.mem_cons_self
    refine .after (concurs_entityNamed abreast owning _) abreast fun owner answered => ?_
    have holds := Store.holds_of_findByName? abreast.sound (entityNamed_answers answered) owning
    cases kind with
    | implementation =>
      exact ((keepsAbreast_create abreast mem .implementation holds).mapError _).bind_pure fun _ =>
        ⟨_, rfl⟩
    | «alias» =>
      cases delegatesTo with
      | none =>
        exact ((keepsAbreast_create abreast mem .alias holds).mapError _).bind_pure fun _ =>
          ⟨_, rfl⟩
      | some target =>
        have mem' : target ∈ (createPort .alias process port (some target)).names :=
          List.mem_cons_of_mem _ (List.mem_cons_of_mem _ List.mem_cons_self)
        exact ((keepsAbreast_createForward abreast mem holds mem').mapError _).bind_pure fun _ =>
          ⟨_, rfl⟩
  | updatePort kind port =>
    exact (keepsAbreast_updateNamed abreast List.mem_cons_self kind).mapError _
  | addSchema port schemaType =>
    have mem : port ∈ (addSchema port schemaType).names := List.mem_cons_self
    have mem' : schemaType ∈ (addSchema port schemaType).names :=
      List.mem_cons_of_mem _ List.mem_cons_self
    refine .after ((concurs_portNamed abreast mem).mapError _) abreast fun p first => ?_
    refine .after (concurs_entityNamed abreast mem' _) abreast fun t second => ?_
    have starts := Store.holdsPort_of_portNamed? abreast.sound
      (portNamed_answers (perform_mapError_eq_ok_iff.mp first)) mem
    have finishes := Store.holds_of_findByName? abreast.sound (entityNamed_answers second) mem'
    exact ((keepsAbreast_addSchema abreast starts.holds finishes).mapError _).bind_pure fun _ =>
      ⟨_, rfl⟩
  | addDelegation port portType delegatesTo =>
    have mem : port ∈ (addDelegation port portType delegatesTo).names := List.mem_cons_self
    have mem' : delegatesTo ∈ (addDelegation port portType delegatesTo).names :=
      List.mem_cons_of_mem _ List.mem_cons_self
    refine .mapError (.after (concurs_portNamed abreast mem) abreast fun p answered => ?_) _
    have starts := Store.holdsPort_of_portNamed? abreast.sound (portNamed_answers answered) mem
    exact (keepsAbreast_addDelegation abreast starts.holds mem' portType).bind_pure fun _ =>
      ⟨_, rfl⟩
  | removePort name =>
    exact ((keepsAbreast_remove abreast List.mem_cons_self).bind_pure fun _ => ⟨_, rfl⟩).mapError _
  | findPort name =>
    exact .of_concurs ((concurs_describePort abreast seen List.mem_cons_self).mapError _) abreast

end Request

/-- A request with who makes it and what its calls are given. -/
structure Submission where
  user : String
  source : String
  around : Surroundings
  request : Request

namespace Submission

def outcome (q : Submission) (b : Backend) : Outcome :=
  (q.request.applyAt q.user q.source q.around b).1

def leaves (q : Submission) (b : Backend) : Backend :=
  (q.request.applyAt q.user q.source q.around b).2.backend

/-- The calls of the request, each with its stamp and what the disk does. -/
def writes (q : Submission) (b : Backend) : List (Option SaveFault × Issued) :=
  q.around.writesFrom 0 (q.request.applyAt q.user q.source q.around b).2.trace

/-- The request takes identifiers that are not in use, and its calls are saved. -/
def Undisturbed (q : Submission) (b : Backend) : Prop :=
  b.FreshRun (q.writes b) ∧ b.SavedRun (q.writes b)

instance (q : Submission) (b : Backend) : Decidable (q.Undisturbed b) :=
  inferInstanceAs (Decidable (_ ∧ _))

theorem reached_leaves {q : Submission} {b : Backend} (reached : b.store.Reached)
    (undisturbed : q.Undisturbed b) : (q.leaves b).store.Reached :=
  Request.reached_applyAt reached q.request undisturbed.1

/-- Over two stores that look the same to it, a request ends alike, and it changes nothing but what
has the names that it mentions. -/
theorem endsAlike (q : Submission) {b b' : Backend} (reached : b.store.Reached)
    (reached' : b'.store.Reached) (seen : Store.SameSeen q.request.names b.store b'.store)
    (undisturbed : q.Undisturbed b) (undisturbed' : q.Undisturbed b') :
    q.outcome b = q.outcome b' ∧
      Store.SameFor q.request.names (q.leaves b).store (q.leaves b').store ∧
      b.store.Confined q.request.names (q.leaves b).store := by
  have abreast : Desk.Abreast q.request.names ⟨b, []⟩ ⟨b', []⟩ :=
    ⟨seen.toSameFor, reached.sound, reached'.sound, rfl⟩
  have keeps : Operation.KeepsAbreast q.request.names q.around ⟨b, []⟩ ⟨b', []⟩
      (q.request.apply q.user q.source) := Request.keepsAbreast_apply q.request abreast seen
  have ends := keeps
    ⟨Desk.along_of_performed undisturbed.1, Desk.along_of_performed undisturbed.2⟩
    ⟨Desk.along_of_performed undisturbed'.1, Desk.along_of_performed undisturbed'.2⟩
  exact ⟨congrArg Outcome.ofAnswer ends.answer, ends.abreast.same, ends.confined⟩

theorem confined (q : Submission) {b : Backend} (reached : b.store.Reached)
    (undisturbed : q.Undisturbed b) :
    b.store.Confined q.request.names (q.leaves b).store :=
  (q.endsAlike reached reached (.refl _ b.store) undisturbed undisturbed).2.2

/-- Two requests that mention no name in common, made one after the other, answer and leave the same
in both orders. They may be made by different users for different sources, and each of them may
succeed or fail. -/
theorem commute_of_apart {b : Backend} {q q' : Submission} (reached : b.store.Reached)
    (apart : ∀ name ∈ q.request.names, name ∉ q'.request.names)
    (inOrder : q.Undisturbed b ∧ q'.Undisturbed (q.leaves b))
    (reversed : q'.Undisturbed b ∧ q.Undisturbed (q'.leaves b)) :
    q.outcome (q'.leaves b) = q.outcome b ∧ q'.outcome (q.leaves b) = q'.outcome b ∧
      (q'.leaves (q.leaves b)).store.snapshot = (q.leaves (q'.leaves b)).store.snapshot := by
  have reachedFirst := reached_leaves reached inOrder.1
  have reachedSecond := reached_leaves reached reversed.1
  have first := q.confined reached inOrder.1
  have second := q'.confined reached reversed.1
  have apart' : ∀ name ∈ q'.request.names, name ∉ q.request.names :=
    fun name mem mem' => apart name mem' mem
  obtain ⟨answer, sameFirst, _⟩ := q.endsAlike reached reachedSecond
    (second.frame apart reached.sound.1) inOrder.1 reversed.2
  obtain ⟨answer', sameSecond, _⟩ := q'.endsAlike reached reachedFirst
    (first.frame apart' reached.sound.1) reversed.1 inOrder.2
  have square : Store.Square q.request.names q'.request.names b.store (q.leaves b).store
      (q'.leaves b).store (q'.leaves (q.leaves b)).store (q.leaves (q'.leaves b)).store :=
    { apart := apart
      first := first
      second := second
      secondLater := q'.confined reachedFirst inOrder.2
      firstLater := q.confined reachedSecond reversed.2
      sameFirst := sameFirst
      sameSecond := sameSecond }
  have same := square.closes reached.sound.1 (reached_leaves reachedFirst inOrder.2).sound.1
    (reached_leaves reachedSecond reversed.2).sound.1
  exact ⟨answer.symm, answer'.symm, congrArg Store.snapshot same⟩

/-- A port is removed and another one of its process is created. -/
theorem commute_of_apart_sample :
    let removal : Submission := ⟨"steward", "engine", .sample 4, .removePort "a"⟩
    let creation : Submission := ⟨"steward", "engine", .sample 6,
      .createPort .implementation "p" (.plain "b" "b" .input) none⟩
    let b := Backend.sample
    removal.outcome b = .removed ∧ creation.outcome b = .created ⟨.ofParts 0 6⟩ ∧
      removal.outcome (creation.leaves b) = removal.outcome b ∧
      creation.outcome (removal.leaves b) = creation.outcome b ∧
      (creation.leaves (removal.leaves b)).store.snapshot =
        (removal.leaves (creation.leaves b)).store.snapshot := by
  intro removal creation b
  have inOrder : removal.Undisturbed b ∧ creation.Undisturbed (removal.leaves b) := by
    decide +kernel
  have reversed : creation.Undisturbed b ∧ removal.Undisturbed (creation.leaves b) := by
    decide +kernel
  exact ⟨by decide +kernel, by decide +kernel,
    commute_of_apart Request.reached_sample (by decide) inOrder reversed⟩

end Submission

end LineagePorts
