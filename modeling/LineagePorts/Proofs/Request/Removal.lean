import LineagePorts.Proofs.Operation.Delegation
import LineagePorts.Proofs.Request.Commutation
import LineagePorts.Proofs.Request.Created
import LineagePorts.Proofs.Request.Perform
import LineagePorts.Proofs.Store.Undoing

/-!
# A removal undoes a creation

Whatever requests do with a port after it was created, they update it or link it: all that they leave
goes with the port. So the removal leaves what there was before the creation. Of two ports of one name
a removal takes the alias, and the next one the implementation. A removal is refused to a user without a
name, and so is one of a blank name, although the calls alone would store a port under such a name.
-/

namespace LineagePorts

namespace Store

/-- No port of either kind has the name. -/
def Lacks (s : Store) (name : String) : Prop :=
  ∀ (kind : PortKind) (id : EntityId), ¬ s.Named id kind.typeName name

/-- The second store is the first one without an entity and exactly the relationships that touch it. -/
structure Loses (s s' : Store) (id : EntityId) : Prop where
  entities : ∀ k, s'.entities.get? k = if k = id then none else s.entities.get? k
  relationships : ∀ k r, s'.relationships.get? k = some r ↔
    s.relationships.get? k = some r ∧ r.end1 ≠ id ∧ r.end2 ≠ id

theorem loses_without (s : Store) (id : EntityId) : s.Loses (s.without id) id where
  entities k := get?_entities_without s id k
  relationships _ _ := relationships_without_iff

/-- Without a port of the name, it stands for nothing. -/
theorem Lacks.portNamed?_eq_none {s : Store} {name : String} (lacks : s.Lacks name)
    (reached : s.Reached) : s.portNamed? name = none := by
  obtain ⟨sound, unique⟩ := reached.sound
  cases known : s.portNamed? name with
  | none => rfl
  | some e =>
    obtain ⟨kind, named⟩ := ((portNamed?_eq_some_iff sound unique).mp known).named
    exact absurd named (lacks kind e.id)

namespace Bears

variable {s s' : Store} {id : EntityId} {name : String} (bears : s.Bears id name s')
  (lacks : s.Lacks name) (reached : s'.Reached)

include bears lacks reached

theorem id_of_findByName? {kind : PortKind} {e : Entity}
    (found : s'.findByName? name kind.typeName = some e) : e.id = id := by
  obtain ⟨sound, unique⟩ := reached.sound
  obtain ⟨stored, typed, named⟩ := (findByName?_eq_some_iff sound unique).mp found
  exact bears.id_of_named (lacks kind e.id) ⟨e, stored, typed, named⟩

omit reached in
theorem id_of_standsFor {e : Entity} (stands : s'.StandsFor name e) : e.id = id := by
  obtain ⟨kind, named⟩ := stands.named
  exact bears.id_of_named (lacks kind e.id) named

theorem id_of_portNamed? {e : Entity} (known : s'.portNamed? name = some e) : e.id = id := by
  obtain ⟨sound, unique⟩ := reached.sound
  exact bears.id_of_standsFor lacks ((portNamed?_eq_some_iff sound unique).mp known)

/-- The name stands for the port that was created. -/
theorem standsFor : ∃ e, s'.StandsFor name e ∧ e.id = id := by
  obtain ⟨sound, unique⟩ := reached.sound
  cases known : s'.portNamed? name with
  | some e =>
    have stands := (portNamed?_eq_some_iff sound unique).mp known
    exact ⟨e, stands, bears.id_of_standsFor lacks stands⟩
  | none =>
    obtain ⟨asAlias, asImplementation⟩ := Option.or_eq_none_iff.mp known
    obtain ⟨kind, named⟩ := bears.named
    cases kind with
    | «alias» => exact absurd named ((findByName?_eq_none_iff sound unique).mp asAlias id)
    | implementation =>
      exact absurd named ((findByName?_eq_none_iff sound unique).mp asImplementation id)

end Bears

end Store

namespace PortOperation

open Operation Parameter

variable {user source : String} {around : Surroundings} {d m : Desk}

/-- A port that is found is removed by one call. -/
theorem perform_remove_found {id : SourceId} (granted : Granted around.registry user source id)
    {name : String} (notBlank : Text.isBlank name = false) {e : Entity}
    (found : d.store.portNamed? name = some e) :
    let issued := d.issue around ⟨user, id, source⟩ (.deleteEntity e.id)
    (remove user name source).perform around d = (issued.1.map fun _ => (), issued.2) := by
  intro issued
  have deleted : _ = issued := perform_resolve_deleteEntity granted.resolved e.id d
  rw [remove, perform_bind, perform_ofExcept, checkUser_of_not_blank granted.notBlank]
  dsimp only
  rw [perform_bind, perform_ofExcept, checkName_of_not_blank notBlank]
  dsimp only
  rw [perform_bind, perform_find granted.notBlank, notBlank, if_neg Bool.false_ne_true, found,
    ← deleted]
  dsimp only
  generalize (resolve user source >>= fun x => deleteEntity ⟨user, x⟩ e.id).perform around d = result
  obtain ⟨answer, after⟩ := result
  cases answer <;> rfl

/-- Without a name of a user and of a port nothing is looked for. -/
theorem perform_remove_blank {name : String}
    (blank : Text.isBlank user = true ∨ Text.isBlank name = true) :
    ∃ parameter, (remove user name source).perform around d =
      (.error (.invalidParameter parameter "remove_port"), d) := by
  rw [remove, perform_bind, perform_ofExcept]
  cases userBlank : Text.isBlank user with
  | true => exact ⟨userId, by rw [checkUser, checkName_of_blank userBlank]⟩
  | false =>
    have nameBlank : Text.isBlank name = true := by simpa [userBlank] using blank
    rw [checkUser_of_not_blank userBlank]
    dsimp only
    rw [perform_bind, perform_ofExcept, checkName_of_blank nameBlank]
    exact ⟨Parameter.qualifiedName, rfl⟩

end PortOperation

namespace Request

open Operation PortOperation

/-- A request that updates the port of this name, or links it. -/
inductive Tends (name : String) : Request → Prop where
  | update (kind : PortKind) {port : Port} (named : port.qualifiedName = name) :
      Tends name (.updatePort kind port)
  | addSchema (schemaType : String) : Tends name (.addSchema name schemaType)
  | delegateFrom (portType : PortType) (delegatesTo : String) :
      Tends name (.addDelegation name portType delegatesTo)
  | delegateTo (port : String) (portType : PortType) :
      Tends name (.addDelegation port portType name)

variable {user source : String} {around : Surroundings} {d : Desk} {b : Backend}

theorem perform_removePort (name : String) {answer : Except Failure Unit} {after : Desk}
    (removed : (remove user name source).perform around d = (answer, after)) :
    (apply user source (.removePort name)).perform around d =
      ((answer.map fun _ => Outcome.removed).mapError .port, after) := by
  show (onPorts (remove user name source >>= fun _ => pure Outcome.removed)).perform around d = _
  rw [onPorts, perform_mapError, perform_bind, removed]
  cases answer <;> rfl

/-- Such a request makes no call but one that attends to the port. -/
theorem course_of_tends {s : Store} {id : EntityId} {name : String} {request : Request}
    (tends : request.Tends name) (bears : s.Bears id name d.store) (lacks : s.Lacks name)
    (reached : d.store.Reached) :
    Course user source (fun _ => Store.Attends id name) around d
      ((apply user source request).perform around d) := by
  have simple : request.delegates = false := by cases tends <;> rfl
  have isIt {e : Entity} (found : d.store.portNamed? name = some e) : e.id = id :=
    bears.id_of_portNamed? lacks reached found
  refine (course_makes request simple).mono fun call makes => ?_
  cases tends with
  | @update kind port named =>
    cases makes with
    | update userNotBlank displayed notBlank found =>
      rw [named] at found
      rw [bears.id_of_findByName? lacks reached found]
      exact .update _ (named ▸ port.qualifiedName?_properties)
  | addSchema schemaType =>
    cases makes with
    | schema found typed absent => exact .link _ (.inl (isIt found))
  | delegateFrom portType delegatesTo =>
    cases makes with
    | delegation found known absent => exact .link _ (.inl (isIt found))
  | delegateTo port portType =>
    cases makes with
    | delegation found known absent => exact .link _ (.inr (isIt known))

theorem bears_of_course {s : Store} {id : EntityId} {name : String} {ε α : Type}
    {answer : Except ε α} {after : Desk}
    (course : Course user source (fun _ => Store.Attends id name) around d (answer, after))
    (fresh : d.FreshTo around after) (bears : s.Bears id name d.store) :
    s.Bears id name after.store := by
  rcases course.effect fresh with ⟨same, _⟩ | ⟨attends, new, change⟩
  · rw [same]
    exact bears
  · exact bears.change attends new change

/-- What a creation leaves is the store before and the port, with its links. -/
theorem bears_of_created (reached : b.store.Reached) {kind : PortKind} {process : String}
    {port : Port} {delegatesTo : Option String} {id : EntityId}
    (created : applyAt user source around b (.createPort kind process port delegatesTo) =
      (.created id, d))
    (fresh : b.FreshRun (around.writesFrom 0 d.trace)) :
    Text.isBlank port.qualifiedName = false ∧ b.store.Bears id port.qualifiedName d.store := by
  obtain ⟨typeName, properties, owner, sourceId, m, makes, issued, course⟩ :=
    created_answers (answered_of_applyAt created rfl)
  have continues := Desk.continues_issue ⟨b, []⟩ around ⟨user, sourceId, source⟩
    (.createEntity typeName properties owner)
  rw [issued] at continues
  obtain ⟨first, later⟩ :=
    Desk.freshTo_trans continues course.continues (Desk.along_of_performed fresh)
  have change := Desk.change_of_issue issued
  have new := Desk.fresh_of_issued issued first
  cases makes with
  | port owned displayed named =>
    obtain rfl := Store.Answer.entity.inj change.answer_of_create
    have bears := Store.Bears.of_created reached.sound.1 port.qualifiedName?_properties new change
    refine ⟨named, bears_of_course (course.mono ?_) later bears⟩
    rintro _ ⟨finish, typeName, rfl⟩
    exact .link _ (.inl rfl)

end Request

namespace Submission

/-- Requests that are made one after the other. -/
def leavesAll (b : Backend) (qs : List Submission) : Backend :=
  qs.foldl (fun b q => q.leaves b) b

/-- Each request takes identifiers that are not in use when it is made. -/
def FreshAll : Backend → List Submission → Prop
  | _, [] => True
  | b, q :: qs => b.FreshRun (q.writes b) ∧ FreshAll (q.leaves b) qs

instance decidableFreshAll : (b : Backend) → (qs : List Submission) → Decidable (FreshAll b qs)
  | _, [] => inferInstanceAs (Decidable True)
  | b, q :: qs =>
    have := decidableFreshAll (q.leaves b) qs
    inferInstanceAs (Decidable (_ ∧ _))

variable {b : Backend} {q : Submission} {s : Store} {id : EntityId} {name : String}

theorem reached_of_fresh (reached : b.store.Reached) (fresh : b.FreshRun (q.writes b)) :
    (q.leaves b).store.Reached :=
  Request.reached_applyAt reached q.request fresh

theorem bears_leaves (bears : s.Bears id name b.store) (lacks : s.Lacks name)
    (reached : b.store.Reached) (tends : q.request.Tends name) (fresh : b.FreshRun (q.writes b)) :
    s.Bears id name (q.leaves b).store := by
  have course : Course q.user q.source (fun _ => Store.Attends id name) q.around ⟨b, []⟩
      ((q.request.apply q.user q.source).perform q.around ⟨b, []⟩) :=
    Request.course_of_tends tends bears lacks reached
  exact Request.bears_of_course course (Desk.along_of_performed fresh) bears

/-- However often a port is tended to, what is left is the store before it was created and the port. -/
theorem bears_leavesAll {qs : List Submission} (bears : s.Bears id name b.store)
    (lacks : s.Lacks name) (reached : b.store.Reached)
    (tends : ∀ q ∈ qs, q.request.Tends name) (fresh : FreshAll b qs) :
    s.Bears id name (leavesAll b qs).store ∧ (leavesAll b qs).store.Reached := by
  induction qs generalizing b with
  | nil => exact ⟨bears, reached⟩
  | cons q qs ih =>
    have first := tends q List.mem_cons_self
    exact ih (bears_leaves bears lacks reached first fresh.1) (reached_of_fresh reached fresh.1)
      (fun q mem => tends q (List.mem_cons_of_mem _ mem)) fresh.2

/-- A removal takes the port away that the name stands for, with the relationships that touch it. -/
theorem removes {sourceId : SourceId} {e : Entity} (reached : b.store.Reached)
    (removal : q.request = .removePort name)
    (granted : Granted q.around.registry q.user q.source sourceId)
    (notBlank : Text.isBlank name = false) (stands : b.store.StandsFor name e)
    (saved : b.SavedRun (q.writes b)) :
    q.outcome b = .removed ∧ (q.leaves b).store = b.store.without e.id := by
  obtain ⟨user, source, around, request⟩ := q
  obtain rfl : request = .removePort name := removal
  obtain ⟨sound, unique⟩ := reached.sound
  have found : (Desk.mk b []).store.portNamed? name = some e :=
    (Store.portNamed?_eq_some_iff sound unique).mpr stands
  have applied := Request.perform_removePort name
    (PortOperation.perform_remove_found granted notBlank found)
  have saved : b.SavedRun (around.writesFrom 0
    ((Request.apply user source (.removePort name)).perform around ⟨b, []⟩).2.trace) := saved
  rw [applied] at saved
  obtain ⟨after, issued, same⟩ :=
    Desk.issue_of_change (Desk.along_of_performed saved) (.delete stands.1)
  rw [issued] at applied
  constructor
  · show Outcome.ofAnswer ((Request.apply user source (.removePort name)).perform around ⟨b, []⟩).1 = _
    rw [applied]
    rfl
  · show ((Request.apply user source (.removePort name)).perform around ⟨b, []⟩).2.store = _
    rw [applied]
    exact same

/-- A removal is refused to a user without a name, and so is one of a name that is blank. -/
theorem refused_removal (removal : q.request = .removePort name)
    (blank : Text.isBlank q.user = true ∨ Text.isBlank name = true) :
    (∃ parameter, q.outcome b = .failed (.port (.invalidParameter parameter "remove_port"))) ∧
      q.leaves b = b := by
  obtain ⟨user, source, around, request⟩ := q
  obtain rfl : request = .removePort name := removal
  obtain ⟨parameter, refused⟩ : ∃ parameter, (PortOperation.remove user name source).perform around
      ⟨b, []⟩ = (.error (.invalidParameter parameter "remove_port"), ⟨b, []⟩) :=
    PortOperation.perform_remove_blank blank
  have applied := Request.perform_removePort name refused
  constructor
  · refine ⟨parameter, ?_⟩
    show Outcome.ofAnswer ((Request.apply user source (.removePort name)).perform around ⟨b, []⟩).1 = _
    rw [applied]
    rfl
  · show ((Request.apply user source (.removePort name)).perform around ⟨b, []⟩).2.backend = _
    rw [applied]

/-- Without a port of the name, there is nothing to be found. -/
theorem finds_nothing (reached : b.store.Reached) (question : q.request = .findPort name)
    (userNotBlank : Text.isBlank q.user = false) (notBlank : Text.isBlank name = false)
    (lacks : b.store.Lacks name) : q.outcome b = .found none none := by
  obtain ⟨user, source, around, request⟩ := q
  obtain rfl : request = .findPort name := question
  have absent : (Desk.mk b []).store.portNamed? name = none := lacks.portNamed?_eq_none reached
  show Outcome.ofAnswer ((Request.onPorts (Request.describePort user name)).perform around ⟨b, []⟩).1 = _
  rw [Request.onPorts, Operation.perform_mapError, Request.describePort, Operation.perform_bind,
    PortOperation.perform_find userNotBlank, notBlank, if_neg Bool.false_ne_true, absent]
  rfl

end Submission

section Shadow

variable {s : Store} {name : String} {first second : Entity}
  (isAlias : first.typeName = TypeName.portAlias ∧ first.qualifiedName? = some name)
  (isImplementation : second.typeName = TypeName.portImplementation ∧
    second.qualifiedName? = some name)
  (stored : s.entities.get? first.id = some first) (stored' : s.entities.get? second.id = some second)

include isAlias isImplementation stored stored'

/-- After the alias of a name its implementation has come to light. -/
theorem Store.standsFor_without_alias (unique : s.Unique) :
    (s.without first.id).StandsFor name second := by
  have apart : second.id ≠ first.id := by
    intro same
    rw [same, stored] at stored'
    obtain rfl := Option.some.inj stored'
    exact absurd (isAlias.1.symm.trans isImplementation.1) (by decide)
  refine ⟨Store.entities_without_iff.mpr ⟨apart, stored'⟩, isImplementation.2,
    .inr ⟨isImplementation.1, ?_⟩⟩
  intro id named
  obtain ⟨other, e, found, typed, named⟩ := Store.named_without_iff.mp named
  exact other (unique.names found stored (typed.trans isAlias.1.symm) named isAlias.2)

/-- After both of them no port has the name. -/
theorem Store.lacks_without_both (unique : s.Unique) :
    ((s.without first.id).without second.id).Lacks name := by
  intro kind id named
  obtain ⟨other, named⟩ := Store.named_without_iff.mp named
  obtain ⟨other', e, found, typed, isName⟩ := Store.named_without_iff.mp named
  cases kind with
  | «alias» =>
    exact other' (unique.names found stored (typed.trans isAlias.1.symm) isName isAlias.2)
  | implementation =>
    exact other (unique.names found stored' (typed.trans isImplementation.1.symm) isName
      isImplementation.2)

end Shadow

/-- A port is created, tended to by any requests that may succeed or fail, and removed: then the store
is what it was before. Where an alias and an implementation have one name that is not blank, a removal
takes the alias and what touches it, the next one takes the implementation, and then the name is not found
any more. Who removes is a user with a name that is not blank and may act for the source. -/
theorem removal_undoes_creation :
    (∀ (b : Backend) (creation removal : Submission) (tending : List Submission) (kind : PortKind)
      (process : String) (port : Port) (delegatesTo : Option String) (id : EntityId)
      (sourceId : SourceId),
      let last := Submission.leavesAll (creation.leaves b) tending
      b.store.Reached → b.store.Lacks port.qualifiedName →
      creation.request = .createPort kind process port delegatesTo →
      creation.outcome b = .created id →
      (∀ q ∈ tending, q.request.Tends port.qualifiedName) →
      removal.request = .removePort port.qualifiedName →
      Granted removal.around.registry removal.user removal.source sourceId →
      Submission.FreshAll b (creation :: tending) → last.SavedRun (removal.writes last) →
      removal.outcome last = .removed ∧
        (removal.leaves last).store.snapshot = b.store.snapshot) ∧
    ∀ (b : Backend) (removal again question : Submission) (name : String) (first second : Entity)
      (sourceId sourceId' : SourceId),
      let middle := removal.leaves b
      let last := again.leaves middle
      b.store.Reached → Text.isBlank name = false →
      b.store.entities.get? first.id = some first → b.store.entities.get? second.id = some second →
      first.typeName = TypeName.portAlias ∧ first.qualifiedName? = some name →
      second.typeName = TypeName.portImplementation ∧ second.qualifiedName? = some name →
      removal.request = .removePort name → again.request = .removePort name →
      question.request = .findPort name →
      Granted removal.around.registry removal.user removal.source sourceId →
      Granted again.around.registry again.user again.source sourceId' →
      Text.isBlank question.user = false →
      removal.Undisturbed b → again.Undisturbed middle →
      removal.outcome b = .removed ∧ b.store.Loses middle.store first.id ∧
        again.outcome middle = .removed ∧ middle.store.Loses last.store second.id ∧
        question.outcome last = .found none none := by
  constructor
  · intro b creation removal tending kind process port delegatesTo id sourceId last reached lacks
      creates created tends removes granted fresh saved
    obtain ⟨user, source, around, request⟩ := creation
    obtain rfl : request = .createPort kind process port delegatesTo := creates
    obtain ⟨notBlank, bears⟩ := Request.bears_of_created reached (Prod.ext created rfl) fresh.1
    obtain ⟨bears, reached⟩ := Submission.bears_leavesAll bears lacks
      (Submission.reached_of_fresh reached fresh.1) tends fresh.2
    obtain ⟨e, stands, rfl⟩ := bears.standsFor lacks reached
    obtain ⟨outcome, left⟩ := Submission.removes reached removes granted notBlank stands saved
    refine ⟨outcome, congrArg Store.snapshot ?_⟩
    exact left.trans bears.without
  · intro b removal again question name first second sourceId sourceId' middle last reached notBlank
      stored stored' isAlias isImplementation removes removes' asks granted granted' userNotBlank
      undisturbed undisturbed'
    have unique := reached.sound.2
    have stands : b.store.StandsFor name first := ⟨stored, isAlias.2, .inl isAlias.1⟩
    obtain ⟨outcome, left⟩ :=
      Submission.removes reached removes granted notBlank stands undisturbed.2
    have left : middle.store = b.store.without first.id := left
    have reached' := Submission.reached_of_fresh reached undisturbed.1
    have stands' : middle.store.StandsFor name second := by
      rw [left]
      exact Store.standsFor_without_alias isAlias isImplementation stored stored' unique
    obtain ⟨outcome', left'⟩ :=
      Submission.removes reached' removes' granted' notBlank stands' undisturbed'.2
    have left' : last.store = middle.store.without second.id := left'
    have reached'' := Submission.reached_of_fresh reached' undisturbed'.1
    have lacks : last.store.Lacks name := by
      rw [left', left]
      exact Store.lacks_without_both isAlias isImplementation stored stored' unique
    refine ⟨outcome, ?_, outcome', ?_, ?_⟩
    · rw [left]
      exact Store.loses_without _ _
    · rw [left']
      exact Store.loses_without _ _
    · exact Submission.finds_nothing reached'' asks userNotBlank notBlank lacks

/-- A request of the steward, in surroundings whose identifiers begin at `first`. -/
def Submission.sample (first : Nat) (request : Request) : Submission :=
  ⟨"steward", "engine", .sample first, request⟩

/-- An alias that delegates to an implementation is given another display name and a delegation from
that implementation, and is refused a schema type that does not exist. Another alias takes the name of
the implementation. -/
theorem removal_undoes_creation_sample :
    let b := Backend.sample
    let creation := Submission.sample 4 (.createPort .alias "p" (.plain "b" "b" .input) (some "a"))
    let tending := [Submission.sample 8 (.updatePort .alias (.plain "b" "c" .input)),
      Submission.sample 10 (.addDelegation "a" .input "b"),
      Submission.sample 12 (.addSchema "b" "t")]
    let removal := Submission.sample 14 (.removePort "b")
    let last := Submission.leavesAll (creation.leaves b) tending
    let shadow := Submission.sample 4 (.createPort .alias "p" (.plain "a" "a" .input) none)
    let taken := Submission.sample 8 (.removePort "a")
    let both := shadow.leaves b
    let one := taken.leaves both
    let none := taken.leaves one
    removal.outcome last = .removed ∧ (removal.leaves last).store.snapshot = b.store.snapshot ∧
      both.store.Loses one.store ⟨.ofParts 0 4⟩ ∧ one.store.Loses none.store ⟨.ofParts 0 2⟩ ∧
      (Submission.sample 10 (.findPort "a")).outcome none = .found .none .none := by
  intro b creation tending removal last shadow taken both one none
  obtain ⟨undoes, shadows⟩ := removal_undoes_creation
  have allowed (n : Nat) : Granted (Surroundings.sample n).registry "steward" "engine" ⟨.zero⟩ := by
    refine ⟨by decide, ?_⟩
    show (Surroundings.sample 0).registry.resolve "steward" "engine" = .ok ⟨.zero⟩
    decide
  have lacks : b.store.Lacks "b" := by
    rintro kind id ⟨e, stored, _, named⟩
    have others : ∀ e ∈ b.store.entities.values, e.qualifiedName? ≠ some "b" := by decide +kernel
    exact others e (Table.mem_values_iff.mpr ⟨id, stored⟩) named
  have tends : ∀ q ∈ tending, q.request.Tends "b" := by
    simp only [tending, List.forall_mem_cons]
    exact ⟨.update .alias rfl, .delegateTo "a" .input, .addSchema "t", fun _ mem => nomatch mem⟩
  obtain ⟨removed, same⟩ := undoes b creation removal tending .alias "p" (.plain "b" "b" .input)
    (some "a") ⟨.ofParts 0 4⟩ ⟨.zero⟩ Request.reached_sample lacks rfl (by decide +kernel) tends rfl
    (allowed 14) (by decide +kernel) (by decide +kernel)
  have reached : both.store.Reached :=
    Submission.reached_of_fresh Request.reached_sample (by decide +kernel)
  have sound := reached.sound.1
  have shadowing : both.store.Named ⟨.ofParts 0 4⟩ TypeName.portAlias "a" := by decide +kernel
  have hidden : both.store.Named ⟨.ofParts 0 2⟩ TypeName.portImplementation "a" := by
    decide +kernel
  obtain ⟨first, stored, isAlias⟩ := shadowing
  obtain ⟨second, stored', isImplementation⟩ := hidden
  have isFirst : first.id = ⟨.ofParts 0 4⟩ := sound.entityId stored
  have isSecond : second.id = ⟨.ofParts 0 2⟩ := sound.entityId stored'
  rw [← isFirst] at stored
  rw [← isSecond] at stored'
  obtain ⟨_, loses, _, loses', nothing⟩ := shadows both taken taken
    (Submission.sample 10 (.findPort "a")) "a" first second ⟨.zero⟩ ⟨.zero⟩ reached (by decide)
    stored stored' isAlias isImplementation rfl rfl rfl (allowed 8) (allowed 8) (by decide)
    (by decide +kernel) (by decide +kernel)
  rw [isFirst] at loses
  rw [isSecond] at loses'
  exact ⟨removed, same, loses, loses', nothing⟩

/-- A process, and an alias and an implementation of one name. -/
def Store.sharedRun (name : String) : List Issued :=
  let who : Caller := ⟨"steward", ⟨⟨.zero⟩, "engine"⟩⟩
  let owner : Ownership := ⟨⟨.ofParts 0 0⟩, TypeName.processPort⟩
  let properties := (Port.plain name name .input).properties
  [⟨.ofClock .epoch 0, who, .createEntity TypeName.process (.ofName "p") none⟩,
   ⟨.ofClock .epoch 2, who, .createEntity TypeName.portAlias properties (some owner)⟩,
   ⟨.ofClock .epoch 4, who, .createEntity TypeName.portImplementation properties (some owner)⟩]

/-- The calls alone take any name, and a source may be open to every user. Where an alias and an
implementation share a blank name, or a user without a name is to remove them, nothing is removed. -/
theorem shared_name_kept_by_blank :
    let b (name : String) : Backend := .memory (Store.empty.run (Store.sharedRun name))
    let shared (name : String) : Prop := (b name).store.Reached ∧
      (b name).store.Named ⟨.ofParts 0 2⟩ TypeName.portAlias name ∧
      (b name).store.Named ⟨.ofParts 0 4⟩ TypeName.portImplementation name
    let removal (user name : String) : Submission := ⟨user, "engine",
      { Surroundings.sample 6 with registry := ⟨[⟨"engine", ⟨.zero⟩, none⟩]⟩ }, .removePort name⟩
    let kept (user name : String) : Prop :=
      (removal user name).around.registry.resolve user "engine" = .ok ⟨.zero⟩ ∧
      (removal user name).Undisturbed (b name) ∧
      (∃ parameter, (removal user name).outcome (b name) =
        .failed (.port (.invalidParameter parameter "remove_port"))) ∧
      (removal user name).leaves (b name) = b name
    shared " " ∧ kept "steward" " " ∧ shared "a" ∧ kept " " "a" := by
  intro b shared removal kept
  have keeps {user name : String} (blank : Text.isBlank user = true ∨ Text.isBlank name = true)
      (granted : (removal user name).around.registry.resolve user "engine" = .ok ⟨.zero⟩)
      (undisturbed : (removal user name).Undisturbed (b name)) : kept user name := by
    have refused : (removal user name).request = .removePort name := rfl
    obtain ⟨failed, same⟩ := Submission.refused_removal refused blank
    exact ⟨granted, undisturbed, failed, same⟩
  refine ⟨⟨⟨Store.sharedRun " ", ?_, rfl⟩, ?_, ?_⟩, keeps (.inr (by decide)) ?_ ?_,
    ⟨⟨Store.sharedRun "a", ?_, rfl⟩, ?_, ?_⟩, keeps (.inl (by decide)) ?_ ?_⟩ <;> decide +kernel

end LineagePorts
