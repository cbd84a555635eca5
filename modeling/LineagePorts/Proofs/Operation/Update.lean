import LineagePorts.Proofs.Operation.PortCourses
import LineagePorts.Proofs.Store.Uniqueness

/-!
# Updating a port that is known from a copy

The caller tells what is stored by a copy that was read before. An update that writes is checked against
the store and leaves what was asked for. An update that the copy shows to be needless looks at nothing
else, so that it leaves what was asked for only if the copy still is what is stored, under the type of
the kind.
-/

namespace LineagePorts

namespace Store

/-- The entity under this identifier is a port of this kind with exactly these properties. -/
def Shows (s : Store) (id : EntityId) (kind : PortKind) (properties : Properties) : Prop :=
  ∃ e, s.entities.get? id = some e ∧ e.typeName = kind.typeName ∧ e.properties = properties

instance (s : Store) (id : EntityId) (kind : PortKind) (properties : Properties) :
    Decidable (s.Shows id kind properties) :=
  decidable_of_iff ((s.entities.get? id).any (fun e =>
    e.typeName = kind.typeName && e.properties = properties) = true) (by
      simp only [Option.any_eq_true, Bool.and_eq_true, decide_eq_true_eq, Shows])

variable {s s' : Store} {stamp : Stamp} {who : Caller} {id : EntityId} {kind : PortKind}
  {properties : Properties}

theorem Change.shows {answer : Answer}
    (change : Change s stamp who (.updateEntity id kind.typeName properties) answer s') :
    s'.Shows id kind properties := by
  generalize named : kind.typeName = typeName at change
  cases change with
  | @update _ _ e stored free =>
    refine ⟨updatedEntity stamp who properties e, ?_, named.symm, rfl⟩
    rw [get?_replace, if_pos rfl]

/-- The name that a stored entity has is free for that entity. -/
theorem Unique.nameFree (unique : s.Unique) (sound : s.Integrity) {e : Entity}
    (stored : s.entities.get? id = some e) : s.NameFree e.typeName e.properties (some id) := by
  intro k f other typed given named
  obtain ⟨name, isName⟩ := Option.isSome_iff_exists.mp given
  have same := unique.names other stored typed (named.trans isName) isName
  rw [sound.entityId other, same]

/-- What is stored already can be written again. -/
theorem Shows.change (shows : s.Shows id kind properties) (sound : s.Integrity)
    (unique : s.Unique) (stamp : Stamp) (who : Caller) :
    ∃ s', Change s stamp who (.updateEntity id kind.typeName properties) .done s' := by
  obtain ⟨e, stored, typed, rfl⟩ := shows
  rw [← typed]
  exact ⟨_, .update stored (unique.nameFree sound stored)⟩

/-- The call is to change or to delete this entity. -/
def Call.Alters (id : EntityId) : Call → Prop
  | .updateEntity k _ _ => k = id
  | .deleteEntity k => k = id
  | .createEntity _ _ _ => False
  | .createRelationship _ _ _ => False

instance (id : EntityId) : (call : Call) → Decidable (call.Alters id)
  | .updateEntity _ _ _ => inferInstanceAs (Decidable (_ = _))
  | .deleteEntity _ => inferInstanceAs (Decidable (_ = _))
  | .createEntity _ _ _ => inferInstanceAs (Decidable False)
  | .createRelationship _ _ _ => inferInstanceAs (Decidable False)

/-- A record stays as it is unless a call is to alter it. -/
theorem Change.get?_of_not_alters {call : Call} {answer : Answer} {e : Entity}
    (change : Change s stamp who call answer s') (fresh : stamp.Fresh s call)
    (spares : ¬ call.Alters id) (stored : s.entities.get? id = some e) :
    s'.entities.get? id = some e := by
  cases change with
  | create free => exact get?_putEntity_old fresh.1 stored
  | createOwned free known owner owned => exact get?_putEntity_old fresh.1 stored
  | @update k properties e' found free =>
    have other : k ≠ id := spares
    rw [get?_replace, if_neg other]
    exact stored
  | delete found =>
    refine entities_without_iff.mpr ⟨?_, stored⟩
    rintro rfl
    exact spares rfl
  | link known starts finishes absent => exact stored
  | keep known starts finishes present => exact stored

theorem get?_run_of_not_alters {calls : List Issued} {e : Entity} (fresh : s.FreshRun calls)
    (spares : ∀ c ∈ calls, ¬ c.call.Alters id) (stored : s.entities.get? id = some e) :
    (s.run calls).entities.get? id = some e := by
  induction calls generalizing s with
  | nil => exact stored
  | cons c cs ih =>
    have kept : (s.after c).entities.get? id = some e := by
      rcases s.afterCall_cases c.stamp c.caller c.call with same | ⟨answer, change⟩
      · rw [Store.after, same]
        exact stored
      · exact change.get?_of_not_alters fresh.1 (spares c List.mem_cons_self) stored
    exact ih fresh.2 (fun d mem => spares d (List.mem_cons_of_mem c mem)) kept

end Store

namespace PortOperation

open Operation Parameter

variable {user source : String} {around : Surroundings} {d d' : Desk}

/-- An update that succeeds found the copy to be right, or it made one call that was granted. -/
theorem update_answers {known : Entity} {port : Port} {kind : PortKind} {u : Update}
    (performed : (update user known port kind source).perform around d = (.ok u, d')) :
    (known.properties = port.properties ∧ u = .unchanged ∧ d' = d) ∨
      (known.properties ≠ port.properties ∧ u = .updated ∧
        ∃ id, around.registry.resolve user source = .ok id ∧
          d.issue around ⟨user, id, source⟩
            (.updateEntity known.id kind.typeName port.properties) = (.ok .done, d')) := by
  by_cases same : known.properties = port.properties
  · rw [update_of_same same] at performed
    obtain ⟨_, checked, rest⟩ := (still_ofExcept _ around d).bind_eq_ok performed
    obtain ⟨answered, rfl⟩ := Prod.mk.inj rest
    exact .inl ⟨same, (Except.ok.inj answered).symm, rfl⟩
  · rw [update_of_ne same] at performed
    obtain ⟨_, checked, rest⟩ := (still_ofExcept _ around d).bind_eq_ok performed
    rw [← bind_assoc] at rest
    obtain ⟨_, m, written, ended⟩ := perform_bind_eq_ok rest
    obtain ⟨answered, rfl⟩ := Prod.mk.inj ended
    refine .inr ⟨same, (Except.ok.inj answered).symm, ?_⟩
    cases resolved : around.registry.resolve user source with
    | error cause =>
      rw [perform_resolve_error resolved] at written
      cases written
    | ok id =>
      have issued := perform_resolve_updateEntity resolved known.id kind.typeName port.properties d
      rw [written] at issued
      exact ⟨id, rfl, issued.symm⟩

/-- An update answers that it changed something if and only if the copy differs from the port, and
otherwise it leaves everything as it was. In the end the port is stored if and only if the update changed
something, or the copy still is what is stored, under the type of the kind. The copy is that if it was
read in a store from which calls that do not alter the entity lead to this one, and then the store would
have accepted the update and come to show the same. -/
theorem updated_or_as_known {b : Backend} (reached : b.store.Reached) {known : Entity} {port : Port}
    {kind : PortKind} {u : Update} {d : Desk}
    (performed : (update user known port kind source).perform around ⟨b, []⟩ = (.ok u, d)) :
    (u = .updated ↔ known.properties ≠ port.properties) ∧
    (u = .unchanged → d = ⟨b, []⟩) ∧
    (d.store.Shows known.id kind port.properties ↔
      u = .updated ∨ b.store.Shows known.id kind known.properties) ∧
    (∀ (s : Store) (calls : List Issued), s.FreshRun calls → b.store = s.run calls →
      s.entities.get? known.id = some known → known.typeName = kind.typeName →
      (∀ c ∈ calls, ¬ c.call.Alters known.id) → b.store.Shows known.id kind known.properties) ∧
    (b.store.Shows known.id kind port.properties → ∀ stamp who, ∃ s,
      b.store.updateEntity stamp who known.id kind.typeName port.properties = .ok s ∧
        s.Shows known.id kind port.properties) := by
  obtain ⟨sound, unique⟩ := reached.sound
  refine ⟨?_, ?_, ?_, ?_, ?_⟩
  · rcases update_answers performed with ⟨same, rfl, _⟩ | ⟨differs, rfl, _⟩
    · constructor
      · intro changed
        cases changed
      · intro differs
        exact absurd same differs
    · exact ⟨fun _ => differs, fun _ => rfl⟩
  · rintro rfl
    rcases update_answers performed with ⟨_, _, still⟩ | ⟨_, changed, _⟩
    · exact still
    · cases changed
  · rcases update_answers performed with ⟨same, rfl, rfl⟩ | ⟨_, rfl, id, _, issued⟩
    · rw [same]
      constructor
      · exact .inr
      · rintro (changed | shows)
        · cases changed
        · exact shows
    · have change := Desk.change_of_issue issued
      exact ⟨fun _ => .inl rfl, fun _ => change.shows⟩
  · intro s calls fresh run stored typed spares
    have kept := Store.get?_run_of_not_alters fresh spares stored
    rw [← run] at kept
    exact ⟨known, kept, typed, rfl⟩
  · intro shows stamp who
    obtain ⟨s, change⟩ := shows.change sound unique stamp who
    exact ⟨s, Store.updateEntity_eq_ok_iff.mpr change, change.shows⟩

/-- A process with an implementation. -/
def portRun : List Issued :=
  let who : Caller := ⟨"steward", ⟨⟨.zero⟩, "engine"⟩⟩
  let owner : Ownership := ⟨⟨.ofParts 0 0⟩, TypeName.processPort⟩
  [⟨.ofClock .epoch 0, who,
      .createEntity TypeName.process (.ofList [(PropertyName.qualifiedName, .text "p")]) none⟩,
   ⟨.ofClock .epoch 2, who, .createEntity TypeName.portImplementation
      (Port.plain "a" "a" .input).properties (some owner)⟩]

/-- The copy of the implementation that was read after that run. -/
def knownPort : Entity :=
  Store.newEntity (.ofClock .epoch 2) ⟨"steward", ⟨⟨.zero⟩, "engine"⟩⟩ TypeName.portImplementation
    (Port.plain "a" "a" .input).properties

/-- The display name of the implementation is changed. -/
theorem updated_or_as_known_sample :
    let b : Backend := .memory (Store.empty.run portRun)
    let port : Port := .plain "a" "b" .input
    let result := (update "steward" knownPort port .implementation "engine").perform (.sample 4)
      ⟨b, []⟩
    b.store.entities.get? knownPort.id = some knownPort ∧ result.1 = .ok .updated ∧
      result.2.store.Shows knownPort.id .implementation port.properties := by
  intro b port result
  have reached : b.store.Reached := ⟨portRun, by decide +kernel, rfl⟩
  have done : result.1 = .ok .updated := by decide +kernel
  have performed : (update "steward" knownPort port .implementation "engine").perform (.sample 4)
    ⟨b, []⟩ = (.ok .updated, result.2) := Prod.ext done rfl
  exact ⟨by decide +kernel, done, (updated_or_as_known reached performed).2.2.1.mpr (.inl rfl)⟩

/-- A copy that was read before another user changed the display name, or deleted the entity, and the
copy of a port of the other kind: in none of these stores is the port stored that was asked for, but each
time the answer is that it is. The plain update would have stored it, or refused. -/
theorem needless_by_a_copy_only :
    let who : Caller := ⟨"other", ⟨⟨.zero⟩, "engine"⟩⟩
    let port : Port := .plain "a" "a" .input
    let id := knownPort.id
    let s := Store.empty.run portRun
    let changed := s.run [⟨.ofClock .epoch 4, who, .updateEntity id TypeName.portImplementation
      (Port.plain "a" "b" .input).properties⟩]
    let deleted := s.run [⟨.ofClock .epoch 4, who, .deleteEntity id⟩]
    let answer (s : Store) (kind : PortKind) :=
      (update "steward" knownPort port kind "engine").perform (.sample 6) ⟨.memory s, []⟩
    let written (s : Store) (kind : PortKind) :=
      (s.updateEntity (.ofClock .epoch 6) who id kind.typeName port.properties).isOk
    s.entities.get? id = some knownPort ∧ changed.Reached ∧ deleted.Reached ∧
      answer changed .implementation = (.ok .unchanged, ⟨.memory changed, []⟩) ∧
      ¬ changed.Shows id .implementation port.properties ∧ written changed .implementation = true ∧
      answer deleted .implementation = (.ok .unchanged, ⟨.memory deleted, []⟩) ∧
      ¬ deleted.Shows id .implementation port.properties ∧ written deleted .implementation = false ∧
      answer s .alias = (.ok .unchanged, ⟨.memory s, []⟩) ∧
      ¬ s.Shows id .alias port.properties ∧ written s .alias = false := by
  intro who port id s changed deleted answer written
  have reached : s.Reached := ⟨portRun, by decide +kernel, rfl⟩
  have later : changed.Reached := by
    refine ⟨portRun ++ [⟨.ofClock .epoch 4, who, .updateEntity id TypeName.portImplementation
      (Port.plain "a" "b" .input).properties⟩], by decide +kernel, ?_⟩
    rw [Store.run_append]
  have gone : deleted.Reached := by
    refine ⟨portRun ++ [⟨.ofClock .epoch 4, who, .deleteEntity id⟩], by decide +kernel, ?_⟩
    rw [Store.run_append]
  have settled (s : Store) (kind : PortKind) :
      answer s kind = (.ok .unchanged, ⟨.memory s, []⟩) := by
    have checked : checkPort "steward" port "update_port" = .ok () := by decide +kernel
    have same : knownPort.differsFrom port.properties = false := by decide +kernel
    show (update "steward" knownPort port kind "engine").perform _ _ = _
    rw [update, perform_bind, perform_ofExcept, checked, same]
    rfl
  exact ⟨by decide +kernel, later, gone, settled _ _, by decide +kernel, by decide +kernel,
    settled _ _, by decide +kernel, by decide +kernel, settled _ _, by decide +kernel,
    by decide +kernel⟩

end PortOperation

end LineagePorts
