import LineagePorts.Proofs.Operation.Update
import LineagePorts.Proofs.Request.Frame
import LineagePorts.Proofs.Request.Removal

/-!
# Repeating a request

An update or a link that succeeds leaves a store in which its work is done, and other requests keep it
done as long as they leave the ports of its names alone. Where the work is done, the same request finds
that out by looking: it succeeds without asking the registry and without a call, so that it does not
matter who makes it.
-/

namespace LineagePorts

namespace Store

variable {s s' : Store} (same : s'.entities = s.entities)

include same

/-- A look at entities finds the same while they are the same. -/
theorem findByName?_congr (name typeName : String) :
    s'.findByName? name typeName = s.findByName? name typeName := by
  rw [findByName?, findByName?, same]

theorem portNamed?_congr (name : String) : s'.portNamed? name = s.portNamed? name := by
  rw [portNamed?, portNamed?, findByName?_congr same, findByName?_congr same]

end Store

namespace Request

/-- What a request answers where its work is done, if it is one that can be repeated. -/
def whenDone? : Request → Option Outcome
  | .updatePort _ _ => some .unchanged
  | .addSchema _ _ => some .linked
  | .addDelegation _ _ _ => some .linked
  | _ => none

/-- The work of the request is done: the port is stored as it is to be, or the names that it gives
stand for entities that are linked. -/
inductive Done (s : Store) : Request → Outcome → Prop where
  | update {kind : PortKind} {port : Port} {e : Entity}
      (displayed : Text.isBlank port.displayName = false)
      (named : Text.isBlank port.qualifiedName = false)
      (found : s.findByName? port.qualifiedName kind.typeName = some e)
      (same : e.properties = port.properties) : Done s (.updatePort kind port) .unchanged
  | schema {port schemaType : String} {p t : Entity} (notBlank : Text.isBlank port = false)
      (found : s.portNamed? port = some p)
      (typed : s.findByName? schemaType TypeName.schemaType = some t)
      (linked : s.Linked TypeName.portSchema p.id t.id) : Done s (.addSchema port schemaType) .linked
  | delegation {port delegatesTo : String} {portType : PortType} {p t : Entity}
      (notBlank : Text.isBlank port = false) (notBlank' : Text.isBlank delegatesTo = false)
      (found : s.portNamed? port = some p) (known : s.portNamed? delegatesTo = some t)
      (declared : t.hasPortType portType = true)
      (linked : s.Linked TypeName.portDelegation p.id t.id) :
      Done s (.addDelegation port portType delegatesTo) .linked

open Operation PortOperation

variable {user source : String} {around : Surroundings} {d d' : Desk}

section Success

theorem portNamed_notBlank {name : String} {e : Entity}
    (answered : (portNamed user name).perform around d = (.ok e, d')) :
    Text.isBlank name = false := by
  obtain ⟨_, first, _⟩ := (still_find user name around d).bind_eq_ok answered
  exact (find_notBlank first).2

theorem done_of_updateNamed (reached : d'.store.Reached) {kind : PortKind} {port : Port}
    {outcome : Outcome}
    (performed : (updateNamed user source kind port).perform around d = (.ok outcome, d')) :
    Done d'.store (.updatePort kind port) .unchanged := by
  obtain ⟨found, first, rest⟩ := (still_findOfKind _ _ _ _ _).bind_eq_ok performed
  have looked := (findOfKind_answers first).symm
  cases found with
  | none => cases rest
  | some known =>
    obtain ⟨u, m, updated, rest⟩ := perform_bind_eq_ok rest
    obtain rfl : m = d' := by
      cases u with
      | updated => exact (Prod.mk.inj rest).2
      | unchanged => exact (Prod.mk.inj rest).2
    obtain ⟨_, checked, _⟩ := (still_ofExcept _ around d).bind_eq_ok updated
    rw [perform_ofExcept] at checked
    obtain ⟨displayed, named⟩ := not_blank_of_checkPort (Prod.mk.inj checked).1
    rcases update_answers updated with ⟨same, _, rfl⟩ | ⟨_, _, id, _, issued⟩
    · exact .update displayed named looked same
    · obtain ⟨e, stored, typed, same⟩ := (Desk.change_of_issue issued).shows
      obtain ⟨sound, unique⟩ := reached.sound
      rw [← sound.entityId stored] at stored
      have isName := Entity.qualifiedName?_of_port same
      exact .update displayed named
        ((Store.findByName?_eq_some_iff sound unique).mpr ⟨stored, typed, isName⟩) same

/-- A schema type that was added was found by its name, and so was the port. -/
theorem addSchema_answers {port schemaType : String} {told : Outcome}
    (performed : (apply user source (.addSchema port schemaType)).perform around d =
      (.ok told, d')) :
    told = .linked ∧ ∃ p t, Text.isBlank port = false ∧ d.store.portNamed? port = some p ∧
      d.store.findByName? schemaType TypeName.schemaType = some t ∧
      (link user p.id t.id TypeName.portSchema source).perform around d = (.ok (), d') := by
  obtain ⟨p, first, rest⟩ := ((still_portNamed _ _).mapError _ _ _).bind_eq_ok performed
  obtain ⟨t, second, rest⟩ := (still_entityNamed _ _ _ _).bind_eq_ok rest
  obtain ⟨_, m, added, rest⟩ := perform_bind_eq_ok rest
  obtain ⟨answered, rfl⟩ := Prod.mk.inj rest
  have first := perform_mapError_eq_ok_iff.mp first
  obtain ⟨_, _, linked⟩ :=
    (still_ofExcept _ _ _).bind_eq_ok (perform_mapError_eq_ok_iff.mp added)
  exact ⟨(Except.ok.inj answered).symm, p, t, portNamed_notBlank first, portNamed_answers first,
    entityNamed_answers second, linked⟩

/-- A repeatable request that succeeds is done. -/
theorem done_of_performed (reached : d'.store.Reached) {request : Request} {told outcome : Outcome}
    (settles : request.whenDone? = some outcome)
    (performed : (apply user source request).perform around d = (.ok told, d'))
    (fresh : d.FreshTo around d') : Done d'.store request outcome := by
  cases request with
  | updatePort kind port =>
    obtain rfl := Option.some.inj settles
    exact done_of_updateNamed reached (perform_mapError_eq_ok_iff.mp performed)
  | addSchema port schemaType =>
    obtain rfl := Option.some.inj settles
    obtain ⟨_, p, t, notBlank, found, typed, linked⟩ := addSchema_answers performed
    obtain ⟨entities, linked⟩ := link_answers linked fresh
    refine .schema notBlank ?_ ?_ linked
    · rw [Store.portNamed?_congr entities, found]
    · rw [Store.findByName?_congr entities, typed]
  | addDelegation port portType delegatesTo =>
    obtain rfl := Option.some.inj settles
    obtain ⟨p, first, rest⟩ :=
      (still_portNamed _ _ _ _).bind_eq_ok (perform_mapError_eq_ok_iff.mp performed)
    obtain ⟨_, m, added, rest⟩ := perform_bind_eq_ok rest
    obtain ⟨_, rfl⟩ := Prod.mk.inj rest
    obtain ⟨_, checked, added⟩ := (still_ofExcept _ _ _).bind_eq_ok added
    obtain ⟨t, found, linked⟩ := (still_findDeclared _ _ _ _ _).bind_eq_ok added
    rw [perform_ofExcept] at checked
    obtain ⟨_, _, named⟩ := Except.bind_eq_ok_iff.mp (Prod.mk.inj checked).1
    obtain ⟨known, declared⟩ := PortOperation.findDeclared_answers found
    obtain ⟨entities, linked⟩ := link_answers linked fresh
    refine .delegation (portNamed_notBlank first) (not_blank_of_checkName named) ?_ ?_ declared linked
    · rw [Store.portNamed?_congr entities, portNamed_answers first]
    · rw [Store.portNamed?_congr entities, known]
  | createProcess name => cases settles
  | createSchemaType name => cases settles
  | createPort kind process port delegatesTo => cases settles
  | removePort name => cases settles
  | findPort name => cases settles

end Success

/-- What is done stays done while no request alters a port of a name that was given. -/
theorem Done.effect {s s' : Store} (before : s.Reached) (after : s'.Reached) {request other : Request}
    {outcome : Outcome} (done : Done s request outcome) (effect : other.Effect user s s')
    (spares : ∀ name ∈ request.names, other.altered? ≠ some name) : Done s' request outcome := by
  obtain ⟨sound, unique⟩ := before.sound
  have away {name : String} (mem : name ∈ request.names) {p : Entity}
      (found : s.portNamed? name = some p) : ¬ other.Targets s p.id := by
    obtain ⟨stored, named, _⟩ := (Store.portNamed?_eq_some_iff sound unique).mp found
    exact not_targets_of_named stored named (spares name mem)
  cases done with
  | @update kind port e displayed named found same =>
    obtain ⟨stored, _, isName⟩ := (Store.findByName?_eq_some_iff sound unique).mp found
    have spared := not_targets_of_named stored isName (spares _ List.mem_cons_self)
    exact .update displayed named (effect.findByName?_kept before after found spared) same
  | @schema port schemaType p t notBlank found typed linked =>
    obtain ⟨stored, isType, _⟩ := (Store.findByName?_eq_some_iff sound unique).mp typed
    have plain : ¬ other.Targets s t.id := not_targets_of_schemaType stored isType
    have first : port ∈ (addSchema port schemaType).names := List.mem_cons_self
    exact .schema notBlank (effect.portNamed?_kept before after found (spares _ first))
      (effect.findByName?_kept before after typed plain)
      (effect.linked_kept sound unique linked (away first found) plain)
  | @delegation port delegatesTo portType p t notBlank notBlank' found known declared linked =>
    have first : port ∈ (addDelegation port portType delegatesTo).names := List.mem_cons_self
    have second : delegatesTo ∈ (addDelegation port portType delegatesTo).names :=
      List.mem_cons_of_mem _ List.mem_cons_self
    exact .delegation notBlank notBlank'
      (effect.portNamed?_kept before after found (spares _ first))
      (effect.portNamed?_kept before after known (spares _ second)) declared
      (effect.linked_kept sound unique linked (away first found) (away second known))

section Again

theorem perform_portNamed (notBlank : Text.isBlank user = false) {name : String}
    (named : Text.isBlank name = false) {p : Entity} (found : d.store.portNamed? name = some p) :
    (portNamed user name).perform around d = (.ok p, d) := by
  rw [portNamed, perform_bind, perform_find notBlank, named, if_neg Bool.false_ne_true, found]
  rfl

/-- To ask for what is done is answered by a look. -/
theorem Done.perform (reached : d.store.Reached) {request : Request} {outcome : Outcome}
    (done : Done d.store request outcome) (notBlank : Text.isBlank user = false)
    (around : Surroundings) :
    (apply user source request).perform around d = (.ok outcome, d) := by
  obtain ⟨sound, unique⟩ := reached.sound
  have isPort {name : String} {p : Entity} (found : d.store.portNamed? name = some p) :
      d.store.HasType p.id TypeName.port :=
    ((Store.portNamed?_eq_some_iff sound unique).mp found).hasType
  cases done with
  | @update kind port e displayed named found same =>
    have checked : checkPort user port "update_port" = .ok () := by
      rw [checkPort_eq notBlank, displayed, named]
      rfl
    have updated : (updateNamed user source kind port).perform around d = (.ok .unchanged, d) := by
      rw [updateNamed, perform_bind, perform_findOfKind notBlank, named,
        if_neg Bool.false_ne_true, found]
      dsimp only
      rw [update_of_same same, perform_bind, perform_bind, perform_ofExcept, checked]
      rfl
    exact perform_mapError_eq_ok_iff.mpr updated
  | @schema port schemaType p t named found typed linked =>
    have first : (onPorts (portNamed user port)).perform around d = (.ok p, d) :=
      perform_mapError_eq_ok_iff.mpr (perform_portNamed notBlank named found)
    have added : (PortOperation.addSchema user p.id t.id source).perform around d =
        (.ok (), d) := by
      rw [perform_addSchema notBlank, perform_link_linked (isPort found) linked]
    have second : (onPorts (PortOperation.addSchema user p.id t.id source)).perform around d =
        (.ok (), d) := perform_mapError_eq_ok_iff.mpr added
    rw [apply, perform_bind, first]
    dsimp only
    rw [perform_bind, perform_entityNamed, typed]
    dsimp only
    rw [perform_bind, second]
    rfl
  | @delegation port delegatesTo portType p t named named' found known declared linked =>
    have added : (PortOperation.addDelegation user p.id portType delegatesTo source).perform around
        d = (.ok (), d) := by
      rw [PortOperation.addDelegation, perform_delegation notBlank, named',
        if_neg Bool.false_ne_true, known]
      dsimp only
      rw [if_pos declared, perform_link_linked (isPort found) linked]
    have whole : (portNamed user port >>= fun e => PortOperation.addDelegation user e.id portType
        delegatesTo source >>= fun _ => pure Outcome.linked).perform around d = (.ok .linked, d) := by
      rw [perform_bind, perform_portNamed notBlank named found]
      dsimp only
      rw [perform_bind, added]
      rfl
    exact perform_mapError_eq_ok_iff.mpr whole

end Again

end Request

namespace Submission

/-- The requests alter no port of these names, or they are made in vain. -/
def SparesAll (names : List String) : Backend → List Submission → Prop
  | _, [] => True
  | b, q :: qs =>
    ((∀ name ∈ names, q.request.altered? ≠ some name) ∨ (q.leaves b).store = b.store) ∧
      SparesAll names (q.leaves b) qs

instance decidableSparesAll (names : List String) :
    (b : Backend) → (qs : List Submission) → Decidable (SparesAll names b qs)
  | _, [] => inferInstanceAs (Decidable True)
  | b, q :: qs =>
    have := decidableSparesAll names (q.leaves b) qs
    inferInstanceAs (Decidable ((_ ∨ _) ∧ _))

theorem done_leavesAll {b : Backend} (reached : b.store.Reached) {request : Request}
    {outcome : Outcome} (done : request.Done b.store outcome) {qs : List Submission}
    (fresh : FreshAll b qs) (spared : SparesAll request.names b qs) :
    (leavesAll b qs).store.Reached ∧ request.Done (leavesAll b qs).store outcome := by
  induction qs generalizing b with
  | nil => exact ⟨reached, done⟩
  | cons q qs ih =>
    have reached' := reached_of_fresh reached fresh.1
    refine ih reached' ?_ fresh.2 spared.2
    rcases spared.1 with spares | same
    · exact done.effect reached reached' (effect reached q fresh.1) spares
    · rw [same]
      exact done

/-- An update or a link that succeeded can be made again by any user who is not blank, for any source,
right away or after requests that alter no port of a name that it gives. It answers that nothing has
changed or that the link is there, asks the registry for nothing and makes no call. -/
theorem repeating_is_free {b : Backend} (reached : b.store.Reached) (first again : Submission)
    {between : List Submission} {outcome : Outcome}
    (settles : first.request.whenDone? = some outcome)
    (succeeds : (first.outcome b).isFailure = false) (same : again.request = first.request)
    (notBlank : Text.isBlank again.user = false) (fresh : FreshAll b (first :: between))
    (spared : SparesAll first.request.names (first.leaves b) between) :
    let last := leavesAll (first.leaves b) between
    again.request.applyAt again.user again.source again.around last = (outcome, ⟨last, []⟩) := by
  intro last
  have reached' := reached_of_fresh reached fresh.1
  have performed := Request.answered_of_applyAt (Prod.ext rfl rfl) succeeds
  have done : first.request.Done (first.leaves b).store outcome :=
    Request.done_of_performed reached' settles performed (Desk.along_of_performed fresh.1)
  obtain ⟨reached'', done⟩ := done_leavesAll reached' done fresh.2 spared
  have performed' : (first.request.apply again.user again.source).perform again.around ⟨last, []⟩ =
      (.ok outcome, ⟨last, []⟩) := Request.Done.perform (d := ⟨last, []⟩) reached'' done notBlank _
  rw [same, Request.applyAt, performed']
  rfl

/-- A guest, whom the registry refuses, repeats what the steward asked for: a schema type for an alias,
after the port that it delegates to was updated and removed, and an update of that alias, after a guest
failed to remove it. -/
theorem repeating_is_free_sample :
    let forward := sample 4 (.createPort .alias "p" (.plain "b" "b" .input) (some "a"))
    let b := (sample 8 (.createSchemaType "t")).leaves (forward.leaves .sample)
    let guest (request : Request) : Submission := ⟨"guest", "nowhere", .sample 20, request⟩
    let link := sample 10 (.addSchema "b" "t")
    let others := [sample 12 (.updatePort .implementation (.plain "a" "c" .input)),
      sample 14 (.removePort "a")]
    let linked := leavesAll (link.leaves b) others
    let update := sample 10 (.updatePort .alias (.plain "b" "c" .output))
    let vain := [guest (.removePort "b")]
    let updated := leavesAll (update.leaves b) vain
    (link.outcome b = .linked ∧ linked.store ≠ (link.leaves b).store ∧
      link.request.applyAt "guest" "nowhere" (.sample 20) linked = (.linked, ⟨linked, []⟩)) ∧
      update.outcome b = .updated ∧
      update.request.applyAt "guest" "nowhere" (.sample 20) updated = (.unchanged, ⟨updated, []⟩) := by
  intro forward b guest link others linked update vain updated
  have reached : b.store.Reached :=
    reached_of_fresh (reached_of_fresh Request.reached_sample (by decide +kernel)) (by decide +kernel)
  refine ⟨⟨by decide +kernel, by decide +kernel, ?_⟩, by decide +kernel, ?_⟩
  · exact repeating_is_free reached link (guest link.request) rfl (by decide +kernel) rfl
      (by decide) (by decide +kernel) (by decide +kernel)
  · exact repeating_is_free reached update (guest update.request) rfl (by decide +kernel) rfl
      (by decide) (by decide +kernel) (by decide +kernel)

end Submission

end LineagePorts
