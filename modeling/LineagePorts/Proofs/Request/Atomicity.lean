import LineagePorts.CommandLine.Program
import LineagePorts.Proofs.Request.Forward

/-!
# Requests are applied as a whole or not at all

A request that fails leaves the store, in memory or in a file that can be written, as it was. So the
failed requests of a batch may be left out: the others answer the same and lead to the same store,
if each of them is given the same stamps.
-/

namespace LineagePorts

namespace Operation

variable {ε ε' α β : Type}

/-- Whatever the operation answers is such. -/
def Returns (P : α → Prop) (op : Operation ε α) : Prop :=
  ∀ around d a d', op.perform around d = (.ok a, d') → P a

theorem returns_pure {P : α → Prop} {a : α} (holds : P a) :
    Returns P (pure a : Operation ε α) := by
  intro around d b d' answered
  obtain rfl : a = b := Except.ok.inj (Prod.mk.inj answered).1
  exact holds

theorem returns_throw (P : α → Prop) (e : ε) : Returns P (throw e : Operation ε α) :=
  fun _ _ _ _ answered => nomatch answered

theorem returns_bind {P : β → Prop} {op : Operation ε α} {f : α → Operation ε β}
    (rest : ∀ a, Returns P (f a)) : Returns P (op >>= f) := by
  intro around d b d' answered
  obtain ⟨a, m, _, answered⟩ := perform_bind_eq_ok answered
  exact rest a around m b d' answered

theorem Returns.mapError {P : α → Prop} {op : Operation ε α} (returns : Returns P op) (f : ε → ε') :
    Returns P (op.mapError f) :=
  fun around d a d' answered => returns around d a d' (perform_mapError_eq_ok_iff.mp answered)

end Operation

namespace Request

open Operation PortOperation

/-- A request that is answered has not failed. -/
theorem returns_apply (user source : String) (request : Request) :
    Returns (fun o : Outcome => o.isFailure = false) (apply user source request) := by
  cases request with
  | createProcess name =>
    refine Returns.mapError ?_ _
    exact returns_bind fun _ => returns_bind fun _ => returns_pure rfl
  | createSchemaType name =>
    refine Returns.mapError ?_ _
    exact returns_bind fun _ => returns_bind fun _ => returns_pure rfl
  | createPort kind process port delegatesTo =>
    refine returns_bind fun owner => ?_
    cases kind with
    | implementation => exact returns_bind fun _ => returns_pure rfl
    | «alias» => exact returns_bind fun _ => returns_pure rfl
  | updatePort kind port =>
    refine Returns.mapError (returns_bind fun found => ?_) _
    cases found with
    | none => exact returns_throw _ _
    | some known =>
      refine returns_bind fun update => ?_
      cases update with
      | updated => exact returns_pure rfl
      | unchanged => exact returns_pure rfl
  | addSchema port schemaType =>
    exact returns_bind fun _ => returns_bind fun _ => returns_bind fun _ => returns_pure rfl
  | addDelegation port portType delegatesTo =>
    refine Returns.mapError ?_ _
    exact returns_bind fun _ => returns_bind fun _ => returns_pure rfl
  | removePort name =>
    refine Returns.mapError ?_ _
    exact returns_bind fun _ => returns_pure rfl
  | findPort name =>
    refine Returns.mapError (returns_bind fun found => ?_) _
    cases found with
    | none => exact returns_pure rfl
    | some port => exact returns_bind fun _ => returns_pure rfl

variable {user source : String} {around : Surroundings} {d d' : Desk}

/-- The delegation of a new alias fails only if it cannot be saved. -/
theorem isOk_of_forwards {port : Port} {name : String} {m : Desk} {e x y : Entity} {who : Caller}
    (forwards : Forwards user source around d port name m e x y)
    (saved : d.SavedTo around
      (m.issue around who (.createRelationship e.id y.id TypeName.portDelegation)).2) :
    ∃ told after, m.issue around who (.createRelationship e.id y.id TypeName.portDelegation) =
      (.ok told, after) := by
  have later := (Desk.savedTo_trans forwards.created.continues (m.continues_issue around who _)
    saved).2
  obtain ⟨after, issued, _⟩ := Desk.issue_of_change later (forwards.change _ _)
  exact ⟨_, after, issued⟩

theorem createForward_backend_of_error (sound : d.store.Integrity) (unique : d.store.Unique)
    {process : EntityId} {port : Port} {name : String} {e : Failure}
    (failed : (createForward user source process ⟨port, some name⟩).perform around d =
      (.error e, d'))
    (fresh : d.FreshTo around d') (saved : d.SavedTo around d') : d'.backend = d.backend := by
  rcases createForward_ends sound unique failed fresh with
    ⟨_, course⟩ | ⟨m, f, x, y, sourceId, forwards, answered, rfl⟩
  · exact course.backend_of_error saved
  · obtain ⟨told, after, issued⟩ := isOk_of_forwards forwards saved
    rw [issued] at answered
    cases answered

theorem backend_of_error (sound : d.store.Integrity) (unique : d.store.Unique) {request : Request}
    {e : RequestError} (failed : (apply user source request).perform around d = (.error e, d'))
    (fresh : d.FreshTo around d') (saved : d.SavedTo around d') : d'.backend = d.backend := by
  cases simple : request.delegates with
  | false =>
    have course : Course user source Store.Permits around d
      ((apply user source request).perform around d) := course_apply request simple
    rw [failed] at course
    exact course.backend_of_error saved
  | true =>
    match request, simple with
    | .createPort .alias process port (some name), _ =>
      rcases (still_entityNamed TypeName.process process around d).perform_bind _ with
        ⟨f, _, ended⟩ | ⟨owner, _, went⟩
      · obtain ⟨_, rfl⟩ := Prod.mk.inj (failed.symm.trans ended)
        rfl
      · have failed := went.symm.trans failed
        rw [perform_bind, onPorts, perform_mapError] at failed
        generalize made : (createForward user source owner.id ⟨port, some name⟩).perform around d =
          result at failed
        obtain ⟨answer, after⟩ := result
        cases answer with
        | error f =>
          obtain ⟨_, rfl⟩ := Prod.mk.inj failed
          exact createForward_backend_of_error sound unique made fresh saved
        | ok id => cases failed

/-- A checked delegation succeeds for the alias that was created for it. -/
theorem addDelegation_of_created (sound : d.store.Integrity) (unique : d.store.Unique)
    {process id : EntityId} {port : Port} {name : String} {m : Desk} {x : Entity}
    {answer : Except Failure Unit}
    (checked : (target user port.portType name).perform around d = (.ok x, d))
    (created : (create user port .alias process source).perform around d = (.ok id, m))
    (performed : (PortOperation.addDelegation user id port.portType name source).perform around m =
      (answer, d'))
    (fresh : d.FreshTo around d') (saved : d.SavedTo around d') : answer = .ok () := by
  have course : Course user source Store.CreatesPort around d
    ((create user port .alias process source).perform around d) := course_create port .alias process
  have linked : Course user source Store.LinksPort around m
    ((PortOperation.addDelegation user id port.portType name source).perform around m) :=
    course_addDelegation id port.portType name
  rw [created] at course
  rw [performed] at linked
  obtain ⟨e, y, sourceId, rfl, forwards, issued⟩ := forwards_of_created sound unique checked created
    (Desk.freshTo_trans course.continues linked.continues fresh).1
  obtain ⟨rfl, rfl⟩ := Prod.mk.inj (performed.symm.trans issued)
  obtain ⟨told, after, done⟩ := isOk_of_forwards forwards saved
  rw [done]
  rfl

/-- Applies requests in order, each in surroundings of its own. -/
def applyEach (user source : String) :
    Backend → List (Surroundings × Request) → List Outcome × Backend
  | b, [] => ([], b)
  | b, (around, request) :: rest =>
    let (outcome, d) := applyAt user source around b request
    let (outcomes, last) := applyEach user source d.backend rest
    (outcome :: outcomes, last)

/-- The requests of a batch that did not fail. -/
def succeeding (batch : List (Surroundings × Request)) (outcomes : List Outcome) :
    List (Surroundings × Request) :=
  ((batch.zip outcomes).filter fun p => !p.2.isFailure).map Prod.fst

/-- Each request of a batch takes identifiers that are not in use, and its calls are saved. -/
def Undisturbed (user source : String) : Backend → List (Surroundings × Request) → Prop
  | _, [] => True
  | b, (around, request) :: rest =>
    let d := (applyAt user source around b request).2
    b.FreshRun (around.writesFrom 0 d.trace) ∧ b.SavedRun (around.writesFrom 0 d.trace) ∧
      Undisturbed user source d.backend rest

instance decidableUndisturbed (user source : String) :
    (b : Backend) → (batch : List (Surroundings × Request)) →
      Decidable (Undisturbed user source b batch)
  | _, [] => inferInstanceAs (Decidable True)
  | b, (around, request) :: rest =>
    have := decidableUndisturbed user source (applyAt user source around b request).2.backend rest
    inferInstanceAs (Decidable (_ ∧ _ ∧ _))

theorem reached_applyAt {b : Backend} (reached : b.store.Reached) (request : Request)
    (fresh : b.FreshRun (around.writesFrom 0 (applyAt user source around b request).2.trace)) :
    (applyAt user source around b request).2.backend.store.Reached :=
  (conduct_apply request).keeps (fun reached act => reached.act act)
    (Desk.along_of_performed fresh) reached

/-- One request of a batch: it fails and is not seen, or it has not failed. -/
theorem applyAt_cases {b : Backend} (reached : b.store.Reached) (request : Request)
    (fresh : b.FreshRun (around.writesFrom 0 (applyAt user source around b request).2.trace))
    (saved : b.SavedRun (around.writesFrom 0 (applyAt user source around b request).2.trace)) :
    ((applyAt user source around b request).1.isFailure = true ∧
        (applyAt user source around b request).2.backend = b) ∨
      (applyAt user source around b request).1.isFailure = false := by
  rw [applyAt] at fresh saved ⊢
  generalize performed : (apply user source request).perform around ⟨b, []⟩ = result
    at fresh saved ⊢
  obtain ⟨answer, d⟩ := result
  cases answer with
  | error e =>
    obtain ⟨sound, unique⟩ := reached.sound
    exact .inl ⟨rfl, backend_of_error (d := ⟨b, []⟩) sound unique performed
      (Desk.along_of_performed fresh) (Desk.along_of_performed saved)⟩
  | ok outcome => exact .inr (returns_apply user source request _ _ _ _ performed)

/-- Without the requests that fail, a batch answers and leaves the same. -/
theorem applyEach_succeeding {b : Backend} {batch : List (Surroundings × Request)}
    (reached : b.store.Reached) (undisturbed : Undisturbed user source b batch) :
    applyEach user source b (succeeding batch (applyEach user source b batch).1) =
      ((applyEach user source b batch).1.filter fun o => !o.isFailure,
        (applyEach user source b batch).2) := by
  induction batch generalizing b with
  | nil => rfl
  | cons first rest ih =>
    obtain ⟨around, request⟩ := first
    obtain ⟨fresh, saved, later⟩ := undisturbed
    have ih := ih (reached_applyAt reached request fresh) later
    rw [applyEach]
    dsimp only
    rcases applyAt_cases reached request fresh saved with ⟨failed, same⟩ | succeeded
    · rw [same] at ih ⊢
      simpa [succeeding, failed] using ih
    · simp only [succeeding, List.zip_cons_cons, List.filter_cons, succeeded] at ih ⊢
      simp only [Bool.not_false, if_true, List.map_cons, applyEach, ih]

end Request

namespace CommandLine

open Request Operation

/-- The requests of a batch with what each of them is given, if the first is number `n`. -/
def numbered (registry : Registry) (supply : Supply) (n : Nat) (requests : List Request) :
    List (Surroundings × Request) :=
  (requests.zipIdx n).map fun p => (surroundings registry supply p.2, p.1)

theorem applyAll_eq_applyEach (user source : String) (registry : Registry) (supply : Supply)
    (n : Nat) (b : Backend) (requests : List Request) :
    applyAll user source registry supply n b requests =
      applyEach user source b (numbered registry supply n requests) := by
  induction requests generalizing n b with
  | nil => rfl
  | cons request rest ih =>
    rw [applyAll]
    dsimp only
    rw [ih]
    rfl

/-- A request that fails leaves the store as it was, an alias that was created for a checked target
gets its delegation, and to leave out the requests of a batch that fail changes neither what the
others answer nor what is left in the end. -/
theorem failed_requests_leave_no_trace (user source : String) :
    (∀ (b : Backend) (around : Surroundings) (request : Request) (e : RequestError) (d : Desk),
      b.store.Reached → (Request.apply user source request).perform around ⟨b, []⟩ = (.error e, d) →
      b.FreshRun (around.writesFrom 0 d.trace) → b.SavedRun (around.writesFrom 0 d.trace) →
      d.backend = b) ∧
    (∀ (b : Backend) (around : Surroundings) (port : Port) (name : String) (process id : EntityId)
      (x : Entity) (m d : Desk) (answer : Except Failure Unit), b.store.Reached →
      (PortOperation.target user port.portType name).perform around ⟨b, []⟩ = (.ok x, ⟨b, []⟩) →
      (PortOperation.createAlias user ⟨port, some name⟩ process source).perform around ⟨b, []⟩ =
        (.ok id, m) →
      (PortOperation.addDelegation user id port.portType name source).perform around m =
        (answer, d) →
      b.FreshRun (around.writesFrom 0 d.trace) → b.SavedRun (around.writesFrom 0 d.trace) →
      answer = .ok ()) ∧
    ∀ (registry : Registry) (supply : Supply) (n : Nat) (b : Backend) (requests : List Request),
      let batch := numbered registry supply n requests
      let whole := applyAll user source registry supply n b requests
      b.store.Reached → Undisturbed user source b batch →
      applyEach user source b (succeeding batch whole.1) =
        (whole.1.filter fun o => !o.isFailure, whole.2) := by
  refine ⟨?_, ?_, ?_⟩
  · intro b around request e d reached failed fresh saved
    obtain ⟨sound, unique⟩ := reached.sound
    exact backend_of_error (d := ⟨b, []⟩) sound unique failed (Desk.along_of_performed fresh)
      (Desk.along_of_performed saved)
  · intro b around port name process id x m d answer reached checked created performed fresh saved
    obtain ⟨sound, unique⟩ := reached.sound
    exact addDelegation_of_created (d := ⟨b, []⟩) sound unique checked created performed
      (Desk.along_of_performed fresh) (Desk.along_of_performed saved)
  · intro registry supply n b requests batch whole reached undisturbed
    have same : whole = applyEach user source b batch := applyAll_eq_applyEach ..
    rw [same]
    exact applyEach_succeeding reached undisturbed

/-- A batch over a store in a file, of which two requests fail. -/
def mixedBatch : List Request :=
  let port (name : String) : Port := .plain name name .input
  [.createProcess "p", .createProcess "p", .createPort .implementation "p" (port "a") none,
   .createPort .alias "p" (port "b") (some "c"), .createPort .alias "p" (port "b") (some "a")]

theorem failed_requests_leave_no_trace_sample :
    let around := Surroundings.sample 4
    let port : Port := .plain "b" "b" .input
    let refused := (Request.apply "steward" "engine" (.createPort .alias "p" port (some "c"))).perform
      around ⟨.sample, []⟩
    let created := (PortOperation.createAlias "steward" ⟨port, some "a"⟩ ⟨.ofParts 0 0⟩
      "engine").perform around ⟨.sample, []⟩
    let linked := (PortOperation.addDelegation "steward" ⟨.ofParts 0 4⟩ port.portType "a"
      "engine").perform around created.2
    let file : Backend := .file ⟨.empty, "store.json", .only "home"⟩
    let supply := Supply.ofClock .epoch 0 none
    let whole := applyAll "steward" "engine" around.registry supply 0 file mixedBatch
    refused.2.backend = .sample ∧ linked.1 = .ok () ∧ whole.1.countP Outcome.isFailure = 2 ∧
      applyEach "steward" "engine" file
          (succeeding (numbered around.registry supply 0 mixedBatch) whole.1) =
        (whole.1.filter fun o => !o.isFailure, whole.2) := by
  intro around port refused created linked file supply whole
  obtain ⟨atomic, delegated, batches⟩ := failed_requests_leave_no_trace "steward" "engine"
  have nothing : file.store.Reached := ⟨[], trivial, rfl⟩
  have undisturbed : Undisturbed "steward" "engine" file
      (numbered around.registry supply 0 mixedBatch) := by decide +kernel
  have failures : whole.1.countP Outcome.isFailure = 2 := by decide +kernel
  have unknown : refused = (.error (.port (.portNotFound "c")), refused.2) :=
    Prod.ext (by decide +kernel) rfl
  have made : created = (.ok ⟨.ofParts 0 4⟩, created.2) := Prod.ext (by decide +kernel) rfl
  let target := (PortOperation.target "steward" port.portType "a").perform around ⟨.sample, []⟩
  have answered : Except.isOk target.1 = true := by decide +kernel
  obtain ⟨x, found⟩ := Except.isOk_iff.mp answered
  have checked : target = (.ok x, ⟨.sample, []⟩) :=
    Prod.ext found (PortOperation.still_target _ _ _ _ _)
  have performed : linked = (linked.1, linked.2) := Prod.ext rfl rfl
  have refusal : Backend.sample.FreshRun (around.writesFrom 0 refused.2.trace) ∧
      Backend.sample.SavedRun (around.writesFrom 0 refused.2.trace) := by decide +kernel
  have delegation : Backend.sample.FreshRun (around.writesFrom 0 linked.2.trace) ∧
      Backend.sample.SavedRun (around.writesFrom 0 linked.2.trace) := by decide +kernel
  have kept := refusal.elim (atomic .sample around _ _ refused.2 reached_sample unknown)
  have done := delegation.elim (delegated .sample around port "a" ⟨.ofParts 0 0⟩ ⟨.ofParts 0 4⟩ x
    created.2 linked.2 linked.1 reached_sample checked made performed)
  have same := batches around.registry supply 0 file mixedBatch nothing undisturbed
  exact ⟨kept, done, failures, same⟩

end CommandLine

end LineagePorts
