import LineagePorts.CommandLine.Program
import LineagePorts.Proofs.Request.PortSteps

/-!
# A batch refines the catalog

However long a batch of requests is, what it prints and what it leaves in a store in memory is what
the catalog of names answers and becomes, request by request.
-/

namespace LineagePorts

section Step

variable {s : Store} {c : Catalog} (refines : Refines s c) {around : Surroundings}
  {user source : String} {id : SourceId} (granted : Granted around.registry user source id)

include refines granted

theorem apply_simulated (request : Request) :
    Simulated around s c (request.apply user source) (c.change request) := by
  cases request with
  | createProcess name => exact Request.createProcess_simulated refines granted name
  | createSchemaType name => exact Request.createSchemaType_simulated refines granted name
  | createPort kind process port delegatesTo =>
    exact createPort_simulated refines granted kind process port delegatesTo
  | updatePort kind port => exact updatePort_simulated refines granted kind port
  | addSchema port schemaType => exact addSchema_simulated refines granted port schemaType
  | addDelegation port portType delegatesTo =>
    exact addDelegation_simulated refines granted port portType delegatesTo
  | removePort name => exact removePort_simulated refines granted name
  | findPort name => exact findPort_simulated refines granted name

/-- One request beside one step of the catalog. A refused request leaves both as they were. -/
theorem applyAt_step (request : Request)
    (fresh : s.FreshRun (around.issuedFrom 0
      (Request.applyAt user source around (.memory s) request).2.trace)) :
    ∃ s', (Request.applyAt user source around (.memory s) request).2.backend = .memory s' ∧
      (Request.applyAt user source around (.memory s) request).1.Shows (c.step request).1 ∧
      Refines s' (c.step request).2 := by
  have conduct : Conduct user source around ⟨.memory s, []⟩
      ((request.apply user source).perform around _) := Request.conduct_apply request
  obtain ⟨calls, after⟩ := conduct.continues.memory
  rw [List.countP_nil] at after
  have agrees := apply_simulated refines granted request fresh
  rw [Request.applyAt] at fresh ⊢
  rw [Catalog.step]
  generalize (request.apply user source).perform around ⟨.memory s, []⟩ = result at *
  obtain ⟨answer, desk⟩ := result
  dsimp only at after fresh
  subst after
  have fresh : s.FreshRun (around.issuedFrom 0 calls) := fresh
  have kept := refines.unique.run refines.sound fresh
  generalize s.run (around.issuedFrom 0 calls) = s' at agrees kept ⊢
  generalize c.change request = change at agrees ⊢
  refine ⟨s', rfl, ?_⟩
  cases agrees with
  | done shows represents => exact ⟨shows, represents, kept.1, kept.2⟩
  | refused => exact ⟨.failed _, refines⟩

end Step

namespace CommandLine

/-- Each request of a batch takes identifiers that are not in use when it is applied. -/
def FreshBatch (user source : String) (registry : Registry) (supply : Supply) :
    Nat → Store → List Request → Prop
  | _, _, [] => True
  | n, s, request :: rest =>
    let around := surroundings registry supply n
    let desk := (Request.applyAt user source around (.memory s) request).2
    s.FreshRun (around.issuedFrom 0 desk.trace) ∧
      FreshBatch user source registry supply (n + 1) desk.store rest

theorem applyAll_cons (user source : String) (registry : Registry) (supply : Supply) (n : Nat)
    (backend : Backend) (request : Request) (rest : List Request) :
    applyAll user source registry supply n backend (request :: rest) =
      let first := Request.applyAt user source (surroundings registry supply n) backend request
      let later := applyAll user source registry supply (n + 1) first.2.backend rest
      (first.1 :: later.1, later.2) := rfl

theorem applyAll_refines {registry : Registry} {user source : String} {id : SourceId}
    (granted : Granted registry user source id) {supply : Supply} {requests : List Request}
    {n : Nat} {s : Store} {c : Catalog} (refines : Refines s c)
    (fresh : FreshBatch user source registry supply n s requests) :
    ∃ s', (applyAll user source registry supply n (.memory s) requests).2 = .memory s' ∧
      List.Forall₂ Outcome.Shows
        (applyAll user source registry supply n (.memory s) requests).1 (c.run requests).1 ∧
      Refines s' (c.run requests).2 := by
  induction requests generalizing n s c with
  | nil => exact ⟨s, rfl, .nil, refines⟩
  | cons request rest ih =>
    obtain ⟨freshNow, freshLater⟩ := fresh
    obtain ⟨next, backend, shows, refines'⟩ :=
      applyAt_step refines granted request freshNow
    have store : (Request.applyAt user source (surroundings registry supply n) (.memory s)
        request).2.store = next := by
      rw [Desk.store, backend]
      rfl
    rw [store] at freshLater
    obtain ⟨last, backend', shows', refines''⟩ := ih refines' freshLater
    rw [applyAll_cons]
    dsimp only
    rw [backend]
    exact ⟨last, backend', .cons shows shows', refines''⟩

instance decidableFreshBatch (user source : String) (registry : Registry) (supply : Supply) :
    (n : Nat) → (s : Store) → (requests : List Request) →
      Decidable (FreshBatch user source registry supply n s requests)
  | _, _, [] => inferInstanceAs (Decidable True)
  | n, s, request :: rest =>
    have := decidableFreshBatch user source registry supply (n + 1)
      (Request.applyAt user source (surroundings registry supply n) (.memory s) request).2.store
      rest
    inferInstanceAs (Decidable (_ ∧ _))

/-- Applied to an empty store on behalf of a user who may act for the source, a batch of any length
prints what the catalog answers, starting from nothing, and leaves a sound store that holds exactly
what the catalog then says. -/
theorem batch_refines_catalog {registry : Registry} {user source : String} {id : SourceId}
    (granted : Granted registry user source id) {supply : Supply} {requests : List Request}
    (fresh : FreshBatch user source registry supply 0 .empty requests) :
    ∃ s, (applyAll user source registry supply 0 (.memory .empty) requests).2 = .memory s ∧
      List.Forall₂ Outcome.Shows
        (applyAll user source registry supply 0 (.memory .empty) requests).1
        (Catalog.empty.run requests).1 ∧
      Refines s (Catalog.empty.run requests).2 :=
  applyAll_refines granted refines_empty fresh

/-- An alias of the name of an implementation, which the name then stands for instead, until the
alias is removed; and requests that are refused. -/
def sampleBatch : List Request :=
  let port (name : String) : Port := .plain name name .input
  [.createProcess "p", .createProcess "p", .createSchemaType "s",
   .createPort .implementation "p" (port "a") none, .createPort .alias "q" (port "a") none,
   .createPort .alias "p" (port "a") (some "a"), .createPort .alias "p" (port "a") (some "a"),
   .addSchema "a" "s", .addDelegation "a" .output "a", .updatePort .alias (.plain "a" "b" .input),
   .updatePort .alias (.plain "a" "b" .input), .findPort "a", .removePort "a", .findPort "a",
   .removePort " ", .findPort "b"]

/-- One source that every user may act for. -/
def sampleRegistry : Registry := ⟨[⟨"engine", ⟨.zero⟩, none⟩]⟩

theorem batch_refines_catalog_sample :
    ∃ s, (applyAll "steward" "engine" sampleRegistry (.ofClock .epoch 0 none) 0
        (.memory .empty) sampleBatch).2 = .memory s ∧
      List.Forall₂ Outcome.Shows
        (applyAll "steward" "engine" sampleRegistry (.ofClock .epoch 0 none) 0
          (.memory .empty) sampleBatch).1
        (Catalog.empty.run sampleBatch).1 ∧
      Refines s (Catalog.empty.run sampleBatch).2 := by
  have granted : Granted sampleRegistry "steward" "engine" ⟨.zero⟩ :=
    ⟨by decide +kernel, by decide +kernel⟩
  exact batch_refines_catalog granted (by decide +kernel)

end CommandLine

end LineagePorts
