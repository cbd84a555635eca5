import LineagePorts.Proofs.Operation.Perform
import LineagePorts.Proofs.Store.Saving

/-!
# Calls on a store wherever it is kept

A call on a store in memory or in a file is refused by the rules, or cannot be saved, or changes the
store by one of the rules; only in the last case is the store another one afterwards. A run of calls
comes with what the disk does while each of them is saved. At a desk, the calls that a trace records
are such a run, and over a store in memory they are a run of the store.
-/

namespace LineagePorts

instance (disk : FileSystem) (fault : Option SaveFault) (path : String) :
    Decidable (FileStore.Saves disk fault path) :=
  decidable_of_iff (fault = none ∧
    Except.isOk (disk.fileLocation (FileStore.temporaryPath path)) = true ∧
      Except.isOk (disk.fileLocation path) = true) (by
    rw [Except.isOk_iff, Except.isOk_iff, FileStore.Saves])

namespace Backend

/-- A change is kept: in memory always, in a file if it can be saved. -/
def Saves : Backend → Option SaveFault → Prop
  | .memory _, _ => True
  | .file f, fault => FileStore.Saves f.disk fault f.path

instance : (b : Backend) → (fault : Option SaveFault) → Decidable (b.Saves fault)
  | .memory _, _ => inferInstanceAs (Decidable True)
  | .file f, fault => inferInstanceAs (Decidable (FileStore.Saves f.disk fault f.path))

def issue (b : Backend) (fault : Option SaveFault) (c : Issued) :
    Except Failure Store.Answer × Backend :=
  b.commit fault fun s => s.perform c.stamp c.caller c.call

/-- How a call may end. -/
inductive Ends (b : Backend) (fault : Option SaveFault) (c : Issued) :
    Except Failure Store.Answer × Backend → Prop where
  | refused {e : Failure} (refusal : b.store.perform c.stamp c.caller c.call = .error e) :
      Ends b fault c (.error e, b)
  | unsaved {cause : ServerFault} {next : Backend} (same : next.store = b.store)
      (accepted : (b.store.perform c.stamp c.caller c.call).isOk = true)
      (fails : ¬ b.Saves fault) : Ends b fault c (.error (.server cause), next)
  | done {answer : Store.Answer} {next : Backend}
      (change : Store.Change b.store c.stamp c.caller c.call answer next.store) :
      Ends b fault c (.ok answer, next)

theorem issue_ends (b : Backend) (fault : Option SaveFault) (c : Issued) :
    b.Ends fault c (b.issue fault c) := by
  cases b with
  | memory s =>
    rw [issue, commit]
    cases made : s.perform c.stamp c.caller c.call with
    | error e => exact .refused made
    | ok result => exact .done (Store.perform_eq_ok_iff.mp made)
  | file f =>
    rw [issue, commit, FileStore.commit]
    cases made : f.store.perform c.stamp c.caller c.call with
    | error e => exact .refused made
    | ok result =>
      have accepted : (f.store.perform c.stamp c.caller c.call).isOk = true := by
        rw [made]
        rfl
      dsimp only
      cases saved : FileStore.save f.disk fault f.path result.2.snapshot.fileText with
      | mk answer disk =>
        cases answer with
        | ok _ => exact .done (Store.perform_eq_ok_iff.mp made)
        | error cause =>
          refine .unsaved rfl accepted fun saves => ?_
          obtain ⟨disk', saved', _⟩ :=
            FileStore.save_of_saves saves result.2.snapshot.fileText
          rw [saved] at saved'
          cases saved'

/-- What the rules accept and the disk keeps is done. -/
theorem issue_of_saves {b : Backend} {fault : Option SaveFault} {c : Issued}
    {answer : Store.Answer} {s : Store} (saves : b.Saves fault)
    (change : Store.Change b.store c.stamp c.caller c.call answer s) :
    ∃ next, b.issue fault c = (.ok answer, next) ∧ next.store = s := by
  have accepted := Store.perform_eq_ok_iff.mpr change
  have ends := b.issue_ends fault c
  generalize b.issue fault c = result at ends ⊢
  cases ends with
  | refused refusal =>
    rw [accepted] at refusal
    cases refusal
  | unsaved same accepted fails => exact absurd saves fails
  | @done answer' next change' =>
    have same := Store.perform_eq_ok_iff.mpr change'
    rw [accepted] at same
    obtain ⟨rfl, rfl⟩ := Prod.mk.inj (Except.ok.inj same)
    exact ⟨next, rfl, rfl⟩

def after (b : Backend) (c : Option SaveFault × Issued) : Backend := (b.issue c.1 c.2).2

def run (b : Backend) (calls : List (Option SaveFault × Issued)) : Backend :=
  calls.foldl after b

/-- Each call of a run takes identifiers that are not in use when it is made. -/
def FreshRun : Backend → List (Option SaveFault × Issued) → Prop
  | _, [] => True
  | b, c :: cs => c.2.stamp.Fresh b.store c.2.call ∧ FreshRun (b.after c) cs

instance decidableFreshRun :
    (b : Backend) → (calls : List (Option SaveFault × Issued)) → Decidable (b.FreshRun calls)
  | _, [] => inferInstanceAs (Decidable True)
  | b, c :: cs =>
    have := decidableFreshRun (b.after c) cs
    inferInstanceAs (Decidable (_ ∧ _))

/-- Each call of a run that the rules accept is saved. -/
def SavedRun : Backend → List (Option SaveFault × Issued) → Prop
  | _, [] => True
  | b, c :: cs =>
    ((b.store.perform c.2.stamp c.2.caller c.2.call).isOk = true → b.Saves c.1) ∧
      SavedRun (b.after c) cs

instance decidableSavedRun :
    (b : Backend) → (calls : List (Option SaveFault × Issued)) → Decidable (b.SavedRun calls)
  | _, [] => inferInstanceAs (Decidable True)
  | b, c :: cs =>
    have := decidableSavedRun (b.after c) cs
    inferInstanceAs (Decidable ((_ → _) ∧ _))

theorem run_append (b : Backend) (cs ds : List (Option SaveFault × Issued)) :
    b.run (cs ++ ds) = (b.run cs).run ds :=
  List.foldl_append

theorem after_memory (s : Store) (c : Option SaveFault × Issued) :
    (memory s).after c = .memory (s.after c.2) := by
  rw [after, issue, commit, Store.after, Store.afterCall]
  cases s.perform c.2.stamp c.2.caller c.2.call <;> rfl

/-- In memory, a run of calls is one of the store. -/
theorem run_memory (s : Store) (calls : List (Option SaveFault × Issued)) :
    (memory s).run calls = .memory (s.run (calls.map Prod.snd)) := by
  induction calls generalizing s with
  | nil => rfl
  | cons c cs ih =>
    rw [List.map_cons, Store.run_cons, ← ih, ← after_memory]
    rfl

theorem freshRun_append {b : Backend} {cs ds : List (Option SaveFault × Issued)} :
    b.FreshRun (cs ++ ds) ↔ b.FreshRun cs ∧ (b.run cs).FreshRun ds := by
  induction cs generalizing b with
  | nil => exact ⟨fun h => ⟨trivial, h⟩, fun h => h.2⟩
  | cons c cs ih =>
    rw [List.cons_append, FreshRun, FreshRun, ih, and_assoc]
    rfl

theorem savedRun_append {b : Backend} {cs ds : List (Option SaveFault × Issued)} :
    b.SavedRun (cs ++ ds) ↔ b.SavedRun cs ∧ (b.run cs).SavedRun ds := by
  induction cs generalizing b with
  | nil => exact ⟨fun h => ⟨trivial, h⟩, fun h => h.2⟩
  | cons c cs ih =>
    rw [List.cons_append, SavedRun, SavedRun, ih, and_assoc]
    rfl

end Backend

/-- The calls of a trace, each with its stamp and what the disk does, if the first is number `n`. -/
def Surroundings.writesFrom (around : Surroundings) :
    Nat → List Event → List (Option SaveFault × Issued)
  | _, [] => []
  | n, .resolved _ _ _ :: events => around.writesFrom n events
  | n, .called who call :: events =>
    (around.fault n, ⟨around.stamp n, who, call⟩) :: around.writesFrom (n + 1) events

theorem Surroundings.writesFrom_append (around : Surroundings) (n : Nat) (es fs : List Event) :
    around.writesFrom n (es ++ fs) =
      around.writesFrom n es ++ around.writesFrom (n + es.countP Event.isCall) fs := by
  induction es generalizing n with
  | nil => rfl
  | cons e es ih =>
    cases e with
    | resolved user source granted =>
      rw [List.cons_append, writesFrom, ih, writesFrom, List.countP_cons_of_neg]
      exact Bool.false_ne_true
    | called who call =>
      rw [List.cons_append, writesFrom, ih, writesFrom, List.countP_cons_of_pos rfl,
        List.cons_append, Nat.add_right_comm n 1, Nat.add_assoc]

theorem Surroundings.map_writesFrom (around : Surroundings) (n : Nat) (events : List Event) :
    (around.writesFrom n events).map Prod.snd = around.issuedFrom n events := by
  induction events generalizing n with
  | nil => rfl
  | cons e events ih =>
    cases e with
    | resolved user source granted => exact ih n
    | called who call => exact congrArg _ (ih (n + 1))

/-- Makes a call that the registry was asked for and granted. -/
def Desk.issue (d : Desk) (around : Surroundings) (who : Caller) (call : Store.Call) :
    Except Failure Store.Answer × Desk :=
  let (answer, backend) :=
    d.backend.issue (around.fault d.calls) ⟨around.stamp d.calls, who, call⟩
  (answer, ⟨backend,
    d.trace ++ [.resolved who.user who.source.qualifiedName true, .called who call]⟩)

namespace Desk

/-- One desk leads to another by what is added to the trace. -/
def Continues (around : Surroundings) (d after : Desk) : Prop :=
  ∃ added, after = ⟨d.backend.run (around.writesFrom d.calls added), d.trace ++ added⟩

theorem continues_self (d : Desk) (around : Surroundings) : d.Continues around d :=
  ⟨[], by rw [List.append_nil]; rfl⟩

theorem continues_issue (d : Desk) (around : Surroundings) (who : Caller) (call : Store.Call) :
    d.Continues around (d.issue around who call).2 :=
  ⟨[.resolved who.user who.source.qualifiedName true, .called who call], rfl⟩

theorem calls_added (d : Desk) (b : Backend) (added : List Event) :
    Desk.calls ⟨b, d.trace ++ added⟩ = d.calls + added.countP Event.isCall :=
  List.countP_append

theorem calls_record_resolved (d : Desk) (user source : String) (granted : Bool) :
    (d.record (.resolved user source granted)).calls = d.calls :=
  d.calls_added d.backend [.resolved user source granted]

theorem Continues.trans {around : Surroundings} {d middle after : Desk}
    (first : d.Continues around middle) (second : middle.Continues around after) :
    d.Continues around after := by
  obtain ⟨added, rfl⟩ := first
  obtain ⟨more, rfl⟩ := second
  refine ⟨added ++ more, ?_⟩
  rw [calls_added, Surroundings.writesFrom_append, Backend.run_append, List.append_assoc]

/-- Over a store in memory, what was added to the trace is a run of the store. -/
theorem Continues.memory {around : Surroundings} {s : Store} {trace : List Event} {after : Desk}
    (continues : Continues around ⟨.memory s, trace⟩ after) :
    ∃ added, after =
      ⟨.memory (s.run (around.issuedFrom (trace.countP Event.isCall) added)), trace ++ added⟩ := by
  obtain ⟨added, rfl⟩ := continues
  refine ⟨added, ?_⟩
  rw [Backend.run_memory, Surroundings.map_writesFrom]
  rfl

/-- The calls on the way from one desk to another are such a run. -/
def Along (run : Backend → List (Option SaveFault × Issued) → Prop) (around : Surroundings)
    (d after : Desk) : Prop :=
  ∃ added, after.trace = d.trace ++ added ∧ run d.backend (around.writesFrom d.calls added)

/-- On the way from one desk to another each call takes identifiers that are not in use. -/
def FreshTo : Surroundings → Desk → Desk → Prop := Along Backend.FreshRun

/-- On the way from one desk to another each call that the rules accept is saved. -/
def SavedTo : Surroundings → Desk → Desk → Prop := Along Backend.SavedRun

theorem along_of_performed {run : Backend → List (Option SaveFault × Issued) → Prop}
    {around : Surroundings} {b : Backend} {d : Desk} (along : run b (around.writesFrom 0 d.trace)) :
    Along run around ⟨b, []⟩ d :=
  ⟨d.trace, rfl, along⟩

section Trans

variable {around : Surroundings} {d middle after : Desk}

/-- What a run of calls is on a way in two parts, it is on each of them. -/
theorem along_trans {run : Backend → List (Option SaveFault × Issued) → Prop}
    (splits : ∀ {b : Backend} {cs ds : List (Option SaveFault × Issued)},
      run b (cs ++ ds) → run b cs ∧ run (b.run cs) ds)
    (first : d.Continues around middle) (second : middle.Continues around after)
    (along : d.Along run around after) :
    d.Along run around middle ∧ middle.Along run around after := by
  obtain ⟨added, rfl⟩ := first
  obtain ⟨more, rfl⟩ := second
  obtain ⟨whole, traced, made⟩ := along
  have split : whole = added ++ more := by
    rw [List.append_assoc] at traced
    exact (List.append_cancel_left traced).symm
  rw [split, Surroundings.writesFrom_append] at made
  obtain ⟨before, later⟩ := splits made
  refine ⟨⟨added, rfl, before⟩, ⟨more, rfl, ?_⟩⟩
  rw [calls_added]
  exact later

theorem freshTo_trans (first : d.Continues around middle) (second : middle.Continues around after)
    (fresh : d.FreshTo around after) : d.FreshTo around middle ∧ middle.FreshTo around after :=
  along_trans Backend.freshRun_append.mp first second fresh

theorem savedTo_trans (first : d.Continues around middle) (second : middle.Continues around after)
    (saved : d.SavedTo around after) : d.SavedTo around middle ∧ middle.SavedTo around after :=
  along_trans Backend.savedRun_append.mp first second saved

end Trans

section Issue

variable {around : Surroundings} {d d' : Desk} {who : Caller} {call : Store.Call}

theorem fresh_of_issue (fresh : d.FreshTo around (d.issue around who call).2) :
    (around.stamp d.calls).Fresh d.store call := by
  obtain ⟨added, traced, new⟩ := fresh
  obtain rfl := List.append_cancel_left traced
  exact new.1

theorem fresh_of_issued {answer : Except Failure Store.Answer}
    (issued : d.issue around who call = (answer, d')) (fresh : d.FreshTo around d') :
    (around.stamp d.calls).Fresh d.store call := by
  have went : (d.issue around who call).2 = d' := congrArg Prod.snd issued
  rw [← went] at fresh
  exact fresh_of_issue fresh

theorem ends_of_issue {answer : Except Failure Store.Answer}
    (issued : d.issue around who call = (answer, d')) :
    d.backend.Ends (around.fault d.calls) ⟨around.stamp d.calls, who, call⟩ (answer, d'.backend) := by
  rw [issue] at issued
  obtain ⟨rfl, rfl⟩ := Prod.mk.inj issued
  exact d.backend.issue_ends _ _

/-- A call that is answered has changed the store by one of the rules. -/
theorem change_of_issue {answer : Store.Answer}
    (issued : d.issue around who call = (.ok answer, d')) :
    Store.Change d.store (around.stamp d.calls) who call answer d'.store := by
  cases ends_of_issue issued with
  | done change => exact change

/-- A call that fails leaves the store as it was. -/
theorem store_of_issue {e : Failure} (issued : d.issue around who call = (.error e, d')) :
    d'.store = d.store := by
  have ends := ends_of_issue issued
  rw [store]
  generalize d'.backend = backend at ends ⊢
  cases ends with
  | refused refusal => rfl
  | unsaved same accepted fails => exact same

/-- A call that the rules refuse fails for the same reason. -/
theorem issue_of_refused {e : Failure}
    (refused : d.store.perform (around.stamp d.calls) who call = .error e) :
    ∃ after, d.issue around who call = (.error e, after) ∧ after.store = d.store := by
  generalize issued : d.issue around who call = result
  obtain ⟨answer, after⟩ := result
  cases answer with
  | ok a =>
    have done := Store.perform_eq_ok_iff.mpr (change_of_issue issued)
    rw [refused] at done
    cases done
  | error f =>
    have ends := ends_of_issue issued
    have kept := store_of_issue issued
    generalize backed : after.backend = next at ends
    cases ends with
    | refused refusal =>
      obtain rfl := Except.error.inj (refused.symm.trans refusal)
      exact ⟨after, rfl, kept⟩
    | unsaved _ accepted _ =>
      have accepted : (d.store.perform (around.stamp d.calls) who call).isOk = true := accepted
      rw [refused] at accepted
      cases accepted

/-- If it would have been saved, it leaves the disk as it was, too. -/
theorem backend_of_issue {e : Failure} (issued : d.issue around who call = (.error e, d'))
    (saved : d.SavedTo around d') : d'.backend = d.backend := by
  have ends := ends_of_issue issued
  have went : d' = (d.issue around who call).2 := by rw [issued]
  rw [went] at saved
  obtain ⟨added, traced, saves⟩ := saved
  obtain rfl := List.append_cancel_left traced
  generalize d'.backend = backend at ends ⊢
  cases ends with
  | refused refusal => rfl
  | unsaved same accepted fails => exact absurd (saves.1 accepted) fails

/-- A call that the rules accept and that the disk keeps is answered. -/
theorem issue_of_saves {answer : Store.Answer} {s : Store}
    (saves : d.backend.Saves (around.fault d.calls))
    (change : Store.Change d.store (around.stamp d.calls) who call answer s) :
    ∃ d', d.issue around who call = (.ok answer, d') ∧ d'.store = s := by
  obtain ⟨next, issued, same⟩ := Backend.issue_of_saves
    (c := ⟨around.stamp d.calls, who, call⟩) saves change
  exact ⟨⟨next, _⟩, by rw [issue, issued], same⟩

/-- So is one that would be saved if the rules accept it, as they do. -/
theorem issue_of_change {answer : Store.Answer} {s : Store}
    (saved : d.SavedTo around (d.issue around who call).2)
    (change : Store.Change d.store (around.stamp d.calls) who call answer s) :
    ∃ d', d.issue around who call = (.ok answer, d') ∧ d'.store = s := by
  obtain ⟨added, traced, saves⟩ := saved
  obtain rfl := List.append_cancel_left traced
  have accepted : (d.backend.store.perform (around.stamp d.calls) who call).isOk = true := by
    have done := Store.perform_eq_ok_iff.mpr change
    rw [store] at done
    rw [done]
    rfl
  exact issue_of_saves (saves.1 accepted) change

end Issue

end Desk

namespace Store

theorem perform_updateEntity (s : Store) (stamp : Stamp) (who : Caller) (id : EntityId)
    (typeName : String) (properties : Properties) :
    s.perform stamp who (.updateEntity id typeName properties) =
      ((s.updateEntity stamp who id typeName properties).map ((), ·)).map
        fun r => (.done, r.2) := by
  rw [perform]
  cases s.updateEntity stamp who id typeName properties <;> rfl

theorem perform_deleteEntity (s : Store) (stamp : Stamp) (who : Caller) (id : EntityId) :
    s.perform stamp who (.deleteEntity id) =
      ((s.deleteEntity id).map ((), ·)).map fun r => (.done, r.2) := by
  rw [perform]
  cases s.deleteEntity id <;> rfl

end Store

namespace Operation

variable {α : Type}

theorem commit_map {α β : Type} (b : Backend) (fault : Option SaveFault)
    (act : Store → Except Failure (α × Store)) (f : α → β) :
    b.commit fault (fun s => (act s).map fun r => (f r.1, r.2)) =
      ((b.commit fault act).1.map f, (b.commit fault act).2) := by
  cases b with
  | memory s =>
    simp only [Backend.commit]
    cases act s <;> rfl
  | file disk =>
    simp only [Backend.commit, FileStore.commit]
    cases act disk.store with
    | error e => rfl
    | ok result =>
      simp only [Except.map]
      generalize FileStore.save disk.disk fault disk.path result.2.snapshot.fileText = saved
      obtain ⟨answer, next⟩ := saved
      cases answer <;> rfl

section Resolve

variable {around : Surroundings} {user source : String}

theorem perform_resolve_ok {id : SourceId}
    (granted : around.registry.resolve user source = .ok id)
    (f : ExternalSource → Operation Failure α) (d : Desk) :
    (resolve user source >>= f).perform around d =
      (f ⟨id, source⟩).perform around (d.record (.resolved user source true)) := by
  rw [perform_bind, perform_resolve, granted]
  rfl

theorem perform_resolve_error {cause : Failure}
    (refused : around.registry.resolve user source = .error cause)
    (f : ExternalSource → Operation Failure α) (d : Desk) :
    (resolve user source >>= f).perform around d =
      (.error cause, d.record (.resolved user source false)) := by
  rw [perform_bind, perform_resolve, refused]
  rfl

/-- A call that the registry grants is told by the call that is recorded. -/
theorem perform_resolve_change {id : SourceId}
    (granted : around.registry.resolve user source = .ok id) {call : Store.Call}
    {act : ExternalSource → Stamp → Store → Except Failure (α × Store)} {f : α → Store.Answer}
    (same : ∀ stamp s, s.perform stamp ⟨user, id, source⟩ call =
      (act ⟨id, source⟩ stamp s).map fun r => (f r.1, r.2)) (d : Desk) :
    ((resolve user source >>= fun x => change ⟨user, x⟩ call (act x)).perform around d).1.map f =
        (d.issue around ⟨user, id, source⟩ call).1 ∧
      ((resolve user source >>= fun x => change ⟨user, x⟩ call (act x)).perform around d).2 =
        (d.issue around ⟨user, id, source⟩ call).2 := by
  have issued : d.backend.issue (around.fault d.calls)
      ⟨around.stamp d.calls, ⟨user, id, source⟩, call⟩ =
      ((d.backend.commit (around.fault d.calls) (act ⟨id, source⟩ (around.stamp d.calls))).1.map f,
        (d.backend.commit (around.fault d.calls)
          (act ⟨id, source⟩ (around.stamp d.calls))).2) := by
    rw [Backend.issue, ← commit_map]
    simp only [same]
  rw [perform_resolve_ok granted, perform_change, Desk.calls_record_resolved, Desk.issue, issued]
  simp [Desk.record]

theorem perform_resolve_createEntity {id : SourceId}
    (granted : around.registry.resolve user source = .ok id) (typeName : String)
    (properties : Properties) (owner : Option Ownership) (d : Desk) :
    let result := (resolve user source >>= fun x =>
      createEntity ⟨user, x⟩ typeName properties owner).perform around d
    (result.1.map Store.Answer.entity, result.2) =
      d.issue around ⟨user, id, source⟩ (.createEntity typeName properties owner) :=
  Prod.ext_iff.mpr (perform_resolve_change granted (fun _ _ => rfl) d)

theorem perform_resolve_updateEntity {id : SourceId}
    (granted : around.registry.resolve user source = .ok id) (entity : EntityId)
    (typeName : String) (properties : Properties) (d : Desk) :
    let result := (resolve user source >>= fun x =>
      updateEntity ⟨user, x⟩ entity typeName properties).perform around d
    (result.1.map fun _ => Store.Answer.done, result.2) =
      d.issue around ⟨user, id, source⟩ (.updateEntity entity typeName properties) :=
  Prod.ext_iff.mpr (perform_resolve_change granted (fun stamp s =>
    s.perform_updateEntity stamp ⟨user, id, source⟩ entity typeName properties) d)

theorem perform_resolve_deleteEntity {id : SourceId}
    (granted : around.registry.resolve user source = .ok id) (entity : EntityId) (d : Desk) :
    let result := (resolve user source >>= fun x => deleteEntity ⟨user, x⟩ entity).perform around d
    (result.1.map fun _ => Store.Answer.done, result.2) =
      d.issue around ⟨user, id, source⟩ (.deleteEntity entity) :=
  Prod.ext_iff.mpr (perform_resolve_change granted (fun stamp s =>
    s.perform_deleteEntity stamp ⟨user, id, source⟩ entity) d)

theorem perform_resolve_createRelationship {id : SourceId}
    (granted : around.registry.resolve user source = .ok id) (start finish : EntityId)
    (typeName : String) (d : Desk) :
    let result := (resolve user source >>= fun x =>
      createRelationship ⟨user, x⟩ start finish typeName).perform around d
    (result.1.map Store.Answer.relationship, result.2) =
      d.issue around ⟨user, id, source⟩ (.createRelationship start finish typeName) :=
  Prod.ext_iff.mpr (perform_resolve_change granted (fun _ _ => rfl) d)

end Resolve

end Operation

/-- One user may act for one source; what is made gets the identifiers from `first` on. -/
def Surroundings.sample (first : Nat) : Surroundings where
  registry := ⟨[⟨"engine", ⟨.zero⟩, some ["steward"]⟩]⟩
  stamp k := .ofClock .epoch (first + 2 * k)
  fault _ := none

end LineagePorts
