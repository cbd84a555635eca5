import LineagePorts.Proofs.Operation.Calls

/-!
# The course of an operation

An operation that makes at most one call takes one of three courses: it leaves the registry and the
store alone, or the registry refuses it, or it makes a call that the registry granted to the same
user for the same source. A law says which calls it may make on which store.
-/

namespace LineagePorts

inductive Course (user source : String) (law : Store → Store.Call → Prop)
    (around : Surroundings) (d : Desk) {ε α : Type} : Except ε α × Desk → Prop where
  | still (answer : Except ε α) : Course user source law around d (answer, d)
  | denied {e : ε} {cause : Failure}
      (refused : around.registry.resolve user source = .error cause) :
      Course user source law around d (.error e, d.record (.resolved user source false))
  | called {id : SourceId} {call : Store.Call} {answer : Except ε α}
      (granted : around.registry.resolve user source = .ok id) (lawful : law d.store call)
      (told : answer.isOk = (d.issue around ⟨user, id, source⟩ call).1.isOk) :
      Course user source law around d (answer, (d.issue around ⟨user, id, source⟩ call).2)

namespace Operation

variable {ε ε' α β : Type}

/-- At this desk the operation changes nothing and asks the registry for nothing. -/
def Idle (around : Surroundings) (d : Desk) (op : Operation ε α) : Prop :=
  (op.perform around d).2 = d

/-- The operation is idle at every desk. -/
def Still (op : Operation ε α) : Prop :=
  ∀ around d, Idle around d op

theorem still_pure (a : α) : Still (pure a : Operation ε α) := fun _ _ => rfl

theorem still_throw (e : ε) : Still (throw e : Operation ε α) := fun _ _ => rfl

theorem still_ofExcept (x : Except ε α) : Still (ofExcept x) := by
  intro around d
  rw [Idle, perform_ofExcept]

theorem still_ask (question : Store → α) : Still (ask question : Operation ε α) := fun _ _ => rfl

section Idle

variable {around : Surroundings} {d d' : Desk} {op : Operation ε α} {f : α → Operation ε β}

/-- Where an operation that is idle ends, the next one begins. -/
theorem Idle.perform_bind (idle : Idle around d op) (f : α → Operation ε β) :
    (∃ e, op.perform around d = (.error e, d) ∧ (op >>= f).perform around d = (.error e, d)) ∨
      ∃ a, op.perform around d = (.ok a, d) ∧
        (op >>= f).perform around d = (f a).perform around d := by
  rw [Idle] at idle
  rw [Operation.perform_bind]
  generalize op.perform around d = result at idle ⊢
  obtain ⟨answer, after⟩ := result
  dsimp only at idle
  subst idle
  cases answer with
  | error e => exact .inl ⟨e, rfl, rfl⟩
  | ok a => exact .inr ⟨a, rfl, rfl⟩

theorem perform_bind_eq_ok {b : β}
    (performed : (op >>= f).perform around d = (.ok b, d')) :
    ∃ a m, op.perform around d = (.ok a, m) ∧ (f a).perform around m = (.ok b, d') := by
  rw [Operation.perform_bind] at performed
  generalize op.perform around d = result at performed ⊢
  obtain ⟨answer, m⟩ := result
  cases answer with
  | error e => cases performed
  | ok a => exact ⟨a, m, rfl, performed⟩

/-- A success that begins with an operation that is idle. -/
theorem Idle.bind_eq_ok (idle : Idle around d op) {b : β}
    (performed : (op >>= f).perform around d = (.ok b, d')) :
    ∃ a, op.perform around d = (.ok a, d) ∧ (f a).perform around d = (.ok b, d') := by
  obtain ⟨a, m, first, rest⟩ := perform_bind_eq_ok performed
  rw [Idle, first] at idle
  obtain rfl : m = d := idle
  exact ⟨a, first, rest⟩

theorem Idle.bind (idle : Idle around d op)
    (rest : ∀ a, op.perform around d = (.ok a, d) → Idle around d (f a)) :
    Idle around d (op >>= f) := by
  rw [Idle]
  rcases idle.perform_bind f with ⟨e, _, ended⟩ | ⟨a, found, went⟩
  · rw [ended]
  · rw [went]
    exact rest a found

/-- A success is told in the same way whatever is said of failures. -/
theorem perform_mapError_eq_ok_iff {f : ε → ε'} {a : α} :
    (op.mapError f).perform around d = (.ok a, d') ↔ op.perform around d = (.ok a, d') := by
  rw [perform_mapError]
  generalize op.perform around d = result
  obtain ⟨answer, after⟩ := result
  cases answer <;> simp [Except.mapError]

theorem Idle.mapError (idle : Idle around d op) (f : ε → ε') : Idle around d (op.mapError f) :=
  idle

theorem Still.mapError (still : Still op) (f : ε → ε') : Still (op.mapError f) :=
  still

theorem Still.bind (first : Still op) (second : ∀ a, Still (f a)) : Still (op >>= f) :=
  fun around d => (first around d).bind fun a _ => second a around d

end Idle

/-- Two operations end at the same desk, and both of them with success or none. -/
structure Alike (around : Surroundings) (d : Desk) (op : Operation ε α) (other : Operation ε' β) :
    Prop where
  desk : (other.perform around d).2 = (op.perform around d).2
  success : (other.perform around d).1.isOk = (op.perform around d).1.isOk

theorem alike_mapError (around : Surroundings) (d : Desk) (op : Operation ε α) (f : ε → ε') :
    Alike around d op (op.mapError f) := by
  refine ⟨rfl, ?_⟩
  rw [perform_mapError]
  cases (op.perform around d).1 <;> rfl

theorem alike_bind_pure (around : Surroundings) (d : Desk) (op : Operation ε α)
    {f : α → Operation ε β} (answers : ∀ a, ∃ b, f a = pure b) :
    Alike around d op (op >>= f) := by
  constructor <;> rw [Operation.perform_bind]
  all_goals
    generalize op.perform around d = result
    obtain ⟨answer, after⟩ := result
    cases answer with
    | error e => rfl
    | ok a =>
      obtain ⟨b, same⟩ := answers a
      dsimp only
      rw [same]
      rfl

end Operation

namespace Course

open Operation

variable {user source : String} {law : Store → Store.Call → Prop} {around : Surroundings}
  {d : Desk} {ε ε' α β : Type}

theorem of_still {op : Operation ε α} (still : Still op) :
    Course user source law around d (op.perform around d) := by
  have same := still around d
  rw [Idle] at same
  generalize op.perform around d = result at same ⊢
  obtain ⟨answer, after⟩ := result
  dsimp only at same
  subst same
  exact .still answer

/-- What comes first and is still takes no part in the course. -/
theorem after_still {op : Operation ε α} {f : α → Operation ε β} (still : Still op)
    (rest : ∀ a, op.perform around d = (.ok a, d) →
      Course user source law around d ((f a).perform around d)) :
    Course user source law around d ((op >>= f).perform around d) := by
  rcases (still around d).perform_bind f with ⟨e, _, ended⟩ | ⟨a, found, went⟩
  · rw [ended]
    exact .still (.error e)
  · rw [went]
    exact rest a found

/-- The course is told by where it leads and by whether it succeeds. -/
theorem of_isOk {answer : Except ε α} {after : Desk} {other : Except ε' β}
    (course : Course user source law around d (answer, after)) (same : other.isOk = answer.isOk) :
    Course user source law around d (other, after) := by
  cases course with
  | still answer => exact .still other
  | denied refused =>
    cases other with
    | ok b => cases same
    | error e => exact .denied refused
  | called granted lawful told => exact .called granted lawful (same.trans told)

theorem of_alike {op : Operation ε α} {other : Operation ε' β}
    (course : Course user source law around d (op.perform around d))
    (alike : Alike around d op other) :
    Course user source law around d (other.perform around d) := by
  obtain ⟨desk, success⟩ := alike
  generalize other.perform around d = result at desk success ⊢
  obtain ⟨answer, after⟩ := result
  dsimp only at desk success
  subst desk
  exact course.of_isOk success

theorem mapError {op : Operation ε α}
    (course : Course user source law around d (op.perform around d)) (f : ε → ε') :
    Course user source law around d ((op.mapError f).perform around d) :=
  course.of_alike (alike_mapError around d op f)

theorem bind_pure {op : Operation ε α} {f : α → Operation ε β}
    (course : Course user source law around d (op.perform around d))
    (answers : ∀ a, ∃ b, f a = pure b) :
    Course user source law around d ((op >>= f).perform around d) :=
  course.of_alike (alike_bind_pure around d op answers)

theorem mono {law' : Store → Store.Call → Prop} {result : Except ε α × Desk}
    (course : Course user source law around d result)
    (weaker : ∀ call, law d.store call → law' d.store call) :
    Course user source law' around d result := by
  cases course with
  | still answer => exact .still answer
  | denied refused => exact .denied refused
  | called granted lawful told => exact .called granted (weaker _ lawful) told

/-- Asking the registry and then making a call is such a course. -/
theorem resolve_change {call : Store.Call}
    {act : ExternalSource → Stamp → Store → Except Failure (α × Store)} {f : α → Store.Answer}
    (same : ∀ x stamp s, s.perform stamp ⟨user, x⟩ call =
      (act x stamp s).map fun r => (f r.1, r.2))
    (lawful : law d.store call) :
    Course user source law around d
      ((resolve user source >>= fun x => change ⟨user, x⟩ call (act x)).perform around d) := by
  cases resolved : around.registry.resolve user source with
  | error cause =>
    rw [perform_resolve_error resolved]
    exact .denied resolved
  | ok id =>
    obtain ⟨answered, went⟩ := perform_resolve_change resolved (same ⟨id, source⟩) d
    generalize (resolve user source >>= fun x => change ⟨user, x⟩ call (act x)).perform around d =
      result at answered went
    obtain ⟨answer, after⟩ := result
    dsimp only at answered went
    subst went
    refine .called resolved lawful ?_
    rw [← answered]
    cases answer <;> rfl

theorem resolve_createEntity {typeName : String} {properties : Properties}
    {owner : Option Ownership} (lawful : law d.store (.createEntity typeName properties owner)) :
    Course user source law around d ((resolve user source >>= fun x =>
      createEntity ⟨user, x⟩ typeName properties owner).perform around d) :=
  resolve_change (fun _ _ _ => rfl) lawful

theorem resolve_updateEntity {id : EntityId} {typeName : String} {properties : Properties}
    (lawful : law d.store (.updateEntity id typeName properties)) :
    Course user source law around d ((resolve user source >>= fun x =>
      updateEntity ⟨user, x⟩ id typeName properties).perform around d) :=
  resolve_change (f := fun _ => .done) (fun x stamp s =>
    s.perform_updateEntity stamp ⟨user, x⟩ id typeName properties) lawful

theorem resolve_deleteEntity {id : EntityId} (lawful : law d.store (.deleteEntity id)) :
    Course user source law around d ((resolve user source >>= fun x =>
      deleteEntity ⟨user, x⟩ id).perform around d) :=
  resolve_change (f := fun _ => .done) (fun x stamp s =>
    s.perform_deleteEntity stamp ⟨user, x⟩ id) lawful

theorem resolve_createRelationship {start finish : EntityId} {typeName : String}
    (lawful : law d.store (.createRelationship start finish typeName)) :
    Course user source law around d ((resolve user source >>= fun x =>
      createRelationship ⟨user, x⟩ start finish typeName).perform around d) :=
  resolve_change (fun _ _ _ => rfl) lawful

theorem continues {result : Except ε α × Desk} (course : Course user source law around d result) :
    d.Continues around result.2 := by
  cases course with
  | still answer => exact d.continues_self around
  | denied refused => exact ⟨[.resolved user source false], rfl⟩
  | called granted lawful told => exact d.continues_issue around _ _

end Course

/-- One act of a user on behalf of a source: a call within the law, with identifiers that are not in
use, that succeeds. -/
inductive Store.Act (user source : String) (law : Store → Store.Call → Prop) (s s' : Store) :
    Prop where
  | intro {stamp : Stamp} {id : SourceId} {call : Store.Call} {answer : Store.Answer}
      (lawful : law s call) (fresh : stamp.Fresh s call)
      (change : Store.Change s stamp ⟨user, id, source⟩ call answer s') : Act user source law s s'

theorem Store.Act.mono {user source : String} {law law' : Store → Store.Call → Prop}
    {s s' : Store} (act : s.Act user source law s') (weaker : ∀ call, law s call → law' s call) :
    s.Act user source law' s' := by
  obtain ⟨lawful, fresh, change⟩ := act
  exact ⟨weaker _ lawful, fresh, change⟩

namespace Course

variable {user source : String} {law law' : Store → Store.Call → Prop} {around : Surroundings}
  {d middle after : Desk} {ε ε' α β : Type}

/-- A course changes the store by one act, or it does not, and then it asks the registry for nothing
if it succeeds. -/
theorem effect {answer : Except ε α} (course : Course user source law around d (answer, after))
    (fresh : d.FreshTo around after) :
    (after.store = d.store ∧ (answer.isOk = true → after = d)) ∨
      d.store.Act user source law after.store := by
  cases course with
  | still answer => exact .inl ⟨rfl, fun _ => rfl⟩
  | denied refused => exact .inl ⟨rfl, fun ok => nomatch ok⟩
  | @called id call answer granted lawful told =>
    have new := Desk.fresh_of_issue fresh
    generalize issued : d.issue around ⟨user, id, source⟩ call = result at told ⊢
    obtain ⟨answered, after⟩ := result
    cases answered with
    | error e =>
      refine .inl ⟨Desk.store_of_issue issued, fun ok => ?_⟩
      rw [told] at ok
      cases ok
    | ok answered => exact .inr ⟨lawful, new, Desk.change_of_issue issued⟩

/-- A course that fails leaves the store as it was. -/
theorem store_of_error {e : ε}
    (course : Course user source law around d ((.error e : Except ε α), after)) :
    after.store = d.store := by
  cases course with
  | still answer => rfl
  | denied refused => rfl
  | @called id call answer granted lawful told =>
    generalize issued : d.issue around ⟨user, id, source⟩ call = result at told ⊢
    obtain ⟨answered, after⟩ := result
    cases answered with
    | error e => exact Desk.store_of_issue issued
    | ok answered => cases told

/-- If its call would be saved, it leaves the disk as it was, too. -/
theorem backend_of_error {e : ε}
    (course : Course user source law around d ((.error e : Except ε α), after))
    (saved : d.SavedTo around after) : after.backend = d.backend := by
  cases course with
  | still answer => rfl
  | denied refused => rfl
  | @called id call answer granted lawful told =>
    generalize issued : d.issue around ⟨user, id, source⟩ call = result at told saved ⊢
    obtain ⟨answered, after⟩ := result
    cases answered with
    | error e => exact Desk.backend_of_issue issued saved
    | ok answered => cases told

/-- A course makes at most one call. -/
theorem length_writesFrom_le_one {b : Backend} {result : Except ε α × Desk}
    (course : Course user source law around ⟨b, []⟩ result) :
    (around.writesFrom 0 result.2.trace).length ≤ 1 := by
  cases course with
  | still answer => exact Nat.zero_le 1
  | denied refused => exact Nat.zero_le 1
  | called granted lawful told => exact Nat.le_refl 1

end Course

end LineagePorts
