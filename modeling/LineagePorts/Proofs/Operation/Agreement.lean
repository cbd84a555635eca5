import LineagePorts.Proofs.Operation.PortCourses
import LineagePorts.Proofs.Store.Locality

/-!
# Operations at two desks

An operation about some names is performed at two desks whose stores agree about these names. Its
questions get the same answers, so that it makes the same call on both stores or none on either, and
in the end it answers the same at both desks, their stores still agree about the names, and each
store has changed within these names alone.
-/

namespace LineagePorts

namespace Desk

/-- The stores of two desks are sound and agree about these names, and the next call of an operation
has the same number at both. -/
structure Abreast (names : List String) (d d' : Desk) : Prop where
  same : Store.SameFor names d.store d'.store
  sound : d.store.Integrity ∧ d.store.Unique
  sound' : d'.store.Integrity ∧ d'.store.Unique
  number : d.calls = d'.calls

/-- On the way from one desk to another each call takes identifiers that are not in use, and is
saved if the rules accept it. -/
structure Undisturbed (around : Surroundings) (d after : Desk) : Prop where
  fresh : d.FreshTo around after
  saved : d.SavedTo around after

theorem Undisturbed.split {around : Surroundings} {d middle after : Desk}
    (undisturbed : d.Undisturbed around after) (first : d.Continues around middle)
    (second : middle.Continues around after) :
    d.Undisturbed around middle ∧ middle.Undisturbed around after := by
  obtain ⟨fresh, fresh'⟩ := freshTo_trans first second undisturbed.fresh
  obtain ⟨saved, saved'⟩ := savedTo_trans first second undisturbed.saved
  exact ⟨⟨fresh, saved⟩, ⟨fresh', saved'⟩⟩

/-- At two desks the same was answered, their stores still agree about the names, and the store of
the first one has changed within them alone. -/
structure EndsAlike (names : List String) (d : Desk) {ε α : Type} (r r' : Except ε α × Desk) :
    Prop where
  answer : r.1 = r'.1
  abreast : r.2.Abreast names r'.2
  confined : d.store.Confined names r.2.store

theorem Abreast.endsAlike {names : List String} {d d' : Desk} (abreast : d.Abreast names d')
    {ε α : Type} (answer : Except ε α) : EndsAlike names d (answer, d) (answer, d') :=
  ⟨rfl, abreast, .refl names d.store⟩

section Issue

variable {names : List String} {around : Surroundings} {d d' : Desk} {who : Caller}
  {call : Store.Call}

theorem calls_issue (d : Desk) (around : Surroundings) (who : Caller) (call : Store.Call) :
    (d.issue around who call).2.calls = d.calls + 1 := by
  rw [issue]
  exact d.calls_added _ _

theorem Abreast.issue (abreast : d.Abreast names d') (concerns : d.store.Concerns names call)
    (undisturbed : d.Undisturbed around (d.issue around who call).2)
    (undisturbed' : d'.Undisturbed around (d'.issue around who call).2) :
    EndsAlike names d (d.issue around who call) (d'.issue around who call) := by
  have fresh := fresh_of_issue undisturbed.fresh
  have fresh' := fresh_of_issue undisturbed'.fresh
  have number : (d.issue around who call).2.calls = (d'.issue around who call).2.calls := by
    rw [calls_issue, calls_issue, abreast.number]
  have alike := Store.alike_perform (around.stamp d.calls) who abreast.same abreast.sound
    abreast.sound' concerns fresh (by rwa [abreast.number])
  generalize first : d.store.perform (around.stamp d.calls) who call = result,
    second : d'.store.perform (around.stamp d.calls) who call = result' at alike
  rw [abreast.number] at second
  cases alike with
  | failed e =>
    obtain ⟨after, issued, kept⟩ := issue_of_refused first
    obtain ⟨after', issued', kept'⟩ := issue_of_refused second
    rw [issued, issued'] at number ⊢
    obtain ⟨same, sound, sound', _⟩ := abreast
    rw [← kept] at same sound
    rw [← kept'] at same sound'
    exact ⟨rfl, ⟨same, sound, sound', number⟩, kept ▸ .refl names after.store⟩
  | done a same =>
    have change := Store.perform_eq_ok_iff.mp first
    have change' := Store.perform_eq_ok_iff.mp second
    obtain ⟨after, issued, rfl⟩ := issue_of_change undisturbed.saved change
    obtain ⟨after', issued', rfl⟩ := issue_of_change undisturbed'.saved change'
    rw [issued, issued'] at number ⊢
    have sound := abreast.sound.1.change fresh change
    have sound' := abreast.sound'.1.change fresh' change'
    have unique := abreast.sound.2.change abreast.sound.1 fresh change
    have unique' := abreast.sound'.2.change abreast.sound'.1 fresh' change'
    exact ⟨rfl, ⟨same, ⟨sound, unique⟩, ⟨sound', unique'⟩, number⟩,
      change.confined concerns fresh sound⟩

end Issue

end Desk

namespace Operation

variable {names : List String} {around : Surroundings} {d d' : Desk} {ε ε' α β : Type}

/-- At both desks the operation changes nothing, and it answers the same. -/
def Concurs (around : Surroundings) (d d' : Desk) (op : Operation ε α) : Prop :=
  ∃ answer, op.perform around d = (answer, d) ∧ op.perform around d' = (answer, d')

/-- Performed at both desks, with nothing in its way, the operation ends alike. -/
def KeepsAbreast (names : List String) (around : Surroundings) (d d' : Desk)
    (op : Operation ε α) : Prop :=
  d.Undisturbed around (op.perform around d).2 → d'.Undisturbed around (op.perform around d').2 →
    Desk.EndsAlike names d (op.perform around d) (op.perform around d')

section Concurs

theorem concurs_pure (a : α) : Concurs around d d' (pure a : Operation ε α) := ⟨_, rfl, rfl⟩

theorem concurs_throw (e : ε) : Concurs around d d' (throw e : Operation ε α) := ⟨_, rfl, rfl⟩

theorem concurs_ofExcept (x : Except ε α) : Concurs around d d' (ofExcept x) :=
  ⟨x, perform_ofExcept x around d, perform_ofExcept x around d'⟩

theorem concurs_ask {question : Store → α} (same : question d.store = question d'.store) :
    Concurs around d d' (ask question : Operation ε α) :=
  ⟨.ok (question d.store), rfl, by rw [same]; rfl⟩

theorem Concurs.bind {op : Operation ε α} {f : α → Operation ε β} (first : Concurs around d d' op)
    (rest : ∀ a, op.perform around d = (.ok a, d) → Concurs around d d' (f a)) :
    Concurs around d d' (op >>= f) := by
  obtain ⟨answer, performed, performed'⟩ := first
  rw [Concurs, perform_bind, perform_bind, performed, performed']
  cases answer with
  | error e => exact ⟨.error e, rfl, rfl⟩
  | ok a => exact rest a performed

theorem Concurs.mapError {op : Operation ε α} (concurs : Concurs around d d' op) (f : ε → ε') :
    Concurs around d d' (op.mapError f) := by
  obtain ⟨answer, performed, performed'⟩ := concurs
  rw [Concurs, perform_mapError, perform_mapError, performed, performed']
  exact ⟨_, rfl, rfl⟩

end Concurs

/-- What comes second continues from where the first part has ended. -/
theorem continues_bind (op : Operation ε α) {f : α → Operation ε β}
    (continues : ∀ a (d : Desk), d.Continues around ((f a).perform around d).2) (d : Desk) :
    (op.perform around d).2.Continues around ((op >>= f).perform around d).2 := by
  rw [perform_bind]
  cases op.perform around d with
  | mk answer after =>
    cases answer with
    | error e => exact after.continues_self around
    | ok a => exact continues a after

namespace KeepsAbreast

theorem of_concurs {op : Operation ε α} (concurs : Concurs around d d' op)
    (abreast : d.Abreast names d') : KeepsAbreast names around d d' op := by
  obtain ⟨answer, performed, performed'⟩ := concurs
  rw [KeepsAbreast, performed, performed']
  exact fun _ _ => abreast.endsAlike answer

/-- What comes first and changes nothing takes no part in how the operation ends. -/
theorem after {op : Operation ε α} {f : α → Operation ε β} (concurs : Concurs around d d' op)
    (abreast : d.Abreast names d')
    (rest : ∀ a, op.perform around d = (.ok a, d) → KeepsAbreast names around d d' (f a)) :
    KeepsAbreast names around d d' (op >>= f) := by
  obtain ⟨answer, performed, performed'⟩ := concurs
  rw [KeepsAbreast, perform_bind, perform_bind, performed, performed']
  cases answer with
  | error e => exact fun _ _ => abreast.endsAlike (.error e)
  | ok a => exact rest a performed

theorem mapError {op : Operation ε α} (keeps : KeepsAbreast names around d d' op) (f : ε → ε') :
    KeepsAbreast names around d d' (op.mapError f) := by
  rw [KeepsAbreast, perform_mapError, perform_mapError]
  intro undisturbed undisturbed'
  obtain ⟨answer, abreast, confined⟩ := keeps undisturbed undisturbed'
  exact ⟨congrArg (Except.mapError f) answer, abreast, confined⟩

theorem bind_pure {op : Operation ε α} {f : α → Operation ε β}
    (keeps : KeepsAbreast names around d d' op) (answers : ∀ a, ∃ b, f a = pure b) :
    KeepsAbreast names around d d' (op >>= f) := by
  have ended (d : Desk) : ((op >>= f).perform around d).2 = (op.perform around d).2 :=
    (alike_bind_pure around d op answers).desk
  rw [KeepsAbreast, ended, ended]
  intro undisturbed undisturbed'
  obtain ⟨answer, abreast, confined⟩ := keeps undisturbed undisturbed'
  refine ⟨?_, by rwa [ended, ended], by rwa [ended]⟩
  rw [perform_bind, perform_bind]
  generalize op.perform around d = result, op.perform around d' = result' at answer ⊢
  obtain ⟨x, after⟩ := result
  obtain ⟨y, after'⟩ := result'
  obtain rfl : x = y := answer
  cases x with
  | error e => rfl
  | ok a =>
    obtain ⟨b, same⟩ := answers a
    dsimp only
    rw [same]
    rfl

/-- An operation in two parts, of which the first one only adds to the store. -/
theorem bind_of_grows {op : Operation ε α} {f : α → Operation ε β}
    (first : KeepsAbreast names around d d' op)
    (continues : ∀ d : Desk, d.Continues around (op.perform around d).2)
    (continues' : ∀ a (d : Desk), d.Continues around ((f a).perform around d).2)
    (rest : ∀ a m m', op.perform around d = (.ok a, m) → d.FreshTo around m →
      m.Abreast names m' →
        d.store.Grows names m.store ∧ KeepsAbreast names around m m' (f a)) :
    KeepsAbreast names around d d' (op >>= f) := by
  have went := continues d
  have went' := continues d'
  have later := continues_bind op continues' d
  have later' := continues_bind op continues' d'
  rw [KeepsAbreast] at first
  rw [KeepsAbreast]
  intro undisturbed undisturbed'
  obtain ⟨before, after⟩ := undisturbed.split went later
  obtain ⟨before', after'⟩ := undisturbed'.split went' later'
  obtain ⟨answer, abreast, confined⟩ := first before before'
  rw [perform_bind] at after after' ⊢
  rw [perform_bind]
  generalize performed : op.perform around d = result, op.perform around d' = result'
    at answer abreast confined before after after' ⊢
  obtain ⟨x, m⟩ := result
  obtain ⟨y, m'⟩ := result'
  obtain rfl : x = y := answer
  cases x with
  | error e => exact ⟨rfl, abreast, confined⟩
  | ok a =>
    obtain ⟨grows, keeps⟩ := rest a m m' performed before.fresh abreast
    obtain ⟨answer, abreast, confined⟩ := keeps after after'
    exact ⟨answer, abreast, grows.confined_trans confined abreast.sound.1⟩

/-- Asking the registry and then making a call that concerns the names. -/
theorem resolve_change {user source : String} {call : Store.Call}
    {act : ExternalSource → Stamp → Store → Except Failure (α × Store)} {f : α → Store.Answer}
    (same : ∀ x stamp s, s.perform stamp ⟨user, x⟩ call =
      (act x stamp s).map fun r => (f r.1, r.2))
    (injective : ∀ a b, f a = f b → a = b) (abreast : d.Abreast names d')
    (concerns : d.store.Concerns names call) :
    KeepsAbreast names around d d'
      (resolve user source >>= fun x => change ⟨user, x⟩ call (act x)) := by
  cases resolved : around.registry.resolve user source with
  | error cause =>
    rw [KeepsAbreast, perform_resolve_error resolved, perform_resolve_error resolved]
    have number : (d.record (.resolved user source false)).calls =
        (d'.record (.resolved user source false)).calls := by
      rw [Desk.calls_record_resolved, Desk.calls_record_resolved, abreast.number]
    exact fun _ _ =>
      ⟨rfl, ⟨abreast.same, abreast.sound, abreast.sound', number⟩, .refl names d.store⟩
  | ok id =>
    obtain ⟨told, went⟩ := perform_resolve_change resolved (same ⟨id, source⟩) d
    obtain ⟨told', went'⟩ := perform_resolve_change resolved (same ⟨id, source⟩) d'
    rw [KeepsAbreast, went, went']
    intro undisturbed undisturbed'
    obtain ⟨answer, ended, confined⟩ := abreast.issue concerns undisturbed undisturbed'
    refine ⟨?_, by rwa [went, went'], by rwa [went]⟩
    rw [← told, ← told'] at answer
    exact Except.map_inj injective answer

end KeepsAbreast

end Operation

end LineagePorts
