import LineagePorts.Proofs.Store.Run
import Mathlib.Algebra.Group.Nat.Defs

/-!
# The life of an entity

What is stored of an entity follows from the calls that succeeded: nothing before it is created, then
what its creation and the updates of it gave it, and nothing again once it is deleted. This holds of
any run in which no creation takes an identifier that an earlier one took. Nothing is asked of the
identifiers of relationships.
-/

namespace LineagePorts

namespace Store

/-- A call that succeeded, with its answer. -/
structure Deed where
  issued : Issued
  answer : Answer
deriving DecidableEq

/-- The calls of a run that succeed, in order. -/
def deeds : Store → List Issued → List Deed
  | _, [] => []
  | s, c :: cs =>
    match s.perform c.stamp c.caller c.call with
    | .ok (answer, s') => ⟨c, answer⟩ :: s'.deeds cs
    | .error _ => s.deeds cs

theorem deeds_append (s : Store) (cs ds : List Issued) :
    s.deeds (cs ++ ds) = s.deeds cs ++ (s.run cs).deeds ds := by
  induction cs generalizing s with
  | nil => rfl
  | cons c cs ih =>
    rw [List.cons_append, deeds, deeds, run_cons, after, afterCall]
    cases s.perform c.stamp c.caller c.call with
    | error e => exact ih s
    | ok result => simp [ih]

/-- What holds at first and is kept by every deed holds of the deeds of a run and the store after
it. -/
theorem deeds_induction {P : List Deed → Store → Prop}
    (step : ∀ {ds : List Deed} {c : Issued} {answer : Answer} {s s' : Store},
      P ds s → Change s c.stamp c.caller c.call answer s' → P (ds ++ [⟨c, answer⟩]) s')
    {s : Store} (start : P [] s) (calls : List Issued) : P (s.deeds calls) (s.run calls) := by
  -- The deeds already done are kept in front, so that the store may vary.
  have general : ∀ done, P done s → P (done ++ s.deeds calls) (s.run calls) := by
    clear start
    induction calls generalizing s with
    | nil =>
      intro done holds
      rw [deeds, List.append_nil]
      exact holds
    | cons c cs ih =>
      intro done holds
      rw [deeds, run_cons, after, afterCall]
      cases made : s.perform c.stamp c.caller c.call with
      | error e => exact ih done holds
      | ok result =>
        have kept := ih _ (step holds (perform_eq_ok_iff.mp made))
        rwa [List.append_assoc] at kept
  exact general [] start

/-- What an update gives an entity. -/
structure Edition where
  properties : Properties
  user : String
  time : Instant
  source : String
deriving DecidableEq

namespace Deed

/-- The identifier that a creation takes for its entity. -/
def taken? (d : Deed) : Option EntityId :=
  match d.issued.call with
  | .createEntity _ _ _ => some d.issued.stamp.entity
  | _ => none

/-- What an update of this entity gives it. -/
def edition? (g : EntityId) (d : Deed) : Option Edition :=
  match d.issued.call with
  | .updateEntity id _ properties =>
    if id = g then
      some ⟨properties, d.issued.caller.user, d.issued.stamp.now,
        d.issued.caller.source.qualifiedName⟩
    else none
  | _ => none

def Deletes (d : Deed) (g : EntityId) : Prop := d.issued.call = .deleteEntity g

end Deed

end Store

def Entity.edited (e : Entity) (u : Store.Edition) : Entity :=
  { e with
    properties := u.properties
    updatedBy := some u.user
    updateTime := some u.time
    version := e.version + 1
    externalSource := some u.source }

/-- The entity is what its creation and then these updates made it. -/
structure Entity.Tells (e : Entity) (creation : Issued) (typeName : String)
    (properties : Properties) (updates : List Store.Edition) : Prop where
  id : e.id = creation.stamp.entity
  typeName : e.typeName = typeName
  createdBy : e.createdBy = creation.caller.user
  createTime : e.createTime = creation.stamp.now
  version : e.version.toNat = 1 + updates.length
  original : updates = [] → e.properties = properties ∧ e.updatedBy = none ∧ e.updateTime = none ∧
    e.externalSource = some creation.caller.source.qualifiedName
  latest : ∀ u ∈ updates.getLast?, e.properties = u.properties ∧ e.updatedBy = some u.user ∧
    e.updateTime = some u.time ∧ e.externalSource = some u.source

theorem Entity.tells_new (creation : Issued) (typeName : String) (properties : Properties) :
    (Store.newEntity creation.stamp creation.caller typeName properties).Tells creation typeName
      properties [] := by
  constructor <;> simp [Store.newEntity]

theorem Entity.Tells.edited {e : Entity} {creation : Issued} {typeName : String}
    {properties : Properties} {updates : List Store.Edition}
    (tells : e.Tells creation typeName properties updates) (u : Store.Edition)
    (few : updates.length + 1 < 2 ^ 64 - 1) :
    (e.edited u).Tells creation typeName properties (updates ++ [u]) where
  id := tells.id
  typeName := tells.typeName
  createdBy := tells.createdBy
  createTime := tells.createTime
  version := by
    have one : (1 : UInt64).toNat = 1 := rfl
    rw [Entity.edited, UInt64.toNat_add, tells.version, one, List.length_append,
      List.length_singleton]
    omega
  original none := by simp at none
  latest v last := by
    obtain rfl : u = v := by simpa using last
    exact ⟨rfl, rfl, rfl, rfl⟩

theorem Entity.tells_foldl_edited {e : Entity} {creation : Issued} {typeName : String}
    {properties : Properties} {before : List Store.Edition}
    (tells : e.Tells creation typeName properties before) (updates : List Store.Edition)
    (few : before.length + updates.length < 2 ^ 64 - 1) :
    (updates.foldl Entity.edited e).Tells creation typeName properties (before ++ updates) := by
  induction updates generalizing e before with
  | nil => rwa [List.append_nil]
  | cons u us ih =>
    rw [List.length_cons] at few
    have next := tells.edited u (by omega)
    have rest := ih next (by rw [List.length_append, List.length_singleton]; omega)
    rwa [List.append_assoc] at rest

namespace Store

/-- What a deed makes of the record of an entity. -/
def Deed.leaves (g : EntityId) (record : Option Entity) (d : Deed) : Option Entity :=
  match d.issued.call with
  | .createEntity typeName properties _ =>
    if d.issued.stamp.entity = g then
      some (newEntity d.issued.stamp d.issued.caller typeName properties)
    else record
  | .updateEntity _ _ _ => (d.edition? g).elim record fun u => record.map (·.edited u)
  | .deleteEntity id => if id = g then none else record
  | .createRelationship _ _ _ => record

/-- A change does to each record what its deed tells. -/
theorem Change.leaves {s s' : Store} {c : Issued} {answer : Answer}
    (change : Change s c.stamp c.caller c.call answer s') (g : EntityId) :
    s'.entities.get? g = Deed.leaves g (s.entities.get? g) ⟨c, answer⟩ := by
  obtain ⟨stamp, who, call⟩ := c
  cases change with
  | create free => exact get?_putEntity s _ g
  | createOwned free known owner owned => exact get?_putEntity s _ g
  | @update id properties e stored free =>
    rw [get?_replace, Deed.leaves, Deed.edition?]
    by_cases same : id = g
    · subst same
      simp [stored, updatedEntity, Entity.edited]
    · simp [same]
  | @delete id e stored =>
    rw [without, Table.get?_erase, Deed.leaves]
    by_cases same : id = g
    · simp [same]
    · simp [same, Ne.symm same]
  | link known starts finishes absent => rfl
  | keep known starts finishes present => rfl

/-- What a run leaves of an entity follows from what there was of it before and from its deeds. -/
theorem get?_run (s : Store) (calls : List Issued) (g : EntityId) :
    (s.run calls).entities.get? g = (s.deeds calls).foldl (Deed.leaves g) (s.entities.get? g) := by
  refine deeds_induction
    (P := fun ds s' => s'.entities.get? g = ds.foldl (Deed.leaves g) (s.entities.get? g)) ?step rfl
    calls
  intro ds c answer t t' holds change
  rw [change.leaves g, holds, List.foldl_append]
  rfl

theorem get?_run_empty (calls : List Issued) (g : EntityId) :
    (empty.run calls).entities.get? g = (empty.deeds calls).foldl (Deed.leaves g) none :=
  get?_run empty calls g

/-- Exactly a creation answers with an entity, and then with the identifier that it took. -/
theorem answer_of_mem_deeds {calls : List Issued} {d : Deed} (mem : d ∈ empty.deeds calls)
    (g : EntityId) : d.answer = .entity g ↔ d.taken? = some g := by
  revert d
  refine deeds_induction
    (P := fun ds _ => ∀ {d}, d ∈ ds → (d.answer = .entity g ↔ d.taken? = some g)) ?step ?start calls
  case start =>
    intro d mem
    cases mem
  case step =>
    intro ds c answer s s' holds change d mem
    rcases List.mem_append.mp mem with old | new
    · exact holds old
    · obtain rfl := List.mem_singleton.mp new
      obtain ⟨stamp, who, call⟩ := c
      cases change <;> simp [Deed.taken?]

section Life

variable {g : EntityId} {ds : List Deed} (others : ∀ d ∈ ds, d.taken? ≠ some g)

include others

/-- Without a creation nothing comes into being. -/
theorem foldl_leaves_none : ds.foldl (Deed.leaves g) none = none := by
  induction ds with
  | nil => rfl
  | cons d ds ih =>
    obtain ⟨first, rest⟩ := List.forall_mem_cons.mp others
    have nothing : Deed.leaves g none d = none := by
      obtain ⟨⟨stamp, who, call⟩, answer⟩ := d
      cases call with
      | createEntity typeName properties owner =>
        have other : stamp.entity ≠ g := by simpa [Deed.taken?] using first
        simp [Deed.leaves, other]
      | updateEntity id typeName properties =>
        cases edited : Deed.edition? g ⟨⟨stamp, who, .updateEntity id typeName properties⟩, answer⟩ <;>
          simp [Deed.leaves, edited]
      | deleteEntity id => simp [Deed.leaves]
      | createRelationship start finish typeName => rfl
    rw [List.foldl_cons, nothing]
    exact ih rest

/-- Without a creation and a deletion only updates count. -/
theorem foldl_leaves_some (kept : ∀ d ∈ ds, ¬ d.Deletes g) (e : Entity) :
    ds.foldl (Deed.leaves g) (some e) =
      some ((ds.filterMap (Deed.edition? g)).foldl Entity.edited e) := by
  induction ds generalizing e with
  | nil => rfl
  | cons d ds ih =>
    obtain ⟨first, rest⟩ := List.forall_mem_cons.mp others
    obtain ⟨stays, stay⟩ := List.forall_mem_cons.mp kept
    have edited : Deed.leaves g (some e) d =
        some ((d.edition? g).elim e fun u => e.edited u) := by
      obtain ⟨⟨stamp, who, call⟩, answer⟩ := d
      cases call with
      | createEntity typeName properties owner =>
        have other : stamp.entity ≠ g := by simpa [Deed.taken?] using first
        simp [Deed.leaves, Deed.edition?, other]
      | updateEntity id typeName properties =>
        cases edited : Deed.edition? g ⟨⟨stamp, who, .updateEntity id typeName properties⟩, answer⟩ <;>
          simp [Deed.leaves, edited]
      | deleteEntity id =>
        have other : id ≠ g := by simpa [Deed.Deletes] using stays
        simp [Deed.leaves, Deed.edition?, other]
      | createRelationship start finish typeName => rfl
    rw [List.foldl_cons, edited, ih rest stay, List.filterMap_cons]
    cases d.edition? g <;> rfl

/-- A deletion is for good. -/
theorem foldl_leaves_deleted {d : Deed} (mem : d ∈ ds) (deletes : d.Deletes g)
    (record : Option Entity) : ds.foldl (Deed.leaves g) record = none := by
  obtain ⟨before, after, rfl⟩ := List.append_of_mem mem
  have gone : Deed.leaves g (before.foldl (Deed.leaves g) record) d = none := by
    simp [Deed.leaves, show d.issued.call = .deleteEntity g from deletes]
  rw [List.foldl_append, List.foldl_cons, gone]
  exact foldl_leaves_none fun d mem =>
    others d (List.mem_append_right _ (List.mem_cons_of_mem _ mem))

end Life

/-- What is to be known of an entity at some moment of a run, by the deeds so far. -/
structure Follows (s : Store) (ds : List Deed) (g : EntityId) : Prop where
  /-- Nothing is stored before a creation. -/
  absent : (∀ d ∈ ds, d.answer ≠ .entity g) → s.entities.get? g = none
  created : ∀ {before creation after typeName properties owner}, ds = before ++ creation :: after →
    creation.issued.call = .createEntity typeName properties owner → creation.answer = .entity g →
    -- Another creation, of the same type and name or not, answers with another identifier.
    (∀ d ∈ before ++ after, d.answer ≠ .entity g) ∧
    ((∃ d ∈ after, d.Deletes g) → s.entities.get? g = none) ∧
    ((∀ d ∈ after, ¬ d.Deletes g) → ∃ e, s.entities.get? g = some e ∧
      e.Tells creation.issued typeName properties (after.filterMap (Deed.edition? g)))

theorem follows_of_run {calls : List Issued} {g : EntityId}
    (distinct : ((empty.deeds calls).filterMap Deed.taken?).Nodup)
    (few : ((empty.deeds calls).filterMap (Deed.edition? g)).length < 2 ^ 64 - 1) :
    (empty.run calls).Follows (empty.deeds calls) g where
  absent others := by
    rw [get?_run_empty]
    refine foldl_leaves_none fun d mem => ?_
    exact (not_congr (answer_of_mem_deeds mem g)).mp (others d mem)
  created := by
    intro before creation after typeName properties owner split call answered
    have mem : creation ∈ empty.deeds calls := by
      rw [split]
      exact List.mem_append_right _ List.mem_cons_self
    have took : creation.taken? = some g := (answer_of_mem_deeds mem g).mp answered
    have others : (∀ d ∈ before, d.taken? ≠ some g) ∧ ∀ d ∈ after, d.taken? ≠ some g := by
      rw [split, List.filterMap_append, List.filterMap_cons, took, List.nodup_append] at distinct
      obtain ⟨_, later, apart⟩ := distinct
      constructor
      · intro d mem took'
        exact apart _ (List.mem_filterMap.mpr ⟨d, mem, took'⟩) _ List.mem_cons_self rfl
      · intro d mem took'
        exact (List.nodup_cons.mp later).1 (List.mem_filterMap.mpr ⟨d, mem, took'⟩)
    have made : Deed.leaves g none creation =
        some (newEntity creation.issued.stamp creation.issued.caller typeName properties) := by
      have own : creation.issued.stamp.entity = g := by simpa [Deed.taken?, call] using took
      simp [Deed.leaves, call, own]
    have lived : (empty.run calls).entities.get? g = after.foldl (Deed.leaves g)
        (some (newEntity creation.issued.stamp creation.issued.caller typeName properties)) := by
      rw [get?_run_empty, split, List.foldl_append, foldl_leaves_none others.1, List.foldl_cons,
        made]
    refine ⟨?again, ?deleted, ?present⟩
    case again =>
      intro d mem
      have inRun : d ∈ empty.deeds calls := by
        rw [split]
        exact (List.sublist_cons_self creation after).append_left before |>.subset mem
      rw [Ne, answer_of_mem_deeds inRun]
      rcases List.mem_append.mp mem with earlier | later
      · exact others.1 d earlier
      · exact others.2 d later
    case deleted =>
      rintro ⟨d, mem, deletes⟩
      rw [lived, foldl_leaves_deleted others.2 mem deletes]
    case present =>
      intro kept
      refine ⟨_, lived.trans (foldl_leaves_some others.2 kept _), ?_⟩
      have fewer : (after.filterMap (Deed.edition? g)).length < 2 ^ 64 - 1 := by
        have part : after.Sublist (empty.deeds calls) := by
          rw [split]
          exact (List.sublist_cons_self creation after).trans (List.sublist_append_right _ _)
        exact Nat.lt_of_le_of_lt (part.filterMap _).length_le few
      exact Entity.tells_foldl_edited (Entity.tells_new creation.issued typeName properties) _
        (by rwa [List.length_nil, Nat.zero_add])

end Store

end LineagePorts
