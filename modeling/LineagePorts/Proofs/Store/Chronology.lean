import LineagePorts.Proofs.Data.Table
import LineagePorts.Proofs.Identifier.Order
import LineagePorts.Proofs.Store.History
import Mathlib.Data.List.Sort

/-!
# Records in the order of their creation

A store lists its records by their identifiers. When each record of a run is created in a later
millisecond than the ones of its kind before it, this is the order of their creation. Whatever is
stored was created by some call of the run, so that the list is what is left of the created records,
and neither an update nor a deletion can change the order. Identifiers that were read off the clock
out of its 48 bits may come in any order.
-/

namespace LineagePorts

theorem Table.keys_eq_filter {κ α : Type} [LT κ] [DecidableEq κ] [DecidableLT κ] [KeyOrder κ]
    {t : Table κ α} {ks : List κ} (ascending : ks.Pairwise (· < ·))
    (listed : ∀ k a, t.get? k = some a → k ∈ ks) : t.keys = ks.filter t.contains := by
  have : Std.Irrefl (α := κ) (· < ·) := ⟨KeyOrder.irrefl⟩
  have : Std.Antisymm (α := κ) (· < ·) :=
    ⟨fun a _ less more => absurd (KeyOrder.trans less more) (KeyOrder.irrefl a)⟩
  refine List.Pairwise.eq_of_mem_iff (List.pairwise_map.mpr t.ascending) (ascending.filter _) ?_
  intro k
  rw [keys, List.mem_map, List.mem_filter, contains, Option.isSome_iff_exists]
  constructor
  · rintro ⟨⟨k, a⟩, mem, rfl⟩
    have stored := get?_eq_some_iff.mpr mem
    exact ⟨listed k a stored, a, stored⟩
  · rintro ⟨-, a, stored⟩
    exact ⟨(k, a), get?_eq_some_iff.mp stored, rfl⟩

namespace Id

variable {kind : IdKind}

/-- The identifiers were generated one after another from these readings of the clock and random
parts, each in a later millisecond than the ones before. -/
structure Successive (ids : List (Id kind)) (readings : List (Instant × Nat)) : Prop where
  generated : ids = readings.map fun r => ofClock r.1 r.2
  later : readings.Pairwise fun r s => r.1.milliseconds < s.1.milliseconds
  inRange : ∀ r ∈ readings, r.1.InRange

theorem Successive.ascending {ids : List (Id kind)} {readings : List (Instant × Nat)}
    (successive : Successive ids readings) : ids.Pairwise (· < ·) := by
  rw [successive.generated, List.pairwise_map]
  refine successive.later.imp_of_mem fun mem mem' later => ?_
  exact ofClock_lt_ofClock (successive.inRange _ mem) (successive.inRange _ mem') later _ _

end Id

namespace Store

/-- The identifier that a deed gives to a new relationship. -/
def Deed.linked? (d : Deed) : Option RelationshipId :=
  match d.issued.call with
  | .createEntity _ _ owner => owner.map fun _ => d.issued.stamp.relationship
  | .createRelationship _ _ _ =>
    if d.answer = .relationship d.issued.stamp.relationship then
      some d.issued.stamp.relationship
    else none
  | _ => none

/-- The entities that a run creates, in the order of their creation. -/
def createdEntities (calls : List Issued) : List EntityId :=
  (empty.deeds calls).filterMap Deed.taken?

/-- The relationships that a run creates, in the order of their creation. -/
def createdRelationships (calls : List Issued) : List RelationshipId :=
  (empty.deeds calls).filterMap Deed.linked?

theorem mem_createdEntities {calls : List Issued} {id : EntityId} {e : Entity}
    (stored : (empty.run calls).entities.get? id = some e) : id ∈ createdEntities calls := by
  rw [createdEntities, List.mem_filterMap]
  by_contra absent
  have others : ∀ d ∈ empty.deeds calls, d.taken? ≠ some id :=
    fun d mem took => absent ⟨d, mem, took⟩
  rw [get?_run_empty, foldl_leaves_none others] at stored
  cases stored

theorem mem_createdRelationships {calls : List Issued} {id : RelationshipId} {r : Relationship}
    (stored : (empty.run calls).relationships.get? id = some r) :
    id ∈ createdRelationships calls := by
  rw [createdRelationships]
  revert id r
  refine deeds_induction (P := fun ds s => ∀ {id r}, s.relationships.get? id = some r →
    id ∈ ds.filterMap Deed.linked?) ?step ?start calls
  case start =>
    intro id r stored
    cases stored
  case step =>
    intro ds c answer s s' holds change id r stored
    obtain ⟨stamp, who, call⟩ := c
    rw [List.filterMap_append, List.mem_append]
    -- Only an owned creation and a new link add a relationship.
    cases change with
    | create free => exact .inl (holds stored)
    | createOwned free known owner owned =>
      rcases get?_addRelationship_cases stored with ⟨rfl, rfl⟩ | old
      · exact .inr (by simp [Deed.linked?, newRelationship])
      · exact .inl (holds old)
    | update present free => exact .inl (holds stored)
    | delete present => exact .inl (holds (relationships_without_iff.mp stored).1)
    | link known starts finishes absent =>
      rcases get?_addRelationship_cases stored with ⟨rfl, rfl⟩ | old
      · exact .inr (by simp [Deed.linked?, newRelationship])
      · exact .inl (holds old)
    | keep known starts finishes present => exact .inl (holds stored)

/-- Identifiers are in the order of their texts and of the clock, and so the records of a run are
listed in the order of their creation. -/
theorem identifiers_in_order (calls : List Issued) {readings readings' : List (Instant × Nat)} :
    (∀ {kind} (a b : Id kind), (a < b ↔ Text.bytes a.text < Text.bytes b.text) ∧
      (a < b ↔ Text.bytes a.ulid.text < Text.bytes b.ulid.text)) ∧
    (∀ {kind} {t u : Instant} (r s : Nat), t.InRange → u.InRange → t.milliseconds < u.milliseconds →
      (Id.ofClock t r : Id kind) < Id.ofClock u s ∧
        ((Id.ofClock t r : Id kind).ulid.milliseconds : Int) = t.milliseconds ∧
        ((Id.ofClock u s : Id kind).ulid.milliseconds : Int) = u.milliseconds) ∧
    (Id.Successive (createdEntities calls) readings →
      (empty.run calls).snapshot.entities.map Entity.id =
        (createdEntities calls).filter (empty.run calls).entities.contains) ∧
    (Id.Successive (createdRelationships calls) readings' →
      (empty.run calls).snapshot.relationships.map Relationship.id =
        (createdRelationships calls).filter (empty.run calls).relationships.contains) := by
  refine ⟨?texts, ?clock, ?entities, ?relationships⟩
  case texts => exact fun a b => ⟨Id.lt_iff_bytes, Ulid.value_lt_iff_bytes⟩
  case clock =>
    intro kind t u r s inRange inRange' later
    exact ⟨Id.ofClock_lt_ofClock inRange inRange' later r s, Id.milliseconds_ofClock inRange r,
      Id.milliseconds_ofClock inRange' s⟩
  case entities =>
    intro successive
    rw [snapshot, Table.map_values_eq_keys (keyed_empty.run calls).entities]
    exact Table.keys_eq_filter successive.ascending fun _ _ => mem_createdEntities
  case relationships =>
    intro successive
    rw [snapshot, Table.map_values_eq_keys (keyed_empty.run calls).relationships]
    exact Table.keys_eq_filter successive.ascending fun _ _ => mem_createdRelationships

theorem isTimeOfDay_second (n : Fin 60) : Calendar.isTimeOfDay n 0 = true := by
  have small : (n : Nat) < 86400 := n.isLt.trans (by decide)
  simp [Calendar.isTimeOfDay, small]

/-- The first seconds of 1970. -/
def sampleMoment (n : Fin 60) : Instant :=
  ⟨Instant.epoch.date, n, 0, isTimeOfDay_second n⟩

/-- Two processes with an alias of the first between them, whose random parts descend. The alias
gets a new name, and the second process is deleted. -/
def sampleChronicle : List Issued :=
  let who : Caller := ⟨"steward", ⟨⟨.zero⟩, "engine"⟩⟩
  let named (name : String) : Properties := .ofList [(PropertyName.qualifiedName, .text name)]
  let owner : Ownership := ⟨.ofClock (sampleMoment 1) 9, TypeName.processPort⟩
  [⟨.ofClock (sampleMoment 1) 9, who, .createEntity TypeName.process (named "p") none⟩,
   ⟨.ofClock (sampleMoment 2) 5, who, .createEntity TypeName.portAlias (named "a") (some owner)⟩,
   ⟨.ofClock (sampleMoment 3) 1, who, .createEntity TypeName.process (named "q") none⟩,
   ⟨.ofClock (sampleMoment 4) 0, who,
    .updateEntity (.ofClock (sampleMoment 2) 5) TypeName.portAlias (named "b")⟩,
   ⟨.ofClock (sampleMoment 5) 0, who, .deleteEntity (.ofClock (sampleMoment 3) 1)⟩]

theorem identifiers_in_order_sample :
    Id.Successive (createdEntities sampleChronicle)
        [(sampleMoment 1, 9), (sampleMoment 2, 5), (sampleMoment 3, 1)] ∧
      Id.Successive (createdRelationships sampleChronicle) [(sampleMoment 2, 6)] ∧
      (Id.ofClock (sampleMoment 1) 9 : EntityId) < Id.ofClock (sampleMoment 2) 5 ∧
      (empty.run sampleChronicle).snapshot.entities.map Entity.id =
        [.ofClock (sampleMoment 1) 9, .ofClock (sampleMoment 2) 5] ∧
      (empty.run sampleChronicle).snapshot.relationships.map Relationship.id =
        [.ofClock (sampleMoment 2) 6] := by
  have entities : Id.Successive (createdEntities sampleChronicle)
      [(sampleMoment 1, 9), (sampleMoment 2, 5), (sampleMoment 3, 1)] := by
    constructor <;> decide +kernel
  have relationships : Id.Successive (createdRelationships sampleChronicle)
      [(sampleMoment 2, 6)] := by
    constructor <;> decide +kernel
  obtain ⟨-, clock, listed, linked⟩ := identifiers_in_order sampleChronicle
  have earlier : (Id.ofClock (sampleMoment 1) 9 : EntityId) < Id.ofClock (sampleMoment 2) 5 :=
    (clock 9 5 (by decide) (by decide) (by decide)).1
  refine ⟨entities, relationships, earlier, (listed entities).trans ?_,
    (linked relationships).trans ?_⟩
  · decide +kernel
  · decide +kernel

end Store

end LineagePorts
