import LineagePorts.Data.Table
import LineagePorts.Proofs.Json.RoundTrip
import LineagePorts.Table.Lemmas
import Mathlib.Data.List.Induction

/-!
# Reading tables and numbers back

A table is the table of its entries, and is read back from its record when its contents are. So are
numbers of a fixed width. What is written of either is plain.
-/

namespace LineagePorts

namespace Table

variable {κ α : Type} [LT κ] [DecidableEq κ] [DecidableLT κ] [KeyOrder κ]

/-- What is stored after entries with different keys were put into a table one by one. -/
theorem get?_foldl_insert {es : List (κ × α)} (distinct : es.Pairwise (fun a b => a.1 ≠ b.1))
    (t : Table κ α) (k : κ) (a : α) :
    (es.foldl (fun t e => t.insert e.1 e.2) t).get? k = some a ↔
      (k, a) ∈ es ∨ ((∀ e ∈ es, e.1 ≠ k) ∧ t.get? k = some a) := by
  induction es generalizing t with
  | nil => simp
  | cons e es ih =>
    obtain ⟨key, b⟩ := e
    obtain ⟨other, distinct⟩ := List.pairwise_cons.mp distinct
    rw [List.foldl_cons, ih distinct, get?_insert, List.mem_cons, Prod.mk.injEq,
      List.forall_mem_cons]
    dsimp only at other ⊢
    by_cases same : key = k
    · subst same
      have absent : (key, a) ∉ es := fun mem => other _ mem rfl
      have away : ∀ f ∈ es, f.1 ≠ key := fun f mem => (other f mem).symm
      rw [if_pos rfl]
      constructor
      · rintro (mem | ⟨_, new⟩)
        · exact absurd mem absent
        · exact .inl (.inl ⟨rfl, (Option.some.inj new).symm⟩)
      · rintro ((⟨_, rfl⟩ | mem) | ⟨⟨notKey, _⟩, _⟩)
        · exact .inr ⟨away, rfl⟩
        · exact absurd mem absent
        · exact absurd rfl notKey
    · rw [if_neg same]
      constructor
      · rintro (mem | ⟨away, old⟩)
        · exact .inl (.inr mem)
        · exact .inr ⟨⟨same, away⟩, old⟩
      · rintro ((⟨rfl, _⟩ | mem) | ⟨⟨_, away⟩, old⟩)
        · exact absurd rfl same
        · exact .inl mem
        · exact .inr ⟨away, old⟩

omit [DecidableEq κ] [DecidableLT κ] in
theorem distinct_keys (t : Table κ α) : t.toList.Pairwise (fun a b => a.1 ≠ b.1) := by
  refine t.ascending.imp fun {a b} before same => ?_
  rw [same] at before
  exact KeyOrder.irrefl _ before

omit [DecidableEq κ] [DecidableLT κ] in
theorem nodup_keys (t : Table κ α) : t.keys.Nodup :=
  List.pairwise_map.mpr t.distinct_keys

theorem ofList_toList (t : Table κ α) : ofList t.toList = t := by
  refine ext_get? fun k => Option.ext fun a => ?_
  rw [ofList, get?_foldl_insert t.distinct_keys, get?_empty, ← get?_eq_some_iff]
  simp

/-- In the table of a list of contents with their keys, the last content of a key stands under it. -/
theorem get?_ofList_map (key : α → κ) (as : List α) (k : κ) :
    (ofList (as.map fun a => (key a, a))).get? k = as.reverse.find? fun a => key a = k := by
  induction as using List.reverseRecOn with
  | nil => rfl
  | append_singleton as a ih =>
    have step : ofList ((as ++ [a]).map fun a => (key a, a)) =
        (ofList (as.map fun a => (key a, a))).insert (key a) a := by
      rw [List.map_append, ofList, List.foldl_append]
      rfl
    rw [step, get?_insert, ih, List.reverse_append, List.reverse_singleton, List.singleton_append,
      List.find?_cons]
    by_cases same : key a = k <;> simp [same]

theorem key_of_get?_ofList {key : α → κ} {as : List α} {k : κ} {a : α}
    (stored : (ofList (as.map fun a => (key a, a))).get? k = some a) : key a = k := by
  rw [get?_ofList_map] at stored
  have fits := List.find?_some stored
  exact of_decide_eq_true fits

theorem mem_values_ofList_iff {key : α → κ} {as : List α} {a : α} :
    a ∈ (ofList (as.map fun a => (key a, a))).values ↔
      as.reverse.find? (fun b => key b = key a) = some a := by
  rw [mem_values_iff, ← get?_ofList_map]
  constructor
  · rintro ⟨k, stored⟩
    obtain rfl := key_of_get?_ofList stored
    exact stored
  · exact fun stored => ⟨key a, stored⟩

omit [DecidableLT κ] in
theorem map_values_eq_keys {key : α → κ} {t : Table κ α}
    (keyed : ∀ {k a}, t.get? k = some a → key a = k) : t.values.map key = t.keys := by
  rw [values, keys, List.map_map]
  exact List.map_congr_left fun _ mem => keyed (get?_eq_some_iff.mpr mem)

omit [DecidableLT κ] in
/-- Contents that stand under their own keys are listed in the order of these keys. -/
theorem ascending_values {key : α → κ} {t : Table κ α}
    (keyed : ∀ {k a}, t.get? k = some a → key a = k) :
    t.values.Pairwise fun a b => key a < key b := by
  rw [← List.pairwise_map (R := (· < ·)), map_values_eq_keys keyed]
  exact List.pairwise_map.mpr t.ascending

omit [DecidableLT κ] in
/-- Tables in which the same contents stand under their own keys are equal. -/
theorem eq_of_mem_values_iff {key : α → κ} {t u : Table κ α}
    (keyed : ∀ {k a}, t.get? k = some a → key a = k)
    (keyed' : ∀ {k a}, u.get? k = some a → key a = k)
    (same : ∀ a, a ∈ t.values ↔ a ∈ u.values) : t = u := by
  refine ext_get? fun k => Option.ext fun a => ⟨fun stored => ?_, fun stored => ?_⟩
  · obtain ⟨k', stored'⟩ := mem_values_iff.mp ((same a).mp (mem_values_iff.mpr ⟨k, stored⟩))
    rwa [← keyed stored, keyed' stored']
  · obtain ⟨k', stored'⟩ := mem_values_iff.mp ((same a).mpr (mem_values_iff.mpr ⟨k, stored⟩))
    rwa [← keyed' stored, keyed stored']

/-- A table whose contents stand under their own keys is made from its contents alone. -/
theorem ofList_values {key : α → κ} {t : Table κ α}
    (keyed : ∀ {k a}, t.get? k = some a → key a = k) :
    ofList (t.values.map fun a => (key a, a)) = t := by
  have entries : t.values.map (fun a => (key a, a)) = t.toList.map id := by
    rw [values, List.map_map]
    refine List.map_congr_left fun entry mem => ?_
    exact Prod.ext (keyed (get?_eq_some_iff.mpr mem)) rfl
  rw [entries, List.map_id, ofList_toList]

end Table

namespace Data

variable {α : Type}

/-- A record is read as the table of its fields, which may stand in any order. -/
theorem asTable_map {write : α → Data} {read : Data → Option α}
    (readsBack : ∀ a, read (write a) = some a) (es : List (String × α)) :
    asTable read (.record (es.map fun e => (e.1, write e.2))) = some (Table.ofList es) := by
  have entries : (es.map fun e => (e.1, write e.2)).mapM
      (fun f => (read f.2).map fun a => (f.1, a)) = some es := by
    induction es with
    | nil => rfl
    | cons e es ih =>
      rw [List.map_cons, List.mapM_cons, ih, readsBack]
      rfl
  rw [asTable, entries]
  rfl

theorem asTable_ofTable {write : α → Data} {read : Data → Option α}
    (readsBack : ∀ a, read (write a) = some a) (t : Table String α) :
    asTable read (ofTable write t) = some t := by
  rw [ofTable, asTable_map readsBack, Table.ofList_toList]

theorem asTextTable_map (es : List (String × String)) :
    asTextTable (.record (es.map fun e => (e.1, .text e.2))) = some (Table.ofList es) :=
  @asTable_map String .text asText (fun _ => rfl) es

theorem asTextTable_ofTextTable (t : Table String String) :
    asTextTable (ofTextTable t) = some t :=
  @asTable_ofTable String .text asText (fun _ => rfl) t

theorem asListOf_map {write : α → Data} {read : Data → Option α}
    (readsBack : ∀ a, read (write a) = some a) (as : List α) :
    asListOf read (.list (as.map write)) = some as := by
  rw [asListOf, asList, Option.bind_some]
  induction as with
  | nil => rfl
  | cons a as ih =>
    rw [List.map_cons, List.mapM_cons, ih, readsBack]
    rfl

theorem asUInt32_toNat (n : UInt32) : asUInt32 (.int n.toNat) = some n := by
  have inRange : n.toNat < 4294967296 := n.toNat_lt
  show (if n.toNat < 4294967296 then some (UInt32.ofNat n.toNat) else none) = some n
  rw [if_pos inRange, UInt32.ofNat_toNat]

theorem asUInt64_toNat (n : UInt64) : asUInt64 (.int n.toNat) = some n := by
  have inRange : n.toNat < 18446744073709551616 := n.toNat_lt
  show (if n.toNat < 18446744073709551616 then some (UInt64.ofNat n.toNat) else none) = some n
  rw [if_pos inRange, UInt64.ofNat_toNat]

theorem plain_ofTable {write : α → Data} (plain : ∀ a, (write a).Plain) (t : Table String α) :
    (ofTable write t).Plain := by
  rw [ofTable, Plain, plainFields_iff]
  intro f mem
  obtain ⟨e, _, rfl⟩ := List.mem_map.mp mem
  exact plain e.2

theorem plain_list {write : α → Data} (plain : ∀ a, (write a).Plain) (as : List α) :
    (Data.list (as.map write)).Plain := by
  rw [Plain, plainItems_iff]
  intro d mem
  obtain ⟨a, _, rfl⟩ := List.mem_map.mp mem
  exact plain a

theorem plainFields_append {fs gs : List (String × Data)} :
    PlainFields (fs ++ gs) ↔ PlainFields fs ∧ PlainFields gs := by
  rw [plainFields_iff, plainFields_iff, plainFields_iff, List.forall_mem_append]

theorem plainFields_optionalField {write : α → Data} (plain : ∀ a, (write a).Plain) (name : String)
    (a : Option α) : PlainFields (optionalField name write a) := by
  cases a with
  | none => trivial
  | some a => exact ⟨plain a, trivial⟩

theorem holdable_ofTextTable (room : Nat) (t : Table String String) :
    (ofTextTable t).holdable (room + 1) = true := by
  simp [ofTextTable, ofTable, holdable]

theorem holdable_optionalText (room : Nat) (name : String) (s : Option String) :
    (optionalField name .text s).all (fun f => f.2.holdable room) = true := by
  cases s <;> simp [optionalField, holdable]

theorem plain_ofTextTable (t : Table String String) : (ofTextTable t).Plain :=
  @plain_ofTable _ .text (fun _ => trivial) t

end Data

end LineagePorts
