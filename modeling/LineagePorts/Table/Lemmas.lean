import LineagePorts.Table

/-!
# What a table holds

Every operation on tables is told by what `get?` answers afterwards, and two tables that give the
same answers are equal.
-/

namespace LineagePorts.Table

variable {κ α : Type} [LT κ] [DecidableEq κ]

theorem lookup_eq_some_of_mem [KeyOrder κ] {k : κ} {a : α} {es : List (κ × α)}
    (h : es.Pairwise (fun a b => a.1 < b.1)) (mem : (k, a) ∈ es) : lookup k es = some a := by
  induction es with
  | nil => cases mem
  | cons e es ih =>
    rw [List.pairwise_cons] at h
    rw [lookup]
    rcases List.mem_cons.mp mem with rfl | mem
    · exact if_pos rfl
    · have other : e.1 ≠ k := fun same => KeyOrder.irrefl k (same ▸ h.1 (k, a) mem)
      rw [if_neg other]
      exact ih h.2 mem

omit [LT κ] in
theorem mem_of_lookup_eq_some {k : κ} {a : α} {es : List (κ × α)} (h : lookup k es = some a) :
    (k, a) ∈ es := by
  induction es with
  | nil => cases h
  | cons e es ih =>
    rw [lookup] at h
    split at h
    · rename_i same
      obtain rfl : e = (k, a) := Prod.ext same (Option.some.inj h)
      exact List.mem_cons_self
    · exact List.mem_cons_of_mem _ (ih h)

theorem get?_eq_some_iff [KeyOrder κ] {t : Table κ α} {k : κ} {a : α} :
    t.get? k = some a ↔ (k, a) ∈ t.toList :=
  ⟨mem_of_lookup_eq_some, lookup_eq_some_of_mem t.ascending⟩

theorem mem_values_iff [KeyOrder κ] {t : Table κ α} {a : α} :
    a ∈ t.values ↔ ∃ k, t.get? k = some a := by
  simp only [values, List.mem_map, get?_eq_some_iff]
  constructor
  · rintro ⟨⟨k, b⟩, mem, rfl⟩
    exact ⟨k, mem⟩
  · rintro ⟨k, mem⟩
    exact ⟨(k, a), mem, rfl⟩

@[simp] theorem get?_empty (k : κ) : (empty : Table κ α).get? k = none := rfl

omit [DecidableEq κ] in
theorem eq_empty_of_isEmpty {t : Table κ α} (nothing : t.isEmpty = true) : t = .empty :=
  ext (List.isEmpty_iff.mp nothing)

theorem get?_filter [KeyOrder κ] (t : Table κ α) (p : κ → α → Bool) (k : κ) :
    (t.filter p).get? k = (t.get? k).filter (p k) := by
  apply Option.ext
  intro a
  rw [Option.filter_eq_some_iff, get?_eq_some_iff, get?_eq_some_iff]
  exact List.mem_filter

theorem get?_erase [KeyOrder κ] (t : Table κ α) (k k' : κ) :
    (t.erase k).get? k' = if k' = k then none else t.get? k' := by
  rw [erase, get?_filter]
  cases t.get? k' with
  | none => simp
  | some a => by_cases same : k' = k <;> simp [same]

section Insert

variable [DecidableLT κ]

theorem lookup_place_self (k : κ) (a : α) (es : List (κ × α)) :
    lookup k (place k a es) = some a := by
  induction es with
  | nil => simp [place, lookup]
  | cons e es ih =>
    rw [place]
    split
    · simp [lookup]
    · split
      · simp [lookup]
      · rename_i other
        rw [lookup, if_neg other, ih]

theorem lookup_place_of_ne {k k' : κ} (h : k ≠ k') (a : α) (es : List (κ × α)) :
    lookup k' (place k a es) = lookup k' es := by
  induction es with
  | nil => simp [place, lookup, h]
  | cons e es ih =>
    rw [place]
    split
    · simp [lookup, h]
    · split
      · rename_i same
        simp [lookup, same, h]
      · rw [lookup, lookup, ih]

theorem get?_insert [KeyOrder κ] (t : Table κ α) (k k' : κ) (a : α) :
    (t.insert k a).get? k' = if k = k' then some a else t.get? k' := by
  by_cases same : k = k'
  · subst same
    rw [if_pos rfl]
    exact lookup_place_self k a t.toList
  · rw [if_neg same]
    exact lookup_place_of_ne same a t.toList

end Insert

omit [DecidableEq κ] in
/-- Lists in strictly ascending order with the same members are equal. -/
theorem eq_of_mem_iff [KeyOrder κ] {es fs : List (κ × α)}
    (he : es.Pairwise (fun a b => a.1 < b.1)) (hf : fs.Pairwise (fun a b => a.1 < b.1))
    (h : ∀ x, x ∈ es ↔ x ∈ fs) : es = fs := by
  induction es generalizing fs with
  | nil =>
    cases fs with
    | nil => rfl
    | cons f fs => exact absurd ((h f).mpr List.mem_cons_self) List.not_mem_nil
  | cons e es ih =>
    cases fs with
    | nil => exact absurd ((h e).mp List.mem_cons_self) List.not_mem_nil
    | cons f fs =>
      rw [List.pairwise_cons] at he hf
      have same : e = f := by
        rcases List.mem_cons.mp ((h e).mp List.mem_cons_self) with same | inF
        · exact same
        · rcases List.mem_cons.mp ((h f).mpr List.mem_cons_self) with same | inE
          · exact same.symm
          · exact absurd (KeyOrder.trans (he.1 f inE) (hf.1 e inF)) (KeyOrder.irrefl e.1)
      subst same
      refine congrArg (e :: ·) (ih he.2 hf.2 fun x => ⟨fun mem => ?_, fun mem => ?_⟩)
      · rcases List.mem_cons.mp ((h x).mp (List.mem_cons_of_mem _ mem)) with rfl | mem'
        · exact absurd (he.1 x mem) (KeyOrder.irrefl x.1)
        · exact mem'
      · rcases List.mem_cons.mp ((h x).mpr (List.mem_cons_of_mem _ mem)) with rfl | mem'
        · exact absurd (hf.1 x mem) (KeyOrder.irrefl x.1)
        · exact mem'

theorem ext_get? [KeyOrder κ] {a b : Table κ α} (h : ∀ k, a.get? k = b.get? k) : a = b := by
  refine ext (eq_of_mem_iff a.ascending b.ascending fun x => ?_)
  have same := h x.1
  constructor
  · intro mem
    exact get?_eq_some_iff.mp (same ▸ get?_eq_some_iff.mpr mem)
  · intro mem
    exact get?_eq_some_iff.mp (same ▸ get?_eq_some_iff.mpr mem)

end LineagePorts.Table
