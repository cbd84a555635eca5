/-!
# Tables in key order

A table is a finite map kept as a list of entries in strictly ascending key order, so that two
tables with the same entries are equal and listing one needs no sorting. What an operation does is
told by `get?`, and by `toList` where the order matters.
-/

namespace LineagePorts

/-- What is asked of the order of keys: it is strict and total. -/
class KeyOrder (κ : Type) [LT κ] : Prop where
  irrefl (a : κ) : ¬ a < a
  trans {a b c : κ} : a < b → b < c → a < c
  connected {a b : κ} : ¬ a < b → ¬ b < a → a = b

instance : KeyOrder String where
  irrefl := String.lt_irrefl
  trans := String.lt_trans
  connected h k := String.le_antisymm k h

instance : KeyOrder (List String) where
  irrefl := List.lt_irrefl
  trans := List.lt_trans
  connected h k := List.le_antisymm k h

structure Table (κ α : Type) [LT κ] where
  toList : List (κ × α)
  ascending : toList.Pairwise (fun a b => a.1 < b.1)

namespace Table

variable {κ α : Type} [LT κ]

theorem ascending_filter {p : κ × α → Bool} {es : List (κ × α)}
    (h : es.Pairwise (fun a b => a.1 < b.1)) : (es.filter p).Pairwise (fun a b => a.1 < b.1) :=
  h.sublist List.filter_sublist

def empty : Table κ α := ⟨[], .nil⟩

def isEmpty (t : Table κ α) : Bool := t.toList.isEmpty

def size (t : Table κ α) : Nat := t.toList.length

def keys (t : Table κ α) : List κ := t.toList.map Prod.fst

/-- The contents of the entries, by ascending key. -/
def values (t : Table κ α) : List α := t.toList.map Prod.snd

def filter (t : Table κ α) (p : κ → α → Bool) : Table κ α :=
  ⟨t.toList.filter (fun e => p e.1 e.2), ascending_filter t.ascending⟩

theorem ext {a b : Table κ α} (h : a.toList = b.toList) : a = b := by
  cases a
  cases b
  simpa using h

variable [DecidableEq κ]

instance [DecidableEq α] : DecidableEq (Table κ α) := fun a b =>
  decidable_of_iff (a.toList = b.toList) ⟨ext, (· ▸ rfl)⟩

/-- The first content stored under `k` in a list of entries. -/
def lookup (k : κ) : List (κ × α) → Option α
  | [] => none
  | e :: es => if e.1 = k then some e.2 else lookup k es

def get? (t : Table κ α) (k : κ) : Option α := lookup k t.toList

def contains (t : Table κ α) (k : κ) : Bool := (t.get? k).isSome

def erase (t : Table κ α) (k : κ) : Table κ α :=
  t.filter (fun key _ => key ≠ k)

variable [DecidableLT κ]

/-- Puts an entry in its place, in the stead of one with the same key. -/
def place (k : κ) (a : α) : List (κ × α) → List (κ × α)
  | [] => [(k, a)]
  | e :: es =>
    if k < e.1 then (k, a) :: e :: es
    else if e.1 = k then (k, a) :: es
    else e :: place k a es

theorem mem_place {k : κ} {a : α} {es : List (κ × α)} {x : κ × α} (h : x ∈ place k a es) :
    x = (k, a) ∨ x ∈ es := by
  induction es with
  | nil => simpa [place] using h
  | cons e es ih =>
    rw [place] at h
    split at h
    · simpa using h
    · split at h
      · rcases List.mem_cons.mp h with h | h
        · exact .inl h
        · exact .inr (List.mem_cons_of_mem _ h)
      · rcases List.mem_cons.mp h with h | h
        · exact .inr (h ▸ List.mem_cons_self)
        · exact (ih h).imp_right (List.mem_cons_of_mem _)

variable [KeyOrder κ]

theorem ascending_place {k : κ} {a : α} {es : List (κ × α)}
    (h : es.Pairwise (fun a b => a.1 < b.1)) : (place k a es).Pairwise (fun a b => a.1 < b.1) := by
  induction es with
  | nil => simp [place]
  | cons e es ih =>
    rw [List.pairwise_cons] at h
    rw [place]
    split
    · rename_i before
      refine List.pairwise_cons.mpr ⟨fun x hx => ?_, List.pairwise_cons.mpr h⟩
      rcases List.mem_cons.mp hx with rfl | hx
      · exact before
      · exact KeyOrder.trans before (h.1 x hx)
    · split
      · rename_i same
        exact List.pairwise_cons.mpr ⟨fun x hx => same ▸ h.1 x hx, h.2⟩
      · rename_i notBefore other
        refine List.pairwise_cons.mpr ⟨fun x hx => ?_, ih h.2⟩
        rcases mem_place hx with rfl | hx
        · exact Decidable.byContradiction fun notAfter =>
            other (KeyOrder.connected notAfter notBefore)
        · exact h.1 x hx

def insert (t : Table κ α) (k : κ) (a : α) : Table κ α :=
  ⟨place k a t.toList, ascending_place t.ascending⟩

/-- The table of a list of entries. Of several entries with one key the last one counts. -/
def ofList (es : List (κ × α)) : Table κ α :=
  es.foldl (fun t e => t.insert e.1 e.2) empty

end Table

end LineagePorts
