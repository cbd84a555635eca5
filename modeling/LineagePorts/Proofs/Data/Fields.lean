import LineagePorts.Data.Basic
import Mathlib.Data.List.Nodup
import Mathlib.Data.List.Perm.Basic

/-!
# Records and their readers

A reader that knows some names finds under each of them what the record says there, in whatever order
the fields come and whatever fields with other names stand among them. It finds nothing at all when a
name that it knows is given twice. What it passes over need not be read, but where a record is set aside
it must fit into the room that there is.
-/

namespace LineagePorts

namespace Data

section Room

mutual

/-- How many lists and records stand inside each other. -/
def depth : Data → Nat
  | .list items => depthItems items + 1
  | .record fields => depthFields fields + 1
  | _ => 0

def depthItems : List Data → Nat
  | [] => 0
  | d :: ds => max (depth d) (depthItems ds)

def depthFields : List (String × Data) → Nat
  | [] => 0
  | (_, d) :: fs => max (depth d) (depthFields fs)

end

mutual

/-- Every number is finite and every text is whole. -/
def Representable : Data → Prop
  | .real m e => isFiniteProduct m.natAbs e = true
  | .list items => RepresentableItems items
  | .record fields => RepresentableFields fields
  | .garbled => False
  | _ => True

def RepresentableItems : List Data → Prop
  | [] => True
  | d :: ds => Representable d ∧ RepresentableItems ds

def RepresentableFields : List (String × Data) → Prop
  | [] => True
  | (_, d) :: fs => Representable d ∧ RepresentableFields fs

end

mutual

theorem holdable_of_depth_le : (d : Data) → d.Representable → (room : Nat) → d.depth ≤ room →
    d.holdable room = true
  | .null, _, _, _ => by simp [holdable]
  | .bool _, _, _, _ => by simp [holdable]
  | .int _, _, _, _ => by simp [holdable]
  | .real _ _, finite, _, _ => by
    simp only [holdable]
    exact finite
  | .text _, _, _, _ => by simp [holdable]
  | .garbled, representable, _, _ => representable.elim
  | .list items, representable, room, fits => by
    rw [depth] at fits
    obtain ⟨room, rfl⟩ := Nat.exists_eq_add_of_le' (Nat.le_trans (Nat.le_add_left 1 _) fits)
    rw [holdable]
    exact holdable_items items representable room (Nat.le_of_succ_le_succ fits)
  | .record fields, representable, room, fits => by
    rw [depth] at fits
    obtain ⟨room, rfl⟩ := Nat.exists_eq_add_of_le' (Nat.le_trans (Nat.le_add_left 1 _) fits)
    rw [holdable]
    exact holdable_fields fields representable room (Nat.le_of_succ_le_succ fits)

theorem holdable_items : (ds : List Data) → RepresentableItems ds → (room : Nat) →
    depthItems ds ≤ room → ds.all (holdable room) = true
  | [], _, _, _ => rfl
  | d :: ds, representable, room, fits => by
    rw [depthItems, Nat.max_le] at fits
    rw [List.all_cons, holdable_of_depth_le d representable.1 room fits.1,
      holdable_items ds representable.2 room fits.2]
    rfl

theorem holdable_fields : (fs : List (String × Data)) → RepresentableFields fs → (room : Nat) →
    depthFields fs ≤ room → fs.all (fun f => f.2.holdable room) = true
  | [], _, _, _ => rfl
  | (_, d) :: fs, representable, room, fits => by
    rw [depthFields, Nat.max_le] at fits
    rw [List.all_cons, holdable_of_depth_le d representable.1 room fits.1,
      holdable_fields fs representable.2 room fits.2]
    rfl

end

end Room

/-- The fields of a record, or those of a list that gives them in the order of `names`. -/
def fieldsUnder (names : List String) : Data → List (String × Data)
  | .record fs => fs
  | .list items => names.zip items
  | _ => []

/-- A required field is missing, or a known one is given twice. -/
inductive Flawed (known required : List String) (d : Data) : Prop where
  | missing {name : String} (needed : name ∈ required)
      (absent : ∀ value, (name, value) ∉ d.fieldsUnder known)
  | twice {name : String} (isKnown : name ∈ known)
      (repeated : 2 ≤ ((d.fieldsUnder known).map Prod.fst).count name)

/-- A tag under a name, and the other fields of the record or the rest of the list. -/
inductive Tagged (name tag : String) : Data → Data → Prop where
  | record {fs : List (String × Data)} (given : (name, .text tag) ∈ fs) :
      Tagged name tag (.record fs) (.record (fs.filter fun f => f.1 ≠ name))
  | list (items : List Data) : Tagged name tag (.list (.text tag :: items)) (.list items)

/-- The fields `own` in any order, among further ones with names that are not known. -/
def Arranges (known : List String) (Allowed : Data → Prop) (own fs : List (String × Data)) : Prop :=
  ∃ further : List (String × Data),
    fs.Perm (own ++ further) ∧ ∀ f ∈ further, f.1 ∉ known ∧ Allowed f.2

theorem names_zip_sublist (names : List String) (items : List Data) :
    ((names.zip items).map Prod.fst).Sublist names := by
  induction names generalizing items with
  | nil => exact .refl _
  | cons name names ih =>
    cases items with
    | nil => exact List.nil_sublist _
    | cons d items => exact (ih items).cons_cons name

theorem count_names_filter (keep : String → Prop) [DecidablePred keep] {name : String}
    (kept : keep name) (fs : List (String × Data)) :
    ((fs.filter fun f => keep f.1).map Prod.fst).count name = (fs.map Prod.fst).count name := by
  have names : (fs.filter fun f => keep f.1).map Prod.fst =
      (fs.map Prod.fst).filter fun name => keep name := by
    rw [List.filter_map]
    rfl
  rw [names]
  exact List.count_filter (p := fun name => keep name) (decide_eq_true kept)

end Data

namespace Fields

theorem mem_of_find {f : Fields} {name : String} {value : Data} (found : f.find name = some value) :
    (name, value) ∈ f.entries := by
  obtain ⟨⟨key, value⟩, first, rfl⟩ := Option.map_eq_some_iff.mp found
  have named := List.find?_some first
  obtain rfl : key = name := of_decide_eq_true named
  exact List.mem_of_find?_eq_some first

theorem find_of_mem {f : Fields} (distinct : (f.entries.map Prod.fst).Nodup) {name : String}
    {value : Data} (mem : (name, value) ∈ f.entries) : f.find name = some value := by
  obtain ⟨e, first⟩ : ∃ e, f.entries.find? (fun e => e.1 = name) = some e := by
    rw [← Option.isSome_iff_exists, List.find?_isSome]
    exact ⟨(name, value), mem, decide_eq_true rfl⟩
  have named := List.find?_some first
  have same : e = (name, value) :=
    List.inj_on_of_nodup_map distinct (List.mem_of_find?_eq_some first) mem (of_decide_eq_true named)
  rw [find, first, same]
  rfl

/-- The order of fields with different names does not matter. -/
theorem find_perm {es fs : List (String × Data)} (perm : es.Perm fs)
    (distinct : (fs.map Prod.fst).Nodup) (name : String) :
    (Fields.mk es).find name = (Fields.mk fs).find name := by
  have distinct' : (es.map Prod.fst).Nodup := (perm.map Prod.fst).nodup_iff.mpr distinct
  apply Option.ext
  intro value
  constructor
  · intro found
    exact find_of_mem distinct (perm.mem_iff.mp (mem_of_find found))
  · intro found
    exact find_of_mem distinct' (perm.mem_iff.mpr (mem_of_find found))

end Fields

namespace Reading

variable {r : Reading} {known required : List String} {d : Data} {f : Fields}

theorem fields_eq_some (distinct : known.Nodup) (read : r.fields known d = some f) :
    f.entries = (d.fieldsUnder known).filter (fun e => e.1 ∈ known) ∧
      (f.entries.map Prod.fst).Nodup := by
  cases d with
  | record fs =>
    rw [fields] at read
    split at read
    · rename_i once
      cases read
      exact ⟨rfl, once⟩
    · cases read
  | list items =>
    rw [fields] at read
    split at read
    · cases read
      constructor
      · symm
        rw [Data.fieldsUnder, List.filter_eq_self]
        intro e mem
        exact decide_eq_true (List.of_mem_zip mem).1
      · exact distinct.sublist (Data.names_zip_sublist known items)
    · cases read
  | _ => cases read

/-- A record whose required fields are found is not flawed. -/
theorem not_flawed (distinct : known.Nodup) (read : r.fields known d = some f)
    (found : ∀ name ∈ required, (f.find name).isSome = true) : ¬ d.Flawed known required := by
  obtain ⟨entries, once⟩ := fields_eq_some distinct read
  intro flawed
  cases flawed with
  | missing needed absent =>
    obtain ⟨value, first⟩ := Option.isSome_iff_exists.mp (found _ needed)
    have mem := Fields.mem_of_find first
    rw [entries, List.mem_filter] at mem
    exact absent value mem.1
  | @twice name isKnown repeated =>
    have atMostOnce := List.nodup_iff_count_le_one.mp once name
    have all := Data.count_names_filter (· ∈ known) isKnown (d.fieldsUnder known)
    rw [← entries] at all
    omega

theorem find_of_mem_fieldsUnder (distinct : known.Nodup) (read : r.fields known d = some f)
    {name : String} {value : Data} (isKnown : name ∈ known)
    (given : (name, value) ∈ d.fieldsUnder known) : f.find name = some value := by
  obtain ⟨entries, once⟩ := fields_eq_some distinct read
  refine Fields.find_of_mem once ?_
  rw [entries, List.mem_filter]
  exact ⟨given, decide_eq_true isKnown⟩

end Reading

namespace Data

variable {name tag : String} {d rest : Data}

/-- Under a name that is read as a tag there is one text, and it is given once. -/
theorem tag_of_asTagged (read : d.asTagged name = some (tag, rest)) :
    (d.fieldsUnder [name]).filter (fun f => f.1 = name) = [(name, .text tag)] := by
  cases d with
  | record fs =>
    rw [Data.asTagged] at read
    split at read
    · rename_i key tag' once
      cases read
      have mem : (key, text tag) ∈ fs.filter fun f => f.1 = name := by
        rw [once, List.mem_singleton]
      obtain rfl : key = name := of_decide_eq_true (List.mem_filter.mp mem).2
      exact once
    · cases read
  | list items =>
    cases items with
    | nil => cases read
    | cons item items =>
      cases item with
      | text tag' =>
        cases read
        simp [fieldsUnder]
      | _ => cases read
  | _ => cases read

theorem eq_of_asTagged {value : Data} (read : d.asTagged name = some (tag, rest))
    (given : (name, value) ∈ d.fieldsUnder [name]) : value = .text tag := by
  have mem : (name, value) ∈ (d.fieldsUnder [name]).filter fun f => f.1 = name :=
    List.mem_filter.mpr ⟨given, decide_eq_true rfl⟩
  rw [tag_of_asTagged read, List.mem_singleton] at mem
  exact congrArg Prod.snd mem

theorem not_flawed_of_asTagged (read : d.asTagged name = some (tag, rest)) :
    ¬ d.Flawed [name] [name] := by
  have once := tag_of_asTagged read
  intro flawed
  cases flawed with
  | missing needed absent =>
    rw [List.mem_singleton.mp needed] at absent
    have mem : (name, text tag) ∈ (d.fieldsUnder [name]).filter fun f => f.1 = name := by
      rw [once, List.mem_singleton]
    exact absent _ (List.mem_filter.mp mem).1
  | twice isKnown repeated =>
    have all := count_names_filter (· = name) rfl (d.fieldsUnder [name])
    rw [once] at all
    rw [List.mem_singleton.mp isKnown, ← all] at repeated
    simp at repeated

theorem Tagged.eq_of_asTagged {tag' : String} {rest' : Data} (tagged : d.Tagged name tag rest)
    (read : d.asTagged name = some (tag', rest')) : tag' = tag ∧ rest' = rest := by
  cases tagged with
  | record given =>
    have same := Data.eq_of_asTagged read given
    rw [Data.asTagged] at read
    split at read
    · cases read
      exact ⟨(text.inj same).symm, rfl⟩
    · cases read
  | list items =>
    cases read
    exact ⟨rfl, rfl⟩

namespace Arranges

variable {known : List String} {Allowed : Data → Prop} {own fs : List (String × Data)}

/-- Known fields are found in whatever order they come and whatever else is there. -/
theorem fields_find (arranged : Arranges known Allowed own fs) (isKnown : ∀ f ∈ own, f.1 ∈ known)
    (distinct : (own.map Prod.fst).Nodup) (r : Reading) :
    ∃ f, r.fields known (.record fs) = some f ∧
      ∀ name, f.find name = (Fields.mk own).find name := by
  obtain ⟨further, perm, others⟩ := arranged
  have kept : (fs.filter fun f => f.1 ∈ known).Perm own := by
    have all : own.filter (fun f => f.1 ∈ known) = own :=
      List.filter_eq_self.mpr fun f mem => decide_eq_true (isKnown f mem)
    have none : further.filter (fun f => f.1 ∈ known) = [] :=
      List.filter_eq_nil_iff.mpr fun f mem known => (others f mem).1 (of_decide_eq_true known)
    have filtered := perm.filter fun f => f.1 ∈ known
    rwa [List.filter_append, all, none, List.append_nil] at filtered
  have once : ((fs.filter fun f => f.1 ∈ known).map Prod.fst).Nodup :=
    (kept.map Prod.fst).nodup_iff.mpr distinct
  exact ⟨_, if_pos once, Fields.find_perm kept distinct⟩

/-- A tag among the fields is taken out wherever it stands, and the other fields are left. -/
theorem asTagged (arranged : Arranges (name :: known) Allowed ((name, .text tag) :: own) fs)
    (others : ∀ f ∈ own, f.1 ≠ name) :
    (record fs).asTagged name = some (tag, .record (fs.filter fun f => f.1 ≠ name)) ∧
      Arranges known Allowed own (fs.filter fun f => f.1 ≠ name) := by
  obtain ⟨further, perm, unknown⟩ := arranged
  have notTag : ∀ f ∈ own ++ further, f.1 ≠ name := by
    intro f mem
    rcases List.mem_append.mp mem with mem | mem
    · exact others f mem
    · exact fun same => (unknown f mem).1 (same ▸ List.mem_cons_self)
  have tags : (fs.filter fun f => f.1 = name) = [(name, .text tag)] := by
    have none : (own ++ further).filter (fun f => f.1 = name) = [] :=
      List.filter_eq_nil_iff.mpr fun f mem same => notTag f mem (of_decide_eq_true same)
    have filtered := perm.filter fun f => f.1 = name
    rw [List.cons_append, List.filter_cons_of_pos (by simp), none] at filtered
    exact List.perm_singleton.mp filtered
  constructor
  · rw [Data.asTagged, tags]
  · have all : (own ++ further).filter (fun f => f.1 ≠ name) = own ++ further :=
      List.filter_eq_self.mpr fun f mem => decide_eq_true (notTag f mem)
    have filtered := perm.filter fun f => f.1 ≠ name
    rw [List.cons_append, List.filter_cons_of_neg (by simp), all] at filtered
    exact ⟨further, filtered, fun f mem =>
      ⟨fun isKnown => (unknown f mem).1 (List.mem_cons_of_mem _ isKnown), (unknown f mem).2⟩⟩

end Arranges

end Data

end LineagePorts
