import LineagePorts.Config.Data
import LineagePorts.Proofs.Entity.Data

/-!
# Reading configurations back

Each part of a configuration is read back from its record as it was: absent, empty and filled lists
and tables stay apart. A whole configuration is, too, wherever among the first lines or the tables of
its text the list of sources stands.
-/

namespace LineagePorts

theorem Data.asInt32_toInt (n : Int32) : asInt32 (.int n.toInt) = some n := by
  have low := n.le_toInt
  have high := n.toInt_lt
  have inRange : -2147483648 ≤ n.toInt ∧ n.toInt ≤ 2147483647 := by omega
  simp [asInt32, asInt, inRange, Int32.ofInt_toInt]

theorem Data.names_optionalField {α : Type} (name : String) (write : α → Data) (a : Option α) :
    ((optionalField name write a).map Prod.fst).Sublist [name] := by
  cases a <;> simp [optionalField]

theorem Data.find?_optionalField {α : Type} (name other : String) (write : α → Data)
    (a : Option α) : (optionalField other write a).find? (fun e => e.1 = name) =
      if other = name then a.map fun x => (other, write x) else none := by
  cases a <;> by_cases same : other = name <;> simp [optionalField, same]

/-- A field that is there exactly if it has a value is read as that value or its absence. -/
theorem Fields.optional_of_find {α : Type} {f : Fields} {name : String} {read : Data → Option α}
    {write : α → Data} {a : Option α}
    (readsBack : ∀ x, Data.asOption read (write x) = some (some x))
    (found : f.find name = a.map write) : f.optional name read = some a := by
  rw [optional, orElse, found]
  cases a <;> simp [readsBack]

theorem Data.asListOf_texts (texts : List String) :
    asListOf asText (.list (texts.map .text)) = some texts :=
  @asListOf_map String .text asText (fun _ => rfl) texts

/-- Fields in any order, each known and given once, are read as they stand. -/
theorem Reading.fields_of_known {r : Reading} {names : List String} {fs : List (String × Data)}
    (distinct : (fs.map Prod.fst).Nodup) (known : ∀ f ∈ fs, f.1 ∈ names) :
    r.fields names (.record fs) = some ⟨fs⟩ := by
  have kept : fs.filter (fun f => f.1 ∈ names) = fs :=
    List.filter_eq_self.mpr fun f mem => decide_eq_true (known f mem)
  rw [fields, kept]
  exact if_pos distinct

theorem StoreConfig.ofData_toData {r : Reading} (enough : r.room.all (1 ≤ ·)) (c : StoreConfig) :
    ofData r c.toData = some c := by
  have held : r.hold c.toData = some { r with spareItems := false, held := true } := by
    refine Reading.hold_of_holdable 1 ?_ enough
    rintro (_ | room) fits
    · omega
    · cases c <;> simp [toData, Data.holdable]
  rw [ofData, held]
  cases c <;> rfl

theorem SourceConfig.ofData_toData (r : Reading) (s : SourceConfig) :
    ofData r s.toData = some s := by
  rw [ofData, toData, Reading.fields_of_sublist (by decide) ?known]
  case known =>
    cases s.authorizedUsers <;> simp [Data.optionalField]
  obtain ⟨qualifiedName, users⟩ := s
  cases users <;>
    simp [Fields.required, Fields.optional, Fields.orElse, Fields.find, Data.optionalField,
      Data.asText, Data.asOption, Data.asListOf_texts]

theorem ConnectionConfig.ofData_toData (r : Reading) (c : ConnectionConfig) :
    ofData r c.toData = some c := by
  rw [ofData, toData, Reading.fields_of_sublist (by decide) ?known]
  case known =>
    cases c.connectorType <;> cases c.endpoint <;> split <;> simp [Data.optionalField]
  obtain ⟨connectorType, endpoint, properties⟩ := c
  by_cases none : properties.isEmpty
  · obtain rfl : properties = .empty := Table.eq_empty_of_isEmpty none
    cases connectorType <;> cases endpoint <;>
      simp [none, Fields.optional, Fields.orElse, Fields.find, Data.optionalField, Data.asOption_text]
  · cases connectorType <;> cases endpoint <;>
      simp [none, Fields.optional, Fields.orElse, Fields.find, Data.optionalField,
        Data.asOption_text, Data.asTextTable_ofTextTable]

theorem ConnectionConfig.asOption_toData (r : Reading) (c : ConnectionConfig) :
    Data.asOption (ofData r) c.toData = some (some c) := by
  have read : Data.asOption (ofData r) c.toData = (ofData r c.toData).map some := rfl
  rw [read, ofData_toData, Option.map_some]

theorem LineageConfig.ofData_toData (r : Reading) (l : LineageConfig) :
    ofData r l.toData = some l := by
  rw [ofData, toData, Reading.fields_of_sublist (by decide) ?known]
  case known =>
    have optional {α : Type} := @Data.names_optionalField α
    simp only [List.map_append]
    exact (((((List.Sublist.refl ["open_lineage_id"]).append (optional _ _ _)).append
      (optional _ _ _)).append (optional _ _ _)).append (optional _ _ _)).append (optional _ _ _)
        |>.append (optional _ _ _)
  -- Each field is found on its own, whichever of the others are there.
  have id {fs : List (String × Data)}
      (given : Fields.find ⟨fs⟩ "open_lineage_id" = some (.int l.openLineageId.toInt)) :
      Fields.orElse ⟨fs⟩ "open_lineage_id" 0 Data.asInt32 = some l.openLineageId := by
    rw [Fields.orElse, given]
    exact Data.asInt32_toInt l.openLineageId
  have text {name : String} {fs : List (String × Data)} (s : Option String)
      (given : Fields.find ⟨fs⟩ name = s.map .text) :
      Fields.optional ⟨fs⟩ name Data.asText = some s :=
    Fields.optional_of_find Data.asOption_text given
  have topic {fs : List (String × Data)}
      (given : Fields.find ⟨fs⟩ "in_topic" = l.inTopic.map ConnectionConfig.toData) :
      Fields.optional ⟨fs⟩ "in_topic" (ConnectionConfig.ofData r.deeper) = some l.inTopic :=
    Fields.optional_of_find (ConnectionConfig.asOption_toData r.deeper) given
  simp only [Option.bind_eq_bind, Option.bind_some]
  rw [id, text l.openLineageName, text l.openLineageDescription, text l.lineageServerUrl,
    text l.lineageServerType, text l.inTopicName, topic]
  · rfl
  all_goals simp [Fields.find, Data.find?_optionalField, Function.comp_def]

theorem LineageConfig.asOption_toData (r : Reading) (l : LineageConfig) :
    Data.asOption (ofData r) l.toData = some (some l) := by
  have read : Data.asOption (ofData r) l.toData = (ofData r l.toData).map some := rfl
  rw [read, ofData_toData, Option.map_some]

namespace Config

/-- The fields of a configuration in the order of its text, where an empty list of sources comes
before all tables. -/
def writtenFields (c : Config) : List (String × Data) :=
  [("user_id", .text c.userId), ("log_filter", .text c.logFilter)] ++
    (if c.externalSources.isEmpty then [("external_sources", .list [])] else []) ++
    [("store", c.store.toData)] ++
    (if c.externalSources.isEmpty then []
      else [("external_sources", .list (c.externalSources.map SourceConfig.toData))]) ++
    Data.optionalField "lineage" LineageConfig.toData c.lineage

theorem ofData_writtenFields {r : Reading} (enough : r.deeper.room.all (1 ≤ ·)) (c : Config) :
    ofData r (.record c.writtenFields) = some c := by
  have store := StoreConfig.ofData_toData enough c.store
  have sources := Data.asListOf_map (SourceConfig.ofData_toData r.deeper.deeper) c.externalSources
  rw [ofData, Reading.fields_of_known ?distinct ?known]
  case distinct =>
    rw [writtenFields]
    cases c.lineage <;> split <;> simp [Data.optionalField]
  case known =>
    rw [writtenFields]
    cases c.lineage <;> split <;> simp [Data.optionalField]
  obtain ⟨userId, logFilter, storeConfig, externalSources, lineage⟩ := c
  cases externalSources <;> cases lineage <;>
    simp_all [writtenFields, Fields.required, Fields.optional, Fields.orElse, Fields.find,
      Data.optionalField, Data.asText, LineageConfig.asOption_toData]

end Config

end LineagePorts
