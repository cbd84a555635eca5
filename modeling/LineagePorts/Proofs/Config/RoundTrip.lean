import LineagePorts.Config.Toml
import LineagePorts.Proofs.Config.Data
import LineagePorts.Proofs.Toml.Tables

/-!
# Configurations survive their TOML text

The text of a configuration is read as its record, in which an absent list or table is left out, an
empty one is there, and a table that holds nothing but a table is there by its path alone. So the
configuration is read back as it was, and what is wrong with it is told as before.
-/

namespace LineagePorts

open Toml (Inline Section Layout Header Entries Origin Document Opens Lacks lineEntry lineField
  fieldsOf)

theorem map_lineField_optionalLine (key : String) (s : Option String) :
    (optionalLine key s).map lineField = Data.optionalField key .text s := by
  cases s <;> rfl

theorem names_optionalLine (key : String) (s : Option String) :
    ((optionalLine key s).map Prod.fst).Sublist [key] := by
  cases s <;> simp [optionalLine]

theorem fits_optionalLine {key : String} {s : Option String} {line : String × Inline}
    (mem : line ∈ optionalLine key s) : line.2.Fits := by
  cases s with
  | none => cases mem
  | some s =>
    rw [List.mem_singleton.mp mem]
    trivial

/-- Lines that can be written into one table. -/
structure Writable (lines : List (String × Inline)) : Prop where
  distinct : (lines.map Prod.fst).Nodup
  fits : ∀ line ∈ lines, line.2.Fits

theorem Writable.section {lines : List (String × Inline)} (writable : Writable lines) {h : Header}
    (named : h.path ≠ []) (short : h.path.length ≤ Toml.maxDepth) : Section.Fits ⟨h, lines⟩ :=
  ⟨named, short, writable.fits⟩

theorem StoreConfig.writable_lines (c : StoreConfig) : Writable c.lines := by
  cases c <;> constructor <;> simp [lines, Inline.Fits]

theorem StoreConfig.toData_eq_lines (c : StoreConfig) :
    c.toData = .record (c.lines.map lineField) := by
  cases c <;> rfl

theorem SourceConfig.writable_lines (s : SourceConfig) : Writable s.lines := by
  obtain ⟨name, users⟩ := s
  cases users <;> constructor <;> simp [lines, Inline.Fits]

theorem SourceConfig.toData_eq_lines (s : SourceConfig) :
    s.toData = .record (s.lines.map lineField) := by
  obtain ⟨name, users⟩ := s
  cases users <;> rfl

/-- The lines of a table of texts. -/
def textLines (t : Table String String) : List (String × Inline) :=
  t.toList.map fun e => (e.1, .text e.2)

theorem writable_textLines (t : Table String String) : Writable (textLines t) where
  distinct := by
    have keys : (textLines t).map Prod.fst = t.keys := by
      simp [textLines, Table.keys, Function.comp_def]
    rw [keys]
    exact t.nodup_keys
  fits := by
    intro line mem
    obtain ⟨e, _, rfl⟩ := List.mem_map.mp mem
    trivial

theorem map_lineField_textLines (t : Table String String) :
    Data.record ((textLines t).map lineField) = .ofTextTable t := by
  simp [textLines, Data.ofTextTable, Data.ofTable, lineField, Inline.toData]

namespace ConnectionConfig

variable (c : ConnectionConfig)

theorem names_lines : (c.lines.map Prod.fst).Sublist ["connector_type", "endpoint"] := by
  rw [lines, List.map_append]
  exact (names_optionalLine "connector_type" _).append (names_optionalLine "endpoint" _)

theorem writable_lines : Writable c.lines where
  distinct := List.Nodup.sublist c.names_lines (by decide)
  fits := by
    intro line mem
    rcases List.mem_append.mp mem with first | second
    · exact fits_optionalLine first
    · exact fits_optionalLine second

theorem toData_eq_lines :
    c.toData = .record (c.lines.map lineField ++
      if c.configurationProperties.isEmpty then []
      else [("configuration_properties", .ofTextTable c.configurationProperties)]) := by
  simp [toData, lines, map_lineField_optionalLine]

theorem sections_eq (path : List String) :
    c.sections path =
      (if c.lines.isEmpty && !c.configurationProperties.isEmpty then []
        else [⟨.table path, c.lines⟩]) ++
      if c.configurationProperties.isEmpty then []
      else [⟨.table (path ++ ["configuration_properties"]), textLines c.configurationProperties⟩] := by
  have same : (textLines c.configurationProperties).isEmpty = c.configurationProperties.isEmpty := by
    simp [textLines, Table.isEmpty]
  rw [← same]
  rfl

theorem fits_sections {path : List String} (named : path ≠ []) (short : path.length < Toml.maxDepth) :
    ∀ s ∈ c.sections path, s.Fits := by
  intro s mem
  rw [sections_eq] at mem
  rcases List.mem_append.mp mem with own | properties
  · split at own
    · cases own
    · rw [List.mem_singleton.mp own]
      exact c.writable_lines.section named (Nat.le_of_lt short)
  · split at properties
    · cases properties
    · rw [List.mem_singleton.mp properties]
      refine (writable_textLines _).section ?_ ?_
      · simp [Header.path]
      · rw [Header.path, List.length_append, List.length_singleton]
        exact short

theorem lacks_properties : Lacks (c.lines.map lineEntry) "configuration_properties" := by
  refine Toml.lacks_lines fun mem => ?_
  have known := c.names_lines.subset mem
  simp at known

/-- The table of the properties as an entry of the table of the connection. -/
def propertiesEntry : String × Toml.Node :=
  ("configuration_properties",
    .table .explicit ((textLines c.configurationProperties).map lineEntry))

/-- The table that a connection is read as. One that has nothing but properties is there by their
path alone. -/
def node : Toml.Node :=
  if c.configurationProperties.isEmpty then .table .explicit (c.lines.map lineEntry)
  else if c.lines = [] then .table .implied [c.propertiesEntry]
  else .table .explicit (c.lines.map lineEntry ++ [c.propertiesEntry])

theorem toData_node : c.node.toData = c.toData := by
  have properties : fieldsOf [c.propertiesEntry] =
      [("configuration_properties", .ofTextTable c.configurationProperties)] := by
    have table := map_lineField_textLines c.configurationProperties
    rw [← Toml.fieldsOf_lines] at table
    simp [fieldsOf, Toml.fieldOf, propertiesEntry, Toml.Node.toData, table]
  rw [node, toData_eq_lines]
  by_cases noProperties : c.configurationProperties.isEmpty = true
  · simp [noProperties, Toml.Node.toData, Toml.fieldsOf_lines]
  · by_cases noLines : c.lines = []
    · simp [noProperties, noLines, Toml.Node.toData, properties]
    · simp [noProperties, noLines, Toml.Node.toData, properties, Toml.fieldsOf_append,
        Toml.fieldsOf_lines]

theorem add_sections {path : List String} {origin : Origin} {fill : Entries → Entries}
    (opens : Opens path origin fill) {es : Entries} {key : String} (absent : Lacks es key)
    (current : List String) :
    ∃ last, ((c.sections (path ++ [key])).flatMap Section.statements).foldlM Document.add
      ⟨fill es, current⟩ = some ⟨fill (es ++ [(key, c.node)]), last⟩ := by
  have own := Toml.add_section opens absent c.writable_lines.distinct current
  have properties := (writable_textLines c.configurationProperties).distinct
  rw [sections_eq, node]
  by_cases noProperties : c.configurationProperties.isEmpty = true
  · refine ⟨path ++ [key], ?_⟩
    simpa [noProperties] using own
  · by_cases noLines : c.lines = []
    · have below := Toml.add_section_below opens absent "configuration_properties" properties current
      refine ⟨path ++ [key] ++ ["configuration_properties"], ?_⟩
      simpa [noProperties, noLines, propertiesEntry] using below
    · have inside := Toml.add_section (opens.table absent .explicit) c.lacks_properties properties
        (path ++ [key])
      refine ⟨path ++ [key] ++ ["configuration_properties"], ?_⟩
      simpa [noProperties, noLines, own, propertiesEntry] using inside

end ConnectionConfig

namespace LineageConfig

variable (l : LineageConfig)

theorem names_lines : (l.lines.map Prod.fst).Sublist ["open_lineage_id", "open_lineage_name",
    "open_lineage_description", "lineage_server_url", "lineage_server_type", "in_topic_name"] := by
  rw [lines]
  simp only [List.cons_append, List.map_cons, List.map_append]
  refine .cons_cons _ ?_
  exact ((((names_optionalLine _ _).append (names_optionalLine _ _)).append
    (names_optionalLine _ _)).append (names_optionalLine _ _)).append (names_optionalLine _ _)

theorem writable_lines : Writable l.lines where
  distinct := List.Nodup.sublist l.names_lines (by decide)
  fits := by
    intro line mem
    simp only [lines, List.cons_append, List.mem_cons, List.mem_append] at mem
    rcases mem with rfl | ((((name | description) | url) | type) | topic)
    · have low := l.openLineageId.le_toInt
      have high := l.openLineageId.toInt_lt
      simp only [Inline.Fits]
      omega
    all_goals exact fits_optionalLine ‹_›

theorem toData_eq_lines :
    l.toData = .record (l.lines.map lineField ++
      Data.optionalField "in_topic" ConnectionConfig.toData l.inTopic) := by
  simp [toData, lines, map_lineField_optionalLine, lineField, Inline.toData]

theorem lacks_inTopic : Lacks (l.lines.map lineEntry) "in_topic" := by
  refine Toml.lacks_lines fun mem => ?_
  have known := l.names_lines.subset mem
  simp at known

theorem fits_sections : ∀ s ∈ l.sections, s.Fits := by
  intro s mem
  rcases List.mem_cons.mp mem with rfl | topic
  · exact l.writable_lines.section (by simp [Header.path]) (by simp [Header.path, Toml.maxDepth])
  · cases connection : l.inTopic with
    | none =>
      rw [connection] at topic
      cases topic
    | some c =>
      rw [connection] at topic
      exact c.fits_sections (by simp) (by simp [Toml.maxDepth]) s topic

/-- The entries of the table that a lineage section is read as. -/
def entries : Entries :=
  l.lines.map lineEntry ++
    (l.inTopic.map fun c => ("in_topic", c.node)).toList

theorem toData_entries : (Toml.Node.table .explicit l.entries).toData = l.toData := by
  rw [toData_eq_lines, Toml.Node.toData, entries, Toml.fieldsOf_append, Toml.fieldsOf_lines]
  cases l.inTopic with
  | none => rfl
  | some c => simp [fieldsOf, Toml.fieldOf, Data.optionalField, c.toData_node]

theorem add_sections {es : Entries} (absent : Lacks es "lineage") (current : List String) :
    ∃ last, (l.sections.flatMap Section.statements).foldlM Document.add ⟨es, current⟩ =
      some ⟨es ++ [("lineage", .table .explicit l.entries)], last⟩ := by
  have own := Toml.add_section Toml.opens_root absent l.writable_lines.distinct current
  cases connection : l.inTopic with
  | none =>
    refine ⟨["lineage"], ?_⟩
    simpa [sections, entries, connection] using own
  | some c =>
    obtain ⟨last, inside⟩ := c.add_sections (Toml.opens_root.table absent .explicit) l.lacks_inTopic
      ["lineage"]
    refine ⟨last, ?_⟩
    simp only [List.nil_append, id_eq, List.singleton_append] at own inside
    simp [sections, entries, connection, own, inside]

end LineageConfig

namespace Config

variable (c : Config)

theorem writable_lines : Writable c.layout.lines := by
  by_cases none : c.externalSources.isEmpty = true <;> constructor <;>
    simp [layout, none, Inline.Fits]

theorem fits_sections : ∀ s ∈ c.layout.sections, s.Fits := by
  intro s mem
  rcases List.mem_append.mp mem with before | lineage
  · rcases List.mem_cons.mp before with rfl | source
    · exact c.store.writable_lines.section (by simp [Header.path])
        (by simp [Header.path, Toml.maxDepth])
    · obtain ⟨given, _, rfl⟩ := List.mem_map.mp source
      exact given.writable_lines.section (by simp [Header.path])
        (by simp [Header.path, Toml.maxDepth])
  · cases given : c.lineage with
    | none =>
      rw [given] at lineage
      cases lineage
    | some l =>
      rw [given] at lineage
      exact l.fits_sections s lineage

/-- The entries of the first lines and of the store. -/
def leadingEntries : Entries :=
  c.layout.lines.map lineEntry ++ [("store", .table .explicit (c.store.lines.map lineEntry))]

/-- The entry of the list of sources, which is not there when the list is empty. -/
def sourcesEntry : Entries :=
  if c.externalSources.isEmpty then []
  else [("external_sources",
    .tables ((c.externalSources.map SourceConfig.lines).map (·.map lineEntry)).reverse)]

/-- The entries of the document that the text of a configuration is read as. -/
def entries : Entries :=
  c.leadingEntries ++ c.sourcesEntry ++
    (c.lineage.map fun l => ("lineage", .table .explicit l.entries)).toList

theorem fieldsOf_entries : fieldsOf c.entries = c.writtenFields := by
  have first : c.layout.lines.map lineField =
      [("user_id", .text c.userId), ("log_filter", .text c.logFilter)] ++
        if c.externalSources.isEmpty then [("external_sources", .list [])] else [] := by
    by_cases none : c.externalSources.isEmpty = true <;>
      simp [layout, none, lineField, Inline.toData]
  have store : fieldsOf [("store", .table .explicit (c.store.lines.map lineEntry))] =
      [("store", c.store.toData)] := by
    simp [fieldsOf, Toml.fieldOf, Toml.Node.toData, Toml.fieldsOf_lines, c.store.toData_eq_lines]
  have sources : fieldsOf c.sourcesEntry =
      if c.externalSources.isEmpty then []
      else [("external_sources", .list (c.externalSources.map SourceConfig.toData))] := by
    rw [sourcesEntry]
    split
    · rfl
    · rw [fieldsOf, Toml.fieldOf, Toml.toData_tables, List.map_map]
      simp [fieldsOf, Function.comp_def, SourceConfig.toData_eq_lines]
  have lineage : fieldsOf (c.lineage.map fun l => ("lineage", .table .explicit l.entries)).toList =
      Data.optionalField "lineage" LineageConfig.toData c.lineage := by
    cases c.lineage with
    | none => rfl
    | some l => simp [fieldsOf, Toml.fieldOf, Data.optionalField, l.toData_entries]
  rw [entries, leadingEntries, Toml.fieldsOf_append, Toml.fieldsOf_append, Toml.fieldsOf_append,
    Toml.fieldsOf_lines, first, store, sources, lineage, writtenFields]

theorem lacks_store : Lacks (c.layout.lines.map lineEntry) "store" := by
  by_cases none : c.externalSources.isEmpty = true <;> simp [Lacks, layout, none, lineEntry]

theorem lacks_sources (some_source : c.externalSources ≠ []) :
    Lacks c.leadingEntries "external_sources" := by
  simp [Lacks, leadingEntries, layout, some_source, lineEntry]

theorem lacks_lineage : Lacks (c.leadingEntries ++ c.sourcesEntry) "lineage" := by
  by_cases none : c.externalSources.isEmpty = true <;>
    simp [Lacks, leadingEntries, sourcesEntry, layout, none, lineEntry]

/-- The sections of the sources in a row. -/
def sourceSections : List Section :=
  c.externalSources.map fun s => ⟨.item ["external_sources"], s.lines⟩

theorem add_sources (current : List String) :
    ∃ last, (c.sourceSections.flatMap Section.statements).foldlM Document.add
      ⟨c.leadingEntries, current⟩ = some ⟨c.leadingEntries ++ c.sourcesEntry, last⟩ := by
  cases given : c.externalSources with
  | nil => exact ⟨current, by simp [sourceSections, sourcesEntry, given]⟩
  | cons s ss =>
    have lacks := c.lacks_sources (by simp [given])
    have distinct : ∀ lines ∈ s.lines :: ss.map SourceConfig.lines,
        (lines.map Prod.fst).Nodup := by
      rw [← List.map_cons]
      intro lines mem
      obtain ⟨source, _, rfl⟩ := List.mem_map.mp mem
      exact source.writable_lines.distinct
    have items := Toml.add_items Toml.opens_root lacks distinct current
    refine ⟨["external_sources"], ?_⟩
    simpa [sourceSections, sourcesEntry, given, List.flatMap_map, Function.comp_def] using items

theorem add_layout :
    ∃ last, c.layout.statements.foldlM Document.add .empty = some ⟨c.entries, last⟩ := by
  have first : (c.layout.lines.map Toml.lineStatement).foldlM Document.add .empty =
      some ⟨c.layout.lines.map lineEntry, []⟩ :=
    Toml.add_lines Toml.opens_root (by decide) c.writable_lines.distinct
      fun line _ => Toml.lacks_nil line.1
  have store : (Section.statements ⟨.table ["store"], c.store.lines⟩).foldlM Document.add
      ⟨c.layout.lines.map lineEntry, []⟩ = some ⟨c.leadingEntries, ["store"]⟩ :=
    Toml.add_section Toml.opens_root c.lacks_store c.store.writable_lines.distinct []
  obtain ⟨afterSources, sources⟩ := c.add_sources ["store"]
  have sections : c.layout.sections = ⟨.table ["store"], c.store.lines⟩ ::
      (c.sourceSections ++ (c.lineage.map LineageConfig.sections).getD []) := rfl
  rw [Layout.statements, sections, List.flatMap_cons, List.flatMap_append]
  simp only [List.foldlM_append, first, store, sources, Option.bind_eq_bind, Option.bind_some]
  cases given : c.lineage with
  | none => exact ⟨afterSources, by simp [entries, given]⟩
  | some l =>
    obtain ⟨last, lineage⟩ := l.add_sections c.lacks_lineage afterSources
    exact ⟨last, by simpa [entries, given] using lineage⟩

theorem read_toToml : Toml.read c.toToml = some (.record c.writtenFields) := by
  obtain ⟨last, built⟩ := c.add_layout
  have told := Toml.says_layout c.writable_lines.fits c.fits_sections
  have noMark : Toml.dropByteOrderMark c.layout.write = c.layout.write := by
    obtain ⟨d, ds, split, starts⟩ := Toml.writeKey_starts "user_id"
    have notMark : d ≠ '\ufeff' := starts.ne (by decide)
    have whole : ∃ rest, c.layout.write = d :: rest := by
      simp [Layout.write, layout, Toml.writeLine, split]
    obtain ⟨rest, whole⟩ := whole
    rw [whole, Toml.dropByteOrderMark]
    simp [notMark]
  rw [Toml.read, toToml, String.toList_ofList, noMark, told.readLines built]
  simp [fieldsOf_entries]

theorem readToml_toToml : readToml c.toToml = .ok c := by
  rw [readToml, read_toToml, Option.bind_some, c.ofData_writtenFields rfl]

theorem ofToml_toToml : ofToml c.toToml = c.validate.map fun _ => c := by
  have steps : ofToml c.toToml =
      (readToml c.toToml).bind fun d => d.validate.bind fun _ => .ok d := rfl
  rw [steps, readToml_toToml]
  show (c.validate.bind fun _ => .ok c) = _
  cases c.validate <;> rfl

/-- A configuration is read back from its text if all its values will do, and otherwise exactly what
its own check reports is reported. -/
theorem survives_toml :
    (c.validate = .ok () ∧ ofToml c.toToml = .ok c) ∨
      ∃ value, c.validate = .error (.invalid value) ∧
        ofToml c.toToml = .error (.invalid value) := by
  have read := c.ofToml_toToml
  rw [read, validate]
  cases c.invalidValue? with
  | none => exact .inl ⟨rfl, rfl⟩
  | some value => exact .inr ⟨value, rfl, rfl⟩

end Config

end LineagePorts
