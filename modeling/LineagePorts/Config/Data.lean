import LineagePorts.Config.Basic
import LineagePorts.Data.Table

/-!
# Configuration as data

The record of a configuration, which both its JSON and its TOML text denote. Everything but the
user and the names of the sources may be left out.
-/

namespace LineagePorts

namespace StoreConfig

def toData : StoreConfig → Data
  | .memory => .record [("kind", .text "memory")]
  | .jsonFile path => .record [("kind", .text "json_file"), ("path", .text path)]

/-- A store in memory has no fields, so that a list of them must be empty. -/
def memoryOfFields : Data → Option StoreConfig
  | .record _ => some .memory
  | .list [] => some .memory
  | _ => none

def ofData (r : Reading) (d : Data) : Option StoreConfig := do
  let held ← r.hold d
  let (kind, fields) ← d.asTagged "kind"
  if kind = "memory" then memoryOfFields fields
  else if kind = "json_file" then
    let f ← held.fields ["path"] fields
    return .jsonFile (← f.required "path" Data.asText)
  else none

end StoreConfig

namespace SourceConfig

def toData (s : SourceConfig) : Data :=
  .record (("qualified_name", .text s.qualifiedName) ::
    Data.optionalField "authorized_users" (fun users => .list (users.map .text))
      s.authorizedUsers)

def ofData (r : Reading) (d : Data) : Option SourceConfig := do
  let f ← r.fields ["qualified_name", "authorized_users"] d
  return {
    qualifiedName := ← f.required "qualified_name" Data.asText
    authorizedUsers := ← f.optional "authorized_users" (Data.asListOf Data.asText) }

end SourceConfig

namespace ConnectionConfig

def toData (c : ConnectionConfig) : Data :=
  .record (
    Data.optionalField "connector_type" .text c.connectorType ++
    Data.optionalField "endpoint" .text c.endpoint ++
    if c.configurationProperties.isEmpty then []
    else [("configuration_properties", .ofTextTable c.configurationProperties)])

def ofData (r : Reading) (d : Data) : Option ConnectionConfig := do
  let f ← r.fields ["connector_type", "endpoint", "configuration_properties"] d
  return {
    connectorType := ← f.optional "connector_type" Data.asText
    endpoint := ← f.optional "endpoint" Data.asText
    configurationProperties :=
      ← f.orElse "configuration_properties" .empty Data.asTextTable }

end ConnectionConfig

namespace LineageConfig

def toData (l : LineageConfig) : Data :=
  .record (
    [("open_lineage_id", .int l.openLineageId.toInt)] ++
    Data.optionalField "open_lineage_name" .text l.openLineageName ++
    Data.optionalField "open_lineage_description" .text l.openLineageDescription ++
    Data.optionalField "lineage_server_url" .text l.lineageServerUrl ++
    Data.optionalField "lineage_server_type" .text l.lineageServerType ++
    Data.optionalField "in_topic_name" .text l.inTopicName ++
    Data.optionalField "in_topic" ConnectionConfig.toData l.inTopic)

def ofData (r : Reading) (d : Data) : Option LineageConfig := do
  let f ← r.fields ["open_lineage_id", "open_lineage_name", "open_lineage_description",
    "lineage_server_url", "lineage_server_type", "in_topic_name", "in_topic"] d
  return {
    openLineageId := ← f.orElse "open_lineage_id" 0 Data.asInt32
    openLineageName := ← f.optional "open_lineage_name" Data.asText
    openLineageDescription := ← f.optional "open_lineage_description" Data.asText
    lineageServerUrl := ← f.optional "lineage_server_url" Data.asText
    lineageServerType := ← f.optional "lineage_server_type" Data.asText
    inTopicName := ← f.optional "in_topic_name" Data.asText
    inTopic := ← f.optional "in_topic" (ConnectionConfig.ofData r.deeper) }

end LineageConfig

namespace Config

def toData (c : Config) : Data :=
  .record (
    [("user_id", .text c.userId),
     ("log_filter", .text c.logFilter),
     ("store", c.store.toData),
     ("external_sources", .list (c.externalSources.map SourceConfig.toData))] ++
    Data.optionalField "lineage" LineageConfig.toData c.lineage)

def ofData (r : Reading) (d : Data) : Option Config := do
  let f ← r.fields ["user_id", "log_filter", "store", "external_sources", "lineage"] d
  return {
    userId := ← f.required "user_id" Data.asText
    logFilter := ← f.orElse "log_filter" defaultFilter Data.asText
    store := ← f.orElse "store" .memory (StoreConfig.ofData r.deeper)
    externalSources := ← f.orElse "external_sources" []
      (Data.asListOf (SourceConfig.ofData r.deeper.deeper))
    lineage := ← f.optional "lineage" (LineageConfig.ofData r.deeper) }

end Config

end LineagePorts
