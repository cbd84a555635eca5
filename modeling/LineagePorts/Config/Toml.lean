import LineagePorts.Config.Data
import LineagePorts.Toml.Writer

/-!
# Configuration in TOML

A configuration is written with its user and log filter first and a table for each other part. The
list of sources stands among the first lines when it is empty. A table that has nothing but a table
inside has no header of its own.
-/

namespace LineagePorts

open Toml (Inline Section Layout Header)

def optionalLine (key : String) : Option String → List (String × Inline)
  | none => []
  | some s => [(key, .text s)]

namespace StoreConfig

def lines : StoreConfig → List (String × Inline)
  | .memory => [("kind", .text "memory")]
  | .jsonFile path => [("kind", .text "json_file"), ("path", .text path)]

end StoreConfig

namespace SourceConfig

def lines (s : SourceConfig) : List (String × Inline) :=
  ("qualified_name", .text s.qualifiedName) ::
    (s.authorizedUsers.map fun users => ("authorized_users", Inline.texts users)).toList

end SourceConfig

namespace ConnectionConfig

def lines (c : ConnectionConfig) : List (String × Inline) :=
  optionalLine "connector_type" c.connectorType ++ optionalLine "endpoint" c.endpoint

def sections (c : ConnectionConfig) (path : List String) : List Section :=
  let properties := c.configurationProperties.toList.map fun e => (e.1, Inline.text e.2)
  let own : List Section :=
    if c.lines.isEmpty && !properties.isEmpty then [] else [⟨.table path, c.lines⟩]
  own ++
    if properties.isEmpty then []
    else [⟨.table (path ++ ["configuration_properties"]), properties⟩]

end ConnectionConfig

namespace LineageConfig

def lines (l : LineageConfig) : List (String × Inline) :=
  ("open_lineage_id", .integer l.openLineageId.toInt) ::
    optionalLine "open_lineage_name" l.openLineageName ++
    optionalLine "open_lineage_description" l.openLineageDescription ++
    optionalLine "lineage_server_url" l.lineageServerUrl ++
    optionalLine "lineage_server_type" l.lineageServerType ++
    optionalLine "in_topic_name" l.inTopicName

def sections (l : LineageConfig) : List Section :=
  ⟨.table ["lineage"], l.lines⟩ ::
    (l.inTopic.map fun c => c.sections ["lineage", "in_topic"]).getD []

end LineageConfig

namespace Config

def layout (c : Config) : Layout where
  lines :=
    [("user_id", .text c.userId), ("log_filter", .text c.logFilter)] ++
      if c.externalSources.isEmpty then [("external_sources", .texts [])] else []
  sections :=
    ⟨.table ["store"], c.store.lines⟩ ::
      (c.externalSources.map fun s => ⟨.item ["external_sources"], s.lines⟩) ++
      (c.lineage.map LineageConfig.sections).getD []

def toToml (c : Config) : String := String.ofList c.layout.write

def readToml (text : String) : Except ConfigError Config :=
  match (Toml.read text).bind (ofData .toml) with
  | some c => .ok c
  | none => .error .malformed

/-- The configuration that a TOML text denotes, if all its values will do. -/
def ofToml (text : String) : Except ConfigError Config := do
  let c ← readToml text
  c.validate
  return c

end Config

end LineagePorts
