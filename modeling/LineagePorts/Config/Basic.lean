import LineagePorts.FileSystem.Path
import LineagePorts.Table
import LineagePorts.Text.Blank
import LineagePorts.Text.Quoted

/-!
# Configuration

What a deployment sets: the user that calls by default, the filter of the log, where the store is
kept, the external sources with their users, and the lineage server that the store feeds. A
configuration that was read is checked; the first value that will not do is reported.
-/

namespace LineagePorts

inductive StoreConfig where
  | memory
  | jsonFile (path : String)
deriving DecidableEq

structure SourceConfig where
  qualifiedName : String
  /-- The users that may act for the source; without a list every user may. -/
  authorizedUsers : Option (List String)
deriving DecidableEq

structure ConnectionConfig where
  connectorType : Option String
  endpoint : Option String
  configurationProperties : Table String String
deriving DecidableEq

structure LineageConfig where
  openLineageId : Int32
  openLineageName : Option String
  openLineageDescription : Option String
  lineageServerUrl : Option String
  lineageServerType : Option String
  inTopicName : Option String
  inTopic : Option ConnectionConfig
deriving DecidableEq

structure Config where
  userId : String
  logFilter : String
  store : StoreConfig
  externalSources : List SourceConfig
  lineage : Option LineageConfig
deriving DecidableEq

def Config.defaultFilter : String := "info"

/-- A value of a configuration that will not do. -/
inductive InvalidValue where
  | emptyUserId
  | emptyStorePath
  | blankSource (source : SourceConfig)
  | blankLineageUrl
deriving DecidableEq

inductive ConfigError where
  | unreadable (path : String)
  | malformed
  | invalid (value : InvalidValue)
deriving DecidableEq

namespace SourceConfig

/-- A source in a diagnostic. -/
def diagnostic (s : SourceConfig) : String :=
  let users := match s.authorizedUsers with
    | none => "None"
    | some users => "Some([" ++ ", ".intercalate (users.map Text.quoted) ++ "])"
  "ExternalSourceConfig \x7b qualified_name: " ++ Text.quoted s.qualifiedName ++
    ", authorized_users: " ++ users ++ " \x7d"

end SourceConfig

namespace InvalidValue

def field : InvalidValue → String
  | .emptyUserId => "user_id"
  | .emptyStorePath => "store.path"
  | .blankSource _ => "external_sources.qualified_name"
  | .blankLineageUrl => "lineage.lineage_server_url"

def reason : InvalidValue → String
  | .emptyUserId => "must not be empty"
  | .emptyStorePath => "must not be empty"
  | .blankSource s => "blank name in " ++ s.diagnostic
  | .blankLineageUrl => "must not be blank when set"

end InvalidValue

def ConfigError.message : ConfigError → String
  | .unreadable path => "cannot read config file " ++ path
  | .malformed => "invalid config"
  | .invalid value => "invalid config value for " ++ value.field ++ ": " ++ value.reason

namespace StoreConfig

def hasEmptyPath : StoreConfig → Bool
  | .memory => false
  | .jsonFile path => path.isEmpty

/-- Whether two settings keep the store at the same place. -/
def same : StoreConfig → StoreConfig → Bool
  | .memory, .memory => true
  | .jsonFile a, .jsonFile b => Path.same a b
  | _, _ => false

end StoreConfig

namespace ConnectionConfig

def default : ConnectionConfig := ⟨none, none, .empty⟩

end ConnectionConfig

namespace LineageConfig

def default : LineageConfig := ⟨0, none, none, none, none, none, none⟩

def hasBlankUrl (l : LineageConfig) : Bool := l.lineageServerUrl.any Text.isBlank

end LineageConfig

namespace Config

/-- The first value that will not do, in the order user, store path, sources, lineage server. -/
def invalidValue? (c : Config) : Option InvalidValue :=
  if Text.isBlank c.userId then some .emptyUserId
  else if c.store.hasEmptyPath then some .emptyStorePath
  else
    match c.externalSources.find? fun s => Text.isBlank s.qualifiedName with
    | some s => some (.blankSource s)
    | none => if c.lineage.any LineageConfig.hasBlankUrl then some .blankLineageUrl else none

def validate (c : Config) : Except ConfigError Unit :=
  match c.invalidValue? with
  | some value => .error (.invalid value)
  | none => .ok ()

/-- Whether two configurations say the same. Store paths are compared part by part. -/
def same (a b : Config) : Bool :=
  a.store.same b.store && { a with store := .memory } = { b with store := .memory }

end Config

end LineagePorts
